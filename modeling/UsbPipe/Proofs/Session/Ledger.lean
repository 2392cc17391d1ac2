/-
What the user of a session knows of its channels.

A channel has the interface that its open came back with.  It is open until it is closed, and
each of its timeouts is the one last set on it.  A ledger says so for every name, and is kept
by the replies to steps alone; the channels of the session are as the ledger says.

* `Ledger`, `Ledger.after`, `Ledger.afterAll`: the ledger, and what a step or a run makes of it.
* `Manager.known`: the channels on the table of a manager.
* `Session.held`: the channels that the user of a session keeps.
* `Session.Sound.held_update`, `held_dropChannel`, `held_keepChannel`: a change of one of them
  leaves the others alone.
-/
import Mathlib.Logic.Function.Basic
import UsbPipe.Proofs.Manager.TransferLog
import UsbPipe.Proofs.Session.Balance

namespace UsbPipe

open Usb

/-- The channels of a user, by name. -/
abbrev Ledger := String → Option Held

namespace Ledger

/-- The ledger with the channel under a name, if there is one, as `f` makes it. -/
def alter (l : Ledger) (name : String) (f : Held → Held) : Ledger :=
  Function.update l name ((l name).map f)

/-- What a step that came back with `reply` makes of the ledger. -/
def after (l : Ledger) (reply : Reply) : Step → Ledger
  | .open _ name | .openSlot _ _ name =>
    match reply with
    | .opened info => Function.update l name (some { info })
    | _ => l
  | .setTimeouts name read? write? =>
    l.alter name fun h =>
      { h with
        readTimeout := read?.getD h.readTimeout
        writeTimeout := write?.getD h.writeTimeout }
  | .close name => l.alter name fun h => { h with isOpen := false }
  | .dropChannel name => Function.update l name none
  | .shutdown dropping => fun name => if name ∈ dropping then none else l name
  | _ => l

/-- What a run, each step with what it came back with, makes of the ledger. -/
def afterAll (l : Ledger) (transcript : List (Step × Reply)) : Ledger :=
  transcript.foldl (fun l e => l.after e.2 e.1) l

lemma alter_of_none {l : Ledger} {name : String} (h : l name = none) (f : Held → Held) :
    l.alter name f = l := by
  rw [alter, h, Option.map_none, ← h, Function.update_eq_self]

end Ledger

/-! ### The table of a manager -/

namespace Manager

variable {m m' : Manager Bench Instance DeviceKey} {id : ℕ}

/-- The channel with an id, as its user knows it. -/
def known (m : Manager Bench Instance DeviceKey) (id : ℕ) : Option Held :=
  (m.channel? id).map Held.ofChannel

lemma known_congr (h : m'.channels = m.channels) : m'.known = m.known := by
  funext id
  rw [known, known, channel?, channel?, h]

/-- A change of the channel under an id. -/
lemma known_updateChannel {f : Channel Instance DeviceKey → Channel Instance DeviceKey}
    {g : Held → Held} (hid : ∀ c, (f c).id = c.id)
    (hg : ∀ c, Held.ofChannel (f c) = g (Held.ofChannel c)) (id : ℕ) :
    (m.updateChannel id f).known = Function.update m.known id ((m.known id).map g) := by
  funext other
  have hsame : ((·.id == other) ∘ fun c => if c.id = id then f c else c) =
      fun c : Channel Instance DeviceKey => c.id == other := by
    funext c
    simp only [Function.comp_apply]
    split_ifs
    · rw [hid]
    · rfl
  have hfind : (m.updateChannel id f).channel? other =
      (m.channel? other).map fun c => if c.id = id then f c else c := by
    rw [channel?, updateChannel, List.find?_map, hsame]
    rfl
  by_cases hother : other = id
  · subst hother
    rw [Function.update_self, known, hfind, known, Option.map_map, Option.map_map]
    refine Option.map_congr fun c hc => ?_
    simp only [Function.comp_apply, (channel?_mem hc).2, if_true, hg]
  · rw [Function.update_of_ne hother, known, hfind, known, Option.map_map]
    refine Option.map_congr fun c hc => ?_
    simp only [Function.comp_apply, (channel?_mem hc).2, hother, if_false]

@[simp] lemma known_setReadTimeout (id : ℕ) (t : Option Duration) :
    (m.setReadTimeout id t).known =
      Function.update m.known id ((m.known id).map fun h => { h with readTimeout := t }) :=
  known_updateChannel (f := fun c => { c with readTimeout := t }) (fun _ => rfl) (fun _ => rfl) id

@[simp] lemma known_setWriteTimeout (id : ℕ) (t : Option Duration) :
    (m.setWriteTimeout id t).known =
      Function.update m.known id ((m.known id).map fun h => { h with writeTimeout := t }) :=
  known_updateChannel (f := fun c => { c with writeTimeout := t }) (fun _ => rfl) (fun _ => rfl) id

/-- Timeouts set, both or one of them or none. -/
lemma known_setTimeouts (m : Manager Bench Instance DeviceKey) (id : ℕ)
    (read? write? : Option (Option Duration)) {m₁ m₂ : Manager Bench Instance DeviceKey}
    (hread : m₁ = match read? with | some t => m.setReadTimeout id t | none => m)
    (hwrite : m₂ = match write? with | some t => m₁.setWriteTimeout id t | none => m₁) :
    m₂.known = Function.update m.known id ((m.known id).map fun h =>
      { h with
        readTimeout := read?.getD h.readTimeout
        writeTimeout := write?.getD h.writeTimeout }) := by
  subst hread hwrite
  cases read? <;> cases write? <;> simp [Function.comp_def]

/-- A close, of a channel that is open or not. -/
lemma known_closeChannel {c : Channel Instance DeviceKey} (hc : m.channel? id = some c) :
    (m.closeChannel c).2.known =
      Function.update m.known id ((m.known id).map fun h => { h with isOpen := false }) := by
  obtain rfl := (channel?_mem hc).2
  have hchannels := channels_closeChannel (m := m) c
  split_ifs at hchannels with hclosed
  · have hknown : (m.known c.id).map (fun h => { h with isOpen := false }) = m.known c.id := by
      rw [known, hc]
      simp [Held.ofChannel, hclosed]
    rw [hknown, Function.update_eq_self]
    exact known_congr hchannels
  · rw [known_congr hchannels]
    exact known_updateChannel (f := emptied) (fun _ => rfl) (fun _ => rfl) c.id

lemma known_close (id : ℕ) : (m.close id).2.known =
    Function.update m.known id ((m.known id).map fun h => { h with isOpen := false }) := by
  rw [close]
  cases hc : m.channel? id with
  | none =>
      have hknown : m.known id = none := by rw [known, hc, Option.map_none]
      rw [hknown, Option.map_none, ← hknown, Function.update_eq_self]
  | some c => exact known_closeChannel hc

/-- A channel taken off the table. -/
lemma known_filter (h : m'.channels = m.channels.filter (·.id != id)) :
    m'.known = Function.update m.known id none := by
  funext other
  rw [known, channel?, h, List.find?_filter]
  by_cases hother : other = id
  · subst hother
    rw [Function.update_self, List.find?_eq_none.mpr fun c _ => by simp, Option.map_none]
  · rw [Function.update_of_ne hother, known, channel?]
    congr 2
    funext c
    by_cases hc : c.id = other
    · simp [hc, hother]
    · simp [hc]

@[simp] lemma known_dropChannel (id : ℕ) :
    (m.dropChannel id).known = Function.update m.known id none := by
  have hroster := roster_dropChannel (m := m) id
  cases hc : m.channel? id with
  | none =>
      have hknown : m.known id = none := by rw [known, hc, Option.map_none]
      rw [hc] at hroster
      rw [← hknown, Function.update_eq_self]
      exact known_congr (congrArg Roster.channels hroster)
  | some c =>
      rw [hc] at hroster
      have hfilter : (m.dropChannel id).channels =
          (m.closeChannel c).2.channels.filter (·.id != id) := congrArg Roster.channels hroster
      rw [known_filter hfilter, known_closeChannel hc, Function.update_idem]

/-- A channel added to the table. -/
lemma known_append {c : Channel Instance DeviceKey} (h : m'.channels = m.channels ++ [c])
    (hid : id ≠ c.id) : m'.known id = m.known id := by
  have hnew : [c].find? (·.id == id) = none := by simp [hid.symm]
  rw [known, channel?, h, List.find?_append, hnew, Option.or_none]
  rfl

end Manager

/-! ### The channels of a session -/

namespace Session

/-- The channels that the user of a session keeps, as the user knows them. -/
def held (s : Session Bench Instance DeviceKey) : Ledger := fun name =>
  (s.channel? name).map Held.ofChannel

variable {s t : Session Bench Instance DeviceKey} {E : List (Hold Instance)} {I : List ℕ}
variable {name other : String} {id : ℕ}

lemma held_eq (s : Session Bench Instance DeviceKey) (name : String) :
    s.held name = (s.channels.lookup name).bind s.manager.known := by
  rw [held, channel?, Option.map_bind]
  rfl

lemma held_of_lookup (h : s.channels.lookup name = some id) : s.held name = s.manager.known id := by
  rw [held_eq, h, Option.bind_some]

lemma held_of_lookup_eq_none (h : s.channels.lookup name = none) : s.held name = none := by
  rw [held_eq, h, Option.bind_none]

/-- Nothing is known of a channel that is missing. -/
lemma held_of_missing (h : s.channel? name = none) : s.held name = none := by
  rw [held, h, Option.map_none]

/-- The ledger of a session with the same names whose manager knows the same of the ids. -/
lemma held_congr (hnames : t.channels = s.channels)
    (hknown : ∀ name id, s.channels.lookup name = some id →
      t.manager.known id = s.manager.known id) : t.held = s.held := by
  funext name
  cases hl : s.channels.lookup name with
  | none => rw [held_of_lookup_eq_none (hnames ▸ hl), held_of_lookup_eq_none hl]
  | some id => rw [held_of_lookup (hnames ▸ hl), held_of_lookup hl, hknown name id hl]

/-- The channel under a name is the one with the id that the name is for. -/
lemma channel?_eq_some {c : Channel Instance DeviceKey} (h : s.channel? name = some c) :
    s.channels.lookup name = some c.id ∧ s.manager.channel? c.id = some c := by
  obtain ⟨id, hl, hc⟩ := Option.bind_eq_some_iff.mp h
  obtain rfl := (Manager.channel?_mem hc).2
  exact ⟨hl, hc⟩

namespace Sound

/-- No two names of a sound session are for one channel. -/
lemma ids_nodup (h : s.Sound E I) : (s.channels.map Prod.snd ++ I).Nodup :=
  h.named.nodup_iff.mpr h.balanced.ids_nodup

lemma lookup_ne (h : s.Sound E I) (hl : s.channels.lookup name = some id) {i : ℕ}
    (ho : s.channels.lookup other = some i) (hne : other ≠ name) : i ≠ id :=
  UsbPipe.lookup_ne h.ids_nodup.of_append_left hl ho hne

/-- No name is for the channel of an operation under way. -/
lemma lookup_ne_of_mem (h : s.Sound E I) {i : ℕ} (hi : i ∈ I)
    (hl : s.channels.lookup name = some id) : id ≠ i := by
  rintro rfl
  exact List.disjoint_of_nodup_append h.ids_nodup (List.mem_map_of_mem (mem_of_lookup hl)) hi

/-- A change of what is known of one channel is a change under its name. -/
lemma held_update (h : s.Sound E I) (hl : s.channels.lookup name = some id)
    (hnames : t.channels = s.channels) {value : Option Held}
    (hknown : t.manager.known = Function.update s.manager.known id value) :
    t.held = Function.update s.held name value := by
  funext other
  by_cases hother : other = name
  · subst hother
    rw [held_of_lookup (hnames ▸ hl), hknown, Function.update_self, Function.update_self]
  · rw [Function.update_of_ne hother]
    cases ho : s.channels.lookup other with
    | none => rw [held_of_lookup_eq_none (hnames ▸ ho), held_of_lookup_eq_none ho]
    | some i =>
        rw [held_of_lookup (hnames ▸ ho), held_of_lookup ho, hknown,
          Function.update_of_ne (h.lookup_ne hl ho hother)]

lemma held_dropChannel (h : s.Sound E I) (name : String) :
    (s.dropChannel name).2.held = Function.update s.held name none := by
  have hnames := channels_dropChannel s name
  funext other
  by_cases hother : other = name
  · subst hother
    rw [Function.update_self]
    exact held_of_lookup_eq_none (hnames ▸ lookup_filter_self s.channels other)
  · rw [Function.update_of_ne hother]
    have hlookup := lookup_filter_of_ne (Ne.symm hother) s.channels
    rw [← hnames] at hlookup
    cases hl : s.channels.lookup name with
    | none => rw [Session.dropChannel, hl]
    | some id =>
        have hmanager : (s.dropChannel name).2.manager = s.manager.dropChannel id := by
          rw [Session.dropChannel, hl]
        cases ho : s.channels.lookup other with
        | none => rw [held_of_lookup_eq_none (hlookup.trans ho), held_of_lookup_eq_none ho]
        | some i =>
            rw [held_of_lookup (hlookup.trans ho), held_of_lookup ho, hmanager,
              Manager.known_dropChannel, Function.update_of_ne (h.lookup_ne hl ho hother)]

/-- Names dropped one after the other. -/
lemma held_dropChannels (h : s.Sound E I) (names : List String) :
    (s.dropChannels names).held = fun name => if name ∈ names then none else s.held name := by
  induction names generalizing s with
  | nil => simp [Session.dropChannels]
  | cons name names ih =>
      refine (ih (h.dropChannel name)).trans ?_
      funext other
      rw [h.held_dropChannel]
      by_cases hother : other = name
      · simp [hother]
      · rw [Function.update_of_ne hother]
        simp [hother]

/-- A new channel kept under a name is the one under that name. -/
lemma held_keepChannel {c : Opened} (h : s.Sound E (c.id :: I)) (name : String) :
    (s.keepChannel name c).held = Function.update s.held name (s.manager.known c.id) := by
  have hdrop := h.held_dropChannel name
  have hnames := channels_dropChannel s name
  set d := (s.dropChannel name).2 with hd
  have hkeep : s.keepChannel name c = { d with channels := d.channels ++ [(name, c.id)] } := rfl
  have hlast : ∀ other, (s.keepChannel name c).channels.lookup other =
      (d.channels.lookup other).or ([(name, c.id)].lookup other) := fun other => by
    rw [hkeep]
    exact List.lookup_append
  funext other
  by_cases hother : other = name
  · subst hother
    have hl : (s.keepChannel other c).channels.lookup other = some c.id := by
      rw [hlast, hnames, lookup_filter_self, Option.none_or]
      simp
    rw [held_of_lookup hl, Function.update_self]
    show d.manager.known c.id = _
    rw [hd, Session.dropChannel]
    cases hl : s.channels.lookup other with
    | none => rfl
    | some id =>
        have hne := h.lookup_ne_of_mem (List.mem_cons_self ..) hl
        show (s.manager.dropChannel id).known c.id = _
        rw [Manager.known_dropChannel, Function.update_of_ne hne.symm]
  · rw [Function.update_of_ne hother]
    have hnew : [(name, c.id)].lookup other = none := by simp [hother]
    have hheld : (s.keepChannel name c).held other = d.held other := by
      rw [held_eq, held_eq]
      show ((s.keepChannel name c).channels.lookup other).bind d.manager.known = _
      rw [hlast, hnew, Option.or_none]
    rw [hheld, hdrop, Function.update_of_ne hother]

end Sound

end Session

end UsbPipe
