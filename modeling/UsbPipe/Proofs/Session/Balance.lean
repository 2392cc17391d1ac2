/-
The books of a session on the bench, whatever its user does.

A session is *sound* if the books of its manager are balanced for the records that its
user keeps, no native handle is spare, and the channels its user keeps are those on the
table of the manager.  Every step keeps a session sound, and so does every run.

* `Session.records`, `Session.handles`: what the user of a session keeps.
* `Session.Sound`: the invariant, with the holds and channels of an operation under way.
* `Sound.step`, `sound_run`: it holds after one step and after every run.
* `run_figures`: the figures of a session after any run.
* `Session.Cleared`: nothing is left, as after `Session.dropAll`.
-/
import UsbPipe.Proofs.Command.Balance
import UsbPipe.Proofs.Named
import UsbPipe.Proofs.Session.Frame

namespace UsbPipe

open Usb Manager

/-! ### Slots -/

/-- A slot that is emptied gives its record away. -/
lemma filterMap_set_perm {α : Type} {slots : List (Option α)} {i : ℕ} {a : α}
    (h : slots[i]? = some (some a)) :
    (slots.filterMap id).Perm (a :: (slots.set i none).filterMap id) := by
  induction slots generalizing i with
  | nil => simp at h
  | cons slot slots ih =>
      cases i with
      | zero =>
          have hslot : slot = some a := by simpa using h
          simp [hslot]
      | succ i =>
          have hrest := ih (i := i) (by simpa using h)
          cases slot with
          | none => simpa using hrest
          | some b => simpa using (hrest.cons b).trans (List.Perm.swap ..)

namespace Session

variable {σ δ η : Type} [Platform σ δ η]

/-! ### What the user keeps -/

/-- All records that the user keeps. -/
def records (s : Session σ δ η) : List (Found δ) := s.sets.flatMap fun e => e.2.filterMap id

/-- The channels that the user keeps, open or closed. -/
def handles (s : Session σ δ η) : List (Channel δ η) :=
  s.channels.filterMap fun e => s.manager.channel? e.2

/-- The channels that the user keeps and has not closed. -/
def openHandles (s : Session σ δ η) : List (Channel δ η) := s.handles.filter (!·.isClosed)

/-- A dropped channel is gone from the names. -/
lemma channels_dropChannel (s : Session σ δ η) (name : String) :
    (s.dropChannel name).2.channels = s.channels.filter (·.1 != name) := by
  rw [dropChannel]
  cases hl : s.channels.lookup name with
  | none => exact (filter_of_lookup_eq_none hl).symm
  | some id => rfl

/-- So is a dropped set. -/
lemma sets_dropSet (s : Session σ δ η) (name : String) :
    (s.dropSet name).2.sets = s.sets.filter (·.1 != name) := by
  rw [dropSet]
  cases hl : s.sets.lookup name with
  | none => exact (filter_of_lookup_eq_none hl).symm
  | some slots => rfl

/-- Channels stay under their names when a set is dropped. -/
lemma channels_dropSet (s : Session σ δ η) (name : String) :
    (s.dropSet name).2.channels = s.channels := by
  rw [dropSet]
  cases s.sets.lookup name <;> rfl

lemma channels_keepOrDiscard (s : Session σ δ η) (set? : Option String) (found : List (Found δ)) :
    (s.keepOrDiscard set? found).channels = s.channels := by
  cases set? with
  | some set => exact channels_dropSet s set
  | none => rfl

/-! ### Soundness -/

/-- The books are balanced for the records of the user and the holds `E` of an operation
under way, names are distinct, and the channels of the user and the ids `I` of an
operation under way are those on the table. -/
structure Sound (s : Session Bench Instance DeviceKey) (E : List (Hold Instance)) (I : List ℕ) :
    Prop where
  balanced : s.manager.Balanced (E ++ s.records.map Found.hold) 0
  sets_nodup : (s.sets.map Prod.fst).Nodup
  channels_nodup : (s.channels.map Prod.fst).Nodup
  named : (s.channels.map Prod.snd ++ I).Perm s.manager.channelIds

variable {s : Session Bench Instance DeviceKey} {E E' : List (Hold Instance)} {I I' : List ℕ}
variable {m : Manager Bench Instance DeviceKey}

namespace Sound

/-- Another manager, whose books and table are as they should be. -/
lemma withManager (h : s.Sound E I) (hb : m.Balanced (E' ++ s.records.map Found.hold) 0)
    (hids : m.channelIds = s.manager.channelIds ++ I') :
    (s.withManager m).Sound E' (I ++ I') where
  balanced := hb
  sets_nodup := h.sets_nodup
  channels_nodup := h.channels_nodup
  named := by
    show (s.channels.map Prod.snd ++ (I ++ I')).Perm m.channelIds
    rw [hids, ← List.append_assoc]
    exact h.named.append_right I'

/-- Another manager with the same table. -/
lemma of_ids (h : s.Sound E I) (hb : m.Balanced (E' ++ s.records.map Found.hold) 0)
    (hids : m.channelIds = s.manager.channelIds) : (s.withManager m).Sound E' I := by
  rw [← List.append_nil s.manager.channelIds] at hids
  simpa using h.withManager hb hids

/-- An operation that leaves the accounts alone. -/
lemma of_accounts (h : s.Sound E I) (ha : m.accounts = s.manager.accounts) :
    (s.withManager m).Sound E I :=
  h.of_ids (h.balanced.congr ha) (congrArg (·.channels.map Channel.id) ha)

/-- An operation on holds alone. -/
lemma of_bystanders (h : s.Sound E I) (hb : m.Balanced (E' ++ s.records.map Found.hold) 0)
    (hby : m.bystanders = s.manager.bystanders) : (s.withManager m).Sound E' I :=
  h.of_ids hb (channelIds_of_bystanders hby)

/-! ### Records -/

lemma dropSet (h : s.Sound E I) (set : String) : (s.dropSet set).2.Sound E I := by
  rw [Session.dropSet]
  cases hl : s.sets.lookup set with
  | none => exact h
  | some slots =>
      obtain ⟨l₁, l₂, heq, hne⟩ := lookup_split h.sets_nodup hl
      have hfilter : s.sets.filter (·.1 != set) = l₁ ++ l₂ := heq ▸ filter_split hne
      -- the records of the set come to the front
      have hperm : s.records.Perm
          (slots.filterMap id ++ (l₁ ++ l₂).flatMap fun e => e.2.filterMap id) := by
        rw [records, heq, List.flatMap_append, List.flatMap_cons, List.flatMap_append]
        exact List.perm_append_comm_assoc _ _ _
      refine ⟨?_, nodup_names_filter h.sets_nodup _, h.channels_nodup, ?_⟩
      · show (s.manager.discard _).Balanced (E ++ List.map Found.hold
          (List.flatMap _ (s.sets.filter (·.1 != set)))) 0
        rw [hfilter]
        refine Balanced.discard (h.balanced.perm ?_)
        refine ((hperm.map Found.hold).append_left E).trans ?_
        rw [List.map_append]
        exact List.perm_append_comm_assoc _ _ _
      · show (s.channels.map Prod.snd ++ I).Perm (s.manager.discard _).channelIds
        rw [channelIds_of_bystanders (bystanders_discard _)]
        exact h.named

lemma keepSet {found : List (Found Instance)} (h : s.Sound (found.map Found.hold ++ E) I)
    (set : String) : (s.keepSet set found).Sound E I := by
  have hdrop := h.dropSet set
  rw [Session.keepSet]
  refine ⟨?_, ?_, hdrop.channels_nodup, hdrop.named⟩
  · refine hdrop.balanced.perm ?_
    have hrec : records { (s.dropSet set).2 with
        sets := (s.dropSet set).2.sets ++ [(set, found.map some)] } =
          (s.dropSet set).2.records ++ found := by
      simp [records, List.flatMap_append, List.filterMap_map]
    rw [hrec, List.map_append, List.append_assoc]
    refine List.perm_append_comm.trans ?_
    rw [List.append_assoc]
  · have hkeep : (s.dropSet set).2.sets.filter (·.1 != set) = (s.dropSet set).2.sets := by
      simp [sets_dropSet, List.filter_filter]
    have hnd := nodup_names_append hdrop.sets_nodup set (found.map some)
    rwa [hkeep] at hnd

lemma keepOrDiscard {found : List (Found Instance)} (h : s.Sound (found.map Found.hold ++ E) I)
    (set? : Option String) : (s.keepOrDiscard set? found).Sound E I := by
  cases set? with
  | some set => exact h.keepSet set
  | none =>
      have hb := h.balanced
      rw [List.append_assoc] at hb
      exact h.of_bystanders hb.discard (bystanders_discard found)

lemma releaseSlot (h : s.Sound E I) {set : String} {index : ℕ} {f : Found Instance}
    (hf : s.slot? set index = some f) : (s.releaseSlot set index f).Sound E I := by
  obtain ⟨slots, hl, hslot⟩ := Option.bind_eq_some_iff.mp hf
  obtain ⟨l₁, l₂, heq, hne⟩ := lookup_split h.sets_nodup hl
  have hmap : (s.sets.map fun (name, slots) =>
      if name = set then (name, slots.set index none) else (name, slots)) =
        l₁ ++ (set, slots.set index none) :: l₂ := by
    have hkeep : ∀ l : List (String × List (Option (Found Instance))), (∀ e ∈ l, e.1 ≠ set) →
        (l.map fun (name, slots) =>
          if name = set then (name, slots.set index none) else (name, slots)) = l := by
      intro l hl'
      exact (List.map_congr_left fun e he => if_neg (hl' e he)).trans l.map_id
    rw [heq, List.map_append, List.map_cons, hkeep l₁ fun e he => hne e (List.mem_append_left _ he),
      hkeep l₂ fun e he => hne e (List.mem_append_right _ he)]
    simp only [if_true]
  have hperm : s.records.Perm (f :: (s.releaseSlot set index f).records) := by
    show s.records.Perm (f :: List.flatMap _ (s.sets.map _))
    rw [hmap, records, heq, List.flatMap_append, List.flatMap_append, List.flatMap_cons,
      List.flatMap_cons]
    have hset := filterMap_set_perm (Option.join_eq_some_iff.mp hslot)
    exact ((hset.append_right _).append_left _).trans List.perm_middle
  refine ⟨?_, ?_, h.channels_nodup, ?_⟩
  · have hb := h.balanced.perm (((hperm.map Found.hold).append_left E).trans List.perm_middle)
    exact hb.release
  · show ((s.sets.map _).map Prod.fst).Nodup
    have hnd := h.sets_nodup
    rw [heq, List.map_append, List.map_cons] at hnd
    rwa [hmap, List.map_append, List.map_cons]
  · show (s.channels.map Prod.snd ++ I).Perm (s.manager.release f.hold).channelIds
    rw [channelIds_of_bystanders (bystanders_release f.hold)]
    exact h.named

/-! ### Channels -/

lemma dropChannel (h : s.Sound E I) (name : String) : (s.dropChannel name).2.Sound E I := by
  rw [Session.dropChannel]
  cases hl : s.channels.lookup name with
  | none => exact h
  | some id =>
      obtain ⟨l₁, l₂, heq, hne⟩ := lookup_split h.channels_nodup hl
      have hfilter : s.channels.filter (·.1 != name) = l₁ ++ l₂ := heq ▸ filter_split hne
      refine ⟨h.balanced.dropChannel id, h.sets_nodup, nodup_names_filter h.channels_nodup _, ?_⟩
      show ((s.channels.filter (·.1 != name)).map Prod.snd ++ I).Perm
        (s.manager.dropChannel id).channelIds
      -- the id of the name is on the table once, and goes with the channel
      have hperm : (id :: ((l₁ ++ l₂).map Prod.snd ++ I)).Perm s.manager.channelIds := by
        refine List.Perm.trans ?_ h.named
        rw [heq, List.map_append, List.map_append, List.map_cons, List.append_assoc,
          List.append_assoc, List.cons_append]
        exact List.perm_middle.symm
      have hnd := hperm.nodup_iff.mpr h.balanced.ids_nodup
      rw [hfilter, channelIds_dropChannel]
      have hfilt := hperm.filter (· != id)
      rw [List.filter_cons_of_neg (by simp)] at hfilt
      have hne : ∀ x ∈ (l₁ ++ l₂).map Prod.snd ++ I, x ≠ id := by
        rintro x hx rfl
        exact (List.nodup_cons.mp hnd).1 hx
      rwa [filter_ne_eq_self hne] at hfilt

lemma keepChannel {c : Opened} (h : s.Sound E (c.id :: I)) (name : String) :
    (s.keepChannel name c).Sound E I := by
  have hdrop := h.dropChannel name
  rw [Session.keepChannel]
  refine ⟨hdrop.balanced, hdrop.sets_nodup, ?_, ?_⟩
  · have hkeep : (s.dropChannel name).2.channels.filter (·.1 != name) =
        (s.dropChannel name).2.channels := by
      simp [channels_dropChannel, List.filter_filter]
    have hnd := nodup_names_append hdrop.channels_nodup name c.id
    rwa [hkeep] at hnd
  · show (((s.dropChannel name).2.channels ++ [(name, c.id)]).map Prod.snd ++ I).Perm
      (s.dropChannel name).2.manager.channelIds
    rw [List.map_append, List.append_assoc]
    exact hdrop.named

lemma dropChannels (h : s.Sound E I) (names : List String) : (s.dropChannels names).Sound E I := by
  induction names generalizing s with
  | nil => exact h
  | cons name names ih => exact ih (h.dropChannel name)

lemma dropSets (h : s.Sound E I) (names : List String) :
    (names.foldl (fun s name => (s.dropSet name).2) s).Sound E I := by
  induction names generalizing s with
  | nil => exact h
  | cons name names ih => exact ih (h.dropSet name)

lemma dropAll (h : s.Sound E I) : s.dropAll.Sound E I := (h.dropChannels _).dropSets _

end Sound

end Session

/-! ### Steps -/

namespace BenchSession

open Session

variable {s : BenchSession} {m : Manager Bench Instance DeviceKey}

/-- All that a session does during a claim is a shutdown. -/
lemma meanwhile_onlyShutdown (s : BenchSession) : OnlyShutdown s.meanwhile := by
  intro m
  rw [meanwhile]
  split_ifs
  · exact Or.inr (Or.inr rfl)
  · exact Or.inl rfl

/-- The books of a session between its steps. -/
def Sound (s : BenchSession) : Prop := s.toSession.Sound [] []

namespace Sound

/-- A step whose outcome is the manager after an operation that leaves the accounts alone. -/
lemma setManager (h : s.Sound) (ha : m.accounts = s.manager.accounts) : (s.setManager m).Sound :=
  Session.Sound.of_accounts h ha

lemma openAs (h : s.Sound) (info : RawInterface) (name : String) :
    (s.openAs info name).2.Sound := by
  have hm := s.meanwhile_onlyShutdown
  have hopen := h.balanced.openWith hm.accounts_eq info
  rw [BenchSession.openAs]
  rcases ho : s.manager.openWith s.meanwhile info with ⟨_ | c, m₁⟩ <;> rw [ho] at hopen
  · exact Session.Sound.of_ids h hopen (channelIds_openWith_error hm ho)
  · exact (Session.Sound.withManager h hopen (channelIds_openWith_ok hm ho)).keepChannel name

lemma enumerateTurns (h : s.Sound) (filter : Filter) (n : ℕ) :
    (s.setManager (enumerateTurns filter n s.manager).2).Sound := by
  induction n generalizing s with
  | zero => exact h
  | succ n ih =>
      have henum := h.balanced.enumerate filter
      have hby := bystanders_enumerate (m := s.manager) filter
      rw [BenchSession.enumerateTurns]
      rcases he : s.manager.enumerate filter with ⟨_ | found, m₁⟩ <;> rw [he] at henum hby
      · exact ih (s := s.setManager m₁) (Session.Sound.of_bystanders h henum hby)
      · exact ih (s := s.setManager (m₁.discard found)) (Session.Sound.of_bystanders h
          henum.discard ((bystanders_discard found).trans hby))

lemma shutdownDropping (h : s.Sound) (dropping : List String) :
    (s.shutdownDropping dropping).2.Sound :=
  keeps_shutdownDropping h (fun _ names h => Session.Sound.dropChannels h names)
    (fun _ h => h.setManager accounts_beginShutdown) (fun _ h => h.setManager accounts_teardown)
    (fun _ h => h.setManager rfl) dropping

/-- Every step keeps the books of a session. -/
theorem step (h : s.Sound) (step : Step) : (s.step step).2.Sound := by
  cases step with
  | attach spec => exact h.setManager rfl
  | unplug key => exact h.setManager rfl
  | fail fault => exact h.setManager rfl
  | script pipe behaviour => exact h.setManager rfl
  | pushRead pipe chunk => exact h.setManager rfl
  | scan filter keep? =>
      have hscan := Session.Sound.of_bystanders h (h.balanced.scan filter) (bystanders_scan filter)
      rw [← List.append_nil (List.map _ _)] at hscan
      exact hscan.keepOrDiscard keep?
  | enumerate filter keep? =>
      have henum := Session.Sound.of_bystanders h (h.balanced.enumerate filter)
        (bystanders_enumerate filter)
      rw [BenchSession.step]
      rcases he : s.manager.enumerate filter with ⟨_ | found, m₁⟩ <;> rw [he] at henum
      · exact henum
      · rw [← List.append_nil (holdsOf _ _)] at henum
        exact henum.keepOrDiscard keep?
  | enumerateAtOnce count filter => exact (h.enumerateTurns filter count).setManager rfl
  | showHold slot => exact keeps_onSlot h fun _ _ => h
  | sameDevice a b => exact keeps_onSlot h fun _ _ => keeps_onSlot h fun _ _ => h
  | nativeOpen slot =>
      refine keeps_onSlot h fun f _ => ?_
      rcases native_openDevice (m := s.manager) f.hold.device with ⟨e, ho⟩ | ho
      · rw [ho]; exact h
      · rw [ho]
        have hclose := h.balanced.handOut.closeHandle f.hold.device.spec.key
        exact Session.Sound.of_ids h hclose rfl
  | release slot =>
      exact keeps_onSlot h fun f hf => Session.Sound.releaseSlot h hf
  | dropSet set => exact Session.Sound.dropSet h set
  | refs key => exact h
  | claimed key interface => exact h
  | «open» info name => exact h.openAs info name
  | openSlot slot change name =>
      exact keeps_onSlot h fun f _ => h.openAs (change f.info) name
  | write name data => exact keeps_write h fun id => h.setManager (accounts_write id data)
  | watchedWrite name data =>
      exact keeps_watchedWrite h fun id => h.setManager (accounts_write id data)
  | read name length => exact keeps_read h fun id limit => h.setManager (accounts_receive id limit)
  | setTimeouts name read? write? =>
      exact keeps_setTimeouts h
        (fun s h id t => Session.Sound.of_ids h (h.balanced.setReadTimeout id t) (by simp))
        fun s h id t => Session.Sound.of_ids h (h.balanced.setWriteTimeout id t) (by simp)
  | close name =>
      refine keeps_onChannel h fun c _ => ?_
      exact Session.Sound.of_ids h (h.balanced.close c.id) (channelIds_close c.id)
  | showChannel name => exact keeps_onChannel h fun _ _ => h
  | dropChannel name => exact Session.Sound.dropChannel h name
  | shutdownDuringClaim => exact h
  | shutdown dropping => exact h.shutdownDropping dropping
  | shutdownNow => exact h.setManager accounts_shutdownNow
  | transfers => exact h
  | list filter json limit? =>
      exact Session.Sound.of_ids h (h.balanced.listInterfaces filter json _) (by simp)
  | exchange request limit? =>
      have hex := h.balanced.exchangeWith s.meanwhile_onlyShutdown request { room? := limit? }
      exact Session.Sound.of_ids h hex.1 hex.2

end Sound

/-- A session that has not begun is sound. -/
lemma sound_fresh : fresh.Sound where
  balanced :=
    { stocked := ⟨Pool.backs_nil, by simp [fresh, ofPlatform], List.Perm.nil, rfl⟩
      ids_nodup := List.nodup_nil
      id_le := by simp [fresh, ofPlatform, channelIds]
      registered_eq := rfl
      paired := by simp [fresh, ofPlatform]
      opens_eq := rfl }
  sets_nodup := List.nodup_nil
  channels_nodup := List.nodup_nil
  named := List.Perm.nil

/-- Every run keeps the books of a session. -/
theorem Sound.run (h : s.Sound) (steps : List Step) : (s.run steps).Sound := by
  induction steps generalizing s with
  | nil => exact h
  | cons step steps ih => exact ih (h.step step)

lemma sound_run (steps : List Step) : (fresh.run steps).Sound := sound_fresh.run steps

end BenchSession

/-! ### The figures -/

namespace Session

variable {s : Session Bench Instance DeviceKey}

/-- The channels the user keeps are those on the table. -/
lemma Sound.handles_perm (h : s.Sound [] []) : s.handles.Perm s.manager.channels := by
  have hfind : ∀ c ∈ s.manager.channels, s.manager.channel? c.id = some c := by
    intro c hc
    obtain ⟨d, hd⟩ : ∃ d, s.manager.channel? c.id = some d := by
      rw [Manager.channel?, ← Option.isSome_iff_exists, List.find?_isSome]
      exact ⟨c, hc, by simp⟩
    obtain ⟨hmem, hid⟩ := channel?_mem hd
    rw [hd, List.inj_on_of_nodup_map h.balanced.ids_nodup hmem hc hid]
  have hall : s.manager.channelIds.filterMap s.manager.channel? = s.manager.channels := by
    rw [channelIds, List.filterMap_map]
    exact (List.filterMap_congr hfind).trans List.filterMap_some
  have hnamed := h.named
  rw [List.append_nil] at hnamed
  have hperm := hnamed.filterMap s.manager.channel?
  rw [hall, List.filterMap_map] at hperm
  exact hperm

lemma Sound.openHandles_length (h : s.Sound [] []) :
    s.openHandles.length = s.manager.openChannels := by
  rw [h.balanced.figures.1]
  exact (h.handles_perm.filter _).length_eq

/-- Nothing is left of a session: no device in the pool, no native reference, no channel
that keeps a shutdown waiting, and no native handle that was not closed. -/
structure Cleared (s : Session Bench Instance DeviceKey) : Prop where
  pool : s.manager.pool.isEmpty = true
  live : s.manager.platform.live = []
  registered : s.manager.registered = []
  handles : s.manager.platform.calls.opens = s.manager.platform.calls.closes

/-- A sound session whose user keeps no record and no open channel is cleared. -/
lemma Sound.cleared (h : s.Sound [] []) (hrec : s.records = []) (hopen : s.openHandles = []) :
    s.Cleared := by
  obtain ⟨hchan, hcalls, -⟩ := h.balanced.figures
  have hzero : s.manager.openChannels = 0 := by rw [← h.openHandles_length, hopen, List.length_nil]
  have hholds : s.manager.channelHolds = [] := by
    rw [← List.length_eq_zero_iff, ← hzero, hchan]
    exact length_holds h.balanced.paired
  have hst := h.balanced.stocked
  rw [hrec, hholds] at hst
  have hpool : s.manager.pool.records = [] := hst.backs.records_eq_nil
  refine ⟨?_, ?_, List.length_eq_zero_iff.mp hzero, by omega⟩
  · rw [Pool.isEmpty, hpool]
    rfl
  · have hlive := hst.live
    rw [hpool] at hlive
    exact hlive.eq_nil

/-! ### The end -/

lemma channels_dropSets (names : List String) :
    (names.foldl (fun s name => (s.dropSet name).2) s).channels = s.channels := by
  induction names generalizing s with
  | nil => rfl
  | cons name names ih => exact ih.trans (s.channels_dropSet name)

/-- The user keeps nothing after everything is dropped. -/
lemma dropAll_keeps_nothing (s : Session Bench Instance DeviceKey) :
    s.dropAll.sets = [] ∧ s.dropAll.channels = [] := by
  have hin : ∀ {name : String} {names : List String}, name ∈ names → name ∈ inOrder names :=
    fun h => List.mem_mergeSort.mpr h
  constructor
  · refine List.eq_nil_iff_forall_not_mem.mpr fun e he => ?_
    obtain ⟨hmem, hnot⟩ := mem_foldl_drop sets_dropSet _ _ he
    exact hnot (hin (List.mem_map_of_mem hmem))
  · refine List.eq_nil_iff_forall_not_mem.mpr fun e he => ?_
    rw [dropAll, channels_dropSets] at he
    obtain ⟨hmem, hnot⟩ := mem_foldl_drop channels_dropChannel _ _ he
    exact hnot (hin (List.mem_map_of_mem hmem))

end Session

namespace BenchSession

/-- After any run from a fresh session: the channels that keep a shutdown waiting are
those the user has not closed, which are the native handles that are out; the holds are
those of the kept records and the open channels; the native references are those of the
devices in the pool, and none was given back that nobody held; and nothing is left once
nothing is kept, as when everything is dropped. -/
theorem run_figures (steps : List Step) :
    let s := fresh.run steps
    (s.manager.openChannels = s.openHandles.length ∧
      s.manager.platform.calls.opens
        = s.manager.platform.calls.closes + s.manager.openChannels) ∧
    s.manager.pool.outstanding = s.records.length + s.manager.openChannels ∧
    ((∀ key, s.manager.platform.liveRefs key
        = s.manager.pool.records.countP (·.key == key)) ∧
      s.manager.platform.totalLiveRefs = s.manager.pool.size ∧
      s.manager.platform.overdrawn = 0) ∧
    (s.records = [] → s.openHandles = [] → s.Cleared) ∧ s.dropAll.Cleared := by
  intro s
  have h : s.toSession.Sound [] [] := sound_run steps
  obtain ⟨-, hcalls, hout⟩ := h.balanced.figures
  refine ⟨⟨h.openHandles_length.symm, hcalls⟩, ?_, ⟨h.balanced.liveRefs_eq,
    h.balanced.totalLiveRefs_eq, h.balanced.stocked.overdrawn⟩, h.cleared, ?_⟩
  · rw [hout, List.nil_append, List.length_map]
  · obtain ⟨hsets, hchannels⟩ := s.dropAll_keeps_nothing
    refine h.dropAll.cleared ?_ ?_
    · rw [Session.records, hsets]
      rfl
    · rw [Session.openHandles, Session.handles, hchannels]
      rfl

end BenchSession

end UsbPipe
