/-
Threads in order.

The state of the threads is *orderly* if the scan lock has one owner, which alone is
inside, every open channel and every open on its way to one is registered, nothing is
registered once a thread is about to tear down, and the native handles given out and not
taken back are those of the channels and of the owner of the scan lock.

* `inHand`, `Orderly`: the invariant, with room for handles in the middle of a step.
* `Orderly.restage`, `Orderly.pass`, `Orderly.notify`: threads move on.
* `Orderly.calling`: the native layer is called.
* `Orderly.enter`, `Orderly.deregister`, `Orderly.raise`: the registry and the flag.
* `Orderly.establish`, `Orderly.vacate`, `Orderly.mapped`, `Orderly.forget`: the channels.
-/
import UsbPipe.Proofs.Threads.Basic

namespace UsbPipe.Threads

open Usb Manager
open scoped List

variable {σ δ η : Type}

/-! ### The invariant -/

namespace Stage

/-- Only inside the scan lock a thread has a handle in its hands. -/
lemma handles_of_outside {a : Stage δ η} (h : a.isInside = false) : a.handles = [] := by
  cases a <;> first | rfl | cases h

/-- Nothing but that it waits tells a notified thread from another. -/
lemma notified_cases (a : Stage δ η) :
    a.notified = a ∨ ∃ timed b, a = .waiting timed b ∧ a.notified = .waiting timed true := by
  cases a with
  | waiting timed b => exact Or.inr ⟨timed, b, rfl, rfl⟩
  | _ => exact Or.inl rfl

/-- Neither on the way to a channel or out of one, nor in a shutdown. -/
def isPlain : Stage δ η → Bool
  | registered _ _ | closing _ _ _ | entering .teardown | locked .teardown | waiting _ _ => false
  | _ => true

lemma isStopping_of_isPlain {a : Stage δ η} (h : a.isPlain = true) : a.isStopping = false := by
  cases a with
  | entering job | locked job =>
      cases job with
      | teardown => cases h
      | _ => rfl
  | _ => rfl

end Stage

/-- The handle in the hands of the owner of the scan lock. -/
def inHand (owner? : Option ℕ) (stage : ℕ → Stage δ η) : List η :=
  match owner? with
  | none => []
  | some t => (stage t).handles

/-- The invariant of the shared view, the owner of the scan lock and the stages of all
threads; the `spare` handles are in nobody's hands in the middle of a step. -/
structure Orderly (v : View δ η) (owner? : Option ℕ) (stage : ℕ → Stage δ η) (spare : List η) :
    Prop where
  inside_iff : ∀ t, (stage t).isInside = true ↔ owner? = some t
  ids_nodup : (v.channels.map Channel.id).Nodup
  id_le : ∀ c ∈ v.channels, c.id ≤ v.lastId
  listed : ∀ c ∈ v.channels, c.isClosed = false → c.id ∈ v.registered
  entered : ∀ t c id, stage t = .registered c id →
    id ∈ v.registered ∧ id ≤ v.lastId ∧ ∀ d ∈ v.channels, d.id ≠ id
  closing : ∀ t id info r, stage t = .closing id info r →
    id ≤ v.lastId ∧ ∀ c ∈ v.channels, c.id = id → c.isClosed = true
  apart : ∀ t u c id id' info r,
    stage t = .registered c id → stage u = .closing id' info r → id ≠ id'
  waiting : ∀ t timed n, stage t = .waiting timed n → v.shuttingDown = true
  stopping : ∀ t, (stage t).isStopping = true → v.shuttingDown = true ∧ v.registered = []
  handles : (v.calls.filterMap Call.opened?).Perm (v.calls.filterMap Call.closed?
    ++ (v.channels.filterMap Channel.native? ++ (inHand owner? stage ++ spare)))

namespace Orderly

variable {v v' : View δ η} {owner? next? : Option ℕ} {stage : ℕ → Stage δ η}
  {a b : Stage δ η} {t : ℕ} {spare spare' : List η}

/-- Threads that have not begun. -/
lemma start [Platform σ δ η] (layer : σ) :
    Orderly (State.start layer : State σ δ η).manager.view none (fun _ => .idle) [] where
  inside_iff := by simp [Stage.isInside]
  ids_nodup := List.nodup_nil
  id_le := by simp [State.start, view, ofPlatform]
  listed := by simp [State.start, view, ofPlatform]
  entered := by simp
  closing := by simp
  apart := by simp
  waiting := by simp
  stopping := by simp [Stage.isStopping]
  handles := List.Perm.nil

/-- A thread that is inside has the scan lock. -/
lemma owner_eq (h : Orderly v owner? stage spare) (ht : (stage t).isInside = true) :
    owner? = some t :=
  (h.inside_iff t).mp ht

/-- A thread without the scan lock is outside. -/
lemma outside (h : Orderly v owner? stage spare) (ht : owner? ≠ some t) :
    (stage t).isInside = false :=
  Bool.eq_false_iff.mpr fun hin => ht (h.owner_eq hin)

/-- A thread that is outside does not have the scan lock. -/
lemma owner_ne (h : Orderly v owner? stage spare) (ht : (stage t).isInside = false) :
    owner? ≠ some t := fun he => by
  rw [(h.inside_iff t).mpr he] at ht
  cases ht

/-! ### Stages -/

/-- An owner that changes for one thread only is the same other thread, or this one or
nobody before and after. -/
lemma owner_cases (h : ∀ u, u ≠ t → (owner? = some u ↔ next? = some u)) :
    (owner? = next? ∧ owner? ≠ some t) ∨
      ((owner? = some t ∨ owner? = none) ∧ (next? = some t ∨ next? = none)) := by
  cases owner? <;> cases next? <;> grind

/-- The handles in hand when one thread moves on, takes the scan lock or gives it back. -/
lemma inHand_update (h : Orderly v owner? stage spare) (ht : stage t = a)
    (hinside : b.isInside = true ↔ next? = some t)
    (hothers : ∀ u, u ≠ t → (owner? = some u ↔ next? = some u))
    (hhandles : (a.handles ++ spare).Perm (b.handles ++ spare')) :
    (inHand owner? stage ++ spare).Perm (inHand next? (Function.update stage t b) ++ spare') := by
  -- without the lock a thread has nothing in hand
  have hbefore : owner? ≠ some t → a.handles = [] := fun hne =>
    Stage.handles_of_outside (ht ▸ h.outside hne)
  have hafter : next? ≠ some t → b.handles = [] := fun hne =>
    Stage.handles_of_outside (Bool.eq_false_iff.mpr fun hin => hne (hinside.mp hin))
  rcases owner_cases hothers with ⟨rfl, hne⟩ | ⟨hown, hnext⟩
  · have hsame : inHand owner? (Function.update stage t b) = inHand owner? stage := by
      cases owner? with
      | none => rfl
      | some u => rw [inHand, inHand, Function.update_of_ne fun he => hne (congrArg some he)]
    rw [hbefore hne, hafter hne] at hhandles
    rw [hsame]
    exact hhandles.append_left _
  · have hhand : inHand owner? stage = a.handles := by
      rcases hown with rfl | rfl
      · rw [inHand, ht]
      · exact (hbefore (by simp)).symm
    have hhand' : inHand next? (Function.update stage t b) = b.handles := by
      rcases hnext with rfl | rfl
      · rw [inHand, Function.update_self]
      · exact (hafter (by simp)).symm
    rw [hhand, hhand']
    exact hhandles

/-- A thread in another stage, which may take the scan lock or give it back. -/
lemma restage (h : Orderly v owner? stage spare) (ht : stage t = a)
    (hinside : b.isInside = true ↔ next? = some t)
    (hothers : ∀ u, u ≠ t → (owner? = some u ↔ next? = some u))
    (hhandles : (a.handles ++ spare).Perm (b.handles ++ spare'))
    (hentered : ∀ c id, b = .registered c id →
      (id ∈ v.registered ∧ id ≤ v.lastId ∧ ∀ d ∈ v.channels, d.id ≠ id) ∧
        ∀ u id' info r, stage u = .closing id' info r → id ≠ id')
    (hclosing : ∀ id info r, b = .closing id info r →
      (id ≤ v.lastId ∧ ∀ c ∈ v.channels, c.id = id → c.isClosed = true) ∧
        ∀ u c id', stage u = .registered c id' → id' ≠ id)
    (hwaiting : ∀ timed n, b = .waiting timed n → v.shuttingDown = true)
    (hstopping : b.isStopping = true → v.shuttingDown = true ∧ v.registered = []) :
    Orderly v next? (Function.update stage t b) spare' where
  inside_iff := by
    intro u
    by_cases hu : u = t
    · rw [hu, Function.update_self]
      exact hinside
    · rw [Function.update_of_ne hu]
      exact (h.inside_iff u).trans (hothers u hu)
  ids_nodup := h.ids_nodup
  id_le := h.id_le
  listed := h.listed
  entered := by
    intro u c id hu
    rcases Stage.update_cases hu with hb | hu
    · exact (hentered c id hb).1
    · exact h.entered u c id hu
  closing := by
    intro u id info r hu
    rcases Stage.update_cases hu with hb | hu
    · exact (hclosing id info r hb).1
    · exact h.closing u id info r hu
  apart := by
    intro u w c id id' info r hu hw
    rcases Stage.update_cases hu with hb | hu <;> rcases Stage.update_cases hw with hb' | hw
    · cases hb.symm.trans hb'
    · exact (hentered c id hb).2 w id' info r hw
    · exact (hclosing id' info r hb').2 u c id hu
    · exact h.apart u w c id id' info r hu hw
  waiting := by
    intro u timed n hu
    rcases Stage.update_cases hu with hb | hu
    · exact hwaiting timed n hb
    · exact h.waiting u timed n hu
  stopping := by
    intro u hu
    rcases Stage.update_cases (u := u) rfl with hb | hb <;> rw [← hb] at hu
    · exact hstopping hu
    · exact h.stopping u hu
  handles := h.handles.trans
    (((h.inHand_update ht hinside hothers hhandles).append_left _).append_left _)

/-- A thread in another stage of no importance to the others. -/
lemma pass (h : Orderly v owner? stage spare) (ht : stage t = a) (hplain : b.isPlain = true)
    (hinside : b.isInside = true ↔ next? = some t)
    (hothers : ∀ u, u ≠ t → (owner? = some u ↔ next? = some u))
    (hhandles : (a.handles ++ spare).Perm (b.handles ++ spare')) :
    Orderly v next? (Function.update stage t b) spare' := by
  refine h.restage ht hinside hothers hhandles ?_ ?_ ?_ ?_
  · rintro c id rfl
    cases hplain
  · rintro id info r rfl
    cases hplain
  · rintro timed n rfl
    cases hplain
  · intro hstop
    rw [Stage.isStopping_of_isPlain hplain] at hstop
    cases hstop

/-- A thread stays on its side of the scan lock. -/
lemma move (h : Orderly v owner? stage spare) (ht : stage t = a) (hplain : b.isPlain = true)
    (hinside : b.isInside = a.isInside)
    (hhandles : (a.handles ++ spare).Perm (b.handles ++ spare')) :
    Orderly v owner? (Function.update stage t b) spare' :=
  h.pass ht hplain (by rw [hinside, ← ht]; exact h.inside_iff t) (fun _ _ => Iff.rfl) hhandles

/-- A thread takes the scan lock. -/
lemma lock {job : Job} (h : Orderly v none stage []) (ht : stage t = .entering job) :
    Orderly v (some t) (Function.update stage t (.locked job)) [] := by
  refine h.restage ht (by simp [Stage.isInside]) (fun u hu => by simpa using hu.symm)
    (List.Perm.refl _) (by simp) (by simp) (by simp) fun hstop => h.stopping t ?_
  rw [ht]
  cases job <;> first | rfl | cases hstop

/-- The owner of the scan lock gives it back. -/
lemma unlock (h : Orderly v owner? stage []) (ht : stage t = a) (hin : a.isInside = true)
    (hhand : a.handles = []) (hplain : b.isPlain = true) (hout : b.isInside = false) :
    Orderly v none (Function.update stage t b) [] := by
  have hown : owner? = some t := h.owner_eq (ht ▸ hin)
  refine h.pass ht hplain (by simp [hout]) (fun u hu => ?_) ?_
  · rw [hown]
    simpa using hu.symm
  · rw [hhand, Stage.handles_of_outside hout]

/-- Threads that wait are told. -/
lemma notify (h : Orderly v owner? stage spare) {stage' : ℕ → Stage δ η}
    (hstage : ∀ u, stage' u = stage u ∨
      ∃ timed b, stage u = .waiting timed b ∧ stage' u = .waiting timed true) :
    Orderly v owner? stage' spare := by
  -- a thread that was told is at none of the stages that the invariant is about
  have hback : ∀ u a, stage' u = a → (∀ timed, a ≠ .waiting timed true) → stage u = a := by
    intro u a hu ha
    rcases hstage u with he | ⟨timed, b, -, he⟩
    · rw [← he, hu]
    · exact absurd (hu.symm.trans he) (ha timed)
  have hinside : ∀ u, (stage' u).isInside = (stage u).isInside := by
    intro u
    rcases hstage u with he | ⟨timed, b, he, he'⟩
    · rw [he]
    · rw [he, he']
      rfl
  refine { h with
    inside_iff := fun u => by rw [hinside u]; exact h.inside_iff u
    entered := fun u c id hu => h.entered u c id (hback u _ hu (by simp))
    closing := fun u id info r hu => h.closing u id info r (hback u _ hu (by simp))
    apart := fun u w c id id' info r hu hw =>
      h.apart u w c id id' info r (hback u _ hu (by simp)) (hback w _ hw (by simp))
    waiting := ?_
    stopping := ?_
    handles := ?_ }
  · intro u timed n hu
    rcases hstage u with he | ⟨timed, b, he, -⟩
    · exact h.waiting u timed n (he ▸ hu)
    · exact h.waiting u timed b he
  · intro u hu
    rcases hstage u with he | ⟨timed, b, -, he⟩ <;> rw [he] at hu
    · exact h.stopping u hu
    · cases hu
  · have hsame : inHand owner? stage' = inHand owner? stage := by
      cases owner? with
      | none => rfl
      | some u =>
          rcases hstage u with he | ⟨timed, b, he, he'⟩
          · rw [inHand, inHand, he]
          · rw [inHand, inHand, he, he']
            rfl
    rw [hsame]
    exact h.handles

/-! ### Calls -/

/-- More calls, whose handles are accounted for. -/
lemma calling (h : Orderly v owner? stage spare) {cs : List (Call η)}
    (hperm : (spare ++ cs.filterMap Call.opened?).Perm (cs.filterMap Call.closed? ++ spare')) :
    Orderly (v.calling cs) owner? stage spare' :=
  { h with
    handles := by
      set held := v.channels.filterMap Channel.native? ++ inHand owner? stage with hheld
      have hbefore : (v.calls.filterMap Call.opened?).Perm
          (v.calls.filterMap Call.closed? ++ (held ++ spare)) := by
        rw [hheld, List.append_assoc]
        exact h.handles
      simp only [View.calling, List.filterMap_append]
      rw [← List.append_assoc (v.channels.filterMap Channel.native?), ← hheld]
      calc v.calls.filterMap Call.opened? ++ cs.filterMap Call.opened?
          ~ v.calls.filterMap Call.closed? ++ (held ++ spare) ++ cs.filterMap Call.opened? :=
            hbefore.append_right _
        _ = v.calls.filterMap Call.closed? ++ (held ++ (spare ++ cs.filterMap Call.opened?)) := by
            simp only [List.append_assoc]
        _ ~ v.calls.filterMap Call.closed? ++ (held ++ (cs.filterMap Call.closed? ++ spare')) :=
            (hperm.append_left _).append_left _
        _ ~ v.calls.filterMap Call.closed? ++ (cs.filterMap Call.closed? ++ (held ++ spare')) :=
            (List.perm_append_comm_assoc _ _ _).append_left _
        _ = v.calls.filterMap Call.closed? ++ cs.filterMap Call.closed? ++ (held ++ spare') :=
            (List.append_assoc _ _ _).symm }

/-- Calls that neither give out nor take back a handle. -/
lemma calling_idle (h : Orderly v owner? stage spare) {cs : List (Call η)}
    (ho : cs.filterMap Call.opened? = []) (hc : cs.filterMap Call.closed? = []) :
    Orderly (v.calling cs) owner? stage spare :=
  h.calling (by rw [ho, hc, List.append_nil, List.nil_append])

/-- Whether the native layer is initialised. -/
lemma reinit (h : Orderly v owner? stage spare) (b : Bool) :
    Orderly { v with initialized := b } owner? stage spare :=
  { h with }

/-! ### The registry and the flag -/

/-- The flag goes up. -/
lemma raise (h : Orderly v owner? stage spare) :
    Orderly { v with shuttingDown := true } owner? stage spare :=
  { h with
    waiting := fun _ _ _ _ => rfl
    stopping := fun t ht => ⟨rfl, (h.stopping t ht).2⟩ }

/-- A new id is registered while the flag is down. -/
lemma enter (h : Orderly v owner? stage spare) (hdown : v.shuttingDown = false) :
    Orderly { v with lastId := v.lastId + 1, registered := v.registered ++ [v.lastId + 1] }
      owner? stage spare :=
  { h with
    id_le := fun c hc => Nat.le_succ_of_le (h.id_le c hc)
    listed := fun c hc ho => List.mem_append_left _ (h.listed c hc ho)
    entered := fun t c id ht =>
      have ⟨hmem, hle, hfresh⟩ := h.entered t c id ht
      ⟨List.mem_append_left _ hmem, Nat.le_succ_of_le hle, hfresh⟩
    closing := fun t id info r ht =>
      ⟨Nat.le_succ_of_le (h.closing t id info r ht).1, (h.closing t id info r ht).2⟩
    stopping := fun t ht => absurd (h.stopping t ht).1 (by rw [hdown]; simp) }

/-- The id of a closed channel goes from the registry. -/
lemma deregister (h : Orderly v owner? stage spare) {id : ℕ}
    (hclosed : ∀ c ∈ v.channels, c.id = id → c.isClosed = true)
    (hapart : ∀ t c id', stage t = .registered c id' → id' ≠ id) :
    Orderly { v with registered := v.registered.filter (· != id) } owner? stage spare :=
  { h with
    listed := fun c hc ho => by
      have hne : c.id ≠ id := fun he => by simp [hclosed c hc he] at ho
      exact List.mem_filter.mpr ⟨h.listed c hc ho, by simpa using hne⟩
    entered := fun t c id' ht => by
      obtain ⟨hmem, hrest⟩ := h.entered t c id' ht
      exact ⟨List.mem_filter.mpr ⟨hmem, by simpa using hapart t c id' ht⟩, hrest⟩
    stopping := fun t ht => by
      obtain ⟨hdown, hnil⟩ := h.stopping t ht
      exact ⟨hdown, by rw [hnil, List.filter_nil]⟩ }

/-! ### The channels -/

/-- A registered open becomes a channel, which takes its handle. -/
lemma establish {c : Channel δ η} {handle : η} (h : Orderly v owner? stage [handle])
    (hnative : c.native? = some handle) (hmem : c.id ∈ v.registered) (hle : c.id ≤ v.lastId)
    (hfresh : ∀ d ∈ v.channels, d.id ≠ c.id)
    (hentered : ∀ t d id, stage t = .registered d id → c.id ≠ id)
    (hclosing : ∀ t id info r, stage t = .closing id info r → c.id ≠ id) :
    Orderly { v with channels := v.channels ++ [c] } owner? stage [] :=
  { h with
    ids_nodup := by
      rw [List.map_append, List.map_singleton]
      refine h.ids_nodup.append (List.nodup_singleton _) ?_
      intro id hid hc
      obtain ⟨d, hd, rfl⟩ := List.mem_map.mp hid
      exact hfresh d hd (List.mem_singleton.mp hc)
    id_le := fun d hd => by
      rcases List.mem_append.mp hd with hd | hd
      · exact h.id_le d hd
      · exact List.mem_singleton.mp hd ▸ hle
    listed := fun d hd ho => by
      rcases List.mem_append.mp hd with hd | hd
      · exact h.listed d hd ho
      · exact List.mem_singleton.mp hd ▸ hmem
    entered := fun t d id ht => by
      obtain ⟨hreg, hlast, hd⟩ := h.entered t d id ht
      refine ⟨hreg, hlast, fun e he => ?_⟩
      rcases List.mem_append.mp he with he | he
      · exact hd e he
      · exact List.mem_singleton.mp he ▸ hentered t d id ht
    closing := fun t id info r ht => by
      obtain ⟨hlast, hclosed⟩ := h.closing t id info r ht
      refine ⟨hlast, fun d hd hid => ?_⟩
      rcases List.mem_append.mp hd with hd | hd
      · exact hclosed d hd hid
      · exact absurd (List.mem_singleton.mp hd ▸ hid) (hclosing t id info r ht)
    handles := by
      refine h.handles.trans (List.Perm.append_left _ ?_)
      simp only [List.filterMap_append, List.filterMap_cons, hnative, List.filterMap_nil,
        List.append_assoc, List.append_nil]
      exact (List.perm_append_comm).append_left _ }

/-- The handle of a channel is taken out of it. -/
lemma vacate {m : Manager σ δ η} {c : Channel δ η} {handle : η}
    (h : Orderly v owner? stage []) (hchannels : v.channels = m.channels)
    (hc : c ∈ v.channels) (hnative : c.native? = some handle) :
    Orderly { v with channels := (m.updateChannel c.id emptied).channels } owner? stage
      [handle] := by
  rw [hchannels] at hc
  have hnd : m.channelIds.Nodup := by rw [channelIds, ← hchannels]; exact h.ids_nodup
  obtain ⟨l₁, l₂, hl, hne⟩ := channels_split hnd hc
  have hl' : v.channels = l₁ ++ c :: l₂ := hchannels.trans hl
  rw [updateChannel_split hl hne emptied]
  -- every channel of the new table stands for one of the old table under its id
  have hold : ∀ d ∈ l₁ ++ emptied c :: l₂, ∃ d₀ ∈ v.channels, d₀.id = d.id ∧
      (d.isClosed = false → d₀.isClosed = false) := by
    intro d hd
    rw [hl']
    simp only [List.mem_append, List.mem_cons] at hd ⊢
    rcases hd with hd | rfl | hd
    · exact ⟨d, Or.inl hd, rfl, id⟩
    · exact ⟨c, Or.inr (Or.inl rfl), rfl, fun ho => by simp [emptied, Channel.isClosed] at ho⟩
    · exact ⟨d, Or.inr (Or.inr hd), rfl, id⟩
  exact { h with
    ids_nodup := by simpa [hl', emptied] using h.ids_nodup
    id_le := fun d hd => by
      obtain ⟨d₀, hd₀, hid, -⟩ := hold d hd
      exact hid ▸ h.id_le d₀ hd₀
    listed := fun d hd ho => by
      obtain ⟨d₀, hd₀, hid, hopen⟩ := hold d hd
      exact hid ▸ h.listed d₀ hd₀ (hopen ho)
    entered := fun t e id ht => by
      obtain ⟨hreg, hlast, hfresh⟩ := h.entered t e id ht
      refine ⟨hreg, hlast, fun d hd => ?_⟩
      obtain ⟨d₀, hd₀, hid, -⟩ := hold d hd
      exact hid ▸ hfresh d₀ hd₀
    closing := fun t id info r ht => by
      obtain ⟨hlast, hclosed⟩ := h.closing t id info r ht
      refine ⟨hlast, fun d hd hid => ?_⟩
      obtain ⟨d₀, hd₀, hid₀, hopen⟩ := hold d hd
      by_contra ho
      have hd₀closed := hclosed d₀ hd₀ (hid₀.trans hid)
      rw [hopen (Bool.eq_false_iff.mpr ho)] at hd₀closed
      cases hd₀closed
    handles := by
      have hbefore := h.handles
      rw [hl'] at hbefore
      refine hbefore.trans (List.Perm.append_left _ ?_)
      simp only [List.filterMap_append, List.filterMap_cons, hnative, emptied, List.append_nil,
        List.append_assoc]
      refine List.Perm.append_left _ ?_
      rw [← List.append_assoc]
      exact (List.perm_append_singleton _ _).symm }

/-- A change that keeps the id and the handle of every channel. -/
lemma mapped (h : Orderly v owner? stage spare) {f : Channel δ η → Channel δ η}
    (hid : ∀ c, (f c).id = c.id) (hnative : ∀ c, (f c).native? = c.native?) :
    Orderly { v with channels := v.channels.map f } owner? stage spare :=
  have hclosed : ∀ c, (f c).isClosed = c.isClosed := fun c => by
    rw [Channel.isClosed, Channel.isClosed, hnative]
  { h with
    ids_nodup := by
      rw [List.map_map, show Channel.id ∘ f = Channel.id from funext hid]
      exact h.ids_nodup
    id_le := fun d hd => by
      obtain ⟨c, hc, rfl⟩ := List.mem_map.mp hd
      exact (hid c).symm ▸ h.id_le c hc
    listed := fun d hd ho => by
      obtain ⟨c, hc, rfl⟩ := List.mem_map.mp hd
      exact (hid c).symm ▸ h.listed c hc (hclosed c ▸ ho)
    entered := fun t e id ht => by
      obtain ⟨hreg, hlast, hfresh⟩ := h.entered t e id ht
      refine ⟨hreg, hlast, fun d hd => ?_⟩
      obtain ⟨c, hc, rfl⟩ := List.mem_map.mp hd
      exact (hid c).symm ▸ hfresh c hc
    closing := fun t id info r ht => by
      obtain ⟨hlast, hall⟩ := h.closing t id info r ht
      refine ⟨hlast, fun d hd hd' => ?_⟩
      obtain ⟨c, hc, rfl⟩ := List.mem_map.mp hd
      exact (hclosed c).trans (hall c hc ((hid c).symm.trans hd'))
    handles := by
      rw [List.filterMap_map, show Channel.native? ∘ f = Channel.native? from funext hnative]
      exact h.handles }

/-- A closed channel goes out of use. -/
lemma forget (h : Orderly v owner? stage spare) {id : ℕ}
    (hclosed : ∀ c ∈ v.channels, c.id = id → c.isClosed = true) :
    Orderly { v with channels := v.channels.filter (·.id != id) } owner? stage spare :=
  { h with
    ids_nodup := h.ids_nodup.sublist (List.filter_sublist.map _)
    id_le := fun c hc => h.id_le c (List.mem_of_mem_filter hc)
    listed := fun c hc ho => h.listed c (List.mem_of_mem_filter hc) ho
    entered := fun t c id' ht =>
      have ⟨hreg, hlast, hfresh⟩ := h.entered t c id' ht
      ⟨hreg, hlast, fun d hd => hfresh d (List.mem_of_mem_filter hd)⟩
    closing := fun t id' info r ht =>
      have ⟨hlast, hall⟩ := h.closing t id' info r ht
      ⟨hlast, fun c hc => hall c (List.mem_of_mem_filter hc)⟩
    handles := by
      have hsame : (v.channels.filter (·.id != id)).filterMap Channel.native? =
          v.channels.filterMap Channel.native? := by
        rw [List.filterMap_filter]
        refine List.filterMap_congr fun c hc => ?_
        by_cases hid : c.id = id
        · have hnone : c.native? = none := Option.isNone_iff_eq_none.mp (hclosed c hc hid)
          simp [hid, hnone]
        · simp [hid]
      rw [hsame]
      exact h.handles }

end Orderly

end UsbPipe.Threads
