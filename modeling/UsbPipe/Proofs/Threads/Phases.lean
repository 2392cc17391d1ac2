/-
When the native layer is used.

A session with the native layer has three phases: before an `init` succeeded, from then on
to the teardown, and after it.  Threads are *timely* if what each of them is due to make
fits the phase, whenever it comes to make it: the owner of the scan lock is alone with what
the flags of the manager allow it, and whoever calls without that lock uses an open handle,
which there is in the middle phase only.

* `Phase`, `Phase.Allows`, `Phase.Reached`: the phases, what is made in them, and all that
  was made by the time one is reached.
* `Fits`: what the flags and the calls due to the owner of the scan lock say about a phase.
* `Stage.mayCall`, `InUse`: where a thread has calls due, and that some handle is in use.
* `Timely`: the invariant.
* `Timely.make`: a thread makes what it is due to make.
* `Timely.review`, `Timely.move`, `Timely.close`, `Timely.deregister`: what threads do outside
  the scan lock.
* `Timely.goOn`: what the owner of the scan lock does.
-/
import UsbPipe.Proofs.Threads.Orderly
import UsbPipe.Proofs.Threads.Pace

namespace UsbPipe.Threads

open Usb Manager

variable {σ δ η : Type}

/-! ### Phases -/

/-- How far a session with the native layer is: before the first `init` that succeeds, after
it, or after the teardown. -/
inductive Phase where
  | before
  | during
  | after

namespace Phase

/-- What is made in a phase, and the phase after it. -/
inductive Allows : Phase → Made δ η → Phase → Prop where
  | failed : Allows before (.call (.init false)) before
  | begun : Allows before (.call (.init true)) during
  | work {c : Made δ η} (hc : c.isWork = true) : Allows during c during
  | ended : Allows during (.call .teardown) after

/-- All that was made by the time a phase is reached. -/
def Reached : Phase → List (Made δ η) → Prop
  | before, cs => ∃ n, cs = List.replicate n (.call (.init false))
  | during, cs => ∃ n body, (∀ c ∈ body, c.isWork = true) ∧
      cs = List.replicate n (.call (.init false)) ++ .call (.init true) :: body
  | after, cs => ∃ n body, (∀ c ∈ body, c.isWork = true) ∧
      cs = List.replicate n (.call (.init false)) ++
        .call (.init true) :: (body ++ [.call .teardown])

variable {p p' : Phase} {c : Made δ η} {cs : List (Made δ η)}

lemma Reached.snoc (h : p.Reached cs) (hc : p.Allows c p') : p'.Reached (cs ++ [c]) := by
  cases hc with
  | failed =>
      obtain ⟨n, rfl⟩ := h
      exact ⟨n + 1, List.replicate_succ'.symm⟩
  | begun =>
      obtain ⟨n, rfl⟩ := h
      exact ⟨n, [], by simp, rfl⟩
  | work hc =>
      obtain ⟨n, body, hbody, rfl⟩ := h
      refine ⟨n, body ++ [c], fun x hx => ?_, by simp⟩
      rcases List.mem_append.mp hx with hx | hx
      · exact hbody x hx
      · exact List.mem_singleton.mp hx ▸ hc
  | ended =>
      obtain ⟨n, body, hbody, rfl⟩ := h
      exact ⟨n, body, hbody, by simp⟩

/-- Work goes on in the middle phase. -/
lemma Reached.append_work (h : during.Reached cs) {ds : List (Made δ η)}
    (hwork : ∀ c ∈ ds, c.isWork = true) : during.Reached (cs ++ ds) := by
  obtain ⟨n, body, hbody, rfl⟩ := h
  refine ⟨n, body ++ ds, fun x hx => ?_, by simp⟩
  rcases List.mem_append.mp hx with hx | hx
  · exact hbody x hx
  · exact hwork x hx

end Phase

/-- What the flags of a manager and the calls due to the owner of the scan lock say about the
phase.  A flag goes with the step, ahead of the call. -/
inductive Fits : Phase → Bool → Bool → List (Made δ η) → Prop where
  | fresh (down : Bool) : Fits .before false down []
  | failing (down : Bool) : Fits .before false down [.call (.init false)]
  | beginning (down : Bool) : Fits .before true down [.call (.init true)]
  | working (down : Bool) (cs : List (Made δ η)) (hwork : ∀ c ∈ cs, c.isWork = true) :
      Fits .during true down cs
  | ending : Fits .during false true [.call .teardown]
  | finished : Fits .after false true []

namespace Fits

variable {p : Phase} {initialized down down' : Bool} {c : Made δ η} {cs : List (Made δ η)}

/-- The owner of the scan lock makes its next call. -/
lemma make (h : Fits p initialized down (c :: cs)) : ∃ p', p.Allows c p' ∧
    Fits p' initialized down cs ∧ (p = .during ∧ initialized = true → p' = .during) := by
  cases h with
  | failing => exact ⟨.before, .failed, .fresh down, by simp⟩
  | beginning => exact ⟨.during, .begun, .working down [] (by simp), fun _ => rfl⟩
  | working _ _ hwork =>
      exact ⟨.during, .work (hwork c (List.mem_cons_self ..)),
        .working down cs fun x hx => hwork x (List.mem_cons_of_mem _ hx), fun _ => rfl⟩
  | ending => exact ⟨.after, .ended, .finished, by simp⟩

/-- The flag of a shutdown goes up. -/
lemma raise (h : Fits p initialized down cs) (hdown : down = true → down' = true) :
    Fits p initialized down' cs := by
  cases h with
  | fresh => exact .fresh down'
  | failing => exact .failing down'
  | beginning => exact .beginning down'
  | working _ _ hwork => exact .working down' cs hwork
  | ending => exact hdown rfl ▸ .ending
  | finished => exact hdown rfl ▸ .finished

/-- An initialised layer without calls due is in use. -/
lemma eq_during (h : Fits p true down ([] : List (Made δ η))) : p = .during := by
  cases h
  rfl

/-- A layer that is not initialised while the flag is down was never. -/
lemma eq_before (h : Fits p false false ([] : List (Made δ η))) : p = .before := by
  cases h
  rfl

end Fits

/-! ### The invariant -/

namespace Stage

/-- Past the entry, with the native layer initialised. -/
def isAdmitted : Stage δ η → Bool
  | ready _ | resolved _ | claimed _ | registered _ _ | refused _ _ => true
  | _ => false

/-- The stages at which a thread may have calls due. -/
def mayCall : Stage δ η → Bool
  | ready _ | resolved _ | claimed _ | registered _ _ | refused _ _ | leaving _ | parting _
  | closing _ _ _ => true
  | _ => false

lemma isInside_of_isAdmitted {a : Stage δ η} (h : a.isAdmitted = true) : a.isInside = true := by
  cases a <;> first | rfl | cases h

lemma mayCall_of_isAdmitted {a : Stage δ η} (h : a.isAdmitted = true) : a.mayCall = true := by
  cases a <;> first | rfl | cases h

/-- A thread with calls due has the scan lock or closes a channel. -/
lemma mayCall_cases {a : Stage δ η} (h : a.mayCall = true) :
    a.isInside = true ∨ ∃ id info r, a = .closing id info r := by
  cases a with
  | closing id info r => exact Or.inr ⟨id, info, r, rfl⟩
  | idle | entering | locked | discarding | waiting => cases h
  | _ => exact Or.inl rfl

end Stage

/-- What the owner of the scan lock is due to make. -/
def owed (owner? : Option ℕ) (due : ℕ → List (Made δ η)) : List (Made δ η) :=
  match owner? with
  | none => []
  | some t => due t

lemma owed_update {owner? : Option ℕ} {t : ℕ} (h : owner? ≠ some t)
    (due : ℕ → List (Made δ η)) (cs : List (Made δ η)) :
    owed owner? (Function.update due t cs) = owed owner? due := by
  cases owner? with
  | none => rfl
  | some u => exact Function.update_of_ne (fun he => h (congrArg some he)) _ _

/-- A handle is open, or a thread is about to close one. -/
def InUse (v : View δ η) (stage : ℕ → Stage δ η) : Prop :=
  (∃ c ∈ v.channels, c.isClosed = false) ∨ ∃ t id info r, stage t = .closing id info r

/-- The invariant of the phase, the shared view, the owner of the scan lock, and the stages
and due calls of all threads. -/
structure Timely (p : Phase) (v : View δ η) (owner? : Option ℕ) (stage : ℕ → Stage δ η)
    (due : ℕ → List (Made δ η)) : Prop where
  fits : Fits p v.initialized v.shuttingDown (owed owner? due)
  calling : ∀ t, due t ≠ [] → (stage t).mayCall = true
  admitted : ∀ t, (stage t).isAdmitted = true → v.initialized = true
  inUse : InUse v stage → p = .during ∧ v.initialized = true
  closing : ∀ t id info r, stage t = .closing id info r →
    id ∈ v.registered ∧ ∀ c ∈ due t, c.isWork = true
  apart : ∀ t u id id' info info' r r', stage t = .closing id info r →
    stage u = .closing id' info' r' → t ≠ u → id ≠ id'

namespace Timely

variable {p : Phase} {v v' : View δ η} {owner? next? : Option ℕ} {stage : ℕ → Stage δ η}
  {due : ℕ → List (Made δ η)} {a b : Stage δ η} {t : ℕ} {c : Made δ η}
  {cs ds : List (Made δ η)}

/-- Threads that have not begun. -/
lemma start [Platform σ δ η] (layer : σ) :
    Timely .before (State.start layer : State σ δ η).manager.view none (fun _ => .idle)
      fun _ => [] where
  fits := .fresh false
  calling := by simp
  admitted := by simp [Stage.isAdmitted]
  inUse := by simp [InUse, State.start, view, ofPlatform]
  closing := by simp
  apart := by simp

/-- A thread has calls due only at some stages. -/
lemma due_eq_nil (h : Timely p v owner? stage due) (ht : stage t = a) (ha : a.mayCall = false) :
    due t = [] := by
  by_contra hcs
  have hmay := h.calling t hcs
  rw [ht, ha] at hmay
  cases hmay

/-- A layer that is not initialised is not in use. -/
lemma not_inUse (h : Timely p v owner? stage due) (hinit : v.initialized = false) :
    ¬ InUse v stage := fun hu => by
  rw [(h.inUse hu).2] at hinit
  cases hinit

/-! ### Calls -/

/-- A thread makes what it is due to make next. -/
lemma make (h : Timely p v owner? stage due) (ho : Orderly v owner? stage [])
    (ht : due t = c :: cs) :
    ∃ p', p.Allows c p' ∧ Timely p' v owner? stage (Function.update due t cs) := by
  have hmay : (stage t).mayCall = true := h.calling t (by simp [ht])
  have hcalling : ∀ u, Function.update due t cs u ≠ [] → (stage u).mayCall = true := by
    intro u hu
    by_cases hut : u = t
    · exact hut ▸ hmay
    · rw [Function.update_of_ne hut] at hu
      exact h.calling u hu
  rcases Stage.mayCall_cases hmay with hin | ⟨id, info, r, hclosing⟩
  · obtain rfl := ho.owner_eq hin
    have hfits : Fits p v.initialized v.shuttingDown (c :: cs) := ht ▸ h.fits
    obtain ⟨p', hallows, hfits', hduring⟩ := hfits.make
    refine ⟨p', hallows, { h with
      fits := by rwa [owed, Function.update_self]
      calling := hcalling
      inUse := fun hu => ⟨hduring (h.inUse hu), (h.inUse hu).2⟩
      closing := fun u id info r hu => ?_ }⟩
    have hut : u ≠ t := by
      rintro rfl
      rw [hu] at hin
      cases hin
    rw [Function.update_of_ne hut]
    exact h.closing u id info r hu
  · -- without the scan lock a thread calls only for the handle that it closes
    obtain ⟨rfl, hinit⟩ := h.inUse (Or.inr ⟨t, id, info, r, hclosing⟩)
    obtain ⟨-, hwork⟩ := h.closing t id info r hclosing
    rw [ht] at hwork
    have howner : owner? ≠ some t := ho.owner_ne (by rw [hclosing]; rfl)
    refine ⟨.during, .work (hwork c (List.mem_cons_self ..)), { h with
      fits := by rw [owed_update howner]; exact h.fits
      calling := hcalling
      closing := fun u id info r hu => ?_ }⟩
    by_cases hut : u = t
    · rw [hut, Function.update_self]
      exact ⟨(h.closing u id info r hu).1, fun x hx => hwork x (List.mem_cons_of_mem _ hx)⟩
    · rw [Function.update_of_ne hut]
      exact h.closing u id info r hu

/-! ### Steps outside the scan lock -/

/-- A change of the shared view that leaves open handles and closing threads in place. -/
lemma review (h : Timely p v owner? stage due) (hinit : v'.initialized = v.initialized)
    (hdown : v.shuttingDown = true → v'.shuttingDown = true)
    (hregistered : ∀ t id info r, stage t = .closing id info r → id ∈ v'.registered)
    (hopen : ∀ c ∈ v'.channels, c.isClosed = false → ∃ d ∈ v.channels, d.isClosed = false) :
    Timely p v' owner? stage due :=
  { h with
    fits := hinit ▸ h.fits.raise hdown
    admitted := fun t ht => hinit.trans (h.admitted t ht)
    inUse := by
      intro hu
      rw [hinit]
      refine h.inUse (hu.imp_left ?_)
      rintro ⟨c, hc, hco⟩
      exact hopen c hc hco
    closing := fun t id info r ht => ⟨hregistered t id info r ht, (h.closing t id info r ht).2⟩ }

/-- Threads without calls due come to stages at which there are none. -/
lemma restage (h : Timely p v owner? stage due) {stage' : ℕ → Stage δ η}
    (hstage : ∀ u, stage' u = stage u ∨ due u = [] ∧ (stage' u).mayCall = false)
    (howed : owed next? due = owed owner? due) : Timely p v next? stage' due := by
  have hback : ∀ u, (stage' u).mayCall = true → stage' u = stage u := fun u hu =>
    (hstage u).resolve_right fun hnew => by
      rw [hnew.2] at hu
      cases hu
  have hclosing : ∀ u id info r, stage' u = .closing id info r → stage u = .closing id info r :=
    fun u id info r hu => (hback u (by rw [hu]; rfl)).symm.trans hu
  exact {
    fits := howed ▸ h.fits
    calling := by
      intro u hu
      rw [(hstage u).resolve_right fun hnew => hu hnew.1]
      exact h.calling u hu
    admitted := fun u hu => h.admitted u (hback u (Stage.mayCall_of_isAdmitted hu) ▸ hu)
    inUse := fun hu => h.inUse <| hu.imp_right fun ⟨u, id, info, r, hu⟩ =>
      ⟨u, id, info, r, hclosing u id info r hu⟩
    closing := fun u id info r hu => h.closing u id info r (hclosing u id info r hu)
    apart := fun u w id id' info info' r r' hu hw =>
      h.apart u w id id' info info' r r' (hclosing u id info r hu) (hclosing w id' info' r' hw) }

/-- One thread does. -/
lemma move (h : Timely p v owner? stage due) (ht : due t = []) (hb : b.mayCall = false)
    (howed : owed next? due = owed owner? due) :
    Timely p v next? (Function.update stage t b) due := by
  refine h.restage (fun u => ?_) howed
  by_cases hut : u = t
  · rw [hut, Function.update_self]
    exact Or.inr ⟨ht, hb⟩
  · exact Or.inl (Function.update_of_ne hut _ _)

/-- A thread begins to close an open channel. -/
lemma close (h : Timely p v owner? stage due) (ho : Orderly v owner? stage [])
    (ht : stage t = .idle) {d : Channel δ η} (hd : d ∈ v.channels) (hopen : d.isClosed = false)
    (r : Except UsbError Unit) (hwork : ∀ c ∈ ds, c.isWork = true) :
    Timely p v owner? (Function.update stage t (.closing d.id d.info r))
      (Function.update due t ds) := by
  obtain ⟨hduring, hinit⟩ := h.inUse (Or.inl ⟨d, hd, hopen⟩)
  have howner : owner? ≠ some t := ho.owner_ne (by rw [ht]; rfl)
  -- no other thread closes this channel
  have hfresh : ∀ u id info r', stage u = .closing id info r' → d.id ≠ id := by
    intro u id info r' hu hid
    have hclosed := (ho.closing u id info r' hu).2 d hd hid
    rw [hopen] at hclosed
    cases hclosed
  exact {
    fits := by rw [owed_update howner]; exact h.fits
    calling := by
      intro u hu
      by_cases hut : u = t
      · rw [hut, Function.update_self]
        rfl
      · rw [Function.update_of_ne hut] at hu ⊢
        exact h.calling u hu
    admitted := fun _ _ => hinit
    inUse := fun _ => ⟨hduring, hinit⟩
    closing := by
      intro u id info r' hu
      by_cases hut : u = t
      · rw [hut, Function.update_self] at hu
        cases hu
        rw [hut, Function.update_self]
        exact ⟨ho.listed d hd hopen, hwork⟩
      · rw [Function.update_of_ne hut] at hu ⊢
        exact h.closing u id info r' hu
    apart := by
      intro u w id id' info info' r₁ r₂ hu hw huw
      by_cases hut : u = t <;> by_cases hwt : w = t
      · exact absurd (hut.trans hwt.symm) huw
      · rw [hut, Function.update_self] at hu
        rw [Function.update_of_ne hwt] at hw
        cases hu
        exact hfresh w id' info' r₂ hw
      · rw [hwt, Function.update_self] at hw
        rw [Function.update_of_ne hut] at hu
        cases hw
        exact (hfresh u id info r₁ hu).symm
      · rw [Function.update_of_ne hut] at hu
        rw [Function.update_of_ne hwt] at hw
        exact h.apart u w id id' info info' r₁ r₂ hu hw huw }

/-- A thread has closed its channel, whose id goes, and threads that wait are told. -/
lemma deregister (h : Timely p v owner? stage due) {id : ℕ} {info : RawInterface}
    {r : Except UsbError Unit} (ht : stage t = .closing id info r) (hdue : due t = [])
    {told : ℕ → Stage δ η} (htold : ∀ u, told u = stage u ∨
      ∃ timed b, stage u = .waiting timed b ∧ told u = .waiting timed true) :
    Timely p { v with registered := v.registered.filter (· != id) } owner?
      (Function.update told t .idle) due := by
  have hidle : Timely p v owner? (Function.update told t .idle) due := by
    refine h.restage (fun u => ?_) rfl
    by_cases hut : u = t
    · rw [hut, Function.update_self]
      exact Or.inr ⟨hdue, rfl⟩
    · rw [Function.update_of_ne hut]
      refine (htold u).imp_right ?_
      rintro ⟨timed, b, hu, hu'⟩
      rw [hu']
      exact ⟨h.due_eq_nil hu rfl, rfl⟩
  refine hidle.review rfl (fun hdown => hdown) ?_ fun c hc hopen => ⟨c, hc, hopen⟩
  -- no other thread closes that channel
  intro u id' info' r' hu
  have hut : u ≠ t := by
    rintro rfl
    rw [Function.update_self] at hu
    cases hu
  rw [Function.update_of_ne hut] at hu
  have hclose : stage u = .closing id' info' r' := by
    rcases htold u with he | ⟨timed, b, -, he⟩
    · exact he.symm.trans hu
    · cases he.symm.trans hu
  exact List.mem_filter.mpr ⟨(h.closing u id' info' r' hclose).1,
    by simpa using h.apart u t id' id info' info r' r hclose ht hut⟩

/-! ### Steps inside the scan lock -/

/-- The owner of the scan lock goes on. -/
lemma goOn (h : Timely p v owner? stage due) (ho : Orderly v owner? stage [])
    (ht : (stage t).isInside = true) (hb : b.isInside = true) (hmay : b.mayCall = true)
    (hfits : Fits p v'.initialized v'.shuttingDown ds)
    (hadmitted : b.isAdmitted = true → v'.initialized = true)
    (hinUse : InUse v' stage → p = .during ∧ v'.initialized = true)
    (hregistered : ∀ id ∈ v.registered, id ∈ v'.registered) :
    Timely p v' owner? (Function.update stage t b) (Function.update due t ds) := by
  obtain rfl := ho.owner_eq ht
  have hothers : ∀ u, u ≠ t → (stage u).isInside = false := fun u hu =>
    ho.outside fun he => hu (Option.some.inj he).symm
  have hclosing : ∀ u id info r, Function.update stage t b u = .closing id info r →
      u ≠ t ∧ stage u = .closing id info r := by
    intro u id info r hu
    by_cases hut : u = t
    · rw [hut, Function.update_self] at hu
      rw [hu] at hb
      cases hb
    · exact ⟨hut, (Function.update_of_ne hut b stage).symm.trans hu⟩
  exact {
    fits := by rwa [owed, Function.update_self]
    calling := by
      intro u hu
      by_cases hut : u = t
      · rwa [hut, Function.update_self]
      · rw [Function.update_of_ne hut] at hu ⊢
        exact h.calling u hu
    admitted := by
      intro u hu
      by_cases hut : u = t
      · rw [hut, Function.update_self] at hu
        exact hadmitted hu
      · rw [Function.update_of_ne hut] at hu
        have hin := hothers u hut
        rw [Stage.isInside_of_isAdmitted hu] at hin
        cases hin
    inUse := fun hu => hinUse <| hu.imp_right fun ⟨u, id, info, r, hu⟩ =>
      ⟨u, id, info, r, (hclosing u id info r hu).2⟩
    closing := by
      intro u id info r hu
      obtain ⟨hut, hu⟩ := hclosing u id info r hu
      obtain ⟨hid, hwork⟩ := h.closing u id info r hu
      exact ⟨hregistered id hid, by rwa [Function.update_of_ne hut]⟩
    apart := fun u w id id' info info' r r' hu hw =>
      h.apart u w id id' info info' r r' (hclosing u id info r hu).2
        (hclosing w id' info' r' hw).2 }

end Timely

end UsbPipe.Threads
