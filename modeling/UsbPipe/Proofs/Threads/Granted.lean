/-
Opens and the flag that refuses them.

The flag of a shutdown never goes down, an open is registered only while it is down, and an
open that returns a channel was registered.  So once the flag is up, a run registers nothing,
and what it returns was registered before.

* `Stage.granted?`: the id of an open that was registered and has not returned.
* `Step.shuttingDown_mono`, `Step.registered_down`, `Step.granted`, `Step.returned_granted`:
  the flag and the opens in one step.
* `Promised`, `promised_run`: what a run has shown by the time an open is registered, and by
  the time it returns.
* `registered_run`: a run with the flag up.
-/
import UsbPipe.Proofs.Threads.Worked

namespace UsbPipe.Threads

open Usb Manager

variable {σ δ η : Type}

/-! ### Registered opens -/

/-- The id of an open that was registered and has not returned. -/
def Stage.granted? : Stage δ η → Option ℕ
  | .registered _ id => some id
  | .leaving (.opened (.ok c)) => some c.id
  | _ => none

variable {v v' : View δ η} {stage : ℕ → Stage δ η} {t u id : ℕ} {a b : Stage δ η}

lemma Worked.shuttingDown_eq (h : Worked v a b v') : v'.shuttingDown = v.shuttingDown := by
  cases h <;> rfl

lemma granted?_refused (job : Job) (e : UsbError) :
    (.leaving (job.refused e) : Stage δ η).granted? = none := by
  cases job <;> rfl

/-- An open is registered by the step that shows it, and later steps keep its id. -/
lemma Worked.granted (h : Worked v a b v') (hb : b.granted? = some id) :
    a.granted? = some id ∨ ∃ c, b = .registered c id := by
  cases h with
  | turnedAway | initFailed =>
      rw [granted?_refused] at hb
      cases hb
  | registered c =>
      cases hb
      exact Or.inr ⟨c, rfl⟩
  | established c id' => exact Or.inl hb
  | _ => cases hb

/-- It is registered with the flag down. -/
lemma Worked.registered_down {c : Claimed δ η} (h : Worked v a (.registered c id) v') :
    v.shuttingDown = false := by
  cases h with
  | registered c hdown => exact hdown

/-- A thread at a stage without a registered open. -/
lemma granted?_update (hb : b.granted? = none)
    (h : (Function.update stage t b u).granted? = some id) : (stage u).granted? = some id := by
  rcases Stage.update_cases (u := u) rfl with he | he <;> rw [← he] at h
  · rw [hb] at h
    cases h
  · exact h

lemma Checked.granted?_eq {m m' : Manager (Watched σ η) δ η} {timed : Bool}
    {outcome? : Option (Outcome δ)} (h : Checked m timed b outcome? m') : b.granted? = none := by
  cases h <;> rfl

lemma Checked.not_opened {m m' : Manager (Watched σ η) δ η} {timed : Bool}
    {outcome? : Option (Outcome δ)} (h : Checked m timed b outcome? m') {c : Opened} :
    outcome? ≠ some (.opened (.ok c)) := by
  cases h <;> simp

lemma Stage.granted?_notified (a : Stage δ η) : a.notified.granted? = a.granted? := by
  cases a <;> rfl

variable [Platform σ δ η] {s s' : State σ δ η} {es : List (Notice δ)}

/-- The flag never goes down. -/
theorem Step.shuttingDown_mono (h : Step s es s') (hdown : s.manager.shuttingDown = true) :
    s'.manager.shuttingDown = true := by
  have hview : ∀ {m : Manager (Watched σ η) δ η} {cs}, m.view = s.manager.view.calling cs →
      m.shuttingDown = true := fun hm => (congrArg View.shuttingDown hm).trans hdown
  have hsame : ∀ {m : Manager (Watched σ η) δ η}, m.view = s.manager.view →
      m.shuttingDown = true := fun hm => (congrArg View.shuttingDown hm).trans hdown
  cases h with
  | call | lock | unlock | part | partIncomplete | deregister | forget | world | setTimeouts =>
      exact hdown
  | work t stage m hwork => exact (worked_of_advance hwork).shuttingDown_eq.trans hdown
  | discard t found e => exact hsame (view_discard found)
  | closeAgain t id c m hstage hc hclose =>
      exact hsame (congrArg view (eq_of_closeNative_none hclose))
  | close t id c result m hstage hc hclose =>
      obtain ⟨handle, -, hv⟩ := view_closeNative hclose
      exact (congrArg View.shuttingDown hv).trans hdown
  | begin t timed stage outcome? m hstage hcheck =>
      exact congrArg View.shuttingDown (hcheck.view_eq.trans view_beginShutdown)
  | wake t timed n stage outcome? m hstage hcheck => exact hsame hcheck.view_eq
  | write t id data =>
      rcases view_write (m := s.manager) id data with hv | ⟨c, handle, -, -, hv⟩
      · exact hsame hv
      · exact hview hv
  | read t id limit =>
      rcases view_receive (m := s.manager) id limit with hv | ⟨c, handle, -, -, hv⟩
      · exact hsame hv
      · exact hview hv
  | release f before after => exact hsame (view_release f.hold)

/-- A registered open was registered before, or is shown to be by this step. -/
theorem Step.granted (h : Step s es s') (hu : (s'.stage u).granted? = some id) :
    (s.stage u).granted? = some id ∨ .registered u id ∈ es := by
  cases h with
  | work t stage m hwork =>
      replace hu : (Function.update s.stage t stage u).granted? = some id := hu
      by_cases hut : u = t
      · rw [hut, Function.update_self] at hu
        rcases (worked_of_advance hwork).granted hu with ha | ⟨c, rfl⟩
        · exact Or.inl (hut ▸ ha)
        · exact Or.inr (by simp [shown, hut])
      · rw [Function.update_of_ne hut] at hu
        exact Or.inl hu
  | call | lock | unlock | part | partIncomplete | discard | closeAgain | close =>
      exact Or.inl (granted?_update rfl hu)
  | deregister t id' =>
      by_cases hut : u = t
      · simp [hut, Stage.granted?] at hu
      · simp only [Function.update_of_ne hut] at hu
        split_ifs at hu
        · exact Or.inl (Stage.granted?_notified (s.stage u) ▸ hu)
        · exact Or.inl hu
  | begin t timed stage outcome? m hstage hcheck =>
      exact Or.inl (granted?_update hcheck.granted?_eq hu)
  | wake t timed n stage outcome? m hstage hcheck =>
      exact Or.inl (granted?_update hcheck.granted?_eq hu)
  | _ => exact Or.inl hu

/-- An open is registered only while the flag is down. -/
theorem Step.registered_down (h : Step s es s') (hmem : .registered u id ∈ es) :
    s.manager.shuttingDown = false := by
  cases h with
  | work t stage m hwork =>
      cases stage with
      | registered c id' => exact (worked_of_advance hwork).registered_down
      | _ => cases hmem
  | _ => simp at hmem

/-- An open that returns was registered. -/
theorem Step.returned_granted (h : Step s es s') {c : Opened}
    (hmem : .returned u (.opened (.ok c)) ∈ es) : (s.stage u).granted? = some c.id := by
  cases h with
  | work t stage m hwork => cases stage <;> simp [shown] at hmem
  | unlock t outcome hstage =>
      obtain ⟨rfl, rfl⟩ : u = t ∧ .opened (.ok c) = outcome := by simpa using hmem
      rw [hstage, Stage.granted?]
  | begin t timed stage outcome? m hstage hcheck | wake t timed n stage outcome? m hstage hcheck =>
      have hopened := hcheck.not_opened (c := c)
      cases outcome? with
      | none => simp at hmem
      | some outcome =>
          refine absurd ?_ hopened
          simp only [Option.toList_some, List.map_cons, List.map_nil, List.mem_singleton,
            Notice.returned.injEq] at hmem
          rw [hmem.2]
  | _ => simp at hmem

/-- What a run has shown by the time an open is registered, and by the time it returns. -/
structure Promised (s : State σ δ η) (es : List (Notice δ)) : Prop where
  granted : ∀ t id, (s.stage t).granted? = some id → .registered t id ∈ es
  returned : ∀ t c, .returned t (.opened (.ok c)) ∈ es → .registered t c.id ∈ es

theorem promised_run {layer : σ} (hrun : Run (State.start layer : State σ δ η) es s) :
    Promised s es := by
  induction hrun with
  | refl => exact ⟨fun t id h => (by cases h), fun t c h => (by cases h)⟩
  | tail _ hstep ih =>
      refine ⟨fun t id h => ?_, fun t c h => ?_⟩
      · rcases hstep.granted h with h | h
        · exact List.mem_append_left _ (ih.granted t id h)
        · exact List.mem_append_right _ h
      · rcases List.mem_append.mp h with h | h
        · exact List.mem_append_left _ (ih.returned t c h)
        · exact List.mem_append_left _ (ih.granted t c.id (hstep.returned_granted h))

/-- Once the flag is up, it stays up and nothing is registered. -/
theorem registered_run {s₀ : State σ δ η} (hrun : Run s₀ es s)
    (hdown : s₀.manager.shuttingDown = true) :
    s.manager.shuttingDown = true ∧ ∀ t id, .registered t id ∉ es := by
  induction hrun with
  | refl => exact ⟨hdown, fun t id h => by cases h⟩
  | tail _ hstep ih =>
      refine ⟨hstep.shuttingDown_mono ih.1, fun t id h => ?_⟩
      rcases List.mem_append.mp h with h | h
      · exact ih.2 t id h
      · have hup := hstep.registered_down h
        rw [ih.1] at hup
        cases hup

end UsbPipe.Threads
