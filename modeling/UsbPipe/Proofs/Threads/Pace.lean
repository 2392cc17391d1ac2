/-
Threads that make their native calls one at a time.

A step inside the scan lock and a close may make several native calls, and a scan looks at
many devices.  Here a step only settles which calls those are.  They are then due, and the
thread makes them one by one; other threads go on meanwhile, within what the locks allow,
and make calls of their own in between.  A thread with calls due stays where it is, so it
keeps its lock until it has made them.

* `Made`: a native call or a look at a device, and `Made.isWork`: that it neither begins nor
  ends the use of the native layer.
* `State.made`: what a step makes a thread do.
* `Pace`: the threads with what each of them is due to make.
* `Pace.Move`, `Pace.Course`: a step or a call, and a run of both, with what shows and what
  is made by which thread.
* `Pace.Course.run`: a course is a run of its states.
* `Run.course`: a run is a course in which every call is made at once.
-/
import UsbPipe.Proofs.Scan.Looks
import UsbPipe.Proofs.Threads.Worked

namespace UsbPipe.Threads

open Usb Manager

variable {σ δ η : Type}

/-! ### What is made -/

/-- A native call, or a look at a device. -/
inductive Made (δ η : Type) where
  | call (c : Call η)
  | look (l : Look δ)

namespace Made

/-- Neither the begin nor the end of the use of the native layer. -/
def isWork : Made δ η → Bool
  | call (.init _) | call .teardown => false
  | _ => true

/-- The call, if it is one that the native layer notes. -/
def call? : Made δ η → Option (Call η)
  | call c => some c
  | look _ => none

end Made

/-- The stage of a thread that moved on. -/
lemma State.put_stage (s : State σ δ η) (t : ℕ) (a : Stage δ η)
    (m : Manager (Watched σ η) δ η) : (s.put t a m).stage t = a :=
  Function.update_self _ _ _

/-- The calls that a step added. -/
def State.fresh (s s' : State σ δ η) : List (Call η) := s'.calls.drop s.calls.length

lemma State.fresh_eq {s s' : State σ δ η} {cs : List (Call η)} (h : s'.calls = s.calls ++ cs) :
    s.fresh s' = cs := by
  rw [fresh, h, List.drop_left]

section Looks

variable [Platform σ δ η]

instance [SteadyLooks σ] : SteadyLooks (Watched σ η) where
  retain d w := SteadyReadings.retain d w.layer
  devices w := SteadyReadings.devices w.layer
  same_retain d w := SteadyLooks.same_retain d w.layer
  same_devices w := SteadyLooks.same_devices w.layer

/-- What a thread is going to look at. -/
def Stage.looks (m : Manager (Watched σ η) δ η) : Stage δ η → List (Look δ)
  | .ready (.scan filter) | .ready (.enumerate filter) => m.lookWalk filter
  | .ready (.open info) => m.lookWalk (idsOf info)
  | _ => []

/-- A call of a thread; the looks of a scan follow on the listing. -/
def Stage.making (m : Manager (Watched σ η) δ η) (a : Stage δ η) : Call η → List (Made δ η)
  | .listing => .call .listing :: (a.looks m).map .look
  | c => [.call c]

/-- What a step makes a thread do. -/
def State.made (s : State σ δ η) (t : ℕ) (s' : State σ δ η) : List (Made δ η) :=
  (s.fresh s').flatMap ((s.stage t).making s.manager)

/-- A step without calls makes it do nothing. -/
lemma State.made_eq_nil {s s' : State σ δ η} {t : ℕ} (h : s'.calls = s.calls) :
    s.made t s' = [] := by
  rw [made, fresh_eq (h.trans (List.append_nil _).symm), List.flatMap_nil]

/-- Whatever a thread does for a call is work if the call is. -/
lemma Stage.isWork_of_mem_making {m : Manager (Watched σ η) δ η} {a : Stage δ η} {c : Call η}
    (hc : (Made.call c : Made δ η).isWork = true) {x : Made δ η} (hx : x ∈ a.making m c) :
    x.isWork = true := by
  cases c with
  | listing =>
      rcases List.mem_cons.mp hx with rfl | hx
      · rfl
      · obtain ⟨l, -, rfl⟩ := List.mem_map.mp hx
        rfl
  | _ =>
      obtain rfl := List.mem_singleton.mp hx
      exact hc

lemma Stage.filterMap_making (m : Manager (Watched σ η) δ η) (a : Stage δ η) (c : Call η) :
    (a.making m c).filterMap Made.call? = [c] := by
  cases c with
  | listing =>
      simp [making, Made.call?, List.filterMap_map, Function.comp_def]
  | _ => rfl

/-- A step makes a thread do the calls that it adds. -/
lemma State.filterMap_made (s : State σ δ η) (t : ℕ) (s' : State σ δ η) :
    (s.made t s').filterMap Made.call? = s.fresh s' := by
  rw [made]
  induction s.fresh s' with
  | nil => rfl
  | cons c cs ih =>
      rw [List.flatMap_cons, List.filterMap_append, ih, Stage.filterMap_making,
        List.singleton_append]

end Looks

/-! ### Courses -/

/-- Threads, and what each of them is due to make. -/
structure Pace (σ δ η : Type) where
  state : State σ δ η
  due : ℕ → List (Made δ η) := fun _ => []

namespace Pace

/-- Idle threads around an untouched manager. -/
def start (layer : σ) : Pace σ δ η := { state := .start layer }

variable [Platform σ δ η]

/-- A step or a call, with what shows of it and what is made by which thread. -/
inductive Move (x : Pace σ δ η) : List (Notice δ) → List (ℕ × Made δ η) → Pace σ δ η → Prop where
  /-- A step that brings a thread to another stage.  Its calls are due from then on, and the
  threads with calls due stay where they are. -/
  | step (t : ℕ) {es : List (Notice δ)} {s' : State σ δ η} (hstep : Step x.state es s')
      (hdue : ∀ u, x.due u ≠ [] → s'.stage u = x.state.stage u)
      (hmoved : s'.stage t ≠ x.state.stage t) :
      Move x es [] ⟨s', Function.update x.due t (x.state.made t s')⟩
  /-- A step that leaves all threads at their stages: a transfer is made at once, by a thread
  outside all other operations. -/
  | stay (t : ℕ) {es : List (Notice δ)} {s' : State σ δ η} (hstep : Step x.state es s')
      (hsame : s'.stage = x.state.stage)
      (hidle : x.state.fresh s' ≠ [] → x.state.stage t = .idle) :
      Move x es ((x.state.fresh s').map fun c => (t, .call c)) ⟨s', x.due⟩
  /-- A thread makes what it is due to make next. -/
  | make (t : ℕ) (c : Made δ η) (cs : List (Made δ η)) (hdue : x.due t = c :: cs) :
      Move x [] [(t, c)] ⟨x.state, Function.update x.due t cs⟩

/-- A run of moves. -/
inductive Course : Pace σ δ η → List (Notice δ) → List (ℕ × Made δ η) → Pace σ δ η → Prop where
  | refl (x : Pace σ δ η) : Course x [] [] x
  | tail {x y z : Pace σ δ η} {es es' : List (Notice δ)} {tr tr' : List (ℕ × Made δ η)}
      (hcourse : Course x es tr y) (hmove : Move y es' tr' z) :
      Course x (es ++ es') (tr ++ tr') z

variable {x y z : Pace σ δ η} {es es' : List (Notice δ)} {tr tr' : List (ℕ × Made δ η)}

lemma Course.trans (h : Course x es tr y) (h' : Course y es' tr' z) :
    Course x (es ++ es') (tr ++ tr') z := by
  induction h' with
  | refl => rwa [List.append_nil, List.append_nil]
  | tail _ hmove ih =>
      rw [← List.append_assoc, ← List.append_assoc]
      exact ih.tail hmove

/-- The states of a move are those of a run. -/
lemma Move.run (h : Move x es tr y) : Run x.state es y.state := by
  cases h with
  | step t hstep => exact (Run.refl x.state).tail hstep
  | stay t hstep => exact (Run.refl x.state).tail hstep
  | make => exact .refl x.state

/-- A course is a run of its states. -/
lemma Course.run (h : Course x es tr y) : Run x.state es y.state := by
  induction h with
  | refl => exact .refl _
  | tail _ hmove ih => exact ih.trans hmove.run

/-! ### Calls that are made at once -/

/-- A thread makes all that it is due to make. -/
lemma course_make (s : State σ δ η) (t : ℕ) (cs : List (Made δ η)) (due : ℕ → List (Made δ η)) :
    Course ⟨s, Function.update due t cs⟩ [] (cs.map fun c => (t, c))
      ⟨s, Function.update due t []⟩ := by
  induction cs with
  | nil => exact .refl _
  | cons c cs ih =>
      have hmove : Move ⟨s, Function.update due t (c :: cs)⟩ [] [(t, c)]
          ⟨s, Function.update due t cs⟩ := by
        have hmake := Move.make (x := ⟨s, Function.update due t (c :: cs)⟩) t c cs
          (Function.update_self _ _ _)
        rwa [Function.update_idem] at hmake
      exact ((Course.refl _).tail hmove).trans ih

end Pace

/-- A step inside the scan lock goes on to another stage. -/
lemma Worked.stage_ne {v v' : View δ η} {a b : Stage δ η} (h : Worked v a b v') : b ≠ a := by
  cases h <;> simp

variable [Platform σ δ η] {s s' : State σ δ η} {es : List (Notice δ)}

/-- A call that leaves all threads at their stages is made by a thread outside. -/
lemma Step.idle_of_fresh (h : Step s es s') (hsame : s'.stage = s.stage)
    (hfresh : s.fresh s' ≠ []) : ∃ t, s.stage t = .idle := by
  have hquiet : ∀ {m : Manager (Watched σ η) δ η}, m.view = s.manager.view →
      m.platform.calls = s.calls ++ [] := fun hm =>
    (congrArg View.calls hm).trans (List.append_nil _).symm
  cases h with
  | call t _ hstage | closeAgain t _ _ _ hstage | close t _ _ _ _ hstage
  | begin t _ _ _ _ hstage | write t _ _ hstage | read t _ _ hstage
  | setTimeouts t _ _ _ hstage => exact ⟨t, hstage⟩
  | lock | unlock | part | partIncomplete | deregister | forget | world =>
      exact absurd (State.fresh_eq (List.append_nil _).symm) hfresh
  | discard _ found => exact absurd (State.fresh_eq (hquiet (view_discard found))) hfresh
  | wake _ _ _ _ _ _ _ hcheck =>
      exact absurd (State.fresh_eq (hquiet hcheck.view_eq)) hfresh
  | release f => exact absurd (State.fresh_eq (hquiet (view_release f.hold))) hfresh
  | work t stage m hwork =>
      have hstage : stage = s.stage t := (s.put_stage t stage m).symm.trans (congrFun hsame t)
      exact absurd hstage (worked_of_advance hwork).stage_ne

/-- A step whose calls are made at once. -/
lemma Step.course (h : Step s es s') : ∃ tr, Pace.Course ⟨s, fun _ => []⟩ es tr ⟨s', fun _ => []⟩ ∧
    (tr.map Prod.snd).filterMap Made.call? = s.fresh s' := by
  by_cases hsame : s'.stage = s.stage
  · obtain ⟨t, hidle⟩ : ∃ t, s.fresh s' ≠ [] → s.stage t = .idle := by
      by_cases hfresh : s.fresh s' = []
      · exact ⟨0, absurd hfresh⟩
      · obtain ⟨t, ht⟩ := h.idle_of_fresh hsame hfresh
        exact ⟨t, fun _ => ht⟩
    refine ⟨_, (Pace.Course.refl _).tail (.stay t h hsame hidle), ?_⟩
    simp [List.filterMap_map, Function.comp_def, Made.call?]
  · obtain ⟨t, hmoved⟩ := Function.ne_iff.mp hsame
    have hstep : Pace.Move ⟨s, fun _ => []⟩ es []
        ⟨s', Function.update (fun _ => []) t (s.made t s')⟩ :=
      .step t h (fun _ hdue => absurd rfl hdue) hmoved
    have hmake := Pace.course_make s' t (s.made t s') fun _ => []
    rw [Function.update_eq_self (f := fun _ : ℕ => ([] : List (Made δ η))) t] at hmake
    have hcourse := ((Pace.Course.refl _).tail hstep).trans hmake
    rw [List.append_nil] at hcourse
    refine ⟨_, hcourse, ?_⟩
    simpa [Function.comp_def] using s.filterMap_made t s'

/-- A run is a course in which every call is made at once, and the calls that are made are
those that the native layer notes. -/
theorem Run.course (h : Run s es s') :
    ∃ tr, Pace.Course ⟨s, fun _ => []⟩ es tr ⟨s', fun _ => []⟩ ∧
      s'.calls = s.calls ++ (tr.map Prod.snd).filterMap Made.call? := by
  induction h with
  | refl => exact ⟨[], .refl _, (List.append_nil _).symm⟩
  | tail _ hstep ih =>
      obtain ⟨tr, hcourse, hcalls⟩ := ih
      obtain ⟨tr', hcourse', hcalls'⟩ := hstep.course
      obtain ⟨cs, hcs, -⟩ := hstep.calls_append
      refine ⟨_, hcourse.trans hcourse', ?_⟩
      rw [List.map_append, List.filterMap_append, hcalls', hcs, State.fresh_eq hcs, hcalls,
        List.append_assoc]

end UsbPipe.Threads
