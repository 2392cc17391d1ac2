/-
The discipline of a session with the native layer.

However many threads there are and whatever order their steps and calls come in, a session
is a number of failed calls of `init`, then one that succeeds, then work, then the teardown;
it may end early.  Once the flag of a shutdown is up it stays up, and a scan or an open that
takes the scan lock is turned away without a call.

* `Step.inside_cases`: what a step does to a thread that has the scan lock.
* `answer?`: what a thread returned first.
* `Pace.Refuses`, `refuses_move`: a thread that is being turned away.
* `TurnedAway`, `turnedAway_course`: what becomes of it.
* `session_discipline`: the discipline of all courses.
-/
import UsbPipe.Bench.Basic
import UsbPipe.Proofs.Threads.Timely

namespace UsbPipe.Threads

open Usb Manager

variable {σ δ η : Type}

/-! ### A thread inside the scan lock -/

/-- What a thread returned first. -/
def answer? (t : ℕ) (es : List (Notice δ)) : Option (Outcome δ) :=
  es.findSome? fun
    | .returned u outcome => if u = t then some outcome else none
    | .registered _ _ => none

lemma answer?_append (t : ℕ) (es es' : List (Notice δ)) :
    answer? t (es ++ es') = (answer? t es).or (answer? t es') :=
  List.findSome?_append

lemma answer?_returned_ne {t u : ℕ} (h : t ≠ u) (outcome : Outcome δ) :
    answer? t [.returned u outcome] = none := by
  simp [answer?, h.symm]

lemma answer?_ne_none {t : ℕ} {outcome : Outcome δ} (es es' : List (Notice δ)) :
    answer? t (es ++ .returned t outcome :: es') ≠ none := by
  simp [answer?]

lemma answer?_shown (t u : ℕ) (a : Stage δ η) : answer? t (shown u a) = none := by
  cases a <;> rfl

section Inside

variable [Platform σ δ η] {s s' : State σ δ η} {es : List (Notice δ)} {t : ℕ}

/-- A thread that has the scan lock is left alone by the steps of other threads, and goes on
by itself: with what it does inside, or out of the lock with what it returns. -/
theorem Step.inside_cases (h : Step s es s') (hin : (s.stage t).isInside = true) :
    (s'.stage t = s.stage t ∧ answer? t es = none) ∨
    (∃ b m, advance s.manager (s.stage t) = some (b, m) ∧ s' = s.put t b m ∧ es = shown t b) ∨
    (∃ outcome, s.stage t = .leaving outcome ∧ s'.stage t = .idle ∧
      es = [.returned t outcome]) ∨
    ∃ scan, s.stage t = .parting scan := by
  have hne : ∀ {u a}, s.stage u = a → a.isInside = false → t ≠ u := by
    rintro u a ha hout rfl
    rw [ha, hout] at hin
    cases hin
  cases h with
  | call u job hstage =>
      exact Or.inl ⟨Function.update_of_ne (hne hstage rfl) _ _, rfl⟩
  | lock u job hstage =>
      exact Or.inl ⟨Function.update_of_ne (hne hstage rfl) _ _, rfl⟩
  | close u id c result m hstage =>
      exact Or.inl ⟨Function.update_of_ne (hne hstage rfl) _ _, rfl⟩
  | discard u found e hstage =>
      have htu := hne hstage rfl
      exact Or.inl ⟨Function.update_of_ne htu _ _, answer?_returned_ne htu _⟩
  | closeAgain u id c m hstage =>
      have htu := hne hstage rfl
      exact Or.inl ⟨Function.update_of_ne htu _ _, answer?_returned_ne htu _⟩
  | begin u timed stage outcome? m hstage =>
      have htu := hne hstage rfl
      refine Or.inl ⟨Function.update_of_ne htu _ _, ?_⟩
      cases outcome? with
      | none => rfl
      | some outcome => exact answer?_returned_ne htu _
  | wake u timed n stage outcome? m hstage =>
      have htu := hne hstage rfl
      refine Or.inl ⟨Function.update_of_ne htu _ _, ?_⟩
      cases outcome? with
      | none => rfl
      | some outcome => exact answer?_returned_ne htu _
  | deregister u id info result hstage =>
      have htu := hne hstage rfl
      refine Or.inl ⟨?_, answer?_returned_ne htu _⟩
      simp only [Function.update_of_ne htu]
      split_ifs
      · rcases (s.stage t).notified_cases with he | ⟨timed, b, hwait, -⟩
        · exact he
        · rw [hwait] at hin
          cases hin
      · rfl
  | work u stage m hwork =>
      by_cases htu : t = u
      · subst htu
        exact Or.inr (Or.inl ⟨stage, m, hwork, rfl, rfl⟩)
      · exact Or.inl ⟨Function.update_of_ne htu _ _, answer?_shown t u stage⟩
  | unlock u outcome hstage =>
      by_cases htu : t = u
      · subst htu
        exact Or.inr (Or.inr (Or.inl ⟨outcome, hstage, Function.update_self _ _ _, rfl⟩))
      · exact Or.inl ⟨Function.update_of_ne htu _ _, answer?_returned_ne htu _⟩
  | part u scan hstage =>
      by_cases htu : t = u
      · exact Or.inr (Or.inr (Or.inr ⟨scan, htu ▸ hstage⟩))
      · exact Or.inl ⟨Function.update_of_ne htu _ _, answer?_returned_ne htu _⟩
  | partIncomplete u scan e hstage =>
      by_cases htu : t = u
      · exact Or.inr (Or.inr (Or.inr ⟨scan, htu ▸ hstage⟩))
      · exact Or.inl ⟨Function.update_of_ne htu _ _, rfl⟩
  | forget | write | read | setTimeouts | release | world => exact Or.inl ⟨rfl, rfl⟩

end Inside

/-! ### Turned away -/

section Refuses

variable [Platform σ δ η] {x y : Pace σ δ η} {es : List (Notice δ)}
  {tr : List (ℕ × Made δ η)} {t : ℕ} {job : Job}

/-- With the flag up, a scan or an open goes from the entry straight to the way out. -/
lemma advance_of_down {m : Manager (Watched σ η) δ η} (hjob : job ≠ .teardown)
    (hdown : m.shuttingDown = true) :
    advance m (.locked job) = some (.leaving (job.refused .shuttingDown), m) := by
  have hready : m.ready = (.error .shuttingDown, m) := by rw [ready, if_pos hdown]
  cases job with
  | teardown => exact absurd rfl hjob
  | _ => simp only [advance, hready]

/-- A thread that is being turned away: behind the scan lock with the flag up, or on its way
out with the refusal, and with no call due. -/
structure Pace.Refuses (x : Pace σ δ η) (t : ℕ) (job : Job) : Prop where
  down : x.state.manager.shuttingDown = true
  due : x.due t = []
  stage : x.state.stage t = .locked job ∨
    x.state.stage t = .leaving (job.refused .shuttingDown)

/-- A step or a call leaves the thread so, without a call of its own, or makes it return the
refusal. -/
theorem refuses_move (h : x.Refuses t job) (hjob : job ≠ .teardown) (hm : x.Move es tr y) :
    (y.Refuses t job ∧ answer? t es = none ∧ ∀ c, (t, c) ∉ tr) ∨
      es = [.returned t (job.refused .shuttingDown)] ∧ tr = [] := by
  have hin : (x.state.stage t).isInside = true := by
    rcases h.stage with ht | ht <;> rw [ht] <;> rfl
  have hbusy : x.state.stage t ≠ .idle := by
    rcases h.stage with ht | ht <;> rw [ht] <;> simp
  cases hm with
  | @step u es s' hstep hdue hmoved =>
      have hdown := hstep.shuttingDown_mono h.down
      rcases hstep.inside_cases hin with ⟨hsame, hes⟩ | ⟨b, m, hwork, rfl, rfl⟩ |
        ⟨outcome, ht, -, rfl⟩ | ⟨scan, ht⟩
      · have hut : t ≠ u := by
          rintro rfl
          exact hmoved hsame
        have hidle : Function.update x.due u (x.state.made u s') t = [] :=
          (Function.update_of_ne hut _ _).trans h.due
        exact Or.inl ⟨⟨hdown, hidle, by rw [hsame]; exact h.stage⟩, hes, by simp⟩
      · have hut : t = u := by
          by_contra hut
          exact hmoved (Function.update_of_ne (Ne.symm hut) _ _)
        subst hut
        rcases h.stage with ht | ht
        · rw [ht, advance_of_down hjob h.down] at hwork
          cases hwork
          refine Or.inl ⟨⟨hdown, ?_, Or.inr (State.put_stage ..)⟩, rfl, by simp⟩
          exact (Function.update_self _ _ _).trans (State.made_eq_nil rfl)
        · rw [ht] at hwork
          cases hwork
      · right
        rcases h.stage with ht' | ht' <;> rw [ht] at ht' <;> cases ht'
        exact ⟨rfl, rfl⟩
      · rcases h.stage with ht' | ht' <;> rw [ht] at ht' <;> cases ht'
  | @stay u es s' hstep hsame hidle =>
      have hdown := hstep.shuttingDown_mono h.down
      have ht : s'.stage t = x.state.stage t := congrFun hsame t
      rcases hstep.inside_cases hin with ⟨-, hes⟩ | ⟨b, m, hwork, rfl, -⟩ |
        ⟨outcome, ht', hout, -⟩ | ⟨scan, ht'⟩
      · refine Or.inl ⟨⟨hdown, h.due, by rw [ht]; exact h.stage⟩, hes, fun c hc => ?_⟩
        obtain ⟨c', hc', he⟩ := List.mem_map.mp hc
        obtain rfl := (Prod.mk.inj he).1
        exact hbusy (hidle (List.ne_nil_of_mem hc'))
      · have hb : b = x.state.stage t := (State.put_stage ..).symm.trans ht
        exact absurd hb (worked_of_advance hwork).stage_ne
      · exact absurd (ht.symm.trans hout) hbusy
      · rcases h.stage with hs | hs <;> rw [ht'] at hs <;> cases hs
  | make u c cs hdue =>
      have hut : t ≠ u := by
        rintro rfl
        rw [h.due] at hdue
        cases hdue
      refine Or.inl ⟨⟨h.down, ?_, h.stage⟩, rfl, fun c' hc' => ?_⟩
      · exact (Function.update_of_ne hut _ _).trans h.due
      · exact hut (Prod.mk.inj (List.mem_singleton.mp hc')).1

omit [Platform σ δ η] in
/-- A thread that moves on with nothing due moves no thread that has something due. -/
lemma stage_of_due (hdue : x.due t = []) {b : Stage δ η} {u : ℕ} (hu : x.due u ≠ []) :
    Function.update x.state.stage t b u = x.state.stage u := by
  have hut : u ≠ t := by
    rintro rfl
    exact hu hdue
  exact Function.update_of_ne hut _ _

/-- A thread with its outcome leaves. -/
lemma exists_course_of_leaving {outcome : Outcome δ} (hdue : x.due t = [])
    (ht : x.state.stage t = .leaving outcome) : ∃ z, x.Course [.returned t outcome] [] z :=
  ⟨_, (Pace.Course.refl x).tail (.step t (.unlock t outcome ht) (fun _ hu => stage_of_due hdue hu)
    (by simp [State.put, ht]))⟩

/-- A thread that is being turned away comes to return, by steps of its own and without a
call. -/
lemma Pace.Refuses.exists_course (h : x.Refuses t job) (hjob : job ≠ .teardown) :
    ∃ z, x.Course [.returned t (job.refused .shuttingDown)] [] z := by
  rcases h.stage with ht | ht
  · have hwork : advance x.state.manager (x.state.stage t) =
        some (.leaving (job.refused .shuttingDown), x.state.manager) := by
      rw [ht]
      exact advance_of_down hjob h.down
    set s := x.state.put t (.leaving (job.refused .shuttingDown)) x.state.manager
    have hmove : x.Move [] [] ⟨s, Function.update x.due t (x.state.made t s)⟩ :=
      .step t (.work t _ _ hwork) (fun _ hu => stage_of_due h.due hu)
        (by rw [State.put_stage, ht]; simp)
    have hdue : Function.update x.due t (x.state.made t s) t = [] :=
      (Function.update_self _ _ _).trans (State.made_eq_nil rfl)
    obtain ⟨z, hleave⟩ := exists_course_of_leaving
      (x := ⟨s, Function.update x.due t (x.state.made t s)⟩) hdue (State.put_stage ..)
    exact ⟨z, ((Pace.Course.refl x).tail hmove).trans hleave⟩
  · exact exists_course_of_leaving h.due ht

/-- What becomes of a thread that takes the scan lock for a scan or an open when the flag of
a shutdown is up.  Either it has not returned yet and has made no call, and by itself it comes
to return the refusal; or the refusal is the first that it returned, and up to then it made no
call. -/
inductive TurnedAway (x : Pace σ δ η) (t : ℕ) (job : Job) (es : List (Notice δ))
    (tr : List (ℕ × Made δ η)) (y : Pace σ δ η) : Prop where
  | inside (hnone : answer? t es = none) (hsilent : ∀ c, (t, c) ∉ tr)
      (hreturns : ∃ z, y.Course [.returned t (job.refused .shuttingDown)] [] z)
  | outside {z : Pace σ δ η} {es₁ es₂ : List (Notice δ)} {tr₁ tr₂ : List (ℕ × Made δ η)}
      (hbefore : x.Course (es₁ ++ [.returned t (job.refused .shuttingDown)]) tr₁ z)
      (hafter : z.Course es₂ tr₂ y)
      (hes : es = es₁ ++ .returned t (job.refused .shuttingDown) :: es₂) (htr : tr = tr₁ ++ tr₂)
      (hnone : answer? t es₁ = none) (hsilent : ∀ c, (t, c) ∉ tr₁)

/-- In a course from where a thread is being turned away, it is. -/
theorem turnedAway_course (h : x.Refuses t job) (hjob : job ≠ .teardown)
    (hc : x.Course es tr y) :
    TurnedAway x t job es tr y ∧ (answer? t es = none → y.Refuses t job) := by
  induction hc with
  | refl => exact ⟨.inside rfl (by simp) (h.exists_course hjob), fun _ => h⟩
  | tail hcourse hmove ih =>
      obtain ⟨haway, hrefuses⟩ := ih
      cases haway with
      | inside hnone hsilent =>
          rcases refuses_move (hrefuses hnone) hjob hmove with ⟨hz, hnone', hsilent'⟩ | ⟨rfl, rfl⟩
          · refine ⟨.inside ?_ (fun c hc => ?_) (hz.exists_course hjob), fun _ => hz⟩
            · rw [answer?_append, hnone, hnone', Option.none_or]
            · exact (List.mem_append.mp hc).elim (hsilent c) (hsilent' c)
          · have hout := hcourse.tail hmove
            rw [List.append_nil] at hout ⊢
            exact ⟨.outside hout (.refl _) rfl (List.append_nil _).symm hnone hsilent,
              fun hes => absurd hes (answer?_ne_none _ [])⟩
      | outside hbefore hafter hes htr hnone hsilent =>
          subst hes htr
          rw [List.append_assoc, List.append_assoc]
          exact ⟨.outside hbefore (hafter.tail hmove) rfl rfl hnone hsilent,
            fun hes => absurd hes (answer?_ne_none _ _)⟩

end Refuses

/-! ### The discipline of a session -/

/-- However many threads there are and whatever order their steps and their calls come in,
what is made is a number of failed initialisations, one that succeeds, work, and a teardown,
of which there may be a first part only.  Once the flag of a shutdown is up it stays up, and
a scan or an open that takes the scan lock then is turned away. -/
theorem session_discipline [Platform σ δ η] {layer : σ} {x : Pace σ δ η} {es : List (Notice δ)}
    {tr : List (ℕ × Made δ η)} (hcourse : (Pace.start layer).Course es tr x) :
    (∃ p : Phase, p.Reached (tr.map Prod.snd)) ∧
    (x.state.manager.shuttingDown = true → ∀ es' tr' y, x.Course es' tr' y →
      y.state.manager.shuttingDown = true ∧
      ∀ t job, job ≠ .teardown → x.state.stage t = .locked job →
        TurnedAway x t job es' tr' y) := by
  obtain ⟨p, htimely, hreached⟩ := timely_course hcourse
  refine ⟨⟨p, hreached⟩, fun hdown es' tr' y hlater => ⟨?_, fun t job hjob ht => ?_⟩⟩
  · exact (registered_run hlater.run hdown).1
  · have hrefuses : x.Refuses t job := ⟨hdown, htimely.due_eq_nil ht rfl, Or.inl ht⟩
    exact (turnedAway_course hrefuses hjob hlater).1

/-- A scan is turned away between the first and the last step of a shutdown, after another
scan was served. -/
theorem session_discipline_refused :
    let layer : Bench := ({} : Bench).attach (.raw ⟨1, 4⟩ 2 0x1209 0x0001)
    ∃ (es es' : List (Notice Instance)) (tr tr' : List (ℕ × Made Instance DeviceKey))
      (x y : Pace Bench Instance DeviceKey),
      (Pace.start layer).Course es tr x ∧ x.state.manager.shuttingDown = true ∧
      x.state.stage 2 = .locked (.scan {}) ∧ x.Course es' tr' y ∧
      ((tr ++ tr').map Prod.snd).filterMap Made.call? = [.init true, .listing, .teardown] ∧
      (∃ p : Phase, p.Reached ((tr ++ tr').map Prod.snd)) ∧
      y.state.manager.shuttingDown = true ∧ TurnedAway x 2 (.scan {}) es' tr' y := by
  intro layer
  let start : State Bench Instance DeviceKey := State.start layer
  -- thread 0 scans
  have hscanned := (((((Run.refl start).tail (.call 0 (.scan {}) rfl (by simp))).tail
    (.lock 0 _ rfl rfl)).tail (.work 0 _ _ rfl)).tail (.work 0 _ _ rfl)).tail (.unlock 0 _ rfl)
  -- thread 1 begins to shut down, and thread 2 takes the scan lock
  have hbefore := ((hscanned.tail (.begin 1 false _ _ _ rfl (.clear rfl))).tail
    (.call 2 (.scan {}) rfl (by simp))).tail (.lock 2 _ rfl rfl)
  obtain ⟨es', s, s', hbefore, hdown, hlocked, hafter, hcalls⟩ :
      ∃ es' s s', Run start _ s ∧ s.manager.shuttingDown = true ∧
        s.stage 2 = .locked (.scan {}) ∧ Run s es' s' ∧
        s'.calls = [.init true, .listing, .teardown] := by
    -- thread 2 leaves, and thread 1 tears down
    exact ⟨_, _, _, hbefore, rfl, rfl, ((((Run.refl _).tail (.work 2 _ _ rfl)).tail
      (.unlock 2 _ rfl)).tail (.lock 1 _ rfl rfl)).tail (.work 1 _ _ rfl), rfl⟩
  obtain ⟨tr, hcourse, hmade⟩ := hbefore.course
  obtain ⟨tr', hlater, hmade'⟩ := hafter.course
  obtain ⟨hup, haway⟩ := (session_discipline hcourse).2 hdown _ _ _ hlater
  refine ⟨_, es', tr, tr', _, _, hcourse, hdown, hlocked, hlater, ?_,
    (session_discipline (hcourse.trans hlater)).1, hup, haway 2 _ (by simp) hlocked⟩
  rw [List.map_append, List.filterMap_append, ← hcalls, hmade', hmade]
  rfl

end UsbPipe.Threads
