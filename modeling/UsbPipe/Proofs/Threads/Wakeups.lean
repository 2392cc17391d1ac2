/-
No wakeup of a shutdown is lost.

A shutdown looks at the open channels and begins to wait in one step, and the step that takes
a channel off the registry tells every shutdown that waits.  So whoever waits without having
been told has an open channel to wait for, whatever the others do around it.  And since an
open is registered only while the flag is down, what a shutdown waits for only gets less.

* `Worked.registered_cases`, `Step.registered_cases`: what a step does to the registry.
* `Checked.attended`, `Step.waiting_cases`: where a thread that waits untold comes from.
* `Attended`, `Attended.step`, `attended_run`: nobody waits untold for nothing.
* `registered_sublist`: the registry of a run that begins with the flag up.
* `no_lost_wakeup`: what a shutdown that waits can count on.
-/
import UsbPipe.Proofs.Threads.Teardown

namespace UsbPipe.Threads

open Usb Manager
open scoped List

variable {σ δ η : Type}
variable {v v' : View δ η} {t : ℕ} {a b : Stage δ η}

/-! ### The registry in one step -/

/-- A thread that was told does not wait untold. -/
lemma Stage.notified_ne_untold (a : Stage δ η) (timed : Bool) :
    a.notified ≠ .waiting timed false := by
  cases a <;> simp [notified]

/-- Inside the scan lock the registry only grows, and only with the flag down. -/
lemma Worked.registered_cases (h : Worked v a b v') :
    v'.registered = v.registered ∨
      (v.shuttingDown = false ∧ v'.registered = v.registered ++ [v.lastId + 1]) := by
  cases h with
  | registered c hdown => exact Or.inr ⟨hdown, rfl⟩
  | _ => exact Or.inl rfl

/-- Nobody waits inside the scan lock. -/
lemma Worked.not_waiting (h : Worked v a b v') (timed n : Bool) : b ≠ .waiting timed n := by
  cases h <;> simp

/-- A shutdown that goes on to wait has seen an open channel. -/
lemma Checked.attended {m m' : Manager (Watched σ η) δ η} {timed timed' n : Bool}
    {outcome? : Option (Outcome δ)} (h : Checked m timed (.waiting timed' n) outcome? m') :
    m.registered ≠ [] := by
  cases h with
  | wait hopen => exact hopen

variable [Platform σ δ η] {s s' s₀ : State σ δ η} {es es₀ : List (Notice δ)}

/-- What a step does to the registry: nothing, or an open enters with the flag down, or a
closed channel leaves, which every shutdown that waits is told if the channel was in it. -/
theorem Step.registered_cases (h : Step s es s') :
    s'.manager.registered = s.manager.registered ∨
    (s.manager.shuttingDown = false ∧
      s'.manager.registered = s.manager.registered ++ [s.manager.lastId + 1]) ∨
    ∃ id, s'.manager.registered = s.manager.registered.filter (· != id) ∧
      (id ∈ s.manager.registered → ∀ u timed, s'.stage u ≠ .waiting timed false) := by
  have hsame : ∀ {m : Manager (Watched σ η) δ η}, m.view = s.manager.view →
      m.registered = s.manager.registered := fun hm => congrArg View.registered hm
  have hcalled : ∀ {m : Manager (Watched σ η) δ η} {cs}, m.view = s.manager.view.calling cs →
      m.registered = s.manager.registered := fun hm => congrArg View.registered hm
  cases h with
  | call | lock | unlock | part | partIncomplete | forget | world | setTimeouts => exact Or.inl rfl
  | work t stage m hwork =>
      exact (worked_of_advance hwork).registered_cases.imp_right Or.inl
  | discard t found e => exact Or.inl (hsame (view_discard found))
  | closeAgain t id c m hstage hc hclose =>
      exact Or.inl (hsame (congrArg view (eq_of_closeNative_none hclose)))
  | close t id c result m hstage hc hclose =>
      obtain ⟨handle, -, hv⟩ := view_closeNative hclose
      exact Or.inl (congrArg View.registered hv)
  | deregister t id info result hstage =>
      refine Or.inr (Or.inr ⟨id, rfl, fun hmem u timed hu => ?_⟩)
      simp only [if_pos hmem] at hu
      rcases Stage.update_cases hu with hb | hu
      · cases hb
      · exact (s.stage u).notified_ne_untold timed hu
  | begin t timed stage outcome? m hstage hcheck =>
      exact Or.inl (congrArg View.registered (hcheck.view_eq.trans view_beginShutdown))
  | wake t timed n stage outcome? m hstage hcheck => exact Or.inl (hsame hcheck.view_eq)
  | write t id data =>
      rcases view_write (m := s.manager) id data with hv | ⟨c, handle, -, -, hv⟩
      · exact Or.inl (hsame hv)
      · exact Or.inl (hcalled hv)
  | read t id limit =>
      rcases view_receive (m := s.manager) id limit with hv | ⟨c, handle, -, -, hv⟩
      · exact Or.inl (hsame hv)
      · exact Or.inl (hcalled hv)
  | release f before after => exact Or.inl (hsame (view_release f.hold))

/-- A thread that waits untold did so before the step, or it has just seen an open channel. -/
theorem Step.waiting_cases (h : Step s es s') {u : ℕ} {timed : Bool}
    (hu : s'.stage u = .waiting timed false) :
    s.stage u = .waiting timed false ∨ s'.manager.registered ≠ [] := by
  have hmoved : ∀ {t : ℕ} {b : Stage δ η}, (∀ timed n, b ≠ .waiting timed n) →
      Function.update s.stage t b u = .waiting timed false → s.stage u = .waiting timed false :=
    fun hb hu => (Stage.update_cases hu).resolve_left (hb _ _)
  cases h with
  | call | lock | unlock | part | partIncomplete | discard | closeAgain | close =>
      exact Or.inl (hmoved (by simp) hu)
  | work t stage m hwork => exact Or.inl (hmoved (worked_of_advance hwork).not_waiting hu)
  | deregister t id info result hstage =>
      simp only at hu
      rcases Stage.update_cases hu with hb | hu
      · cases hb
      · split_ifs at hu
        · exact absurd hu ((s.stage u).notified_ne_untold timed)
        · exact Or.inl hu
  | begin t timed' stage outcome? m hstage hcheck
  | wake t timed' n stage outcome? m hstage hcheck =>
      rcases Stage.update_cases hu with rfl | hu
      · have hreg : m.registered = _ := congrArg View.registered hcheck.view_eq
        exact Or.inr fun hnil => hcheck.attended (hreg.symm.trans hnil)
      · exact Or.inl hu
  | _ => exact Or.inl hu

/-! ### Runs -/

/-- Whoever waits without having been told has an open channel to wait for. -/
def Attended (s : State σ δ η) : Prop :=
  ∀ t timed, s.stage t = .waiting timed false → s.manager.registered ≠ []

theorem Attended.step (h : Attended s) (hs : Step s es s') : Attended s' := by
  intro u timed hu
  rcases hs.waiting_cases hu with hbefore | hopen
  · have hne := h u timed hbefore
    rcases hs.registered_cases with heq | ⟨-, heq⟩ | ⟨id, heq, htold⟩ <;> rw [heq]
    · exact hne
    · simp
    · -- the channel that left was not registered, or the thread would have been told
      have hnot : id ∉ s.manager.registered := fun hmem => htold hmem u timed hu
      rwa [filter_ne_eq_self fun x hx => ne_of_mem_of_not_mem hx hnot]
  · exact hopen

theorem attended_run {layer : σ} (hrun : Run (State.start layer) es s) : Attended s := by
  induction hrun with
  | refl => exact fun t timed ht => by cases ht
  | tail _ hstep ih => exact ih.step hstep

/-- With the flag up the registry only loses channels. -/
theorem registered_sublist (hrun : Run s₀ es s) (hdown : s₀.manager.shuttingDown = true) :
    s.manager.registered <+ s₀.manager.registered := by
  induction hrun with
  | refl => exact List.Sublist.refl _
  | tail hrun hstep ih =>
      have hup := (registered_run hrun hdown).1
      rcases hstep.registered_cases with heq | ⟨hlow, -⟩ | ⟨id, heq, -⟩
      · exact heq ▸ ih
      · rw [hup] at hlow
        cases hlow
      · exact heq ▸ List.filter_sublist.trans ih

/-- However many threads there are and whatever order their steps come in: a shutdown that
waits and was not told has an open channel to wait for, and one that has none left can go on
to the teardown at once.  It waits with the flag up, and from then on no channel enters the
registry, so that it never sees more open channels than before. -/
theorem no_lost_wakeup {layer : σ} (hbefore : Run (State.start layer) es₀ s₀)
    (hafter : Run s₀ es s) :
    (∀ t timed, s.stage t = .waiting timed false → s.manager.registered ≠ []) ∧
    (∀ t timed n, s.stage t = .waiting timed n → s.manager.registered = [] →
      n = true ∧ Step s [] (s.put t (.entering .teardown) s.manager)) ∧
    (∀ t timed n, s₀.stage t = .waiting timed n → s₀.manager.shuttingDown = true) ∧
    (s₀.manager.shuttingDown = true →
      s.manager.registered <+ s₀.manager.registered ∧
        s.manager.openChannels ≤ s₀.manager.openChannels) := by
  have hattended := attended_run (hbefore.trans hafter)
  refine ⟨hattended, fun t timed n ht hnil => ⟨?_, .wake t timed n _ none _ ht (.clear hnil)⟩,
    (orderly_run hbefore).waiting, fun hdown => ?_⟩
  · cases n with
    | true => rfl
    | false => exact absurd hnil (hattended t timed ht)
  · have hsub := registered_sublist hafter hdown
    exact ⟨hsub, hsub.length_le⟩

/-- A shutdown that waits for one channel, and is told when that is closed. -/
theorem no_lost_wakeup_told :
    let layer : Bench := ({} : Bench).attach (.raw ⟨1, 4⟩ 2 0x1209 0x0001)
    ∃ (es₀ es : List (Notice Instance)) (s₀ s : State Bench Instance DeviceKey),
      Run (State.start layer) es₀ s₀ ∧ Run s₀ es s ∧
      s₀.stage 1 = .waiting false false ∧ s₀.manager.registered ≠ [] ∧
      s₀.manager.shuttingDown = true ∧ s.manager.openChannels < s₀.manager.openChannels ∧
      s.manager.registered <+ s₀.manager.registered ∧ s.manager.registered = [] ∧
      s.stage 1 = .waiting false true ∧
      Step s [] (s.put 1 (.entering .teardown) s.manager) := by
  intro layer
  let start : State Bench Instance DeviceKey := State.start layer
  let info := ((start.manager.scan {}).1.found.map Found.info).head (List.cons_ne_nil _ _)
  -- thread 0 opens until it is registered, then thread 1 begins to shut down and waits
  have hentered := ((Run.refl start).tail (.call 0 (.open info) rfl (by simp))).tail
    (.lock 0 _ rfl rfl)
  have hregistered := (((hentered.tail (.work 0 _ _ rfl)).tail (.work 0 _ _ rfl)).tail
    (.work 0 _ _ rfl)).tail (.work 0 _ _ rfl)
  have hbefore := hregistered.tail (.begin 1 false _ _ _ rfl (.wait (List.cons_ne_nil _ _)))
  obtain ⟨es, s₀, s, hbefore, hafter, hwaits, hone, hnil, htold⟩ :
      ∃ es s₀ s, Run start _ s₀ ∧ Run s₀ es s ∧ s₀.stage 1 = .waiting false false ∧
        s₀.manager.openChannels = 1 ∧ s.manager.registered = [] ∧
        s.stage 1 = .waiting false true := by
    -- thread 0 returns its channel and closes it
    refine ⟨_, _, _, hbefore, ((((Run.refl _).tail (.work 0 _ _ rfl)).tail
      (.unlock 0 _ rfl)).tail (.close 0 1 _ _ _ rfl rfl rfl)).tail (.deregister 0 1 _ _ rfl),
      rfl, rfl, rfl, rfl⟩
  obtain ⟨hattended, -, hflag, -⟩ := no_lost_wakeup hbefore (Run.refl s₀)
  obtain ⟨-, hgo, -, hless⟩ := no_lost_wakeup hbefore hafter
  have hup := hflag 1 false false hwaits
  have hzero : s.manager.openChannels = 0 := by rw [openChannels, hnil, List.length_nil]
  exact ⟨_, es, s₀, s, hbefore, hafter, hwaits, hattended 1 false hwaits, hup,
    by rw [hzero, hone]; exact Nat.one_pos, (hless hup).1, hnil, htold,
    (hgo 1 false true htold hnil).2⟩

end UsbPipe.Threads
