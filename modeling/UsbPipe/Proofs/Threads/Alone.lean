/-
A thread that nobody comes between.

While all other threads are idle, the steps of one thread put together are the operation of
the manager: the same outcome, and the same manager after it.

* `State.inside`, `Leads`: a thread with the scan lock, and how it comes to another stage.
* `State.done`, `Served`: a run that takes an idle thread to an outcome.
* `served_scan`, `served_enumerate`, `served_open`, `served_close`, `served_shutdown`,
  `served_shutdownNow`: the operations.
-/
import UsbPipe.Proofs.Threads.Basic

namespace UsbPipe.Threads

open Usb Manager

variable {σ δ η : Type}

/-! ### Inside the scan lock -/

namespace State

/-- One thread has the scan lock. -/
def inside (s : State σ δ η) (t : ℕ) (a : Stage δ η) (m : Manager (Watched σ η) δ η) :
    State σ δ η :=
  { s with manager := m, owner? := some t, stage := Function.update s.stage t a }

/-- Nobody is anywhere, and a thread got its outcome. -/
def done (s : State σ δ η) (outcome : Outcome δ) (m : Manager (Watched σ η) δ η) :
    State σ δ η :=
  { s with manager := m, records := s.records ++ outcome.records }

/-- All threads are idle. -/
def IsQuiet (s : State σ δ η) : Prop := s.owner? = none ∧ s.stage = fun _ => .idle

variable {s : State σ δ η} {t : ℕ} {a : Stage δ η} {m : Manager (Watched σ η) δ η}

lemma inside_stage : (s.inside t a m).stage t = a := Function.update_self _ _ _

lemma put_inside (b : Stage δ η) (m' : Manager (Watched σ η) δ η) :
    (s.inside t a m).put t b m' = s.inside t b m' := by
  simp only [put, inside, Function.update_idem]

/-- A thread that becomes idle leaves all threads idle. -/
lemma IsQuiet.update (h : s.IsQuiet) : Function.update s.stage t .idle = s.stage := by
  rw [h.2]
  exact Function.update_eq_self (f := fun _ => Stage.idle) t

end State

variable [Platform σ δ η] {s : State σ δ η} {t : ℕ} {m m₁ m₂ : Manager (Watched σ η) δ η}
  {a b c : Stage δ η} {outcome : Outcome δ}

/-- The owner of the scan lock comes to another stage. -/
def Leads (s : State σ δ η) (t : ℕ) (a : Stage δ η) (m : Manager (Watched σ η) δ η)
    (b : Stage δ η) (m' : Manager (Watched σ η) δ η) : Prop :=
  ∃ es, Run (s.inside t a m) es (s.inside t b m')

lemma leads_step (h : advance m a = some (b, m₁)) : Leads s t a m b m₁ := by
  have hstep : Step (s.inside t a m) (shown t b) ((s.inside t a m).put t b m₁) :=
    .work t b m₁ (by rw [State.inside_stage]; exact h)
  rw [State.put_inside] at hstep
  exact ⟨_, (Run.refl _).tail hstep⟩

lemma Leads.trans (h : Leads s t a m b m₁) (h' : Leads s t b m₁ c m₂) : Leads s t a m c m₂ := by
  obtain ⟨es, hrun⟩ := h
  obtain ⟨es', hrun'⟩ := h'
  exact ⟨_, hrun.trans hrun'⟩

/-- A job that is not refused is begun on an initialised layer. -/
lemma leads_ready (s : State σ δ η) (t : ℕ) (m : Manager (Watched σ η) δ η) (job : Job)
    (hjob : job ≠ .teardown) :
    match m.ready with
    | (.error e, m') => Leads s t (.locked job) m (.leaving (job.refused e)) m'
    | (.ok (), m') => Leads s t (.locked job) m (.ready job) m' := by
  rcases hr : m.ready with ⟨e | ⟨⟩, m₁⟩ <;> refine leads_step ?_ <;> cases job with
  | teardown => exact absurd rfl hjob
  | _ => simp only [advance, hr]

lemma leads_scan (filter : Filter) : Leads s t (.locked (.scan filter)) m
    (.leaving (.scanned (m.scan filter).1)) (m.scan filter).2 := by
  have hready := leads_ready s t m (.scan filter) (by simp)
  rw [scan]
  rcases hr : m.ready with ⟨e | ⟨⟩, m₁⟩ <;> rw [hr] at hready
  · exact hready
  · exact hready.trans (leads_step rfl)

lemma leads_open (info : RawInterface) : Leads s t (.locked (.open info)) m
    (.leaving (.opened (m.open info).1)) (m.open info).2 := by
  have hready := leads_ready s t m (.open info) (by simp)
  rw [Manager.open, openWith, acquire]
  rcases hr : m.ready with ⟨e | ⟨⟩, m₁⟩ <;> rw [hr] at hready
  · exact hready
  · refine hready.trans ?_
    simp only
    rcases hf : m₁.resolve info with ⟨e | f, m₂⟩
    · exact leads_step (by simp only [advance, hf])
    · have hresolved : Leads s t (.ready (.open info)) m₁ (.resolved f) m₂ :=
        leads_step (by simp only [advance, hf])
      refine hresolved.trans ?_
      simp only
      rcases hc : m₂.claimFound id f with ⟨e | c, m₃⟩
      · exact leads_step (by simp only [advance, hc])
      · have hclaimed : Leads s t (.resolved f) m₂ (.claimed c) m₃ :=
          leads_step (by simp only [advance, hc])
        refine hclaimed.trans ?_
        simp only [enroll]
        rcases hg : m₃.register with ⟨e | id, m₄⟩
        · have hrefused : Leads s t (.claimed c) m₃ (.refused c e) m₄ :=
            leads_step (by simp only [advance, hg])
          exact hrefused.trans (leads_step rfl)
        · have hregistered : Leads s t (.claimed c) m₃ (.registered c id) m₄ :=
            leads_step (by simp only [advance, hg])
          exact hregistered.trans (leads_step rfl)

/-- A thread before the free scan lock takes it. -/
lemma step_lock {job : Job} (hfree : s.owner? = none) :
    Step (s.put t (.entering job) m) [] (s.inside t (.locked job) m) := by
  have hlock := Step.lock (s := s.put t (.entering job) m) t job
    (Function.update_self _ _ _) hfree
  simpa only [State.put, State.inside, Function.update_idem] using hlock

/-! ### Whole operations -/

/-- A run in which a thread gets an outcome. -/
def Served (s : State σ δ η) (t : ℕ) (outcome : Outcome δ) (m : Manager (Watched σ η) δ η) :
    Prop :=
  ∃ es, Run s es (s.done outcome m) ∧ .returned t outcome ∈ es

/-- The last step of an operation returns its outcome. -/
lemma served_of_step {s₁ s₂ : State σ δ η} {es : List (Notice δ)} (hrun : Run s es s₁)
    (hstep : Step s₁ [.returned t outcome] s₂) (hs : s₂ = s.done outcome m) :
    Served s t outcome m :=
  ⟨_, hrun.tail (hs ▸ hstep), List.mem_append_right _ (List.mem_singleton_self _)⟩

/-- A thread that begins takes the free scan lock. -/
lemma run_enter (hquiet : s.IsQuiet) {job : Job} (hjob : job ≠ .teardown) :
    Run s [] (s.inside t (.locked job) s.manager) := by
  have hcall : Step s [] (s.put t (.entering job) s.manager) :=
    .call t job (congrFun hquiet.2 t) hjob
  exact ((Run.refl s).tail hcall).tail (step_lock hquiet.1)

/-- A thread that is inside and has its outcome leaves. -/
lemma Leads.served {es : List (Notice δ)} (h : Leads s t a m₁ (.leaving outcome) m)
    (hquiet : s.IsQuiet) (hrun : Run s es (s.inside t a m₁)) : Served s t outcome m := by
  obtain ⟨es', hinside⟩ := h
  refine served_of_step (hrun.trans hinside) (.unlock t outcome State.inside_stage) ?_
  rw [State.put_inside]
  simp only [State.inside, State.done, hquiet.update, hquiet.1]

/-! ### Scans and opens -/

/-- A scan by itself is the scan of the manager. -/
theorem served_scan (hquiet : s.IsQuiet) (t : ℕ) (filter : Filter) :
    Served s t (.scanned (s.manager.scan filter).1) (s.manager.scan filter).2 :=
  (leads_scan filter).served hquiet (run_enter hquiet (by simp))

/-- So is an open. -/
theorem served_open (hquiet : s.IsQuiet) (t : ℕ) (info : RawInterface) :
    Served s t (.opened (s.manager.open info).1) (s.manager.open info).2 :=
  (leads_open info).served hquiet (run_enter hquiet (by simp))

/-- So is a scan that has to be complete, with what it found given back if it is not. -/
theorem served_enumerate (hquiet : s.IsQuiet) (t : ℕ) (filter : Filter) :
    Served s t (.enumerated (s.manager.enumerate filter).1) (s.manager.enumerate filter).2 := by
  have henter : Run s [] (s.inside t (.locked (.enumerate filter)) s.manager) :=
    run_enter hquiet (by simp)
  have hready := leads_ready s t s.manager (.enumerate filter) (by simp)
  rw [enumerate, scan]
  rcases hr : s.manager.ready with ⟨e | ⟨⟩, m₁⟩ <;> rw [hr] at hready
  · exact hready.served hquiet henter
  · have hparting : Leads s t (.locked (.enumerate filter)) s.manager
        (.parting (m₁.walk filter).1) (m₁.walk filter).2 := hready.trans (leads_step rfl)
    simp only
    rcases hw : m₁.walk filter with ⟨⟨found, error?⟩, m₂⟩
    rw [hw] at hparting
    obtain ⟨es, hinside⟩ := hparting
    cases error? with
    | none =>
        refine served_of_step (henter.trans hinside)
          (.part t ⟨found, none⟩ State.inside_stage rfl) ?_
        rw [State.put_inside]
        simp only [State.inside, State.done, hquiet.update, hquiet.1]
        rfl
    | some e =>
        -- the lock is free before the records go back
        have hpart := Step.partIncomplete t ⟨found, some e⟩ e
          (State.inside_stage (s := s) (m := m₂)) rfl
        rw [State.put_inside] at hpart
        refine served_of_step ((henter.trans hinside).tail hpart)
          (.discard t found e (State.inside_stage (s := s) (m := m₂))) ?_
        simp only [State.put, State.inside, State.done, Function.update_idem, hquiet.update,
          hquiet.1, complete, Outcome.records, List.append_nil]

/-! ### Closes and shutdowns -/

/-- So is a close of a channel. -/
theorem served_close (hquiet : s.IsQuiet) (t : ℕ) {id : ℕ} {c : Channel δ η}
    (hc : s.manager.channel? id = some c) :
    Served s t (.closed (s.manager.close id).1) (s.manager.close id).2 := by
  have hidle : s.stage t = .idle := congrFun hquiet.2 t
  simp only [close, hc, closeChannel]
  rcases hn : s.manager.closeNative c with ⟨_ | result, m₁⟩
  · refine served_of_step (.refl s) (.closeAgain t id c m₁ hidle hc hn) ?_
    simp only [State.put, State.done, hquiet.update, Outcome.records, List.append_nil]
  · refine served_of_step ((Run.refl s).tail (.close t id c result m₁ hidle hc hn))
      (.deregister t c.id c.info _ (Function.update_self _ _ _)) ?_
    simp only [State.put, State.done, Outcome.records, List.append_nil]
    -- no thread waits, so nobody is told
    congr 1
    funext u
    by_cases hu : u = t
    · rw [hu, Function.update_self, hidle]
    · simp [hu, hquiet.2, Stage.notified]

/-- A shutdown without open channels goes on to the teardown. -/
lemma served_clear (hquiet : s.IsQuiet) (t : ℕ) (timed : Bool)
    (hnil : s.manager.registered = []) :
    Served s t (.stopped (.ok ())) s.manager.beginShutdown.teardown := by
  have hclear : s.manager.beginShutdown.registered = [] := by
    rw [← hnil]
    exact congrArg View.registered view_beginShutdown
  have hbegin : Step s [] (s.put t (.entering .teardown) s.manager.beginShutdown) :=
    .begin t timed _ none _ (congrFun hquiet.2 t) (.clear hclear)
  have hteardown : Leads s t (.locked .teardown) s.manager.beginShutdown
      (.leaving (.stopped (.ok ()))) s.manager.beginShutdown.teardown := leads_step rfl
  exact hteardown.served hquiet (((Run.refl s).tail hbegin).tail (step_lock hquiet.1))

/-- So is a shutdown that waits, if it has nobody to wait for. -/
theorem served_shutdown (hquiet : s.IsQuiet) (t : ℕ) {m : Manager (Watched σ η) δ η}
    (hm : s.manager.shutdown? = some m) : Served s t (.stopped (.ok ())) m := by
  rw [shutdown?] at hm
  split_ifs at hm with hnil
  cases hm
  exact served_clear hquiet t false (List.isEmpty_iff.mp hnil)

/-- So is a shutdown that gives up at once. -/
theorem served_shutdownNow (hquiet : s.IsQuiet) (t : ℕ) :
    Served s t (.stopped s.manager.shutdownNow.1) s.manager.shutdownNow.2 := by
  have hsame : s.manager.beginShutdown.registered = s.manager.registered :=
    congrArg View.registered view_beginShutdown
  simp only [shutdownNow, hsame]
  split_ifs with hnil
  · exact served_clear hquiet t true (List.isEmpty_iff.mp hnil)
  · have hopen : s.manager.beginShutdown.registered ≠ [] := fun he =>
      hnil (List.isEmpty_iff.mpr (hsame ▸ he))
    refine served_of_step (.refl s)
      (.begin t true .idle (some _) _ (congrFun hquiet.2 t) (.giveUp hopen rfl)) ?_
    simp only [State.put, State.done, hquiet.update, Outcome.records, List.append_nil]

end UsbPipe.Threads
