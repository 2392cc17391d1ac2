/-
What the owner of the scan lock does to what threads share.

Each step inside the scan lock runs one operation of the manager.  What the other threads
can see of it is one case of `Worked`: the stage before and after, and the shared view
before and after.

* `Worked`: the steps inside the scan lock, as they look from outside.
* `worked_of_advance`: every step inside the scan lock is one of them.
* `Worked.calls_append`: it only adds calls, and a teardown only in the step made for it.
* `Checked.view_eq`: a shutdown that looks at the open channels changes nothing.
* `Step.calls_append`: every step of every thread only adds calls.
-/
import UsbPipe.Proofs.Threads.Basic

namespace UsbPipe.Threads

open Usb Manager

variable {σ δ η : Type}

/-- A step inside the scan lock: the stage of its thread and the shared view, before and
after. -/
inductive Worked (v : View δ η) : Stage δ η → Stage δ η → View δ η → Prop where
  | tornDown (hinit : v.initialized = true) :
      Worked v (.locked .teardown) (.leaving (.stopped (.ok ())))
        { v.calling [.teardown] with initialized := false }
  | notNeeded (hinit : v.initialized = false) :
      Worked v (.locked .teardown) (.leaving (.stopped (.ok ()))) v
  | turnedAway (job : Job) (hjob : job ≠ .teardown) (hdown : v.shuttingDown = true) :
      Worked v (.locked job) (.leaving (job.refused .shuttingDown)) v
  | initFailed (job : Job) (hjob : job ≠ .teardown) (hdown : v.shuttingDown = false)
      (hinit : v.initialized = false) (e : NativeError) :
      Worked v (.locked job) (.leaving (job.refused (.init e))) (v.calling [.init false])
  | initialized (job : Job) (hjob : job ≠ .teardown) (hdown : v.shuttingDown = false)
      (hinit : v.initialized = false) :
      Worked v (.locked job) (.ready job) { v.calling [.init true] with initialized := true }
  | admitted (job : Job) (hjob : job ≠ .teardown) (hdown : v.shuttingDown = false)
      (hinit : v.initialized = true) : Worked v (.locked job) (.ready job) v
  | scanned (filter : Filter) (scan : Scan δ) :
      Worked v (.ready (.scan filter)) (.leaving (.scanned scan)) (v.calling [.listing])
  | enumerated (filter : Filter) (scan : Scan δ) :
      Worked v (.ready (.enumerate filter)) (.parting scan) (v.calling [.listing])
  | unresolved (info : RawInterface) (e : UsbError) :
      Worked v (.ready (.open info)) (.leaving (.opened (.error e))) (v.calling [.listing])
  | resolved (info : RawInterface) (f : Found δ) :
      Worked v (.ready (.open info)) (.resolved f) (v.calling [.listing])
  | unopened (f : Found δ) (e : UsbError) :
      Worked v (.resolved f) (.leaving (.opened (.error e))) (v.calling [.openDevice none])
  | unclaimed (f : Found δ) (e : UsbError) (handle : η) (n : ℕ) :
      Worked v (.resolved f) (.leaving (.opened (.error e))) (v.calling
        (.openDevice (some handle) ::
          ((claimCalls handle f.info.interface).take n ++ [.closeHandle handle])))
  | claimed (f : Found δ) (c : Claimed δ η) (hinfo : c.info = f.info) (hhold : c.hold = f.hold) :
      Worked v (.resolved f) (.claimed c)
        (v.calling (.openDevice (some c.native) :: claimCalls c.native c.info.interface))
  | registered (c : Claimed δ η) (hdown : v.shuttingDown = false) :
      Worked v (.claimed c) (.registered c (v.lastId + 1))
        { v with lastId := v.lastId + 1, registered := v.registered ++ [v.lastId + 1] }
  | refused (c : Claimed δ η) (hdown : v.shuttingDown = true) :
      Worked v (.claimed c) (.refused c .shuttingDown) v
  | established (c : Claimed δ η) (id : ℕ) :
      Worked v (.registered c id) (.leaving (.opened (.ok ⟨id, c.info⟩)))
        { v with
          channels := v.channels ++
            [{ id := id, info := c.info, native? := some c.native, hold? := some c.hold }] }
  | abandoned (c : Claimed δ η) (e : UsbError) :
      Worked v (.refused c e) (.leaving (.opened (.error e)))
        (v.calling [.release c.native c.info.interface, .closeHandle c.native])

/-- What a step inside the scan lock calls: more than before, and a teardown only where a
thread is about to tear down. -/
lemma Worked.calls_append {v v' : View δ η} {a b : Stage δ η} (h : Worked v a b v') :
    ∃ cs, v'.calls = v.calls ++ cs ∧ (.teardown ∈ cs → a = .locked .teardown) := by
  cases h with
  | tornDown => exact ⟨_, rfl, fun _ => rfl⟩
  | notNeeded => exact ⟨[], (List.append_nil _).symm, by simp⟩
  | turnedAway => exact ⟨[], (List.append_nil _).symm, by simp⟩
  | initFailed => exact ⟨_, rfl, by simp⟩
  | initialized => exact ⟨_, rfl, by simp⟩
  | admitted => exact ⟨[], (List.append_nil _).symm, by simp⟩
  | scanned => exact ⟨_, rfl, by simp⟩
  | enumerated => exact ⟨_, rfl, by simp⟩
  | unresolved => exact ⟨_, rfl, by simp⟩
  | resolved => exact ⟨_, rfl, by simp⟩
  | unopened => exact ⟨_, rfl, by simp⟩
  | unclaimed f e handle n =>
      refine ⟨_, rfl, fun hmem => ?_⟩
      simp only [List.mem_cons, List.mem_append, List.not_mem_nil, or_false, reduceCtorEq,
        false_or] at hmem
      simpa [claimCalls] using List.mem_of_mem_take hmem
  | claimed => exact ⟨_, rfl, by simp [claimCalls]⟩
  | registered => exact ⟨[], (List.append_nil _).symm, by simp⟩
  | refused => exact ⟨[], (List.append_nil _).symm, by simp⟩
  | established => exact ⟨[], (List.append_nil _).symm, by simp⟩
  | abandoned => exact ⟨_, rfl, by simp⟩

/-- A shutdown that looks at the open channels notes what it goes on to, and changes
nothing else. -/
lemma Checked.view_eq {m m' : Manager (Watched σ η) δ η} {timed : Bool} {stage : Stage δ η}
    {outcome? : Option (Outcome δ)} (h : Checked m timed stage outcome? m') :
    m'.view = m.view := by
  cases h with
  | clear => rfl
  | wait => cases timed <;> rfl
  | giveUp => rfl

variable [Platform σ δ η]

/-- The entry of a scan or an open. -/
lemma worked_of_ready {m m' : Manager (Watched σ η) δ η} {job : Job} {b : Stage δ η}
    (hjob : job ≠ .teardown)
    (h : (match m.ready with
      | (.error e, m) => some (.leaving (job.refused e), m)
      | (.ok (), m) => some (.ready job, m)) = some (b, m')) :
    Worked m.view (.locked job) b m'.view := by
  rcases ready_cases m with ⟨hdown, heq⟩ | ⟨hdown, hinit, heq⟩ | ⟨hdown, hinit, hcall⟩
  · rw [heq] at h
    cases h
    exact .turnedAway job hjob hdown
  · rw [heq] at h
    cases h
    exact .admitted job hjob hdown hinit
  · rcases hcall with ⟨e, m₁, heq, hview⟩ | ⟨m₁, heq, hview⟩ <;> rw [heq] at h <;> cases h
    · rw [hview]
      exact .initFailed job hjob hdown hinit e
    · rw [hview]
      exact .initialized job hjob hdown hinit

/-- Every step inside the scan lock is one of those. -/
theorem worked_of_advance {m m' : Manager (Watched σ η) δ η} {a b : Stage δ η}
    (h : advance m a = some (b, m')) : Worked m.view a b m'.view := by
  cases a with
  | locked job =>
      cases job with
      | teardown =>
          cases h
          rw [view_teardown]
          split_ifs with hinit
          · exact .tornDown hinit
          · exact .notNeeded (Bool.not_eq_true _ |>.mp hinit)
      | scan filter => exact worked_of_ready (by simp) h
      | enumerate filter => exact worked_of_ready (by simp) h
      | «open» info => exact worked_of_ready (by simp) h
  | ready job =>
      cases job with
      | teardown => cases h
      | scan filter =>
          have hview := view_walk (m := m) filter
          rw [advance] at h
          rcases hw : m.walk filter with ⟨scan, m₁⟩
          rw [hw] at h hview
          cases h
          exact hview ▸ .scanned filter scan
      | enumerate filter =>
          have hview := view_walk (m := m) filter
          rw [advance] at h
          rcases hw : m.walk filter with ⟨scan, m₁⟩
          rw [hw] at h hview
          cases h
          exact hview ▸ .enumerated filter scan
      | «open» info =>
          have hview := view_resolve (m := m) info
          rw [advance] at h
          rcases hr : m.resolve info with ⟨e | f, m₁⟩ <;> rw [hr] at h hview <;> cases h <;>
            rw [hview]
          · exact .unresolved info e
          · exact .resolved info f
  | resolved f =>
      have hview := view_claimFound (m := m) f
      rw [advance] at h
      rcases hc : m.claimFound id f with ⟨e | c, m₁⟩ <;> rw [hc] at h hview <;> cases h
      · rcases hview with hview | ⟨handle, n, hview⟩ <;> rw [hview]
        · exact .unopened f e
        · exact .unclaimed f e handle n
      · obtain ⟨hinfo, hhold, hview⟩ := hview
        rw [hview]
        exact .claimed f c hinfo hhold
  | claimed c =>
      rw [advance] at h
      rcases register_cases m with ⟨hdown, heq⟩ | ⟨hdown, m₁, heq, hview⟩ <;> rw [heq] at h <;>
        cases h
      · exact .refused c hdown
      · rw [hview]
        exact .registered c hdown
  | registered c id =>
      cases h
      exact .established c id
  | refused c e =>
      cases h
      rw [view_abandon]
      exact .abandoned c e
  | _ => cases h

/-- What a step of any thread calls: more than before, and a teardown only where a thread
is about to tear down. -/
theorem Step.calls_append {s s' : State σ δ η} {es : List (Notice δ)} (h : Step s es s') :
    ∃ cs, s'.calls = s.calls ++ cs ∧ (.teardown ∈ cs → ∃ t, s.stage t = .locked .teardown) := by
  have hview : ∀ {m : Manager (Watched σ η) δ η} {cs}, m.view = s.manager.view.calling cs →
      m.platform.calls = s.calls ++ cs := fun hm => congrArg View.calls hm
  have hsame : ∀ {m : Manager (Watched σ η) δ η}, m.view = s.manager.view →
      m.platform.calls = s.calls ++ [] := fun hm =>
    (congrArg View.calls hm).trans (List.append_nil _).symm
  cases h with
  | call | lock | unlock | part | partIncomplete | deregister | forget | world | setTimeouts =>
      exact ⟨[], (List.append_nil _).symm, by simp⟩
  | work t stage m hwork =>
      obtain ⟨cs, hcs, htear⟩ := (worked_of_advance hwork).calls_append
      exact ⟨cs, hcs, fun hmem => ⟨t, htear hmem⟩⟩
  | discard t found e => exact ⟨[], hsame (view_discard found), by simp⟩
  | closeAgain t id c m hstage hc hclose =>
      exact ⟨[], hsame (congrArg view (eq_of_closeNative_none hclose)), by simp⟩
  | close t id c result m hstage hc hclose =>
      obtain ⟨handle, -, hv⟩ := view_closeNative hclose
      exact ⟨_, congrArg View.calls hv, by simp⟩
  | begin t timed stage outcome? m hstage hcheck =>
      have hbegun := congrArg View.calls (hcheck.view_eq.trans view_beginShutdown)
      exact ⟨[], hbegun.trans (List.append_nil _).symm, by simp⟩
  | wake t timed n stage outcome? m hstage hcheck => exact ⟨[], hsame hcheck.view_eq, by simp⟩
  | write t id data =>
      rcases view_write (m := s.manager) id data with hv | ⟨c, handle, -, -, hv⟩
      · exact ⟨[], hsame hv, by simp⟩
      · exact ⟨_, hview hv, by simp⟩
  | read t id limit =>
      rcases view_receive (m := s.manager) id limit with hv | ⟨c, handle, -, -, hv⟩
      · exact ⟨[], hsame hv, by simp⟩
      · exact ⟨_, hview hv, by simp⟩
  | release f before after => exact ⟨[], hsame (view_release f.hold), by simp⟩

end UsbPipe.Threads
