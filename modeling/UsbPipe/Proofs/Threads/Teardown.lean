/-
The native layer is torn down when nothing uses it.

Every step of every thread keeps the threads orderly, in whatever order the steps come, and
an open that succeeds was registered before the flag went up.

* `Orderly.worked`, `Orderly.step`, `orderly_run`: the threads stay orderly in a step inside
  the scan lock, in every step, and in every run.
* `Unused`: what there is when the native layer is torn down.
* `teardown_safe`: a teardown finds the layer unused, and once the flag is up an open
  succeeds only if it was registered before.
-/
import UsbPipe.Bench.Basic
import UsbPipe.Proofs.Threads.Granted
import UsbPipe.Proofs.Threads.Orderly

namespace UsbPipe.Threads

open Usb Manager

variable {σ δ η : Type}

/-! ### Orderly runs -/

section Orderly

variable {v v' : View δ η} {owner? : Option ℕ} {stage : ℕ → Stage δ η} {t : ℕ} {a b : Stage δ η}

/-- A step inside the scan lock keeps the threads orderly. -/
theorem Orderly.worked (h : Orderly v owner? stage []) (ht : stage t = a)
    (hw : Worked v a b v') : Orderly v' owner? (Function.update stage t b) [] := by
  cases hw with
  | tornDown => exact ((h.calling_idle rfl rfl).reinit false).move ht rfl rfl (.refl _)
  | notNeeded => exact h.move ht rfl rfl (.refl _)
  | turnedAway => exact h.move ht rfl rfl (.refl _)
  | initFailed => exact (h.calling_idle rfl rfl).move ht rfl rfl (.refl _)
  | initialized => exact ((h.calling_idle rfl rfl).reinit true).move ht rfl rfl (.refl _)
  | admitted => exact h.move ht rfl rfl (.refl _)
  | scanned => exact (h.calling_idle rfl rfl).move ht rfl rfl (.refl _)
  | enumerated => exact (h.calling_idle rfl rfl).move ht rfl rfl (.refl _)
  | unresolved => exact (h.calling_idle rfl rfl).move ht rfl rfl (.refl _)
  | resolved => exact (h.calling_idle rfl rfl).move ht rfl rfl (.refl _)
  | unopened => exact (h.calling_idle rfl rfl).move ht rfl rfl (.refl _)
  | unclaimed f e handle n =>
      -- the handle that was given out is taken back in the same step
      obtain ⟨hopened, hclosed⟩ := claimCalls_take_handles handle f.info.interface n
      refine (h.calling ?_).move ht rfl rfl (.refl _)
      simp [List.filterMap_cons, hopened, hclosed, Call.opened?, Call.closed?]
  | claimed f c =>
      have hspare : Orderly
          (v.calling (.openDevice (some c.native) :: claimCalls c.native c.info.interface))
          owner? stage [c.native] := h.calling (.refl _)
      exact hspare.move ht rfl rfl (.refl _)
  | registered c hdown =>
      have hin : owner? = some t := h.owner_eq (by rw [ht]; rfl)
      refine (h.enter hdown).restage ht (by simp [Stage.isInside, hin]) (fun _ _ => Iff.rfl)
        (.refl _) ?_ (by simp) (by simp) (by simp [Stage.isStopping])
      -- the id is above every id that a channel or a thread that closes has
      rintro _ _ ⟨⟩
      refine ⟨⟨by simp, Nat.le_refl _, fun d hd => ?_⟩, fun u id info r hu => ?_⟩
      · exact Nat.ne_of_lt (Nat.lt_succ_of_le (h.id_le d hd))
      · exact Nat.ne_of_gt (Nat.lt_succ_of_le (h.closing u id info r hu).1)
  | refused => exact h.move ht rfl rfl (.refl _)
  | established c id =>
      have hin : owner? = some t := h.owner_eq (by rw [ht]; rfl)
      obtain ⟨hmem, hle, hfresh⟩ := h.entered t c id ht
      have hmoved : Orderly v owner?
          (Function.update stage t (.leaving (.opened (.ok ⟨id, c.info⟩)))) [c.native] :=
        h.move ht rfl rfl (.refl _)
      refine hmoved.establish rfl hmem hle hfresh (fun u d id' hu => ?_) fun u id' info r hu => ?_
      · -- nobody else is inside
        have hut : owner? = some u := hmoved.owner_eq (by rw [hu]; rfl)
        obtain rfl : t = u := Option.some.inj (hin.symm.trans hut)
        rw [Function.update_self] at hu
        cases hu
      · rcases Stage.update_cases hu with hb | hu
        · cases hb
        · exact h.apart t u c id id' info r ht hu
  | abandoned c e =>
      have hmoved : Orderly v owner?
          (Function.update stage t (.leaving (.opened (.error e)))) [c.native] :=
        h.move ht rfl rfl (.refl _)
      exact hmoved.calling (.refl _)

/-- So does a shutdown that has looked at the open channels. -/
lemma Orderly.checked {m m' : Manager (Watched σ η) δ η} {timed : Bool}
    {outcome? : Option (Outcome δ)} (h : Orderly m.view owner? stage []) (ht : stage t = a)
    (hout : a.isInside = false) (hdown : m.shuttingDown = true)
    (hcheck : Checked m timed b outcome? m') :
    Orderly m'.view owner? (Function.update stage t b) [] := by
  have hside : false = true ↔ owner? = some t := by
    rw [← hout, ← ht]
    exact h.inside_iff t
  have hhand : (a.handles ++ ([] : List η)).Perm [] := by
    rw [Stage.handles_of_outside hout]
    exact .refl _
  rw [hcheck.view_eq]
  cases hcheck with
  | clear hnil =>
      exact h.restage ht hside (fun _ _ => Iff.rfl) hhand (by simp) (by simp) (by simp)
        fun _ => ⟨hdown, hnil⟩
  | wait =>
      exact h.restage ht hside (fun _ _ => Iff.rfl) hhand (by simp) (by simp)
        (fun _ _ _ => hdown) (by simp [Stage.isStopping])
  | giveUp => exact h.move ht rfl hout.symm hhand

variable [Platform σ δ η] {s s' : State σ δ η} {es : List (Notice δ)}

/-- Every step of every thread keeps the threads orderly. -/
theorem Orderly.step (h : Orderly s.manager.view s.owner? s.stage []) (hs : Step s es s') :
    Orderly s'.manager.view s'.owner? s'.stage [] := by
  cases hs with
  | call t job hstage hjob =>
      refine h.move hstage ?_ rfl (.refl _)
      cases job <;> first | rfl | exact absurd rfl hjob
  | lock t job hstage hfree =>
      rw [hfree] at h
      exact h.lock hstage
  | work t stage m hwork => exact h.worked rfl (worked_of_advance hwork)
  | unlock t outcome hstage => exact h.unlock hstage rfl rfl rfl rfl
  | part t scan hstage => exact h.unlock hstage rfl rfl rfl rfl
  | partIncomplete t scan e hstage => exact h.unlock hstage rfl rfl rfl rfl
  | discard t found e hstage =>
      rw [State.put, view_discard]
      exact h.move hstage rfl rfl (.refl _)
  | closeAgain t id c m hstage hc hclose =>
      rw [eq_of_closeNative_none hclose]
      exact h.move hstage rfl rfl (.refl _)
  | close t id c result m hstage hc hclose =>
      obtain ⟨handle, hnative, hview⟩ := view_closeNative hclose
      have hmem := (channel?_mem hc).1
      have hvacant : Orderly m.view s.owner? s.stage [] := by
        rw [hview]
        exact (h.vacate rfl hmem hnative).calling (.refl _)
      have hside : false = true ↔ s.owner? = some t := by
        have hin := h.inside_iff t
        rwa [hstage] at hin
      refine hvacant.restage hstage hside (fun _ _ => Iff.rfl)
        (.refl _) (by simp) ?_ (by simp) (by simp [Stage.isStopping])
      rintro _ _ _ ⟨⟩
      rw [hview]
      refine ⟨⟨h.id_le c hmem, fun d hd hid => ?_⟩, fun u d id' hu => ?_⟩
      · -- in the new table, the channel under this id was emptied
        obtain ⟨d₀, -, rfl⟩ := List.mem_map.mp hd
        by_cases hid₀ : d₀.id = c.id
        · simp [hid₀, emptied, Channel.isClosed]
        · rw [if_neg hid₀] at hid
          exact absurd hid hid₀
      · exact ((h.entered u d id' hu).2.2 c hmem).symm
  | deregister t id info result hstage =>
      obtain ⟨-, hclosed⟩ := h.closing t id info result hstage
      have hgone := h.deregister hclosed fun u c id' hu =>
        h.apart u t c id' id info result hu hstage
      have htold : Orderly (s.manager.deregister id).view s.owner?
          (fun u => if id ∈ s.manager.registered then (s.stage u).notified else s.stage u) [] := by
        refine hgone.notify fun u => ?_
        split_ifs
        · exact (s.stage u).notified_cases
        · exact Or.inl rfl
      refine htold.move (t := t) (a := .closing id info result) ?_ rfl rfl (.refl _)
      simp [hstage, Stage.notified]
  | forget id hclosed => exact h.forget hclosed
  | begin t timed stage outcome? m hstage hcheck =>
      have hdown := h.raise
      rw [← view_beginShutdown] at hdown
      refine hdown.checked hstage rfl ?_ hcheck
      exact congrArg View.shuttingDown view_beginShutdown
  | wake t timed n stage outcome? m hstage hcheck =>
      exact h.checked hstage rfl (h.waiting t timed n hstage) hcheck
  | write t id data =>
      rcases view_write (m := s.manager) id data with hv | ⟨c, handle, -, -, hv⟩ <;> rw [hv]
      · exact h
      · exact h.calling_idle rfl rfl
  | read t id limit =>
      rcases view_receive (m := s.manager) id limit with hv | ⟨c, handle, -, -, hv⟩ <;> rw [hv]
      · exact h
      · exact h.calling_idle rfl rfl
  | setTimeouts t id read write =>
      refine (h.mapped (f := fun c => if c.id = id then { c with readTimeout := read } else c)
        (fun c => ?_) fun c => ?_).mapped
          (f := fun c => if c.id = id then { c with writeTimeout := write } else c)
          (fun c => ?_) fun c => ?_ <;> split_ifs <;> rfl
  | release f before after =>
      rw [view_release]
      exact h
  | world layer => exact h

/-- Threads that start in order stay so. -/
theorem orderly_run {layer : σ} (hrun : Run (State.start layer) es s) :
    Orderly s.manager.view s.owner? s.stage [] := by
  induction hrun with
  | refl => exact Orderly.start layer
  | tail _ hstep ih => exact ih.step hstep

end Orderly

/-! ### The teardown -/

/-- A native layer that nothing uses: every handle that was given out was taken back, every
channel is closed, none is registered, and only a teardown is inside the scan lock. -/
structure Unused (s : State σ δ η) : Prop where
  handles : (s.calls.filterMap Call.opened?).Perm (s.calls.filterMap Call.closed?)
  channels : ∀ c ∈ s.manager.channels, c.isClosed = true
  registered : s.manager.registered = []
  inside : ∀ u, (s.stage u).isInside = true → s.stage u = .locked .teardown

/-- A thread that is about to tear down has the layer for itself. -/
lemma Orderly.unused {s : State σ δ η} (h : Orderly s.manager.view s.owner? s.stage [])
    {t : ℕ} (ht : s.stage t = .locked .teardown) : Unused s := by
  have hown : s.owner? = some t := h.owner_eq (by rw [ht]; rfl)
  have hnil : s.manager.registered = [] := (h.stopping t (by rw [ht]; rfl)).2
  have hclosed : ∀ c ∈ s.manager.channels, c.isClosed = true := by
    intro c hc
    by_contra hopen
    have hmem := h.listed c hc (Bool.eq_false_iff.mpr hopen)
    rw [view, hnil] at hmem
    cases hmem
  refine ⟨?_, hclosed, hnil, fun u hu => ?_⟩
  · have hnative : s.manager.channels.filterMap Channel.native? = [] :=
      List.filterMap_eq_nil_iff.mpr fun c hc => Option.isNone_iff_eq_none.mp (hclosed c hc)
    have hhand : inHand s.owner? s.stage = [] := by
      rw [hown, inHand, ht]
      rfl
    have hall := h.handles
    rw [hhand] at hall
    simpa [view, hnative, State.calls] using hall
  · obtain rfl : t = u := Option.some.inj (hown.symm.trans (h.owner_eq hu))
    exact ht

/-- However many threads there are and whatever order their steps come in, the native layer
is torn down only when nothing uses it, and once the flag is up, an open succeeds only if it
was registered before. -/
theorem teardown_safe [Platform σ δ η] {layer : σ} {s₀ s : State σ δ η} {es₀ es : List (Notice δ)}
    (hbefore : Run (State.start layer) es₀ s₀) (hafter : Run s₀ es s) :
    (∀ es' s' cs, Step s es' s' → s'.calls = s.calls ++ cs → .teardown ∈ cs → Unused s) ∧
    (s₀.manager.shuttingDown = true → (∀ t id, .registered t id ∉ es) ∧
      ∀ t c, .returned t (.opened (.ok c)) ∈ es → .registered t c.id ∈ es₀) := by
  have hrun := hbefore.trans hafter
  refine ⟨fun es' s' cs hstep hcalls hmem => ?_, fun hdown => ?_⟩
  · obtain ⟨cs', hcalls', htear⟩ := hstep.calls_append
    obtain rfl : cs = cs' := List.append_cancel_left (hcalls.symm.trans hcalls')
    obtain ⟨t, ht⟩ := htear hmem
    exact (orderly_run hrun).unused ht
  · have hnone := (registered_run hafter hdown).2
    refine ⟨hnone, fun t c hreturned => ?_⟩
    have hshown := (promised_run hrun).returned t c (List.mem_append_right _ hreturned)
    exact (List.mem_append.mp hshown).resolve_right (hnone t c.id)

/-- A shutdown that begins when an open was just registered waits for it: the open returns a
channel, and the layer is torn down once that is closed. -/
theorem teardown_safe_late :
    let layer : Bench := ({} : Bench).attach (.raw ⟨1, 4⟩ 2 0x1209 0x0001)
    ∃ (es₀ es : List (Notice Instance)) (s₀ s s' : State Bench Instance DeviceKey) (c : Opened),
      Run (State.start layer) es₀ s₀ ∧ s₀.manager.shuttingDown = true ∧
      Run s₀ es s ∧ .returned 0 (.opened (.ok c)) ∈ es ∧ .registered 0 c.id ∈ es₀ ∧
      Step s [] s' ∧ s'.calls = s.calls ++ [.teardown] ∧ Unused s := by
  intro layer
  let start : State Bench Instance DeviceKey := State.start layer
  let info := ((start.manager.scan {}).1.found.map Found.info).head (List.cons_ne_nil _ _)
  -- thread 0 opens until it is registered, then thread 1 begins to shut down and waits
  have hentered := ((Run.refl start).tail (.call 0 (.open info) rfl (by simp))).tail
    (.lock 0 _ rfl rfl)
  have hregistered := (((hentered.tail (.work 0 _ _ rfl)).tail (.work 0 _ _ rfl)).tail
    (.work 0 _ _ rfl)).tail (.work 0 _ _ rfl)
  have hbefore := hregistered.tail (.begin 1 false _ _ _ rfl (.wait (List.cons_ne_nil _ _)))
  obtain ⟨es, s₀, s, s', hbefore, hdown, hafter, hreturned, hstep, hcalls⟩ :
      ∃ es s₀ s s', Run start _ s₀ ∧ s₀.manager.shuttingDown = true ∧ Run s₀ es s ∧
        .returned 0 (.opened (.ok ⟨1, info⟩)) ∈ es ∧ Step s [] s' ∧
        s'.calls = s.calls ++ [.teardown] := by
    -- thread 0 returns its channel and closes it, thread 1 wakes up and takes the scan lock
    refine ⟨_, _, _, _, hbefore, rfl, ((((((Run.refl _).tail (.work 0 _ _ rfl)).tail
      (.unlock 0 _ rfl)).tail (.close 0 1 _ _ _ rfl rfl rfl)).tail (.deregister 0 1 _ _ rfl)).tail
      (.wake 1 false true _ _ _ rfl (.clear rfl))).tail (.lock 1 _ rfl rfl), .head _,
      .work 1 (.leaving (.stopped (.ok ()))) _ rfl, rfl⟩
  obtain ⟨hunused, hflag⟩ := teardown_safe hbefore hafter
  exact ⟨_, es, s₀, s, s', _, hbefore, hdown, hafter, hreturned, (hflag hdown).2 0 _ hreturned,
    hstep, hcalls, hunused _ _ _ hstep hcalls (by simp)⟩

end UsbPipe.Threads
