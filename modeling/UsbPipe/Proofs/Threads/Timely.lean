/-
What is made before the native layer is initialised, while it is, and after.

Every step of every thread keeps the threads timely, and whatever a thread then makes, the
phase allows.

* `Plain`, `Timely.plain`: the steps inside the scan lock that neither begin nor end the use
  of the layer.
* `Timely.worked`: every step inside the scan lock.
* `Timely.transfer`, `Timely.closeNative`: the calls without that lock.
* `Kept`, `Timely.step`: every step of every thread.
* `timely_move`, `timely_course`: steps and calls, and courses of them.
-/
import UsbPipe.Proofs.Threads.Phases
import UsbPipe.Proofs.Threads.Teardown

namespace UsbPipe.Threads

open Usb Manager

variable {σ δ η : Type}

/-! ### Steps inside the scan lock -/

/-- A step inside the scan lock that neither begins nor ends the use of the native layer. -/
structure Plain (v : View δ η) (a b : Stage δ η) (v' : View δ η) (cs : List (Call η)) :
    Prop where
  calls : v'.calls = v.calls ++ cs
  work : ∀ c ∈ cs, (.call c : Made δ η).isWork = true
  initialized : v'.initialized = v.initialized
  shuttingDown : v'.shuttingDown = v.shuttingDown
  admitted : b.isAdmitted = true ∨ cs ≠ [] → a.isAdmitted = true ∨ v.initialized = true
  registered : ∀ id ∈ v.registered, id ∈ v'.registered
  channels : ∀ c ∈ v'.channels, c ∈ v.channels ∨ a.isAdmitted = true

section Plain

variable {v : View δ η} {a b : Stage δ η} {cs : List (Call η)}

/-- A step without calls. -/
lemma Plain.silent (hb : b.isAdmitted = true → a.isAdmitted = true ∨ v.initialized = true) :
    Plain v a b v [] where
  calls := (List.append_nil _).symm
  work := by simp
  initialized := rfl
  shuttingDown := rfl
  admitted := fun h => hb (h.resolve_right fun hne => hne rfl)
  registered := fun _ => id
  channels := fun _ => Or.inl

/-- A step that does nothing but to call. -/
lemma Plain.calling (ha : a.isAdmitted = true)
    (hwork : ∀ c ∈ cs, (.call c : Made δ η).isWork = true) : Plain v a b (v.calling cs) cs where
  calls := rfl
  work := hwork
  initialized := rfl
  shuttingDown := rfl
  admitted := fun _ => Or.inl ha
  registered := fun _ => id
  channels := fun _ => Or.inl

end Plain

lemma isWork_claimCalls (handle : η) (interface : UInt8) :
    ∀ c ∈ claimCalls handle interface, (.call c : Made δ η).isWork = true := by
  simp [claimCalls, Made.isWork]

/-- Such a step comes from one stage inside the scan lock to another. -/
lemma Worked.inside {v v' : View δ η} {a b : Stage δ η} (h : Worked v a b v') :
    a.isInside = true ∧ b.isInside = true ∧ b.mayCall = true := by
  cases h <;> exact ⟨rfl, rfl, rfl⟩

namespace Timely

variable [Platform σ δ η] {p : Phase} {v v' : View δ η} {owner? : Option ℕ}
  {stage : ℕ → Stage δ η} {due : ℕ → List (Made δ η)} {a b : Stage δ η} {t : ℕ}
  {cs : List (Call η)}

/-- The owner of the scan lock goes on and neither begins nor ends the use of the layer. -/
lemma plain (h : Timely p v owner? stage due) (ho : Orderly v owner? stage []) (ht : stage t = a)
    (hdue : due t = []) (hw : Worked v a b v') (hplain : Plain v a b v' cs)
    (m : Manager (Watched σ η) δ η) :
    Timely p v' owner? (Function.update stage t b)
      (Function.update due t (cs.flatMap (a.making m))) := by
  obtain ⟨hin, hb, hmay⟩ := hw.inside
  obtain rfl := ho.owner_eq (ht ▸ hin : (stage t).isInside = true)
  have hfits : Fits p v.initialized v.shuttingDown ([] : List (Made δ η)) := hdue ▸ h.fits
  have hduring : v.initialized = true → p = .during := fun hinit => (hinit ▸ hfits).eq_during
  have hneeded : b.isAdmitted = true ∨ cs ≠ [] → v.initialized = true := fun hb =>
    (hplain.admitted hb).elim (fun ha => h.admitted t (ht ▸ ha)) id
  refine h.goOn ho (ht ▸ hin) hb hmay ?_ ?_ ?_ hplain.registered
  · rw [hplain.initialized, hplain.shuttingDown]
    by_cases hcs : cs = []
    · rwa [hcs]
    · have hinit := hneeded (Or.inr hcs)
      rw [hduring hinit, hinit]
      refine .working _ _ fun x hx => ?_
      obtain ⟨c, hc, hx⟩ := List.mem_flatMap.mp hx
      exact Stage.isWork_of_mem_making (hplain.work c hc) hx
  · exact fun hb => hplain.initialized.trans (hneeded (Or.inl hb))
  · rw [hplain.initialized]
    rintro (⟨c, hc, hopen⟩ | hclosing)
    · rcases hplain.channels c hc with hc | ha
      · exact h.inUse (Or.inl ⟨c, hc, hopen⟩)
      · have hinit := h.admitted t (ht ▸ ha)
        exact ⟨hduring hinit, hinit⟩
    · exact h.inUse (Or.inr hclosing)

/-- A step inside the scan lock keeps threads timely. -/
theorem worked (h : Timely p v owner? stage due) (ho : Orderly v owner? stage [])
    (ht : stage t = a) (hdue : due t = []) (hw : Worked v a b v')
    (m : Manager (Watched σ η) δ η) :
    ∃ cs, v'.calls = v.calls ++ cs ∧ Timely p v' owner? (Function.update stage t b)
      (Function.update due t (cs.flatMap (a.making m))) := by
  have hplain : ∀ cs, Plain v a b v' cs → ∃ cs, v'.calls = v.calls ++ cs ∧
      Timely p v' owner? (Function.update stage t b)
        (Function.update due t (cs.flatMap (a.making m))) := fun cs hplain =>
    ⟨cs, hplain.calls, h.plain ho ht hdue hw hplain m⟩
  obtain ⟨hin, hb, hmay⟩ := hw.inside
  obtain rfl := ho.owner_eq (ht ▸ hin : (stage t).isInside = true)
  have hfits : Fits p v.initialized v.shuttingDown ([] : List (Made δ η)) := hdue ▸ h.fits
  cases hw with
  | tornDown hinit =>
      obtain ⟨hdown, hnil⟩ := ho.stopping t (by rw [ht]; rfl)
      have hidle : ¬ InUse v stage := by
        rintro (⟨c, hc, hopen⟩ | ⟨u, id, info, r, hu⟩)
        · exact List.not_mem_nil (hnil ▸ ho.listed c hc hopen)
        · exact List.not_mem_nil (hnil ▸ (h.closing u id info r hu).1)
      rw [hinit] at hfits
      obtain rfl := hfits.eq_during
      refine ⟨_, rfl, h.goOn ho (ht ▸ hin) hb hmay ?_ (by simp [Stage.isAdmitted])
        (fun hu => absurd hu hidle) fun _ => id⟩
      have hending : Fits .during false v.shuttingDown [(.call .teardown : Made δ η)] :=
        hdown ▸ .ending
      exact hending
  | initFailed job hjob hdown hinit e =>
      rw [hinit, hdown] at hfits
      obtain rfl := hfits.eq_before
      have hfailing : Fits .before v.initialized v.shuttingDown
          [(.call (.init false) : Made δ η)] := hinit ▸ .failing _
      exact ⟨_, rfl, h.goOn ho (ht ▸ hin) hb hmay hfailing (by simp [Stage.isAdmitted])
        (fun hu => absurd hu (h.not_inUse hinit)) fun _ => id⟩
  | initialized job hjob hdown hinit =>
      rw [hinit, hdown] at hfits
      obtain rfl := hfits.eq_before
      exact ⟨_, rfl, h.goOn ho (ht ▸ hin) hb hmay (.beginning _) (fun _ => rfl)
        (fun hu => absurd hu (h.not_inUse hinit)) fun _ => id⟩
  | notNeeded | turnedAway | refused => exact hplain [] (.silent (by simp [Stage.isAdmitted]))
  | admitted job hjob hdown hinit => exact hplain [] (.silent fun _ => Or.inr hinit)
  | scanned | enumerated | unresolved | resolved | unopened | abandoned =>
      exact hplain _ (.calling rfl (by simp [Made.isWork]))
  | unclaimed f e handle n =>
      refine hplain _ (.calling rfl fun c hc => ?_)
      simp only [List.mem_cons, List.mem_append, List.not_mem_nil, or_false] at hc
      rcases hc with rfl | hc | rfl
      · rfl
      · exact isWork_claimCalls _ _ c (List.mem_of_mem_take hc)
      · rfl
  | claimed f c =>
      exact hplain _ (.calling rfl (List.forall_mem_cons.mpr ⟨rfl, isWork_claimCalls _ _⟩))
  | registered c hdown =>
      exact hplain [] { Plain.silent (v := v) (fun _ => Or.inl rfl) with
        registered := fun id hid => List.mem_append_left _ hid }
  | established c id =>
      exact hplain [] { Plain.silent (v := v) (fun _ => Or.inl rfl) with
        channels := fun _ _ => Or.inr rfl }

end Timely

/-! ### Steps of all threads -/

section Steps

variable [Platform σ δ η] {p : Phase} {s s' : State σ δ η} {es : List (Notice δ)}
  {due : ℕ → List (Made δ η)}

/-- How a step keeps threads timely: it calls nothing, or its calls are due to the one thread
that it brings to another stage, or it is a transfer in the middle phase. -/
inductive Kept (p : Phase) (s : State σ δ η) (due : ℕ → List (Made δ η)) (s' : State σ δ η) :
    Prop where
  | quiet (hfresh : s.fresh s' = [])
      (h : Timely p s'.manager.view s'.owner? s'.stage due)
  | due (t : ℕ) (b : Stage δ η) (hne : b ≠ s.stage t)
      (hstage : s'.stage = Function.update s.stage t b)
      (h : Timely p s'.manager.view s'.owner? s'.stage (Function.update due t (s.made t s')))
  | atOnce (hsame : s'.stage = s.stage) (hduring : p = .during)
      (hwork : ∀ c ∈ s.fresh s', (.call c : Made δ η).isWork = true)
      (h : Timely p s'.manager.view s'.owner? s'.stage due)

omit [Platform σ δ η] in
lemma Checked.mayCall_eq {m m' : Manager (Watched σ η) δ η} {timed : Bool} {b : Stage δ η}
    {outcome? : Option (Outcome δ)} (h : Checked m timed b outcome? m') : b.mayCall = false := by
  cases h <;> rfl

omit [Platform σ δ η] in
/-- A change that keeps the handles of channels opens none. -/
lemma exists_open_of_updateChannel {m : Manager (Watched σ η) δ η} {id : ℕ}
    {f : Channel δ η → Channel δ η} (hf : ∀ c, (f c).native? = c.native?) {c : Channel δ η}
    (hc : c ∈ (m.updateChannel id f).channels) (hopen : c.isClosed = false) :
    ∃ d ∈ m.channels, d.isClosed = false := by
  obtain ⟨d, hd, rfl⟩ := List.mem_map.mp hc
  refine ⟨d, hd, ?_⟩
  split_ifs at hopen
  · rwa [Channel.isClosed, hf] at hopen
  · exact hopen

/-- A transfer is made while its channel is open. -/
lemma Timely.transfer (h : Timely p s.manager.view s.owner? s.stage due)
    {m : Manager (Watched σ η) δ η} {id : ℕ} {direction : Direction}
    (hview : m.view = s.manager.view ∨ ∃ c handle, s.manager.channel? id = some c ∧
      c.native? = some handle ∧
      m.view = s.manager.view.calling [.transfer handle direction]) :
    Kept p s due { s with manager := m } := by
  rcases hview with hview | ⟨c, handle, hc, hnative, hview⟩
  · have hcalls : m.platform.calls = s.calls ++ [] :=
      (congrArg View.calls hview).trans (List.append_nil _).symm
    refine .quiet (State.fresh_eq hcalls) ?_
    rw [hview]
    exact h
  · have hopen : c.isClosed = false := by rw [Channel.isClosed, hnative]; rfl
    have hfresh : s.fresh { s with manager := m } = [.transfer handle direction] :=
      State.fresh_eq (congrArg View.calls hview)
    refine .atOnce rfl (h.inUse (Or.inl ⟨c, (channel?_mem hc).1, hopen⟩)).1 ?_ ?_
    · rw [hfresh]
      simp [Made.isWork]
    · rw [hview]
      exact h.review rfl (fun hdown => hdown) (fun t id info r ht => (h.closing t id info r ht).1)
        fun c hc hopen => ⟨c, hc, hopen⟩

/-- A thread that closes an open channel is due to release and to close its handle. -/
lemma Timely.closeNative (h : Timely p s.manager.view s.owner? s.stage due)
    (ho : Orderly s.manager.view s.owner? s.stage []) {t id : ℕ} {c : Channel δ η}
    {result : Except NativeError Unit} {m : Manager (Watched σ η) δ η}
    (hstage : s.stage t = .idle) (hc : s.manager.channel? id = some c)
    (hclose : s.manager.closeNative c = (some result, m)) :
    Kept p s due (s.put t
      (.closing c.id c.info (result.mapError (.release c.info.interface))) m) := by
  obtain ⟨handle, hnative, hview⟩ := view_closeNative hclose
  have hmem := (channel?_mem hc).1
  have hopen : c.isClosed = false := by rw [Channel.isClosed, hnative]; rfl
  set r : Except UsbError Unit := result.mapError (.release c.info.interface)
  refine .due t (.closing c.id c.info r) (by simp [hstage]) rfl ?_
  have hfresh : s.fresh (s.put t (.closing c.id c.info r) m) =
      [.release handle c.info.interface, .closeHandle handle] :=
    State.fresh_eq (congrArg View.calls hview)
  rw [State.made, hfresh]
  have hwork : ∀ x ∈ ([.call (.release handle c.info.interface),
      .call (.closeHandle handle)] : List (Made δ η)), x.isWork = true := by
    simp [Made.isWork]
  have hkept := h.close ho hstage hmem hopen r hwork
  -- what the close does to the shared view shows in its calls and channels only
  have hinit : m.view.initialized = s.manager.view.initialized :=
    (congrArg View.initialized hview).trans rfl
  have hdown : m.view.shuttingDown = s.manager.view.shuttingDown :=
    (congrArg View.shuttingDown hview).trans rfl
  have hregistered : m.view.registered = s.manager.view.registered :=
    (congrArg View.registered hview).trans rfl
  exact hkept.review hinit hdown.trans
    (fun u id' info r' hu => hregistered ▸ (hkept.closing u id' info r' hu).1)
    fun _ _ _ => ⟨c, hmem, hopen⟩

/-- Every step of every thread keeps the threads timely. -/
theorem Timely.step (h : Timely p s.manager.view s.owner? s.stage due)
    (ho : Orderly s.manager.view s.owner? s.stage []) (hs : Step s es s')
    (hdue : ∀ u, due u ≠ [] → s'.stage u = s.stage u) : Kept p s due s' := by
  have hcalled : ∀ {cs}, s'.manager.view.calls = s.manager.view.calls ++ cs →
      s.fresh s' = cs := fun {cs} hcs =>
    State.fresh_eq (show s'.calls = s.calls ++ cs from hcs)
  have hquiet : s'.manager.view.calls = s.manager.view.calls → s.fresh s' = [] := fun hcs =>
    hcalled (hcs.trans (List.append_nil _).symm)
  have hmoved : ∀ t, s'.stage t ≠ s.stage t → due t = [] := fun t hne =>
    by_contra fun hcs => hne (hdue t hcs)
  have hclosing : ∀ t id info r, s.stage t = .closing id info r →
      id ∈ s.manager.view.registered := fun t id info r ht => (h.closing t id info r ht).1
  -- the owner of the scan lock gives it back with nothing due
  have hunlock : ∀ {t a b}, s.stage t = a → a.isInside = true → due t = [] →
      b.mayCall = false → Timely p s.manager.view none (Function.update s.stage t b) due := by
    intro t a b ht hin hcs hb
    refine h.move hcs hb ?_
    rw [ho.owner_eq (ht ▸ hin)]
    exact hcs.symm
  cases hs with
  | call t job hstage => exact .quiet (hquiet rfl) (h.move (h.due_eq_nil hstage rfl) rfl rfl)
  | lock t job hstage hfree =>
      have ht := h.due_eq_nil hstage rfl
      refine .quiet (hquiet rfl) (h.move ht rfl ?_)
      rw [hfree]
      exact ht
  | work t stage m hwork =>
      have hw := worked_of_advance hwork
      have ht : due t = [] := hmoved t (by rw [State.put_stage]; exact hw.stage_ne)
      obtain ⟨cs, hcs, hkept⟩ := h.worked ho rfl ht hw s.manager
      refine .due t stage hw.stage_ne rfl ?_
      rw [State.made, hcalled hcs]
      exact hkept
  | unlock t outcome hstage =>
      have ht := hmoved t (by simp [State.put, hstage])
      exact .quiet (hquiet rfl) (hunlock hstage rfl ht rfl)
  | part t scan hstage =>
      have ht := hmoved t (by simp [State.put, hstage])
      exact .quiet (hquiet rfl) (hunlock hstage rfl ht rfl)
  | partIncomplete t scan e hstage =>
      have ht := hmoved t (by simp [State.put, hstage])
      exact .quiet (hquiet rfl) (hunlock hstage rfl ht rfl)
  | discard t found e hstage =>
      refine .quiet (hquiet (congrArg View.calls (view_discard found))) ?_
      rw [State.put, view_discard]
      exact h.move (h.due_eq_nil hstage rfl) rfl rfl
  | closeAgain t id c m hstage hc hclose =>
      have hm := eq_of_closeNative_none hclose
      refine .quiet (hquiet (congrArg (fun m => m.view.calls) hm)) ?_
      rw [State.put, hm]
      exact h.move (h.due_eq_nil hstage rfl) rfl rfl
  | close t id c result m hstage hc hclose => exact h.closeNative ho hstage hc hclose
  | deregister t id info result hstage =>
      have ht := hmoved t (by simp [hstage])
      refine .quiet (hquiet rfl) (h.deregister hstage ht fun u => ?_)
      split_ifs
      · exact (s.stage u).notified_cases
      · exact Or.inl rfl
  | forget id hclosed =>
      exact .quiet (hquiet rfl) (h.review rfl (fun hdown => hdown) hclosing
        fun c hc hopen => ⟨c, List.mem_of_mem_filter hc, hopen⟩)
  | begin t timed stage outcome? m hstage hcheck =>
      have hbegun := hcheck.view_eq.trans view_beginShutdown
      have hup : Timely p { s.manager.view with shuttingDown := true } s.owner? s.stage due :=
        h.review rfl (fun _ => rfl) hclosing fun c hc hopen => ⟨c, hc, hopen⟩
      have hcalls : m.view.calls = s.manager.view.calls :=
        (congrArg View.calls hbegun).trans rfl
      refine .quiet (hquiet hcalls) ?_
      rw [State.put, hbegun]
      exact hup.move (h.due_eq_nil hstage rfl) hcheck.mayCall_eq rfl
  | wake t timed n stage outcome? m hstage hcheck =>
      refine .quiet (hquiet (congrArg View.calls hcheck.view_eq)) ?_
      rw [State.put, hcheck.view_eq]
      exact h.move (h.due_eq_nil hstage rfl) hcheck.mayCall_eq rfl
  | write t id data => exact h.transfer (view_write id data)
  | read t id limit => exact h.transfer (view_receive id limit)
  | setTimeouts t id read write =>
      refine .quiet (hquiet rfl) (h.review rfl (fun hdown => hdown) hclosing fun c hc hopen => ?_)
      obtain ⟨d, hd, hdopen⟩ := exists_open_of_updateChannel (m := s.manager.setReadTimeout id read)
        (f := fun c => { c with writeTimeout := write }) (fun _ => rfl) hc hopen
      exact exists_open_of_updateChannel (f := fun c => { c with readTimeout := read })
        (fun _ => rfl) hd hdopen
  | release f before after =>
      refine .quiet (hquiet (congrArg View.calls (view_release f.hold))) ?_
      rw [view_release]
      exact h
  | world => exact .quiet (hquiet rfl) h

end Steps

/-! ### Courses -/

section Courses

variable [Platform σ δ η] {p : Phase} {x y : Pace σ δ η} {es : List (Notice δ)}
  {tr : List (ℕ × Made δ η)}

/-- The threads of a pace are timely. -/
def Pace.IsTimely (p : Phase) (x : Pace σ δ η) : Prop :=
  Timely p x.state.manager.view x.state.owner? x.state.stage x.due

/-- A step or a call keeps the threads timely, and what is made the phase allows. -/
theorem timely_move (h : x.IsTimely p)
    (ho : Orderly x.state.manager.view x.state.owner? x.state.stage []) (hm : x.Move es tr y) :
    ∃ p', y.IsTimely p' ∧ ∀ cs, p.Reached cs → p'.Reached (cs ++ tr.map Prod.snd) := by
  cases hm with
  | @step t es s' hstep hdue hmoved =>
      have hsame : ∀ cs, p.Reached cs → p.Reached (cs ++ ([] : List (ℕ × Made δ η)).map Prod.snd) :=
        fun cs hcs => by simpa using hcs
      cases h.step ho hstep hdue with
      | quiet hfresh hkept =>
          have ht : x.due t = [] := by_contra fun hcs => hmoved (hdue t hcs)
          refine ⟨p, ?_, hsame⟩
          rw [State.made, hfresh, List.flatMap_nil, ← ht, Function.update_eq_self]
          exact hkept
      | due u b hne hstage hkept =>
          obtain rfl : t = u := by
            by_contra htu
            rw [hstage, Function.update_of_ne htu] at hmoved
            exact hmoved rfl
          exact ⟨p, hkept, hsame⟩
      | atOnce hstage => exact absurd (congrFun hstage t) hmoved
  | @stay t es s' hstep hsame hidle =>
      cases h.step ho hstep fun u _ => congrFun hsame u with
      | quiet hfresh hkept =>
          refine ⟨p, hkept, fun cs hcs => ?_⟩
          simpa [hfresh] using hcs
      | due u b hne hstage =>
          rw [hstage] at hsame
          have hb : b = x.state.stage u := by simpa using congrFun hsame u
          exact absurd hb hne
      | atOnce _ hduring hwork hkept =>
          subst hduring
          refine ⟨.during, hkept, fun cs hcs => hcs.append_work fun c hc => ?_⟩
          simp only [List.map_map, List.mem_map, Function.comp_apply] at hc
          obtain ⟨c, hc, rfl⟩ := hc
          exact hwork c hc
  | make t c cs hdue =>
      obtain ⟨p', hallows, hkept⟩ := h.make ho hdue
      exact ⟨p', hkept, fun cs hcs => hcs.snoc hallows⟩

/-- In every course, all that was made is what there is by the time of its phase. -/
theorem timely_course {layer : σ} (h : (Pace.start layer).Course es tr x) :
    ∃ p, x.IsTimely p ∧ p.Reached (tr.map Prod.snd) := by
  induction h with
  | refl => exact ⟨.before, Timely.start layer, 0, rfl⟩
  | tail hcourse hmove ih =>
      obtain ⟨p, htimely, hreached⟩ := ih
      obtain ⟨p', htimely', hallowed⟩ := timely_move htimely (orderly_run hcourse.run) hmove
      refine ⟨p', htimely', ?_⟩
      rw [List.map_append]
      exact hallowed _ hreached

end Courses

end UsbPipe.Threads
