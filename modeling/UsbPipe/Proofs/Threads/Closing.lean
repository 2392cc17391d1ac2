/-
What the close of a channel does.

A close is two steps of its thread.  In the first, under the lock of the channel, the interface
is released, the handle closed and the hold given back, whatever the release said.  In the
second the channel leaves the registry, and the thread returns what the release said.  No other
step gives up an interface or a handle of a channel, and a close that finds its channel closed
is no step at all.

* `Call.ends`, `endCalls`: the calls that give up an interface or a handle.
* `Closes`, `Completes`: the two steps, with all that they change; `closes_of_closeNative`.
* `Stepped`, `stepped_of_step`: a step goes on inside the scan lock, closes a channel, or is
  `Steady`.
* `Step.closing`, `Step.returned_closed`: a thread in the middle of a close, and what closes
  return; `view_dropChannel`: what a drop leaves.
* `Answers`, `answers_run`: how closes are answered after any run.
-/
import UsbPipe.Proofs.Threads.Holding
import UsbPipe.Proofs.Threads.Pace

namespace UsbPipe

open Usb Manager

variable {σ δ η : Type}

/-- Whether a call gives up an interface or a handle. -/
def Call.ends : Call η → Bool
  | release _ _ | closeHandle _ => true
  | _ => false

/-- The calls that end the use of a handle and its interface. -/
def endCalls (handle : η) (interface : UInt8) : List (Call η) :=
  [.release handle interface, .closeHandle handle]

namespace Threads

/-! ### The two steps of a close -/

/-- A channel without its timeouts, which a user may change. -/
def untimed (c : Channel δ η) : Channel δ η := { c with readTimeout := none, writeTimeout := none }

/-- The step in which a thread closes the channel `c` with its handle: two calls are made, and
their result is kept; the channel is emptied and its hold is given back, with the native
reference if that was the last hold; all other channels, holds and records stay. -/
structure Closes [Platform σ δ η] (s : State σ δ η) (t : ℕ) (c : Channel δ η) (handle : η)
    (result : Except NativeError Unit) (s' : State σ δ η) : Prop where
  native : result = (Platform.release handle c.info.interface s.manager.platform.layer).1
  idle : s.stage t = .idle
  stage : s'.stage = Function.update s.stage t
    (.closing c.id c.info (result.mapError (.release c.info.interface)))
  view : s'.manager.view = { s.manager.view.calling (endCalls handle c.info.interface) with
    channels := (s.manager.updateChannel c.id emptied).channels }
  hold : ∃ x, c.hold? = some x ∧ s.manager.pool.Returned x s'.manager.pool ∧
    s'.manager.platform.layer =
      let layer := Platform.closeHandle handle
        (Platform.release handle c.info.interface s.manager.platform.layer).2
      match (s.manager.pool.release x).dropped? with
      | some device => Platform.drop device layer
      | none => layer
  held : ∀ x ∈ s'.records.map Found.hold ++ s'.manager.channels.filterMap Channel.hold?,
    ∃ r, s'.manager.pool.find? x.id = some r ∧ r.key = x.key ∧ r.device = x.device
  owner : s'.owner? = s.owner?
  records : s'.records = s.records

/-- The step in which a thread that closed the channel `id` takes it off the registry, tells the
shutdowns that wait, and returns. -/
structure Completes (s : State σ δ η) (t id : ℕ) (r : Except UsbError Unit)
    (es : List (Notice δ)) (s' : State σ δ η) : Prop where
  shown : es = [.returned t (.closed r)]
  stage : s'.stage t = .idle
  others : ∀ u, u ≠ t → s'.stage u = s.stage u ∨ s'.stage u = (s.stage u).notified
  view : s'.manager.view =
    { s.manager.view with registered := s.manager.registered.filter (· != id) }
  platform : s'.manager.platform = s.manager.platform
  pool : s'.manager.pool = s.manager.pool
  owner : s'.owner? = s.owner?
  records : s'.records = s.records

section Single

variable {s s' : State σ δ η} {c d : Channel δ η} {id : ℕ}

lemma id_of_untimed (h : untimed d = untimed c) : d.id = c.id := congrArg (·.id) h

lemma native_of_untimed (h : untimed d = untimed c) : d.native? = c.native? :=
  congrArg (·.native?) h

lemma isClosed_of_untimed (h : untimed d = untimed c) : d.isClosed = c.isClosed := by
  rw [Channel.isClosed, Channel.isClosed, native_of_untimed h]

variable [Platform σ δ η] {t : ℕ} {handle : η} {result : Except NativeError Unit}

/-- Timeouts do not matter to a close. -/
lemma Closes.congr (h : Closes s t d handle result s') (hsame : untimed d = untimed c) :
    Closes s t c handle result s' := by
  have hid : d.id = c.id := id_of_untimed hsame
  have hinfo : d.info = c.info := congrArg (·.info) hsame
  have hhold : d.hold? = c.hold? := congrArg (·.hold?) hsame
  obtain ⟨hnative, hidle, hstage, hview, hreturned, hheld, howner, hrecords⟩ := h
  rw [hinfo] at hnative hstage hview hreturned
  rw [hid] at hstage hview
  rw [hhold] at hreturned
  exact ⟨hnative, hidle, hstage, hview, hreturned, hheld, howner, hrecords⟩

/-- A close makes its two calls. -/
lemma Closes.fresh_eq (h : Closes s t c handle result s') :
    s.fresh s' = endCalls handle c.info.interface :=
  State.fresh_eq (congrArg View.calls h.view)

lemma Closes.channels_eq (h : Closes s t c handle result s') :
    s'.manager.channels = (s.manager.updateChannel c.id emptied).channels :=
  congrArg View.channels h.view

/-- A close of an open channel in an orderly state, with all holds in somebody's hands. -/
theorem closes_of_closeNative (ho : Orderly s.manager.view s.owner? s.stage [])
    (hb : Backed s.manager.pool s.records s.manager.channels s.stage)
    (hidle : s.stage t = .idle) (hc : c ∈ s.manager.channels) {m : Manager (Watched σ η) δ η}
    (hclose : s.manager.closeNative c = (some result, m)) :
    ∃ handle, c.native? = some handle ∧ Closes s t c handle result
      (s.put t (.closing c.id c.info (result.mapError (.release c.info.interface))) m) := by
  obtain ⟨handle, hnative, hview⟩ := view_closeNative hclose
  obtain ⟨x, hx⟩ : ∃ x, c.hold? = some x := by
    rw [← Option.isSome_iff_exists, hb.paired c hc, hnative]
    rfl
  have hchannels : m.channels = (s.manager.updateChannel c.id emptied).channels :=
    congrArg View.channels hview
  have hpool := pool_closeNative hnative hx hclose
  obtain ⟨⟨H, hbacks⟩, hafter⟩ := hb.vacate ho.ids_nodup hc hx
  rw [← hpool, ← hchannels] at hafter
  rw [closeNative_eq hnative hx, Prod.mk.injEq] at hclose
  refine ⟨handle, hnative, (Option.some.inj hclose.1).symm, hidle, rfl, hview,
    ⟨x, hx, ?_, ?_⟩, ?_, rfl, rfl⟩
  · show s.manager.pool.Returned x m.pool
    rw [hpool]
    exact hbacks.returned
  · show m.platform.layer = _
    rw [← hclose.2, release_platform]
    simp only [updateChannel]
    cases (s.manager.pool.release x).dropped? <;> rfl
  · intro y hy
    obtain ⟨hs, -, hall⟩ := hafter.backs
    obtain ⟨r, hr, hid, hkey, hdevice⟩ := hall.held y (List.mem_append_right _ hy)
    exact ⟨r, hid ▸ hall.find?_id hr, hkey, hdevice⟩

end Single

/-! ### What a step may be -/

/-- A step that ends the use of no handle, gives out no id, and leaves the open channels as they
are but for their timeouts. -/
structure Steady (s s' : State σ δ η) : Prop where
  calls : ∃ cs, s'.calls = s.calls ++ cs ∧ ∀ k ∈ cs, k.ends = false
  lastId : s'.manager.lastId = s.manager.lastId
  stage : ∀ u a id, s'.stage u = .registered a id → s.stage u = .registered a id
  kept : ∀ c ∈ s.manager.channels, c.isClosed = false →
    ∃ d ∈ s'.manager.channels, untimed d = untimed c
  origin : ∀ d ∈ s'.manager.channels, ∃ c ∈ s.manager.channels, untimed d = untimed c

namespace Steady

variable {s s' : State σ δ η} {cs : List (Call η)}

/-- Without a change of the table. -/
lemma of_channels (hcalls : s'.calls = s.calls ++ cs) (hends : ∀ k ∈ cs, k.ends = false)
    (hlast : s'.manager.lastId = s.manager.lastId)
    (hstage : ∀ u a id, s'.stage u = .registered a id → s.stage u = .registered a id)
    (hchannels : s'.manager.channels = s.manager.channels) : Steady s s' where
  calls := ⟨cs, hcalls, hends⟩
  lastId := hlast
  stage := hstage
  kept := fun c hc _ => ⟨c, hchannels ▸ hc, rfl⟩
  origin := fun d hd => ⟨d, hchannels ▸ hd, rfl⟩

/-- With nothing that others see but calls. -/
lemma of_calling (hview : s'.manager.view = s.manager.view.calling cs)
    (hends : ∀ k ∈ cs, k.ends = false)
    (hstage : ∀ u a id, s'.stage u = .registered a id → s.stage u = .registered a id) :
    Steady s s' :=
  of_channels (congrArg View.calls hview) hends (congrArg View.lastId hview) hstage
    (congrArg View.channels hview)

/-- With nothing that others see. -/
lemma of_view (hview : s'.manager.view = s.manager.view)
    (hstage : ∀ u a id, s'.stage u = .registered a id → s.stage u = .registered a id) :
    Steady s s' :=
  have hcalls : s'.calls = s.calls ++ [] :=
    (congrArg View.calls hview).trans (List.append_nil _).symm
  of_channels hcalls (by simp) (congrArg View.lastId hview) hstage (congrArg View.channels hview)

end Steady

/-- What a step does: its thread goes on inside the scan lock, or closes a channel, or the step
is steady. -/
inductive Stepped [Platform σ δ η] (s s' : State σ δ η) : Prop where
  | worked (t : ℕ) (b : Stage δ η)
      (hwork : Worked s.manager.view (s.stage t) b s'.manager.view)
      (hstage : s'.stage = Function.update s.stage t b)
  | closed (t : ℕ) (c : Channel δ η) (handle : η) (result : Except NativeError Unit)
      (hc : c ∈ s.manager.channels) (hnative : c.native? = some handle)
      (hcloses : Closes s t c handle result s')
  | steady (h : Steady s s')

/-- A thread that went elsewhere has no open registered now. -/
lemma Stage.registered_of_update {stage : ℕ → Stage δ η} {t u id : ℕ} {a : Claimed δ η}
    {b : Stage δ η} (hb : ∀ a id, b ≠ .registered a id)
    (h : Function.update stage t b u = .registered a id) : stage u = .registered a id :=
  (Stage.update_cases h).resolve_left (hb a id)

lemma Stage.registered_of_notified {a : Stage δ η} {c : Claimed δ η} {id : ℕ}
    (h : a.notified = .registered c id) : a = .registered c id := by
  cases a <;> first | exact h | cases h

lemma Stage.leaving_of_notified {a : Stage δ η} {outcome : Outcome δ}
    (h : a.notified = .leaving outcome) : a = .leaving outcome := by
  cases a <;> first | exact h | cases h

lemma Checked.not_registered {m m' : Manager (Watched σ η) δ η} {timed : Bool} {b : Stage δ η}
    {outcome? : Option (Outcome δ)} (h : Checked m timed b outcome? m') (c : Claimed δ η)
    (id : ℕ) : b ≠ .registered c id := by
  cases h <;> simp

/-- The owner of the scan lock does not come to the outcome of a close. -/
lemma Worked.leaving_ne_closed {v v' : View δ η} {a b : Stage δ η} (h : Worked v a b v')
    (r : Except UsbError Unit) : b ≠ .leaving (.closed r) := by
  cases h with
  | turnedAway job | initFailed job => cases job <;> simp [Job.refused]
  | _ => simp

lemma Checked.leaving_ne_closed {m m' : Manager (Watched σ η) δ η} {timed : Bool} {b : Stage δ η}
    {outcome? : Option (Outcome δ)} (h : Checked m timed b outcome? m')
    (r : Except UsbError Unit) : b ≠ .leaving (.closed r) ∧ outcome? ≠ some (.closed r) := by
  cases h <;> simp

section Steps

variable [Platform σ δ η] {s s' : State σ δ η} {es : List (Notice δ)}

theorem stepped_of_step (ho : Orderly s.manager.view s.owner? s.stage [])
    (hb : Backed s.manager.pool s.records s.manager.channels s.stage) (hs : Step s es s') :
    Stepped s s' := by
  have hmoved : ∀ {t : ℕ} {b : Stage δ η}, (∀ a id, b ≠ .registered a id) → ∀ u a id,
      Function.update s.stage t b u = .registered a id → s.stage u = .registered a id :=
    fun hb _ _ _ hu => Stage.registered_of_update hb hu
  cases hs with
  | call | lock | unlock | part | partIncomplete =>
      exact .steady (.of_view rfl (hmoved (by simp)))
  | work t b m hwork => exact .worked t b (worked_of_advance hwork) rfl
  | discard t found e => exact .steady (.of_view (view_discard found) (hmoved (by simp)))
  | closeAgain t id c m hstage hc hclose =>
      exact .steady (.of_view (congrArg view (eq_of_closeNative_none hclose)) (hmoved (by simp)))
  | close t id c result m hstage hc hclose =>
      have hmem := (channel?_mem hc).1
      obtain ⟨handle, hnative, hcloses⟩ := closes_of_closeNative ho hb hstage hmem hclose
      exact .closed t c handle result hmem hnative hcloses
  | deregister t id info result hstage =>
      refine .steady
        (.of_channels (List.append_nil _).symm (by simp) rfl (fun u a id' hu => ?_) rfl)
      simp only at hu
      replace hu := Stage.registered_of_update (by simp) hu
      split_ifs at hu
      · exact Stage.registered_of_notified hu
      · exact hu
  | forget id hclosed =>
      refine .steady ⟨⟨[], (List.append_nil _).symm, by simp⟩, rfl, fun _ _ _ hu => hu,
        fun c hc hopen => ⟨c, ?_, rfl⟩, fun d hd => ⟨d, List.mem_of_mem_filter hd, rfl⟩⟩
      have hne : c.id ≠ id := by
        intro hid
        rw [hclosed c hc hid] at hopen
        cases hopen
      exact List.mem_filter.mpr ⟨hc, by simpa using hne⟩
  | begin t timed b outcome? m hstage hcheck =>
      have hview := hcheck.view_eq.trans view_beginShutdown
      exact .steady (.of_channels ((congrArg View.calls hview).trans (List.append_nil _).symm)
        (by simp) (congrArg View.lastId hview) (hmoved hcheck.not_registered)
        (congrArg View.channels hview))
  | wake t timed n b outcome? m hstage hcheck =>
      exact .steady (.of_view hcheck.view_eq (hmoved hcheck.not_registered))
  | write t id data =>
      rcases view_write (m := s.manager) id data with hv | ⟨c, handle, -, -, hv⟩
      · exact .steady (.of_view hv fun _ _ _ hu => hu)
      · exact .steady (.of_calling hv (by simp [Call.ends]) fun _ _ _ hu => hu)
  | read t id limit =>
      rcases view_receive (m := s.manager) id limit with hv | ⟨c, handle, -, -, hv⟩
      · exact .steady (.of_view hv fun _ _ _ hu => hu)
      · exact .steady (.of_calling hv (by simp [Call.ends]) fun _ _ _ hu => hu)
  | setTimeouts t id read write =>
      -- the channels are those of before, with other timeouts under one id
      have hsame : ∀ c : Channel δ η,
          untimed ((fun c => if c.id = id then { c with writeTimeout := write } else c)
            ((fun c => if c.id = id then { c with readTimeout := read } else c) c)) =
          untimed c := by
        intro c
        by_cases hid : c.id = id <;> simp [hid, untimed]
      have hchannels : ((s.manager.setReadTimeout id read).setWriteTimeout id write).channels =
          s.manager.channels.map _ := List.map_map
      refine .steady ⟨⟨[], (List.append_nil _).symm, by simp⟩, rfl, fun _ _ _ hu => hu,
        fun c hc _ => ?_, fun d hd => ?_⟩
      · rw [hchannels]
        exact ⟨_, List.mem_map_of_mem hc, hsame c⟩
      · rw [hchannels] at hd
        obtain ⟨c, hc, rfl⟩ := List.mem_map.mp hd
        exact ⟨c, hc, hsame c⟩
  | release f before after =>
      exact .steady (.of_view (view_release f.hold) fun _ _ _ hu => hu)
  | world layer => exact .steady (.of_view rfl fun _ _ _ hu => hu)

/-! ### Threads that close -/

/-- A thread in the middle of a close completes it, or stays there and returns from none. -/
theorem Step.closing (hs : Step s es s') {t id : ℕ} {info : RawInterface}
    {r : Except UsbError Unit} (ht : s.stage t = .closing id info r) :
    Completes s t id r es s' ∨
      (s'.stage t = s.stage t ∧ ∀ outcome, .returned t outcome ∉ es) := by
  -- a thread at any other stage is another thread
  have hother : ∀ {u : ℕ} {a : Stage δ η}, s.stage u = a → a ≠ .closing id info r → t ≠ u := by
    rintro u a hu hne rfl
    exact hne (hu.symm.trans ht)
  have hstay : ∀ {u : ℕ} {b : Stage δ η}, t ≠ u → Function.update s.stage u b t = s.stage t :=
    fun hne => Function.update_of_ne hne _ _
  cases hs with
  | call u _ hstage | lock u _ hstage | unlock u _ hstage | part u _ hstage
  | partIncomplete u _ _ hstage | discard u _ _ hstage | closeAgain u _ _ _ hstage
  | close u _ _ _ _ hstage =>
      have hne := hother hstage (by simp)
      exact Or.inr ⟨hstay hne, by simp [hne]⟩
  | work u b m hwork =>
      have hne : t ≠ u := by
        rintro rfl
        rw [ht] at hwork
        cases hwork
      refine Or.inr ⟨hstay hne, fun outcome => ?_⟩
      cases b <;> simp [shown]
  | deregister u id' info' r' hstage =>
      by_cases hne : t = u
      · subst hne
        cases ht.symm.trans hstage
        refine Or.inl ⟨rfl, by simp, fun u hu => ?_, rfl, rfl, rfl, rfl, rfl⟩
        simp only [Function.update_of_ne hu]
        split_ifs
        · exact Or.inr rfl
        · exact Or.inl rfl
      · refine Or.inr ⟨?_, by simp [hne]⟩
        simp only [Function.update_of_ne hne, ht]
        split_ifs <;> rfl
  | begin u timed b outcome? m hstage hcheck =>
      have hne := hother hstage (by simp)
      refine Or.inr ⟨hstay hne, ?_⟩
      cases outcome? <;> simp [hne]
  | wake u timed n b outcome? m hstage hcheck =>
      have hne := hother hstage (by simp)
      refine Or.inr ⟨hstay hne, ?_⟩
      cases outcome? <;> simp [hne]
  | forget | write | read | setTimeouts | release | world => exact Or.inr ⟨rfl, by simp⟩

/-- Nobody has the outcome of a close inside the scan lock. -/
lemma leaving_run {layer : σ} (hrun : Run (State.start layer) es s) (u : ℕ)
    (r : Except UsbError Unit) : s.stage u ≠ .leaving (.closed r) := by
  induction hrun with
  | refl => simp [State.start]
  | tail _ hstep ih =>
      intro hu
      have hmoved : ∀ {stage : ℕ → Stage δ η} {t : ℕ} {b : Stage δ η},
          b ≠ .leaving (.closed r) → Function.update stage t b u = .leaving (.closed r) →
            stage u = .leaving (.closed r) :=
        fun hb h => (Stage.update_cases h).resolve_left hb
      cases hstep with
      | call | lock | unlock | part | partIncomplete | discard | closeAgain | close =>
          exact ih (hmoved (by simp) hu)
      | work t b m hwork =>
          exact ih (hmoved ((worked_of_advance hwork).leaving_ne_closed r) hu)
      | deregister t id info result hstage =>
          simp only at hu
          have hbefore := hmoved (by simp) hu
          split_ifs at hbefore
          · exact ih (Stage.leaving_of_notified hbefore)
          · exact ih hbefore
      | begin t timed b outcome? m hstage hcheck | wake t timed n b outcome? m hstage hcheck =>
          exact ih (hmoved (hcheck.leaving_ne_closed r).1 hu)
      | _ => exact ih hu

/-- What a close returns: what its thread has kept since it closed the channel; or success, if
the channel was closed before, and then nothing changes. -/
lemma Step.returned_closed (hs : Step s es s') {t : ℕ} {r : Except UsbError Unit}
    (hleaving : ∀ u r, s.stage u ≠ .leaving (.closed r))
    (hmem : .returned t (.closed r) ∈ es) :
    (∃ id info, s.stage t = .closing id info r) ∨ (r = .ok () ∧ s' = s) := by
  cases hs with
  | work u b m hwork => cases b <;> simp [shown] at hmem
  | unlock u outcome hstage =>
      obtain ⟨-, rfl⟩ : t = u ∧ .closed r = outcome := by simpa using hmem
      exact absurd hstage (hleaving u r)
  | closeAgain u id c m hstage hc hclose =>
      obtain ⟨-, rfl⟩ : t = u ∧ r = .ok () := by simpa using hmem
      rw [eq_of_closeNative_none hclose, State.put, ← hstage, Function.update_eq_self]
      exact Or.inr ⟨rfl, rfl⟩
  | deregister u id info result hstage =>
      obtain ⟨rfl, rfl⟩ : t = u ∧ r = result := by simpa using hmem
      exact Or.inl ⟨id, info, hstage⟩
  | begin u timed b outcome? m hstage hcheck | wake u timed n b outcome? m hstage hcheck =>
      have hopened := (hcheck.leaving_ne_closed r).2
      cases outcome? with
      | none => simp at hmem
      | some outcome =>
          refine absurd ?_ hopened
          obtain ⟨-, rfl⟩ : t = u ∧ .closed r = outcome := by simpa using hmem
          rfl
  | _ => simp at hmem

/-- The channel of a drop: closed, registered no longer, and off the table. -/
lemma view_dropChannel {m : Manager (Watched σ η) δ η} {c : Channel δ η} {handle : η} {id : ℕ}
    (hc : m.channel? id = some c) (hnative : c.native? = some handle) :
    (m.dropChannel id).view = { m.view.calling (endCalls handle c.info.interface) with
      registered := m.registered.filter (· != id)
      channels := m.channels.filter (·.id != id) } := by
  obtain rfl := (channel?_mem hc).2
  have hfilter : (m.updateChannel c.id emptied).channels.filter (·.id != c.id) =
      m.channels.filter (·.id != c.id) := filter_updateChannel c.id fun _ => rfl
  rcases hn : m.closeNative c with ⟨_ | result, m₁⟩
  · rw [closeNative, hnative] at hn
    cases (Prod.mk.inj hn).1
  · obtain ⟨handle', hsame, hview⟩ := view_closeNative hn
    obtain rfl := Option.some.inj (hsame.symm.trans hnative)
    -- whatever the release said, what is left to do is the same
    have hleft : (m.dropChannel c.id).view = { m₁.view with
        registered := m₁.view.registered.filter (· != c.id)
        channels := m₁.view.channels.filter (·.id != c.id) } := by
      rw [dropChannel, hc]
      simp only [closeChannel, hn]
      cases result <;> rfl
    rw [hleft, hview]
    simp only [hfilter]
    rfl

/-! ### Answers -/

/-- How closes are answered.  A thread that closes an open channel can do so, and then it can
return what the release said, and does nothing else before.  A close that returns is such a
one, or it found the channel closed, succeeds and changes nothing.  A drop is a close after
which the channel is gone from the table. -/
structure Answers (s : State σ δ η) : Prop where
  close : ∀ t id c handle, s.stage t = .idle → s.manager.channel? id = some c →
    c.native? = some handle → ∃ result s', Step s [] s' ∧ Closes s t c handle result s'
  closeAgain : ∀ t id c, s.stage t = .idle → s.manager.channel? id = some c →
    c.isClosed = true → Step s [.returned t (.closed (.ok ()))] s
  finish : ∀ t id info r, s.stage t = .closing id info r →
    (∃ s', Step s [.returned t (.closed r)] s') ∧
    ∀ es s', Step s es s' → Completes s t id r es s' ∨
      (s'.stage t = s.stage t ∧ ∀ outcome, .returned t outcome ∉ es)
  returned : ∀ t r es s', Step s es s' → .returned t (.closed r) ∈ es →
    (∃ id info, s.stage t = .closing id info r) ∨ (r = .ok () ∧ s' = s)
  drop : ∀ c ∈ s.manager.channels, ∀ handle, c.native? = some handle →
    (s.manager.dropChannel c.id).view =
      { s.manager.view.calling (endCalls handle c.info.interface) with
        registered := s.manager.registered.filter (· != c.id)
        channels := s.manager.channels.filter (·.id != c.id) }

/-- After every run of threads that start, closes are answered. -/
theorem answers_run {layer : σ} (hrun : Run (State.start layer) es s) : Answers s := by
  have ho := orderly_run hrun
  have hb := backed_run hrun
  refine ⟨fun t id c handle hidle hc hnative => ?_, fun t id c hidle hc hclosed => ?_,
    fun t id info r ht => ⟨⟨_, .deregister t id info r ht⟩, fun _ _ hs => hs.closing ht⟩,
    fun t r _ _ hs hmem => hs.returned_closed (leaving_run hrun) hmem,
    fun c hc handle hnative => view_dropChannel (channel?_of_mem ho.ids_nodup hc) hnative⟩
  · have hmem := (channel?_mem hc).1
    obtain ⟨x, hx⟩ : ∃ x, c.hold? = some x := by
      rw [← Option.isSome_iff_exists, hb.paired c hmem, hnative]
      rfl
    have hclose := closeNative_eq (m := s.manager) hnative hx
    obtain ⟨handle', hsame, hcloses⟩ := closes_of_closeNative ho hb hidle hmem hclose
    obtain rfl := Option.some.inj (hsame.symm.trans hnative)
    exact ⟨_, _, .close t id c _ _ hidle hc hclose, hcloses⟩
  · have hclose : s.manager.closeNative c = (none, s.manager) := by
      rw [closeNative, Option.isNone_iff_eq_none.mp hclosed]
    have hstep := Step.closeAgain t id c _ hidle hc hclose
    rwa [State.put, ← hidle, Function.update_eq_self] at hstep

end Steps

end Threads

end UsbPipe
