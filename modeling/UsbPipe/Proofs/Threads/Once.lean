/-
Every channel is closed once.

A channel is open until some thread closes it, and then its id is spent: no channel comes under
it again, and whatever is done with it makes no call.  So whoever closes it or drops it, however
often and in whatever order, its interface is released once and its handle closed once.  Every
other step that gives up an interface or a handle closes another channel, or ends an open that
comes to nothing.

* `Trace`: a run with the states before and after each of its steps.
* `State.Shuts`, `State.shutting`: a step before which a channel is open, and not after, and the
  calls it makes.
* `State.Aborts`, `Spares`, `Step.closes_or_spares`: a step closes one channel, or none.
* `Past`, `Past.step`: an id that is spent stays so.
* `Fate`, `Reports`, `fate_trace`: what becomes of a channel, and of the thread that closed it.
* `close_once`: the calls that a run makes for a channel, and the steps that make them.
-/
import UsbPipe.Bench.Basic
import UsbPipe.Proofs.Threads.Closing

namespace UsbPipe.Threads

open Usb Manager

variable {σ δ η : Type}

/-! ### Traces -/

/-- A run with the states before and after each of its steps. -/
inductive Trace [Platform σ δ η] (s₀ : State σ δ η) :
    List (State σ δ η × State σ δ η) → State σ δ η → Prop where
  | refl : Trace s₀ [] s₀
  | tail {s s' : State σ δ η} {tr : List (State σ δ η × State σ δ η)} {es : List (Notice δ)}
      (htrace : Trace s₀ tr s) (hstep : Step s es s') : Trace s₀ (tr ++ [(s, s')]) s'

section Traces

variable [Platform σ δ η] {s₀ s s' : State σ δ η} {tr : List (State σ δ η × State σ δ η)}

/-- Every trace is that of a run. -/
lemma Trace.run (h : Trace s₀ tr s) : ∃ es, Run s₀ es s := by
  induction h with
  | refl => exact ⟨[], .refl s₀⟩
  | tail _ hstep ih =>
      obtain ⟨es, hrun⟩ := ih
      exact ⟨_, hrun.tail hstep⟩

/-- Every run has a trace. -/
theorem Run.trace {es : List (Notice δ)} (h : Run s₀ es s) : ∃ tr, Trace s₀ tr s := by
  induction h with
  | refl => exact ⟨[], .refl⟩
  | tail _ hstep ih =>
      obtain ⟨tr, htrace⟩ := ih
      exact ⟨_, htrace.tail hstep⟩

/-- Every step of a trace comes after a run. -/
lemma Trace.step_of_mem (h : Trace s₀ tr s) {p : State σ δ η × State σ δ η} (hp : p ∈ tr) :
    ∃ es es', Run s₀ es p.1 ∧ Step p.1 es' p.2 := by
  induction h with
  | refl => cases hp
  | tail htrace hstep ih =>
      rcases List.mem_append.mp hp with hp | hp
      · exact ih hp
      · obtain rfl := List.mem_singleton.mp hp
        obtain ⟨es, hrun⟩ := htrace.run
        exact ⟨es, _, hrun, hstep⟩

/-- The native layer gets the calls of the steps, in order. -/
lemma Trace.calls_eq (h : Trace s₀ tr s) :
    s.calls = s₀.calls ++ tr.flatMap fun p => p.1.fresh p.2 := by
  induction h with
  | refl => exact (List.append_nil _).symm
  | tail _ hstep ih =>
      obtain ⟨cs, hcs, -⟩ := hstep.calls_append
      rw [List.flatMap_append, List.flatMap_singleton, State.fresh_eq hcs, ← List.append_assoc,
        ← ih, hcs]

end Traces

/-! ### Steps that close a channel, and others -/

namespace State

/-- The ids of the open channels. -/
def openIds (s : State σ δ η) : List ℕ := s.manager.opened.map Channel.id

/-- The channel `id` is open before a step and not after it. -/
def Shuts (s : State σ δ η) (id : ℕ) (s' : State σ δ η) : Prop :=
  id ∈ s.openIds ∧ id ∉ s'.openIds

instance (s : State σ δ η) (id : ℕ) (s' : State σ δ η) : Decidable (s.Shuts id s') :=
  inferInstanceAs (Decidable (_ ∧ _))

/-- The calls of a step, if it shuts the channel `id`. -/
def shutting (s : State σ δ η) (id : ℕ) (s' : State σ δ η) : List (Call η) :=
  if s.Shuts id s' then s.fresh s' else []

/-- The owner of the scan lock may give up what it has taken for an open: it is about to claim
the interface of a record, or its claim was refused a place among the open channels. -/
def Aborts (s : State σ δ η) : Prop :=
  ∃ t, s.owner? = some t ∧ ((∃ f, s.stage t = .resolved f) ∨ ∃ c e, s.stage t = .refused c e)

variable {s : State σ δ η}

lemma mem_openIds {id : ℕ} :
    id ∈ s.openIds ↔ ∃ c ∈ s.manager.channels, c.isClosed = false ∧ c.id = id := by
  simp [openIds, opened, and_assoc]

lemma mem_openIds_of_native {c : Channel δ η} {handle : η} (hc : c ∈ s.manager.channels)
    (hnative : c.native? = some handle) : c.id ∈ s.openIds :=
  mem_openIds.mpr ⟨c, hc, by rw [Channel.isClosed, hnative]; rfl, rfl⟩

/-- Under the id of no open channel there are closed ones only. -/
lemma isClosed_of_not_mem {id : ℕ} (h : id ∉ s.openIds) :
    ∀ c ∈ s.manager.channels, c.id = id → c.isClosed = true := by
  intro c hc hid
  by_contra hopen
  exact h (mem_openIds.mpr ⟨c, hc, Bool.eq_false_iff.mpr hopen, hid⟩)

end State

/-- A step that leaves all open channels open, and gives up an interface or a handle only where
an open comes to nothing. -/
structure Spares (s s' : State σ δ η) : Prop where
  ends : ∀ k ∈ s.fresh s', k.ends = true → s.Aborts
  kept : ∀ c ∈ s.manager.channels, c.isClosed = false →
    ∃ d ∈ s'.manager.channels, untimed d = untimed c

/-- Inside the scan lock only an open that comes to nothing gives up what it took. -/
lemma Worked.ends_cases {v v' : View δ η} {a b : Stage δ η} (h : Worked v a b v') :
    ∃ cs, v'.calls = v.calls ++ cs ∧ ∀ k ∈ cs, k.ends = true →
      (∃ f, a = .resolved f) ∨ ∃ c e, a = .refused c e := by
  cases h with
  | unopened f | unclaimed f | claimed f => exact ⟨_, rfl, fun _ _ _ => Or.inl ⟨f, rfl⟩⟩
  | abandoned c e => exact ⟨_, rfl, fun _ _ _ => Or.inr ⟨c, e, rfl⟩⟩
  | tornDown | initFailed | initialized | scanned | enumerated | unresolved | resolved =>
      exact ⟨_, rfl, by simp [Call.ends]⟩
  | _ => exact ⟨[], (List.append_nil _).symm, by simp⟩

/-- Nor does it close a channel. -/
lemma Worked.channels_subset {v v' : View δ η} {a b : Stage δ η} (h : Worked v a b v') :
    v.channels ⊆ v'.channels := by
  cases h with
  | established c id => exact List.subset_append_left _ _
  | _ => exact List.Subset.refl _

section Steps

variable [Platform σ δ η] {s s' : State σ δ η} {es : List (Notice δ)} {c : Channel δ η}
  {handle : η}

/-- Every step closes one channel, or spares them all. -/
theorem Step.closes_or_spares (ho : Orderly s.manager.view s.owner? s.stage [])
    (hb : Backed s.manager.pool s.records s.manager.channels s.stage) (hs : Step s es s') :
    (∃ t c handle result, c ∈ s.manager.channels ∧ c.native? = some handle ∧
      Closes s t c handle result s') ∨ Spares s s' := by
  cases stepped_of_step ho hb hs with
  | worked t b hwork hstage =>
      obtain ⟨cs, hcs, hends⟩ := hwork.ends_cases
      refine Or.inr ⟨fun k hk hend => ?_, fun c hc _ => ⟨c, hwork.channels_subset hc, rfl⟩⟩
      rw [State.fresh_eq hcs] at hk
      have hgives := hends k hk hend
      have hinside : (s.stage t).isInside = true := by
        rcases hgives with ⟨f, ht⟩ | ⟨c, e, ht⟩ <;> rw [ht] <;> rfl
      exact ⟨t, ho.owner_eq hinside, hgives⟩
  | closed t c handle result hc hnative hcloses =>
      exact Or.inl ⟨t, c, handle, result, hc, hnative, hcloses⟩
  | steady h =>
      obtain ⟨cs, hcs, hends⟩ := h.calls
      refine Or.inr ⟨fun k hk hend => ?_, h.kept⟩
      rw [State.fresh_eq hcs] at hk
      rw [hends k hk] at hend
      cases hend

/-- A close leaves every channel but its own in the table. -/
lemma Closes.mem_of_ne {t : ℕ} {result : Except NativeError Unit}
    (h : Closes s t c handle result s') {d : Channel δ η} (hd : d ∈ s.manager.channels)
    (hne : d.id ≠ c.id) : d ∈ s'.manager.channels := by
  rw [h.channels_eq]
  exact List.mem_map.mpr ⟨d, hd, if_neg hne⟩

/-- A close shuts its channel. -/
lemma Closes.not_mem_openIds {t : ℕ} {result : Except NativeError Unit}
    (h : Closes s t c handle result s') : c.id ∉ s'.openIds := by
  rw [State.mem_openIds, h.channels_eq]
  rintro ⟨d, hd, hopen, hid⟩
  obtain ⟨e, -, rfl⟩ := List.mem_map.mp hd
  by_cases he : e.id = c.id
  · simp [he, emptied, Channel.isClosed] at hopen
  · rw [if_neg he] at hid
    exact he hid

/-- An open channel stays in the table, but for its timeouts, until it is closed. -/
theorem Step.keeps_or_closes (ho : Orderly s.manager.view s.owner? s.stage [])
    (hb : Backed s.manager.pool s.records s.manager.channels s.stage) (hs : Step s es s')
    (hc : c ∈ s.manager.channels) (hnative : c.native? = some handle) :
    (∃ d ∈ s'.manager.channels, untimed d = untimed c) ∨
      ∃ t result, Closes s t c handle result s' := by
  rcases hs.closes_or_spares ho hb with ⟨t, d, handle', result, hd, hnative', hcloses⟩ | hspares
  · by_cases hid : d.id = c.id
    · obtain rfl := List.inj_on_of_nodup_map ho.ids_nodup hd hc hid
      obtain rfl := Option.some.inj (hnative'.symm.trans hnative)
      exact Or.inr ⟨t, result, hcloses⟩
    · exact Or.inl ⟨c, hcloses.mem_of_ne hc (Ne.symm hid), rfl⟩
  · exact Or.inl (hspares.kept c hc (by rw [Channel.isClosed, hnative]; rfl))

end Steps

/-! ### Ids that are spent -/

/-- An id that was given out and is no open channel's, nor on the way to be one's. -/
structure Past (id : ℕ) (v : View δ η) (stage : ℕ → Stage δ η) : Prop where
  closed : ∀ c ∈ v.channels, c.id = id → c.isClosed = true
  le : id ≤ v.lastId
  apart : ∀ t a, stage t ≠ .registered a id

namespace Past

variable {id : ℕ} {v v' : View δ η} {stage : ℕ → Stage δ η}

/-- Inside the scan lock new ids are given out, and channels come under ids that were on the
way. -/
lemma worked (h : Past id v stage) {t : ℕ} {b : Stage δ η} (hw : Worked v (stage t) b v') :
    Past id v' (Function.update stage t b) := by
  generalize ha : stage t = a at hw
  cases hw with
  | registered c hdown =>
      refine ⟨h.closed, Nat.le_succ_of_le h.le, fun u a hu => ?_⟩
      rcases Stage.update_cases hu with hb | hu
      · have hid : v.lastId + 1 = id := (Stage.registered.inj hb).2
        have hle := h.le
        omega
      · exact h.apart u a hu
  | established c id' =>
      refine ⟨fun d hd hid => ?_, h.le, fun u a hu =>
        h.apart u a (Stage.registered_of_update (by simp) hu)⟩
      rcases List.mem_append.mp hd with hd | hd
      · exact h.closed d hd hid
      · obtain rfl := List.mem_singleton.mp hd
        obtain rfl : id' = id := hid
        exact absurd ha (h.apart t c)
  | _ => exact ⟨h.closed, h.le, fun u a hu => h.apart u a (Stage.registered_of_update (by simp) hu)⟩

variable [Platform σ δ η] {s s' : State σ δ η} {es : List (Notice δ)}

theorem step (h : Past id s.manager.view s.stage)
    (ho : Orderly s.manager.view s.owner? s.stage [])
    (hb : Backed s.manager.pool s.records s.manager.channels s.stage) (hs : Step s es s') :
    Past id s'.manager.view s'.stage := by
  cases stepped_of_step ho hb hs with
  | worked t b hwork hstage =>
      rw [hstage]
      exact h.worked hwork
  | closed t c handle result hc hnative hcloses =>
      rw [hcloses.stage, hcloses.view]
      refine ⟨fun d hd hid => ?_, h.le, fun u a hu =>
        h.apart u a (Stage.registered_of_update (by simp) hu)⟩
      obtain ⟨e, he, rfl⟩ := List.mem_map.mp hd
      by_cases hec : e.id = c.id
      · simp [hec, emptied, Channel.isClosed]
      · rw [if_neg hec] at hid ⊢
        exact h.closed e he hid
  | steady hsteady =>
      refine ⟨fun d hd hid => ?_, h.le.trans_eq hsteady.lastId.symm, fun u a hu =>
        h.apart u a (hsteady.stage u a id hu)⟩
      obtain ⟨c, hc, hsame⟩ := hsteady.origin d hd
      rw [isClosed_of_untimed hsame]
      exact h.closed c hc ((id_of_untimed hsame).symm.trans hid)

omit [Platform σ δ η] in
lemma not_mem_openIds (h : Past id s.manager.view s.stage) : id ∉ s.openIds := by
  rw [State.mem_openIds]
  rintro ⟨c, hc, hopen, hid⟩
  rw [h.closed c hc hid] at hopen
  cases hopen

/-- The id of a channel that was just closed. -/
lemma of_closes (ho : Orderly s.manager.view s.owner? s.stage []) {c : Channel δ η} {handle : η}
    {t : ℕ} {result : Except NativeError Unit} (hc : c ∈ s.manager.channels)
    (hcloses : Closes s t c handle result s') : Past c.id s'.manager.view s'.stage where
  closed := State.isClosed_of_not_mem hcloses.not_mem_openIds
  le := by
    rw [hcloses.view]
    exact ho.id_le c hc
  apart := fun u a hu => by
    rw [hcloses.stage] at hu
    have hentered := ho.entered u a c.id (Stage.registered_of_update (by simp) hu)
    exact hentered.2.2 c hc rfl

end Past

/-! ### The fate of a channel -/

section Fates

variable [Platform σ δ η] {s₀ s s' : State σ δ η} {tr : List (State σ δ η × State σ δ η)}
  {c : Channel δ η} {handle : η}

/-- What becomes of an open channel: it is still there and no step has made a call to shut it,
or its id is spent and the calls that end its use were made once. -/
inductive Fate (c : Channel δ η) (handle : η) (tr : List (State σ δ η × State σ δ η))
    (s : State σ δ η) : Prop where
  | still (d : Channel δ η) (hd : d ∈ s.manager.channels) (hsame : untimed d = untimed c)
      (hmade : tr.flatMap (fun p => p.1.shutting c.id p.2) = [])
  | past (h : Past c.id s.manager.view s.stage)
      (hmade : tr.flatMap (fun p => p.1.shutting c.id p.2) = endCalls handle c.info.interface)

/-- A thread that closed the channel `c` is still about to return `r`, or it has completed the
close and returned `r`. -/
def Reports (tr : List (State σ δ η × State σ δ η)) (s : State σ δ η) (t : ℕ) (c : Channel δ η)
    (r : Except UsbError Unit) : Prop :=
  s.stage t = .closing c.id c.info r ∨
    ∃ p ∈ tr, ∃ es, Step p.1 es p.2 ∧ Completes p.1 t c.id r es p.2

lemma Reports.step {t : ℕ} {r : Except UsbError Unit} {es : List (Notice δ)}
    (h : Reports tr s t c r) (hs : Step s es s') : Reports (tr ++ [(s, s')]) s' t c r := by
  rcases h with ht | ⟨p, hp, hdone⟩
  · rcases hs.closing ht with hdone | ⟨hstay, -⟩
    · exact Or.inr ⟨(s, s'), by simp, es, hs, hdone⟩
    · exact Or.inl (hstay.trans ht)
  · exact Or.inr ⟨p, List.mem_append_left _ hp, hdone⟩

omit [Platform σ δ η] in
/-- The calls for a channel, with one step more. -/
lemma flatMap_shutting_append (tr : List (State σ δ η × State σ δ η)) (id : ℕ) :
    (tr ++ [(s, s')]).flatMap (fun p => p.1.shutting id p.2) =
      tr.flatMap (fun p => p.1.shutting id p.2) ++ s.shutting id s' := by
  rw [List.flatMap_append, List.flatMap_singleton]

omit [Platform σ δ η] in
lemma State.shutting_of_not_shuts {id : ℕ} (h : ¬ s.Shuts id s') : s.shutting id s' = [] :=
  if_neg h

/-- A step from where the channel is still open. -/
lemma Fate.step_still {es : List (Notice δ)} (ho : Orderly s.manager.view s.owner? s.stage [])
    (hb : Backed s.manager.pool s.records s.manager.channels s.stage) (hs : Step s es s')
    (hnative : c.native? = some handle) {d : Channel δ η} (hd : d ∈ s.manager.channels)
    (hsame : untimed d = untimed c) (hmade : tr.flatMap (fun p => p.1.shutting c.id p.2) = []) :
    Fate c handle (tr ++ [(s, s')]) s' ∧
      (s.Shuts c.id s' → ∃ t result, Closes s t c handle result s') := by
  have hnative' : d.native? = some handle := (native_of_untimed hsame).trans hnative
  rcases hs.keeps_or_closes ho hb hd hnative' with ⟨e, he, hsame'⟩ | ⟨t, result, hcloses⟩
  · have hnot : ¬ s.Shuts c.id s' := by
      rintro ⟨-, hout⟩
      have hin : e.id ∈ s'.openIds :=
        State.mem_openIds_of_native he ((native_of_untimed hsame').trans hnative')
      rw [id_of_untimed (hsame'.trans hsame)] at hin
      exact hout hin
    refine ⟨.still e he (hsame'.trans hsame) ?_, fun hshuts => absurd hshuts hnot⟩
    rw [flatMap_shutting_append, hmade, State.shutting_of_not_shuts hnot, List.nil_append]
  · have hid : d.id = c.id := id_of_untimed hsame
    have hcloses' := hcloses.congr hsame
    have hshuts : s.Shuts c.id s' :=
      ⟨hid ▸ State.mem_openIds_of_native hd hnative', hcloses'.not_mem_openIds⟩
    refine ⟨.past (hid ▸ Past.of_closes ho hd hcloses) ?_, fun _ => ⟨t, result, hcloses'⟩⟩
    rw [flatMap_shutting_append, hmade, State.shutting, if_pos hshuts, hcloses'.fresh_eq,
      List.nil_append]

/-- A step from where its id is spent. -/
lemma Fate.step_past {es : List (Notice δ)} (ho : Orderly s.manager.view s.owner? s.stage [])
    (hb : Backed s.manager.pool s.records s.manager.channels s.stage) (hs : Step s es s')
    (h : Past c.id s.manager.view s.stage)
    (hmade : tr.flatMap (fun p => p.1.shutting c.id p.2) = endCalls handle c.info.interface) :
    Fate c handle (tr ++ [(s, s')]) s' ∧ ¬ s.Shuts c.id s' := by
  have hnot : ¬ s.Shuts c.id s' := fun hshuts => h.not_mem_openIds hshuts.1
  refine ⟨.past (h.step ho hb hs) ?_, hnot⟩
  rw [flatMap_shutting_append, hmade, State.shutting_of_not_shuts hnot, List.append_nil]

/-- What becomes of a channel over a trace, and the step that shuts it. -/
theorem fate_trace {layer : σ} {es₀ : List (Notice δ)} (hbefore : Run (State.start layer) es₀ s₀)
    (hc : c ∈ s₀.manager.channels) (hnative : c.native? = some handle) (htrace : Trace s₀ tr s) :
    Fate c handle tr s ∧ ∀ p ∈ tr, p.1.Shuts c.id p.2 →
      ∃ t result, Closes p.1 t c handle result p.2 ∧
        Reports tr s t c (result.mapError (.release c.info.interface)) := by
  induction htrace with
  | refl => exact ⟨.still c hc rfl rfl, by simp⟩
  | @tail s s' tr es htrace hstep ih =>
      obtain ⟨hfate, hcloses⟩ := ih
      obtain ⟨es₁, hrun⟩ := htrace.run
      have ho := orderly_run (hbefore.trans hrun)
      have hb := backed_run (hbefore.trans hrun)
      have hlast : Fate c handle (tr ++ [(s, s')]) s' ∧
          (s.Shuts c.id s' → ∃ t result, Closes s t c handle result s') := by
        cases hfate with
        | still d hd hsame hmade => exact Fate.step_still ho hb hstep hnative hd hsame hmade
        | past h hmade =>
            obtain ⟨hfate, hnot⟩ := Fate.step_past ho hb hstep h hmade
            exact ⟨hfate, fun hshuts => absurd hshuts hnot⟩
      refine ⟨hlast.1, fun p hp hshuts => ?_⟩
      rcases List.mem_append.mp hp with hp | hp
      · obtain ⟨t, result, hclose, hreports⟩ := hcloses p hp hshuts
        exact ⟨t, result, hclose, hreports.step hstep⟩
      · obtain rfl := List.mem_singleton.mp hp
        obtain ⟨t, result, hclose⟩ := hlast.2 hshuts
        exact ⟨t, result, hclose, Or.inl (by rw [hclose.stage, Function.update_self])⟩

/-- The close of a channel over a trace that begins with the channel open: `made` are the calls
of the step that shuts it, if there was one; that step is a close of the channel, whose thread
returns what the release said; every step is a close of some channel or spares all; and once
the channel is not open, it is spent. -/
structure ClosedOnce (s₀ : State σ δ η) (c : Channel δ η) (handle : η)
    (tr : List (State σ δ η × State σ δ η)) (s : State σ δ η) : Prop where
  calls : s.calls = s₀.calls ++ tr.flatMap fun p => p.1.fresh p.2
  made : tr.flatMap (fun p => p.1.shutting c.id p.2) =
    if c.id ∈ s.openIds then [] else endCalls handle c.info.interface
  shuts : ∀ p ∈ tr, p.1.Shuts c.id p.2 → ∃ t result, Closes p.1 t c handle result p.2 ∧
    Reports tr s t c (result.mapError (.release c.info.interface))
  others : ∀ p ∈ tr, (∃ t d h result, d ∈ p.1.manager.channels ∧ d.native? = some h ∧
    Closes p.1 t d h result p.2) ∨ Spares p.1 p.2
  spent : c.id ∉ s.openIds → s.manager.Spent c.id

/-- However many threads there are, and however often and in whatever order they close and drop
a channel: its interface is released and its handle closed once, in one step, which leaves the
channel closed, its hold given back and everything else as it was, whatever the release said.
The thread that closed it takes it off the registry and returns what the release said; every
other close succeeds and changes nothing, and from then on transfers on the channel fail without
a native call. -/
theorem close_once {layer : σ} {es₀ : List (Notice δ)} (hbefore : Run (State.start layer) es₀ s₀)
    (hc : c ∈ s₀.manager.channels) (hnative : c.native? = some handle) (htrace : Trace s₀ tr s) :
    ClosedOnce s₀ c handle tr s ∧ Answers s := by
  obtain ⟨hfate, hshuts⟩ := fate_trace hbefore hc hnative htrace
  refine ⟨⟨htrace.calls_eq, ?_, hshuts, fun p hp => ?_, fun hout =>
    spent_of_closed (State.isClosed_of_not_mem hout)⟩, ?_⟩
  · cases hfate with
    | still d hd hsame hmade =>
        have hopen : c.id ∈ s.openIds :=
          id_of_untimed hsame ▸
            State.mem_openIds_of_native hd ((native_of_untimed hsame).trans hnative)
        rw [if_pos hopen, hmade]
    | past h hmade => rw [if_neg h.not_mem_openIds, hmade]
  · obtain ⟨es, es', hrun, hstep⟩ := htrace.step_of_mem hp
    have hreached := hbefore.trans hrun
    exact hstep.closes_or_spares (orderly_run hreached) (backed_run hreached)
  · obtain ⟨es, hrun⟩ := htrace.run
    exact answers_run (hbefore.trans hrun)

end Fates

/-- A channel that one thread closes with a failure, that another thread closes again before the
first has returned, and that is dropped. -/
theorem close_once_failed_release :
    let layer : Bench := { ({} : Bench).attach (.raw ⟨1, 4⟩ 2 0x1209 0x0001) with
      failures := { release := some .noDevice } }
    ∃ (es₀ : List (Notice Instance)) (s₀ s₁ s : State Bench Instance DeviceKey)
      (tr : List (State Bench Instance DeviceKey × State Bench Instance DeviceKey))
      (c : Channel Instance DeviceKey) (handle : DeviceKey),
      Run (State.start layer) es₀ s₀ ∧ c ∈ s₀.manager.channels ∧ c.native? = some handle ∧
      Trace s₀ [(s₀, s₁)] s₁ ∧ Trace s₀ ((s₀, s₁) :: tr) s ∧
      s₁.stage 0 = .closing c.id c.info (.error (.release c.info.interface .noDevice)) ∧
      s.manager.channels = [] ∧ s.manager.registered = [] ∧
      ClosedOnce s₀ c handle ((s₀, s₁) :: tr) s ∧ Answers s := by
  intro layer
  let start : State Bench Instance DeviceKey := State.start layer
  let info := ((start.manager.scan {}).1.found.map Found.info).head (List.cons_ne_nil _ _)
  -- thread 0 opens the channel
  have hentered := ((Run.refl start).tail (.call 0 (.open info) rfl (by simp))).tail
    (.lock 0 _ rfl rfl)
  have hregistered := (((hentered.tail (.work 0 _ _ rfl)).tail (.work 0 _ _ rfl)).tail
    (.work 0 _ _ rfl)).tail (.work 0 _ _ rfl)
  have hopened := (hregistered.tail (.work 0 _ _ rfl)).tail (.unlock 0 _ rfl)
  obtain ⟨s₀, s₁, s, tr, c, hopened, hc, hnative, hclosed, hdone, hkept, hnone, hnil⟩ :
      ∃ s₀ s₁ s tr c, Run start _ s₀ ∧ c ∈ s₀.manager.channels ∧ c.native? = some ⟨1, 4⟩ ∧
        Trace s₀ [(s₀, s₁)] s₁ ∧ Trace s₀ ((s₀, s₁) :: tr) s ∧
        s₁.stage 0 = .closing c.id c.info (.error (.release c.info.interface .noDevice)) ∧
        s.manager.channels = [] ∧ s.manager.registered = [] := by
    -- thread 0 closes it, thread 1 closes it again, thread 0 returns, and it is dropped
    refine ⟨_, _, _, _, _, hopened, List.mem_singleton_self _, rfl,
      Trace.refl.tail (.close 0 1 _ _ _ rfl rfl rfl),
      (((Trace.refl.tail (.close 0 1 _ _ _ rfl rfl rfl)).tail
        (.closeAgain 1 1 _ _ rfl rfl rfl)).tail (.deregister 0 1 _ _ rfl)).tail
        (.forget 1 (List.forall_mem_singleton.mpr fun _ => rfl)), rfl, rfl, rfl⟩
  obtain ⟨honce, hanswers⟩ := close_once hopened hc hnative hdone
  exact ⟨_, s₀, s₁, s, tr, c, _, hopened, hc, hnative, hclosed, hdone, hkept, hnone, hnil, honce,
    hanswers⟩

end UsbPipe.Threads
