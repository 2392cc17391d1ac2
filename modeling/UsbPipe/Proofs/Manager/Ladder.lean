/-
An open as a ladder of its steps.

An open on the bench goes up a ladder.  Each rung is one step, with the error that it fails
with if it fails, the native calls that it makes, and those that take back the rungs below it
when it fails.  All of this can be read off the bench before the open.

* `Rung`, `climb`: a step, and what becomes of a list of them.
* `Manager.entryRungs`, `Bench.searchRungs`, `Failures.claimRungs`, `enrollRung`: the rungs of an
  open, with `Bench.recordFor?` the record that it is on.
* `Manager.openRungs`: all of them, in order.
* `Climbs`: an operation fails with the error of its first rung that fails, and makes the calls
  of the rungs up to there; `climbs_ready`, `climbs_resolve`, `climbs_claimFound`,
  `climbs_enroll`: the parts of an open.
* `climbs_openWith`: the open; `climb_openRungs`: whether its registration finds a shutdown.
-/
import UsbPipe.Proofs.Manager.Reasons
import UsbPipe.Proofs.Manager.Target
import UsbPipe.Proofs.Manager.Watching

namespace UsbPipe

open Usb Manager

/-! ### Ladders -/

/-- A step of an operation: the error that it fails with, the calls that it makes, and the calls
that take back the steps before it if it fails. -/
structure Rung where
  error? : Option UsbError
  calls : List (Call DeviceKey) := []
  undo : List (Call DeviceKey) := []

/-- The error of the first rung that fails, and the calls up to there. -/
def climb : List Rung → Option UsbError × List (Call DeviceKey)
  | [] => (none, [])
  | r :: rs =>
    match r.error? with
    | some e => (some e, r.calls ++ r.undo)
    | none => ((climb rs).1, r.calls ++ (climb rs).2)

/-- A rung that has more to take back. -/
def Rung.undoing (calls : List (Call DeviceKey)) (r : Rung) : Rung :=
  { r with undo := r.undo ++ calls }

lemma climb_append (rs ss : List Rung) :
    climb (rs ++ ss) = match climb rs with
      | (some e, calls) => (some e, calls)
      | (none, calls) => ((climb ss).1, calls ++ (climb ss).2) := by
  induction rs with
  | nil => rfl
  | cons r rs ih =>
      rw [List.cons_append, climb, climb]
      cases r.error? with
      | some e => rfl
      | none =>
          simp only [ih]
          rcases climb rs with ⟨_ | e, calls⟩
          · simp only [List.append_assoc]
          · rfl

lemma climb_undoing (calls : List (Call DeviceKey)) (rs : List Rung) :
    climb (rs.map (Rung.undoing calls)) = match climb rs with
      | (some e, made) => (some e, made ++ calls)
      | (none, made) => (none, made) := by
  induction rs with
  | nil => rfl
  | cons r rs ih =>
      have herror : (r.undoing calls).error? = r.error? := rfl
      have hcalls : (r.undoing calls).calls = r.calls := rfl
      have hundo : (r.undoing calls).undo = r.undo ++ calls := rfl
      rw [List.map_cons, climb, climb, herror, hcalls, hundo]
      cases r.error? with
      | some e => simp only [List.append_assoc]
      | none =>
          simp only [ih]
          rcases climb rs with ⟨_ | e, made⟩
          · rfl
          · simp only [List.append_assoc]

/-! ### The rungs of an open -/

/-- The entry: a shutdown refuses it, and the first one initialises the native layer. -/
def Manager.entryRungs (m : Manager Bench Instance DeviceKey) : List Rung :=
  [{ error? := if m.shuttingDown then some .shuttingDown else none },
    if m.initialized then { error? := none }
    else
      { error? := m.platform.failures.init.map .init
        calls := [.init m.platform.failures.init.isNone] }]

namespace Bench

/-- What a scan for the ids of `info` finds, and how it fails. -/
def rescan (b : Bench) (info : RawInterface) : List RawInterface × Option UsbError :=
  walked (Platform.scanItems b
    { vendorId := some info.vendorId, productId := some info.productId })

/-- The first record of that scan on the port and with the interface number of `info`. -/
def recordFor? (b : Bench) (info : RawInterface) : Option RawInterface :=
  (b.rescan info).1.find? fun i => i.port == info.port && i.interface == info.interface

lemma recordFor?_eq (b : Bench) (info : RawInterface) :
    b.recordFor? info = (b.rescan info).1.find? (·.samePlace info) := rfl

/-- The search for the interface: a complete scan, and a record there. -/
def searchRungs (b : Bench) (info : RawInterface) : List Rung :=
  [{ error? := (b.rescan info).2, calls := [.listing] },
    { error? :=
        if (b.recordFor? info).isNone then
          some (.notFound info.vendorId info.productId info.port info.interface)
        else none }]

end Bench

namespace Failures

/-- Automatic detaching, which need not be supported. -/
def autoDetachRung (f : Failures) (key : DeviceKey) : Rung where
  error? := (f.autoDetach.filter (· != .notSupported)).map .autoDetach
  calls := [.autoDetach key]

/-- Detaching, which need not be supported, and needs no driver. -/
def detachRung (f : Failures) (key : DeviceKey) (interface : UInt8) : Rung where
  error? := (f.detach.filter fun e => e != .notSupported && e != .notFound).map (.detach interface)
  calls := [.detach key interface]

/-- The claim. -/
def claimRung (f : Failures) (key : DeviceKey) (interface : UInt8) : Rung where
  error? := (f.claim.lookup key).map (.claim interface)
  calls := [.claim key interface]

/-- The steps on an open handle; a failure closes it. -/
def claimRungs (f : Failures) (i : RawInterface) : List Rung :=
  { error? := (f.openDevice.lookup i.key).map .openDevice
    calls := [.openDevice (if (f.openDevice.lookup i.key).isNone then some i.key else none)] } ::
  [f.autoDetachRung i.key, f.detachRung i.key i.interface, f.claimRung i.key i.interface].map
    (Rung.undoing [.closeHandle i.key])

end Failures

/-- The registration, which a shutdown refuses; the interface is given up then. -/
def enrollRung (i : RawInterface) (refused : Bool) : Rung where
  error? := if refused then some .shuttingDown else none
  undo := [.release i.key i.interface, .closeHandle i.key]

namespace Manager

/-- All rungs of an open before the registration. -/
def acquireRungs (m : Manager Bench Instance DeviceKey) (info : RawInterface) : List Rung :=
  m.entryRungs ++ m.platform.searchRungs info ++
    match m.platform.recordFor? info with
    | none => []
    | some i => m.platform.failures.claimRungs i

/-- All rungs of an open; `refused` says whether its registration finds a shutdown. -/
def openRungs (m : Manager Bench Instance DeviceKey) (info : RawInterface) (refused : Bool) :
    List Rung :=
  m.acquireRungs info ++
    match m.platform.recordFor? info with
    | none => []
    | some i => [enrollRung i refused]

end Manager

/-! ### Climbing -/

/-- The error of a result. -/
def failure? {α : Type} : Except UsbError α → Option UsbError
  | .error e => some e
  | .ok _ => none

/-- A manager of a bench that is watched. -/
abbrev WatchedManager := Manager (Watched Bench DeviceKey) Instance DeviceKey

/-- An operation fails as its rungs say, and makes their calls. -/
structure Climbs {α : Type} (rungs : List Rung) (m : WatchedManager)
    (r : Except UsbError α × WatchedManager) : Prop where
  error : failure? r.1 = (climb rungs).1
  calls : r.2.platform.calls = m.platform.calls ++ (climb rungs).2

namespace Climbs

variable {α β : Type} {rs ss : List Rung} {m m₁ : WatchedManager}

/-- Nothing is climbed past a failure. -/
lemma stop {e : UsbError} (h : Climbs (α := α) rs m (.error e, m₁)) (ss : List Rung) :
    Climbs (α := β) (rs ++ ss) m (.error e, m₁) := by
  obtain ⟨herror, hcalls⟩ := h
  have happend := climb_append rs ss
  rcases hc : climb rs with ⟨_ | e', made⟩ <;> rw [hc] at herror hcalls happend
  · cases herror
  · cases herror
    exact ⟨by rw [happend]; rfl, by rw [happend]; exact hcalls⟩

/-- After a success it goes on. -/
lemma andThen {a : α} (h : Climbs rs m (.ok a, m₁)) {r : Except UsbError β × WatchedManager}
    (hr : Climbs ss m₁ r) : Climbs (rs ++ ss) m r := by
  obtain ⟨herror, hcalls⟩ := h
  have happend := climb_append rs ss
  rcases hc : climb rs with ⟨_ | e', made⟩ <;> rw [hc] at herror hcalls happend
  · refine ⟨by rw [happend]; exact hr.error, ?_⟩
    have hmade : m₁.platform.calls = m.platform.calls ++ made := hcalls
    rw [happend, hr.calls, hmade, List.append_assoc]
  · cases herror

/-- What takes back the steps before is done after a failure. -/
lemma undo {e : UsbError} (h : Climbs (α := α) rs m (.error e, m₁)) {m₂ : WatchedManager}
    {calls : List (Call DeviceKey)} (hm₂ : m₂.platform.calls = m₁.platform.calls ++ calls) :
    Climbs (α := β) (rs.map (Rung.undoing calls)) m (.error e, m₂) := by
  obtain ⟨herror, hcalls⟩ := h
  have hundo := climb_undoing calls rs
  rcases hc : climb rs with ⟨_ | e', made⟩ <;> rw [hc] at herror hcalls hundo
  · cases herror
  · cases herror
    refine ⟨by rw [hundo]; rfl, ?_⟩
    have hmade : m₁.platform.calls = m.platform.calls ++ made := hcalls
    rw [hundo, hm₂, hmade, List.append_assoc]

/-- After a success it is not. -/
lemma keep {a : α} (h : Climbs rs m (.ok a, m₁)) (calls : List (Call DeviceKey)) (b : β) :
    Climbs (rs.map (Rung.undoing calls)) m (.ok b, m₁) := by
  obtain ⟨herror, hcalls⟩ := h
  have hundo := climb_undoing calls rs
  rcases hc : climb rs with ⟨_ | e', made⟩ <;> rw [hc] at herror hcalls hundo
  · exact ⟨by rw [hundo]; rfl, by rw [hundo]; exact hcalls⟩
  · cases herror

end Climbs

namespace Manager

variable {m : WatchedManager} {info : RawInterface}

/-! ### The parts of an open -/

lemma climbs_ready : Climbs m.unwatched.entryRungs m m.ready := by
  have hinit : (m.native Platform.init).1 = Bench.failing m.unwatched.platform.failures.init := rfl
  have hcalls : (m.native Platform.init).2.platform.calls =
      m.platform.calls ++ [.init (m.native Platform.init).1.isOk] := rfl
  have hdown : m.unwatched.shuttingDown = m.shuttingDown := rfl
  have hup : m.unwatched.initialized = m.initialized := rfl
  rw [ready, entryRungs, hdown, hup]
  by_cases hd : m.shuttingDown = true
  · simp only [hd, if_true]
    exact ⟨rfl, (List.append_nil _).symm⟩
  · by_cases hi : m.initialized = true
    · simp only [hd, hi, if_true]
      exact ⟨rfl, (List.append_nil _).symm⟩
    · simp only [hd, hi]
      rcases hn : m.native Platform.init with ⟨e | ⟨⟩, m₁⟩ <;> rw [hn] at hinit hcalls
      · rw [failing_eq_error hinit.symm]
        exact ⟨rfl, hcalls⟩
      · cases hf : m.unwatched.platform.failures.init with
        | none => exact ⟨rfl, hcalls⟩
        | some e =>
            rw [hf] at hinit
            cases hinit

/-- What a rescan resolves to, as far as its record goes. -/
lemma resolve_info (m : Manager Bench Instance DeviceKey) (info : RawInterface) :
    (m.resolve info).1.map Found.info = match m.platform.rescan info with
      | (_, some e) => .error e
      | (infos, none) => match infos.find? (·.samePlace info) with
        | none => .error (.notFound info.vendorId info.productId info.port info.interface)
        | some i => .ok i := by
  have hwalk : (m.walk (idsOf info)).1.outcome = m.platform.rescan info := walk_eq_walked m _
  rw [resolve, ← hwalk]
  rcases m.walk (idsOf info) with ⟨⟨found, _ | e⟩, m₁⟩
  · have hfirst : (found.map Found.info).find? (·.samePlace info) =
        (select info found m₁).1.map Found.info := by
      rw [select_fst, List.find?_map]
      rfl
    simp only [complete, Scan.outcome, hfirst]
    rcases select info found m₁ with ⟨_ | f, m₂⟩ <;> rfl
  · rfl

lemma climbs_resolve (info : RawInterface) :
    Climbs (m.unwatched.platform.searchRungs info) m (m.resolve info) := by
  have hresult : (m.resolve info).1.map Found.info = _ :=
    (congrArg (fun r => r.1.map Found.info) (unwatch_resolve (m := m) info)).trans
      (resolve_info m.unwatched info)
  have hcalls : (m.resolve info).2.platform.calls = m.platform.calls ++ [.listing] :=
    congrArg View.calls (view_resolve info)
  have hmap : failure? ((m.resolve info).1.map Found.info) = failure? (m.resolve info).1 := by
    cases (m.resolve info).1 <;> rfl
  rw [hresult] at hmap
  constructor
  · rw [← hmap, Bench.searchRungs, Bench.recordFor?_eq]
    rcases m.unwatched.platform.rescan info with ⟨infos, _ | e⟩
    · simp only
      cases infos.find? (·.samePlace info) <;> rfl
    · rfl
  · rw [hcalls, Bench.searchRungs, Bench.recordFor?_eq]
    rcases m.unwatched.platform.rescan info with ⟨infos, _ | e⟩
    · simp only
      cases infos.find? (·.samePlace info) <;> rfl
    · rfl

lemma climbs_enableAutoDetach (handle : DeviceKey) :
    Climbs [m.unwatched.platform.failures.autoDetachRung handle] m (m.enableAutoDetach handle) := by
  have hcalls : (m.enableAutoDetach handle).2.platform.calls =
      m.platform.calls ++ [.autoDetach handle] := congrArg View.calls (view_enableAutoDetach handle)
  have hresult : (m.native (Platform.autoDetach handle)).1 =
      Bench.failing m.unwatched.platform.failures.autoDetach := rfl
  rw [enableAutoDetach] at hcalls ⊢
  rw [Failures.autoDetachRung]
  rcases hn : m.native (Platform.autoDetach handle) with ⟨e | ⟨⟩, m₁⟩ <;> rw [hn] at hcalls hresult
  · rw [failing_eq_error hresult.symm]
    cases e <;> exact ⟨rfl, hcalls⟩
  · cases hf : m.unwatched.platform.failures.autoDetach with
    | none => exact ⟨rfl, hcalls⟩
    | some e =>
        rw [hf] at hresult
        cases hresult

lemma climbs_detachDriver (handle : DeviceKey) (interface : UInt8) :
    Climbs [m.unwatched.platform.failures.detachRung handle interface] m
      (m.detachDriver handle interface) := by
  have hcalls : (m.detachDriver handle interface).2.platform.calls =
      m.platform.calls ++ [.detach handle interface] :=
    congrArg View.calls (view_detachDriver handle interface)
  have hresult : (m.native (Platform.detach handle interface)).1 =
      Bench.failing m.unwatched.platform.failures.detach := rfl
  rw [detachDriver] at hcalls ⊢
  rw [Failures.detachRung]
  rcases hn : m.native (Platform.detach handle interface) with ⟨e | ⟨⟩, m₁⟩ <;>
    rw [hn] at hcalls hresult
  · rw [failing_eq_error hresult.symm]
    cases e <;> exact ⟨rfl, hcalls⟩
  · cases hf : m.unwatched.platform.failures.detach with
    | none => exact ⟨rfl, hcalls⟩
    | some e =>
        rw [hf] at hresult
        cases hresult

variable {meanwhile : Manager Bench Instance DeviceKey → Manager Bench Instance DeviceKey}

lemma climbs_claimInterface (handle : DeviceKey) (interface : UInt8) :
    Climbs [m.unwatched.platform.failures.claimRung handle interface] m
      (m.claimInterface (aside meanwhile) handle interface) := by
  have hcalls : (m.claimInterface (aside meanwhile) handle interface).2.platform.calls =
      m.platform.calls ++ [.claim handle interface] := rfl
  have hresult : (m.claimInterface (aside meanwhile) handle interface).1 =
      (Bench.claim handle interface m.unwatched.platform).1.mapError (.claim interface) := rfl
  have hfail : (m.unwatched.platform.counting fun c => { c with claims := c.claims + 1 }).failures =
      m.unwatched.platform.failures := rfl
  refine ⟨?_, ?_⟩
  · rw [hresult, Bench.claim, Failures.claimRung]
    simp only [hfail]
    cases m.unwatched.platform.failures.claim.lookup handle <;> rfl
  · rw [hcalls, Failures.claimRung]
    cases m.unwatched.platform.failures.claim.lookup handle <;> rfl

lemma climbs_prepare (handle : DeviceKey) (interface : UInt8) :
    Climbs [m.unwatched.platform.failures.autoDetachRung handle,
      m.unwatched.platform.failures.detachRung handle interface,
      m.unwatched.platform.failures.claimRung handle interface] m
      (m.prepare (aside meanwhile) handle interface) := by
  have hauto := climbs_enableAutoDetach (m := m) handle
  have hfail : (m.enableAutoDetach handle).2.unwatched.bystanders = m.unwatched.bystanders :=
    (congrArg (·.2.bystanders) (unwatch_enableAutoDetach (m := m) handle)).trans
      (bystanders_enableAutoDetach handle)
  rw [prepare]
  rcases h₁ : m.enableAutoDetach handle with ⟨_ | ⟨⟩, m₁⟩ <;> rw [h₁] at hauto hfail
  · exact hauto.stop [_, _]
  · change Climbs ([_] ++ [_, _]) m _
    refine hauto.andThen ?_
    have hdet := climbs_detachDriver (m := m₁) handle interface
    have hfail₁ : m₁.unwatched.platform.failures = m.unwatched.platform.failures :=
      congrArg (·.platform.failures) hfail
    have hfail₂ : (m₁.detachDriver handle interface).2.unwatched.bystanders =
        m.unwatched.bystanders :=
      ((congrArg (·.2.bystanders) (unwatch_detachDriver (m := m₁) handle interface)).trans
        (bystanders_detachDriver handle interface)).trans hfail
    rw [hfail₁] at hdet
    simp only
    rcases h₂ : m₁.detachDriver handle interface with ⟨_ | ⟨⟩, m₂⟩ <;> rw [h₂] at hdet hfail₂
    · exact hdet.stop [_]
    · change Climbs ([_] ++ [_]) m₁ _
      refine hdet.andThen ?_
      have hclaim : Climbs _ m₂ (m₂.claimInterface (aside meanwhile) handle interface) :=
        climbs_claimInterface handle interface
      have hfail₃ : m₂.unwatched.platform.failures = m.unwatched.platform.failures :=
        congrArg (·.platform.failures) hfail₂
      rwa [hfail₃] at hclaim

/-- A record of a device that is plugged in is opened and claimed by its rungs. -/
lemma climbs_claimFound {f : Found Instance} (hatt : f.hold.device ∈ m.unwatched.platform.attached)
    (hkey : f.info.key = f.hold.device.spec.key) :
    Climbs (m.unwatched.platform.failures.claimRungs f.info) m
      (m.claimFound (aside meanwhile) f) := by
  have hplugged : m.unwatched.platform.isAttached f.hold.device = true :=
    List.any_eq_true.mpr ⟨_, hatt, beq_self_eq_true _⟩
  have hresult : (m.native (Platform.openDevice f.hold.device)).1 =
      (Bench.openDevice f.hold.device m.unwatched.platform).1 := rfl
  have hcalls : (m.native (Platform.openDevice f.hold.device)).2.platform.calls =
      m.platform.calls ++
        [.openDevice (m.native (Platform.openDevice f.hold.device)).1.toOption] := rfl
  have hfail : (m.native (Platform.openDevice f.hold.device)).2.platform.layer.failures =
      (Bench.openDevice f.hold.device m.unwatched.platform).2.failures := rfl
  rw [claimFound, Failures.claimRungs, hkey]
  simp only [Bench.openDevice, hplugged, if_true] at hresult hfail
  cases hf : m.unwatched.platform.failures.openDevice.lookup f.hold.device.spec.key with
  | some e =>
      rw [hf] at hresult
      rcases hn : m.native (Platform.openDevice f.hold.device) with ⟨e' | handle, m₁⟩ <;>
        rw [hn] at hresult hcalls <;> cases hresult
      have hview : (m₁.release f.hold).platform.calls = m₁.platform.calls :=
        congrArg View.calls (view_release f.hold)
      exact ⟨rfl, hview.trans hcalls⟩
  | none =>
      rw [hf] at hresult hfail
      rcases hn : m.native (Platform.openDevice f.hold.device) with ⟨e' | handle, m₁⟩ <;>
        rw [hn] at hresult hcalls hfail <;> cases hresult
      simp only
      set m₂ := m₁.log .debug ("Opened native handle for " ++ f.info.path) with hm₂
      have hopened : Climbs
          [{ error? := none, calls := [.openDevice (some f.hold.device.spec.key)] }] m
          (.ok (), m₂) := ⟨rfl, hcalls⟩
      have hprep : Climbs _ m₂
          (m₂.prepare (aside meanwhile) f.hold.device.spec.key f.info.interface) :=
        climbs_prepare ..
      have hfail₂ : m₂.unwatched.platform.failures = m.unwatched.platform.failures := hfail
      rw [hfail₂] at hprep
      refine hopened.andThen ?_
      rcases hp : m₂.prepare (aside meanwhile) f.hold.device.spec.key f.info.interface
        with ⟨e | ⟨⟩, m₃⟩ <;> rw [hp] at hprep
      · refine hprep.undo ?_
        exact congrArg View.calls (view_release (m := m₃.closeHandle f.hold.device.spec.key) f.hold)
      · exact hprep.keep _ _

/-! ### The open -/

section Bench

variable {m : Manager Bench Instance DeviceKey} {f : Found Instance}

/-- The entry changes nothing that a search looks at. -/
lemma rescan_ready (info : RawInterface) :
    m.ready.2.platform.rescan info = m.platform.rescan info :=
  congrArg walked (scanItems_ready (idsOf info))

lemma searchRungs_ready (info : RawInterface) :
    m.ready.2.platform.searchRungs info = m.platform.searchRungs info := by
  rw [Bench.searchRungs, Bench.searchRungs, Bench.recordFor?, Bench.recordFor?, rescan_ready]

/-- The target of an open is the record for `info`. -/
lemma recordFor?_of_target (h : m.target? info = some f) :
    m.platform.recordFor? info = some f.info := by
  obtain ⟨infos, hwalked, hfind⟩ := resolve_ok (resolve_of_target h)
  have hrescan : m.platform.rescan info = (infos, none) := (rescan_ready info).symm.trans hwalked
  rw [Bench.recordFor?, hrescan]
  exact hfind

/-- The target is what entry and rescan come to. -/
lemma target?_of_resolve {m₁ m₂ : Manager Bench Instance DeviceKey} (hr : m.ready = (.ok (), m₁))
    (hs : m₁.resolve info = (.ok f, m₂)) : m.target? info = some f := by
  rw [target?, hr]
  simp only [hs]
  rfl

end Bench

/-- The steps before the registration. -/
lemma climbs_acquire (h : m.unwatched.Identified) (info : RawInterface) :
    Climbs (m.unwatched.acquireRungs info) m (m.acquire (aside meanwhile) info) := by
  have hready := climbs_ready (m := m)
  have hentered := unwatch_ready (m := m)
  have hby := bystanders_ready (m := m.unwatched)
  have hsearch := searchRungs_ready (m := m.unwatched) info
  rw [acquire]
  rcases hr : m.ready with ⟨e | ⟨⟩, m₁⟩ <;> rw [hr] at hready hentered
  · rw [acquireRungs, List.append_assoc]
    exact hready.stop _
  · have hres := climbs_resolve (m := m₁) info
    have hfound := unwatch_resolve (m := m₁) info
    have hby₁ := bystanders_resolve (m := m₁.unwatched) info
    rw [← hentered] at hby hsearch
    have hsame : m₁.unwatched.platform.searchRungs info =
        m.unwatched.platform.searchRungs info := hsearch
    rw [hsame] at hres
    simp only
    rcases hs : m₁.resolve info with ⟨e | f, m₂⟩ <;> rw [hs] at hres hfound
    · exact (hready.andThen hres).stop _
    · -- the device of the target is plugged in, and fails as the bench was asked to before
      have ht : m.unwatched.target? info = some f := target?_of_resolve hentered.symm hfound.symm
      have hread := h.readFrom_of_target ht
      rw [← hentered] at hread
      change f.ReadFrom (m₁.unwatched.resolve info).2.platform at hread
      rw [← hfound] at hread hby₁
      have hfail : m₂.unwatched.platform.failures = m.unwatched.platform.failures :=
        congrArg (·.platform.failures) (hby₁.trans hby)
      have hclaim : Climbs _ m₂ (m₂.claimFound (aside meanwhile) f) :=
        climbs_claimFound hread.attached hread.describes.1
      rw [hfail] at hclaim
      rw [acquireRungs, recordFor?_of_target ht]
      exact (hready.andThen hres).andThen hclaim

lemma climbs_enroll {c : Claimed Instance DeviceKey} (hkey : c.native = c.info.key) :
    Climbs [enrollRung c.info m.shuttingDown] m (m.enroll c) := by
  rw [enroll, enrollRung]
  rcases register_cases m with ⟨hdown, hreg⟩ | ⟨hdown, m₁, hreg, hview⟩
  · rw [hreg, hdown, ← hkey]
    exact ⟨rfl, congrArg View.calls (view_abandon c)⟩
  · rw [hreg, hdown]
    exact ⟨rfl, (congrArg View.calls hview).trans (List.append_nil _).symm⟩

lemma shuttingDown_enroll (c : Claimed Instance DeviceKey) :
    (m.enroll c).2.shuttingDown = m.shuttingDown := by
  rw [enroll]
  rcases register_cases m with ⟨-, hreg⟩ | ⟨-, m₁, hreg, hview⟩
  · rw [hreg]
    exact congrArg View.shuttingDown (view_abandon c)
  · rw [hreg]
    exact congrArg View.shuttingDown hview

lemma shuttingDown_unwatched (info : RawInterface) :
    (m.unwatched.openWith meanwhile info).2.shuttingDown =
      (m.openWith (aside meanwhile) info).2.shuttingDown := by
  rw [← unwatch_openWith]
  rfl

/-- A watched open climbs its rungs. -/
theorem climbs_openWith (h : m.unwatched.Identified) (hm : OnlyShutdown meanwhile)
    (info : RawInterface) :
    Climbs (m.unwatched.openRungs info (m.unwatched.openWith meanwhile info).2.shuttingDown) m
      (m.openWith (aside meanwhile) info) := by
  have hacq : Climbs _ m (m.acquire (aside meanwhile) info) := climbs_acquire h info
  have hby := bystanders_acquire (m := m.unwatched) hm info
  rw [← unwatch_acquire] at hby
  rw [shuttingDown_unwatched, openWith, openRungs]
  rcases ha : m.acquire (aside meanwhile) info with ⟨e | c, m₁⟩ <;> rw [ha] at hacq hby
  · exact hacq.stop _
  · obtain ⟨f, ht, rfl, -⟩ := hby
    have hkey : (claimOf f).native = (claimOf f).info.key :=
      (h.readFrom_of_target ht).describes.1.symm
    simp only [recordFor?_of_target ht, shuttingDown_enroll]
    exact hacq.andThen (climbs_enroll hkey)

/-! ### What the registration finds -/

section Begins

variable {begins : Bool} (hb : ∀ m, (meanwhile m).shuttingDown = (m.shuttingDown || begins))
include hb

lemma shuttingDown_prepare {handle : DeviceKey} {interface : UInt8} {m₁ : WatchedManager}
    (h : m.prepare (aside meanwhile) handle interface = (.ok (), m₁)) :
    m₁.shuttingDown = (m.shuttingDown || begins) := by
  have hauto := congrArg View.shuttingDown (view_enableAutoDetach (m := m) handle)
  rw [prepare] at h
  rcases h₁ : m.enableAutoDetach handle with ⟨_ | ⟨⟩, m₂⟩ <;> rw [h₁] at h hauto
  · cases h
  · have hdet := (congrArg View.shuttingDown (view_detachDriver (m := m₂) handle interface)).trans
      hauto
    simp only at h
    rcases h₂ : m₂.detachDriver handle interface with ⟨_ | ⟨⟩, m₃⟩ <;> rw [h₂] at h hdet
    · cases h
    · -- the claim is the call that something happens during
      have hdown : m₃.shuttingDown = m.shuttingDown := hdet
      have hlast : (m₃.claimInterface (aside meanwhile) handle interface).2 = m₁ :=
        congrArg Prod.snd h
      rw [← hdown, ← hlast]
      exact hb _

lemma shuttingDown_claimFound {f : Found Instance} {c : Claimed Instance DeviceKey}
    {m₁ : WatchedManager} (h : m.claimFound (aside meanwhile) f = (.ok c, m₁)) :
    m₁.shuttingDown = (m.shuttingDown || begins) := by
  have hopen : (m.native (Platform.openDevice f.hold.device)).2.shuttingDown = m.shuttingDown := rfl
  rw [claimFound] at h
  rcases ho : m.native (Platform.openDevice f.hold.device) with ⟨_ | handle, m₂⟩ <;>
    rw [ho] at h hopen
  · cases h
  · simp only at h hopen
    rcases hp : (m₂.log .debug ("Opened native handle for " ++ f.info.path)).prepare
      (aside meanwhile) handle f.info.interface with ⟨_ | ⟨⟩, m₃⟩ <;> rw [hp] at h
    · cases h
    · cases h
      exact (shuttingDown_prepare hb hp).trans (congrArg (· || begins) hopen)

/-- The registration finds a shutdown if one began during the claim. -/
lemma shuttingDown_acquire {c : Claimed Instance DeviceKey} {m₁ : WatchedManager}
    (h : m.acquire (aside meanwhile) info = (.ok c, m₁)) : m₁.shuttingDown = begins := by
  have hentered := unwatch_ready (m := m)
  rw [acquire] at h
  rcases hr : m.ready with ⟨_ | ⟨⟩, m₂⟩ <;> rw [hr] at h hentered
  · cases h
  · obtain ⟨hdown, -⟩ := ready_ok hentered.symm
    have hres := (congrArg View.shuttingDown (view_resolve (m := m₂) info)).trans hdown
    simp only at h
    rcases hs : m₂.resolve info with ⟨_ | f, m₃⟩ <;> rw [hs] at h hres
    · cases h
    · have hfalse : m₃.shuttingDown = false := hres
      have hclaim := shuttingDown_claimFound hb h
      rwa [hfalse, Bool.false_or] at hclaim

/-- An open climbs the same whether the flag is taken from its end, or from what happens
meanwhile. -/
lemma climb_openRungs (h : m.unwatched.Identified) (info : RawInterface) :
    climb (m.unwatched.openRungs info (m.unwatched.openWith meanwhile info).2.shuttingDown) =
      climb (m.unwatched.openRungs info begins) := by
  have hacq : Climbs _ m (m.acquire (aside meanwhile) info) := climbs_acquire h info
  rw [shuttingDown_unwatched, openWith]
  rcases ha : m.acquire (aside meanwhile) info with ⟨e | c, m₁⟩ <;> rw [ha] at hacq
  · -- nothing is climbed past the failure
    have herror : some e = (climb (m.unwatched.acquireRungs info)).1 := hacq.error
    rw [openRungs, openRungs, climb_append, climb_append]
    rcases hc : climb (m.unwatched.acquireRungs info) with ⟨_ | e', made⟩
    · rw [hc] at herror
      cases herror
    · rfl
  · rw [shuttingDown_enroll, shuttingDown_acquire hb ha]

end Begins

end Manager

end UsbPipe
