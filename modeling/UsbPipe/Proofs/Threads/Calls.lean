/-
The native calls that the operations of a manager make.

Any native layer can be watched: it answers as before, and every call is noted in the
order in which it was made.  What an operation calls, and what it changes of the parts of
a manager that other users look at, is one equation for each operation and each outcome.

* `Call`: a native call; `Watched`: a native layer with the calls it got, and its
  `Platform` instance.
* `View`, `Manager.view`: what users share of a manager, besides the pool; `View.calling`
  notes calls.
* `ready_cases`, `register_cases`: the entry and the registration, with what refuses them.
* `view_walk`, `view_resolve`, `view_claimFound`, `view_abandon`, `view_closeNative`,
  `view_teardown`: the other operations, one equation each.
-/
import UsbPipe.Proofs.Manager.Frame

namespace UsbPipe

open Usb Manager

/-! ### Watching a native layer -/

/-- A native call.  Looking at devices and counting references are not noted. -/
inductive Call (η : Type) where
  | init (succeeded : Bool)
  | teardown
  | listing
  | openDevice (handle? : Option η)
  | closeHandle (handle : η)
  | autoDetach (handle : η)
  | detach (handle : η) (interface : UInt8)
  | claim (handle : η) (interface : UInt8)
  | release (handle : η) (interface : UInt8)
  | transfer (handle : η) (direction : Direction)
  deriving DecidableEq

namespace Call

variable {η : Type}

/-- The handle that a call gave out. -/
def opened? : Call η → Option η
  | openDevice handle? => handle?
  | _ => none

/-- The handle that a call took back. -/
def closed? : Call η → Option η
  | closeHandle handle => some handle
  | _ => none

end Call

/-- A native layer and the calls it got, first call first. -/
structure Watched (σ η : Type) where
  layer : σ
  calls : List (Call η) := []

namespace Watched

variable {σ δ η : Type}

/-- A call that is noted once its result is known. -/
def noting {α : Type} (call : σ → α × σ) (note : α → Call η) (w : Watched σ η) :
    α × Watched σ η :=
  ((call w.layer).1, ⟨(call w.layer).2, w.calls ++ [note (call w.layer).1]⟩)

instance [Platform σ δ η] : Platform (Watched σ η) δ η where
  init := noting Platform.init fun r => .init r.isOk
  teardown w := (noting (fun p => ((), Platform.teardown p)) (fun _ => .teardown) w).2
  devices := noting Platform.devices fun _ => .listing
  retain d w := { w with layer := Platform.retain d w.layer }
  drop d w := { w with layer := Platform.drop d w.layer }
  key w := Platform.key w.layer
  same w := Platform.same w.layer
  port w := Platform.port w.layer
  speed w := Platform.speed w.layer
  deviceDescriptor w := Platform.deviceDescriptor w.layer
  configDescriptor w := Platform.configDescriptor w.layer
  openDevice d := noting (Platform.openDevice d) fun r => .openDevice r.toOption
  closeHandle h w :=
    (noting (fun p => ((), Platform.closeHandle h p)) (fun _ => .closeHandle h) w).2
  autoDetach h := noting (Platform.autoDetach h) fun _ => .autoDetach h
  detach h i := noting (Platform.detach h i) fun _ => .detach h i
  claim h i := noting (Platform.claim h i) fun _ => .claim h i
  release h i := noting (Platform.release h i) fun _ => .release h i
  write h kind endpoint data timeout :=
    noting (Platform.write h kind endpoint data timeout) fun _ => .transfer h .output
  read h kind endpoint limit timeout :=
    noting (Platform.read h kind endpoint limit timeout) fun _ => .transfer h .input

end Watched

/-! ### What users share -/

/-- What users share of a manager besides its pool: whether it is initialised and being
shut down, the channels with those that keep a shutdown waiting, and the calls so far. -/
structure View (δ η : Type) where
  initialized : Bool
  shuttingDown : Bool
  registered : List ℕ
  lastId : ℕ
  channels : List (Channel δ η)
  calls : List (Call η)

namespace View

variable {δ η : Type}

/-- More calls. -/
def calling (v : View δ η) (cs : List (Call η)) : View δ η := { v with calls := v.calls ++ cs }

@[simp] lemma calling_calling (v : View δ η) (cs ds : List (Call η)) :
    (v.calling cs).calling ds = v.calling (cs ++ ds) := by
  rw [calling, calling, calling, List.append_assoc]

end View

namespace Manager

variable {σ δ η : Type}

/-- What users share of a manager of a watched layer. -/
def view (m : Manager (Watched σ η) δ η) : View δ η where
  initialized := m.initialized
  shuttingDown := m.shuttingDown
  registered := m.registered
  lastId := m.lastId
  channels := m.channels
  calls := m.platform.calls

variable {m : Manager (Watched σ η) δ η}

/-- Events are nothing that users share. -/
lemma view_frame (v : View δ η) : Frame fun m : Manager (Watched σ η) δ η => m.view = v :=
  ⟨fun _ _ _ hv => hv⟩

/-- The first step of a shutdown sets the flag. -/
lemma view_beginShutdown : m.beginShutdown.view = { m.view with shuttingDown := true } := by
  rw [beginShutdown]
  split_ifs with h
  · rw [view, h]
  · rfl

/-- The registration, which is refused once the flag is set. -/
lemma register_cases (m : Manager (Watched σ η) δ η) :
    (m.shuttingDown = true ∧ m.register = (.error .shuttingDown, m)) ∨
    (m.shuttingDown = false ∧ ∃ m', m.register = (.ok (m.lastId + 1), m') ∧
      m'.view = { m.view with
        lastId := m.lastId + 1, registered := m.registered ++ [m.lastId + 1] }) := by
  rw [register]
  split_ifs with hdown
  · exact Or.inl ⟨hdown, rfl⟩
  · exact Or.inr ⟨by simpa using hdown, _, rfl, rfl⟩

/-- A transfer calls for it, or for nothing. -/
lemma view_transfer {α : Type} (c : Channel δ η) (direction : Direction)
    (endpoint : EndpointInfo) (timeout : Option Duration) (count : α → ℕ)
    (call : η → RawKind → Duration → Watched σ η → Except NativeError α × Watched σ η)
    (hcall : ∀ handle kind t,
      (m.native (call handle kind t)).2.view = m.view.calling [.transfer handle direction]) :
    (m.transfer c direction endpoint timeout count call).2.view = m.view ∨
    ∃ handle, c.native? = some handle ∧
      (m.transfer c direction endpoint timeout count call).2.view =
        m.view.calling [.transfer handle direction] := by
  rw [transfer]
  cases c.native? with
  | none => exact Or.inl rfl
  | some handle =>
      cases endpoint.transferType.raw? with
      | none => exact Or.inl rfl
      | some kind =>
          exact Or.inr ⟨handle, rfl, (view_frame _).finish (hcall handle kind _) ..⟩

variable [Platform σ δ η]

/-! ### Holds and scans -/

@[simp] lemma view_retain (key : DeviceKey) (device : δ) :
    (m.retain key device).2.view = m.view := by
  simp only [retain, log]
  split_ifs <;> rfl

/-- Nor are holds given back. -/
lemma view_releasing (v : View δ η) :
    Frame.Releasing fun m : Manager (Watched σ η) δ η => m.view = v where
  toFrame := view_frame v
  release m h hv := by
    simp only [release, log]
    cases (m.pool.release h).left? <;> cases (m.pool.release h).dropped? <;> exact hv

@[simp] lemma view_release (h : Hold δ) : (m.release h).view = m.view :=
  (view_releasing m.view).release m h rfl

@[simp] lemma view_releaseAll (hs : List (Hold δ)) : (m.releaseAll hs).view = m.view :=
  (view_releasing m.view).releaseAll rfl hs

@[simp] lemma view_discard (fs : List (Found δ)) : (m.discard fs).view = m.view :=
  view_releaseAll _

/-- A walk calls for the listing. -/
@[simp] lemma view_walk (filter : Filter) :
    (m.walk filter).2.view = m.view.calling [.listing] :=
  (view_releasing _).walk rfl (fun _ key device hv => (view_retain key device).trans hv)
    (fun _ _ hv => hv) filter

/-- So does a rescan. -/
@[simp] lemma view_resolve (info : RawInterface) :
    (m.resolve info).2.view = m.view.calling [.listing] :=
  (view_releasing _).resolve (view_walk (idsOf info))

/-! ### Entry and exit -/

/-- The entry: refused without a call, granted without one, or decided by an `init`. -/
lemma ready_cases (m : Manager (Watched σ η) δ η) :
    (m.shuttingDown = true ∧ m.ready = (.error .shuttingDown, m)) ∨
    (m.shuttingDown = false ∧ m.initialized = true ∧ m.ready = (.ok (), m)) ∨
    (m.shuttingDown = false ∧ m.initialized = false ∧
      ((∃ e m', m.ready = (.error (.init e), m') ∧ m'.view = m.view.calling [.init false]) ∨
        ∃ m', m.ready = (.ok (), m') ∧
          m'.view = { m.view.calling [.init true] with initialized := true })) := by
  have hcall : (m.native Platform.init).2.view =
      m.view.calling [.init (m.native Platform.init).1.isOk] := rfl
  rw [ready]
  split_ifs with hdown hinit
  · exact Or.inl ⟨hdown, rfl⟩
  · exact Or.inr (Or.inl ⟨by simpa using hdown, hinit, rfl⟩)
  · refine Or.inr (Or.inr ⟨by simpa using hdown, by simpa using hinit, ?_⟩)
    rcases hi : m.native Platform.init with ⟨e | ⟨⟩, m₁⟩ <;> rw [hi] at hcall
    · exact Or.inl ⟨e, _, rfl, hcall⟩
    · refine Or.inr ⟨_, rfl, ?_⟩
      exact congrArg (fun v : View δ η => { v with initialized := true }) hcall

/-- The last step of a shutdown tears an initialised layer down. -/
lemma view_teardown : m.teardown.view =
    if m.initialized then { m.view.calling [.teardown] with initialized := false } else m.view := by
  rw [teardown]
  split_ifs <;> rfl

/-! ### Opening -/

/-- The calls between an open device and its claimed interface. -/
def claimCalls (handle : η) (interface : UInt8) : List (Call η) :=
  [.autoDetach handle, .detach handle interface, .claim handle interface]

/-- None of them gives out or takes back a handle. -/
lemma claimCalls_take_handles (handle : η) (interface : UInt8) (n : ℕ) :
    ((claimCalls handle interface).take n).filterMap Call.opened? = [] ∧
      ((claimCalls handle interface).take n).filterMap Call.closed? = [] := by
  have hidle : ∀ c ∈ claimCalls handle interface, c.opened? = none ∧ c.closed? = none := by
    simp [claimCalls, Call.opened?, Call.closed?]
  exact ⟨List.filterMap_eq_nil_iff.mpr fun c hc => (hidle c (List.mem_of_mem_take hc)).1,
    List.filterMap_eq_nil_iff.mpr fun c hc => (hidle c (List.mem_of_mem_take hc)).2⟩

lemma view_enableAutoDetach (handle : η) :
    (m.enableAutoDetach handle).2.view = m.view.calling [.autoDetach handle] :=
  (view_frame _).enableAutoDetach rfl

lemma view_detachDriver (handle : η) (interface : UInt8) :
    (m.detachDriver handle interface).2.view = m.view.calling [.detach handle interface] :=
  (view_frame _).detachDriver rfl

lemma view_claimInterface (handle : η) (interface : UInt8) :
    (m.claimInterface id handle interface).2.view = m.view.calling [.claim handle interface] := rfl

/-- A preparation makes its calls in order, and all of them if it succeeds. -/
lemma view_prepare (handle : η) (interface : UInt8) :
    match m.prepare id handle interface with
    | (.error _, m') => ∃ n, m'.view = m.view.calling ((claimCalls handle interface).take n)
    | (.ok _, m') => m'.view = m.view.calling (claimCalls handle interface) := by
  have hauto := view_enableAutoDetach (m := m) handle
  rw [prepare]
  rcases h₁ : m.enableAutoDetach handle with ⟨_ | ⟨⟩, m₁⟩ <;> rw [h₁] at hauto
  · exact ⟨1, hauto⟩
  · have hdet := view_detachDriver (m := m₁) handle interface
    simp only at hauto ⊢
    rw [hauto, View.calling_calling] at hdet
    rcases h₂ : m₁.detachDriver handle interface with ⟨_ | ⟨⟩, m₂⟩ <;> rw [h₂] at hdet
    · exact ⟨2, hdet⟩
    · have hclaim := view_claimInterface (m := m₂) handle interface
      simp only at hdet ⊢
      rw [hdet, View.calling_calling] at hclaim
      rcases h₃ : m₂.claimInterface id handle interface with ⟨_ | ⟨⟩, m₃⟩ <;> rw [h₃] at hclaim
      · exact ⟨3, hclaim⟩
      · exact hclaim

/-- Opening and claiming a record: no handle; or a handle that was closed after a failure;
or a handle with a claimed interface. -/
lemma view_claimFound (f : Found δ) :
    match m.claimFound id f with
    | (.error _, m') => m'.view = m.view.calling [.openDevice none] ∨
        ∃ handle n, m'.view = m.view.calling (.openDevice (some handle) ::
          ((claimCalls handle f.info.interface).take n ++ [.closeHandle handle]))
    | (.ok c, m') => c.info = f.info ∧ c.hold = f.hold ∧ m'.view = m.view.calling
        (.openDevice (some c.native) :: claimCalls c.native c.info.interface) := by
  have hcall : (m.native (Platform.openDevice f.hold.device)).2.view =
      m.view.calling [.openDevice (m.native (Platform.openDevice f.hold.device)).1.toOption] := rfl
  rw [claimFound]
  rcases ho : m.native (Platform.openDevice f.hold.device) with ⟨e | handle, m₁⟩ <;>
    rw [ho] at hcall
  · exact Or.inl ((view_release f.hold).trans hcall)
  · simp only
    set m₂ := m₁.log .debug ("Opened native handle for " ++ f.info.path) with hm₂
    have hview : m₂.view = m.view.calling [.openDevice (some handle)] := hcall
    have hprep := view_prepare (m := m₂) handle f.info.interface
    rcases hp : m₂.prepare id handle f.info.interface with ⟨_ | ⟨⟩, m₃⟩ <;> rw [hp] at hprep
    · obtain ⟨n, heq⟩ := hprep
      have hclose : (m₃.closeHandle handle).view = m₃.view.calling [.closeHandle handle] := rfl
      refine Or.inr ⟨handle, n, (view_release f.hold).trans ?_⟩
      rw [hclose, heq, hview, View.calling_calling, View.calling_calling]
      rfl
    · simp only at hprep
      rw [hview, View.calling_calling] at hprep
      exact ⟨rfl, rfl, hprep⟩

lemma view_abandon (c : Claimed δ η) :
    (m.abandon c).view =
      m.view.calling [.release c.native c.info.interface, .closeHandle c.native] := by
  have hclose : ∀ m : Manager (Watched σ η) δ η,
      (m.closeHandle c.native).view = m.view.calling [.closeHandle c.native] := fun _ => rfl
  have hcall : (m.native (Platform.release c.native c.info.interface)).2.view =
      m.view.calling [.release c.native c.info.interface] := rfl
  rw [abandon]
  rcases hr : m.native (Platform.release c.native c.info.interface) with ⟨e | ⟨⟩, m₁⟩ <;>
    rw [hr] at hcall <;> rw [view_release, hclose] <;>
    exact (congrArg (View.calling · _) hcall).trans (View.calling_calling m.view [_] [_])

/-! ### Closing and transfers -/

/-- The native part of a close is nothing for a closed channel. -/
lemma eq_of_closeNative_none {c : Channel δ η} {m' : Manager (Watched σ η) δ η}
    (h : m.closeNative c = (none, m')) : m' = m := by
  rw [closeNative] at h
  cases hn : c.native? with
  | none =>
      rw [hn] at h
      exact (Prod.mk.inj h).2.symm
  | some handle =>
      rw [hn] at h
      cases (Prod.mk.inj h).1

/-- An open channel is emptied, its interface released and its handle closed. -/
lemma view_closeNative {c : Channel δ η} {m' : Manager (Watched σ η) δ η}
    {result : Except NativeError Unit} (h : m.closeNative c = (some result, m')) :
    ∃ handle, c.native? = some handle ∧
      m'.view = { m.view.calling [.release handle c.info.interface, .closeHandle handle] with
        channels := (m.updateChannel c.id emptied).channels } := by
  rw [closeNative] at h
  cases hn : c.native? with
  | none =>
      rw [hn] at h
      cases (Prod.mk.inj h).1
  | some handle =>
      rw [hn] at h
      refine ⟨handle, rfl, ?_⟩
      rw [← (Prod.mk.inj h).2]
      refine (view_releaseAll _).trans ?_
      exact View.calling_calling (m.updateChannel c.id emptied).view [_] [_]

lemma view_write (id : ℕ) (data : Bytes) :
    (m.write id data).2.view = m.view ∨
    ∃ c handle, m.channel? id = some c ∧ c.native? = some handle ∧
      (m.write id data).2.view = m.view.calling [.transfer handle .output] := by
  rw [write]
  cases hc : m.channel? id with
  | none => exact Or.inl rfl
  | some c =>
      rcases view_transfer (m := m) c .output c.info.writer c.writeTimeout (fun n => n)
        (fun handle kind t => Platform.write handle kind c.info.writer.address data t)
        (fun _ _ _ => rfl) with h | ⟨handle, hn, h⟩
      · exact Or.inl h
      · exact Or.inr ⟨c, handle, rfl, hn, h⟩

lemma view_receive (id limit : ℕ) :
    (m.receive id limit).2.view = m.view ∨
    ∃ c handle, m.channel? id = some c ∧ c.native? = some handle ∧
      (m.receive id limit).2.view = m.view.calling [.transfer handle .input] := by
  rw [receive]
  cases hc : m.channel? id with
  | none => exact Or.inl rfl
  | some c =>
      rcases view_transfer (m := m) c .input c.info.reader c.readTimeout List.length
        (fun handle kind t => Platform.read handle kind c.info.reader.address limit t)
        (fun _ _ _ => rfl) with h | ⟨handle, hn, h⟩
      · exact Or.inl h
      · exact Or.inr ⟨c, handle, rfl, hn, h⟩

end Manager

end UsbPipe
