/-
A host with a native USB library, call by call.

The library is created and destroyed as a context.  Device objects and open handles
belong to the context they came from and keep it alive: it is destroyed with the last of
its users.  A handle remembers what it claimed, and closing it releases that first.
Every call that changes something is recorded.

* `HostDevice`: an attached device, with the codes its calls return and what its
  endpoints answer.
* `Host`, `HostRef`, `HostHandle`: the state, a device object and an open handle.
* `NativeCall`: a recorded call, `NativeCall.text` its wording.
* The `Platform` instance of `Host`.
-/
import UsbPipe.Host.Raw
import UsbPipe.Native.Platform

namespace UsbPipe

open Usb

/-! ### Native results -/

/-- The failure of a negative native code. -/
def NativeError.ofCode (code : Int) : NativeError :=
  if code = -1 then .io
  else if code = -2 then .invalidParam
  else if code = -3 then .access
  else if code = -4 then .noDevice
  else if code = -5 then .notFound
  else if code = -6 then .busy
  else if code = -7 then .timeout
  else if code = -8 then .overflow
  else if code = -9 then .pipe
  else if code = -10 then .interrupted
  else if code = -11 then .noMem
  else if code = -12 then .notSupported
  else .other

/-- The result of a call that returns a code. -/
def resultOfCode (code : Int) : Except NativeError Unit :=
  if code = 0 then .ok () else .error (.ofCode code)

/-! ### Devices -/

/-- The codes that calls on a device return. -/
structure DeviceCodes where
  descriptor : Int := 0
  openDevice : Int := 0
  autoDetach : Int := 0
  detach : Int := 0
  claim : Int := 0
  release : Int := 0

/-- What transfers on an endpoint come to: a code, and the most bytes that are moved. -/
structure EndpointScript where
  endpoint : UInt8
  code : Int
  cap : Nat

/-- An attached device. -/
structure HostDevice where
  key : DeviceKey
  port : UInt8
  speedCode : Int
  raw : RawDevice
  configs : List (Int × RawConfig)
  codes : DeviceCodes := {}
  scripts : List EndpointScript := []
  replies : List (UInt8 × Bytes) := []

/-- The script of an endpoint. -/
def HostDevice.script? (d : HostDevice) (endpoint : UInt8) : Option EndpointScript :=
  d.scripts.find? (·.endpoint == endpoint)

/-- The replies of a device without the first one of an endpoint. -/
def HostDevice.withoutReply (d : HostDevice) (endpoint : UInt8) : HostDevice :=
  { d with replies := d.replies.eraseP (·.1 == endpoint) }

/-! ### Calls -/

/-- A call that changes something. -/
inductive NativeCall where
  | init
  | exit
  | openDevice (key : DeviceKey)
  | closeHandle (key : DeviceKey)
  | autoDetach
  | detach (interface : UInt8)
  | claim (interface : UInt8)
  | release (interface : UInt8)
  | transfer (kind : RawKind) (endpoint : UInt8) (length : Nat) (timeout : Duration)

/-- The call in words, with numbers in decimal and endpoints in hexadecimal. -/
def NativeCall.text : NativeCall → String
  | init => "init"
  | exit => "exit"
  | openDevice key => "open " ++ place key
  | closeHandle key => "close " ++ place key
  | autoDetach => "auto_detach 1"
  | detach interface => "detach " ++ toString interface.toNat
  | claim interface => "claim " ++ toString interface.toNat
  | release interface => "release " ++ toString interface.toNat
  | transfer kind endpoint length timeout =>
    kind.transferType.text ++ " " ++ Text.hexByte endpoint ++ " len=" ++ toString length
      ++ " timeout=" ++ toString (timeout.nanoseconds / 1000000)
where
  /-- Bus and address without leading zeros. -/
  place (key : DeviceKey) : String :=
    toString key.busNumber.toNat ++ ":" ++ toString key.address.toNat

/-! ### The host -/

/-- A device object: the device with an index, as one context sees it. -/
structure HostRef where
  context : Nat
  index : Nat
  deriving DecidableEq

/-- An open handle and the interfaces it claimed. -/
structure HostHandle where
  id : Nat
  device : HostRef
  claimed : List UInt8 := []

/-- The state of a host.  `refs` holds one entry for each reference on a device object. -/
structure Host where
  initCode : Int := 0
  listCode : Int := 0
  devices : List HostDevice := []
  context? : Option Nat := none
  lastContext : Nat := 0
  refs : List HostRef := []
  handles : List HostHandle := []
  lastHandle : Nat := 0
  calls : List NativeCall := []

namespace Host

/-! ### Looking -/

/-- The device behind a device object. -/
def device? (h : Host) (r : HostRef) : Option HostDevice := h.devices[r.index]?

/-- An open handle. -/
def handle? (h : Host) (id : Nat) : Option HostHandle := h.handles.find? (·.id == id)

/-- The device of an open handle. -/
def deviceOf? (h : Host) (id : Nat) : Option HostDevice :=
  (h.handle? id).bind fun handle => h.device? handle.device

/-- The references on devices: device objects and open handles. -/
def refCount (h : Host) : Nat := h.refs.length + h.handles.length

/-- Whether somebody uses a context. -/
def isUsed (h : Host) (context : Nat) : Bool :=
  h.context? == some context || h.refs.any (·.context == context)
    || h.handles.any (·.device.context == context)

/-! ### Changing -/

/-- One recorded call more. -/
def record (h : Host) (call : NativeCall) : Host := { h with calls := h.calls ++ [call] }

/-- A context that lost a user, which was its last one if nobody uses it now. -/
def leave (h : Host) (context : Nat) : Host :=
  if h.isUsed context then h else h.record .exit

/-- The host with a handle changed. -/
def updateHandle (h : Host) (id : Nat) (f : HostHandle → HostHandle) : Host :=
  { h with handles := h.handles.map fun x => if x.id = id then f x else x }

/-- The host with a device changed. -/
def updateDevice (h : Host) (index : Nat) (f : HostDevice → HostDevice) : Host :=
  { h with devices := h.devices.modify index f }

/-- A new context, unless there is one. -/
def init (h : Host) : Except NativeError Unit × Host :=
  match h.context? with
  | some _ => (.ok (), h)
  | none =>
    let h := h.record .init
    match resultOfCode h.initCode with
    | .error e => (.error e, h)
    | .ok () =>
      (.ok (), { h with context? := some (h.lastContext + 1), lastContext := h.lastContext + 1 })

/-- The context given up. -/
def teardown (h : Host) : Host :=
  match h.context? with
  | none => h
  | some context => { h with context? := none }.leave context

/-- The attached devices, with a reference on each; without a context there are none to
be found. -/
def list (h : Host) : Except NativeError (List HostRef) × Host :=
  match h.context? with
  | none => (.error .notFound, h)
  | some context =>
    match resultOfCode h.listCode with
    | .error e => (.error e, h)
    | .ok () =>
      let refs := (List.range h.devices.length).map (HostRef.mk context)
      (.ok refs, { h with refs := h.refs ++ refs })

/-- One reference more on a device object. -/
def retain (r : HostRef) (h : Host) : Host := { h with refs := h.refs ++ [r] }

/-- One reference less on a device object. -/
def drop (r : HostRef) (h : Host) : Host := { h with refs := h.refs.erase r }.leave r.context

/-- The descriptor of a device. -/
def deviceDescriptor (h : Host) (r : HostRef) : Except NativeError DeviceDescriptor :=
  match h.device? r with
  | none => .error .noDevice
  | some d => (resultOfCode d.codes.descriptor).map fun () => d.raw.descriptor

/-- A configuration of a device. -/
def configDescriptor (h : Host) (r : HostRef) (index : Nat) :
    Except NativeError ConfigDescriptor :=
  match (h.device? r).bind fun d => d.configs[index]? with
  | none => .error .notFound
  | some (code, config) => (resultOfCode code).map fun () => config.descriptor

/-- A handle on a device. -/
def openDevice (r : HostRef) (h : Host) : Except NativeError Nat × Host :=
  match h.device? r with
  | none => (.error .noDevice, h)
  | some d =>
    let h := h.record (.openDevice d.key)
    match resultOfCode d.codes.openDevice with
    | .error e => (.error e, h)
    | .ok () =>
      (.ok (h.lastHandle + 1),
        { h with
          handles := h.handles ++ [{ id := h.lastHandle + 1, device := r }]
          lastHandle := h.lastHandle + 1 })

/-- A handle given back, with everything it still claims, lowest number first. -/
def closeHandle (id : Nat) (h : Host) : Host :=
  match h.handle? id, h.deviceOf? id with
  | some handle, some d =>
    let claims := handle.claimed.mergeSort fun a b => decide (a ≤ b)
    let h := claims.foldl (fun h interface => h.record (.release interface)) h
    let h := h.record (.closeHandle d.key)
    { h with handles := h.handles.filter (·.id != id) }.leave handle.device.context
  | _, _ => h

/-- A call on a handle that returns a code of its device. -/
def onHandle (id : Nat) (call : NativeCall) (code : DeviceCodes → Int) (h : Host) :
    Except NativeError Unit × Host :=
  match h.deviceOf? id with
  | none => (.error .noDevice, h)
  | some d => (resultOfCode (code d.codes), h.record call)

/-- A claim, which the handle remembers. -/
def claim (id : Nat) (interface : UInt8) (h : Host) : Except NativeError Unit × Host :=
  match h.onHandle id (.claim interface) DeviceCodes.claim with
  | (.error e, h) => (.error e, h)
  | (.ok (), h) =>
    (.ok (), h.updateHandle id fun x => { x with claimed := x.claimed.insert interface })

/-- A release, after which the handle forgets the claim. -/
def release (id : Nat) (interface : UInt8) (h : Host) : Except NativeError Unit × Host :=
  match h.onHandle id (.release interface) DeviceCodes.release with
  | (.error e, h) => (.error e, h)
  | (.ok (), h) =>
    (.ok (), h.updateHandle id fun x => { x with claimed := x.claimed.filter (· != interface) })

/-! ### Transfers -/

/-- The bytes that a transfer moves out of those it could, and its result.  An interrupted
transfer succeeds if it moved something. -/
def moved (script? : Option EndpointScript) (bytes : Bytes) : Except NativeError Bytes :=
  match script? with
  | none => .ok bytes
  | some s =>
    let bytes := bytes.take s.cap
    if s.code = 0 then .ok bytes
    else if s.code = -10 ∧ bytes ≠ [] then .ok bytes
    else .error (.ofCode s.code)

/-- Whether a transfer fails before anything is moved. -/
def blocked (script? : Option EndpointScript) : Bool :=
  match script? with
  | none => false
  | some s => s.code != 0 && s.code != -10

/-- An OUT transfer. -/
def write (id : Nat) (kind : RawKind) (endpoint : UInt8) (data : Bytes) (timeout : Duration)
    (h : Host) : Except NativeError Nat × Host :=
  match h.deviceOf? id with
  | none => (.error .noDevice, h)
  | some d =>
    ((moved (d.script? endpoint) data).map List.length,
      h.record (.transfer kind endpoint data.length timeout))

/-- A length as the native library is told it, in 32 bits. -/
def nativeLength (length : Nat) : Nat := length % 0x100000000

/-- An IN transfer, which takes the first reply that is left on the endpoint. -/
def read (id : Nat) (kind : RawKind) (endpoint : UInt8) (limit : Nat) (timeout : Duration)
    (h : Host) : Except NativeError Bytes × Host :=
  match h.handle? id, h.deviceOf? id with
  | some handle, some d =>
    let limit := nativeLength limit
    let h := h.record (.transfer kind endpoint limit timeout)
    let script? := d.script? endpoint
    if blocked script? then (moved script? [], h)
    else
      (moved script? (((d.replies.lookup endpoint).getD []).take limit),
        h.updateDevice handle.device.index (·.withoutReply endpoint))
  | _, _ => (.error .noDevice, h)

instance : Platform Host HostRef Nat where
  init := init
  teardown := teardown
  devices := list
  retain := retain
  drop := drop
  key h r := ((h.device? r).map HostDevice.key).getD ⟨0, 0⟩
  same _ a b := a.index == b.index
  port h r := ((h.device? r).map HostDevice.port).getD 0
  speed h r := ((h.device? r).map fun d => speedOfCode d.speedCode).getD .unknown
  deviceDescriptor := deviceDescriptor
  configDescriptor := configDescriptor
  openDevice := openDevice
  closeHandle := closeHandle
  autoDetach id := onHandle id .autoDetach DeviceCodes.autoDetach
  detach id interface := onHandle id (.detach interface) DeviceCodes.detach
  claim := claim
  release := release
  write := write
  read := read

end Host

end UsbPipe
