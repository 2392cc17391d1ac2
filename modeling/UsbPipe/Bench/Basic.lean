/-
A bench of simulated devices: a native layer without hardware.

The bench serves device trees that were put together by hand, counts every native
call and reference, and fails or delays on request.

* `DeviceSpec`, `DeviceSpec.withConfig`, `DeviceSpec.raw`: a simulated device.  A
  configuration more sets the number of configurations, a byte, to their count.
* `Instance`: a spec that was attached.  Each attachment is a device of its own, also
  under a bus and address used before.
* `Bench`: the state, and its `Platform` instance.
* `Behaviour`, `Behaviour.outcome`: what transfers on an endpoint do.
* `TransferRecord`: one entry of the transfer log.
-/
import UsbPipe.Native.Platform

namespace UsbPipe

open Usb

/-! ### Devices -/

/-- A simulated device. -/
structure DeviceSpec where
  key : DeviceKey
  port : UInt8
  speed : Speed := .high
  descriptor : DeviceDescriptor
  configs : List ConfigDescriptor := []

namespace DeviceSpec

/-- A device without configurations. -/
def bare (key : DeviceKey) (port : UInt8) (vendorId productId : UInt16) : DeviceSpec :=
  { key := key, port := port, descriptor := .ofIds vendorId productId }

/-- One configuration more. -/
def withConfig (s : DeviceSpec) (c : ConfigDescriptor) : DeviceSpec :=
  let configs := s.configs ++ [c]
  { s with
    configs := configs
    descriptor := { s.descriptor with numConfigurations := configs.length.toUInt8 } }

/-- A device with one vendor-specific interface, bulk IN 0x81 and bulk OUT 0x01. -/
def raw (key : DeviceKey) (port : UInt8) (vendorId productId : UInt16) : DeviceSpec :=
  (bare key port vendorId productId).withConfig
    { ConfigDescriptor.numbered 1 with
      interfaces := [.raw 0 [(0x81, 0x02), (0x01, 0x02)]] }

end DeviceSpec

/-- An attached device; the serial tells attachments of equal specs apart. -/
structure Instance where
  serial : Nat
  spec : DeviceSpec

/-- The device as it is shown to people. -/
def Instance.text (i : Instance) : String := "MockDevice(" ++ i.spec.key.fields ++ ")"

/-! ### Transfers -/

/-- What transfers on an endpoint do. -/
inductive Behaviour where
  /-- They complete at once. -/
  | complete
  /-- They complete after a delay, or time out first. -/
  | delay (span : Duration)
  /-- They never complete, so they time out. -/
  | never
  /-- They fail. -/
  | fail (error : NativeError)
  deriving DecidableEq

/-- Whether a transfer under a timeout, of which zero is none, completes.  Time itself
is not simulated: an endpoint that never completes times out even without a timeout. -/
def Behaviour.outcome (timeout : Duration) : Behaviour → Except NativeError Unit
  | complete => .ok ()
  | fail e => .error e
  | never => .error .timeout
  | delay d =>
    if timeout ≠ .zero ∧ timeout.nanoseconds < d.nanoseconds then .error .timeout else .ok ()

/-- One transfer as the bench saw it.  Only OUT transfers carry data. -/
structure TransferRecord where
  key : DeviceKey
  endpoint : UInt8
  transferType : TransferType
  direction : Direction
  data : Bytes
  timeout : Duration
  result : Except NativeError Nat

/-! ### The bench -/

/-- The failures that were asked for. -/
structure Failures where
  init : Option NativeError := none
  listing : Option NativeError := none
  autoDetach : Option NativeError := none
  detach : Option NativeError := none
  release : Option NativeError := none
  descriptor : List (DeviceKey × NativeError) := []
  config : List (DeviceKey × NativeError) := []
  openDevice : List (DeviceKey × NativeError) := []
  claim : List (DeviceKey × NativeError) := []

/-- The number of native calls of each kind; `opens` counts those that succeeded. -/
structure CallCounts where
  inits : Nat := 0
  teardowns : Nat := 0
  opens : Nat := 0
  closes : Nat := 0
  claims : Nat := 0
  releases : Nat := 0
  detaches : Nat := 0

/-- An endpoint of a device. -/
abbrev EndpointKey := DeviceKey × UInt8

/-- The state of the bench.  `live` holds one key for each native reference, `overdrawn`
counts the references that were given back though nobody held one, and `queues` holds
the chunks that wait on an IN endpoint, first chunk first. -/
structure Bench where
  attached : List Instance := []
  lastSerial : Nat := 0
  live : List DeviceKey := []
  overdrawn : Nat := 0
  failures : Failures := {}
  scripts : List (EndpointKey × Behaviour) := []
  queues : List (EndpointKey × List Bytes) := []
  claimed : List (DeviceKey × UInt8) := []
  transfers : List TransferRecord := []
  calls : CallCounts := {}

namespace Bench

/-! ### Arranging -/

/-- A device plugged in. -/
def attach (b : Bench) (spec : DeviceSpec) : Bench :=
  { b with
    attached := b.attached ++ [⟨b.lastSerial + 1, spec⟩]
    lastSerial := b.lastSerial + 1 }

/-- All devices under a key unplugged. -/
def detachKey (b : Bench) (key : DeviceKey) : Bench :=
  { b with attached := b.attached.filter (·.spec.key != key) }

/-- A behaviour for the transfers on an endpoint. -/
def script (b : Bench) (pipe : EndpointKey) (behaviour : Behaviour) : Bench :=
  { b with scripts := (pipe, behaviour) :: b.scripts }

/-- The chunks that wait on an endpoint. -/
def queue (b : Bench) (pipe : EndpointKey) : List Bytes := (b.queues.lookup pipe).getD []

/-- The bench with other chunks waiting on an endpoint. -/
def setQueue (b : Bench) (pipe : EndpointKey) (chunks : List Bytes) : Bench :=
  { b with queues := (pipe, chunks) :: b.queues.filter (·.1 != pipe) }

/-- A chunk for a later read on an IN endpoint. -/
def pushRead (b : Bench) (pipe : EndpointKey) (chunk : Bytes) : Bench :=
  b.setQueue pipe (b.queue pipe ++ [chunk])

/-! ### Looking -/

/-- The native references on devices under a key. -/
def liveRefs (b : Bench) (key : DeviceKey) : Nat := b.live.count key

/-- All native references. -/
def totalLiveRefs (b : Bench) : Nat := b.live.length

/-- Whether an interface is claimed. -/
def isClaimed (b : Bench) (key : DeviceKey) (interface : UInt8) : Bool :=
  b.claimed.contains (key, interface)

/-- Whether an instance is plugged in. -/
def isAttached (b : Bench) (i : Instance) : Bool := b.attached.any (·.serial == i.serial)

/-- What transfers on an endpoint do. -/
def behaviour (b : Bench) (pipe : EndpointKey) : Behaviour :=
  (b.scripts.lookup pipe).getD .complete

/-! ### Native calls -/

/-- An `error` that was asked for, or success. -/
def failing (error? : Option NativeError) : Except NativeError Unit :=
  match error? with
  | some e => .error e
  | none => .ok ()

/-- The counts changed by one call. -/
def counting (b : Bench) (count : CallCounts → CallCounts) : Bench :=
  { b with calls := count b.calls }

/-- One reference more. -/
def retain (i : Instance) (b : Bench) : Bench := { b with live := i.spec.key :: b.live }

/-- One reference less; a count that is zero stays so, but that is told. -/
def drop (i : Instance) (b : Bench) : Bench :=
  { b with
    live := b.live.erase i.spec.key
    overdrawn := if i.spec.key ∈ b.live then b.overdrawn else b.overdrawn + 1 }

/-- The attached devices, with a reference on each. -/
def devices (b : Bench) : Except NativeError (List Instance) × Bench :=
  match b.failures.listing with
  | some e => (.error e, b)
  | none => (.ok b.attached, b.attached.foldl (fun b i => b.retain i) b)

/-- The descriptor of a device. -/
def deviceDescriptor (b : Bench) (i : Instance) : Except NativeError DeviceDescriptor :=
  match b.failures.descriptor.lookup i.spec.key with
  | some e => .error e
  | none => .ok i.spec.descriptor

/-- A configuration of a device. -/
def configDescriptor (b : Bench) (i : Instance) (index : Nat) :
    Except NativeError ConfigDescriptor :=
  match b.failures.config.lookup i.spec.key with
  | some e => .error e
  | none =>
    match i.spec.configs[index]? with
    | some c => .ok c
    | none => .error .notFound

/-- A handle, which is the key of its device. -/
def openDevice (i : Instance) (b : Bench) : Except NativeError DeviceKey × Bench :=
  match b.failures.openDevice.lookup i.spec.key with
  | some e => (.error e, b)
  | none =>
    if b.isAttached i then
      (.ok i.spec.key, b.counting fun c => { c with opens := c.opens + 1 })
    else (.error .noDevice, b)

/-- A claim. -/
def claim (handle : DeviceKey) (interface : UInt8) (b : Bench) :
    Except NativeError Unit × Bench :=
  let b := b.counting fun c => { c with claims := c.claims + 1 }
  match b.failures.claim.lookup handle with
  | some e => (.error e, b)
  | none => (.ok (), { b with claimed := (b.claimed).insert (handle, interface) })

/-- A release, which ends the claim even if it reports a failure. -/
def release (handle : DeviceKey) (interface : UInt8) (b : Bench) :
    Except NativeError Unit × Bench :=
  let b := b.counting fun c => { c with releases := c.releases + 1 }
  (failing b.failures.release, { b with claimed := b.claimed.filter (· != (handle, interface)) })

/-- An OUT transfer takes all bytes or fails. -/
def write (handle : DeviceKey) (kind : RawKind) (endpoint : UInt8) (data : Bytes)
    (timeout : Duration) (b : Bench) : Except NativeError Nat × Bench :=
  let result := ((b.behaviour (handle, endpoint)).outcome timeout).map fun () => data.length
  (result,
    { b with
      transfers := b.transfers ++
        [⟨handle, endpoint, kind.transferType, .output, data, timeout, result⟩] })

/-- An IN transfer takes the first chunk that waits, and loses what does not fit; one that
fails leaves the chunks alone. -/
def read (handle : DeviceKey) (kind : RawKind) (endpoint : UInt8) (limit : Nat)
    (timeout : Duration) (b : Bench) : Except NativeError Bytes × Bench :=
  let pipe := (handle, endpoint)
  let (result, b) : Except NativeError Bytes × Bench :=
    match (b.behaviour pipe).outcome timeout, b.queue pipe with
    | .error e, _ => (.error e, b)
    | .ok (), [] => (.ok [], b)
    | .ok (), chunk :: chunks => (.ok (chunk.take limit), b.setQueue pipe chunks)
  (result,
    { b with
      transfers := b.transfers ++
        [⟨handle, endpoint, kind.transferType, .input, [], timeout, result.map List.length⟩] })

instance : Platform Bench Instance DeviceKey where
  init b := (failing b.failures.init, b.counting fun c => { c with inits := c.inits + 1 })
  teardown b := b.counting fun c => { c with teardowns := c.teardowns + 1 }
  devices := devices
  retain := retain
  drop := drop
  key _ i := i.spec.key
  same _ i j := i.serial == j.serial
  port _ i := i.spec.port
  speed _ i := i.spec.speed
  deviceDescriptor := deviceDescriptor
  configDescriptor := configDescriptor
  openDevice := openDevice
  closeHandle _ b := b.counting fun c => { c with closes := c.closes + 1 }
  autoDetach _ b := (failing b.failures.autoDetach, b)
  detach _ _ b :=
    (failing b.failures.detach, b.counting fun c => { c with detaches := c.detaches + 1 })
  claim := claim
  release := release
  write := write
  read := read

end Bench

end UsbPipe
