/-
What the bytes of an endpoint descriptor say.

* `Direction`, `TransferType`, `SyncType`, `UsageType`: the decoded fields, with
  `ofAddress` and `ofAttributes` reading them from the raw bytes.
* `RawKind`: the two transfer types a raw pipe can have, with `TransferType.raw?`
  picking them out.
* `EndpointDescriptor`, `EndpointInfo`: an endpoint as its device reports it and
  as a matched interface remembers it.
-/
import UsbPipe.Usb.Code

namespace UsbPipe.Usb

/-! ### Direction -/

/-- The direction of an endpoint, seen from the host. -/
inductive Direction where
  | input
  | output
  deriving DecidableEq

namespace Direction

/-- The direction bit of an endpoint address. -/
def ofAddress (address : UInt8) : Direction :=
  if address &&& Mask.direction = Mask.direction then .input else .output

/-- The direction in capitals. -/
def text : Direction → String
  | input => "IN"
  | output => "OUT"

end Direction

/-! ### Transfer type -/

/-- The transfer type of an endpoint. -/
inductive TransferType where
  | control
  | isochronous
  | bulk
  | interrupt
  deriving DecidableEq

/-- The transfer types that move plain bytes: a raw pipe is of one of these. -/
inductive RawKind where
  | bulk
  | interrupt
  deriving DecidableEq

namespace TransferType

/-- The transfer type in the two low bits of endpoint attributes. -/
def ofAttributes (attributes : UInt8) : TransferType :=
  let bits := attributes &&& Mask.transferType
  if bits = 0 then .control
  else if bits = 1 then .isochronous
  else if bits = 2 then .bulk
  else .interrupt

/-- The two-bit code of a transfer type. -/
def code : TransferType → UInt8
  | control => 0
  | isochronous => 1
  | bulk => 2
  | interrupt => 3

/-- The raw kind of a bulk or interrupt type. -/
def raw? : TransferType → Option RawKind
  | bulk => some .bulk
  | interrupt => some .interrupt
  | _ => none

/-- Whether a raw pipe can have this type. -/
def isRaw (t : TransferType) : Bool := t.raw?.isSome

/-- The transfer type in words. -/
def text : TransferType → String
  | control => "control"
  | isochronous => "isochronous"
  | bulk => "bulk"
  | interrupt => "interrupt"

/-- The two-bit code is read back. -/
theorem ofAttributes_code (t : TransferType) : ofAttributes t.code = t := by
  cases t <;> decide

end TransferType

/-- The transfer type of a raw kind. -/
def RawKind.transferType : RawKind → TransferType
  | bulk => .bulk
  | interrupt => .interrupt

/-- A transfer type has raw kind `k` exactly if it is the type of `k`. -/
theorem TransferType.raw?_eq_some {t : TransferType} {k : RawKind} :
    t.raw? = some k ↔ t = k.transferType := by
  cases t <;> cases k <;> simp [raw?, RawKind.transferType]

/-! ### Isochronous synchronisation and usage -/

/-- The synchronisation of an isochronous endpoint. -/
inductive SyncType where
  | unsynchronized
  | async
  | adaptive
  | sync
  deriving DecidableEq

namespace SyncType

/-- The synchronisation in bits 2 and 3 of endpoint attributes. -/
def ofAttributes (attributes : UInt8) : SyncType :=
  let bits := (attributes &&& Mask.syncType) >>> 2
  if bits = 0 then .unsynchronized
  else if bits = 1 then .async
  else if bits = 2 then .adaptive
  else .sync

/-- The two-bit code of a synchronisation. -/
def code : SyncType → UInt8
  | unsynchronized => 0
  | async => 1
  | adaptive => 2
  | sync => 3

/-- The synchronisation in words. -/
def text : SyncType → String
  | unsynchronized => "unsynchronized"
  | async => "asynchronous"
  | adaptive => "adaptive"
  | sync => "synchronous"

end SyncType

/-- What an isochronous or interrupt endpoint is used for. -/
inductive UsageType where
  | undefined
  | isoData
  | isoFeedback
  | isoImplicit
  | interruptPeriodic
  | interruptNotification
  deriving DecidableEq

namespace UsageType

/-- The usage in bits 4 and 5 of endpoint attributes, which mean something for
isochronous and interrupt endpoints only. -/
def ofAttributes (attributes : UInt8) : UsageType :=
  let bits := (attributes &&& Mask.usageType) >>> 4
  match TransferType.ofAttributes attributes with
  | .isochronous =>
    if bits = 0 then .isoData
    else if bits = 1 then .isoFeedback
    else if bits = 2 then .isoImplicit
    else .undefined
  | .interrupt =>
    if bits = 0 then .interruptPeriodic
    else if bits = 1 then .interruptNotification
    else .undefined
  | _ => .undefined

/-- The usage in words. -/
def text : UsageType → String
  | undefined => "undefined usage"
  | isoData => "data"
  | isoFeedback => "feedback"
  | isoImplicit => "implicit data"
  | interruptPeriodic => "periodic"
  | interruptNotification => "notification"

end UsageType

/-! ### Endpoints -/

/-- An endpoint as its device reports it. -/
structure EndpointDescriptor where
  address : UInt8
  attributes : UInt8
  maxPacketSize : UInt16
  interval : UInt8
  deriving DecidableEq

namespace EndpointDescriptor

/-- An endpoint with 64-byte packets and no polling interval. -/
def ofBytes (address attributes : UInt8) : EndpointDescriptor :=
  ⟨address, attributes, 64, 0⟩

/-- The endpoint number. -/
def number (e : EndpointDescriptor) : UInt8 := e.address &&& Mask.number

/-- The endpoint's direction. -/
def direction (e : EndpointDescriptor) : Direction := .ofAddress e.address

/-- The endpoint's transfer type. -/
def transferType (e : EndpointDescriptor) : TransferType := .ofAttributes e.attributes

/-- The endpoint's synchronisation. -/
def syncType (e : EndpointDescriptor) : SyncType := .ofAttributes e.attributes

/-- The endpoint's usage. -/
def usageType (e : EndpointDescriptor) : UsageType := .ofAttributes e.attributes

end EndpointDescriptor

/-- One side of a matched pipe pair. -/
structure EndpointInfo where
  address : UInt8
  transferType : TransferType
  deriving DecidableEq

end UsbPipe.Usb
