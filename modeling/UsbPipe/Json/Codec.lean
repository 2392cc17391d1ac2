/-
The JSON form of USB descriptors and of raw interfaces.

* `Coded`: types with a JSON form, `encode` and `decode?`.
* `Json.fields?`: the values of named fields.  An object gives each of them exactly
  once, among members of other names; an array gives exactly them, in order.
* `Fields`: the fields of a record in the order of declaration, `Fields.coded` the form
  of the record as an object of them.
* The instances: codes are bare numbers, decoded enumerations are variant names,
  descriptors are records of their fields.
-/
import UsbPipe.Json.Parser
import UsbPipe.Usb.RawInterface

namespace UsbPipe

/-- Types with a JSON form. -/
class Coded (α : Type) where
  encode : α → Json
  decode? : Json → Option α

export Coded (encode decode?)

/-! ### Numbers and lists -/

/-- The natural number of a value below a bound. -/
def Json.below? (bound : Nat) : Json → Option Nat
  | .nat n => if n < bound then some n else none
  | _ => none

instance : Coded UInt8 where
  encode n := .nat n.toNat
  decode? j := (j.below? 256).map Nat.toUInt8

instance : Coded UInt16 where
  encode n := .nat n.toNat
  decode? j := (j.below? 65536).map Nat.toUInt16

instance : Coded UInt32 where
  encode n := .nat n.toNat
  decode? j := (j.below? 4294967296).map Nat.toUInt32

instance : Coded String where
  encode := .text
  decode?
    | .str s? => s?
    | _ => none

instance {α : Type} [Coded α] : Coded (List α) where
  encode xs := .arr (xs.map encode)
  decode?
    | .arr items => items.mapM decode?
    | _ => none

/-! ### Variants and fields -/

/-- The name of a variant without contents, written as a string or as the one
member, null, of an object. -/
def Json.variant? : Json → Option String
  | .str s? => s?
  | .obj [(name?, .null)] => name?
  | _ => none

/-- The variant of a table whose name a value gives. -/
def Json.choose? {α : Type} (variants : List (String × α)) (j : Json) : Option α :=
  j.variant?.bind fun name => variants.lookup name

/-- The value of the only member called `name`. -/
def Json.field? (ms : List (Option String × Json)) (name : String) : Option Json :=
  match ms.filter (·.1 == some name) with
  | [(_, v)] => some v
  | _ => none

/-- The values of the fields `names`, in that order. -/
def Json.fields? (names : List String) : Json → Option (List Json)
  | .arr items => if items.length = names.length then some items else none
  | .obj ms => if ms.all (·.1.isSome) then names.mapM (field? ms) else none
  | _ => none

/-! ### Codes -/

namespace Usb

instance : Coded Class where
  encode c := encode c.code
  decode? j := (decode? j).map Class.mk

instance : Coded Protocol where
  encode p := encode p.code
  decode? j := (decode? j).map Protocol.mk

instance : Coded DescriptorKind where
  encode k := encode k.code
  decode? j := (decode? j).map DescriptorKind.mk

instance : Coded Speed where
  encode s := encode s.code
  decode? j := (decode? j).map Speed.mk

instance : Coded Milliamperes where
  encode m := encode m.amount
  decode? j := (decode? j).map Milliamperes.mk

/-- The variant name of a direction. -/
def Direction.variant : Direction → String
  | input => "In"
  | output => "Out"

instance : Coded Direction where
  encode d := .text d.variant
  decode? := Json.choose? ([.input, .output].map fun d : Direction => (d.variant, d))

/-- The variant name of a transfer type. -/
def TransferType.variant : TransferType → String
  | control => "Control"
  | isochronous => "Isochronous"
  | bulk => "Bulk"
  | interrupt => "Interrupt"

instance : Coded TransferType where
  encode t := .text t.variant
  decode? := Json.choose?
    ([.control, .isochronous, .bulk, .interrupt].map fun t : TransferType => (t.variant, t))

/-- The variant name of a synchronisation. -/
def SyncType.variant : SyncType → String
  | unsynchronized => "None"
  | async => "Async"
  | adaptive => "Adaptive"
  | sync => "Sync"

instance : Coded SyncType where
  encode s := .text s.variant
  decode? := Json.choose?
    ([.unsynchronized, .async, .adaptive, .sync].map fun s : SyncType => (s.variant, s))

/-- The variant name of a usage. -/
def UsageType.variant : UsageType → String
  | undefined => "Undefined"
  | isoData => "IsoData"
  | isoFeedback => "IsoFeedback"
  | isoImplicit => "IsoImplicit"
  | interruptPeriodic => "InterruptPeriodic"
  | interruptNotification => "InterruptNotification"

instance : Coded UsageType where
  encode u := .text u.variant
  decode? := Json.choose?
    ([.undefined, .isoData, .isoFeedback, .isoImplicit, .interruptPeriodic,
      .interruptNotification].map fun u : UsageType => (u.variant, u))

end Usb

/-! ### Records -/

/-- The fields of a record `ρ` in the order of declaration, each with its name and its value in
a record; `μ` is the type of a function that makes a record of their values. -/
inductive Fields (ρ : Type) : Type → Type 1 where
  | done : Fields ρ ρ
  | field {α μ : Type} [Coded α] (name : String) (value : ρ → α) (rest : Fields ρ μ) :
      Fields ρ (α → μ)

namespace Fields

variable {ρ μ : Type}

/-- The names of the fields. -/
def names {μ : Type} : Fields ρ μ → List String
  | done => []
  | field name _ rest => name :: rest.names

/-- The fields of a record as the members of an object. -/
def members {μ : Type} (r : ρ) : Fields ρ μ → List (String × Json)
  | done => []
  | field name value rest => (name, encode (value r)) :: rest.members r

/-- What a function makes of values that are decoded one by one. -/
def make? {μ : Type} : Fields ρ μ → μ → List Json → Option ρ
  | done, made, [] => some made
  | field _ _ rest, make, v :: vs => (decode? v).bind fun a => rest.make? (make a) vs
  | done, _, _ :: _ | field .., _, [] => none

/-- A record as an object of its fields. -/
@[reducible] def coded (fields : Fields ρ μ) (make : μ) : Coded ρ where
  encode r := .members (fields.members r)
  decode? j := (j.fields? fields.names).bind (fields.make? make)

end Fields

namespace Usb

/-! ### Descriptors -/

/-- The fields of an endpoint descriptor. -/
abbrev EndpointDescriptor.fields :=
  Fields.field "address" EndpointDescriptor.address <|
  .field "attributes" EndpointDescriptor.attributes <|
  .field "max_packet_size" EndpointDescriptor.maxPacketSize <|
  .field "interval" EndpointDescriptor.interval .done

instance : Coded EndpointDescriptor := EndpointDescriptor.fields.coded .mk

/-- The fields of an alternate setting. -/
abbrev AltSetting.fields :=
  Fields.field "interface_number" AltSetting.interfaceNumber <|
  .field "alternate_setting" AltSetting.alternateSetting <|
  .field "class" AltSetting.cls <|
  .field "sub_class" AltSetting.subClass <|
  .field "protocol" AltSetting.protocol <|
  .field "endpoints" AltSetting.endpoints .done

instance : Coded AltSetting := AltSetting.fields.coded .mk

/-- The fields of an interface. -/
abbrev Interface.fields :=
  Fields.field "number" Interface.number <|
  .field "alt_settings" Interface.altSettings .done

instance : Coded Interface := Interface.fields.coded .mk

/-- The fields of a configuration. -/
abbrev ConfigDescriptor.fields :=
  Fields.field "number" ConfigDescriptor.number <|
  .field "attributes" ConfigDescriptor.attributes <|
  .field "max_power" ConfigDescriptor.maxPower <|
  .field "interfaces" ConfigDescriptor.interfaces .done

instance : Coded ConfigDescriptor := ConfigDescriptor.fields.coded .mk

/-- The fields of a device descriptor. -/
abbrev DeviceDescriptor.fields :=
  Fields.field "usb_version" DeviceDescriptor.usbVersion <|
  .field "class" DeviceDescriptor.cls <|
  .field "sub_class" DeviceDescriptor.subClass <|
  .field "protocol" DeviceDescriptor.protocol <|
  .field "max_packet_size_0" DeviceDescriptor.maxPacketSize0 <|
  .field "vendor_id" DeviceDescriptor.vendorId <|
  .field "product_id" DeviceDescriptor.productId <|
  .field "device_version" DeviceDescriptor.deviceVersion <|
  .field "num_configurations" DeviceDescriptor.numConfigurations .done

instance : Coded DeviceDescriptor := DeviceDescriptor.fields.coded .mk

/-! ### Raw interfaces -/

/-- The fields of an endpoint of a raw interface. -/
abbrev EndpointInfo.fields :=
  Fields.field "address" EndpointInfo.address <|
  .field "transfer_type" EndpointInfo.transferType .done

instance : Coded EndpointInfo := EndpointInfo.fields.coded .mk

/-- The fields of a raw interface. -/
abbrev RawInterface.fields :=
  Fields.field "path" RawInterface.path <|
  .field "vendor_id" RawInterface.vendorId <|
  .field "product_id" RawInterface.productId <|
  .field "class" RawInterface.cls <|
  .field "sub_class" RawInterface.subClass <|
  .field "protocol" RawInterface.protocol <|
  .field "interface" RawInterface.interface <|
  .field "alternate_setting" RawInterface.alternateSetting <|
  .field "interface_class" RawInterface.interfaceClass <|
  .field "interface_sub_class" RawInterface.interfaceSubClass <|
  .field "interface_protocol" RawInterface.interfaceProtocol <|
  .field "reader" RawInterface.reader <|
  .field "writer" RawInterface.writer <|
  .field "bus_number" RawInterface.busNumber <|
  .field "address" RawInterface.address <|
  .field "port" RawInterface.port <|
  .field "speed" RawInterface.speed .done

instance : Coded RawInterface := RawInterface.fields.coded .mk

end Usb

/-- The value of type `α` that a JSON text gives. -/
def Json.read? (α : Type) [Coded α] (s : String) : Option α := (Json.parse? s).bind decode?

/-- The JSON text of a value, without blanks. -/
def Json.write {α : Type} [Coded α] (a : α) : String := String.ofList (encode a).compact

end UsbPipe
