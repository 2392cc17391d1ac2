/-
Descriptors as a host controller delivers them, and what the library makes of them.

* `RawDevice`, `RawConfig`, `RawAltSetting`, `RawEndpoint`: the bytes of the tree.
* `Version`: a binary-coded version number, decoded by `ofWord` and put together by
  `toWord`.
* `EndpointTraits`: the attributes of an endpoint in three parts, decoded by `ofByte` and put
  together by `toByte`, which loses the bits that mean nothing: `toByte_ofByte`.
* `RawDevice.descriptor`, `RawConfig.descriptor`: the descriptors read from them.
* `speedOfCode`: the speed of a native speed code.
-/
import UsbPipe.Native.Error

namespace UsbPipe

open Usb

/-! ### Raw descriptors -/

/-- The bytes of an endpoint descriptor. -/
structure RawEndpoint where
  address : UInt8
  attributes : UInt8
  maxPacketSize : UInt16
  interval : UInt8

/-- The bytes of an alternate setting. -/
structure RawAltSetting where
  interfaceNumber : UInt8
  alternateSetting : UInt8
  cls : UInt8
  subClass : UInt8
  protocol : UInt8
  endpoints : List RawEndpoint

/-- The bytes of a configuration, with its alternate settings grouped by interface.  The
power is in units of two milliamperes. -/
structure RawConfig where
  number : UInt8
  attributes : UInt8
  power : UInt8
  interfaces : List (List RawAltSetting)

/-- The bytes of a device descriptor. -/
structure RawDevice where
  bcdUsb : UInt16
  cls : UInt8
  subClass : UInt8
  protocol : UInt8
  maxPacketSize0 : UInt8
  vendorId : UInt16
  productId : UInt16
  bcdDevice : UInt16
  numConfigurations : UInt8

/-! ### Versions -/

/-- A version number in three parts. -/
structure Version where
  major : UInt8
  minor : UInt8
  subMinor : UInt8

namespace Version

/-- The four bits of a word from a position on. -/
def nibble (w position : UInt16) : UInt16 := (w >>> position) &&& 0x0f

/-- The version in a binary-coded decimal word: two digits of major version, one of minor
and one of subminor version. -/
def ofWord (w : UInt16) : Version where
  major := (10 * nibble w 12 + nibble w 8).toUInt8
  minor := (nibble w 4).toUInt8
  subMinor := (nibble w 0).toUInt8

/-- The word with the major version as a number in its high byte, and the other parts as
digits in its low byte. -/
def toWord (v : Version) : UInt16 :=
  (v.major.toUInt16 <<< 8) ||| ((v.minor &&& 0x0f).toUInt16 <<< 4)
    ||| (v.subMinor &&& 0x0f).toUInt16

end Version

/-! ### Endpoint attributes -/

/-- What bits 4 and 5 of endpoint attributes say, whatever the transfer type. -/
inductive EndpointUse where
  | data
  | feedback
  | feedbackData
  | reserved
  deriving DecidableEq

namespace EndpointUse

/-- The use in endpoint attributes. -/
def ofAttributes (attributes : UInt8) : EndpointUse :=
  let bits := (attributes &&& Mask.usageType) >>> 4
  if bits = 0 then .data
  else if bits = 1 then .feedback
  else if bits = 2 then .feedbackData
  else .reserved

/-- The two-bit code of a use. -/
def code : EndpointUse → UInt8
  | data => 0
  | feedback => 1
  | feedbackData => 2
  | reserved => 3

end EndpointUse

/-- The attributes of an endpoint in three parts. -/
structure EndpointTraits where
  transfer : TransferType
  sync : SyncType
  use : EndpointUse
  deriving DecidableEq

namespace EndpointTraits

/-- The parts of an attribute byte. -/
def ofByte (attributes : UInt8) : EndpointTraits where
  transfer := .ofAttributes attributes
  sync := .ofAttributes attributes
  use := .ofAttributes attributes

/-- The attribute byte with these parts. -/
def toByte (t : EndpointTraits) : UInt8 :=
  t.transfer.code ||| (t.sync.code <<< 2) ||| (t.use.code <<< 4)

end EndpointTraits

/-- The attribute bits that mean something: transfer type, synchronisation and usage. -/
def endpointBits : UInt8 := Mask.transferType ||| Mask.syncType ||| Mask.usageType

/-- The parts of an attribute byte keep its meaning. -/
theorem EndpointTraits.toByte_ofByte (attributes : UInt8) :
    (ofByte attributes).toByte = attributes &&& endpointBits := by
  have hall : ∀ n : Fin 256, (ofByte (.ofFin n)).toByte = .ofFin n &&& endpointBits := by
    decide +kernel
  exact hall attributes.toFin

/-! ### Descriptors -/

/-- The descriptor of a device. -/
def RawDevice.descriptor (d : RawDevice) : DeviceDescriptor where
  usbVersion := (Version.ofWord d.bcdUsb).toWord
  cls := ⟨d.cls⟩
  subClass := ⟨d.subClass⟩
  protocol := ⟨d.protocol⟩
  maxPacketSize0 := d.maxPacketSize0
  vendorId := d.vendorId
  productId := d.productId
  deviceVersion := (Version.ofWord d.bcdDevice).toWord
  numConfigurations := d.numConfigurations

/-- The descriptor of an endpoint.  Its attributes are decoded and put together again. -/
def RawEndpoint.descriptor (e : RawEndpoint) : EndpointDescriptor where
  address := e.address
  attributes := (EndpointTraits.ofByte e.attributes).toByte
  maxPacketSize := e.maxPacketSize
  interval := e.interval

/-- The descriptor of an alternate setting. -/
def RawAltSetting.descriptor (a : RawAltSetting) : AltSetting where
  interfaceNumber := a.interfaceNumber
  alternateSetting := a.alternateSetting
  cls := ⟨a.cls⟩
  subClass := ⟨a.subClass⟩
  protocol := ⟨a.protocol⟩
  endpoints := a.endpoints.map RawEndpoint.descriptor

/-- An interface has the number of its first alternate setting. -/
def interfaceOf (alts : List RawAltSetting) : Interface where
  number := (alts.head?.map RawAltSetting.interfaceNumber).getD 0
  altSettings := alts.map RawAltSetting.descriptor

/-- The descriptor of a configuration: bit 7 of the attributes is always set, and of the
others those for the power supply and for waking the host are kept. -/
def RawConfig.descriptor (c : RawConfig) : ConfigDescriptor where
  number := c.number
  attributes := 0x80 ||| (c.attributes &&& (Mask.selfPowered ||| Mask.remoteWakeup))
  maxPower := ⟨2 * c.power.toUInt32⟩
  interfaces := c.interfaces.map interfaceOf

/-- The speed of a native speed code; everything from 5 Gbit/s on is one speed. -/
def speedOfCode (code : Int) : Speed :=
  if code = 1 then .low
  else if code = 2 then .full
  else if code = 3 then .high
  else if code = 4 ∨ code = 5 then .super
  else .unknown

end UsbPipe
