/-
Codes of the USB vocabulary, each a word with a short canonical name.

* `Class`, `DescriptorKind`, `Speed`: a byte whose `name?` comes from a table;
  a byte without a name is written as its decimal value by `text`.
* `Protocol`, `Milliamperes`: numbers without names.
* `Mask`, `Request`: the bit fields of descriptors and of control requests.
-/

namespace UsbPipe.Usb

/-- The canonical name of a code, or its decimal value if it has none. -/
def nameOrDecimal (name? : Option String) (code : UInt8) : String :=
  name?.getD (toString code.toNat)

/-! ### Classes -/

/-- A device or interface class, subclass included. -/
structure Class where
  code : UInt8
  deriving DecidableEq

namespace Class

/-- The class of a device that leaves the choice to its interfaces. -/
def perInterface : Class := ⟨0x00⟩

/-- Human interface devices, which the operating system keeps to itself. -/
def hid : Class := ⟨0x03⟩

/-- The class of interfaces without a standard protocol. -/
def vendorSpecific : Class := ⟨0xff⟩

/-- The assigned class codes and their names. -/
def names : List (UInt8 × String) :=
  [(0x00, "per-interface"), (0x01, "audio"), (0x02, "communications"),
    (0x03, "human interface device"), (0x05, "physical"), (0x06, "image"), (0x07, "printer"),
    (0x08, "mass storage"), (0x09, "hub"), (0x0a, "data"), (0x0b, "smart card"),
    (0x0d, "content security"), (0x0e, "video"), (0x0f, "personal healthcare"),
    (0x10, "audio/video"), (0x11, "billboard"), (0x12, "USB type-C bridge"),
    (0xdc, "diagnostic device"), (0xe0, "wireless"), (0xef, "miscellaneous"),
    (0xfe, "application-specific"), (0xff, "vendor-specific")]

/-- The name of an assigned class. -/
def name? (c : Class) : Option String := names.lookup c.code

/-- The class as it is shown to people. -/
def text (c : Class) : String := nameOrDecimal c.name? c.code

end Class

/-! ### Other codes -/

/-- A class-specific protocol number. -/
structure Protocol where
  code : UInt8
  deriving DecidableEq

/-- The protocol number in decimal. -/
def Protocol.text (p : Protocol) : String := toString p.code.toNat

/-- The type byte of a descriptor. -/
structure DescriptorKind where
  code : UInt8
  deriving DecidableEq

namespace DescriptorKind

/-- The descriptor types with a name. -/
def names : List (UInt8 × String) :=
  [(0x01, "device"), (0x02, "configuration"), (0x03, "string"), (0x04, "interface"),
    (0x05, "endpoint"), (0x21, "HID"), (0x22, "HID report"), (0x23, "physical"), (0x29, "hub")]

/-- The name of a known descriptor type. -/
def name? (k : DescriptorKind) : Option String := names.lookup k.code

/-- The descriptor type as it is shown to people. -/
def text (k : DescriptorKind) : String := nameOrDecimal k.name? k.code

end DescriptorKind

/-- The speed a device negotiated. -/
structure Speed where
  code : UInt8
  deriving DecidableEq

namespace Speed

/-- A speed the host does not know. -/
def unknown : Speed := ⟨0⟩

/-- 1.5 Mbit/s. -/
def low : Speed := ⟨1⟩

/-- 12 Mbit/s. -/
def full : Speed := ⟨2⟩

/-- 480 Mbit/s. -/
def high : Speed := ⟨3⟩

/-- 5 Gbit/s and above. -/
def super : Speed := ⟨4⟩

/-- The speeds with a name. -/
def names : List (UInt8 × String) :=
  [(0, "unknown"), (1, "low"), (2, "full"), (3, "high"), (4, "super")]

/-- The name of a known speed. -/
def name? (s : Speed) : Option String := names.lookup s.code

/-- The speed as it is shown to people. -/
def text (s : Speed) : String := nameOrDecimal s.name? s.code

end Speed

/-- A current in milliamperes. -/
structure Milliamperes where
  amount : UInt32
  deriving DecidableEq

/-- The current with its unit. -/
def Milliamperes.text (m : Milliamperes) : String := toString m.amount.toNat ++ "mA"

/-! ### Bit fields -/

namespace Mask

/-- Direction bit of an endpoint address, set for IN. -/
def direction : UInt8 := 0x80

/-- Number bits of an endpoint address. -/
def number : UInt8 := 0x0f

/-- Transfer type bits of endpoint attributes. -/
def transferType : UInt8 := 0x03

/-- Isochronous synchronisation bits of endpoint attributes. -/
def syncType : UInt8 := 0x0c

/-- Usage bits of endpoint attributes. -/
def usageType : UInt8 := 0x30

/-- Configuration attribute of a device with its own power supply. -/
def selfPowered : UInt8 := 0x40

/-- Configuration attribute of a device that can wake its host. -/
def remoteWakeup : UInt8 := 0x20

end Mask

namespace Request

/-- Control request towards the host. -/
def input : UInt8 := 0x80

/-- Control request towards the device. -/
def output : UInt8 := 0x00

/-- Request defined by a class. -/
def classType : UInt8 := 0x20

/-- Request defined by a vendor. -/
def vendorType : UInt8 := 0x40

/-- Request for the device as a whole. -/
def device : UInt8 := 0x00

/-- Request for an interface. -/
def interface : UInt8 := 0x01

/-- Request for an endpoint. -/
def endpoint : UInt8 := 0x02

/-- Request for something else. -/
def other : UInt8 := 0x03

end Request

end UsbPipe.Usb
