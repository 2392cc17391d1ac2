/-
A raw interface: an alternate setting with a pipe pair, and where it was found.

* `DeviceKey`: the bus and address of a device.
* `RawInterface`: the record of one matched alternate setting.
* `RawInterface.describe`, `RawInterface.display`: the two lines in which a raw
  interface is shown.
* `RawInterface.samePlace`: agreement on port and interface number, by which a
  record is found again in a later scan.
-/
import UsbPipe.Text.Digits
import UsbPipe.Usb.PipePair

namespace UsbPipe.Usb

open Text

/-- The bus and the address of a device, which stay the same while it is plugged in. -/
structure DeviceKey where
  busNumber : UInt8
  address : UInt8
  deriving DecidableEq

/-- Bus and address with three digits each. -/
def DeviceKey.text (k : DeviceKey) : String :=
  padded 3 k.busNumber.toNat ++ ":" ++ padded 3 k.address.toNat

/-- The key with its field names. -/
def DeviceKey.fields (k : DeviceKey) : String :=
  "DeviceKey \x7b bus_number: " ++ toString k.busNumber.toNat ++ ", address: "
    ++ toString k.address.toNat ++ " \x7d"

/-- A matched alternate setting of a device. -/
structure RawInterface where
  path : String
  vendorId : UInt16
  productId : UInt16
  cls : Class
  subClass : Class
  protocol : Protocol
  interface : UInt8
  alternateSetting : UInt8
  interfaceClass : Class
  interfaceSubClass : Class
  interfaceProtocol : Protocol
  reader : EndpointInfo
  writer : EndpointInfo
  busNumber : UInt8
  address : UInt8
  port : UInt8
  speed : Speed
  deriving DecidableEq

namespace RawInterface

/-- Vendor, product and port: the path of every interface of a device on that port. -/
def pathOf (vendorId productId : UInt16) (port : UInt8) : String :=
  hex4 vendorId ++ ":" ++ hex4 productId ++ ":" ++ padded 2 port.toNat

/-- The key of the device the interface was found on. -/
def key (i : RawInterface) : DeviceKey := ⟨i.busNumber, i.address⟩

/-- Agreement on port and interface number. -/
def samePlace (a b : RawInterface) : Bool :=
  a.port == b.port && a.interface == b.interface

/-- Ids and class; a device that leaves its class to its interfaces shows that of
the interface. -/
def describe (i : RawInterface) : String :=
  let (cls, subClass, protocol) :=
    if i.cls = .perInterface then (i.interfaceClass, i.interfaceSubClass, i.interfaceProtocol)
    else (i.cls, i.subClass, i.protocol)
  hex4 i.vendorId ++ ":" ++ hex4 i.productId ++ " " ++ cls.text ++ " ("
    ++ toString subClass.code.toNat ++ ") " ++ protocol.text

/-- Path, place on the bus, interface and endpoints. -/
def display (i : RawInterface) : String :=
  i.path ++ " bus " ++ padded 3 i.busNumber.toNat ++ " addr " ++ padded 3 i.address.toNat
    ++ " if " ++ toString i.interface.toNat ++ " alt " ++ toString i.alternateSetting.toNat
    ++ " in " ++ hexByte i.reader.address ++ " (" ++ i.reader.transferType.text ++ ") out "
    ++ hexByte i.writer.address ++ " (" ++ i.writer.transferType.text ++ ")"

/-- The record of alternate setting `alt` with pipe pair `pair`, on a device with
descriptor `desc` at `key` and `port`. -/
def ofSetting (desc : DeviceDescriptor) (key : DeviceKey) (port : UInt8) (speed : Speed)
    (alt : AltSetting) (pair : PipePair) : RawInterface where
  path := pathOf desc.vendorId desc.productId port
  vendorId := desc.vendorId
  productId := desc.productId
  cls := desc.cls
  subClass := desc.subClass
  protocol := desc.protocol
  interface := alt.interfaceNumber
  alternateSetting := alt.alternateSetting
  interfaceClass := alt.cls
  interfaceSubClass := alt.subClass
  interfaceProtocol := alt.protocol
  reader := pair.reader
  writer := pair.writer
  busNumber := key.busNumber
  address := key.address
  port := port
  speed := speed

end RawInterface

end UsbPipe.Usb
