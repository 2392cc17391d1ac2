/-
The descriptor tree of a device: device, configuration, interface, alternate
setting, endpoint.

* `DeviceDescriptor`, `ConfigDescriptor`, `Interface`, `AltSetting`: the levels
  above the endpoints.
* `DeviceDescriptor.ofIds`, `ConfigDescriptor.numbered`, `AltSetting.raw`,
  `Interface.raw`: the usual values, from which test devices are put together.
-/
import UsbPipe.Usb.Endpoint

namespace UsbPipe.Usb

/-- One alternate setting of an interface. -/
structure AltSetting where
  interfaceNumber : UInt8
  alternateSetting : UInt8
  cls : Class
  subClass : Class
  protocol : Protocol
  endpoints : List EndpointDescriptor
  deriving DecidableEq

/-- An interface and its alternate settings. -/
structure Interface where
  number : UInt8
  altSettings : List AltSetting
  deriving DecidableEq

/-- One configuration of a device. -/
structure ConfigDescriptor where
  number : UInt8
  attributes : UInt8
  maxPower : Milliamperes
  interfaces : List Interface
  deriving DecidableEq

/-- What a device says about itself before any configuration is read. -/
structure DeviceDescriptor where
  usbVersion : UInt16
  cls : Class
  subClass : Class
  protocol : Protocol
  maxPacketSize0 : UInt8
  vendorId : UInt16
  productId : UInt16
  deviceVersion : UInt16
  numConfigurations : UInt8
  deriving DecidableEq

/-- A USB 2.0 device without configurations that leaves its class to its interfaces. -/
def DeviceDescriptor.ofIds (vendorId productId : UInt16) : DeviceDescriptor where
  usbVersion := 0x0200
  cls := .perInterface
  subClass := ⟨0⟩
  protocol := ⟨0⟩
  maxPacketSize0 := 64
  vendorId := vendorId
  productId := productId
  deviceVersion := 0x0100
  numConfigurations := 0

/-- A bus-powered configuration of 100 mA without interfaces. -/
def ConfigDescriptor.numbered (number : UInt8) : ConfigDescriptor :=
  ⟨number, 0x80, ⟨100⟩, []⟩

/-- Whether the device has its own power supply in this configuration. -/
def ConfigDescriptor.selfPowered (c : ConfigDescriptor) : Bool :=
  c.attributes &&& Mask.selfPowered != 0

/-- Whether the device can wake its host in this configuration. -/
def ConfigDescriptor.remoteWakeup (c : ConfigDescriptor) : Bool :=
  c.attributes &&& Mask.remoteWakeup != 0

/-- The alternate settings of a configuration in the order in which they are walked. -/
def ConfigDescriptor.altSettings (c : ConfigDescriptor) : List AltSetting :=
  c.interfaces.flatMap Interface.altSettings

/-- The vendor-specific first setting of interface `number` with endpoints given
as pairs of address and attributes. -/
def AltSetting.raw (number : UInt8) (endpoints : List (UInt8 × UInt8)) : AltSetting where
  interfaceNumber := number
  alternateSetting := 0
  cls := .vendorSpecific
  subClass := ⟨0⟩
  protocol := ⟨0⟩
  endpoints := endpoints.map fun (address, attributes) => .ofBytes address attributes

/-- A vendor-specific interface with a single setting. -/
def Interface.raw (number : UInt8) (endpoints : List (UInt8 × UInt8)) : Interface :=
  ⟨number, [.raw number endpoints]⟩

end UsbPipe.Usb
