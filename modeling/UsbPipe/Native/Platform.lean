/-
The native USB layer as the rest of the library sees it.

* `Platform`: the calls of a native layer with state `σ`, device objects `δ` and open
  handles `η`.  A call returns its result and the state after it; looking at a
  device changes nothing.
* Device objects are counted: `devices` hands out one reference on each, `retain`
  takes one more and `drop` gives one back.
* `Bytes`: the contents of a transfer; `usualRoom`: how many of them there is room for.
-/
import UsbPipe.Native.Error

namespace UsbPipe

open Usb

/-- The contents of a transfer. -/
abbrev Bytes := List UInt8

/-- The most bytes that a system of 32 GiB has room for at once. -/
def usualRoom : Nat := 0x7ffffffff

/-- A native USB layer.  A zero timeout of a transfer waits forever. -/
class Platform (σ : Type) (δ η : outParam Type) where
  /-- Create the native context. -/
  init : σ → Except NativeError Unit × σ
  /-- Destroy the native context. -/
  teardown : σ → σ
  /-- The attached devices, with one reference on each. -/
  devices : σ → Except NativeError (List δ) × σ
  /-- One more reference on a device. -/
  retain : δ → σ → σ
  /-- One reference less on a device. -/
  drop : δ → σ → σ
  /-- Bus and address of a device. -/
  key : σ → δ → DeviceKey
  /-- Whether two values are the same native device. -/
  same : σ → δ → δ → Bool
  /-- The port a device is plugged into. -/
  port : σ → δ → UInt8
  /-- The speed of a device. -/
  speed : σ → δ → Speed
  /-- The device descriptor. -/
  deviceDescriptor : σ → δ → Except NativeError DeviceDescriptor
  /-- The configuration descriptor with an index. -/
  configDescriptor : σ → δ → Nat → Except NativeError ConfigDescriptor
  /-- A handle on a device. -/
  openDevice : δ → σ → Except NativeError η × σ
  /-- Give a handle back. -/
  closeHandle : η → σ → σ
  /-- Let the layer detach kernel drivers by itself. -/
  autoDetach : η → σ → Except NativeError Unit × σ
  /-- Detach the kernel driver of an interface. -/
  detach : η → UInt8 → σ → Except NativeError Unit × σ
  /-- Claim an interface. -/
  claim : η → UInt8 → σ → Except NativeError Unit × σ
  /-- Release an interface. -/
  release : η → UInt8 → σ → Except NativeError Unit × σ
  /-- Send bytes to an OUT endpoint; the number sent. -/
  write : η → RawKind → UInt8 → Bytes → Duration → σ → Except NativeError Nat × σ
  /-- Receive from an IN endpoint at most a number of bytes. -/
  read : η → RawKind → UInt8 → Nat → Duration → σ → Except NativeError Bytes × σ

end UsbPipe
