/-
Failures of the native USB layer and of the operations built on it.

* `NativeError`: the failures a native call can report, with `message`.
* `UsbError`: what can go wrong with a scan, an open channel or a shutdown, with
  `message`, the native failure behind it (`source?`) and `isTimeout`.
-/
import UsbPipe.Duration
import UsbPipe.Usb.RawInterface

namespace UsbPipe

open Usb Text

/-- A failure reported by a native call. -/
inductive NativeError where
  | io
  | invalidParam
  | access
  | noDevice
  | notFound
  | busy
  | timeout
  | overflow
  | pipe
  | interrupted
  | noMem
  | notSupported
  | badDescriptor
  | other
  deriving DecidableEq

namespace NativeError

/-- The failure in words. -/
def message : NativeError → String
  | io => "Input/Output Error"
  | invalidParam => "Invalid parameter"
  | access => "Access denied (insufficient permissions)"
  | noDevice => "No such device (it may have been disconnected)"
  | notFound => "Entity not found"
  | busy => "Resource busy"
  | timeout => "Operation timed out"
  | overflow => "Overflow"
  | pipe => "Pipe error"
  | interrupted => "System call interrupted (perhaps due to signal)"
  | noMem => "Insufficient memory"
  | notSupported => "Operation not supported or unimplemented on this platform"
  | badDescriptor => "Malformed descriptor"
  | other => "Other error"

end NativeError

/-- The read during which a scan failed. -/
inductive ScanStage where
  | listing
  | descriptor (device : Nat)
  | config (device config : Nat)
  deriving DecidableEq

/-- The read in words. -/
def ScanStage.text : ScanStage → String
  | listing => "listing devices"
  | descriptor device => "device " ++ toString device ++ " descriptor"
  | config device index => "device " ++ toString device ++ " config " ++ toString index

/-- What can go wrong with a scan, a channel or a shutdown. -/
inductive UsbError where
  | init (source : NativeError)
  | discovery (stage : ScanStage) (source : NativeError)
  | notFound (vendorId productId : UInt16) (port interface : UInt8)
  | openDevice (source : NativeError)
  | autoDetach (source : NativeError)
  | detach (interface : UInt8) (source : NativeError)
  | claim (interface : UInt8) (source : NativeError)
  | release (interface : UInt8) (source : NativeError)
  | unsupportedTransfer (direction : Direction) (transferType : TransferType)
  | timeout (endpoint : UInt8) (after : Duration)
  | transfer (endpoint : UInt8) (source : NativeError)
  | closed
  | shuttingDown
  | handlesOutstanding (count : Nat)
  deriving DecidableEq

namespace UsbError

/-- The native failure behind the error. -/
def source? : UsbError → Option NativeError
  | init source | discovery _ source | openDevice source | autoDetach source | detach _ source
  | claim _ source | release _ source | transfer _ source => some source
  | _ => none

/-- Whether only a timeout expired, which leaves the channel usable. -/
def isTimeout : UsbError → Bool
  | timeout _ _ => true
  | _ => false

/-- The error in words. -/
def message : UsbError → String
  | init source => "Failed to initialize USB context: " ++ source.message
  | discovery stage source => "Device discovery failed (" ++ stage.text ++ "): " ++ source.message
  | notFound vendorId productId port interface =>
    "Device " ++ hex4 vendorId ++ ":" ++ hex4 productId ++ " port " ++ toString port.toNat
      ++ " interface " ++ toString interface.toNat ++ " not found"
  | openDevice source => "Failed to open device: " ++ source.message
  | autoDetach source => "Failed to enable kernel driver auto-detach: " ++ source.message
  | detach interface source =>
    "Failed to detach kernel driver from interface " ++ toString interface.toNat ++ ": "
      ++ source.message
  | claim interface source =>
    "Failed to claim interface " ++ toString interface.toNat ++ ": " ++ source.message
  | release interface source =>
    "Failed to release interface " ++ toString interface.toNat ++ ": " ++ source.message
  | unsupportedTransfer direction transferType =>
    "Unsupported " ++ direction.text ++ " transfer type: " ++ transferType.text
  | timeout endpoint after =>
    "Transfer on endpoint " ++ hexByte endpoint ++ " timed out after " ++ after.text
  | transfer endpoint source =>
    "Transfer on endpoint " ++ hexByte endpoint ++ " failed: " ++ source.message
  | closed => "Device handle is closed"
  | shuttingDown => "USB context is shutting down"
  | handlesOutstanding count => toString count ++ " device handle(s) still open"

end UsbError

end UsbPipe
