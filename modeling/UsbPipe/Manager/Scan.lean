/-
Scanning for raw interfaces.

A scan walks the devices in the order of the native list.  It reads the descriptor
of each; a device that the filter keeps out or that is a human interface device is
passed over before any of its configurations is read.  Of the others it walks
configurations, interfaces and alternate settings in order, and every setting with
a pipe pair that is not of the human interface class becomes a record with a hold
on its device.  The first read that fails ends the scan; what was found stays found.

* `Manager.scan`: the whole scan, `Scan` its result.
* `Manager.enumerate`: a scan that fails as a whole if a read failed.
* `Found`: a raw interface and the hold that keeps its device.
-/
import UsbPipe.Manager.Basic
import UsbPipe.Usb.Filter

namespace UsbPipe

open Usb

/-- A raw interface that was found, with the hold on its device. -/
structure Found (δ : Type) where
  info : RawInterface
  hold : Hold δ

/-- What a scan found, and the error that ended it early. -/
structure Scan (δ : Type) where
  found : List (Found δ)
  error? : Option UsbError

/-- What is known about a device once its descriptor has been read. -/
structure Candidate (δ : Type) where
  device : δ
  descriptor : DeviceDescriptor
  key : DeviceKey
  port : UInt8
  speed : Speed

/-- The raw interface of an alternate setting: none of the human interface class, and
none without a pipe pair. -/
def Candidate.rawInterface? {δ : Type} (c : Candidate δ) (alt : AltSetting) :
    Option RawInterface :=
  if alt.cls = .hid then none
  else (PipePair.select? alt.endpoints).map fun pair =>
    .ofSetting c.descriptor c.key c.port c.speed alt pair

namespace Manager

variable {σ δ η : Type} [Platform σ δ η]

/-- A record of one raw interface, with a hold on its device. -/
def recordMatch (m : Manager σ δ η) (c : Candidate δ) (info : RawInterface) :
    Found δ × Manager σ δ η :=
  let (hold, m) := (m.log .debug ("Matched " ++ info.display)).retain c.key c.device
  (⟨info, hold⟩, m)

/-- The records of alternate settings, in order. -/
def scanSettings (c : Candidate δ) :
    List AltSetting → Manager σ δ η → List (Found δ) × Manager σ δ η
  | [], m => ([], m)
  | alt :: alts, m =>
    match c.rawInterface? alt with
    | none => scanSettings c alts m
    | some info =>
      let (found, m) := m.recordMatch c info
      let (rest, m) := scanSettings c alts m
      (found :: rest, m)

/-- The records of the configurations with given indices; `index` is that of the device. -/
def scanConfigs (c : Candidate δ) (index : Nat) :
    List Nat → Manager σ δ η → Scan δ × Manager σ δ η
  | [], m => (⟨[], none⟩, m)
  | config :: configs, m =>
    match Platform.configDescriptor m.platform c.device config with
    | .error e => (⟨[], some (.discovery (.config index config) e)⟩, m)
    | .ok descriptor =>
      let (found, m) := scanSettings c descriptor.altSettings m
      let (rest, m) := scanConfigs c index configs m
      (⟨found ++ rest.found, rest.error?⟩, m)

/-- The records of one device whose descriptor has been read. -/
def scanDevice (filter : Filter) (index : Nat) (device : δ) (descriptor : DeviceDescriptor)
    (m : Manager σ δ η) : Scan δ × Manager σ δ η :=
  if !filter.admits descriptor.vendorId descriptor.productId then (⟨[], none⟩, m)
  else if descriptor.cls = .hid then
    (⟨[], none⟩, m.log .trace ("Skipping HID device " ++ Text.hex4 descriptor.vendorId ++ ":"
      ++ Text.hex4 descriptor.productId))
  else
    scanConfigs
      { device := device
        descriptor := descriptor
        key := Platform.key m.platform device
        port := Platform.port m.platform device
        speed := Platform.speed m.platform device }
      index (List.range descriptor.numConfigurations.toNat) m

/-- The records of devices, of which the first has the index `index`. -/
def scanDevices (filter : Filter) (index : Nat) :
    List δ → Manager σ δ η → Scan δ × Manager σ δ η
  | [], m => (⟨[], none⟩, m)
  | device :: devices, m =>
    match Platform.deviceDescriptor m.platform device with
    | .error e => (⟨[], some (.discovery (.descriptor index) e)⟩, m)
    | .ok descriptor =>
      match scanDevice filter index device descriptor m with
      | (⟨found, some e⟩, m) => (⟨found, some e⟩, m)
      | (⟨found, none⟩, m) =>
        let (rest, m) := scanDevices filter (index + 1) devices m
        (⟨found ++ rest.found, rest.error?⟩, m)

/-- The references of the native list go back. -/
def dropDevices (devices : List δ) (m : Manager σ δ η) : Manager σ δ η :=
  { m with platform := devices.foldl (fun p d => Platform.drop d p) m.platform }

/-- A scan of the attached devices on an initialised native layer. -/
def walk (m : Manager σ δ η) (filter : Filter) : Scan δ × Manager σ δ η :=
  let (scan, m) : Scan δ × Manager σ δ η := match m.native Platform.devices with
    | (.error e, m) => (⟨[], some (.discovery .listing e)⟩, m)
    | (.ok devices, m) =>
      let (scan, m) := scanDevices filter 0 devices m
      (scan, dropDevices devices m)
  (scan, m.log .debug ("Scan matched " ++ toString scan.found.length ++ " interface(s)"
    ++ (if scan.error?.isSome then " before failing" else "")))

/-- A scan that keeps what it found before any failure. -/
def scan (m : Manager σ δ η) (filter : Filter) : Scan δ × Manager σ δ η :=
  match m.ready with
  | (.error e, m) => (⟨[], some e⟩, m)
  | (.ok (), m) => m.walk filter

/-- Records that are not needed, released in order. -/
def discard (m : Manager σ δ η) (found : List (Found δ)) : Manager σ δ η :=
  m.releaseAll (found.map Found.hold)

/-- The records of a complete scan; those of an incomplete one are released. -/
def complete (result : Scan δ × Manager σ δ η) :
    Except UsbError (List (Found δ)) × Manager σ δ η :=
  match result with
  | (⟨found, none⟩, m) => (.ok found, m)
  | (⟨found, some e⟩, m) => (.error e, m.discard found)

/-- A scan that fails as a whole if a read failed. -/
def enumerate (m : Manager σ δ η) (filter : Filter) :
    Except UsbError (List (Found δ)) × Manager σ δ η :=
  complete (m.scan filter)

end Manager

end UsbPipe
