/-
Sessions on a host with a native USB library.

* `HostStep`, `HostReply`: what can be asked for and what comes back.
* `HostSession.step`: one step, which also starts the record of native calls afresh.
* `HostSession.finish`: the end of a session, when the channels are closed and the
  library is given up.
-/
import UsbPipe.Host.Basic
import UsbPipe.Manager.Shutdown
import UsbPipe.Session

namespace UsbPipe

open Usb

/-- One step of a session on a host. -/
inductive HostStep where
  | init
  | teardown
  | dump
  | scan (filter : Filter)
  | open (index : Nat) (name : String)
  | setTimeouts (name : String) (read write : Option Duration)
  | write (name : String) (data : Bytes)
  | read (name : String) (length : Nat)
  | close (name : String)
  | dropChannel (name : String)
  | shutdownNow

/-- What a look at one device shows. -/
structure DeviceDump where
  key : DeviceKey
  port : UInt8
  speed : Speed
  device : Except NativeError DeviceDescriptor
  configs : List (Except NativeError ConfigDescriptor)
  sameAsFirst : Bool

/-- What a step comes back with. -/
inductive HostReply where
  | ok
  | flag (value : Bool)
  | noRecord
  | noChannel
  | usb (error : UsbError)
  | native (error : NativeError)
  | dump (devices : List DeviceDump)
  | scan (found : List RawInterface) (error? : Option UsbError) (pool outstanding : Nat)
  | opened (info : RawInterface)
  | written (count : Nat)
  | read (result : ReadResult)

/-- A session on a host; the raw interfaces of the last scan can be opened. -/
structure HostSession extends Session Host HostRef Nat where
  lastScan : List RawInterface := []

namespace HostSession

/-- A session on a host whose library has not been used yet. -/
def on (host : Host) : HostSession := { manager := .ofPlatform host }

/-- The session with another manager. -/
def setManager (s : HostSession) (m : Manager Host HostRef Nat) : HostSession :=
  { s with manager := m }

/-- The session with its named part changed. -/
def withSession (s : HostSession) (t : Session Host HostRef Nat) : HostSession :=
  { s with toSession := t }

/-- What a device shows; configurations are read only after the device descriptor. -/
def dumpDevice (h : Host) (first : HostRef) (r : HostRef) : DeviceDump :=
  let device := Platform.deviceDescriptor h r
  let count := match device with
    | .ok d => d.numConfigurations.toNat
    | .error _ => 0
  { key := Platform.key h r
    port := Platform.port h r
    speed := Platform.speed h r
    device := device
    configs := (List.range count).map (Platform.configDescriptor h r)
    sameAsFirst := Platform.same h first r }

/-- A look at every device. -/
def dump (m : Manager Host HostRef Nat) :
    Except NativeError (List DeviceDump) × Manager Host HostRef Nat :=
  match m.native Platform.devices with
  | (.error e, m) => (.error e, m)
  | (.ok refs, m) =>
    let devices := match refs with
      | [] => []
      | first :: _ => refs.map (dumpDevice m.platform first)
    (.ok devices, Manager.dropDevices refs m)

/-- The reply of an operation that gives nothing but may fail. -/
def replyUnit : Except UsbError Unit → HostReply
  | .ok () => .ok
  | .error e => .usb e

/-- A step that needs a channel. -/
def onChannel (s : HostSession) (name : String)
    (use : Channel HostRef Nat → HostReply × HostSession) : HostReply × HostSession :=
  match s.toSession.channel? name with
  | none => (.noChannel, s)
  | some c => use c

/-- One step on a session whose record of calls is empty. -/
def act (s : HostSession) : HostStep → HostReply × HostSession
  | .init =>
    match s.manager.native Platform.init with
    | (.error e, m) => (.native e, s.setManager m)
    | (.ok (), m) => (.ok, s.setManager m)
  | .teardown =>
    (.ok, s.setManager
      { s.manager with platform := Platform.teardown s.manager.platform })
  | .dump =>
    match dump s.manager with
    | (.error e, m) => (.native e, s.setManager m)
    | (.ok devices, m) => (.dump devices, s.setManager m)
  | .scan filter =>
    let (scan, m) := s.manager.scan filter
    let infos := scan.found.map Found.info
    (.scan infos scan.error? m.pool.size m.pool.outstanding,
      { s.setManager (m.discard scan.found) with lastScan := infos })
  | .open index name =>
    match s.lastScan[index]? with
    | none => (.noRecord, s)
    | some info =>
      match s.manager.open info with
      | (.error e, m) => (.usb e, s.setManager m)
      | (.ok c, m) =>
        (.opened c.info, s.withSession ((s.toSession.withManager m).keepChannel name c))
  | .setTimeouts name read write =>
    s.onChannel name fun c =>
      (.ok, s.setManager ((s.manager.setReadTimeout c.id read).setWriteTimeout c.id write))
  | .write name data =>
    s.onChannel name fun c =>
      match s.manager.write c.id data with
      | (.error e, m) => (.usb e, s.setManager m)
      | (.ok n, m) => (.written n, s.setManager m)
  | .read name length =>
    s.onChannel name fun c =>
      match s.manager.read c.id (List.replicate length 0xee) with
      | (.error e, _, m) => (.usb e, s.setManager m)
      | (.ok n, buffer, m) => (.read ⟨n, buffer⟩, s.setManager m)
  | .close name =>
    s.onChannel name fun c =>
      let (result, m) := s.manager.close c.id
      (replyUnit result, s.setManager m)
  | .dropChannel name =>
    let (existed, t) := s.toSession.dropChannel name
    (.flag existed, s.withSession t)
  | .shutdownNow =>
    let (result, m) := s.manager.shutdownNow
    (replyUnit result, s.setManager m)

/-- The session with an empty record of calls. -/
def unrecorded (s : HostSession) : HostSession :=
  s.setManager { s.manager with platform := { s.manager.platform with calls := [] } }

/-- One step, with a record of the calls it made. -/
def step (s : HostSession) (step : HostStep) : HostReply × HostSession := s.unrecorded.act step

/-- The end: channels closed in the order of their names, and the library given up. -/
def finish (s : HostSession) : HostSession :=
  let s := s.unrecorded
  let s := s.withSession s.toSession.dropAll
  s.setManager { s.manager with platform := Platform.teardown s.manager.platform }

end HostSession

end UsbPipe
