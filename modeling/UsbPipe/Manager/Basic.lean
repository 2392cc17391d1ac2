/-
The manager of a native USB layer: its pool of devices and its open channels.

* `Manager`: the native layer, whether it is initialised, whether it is being shut
  down, the pool, and the table of channels.
* `Channel`: an open raw interface.  It has a native handle and a hold on its
  device until it is closed.
* `Manager.ready`: the entry to every scan and open, which initialises the native
  layer on first use and refuses new work once shutdown has begun.
* `Manager.retain`, `Manager.release`: the pool's operations, which keep the native
  reference counts in step and write the event log.
-/
import UsbPipe.Event
import UsbPipe.Native.Platform
import UsbPipe.Pool

namespace UsbPipe

open Usb

/-! ### The state -/

/-- An open raw interface, or one that was open. -/
structure Channel (δ η : Type) where
  id : Nat
  info : RawInterface
  native? : Option η
  hold? : Option (Hold δ)
  readTimeout : Option Duration := none
  writeTimeout : Option Duration := none

/-- Whether a channel was closed. -/
def Channel.isClosed {δ η : Type} (c : Channel δ η) : Bool := c.native?.isNone

/-- A channel in a given state, as it is shown to people. -/
def Channel.textIn {δ η : Type} (c : Channel δ η) (state : String) : String :=
  "DeviceHandle \x7b path: \"" ++ c.info.path ++ "\", interface: "
    ++ toString c.info.interface.toNat ++ ", state: \"" ++ state ++ "\" \x7d"

/-- A channel that no transfer is using, as it is shown to people. -/
def Channel.text {δ η : Type} (c : Channel δ η) : String :=
  c.textIn (if c.isClosed then "closed" else "open")

/-- A channel that a transfer is using, as it is shown to people. -/
def Channel.busyText {δ η : Type} (c : Channel δ η) : String := c.textIn "busy"

/-- A native layer with everything that was built on it.  `registered` holds the ids
of the channels that keep a shutdown waiting. -/
structure Manager (σ δ η : Type) where
  platform : σ
  pool : Pool δ := {}
  initialized : Bool := false
  shuttingDown : Bool := false
  registered : List Nat := []
  lastId : Nat := 0
  channels : List (Channel δ η) := []
  events : List Event := []

namespace Manager

variable {σ δ η : Type}

/-- A manager of a native layer that has not been touched yet. -/
def ofPlatform (platform : σ) : Manager σ δ η := { platform := platform }

/-- The channel with an id. -/
def channel? (m : Manager σ δ η) (id : Nat) : Option (Channel δ η) :=
  m.channels.find? (·.id == id)

/-- The number of channels that are open. -/
def openChannels (m : Manager σ δ η) : Nat := m.registered.length

/-- The manager with the channel `id` changed by `f`. -/
def updateChannel (m : Manager σ δ η) (id : Nat) (f : Channel δ η → Channel δ η) :
    Manager σ δ η :=
  { m with channels := m.channels.map fun c => if c.id = id then f c else c }

/-- One event more. -/
def log (m : Manager σ δ η) (level : Level) (message : String) : Manager σ δ η :=
  { m with events := m.events ++ [⟨level, message⟩] }

/-- A native call that changes the native layer. -/
def native {α : Type} (m : Manager σ δ η) (call : σ → Except NativeError α × σ) :
    Except NativeError α × Manager σ δ η :=
  let (result, platform) := call m.platform
  (result, { m with platform := platform })

variable [Platform σ δ η]

/-! ### Entry -/

/-- The entry to a scan or an open: refused during shutdown, and the first one
initialises the native layer. -/
def ready (m : Manager σ δ η) : Except UsbError Unit × Manager σ δ η :=
  if m.shuttingDown then (.error .shuttingDown, m)
  else if m.initialized then (.ok (), m)
  else
    match m.native Platform.init with
    | (.error e, m) => (.error (.init e), m)
    | (.ok (), m) =>
      (.ok (), { m with initialized := true }.log .debug "Native USB context initialized")

/-! ### Holds -/

/-- A hold on a device.  A fresh record takes a native reference of its own. -/
def retain (m : Manager σ δ η) (key : DeviceKey) (device : δ) : Hold δ × Manager σ δ η :=
  let r := m.pool.retain (Platform.same m.platform) key device
  let m := { m with pool := r.pool }
  let m := if r.origin = .shared then m
    else { m with platform := Platform.retain device m.platform }
  let m := if r.origin = .replaced then
      m.log .debug ("Device " ++ key.text ++ " was replaced, retaining the new one separately")
    else m
  (r.hold, m.log .trace ("Retained device " ++ key.text ++ " (refs=" ++ toString r.refs ++ ")"))

/-- One hold less.  The last hold on a device gives the native reference back. -/
def release (m : Manager σ δ η) (h : Hold δ) : Manager σ δ η :=
  let r := m.pool.release h
  let m := { m with pool := r.pool }
  let m := match r.left? with
    | some left =>
      m.log .trace ("Released device " ++ h.key.text ++ " (refs=" ++ toString left ++ ")")
    | none => m
  match r.dropped? with
  | some device => { m with platform := Platform.drop device m.platform }
  | none => m

/-- Several holds less, in order. -/
def releaseAll (m : Manager σ δ η) (hs : List (Hold δ)) : Manager σ δ η := hs.foldl release m

end Manager

end UsbPipe
