/-
Opening and closing channels.

Opening scans again with the ids of the wanted interface, keeps the first record on
its port and with its interface number and releases all others.  Then the device is
opened, kernel drivers are detached, the interface is claimed and the channel is
registered.  A failure at any step undoes the steps before it.

* `Manager.resolve`, `Manager.prepare`, `Manager.acquire`: the steps up to the claim.
* `Manager.enroll`: registration, which is refused once shutdown has begun.
* `Manager.openWith`, `Manager.open`: all of it; `openWith` lets something else
  happen to the manager while the claim is under way.
* `Manager.closeNative`, `Manager.deregister`, `Manager.close`: closing, which always
  completes and reports a failed release afterwards.
* `Manager.dropChannel`: a channel that goes out of use is closed.
-/
import UsbPipe.Manager.Scan

namespace UsbPipe

open Usb

/-- A claimed interface that is not registered yet. -/
structure Claimed (δ η : Type) where
  info : RawInterface
  hold : Hold δ
  native : η

/-- A new channel: its id, and the raw interface it is open on. -/
structure Opened where
  id : Nat
  info : RawInterface
  deriving DecidableEq

namespace Manager

variable {σ δ η : Type} [Platform σ δ η]

/-! ### Finding the interface again -/

/-- The first record in the place of `info`; every other record is released. -/
def select (info : RawInterface) :
    List (Found δ) → Manager σ δ η → Option (Found δ) × Manager σ δ η
  | [], m => (none, m)
  | f :: fs, m =>
    if f.info.samePlace info then (some f, m.discard fs)
    else select info fs (m.release f.hold)

/-- The ids that a scan for `info` is limited to. -/
def idsOf (info : RawInterface) : Filter :=
  { vendorId := some info.vendorId, productId := some info.productId }

/-- The record of a new scan that agrees with `info` on port and interface number. -/
def resolve (m : Manager σ δ η) (info : RawInterface) :
    Except UsbError (Found δ) × Manager σ δ η :=
  match complete (m.walk (idsOf info)) with
  | (.error e, m) => (.error e, m)
  | (.ok found, m) =>
    match select info found m with
    | (none, m) =>
      (.error (.notFound info.vendorId info.productId info.port info.interface), m)
    | (some f, m) => (.ok f, m)

/-! ### Claiming it -/

/-- Automatic detaching, where a layer that does not support it is no failure. -/
def enableAutoDetach (m : Manager σ δ η) (handle : η) : Except UsbError Unit × Manager σ δ η :=
  match m.native (Platform.autoDetach handle) with
  | (.ok (), m) => (.ok (), m)
  | (.error .notSupported, m) =>
    (.ok (), m.log .debug "Kernel driver auto-detach not supported on this platform")
  | (.error e, m) => (.error (.autoDetach e), m)

/-- Detaching the kernel driver, where it is no failure that there is none. -/
def detachDriver (m : Manager σ δ η) (handle : η) (interface : UInt8) :
    Except UsbError Unit × Manager σ δ η :=
  match m.native (Platform.detach handle interface) with
  | (.ok (), m) =>
    (.ok (), m.log .debug ("Detached kernel driver from interface " ++ toString interface.toNat))
  | (.error .notSupported, m) | (.error .notFound, m) => (.ok (), m)
  | (.error e, m) => (.error (.detach interface e), m)

/-- Claiming the interface; `meanwhile` happens to the manager during the native call. -/
def claimInterface (m : Manager σ δ η) (meanwhile : Manager σ δ η → Manager σ δ η)
    (handle : η) (interface : UInt8) : Except UsbError Unit × Manager σ δ η :=
  let (result, m) := m.native (Platform.claim handle interface)
  (result.mapError (.claim interface), meanwhile m)

/-- Drivers off and interface claimed, or the error of the first step that failed. -/
def prepare (m : Manager σ δ η) (meanwhile : Manager σ δ η → Manager σ δ η) (handle : η)
    (interface : UInt8) : Except UsbError Unit × Manager σ δ η :=
  match m.enableAutoDetach handle with
  | (.error e, m) => (.error e, m)
  | (.ok (), m) =>
    match m.detachDriver handle interface with
    | (.error e, m) => (.error e, m)
    | (.ok (), m) => m.claimInterface meanwhile handle interface

/-- A handle given back to the native layer. -/
def closeHandle (m : Manager σ δ η) (handle : η) : Manager σ δ η :=
  { m with platform := Platform.closeHandle handle m.platform }

/-- The interface of a record opened and claimed; after a failure neither handle nor
hold is left. -/
def claimFound (m : Manager σ δ η) (meanwhile : Manager σ δ η → Manager σ δ η)
    (f : Found δ) : Except UsbError (Claimed δ η) × Manager σ δ η :=
  match m.native (Platform.openDevice f.hold.device) with
  | (.error e, m) => (.error (.openDevice e), m.release f.hold)
  | (.ok handle, m) =>
    let m := m.log .debug ("Opened native handle for " ++ f.info.path)
    match m.prepare meanwhile handle f.info.interface with
    | (.error e, m) => (.error e, (m.closeHandle handle).release f.hold)
    | (.ok (), m) => (.ok ⟨f.info, f.hold, handle⟩, m)

/-- All steps of an open before registration. -/
def acquire (m : Manager σ δ η) (meanwhile : Manager σ δ η → Manager σ δ η)
    (info : RawInterface) : Except UsbError (Claimed δ η) × Manager σ δ η :=
  match m.ready with
  | (.error e, m) => (.error e, m)
  | (.ok (), m) =>
    match m.resolve info with
    | (.error e, m) => (.error e, m)
    | (.ok f, m) => m.claimFound meanwhile f

/-! ### Registration -/

/-- A new id among the open channels, refused once shutdown has begun. -/
def register (m : Manager σ δ η) : Except UsbError Nat × Manager σ δ η :=
  if m.shuttingDown then (.error .shuttingDown, m)
  else
    (.ok (m.lastId + 1),
      { m with lastId := m.lastId + 1, registered := m.registered ++ [m.lastId + 1] })

/-- A claimed interface that is given up. -/
def abandon (m : Manager σ δ η) (c : Claimed δ η) : Manager σ δ η :=
  let (released, m) := m.native (Platform.release c.native c.info.interface)
  let m := match released with
    | .error e => m.log .debug ("Release during aborted open failed: " ++ e.message)
    | .ok () => m
  (m.closeHandle c.native).release c.hold

/-- The channel of a claimed interface under a registered id. -/
def establish (m : Manager σ δ η) (c : Claimed δ η) (id : Nat) : Manager σ δ η :=
  let m := m.log .info ("Claimed interface " ++ toString c.info.interface.toNat ++ " on "
    ++ c.info.path ++ " (in " ++ Text.hexByte c.info.reader.address ++ ", out "
    ++ Text.hexByte c.info.writer.address ++ ")")
  { m with
    channels := m.channels ++
      [{ id := id, info := c.info, native? := some c.native, hold? := some c.hold }] }

/-- Registration of a claimed interface, which is given up if that is refused. -/
def enroll (m : Manager σ δ η) (c : Claimed δ η) : Except UsbError Opened × Manager σ δ η :=
  match m.register with
  | (.error e, m) => (.error e, m.abandon c)
  | (.ok id, m) => (.ok ⟨id, c.info⟩, m.establish c id)

/-- A new channel on the interface `info` describes; `meanwhile` happens to the manager
while the interface is being claimed. -/
def openWith (m : Manager σ δ η) (meanwhile : Manager σ δ η → Manager σ δ η)
    (info : RawInterface) : Except UsbError Opened × Manager σ δ η :=
  match m.acquire meanwhile info with
  | (.error e, m) => (.error e, m)
  | (.ok c, m) => m.enroll c

/-- A new channel on the interface `info` describes. -/
def «open» (m : Manager σ δ η) (info : RawInterface) : Except UsbError Opened × Manager σ δ η :=
  m.openWith id info

/-! ### Closing -/

/-- The native part of a close: interface released, handle closed, hold released.  The
result is that of the release, and missing if the channel was closed before. -/
def closeNative (m : Manager σ δ η) (c : Channel δ η) :
    Option (Except NativeError Unit) × Manager σ δ η :=
  match c.native? with
  | none => (none, m)
  | some handle =>
    let m := m.updateChannel c.id fun c => { c with native? := none, hold? := none }
    let (released, m) := m.native (Platform.release handle c.info.interface)
    let m := m.closeHandle handle
    (some released, m.releaseAll c.hold?.toList)

/-- A channel that keeps shutdown waiting no longer. -/
def deregister (m : Manager σ δ η) (id : Nat) : Manager σ δ η :=
  { m with registered := m.registered.filter (· != id) }

/-- Closing a channel.  Closing it again changes nothing. -/
def closeChannel (m : Manager σ δ η) (c : Channel δ η) : Except UsbError Unit × Manager σ δ η :=
  match m.closeNative c with
  | (none, m) => (.ok (), m)
  | (some released, m) =>
    (released.mapError (.release c.info.interface),
      (m.deregister c.id).log .info
        ("Closed " ++ c.info.path ++ " interface " ++ toString c.info.interface.toNat))

/-- Closing the channel with an id; one that is gone is closed. -/
def close (m : Manager σ δ η) (id : Nat) : Except UsbError Unit × Manager σ δ η :=
  match m.channel? id with
  | none => (.ok (), m)
  | some c => m.closeChannel c

/-- A channel that goes out of use: closed, and off the table. -/
def dropChannel (m : Manager σ δ η) (id : Nat) : Manager σ δ η :=
  match m.channel? id with
  | none => m
  | some c =>
    let (result, m) := m.closeChannel c
    let m := match result with
      | .error e => m.log .warn ("Error closing " ++ c.info.path ++ " on drop: " ++ e.message)
      | .ok () => m
    { m with channels := m.channels.filter (·.id != id) }

end Manager

end UsbPipe
