/-
Sessions on the bench: what can be done there, step by step.

* `Step`, `Reply`: everything a user of the bench can ask for, and what comes back.
* `BenchSession.step`, `BenchSession.run`: one step, and a run of steps.
* `BenchSession.counters`: the figures that are watched after every step.
-/
import UsbPipe.Bench.Basic
import UsbPipe.Command.Basic
import UsbPipe.Manager.Shutdown
import UsbPipe.Session

namespace UsbPipe

open Usb

/-! ### Steps and replies -/

/-- A failure that the bench is asked for. -/
inductive Fault where
  | init (error? : Option NativeError)
  | listing (error? : Option NativeError)
  | autoDetach (error? : Option NativeError)
  | detach (error? : Option NativeError)
  | release (error? : Option NativeError)
  | descriptor (key : DeviceKey) (error : NativeError)
  | config (key : DeviceKey) (error : NativeError)
  | openDevice (key : DeviceKey) (error : NativeError)
  | claim (key : DeviceKey) (error : NativeError)

/-- The failures with one more asked for. -/
def Failures.add (f : Failures) : Fault → Failures
  | .init e => { f with init := e }
  | .listing e => { f with listing := e }
  | .autoDetach e => { f with autoDetach := e }
  | .detach e => { f with detach := e }
  | .release e => { f with release := e }
  | .descriptor key e => { f with descriptor := (key, e) :: f.descriptor }
  | .config key e => { f with config := (key, e) :: f.config }
  | .openDevice key e => { f with openDevice := (key, e) :: f.openDevice }
  | .claim key e => { f with claim := (key, e) :: f.claim }

/-- A slot of a set of records. -/
structure SlotName where
  set : String
  index : Nat

/-- One step of a session on the bench. -/
inductive Step where
  | attach (spec : DeviceSpec)
  | unplug (key : DeviceKey)
  | fail (fault : Fault)
  | script (pipe : EndpointKey) (behaviour : Behaviour)
  | pushRead (pipe : EndpointKey) (chunk : Bytes)
  | scan (filter : Filter) (keep? : Option String)
  | enumerate (filter : Filter) (keep? : Option String)
  | enumerateAtOnce (count : Nat) (filter : Filter)
  | showHold (slot : SlotName)
  | sameDevice (a b : SlotName)
  | nativeOpen (slot : SlotName)
  | release (slot : SlotName)
  | dropSet (set : String)
  | refs (key : DeviceKey)
  | claimed (key : DeviceKey) (interface : UInt8)
  | open (info : RawInterface) (name : String)
  | openSlot (slot : SlotName) (change : RawInterface → RawInterface) (name : String)
  | write (name : String) (data : Bytes)
  | watchedWrite (name : String) (data : Bytes)
  | read (name : String) (length : Nat)
  | setTimeouts (name : String) (read? write? : Option (Option Duration))
  | close (name : String)
  | showChannel (name : String)
  | dropChannel (name : String)
  | shutdownDuringClaim
  | shutdown (dropping : List String)
  | shutdownNow
  | transfers
  | list (filter : Filter) (json : Bool) (limit? : Option Nat)
  | exchange (request : Request) (limit? : Option Nat)

/-- A name in a step that stands for nothing. -/
inductive Missing where
  | record
  | channel

/-- What a step comes back with. -/
inductive Reply where
  | ok
  | flag (value : Bool)
  | missing (what : Missing)
  | wouldBlock
  | usb (error : UsbError)
  | native (error : NativeError)
  | scan (found : List RawInterface) (error? : Option UsbError)
  | devices (found : List RawInterface)
  | counts (perScan : List Int)
  | hold (hold : Hold Instance)
  | refs (pool live : Nat)
  | opened (info : RawInterface)
  | written (count : Nat)
  | watched (result : Except UsbError Nat) (during? : Option String)
  | read (result : ReadResult)
  | timeouts (read write : Option Duration)
  | channel (channel : Channel Instance DeviceKey)
  | transfers (log : List TransferRecord)
  | listed (count : Nat) (out : String)
  | exchanged (reply : Bytes) (out : String)
  | failed (error : CommandError) (out : String)

/-! ### Running -/

/-- A session on the bench.  With `shutdownDuringClaim` a shutdown that does not wait runs
inside the next claim, if a channel is open then. -/
structure BenchSession extends Session Bench Instance DeviceKey where
  shutdownDuringClaim : Bool := false

namespace BenchSession

/-- A session on an empty bench. -/
def fresh : BenchSession := { manager := .ofPlatform {} }

/-- The session with its named part changed. -/
def withSession (s : BenchSession) (t : Session Bench Instance DeviceKey) : BenchSession :=
  { s with toSession := t }

/-- The session with another manager. -/
def setManager (s : BenchSession) (m : Manager Bench Instance DeviceKey) : BenchSession :=
  { s with manager := m }

/-- The session with the bench arranged differently. -/
def arrange (s : BenchSession) (f : Bench → Bench) : BenchSession :=
  s.setManager { s.manager with platform := f s.manager.platform }

/-- The reply of an operation that gives nothing but may fail. -/
def replyUnit : Except UsbError Unit → Reply
  | .ok () => .ok
  | .error e => .usb e

/-- What happens while an interface is being claimed. -/
def meanwhile (s : BenchSession) (m : Manager Bench Instance DeviceKey) :
    Manager Bench Instance DeviceKey :=
  if s.shutdownDuringClaim && 0 < m.openChannels then m.shutdownNow.2 else m

/-- The session after something that may have claimed an interface, which ends the wait
for a claim. -/
def afterClaim (s : BenchSession) (m : Manager Bench Instance DeviceKey) : BenchSession :=
  { s.setManager m with
    shutdownDuringClaim := s.shutdownDuringClaim &&
      m.platform.calls.claims == s.manager.platform.calls.claims }

/-- Opening an interface and keeping the channel under a name. -/
def openAs (s : BenchSession) (info : RawInterface) (name : String) : Reply × BenchSession :=
  let (result, m) := s.manager.openWith s.meanwhile info
  let s := s.afterClaim m
  match result with
  | .error e => (.usb e, s)
  | .ok c => (.opened c.info, s.withSession (s.toSession.keepChannel name c))

/-- Enumerations by several users at once, which take turns: the number of records each
got, in ascending order, with `-1` for a failure. -/
def enumerateTurns (filter : Filter) :
    Nat → Manager Bench Instance DeviceKey → List Int × Manager Bench Instance DeviceKey
  | 0, m => ([], m)
  | n + 1, m =>
    let (result, m) := m.enumerate filter
    let (count, m) := match result with
      | .error _ => ((-1 : Int), m)
      | .ok found => ((found.length : Int), m.discard found)
    let (counts, m) := enumerateTurns filter n m
    (count :: counts, m)

/-- The session without the events of the step. -/
def silenced (s : BenchSession) : BenchSession :=
  s.setManager { s.manager with events := [] }

/-- A shutdown that waits until other users have dropped the channels `dropping`.  It
would wait forever for any other channel. -/
def shutdownDropping (s : BenchSession) (dropping : List String) : Reply × BenchSession :=
  let others := s.toSession.channels.filter fun (name, _) => !dropping.contains name
  let waits := others.any fun (name, _) =>
    ((s.toSession.channel? name).map fun c => !c.isClosed).getD false
  if waits then
    let s := s.withSession (s.toSession.dropChannels dropping)
    (.wouldBlock, if dropping.isEmpty then s else s.silenced)
  else if dropping.isEmpty then
    match s.manager.shutdown? with
    | some m => (.ok, s.setManager m)
    | none => (.wouldBlock, s)
  else
    let s := s.setManager s.manager.beginShutdown
    let s := s.withSession (s.toSession.dropChannels dropping)
    (.ok, (s.setManager s.manager.teardown).silenced)

/-- What a command came back with. -/
def replyRan {α : Type} (s : BenchSession) (ran : Ran Bench Instance DeviceKey α)
    (reply : α → String → Reply) : Reply × BenchSession :=
  (match ran.result with
    | .ok a => reply a ran.out.contents
    | .error e => .failed e ran.out.contents,
    s.afterClaim ran.manager)

/-- A step that needs a record. -/
def onSlot (s : BenchSession) (name : SlotName)
    (use : Found Instance → Reply × BenchSession) : Reply × BenchSession :=
  match s.toSession.slot? name.set name.index with
  | none => (.missing .record, s)
  | some f => use f

/-- A step that needs a channel. -/
def onChannel (s : BenchSession) (name : String)
    (use : Channel Instance DeviceKey → Reply × BenchSession) : Reply × BenchSession :=
  match s.toSession.channel? name with
  | none => (.missing .channel, s)
  | some c => use c

/-- One step. -/
def step (s : BenchSession) : Step → Reply × BenchSession
  | .attach spec => (.ok, s.arrange (·.attach spec))
  | .unplug key => (.ok, s.arrange (·.detachKey key))
  | .fail fault => (.ok, s.arrange fun b => { b with failures := b.failures.add fault })
  | .script pipe behaviour => (.ok, s.arrange (·.script pipe behaviour))
  | .pushRead pipe chunk => (.ok, s.arrange (·.pushRead pipe chunk))
  | .scan filter keep? =>
    let (scan, m) := s.manager.scan filter
    (.scan (scan.found.map Found.info) scan.error?,
      s.withSession ((s.toSession.withManager m).keepOrDiscard keep? scan.found))
  | .enumerate filter keep? =>
    match s.manager.enumerate filter with
    | (.error e, m) => (.usb e, s.setManager m)
    | (.ok found, m) =>
      (.devices (found.map Found.info),
        s.withSession ((s.toSession.withManager m).keepOrDiscard keep? found))
  | .enumerateAtOnce count filter =>
    let (counts, m) := enumerateTurns filter count s.manager
    (.counts (counts.mergeSort fun a b => decide (a ≤ b)), (s.setManager m).silenced)
  | .showHold slot => s.onSlot slot fun f => (.hold f.hold, s)
  | .sameDevice a b =>
    s.onSlot a fun f => s.onSlot b fun g =>
      (.flag (Platform.same s.manager.platform f.hold.device g.hold.device), s)
  | .nativeOpen slot =>
    s.onSlot slot fun f =>
      match s.manager.native (Platform.openDevice f.hold.device) with
      | (.error e, m) => (.native e, s.setManager m)
      | (.ok handle, m) => (.ok, s.setManager (m.closeHandle handle))
  | .release slot =>
    s.onSlot slot fun f => (.ok, s.withSession (s.toSession.releaseSlot slot.set slot.index f))
  | .dropSet set =>
    let (existed, t) := s.toSession.dropSet set
    (.flag existed, s.withSession t)
  | .refs key => (.refs (s.manager.pool.refs key) (s.manager.platform.liveRefs key), s)
  | .claimed key interface => (.flag (s.manager.platform.isClaimed key interface), s)
  | .open info name => s.openAs info name
  | .openSlot slot change name => s.onSlot slot fun f => s.openAs (change f.info) name
  | .write name data =>
    s.onChannel name fun c =>
      match s.manager.write c.id data with
      | (.error e, m) => (.usb e, s.setManager m)
      | (.ok n, m) => (.written n, s.setManager m)
  | .watchedWrite name data =>
    s.onChannel name fun c =>
      let (result, m) := s.manager.write c.id data
      let ran := m.platform.transfers.length != s.manager.platform.transfers.length
      (.watched result (if ran then some c.busyText else none), s.setManager m)
  | .read name length =>
    s.onChannel name fun c =>
      match s.manager.read c.id (List.replicate length 0xee) with
      | (.error e, _, m) => (.usb e, s.setManager m)
      | (.ok n, buffer, m) => (.read ⟨n, buffer⟩, s.setManager m)
  | .setTimeouts name read? write? =>
    s.onChannel name fun c =>
      let m := match read? with
        | some t => s.manager.setReadTimeout c.id t
        | none => s.manager
      let m := match write? with
        | some t => m.setWriteTimeout c.id t
        | none => m
      (.timeouts (read?.getD c.readTimeout) (write?.getD c.writeTimeout), s.setManager m)
  | .close name =>
    s.onChannel name fun c =>
      let (result, m) := s.manager.close c.id
      (replyUnit result, s.setManager m)
  | .showChannel name => s.onChannel name fun c => (.channel c, s)
  | .dropChannel name =>
    let (existed, t) := s.toSession.dropChannel name
    (.flag existed, s.withSession t)
  | .shutdownDuringClaim => (.ok, { s with shutdownDuringClaim := true })
  | .shutdown dropping => s.shutdownDropping dropping
  | .shutdownNow =>
    let (result, m) := s.manager.shutdownNow
    (replyUnit result, s.setManager m)
  | .transfers => (.transfers s.manager.platform.transfers, s)
  | .list filter json limit? =>
    s.replyRan (s.manager.listInterfaces filter json { room? := limit? }) .listed
  | .exchange request limit? =>
    s.replyRan (s.manager.exchangeWith s.meanwhile request { room? := limit? }) .exchanged

/-- A run of steps from a session. -/
def run (s : BenchSession) (steps : List Step) : BenchSession :=
  steps.foldl (fun s step => (s.step step).2) s

/-- The figures that are watched after every step. -/
structure Counters where
  calls : CallCounts
  nativeOpen : Nat
  live : Nat
  pool : Nat
  outstanding : Nat
  channels : Nat
  shuttingDown : Bool
  transfers : Nat

/-- The figures of a session. -/
def counters (s : BenchSession) : Counters :=
  let m := s.manager
  { calls := m.platform.calls
    nativeOpen := m.platform.calls.opens - m.platform.calls.closes
    live := m.platform.totalLiveRefs
    pool := m.pool.size
    outstanding := m.pool.outstanding
    channels := m.openChannels
    shuttingDown := m.shuttingDown
    transfers := m.platform.transfers.length }

end BenchSession

end UsbPipe
