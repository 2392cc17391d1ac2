/-
The commands of the program, on any manager.

* `Manager.listInterfaces`: shows every raw interface, as text or as a JSON array.
* `Manager.exchangeWith`, `Manager.exchange`: opens an interface, writes a payload and reads
  a reply if one is asked for, then closes the interface.
* `CommandError`: why a command failed, with the texts of its causes in `causes`.
-/
import UsbPipe.Command.Sink
import UsbPipe.Json.Codec
import UsbPipe.Manager.Transfer
import UsbPipe.Hex

namespace UsbPipe

open Usb

/-! ### Failures -/

/-- The texts of an error and of the native failure behind it, outermost first. -/
def UsbError.causes (e : UsbError) : List String :=
  e.message :: e.source?.toList.map NativeError.message

/-- Why a command failed. -/
inductive CommandError where
  | enumerate (cause : UsbError)
  | noInterface (interface port : UInt8)
  | openChannel (path : String) (cause : UsbError)
  | write (cause : UsbError)
  | read (cause : UsbError)
  | close (cause : UsbError)
  | serialize
  | output
  /-- A reply is asked for that is longer than any can be, which ends the program. -/
  | replyLength
  /-- There is no room for the reply that is asked for, and the system stops the program. -/
  | replyRoom
  deriving DecidableEq

namespace CommandError

/-- The text of an output that accepts no more. -/
def fullText : String := "failed to write whole buffer"

/-- The texts of the failure and its causes, outermost first. -/
def causes : CommandError → List String
  | enumerate e => "Failed to enumerate USB devices" :: e.causes
  | noInterface interface port =>
    ["No raw interface " ++ toString interface.toNat ++ " on port " ++ toString port.toNat]
  | openChannel path e => ("Failed to open " ++ path) :: e.causes
  | write e => "Write failed" :: e.causes
  | read e => "Read failed" :: e.causes
  | close e => "Failed to close device" :: e.causes
  | serialize => ["Failed to serialize devices", fullText]
  | output => [fullText]
  | replyLength => ["capacity overflow"]
  | replyRoom => ["memory allocation failed"]

/-- Whether the program ends at the failure, and tells nothing of it. -/
def isFatal (e : CommandError) : Bool := e = replyLength ∨ e = replyRoom

/-- The error of a channel or scan behind the failure. -/
def usb? : CommandError → Option UsbError
  | enumerate e | openChannel _ e | write e | read e | close e => some e
  | _ => none

end CommandError

/-! ### Listing -/

/-- The two lines of a raw interface. -/
def Usb.RawInterface.lines (i : RawInterface) : String :=
  i.describe ++ "\n    " ++ i.display ++ "\n"

/-- The raw interfaces as a JSON array, or else two lines each. -/
def writeInterfaces (out : Sink) (json : Bool) (infos : List RawInterface) :
    Except CommandError Unit × Sink :=
  if json then
    match out.write (String.ofList (encode infos).pretty) with
    | (false, out) => (.error .serialize, out)
    | (true, out) =>
      let (ok, out) := out.write "\n"
      (if ok then .ok () else .error .output, out)
  else
    let (ok, out) := out.write
      (if infos.isEmpty then "No raw USB interfaces found\n"
       else String.join (infos.map RawInterface.lines))
    (if ok then .ok () else .error .output, out)

/-- What running a command gives: its result, its output and the manager after it. -/
structure Ran (σ δ η α : Type) where
  result : Except CommandError α
  out : Sink
  manager : Manager σ δ η

/-- The transfer that a command is asked for; without `readLength` nothing is read.  `room` is
the longest reply that the system has room for. -/
structure Request where
  filter : Filter := {}
  port : UInt8
  interface : UInt8
  payload : Bytes
  readLength : Option Nat := none
  readTimeout : Option Duration := none
  writeTimeout : Option Duration := none
  room : Nat := usualRoom

/-- Whether a found interface is the one a request is for. -/
def Request.wants {δ : Type} (r : Request) (f : Found δ) : Bool :=
  f.info.port == r.port && f.info.interface == r.interface

namespace Manager

variable {σ δ η : Type} [Platform σ δ η]

/-- Shows every raw interface that the filter admits; the number of them. -/
def listInterfaces (m : Manager σ δ η) (filter : Filter) (json : Bool) (out : Sink) :
    Ran σ δ η Nat :=
  match m.enumerate filter with
  | (.error e, m) => ⟨.error (.enumerate e), out, m⟩
  | (.ok found, m) =>
    let (written, out) := writeInterfaces out json (found.map Found.info)
    ⟨written.map fun () => found.length, out, m.discard found⟩

/-! ### Exchanging bytes -/

/-- The longest reply that there can be: the length of a buffer has a sign and 64 bits. -/
def maxReply : Nat := 0x7fffffffffffffff

/-- Why a reply of some length cannot be held with some room, if so. -/
def replyRefusal? (room length : Nat) : Option CommandError :=
  if maxReply < length then some .replyLength
  else if room < length then some .replyRoom
  else none

/-- The reply that a request asks for, and its line. -/
def takeReply (m : Manager σ δ η) (c : Opened) (r : Request) (out : Sink) : Ran σ δ η Bytes :=
  match r.readLength with
  | none => ⟨.ok [], out, m⟩
  | some limit =>
    match replyRefusal? r.room limit with
    | some e => ⟨.error e, out, m⟩
    | none =>
      match m.receive c.id limit with
      | (.error e, m) => ⟨.error (.read e), out, m⟩
      | (.ok reply, m) =>
        let (ok, out) := out.write ("read " ++ toString reply.length ++ " byte(s) from "
          ++ Text.hexByte c.info.reader.address ++ ": " ++ Hex.format reply ++ "\n")
        ⟨if ok then .ok reply else .error .output, out, m⟩

/-- Payload out, reply in, and the close of a channel that has been opened. -/
def converse (m : Manager σ δ η) (c : Opened) (r : Request) (out : Sink) : Ran σ δ η Bytes :=
  match m.write c.id r.payload with
  | (.error e, m) => ⟨.error (.write e), out, m⟩
  | (.ok written, m) =>
    match out.write ("wrote " ++ toString written ++ " byte(s) to "
        ++ Text.hexByte c.info.writer.address ++ "\n") with
    | (false, out) => ⟨.error .output, out, m⟩
    | (true, out) =>
      match m.takeReply c r out with
      | ⟨.error e, out, m⟩ => ⟨.error e, out, m⟩
      | ⟨.ok reply, out, m⟩ =>
        match m.close c.id with
        | (.error e, m) => ⟨.error (.close e), out, m⟩
        | (.ok (), m) =>
          ⟨.ok reply, out, m.log .info ("Transfer on " ++ c.info.path ++ " complete")⟩

/-- The exchange a request describes; the bytes of the reply.  The channel is closed
whatever happens; `meanwhile` happens to the manager while the interface is being claimed. -/
def exchangeWith (m : Manager σ δ η) (meanwhile : Manager σ δ η → Manager σ δ η) (r : Request)
    (out : Sink) : Ran σ δ η Bytes :=
  match m.enumerate r.filter with
  | (.error e, m) => ⟨.error (.enumerate e), out, m⟩
  | (.ok found, m) =>
    match found.find? r.wants with
    | none => ⟨.error (.noInterface r.interface r.port), out, m.discard found⟩
    | some target =>
      match m.openWith meanwhile target.info with
      | (.error e, m) => ⟨.error (.openChannel target.info.path e), out, m.discard found⟩
      | (.ok c, m) =>
        let m := ((m.discard found).setReadTimeout c.id r.readTimeout).setWriteTimeout c.id
          r.writeTimeout
        let ran := m.converse c r out
        { ran with manager := ran.manager.dropChannel c.id }

/-- The exchange a request describes; the bytes of the reply. -/
def exchange (m : Manager σ δ η) (r : Request) (out : Sink) : Ran σ δ η Bytes :=
  m.exchangeWith id r out

end Manager

end UsbPipe
