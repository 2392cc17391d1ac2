/-
Reading and writing on open channels.

* `Manager.write`, `Manager.read`: one native transfer on the OUT or the IN endpoint of
  a channel, bulk or interrupt as the endpoint is, under the timeout set for that
  direction.
* `Manager.finish`: the outcome of a transfer; an expired timeout is told from other
  failures and reports the timeout that the native layer was given.
* `Manager.setReadTimeout`, `Manager.setWriteTimeout`: the timeouts of later transfers.
-/
import UsbPipe.Manager.Open

namespace UsbPipe

open Usb

/-- The part of a buffer that was filled, and the buffer. -/
structure ReadResult where
  count : Nat
  buffer : Bytes
  deriving DecidableEq

/-- A buffer whose front is overwritten. -/
def ReadResult.ofChunk (buffer chunk : Bytes) : ReadResult :=
  ⟨chunk.length, chunk ++ buffer.drop chunk.length⟩

namespace Manager

variable {σ δ η : Type}

/-! ### Timeouts -/

/-- The timeout of later reads on a channel. -/
def setReadTimeout (m : Manager σ δ η) (id : Nat) (t : Option Duration) : Manager σ δ η :=
  m.updateChannel id fun c => { c with readTimeout := t }

/-- The timeout of later writes on a channel. -/
def setWriteTimeout (m : Manager σ δ η) (id : Nat) (t : Option Duration) : Manager σ δ η :=
  m.updateChannel id fun c => { c with writeTimeout := t }

/-! ### Transfers -/

variable [Platform σ δ η]

/-- The outcome of a native transfer of `count result` bytes on an endpoint. -/
def finish {α : Type} (m : Manager σ δ η) (endpoint : EndpointInfo) (timeout : Option Duration)
    (count : α → Nat) : Except NativeError α → Except UsbError α × Manager σ δ η
  | .ok a =>
    (.ok a, m.log .trace (endpoint.transferType.text ++ " transfer on "
      ++ Text.hexByte endpoint.address ++ ": " ++ toString (count a) ++ " bytes"))
  | .error .timeout => (.error (.timeout endpoint.address (nativeTimeout timeout)), m)
  | .error e =>
    (.error (.transfer endpoint.address e), m.log .warn (endpoint.transferType.text
      ++ " transfer on " ++ Text.hexByte endpoint.address ++ " failed: " ++ e.message))

/-- A transfer on an endpoint of an open channel by the native call `call`. -/
def transfer {α : Type} (m : Manager σ δ η) (c : Channel δ η) (direction : Direction)
    (endpoint : EndpointInfo) (timeout : Option Duration) (count : α → Nat)
    (call : η → RawKind → Duration → σ → Except NativeError α × σ) :
    Except UsbError α × Manager σ δ η :=
  match c.native? with
  | none => (.error .closed, m)
  | some handle =>
    match endpoint.transferType.raw? with
    | none => (.error (.unsupportedTransfer direction endpoint.transferType), m)
    | some kind =>
      let (result, m) := m.native (call handle kind (nativeTimeout timeout))
      m.finish endpoint timeout count result

/-- Bytes sent to the OUT endpoint of a channel; the number sent. -/
def write (m : Manager σ δ η) (id : Nat) (data : Bytes) : Except UsbError Nat × Manager σ δ η :=
  match m.channel? id with
  | none => (.error .closed, m)
  | some c =>
    m.transfer c .output c.info.writer c.writeTimeout (fun n => n) fun handle kind timeout =>
      Platform.write handle kind c.info.writer.address data timeout

/-- At most `limit` bytes from the IN endpoint of a channel. -/
def receive (m : Manager σ δ η) (id : Nat) (limit : Nat) :
    Except UsbError Bytes × Manager σ δ η :=
  match m.channel? id with
  | none => (.error .closed, m)
  | some c =>
    m.transfer c .input c.info.reader c.readTimeout List.length fun handle kind timeout =>
      Platform.read handle kind c.info.reader.address limit timeout

/-- A read into a buffer from the IN endpoint of a channel: the number of bytes, and the buffer
as the caller has it afterwards.  Bytes are copied to its front only once there are any. -/
def read (m : Manager σ δ η) (id : Nat) (buffer : Bytes) :
    Except UsbError Nat × Bytes × Manager σ δ η :=
  match m.receive id buffer.length with
  | (.error e, m) => (.error e, buffer, m)
  | (.ok chunk, m) =>
    let r := ReadResult.ofChunk buffer chunk
    (.ok r.count, r.buffer, m)

end Manager

end UsbPipe
