/-
The pair of endpoints that makes an alternate setting a raw interface.

* `PipePair`: one IN and one OUT endpoint of the same raw kind.
* `PipePair.select?`: the pair of an alternate setting.  Of several endpoints of
  one direction the last one counts.  If the last IN and the last OUT endpoint
  are of one kind they are the pair; otherwise the bulk endpoints are, if both
  directions are there, and then the interrupt endpoints.
-/
import UsbPipe.Usb.Descriptor

namespace UsbPipe.Usb

/-- The two endpoints of a raw interface. -/
structure PipePair where
  reader : EndpointInfo
  writer : EndpointInfo
  deriving DecidableEq

namespace PipePair

/-- The latest endpoints seen in each direction, of which one or both may be missing. -/
structure Latest where
  reader : Option EndpointInfo := none
  writer : Option EndpointInfo := none

namespace Latest

/-- One more endpoint in direction `d`. -/
def see (d : Direction) (e : EndpointInfo) (l : Latest) : Latest :=
  match d with
  | .input => { l with reader := some e }
  | .output => { l with writer := some e }

/-- Both endpoints, if both directions were seen. -/
def pair? (l : Latest) : Option PipePair :=
  match l.reader, l.writer with
  | some reader, some writer => some ⟨reader, writer⟩
  | _, _ => none

end Latest

/-- The latest endpoints of either kind, of the bulk kind and of the interrupt kind. -/
structure Tally where
  either : Latest := {}
  bulk : Latest := {}
  interrupt : Latest := {}

/-- Control and isochronous endpoints leave the tally as it is. -/
def Tally.see (t : Tally) (e : EndpointDescriptor) : Tally :=
  let seen := Latest.see e.direction ⟨e.address, e.transferType⟩
  match e.transferType.raw? with
  | some .bulk => { t with either := seen t.either, bulk := seen t.bulk }
  | some .interrupt => { t with either := seen t.either, interrupt := seen t.interrupt }
  | none => t

/-- Endpoints of one kind come first, then bulk, then interrupt. -/
def Tally.pair? (t : Tally) : Option PipePair :=
  match t.either.pair? with
  | some p =>
    if p.reader.transferType = p.writer.transferType then some p
    else t.bulk.pair? <|> t.interrupt.pair?
  | none => t.bulk.pair? <|> t.interrupt.pair?

/-- The pipe pair of an alternate setting with these endpoints. -/
def select? (endpoints : List EndpointDescriptor) : Option PipePair :=
  (endpoints.foldl Tally.see {}).pair?

end PipePair

end UsbPipe.Usb
