/-
Device ids and transfer payloads in hexadecimal text.

* `Hex.number?`: a nonempty run of hexadecimal digits after an optional plus
  sign, the number grammar that ids and payload bytes share.
* `Hex.parseId`: an id, `0x` and one to four digits.
* `Hex.parseBytes`: a payload, in which blanks and colons may stand anywhere and
  one `0x` in front.
* `Hex.format`: bytes as pairs of lower-case digits with blanks between.
* `Hex.Fault`, `Hex.Error.message`: what can be wrong with a text, and its wording.
-/
import UsbPipe.Text.Blank
import UsbPipe.Text.Bytes
import UsbPipe.Text.Digits

namespace UsbPipe.Hex

open Text

/-! ### Faults -/

/-- What is wrong with a hexadecimal text. -/
inductive Fault where
  | noMarker
  | digitCount
  | notNumber
  | oddDigits
  | notByte (pair : List Char)
  deriving DecidableEq

/-- The reason given for a fault. -/
def Fault.reason : Fault → String
  | noMarker => "must start with '0x' (e.g., '0x1234')"
  | digitCount => "hex part must be 1-4 digits"
  | notNumber => "not a valid hex number"
  | oddDigits => "odd number of hex digits"
  | notByte pair => "'" ++ String.ofList pair ++ "' is not a hex byte"

/-- A refused text with its fault. -/
structure Error where
  input : String
  fault : Fault
  deriving DecidableEq

/-- The text as it was given, and the reason. -/
def Error.message (e : Error) : String :=
  "Invalid hex input '" ++ e.input ++ "': " ++ e.fault.reason

/-! ### Numbers -/

/-- The value of a run of digits read from the left after `acc`. -/
def digitsValue? : Nat → List Char → Option Nat
  | acc, [] => some acc
  | acc, c :: cs => do digitsValue? (16 * acc + (← hexValue? c)) cs

/-- A number: at least one digit, after at most one plus sign. -/
def number? : List Char → Option Nat
  | [] => none
  | '+' :: [] => none
  | '+' :: c :: cs => digitsValue? 0 (c :: cs)
  | c :: cs => digitsValue? 0 (c :: cs)

/-- What follows `0x` or `0X`. -/
def afterMarker? : List Char → Option (List Char)
  | '0' :: 'x' :: rest => some rest
  | '0' :: 'X' :: rest => some rest
  | _ => none

/-! ### Ids -/

/-- An id: the marker, then one to four bytes of text that are a number. -/
def id? (cs : List Char) : Except Fault UInt16 :=
  match afterMarker? cs with
  | none => .error .noMarker
  | some digits =>
    if utf8Size digits = 0 ∨ 4 < utf8Size digits then .error .digitCount
    else match number? digits with
      | some n => .ok n.toUInt16
      | none => .error .notNumber

/-- The id that a text writes. -/
def parseId (text : String) : Except Error UInt16 :=
  (id? text.toList).mapError (⟨text, ·⟩)

/-! ### Payloads -/

/-- The digits of a payload: all that is left without the marker, blanks and colons. -/
def payloadDigits (cs : List Char) : List Char :=
  let trimmed := trimBlanks cs
  ((afterMarker? trimmed).getD trimmed).filter fun c => !isBlank c && c != ':'

/-- The bytes of successive digit pairs. -/
def pairs? : List Char → Except Fault (List UInt8)
  | [] => .ok []
  | [_] => .error .oddDigits
  | a :: b :: rest =>
    match number? [a, b] with
    | none => .error (.notByte [a, b])
    | some n => (pairs? rest).map (n.toUInt8 :: ·)

/-- A payload: an even number of digits whose pairs are numbers. -/
def bytes? (cs : List Char) : Except Fault (List UInt8) :=
  let digits := payloadDigits cs
  if digits.length % 2 = 0 then pairs? digits else .error .oddDigits

/-- The payload that a text writes. -/
def parseBytes (text : String) : Except Error (List UInt8) :=
  (bytes? text.toList).mapError (⟨text, ·⟩)

/-! ### Writing -/

/-- Bytes as pairs of digits, a blank between two bytes. -/
def formatChars (bytes : List UInt8) : List Char :=
  List.intercalate [' '] (bytes.map byteDigits)

/-- Bytes as pairs of digits, a blank between two bytes. -/
def format (bytes : List UInt8) : String := String.ofList (formatChars bytes)

end UsbPipe.Hex
