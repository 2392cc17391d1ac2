/-
Numbers as text.

* `hexDigit`, `hexValue?`: one hexadecimal digit and its value; `hexValue?_hexDigit`
  reads a written digit back.
* `hex2`, `hex4`: fixed-width lower-case hexadecimal, two digits for a byte and
  four for a word; `hexByte` puts `0x` in front of a byte.
* `padded`: decimal text with leading zeros up to a width.
-/

namespace UsbPipe.Text

/-- The lower-case hexadecimal digit of a value below sixteen. -/
def hexDigit (n : Nat) : Char :=
  if n < 10 then Char.ofNat (48 + n) else Char.ofNat (87 + n)

/-- The value of a hexadecimal digit in either case. -/
def hexValue? (c : Char) : Option Nat :=
  if '0' ≤ c ∧ c ≤ '9' then some (c.toNat - 48)
  else if 'a' ≤ c ∧ c ≤ 'f' then some (c.toNat - 87)
  else if 'A' ≤ c ∧ c ≤ 'F' then some (c.toNat - 55)
  else none

/-- A written digit has the value it was written for. -/
theorem hexValue?_hexDigit : ∀ n : Fin 16, hexValue? (hexDigit n) = some n := by
  decide

/-- The two hexadecimal digits of a byte. -/
def byteDigits (b : UInt8) : List Char :=
  [hexDigit (b.toNat / 16), hexDigit (b.toNat % 16)]

/-- A byte as two hexadecimal digits. -/
def hex2 (b : UInt8) : String := String.ofList (byteDigits b)

/-- A word as four hexadecimal digits. -/
def hex4 (w : UInt16) : String :=
  String.ofList (byteDigits (w.toNat / 256).toUInt8 ++ byteDigits (w.toNat % 256).toUInt8)

/-- A byte as two hexadecimal digits after `0x`, the form endpoint addresses take. -/
def hexByte (b : UInt8) : String := "0x" ++ hex2 b

/-- Decimal text with leading zeros up to `width` characters. -/
def padded (width n : Nat) : String :=
  String.ofList (List.replicate (width - (toString n).length) '0') ++ toString n

end UsbPipe.Text
