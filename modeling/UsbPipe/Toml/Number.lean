/-
Reading numbers and dates.

* `number?`: an integer of 64 bits, or a number with a fraction or an exponent.
* `date?`: a date, a time of day, or both with or without an offset.
* `exceedsDouble`: whether a decimal number is beyond all doubles.
-/
import UsbPipe.Text.Decimal
import UsbPipe.Toml.Basic
import UsbPipe.Toml.Quoted

namespace UsbPipe.Toml

open Text

/-! ### Digits -/

/-- Digits, single underscores between them left out. -/
def digitsAfter? (isDigit : Char → Bool) : List Char → Option (List Char × List Char)
  | [] => some ([], [])
  | '_' :: [] => none
  | '_' :: d :: rest => if isDigit d then prepend d (digitsAfter? isDigit rest) else none
  | d :: rest => if isDigit d then prepend d (digitsAfter? isDigit rest) else some ([], d :: rest)

/-- At least one digit, single underscores between digits left out. -/
def digits? (isDigit : Char → Bool) : List Char → Option (List Char × List Char)
  | [] => none
  | d :: rest => if isDigit d then prepend d (digitsAfter? isDigit rest) else none

/-- A whole number: a zero, or digits that do not start with one. -/
def whole? : List Char → Option (List Char × List Char)
  | '0' :: rest => some (['0'], rest)
  | cs => digits? Char.isDigit cs

/-- The sign of a number; whether it is a minus. -/
def sign : List Char → Bool × List Char
  | '+' :: rest => (false, rest)
  | '-' :: rest => (true, rest)
  | cs => (false, cs)

/-! ### Integers -/

/-- The values that 64 bits hold. -/
def fits (n : Int) : Bool := -9223372036854775808 ≤ n && n ≤ 9223372036854775807

/-- An integer value, if 64 bits hold it. -/
def integer? (n : Int) : Option Toml := if fits n then some (.int n) else none

/-- The value of digits in a base. -/
def valueIn (base : Nat) (digits : List Char) : Nat :=
  digits.foldl (fun acc d => base * acc + (hexValue? d).getD 0) 0

/-- A digit of a base up to sixteen. -/
def isDigitIn (base : Nat) (c : Char) : Bool :=
  match hexValue? c with
  | some d => d < base
  | none => false

/-- The digits of an integer in another base than ten. -/
def based? (base : Nat) (cs : List Char) : Option (Toml × List Char) := do
  let (ds, rest) ← digits? (isDigitIn base) cs
  let n ← integer? (valueIn base ds)
  pure (n, rest)

/-! ### Numbers with a fraction or an exponent -/

/-- A fraction after its point. -/
def fraction? (cs : List Char) : Option (List Char × List Char) := digits? Char.isDigit cs

/-- An exponent, which may be missing. -/
def exponent? : List Char → Option (Option Int × List Char)
  | e :: rest =>
    if e = 'e' ∨ e = 'E' then do
      let (negative, rest) := sign rest
      let (ds, rest) ← digits? Char.isDigit rest
      let n : Int := decimalValue ds
      pure (some (if negative then -n else n), rest)
    else some (none, e :: rest)
  | [] => some (none, [])

/-- The least number that is rounded to no double: the largest double and half of the gap
after it. -/
def doubleLimit : Nat := Nat.pow 2 1024 - Nat.pow 2 970

/-- Whether the number written by digits and a power of ten is beyond all doubles. -/
def exceedsDouble (digits : List Char) (power : Int) : Bool :=
  let digits := digits.dropWhile (· == '0')
  let places : Int := digits.length + power
  if digits.isEmpty || places < 309 then false
  else if 309 < places then true
  else if 0 ≤ power then doubleLimit ≤ decimalValue digits * Nat.pow 10 power.toNat
  else doubleLimit * Nat.pow 10 (-power).toNat ≤ decimalValue digits

/-- The front of a text up to where the rest of it starts. -/
def lexeme (cs rest : List Char) : List Char := cs.take (cs.length - rest.length)

/-- A decimal number.  A positive one has to be within the doubles. -/
def decimal? (cs : List Char) : Option (Toml × List Char) := do
  let (negative, unsigned) := sign cs
  let (whole, rest) ← whole? unsigned
  let (fraction, rest, hasFraction) ← match rest with
    | '.' :: rest => (fraction? rest).map fun (ds, rest) => (ds, rest, true)
    | rest => some ([], rest, false)
  let (exponent, rest) ← exponent? rest
  if hasFraction || exponent.isSome then
    let power := exponent.getD 0 - fraction.length
    if !negative && exceedsDouble (whole ++ fraction) power then none
    else pure (.float (lexeme cs rest), rest)
  else
    let n : Int := decimalValue whole
    let value ← integer? (if negative then -n else n)
    pure (value, rest)

/-- What is no finite number. -/
def special? (cs : List Char) : Option (Toml × List Char) :=
  match (sign cs).2 with
  | 'i' :: 'n' :: 'f' :: rest => some (.float (lexeme cs rest), rest)
  | 'n' :: 'a' :: 'n' :: rest => some (.float (lexeme cs rest), rest)
  | _ => none

/-- A number of any kind. -/
def number? : List Char → Option (Toml × List Char)
  | '0' :: 'x' :: rest => based? 16 rest
  | '0' :: 'o' :: rest => based? 8 rest
  | '0' :: 'b' :: rest => based? 2 rest
  | cs => (special? cs).or (decimal? cs)

/-! ### Dates -/

/-- A number of exactly `count` digits between two bounds. -/
def boundedDigits? (count low high : Nat) (cs : List Char) : Option (Nat × List Char) :=
  let digits := cs.take count
  let n := decimalValue digits
  if digits.length = count ∧ digits.all Char.isDigit ∧ low ≤ n ∧ n ≤ high
  then some (n, cs.drop count) else none

/-- The text after a character that has to come first. -/
def expect? (c : Char) : List Char → Option (List Char)
  | d :: rest => if c = d then some rest else none
  | [] => none

/-- The number of days of a month. -/
def daysOf (year month : Nat) : Nat :=
  if month = 2 then
    if year % 4 = 0 ∧ (year % 100 ≠ 0 ∨ year % 400 = 0) then 29 else 28
  else if month = 4 ∨ month = 6 ∨ month = 9 ∨ month = 11 then 30
  else 31

/-- The text after a day of the calendar. -/
def day? (cs : List Char) : Option (List Char) := do
  let (year, cs) ← boundedDigits? 4 0 9999 cs
  let (month, cs) ← boundedDigits? 2 1 12 (← expect? '-' cs)
  let (_, cs) ← boundedDigits? 2 1 (daysOf year month) (← expect? '-' cs)
  pure cs

/-- The text after the fraction of a second, which may be missing. -/
def skipFraction : List Char → List Char
  | '.' :: d :: rest => if d.isDigit then rest.dropWhile Char.isDigit else '.' :: d :: rest
  | cs => cs

/-- The text after a time of day. -/
def time? (cs : List Char) : Option (List Char) := do
  let (_, cs) ← boundedDigits? 2 0 23 cs
  let (_, cs) ← boundedDigits? 2 0 59 (← expect? ':' cs)
  let (_, cs) ← boundedDigits? 2 0 60 (← expect? ':' cs)
  pure (skipFraction cs)

/-- The text after hours and minutes from the meridian. -/
def shift? (cs : List Char) : Option (List Char) := do
  let (_, cs) ← boundedDigits? 2 0 23 cs
  let (_, cs) ← boundedDigits? 2 0 59 (← expect? ':' cs)
  pure cs

/-- The text after an offset, which may be missing. -/
def skipOffset : List Char → List Char
  | [] => []
  | c :: rest =>
    if c = 'Z' ∨ c = 'z' then rest
    else if c = '+' ∨ c = '-' then (shift? rest).getD (c :: rest)
    else c :: rest

/-- The text after a time that follows a day, which may be missing. -/
def skipClock : List Char → List Char
  | [] => []
  | c :: rest =>
    if c = 'T' ∨ c = 't' ∨ c = ' ' then
      match time? rest with
      | some rest => skipOffset rest
      | none => c :: rest
    else c :: rest

/-- A date, a time of day, or both. -/
def date? (cs : List Char) : Option (Toml × List Char) := do
  let rest ← ((day? cs).map skipClock).or (time? cs)
  pure (.date (lexeme cs rest), rest)

end UsbPipe.Toml
