/-
Lengths of time and transfer timeouts.

* `Duration`: a length of time in nanoseconds; `Duration.text` writes it in the
  largest of the units s, ms, µs and ns that it fills.
* `nativeTimeout`: the whole milliseconds that the native layer takes for a
  timeout.  Zero means no timeout there, so a timeout becomes at least one
  millisecond, and at most what 32 bits hold.
* `nativeTimeout_eq_zero_iff`: only the missing timeout becomes zero.
-/
import UsbPipe.Text.Decimal

namespace UsbPipe

open Text

/-- A length of time. -/
structure Duration where
  nanoseconds : Nat
  deriving DecidableEq

namespace Duration

/-- No time at all. -/
def zero : Duration := ⟨0⟩

/-- A number of milliseconds. -/
def ofMilliseconds (ms : Nat) : Duration := ⟨ms * 1000000⟩

/-- Seconds and the nanoseconds beyond them. -/
def ofParts (seconds nanoseconds : Nat) : Duration := ⟨seconds * 1000000000 + nanoseconds⟩

/-- The whole seconds. -/
def seconds (d : Duration) : Nat := d.nanoseconds / 1000000000

/-- The nanoseconds beyond the whole seconds. -/
def subsecond (d : Duration) : Nat := d.nanoseconds % 1000000000

/-- The whole microseconds. -/
def microseconds (d : Duration) : Nat := d.nanoseconds / 1000

/-- The digits of a fraction of `10 ^ places`, without zeros at the end. -/
def fractionDigits (places fraction : Nat) : List Char :=
  let digits := decimal fraction
  let padded := List.replicate (places - digits.length) '0' ++ digits
  (padded.reverse.dropWhile (· == '0')).reverse

/-- An amount of a unit of `10 ^ places` nanoseconds. -/
def inUnit (nanoseconds places : Nat) (unit : String) : String :=
  let fraction := fractionDigits places (nanoseconds % Nat.pow 10 places)
  String.ofList (decimal (nanoseconds / Nat.pow 10 places)
    ++ (if fraction.isEmpty then [] else '.' :: fraction)) ++ unit

/-- The length in the largest unit it fills, with as many decimals as it needs. -/
def text (d : Duration) : String :=
  if 1000000000 ≤ d.nanoseconds then inUnit d.nanoseconds 9 "s"
  else if 1000000 ≤ d.nanoseconds then inUnit d.nanoseconds 6 "ms"
  else if 1000 ≤ d.nanoseconds then inUnit d.nanoseconds 3 "µs"
  else inUnit d.nanoseconds 0 "ns"

end Duration

/-! ### Native timeouts -/

/-- The most milliseconds that the native layer can wait with a timeout. -/
def maxTimeoutMs : Nat := 4294967295

/-- Whole microseconds, rounded up to milliseconds between one and `maxTimeoutMs`. -/
def timeoutMs (d : Duration) : Nat :=
  min (max ((d.microseconds + 999) / 1000) 1) maxTimeoutMs

/-- The timeout handed to the native layer, where zero waits forever. -/
def nativeTimeout : Option Duration → Duration
  | none => .zero
  | some d => .ofMilliseconds (timeoutMs d)

/-- A timeout is between one millisecond and the longest one. -/
theorem timeoutMs_bounds (d : Duration) : 1 ≤ timeoutMs d ∧ timeoutMs d ≤ maxTimeoutMs := by
  simp only [timeoutMs, maxTimeoutMs]
  omega

/-- Only the missing timeout waits forever. -/
theorem nativeTimeout_eq_zero_iff (t : Option Duration) : nativeTimeout t = .zero ↔ t = none := by
  cases t with
  | none => simp [nativeTimeout]
  | some d =>
    have := timeoutMs_bounds d
    simp [nativeTimeout, Duration.ofMilliseconds, Duration.zero]
    omega

end UsbPipe
