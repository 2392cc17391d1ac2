/-
Natural numbers in decimal text.

* `decimal`: the digits of a number without leading zeros.
* `decimalValue`: the value of a run of digits; `decimalValue_decimal` reads a
  written number back.
* `natural?`: the number of a text that is one.
* `decimal_ne_nil`, `all_isDigit_decimal`, `head_decimal`: a written number is a
  nonempty run of digits, and starts with a zero only if it is zero.
-/

namespace UsbPipe.Text

/-- The decimal digit of a value below ten. -/
def decimalDigit (n : Nat) : Char := Char.ofNat (48 + n)

/-- The digits of a number, most significant first. -/
def decimal (n : Nat) : List Char :=
  if n < 10 then [decimalDigit n] else decimal (n / 10) ++ [decimalDigit (n % 10)]
  termination_by n

/-- The value of a run of decimal digits. -/
def decimalValue (cs : List Char) : Nat :=
  cs.foldl (fun acc c => 10 * acc + (c.toNat - 48)) 0

/-- The number that a nonempty run of digits writes, after a plus sign or without one. -/
def natural? (cs : List Char) : Option Nat :=
  let digits := match cs with
    | '+' :: rest => rest
    | cs => cs
  if digits.isEmpty || !digits.all Char.isDigit then none else some (decimalValue digits)

/-- The value of a written digit. -/
theorem toNat_decimalDigit : ∀ n : Fin 10, (decimalDigit n).toNat = 48 + n := by
  decide

/-- A written digit is a digit. -/
theorem isDigit_decimalDigit : ∀ n : Fin 10, (decimalDigit n).isDigit = true := by
  decide

/-- Only zero is written with a zero digit. -/
theorem decimalDigit_eq_zero : ∀ n : Fin 10, decimalDigit n = '0' → n = 0 := by
  decide

/-- One more digit at the end of a run. -/
theorem decimalValue_append_singleton (cs : List Char) (c : Char) :
    decimalValue (cs ++ [c]) = 10 * decimalValue cs + (c.toNat - 48) := by
  simp [decimalValue]

/-- A written number has the value it was written for. -/
theorem decimalValue_decimal (n : Nat) : decimalValue (decimal n) = n := by
  fun_induction decimal n with
  | case1 n h =>
    have := toNat_decimalDigit ⟨n, h⟩
    simp only at this
    simp [decimalValue, this]
  | case2 n h ih =>
    have := toNat_decimalDigit ⟨n % 10, Nat.mod_lt _ (by decide)⟩
    simp only at this
    rw [decimalValue_append_singleton, ih, this]
    omega

/-- A written number has at least one digit. -/
theorem decimal_ne_nil (n : Nat) : decimal n ≠ [] := by
  rw [decimal]
  split <;> simp

/-- A written number consists of digits. -/
theorem all_isDigit_decimal (n : Nat) : (decimal n).all Char.isDigit = true := by
  fun_induction decimal n with
  | case1 n h => simpa using isDigit_decimalDigit ⟨n, h⟩
  | case2 n h ih =>
    simpa [List.all_append, ih] using isDigit_decimalDigit ⟨n % 10, Nat.mod_lt _ (by decide)⟩

/-- A written number starts with a zero only if it is zero. -/
theorem head_decimal (n : Nat) (rest : List Char) (h : decimal n = '0' :: rest) : n = 0 := by
  fun_induction decimal n generalizing rest with
  | case1 n hn =>
    simp only [List.cons.injEq] at h
    simpa using decimalDigit_eq_zero ⟨n, hn⟩ h.1
  | case2 n hn ih =>
    cases hd : decimal (n / 10) with
    | nil => exact absurd hd (decimal_ne_nil _)
    | cons c cs =>
      rw [hd] at h
      simp only [List.cons_append, List.cons.injEq] at h
      have := ih cs (by rw [hd, h.1])
      omega

end UsbPipe.Text
