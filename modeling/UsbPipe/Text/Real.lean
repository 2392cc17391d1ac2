/-
Real numbers as text.

* `isReal`: a number in decimal text, with a sign, a fraction or an exponent or without, and the
  words for infinity and for what is no number.
* `isUnsignedReal_of_digits`: a run of digits is one, without a sign.
-/
import UsbPipe.Text.Decimal

namespace UsbPipe.Text

/-- The text after a sign, if it starts with one. -/
def skipSign : List Char → List Char
  | '+' :: rest => rest
  | '-' :: rest => rest
  | cs => cs

/-- Whether a text is an exponent, or empty. -/
def isExponent : List Char → Bool
  | [] => true
  | c :: rest =>
    (c == 'e' || c == 'E') && !(skipSign rest).isEmpty && (skipSign rest).all Char.isDigit

/-- Whether a text is a run of digits with a point in it or without, and perhaps an exponent. -/
def isUnsignedReal (cs : List Char) : Bool :=
  let whole := cs.takeWhile Char.isDigit
  match cs.dropWhile Char.isDigit with
  | '.' :: rest =>
    !(whole ++ rest.takeWhile Char.isDigit).isEmpty && isExponent (rest.dropWhile Char.isDigit)
  | rest => !whole.isEmpty && isExponent rest

/-- The words for numbers, in lower case. -/
def realWords : List String := ["inf", "infinity", "nan"]

/-- Whether a text is a number. -/
def isReal (cs : List Char) : Bool :=
  let body := skipSign cs
  realWords.contains (String.ofList (body.map Char.toLower)) || isUnsignedReal body

/-- The digits at the front of a run of digits are all of it. -/
theorem dropWhile_isDigit_eq_nil {cs : List Char} (h : ∀ c ∈ cs, c.isDigit = true) :
    cs.dropWhile Char.isDigit = [] := by
  induction cs with
  | nil => rfl
  | cons c cs ih =>
    rw [List.dropWhile_cons_of_pos (h c (List.mem_cons_self ..))]
    exact ih fun d hd => h d (List.mem_cons_of_mem _ hd)

/-- A run of digits is a number without a sign. -/
theorem isUnsignedReal_of_digits {cs : List Char} (hne : cs ≠ [])
    (h : ∀ c ∈ cs, c.isDigit = true) : isUnsignedReal cs = true := by
  have hdrop := dropWhile_isDigit_eq_nil h
  have htake : cs.takeWhile Char.isDigit = cs := by
    have := List.takeWhile_append_dropWhile (p := Char.isDigit) (l := cs)
    rwa [hdrop, List.append_nil] at this
  simp [isUnsignedReal, htake, hdrop, isExponent, hne]

end UsbPipe.Text
