/-
Text cut into pieces.

* `pieces`: what stands between the separators of a text.
* `join_pieces`: the pieces with separators between them are the text.
-/

namespace UsbPipe.Text

/-- Text cut at every separator; there is always at least one piece. -/
def pieces (separator : Char) : List Char → List (List Char)
  | [] => [[]]
  | c :: cs =>
    match pieces separator cs with
    | [] => [[c]]
    | piece :: rest => if c = separator then [] :: piece :: rest else (c :: piece) :: rest

/-- There is always a piece. -/
theorem pieces_ne_nil (separator : Char) (cs : List Char) : pieces separator cs ≠ [] := by
  cases cs with
  | nil => simp [pieces]
  | cons c cs =>
    rw [pieces]
    split
    · simp
    · split <;> simp

/-- The pieces with separators between them are the text. -/
theorem join_pieces (separator : Char) (cs : List Char) :
    List.intercalate [separator] (pieces separator cs) = cs := by
  induction cs with
  | nil => rfl
  | cons c cs ih =>
    rw [pieces]
    split
    next h => exact absurd h (pieces_ne_nil separator cs)
    next piece rest h =>
      rw [h] at ih
      split
      next hc => rw [hc, ← ih]; simp [List.intercalate, List.intersperse]
      next =>
        rw [← ih]
        cases rest <;> simp [List.intercalate, List.intersperse]

end UsbPipe.Text
