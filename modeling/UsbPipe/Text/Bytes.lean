/-
Places in text, counted in bytes of UTF-8.

* `utf8Size`: the number of bytes of a text.
* `splitBytes?`: the text cut after so many bytes, unless that is inside a character.
* `splitBytes?_append`: it cuts two texts apart that were put together.
* `append_of_splitBytes?`: the two parts are the text, and the first has so many bytes.
-/

namespace UsbPipe.Text

/-- The number of bytes that characters take in UTF-8. -/
def utf8Size (cs : List Char) : Nat := cs.foldr (fun c n => c.utf8Size + n) 0

/-- The text up to so many bytes, and the text from there on; there is no place inside a
character nor behind the text. -/
def splitBytes? : Nat → List Char → Option (List Char × List Char)
  | 0, cs => some ([], cs)
  | _ + 1, [] => none
  | n + 1, c :: cs =>
    if c.utf8Size ≤ n + 1 then
      (splitBytes? (n + 1 - c.utf8Size) cs).map fun (front, back) => (c :: front, back)
    else none

/-- The size of a character and a text. -/
theorem utf8Size_cons (c : Char) (cs : List Char) :
    utf8Size (c :: cs) = c.utf8Size + utf8Size cs := rfl

/-- The sizes of two texts that are put together add up. -/
theorem utf8Size_append (a b : List Char) : utf8Size (a ++ b) = utf8Size a + utf8Size b := by
  induction a with
  | nil => simp [utf8Size]
  | cons c cs ih => rw [List.cons_append, utf8Size_cons, utf8Size_cons, ih, Nat.add_assoc]

/-- Between two texts that are put together is a place. -/
theorem splitBytes?_append (a b : List Char) : splitBytes? (utf8Size a) (a ++ b) = some (a, b) := by
  induction a with
  | nil => rw [List.nil_append, show utf8Size [] = 0 from rfl, splitBytes?]
  | cons c cs ih =>
    have hpos := c.utf8Size_pos
    obtain ⟨n, hn⟩ : ∃ n, utf8Size (c :: cs) = n + 1 :=
      ⟨c.utf8Size + utf8Size cs - 1, by rw [utf8Size_cons]; omega⟩
    have hle : c.utf8Size ≤ n + 1 := by rw [← hn, utf8Size_cons]; omega
    have hrest : n + 1 - c.utf8Size = utf8Size cs := by rw [← hn, utf8Size_cons]; omega
    rw [hn, List.cons_append, splitBytes?, if_pos hle, hrest, ih]
    rfl

/-- The parts of a text that was cut make it up, and the cut is where it was asked for. -/
theorem append_of_splitBytes? {n : Nat} {cs front back : List Char}
    (h : splitBytes? n cs = some (front, back)) : front ++ back = cs ∧ utf8Size front = n := by
  induction cs generalizing n front with
  | nil =>
    cases n with
    | zero =>
      rw [splitBytes?, Option.some.injEq, Prod.mk.injEq] at h
      rw [← h.1, ← h.2]
      exact ⟨rfl, rfl⟩
    | succ n => rw [splitBytes?] at h; exact absurd h (by simp)
  | cons c cs ih =>
    cases n with
    | zero =>
      rw [splitBytes?, Option.some.injEq, Prod.mk.injEq] at h
      rw [← h.1, ← h.2]
      exact ⟨rfl, rfl⟩
    | succ n =>
      rw [splitBytes?] at h
      split at h
      next hle =>
        obtain ⟨⟨f, b⟩, hs, hfb⟩ := Option.map_eq_some_iff.1 h
        rw [Prod.mk.injEq] at hfb
        obtain ⟨rfl, rfl⟩ := hfb
        obtain ⟨hcs, hsize⟩ := ih hs
        exact ⟨by rw [List.cons_append, hcs], by rw [utf8Size_cons, hsize]; omega⟩
      next => exact absurd h (by simp)

end UsbPipe.Text
