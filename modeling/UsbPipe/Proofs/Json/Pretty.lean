/-
A value is read back from its text with one member a line.

* `blank_lineBreak`: a line break and its indentation are blanks.
* `readsItems_pretty`, `readsMembers_pretty`, `Exact.reads_prettyAt`: at every indentation
  level the text is read as its value.
* `Exact.parseChars?_pretty`, `read?_pretty`: the value of the whole text, with a line break
  after it.
-/
import UsbPipe.Proofs.Json.RoundTrip

namespace UsbPipe.Json

open Text

variable {v : Json} {vs : List Json}

lemma blank_lineBreak (level : ℕ) : Blank (lineBreak level) := by
  intro c hc
  rcases List.mem_cons.mp hc with rfl | hc
  · decide
  · rw [List.eq_of_mem_replicate hc]
    decide

lemma blank_singleton {c : Char} (h : isSpace c = true) : Blank [c] := by
  simpa [Blank] using h

/-- The text of items ends with the closing bracket. -/
lemma prettyItems_eq_append (level : ℕ) (v : Json) (vs : List Json) :
    ∃ items, prettyItems level (v :: vs) = items ++ [']'] := by
  induction vs generalizing v with
  | nil => exact ⟨_, rfl⟩
  | cons w vs ih =>
      obtain ⟨items, hitems⟩ := ih w
      refine ⟨lineBreak (level + 1) ++ v.prettyAt (level + 1) ++ ',' :: items, ?_⟩
      rw [prettyItems, hitems]
      simp

/-- The text of an array stands between its brackets. -/
lemma pretty_arr (vs : List Json) : ∃ items, (arr vs).pretty = '[' :: items ++ [']'] := by
  cases vs with
  | nil => exact ⟨[], rfl⟩
  | cons v vs =>
      obtain ⟨items, hitems⟩ := prettyItems_eq_append 0 v vs
      exact ⟨items, by rw [pretty, prettyAt, hitems, List.cons_append]⟩

/-- Items on lines of their own are read up to the closing bracket. -/
lemma readsItems_pretty (level : ℕ)
    (hread : ∀ w ∈ v :: vs, Reads w (w.prettyAt (level + 1))) :
    ReadsItems (v :: vs) (prettyItems level (v :: vs)) := by
  induction vs generalizing v with
  | nil =>
      have hv := (hread v (List.mem_singleton_self v)).after (blank_lineBreak (level + 1))
      exact hv.last (blank_lineBreak level)
  | cons w vs ih =>
      have hv := (hread v (List.mem_cons_self ..)).after (blank_lineBreak (level + 1))
      exact .cons hv (ih fun x hx => hread x (List.mem_cons_of_mem _ hx))

/-- Members on lines of their own are read up to the closing brace. -/
lemma readsMembers_pretty (level : ℕ) {m : String × Json} {ms : List (String × Json)}
    (hread : ∀ n ∈ m :: ms, Reads n.2 (n.2.prettyAt (level + 1))) :
    ReadsMembers (named (m :: ms)) (prettyMembers level (named (m :: ms))) := by
  have hgap : Blank [' '] := blank_singleton rfl
  induction ms generalizing m with
  | nil =>
      have hm := (hread m (List.mem_singleton_self m)).after hgap
      exact hm.lastMember m.1 (blank_lineBreak (level + 1)) (blank_lineBreak level)
  | cons n ms ih =>
      have hms := ih fun x hx => hread x (List.mem_cons_of_mem _ hx)
      have hm := (hread m (List.mem_cons_self ..)).after hgap
      exact hms.cons m.1 hm (blank_lineBreak (level + 1))

/-- Every value that a text can hold is read back from its text with one member a line. -/
theorem Exact.reads_prettyAt (h : v.Exact) (level : ℕ) : Reads v (v.prettyAt level) := by
  induction h generalizing level with
  | null => exact reads_null
  | bool value =>
      cases value with
      | true => exact reads_true
      | false => exact reads_false
  | nat n => exact reads_decimal n
  | text s => exact reads_quoted s
  | @arr items _ ih =>
      cases items with
      | nil => exact reads_arr_nil
      | cons v vs => exact (readsItems_pretty level fun w hw => ih w hw (level + 1)).arr
  | @members ms _ ih =>
      cases ms with
      | nil => exact reads_obj_nil
      | cons m ms => exact (readsMembers_pretty level fun n hn => ih n hn (level + 1)).obj

/-- A value is the value of its text with one member a line, and with blanks after that. -/
theorem Exact.parseChars?_pretty (h : v.Exact) {ws : List Char} (hws : Blank ws) :
    parseChars? (v.pretty ++ ws) = some v :=
  (h.reads_prettyAt 0).parseChars? hws

/-- A value of a lawful type is read back from its text with one member a line. -/
theorem read?_pretty {α : Type} [Coded α] [LawfulCoded α] (a : α) {ws : List Char}
    (hws : Blank ws) : read? α (String.ofList ((encode a).pretty ++ ws)) = some a := by
  rw [read?, parse?, String.toList_ofList, (exact a).parseChars?_pretty hws]
  exact decode_encode a

end UsbPipe.Json
