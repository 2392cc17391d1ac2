/-
Documents that are made of sections.

A document may be written section by section: a header with a name, and below it a value for
every key.  Where no two sections have one name, and no section has a key twice, the entries of
the document are its sections, each a table with the keys of the section in their order.

* `sectionStatements`: what the lines of a section say.
* `put_append`, `put_of_lookup_eq_none`, `put_last`: entries that are added, and the last one
  changed.
* `foldlM_keys`, `foldlM_section`, `foldlM_sections`: what keys, a section and all sections add.
* `ReadsLines.parseChars?`: the entries of a document that is written so.
-/
import UsbPipe.Proofs.Named
import UsbPipe.Proofs.Toml.Lines

namespace UsbPipe.Toml

variable {name key : String} {es keys front : Entries} {v : Toml}

/-! ### Entries -/

/-- Entries under other keys are passed over. -/
lemma put_append (h : es.lookup key = none) (rest : Entries) :
    put key v (es ++ rest) = es ++ put key v rest := by
  induction es with
  | nil => rfl
  | cons e es ih =>
      obtain ⟨k, w⟩ := e
      rw [List.lookup_cons] at h
      split at h
      · cases h
      · next hne =>
          have hk : k ≠ key := fun heq => by simp [heq] at hne
          rw [List.cons_append, put, if_neg hk, ih h]
          rfl

/-- What is put at a new key goes to the end. -/
lemma put_of_lookup_eq_none (h : es.lookup key = none) : put key v es = es ++ [(key, v)] := by
  simpa [put] using put_append h []

/-- What is put at the key of the last entry takes its place. -/
lemma put_last (h : es.lookup key = none) (old : Toml) :
    put key v (es ++ [(key, old)]) = es ++ [(key, v)] := by
  rw [put_append h, put, if_pos rfl]

lemma lookup_last (h : es.lookup key = none) : (es ++ [(key, v)]).lookup key = some v := by
  rw [List.lookup_append, h, Option.none_or]
  simp

/-! ### Sections -/

/-- What the lines of a section say. -/
def sectionStatements (s : String × Entries) : List Statement :=
  .table [s.1] :: s.2.map fun e => .pair [e.1] e.2

/-- A section of a document as its value. -/
def sectionEntry (s : String × Entries) : String × Toml := (s.1, .table .header s.2)

/-- The keys of a section are added to the table of the last header. -/
lemma foldlM_keys (hname : es.lookup name = none)
    (hkeys : ((front ++ keys).map Prod.fst).Nodup) :
    (keys.map fun e => Statement.pair [e.1] e.2).foldlM Draft.add?
        ⟨es ++ [sectionEntry (name, front)], [name]⟩ =
      some ⟨es ++ [sectionEntry (name, front ++ keys)], [name]⟩ := by
  induction keys generalizing front with
  | nil => simp
  | cons e keys ih =>
      obtain ⟨key, v⟩ := e
      have hnew : front.lookup key = none := by
        rw [List.map_append, List.map_cons] at hkeys
        exact lookup_eq_none_of_nodup hkeys
      have hfilled : filled? [key] v (some (.table .header front)) =
          some (.table .header (front ++ [(key, v)])) := by
        rw [filled?, insertDotted?, hnew, put_of_lookup_eq_none hnew]
        rfl
      have hadd : Draft.add? ⟨es ++ [sectionEntry (name, front)], [name]⟩ (.pair [key] v) =
          some ⟨es ++ [sectionEntry (name, front ++ [(key, v)])], [name]⟩ := by
        have hlast : (es ++ [sectionEntry (name, front)]).lookup name =
            some (.table .header front) := lookup_last hname
        simp only [Draft.add?, List.isEmpty_cons, Bool.false_eq_true, if_false, update?, hlast,
          hfilled]
        exact congrArg (fun es => some (Draft.mk es [name])) (put_last hname _)
      rw [List.map_cons, List.foldlM_cons, hadd]
      have hkeys' : ((front ++ [(key, v)] ++ keys).map Prod.fst).Nodup := by simpa using hkeys
      have hrest := ih hkeys'
      rw [List.append_assoc] at hrest
      exact hrest

/-- A section under a new name is added with its keys. -/
lemma foldlM_section {d : Draft} (hname : d.entries.lookup name = none)
    (hkeys : (keys.map Prod.fst).Nodup) :
    (sectionStatements (name, keys)).foldlM Draft.add? d =
      some ⟨d.entries ++ [sectionEntry (name, keys)], [name]⟩ := by
  have hadd : d.add? (.table [name]) = some ⟨d.entries ++ [sectionEntry (name, [])], [name]⟩ := by
    simp only [Draft.add?, update?, hname, opened?]
    exact congrArg (fun es => some (Draft.mk es [name])) (put_of_lookup_eq_none hname)
  rw [sectionStatements, List.foldlM_cons, hadd]
  have hkeys' : (([] ++ keys).map Prod.fst).Nodup := hkeys
  exact foldlM_keys hname hkeys'

/-- Sections under different names are added one after the other. -/
lemma foldlM_sections {d : Draft} {sections : List (String × Entries)}
    (hnames : (d.entries.map Prod.fst ++ sections.map Prod.fst).Nodup)
    (hkeys : ∀ s ∈ sections, (s.2.map Prod.fst).Nodup) :
    ∃ path, (sections.flatMap sectionStatements).foldlM Draft.add? d =
      some ⟨d.entries ++ sections.map sectionEntry, path⟩ := by
  induction sections generalizing d with
  | nil => exact ⟨d.path, by simp⟩
  | cons s sections ih =>
      obtain ⟨name, keys⟩ := s
      have hname : d.entries.lookup name = none := lookup_eq_none_of_nodup hnames
      have hsection := foldlM_section hname (hkeys _ (List.mem_cons_self ..))
      obtain ⟨path, hrest⟩ := ih
        (d := ⟨d.entries ++ [sectionEntry (name, keys)], [name]⟩)
        (by simpa [sectionEntry] using hnames) fun s hs => hkeys s (List.mem_cons_of_mem _ hs)
      refine ⟨path, ?_⟩
      rw [List.flatMap_cons, List.foldlM_append, hsection]
      simpa using hrest

/-- A document whose lines say sections has these sections as its entries. -/
theorem ReadsLines.parseChars? {cs : List Char} {sections : List (String × Entries)}
    (h : ReadsLines cs (sections.flatMap sectionStatements)) (hmark : cs.head? ≠ some '\ufeff')
    (hnames : (sections.map Prod.fst).Nodup)
    (hkeys : ∀ s ∈ sections, (s.2.map Prod.fst).Nodup) :
    parseChars? cs = some (sections.map sectionEntry) := by
  obtain ⟨path, hfold⟩ := foldlM_sections (d := {}) (by simpa using hnames) hkeys
  have hskip : skipMark cs = cs := by
    rw [skipMark]
    rintro rest rfl
    exact hmark rfl
  rw [Toml.parseChars?, hskip, h.statements?]
  simp [hfold]

end UsbPipe.Toml
