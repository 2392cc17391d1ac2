/-
What was written to a path is read from it.

The place that a file is put at holds no directory before.  So every directory stays one, and a
walk that led somewhere leads there still: the same path leads to the new file.

* `FileTree.HasDirectories`: the directories of a tree are directories of another.
* `get?_put_cases`: what else is in a tree once something is put somewhere.
* `hasDirectories_put`: directories stay where something is put at a place that is none of them.
* `FileTree.Gains`, `gains_makeDirectories`: making directories leaves all files as they are.
* `HasDirectories.foldlM_advance`: a walk leads to the same place.
* `get?_put_append`: what was put into a directory anywhere is found there.
* `targetOf_eq_entry`: the components of a path to an entry of a directory.
* `resolve_of_writeText`: where a file is written to, and what there was.
* `readText_writeText`: the text that was written is read.
-/
import UsbPipe.Files.Tree
import UsbPipe.Proofs.Named

namespace UsbPipe.FileTree

variable {t t' new : FileTree} {cwd place place' folder : Place} {name : String}

/-! ### Directories that stay -/

/-- Where one tree has a directory, the other has one too. -/
def HasDirectories (t t' : FileTree) : Prop :=
  ∀ place entries, t.get? place = some (.directory entries) →
    ∃ entries', t'.get? place = some (.directory entries')

/-- The entries of a directory under other names are kept. -/
lemma entry?_setEntry_of_ne {entries : List (String × FileTree)} {other : String}
    (child : FileTree) (h : other ≠ name) :
    entry? other ((directory entries).setEntry name child) = entry? other (directory entries) := by
  have hname : (other == name) = false := by simpa using h
  rw [setEntry, entry?, entry?, List.lookup_cons, hname]
  exact lookup_filter_of_ne (Ne.symm h) entries

lemma entry?_setEntry (entries : List (String × FileTree)) (name : String) (child : FileTree) :
    entry? name ((directory entries).setEntry name child) = some child :=
  List.lookup_cons_self

/-- What is somewhere in a tree is there once something is put at a place without a directory:
a directory, perhaps with more in it, and a file as it is, unless it was at this place. -/
lemma get?_put_cases (new : FileTree) (h : ∀ entries, t.get? place ≠ some (.directory entries))
    {other : Place} {u : FileTree} (hother : t.get? other = some u) :
    ∃ u', (t.put new place).get? other = some u' ∧
      ((∃ entries entries', u = .directory entries ∧ u' = .directory entries') ∨ u' = u ∨
        other = place) := by
  -- along both places, as long as they lead the same way
  induction place generalizing t other with
  | nil =>
      cases t with
      | directory entries => exact absurd rfl (h entries)
      | file text? =>
          cases other with
          | nil => exact ⟨new, rfl, Or.inr (Or.inr rfl)⟩
          | cons => cases hother
  | cons name names ih =>
      cases t with
      | file text? =>
          cases other with
          | nil => exact ⟨_, rfl, Or.inr (Or.inl (Option.some.inj hother))⟩
          | cons => cases hother
      | directory children =>
          cases other with
          | nil => exact ⟨_, rfl, Or.inl ⟨_, _, (Option.some.inj hother).symm, rfl⟩⟩
          | cons other others =>
              rw [get?] at hother
              rw [put, get?]
              by_cases hname : other = name
              · subst hname
                obtain ⟨child, hchild, hget⟩ := Option.bind_eq_some_iff.mp hother
                rw [entry?_setEntry, hchild, Option.bind_some, Option.getD_some]
                have hfree : ∀ entries, child.get? names ≠ some (.directory entries) := by
                  intro entries hentries
                  exact h entries (by rw [get?, hchild, Option.bind_some, hentries])
                obtain ⟨u', hu', hcases⟩ := ih hfree hget
                exact ⟨u', hu', hcases.imp_right (Or.imp_right (congrArg (other :: ·)))⟩
              · rw [entry?_setEntry_of_ne _ hname]
                exact ⟨u, hother, Or.inr (Or.inl rfl)⟩

/-- What is put at a place without a directory leaves the directories of the tree. -/
lemma hasDirectories_put (new : FileTree)
    (h : ∀ entries, t.get? place ≠ some (.directory entries)) :
    HasDirectories t (t.put new place) := by
  intro other entries hother
  obtain ⟨u, hu, ⟨_, entries', -, rfl⟩ | rfl | rfl⟩ := get?_put_cases new h hother
  · exact ⟨entries', hu⟩
  · exact ⟨entries, hu⟩
  · exact absurd hother (h entries)

/-! ### Trees that gain directories -/

/-- What is in one tree is in the other: files as they are, directories perhaps with more. -/
structure Gains (t t' : FileTree) : Prop where
  files : ∀ place text?, t.get? place = some (.file text?) → t'.get? place = some (.file text?)
  directories : HasDirectories t t'

lemma Gains.refl (t : FileTree) : t.Gains t := ⟨fun _ _ h => h, fun _ entries h => ⟨entries, h⟩⟩

lemma Gains.trans {t'' : FileTree} (h : t.Gains t') (h' : t'.Gains t'') : t.Gains t'' where
  files := fun place text? hget => h'.files place text? (h.files place text? hget)
  directories := by
    intro place entries hget
    obtain ⟨entries', hget'⟩ := h.directories place entries hget
    exact h'.directories place entries' hget'

/-- Where nothing is, anything may be put. -/
lemma gains_put (new : FileTree) (h : t.get? place = none) : t.Gains (t.put new place) := by
  have hfree : ∀ entries, t.get? place ≠ some (.directory entries) := by simp [h]
  refine ⟨fun other text? hother => ?_, hasDirectories_put new hfree⟩
  obtain ⟨u, hu, ⟨_, _, hdirectory, -⟩ | rfl | rfl⟩ := get?_put_cases new hfree hother
  · cases hdirectory
  · exact hu
  · cases h.symm.trans hother

/-- A new directory is made where nothing was. -/
lemma gains_makeDirectory {path : String} (h : t.makeDirectory cwd path = .ok t') :
    t.Gains t' := by
  rw [makeDirectory] at h
  cases htarget : t.targetOf cwd path with
  | error e => rw [htarget] at h; cases h
  | ok target =>
      simp only [htarget, bind, Except.bind] at h
      cases target with
      | passed => cases h
      | entry folder name slashes =>
          simp only at h
          cases hplace : t.advance folder name with
          | error e => rw [hplace] at h; cases h
          | ok place =>
              simp only [hplace] at h
              cases hget : t.get? place with
              | some _ => rw [hget] at h; cases h
              | none =>
                  rw [hget] at h
                  exact Except.ok.inj h ▸ gains_put .empty hget

/-- So a directory is made, or is there. -/
lemma gains_ensureDirectory {path : String} (h : t.ensureDirectory cwd path = .ok t') :
    t.Gains t' := by
  rw [ensureDirectory] at h
  split at h
  · split_ifs at h
    exact Except.ok.inj h ▸ .refl t
  · exact gains_makeDirectory h

lemma gains_orKeep {result : Except FileError FileTree} (h : ∀ t', result = .ok t' → t.Gains t') :
    t.Gains (t.orKeep result).2 := by
  cases result with
  | error e => exact .refl t
  | ok t' => exact h t' rfl

/-- Directories made one below the other, as far as that goes. -/
lemma gains_ensureFirst (t : FileTree) (cwd : Place) (paths : List String) :
    t.Gains (t.ensureFirst cwd paths).2 := by
  induction paths with
  | nil => exact .refl t
  | cons path above ih =>
      rw [ensureFirst]
      split
      · rcases hmade : t.ensureFirst cwd above with ⟨e | ⟨⟩, t'⟩ <;> rw [hmade] at ih
        · exact ih
        · exact ih.trans (gains_orKeep fun _ h => gains_ensureDirectory h)
      · exact gains_orKeep fun _ h => gains_ensureDirectory h

lemma gains_makeDirectories (t : FileTree) (cwd : Place) (path : String) :
    t.Gains (t.makeDirectories cwd path).2 := gains_ensureFirst t cwd _

/-! ### Walks that lead there still -/

lemma advance_eq_ok {part : String} (h : t.advance place part = .ok place') :
    ∃ entries, t.get? place = some (.directory entries) := by
  rw [advance] at h
  split at h
  · cases h
  · cases h
  · next entries hdirectory => exact ⟨entries, hdirectory⟩

namespace HasDirectories

variable (h : HasDirectories t t')

include h in
lemma advance {part : String} (hok : t.advance place part = .ok place') :
    t'.advance place part = .ok place' := by
  obtain ⟨entries, hdirectory⟩ := advance_eq_ok hok
  obtain ⟨entries', hdirectory'⟩ := h place entries hdirectory
  rw [FileTree.advance, hdirectory] at hok
  rw [FileTree.advance, hdirectory']
  exact hok

include h in
lemma foldlM_advance {parts : List String} (hok : parts.foldlM t.advance place = .ok place') :
    parts.foldlM t'.advance place = .ok place' := by
  induction parts generalizing place with
  | nil => exact hok
  | cons part parts ih =>
      rw [List.foldlM_cons] at hok ⊢
      cases hstep : t.advance place part with
      | error e => rw [hstep] at hok; cases hok
      | ok next =>
          rw [hstep] at hok
          rw [h.advance hstep]
          exact ih hok

include h in
lemma resolve {path : String} (hok : t.resolve cwd path = .ok place) :
    t'.resolve cwd path = .ok place := by
  rw [FileTree.resolve] at hok ⊢
  cases hstart : startOf cwd path with
  | error e => rw [hstart] at hok; cases hok
  | ok start =>
      rw [hstart] at hok
      exact h.foldlM_advance hok

end HasDirectories

/-! ### What was written -/

/-- What was put into a directory anywhere in the tree is found there. -/
lemma get?_put_append {entries : List (String × FileTree)}
    (h : t.get? folder = some (.directory entries)) :
    (t.put new (folder ++ [name])).get? (folder ++ [name]) = some new := by
  induction folder generalizing t with
  | nil =>
      obtain rfl : t = .directory entries := Option.some.inj h
      exact get?_put _ _ _ rfl
  | cons first folder ih =>
      obtain ⟨child, hchild, hget⟩ := Option.bind_eq_some_iff.mp h
      cases t with
      | file text? => cases hchild
      | directory children =>
          rw [List.cons_append, put, get?, entry?_setEntry, hchild, Option.bind_some,
            Option.getD_some]
          exact ih hget

/-- A name that is neither idle nor the directory above leads to the entry with this name. -/
lemma advance_name {entries : List (String × FileTree)}
    (hfolder : t.get? folder = some (.directory entries)) (hidle : Path.isIdle name = false)
    (habove : name ≠ "..") (h : t.advance folder name = .ok place) : place = folder ++ [name] := by
  rw [advance, hfolder] at h
  simp only [hidle, Bool.false_eq_true, if_false, if_neg habove] at h
  split_ifs at h
  exact (Except.ok.inj h).symm

/-- The components of a path whose last one names an entry of a directory. -/
lemma targetOf_eq_entry {path : String} {slashes : Bool}
    (h : t.targetOf cwd path = .ok (.entry folder name slashes)) :
    ∃ start parts above entries, startOf cwd path = .ok (start, parts) ∧
      parts.reverse.dropWhile (· == "") = name :: above ∧
      above.reverse.foldlM t.advance start = .ok folder ∧
      t.get? folder = some (.directory entries) ∧ name ≠ "." ∧ name ≠ ".." ∧
      (parts.getLast? == some "") = slashes := by
  rw [targetOf] at h
  cases hstart : startOf cwd path with
  | error e => rw [hstart] at h; cases h
  | ok walk =>
      obtain ⟨start, parts⟩ := walk
      simp only [hstart, bind, Except.bind] at h
      cases hparts : parts.reverse.dropWhile (· == "") with
      | nil => rw [hparts] at h; cases h
      | cons last above =>
          simp only [hparts] at h
          cases hfolder : above.reverse.foldlM t.advance start with
          | error e => rw [hfolder] at h; cases h
          | ok place =>
              simp only [hfolder] at h
              split at h
              · cases h
              · cases h
              · next entries hdirectory =>
                split_ifs at h with hdots
                · cases h
                · obtain ⟨hdot, habove⟩ := not_or.mp hdots
                  cases h
                  exact ⟨start, parts, above, entries, rfl, hparts, hfolder, hdirectory, hdot,
                    habove, rfl⟩

/-- Without a slash at the end nothing is dropped there. -/
lemma eq_of_dropWhile_blank {parts above : List String}
    (h : parts.reverse.dropWhile (· == "") = name :: above)
    (hlast : (parts.getLast? == some "") = false) :
    parts = above.reverse ++ [name] ∧ name ≠ "" := by
  have hreverse : parts.reverse = name :: above := by
    rw [List.getLast?_eq_head?_reverse] at hlast
    cases hparts : parts.reverse with
    | nil => simp [hparts] at h
    | cons last rest =>
        have hne : last ≠ "" := by simpa [hparts] using hlast
        rwa [hparts, List.dropWhile_cons_of_neg (by simpa using hne)] at h
  refine ⟨?_, ?_⟩
  · rw [← List.reverse_reverse parts, hreverse, List.reverse_cons]
  · simpa [List.getLast?_eq_head?_reverse, hreverse] using hlast

/-- A file is written at the place that its path leads to, below a directory and in place of
none. -/
lemma resolve_of_writeText {path text : String} (h : t.writeText cwd path text = .ok t') :
    ∃ folder name entries, t.get? folder = some (.directory entries) ∧
      t.resolve cwd path = .ok (folder ++ [name]) ∧
      (∀ entries, t.get? (folder ++ [name]) ≠ some (.directory entries)) ∧
      t' = t.put (.file (some text)) (folder ++ [name]) := by
  rw [writeText] at h
  cases htarget : t.targetOf cwd path with
  | error e => rw [htarget] at h; cases h
  | ok target =>
      simp only [htarget, bind, Except.bind] at h
      split at h
      · cases h
      · cases h
      · next folder name =>
        obtain ⟨start, parts, above, entries, hstart, hparts, hwalk, hfolder, hdot, habove,
          hlast⟩ := targetOf_eq_entry htarget
        obtain ⟨rfl, hblank⟩ := eq_of_dropWhile_blank hparts hlast
        have hidle : Path.isIdle name = false := by simp [Path.isIdle, hblank, hdot]
        cases hplace : t.advance folder name with
        | error e => rw [hplace] at h; cases h
        | ok place =>
            obtain rfl := advance_name hfolder hidle habove hplace
            simp only [hplace] at h
            have hresolve : t.resolve cwd path = .ok (folder ++ [name]) := by
              rw [resolve, hstart]
              show (above.reverse ++ [name]).foldlM t.advance start = _
              rw [List.foldlM_append, hwalk]
              show List.foldlM t.advance folder [name] = _
              rw [List.foldlM_cons, hplace]
              rfl
            refine ⟨folder, name, entries, hfolder, hresolve, fun entries' hget => ?_, ?_⟩
            · rw [hget] at h
              cases h
            · split at h
              · cases h
              · exact (Except.ok.inj h).symm
              · exact (Except.ok.inj h).symm

/-- The text that was written to a path is read from it. -/
theorem readText_writeText {path text : String} (h : t.writeText cwd path text = .ok t') :
    t'.readText cwd path = .ok text := by
  obtain ⟨folder, name, entries, hfolder, hresolve, hfree, rfl⟩ := resolve_of_writeText h
  have hresolve' := (hasDirectories_put (.file (some text)) hfree).resolve hresolve
  rw [readText, hresolve']
  simp only [bind, Except.bind, get?_put_append hfolder]

end UsbPipe.FileTree
