/-
A configuration that was saved is loaded again.

What is saved is the text of the configuration, and the path leads to it afterwards, with the
directories that were made on the way and those that were there.  The text is read as the
configuration, which passed its check before and passes it again.  A path that starts with `~`
is left out: it is taken for one below the home of the user when loading, but not when saving.

* `Path.expandHome_eq_self`, `Surroundings.expand_eq_self`: other paths are taken as they are.
* `Config.document?_eq_none_iff`: the timeouts that cannot be saved.
* `Surroundings.save_eq_serialize_iff`: these are refused wherever the path leads.
* `Surroundings.trySave_error`: what a save that fails leaves behind.
* `Surroundings.readText_save`: the text that is found where a configuration was saved.
* `Surroundings.load_save`: the configuration, its filter and its timeouts, and what is refused.
-/
import UsbPipe.Config.Store
import UsbPipe.Proofs.Config.Document
import UsbPipe.Proofs.Files.Tree

namespace UsbPipe

/-! ### Paths without a home -/

lemma Path.expandHome_eq_self {path : String} (home : String)
    (h : path.toList.head? ≠ some '~') : Path.expandHome home path = path := by
  rw [Path.expandHome]
  split
  · next heq => exact absurd (congrArg List.head? heq) h
  · next heq => exact absurd (congrArg List.head? heq) h
  · rfl

/-! ### Timeouts that are refused -/

namespace Config

/-- A timeout can be written if it is below the half of what 64 bits hold. -/
lemma fits_toNat_iff (ms : UInt64) : Toml.fits ms.toNat = true ↔ ms.toNat < 2 ^ 63 := by
  rw [Toml.fits, Bool.and_eq_true, decide_eq_true_iff, decide_eq_true_iff]
  omega

/-- There is no text just for a timeout that cannot be written. -/
lemma document?_eq_none_iff (c : Config) :
    c.document? = none ↔ 2 ^ 63 ≤ c.timeouts.readMs.toNat ∨ 2 ^ 63 ≤ c.timeouts.writeMs.toNat := by
  have hread := fits_toNat_iff c.timeouts.readMs
  have hwrite := fits_toNat_iff c.timeouts.writeMs
  rw [document?]
  split_ifs with hfits
  · obtain ⟨hread', hwrite'⟩ := And.intro (hread.mp hfits.1) (hwrite.mp hfits.2)
    simp only [false_iff]
    omega
  · rw [hread, hwrite] at hfits
    simp only [true_iff]
    omega

end Config

namespace Surroundings

variable {s s' : Surroundings} {c : Config} {path : String}

lemma expand_eq_self (s : Surroundings) (h : path.toList.head? ≠ some '~') :
    s.expand path = path := by
  rw [expand]
  cases s.home? with
  | none => rfl
  | some home => exact Path.expandHome_eq_self home h

/-- A text is written where the directories above the path were made.  If it is not, these are
what is left, and the failure is no matter of timeouts. -/
lemma putText_cases (s : Surroundings) (path text : String) :
    (∃ e, s.putText path text = (.error e, (s.makeParents path).2) ∧ e ≠ .serialize) ∨
      ∃ files, s.putText path text = (.ok (), files) ∧
        (s.makeParents path).2.writeText s.workingDirectory path text = .ok files := by
  have hparents : (s.makeParents path).1 ≠ .error .serialize := by
    rw [makeParents]
    cases Path.parent? path with
    | none => simp
    | some parent =>
        simp only
        cases (s.files.makeDirectories s.workingDirectory parent).1 <;> simp [Except.mapError]
  rw [putText]
  rcases hmade : s.makeParents path with ⟨e | ⟨⟩, files⟩
  · rw [hmade] at hparents
    exact Or.inl ⟨e, rfl, fun he => hparents (congrArg Except.error he)⟩
  · cases hwrite : files.writeText s.workingDirectory path text with
    | error e =>
        exact Or.inl
          ⟨.writeFile path e, by simp [hwrite, FileTree.orKeep, Except.mapError], by simp⟩
    | ok files' => exact Or.inr ⟨files', by simp [hwrite, FileTree.orKeep, Except.mapError], rfl⟩

/-- What a save comes to is what becomes of the text, if the configuration has one. -/
lemma save_of_document? {text : String} (h : c.document? = some text) :
    s.save c path = (s.putText path text).1.map fun () =>
      { s with files := (s.putText path text).2 } := by
  simp only [save, trySave, h]
  rcases s.putText path text with ⟨_ | ⟨⟩, files⟩ <;> rfl

/-- A configuration is refused for its timeouts before the path is looked at. -/
lemma save_eq_serialize_iff (s : Surroundings) (c : Config) (path : String) :
    s.save c path = .error .serialize ↔
      2 ^ 63 ≤ c.timeouts.readMs.toNat ∨ 2 ^ 63 ≤ c.timeouts.writeMs.toNat := by
  rw [← c.document?_eq_none_iff]
  cases hdocument : c.document? with
  | none => simp [save, trySave, hdocument]
  | some text =>
      rw [save_of_document? hdocument]
      rcases s.putText_cases path text with ⟨e, hput, he⟩ | ⟨files, hput, -⟩
      · simp [hput, Except.map, he]
      · simp [hput, Except.map]

/-! ### What is left behind -/

/-- Directories made above a path leave all files as they are, whether all are made or not. -/
lemma gains_makeParents (s : Surroundings) (path : String) :
    s.files.Gains (s.makeParents path).2 := by
  rw [makeParents]
  cases Path.parent? path with
  | none => exact .refl _
  | some parent => exact FileTree.gains_makeDirectories _ _ parent

/-- A save that fails leaves all files as they were; directories that it made may stay. -/
theorem trySave_error {e : ConfigError} (h : s.trySave c path = (.error e, s')) :
    s' = { s with files := s'.files } ∧ s.files.Gains s'.files := by
  rw [trySave] at h
  cases hdocument : c.document? with
  | none =>
      rw [hdocument] at h
      obtain ⟨-, rfl⟩ := Prod.mk.inj h
      exact ⟨rfl, .refl _⟩
  | some text =>
      simp only [hdocument] at h
      rcases s.putText_cases path text with ⟨e, hput, -⟩ | ⟨files, hput, -⟩ <;> rw [hput] at h
      · obtain ⟨-, rfl⟩ := Prod.mk.inj h
        exact ⟨rfl, s.gains_makeParents path⟩
      · cases h

/-! ### What was saved -/

/-- The text of a configuration is found where it was saved, from the same directory. -/
lemma readText_save (h : s.save c path = .ok s') :
    ∃ text, c.document? = some text ∧ s'.workingDirectory = s.workingDirectory ∧
      s'.files.readText s.workingDirectory path = .ok text := by
  cases hdocument : c.document? with
  | none => simp [save, trySave, hdocument] at h
  | some text =>
      rw [save_of_document? hdocument] at h
      rcases s.putText_cases path text with ⟨e, hput, -⟩ | ⟨files, hput, hwrite⟩
      · rw [hput] at h
        cases h
      · rw [hput] at h
        obtain rfl := (Except.ok.inj h).symm
        exact ⟨text, rfl, rfl, FileTree.readText_writeText hwrite⟩

/-- The configuration of a file that holds the text of one that passes the check. -/
lemma loadFile_document? {text : String} (hvalid : c.validate = .ok ())
    (hdocument : c.document? = some text)
    (htext : s.files.readText s.workingDirectory path = .ok text) :
    s.loadFile path = .ok c := by
  rw [loadFile, htext]
  simp only [Config.parse?_document? hvalid hdocument, hvalid]
  rfl

/-- A configuration that passes its check, and was saved to a path that does not start with `~`,
is loaded from this path: all of it, and with it its filter and the timeouts.  What cannot be
saved because of its timeouts is refused wherever the path leads and whatever files there are. -/
theorem load_save (s : Surroundings) (c : Config) (path : String) (hvalid : c.validate = .ok ())
    (hpath : path.toList.head? ≠ some '~') :
    (∀ s', s.save c path = .ok s' →
      ∃ loaded, s'.load (some path) = .ok loaded ∧ loaded = c ∧
        (∃ f, c.filter = .ok f ∧ loaded.filter = .ok f) ∧
        loaded.timeouts.read = c.timeouts.read ∧ loaded.timeouts.write = c.timeouts.write) ∧
      (s.save c path = .error .serialize ↔
        2 ^ 63 ≤ c.timeouts.readMs.toNat ∨ 2 ^ 63 ≤ c.timeouts.writeMs.toNat) := by
  refine ⟨fun s' hsave => ?_, s.save_eq_serialize_iff c path⟩
  obtain ⟨text, hdocument, hcwd, hread⟩ := readText_save hsave
  obtain ⟨-, f, hf⟩ := (Config.validate_eq_ok_iff c).mp hvalid
  have hload : s'.load (some path) = .ok c := by
    rw [← hcwd] at hread
    show s'.loadFile (s'.expand path) = .ok c
    rw [s'.expand_eq_self hpath]
    exact loadFile_document? hvalid hdocument hread
  exact ⟨c, hload, rfl, ⟨f, hf, hf⟩, rfl, rfl⟩

/-- Two directories are made for a configuration with one id and one timeout, and it is loaded
from there. -/
theorem load_save_nested :
    let c : Config := { device := { vendorId := some "0x1209" }, timeouts := { readMs := 42 } }
    ∃ s', ({} : Surroundings).save c "nested/deeper/rawusb.toml" = .ok s' ∧
      ∃ loaded, s'.load (some "nested/deeper/rawusb.toml") = .ok loaded ∧ loaded = c := by
  intro c
  have hok : (({} : Surroundings).save c "nested/deeper/rawusb.toml").isOk = true := by
    decide +kernel
  cases hsave : ({} : Surroundings).save c "nested/deeper/rawusb.toml" with
  | error e => rw [hsave] at hok; cases hok
  | ok s' =>
      obtain ⟨hload, -⟩ := load_save {} c "nested/deeper/rawusb.toml" (by decide) (by decide)
      obtain ⟨loaded, hloaded, heq, -⟩ := hload s' hsave
      exact ⟨s', rfl, loaded, hloaded, heq⟩

end Surroundings

end UsbPipe
