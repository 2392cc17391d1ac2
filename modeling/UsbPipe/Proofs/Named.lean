/-
Lists of things under names.

An association list takes the place of a map wherever a program keeps something under a
name: a new entry is put at the end after the old one under its name is filtered out.

* `lookup_split`, `filter_split`: the list around a name, and without it.
* `lookup_filter_self`, `lookup_filter_of_ne`: what is looked up when a name is filtered out.
* `lookup_eq_none_of_nodup`: a name that is not in the list.
* `mem_of_lookup`, `lookup_of_mem`: what is in the list is found under its name.
* `lookup_ne`: different names are for different things where nothing is kept twice.
* `nodup_names_filter`, `nodup_names_append`: names stay distinct.
* `mem_foldl_drop`: what is left when names are dropped one by one.
-/
import Mathlib.Tactic.Common
import Mathlib.Data.List.Nodup
import Mathlib.Data.List.Perm.Basic

namespace UsbPipe

/-- What no entry has is not filtered out. -/
lemma filter_ne_eq_self {α β : Type} [BEq β] [LawfulBEq β] {l : List α} {g : α → β} {b : β}
    (h : ∀ a ∈ l, g a ≠ b) : l.filter (g · != b) = l :=
  List.filter_eq_self.mpr fun a ha => bne_iff_ne.mpr (h a ha)

variable {β : Type} {l : List (String × β)} {name : String}

/-- The list around a name, which nothing else in it has. -/
lemma lookup_split (h : (l.map Prod.fst).Nodup) {b : β} (hl : l.lookup name = some b) :
    ∃ l₁ l₂, l = l₁ ++ (name, b) :: l₂ ∧ ∀ e ∈ l₁ ++ l₂, e.1 ≠ name := by
  obtain ⟨l₁, l₂, rfl, -⟩ := List.lookup_eq_some_iff.mp hl
  refine ⟨l₁, l₂, rfl, fun e he hname => ?_⟩
  rw [List.map_append, List.map_cons, List.perm_middle.nodup_iff, ← List.map_append] at h
  exact (List.nodup_cons.mp h).1 (List.mem_map.mpr ⟨e, he, hname⟩)

/-- Without the entry under the name, the list is what stands around it. -/
lemma filter_split {l₁ l₂ : List (String × β)} {b : β} (h : ∀ e ∈ l₁ ++ l₂, e.1 ≠ name) :
    (l₁ ++ (name, b) :: l₂).filter (·.1 != name) = l₁ ++ l₂ := by
  rw [List.filter_append, List.filter_cons_of_neg (by simp),
    filter_ne_eq_self fun e he => h e (List.mem_append_left _ he),
    filter_ne_eq_self fun e he => h e (List.mem_append_right _ he)]

/-- A name that is looked up in vain takes nothing from the list. -/
lemma filter_of_lookup_eq_none (h : l.lookup name = none) : l.filter (·.1 != name) = l :=
  filter_ne_eq_self fun e he hname => by simpa [hname] using List.lookup_eq_none_iff.mp h e he

/-- Nothing is found under a name that is filtered out. -/
lemma lookup_filter_self (l : List (String × β)) (name : String) :
    (l.filter (·.1 != name)).lookup name = none := by
  refine List.lookup_eq_none_iff.mpr fun e he => ?_
  have hne := bne_iff_ne.mp (List.mem_filter.mp he).2
  simpa using hne.symm

/-- Other keys keep what is under them. -/
lemma lookup_filter_of_ne {κ : Type} [BEq κ] [LawfulBEq κ] {key other : κ} (h : other ≠ key) :
    ∀ l : List (κ × β), (l.filter (·.1 != other)).lookup key = l.lookup key
  | [] => rfl
  | (k, b) :: l => by
      by_cases hk : k = other
      · have hkey : (key == k) = false := by simpa [hk] using h.symm
        rw [List.filter_cons_of_neg (by simp [hk]), List.lookup_cons, hkey,
          lookup_filter_of_ne h l]
      · rw [List.filter_cons_of_pos (by simpa using hk), List.lookup_cons, List.lookup_cons,
          lookup_filter_of_ne h l]

/-- A name that follows those of a list, none of which comes twice, is not in the list. -/
lemma lookup_eq_none_of_nodup {names : List String}
    (h : (l.map Prod.fst ++ name :: names).Nodup) : l.lookup name = none := by
  refine List.lookup_eq_none_iff.mpr fun e he => ?_
  have hnot := List.disjoint_of_nodup_append h (List.mem_map_of_mem he)
  simpa using fun heq : name = e.1 => hnot (heq ▸ List.mem_cons_self ..)

/-- The entry under a name is in the list. -/
lemma mem_of_lookup {b : β} (h : l.lookup name = some b) : (name, b) ∈ l := by
  obtain ⟨l₁, l₂, rfl, -⟩ := List.lookup_eq_some_iff.mp h
  exact List.mem_append_right _ (List.mem_cons_self ..)

/-- Where nothing is kept under two names, different names have different things. -/
lemma lookup_ne {other : String} {a b : β} (h : (l.map Prod.snd).Nodup)
    (ha : l.lookup name = some a) (hb : l.lookup other = some b) (hne : other ≠ name) : b ≠ a :=
  fun hba => hne (congrArg Prod.fst
    (List.inj_on_of_nodup_map h (mem_of_lookup hb) (mem_of_lookup ha) hba))

/-- Where dropping a name filters it out, dropping some names leaves none of them. -/
lemma mem_foldl_drop {S : Type} {get : S → List (String × β)} {drop : S → String → S}
    (hdrop : ∀ s name, get (drop s name) = (get s).filter (·.1 != name)) {e : String × β}
    (names : List String) (s : S) :
    e ∈ get (names.foldl drop s) → e ∈ get s ∧ e.1 ∉ names := by
  induction names generalizing s with
  | nil => exact fun he => ⟨he, by simp⟩
  | cons name names ih =>
      intro he
      obtain ⟨hmem, hnot⟩ := ih (drop s name) he
      rw [hdrop] at hmem
      obtain ⟨hmem, hne⟩ := List.mem_filter.mp hmem
      exact ⟨hmem, fun h => (List.mem_cons.mp h).elim (bne_iff_ne.mp hne) hnot⟩

/-- What is filtered keeps its distinct names. -/
lemma nodup_names_filter (h : (l.map Prod.fst).Nodup) (pick : String × β → Bool) :
    ((l.filter pick).map Prod.fst).Nodup :=
  (List.filter_sublist.map _).nodup h

/-- A fresh name at the end of a list without it. -/
lemma nodup_names_append (h : (l.map Prod.fst).Nodup) (name : String) (b : β) :
    ((l.filter (·.1 != name) ++ [(name, b)]).map Prod.fst).Nodup := by
  rw [List.map_append]
  refine (nodup_names_filter h _).append (List.nodup_singleton _) fun x hx hx' => ?_
  obtain ⟨e, he, rfl⟩ := List.mem_map.mp hx
  have hne := (List.mem_filter.mp he).2
  have heq : e.1 = name := List.mem_singleton.mp hx'
  simp [heq] at hne

end UsbPipe
