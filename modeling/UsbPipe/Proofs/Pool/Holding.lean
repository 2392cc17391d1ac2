/-
Runs of retaining and dropping.

Whoever works with a pool keeps the holds it is given under names of its own.  Whatever is
retained and dropped, with whatever notion of sameness, the pool stays in step with the
holds that are kept.

* `Holders.live`: the holds that are kept.
* `Holders.Sound`: the invariant, with the holds of an action under way.
* `Sound.step`, `Sound.run`: it holds after one action and after every run.
* `hold?_run`: a hold stays as it is while nothing is done under its name.
* `run_represents`: what the pool shows after any run, and what it keeps of each hold.
* `dropAll_isEmpty`: nothing is left when every hold is dropped.
-/
import Mathlib.Algebra.BigOperators.Group.List.Lemmas
import Mathlib.Algebra.GroupWithZero.Nat
import Mathlib.Data.List.Dedup
import UsbPipe.Pool.Holders
import UsbPipe.Proofs.Named
import UsbPipe.Proofs.Pool.Backing

namespace UsbPipe

open Usb

namespace Pool

variable {δ : Type} {p : Pool δ} {hs : List (Hold δ)}

namespace Backs

/-- There is a record for an id just when there is a hold with it. -/
lemma mem_ids_iff (hb : p.Backs hs) (id : ℕ) :
    id ∈ p.records.map Record.id ↔ id ∈ hs.map Hold.id := by
  simp only [List.mem_map]
  constructor
  · rintro ⟨r, hr, rfl⟩
    have hpos : 0 < hs.countP (·.id == r.id) := hb.refs_eq r hr ▸ hb.refs_pos r hr
    obtain ⟨h, hh, hid⟩ := List.countP_pos_iff.mp hpos
    exact ⟨h, hh, by simpa using hid⟩
  · rintro ⟨h, hh, rfl⟩
    obtain ⟨r, hr, hid, -⟩ := hb.held h hh
    exact ⟨r, hr, hid⟩

/-- A pool is empty just when it backs no holds. -/
lemma isEmpty_iff (hb : p.Backs hs) : p.isEmpty = true ↔ hs = [] := by
  rw [isEmpty, List.isEmpty_iff]
  constructor
  · intro hnil
    refine List.eq_nil_iff_forall_not_mem.mpr fun h hh => ?_
    obtain ⟨r, hr, -⟩ := hb.held h hh
    simp [hnil] at hr
  · rintro rfl
    exact hb.records_eq_nil

/-- The record under the id of a hold is of its key and device. -/
lemma find?_hold (hb : p.Backs hs) {h : Hold δ} (hh : h ∈ hs) :
    ∃ r, p.find? h.id = some r ∧ r.key = h.key ∧ r.device = h.device := by
  obtain ⟨r, hr, hid, hkey, hdev⟩ := hb.held h hh
  exact ⟨r, hid ▸ hb.find?_id hr, hkey, hdev⟩

/-- The counts under the keys in use add up to the count of all holds. -/
lemma sum_refs (hb : p.Backs hs) :
    ((hs.map Hold.key).dedup.map p.refs).sum = p.outstanding := by
  have hrefs : p.refs = fun key => (hs.map Hold.key).count key := by
    funext key
    rw [hb.refs_eq_countP, List.count, List.countP_map]
    rfl
  rw [hrefs, List.sum_map_count_dedup_eq_length, List.length_map, hb.outstanding_eq]

end Backs

/-- What a hold comes with: the key asked for, and the device asked for or one that was
found to be the same. -/
lemma Backs.hold_retain (hb : p.Backs hs) (same : δ → δ → Bool) (key : DeviceKey) (device : δ) :
    (p.retain same key device).hold.key = key ∧
      ((p.retain same key device).hold.device = device ∨
        same (p.retain same key device).hold.device device = true) := by
  rcases hb.retain_cases same key device with ⟨r, -, hkey, hsame, heq⟩ | ⟨_, -, heq⟩
  · rw [heq]
    exact ⟨hkey, Or.inr hsame⟩
  · rw [heq]
    exact ⟨rfl, Or.inl rfl⟩

end Pool

namespace Holders

variable {δ : Type}

/-- The holds that are kept. -/
def live (s : Holders δ) : List (Hold δ) := s.holds.map Prod.snd

/-- The name that an action is about. -/
def Action.name : Action δ → String
  | .retain _ _ _ name => name
  | .drop name => name

/-! ### The invariant -/

/-- Names are distinct, and the pool backs the holds that are kept and the holds `E` of an
action under way. -/
structure Sound (s : Holders δ) (E : List (Hold δ)) : Prop where
  names_nodup : (s.holds.map Prod.fst).Nodup
  backs : s.pool.Backs (E ++ s.live)

variable {s : Holders δ} {E : List (Hold δ)}

/-- Nothing is kept at first. -/
lemma sound_empty : Sound ({} : Holders δ) [] where
  names_nodup := List.nodup_nil
  backs := Pool.backs_nil

/-- What dropping a name leaves of the names. -/
lemma holds_drop (s : Holders δ) (name : String) :
    (s.drop name).holds = s.holds.filter (·.1 != name) := by
  rw [drop]
  cases hl : s.hold? name with
  | none => exact (filter_of_lookup_eq_none hl).symm
  | some g => rfl

/-- What dropping a used name does to the pool. -/
lemma pool_drop {name : String} {g : Hold δ} (hl : s.hold? name = some g) :
    (s.drop name).pool = (s.pool.release g).pool := by
  rw [drop, hl]

/-- The holds kept are the one under a name and those that stay when it is dropped. -/
lemma live_drop_perm (h : (s.holds.map Prod.fst).Nodup) {name : String} {g : Hold δ}
    (hl : s.hold? name = some g) : s.live.Perm (g :: (s.drop name).live) := by
  obtain ⟨l₁, l₂, hsplit, hne⟩ := lookup_split h hl
  rw [live, live, holds_drop, hsplit, filter_split hne, List.map_append, List.map_cons,
    List.map_append]
  exact List.perm_middle

namespace Sound

/-- The pool backs the hold under a name, and those left without it. -/
lemma backs_drop (h : s.Sound E) {name : String} {g : Hold δ} (hl : s.hold? name = some g) :
    s.pool.Backs (g :: (E ++ (s.drop name).live)) :=
  h.backs.perm (((live_drop_perm h.names_nodup hl).append_left E).trans List.perm_middle)

/-- A drop gives back the hold under its name, and no other. -/
lemma drop (h : s.Sound E) (name : String) : (s.drop name).Sound E := by
  refine ⟨?_, ?_⟩
  · rw [holds_drop]
    exact nodup_names_filter h.names_nodup _
  · cases hl : s.hold? name with
    | none =>
        rw [Holders.drop, hl]
        exact h.backs
    | some g =>
        rw [pool_drop hl]
        exact (h.backs_drop hl).release

/-- A hold is taken before the one under its name is given back. -/
lemma retain (h : s.Sound []) (same : δ → δ → Bool) (key : DeviceKey) (device : δ)
    (name : String) : (s.retain same key device name).Sound [] := by
  set r := s.pool.retain same key device with hr
  have htaken : ({ s with pool := r.pool } : Holders δ).Sound [r.hold] :=
    ⟨h.names_nodup, h.backs.retain same key device⟩
  have hdrop := htaken.drop name
  refine ⟨?_, ?_⟩
  · rw [Holders.retain, holds_drop]
    exact nodup_names_append h.names_nodup name r.hold
  · refine hdrop.backs.perm ?_
    rw [Holders.retain, live, live, List.map_append]
    exact List.perm_append_comm

/-- One action. -/
lemma step (h : s.Sound []) (a : Action δ) : (s.step a).Sound [] := by
  cases a with
  | retain same key device name => exact h.retain same key device name
  | drop name => exact h.drop name

/-- A run of actions. -/
lemma run (h : s.Sound []) (actions : List (Action δ)) : (s.run actions).Sound [] := by
  induction actions generalizing s with
  | nil => exact h
  | cons a actions ih => exact ih (h.step a)

end Sound

/-- The invariant after any run. -/
lemma sound_run (actions : List (Action δ)) : (run ({} : Holders δ) actions).Sound [] :=
  sound_empty.run actions

/-! ### The hold under a name -/

lemma run_append (s : Holders δ) (before after : List (Action δ)) :
    s.run (before ++ after) = (s.run before).run after :=
  List.foldl_append

/-- An action leaves the holds under other names alone. -/
lemma hold?_step (s : Holders δ) {a : Action δ} {name : String} (h : a.name ≠ name) :
    (s.step a).hold? name = s.hold? name := by
  cases a with
  | retain same key device other =>
      have hother : other ≠ name := h
      have hne : (name == other) = false := by simpa using hother.symm
      rw [hold?, step, retain, List.lookup_append, holds_drop, lookup_filter_of_ne hother,
        List.lookup_cons, hne]
      exact Option.or_none
  | drop other =>
      have hother : other ≠ name := h
      rw [hold?, step, holds_drop, lookup_filter_of_ne hother, hold?]

/-- So does a run that has no action under a name. -/
lemma hold?_run (s : Holders δ) {actions : List (Action δ)} {name : String}
    (h : ∀ a ∈ actions, a.name ≠ name) : (s.run actions).hold? name = s.hold? name := by
  induction actions generalizing s with
  | nil => rfl
  | cons a actions ih =>
      have hrest := ih (s.step a) fun b hb => h b (List.mem_cons_of_mem _ hb)
      exact hrest.trans (hold?_step s (h a (List.mem_cons_self ..)))

/-- The hold that a retain puts under its name. -/
lemma hold?_retain (s : Holders δ) (same : δ → δ → Bool) (key : DeviceKey) (device : δ)
    (name : String) :
    (s.retain same key device name).hold? name = some (s.pool.retain same key device).hold := by
  have hnone : (s.holds.filter (·.1 != name)).lookup name = none := by
    rw [List.lookup_eq_none_iff]
    intro e he
    have hne : e.1 ≠ name := by simpa using (List.mem_filter.mp he).2
    simpa using hne.symm
  rw [hold?, retain, List.lookup_append, holds_drop]
  simp [hnone]

/-- What is found under a name is kept. -/
lemma mem_live {name : String} {g : Hold δ} (h : s.hold? name = some g) : g ∈ s.live := by
  obtain ⟨l₁, l₂, hl, -⟩ := List.lookup_eq_some_iff.mp h
  simp [live, hl]

/-! ### What a pool shows -/

/-- After any run of retains and drops, with whatever notions of sameness, the records are
one for each id of the holds that are kept, each counts the holds with its id, what is
current is there, and the figures are counts of holds.  A hold stays what it was when it
was taken for as long as nothing is done under its name, and so does its record. -/
theorem run_represents (actions : List (Action δ)) :
    let s := run ({} : Holders δ) actions
    -- one record for each id of a hold
    ((s.pool.records.map Pool.Record.id).Nodup ∧
      ∀ id, id ∈ s.pool.records.map Pool.Record.id ↔ id ∈ s.live.map Hold.id) ∧
    -- its count
    (∀ r ∈ s.pool.records, r.refs = s.live.countP (·.id == r.id) ∧ 1 ≤ r.refs) ∧
    -- what is current
    (∀ key id, (key, id) ∈ s.pool.current → ∃ r, s.pool.find? id = some r ∧ r.key = key) ∧
    -- the figures
    (∀ key, s.pool.refs key = s.live.countP (·.key == key)) ∧
    s.pool.outstanding = s.live.length ∧
    s.pool.outstanding = ((s.live.map Hold.key).dedup.map s.pool.refs).sum ∧
    (s.pool.isEmpty = true ↔ s.live = []) ∧
    -- each hold from the moment when it is taken
    (∀ before after same key device name,
      actions = before ++ .retain same key device name :: after →
      (∀ a ∈ after, a.name ≠ name) →
      ∃ g, g = ((run {} before).pool.retain same key device).hold ∧
        g.key = key ∧ (g.device = device ∨ same g.device device = true) ∧
        s.hold? name = some g ∧
        ∃ r, s.pool.find? g.id = some r ∧ r.key = g.key ∧ r.device = g.device) := by
  intro s
  have hb : s.pool.Backs s.live := (sound_run actions).backs
  refine ⟨⟨hb.ids_nodup, hb.mem_ids_iff⟩, fun r hr => ⟨hb.refs_eq r hr, hb.refs_pos r hr⟩, ?_,
    hb.refs_eq_countP, hb.outstanding_eq, hb.sum_refs.symm, hb.isEmpty_iff, ?_⟩
  · intro key id he
    obtain ⟨r, hr, hid, hkey⟩ := hb.current_mem _ he
    have hid' : r.id = id := hid
    exact ⟨r, hid' ▸ hb.find?_id hr, hkey⟩
  · intro before after same key device name hactions hafter
    obtain ⟨hkey, hdev⟩ := (sound_run before).backs.hold_retain same key device
    refine ⟨_, rfl, hkey, hdev, ?_⟩
    have hs : s = ((run {} before).retain same key device name).run after := by
      show run {} actions = _
      rw [hactions, run_append]
      rfl
    have hheld : s.hold? name = some ((run {} before).pool.retain same key device).hold := by
      rw [hs, hold?_run _ hafter, hold?_retain]
    exact ⟨hheld, hb.find?_hold (mem_live hheld)⟩

/-- Nothing is left when every hold is dropped. -/
theorem dropAll_isEmpty (actions : List (Action δ)) :
    (run ({} : Holders δ) actions).dropAll.pool.isEmpty = true := by
  set s := run ({} : Holders δ) actions
  have hrun : s.dropAll = s.run (s.holds.map fun e => .drop e.1) := by
    rw [dropAll, run, List.foldl_map]
    rfl
  have hsound : s.dropAll.Sound [] := hrun ▸ (sound_run actions).run _
  have hnone : s.dropAll.live = [] := by
    rw [live, List.map_eq_nil_iff, List.eq_nil_iff_forall_not_mem]
    intro e he
    rw [dropAll, ← List.foldl_map (f := Prod.fst) (g := Holders.drop)] at he
    obtain ⟨hmem, hnot⟩ := mem_foldl_drop holds_drop _ _ he
    exact hnot (List.mem_map_of_mem hmem)
  exact hsound.backs.isEmpty_iff.mpr hnone

end Holders

end UsbPipe
