/-
When holds on one device share a record.

A pool is to keep one reference for each device, but `retain` compares a device with the
current record under its key only.  A device that comes back after another one was
retained under its key gets a second record while its first one is still in use.  Without
such returns there is one record for each device.

* `Pool.Single`: no two records under one key are of one device.
* `Pool.Aside`: a device has a record under a key that is not the current one there.
* `single_retain_iff`, `Single.release`: `retain` keeps records single just when the
  device is not aside, and `release` always does.
* `run_single`: in a run that comes back to no device the holds on a device share its
  record, and the size of the pool is the number of devices.
* `return_splits`: a run that comes back to a device and has two records of it.
-/
import UsbPipe.Proofs.Pool.Holding

namespace UsbPipe

open Usb

namespace Pool

variable {δ : Type} {p q : Pool δ} {hs : List (Hold δ)}

/-! ### What `retain` compares -/

section Compare

variable {same : δ → δ → Bool} {key : DeviceKey} {device : δ} {r : Record δ}

lemma lookup_of_currentRecord? (h : p.currentRecord? key = some r) :
    p.current.lookup key = some r.id := by
  obtain ⟨id, hid, hr⟩ := Option.bind_eq_some_iff.mp h
  have hrid : r.id = id := by simpa using List.find?_some hr
  rw [hid, hrid]

/-- A device that is the one of the current record is retained there. -/
lemma retain_of_current (hcur : p.currentRecord? key = some r)
    (hsame : same r.device device = true) :
    (p.retain same key device).pool = p.update r.id Record.grow := by
  have hfilter : (p.currentRecord? key).filter (fun r => same r.device device) = some r :=
    Option.filter_eq_some_iff.mpr ⟨hcur, hsame⟩
  rw [retain, hfilter]

/-- Any other device gets a record of its own. -/
lemma retain_of_other
    (hother : ∀ r, p.currentRecord? key = some r → same r.device device = false) :
    (p.retain same key device).pool = p.insert key device := by
  have hfilter : (p.currentRecord? key).filter (fun r => same r.device device) = none :=
    Option.filter_eq_none_iff.mpr fun r hr => by simpa using hother r hr
  rw [retain, hfilter]

end Compare

/-! ### Single records -/

/-- A changed count leaves every record its id, key and device. -/
lemma kept_update {id : ℕ} {f : Record δ → Record δ} (hid : ∀ r, (f r).id = r.id)
    (hkey : ∀ r, (f r).key = r.key) (hdev : ∀ r, (f r).device = r.device) {s : Record δ}
    (hs : s ∈ (p.update id f).records) :
    ∃ r ∈ p.records, r.id = s.id ∧ r.key = s.key ∧ r.device = s.device := by
  obtain ⟨r, hr, rfl⟩ := mem_update.mp hs
  refine ⟨r, hr, ?_⟩
  by_cases h : r.id = id <;> simp [h, hid, hkey, hdev]

variable [Setoid δ]

/-- No two records under one key are of one device. -/
def Single (p : Pool δ) : Prop :=
  ∀ r ∈ p.records, ∀ s ∈ p.records, r.key = s.key → r.device ≈ s.device → r = s

/-- The device has a record under the key that is not the current one there. -/
def Aside (p : Pool δ) (key : DeviceKey) (device : δ) : Prop :=
  ∃ r ∈ p.records, r.key = key ∧ r.device ≈ device ∧ p.current.lookup key ≠ some r.id

instance [DecidableRel (α := δ) (· ≈ ·)] (p : Pool δ) (key : DeviceKey) (device : δ) :
    Decidable (p.Aside key device) :=
  inferInstanceAs (Decidable (∃ r ∈ p.records, _))

/-- Records stay single if none of them is new. -/
lemma Single.of_kept (h : p.Single) (hq : q.Backs hs)
    (hkept : ∀ s ∈ q.records, ∃ r ∈ p.records, r.id = s.id ∧ r.key = s.key ∧ r.device = s.device) :
    q.Single := by
  intro s hs t ht hkey hdev
  obtain ⟨r, hr, hid, hrkey, hrdev⟩ := hkept s hs
  obtain ⟨r', hr', hid', hrkey', hrdev'⟩ := hkept t ht
  have hrr : r = r' := by
    refine h r hr r' hr' (by rw [hrkey, hrkey', hkey]) ?_
    rwa [hrdev, hrdev']
  exact hq.eq_of_id_eq hs ht (by rw [← hid, ← hid', hrr])

/-- A hold given back leaves records single. -/
lemma Single.release {h : Hold δ} (hp : p.Single) (hb : p.Backs (h :: hs)) :
    (p.release h).pool.Single := by
  refine hp.of_kept hb.release fun s hs => ?_
  obtain ⟨r, -, -, -, -, -, heq⟩ := hb.release_eq
  rw [heq] at hs
  by_cases hone : r.refs = 1
  · rw [if_pos hone] at hs
    exact ⟨s, (List.mem_filter.mp hs).1, rfl, rfl, rfl⟩
  · rw [if_neg hone] at hs
    exact kept_update (f := Record.shrink) (fun _ => rfl) (fun _ => rfl) (fun _ => rfl) hs

/-- Holds on one device share its record, if records are single. -/
lemma Single.hold_id_eq (h : p.Single) (hb : p.Backs hs) {g g' : Hold δ} (hg : g ∈ hs)
    (hg' : g' ∈ hs) (hkey : g.key = g'.key) (hdev : g.device ≈ g'.device) : g.id = g'.id := by
  obtain ⟨r, hr, hid, hrkey, hrdev⟩ := hb.held g hg
  obtain ⟨r', hr', hid', hrkey', hrdev'⟩ := hb.held g' hg'
  have hrr : r = r' := by
    refine h r hr r' hr' (by rw [hrkey, hrkey', hkey]) ?_
    rwa [hrdev, hrdev']
  rw [← hid, ← hid', hrr]

variable [DecidableRel (α := δ) (· ≈ ·)]

/-- Whether devices are equivalent, as a notion of sameness to retain with. -/
def alike (a b : δ) : Bool := decide (a ≈ b)

/-- A hold taken leaves records single just when the device has no record aside. -/
theorem single_retain_iff (hb : p.Backs hs) (hp : p.Single) (key : DeviceKey) (device : δ) :
    (p.retain alike key device).pool.Single ↔ ¬ p.Aside key device := by
  by_cases hcur : ∃ r, p.currentRecord? key = some r ∧ r.device ≈ device
  · -- the device is the current one, and no other record is of it
    obtain ⟨r, hr, hdev⟩ := hcur
    obtain ⟨hmem, hkey⟩ := hb.currentRecord?_mem hr
    have hpool : (p.retain alike key device).pool = p.update r.id Record.grow :=
      retain_of_current hr (by simpa [alike])
    have hsingle : (p.retain alike key device).pool.Single := by
      rw [hpool]
      exact hp.of_kept (hb.grow hmem) fun s hs =>
        kept_update (f := Record.grow) (fun _ => rfl) (fun _ => rfl) (fun _ => rfl) hs
    refine iff_of_true hsingle ?_
    rintro ⟨s, hs, hskey, hsdev, hne⟩
    have hrs : r = s :=
      hp r hmem s hs (hkey.trans hskey.symm) (Setoid.trans hdev (Setoid.symm hsdev))
    exact hne (hrs ▸ lookup_of_currentRecord? hr)
  · -- the device gets a record, which has to be its only one under the key
    have hother : ∀ r, p.currentRecord? key = some r → alike r.device device = false := by
      intro r hr
      simpa [alike] using fun hdev => hcur ⟨r, hr, hdev⟩
    rw [retain_of_other hother]
    have hnew : (⟨p.lastId + 1, key, device, 1⟩ : Record δ) ∈ (p.insert key device).records :=
      List.mem_append_right _ (List.mem_singleton_self _)
    constructor
    · rintro hsingle ⟨s, hs, hskey, hsdev, -⟩
      have hold : s ∈ (p.insert key device).records := List.mem_append_left _ hs
      have heq := hsingle s hold _ hnew hskey hsdev
      have hle := hb.id_le s hs
      simp only [heq] at hle
      omega
    · intro hnot
      have hfresh : ∀ s ∈ p.records, s.key = key → ¬ s.device ≈ device := by
        intro s hs hskey hsdev
        by_cases hscur : p.current.lookup key = some s.id
        · have hs' : p.currentRecord? key = some s := by
            rw [currentRecord?, hscur, Option.bind_some, hb.find?_id hs]
          exact hcur ⟨s, hs', hsdev⟩
        · exact hnot ⟨s, hs, hskey, hsdev, hscur⟩
      intro s hs t ht hkey hdev
      rcases List.mem_append.mp hs with hs | hs <;> rcases List.mem_append.mp ht with ht | ht
      · exact hp s hs t ht hkey hdev
      · obtain rfl := List.mem_singleton.mp ht
        exact absurd hdev (hfresh s hs hkey)
      · obtain rfl := List.mem_singleton.mp hs
        exact absurd (Setoid.symm hdev) (hfresh t ht hkey.symm)
      · rw [List.mem_singleton.mp hs, List.mem_singleton.mp ht]

/-- Single records are as many as the devices under their keys. -/
lemma Single.size_eq (h : p.Single) (hb : p.Backs hs) :
    p.size = (hs.map fun g => (g.key, (⟦g.device⟧ : Quotient ‹Setoid δ›))).dedup.length := by
  have hnodup : (p.records.map fun r => (r.key, (⟦r.device⟧ : Quotient ‹Setoid δ›))).Nodup := by
    refine List.Nodup.map_on (fun r hr s hs heq => ?_) (hb.ids_nodup.of_map _)
    obtain ⟨hkey, hdev⟩ := Prod.mk.inj heq
    exact h r hr s hs hkey (Quotient.exact hdev)
  have hperm : (p.records.map fun r => (r.key, (⟦r.device⟧ : Quotient ‹Setoid δ›))).Perm
      (hs.map fun g => (g.key, (⟦g.device⟧ : Quotient ‹Setoid δ›))).dedup := by
    refine (List.perm_ext_iff_of_nodup hnodup (List.nodup_dedup _)).mpr fun x => ?_
    rw [List.mem_dedup, List.mem_map, List.mem_map]
    constructor
    · rintro ⟨r, hr, rfl⟩
      obtain ⟨g, hg, hid⟩ := List.mem_map.mp ((hb.mem_ids_iff r.id).mp (List.mem_map_of_mem hr))
      obtain ⟨s, hs', hsid, hskey, hsdev⟩ := hb.held g hg
      have hsr : s = r := hb.eq_of_id_eq hs' hr (hsid.trans hid)
      exact ⟨g, hg, by rw [← hskey, ← hsdev, hsr]⟩
    · rintro ⟨g, hg, rfl⟩
      obtain ⟨r, hr, -, hkey, hdev⟩ := hb.held g hg
      exact ⟨r, hr, by rw [hkey, hdev]⟩
  rw [size, ← hperm.length_eq, List.length_map]

end Pool

namespace Holders

variable {δ : Type}

/-- An action that retains, if it does, with the given notion of sameness. -/
def Action.Uses (same : δ → δ → Bool) : Action δ → Prop
  | .retain same' _ _ _ => same' = same
  | .drop _ => True

variable [Setoid δ]

/-- An action that comes back to a device whose record is in use but not current. -/
def Action.Returns (s : Holders δ) : Action δ → Prop
  | .retain _ key device _ => s.pool.Aside key device
  | .drop _ => False

instance [DecidableRel (α := δ) (· ≈ ·)] (s : Holders δ) (a : Action δ) :
    Decidable (a.Returns s) :=
  match a with
  | .retain _ key device _ => inferInstanceAs (Decidable (s.pool.Aside key device))
  | .drop _ => inferInstanceAs (Decidable False)

/-- No action of a run comes back to a device. -/
def NeverReturns : Holders δ → List (Action δ) → Prop
  | _, [] => True
  | s, a :: actions => ¬ a.Returns s ∧ NeverReturns (s.step a) actions

instance NeverReturns.decidable [DecidableRel (α := δ) (· ≈ ·)] :
    ∀ (s : Holders δ) (actions : List (Action δ)), Decidable (s.NeverReturns actions)
  | _, [] => inferInstanceAs (Decidable True)
  | s, a :: actions =>
      have := NeverReturns.decidable (s.step a) actions
      inferInstanceAs (Decidable (_ ∧ _))

variable {s : Holders δ} {E : List (Hold δ)}

/-- A name dropped leaves records single. -/
lemma single_drop (h : s.Sound E) (hs : s.pool.Single) (name : String) :
    (s.drop name).pool.Single := by
  cases hl : s.hold? name with
  | none =>
      rw [drop, hl]
      exact hs
  | some g =>
      rw [pool_drop hl]
      exact hs.release (h.backs_drop hl)

variable [DecidableRel (α := δ) (· ≈ ·)]

/-- So does an action that does not come back to a device. -/
lemma single_step (h : s.Sound []) (hs : s.pool.Single) {a : Action δ} (huses : a.Uses Pool.alike)
    (hstays : ¬ a.Returns s) : (s.step a).pool.Single := by
  cases a with
  | retain same key device name =>
      have hsame : same = Pool.alike := huses
      subst hsame
      have htaken : (s.pool.retain Pool.alike key device).pool.Single :=
        (Pool.single_retain_iff h.backs hs key device).mpr hstays
      have hsound : ({ s with pool := (s.pool.retain Pool.alike key device).pool } :
          Holders δ).Sound [(s.pool.retain Pool.alike key device).hold] :=
        ⟨h.names_nodup, h.backs.retain Pool.alike key device⟩
      exact single_drop hsound htaken name
  | drop name => exact single_drop h hs name

/-- And so does a run of such actions. -/
lemma single_of_run (h : s.Sound []) (hs : s.pool.Single) {actions : List (Action δ)}
    (huses : ∀ a ∈ actions, a.Uses Pool.alike) (hstays : s.NeverReturns actions) :
    (s.run actions).pool.Single := by
  induction actions generalizing s with
  | nil => exact hs
  | cons a actions ih =>
      obtain ⟨hone, hrest⟩ := hstays
      have hnext := single_step h hs (huses a (List.mem_cons_self ..)) hone
      exact ih (h.step a) hnext (fun b hb => huses b (List.mem_cons_of_mem _ hb)) hrest

/-- In a run that comes back to no device whose record is in use but not current, no two
records under one key are of one device, the holds on a device under a key share its
record, and the size of the pool is the number of devices that are held. -/
theorem run_single (actions : List (Action δ)) (huses : ∀ a ∈ actions, a.Uses Pool.alike)
    (hstays : ({} : Holders δ).NeverReturns actions) :
    let s := run ({} : Holders δ) actions
    (∀ r ∈ s.pool.records, ∀ r' ∈ s.pool.records,
      r.key = r'.key → r.device ≈ r'.device → r = r') ∧
    (∀ g ∈ s.live, ∀ g' ∈ s.live, g.key = g'.key → g.device ≈ g'.device → g.id = g'.id) ∧
    s.pool.size =
      (s.live.map fun g => (g.key, (⟦g.device⟧ : Quotient ‹Setoid δ›))).dedup.length := by
  intro s
  have hb : s.pool.Backs s.live := (sound_run actions).backs
  have hempty : ({} : Holders δ).pool.Single := fun r hr => by simp at hr
  have hsingle : s.pool.Single := single_of_run sound_empty hempty huses hstays
  exact ⟨hsingle, fun g hg g' hg' => hsingle.hold_id_eq hb hg hg', hsingle.size_eq hb⟩

section Named

local instance : Setoid String := ⟨Eq, eq_equivalence⟩

local instance : DecidableRel (α := String) (· ≈ ·) := fun a b =>
  inferInstanceAs (Decidable (a = b))

/-- A device may come back under its key when its record is gone. -/
theorem run_single_after_drop :
    let key : DeviceKey := ⟨1, 1⟩
    let actions : List (Action String) :=
      [.retain Pool.alike key "a" "x", .retain Pool.alike key "b" "y", .drop "x",
        .retain Pool.alike key "b" "z", .retain Pool.alike key "a" "x"]
    ({} : Holders String).NeverReturns actions ∧ (run {} actions).live.length = 3 ∧
      (run {} actions).pool.size = 2 := by
  intro key actions
  have huses : ∀ a ∈ actions, a.Uses Pool.alike := by simp [actions, Action.Uses]
  have hstays : ({} : Holders String).NeverReturns actions := by decide
  obtain ⟨-, -, hsize⟩ := run_single actions huses hstays
  exact ⟨hstays, by decide, hsize.trans (by decide)⟩

end Named

/-- Coming back to a device while its record is in use, but not current, gives it a second
record: three records for two devices under one key. -/
theorem return_splits :
    let key : DeviceKey := ⟨1, 1⟩
    let s := run ({} : Holders String)
      [.retain (· == ·) key "a" "x", .retain (· == ·) key "b" "y", .retain (· == ·) key "a" "z"]
    s.live.map (fun g => (g.id, g.key, g.device)) =
        [(1, key, "a"), (2, key, "b"), (3, key, "a")] ∧
      s.pool.size = 3 ∧ (s.live.map fun g => (g.key, g.device)).dedup.length = 2 := by
  decide

end Holders

end UsbPipe
