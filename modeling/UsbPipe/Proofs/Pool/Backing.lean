/-
What a pool owes to the holds on it.

A pool *backs* a list of holds if its records are exactly those that the holds need:
one record for each id that occurs among them, of the same key and device, which
counts the holds with that id.  Taking a hold and giving one back keep this.

* `Pool.Backs`: the invariant; `Backs.perm`: the order of the holds does not matter.
* `Backs.retain_cases`, `Backs.release_eq`: what `retain` and `release` do to a pool
  that backs its holds; `Backs.retain` and `Backs.release` are the invariant after them.
* `Backs.outstanding_eq`, `Backs.refs_eq_countP`: the counts a pool shows are counts of holds.
* `Backs.records_perm`: the holds determine the records, so that two pools that back
  the same holds show the same figures.
* `Returned`, `Backs.returned`: all that a release changes of what a pool shows.
-/
import Mathlib.Tactic.Common
import Mathlib.Data.List.Nodup
import Mathlib.Data.List.Perm.Basic
import Mathlib.Algebra.BigOperators.Group.List.Basic
import UsbPipe.Pool

namespace UsbPipe.Pool

open Usb

variable {δ : Type} {p q : Pool δ} {hs : List (Hold δ)}

/-! ### The invariant -/

/-- The records of a pool are those that some holds need: their ids are distinct and were
given out, each counts the holds with its id, of which there is one at least, each hold
finds a record of its key and device, and what is current is there. -/
structure Backs (p : Pool δ) (hs : List (Hold δ)) : Prop where
  ids_nodup : (p.records.map Record.id).Nodup
  id_le : ∀ r ∈ p.records, r.id ≤ p.lastId
  refs_eq : ∀ r ∈ p.records, r.refs = hs.countP (·.id == r.id)
  refs_pos : ∀ r ∈ p.records, 0 < r.refs
  held : ∀ h ∈ hs, ∃ r ∈ p.records, r.id = h.id ∧ r.key = h.key ∧ r.device = h.device
  current_mem : ∀ e ∈ p.current, ∃ r ∈ p.records, r.id = e.2 ∧ r.key = e.1

/-- The empty pool backs no holds. -/
lemma backs_nil : Backs ({} : Pool δ) [] where
  ids_nodup := List.nodup_nil
  id_le := by simp
  refs_eq := by simp
  refs_pos := by simp
  held := by simp
  current_mem := by simp

namespace Backs

lemma perm {hs' : List (Hold δ)} (hb : p.Backs hs) (h : hs.Perm hs') : p.Backs hs' :=
  { hb with
    refs_eq := fun r hr => by rw [hb.refs_eq r hr, h.countP_eq]
    held := fun x hx => hb.held x (h.mem_iff.mpr hx) }

/-- Records with one id are one record. -/
lemma eq_of_id_eq (hb : p.Backs hs) {r s : Record δ} (hr : r ∈ p.records) (hs' : s ∈ p.records)
    (h : r.id = s.id) : r = s :=
  List.inj_on_of_nodup_map hb.ids_nodup hr hs' h

lemma find?_id (hb : p.Backs hs) {r : Record δ} (hr : r ∈ p.records) : p.find? r.id = some r := by
  obtain ⟨s, hs'⟩ : ∃ s, p.find? r.id = some s := by
    rw [find?, ← Option.isSome_iff_exists, List.find?_isSome]
    exact ⟨r, hr, by simp⟩
  have hid : s.id = r.id := by simpa using List.find?_some hs'
  rw [hs', hb.eq_of_id_eq (List.mem_of_find?_eq_some hs') hr hid]

/-- The current record under a key is a record under that key. -/
lemma currentRecord?_mem (hb : p.Backs hs) {key : DeviceKey} {r : Record δ}
    (h : p.currentRecord? key = some r) : r ∈ p.records ∧ r.key = key := by
  obtain ⟨id, hid, hr⟩ := Option.bind_eq_some_iff.mp h
  have hmem : (key, id) ∈ p.current := by
    rw [List.lookup_eq_some_iff] at hid
    obtain ⟨l₁, l₂, hl, -⟩ := hid
    simp [hl]
  obtain ⟨s, hs', hsid, hkey⟩ := hb.current_mem _ hmem
  have hrs : r = s := by
    have := hb.find?_id hs'
    rw [hsid, hr] at this
    exact Option.some.inj this
  exact ⟨hrs ▸ hs', hrs ▸ hkey⟩

/-! ### Retaining -/

/-- What `retain` does: it shares the current record under the key if that is of the same
device, and otherwise opens a record of its own. -/
lemma retain_cases (hb : p.Backs hs) (same : δ → δ → Bool) (key : DeviceKey) (device : δ) :
    (∃ r ∈ p.records, r.key = key ∧ same r.device device = true ∧
      p.retain same key device = ⟨p.update r.id Record.grow, ⟨r.id, r.key, r.device⟩, r.refs + 1,
        .shared⟩) ∨
    (∃ origin ≠ Origin.shared, p.retain same key device =
      ⟨p.insert key device, ⟨p.lastId + 1, key, device⟩, 1, origin⟩) := by
  cases h : (p.currentRecord? key).filter (fun r => same r.device device) with
  | some r =>
      obtain ⟨hcur, hsame⟩ := Option.filter_eq_some_iff.mp h
      obtain ⟨hr, hkey⟩ := hb.currentRecord?_mem hcur
      exact Or.inl ⟨r, hr, hkey, hsame, by rw [Pool.retain, h]⟩
  | none =>
      refine Or.inr ⟨if (p.current.lookup key).isSome then .replaced else .fresh, ?_, ?_⟩
      · split <;> simp
      · rw [Pool.retain, h]

end Backs

/-- The records after an update, of which only the updated one changes. -/
lemma mem_update {id : ℕ} {f : Record δ → Record δ} {s : Record δ} :
    s ∈ (p.update id f).records ↔ ∃ r ∈ p.records, (if r.id = id then f r else r) = s := by
  simp [update]

/-- What an update does not change it changes in no record. -/
lemma map_update {β : Type} {g : Record δ → β} {f : Record δ → Record δ}
    (hg : ∀ r, g (f r) = g r) (id : ℕ) : (p.update id f).records.map g = p.records.map g := by
  rw [update, List.map_map]
  refine List.map_congr_left fun r _ => ?_
  by_cases h : r.id = id <;> simp [h, hg]

namespace Backs

/-- The invariant after an update that changes no more than a count, for holds that the
new counts fit. -/
lemma update (hb : p.Backs hs) {hs' : List (Hold δ)} {id : ℕ} {f : Record δ → Record δ}
    (hid : ∀ r, (f r).id = r.id) (hkey : ∀ r, (f r).key = r.key)
    (hdev : ∀ r, (f r).device = r.device)
    (hrefs : ∀ r ∈ p.records,
      (if r.id = id then f r else r).refs = hs'.countP (·.id == r.id))
    (hpos : ∀ r ∈ p.records, 0 < (if r.id = id then f r else r).refs)
    (hheld : ∀ h ∈ hs', ∃ r ∈ p.records, r.id = h.id ∧ r.key = h.key ∧ r.device = h.device) :
    (p.update id f).Backs hs' := by
  -- an updated record keeps its place, key and device
  have hsame : ∀ r : Record δ, (if r.id = id then f r else r).id = r.id ∧
      (if r.id = id then f r else r).key = r.key ∧
      (if r.id = id then f r else r).device = r.device := by
    intro r
    by_cases h : r.id = id <;> simp [h, hid, hkey, hdev]
  refine ⟨(map_update hid id).symm ▸ hb.ids_nodup, ?_, ?_, ?_, ?_, ?_⟩
  · intro s hs
    obtain ⟨r, hr, rfl⟩ := mem_update.mp hs
    rw [(hsame r).1]
    exact hb.id_le r hr
  · intro s hs
    obtain ⟨r, hr, rfl⟩ := mem_update.mp hs
    rw [hrefs r hr, (hsame r).1]
  · intro s hs
    obtain ⟨r, hr, rfl⟩ := mem_update.mp hs
    exact hpos r hr
  · intro h hh
    obtain ⟨r, hr, h₁, h₂, h₃⟩ := hheld h hh
    obtain ⟨e₁, e₂, e₃⟩ := hsame r
    exact ⟨_, mem_update.mpr ⟨r, hr, rfl⟩, e₁.trans h₁, e₂.trans h₂, e₃.trans h₃⟩
  · intro e he
    obtain ⟨r, hr, h₁, h₂⟩ := hb.current_mem e he
    obtain ⟨e₁, e₂, -⟩ := hsame r
    exact ⟨_, mem_update.mpr ⟨r, hr, rfl⟩, e₁.trans h₁, e₂.trans h₂⟩

/-- A record that gains a hold. -/
lemma grow (hb : p.Backs hs) {r : Record δ} (hr : r ∈ p.records) :
    (p.update r.id Record.grow).Backs (⟨r.id, r.key, r.device⟩ :: hs) := by
  refine hb.update (fun _ => rfl) (fun _ => rfl) (fun _ => rfl) ?_ ?_ ?_
  · intro s hs'
    have href := hb.refs_eq s hs'
    by_cases h : s.id = r.id
    · simp [h, Record.grow, href]
    · simp [h, href, Ne.symm h]
  · intro s hs'
    have hpos := hb.refs_pos s hs'
    by_cases h : s.id = r.id <;> simp [h, Record.grow, hpos]
  · intro x hx
    rcases List.mem_cons.mp hx with rfl | hx
    · exact ⟨r, hr, rfl, rfl, rfl⟩
    · exact hb.held x hx

/-- A record of its own for a new hold. -/
lemma insert (hb : p.Backs hs) (key : DeviceKey) (device : δ) :
    (p.insert key device).Backs (⟨p.lastId + 1, key, device⟩ :: hs) where
  ids_nodup := by
    simp only [Pool.insert, List.map_append, List.map_cons, List.map_nil]
    refine hb.ids_nodup.append (List.nodup_singleton _) ?_
    intro id hid hid'
    obtain ⟨r, hr, rfl⟩ := List.mem_map.mp hid
    have hle := hb.id_le r hr
    have heq := List.mem_singleton.mp hid'
    omega
  id_le := by
    intro s hs'
    rcases List.mem_append.mp hs' with hs' | hs'
    · exact Nat.le_succ_of_le (hb.id_le s hs')
    · rw [List.mem_singleton.mp hs']; exact Nat.le_refl _
  refs_eq := by
    intro s hs'
    rcases List.mem_append.mp hs' with hs' | hs'
    · have hle := hb.id_le s hs'
      have hne : p.lastId + 1 ≠ s.id := by omega
      simp [hb.refs_eq s hs', hne]
    · -- no hold so far has the new id, since ids given out are at most the last one
      have hzero : hs.countP (·.id == p.lastId + 1) = 0 := by
        rw [List.countP_eq_zero]
        intro x hx
        obtain ⟨r, hr, hid, -⟩ := hb.held x hx
        have hle := hb.id_le r hr
        simp only [beq_iff_eq]
        omega
      rw [List.mem_singleton.mp hs', List.countP_cons, hzero]
      simp
  refs_pos := by
    intro s hs'
    rcases List.mem_append.mp hs' with hs' | hs'
    · exact hb.refs_pos s hs'
    · rw [List.mem_singleton.mp hs']; exact Nat.one_pos
  held := by
    intro x hx
    rcases List.mem_cons.mp hx with rfl | hx
    · exact ⟨⟨p.lastId + 1, key, device, 1⟩, by simp [Pool.insert], rfl, rfl, rfl⟩
    · obtain ⟨r, hr, h⟩ := hb.held x hx
      exact ⟨r, List.mem_append_left _ hr, h⟩
  current_mem := by
    intro e he
    rcases List.mem_cons.mp he with rfl | he
    · exact ⟨⟨p.lastId + 1, key, device, 1⟩, by simp [Pool.insert], rfl, rfl⟩
    · obtain ⟨r, hr, h⟩ := hb.current_mem e (List.mem_filter.mp he).1
      exact ⟨r, List.mem_append_left _ hr, h⟩

/-- A pool backs one hold more after `retain`. -/
lemma retain (hb : p.Backs hs) (same : δ → δ → Bool) (key : DeviceKey) (device : δ) :
    (p.retain same key device).pool.Backs ((p.retain same key device).hold :: hs) := by
  rcases hb.retain_cases same key device with ⟨r, hr, -, -, heq⟩ | ⟨_, -, heq⟩
  · rw [heq]; exact hb.grow hr
  · rw [heq]; exact hb.insert key device

end Backs

/-! ### Releasing -/

namespace Released

lemma dropped?_of_last {r : Record δ} (h : r.refs = 1) :
    (Released.mk p (some r)).dropped? = some r.device := by
  rw [dropped?, Option.filter_some, if_pos (by simpa using h), Option.map_some]

lemma dropped?_of_not_last {r : Record δ} (h : r.refs ≠ 1) :
    (Released.mk p (some r)).dropped? = none := by
  rw [dropped?, Option.filter_some, if_neg (by simpa using h), Option.map_none]

end Released

namespace Backs

/-- What `release` does with a hold that the pool backs: its record loses one hold, and
goes away with the last. -/
lemma release_eq {h : Hold δ} (hb : p.Backs (h :: hs)) :
    ∃ r ∈ p.records, r.id = h.id ∧ r.key = h.key ∧ r.device = h.device ∧
      r.refs = hs.countP (·.id == r.id) + 1 ∧
      p.release h =
        ⟨if r.refs = 1 then p.remove r.id else p.update r.id Record.shrink, some r⟩ := by
  obtain ⟨r, hr, hid, hkey, hdev⟩ := hb.held h (List.mem_cons_self ..)
  refine ⟨r, hr, hid, hkey, hdev, ?_, ?_⟩
  · simp [hb.refs_eq r hr, hid]
  · rw [Pool.release, ← hid, hb.find?_id hr]

/-- A record that loses a hold and keeps another. -/
lemma shrink {h : Hold δ} (hb : p.Backs (h :: hs)) {r : Record δ} (hr : r ∈ p.records)
    (hid : r.id = h.id) (hne : r.refs ≠ 1) : (p.update r.id Record.shrink).Backs hs := by
  refine hb.update (fun _ => rfl) (fun _ => rfl) (fun _ => rfl) ?_ ?_ ?_
  · intro s hs'
    have href := hb.refs_eq s hs'
    by_cases hc : s.id = r.id
    · simp only [List.countP_cons, hc, hid, beq_self_eq_true, if_true] at href
      simp [hc, Record.shrink, href, hid]
    · have hne' : h.id ≠ s.id := fun he => hc (he.symm.trans hid.symm)
      simpa [hc, hne'] using href
  · intro s hs'
    have hpos := hb.refs_pos s hs'
    by_cases hc : s.id = r.id
    · rw [if_pos hc, hb.eq_of_id_eq hs' hr hc, Record.shrink]
      have hr' := hb.refs_pos r hr
      show 0 < r.refs - 1
      omega
    · rwa [if_neg hc]
  · exact fun x hx => hb.held x (List.mem_cons_of_mem _ hx)

/-- A record that goes away with its last hold. -/
lemma remove {h : Hold δ} (hb : p.Backs (h :: hs)) {r : Record δ} (hid : r.id = h.id)
    (hlast : hs.countP (·.id == r.id) = 0) : (p.remove r.id).Backs hs where
  ids_nodup := (List.filter_sublist.map _).nodup hb.ids_nodup
  id_le := fun s hs' => hb.id_le s (List.mem_filter.mp hs').1
  refs_eq := by
    intro s hs'
    obtain ⟨hmem, hne⟩ := List.mem_filter.mp hs'
    have hne' : h.id ≠ s.id := by
      intro he
      simp [he ▸ hid] at hne
    simpa [List.countP_cons, hne'] using hb.refs_eq s hmem
  refs_pos := fun s hs' => hb.refs_pos s (List.mem_filter.mp hs').1
  held := by
    intro x hx
    obtain ⟨t, ht, htid, hkd⟩ := hb.held x (List.mem_cons_of_mem _ hx)
    have hne : x.id ≠ r.id := by simpa using List.countP_eq_zero.mp hlast x hx
    exact ⟨t, List.mem_filter.mpr ⟨ht, by simpa [htid] using hne⟩, htid, hkd⟩
  current_mem := by
    intro e he
    obtain ⟨hmem, hne⟩ := List.mem_filter.mp he
    obtain ⟨t, ht, htid, hkey⟩ := hb.current_mem e hmem
    exact ⟨t, List.mem_filter.mpr ⟨ht, by simpa [htid] using hne⟩, htid, hkey⟩

/-- A record and those that stay when it goes are all records. -/
lemma perm_cons_remove (hb : p.Backs hs) {r : Record δ} (hr : r ∈ p.records) :
    p.records.Perm (r :: (p.remove r.id).records) := by
  have hnd : p.records.Nodup := hb.ids_nodup.of_map _
  have hnd' : (r :: (p.remove r.id).records).Nodup := by
    refine List.nodup_cons.mpr ⟨fun h => ?_, hnd.filter _⟩
    simpa using (List.mem_filter.mp h).2
  refine (List.perm_ext_iff_of_nodup hnd hnd').mpr fun s => ?_
  rw [List.mem_cons, Pool.remove, List.mem_filter, bne_iff_ne]
  constructor
  · intro hs'
    by_cases h : s.id = r.id
    · exact Or.inl (hb.eq_of_id_eq hs' hr h)
    · exact Or.inr ⟨hs', h⟩
  · rintro (rfl | ⟨hs', -⟩)
    · exact hr
    · exact hs'

/-- A pool backs one hold less after `release`. -/
lemma release {h : Hold δ} (hb : p.Backs (h :: hs)) : (p.release h).pool.Backs hs := by
  obtain ⟨r, hr, hid, -, -, hrefs, heq⟩ := hb.release_eq
  rw [heq]
  by_cases hone : r.refs = 1
  · rw [if_pos hone]
    exact hb.remove hid (by omega)
  · rw [if_neg hone]
    exact hb.shrink hr hid hone

end Backs

/-! ### The figures -/

@[simp] lemma holds_nil : holds ([] : List (Record δ)) = 0 := rfl

@[simp] lemma holds_cons (r : Record δ) (rs : List (Record δ)) :
    holds (r :: rs) = r.refs + holds rs := rfl

/-- Records of distinct ids that count the holds with their ids count together the holds
whose id is among theirs. -/
lemma holds_eq_countP : ∀ {rs : List (Record δ)}, (rs.map Record.id).Nodup →
    (∀ r ∈ rs, r.refs = hs.countP (·.id == r.id)) →
    holds rs = hs.countP fun h => decide (h.id ∈ rs.map Record.id)
  | [], _, _ => by simp
  | r :: rs, hnd, hrefs => by
      obtain ⟨hr, hnd⟩ := List.nodup_cons.mp hnd
      have hrest := holds_eq_countP hnd fun s hs => hrefs s (List.mem_cons_of_mem _ hs)
      -- the holds with a listed id are those of the first record and the others
      have hsplit := List.countP_eq_countP_filter_add hs
        (fun h => decide (h.id ∈ (r :: rs).map Record.id)) (·.id == r.id)
      rw [holds_cons, hrest, hrefs r (List.mem_cons_self ..), hsplit, List.countP_filter,
        List.countP_filter]
      congr 1
      · refine List.countP_congr fun h _ => ?_
        by_cases he : h.id = r.id <;> simp [he]
      · refine List.countP_congr fun h _ => ?_
        by_cases he : h.id = r.id
        · simpa [he] using hr
        · simp [he]

namespace Backs

/-- Records picked by their key count the holds under the keys picked. -/
lemma holds_filter (hb : p.Backs hs) (pick : DeviceKey → Bool) :
    holds (p.records.filter fun r => pick r.key) = hs.countP fun h => pick h.key := by
  have hsub : (p.records.filter fun r => pick r.key).Sublist p.records := List.filter_sublist
  rw [holds_eq_countP ((hsub.map _).nodup hb.ids_nodup)
    fun r hr => hb.refs_eq r (hsub.subset hr)]
  refine List.countP_congr fun h hh => ?_
  obtain ⟨r, hr, hid, hkey, -⟩ := hb.held h hh
  rw [decide_eq_true_iff, List.mem_map]
  constructor
  · rintro ⟨s, hs', hsid⟩
    obtain ⟨hmem, hpick⟩ := List.mem_filter.mp hs'
    rwa [← hkey, ← hb.eq_of_id_eq hmem hr (hsid.trans hid.symm)]
  · intro hpick
    exact ⟨r, List.mem_filter.mpr ⟨hr, by rwa [hkey]⟩, hid⟩

/-- All counts together are the number of holds. -/
lemma outstanding_eq (hb : p.Backs hs) : p.outstanding = hs.length := by
  have h := hb.holds_filter fun _ => true
  simpa [List.filter_true, List.countP_true, outstanding] using h

/-- The counts under a key are the number of holds under it. -/
lemma refs_eq_countP (hb : p.Backs hs) (key : DeviceKey) :
    p.refs key = hs.countP (·.key == key) :=
  hb.holds_filter (· == key)

/-- A pool that backs no holds is empty. -/
lemma records_eq_nil (hb : p.Backs []) : p.records = [] := by
  refine List.eq_nil_iff_forall_not_mem.mpr fun r hr => ?_
  have hpos := hb.refs_pos r hr
  have href := hb.refs_eq r hr
  simp only [List.countP_nil] at href
  omega

/-- A record of one pool is a record of every other pool that backs the same holds. -/
lemma records_subset (hp : p.Backs hs) (hq : q.Backs hs) : p.records ⊆ q.records := by
  intro r hr
  have hpos : 0 < hs.countP (·.id == r.id) := hp.refs_eq r hr ▸ hp.refs_pos r hr
  obtain ⟨h, hh, hid⟩ := List.countP_pos_iff.mp hpos
  obtain ⟨s, hs', hsid, hskey, hsdev⟩ := hq.held h hh
  obtain ⟨t, ht, htid, htkey, htdev⟩ := hp.held h hh
  have hrh : h.id = r.id := by simpa using hid
  have htr : t = r := hp.eq_of_id_eq ht hr (htid.trans hrh)
  subst htr
  have hrefs : s.refs = t.refs := by rw [hq.refs_eq s hs', hp.refs_eq t ht, hsid, hrh]
  have hst : s = t := by
    cases s; cases t
    simp_all
  exact hst ▸ hs'

/-- The holds determine the records of a pool, up to their order. -/
theorem records_perm (hp : p.Backs hs) (hq : q.Backs hs) : p.records.Perm q.records :=
  (List.perm_ext_iff_of_nodup (hp.ids_nodup.of_map _) (hq.ids_nodup.of_map _)).mpr fun _ =>
    ⟨fun h => hp.records_subset hq h, fun h => hq.records_subset hp h⟩

/-- Under every id, pools that back the same holds have the same record. -/
lemma find?_eq (hp : p.Backs hs) (hq : q.Backs hs) (id : ℕ) : p.find? id = q.find? id := by
  cases h : p.find? id with
  | some r =>
      have hid : r.id = id := by simpa using List.find?_some h
      have hmem := hp.records_subset hq (List.mem_of_find?_eq_some h)
      rw [← hid, hq.find?_id hmem]
  | none =>
      refine (List.find?_eq_none.mpr fun r hr => ?_).symm
      exact List.find?_eq_none.mp h r (hq.records_subset hp hr)

end Backs

/-! ### A hold given back -/

lemma find?_remove (i id : ℕ) : (p.remove i).find? id = if id = i then none else p.find? id := by
  rw [find?, remove, List.find?_filter]
  split_ifs with h
  · rw [List.find?_eq_none]
    intro r _
    simp [h]
  · rw [find?]
    congr 1
    funext r
    by_cases hr : r.id = id <;> simp [hr, h]

lemma find?_update {f : Record δ → Record δ} (hid : ∀ r, (f r).id = r.id) (i id : ℕ) :
    (p.update i f).find? id = (p.find? id).map fun r => if r.id = i then f r else r := by
  rw [find?, update, List.find?_map, find?]
  congr 2
  funext r
  by_cases h : r.id = i <;> simp [h, hid]

/-- The pool `p'` is `p` with the hold `x` given back: one hold less, under its key; the record
of `x` counts one less or, after its last hold, is gone; and all other records are there as
before. -/
structure Returned (p : Pool δ) (x : Hold δ) (p' : Pool δ) : Prop where
  outstanding : p.outstanding = p'.outstanding + 1
  refs : ∀ key, p.refs key = p'.refs key + if key = x.key then 1 else 0
  own : ∃ r, p.find? x.id = some r ∧ r.key = x.key ∧ r.device = x.device ∧
    p'.find? x.id = if r.refs = 1 then none else some r.shrink
  others : ∀ id, id ≠ x.id → p'.find? id = p.find? id

/-- A hold that is backed is given back by a release. -/
theorem Backs.returned {x : Hold δ} (hb : p.Backs (x :: hs)) :
    p.Returned x (p.release x).pool := by
  obtain ⟨r, hr, hid, hkey, hdev, -, heq⟩ := hb.release_eq
  have hfind : p.find? x.id = some r := hid ▸ hb.find?_id hr
  have hshrink : ∀ r : Record δ, r.shrink.id = r.id := fun _ => rfl
  refine ⟨?_, fun key => ?_, ⟨r, hfind, hkey, hdev, ?_⟩, fun id hne => ?_⟩
  · rw [hb.outstanding_eq, hb.release.outstanding_eq, List.length_cons]
  · rw [hb.refs_eq_countP, hb.release.refs_eq_countP, List.countP_cons]
    by_cases h : key = x.key <;> simp [h, Ne.symm]
  · rw [heq]
    split_ifs
    · simp [find?_remove, hid]
    · simp [find?_update hshrink, hfind, hid]
  · rw [heq]
    split_ifs
    · simp [find?_remove, hid, hne]
    · rw [find?_update hshrink]
      refine (Option.map_congr fun s hs => ?_).trans (Option.map_id' ..)
      have hsid : s.id = id := by simpa using List.find?_some hs
      rw [if_neg (by rw [hsid, hid]; exact hne)]

end UsbPipe.Pool
