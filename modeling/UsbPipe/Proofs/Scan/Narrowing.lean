/-
Scans with a narrower filter, and scans under other failures.

A narrower filter leaves out whole devices, their failures with their matches; of the others
it finds the same.  A read that fails ends a walk, and changes nothing of what stands before
it.  So a complete scan with a narrower filter begins with all that a scan with the wider one
found of its devices, whatever reads failed then.

* `Filter.Within`, `Filter.keeps`: a filter within another, and the records it lets pass.
* `Narrowed`: items of which some are left out; `busWalk_narrowed`.
* `Alike`: items that are the same up to the first failure of either; `busWalk_alike`.
* `mem_walked_scanItems`, `keeps_of_mem_walked`: where the records of a scan come from.
* `scanItems_front`: what a narrower scan begins with.
-/
import UsbPipe.Proofs.Scan.Reference

namespace UsbPipe

open Usb Manager

/-! ### Filters -/

namespace Usb.Filter

/-- All that `f` admits is admitted by `g`. -/
def Within (f g : Filter) : Prop :=
  ∀ v p, f.admits v p = true → g.admits v p = true

/-- Whether a record is one of a device that passes. -/
def keeps (f : Filter) (i : RawInterface) : Bool := f.admits i.vendorId i.productId

/-- An id that is admitted stands for itself, or for every id where it is zero; then so does
what admits it. -/
lemma admitsId_of_some {wanted : Option UInt16} {id value : UInt16}
    (hid : admitsId wanted id = true) (hvalue : admitsId (some id) value = true) :
    admitsId wanted value = true := by
  cases wanted with
  | none => rfl
  | some w =>
      simp only [admitsId, Bool.or_eq_true, beq_iff_eq] at hid hvalue ⊢
      rcases hid with hw | rfl
      · exact Or.inl hw
      · exact hvalue

/-- The ids of a record that passes a filter are within it. -/
lemma idsOf_within {g : Filter} {info : RawInterface} (h : g.keeps info = true) :
    (idsOf info).Within g := by
  intro v p hvp
  rw [keeps, admits, Bool.and_eq_true] at h
  rw [admits, Bool.and_eq_true] at hvp ⊢
  exact ⟨admitsId_of_some h.1 hvp.1, admitsId_of_some h.2 hvp.2⟩

/-- A record passes the filter of its own ids. -/
lemma idsOf_keeps_self (info : RawInterface) : (idsOf info).keeps info = true := by
  simp [keeps, idsOf, admits, admitsId]

end Usb.Filter

/-! ### Items left out -/

section Items

variable {ε α : Type} {keep : α → Bool} {xs ys xs' ys' : List (Except ε α)}

/-- `ys` are the items `xs` without some of the failures and the results that `keep` turns
down. -/
inductive Narrowed (keep : α → Bool) : List (Except ε α) → List (Except ε α) → Prop
  | nil : Narrowed keep [] []
  | cons {item : Except ε α} {xs ys : List (Except ε α)}
      (kept : ∀ a, item = .ok a → keep a = true) (rest : Narrowed keep xs ys) :
      Narrowed keep (item :: xs) (item :: ys)
  | leave {item : Except ε α} {xs ys : List (Except ε α)}
      (left : ∀ a, item = .ok a → keep a = false) (rest : Narrowed keep xs ys) :
      Narrowed keep (item :: xs) ys

namespace Narrowed

lemma append (h : Narrowed keep xs ys) (h' : Narrowed keep xs' ys') :
    Narrowed keep (xs ++ xs') (ys ++ ys') := by
  induction h with
  | nil => exact h'
  | cons kept _ ih => exact ih.cons kept
  | leave left _ ih => exact ih.leave left

/-- Nothing is left out. -/
lemma all (h : ∀ a, .ok a ∈ xs → keep a = true) : Narrowed keep xs xs := by
  induction xs with
  | nil => exact nil
  | cons item xs ih =>
      refine cons (fun a ha => h a (ha ▸ List.mem_cons_self ..)) (ih fun a ha => ?_)
      exact h a (List.mem_cons_of_mem _ ha)

/-- Everything is left out. -/
lemma none (h : ∀ a, .ok a ∈ xs → keep a = false) : Narrowed keep xs [] := by
  induction xs with
  | nil => exact nil
  | cons item xs ih =>
      refine leave (fun a ha => h a (ha ▸ List.mem_cons_self ..)) (ih fun a ha => ?_)
      exact h a (List.mem_cons_of_mem _ ha)

/-- A walk that meets no failure meets none in what is narrowed, and finds there what it
found and `keep` lets pass; a walk that fails has found a front part of that. -/
lemma walked (h : Narrowed keep xs ys) :
    match UsbPipe.walked xs with
    | (as, .none) => UsbPipe.walked ys = (as.filter keep, .none)
    | (as, .some _) => as.filter keep <+: (UsbPipe.walked ys).1 := by
  induction h with
  | nil => rfl
  | @cons item xs ys kept _ ih =>
      cases item with
      | error e => exact List.nil_prefix
      | ok a =>
          have hkeep := kept a rfl
          rw [UsbPipe.walked, UsbPipe.walked]
          rcases hw : UsbPipe.walked xs with ⟨as, _ | e⟩ <;> rw [hw] at ih
          · simp only [ih, List.filter_cons_of_pos hkeep]
          · simp only [List.filter_cons_of_pos hkeep]
            exact (List.prefix_cons_inj a).mpr ih
  | @leave item xs ys left _ ih =>
      cases item with
      | error e => exact List.nil_prefix
      | ok a =>
          have hleft : ¬ keep a = true := by simp [left a rfl]
          rw [UsbPipe.walked]
          rcases hw : UsbPipe.walked xs with ⟨as, _ | e⟩ <;> rw [hw] at ih <;>
            simpa only [List.filter_cons_of_neg hleft] using ih

/-- In either case what is found begins with what was found and passes. -/
lemma walked_front (h : Narrowed keep xs ys) :
    (UsbPipe.walked xs).1.filter keep <+: (UsbPipe.walked ys).1 := by
  have hw := h.walked
  rcases hxs : UsbPipe.walked xs with ⟨as, _ | e⟩ <;> rw [hxs] at hw
  · exact hw ▸ List.prefix_refl _
  · exact hw

end Narrowed

/-! ### Items cut short -/

/-- Items that are the same up to the first failure of either. -/
inductive Alike : List (Except ε α) → List (Except ε α) → Prop
  | nil : Alike [] []
  | cons {item : Except ε α} {xs ys : List (Except ε α)} (rest : Alike xs ys) :
      Alike (item :: xs) (item :: ys)
  | left {e : ε} {xs ys : List (Except ε α)} : Alike (.error e :: xs) ys
  | right {e : ε} {xs ys : List (Except ε α)} : Alike xs (.error e :: ys)

namespace Alike

lemma refl : ∀ xs : List (Except ε α), Alike xs xs
  | [] => nil
  | _ :: xs => cons (refl xs)

lemma append (h : Alike xs ys) (h' : Alike xs' ys') : Alike (xs ++ xs') (ys ++ ys') := by
  induction h with
  | nil => exact h'
  | cons _ ih => exact ih.cons
  | left => exact left
  | right => exact right

lemma flatMap {β : Type} {f g : β → List (Except ε α)} (h : ∀ b, Alike (f b) (g b)) :
    ∀ bs : List β, Alike (bs.flatMap f) (bs.flatMap g)
  | [] => nil
  | b :: bs => (h b).append (flatMap h bs)

/-- A complete walk begins with all that the other one finds. -/
lemma walked_front (h : Alike xs ys) (hys : (walked ys).2 = none) :
    (walked xs).1 <+: (walked ys).1 := by
  induction h with
  | nil => exact List.nil_prefix
  | @cons item xs ys _ ih =>
      cases item with
      | error e => cases hys
      | ok a => exact (List.prefix_cons_inj a).mpr (ih hys)
  | left => exact List.nil_prefix
  | right => cases hys

end Alike

end Items

/-! ### The walk with a narrower filter -/

section Walks

variable {δ : Type} {r r' : Readings δ} {f g : Filter}

/-- A record of a configuration is that of a setting with a pair of pipes. -/
lemma mem_configWalk {index : ℕ} {device : δ} {desc : DeviceDescriptor} {config : ℕ}
    {i : RawInterface} (h : .ok i ∈ r.configWalk index device desc config) :
    ∃ alt pair, PipePair.select? alt.endpoints = some pair ∧
      i = r.recordOf device desc alt pair := by
  rw [Readings.configWalk] at h
  cases hread : r.configDescriptor device config with
  | error e => simp [hread] at h
  | ok c =>
      simp only [hread, List.mem_flatMap, Readings.settingWalk] at h
      obtain ⟨-, -, alt, -, hset⟩ := h
      split_ifs at hset
      · cases hset
      · cases hpair : PipePair.select? alt.endpoints with
        | none => simp [hpair] at hset
        | some pair =>
            simp only [hpair, List.mem_singleton, Except.ok.injEq] at hset
            exact ⟨alt, pair, hpair, hset⟩

/-- A device that the narrower filter admits is walked alike; one that it does not is left
out. -/
lemma deviceWalk_narrowed (h : f.Within g) (index : ℕ) (device : δ) :
    Narrowed f.keeps (r.deviceWalk g index device) (r.deviceWalk f index device) := by
  rw [Readings.deviceWalk, Readings.deviceWalk]
  cases r.deviceDescriptor device with
  | error e => exact .all fun a ha => by simp at ha
  | ok desc =>
      have hkeeps : ∀ i, .ok i ∈ (List.range desc.numConfigurations.toNat).flatMap
          (r.configWalk index device desc) →
          f.keeps i = f.admits desc.vendorId desc.productId := by
        intro i hi
        obtain ⟨config, -, hi⟩ := List.mem_flatMap.mp hi
        obtain ⟨alt, pair, -, rfl⟩ := mem_configWalk hi
        rfl
      by_cases hcls : desc.cls = .hid
      · simpa [hcls] using Narrowed.nil
      · cases hf : f.admits desc.vendorId desc.productId with
        | true =>
            have hg := h _ _ hf
            simp only [hf, hg, hcls, Bool.true_eq_false, or_self, if_false]
            exact .all fun i hi => (hkeeps i hi).trans hf
        | false =>
            simp only [hf, true_or, if_true]
            split_ifs
            · exact .nil
            · exact .none fun i hi => (hkeeps i hi).trans hf

/-- So are the devices of a list. -/
lemma busWalk_narrowed (h : f.Within g) (index : ℕ) (devices : List δ) :
    Narrowed f.keeps (r.busWalk g index devices) (r.busWalk f index devices) := by
  induction devices generalizing index with
  | nil => exact .nil
  | cons device devices ih =>
      simp only [Readings.busWalk, List.zipIdx_cons, List.flatMap_cons]
      exact (deviceWalk_narrowed h index device).append (ih (index + 1))

/-- So is a whole scan. -/
lemma scanItems_narrowed {σ η : Type} [Platform σ δ η] (h : f.Within g) (p : σ) :
    Narrowed f.keeps (Platform.scanItems p g) (Platform.scanItems p f) := by
  rw [Platform.scanItems, Platform.scanItems]
  cases (Platform.devices p).1 with
  | error e => exact .all fun a ha => by simp at ha
  | ok devices => exact busWalk_narrowed h 0 devices

/-- A record of a walk is that of a setting with a pair of pipes, of a device that the filter
admits. -/
lemma mem_busWalk {index : ℕ} {devices : List δ} {i : RawInterface}
    (h : .ok i ∈ r.busWalk f index devices) :
    ∃ device desc alt pair, f.admits desc.vendorId desc.productId = true ∧
      PipePair.select? alt.endpoints = some pair ∧ i = r.recordOf device desc alt pair := by
  obtain ⟨⟨device, index⟩, -, hi⟩ := List.mem_flatMap.mp h
  simp only [Readings.deviceWalk] at hi
  cases hread : r.deviceDescriptor device with
  | error e => simp [hread] at hi
  | ok desc =>
      simp only [hread] at hi
      split_ifs at hi with hpass
      · cases hi
      · obtain ⟨config, -, hi⟩ := List.mem_flatMap.mp hi
        obtain ⟨alt, pair, hpair, rfl⟩ := mem_configWalk hi
        rw [not_or, Bool.not_eq_false] at hpass
        exact ⟨device, desc, alt, pair, hpass.1, hpair, rfl⟩

/-! ### The walk under other failures -/

/-- Two native layers tell the same about a device wherever both tell something. -/
structure Readings.Agree (r r' : Readings δ) : Prop where
  key : r.key = r'.key
  port : r.port = r'.port
  speed : r.speed = r'.speed
  deviceDescriptor : ∀ {d desc desc'}, r.deviceDescriptor d = .ok desc →
    r'.deviceDescriptor d = .ok desc' → desc = desc'
  configDescriptor : ∀ {d n c c'}, r.configDescriptor d n = .ok c →
    r'.configDescriptor d n = .ok c' → c = c'

lemma configWalk_alike (h : r.Agree r') (index : ℕ) (device : δ) (desc : DeviceDescriptor)
    (config : ℕ) :
    Alike (r.configWalk index device desc config) (r'.configWalk index device desc config) := by
  have hsettings : r.settingWalk device desc = r'.settingWalk device desc := by
    funext alt
    simp only [Readings.settingWalk, Readings.recordOf, h.key, h.port, h.speed]
  rw [Readings.configWalk, Readings.configWalk]
  cases hc : r.configDescriptor device config with
  | error e => exact .left
  | ok c =>
      cases hc' : r'.configDescriptor device config with
      | error e => exact .right
      | ok c' =>
          rw [h.configDescriptor hc hc', hsettings]
          exact .refl _

lemma deviceWalk_alike (h : r.Agree r') (f : Filter) (index : ℕ) (device : δ) :
    Alike (r.deviceWalk f index device) (r'.deviceWalk f index device) := by
  rw [Readings.deviceWalk, Readings.deviceWalk]
  cases hd : r.deviceDescriptor device with
  | error e => exact .left
  | ok desc =>
      cases hd' : r'.deviceDescriptor device with
      | error e => exact .right
      | ok desc' =>
          rw [h.deviceDescriptor hd hd']
          simp only
          split_ifs
          · exact .nil
          · exact Alike.flatMap (configWalk_alike h index device desc') _

lemma busWalk_alike (h : r.Agree r') (f : Filter) (index : ℕ) (devices : List δ) :
    Alike (r.busWalk f index devices) (r'.busWalk f index devices) :=
  Alike.flatMap (fun (d : δ × ℕ) => deviceWalk_alike h f d.2 d.1) _

end Walks

/-! ### On the bench -/

section OnBench

variable {b b' : Bench} {f g : Filter}

/-- Two benches tell the same about a device, but for the failures that were asked for. -/
lemma readings_agree (b b' : Bench) : (Platform.readings b).Agree (Platform.readings b') where
  key := rfl
  port := rfl
  speed := rfl
  deviceDescriptor := by
    intro d desc desc' h h'
    simp only [Platform.readings, Platform.deviceDescriptor, Bench.deviceDescriptor] at h h'
    split at h <;> split at h' <;> simp_all
  configDescriptor := by
    intro d n c c' h h'
    simp only [Platform.readings, Platform.configDescriptor, Bench.configDescriptor] at h h'
    split at h <;> split at h' <;> simp_all

lemma scanItems_eq (b : Bench) (f : Filter) :
    Platform.scanItems b f = match b.failures.listing with
      | some e => [.error (.discovery .listing e)]
      | none => (Platform.readings b).busWalk f 0 b.attached := by
  simp only [Platform.scanItems, Platform.devices, Bench.devices]
  cases b.failures.listing <;> rfl

/-- What a device tells depends on the failures that were asked for alone. -/
lemma readings_congr (hfail : b.failures = b'.failures) :
    Platform.readings b = Platform.readings b' := by
  simp only [Platform.readings, Platform.key, Platform.port, Platform.speed,
    Platform.deviceDescriptor, Platform.configDescriptor, Readings.mk.injEq, true_and]
  constructor
  · funext d
    rw [Bench.deviceDescriptor, Bench.deviceDescriptor, hfail]
  · funext d n
    rw [Bench.configDescriptor, Bench.configDescriptor, hfail]

/-- A scan reads nothing but the attached devices and the failures that were asked for. -/
lemma scanItems_congr (hatt : b.attached = b'.attached) (hfail : b.failures = b'.failures)
    (f : Filter) : Platform.scanItems b f = Platform.scanItems b' f := by
  rw [scanItems_eq, scanItems_eq, hatt, hfail, readings_congr hfail]

/-- What a scan finds is read off a setting with a pair of pipes, of a device that its filter
admits. -/
lemma mem_walked_scanItems {i : RawInterface} (h : i ∈ (walked (Platform.scanItems b f)).1) :
    ∃ device desc alt pair, f.admits desc.vendorId desc.productId = true ∧
      PipePair.select? alt.endpoints = some pair ∧
      i = (Platform.readings b).recordOf device desc alt pair := by
  have hmem : .ok i ∈ Platform.scanItems b f := by
    have hspec := walked_spec (Platform.scanItems b f)
    rcases hw : walked (Platform.scanItems b f) with ⟨is, _ | e⟩ <;> rw [hw] at h hspec
    · rw [hspec]
      exact List.mem_map_of_mem h
    · obtain ⟨rest, hrest⟩ := hspec
      rw [hrest]
      exact List.mem_append_left _ (List.mem_map_of_mem h)
  rw [scanItems_eq] at hmem
  cases hl : b.failures.listing with
  | some e => simp [hl] at hmem
  | none =>
      rw [hl] at hmem
      exact mem_busWalk hmem

/-- A scan finds what its filter lets pass. -/
lemma keeps_of_mem_walked {i : RawInterface} (h : i ∈ (walked (Platform.scanItems b f)).1) :
    f.keeps i = true := by
  obtain ⟨device, desc, alt, pair, hadmits, -, rfl⟩ := mem_walked_scanItems h
  exact hadmits

lemma scanItems_alike (hatt : b.attached = b'.attached) (f : Filter) :
    Alike (Platform.scanItems b f) (Platform.scanItems b' f) := by
  rw [scanItems_eq, scanItems_eq]
  cases b.failures.listing with
  | some e => exact .left
  | none =>
      cases b'.failures.listing with
      | some e => exact .right
      | none =>
          rw [hatt]
          exact busWalk_alike (readings_agree b b') f 0 b'.attached

/-- A complete scan begins with all that passes its filter of what a wider scan of the same
devices found, whatever reads failed then. -/
theorem scanItems_front (hatt : b.attached = b'.attached) (h : f.Within g)
    (hdone : (walked (Platform.scanItems b' f)).2 = none) :
    (walked (Platform.scanItems b g)).1.filter f.keeps <+:
      (walked (Platform.scanItems b' f)).1 :=
  (scanItems_narrowed h b).walked_front.trans ((scanItems_alike hatt f).walked_front hdone)

end OnBench

end UsbPipe
