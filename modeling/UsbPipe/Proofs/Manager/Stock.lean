/-
The references of a manager on the bench: who holds what while scans and opens run.

A manager is *stocked* for some holds and some listed devices if its pool backs the
holds and the bench counts one native reference for each record of the pool and each
listed device, and none was ever given back that was not held.  Every operation on holds
moves from one stock to another, and touches nothing else.

* `Manager.Stocked`: the invariant.
* `Manager.settled`: a manager without what holds are made of, so that an equation of
  settled managers says that an operation left everything else alone.
* `Stocked.retain`, `Stocked.release`, `Stocked.discard`: taking and giving back holds.
* `Stocked.walk`, `Stocked.complete`, `Stocked.select`, `Stocked.resolve`: what a scan and a
  rescan leave in the hands of their caller.
-/
import UsbPipe.Bench.Basic
import UsbPipe.Proofs.Manager.Frame
import UsbPipe.Proofs.Pool.Backing

namespace UsbPipe

open Usb

namespace Manager

/-! ### What holds do not touch -/

/-- A manager on the bench without its pool, its events and the counts of references. -/
def settled (m : Manager Bench Instance DeviceKey) : Manager Bench Instance DeviceKey :=
  { m with
    pool := {}
    events := []
    platform := { m.platform with live := [], overdrawn := 0 } }

variable {m m' : Manager Bench Instance DeviceKey} {H : List (Hold Instance)} {L : List Instance}

@[simp] lemma settled_retain (key : DeviceKey) (i : Instance) :
    (m.retain key i).2.settled = m.settled := by
  simp only [retain, log]
  split_ifs <;> rfl

/-- Events and holds given back settle. -/
lemma settled_releasing (t : Manager Bench Instance DeviceKey) :
    Frame.Releasing fun m : Manager Bench Instance DeviceKey => m.settled = t where
  log _ _ _ ht := ht
  release m h ht := by
    simp only [release, log]
    cases (m.pool.release h).left? <;> cases (m.pool.release h).dropped? <;> exact ht

@[simp] lemma settled_release (h : Hold Instance) : (m.release h).settled = m.settled :=
  (settled_releasing m.settled).release m h rfl

@[simp] lemma settled_releaseAll (hs : List (Hold Instance)) :
    (m.releaseAll hs).settled = m.settled :=
  (settled_releasing m.settled).releaseAll rfl hs

/-! ### The stock -/

/-- The pool backs the holds, its records are kept under the keys of their devices, the
bench counts one reference for each record and each listed device, and none was given
back that nobody held. -/
structure Stocked (m : Manager Bench Instance DeviceKey) (held : List (Hold Instance))
    (listed : List Instance) : Prop where
  backs : m.pool.Backs held
  keyed : ∀ r ∈ m.pool.records, r.device.spec.key = r.key
  live : m.platform.live.Perm
    (listed.map (·.spec.key) ++ m.pool.records.map Pool.Record.key)
  overdrawn : m.platform.overdrawn = 0

namespace Stocked

lemma congr (h : m.Stocked H L) (hpool : m'.pool = m.pool)
    (hlive : m'.platform.live = m.platform.live)
    (hover : m'.platform.overdrawn = m.platform.overdrawn) : m'.Stocked H L where
  backs := hpool ▸ h.backs
  keyed := hpool ▸ h.keyed
  live := by rw [hpool, hlive]; exact h.live
  overdrawn := hover.trans h.overdrawn

lemma perm {H' : List (Hold Instance)} (h : m.Stocked H L) (hp : H.Perm H') : m.Stocked H' L :=
  { h with backs := h.backs.perm hp }

lemma log (h : m.Stocked H L) (level : Level) (text : String) : (m.log level text).Stocked H L :=
  h.congr rfl rfl rfl

/-- A device taken off the list of references. -/
lemma drop {i : Instance} (h : m.Stocked H (i :: L)) :
    { m with platform := m.platform.drop i }.Stocked H L where
  backs := h.backs
  keyed := h.keyed
  live := by
    have hp := h.live.erase i.spec.key
    simpa [Bench.drop] using hp
  overdrawn := by
    have hmem : i.spec.key ∈ m.platform.live := h.live.mem_iff.mpr (by simp)
    simpa [Bench.drop, hmem] using h.overdrawn

lemma dropDevices {is : List Instance} (h : m.Stocked H (is ++ L)) :
    (dropDevices is m).Stocked H L := by
  induction is generalizing m with
  | nil => exact h
  | cons i is ih => exact ih (m := { m with platform := m.platform.drop i }) h.drop

/-! ### Taking and giving back -/

lemma retain (h : m.Stocked H L) (i : Instance) :
    (m.retain i.spec.key i).2.Stocked ((m.retain i.spec.key i).1 :: H) L := by
  have hback := h.backs.retain (Platform.same m.platform) i.spec.key i
  rcases h.backs.retain_cases (Platform.same m.platform) i.spec.key i with
    ⟨r, hr, -, -, heq⟩ | ⟨origin, horigin, heq⟩
  · -- a shared record: no key and no reference more
    have hpool : (m.retain i.spec.key i).2.pool = m.pool.update r.id Pool.Record.grow := by
      rw [retain_pool, heq]
    have hplat : (m.retain i.spec.key i).2.platform = m.platform := by
      rw [retain_platform, heq, if_pos rfl]
    refine ⟨by rw [retain_fst, retain_pool]; exact hback, ?_, ?_, by rw [hplat]; exact h.overdrawn⟩
    · intro s hs
      rw [hpool] at hs
      obtain ⟨t, ht, rfl⟩ := Pool.mem_update.mp hs
      have hkeyed := h.keyed t ht
      by_cases hid : t.id = r.id <;> simpa [hid, Pool.Record.grow] using hkeyed
    · rw [hpool, hplat, Pool.map_update (g := Pool.Record.key) (f := Pool.Record.grow) fun _ => rfl]
      exact h.live
  · -- a record of its own, with a reference of its own
    have hpool : (m.retain i.spec.key i).2.pool = m.pool.insert i.spec.key i := by
      rw [retain_pool, heq]
    have hplat : (m.retain i.spec.key i).2.platform = m.platform.retain i := by
      rw [retain_platform, heq, if_neg horigin]
      rfl
    refine ⟨by rw [retain_fst, retain_pool]; exact hback, ?_, ?_, by rw [hplat]; exact h.overdrawn⟩
    · intro s hs
      rw [hpool] at hs
      rcases List.mem_append.mp hs with hs | hs
      · exact h.keyed s hs
      · rw [List.mem_singleton.mp hs]
    · rw [hpool, hplat]
      have hnew : (m.platform.retain i).live.Perm
          (i.spec.key :: (L.map (·.spec.key) ++ m.pool.records.map Pool.Record.key)) :=
        h.live.cons _
      refine hnew.trans ?_
      simp only [Pool.insert, List.map_append, List.map_cons, List.map_nil, ← List.append_assoc]
      exact (List.perm_append_singleton _ _).symm

lemma release {x : Hold Instance} (h : m.Stocked (x :: H) L) : (m.release x).Stocked H L := by
  have hback := h.backs.release
  obtain ⟨r, hr, hid, hkey, hdev, hrefs, heq⟩ := h.backs.release_eq
  by_cases hone : r.refs = 1
  · -- the last hold: the record goes, and the bench gets its reference back
    have hpool : (m.release x).pool = m.pool.remove r.id := by
      rw [release_pool, heq, if_pos hone]
    have hplat : (m.release x).platform = m.platform.drop r.device := by
      rw [release_platform, heq, Pool.Released.dropped?_of_last hone]
      rfl
    have hperm : m.platform.live.Perm
        (r.key :: (L.map (·.spec.key) ++ (m.pool.remove r.id).records.map Pool.Record.key)) :=
      h.live.trans ((((h.backs.perm_cons_remove hr).map _).append_left _).trans
        List.perm_middle)
    refine ⟨by rw [release_pool]; exact hback, ?_, ?_, ?_⟩
    · intro s hs
      rw [hpool] at hs
      exact h.keyed s (List.mem_filter.mp hs).1
    · rw [hpool, hplat]
      have herase := hperm.erase r.key
      rw [List.erase_cons_head] at herase
      simpa [Bench.drop, h.keyed r hr] using herase
    · have hmem : r.key ∈ m.platform.live := hperm.mem_iff.mpr (List.mem_cons_self ..)
      rw [hplat]
      simpa [Bench.drop, h.keyed r hr, hmem] using h.overdrawn
  · -- another hold needs the record
    have hpool : (m.release x).pool = m.pool.update r.id Pool.Record.shrink := by
      rw [release_pool, heq, if_neg hone]
    have hplat : (m.release x).platform = m.platform := by
      rw [release_platform, heq, Pool.Released.dropped?_of_not_last hone]
    refine ⟨by rw [release_pool]; exact hback, ?_, ?_, by rw [hplat]; exact h.overdrawn⟩
    · intro s hs
      rw [hpool] at hs
      obtain ⟨t, ht, rfl⟩ := Pool.mem_update.mp hs
      have hkeyed := h.keyed t ht
      by_cases hid : t.id = r.id <;> simpa [hid, Pool.Record.shrink] using hkeyed
    · rw [hpool, hplat,
        Pool.map_update (g := Pool.Record.key) (f := Pool.Record.shrink) fun _ => rfl]
      exact h.live

lemma releaseAll {hs : List (Hold Instance)} (h : m.Stocked (hs ++ H) L) :
    (m.releaseAll hs).Stocked H L := by
  induction hs generalizing m with
  | nil => exact h
  | cons x hs ih => exact ih (m := m.release x) h.release

lemma discard {fs : List (Found Instance)} (h : m.Stocked (fs.map Found.hold ++ H) L) :
    (m.discard fs).Stocked H L := h.releaseAll

/-- The hold on a device is of a device with its key, though maybe of an older one. -/
lemma retain_key (h : m.Stocked H L) (i : Instance) :
    (m.retain i.spec.key i).1.device.spec.key = i.spec.key := by
  rw [retain_fst]
  rcases h.backs.retain_cases (Platform.same m.platform) i.spec.key i with
    ⟨r, hr, hkey, -, heq⟩ | ⟨_, -, heq⟩
  · rw [heq]; exact (h.keyed r hr).trans hkey
  · rw [heq]

end Stocked

/-! ### Scanning -/

/-- The raw interface of a candidate is at its key. -/
lemma key_of_rawInterface? {c : Candidate Instance} {alt : AltSetting} {info : RawInterface}
    (h : c.rawInterface? alt = some info) : info.key = c.key := by
  rw [Candidate.rawInterface?] at h
  split_ifs at h
  obtain ⟨pair, -, rfl⟩ := Option.map_eq_some_iff.mp h
  rfl

/-- While a scan runs, the holds of the records found so far come on top of all others,
and each is on a device at the place of its record. -/
lemma stocked_invariant (H : List (Hold Instance)) (L : List Instance) :
    ScanInvariant (fun c => c.key = c.device.spec.key) fun fs m =>
      m.Stocked (fs.map Found.hold ++ H) L ∧
        ∀ f ∈ fs, f.hold.device.spec.key = f.info.key where
  log := fun _ _ level text h => ⟨h.1.log level text, h.2⟩
  record := by
    intro fs m c alt info hc _ hinfo ⟨hs, hkey⟩
    have hlog := hs.log .debug ("Matched " ++ info.display)
    refine ⟨?_, fun f hf => ?_⟩
    · rw [List.map_append, List.append_assoc]
      simp only [recordMatch, hc]
      exact (hlog.retain c.device).perm List.perm_middle.symm
    · rcases List.mem_append.mp hf with hf | hf
      · exact hkey f hf
      · have hplace : (m.recordMatch c info).1.info.key = c.key := key_of_rawInterface? hinfo
        rw [List.mem_singleton.mp hf, hplace, hc]
        simp only [recordMatch, hc]
        exact hlog.retain_key c.device

/-- The references of the native list are taken. -/
def takeDevices (is : List Instance) (m : Manager Bench Instance DeviceKey) :
    Manager Bench Instance DeviceKey :=
  { m with platform := is.foldl (fun b i => Bench.retain i b) m.platform }

/-- Listing the devices takes a reference on each, or fails and takes none. -/
lemma native_devices : m.native Platform.devices =
    match m.platform.failures.listing with
    | some e => (.error e, m)
    | none => (.ok m.platform.attached, takeDevices m.platform.attached m) := by
  cases h : m.platform.failures.listing <;>
    simp [native, Platform.devices, Bench.devices, h, takeDevices]

@[simp] lemma settled_takeDevices (is : List Instance) :
    (takeDevices is m).settled = m.settled := by
  induction is generalizing m with
  | nil => rfl
  | cons i is ih => exact ih (m := { m with platform := m.platform.retain i })

lemma Stocked.takeDevices (h : m.Stocked H L) (is : List Instance) :
    (takeDevices is m).Stocked H (is ++ L) := by
  induction is generalizing m L with
  | nil => exact h
  | cons i is ih =>
      have hi : { m with platform := m.platform.retain i }.Stocked H (i :: L) :=
        ⟨h.backs, h.keyed, h.live.cons _, h.overdrawn⟩
      have hrest := ih hi
      have hmiddle : (is ++ i :: L).Perm (i :: (is ++ L)) := List.perm_middle
      have hlisted := hmiddle.map (·.spec.key)
      exact ⟨hrest.backs, hrest.keyed, hrest.live.trans (hlisted.append_right _),
        hrest.overdrawn⟩

@[simp] lemma settled_walk (filter : Filter) : (m.walk filter).2.settled = m.settled := by
  refine (settled_releasing m.settled).walk ?_ (fun _ key i ht => (settled_retain key i).trans ht)
    (fun _ _ ht => ht) filter
  rw [native_devices]
  cases m.platform.failures.listing with
  | some e => rfl
  | none => exact settled_takeDevices m.platform.attached

/-- A walk leaves one hold more for each record it found, on a device at the place of the
record, and no listed device. -/
lemma Stocked.walk (h : m.Stocked H []) (filter : Filter) :
    (m.walk filter).2.Stocked ((m.walk filter).1.found.map Found.hold ++ H) [] ∧
      ∀ f ∈ (m.walk filter).1.found, f.hold.device.spec.key = f.info.key := by
  rw [Manager.walk, native_devices]
  cases m.platform.failures.listing with
  | some e => exact ⟨h.log _ _, by simp⟩
  | none =>
      obtain ⟨hscan, hkey⟩ := (stocked_invariant H (m.platform.attached ++ [])).devices filter
        m.platform.attached (fun _ _ _ _ _ => rfl) 0 (F := [])
        ⟨h.takeDevices m.platform.attached, by simp⟩
      exact ⟨hscan.dropDevices.log _ _, hkey⟩

/-- The holds that the outcome of an operation leaves in the hands of its caller. -/
def holdsOf {α : Type} (holds : α → List (Hold Instance)) :
    Except UsbError α → List (Hold Instance)
  | .ok a => holds a
  | .error _ => []

@[simp] lemma settled_complete (r : Scan Instance × Manager Bench Instance DeviceKey) :
    (complete r).2.settled = r.2.settled :=
  (settled_releasing r.2.settled).complete rfl

lemma Stocked.complete {r : Scan Instance × Manager Bench Instance DeviceKey}
    (h : r.2.Stocked (r.1.found.map Found.hold ++ H) L) :
    (complete r).2.Stocked (holdsOf (List.map Found.hold) (complete r).1 ++ H) L := by
  rcases r with ⟨⟨found, _ | e⟩, m⟩
  · exact h
  · exact h.discard

/-! ### Finding an interface again -/

/-- What is selected is the first record in the place. -/
lemma select_fst (info : RawInterface) (fs : List (Found Instance)) :
    (select info fs m).1 = fs.find? (·.info.samePlace info) := by
  induction fs generalizing m with
  | nil => rfl
  | cons f fs ih =>
      rw [select, List.find?_cons]
      cases f.info.samePlace info with
      | true => rfl
      | false => exact ih

lemma Stocked.select {fs : List (Found Instance)} (h : m.Stocked (fs.map Found.hold ++ H) L)
    (info : RawInterface) :
    (select info fs m).2.Stocked ((select info fs m).1.toList.map Found.hold ++ H) L := by
  induction fs generalizing m with
  | nil => exact h
  | cons f fs ih =>
      rw [Manager.select]
      split_ifs
      · exact Stocked.discard (h.perm List.perm_middle.symm)
      · exact ih (m := m.release f.hold) h.release

@[simp] lemma settled_resolve (info : RawInterface) : (m.resolve info).2.settled = m.settled :=
  (settled_releasing m.settled).resolve (settled_walk (idsOf info))

/-- A rescan leaves the hold of the record it found, on a device at the place of the
record, and none if it fails. -/
lemma Stocked.resolve (h : m.Stocked H []) (info : RawInterface) :
    (m.resolve info).2.Stocked (holdsOf (fun f => [f.hold]) (m.resolve info).1 ++ H) [] ∧
      ∀ f, (m.resolve info).1 = .ok f → f.hold.device.spec.key = f.info.key := by
  obtain ⟨hwalk, hkey⟩ := h.walk (idsOf info)
  have hcomp := hwalk.complete
  rcases hw : m.walk (idsOf info) with ⟨⟨found, e?⟩, m₁⟩
  rw [Manager.resolve, hw]
  rw [hw] at hcomp hkey
  cases e? with
  | some e => exact ⟨hcomp, by simp [Manager.complete]⟩
  | none =>
      have hsel := Stocked.select hcomp info
      have hfst := select_fst (m := m₁) info found
      simp only [Manager.complete] at hsel ⊢
      rcases hs : Manager.select info found m₁ with ⟨_ | f, m₂⟩
      · rw [hs] at hsel
        exact ⟨hsel, by simp⟩
      · rw [hs] at hsel hfst
        refine ⟨hsel, fun g hg => ?_⟩
        cases hg
        exact hkey f (List.mem_of_find?_eq_some hfst.symm)

end Manager

end UsbPipe
