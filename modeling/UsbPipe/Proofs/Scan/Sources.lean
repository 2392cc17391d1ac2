/-
The devices behind the records of a scan.

Two attached devices may tell the same of themselves, so that their records are equal.  What a
scan finds is therefore followed with the devices that it was read off, in the same order, and
where serials identify devices, the hold of every record is on its own.

* `Found.source`: a record with the device of its hold.
* `Platform.sourceItems`: the items of a scan, each match with the device that it is read off.
* `Identified.walk_sources`: a walk finds what stands before the first failure of these.
* `Platform.resolved`, `Identified.resolve_sources`: what a rescan resolves to.
* `resolved_of_first`: the first record of a complete scan in a place is what a rescan for it
  resolves to, though the rescan may admit other ids.
-/
import UsbPipe.Proofs.Manager.Instances
import UsbPipe.Proofs.Scan.Narrowing

namespace UsbPipe

open Usb Manager

/-- A record with the device of its hold. -/
def Found.source {δ : Type} (f : Found δ) : RawInterface × δ := (f.info, f.hold.device)

/-! ### Items with devices -/

section Items

variable {ε α β : Type} {keep : α → Bool} {keep' : β → Bool} {xs ys : List (Except ε α)}

lemma walked_map (g : α → β) (xs : List (Except ε α)) :
    walked (xs.map (Except.map g)) = ((walked xs).1.map g, (walked xs).2) := by
  induction xs with
  | nil => rfl
  | cons item xs ih =>
      cases item with
      | error e => rfl
      | ok a => rw [List.map_cons, Except.map, walked, ih, walked, List.map_cons]

lemma Narrowed.map {g : α → β} (hg : ∀ a, keep' (g a) = keep a) (h : Narrowed keep xs ys) :
    Narrowed keep' (xs.map (Except.map g)) (ys.map (Except.map g)) := by
  induction h with
  | nil => exact .nil
  | @cons item xs ys kept _ ih =>
      refine .cons (fun b hb => ?_) ih
      cases item with
      | error e => cases hb
      | ok a =>
          cases hb
          exact (hg a).trans (kept a rfl)
  | @leave item xs ys left _ ih =>
      refine .leave (fun b hb => ?_) ih
      cases item with
      | error e => cases hb
      | ok a =>
          cases hb
          exact (hg a).trans (left a rfl)

end Items

namespace Readings

variable {δ : Type} (r : Readings δ)

/-- The items of a device, each match with the device. -/
def sourceItems (filter : Filter) (index : ℕ) (device : δ) :
    List (Except UsbError (RawInterface × δ)) :=
  (r.deviceWalk filter index device).map (Except.map (·, device))

/-- The devices of a list, of which the first has the index `index`. -/
def sourceWalk (filter : Filter) (index : ℕ) (devices : List δ) :
    List (Except UsbError (RawInterface × δ)) :=
  (devices.zipIdx index).flatMap fun (device, index) => r.sourceItems filter index device

end Readings

section Platform

variable {σ δ η : Type} [Platform σ δ η]

/-- The items of a scan, each match with the device that it is read off. -/
def Platform.sourceItems (p : σ) (filter : Filter) : List (Except UsbError (RawInterface × δ)) :=
  match (Platform.devices p).1 with
  | .error e => [.error (.discovery .listing e)]
  | .ok devices => (Platform.readings p).sourceWalk filter 0 devices

/-- Without the devices, these are the items of the scan. -/
lemma infos_sourceItems (p : σ) (filter : Filter) :
    (Platform.sourceItems p filter).map (Except.map Prod.fst) = Platform.scanItems p filter := by
  have hdevice : ∀ (device : δ) (item : Except UsbError RawInterface),
      (item.map (·, device)).map Prod.fst = item := by
    intro device item
    cases item <;> rfl
  rw [Platform.sourceItems, Platform.scanItems]
  cases (Platform.devices p).1 with
  | error e => rfl
  | ok devices =>
      simp [Readings.sourceWalk, Readings.busWalk, Readings.sourceItems, List.map_flatMap, hdevice,
        Function.comp_def]

lemma walked_sourceItems (p : σ) (filter : Filter) :
    ((walked (Platform.sourceItems p filter)).1.map Prod.fst,
      (walked (Platform.sourceItems p filter)).2) = walked (Platform.scanItems p filter) := by
  rw [← walked_map, infos_sourceItems]

/-- A narrower filter leaves out whole devices. -/
lemma sourceItems_narrowed {f g : Filter} (h : f.Within g) (p : σ) :
    Narrowed (fun s => f.keeps s.1) (Platform.sourceItems p g) (Platform.sourceItems p f) := by
  have hdevice : ∀ (index : ℕ) (device : δ), Narrowed (fun s => f.keeps s.1)
      ((Platform.readings p).sourceItems g index device)
      ((Platform.readings p).sourceItems f index device) := fun index device =>
    (deviceWalk_narrowed h index device).map fun _ => rfl
  rw [Platform.sourceItems, Platform.sourceItems]
  cases (Platform.devices p).1 with
  | error e => exact .all fun a ha => by simp at ha
  | ok devices =>
      simp only [Readings.sourceWalk]
      induction devices.zipIdx 0 with
      | nil => exact .nil
      | cons device devices ih => exact (hdevice device.2 device.1).append ih

end Platform

/-! ### Walks -/

namespace Manager.Identified

variable {m m' : Manager Bench Instance DeviceKey} {i : Instance}

/-- While a device is scanned, every record found there has its hold on it. -/
lemma device_invariant (h : m.Identified) (hi : i ∈ m.platform.attached) :
    ScanInvariant (· = candidateOf i)
      fun fs m' => m'.Within m ∧ ∀ f ∈ fs, f.hold.device = i where
  log := fun fs m' level text hm => ⟨(within_invariant m).log fs m' level text hm.1, hm.2⟩
  record := by
    rintro fs m' c alt info rfl hshows hinfo ⟨hm, hfs⟩
    refine ⟨(within_invariant m).record fs m' _ alt info ⟨i, hi, rfl⟩ hshows hinfo hm,
      fun f hf => ?_⟩
    rcases List.mem_append.mp hf with hf | hf
    · exact hfs f hf
    · rw [List.mem_singleton.mp hf]
      exact h.device_recordMatch hm hi info

lemma scanDevice_sources (h : m.Identified) (hi : i ∈ m.platform.attached) (filter : Filter)
    (index : ℕ) {desc : DeviceDescriptor}
    (hdesc : Platform.deviceDescriptor m.platform i = .ok desc) :
    ((scanDevice filter index i desc m).1.found.map Found.source,
        (scanDevice filter index i desc m).1.error?) =
      walked ((Platform.readings m.platform).sourceItems filter index i) := by
  have hout := scanDevice_outcome (m := m) rfl filter index hdesc
  have hdev := ((h.device_invariant hi).device filter index i desc (candidateOf_eq hdesc)
    (F := []) ⟨Within.refl m, by simp⟩).2
  have hpairs : (scanDevice filter index i desc m).1.found.map Found.source =
      (scanDevice filter index i desc m).1.outcome.1.map (·, i) := by
    rw [Scan.outcome, List.map_map]
    exact List.map_congr_left fun f hf => congrArg (f.info, ·) (hdev f hf)
  rw [Readings.sourceItems, walked_map, ← hout, hpairs]
  rfl

lemma scanDevices_sources (h : m.Identified) (filter : Filter) (index : ℕ) (is : List Instance)
    (his : ∀ i ∈ is, i ∈ m.platform.attached) :
    ((scanDevices filter index is m).1.found.map Found.source,
        (scanDevices filter index is m).1.error?) =
      walked ((Platform.readings m.platform).sourceWalk filter index is) := by
  induction is generalizing m index with
  | nil => rfl
  | cons i is ih =>
      have hi := his i (List.mem_cons_self ..)
      rw [scanDevices, Readings.sourceWalk, List.zipIdx_cons, List.flatMap_cons, walked_append]
      cases hdesc : Platform.deviceDescriptor m.platform i with
      | error e =>
          have hread : (Platform.readings m.platform).deviceDescriptor i = .error e := hdesc
          simp [Readings.sourceItems, Readings.deviceWalk, hread, walked, Except.map]
      | ok desc =>
          have hdev := h.scanDevice_sources hi filter index hdesc
          have hread := (readings_invariant (Platform.readings m.platform)).device filter index i
            desc (m := m) trivial (F := []) rfl
          have hwithin := ((h.device_invariant hi).device filter index i desc
            (candidateOf_eq hdesc) (F := []) ⟨Within.refl m, by simp⟩).1
          rcases hs : scanDevice filter index i desc m with ⟨⟨found, _ | e⟩, m₁⟩ <;>
            rw [hs] at hdev hread hwithin
          · have hrest := ih (h.within hwithin) (index + 1) fun j hj =>
              hwithin.attached_eq ▸ his j (List.mem_cons_of_mem _ hj)
            rw [hread, Readings.sourceWalk] at hrest
            rw [← hdev, ← hrest]
            simp [hs]
          · rw [← hdev]
            simp [hs]

/-- A walk finds what stands before the first failure, with the hold of each record on the
device that it was read off. -/
theorem walk_sources (h : m.Identified) (filter : Filter) :
    ((m.walk filter).1.found.map Found.source, (m.walk filter).1.error?) =
      walked (Platform.sourceItems m.platform filter) := by
  rw [Manager.walk, native_devices]
  cases hl : m.platform.failures.listing with
  | some e => simp [Platform.sourceItems, Platform.devices, Bench.devices, hl, walked]
  | none =>
      have htake := Within.takeDevices m m.platform.attached
      have hread : Platform.readings (takeDevices m.platform.attached m).platform =
          Platform.readings m.platform := readings_foldl_retain _ _
      have hscan := (h.within htake).scanDevices_sources filter 0 m.platform.attached
        fun i hi => by rwa [htake.attached_eq]
      rw [hread] at hscan
      simpa [Platform.sourceItems, Platform.devices, Bench.devices, hl] using hscan

end Manager.Identified

/-! ### Rescans -/

/-- What a rescan resolves to: the first record in the place, with its device. -/
def Platform.resolved {σ δ η : Type} [Platform σ δ η] (p : σ) (info : RawInterface) :
    Except UsbError (RawInterface × δ) :=
  match walked (Platform.sourceItems p (idsOf info)) with
  | (_, some e) => .error e
  | (sources, none) =>
    match sources.find? (·.1.samePlace info) with
    | none => .error (.notFound info.vendorId info.productId info.port info.interface)
    | some source => .ok source

lemma Manager.Identified.resolve_sources {m : Manager Bench Instance DeviceKey}
    (h : m.Identified) (info : RawInterface) :
    (m.resolve info).1.map Found.source = Platform.resolved m.platform info := by
  have hwalk := h.walk_sources (idsOf info)
  rw [Manager.resolve, Platform.resolved, ← hwalk]
  rcases m.walk (idsOf info) with ⟨⟨found, _ | e⟩, m₁⟩
  · have hfirst : (found.map Found.source).find? (·.1.samePlace info) =
        (select info found m₁).1.map Found.source := by
      rw [select_fst, List.find?_map]
      rfl
    simp only [complete, hfirst]
    rcases select info found m₁ with ⟨_ | f, m₂⟩ <;> rfl
  · rfl

/-- The first record of a complete scan in its place is what a rescan for it resolves to: the
ids of the record admit nothing that the scan did not, so the rescan is complete as well, and
finds the records of the scan that the ids admit. -/
theorem resolved_of_first {σ δ η : Type} [Platform σ δ η] {p : σ} {f : Filter}
    {sources : List (RawInterface × δ)} {t : RawInterface × δ}
    (hscan : walked (Platform.sourceItems p f) = (sources, none))
    (hfirst : sources.find? (·.1.samePlace t.1) = some t) (hkeeps : f.keeps t.1 = true) :
    Platform.resolved p t.1 = .ok t := by
  have hnarrow := (sourceItems_narrowed (Filter.idsOf_within hkeeps) p).walked
  rw [hscan] at hnarrow
  have hself : (idsOf t.1).keeps t.1 = true := Filter.idsOf_keeps_self t.1
  obtain ⟨hplace, before, after, rfl, hbefore⟩ := List.find?_eq_some_iff_append.mp hfirst
  have hfilter : ((before ++ t :: after).filter fun s => (idsOf t.1).keeps s.1).find?
      (·.1.samePlace t.1) = some t := by
    rw [List.filter_append,
      List.filter_cons_of_pos (p := fun s : RawInterface × δ => (idsOf t.1).keeps s.1) hself]
    refine List.find?_eq_some_iff_append.mpr ⟨hplace, _, _, rfl, fun s hs => ?_⟩
    exact hbefore s (List.mem_filter.mp hs).1
  rw [Platform.resolved, hnarrow]
  simp only [hfilter]

end UsbPipe
