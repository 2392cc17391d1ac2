/-
Two scans of the same devices, one with a narrower filter.

The descriptor of every device is read by both, so a descriptor that cannot be read ends both.
The configurations of a device that the narrower filter keeps out are read by the wider scan
alone: it may end there, at a device that the narrower one passes over.  So the narrower scan
gets at least as far, and finds what the wider one found of the devices that it admits.

* `UsbError.device?`: the index of the device whose read ended a scan.
* `failure_of_deviceWalk`, `failure_of_busWalk`: a walk fails at the devices it walks.
* `busWalk_within_device`: how far two walks of the same devices get.
* `scan_within`: two scans of a manager compared.
-/
import UsbPipe.Proofs.Scan.Narrowing

namespace UsbPipe

open Usb

/-! ### Where a scan fails -/

/-- The index of the device that was being read. -/
def ScanStage.device? : ScanStage → Option ℕ
  | listing => none
  | descriptor device | config device _ => some device

/-- The index of the device whose read ended a scan. -/
def UsbError.device? : UsbError → Option ℕ
  | discovery stage _ => stage.device?
  | _ => none

section Walks

variable {δ : Type} {r : Readings δ} {f g : Filter} {e : UsbError}

/-- A configuration fails at its device. -/
lemma failure_of_configWalk {index : ℕ} {device : δ} {desc : DeviceDescriptor} {config : ℕ}
    (h : .error e ∈ r.configWalk index device desc config) : e.device? = some index := by
  cases hread : r.configDescriptor device config with
  | error e' =>
      rw [Readings.configWalk, hread] at h
      cases List.mem_singleton.mp h
      rfl
  | ok c =>
      rw [configWalk_ok hread] at h
      simp at h

/-- A device fails where it stands in the list. -/
lemma failure_of_deviceWalk {index : ℕ} {device : δ}
    (h : .error e ∈ r.deviceWalk f index device) : e.device? = some index := by
  rw [Readings.deviceWalk] at h
  cases hread : r.deviceDescriptor device with
  | error e' =>
      rw [hread] at h
      cases List.mem_singleton.mp h
      rfl
  | ok desc =>
      simp only [hread] at h
      split_ifs at h
      · cases h
      · obtain ⟨config, -, hconfig⟩ := List.mem_flatMap.mp h
        exact failure_of_configWalk hconfig

/-- A list of devices fails at one of them. -/
lemma failure_of_busWalk {index : ℕ} {devices : List δ}
    (h : .error e ∈ r.busWalk f index devices) : ∃ j, e.device? = some j ∧ index ≤ j := by
  obtain ⟨⟨device, j⟩, hmem, hdevice⟩ := List.mem_flatMap.mp h
  exact ⟨j, failure_of_deviceWalk hdevice, List.le_snd_of_mem_zipIdx hmem⟩

/-! ### How far two walks get -/

/-- Where the walk with the narrower filter fails, or before, that with the wider one does:
each device that the wider walk gets past the narrower one gets past as well. -/
lemma busWalk_within_device (h : f.Within g) (index : ℕ) (devices : List δ) {i : ℕ}
    (hi : (walked (r.busWalk f index devices)).2.bind UsbError.device? = some i) :
    ∃ j ≤ i, (walked (r.busWalk g index devices)).2.bind UsbError.device? = some j := by
  induction devices generalizing index with
  | nil => cases hi
  | cons device devices ih =>
      obtain ⟨e, hfails, hdevice⟩ := Option.bind_eq_some_iff.mp hi
      obtain ⟨k, hk, hindex⟩ := failure_of_busWalk (mem_of_walked_error hfails)
      have hle : index ≤ i := Option.some.inj (hk.symm.trans hdevice) ▸ hindex
      have hnarrow := (deviceWalk_narrowed (r := r) h index device).walked
      simp only [Readings.busWalk, List.zipIdx_cons, List.flatMap_cons, walked_append] at hi ⊢
      rcases hg : walked (r.deviceWalk g index device) with ⟨found, _ | e'⟩ <;>
        rw [hg] at hnarrow
      · simp only [hnarrow] at hi
        exact ih (index + 1) hi
      · have hfails' : (walked (r.deviceWalk g index device)).2 = some e' := by rw [hg]
        exact ⟨index, hle, failure_of_deviceWalk (mem_of_walked_error hfails')⟩

end Walks

/-! ### Two scans -/

namespace Manager

section Steady

variable {σ δ η : Type} [Platform σ δ η] {f g : Filter}

lemma scanItems_within_device (h : f.Within g) (p : σ) {i : ℕ}
    (hi : (walked (Platform.scanItems p f)).2.bind UsbError.device? = some i) :
    ∃ j ≤ i, (walked (Platform.scanItems p g)).2.bind UsbError.device? = some j := by
  rw [Platform.scanItems] at hi ⊢
  cases hlist : (Platform.devices p).1 with
  | error e =>
      rw [hlist] at hi
      cases hi
  | ok devices =>
      rw [hlist] at hi
      exact busWalk_within_device h 0 devices hi

/-- A scan with a narrower filter finds first what the wider scan of the same devices found
and it admits.  If the wider scan is complete, so is the narrower one, and that is all it
finds; and where the narrower one fails at a device, the wider one fails there or before. -/
theorem scan_within [SteadyReadings σ] (h : f.Within g) (m : Manager σ δ η) :
    let wide := (m.scan g).1.outcome
    let narrow := (m.scan f).1.outcome
    wide.1.filter f.keeps <+: narrow.1 ∧
      (wide.2 = none → narrow = (wide.1.filter f.keeps, none)) ∧
      ∀ i, narrow.2.bind UsbError.device? = some i →
        ∃ j ≤ i, wide.2.bind UsbError.device? = some j := by
  intro wide narrow
  simp only [wide, narrow, scan]
  rcases m.ready with ⟨e | ⟨⟩, m₁⟩
  · exact ⟨List.nil_prefix, fun hdone => (by cases hdone), fun i hi => ⟨i, i.le_refl, hi⟩⟩
  · have hnarrow := scanItems_narrowed h m₁.platform
    simp only [walk_eq_walked]
    refine ⟨hnarrow.walked_front, fun hdone => ?_, fun i hi => scanItems_within_device h _ hi⟩
    have hwalked := hnarrow.walked
    rcases hw : walked (Platform.scanItems m₁.platform g) with ⟨infos, _ | e⟩ <;>
      rw [hw] at hwalked hdone
    · exact hwalked
    · cases hdone

end Steady

/-- The wider scan ends at a configuration of the second of three devices, which the narrower
one passes over: it finds the record of the first device, and then that of the third. -/
theorem scan_within_past_failure :
    let b : Bench := { ({} : Bench) with failures := { config := [(⟨1, 5⟩, .io)] } }
    let m : Manager Bench Instance DeviceKey :=
      { platform := ((b.attach (.raw ⟨1, 4⟩ 2 0x1209 0x0001)).attach
          (.raw ⟨1, 5⟩ 3 0x120a 0x0002)).attach (.raw ⟨1, 6⟩ 4 0x1209 0x0003) }
    let f : Filter := .vendor 0x1209
    (m.scan {}).1.outcome.1.filter f.keeps <+: (m.scan f).1.outcome.1 ∧
      (m.scan {}).1.outcome.2 = some (.discovery (.config 1 0) .io) ∧
      (m.scan f).1.outcome.2 = none ∧
      (m.scan {}).1.outcome.1.map (·.address) = [4] ∧
      (m.scan f).1.outcome.1.map (·.address) = [4, 6] := by
  intro b m f
  have hwithin : f.Within {} := fun _ _ _ => rfl
  exact ⟨(scan_within hwithin m).1, by decide, by decide, by decide, by decide⟩

end Manager

end UsbPipe
