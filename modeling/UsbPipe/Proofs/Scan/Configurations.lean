/-
The configurations of a simulated device that a scan reads.

A device counts its configurations in a byte.  Each configuration that is added to a simulated
device sets that byte to the number there are now, and where the byte cannot hold it, to what is
left beyond the last multiple of 256.  A scan reads as many configurations as the byte says,
from the first one on, so it reads all of them just if there are less than 256.

* `DeviceSpec.withConfigs`: configurations added one after the other.
* `DeviceSpec.Counted`: a device whose byte is the number of its configurations, as far as a
  byte can be; `counted_withConfigs`.
* `DeviceSpec.scanned`: the configurations that the byte covers; `scanned_eq_configs_iff`.
* `Instance.recordsIn`: the records of the settings of a configuration.
* `deviceWalk_counted`: what a device adds to a scan.
* `scan_configured`: what a scan finds, before, on and behind the device.
* `scan_count_wraps`: a device with 256 configurations is scanned as one with none.
-/
import UsbPipe.Proofs.Manager.Instances
import UsbPipe.Proofs.Manager.Target

namespace UsbPipe

open Usb Manager

/-! ### Configurations and their count -/

namespace DeviceSpec

variable {s : DeviceSpec}

/-- Configurations added one after the other. -/
def withConfigs (s : DeviceSpec) (cs : List ConfigDescriptor) : DeviceSpec :=
  cs.foldl withConfig s

/-- The byte that counts the configurations is their number, or what a byte holds of it. -/
def Counted (s : DeviceSpec) : Prop :=
  s.descriptor.numConfigurations = s.configs.length.toUInt8

/-- The configurations that the byte covers. -/
def scanned (s : DeviceSpec) : List ConfigDescriptor :=
  s.configs.take s.descriptor.numConfigurations.toNat

lemma counted_bare (key : DeviceKey) (port : UInt8) (vendorId productId : UInt16) :
    (bare key port vendorId productId).Counted := rfl

lemma counted_withConfig (s : DeviceSpec) (c : ConfigDescriptor) : (s.withConfig c).Counted := rfl

lemma counted_withConfigs (h : s.Counted) (cs : List ConfigDescriptor) :
    (s.withConfigs cs).Counted := by
  induction cs generalizing s with
  | nil => exact h
  | cons c cs ih => exact ih (counted_withConfig s c)

lemma configs_withConfigs (s : DeviceSpec) (cs : List ConfigDescriptor) :
    (s.withConfigs cs).configs = s.configs ++ cs := by
  induction cs generalizing s with
  | nil => exact (List.append_nil _).symm
  | cons c cs ih =>
      calc ((s.withConfig c).withConfigs cs).configs
          = (s.withConfig c).configs ++ cs := ih (s.withConfig c)
        _ = s.configs ++ c :: cs := List.append_assoc s.configs [c] cs

/-- Adding configurations changes nothing else that a scan looks at. -/
lemma descriptor_withConfigs (s : DeviceSpec) (cs : List ConfigDescriptor) :
    ∃ count, (s.withConfigs cs).descriptor = { s.descriptor with numConfigurations := count } := by
  induction cs generalizing s with
  | nil => exact ⟨_, rfl⟩
  | cons c cs ih => exact ih (s.withConfig c)

lemma scanned_of_counted (h : s.Counted) :
    s.scanned = s.configs.take (s.configs.length % 256) := by
  rw [scanned, h, Nat.toUInt8, UInt8.toNat_ofNat']

/-- All configurations are covered just if their number fits into a byte. -/
lemma scanned_eq_configs_iff (h : s.Counted) : s.scanned = s.configs ↔ s.configs.length < 256 := by
  rw [scanned_of_counted h, List.take_eq_self_iff]
  have hle := Nat.mod_le s.configs.length 256
  constructor
  · intro hall
    have hlt := Nat.mod_lt s.configs.length (show 0 < 256 by omega)
    omega
  · intro hlt
    exact Nat.le_of_eq (Nat.mod_eq_of_lt hlt).symm

end DeviceSpec

/-! ### The walk of a device -/

/-- The records of the settings of a configuration that match, in order. -/
def Instance.recordsIn (i : Instance) (c : ConfigDescriptor) : List RawInterface :=
  c.altSettings.filterMap (candidateOf i).rawInterface?

section Walk

variable {b : Bench} {i : Instance} {filter : Filter}

/-- The bench reads the configurations that are there. -/
lemma configDescriptor_of_lt (hread : b.failures.config.lookup i.spec.key = none) {index : ℕ}
    (hindex : index < i.spec.configs.length) :
    (Platform.readings b).configDescriptor i index = .ok i.spec.configs[index] := by
  have hlook : b.configDescriptor i index = .ok i.spec.configs[index] := by
    rw [Bench.configDescriptor, hread, List.getElem?_eq_getElem hindex]
  exact hlook

/-- The configurations at the first indices are the first ones. -/
lemma configWalk_range (hread : b.failures.config.lookup i.spec.key = none) (device : ℕ) {n : ℕ}
    (hn : n ≤ i.spec.configs.length) :
    (List.range n).flatMap ((Platform.readings b).configWalk device i i.spec.descriptor) =
      ((i.spec.configs.take n).flatMap i.recordsIn).map .ok := by
  induction n with
  | zero => rfl
  | succ n ih =>
      have hwalk := configWalk_ok (configDescriptor_of_lt hread hn) device i.spec.descriptor
      rw [List.range_succ, List.flatMap_append, ih (Nat.le_of_succ_le hn), List.flatMap_singleton,
        hwalk, List.take_succ_eq_append_getElem hn, List.flatMap_append, List.flatMap_singleton,
        List.map_append]
      rfl

/-- A device that is let through adds the records of the configurations that its byte covers, in
the order in which they were added. -/
lemma deviceWalk_counted (hcounted : i.spec.Counted)
    (hadmits : filter.admits i.spec.descriptor.vendorId i.spec.descriptor.productId = true)
    (hclass : i.spec.descriptor.cls ≠ .hid)
    (hdesc : b.failures.descriptor.lookup i.spec.key = none)
    (hread : b.failures.config.lookup i.spec.key = none) (device : ℕ) :
    (Platform.readings b).deviceWalk filter device i =
      (i.spec.scanned.flatMap i.recordsIn).map .ok := by
  have hlook : (Platform.readings b).deviceDescriptor i = .ok i.spec.descriptor := by
    show b.deviceDescriptor i = _
    rw [Bench.deviceDescriptor, hdesc]
  have hcount : i.spec.descriptor.numConfigurations.toNat ≤ i.spec.configs.length := by
    rw [hcounted, Nat.toUInt8, UInt8.toNat_ofNat']
    exact Nat.mod_le _ _
  rw [Readings.deviceWalk, hlook]
  simp only [hadmits, hclass, Bool.true_eq_false, or_false, if_false]
  exact configWalk_range hread device hcount

end Walk

/-! ### Scans -/

namespace Manager

variable {m : Manager Bench Instance DeviceKey} {filter : Filter}

/-- A scan that is let in finds what stands before the first failure of its walk. -/
lemma scan_of_ready (h : m.ready.1 = .ok ()) :
    (m.scan filter).1.outcome = walked (Platform.scanItems m.platform filter) := by
  have hitems := scanItems_ready (m := m) filter
  rw [scan]
  rcases hr : m.ready with ⟨e | ⟨⟩, m₁⟩ <;> rw [hr] at h hitems
  · cases h
  · exact (walk_eq_walked m₁ filter).trans (congrArg walked hitems)

/-- The items of a scan: those of the devices in front of one, its own, and those behind it. -/
lemma scanItems_split (hlist : m.platform.failures.listing = none) {before after : List Instance}
    {i : Instance} (hattached : m.platform.attached = before ++ i :: after) :
    Platform.scanItems m.platform filter =
      (Platform.readings m.platform).busWalk filter 0 before ++
        ((Platform.readings m.platform).deviceWalk filter before.length i ++
          (Platform.readings m.platform).busWalk filter (before.length + 1) after) := by
  have hdevices : (Platform.devices m.platform).1 = .ok m.platform.attached := by
    show (Bench.devices m.platform).1 = _
    rw [Bench.devices, hlist]
  rw [Platform.scanItems, hdevices]
  simp only [hattached, Readings.busWalk, List.zipIdx_append, List.zipIdx_cons,
    List.flatMap_append, List.flatMap_cons, Nat.zero_add]

/-- A device was given configurations one after the other, and is neither kept out by the filter
nor by its class, nor can its reads fail.  A scan that gets as far finds, behind the records of
the devices in front of it, those of the configurations that the device's byte covers, in the
order in which they were given, and then goes on behind it.  The byte covers the first of them,
as many as there are beyond the last multiple of 256: all of them just if they are less. -/
theorem scan_configured (hready : m.ready.1 = .ok ())
    (hlist : m.platform.failures.listing = none) {before after : List Instance} {i : Instance}
    (hattached : m.platform.attached = before ++ i :: after) {s : DeviceSpec} (hs : s.Counted)
    {cs : List ConfigDescriptor} (hspec : i.spec = s.withConfigs cs)
    (hadmits : filter.admits s.descriptor.vendorId s.descriptor.productId = true)
    (hclass : s.descriptor.cls ≠ .hid)
    (hdesc : m.platform.failures.descriptor.lookup i.spec.key = none)
    (hread : m.platform.failures.config.lookup i.spec.key = none) {infos : List RawInterface}
    (hbefore : walked ((Platform.readings m.platform).busWalk filter 0 before) = (infos, none)) :
    let configs := s.configs ++ cs
    let behind := walked ((Platform.readings m.platform).busWalk filter (before.length + 1) after)
    (m.scan filter).1.outcome =
        (infos ++ (i.spec.scanned.flatMap i.recordsIn ++ behind.1), behind.2) ∧
      i.spec.scanned = configs.take (configs.length % 256) ∧
      (i.spec.scanned = configs ↔ configs.length < 256) := by
  intro configs behind
  have hcounted : i.spec.Counted := hspec ▸ DeviceSpec.counted_withConfigs hs cs
  have hconfigs : i.spec.configs = configs := hspec ▸ DeviceSpec.configs_withConfigs s cs
  obtain ⟨count, hdescriptor⟩ := DeviceSpec.descriptor_withConfigs s cs
  rw [← hspec] at hdescriptor
  have hdevice : (Platform.readings m.platform).deviceWalk filter before.length i =
      (i.spec.scanned.flatMap i.recordsIn).map .ok :=
    deviceWalk_counted hcounted (hdescriptor ▸ hadmits) (hdescriptor ▸ hclass) hdesc hread _
  refine ⟨?_, ?_, ?_⟩
  · rw [scan_of_ready hready, scanItems_split hlist hattached, walked_append, hbefore, hdevice]
    simp only [walked_append, walked_map_ok]
    rfl
  · rw [DeviceSpec.scanned_of_counted hcounted, hconfigs]
  · rw [← hconfigs]
    exact DeviceSpec.scanned_eq_configs_iff hcounted

/-- A device with three configurations, of which the second has nothing that matches, between two
others: four records, those of the first and the third configuration in this order. -/
theorem scan_configured_three :
    let pipes (number : UInt8) : ConfigDescriptor :=
      { ConfigDescriptor.numbered number with
        interfaces := [.raw number [(0x81, 0x02), (0x01, 0x02)]] }
    let bare := DeviceSpec.bare ⟨1, 5⟩ 3 0x1209 0x0002
    let m : Manager Bench Instance DeviceKey :=
      { platform := ((({} : Bench).attach (.raw ⟨1, 4⟩ 2 0x1209 0x0001)).attach
          (bare.withConfigs [pipes 1, .numbered 2, pipes 3])).attach
            (.raw ⟨1, 6⟩ 4 0x1209 0x0003) }
    (m.scan {}).1.outcome.1.map (fun i => (i.address, i.interface)) =
        [(4, 0), (5, 1), (5, 3), (6, 0)] ∧ (m.scan {}).1.outcome.2 = none := by
  intro pipes bare m
  obtain ⟨hout, -, hall⟩ := @scan_configured m {} rfl rfl [⟨1, .raw ⟨1, 4⟩ 2 0x1209 0x0001⟩]
    [⟨3, .raw ⟨1, 6⟩ 4 0x1209 0x0003⟩] ⟨2, _⟩ rfl bare rfl [pipes 1, .numbered 2, pipes 3] rfl
    rfl (by decide) rfl rfl _ rfl
  rw [hout, hall.mpr (by decide)]
  decide

/-- A device with 256 configurations, of which the first one has an interface that matches: a
scan takes it for a device without any, and finds nothing. -/
theorem scan_count_wraps :
    let spec := (DeviceSpec.raw ⟨1, 4⟩ 2 0x1209 0x0001).withConfigs
      (List.replicate 255 (.numbered 2))
    let i : Instance := ⟨1, spec⟩
    let m : Manager Bench Instance DeviceKey := { platform := ({} : Bench).attach spec }
    (m.scan {}).1.outcome = ([], none) ∧ (spec.configs.flatMap i.recordsIn).length = 1 := by
  decide +kernel

end Manager

end UsbPipe
