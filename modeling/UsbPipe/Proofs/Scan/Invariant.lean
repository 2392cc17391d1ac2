/-
What a scan keeps.

Everything a scan does to a manager, it does in two kinds of small steps: it notes an
event, and it makes a record of one matched alternate setting.  A property of the
records found so far and of the manager that both steps keep is kept by the whole
walk over settings, configurations and devices.

* `Candidate.Shows`: a setting is in a configuration of a device.
* `ScanInvariant C P`: `P` is kept by both steps, for candidates that satisfy `C`.
* `ScanInvariant.settings`, `ScanInvariant.configs`, `ScanInvariant.device`,
  `ScanInvariant.devices`: it is kept by each level of the walk.
-/
import Mathlib.Tactic.Common
import UsbPipe.Manager.Scan

namespace UsbPipe

open Usb Manager

variable {σ δ η : Type} [Platform σ δ η]

/-- An alternate setting is in a configuration of the device, as the native layer has it in some
state. -/
def Candidate.Shows (σ : Type) {δ η : outParam Type} [Platform σ δ η] (c : Candidate δ)
    (alt : AltSetting) : Prop :=
  ∃ (p : σ) (config : ℕ) (desc : ConfigDescriptor),
    Platform.configDescriptor p c.device config = .ok desc ∧ alt ∈ desc.altSettings

/-- A property of the records found so far and of the manager that the steps of a scan
keep, as long as the devices it walks satisfy `C`.  A setting that is matched is one that the
device shows. -/
structure ScanInvariant (C : Candidate δ → Prop) (P : List (Found δ) → Manager σ δ η → Prop) :
    Prop where
  log : ∀ fs m level text, P fs m → P fs (m.log level text)
  record : ∀ fs m c alt info, C c → c.Shows σ alt → c.rawInterface? alt = some info → P fs m →
    P (fs ++ [(m.recordMatch c info).1]) (m.recordMatch c info).2

namespace ScanInvariant

variable {C : Candidate δ → Prop} {P : List (Found δ) → Manager σ δ η → Prop}
variable {F : List (Found δ)} {m : Manager σ δ η} {c : Candidate δ}

lemma settings (h : ScanInvariant C P) (hc : C c) {alts : List AltSetting}
    (hshows : ∀ alt ∈ alts, c.Shows σ alt) (hP : P F m) :
    P (F ++ (scanSettings c alts m).1) (scanSettings c alts m).2 := by
  induction alts generalizing F m with
  | nil => simpa [scanSettings] using hP
  | cons alt alts ih =>
      rw [scanSettings]
      have hrest : ∀ alt ∈ alts, c.Shows σ alt := fun a ha => hshows a (List.mem_cons_of_mem _ ha)
      cases hinfo : c.rawInterface? alt with
      | none => exact ih hrest hP
      | some info =>
          have hrec := ih hrest
            (h.record F m c alt info hc (hshows alt (List.mem_cons_self ..)) hinfo hP)
          simpa [List.append_assoc] using hrec

lemma configs (h : ScanInvariant C P) (hc : C c) (index : ℕ) (configs : List ℕ) (hP : P F m) :
    P (F ++ (scanConfigs c index configs m).1.found) (scanConfigs c index configs m).2 := by
  induction configs generalizing F m with
  | nil => simpa [scanConfigs] using hP
  | cons config configs ih =>
      rw [scanConfigs]
      cases hread : Platform.configDescriptor m.platform c.device config with
      | error e => simpa using hP
      | ok descriptor =>
          have hrest := ih (h.settings hc
            (fun alt halt => ⟨m.platform, config, descriptor, hread, halt⟩) hP)
          simpa [List.append_assoc] using hrest

lemma device (h : ScanInvariant C P) (filter : Filter) (index : ℕ) (i : δ)
    (desc : DeviceDescriptor)
    (hc : C ⟨i, desc, Platform.key m.platform i, Platform.port m.platform i,
      Platform.speed m.platform i⟩) (hP : P F m) :
    P (F ++ (scanDevice filter index i desc m).1.found)
      (scanDevice filter index i desc m).2 := by
  rw [scanDevice]
  split_ifs
  · simpa using hP
  · simpa using h.log F m _ _ hP
  · exact h.configs hc index _ hP

lemma devices (h : ScanInvariant C P) (filter : Filter) (is : List δ)
    (hC : ∀ i ∈ is, ∀ (m : Manager σ δ η) desc,
      Platform.deviceDescriptor m.platform i = .ok desc →
      C ⟨i, desc, Platform.key m.platform i, Platform.port m.platform i,
        Platform.speed m.platform i⟩) (index : ℕ) (hP : P F m) :
    P (F ++ (scanDevices filter index is m).1.found) (scanDevices filter index is m).2 := by
  induction is generalizing F m index with
  | nil => simpa [scanDevices] using hP
  | cons i is ih =>
      cases hdesc : Platform.deviceDescriptor m.platform i with
      | error e => simpa [scanDevices, hdesc] using hP
      | ok desc =>
          have hdev := h.device filter index i desc (hC i (List.mem_cons_self ..) m desc hdesc) hP
          rcases hscan : scanDevice filter index i desc m with ⟨⟨found, e?⟩, m₁⟩
          rw [hscan] at hdev
          cases e? with
          | some e => simpa [scanDevices, hdesc, hscan] using hdev
          | none =>
              have hrest := ih (fun j hj => hC j (List.mem_cons_of_mem _ hj)) (index + 1) hdev
              simpa [scanDevices, hdesc, hscan, List.append_assoc] using hrest

end ScanInvariant

end UsbPipe
