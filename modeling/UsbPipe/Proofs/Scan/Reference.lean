/-
What a scan finds, read off the devices.

The devices are walked in order, and of each the configurations, interfaces and
alternate settings.  Every read that fails and every alternate setting that matches is
one item of the walk; a scan finds what stands before the first failure.  A scan takes
references as it goes, but it reads nothing that these change.

* `Readings`: what a native layer tells about its devices; `Platform.readings`.
* `Text.digits`: a number in digits, as it stands in the path of a record.
* `Readings.busWalk` and the walks of its parts: the items, failures and matches in order.
* `walked`: the matches before the first failure, and that failure.
* `SteadyReadings`: a native layer whose references do not change what it tells.
* `walk_eq_walked`: the walk of a manager is that of the readings of its native layer.
* `scan_eq_walked`: so is a scan on the bench, which takes one hold for each record.
-/
import UsbPipe.Proofs.Manager.Stock

namespace UsbPipe

open Usb Manager

/-! ### Items -/

section Items

variable {ε α : Type}

/-- The results before the first failure, and that failure. -/
def walked : List (Except ε α) → List α × Option ε
  | [] => ([], none)
  | .error e :: _ => ([], some e)
  | .ok a :: items => (a :: (walked items).1, (walked items).2)

/-- What is walked is the front of the items, up to the first failure if there is one. -/
theorem walked_spec (items : List (Except ε α)) :
    match walked items with
    | (as, none) => items = as.map .ok
    | (as, some e) => ∃ rest, items = as.map .ok ++ .error e :: rest := by
  induction items with
  | nil => rfl
  | cons item items ih =>
      cases item with
      | error e => exact ⟨items, rfl⟩
      | ok a =>
          rw [walked]
          rcases hw : walked items with ⟨as, _ | e⟩ <;> rw [hw] at ih
          · exact congrArg (Except.ok a :: ·) ih
          · obtain ⟨rest, hrest⟩ := ih
            exact ⟨rest, congrArg (Except.ok a :: ·) hrest⟩

/-- The failure that ends a walk is one of its items. -/
lemma mem_of_walked_error {items : List (Except ε α)} {e : ε} (h : (walked items).2 = some e) :
    .error e ∈ items := by
  induction items with
  | nil => cases h
  | cons item items ih =>
      cases item with
      | error e' =>
          cases h
          exact List.mem_cons_self ..
      | ok a => exact List.mem_cons_of_mem _ (ih h)

lemma walked_append (items items' : List (Except ε α)) :
    walked (items ++ items') = match walked items with
      | (as, some e) => (as, some e)
      | (as, none) => (as ++ (walked items').1, (walked items').2) := by
  induction items with
  | nil => rfl
  | cons item items ih =>
      cases item with
      | error e => rfl
      | ok a =>
          rw [List.cons_append, walked, ih, walked]
          rcases walked items with ⟨as, _ | e⟩ <;> rfl

lemma walked_map_ok (as : List α) : walked (as.map (.ok : α → Except ε α)) = (as, none) := by
  induction as with
  | nil => rfl
  | cons a as ih => rw [List.map_cons, walked, ih]

end Items

/-! ### Numbers in digits -/

namespace Text

/-- A number in digits to a base, with zeros in front up to a width. -/
def digits (base width n : ℕ) : String :=
  String.ofList ((Nat.toDigits base n).leftpad width '0')

/-- The last digit stands on its own. -/
lemma leftpad_toDigits {base : ℕ} (hbase : 1 < base) (width n : ℕ) :
    (Nat.toDigits base n).leftpad (width + 2) '0' =
      (Nat.toDigits base (n / base)).leftpad (width + 1) '0' ++ [(n % base).digitChar] := by
  rw [Nat.toDigits_eq_if hbase]
  split_ifs with hlt
  · simp [List.leftpad, Nat.div_eq_of_lt hlt, Nat.mod_eq_of_lt hlt, List.replicate_succ']
  · simp [List.leftpad]

lemma hexDigit_eq_digitChar {m n : ℕ} (hn : n < 16) (h : m = n) : hexDigit m = n.digitChar := by
  have hall : ∀ n : Fin 16, hexDigit n = Nat.digitChar n := by decide
  rw [h]
  exact hall ⟨n, hn⟩

/-- A word has four digits to the base sixteen. -/
lemma hex4_eq_digits (w : UInt16) : hex4 w = digits 16 4 w.toNat := by
  have hw : w.toNat < 65536 := w.toNat_lt
  have hhigh : (w.toNat / 256).toUInt8.toNat = w.toNat / 256 := by
    rw [UInt8.toNat_ofNat']
    omega
  have hlow : (w.toNat % 256).toUInt8.toNat = w.toNat % 256 := by
    rw [UInt8.toNat_ofNat']
    omega
  have hfirst : Nat.toDigits 16 (w.toNat / 16 / 16 / 16) = [(w.toNat / 16 / 16 / 16).digitChar] :=
    Nat.toDigits_of_lt_base (by omega)
  rw [digits, leftpad_toDigits (by decide), leftpad_toDigits (by decide),
    leftpad_toDigits (by decide), hfirst, hex4, byteDigits, byteDigits, hhigh, hlow,
    hexDigit_eq_digitChar (n := w.toNat / 16 / 16 / 16) (by omega) (by omega),
    hexDigit_eq_digitChar (n := w.toNat / 16 / 16 % 16) (by omega) (by omega),
    hexDigit_eq_digitChar (n := w.toNat / 16 % 16) (by omega) (by omega),
    hexDigit_eq_digitChar (n := w.toNat % 16) (by omega) (by omega)]
  rfl

lemma padded_eq_digits (width n : ℕ) : padded width n = digits 10 width n := by
  simp [padded, digits, List.leftpad, Nat.toString_eq_repr, Nat.repr_eq_ofList_toDigits,
    String.ofList_append]

end Text

/-! ### The reference walk -/

/-- What a native layer tells about its devices. -/
structure Readings (δ : Type) where
  key : δ → DeviceKey
  port : δ → UInt8
  speed : δ → Speed
  deviceDescriptor : δ → Except NativeError DeviceDescriptor
  configDescriptor : δ → ℕ → Except NativeError ConfigDescriptor

/-- What the native layer tells in a state. -/
def Platform.readings {σ δ η : Type} [Platform σ δ η] (p : σ) : Readings δ where
  key := Platform.key p
  port := Platform.port p
  speed := Platform.speed p
  deviceDescriptor := Platform.deviceDescriptor p
  configDescriptor := Platform.configDescriptor p

namespace Readings

variable {δ : Type} (r : Readings δ)

/-- The record of an alternate setting of a device with a pair of pipes.  Its path is made of
four hexadecimal digits for each id and of two decimal ones, or three, for the port. -/
def recordOf (device : δ) (desc : DeviceDescriptor) (alt : AltSetting) (pair : PipePair) :
    RawInterface where
  path := Text.digits 16 4 desc.vendorId.toNat ++ ":" ++ Text.digits 16 4 desc.productId.toNat
    ++ ":" ++ Text.digits 10 2 (r.port device).toNat
  vendorId := desc.vendorId
  productId := desc.productId
  cls := desc.cls
  subClass := desc.subClass
  protocol := desc.protocol
  interface := alt.interfaceNumber
  alternateSetting := alt.alternateSetting
  interfaceClass := alt.cls
  interfaceSubClass := alt.subClass
  interfaceProtocol := alt.protocol
  reader := pair.reader
  writer := pair.writer
  busNumber := (r.key device).busNumber
  address := (r.key device).address
  port := r.port device
  speed := r.speed device

/-- An alternate setting: a record, unless its class or its endpoints rule it out. -/
def settingWalk (device : δ) (desc : DeviceDescriptor) (alt : AltSetting) :
    List (Except UsbError RawInterface) :=
  if alt.cls = .hid then []
  else
    match PipePair.select? alt.endpoints with
    | none => []
    | some pair => [.ok (r.recordOf device desc alt pair)]

/-- A configuration: a failure, or the settings of its interfaces. -/
def configWalk (index : ℕ) (device : δ) (desc : DeviceDescriptor) (config : ℕ) :
    List (Except UsbError RawInterface) :=
  match r.configDescriptor device config with
  | .error e => [.error (.discovery (.config index config) e)]
  | .ok c => c.interfaces.flatMap fun i => i.altSettings.flatMap (r.settingWalk device desc)

/-- A device: a failure, or its configurations if neither the filter nor its class rules
it out. -/
def deviceWalk (filter : Filter) (index : ℕ) (device : δ) : List (Except UsbError RawInterface) :=
  match r.deviceDescriptor device with
  | .error e => [.error (.discovery (.descriptor index) e)]
  | .ok desc =>
    if filter.admits desc.vendorId desc.productId = false ∨ desc.cls = .hid then []
    else (List.range desc.numConfigurations.toNat).flatMap (r.configWalk index device desc)

/-- The devices of a list, of which the first has the index `index`. -/
def busWalk (filter : Filter) (index : ℕ) (devices : List δ) :
    List (Except UsbError RawInterface) :=
  (devices.zipIdx index).flatMap fun (device, index) => r.deviceWalk filter index device

end Readings

/-- The items of a scan: the failure of the listing, or those of the listed devices. -/
def Platform.scanItems {σ δ η : Type} [Platform σ δ η] (p : σ) (filter : Filter) :
    List (Except UsbError RawInterface) :=
  match (Platform.devices p).1 with
  | .error e => [.error (.discovery .listing e)]
  | .ok devices => (Platform.readings p).busWalk filter 0 devices

/-! ### Scans follow the reference -/

/-- A native layer that tells the same about its devices whatever references are taken. -/
class SteadyReadings (σ : Type) {δ η : outParam Type} [Platform σ δ η] : Prop where
  retain : ∀ (d : δ) (p : σ), Platform.readings (Platform.retain d p) = Platform.readings p
  devices : ∀ p : σ, Platform.readings (Platform.devices p).2 = Platform.readings p

/-- The records and the failure of a scan. -/
def Scan.outcome {δ : Type} (s : Scan δ) : List RawInterface × Option UsbError :=
  (s.found.map Found.info, s.error?)

/-- A device as a scan knows it once its descriptor has been read. -/
def Readings.candidate {δ : Type} (r : Readings δ) (device : δ) (desc : DeviceDescriptor) :
    Candidate δ :=
  ⟨device, desc, r.key device, r.port device, r.speed device⟩

section Settings

variable {σ δ η : Type} [Platform σ δ η] {r : Readings δ}

lemma recordOf_eq (device : δ) (desc : DeviceDescriptor) (alt : AltSetting) (pair : PipePair) :
    r.recordOf device desc alt pair =
      .ofSetting desc (r.key device) (r.port device) (r.speed device) alt pair := by
  rw [Readings.recordOf, RawInterface.ofSetting, RawInterface.pathOf, Text.hex4_eq_digits,
    Text.hex4_eq_digits, Text.padded_eq_digits]

/-- The record of a candidate is that of the reference. -/
lemma settingWalk_eq (device : δ) (desc : DeviceDescriptor) (alt : AltSetting) :
    r.settingWalk device desc alt =
      (((r.candidate device desc).rawInterface? alt).map .ok).toList := by
  rw [Readings.settingWalk, Candidate.rawInterface?]
  split_ifs
  · rfl
  · cases PipePair.select? alt.endpoints with
    | none => rfl
    | some pair => exact congrArg (fun i => [Except.ok i]) (recordOf_eq device desc alt pair)

/-- A configuration that can be read: the records of its settings, none of which fails. -/
lemma configWalk_ok {device : δ} {config : ℕ} {c : ConfigDescriptor}
    (h : r.configDescriptor device config = .ok c) (index : ℕ) (desc : DeviceDescriptor) :
    r.configWalk index device desc config =
      (c.altSettings.filterMap (r.candidate device desc).rawInterface?).map .ok := by
  rw [Readings.configWalk, h]
  simp only
  rw [ConfigDescriptor.altSettings, ← List.flatMap_assoc]
  induction c.interfaces.flatMap Interface.altSettings with
  | nil => rfl
  | cons alt alts ih =>
      rw [List.flatMap_cons, settingWalk_eq, List.filterMap_cons, ih]
      cases (r.candidate device desc).rawInterface? alt <;> rfl

/-- The settings of a configuration are matched one after the other. -/
lemma scanSettings_infos (c : Candidate δ) (alts : List AltSetting) (m : Manager σ δ η) :
    (scanSettings c alts m).1.map Found.info = alts.filterMap c.rawInterface? := by
  induction alts generalizing m with
  | nil => rfl
  | cons alt alts ih =>
      rw [scanSettings, List.filterMap_cons]
      cases c.rawInterface? alt with
      | none => exact ih m
      | some info => exact congrArg (info :: ·) (ih _)

end Settings

section Follow

variable {σ δ η : Type} [Platform σ δ η] [SteadyReadings σ]
variable {m : Manager σ δ η} {r : Readings δ}

/-- A scan changes nothing that it reads. -/
lemma readings_invariant (r : Readings δ) :
    ScanInvariant (σ := σ) (fun _ => True) fun _ m => Platform.readings m.platform = r where
  log := fun _ _ _ _ h => h
  record := by
    intro fs m c alt info _ _ _ h
    rw [recordMatch, retain_platform]
    split_ifs
    · exact h
    · exact (SteadyReadings.retain _ _).trans h

lemma scanConfigs_outcome (hr : Platform.readings m.platform = r) (index : ℕ) (device : δ)
    (desc : DeviceDescriptor) (configs : List ℕ) :
    (scanConfigs (r.candidate device desc) index configs m).1.outcome =
      walked (configs.flatMap (r.configWalk index device desc)) := by
  set c := r.candidate device desc with hc
  induction configs generalizing m with
  | nil => rfl
  | cons config configs ih =>
      have hread : Platform.configDescriptor m.platform c.device config =
          r.configDescriptor device config := by rw [← hr]; rfl
      rw [scanConfigs, hread, List.flatMap_cons, walked_append]
      cases hd : r.configDescriptor device config with
      | error e => simp [Readings.configWalk, hd, walked, Scan.outcome]
      | ok descriptor =>
          have hinfos := scanSettings_infos c descriptor.altSettings m
          have hrest := ih ((readings_invariant r).settings (c := c) trivial
            (fun _ halt => ⟨m.platform, config, descriptor, hread.trans hd, halt⟩) (F := []) hr)
          rw [configWalk_ok hd, walked_map_ok, ← hc, ← hinfos, ← hrest]
          simp [Scan.outcome]

lemma scanDevice_outcome (hr : Platform.readings m.platform = r) (filter : Filter) (index : ℕ)
    {device : δ} {desc : DeviceDescriptor} (hdesc : r.deviceDescriptor device = .ok desc) :
    (scanDevice filter index device desc m).1.outcome =
      walked (r.deviceWalk filter index device) := by
  have hconf := scanConfigs_outcome hr index device desc
    (List.range desc.numConfigurations.toNat)
  rw [scanDevice, Readings.deviceWalk, hdesc]
  subst hr
  by_cases hpass : filter.admits desc.vendorId desc.productId = true
  · by_cases hcls : desc.cls = .hid
    · simp [hpass, hcls, Scan.outcome, walked]
    · simp only [hpass, hcls, Bool.not_true, Bool.false_eq_true, Bool.true_eq_false, or_false,
        if_false]
      exact hconf
  · simp [hpass, Scan.outcome, walked]

lemma scanDevices_outcome (hr : Platform.readings m.platform = r) (filter : Filter) (index : ℕ)
    (devices : List δ) :
    (scanDevices filter index devices m).1.outcome =
      walked (r.busWalk filter index devices) := by
  induction devices generalizing m index with
  | nil => rfl
  | cons device devices ih =>
      have hread : Platform.deviceDescriptor m.platform device = r.deviceDescriptor device := by
        rw [← hr]; rfl
      rw [scanDevices, Readings.busWalk, List.zipIdx_cons, List.flatMap_cons, walked_append, hread]
      cases hdesc : r.deviceDescriptor device with
      | error e => simp [Readings.deviceWalk, hdesc, walked, Scan.outcome]
      | ok desc =>
          have hdev := scanDevice_outcome hr filter index hdesc
          have hkept := (readings_invariant r).device filter index device desc (m := m)
            trivial (F := []) hr
          rcases hs : scanDevice filter index device desc m with ⟨⟨found, _ | e⟩, m₁⟩ <;>
            rw [hs] at hdev hkept
          · have hrest := ih hkept (index + 1)
            rw [Readings.busWalk] at hrest
            rw [← hdev, ← hrest]
            simp [hs, Scan.outcome]
          · rw [← hdev]
            simp [hs, Scan.outcome]

/-- The walk of a manager finds what stands before the first failure in the reference. -/
theorem walk_eq_walked (m : Manager σ δ η) (filter : Filter) :
    (m.walk filter).1.outcome = walked (Platform.scanItems m.platform filter) := by
  have hread := SteadyReadings.devices m.platform
  rw [walk, native_eq, Platform.scanItems]
  rcases hd : Platform.devices m.platform with ⟨_ | devices, p⟩
  · rfl
  · rw [hd] at hread
    have hscan := scanDevices_outcome (m := { m with platform := p }) hread filter 0 devices
    simpa [Scan.outcome] using hscan

end Follow

/-! ### Scans on the bench -/

section OnBench

variable {m : Manager Bench Instance DeviceKey} {hs : List (Hold Instance)}

lemma readings_foldl_retain (is : List Instance) (b : Bench) :
    Platform.readings (is.foldl (fun b i => Bench.retain i b) b) = Platform.readings b := by
  induction is generalizing b with
  | nil => rfl
  | cons i is ih => exact ih (b.retain i)

instance : SteadyReadings Bench where
  retain := fun _ _ => rfl
  devices := by
    intro b
    simp only [Platform.devices, Bench.devices]
    cases b.failures.listing with
    | some e => rfl
    | none => exact readings_foldl_retain b.attached b

/-- The hold of a record is on the device it was read from: `is` are those that were listed. -/
def HoldsListed (is : List Instance) (f : Found Instance) : Prop :=
  ∃ i ∈ is, i.spec.key = f.info.key ∧ f.hold.key = f.info.key ∧ f.hold.device.serial = i.serial

/-- While a scan runs, the pool backs the holds of the records found so far on top of
all others, and each is on the device its record was read from. -/
lemma listed_invariant (is : List Instance) (hs : List (Hold Instance)) :
    ScanInvariant (fun c => c.device ∈ is ∧ c.key = c.device.spec.key)
      fun fs (m : Manager Bench Instance DeviceKey) =>
        m.pool.Backs (fs.map Found.hold ++ hs) ∧ ∀ f ∈ fs, HoldsListed is f where
  log := fun _ _ _ _ h => h
  record := by
    intro fs m c alt info ⟨hmem, hkey⟩ _ hinfo ⟨hb, hlisted⟩
    have hplace : info.key = c.key := key_of_rawInterface? hinfo
    refine ⟨?_, fun f hf => ?_⟩
    · rw [List.map_append, List.append_assoc]
      simp only [recordMatch, retain_pool]
      exact (hb.retain (Platform.same m.platform) c.key c.device).perm List.perm_middle.symm
    · rcases List.mem_append.mp hf with hf | hf
      · exact hlisted f hf
      · rw [List.mem_singleton.mp hf]
        refine ⟨c.device, hmem, hkey.symm.trans hplace.symm, ?_⟩
        show (m.pool.retain (Platform.same m.platform) c.key c.device).hold.key = info.key ∧
          (m.pool.retain (Platform.same m.platform) c.key c.device).hold.device.serial =
            c.device.serial
        rcases hb.retain_cases (Platform.same m.platform) c.key c.device with
          ⟨r, -, hrkey, hsame, heq⟩ | ⟨_, -, heq⟩ <;> rw [heq]
        · exact ⟨hrkey.trans hplace.symm, beq_iff_eq.mp hsame⟩
        · exact ⟨hplace.symm, rfl⟩

/-- A scan of an initialised manager that is not being shut down finds exactly what stands
before the first failure in the walk of the attached devices, and reports that failure.  Over
any holds that the pool backs, it takes one more for each record, on the device that the
record was read from. -/
theorem scan_eq_walked (hinit : m.initialized = true) (hdown : m.shuttingDown = false)
    (filter : Filter) :
    (m.scan filter).1.outcome = walked (Platform.scanItems m.platform filter) ∧
    ∀ hs, m.pool.Backs hs →
      (m.scan filter).2.pool.Backs ((m.scan filter).1.found.map Found.hold ++ hs) ∧
      (m.scan filter).2.pool.outstanding =
        m.pool.outstanding + (m.scan filter).1.found.length ∧
      ∀ f ∈ (m.scan filter).1.found, HoldsListed m.platform.attached f := by
  have hscan : m.scan filter = m.walk filter := by
    simp [scan, ready, hdown, hinit]
  rw [hscan]
  refine ⟨walk_eq_walked m filter, fun hs hb => ?_⟩
  have hwalk : (m.walk filter).2.pool.Backs ((m.walk filter).1.found.map Found.hold ++ hs) ∧
      ∀ f ∈ (m.walk filter).1.found, HoldsListed m.platform.attached f := by
    rw [walk, native_devices]
    cases m.platform.failures.listing with
    | some e => exact ⟨hb, by simp⟩
    | none =>
        have hlisted := (listed_invariant m.platform.attached hs).devices filter
          m.platform.attached (m := takeDevices m.platform.attached m)
          (fun i hi _ _ _ => ⟨hi, rfl⟩) 0 (F := []) ⟨hb, by simp⟩
        exact hlisted
  refine ⟨hwalk.1, ?_, hwalk.2⟩
  rw [hwalk.1.outstanding_eq, hb.outstanding_eq, List.length_append, List.length_map]
  omega

/-- A scan that is cut short at the configuration of the second of two devices: one record,
one hold, and the failure. -/
theorem scan_cut_short :
    let b : Bench := { ({} : Bench) with failures := { config := [(⟨1, 5⟩, .io)] } }
    let m : Manager Bench Instance DeviceKey :=
      { platform := (b.attach (.raw ⟨1, 4⟩ 2 0x1209 0x0001)).attach (.raw ⟨1, 5⟩ 3 0x1209 0x0002)
        initialized := true }
    (m.scan {}).1.outcome = walked (Platform.scanItems m.platform {}) ∧
      (m.scan {}).1.error? = some (.discovery (.config 1 0) .io) ∧
      (m.scan {}).2.pool.outstanding = 1 := by
  intro b m
  obtain ⟨hout, hholds⟩ := scan_eq_walked (m := m) rfl rfl {}
  exact ⟨hout, by decide, (hholds [] Pool.backs_nil).2.1⟩

end OnBench

end UsbPipe
