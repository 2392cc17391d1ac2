/-
A host and a bench with the same devices are scanned alike.

A host delivers its descriptors through a library that decodes them and puts them together
again; a bench hands out the trees that it was given.  What is lost on the way through the
library makes no difference to a scan: it finds the same records in the same order, and stops
at the same failure.

* `RawDevice.verbatim` and the `verbatim` of its parts: raw descriptors taken as they are.
* `HostDevice.spec`, `failureOf`: a device of a host for a bench, and the failure of a code.
* `Host.mirror`: a bench with the devices and the failures of a host, `Host.MirroredBy` the
  benches that tell the same as this one.
* `select?_verbatim`: what the library does to attributes makes no difference to the pair.
* `walked_deviceWalk`, `walked_busWalk`: one device, and all of them.
* `scan_mirrored`: the scans.
-/
import UsbPipe.Host.Basic
import UsbPipe.Proofs.Scan.Looks

namespace UsbPipe

open Usb Manager

/-! ### The devices of a host on a bench -/

/-- The bytes of an endpoint descriptor as they are. -/
def RawEndpoint.verbatim (e : RawEndpoint) : EndpointDescriptor where
  address := e.address
  attributes := e.attributes
  maxPacketSize := e.maxPacketSize
  interval := e.interval

/-- The bytes of an alternate setting as they are. -/
def RawAltSetting.verbatim (a : RawAltSetting) : AltSetting where
  interfaceNumber := a.interfaceNumber
  alternateSetting := a.alternateSetting
  cls := ⟨a.cls⟩
  subClass := ⟨a.subClass⟩
  protocol := ⟨a.protocol⟩
  endpoints := a.endpoints.map RawEndpoint.verbatim

/-- The bytes of a configuration as they are, the power in milliamperes. -/
def RawConfig.verbatim (c : RawConfig) : ConfigDescriptor where
  number := c.number
  attributes := c.attributes
  maxPower := ⟨2 * c.power.toUInt32⟩
  interfaces := c.interfaces.map fun alts =>
    { number := (alts.head?.map RawAltSetting.interfaceNumber).getD 0
      altSettings := alts.map RawAltSetting.verbatim }

/-- The bytes of a device descriptor as they are. -/
def RawDevice.verbatim (d : RawDevice) : DeviceDescriptor where
  usbVersion := d.bcdUsb
  cls := ⟨d.cls⟩
  subClass := ⟨d.subClass⟩
  protocol := ⟨d.protocol⟩
  maxPacketSize0 := d.maxPacketSize0
  vendorId := d.vendorId
  productId := d.productId
  deviceVersion := d.bcdDevice
  numConfigurations := d.numConfigurations

/-- The failure of a code, which is none for zero. -/
def failureOf (code : ℤ) : Option NativeError :=
  if code = 0 then none else some (.ofCode code)

/-- The result of a code tells its failure. -/
lemma resultOfCode_eq (code : ℤ) : resultOfCode code = Bench.failing (failureOf code) := by
  rw [resultOfCode, failureOf]
  split_ifs <;> rfl

namespace HostDevice

/-- A device of a host as one that a bench can have, which has four speeds and an unknown one;
the fastest stands for two codes of a host. -/
def spec (d : HostDevice) : DeviceSpec where
  key := d.key
  port := d.port
  speed := match d.speedCode with
    | 1 => .low
    | 2 => .full
    | 3 => .high
    | 4 | 5 => .super
    | _ => .unknown
  descriptor := d.raw.verbatim
  configs := d.configs.map fun c => c.2.verbatim

lemma speed_spec (d : HostDevice) : d.spec.speed = speedOfCode d.speedCode := by
  rw [spec, speedOfCode]
  split <;> simp_all

/-- The code of the first configuration of a device, or zero if it has none. -/
def configCode (d : HostDevice) : ℤ := (d.configs.head?.map Prod.fst).getD 0

/-- The reads of the configurations that a device has all succeed or all fail alike. -/
def FailsAlike (d : HostDevice) : Prop := ∀ c ∈ d.configs, c.1 = d.configCode

end HostDevice

namespace Host

/-- The failures of a host, those of a device under its key. -/
def failures (h : Host) : Failures where
  init := failureOf h.initCode
  listing := failureOf h.listCode
  descriptor := h.devices.filterMap fun d => (failureOf d.codes.descriptor).map (d.key, ·)
  config := h.devices.filterMap fun d => (failureOf d.configCode).map (d.key, ·)

/-- A bench with the devices and the failures of a host. -/
def mirror (h : Host) : Bench :=
  h.devices.foldl (fun b d => b.attach d.spec) { failures := h.failures }

/-- A bench has the devices of a host in their order, and fails where the host does when it is
initialised, when devices are listed and when descriptors are read. -/
structure MirroredBy (h : Host) (b : Bench) : Prop where
  specs : b.attached.map Instance.spec = h.devices.map HostDevice.spec
  init : b.failures.init = h.failures.init
  listing : b.failures.listing = h.failures.listing
  descriptor : b.failures.descriptor = h.failures.descriptor
  config : b.failures.config = h.failures.config

end Host

lemma attach_all (ds : List HostDevice) (b : Bench) :
    (ds.foldl (fun b d => b.attach d.spec) b).attached.map Instance.spec =
        b.attached.map Instance.spec ++ ds.map HostDevice.spec ∧
      (ds.foldl (fun b d => b.attach d.spec) b).failures = b.failures := by
  induction ds generalizing b with
  | nil => simp
  | cons d ds ih =>
      obtain ⟨hspecs, hfail⟩ := ih (b.attach d.spec)
      refine ⟨?_, hfail⟩
      rw [List.foldl_cons, hspecs]
      simp [Bench.attach]

/-- Every host has a bench that mirrors it. -/
theorem Host.mirroredBy_mirror (h : Host) : h.MirroredBy h.mirror := by
  obtain ⟨hspecs, hfail⟩ := attach_all h.devices { failures := h.failures }
  rw [← Host.mirror] at hspecs hfail
  constructor
  · exact hspecs
  all_goals rw [hfail]

/-- The failure that is kept under the key of a device. -/
lemma lookup_failures {ds : List HostDevice} (hkeys : (ds.map HostDevice.key).Nodup)
    (f : HostDevice → Option NativeError) {d : HostDevice} (hd : d ∈ ds) :
    (ds.filterMap fun d => (f d).map (d.key, ·)).lookup d.key = f d := by
  induction ds with
  | nil => cases hd
  | cons x ds ih =>
      rw [List.map_cons, List.nodup_cons] at hkeys
      rcases List.mem_cons.mp hd with rfl | hd
      · cases hf : f d with
        | some e => simp [hf]
        | none =>
            -- no other device has this key
            rw [List.filterMap_cons_none (by simp [hf]), List.lookup_eq_none_iff]
            intro p hp
            obtain ⟨y, hy, hpair⟩ := List.mem_filterMap.mp hp
            obtain ⟨e, -, rfl⟩ := Option.map_eq_some_iff.mp hpair
            have hne : d.key ≠ y.key := fun heq => hkeys.1 (heq ▸ List.mem_map_of_mem hy)
            simpa using hne
      · have hne : d.key ≠ x.key := fun heq => hkeys.1 (heq ▸ List.mem_map_of_mem hd)
        rw [← ih hkeys.2 hd]
        cases hf : f x with
        | some e => rw [List.filterMap_cons_some (by simp [hf]; rfl), List.lookup_cons,
            beq_false_of_ne hne]
        | none => rw [List.filterMap_cons_none (by simp [hf])]

/-! ### One alternate setting -/

/-- The library keeps the transfer type of an endpoint. -/
lemma RawEndpoint.transferType_descriptor (e : RawEndpoint) :
    e.descriptor.transferType = e.verbatim.transferType := by
  have hbits : e.attributes &&& endpointBits &&& Mask.transferType =
      e.attributes &&& Mask.transferType := by
    rw [UInt8.and_assoc]
    rfl
  rw [EndpointDescriptor.transferType, RawEndpoint.descriptor, EndpointTraits.toByte_ofByte,
    TransferType.ofAttributes, hbits]
  rfl

/-- Of the attributes of its endpoints, the pair of an alternate setting depends only on what
the library keeps. -/
lemma select?_verbatim (es : List RawEndpoint) :
    PipePair.select? (es.map RawEndpoint.descriptor) =
      PipePair.select? (es.map RawEndpoint.verbatim) := by
  have hsee : ∀ (t : PipePair.Tally) (e : RawEndpoint),
      t.see e.descriptor = t.see e.verbatim := by
    intro t e
    rw [PipePair.Tally.see, PipePair.Tally.see, e.transferType_descriptor]
    rfl
  simp only [PipePair.select?, List.foldl_map, hsee]

section Walks

variable {δ δ' : Type} {r : Readings δ} {r' : Readings δ'} {device : δ} {device' : δ'}

/-- Two native layers tell the same about bus, address, port and speed of a device. -/
structure SamePlace (r : Readings δ) (r' : Readings δ') (device : δ) (device' : δ') : Prop where
  key : r.key device = r'.key device'
  port : r.port device = r'.port device'
  speed : r.speed device = r'.speed device'

lemma settingWalk_verbatim (h : SamePlace r r' device device') (raw : RawDevice)
    (alt : RawAltSetting) :
    r.settingWalk device raw.descriptor alt.descriptor =
      r'.settingWalk device' raw.verbatim alt.verbatim := by
  have hpair : PipePair.select? alt.descriptor.endpoints =
      PipePair.select? alt.verbatim.endpoints := select?_verbatim alt.endpoints
  rw [Readings.settingWalk, Readings.settingWalk, hpair]
  simp only [Readings.recordOf, h.key, h.port, h.speed]
  rfl

/-- The settings of a configuration that both can read. -/
lemma configWalk_verbatim (h : SamePlace r r' device device') (raw : RawDevice)
    {config : ℕ} {c : RawConfig} (hc : r.configDescriptor device config = .ok c.descriptor)
    (hc' : r'.configDescriptor device' config = .ok c.verbatim) (index : ℕ) :
    r.configWalk index device raw.descriptor config =
      r'.configWalk index device' raw.verbatim config := by
  rw [Readings.configWalk, Readings.configWalk, hc, hc']
  simp only [RawConfig.descriptor, RawConfig.verbatim, List.flatMap_map]
  refine List.flatMap_congr fun alts _ => ?_
  simp only [interfaceOf, List.flatMap_map, settingWalk_verbatim h]

end Walks

/-! ### One device -/

section Devices

variable {h : Host} {b : Bench} {ref : HostRef} {d : HostDevice} {i : Instance}

/-- A device object of a host and one of a bench stand for the same device, with the failures
of its reads. -/
structure Twins (h : Host) (b : Bench) (d : HostDevice) (ref : HostRef) (i : Instance) :
    Prop where
  host : h.device? ref = some d
  bench : i.spec = d.spec
  descriptor : b.failures.descriptor.lookup d.key = failureOf d.codes.descriptor
  config : b.failures.config.lookup d.key = failureOf d.configCode

namespace Twins

lemma samePlace (t : Twins h b d ref i) :
    SamePlace (Platform.readings h) (Platform.readings b) ref i := by
  constructor <;>
    simp only [Platform.readings, Platform.key, Platform.port, Platform.speed, t.host, t.bench]
  · rfl
  · rfl
  · exact d.speed_spec.symm

/-- The descriptors that are read, or the failure. -/
lemma deviceDescriptor (t : Twins h b d ref i) :
    match failureOf d.codes.descriptor with
    | some e => (Platform.readings h).deviceDescriptor ref = .error e ∧
        (Platform.readings b).deviceDescriptor i = .error e
    | none => (Platform.readings h).deviceDescriptor ref = .ok d.raw.descriptor ∧
        (Platform.readings b).deviceDescriptor i = .ok d.raw.verbatim := by
  have hlook := t.descriptor
  simp only [Platform.readings, Platform.deviceDescriptor, Host.deviceDescriptor,
    Bench.deviceDescriptor, t.host, t.bench, HostDevice.spec, resultOfCode_eq, hlook]
  cases failureOf d.codes.descriptor <;> exact ⟨rfl, rfl⟩

/-- A configuration of a device whose reads do not fail. -/
lemma configWalk (t : Twins h b d ref i) (halike : d.FailsAlike) (hcode : d.configCode = 0)
    (index config : ℕ) :
    (Platform.readings h).configWalk index ref d.raw.descriptor config =
      (Platform.readings b).configWalk index i d.raw.verbatim config := by
  have hlook : b.failures.config.lookup d.key = none := t.config.trans (if_pos hcode)
  cases hget : d.configs[config]? with
  | none =>
      -- neither has a configuration with this number
      have hhost : (Platform.readings h).configDescriptor ref config = .error .notFound := by
        simp [Platform.readings, Platform.configDescriptor, Host.configDescriptor, t.host, hget]
      have hbench : (Platform.readings b).configDescriptor i config = .error .notFound := by
        simp [Platform.readings, Platform.configDescriptor, Bench.configDescriptor, t.bench,
          HostDevice.spec, hlook, hget]
      rw [Readings.configWalk, Readings.configWalk, hhost, hbench]
  | some c =>
      have hzero : c.1 = 0 := (halike c (List.mem_of_getElem? hget)).trans hcode
      refine configWalk_verbatim t.samePlace d.raw (c := c.2) ?_ ?_ index
      · simp [Platform.readings, Platform.configDescriptor, Host.configDescriptor, t.host, hget,
          resultOfCode, hzero, Except.map]
      · simp [Platform.readings, Platform.configDescriptor, Bench.configDescriptor, t.bench,
          HostDevice.spec, hlook, hget]

/-- The first configuration of a device whose reads fail. -/
lemma configDescriptor_zero (t : Twins h b d ref i) (hcode : d.configCode ≠ 0) :
    (Platform.readings h).configDescriptor ref 0 = .error (.ofCode d.configCode) ∧
      (Platform.readings b).configDescriptor i 0 = .error (.ofCode d.configCode) := by
  have hlook : b.failures.config.lookup d.key = some (.ofCode d.configCode) :=
    t.config.trans (if_neg hcode)
  constructor
  · cases hconfigs : d.configs with
    | nil => simp [HostDevice.configCode, hconfigs] at hcode
    | cons c cs =>
        simp only [HostDevice.configCode, hconfigs, List.head?_cons, Option.map_some,
          Option.getD_some] at hcode ⊢
        simp [Platform.readings, Platform.configDescriptor, Host.configDescriptor, t.host, hconfigs,
          resultOfCode, hcode, Except.map]
  · simp [Platform.readings, Platform.configDescriptor, Bench.configDescriptor, t.bench,
      HostDevice.spec, hlook]

/-- All configurations of a device, read one after the other. -/
lemma walked_configs (t : Twins h b d ref i) (halike : d.FailsAlike) (index n : ℕ) :
    walked ((List.range n).flatMap
        ((Platform.readings h).configWalk index ref d.raw.descriptor)) =
      walked ((List.range n).flatMap
        ((Platform.readings b).configWalk index i d.raw.verbatim)) := by
  by_cases hcode : d.configCode = 0
  · rw [List.flatMap_congr fun config _ => t.configWalk halike hcode index config]
  · cases n with
    | zero => rfl
    | succ n =>
        -- both stop at the first configuration
        obtain ⟨hhost, hbench⟩ := t.configDescriptor_zero hcode
        simp only [List.range_succ_eq_map, List.flatMap_cons, Readings.configWalk, hhost, hbench,
          List.singleton_append, walked]

lemma walked_deviceWalk (t : Twins h b d ref i) (halike : d.FailsAlike) (filter : Filter)
    (index : ℕ) :
    walked ((Platform.readings h).deviceWalk filter index ref) =
      walked ((Platform.readings b).deviceWalk filter index i) := by
  have hdesc := t.deviceDescriptor
  rw [Readings.deviceWalk, Readings.deviceWalk]
  cases hfail : failureOf d.codes.descriptor with
  | some e =>
      rw [hfail] at hdesc
      rw [hdesc.1, hdesc.2]
  | none =>
      rw [hfail] at hdesc
      rw [hdesc.1, hdesc.2]
      -- ids and class of the device are the same
      by_cases hpass : filter.admits d.raw.vendorId d.raw.productId = false ∨
          (⟨d.raw.cls⟩ : Usb.Class) = .hid
      · exact congrArg walked ((if_pos hpass).trans (if_pos hpass).symm)
      · calc walked _
            = walked ((List.range d.raw.numConfigurations.toNat).flatMap
                ((Platform.readings h).configWalk index ref d.raw.descriptor)) :=
              congrArg walked (if_neg hpass)
          _ = walked ((List.range d.raw.numConfigurations.toNat).flatMap
                ((Platform.readings b).configWalk index i d.raw.verbatim)) :=
              t.walked_configs halike index _
          _ = walked _ := (congrArg walked (if_neg hpass)).symm

end Twins

end Devices

/-! ### All devices -/

lemma walked_append_congr {ε α : Type} {xs ys xs' ys' : List (Except ε α)}
    (h : walked xs = walked ys) (h' : walked xs' = walked ys') :
    walked (xs ++ xs') = walked (ys ++ ys') := by
  rw [walked_append, walked_append, h, h']

section Buses

variable {h : Host} {b : Bench}

lemma walked_busWalk (filter : Filter) {ds : List HostDevice} {refs : List HostRef}
    {is : List Instance} (hrefs : refs.map h.device? = ds.map some)
    (his : is.map Instance.spec = ds.map HostDevice.spec)
    (hds : ∀ d ∈ ds, d.FailsAlike ∧ ∀ ref i, h.device? ref = some d → i.spec = d.spec →
      Twins h b d ref i) (index : ℕ) :
    walked ((Platform.readings h).busWalk filter index refs) =
      walked ((Platform.readings b).busWalk filter index is) := by
  induction ds generalizing refs is index with
  | nil =>
      rw [List.map_eq_nil_iff.mp hrefs, List.map_eq_nil_iff.mp his]
      rfl
  | cons d ds ih =>
      obtain ⟨ref, refs, rfl, href, hrefs⟩ := List.map_eq_cons_iff.mp hrefs
      obtain ⟨i, is, rfl, hi, his⟩ := List.map_eq_cons_iff.mp his
      obtain ⟨halike, htwins⟩ := hds d (List.mem_cons_self ..)
      rw [Readings.busWalk, Readings.busWalk, List.zipIdx_cons, List.zipIdx_cons,
        List.flatMap_cons, List.flatMap_cons]
      exact walked_append_congr ((htwins ref i href hi).walked_deviceWalk halike filter index)
        (ih hrefs his (fun d hd => hds d (List.mem_cons_of_mem _ hd)) (index + 1))

/-- The device objects of a list stand for the devices in their order. -/
lemma device?_list (h : Host) (context : ℕ) :
    ((List.range h.devices.length).map (HostRef.mk context)).map h.device? =
      h.devices.map some := by
  refine List.ext_getElem (by simp) fun n hn _ => ?_
  have hlt : n < h.devices.length := by simpa using hn
  simp [Host.device?, List.getElem?_eq_getElem hlt]

/-- What a scan meets once there is a context. -/
lemma walked_scanItems (hcontext : h.context?.isSome) (hmirror : h.MirroredBy b)
    (hkeys : (h.devices.map HostDevice.key).Nodup) (halike : ∀ d ∈ h.devices, d.FailsAlike)
    (filter : Filter) :
    walked (Platform.scanItems h filter) = walked (Platform.scanItems b filter) := by
  have htwins : ∀ d ∈ h.devices, d.FailsAlike ∧ ∀ ref i, h.device? ref = some d →
      i.spec = d.spec → Twins h b d ref i := by
    refine fun d hd => ⟨halike d hd, fun ref i href hi => ⟨href, hi, ?_, ?_⟩⟩
    · rw [hmirror.descriptor]
      exact lookup_failures hkeys (fun d => failureOf d.codes.descriptor) hd
    · rw [hmirror.config]
      exact lookup_failures hkeys (fun d => failureOf d.configCode) hd
  obtain ⟨context, hcontext⟩ := Option.isSome_iff_exists.mp hcontext
  have hlist : b.failures.listing = failureOf h.listCode := hmirror.listing
  simp only [Platform.scanItems, Platform.devices, Host.list, hcontext, Bench.devices, hlist,
    resultOfCode_eq]
  cases failureOf h.listCode with
  | some e => rfl
  | none => exact walked_busWalk filter (device?_list h context) hmirror.specs htwins 0

end Buses

/-! ### Scans -/

instance : SteadyReadings Host where
  retain := fun _ _ => rfl
  devices := by
    intro h
    simp only [Platform.devices, Host.list]
    cases h.context? with
    | none => rfl
    | some context =>
        cases resultOfCode h.listCode with
        | error e => rfl
        | ok _ => rfl

instance : SteadyLooks Host where
  same_retain _ _ := rfl
  same_devices _ := rfl

/-- The outcome of a scan: that of the walk, if the entry is granted. -/
lemma scan_outcome {σ δ η : Type} [Platform σ δ η] [SteadyReadings σ] (m : Manager σ δ η)
    (filter : Filter) :
    (m.scan filter).1.outcome = match m.ready with
      | (.error e, _) => ([], some e)
      | (.ok (), m) => walked (Platform.scanItems m.platform filter) := by
  rw [scan]
  rcases m.ready with ⟨_ | _, m⟩
  · rfl
  · exact walk_eq_walked m filter

section Scans

variable {m : Manager Host HostRef ℕ} {m' : Manager Bench Instance DeviceKey}

/-- The first entry: both native layers fail alike, or the host has a context and is mirrored
as before. -/
lemma init_mirrored {h : Host} {b : Bench} (hmirror : h.MirroredBy b)
    (hcontext : h.context? = none) :
    match (Platform.init h : _ × Host), (Platform.init b : _ × Bench) with
    | (.error e, _), (.error e', _) => e = e'
    | (.ok (), h₁), (.ok (), b₁) =>
      h₁.context?.isSome ∧ h₁.devices = h.devices ∧ h₁.MirroredBy b₁
    | _, _ => False := by
  have hfail : b.failures.init = failureOf h.initCode := hmirror.init
  have hcode : (h.record .init).initCode = h.initCode := rfl
  simp only [Platform.init, Host.init, hcontext, hfail, resultOfCode_eq, hcode]
  cases failureOf h.initCode with
  | some e => rfl
  | none =>
      exact ⟨rfl, rfl, hmirror.specs, hmirror.init, hmirror.listing, hmirror.descriptor,
        hmirror.config⟩

/-- A host and a bench with the same devices, of which no two have the same bus and address and
each fails alike in all reads of its configurations, are scanned with the same outcome: the same
records in the same order, and the same failure at the end.  The manager of the host is to have
a context exactly if it is initialised, and that of the bench to be in the same phase. -/
theorem scan_mirrored (hmirror : m.platform.MirroredBy m'.platform)
    (hkeys : (m.platform.devices.map HostDevice.key).Nodup)
    (halike : ∀ d ∈ m.platform.devices, d.FailsAlike)
    (hcontext : m.platform.context?.isSome = m.initialized)
    (hinit : m'.initialized = m.initialized) (hdown : m'.shuttingDown = m.shuttingDown)
    (filter : Filter) :
    (m.scan filter).1.outcome = (m'.scan filter).1.outcome := by
  rw [scan_outcome, scan_outcome, ready, ready, hinit, hdown]
  cases hd : m.shuttingDown with
  | true => rfl
  | false =>
      cases hi : m.initialized with
      | true => exact walked_scanItems (hcontext.trans hi) hmirror hkeys halike filter
      | false =>
          have hnone := Option.isSome_eq_false_iff.mp (hcontext.trans hi)
          have hentry := init_mirrored hmirror (Option.isNone_iff_eq_none.mp hnone)
          simp only [native, Bool.false_eq_true, if_false]
          rcases hh : (Platform.init m.platform : _ × Host) with ⟨_ | _, h₁⟩ <;>
            rcases hb : (Platform.init m'.platform : _ × Bench) with ⟨_ | _, b₁⟩ <;>
            rw [hh, hb] at hentry
          · exact congrArg (fun e => ([], some (UsbError.init e))) hentry
          · exact hentry.elim
          · exact hentry.elim
          · obtain ⟨hsome, hdevices, hmirror₁⟩ := hentry
            rw [← hdevices] at hkeys halike
            exact walked_scanItems hsome hmirror₁ hkeys halike filter

/-- Two devices with attribute bits that mean nothing, the second with a configuration that
cannot be read: one record, and the failure. -/
theorem scan_mirrored_cut_short :
    let settings : List RawAltSetting :=
      [⟨0, 0, 0xff, 0, 0, [⟨0x81, 0xc2, 512, 0⟩, ⟨0x01, 0x4e, 512, 0⟩]⟩]
    let device (address : UInt8) (code : ℤ) : HostDevice :=
      { key := ⟨1, address⟩, port := 2, speedCode := 5
        raw := ⟨0x0aff, 0, 0, 0, 64, 0x1209, 0x0001, 0x0100, 1⟩
        configs := [(code, ⟨1, 0x15, 50, [settings]⟩)] }
    let h : Host := { devices := [device 4 0, device 5 (-1)] }
    let m : Manager Host HostRef ℕ := .ofPlatform h
    let m' : Manager Bench Instance DeviceKey := .ofPlatform h.mirror
    (m.scan {}).1.outcome = (m'.scan {}).1.outcome ∧
      (m.scan {}).1.outcome.1.map RawInterface.address = [4] ∧
      (m.scan {}).1.error? = some (.discovery (.config 1 0) .io) := by
  intro settings device h m m'
  have hmirror : m.platform.MirroredBy m'.platform := h.mirroredBy_mirror
  refine ⟨scan_mirrored hmirror (by decide) ?_ rfl rfl rfl {}, by decide, by decide⟩
  simp [m, h, device, Manager.ofPlatform, HostDevice.FailsAlike, HostDevice.configCode]

end Scans

end UsbPipe
