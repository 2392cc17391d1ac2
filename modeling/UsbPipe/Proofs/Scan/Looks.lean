/-
What a scan looks at.

A scan asks the native layer for the list of devices once.  After that it only looks at
devices: at their descriptors and places, and, where a record is to share an entry of the
pool, at whether two devices are the same.  The looks of a scan are listed in the order in
which it makes them.  They are all that it reads: native layers that list the same devices and
give these looks the same answers are scanned alike.

* `Look`: one look, and `Look.Alike` that two native layers give it one answer.
* `Manager.lookSettings`, `Manager.lookConfigs`, `Manager.lookDevice`, `Manager.lookDevices`:
  the looks at each level of the walk.
* `Manager.lookWalk`: those of a whole walk.
* `SteadyLooks`: a native layer whose references change no answer.
* `Manager.Agree`, `Manager.SameWalk`: two managers for the looks of a walk, and a walk that is
  the same in both; `Agree.scanSettings`, `Agree.scanConfigs`, `Agree.scanDevice`,
  `Agree.scanDevices`: each level of it.
* `walk_of_looks`: the whole walk.
-/
import UsbPipe.Proofs.Scan.Reference

namespace UsbPipe

open Usb

/-- A look at a device.  `same` compares one with a device of the pool. -/
inductive Look (δ : Type) where
  | deviceDescriptor (device : δ)
  | key (device : δ)
  | port (device : δ)
  | speed (device : δ)
  | configDescriptor (device : δ) (config : ℕ)
  | same (pooled device : δ)

namespace Manager

variable {σ δ η : Type} [Platform σ δ η]

/-! ### The looks of a walk -/

/-- A hold on a device is compared with the current record under its key, if there is one. -/
def lookRetain (m : Manager σ δ η) (key : DeviceKey) (device : δ) : List (Look δ) :=
  ((m.pool.currentRecord? key).map fun r => .same r.device device).toList

/-- The looks at alternate settings, in order. -/
def lookSettings (c : Candidate δ) : List AltSetting → Manager σ δ η → List (Look δ)
  | [], _ => []
  | alt :: alts, m =>
    match c.rawInterface? alt with
    | none => lookSettings c alts m
    | some info => m.lookRetain c.key c.device ++ lookSettings c alts (m.recordMatch c info).2

/-- The looks at the configurations with given indices. -/
def lookConfigs (c : Candidate δ) (index : ℕ) : List ℕ → Manager σ δ η → List (Look δ)
  | [], _ => []
  | config :: configs, m =>
    .configDescriptor c.device config ::
      match Platform.configDescriptor m.platform c.device config with
      | .error _ => []
      | .ok descriptor =>
        lookSettings c descriptor.altSettings m ++
          lookConfigs c index configs (scanSettings c descriptor.altSettings m).2

/-- The looks at a device whose descriptor has been read. -/
def lookDevice (filter : Filter) (index : ℕ) (device : δ) (descriptor : DeviceDescriptor)
    (m : Manager σ δ η) : List (Look δ) :=
  if !filter.admits descriptor.vendorId descriptor.productId then []
  else if descriptor.cls = .hid then []
  else
    [.key device, .port device, .speed device] ++ lookConfigs
      { device := device
        descriptor := descriptor
        key := Platform.key m.platform device
        port := Platform.port m.platform device
        speed := Platform.speed m.platform device }
      index (List.range descriptor.numConfigurations.toNat) m

/-- The looks at devices, of which the first has the index `index`. -/
def lookDevices (filter : Filter) (index : ℕ) : List δ → Manager σ δ η → List (Look δ)
  | [], _ => []
  | device :: devices, m =>
    .deviceDescriptor device ::
      match Platform.deviceDescriptor m.platform device with
      | .error _ => []
      | .ok descriptor =>
        lookDevice filter index device descriptor m ++
          match scanDevice filter index device descriptor m with
          | (⟨_, some _⟩, _) => []
          | (⟨_, none⟩, m) => lookDevices filter (index + 1) devices m

/-- The looks of a scan on an initialised native layer, after the list of devices. -/
def lookWalk (m : Manager σ δ η) (filter : Filter) : List (Look δ) :=
  match m.native Platform.devices with
  | (.error _, _) => []
  | (.ok devices, m) => lookDevices filter 0 devices m

/-! ### Looks alone tell a walk its way -/

end Manager

namespace Look

variable {σ δ η : Type} [Platform σ δ η] {p p' p'' : σ} {l : Look δ}

/-- Two states of a native layer give a look the same answer. -/
def Alike (p p' : σ) : Look δ → Prop
  | deviceDescriptor d => Platform.deviceDescriptor p d = Platform.deviceDescriptor p' d
  | key d => Platform.key p d = Platform.key p' d
  | port d => Platform.port p d = Platform.port p' d
  | speed d => Platform.speed p d = Platform.speed p' d
  | configDescriptor d config =>
    Platform.configDescriptor p d config = Platform.configDescriptor p' d config
  | same pooled d => Platform.same p pooled d = Platform.same p' pooled d

lemma alike_of_readings (hread : Platform.readings p = Platform.readings p')
    (hsame : Platform.same p = Platform.same p') : l.Alike p p' := by
  cases l with
  | deviceDescriptor d => exact congrFun (congrArg Readings.deviceDescriptor hread) d
  | key d => exact congrFun (congrArg Readings.key hread) d
  | port d => exact congrFun (congrArg Readings.port hread) d
  | speed d => exact congrFun (congrArg Readings.speed hread) d
  | configDescriptor d config =>
      exact congrFun₂ (congrArg Readings.configDescriptor hread) d config
  | same pooled d => exact congrFun₂ hsame pooled d

lemma Alike.refl (p : σ) (l : Look δ) : l.Alike p p := by
  cases l <;> rfl

lemma Alike.symm (h : l.Alike p p') : l.Alike p' p := by
  cases l <;> exact Eq.symm h

lemma Alike.trans (h : l.Alike p p') (h' : l.Alike p' p'') : l.Alike p p'' := by
  cases l <;> exact Eq.trans h h'

end Look

/-- A native layer that gives every look the same answer whatever references are taken. -/
class SteadyLooks (σ : Type) {δ η : outParam Type} [Platform σ δ η] : Prop
    extends SteadyReadings σ where
  same_retain : ∀ (d : δ) (p : σ), Platform.same (Platform.retain d p) = Platform.same p
  same_devices : ∀ p : σ, Platform.same (Platform.devices p).2 = Platform.same p

instance : SteadyLooks Bench where
  same_retain _ _ := rfl
  same_devices _ := rfl

/-- Whether a hold shares the current record is asked of no other device. -/
lemma Pool.retain_congr {δ : Type} {p : Pool δ} {same same' : δ → δ → Bool} {key : DeviceKey}
    {device : δ}
    (h : ∀ r, p.currentRecord? key = some r → same r.device device = same' r.device device) :
    p.retain same key device = p.retain same' key device := by
  rw [Pool.retain, Pool.retain]
  cases hr : p.currentRecord? key with
  | none => rfl
  | some r => rw [Option.filter, Option.filter, h r hr]

namespace Manager

variable {σ δ η : Type} [Platform σ δ η] {m m' : Manager σ δ η} {c : Candidate δ}

/-- Two managers with one pool, whose native layers give each of some looks one answer. -/
structure Agree (m m' : Manager σ δ η) (ls : List (Look δ)) : Prop where
  pool : m.pool = m'.pool
  looks : ∀ l ∈ ls, l.Alike m.platform m'.platform

/-- A part of a walk in two managers: it has one result, leaves one pool, and looks at the same
in the same order. -/
structure SameWalk {α : Type} (r r' : α × Manager σ δ η) (ls ls' : List (Look δ)) : Prop where
  result : r.1 = r'.1
  pool : r.2.pool = r'.2.pool
  looks : ls = ls'

lemma Agree.recordMatch (h : m.Agree m' (m.lookRetain c.key c.device)) (info : RawInterface) :
    SameWalk (m.recordMatch c info) (m'.recordMatch c info) (m.lookRetain c.key c.device)
      (m'.lookRetain c.key c.device) := by
  have hretain : m.pool.retain (Platform.same m.platform) c.key c.device =
      m'.pool.retain (Platform.same m'.platform) c.key c.device := by
    rw [← h.pool]
    refine Pool.retain_congr fun r hr => ?_
    have hlook : Look.same r.device c.device ∈ m.lookRetain c.key c.device := by
      rw [lookRetain, hr]
      exact List.mem_singleton_self _
    exact h.looks _ hlook
  refine ⟨?_, ?_, ?_⟩
  · exact congrArg (fun r : Pool.Retained δ => Found.mk info r.hold) hretain
  · rw [Manager.recordMatch, Manager.recordMatch, retain_pool, retain_pool]
    exact congrArg Pool.Retained.pool hretain
  · rw [lookRetain, lookRetain, h.pool]

/-- What is still looked at after a part of a walk that changed no answer. -/
lemma Agree.after {m₁ m₁' : Manager σ δ η} {ls ls₁ : List (Look δ)} (h : m.Agree m' ls)
    (hls : ls₁ ⊆ ls) (hpool : m₁.pool = m₁'.pool)
    (hkept : ∀ l : Look δ, l.Alike m₁.platform m.platform)
    (hkept' : ∀ l : Look δ, l.Alike m₁'.platform m'.platform) : m₁.Agree m₁' ls₁ :=
  ⟨hpool, fun l hl => ((hkept l).trans (h.looks l (hls hl))).trans (hkept' l).symm⟩

lemma Agree.mono {ls ls₁ : List (Look δ)} (h : m.Agree m' ls) (hls : ls₁ ⊆ ls) :
    m.Agree m' ls₁ := ⟨h.pool, fun l hl => h.looks l (hls hl)⟩

/-! ### Each level of the walk -/

section Steady

variable [SteadyLooks σ]

lemma alike_recordMatch (m : Manager σ δ η) (info : RawInterface) (l : Look δ) :
    l.Alike (m.recordMatch c info).2.platform m.platform := by
  rw [Manager.recordMatch, retain_platform]
  split_ifs
  · exact Look.Alike.refl _ l
  · exact Look.alike_of_readings (SteadyReadings.retain _ _) (SteadyLooks.same_retain _ _)

/-- A scan changes no answer to a look. -/
lemma alike_invariant (p : σ) :
    ScanInvariant (σ := σ) (fun _ => True) fun _ m => ∀ l : Look δ, l.Alike m.platform p where
  log := fun _ _ _ _ h => h
  record := fun _ m _ _ info _ _ _ h l => (alike_recordMatch m info l).trans (h l)

lemma Agree.scanSettings (alts : List AltSetting) (h : m.Agree m' (lookSettings c alts m)) :
    SameWalk (scanSettings c alts m) (scanSettings c alts m') (lookSettings c alts m)
      (lookSettings c alts m') := by
  induction alts generalizing m m' with
  | nil => exact ⟨rfl, h.pool, rfl⟩
  | cons alt alts ih =>
      rw [lookSettings] at h
      rw [Manager.scanSettings, Manager.scanSettings, lookSettings, lookSettings]
      cases hinfo : c.rawInterface? alt with
      | none =>
          rw [hinfo] at h
          exact ih h
      | some info =>
          rw [hinfo] at h
          have hrec := (h.mono (List.subset_append_left _ _)).recordMatch info
          have hrest := ih (h.after (List.subset_append_right _ _) hrec.pool
            (alike_recordMatch m info) (alike_recordMatch m' info))
          refine ⟨?_, hrest.pool, ?_⟩
          · exact congrArg₂ List.cons hrec.result hrest.result
          · exact congrArg₂ (· ++ ·) hrec.looks hrest.looks

lemma Agree.scanConfigs (index : ℕ) (configs : List ℕ)
    (h : m.Agree m' (lookConfigs c index configs m)) :
    SameWalk (scanConfigs c index configs m) (scanConfigs c index configs m')
      (lookConfigs c index configs m) (lookConfigs c index configs m') := by
  induction configs generalizing m m' with
  | nil => exact ⟨rfl, h.pool, rfl⟩
  | cons config configs ih =>
      have hread : Platform.configDescriptor m.platform c.device config =
          Platform.configDescriptor m'.platform c.device config :=
        h.looks (.configDescriptor c.device config) (List.mem_cons_self ..)
      rw [lookConfigs] at h
      rw [Manager.scanConfigs, Manager.scanConfigs, lookConfigs, lookConfigs, ← hread]
      cases hd : Platform.configDescriptor m.platform c.device config with
      | error e => exact ⟨rfl, h.pool, rfl⟩
      | ok descriptor =>
          rw [hd] at h
          have hset := (h.mono fun l hl =>
            List.mem_cons_of_mem _ (List.mem_append_left _ hl)).scanSettings descriptor.altSettings
          have hsteady : ∀ m : Manager σ δ η, ∀ l : Look δ,
              l.Alike (Manager.scanSettings c descriptor.altSettings m).2.platform m.platform :=
            fun m' => (alike_invariant m'.platform).settings (c := c) trivial
              (fun _ halt => ⟨m.platform, config, descriptor, hd, halt⟩) (F := [])
              (Look.Alike.refl _)
          have hrest := ih (h.after (fun l hl =>
            List.mem_cons_of_mem _ (List.mem_append_right _ hl)) hset.pool (hsteady m)
            (hsteady m'))
          refine ⟨?_, hrest.pool, ?_⟩
          · exact congrArg₂ (fun found (rest : Scan δ) => Scan.mk (found ++ rest.found) rest.error?)
              hset.result hrest.result
          · exact congrArg₂ (fun ls ls' => Look.configDescriptor c.device config :: (ls ++ ls'))
              hset.looks hrest.looks

lemma Agree.scanDevice {filter : Filter} {index : ℕ} {device : δ} {descriptor : DeviceDescriptor}
    (h : m.Agree m' (lookDevice filter index device descriptor m)) :
    SameWalk (scanDevice filter index device descriptor m)
      (scanDevice filter index device descriptor m')
      (lookDevice filter index device descriptor m)
      (lookDevice filter index device descriptor m') := by
  rw [lookDevice] at h
  rw [Manager.scanDevice, Manager.scanDevice, lookDevice, lookDevice]
  split_ifs with hpass hcls
  · exact ⟨rfl, h.pool, rfl⟩
  · exact ⟨rfl, h.pool, rfl⟩
  · rw [if_neg hpass, if_neg hcls] at h
    have hkey : Platform.key m.platform device = Platform.key m'.platform device :=
      h.looks (.key device) (by simp)
    have hport : Platform.port m.platform device = Platform.port m'.platform device :=
      h.looks (.port device) (by simp)
    have hspeed : Platform.speed m.platform device = Platform.speed m'.platform device :=
      h.looks (.speed device) (by simp)
    have hconf := (h.mono (List.subset_append_right _ _)).scanConfigs
    rw [← hkey, ← hport, ← hspeed]
    exact ⟨hconf.result, hconf.pool, congrArg _ hconf.looks⟩

lemma Agree.scanDevices {filter : Filter} (index : ℕ) (devices : List δ)
    (h : m.Agree m' (lookDevices filter index devices m)) :
    SameWalk (scanDevices filter index devices m) (scanDevices filter index devices m')
      (lookDevices filter index devices m) (lookDevices filter index devices m') := by
  induction devices generalizing m m' index with
  | nil => exact ⟨rfl, h.pool, rfl⟩
  | cons device devices ih =>
      have hread : Platform.deviceDescriptor m.platform device =
          Platform.deviceDescriptor m'.platform device :=
        h.looks (.deviceDescriptor device) (List.mem_cons_self ..)
      rw [lookDevices] at h
      rw [Manager.scanDevices, Manager.scanDevices, lookDevices, lookDevices, ← hread]
      cases hd : Platform.deviceDescriptor m.platform device with
      | error e => exact ⟨rfl, h.pool, rfl⟩
      | ok descriptor =>
          simp only [hd] at h ⊢
          have hdev := (h.mono fun l hl =>
            List.mem_cons_of_mem _ (List.mem_append_left _ hl)).scanDevice
          have hsteady : ∀ m : Manager σ δ η, ∀ l : Look δ,
              l.Alike (Manager.scanDevice filter index device descriptor m).2.platform
                m.platform := fun m =>
            (alike_invariant m.platform).device filter index device descriptor (m := m) trivial
              (F := []) (Look.Alike.refl _)
          have hkept := hsteady m
          have hkept' := hsteady m'
          rcases hs : Manager.scanDevice filter index device descriptor m with ⟨⟨found, e?⟩, m₁⟩
          rcases hs' : Manager.scanDevice filter index device descriptor m' with ⟨scan, m₁'⟩
          simp only [hs, hs'] at h hdev hkept hkept' ⊢
          obtain rfl : _ = scan := hdev.result
          cases e? with
          | some e => exact ⟨rfl, hdev.pool, congrArg (fun ls => _ :: (ls ++ [])) hdev.looks⟩
          | none =>
              have hrest := ih (index + 1) (h.after (fun l hl =>
                List.mem_cons_of_mem _ (List.mem_append_right _ hl)) hdev.pool hkept hkept')
              refine ⟨?_, hrest.pool, ?_⟩
              · exact congrArg (fun rest : Scan δ => Scan.mk (found ++ rest.found) rest.error?)
                  hrest.result
              · exact congrArg₂ (fun ls ls' => Look.deviceDescriptor device :: (ls ++ ls'))
                  hdev.looks hrest.looks

/-- A walk goes by the list of devices and by the answers to its looks, and by nothing else that
the native layer tells: where these are the same, so are its result, the pool that it leaves and
the looks themselves. -/
theorem walk_of_looks {filter : Filter}
    (hlist : (Platform.devices m.platform).1 = (Platform.devices m'.platform).1)
    (h : m.Agree m' (m.lookWalk filter)) :
    SameWalk (m.walk filter) (m'.walk filter) (m.lookWalk filter) (m'.lookWalk filter) := by
  have hsteady : ∀ (p : σ) (l : Look δ), l.Alike (Platform.devices p).2 p := fun p _ =>
    Look.alike_of_readings (SteadyReadings.devices p) (SteadyLooks.same_devices p)
  have hkept := hsteady m.platform
  have hkept' := hsteady m'.platform
  rw [lookWalk, native_eq] at h
  rw [Manager.walk, Manager.walk, lookWalk, lookWalk, native_eq, native_eq]
  rcases hd : Platform.devices m.platform with ⟨listed, p⟩
  rcases hd' : Platform.devices m'.platform with ⟨listed', p'⟩
  rw [hd] at h hkept hlist
  rw [hd'] at hkept' hlist
  obtain rfl : listed = listed' := hlist
  cases listed with
  | error e => exact ⟨rfl, h.pool, rfl⟩
  | ok devices =>
      have hlisted : Agree { m with platform := p } { m' with platform := p' } _ :=
        h.after (List.Subset.refl _) h.pool hkept hkept'
      have hscan := hlisted.scanDevices 0 devices
      exact ⟨hscan.result, hscan.pool, hscan.looks⟩

end Steady

end Manager

end UsbPipe
