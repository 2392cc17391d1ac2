/-
The device instances that a manager on the bench knows.

An instance is known while it is plugged in or in the pool.  Serials tell attachments apart,
so that a pool that compares serials never takes one instance for another.  No operation
of a manager makes an instance known that was not known before.

* `Manager.instances`, `Manager.Identified`: what is known, and that serials identify it.
* `Manager.Within`: a manager that knows nothing new, with the same devices plugged in.
* `Within.walk`, `Within.openWith`, `Within.dropChannel`, `Within.exchangeWith`: every
  operation stays within the manager it started from.
* `Found.ReadFrom`: a record that was read off the attached device that its hold is on.
* `Identified.walk`, `Identified.resolve`: so is every record of a walk and of a rescan.
-/
import UsbPipe.Proofs.Command.Balance

namespace UsbPipe

open Usb

/-! ### What is plugged in -/

/-- The devices that are plugged in, and the serial of the last one that was. -/
def Bench.plugged (b : Bench) : List Instance × ℕ := (b.attached, b.lastSerial)

namespace Pool

variable {δ : Type} {p : Pool δ}

/-- A hold given back brings no device into the pool. -/
lemma device_of_mem_release {h : Hold δ} {s : Record δ} (hs : s ∈ (p.release h).pool.records) :
    ∃ r ∈ p.records, r.device = s.device := by
  rw [release] at hs
  cases hf : p.find? h.id with
  | none =>
      rw [hf] at hs
      exact ⟨s, hs, rfl⟩
  | some r =>
      simp only [hf] at hs
      split_ifs at hs
      · exact ⟨s, (List.mem_filter.mp hs).1, rfl⟩
      · obtain ⟨t, ht, rfl⟩ := mem_update.mp hs
        exact ⟨t, ht, by by_cases hid : t.id = r.id <;> simp [hid, Record.shrink]⟩

/-- A hold taken is on the device it was asked for, or on one in the pool that was found to
be the same. -/
lemma device_retain (same : δ → δ → Bool) (key : DeviceKey) (device : δ) :
    (p.retain same key device).hold.device = device ∨
      ∃ r ∈ p.records, same r.device device = true ∧
        (p.retain same key device).hold.device = r.device := by
  cases h : (p.currentRecord? key).filter (fun r => same r.device device) with
  | some r =>
      obtain ⟨hcur, hsame⟩ := Option.filter_eq_some_iff.mp h
      obtain ⟨id, -, hr⟩ := Option.bind_eq_some_iff.mp hcur
      exact Or.inr ⟨r, List.mem_of_find?_eq_some hr, hsame, by rw [retain, h]⟩
  | none => exact Or.inl (by rw [retain, h])

/-- A hold taken brings at most its device into the pool. -/
lemma device_of_mem_retain {same : δ → δ → Bool} {key : DeviceKey} {device : δ} {s : Record δ}
    (hs : s ∈ (p.retain same key device).pool.records) :
    s.device = device ∨ ∃ r ∈ p.records, r.device = s.device := by
  cases h : (p.currentRecord? key).filter (fun r => same r.device device) with
  | some r =>
      rw [retain, h] at hs
      obtain ⟨t, ht, rfl⟩ := mem_update.mp hs
      exact Or.inr ⟨t, ht, by by_cases hid : t.id = r.id <;> simp [hid, Record.grow]⟩
  | none =>
      rw [retain, h] at hs
      rcases List.mem_append.mp hs with hs | hs
      · exact Or.inr ⟨s, hs, rfl⟩
      · exact Or.inl (by rw [List.mem_singleton.mp hs])

end Pool

namespace Manager

variable {m m' m'' : Manager Bench Instance DeviceKey}

/-! ### Known instances -/

/-- The instances that are plugged in or in the pool. -/
def instances (m : Manager Bench Instance DeviceKey) : List Instance :=
  m.platform.attached ++ m.pool.records.map Pool.Record.device

/-- Serials were given out, and tell the known instances apart. -/
structure Identified (m : Manager Bench Instance DeviceKey) : Prop where
  serial_le : ∀ i ∈ m.instances, i.serial ≤ m.platform.lastSerial
  eq_of_serial : ∀ i ∈ m.instances, ∀ j ∈ m.instances, i.serial = j.serial → i = j

/-- The same devices are plugged in as in the manager `m`, and each device in the pool is
one that `m` knows. -/
structure Within (m' m : Manager Bench Instance DeviceKey) : Prop where
  plugged : m'.platform.plugged = m.platform.plugged
  devices : ∀ r ∈ m'.pool.records, r.device ∈ m.instances

lemma mem_instances_of_attached {i : Instance} (h : i ∈ m.platform.attached) : i ∈ m.instances :=
  List.mem_append_left _ h

lemma mem_instances_of_record {r : Pool.Record Instance} (h : r ∈ m.pool.records) :
    r.device ∈ m.instances :=
  List.mem_append_right _ (List.mem_map_of_mem h)

namespace Within

/-- An operation that leaves the pool alone. -/
lemma of_pool (hplug : m'.platform.plugged = m.platform.plugged) (hpool : m'.pool = m.pool) :
    m'.Within m where
  plugged := hplug
  devices := fun _ hr => mem_instances_of_record (hpool ▸ hr)

lemma refl (m : Manager Bench Instance DeviceKey) : m.Within m := of_pool rfl rfl

lemma attached_eq (h : m'.Within m) : m'.platform.attached = m.platform.attached :=
  congrArg Prod.fst h.plugged

lemma instances_subset (h : m'.Within m) : m'.instances ⊆ m.instances := by
  intro i hi
  rcases List.mem_append.mp hi with hi | hi
  · exact mem_instances_of_attached (h.attached_eq ▸ hi)
  · obtain ⟨r, hr, rfl⟩ := List.mem_map.mp hi
    exact h.devices r hr

lemma trans (h : m''.Within m') (h' : m'.Within m) : m''.Within m where
  plugged := h.plugged.trans h'.plugged
  devices := fun r hr => h'.instances_subset (h.devices r hr)

/-- One more that does. -/
lemma keep (h : m'.Within m) (hplug : m''.platform.plugged = m'.platform.plugged)
    (hpool : m''.pool = m'.pool) : m''.Within m :=
  (of_pool hplug hpool).trans h

/-- An operation that leaves bystanders and accounts alone. -/
lemma of_accounts (hby : m'.bystanders = m.bystanders) (ha : m'.accounts = m.accounts) :
    m'.Within m :=
  of_pool (congrArg (·.platform.plugged) hby) (congrArg (·.pool) ha)

lemma log (m : Manager Bench Instance DeviceKey) (level : Level) (text : String) :
    (m.log level text).Within m := of_pool rfl rfl

end Within

/-- Serials still identify what is left. -/
lemma Identified.within (h : m.Identified) (hw : m'.Within m) : m'.Identified where
  serial_le := fun i hi => by
    have hlast : m'.platform.lastSerial = m.platform.lastSerial := congrArg Prod.snd hw.plugged
    rw [hlast]
    exact h.serial_le i (hw.instances_subset hi)
  eq_of_serial := fun i hi j hj =>
    h.eq_of_serial i (hw.instances_subset hi) j (hw.instances_subset hj)

/-! ### Holds and scans -/

namespace Within

lemma frame (m₀ : Manager Bench Instance DeviceKey) :
    Frame fun m : Manager Bench Instance DeviceKey => m.Within m₀ :=
  ⟨fun m level text h => (log m level text).trans h⟩

lemma retain (key : DeviceKey) {i : Instance} (hi : i ∈ m.platform.attached) :
    (m.retain key i).2.Within m where
  plugged := congrArg (·.platform.plugged) (settled_retain key i)
  devices := fun s hs => by
    rw [retain_pool] at hs
    rcases Pool.device_of_mem_retain hs with hdev | ⟨r, hr, hdev⟩
    · exact hdev ▸ mem_instances_of_attached hi
    · exact hdev ▸ mem_instances_of_record hr

lemma release (m : Manager Bench Instance DeviceKey) (x : Hold Instance) :
    (m.release x).Within m where
  plugged := congrArg (·.platform.plugged) (settled_release x)
  devices := fun s hs => by
    rw [release_pool] at hs
    obtain ⟨r, hr, hdev⟩ := Pool.device_of_mem_release hs
    exact hdev ▸ mem_instances_of_record hr

lemma ready (m : Manager Bench Instance DeviceKey) : m.ready.2.Within m :=
  of_accounts bystanders_ready accounts_ready

lemma takeDevices (m : Manager Bench Instance DeviceKey) (is : List Instance) :
    (takeDevices is m).Within m :=
  of_pool (congrArg (·.platform.plugged) (settled_takeDevices is)) rfl

end Within

/-- A device as a scan knows it once its descriptor has been read. -/
def candidateOf (i : Instance) : Candidate Instance :=
  ⟨i, i.spec.descriptor, i.spec.key, i.spec.port, i.spec.speed⟩

/-- The bench reads a device as it is, or not at all. -/
lemma candidateOf_eq {i : Instance} {desc : DeviceDescriptor}
    (h : Platform.deviceDescriptor m.platform i = .ok desc) :
    (⟨i, desc, Platform.key m.platform i, Platform.port m.platform i,
      Platform.speed m.platform i⟩ : Candidate Instance) = candidateOf i := by
  have hdesc : desc = i.spec.descriptor := by
    simp only [Platform.deviceDescriptor, Bench.deviceDescriptor] at h
    cases hf : m.platform.failures.descriptor.lookup i.spec.key with
    | some e => simp [hf] at h
    | none => simpa [hf, eq_comm] using h
  rw [hdesc]
  rfl

/-- A setting that a device shows is in one of its configurations. -/
lemma shown_configs {i : Instance} {alt : AltSetting} (h : (candidateOf i).Shows Bench alt) :
    ∃ c ∈ i.spec.configs, alt ∈ c.altSettings := by
  obtain ⟨b, config, desc, hread, halt⟩ := h
  simp only [Platform.configDescriptor, Bench.configDescriptor, candidateOf] at hread
  refine ⟨desc, ?_, halt⟩
  cases hf : b.failures.config.lookup i.spec.key with
  | some e => simp [hf] at hread
  | none =>
      cases hget : i.spec.configs[config]? with
      | none => simp [hf, hget] at hread
      | some c =>
          obtain rfl : c = desc := by simpa [hf, hget] using hread
          exact List.mem_of_getElem? hget

/-- A scan of attached devices stays within the manager it started from. -/
lemma within_invariant (m₀ : Manager Bench Instance DeviceKey) :
    ScanInvariant (fun c => ∃ i ∈ m₀.platform.attached, c = candidateOf i)
      fun _ m => m.Within m₀ where
  log := fun _ m level text h => (Within.log m level text).trans h
  record := by
    rintro fs m c alt info ⟨i, hi, rfl⟩ - - h
    have hlog := (Within.log m .debug ("Matched " ++ info.display)).trans h
    exact (Within.retain i.spec.key (hlog.attached_eq ▸ hi)).trans hlog

lemma Within.walk (m : Manager Bench Instance DeviceKey) (filter : Filter) :
    (m.walk filter).2.Within m := by
  rw [Manager.walk, native_devices]
  cases m.platform.failures.listing with
  | some e => exact log m _ _
  | none =>
      have hscan := (within_invariant m).devices filter m.platform.attached
        (fun i hi _ _ hdesc => ⟨i, hi, candidateOf_eq hdesc⟩) 0 (F := [])
        (takeDevices m m.platform.attached)
      exact (log _ _ _).trans (Frame.dropDevices (P := fun m₁ => m₁.Within m)
        (fun _ _ h => h.keep rfl rfl) hscan m.platform.attached)

/-! ### Everything else -/

namespace Within

/-- Every operation up to a claim stays within the manager it started from. -/
lemma opening (m₀ : Manager Bench Instance DeviceKey) :
    Frame.Opening fun m : Manager Bench Instance DeviceKey => m.Within m₀ where
  toFrame := frame m₀
  release m x h := (release m x).trans h
  ready m h := (ready m).trans h
  walk m filter h := (walk m filter).trans h
  autoDetach _ _ h := h.keep rfl rfl
  detach _ _ _ h := h.keep rfl rfl
  claim m handle interface h := by
    obtain ⟨claimed, hclaim⟩ := native_claim m handle interface
    rw [hclaim]
    exact h.keep rfl rfl
  yield _ _ _ h := h.keep rfl rfl
  closeHandle _ _ h := h.keep rfl rfl
  openDevice m i h := by
    rcases native_openDevice (m := m) i with ⟨e, ho⟩ | ho <;> rw [ho]
    · exact h
    · exact h.keep rfl rfl

/-- So do closes. -/
lemma closing (m₀ : Manager Bench Instance DeviceKey) :
    Frame.Closing fun m : Manager Bench Instance DeviceKey => m.Within m₀ where
  toYielding := (opening m₀).toYielding
  empty _ _ h := h.keep rfl rfl
  deregister _ _ h := h.keep rfl rfl
  forget _ _ h := h.keep rfl rfl

lemma discard (m : Manager Bench Instance DeviceKey) (fs : List (Found Instance)) :
    (m.discard fs).Within m := (opening m).discard (refl m) fs

lemma scan (m : Manager Bench Instance DeviceKey) (filter : Filter) :
    (m.scan filter).2.Within m := (opening m).scan (refl m) filter

lemma enumerate (m : Manager Bench Instance DeviceKey) (filter : Filter) :
    (m.enumerate filter).2.Within m := (opening m).enumerate (refl m) filter

lemma resolve (m : Manager Bench Instance DeviceKey) (info : RawInterface) :
    (m.resolve info).2.Within m := (opening m).resolve (walk m (idsOf info))

lemma openWith {meanwhile : Manager Bench Instance DeviceKey → Manager Bench Instance DeviceKey}
    (hm : ∀ m, (meanwhile m).Within m) (m : Manager Bench Instance DeviceKey)
    (info : RawInterface) : (m.openWith meanwhile info).2.Within m :=
  (opening m).openWith (fun m₁ h => (hm m₁).trans h) (fun _ _ h => h.keep rfl rfl)
    (refl m) info

lemma dropChannel (m : Manager Bench Instance DeviceKey) (id : ℕ) :
    (m.dropChannel id).Within m := (closing m).dropChannel (refl m) id

lemma beginShutdown (m : Manager Bench Instance DeviceKey) : m.beginShutdown.Within m :=
  of_accounts bystanders_beginShutdown accounts_beginShutdown

lemma teardown (m : Manager Bench Instance DeviceKey) : m.teardown.Within m :=
  of_accounts bystanders_teardown accounts_teardown

lemma shutdownNow (m : Manager Bench Instance DeviceKey) : m.shutdownNow.2.Within m :=
  of_accounts bystanders_shutdownNow accounts_shutdownNow

lemma of_onlyShutdown
    {meanwhile : Manager Bench Instance DeviceKey → Manager Bench Instance DeviceKey}
    (hm : OnlyShutdown meanwhile) (m : Manager Bench Instance DeviceKey) :
    (meanwhile m).Within m :=
  of_accounts (hm.bystanders_eq m) (hm.accounts_eq m)

lemma write (m : Manager Bench Instance DeviceKey) (id : ℕ) (data : Bytes) :
    (m.write id data).2.Within m :=
  (frame m).write (refl m) (fun _ _ _ _ => .of_pool rfl rfl) id

lemma receive (m : Manager Bench Instance DeviceKey) (id limit : ℕ) :
    (m.receive id limit).2.Within m := by
  refine (frame m).receive (refl m) (fun handle kind endpoint t => ?_) id
  obtain ⟨log, queues, hread⟩ := native_read m handle kind endpoint limit t
  rw [hread]
  exact of_pool rfl rfl

lemma close (m : Manager Bench Instance DeviceKey) (id : ℕ) : (m.close id).2.Within m :=
  (closing m).close (refl m) id

lemma listInterfaces (m : Manager Bench Instance DeviceKey) (filter : Filter) (json : Bool)
    (out : Sink) : (m.listInterfaces filter json out).manager.Within m :=
  (opening m).listInterfaces (enumerate m filter) json out

lemma exchangeWith {meanwhile : Manager Bench Instance DeviceKey → Manager Bench Instance DeviceKey}
    (hm : ∀ m, (meanwhile m).Within m) (m : Manager Bench Instance DeviceKey)
    (r : Request) (out : Sink) : (m.exchangeWith meanwhile r out).manager.Within m := by
  have henum := enumerate m r.filter
  rw [Manager.exchangeWith]
  rcases he : m.enumerate r.filter with ⟨_ | found, m₁⟩ <;> rw [he] at henum
  · exact henum
  · simp only
    cases found.find? r.wants with
    | none => exact (discard m₁ found).trans henum
    | some target =>
        have hopen := (openWith hm m₁ target.info).trans henum
        simp only
        rcases ho : m₁.openWith meanwhile target.info with ⟨_ | c, m₂⟩ <;> rw [ho] at hopen
        · exact (discard m₂ found).trans hopen
        · have hset : (((m₂.discard found).setReadTimeout c.id r.readTimeout).setWriteTimeout c.id
              r.writeTimeout).Within (m₂.discard found) := of_pool rfl rfl
          have hconverse := (frame m).converse
            ((write _ c.id r.payload).trans (hset.trans ((discard m₂ found).trans hopen)))
            (fun m₃ limit h => (receive m₃ c.id limit).trans h)
            (fun m₃ h => (close m₃ c.id).trans h) out
          exact (dropChannel _ c.id).trans hconverse

end Within

end Manager

/-! ### Records and their devices -/

/-- The record was read off a device that is plugged in, off an alternate setting in one of its
own configurations, and its hold is on that device. -/
structure Found.ReadFrom (f : Found Instance) (b : Bench) : Prop where
  attached : f.hold.device ∈ b.attached
  read : ∃ c ∈ f.hold.device.spec.configs, ∃ alt ∈ c.altSettings,
    (Manager.candidateOf f.hold.device).rawInterface? alt = some f.info

/-- What the record tells about the device is told by the device of its hold. -/
lemma Found.ReadFrom.describes {f : Found Instance} {b : Bench} (h : f.ReadFrom b) :
    f.info.key = f.hold.device.spec.key ∧
      f.info.vendorId = f.hold.device.spec.descriptor.vendorId ∧
      f.info.productId = f.hold.device.spec.descriptor.productId ∧
      f.info.port = f.hold.device.spec.port ∧ f.info.speed = f.hold.device.spec.speed := by
  obtain ⟨_, -, alt, -, hinfo⟩ := h.read
  rw [Candidate.rawInterface?] at hinfo
  split_ifs at hinfo
  obtain ⟨pair, -, hpair⟩ := Option.map_eq_some_iff.mp hinfo
  rw [← hpair]
  exact ⟨rfl, rfl, rfl, rfl, rfl⟩

namespace Manager

variable {m m' : Manager Bench Instance DeviceKey} {f : Found Instance}

/-- Where serials identify the known instances, a hold is on the very device that it was
asked for. -/
lemma Identified.device_retain (h : m.Identified) (key : DeviceKey) {i : Instance}
    (hi : i ∈ m.platform.attached) : (m.retain key i).1.device = i := by
  rw [retain_fst]
  rcases Pool.device_retain (p := m.pool) (Platform.same m.platform) key i with
    hdev | ⟨r, hr, hsame, hdev⟩
  · exact hdev
  · have hserial : r.device.serial = i.serial := beq_iff_eq.mp hsame
    rw [hdev]
    exact h.eq_of_serial _ (mem_instances_of_record hr) i (mem_instances_of_attached hi) hserial

/-- So the hold of a record is on the device that the record is of. -/
lemma Identified.device_recordMatch (h : m.Identified) (hm : m'.Within m) {i : Instance}
    (hi : i ∈ m.platform.attached) (info : RawInterface) :
    (m'.recordMatch (candidateOf i) info).1.hold.device = i := by
  have hlog := (Within.log m' .debug ("Matched " ++ info.display)).trans hm
  exact (h.within hlog).device_retain i.spec.key (hlog.attached_eq ▸ hi)

/-- While a scan runs, every record found so far was read off the device of its hold. -/
lemma Identified.read_invariant (h : m.Identified) :
    ScanInvariant (fun c => ∃ i ∈ m.platform.attached, c = candidateOf i)
      fun fs m' => m'.Within m ∧ ∀ f ∈ fs, f.ReadFrom m.platform where
  log := fun fs m' level text hm => ⟨(within_invariant m).log fs m' level text hm.1, hm.2⟩
  record := by
    rintro fs m' c alt info hc hshows hinfo ⟨hm, hread⟩
    refine ⟨(within_invariant m).record fs m' c alt info hc hshows hinfo hm, fun f hf => ?_⟩
    rcases List.mem_append.mp hf with hf | hf
    · exact hread f hf
    · obtain ⟨i, hi, rfl⟩ := hc
      have hdev := h.device_recordMatch hm hi info
      obtain ⟨config, hconfig, halt⟩ := shown_configs hshows
      rw [List.mem_singleton.mp hf]
      refine ⟨?_, config, ?_, alt, halt, ?_⟩ <;> rw [hdev]
      · exact hi
      · exact hconfig
      · exact hinfo

namespace Identified

lemma walk (h : m.Identified) (filter : Filter) :
    ∀ f ∈ (m.walk filter).1.found, f.ReadFrom m.platform := by
  rw [Manager.walk, native_devices]
  cases m.platform.failures.listing with
  | some e => simp
  | none =>
      exact (h.read_invariant.devices filter m.platform.attached
        (fun i hi _ _ hdesc => ⟨i, hi, candidateOf_eq hdesc⟩) 0 (F := [])
        ⟨.takeDevices m _, by simp⟩).2

lemma scan (h : m.Identified) (filter : Filter) :
    ∀ f ∈ (m.scan filter).1.found, f.ReadFrom m.platform := by
  have hready := Within.ready m
  rw [Manager.scan]
  rcases hr : m.ready with ⟨_ | ⟨⟩, m₁⟩ <;> rw [hr] at hready
  · simp
  · intro f hf
    have hread := (h.within hready).walk filter f hf
    exact ⟨hready.attached_eq ▸ hread.attached, hread.read⟩

lemma enumerate (h : m.Identified) {filter : Filter} {found : List (Found Instance)}
    (he : m.enumerate filter = (.ok found, m')) : ∀ f ∈ found, f.ReadFrom m.platform := by
  have hscan := h.scan filter
  rw [Manager.enumerate] at he
  rcases hs : m.scan filter with ⟨⟨found', _ | e⟩, m₁⟩ <;> rw [hs] at he hscan
  · cases he
    exact hscan
  · cases he

/-- The record that a rescan resolves to was read off the device of its hold. -/
lemma resolve (h : m.Identified) {info : RawInterface} (hf : (m.resolve info).1 = .ok f) :
    f.ReadFrom m.platform := by
  have hwalk := h.walk (idsOf info)
  rw [Manager.resolve] at hf
  rcases hw : m.walk (idsOf info) with ⟨⟨found, e?⟩, m₁⟩
  rw [hw] at hf hwalk
  cases e? with
  | some e => cases hf
  | none =>
      have hfst := select_fst (m := m₁) info found
      simp only [Manager.complete] at hf
      rcases hs : Manager.select info found m₁ with ⟨_ | g, m₂⟩ <;> rw [hs] at hf hfst
      · cases hf
      · cases hf
        exact hwalk f (List.mem_of_find?_eq_some hfst.symm)

end Identified

end Manager

end UsbPipe
