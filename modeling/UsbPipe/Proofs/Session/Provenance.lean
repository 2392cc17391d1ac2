/-
Where the records of a session come from, and what its opens open.

Keys are reused: a device may be unplugged and another one attached in its place, and
several devices may share a key.  All the same each record that is kept has its hold on the
device it was read off, and an open opens a device that is plugged in.

* `Session.Leads`: a session that keeps no record but old ones and found ones, and knows no
  new device; `BenchSession.step_cases`: every step but plugging leads to such a session.
* `BenchSession.finds`: the records that a step finds.
* `identified_run`: serials identify the known instances after every run.
* `records_run`: every record that is kept was found by a step of the run.
* `run_provenance`: the devices of records, and the devices that opens open.
-/
import UsbPipe.Proofs.Manager.Reasons
import UsbPipe.Proofs.Pool.Holding
import UsbPipe.Proofs.Session.Balance

namespace UsbPipe

open Usb Manager

namespace Session

variable {s s' s'' : Session Bench Instance DeviceKey} {fs found : List (Found Instance)}

/-! ### Records and managers -/

/-- The session `s'` keeps no record but those of `s` and those of `fs`, and its manager is
within that of `s`. -/
structure Leads (s : Session Bench Instance DeviceKey) (fs : List (Found Instance))
    (s' : Session Bench Instance DeviceKey) : Prop where
  records : ∀ f ∈ s'.records, f ∈ s.records ∨ f ∈ fs
  within : s'.manager.Within s.manager

namespace Leads

/-- Another manager within that of the session. -/
lemma withManager {m : Manager Bench Instance DeviceKey} (h : m.Within s.manager) :
    s.Leads fs (s.withManager m) :=
  ⟨fun _ hf => Or.inl hf, h⟩

lemma refl (s : Session Bench Instance DeviceKey) : s.Leads fs s := withManager (Within.refl _)

lemma trans (h : s.Leads fs s') (h' : s'.Leads fs s'') : s.Leads fs s'' where
  records := fun f hf => (h'.records f hf).elim (h.records f) Or.inr
  within := h'.within.trans h.within

lemma dropSet (s : Session Bench Instance DeviceKey) (set : String) :
    s.Leads fs (s.dropSet set).2 := by
  rw [Session.dropSet]
  cases s.sets.lookup set with
  | none => exact refl s
  | some slots =>
      refine ⟨fun f hf => Or.inl ?_, Within.discard _ _⟩
      obtain ⟨e, he, hfe⟩ := List.mem_flatMap.mp hf
      exact List.mem_flatMap.mpr ⟨e, (List.mem_filter.mp he).1, hfe⟩

/-- Records that are kept under a name come to those that stay. -/
lemma keepSet (s : Session Bench Instance DeviceKey) (set : String) :
    s.Leads found (s.keepSet set found) := by
  have hdrop : s.Leads found (s.dropSet set).2 := dropSet s set
  refine ⟨fun f hf => ?_, hdrop.within⟩
  obtain ⟨e, he, hfe⟩ := List.mem_flatMap.mp hf
  rcases List.mem_append.mp he with he | he
  · exact hdrop.records f (List.mem_flatMap.mpr ⟨e, he, hfe⟩)
  · rw [List.mem_singleton.mp he] at hfe
    exact Or.inr (by simpa using hfe)

lemma keepOrDiscard (s : Session Bench Instance DeviceKey) (set? : Option String) :
    s.Leads found (s.keepOrDiscard set? found) := by
  cases set? with
  | some set => exact keepSet s set
  | none => exact withManager (Within.discard _ _)

lemma releaseSlot (s : Session Bench Instance DeviceKey) (set : String) (index : ℕ)
    (f : Found Instance) : s.Leads fs (s.releaseSlot set index f) := by
  refine ⟨fun g hg => Or.inl ?_, Within.release _ _⟩
  obtain ⟨e, he, hge⟩ := List.mem_flatMap.mp hg
  obtain ⟨⟨name, slots⟩, hmem, rfl⟩ := List.mem_map.mp he
  refine List.mem_flatMap.mpr ⟨(name, slots), hmem, ?_⟩
  simp only at hge
  split_ifs at hge
  · -- a slot that is emptied holds no record
    obtain ⟨slot, hslot, hid⟩ := List.mem_filterMap.mp hge
    rcases List.mem_or_eq_of_mem_set hslot with hslot | rfl
    · exact List.mem_filterMap.mpr ⟨slot, hslot, hid⟩
    · cases hid
  · exact hge

lemma dropChannel (s : Session Bench Instance DeviceKey) (name : String) :
    s.Leads fs (s.dropChannel name).2 := by
  rw [Session.dropChannel]
  cases s.channels.lookup name with
  | none => exact refl s
  | some id => exact ⟨fun _ hf => Or.inl hf, Within.dropChannel _ _⟩

lemma keepChannel (s : Session Bench Instance DeviceKey) (name : String) (c : Opened) :
    s.Leads fs (s.keepChannel name c) := by
  have hdrop : s.Leads fs (s.dropChannel name).2 := dropChannel s name
  exact ⟨hdrop.records, hdrop.within⟩

lemma dropChannels (s : Session Bench Instance DeviceKey) (names : List String) :
    s.Leads fs (s.dropChannels names) := by
  induction names generalizing s with
  | nil => exact refl s
  | cons name names ih => exact (dropChannel s name).trans (ih _)

end Leads

end Session

namespace BenchSession

variable {s : BenchSession} {fs : List (Found Instance)}

/-! ### Steps -/

/-- The records that a step finds. -/
def finds (s : BenchSession) : Step → List (Found Instance)
  | .scan filter _ => (s.manager.scan filter).1.found
  | .enumerate filter _ =>
    match (s.manager.enumerate filter).1 with
    | .ok found => found
    | .error _ => []
  | _ => []

/-- The session leads to another one. -/
def Leads (s : BenchSession) (fs : List (Found Instance)) (s' : BenchSession) : Prop :=
  s.toSession.Leads fs s'.toSession

namespace Leads

/-- A step whose outcome is another manager. -/
lemma setManager {m : Manager Bench Instance DeviceKey} (h : m.Within s.manager) :
    s.Leads fs (s.setManager m) := Session.Leads.withManager h

lemma refl (s : BenchSession) : s.Leads fs s := Session.Leads.refl _

lemma silenced (s : BenchSession) : s.Leads fs s.silenced := setManager (.of_pool rfl rfl)

lemma openAs (s : BenchSession) (info : RawInterface) (name : String) :
    s.Leads fs (s.openAs info name).2 := by
  have hopen := Within.openWith (Within.of_onlyShutdown s.meanwhile_onlyShutdown) s.manager info
  rw [BenchSession.openAs]
  rcases ho : s.manager.openWith s.meanwhile info with ⟨_ | c, m₁⟩ <;> rw [ho] at hopen
  · exact setManager hopen
  · exact Session.Leads.trans (setManager hopen) (Session.Leads.keepChannel _ name c)

lemma shutdownDropping (s : BenchSession) (dropping : List String) :
    s.Leads fs (s.shutdownDropping dropping).2 :=
  keeps_shutdownDropping (refl s)
    (fun s' names h => h.trans (Session.Leads.dropChannels s'.toSession names))
    (fun _ h => h.trans (setManager (Within.beginShutdown _)))
    (fun _ h => h.trans (setManager (Within.teardown _))) (fun _ h => h.trans (silenced _)) dropping

end Leads

/-- A step that does not plug leads to a session that knows no new device and keeps no
record but old ones and those it found. -/
lemma leads_step (s : BenchSession) {step : Step} (hattach : ∀ spec, step ≠ .attach spec)
    (hunplug : ∀ key, step ≠ .unplug key) : s.Leads (s.finds step) (s.step step).2 := by
  cases step with
  | attach spec => exact absurd rfl (hattach spec)
  | unplug key => exact absurd rfl (hunplug key)
  | fail fault => exact .setManager (.of_pool rfl rfl)
  | script pipe behaviour => exact .setManager (.of_pool rfl rfl)
  | pushRead pipe chunk => exact .setManager (.of_pool rfl rfl)
  | scan filter keep? =>
      have hscan : s.Leads (s.finds (.scan filter keep?))
          (s.setManager (s.manager.scan filter).2) := .setManager (Within.scan s.manager filter)
      exact Session.Leads.trans hscan (Session.Leads.keepOrDiscard _ keep?)
  | enumerate filter keep? =>
      have henum := Within.enumerate s.manager filter
      rw [BenchSession.step, finds]
      rcases he : s.manager.enumerate filter with ⟨_ | found, m₁⟩ <;> rw [he] at henum
      · exact .setManager henum
      · exact Session.Leads.trans (Leads.setManager henum) (Session.Leads.keepOrDiscard _ keep?)
  | enumerateAtOnce count filter =>
      have hturns := (Within.opening s.manager).toScanning.enumerateTurns (.refl _) filter count
      exact Session.Leads.trans (Leads.setManager hturns) (Leads.silenced _)
  | showHold slot => exact keeps_onSlot (.refl s) fun _ _ => .refl s
  | sameDevice a b =>
      exact keeps_onSlot (.refl s) fun _ _ => keeps_onSlot (.refl s) fun _ _ => .refl s
  | nativeOpen slot =>
      refine keeps_onSlot (.refl s) fun f _ => ?_
      rcases native_openDevice (m := s.manager) f.hold.device with ⟨e, ho⟩ | ho
      · rw [ho]
        exact .refl s
      · rw [ho]
        exact .setManager (.of_pool rfl rfl)
  | release slot =>
      exact keeps_onSlot (.refl s) fun f _ =>
        Session.Leads.releaseSlot s.toSession slot.set _ f
  | dropSet set => exact Session.Leads.dropSet s.toSession set
  | refs key => exact .refl s
  | claimed key interface => exact .refl s
  | «open» info name => exact .openAs s info name
  | openSlot slot change name =>
      exact keeps_onSlot (.refl s) fun f _ => .openAs s (change f.info) name
  | write name data =>
      exact keeps_write (.refl s) fun id => .setManager (Within.write s.manager id data)
  | watchedWrite name data =>
      exact keeps_watchedWrite (.refl s) fun id => .setManager (Within.write s.manager id data)
  | read name length =>
      exact keeps_read (.refl s) fun id limit => .setManager (Within.receive s.manager id limit)
  | setTimeouts name read? write? =>
      refine keeps_onChannel (.refl s) fun c _ => ?_
      cases read? <;> cases write? <;> exact .setManager (.of_pool rfl rfl)
  | close name =>
      exact keeps_onChannel (.refl s) fun c _ => .setManager (Within.close s.manager c.id)
  | showChannel name => exact keeps_onChannel (.refl s) fun _ _ => .refl s
  | dropChannel name => exact Session.Leads.dropChannel s.toSession name
  | shutdownDuringClaim => exact .refl s
  | shutdown dropping => exact .shutdownDropping s dropping
  | shutdownNow => exact .setManager (Within.shutdownNow s.manager)
  | transfers => exact .refl s
  | list filter json limit? =>
      exact .setManager (Within.listInterfaces s.manager filter json _)
  | exchange request limit? =>
      exact .setManager (Within.exchangeWith
        (Within.of_onlyShutdown s.meanwhile_onlyShutdown) s.manager request _)

/-- What a step can do: plug a device in, unplug devices, or lead to a session that knows
no new device and keeps no record but old ones and those it found. -/
theorem step_cases (s : BenchSession) (step : Step) :
    (∃ spec, step = .attach spec) ∨ (∃ key, step = .unplug key) ∨
      s.Leads (s.finds step) (s.step step).2 := by
  by_cases hattach : ∃ spec, step = .attach spec
  · exact Or.inl hattach
  by_cases hunplug : ∃ key, step = .unplug key
  · exact Or.inr (Or.inl hunplug)
  · exact Or.inr (Or.inr (s.leads_step (not_exists.mp hattach) (not_exists.mp hunplug)))

/-! ### Runs -/

/-- Serials identify the known instances after every step: a device that is plugged in gets
a serial of its own. -/
lemma identified_step (h : s.manager.Identified) (step : Step) :
    (s.step step).2.manager.Identified := by
  rcases s.step_cases step with ⟨spec, rfl⟩ | ⟨key, rfl⟩ | hlead
  · set last := s.manager.platform.lastSerial with hlast
    have hmem : ∀ i ∈ (s.step (.attach spec)).2.manager.instances,
        i ∈ s.manager.instances ∨ i = ⟨last + 1, spec⟩ := by
      intro i hi
      rcases List.mem_append.mp hi with hi | hi
      · rcases List.mem_append.mp hi with hi | hi
        · exact Or.inl (mem_instances_of_attached hi)
        · exact Or.inr (List.mem_singleton.mp hi)
      · exact Or.inl (List.mem_append_right _ hi)
    have hnew : ∀ i ∈ s.manager.instances, i.serial ≠ last + 1 := fun i hi => by
      have hle := h.serial_le i hi
      omega
    refine ⟨fun i hi => ?_, fun i hi j hj hij => ?_⟩
    · show i.serial ≤ last + 1
      rcases hmem i hi with hi | rfl
      · exact Nat.le_succ_of_le (h.serial_le i hi)
      · exact Nat.le_refl _
    · rcases hmem i hi with hi | rfl <;> rcases hmem j hj with hj | rfl
      · exact h.eq_of_serial i hi j hj hij
      · exact absurd hij (hnew i hi)
      · exact absurd hij.symm (hnew j hj)
      · rfl
  · have hsub : (s.step (.unplug key)).2.manager.instances ⊆ s.manager.instances := by
      intro i hi
      rcases List.mem_append.mp hi with hi | hi
      · exact mem_instances_of_attached (List.mem_filter.mp hi).1
      · exact List.mem_append_right _ hi
    exact ⟨fun i hi => h.serial_le i (hsub hi),
      fun i hi j hj => h.eq_of_serial i (hsub hi) j (hsub hj)⟩
  · exact h.within hlead.within

/-- Serials identify the known instances after every run. -/
lemma identified_run (steps : List Step) : (fresh.run steps).manager.Identified := by
  have hrun : ∀ s : BenchSession, s.manager.Identified → (s.run steps).manager.Identified := by
    induction steps with
    | nil => exact fun _ h => h
    | cons step steps ih => exact fun s h => ih _ (identified_step h step)
  exact hrun fresh ⟨by simp [fresh, ofPlatform, instances], by simp [fresh, ofPlatform, instances]⟩

/-- A step keeps no record but old ones and those it found. -/
lemma records_step (s : BenchSession) (step : Step) :
    ∀ f ∈ (s.step step).2.records, f ∈ s.records ∨ f ∈ s.finds step := by
  rcases s.step_cases step with ⟨spec, rfl⟩ | ⟨key, rfl⟩ | hlead
  · exact fun f hf => Or.inl hf
  · exact fun f hf => Or.inl hf
  · exact hlead.records

/-- Every record that is kept after a run was kept before it or found by one of its steps. -/
lemma records_run (s : BenchSession) (steps : List Step) :
    ∀ f ∈ (s.run steps).records, f ∈ s.records ∨
      ∃ before step after, steps = before ++ step :: after ∧ f ∈ (s.run before).finds step := by
  induction steps generalizing s with
  | nil => exact fun f hf => Or.inl hf
  | cons step steps ih =>
      intro f hf
      rcases ih (s.step step).2 f hf with hkept | ⟨before, later, after, rfl, hfound⟩
      · rcases s.records_step step f hkept with hold | hfound
        · exact Or.inl hold
        · exact Or.inr ⟨[], step, steps, rfl, hfound⟩
      · exact Or.inr ⟨step :: before, later, after, rfl, hfound⟩

/-- What a step finds it reads off the devices of the holds. -/
lemma readFrom_of_finds (h : s.manager.Identified) (step : Step) :
    ∀ f ∈ s.finds step, f.ReadFrom s.manager.platform := by
  intro f hf
  cases step with
  | scan filter keep? => exact h.scan filter f hf
  | enumerate filter keep? =>
      rw [finds] at hf
      rcases he : s.manager.enumerate filter with ⟨e | found, m₁⟩ <;> rw [he] at hf
      · cases hf
      · exact h.enumerate he f hf
  | _ => cases hf

/-- After any run, the hold of every kept record is on the instance that the record was read
off: one that was plugged in when a step of the run found the record, with the key, the ids,
the port and the speed that the record tells, and still in the pool.  An open goes on to
open the device of its target while that is plugged in; so it reports that there is no
device only if that failure was asked for of the call it is about, and in the case of the
native open only if it was asked for under the key of the target. -/
theorem run_provenance (steps : List Step) :
    let s := fresh.run steps
    (∀ f ∈ s.records,
      (∃ before step after, steps = before ++ step :: after ∧
        f ∈ (fresh.run before).finds step ∧ f.ReadFrom (fresh.run before).manager.platform) ∧
      (f.info.key = f.hold.device.spec.key ∧
        f.info.vendorId = f.hold.device.spec.descriptor.vendorId ∧
        f.info.productId = f.hold.device.spec.descriptor.productId ∧
        f.info.port = f.hold.device.spec.port ∧ f.info.speed = f.hold.device.spec.speed) ∧
      ∃ r, s.manager.pool.find? f.hold.id = some r ∧ r.device = f.hold.device) ∧
    (∀ meanwhile info f, s.manager.target? info = some f →
      let m := (s.manager.ready.2.resolve info).2
      s.manager.acquire meanwhile info = m.claimFound meanwhile f ∧
        m.platform.isAttached f.hold.device = true) ∧
    (∀ meanwhile info e m', s.manager.openWith meanwhile info = (.error e, m') →
      e.source? = some .noDevice →
      .noDevice ∈ s.manager.platform.failures.behind e ∧
        (e = .openDevice .noDevice → ∃ f, s.manager.target? info = some f ∧
          s.manager.platform.failures.openDevice.lookup f.info.key = some .noDevice)) := by
  intro s
  have hident : s.manager.Identified := identified_run steps
  refine ⟨fun f hf => ?_, fun meanwhile info f hf => ?_, fun meanwhile info e m' ho hsource => ?_⟩
  · rcases fresh.records_run steps f hf with hnone | ⟨before, step, after, hsteps, hfound⟩
    · simp [fresh, Session.records] at hnone
    · have hread := readFrom_of_finds (identified_run before) step f hfound
      have hsound : s.toSession.Sound [] [] := sound_run steps
      have hheld : f.hold ∈ s.records.map Found.hold ++ s.manager.channelHolds :=
        List.mem_append_left _ (List.mem_map_of_mem hf)
      obtain ⟨r, hr, -, hdev⟩ := hsound.balanced.stocked.backs.find?_hold hheld
      exact ⟨⟨before, step, after, hsteps, hfound, hread⟩, hread.describes, r, hr, hdev⟩
  · have hread := hident.readFrom_of_target hf
    exact ⟨acquire_of_target hf, List.any_eq_true.mpr ⟨_, hread.attached, beq_self_eq_true _⟩⟩
  · obtain ⟨hall, hopen⟩ := openWith_error_reason hident (congrArg Prod.fst ho) hsource
    exact ⟨hall.resolve_right (by decide), hopen⟩

end BenchSession

end UsbPipe
