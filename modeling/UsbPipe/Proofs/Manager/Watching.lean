/-
Watching changes nothing.

A watched native layer answers as the layer does, so that a manager does the same on it as on
the layer itself, and what happens to the manager meanwhile may be anything that happens
without watching.

* `Manager.unwatched`, `Manager.watched`: a manager without, and with, the notes of its calls.
* `aside`: what happens to a manager, on a watched layer; it is not noted.
* `unwatch_walk`, `unwatch_resolve`, `unwatch_claimFound`: the parts of an open.
* `unwatch_openWith`: a watched open is an open.
-/
import UsbPipe.Proofs.Threads.Calls

namespace UsbPipe

open Usb

namespace Manager

variable {σ δ η : Type} {α : Type}

/-- The manager without the notes of its calls. -/
def unwatched (m : Manager (Watched σ η) δ η) : Manager σ δ η where
  platform := m.platform.layer
  pool := m.pool
  initialized := m.initialized
  shuttingDown := m.shuttingDown
  registered := m.registered
  lastId := m.lastId
  channels := m.channels
  events := m.events

/-- The manager with the notes of some calls. -/
def watched (m : Manager σ δ η) (calls : List (Call η)) : Manager (Watched σ η) δ η where
  platform := ⟨m.platform, calls⟩
  pool := m.pool
  initialized := m.initialized
  shuttingDown := m.shuttingDown
  registered := m.registered
  lastId := m.lastId
  channels := m.channels
  events := m.events

/-- A result, with the manager unwatched. -/
def unwatch (r : α × Manager (Watched σ η) δ η) : α × Manager σ δ η := (r.1, r.2.unwatched)

/-- What happens to a manager, without notes of the calls that it makes. -/
def aside (f : Manager σ δ η → Manager σ δ η) (m : Manager (Watched σ η) δ η) :
    Manager (Watched σ η) δ η :=
  (f m.unwatched).watched m.platform.calls

variable [Platform σ δ η] {m : Manager (Watched σ η) δ η}

/-! ### Holds -/

@[simp] lemma unwatch_retain (key : DeviceKey) (device : δ) :
    unwatch (m.retain key device) = m.unwatched.retain key device := by
  have hpool : m.unwatched.pool.retain (Platform.same m.unwatched.platform) key device =
      m.pool.retain (Platform.same m.platform) key device := rfl
  rw [unwatch, retain, retain, hpool]
  cases (m.pool.retain (Platform.same m.platform) key device).origin <;> rfl

@[simp] lemma unwatched_release (h : Hold δ) :
    (m.release h).unwatched = m.unwatched.release h := by
  simp only [release, Manager.log, unwatched, Platform.drop]
  cases (m.pool.release h).left? <;> cases (m.pool.release h).dropped? <;> rfl

@[simp] lemma unwatched_releaseAll (hs : List (Hold δ)) :
    (m.releaseAll hs).unwatched = m.unwatched.releaseAll hs := by
  induction hs generalizing m with
  | nil => rfl
  | cons h hs ih =>
      have hrest := ih (m := m.release h)
      rw [unwatched_release] at hrest
      exact hrest

@[simp] lemma unwatched_discard (fs : List (Found δ)) :
    (m.discard fs).unwatched = m.unwatched.discard fs := unwatched_releaseAll _

@[simp] lemma unwatched_dropDevices (devices : List δ) :
    (dropDevices devices m).unwatched = dropDevices devices m.unwatched := by
  induction devices generalizing m with
  | nil => rfl
  | cons d devices ih => exact ih (m := { m with platform := Platform.drop d m.platform })

/-! ### Scans -/

lemma unwatch_recordMatch (c : Candidate δ) (info : RawInterface) :
    unwatch (m.recordMatch c info) = m.unwatched.recordMatch c info := by
  have hlog : (m.log .debug ("Matched " ++ info.display)).unwatched =
      m.unwatched.log .debug ("Matched " ++ info.display) := rfl
  rw [recordMatch, recordMatch, ← hlog, ← unwatch_retain]
  rfl

lemma unwatch_scanSettings (c : Candidate δ) (alts : List AltSetting) :
    unwatch (scanSettings c alts m) = scanSettings c alts m.unwatched := by
  induction alts generalizing m with
  | nil => rfl
  | cons alt alts ih =>
      rw [scanSettings, scanSettings]
      cases c.rawInterface? alt with
      | none => exact ih
      | some info =>
          simp only
          rw [← unwatch_recordMatch]
          exact congrArg (fun r : List (Found δ) × Manager σ δ η =>
            ((m.recordMatch c info).1 :: r.1, r.2)) ih

lemma unwatch_scanConfigs (c : Candidate δ) (index : ℕ) (configs : List ℕ) :
    unwatch (scanConfigs c index configs m) = scanConfigs c index configs m.unwatched := by
  induction configs generalizing m with
  | nil => rfl
  | cons config configs ih =>
      have hread : Platform.configDescriptor m.platform c.device config =
          Platform.configDescriptor m.unwatched.platform c.device config := rfl
      rw [scanConfigs, scanConfigs, hread]
      cases Platform.configDescriptor m.unwatched.platform c.device config with
      | error e => rfl
      | ok descriptor =>
          simp only
          rw [← unwatch_scanSettings]
          exact congrArg (fun r : Scan δ × Manager σ δ η =>
            (Scan.mk ((scanSettings c descriptor.altSettings m).1 ++ r.1.found) r.1.error?, r.2)) ih

lemma unwatch_scanDevice (filter : Filter) (index : ℕ) (device : δ) (desc : DeviceDescriptor) :
    unwatch (scanDevice filter index device desc m) =
      scanDevice filter index device desc m.unwatched := by
  rw [scanDevice, scanDevice]
  split_ifs
  · rfl
  · rfl
  · exact unwatch_scanConfigs _ _ _

lemma unwatch_scanDevices (filter : Filter) (index : ℕ) (devices : List δ) :
    unwatch (scanDevices filter index devices m) =
      scanDevices filter index devices m.unwatched := by
  induction devices generalizing m index with
  | nil => rfl
  | cons device devices ih =>
      have hread : Platform.deviceDescriptor m.platform device =
          Platform.deviceDescriptor m.unwatched.platform device := rfl
      rw [scanDevices, scanDevices, hread]
      cases Platform.deviceDescriptor m.unwatched.platform device with
      | error e => rfl
      | ok desc =>
          simp only
          rw [← unwatch_scanDevice]
          rcases scanDevice filter index device desc m with ⟨⟨found, _ | e⟩, m₁⟩
          · exact congrArg (fun r : Scan δ × Manager σ δ η =>
              (Scan.mk (found ++ r.1.found) r.1.error?, r.2)) (ih (index + 1))
          · rfl

/-- A watched walk is a walk. -/
lemma unwatch_walk (filter : Filter) :
    unwatch (m.walk filter) = m.unwatched.walk filter := by
  have hlist : unwatch (m.native Platform.devices) = m.unwatched.native Platform.devices := rfl
  rw [walk, walk, ← hlist]
  rcases m.native Platform.devices with ⟨e | devices, m₁⟩
  · rfl
  · have hscan := unwatch_scanDevices (m := m₁) filter 0 devices
    have hfound : (scanDevices filter 0 devices m₁).1 =
        (scanDevices filter 0 devices m₁.unwatched).1 := congrArg Prod.fst hscan
    have hleft : (scanDevices filter 0 devices m₁).2.unwatched =
        (scanDevices filter 0 devices m₁.unwatched).2 := congrArg Prod.snd hscan
    simp only [unwatch, ← hfound, ← hleft, ← unwatched_dropDevices]
    rfl

/-! ### Opening -/

lemma unwatch_ready : unwatch m.ready = m.unwatched.ready := by
  have hinit : unwatch (m.native Platform.init) = m.unwatched.native Platform.init := rfl
  rw [ready, ready, ← hinit]
  have hdown : m.unwatched.shuttingDown = m.shuttingDown := rfl
  have hup : m.unwatched.initialized = m.initialized := rfl
  rw [hdown, hup]
  split_ifs
  · rfl
  · rfl
  · rcases m.native Platform.init with ⟨e | ⟨⟩, m₁⟩ <;> rfl

lemma unwatch_complete (r : Scan δ × Manager (Watched σ η) δ η) :
    unwatch (complete r) = complete (unwatch r) := by
  rcases r with ⟨⟨found, _ | e⟩, m₁⟩
  · rfl
  · exact congrArg (Prod.mk _) (unwatched_discard found)

lemma unwatch_select (info : RawInterface) (fs : List (Found δ)) :
    unwatch (select info fs m) = select info fs m.unwatched := by
  induction fs generalizing m with
  | nil => rfl
  | cons f fs ih =>
      rw [select, select]
      split_ifs
      · exact congrArg (Prod.mk _) (unwatched_discard fs)
      · rw [← unwatched_release]
        exact ih

/-- A watched rescan is a rescan. -/
lemma unwatch_resolve (info : RawInterface) :
    unwatch (m.resolve info) = m.unwatched.resolve info := by
  rw [resolve, resolve, ← unwatch_walk, ← unwatch_complete]
  rcases complete (m.walk (idsOf info)) with ⟨e | found, m₁⟩
  · rfl
  · simp only [unwatch]
    rw [← unwatch_select]
    rcases select info found m₁ with ⟨_ | f, m₂⟩ <;> rfl

lemma unwatch_enableAutoDetach (handle : η) :
    unwatch (m.enableAutoDetach handle) = m.unwatched.enableAutoDetach handle := by
  have hcall : unwatch (m.native (Platform.autoDetach handle)) =
      m.unwatched.native (Platform.autoDetach handle) := rfl
  rw [enableAutoDetach, enableAutoDetach, ← hcall]
  rcases m.native (Platform.autoDetach handle) with ⟨e | ⟨⟩, m₁⟩
  · cases e <;> rfl
  · rfl

lemma unwatch_detachDriver (handle : η) (interface : UInt8) :
    unwatch (m.detachDriver handle interface) = m.unwatched.detachDriver handle interface := by
  have hcall : unwatch (m.native (Platform.detach handle interface)) =
      m.unwatched.native (Platform.detach handle interface) := rfl
  rw [detachDriver, detachDriver, ← hcall]
  rcases m.native (Platform.detach handle interface) with ⟨e | ⟨⟩, m₁⟩
  · cases e <;> rfl
  · rfl

variable {meanwhile : Manager σ δ η → Manager σ δ η}

lemma unwatch_claimInterface (handle : η) (interface : UInt8) :
    unwatch (m.claimInterface (aside meanwhile) handle interface) =
      m.unwatched.claimInterface meanwhile handle interface := rfl

lemma unwatch_prepare (handle : η) (interface : UInt8) :
    unwatch (m.prepare (aside meanwhile) handle interface) =
      m.unwatched.prepare meanwhile handle interface := by
  rw [prepare, prepare, ← unwatch_enableAutoDetach]
  rcases m.enableAutoDetach handle with ⟨e | ⟨⟩, m₁⟩
  · rfl
  · simp only [unwatch]
    rw [← unwatch_detachDriver]
    rcases m₁.detachDriver handle interface with ⟨e | ⟨⟩, m₂⟩
    · rfl
    · exact unwatch_claimInterface handle interface

/-- A record that is opened and claimed while it is watched is opened and claimed. -/
lemma unwatch_claimFound (f : Found δ) :
    unwatch (m.claimFound (aside meanwhile) f) = m.unwatched.claimFound meanwhile f := by
  have hcall : unwatch (m.native (Platform.openDevice f.hold.device)) =
      m.unwatched.native (Platform.openDevice f.hold.device) := rfl
  rw [claimFound, claimFound, ← hcall]
  rcases m.native (Platform.openDevice f.hold.device) with ⟨e | handle, m₁⟩
  · exact congrArg (Prod.mk _) (unwatched_release f.hold)
  · have hlog : (m₁.log .debug ("Opened native handle for " ++ f.info.path)).unwatched =
        m₁.unwatched.log .debug ("Opened native handle for " ++ f.info.path) := rfl
    simp only [unwatch]
    rw [← hlog, ← unwatch_prepare]
    rcases (m₁.log .debug ("Opened native handle for " ++ f.info.path)).prepare
      (aside meanwhile) handle f.info.interface with ⟨e | ⟨⟩, m₂⟩
    · exact congrArg (Prod.mk _) (unwatched_release (m := m₂.closeHandle handle) f.hold)
    · rfl

lemma unwatch_acquire (info : RawInterface) :
    unwatch (m.acquire (aside meanwhile) info) = m.unwatched.acquire meanwhile info := by
  rw [acquire, acquire, ← unwatch_ready]
  rcases m.ready with ⟨e | ⟨⟩, m₁⟩
  · rfl
  · simp only [unwatch]
    rw [← unwatch_resolve]
    rcases m₁.resolve info with ⟨e | f, m₂⟩
    · rfl
    · exact unwatch_claimFound f

lemma unwatched_abandon (c : Claimed δ η) :
    (m.abandon c).unwatched = m.unwatched.abandon c := by
  have hcall : unwatch (m.native (Platform.release c.native c.info.interface)) =
      m.unwatched.native (Platform.release c.native c.info.interface) := rfl
  rw [abandon, abandon, ← hcall]
  rcases m.native (Platform.release c.native c.info.interface) with ⟨e | ⟨⟩, m₁⟩ <;>
    exact unwatched_release c.hold

lemma unwatch_enroll (c : Claimed δ η) : unwatch (m.enroll c) = m.unwatched.enroll c := by
  have hdown : m.unwatched.shuttingDown = m.shuttingDown := rfl
  simp only [enroll, register, hdown]
  split_ifs
  · exact congrArg (Prod.mk _) (unwatched_abandon c)
  · rfl

/-- A watched open is an open. -/
theorem unwatch_openWith (info : RawInterface) :
    unwatch (m.openWith (aside meanwhile) info) = m.unwatched.openWith meanwhile info := by
  rw [openWith, openWith, ← unwatch_acquire]
  rcases m.acquire (aside meanwhile) info with ⟨e | c, m₁⟩
  · rfl
  · exact unwatch_enroll c

end Manager

end UsbPipe
