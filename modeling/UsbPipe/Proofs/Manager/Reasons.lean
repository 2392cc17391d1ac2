/-
The native failures that an open reports.

The bench fails on request, when a device is opened that is not plugged in, and when a
configuration is read that a device does not have.  An open scans again, and opens a device
that the scan listed, so that a native failure it reports was asked for, or is that of a
missing configuration.

* `Failures.behind`: what was asked for of the native call that an error is about.
* `error_of_scanItems`: why a walk fails.
* `acquire_of_target`, `Identified.readFrom_of_target`: the device that an open goes on to
  open is its target's, which is plugged in then.
* `openWith_error_reason`: why an open fails.
-/
import UsbPipe.Proofs.Manager.Instances
import UsbPipe.Proofs.Scan.Reference

namespace UsbPipe

open Usb

/-- The failures that were asked for of the native call that an error is about. -/
def Failures.behind (f : Failures) : UsbError → List NativeError
  | .init _ => f.init.toList
  | .discovery .listing _ => f.listing.toList
  | .discovery (.descriptor _) _ => f.descriptor.map Prod.snd
  | .discovery (.config _ _) _ => f.config.map Prod.snd
  | .openDevice _ => f.openDevice.map Prod.snd
  | .autoDetach _ => f.autoDetach.toList
  | .detach _ _ => f.detach.toList
  | .claim _ _ => f.claim.map Prod.snd
  | .release _ _ => f.release.toList
  | _ => []

/-! ### Walks -/

/-- A failure under a key is among those of all keys. -/
lemma Failures.mem_of_lookup {key : DeviceKey} {n : NativeError}
    {table : List (DeviceKey × NativeError)} (h : table.lookup key = some n) :
    n ∈ table.map Prod.snd := by
  obtain ⟨l₁, l₂, hl, -⟩ := List.lookup_eq_some_iff.mp h
  simp [hl]

section Walks

variable {b : Bench} {e : UsbError}

/-- Everything that goes wrong with a configuration was asked for, except that a device may
have fewer configurations than it tells. -/
lemma error_of_configWalk {index : ℕ} {i : Instance} {desc : DeviceDescriptor} {config : ℕ}
    (h : .error e ∈ (Platform.readings b).configWalk index i desc config) :
    ∃ stage n, e = .discovery stage n ∧ (n ∈ b.failures.behind e ∨ n = .notFound) := by
  rw [Readings.configWalk] at h
  have hread : (Platform.readings b).configDescriptor i config = b.configDescriptor i config := rfl
  rw [hread, Bench.configDescriptor] at h
  cases hf : b.failures.config.lookup i.spec.key with
  | some n =>
      simp only [hf, List.mem_singleton, Except.error.injEq] at h
      exact ⟨_, n, h, Or.inl (h ▸ Failures.mem_of_lookup hf)⟩
  | none =>
      cases hc : i.spec.configs[config]? with
      | none =>
          simp only [hf, hc, List.mem_singleton, Except.error.injEq] at h
          exact ⟨_, .notFound, h, Or.inr rfl⟩
      | some c =>
          -- a configuration that can be read has no failures in it
          simp only [hf, hc, List.mem_flatMap, Readings.settingWalk] at h
          obtain ⟨interface, -, alt, -, hmem⟩ := h
          split_ifs at hmem
          · cases hmem
          · cases hp : PipePair.select? alt.endpoints <;> simp [hp] at hmem

/-- The same for the items of all devices, and for the listing. -/
lemma error_of_scanItems {filter : Filter} (h : .error e ∈ Platform.scanItems b filter) :
    ∃ stage n, e = .discovery stage n ∧ (n ∈ b.failures.behind e ∨ n = .notFound) := by
  cases hf : b.failures.listing with
  | some n =>
      have hlist : (Platform.devices b).1 = .error n := by
        simp only [Platform.devices, Bench.devices, hf]
      rw [Platform.scanItems, hlist] at h
      simp only [List.mem_singleton, Except.error.injEq] at h
      exact ⟨_, n, h, Or.inl (by simp [h, Failures.behind, hf])⟩
  | none =>
      have hlist : (Platform.devices b).1 = .ok b.attached := by
        simp only [Platform.devices, Bench.devices, hf]
      rw [Platform.scanItems, hlist] at h
      simp only [Readings.busWalk, List.mem_flatMap] at h
      obtain ⟨⟨i, index⟩, -, hmem⟩ := h
      have hread : (Platform.readings b).deviceDescriptor i = b.deviceDescriptor i := rfl
      rw [Readings.deviceWalk, hread, Bench.deviceDescriptor] at hmem
      cases hd : b.failures.descriptor.lookup i.spec.key with
      | some n =>
          simp only [hd, List.mem_singleton, Except.error.injEq] at hmem
          exact ⟨_, n, hmem, Or.inl (hmem ▸ Failures.mem_of_lookup hd)⟩
      | none =>
          simp only [hd] at hmem
          split_ifs at hmem
          · cases hmem
          · obtain ⟨config, -, hconfig⟩ := List.mem_flatMap.mp hmem
            exact error_of_configWalk hconfig

end Walks

namespace Manager

variable {m m' : Manager Bench Instance DeviceKey} {info : RawInterface} {f : Found Instance}
variable {meanwhile : Manager Bench Instance DeviceKey → Manager Bench Instance DeviceKey}

/-- A native failure of a rescan. -/
lemma error_of_resolve {e : UsbError} (h : (m.resolve info).1 = .error e) {n : NativeError}
    (hn : e.source? = some n) :
    (∃ stage, e = .discovery stage n) ∧ (n ∈ m.platform.failures.behind e ∨ n = .notFound) := by
  have hwalk := walk_eq_walked m (idsOf info)
  rw [resolve] at h
  rcases hw : m.walk (idsOf info) with ⟨⟨found, e?⟩, m₁⟩
  rw [hw] at h hwalk
  cases e? with
  | some e' =>
      cases h
      obtain ⟨stage, n', rfl, hreason⟩ :=
        error_of_scanItems (mem_of_walked_error (congrArg Prod.snd hwalk).symm)
      cases hn
      exact ⟨⟨stage, rfl⟩, hreason⟩
  | none =>
      -- the interface is not there any more, which is no native failure
      simp only [complete] at h
      rcases hs : select info found m₁ with ⟨_ | g, m₂⟩ <;> rw [hs] at h
      · cases h
        cases hn
      · cases h

/-! ### The device of an open -/

/-- An open that gets in and finds its interface goes on to open the device of its target. -/
lemma acquire_of_target (h : m.target? info = some f) :
    m.acquire meanwhile info = (m.ready.2.resolve info).2.claimFound meanwhile f := by
  rw [target?] at h
  rw [acquire]
  rcases hr : m.ready with ⟨_ | ⟨⟩, m₁⟩ <;> rw [hr] at h
  · cases h
  · simp only at h ⊢
    rcases hs : m₁.resolve info with ⟨_ | g, m₂⟩ <;> rw [hs] at h <;> cases h
    rfl

/-- The target is what the rescan resolves to. -/
lemma resolve_of_target (h : m.target? info = some f) :
    (m.ready.2.resolve info).1 = .ok f := by
  rw [target?] at h
  rcases hr : m.ready with ⟨_ | ⟨⟩, m₁⟩ <;> rw [hr] at h
  · cases h
  · simp only at h ⊢
    cases hs : (m₁.resolve info).1 with
    | error e => simp [hs, Except.toOption] at h
    | ok g => simpa [hs, Except.toOption] using h

/-- The device of the target was read off while it was plugged in, and still is when it is
opened. -/
lemma Identified.readFrom_of_target (h : m.Identified) (hf : m.target? info = some f) :
    f.ReadFrom (m.ready.2.resolve info).2.platform := by
  have hready := Within.ready m
  have hres := Within.resolve m.ready.2 info
  have hread := (h.within hready).resolve (resolve_of_target hf)
  exact ⟨hres.attached_eq ▸ hread.attached, hread.read⟩

/-! ### Opens -/

/-- An open that finds no target fails at the entry or in the rescan. -/
lemma acquire_of_no_target (h : m.target? info = none) :
    ∃ e, (m.acquire meanwhile info).1 = .error e ∧
      (m.ready.1 = .error e ∨ (m.ready.2.resolve info).1 = .error e) := by
  rw [target?] at h
  rw [acquire]
  rcases hr : m.ready with ⟨e | ⟨⟩, m₁⟩ <;> rw [hr] at h
  · exact ⟨e, rfl, Or.inl rfl⟩
  · simp only at h ⊢
    rcases hs : m₁.resolve info with ⟨e | g, m₂⟩ <;> rw [hs] at h
    · exact ⟨e, rfl, Or.inr rfl⟩
    · cases h

lemma failing_eq_error {error? : Option NativeError} {n : NativeError}
    (h : Bench.failing error? = .error n) : error? = some n := by
  cases error? with
  | none => cases h
  | some n' =>
      cases h
      rfl

lemma error_of_ready {e : UsbError} (h : m.ready.1 = .error e) {n : NativeError}
    (hn : e.source? = some n) : e = .init n ∧ n ∈ m.platform.failures.behind e := by
  simp only [ready, native_eq, Platform.init] at h
  split_ifs at h
  · cases h
    cases hn
  · cases hf : Bench.failing m.platform.failures.init with
    | ok _ => simp [hf] at h
    | error n' =>
        simp only [hf] at h
        cases h
        cases hn
        exact ⟨rfl, by simp [Failures.behind, failing_eq_error hf]⟩

/-- Whoever was let in finds the native layer initialised, and no shutdown begun. -/
lemma ready_ok (h : m.ready = (.ok (), m')) :
    m'.shuttingDown = false ∧ m'.initialized = true := by
  rw [ready] at h
  split_ifs at h with hdown hinit
  · cases h
  · cases h
    exact ⟨Bool.eq_false_iff.mpr hdown, hinit⟩
  · rw [native_eq] at h
    rcases hi : Platform.init m.platform with ⟨e | ⟨⟩, p⟩ <;> rw [hi] at h
    · cases h
    · cases h
      exact ⟨Bool.eq_false_iff.mpr hdown, rfl⟩

lemma error_of_enableAutoDetach {handle : DeviceKey} {e : UsbError}
    (h : (m.enableAutoDetach handle).1 = .error e) :
    ∃ n, e = .autoDetach n ∧ n ∈ m.platform.failures.behind e := by
  simp only [enableAutoDetach, native_eq, Platform.autoDetach] at h
  cases hf : Bench.failing m.platform.failures.autoDetach with
  | ok _ => simp [hf] at h
  | error n =>
      have he : e = .autoDetach n := by cases n <;> simp_all
      exact ⟨n, he, by simp [he, Failures.behind, failing_eq_error hf]⟩

lemma error_of_detachDriver {handle : DeviceKey} {interface : UInt8} {e : UsbError}
    (h : (m.detachDriver handle interface).1 = .error e) :
    ∃ n, e = .detach interface n ∧ n ∈ m.platform.failures.behind e := by
  simp only [detachDriver, native_eq, Platform.detach] at h
  cases hf : Bench.failing m.platform.failures.detach with
  | ok _ => simp [hf] at h
  | error n =>
      have he : e = .detach interface n := by cases n <;> simp_all
      exact ⟨n, he, by simp [he, Failures.behind, failing_eq_error hf]⟩

lemma error_of_claimInterface {handle : DeviceKey} {interface : UInt8} {e : UsbError}
    (h : (m.claimInterface meanwhile handle interface).1 = .error e) :
    ∃ n, e = .claim interface n ∧ n ∈ m.platform.failures.behind e := by
  simp only [claimInterface, native_eq, Platform.claim, Bench.claim, Bench.counting] at h
  cases hf : m.platform.failures.claim.lookup handle with
  | none => simp [hf, Except.mapError] at h
  | some n =>
      have he : e = .claim interface n := by simpa [hf, Except.mapError, eq_comm] using h
      exact ⟨n, he, he ▸ Failures.mem_of_lookup hf⟩

/-- What goes wrong between the native open and the registration is no failure to open. -/
lemma error_of_prepare {handle : DeviceKey} {interface : UInt8} {e : UsbError}
    (h : (m.prepare meanwhile handle interface).1 = .error e) :
    ∃ n ∈ m.platform.failures.behind e, e.source? = some n ∧ ∀ n', e ≠ .openDevice n' := by
  have hauto := bystanders_enableAutoDetach (m := m) handle
  rw [prepare] at h
  rcases h₁ : m.enableAutoDetach handle with ⟨e' | ⟨⟩, m₁⟩ <;> rw [h₁] at h hauto
  · cases h
    obtain ⟨n, rfl, hn⟩ := error_of_enableAutoDetach (congrArg Prod.fst h₁)
    exact ⟨n, hn, rfl, by simp⟩
  · have hdet := (bystanders_detachDriver (m := m₁) handle interface).trans hauto
    have hfail : m₁.platform.failures = m.platform.failures :=
      congrArg (·.platform.failures) hauto
    simp only at h
    rcases h₂ : m₁.detachDriver handle interface with ⟨e' | ⟨⟩, m₂⟩ <;> rw [h₂] at h hdet
    · cases h
      obtain ⟨n, rfl, hn⟩ := error_of_detachDriver (congrArg Prod.fst h₂)
      exact ⟨n, hfail ▸ hn, rfl, by simp⟩
    · have hfail : m₂.platform.failures = m.platform.failures :=
        congrArg (·.platform.failures) hdet
      obtain ⟨n, rfl, hn⟩ := error_of_claimInterface h
      exact ⟨n, hfail ▸ hn, rfl, by simp⟩

/-- A device that is plugged in is opened, unless a failure was asked for. -/
lemma error_of_claimFound (hatt : f.hold.device ∈ m.platform.attached) {e : UsbError}
    (h : (m.claimFound meanwhile f).1 = .error e) :
    ∃ n ∈ m.platform.failures.behind e, e.source? = some n ∧
      ∀ n', e = .openDevice n' →
        m.platform.failures.openDevice.lookup f.hold.device.spec.key = some n' := by
  have hplugged : m.platform.isAttached f.hold.device = true :=
    List.any_eq_true.mpr ⟨_, hatt, beq_self_eq_true _⟩
  simp only [claimFound, native_eq, Platform.openDevice, Bench.openDevice] at h
  cases hf : m.platform.failures.openDevice.lookup f.hold.device.spec.key with
  | some n =>
      simp only [hf] at h
      cases h
      exact ⟨n, Failures.mem_of_lookup hf, rfl, fun n' hn' => by cases hn'; rfl⟩
  | none =>
      simp only [hf, hplugged, if_true] at h
      set m₁ := Manager.log { m with
        platform := m.platform.counting fun c => { c with opens := c.opens + 1 } } .debug
          ("Opened native handle for " ++ f.info.path) with hm₁
      rcases hp : m₁.prepare meanwhile f.hold.device.spec.key f.info.interface
        with ⟨e' | ⟨⟩, m₂⟩ <;> rw [hp] at h
      · cases h
        obtain ⟨n, hn, hsource, hother⟩ := error_of_prepare (congrArg Prod.fst hp)
        exact ⟨n, hn, hsource, fun n' hn' => absurd hn' (hother n')⟩
      · cases h

/-- A native failure that an open reports was asked for, or is that of a configuration which
a device of the rescan does not have; and the native open of the target's device fails only
if that was asked for. -/
theorem openWith_error_reason (h : m.Identified) {e : UsbError}
    (ho : (m.openWith meanwhile info).1 = .error e) {n : NativeError} (hn : e.source? = some n) :
    (n ∈ m.platform.failures.behind e ∨ n = .notFound) ∧
      (e = .openDevice n → ∃ f, m.target? info = some f ∧
        m.platform.failures.openDevice.lookup f.info.key = some n) := by
  have hready : m.ready.2.platform.failures = m.platform.failures :=
    congrArg (·.platform.failures) bystanders_ready
  have hres : (m.ready.2.resolve info).2.platform.failures = m.platform.failures :=
    (congrArg (·.platform.failures) (bystanders_resolve info)).trans hready
  rw [openWith] at ho
  rcases ha : m.acquire meanwhile info with ⟨e' | c, m₁⟩ <;> rw [ha] at ho
  · cases ho
    have hacq := congrArg Prod.fst ha
    cases ht : m.target? info with
    | some f =>
        have hread := h.readFrom_of_target ht
        rw [acquire_of_target ht] at hacq
        obtain ⟨n', hn', hsource, hopen⟩ := error_of_claimFound hread.attached hacq
        rw [hn] at hsource
        cases hsource
        rw [hres] at hn' hopen
        refine ⟨Or.inl hn', fun he => ⟨f, rfl, ?_⟩⟩
        rw [hread.describes.1]
        exact hopen n he
    | none =>
        obtain ⟨e', he', hfirst⟩ : ∃ e, (m.acquire meanwhile info).1 = .error e ∧ _ :=
          acquire_of_no_target ht
        rw [hacq] at he'
        cases he'
        rcases hfirst with hfirst | hfirst
        · obtain ⟨rfl, hall⟩ := error_of_ready hfirst hn
          exact ⟨Or.inl hall, by simp⟩
        · obtain ⟨⟨stage, rfl⟩, hall⟩ := error_of_resolve hfirst hn
          exact ⟨hready ▸ hall, by simp⟩
  · -- a refused registration is no native failure
    simp only [enroll, register] at ho
    split_ifs at ho
    cases ho
    cases hn

end Manager

end UsbPipe
