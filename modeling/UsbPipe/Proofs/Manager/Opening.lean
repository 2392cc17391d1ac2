/-
What an open leaves alone, and what a failed open takes back.

An open that fails has taken references, perhaps a native handle, and perhaps a claim.
The books say that the references went back; here is the rest: what an open never
touches, the handle it opened and closed, and the interface it claimed and released.

* `Manager.bystanders`: a manager without what an open may change in passing, so that an
  equation of bystanders says that everything else stayed as it was.
* `Manager.OnlyShutdown`: all that happens to a manager meanwhile is a shutdown.
* `Manager.target?`: the record of a rescan that an open goes on to claim.
* `bystanders_acquire`: an open up to its claim; `bystanders_openWith_error`: a failed
  open; `channelIds_openWith_ok`: the table of channels after one that succeeds.
-/
import UsbPipe.Proofs.Manager.Balance

namespace UsbPipe

open Usb

namespace Manager

variable {m m' : Manager Bench Instance DeviceKey}

/-! ### Bystanders -/

/-- A manager without its pool, the state of its native context, its events, its
references, and its counts of calls other than those that open and close handles. -/
def bystanders (m : Manager Bench Instance DeviceKey) : Manager Bench Instance DeviceKey :=
  { m with
    pool := {}
    initialized := false
    shuttingDown := false
    events := []
    platform := { m.platform with
      live := []
      overdrawn := 0
      calls := { opens := m.platform.calls.opens, closes := m.platform.calls.closes } } }

lemma bystanders_of_settled (h : m'.settled = m.settled) : m'.bystanders = m.bystanders := by
  have hset : ∀ m : Manager Bench Instance DeviceKey, m.settled.bystanders = m.bystanders :=
    fun _ => rfl
  rw [← hset m', h, hset]

/-- Events leave bystanders alone. -/
lemma bystanders_frame (t : Manager Bench Instance DeviceKey) :
    Frame fun m : Manager Bench Instance DeviceKey => m.bystanders = t := ⟨fun _ _ _ ht => ht⟩

/-- So do entries, scans and holds given back. -/
lemma bystanders_scanning (t : Manager Bench Instance DeviceKey) :
    Frame.Scanning fun m : Manager Bench Instance DeviceKey => m.bystanders = t where
  toFrame := bystanders_frame t
  release _ x ht := (bystanders_of_settled (settled_release x)).trans ht
  ready _ ht := (bystanders_frame t).ready ht ht ht
  walk _ filter ht := (bystanders_of_settled (settled_walk filter)).trans ht

@[simp] lemma bystanders_release (x : Hold Instance) : (m.release x).bystanders = m.bystanders :=
  (bystanders_scanning m.bystanders).release m x rfl

@[simp] lemma bystanders_discard (fs : List (Found Instance)) :
    (m.discard fs).bystanders = m.bystanders :=
  (bystanders_scanning m.bystanders).discard rfl fs

@[simp] lemma bystanders_ready : m.ready.2.bystanders = m.bystanders :=
  (bystanders_scanning m.bystanders).ready m rfl

@[simp] lemma bystanders_resolve (info : RawInterface) :
    (m.resolve info).2.bystanders = m.bystanders :=
  (bystanders_scanning m.bystanders).resolve (bystanders_of_settled (settled_walk (idsOf info)))

@[simp] lemma bystanders_scan (filter : Filter) : (m.scan filter).2.bystanders = m.bystanders :=
  (bystanders_scanning m.bystanders).scan rfl filter

@[simp] lemma bystanders_enumerate (filter : Filter) :
    (m.enumerate filter).2.bystanders = m.bystanders :=
  (bystanders_scanning m.bystanders).enumerate rfl filter

@[simp] lemma bystanders_beginShutdown : m.beginShutdown.bystanders = m.bystanders :=
  (bystanders_frame m.bystanders).beginShutdown rfl rfl

@[simp] lemma bystanders_teardown : m.teardown.bystanders = m.bystanders :=
  (bystanders_frame m.bystanders).teardown rfl rfl

@[simp] lemma bystanders_shutdownNow : m.shutdownNow.2.bystanders = m.bystanders :=
  (bystanders_frame m.bystanders).shutdownNow bystanders_beginShutdown
    (bystanders_teardown.trans bystanders_beginShutdown)

@[simp] lemma bystanders_enableAutoDetach (handle : DeviceKey) :
    (m.enableAutoDetach handle).2.bystanders = m.bystanders :=
  (bystanders_frame m.bystanders).enableAutoDetach rfl

@[simp] lemma bystanders_detachDriver (handle : DeviceKey) (interface : UInt8) :
    (m.detachDriver handle interface).2.bystanders = m.bystanders :=
  (bystanders_frame m.bystanders).detachDriver rfl

lemma channelIds_of_bystanders (h : m'.bystanders = m.bystanders) :
    m'.channelIds = m.channelIds := by
  have hchan : m'.channels = m.channels := congrArg (·.channels) h
  rw [channelIds, hchan]
  rfl

/-! ### What may happen meanwhile -/

/-- Nothing happens to the manager meanwhile but the beginning of a shutdown, or a
shutdown that does not wait. -/
def OnlyShutdown
    (meanwhile : Manager Bench Instance DeviceKey → Manager Bench Instance DeviceKey) : Prop :=
  ∀ m, meanwhile m = m ∨ meanwhile m = m.beginShutdown ∨ meanwhile m = m.shutdownNow.2

variable {meanwhile : Manager Bench Instance DeviceKey → Manager Bench Instance DeviceKey}

namespace OnlyShutdown

lemma accounts_eq (hm : OnlyShutdown meanwhile) (m : Manager Bench Instance DeviceKey) :
    (meanwhile m).accounts = m.accounts := by
  rcases hm m with h | h | h <;> rw [h]
  · exact accounts_beginShutdown
  · exact accounts_shutdownNow

lemma bystanders_eq (hm : OnlyShutdown meanwhile) (m : Manager Bench Instance DeviceKey) :
    (meanwhile m).bystanders = m.bystanders := by
  rcases hm m with h | h | h <;> rw [h]
  · exact bystanders_beginShutdown
  · exact bystanders_shutdownNow

end OnlyShutdown

/-! ### Handles and claims -/

/-- The manager after `n` handles have been opened and closed. -/
def traded (n : ℕ) (m : Manager Bench Instance DeviceKey) : Manager Bench Instance DeviceKey :=
  { m with
    platform := m.platform.counting fun c =>
      { c with opens := c.opens + n, closes := c.closes + n } }

/-- The manager after a handle has been opened and an interface claimed. -/
def granted (c : Claimed Instance DeviceKey) (m : Manager Bench Instance DeviceKey) :
    Manager Bench Instance DeviceKey :=
  { m with
    platform := { m.platform with
      claimed := (m.platform.claimed).insert (c.native, c.info.interface)
      calls := { m.platform.calls with opens := m.platform.calls.opens + 1 } } }

/-- The manager after an interface has been released and a handle closed. -/
def returned (c : Claimed Instance DeviceKey) (m : Manager Bench Instance DeviceKey) :
    Manager Bench Instance DeviceKey :=
  { m with
    platform := { m.platform with
      claimed := m.platform.claimed.filter (· != (c.native, c.info.interface))
      calls := { m.platform.calls with closes := m.platform.calls.closes + 1 } } }

/-- What was granted and returned was traded, if the interface was not claimed before. -/
lemma returned_granted {c : Claimed Instance DeviceKey}
    (h : (c.native, c.info.interface) ∉ m.platform.claimed) :
    (m.granted c).returned c = m.traded 1 := by
  have hclaimed : ((m.platform.claimed).insert (c.native, c.info.interface)).filter
      (· != (c.native, c.info.interface)) = m.platform.claimed := by
    rw [List.insert_of_not_mem h, List.filter_cons_of_neg (by simp)]
    refine filter_ne_eq_self fun x hx => ?_
    rintro rfl
    exact h hx
  simp only [granted, returned, traded, Bench.counting, hclaimed]

/-- A claim is entered, or fails and is not. -/
lemma bystanders_claimInterface (hm : OnlyShutdown meanwhile) (handle : DeviceKey)
    (interface : UInt8) :
    (m.claimInterface meanwhile handle interface).2.bystanders =
      { m.bystanders with
        platform := { m.bystanders.platform with
          claimed := match (m.claimInterface meanwhile handle interface).1 with
            | .ok _ => (m.platform.claimed).insert (handle, interface)
            | .error _ => m.platform.claimed } } := by
  simp only [claimInterface, native_eq, Platform.claim, Bench.claim]
  cases (m.platform.counting fun c => { c with claims := c.claims + 1 }).failures.claim.lookup
    handle <;> exact hm.bystanders_eq _

/-- The same after the steps before a claim. -/
lemma bystanders_prepare (hm : OnlyShutdown meanwhile) (handle : DeviceKey) (interface : UInt8) :
    (m.prepare meanwhile handle interface).2.bystanders =
      { m.bystanders with
        platform := { m.bystanders.platform with
          claimed := match (m.prepare meanwhile handle interface).1 with
            | .ok _ => (m.platform.claimed).insert (handle, interface)
            | .error _ => m.platform.claimed } } := by
  have hauto := bystanders_enableAutoDetach (m := m) handle
  rw [prepare]
  rcases h₁ : m.enableAutoDetach handle with ⟨_ | ⟨⟩, m₁⟩ <;> rw [h₁] at hauto
  · exact hauto
  · have hdet := (bystanders_detachDriver (m := m₁) handle interface).trans hauto
    simp only
    rcases h₂ : m₁.detachDriver handle interface with ⟨_ | ⟨⟩, m₂⟩ <;> rw [h₂] at hdet
    · exact hdet
    · have hclaimed : m₂.platform.claimed = m.platform.claimed :=
        congrArg (·.platform.claimed) hdet
      have hclaim := bystanders_claimInterface (m := m₂) hm handle interface
      rw [hdet, hclaimed] at hclaim
      exact hclaim

/-! ### The open -/

/-- The record of a rescan in the place of `info`, if there is one and the manager lets
opens in. -/
def target? (m : Manager Bench Instance DeviceKey) (info : RawInterface) :
    Option (Found Instance) :=
  match m.ready with
  | (.error _, _) => none
  | (.ok (), m) => (m.resolve info).1.toOption

/-- The target of an open is held by a hold on a device at its place. -/
lemma Balanced.key_of_target? {H : List (Hold Instance)} {k : ℕ} (h : m.Balanced H k)
    {info : RawInterface} {f : Found Instance} (hf : m.target? info = some f) :
    f.hold.device.spec.key = f.info.key := by
  have hready := h.ready
  rw [target?] at hf
  rcases hr : m.ready with ⟨_ | ⟨⟩, m₁⟩ <;> rw [hr] at hf hready
  · cases hf
  · refine (hready.stocked.resolve info).2 f ?_
    simp only at hf
    cases hres : (m₁.resolve info).1 with
    | error e => simp [hres, Except.toOption] at hf
    | ok g => simpa [hres, Except.toOption] using hf

/-- The interface of a record as it is claimed, by a handle on the device of its hold. -/
def claimOf (f : Found Instance) : Claimed Instance DeviceKey :=
  ⟨f.info, f.hold, f.hold.device.spec.key⟩

/-- A record opened and claimed: one handle was traded, or the interface was granted. -/
lemma bystanders_claimFound (hm : OnlyShutdown meanwhile) (f : Found Instance) :
    match m.claimFound meanwhile f with
    | (.error _, m') => ∃ n ≤ 1, m'.bystanders = (m.traded n).bystanders
    | (.ok c, m') => c = claimOf f ∧
        m'.bystanders = (m.granted c).bystanders := by
  rw [claimFound]
  rcases native_openDevice (m := m) f.hold.device with ⟨e, ho⟩ | ho
  · rw [ho]
    exact ⟨0, Nat.zero_le _, bystanders_release f.hold⟩
  · rw [ho]
    simp only
    set m₁ := Manager.log { m with
      platform := m.platform.counting fun c => { c with opens := c.opens + 1 } } .debug
        ("Opened native handle for " ++ f.info.path) with hm₁
    have hprep := bystanders_prepare (m := m₁) hm f.hold.device.spec.key f.info.interface
    rcases hp : m₁.prepare meanwhile f.hold.device.spec.key f.info.interface
      with ⟨_ | ⟨⟩, m₂⟩ <;> rw [hp] at hprep
    · refine ⟨1, Nat.le_refl _, (bystanders_release f.hold).trans ?_⟩
      have hclose : (m₂.closeHandle f.hold.device.spec.key).bystanders =
          { m₂.bystanders with
            platform := m₂.bystanders.platform.counting fun c =>
              { c with closes := c.closes + 1 } } := rfl
      rw [hclose, hprep]
      rfl
    · exact ⟨rfl, hprep⟩

/-- An open up to its claim: it fails with at most one handle traded, or it is granted the
interface of its target. -/
lemma bystanders_acquire (hm : OnlyShutdown meanwhile) (info : RawInterface) :
    match m.acquire meanwhile info with
    | (.error _, m') => ∃ n ≤ 1, m'.bystanders = (m.traded n).bystanders
    | (.ok c, m') => ∃ f, m.target? info = some f ∧
        c = claimOf f ∧
        m'.bystanders = (m.granted c).bystanders := by
  have hready := bystanders_ready (m := m)
  rw [acquire, target?]
  rcases hr : m.ready with ⟨_ | ⟨⟩, m₁⟩ <;> rw [hr] at hready
  · exact ⟨0, Nat.zero_le _, hready⟩
  · have hres := (bystanders_resolve (m := m₁) info).trans hready
    simp only
    rcases hs : m₁.resolve info with ⟨_ | f, m₂⟩ <;> rw [hs] at hres
    · exact ⟨0, Nat.zero_le _, hres⟩
    · have htraded : ∀ n, (m₂.traded n).bystanders = m₂.bystanders.traded n := fun _ => rfl
      have hgranted : ∀ c, (m₂.granted c).bystanders = m₂.bystanders.granted c := fun _ => rfl
      have hclaim := bystanders_claimFound (m := m₂) hm f
      simp only
      rcases hf : m₂.claimFound meanwhile f with ⟨_ | c, m₃⟩ <;> rw [hf] at hclaim
      · obtain ⟨n, hn, heq⟩ := hclaim
        rw [htraded, hres] at heq
        exact ⟨n, hn, heq⟩
      · obtain ⟨hc, heq⟩ := hclaim
        rw [hgranted, hres] at heq
        exact ⟨f, rfl, hc, heq⟩

/-- A claimed interface that is given up is returned. -/
lemma bystanders_abandon (c : Claimed Instance DeviceKey) :
    (m.abandon c).bystanders = (m.returned c).bystanders := by
  rw [abandon]
  simp only [native_eq, Platform.release, Bench.release]
  rw [bystanders_release]
  cases Bench.failing
    (m.platform.counting fun c => { c with releases := c.releases + 1 }).failures.release <;> rfl

/-- A failed open leaves all bystanders alone, but for at most one handle that was opened
and closed, or for the interface of its target, which was granted and returned. -/
theorem bystanders_openWith_error (hm : OnlyShutdown meanwhile) {info : RawInterface}
    {e : UsbError} (h : m.openWith meanwhile info = (.error e, m')) :
    (∃ n ≤ 1, m'.bystanders = (m.traded n).bystanders) ∨
    ∃ f, m.target? info = some f ∧
      m'.bystanders = ((m.granted (claimOf f)).returned (claimOf f)).bystanders := by
  have hacq := bystanders_acquire (m := m) hm info
  rw [openWith] at h
  rcases ha : m.acquire meanwhile info with ⟨_ | c, m₁⟩ <;> rw [ha] at h hacq
  · cases h
    exact Or.inl hacq
  · -- the registration was refused
    obtain ⟨f, hf, rfl, heq⟩ := hacq
    simp only [enroll, register] at h
    split_ifs at h with hdown
    · cases h
      have hret : ∀ (m : Manager Bench Instance DeviceKey) c,
          (m.returned c).bystanders = m.bystanders.returned c := fun _ _ => rfl
      exact Or.inr ⟨f, hf, by rw [bystanders_abandon, hret, heq, ← hret]⟩
    · cases h

/-- A failed open leaves the table of channels alone. -/
lemma channelIds_openWith_error (hm : OnlyShutdown meanwhile) {info : RawInterface}
    {e : UsbError} (h : m.openWith meanwhile info = (.error e, m')) :
    m'.channelIds = m.channelIds := by
  rcases bystanders_openWith_error hm h with ⟨n, -, heq⟩ | ⟨f, -, heq⟩ <;>
    exact congrArg (·.channels.map Channel.id) heq

/-- An open that succeeds has one channel more in the table, under a new id. -/
lemma channelIds_openWith_ok (hm : OnlyShutdown meanwhile) {info : RawInterface} {c : Opened}
    (h : m.openWith meanwhile info = (.ok c, m')) : m'.channelIds = m.channelIds ++ [c.id] := by
  have hacq := bystanders_acquire (m := m) hm info
  rw [openWith] at h
  rcases ha : m.acquire meanwhile info with ⟨_ | d, m₁⟩ <;> rw [ha] at h hacq
  · cases h
  · obtain ⟨f, -, -, heq⟩ := hacq
    have hchan : m₁.channels = m.channels := congrArg (·.channels) heq
    simp only [enroll, register] at h
    split_ifs at h with hdown
    · cases h
    · cases h
      simp [channelIds, establish, log, hchan]

end Manager

end UsbPipe
