/-
The books of a manager on the bench: holds, channels, registry and native handles.

A manager is *balanced* for the holds in its user's hands and a number of spare native
handles if its pool is stocked for those holds and the holds of its channels, the
registry lists the channels that are not closed, each of these has a hold and a native
handle, and the native handles given out and not yet taken back are those of the
channels and the spare ones.

* `Manager.Balanced`: the invariant; `Manager.accounts`: the figures it speaks of, so that
  an operation that leaves them alone leaves the balance alone (`Balanced.congr`).
* `Balanced.scan`, `Balanced.enumerate`, `Balanced.discard`: scans and their records.
* `Balanced.openWith`: an open, whatever becomes of it and whatever shutdown does meanwhile.
* `Balanced.figures`, `Balanced.liveRefs_eq`: what the figures of a balanced manager say.
-/
import UsbPipe.Proofs.Manager.Stock

namespace UsbPipe

open Usb

namespace Manager

/-! ### The accounts -/

/-- The figures in which holds, channels and native handles are counted. -/
structure Accounts where
  pool : Pool Instance
  live : List DeviceKey
  overdrawn : ℕ
  channels : List (Channel Instance DeviceKey)
  registered : List ℕ
  lastId : ℕ
  opens : ℕ
  closes : ℕ

/-- The figures of a manager. -/
def accounts (m : Manager Bench Instance DeviceKey) : Accounts where
  pool := m.pool
  live := m.platform.live
  overdrawn := m.platform.overdrawn
  channels := m.channels
  registered := m.registered
  lastId := m.lastId
  opens := m.platform.calls.opens
  closes := m.platform.calls.closes

/-- The books are balanced: `held` are the holds in the user's hands, and `spare` native
handles belong to no channel. -/
structure Balanced (m : Manager Bench Instance DeviceKey) (held : List (Hold Instance))
    (spare : ℕ) : Prop where
  stocked : m.Stocked (held ++ m.channelHolds) []
  ids_nodup : m.channelIds.Nodup
  id_le : ∀ id ∈ m.channelIds, id ≤ m.lastId
  registered_eq : m.registered = m.opened.map Channel.id
  paired : ∀ c ∈ m.channels, c.hold?.isSome = c.native?.isSome
  opens_eq : m.platform.calls.opens
    = m.platform.calls.closes + m.registered.length + spare

variable {m m' : Manager Bench Instance DeviceKey} {H H' : List (Hold Instance)} {k : ℕ}

namespace Balanced

/-- Where the channels, the registry and the counts of handles stay, the stock decides. -/
lemma restock (h : m.Balanced H k) (hchan : m'.channels = m.channels)
    (hreg : m'.registered = m.registered) (hlast : m'.lastId = m.lastId)
    (hopens : m'.platform.calls.opens = m.platform.calls.opens)
    (hcloses : m'.platform.calls.closes = m.platform.calls.closes)
    (hst : m'.Stocked (H' ++ m.channelHolds) []) : m'.Balanced H' k := by
  have hholds : m'.channelHolds = m.channelHolds := by rw [channelHolds, hchan]; rfl
  have hids : m'.channelIds = m.channelIds := by rw [channelIds, hchan]; rfl
  have hopened : m'.opened = m.opened := by rw [opened, hchan]; rfl
  refine ⟨?_, ?_, ?_, ?_, ?_, ?_⟩
  · rw [hholds]; exact hst
  · rw [hids]; exact h.ids_nodup
  · rw [hids, hlast]; exact h.id_le
  · rw [hreg, hopened]; exact h.registered_eq
  · rw [hchan]; exact h.paired
  · rw [hopens, hcloses, hreg]; exact h.opens_eq

lemma congr (h : m.Balanced H k) (ha : m'.accounts = m.accounts) : m'.Balanced H k :=
  h.restock (congrArg Accounts.channels ha) (congrArg Accounts.registered ha)
    (congrArg Accounts.lastId ha) (congrArg Accounts.opens ha) (congrArg Accounts.closes ha)
    (h.stocked.congr (congrArg Accounts.pool ha) (congrArg Accounts.live ha)
      (congrArg Accounts.overdrawn ha))

/-- An operation on holds alone: the channels and the registry stay. -/
lemma of_settled (h : m.Balanced H k) (hset : m'.settled = m.settled)
    (hst : m'.Stocked (H' ++ m.channelHolds) []) : m'.Balanced H' k :=
  h.restock (congrArg (·.channels) hset) (congrArg (·.registered) hset)
    (congrArg (·.lastId) hset) (congrArg (·.platform.calls.opens) hset)
    (congrArg (·.platform.calls.closes) hset) hst

lemma perm (h : m.Balanced H k) (hp : H.Perm H') : m.Balanced H' k :=
  { h with stocked := h.stocked.perm (hp.append_right _) }

end Balanced

/-! ### The figures -/

/-- Channels have as many holds as there are open ones among them. -/
lemma length_holds {cs : List (Channel Instance DeviceKey)}
    (h : ∀ c ∈ cs, c.hold?.isSome = c.native?.isSome) :
    (cs.filterMap Channel.hold?).length = (cs.filter (!·.isClosed)).length := by
  induction cs with
  | nil => rfl
  | cons c cs ih =>
      have hc := h c (List.mem_cons_self ..)
      have hrest := ih fun d hd => h d (List.mem_cons_of_mem _ hd)
      cases hh : c.hold? <;> cases hn : c.native? <;>
        simp_all [Channel.isClosed]

/-- A balanced manager has an open channel for each native handle that is out, and a hold
for each record in the user's hands and each open channel. -/
theorem Balanced.figures (h : m.Balanced H 0) :
    m.openChannels = m.opened.length ∧
    m.platform.calls.opens = m.platform.calls.closes + m.openChannels ∧
    m.pool.outstanding = H.length + m.openChannels := by
  have hreg : m.openChannels = m.opened.length := by
    rw [openChannels, h.registered_eq, List.length_map]
  refine ⟨hreg, h.opens_eq, ?_⟩
  have hholds : m.channelHolds.length = m.opened.length := length_holds h.paired
  rw [h.stocked.backs.outstanding_eq, List.length_append, hholds, hreg]

/-- The native references under a key are the records of the pool under it. -/
theorem Balanced.liveRefs_eq (h : m.Balanced H k) (key : DeviceKey) :
    m.platform.liveRefs key = m.pool.records.countP (·.key == key) := by
  have hlive := h.stocked.live.count_eq key
  rw [Bench.liveRefs, hlive, List.map_nil, List.nil_append, List.count_eq_countP, List.countP_map]
  rfl

theorem Balanced.totalLiveRefs_eq (h : m.Balanced H k) :
    m.platform.totalLiveRefs = m.pool.size := by
  have hlive := h.stocked.live.length_eq
  simpa [Bench.totalLiveRefs, Pool.size] using hlive

/-! ### Operations that leave the accounts alone -/

/-- A claim is counted, and changes nothing else but the claims. -/
lemma native_claim (m : Manager Bench Instance DeviceKey) (handle : DeviceKey)
    (interface : UInt8) :
    ∃ claimed, (m.native (Platform.claim handle interface)).2 =
      { m with platform := { m.platform.counting (fun c => { c with claims := c.claims + 1 }) with
        claimed := claimed } } := by
  simp only [native_eq, Platform.claim, Bench.claim]
  cases (m.platform.counting fun c => { c with claims := c.claims + 1 }).failures.claim.lookup
    handle with
  | some e => exact ⟨m.platform.claimed, rfl⟩
  | none => exact ⟨_, rfl⟩

/-- A native read is logged, and changes nothing else but the chunks that wait. -/
lemma native_read (m : Manager Bench Instance DeviceKey) (handle : DeviceKey) (kind : RawKind)
    (endpoint : UInt8) (limit : ℕ) (timeout : Duration) :
    ∃ log queues, (m.native (Platform.read handle kind endpoint limit timeout)).2 =
      { m with platform := { m.platform with transfers := log, queues := queues } } := by
  simp only [native_eq, Platform.read, Bench.read]
  cases (m.platform.behaviour (handle, endpoint)).outcome timeout with
  | error e => exact ⟨_, m.platform.queues, rfl⟩
  | ok _ =>
      cases m.platform.queue (handle, endpoint) with
      | nil => exact ⟨_, m.platform.queues, rfl⟩
      | cons chunk chunks => exact ⟨_, _, rfl⟩

/-- Nothing is booked for events. -/
lemma accounts_frame (a : Accounts) :
    Frame fun m : Manager Bench Instance DeviceKey => m.accounts = a := ⟨fun _ _ _ ha => ha⟩

/-- Nor for the calls between an open device and its claimed interface. -/
lemma accounts_preparing (a : Accounts) :
    Frame.Preparing fun m : Manager Bench Instance DeviceKey => m.accounts = a where
  toFrame := accounts_frame a
  autoDetach _ _ ha := ha
  detach _ _ _ ha := ha
  claim m handle interface ha := by
    obtain ⟨claimed, hclaim⟩ := native_claim m handle interface
    rw [hclaim]
    exact ha

@[simp] lemma accounts_ready : m.ready.2.accounts = m.accounts :=
  (accounts_frame m.accounts).ready rfl rfl rfl

@[simp] lemma accounts_beginShutdown : m.beginShutdown.accounts = m.accounts :=
  (accounts_frame m.accounts).beginShutdown rfl rfl

@[simp] lemma accounts_teardown : m.teardown.accounts = m.accounts :=
  (accounts_frame m.accounts).teardown rfl rfl

@[simp] lemma accounts_shutdownNow : m.shutdownNow.2.accounts = m.accounts :=
  (accounts_frame m.accounts).shutdownNow accounts_beginShutdown
    (accounts_teardown.trans accounts_beginShutdown)

@[simp] lemma accounts_write (id : ℕ) (data : Bytes) :
    (m.write id data).2.accounts = m.accounts :=
  (accounts_frame m.accounts).write rfl (fun _ _ _ _ => rfl) id

@[simp] lemma accounts_receive (id limit : ℕ) : (m.receive id limit).2.accounts = m.accounts := by
  refine (accounts_frame m.accounts).receive rfl (fun handle kind endpoint t => ?_) id
  obtain ⟨log, queues, hread⟩ := native_read m handle kind endpoint limit t
  rw [hread]
  rfl

/-! ### Scans and their records -/

namespace Balanced

lemma log (h : m.Balanced H k) (level : Level) (text : String) : (m.log level text).Balanced H k :=
  h.congr rfl

lemma ready (h : m.Balanced H k) : m.ready.2.Balanced H k := h.congr accounts_ready

lemma walk (h : m.Balanced H k) (filter : Filter) :
    (m.walk filter).2.Balanced ((m.walk filter).1.found.map Found.hold ++ H) k := by
  refine h.of_settled (settled_walk filter) ?_
  rw [List.append_assoc]
  exact (h.stocked.walk filter).1

lemma scan (h : m.Balanced H k) (filter : Filter) :
    (m.scan filter).2.Balanced ((m.scan filter).1.found.map Found.hold ++ H) k := by
  have hready := h.ready
  rw [Manager.scan]
  rcases hr : m.ready with ⟨_ | ⟨⟩, m₁⟩ <;> rw [hr] at hready
  · exact hready
  · exact hready.walk filter

lemma complete {r : Scan Instance × Manager Bench Instance DeviceKey}
    (h : r.2.Balanced (r.1.found.map Found.hold ++ H) k) :
    (complete r).2.Balanced (holdsOf (List.map Found.hold) (complete r).1 ++ H) k := by
  refine h.of_settled (settled_complete r) ?_
  have hst := h.stocked
  rw [List.append_assoc] at hst ⊢
  exact hst.complete

lemma enumerate (h : m.Balanced H k) (filter : Filter) :
    (m.enumerate filter).2.Balanced
      (holdsOf (List.map Found.hold) (m.enumerate filter).1 ++ H) k :=
  (h.scan filter).complete

lemma release {x : Hold Instance} (h : m.Balanced (x :: H) k) : (m.release x).Balanced H k :=
  h.of_settled (settled_release x) h.stocked.release

lemma releaseAll {hs : List (Hold Instance)} (h : m.Balanced (hs ++ H) k) :
    (m.releaseAll hs).Balanced H k := by
  refine h.of_settled (settled_releaseAll hs) ?_
  have hst := h.stocked
  rw [List.append_assoc] at hst
  exact hst.releaseAll

lemma discard {fs : List (Found Instance)} (h : m.Balanced (fs.map Found.hold ++ H) k) :
    (m.discard fs).Balanced H k := h.releaseAll

lemma resolve (h : m.Balanced H k) (info : RawInterface) :
    (m.resolve info).2.Balanced (holdsOf (fun f => [f.hold]) (m.resolve info).1 ++ H) k := by
  refine h.of_settled (settled_resolve info) ?_
  rw [List.append_assoc]
  exact (h.stocked.resolve info).1

/-! ### Opening -/

/-- A handle that the native layer gave out is a spare one at first. -/
lemma handOut (h : m.Balanced H k) :
    { m with platform := m.platform.counting fun c => { c with opens := c.opens + 1 } }.Balanced H
      (k + 1) :=
  { h with
    stocked := h.stocked.congr rfl rfl rfl
    opens_eq := by
      have hopens := h.opens_eq
      simp only [Bench.counting]
      omega }

lemma closeHandle (h : m.Balanced H (k + 1)) (handle : DeviceKey) :
    (m.closeHandle handle).Balanced H k :=
  { h with
    stocked := h.stocked.congr rfl rfl rfl
    opens_eq := by
      have hopens := h.opens_eq
      simp only [Manager.closeHandle, Platform.closeHandle, Bench.counting]
      omega }

end Balanced

/-- A native open gives out a handle on the device and is counted, or fails and changes
nothing. -/
lemma native_openDevice (i : Instance) :
    (∃ e, m.native (Platform.openDevice i) = (.error e, m)) ∨
    m.native (Platform.openDevice i) = (.ok i.spec.key,
      { m with platform := m.platform.counting fun c => { c with opens := c.opens + 1 } }) := by
  simp only [native_eq, Platform.openDevice, Bench.openDevice]
  cases m.platform.failures.openDevice.lookup i.spec.key with
  | some e => exact Or.inl ⟨e, rfl⟩
  | none =>
      by_cases hatt : m.platform.isAttached i = true
      · exact Or.inr (by simp [hatt])
      · exact Or.inl ⟨.noDevice, by simp [hatt]⟩

section Meanwhile

variable {meanwhile : Manager Bench Instance DeviceKey → Manager Bench Instance DeviceKey}

lemma accounts_prepare (hm : ∀ m, (meanwhile m).accounts = m.accounts) (handle : DeviceKey)
    (interface : UInt8) : (m.prepare meanwhile handle interface).2.accounts = m.accounts :=
  (accounts_preparing m.accounts).prepare rfl (fun m₁ ha => (hm m₁).trans ha) handle interface

/-- The native handles that the outcome of an operation leaves outside the channels. -/
def sparesOf {α : Type} : Except UsbError α → ℕ
  | .ok _ => 1
  | .error _ => 0

lemma Balanced.claimFound {f : Found Instance} (h : m.Balanced (f.hold :: H) k)
    (hm : ∀ m, (meanwhile m).accounts = m.accounts) :
    (m.claimFound meanwhile f).2.Balanced
      (holdsOf (fun c => [c.hold]) (m.claimFound meanwhile f).1 ++ H)
      (k + sparesOf (m.claimFound meanwhile f).1) := by
  rw [Manager.claimFound]
  rcases native_openDevice (m := m) f.hold.device with ⟨e, ho⟩ | ho
  · rw [ho]
    exact h.release
  · rw [ho]
    have hout := h.handOut.log .debug ("Opened native handle for " ++ f.info.path)
    simp only
    generalize Manager.log _ _ _ = m₁ at hout ⊢
    have hprep := hout.congr
      (accounts_prepare (m := m₁) hm f.hold.device.spec.key f.info.interface)
    rcases hp : m₁.prepare meanwhile f.hold.device.spec.key f.info.interface
      with ⟨_ | ⟨⟩, m₂⟩ <;> rw [hp] at hprep
    · exact (hprep.closeHandle _).release
    · exact hprep

lemma Balanced.acquire (h : m.Balanced H k) (hm : ∀ m, (meanwhile m).accounts = m.accounts)
    (info : RawInterface) :
    (m.acquire meanwhile info).2.Balanced
      (holdsOf (fun c => [c.hold]) (m.acquire meanwhile info).1 ++ H)
      (k + sparesOf (m.acquire meanwhile info).1) := by
  have hready := h.ready
  rw [Manager.acquire]
  rcases hr : m.ready with ⟨_ | ⟨⟩, m₁⟩ <;> rw [hr] at hready
  · exact hready
  · have hres := hready.resolve info
    simp only
    rcases hs : m₁.resolve info with ⟨_ | f, m₂⟩ <;> rw [hs] at hres
    · exact hres
    · exact hres.claimFound hm

lemma accounts_native_release (handle : DeviceKey) (interface : UInt8) :
    (m.native (Platform.release handle interface)).2.accounts = m.accounts := rfl

lemma Balanced.abandon {c : Claimed Instance DeviceKey} (h : m.Balanced (c.hold :: H) (k + 1)) :
    (m.abandon c).Balanced H k := by
  have hrel := h.congr (accounts_native_release (m := m) c.native c.info.interface)
  rw [Manager.abandon]
  rcases hn : m.native (Platform.release c.native c.info.interface) with ⟨e | _, m₁⟩ <;>
    rw [hn] at hrel
  · exact ((hrel.log _ _).closeHandle _).release
  · exact (hrel.closeHandle _).release

/-- Registered and on the table, a claimed interface has its hold and handle in a channel. -/
lemma Balanced.establish {c : Claimed Instance DeviceKey} (h : m.Balanced (c.hold :: H) (k + 1)) :
    ({ m with
        lastId := m.lastId + 1
        registered := m.registered ++ [m.lastId + 1]
      }.establish c (m.lastId + 1)).Balanced H k := by
  set m₁ := { m with
    lastId := m.lastId + 1
    registered := m.registered ++ [m.lastId + 1] }.establish c (m.lastId + 1) with hm₁
  have hholds : m₁.channelHolds = m.channelHolds ++ [c.hold] := by
    simp [hm₁, channelHolds, Manager.establish, Manager.log]
  have hids : m₁.channelIds = m.channelIds ++ [m.lastId + 1] := by
    simp [hm₁, channelIds, Manager.establish, Manager.log]
  have hopened : m₁.opened.map Channel.id = m.opened.map Channel.id ++ [m.lastId + 1] := by
    simp [hm₁, opened, Manager.establish, Manager.log, Channel.isClosed]
  have hreg : m₁.registered = m.registered ++ [m.lastId + 1] := rfl
  refine ⟨?_, ?_, ?_, ?_, ?_, ?_⟩
  · rw [hholds]
    have hst : m₁.Stocked (c.hold :: H ++ m.channelHolds) [] := h.stocked.congr rfl rfl rfl
    refine hst.perm ?_
    rw [← List.append_assoc]
    exact (List.perm_append_singleton _ _).symm
  · rw [hids]
    refine h.ids_nodup.append (List.nodup_singleton _) ?_
    intro id hid hid'
    have hle := h.id_le id hid
    have heq := List.mem_singleton.mp hid'
    omega
  · intro id hid
    rw [hids] at hid
    rcases List.mem_append.mp hid with hid | hid
    · exact Nat.le_succ_of_le (h.id_le id hid)
    · rw [List.mem_singleton.mp hid]; exact Nat.le_refl _
  · rw [hreg, hopened, h.registered_eq]
  · intro d hd
    rcases List.mem_append.mp hd with hd | hd
    · exact h.paired d hd
    · rw [List.mem_singleton.mp hd]; rfl
  · have hopens := h.opens_eq
    rw [hreg, List.length_append, List.length_singleton]
    show m.platform.calls.opens = m.platform.calls.closes + (m.registered.length + 1) + k
    omega

lemma Balanced.enroll {c : Claimed Instance DeviceKey} (h : m.Balanced (c.hold :: H) (k + 1)) :
    (m.enroll c).2.Balanced H k := by
  rw [Manager.enroll, register]
  split_ifs
  · exact h.abandon
  · exact h.establish

/-- An open keeps the balance, whether it succeeds or fails at any of its steps. -/
theorem Balanced.openWith (h : m.Balanced H k) (hm : ∀ m, (meanwhile m).accounts = m.accounts)
    (info : RawInterface) : (m.openWith meanwhile info).2.Balanced H k := by
  have hacq := h.acquire hm info
  rw [Manager.openWith]
  rcases ha : m.acquire meanwhile info with ⟨_ | c, m₁⟩ <;> rw [ha] at hacq
  · exact hacq
  · exact hacq.enroll

end Meanwhile

end Manager

end UsbPipe
