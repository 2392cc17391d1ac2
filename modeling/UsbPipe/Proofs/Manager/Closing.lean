/-
Closing channels and changing their timeouts, in a manager with balanced books.

A close empties the channel and gives its handle and its hold back, also when the native
release reports a failure.  Only a closed channel is forgotten.

* `Balanced.closeChannel`, `Balanced.close`: a close, whatever becomes of it.
* `Balanced.dropChannel`: a channel that goes out of use.
* `Balanced.setReadTimeout`, `Balanced.setWriteTimeout`: timeouts are no part of the books.
* `channelIds_close`, `channelIds_dropChannel`: the table of channels after each.
-/
import UsbPipe.Proofs.Manager.Balance

namespace UsbPipe

open Usb

namespace Manager

variable {m m' : Manager Bench Instance DeviceKey} {H H' : List (Hold Instance)} {k : ℕ}

/-! ### Closing -/

lemma deregister_releaseAll (hs : List (Hold Instance)) (id : ℕ) :
    (m.releaseAll hs).deregister id = (m.deregister id).releaseAll hs := by
  have hone : ∀ (m : Manager Bench Instance DeviceKey) x,
      (m.release x).deregister id = (m.deregister id).release x := by
    intro m x
    simp only [release, log, deregister]
    cases (m.pool.release x).left? <;> cases (m.pool.release x).dropped? <;> rfl
  induction hs generalizing m with
  | nil => rfl
  | cons x hs ih => exact (ih (m := m.release x)).trans (congrArg (releaseAll · hs) (hone m x))

/-- A channel that is emptied and no longer registered leaves its hold with the caller and
its handle over. -/
lemma Balanced.empty (h : m.Balanced H k) {c : Channel Instance DeviceKey} (hc : c ∈ m.channels)
    {handle : DeviceKey} (hn : c.native? = some handle) {x : Hold Instance}
    (hx : c.hold? = some x) :
    ((m.updateChannel c.id emptied).deregister c.id).Balanced (x :: H) (k + 1) := by
  obtain ⟨l₁, l₂, hl, hne⟩ := channels_split h.ids_nodup hc
  set m₁ := (m.updateChannel c.id emptied).deregister c.id with hm₁
  have hchan : m₁.channels = l₁ ++ emptied c :: l₂ := updateChannel_split hl hne emptied
  have hids : m₁.channelIds = m.channelIds := by simp [channelIds, hchan, hl, emptied]
  have hnot : ∀ l : List (Channel Instance DeviceKey), (∀ d ∈ l, d.id ≠ c.id) →
      ((l.filter (!·.isClosed)).map Channel.id).filter (· != c.id)
        = (l.filter (!·.isClosed)).map Channel.id := by
    intro l hl'
    refine filter_ne_eq_self fun id hid => ?_
    obtain ⟨d, hd, rfl⟩ := List.mem_map.mp hid
    exact hl' d (List.mem_filter.mp hd).1
  have hopen₁ := hnot l₁ fun d hd => hne d (List.mem_append_left _ hd)
  have hopen₂ := hnot l₂ fun d hd => hne d (List.mem_append_right _ hd)
  have hopened : m.opened.map Channel.id
      = (l₁.filter (!·.isClosed)).map Channel.id ++ c.id ::
        (l₂.filter (!·.isClosed)).map Channel.id := by
    simp [opened, hl, Channel.isClosed, hn]
  have hreg : m₁.registered = (l₁.filter (!·.isClosed)).map Channel.id
      ++ (l₂.filter (!·.isClosed)).map Channel.id := by
    show m.registered.filter (· != c.id) = _
    rw [h.registered_eq, hopened, List.filter_append, List.filter_cons_of_neg (by simp), hopen₁,
      hopen₂]
  have hcount : m.registered.length = m₁.registered.length + 1 := by
    rw [h.registered_eq, hopened, hreg]
    simp only [List.length_append, List.length_cons]
    omega
  refine ⟨?_, hids ▸ h.ids_nodup, ?_, ?_, ?_, ?_⟩
  · -- the hold of the channel moves to the caller
    have hholds : m.channelHolds.Perm (x :: m₁.channelHolds) := by
      simp only [channelHolds, hchan, hl, List.filterMap_append, List.filterMap_cons, hx, emptied]
      exact List.perm_middle
    have hst : m₁.Stocked (H ++ m.channelHolds) [] := h.stocked.congr rfl rfl rfl
    exact hst.perm ((hholds.append_left H).trans List.perm_middle)
  · intro id hid
    exact h.id_le id (hids ▸ hid)
  · rw [hreg, opened, hchan]
    simp [Channel.isClosed, emptied]
  · intro d hd
    rw [hchan] at hd
    rcases List.mem_append.mp hd with hd | hd
    · exact h.paired d (by simp [hl, hd])
    · rcases List.mem_cons.mp hd with rfl | hd
      · rfl
      · exact h.paired d (by simp [hl, hd])
  · have hopens := h.opens_eq
    show m.platform.calls.opens = m.platform.calls.closes + m₁.registered.length + (k + 1)
    omega

/-- Closing keeps the balance: hold and handle of the channel go back, and it is no longer
registered. -/
theorem Balanced.closeChannel (h : m.Balanced H k) {c : Channel Instance DeviceKey}
    (hc : c ∈ m.channels) : (m.closeChannel c).2.Balanced H k := by
  rw [Manager.closeChannel, Manager.closeNative]
  cases hn : c.native? with
  | none => exact h
  | some handle =>
      obtain ⟨x, hx⟩ : ∃ x, c.hold? = some x := by
        rw [← Option.isSome_iff_exists, h.paired c hc, hn]
        rfl
      have hempty := h.empty hc hn hx
      have hrel := hempty.congr (accounts_native_release (m := _) handle c.info.interface)
      have hclosed := (hrel.closeHandle handle).release
      refine Balanced.log ?_ _ _
      rw [hx, deregister_releaseAll]
      exact hclosed

lemma Balanced.close (h : m.Balanced H k) (id : ℕ) : (m.close id).2.Balanced H k := by
  rw [Manager.close]
  cases hc : m.channel? id with
  | none => exact h
  | some c => exact h.closeChannel (channel?_mem hc).1

/-- The table after a close: the channel is emptied, if it was not closed before. -/
lemma channels_closeChannel (c : Channel Instance DeviceKey) :
    (m.closeChannel c).2.channels =
      if c.isClosed then m.channels else (m.updateChannel c.id emptied).channels := by
  have hchan : ∀ (m : Manager Bench Instance DeviceKey) hs,
      (m.releaseAll hs).channels = m.channels := fun m hs =>
    congrArg (·.channels) (settled_releaseAll (m := m) hs)
  rw [Manager.closeChannel, Manager.closeNative, Channel.isClosed]
  cases c.native? with
  | none => rfl
  | some handle => exact hchan _ _

/-- After a close the channel under the id is closed. -/
lemma isClosed_of_closeChannel (h : m.channelIds.Nodup) {c : Channel Instance DeviceKey}
    (hc : c ∈ m.channels) :
    ∀ d ∈ (m.closeChannel c).2.channels, d.id = c.id → d.isClosed = true := by
  intro d hd hid
  rw [channels_closeChannel] at hd
  split_ifs at hd with hclosed
  · rwa [List.inj_on_of_nodup_map h hd hc hid]
  · obtain ⟨e, -, rfl⟩ := List.mem_map.mp hd
    by_cases he : e.id = c.id
    · rw [if_pos he]; rfl
    · rw [if_neg he] at hid; exact absurd hid he

/-- A closed channel may be forgotten. -/
lemma Balanced.forget (h : m.Balanced H k) {id : ℕ}
    (hclosed : ∀ d ∈ m.channels, d.id = id → d.isClosed = true) :
    { m with channels := m.channels.filter (·.id != id) }.Balanced H k := by
  set m₁ := { m with channels := m.channels.filter (·.id != id) } with hm₁
  have hsub : m₁.channels.Sublist m.channels := List.filter_sublist
  have hholds : m₁.channelHolds = m.channelHolds := by
    rw [channelHolds, List.filterMap_filter]
    refine List.filterMap_congr fun d hd => ?_
    by_cases hid : d.id = id
    · -- a closed channel has no hold
      have hpair := h.paired d hd
      have hcl := hclosed d hd hid
      rw [Channel.isClosed] at hcl
      cases hh : d.hold? <;> simp_all
    · simp [hid]
  have hopened : m₁.opened = m.opened := by
    rw [opened, List.filter_filter]
    refine List.filter_congr fun d hd => ?_
    by_cases hid : d.id = id
    · simp [hid, hclosed d hd hid]
    · simp [hid]
  exact
    { stocked := hholds ▸ h.stocked.congr rfl rfl rfl
      ids_nodup := (hsub.map _).nodup h.ids_nodup
      id_le := fun id hid => h.id_le id ((hsub.map _).subset hid)
      registered_eq := hopened ▸ h.registered_eq
      paired := fun d hd => h.paired d (hsub.subset hd)
      opens_eq := h.opens_eq }

/-- A channel that goes out of use keeps the balance. -/
theorem Balanced.dropChannel (h : m.Balanced H k) (id : ℕ) : (m.dropChannel id).Balanced H k := by
  rw [Manager.dropChannel]
  cases hc : m.channel? id with
  | none => exact h
  | some c =>
      obtain ⟨hmem, rfl⟩ := channel?_mem hc
      have hclose := h.closeChannel hmem
      have hclosed := isClosed_of_closeChannel h.ids_nodup hmem
      rcases hr : m.closeChannel c with ⟨_ | ⟨⟩, m₁⟩ <;> rw [hr] at hclose hclosed
      · simpa [hr] using (hclose.log .warn _).forget hclosed
      · simpa [hr] using hclose.forget hclosed

/-! ### The ids in the table -/

@[simp] lemma channelIds_setReadTimeout (id : ℕ) (t : Option Duration) :
    (m.setReadTimeout id t).channelIds = m.channelIds :=
  channelIds_updateChannel id fun _ => rfl

@[simp] lemma channelIds_setWriteTimeout (id : ℕ) (t : Option Duration) :
    (m.setWriteTimeout id t).channelIds = m.channelIds :=
  channelIds_updateChannel id fun _ => rfl

@[simp] lemma channelIds_closeChannel (c : Channel Instance DeviceKey) :
    (m.closeChannel c).2.channelIds = m.channelIds := by
  rw [channelIds, channels_closeChannel]
  split_ifs
  · rfl
  · exact channelIds_updateChannel c.id fun _ => rfl

@[simp] lemma channelIds_close (id : ℕ) : (m.close id).2.channelIds = m.channelIds := by
  rw [Manager.close]
  cases m.channel? id with
  | none => rfl
  | some c => exact channelIds_closeChannel c

/-- A channel that goes out of use takes its id with it. -/
lemma channelIds_dropChannel (id : ℕ) :
    (m.dropChannel id).channelIds = m.channelIds.filter (· != id) := by
  have hforget : ∀ m : Manager Bench Instance DeviceKey,
      { m with channels := m.channels.filter (·.id != id) }.channelIds =
        m.channelIds.filter (· != id) := by
    intro m
    rw [channelIds, channelIds, List.filter_map]
    rfl
  rw [Manager.dropChannel]
  cases hc : m.channel? id with
  | none =>
      refine (filter_ne_eq_self fun x hx => ?_).symm
      obtain ⟨c, hmem, rfl⟩ := List.mem_map.mp hx
      simpa using List.find?_eq_none.mp hc c hmem
  | some c =>
      have hids := channelIds_closeChannel (m := m) c
      rcases hr : m.closeChannel c with ⟨_ | ⟨⟩, m₁⟩ <;> rw [hr] at hids
      · simpa [hr] using (hforget (m₁.log .warn _)).trans (by rw [← hids]; rfl)
      · simpa [hr] using (hforget m₁).trans (by rw [← hids])

/-! ### Timeouts -/

/-- A change of a channel that keeps its id, handle and hold. -/
lemma Balanced.updateChannel (h : m.Balanced H k) (id : ℕ)
    {f : Channel Instance DeviceKey → Channel Instance DeviceKey} (hid : ∀ c, (f c).id = c.id)
    (hnative : ∀ c, (f c).native? = c.native?) (hhold : ∀ c, (f c).hold? = c.hold?) :
    (m.updateChannel id f).Balanced H k := by
  have hsame : ∀ c : Channel Instance DeviceKey, (if c.id = id then f c else c).id = c.id ∧
      (if c.id = id then f c else c).native? = c.native? ∧
      (if c.id = id then f c else c).hold? = c.hold? := by
    intro c
    split_ifs
    · exact ⟨hid c, hnative c, hhold c⟩
    · exact ⟨rfl, rfl, rfl⟩
  have hholds : (m.updateChannel id f).channelHolds = m.channelHolds := by
    rw [channelHolds, Manager.updateChannel, List.filterMap_map]
    exact List.filterMap_congr fun c _ => (hsame c).2.2
  have hids : (m.updateChannel id f).channelIds = m.channelIds := channelIds_updateChannel id hid
  have hopened : (m.updateChannel id f).opened.map Channel.id = m.opened.map Channel.id := by
    simp only [opened, Manager.updateChannel, List.filter_map, List.map_map]
    have hfilter : ((fun c : Channel Instance DeviceKey => !c.isClosed) ∘ fun c =>
        if c.id = id then f c else c) = fun c => !c.isClosed := by
      funext c
      simp only [Function.comp_apply, Channel.isClosed, (hsame c).2.1]
    rw [hfilter]
    exact List.map_congr_left fun c _ => (hsame c).1
  refine ⟨hholds ▸ h.stocked.congr rfl rfl rfl, hids ▸ h.ids_nodup, hids ▸ h.id_le,
    hopened ▸ h.registered_eq, fun d hd => ?_, h.opens_eq⟩
  obtain ⟨c, hc, rfl⟩ := List.mem_map.mp hd
  rw [(hsame c).2.1, (hsame c).2.2]
  exact h.paired c hc

lemma Balanced.setReadTimeout (h : m.Balanced H k) (id : ℕ) (t : Option Duration) :
    (m.setReadTimeout id t).Balanced H k :=
  h.updateChannel id (fun _ => rfl) (fun _ => rfl) (fun _ => rfl)

lemma Balanced.setWriteTimeout (h : m.Balanced H k) (id : ℕ) (t : Option Duration) :
    (m.setWriteTimeout id t).Balanced H k :=
  h.updateChannel id (fun _ => rfl) (fun _ => rfl) (fun _ => rfl)

end Manager

end UsbPipe
