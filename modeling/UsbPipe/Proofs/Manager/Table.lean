/-
The parts of a manager, on any native layer.

What a native call, a hold taken and a hold given back change of a manager, and what the
table of channels looks like around one of them.

* `native_eq`, `retain_pool`, `retain_platform`, `release_pool`, `release_platform`: the
  manager after a native call, and after its operations on holds.
* `Manager.channelHolds`, `Manager.opened`, `Manager.channelIds`: what the table holds.
* `channels_split`, `channel?_of_mem`, `updateChannel_split`, `filter_updateChannel`: a channel
  in the table and its change.
* `emptied`: a channel after its close.
* `write_closed`, `receive_closed`, `closeChannel_closed`: what is done on a closed channel.
* `read_error`, `read_ok`, `read_manager`: a read into a buffer, by its native part.
* `Spent`, `spent_of_closed`: a channel that is closed or gone.
-/
import Mathlib.Tactic.Common
import Mathlib.Data.List.Nodup
import Mathlib.Data.List.Perm.Basic
import UsbPipe.Manager.Shutdown
import UsbPipe.Manager.Transfer
import UsbPipe.Proofs.Named

namespace UsbPipe

open Usb

namespace Manager

/-! ### Native calls and holds -/

section Calls

variable {σ δ η : Type} (m : Manager σ δ η)

lemma native_eq {α : Type} (call : σ → Except NativeError α × σ) :
    m.native call = ((call m.platform).1, { m with platform := (call m.platform).2 }) := rfl

variable [Platform σ δ η]

lemma retain_fst (key : DeviceKey) (device : δ) :
    (m.retain key device).1 = (m.pool.retain (Platform.same m.platform) key device).hold := rfl

lemma retain_pool (key : DeviceKey) (device : δ) :
    (m.retain key device).2.pool =
      (m.pool.retain (Platform.same m.platform) key device).pool := by
  simp only [retain, log]
  split_ifs <;> rfl

lemma retain_platform (key : DeviceKey) (device : δ) :
    (m.retain key device).2.platform =
      if (m.pool.retain (Platform.same m.platform) key device).origin = .shared then m.platform
      else Platform.retain device m.platform := by
  simp only [retain, log]
  split_ifs <;> rfl

lemma release_pool (h : Hold δ) : (m.release h).pool = (m.pool.release h).pool := by
  simp only [release, log]
  cases (m.pool.release h).left? <;> cases (m.pool.release h).dropped? <;> rfl

lemma release_platform (h : Hold δ) :
    (m.release h).platform = match (m.pool.release h).dropped? with
      | some device => Platform.drop device m.platform
      | none => m.platform := by
  simp only [release, log]
  cases (m.pool.release h).left? <;> cases (m.pool.release h).dropped? <;> rfl

end Calls

/-! ### The table of channels -/

section Table

variable {σ δ η : Type} (m : Manager σ δ η)

/-- The holds of the channels. -/
def channelHolds : List (Hold δ) := m.channels.filterMap Channel.hold?

/-- The channels that are not closed. -/
def opened : List (Channel δ η) := m.channels.filter (!·.isClosed)

/-- The ids of all channels. -/
def channelIds : List ℕ := m.channels.map Channel.id

/-- A channel with its handle and hold taken out. -/
def emptied (c : Channel δ η) : Channel δ η := { c with native? := none, hold? := none }

variable {m} {c : Channel δ η}

/-- The table around a channel: nobody else has its id. -/
lemma channels_split (h : m.channelIds.Nodup) (hc : c ∈ m.channels) :
    ∃ l₁ l₂, m.channels = l₁ ++ c :: l₂ ∧ ∀ d ∈ l₁ ++ l₂, d.id ≠ c.id := by
  obtain ⟨l₁, l₂, hl⟩ := List.append_of_mem hc
  refine ⟨l₁, l₂, hl, fun d hd he => ?_⟩
  rw [channelIds, hl, List.map_append, List.map_cons] at h
  have hnd := (List.perm_middle.nodup_iff.mp h)
  rw [← List.map_append] at hnd
  exact (List.nodup_cons.mp hnd).1 (he ▸ List.mem_map_of_mem hd)

/-- A change of one channel in the table. -/
lemma updateChannel_split {l₁ l₂ : List (Channel δ η)} (hl : m.channels = l₁ ++ c :: l₂)
    (hne : ∀ d ∈ l₁ ++ l₂, d.id ≠ c.id) (f : Channel δ η → Channel δ η) :
    (m.updateChannel c.id f).channels = l₁ ++ f c :: l₂ := by
  have hmap : ∀ l : List (Channel δ η), (∀ d ∈ l, d.id ≠ c.id) →
      (l.map fun d => if d.id = c.id then f d else d) = l := by
    intro l hl'
    refine (List.map_congr_left fun d hd => ?_).trans l.map_id
    rw [if_neg (hl' d hd)]
    rfl
  simp only [updateChannel, hl, List.map_append, List.map_cons, if_true]
  rw [hmap l₁ fun d hd => hne d (List.mem_append_left _ hd),
    hmap l₂ fun d hd => hne d (List.mem_append_right _ hd)]

/-- The channel under an id is in the table. -/
lemma channel?_mem {id : ℕ} (h : m.channel? id = some c) : c ∈ m.channels ∧ c.id = id :=
  ⟨List.mem_of_find?_eq_some h, by simpa using List.find?_some h⟩

/-- A channel in the table is the one under its id. -/
lemma channel?_of_mem (h : m.channelIds.Nodup) (hc : c ∈ m.channels) :
    m.channel? c.id = some c := by
  obtain ⟨d, hd⟩ : ∃ d, m.channel? c.id = some d := by
    rw [← Option.isSome_iff_exists, channel?, List.find?_isSome]
    exact ⟨c, hc, by simp⟩
  obtain ⟨hmem, hid⟩ := channel?_mem hd
  rw [hd, List.inj_on_of_nodup_map h hmem hc hid]

/-- Without the channel that was changed, the table is as it was. -/
lemma filter_updateChannel (id : ℕ) {f : Channel δ η → Channel δ η} (hid : ∀ c, (f c).id = c.id) :
    (m.updateChannel id f).channels.filter (·.id != id) = m.channels.filter (·.id != id) := by
  have hpick : (fun c : Channel δ η => c.id != id) ∘ (fun c => if c.id = id then f c else c) =
      fun c => c.id != id := by
    funext c
    by_cases h : c.id = id <;> simp [h, hid]
  rw [updateChannel, List.filter_map, hpick]
  refine (List.map_congr_left fun c hc => ?_).trans (List.map_id _)
  have hne : c.id ≠ id := by simpa using (List.mem_filter.mp hc).2
  rw [if_neg hne]
  rfl

/-- A change of a channel that keeps its id keeps all ids. -/
lemma channelIds_updateChannel (id : ℕ) {f : Channel δ η → Channel δ η}
    (hid : ∀ c, (f c).id = c.id) : (m.updateChannel id f).channelIds = m.channelIds := by
  rw [channelIds, updateChannel, List.map_map]
  refine List.map_congr_left fun c _ => ?_
  by_cases h : c.id = id <;> simp [h, hid]

section Closed

variable [Platform σ δ η] {id : ℕ}

/-- On a closed channel nothing is written. -/
lemma write_closed (hc : m.channel? id = some c) (hclosed : c.isClosed = true) (data : Bytes) :
    m.write id data = (.error .closed, m) := by
  rw [write, hc]
  simp only [transfer, Option.isNone_iff_eq_none.mp hclosed]

/-- Nor is anything read. -/
lemma receive_closed (hc : m.channel? id = some c) (hclosed : c.isClosed = true) (limit : ℕ) :
    m.receive id limit = (.error .closed, m) := by
  rw [receive, hc]
  simp only [transfer, Option.isNone_iff_eq_none.mp hclosed]

/-- A read whose native part fails gives the buffer back as it was. -/
lemma read_error {m' : Manager σ δ η} {e : UsbError} {buffer : Bytes}
    (h : m.receive id buffer.length = (.error e, m')) :
    m.read id buffer = (.error e, buffer, m') := by
  rw [read, h]

/-- One whose native part succeeds gives it back with the bytes in front. -/
lemma read_ok {m' : Manager σ δ η} {chunk buffer : Bytes}
    (h : m.receive id buffer.length = (.ok chunk, m')) :
    m.read id buffer = (.ok (ReadResult.ofChunk buffer chunk).count,
      (ReadResult.ofChunk buffer chunk).buffer, m') := by
  rw [read, h]

/-- The manager after a read is that after its native part. -/
lemma read_manager (m : Manager σ δ η) (id : ℕ) (buffer : Bytes) :
    (m.read id buffer).2.2 = (m.receive id buffer.length).2 := by
  rcases h : m.receive id buffer.length with ⟨e | chunk, m'⟩
  · rw [read_error h]
  · rw [read_ok h]

/-- Closing it again succeeds and changes nothing. -/
lemma closeChannel_closed (hclosed : c.isClosed = true) : m.closeChannel c = (.ok (), m) := by
  rw [closeChannel, closeNative, Option.isNone_iff_eq_none.mp hclosed]

/-- A channel that is closed or gone: closing it succeeds and changes nothing, transfers on it
fail without a native call, and dropping it takes it off the table. -/
structure Spent (m : Manager σ δ η) (id : ℕ) : Prop where
  close : m.close id = (.ok (), m)
  write : ∀ data, m.write id data = (.error .closed, m)
  read : ∀ buffer, m.read id buffer = (.error .closed, buffer, m)
  drop : m.dropChannel id = { m with channels := m.channels.filter (·.id != id) }

lemma spent_of_closed (h : ∀ c ∈ m.channels, c.id = id → c.isClosed = true) : m.Spent id := by
  cases hc : m.channel? id with
  | some c =>
      obtain ⟨hmem, hid⟩ := channel?_mem hc
      have hclosed := h c hmem hid
      refine ⟨?_, write_closed hc hclosed, fun buffer => ?_, ?_⟩
      · rw [close, hc]
        exact closeChannel_closed hclosed
      · exact read_error (receive_closed hc hclosed _)
      · rw [dropChannel, hc]
        simp only [closeChannel_closed hclosed]
  | none =>
      have hnone : m.channels.filter (·.id != id) = m.channels :=
        List.filter_eq_self.mpr fun c hmem => by
          simpa using List.find?_eq_none.mp hc c hmem
      refine ⟨?_, fun data => ?_, fun buffer => ?_, ?_⟩
      · rw [close, hc]
      · rw [write, hc]
      · exact read_error (by rw [receive, hc])
      · rw [dropChannel, hc, hnone]

end Closed

end Table

end Manager

end UsbPipe
