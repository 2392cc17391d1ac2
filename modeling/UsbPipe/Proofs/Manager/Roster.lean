/-
The roster of a manager: its channels, those of them that keep a shutdown waiting, and the
last id given out.

On any native layer, and whatever that answers, only four things touch the roster: an open
that succeeds adds a channel, a close empties one and takes it off the registry, a drop takes
one off the table as well, and timeouts are set.

* `Roster`, `Manager.roster`.
* `roster_frame`, `roster_opening`: what leaves the roster alone; `roster_enumerate`,
  `roster_acquire`, `roster_write` and the like.
* `roster_openWith`, `roster_closeChannel`, `roster_dropChannel`: what does not.
* `Roster.Joined`: a roster with one channel more, and what becomes of that channel.
-/
import UsbPipe.Proofs.Manager.Frame

namespace UsbPipe

open Usb

/-- The channels, the ids of those that keep a shutdown waiting, and the last id given out. -/
structure Roster (δ η : Type) where
  channels : List (Channel δ η)
  registered : List ℕ
  lastId : ℕ

namespace Manager

/-- The roster of a manager. -/
def roster {σ δ η : Type} (m : Manager σ δ η) : Roster δ η :=
  ⟨m.channels, m.registered, m.lastId⟩

section Frame

variable {σ δ η : Type} {m : Manager σ δ η}

/-! ### The last channel of the table -/

/-- The last channel of a table, where nobody else has its id, is the one under that. -/
lemma channel?_last {l : List (Channel δ η)} {c : Channel δ η} {id : ℕ}
    (hl : m.channels = l ++ [c]) (hid : c.id = id) (hne : ∀ d ∈ l, d.id ≠ id) :
    m.channel? id = some c := by
  have hold : l.find? (·.id == id) = none := by
    rw [List.find?_eq_none]
    intro d hd
    simpa using hne d hd
  rw [channel?, hl, List.find?_append, hold]
  simp [hid]

/-- A change of it is a change at the end of the table. -/
lemma updateChannel_last {l : List (Channel δ η)} {c : Channel δ η} {id : ℕ}
    (hl : m.channels = l ++ [c]) (hid : c.id = id) (hne : ∀ d ∈ l, d.id ≠ id)
    (f : Channel δ η → Channel δ η) : (m.updateChannel id f).channels = l ++ [f c] := by
  subst hid
  exact updateChannel_split hl (by simpa using hne) f

/-! ### What leaves the roster alone -/

/-- Events are nothing to the roster. -/
lemma roster_frame (t : Roster δ η) : Frame fun m : Manager σ δ η => m.roster = t :=
  ⟨fun _ _ _ h => h⟩

@[simp] lemma roster_beginShutdown : m.beginShutdown.roster = m.roster :=
  (roster_frame m.roster).beginShutdown rfl rfl

variable [Platform σ δ η]

/-- Nor are native calls, and holds taken or given back. -/
lemma roster_opening (t : Roster δ η) : Frame.Opening fun m : Manager σ δ η => m.roster = t where
  toFrame := roster_frame t
  release m h ht := by
    simp only [release, log]
    cases (m.pool.release h).left? <;> cases (m.pool.release h).dropped? <;> exact ht
  ready m ht := (roster_frame t).ready ht ht ht
  walk m filter ht := by
    refine (roster_frame t).walk ht (fun m key device ht => ?_) (fun _ _ ht => ht) filter
    simp only [retain, log]
    split_ifs <;> exact ht
  autoDetach _ _ ht := ht
  detach _ _ _ ht := ht
  claim _ _ _ ht := ht
  yield _ _ _ ht := ht
  closeHandle _ _ ht := ht
  openDevice _ _ ht := ht

@[simp] lemma roster_shutdownNow : m.shutdownNow.2.roster = m.roster :=
  (roster_frame m.roster).shutdownNow roster_beginShutdown
    ((roster_frame m.roster).teardown roster_beginShutdown roster_beginShutdown)

@[simp] lemma roster_releaseAll (hs : List (Hold δ)) : (m.releaseAll hs).roster = m.roster :=
  (roster_opening m.roster).releaseAll rfl hs

@[simp] lemma roster_discard (fs : List (Found δ)) : (m.discard fs).roster = m.roster :=
  roster_releaseAll _

@[simp] lemma roster_enumerate (filter : Filter) :
    (m.enumerate filter).2.roster = m.roster :=
  (roster_opening m.roster).enumerate rfl filter

@[simp] lemma roster_write (id : ℕ) (data : Bytes) : (m.write id data).2.roster = m.roster :=
  (roster_frame m.roster).write rfl (fun _ _ _ _ => rfl) id

@[simp] lemma roster_receive (id limit : ℕ) : (m.receive id limit).2.roster = m.roster :=
  (roster_frame m.roster).receive rfl (fun _ _ _ _ => rfl) id

section Meanwhile

variable {meanwhile : Manager σ δ η → Manager σ δ η}

/-- An open up to its claim leaves the roster alone. -/
lemma roster_acquire (hm : ∀ m, (meanwhile m).roster = m.roster) (info : RawInterface) :
    (m.acquire meanwhile info).2.roster = m.roster :=
  (roster_opening m.roster).acquire (fun m₁ ht => (hm m₁).trans ht) rfl info

/-! ### What changes the roster -/

/-- An open that fails leaves the roster alone.  One that succeeds adds an open channel
without timeouts, under the next id. -/
theorem roster_openWith (hm : ∀ m, (meanwhile m).roster = m.roster) (info : RawInterface) :
    match m.openWith meanwhile info with
    | (.error _, m') => m'.roster = m.roster
    | (.ok o, m') => o.id = m.lastId + 1 ∧ ∃ c : Channel δ η, c.id = o.id ∧ c.info = o.info ∧
        c.isClosed = false ∧ c.readTimeout = none ∧ c.writeTimeout = none ∧
        m'.roster = ⟨m.channels ++ [c], m.registered ++ [o.id], o.id⟩ := by
  have hacq := roster_acquire (m := m) hm info
  rw [openWith]
  rcases ha : m.acquire meanwhile info with ⟨_ | c, m₁⟩ <;> rw [ha] at hacq
  · exact hacq
  · have hchannels : m₁.channels = m.channels := congrArg Roster.channels hacq
    have hregistered : m₁.registered = m.registered := congrArg Roster.registered hacq
    have hlast : m₁.lastId = m.lastId := congrArg Roster.lastId hacq
    simp only [enroll, register]
    by_cases hdown : m₁.shuttingDown = true
    · simp only [hdown, if_true]
      exact (roster_opening m.roster).abandon hacq c
    · simp only [hdown, Bool.false_eq_true, if_false]
      refine ⟨by rw [hlast], ⟨m₁.lastId + 1, c.info, some c.native, some c.hold, none, none⟩,
        rfl, rfl, rfl, rfl, rfl, ?_⟩
      simp only [roster, establish, log, hchannels, hregistered, hlast]

/-- A close empties an open channel and takes it off the registry. -/
lemma roster_closeChannel (c : Channel δ η) :
    (m.closeChannel c).2.roster =
      if c.isClosed then m.roster
      else ((m.updateChannel c.id emptied).deregister c.id).roster := by
  have hdereg : ∀ m : Manager σ δ η, (m.deregister c.id).roster =
      { m.roster with registered := m.roster.registered.filter (· != c.id) } := fun _ => rfl
  rw [closeChannel, closeNative, Channel.isClosed]
  cases c.native? with
  | none => rfl
  | some handle =>
      exact (hdereg _).trans (congrArg (fun t : Roster δ η =>
        { t with registered := t.registered.filter (· != c.id) }) (roster_releaseAll _))

/-- A drop is a close that takes the channel off the table as well. -/
lemma roster_dropChannel (id : ℕ) :
    (m.dropChannel id).roster = match m.channel? id with
      | none => m.roster
      | some c => { (m.closeChannel c).2.roster with
          channels := (m.closeChannel c).2.channels.filter (·.id != id) } := by
  rw [dropChannel]
  cases m.channel? id with
  | none => rfl
  | some c =>
      simp only
      rcases m.closeChannel c with ⟨_ | ⟨⟩, m₁⟩ <;> rfl

end Meanwhile

end Frame

end Manager

/-! ### One channel more -/

namespace Roster

variable {σ δ η : Type}

/-- No channel and no registration is ahead of the last id. -/
structure Dated (t : Roster δ η) : Prop where
  channels : ∀ c ∈ t.channels, c.id ≤ t.lastId
  registered : ∀ id ∈ t.registered, id ≤ t.lastId

/-- A roster with one channel more, under an id of its own, which is registered unless it is
closed. -/
structure Joined (t : Roster δ η) (id : ℕ) (t' : Roster δ η) : Prop where
  new : ∀ c ∈ t.channels, c.id ≠ id
  unregistered : id ∉ t.registered
  joined : ∃ c, t'.channels = t.channels ++ [c] ∧ c.id = id ∧
    t'.registered = t.registered ++ if c.isClosed then [] else [id]

namespace Joined

open Manager

variable {t : Roster δ η} {id : ℕ} {m m' : Manager σ δ η}

lemma congr (h : t.Joined id m.roster) (hm : m'.roster = m.roster) : t.Joined id m'.roster :=
  hm ▸ h

/-- A change of the new channel that leaves it open or closed as it is. -/
lemma update (h : t.Joined id m.roster) {f : Channel δ η → Channel δ η}
    (hid : ∀ c, (f c).id = c.id) (hclosed : ∀ c, (f c).isClosed = c.isClosed) :
    t.Joined id (m.updateChannel id f).roster := by
  obtain ⟨c, hc, hcid, hreg⟩ := h.joined
  exact ⟨h.new, h.unregistered, f c, updateChannel_last hc hcid h.new f, (hid c).trans hcid,
    by rw [hclosed]; exact hreg⟩

variable [Platform σ δ η]

/-- Its close leaves it in the table. -/
lemma closeChannel (h : t.Joined id m.roster) {c : Channel δ η} (hfind : m.channel? id = some c) :
    t.Joined id (m.closeChannel c).2.roster := by
  obtain ⟨d, hd, hid, hreg⟩ := h.joined
  obtain rfl : d = c := Option.some.inj ((channel?_last hd hid h.new).symm.trans hfind)
  rw [roster_closeChannel]
  split_ifs with hclosed
  · exact h
  · refine ⟨h.new, h.unregistered, emptied d, ?_, hid, ?_⟩
    · exact updateChannel_last (m := m) hd rfl (hid ▸ h.new) emptied
    · have hold : t.registered.filter (· != id) = t.registered := by
        refine List.filter_eq_self.mpr fun x hx => ?_
        rw [bne_iff_ne]
        rintro rfl
        exact h.unregistered hx
      rw [if_neg hclosed] at hreg
      show m.registered.filter (· != d.id) = _
      have hnow : m.registered = t.registered ++ [id] := hreg
      rw [hnow, hid, List.filter_append, hold]
      simp [emptied, Channel.isClosed]

lemma close (h : t.Joined id m.roster) : t.Joined id (m.close id).2.roster := by
  rw [Manager.close]
  cases hc : m.channel? id with
  | none => exact h
  | some c => exact h.closeChannel hc

/-- Once it is dropped, the others are left. -/
lemma dropChannel (h : t.Joined id m.roster) :
    (m.dropChannel id).channels = t.channels ∧ (m.dropChannel id).registered = t.registered := by
  obtain ⟨c, hc, hid, -⟩ := h.joined
  have hfind : m.channel? id = some c := channel?_last hc hid h.new
  have hdrop := roster_dropChannel (m := m) id
  rw [hfind] at hdrop
  have hclose := h.closeChannel hfind
  obtain ⟨d, hd, hdid, hreg⟩ := hclose.joined
  have hgone : d.isClosed = true := by
    have hnative : (m.closeChannel c).2.roster.channels = (m.closeChannel c).2.channels := rfl
    rw [roster_closeChannel] at hd
    split_ifs at hd with hclosed
    · have hlast := List.append_cancel_left (hc.symm.trans hd)
      rw [← List.singleton_inj.mp hlast]
      exact hclosed
    · have hup := updateChannel_last hc rfl (hid ▸ h.new) emptied
      have hlast := List.append_cancel_left (hup.symm.trans hd)
      rw [← List.singleton_inj.mp hlast]
      rfl
  have hchannels : (m.dropChannel id).channels =
      (m.closeChannel c).2.channels.filter (·.id != id) := congrArg Roster.channels hdrop
  have hregistered : (m.dropChannel id).registered = (m.closeChannel c).2.registered :=
    congrArg Roster.registered hdrop
  have hd' : (m.closeChannel c).2.channels = t.channels ++ [d] := hd
  have hreg' : (m.closeChannel c).2.registered =
      t.registered ++ if d.isClosed then [] else [id] := hreg
  refine ⟨?_, ?_⟩
  · have hold : t.channels.filter (·.id != id) = t.channels :=
      List.filter_eq_self.mpr fun e he => by simpa using h.new e he
    rw [hchannels, hd', List.filter_append, hold]
    simp [hdid]
  · rw [hregistered, hreg', hgone]
    simp

end Joined

end Roster

end UsbPipe
