/-
What an open is on.

An open looks for its interface in a new scan, limited to the ids it is asked for, and takes
the first record on the same port and with the same interface number.  Its channel has that
record's interface, and the native handle and the hold of the device behind the record.

* `scan_infos`: the records of a scan, read off the devices.
* `resolve_ok`, `openWith_ok`: an open that succeeds is on the first record of a complete scan
  for its ids that is in the same place.
* `channel_openWith`: the channel that it adds to the table.
* `Channel.Wired`, `Balanced.wired_openWith`: that channel has a handle on its own device, and
  two raw endpoints.
* `Manager.Wired`: all channels on the table do, and still do after opens, closes and drops.
-/
import UsbPipe.Proofs.Manager.Closing
import UsbPipe.Proofs.Manager.Opening
import UsbPipe.Proofs.Scan.Pipes

namespace UsbPipe

open Usb

/-- The native handle of a channel, if it has one, is on the device of its interface, and its
endpoints are bulk or interrupt endpoints. -/
structure Channel.Wired (c : Channel Instance DeviceKey) : Prop where
  native : ∀ handle, c.native? = some handle → handle = c.info.key
  reader : c.info.reader.transferType.isRaw = true
  writer : c.info.writer.transferType.isRaw = true

namespace Manager

variable {m m' : Manager Bench Instance DeviceKey}
variable {meanwhile : Manager Bench Instance DeviceKey → Manager Bench Instance DeviceKey}
variable {info : RawInterface}

/-! ### Scans by an entry -/

/-- The entry to a scan or an open changes nothing that a scan reads. -/
lemma scanItems_ready (f : Filter) :
    Platform.scanItems m.ready.2.platform f = Platform.scanItems m.platform f :=
  scanItems_congr (congrArg (·.platform.attached) (bystanders_ready (m := m)))
    (congrArg (·.platform.failures) (bystanders_ready (m := m))) f

/-- A scan finds what stands before the first failure of its walk, or is refused. -/
lemma scan_infos (m : Manager Bench Instance DeviceKey) (f : Filter) :
    (m.scan f).1.found = [] ∨
      (m.scan f).1.outcome = walked (Platform.scanItems m.platform f) := by
  have hitems := scanItems_ready (m := m) f
  rw [scan]
  rcases hr : m.ready with ⟨_ | ⟨⟩, m₁⟩ <;> rw [hr] at hitems
  · exact Or.inl rfl
  · exact Or.inr ((walk_eq_walked m₁ f).trans (congrArg walked hitems))

/-! ### Opens -/

/-- A rescan that succeeds is complete, and gives its first record in the place. -/
lemma resolve_ok {f : Found Instance} (h : (m.resolve info).1 = .ok f) :
    ∃ infos, walked (Platform.scanItems m.platform (idsOf info)) = (infos, none) ∧
      infos.find? (·.samePlace info) = some f.info := by
  have hwalk := walk_eq_walked m (idsOf info)
  rw [resolve] at h
  rcases hw : m.walk (idsOf info) with ⟨⟨found, _ | e⟩, m₁⟩ <;> rw [hw] at h hwalk
  · have hsel := select_fst (m := m₁) info found
    simp only [complete] at h
    rcases hs : select info found m₁ with ⟨_ | g, m₂⟩ <;> rw [hs] at h hsel
    · cases h
    · cases h
      refine ⟨found.map Found.info, hwalk.symm, ?_⟩
      rw [List.find?_map]
      exact congrArg (Option.map Found.info) hsel.symm
  · cases h

lemma info_of_claimFound {f : Found Instance} {c : Claimed Instance DeviceKey}
    (h : (m.claimFound meanwhile f).1 = .ok c) : c.info = f.info := by
  rw [claimFound] at h
  rcases ho : m.native (Platform.openDevice f.hold.device) with ⟨_ | handle, m₁⟩ <;> rw [ho] at h
  · cases h
  · simp only at h
    generalize Manager.log _ _ _ = m₂ at h
    rcases hp : m₂.prepare meanwhile handle f.info.interface with ⟨_ | ⟨⟩, m₃⟩ <;> rw [hp] at h
    · cases h
    · cases h
      rfl

/-- A claimed interface that is enrolled has a channel. -/
lemma enroll_ok {c : Claimed Instance DeviceKey} {o : Opened} (h : m.enroll c = (.ok o, m')) :
    o.info = c.info ∧ ∃ d ∈ m'.channels, d.id = o.id ∧ d.info = o.info ∧ d.isClosed = false := by
  rw [enroll, register] at h
  split_ifs at h
  · cases h
  · cases h
    exact ⟨rfl, _, List.mem_append_right _ (List.mem_singleton_self _), rfl, rfl, rfl⟩

/-- An open that succeeds is on the first record in the place of a complete scan for the ids,
and has a channel there. -/
theorem openWith_ok {o : Opened} (h : m.openWith meanwhile info = (.ok o, m')) :
    (∃ infos, walked (Platform.scanItems m.platform (idsOf info)) = (infos, none) ∧
      infos.find? (·.samePlace info) = some o.info) ∧
    ∃ d ∈ m'.channels, d.id = o.id ∧ d.info = o.info ∧ d.isClosed = false := by
  have hitems := scanItems_ready (m := m) (idsOf info)
  rw [openWith, acquire] at h
  rcases hr : m.ready with ⟨_ | ⟨⟩, m₁⟩ <;> rw [hr] at h hitems
  · cases h
  · simp only at h
    rcases hs : m₁.resolve info with ⟨_ | f, m₂⟩ <;> rw [hs] at h
    · cases h
    · simp only at h
      rcases hc : m₂.claimFound meanwhile f with ⟨_ | c, m₃⟩ <;> rw [hc] at h
      · cases h
      · obtain ⟨hinfo, hchannel⟩ := enroll_ok h
        have hclaim : c.info = f.info := info_of_claimFound (congrArg Prod.fst hc)
        obtain ⟨infos, hwalked, hfind⟩ := resolve_ok (congrArg Prod.fst hs)
        rw [hitems] at hwalked
        rw [← hclaim, ← hinfo] at hfind
        exact ⟨⟨infos, hwalked, hfind⟩, hchannel⟩

/-- The channel that an open adds has the interface of its target, and the handle and the hold
of the device behind it. -/
lemma channel_openWith (hm : OnlyShutdown meanwhile) {o : Opened}
    (h : m.openWith meanwhile info = (.ok o, m')) :
    ∃ f, m.target? info = some f ∧ o.info = f.info ∧ m'.channels = m.channels ++
      [⟨o.id, f.info, some f.hold.device.spec.key, some f.hold, none, none⟩] := by
  have hacq := bystanders_acquire (m := m) hm info
  rw [openWith] at h
  rcases ha : m.acquire meanwhile info with ⟨_ | c, m₁⟩ <;> rw [ha] at h hacq
  · cases h
  · obtain ⟨f, hf, rfl, heq⟩ := hacq
    have hchannels : m₁.channels = m.channels := congrArg (·.channels) heq
    simp only [enroll, register] at h
    split_ifs at h
    · cases h
    · cases h
      exact ⟨f, hf, rfl, congrArg (· ++ _) hchannels⟩

/-- The target of an open has raw endpoints. -/
lemma isRaw_of_target? {f : Found Instance} (hf : m.target? info = some f) :
    f.info.reader.transferType.isRaw = true ∧ f.info.writer.transferType.isRaw = true := by
  rw [target?] at hf
  rcases hr : m.ready with ⟨_ | ⟨⟩, m₁⟩ <;> rw [hr] at hf
  · cases hf
  · simp only at hf
    cases hres : (m₁.resolve info).1 with
    | error e => simp [hres, Except.toOption] at hf
    | ok g =>
        obtain rfl : g = f := by simpa [hres, Except.toOption] using hf
        obtain ⟨infos, hwalked, hfind⟩ := resolve_ok hres
        refine isRaw_of_mem_walked (b := m₁.platform) (f := idsOf info) ?_
        rw [hwalked]
        exact List.mem_of_find?_eq_some hfind

/-- The channel that an open adds is wired. -/
lemma Balanced.wired_openWith {H : List (Hold Instance)} {k : ℕ} (h : m.Balanced H k)
    (hm : OnlyShutdown meanwhile) {o : Opened} (ho : m.openWith meanwhile info = (.ok o, m')) :
    ∃ c : Channel Instance DeviceKey, m'.channels = m.channels ++ [c] ∧ c.id = o.id ∧
      c.info = o.info ∧ c.isClosed = false ∧ c.readTimeout = none ∧ c.writeTimeout = none ∧
      c.Wired := by
  obtain ⟨f, hf, hinfo, hchannels⟩ := channel_openWith hm ho
  obtain ⟨hreader, hwriter⟩ := isRaw_of_target? hf
  refine ⟨_, hchannels, rfl, hinfo.symm, rfl, rfl, rfl, ?_, hreader, hwriter⟩
  intro handle hhandle
  cases hhandle
  exact h.key_of_target? hf

/-! ### Wired tables -/

/-- All channels on the table are wired. -/
def Wired (m : Manager Bench Instance DeviceKey) : Prop := ∀ c ∈ m.channels, c.Wired

namespace Wired

lemma congr (h : m.Wired) (hm : m'.channels = m.channels) : m'.Wired := fun c hc =>
  h c (hm ▸ hc)

lemma updateChannel (h : m.Wired) (id : ℕ)
    {f : Channel Instance DeviceKey → Channel Instance DeviceKey}
    (hf : ∀ c, c.Wired → (f c).Wired) : (m.updateChannel id f).Wired := by
  intro c hc
  obtain ⟨d, hd, rfl⟩ := List.mem_map.mp hc
  split_ifs
  · exact hf d (h d hd)
  · exact h d hd

lemma setReadTimeout (h : m.Wired) (id : ℕ) (t : Option Duration) :
    (m.setReadTimeout id t).Wired :=
  h.updateChannel id fun _ hc => ⟨hc.native, hc.reader, hc.writer⟩

lemma setWriteTimeout (h : m.Wired) (id : ℕ) (t : Option Duration) :
    (m.setWriteTimeout id t).Wired :=
  h.updateChannel id fun _ hc => ⟨hc.native, hc.reader, hc.writer⟩

/-- A channel that is closed has no handle left. -/
lemma closeChannel (h : m.Wired) (c : Channel Instance DeviceKey) :
    (m.closeChannel c).2.Wired := by
  have hchannels := channels_closeChannel (m := m) c
  split_ifs at hchannels
  · exact h.congr hchannels
  · have hempty : ∀ d : Channel Instance DeviceKey, d.Wired → (emptied d).Wired := fun d hd =>
      ⟨fun handle hn => by simp [emptied] at hn, hd.reader, hd.writer⟩
    exact (h.updateChannel c.id hempty).congr hchannels

lemma close (h : m.Wired) (id : ℕ) : (m.close id).2.Wired := by
  rw [Manager.close]
  cases m.channel? id with
  | none => exact h
  | some c => exact h.closeChannel c

lemma dropChannel (h : m.Wired) (id : ℕ) : (m.dropChannel id).Wired := by
  rw [Manager.dropChannel]
  cases m.channel? id with
  | none => exact h
  | some c =>
      have hclose := h.closeChannel c
      simp only
      rcases hc : m.closeChannel c with ⟨_ | ⟨⟩, m₁⟩ <;> rw [hc] at hclose <;>
        exact fun d hd => hclose d (List.mem_filter.mp hd).1

lemma openWith (h : m.Wired) {H : List (Hold Instance)} {k : ℕ} (hb : m.Balanced H k)
    (hm : OnlyShutdown meanwhile) (info : RawInterface) : (m.openWith meanwhile info).2.Wired := by
  rcases ho : m.openWith meanwhile info with ⟨e | o, m₁⟩
  · rcases bystanders_openWith_error hm ho with ⟨n, -, heq⟩ | ⟨f, -, heq⟩ <;>
      exact h.congr (congrArg (·.channels) heq)
  · obtain ⟨c, hchannels, -, -, -, -, -, hc⟩ := hb.wired_openWith hm ho
    intro d hd
    rw [hchannels] at hd
    rcases List.mem_append.mp hd with hd | hd
    · exact h d hd
    · rw [List.mem_singleton.mp hd]
      exact hc

end Wired

end Manager

end UsbPipe
