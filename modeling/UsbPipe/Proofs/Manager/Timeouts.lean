/-
What the native layer makes of a timeout.

A timeout is rounded up to whole milliseconds, but from its whole microseconds: nanoseconds
beyond these are dropped first.  So it is given in full, unless it is a millisecond or more and
goes beyond its whole milliseconds by less than a microsecond; then it is cut by that.

Timeouts are ordered with no timeout as the longest one, also for the native layer, where it is
written as zero.  The rounding keeps that order, and a transfer that is not broken off under a
timeout is not broken off under a longer one.

* `Duration.Needs`, `Duration.RoundsTo`: the milliseconds for a length of time, and those given.
* `roundsTo_nativeTimeout`: how a timeout that is not too long is rounded.
* `allowance`, `Duration.patience`: the order of timeouts; `patience_nativeTimeout_mono`.
* `Behaviour.outcome_mono`: a transfer under a longer timeout.
* `write_told`, `receive_told`: what a transfer on an open channel comes back with.
-/
import Mathlib.Data.ENat.Basic
import Mathlib.Order.Bounds.Basic
import UsbPipe.Proofs.Manager.TransferLog

namespace UsbPipe

open Usb

/-! ### Rounding -/

namespace Duration

/-- The length without the nanoseconds beyond its whole microseconds. -/
def cut (d : Duration) : Duration := ⟨d.microseconds * 1000⟩

/-- The smallest number of milliseconds, at least one, that is no less than the length. -/
def Needs (d : Duration) (ms : ℕ) : Prop :=
  IsLeast {n | 1 ≤ n ∧ d.nanoseconds ≤ (ofMilliseconds n).nanoseconds} ms

/-- A length of a millisecond or more that goes beyond its whole milliseconds, but by less than
a microsecond. -/
def Overhangs (d : Duration) : Prop :=
  1000000 ≤ d.nanoseconds ∧ 0 < d.nanoseconds % 1000000 ∧ d.nanoseconds % 1000000 < 1000

/-- A length and what is given for it: the milliseconds that its whole microseconds need, which
are those that it needs itself unless it overhangs, and never a microsecond less. -/
def RoundsTo (d given : Duration) : Prop :=
  ∃ ms, given = .ofMilliseconds ms ∧ d.cut.Needs ms ∧ (d.Needs ms ↔ ¬ d.Overhangs) ∧
    d.nanoseconds < given.nanoseconds + 1000

/-- The milliseconds that a length needs, by division. -/
lemma needs_iff {d : Duration} {ms : ℕ} :
    d.Needs ms ↔ ms = max ((d.nanoseconds + 999999) / 1000000) 1 := by
  have hleast : IsLeast {n | 1 ≤ n ∧ d.nanoseconds ≤ (ofMilliseconds n).nanoseconds}
      (max ((d.nanoseconds + 999999) / 1000000) 1) := by
    refine ⟨⟨le_max_right _ _, ?_⟩, fun n hn => ?_⟩
    · simp only [ofMilliseconds]
      omega
    · obtain ⟨hone, hlong⟩ : 1 ≤ n ∧ d.nanoseconds ≤ n * 1000000 := hn
      omega
  exact ⟨fun h => h.unique hleast, fun h => h ▸ hleast⟩

end Duration

/-- How a timeout is rounded that is not longer than the longest one of the native layer. -/
theorem roundsTo_nativeTimeout {d : Duration}
    (h : d.nanoseconds ≤ (Duration.ofMilliseconds maxTimeoutMs).nanoseconds) :
    d.RoundsTo (nativeTimeout (some d)) := by
  simp only [Duration.ofMilliseconds, maxTimeoutMs] at h
  refine ⟨timeoutMs d, rfl, ?_, ?_, ?_⟩
  · simp only [Duration.needs_iff, Duration.cut, timeoutMs, Duration.microseconds, maxTimeoutMs]
    omega
  · simp only [Duration.needs_iff, Duration.Overhangs, timeoutMs, Duration.microseconds,
      maxTimeoutMs]
    omega
  · simp only [nativeTimeout, Duration.ofMilliseconds, timeoutMs, Duration.microseconds,
      maxTimeoutMs]
    omega

/-! ### The order of timeouts -/

/-- The nanoseconds that a timeout allows. -/
def allowance : Option Duration → ℕ∞
  | none => ⊤
  | some d => d.nanoseconds

/-- The nanoseconds that the native layer waits. -/
def Duration.patience (native : Duration) : ℕ∞ :=
  if native = .zero then ⊤ else native.nanoseconds

lemma timeoutMs_mono {d d' : Duration} (h : d.nanoseconds ≤ d'.nanoseconds) :
    timeoutMs d ≤ timeoutMs d' := by
  have hmicro : d.microseconds ≤ d'.microseconds := Nat.div_le_div_right h
  simp only [timeoutMs]
  omega

lemma timeoutMs_ofMilliseconds (ms : ℕ) :
    timeoutMs (.ofMilliseconds ms) = min (max ms 1) maxTimeoutMs := by
  simp only [timeoutMs, Duration.microseconds, Duration.ofMilliseconds]
  congr 2
  omega

/-- The native layer waits forever without a timeout. -/
@[simp] lemma patience_nativeTimeout_none : (nativeTimeout none).patience = ⊤ := if_pos rfl

/-- The native layer waits for the milliseconds of a timeout. -/
@[simp] lemma patience_nativeTimeout_some (d : Duration) :
    (nativeTimeout (some d)).patience =
      ((Duration.ofMilliseconds (timeoutMs d)).nanoseconds : ℕ∞) := by
  have hne : nativeTimeout (some d) ≠ .zero := by simp [nativeTimeout_eq_zero_iff]
  exact if_neg hne

/-- A longer timeout never becomes a shorter one. -/
theorem patience_nativeTimeout_mono {t t' : Option Duration} (h : allowance t ≤ allowance t') :
    (nativeTimeout t).patience ≤ (nativeTimeout t').patience := by
  cases t' with
  | none => simp
  | some d' =>
      cases t with
      | none => exact absurd h (by simp [allowance])
      | some d =>
          have hms := timeoutMs_mono (Nat.cast_le.mp h)
          simp only [patience_nativeTimeout_some, Nat.cast_le]
          exact Nat.mul_le_mul_right _ hms

/-! ### Transfers under timeouts -/

/-- An endpoint that answers after a delay is waited for if the delay is not too long. -/
lemma Behaviour.outcome_delay {native span : Duration} :
    (Behaviour.delay span).outcome native = .ok () ↔ (span.nanoseconds : ℕ∞) ≤ native.patience := by
  by_cases hzero : native = .zero <;>
    simp [outcome, Duration.patience, hzero]

/-- What completes under a timeout completes under a longer one. -/
theorem Behaviour.outcome_mono {native native' : Duration} (h : native.patience ≤ native'.patience)
    (b : Behaviour) (hok : b.outcome native = .ok ()) : b.outcome native' = .ok () := by
  cases b with
  | complete => rfl
  | never => cases hok
  | fail e => cases hok
  | delay span => exact outcome_delay.mpr ((outcome_delay.mp hok).trans h)

namespace Manager

variable {m : Manager Bench Instance DeviceKey} {c : Channel Instance DeviceKey} {id : ℕ}

/-- The outcome of a write on an open channel is that of its endpoint. -/
lemma write_told (hc : m.channel? id = some c) (hw : c.Wired) (hopen : c.isClosed = false)
    (data : Bytes) :
    (m.write id data).1 =
      (((m.platform.behaviour (c.info.key, c.info.writer.address)).outcome
        (nativeTimeout c.writeTimeout)).map fun () => data.length).mapError
        (Held.ofChannel c).writeError := by
  obtain ⟨kind, hkind⟩ := Option.isSome_iff_exists.mp hw.writer
  rw [write, hc]
  exact (transfer_open (native_of_open hw hopen) .output c.info.writer c.writeTimeout (fun n => n)
    (fun handle kind t => Platform.write handle kind c.info.writer.address data t) hkind).1

/-- The outcome of a read on an open channel is that of its endpoint, with the chunk that waits
there, if one does. -/
lemma receive_told (hc : m.channel? id = some c) (hw : c.Wired) (hopen : c.isClosed = false)
    (limit : ℕ) :
    (m.receive id limit).1 =
      (((m.platform.behaviour (c.info.key, c.info.reader.address)).outcome
        (nativeTimeout c.readTimeout)).map fun () =>
          ((m.platform.queue (c.info.key, c.info.reader.address)).headD []).take limit).mapError
        (Held.ofChannel c).readError := by
  obtain ⟨kind, hkind⟩ := Option.isSome_iff_exists.mp hw.reader
  rw [receive, hc]
  refine (transfer_open (native_of_open hw hopen) .input c.info.reader c.readTimeout List.length
    (fun handle kind t => Platform.read handle kind c.info.reader.address limit t) hkind).1.trans ?_
  simp only [Platform.read, Bench.read, Held.readError, Held.ofChannel]
  congr 1
  cases (m.platform.behaviour (c.info.key, c.info.reader.address)).outcome
    (nativeTimeout c.readTimeout) with
  | error e => rfl
  | ok _ => cases m.platform.queue (c.info.key, c.info.reader.address) <;> simp [Except.map]

end Manager

end UsbPipe
