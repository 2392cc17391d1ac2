/-
What the steps of a session keep.

The manager of a session changes with its names: the records of a set that is dropped are
discarded, and so are channels, one after the other.  A property of managers that these
operations keep is kept whatever becomes of the names.  And a step that needs a record or a
channel is told that there is none, or goes on with the one it found.

* `Session.manager_dropSet`, `Session.manager_keepOrDiscard`, `Session.manager_dropChannels`:
  names dropped and kept.
* `BenchSession.onSlot_cases`, `BenchSession.onChannel_cases`: steps that need a record or a
  channel; `keeps_onSlot`, `keeps_write`, `keeps_read` and the like: what such steps keep.
* `Manager.Frame.Scanning.enumerateTurns`, `BenchSession.keeps_shutdownDropping`: enumerations
  by turns, and shutdowns that wait.
-/
import UsbPipe.Bench.Session
import UsbPipe.Proofs.Manager.Frame

namespace UsbPipe

open Usb Manager

/-! ### Names dropped and kept -/

namespace Session

variable {σ δ η : Type} [Platform σ δ η] {P : Manager σ δ η → Prop} {s : Session σ δ η}

section Records

variable (hdiscard : ∀ {m}, P m → ∀ found, P (m.discard found))
include hdiscard

lemma manager_dropSet (h : P s.manager) (set : String) : P (s.dropSet set).2.manager := by
  rw [dropSet]
  cases s.sets.lookup set with
  | none => exact h
  | some slots => exact hdiscard h _

lemma manager_keepOrDiscard (h : P s.manager) (set? : Option String) (found : List (Found δ)) :
    P (s.keepOrDiscard set? found).manager := by
  cases set? with
  | some set => exact manager_dropSet hdiscard h set
  | none => exact hdiscard h _

end Records

section Channels

variable (hdrop : ∀ {m}, P m → ∀ id, P (m.dropChannel id))
include hdrop

lemma manager_dropChannel (h : P s.manager) (name : String) :
    P (s.dropChannel name).2.manager := by
  rw [dropChannel]
  cases s.channels.lookup name with
  | none => exact h
  | some id => exact hdrop h id

lemma manager_dropChannels (h : P s.manager) (names : List String) :
    P (s.dropChannels names).manager := by
  induction names generalizing s with
  | nil => exact h
  | cons name names ih => exact ih (manager_dropChannel hdrop h name)

end Channels

end Session

/-! ### Steps -/

/-- Enumerations by turns keep what each enumeration keeps. -/
lemma Manager.Frame.Scanning.enumerateTurns {P : Manager Bench Instance DeviceKey → Prop}
    (h : Scanning P) {m : Manager Bench Instance DeviceKey} (hm : P m) (filter : Filter)
    (count : ℕ) : P (BenchSession.enumerateTurns filter count m).2 := by
  induction count generalizing m with
  | zero => exact hm
  | succ count ih =>
      have henum := h.enumerate hm filter
      rw [BenchSession.enumerateTurns]
      rcases he : m.enumerate filter with ⟨_ | found, m₁⟩ <;> rw [he] at henum
      · exact ih henum
      · exact ih (h.discard henum found)

namespace BenchSession

variable {s : BenchSession}

/-- A step that needs a record. -/
lemma onSlot_cases {P : Reply × BenchSession → Prop} {name : SlotName}
    {use : Found Instance → Reply × BenchSession} (missing : P (.missing .record, s))
    (found : ∀ f, s.toSession.slot? name.set name.index = some f → P (use f)) :
    P (s.onSlot name use) := by
  rw [onSlot]
  cases hf : s.toSession.slot? name.set name.index with
  | none => exact missing
  | some f => exact found f hf

/-- A step that needs a channel. -/
lemma onChannel_cases {P : Reply × BenchSession → Prop} {name : String}
    {use : Channel Instance DeviceKey → Reply × BenchSession}
    (missing : s.toSession.channel? name = none → P (.missing .channel, s))
    (found : ∀ c, s.toSession.channel? name = some c → P (use c)) : P (s.onChannel name use) := by
  rw [onChannel]
  cases hc : s.toSession.channel? name with
  | none => exact missing hc
  | some c => exact found c hc

section Keeps

variable {P : BenchSession → Prop} (h : P s)
include h

lemma keeps_onSlot {name : SlotName} {use : Found Instance → Reply × BenchSession}
    (found : ∀ f, s.toSession.slot? name.set name.index = some f → P (use f).2) :
    P (s.onSlot name use).2 :=
  onSlot_cases (P := fun r => P r.2) h found

lemma keeps_onChannel {name : String} {use : Channel Instance DeviceKey → Reply × BenchSession}
    (found : ∀ c, s.toSession.channel? name = some c → P (use c).2) : P (s.onChannel name use).2 :=
  onChannel_cases (P := fun r => P r.2) (fun _ => h) found

lemma keeps_write {name : String} {data : Bytes}
    (hwrite : ∀ id, P (s.setManager (s.manager.write id data).2)) :
    P (s.step (.write name data)).2 := by
  refine keeps_onChannel h fun c _ => ?_
  have hdone := hwrite c.id
  rcases hm : s.manager.write c.id data with ⟨_ | n, m⟩ <;> rw [hm] at hdone <;> exact hdone

lemma keeps_watchedWrite {name : String} {data : Bytes}
    (hwrite : ∀ id, P (s.setManager (s.manager.write id data).2)) :
    P (s.step (.watchedWrite name data)).2 :=
  keeps_onChannel h fun c _ => hwrite c.id

lemma keeps_read {name : String} {length : ℕ}
    (hreceive : ∀ id limit, P (s.setManager (s.manager.receive id limit).2)) :
    P (s.step (.read name length)).2 := by
  refine keeps_onChannel h fun c _ => ?_
  have hread : P (s.setManager (s.manager.read c.id (List.replicate length 0xee)).2.2) := by
    rw [read_manager]
    exact hreceive ..
  rcases hm : s.manager.read c.id (List.replicate length 0xee) with ⟨_ | n, buffer, m⟩ <;>
    rw [hm] at hread <;> exact hread

lemma keeps_setTimeouts {name : String} {read? write? : Option (Option Duration)}
    (hread : ∀ s, P s → ∀ id t, P (s.setManager (s.manager.setReadTimeout id t)))
    (hwrite : ∀ s, P s → ∀ id t, P (s.setManager (s.manager.setWriteTimeout id t))) :
    P (s.step (.setTimeouts name read? write?)).2 := by
  refine keeps_onChannel h fun c _ => ?_
  cases read? with
  | none =>
      cases write? with
      | none => exact h
      | some t => exact hwrite s h c.id t
  | some t =>
      cases write? with
      | none => exact hread s h c.id t
      | some t' => exact hwrite _ (hread s h c.id t) c.id t'

/-- A shutdown that waits raises the flag, drops channels and tears down, or as much of that as
it comes to. -/
lemma keeps_shutdownDropping
    (hdrop : ∀ s names, P s → P (s.withSession (s.toSession.dropChannels names)))
    (hbegin : ∀ s, P s → P (s.setManager s.manager.beginShutdown))
    (hend : ∀ s, P s → P (s.setManager s.manager.teardown))
    (hsilence : ∀ s, P s → P s.silenced) (dropping : List String) :
    P (s.shutdownDropping dropping).2 := by
  rw [shutdownDropping]
  split_ifs
  · exact hdrop _ _ h
  · exact hsilence _ (hdrop _ _ h)
  · rw [shutdown?]
    split_ifs
    · exact hend _ (hbegin _ h)
    · exact h
  · exact hsilence _ (hend _ (hdrop _ _ (hbegin _ h)))

end Keeps

end BenchSession

end UsbPipe
