/-
The pipes of a raw interface are raw.

Whatever endpoints an alternate setting has, those of its pair are bulk or interrupt
endpoints; control and isochronous ones never get into the tally.

* `Latest.All`, `Tally.Raw`: what holds of the endpoints of a tally.
* `isRaw_of_select?`: the endpoints of a pair.
* `isRaw_of_mem_walked`: the endpoints of the records that a scan finds.
-/
import UsbPipe.Proofs.Scan.Narrowing

namespace UsbPipe

namespace Usb.PipePair

variable {e : EndpointInfo} {p : PipePair}

/-- The latest endpoints, as far as they were seen, are as `P` says. -/
structure Latest.All (P : EndpointInfo → Prop) (l : Latest) : Prop where
  reader : ∀ e, l.reader = some e → P e
  writer : ∀ e, l.writer = some e → P e

namespace Latest.All

variable {P : EndpointInfo → Prop} {l : Latest}

lemma start : Latest.All P {} where
  reader := fun _ h => by cases h
  writer := fun _ h => by cases h

lemma see (h : l.All P) (he : P e) (d : Direction) : (l.see d e).All P := by
  cases d with
  | input => exact ⟨fun _ heq => Option.some.inj heq ▸ he, h.writer⟩
  | output => exact ⟨h.reader, fun _ heq => Option.some.inj heq ▸ he⟩

lemma pair (h : l.All P) (hp : l.pair? = some p) : P p.reader ∧ P p.writer := by
  rw [Latest.pair?] at hp
  cases hr : l.reader with
  | none => simp [hr] at hp
  | some reader =>
      cases hw : l.writer with
      | none => simp [hr, hw] at hp
      | some writer =>
          simp only [hr, hw, Option.some.injEq] at hp
          rw [← hp]
          exact ⟨h.reader reader hr, h.writer writer hw⟩

end Latest.All

/-- Nothing but raw endpoints is in a tally. -/
structure Tally.Raw (t : Tally) : Prop where
  either : t.either.All (·.transferType.isRaw = true)
  bulk : t.bulk.All (·.transferType.isRaw = true)
  interrupt : t.interrupt.All (·.transferType.isRaw = true)

namespace Tally.Raw

variable {t : Tally}

/-- One more endpoint gets into the tally only if it is raw. -/
lemma see (h : t.Raw) (e : EndpointDescriptor) : (t.see e).Raw := by
  rw [Tally.see]
  cases hk : e.transferType.raw? with
  | none => exact h
  | some kind =>
      have hraw : e.transferType.isRaw = true := by rw [TransferType.isRaw, hk]; rfl
      cases kind with
      | bulk => exact ⟨h.either.see hraw _, h.bulk.see hraw _, h.interrupt⟩
      | interrupt => exact ⟨h.either.see hraw _, h.bulk, h.interrupt.see hraw _⟩

lemma foldl (h : t.Raw) (endpoints : List EndpointDescriptor) :
    (endpoints.foldl Tally.see t).Raw := by
  induction endpoints generalizing t with
  | nil => exact h
  | cons e endpoints ih => exact ih (h.see e)

lemma pair (h : t.Raw) (hp : t.pair? = some p) :
    p.reader.transferType.isRaw = true ∧ p.writer.transferType.isRaw = true := by
  have hlater : (t.bulk.pair? <|> t.interrupt.pair?) = some p →
      p.reader.transferType.isRaw = true ∧ p.writer.transferType.isRaw = true := by
    intro hor
    cases hbulk : t.bulk.pair? with
    | some q =>
        rw [hbulk] at hor
        cases hor
        exact h.bulk.pair hbulk
    | none =>
        rw [hbulk] at hor
        exact h.interrupt.pair hor
  rw [Tally.pair?] at hp
  cases heither : t.either.pair? with
  | none =>
      rw [heither] at hp
      exact hlater hp
  | some q =>
      simp only [heither] at hp
      split_ifs at hp
      · cases hp
        exact h.either.pair heither
      · exact hlater hp

end Tally.Raw

/-- The endpoints of a pipe pair are bulk or interrupt endpoints. -/
theorem isRaw_of_select? {endpoints : List EndpointDescriptor} (h : select? endpoints = some p) :
    p.reader.transferType.isRaw = true ∧ p.writer.transferType.isRaw = true :=
  (Tally.Raw.foldl ⟨.start, .start, .start⟩ endpoints).pair h

end Usb.PipePair

open Usb

/-- So are those of the records that a scan finds. -/
lemma isRaw_of_mem_walked {b : Bench} {f : Filter} {i : RawInterface}
    (h : i ∈ (walked (Platform.scanItems b f)).1) :
    i.reader.transferType.isRaw = true ∧ i.writer.transferType.isRaw = true := by
  obtain ⟨device, desc, alt, pair, -, hpair, rfl⟩ := mem_walked_scanItems h
  exact PipePair.isRaw_of_select? hpair

end UsbPipe
