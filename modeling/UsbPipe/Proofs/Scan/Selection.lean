/-
Which endpoints of an alternate setting make its pipe pair.

The pair consists of the last IN and the last OUT endpoint of one raw kind.  The kind is that
of the last IN and the last OUT endpoint among all bulk and interrupt endpoints, if these two
are of one kind, and else the first of bulk and interrupt that has both directions.

* `EndpointDescriptor.rawKind?`, `EndpointDescriptor.isInput`: kind and direction of an
  endpoint, read off the bits of its bytes.
* `PipePair.last?`, `PipePair.ofKind?`: the last endpoint of a kind in a direction, and the
  pair of the last endpoints of a kind.
* `PipePair.preferred`: the kind of the pair.
* `latest_append`, `tally_eq`: the walk over the endpoints, one endpoint and all of them.
* `select?_eq_ofKind?`: the pair of an alternate setting.
* `select?_reference`: that, when there is one, and what cannot make a difference to it.
-/
import Mathlib.Data.List.Induction
import Mathlib.Tactic.Common
import UsbPipe.Usb.PipePair

namespace UsbPipe.Usb

/-! ### Kind and direction of an endpoint -/

namespace EndpointDescriptor

/-- The raw kind of an endpoint: the number in the two low bits of its attributes is 2 for a
bulk and 3 for an interrupt endpoint. -/
def rawKind? (e : EndpointDescriptor) : Option RawKind :=
  match e.attributes.toNat % 4 with
  | 2 => some .bulk
  | 3 => some .interrupt
  | _ => none

/-- Whether an endpoint is an IN endpoint: the highest bit of its address is set. -/
def isInput (e : EndpointDescriptor) : Bool := e.address.toNat.testBit 7

/-- Whether an endpoint goes in a direction. -/
def goes (d : Direction) (e : EndpointDescriptor) : Bool :=
  match d with
  | .input => e.isInput
  | .output => !e.isInput

lemma raw?_ofAttributes : ∀ n : Fin 256,
    (TransferType.ofAttributes (.ofFin n)).raw? =
      match (n : ℕ) % 4 with
      | 2 => some .bulk
      | 3 => some .interrupt
      | _ => none := by
  decide +kernel

lemma ofAddress_eq : ∀ n : Fin 256,
    Direction.ofAddress (.ofFin n) = if (n : ℕ).testBit 7 then .input else .output := by
  decide +kernel

/-- The transfer type of an endpoint has the raw kind that its attributes say. -/
lemma raw?_transferType (e : EndpointDescriptor) : e.transferType.raw? = e.rawKind? :=
  raw?_ofAttributes e.attributes.toFin

lemma direction_eq (e : EndpointDescriptor) :
    e.direction = if e.isInput then .input else .output :=
  ofAddress_eq e.address.toFin

/-- The transfer type of a raw endpoint. -/
lemma transferType_of_rawKind? {e : EndpointDescriptor} {k : RawKind} (h : e.rawKind? = some k) :
    e.transferType = k.transferType := by
  rw [← raw?_transferType] at h
  exact TransferType.raw?_eq_some.mp h

end EndpointDescriptor

namespace PipePair

variable {es es' : List EndpointDescriptor} {e : EndpointDescriptor} {k : RawKind} {d : Direction}

/-! ### The reference -/

/-- The last endpoint in a direction whose kind is wanted. -/
def last? (wanted : Option RawKind → Bool) (d : Direction) (es : List EndpointDescriptor) :
    Option EndpointDescriptor :=
  (es.filter fun e => wanted e.rawKind? && e.goes d).getLast?

/-- An endpoint as one side of a pair of a kind. -/
def sideOf (k : RawKind) (e : EndpointDescriptor) : EndpointInfo := ⟨e.address, k.transferType⟩

/-- The last IN and the last OUT endpoint of a kind, if there are both. -/
def ofKind? (k : RawKind) (es : List EndpointDescriptor) : Option PipePair :=
  match last? (· == some k) .input es, last? (· == some k) .output es with
  | some i, some o => some ⟨sideOf k i, sideOf k o⟩
  | _, _ => none

/-- Bulk if it has both directions, and else interrupt. -/
def fallback (es : List EndpointDescriptor) : RawKind :=
  if (ofKind? .bulk es).isSome then .bulk else .interrupt

/-- The common kind of the last raw endpoints in the two directions, if they have one, and
else the fallback. -/
def preferred (es : List EndpointDescriptor) : RawKind :=
  match last? Option.isSome .input es, last? Option.isSome .output es with
  | some i, some o =>
    if i.rawKind? = o.rawKind? then i.rawKind?.getD (fallback es) else fallback es
  | _, _ => fallback es

/-! ### The walk -/

/-- The last endpoints in both directions whose kind is wanted. -/
def latest (wanted : Option RawKind → Bool) (es : List EndpointDescriptor) : Latest where
  reader := (last? wanted .input es).map fun e => ⟨e.address, e.transferType⟩
  writer := (last? wanted .output es).map fun e => ⟨e.address, e.transferType⟩

/-- One endpoint more is the last in its direction if its kind is wanted. -/
lemma latest_append (wanted : Option RawKind → Bool) (es : List EndpointDescriptor)
    (e : EndpointDescriptor) :
    latest wanted (es ++ [e]) =
      if wanted e.rawKind? then (latest wanted es).see e.direction ⟨e.address, e.transferType⟩
      else latest wanted es := by
  rw [EndpointDescriptor.direction_eq]
  cases hw : wanted e.rawKind? <;> cases hi : e.isInput <;>
    simp [latest, last?, Latest.see, EndpointDescriptor.goes, List.filter_append, hw, hi]

/-- What the walk over the endpoints of an alternate setting keeps. -/
lemma tally_eq (es : List EndpointDescriptor) :
    es.foldl Tally.see {} =
      { either := latest Option.isSome es
        bulk := latest (· == some .bulk) es
        interrupt := latest (· == some .interrupt) es } := by
  induction es using List.reverseRecOn with
  | nil => rfl
  | append_singleton es e ih =>
      rw [List.foldl_append, ih, List.foldl_cons, List.foldl_nil, Tally.see,
        EndpointDescriptor.raw?_transferType, latest_append, latest_append, latest_append]
      cases e.rawKind? with
      | none => rfl
      | some k => cases k <;> rfl

/-! ### The pair -/

lemma mem_of_last? {wanted : Option RawKind → Bool} (h : last? wanted d es = some e) :
    e ∈ es ∧ wanted e.rawKind? = true ∧ e.goes d = true := by
  obtain ⟨hmem, hprop⟩ := List.mem_filter.mp (List.mem_of_getLast? h)
  exact ⟨hmem, Bool.and_eq_true_iff.mp hprop⟩

lemma exists_last? (wanted : Option RawKind → Bool) :
    (last? wanted d es).isSome ↔ ∃ e ∈ es, wanted e.rawKind? = true ∧ e.goes d = true := by
  rw [last?, List.getLast?_isSome, Ne, List.filter_eq_nil_iff]
  push Not
  simp

/-- The last raw endpoint in a direction is the last one of its kind. -/
lemma last?_of_rawKind? (h : last? Option.isSome d es = some e) (hk : e.rawKind? = some k) :
    last? (· == some k) d es = some e := by
  obtain ⟨front, hfront⟩ := List.getLast?_eq_some_iff.mp h
  have hsub : (es.filter fun e => e.rawKind? == some k && e.goes d) =
      (es.filter fun e => e.rawKind?.isSome && e.goes d).filter (·.rawKind? == some k) := by
    rw [List.filter_filter]
    refine List.filter_congr fun x _ => ?_
    cases x.rawKind? <;> simp
  rw [last?, hsub, hfront, List.filter_append, List.filter_cons_of_pos (by simp [hk]),
    List.filter_nil, List.getLast?_concat]

/-- The pair of the last endpoints of a kind. -/
lemma pair?_latest (k : RawKind) (es : List EndpointDescriptor) :
    (latest (· == some k) es).pair? = ofKind? k es := by
  have hside : ∀ {d e}, last? (· == some k) d es = some e →
      (⟨e.address, e.transferType⟩ : EndpointInfo) = sideOf k e := by
    intro d e h
    have hkind : e.rawKind? = some k := beq_iff_eq.mp (mem_of_last? h).2.1
    rw [sideOf, EndpointDescriptor.transferType_of_rawKind? hkind]
  rw [Latest.pair?, latest, ofKind?]
  cases hi : last? (· == some k) .input es with
  | none => rfl
  | some i =>
      cases ho : last? (· == some k) .output es with
      | none => rfl
      | some o => simp [hside hi, hside ho]

/-- Where the last raw endpoints do not settle the kind, the fallback does. -/
lemma ofKind?_fallback (es : List EndpointDescriptor) :
    (ofKind? .bulk es <|> ofKind? .interrupt es) = ofKind? (fallback es) es := by
  rw [fallback]
  cases hb : ofKind? .bulk es with
  | none => rfl
  | some p => exact hb.symm

/-- The pair of an alternate setting is that of the last endpoints of the preferred kind. -/
theorem select?_eq_ofKind? (es : List EndpointDescriptor) :
    select? es = ofKind? (preferred es) es := by
  have hlater : ((latest (· == some .bulk) es).pair? <|> (latest (· == some .interrupt) es).pair?) =
      ofKind? (fallback es) es := by
    rw [pair?_latest, pair?_latest, ofKind?_fallback]
  rw [select?, tally_eq, Tally.pair?, hlater, preferred]
  simp only [latest, Latest.pair?]
  cases hi : last? Option.isSome .input es with
  | none => rfl
  | some i =>
      cases ho : last? Option.isSome .output es with
      | none => rfl
      | some o =>
          obtain ⟨ki, hki⟩ := Option.isSome_iff_exists.mp (mem_of_last? hi).2.1
          obtain ⟨ko, hko⟩ := Option.isSome_iff_exists.mp (mem_of_last? ho).2.1
          have hti := EndpointDescriptor.transferType_of_rawKind? hki
          have hto := EndpointDescriptor.transferType_of_rawKind? hko
          by_cases hsame : ki = ko
          · -- both are of one kind, and the last ones of that kind
            subst hsame
            simp [hki, hko, hti, hto, ofKind?, last?_of_rawKind? hi hki, last?_of_rawKind? ho hko,
              sideOf]
          · have htypes : ki.transferType ≠ ko.transferType := by
              intro heq
              have hraw := TransferType.raw?_eq_some.mpr heq
              rw [TransferType.raw?_eq_some.mpr rfl] at hraw
              exact hsame (Option.some.inj hraw)
            simp [hki, hko, hti, hto, hsame, htypes]

/-! ### Existence, and what makes no difference -/

/-- A kind has a pair if it has an endpoint in either direction. -/
lemma ofKind?_isSome (k : RawKind) (es : List EndpointDescriptor) :
    (ofKind? k es).isSome ↔
      (∃ e ∈ es, e.rawKind? = some k ∧ e.isInput = true) ∧
        ∃ e ∈ es, e.rawKind? = some k ∧ e.isInput = false := by
  have hin : (last? (· == some k) .input es).isSome ↔ _ := exists_last? _
  have hout : (last? (· == some k) .output es).isSome ↔ _ := exists_last? _
  simp only [beq_iff_eq, EndpointDescriptor.goes, Bool.not_eq_true'] at hin hout
  rw [← hin, ← hout, ofKind?]
  cases last? (· == some k) .input es <;> cases last? (· == some k) .output es <;> simp

/-- What there is of a pair of a kind. -/
lemma ofKind?_eq_some {p : PipePair} (h : ofKind? k es = some p) :
    ∃ i o, last? (· == some k) .input es = some i ∧ last? (· == some k) .output es = some o ∧
      p = ⟨sideOf k i, sideOf k o⟩ := by
  rw [ofKind?] at h
  cases hi : last? (· == some k) .input es with
  | none => simp [hi] at h
  | some i =>
      cases ho : last? (· == some k) .output es with
      | none => simp [hi, ho] at h
      | some o =>
          simp only [hi, ho, Option.some.injEq] at h
          exact ⟨i, o, rfl, rfl, h.symm⟩

/-- If there is a pair of any kind, there is one of the preferred kind. -/
lemma ofKind?_preferred (h : (ofKind? k es).isSome) : (ofKind? (preferred es) es).isSome := by
  have hfallback : (ofKind? (fallback es) es).isSome := by
    rw [← ofKind?_fallback]
    cases hb : ofKind? .bulk es with
    | some p => rfl
    | none =>
        cases k with
        | bulk => simp [hb] at h
        | interrupt => exact h
  rw [preferred]
  cases hi : last? Option.isSome .input es with
  | none => exact hfallback
  | some i =>
      cases ho : last? Option.isSome .output es with
      | none => exact hfallback
      | some o =>
          obtain ⟨ki, hki⟩ := Option.isSome_iff_exists.mp (mem_of_last? hi).2.1
          by_cases hsame : i.rawKind? = o.rawKind?
          · have hko := hsame.symm.trans hki
            simp [hki, hko, ofKind?, last?_of_rawKind? hi hki, last?_of_rawKind? ho hko]
          · simpa [hsame] using hfallback

/-- Endpoints that are neither bulk nor interrupt endpoints make no difference. -/
lemma last?_filter (wanted : Option RawKind → Bool) (hwanted : wanted none = false)
    (d : Direction) (es : List EndpointDescriptor) :
    last? wanted d (es.filter (·.rawKind?.isSome)) = last? wanted d es := by
  rw [last?, last?, List.filter_filter]
  congr 1
  refine List.filter_congr fun x _ => ?_
  cases hk : x.rawKind? <;> simp [hwanted]

lemma ofKind?_filter (k : RawKind) (es : List EndpointDescriptor) :
    ofKind? k (es.filter (·.rawKind?.isSome)) = ofKind? k es := by
  rw [ofKind?, last?_filter _ (by rfl), last?_filter _ (by rfl), ofKind?]

lemma preferred_filter (es : List EndpointDescriptor) :
    preferred (es.filter (·.rawKind?.isSome)) = preferred es := by
  rw [preferred, last?_filter _ (by rfl), last?_filter _ (by rfl), fallback, ofKind?_filter,
    preferred, fallback]

/-- An alternate setting has a pipe pair exactly if one raw kind has an IN and an OUT endpoint.
The pair then consists of the last IN and the last OUT endpoint of the preferred kind, with
that transfer type on both sides and the direction bits that it should have.  Endpoints that
are neither bulk nor interrupt endpoints make no difference. -/
theorem select?_reference (es : List EndpointDescriptor) :
    ((select? es).isSome ↔ ∃ k : RawKind,
      (∃ e ∈ es, e.rawKind? = some k ∧ e.isInput = true) ∧
        ∃ e ∈ es, e.rawKind? = some k ∧ e.isInput = false) ∧
    select? es = ofKind? (preferred es) es ∧
    (∀ p ∈ select? es,
      p.reader.transferType = (preferred es).transferType ∧
      p.writer.transferType = (preferred es).transferType ∧
      p.reader.address.toNat.testBit 7 = true ∧ p.writer.address.toNat.testBit 7 = false) ∧
    select? (es.filter (·.rawKind?.isSome)) = select? es := by
  have heq := select?_eq_ofKind? es
  refine ⟨⟨fun h => ?_, fun ⟨k, h⟩ => ?_⟩, heq, fun p hp => ?_, ?_⟩
  · rw [heq] at h
    exact ⟨preferred es, (ofKind?_isSome _ es).mp h⟩
  · rw [heq]
    exact ofKind?_preferred ((ofKind?_isSome k es).mpr h)
  · rw [heq] at hp
    obtain ⟨i, o, hi, ho, rfl⟩ := ofKind?_eq_some hp
    have hin := (mem_of_last? hi).2.2
    have hout := (mem_of_last? ho).2.2
    exact ⟨rfl, rfl, hin, Bool.not_eq_true' _ |>.mp hout⟩
  · rw [select?_eq_ofKind?, preferred_filter, ofKind?_filter, ← heq]

end PipePair

end UsbPipe.Usb
