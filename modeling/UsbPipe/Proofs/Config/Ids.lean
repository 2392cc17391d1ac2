/-
The ids of a configuration.

A configuration may set a vendor and a product id, as texts.  Its filter wants the ids that the
texts write, and none where nothing is set; if one of the texts writes no id there is no filter,
and the configuration does not pass its check.

* `Config.idText`, `Filter.wanted`: what is set as one of the ids, and what a filter wants as it.
* `Config.SetTo`: the ids of a filter are those that the texts write, in some way of writing.
* `Config.filter_eq_ok_iff`: the filter of a configuration.
* `Config.validate_ids`: the texts that are read as ids, and what they make of the check and of
  the filter.
* `Config.validate_sign`: a text that is no id passes.
-/
import Mathlib.Tactic.Common
import UsbPipe.Config.Basic
import UsbPipe.Proofs.Hex.Id

namespace UsbPipe

open Usb Hex

/-- What a filter wants as an id. -/
def Usb.Filter.wanted (f : Filter) : IdField → Option UInt16
  | .vendor => f.vendorId
  | .product => f.productId

namespace Config

/-- What a configuration sets as an id. -/
def idText (c : Config) : IdField → Option String
  | .vendor => c.device.vendorId
  | .product => c.device.productId

/-- The ids of a filter are those that the texts of a configuration write, and there are none
where nothing is set. -/
def SetTo (writes : List Char → UInt16 → Prop) (c : Config) (f : Filter) : Prop :=
  ∀ field, Option.Rel (fun text id => writes text.toList id) (c.idText field) (f.wanted field)

/-- A text that is set has to be read as an id. -/
lemma idValue_eq_ok_iff {field : IdField} {text? : Option String} {id? : Option UInt16} :
    idValue field text? = .ok id? ↔
      Option.Rel (fun text id => SpellsId text.toList id) text? id? := by
  cases text? with
  | none =>
      rw [idValue, Except.ok.injEq]
      cases id? <;> simp
  | some text =>
      rw [idValue]
      cases hid : Hex.parseId text with
      | error e =>
          have hnone : ∀ id, ¬ SpellsId text.toList id := fun id h => by
            rw [← parseId_eq_ok_iff, hid] at h
            cases h
          cases id? <;> simp [hnone]
      | ok id =>
          have hone : ∀ id', SpellsId text.toList id' ↔ id = id' := fun id' => by
            rw [← parseId_eq_ok_iff, hid, Except.ok.injEq]
          cases id? <;> simp [hone]

/-- The filter of a configuration wants what the texts are read as. -/
lemma filter_eq_ok_iff {c : Config} {f : Filter} : c.filter = .ok f ↔ c.SetTo SpellsId f := by
  have hfields : c.SetTo SpellsId f ↔
      idValue .vendor c.device.vendorId = .ok f.vendorId ∧
        idValue .product c.device.productId = .ok f.productId := by
    rw [idValue_eq_ok_iff, idValue_eq_ok_iff]
    constructor
    · exact fun h => ⟨h .vendor, h .product⟩
    · rintro ⟨hvendor, hproduct⟩ (_ | _)
      · exact hvendor
      · exact hproduct
  obtain ⟨vendorId, productId⟩ := f
  rw [hfields, filter]
  cases idValue .vendor c.device.vendorId with
  | error e => simp [bind, Except.bind]
  | ok vendor =>
      cases idValue .product c.device.productId with
      | error e => simp [bind, Except.bind]
      | ok product => simp [bind, Except.bind, pure, Except.pure]

/-- The ids that are texts without a sign. -/
lemma setTo_writesId_iff {c : Config} {f : Filter} :
    c.SetTo WritesId f ↔
      c.filter = .ok f ∧ ∀ field, ∀ text ∈ c.idText field, '+' ∉ text.toList := by
  have hfield : ∀ {text? : Option String} {id? : Option UInt16},
      Option.Rel (fun text id => WritesId text.toList id) text? id? ↔
        Option.Rel (fun text id => SpellsId text.toList id) text? id? ∧
          ∀ text ∈ text?, '+' ∉ text.toList := by
    intro text? id?
    cases text? <;> cases id? <;> simp [writesId_iff, parseId_eq_ok_iff]
  rw [filter_eq_ok_iff]
  simp only [SetTo, hfield, forall_and]

/-- A text is read as an id if it is a marker and one to four digits, and else only if it is a
marker, a plus sign and one to three digits; the id is the number of the digits.  A configuration
passes its check if its level has a name and what it sets as ids is read so, and the ids are those
of its filter.  Where there is no plus sign among the texts, they are markers and digits. -/
theorem validate_ids (text : String) (id : UInt16) (c : Config) :
    (Hex.parseId text = .ok id ↔ WritesId text.toList id ∨ WritesSignedId text.toList id) ∧
      (WritesId text.toList id ↔ Hex.parseId text = .ok id ∧ '+' ∉ text.toList) ∧
      (c.validate = .ok () ↔
        Level.isName c.logging.level = true ∧ ∃ f, c.SetTo SpellsId f) ∧
      (∀ f, c.filter = .ok f ↔ c.SetTo SpellsId f) ∧
      ∀ f, c.SetTo WritesId f ↔
        c.filter = .ok f ∧ ∀ field, ∀ text ∈ c.idText field, '+' ∉ text.toList := by
  refine ⟨parseId_eq_ok_iff, writesId_iff, ?_, fun f => filter_eq_ok_iff,
    fun f => setTo_writesId_iff⟩
  rw [validate_eq_ok_iff]
  simp only [filter_eq_ok_iff]

/-- A marker, a plus sign and a digit are read as an id, and pass the check, although a plus sign
is no digit. -/
theorem validate_sign :
    Hex.parseId "0x+1" = .ok 1 ∧
      ({ device := { vendorId := some "0x+1" } } : Config).validate = .ok () ∧
      ¬ ∃ id, WritesId "0x+1".toList id := by
  refine ⟨by decide, by decide, ?_⟩
  rintro ⟨id, h⟩
  exact (writesId_iff.mp h).2 (by decide)

end Config

end UsbPipe
