/-
Descriptors and raw interfaces are read back from their JSON text.

* `LawfulCoded`: a type whose values have JSON forms that a text can hold, and are decoded
  from them; the instances of all coded types.
* `Json.fields?_members`: the fields of an object whose members have names of their own.
* `Fields.lawfulCoded`: a record whose fields are lawful and have names of their own.
* `Json.choose?_variant`: a variant of a table with names of their own.
* `Json.RoundTrips`: what is written is read back, and the canonical form of a text stays as it
  is; `Json.roundTrips` for all lawful types.
* `Json.descriptors_roundTrip`: the descriptors and the record of a raw interface.
-/
import UsbPipe.Json.Codec
import UsbPipe.Proofs.Json.Reading

namespace UsbPipe

open Usb

/-- A type whose values are decoded from their JSON forms, which a text can hold. -/
class LawfulCoded (α : Type) [Coded α] : Prop where
  exact : ∀ a : α, (encode a).Exact
  decode_encode : ∀ a : α, decode? (encode a) = some a

export LawfulCoded (exact decode_encode)

attribute [simp] LawfulCoded.decode_encode

/-! ### Numbers, texts and lists -/

/-- A word is the one with its number, which is below a bound. -/
lemma Json.below?_word {α : Type} {number : α → ℕ} {word : ℕ → α} {bound : ℕ}
    (hword : ∀ a, word (number a) = a) (hbound : ∀ a, number a < bound) (a : α) :
    ((Json.nat (number a)).below? bound).map word = some a := by
  rw [Json.below?, if_pos (hbound a), Option.map_some, hword]

instance : LawfulCoded UInt8 where
  exact n := .nat n.toNat
  decode_encode := Json.below?_word (fun _ => UInt8.ofNat_toNat) UInt8.toNat_lt

instance : LawfulCoded UInt16 where
  exact n := .nat n.toNat
  decode_encode := Json.below?_word (fun _ => UInt16.ofNat_toNat) UInt16.toNat_lt

instance : LawfulCoded UInt32 where
  exact n := .nat n.toNat
  decode_encode := Json.below?_word (fun _ => UInt32.ofNat_toNat) UInt32.toNat_lt

instance : LawfulCoded String where
  exact s := .text s
  decode_encode _ := rfl

instance {α : Type} [Coded α] [LawfulCoded α] : LawfulCoded (List α) where
  exact as := .arr fun v hv => by
    obtain ⟨a, -, rfl⟩ := List.mem_map.mp hv
    exact exact a
  decode_encode as := by
    show (as.map encode).mapM decode? = some as
    induction as with
    | nil => rfl
    | cons a as ih => simp [ih]

/-! ### Fields -/

namespace Json

/-- The value of a member whose name no other one has. -/
lemma field?_named {ms : List (String × Json)} (hnames : (ms.map Prod.fst).Nodup)
    {m : String × Json} (hm : m ∈ ms) : field? (named ms) m.1 = some m.2 := by
  have hfilter : (named ms).filter (·.1 == some m.1) = [(some m.1, m.2)] := by
    induction ms with
    | nil => cases hm
    | cons n ms ih =>
        rw [List.map_cons, List.nodup_cons] at hnames
        rcases List.mem_cons.mp hm with rfl | hm
        · -- the others have other names
          have hothers : (named ms).filter (·.1 == some m.1) = [] := by
            refine List.filter_eq_nil_iff.mpr fun x hx => ?_
            obtain ⟨y, hy, rfl⟩ := List.mem_map.mp hx
            have hne : y.1 ≠ m.1 := fun heq => hnames.1 (heq ▸ List.mem_map_of_mem hy)
            simpa using hne
          rw [named] at hothers ⊢
          rw [List.map_cons, List.filter_cons_of_pos (by simp), hothers]
        · have hne : n.1 ≠ m.1 := fun heq => hnames.1 (heq ▸ List.mem_map_of_mem hm)
          have hrest := ih hnames.2 hm
          rw [named] at hrest ⊢
          rw [List.map_cons, List.filter_cons_of_neg (by simpa using hne), hrest]
  rw [field?, hfilter]

/-- The fields of an object are the values of its members. -/
lemma fields?_members {ms : List (String × Json)} {names : List String}
    (hms : ms.map Prod.fst = names) (hnames : names.Nodup) :
    (members ms).fields? names = some (ms.map Prod.snd) := by
  subst hms
  have hall : (named ms).all (·.1.isSome) = true := by
    simp [named]
  have hvalues : ∀ ns ⊆ ms, (ns.map Prod.fst).mapM (field? (named ms)) =
      some (ns.map Prod.snd) := by
    intro ns hsub
    induction ns with
    | nil => rfl
    | cons n ns ih =>
        have hn := field?_named hnames (hsub (List.mem_cons_self ..))
        have hns := ih fun x hx => hsub (List.mem_cons_of_mem _ hx)
        simp [hn, hns]
  show (if (named ms).all (·.1.isSome) then _ else none) = _
  rw [if_pos hall]
  exact hvalues ms (List.Subset.refl ms)

/-! ### Variants -/

/-- A variant is chosen by its name. -/
lemma choose?_variant {α : Type} {variants : List α} {name : α → String}
    (hnames : ∀ a ∈ variants, ∀ b ∈ variants, name a = name b → a = b) {a : α}
    (ha : a ∈ variants) :
    choose? (variants.map fun a => (name a, a)) (text (name a)) = some a := by
  show (variants.map fun a => (name a, a)).lookup (name a) = some a
  induction variants with
  | nil => cases ha
  | cons b variants ih =>
      by_cases heq : name a = name b
      · rw [hnames a ha b (List.mem_cons_self ..) heq]
        simp
      · have hmem : a ∈ variants := by
          rcases List.mem_cons.mp ha with rfl | h
          · exact absurd rfl heq
          · exact h
        rw [List.map_cons, List.lookup_cons, beq_false_of_ne heq]
        exact ih (fun x hx y hy => hnames x (List.mem_cons_of_mem _ hx) y
          (List.mem_cons_of_mem _ hy)) hmem

end Json

namespace Usb

instance : LawfulCoded Direction where
  exact d := .text d.variant
  decode_encode d := Json.choose?_variant (by decide) (by cases d <;> simp)

instance : LawfulCoded TransferType where
  exact t := .text t.variant
  decode_encode t := Json.choose?_variant (by decide) (by cases t <;> simp)

instance : LawfulCoded SyncType where
  exact s := .text s.variant
  decode_encode s := Json.choose?_variant (by decide) (by cases s <;> simp)

instance : LawfulCoded UsageType where
  exact u := .text u.variant
  decode_encode u := Json.choose?_variant (by decide) (by cases u <;> simp)

/-! ### Codes -/

/-- A value in a wrapper, decoded like the bare value. -/
lemma decode_wrapped {α β : Type} [Coded α] [LawfulCoded α] (wrap : α → β) (a : α) :
    (decode? (encode a)).map wrap = some (wrap a) := by
  rw [decode_encode]
  rfl

instance : LawfulCoded Class where
  exact c := exact c.code
  decode_encode c := decode_wrapped Class.mk c.code

instance : LawfulCoded Protocol where
  exact p := exact p.code
  decode_encode p := decode_wrapped Protocol.mk p.code

instance : LawfulCoded DescriptorKind where
  exact k := exact k.code
  decode_encode k := decode_wrapped DescriptorKind.mk k.code

instance : LawfulCoded Speed where
  exact s := exact s.code
  decode_encode s := decode_wrapped Speed.mk s.code

instance : LawfulCoded Milliamperes where
  exact m := exact m.amount
  decode_encode m := decode_wrapped Milliamperes.mk m.amount

end Usb

/-! ### Records -/

namespace Fields

variable {ρ α μ : Type}

/-- What a function makes of the values in a record. -/
def apply {μ : Type} (r : ρ) : Fields ρ μ → μ → ρ
  | done, made => made
  | field _ value rest, make => rest.apply r (make (value r))

/-- Fields whose values are decoded from their forms. -/
class Lawful (fields : Fields ρ μ) : Prop where
  exact : ∀ r : ρ, ∀ m ∈ fields.members r, m.2.Exact
  make?_members : ∀ (r : ρ) (make : μ),
    fields.make? make ((fields.members r).map Prod.snd) = some (fields.apply r make)

instance : Lawful (.done : Fields ρ ρ) where
  exact := by simp [members]
  make?_members _ _ := rfl

instance [Coded α] [LawfulCoded α] (name : String) (value : ρ → α) (rest : Fields ρ μ)
    [Lawful rest] : Lawful (.field name value rest) where
  exact r m hm := by
    rcases List.mem_cons.mp hm with rfl | hm
    · exact LawfulCoded.exact (value r)
    · exact Lawful.exact r m hm
  make?_members r make := by
    rw [members, List.map_cons, make?, decode_encode, Option.bind_some]
    exact Lawful.make?_members r (make (value r))

lemma names_members (fields : Fields ρ μ) (r : ρ) :
    (fields.members r).map Prod.fst = fields.names := by
  induction fields with
  | done => rfl
  | field name value rest ih => rw [members, List.map_cons, ih, names]

/-- A record is decoded from its fields if these have names of their own and it is made of
their values. -/
lemma lawfulCoded {fields : Fields ρ μ} [Lawful fields] {make : μ} (hnames : fields.names.Nodup)
    (hmake : ∀ r, fields.apply r make = r) : @LawfulCoded ρ (fields.coded make) := by
  let _form := fields.coded make
  refine ⟨fun r => .members (Lawful.exact r), fun r => ?_⟩
  show (Json.fields? _ (Json.members _)).bind _ = some r
  rw [Json.fields?_members (names_members fields r) hnames, Option.bind_some,
    Lawful.make?_members, hmake]

end Fields

namespace Usb

instance : LawfulCoded EndpointDescriptor := Fields.lawfulCoded (by decide) fun _ => rfl

instance : LawfulCoded AltSetting := Fields.lawfulCoded (by decide) fun _ => rfl

instance : LawfulCoded Interface := Fields.lawfulCoded (by decide) fun _ => rfl

instance : LawfulCoded ConfigDescriptor := Fields.lawfulCoded (by decide) fun _ => rfl

instance : LawfulCoded DeviceDescriptor := Fields.lawfulCoded (by decide) fun _ => rfl

instance : LawfulCoded EndpointInfo := Fields.lawfulCoded (by decide) fun _ => rfl

instance : LawfulCoded RawInterface := Fields.lawfulCoded (by decide) fun _ => rfl

end Usb

/-! ### Texts -/

namespace Json

/-- The canonical form of a text: the value that it gives, written again. -/
def canonical? (α : Type) [Coded α] (s : String) : Option String := (read? α s).map write

/-- What is written is read back, and two values are never written alike.  Every text that can
be read has a canonical form, which is read as the same value and is its own canonical form. -/
structure RoundTrips (α : Type) [Coded α] : Prop where
  read_write : ∀ a : α, read? α (write a) = some a
  write_injective : Function.Injective (write : α → String)
  canonical : ∀ s t : String, canonical? α s = some t →
    read? α t = read? α s ∧ canonical? α t = some t

/-- A value of a lawful type is read back from its text. -/
lemma read?_write {α : Type} [Coded α] [LawfulCoded α] (a : α) : read? α (write a) = some a := by
  rw [read?, write, (exact a).parse?_compact]
  exact decode_encode a

theorem roundTrips (α : Type) [Coded α] [LawfulCoded α] : RoundTrips α where
  read_write := read?_write
  write_injective a b h := by
    have hread := read?_write a
    rw [h, read?_write b] at hread
    exact (Option.some.inj hread).symm
  canonical s t h := by
    obtain ⟨a, hread, rfl⟩ := Option.map_eq_some_iff.mp h
    rw [hread, canonical?, read?_write a]
    exact ⟨rfl, rfl⟩

/-- The descriptors of a device, at every level of its tree, and the record of a raw interface
survive being written as JSON text and read back. -/
theorem descriptors_roundTrip :
    RoundTrips DeviceDescriptor ∧ RoundTrips ConfigDescriptor ∧ RoundTrips Interface ∧
      RoundTrips AltSetting ∧ RoundTrips EndpointDescriptor ∧ RoundTrips RawInterface :=
  ⟨roundTrips _, roundTrips _, roundTrips _, roundTrips _, roundTrips _, roundTrips _⟩

end Json

end UsbPipe
