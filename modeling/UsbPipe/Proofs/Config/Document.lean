/-
The text of a configuration is read back as the configuration.

Neither the name of a level nor a text that is read as an id holds a character that would have
to be escaped, so what passes the check stands in the text as it is.  The text is that of three
sections.  Nothing is written for an id that is not set, and the id is missing in the section
that is read.

* `plain_of_isName`, `Hex.SpellsId.plain`: what stands in quotes as it is.
* `Config.sections`: the sections of a configuration; `Config.readsLines_documentChars`: its text
  says just these.
* `Config.ofEntries?_sections`: the sections give the configuration.
* `Config.parse?_document?`: the text of a configuration that passes the check is read back.
-/
import Mathlib.Tactic.Common
import UsbPipe.Config.Document
import UsbPipe.Proofs.Config.Ids
import UsbPipe.Proofs.Toml.Sections

namespace UsbPipe

open Toml

/-! ### Plain texts -/

/-- The name of a level is plain. -/
lemma plain_of_isName {word : String} (h : Level.isName word = true) :
    word.toList.all isBare = true := by
  have hall : ∀ name ∈ Level.names, name.toList.all isBare = true := by decide
  exact hall word (List.contains_iff_mem.mp h)

namespace Hex

lemma Denotes.plain {digits : List Char} {n : ℕ} (h : Denotes digits n) :
    digits.all isBare = true := by
  have hall : ∀ p ∈ Text.digitTable, isBare p.1 = true := by decide
  obtain ⟨values, hvalues, -⟩ := h
  induction hvalues with
  | nil => rfl
  | @cons c value digits values hc _ ih =>
      rw [List.all_cons, ih, Bool.and_true]
      exact hall (c, value) hc

/-- A text that is read as an id is plain. -/
lemma SpellsId.plain {text : List Char} {id : UInt16} (h : SpellsId text id) :
    text.all isBare = true := by
  have hmarker : ∀ {x : Char}, x = 'x' ∨ x = 'X' → isBare x = true := by
    rintro x (rfl | rfl) <;> decide
  rcases h with ⟨x, digits, hx, rfl, -, -, hdigits⟩ | ⟨x, digits, hx, rfl, -, -, hdigits⟩
  · simp only [List.all_cons, hmarker hx, hdigits.plain]
    decide
  · simp only [List.all_cons, hmarker hx, hdigits.plain]
    decide

end Hex

namespace Config

/-- What passes the check has plain texts only. -/
structure IsPlain (c : Config) : Prop where
  level : c.logging.level.toList.all isBare = true
  id : ∀ field, ∀ text ∈ c.idText field, text.toList.all isBare = true

lemma isPlain_of_validate {c : Config} (h : c.validate = .ok ()) : c.IsPlain := by
  obtain ⟨hlevel, f, hf⟩ := (validate_eq_ok_iff c).mp h
  refine ⟨plain_of_isName hlevel, fun field text htext => ?_⟩
  have hids := filter_eq_ok_iff.mp hf field
  rw [Option.mem_def.mp htext] at hids
  cases hwanted : f.wanted field with
  | none => simp [hwanted] at hids
  | some id =>
      rw [hwanted, Option.rel_some_some] at hids
      exact hids.plain

/-! ### Sections -/

/-- The entry of an id, if it is set. -/
def idEntries (field : IdField) (text? : Option String) : Entries :=
  (text?.map fun text => (field.name, .str text)).toList

/-- The sections of the text of a configuration. -/
def sections (c : Config) : List (String × Entries) :=
  [("logging", [("level", .str c.logging.level)]),
    ("device", idEntries .vendor c.device.vendorId ++ idEntries .product c.device.productId),
    ("timeouts", [("read_ms", .int c.timeouts.readMs.toNat),
      ("write_ms", .int c.timeouts.writeMs.toNat)])]

/-- No section has a key twice. -/
lemma sections_keys_nodup (c : Config) : ∀ s ∈ c.sections, (s.2.map Prod.fst).Nodup := by
  intro s hs
  simp only [sections, List.mem_cons, List.not_mem_nil, or_false] at hs
  obtain rfl | rfl | rfl := hs
  · exact List.nodup_singleton _
  · cases c.device.vendorId <;> cases c.device.productId <;> simp [idEntries, IdField.name]
  · simp

/-! ### Lines -/

section Lines

variable {cs : List Char} {ss : List Statement}

/-- The line of a key in front of others. -/
lemma readsLines_line (key : String) {value : List Char} {v : Toml}
    (hkey : IsBareKey key.toList) (hvalue : ReadsValue value v) (h : ReadsLines cs ss) :
    ReadsLines (line key value ++ cs) (.pair [key] v :: ss) := by
  have hline := h.line (says_pair hkey hvalue)
  have htext : line key value ++ cs = key.toList ++ " = ".toList ++ value ++ '\n' :: cs := by
    simp [line]
  rwa [htext, ← String.ofList_toList (s := key), String.toList_ofList]

/-- The header of a section in front of others. -/
lemma readsLines_header (name : String) (hname : IsBareKey name.toList) (h : ReadsLines cs ss) :
    ReadsLines ('[' :: name.toList ++ [']'] ++ '\n' :: cs) (.table [name] :: ss) := by
  have hline := h.line (says_header hname)
  rwa [String.ofList_toList] at hline

/-- The line of a text that is plain. -/
lemma readsLines_text (key : String) {text : String} (hkey : IsBareKey key.toList)
    (htext : text.toList.all isBare = true) (h : ReadsLines cs ss) :
    ReadsLines (line key (quoted text.toList) ++ cs) (.pair [key] (.str text) :: ss) := by
  have hvalue := readsValue_quoted htext
  rw [String.ofList_toList] at hvalue
  exact readsLines_line key hkey hvalue h

/-- The line of an id, or none. -/
lemma readsLines_idLine (field : IdField) {text? : Option String}
    (htext : ∀ text ∈ text?, text.toList.all isBare = true) (h : ReadsLines cs ss) :
    ReadsLines (idLine field text? ++ cs)
      ((idEntries field text?).map (fun e => .pair [e.1] e.2) ++ ss) := by
  have hkey : IsBareKey field.name.toList := by
    cases field <;> exact ⟨by decide, by decide⟩
  cases text? with
  | none => exact h
  | some text => exact readsLines_text field.name hkey (htext text rfl) h

/-- The line of a timeout that 64 bits hold. -/
lemma readsLines_timeoutLine (key : String) {ms : UInt64} (hkey : IsBareKey key.toList)
    (hms : fits ms.toNat = true) (h : ReadsLines cs ss) :
    ReadsLines (timeoutLine key ms ++ cs) (.pair [key] (.int ms.toNat) :: ss) :=
  readsLines_line key hkey (readsValue_decimal hms) h

end Lines

/-- The text of a configuration says its sections. -/
lemma readsLines_documentChars {c : Config} (h : c.IsPlain)
    (hread : fits c.timeouts.readMs.toNat = true)
    (hwrite : fits c.timeouts.writeMs.toNat = true) :
    ReadsLines c.documentChars (c.sections.flatMap sectionStatements) := by
  -- from the last line to the first
  have htimeouts := readsLines_header "timeouts" ⟨by decide, by decide⟩ <|
    readsLines_timeoutLine "read_ms" ⟨by decide, by decide⟩ hread <|
    readsLines_timeoutLine "write_ms" ⟨by decide, by decide⟩ hwrite .nil
  have hdevice := readsLines_header "device" ⟨by decide, by decide⟩ <|
    readsLines_idLine .vendor (h.id .vendor) <|
    readsLines_idLine .product (h.id .product) htimeouts.blank
  have hlogging := readsLines_header "logging" ⟨by decide, by decide⟩ <|
    readsLines_text "level" ⟨by decide, by decide⟩ h.level hdevice.blank
  have hsections : c.sections.flatMap sectionStatements =
      .table ["logging"] :: .pair ["level"] (.str c.logging.level) :: .table ["device"] ::
        ((idEntries .vendor c.device.vendorId).map (fun e => .pair [e.1] e.2) ++
          ((idEntries .product c.device.productId).map (fun e => .pair [e.1] e.2) ++
            [.table ["timeouts"], .pair ["read_ms"] (.int c.timeouts.readMs.toNat),
              .pair ["write_ms"] (.int c.timeouts.writeMs.toNat)])) := by
    simp only [sections, sectionStatements, List.flatMap_cons, List.flatMap_nil, List.map_append,
      List.map_cons, List.map_nil, List.cons_append, List.nil_append, List.append_assoc]
  have htext : ∀ level vendor product read write : List Char,
      "[logging]\n".toList ++ level ++ "\n[device]\n".toList ++ vendor ++ product ++
          "\n[timeouts]\n".toList ++ read ++ write =
        '[' :: "logging".toList ++ [']'] ++ '\n' :: (level ++
          '\n' :: ('[' :: "device".toList ++ [']'] ++ '\n' :: (vendor ++ (product ++
            '\n' :: ('[' :: "timeouts".toList ++ [']'] ++ '\n' :: (read ++ (write ++ []))))))) := by
    intros
    simp
  unfold documentChars
  rw [hsections, htext]
  exact hlogging

/-! ### The configuration of the sections -/

/-- A timeout that 64 bits with a sign hold is read back. -/
lemma millisecondsOf?_toNat {ms : UInt64} (h : fits ms.toNat = true) :
    millisecondsOf? (.int ms.toNat) = some ms := by
  rw [millisecondsOf?, if_pos ⟨Int.natCast_nonneg _, h⟩, Int.toNat_natCast]
  exact congrArg some UInt64.ofNat_toNat

/-- The ids of the section are read back, whether they are set or not. -/
lemma deviceOf?_idEntries (vendorId productId : Option String) :
    deviceOf? (.table .header (idEntries .vendor vendorId ++ idEntries .product productId)) =
      some ⟨vendorId, productId⟩ := by
  cases vendorId <;> cases productId <;> rfl

/-- The sections give the configuration. -/
lemma ofEntries?_sections {c : Config} (hread : fits c.timeouts.readMs.toNat = true)
    (hwrite : fits c.timeouts.writeMs.toNat = true) :
    ofEntries? (c.sections.map sectionEntry) = some c := by
  have htimeouts : timeoutsOf? (.table .header [("read_ms", .int c.timeouts.readMs.toNat),
      ("write_ms", .int c.timeouts.writeMs.toNat)]) = some c.timeouts := by
    have hfields : ∀ v w : Toml,
        timeoutsOf? (.table .header [("read_ms", v), ("write_ms", w)]) =
          (millisecondsOf? v).bind fun readMs =>
            (millisecondsOf? w).map fun writeMs => ⟨readMs, writeMs⟩ := by
      intro v w
      cases hv : millisecondsOf? v <;> cases hw : millisecondsOf? w <;>
        simp [timeoutsOf?, field?, fieldOr, List.lookup_cons, hv, hw]
    rw [hfields, millisecondsOf?_toNat hread, millisecondsOf?_toNat hwrite]
    rfl
  have hdevice := deviceOf?_idEntries c.device.vendorId c.device.productId
  have hsections : ∀ l d t : Entries,
      ofEntries? [("logging", .table .header l), ("device", .table .header d),
        ("timeouts", .table .header t)] =
          (loggingOf? (.table .header l)).bind fun logging =>
            (deviceOf? (.table .header d)).bind fun device =>
              (timeoutsOf? (.table .header t)).map fun timeouts =>
                ⟨logging, device, timeouts⟩ := by
    intro l d t
    have hdevice : [("logging", Toml.table .header l), ("device", .table .header d),
        ("timeouts", .table .header t)].lookup "device" = some (.table .header d) := by
      simp [List.lookup_cons]
    have htimeouts : [("logging", Toml.table .header l), ("device", .table .header d),
        ("timeouts", .table .header t)].lookup "timeouts" = some (.table .header t) := by
      simp [List.lookup_cons]
    rw [ofEntries?, List.lookup_cons_self, hdevice, htimeouts]
    cases hl : loggingOf? (.table .header l) <;> cases hd : deviceOf? (.table .header d) <;>
      cases ht : timeoutsOf? (.table .header t) <;>
      simp [fieldOr, section?, isSection, hl, hd, ht]
  show ofEntries? [("logging", .table .header _), ("device", .table .header _),
    ("timeouts", .table .header _)] = _
  rw [hsections, hdevice, htimeouts]
  rfl

/-! ### Reading back -/

/-- The text of a configuration that passes the check is read as this configuration. -/
lemma parse?_document? {c : Config} {text : String} (hvalid : c.validate = .ok ())
    (htext : c.document? = some text) : parse? text = some c := by
  rw [document?] at htext
  split_ifs at htext with hfits
  obtain ⟨hread, hwrite⟩ := hfits
  have hlines := readsLines_documentChars (isPlain_of_validate hvalid) hread hwrite
  have hentries : parseChars? c.documentChars = some (c.sections.map sectionEntry) := by
    refine hlines.parseChars? ?_ ?_ ?_
    · have hfirst : "[logging]\n".toList = '[' :: "logging]\n".toList := by decide
      unfold documentChars
      simp [hfirst]
    · show ["logging", "device", "timeouts"].Nodup
      decide
    · exact sections_keys_nodup c
  obtain rfl : String.ofList c.documentChars = text := Option.some.inj htext
  rw [parse?, Toml.parse?, String.toList_ofList, hentries]
  exact ofEntries?_sections hread hwrite

end Config

end UsbPipe
