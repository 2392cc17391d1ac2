/-
A listing prints what enumeration found.

The text of a listing is fixed by the records that were found: an array and a line break, from
which the records are read back, or two lines for each record.  What could break a line is the
path of a record, which is text of its own; a scan makes every path out of two ids and a port,
on any native layer.

* `Sink.HasRoom`: an output that takes a text as a whole; `Sink.write_of_hasRoom`.
* `shownLines`, `listing`: the lines that show records, and the text of a listing.
* `writeInterfaces_of_hasRoom`: that text is what is written.
* `OneLine`: texts without a line break; `splitOn_lines` tells such lines apart again.
* `RawInterface.Placed`: a path made of ids and port; `oneLine_shownLines`,
  `Manager.placed_enumerate`.
* `Prints`: a text that says what the records are; `prints_listing`.
* `Manager.listInterfaces_listed`: success, count and text of a listing.
-/
import Mathlib.Tactic.Common
import UsbPipe.Bench.Basic
import UsbPipe.Command.Basic
import UsbPipe.Proofs.Json.Pretty
import UsbPipe.Proofs.Scan.Invariant

namespace UsbPipe

open Usb Text

/-! ### The text of a listing -/

/-- An output that takes a text as a whole. -/
def Sink.HasRoom (s : Sink) (text : List Char) : Prop := ∀ room ∈ s.room?, text.length ≤ room

/-- The lines that show records: what each is and, indented, where it is. -/
def shownLines (infos : List RawInterface) : List String :=
  if infos.isEmpty then ["No raw USB interfaces found"]
  else infos.flatMap fun i => [i.describe, "    " ++ i.display]

/-- The text of a listing. -/
def listing (json : Bool) (infos : List RawInterface) : List Char :=
  if json then (encode infos).pretty ++ ['\n']
  else (shownLines infos).flatMap fun line => line.toList ++ ['\n']

namespace Sink

variable {s : Sink} {front back : List Char}

/-- A text for which there is room is accepted. -/
lemma write_of_hasRoom (text : String) (h : s.HasRoom text.toList) :
    s.write text = (true, ⟨s.accepted ++ text.toList, s.room?.map (· - text.toList.length)⟩) := by
  cases hroom : s.room? with
  | none => simp [write, hroom]
  | some room =>
      have hle := h room hroom
      simp [write, hroom, List.take_of_length_le hle, hle]

lemma HasRoom.of_append (h : s.HasRoom (front ++ back)) : s.HasRoom front := by
  intro room hroom
  have hle := h room hroom
  rw [List.length_append] at hle
  omega

/-- Room for two texts is room for the second after the first. -/
lemma HasRoom.after (h : s.HasRoom (front ++ back)) (accepted : List Char) :
    HasRoom ⟨accepted, s.room?.map (· - front.length)⟩ back := by
  intro left hleft
  obtain ⟨room, hroom, rfl⟩ := Option.map_eq_some_iff.mp hleft
  have hle := h room hroom
  rw [List.length_append] at hle
  omega

end Sink

lemma toList_lines (infos : List RawInterface) :
    (String.join (infos.map RawInterface.lines)).toList =
      (infos.flatMap fun i => [i.describe, "    " ++ i.display]).flatMap
        fun line => line.toList ++ ['\n'] := by
  simp [String.toList_join, List.flatMap_map, List.flatMap_assoc, RawInterface.lines]

/-- With room for it, the text of a listing is what is written. -/
lemma writeInterfaces_of_hasRoom {out : Sink} {json : Bool} {infos : List RawInterface}
    (h : out.HasRoom (listing json infos)) :
    (writeInterfaces out json infos).1 = .ok () ∧
      (writeInterfaces out json infos).2.accepted = out.accepted ++ listing json infos := by
  cases json with
  | true =>
      have harray := Sink.write_of_hasRoom (String.ofList (encode infos).pretty)
        (by simpa using Sink.HasRoom.of_append h)
      have hbreak := Sink.write_of_hasRoom "\n"
        (Sink.HasRoom.after h (out.accepted ++ (encode infos).pretty))
      rw [String.toList_ofList] at harray
      simp [writeInterfaces, harray, hbreak, listing]
  | false =>
      have htext : listing false infos = (if infos.isEmpty then "No raw USB interfaces found\n"
          else String.join (infos.map RawInterface.lines)).toList := by
        cases infos with
        | nil => rfl
        | cons i infos => exact (toList_lines (i :: infos)).symm
      rw [htext] at h ⊢
      simp only [writeInterfaces, Sink.write_of_hasRoom _ h]
      exact ⟨rfl, rfl⟩

/-! ### Texts on one line -/

/-- A text without a line break. -/
def OneLine (s : String) : Prop := '\n' ∉ s.toList

instance (s : String) : Decidable (OneLine s) := inferInstanceAs (Decidable ('\n' ∉ s.toList))

@[simp] lemma oneLine_append {s t : String} : OneLine (s ++ t) ↔ OneLine s ∧ OneLine t := by
  simp [OneLine]

@[simp] lemma oneLine_repr (n : ℕ) : OneLine n.repr := by
  intro hmem
  rw [Nat.toList_repr] at hmem
  exact absurd (Nat.isDigit_of_mem_toDigits (by decide) (by decide) hmem) (by decide)

@[simp] lemma oneLine_padded (width n : ℕ) : OneLine (padded width n) := by
  rw [padded, oneLine_append]
  exact ⟨by simp [OneLine, List.mem_replicate], oneLine_repr n⟩

lemma lineBreak_notMem_byteDigits (b : UInt8) : '\n' ∉ byteDigits b := by
  have hdigit : ∀ n : Fin 16, '\n' ≠ hexDigit n := by decide
  have hhigh := hdigit ⟨b.toNat / 16, by have := b.toNat_lt; omega⟩
  have hlow := hdigit ⟨b.toNat % 16, by omega⟩
  simpa [byteDigits] using ⟨hhigh, hlow⟩

@[simp] lemma oneLine_hex4 (w : UInt16) : OneLine (hex4 w) := by
  simp [OneLine, hex4, lineBreak_notMem_byteDigits]

@[simp] lemma oneLine_hexByte (b : UInt8) : OneLine (hexByte b) := by
  simp [OneLine, hexByte, hex2, lineBreak_notMem_byteDigits]

/-- The name of a class is on one line, and so is the number of a class without one. -/
@[simp] lemma oneLine_class (c : Usb.Class) : OneLine c.text := by
  have hnames : ∀ entry ∈ Class.names, OneLine entry.2 := by decide
  rw [Class.text, nameOrDecimal]
  cases hname : c.name? with
  | none => exact oneLine_repr _
  | some name =>
      obtain ⟨_, _, hsplit, -⟩ := List.lookup_eq_some_iff.mp hname
      exact hnames (c.code, name) (by simp [hsplit])

@[simp] lemma oneLine_protocol (p : Protocol) : OneLine p.text := oneLine_repr _

@[simp] lemma oneLine_transferType (t : TransferType) : OneLine t.text := by
  cases t <;> decide

/-! ### The lines of records that were found -/

namespace Usb.RawInterface

/-- A record whose path is made of its ids and its port. -/
def Placed (i : RawInterface) : Prop := i.path = pathOf i.vendorId i.productId i.port

lemma oneLine_describe (i : RawInterface) : OneLine i.describe := by
  rw [describe]
  split_ifs <;>
    · simp only [oneLine_append, oneLine_hex4, oneLine_class, Nat.toString_eq_repr, oneLine_repr,
        oneLine_protocol, and_true, true_and]
      decide

/-- Only the path of a record could take more than one line. -/
lemma Placed.oneLine_display {i : RawInterface} (h : i.Placed) : OneLine i.display := by
  have hpath : OneLine i.path := by
    rw [h, pathOf]
    simp only [oneLine_append, oneLine_hex4, oneLine_padded, and_true, true_and]
    decide
  unfold display
  simp only [oneLine_append, hpath, oneLine_padded, Nat.toString_eq_repr, oneLine_repr,
    oneLine_hexByte, oneLine_transferType, and_true, true_and]
  decide

end Usb.RawInterface

/-- Each line of a listing is one line. -/
lemma oneLine_shownLines {infos : List RawInterface} (h : ∀ i ∈ infos, i.Placed) :
    ∀ line ∈ shownLines infos, OneLine line := by
  intro line hline
  rw [shownLines] at hline
  split_ifs at hline with hempty
  · rw [List.mem_singleton.mp hline]
    decide
  · obtain ⟨i, hi, hmem⟩ := List.mem_flatMap.mp hline
    rcases List.mem_cons.mp hmem with rfl | hmem
    · exact i.oneLine_describe
    · rw [List.mem_singleton.mp hmem, oneLine_append]
      exact ⟨by decide, (h i hi).oneLine_display⟩

/-- Lines that are ended by a break each are told apart again. -/
lemma splitOn_lines {lines : List String} (h : ∀ line ∈ lines, OneLine line) :
    (lines.flatMap fun line => line.toList ++ ['\n']).splitOn '\n' =
      lines.map String.toList ++ [[]] := by
  induction lines with
  | nil => rfl
  | cons line lines ih =>
      have hrest := ih fun l hl => h l (List.mem_cons_of_mem _ hl)
      rw [List.flatMap_cons, List.append_assoc, List.singleton_append,
        List.splitOn_append_cons_self_of_not_mem (h line (List.mem_cons_self ..)), hrest]
      rfl

/-! ### Records that a scan finds -/

namespace Manager

variable {σ δ η : Type} [Platform σ δ η] {m : Manager σ δ η}

/-- Matched settings become records whose path is made of their ids and their port. -/
lemma placed_invariant :
    ScanInvariant (σ := σ) (δ := δ) (η := η) (fun _ => True)
      fun fs _ => ∀ f ∈ fs, f.info.Placed where
  log := fun _ _ _ _ h => h
  record := by
    intro fs m c alt info _ _ hinfo h f hf
    rcases List.mem_append.mp hf with hf | hf
    · exact h f hf
    · rw [List.mem_singleton.mp hf, recordMatch]
      rw [Candidate.rawInterface?] at hinfo
      split_ifs at hinfo
      obtain ⟨pair, -, rfl⟩ := Option.map_eq_some_iff.mp hinfo
      rfl

lemma placed_walk (filter : Filter) : ∀ f ∈ (m.walk filter).1.found, f.info.Placed := by
  rw [walk]
  rcases m.native Platform.devices with ⟨_ | devices, m₁⟩
  · simp
  · exact placed_invariant.devices filter devices (m := m₁) (fun _ _ _ _ _ => trivial) 0
      (F := []) (by simp)

lemma placed_enumerate {filter : Filter} {found : List (Found δ)}
    (h : (m.enumerate filter).1 = .ok found) : ∀ f ∈ found, f.info.Placed := by
  rw [enumerate, scan] at h
  rcases hready : m.ready with ⟨_ | ⟨⟩, m₁⟩ <;> rw [hready] at h
  · cases h
  · have hwalk := placed_walk (m := m₁) filter
    simp only at h
    rcases hw : m₁.walk filter with ⟨⟨found', _ | e⟩, m₂⟩ <;> rw [hw] at h hwalk
    · cases h
      exact hwalk
    · cases h

end Manager

/-! ### What a listing prints -/

/-- A text that says what records are: an array from which they are read back, in order, and a
line break; or the lines that show them, and nothing after the last of these. -/
structure Prints (json : Bool) (infos : List RawInterface) (text : List Char) : Prop where
  array : json = true → ∃ items, text = '[' :: items ++ [']', '\n'] ∧
    Json.parseChars? ('[' :: items ++ [']']) = some (.arr (infos.map encode)) ∧
    Json.read? (List RawInterface) (String.ofList text) = some infos
  lines : json = false → text.splitOn '\n' = (shownLines infos).map String.toList ++ [[]]

/-- The text of a listing says what the records are. -/
lemma prints_listing (json : Bool) {infos : List RawInterface} (h : ∀ i ∈ infos, i.Placed) :
    Prints json infos (listing json infos) where
  array := by
    rintro rfl
    obtain ⟨items, hitems⟩ := Json.pretty_arr (infos.map encode)
    have hvalue := (exact infos).parseChars?_pretty Json.blank_nil
    have htext : (encode infos).pretty = '[' :: items ++ [']'] := hitems
    refine ⟨items, ?_, ?_, ?_⟩
    · rw [listing, if_pos rfl, htext]
      simp
    · rwa [List.append_nil, htext] at hvalue
    · rw [listing, if_pos rfl]
      exact Json.read?_pretty infos (Json.blank_singleton rfl)
  lines := by
    rintro rfl
    exact splitOn_lines (oneLine_shownLines h)

/-- What a listing does: it succeeds exactly if enumeration does, gives the number of records,
and prints what they are. -/
structure Listed {σ δ η : Type} [Platform σ δ η] (m : Manager σ δ η) (filter : Filter)
    (json : Bool) (out : Sink) (ran : Ran σ δ η ℕ) : Prop where
  isOk_eq : ran.result.isOk = (m.enumerate filter).1.isOk
  failed : ∀ e, (m.enumerate filter).1 = .error e →
    ran.result = .error (.enumerate e) ∧ ran.out = out
  found : ∀ found, (m.enumerate filter).1 = .ok found → ran.result = .ok found.length ∧
    ∃ text, ran.out.accepted = out.accepted ++ text ∧ Prints json (found.map Found.info) text

namespace Manager

variable {σ δ η : Type} [Platform σ δ η]

section Runs

variable {m m₁ : Manager σ δ η} {filter : Filter} (json : Bool) (out : Sink)

/-- Where enumeration fails, so does the listing, and nothing is written. -/
lemma listInterfaces_of_error {e : UsbError} (h : m.enumerate filter = (.error e, m₁)) :
    m.listInterfaces filter json out = ⟨.error (.enumerate e), out, m₁⟩ := by
  rw [listInterfaces, h]

/-- A listing that has room for its text gives the number of records, and the records back. -/
lemma listInterfaces_of_ok {found : List (Found δ)} (h : m.enumerate filter = (.ok found, m₁))
    (hroom : out.HasRoom (listing json (found.map Found.info))) :
    m.listInterfaces filter json out =
      ⟨.ok found.length, (writeInterfaces out json (found.map Found.info)).2,
        m₁.discard found⟩ := by
  rw [listInterfaces, h]
  simp only [(writeInterfaces_of_hasRoom hroom).1]
  rfl

end Runs

/-- On any native layer, a listing whose output has room for its text does what it is for. -/
theorem listInterfaces_listed (m : Manager σ δ η) (filter : Filter) (json : Bool) (out : Sink)
    (hroom : ∀ found, (m.enumerate filter).1 = .ok found →
      out.HasRoom (listing json (found.map Found.info))) :
    Listed m filter json out (m.listInterfaces filter json out) := by
  rcases henum : m.enumerate filter with ⟨e | found, m₁⟩
  · have herror : (m.enumerate filter).1 = .error e := by rw [henum]
    have hran := listInterfaces_of_error json out henum
    refine ⟨by rw [hran, herror]; rfl, fun e' he => ?_, fun found hfound => ?_⟩
    · rw [herror] at he
      cases he
      rw [hran]
      exact ⟨rfl, rfl⟩
    · rw [herror] at hfound
      cases hfound
  · have hfound : (m.enumerate filter).1 = .ok found := by rw [henum]
    have hran := listInterfaces_of_ok json out henum (hroom found hfound)
    have htext := (writeInterfaces_of_hasRoom (hroom found hfound)).2
    have hplaced : ∀ i ∈ found.map Found.info, i.Placed := by
      simpa using placed_enumerate hfound
    refine ⟨by rw [hran, hfound]; rfl, fun e he => ?_, fun found' hfound' => ?_⟩
    · rw [hfound] at he
      cases he
    · rw [hfound] at hfound'
      cases hfound'
      rw [hran]
      exact ⟨rfl, _, htext, prints_listing json hplaced⟩

/-- Two devices, of which the filter admits one, listed as text on an output without limit. -/
theorem listInterfaces_listed_vendor :
    let m : Manager Bench Instance DeviceKey :=
      { platform := (({} : Bench).attach (.raw ⟨1, 1⟩ 2 0x1209 0x0001)).attach
          (.raw ⟨1, 3⟩ 9 0x4242 0x0001) }
    let ran := m.listInterfaces (.vendor 0x4242) false {}
    Listed m (.vendor 0x4242) false {} ran ∧ ran.result = .ok 1 ∧
      ran.out.accepted = ("4242:0001 vendor-specific (0) 0\n" ++
        "    4242:0001:09 bus 001 addr 003 if 0 alt 0 in 0x81 (bulk) out 0x01 (bulk)\n").toList := by
  intro m ran
  have hlisted := listInterfaces_listed m (.vendor 0x4242) false {} fun _ _ _ hroom => by
    cases hroom
  exact ⟨hlisted, by decide +kernel, by decide +kernel⟩

end Manager

end UsbPipe
