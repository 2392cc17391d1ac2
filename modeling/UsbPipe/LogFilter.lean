/-
Filters of the log.

A filter is a list of directives with commas between: a level, or the target, span and fields
it is about, and after an equals sign a level.  A field may have a value, which is a number or a
pattern.

* `LogFilter.check`: accepts a text that is a filter.
* `LogFilter.isLevel`: the words and numbers that are levels.
* `LogFilterError`: what is wrong with a text, with `message`.
* `Piece.between_eq`: parts are found where they stand, if no blanks stand in front.
* `check_levelName`: the name of a level is a filter.
-/
import UsbPipe.Event
import UsbPipe.Pattern.Check
import UsbPipe.Text.Alphanumeric
import UsbPipe.Text.Blank
import UsbPipe.Text.Bytes
import UsbPipe.Text.Decimal
import UsbPipe.Text.Pieces
import UsbPipe.Text.Real

namespace UsbPipe

open Text

/-- What is wrong with a text that is no filter. -/
inductive LogFilterError where
  | directive
  | level
  | field (cause : PatternError)
  /-- A place of the directive is inside a character, which ends the program. -/
  | brokenCharacter
  deriving DecidableEq

/-- The failure in words. -/
def LogFilterError.message : LogFilterError → String
  | directive => "invalid filter directive"
  | level =>
    "error parsing level filter: expected one of \"off\", \"error\", \"warn\", \"info\", "
      ++ "\"debug\", \"trace\", or a number 0-5"
  | field e => "invalid field filter: " ++ e.message
  | brokenCharacter => "not a char boundary"

/-- Whether the program ends at the failure, and tells nothing of it. -/
def LogFilterError.isFatal (e : LogFilterError) : Bool := e = brokenCharacter

namespace LogFilter

/-! ### Levels -/

/-- The highest number of a level. -/
def maxLevel : Nat := 5

/-- Whether a text is a level: a number up to five, or a name in any case. -/
def isLevel (cs : List Char) : Bool :=
  match natural? cs with
  | some n => n ≤ maxLevel
  | none => ("off" :: Level.names).contains (String.ofList (cs.map Char.toLower))

/-! ### Directives -/

/-- A directive: its text, and the blanks around that. -/
structure Piece where
  before : List Char
  text : List Char
  after : List Char

/-- The directive with the blanks around it. -/
def Piece.whole (p : Piece) : List Char := p.before ++ (p.text ++ p.after)

/-- The directive from the place on where `rest` ends its text.  Places are counted from the
blanks in front of the directive, so after blanks what is found there starts earlier. -/
def Piece.since (p : Piece) (rest : List Char) : Except LogFilterError (List Char) :=
  match splitBytes? (utf8Size p.text - utf8Size rest) p.whole with
  | some (_, found) => .ok found
  | none => .error .brokenCharacter

/-- The directive between two places. -/
def Piece.between (p : Piece) (start stop : List Char) : Except LogFilterError (List Char) := do
  match splitBytes? (utf8Size start - utf8Size stop) (← p.since start) with
  | some (found, _) => .ok found
  | none => .error .brokenCharacter

/-- Without blanks in front of the directive, its text is found where it stands. -/
theorem Piece.between_eq {p : Piece} {front part back : List Char} (hb : p.before = [])
    (ht : p.text = front ++ (part ++ back)) : p.between (part ++ back) back = .ok part := by
  have hsince : p.since (part ++ back) = .ok (part ++ back ++ p.after) := by
    rw [since, whole, hb, List.nil_append, ht, utf8Size_append, Nat.add_sub_cancel,
      List.append_assoc, splitBytes?_append]
  have hsize : utf8Size (part ++ back) - utf8Size back = utf8Size part := by
    rw [utf8Size_append, Nat.add_sub_cancel]
  rw [between, hsince, hsize]
  simp only [bind, Except.bind, List.append_assoc, splitBytes?_append]

/-- The level of a directive; none is the chattiest.  The blanks after it belong to it. -/
def level (p : Piece) (rest : List Char) : Except LogFilterError Unit := do
  let cs ← p.since rest
  if cs.isEmpty || isLevel cs then .ok () else .error .level

/-- What may follow a span. -/
def afterSpan (p : Piece) : List Char → Except LogFilterError Unit
  | [] => .ok ()
  | '=' :: rest => level p rest
  | _ => .error .directive

/-- The value of a field is what stands between the first equals sign and the next: a number, or
a pattern.  There is no empty field. -/
def field (cs : List Char) : Except LogFilterError Unit :=
  match pieces '=' cs with
  | [[]] => .error .directive
  | _ :: value :: _ => if isReal value then .ok () else (Pattern.check value).mapError .field
  | _ => .ok ()

/-- A field up to the closing brace and the closing bracket. -/
def fields (p : Piece) (cs : List Char) : Except LogFilterError Unit :=
  match cs.dropWhile (· ≠ '\x7d') with
  | [] => .error .directive
  | brace :: rest => do
    field (← p.between cs (brace :: rest))
    match rest with
    | ']' :: rest => afterSpan p rest
    | _ => .error .directive

/-- A span that began at `start`, with fields or without, up to the closing bracket. -/
def span (p : Piece) (start : List Char) : List Char → Except LogFilterError Unit
  | [] => .error .directive
  | c :: rest =>
    if c = ']' then do
      let _ ← p.between start (c :: rest)
      afterSpan p rest
    else if c = '\x7b' then do
      let _ ← p.between start (c :: rest)
      fields p rest
    else span p start rest

/-- A level or a target, of which the first character is past. -/
def target (p : Piece) : List Char → Except LogFilterError Unit
  | [] => .ok ()
  | c :: rest =>
    if c = '=' then do
      let _ ← p.between p.text (c :: rest)
      level p rest
    else if c = '[' then do
      let _ ← p.between p.text (c :: rest)
      span p rest rest
    else target p rest

/-- Whether a target may start with a character. -/
def startsTarget (c : Char) : Bool := isAlphanumeric c || c == '-' || c == ':' || c == '_'

/-- A directive. -/
def directive (cs : List Char) : Except LogFilterError Unit :=
  let p : Piece :=
    ⟨cs.takeWhile isBlank, trimBlanks cs, (cs.reverse.takeWhile isBlank).reverse⟩
  match p.text with
  | [] => .error .directive
  | '[' :: rest => span p rest rest
  | c :: rest => if startsTarget c then target p rest else .error .directive

/-- Accepts a filter; nothing between two commas is no directive. -/
def check (text : String) : Except LogFilterError Unit :=
  ((pieces ',' text.toList).filter (!·.isEmpty)).forM directive

/-- The name of a level is a filter. -/
theorem check_levelName (l : Level) : check l.name = .ok () := by
  cases l <;> rfl

end LogFilter

end UsbPipe
