/-
Reading options from the words of a command line.

* `OptionSpec`: an option, a plain one or one with a value, and what it sets.
* `OptionSet`: the options and commands that are known at one place of the command line.
* `OptionSet.read`: the words up to a command or the end, with the last option perhaps not
  settled yet; `Reading.settle` settles it.
* `Notice`: why the program does not run, because the words are wrong or ask for a text.
-/

namespace UsbPipe

/-- Why the program does not run. -/
inductive Notice where
  | usage
  | help
  | version
  deriving DecidableEq

/-- An option by its name and perhaps a letter.  What it sets is refused if the value is
none of its values, or if it was set before. -/
inductive OptionSpec (α : Type) where
  | plain (name : String) (set : α → Option α)
  | valued (name : String) (letter? : Option Char) (set : String → α → Option α)

/-- The name of an option. -/
def OptionSpec.name {α : Type} : OptionSpec α → String
  | plain name _ => name
  | valued name _ _ => name

/-- The letter of an option. -/
def OptionSpec.letter? {α : Type} : OptionSpec α → Option Char
  | plain _ _ => none
  | valued _ letter? _ => letter?

/-- What is known at one place of the command line. -/
structure OptionSet (α : Type) where
  options : List (OptionSpec α)
  commands : List String := []
  hasVersion : Bool := false

/-- An option that is not settled yet. -/
inductive Pending (α : Type) where
  | nothing
  /-- It has no value yet. -/
  | awaiting (set : String → α → Option α)
  /-- It has a value that has not been looked at. -/
  | given (set : α → Option α)

/-- What has been read: the values that are set, and perhaps one more. -/
structure Reading (α : Type) where
  values : α
  pending : Pending α := .nothing

/-- A refused value is a wrong use. -/
def orUsage {α : Type} : Option α → Except Notice α
  | some a => .ok a
  | none => .error .usage

/-- The values, the one that was pending looked at. -/
def Reading.settle {α : Type} (r : Reading α) : Except Notice α :=
  match r.pending with
  | .nothing => .ok r.values
  | .awaiting _ => .error .usage
  | .given set => orUsage (set r.values)

/-- One value more, set at once. -/
def Reading.add {α : Type} (r : Reading α) (set : α → Option α) : Except Notice (Reading α) := do
  let values ← r.settle
  let values ← orUsage (set values)
  pure { values := values }

/-- One option more, which waits for its value. -/
def Reading.await {α : Type} (r : Reading α) (set : String → α → Option α) :
    Except Notice (Reading α) := do
  let values ← r.settle
  pure { values := values, pending := .awaiting set }

/-! ### Words -/

/-- The kinds of words. -/
inductive Word where
  /-- Two dashes, after which no option follows. -/
  | dashes
  /-- Two dashes and a name, with what follows an equals sign. -/
  | long (name : String) (value? : Option String)
  /-- A dash and a letter, with what follows it. -/
  | short (letter : Char) (tail : List Char)
  /-- A command or a value. -/
  | simple

/-- A name with what follows its equals sign. -/
def longWord (cs : List Char) : Word :=
  .long (String.ofList (cs.takeWhile (· != '=')))
    (match cs.dropWhile (· != '=') with
      | [] => none
      | _ :: value => some (String.ofList value))

/-- The kind of a word. -/
def wordOf (word : String) : Word :=
  match word.toList with
  | ['-', '-'] => .dashes
  | '-' :: '-' :: cs => longWord cs
  | '-' :: letter :: tail => .short letter tail
  | _ => .simple

namespace OptionSet

variable {α : Type}

/-- A notice that the words ask for, if what came before is right. -/
def give (r : Reading α) (n : Notice) : Except Notice (Reading α) := do
  let _ ← r.settle
  .error n

/-- An option by its name. -/
def long (s : OptionSet α) (r : Reading α) (name : String) (value? : Option String) :
    Except Notice (Reading α) :=
  if name = "help" ∧ value? = none then give r .help
  else if name = "version" ∧ s.hasVersion ∧ value? = none then give r .version
  else
    match s.options.find? (·.name == name), value? with
    | some (.plain _ set), none => r.add set
    | some (.valued _ _ set), some value => r.add (set value)
    | some (.valued _ _ set), none => r.await set
    | _, _ => .error .usage

/-- The value that follows a letter in its word. -/
def attached? : List Char → Option String
  | [] => none
  | '=' :: value => some (String.ofList value)
  | value => some (String.ofList value)

/-- An option by its letter. -/
def short (s : OptionSet α) (r : Reading α) (letter : Char) (tail : List Char) :
    Except Notice (Reading α) :=
  if letter = 'h' then give r .help
  else if letter = 'V' ∧ s.hasVersion then give r .version
  else
    match s.options.find? (·.letter? == some letter), attached? tail with
    | some (.valued _ _ set), some value => r.add (set value)
    | some (.valued _ _ set), none => r.await set
    | _, _ => .error .usage

/-- A command with the words after it. -/
abbrev Rest := Option (String × List String)

/-- The options up to a command or the end.  A word that starts with a dash is never a
value of the word before it. -/
def read (s : OptionSet α) (r : Reading α) : List String → Except Notice (Reading α × Rest)
  | [] => .ok (r, none)
  | word :: words =>
    match wordOf word with
    | .dashes => if words.isEmpty then .ok (r, none) else .error .usage
    | .long name value? => do s.read (← s.long r name value?) words
    | .short letter tail => do s.read (← s.short r letter tail) words
    | .simple =>
      match r.pending with
      | .awaiting set => s.read { r with pending := .given (set word) } words
      | _ => if s.commands.contains word then .ok (r, some (word, words)) else .error .usage

end OptionSet

end UsbPipe
