/-
The arguments of the program.

* `Arguments`: the configuration and the log that are asked for, and a command.
* `Arguments.parse`: the arguments that the words of a command line give.
-/
import UsbPipe.Hex
import UsbPipe.Program.Options
import UsbPipe.Text.Decimal
import UsbPipe.Usb.Filter

namespace UsbPipe

open Text Usb

/-- What the program can do with raw interfaces. -/
inductive Command where
  | list (ids : Filter) (json : Bool)
  | exchange (ids : Filter) (port interface : UInt8) (payload : String)
      (readLength? : Option Nat)
  deriving DecidableEq

/-- The arguments of the program. -/
structure Arguments where
  config? : Option String := none
  logLevel? : Option String := none
  saveConfig : Bool := false
  command? : Option Command := none
  deriving DecidableEq

namespace Arguments

/-! ### Values -/

/-- The values of all options that were given at one place. -/
structure Given where
  config? : Option String := none
  logLevel? : Option String := none
  saveConfig : Bool := false
  ids : Filter := {}
  json : Bool := false
  port? : Option UInt8 := none
  interface? : Option UInt8 := none
  payload? : Option String := none
  readLength? : Option Nat := none

/-- A new value in place of an old one, of which there may be none. -/
def once {β : Type} (old new : Option β) : Option (Option β) :=
  if old.isSome then none else new.map some

/-- A text that is not empty. -/
def nonempty? (text : String) : Option String := if text = "" then none else some text

/-- An id. -/
def idOf? (text : String) : Option UInt16 := (Hex.parseId text).toOption

/-- The first size that 64 bits do not hold. -/
def sizeLimit : Nat := 18446744073709551616

/-- The number of bytes that a read can ask for. -/
def sizeOf? (text : String) : Option Nat :=
  (natural? text.toList).filter (· < sizeLimit)

/-- A byte in decimal digits after an optional sign. -/
def byteOf? (text : String) : Option UInt8 :=
  match text.toList with
  | '-' :: '+' :: _ => none
  | '-' :: digits => (natural? digits).bind fun n => if n = 0 then some 0 else none
  | digits => (natural? digits).bind fun n => if n < 256 then some n.toUInt8 else none

/-! ### Options -/

/-- The options that may stand at every place. -/
def everywhere : List (OptionSpec Given) :=
  [.valued "config" (some 'c') fun text g =>
      (once g.config? (nonempty? text)).map fun x => { g with config? := x },
    .valued "log-level" (some 'l') fun text g =>
      (once g.logLevel? (some text)).map fun x => { g with logLevel? := x }]

/-- The options for the ids of devices. -/
def idOptions : List (OptionSpec Given) :=
  [.valued "vendor" none fun text g =>
      (once g.ids.vendorId (idOf? text)).map fun x => { g with ids.vendorId := x },
    .valued "product" none fun text g =>
      (once g.ids.productId (idOf? text)).map fun x => { g with ids.productId := x }]

/-- The options of a list. -/
def listOptions : OptionSet Given where
  options := everywhere ++ idOptions ++
    [.plain "json" fun g => if g.json then none else some { g with json := true }]

/-- The options of an exchange. -/
def exchangeOptions : OptionSet Given where
  options := everywhere ++ idOptions ++
    [.valued "port" none fun text g =>
        (once g.port? (byteOf? text)).map fun x => { g with port? := x },
      .valued "interface" none fun text g =>
        (once g.interface? (byteOf? text)).map fun x => { g with interface? := x },
      .valued "write" none fun text g =>
        (once g.payload? (some text)).map fun x => { g with payload? := x },
      .valued "read" none fun text g =>
        (once g.readLength? (sizeOf? text)).map fun x => { g with readLength? := x }]

/-- The names of the commands. -/
def commandNames : List String := ["list", "transfer", "help"]

/-- The options and commands of the program. -/
def rootOptions : OptionSet Given where
  options := everywhere ++
    [.plain "save-config" fun g =>
      if g.saveConfig then none else some { g with saveConfig := true }]
  commands := commandNames
  hasVersion := true

/-! ### Commands -/

/-- What is asked for after the word `help`: the program or one of its commands. -/
def helpOn : List String → Notice
  | [] => .help
  | [name] => if commandNames.contains name then .help else .usage
  | _ => .usage

/-- The values of all options up to the end. -/
def readAll (s : OptionSet Given) (words : List String) : Except Notice Given := do
  let (r, _) ← s.read { values := {} } words
  r.settle

/-- A command with its options. -/
def commandOf (name : String) (words : List String) : Except Notice (Given × Command) :=
  if name = "help" then .error (helpOn words)
  else if name = "list" then do
    let g ← readAll listOptions words
    pure (g, .list g.ids g.json)
  else do
    let g ← readAll exchangeOptions words
    let port ← orUsage g.port?
    let payload ← orUsage g.payload?
    pure (g, .exchange g.ids port (g.interface?.getD 0) payload g.readLength?)

/-- The arguments that words give.  What a command is given goes before what stands in
front of it. -/
def parse (words : List String) : Except Notice Arguments := do
  let (r, rest) ← rootOptions.read { values := {} } words
  match rest with
  | none =>
    let g ← r.settle
    pure { config? := g.config?, logLevel? := g.logLevel?, saveConfig := g.saveConfig }
  | some (name, words) =>
    let (below, command) ← commandOf name words
    let g ← r.settle
    pure
      { config? := below.config?.or g.config?
        logLevel? := below.logLevel?.or g.logLevel?
        saveConfig := g.saveConfig
        command? := some command }

end Arguments

end UsbPipe
