/-
Events, the things worth telling while the library works.

* `Level`: the weight of an event, with `name`, `tag` and the list `Level.all`.
* `Event`: a level and a message.
* `Level.isName`: the words that a configuration may give as its level.
-/

namespace UsbPipe

/-- The weight of an event. -/
inductive Level where
  | trace
  | debug
  | info
  | warn
  | error
  deriving DecidableEq

namespace Level

/-- The levels, the chattiest first. -/
def all : List Level := [trace, debug, info, warn, error]

/-- The name of a level in small letters. -/
def name : Level → String
  | trace => "trace"
  | debug => "debug"
  | info => "info"
  | warn => "warn"
  | error => "error"

/-- The name of a level in capitals. -/
def tag : Level → String
  | trace => "TRACE"
  | debug => "DEBUG"
  | info => "INFO"
  | warn => "WARN"
  | error => "ERROR"

/-- The names of the levels. -/
def names : List String := all.map name

/-- Whether a word is the name of a level. -/
def isName (word : String) : Bool := names.contains word

end Level

/-- Something worth telling, as it happened. -/
structure Event where
  level : Level
  message : String
  deriving DecidableEq

end UsbPipe
