/-
The text of a configuration.

* `Config.parse?`: the configuration of a TOML text.  What it does not set has its default,
  and what it sets beyond the settings is left out.
* `Config.document?`: the text of a configuration, with a header for every section; there
  is none for a timeout that 64 bits with a sign cannot hold.
-/
import UsbPipe.Config.Basic
import UsbPipe.Toml.Parser
import UsbPipe.Toml.Printer

namespace UsbPipe.Config

open Text

/-! ### Reading -/

/-- A text that has to be one. -/
def textOf? : Toml → Option String
  | .str text => some text
  | _ => none

/-- A number of milliseconds that has to be one. -/
def millisecondsOf? : Toml → Option UInt64
  | .int n => if 0 ≤ n ∧ Toml.fits n then some n.toNat.toUInt64 else none
  | _ => none

/-- A field as `read?` reads it, or its default if it is missing. -/
def fieldOr {α : Type} (missing : α) (read? : Toml → Option α) : Option Toml → Option α
  | none => some missing
  | some v => read? v

/-- The settings of the log. -/
def loggingOf? (v : Toml) : Option LoggingSettings := do
  let level ← fieldOr ({} : LoggingSettings).level textOf? (v.field? 0 "level")
  pure { level }

/-- The ids a scan is limited to. -/
def deviceOf? (v : Toml) : Option DeviceSettings := do
  let vendorId ← fieldOr none (fun v => (textOf? v).map some) (v.field? 0 "vendor_id")
  let productId ← fieldOr none (fun v => (textOf? v).map some) (v.field? 1 "product_id")
  pure { vendorId, productId }

/-- The timeouts of transfers. -/
def timeoutsOf? (v : Toml) : Option TimeoutSettings := do
  let readMs ← fieldOr 0 millisecondsOf? (v.field? 0 "read_ms")
  let writeMs ← fieldOr 0 millisecondsOf? (v.field? 1 "write_ms")
  pure { readMs, writeMs }

/-- A section as `read?` reads it. -/
def section? {α : Type} (read? : Toml → Option α) (v : Toml) : Option α :=
  if v.isSection then read? v else none

/-- The configuration of the entries of a document. -/
def ofEntries? (es : Toml.Entries) : Option Config := do
  let logging ← fieldOr {} (section? loggingOf?) (es.lookup "logging")
  let device ← fieldOr {} (section? deviceOf?) (es.lookup "device")
  let timeouts ← fieldOr {} (section? timeoutsOf?) (es.lookup "timeouts")
  pure { logging, device, timeouts }

/-- The configuration of a text. -/
def parse? (text : String) : Option Config := do ofEntries? (← Toml.parse? text)

/-! ### Writing -/

/-- A line that sets a key. -/
def line (key : String) (value : List Char) : List Char :=
  key.toList ++ " = ".toList ++ value ++ ['\n']

/-- The line of an id, if it is set. -/
def idLine (field : IdField) : Option String → List Char
  | none => []
  | some text => line field.name (Toml.quoted text.toList)

/-- The line of a timeout. -/
def timeoutLine (key : String) (ms : UInt64) : List Char := line key (decimal ms.toNat)

/-- The characters of the text of a configuration. -/
def documentChars (c : Config) : List Char :=
  "[logging]\n".toList
    ++ line "level" (Toml.quoted c.logging.level.toList)
    ++ "\n[device]\n".toList
    ++ idLine .vendor c.device.vendorId
    ++ idLine .product c.device.productId
    ++ "\n[timeouts]\n".toList
    ++ timeoutLine "read_ms" c.timeouts.readMs
    ++ timeoutLine "write_ms" c.timeouts.writeMs

/-- The text of a configuration, if all its numbers can be written. -/
def document? (c : Config) : Option String :=
  if Toml.fits c.timeouts.readMs.toNat ∧ Toml.fits c.timeouts.writeMs.toNat
  then some (String.ofList c.documentChars) else none

end UsbPipe.Config
