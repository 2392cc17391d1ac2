/-
The configuration of the program.

* `Config`: the level of the log, the ids a scan is limited to, and the timeouts.
* `Config.filter`, `Config.validate`: the filter that the ids give, and the check of what a
  configuration may not hold although its text can.
* `ConfigError`: why a configuration was not loaded or not saved, with `causes`.
-/
import UsbPipe.Duration
import UsbPipe.Event
import UsbPipe.Files.Tree
import UsbPipe.Hex
import UsbPipe.Usb.Filter

namespace UsbPipe

open Usb

/-! ### Settings -/

/-- The settings of the log. -/
structure LoggingSettings where
  level : String := Level.info.name
  deriving DecidableEq

/-- The ids a scan is limited to, as they were written. -/
structure DeviceSettings where
  vendorId : Option String := none
  productId : Option String := none
  deriving DecidableEq

/-- The timeouts of transfers in milliseconds, of which zero is none. -/
structure TimeoutSettings where
  readMs : UInt64 := 0
  writeMs : UInt64 := 0
  deriving DecidableEq

/-- The timeout of a number of milliseconds. -/
def TimeoutSettings.timeout (ms : UInt64) : Option Duration :=
  if ms = 0 then none else some (.ofMilliseconds ms.toNat)

/-- The timeout of reads. -/
def TimeoutSettings.read (t : TimeoutSettings) : Option Duration := timeout t.readMs

/-- The timeout of writes. -/
def TimeoutSettings.write (t : TimeoutSettings) : Option Duration := timeout t.writeMs

/-- A configuration. -/
structure Config where
  logging : LoggingSettings := {}
  device : DeviceSettings := {}
  timeouts : TimeoutSettings := {}
  deriving DecidableEq

/-! ### Failures -/

/-- One of the two ids of a configuration. -/
inductive IdField where
  | vendor
  | product
  deriving DecidableEq

/-- The name of an id in the text of a configuration. -/
def IdField.name : IdField → String
  | vendor => "vendor_id"
  | product => "product_id"

/-- Why a configuration was not loaded or not saved. -/
inductive ConfigError where
  | noFile
  | readFile (path : String) (cause : FileError)
  | parseFile (path : String)
  | badLevel (level : String)
  | badId (field : IdField) (cause : Hex.Error)
  | serialize
  | makeDirectory (path : String) (cause : FileError)
  | writeFile (path : String) (cause : FileError)
  deriving DecidableEq

/-- The texts of the failure and its causes, outermost first. -/
def ConfigError.causes : ConfigError → List String
  | noFile => ["No configuration file found, using defaults"]
  | readFile path e => ["Failed to read config file: " ++ path, e.message]
  | parseFile path => ["Failed to parse config file: " ++ path, "not the TOML of a configuration"]
  | badLevel level =>
    ["Invalid log level '" ++ level ++ "', must be one of: "
      ++ String.intercalate ", " Level.names]
  | badId field e => ["Invalid " ++ field.name, e.message]
  | serialize => ["Failed to serialize configuration", "a timeout is too long"]
  | makeDirectory path e => ["Failed to create config directory: " ++ path, e.message]
  | writeFile path e => ["Failed to write config file: " ++ path, e.message]

/-- The text of the failure itself. -/
def ConfigError.message (e : ConfigError) : String := e.causes.headD ""

/-! ### Checks -/

namespace Config

/-- The value of an id that may be missing. -/
def idValue (field : IdField) : Option String → Except ConfigError (Option UInt16)
  | none => .ok none
  | some text =>
    match Hex.parseId text with
    | .ok id => .ok (some id)
    | .error e => .error (.badId field e)

/-- The filter of the two ids. -/
def filter (c : Config) : Except ConfigError Filter := do
  let vendorId ← idValue .vendor c.device.vendorId
  let productId ← idValue .product c.device.productId
  pure { vendorId, productId }

/-- The check that the level has a name and that the ids are ids. -/
def validate (c : Config) : Except ConfigError Unit :=
  if Level.isName c.logging.level then c.filter.map fun _ => ()
  else .error (.badLevel c.logging.level)

/-- What passes the check has a named level and a filter. -/
theorem validate_eq_ok_iff (c : Config) :
    c.validate = .ok () ↔ Level.isName c.logging.level = true ∧ ∃ f, c.filter = .ok f := by
  rw [validate]
  split
  next h =>
    cases hf : c.filter with
    | error e => simp [Except.map]
    | ok f => simp [Except.map, h]
  next h => simp [h]

/-- The default configuration does. -/
example : ({} : Config).validate = .ok () := rfl

end Config

end UsbPipe
