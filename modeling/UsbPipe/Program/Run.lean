/-
A run of the program.

* `Outcome`: the exit code, if there is one, the output, and the report of a failure.
* `Program.run`: what words do, in given surroundings and on a given native layer.
* `ProgramError`: why a run fails, with `causes`; `report` writes these.
-/
import UsbPipe.Command.Basic
import UsbPipe.Config.Store
import UsbPipe.LogFilter
import UsbPipe.Manager.Shutdown
import UsbPipe.Program.Arguments

namespace UsbPipe

open Usb

/-! ### Failures -/

/-- Why a run fails. -/
inductive ProgramError where
  | save (cause : ConfigError)
  | load (cause : ConfigError)
  | logFilter (cause : LogFilterError)
  | filter (cause : ConfigError)
  | payload (cause : Hex.Error)
  | command (cause : CommandError)

/-- The texts of the failure and its causes, outermost first. -/
def ProgramError.causes : ProgramError → List String
  | save e => "Failed to save configuration" :: e.causes
  | load e => "Failed to load configuration" :: e.causes
  | logFilter e =>
    ["Failed to setup logging", "Configuration error: Invalid log filter: " ++ e.message]
  | filter e => e.causes
  | payload e => ["Invalid --write payload", e.message]
  | command e => e.causes

/-- Whether the run ends at the failure, and tells nothing of it. -/
def ProgramError.isFatal : ProgramError → Bool
  | logFilter e => e.isFatal
  | command e => e.isFatal
  | _ => false

/-! ### Reports -/

/-- The lines of a text. -/
def textLines (text : String) : List String :=
  (Text.pieces '\n' text.toList).map String.ofList

/-- The lines of a cause: the first after `head`, the others below its text. -/
def causeLines (head text : String) : List String :=
  let indent := String.ofList (List.replicate head.length ' ')
  match textLines text with
  | [] => []
  | first :: rest => (head ++ first) :: rest.map (indent ++ ·)

/-- The text in front of a cause among several. -/
def numberedHead (index : Nat) : String :=
  let digits := Text.decimal index
  String.ofList (List.replicate (5 - digits.length) ' ' ++ digits) ++ ": "

/-- The lines of several causes with their numbers. -/
def numberedLines : Nat → List String → List String
  | _, [] => []
  | index, cause :: causes =>
    causeLines (numberedHead index) cause ++ numberedLines (index + 1) causes

/-- The lines that report a failure: its text, and the causes below it. -/
def report : List String → List String
  | [] => []
  | [text] => textLines ("Error: " ++ text)
  | [text, cause] =>
    textLines ("Error: " ++ text) ++ ["", "Caused by:"] ++ causeLines "    " cause
  | text :: causes =>
    textLines ("Error: " ++ text) ++ ["", "Caused by:"] ++ numberedLines 0 causes

/-! ### Outcomes -/

/-- What a run leaves to whoever started it; there is no exit code if the system stops it. -/
structure Outcome where
  code? : Option UInt32 := some 0
  output : String := ""
  report : List String := []
  deriving DecidableEq

/-- The end of a run: its outcome, the surroundings, and the manager. -/
structure Ended (σ δ η : Type) where
  outcome : Outcome
  surroundings : Surroundings
  manager : Manager σ δ η

namespace Program

/-- The name and the version of the program. -/
def versionText : String := "rawusb 0.1.0\n"

/-- A short guide to the command line. -/
def helpText : String :=
  "rawusb - Talk to raw bulk/interrupt USB interfaces\n\n"
    ++ "Usage: rawusb [OPTIONS] [COMMAND]\n\n"
    ++ "Commands:\n"
    ++ "  list      List matched raw interfaces\n"
    ++ "  transfer  Open an interface, write a payload and optionally read a reply\n"
    ++ "  help      Print this message\n\n"
    ++ "Options:\n"
    ++ "  -c, --config <PATH>      Path to configuration file\n"
    ++ "      --save-config        Save default configuration to default location and exit\n"
    ++ "  -l, --log-level <LEVEL>  Log level (trace, debug, info, warn, error)\n"
    ++ "  -h, --help               Print help\n"
    ++ "  -V, --version            Print version\n"

/-- The outcome of words that do not make the program run. -/
def noticeOutcome : Notice → Outcome
  | .usage => { code? := some 2 }
  | .help => { output := helpText }
  | .version => { output := versionText }

/-- The exit code of a run that ended at a failure. -/
def failureCode? : ProgramError → Option UInt32
  | .command .replyRoom => none
  | e => some (if e.isFatal then 101 else 1)

/-- The outcome of a failure after some output. -/
def failed (e : ProgramError) (output : String) : Outcome where
  code? := failureCode? e
  output := output
  report := if e.isFatal then [] else report e.causes

/-- The outcome of a result after some output. -/
def outcomeOf {α : Type} (result : Except CommandError α) (output : String) : Outcome :=
  match result with
  | .ok _ => { output := output }
  | .error e => failed (.command e) output

/-- The configuration that arguments ask for. -/
def configFor (s : Surroundings) : Option String → Except ProgramError Config
  | some path => (s.load (some path)).mapError .load
  | none => .ok s.loadOrDefault.1

/-- The check of the log filter.  The one that is set in the surroundings counts if it is a
filter, and else that of the arguments or that of the configuration. -/
def checkLog (s : Surroundings) (a : Arguments) (c : Config) : Except ProgramError Unit :=
  let fallback := LogFilter.check (a.logLevel?.getD c.logging.level)
  let checked : Except LogFilterError Unit := match s.logFilter?.map LogFilter.check with
    | some (.ok ()) => .ok ()
    | some (.error e) => if e.isFatal then .error e else fallback
    | none => fallback
  checked.mapError .logFilter

/-- A configuration that passed its check has a level that is a filter, so only a filter that is
set in the surroundings and at which the program ends can keep it from starting. -/
theorem checkLog_of_validate {s : Surroundings} {a : Arguments} {c : Config}
    (hc : c.validate = .ok ()) (ha : a.logLevel? = none)
    (hs : ∀ text e, s.logFilter? = some text → LogFilter.check text = .error e →
      e.isFatal = false) : checkLog s a c = .ok () := by
  obtain ⟨hname, -⟩ := (Config.validate_eq_ok_iff c).mp hc
  obtain ⟨l, -, hl⟩ := List.mem_map.mp (List.contains_iff_mem.mp hname)
  have hfallback : LogFilter.check (a.logLevel?.getD c.logging.level) = .ok () := by
    rw [ha, Option.getD_none, ← hl]
    exact LogFilter.check_levelName l
  rw [checkLog, hfallback]
  cases hset : s.logFilter? with
  | none => rfl
  | some text =>
    rw [Option.map_some]
    cases hcheck : LogFilter.check text with
    | ok _ => rfl
    | error e =>
      simp only [hs text e hset hcheck, Bool.false_eq_true, if_false]
      rfl

/-- The exchange that a command asks for. -/
def requestFor (s : Surroundings) (c : Config) (configured ids : Filter) (port interface : UInt8)
    (payload : Bytes) (readLength? : Option Nat) : Request where
  filter := ids.orElse configured
  port := port
  interface := interface
  payload := payload
  readLength := readLength?
  readTimeout := c.timeouts.read
  writeTimeout := c.timeouts.write
  room := s.room

variable {σ δ η : Type} [Platform σ δ η]

/-- Whether a result is a failure at which the program ends. -/
def isFatal {α : Type} : Except CommandError α → Bool
  | .ok _ => false
  | .error e => e.isFatal

/-- A finished command, after which the manager is shut down, but for a fatal failure.  There is
no end if the shutdown has to wait for a channel. -/
def finish {α : Type} (s : Surroundings) (ran : Ran σ δ η α) : Option (Ended σ δ η) :=
  let outcome := outcomeOf ran.result ran.out.contents
  if isFatal ran.result then some ⟨outcome, s, ran.manager⟩
  else ran.manager.shutdown?.map fun m => ⟨outcome, s, m⟩

/-- A command on a manager.  A wrong payload is told before anything is done. -/
def runCommand (s : Surroundings) (m : Manager σ δ η) (c : Config) (configured : Filter) :
    Command → Option (Ended σ δ η)
  | .list ids json => finish s (m.listInterfaces (ids.orElse configured) json {})
  | .exchange ids port interface payload readLength? =>
    match Hex.parseBytes payload with
    | .error e => some ⟨failed (.payload e) "", s, m⟩
    | .ok bytes =>
      finish s (m.exchange (requestFor s c configured ids port interface bytes readLength?) {})

/-- The default configuration written to its place. -/
def saveDefault (s : Surroundings) (m : Manager σ δ η) : Ended σ δ η :=
  match s.trySave {} s.defaultPath with
  | (.error e, s) => ⟨failed (.save e) "", s, m⟩
  | (.ok (), s) => ⟨{ output := "Configuration saved to: " ++ s.defaultPath ++ "\n" }, s, m⟩

/-- What has to be right before a command starts: the configuration, the log filter, and,
if there is a command, the configured filter. -/
def prepare (s : Surroundings) (a : Arguments) :
    Except ProgramError (Config × Option (Command × Filter)) := do
  let c ← configFor s a.config?
  checkLog s a c
  match a.command? with
  | none => pure (c, none)
  | some command =>
    let configured ← c.filter.mapError .filter
    pure (c, some (command, configured))

/-- A run with arguments. -/
def runArguments (s : Surroundings) (m : Manager σ δ η) (a : Arguments) :
    Option (Ended σ δ η) :=
  if a.saveConfig then some (saveDefault s m)
  else
    match prepare s a with
    | .error e => some ⟨failed e "", s, m⟩
    | .ok (_, none) => some ⟨{}, s, m⟩
    | .ok (c, some (command, configured)) => runCommand s m c configured command

/-- A run with the words of a command line; without a result it waits forever. -/
def run (s : Surroundings) (m : Manager σ δ η) (words : List String) : Option (Ended σ δ η) :=
  match Arguments.parse words with
  | .error n => some ⟨noticeOutcome n, s, m⟩
  | .ok a => runArguments s m a

end Program

end UsbPipe
