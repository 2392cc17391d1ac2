/-
Where configurations are kept.

* `Surroundings`: the files, the working directory, and the directories of the user.
* `Surroundings.load`, `Surroundings.loadOrDefault`: the configuration of a file, given or at
  a standard place.
* `Surroundings.trySave`, `Surroundings.save`: the files with a configuration written to one of
  them, whatever becomes of that, and where it succeeds.
-/
import UsbPipe.Config.Document
import UsbPipe.Native.Platform

namespace UsbPipe

/-- What the program finds around it: the files, the working directory, the home of the
user, the directory of the user's configurations, the filter of the log, if one is set and is
text, and the longest reply that the system has room for. -/
structure Surroundings where
  files : FileTree := .empty
  workingDirectory : FileTree.Place := []
  home? : Option String := none
  configDirectory? : Option String := none
  logFilter? : Option String := none
  room : Nat := usualRoom

namespace Surroundings

/-- The name of the program's file below a directory of configurations. -/
def fileName : String := "rawusb/rawusb.toml"

/-- Where the configuration of the user is. -/
def defaultPath (s : Surroundings) : String :=
  match s.configDirectory? with
  | some directory => Path.append directory fileName
  | none => ".config/" ++ fileName

/-- The standard places of a configuration; the first one that exists counts. -/
def candidates (s : Surroundings) : List String := [s.defaultPath, "/etc/" ++ fileName]

/-- Whether a path leads to something. -/
def «exists» (s : Surroundings) (path : String) : Bool :=
  s.files.exists s.workingDirectory path

/-- A path in which a leading `~` stands for the home of the user. -/
def expand (s : Surroundings) (path : String) : String :=
  match s.home? with
  | some home => Path.expandHome home path
  | none => path

/-- The path of the configuration that is asked for. -/
def locate (s : Surroundings) : Option String → Except ConfigError String
  | some path => .ok (s.expand path)
  | none =>
    match s.candidates.find? s.exists with
    | some path => .ok path
    | none => .error .noFile

/-! ### Loading -/

/-- The configuration of the file at a path. -/
def loadFile (s : Surroundings) (path : String) : Except ConfigError Config :=
  match s.files.readText s.workingDirectory path with
  | .error e => .error (.readFile path e)
  | .ok text =>
    match Config.parse? text with
    | none => .error (.parseFile path)
    | some c => c.validate.map fun () => c

/-- The configuration of a given file, or else of the first standard one. -/
def load (s : Surroundings) (path? : Option String) : Except ConfigError Config := do
  s.loadFile (← s.locate path?)

/-- The event of a configuration that was loaded. -/
def loadedEvent (path : String) : Event := ⟨.debug, "Loaded configuration from: " ++ path⟩

/-- The event of a configuration that was not loaded. -/
def notLoadedEvent (e : ConfigError) : Event :=
  ⟨.debug, "Failed to load config: " ++ e.message ++ ", using defaults"⟩

/-- The first standard configuration, or the default one if it is missing or wrong; and the
event that tells which. -/
def loadOrDefault (s : Surroundings) : Config × Event :=
  match s.locate none with
  | .error e => ({}, notLoadedEvent e)
  | .ok path =>
    match s.loadFile path with
    | .error e => ({}, notLoadedEvent e)
    | .ok c => (c, loadedEvent path)

/-! ### Saving -/

/-- The files with the directories above a path made, as far as that goes. -/
def makeParents (s : Surroundings) (path : String) : Except ConfigError Unit × FileTree :=
  match Path.parent? path with
  | none => (.ok (), s.files)
  | some parent =>
    let (result, files) := s.files.makeDirectories s.workingDirectory parent
    (result.mapError (.makeDirectory parent), files)

/-- The files with a text at a path, and missing directories above it made.  They stay if the
file cannot be written. -/
def putText (s : Surroundings) (path text : String) : Except ConfigError Unit × FileTree :=
  match s.makeParents path with
  | (.error e, files) => (.error e, files)
  | (.ok (), files) =>
    let (result, files) := files.orKeep (files.writeText s.workingDirectory path text)
    (result.mapError (.writeFile path), files)

/-- A configuration written to a path, with what that leaves whether it succeeds or not. -/
def trySave (s : Surroundings) (c : Config) (path : String) :
    Except ConfigError Unit × Surroundings :=
  match c.document? with
  | none => (.error .serialize, s)
  | some text =>
    let (result, files) := s.putText path text
    (result, { s with files := files })

/-- The surroundings with a configuration written to a path. -/
def save (s : Surroundings) (c : Config) (path : String) : Except ConfigError Surroundings :=
  match s.trySave c path with
  | (.error e, _) => .error e
  | (.ok (), s) => .ok s

end Surroundings

end UsbPipe
