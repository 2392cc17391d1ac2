/-
The program on the command line.

* `snapshot`: the files that a run may look at, as they are now.
* `main`: runs the program on a host without devices, prints what it gives and keeps what it
  saves.
-/
import UsbPipe.Host.Basic
import UsbPipe.Program.Run

namespace UsbPipe

/-- The tree with a file as it is now, or without it if it is missing. -/
def addFile (cwd : FileTree.Place) (t : FileTree) (path : String) : IO FileTree := do
  let place := FileTree.placeOf cwd path
  try
    let bytes ← IO.FS.readBinFile path
    pure (t.put (.file (String.fromUTF8? bytes)) place)
  catch
    | .noFileOrDirectory .. => pure t
    | _ => pure (t.put .empty place)

/-- What a run finds around it. -/
def snapshot (words : List String) : IO Surroundings := do
  let cwd := FileTree.placeOf [] (← IO.currentDir).toString
  let home? := (← IO.getEnv "HOME").filter (· != "")
  let configDirectory? := ((← IO.getEnv "XDG_CONFIG_HOME").filter Path.isAbsolute).or
    (home?.map (Path.append · ".config"))
  let s : Surroundings :=
    { files := FileTree.empty.put .empty cwd, workingDirectory := cwd, home?, configDirectory? }
  let asked := match Arguments.parse words with
    | .ok a => a.config?.toList.map s.expand
    | .error _ => []
  let files ← (asked ++ s.candidates).foldlM (addFile cwd) s.files
  pure { s with files }

/-- Keeps the configuration that a run has saved. -/
def keep (path : String) (s : Surroundings) : IO Unit := do
  match s.files.readText s.workingDirectory path with
  | .error _ => pure ()
  | .ok text =>
    match Path.parent? path with
    | some "" | none => pure ()
    | some parent => IO.FS.createDirAll parent
    IO.FS.writeFile path text

/-- The exit code in the place of one that a stopped run lacks. -/
def stoppedCode : UInt32 := 134

/-- Whether the words ask for the default configuration to be saved. -/
def asksToSave (words : List String) : Bool :=
  match Arguments.parse words with
  | .ok a => a.saveConfig
  | .error _ => false

end UsbPipe

open UsbPipe in
/-- A run with the words of the command line. -/
def main (words : List String) : IO UInt32 := do
  let s ← snapshot words
  match Program.run s (.ofPlatform ({} : Host)) words with
  | none => pure 1
  | some ended =>
    let outcome := ended.outcome
    if asksToSave words && outcome.code? == some 0 then keep s.defaultPath ended.surroundings
    (← IO.getStdout).putStr outcome.output
    for line in outcome.report do
      IO.eprintln line
    if outcome.code? == some 2 then IO.eprintln "error: invalid arguments, try --help"
    pure (outcome.code?.getD stoppedCode)
