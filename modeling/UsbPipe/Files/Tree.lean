/-
A tree of files and directories.

* `FileTree`: a file, whose text is missing if its bytes are no UTF-8, or a directory.
* `FileTree.readText`, `FileTree.writeText`, `FileTree.makeDirectory`,
  `FileTree.makeDirectories`, `FileTree.exists`: the operations on a path, absolute or relative
  to a working directory.
* `FileError`: why an operation fails, with `message`.
* `get?_put`: what was put at a place is found there.
-/
import UsbPipe.Files.Path

namespace UsbPipe

/-! ### Failures -/

/-- Why an operation on files failed. -/
inductive FileError where
  | notFound
  | exists
  | notDirectory
  | isDirectory
  | nameTooLong
  | nulByte
  | notText
  deriving DecidableEq

/-- The failure in the words of the operating system. -/
def FileError.message : FileError → String
  | notFound => "No such file or directory (os error 2)"
  | «exists» => "File exists (os error 17)"
  | notDirectory => "Not a directory (os error 20)"
  | isDirectory => "Is a directory (os error 21)"
  | nameTooLong => "File name too long (os error 36)"
  | nulByte => "file name contained an unexpected NUL byte"
  | notText => "stream did not contain valid UTF-8"

/-! ### Trees -/

/-- A file or a directory. -/
inductive FileTree where
  | file (text? : Option String)
  | directory (entries : List (String × FileTree))

namespace FileTree

/-- A place in the tree: the names that lead to it from the root. -/
abbrev Place := List String

/-- The directory without entries. -/
def empty : FileTree := .directory []

/-- Whether the tree is a directory. -/
def isDirectory : FileTree → Bool
  | directory _ => true
  | file _ => false

/-- The entry of a directory. -/
def entry? (name : String) : FileTree → Option FileTree
  | directory entries => entries.lookup name
  | file _ => none

/-- What is at a place. -/
def get? : FileTree → Place → Option FileTree
  | t, [] => some t
  | t, name :: names => (t.entry? name).bind fun child => child.get? names

/-- The tree with an entry of its root replaced or added. -/
def setEntry (t : FileTree) (name : String) (child : FileTree) : FileTree :=
  match t with
  | directory entries => .directory ((name, child) :: entries.filter (·.1 != name))
  | file text? => .file text?

/-- The tree with something put at a place; nothing is put below a file. -/
def put : FileTree → FileTree → Place → FileTree
  | _, new, [] => new
  | t, new, name :: names => t.setEntry name (((t.entry? name).getD .empty).put new names)

/-- What was put into a directory is found there. -/
theorem get?_put (t new : FileTree) (name : String)
    (h : t.isDirectory = true) : (t.put new [name]).get? [name] = some new := by
  cases t with
  | file _ => simp [isDirectory] at h
  | directory entries => simp [put, setEntry, get?, entry?]

/-! ### Walking -/

/-- The longest name of an entry, in bytes. -/
def maxName : Nat := 255

/-- The longest path, in bytes. -/
def maxPath : Nat := 4095

/-- One component further from a place, which has to be a directory. -/
def advance (t : FileTree) (place : Place) (part : String) : Except FileError Place :=
  match t.get? place with
  | none => .error .notFound
  | some (.file _) => .error .notDirectory
  | some (.directory _) =>
    if Path.isIdle part then .ok place
    else if part = ".." then .ok place.dropLast
    else if maxName < part.utf8ByteSize then .error .nameTooLong
    else .ok (place ++ [part])

/-- The components still to walk, and the place to start from. -/
def startOf (cwd : Place) (path : String) : Except FileError (Place × List String) :=
  if path = "" then .error .notFound
  else if path.toList.contains '\x00' then .error .nulByte
  else if maxPath < path.utf8ByteSize then .error .nameTooLong
  else .ok (if Path.isAbsolute path then [] else cwd, Path.components path)

/-- The place that a path leads to, whether or not there is something. -/
def resolve (t : FileTree) (cwd : Place) (path : String) : Except FileError Place := do
  let (start, parts) ← startOf cwd path
  parts.foldlM t.advance start

/-- The place of a path in a tree where every component before the last is a directory. -/
def placeOf (cwd : Place) (path : String) : Place :=
  (Path.components path).foldl
    (fun place part =>
      if Path.isIdle part then place else if part = ".." then place.dropLast else place ++ [part])
    (if Path.isAbsolute path then [] else cwd)

/-! ### Operations -/

/-- Whether a path leads to something. -/
def «exists» (t : FileTree) (cwd : Place) (path : String) : Bool :=
  match t.resolve cwd path with
  | .ok place => (t.get? place).isSome
  | .error _ => false

/-- The text of the file at a path. -/
def readText (t : FileTree) (cwd : Place) (path : String) : Except FileError String := do
  match t.get? (← t.resolve cwd path) with
  | none => .error .notFound
  | some (.directory _) => .error .isDirectory
  | some (.file none) => .error .notText
  | some (.file (some text)) => .ok text

/-- Whether a path leads to a directory. -/
def hasDirectory (t : FileTree) (cwd : Place) (path : String) : Bool :=
  match t.resolve cwd path with
  | .ok place => ((t.get? place).map isDirectory).getD false
  | .error _ => false

/-- What the last component of a path names. -/
inductive Target where
  /-- A directory that is on the way: the root, the place itself, or the one above. -/
  | passed
  /-- An entry of the directory at a place, and whether slashes follow its name. -/
  | entry (folder : Place) (name : String) (slashes : Bool)

/-- What a path names, in a directory that has to be there. -/
def targetOf (t : FileTree) (cwd : Place) (path : String) : Except FileError Target := do
  let (start, parts) ← startOf cwd path
  match parts.reverse.dropWhile (· == "") with
  | [] => .ok .passed
  | name :: above =>
    let folder ← above.reverse.foldlM t.advance start
    match t.get? folder with
    | none => .error .notFound
    | some (.file _) => .error .notDirectory
    | some (.directory _) =>
      if name = "." ∨ name = ".." then .ok .passed
      else .ok (.entry folder name (parts.getLast? == some ""))

/-- A file with a text at a path, in place of an old one.  A name that slashes follow is that of
a directory, whatever there is. -/
def writeText (t : FileTree) (cwd : Place) (path text : String) : Except FileError FileTree := do
  match ← t.targetOf cwd path with
  | .passed | .entry _ _ true => .error .isDirectory
  | .entry folder name false =>
    let place ← t.advance folder name
    match t.get? place with
    | some (.directory _) => .error .isDirectory
    | some (.file _) | none => .ok (t.put (.file (some text)) place)

/-- A new directory at a path, in a directory that has to be there. -/
def makeDirectory (t : FileTree) (cwd : Place) (path : String) : Except FileError FileTree := do
  match ← t.targetOf cwd path with
  | .passed => .error .exists
  | .entry folder name _ =>
    let place ← t.advance folder name
    match t.get? place with
    | some _ => .error .exists
    | none => .ok (t.put .empty place)

/-- A directory at a path, new unless one is there. -/
def ensureDirectory (t : FileTree) (cwd : Place) (path : String) : Except FileError FileTree :=
  match t.makeDirectory cwd path with
  | .error .exists => if t.hasDirectory cwd path then .ok t else .error .exists
  | result => result

/-- An operation that fails leaves the tree alone. -/
def orKeep (t : FileTree) : Except FileError FileTree → Except FileError Unit × FileTree
  | .ok t => (.ok (), t)
  | .error e => (.error e, t)

/-- A directory at the first of some paths, of which each next one is that above; those above
are made only if there is no place for it otherwise, and stay if it cannot be made then. -/
def ensureFirst (t : FileTree) (cwd : Place) :
    List String → Except FileError Unit × FileTree
  | [] => (.ok (), t)
  | path :: above =>
    match t.ensureDirectory cwd path with
    | .error .notFound =>
      match t.ensureFirst cwd above with
      | (.error e, t) => (.error e, t)
      | (.ok (), t) => t.orKeep (t.ensureDirectory cwd path)
    | result => t.orKeep result

/-- A directory at a path, and at all those above that are missing, as far as that goes. -/
def makeDirectories (t : FileTree) (cwd : Place) (path : String) :
    Except FileError Unit × FileTree :=
  t.ensureFirst cwd (Path.ancestors path)

end FileTree

end UsbPipe
