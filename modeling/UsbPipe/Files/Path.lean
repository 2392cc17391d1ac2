/-
Paths of a file system, as text with components between slashes.

* `Path.components`: the components of a path; `join_components` puts them together again.
* `Path.append`: a relative path below a directory.
* `Path.parent?`: the path without its last component; blank and `.` components at the
  end do not count.
* `Path.ancestors`: a path and those above it.
* `Path.expandHome`: a path in which a leading `~` stands for the home directory.
-/
import UsbPipe.Text.Pieces

namespace UsbPipe.Path

/-- The components of a path, of which blank ones stand for repeated slashes. -/
def components (path : String) : List String := (Text.pieces '/' path.toList).map String.ofList

/-- Components with slashes between them. -/
def join (parts : List String) : String := String.intercalate "/" parts

/-- The components with slashes between them are the path. -/
theorem join_components (path : String) : join (components path) = path := by
  rw [join, components, ← String.toList_inj, String.toList_intercalate, List.map_map]
  simp [Function.comp_def, Text.join_pieces]

/-- A relative path below a directory. -/
def append (directory path : String) : String :=
  if directory = "" ∨ directory.toList.getLast? = some '/' then directory ++ path
  else directory ++ "/" ++ path

/-- Whether a path starts at the root. -/
def isAbsolute (path : String) : Bool := path.toList.head? == some '/'

/-- A component that leads nowhere. -/
def isIdle (part : String) : Bool := part == "" || part == "."

/-- Components from the last to the first, without idle ones before the last. -/
def trimIdle : List String → List String
  | [] => []
  | [part] => [part]
  | part :: next :: rest => if isIdle part then trimIdle (next :: rest) else part :: next :: rest

/-- The path without its last component; the root and the empty path have none. -/
def parent? (path : String) : Option String :=
  match trimIdle (components path).reverse with
  | [] => none
  | [part] => if part == "" then none else some ""
  | _ :: next :: rest =>
    match trimIdle (next :: rest) with
    | [""] => some "/"
    | parts => some (join parts.reverse)

/-- At most `count` paths: a path and those above it; the empty path is none. -/
def ancestorsUpTo : Nat → String → List String
  | 0, _ => []
  | count + 1, path =>
    if path = "" then []
    else path :: ((parent? path).map (ancestorsUpTo count)).getD []

/-- A path and those above it, up to the root or to the first component.  Each is shorter than
the one before, so the length of the path covers them. -/
def ancestors (path : String) : List String := ancestorsUpTo (path.length + 1) path

/-- A leading `~`, alone or before a slash, replaced by the home directory. -/
def expandHome (home path : String) : String :=
  match path.toList with
  | ['~'] => home
  | '~' :: '/' :: rest => home ++ String.ofList ('/' :: rest)
  | _ => path

end UsbPipe.Path
