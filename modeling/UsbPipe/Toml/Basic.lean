/-
TOML values.

* `Toml`: a value; of a number with a fraction and of a date only the lexeme is kept.
* `Origin`: what brought a table about, on which depends who may still add to it.
* `Toml.insertDotted?`: a value put at a dotted key, as in `a.b = 1`.
* `Toml.update?`: the value at the path of a header, as in `[a.b]`, replaced.
* `lookup_insertDotted?`: what was put at a key is found there.
-/

namespace UsbPipe

/-- What brought a table about. -/
inductive Origin where
  /-- A header of its own, or an element of an array of tables. -/
  | header
  /-- The header of a table below it. -/
  | implied
  /-- A dotted key that leads through it. -/
  | dotted
  /-- Braces, which leave nothing to add. -/
  | braces
  deriving DecidableEq

/-- A value of TOML.  An array of tables has at least one. -/
inductive Toml where
  | str (text : String)
  | int (value : Int)
  | float (lexeme : List Char)
  | bool (value : Bool)
  | date (lexeme : List Char)
  | arr (items : List Toml)
  | table (origin : Origin) (entries : List (String × Toml))
  | tables (earlier : List (List (String × Toml))) (last : List (String × Toml))

namespace Toml

/-- The entries of a table. -/
abbrev Entries := List (String × Toml)

/-- The entries with one replaced, or added at the end. -/
def put (key : String) (value : Toml) : Entries → Entries
  | [] => [(key, value)]
  | (k, v) :: es => if k = key then (key, value) :: es else (k, v) :: put key value es

/-- What was put at a key is found there. -/
theorem lookup_put (key : String) (value : Toml) (es : Entries) :
    (put key value es).lookup key = some value := by
  induction es with
  | nil => simp [put]
  | cons e es ih =>
    obtain ⟨k, v⟩ := e
    by_cases h : k = key
    · simp [put, h]
    · have h' : (key == k) = false := by simpa using fun e => h e.symm
      simp [put, h, List.lookup_cons, h', ih]

/-- Nothing else is changed by putting a value at a key. -/
theorem lookup_put_of_ne {key other : String} (value : Toml) (es : Entries) (h : other ≠ key) :
    (put key value es).lookup other = es.lookup other := by
  have hf : (other == key) = false := by simpa using h
  induction es with
  | nil => simp [put, List.lookup_cons, hf]
  | cons e es ih =>
    obtain ⟨k, v⟩ := e
    by_cases hk : k = key
    · subst hk
      simp [put, List.lookup_cons, hf]
    · simp [put, hk, List.lookup_cons, ih]

/-! ### Dotted keys -/

/-- A value put at a dotted key.  The key must be new; the tables on the way are made by
dotted keys, and only the ones before the last may be implied by a header instead. -/
def insertDotted? (value : Toml) : List String → Entries → Option Entries
  | [], _ => none
  | [key], es => if (es.lookup key).isSome then none else some (put key value es)
  | key :: next :: rest, es =>
    match es.lookup key with
    | none => do
      let below ← insertDotted? value (next :: rest) []
      pure (put key (.table .dotted below) es)
    | some (.table .dotted below) => do
      let below ← insertDotted? value (next :: rest) below
      pure (put key (.table .dotted below) es)
    | some (.table .implied below) =>
      if rest.isEmpty then none
      else do
        let below ← insertDotted? value (next :: rest) below
        pure (put key (.table .implied below) es)
    | some (.tables earlier last) =>
      if rest.isEmpty then none
      else do
        let last ← insertDotted? value (next :: rest) last
        pure (put key (.tables earlier last) es)
    | some _ => none

/-- What was put at a plain key is found there. -/
theorem lookup_insertDotted? {value : Toml} {key : String} {es es' : Entries}
    (h : insertDotted? value [key] es = some es') : es'.lookup key = some value := by
  rw [insertDotted?] at h
  split at h
  · simp at h
  · cases h
    exact lookup_put key value es

/-! ### Paths of headers -/

/-- The value at the path of a header replaced.  Missing tables on the way are implied;
of an array of tables the way leads through the last one. -/
def update? (change : Option Toml → Option Toml) : List String → Entries → Option Entries
  | [], _ => none
  | [key], es => do
    let value ← change (es.lookup key)
    pure (put key value es)
  | key :: next :: rest, es =>
    match es.lookup key with
    | none => do
      let below ← update? change (next :: rest) []
      pure (put key (.table .implied below) es)
    | some (.table .braces _) => none
    | some (.table origin below) => do
      let below ← update? change (next :: rest) below
      pure (put key (.table origin below) es)
    | some (.tables earlier last) => do
      let last ← update? change (next :: rest) last
      pure (put key (.tables earlier last) es)
    | some _ => none

/-- The table that a header `[a.b]` opens: a new one, or one that was only implied. -/
def opened? : Option Toml → Option Toml
  | none => some (.table .header [])
  | some (.table .implied es) => some (.table .header es)
  | some _ => none

/-- The array of tables to which a header `[[a.b]]` adds one. -/
def extended? : Option Toml → Option Toml
  | none => some (.tables [] [])
  | some (.tables earlier last) => some (.tables (earlier ++ [last]) [])
  | some _ => none

/-- The table under the present header with a value put at a dotted key. -/
def filled? (keys : List String) (value : Toml) : Option Toml → Option Toml
  | some (.table .header es) => (insertDotted? value keys es).map (.table .header)
  | some (.tables earlier last) => (insertDotted? value keys last).map (.tables earlier)
  | _ => none

/-! ### Fields -/

/-- Whether a value can stand for a section.  An array gives the fields in their order,
and a date is a section without any known field. -/
def isSection : Toml → Bool
  | .table _ _ | .tables _ _ | .arr _ | .date _ => true
  | _ => false

/-- The field of a section, given by its position and its name. -/
def field? (index : Nat) (name : String) : Toml → Option Toml
  | .table _ es => es.lookup name
  | .arr items => items[index]?
  | .tables earlier last => ((earlier ++ [last])[index]?).map (.table .header)
  | _ => none

end Toml

end UsbPipe
