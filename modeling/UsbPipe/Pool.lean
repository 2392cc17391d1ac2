/-
A pool of native devices that counts the holds on each of them.

Native device objects live as long as somebody keeps a reference.  The pool keeps
one reference per device and counts the holds that need it; the last release
gives the reference back.  Bus and address are reused after an unplug, so a key
alone does not tell a device: `retain` asks whether the device it is given is the
one recorded last under its key, and opens a record of its own for any other.

* `Pool`, `Pool.Record`, `Hold`: the pool, one device in it, one counted hold.
* `Pool.retain`: takes a hold, in a shared or in a fresh record.
* `Pool.release`: gives a hold back; a record whose count reaches zero goes away.
* `Pool.refs`, `Pool.outstanding`, `Pool.size`: the holds under a key, all holds,
  and the devices.
-/
import UsbPipe.Usb.RawInterface

namespace UsbPipe

open Usb

/-- One counted reference to a pooled device. -/
structure Hold (δ : Type) where
  id : Nat
  key : DeviceKey
  device : δ

/-- The hold as it is shown to people, without the device. -/
def Hold.text {δ : Type} (h : Hold δ) : String :=
  "Retained \x7b key: " ++ h.key.fields ++ " \x7d"

/-- A device of the pool and the number of holds on it. -/
structure Pool.Record (δ : Type) where
  id : Nat
  key : DeviceKey
  device : δ
  refs : Nat

/-- The devices in use, and the record used last under each key. -/
structure Pool (δ : Type) where
  records : List (Pool.Record δ) := []
  current : List (DeviceKey × Nat) := []
  lastId : Nat := 0

namespace Pool

variable {δ : Type}

/-! ### Looking -/

/-- The record with an id. -/
def find? (p : Pool δ) (id : Nat) : Option (Record δ) := p.records.find? (·.id == id)

/-- The record used last under a key. -/
def currentRecord? (p : Pool δ) (key : DeviceKey) : Option (Record δ) :=
  (p.current.lookup key).bind p.find?

/-- The holds on the devices of records. -/
def holds (records : List (Record δ)) : Nat := records.foldr (fun r n => r.refs + n) 0

/-- The holds on all devices under a key. -/
def refs (p : Pool δ) (key : DeviceKey) : Nat := holds (p.records.filter (·.key == key))

/-- The holds on all devices. -/
def outstanding (p : Pool δ) : Nat := holds p.records

/-- The number of devices. -/
def size (p : Pool δ) : Nat := p.records.length

/-- Whether no device is in use. -/
def isEmpty (p : Pool δ) : Bool := p.records.isEmpty

/-! ### Retaining -/

/-- How a hold got its record: it shares the current one, or it opened one under a
key that was free or in use for another device. -/
inductive Origin where
  | shared
  | fresh
  | replaced
  deriving DecidableEq

/-- What retaining a device gives. -/
structure Retained (δ : Type) where
  pool : Pool δ
  hold : Hold δ
  refs : Nat
  origin : Origin

/-- One hold more on a record. -/
def Record.grow (r : Record δ) : Record δ := { r with refs := r.refs + 1 }

/-- One hold less on a record. -/
def Record.shrink (r : Record δ) : Record δ := { r with refs := r.refs - 1 }

/-- The pool with the record `id` changed by `f`. -/
def update (p : Pool δ) (id : Nat) (f : Record δ → Record δ) : Pool δ :=
  { p with records := p.records.map fun r => if r.id = id then f r else r }

/-- A new record of one hold, which is the current one under its key. -/
def insert (p : Pool δ) (key : DeviceKey) (device : δ) : Pool δ where
  records := p.records ++ [⟨p.lastId + 1, key, device, 1⟩]
  current := (key, p.lastId + 1) :: p.current.filter (·.1 != key)
  lastId := p.lastId + 1

/-- A hold on `device`.  The current record under `key` is shared if `same` says that
it is of this very device. -/
def retain (p : Pool δ) (same : δ → δ → Bool) (key : DeviceKey) (device : δ) : Retained δ :=
  match (p.currentRecord? key).filter (fun r => same r.device device) with
  | some r =>
    { pool := p.update r.id Record.grow
      hold := ⟨r.id, r.key, r.device⟩
      refs := r.refs + 1
      origin := .shared }
  | none =>
    { pool := p.insert key device
      hold := ⟨p.lastId + 1, key, device⟩
      refs := 1
      origin := if (p.current.lookup key).isSome then .replaced else .fresh }

/-! ### Releasing -/

/-- The pool without the record `id`, which is no longer current either. -/
def remove (p : Pool δ) (id : Nat) : Pool δ :=
  { p with
    records := p.records.filter (·.id != id)
    current := p.current.filter (·.2 != id) }

/-- What releasing a hold gives: the pool, and the record as it was before. -/
structure Released (δ : Type) where
  pool : Pool δ
  record? : Option (Record δ)

/-- The holds left on the record of a released hold. -/
def Released.left? (r : Released δ) : Option Nat := r.record?.map (·.refs - 1)

/-- The device whose last hold was released. -/
def Released.dropped? (r : Released δ) : Option δ :=
  (r.record?.filter (·.refs == 1)).map Record.device

/-- One hold less.  A hold whose record is gone has nothing to give back. -/
def release (p : Pool δ) (h : Hold δ) : Released δ :=
  match p.find? h.id with
  | none => ⟨p, none⟩
  | some r => ⟨if r.refs = 1 then p.remove r.id else p.update r.id Record.shrink, some r⟩

end Pool

end UsbPipe
