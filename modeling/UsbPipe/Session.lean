/-
A manager with the records and channels that its user keeps under names.

* `Session`: the manager, sets of found interfaces and channels, each under a name.
* `Session.keepSet`, `Session.dropSet`, `Session.releaseSlot`: records kept and given up.
  A new set under a used name takes the place of the old one, whose records are
  released.
* `Session.keepChannel`, `Session.dropChannel`: the same for channels, which are closed.
* `Session.dropAll`: the end of the session, channels first, each in the order of names.
-/
import UsbPipe.Manager.Transfer

namespace UsbPipe

open Usb

/-- A manager and what its user holds.  A slot of a set is empty once its record has
been released. -/
structure Session (σ δ η : Type) where
  manager : Manager σ δ η
  sets : List (String × List (Option (Found δ))) := []
  channels : List (String × Nat) := []

namespace Session

variable {σ δ η : Type} [Platform σ δ η]

/-- The session with another manager. -/
def withManager (s : Session σ δ η) (m : Manager σ δ η) : Session σ δ η :=
  { s with manager := m }

/-! ### Records -/

/-- The record in a slot of a set. -/
def slot? (s : Session σ δ η) (set : String) (index : Nat) : Option (Found δ) :=
  (s.sets.lookup set).bind fun slots => slots[index]?.join

/-- The records of a set released, in order, and the set gone; whether there was one. -/
def dropSet (s : Session σ δ η) (set : String) : Bool × Session σ δ η :=
  match s.sets.lookup set with
  | none => (false, s)
  | some slots =>
    (true,
      { s with
        manager := s.manager.discard (slots.filterMap id)
        sets := s.sets.filter (·.1 != set) })

/-- Records kept as a set, in place of an old one. -/
def keepSet (s : Session σ δ η) (set : String) (found : List (Found δ)) : Session σ δ η :=
  let s := (s.dropSet set).2
  { s with sets := s.sets ++ [(set, found.map some)] }

/-- Records kept under a name, or released at once without one. -/
def keepOrDiscard (s : Session σ δ η) (set? : Option String) (found : List (Found δ)) :
    Session σ δ η :=
  match set? with
  | some set => s.keepSet set found
  | none => s.withManager (s.manager.discard found)

/-- One record of a set released. -/
def releaseSlot (s : Session σ δ η) (set : String) (index : Nat) (f : Found δ) :
    Session σ δ η :=
  { s with
    manager := s.manager.release f.hold
    sets := s.sets.map fun (name, slots) =>
      if name = set then (name, slots.set index none) else (name, slots) }

/-! ### Channels -/

/-- The channel under a name. -/
def channel? (s : Session σ δ η) (name : String) : Option (Channel δ η) :=
  (s.channels.lookup name).bind s.manager.channel?

/-- The channel under a name closed and gone; whether there was one. -/
def dropChannel (s : Session σ δ η) (name : String) : Bool × Session σ δ η :=
  match s.channels.lookup name with
  | none => (false, s)
  | some id =>
    (true,
      { s with
        manager := s.manager.dropChannel id
        channels := s.channels.filter (·.1 != name) })

/-- A channel kept under a name, in place of an old one. -/
def keepChannel (s : Session σ δ η) (name : String) (c : Opened) : Session σ δ η :=
  let s := (s.dropChannel name).2
  { s with channels := s.channels ++ [(name, c.id)] }

/-- Some channels dropped, one after the other. -/
def dropChannels (s : Session σ δ η) (names : List String) : Session σ δ η :=
  names.foldl (fun s name => (s.dropChannel name).2) s

/-! ### The end -/

/-- Names in their order. -/
def inOrder (names : List String) : List String :=
  names.mergeSort fun a b => !decide (b < a)

/-- All channels dropped, then all sets, each in the order of their names. -/
def dropAll (s : Session σ δ η) : Session σ δ η :=
  let s := s.dropChannels (inOrder (s.channels.map Prod.fst))
  (inOrder (s.sets.map Prod.fst)).foldl (fun s name => (s.dropSet name).2) s

end Session

end UsbPipe
