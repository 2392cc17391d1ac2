/-
Output that may run full.

* `Sink`: the characters accepted so far and, if there is a limit, the room left.
* `Sink.write`: accepts a text, or as much of its front as there is room for.
* `Sink.accepted_write`: what a write adds is a front part of its text.
-/

namespace UsbPipe

/-- Where a command writes to.  A missing `room?` is no limit. -/
structure Sink where
  accepted : List Char := []
  room? : Option Nat := none

namespace Sink

/-- The text accepted so far. -/
def contents (s : Sink) : String := String.ofList s.accepted

/-- Writing of a text; whether all of it was accepted. -/
def write (s : Sink) (text : String) : Bool × Sink :=
  match s.room? with
  | none => (true, { s with accepted := s.accepted ++ text.toList })
  | some room =>
    (text.toList.length ≤ room,
      { accepted := s.accepted ++ text.toList.take room
        room? := some (room - text.toList.length) })

/-- A write adds a front part of its text, and all of it if it succeeds. -/
theorem accepted_write (s : Sink) (text : String) :
    ∃ n, (s.write text).2.accepted = s.accepted ++ text.toList.take n ∧
      ((s.write text).1 = true → text.toList.length ≤ n) := by
  cases h : s.room? with
  | none => exact ⟨text.toList.length, by simp [write, h]⟩
  | some room => exact ⟨room, by simp [write, h]⟩

end Sink

end UsbPipe
