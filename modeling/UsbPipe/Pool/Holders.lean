/-
A pool together with the holds on it that are in somebody's hands.

* `Holders`: the pool and named holds.
* `Holders.retain`, `Holders.drop`: a hold taken under a name and given back.  A hold
  under a used name takes the place of the old one, which is given back afterwards.
* `Holders.step`, `Holders.run`: one action, and a run of actions.
-/
import UsbPipe.Pool

namespace UsbPipe

open Usb

/-- A pool and the holds on it, each under a name. -/
structure Holders (δ : Type) where
  pool : Pool δ := {}
  holds : List (String × Hold δ) := []

namespace Holders

variable {δ : Type}

/-- The hold under a name. -/
def hold? (h : Holders δ) (name : String) : Option (Hold δ) := h.holds.lookup name

/-- The hold under a name given back; nothing happens if there is none. -/
def drop (h : Holders δ) (name : String) : Holders δ :=
  match h.hold? name with
  | none => h
  | some hold =>
    { pool := (h.pool.release hold).pool
      holds := h.holds.filter (·.1 != name) }

/-- A hold on a device taken under a name. -/
def retain (h : Holders δ) (same : δ → δ → Bool) (key : DeviceKey) (device : δ)
    (name : String) : Holders δ :=
  let r := h.pool.retain same key device
  let h := { h with pool := r.pool }.drop name
  { h with holds := h.holds ++ [(name, r.hold)] }

/-- Something done with the pool. -/
inductive Action (δ : Type) where
  | retain (same : δ → δ → Bool) (key : DeviceKey) (device : δ) (name : String)
  | drop (name : String)

/-- One action. -/
def step (h : Holders δ) : Action δ → Holders δ
  | .retain same key device name => h.retain same key device name
  | .drop name => h.drop name

/-- A run of actions. -/
def run (h : Holders δ) (actions : List (Action δ)) : Holders δ := actions.foldl step h

/-- Every hold given back. -/
def dropAll (h : Holders δ) : Holders δ := h.holds.foldl (fun h hold => h.drop hold.1) h

end Holders

end UsbPipe
