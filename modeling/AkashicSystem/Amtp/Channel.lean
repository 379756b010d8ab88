import AkashicSystem.Js.ObjectTable
import AkashicSystem.Amtp.Frame

/-!
# Channels and pipes

The objects of amtplib's `Channel.ts` and `Pipe.ts`.  A channel holds its pipes
in four tables and remembers, for each, which one is primary.  The reference
from a pipe to its channel is where the pipe stands.
-/

set_option autoImplicit false

namespace AkashicSystem.Amtp

open AkashicSystem.Js

inductive ReadyState where
  | opening
  | open
  | closing
  | closed
deriving DecidableEq

instance : Inhabited ReadyState := ⟨.closed⟩

def ReadyState.name : ReadyState → String
  | opening => "Opening"
  | .open => "Open"
  | closing => "Closing"
  | closed => "Closed"

structure PrimaryHolder where
  send : Option Ref
  recv : Option Ref

namespace PrimaryHolder

def empty : PrimaryHolder := ⟨none, none⟩

def set (_ : PrimaryHolder) (send recv : Option Ref) : PrimaryHolder := ⟨send, recv⟩

def setSend (holder : PrimaryHolder) (p : Option Ref) : PrimaryHolder := { holder with send := p }

def setRecv (holder : PrimaryHolder) (p : Option Ref) : PrimaryHolder := { holder with recv := p }

end PrimaryHolder

/-- A push pipe or an incoming pipe.  `_destroy` clears the id together with the
reference to the channel. -/
structure Pipe where
  id : Option Nat
  readyState : ReadyState
deriving DecidableEq, Inhabited

/-- A request pipe; a handler is named by the number its caller knows it by. -/
structure RequestPipe extends Pipe where
  reqIdx : Nat
  handlers : Nat → Option Nat
deriving Inhabited

structure Channel where
  id : Nat
  isClientMode : Bool
  readyState : ReadyState
  pushPipes : ObjectTable Pipe
  incomingPushPipes : ObjectTable Pipe
  primaryPushPipe : Option Ref
  primaryIncomingPushPipe : Option Ref
  requestPipes : ObjectTable RequestPipe
  incomingRequestPipes : ObjectTable Pipe
  primaryRequestPipeHolder : PrimaryHolder
  primaryIncomingRequestPipe : Option Ref
  pushPipeIdx : Nat
  requestPipeIdx : Nat

namespace Pipe

def new (id : Nat) : Pipe := ⟨some id, .open⟩

def destroy (pipe : Pipe) : Pipe := { pipe with id := none }

end Pipe

namespace RequestPipe

def new (isClientMode : Bool) (id : Nat) : RequestPipe :=
  ⟨⟨some id, .open⟩, if isClientMode then 1 else 2, fun _ => none⟩

end RequestPipe

namespace Channel

def new (id : Nat) (isClientMode : Bool) : Channel :=
  ⟨id, isClientMode, .open, .empty, .empty, none, none, .empty, .empty, .empty, none, 1, 1⟩

instance : Inhabited Channel := ⟨new 0 false⟩

end Channel

/-- The order `Object.keys(targets).sort(...)` gives the ids: that of their
decimal strings. -/
def keyOrder (a b : Nat) : Prop := Nat.repr a ≤ Nat.repr b

instance : DecidableRel keyOrder := fun a b => inferInstanceAs (Decidable (Nat.repr a ≤ Nat.repr b))

def detectOpenStatusMinimumId {α : Type} (readyState : α → ReadyState) (targets : ObjectTable α) :
    Option Nat :=
  (targets.ids.insertionSort keyOrder).find? fun id =>
    (targets.get? id).any fun ref => decide (readyState (targets.objs ref) = .open)

section

variable {α : Type} (readyState : α → ReadyState) (targets : ObjectTable α)

theorem detectOpenStatusMinimumId_some (id : Nat)
    (elected : detectOpenStatusMinimumId readyState targets = some id) :
    ∃ ref, targets.get? id = some ref ∧ readyState (targets.objs ref) = .open := by
  have isOpen := List.find?_some elected
  obtain ⟨ref, there, isOpen⟩ := (Option.any_eq_true _ _).mp isOpen
  exact ⟨ref, there, of_decide_eq_true isOpen⟩

theorem detectOpenStatusMinimumId_none
    (elected : detectOpenStatusMinimumId readyState targets = none) (id : Nat) (ref : Ref)
    (there : targets.get? id = some ref) : readyState (targets.objs ref) ≠ .open := by
  intro isOpen
  have mem : id ∈ targets.ids.insertionSort keyOrder :=
    (List.mem_insertionSort keyOrder).mpr (ObjectTable.mem_ids_of_get? targets id ref there)
  apply List.find?_eq_none.mp elected id mem
  rw [there]
  exact decide_eq_true isOpen

theorem elected_none
    (elected : (detectOpenStatusMinimumId readyState targets).bind targets.get? = none)
    (id : Nat) (ref : Ref) (there : targets.get? id = some ref) :
    readyState (targets.objs ref) ≠ .open := by
  cases chosen : detectOpenStatusMinimumId readyState targets with
  | none => exact detectOpenStatusMinimumId_none readyState targets chosen id ref there
  | some id' =>
    obtain ⟨ref', there', -⟩ := detectOpenStatusMinimumId_some readyState targets id' chosen
    rw [chosen] at elected
    cases there'.symm.trans elected

end

end AkashicSystem.Amtp
