import Mathlib.Logic.Function.Basic
import AkashicSystem.Lib.Pool
import AkashicSystem.PlaylogServer.PlayToken

/-!
# The AMFlows of a play

`PlaylogHandler` and `RequestHandler` for one play, and what `ServerEngineAMFlow`
calls of them when it is opened, authenticated and closed.
-/

set_option autoImplicit false

namespace AkashicSystem.PlaylogServer
namespace PlayClients

/-- A `ServerEngineAMFlow`; one that has not been opened has no play. -/
structure Flow where
  permission : Permission
  playlogHandlerPrepared : Bool
  opens : Nat
  closes : Nat

/-- An `AMQPHolder`. -/
structure Holder where
  closeCalled : Bool
  destroyed : Bool

structure World where
  flows : Nat → Flow
  clients : List Nat
  /-- `_amqpHolders` of the play. -/
  holder : Option Nat
  holders : Nat → Holder
  made : Nat
  /-- `_refCounts` of the play; a count of 0 is deleted. -/
  refCount : Nat
  purges : Nat

def new : World where
  flows := fun _ => ⟨.initial, false, 0, 0⟩
  clients := []
  holder := none
  holders := fun _ => ⟨false, false⟩
  made := 0
  refCount := 0
  purges := 0

namespace World

def setFlow (w : World) (flow : Nat) (value : Flow) : World :=
  { w with flows := Function.update w.flows flow value }

def setHolder (w : World) (holder : Nat) (value : Holder) : World :=
  { w with holders := Function.update w.holders holder value }

def live (w : World) (holder : Nat) : Bool :=
  !(w.holders holder).closeCalled && !(w.holders holder).destroyed

end World

def Flow.isOpen (flow : Flow) : Bool := 0 < flow.opens && flow.closes = 0

/-- The operations it allows need a connection to the broker; reading alone needs none. -/
def needsConnection (permission : Permission) : Bool :=
  permission.writeTick || permission.sendEvent || permission.subscribeEvent ||
    permission.subscribeTick

/-- What the promise of `PlaylogHandler.close` waits for. -/
inductive Closing where
  | cancelConsume (holder : Nat)
  | close (holder : Nat)
  | done
deriving DecidableEq

namespace PlaylogHandler

variable (w : World)

def prepare (flow : Nat) : World × Option Nat :=
  let w := { w with clients := w.clients ++ [flow] }
  match w.holder with
  | some _ => (w, none)
  | none =>
    ({ w.setHolder w.made ⟨false, false⟩ with
      holder := some w.made
      made := w.made + 1 }, some w.made)

/-- The listener of the holder's `error`; a holder that is destroyed has none. -/
def onError (holder : Nat) : World :=
  if (w.holders holder).destroyed then w
  else { w.setHolder holder { w.holders holder with destroyed := true } with holder := none }

def close (flow : Nat) : World × Closing :=
  if w.clients = [] then (w, .done)
  else
    let w := { w with clients := w.clients.erase flow }
    if w.clients = [] then
      match w.holder with
      | some holder => ({ w with holder := none }, .cancelConsume holder)
      | none => (w, .done)
    else (w, .done)

structure Prepares (w : World) (flow : Nat) (r : World × Option Nat) : Prop where
  flows : r.1.flows = w.flows
  clients : r.1.clients = w.clients ++ [flow]
  refCount : r.1.refCount = w.refCount
  purges : r.1.purges = w.purges
  made : w.made ≤ r.1.made
  held : ∃ holder, r.1.holder = some holder ∧
    ((w.holder = some holder ∧ r.1.holders = w.holders) ∨
      (holder = w.made ∧ r.1.made = w.made + 1 ∧ r.1.live holder = true))

theorem prepares (flow : Nat) : Prepares w flow (prepare w flow) := by
  unfold prepare
  dsimp only
  split
  · next holder own =>
      exact ⟨rfl, rfl, rfl, rfl, Nat.le_refl _, holder, own, .inl ⟨own, rfl⟩⟩
  · refine ⟨rfl, rfl, rfl, rfl, Nat.le_succ _, w.made, rfl, .inr ⟨rfl, rfl, ?_⟩⟩
    simp [World.live, World.setHolder]

structure Closes (w : World) (flow : Nat) (r : World × Closing) : Prop where
  flows : r.1.flows = w.flows
  clients : r.1.clients = w.clients.erase flow
  holders : r.1.holders = w.holders
  refCount : r.1.refCount = w.refCount
  purges : r.1.purges = w.purges
  made : r.1.made = w.made
  holder : ∀ holder, r.1.holder = some holder → w.holder = some holder
  held : (w.holder = none ↔ w.clients = []) → (r.1.holder = none ↔ r.1.clients = [])
  released : ∀ holder, r.2 = .cancelConsume holder → w.holder = some holder ∧ r.1.holder = none
  first : ∀ holder, r.2 ≠ .close holder

theorem closes (flow : Nat) : Closes w flow (close w flow) := by
  unfold close
  split
  · next none_ =>
      refine ⟨rfl, ?_, rfl, rfl, rfl, rfl, fun _ => id, id, fun _ eq => ?_, fun _ eq => ?_⟩
      · simp [none_]
      · cases eq
      · cases eq
  · next some_ =>
      dsimp only
      split
      · next emptied =>
          split
          · next holder own =>
              refine ⟨rfl, rfl, rfl, rfl, rfl, rfl, fun _ eq => ?_, fun _ => ?_, fun other eq => ?_,
                fun _ eq => ?_⟩
              · cases eq
              · simp [emptied]
              · cases eq
                exact ⟨own, rfl⟩
              · cases eq
          · next none_ =>
              refine ⟨rfl, rfl, rfl, rfl, rfl, rfl, fun _ => id, fun _ => ?_, fun _ eq => ?_,
                fun _ eq => ?_⟩
              · simp [emptied, none_]
              · cases eq
              · cases eq
      · next left =>
          refine ⟨rfl, rfl, rfl, rfl, rfl, rfl, fun _ => id, fun held => ?_, fun _ eq => ?_,
            fun _ eq => ?_⟩
          · simp [left, held, some_]
          · cases eq
          · cases eq

end PlaylogHandler

namespace RequestHandler

def ref (w : World) : World := { w with refCount := w.refCount + 1 }

def unref (w : World) : World :=
  if w.refCount = 0 then w
  else
    { w with
      refCount := w.refCount - 1
      purges := if w.refCount = 1 then w.purges + 1 else w.purges }

end RequestHandler

/-- A call, or something that happens, and the promise it turns into. -/
inductive Task where
  | «open» (flow : Nat)
  | close (flow : Nat)
  | authenticate (flow : Nat)
  | onError (holder : Nat)
  | closing (flow : Nat) (closing : Closing)
  /-- `authenticate` waits for the `PlaylogHandler.close` of what it was prepared for. -/
  | reauthenticating (flow : Nat) (closing : Closing)
  | validating (flow : Nat)
  /-- `prepare`, with the holder that connects, and `acquireWriteLock`. -/
  | granting (flow : Nat) (prepare : Option (Option Nat)) (acquireWriteLock : Bool)
  | done
  | rejected
deriving DecidableEq

inductive Reply where
  | resolved
  | rejected
  | validated (permission : Permission)
  | prepared (connected : Bool)
  | writeLock (acquired : Bool)
deriving DecidableEq

variable (w : World)

def Closing.next : Closing → Reply → Option (World × Closing)
  | .cancelConsume holder, .resolved =>
    some (w.setHolder holder { w.holders holder with closeCalled := true }, .close holder)
  | .close holder, .resolved =>
    some (w.setHolder holder { w.holders holder with destroyed := true }, .done)
  | _, _ => none

namespace ServerEngineAMFlow

variable (flow : Nat)

def «open» : World :=
  RequestHandler.ref (w.setFlow flow
    { w.flows flow with opens := (w.flows flow).opens + 1 })

/-- `unref(this.playId)`. -/
def unref (w : World) (flow : Nat) : World :=
  if (w.flows flow).opens = 0 then w else RequestHandler.unref w

theorem unref_eq :
    ∃ refCount purges, unref w flow = { w with refCount := refCount, purges := purges } := by
  unfold unref RequestHandler.unref
  split
  · exact ⟨w.refCount, w.purges, rfl⟩
  · split
    · exact ⟨w.refCount, w.purges, rfl⟩
    · exact ⟨_, _, rfl⟩

def close (w : World) (flow : Nat) : World × Task :=
  let w := w.setFlow flow { w.flows flow with closes := (w.flows flow).closes + 1 }
  if (w.flows flow).playlogHandlerPrepared then
    let closing := PlaylogHandler.close w flow
    (closing.1, .closing flow closing.2)
  else (unref w flow, .done)

def authenticate : World × Task :=
  let w := w.setFlow flow { w.flows flow with permission := .initial }
  if (w.flows flow).playlogHandlerPrepared then
    let closing := PlaylogHandler.close w flow
    (closing.1, .reauthenticating flow closing.2)
  else (w, .validating flow)

/-- The promises of `Promise.all` that are left. -/
def granting (flow : Nat) (prepare : Option (Option Nat)) (acquireWriteLock : Bool) : Task :=
  if prepare = none ∧ acquireWriteLock = false then .done
  else .granting flow prepare acquireWriteLock

/-- `authenticate` goes on with the permission of a token. -/
def validated (permission : Permission) : World × Task :=
  let w := w.setFlow flow { w.flows flow with permission := permission }
  if needsConnection permission then
    let prepare := PlaylogHandler.prepare w flow
    (prepare.1, granting flow (some prepare.2) permission.writeTick)
  else (w, granting flow none permission.writeTick)

def setPrepared (prepared : Bool) : World :=
  w.setFlow flow { w.flows flow with playlogHandlerPrepared := prepared }

end ServerEngineAMFlow

open ServerEngineAMFlow in
/-- What a call does, or a promise when its answer comes.  No token is valid for an AMFlow
without a play. -/
def next (w : World) : Task → Reply → Option (World × Task)
  | .open flow, _ => some (ServerEngineAMFlow.open w flow, .done)
  | .close flow, _ => some (ServerEngineAMFlow.close w flow)
  | .authenticate flow, _ => some (authenticate w flow)
  | .onError holder, _ =>
    if holder < w.made then some (PlaylogHandler.onError w holder, .done) else none
  | .closing flow .done, .resolved => some (unref w flow, .done)
  | .closing _ (.cancelConsume _), .rejected => some (w, .rejected)
  | .closing flow closing, reply =>
    (closing.next w reply).map fun r => (r.1, .closing flow r.2)
  | .reauthenticating flow .done, .resolved => some (setPrepared w flow false, .validating flow)
  | .reauthenticating _ (.cancelConsume _), .rejected => some (w, .done)
  | .reauthenticating flow closing, reply =>
    (closing.next w reply).map fun r => (r.1, .reauthenticating flow r.2)
  | .validating flow, .validated permission =>
    if (w.flows flow).opens = 0 then none else some (validated w flow permission)
  | .validating _, .rejected => some (w, .done)
  | .granting flow (some _) acquireWriteLock, .prepared true =>
    some (setPrepared w flow true, granting flow none acquireWriteLock)
  | .granting flow (some (some holder)) acquireWriteLock, .prepared false =>
    some (PlaylogHandler.onError w holder, granting flow none acquireWriteLock)
  | .granting flow prepare true, .writeLock _ => some (w, granting flow prepare false)
  | _, _ => none

abbrev Run := Pool World Task

def step (p : Run) (action : Pool.Action Task Reply) : Run := Pool.step next p action

def start : Run := ⟨new, []⟩

def Task.outstanding : Task → Bool
  | .closing _ _ | .reauthenticating _ _ | .validating _ | .granting _ _ _ => true
  | _ => false

def Task.Begins (task : Task) : Prop := task.outstanding = false

instance : DecidablePred Task.Begins :=
  fun task => inferInstanceAs (Decidable (task.outstanding = false))

def Idle (p : Run) : Prop := ∀ task ∈ p.threads, task.outstanding = false

instance : DecidablePred Idle :=
  fun p => inferInstanceAs (Decidable (∀ task ∈ p.threads, task.outstanding = false))

def Called (_ : Run) : Pool.Action Task Reply → Prop
  | .start task => task.Begins
  | .step _ _ => True

instance (p : Run) : DecidablePred (Called p)
  | .start task => inferInstanceAs (Decidable task.Begins)
  | .step _ _ => isTrue trivial

end PlayClients
end AkashicSystem.PlaylogServer
