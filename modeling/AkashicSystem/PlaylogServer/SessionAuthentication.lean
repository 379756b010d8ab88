import AkashicSystem.Lib.Pool
import AkashicSystem.PlaylogServer.ServerEngineAMFlow

/-!
# Authenticating a session

`authenticate` of an AMFlow, turn by turn: the handler of the play is closed, the
token is validated, and `Promise.all` waits for the connection and the write lock.
The operations, the events of the validator and other authentications come in
between.
-/

set_option autoImplicit false

namespace AkashicSystem.PlaylogServer

open AkashicSystem.Js

def Permission.connects (permission : Permission) : Bool :=
  permission.writeTick || permission.sendEvent || permission.subscribeEvent ||
    permission.subscribeTick

namespace SessionAuthentication

structure World where
  validator : Validator
  amflow : AMFlow
  /-- Whether the last `authenticate` that called back has succeeded. -/
  answered : Option Bool

def new : World := ⟨.new, .new, none⟩

/-- A call, or something that happens, and the promise it turns into. -/
inductive Task where
  | authenticate
  | close
  | operation (op : AMFlow.Operation)
  | binaryTick (tick : List UInt8)
  | binaryEvent (event : List UInt8)
  | writeLockReleased
  | validator (action : Validator.Action)
  /-- `authenticate` waits for the handler to close. -/
  | releasing
  | validating
  /-- The promises of `prepare` and of `acquireWriteLock` that `Promise.all` waits for,
  and whether another one has been rejected. -/
  | granting (preparing locking failed : Bool)
  | done

inductive Reply where
  | resolved
  | rejected
  | validated (ref : Ref)
  | prepared (succeeded : Bool)
  | writeLocked (succeeded : Bool)

namespace World

/-- The callback of `authenticate`. -/
def callback (w : World) (succeeded : Bool) : World := { w with answered := some succeeded }

/-- A promise of `Promise.all` is rejected: with the first of them it is rejected itself. -/
def reject (w : World) (failed : Bool) : World := if failed then w else w.callback false

end World

/-- A promise of `Promise.all` has settled: with the last of them it is resolved. -/
def settle (w : World) (preparing locking failed : Bool) : World × Task :=
  if preparing || locking then (w, .granting preparing locking failed)
  else if failed then (w, .done)
  else (w.callback true, .done)

/-- `authenticate` goes on with the holder that `validate` resolved with. -/
def onValidated (w : World) (ref : Ref) : World × Task :=
  let holder := w.validator.holders ref
  let permission := holder.playToken.permission
  settle { w with amflow := w.amflow.onValidated ref holder } permission.connects
    permission.writeTick false

variable (engine : Engine)

def next (w : World) : Task → Reply → Option (World × Task)
  | .authenticate, _ =>
    some ({ w with amflow := w.amflow.authenticate },
      if w.amflow.playlogHandlerPrepared then .releasing else .validating)
  | .close, _ => some ({ w with amflow := w.amflow.close }, .done)
  | .operation op, _ =>
    some ({ w with amflow := w.amflow.perform engine w.validator.holders op }, .done)
  | .binaryTick tick, _ =>
    some ({ w with amflow := w.amflow.onBinaryTick w.validator.holders tick }, .done)
  | .binaryEvent event, _ =>
    some ({ w with amflow := w.amflow.onBinaryEvent w.validator.holders event }, .done)
  | .writeLockReleased, _ =>
    some ({ w with amflow := { w.amflow with writeLocked := false } }, .done)
  | .validator action, _ => some ({ w with validator := w.validator.step action }, .done)
  | .releasing, .resolved =>
    some ({ w with amflow := { w.amflow with playlogHandlerPrepared := false } }, .validating)
  | .releasing, .rejected => some (w.callback false, .done)
  | .validating, .validated ref =>
    if ref ∈ w.validator.validated then some (onValidated w ref) else none
  | .validating, .rejected => some (w.callback false, .done)
  | .granting preparing locking failed, .prepared succeeded =>
    if preparing = false then none
    else if succeeded then
      some (settle { w with amflow := { w.amflow with playlogHandlerPrepared := true } } false
        locking failed)
    else some (settle (w.reject failed) false locking true)
  | .granting preparing locking failed, .writeLocked succeeded =>
    if locking = false then none
    else if succeeded then
      some (settle { w with amflow := { w.amflow with writeLocked := true } } preparing false
        failed)
    else some (settle (w.reject failed) preparing false true)
  | _, _ => none

abbrev Run := Pool World Task

def step (p : Run) (action : Pool.Action Task Reply) : Run := Pool.step (next engine) p action

def start : Run := ⟨new, []⟩

def Task.Begins : Task → Prop
  | .releasing | .validating | .granting _ _ _ | .done => False
  | _ => True

instance : DecidablePred Task.Begins
  | .releasing | .validating | .granting _ _ _ | .done => isFalse id
  | .authenticate | .close | .operation _ | .binaryTick _ | .binaryEvent _ | .writeLockReleased
  | .validator _ => isTrue trivial

def Called (_ : Run) : Pool.Action Task Reply → Prop
  | .start task => task.Begins
  | .step _ _ => True

instance (p : Run) : DecidablePred (Called p)
  | .start task => inferInstanceAs (Decidable task.Begins)
  | .step _ _ => isTrue trivial

end SessionAuthentication
end AkashicSystem.PlaylogServer
