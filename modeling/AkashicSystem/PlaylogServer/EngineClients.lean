import Mathlib.Data.List.Range
import AkashicSystem.PlaylogServer.PlayClients

/-!
# The clients of the sessions

`Client` and `Session` of playlog-server-engine, as far as they open and close the
AMFlow of a client, over the AMFlows of one play.  A client and its AMFlow have
one number.
-/

set_option autoImplicit false

namespace AkashicSystem.PlaylogServer
namespace EngineClients

inductive ReadyState where
  | «open»
  | closing
  | closed
deriving DecidableEq

structure World extends PlayClients.World where
  created : Nat
  readyState : Nat → ReadyState
  /-- `clients` of the sessions: a session with each of its clients. -/
  table : List (Nat × Nat)

def new : World where
  toWorld := PlayClients.new
  created := 0
  readyState := fun _ => .closed
  table := []

/-- A request, or something that happens, and the promise it turns into. -/
inductive Task where
  | channel (session : Nat)
  | openRequest (client : Nat)
  | closeRequest (client : Nat)
  | channelClosed (client : Nat)
  /-- The socket closes, times out or fails; the end of a session closes it. -/
  | socketClosed (session : Nat)
  /-- `Promise.all` of an open request. -/
  | opening (client : Nat)
  /-- `Promise.all` of a close request: its pipes, and `amflow.close`. -/
  | closing (client : Nat) (pipes : Bool) (close : PlayClients.Task)
  | calls (running : List PlayClients.Task)

inductive Reply where
  | opened (succeeded : Bool)
  | pipesClosed
  | answered
  /-- A pipe cannot be closed; or the answer cannot be sent, for its pipe, its channel or
  the session of AMTP is closed. -/
  | failed
  | call (index : Nat) (reply : PlayClients.Reply)

namespace World

def setReadyState (w : World) (client : Nat) (readyState : ReadyState) : World :=
  { w with readyState := Function.update w.readyState client readyState }

/-- The listener of the session for the `close` of a client. -/
def remove (w : World) (client : Nat) : World :=
  { w with table := w.table.filter fun entry => entry.2 ≠ client }

def present (w : World) : List Nat := w.table.map Prod.snd

end World

variable (w : World)

def callNext (call : PlayClients.Task) (reply : PlayClients.Reply) :
    Option (World × PlayClients.Task) :=
  (PlayClients.next w.toWorld call reply).map fun r => ({ w with toWorld := r.1 }, r.2)

namespace Client

def handleOpenRequest (client : Nat) : World × Task :=
  ({ w with toWorld := PlayClients.ServerEngineAMFlow.open w.toWorld client }, .opening client)

/-- What comes after the answer to a close request: the client emits `close`. -/
def closed (client : Nat) : World :=
  (w.setReadyState client .closed).remove client

def handleCloseRequest (client : Nat) : World × Task :=
  let close := PlayClients.ServerEngineAMFlow.close w.toWorld client
  ({ w with toWorld := close.1 }.setReadyState client .closing, .closing client false close.2)

/-- The listener of the channel for its `close`. -/
def onChannelClose (client : Nat) : World :=
  if w.readyState client = .open then closed w client else w

def close (r : World × List PlayClients.Task) (client : Nat) : World × List PlayClients.Task :=
  let close := PlayClients.ServerEngineAMFlow.close r.1.toWorld client
  ({ r.1 with toWorld := close.1 }.setReadyState client .closed, r.2 ++ [close.2])

end Client

namespace Session

def ofSession (session : Nat) : List Nat :=
  (w.table.filter fun entry => entry.1 = session).map Prod.snd

def closeClients (session : Nat) : World × Task :=
  let closed := (ofSession w session).foldl Client.close
    ({ w with table := w.table.filter fun entry => entry.1 ≠ session }, [])
  (closed.1, .calls closed.2)

end Session

def next : Task → Reply → Option (World × Task)
  | .channel session, _ =>
    some ({ w with
      created := w.created + 1
      table := w.table ++ [(session, w.created)] }, .calls [])
  | .openRequest client, _ =>
    if client < w.created then some (Client.handleOpenRequest w client) else none
  | .closeRequest client, _ =>
    if client < w.created then some (Client.handleCloseRequest w client) else none
  | .channelClosed client, _ =>
    if client < w.created then some (Client.onChannelClose w client, .calls []) else none
  | .socketClosed session, _ => some (Session.closeClients w session)
  | .opening client, .opened succeeded =>
    some (if succeeded then w.setReadyState client .open else w, .calls [])
  | .closing client false close, .pipesClosed => some (w, .closing client true close)
  | .closing client true .done, .answered => some (Client.closed w client, .calls [])
  -- `catch` cannot answer either, and what comes after the answer is left out
  | .closing _ _ close, .failed => some (w, .calls [close])
  | .closing client pipes close, .call _ reply =>
    (callNext w close reply).map fun r => (r.1, .closing client pipes r.2)
  | .calls running, .call index reply =>
    running[index]?.bind fun call =>
      (callNext w call reply).map fun r => (r.1, .calls (running.set index r.2))
  | _, _ => none

abbrev Run := Pool World Task

def step (p : Run) (action : Pool.Action Task Reply) : Run := Pool.step next p action

def start : Run := ⟨new, []⟩

def isOther : PlayClients.Task → Bool
  | .authenticate _ | .onError _ => true
  | _ => false

def Task.Begins : Task → Prop
  | .opening _ | .closing _ _ _ => False
  | .calls running => ∀ call ∈ running, isOther call = true
  | _ => True

instance : DecidablePred Task.Begins
  | .channel _ | .openRequest _ | .closeRequest _ | .channelClosed _ | .socketClosed _ =>
    isTrue trivial
  | .opening _ | .closing _ _ _ => isFalse id
  | .calls running => inferInstanceAs (Decidable (∀ call ∈ running, isOther call = true))

def Task.outstanding : Task → Bool
  | .opening _ | .closing _ _ _ => true
  | .calls running => running.any PlayClients.Task.outstanding
  | _ => false

def Idle (p : Run) : Prop := ∀ task ∈ p.threads, task.outstanding = false

instance : DecidablePred Idle :=
  fun p => inferInstanceAs (Decidable (∀ task ∈ p.threads, task.outstanding = false))

def Called (_ : Run) : Pool.Action Task Reply → Prop
  | .start task => task.Begins
  | .step _ _ => True

instance (p : Run) : DecidablePred (Called p)
  | .start task => inferInstanceAs (Decidable task.Begins)
  | .step _ _ => isTrue trivial

end EngineClients
end AkashicSystem.PlaylogServer
