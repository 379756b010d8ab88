import Mathlib.Logic.Function.Basic
import AkashicSystem.Lib.Pool

/-!
# The AMQP holder of a play

`AMQPHolder`, with the connections and channels made for it.  What runs from one
answer of the broker to the next call is one step of the promise that waits.
-/

set_option autoImplicit false

namespace AkashicSystem.PlaylogServer
namespace AMQPHolder

open Function

inductive State where
  | closed
  | connecting
  | connected
deriving DecidableEq

inductive Kind where
  | event
  | tick
deriving DecidableEq

/-- The fields that the holder has once for the events and once for the ticks:
`consumeEventStarted`, `consumeEventTag`, `eventClient`, `pendingEvents`, and so on. -/
structure Side (Message : Type) where
  consumeStarted : Bool
  consumeTag : Option Nat
  client : Option Nat
  pending : List Message

structure Connection where
  isOpen : Bool
  listened : Bool

structure Channel where
  connection : Nat
  isOpen : Bool
  listened : Bool
  consumers : Kind → List Nat

structure Holder (Message : Type) where
  state : State
  maxConnectionRetry : Nat
  connection : Option Nat
  channel : Option Nat
  side : Kind → Side Message
  /-- `destroy` has set the fields to null. -/
  destroyed : Bool

/-- The holder, what it has made, and what has happened to it. -/
structure World (Message : Type) extends Holder Message where
  connections : Nat → Connection
  channels : Nat → Channel
  /-- The numbers from which on connections, channels and tags are new. -/
  made : Nat
  /-- `close` has been called. -/
  closeCalled : Bool
  /-- What has been handed to `publishEvent` and `publishTick`. -/
  called : Kind → List Message
  accepted : Kind → List Message
  delivered : Kind → Nat
  wanted : Kind → Bool

variable {Message : Type}

def new (maxConnectionRetry : Nat) : World Message where
  state := .closed
  maxConnectionRetry := maxConnectionRetry
  connection := none
  channel := none
  side := fun _ => ⟨false, none, none, []⟩
  destroyed := false
  connections := fun _ => ⟨false, false⟩
  channels := fun _ => ⟨0, false, false, fun _ => []⟩
  made := 0
  closeCalled := false
  called := fun _ => []
  accepted := fun _ => []
  delivered := fun _ => 0
  wanted := fun _ => false

namespace World

variable (w : World Message)

/-- A channel that is neither lost nor closed, on a connection that is not. -/
def channelOpen (channel : Nat) : Bool :=
  (w.channels channel).isOpen && (w.connections (w.channels channel).connection).isOpen

def setSide (kind : Kind) (side : Side Message) : World Message :=
  { w with side := update w.side kind side }

def destroy : World Message :=
  { w with
    state := .closed
    channel := none
    side := fun _ => ⟨false, none, none, []⟩
    destroyed := true }

end World

/-- What the promise of `_doClose` waits for. -/
inductive Closing where
  | channel (connection : Option Nat)
  | connection (connection : Nat)
  | done

/-- What the promise of `consumeRaw` waits for; events have a queue that is bound already. -/
inductive Consumption where
  | assertQueue
  | consume
  | bindQueue (tag : Nat)

/-- What the promise of `_connect` waits for, or the closing that precedes it. -/
inductive Phase where
  | closing (closing : Closing)
  | newConnection
  | createChannel (connection : Nat)
  | prefetch (channel : Nat)
  | checkEventExchange (channel : Nat)
  | checkQueue (channel : Nat)
  | checkTickExchange (channel : Nat)
  | doConsume (kind : Kind) (channel : Nat) (consumption : Consumption)

/-- A call, or something that happens, and the promise it turns into. -/
inductive Task (Message : Type) where
  | prepare
  | close
  | destroy
  | publish (kind : Kind) (message : Message)
  | consume (kind : Kind)
  | cancelConsume (kind : Kind)
  | connectionLost (connection : Nat)
  | channelLost (channel : Nat)
  | deliver (kind : Kind) (channel : Nat)
  /-- The interval of `prefetchInterval`. -/
  | ackAll
  | connecting (retry : Nat) (phase : Phase)
  | closing (closing : Closing)
  | consuming (kind : Kind) (channel : Nat) (consumption : Consumption)
  | canceling (kind : Kind) (channel : Nat) (tag : Nat)
  | done

/-- The answer of the broker; a channel that publishes pending messages takes so many. -/
inductive Reply where
  | ok (taken : Nat)
  | failed

variable (w : World Message)

/-- `connection.close()`, after the listeners have been removed. -/
def closeConnection (connection : Option Nat) : World Message × Closing :=
  ({ w with
    connections := match connection with
      | some c => update w.connections c { w.connections c with listened := false }
      | none => w.connections },
   match connection with
    | some c => .connection c
    | none => .done)

/-- `_doClose` up to its first call: `channel.close()`, or that of the connection. -/
def doClose : World Message × Closing :=
  let detached := { w with
    connection := none
    channel := none
    side := fun kind => { w.side kind with client := none, consumeTag := none } }
  match w.channel with
  | some c =>
    ({ detached with
      channels := update w.channels c
        { w.channels c with isOpen := false, listened := false } }, .channel w.connection)
  | none => closeConnection detached w.connection

/-- The rest of `_doClose`; errors are ignored. -/
def Closing.next : Closing → World Message × Closing
  | .channel last => closeConnection w last
  | .connection c =>
    ({ w with
      connections := update w.connections c
        { w.connections c with isOpen := false } }, .done)
  | .done => (w, .done)

/-- `_connect(retry)`.  `PlaylogHandler` destroys the holder when it emits an error, once. -/
def connect (retry : Nat) : World Message × Task Message :=
  if w.maxConnectionRetry < retry then
    (if w.destroyed then { w with state := .connecting } else w.destroy, .done)
  else ({ w with state := .connecting }, .connecting retry .newConnection)

def connectAfter (retry : Nat) : World Message × Closing → World Message × Task Message
  | (w, .done) => connect w retry
  | (w, closing) => (w, .connecting retry (.closing closing))

def reconnect : World Message × Task Message :=
  if w.state = .connecting then (w, .done)
  else connectAfter 0 (doClose { w with state := .connecting })

/-- The catch of `_connect`. -/
def connectFailed (retry : Nat) : World Message × Task Message :=
  connectAfter (retry + 1) (doClose w)

def World.takes (kind : Kind) : Bool :=
  match (w.side kind).client with
  | some c => w.channelOpen c
  | none => false

variable (publishable : Kind → Message → Bool)

/-- The loop over the pending messages, up to the first that cannot be published. -/
def flush (w : World Message) (kind : Kind)
    (taken : Nat) : World Message :=
  let pending := (w.side kind).pending
  let published := if w.takes kind then (pending.take taken).takeWhile (publishable kind) else []
  { w with
    side := update w.side kind
      { w.side kind with pending := pending.drop published.length }
    accepted := update w.accepted kind (w.accepted kind ++ published) }

/-- The last part of `_connect`; the pending messages of a destroyed holder are null. -/
def flushAll (w : World Message) (retry taken : Nat) :
    World Message × Task Message :=
  if w.destroyed then connectFailed w retry
  else
    let events := flush publishable w .event taken
    if (events.side .event).pending.isEmpty then
      let ticks := flush publishable events .tick (taken - (w.side .event).pending.length)
      if (ticks.side .tick).pending.isEmpty then ({ ticks with state := .connected }, .done)
      else connectFailed ticks retry
    else connectFailed events retry

def onClient (retry : Nat) (kind : Kind) (phase : Nat → Phase) :
    World Message × Task Message :=
  match (w.side kind).client with
  | some c => (w, .connecting retry (phase c))
  | none => connectFailed w retry

/-- The first call of `consumeRaw`. -/
def Consumption.first : Kind → Consumption
  | .event => .consume
  | .tick => .assertQueue

/-- `_doConsumeEvent` or `_doConsumeTick`, within `_connect`. -/
def doConsume (w : World Message) (retry : Nat) (kind : Kind) : World Message × Task Message :=
  onClient w retry kind fun c => .doConsume kind c (.first kind)

/-- `_connect` from its look at `consumeTickStarted` on. -/
def connectTicks (w : World Message) (retry taken : Nat) :
    World Message × Task Message :=
  if (w.side .tick).consumeStarted then doConsume w retry .tick
  else flushAll publishable w retry taken

/-- `_connect` from its look at `consumeEventStarted` on. -/
def connectEvents (w : World Message)
    (retry taken : Nat) : World Message × Task Message :=
  if (w.side .event).consumeStarted then doConsume w retry .event
  else connectTicks publishable w retry taken

variable (kind : Kind)

def World.setTag (tag : Option Nat) : World Message :=
  w.setSide kind { w.side kind with consumeTag := tag }

def World.addConsumer (channel : Nat) : World Message :=
  { w with
    made := w.made + 1
    channels := update w.channels channel { w.channels channel with
      consumers := update (w.channels channel).consumers kind
        ((w.channels channel).consumers kind ++ [w.made]) } }

/-- What follows an answer to `consumeRaw`: another call, or the tag is kept. -/
def consumed (channel : Nat) :
    Consumption → World Message × Option Consumption
  | .assertQueue => (w, some .consume)
  | .consume =>
    match kind with
    | .event => ((w.addConsumer .event channel).setTag .event (some w.made), none)
    | .tick => (w.addConsumer .tick channel, some (.bindQueue w.made))
  | .bindQueue tag => (w.setTag kind (some tag), none)

/-- `_connect` goes on after an answer to its `consumeRaw`. -/
def connectConsumed (retry taken : Nat) (kind : Kind)
    (channel : Nat) : World Message × Option Consumption → World Message × Task Message
  | (w, some following) => (w, .connecting retry (.doConsume kind channel following))
  | (w, none) =>
    match kind with
    | .event => connectTicks publishable w retry taken
    | .tick => flushAll publishable w retry taken

/-- `_connect` goes on after an answer. -/
def connectNext (w : World Message) (retry taken : Nat) :
    Phase → World Message × Task Message
  | .closing closing => connectAfter retry (closing.next w)
  | .newConnection =>
    ({ w with
      made := w.made + 1
      connections := update w.connections w.made ⟨true, true⟩
      connection := some w.made }, .connecting retry (.createChannel w.made))
  | .createChannel connection =>
    ({ w with
      made := w.made + 1
      channels := update w.channels w.made ⟨connection, true, true, fun _ => []⟩
      channel := some w.made
      side := fun kind => { w.side kind with client := some w.made } },
      .connecting retry (.prefetch w.made))
  | .prefetch _ => onClient w retry .event .checkEventExchange
  | .checkEventExchange _ => onClient w retry .event .checkQueue
  | .checkQueue _ => onClient w retry .tick .checkTickExchange
  | .checkTickExchange _ => connectEvents publishable w retry taken
  | .doConsume kind channel consumption =>
    connectConsumed publishable retry taken kind channel (consumed w kind channel consumption)

/-- An error of `_doClose` is ignored, any other is caught. -/
def connectReply (w : World Message) (retry : Nat)
    (phase : Phase) : Reply → World Message × Task Message
  | .ok taken => connectNext publishable w retry taken phase
  | .failed =>
    match phase with
    | .closing closing => connectAfter retry (closing.next w)
    | _ => connectFailed w retry

def prepare : World Message × Task Message :=
  if w.state = .closed then connect w 0 else (w, .done)

def Task.ofClosing : Closing → Task Message
  | .done => .done
  | .channel connection => .closing (.channel connection)
  | .connection c => .closing (.connection c)

def close : World Message × Task Message :=
  let closing := doClose { w with state := .closed, closeCalled := true }
  (closing.1, .ofClosing closing.2)

def push (message : Message) : World Message :=
  w.setSide kind { w.side kind with pending := (w.side kind).pending ++ [message] }

/-- `publishEvent` and `publishTick`; on a destroyed holder they throw. -/
def publish (w : World Message) (kind : Kind)
    (message : Message) : World Message × Task Message :=
  let w := { w with called := update w.called kind (w.called kind ++ [message]) }
  if w.destroyed then (w, .done)
  else if w.state ≠ .connected then (push w kind message, .done)
  else if w.takes kind && publishable kind message then
    ({ w with accepted := update w.accepted kind (w.accepted kind ++ [message]) }, .done)
  else reconnect (push w kind message)

/-- `consumeEvent` and `consumeTick`. -/
def consume : World Message × Task Message :=
  let w := { w with
    side := update w.side kind { w.side kind with consumeStarted := true }
    wanted := update w.wanted kind true }
  if w.state ≠ .connected then (w, .done)
  else
    match (w.side kind).consumeTag, (w.side kind).client with
    | none, some c => (w, .consuming kind c (.first kind))
    | _, _ => (w, .done)

def consumeNext (channel : Nat) :
    World Message × Option Consumption → World Message × Task Message
  | (w, some following) => (w, .consuming kind channel following)
  | (w, none) => (w, .done)

/-- `cancelConsumeEvent` and `cancelConsumeTick`. -/
def cancelConsume : World Message × Task Message :=
  let wanted := update w.wanted kind false
  if (w.side kind).consumeStarted then
    let w := { w with
      side := update w.side kind { w.side kind with consumeStarted := false }
      wanted := wanted }
    match (w.side kind).consumeTag, w.channel with
    | some tag, some c => (w, .canceling kind c tag)
    | _, _ => (w, .done)
  else ({ w with wanted := wanted }, .done)

def World.removeConsumer (channel tag : Nat) : World Message :=
  { w with
    channels := update w.channels channel { w.channels channel with
      consumers := update (w.channels channel).consumers kind
        (((w.channels channel).consumers kind).erase tag) } }

/-- A message for a consumer; the handlers of a destroyed holder are null. -/
def deliver : World Message :=
  { w with
    delivered := update w.delivered kind
      (if w.destroyed then w.delivered kind else w.delivered kind + 1) }

def next (publishable : Kind → Message → Bool) (w : World Message) :
    Task Message → Reply → Option (World Message × Task Message)
  | .prepare, _ => some (prepare w)
  | .close, _ => some (close w)
  | .destroy, _ => some (w.destroy, .done)
  | .publish kind message, _ => some (publish publishable w kind message)
  | .consume kind, _ => some (consume w kind)
  | .cancelConsume kind, _ => some (cancelConsume w kind)
  | .connectionLost c, _ =>
    if (w.connections c).isOpen then
      let lost := { w with
        connections := update w.connections c
          { w.connections c with isOpen := false } }
      some (if (w.connections c).listened then reconnect lost else (lost, .done))
    else none
  | .channelLost c, _ =>
    if (w.channels c).isOpen then
      let lost := { w with
        channels := update w.channels c { w.channels c with isOpen := false } }
      some (if (w.channels c).listened then reconnect lost else (lost, .done))
    else none
  | .deliver kind c, _ =>
    if w.channelOpen c ∧ (w.channels c).consumers kind ≠ [] then some (deliver w kind, .done)
    else none
  | .ackAll, _ =>
    some (match w.channel with
      | some c => if w.channelOpen c then (w, .done) else reconnect w
      | none => (w, .done))
  | .connecting retry phase, reply => some (connectReply publishable w retry phase reply)
  | .closing closing, _ => some ((closing.next w).1, .ofClosing (closing.next w).2)
  | .consuming kind c consumption, .ok _ =>
    some (consumeNext kind c (consumed w kind c consumption))
  | .consuming _ _ _, .failed => some (w, .done)
  | .canceling kind c tag, .ok _ =>
    some ((w.removeConsumer kind c tag).setTag kind none, .done)
  | .canceling _ _ _, .failed => some (w, .done)
  | .done, _ => none

abbrev Run (Message : Type) := Pool (World Message) (Task Message)

def step (publishable : Kind → Message → Bool) (w : Run Message)
    (action : Pool.Action (Task Message) Reply) : Run Message :=
  Pool.step (next publishable) w action

def start (maxConnectionRetry : Nat) : Run Message := ⟨new maxConnectionRetry, []⟩

namespace Task

def outstanding : Task Message → Bool
  | .connecting _ _ => true
  | .closing _ => true
  | .consuming _ _ _ => true
  | .canceling _ _ _ => true
  | _ => false

def Begins (task : Task Message) : Prop := task.outstanding = false

instance (task : Task Message) : Decidable task.Begins :=
  inferInstanceAs (Decidable (task.outstanding = false))

def isConnecting : Task Message → Bool
  | .connecting _ _ => true
  | _ => false

end Task

def Idle (w : Run Message) : Prop := ∀ task ∈ w.threads, task.outstanding = false

instance (w : Run Message) : Decidable (Idle w) :=
  inferInstanceAs (Decidable (∀ task ∈ w.threads, task.outstanding = false))

def attempts (task : Task Message) : Int := if task.isConnecting then 1 else 0

section Attempts

variable {task : Task Message}

theorem attempts_of_true (connecting : task.isConnecting = true) : attempts task = 1 :=
  if_pos connecting

theorem attempts_of_false (other : task.isConnecting = false) : attempts task = 0 := by
  rw [attempts, other]
  rfl

theorem attempts_nonneg (task : Task Message) : 0 ≤ attempts task := by
  unfold attempts
  split <;> decide

theorem Task.Begins.isConnecting (begins : task.Begins) : task.isConnecting = false := by
  cases task with
  | connecting retry phase => cases begins
  | _ => rfl

end Attempts

def Called (_ : Run Message) : Pool.Action (Task Message) Reply → Prop
  | .start task => task.Begins
  | .step _ _ => True

instance (p : Run Message) : DecidablePred (Called p)
  | .start task => inferInstanceAs (Decidable task.Begins)
  | .step _ _ => isTrue trivial

end AMQPHolder
end AkashicSystem.PlaylogServer
