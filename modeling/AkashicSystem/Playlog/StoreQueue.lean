import AkashicSystem.Js.Computation
import AkashicSystem.Playlog.Tick

/-!
# Storing the messages of the store queues

`AMQPPlaylogStoreQueue` hands a delivered message to the `PlaylogQueueConsumer`,
which stores it, and settles it.  What the store, the databases, the broker and
the listeners of the events do is given by `Answers`; handling a message leaves
a trace of what happened to it.
-/

set_option autoImplicit false

namespace AkashicSystem.Playlog

open AkashicSystem.Js

inductive Form where
  | original
  | excludedIgnorable
  | startPoint
deriving DecidableEq

/-- What the store's put resolves or rejects with.  A conflict carries the value put. -/
inductive PutAnswer where
  | resolved
  | conflict
  | failed

/-- What emitting an event does: its listener may return, throw, or end the process. -/
inductive Listener where
  | returns
  | throws
  | exits

structure Answers where
  lib : Library
  /-- The channel `getChannel` answers, for each look-up; `none` where it rejects. -/
  getChannel : Nat → Option Nat
  /-- The channels that are open when the message is settled. -/
  isOpen : Nat → Bool
  /-- What `getStarted` resolves with, in milliseconds; `none` where it rejects. -/
  getStarted : Option (Option Int)
  getNow : Int
  put : Form → PutAnswer
  /-- What `getTick` or `getStartPoint` resolves with; `none` where it rejects. -/
  stored : Form → Option (Option Value)
  /-- The consumer's `error` event; without a listener it throws. -/
  onError : Listener
  /-- The consumer's `tickConflicted` and `startPointConflicted` events. -/
  onConflicted : Form → Listener
  /-- The queue's `error` event. -/
  onQueueError : Listener

inductive LogLevel where
  | warn
  | error

inductive Happening where
  | log (level : LogLevel)
  | put (playId : String) (form : Form) (value : Value)
  /-- A put conflicted with a stored value that is deeply equal. -/
  | found (playId : String) (form : Form) (value : Value)
  | conflicted (playId : String) (form : Form) (storedValue : Option Value) (received : Value)
  | error
  | queueError
  | ack (channel : Nat)
  | nack (channel : Nat) (requeue : Bool)

inductive Interrupt where
  | thrown
  | exited

abbrev HandlingM (α : Type) := Computation Interrupt (List Happening) α

def record (happening : Happening) : HandlingM Unit :=
  modify fun trace => trace ++ [happening]

def emit (event : Happening) (listener : Listener) : HandlingM Unit := do
  record event
  match listener with
  | .returns => pure ()
  | .throws => throw .thrown
  | .exits => throw .exited

/-- `try … catch`; the process does not outlive its exit. -/
def catching (body handler : HandlingM Unit) : HandlingM Unit := fun trace =>
  match body trace with
  | .error .thrown trace' => handler trace'
  | other => other

/-- An operator's `TypeError` is thrown. -/
def operate {α : Type} : Except TypeError α → HandlingM α
  | .ok a => pure a
  | .error _ => throw .thrown

namespace PlaylogQueueConsumer

variable (a : Answers)

/-- `getSecFromPlayStartedSec`, in milliseconds. -/
def getMillisFromPlayStarted : HandlingM Int :=
  match a.getStarted with
  | none => throw .thrown
  | some none => do
      record (.log .warn)
      pure 0
  | some (some started) => pure (a.getNow - started)

/-- The log of a first frame that comes late: `DELAY_ERROR_SEC`, `DELAY_WARN_SEC`. -/
def logDelay : HandlingM Unit := do
  let delayed ← getMillisFromPlayStarted a
  if 10 * 1000 ≤ delayed then record (.log .error)
  else if 6 * 1000 ≤ delayed then record (.log .warn)
  else pure ()

def putOrReport (playId : String) (form : Form) (value : Value) : HandlingM Unit :=
  match a.put form with
  | .resolved => record (.put playId form value)
  | .failed => emit .error a.onError
  | .conflict =>
    match a.stored form with
    | none => throw .thrown
    | some storedValue =>
      if a.lib.deepEqual storedValue value then do
        record (.found playId form value)
        record (.log .warn)
      else emit (.conflicted playId form storedValue value) (a.onConflicted form)

def storeTickInner (playId : String) (tickToStore : Value)
    (excludedIgnorable : Bool) : HandlingM Unit :=
  putOrReport a playId (if excludedIgnorable then .excludedIgnorable else .original) tickToStore

def isFirstFrame (frame : Option Value) : Bool :=
  match frame with
  | some (.number n) => n = 1
  | _ => false

def logFirstFrame (frame : Option Value) : HandlingM Unit :=
  if isFirstFrame frame then logDelay a else pure ()

def storeTick (a : Answers) (playId : String) (tick : Value) : HandlingM Unit := do
  let frame ← operate (tick.index 0)
  logFirstFrame a frame
  let mask := a.lib.eventFlagsMask
  let storeTick ← operate (removeTargetEvents a.lib tick [mask.transient])
  let excludedIgnorableTick ←
    operate (removeTargetEvents a.lib tick [mask.transient, mask.ignorable])
  storeTickInner a playId storeTick false
  storeTickInner a playId excludedIgnorableTick true

def storeStartPoint (playId : String) (startPoint : Value) : HandlingM Unit := do
  let frame ← operate (startPoint.field "frame")
  logFirstFrame a frame
  putOrReport a playId .startPoint startPoint

end PlaylogQueueConsumer

namespace AMQPPlaylogStoreQueue

def getChannel (a : Answers) (lookup : Nat) : HandlingM Nat :=
  match a.getChannel lookup with
  | none => throw .thrown
  | some channel => pure channel

variable (a : Answers)

/-- `channel.ack` or `channel.nack`; on a closed channel they throw. -/
def settle (channel : Nat) (settlement : Happening) : HandlingM Unit :=
  if a.isOpen channel then record settlement else throw .thrown

/-- `onTickMessage` and `onStartPointMessage`. -/
def onMessage (lookup : Nat) (decode : List UInt8 → Option Value)
    (callback : Value → HandlingM Unit) (content : List UInt8) : HandlingM Unit := do
  let channel ← getChannel a lookup
  match decode content with
  | none => throw .thrown
  | some value =>
    catching
      (do
        callback value
        settle a channel (.ack channel))
      (do
        settle a channel (.nack channel true)
        emit .queueError a.onQueueError)

def onTickMessage (lookup : Nat) (playId : String) (content : List UInt8) :
    HandlingM Unit :=
  onMessage a lookup (decodeTick a.lib) (PlaylogQueueConsumer.storeTick a playId) content

def onStartPointMessage (lookup : Nat) (playId : String) (content : List UInt8) :
    HandlingM Unit :=
  onMessage a lookup (decodeStartPoint a.lib) (PlaylogQueueConsumer.storeStartPoint a playId)
    content

variable (playId : Option String)

/-- `onTickDeadLetter` and `onStartPointDeadLetter`, with the play id header of the message. -/
def onDeadLetter (onPlayMessage : String → HandlingM Unit) :
    HandlingM Unit := do
  let channel ← getChannel a 0
  match playId with
  | none | some "" => do
      record (.log .warn)
      settle a channel (.ack channel)
  | some playId => onPlayMessage playId

def onTickDeadLetter (content : List UInt8) :
    HandlingM Unit :=
  onDeadLetter a playId fun playId => onTickMessage a 1 playId content

def onStartPointDeadLetter (content : List UInt8) :
    HandlingM Unit :=
  onDeadLetter a playId fun playId => onStartPointMessage a 1 playId content

end AMQPPlaylogStoreQueue

inductive Source where
  | tick (playId : String)
  | startPoint (playId : String)
  | tickDeadLetter (playId : Option String)
  | startPointDeadLetter (playId : Option String)

structure Delivery where
  source : Source
  channel : Nat
  content : List UInt8

namespace Delivery

def handle (a : Answers) (d : Delivery) : HandlingM Unit :=
  match d.source with
  | .tick playId => AMQPPlaylogStoreQueue.onTickMessage a 0 playId d.content
  | .startPoint playId => AMQPPlaylogStoreQueue.onStartPointMessage a 0 playId d.content
  | .tickDeadLetter playId => AMQPPlaylogStoreQueue.onTickDeadLetter a playId d.content
  | .startPointDeadLetter playId =>
    AMQPPlaylogStoreQueue.onStartPointDeadLetter a playId d.content

end Delivery
end AkashicSystem.Playlog
