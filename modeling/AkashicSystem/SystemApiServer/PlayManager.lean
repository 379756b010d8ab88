import AkashicSystem.Playlog.DeadLetterRouting
import AkashicSystem.Playlog.QueueConsumer
import Mathlib.Logic.Function.Basic

/-!
# The plays

`PlayManager`, with `PlaylogFixture`, `AMQPPlaylogPublisher` and the repository it
calls: a play is created, derived, resumed and suspended by updates of two tables
and of the broker, each a call that may fail, whether or not it has been carried
out.  The status is updated last, and in `updatePlay` in a transaction.
-/

set_option autoImplicit false

namespace AkashicSystem.SystemApiServer

open AkashicSystem.Js AkashicSystem.Js.Computation
open AkashicSystem.Playlog (WriteStatus)
open AkashicSystem.Playlog.DeadLetters

inductive PlayState where
  | preparing
  | running
  | suspending
  | broken
deriving DecidableEq

/-- `PLAY_STATE_PREPARING` and the others. -/
def PlayState.constant : PlayState → String
  | .preparing => "preparing"
  | .running => "running"
  | .suspending => "suspending"
  | .broken => "broken"

structure Play where
  id : Nat
  gameCode : String
  parentId : Option Nat
  status : PlayState

def tickBroadcastExchangeNamePrefix : String := "playlog_ticks."
def tickStoreExchangeNamePrefix : String := "playlog_ticks_store."
def startPointStoreExchangeNamePrefix : String := "playlog_startpoint_store."
def eventExchangeNamePrefix : String := "playlog_events."
def eventQueueNamePrefix : String := "playlog_events_queue."

variable (playId : Nat)

def tickBroadcastExchangeName : String :=
  tickBroadcastExchangeNamePrefix ++ playId.repr

def tickStoreExchangeName : String := tickStoreExchangeNamePrefix ++ playId.repr

def startPointStoreExchangeName : String :=
  startPointStoreExchangeNamePrefix ++ playId.repr

def eventExchangeName : String := eventExchangeNamePrefix ++ playId.repr

/-- `getExchangeNames`. -/
def exchangeNames : List String :=
  [tickBroadcastExchangeName playId, tickStoreExchangeName playId,
    startPointStoreExchangeName playId, eventExchangeName playId]

def eventQueueName : String := eventQueueNamePrefix ++ playId.repr

structure PlaylogExchanges where
  exchanges : List String
  queues : List String
  bindings : List (String × String)

inductive Command where
  | getChannel
  | assertExchange (exchange : String)
  | assertQueue (queue : String)
  | bindQueue (queue exchange : String)
  | bindExchange (destination source : String)
  | deleteExchange (exchange : String)
  | deleteQueue (queue : String)
deriving DecidableEq

def Command.perform (b : PlaylogExchanges) : Command → PlaylogExchanges
  | .getChannel => b
  | .assertExchange exchange => { b with exchanges := b.exchanges.insert exchange }
  | .assertQueue queue => { b with queues := b.queues.insert queue }
  | .bindQueue queue exchange => { b with bindings := b.bindings.insert (exchange, queue) }
  | .bindExchange destination source =>
    { b with bindings := b.bindings.insert (source, destination) }
  | .deleteExchange exchange =>
    { b with
      exchanges := b.exchanges.filter fun other => other ≠ exchange
      bindings := b.bindings.filter fun binding =>
        binding.1 ≠ exchange ∧ binding.2 ≠ exchange }
  | .deleteQueue queue =>
    { b with
      queues := b.queues.filter fun other => other ≠ queue
      bindings := b.bindings.filter fun binding => binding.2 ≠ queue }

structure Services where
  plays : Nat → Option Play
  insertId : Nat
  playlogs : Nat → Option WriteStatus
  broker : PlaylogExchanges
  uncommitted : Option (Nat → Option Play)

inductive Query where
  | getParent
  | save
  | update (status : PlayState)
  | setPlaying
  | setClosing
  | transaction
deriving DecidableEq

inductive Call where
  | getConnection (query : Query)
  | execute (query : Query)
  | get (query : Query)
  | release (query : Query)
  | beginTransaction
  | getWithLock
  | commit
  | rollback
  | copyPlaylog
  | channel (command : Command)
deriving DecidableEq

inductive Reply where
  | ok
  | failed (applied : Bool)
deriving DecidableEq

abbrev Replies := Call → Reply

inductive ApiError where
  | unavailable
  | invalidParameter (message : String)
  | notFound (message : String)
  | conflict (message : String)
  | typeError

abbrev ServiceM (α : Type) := Computation ApiError Services α

variable (replies : Replies)

def call (c : Call) (effect : Services → Services) : ServiceM Unit := fun s =>
  match replies c with
  | .ok => .ok () (effect s)
  | .failed true => .error .unavailable (effect s)
  | .failed false => .error .unavailable s

def ask (c : Call) : ServiceM Unit := call replies c id

def issue (replies : Replies) : List Command → ServiceM Unit
  | [] => pure ()
  | command :: rest => do
      call replies (.channel command) fun s => { s with broker := command.perform s.broker }
      issue replies rest

def prepareDlx : List Command :=
  [.assertExchange tickDlxName, .assertExchange startPointDlxName,
    .assertQueue tickStoreDeadLetterQueueName, .assertQueue startPointStoreDeadLetterQueueName,
    .bindQueue tickStoreDeadLetterQueueName tickDlxName,
    .bindQueue startPointStoreDeadLetterQueueName startPointDlxName]

def prepareStoreQueue (playId : Nat) : List Command :=
  [.assertQueue (storeQueueName playId.repr .tick),
    .assertQueue (storeQueueName playId.repr .startPoint)]

def prepare (playId : Nat) : List Command :=
  .getChannel :: prepareDlx ++
  [Command.assertExchange (tickBroadcastExchangeName playId),
    .assertExchange (tickStoreExchangeName playId),
    .assertExchange (startPointStoreExchangeName playId),
    .assertExchange (eventExchangeName playId),
    .assertQueue (eventQueueName playId)] ++
  prepareStoreQueue playId ++
  [Command.bindQueue (eventQueueName playId) (eventExchangeName playId),
    .bindQueue (storeQueueName playId.repr .tick) (tickStoreExchangeName playId),
    .bindExchange (tickBroadcastExchangeName playId) (tickStoreExchangeName playId),
    .bindQueue (storeQueueName playId.repr .startPoint) (startPointStoreExchangeName playId)]

def cleanup (playId : Nat) : List Command :=
  [.getChannel, .deleteExchange (tickStoreExchangeName playId),
    .deleteExchange (tickBroadcastExchangeName playId),
    .deleteExchange (startPointStoreExchangeName playId),
    .deleteExchange (eventExchangeName playId), .deleteQueue (eventQueueName playId)]

def setPlaying (replies : Replies) (playId : Nat) : ServiceM Unit := do
  ask replies (.getConnection .setPlaying)
  call replies (.execute .setPlaying) fun s =>
    { s with playlogs := Function.update s.playlogs playId (some .playing) }

def setClosing (replies : Replies) (playId : Nat) : ServiceM Unit := do
  ask replies (.getConnection .setClosing)
  call replies (.execute .setClosing) fun s =>
    { s with
      playlogs := Function.update s.playlogs playId ((s.playlogs playId).map fun _ => .closing) }

def preparePublishPlaylog (playId : Nat) : ServiceM Unit := do
  issue replies (prepare playId)
  setPlaying replies playId

def cleanupPublishPlaylog (playId : Nat) : ServiceM Unit := do
  issue replies (cleanup playId)
  setClosing replies playId

def Services.table (s : Services) : Nat → Option Play := s.uncommitted.getD s.plays

def select (id : Nat) : ServiceM (Option Play) := do
  let s ← get
  return s.table id

def enterContext {α : Type} (replies : Replies) (query : Query) (connection : Bool)
    (inContext : ServiceM α) : ServiceM α :=
  if connection then inContext
  else do
    ask replies (.getConnection query)
    tryCatch
      (do
        let result ← inContext
        ask replies (.release query)
        return result)
      fun error => do
        ignoring (ask replies (.release query))
        throw error

def Play.get (replies : Replies) (query : Query) (id : Nat) (connection : Bool) :
    ServiceM (Option Play) :=
  enterContext replies query connection do
    ask replies (.get query)
    select id

def Play.getWithLock (replies : Replies) (id : Nat) : ServiceM (Option Play) := do
  ask replies .getWithLock
  select id

def Services.insert (s : Services) (play : Play) : Services :=
  { s with
    plays := Function.update s.plays s.insertId (some { play with id := s.insertId })
    insertId := s.insertId + 1 }

def insert (replies : Replies) (play : Play) : ServiceM Nat := do
  let s ← get
  call replies (.execute .save) fun s => s.insert play
  return s.insertId

def Play.save (replies : Replies) (play : Play) : ServiceM (Option Play) :=
  enterContext replies .save false do
    let insertId ← insert replies play
    Play.get replies .save insertId true

def withStatus (table : Nat → Option Play) (id : Nat) (status : PlayState) : Nat → Option Play :=
  Function.update table id ((table id).map fun play => { play with status := status })

/-- In a transaction if a connection is given, which is that of the transaction. -/
def Services.setStatus (s : Services) (id : Nat) (status : PlayState) (connection : Bool) :
    Services :=
  match connection, s.uncommitted with
  | true, some table => { s with uncommitted := some (withStatus table id status) }
  | _, _ => { s with plays := withStatus s.plays id status }

def Play.update (replies : Replies) (id : Nat) (status : PlayState) (connection : Bool) :
    ServiceM (Option Play) :=
  enterContext replies (.update status) connection do
    call replies (.execute (.update status)) fun s => s.setStatus id status connection
    Play.get replies (.update status) id true

def transaction {α : Type} (replies : Replies) (inTransactionProcess : ServiceM α) :
    ServiceM α := do
  ask replies (.getConnection .transaction)
  tryCatch
    (do
      call replies .beginTransaction fun s => { s with uncommitted := some s.plays }
      let result ← inTransactionProcess
      call replies .commit fun s =>
        { s with plays := s.uncommitted.getD s.plays, uncommitted := none }
      ask replies (.release .transaction)
      return result)
    fun error => do
      modify fun s => { s with uncommitted := none }
      ignoring (do
        ask replies .rollback
        ask replies (.release .transaction))
      throw error

def given (play : Option Play) : ServiceM Play :=
  match play with
  | some play => pure play
  | none => throw .typeError

def startPlay (play : Option Play) (connection : Bool) :
    ServiceM (Option Play) := do
  let play ← given play
  preparePublishPlaylog replies play.id
  Play.update replies play.id .running connection

def stopPlay (play : Play) (connection : Bool) : ServiceM (Option Play) := do
  ignoring (cleanupPublishPlaylog replies play.id)
  Play.update replies play.id .suspending connection

variable (gameCode : String)

def createNewPlay : ServiceM (Option Play) := do
  let play ← Play.save replies ⟨0, gameCode, none, .suspending⟩
  startPlay replies play false

def copyPlaylog (replies : Replies) (play : Play) : ServiceM Unit :=
  tryCatch (ask replies .copyPlaylog) fun error => do
    ignoring (do
      let _ ← Play.update replies play.id .broken false)
    throw error

def createDerivedPlay (parentId : Option Nat) :
    ServiceM (Option Play) := do
  let play ← Play.save replies ⟨0, gameCode, parentId, .preparing⟩
  let play ← given play
  copyPlaylog replies play
  let play ← Play.update replies play.id .suspending false
  startPlay replies play false

def createDerivedPlayById (parentId : Nat) : ServiceM (Option Play) := do
  let parent ← Play.get replies .getParent parentId false
  match parent with
  | none => throw (.notFound "play not found")
  | some parent =>
    if parent.status ≠ .running ∧ parent.status ≠ .suspending then
      throw (.conflict ("parent play status is \"" ++ parent.status.constant ++ "\""))
    else createDerivedPlay replies parent.gameCode (some parent.id)

def createDerivedPlayByData : ServiceM (Option Play) :=
  createDerivedPlay replies gameCode none

def checkStatus (play : Play) (targetStatus : String) : ServiceM Play :=
  if (play.status = .running ∧ targetStatus = PlayState.suspending.constant) ∨
      (play.status = .suspending ∧ targetStatus = PlayState.running.constant) then
    pure play
  else throw (.conflict ("play status conflict (current: " ++ play.status.constant ++ ")"))

def updatePlay (id : Nat) (state : String) : ServiceM (Option Play) :=
  if state ≠ PlayState.running.constant ∧ state ≠ PlayState.suspending.constant then
    throw (.invalidParameter "invalid status parameter")
  else
    transaction replies do
      let result ← Play.getWithLock replies id
      match result with
      | none => throw (.notFound "play not found")
      | some play =>
        let play ← checkStatus play state
        if state = PlayState.running.constant then startPlay replies (some play) true
        else stopPlay replies play true

inductive Operation where
  | createNewPlay (gameCode : String)
  | createDerivedPlayById (parentId : Nat)
  | createDerivedPlayByData (gameCode : String)
  | updatePlay (id : Nat) (state : String)

def run : Operation → ServiceM (Option Play)
  | .createNewPlay gameCode => createNewPlay replies gameCode
  | .createDerivedPlayById parentId => createDerivedPlayById replies parentId
  | .createDerivedPlayByData gameCode => createDerivedPlayByData replies gameCode
  | .updatePlay id state => updatePlay replies id state

structure Server where
  services : Services
  /-- The services before the last operation, if that has rejected. -/
  rejected : Option Services

def new : Server := ⟨⟨fun _ => none, 1, fun _ => none, ⟨[], [], []⟩, none⟩, none⟩

def step (server : Server) (action : Operation × Replies) : Server :=
  match run action.2 action.1 server.services with
  | .ok _ services => ⟨services, none⟩
  | .error _ services => ⟨services, some server.services⟩

end AkashicSystem.SystemApiServer
