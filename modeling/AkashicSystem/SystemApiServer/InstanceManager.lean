import AkashicSystem.Js.Number
import AkashicSystem.SystemApiServer.Transactions
import Mathlib.Data.List.Forall2
import Mathlib.Data.List.Perm.Subperm

/-!
# The instances

`InstanceManager` with the repositories it calls.  An operation changes the tables in a
transaction and then publishes its request; the event handlers of a new instance are
saved from a `forEach` that is not waited for.  A field that cannot be cast is a statement
that fails.
-/

set_option autoImplicit false

namespace AkashicSystem.SystemApiServer.InstanceManager

open AkashicSystem.Js AkashicSystem.Js.Computation
open Transactions (attempt)

inductive InstanceState where
  | prepare
  | running
  | pausing
  | paused
  | resuming
  | closing
  | closed
  | error
deriving DecidableEq

structure Instance where
  gameCode : String
  entryPoint : String
  cost : Number
  status : InstanceState
  region : String
  modules : String

structure VideoSetting where
  videoPublishUri : String
  videoFrameRate : Number

structure EventHandler where
  type : String
  endpoint : String
  protocol : String

/-- The optional parts of a request to start an instance. -/
structure StartInstanceRequestParameters where
  assignmentConstraints : Option (List String)
  forceAssignTo : Option (String × String)

structure CreateInstanceArgs where
  gameCode : String
  playId : Option String
  entryPoint : String
  cost : Number
  modules : String
  videoSetting : Option VideoSetting
  eventHandlers : Option (List EventHandler)
  parameters : StartInstanceRequestParameters

inductive InstanceRequest where
  | start (instanceId : Nat) (parameters : StartInstanceRequestParameters)
  | stop (instanceId : Nat)
  | pause (instanceId : Nat)
  | resume (instanceId : Nat)

structure Tables where
  instances : List (Nat × Instance)
  playsInstances : List (String × Nat)
  videoSettings : List (Nat × VideoSetting)
  eventHandlers : List (Nat × EventHandler)
  instanceEventHandlers : List (Nat × Nat)

/-- A handler whose row is inserted and not yet related to its instance. -/
structure Saving where
  index : Nat
  instanceId : Nat
  eventHandlerId : Nat

structure Database where
  tables : Tables
  uncommitted : Option Tables
  instanceId : Nat
  eventHandlerId : Nat
  saving : List Saving
  requests : List InstanceRequest

/-- The tables that the statements of an operation insert into or update. -/
inductive Statement where
  | instances
  | playsInstances
  | videoSettings
  | eventHandlers (index : Nat)
  | instanceEventHandlers (index : Nat)
deriving DecidableEq

inductive Call where
  | getConnection
  | beginTransaction
  | execute (statement : Statement)
  | get (statement : Statement)
  | getWithLock
  | commit
  | rollback
  | release
  | publish
deriving DecidableEq

abbrev Replies := Call → Reply

abbrev DatabaseM (α : Type) := Computation ApiError Database α

namespace Database

variable (d : Database)

def view : Tables := d.uncommitted.getD d.tables

def write (effect : Tables → Tables) : Database :=
  match d.uncommitted with
  | some tables => { d with uncommitted := some (effect tables) }
  | none => { d with tables := effect d.tables }

def begins : Database := { d with uncommitted := some d.tables }

def commits : Database := { d with tables := d.view, uncommitted := none }

def rollsBack : Database := { d with uncommitted := none }

def insertInstance (i : Instance) : Database :=
  { d.write fun tables => { tables with instances := tables.instances ++ [(d.instanceId, i)] } with
    instanceId := d.instanceId + 1 }

def insertEventHandler (handler : EventHandler) : Database :=
  { d.write fun tables =>
      { tables with eventHandlers := tables.eventHandlers ++ [(d.eventHandlerId, handler)] } with
    eventHandlerId := d.eventHandlerId + 1 }

def publish (request : InstanceRequest) : Database :=
  { d with requests := d.requests ++ [request] }

end Database

variable (replies : Replies)

def call (c : Call) (effect : Database → Database) : DatabaseM Unit :=
  attempt (replies c) effect

def ask (c : Call) : DatabaseM Unit := call replies c id

def selectInstance (id : Nat) : DatabaseM (Option (Nat × Instance)) := do
  let d ← get
  return d.view.instances.find? fun row => row.1 = id

def Instance.get (replies : Replies) (id : Nat) : DatabaseM (Option (Nat × Instance)) := do
  ask replies (.get .instances)
  selectInstance id

def Instance.getWithLock (replies : Replies) (id : Nat) : DatabaseM (Option (Nat × Instance)) := do
  ask replies .getWithLock
  selectInstance id

def insertId : DatabaseM Nat := do
  let d ← get
  return d.instanceId

def Instance.save (i : Instance) : DatabaseM (Option (Nat × Instance)) := do
  let id ← insertId
  call replies (.execute .instances) fun d => d.insertInstance i
  Instance.get replies id

def withStatus (instances : List (Nat × Instance)) (id : Nat) (status : InstanceState) :
    List (Nat × Instance) :=
  instances.map fun row => if row.1 = id then (row.1, { row.2 with status }) else row

def Tables.setStatus (tables : Tables) (id : Nat) (status : InstanceState) : Tables :=
  { tables with instances := withStatus tables.instances id status }

def Instance.updateStatus (id : Nat) (status : InstanceState) :
    DatabaseM (Option (Nat × Instance)) := do
  call replies (.execute .instances) fun d => d.write fun tables => tables.setStatus id status
  Instance.get replies id

def PlaysInstances.save (playId : String) (instanceId : Nat) :
    DatabaseM Unit :=
  call replies (.execute .playsInstances) fun d => d.write fun tables =>
    { tables with playsInstances := tables.playsInstances ++ [(playId, instanceId)] }

def VideoSetting.save (replies : Replies) (instanceId : Nat) (setting : VideoSetting) :
    DatabaseM Unit := do
  call replies (.execute .videoSettings) fun d => d.write fun tables =>
    { tables with videoSettings := tables.videoSettings ++ [(instanceId, setting)] }
  ask replies (.get .videoSettings)

/-- `InstanceEventHandler.save` up to the reply of its first statement. -/
def Database.saveEventHandler (instanceId : Nat) (d : Database)
    (handler : EventHandler × Nat) : Database :=
  match replies (.execute (.eventHandlers handler.2)) with
  | .ok =>
    { d.insertEventHandler handler.1 with
      saving := d.saving ++ [⟨handler.2, instanceId, d.eventHandlerId⟩] }
  | .failed true => d.insertEventHandler handler.1
  | .failed false => d

/-- The rest of it: the connection carries out what it is given in order, and so these
statements come after the commit, or after the rollback. -/
def Database.relate (d : Database) (handler : Saving) : Database :=
  if replies (.get (.eventHandlers handler.index)) = .ok ∧
      replies (.execute (.instanceEventHandlers handler.index)) ≠ .failed false then
    { d with
      tables := { d.tables with
        instanceEventHandlers := d.tables.instanceEventHandlers ++
          [(handler.instanceId, handler.eventHandlerId)] } }
  else d

def transaction {α : Type} (replies : Replies) (inTransactionProcess : DatabaseM α) :
    DatabaseM α :=
  Transactions.transaction
    ⟨replies .getConnection, replies .beginTransaction, replies .commit, replies .rollback,
      replies .release⟩
    ⟨Database.begins, Database.commits, Database.rollsBack⟩ inTransactionProcess

def given (row : Option (Nat × Instance)) : DatabaseM (Nat × Instance) :=
  match row with
  | some row => pure row
  | none => throw .typeError

variable (args : CreateInstanceArgs)

def CreateInstanceArgs.record : Instance :=
  { gameCode := args.gameCode
    entryPoint := args.entryPoint
    cost := args.cost
    status := .prepare
    region := "akashicCluster"
    modules := args.modules }

variable (instanceId : Nat)

def savePlay :
    DatabaseM Unit :=
  match args.playId with
  | some playId =>
    if playId = "" then pure () else PlaysInstances.save replies playId instanceId
  | none => pure ()

def saveVideoSetting :
    DatabaseM Unit :=
  match args.videoSetting with
  | some setting => VideoSetting.save replies instanceId setting
  | none => pure ()

def createPrepareInstance :
    DatabaseM (Nat × Instance) :=
  transaction replies do
    let row ← Instance.save replies args.record
    let row ← given row
    savePlay replies args row.1
    saveVideoSetting replies args row.1
    -- not waited for, and what fails here rejects nothing
    modify fun d => (args.eventHandlers.getD []).zipIdx.foldl
      (Database.saveEventHandler replies row.1) d
    return row

def request (r : InstanceRequest) : DatabaseM Unit :=
  call replies .publish fun d => d.publish r

def createAndStartInstance :
    DatabaseM (Nat × Instance) := do
  let row ← createPrepareInstance replies args
  request replies (.start row.1 args.parameters)
  return row

def changeStatus (conflicts : InstanceState → Bool)
    (status : InstanceState) (r : Nat → InstanceRequest) : DatabaseM (Nat × Instance) := do
  let row ← transaction replies do
    let target ← Instance.getWithLock replies instanceId
    match target with
    | none => throw (.notFound "instance not found")
    | some target =>
      if conflicts target.2.status then throw (.conflict "instance state conflict")
      else Instance.updateStatus replies target.1 status
  let row ← given row
  request replies (r row.1)
  return row

def stopInstance : DatabaseM (Nat × Instance) :=
  changeStatus replies instanceId (fun status => status = .closing ∨ status = .closed) .closing
    .stop

def pauseInstance : DatabaseM (Nat × Instance) :=
  changeStatus replies instanceId (fun status => status ≠ .running) .pausing .pause

def resumeInstance : DatabaseM (Nat × Instance) :=
  changeStatus replies instanceId (fun status => status ≠ .paused) .resuming .resume

inductive Operation where
  | createAndStartInstance (args : CreateInstanceArgs)
  | stopInstance (instanceId : Nat)
  | pauseInstance (instanceId : Nat)
  | resumeInstance (instanceId : Nat)

def perform : Operation → DatabaseM (Nat × Instance)
  | .createAndStartInstance args => createAndStartInstance replies args
  | .stopInstance instanceId => stopInstance replies instanceId
  | .pauseInstance instanceId => pauseInstance replies instanceId
  | .resumeInstance instanceId => resumeInstance replies instanceId

namespace Database

def idle (tables : Tables) (instanceId eventHandlerId : Nat) (requests : List InstanceRequest) :
    Database :=
  ⟨tables, none, instanceId, eventHandlerId, [], requests⟩

/-- When an operation ends, the handlers that are late are still to be related. -/
def ended (late : Nat → Bool) (d : Database) : Database :=
  (d.saving.filter fun handler => !late handler.index).foldl (Database.relate replies) d

def settled (late : Nat → Bool) (d : Database) : Database :=
  (d.saving.filter fun handler => late handler.index).foldl (Database.relate replies)
    (d.ended replies late)

end Database

def CreateInstanceArgs.plays :
    List (String × Nat) :=
  ((args.playId.filter fun playId => playId ≠ "").map fun playId => (playId, instanceId)).toList

def CreateInstanceArgs.settings :
    List (Nat × VideoSetting) :=
  (args.videoSetting.map fun setting => (instanceId, setting)).toList

def CreateInstanceArgs.handlers : List EventHandler :=
  args.eventHandlers.getD []

/-- Every record of a new instance is stored; each handler has a row, and one of its own for
the instance. -/
def Stored (before after : Tables) : Prop :=
  (instanceId, args.record) ∈ after.instances ∧
    args.plays instanceId ⊆ after.playsInstances ∧
    args.settings instanceId ⊆ after.videoSettings ∧
    ∃ eventHandlerIds : List Nat,
      List.Forall₂ (fun id handler => (id, handler) ∈ after.eventHandlers) eventHandlerIds
        args.handlers ∧
      List.Subperm
        (before.instanceEventHandlers ++ eventHandlerIds.map fun id => (instanceId, id))
        after.instanceEventHandlers

def HasStatus (status : InstanceState) (after : Tables) : Prop :=
  (after.instances.find? fun row => row.1 = instanceId).map (fun row => row.2.status) =
    some status

/-- What an operation promises of the tables. -/
def Promised (before after : Tables) (instanceId : Nat) : Operation → Prop
  | .createAndStartInstance args => Stored args instanceId before after
  | .stopInstance id => instanceId = id ∧ HasStatus id .closing after
  | .pauseInstance id => instanceId = id ∧ HasStatus id .pausing after
  | .resumeInstance id => instanceId = id ∧ HasStatus id .resuming after

def Operation.request (instanceId : Nat) : Operation → InstanceRequest
  | .createAndStartInstance args => .start instanceId args.parameters
  | .stopInstance _ => .stop instanceId
  | .pauseInstance _ => .pause instanceId
  | .resumeInstance _ => .resume instanceId

/-- It succeeds with all records stored and the request published, or it rejects and the
tables are as they were. -/
def AllOrNothing (late : Nat → Bool) (op : Operation) (d : Database) : Prop :=
  match perform replies op d with
  | .ok row d' =>
    Promised d.tables (d'.ended replies late).tables row.1 op ∧
      op.request row.1 ∈ (d'.ended replies late).requests
  | .error _ d' => (d'.settled replies late).tables = d.tables

end AkashicSystem.SystemApiServer.InstanceManager
