import AkashicSystem.ClusterMaster.ProcessMonitor
import AkashicSystem.ClusterMaster.RequestLoops

/-!
# The life cycle of an instance

The requests change the status of an instance in transactions that lock its row; the consumers
of the two queues write it with a single statement, after their calls of the runners, under the
mutex of the instance.  All calls succeed.
-/

set_option autoImplicit false

namespace AkashicSystem.ClusterMaster

open SystemApiServer.InstanceManager (InstanceState)
open RequestLoops (InstanceRequest RequestType Outcome)
open ProcessMonitor (ended typeGameRunner2)

def RequestLoops.InstanceRequest.outcome (request : InstanceRequest) : Option Outcome :=
  if request.isErrorRecovery then none
  else
    match request.type with
    | .shutdown => some .closed
    | .pause => some .paused
    | .resume => some .resumed
    | .unknown => none

namespace LifeCycle

structure Row where
  id : Nat
  targetIdentity : ClusterIdentity
deriving DecidableEq

inductive CallPhase where
  | asked
  | removing
  | settled
deriving DecidableEq

structure Call where
  row : Row
  phase : CallPhase
deriving DecidableEq

inductive Section where
  | reading
  | resolving
  | preparing (candidates : List ClusterIdentity)
  | assigning (target : ClusterIdentity)
  | saving (target : ClusterIdentity)
  | listing (request : InstanceRequest)
  | calling (request : InstanceRequest) (calls : List Call)
  | updating (outcome : Outcome)
  | publishing
deriving DecidableEq

inductive Holder where
  | shutdown
  | abort
  | departure (index : Nat)
deriving DecidableEq

inductive TransactionPhase where
  | updating
  | publishing
  | committing
deriving DecidableEq

structure Transaction where
  holder : Holder
  phase : TransactionPhase
deriving DecidableEq

def Holder.status : Holder → InstanceState
  | .shutdown => .closing
  | .abort | .departure _ => .error

def Holder.request : Holder → Option InstanceRequest
  | .shutdown => some ⟨.shutdown, false⟩
  | .abort => some ⟨.shutdown, true⟩
  | .departure _ => none

inductive DeparturePhase where
  | listing
  /-- So many aborts are to be done before the rows are removed. -/
  | aborting (count : Nat)
  | left
deriving DecidableEq

structure Departure where
  identity : ClusterIdentity
  phase : DeparturePhase

end LifeCycle

open LifeCycle

/-- An instance, as the database, the runners and the master have it. -/
structure LifeCycle where
  status : InstanceState
  transaction : Option Transaction
  rows : List Row
  nextId : Nat
  running : List ClusterIdentity
  /-- The requests whose event is being published, before they are enqueued. -/
  announced : List RequestType
  bootQueue : Nat
  requestQueue : List InstanceRequest
  inSection : Option Section
  departures : List Departure
  /-- The processes that are asked to give it up, which is not waited for. -/
  givingUp : List ClusterIdentity

namespace LifeCycle

inductive Event where
  | stopInstance
  | pauseInstance
  | resumeInstance
  | boot
  | shutdown
  | abort
  | pause
  | resume
  | announced (index : Nat)
  | transaction
  | takeBoot
  | takeRequest
  | resolved (candidates : List ClusterIdentity)
  | prepared (made : Bool)
  | done
  | rowDone (index : Nat)
  | leaves (identity : ClusterIdentity)
  | departure (index : Nat)
  | givenUp (index : Nat)
deriving DecidableEq

variable (s : LifeCycle)

/-- A transaction of the system API that finds the lock free, at its commit. -/
def mark (may : InstanceState → Bool) (status : InstanceState) : LifeCycle :=
  if s.transaction = none ∧ may s.status then { s with status } else s

/-- A transaction of the master locks the row, unless the status makes it return. -/
def lock (s : LifeCycle) (skips : InstanceState → Bool) (holder : Holder) : LifeCycle :=
  if s.transaction = none ∧ skips s.status = false then
    { s with transaction := some ⟨holder, .updating⟩ }
  else s

/-- `pause` and `resume` read the status without a lock. -/
def announce (type : RequestType) (expected : InstanceState) : LifeCycle :=
  if s.status = expected then { s with announced := s.announced ++ [type] } else s

def enqueue (index : Nat) : LifeCycle :=
  match s.announced[index]? with
  | none => s
  | some type =>
    { s with
      announced := s.announced.eraseIdx index
      requestQueue := s.requestQueue ++ [⟨type, false⟩] }

def Departure.aborted (d : Departure) : Departure :=
  match d.phase with
  | .aborting (count + 1) => { d with phase := .aborting count }
  | _ => d

def aborted (s : LifeCycle) (index : Nat) : LifeCycle :=
  { s with departures := s.departures.modify index Departure.aborted }

def transact (t : Transaction) : LifeCycle :=
  match t.phase with
  | .updating => { s with transaction := some ⟨t.holder, .publishing⟩ }
  | .publishing =>
    { s with
      transaction := some ⟨t.holder, .committing⟩
      requestQueue := s.requestQueue ++ t.holder.request.toList }
  | .committing =>
    let committed := { s with transaction := none, status := t.holder.status }
    match t.holder with
    | .departure index => committed.aborted index
    | _ => committed

def proceed : Section → LifeCycle
  | .reading =>
    if s.status = .prepare then { s with inSection := some .resolving }
    else { s with inSection := none }
  | .preparing [] => { s with inSection := some (.updating .full) }
  | .assigning target =>
    { s with inSection := some (.saving target), running := s.running.insert target }
  | .saving target =>
    { s with
      inSection := some (.updating .assigned)
      rows := s.rows ++ [⟨s.nextId, target⟩]
      nextId := s.nextId + 1 }
  | .listing request =>
    { s with inSection := some (.calling request (s.rows.map fun row => ⟨row, .asked⟩)) }
  | .calling request calls =>
    if ∀ call ∈ calls, call.phase = .settled then
      { s with inSection := request.outcome.map .updating }
    else s
  | .updating outcome =>
    -- the statement waits for the lock of the row
    if s.transaction = none then
      { s with status := outcome.status, inSection := some .publishing }
    else s
  | .publishing => { s with inSection := none }
  | .resolving | .preparing (_ :: _) => s

/-- The argument for the first candidate is made; otherwise the next one is tried. -/
def prepare (made : Bool) : Section → LifeCycle
  | .preparing (target :: rest) =>
    if made then { s with inSection := some (.assigning target) }
    else
      { s with
        inSection := some (.preparing rest)
        givingUp := s.givingUp ++ [target] }
  | _ => s

def callDone (index : Nat) : Section → LifeCycle
  | .calling request calls =>
    match calls[index]? with
    | none => s
    | some call =>
      let settle (phase : CallPhase) : Option Section :=
        some (.calling request (calls.set index ⟨call.row, phase⟩))
      match call.phase, request.type with
      | .asked, .shutdown =>
        { s with
          inSection := settle .removing
          running := s.running.filter fun identity => identity ≠ call.row.targetIdentity }
      | .asked, _ => { s with inSection := settle .settled }
      | .removing, _ =>
        { s with
          inSection := settle .settled
          rows := s.rows.filter fun row => row.id ≠ call.row.id }
      | .settled, _ => s
  | _ => s

/-- `processLeaved`. -/
def depart (index : Nat) (d : Departure) : LifeCycle :=
  match d.phase with
  | .listing =>
    let assigned := s.rows.countP fun row => row.targetIdentity = d.identity
    let count := if d.identity.type = typeGameRunner2 then assigned else 0
    { s with departures := s.departures.set index ⟨d.identity, .aborting count⟩ }
  | .aborting 0 =>
    { s with
      departures := s.departures.set index ⟨d.identity, .left⟩
      rows := s.rows.filter fun row => row.targetIdentity ≠ d.identity }
  | .aborting (_ + 1) =>
    if s.transaction = none ∧ ended s.status then s.aborted index
    else s.lock ended (.departure index)
  | .left => s

def step : Event → LifeCycle
  | .stopInstance => s.mark (fun status => status ≠ .closing ∧ status ≠ .closed) .closing
  | .pauseInstance => s.mark (fun status => status = .running) .pausing
  | .resumeInstance => s.mark (fun status => status = .paused) .resuming
  | .boot => { s with bootQueue := s.bootQueue + 1 }
  | .shutdown => s.lock (fun status => status = .closed ∨ status = .error) .shutdown
  | .abort => s.lock ended .abort
  | .pause => s.announce .pause .pausing
  | .resume => s.announce .resume .resuming
  | .announced index => s.enqueue index
  | .transaction => s.transaction.elim s s.transact
  | .takeBoot =>
    match s.inSection, s.bootQueue with
    | none, count + 1 => { s with bootQueue := count, inSection := some .reading }
    | _, _ => s
  | .takeRequest =>
    match s.inSection, s.requestQueue with
    | none, request :: rest =>
      { s with requestQueue := rest, inSection := some (.listing request) }
    | _, _ => s
  | .resolved candidates =>
    if s.inSection = some .resolving then { s with inSection := some (.preparing candidates) }
    else s
  | .prepared made => s.inSection.elim s (s.prepare made)
  | .done => s.inSection.elim s s.proceed
  | .rowDone index => s.inSection.elim s (s.callDone index)
  | .leaves identity =>
    { s with
      running := s.running.filter fun running => running ≠ identity
      departures := s.departures ++ [⟨identity, .listing⟩] }
  | .departure index => s.departures[index]?.elim s (s.depart index)
  | .givenUp index =>
    match s.givingUp[index]? with
    | none => s
    | some identity =>
      { s with
        givingUp := s.givingUp.eraseIdx index
        running := s.running.filter fun running => running ≠ identity }

def created : LifeCycle := ⟨.prepare, none, [], 0, [], [], 0, [], none, [], []⟩

/-- The states that no transition leaves. -/
def Terminal (status : InstanceState) : Prop := status = .closed ∨ status = .error

instance (status : InstanceState) : Decidable (Terminal status) :=
  inferInstanceAs (Decidable (_ ∨ _))

/-- A status that is terminal after a part of the run is the status at its end. -/
def Final (events : List Event) : Prop :=
  ∀ front, front <+: events → Terminal (Run.final step created front).status →
    (Run.final step created events).status = (Run.final step created front).status

def CarriesOut (event : Event) : Prop :=
  event = .transaction ∧ ∃ t ∈ s.transaction, t.phase = .committing

/-- Nothing is queued or handled, and the processes that have left are dealt with. -/
def Drained : Prop :=
  s.bootQueue = 0 ∧ s.requestQueue = [] ∧ s.inSection = none ∧
    ∀ d ∈ s.departures, d.phase = .left

/-- Nothing runs and nothing is assigned at the end, if something has ended the instance. -/
def Ends (events : List Event) : Prop :=
  ∀ front event, front ++ [event] <+: events → CarriesOut (Run.final step created front) event →
    Drained (Run.final step created events) →
    (Run.final step created events).running = [] ∧ (Run.final step created events).rows = []

/-- No request is queued, or about to be, that writes a status. -/
def Unrequested : Prop :=
  s.announced = [] ∧ ∀ request ∈ s.requestQueue, request.isErrorRecovery = true

/-- The handling has come so far that it writes a status which no abort sets. -/
def Section.Commits : Section → Prop
  | .saving _ => True
  | .listing request | .calling request _ => request.isErrorRecovery = false
  | .updating outcome => outcome.status ≠ .error
  | .reading | .resolving | .preparing _ | .assigning _ | .publishing => False

instance decidableCommits : ∀ handled : Section, Decidable handled.Commits
  | .saving _ => isTrue trivial
  | .listing request | .calling request _ =>
    inferInstanceAs (Decidable (request.isErrorRecovery = false))
  | .updating outcome => inferInstanceAs (Decidable (outcome.status ≠ .error))
  | .reading | .resolving | .preparing _ | .assigning _ | .publishing => isFalse id

instance (s : LifeCycle) : Decidable (Unrequested s) :=
  inferInstanceAs (Decidable (_ ∧ ∀ request ∈ s.requestQueue, _))

/-- No process comes to run an instance in error; a boot that finds no process leaves no shutdown
behind, and a shutdown no pause. -/
def Section.Apart : Section → Prop
  | .assigning _ => s.status ≠ .error
  | .updating outcome => s.transaction = none →
      (outcome.status = .error → Unrequested s) ∧
        (outcome.status = .closed →
          s.announced = [] ∧ ∀ request ∈ s.requestQueue, request.type = .shutdown)
  | .reading | .resolving | .preparing _ | .saving _ | .listing _ | .calling _ _
  | .publishing => True

instance decidableSectionApart (s : LifeCycle) : ∀ handled : Section, Decidable (handled.Apart s)
  | .assigning _ => inferInstanceAs (Decidable (s.status ≠ .error))
  | .updating outcome =>
    inferInstanceAs (Decidable (s.transaction = none →
      (outcome.status = .error → Unrequested s) ∧
        (outcome.status = .closed →
          s.announced = [] ∧ ∀ request ∈ s.requestQueue, request.type = .shutdown)))
  | .reading | .resolving | .preparing _ | .saving _ | .listing _ | .calling _ _
  | .publishing => isTrue trivial

/-- When an abort commits, nothing is under way that writes another status; no instance in error
is stopped; and where the rows of a process that has left are removed, it does not run the
instance again. -/
def Apart (s : LifeCycle) : Event → Prop
  | .stopInstance => s.status ≠ .error
  | .transaction => ∀ t ∈ s.transaction, t.phase = .committing → t.holder ≠ .shutdown →
      Unrequested s ∧ ∀ handled ∈ s.inSection, ¬ handled.Commits
  | .done => ∀ handled ∈ s.inSection, handled.Apart s
  | .departure index => ∀ d ∈ s.departures[index]?, d.phase = .aborting 0 →
      d.identity ∉ s.running
  | _ => True

instance decidableApart (s : LifeCycle) : ∀ event : Event, Decidable (Apart s event)
  | .stopInstance => inferInstanceAs (Decidable (s.status ≠ .error))
  | .transaction =>
    inferInstanceAs (Decidable (∀ t ∈ s.transaction, t.phase = .committing →
      t.holder ≠ .shutdown → Unrequested s ∧ ∀ handled ∈ s.inSection, ¬ handled.Commits))
  | .done => inferInstanceAs (Decidable (∀ handled ∈ s.inSection, handled.Apart s))
  | .departure index =>
    inferInstanceAs (Decidable (∀ d ∈ s.departures[index]?, d.phase = .aborting 0 →
      d.identity ∉ s.running))
  | .pauseInstance | .resumeInstance | .boot | .shutdown | .abort | .pause | .resume
  | .announced _ | .takeBoot | .takeRequest | .resolved _ | .prepared _ | .rowDone _
  | .leaves _ | .givenUp _ => isTrue trivial

end LifeCycle
end AkashicSystem.ClusterMaster
