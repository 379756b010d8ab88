import AkashicSystem.Lib.Run
import Mathlib.Logic.Function.Basic
import Mathlib.Data.List.Basic

/-!
# The controller of the cluster master

Controllers that candidate for the master seat, a znode that its creator's session
owns.  A request goes to ZooKeeper, which serves it, and comes back as a reply or as
an error; what the controller does then is a function of its state and of the request.
-/

set_option autoImplicit false

namespace AkashicSystem.ClusterMaster

inductive MasterStatus where
  | notMaster
  | reChecking
  | master
  | fatal
  | subMaster
deriving DecidableEq

/-- `Exception.getCode`. -/
inductive Code where
  | connectionLoss
  | operationTimeout
  | nodeExists
  | noNode
  | badVersion
  | sessionExpired
deriving DecidableEq

def Code.isLoss : Code → Bool
  | .connectionLoss | .operationTimeout => true
  | .nodeExists | .noNode | .badVersion | .sessionExpired => false

inductive Caller where
  /-- The caller of `tryGetMasterPost`, or nobody. -/
  | post
  /-- The `catch` of the watcher that watches again. -/
  | watcher
deriving DecidableEq

/-- Who awaits `checkMaster`. -/
inductive Checker where
  | candidature (caller : Caller)
  | reconnection
deriving DecidableEq

inductive Request where
  /-- `_tryGetMasterPost` creates the seat. -/
  | create (caller : Caller) (data : String)
  /-- `checkMaster` looks for the seat. -/
  | check (checker : Checker) (retryCount : Nat)
  /-- `doSubMaster` looks for the seat and watches it. -/
  | watch (caller : Caller)
  /-- `demoteMasterPost` looks for the seat. -/
  | demoteExists
  /-- `demoteMasterPost` removes it. -/
  | demoteRemove (version : Nat)
deriving DecidableEq

def maxRetryCount : Nat := 5

section

variable {Session : Type}

structure Node (Session : Type) where
  /-- `ephemeralOwner`. -/
  owner : Session
  czxid : Nat
  version : Nat
  data : String
deriving DecidableEq

def Node.cversion (_ : Node Session) : Nat := 0

inductive Reply (Session : Type) where
  | ok
  | stat (seat : Option (Node Session))
  | error (code : Code)
deriving DecidableEq

/-- A request, and its reply once ZooKeeper has served it or the client gave it up. -/
structure Sent (Session : Type) where
  request : Request
  reply : Option (Reply Session)
deriving DecidableEq

inductive Event where
  | nodeDeleted
  | nodeCreated
  | nodeDataChanged
  | nodeChildrenChanged

inductive State where
  | expired
  | authFailed
deriving DecidableEq

structure Controller (Session : Type) where
  masterStatus : MasterStatus
  endPoint : Option String
  connected : Bool
  closed : Bool
  requests : List (Sent Session)
  watchers : List (Option (Node Session))

namespace Controller

def new : Controller Session := ⟨.notMaster, none, false, false, [], []⟩

variable (c : Controller Session)

def isMaster : Bool := c.masterStatus = .master

def setMasterStatus (newStatus : MasterStatus) : Controller Session :=
  { c with masterStatus := newStatus }

def send (request : Request) : Controller Session :=
  let reply := if c.closed then some (.error .sessionExpired) else none
  { c with requests := c.requests ++ [⟨request, reply⟩] }

/-- A rejection of `_tryGetMasterPost` or `doSubMaster`. -/
def rejected : Caller → Controller Session
  | .post => c
  | .watcher => c.setMasterStatus .fatal

def tryGetMasterPostInner (caller : Caller) : Controller Session :=
  if c.masterStatus = .fatal then c
  else
    match c.endPoint with
    | none => c.rejected caller
    | some endPoint => c.send (.create caller endPoint)

def doSubMaster (caller : Caller) : Controller Session :=
  c.send (.watch caller)

def runAsSubMaster (caller : Caller) : Controller Session :=
  if c.masterStatus ≠ .notMaster ∧ c.masterStatus ≠ .subMaster then c
  else (c.setMasterStatus .subMaster).doSubMaster caller

def checked (checker : Checker) (result : Bool) : Controller Session :=
  match checker with
  | .candidature caller => if result then c else c.runAsSubMaster caller
  | .reconnection => c.setMasterStatus (if result then .master else .fatal)

def checkFailed : Checker → Controller Session
  | .candidature caller => c.rejected caller
  | .reconnection => c.setMasterStatus .fatal

def checkMaster (checker : Checker) : Controller Session :=
  if c.endPoint = none ∨ c.masterStatus = .notMaster ∨ c.masterStatus = .fatal then
    c.checked checker false
  else c.send (.check checker 0)

def tryGetMasterPost (myEndpoint : String) : Controller Session :=
  match c.endPoint with
  | some _ => c
  | none => { c with endPoint := some myEndpoint }.tryGetMasterPostInner .post

def demoteMasterPost : Controller Session :=
  if c.masterStatus ≠ .master then c else c.send .demoteExists

def onConnected : Controller Session :=
  let c := { c with connected := true }
  if c.masterStatus = .reChecking then c.checkMaster .reconnection else c

def Sent.lost (sent : Sent Session) : Sent Session :=
  { sent with reply := some (.error .connectionLoss) }

def onDisconnected : Controller Session :=
  let c := { c with connected := false, requests := c.requests.map Sent.lost }
  if c.masterStatus = .master then c.setMasterStatus .reChecking else c

def Sent.closed (sent : Sent Session) : Sent Session :=
  { sent with reply := some (.error .sessionExpired) }

/-- The client closes, on `EXPIRED` and `AUTH_FAILED` alike. -/
def onState (_ : State) : Controller Session :=
  { c with connected := false, closed := true, requests := c.requests.map Sent.closed }
    |>.setMasterStatus .fatal

def onEvent : Event → Controller Session
  | .nodeDeleted => c.tryGetMasterPostInner .post
  | .nodeCreated | .nodeDataChanged | .nodeChildrenChanged => c.doSubMaster .watcher

variable [DecidableEq Session]

/-- What the callback of a request goes on with, for the controller of a session. -/
def replied (c : Controller Session) (sessionId : Session) :
    Request → Reply Session → Controller Session
  | .create _ _, .ok =>
    if c.masterStatus = .fatal then c else c.setMasterStatus .master
  | .create caller _, .error code =>
    if code.isLoss then c.checkMaster (.candidature caller)
    else if code = .nodeExists then c.runAsSubMaster caller
    else c.rejected caller
  | .check checker _, .stat none => c.checked checker false
  | .check checker _, .stat (some node) => c.checked checker (node.owner = sessionId)
  | .check checker retryCount, .error code =>
    if code.isLoss ∧ retryCount + 1 < maxRetryCount then
      c.send (.check checker (retryCount + 1))
    else c.checkFailed checker
  | .watch caller, .stat seat =>
    let c := { c with watchers := c.watchers ++ [seat] }
    if seat = none then c.tryGetMasterPostInner caller else c
  | .watch caller, .error code =>
    if code.isLoss then c.doSubMaster caller else c.rejected caller
  | .demoteExists, .stat (some node) => c.send (.demoteRemove node.cversion)
  | .demoteRemove _, .ok => c.setMasterStatus .fatal
  | _, _ => c

end Controller

/-- ZooKeeper and the controllers, each with its session. -/
structure World (Session : Type) where
  seat : Option (Node Session)
  zxid : Nat
  alive : Session → Bool
  controllers : Session → Controller Session

inductive Action (Session : Type) where
  | tryGetMasterPost (sessionId : Session) (myEndpoint : String)
  | demoteMasterPost (sessionId : Session)
  | disconnected (sessionId : Session)
  | connected (sessionId : Session)
  | state (sessionId : Session) (state : State)
  | expire (sessionId : Session)
  | serve (sessionId : Session) (index : Nat)
  | reply (sessionId : Session) (index : Nat)
  | timeout (sessionId : Session) (index : Nat)
  | event (sessionId : Session) (index : Nat) (event : Event)
  | setData (data : String)

namespace World

variable [DecidableEq Session]

def new : World Session := ⟨none, 0, fun _ => true, fun _ => .new⟩

def set (w : World Session) (sessionId : Session) (c : Controller Session) : World Session :=
  { w with controllers := Function.update w.controllers sessionId c }

def commit (w : World Session) (seat : Option (Node Session)) : World Session :=
  { w with seat := seat, zxid := w.zxid + 1 }

/-- Whether the session has the seat. -/
def Owns (w : World Session) (sessionId : Session) : Prop :=
  ∃ node ∈ w.seat, node.owner = sessionId

instance (w : World Session) (sessionId : Session) : Decidable (w.Owns sessionId) :=
  inferInstanceAs (Decidable (∃ node ∈ w.seat, node.owner = sessionId))

def serve (w : World Session) (sessionId : Session) :
    Request → Option (Node Session) × Reply Session
  | .create _ data =>
    match w.seat with
    | none => (some ⟨sessionId, w.zxid, 0, data⟩, .ok)
    | some node => (some node, .error .nodeExists)
  | .check _ _ | .watch _ | .demoteExists => (w.seat, .stat w.seat)
  | .demoteRemove version =>
    match w.seat with
    | none => (none, .error .noNode)
    | some node =>
      if node.version = version then (none, .ok) else (some node, .error .badVersion)

/-- A watcher has an event to come; an ephemeral node has no children. -/
def Changed (w : World Session) (seen : Option (Node Session)) : Event → Prop
  | .nodeCreated => seen = none ∧ w.seat ≠ none
  | .nodeDeleted =>
    ∃ node ∈ seen, w.seat.map Node.czxid ≠ some node.czxid
  | .nodeDataChanged => seen ≠ none ∧ w.seat ≠ seen
  | .nodeChildrenChanged => False

instance (w : World Session) (seen : Option (Node Session)) : DecidablePred (w.Changed seen)
  | .nodeCreated => inferInstanceAs (Decidable (seen = none ∧ w.seat ≠ none))
  | .nodeDeleted =>
    inferInstanceAs (Decidable (∃ node ∈ seen, w.seat.map Node.czxid ≠ some node.czxid))
  | .nodeDataChanged => inferInstanceAs (Decidable (seen ≠ none ∧ w.seat ≠ seen))
  | .nodeChildrenChanged => inferInstanceAs (Decidable False)

def deliver (w : World Session) (sessionId : Session) (index : Nat) (request : Request)
    (reply : Reply Session) : World Session :=
  let c := w.controllers sessionId
  w.set sessionId
    ({ c with requests := c.requests.eraseIdx index }.replied sessionId request reply)

def step (w : World Session) : Action Session → World Session
  | .tryGetMasterPost sessionId myEndpoint =>
    w.set sessionId ((w.controllers sessionId).tryGetMasterPost myEndpoint)
  | .demoteMasterPost sessionId => w.set sessionId (w.controllers sessionId).demoteMasterPost
  | .disconnected sessionId =>
    if (w.controllers sessionId).connected then
      w.set sessionId (w.controllers sessionId).onDisconnected
    else w
  | .connected sessionId =>
    let c := w.controllers sessionId
    if ¬c.connected ∧ ¬c.closed ∧ w.alive sessionId then w.set sessionId c.onConnected else w
  | .state sessionId state =>
    let c := w.controllers sessionId
    -- The client hears that its session has expired when it tries to connect again.
    if state = .expired ∧ (c.connected ∨ w.alive sessionId) then w
    else w.set sessionId (c.onState state)
  | .expire sessionId =>
    if (w.controllers sessionId).connected then w
    else
      { w with
        seat := w.seat.filter fun node => node.owner ≠ sessionId
        alive := Function.update w.alive sessionId false }
  | .serve sessionId index =>
    let c := w.controllers sessionId
    match c.requests[index]? with
    | some ⟨request, none⟩ =>
      if c.connected then
        let served := w.serve sessionId request
        (w.set sessionId { c with requests := c.requests.set index ⟨request, some served.2⟩ })
          |>.commit served.1
      else w
    | _ => w
  | .reply sessionId index =>
    match (w.controllers sessionId).requests[index]? with
    | some ⟨request, some reply⟩ => w.deliver sessionId index request reply
    | _ => w
  | .timeout sessionId index =>
    match (w.controllers sessionId).requests[index]? with
    | some ⟨request, _⟩ => w.deliver sessionId index request (.error .operationTimeout)
    | none => w
  | .event sessionId index event =>
    let c := w.controllers sessionId
    match c.watchers[index]? with
    | some seen =>
      if c.connected ∧ w.Changed seen event then
        w.set sessionId ({ c with watchers := c.watchers.eraseIdx index }.onEvent event)
      else w
    | none => w
  | .setData data =>
    { w with
      seat := w.seat.map fun node => { node with version := node.version + 1, data := data } }

section

variable (w : World Session) (sessionId : Session) (c : Controller Session)

include w sessionId c

@[simp]
theorem set_seat :
    (w.set sessionId c).seat = w.seat := rfl

@[simp]
theorem set_alive :
    (w.set sessionId c).alive = w.alive := rfl

@[simp]
theorem set_same :
    (w.set sessionId c).controllers sessionId = c := Function.update_self ..

end

theorem set_other (w : World Session) (sessionId other : Session) (c : Controller Session)
    (ne : other ≠ sessionId) : (w.set sessionId c).controllers other = w.controllers other :=
  Function.update_of_ne ne ..

omit [DecidableEq Session] in
@[simp]
theorem commit_controllers (w : World Session) (seat : Option (Node Session)) :
    (w.commit seat).controllers = w.controllers := rfl

omit [DecidableEq Session] in
@[simp]
theorem commit_seat (w : World Session) (seat : Option (Node Session)) :
    (w.commit seat).seat = seat := rfl

omit [DecidableEq Session] in
@[simp]
theorem commit_alive (w : World Session) (seat : Option (Node Session)) :
    (w.commit seat).alive = w.alive := rfl

end World

end

end AkashicSystem.ClusterMaster
