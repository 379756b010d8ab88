import AkashicSystem.Dispatching.Dispatcher
import AkashicSystem.Js.PlainObject

/-!
# The sessions of a playlog server

`SessionManager`, with the handlers of `Application` and the dispatches that
reach the server.  A reservation has a timer; the timers are kept apart from the
table that refers to them, for a timer that is overwritten there runs on.
-/

set_option autoImplicit false

namespace AkashicSystem.PlaylogServer

open AkashicSystem.Dispatching

structure Timer where
  id : Nat
  playId : String
  token : String
deriving DecidableEq

def Timer.isFor (timer : Timer) (playId token : String) : Bool :=
  timer.playId = playId && timer.token = token

/-- What `_reserved[playId][token]` is, if it is truthy. -/
inductive Reservation where
  | timer (timer : Timer)
  /-- A property that the object of the play inherits, or one of an inherited object. -/
  | inherited
deriving DecidableEq

structure SessionManager where
  limit : Nat
  /-- The own properties `_reserved[playId][token]`; the object of a play is there while it
  has one. -/
  reserved : List Timer
  /-- The timers that have neither fired nor been cleared. -/
  timers : List Timer
  nextTimer : Nat
  /-- `_started`: the ids of the sessions with the plays they were dispatched for. -/
  started : List (String × String)

inductive SessionEvent where
  | reserve (playId : String)
  | timeout (playId : String)
  | start (playId : String)
  | «end» (playId : String)
  | limit (playId : String)
  | deny (playId : String)

namespace SessionManager

def new (limit : Nat) : SessionManager := ⟨limit, [], [], 0, []⟩

variable (m : SessionManager)

def deleteReservation (playId token : String) : SessionManager :=
  { m with reserved := m.reserved.filter fun timer => !timer.isFor playId token }

def timer? (playId token : String) : Option Timer :=
  m.reserved.find? fun timer => timer.isFor playId token

def inherits (playId token : String) : Bool :=
  (m.reserved.any (fun timer => timer.playId = playId) && (Js.inherited token).isSome) ||
    Js.inheritsAt playId token

def reservation (playId token : String) : Option Reservation :=
  match m.timer? playId token with
  | some timer => some (.timer timer)
  | none => if m.inherits playId token then some .inherited else none

def clearTimeout : Reservation → SessionManager
  | .timer timer => { m with timers := m.timers.filter fun pending => pending.id ≠ timer.id }
  -- what is inherited is no timer
  | .inherited => m

/-- The play id is not inherited, and the token is not `__proto__`. -/
def reserve (m : SessionManager) (playId token : String) : SessionManager × SessionEvent :=
  let timer : Timer := ⟨m.nextTimer, playId, token⟩
  let m := m.deleteReservation playId token
  ({ m with
    reserved := m.reserved ++ [timer]
    timers := m.timers ++ [timer]
    nextTimer := m.nextTimer + 1 }, .reserve playId)

def onTimeout (timer : Timer) : SessionManager × SessionEvent :=
  ((m.clearTimeout (.timer timer)).deleteReservation timer.playId timer.token,
    .timeout timer.playId)

def start (m : SessionManager) (playId token sessionId : String) :
    SessionManager × SessionEvent × Bool :=
  match m.reservation playId token with
  | none => (m, .deny playId, false)
  | some found =>
    let m := (m.clearTimeout found).deleteReservation playId token
    if m.started.length ≥ m.limit then (m, .limit playId, false)
    else
      ({ m with
        started := (m.started.filter fun info => info.1 ≠ sessionId) ++ [(sessionId, playId)] },
        .start playId, true)

def endBySession (sessionId : String) : SessionManager × Option SessionEvent :=
  match m.started.find? fun info => info.1 = sessionId with
  | none => (m, none)
  | some info =>
    ({ m with started := m.started.filter fun info => info.1 ≠ sessionId },
      some (.«end» info.2))

end SessionManager

/-- The server, the process of the dispatcher that it is, and what is in progress. -/
structure Server where
  processId : String
  dispatches : Pool DispatchingRedis Task
  manager : SessionManager
  /-- The plays and tokens of requests that their dispatch has given up and that may
  still arrive. -/
  requests : List (String × String)
  /-- The sessions with a `close` listener that ends them, once for each listener. -/
  closeListeners : List String
  closed : List String

namespace Server

variable (w : Server)

/-- `_handleSessionManager`: the capacity is given back when a session has ended
and when a reservation has timed out. -/
def handle : SessionEvent → Server
  | .«end» playId | .timeout playId =>
    { w with
      dispatches.threads :=
        w.dispatches.threads ++ [.giveBack (.new w.processId playId)] }
  | .reserve _ | .start _ | .limit _ | .deny _ => w

def onTimeout (w : Server) (timer : Timer) : Server :=
  let (manager, event) := w.manager.onTimeout timer
  { w with manager := manager }.handle event

/-- A `close` listener of a session. -/
def endBySession (w : Server) (sessionId : String) : Server :=
  match w.manager.endBySession sessionId with
  | (_, none) => w
  | (manager, some event) => { w with manager := manager }.handle event

/-- The handler of `close`: the listeners are called and removed. -/
def onClose (sessionId : String) : Server :=
  let w := (w.closeListeners.filter fun id => id = sessionId).foldl endBySession w
  { w with
    closeListeners := w.closeListeners.filter fun id => id ≠ sessionId
    closed := sessionId :: w.closed }

/-- The handler of `validation-request`; a closed session has no listeners. -/
def onValidationRequest (sessionId playId token : String) : Server :=
  if sessionId ∈ w.closed then w
  else if playId = "" || token = "" then w
  else
    match w.manager.start playId token sessionId with
    | (manager, event, ok) =>
      let w := { w with manager := manager }.handle event
      if ok then { w with closeListeners := w.closeListeners ++ [sessionId] } else w

def requesting (processId : String) (d : Dispatch) : Bool :=
  match d.phase with
  | .reserveEndpoint id _ => id = processId
  | _ => false

def reserve (w : Server) (playId token : String) : Server :=
  let (manager, event) := w.manager.reserve playId token
  { w with manager := manager }.handle event

inductive Action where
  | dispatch (playId playToken : String) (forceProcessId : Option String)
  | giveBack (processId playId : String)
  | step (index : Nat) (answer : Dispatching.Answer)
  | arrive (index : Nat)
  | lose (index : Nat)
  | timeout (timer : Timer)
  | validationRequest (sessionId playId token : String)
  | close (sessionId : String)

def receive (task : Task) (answer : Dispatching.Answer) : Server :=
  match task, answer with
  | .dispatch d, .reserved =>
    if requesting w.processId d then w.reserve d.playId d.playToken else w
  | .dispatch d, .unanswered =>
    if requesting w.processId d then
      { w with requests := w.requests ++ [(d.playId, d.playToken)] }
    else w
  | _, _ => w

def advance (shuffleProcessCount : Nat) (w : Server) (index : Nat)
    (answer : Dispatching.Answer) : Server :=
  let dispatches := w.dispatches.step (Task.next shuffleProcessCount) (.step index answer)
  match w.dispatches.threads[index]? with
  | none => w
  | some task => { w with dispatches := dispatches }.receive task answer

def arrive (index : Nat) : Server :=
  match w.requests[index]? with
  | none => w
  | some (playId, token) =>
    { w with requests := w.requests.eraseIdx index }.reserve playId token

def spawn (task : Task) : Server :=
  { w with dispatches.threads := w.dispatches.threads ++ [task] }

def step (shuffleProcessCount : Nat) (w : Server) : Action → Server
  | .dispatch playId playToken forceProcessId =>
    w.spawn (.dispatch (.new playId playToken forceProcessId))
  | .giveBack processId playId =>
    if processId = w.processId then w else w.spawn (.giveBack (.new processId playId))
  | .step index answer => w.advance shuffleProcessCount index answer
  | .arrive index => w.arrive index
  | .lose index => { w with requests := w.requests.eraseIdx index }
  | .timeout timer => if timer ∈ w.manager.timers then w.onTimeout timer else w
  | .validationRequest sessionId playId token => w.onValidationRequest sessionId playId token
  | .close sessionId => if sessionId ∈ w.closed then w else w.onClose sessionId

/-- A server that has assigned its capacity, beside any other processes. -/
def new (processId : String) (maxClients : Nat) (capacities : SortedSet)
    (clients : String → SortedSet) : Server :=
  { processId := processId
    dispatches :=
      ⟨⟨(processId, maxClients) :: capacities.filter fun entry => entry.1 ≠ processId, clients,
        [], [], []⟩, []⟩
    manager := .new maxClients
    requests := []
    closeListeners := []
    closed := [] }

def Idle : Prop :=
  w.requests = [] ∧ ∀ task ∈ w.dispatches.threads, task.Finished

instance (w : Server) : Decidable w.Idle :=
  inferInstanceAs (Decidable (w.requests = [] ∧ ∀ task ∈ w.dispatches.threads, task.Finished))

def accounted : Int :=
  w.dispatches.state.capacity w.processId + w.manager.reserved.length + w.manager.started.length

end Server
end AkashicSystem.PlaylogServer
