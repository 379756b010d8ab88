import AkashicSystem.PlaylogServer.SessionAuthentication
import Mathlib.Logic.Function.Basic

/-!
# The pushes of a client

`Client` of playlog-server-engine over its AMFlow: an authentication takes down
what the one before has installed, and when it calls back, installs the listeners
of the pipes and the handlers of the AMFlow that the permission allows.  The AMFlow
consumes for the client through the holder that `PlaylogHandler` has of the play.
-/

set_option autoImplicit false

namespace AkashicSystem.PlaylogServer
namespace EnginePushes

open AkashicSystem.Js AMFlow
open SessionAuthentication (Reply)

inductive Pipe where
  | primary
  | secondary
deriving DecidableEq

inductive Kind where
  | event
  | tick
deriving DecidableEq

structure AssignedPushPipes where
  sendTick : Option Pipe
  subscribeTick : Option Pipe
  sendEvent : Option Pipe
  subscribeEvent : Option Pipe

def assign (permission : Permission) : AssignedPushPipes where
  subscribeTick := if permission.writeTick then some .primary else none
  subscribeEvent :=
    if permission.sendEvent then
      if permission.writeTick then some .secondary else some .primary
    else none
  sendTick := if permission.subscribeTick then some .primary else none
  sendEvent :=
    if permission.subscribeEvent then
      if permission.subscribeTick then some .secondary else some .primary
    else none

/-- Which of the bound handlers of the AMFlow an `AMQPHolder` has. -/
structure PlayHolder where
  tick : Bool
  event : Bool
deriving DecidableEq

/-- `PlaylogHandler`, for one play.  A holder that was given up is closed in the background
and may consume for a while. -/
structure PlaylogEntry where
  holders : List PlayHolder
  /-- `_amqpHolders[playId]`. -/
  current : Option Nat
  /-- How often the AMFlow is in `_clients[playId]`, and how many others are there. -/
  own : Nat
  others : Nat

namespace PlaylogEntry

def start (others : Nat) : PlaylogEntry :=
  if others = 0 then ⟨[], none, 0, 0⟩ else ⟨[⟨false, false⟩], some 0, 0, others⟩

def close (p : PlaylogEntry) : PlaylogEntry :=
  if p.own = 0 ∧ p.others = 0 then p
  else
    let p := { p with own := p.own - 1 }
    if p.own = 0 ∧ p.others = 0 then { p with current := none } else p

def prepare (p : PlaylogEntry) : PlaylogEntry :=
  let p := { p with own := p.own + 1 }
  match p.current with
  | some _ => p
  | none => { p with holders := p.holders ++ [⟨false, false⟩], current := some p.holders.length }

def modify (p : PlaylogEntry) (f : PlayHolder → PlayHolder) : PlaylogEntry :=
  match p.current with
  | none => p
  | some number => { p with holders := p.holders.modify number f }

/-- The connection of a holder could not be made: the holder is destroyed. -/
def error (p : PlaylogEntry) (number : Nat) : PlaylogEntry :=
  { p with holders := p.holders.modify number fun _ => ⟨false, false⟩, current := none }

end PlaylogEntry

/-- What an `authenticate` waits for: the handler to close, the validator, or the promises of
`prepare` and of `acquireWriteLock`.  `created` is the holder that `prepare` has made. -/
inductive Authenticating where
  | releasing
  | validating
  | granting (ref : Ref) (created : Option Nat) (preparing locking failed : Bool)
  | done
deriving DecidableEq

structure EngineClient where
  amflow : AMFlow
  playlog : PlaylogEntry
  assigned : Option AssignedPushPipes
  /-- What the `push` listeners of the incoming pipes do. -/
  listeners : Pipe → List Kind
  authentications : List Authenticating
  /-- The permission of the authentication that has called back, as long as none failed or was
  asked for after it. -/
  granted : Option Permission
  /-- The calls of `sendRawEvent` and `sendRawTick`. -/
  passed : List (Kind × List UInt8)
  sent : List (Pipe × Kind × List UInt8)

namespace EngineClient

def start (others : Nat) : EngineClient :=
  ⟨.new, .start others, none, fun _ => [], [], none, [], []⟩

variable (s : EngineClient)

def onPlaylogTick (tick : List UInt8) : EngineClient :=
  match s.assigned.bind AssignedPushPipes.sendTick with
  | some pipe => { s with sent := s.sent ++ [(pipe, .tick, tick)] }
  | none => s

def onPlaylogEvent (event : List UInt8) : EngineClient :=
  match s.assigned.bind AssignedPushPipes.sendEvent with
  | some pipe => { s with sent := s.sent ++ [(pipe, .event, event)] }
  | none => s

def perform : Effect → EngineClient
  | .closePlaylog => { s with playlog := s.playlog.close }
  | .prepare => { s with playlog := s.playlog.prepare }
  | .consumeTick => { s with playlog := s.playlog.modify fun h => { h with tick := true } }
  | .offConsumeTick => { s with playlog := s.playlog.modify fun h => { h with tick := false } }
  | .consumeEvent => { s with playlog := s.playlog.modify fun h => { h with event := true } }
  | .offConsumeEvent => { s with playlog := s.playlog.modify fun h => { h with event := false } }
  | .onTick _ tick => s.onPlaylogTick tick
  | .onEvent _ event => s.onPlaylogEvent event
  | _ => s

def run (amflow : AMFlow) : EngineClient :=
  amflow.effects.foldl perform { s with amflow := { amflow with effects := [] } }

def listen (pipe : Option Pipe) (kind : Kind) : EngineClient :=
  match pipe with
  | some pipe =>
    { s with listeners := Function.update s.listeners pipe (s.listeners pipe ++ [kind]) }
  | none => s

def removeAllListeners (pipe : Option Pipe) : EngineClient :=
  match pipe with
  | some pipe => { s with listeners := Function.update s.listeners pipe [] }
  | none => s

def handleAssignedPushPipes (pipes : AssignedPushPipes) : EngineClient :=
  let s := s.listen pipes.subscribeEvent .event
  let s := s.listen pipes.subscribeTick .tick
  let s := if pipes.sendTick.isSome then s.run (s.amflow.onRawTick 0) else s
  if pipes.sendEvent.isSome then s.run (s.amflow.onRawEvent 0) else s

def unhandleAssignedPushPipes : EngineClient :=
  match s.assigned with
  | none => s
  | some pipes =>
    let s := s.removeAllListeners pipes.subscribeEvent
    let s := s.removeAllListeners pipes.subscribeTick
    let s := if pipes.sendTick.isSome then s.run (s.amflow.offRawTick 0) else s
    if pipes.sendEvent.isSome then s.run (s.amflow.offRawEvent 0) else s

def handleAuthenticateRequest : EngineClient :=
  let s := s.unhandleAssignedPushPipes
  let authenticating : Authenticating :=
    if s.amflow.playlogHandlerPrepared then .releasing else .validating
  let s := s.run s.amflow.authenticate
  { s with authentications := s.authentications ++ [authenticating], granted := none }

/-- `callback(null, permission)`; the token allows `own`. -/
def succeed (own : Permission) : EngineClient :=
  let pipes := assign s.amflow.permission
  { { s with assigned := some pipes }.handleAssignedPushPipes pipes with granted := some own }

def fail : EngineClient := { s with granted := none }

def setStage (index : Nat) (stage : Authenticating) : EngineClient :=
  { s with authentications := s.authentications.set index stage }

variable (holders : Ref → PlayTokenHolder)

/-- A promise of `Promise.all` has settled: with the last of them it is resolved. -/
def settle (s : EngineClient) (index : Nat) (ref : Ref) (created : Option Nat)
    (preparing locking failed : Bool) : EngineClient :=
  if preparing || locking then
    s.setStage index (.granting ref created preparing locking failed)
  else if failed then s.setStage index .done
  else (s.setStage index .done).succeed (holders ref).playToken.permission

def onValidated (s : EngineClient) (index : Nat) (ref : Ref) : EngineClient :=
  let permission := (holders ref).playToken.permission
  let created :=
    if permission.connects ∧ s.playlog.current = none then some s.playlog.holders.length else none
  (s.run (s.amflow.onValidated ref (holders ref))).settle holders index ref created
    permission.connects permission.writeTick false

def reply (s : EngineClient) (index : Nat) : Authenticating → Reply → EngineClient
  | .releasing, .resolved =>
    { s with amflow := { s.amflow with playlogHandlerPrepared := false } }.setStage index
      .validating
  | .releasing, .rejected => (s.setStage index .done).fail
  | .validating, .validated ref =>
    -- a token that is validated is not revoked
    if (holders ref).revoked then s else s.onValidated holders index ref
  | .validating, .rejected => (s.setStage index .done).fail
  | .granting ref created true locking failed, .prepared true =>
    { s with amflow := { s.amflow with playlogHandlerPrepared := true } }.settle holders index ref
      created false locking failed
  | .granting ref (some number) true locking failed, .prepared false =>
    let s := { s with playlog := s.playlog.error number }
    (if failed then s else s.fail).settle holders index ref (some number) false locking true
  | .granting ref created preparing true failed, .writeLocked true =>
    { s with amflow := { s.amflow with writeLocked := true } }.settle holders index ref created
      preparing false failed
  | .granting ref created preparing true failed, .writeLocked false =>
    (if failed then s else s.fail).settle holders index ref created preparing false true
  | _, _ => s

/-- Something happens to the client.  Ticks and events are those that a holder consumes. -/
inductive Action where
  | authenticate
  | reply (index : Nat) (reply : Reply)
  | push (pipe : Pipe) (data : List UInt8)
  | tick (holder : Nat) (tick : List UInt8)
  | event (holder : Nat) (event : List UInt8)

def step (s : EngineClient) : Action → EngineClient
  | .authenticate => s.handleAuthenticateRequest
  | .reply index reply =>
    match s.authentications[index]? with
    | some stage => s.reply holders index stage reply
    | none => s
  | .push pipe data =>
    { s with passed := s.passed ++ (s.listeners pipe).map fun kind => (kind, data) }
  | .tick number tick =>
    if (s.playlog.holders[number]?.map PlayHolder.tick).getD false then
      s.run (s.amflow.onBinaryTick holders tick)
    else s
  | .event number event =>
    if (s.playlog.holders[number]?.map PlayHolder.event).getD false then
      s.run (s.amflow.onBinaryEvent holders event)
    else s

end EngineClient

section Installed

variable (granted : Option Permission)

/-- Whether a permission that was granted has ticks (events) pushed to the client. -/
def subscribesTick : Bool :=
  (granted.map Permission.subscribeTick).getD false

def subscribesEvent : Bool :=
  (granted.map Permission.subscribeEvent).getD false

/-- As what the data of an incoming pipe are to be passed to the AMFlow. -/
def incoming (pipe : Pipe) : List Kind :=
  match granted with
  | none => []
  | some permission =>
    let pipes := assign permission
    (if pipes.subscribeEvent = some pipe then [.event] else []) ++
      if pipes.subscribeTick = some pipe then [.tick] else []

def ticksTo (tick : List UInt8) : List (Pipe × Kind × List UInt8) :=
  (granted.bind fun permission => (assign permission).sendTick).toList.map fun pipe =>
    (pipe, .tick, tick)

def eventsTo (event : List UInt8) :
    List (Pipe × Kind × List UInt8) :=
  (granted.bind fun permission => (assign permission).sendEvent).toList.map fun pipe =>
    (pipe, .event, event)

namespace EngineClient

variable (holders : Ref → PlayTokenHolder)

/-- The listeners of the pipes, and for ticks and for events whether the AMFlow has the client's
handler and is a handler of the play's holder. -/
structure Holds (ticks events : Bool) (pipes : Pipe → List Kind) (s : EngineClient) : Prop where
  listeners : s.listeners = pipes
  tickHandlers : s.amflow.tickHandlers = if ticks then [0] else []
  eventHandlers : s.amflow.eventHandlers = if events then [0] else []
  registered : ∀ number holder, s.playlog.holders[number]? = some holder →
    (holder.tick = true ↔ ticks = true ∧ s.playlog.current = some number) ∧
      (holder.event = true ↔ events = true ∧ s.playlog.current = some number)
  connected : ticks = true ∨ events = true → s.playlog.current.isSome
  inside : ∀ number, s.playlog.current = some number → number < s.playlog.holders.length
  alive : ∀ ref, s.amflow.tokenHolder = some ref → (holders ref).revoked = false
  effects : s.amflow.effects = []

variable {holders} {ticks events : Bool} {pipes : Pipe → List Kind} {s : EngineClient}

theorem perform_keeps (s : EngineClient) (effect : Effect) :
    (s.perform effect).amflow = s.amflow ∧ (s.perform effect).assigned = s.assigned ∧
      (s.perform effect).listeners = s.listeners ∧
      (s.perform effect).authentications = s.authentications ∧
      (s.perform effect).granted = s.granted ∧ (s.perform effect).passed = s.passed := by
  cases effect with
  | onTick handler tick =>
    rw [perform, onPlaylogTick]
    split <;> exact ⟨rfl, rfl, rfl, rfl, rfl, rfl⟩
  | onEvent handler event =>
    rw [perform, onPlaylogEvent]
    split <;> exact ⟨rfl, rfl, rfl, rfl, rfl, rfl⟩
  | _ => exact ⟨rfl, rfl, rfl, rfl, rfl, rfl⟩

theorem run_keeps (s : EngineClient) (amflow : AMFlow) :
    (s.run amflow).amflow = { amflow with effects := [] } ∧ (s.run amflow).assigned = s.assigned ∧
      (s.run amflow).listeners = s.listeners ∧
      (s.run amflow).authentications = s.authentications ∧ (s.run amflow).granted = s.granted ∧
      (s.run amflow).passed = s.passed := by
  unfold run
  generalize begun : ({ s with amflow := { amflow with effects := [] } } : EngineClient) = t
  have same : t.amflow = { amflow with effects := [] } ∧ t.assigned = s.assigned ∧
      t.listeners = s.listeners ∧ t.authentications = s.authentications ∧
      t.granted = s.granted ∧ t.passed = s.passed := by
    rw [← begun]
    exact ⟨rfl, rfl, rfl, rfl, rfl, rfl⟩
  clear begun
  revert t
  generalize ({ amflow with effects := [] } : AMFlow) = final
  induction amflow.effects with
  | nil => exact fun t same => same
  | cons effect rest ih =>
    intro t same
    obtain ⟨a, b, c, d, e, g⟩ := perform_keeps t effect
    rw [List.foldl_cons]
    apply ih
    rw [a, b, c, d, e, g]
    exact same

theorem run_none (amflow : AMFlow) (none : amflow.effects = []) :
    (s.run amflow).playlog = s.playlog := by
  unfold run
  rw [none]
  rfl

theorem run_modify (amflow : AMFlow) (effect : Effect) (f : PlayHolder → PlayHolder)
    (single : amflow.effects = [effect])
    (modifies : ∀ t : EngineClient, (t.perform effect).playlog = t.playlog.modify f) :
    (s.run amflow).playlog = s.playlog.modify f := by
  unfold run
  rw [single]
  exact modifies _

theorem modify_current (p : PlaylogEntry) (f : PlayHolder → PlayHolder) :
    (p.modify f).current = p.current ∧ (p.modify f).holders.length = p.holders.length := by
  unfold PlaylogEntry.modify
  cases current : p.current with
  | none => exact ⟨current, rfl⟩
  | some number => exact ⟨rfl, List.length_modify _ _ _⟩

theorem getElem?_modify (p : PlaylogEntry) (f : PlayHolder → PlayHolder) (number : Nat)
    (holder : PlayHolder) (there : (p.modify f).holders[number]? = some holder) :
    ∃ before, p.holders[number]? = some before ∧
      holder = if p.current = some number then f before else before := by
  unfold PlaylogEntry.modify at there
  cases current : p.current with
  | none =>
    rw [current] at there
    exact ⟨holder, there, by rw [if_neg (by simp)]⟩
  | some other =>
    rw [current] at there
    dsimp only at there
    rw [List.getElem?_modify] at there
    obtain ⟨before, isBefore, same⟩ := Option.map_eq_some_iff.mp there
    refine ⟨before, isBefore, ?_⟩
    by_cases isCurrent : other = number
    · rw [if_pos (congrArg some isCurrent), ← same, if_pos isCurrent]
    · rw [if_neg (fun eq => isCurrent (Option.some.inj eq)), ← same, if_neg isCurrent]

theorem holds_modify (held : Holds holders ticks events pipes s) (amflow : AMFlow)
    (effect : Effect) (f : PlayHolder → PlayHolder) (ticks' events' : Bool)
    (single : amflow.effects = [effect])
    (modifies : ∀ t : EngineClient, (t.perform effect).playlog = t.playlog.modify f)
    (tickHandlers : amflow.tickHandlers = if ticks' then [0] else [])
    (eventHandlers : amflow.eventHandlers = if events' then [0] else [])
    (tokenHolder : amflow.tokenHolder = s.amflow.tokenHolder)
    (sets : (f ⟨ticks, events⟩) = ⟨ticks', events'⟩)
    (connected : ticks' = true ∨ events' = true → s.playlog.current.isSome) :
    Holds holders ticks' events' pipes (s.run amflow) := by
  obtain ⟨isAmflow, -, listeners, -, -, -⟩ := run_keeps s amflow
  have playlog := run_modify (s := s) amflow effect f single modifies
  obtain ⟨current, length⟩ := modify_current s.playlog f
  constructor
  · rw [listeners]
    exact held.listeners
  · rw [isAmflow]
    exact tickHandlers
  · rw [isAmflow]
    exact eventHandlers
  · intro number holder there
    rw [playlog] at there ⊢
    rw [current]
    obtain ⟨before, isBefore, rfl⟩ := getElem?_modify _ _ _ _ there
    obtain ⟨tick, event⟩ := held.registered number before isBefore
    by_cases isCurrent : s.playlog.current = some number
    · have same : before = ⟨ticks, events⟩ := by
        obtain ⟨beforeTick, beforeEvent⟩ := before
        simp only [isCurrent, and_true, Bool.coe_iff_coe] at tick event
        rw [tick, event]
      rw [if_pos isCurrent, same, sets]
      simp [isCurrent]
    · rw [if_neg isCurrent]
      simp only [isCurrent, and_false] at tick event ⊢
      exact ⟨tick, event⟩
  · rw [playlog, current]
    exact connected
  · rw [playlog, current, length]
    exact held.inside
  · rw [isAmflow]
    intro ref isRef
    exact held.alive ref (tokenHolder.symm.trans isRef)
  · rw [isAmflow]

theorem holds_run (held : Holds holders ticks events pipes s) (amflow : AMFlow)
    (playlog : (s.run amflow).playlog.holders = s.playlog.holders ∧
      (s.run amflow).playlog.current = s.playlog.current)
    (tickHandlers : amflow.tickHandlers = s.amflow.tickHandlers)
    (eventHandlers : amflow.eventHandlers = s.amflow.eventHandlers)
    (alive : ∀ ref, amflow.tokenHolder = some ref → (holders ref).revoked = false) :
    Holds holders ticks events pipes (s.run amflow) := by
  obtain ⟨isAmflow, -, listeners, -, -, -⟩ := run_keeps s amflow
  obtain ⟨same, current⟩ := playlog
  constructor
  · rw [listeners]
    exact held.listeners
  · rw [isAmflow]
    exact tickHandlers.trans held.tickHandlers
  · rw [isAmflow]
    exact eventHandlers.trans held.eventHandlers
  · rw [same, current]
    exact held.registered
  · rw [current]
    exact held.connected
  · rw [same, current]
    exact held.inside
  · rw [isAmflow]
    exact alive
  · rw [isAmflow]

theorem holds_onRawTick (held : Holds holders false events pipes s)
    (subscribes : s.amflow.permission.subscribeTick = true) (connected : s.playlog.current.isSome) :
    Holds holders true events pipes (s.run (s.amflow.onRawTick 0)) := by
  have none : s.amflow.tickHandlers = [] := held.tickHandlers
  have called : s.amflow.onRawTick 0 =
      { s.amflow with tickHandlers := [0], effects := [.consumeTick] } := by
    simp [onRawTick, subscribes, none, emit, held.effects]
  rw [called]
  exact holds_modify held _ .consumeTick (fun h => { h with tick := true }) true events rfl
    (fun _ => rfl) rfl held.eventHandlers rfl rfl fun _ => connected

theorem holds_onRawEvent (held : Holds holders ticks false pipes s)
    (subscribes : s.amflow.permission.subscribeEvent = true)
    (connected : s.playlog.current.isSome) :
    Holds holders ticks true pipes (s.run (s.amflow.onRawEvent 0)) := by
  have none : s.amflow.eventHandlers = [] := held.eventHandlers
  have called : s.amflow.onRawEvent 0 =
      { s.amflow with eventHandlers := [0], effects := [.consumeEvent] } := by
    simp [onRawEvent, subscribes, none, emit, held.effects]
  rw [called]
  exact holds_modify held _ .consumeEvent (fun h => { h with event := true }) ticks true rfl
    (fun _ => rfl) held.tickHandlers rfl rfl rfl fun _ => connected

/-- What is taken down was installed with a permission that the AMFlow still has. -/
theorem holds_offRawTick (held : Holds holders ticks events pipes s)
    (permitted : ticks = true → s.amflow.permission.subscribeTick = true) :
    Holds holders false events pipes (s.run (s.amflow.offRawTick 0)) := by
  cases subscribes : s.amflow.permission.subscribeTick with
  | true =>
    have called : s.amflow.offRawTick 0 =
        { s.amflow with tickHandlers := [], effects := [.offConsumeTick] } := by
      have gone : s.amflow.tickHandlers.filter (fun h => h ≠ 0) = [] := by
        rw [held.tickHandlers]
        cases ticks <;> rfl
      simp only [offRawTick, subscribes, gone, emit, held.effects, Bool.not_true,
        Bool.false_eq_true, ↓reduceIte, List.isEmpty_nil, List.nil_append]
    rw [called]
    refine holds_modify held _ .offConsumeTick (fun h => { h with tick := false }) false events
      rfl (fun _ => rfl) rfl held.eventHandlers rfl rfl fun some => ?_
    exact held.connected (some.imp_left fun no => absurd no Bool.false_ne_true)
  | false =>
    have none : ticks = false := by
      cases isTicks : ticks with
      | false => rfl
      | true => rw [permitted isTicks] at subscribes; cases subscribes
    have called : s.amflow.offRawTick 0 = s.amflow := by
      simp [offRawTick, subscribes]
    rw [called, ← none]
    have same := run_none (s := s) s.amflow held.effects
    exact holds_run held s.amflow ⟨congrArg _ same, congrArg _ same⟩ rfl rfl held.alive

theorem holds_offRawEvent (held : Holds holders ticks events pipes s)
    (permitted : events = true → s.amflow.permission.subscribeEvent = true) :
    Holds holders ticks false pipes (s.run (s.amflow.offRawEvent 0)) := by
  cases subscribes : s.amflow.permission.subscribeEvent with
  | true =>
    have called : s.amflow.offRawEvent 0 =
        { s.amflow with eventHandlers := [], effects := [.offConsumeEvent] } := by
      have gone : s.amflow.eventHandlers.filter (fun h => h ≠ 0) = [] := by
        rw [held.eventHandlers]
        cases events <;> rfl
      simp only [offRawEvent, subscribes, gone, emit, held.effects, Bool.not_true,
        Bool.false_eq_true, ↓reduceIte, List.isEmpty_nil, List.nil_append]
    rw [called]
    refine holds_modify held _ .offConsumeEvent (fun h => { h with event := false }) ticks false
      rfl (fun _ => rfl) held.tickHandlers rfl rfl rfl fun some => ?_
    exact held.connected (some.imp_right fun no => absurd no Bool.false_ne_true)
  | false =>
    have none : events = false := by
      cases isEvents : events with
      | false => rfl
      | true => rw [permitted isEvents] at subscribes; cases subscribes
    have called : s.amflow.offRawEvent 0 = s.amflow := by
      simp [offRawEvent, subscribes]
    rw [called, ← none]
    have same := run_none (s := s) s.amflow held.effects
    exact holds_run held s.amflow ⟨congrArg _ same, congrArg _ same⟩ rfl rfl held.alive

theorem close_keeps (p : PlaylogEntry) :
    p.close.holders = p.holders ∧ (p.close.current = p.current ∨ p.close.current = none) := by
  unfold PlaylogEntry.close
  split
  · exact ⟨rfl, .inl rfl⟩
  · dsimp only
    split
    · exact ⟨rfl, .inr rfl⟩
    · exact ⟨rfl, .inl rfl⟩

theorem holds_authenticate (held : Holds holders false false pipes s) :
    Holds holders false false pipes (s.run s.amflow.authenticate) := by
  obtain ⟨isAmflow, -, listeners, -, -, -⟩ := run_keeps s s.amflow.authenticate
  have begun : s.amflow.authenticate.tickHandlers = s.amflow.tickHandlers ∧
      s.amflow.authenticate.eventHandlers = s.amflow.eventHandlers ∧
      s.amflow.authenticate.tokenHolder = none := by
    unfold authenticate
    dsimp only
    split <;> exact ⟨rfl, rfl, rfl⟩
  have playlog : (s.run s.amflow.authenticate).playlog = s.playlog ∨
      (s.run s.amflow.authenticate).playlog = s.playlog.close := by
    unfold run authenticate
    dsimp only
    split
    · refine .inr ?_
      rw [emit, held.effects]
      rfl
    · refine .inl ?_
      rw [held.effects]
      rfl
  have kept : (s.run s.amflow.authenticate).playlog.holders = s.playlog.holders ∧
      ((s.run s.amflow.authenticate).playlog.current = s.playlog.current ∨
        (s.run s.amflow.authenticate).playlog.current = none) := by
    rcases playlog with same | closed
    · rw [same]
      exact ⟨rfl, .inl rfl⟩
    · rw [closed]
      exact close_keeps s.playlog
  constructor
  · rw [listeners]
    exact held.listeners
  · rw [isAmflow]
    exact begun.1.trans held.tickHandlers
  · rw [isAmflow]
    exact begun.2.1.trans held.eventHandlers
  · intro number holder there
    rw [kept.1] at there
    obtain ⟨tick, event⟩ := held.registered number holder there
    simp only [Bool.false_eq_true, false_and] at tick event ⊢
    exact ⟨tick, event⟩
  · intro some
    rcases some with no | no <;> cases no
  · intro number isCurrent
    rw [kept.1]
    rcases kept.2 with same | none
    · exact held.inside number (same.symm.trans isCurrent)
    · rw [none] at isCurrent
      cases isCurrent
  · rw [isAmflow]
    intro ref isRef
    cases begun.2.2.symm.trans isRef
  · rw [isAmflow]

theorem run_onValidated (none : s.amflow.effects = []) (ref : Ref) (holder : PlayTokenHolder) :
    (s.run (s.amflow.onValidated ref holder)).playlog =
        (if holder.playToken.permission.connects then s.playlog.prepare else s.playlog) ∧
      (s.amflow.onValidated ref holder).tickHandlers = s.amflow.tickHandlers ∧
      (s.amflow.onValidated ref holder).eventHandlers = s.amflow.eventHandlers ∧
      (s.amflow.onValidated ref holder).tokenHolder = some ref ∧
      (s.amflow.onValidated ref holder).permission = holder.playToken.permission := by
  unfold run AMFlow.onValidated Permission.connects
  dsimp only
  cases writes : holder.playToken.permission.writeTick with
  | true =>
    simp only [Bool.true_or, ↓reduceIte, emit, none]
    exact ⟨rfl, trivial, trivial, trivial, trivial⟩
  | false =>
    simp only [Bool.false_eq_true, ↓reduceIte]
    split
    · rename_i connects
      simp only [emit, none]
      exact ⟨rfl, trivial, trivial, trivial, trivial⟩
    · rw [none]
      exact ⟨rfl, rfl, rfl, rfl, rfl⟩

theorem holds_onValidated (held : Holds holders ticks events pipes s) (ref : Ref)
    (alive : (holders ref).revoked = false) :
    Holds holders ticks events pipes (s.run (s.amflow.onValidated ref (holders ref))) := by
  obtain ⟨playlog, tickHandlers, eventHandlers, tokenHolder, -⟩ :=
    run_onValidated held.effects ref (holders ref)
  obtain ⟨isAmflow, -, listeners, -, -, -⟩ := run_keeps s (s.amflow.onValidated ref (holders ref))
  have isAlive : ∀ other, (s.amflow.onValidated ref (holders ref)).tokenHolder = some other →
      (holders other).revoked = false := by
    intro other isOther
    obtain rfl : ref = other := Option.some.inj (tokenHolder.symm.trans isOther)
    exact alive
  by_cases kept : (s.run (s.amflow.onValidated ref (holders ref))).playlog.holders =
      s.playlog.holders ∧ (s.run (s.amflow.onValidated ref (holders ref))).playlog.current =
        s.playlog.current
  · exact holds_run held _ kept tickHandlers eventHandlers isAlive
  · -- a holder is made; there was none before
    have made : s.playlog.current = none ∧
        (s.run (s.amflow.onValidated ref (holders ref))).playlog.holders =
          s.playlog.holders ++ [⟨false, false⟩] ∧
        (s.run (s.amflow.onValidated ref (holders ref))).playlog.current =
          some s.playlog.holders.length := by
      rw [playlog] at kept ⊢
      split at kept
      · rename_i connects
        rw [if_pos connects]
        unfold PlaylogEntry.prepare at kept ⊢
        cases current : s.playlog.current with
        | none => exact ⟨rfl, rfl, rfl⟩
        | some number =>
          simp only [current] at kept
          exact absurd ⟨trivial, trivial⟩ kept
      · exact absurd ⟨rfl, rfl⟩ kept
    obtain ⟨noHolder, grown, current⟩ := made
    have nothing : ticks = false ∧ events = false := by
      have connected := held.connected
      rw [noHolder] at connected
      simpa using connected
    obtain ⟨rfl, rfl⟩ := nothing
    constructor
    · rw [listeners]
      exact held.listeners
    · rw [isAmflow]
      exact tickHandlers.trans held.tickHandlers
    · rw [isAmflow]
      exact eventHandlers.trans held.eventHandlers
    · intro number holder there
      rw [grown] at there
      have unregistered : holder.tick = false ∧ holder.event = false := by
        rcases List.mem_append.mp (List.mem_of_getElem? there) with before | last
        · obtain ⟨other, at'⟩ := List.getElem?_of_mem before
          obtain ⟨tick, event⟩ := held.registered other holder at'
          simpa using And.intro tick event
        · rw [List.mem_singleton.mp last]
          exact ⟨rfl, rfl⟩
      simp [unregistered]
    · intro some
      rcases some with no | no <;> cases no
    · intro number isCurrent
      obtain rfl := Option.some.inj (current.symm.trans isCurrent)
      rw [grown, List.length_append]
      exact Nat.lt_succ_self _
    · rw [isAmflow]
      exact isAlive
    · rw [isAmflow]

theorem holds_error (held : Holds holders false false pipes s) (number : Nat) :
    Holds holders false false pipes { s with playlog := s.playlog.error number } where
  listeners := held.listeners
  tickHandlers := held.tickHandlers
  eventHandlers := held.eventHandlers
  registered := by
    intro other holder there
    change (s.playlog.holders.modify number fun _ => ⟨false, false⟩)[other]? = some holder at there
    rw [List.getElem?_modify] at there
    obtain ⟨before, isBefore, same⟩ := Option.map_eq_some_iff.mp there
    obtain ⟨tick, event⟩ := held.registered other before isBefore
    rw [← same]
    split
    · simp
    · simp only [Bool.false_eq_true, false_and] at tick event ⊢
      exact ⟨tick, event⟩
  connected := by
    intro some
    rcases some with no | no <;> cases no
  inside := by
    intro other isCurrent
    cases isCurrent
  alive := held.alive
  effects := held.effects

theorem holds_listen (held : Holds holders ticks events pipes s) (pipe : Option Pipe)
    (kind : Kind) : Holds holders ticks events
      (fun other => if pipe = some other then pipes other ++ [kind] else pipes other)
      (s.listen pipe kind) := by
  cases pipe with
  | none => exact { held with listeners := held.listeners }
  | some pipe =>
    refine { held with listeners := ?_ }
    funext other
    rw [listen, ← held.listeners]
    by_cases same : pipe = other
    · subst same
      rw [if_pos rfl]
      exact Function.update_self _ _ _
    · rw [if_neg (fun eq => same (Option.some.inj eq))]
      exact Function.update_of_ne (Ne.symm same) _ _

theorem holds_removeAllListeners (held : Holds holders ticks events pipes s) (pipe : Option Pipe) :
    Holds holders ticks events (fun other => if pipe = some other then [] else pipes other)
      (s.removeAllListeners pipe) := by
  cases pipe with
  | none => exact { held with listeners := held.listeners }
  | some pipe =>
    refine { held with listeners := ?_ }
    funext other
    rw [removeAllListeners, ← held.listeners]
    by_cases same : pipe = other
    · subst same
      rw [if_pos rfl]
      exact Function.update_self _ _ _
    · rw [if_neg (fun eq => same (Option.some.inj eq))]
      exact Function.update_of_ne (Ne.symm same) _ _

theorem Holds.of_same {s' : EngineClient} (held : Holds holders ticks events pipes s)
    (listeners : s'.listeners = s.listeners) (playlog : s'.playlog = s.playlog)
    (tickHandlers : s'.amflow.tickHandlers = s.amflow.tickHandlers)
    (eventHandlers : s'.amflow.eventHandlers = s.amflow.eventHandlers)
    (tokenHolder : s'.amflow.tokenHolder = s.amflow.tokenHolder)
    (effects : s'.amflow.effects = s.amflow.effects) :
    Holds holders ticks events pipes s' where
  listeners := listeners.trans held.listeners
  tickHandlers := tickHandlers.trans held.tickHandlers
  eventHandlers := eventHandlers.trans held.eventHandlers
  registered := by
    rw [playlog]
    exact held.registered
  connected := by
    rw [playlog]
    exact held.connected
  inside := by
    rw [playlog]
    exact held.inside
  alive := by
    rw [tokenHolder]
    exact held.alive
  effects := effects.trans held.effects

variable (holders) in
structure Inv (s : EngineClient) : Prop where
  holds : Holds holders (subscribesTick s.granted) (subscribesEvent s.granted)
    (incoming s.granted) s
  assigned : ∀ permission, s.granted = some permission → s.assigned = some (assign permission)

/-- No listener on the pipes, and no handler at the AMFlow. -/
structure Uninstalled (s : EngineClient) : Prop where
  listeners : ∀ pipe, s.listeners pipe = []
  tickHandlers : s.amflow.tickHandlers = []
  eventHandlers : s.amflow.eventHandlers = []

theorem Uninstalled.nothing (uninstalled : s.Uninstalled)
    (held : Holds holders ticks events pipes s) :
    ticks = false ∧ events = false ∧ pipes = fun _ => [] := by
  have tickHandlers := held.tickHandlers.symm.trans uninstalled.tickHandlers
  have eventHandlers := held.eventHandlers.symm.trans uninstalled.eventHandlers
  refine ⟨?_, ?_, ?_⟩
  · cases ticks with
    | true => cases tickHandlers
    | false => rfl
  · cases events with
    | true => cases eventHandlers
    | false => rfl
  · rw [← held.listeners]
    exact funext uninstalled.listeners

theorem Uninstalled.holds (uninstalled : s.Uninstalled)
    (held : Holds holders ticks events pipes s) : Holds holders false false (fun _ => []) s := by
  obtain ⟨rfl, rfl, rfl⟩ := uninstalled.nothing held
  exact held

theorem inv_of_none (none : s.granted = none) (held : Holds holders false false (fun _ => []) s) :
    Inv holders s where
  holds := by
    rw [none]
    exact held
  assigned := by
    intro permission granted
    rw [none] at granted
    cases granted

theorem permission_offRawTick (amflow : AMFlow) (handler : Nat) :
    (amflow.offRawTick handler).permission = amflow.permission := by
  unfold offRawTick
  split
  · rfl
  · dsimp only
    split <;> rfl

theorem permission_onRawTick (amflow : AMFlow) (handler : Nat) :
    (amflow.onRawTick handler).permission = amflow.permission := by
  unfold onRawTick
  split
  · rfl
  · dsimp only
    split <;> rfl

section

variable (inv : Inv holders s)
  (permitted : ∀ permission, s.granted = some permission → (permission.subscribeTick = true →
  s.amflow.permission.subscribeTick = true) ∧ (permission.subscribeEvent = true →
    s.amflow.permission.subscribeEvent = true))

include inv permitted

theorem holds_unhandle :
    Holds holders false false (fun _ => []) s.unhandleAssignedPushPipes := by
  unfold unhandleAssignedPushPipes
  cases assigned : s.assigned with
  | none =>
    have none : s.granted = none := by
      cases granted : s.granted with
      | none => rfl
      | some permission => cases assigned.symm.trans (inv.assigned permission granted)
    have held := inv.holds
    rw [none] at held
    exact held
  | some pipes =>
    dsimp only
    have quiet := holds_removeAllListeners (holds_removeAllListeners inv.holds
      pipes.subscribeEvent) pipes.subscribeTick
    have silent : (fun other => if pipes.subscribeTick = some other then ([] : List Kind) else
        if pipes.subscribeEvent = some other then [] else incoming s.granted other) =
        fun _ => [] := by
      funext other
      cases granted : s.granted with
      | none => simp [incoming]
      | some permission =>
        obtain rfl := Option.some.inj (assigned.symm.trans (inv.assigned permission granted))
        split
        · rfl
        · rename_i noTick
          split
          · rfl
          · rename_i noEvent
            simp [incoming, noTick, noEvent]
    rw [silent] at quiet
    generalize isQuiet : (s.removeAllListeners pipes.subscribeEvent).removeAllListeners
      pipes.subscribeTick = t at quiet ⊢
    have kept : t.amflow = s.amflow := by
      rw [← isQuiet]
      cases pipes.subscribeEvent <;> cases pipes.subscribeTick <;> rfl
    have tick : Holds holders false (subscribesEvent s.granted) (fun _ => [])
        (if pipes.sendTick.isSome then t.run (t.amflow.offRawTick 0) else t) ∧
        (if pipes.sendTick.isSome then t.run (t.amflow.offRawTick 0) else t).amflow.permission =
          s.amflow.permission := by
      split
      · refine ⟨holds_offRawTick quiet fun subscribes => ?_, ?_⟩
        · rw [kept]
          cases granted : s.granted with
          | none =>
            rw [granted] at subscribes
            cases subscribes
          | some permission =>
            rw [granted] at subscribes
            exact (permitted permission granted).1 subscribes
        · rw [(run_keeps t _).1]
          change (t.amflow.offRawTick 0).permission = _
          rw [permission_offRawTick, kept]
      · rename_i unassigned
        refine ⟨?_, congrArg _ kept⟩
        have none : subscribesTick s.granted = false := by
          cases granted : s.granted with
          | none => rfl
          | some permission =>
            obtain rfl := Option.some.inj
              (assigned.symm.trans (inv.assigned permission granted))
            cases subscribes : permission.subscribeTick with
            | false => exact subscribes
            | true => simp [assign, subscribes] at unassigned
        rw [none] at quiet
        exact quiet
    generalize (if pipes.sendTick.isSome then t.run (t.amflow.offRawTick 0) else t) = u at tick ⊢
    obtain ⟨held, permission⟩ := tick
    split
    · refine holds_offRawEvent held fun subscribes => ?_
      rw [permission]
      cases granted : s.granted with
      | none =>
        rw [granted] at subscribes
        cases subscribes
      | some permission =>
        rw [granted] at subscribes
        exact (permitted permission granted).2 subscribes
    · rename_i unassigned
      have none : subscribesEvent s.granted = false := by
        cases granted : s.granted with
        | none => rfl
        | some permission =>
          obtain rfl := Option.some.inj (assigned.symm.trans (inv.assigned permission granted))
          cases subscribes : permission.subscribeEvent with
          | false => exact subscribes
          | true =>
            cases ticks : permission.subscribeTick with
            | false | true => simp [assign, subscribes, ticks] at unassigned
      rw [none] at held
      exact held

theorem inv_handleAuthenticateRequest :
    Inv holders s.handleAuthenticateRequest := by
  have held := holds_authenticate (holds_unhandle inv permitted)
  refine inv_of_none rfl ?_
  exact held.of_same rfl rfl rfl rfl rfl rfl

end

theorem listen_keeps (s : EngineClient) (pipe : Option Pipe) (kind : Kind) :
    (s.listen pipe kind).amflow = s.amflow ∧ (s.listen pipe kind).playlog = s.playlog ∧
      (s.listen pipe kind).assigned = s.assigned := by
  cases pipe with
  | none | some pipe => exact ⟨rfl, rfl, rfl⟩

theorem incoming_some (own : Permission) :
    (fun other => if (assign own).subscribeTick = some other then
        (if (assign own).subscribeEvent = some other then ([] : List Kind) ++ [.event] else []) ++
          [.tick]
      else if (assign own).subscribeEvent = some other then [] ++ [.event] else []) =
      incoming (some own) := by
  funext other
  unfold incoming
  by_cases tick : (assign own).subscribeTick = some other
  · rw [if_pos tick]
    by_cases event : (assign own).subscribeEvent = some other <;> simp [tick, event]
  · rw [if_neg tick]
    by_cases event : (assign own).subscribeEvent = some other <;> simp [tick, event]

theorem isSome_sendTick (own : Permission) : (assign own).sendTick.isSome = own.subscribeTick := by
  unfold assign
  cases own.subscribeTick with
  | false | true => rfl

theorem isSome_sendEvent (own : Permission) :
    (assign own).sendEvent.isSome = own.subscribeEvent := by
  unfold assign
  cases own.subscribeEvent with
  | false => rfl
  | true =>
    cases own.subscribeTick with
    | false | true => rfl

theorem inv_succeed (held : Holds holders false false (fun _ => []) s) (own : Permission)
    (same : s.amflow.permission = own)
    (connected : own.subscribeTick = true ∨ own.subscribeEvent = true →
      s.playlog.current.isSome) : Inv holders (s.succeed own) := by
  unfold succeed handleAssignedPushPipes
  rw [same]
  dsimp only
  have begun : Holds holders false false (fun _ => [])
      { s with assigned := some (assign own) } := held.of_same rfl rfl rfl rfl rfl rfl
  have listens := holds_listen (holds_listen begun (assign own).subscribeEvent .event)
    (assign own).subscribeTick .tick
  rw [incoming_some] at listens
  obtain ⟨amflow, playlog, assigned⟩ :=
    listen_keeps { s with assigned := some (assign own) } (assign own).subscribeEvent .event
  obtain ⟨amflow', playlog', assigned'⟩ :=
    listen_keeps (listen { s with assigned := some (assign own) } (assign own).subscribeEvent
      .event) (assign own).subscribeTick .tick
  generalize ((listen { s with assigned := some (assign own) } (assign own).subscribeEvent
    .event).listen (assign own).subscribeTick .tick) = t at listens amflow' playlog' assigned' ⊢
  have permission : t.amflow.permission = own := by
    rw [amflow', amflow]
    exact same
  have isConnected : own.subscribeTick = true ∨ own.subscribeEvent = true →
      t.playlog.current.isSome := by
    rw [playlog', playlog]
    exact connected
  have isAssigned : t.assigned = some (assign own) := by
    rw [assigned', assigned]
  rw [isSome_sendTick, isSome_sendEvent]
  have tick : Holds holders own.subscribeTick false (incoming (some own))
      (if own.subscribeTick then t.run (t.amflow.onRawTick 0) else t) ∧
      (if own.subscribeTick then t.run (t.amflow.onRawTick 0) else t).amflow.permission = own ∧
      (own.subscribeEvent = true →
        (if own.subscribeTick then t.run (t.amflow.onRawTick 0) else t).playlog.current.isSome) ∧
      (if own.subscribeTick then t.run (t.amflow.onRawTick 0) else t).assigned =
        some (assign own) := by
    cases subscribes : own.subscribeTick with
    | false =>
      refine ⟨listens, permission, fun event => ?_, isAssigned⟩
      exact isConnected (.inr event)
    | true =>
      have installed := holds_onRawTick listens (by rw [permission]; exact subscribes)
        (isConnected (.inl subscribes))
      refine ⟨installed, ?_, fun _ => installed.connected (.inl rfl), ?_⟩
      · rw [if_pos rfl, (run_keeps t _).1]
        exact (permission_onRawTick t.amflow 0).trans permission
      · rw [if_pos rfl, (run_keeps t _).2.1]
        exact isAssigned
  generalize (if own.subscribeTick then t.run (t.amflow.onRawTick 0) else t) = u at tick ⊢
  obtain ⟨held, permission, isConnected, isAssigned⟩ := tick
  have event : Holds holders own.subscribeTick own.subscribeEvent (incoming (some own))
      (if own.subscribeEvent then u.run (u.amflow.onRawEvent 0) else u) ∧
      (if own.subscribeEvent then u.run (u.amflow.onRawEvent 0) else u).assigned =
        some (assign own) := by
    cases subscribes : own.subscribeEvent with
    | false => exact ⟨held, isAssigned⟩
    | true =>
      refine ⟨holds_onRawEvent held (by rw [permission]; exact subscribes)
        (isConnected subscribes), ?_⟩
      rw [if_pos rfl, (run_keeps u _).2.1]
      exact isAssigned
  constructor
  · exact event.1.of_same rfl rfl rfl rfl rfl rfl
  · intro granted isGranted
    obtain rfl := Option.some.inj isGranted
    exact event.2

end EngineClient
end Installed

end EnginePushes
end AkashicSystem.PlaylogServer
