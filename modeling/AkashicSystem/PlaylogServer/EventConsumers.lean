import Mathlib.Data.List.Perm.Basic
import Mathlib.Logic.Function.Basic
import Mathlib.Tactic.ByContra
import AkashicSystem.Lib.Run
import AkashicSystem.PlaylogServer.PlayToken

/-!
# The consumers of token and control events

`PlayTokenEventConsumer` and `PlaylogServerControlEventConsumer` set up a connection, a
channel and a consumer step by step, begin anew where a step fails, and rebuild the whole
when a loss is heard.  They differ in how they close.  A connection has one channel, and
both are known by one number.
-/

set_option autoImplicit false

namespace AkashicSystem.PlaylogServer
namespace EventConsumers

open Function (update update_of_ne update_self)
open List

inductive Kind where
  | playToken
  | control
deriving DecidableEq

inductive State where
  | closed
  | connecting
  | connected
deriving DecidableEq

/-- A connection, or its channel; a failed one may still emit its close event. -/
inductive Link where
  | unopened
  | opened
  | failed
  | closed
deriving DecidableEq

/-- What a call of `_connect` awaits. -/
inductive Awaits where
  | connection
  | channel (connection : Nat)
  | exchange (connection : Nat)
  /-- The queue and the consumer of `consume`. -/
  | consumer (connection : Nat)
  /-- The binding of `consume`, with the consumer there. -/
  | binding (connection : Nat)

def Awaits.on : Awaits → Option Nat
  | .connection => none
  | .channel c | .exchange c | .consumer c | .binding c => some c

structure SetUp where
  retry : Nat
  awaits : Awaits

/-- A call of `_doClose` that has not ended. -/
structure Closing where
  /-- The channel it awaits the close of; without one it awaits that of the connection. -/
  channel : Option Nat
  connection : Option Nat
  /-- Whether `_connect` follows it. -/
  again : Bool

inductive EventType where
  | revoke
  | updatePermission
  | purge

/-- `PlayToken` of playtoken-amqp. -/
structure EventToken where
  id : Option String
  playId : Option String
  userId : Option String
  permission : Option Permission

inductive Event where
  | revoke (token : EventToken)
  | updatePermission (token : EventToken)
  | purge (playId : Option String)

/-- What comes of a message: it is acknowledged, or emitted for as many listeners as there are. -/
inductive Outcome where
  | acked
  | emitted (event : Event) (listeners : Nat)

structure EventConsumer where
  kind : Kind
  maxConnectionRetry : Nat
  state : State
  connection : Option Nat
  channel : Option Nat
  client : Option Nat
  setUps : List SetUp
  closings : List Closing
  links : Nat → Link
  channels : Nat → Link
  /-- Whether a connection, or a channel, has the handlers that reconnect. -/
  handled : Nat → Bool
  channelHandled : Nat → Bool
  consumers : Nat → Nat
  created : Nat
  /-- Whether `close` has been called since `open` was last accepted. -/
  stopped : Bool
  listeners : Nat
  outcomes : List Outcome

namespace EventConsumer

def new (kind : Kind) (maxConnectionRetry : Nat) : EventConsumer where
  kind := kind
  maxConnectionRetry := maxConnectionRetry
  state := .closed
  connection := none
  channel := none
  client := none
  setUps := []
  closings := []
  links := fun _ => .unopened
  channels := fun _ => .unopened
  handled := fun _ => false
  channelHandled := fun _ => false
  consumers := fun _ => 0
  created := 0
  stopped := false
  listeners := 0
  outcomes := []

variable (e : EventConsumer)

def connect : EventConsumer :=
  { e with state := .connecting, setUps := e.setUps ++ [⟨0, .connection⟩] }

def «open» : EventConsumer :=
  if e.state = .closed then { e with stopped := false }.connect else e

def closeEnds (again : Bool) : EventConsumer :=
  if again then e.connect else e

def closeConnection (connection : Option Nat) (again : Bool) :
    EventConsumer :=
  match connection with
  | some c =>
    { e with
      handled := update e.handled c false
      closings := e.closings ++ [⟨none, some c, again⟩] }
  | none => e.closeEnds again

def doClose (again : Bool) : EventConsumer :=
  let channel := e.channel
  let connection := e.connection
  let e := { e with channel := none, connection := none, client := none }
  match channel with
  | some c =>
    { e with
      channelHandled := update e.channelHandled c false
      closings := e.closings ++ [⟨some c, connection, again⟩] }
  | none => e.closeConnection connection again

def removeAllListeners : EventConsumer := { e with listeners := 0 }

def close : EventConsumer :=
  { e.removeAllListeners with state := .closed, stopped := true }.doClose false

def reconnect : EventConsumer :=
  if e.state = .connecting then e else { e with state := .connecting }.doClose true

variable (index : Nat)

/-- A call of `_doClose` is answered by its channel. -/
def channelCloseSettled (ok : Bool) : EventConsumer :=
  match e.closings[index]? with
  | some ⟨some c, connection, again⟩ =>
    let e := { e with
      channels := if ok then update e.channels c .closed else e.channels
      closings := e.closings.eraseIdx index }
    match e.kind, ok with
    | .playToken, _ => e.closeConnection connection again
    | .control, true => e.closeConnection connection again
    | .control, false => e.closeEnds again
  | _ => e

/-- A call of `_doClose` goes on when its connection is closed, or was. -/
def connectionCloseSettled : EventConsumer :=
  match e.closings[index]? with
  | some ⟨none, some c, again⟩ =>
    if e.links c = .opened then e
    else { e with closings := e.closings.eraseIdx index }.closeEnds again
  | _ => e

def setSetUp (setUp : SetUp) : EventConsumer :=
  { e with setUps := e.setUps.set index setUp }

/-- A step of a call of `_connect` fails, and the call begins anew or gives up. -/
def failed : EventConsumer :=
  match e.setUps[index]? with
  | some setUp =>
    let e := { e with state := .connecting }
    if e.maxConnectionRetry < setUp.retry + 1 then
      { e with setUps := e.setUps.eraseIdx index }
    else e.setSetUp index ⟨setUp.retry + 1, .connection⟩
  | none => e

def usable (c : Nat) : Bool :=
  decide (e.links c = .opened) && decide (e.channels c = .opened)

/-- A step of a call of `_connect` succeeds, which one on a channel does only if it is open. -/
def succeeded : EventConsumer :=
  match e.setUps[index]? with
  | none => e
  | some setUp =>
    match setUp.awaits with
    | .connection =>
      { e.setSetUp index ⟨setUp.retry, .channel e.created⟩ with
        connection := some e.created
        links := update e.links e.created .opened
        handled := update e.handled e.created true
        created := e.created + 1 }
    | .channel c =>
      if e.links c = .opened then
        { e.setSetUp index ⟨setUp.retry, .exchange c⟩ with
          channel := some c
          client := some c
          channels := update e.channels c .opened
          channelHandled := update e.channelHandled c true }
      else e
    | .exchange c =>
      if e.usable c then
        -- Without a client the call of `consume` throws.
        match e.client with
        | some d => e.setSetUp index ⟨setUp.retry, .consumer d⟩
        | none => e.failed index
      else e
    | .consumer c =>
      if e.usable c then
        { e.setSetUp index ⟨setUp.retry, .binding c⟩ with
          consumers := update e.consumers c (e.consumers c + 1) }
      else e
    | .binding c =>
      if e.usable c then
        { e with state := .connected, setUps := e.setUps.eraseIdx index }
      else e

/-- A connection emits `error`, or `close` where `ends` is closed. -/
def connectionEnds (c : Nat) (ends : Link) : EventConsumer :=
  if e.links c = .opened ∨ e.links c = .failed then
    let e := { e with links := update e.links c ends }
    if e.handled c then e.reconnect else e
  else e

def channelEnds (c : Nat) (ends : Link) : EventConsumer :=
  if e.channels c = .opened ∨ e.channels c = .failed then
    let e := { e with channels := update e.channels c ends }
    if e.channelHandled c then e.reconnect else e
  else e

def ack : EventConsumer := { e with outcomes := e.outcomes ++ [.acked] }

def emit (event : Event) : EventConsumer :=
  { e with outcomes := e.outcomes ++ [.emitted event e.listeners] }

/-- `_onMessage`, with no type where the routing key is that of none, and no token where the JSON
value is falsy. -/
def onMessage (type : Option EventType) (token : Option EventToken) : EventConsumer :=
  match token with
  | none => e.ack
  | some token =>
    match e.kind, type with
    | .playToken, some .revoke => e.emit (.revoke token)
    | .playToken, some .updatePermission => e.emit (.updatePermission token)
    | .control, some .purge => e.emit (.purge token.playId)
    | _, _ => e.ack

/-- The broker delivers a message to the consumer of a channel. -/
def delivered (c : Nat) (type : Option EventType) (token : Option EventToken) : EventConsumer :=
  if e.usable c ∧ 0 < e.consumers c then e.onMessage type token else e

end EventConsumer

inductive Action where
  | open
  | close
  | channelCloseSettled (closing : Nat) (ok : Bool)
  | connectionCloseSettled (closing : Nat)
  | succeeded (setUp : Nat)
  | failed (setUp : Nat)
  | connectionFailed (connection : Nat)
  | connectionClosed (connection : Nat)
  | channelFailed (connection : Nat)
  | channelClosed (connection : Nat)
  | on
  | delivered (connection : Nat) (type : Option EventType) (token : Option EventToken)

open EventConsumer

variable (e : EventConsumer)

def step : Action → EventConsumer
  | .open => e.open
  | .close => e.close
  | .channelCloseSettled index ok => e.channelCloseSettled index ok
  | .connectionCloseSettled index => e.connectionCloseSettled index
  | .succeeded index => e.succeeded index
  | .failed index => e.failed index
  | .connectionFailed c => e.connectionEnds c .failed
  | .connectionClosed c => e.connectionEnds c .closed
  | .channelFailed c => e.channelEnds c .failed
  | .channelClosed c => e.channelEnds c .closed
  | .on => { e with listeners := e.listeners + 1 }
  | .delivered c type token => e.delivered c type token

/-- The connection of a consumer that is attached: its only one, with one consumer. -/
structure AttachedBy (e : EventConsumer) (c : Nat) : Prop where
  opened : e.links c = .opened
  alone : ∀ d, e.links d = .opened → d = c
  current : e.connection = some c
  channel : e.channels c = .opened
  consumer : e.consumers c = 1

structure Attached (e : EventConsumer) : Prop where
  attached : e.state = .connected → e.setUps = [] → e.closings = [] → ∃ c, AttachedBy e c
  failed : e.setUps = [] → e.closings = [] → e.state ≠ .connected → ∀ c, e.links c ≠ .opened
  closed : e.stopped = true → e.closings = [] → ∀ c, e.links c ≠ .opened
  silent : e.stopped = true → e.closings = [] →
    ∀ c type token, (step e (.delivered c type token)).outcomes = e.outcomes

/-- The end of a connection that is not the current one, or of its channel, changes nothing. -/
def LeavesOthers (action : Action) : Prop :=
  ∀ c, (action = .connectionFailed c ∨ action = .connectionClosed c ∨ action = .channelFailed c ∨
      action = .channelClosed c) → e.connection ≠ some c →
    (step e action).state = e.state ∧ (step e action).connection = e.connection

def Idle : Prop :=
  e.setUps = [] ∧ ∀ closing ∈ e.closings, closing.again = false

def Own (handled : Nat → Bool) (c : Nat) : Prop :=
  handled c = true → e.state ≠ .connecting → e.connection = some c

/-- After a call of `close` no step succeeds that makes a connection or ends a set-up. -/
def Timely (setUp : SetUp) : Prop :=
  match setUp.awaits with
  | .connection | .binding _ => e.stopped = false
  | .channel _ | .exchange _ | .consumer _ => True

/-- The consumer is opened where nothing is pending that connects; a step of a set-up fails only
on a connection that is not open any more, and none ends the set-up after a call of `close`; what
is heard is heard of the current connection; and the channel's close fails in the control
consumer only with no open connection to be closed after it. -/
def Permitted : Action → Prop
  | .open => e.state = .closed → Idle e
  | .succeeded index => ∀ setUp ∈ e.setUps[index]?, Timely e setUp
  | .failed index => ∀ setUp ∈ e.setUps[index]?, ∀ c ∈ setUp.awaits.on, e.links c ≠ .opened
  | .connectionFailed c | .connectionClosed c =>
    e.links c = .opened ∨ e.links c = .failed → Own e e.handled c
  | .channelFailed c | .channelClosed c =>
    e.channels c = .opened ∨ e.channels c = .failed → Own e e.channelHandled c
  | .channelCloseSettled index ok => e.kind = .control → ok = false →
      ∀ closing ∈ e.closings[index]?, ∀ c ∈ closing.connection, e.links c ≠ .opened
  | .close | .connectionCloseSettled _ | .on | .delivered _ _ _ => True

instance (e : EventConsumer) : Decidable (Idle e) := inferInstanceAs (Decidable (_ ∧ _))

instance (e : EventConsumer) (handled : Nat → Bool) (c : Nat) : Decidable (Own e handled c) :=
  inferInstanceAs (Decidable (handled c = true → _))

instance (e : EventConsumer) : DecidablePred (Timely e)
  | ⟨_, .connection⟩ | ⟨_, .binding _⟩ => inferInstanceAs (Decidable (e.stopped = false))
  | ⟨_, .channel _⟩ | ⟨_, .exchange _⟩ | ⟨_, .consumer _⟩ => isTrue trivial

instance (e : EventConsumer) : DecidablePred (Permitted e)
  | .open => inferInstanceAs (Decidable (e.state = .closed → _))
  | .succeeded index => inferInstanceAs (Decidable (∀ setUp ∈ e.setUps[index]?, _))
  | .failed index => inferInstanceAs (Decidable (∀ setUp ∈ e.setUps[index]?, _))
  | .connectionFailed c | .connectionClosed c =>
    inferInstanceAs (Decidable (e.links c = .opened ∨ _ → _))
  | .channelFailed c | .channelClosed c =>
    inferInstanceAs (Decidable (e.channels c = .opened ∨ _ → _))
  | .channelCloseSettled _ ok => inferInstanceAs (Decidable (e.kind = .control → ok = false → _))
  | .close | .connectionCloseSettled _ | .on | .delivered _ _ _ => isTrue trivial

/-! ## At most one set-up is pending, and what is open is its connection or the current one -/

def pending : Nat := e.setUps.length + e.closings.countP (·.again)

structure Serves (e : EventConsumer) (c : Nat) : Prop where
  current : e.connection = some c
  opened : e.links c = .opened
  channel : e.channels c = .opened
  handled : e.handled c = true
  channelHandled : e.channelHandled c = true
  consumer : e.consumers c = 1

def SetsUp : Awaits → Prop
  | .connection => True
  | .channel c => e.connection = some c ∧ e.handled c = true ∧ e.consumers c = 0
  | .exchange c => e.connection = some c ∧ e.handled c = true ∧ e.consumers c = 0 ∧
      e.channelHandled c = true ∧ e.client = some c
  | .consumer c => e.connection = some c ∧ e.handled c = true ∧ e.consumers c = 0 ∧
      e.channelHandled c = true
  | .binding c => e.connection = some c ∧ e.handled c = true ∧ e.consumers c = 1 ∧
      e.channelHandled c = true

structure Base (e : EventConsumer) : Prop where
  opened : ∀ c, e.links c = .opened →
    e.connection = some c ∨ ∃ closing ∈ e.closings, closing.connection = some c
  apart : ∀ closing ∈ e.closings, ∀ c, closing.channel = some c ∨ closing.connection = some c →
    c < e.created ∧ e.connection ≠ some c
  old : ∀ c, e.connection = some c ∨ e.channel = some c ∨ e.client = some c → c < e.created
  setUpOld : ∀ setUp ∈ e.setUps, ∀ c ∈ setUp.awaits.on, c < e.created
  fresh : ∀ c, e.created ≤ c → e.links c ≠ .opened ∧ e.consumers c = 0
  stopped : e.stopped = true → e.connection = none

structure Inv (e : EventConsumer) : Prop extends Base e where
  one : pending e ≤ 1
  busy : pending e ≠ 0 → e.stopped = false → e.state = .connecting
  connected : e.state = .connected → pending e = 0 ∧ ∃ c, Serves e c
  closed : e.state = .closed → e.connection = none
  current : ∀ c, e.connection = some c → e.links c = .opened →
    e.state = .connected ∨ ∃ setUp ∈ e.setUps, setUp.awaits.on = some c
  setUps : e.stopped = false → ∀ setUp ∈ e.setUps, SetsUp e setUp.awaits

variable {e : EventConsumer} {closings : List Closing} {closing : Closing} {index c retry : Nat}
  {channels links : Nat → Link} {setUp : SetUp}

theorem attached_of_inv (inv : Inv e) : Attached e := by
  have isCurrent (none : e.closings = []) (c : Nat) (opened : e.links c = .opened) :
      e.connection = some c := by
    rcases inv.opened c opened with current | ⟨closing, there, _⟩
    · exact current
    · rw [none] at there
      cases there
  have noneOpened (stopped : e.stopped = true) (none : e.closings = []) (c : Nat) :
      e.links c ≠ .opened := by
    intro opened
    have current := isCurrent none c opened
    rw [inv.stopped stopped] at current
    cases current
  refine ⟨fun connected _ none => ?_, fun idle none unconnected c opened => ?_, noneOpened,
    fun stopped none c type token => ?_⟩
  · obtain ⟨_, c, serves⟩ := inv.connected connected
    refine ⟨c, serves.opened, fun d opened => ?_, serves.current, serves.channel, serves.consumer⟩
    have current := isCurrent none d opened
    rw [serves.current] at current
    exact (Option.some.inj current).symm
  · rcases inv.current c (isCurrent none c opened) opened with connected | ⟨setUp, there, _⟩
    · exact unconnected connected
    · rw [idle] at there
      cases there
  · have unusable : e.usable c = false := by
      simp [usable, noneOpened stopped none c]
    change (e.delivered c type token).outcomes = e.outcomes
    rw [delivered, if_neg (by simp [unusable])]

theorem setsUp_of_same {e' : EventConsumer} {awaits : Awaits} (setsUp : SetsUp e awaits)
    (connection : e'.connection = e.connection) (client : e'.client = e.client)
    (same : ∀ c, e.connection = some c → e'.handled c = e.handled c ∧
      e'.channelHandled c = e.channelHandled c ∧ e'.consumers c = e.consumers c) :
    SetsUp e' awaits := by
  cases awaits with
  | connection => trivial
  | channel c =>
    obtain ⟨current, handled, consumers⟩ := setsUp
    obtain ⟨first, _, third⟩ := same c current
    exact ⟨connection.trans current, first.trans handled, third.trans consumers⟩
  | exchange c =>
    obtain ⟨current, handled, consumers, channelHandled, itself⟩ := setsUp
    obtain ⟨first, second, third⟩ := same c current
    exact ⟨connection.trans current, first.trans handled, third.trans consumers,
      second.trans channelHandled, client.trans itself⟩
  | consumer c | binding c =>
    obtain ⟨current, handled, consumers, channelHandled⟩ := setsUp
    obtain ⟨first, second, third⟩ := same c current
    exact ⟨connection.trans current, first.trans handled, third.trans consumers,
      second.trans channelHandled⟩

theorem Base.of_closings (base : Base e)
    (opened : ∀ closing ∈ e.closings, ∀ c ∈ closing.connection, e.links c = .opened →
      ∃ closing' ∈ closings, closing'.connection = some c)
    (among : ∀ closing ∈ closings, ∀ c, closing.channel = some c ∨ closing.connection = some c →
      ∃ closing' ∈ e.closings, closing'.channel = some c ∨ closing'.connection = some c) :
    Base { e with closings := closings } := by
  refine ⟨?_, ?_, base.old, base.setUpOld, base.fresh, base.stopped⟩
  · intro c isOpen
    rcases base.opened c isOpen with current | ⟨closing, there, holds⟩
    · exact .inl current
    · exact .inr (opened closing there c holds isOpen)
  · intro closing there c holds
    obtain ⟨closing', there', holds'⟩ := among closing there c holds
    exact base.apart closing' there' c holds'

theorem Inv.of_closings (inv : Inv e) {handled channelHandled : Nat → Bool} {listeners : Nat}
    {outcomes : List Outcome}
    (same : ∀ c, e.connection = some c → handled c = e.handled c ∧
      channelHandled c = e.channelHandled c)
    (base : Base { e with closings := closings })
    (again : closings.countP (·.again) = e.closings.countP (·.again)) :
    Inv { e with
      handled := handled, channelHandled := channelHandled, closings := closings,
      listeners := listeners, outcomes := outcomes } := by
  have count : pending { e with
      handled := handled, channelHandled := channelHandled, closings := closings,
      listeners := listeners, outcomes := outcomes } = pending e :=
    congrArg (e.setUps.length + ·) again
  refine ⟨⟨base.opened, base.apart, base.old, base.setUpOld, base.fresh, base.stopped⟩, ?_, ?_, ?_,
    inv.closed, inv.current, ?_⟩
  · rw [count]
    exact inv.one
  · rw [count]
    exact inv.busy
  · rw [count]
    intro connected
    obtain ⟨idle, c, serves⟩ := inv.connected connected
    obtain ⟨first, second⟩ := same c serves.current
    exact ⟨idle, c, serves.current, serves.opened, serves.channel, first.trans serves.handled,
      second.trans serves.channelHandled, serves.consumer⟩
  · intro going setUp there
    refine setsUp_of_same (inv.setUps going setUp there) rfl rfl ?_
    exact fun c current => ⟨(same c current).1, (same c current).2, rfl⟩

theorem Inv.of_outcomes (inv : Inv e) (listeners : Nat) (outcomes : List Outcome) :
    Inv { e with listeners := listeners, outcomes := outcomes } :=
  inv.of_closings (fun _ _ => ⟨rfl, rfl⟩) inv.toBase rfl

theorem inv_delivered (inv : Inv e) (c : Nat) (type : Option EventType)
    (token : Option EventToken) : Inv (e.delivered c type token) := by
  have logs (outcome : Outcome) := inv.of_outcomes e.listeners (e.outcomes ++ [outcome])
  unfold delivered onMessage
  split
  · split
    · exact logs .acked
    · split <;> exact logs _
  · exact inv

theorem inv_begun (base : Base e) (noAgain : e.closings.countP (·.again) = 0)
    {setUps : List SetUp} (few : setUps.length ≤ 1)
    (begins : ∀ setUp ∈ setUps, setUp.awaits = .connection)
    (dead : ∀ c, e.connection = some c → e.links c ≠ .opened) :
    Inv { e with state := .connecting, setUps := setUps } := by
  refine ⟨⟨base.opened, base.apart, base.old, ?_, base.fresh, base.stopped⟩, ?_, fun _ _ => rfl, ?_,
    ?_, ?_, ?_⟩
  · intro setUp there c on
    rw [begins setUp there] at on
    cases on
  · unfold pending
    dsimp only
    omega
  · intro connected
    cases connected
  · intro closed
    cases closed
  · intro c current opened
    exact absurd opened (dead c current)
  · intro _ setUp there
    rw [begins setUp there]
    trivial

theorem inv_connect (base : Base e) (idle : pending e = 0)
    (dead : ∀ c, e.connection = some c → e.links c ≠ .opened) : Inv e.connect := by
  obtain ⟨noSetUp, noAgain⟩ := Nat.add_eq_zero_iff.mp idle
  have none : e.setUps = [] := eq_nil_of_length_eq_zero noSetUp
  unfold connect
  rw [none]
  apply inv_begun base noAgain
  · simp
  · simp
  · exact dead

theorem perm_erase (there : closings[index]? = some closing) :
    (closing :: closings.eraseIdx index).Perm closings := by
  obtain ⟨inside, itself⟩ := List.getElem?_eq_some_iff.mp there
  rw [← itself]
  exact getElem_cons_eraseIdx_perm inside

theorem base_erase (base : Base e) (there : e.closings[index]? = some closing)
    (dead : ∀ c ∈ closing.connection, e.links c ≠ .opened) :
    Base { e with closings := e.closings.eraseIdx index } := by
  have perm := perm_erase there
  apply base.of_closings
  · intro closing' there' c holds opened
    rcases mem_cons.mp (perm.mem_iff.mpr there') with itself | other
    · subst itself
      exact absurd opened (dead c holds)
    · exact ⟨closing', other, holds⟩
  · intro closing' there' c holds
    exact ⟨closing', perm.mem_iff.mp (mem_cons_of_mem closing there'), holds⟩

theorem dead_of_again (inv : Inv e) (again : 0 < e.closings.countP (·.again)) (c : Nat)
    (current : e.connection = some c) : e.links c ≠ .opened := by
  intro opened
  have one := inv.one
  unfold pending at one
  rcases inv.current c current opened with connected | ⟨setUp, there, _⟩
  · have idle := (inv.connected connected).1
    unfold pending at idle
    omega
  · have some := length_pos_of_mem there
    omega

theorem inv_closeEnds (inv : Inv e) (there : e.closings[index]? = some closing)
    (dead : ∀ c ∈ closing.connection, e.links c ≠ .opened) :
    Inv ({ e with closings := e.closings.eraseIdx index }.closeEnds closing.again) := by
  have base := base_erase inv.toBase there dead
  have count := (perm_erase there).countP_eq (·.again)
  rw [countP_cons] at count
  unfold closeEnds
  cases again : closing.again with
  | false =>
    rw [again] at count
    exact inv.of_closings (fun _ _ => ⟨rfl, rfl⟩) base count
  | true =>
    rw [again] at count
    have one := inv.one
    unfold pending at one
    simp only [if_true] at count
    have dead := dead_of_again inv (by omega)
    refine inv_connect base ?_ dead
    show e.setUps.length + (e.closings.eraseIdx index).countP (·.again) = 0
    omega

theorem inv_closeConnection (inv : Inv e) (there : e.closings[index]? = some closing) :
    Inv ({ e with closings := e.closings.eraseIdx index }.closeConnection closing.connection
      closing.again) := by
  cases connection : closing.connection with
  | none => exact inv_closeEnds inv there (by simp [connection])
  | some c =>
    have perm := perm_erase there
    have isThere := mem_of_getElem? there
    have apart := (inv.apart closing isThere c (.inr connection)).2
    refine inv.of_closings (fun d current => ⟨?_, rfl⟩) (inv.toBase.of_closings ?_ ?_) ?_
    · rw [update_of_ne]
      intro same
      rw [same] at current
      exact apart current
    · intro closing' there' d holds _
      rcases mem_cons.mp (perm.mem_iff.mpr there') with itself | other
      · subst itself
        refine ⟨⟨none, some c, closing'.again⟩, by simp, ?_⟩
        exact connection.symm.trans holds
      · exact ⟨closing', mem_append_left _ other, holds⟩
    · intro closing' there' d holds
      rcases mem_append.mp there' with old | new
      · exact ⟨closing', perm.mem_iff.mp (mem_cons_of_mem closing old), holds⟩
      · rw [mem_singleton.mp new] at holds
        refine ⟨closing, isThere, .inr ?_⟩
        rw [connection]
        rcases holds with none | itself
        · cases none
        · exact itself
    · have count := perm.countP_eq (·.again)
      rw [countP_cons] at count
      rw [← count, countP_append]
      simp

def Fewer (e : EventConsumer) (links : Nat → Link) : Prop :=
  ∀ c, links c = .opened → e.links c = .opened

def handOver (e : EventConsumer) (again : Bool) : EventConsumer :=
  { e with
    channel := none
    connection := none
    client := none
    closings := e.closings ++ [⟨e.channel, e.connection, again⟩] }

theorem base_handOver (base : Base e) (state : State) (stopped again : Bool)
    (fewer : Fewer e links) : Base (handOver { e with
      state := state, stopped := stopped, links := links, channels := channels } again) := by
  refine ⟨?_, ?_, ?_, base.setUpOld, ?_, fun _ => rfl⟩
  · intro c opened
    right
    rcases base.opened c (fewer c opened) with current | ⟨closing, there, holds⟩
    · exact ⟨⟨e.channel, e.connection, again⟩, mem_append_right _ (by simp), current⟩
    · exact ⟨closing, mem_append_left _ there, holds⟩
  · intro closing there c holds
    refine ⟨?_, by simp [handOver]⟩
    rcases mem_append.mp there with old | new
    · exact (base.apart closing old c holds).1
    · rw [mem_singleton.mp new] at holds
      rcases holds with channel | connection
      · exact base.old c (.inr (.inl channel))
      · exact base.old c (.inl connection)
  · simp [handOver]
  · intro c new
    exact ⟨fun opened => (base.fresh c new).1 (fewer c opened), (base.fresh c new).2⟩

theorem eraseIdx_last (closings : List Closing) (closing : Closing) :
    (closings ++ [closing]).eraseIdx closings.length = closings := by
  rw [eraseIdx_append_of_length_le (Nat.le_refl _)]
  simp

theorem inv_doClose {again : Bool} (inv : Inv (handOver e again)) : Inv (e.doClose again) := by
  obtain ⟨kind, maxConnectionRetry, state, connection, channel, client, setUps, closings, links,
    channels, handled, channelHandled, consumers, created, stopped, listeners, outcomes⟩ := e
  cases channel with
  | some c => exact inv.of_closings (fun _ current => by cases current) inv.toBase rfl
  | none =>
    have there : (closings ++ [⟨none, connection, again⟩])[closings.length]? =
        some ⟨none, connection, again⟩ := by
      simp
    have goesOn := inv_closeConnection inv there
    unfold handOver at goesOn
    dsimp only at goesOn
    rw [eraseIdx_last] at goesOn
    exact goesOn

theorem inv_stopped (inv : Inv e) :
    Inv ({ e with state := .closed, stopped := true }.doClose false) := by
  apply inv_doClose
  refine ⟨base_handOver inv.toBase .closed true false fun _ opened => opened, ?_, ?_, ?_,
    fun _ => rfl, ?_, ?_⟩
  · have one := inv.one
    unfold pending at one ⊢
    simpa [handOver] using one
  · intro _ going
    cases going
  · intro connected
    cases connected
  · intro c current
    cases current
  · intro going
    cases going

theorem inv_close (inv : Inv e) : Inv e.close := inv_stopped (inv.of_outcomes 0 e.outcomes)

theorem inv_reconnect (inv : Inv e) (current : e.connection = some c)
    (unconnecting : e.state ≠ .connecting) (fewer : Fewer e links) :
    Inv ({ e with links := links, channels := channels }.reconnect) := by
  have connected : e.state = .connected := by
    cases state : e.state with
    | closed =>
      rw [inv.closed state] at current
      cases current
    | connecting => exact absurd state unconnecting
    | connected => rfl
  obtain ⟨idle, _⟩ := inv.connected connected
  obtain ⟨noSetUp, noAgain⟩ := Nat.add_eq_zero_iff.mp idle
  have none : e.setUps = [] := eq_nil_of_length_eq_zero noSetUp
  unfold reconnect
  rw [if_neg (by exact unconnecting)]
  apply inv_doClose
  refine ⟨base_handOver inv.toBase .connecting e.stopped true fewer, ?_, fun _ _ => rfl, ?_, ?_, ?_,
    ?_⟩
  · unfold pending
    simp [handOver, none, noAgain]
  · intro connected
    cases connected
  · intro closed
    cases closed
  · intro c current
    cases current
  · intro _ setUp there
    change setUp ∈ e.setUps at there
    rw [none] at there
    cases there

theorem Inv.of_fewer (inv : Inv e) (fewer : Fewer e links)
    (serves : e.state = .connected → ∀ c, Serves e c → links c = .opened ∧ channels c = .opened) :
    Inv { e with links := links, channels := channels } := by
  refine ⟨⟨?_, inv.apart, inv.old, inv.setUpOld, ?_, inv.stopped⟩, inv.one, inv.busy, ?_,
    inv.closed, ?_, ?_⟩
  · exact fun c opened => inv.opened c (fewer c opened)
  · exact fun c new => ⟨fun opened => (inv.fresh c new).1 (fewer c opened), (inv.fresh c new).2⟩
  · intro connected
    obtain ⟨idle, c, has⟩ := inv.connected connected
    obtain ⟨opened, channel⟩ := serves connected c has
    exact ⟨idle, c, has.current, opened, channel, has.handled, has.channelHandled, has.consumer⟩
  · exact fun c current opened => inv.current c current (fewer c opened)
  · intro going setUp there
    refine setsUp_of_same (inv.setUps going setUp there) rfl rfl ?_
    exact fun _ _ => ⟨rfl, rfl, rfl⟩

theorem reconnect_connecting (connecting : e.state = .connecting) : e.reconnect = e := by
  unfold reconnect
  rw [if_pos connecting]

theorem inv_connectionEnds (inv : Inv e) (c : Nat) {ends : Link} (other : ends ≠ .opened)
    (permitted : e.links c = .opened ∨ e.links c = .failed → Own e e.handled c) :
    Inv (e.connectionEnds c ends) := by
  have fewer : Fewer e (update e.links c ends) := by
    intro d opened
    by_cases same : d = c
    · subst same
      rw [update_self] at opened
      exact absurd opened other
    · rwa [update_of_ne same] at opened
  unfold connectionEnds
  split
  · rename_i alive
    have own := permitted alive
    dsimp only
    by_cases handled : e.handled c = true
    · rw [if_pos handled]
      by_cases connecting : e.state = .connecting
      · rw [reconnect_connecting]
        · apply inv.of_fewer fewer
          intro connected
          rw [connecting] at connected
          cases connected
        · exact connecting
      · exact inv_reconnect inv (own handled connecting) connecting fewer
    · rw [if_neg handled]
      apply inv.of_fewer fewer
      intro _ d serves
      refine ⟨?_, serves.channel⟩
      rw [update_of_ne, serves.opened]
      intro same
      rw [same] at serves
      exact handled serves.handled
  · exact inv

theorem inv_channelEnds (inv : Inv e) (c : Nat) {ends : Link}
    (permitted : e.channels c = .opened ∨ e.channels c = .failed → Own e e.channelHandled c) :
    Inv (e.channelEnds c ends) := by
  have fewer : Fewer e e.links := fun _ opened => opened
  unfold channelEnds
  split
  · rename_i alive
    have own := permitted alive
    dsimp only
    by_cases handled : e.channelHandled c = true
    · rw [if_pos handled]
      by_cases connecting : e.state = .connecting
      · rw [reconnect_connecting]
        · apply inv.of_fewer fewer
          intro connected
          rw [connecting] at connected
          cases connected
        · exact connecting
      · exact inv_reconnect inv (own handled connecting) connecting fewer
    · rw [if_neg handled]
      apply inv.of_fewer fewer
      intro _ d serves
      refine ⟨serves.opened, ?_⟩
      rw [update_of_ne, serves.channel]
      intro same
      rw [same] at serves
      exact handled serves.channelHandled
  · exact inv

theorem inv_channelCloseSettled (inv : Inv e) (index : Nat) (ok : Bool)
    (permitted : Permitted e (.channelCloseSettled index ok)) :
    Inv (e.channelCloseSettled index ok) := by
  obtain ⟨kind, maxConnectionRetry, state, connection, channel, client, setUps, closings, links,
    channels, handled, channelHandled, consumers, created, stopped, listeners, outcomes⟩ := e
  unfold channelCloseSettled
  dsimp only
  split
  · rename_i c held again there
    have apart := (inv.apart _ (mem_of_getElem? there) c (.inl rfl)).2
    have settled : Inv ⟨kind, maxConnectionRetry, state, connection, channel, client, setUps,
        closings, links, if ok then update channels c .closed else channels, handled,
        channelHandled, consumers, created, stopped, listeners, outcomes⟩ := by
      refine inv.of_fewer (fun _ opened => opened) fun _ d serves => ⟨serves.opened, ?_⟩
      split
      · rw [update_of_ne]
        · exact serves.channel
        · intro same
          rw [← same] at apart
          exact apart serves.current
      · exact serves.channel
    have goesOn := inv_closeConnection settled there
    cases kind with
    | playToken => exact goesOn
    | control =>
      cases ok with
      | true => exact goesOn
      | false =>
        -- The connection is not closed then.
        exact inv_closeEnds settled there (permitted rfl rfl _ there)
  · exact inv

theorem inv_connectionCloseSettled (inv : Inv e) (index : Nat) :
    Inv (e.connectionCloseSettled index) := by
  unfold connectionCloseSettled
  split
  · rename_i c again there
    split
    · exact inv
    · rename_i dead
      apply inv_closeEnds inv there
      rintro d itself
      cases itself
      exact dead
  · exact inv

/-! ## The steps of the set-up -/

theorem only (inv : Inv e) (there : e.setUps[index]? = some setUp) :
    e.setUps = [setUp] ∧ index = 0 ∧ e.closings.countP (·.again) = 0 := by
  have one := inv.one
  unfold pending at one
  cases setUps : e.setUps with
  | nil =>
    rw [setUps] at there
    cases there
  | cons first rest =>
    rw [setUps, length_cons] at one
    have none : rest = [] := eq_nil_of_length_eq_zero (by omega)
    rw [setUps, none] at there
    obtain ⟨inside, itself⟩ := List.getElem?_eq_some_iff.mp there
    have zero : index = 0 := by simpa using inside
    subst zero none
    refine ⟨?_, rfl, by omega⟩
    rw [← itself]
    rfl

theorem on_of_current (inv : Inv e) (there : e.setUps[index]? = some setUp) (c : Nat)
    (current : e.connection = some c) (opened : e.links c = .opened) :
    setUp.awaits.on = some c := by
  obtain ⟨single, _, _⟩ := only inv there
  rcases inv.current c current opened with connected | ⟨setUp', there', on⟩
  · have idle := (inv.connected connected).1
    unfold pending at idle
    rw [single] at idle
    simp at idle
  · rw [single, mem_singleton] at there'
    subst there'
    exact on

theorem inv_failed (inv : Inv e) (index : Nat)
    (dead : ∀ setUp ∈ e.setUps[index]?, ∀ c ∈ setUp.awaits.on, e.connection = some c →
      e.links c ≠ .opened) :
    Inv (e.failed index) := by
  unfold EventConsumer.failed
  split
  · rename_i setUp there
    obtain ⟨single, first, noAgain⟩ := only inv there
    have none (c : Nat) (current : e.connection = some c) : e.links c ≠ .opened := by
      intro opened
      exact dead setUp there c (on_of_current inv there c current opened) current opened
    subst first
    dsimp only
    unfold setSetUp
    rw [single]
    split <;> apply inv_begun inv.toBase noAgain (by simp) (by simp) none
  · exact inv

theorem Inv.advanced {e' : EventConsumer} (inv : Inv e) {setUp' : SetUp}
    (there : e.setUps[index]? = some setUp) (base : Base e')
    (setUps : e'.setUps = e.setUps.set index setUp') (closings : e'.closings = e.closings)
    (state : e'.state = e.state) (stopped : e'.stopped = e.stopped)
    (closed : e.state = .closed → e'.connection = none)
    (current : ∀ c, e'.connection = some c → e'.links c = .opened → setUp'.awaits.on = some c)
    (has : e.stopped = false → SetsUp e' setUp'.awaits) : Inv e' := by
  obtain ⟨single, first, noAgain⟩ := only inv there
  subst first
  rw [single] at setUps
  have itself : e'.setUps = [setUp'] := setUps
  have count : pending e = 1 := by
    unfold pending
    rw [single, noAgain]
    rfl
  have count' : pending e' = 1 := by
    unfold pending
    rw [itself, closings, noAgain]
    rfl
  refine ⟨base, ?_, ?_, ?_, ?_, ?_, ?_⟩
  · omega
  · rw [stopped, state]
    exact fun _ => inv.busy (by omega)
  · rw [state]
    intro connected
    have idle := (inv.connected connected).1
    omega
  · rw [state]
    exact closed
  · intro c isCurrent opened
    right
    refine ⟨setUp', ?_, current c isCurrent opened⟩
    rw [itself]
    exact mem_singleton_self setUp'
  · rw [stopped]
    intro going other there'
    rw [itself, mem_singleton] at there'
    subst there'
    exact has going

theorem inv_connected (inv : Inv e) (there : e.setUps[index]? = some ⟨retry, .connection⟩)
    (going : e.stopped = false) : Inv { e.setSetUp index ⟨retry, .channel e.created⟩ with
      connection := some e.created
      links := update e.links e.created .opened
      handled := update e.handled e.created true
      created := e.created + 1 } := by
  obtain ⟨single, first, _⟩ := only inv there
  have connecting : e.state = .connecting := by
    apply inv.busy _ going
    unfold pending
    rw [single]
    simp
  refine inv.advanced there ⟨?_, ?_, ?_, ?_, ?_, ?_⟩ rfl rfl rfl rfl ?_ ?_ ?_
  · intro c opened
    by_cases same : c = e.created
    · exact .inl (congrArg some same.symm)
    · dsimp only at opened
      rw [update_of_ne same] at opened
      rcases inv.opened c opened with current | closing
      · have on := on_of_current inv there c current opened
        cases on
      · exact .inr closing
  · intro closing isThere c holds
    have old := (inv.apart closing isThere c holds).1
    refine ⟨Nat.lt_succ_of_lt old, ?_⟩
    intro itself
    cases itself
    exact Nat.lt_irrefl _ old
  · rintro c (current | other)
    · cases current
      exact Nat.lt_succ_self _
    · exact Nat.lt_succ_of_lt (inv.old c (.inr other))
  · intro setUp isThere c on
    dsimp only [setSetUp] at isThere
    rw [single, first, set_cons_zero, mem_singleton] at isThere
    subst isThere
    cases on
    exact Nat.lt_succ_self _
  · intro c new
    dsimp only at new ⊢
    rw [update_of_ne (by omega)]
    exact inv.fresh c (by omega)
  · intro stopped
    change e.stopped = true at stopped
    rw [going] at stopped
    cases stopped
  · intro closed
    rw [connecting] at closed
    cases closed
  · exact fun c current _ => current
  · intro _
    refine ⟨rfl, update_self _ _ _, ?_⟩
    exact (inv.fresh e.created (Nat.le_refl _)).2

theorem Base.of_step (base : Base e) {channel client : Option Nat} {setUps : List SetUp}
    {channelHandled : Nat → Bool} {consumers : Nat → Nat}
    (old : ∀ c, channel = some c ∨ client = some c → c < e.created)
    (setUpOld : ∀ setUp ∈ setUps, ∀ c ∈ setUp.awaits.on, c < e.created)
    (fresh : ∀ c, e.created ≤ c → consumers c = 0) : Base { e with
      channel := channel, client := client, setUps := setUps, channels := channels,
      channelHandled := channelHandled, consumers := consumers } := by
  refine ⟨base.opened, base.apart, ?_, setUpOld, ?_, base.stopped⟩
  · rintro c (current | other)
    · exact base.old c (.inl current)
    · exact old c other
  · exact fun c new => ⟨(base.fresh c new).1, fresh c new⟩

section

variable (inv : Inv e)
include inv

theorem setUpOld_of_single {setUp' : SetUp} (there : e.setUps[index]? = some setUp)
    (old : ∀ c ∈ setUp'.awaits.on, c < e.created) :
    ∀ other ∈ e.setUps.set index setUp', ∀ c ∈ other.awaits.on, c < e.created := by
  obtain ⟨single, first, _⟩ := only inv there
  intro other isThere
  rw [single, first, set_cons_zero, mem_singleton] at isThere
  subst isThere
  exact old

theorem setsUp_of_there (there : e.setUps[index]? = some setUp) :
    (e.stopped = false → SetsUp e setUp.awaits) ∧ ∀ c ∈ setUp.awaits.on, c < e.created := by
  have isThere := mem_of_getElem? there
  exact ⟨fun going => inv.setUps going setUp isThere, inv.setUpOld setUp isThere⟩

theorem inv_channelMade (there : e.setUps[index]? = some ⟨retry, .channel c⟩) :
    Inv { e.setSetUp index ⟨retry, .exchange c⟩ with
      channel := some c
      client := some c
      channels := update e.channels c .opened
      channelHandled := update e.channelHandled c true } := by
  obtain ⟨has, old⟩ := setsUp_of_there inv there
  have isOld := old c rfl
  refine inv.advanced there (inv.toBase.of_step ?_ ?_ ?_) rfl rfl rfl rfl inv.closed ?_ ?_
  · rintro d (itself | itself)
    all_goals cases itself; exact isOld
  · exact setUpOld_of_single inv there old
  · exact fun d new => (inv.fresh d new).2
  · exact fun d current opened => (on_of_current inv there d current opened : some c = some d)
  · intro going
    obtain ⟨current, handled, consumers⟩ := has going
    exact ⟨current, handled, consumers, update_self _ _ _, rfl⟩

theorem inv_exchangeMade {d : Nat}
    (there : e.setUps[index]? = some ⟨retry, .exchange c⟩) (client : e.client = some d) :
    Inv (e.setSetUp index ⟨retry, .consumer d⟩) := by
  obtain ⟨has, _⟩ := setsUp_of_there inv there
  have same (going : e.stopped = false) : d = c := by
    obtain ⟨_, _, _, _, itself⟩ := has going
    rw [client] at itself
    exact Option.some.inj itself
  refine inv.advanced there (inv.toBase.of_step ?_ ?_ ?_) rfl rfl rfl rfl inv.closed ?_ ?_
  · exact fun x other => inv.old x (.inr other)
  · apply setUpOld_of_single inv there
    rintro x itself
    cases itself
    exact inv.old d (.inr (.inr client))
  · exact fun x new => (inv.fresh x new).2
  · intro x current opened
    have on := on_of_current inv there x current opened
    cases going : e.stopped with
    | true =>
      change e.connection = some x at current
      rw [inv.stopped going] at current
      cases current
    | false =>
      rw [same going]
      exact on
  · intro going
    obtain ⟨current, handled, consumers, channelHandled, _⟩ := has going
    rw [same going]
    exact ⟨current, handled, consumers, channelHandled⟩

theorem inv_consumerMade (there : e.setUps[index]? = some ⟨retry, .consumer c⟩) :
    Inv { e.setSetUp index ⟨retry, .binding c⟩ with
      consumers := update e.consumers c (e.consumers c + 1) } := by
  obtain ⟨has, old⟩ := setsUp_of_there inv there
  have isOld := old c rfl
  refine inv.advanced there (inv.toBase.of_step ?_ ?_ ?_) rfl rfl rfl rfl inv.closed ?_ ?_
  · exact fun d other => inv.old d (.inr other)
  · exact setUpOld_of_single inv there old
  · intro d new
    rw [update_of_ne (by omega)]
    exact (inv.fresh d new).2
  · exact fun d current opened => (on_of_current inv there d current opened : some c = some d)
  · intro going
    obtain ⟨current, handled, consumers, channelHandled⟩ := has going
    refine ⟨current, handled, ?_, channelHandled⟩
    rw [consumers]
    exact update_self _ _ _

theorem inv_bound (there : e.setUps[index]? = some ⟨retry, .binding c⟩)
    (going : e.stopped = false) (opened : e.links c = .opened) (channel : e.channels c = .opened) :
    Inv { e with state := .connected, setUps := e.setUps.eraseIdx index } := by
  obtain ⟨single, first, noAgain⟩ := only inv there
  obtain ⟨current, handled, consumers, channelHandled⟩ := (setsUp_of_there inv there).1 going
  have none : e.setUps.eraseIdx index = [] := by
    rw [single, first]
    rfl
  rw [none]
  have idle : pending { e with state := .connected, setUps := [] } = 0 := by
    unfold pending
    dsimp only
    rw [noAgain]
    rfl
  refine ⟨⟨inv.opened, inv.apart, inv.old, by simp, inv.fresh, inv.stopped⟩, ?_, ?_, ?_, ?_, ?_,
    by simp⟩
  · omega
  · exact fun some => absurd idle some
  · exact fun _ => ⟨idle, c, current, opened, channel, handled, channelHandled, consumers⟩
  · intro closed
    cases closed
  · exact fun _ _ _ => .inl rfl

theorem inv_succeeded (index : Nat)
    (permitted : ∀ setUp ∈ e.setUps[index]?, Timely e setUp) : Inv (e.succeeded index) := by
  unfold succeeded
  split
  · exact inv
  · rename_i setUp there
    obtain ⟨retry, awaits⟩ := setUp
    have timely := permitted _ there
    cases awaits with
    | connection => exact inv_connected inv there timely
    | channel c =>
      dsimp only
      split
      · exact inv_channelMade inv there
      · exact inv
    | exchange c =>
      dsimp only
      split
      · split
        · rename_i d client
          exact inv_exchangeMade inv there client
        · rename_i none
          -- The client is gone only after `close`, which took the connection as well.
          apply inv_failed inv
          intro setUp there' d _ current
          cases going : e.stopped with
          | true =>
            rw [inv.stopped going] at current
            cases current
          | false =>
            obtain ⟨_, _, _, _, client⟩ := (setsUp_of_there inv there).1 going
            rw [none] at client
            cases client
      · exact inv
    | consumer c =>
      dsimp only
      split
      · exact inv_consumerMade inv there
      · exact inv
    | binding c =>
      dsimp only
      split
      · rename_i isUsable
        unfold usable at isUsable
        obtain ⟨opened, channel⟩ := Bool.and_eq_true_iff.mp isUsable
        exact inv_bound inv there timely (of_decide_eq_true opened) (of_decide_eq_true channel)
      · exact inv

theorem inv_open (permitted : e.state = .closed → Idle e) : Inv e.open := by
  unfold EventConsumer.open
  split
  · rename_i closed
    obtain ⟨noSetUp, noAgain⟩ := permitted closed
    have none := inv.closed closed
    refine inv_connect ⟨inv.opened, inv.apart, inv.old, inv.setUpOld, inv.fresh, fun _ => none⟩ ?_
      ?_
    · show e.setUps.length + e.closings.countP (·.again) = 0
      rw [noSetUp, countP_eq_zero.mpr]
      · rfl
      · intro closing there
        rw [noAgain closing there]
        simp
    · intro c current
      change e.connection = some c at current
      rw [none] at current
      cases current
  · exact inv

end

theorem inv_step (e : EventConsumer) (action : Action) (inv : Inv e)
    (permitted : Permitted e action) : Inv (step e action) := by
  cases action with
  | «open» => exact inv_open inv permitted
  | close => exact inv_close inv
  | channelCloseSettled index ok => exact inv_channelCloseSettled inv index ok permitted
  | connectionCloseSettled index => exact inv_connectionCloseSettled inv index
  | succeeded index => exact inv_succeeded inv index permitted
  | failed index =>
    apply inv_failed inv
    exact fun setUp there c on _ => permitted setUp there c on
  | connectionFailed c | connectionClosed c => exact inv_connectionEnds inv c (by simp) permitted
  | channelFailed c | channelClosed c => exact inv_channelEnds inv c permitted
  | on => exact inv.of_outcomes (e.listeners + 1) e.outcomes
  | delivered c type token => exact inv_delivered inv c type token

theorem inv_new (kind : Kind) (maxConnectionRetry : Nat) : Inv (new kind maxConnectionRetry) := by
  refine ⟨⟨?_, ?_, ?_, ?_, ?_, ?_⟩, ?_, ?_, ?_, ?_, ?_, ?_⟩ <;> simp [new, pending]

theorem connecting_of_other {handled : Nat → Bool} (own : Own e handled c)
    (isHandled : handled c = true) (other : e.connection ≠ some c) : e.state = .connecting := by
  by_contra unconnecting
  exact other (own isHandled unconnecting)

theorem leavesOthers_of_permitted (e : EventConsumer) (action : Action)
    (permitted : Permitted e action) : LeavesOthers e action := by
  have connectionEnds (c : Nat) (ends : Link) (other : e.connection ≠ some c)
      (own : e.links c = .opened ∨ e.links c = .failed → Own e e.handled c) :
      (e.connectionEnds c ends).state = e.state ∧
        (e.connectionEnds c ends).connection = e.connection := by
    unfold EventConsumer.connectionEnds
    split
    · rename_i alive
      dsimp only
      split
      · rename_i handled
        rw [reconnect_connecting]
        · exact ⟨rfl, rfl⟩
        · exact connecting_of_other (own alive) handled other
      · exact ⟨rfl, rfl⟩
    · exact ⟨rfl, rfl⟩
  have channelEnds (c : Nat) (ends : Link) (other : e.connection ≠ some c)
      (own : e.channels c = .opened ∨ e.channels c = .failed → Own e e.channelHandled c) :
      (e.channelEnds c ends).state = e.state ∧
        (e.channelEnds c ends).connection = e.connection := by
    unfold EventConsumer.channelEnds
    split
    · rename_i alive
      dsimp only
      split
      · rename_i handled
        rw [reconnect_connecting]
        · exact ⟨rfl, rfl⟩
        · exact connecting_of_other (own alive) handled other
      · exact ⟨rfl, rfl⟩
    · exact ⟨rfl, rfl⟩
  rintro c (rfl | rfl | rfl | rfl) other
  · exact connectionEnds c .failed other permitted
  · exact connectionEnds c .closed other permitted
  · exact channelEnds c .failed other permitted
  · exact channelEnds c .closed other permitted

/-- A consumer stays attached by one connection. -/
theorem attached_of_permitted (kind : Kind) (maxConnectionRetry : Nat) (actions : List Action)
    (run : Run.Allowed step Permitted (new kind maxConnectionRetry) actions) :
    Attached (Run.final step (new kind maxConnectionRetry) actions) ∧
      Run.Allowed step LeavesOthers (new kind maxConnectionRetry) actions := by
  constructor
  · apply attached_of_inv
    exact Run.invariant inv_step _ actions (inv_new kind maxConnectionRetry) run
  · apply Run.Allowed.mono_of_mem (new kind maxConnectionRetry) actions _ run
    exact fun e action _ => leavesOthers_of_permitted e action

def allSteps : List Action :=
  [.succeeded 0, .succeeded 0, .succeeded 0, .succeeded 0, .succeeded 0]

/-- The channel fails, and the connection is rebuilt at the second try. -/
def rebuilt : List Action :=
  [.on, .open] ++ allSteps ++
    [.delivered 0 (some .revoke) (some ⟨some "1", none, none, none⟩), .channelFailed 0,
      .channelCloseSettled 0 false, .connectionClosed 0,
      .connectionCloseSettled 0, .failed 0] ++
    allSteps ++ [.close, .channelCloseSettled 0 true, .connectionClosed 1,
      .connectionCloseSettled 0]

theorem attached_of_permitted_rebuilt : Attached (Run.final step (new .playToken 5) rebuilt) ∧
      Run.Allowed step LeavesOthers (new .playToken 5) rebuilt :=
  attached_of_permitted .playToken 5 rebuilt (by decide +kernel)

def refused : List Action :=
  [.open, .succeeded 0, .succeeded 0, .failed 0] ++ allSteps

def closedEarly : List Action := [.open, .close] ++ allSteps

def rebuiltBeside : List Action :=
  [.open] ++ allSteps ++ [.channelFailed 0, .channelCloseSettled 0 false] ++ allSteps

/-- The connection of a failed attempt stays open, one is open after `close`, and the control
consumer leaves the connection it replaces open. -/
theorem refused_attachedTwice :
    (¬ ∀ (kind : Kind) (maxConnectionRetry : Nat) (actions : List Action),
        Attached (Run.final step (new kind maxConnectionRetry) actions)) ∧
      ¬ Attached (Run.final step (new .playToken 5) refused) ∧
      ¬ Attached (Run.final step (new .playToken 5) closedEarly) ∧
      ¬ Attached (Run.final step (new .control 5) rebuiltBeside) := by
  have twice : ¬ Attached (Run.final step (new .playToken 5) refused) := by
    intro attached
    obtain ⟨c, by'⟩ := attached.attached rfl rfl rfl
    have first := by'.alone 0 (by decide)
    have second := by'.alone 1 (by decide)
    omega
  refine ⟨fun claimed => twice (claimed .playToken 5 refused), twice, ?_, ?_⟩
  · intro attached
    exact attached.closed (by decide) rfl 0 (by decide)
  · intro attached
    obtain ⟨c, by'⟩ := attached.attached rfl rfl rfl
    have first := by'.alone 0 (by decide)
    have second := by'.alone 1 (by decide)
    omega

end EventConsumers
end AkashicSystem.PlaylogServer
