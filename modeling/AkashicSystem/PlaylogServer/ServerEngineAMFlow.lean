import AkashicSystem.PlaylogServer.PlayTokenValidator

/-!
# The AMFlow of a session

`ServerEngineAMFlow`: the operations a client calls on its play, and what they
make the handlers do.  The permission is a copy, taken when the session is
authenticated; the holder of the token is shared with the validator.
-/

set_option autoImplicit false

namespace AkashicSystem.PlaylogServer

open AkashicSystem.Js

/-- An element of an event: a decoded value, or a number of the permission. -/
inductive Item where
  | decoded (value : Value)
  | number (n : Number)

namespace Item

def asNumber : Item → Option Number
  | .decoded value => value.asNumber
  | .number n => some n

/-- `ToNumber`; what is no number is converted by `convert`. -/
def toNumber (convert : Value → Except TypeError Number) : Item → Except TypeError Number
  | .decoded value =>
    match value.asNumber with
    | some n => .ok n
    | none => convert value
  | .number n => .ok n

def truthy : Item → Bool
  | .decoded value => value.truthy
  | .number n => n ≠ .nan ∧ n ≠ 0

/-- `item === text`. -/
def isText (item : Item) (text : String) : Bool :=
  match item with
  | .decoded (.text s) => s = text
  | _ => false

/-- `item == null`. -/
def isNull : Item → Bool
  | .decoded .null => true
  | _ => false

end Item

/-- The elements of an event; `none` is an element that is `undefined`. -/
abbrev Event := List (Option Item)

namespace Event

def get (event : Event) (i : Nat) : Option Item := event[i]?.join

def set (event : Event) (i : Nat) (item : Item) : Event :=
  if i < event.length then List.set event i (some item)
  else event ++ List.replicate (i - event.length) none ++ [some item]

end Event

structure EventLimitCount where
  mainPlayer : Number
  subPlayer : Number

/-- What the operations take from other modules: the codec, the conversions of the
language, the event codes, the configured limits. -/
structure Engine where
  decodeEvent : List UInt8 → Option Value
  toNumber : Value → Except TypeError Number
  eventCodeWhiteList : List Int
  eventLimitCount : EventLimitCount

/-- `createError(name, message)`. -/
structure AMFlowError where
  name : String
  message : String

def createRuntimeError (message : String) : AMFlowError := ⟨"Runtimer", message⟩

def createPermissionError (message : String) : AMFlowError := ⟨"Permission", message⟩

def createTokenRevokedError : AMFlowError :=
  ⟨"TokenRevoked", "Authenticated token has been revoked"⟩

/-- A call of the handlers, of a listener or of a callback. -/
inductive Effect where
  | closePlaylog
  | prepare
  | acquireWriteLock
  | publishTickRaw (tick : List UInt8)
  | publishEvent (event : Event)
  | consumeTick
  | offConsumeTick
  | consumeEvent
  | offConsumeEvent
  | onTick (handler : Nat) (tick : List UInt8)
  | onEvent (handler : Nat) (event : List UInt8)
  | getPlay
  | getRawTickList («begin» «end» : Number)
  | getRawTickListExcludedIgnorable («begin» «end» : Number) (excludeEventFlags : Value)
  | putStartPoint (startPoint : Value)
  | getStartPoint (opts : Value)
  | tickList (error : Option AMFlowError) (tickList : Option (List (List UInt8)))
  | startPointPut (error : Option AMFlowError)
  | startPoint (error : Option AMFlowError) (startPoint : Option Value)

inductive Request where
  | gameCode («begin» «end» : Number) (excludeEventFlags : Value)
  | tickList
  | putStartPoint
  | getStartPoint

inductive Answer where
  | failed
  | gameCode (gameCode : String)
  | tickList (tickList : List (List UInt8))
  | put
  | startPoint (startPoint : Option Value)

structure AMFlow where
  tokenHolder : Option Ref
  permission : Permission
  writeLocked : Bool
  isMainPlayer : Bool
  sendEventCount : Nat
  beforeTime : Int
  playlogHandlerPrepared : Bool
  gameCode : Option String
  tickHandlers : List Nat
  eventHandlers : List Nat
  requests : List Request
  effects : List Effect

namespace AMFlow

def new : AMFlow :=
  { tokenHolder := none
    permission := .initial
    writeLocked := false
    isMainPlayer := false
    sendEventCount := 0
    beforeTime := 0
    playlogHandlerPrepared := false
    gameCode := none
    tickHandlers := []
    eventHandlers := []
    requests := []
    effects := [] }

def emit (s : AMFlow) (effect : Effect) : AMFlow := { s with effects := s.effects ++ [effect] }

def await (s : AMFlow) (request : Request) : AMFlow :=
  { s with requests := s.requests ++ [request] }

def authenticate (s : AMFlow) : AMFlow :=
  let s := { s with permission := .initial, tokenHolder := none }
  if s.playlogHandlerPrepared then s.emit .closePlaylog else s

/-- The part of `authenticate` that runs when the validator has given a holder. -/
def onValidated (s : AMFlow) (ref : Ref) (holder : PlayTokenHolder) : AMFlow :=
  let permission := holder.playToken.permission
  let s := { s with
    tokenHolder := some ref
    isMainPlayer := s.isMainPlayer || (permission.sendEvent && permission.maxEventPriority = 2)
    permission := permission }
  let s :=
    if permission.writeTick || permission.sendEvent || permission.subscribeEvent ||
        permission.subscribeTick then s.emit .prepare
    else s
  if permission.writeTick then s.emit .acquireWriteLock else s

def close (s : AMFlow) : AMFlow :=
  let s := { s with eventHandlers := [], tickHandlers := [] }
  if s.playlogHandlerPrepared then s.emit .closePlaylog else s

variable (engine : Engine) (holders : Ref → PlayTokenHolder)

def revoked (s : AMFlow) : Bool :=
  match s.tokenHolder with
  | none => false
  | some ref => (holders ref).revoked

variable (s : AMFlow)

def sendRawTick (tick : List UInt8) : AMFlow :=
  if !s.permission.writeTick then s
  else if s.revoked holders then s
  else if !s.writeLocked then s
  else s.emit (.publishTickRaw tick)

variable (handler : Nat)

def onRawTick : AMFlow :=
  if !s.permission.subscribeTick then s
  else
    let s := if s.tickHandlers.isEmpty then s.emit .consumeTick else s
    { s with tickHandlers := s.tickHandlers ++ [handler] }

def offRawTick : AMFlow :=
  if !s.permission.subscribeTick then s
  else
    let s := { s with tickHandlers := s.tickHandlers.filter fun h => h ≠ handler }
    if s.tickHandlers.isEmpty then s.emit .offConsumeTick else s

def onRawEvent : AMFlow :=
  if !s.permission.subscribeEvent then s
  else
    let s := if s.eventHandlers.isEmpty then s.emit .consumeEvent else s
    { s with eventHandlers := s.eventHandlers ++ [handler] }

def offRawEvent : AMFlow :=
  if !s.permission.subscribeEvent then s
  else
    let s := { s with eventHandlers := s.eventHandlers.filter fun h => h ≠ handler }
    if s.eventHandlers.isEmpty then s.emit .offConsumeEvent else s

/-- The token's user takes the place of a player id that is not given; a foreign one
drops the event. -/
def identify (userId : Option String) (event : Event) : Option Event :=
  match userId with
  | none | some "" => some event
  | some userId =>
    match event.get 2 with
    | none => some (event.set 2 (.decoded (.text userId)))
    | some playerId =>
      if !playerId.truthy then some (event.set 2 (.decoded (.text userId)))
      else if playerId.isText userId then some event
      else none

/-- `event[1] == null || event[1] > maxEventPriority`. -/
def exceeds (maxEventPriority : Number) (priority : Option Item) : Except TypeError Bool :=
  match priority with
  | none => .ok true
  | some item =>
    if item.isNull then .ok true
    else do return maxEventPriority.lt (← item.toNumber engine.toNumber)

/-- The priority is overwritten where it is not given or exceeds the permission's. -/
def cap (maxEventPriority : Number) (event : Event) : Except TypeError Event := do
  if ← exceeds engine maxEventPriority (event.get 1) then
    return event.set 1 (.number maxEventPriority)
  else return event

/-- `eventCodeWhiteList.indexOf(event[0]) !== -1`. -/
def allowsCode (code : Option Item) : Bool :=
  match code.bind Item.asNumber with
  | none => false
  | some n => engine.eventCodeWhiteList.any fun allowed => n = .finite allowed

def beginSecond (now : Int) : AMFlow :=
  if now - s.beforeTime > 1000 then { s with sendEventCount := 0, beforeTime := now } else s

/-- `event[1] < 3 && this._sendEventCount >= limit`. -/
def limited (priority : Option Item) : Except TypeError Bool :=
  let limit :=
    if s.isMainPlayer then engine.eventLimitCount.mainPlayer else engine.eventLimitCount.subPlayer
  match priority with
  | none => .ok false
  | some item => do
      return (← item.toNumber engine.toNumber).lt 3 && limit.le (.finite s.sendEventCount)

/-- `sendRawEvent` from the decoded event on. -/
def sendEvent (userId : Option String) (event : Event) (now : Int) :
    Except TypeError AMFlow :=
  match identify userId event with
  | none => .ok s
  | some event => do
      let event ← cap engine s.permission.maxEventPriority event
      if !allowsCode engine (event.get 0) then return s
      else
        let s := s.beginSecond now
        if ← s.limited engine (event.get 1) then return s
        else return { s.emit (.publishEvent event) with sendEventCount := s.sendEventCount + 1 }

def sendRawEvent (buf : List UInt8) (now : Int) : AMFlow :=
  if !s.permission.sendEvent then s
  else if s.revoked holders then s
  else
    match engine.decodeEvent buf with
    | some (.array items) =>
      match s.tokenHolder with
      | none => s
      | some ref =>
        let event : Event := items.map fun value => some (.decoded value)
        match sendEvent engine s (holders ref).playToken.userId event now with
        | .ok s => s
        | .error _ => s
    | _ => s

def errGetTickList : Option AMFlowError :=
  if s.revoked holders then some createTokenRevokedError
  else if !s.permission.readTick then some (createPermissionError "no readTick permission")
  else none

def errPutStartPoint : Option AMFlowError :=
  if s.revoked holders then some createTokenRevokedError
  else if !s.permission.writeTick then some (createPermissionError "no writeTick permission")
  else none

def errGetStartPoint : Option AMFlowError :=
  if s.revoked holders then some createTokenRevokedError
  else if !s.permission.readTick && !s.permission.writeTick then
    some (createPermissionError "no readTick permission")
  else none

def getRawTickList («begin» «end» : Number) (excludeEventFlags : Value) : AMFlow :=
  match s.errGetTickList holders with
  | some error => s.emit (.tickList (some error) none)
  | none =>
    let s := if s.gameCode.getD "" = "" then s.emit .getPlay else s
    s.await (.gameCode «begin» «end» excludeEventFlags)

def putStartPoint (s : AMFlow) (startPoint : Value) : AMFlow :=
  match s.errPutStartPoint holders with
  | some error => s.emit (.startPointPut (some error))
  | none => (s.emit (.putStartPoint startPoint)).await .putStartPoint

def getStartPoint (s : AMFlow) (opts : Value) : AMFlow :=
  match s.errGetStartPoint holders with
  | some error => s.emit (.startPoint (some error) none)
  | none => (s.emit (.getStartPoint opts)).await .getStartPoint

def getGameCode (gameCode : String) : String :=
  match s.gameCode with
  | none | some "" => gameCode
  | some cached => cached

/-- What follows `await`, or the callback of `then` and of `catch`. -/
def continue_ : Request → Answer → AMFlow
  | .gameCode «begin» «end» excludeEventFlags, .gameCode gameCode =>
    let gameCode := s.getGameCode gameCode
    let s := { s with gameCode := some gameCode }
    let s :=
      if gameCode = "nicocas" then
        s.emit (.getRawTickListExcludedIgnorable «begin» «end» excludeEventFlags)
      else s.emit (.getRawTickList «begin» «end»)
    s.await .tickList
  | .tickList, .tickList tickList =>
    match s.errGetTickList holders with
    | some error => s.emit (.tickList (some error) none)
    | none => s.emit (.tickList none (some tickList))
  | .putStartPoint, .put => s.emit (.startPointPut (s.errPutStartPoint holders))
  | .getStartPoint, .startPoint startPoint =>
    match s.errGetStartPoint holders with
    | some error => s.emit (.startPoint (some error) none)
    | none => s.emit (.startPoint none startPoint)
  | .gameCode .., _ | .tickList, _ =>
    s.emit (.tickList (some (createRuntimeError "failed to get TickList")) none)
  | .putStartPoint, _ =>
    s.emit (.startPointPut (some (createRuntimeError "failed to put StartPoint")))
  | .getStartPoint, _ =>
    s.emit (.startPoint (some (createRuntimeError "failed to get StartPoint")) none)

def answer (s : AMFlow) (index : Nat) (answer : Answer) : AMFlow :=
  match s.requests[index]? with
  | none => s
  | some request => { s with requests := s.requests.eraseIdx index }.continue_ holders
      request answer

def onBinaryTick (tick : List UInt8) : AMFlow :=
  if s.revoked holders then s
  else { s with effects := s.effects ++ s.tickHandlers.map fun handler => .onTick handler tick }

def onBinaryEvent (event : List UInt8) : AMFlow :=
  if s.revoked holders then s
  else { s with effects := s.effects ++ s.eventHandlers.map fun handler => .onEvent handler event }

inductive Operation where
  | sendRawTick (tick : List UInt8)
  | sendRawEvent (buf : List UInt8) (now : Int)
  | onRawTick (handler : Nat)
  | offRawTick (handler : Nat)
  | onRawEvent (handler : Nat)
  | offRawEvent (handler : Nat)
  | getRawTickList («begin» «end» : Number) (excludeEventFlags : Value)
  | putStartPoint (startPoint : Value)
  | getStartPoint (opts : Value)
  | answer (index : Nat) (answer : Answer)

def perform : Operation → AMFlow
  | .sendRawTick tick => s.sendRawTick holders tick
  | .sendRawEvent buf now => s.sendRawEvent engine holders buf now
  | .onRawTick handler => s.onRawTick handler
  | .offRawTick handler => s.offRawTick handler
  | .onRawEvent handler => s.onRawEvent handler
  | .offRawEvent handler => s.offRawEvent handler
  | .getRawTickList «begin» «end» flags => s.getRawTickList holders «begin» «end» flags
  | .putStartPoint startPoint => s.putStartPoint holders startPoint
  | .getStartPoint opts => s.getStartPoint holders opts
  | .answer index answer => s.answer holders index answer

end AMFlow

/-- The AMFlow of a session beside the validator.  `token` is the token it was
authenticated with, as it was then. -/
structure SessionPlay where
  validator : Validator
  amflow : AMFlow
  authenticating : Nat
  token : Option PlayToken

namespace SessionPlay

inductive Action where
  | validator (action : Validator.Action)
  | authenticate
  /-- `authenticate` goes on with the holder that `validate` resolved with. -/
  | validated (ref : Ref)
  | playlogClosed
  | prepared
  | writeLocked (locked : Bool)
  | binaryTick (tick : List UInt8)
  | binaryEvent (event : List UInt8)
  | operation (op : AMFlow.Operation)

def new : SessionPlay := ⟨.new, .new, 0, none⟩

def step (engine : Engine) (w : SessionPlay) : Action → SessionPlay
  | .validator action => { w with validator := w.validator.step action }
  | .authenticate =>
    { w with
      amflow := w.amflow.authenticate
      authenticating := w.authenticating + 1
      token := none }
  | .validated ref =>
    if w.authenticating ≠ 0 ∧ ref ∈ w.validator.validated then
      let holder := w.validator.holders ref
      { w with
        amflow := w.amflow.onValidated ref holder
        authenticating := w.authenticating - 1
        token := some holder.playToken }
    else w
  | .playlogClosed => { w with amflow := { w.amflow with playlogHandlerPrepared := false } }
  | .prepared => { w with amflow := { w.amflow with playlogHandlerPrepared := true } }
  | .writeLocked locked => { w with amflow := { w.amflow with writeLocked := locked } }
  | .binaryTick tick => { w with amflow := w.amflow.onBinaryTick w.validator.holders tick }
  | .binaryEvent event => { w with amflow := w.amflow.onBinaryEvent w.validator.holders event }
  | .operation op => { w with amflow := w.amflow.perform engine w.validator.holders op }

end SessionPlay
end AkashicSystem.PlaylogServer
