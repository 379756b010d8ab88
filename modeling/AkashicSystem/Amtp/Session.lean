import AkashicSystem.Amtp.Channel
import AkashicSystem.Js.Computation
import AkashicSystem.Amtp.Serializer

/-!
# Sessions

`Session`, `ClientSession` and `ServerSession` of amtplib's `Session.ts`, with the
methods of `Channel.ts` and `Pipe.ts` that run through them.  A method is a
computation over the state of one session.  What it throws keeps the state it
has reached, as in the source; what it emits, and the callbacks it calls, are
logged as events; what it gives to the socket is appended to `sent`.
-/

set_option autoImplicit false

namespace AkashicSystem.Amtp

open AkashicSystem.Js

/-- The closure behind a `ControlFrameRequest`, with the variables it captures. -/
inductive Handler where
  | close
  | open (random : Int)
  | createChannel (primary : Bool) (channelId : Nat)
  | closeChannel (ch : Ref)
  | createPushPipe (ch : Ref) (primary : Bool) (pipeId : Nat)
  | createRequestPipe (ch : Ref) (primary : Bool) (pipeId : Nat)
  | closePushPipe (ch pipe : Ref)
  | closeRequestPipe (ch pipe : Ref)

inductive Event where
  /-- `callback(err)`, now or in a timer. -/
  | failed (err : JsError)
  /-- `callback(null)` of a request. -/
  | finished (handler : Handler)
  | sessionOpen
  | sessionClose
  | channel (ch : Ref)
  | channelClose (ch : Ref)
  | pushPipe (ch pipe : Ref)
  | requestPipe (ch pipe : Ref)
  | incomingPushPipeClose (ch pipe : Ref)
  | incomingRequestPipeClose (ch pipe : Ref)
  | push (ch pipe : Ref) (data : Buffer)
  | request (ch pipe : Ref) (data : Buffer) (response : Ref)
  /-- The callback of a request, with the payload of the response. -/
  | response (ch pipe : Ref) (callback : Nat) (data : Buffer)

structure RequestPipeResponse where
  requestId : Nat
  ch : Ref
  pipe : Ref

structure Session where
  readyState : ReadyState
  channels : ObjectTable Channel
  primaryChannelHolder : PrimaryHolder
  originFlag : Nat
  ctrlFrmIdx : Nat
  waitingCFRequests : Nat → Option Handler
  /-- `_chIdx` of a `ClientSession`. -/
  chIdx : Nat
  /-- The responses handed out with requests; one that has ended is gone. -/
  responses : Ref → Option RequestPipeResponse
  nextResponse : Ref
  sent : List Buffer
  events : List Event

abbrev SessionM (α : Type) := Computation JsError Session α

namespace Session

def new (originFlag ctrlFrmIdx : Nat) : Session :=
  ⟨.closed, .empty, .empty, originFlag, ctrlFrmIdx, fun _ => none, 1, fun _ => none, 0, [], []⟩

def newClient : Session := new 0x0 1

def newServer : Session := new 0x1 2

def emit (event : Event) : SessionM Unit :=
  modify fun s => { s with events := s.events ++ [event] }

def socketSend (data : Buffer) : SessionM Unit :=
  modify fun s => { s with sent := s.sent ++ [data] }

def send (frame : Frame) : SessionM Unit :=
  match Serializer.serialize frame with
  | .ok data => socketSend data
  | .error err => throw err

def setReadyState (readyState : ReadyState) : SessionM Unit :=
  modify fun s => { s with readyState := readyState }

def modifyHolder (f : PrimaryHolder → PrimaryHolder) : SessionM Unit :=
  modify fun s => { s with primaryChannelHolder := f s.primaryChannelHolder }

def modifyChannel (ch : Ref) (f : Channel → Channel) : SessionM Unit :=
  modify fun s => { s with channels := s.channels.modify ch f }

def getChannel (ch : Ref) : SessionM Channel := do
  return (← get).channels.objs ch

def idText (id : Option Nat) : String := id.elim "null" Nat.repr

def notOpenError (s : Session) : JsError :=
  .error "InvalidStateError" ("Session is not open. state: " ++ s.readyState.name)

/-- `fail(err)` of a request: its handler gets the error.  The wrapper of a pipe's
`close` takes the pipe for closed all the same. -/
def fail (handler : Handler) (err : JsError) : SessionM Unit :=
  match handler with
  | .closeChannel _ => throw (.error "failed to close channel" "")
  | .closePushPipe ch pipe => do
      let channel ← getChannel ch
      modifyChannel ch fun c =>
        { c with pushPipes := c.pushPipes.modify pipe fun p => { p with readyState := .closed } }
      emit (.failed (.error s!"failed to close push pipe ( id: {
        idText (channel.pushPipes.objs pipe).id}, chId: {channel.id} )" ""))
  | .closeRequestPipe ch pipe => do
      let channel ← getChannel ch
      modifyChannel ch fun c =>
        { c with
          requestPipes := c.requestPipes.modify pipe fun p => { p with readyState := .closed } }
      emit (.failed (.error s!"failed to close request pipe ( id: {
        idText (channel.requestPipes.objs pipe).id}, chId: {channel.id} )" ""))
  | _ => emit (.failed err)

/-- The body of a method whose callback gets an error, in a timer, when the
session is not open. -/
def whenOpen (callback : JsError → SessionM Unit) (body : SessionM Unit) : SessionM Unit := do
  let s ← get
  if s.readyState = .open then body else callback (notOpenError s)

def sendRequest (frame : Nat → ControlFrame) (handler : Handler) : SessionM Unit := do
  let id := (← get).ctrlFrmIdx
  modify fun s =>
    { s with
      waitingCFRequests := Function.update s.waitingCFRequests id (some handler)
      ctrlFrmIdx := id + 2 }
  send (.control (frame id))

def close : SessionM Unit := whenOpen (fun err => emit (.failed err)) do
  setReadyState .closing
  sendRequest (fun id => .close id) .close

variable (channelId pipeId : Nat)

def createPipe (primary request : Bool) (label : String)
    (handler : Handler) : SessionM Unit :=
  whenOpen (fail handler)
    (sendRequest (fun id => .pipe id primary request channelId pipeId label) handler)

def closePipe (channelId pipeId : Nat) (request : Bool) (handler : Handler) : SessionM Unit :=
  whenOpen (fail handler)
    (sendRequest (fun id => .closePipe id request channelId pipeId) handler)

/-- `holder.id === id` where reading a property of `null` or `undefined` throws. -/
def isId (id : Nat) (held : Option (Option Nat)) : SessionM Bool :=
  match held with
  | none => throw .nullAccess
  | some held => return held == some id

def isPrimarySendChannel (channelId : Nat) : SessionM Bool := do
  let s ← get
  isId channelId (s.primaryChannelHolder.send.map fun ch => some (s.channels.objs ch).id)

/-- `this._channels[channelId].<pipe>.id === pipeId`. -/
def isPrimaryPipeOf (held : Channel → Option (Option Nat)) :
    SessionM Bool := do
  let s ← get
  match s.channels.get? channelId with
  | none => throw .nullAccess
  | some ch => isId pipeId (held (s.channels.objs ch))

variable (channel : Channel)

def primaryPushPipeId : Option (Option Nat) :=
  channel.primaryPushPipe.map fun pipe => (channel.pushPipes.objs pipe).id

def primaryIncomingRequestPipeId : Option (Option Nat) :=
  channel.primaryIncomingRequestPipe.map fun pipe => (channel.incomingRequestPipes.objs pipe).id

def primaryRequestPipeId : Option (Option Nat) :=
  channel.primaryRequestPipeHolder.send.map fun pipe => (channel.requestPipes.objs pipe).id

def throwUnlessOpen : SessionM Unit := do
  let s ← get
  if s.readyState = .open then pure () else throw (notOpenError s)

def dataFrame (isPrimaryChannel isPrimaryPipe : Bool) (requestId : Option Nat)
    (channelId pipeId : Nat) (data : Buffer) : DataFrame :=
  ⟨isPrimaryChannel, isPrimaryPipe, requestId.isSome,
    if isPrimaryChannel then none else some channelId,
    if isPrimaryPipe then none else some pipeId, requestId, data⟩

def sendPushPipeData (data : Buffer) : SessionM Unit := do
  throwUnlessOpen
  let isPrimaryChannel ← isPrimarySendChannel channelId
  let isPrimaryPipe ← isPrimaryPipeOf channelId pipeId primaryPushPipeId
  if isPrimaryChannel && isPrimaryPipe then
    -- `PRIMARY_PUSH_HEADER`
    socketSend (0x0 :: data)
  else
    send (.data (dataFrame isPrimaryChannel isPrimaryPipe none channelId pipeId data))

def sendIncomingRequestPipeData (channelId pipeId requestId : Nat) (data : Buffer) :
    SessionM Unit := do
  throwUnlessOpen
  let isPrimaryChannel ← isPrimarySendChannel channelId
  let isPrimaryPipe ← isPrimaryPipeOf channelId pipeId primaryIncomingRequestPipeId
  send (.data (dataFrame isPrimaryChannel isPrimaryPipe (some requestId) channelId pipeId data))

def sendRequestPipeData (channelId pipeId requestId : Nat) (data : Buffer) : SessionM Unit := do
  throwUnlessOpen
  let isPrimaryChannel ← isPrimarySendChannel channelId
  let isPrimaryPipe ← isPrimaryPipeOf channelId pipeId primaryRequestPipeId
  send (.data (dataFrame isPrimaryChannel isPrimaryPipe (some requestId) channelId pipeId data))

def assert (condition : Bool) (message : String) : SessionM Unit :=
  if condition then pure () else throw (.assertion message)

end Session

namespace Channel

open Session

/-- `detectOpenStatusMinimumId` over a table of pipes, and the pipe of the id. -/
def electPipe (pipes : ObjectTable Pipe) : Option Ref :=
  (detectOpenStatusMinimumId Pipe.readyState pipes).bind pipes.get?

def electRequestPipe (pipes : ObjectTable RequestPipe) : Option Ref :=
  (detectOpenStatusMinimumId (fun pipe => pipe.readyState) pipes).bind pipes.get?

def createPushPipe (ch : Ref) (primary : Bool) (label : String) : SessionM Unit := do
  let channel ← getChannel ch
  Session.assert (channel.readyState = .open) "channel is not open"
  modifyChannel ch fun c => if primary then { c with primaryPushPipe := none } else c
  createPipe channel.id channel.pushPipeIdx primary false label
    (.createPushPipe ch primary channel.pushPipeIdx)
  modifyChannel ch fun c => { c with pushPipeIdx := c.pushPipeIdx + 1 }

variable (c : Channel)

/-- The pipe created, and the primary push pipe chosen: the id is looked for
among the request pipes. -/
def addPushPipe (primary : Bool) (pipeId : Nat) : Channel :=
  let p := c.pushPipes.next
  let c := { c with pushPipes := c.pushPipes.add pipeId (.new pipeId) }
  if primary then { c with primaryPushPipe := some p }
  else if c.primaryPushPipe.isNone then
    { c with
      primaryPushPipe :=
        (detectOpenStatusMinimumId (fun pipe => pipe.readyState) c.requestPipes).bind
          c.pushPipes.get? }
  else c

variable (ch : Ref)

variable (primary : Bool)

def onPushPipeCreated (pipeId : Nat) : SessionM Unit := do
  modifyChannel ch fun c => c.addPushPipe primary pipeId
  emit (.finished (.createPushPipe ch primary pipeId))

def createRequestPipe (ch : Ref) (primary : Bool) (label : String) : SessionM Unit := do
  let channel ← getChannel ch
  Session.assert (channel.readyState = .open) "channel is not open"
  modifyChannel ch fun c =>
    if primary then { c with primaryRequestPipeHolder := c.primaryRequestPipeHolder.setSend none }
    else c
  createPipe channel.id channel.requestPipeIdx primary true label
    (.createRequestPipe ch primary channel.requestPipeIdx)
  modifyChannel ch fun c => { c with requestPipeIdx := c.requestPipeIdx + 1 }

/-- The holder after a request pipe was added that is not to be primary: an
empty side of it is filled. -/
def fillRequestPipeHolder (holder : PrimaryHolder) (pp : Ref) : PrimaryHolder :=
  let holder := if holder.send.isNone then holder.setSend (some pp) else holder
  if holder.recv.isNone then holder.setRecv (some pp) else holder

def addRequestPipe (pipeId : Nat) : Channel :=
  let p := c.requestPipes.next
  let c := { c with requestPipes := c.requestPipes.add pipeId (.new c.isClientMode pipeId) }
  if primary then
    { c with primaryRequestPipeHolder := c.primaryRequestPipeHolder.set (some p) (some p) }
  else
    match electRequestPipe c.requestPipes with
    -- the pipe just added is open, so `assert(pp)` does not fail
    | none => c
    | some pp =>
      { c with primaryRequestPipeHolder := fillRequestPipeHolder c.primaryRequestPipeHolder pp }

def onRequestPipeCreated (pipeId : Nat) : SessionM Unit := do
  modifyChannel ch fun c => c.addRequestPipe primary pipeId
  emit (.finished (.createRequestPipe ch primary pipeId))

/-- `_closePushPipe` up to the request: another primary push pipe is chosen. -/
def leavePushPipe (pipe : Ref) : Channel :=
  if c.primaryPushPipe = some pipe then { c with primaryPushPipe := electPipe c.pushPipes } else c

def leaveRequestPipe (pipe : Ref) : Channel :=
  if c.primaryRequestPipeHolder.send = some pipe then
    { c with
      primaryRequestPipeHolder :=
        c.primaryRequestPipeHolder.setSend (electRequestPipe c.requestPipes) }
  else c

def removePushPipe (pipe : Ref) : Channel :=
  { c with
    pushPipes := ((c.pushPipes.objs pipe).id.elim c.pushPipes c.pushPipes.delete).modify pipe
      fun p => { p with readyState := .closed, id := none } }

def removeRequestPipe (pipe : Ref) : Channel :=
  let c :=
    if c.primaryRequestPipeHolder.recv = some pipe then
      { c with
        primaryRequestPipeHolder :=
          c.primaryRequestPipeHolder.setRecv (electRequestPipe c.requestPipes) }
    else c
  { c with
    requestPipes := ((c.requestPipes.objs pipe).id.elim c.requestPipes c.requestPipes.delete).modify
      pipe fun p => { p with readyState := .closed, id := none, handlers := fun _ => none } }

def onPushPipeClosed (ch pipe : Ref) : SessionM Unit := do
  modifyChannel ch fun c => c.removePushPipe pipe
  emit (.finished (.closePushPipe ch pipe))

def onRequestPipeClosed (ch pipe : Ref) : SessionM Unit := do
  modifyChannel ch fun c => c.removeRequestPipe pipe
  emit (.finished (.closeRequestPipe ch pipe))

variable (id : Nat)

def addIncomingPushPipe : Channel :=
  let p := c.incomingPushPipes.next
  let c := { c with incomingPushPipes := c.incomingPushPipes.add id (.new id) }
  if primary then { c with primaryIncomingPushPipe := some p }
  else if c.primaryIncomingPushPipe.isNone then
    { c with primaryIncomingPushPipe := electPipe c.incomingPushPipes }
  else c

def addIncomingRequestPipe : Channel :=
  let p := c.incomingRequestPipes.next
  let c := { c with incomingRequestPipes := c.incomingRequestPipes.add id (.new id) }
  if primary then { c with primaryIncomingRequestPipe := some p }
  else if c.primaryIncomingRequestPipe.isNone then
    { c with primaryIncomingRequestPipe := electPipe c.incomingRequestPipes }
  else c

def createIncomingPushPipe (primary : Bool) : SessionM Unit := do
  let channel ← getChannel ch
  if (channel.incomingPushPipes.get? id).isSome then
    throw (.error "InvalidStateError"
      s!"push pipe {id} for incoming already exists on channel {channel.id}")
  modifyChannel ch fun c => c.addIncomingPushPipe primary id
  emit (.pushPipe ch channel.incomingPushPipes.next)

def createIncomingRequestPipe (primary : Bool) : SessionM Unit := do
  let channel ← getChannel ch
  if (channel.incomingRequestPipes.get? id).isSome then
    throw (.error "InvalidStateError"
      s!"request pipe {id} for incoming already exists on channel {channel.id}")
  modifyChannel ch fun c => c.addIncomingRequestPipe primary id
  emit (.requestPipe ch channel.incomingRequestPipes.next)

def removeIncomingPushPipe (p : Ref) : Channel :=
  let c := { c with incomingPushPipes := c.incomingPushPipes.delete id }
  let c :=
    if c.primaryIncomingPushPipe = some p then
      { c with primaryIncomingPushPipe := electPipe c.incomingPushPipes }
    else c
  { c with incomingPushPipes := c.incomingPushPipes.modify p Pipe.destroy }

def removeIncomingRequestPipe (p : Ref) : Channel :=
  let c := { c with incomingRequestPipes := c.incomingRequestPipes.delete id }
  let c :=
    if c.primaryIncomingRequestPipe = some p then
      { c with primaryIncomingRequestPipe := electPipe c.incomingRequestPipes }
    else c
  { c with
    incomingRequestPipes := c.incomingRequestPipes.modify p
      fun pipe => { pipe with readyState := .closed, id := none } }

def closeIncomingPushPipe : SessionM Unit := do
  let channel ← getChannel ch
  match channel.incomingPushPipes.get? id with
  | none => throw (.assertion "incoming push pipe for close is null")
  | some p => do
      modifyChannel ch fun c => c.removeIncomingPushPipe id p
      emit (.incomingPushPipeClose ch p)

def closeIncomingRequestPipe : SessionM Unit := do
  let channel ← getChannel ch
  match channel.incomingRequestPipes.get? id with
  | none => throw (.assertion "incoming request pipe for close is null")
  | some p => do
      modifyChannel ch fun c => c.removeIncomingRequestPipe id p
      emit (.incomingRequestPipeClose ch p)

def onClose : SessionM Unit := do
  modifyChannel ch fun c => { c with readyState := .closed }
  emit (.channelClose ch)

end Channel

namespace Pipe

open Session

def alreadyClosedError (channelId : Nat) (id : Nat) : JsError :=
  .error "InvalidStateError" s!"push pipe ( id: {id}, chId: {channelId} ) is already closed."

variable (ch pipe : Ref)

def push (data : Buffer) : SessionM Unit := do
  let channel ← getChannel ch
  let p := channel.pushPipes.objs pipe
  match p.id with
  | none => throw .nullAccess
  | some id =>
    if p.readyState = .open then sendPushPipeData channel.id id data
    else throw (alreadyClosedError channel.id id)

def closePushPipe (ch pipe : Ref) : SessionM Unit := do
  modifyChannel ch fun c =>
    { c with pushPipes := c.pushPipes.modify pipe fun p => { p with readyState := .closing } }
  let channel ← getChannel ch
  match (channel.pushPipes.objs pipe).id with
  | none => throw .nullAccess
  | some id => do
      modifyChannel ch fun c => c.leavePushPipe pipe
      closePipe channel.id id false (.closePushPipe ch pipe)

def request (data : Buffer) (callback : Nat) : SessionM Unit := do
  let channel ← getChannel ch
  let p := channel.requestPipes.objs pipe
  Session.assert (p.readyState = .open) ""
  let modifyPipe := fun (f : RequestPipe → RequestPipe) =>
    modifyChannel ch fun c => { c with requestPipes := c.requestPipes.modify pipe f }
  modifyPipe fun p => { p with handlers := Function.update p.handlers p.reqIdx (some callback) }
  match p.id with
  | none => throw .nullAccess
  | some id => do
      sendRequestPipeData channel.id id p.reqIdx data
      modifyPipe fun p => { p with reqIdx := p.reqIdx + 2 }

def closeRequestPipe (ch pipe : Ref) : SessionM Unit := do
  modifyChannel ch fun c =>
    { c with requestPipes := c.requestPipes.modify pipe fun p => { p with readyState := .closing } }
  let channel ← getChannel ch
  match (channel.requestPipes.objs pipe).id with
  | none => throw .nullAccess
  | some id => do
      modifyChannel ch fun c => c.leaveRequestPipe pipe
      closePipe channel.id id true (.closeRequestPipe ch pipe)

def onResponse (requestId : Nat) (data : Buffer) : SessionM Unit := do
  let channel ← getChannel ch
  let p := channel.requestPipes.objs pipe
  Session.assert (p.readyState = .open) ""
  modifyChannel ch fun c =>
    { c with
      requestPipes := c.requestPipes.modify pipe fun p =>
        { p with handlers := Function.update p.handlers requestId none } }
  match p.handlers requestId with
  | none => throw .nullAccess
  | some callback => emit (.response ch pipe callback data)

def onPush (data : Buffer) : SessionM Unit := emit (.push ch pipe data)

def onRequest (requestId : Nat) (data : Buffer) : SessionM Unit := do
  let channel ← getChannel ch
  Session.assert ((channel.incomingRequestPipes.objs pipe).readyState = .open) ""
  let response := (← get).nextResponse
  modify fun s =>
    { s with
      responses := Function.update s.responses response (some ⟨requestId, ch, pipe⟩)
      nextResponse := response + 1 }
  emit (.request ch pipe data response)

/-- `RequestPipeResponse.end`, through `IncomingRequestPipe._response`. -/
def endResponse (response : Ref) (data : Buffer) : SessionM Unit := do
  match (← get).responses response with
  | none => throw .nullAccess
  | some r => do
      let channel ← getChannel r.ch
      let p := channel.incomingRequestPipes.objs r.pipe
      Session.assert (p.readyState = .open) ""
      match p.id with
      | none => throw .nullAccess
      | some id => do
          sendIncomingRequestPipeData channel.id id r.requestId data
          modify fun s => { s with responses := Function.update s.responses response none }

end Pipe
end AkashicSystem.Amtp
