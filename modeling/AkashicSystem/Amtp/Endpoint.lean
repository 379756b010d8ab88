import AkashicSystem.Amtp.Session

/-!
# Endpoints

What a client session and a server session do on their own account and with the
frames they receive, and the calls that can be made on a session.
-/

set_option autoImplicit false

namespace AkashicSystem.Amtp

open AkashicSystem.Js Session

namespace ClientSession

/-- `open`, with the random number it draws; a negative one does not pass
`writeUInt32BE`. -/
def «open» (random : Int) : SessionM Unit := do
  let s ← get
  if s.readyState = .closed then do
    let id := s.ctrlFrmIdx
    modify fun s =>
      { s with waitingCFRequests := Function.update s.waitingCFRequests id (some (.open random)) }
    if random < 0 then throw .range
    else send (.control (.open id random.toNat PROTOCOL_VERSION PROTOCOL_IDENTIFIER))
    setReadyState .opening
    modify fun s => { s with ctrlFrmIdx := id + 2 }
  else emit (.failed (.error "InvalidStateError" "Session is not closed."))

/-- The handler of `open`. -/
def onOpenAccepted (random : Int) (accept : Option Buffer) : SessionM Unit := do
  let s ← get
  if s.readyState = .opening then
    match accept with
    | none => throw .nullAccess
    | some accept =>
      match Buffer.readUInt32BE accept 0 with
      | .error err => throw err
      | .ok echoed =>
        if random = echoed then do
          setReadyState .open
          emit (.finished (.open random))
        else emit (.failed (.error "Failed to handshake with the server." ""))
  else emit (.failed (.error "InvalidStateError" "Session is not opening."))

def createChannel (primary : Bool) (label : String) : SessionM Unit :=
  whenOpen (fun err => emit (.failed err)) do
    let channelId := (← get).chIdx
    modify fun s => { s with chIdx := channelId + 1 }
    modifyHolder fun holder => if primary then holder.setSend none else holder
    sendRequest (fun id => .channel id primary channelId label) (.createChannel primary channelId)

def electChannel (channels : ObjectTable Channel) : Option Ref :=
  (detectOpenStatusMinimumId Channel.readyState channels).bind channels.get?

/-- The holder after a channel was added that is not to be primary: an empty
side of it is filled. -/
def fillHolder (holder : PrimaryHolder) (p : Option Ref) : PrimaryHolder :=
  let holder := if holder.send.isNone then holder.setSend p else holder
  if holder.recv.isNone then holder.setRecv p else holder

def addChannel (s : Session) (primary : Bool) (channelId : Nat) : Session :=
  let channel := s.channels.next
  let channels := s.channels.add channelId (.new channelId true)
  { s with
    channels := channels
    primaryChannelHolder :=
      if primary then s.primaryChannelHolder.set (some channel) (some channel)
      else fillHolder s.primaryChannelHolder (electChannel channels) }

/-- The handler of `createChannel`. -/
def onChannelCreated (primary : Bool) (channelId : Nat) : SessionM Unit := do
  modify fun s => addChannel s primary channelId
  emit (.finished (.createChannel primary channelId))

def closeChannel (ch : Ref) : SessionM Unit :=
  whenOpen (fun err => emit (.failed err)) do
    let channel ← getChannel ch
    let s ← get
    Session.assert (s.channels.get? channel.id == some ch) "unknown channel"
    modifyHolder fun holder => if holder.send = some ch then holder.setSend none else holder
    modifyChannel ch fun c => { c with readyState := .closing }
    sendRequest (fun id => .closeChannel id channel.id) (.closeChannel ch)

/-- The holder after the channel was closed, with the elected channel, if any. -/
def repairHolder (holder : PrimaryHolder) (ch : Ref) (elected : Option Ref) : PrimaryHolder :=
  match elected with
  | none => holder
  | some p =>
    let holder := if holder.recv = some ch then holder.setRecv (some p) else holder
    if holder.send = none then holder.setSend (some p) else holder

def removeChannel (s : Session) (ch : Ref) : Session :=
  let channels := s.channels.modify ch fun c => { c with readyState := .closed }
  { s with
    primaryChannelHolder := repairHolder s.primaryChannelHolder ch (electChannel channels)
    channels := channels.delete (channels.objs ch).id }

/-- The handler of `closeChannel`. -/
def onChannelClosed (ch : Ref) : SessionM Unit := do
  modify fun s => removeChannel s ch
  Channel.onClose ch
  emit (.finished (.closeChannel ch))

end ClientSession

namespace Session

def finish (handler : Handler) (acceptData : Option Buffer) : SessionM Unit :=
  match handler with
  | .close => do
      setReadyState .closed
      emit (.finished .close)
  | .open random => ClientSession.onOpenAccepted random acceptData
  | .createChannel primary channelId => ClientSession.onChannelCreated primary channelId
  | .closeChannel ch => ClientSession.onChannelClosed ch
  | .createPushPipe ch primary pipeId => Channel.onPushPipeCreated ch primary pipeId
  | .createRequestPipe ch primary pipeId => Channel.onRequestPipeCreated ch primary pipeId
  | .closePushPipe ch pipe => Channel.onPushPipeClosed ch pipe
  | .closeRequestPipe ch pipe => Channel.onRequestPipeClosed ch pipe

/-- The half of `_onControlFrame` for a frame that answers a request. -/
def onAnswer (frame : ControlFrame) : SessionM Unit := do
  match (← get).waitingCFRequests frame.id with
  | none => throw (.assertion "request is null")
  | some handler => do
      modify fun s =>
        { s with waitingCFRequests := Function.update s.waitingCFRequests frame.id none }
      match frame with
      | .accept _ data => finish handler data
      | .deny _ => fail handler (.error "RequestDeniedError" "Request denied by peer")
      | frame => throw (.error "InvalidFrameError" s!"Unknown ControlFrameType: {frame.type}")

/-- `this._channels[channelId]`, asserted. -/
def channelOf (channelId : Nat) : SessionM Ref := do
  match (← get).channels.get? channelId with
  | none => throw (.assertion "channel is null")
  | some ch => return ch

def onPipeCloseFrame (id : Nat) (request : Bool) (channelId pipeId : Nat) : SessionM Unit := do
  let ch ← channelOf channelId
  if request then Channel.closeIncomingRequestPipe ch pipeId
  else Channel.closeIncomingPushPipe ch pipeId
  send (.control (.accept id none))

def onCloseControlFrame (id : Nat) : SessionM Unit := do
  setReadyState .closed
  emit .sessionClose
  send (.control (.accept id none))

def onPipeControlFrame (id : Nat) (primary request : Bool) (channelId pipeId : Nat) :
    SessionM Unit := do
  let ch ← channelOf channelId
  if request then Channel.createIncomingRequestPipe ch pipeId primary
  else Channel.createIncomingPushPipe ch pipeId primary
  send (.control (.accept id none))

end Session

namespace ClientSession

def onControlFrameFromPeer (frame : ControlFrame) : SessionM Unit :=
  match frame with
  | .pipe id primary request channelId pipeId _ =>
    onPipeControlFrame id primary request channelId pipeId
  | frame => throw (.error "UnexpectedFrameError"
      s!"Session received unexpected control frame (type: {frame.type}) from the peer.")

end ClientSession

namespace ServerSession

def onOpenControlFrame (id random protocolVersion protocolIdentifier : Nat) : SessionM Unit := do
  if protocolIdentifier = PROTOCOL_IDENTIFIER ∧ protocolVersion = PROTOCOL_VERSION then do
    match Buffer.writeUInt32BE (Buffer.alloc 4) random 0 with
    | .error err => throw err
    | .ok echo => send (.control (.accept id (some echo)))
    setReadyState .open
    emit .sessionOpen
  else send (.control (.deny id))

/-- The holder after an election among the channels; both sides are the same. -/
def electHolder (channels : ObjectTable Channel) : PrimaryHolder :=
  let p := ClientSession.electChannel channels
  ⟨p, p⟩

def addChannel (s : Session) (primary : Bool) (channelId : Nat) : Session :=
  let channel := s.channels.next
  let channels := s.channels.add channelId (.new channelId false)
  { s with
    channels := channels
    primaryChannelHolder :=
      if primary then s.primaryChannelHolder.set (some channel) (some channel)
      else if s.primaryChannelHolder.send.isNone then electHolder channels
      else s.primaryChannelHolder }

def onChannelControlFrame (id : Nat) (primary : Bool) (channelId : Nat) : SessionM Unit := do
  let s ← get
  if (s.channels.get? channelId).isSome then
    throw (.error "InvalidStateError" s!"channel {channelId} already exists")
  else do
    modify fun s => addChannel s primary channelId
    send (.control (.accept id none))
    emit (.channel s.channels.next)

def removeChannel (s : Session) (channel : Ref) (channelId : Nat) : Session :=
  let channels := s.channels.modify channel fun c => { c with readyState := .closed }
  { s with
    primaryChannelHolder :=
      if s.primaryChannelHolder.send = some channel then electHolder channels
      else s.primaryChannelHolder
    channels := channels.delete channelId }

def onCloseChannelControlFrame (id channelId : Nat) : SessionM Unit := do
  match (← get).channels.get? channelId with
  | none => throw (.error "InvalidStateError" s!"channel {channelId} to close does not exist")
  | some channel => do
      modify fun s => removeChannel s channel channelId
      Channel.onClose channel
      send (.control (.accept id none))

def onControlFrameFromPeer (frame : ControlFrame) : SessionM Unit :=
  match frame with
  | .open id random protocolVersion protocolIdentifier =>
    onOpenControlFrame id random protocolVersion protocolIdentifier
  | .channel id primary channelId _ => onChannelControlFrame id primary channelId
  | .pipe id primary request channelId pipeId _ =>
    onPipeControlFrame id primary request channelId pipeId
  | .closeChannel id channelId => onCloseChannelControlFrame id channelId
  | frame => throw (.error s!"Unsupported ControlFrame: {frame.type}" "")

end ServerSession

namespace Session

def onControlFrameFromPeer (frame : ControlFrame) : SessionM Unit := do
  if (← get).originFlag = 0x0 then ClientSession.onControlFrameFromPeer frame
  else ServerSession.onControlFrameFromPeer frame

/-- A control frame with an id of this session's own parity is an answer. -/
def onControlFrame (frame : ControlFrame) : SessionM Unit := do
  if frame.id ≠ 0 ∧ frame.id % 2 ≠ (← get).originFlag then onAnswer frame
  else
    match frame with
    | .closePipe id request channelId pipeId => onPipeCloseFrame id request channelId pipeId
    | .close id => onCloseControlFrame id
    | frame => onControlFrameFromPeer frame

def resolveChannel (s : Session) (frame : DataFrame) : Option Ref :=
  if frame.primaryChannel then s.primaryChannelHolder.recv
  else frame.channelId.bind s.channels.get?

variable (channel : Channel)

variable (frame : DataFrame)

def resolveRequestPipe : Option Ref :=
  if frame.primaryPipe then channel.primaryRequestPipeHolder.recv
  else frame.pipeId.bind channel.requestPipes.get?

def resolveIncomingRequestPipe : Option Ref :=
  if frame.primaryPipe then channel.primaryIncomingRequestPipe
  else frame.pipeId.bind channel.incomingRequestPipes.get?

def resolveIncomingPushPipe : Option Ref :=
  if frame.primaryPipe then channel.primaryIncomingPushPipe
  else frame.pipeId.bind channel.incomingPushPipes.get?

/-- What an open session does with a data frame once its channel is resolved. -/
def onChannelData (ch : Ref) (frame : DataFrame) : SessionM Unit := do
  let s ← get
  let channel := s.channels.objs ch
  if frame.request then
    let requestId := frame.requestId.getD 0
    if requestId % 2 ≠ s.originFlag then
      match resolveRequestPipe channel frame with
      | none => throw (.assertion "request pipe is null")
      | some rp => Pipe.onResponse ch rp requestId frame.payload
    else
      match resolveIncomingRequestPipe channel frame with
      | none => throw (.assertion "incoming request pipe is null")
      | some rp => Pipe.onRequest ch rp requestId frame.payload
  else
    match resolveIncomingPushPipe channel frame with
    | none => throw (.assertion "incoming push pipe is null")
    | some pp => Pipe.onPush ch pp frame.payload

def onDataFrame : SessionM Unit := do
  let s ← get
  if s.readyState = .open then
    match resolveChannel s frame with
    | none => throw (.assertion "channel is null")
    | some ch => onChannelData ch frame
  else pure ()

/-- `_onRecv` without its shortcut. -/
def onRecvFrame (buf : Buffer) : SessionM Unit :=
  match Serializer.deserialize buf with
  | .error err => throw err
  | .ok (.control frame) => onControlFrame frame
  | .ok (.data frame) => onDataFrame frame

/-- The shortcut of `_onRecv`: the primary push pipe of the primary channel. -/
def onRecvPrimaryPush (buf : Buffer) : SessionM Unit := do
  let s ← get
  match s.primaryChannelHolder.recv with
  | none => throw .nullAccess
  | some ch =>
    match (s.channels.objs ch).primaryIncomingPushPipe with
    | none => throw .nullAccess
    | some pp => Pipe.onPush ch pp (buf.slice 1)

def onRecv (buf : Buffer) : SessionM Unit :=
  if buf[0]? = some 0x0 then onRecvPrimaryPush buf else onRecvFrame buf

end Session

/-- What can happen to a session: a method called on it or on one of its
channels, pipes and responses, or a buffer received. -/
inductive Call where
  | open (random : Int)
  | close
  | createChannel (primary : Bool) (label : String)
  | closeChannel (ch : Ref)
  | createPushPipe (ch : Ref) (primary : Bool) (label : String)
  | closePushPipe (ch pipe : Ref)
  | push (ch pipe : Ref) (data : Buffer)
  | createRequestPipe (ch : Ref) (primary : Bool) (label : String)
  | closeRequestPipe (ch pipe : Ref)
  | request (ch pipe : Ref) (data : Buffer) (callback : Nat)
  | endResponse (response : Ref) (data : Buffer)
  | recv (buf : Buffer)

namespace Call

/-- Only a client session has `open`, `createChannel` and `closeChannel`, and
nobody has a reference to an object that was not made. -/
def Admissible (s : Session) : Call → Prop
  | .open _ | createChannel _ _ => s.originFlag = 0x0
  | closeChannel ch => s.originFlag = 0x0 ∧ ch < s.channels.next
  | createPushPipe ch _ _ | createRequestPipe ch _ _ => ch < s.channels.next
  | closePushPipe ch pipe | push ch pipe _ =>
    ch < s.channels.next ∧ pipe < (s.channels.objs ch).pushPipes.next
  | closeRequestPipe ch pipe | request ch pipe _ _ =>
    ch < s.channels.next ∧ pipe < (s.channels.objs ch).requestPipes.next
  | endResponse response _ => response < s.nextResponse
  | close | recv _ => True

instance (s : Session) (call : Call) : Decidable (call.Admissible s) := by
  cases call <;> unfold Admissible <;> infer_instance

def run : Call → SessionM Unit
  | .open random => ClientSession.open random
  | close => Session.close
  | createChannel primary label => ClientSession.createChannel primary label
  | closeChannel ch => ClientSession.closeChannel ch
  | createPushPipe ch primary label => Channel.createPushPipe ch primary label
  | closePushPipe ch pipe => Pipe.closePushPipe ch pipe
  | push ch pipe data => Pipe.push ch pipe data
  | createRequestPipe ch primary label => Channel.createRequestPipe ch primary label
  | closeRequestPipe ch pipe => Pipe.closeRequestPipe ch pipe
  | request ch pipe data callback => Pipe.request ch pipe data callback
  | endResponse response data => Pipe.endResponse response data
  | recv buf => Session.onRecv buf

end Call

namespace Session

def after (s : Session) (call : Call) : Session := Computation.stateOf (call.run s)

/-- The states of a session under any calls, in any order. -/
inductive Reachable : Session → Prop
  | client : Reachable newClient
  | server : Reachable newServer
  | call (s : Session) (call : Call) : Reachable s → call.Admissible s → Reachable (s.after call)

end Session
end AkashicSystem.Amtp
