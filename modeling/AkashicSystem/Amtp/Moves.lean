import AkashicSystem.Amtp.PipeLevel
import AkashicSystem.Amtp.Shortcut
import AkashicSystem.Amtp.Wire
import Mathlib.Logic.Relation

/-!
# The moves of a session

Every method of a session, of its channels and of its pipes changes the session by
a few kinds of moves, and what it throws leaves the moves made so far.  What each
move keeps, every call keeps.
-/

set_option autoImplicit false

namespace AkashicSystem.Amtp

open AkashicSystem.Js Computation Serializer ClientSession

namespace Channel

/-- What a method does to the channel it runs on, apart from the answers to its
requests. -/
inductive Move (c : Channel) : Channel → Prop
  | same : Move c c
  | blankPush : Move c { c with primaryPushPipe := none }
  | blankRequest :
      Move c { c with primaryRequestPipeHolder := c.primaryRequestPipeHolder.setSend none }
  | countPush : Move c { c with pushPipeIdx := c.pushPipeIdx + 1 }
  | countRequest : Move c { c with requestPipeIdx := c.requestPipeIdx + 1 }
  | shutPush (pipe : Ref) (readyState : ReadyState) (shut : readyState ≠ .open) :
      Move c { c with
        pushPipes := c.pushPipes.modify pipe fun p => { p with readyState := readyState } }
  | shutRequest (pipe : Ref) (readyState : ReadyState) (shut : readyState ≠ .open) :
      Move c { c with
        requestPipes := c.requestPipes.modify pipe fun p => { p with readyState := readyState } }
  | leavePush (pipe : Ref) : Move c (c.leavePushPipe pipe)
  | leaveRequest (pipe : Ref) : Move c (c.leaveRequestPipe pipe)
  | handlers (pipe : Ref) (f : RequestPipe → RequestPipe) (same : ∀ p, (f p).toPipe = p.toPipe) :
      Move c { c with requestPipes := c.requestPipes.modify pipe f }
  | addIncomingPush (primary : Bool) (id : Nat) (small : id ≤ 0x7fffffff)
      (new : c.incomingPushPipes.get? id = none) : Move c (c.addIncomingPushPipe primary id)
  | addIncomingRequest (primary : Bool) (id : Nat) (small : id ≤ 0x7fffffff)
      (new : c.incomingRequestPipes.get? id = none) : Move c (c.addIncomingRequestPipe primary id)
  | removeIncomingPush (id : Nat) (p : Ref) (there : c.incomingPushPipes.get? id = some p) :
      Move c (c.removeIncomingPushPipe id p)
  | removeIncomingRequest (id : Nat) (p : Ref) (there : c.incomingRequestPipes.get? id = some p) :
      Move c (c.removeIncomingRequestPipe id p)

theorem Move.sameFace {c c' : Channel} (move : Move c c') : SameFace c c' := by
  cases move with
  | leavePush pipe => exact sameFace_leavePushPipe c pipe
  | leaveRequest pipe => exact sameFace_leaveRequestPipe c pipe
  | addIncomingPush primary id _ _ => exact sameFace_addIncomingPushPipe c primary id
  | addIncomingRequest primary id _ _ => exact sameFace_addIncomingRequestPipe c primary id
  | removeIncomingPush id p _ => exact sameFace_removeIncomingPushPipe c id p
  | removeIncomingRequest id p _ => exact sameFace_removeIncomingRequestPipe c id p
  | _ => exact ⟨rfl, rfl, rfl⟩

end Channel

def Handler.Asks (id : Nat) (frame : ControlFrame) : Handler → Prop
  | .close => frame = .close id
  | .open random => frame = .open id random.toNat PROTOCOL_VERSION PROTOCOL_IDENTIFIER
  | createChannel primary channelId => ∃ label, frame = .channel id primary channelId label
  | closeChannel _ => ∃ channelId, frame = .closeChannel id channelId
  | createPushPipe _ primary pipeId =>
    ∃ channelId label, frame = .pipe id primary false channelId pipeId label
  | createRequestPipe _ primary pipeId =>
    ∃ channelId label, frame = .pipe id primary true channelId pipeId label
  | closePushPipe _ _ => ∃ channelId pipeId, frame = .closePipe id false channelId pipeId
  | closeRequestPipe _ _ => ∃ channelId pipeId, frame = .closePipe id true channelId pipeId

namespace Session

/-- What the Accept of a request does to the session, next to events and to a ready
state of the session. -/
def applied (s : Session) : Handler → Session
  | .close | .open _ => s
  | .createChannel primary channelId => addChannel s primary channelId
  | .closeChannel ch =>
    let s := removeChannel s ch
    { s with channels := s.channels.modify ch fun c => { c with readyState := .closed } }
  | .createPushPipe ch primary pipeId =>
    { s with channels := s.channels.modify ch fun c => c.addPushPipe primary pipeId }
  | .createRequestPipe ch primary pipeId =>
    { s with channels := s.channels.modify ch fun c => c.addRequestPipe primary pipeId }
  | .closePushPipe ch pipe =>
    { s with channels := s.channels.modify ch fun c => c.removePushPipe pipe }
  | .closeRequestPipe ch pipe =>
    { s with channels := s.channels.modify ch fun c => c.removeRequestPipe pipe }

/-- A request registered, and its frame given to the socket if it was written. -/
def requesting (s : Session) (handler : Handler) (written : Option Buffer) : Session :=
  { s with
    waitingCFRequests := Function.update s.waitingCFRequests s.ctrlFrmIdx (some handler)
    ctrlFrmIdx := s.ctrlFrmIdx + 2
    sent := s.sent ++ written.toList }

def settled (s : Session) (id : Nat) : Session :=
  { s with waitingCFRequests := Function.update s.waitingCFRequests id none }

def Writes (id : Nat) (handler : Handler) (written : Option Buffer) : Prop :=
  ∀ bytes ∈ written, ∃ frame, handler.Asks id frame ∧
    serialize (.control frame) = .ok bytes

/-- The control frame that a method is handling: a request of the peer's, or an
answer. -/
inductive Incoming where
  | none
  | request (id : Nat)
  | answer (id : Nat)

inductive Move (incoming : Incoming) (s : Session) : Session → Prop
  | event (event : Event) : Move incoming s { s with events := s.events ++ [event] }
  | readyState (readyState : ReadyState) : Move incoming s { s with readyState := readyState }
  | data (bytes : Buffer)
      (data : ∀ frame, deserialize bytes ≠ .ok (.control frame)) :
      Move incoming s { s with sent := s.sent ++ [bytes] }
  | accept (id : Nat) (data : Option Buffer) (bytes : Buffer) (from_ : incoming = .request id)
      (written : serialize (.control (.accept id data)) = .ok bytes) :
      Move incoming s { s with sent := s.sent ++ [bytes] }
  | deny (id : Nat) (bytes : Buffer) (from_ : incoming = .request id)
      (written : serialize (.control (.deny id)) = .ok bytes) :
      Move incoming s { s with sent := s.sent ++ [bytes] }
  | request (handler : Handler) (written : Option Buffer)
      (level : handler.PipeLevel ∨ handler = .close ∨ ∃ random, handler = .open random)
      (writes : Writes s.ctrlFrmIdx handler written) :
      Move incoming s (s.requesting handler written)
  /-- `open` has thrown. -/
  | unopened (random : Int) :
      Move incoming s { s with
        waitingCFRequests :=
          Function.update s.waitingCFRequests s.ctrlFrmIdx (some (.open random)) }
  | createChannel (primary : Bool) (written : Option Buffer) (client : s.originFlag = 0x0)
      (writes : Writes s.ctrlFrmIdx (.createChannel primary s.chIdx) written) :
      Move incoming s
        ({ s with
            chIdx := s.chIdx + 1
            primaryChannelHolder :=
              if primary then s.primaryChannelHolder.setSend Option.none
              else s.primaryChannelHolder }.requesting
          (.createChannel primary s.chIdx) written)
  | closeChannel (ch : Ref) (written : Option Buffer) (client : s.originFlag = 0x0)
      (made : ch < s.channels.next)
      (there : s.channels.get? (s.channels.objs ch).id = some ch)
      (writes : Writes s.ctrlFrmIdx (.closeChannel ch) written) :
      Move incoming s
        ({ s with
            primaryChannelHolder :=
              if s.primaryChannelHolder.send = some ch then
                s.primaryChannelHolder.setSend Option.none
              else s.primaryChannelHolder
            channels := s.channels.modify ch fun c => { c with readyState := .closing } }.requesting
          (.closeChannel ch) written)
  | settled (id : Nat) (from_ : incoming = .answer id) : Move incoming s (s.settled id)
  | answered (id : Nat) (handler : Handler) (from_ : incoming = .answer id)
      (waiting : s.waitingCFRequests id = some handler) :
      Move incoming s ((s.settled id).applied handler)
  | addChannel (primary : Bool) (channelId : Nat) (server : s.originFlag ≠ 0x0)
      (small : channelId ≤ 0x7fffffff) (new : s.channels.get? channelId = Option.none) :
      Move incoming s (ServerSession.addChannel s primary channelId)
  | removeChannel (ch : Ref) (channelId : Nat) (server : s.originFlag ≠ 0x0)
      (there : s.channels.get? channelId = some ch) :
      Move incoming s (ServerSession.removeChannel s ch channelId)
  | closed (ch : Ref) :
      Move incoming s { s with
        channels := s.channels.modify ch fun c => { c with readyState := .closed } }
  | channel (ch : Ref) (f : Channel → Channel)
      (move : (s.channels.objs ch).Move (f (s.channels.objs ch))) :
      Move incoming s { s with channels := s.channels.modify ch f }
  | response (requestId : Nat) (ch pipe : Ref) (small : requestId ≤ 0xffffffff) :
      Move incoming s { s with
        responses := Function.update s.responses s.nextResponse (some ⟨requestId, ch, pipe⟩)
        nextResponse := s.nextResponse + 1 }
  | responded (response : Ref) :
      Move incoming s { s with responses := Function.update s.responses response Option.none }

def Moves (incoming : Incoming) : Session → Session → Prop :=
  Relation.ReflTransGen (Move incoming)

section

variable {incoming : Incoming} {s₀ : Session}

theorem Moves.then {s s' : Session} (moves : Moves incoming s₀ s) (move : Move incoming s s') :
    Moves incoming s₀ s' :=
  Relation.ReflTransGen.tail moves move

theorem moves_modify {f : Session → Session} (move : ∀ s, Move incoming s (f s)) :
    Preserves (Moves incoming s₀) (modify f : SessionM PUnit) :=
  preserves_modify fun s moves => moves.then (move s)

theorem moves_emit (event : Event) : Preserves (Moves incoming s₀) (emit event) :=
  moves_modify fun _ => .event event

theorem moves_setReadyState (readyState : ReadyState) :
    Preserves (Moves incoming s₀) (setReadyState readyState) :=
  moves_modify fun _ => .readyState readyState

variable (ch : Ref)

theorem moves_modifyChannel {f : Channel → Channel} (move : ∀ c, Channel.Move c (f c)) :
    Preserves (Moves incoming s₀) (modifyChannel ch f) :=
  moves_modify fun _ => .channel ch f (move _)

variable (id : Nat)

theorem moves_accept (data : Option Buffer) (from_ : incoming = .request id) :
    Preserves (Moves incoming s₀) (send (.control (.accept id data))) := by
  unfold send
  split
  · next bytes written => exact moves_modify fun _ => .accept id data bytes from_ written
  · exact preserves_throw _

theorem moves_deny (from_ : incoming = .request id) :
    Preserves (Moves incoming s₀) (send (.control (.deny id))) := by
  unfold send
  split
  · next bytes written => exact moves_modify fun _ => .deny id bytes from_ written
  · exact preserves_throw _

theorem dataFrame_read (isPrimaryChannel isPrimaryPipe : Bool) (requestId : Option Nat)
    (channelId pipeId : Nat) (data bytes : Buffer) (written : serialize
      (.data (dataFrame isPrimaryChannel isPrimaryPipe requestId channelId pipeId data)) =
        .ok bytes) : deserialize bytes =
      .ok (.data (dataFrame isPrimaryChannel isPrimaryPipe requestId channelId pipeId data)) := by
  have fits := fits_of_serializeDataFrame _ bytes
    (fun primary => if_pos primary) (fun primary => if_pos primary)
    (fun absent => Option.isSome_eq_false_iff.mp absent |> Option.isNone_iff_eq_none.mp) written
  exact deserialize_of_fits (.data _) bytes fits written

theorem moves_dataFrame (isPrimaryChannel isPrimaryPipe : Bool) (requestId : Option Nat)
    (channelId pipeId : Nat) (data : Buffer) : Preserves (Moves incoming s₀)
      (send (.data (dataFrame isPrimaryChannel isPrimaryPipe requestId channelId pipeId
        data))) := by
  unfold send
  split
  · next bytes written =>
      refine moves_modify fun _ => .data bytes fun frame control => ?_
      rw [dataFrame_read _ _ _ _ _ _ _ written] at control
      cases control
  · exact preserves_throw _

theorem sendRequest_moves (frame : Nat → ControlFrame) (handler : Handler) (s s' : Session)
    (asks : handler.Asks s.ctrlFrmIdx (frame s.ctrlFrmIdx))
    (move : ∀ written, Writes s.ctrlFrmIdx handler written →
      Move incoming s' (s.requesting handler written)) :
    Move incoming s' (stateOf (sendRequest frame handler s)) := by
  rw [sendRequest, bind_run, get_run]
  dsimp only
  rw [bind_run, modify_run]
  dsimp only [send]
  cases written : serialize (.control (frame s.ctrlFrmIdx)) with
  | ok bytes =>
    refine move (some bytes) ?_
    intro bytes' same
    cases Option.some.inj same
    exact ⟨frame s.ctrlFrmIdx, asks, written⟩
  | error err =>
    have nothing : Writes s.ctrlFrmIdx handler none := by
      intro bytes' same
      cases same
    have move := move none nothing
    simpa only [requesting, Option.toList_none, List.append_nil, throw_run,
      stateOf_error] using move

theorem moves_sendRequest (frame : Nat → ControlFrame) (handler : Handler)
    (level : handler.PipeLevel ∨ handler = .close) (asks : ∀ id, handler.Asks id (frame id)) :
    Preserves (Moves incoming s₀) (sendRequest frame handler) := by
  intro s moves
  refine moves.then (sendRequest_moves frame handler s s (asks _) fun written writes => ?_)
  exact .request handler written (level.imp_right .inl) writes

theorem moves_fail (handler : Handler) (err : JsError) :
    Preserves (Moves incoming s₀) (fail handler err) := by
  unfold fail
  split
  · exact preserves_throw _
  · refine preserves_bind (preserves_getChannel _) fun _ => ?_
    refine preserves_bind (moves_modifyChannel _ fun c => ?_) fun _ => moves_emit _
    exact .shutPush _ .closed (by decide)
  · refine preserves_bind (preserves_getChannel _) fun _ => ?_
    refine preserves_bind (moves_modifyChannel _ fun c => ?_) fun _ => moves_emit _
    exact .shutRequest _ .closed (by decide)
  · exact moves_emit _

theorem moves_close : Preserves (Moves incoming s₀) Session.close := by
  refine preserves_whenOpen _ _ (fun err => moves_emit _) ?_
  refine preserves_bind (moves_setReadyState _) fun _ => ?_
  exact moves_sendRequest _ .close (.inr rfl) fun _ => rfl

variable (primary : Bool)

theorem moves_createPushPipe (label : String) :
    Preserves (Moves incoming s₀) (Channel.createPushPipe ch primary label) := by
  refine preserves_bind (preserves_getChannel ch) fun channel => ?_
  refine preserves_bind (preserves_assert _ _) fun _ => ?_
  refine preserves_bind (moves_modifyChannel ch fun c => ?_) fun _ => ?_
  · split_ifs
    · exact .blankPush
    · exact .same
  · refine preserves_bind ?_ fun _ => moves_modifyChannel ch fun c => .countPush
    refine preserves_whenOpen _ _ (fun err => moves_fail _ err) ?_
    exact moves_sendRequest _ _ (.inl trivial) fun _ => ⟨_, _, rfl⟩

theorem moves_createRequestPipe (label : String) :
    Preserves (Moves incoming s₀) (Channel.createRequestPipe ch primary label) := by
  refine preserves_bind (preserves_getChannel ch) fun channel => ?_
  refine preserves_bind (preserves_assert _ _) fun _ => ?_
  refine preserves_bind (moves_modifyChannel ch fun c => ?_) fun _ => ?_
  · split_ifs
    · exact .blankRequest
    · exact .same
  · refine preserves_bind ?_ fun _ => moves_modifyChannel ch fun c => .countRequest
    refine preserves_whenOpen _ _ (fun err => moves_fail _ err) ?_
    exact moves_sendRequest _ _ (.inl trivial) fun _ => ⟨_, _, rfl⟩

theorem moves_closePipe (channelId pipeId : Nat) (request : Bool) (handler : Handler)
    (level : handler.PipeLevel)
    (asks : ∀ id, handler.Asks id (.closePipe id request channelId pipeId)) :
    Preserves (Moves incoming s₀) (closePipe channelId pipeId request handler) :=
  preserves_whenOpen _ _ (fun err => moves_fail handler err)
    (moves_sendRequest _ handler (.inl level) asks)

theorem moves_closePushPipe (ch pipe : Ref) :
    Preserves (Moves incoming s₀) (Pipe.closePushPipe ch pipe) := by
  refine preserves_bind (moves_modifyChannel ch fun c => .shutPush pipe .closing (by decide))
    fun _ => ?_
  refine preserves_bind (preserves_getChannel ch) fun channel => ?_
  split
  · exact preserves_throw _
  · refine preserves_bind (moves_modifyChannel ch fun c => .leavePush pipe) fun _ => ?_
    exact moves_closePipe _ _ _ _ trivial fun _ => ⟨_, _, rfl⟩

theorem moves_closeRequestPipe (ch pipe : Ref) :
    Preserves (Moves incoming s₀) (Pipe.closeRequestPipe ch pipe) := by
  refine preserves_bind (moves_modifyChannel ch fun c => .shutRequest pipe .closing (by decide))
    fun _ => ?_
  refine preserves_bind (preserves_getChannel ch) fun channel => ?_
  split
  · exact preserves_throw _
  · refine preserves_bind (moves_modifyChannel ch fun c => .leaveRequest pipe) fun _ => ?_
    exact moves_closePipe _ _ _ _ trivial fun _ => ⟨_, _, rfl⟩

theorem moves_channel (s : Session) (moves : Moves incoming s₀ s) (ch : Ref)
    (f : Channel → Channel) (move : (s.channels.objs ch).Move (f (s.channels.objs ch)))
    (event : Event) : Moves incoming s₀
      { s with channels := s.channels.modify ch f, events := s.events ++ [event] } :=
  (moves.then (.channel ch f move)).then (.event event)

theorem moves_createIncomingPushPipe
    (small : id ≤ 0x7fffffff) :
    Preserves (Moves incoming s₀) (Channel.createIncomingPushPipe ch id primary) := by
  intro s moves
  rw [Channel.createIncomingPushPipe, bind_run, getChannel, bind_run, get_run]
  simp only [pure_run]
  cases there : (s.channels.objs ch).incomingPushPipes.get? id with
  | some p => exact moves
  | none =>
    exact moves_channel s moves ch (fun c => c.addIncomingPushPipe primary id)
      (.addIncomingPush primary id small there) _

theorem moves_createIncomingRequestPipe
    (small : id ≤ 0x7fffffff) :
    Preserves (Moves incoming s₀) (Channel.createIncomingRequestPipe ch id primary) := by
  intro s moves
  rw [Channel.createIncomingRequestPipe, bind_run, getChannel, bind_run, get_run]
  simp only [pure_run]
  cases there : (s.channels.objs ch).incomingRequestPipes.get? id with
  | some p => exact moves
  | none =>
    exact moves_channel s moves ch (fun c => c.addIncomingRequestPipe primary id)
      (.addIncomingRequest primary id small there) _

theorem moves_closeIncomingPushPipe :
    Preserves (Moves incoming s₀) (Channel.closeIncomingPushPipe ch id) := by
  intro s moves
  rw [Channel.closeIncomingPushPipe, bind_run, getChannel, bind_run, get_run]
  simp only [pure_run]
  cases there : (s.channels.objs ch).incomingPushPipes.get? id with
  | none => exact moves
  | some p =>
    exact moves_channel s moves ch (fun c => c.removeIncomingPushPipe id p)
      (.removeIncomingPush id p there) _

theorem moves_closeIncomingRequestPipe :
    Preserves (Moves incoming s₀) (Channel.closeIncomingRequestPipe ch id) := by
  intro s moves
  rw [Channel.closeIncomingRequestPipe, bind_run, getChannel, bind_run, get_run]
  simp only [pure_run]
  cases there : (s.channels.objs ch).incomingRequestPipes.get? id with
  | none => exact moves
  | some p =>
    exact moves_channel s moves ch (fun c => c.removeIncomingRequestPipe id p)
      (.removeIncomingRequest id p there) _

theorem moves_sendPushPipeData (channelId pipeId : Nat) (data : Buffer) :
    Preserves (Moves incoming s₀) (sendPushPipeData channelId pipeId data) := by
  refine preserves_bind preserves_throwUnlessOpen fun _ => ?_
  refine preserves_bind (preserves_isPrimarySendChannel _) fun isPrimaryChannel => ?_
  refine preserves_bind (preserves_isPrimaryPipeOf _ _ _) fun isPrimaryPipe => ?_
  split_ifs
  · refine moves_modify fun _ => .data (0x0 :: data) fun frame control => ?_
    rw [deserialize_zero] at control
    cases control
  · exact moves_dataFrame _ _ _ _ _ _

theorem moves_sendRequestPipeData (channelId pipeId requestId : Nat) (data : Buffer) :
    Preserves (Moves incoming s₀) (sendRequestPipeData channelId pipeId requestId data) := by
  refine preserves_bind preserves_throwUnlessOpen fun _ => ?_
  refine preserves_bind (preserves_isPrimarySendChannel _) fun isPrimaryChannel => ?_
  refine preserves_bind (preserves_isPrimaryPipeOf _ _ _) fun isPrimaryPipe => ?_
  exact moves_dataFrame _ _ _ _ _ _

theorem moves_sendIncomingRequestPipeData (channelId pipeId requestId : Nat) (data : Buffer) :
    Preserves (Moves incoming s₀)
      (sendIncomingRequestPipeData channelId pipeId requestId data) := by
  refine preserves_bind preserves_throwUnlessOpen fun _ => ?_
  refine preserves_bind (preserves_isPrimarySendChannel _) fun isPrimaryChannel => ?_
  refine preserves_bind (preserves_isPrimaryPipeOf _ _ _) fun isPrimaryPipe => ?_
  exact moves_dataFrame _ _ _ _ _ _

theorem moves_push (ch pipe : Ref) (data : Buffer) :
    Preserves (Moves incoming s₀) (Pipe.push ch pipe data) := by
  refine preserves_bind (preserves_getChannel ch) fun channel => ?_
  dsimp only
  split
  · exact preserves_throw _
  · split_ifs
    · exact moves_sendPushPipeData _ _ _
    · exact preserves_throw _

theorem moves_request (ch pipe : Ref) (data : Buffer) (callback : Nat) :
    Preserves (Moves incoming s₀) (Pipe.request ch pipe data callback) := by
  refine preserves_bind (preserves_getChannel ch) fun channel => ?_
  refine preserves_bind (preserves_assert _ _) fun _ => ?_
  refine preserves_bind (moves_modifyChannel ch fun c => .handlers pipe _ fun _ => rfl) fun _ => ?_
  split
  · exact preserves_throw _
  · refine preserves_bind (moves_sendRequestPipeData _ _ _ _) fun _ => ?_
    exact moves_modifyChannel ch fun c => .handlers pipe _ fun _ => rfl

theorem moves_endResponse (response : Ref) (data : Buffer) :
    Preserves (Moves incoming s₀) (Pipe.endResponse response data) := by
  refine preserves_bind preserves_get fun s => ?_
  split
  · exact preserves_throw _
  · refine preserves_bind (preserves_getChannel _) fun channel => ?_
    refine preserves_bind (preserves_assert _ _) fun _ => ?_
    split
    · exact preserves_throw _
    · refine preserves_bind (moves_sendIncomingRequestPipeData _ _ _ _) fun _ => ?_
      exact moves_modify fun _ => .responded response

theorem moves_onRequest (ch pipe : Ref) (requestId : Nat) (data : Buffer)
    (small : requestId ≤ 0xffffffff) :
    Preserves (Moves incoming s₀) (Pipe.onRequest ch pipe requestId data) := by
  refine preserves_bind (preserves_getChannel ch) fun channel => ?_
  refine preserves_bind (preserves_assert _ _) fun _ => ?_
  intro s moves
  exact (moves.then (.response requestId ch pipe small)).then (.event _)

theorem moves_onResponse (ch pipe : Ref) (requestId : Nat) (data : Buffer) :
    Preserves (Moves incoming s₀) (Pipe.onResponse ch pipe requestId data) := by
  refine preserves_bind (preserves_getChannel ch) fun channel => ?_
  refine preserves_bind (preserves_assert _ _) fun _ => ?_
  refine preserves_bind (moves_modifyChannel ch fun c => .handlers pipe _ fun _ => rfl) fun _ => ?_
  split
  · exact preserves_throw _
  · exact moves_emit _

theorem moves_onChannelData (frame : DataFrame)
    (small : frame.requestId.getD 0 ≤ 0xffffffff) :
    Preserves (Moves incoming s₀) (onChannelData ch frame) := by
  refine preserves_bind preserves_get fun s => ?_
  dsimp only
  split_ifs
  · split
    · exact preserves_throw _
    · exact moves_onResponse _ _ _ _
  · split
    · exact preserves_throw _
    · exact moves_onRequest _ _ _ _ small
  · split
    · exact preserves_throw _
    · exact moves_emit _

theorem moves_onDataFrame (frame : DataFrame) (small : frame.requestId.getD 0 ≤ 0xffffffff) :
    Preserves (Moves incoming s₀) (onDataFrame frame) := by
  refine preserves_bind preserves_get fun s => ?_
  split_ifs
  · split
    · exact preserves_throw _
    · exact moves_onChannelData _ _ small
  · exact preserves_pure _

theorem moves_onRecvPrimaryPush (buf : Buffer) :
    Preserves (Moves incoming s₀) (onRecvPrimaryPush buf) := by
  refine preserves_bind preserves_get fun s => ?_
  split
  · exact preserves_throw _
  · split
    · exact preserves_throw _
    · exact moves_emit _

theorem moves_onPipeControlFrame (primary request : Bool) (channelId pipeId : Nat)
    (from_ : incoming = .request id) (small : pipeId ≤ 0x7fffffff) :
    Preserves (Moves incoming s₀) (onPipeControlFrame id primary request channelId pipeId) := by
  refine preserves_bind (preserves_channelOf channelId) fun ch => ?_
  split_ifs
  · exact preserves_bind (moves_createIncomingRequestPipe _ _ _ small)
      fun _ => moves_accept id none from_
  · exact preserves_bind (moves_createIncomingPushPipe _ _ _ small)
      fun _ => moves_accept id none from_

theorem moves_onPipeCloseFrame (request : Bool) (channelId pipeId : Nat)
    (from_ : incoming = .request id) :
    Preserves (Moves incoming s₀) (onPipeCloseFrame id request channelId pipeId) := by
  refine preserves_bind (preserves_channelOf channelId) fun ch => ?_
  split_ifs
  · exact preserves_bind (moves_closeIncomingRequestPipe _ _) fun _ => moves_accept id none from_
  · exact preserves_bind (moves_closeIncomingPushPipe _ _) fun _ => moves_accept id none from_

theorem moves_onCloseControlFrame (from_ : incoming = .request id) :
    Preserves (Moves incoming s₀) (onCloseControlFrame id) := by
  refine preserves_bind (moves_setReadyState _) fun _ => ?_
  exact preserves_bind (moves_emit _) fun _ => moves_accept id none from_

theorem moves_onOpenControlFrame (id random protocolVersion protocolIdentifier : Nat)
    (from_ : incoming = .request id) : Preserves (Moves incoming s₀)
      (ServerSession.onOpenControlFrame id random protocolVersion protocolIdentifier) := by
  unfold ServerSession.onOpenControlFrame
  split_ifs
  · split
    · exact preserves_bind (preserves_throw _) fun _ =>
        preserves_bind (moves_setReadyState _) fun _ => moves_emit _
    · exact preserves_bind (moves_accept id _ from_) fun _ =>
        preserves_bind (moves_setReadyState _) fun _ => moves_emit _
  · exact moves_deny id from_

theorem moves_onClose : Preserves (Moves incoming s₀) (Channel.onClose ch) :=
  preserves_bind (moves_modify fun _ => .closed ch) fun _ => moves_emit _

section

variable (s : Session) (moves : Moves incoming s₀ s)

include s moves

theorem moves_onChannelControlFrame (server : s.originFlag ≠ 0x0) (id : Nat) (primary : Bool)
    (channelId : Nat)
    (from_ : incoming = .request id) (small : channelId ≤ 0x7fffffff) :
    Moves incoming s₀ (stateOf (ServerSession.onChannelControlFrame id primary channelId s)) := by
  rw [ServerSession.onChannelControlFrame, bind_run, get_run]
  dsimp only
  cases there : s.channels.get? channelId with
  | some ch => exact moves
  | none =>
    have added := moves.then (.addChannel primary channelId server small there)
    exact preserves_bind (moves_accept id none from_) (fun _ => moves_emit _) _ added

theorem moves_onCloseChannelControlFrame (server : s.originFlag ≠ 0x0) (id channelId : Nat)
    (from_ : incoming = .request id) :
    Moves incoming s₀ (stateOf (ServerSession.onCloseChannelControlFrame id channelId s)) := by
  rw [ServerSession.onCloseChannelControlFrame, bind_run, get_run]
  dsimp only
  cases there : s.channels.get? channelId with
  | none => exact moves
  | some ch =>
    have removed := moves.then (.removeChannel ch channelId server there)
    exact preserves_bind (moves_onClose ch) (fun _ => moves_accept id none from_) _ removed

theorem moves_onControlFrameFromPeer (frame : ControlFrame) (from_ : incoming = .request frame.id)
    (small : frame.IdsSmall) :
    Moves incoming s₀ (stateOf (onControlFrameFromPeer frame s)) := by
  rw [onControlFrameFromPeer, bind_run, get_run]
  dsimp only
  by_cases client : s.originFlag = 0x0
  · rw [if_pos client]
    cases frame with
    | pipe id primary request channelId pipeId label =>
      exact moves_onPipeControlFrame id primary request channelId pipeId from_ small s moves
    | _ => exact moves
  · rw [if_neg client]
    cases frame with
    | «open» id random protocolVersion protocolIdentifier =>
      exact moves_onOpenControlFrame id random _ _ from_ s moves
    | channel id primary channelId label =>
      exact moves_onChannelControlFrame s moves client id primary channelId from_ small
    | pipe id primary request channelId pipeId label =>
      exact moves_onPipeControlFrame id primary request channelId pipeId from_ small s moves
    | closeChannel id channelId =>
      exact moves_onCloseChannelControlFrame s moves client id channelId from_
    | _ => exact moves

theorem moves_onAnswer (frame : ControlFrame)
    (from_ : incoming = .answer frame.id) : Moves incoming s₀ (stateOf (onAnswer frame s)) := by
  rw [onAnswer, bind_run, get_run]
  dsimp only
  cases waiting : s.waitingCFRequests frame.id with
  | none => exact moves
  | some handler =>
    have gone : Moves incoming s₀ (s.settled frame.id) := moves.then (.settled frame.id from_)
    have applied : Moves incoming s₀ ((s.settled frame.id).applied handler) :=
      moves.then (.answered frame.id handler from_ waiting)
    dsimp only
    rw [bind_run, modify_run]
    dsimp only
    split
    · next data =>
        cases handler with
        | close => exact (gone.then (.readyState .closed)).then (.event _)
        | createChannel primary channelId => exact applied.then (.event _)
        | closeChannel ch => exact (applied.then (.event _)).then (.event _)
        | createPushPipe ch primary pipeId | createRequestPipe ch primary pipeId
        | closePushPipe ch pipe | closeRequestPipe ch pipe => exact applied.then (.event _)
        | «open» random =>
          have silent : Preserves (Moves incoming s₀)
              (onOpenAccepted random data) := by
            refine preserves_bind preserves_get fun s => ?_
            split_ifs
            · split
              · exact preserves_throw _
              · split
                · exact preserves_throw _
                · split_ifs
                  · exact preserves_bind (moves_setReadyState _) fun _ => moves_emit _
                  · exact moves_emit _
            · exact moves_emit _
          exact silent _ gone
    · exact moves_fail handler _ _ gone
    · exact gone

theorem moves_open (random : Int) :
    Moves incoming s₀ (stateOf (ClientSession.open random s)) := by
  rw [ClientSession.open, bind_run, get_run]
  dsimp only
  have failed : Moves incoming s₀ { s with
      waitingCFRequests :=
        Function.update s.waitingCFRequests s.ctrlFrmIdx (some (.open random)) } :=
    moves.then (.unopened random)
  split_ifs
  · exact failed
  · rw [bind_run, modify_run]
    dsimp only [send]
    cases written : serialize (.control
        (.open s.ctrlFrmIdx random.toNat PROTOCOL_VERSION PROTOCOL_IDENTIFIER)) with
    | error err => exact failed
    | ok bytes =>
      refine (moves.then (.request (.open random) (some bytes) (.inr (.inr ⟨random, rfl⟩))
        fun bytes' same => ?_)).then (.readyState .opening)
      cases Option.some.inj same
      exact ⟨_, rfl, written⟩
  · exact moves.then (.event _)

theorem moves_createChannel (client : s.originFlag = 0x0) (primary : Bool) (label : String) :
    Moves incoming s₀ (stateOf (createChannel primary label s)) := by
  rw [createChannel, whenOpen, bind_run, get_run]
  dsimp only
  by_cases isOpen : s.readyState = .open
  · rw [if_pos isOpen, bind_run, get_run]
    dsimp only
    rw [bind_run, modify_run]
    dsimp only
    rw [modifyHolder, bind_run, modify_run]
    dsimp only
    refine moves.then (sendRequest_moves _ _ _ s ⟨label, rfl⟩ fun written writes => ?_)
    have move : Move incoming s _ := .createChannel primary written client writes
    cases primary <;> exact move
  · rw [if_neg isOpen]
    exact moves.then (.event _)

theorem moves_closeChannel (client : s.originFlag = 0x0) (ch : Ref) (made : ch < s.channels.next) :
    Moves incoming s₀ (stateOf (closeChannel ch s)) := by
  rw [closeChannel, whenOpen, bind_run, get_run]
  dsimp only
  split_ifs
  · rw [bind_run, getChannel, bind_run, get_run]
    simp only [pure_run, bind_run, get_run]
    by_cases there : s.channels.get? (s.channels.objs ch).id = some ch
    · simp only [Session.assert, there, beq_self_eq_true, if_true, pure_run, modifyHolder,
        modifyChannel, modify_run]
      refine moves.then (sendRequest_moves _ _ _ s ⟨_, rfl⟩ fun written writes => ?_)
      exact .closeChannel ch written client made there writes
    · have unknown : (s.channels.get? (s.channels.objs ch).id == some ch) = false :=
        beq_eq_false_iff_ne.mpr there
      simp only [Session.assert, unknown]
      exact moves
  · exact moves.then (.event _)

end

end

def incomingOf (s : Session) : Call → Incoming
  | .recv buf =>
    match deserialize buf with
    | .ok (.control frame) =>
      if frame.id ≠ 0 ∧ frame.id % 2 ≠ s.originFlag then .answer frame.id
      else .request frame.id
    | _ => .none
  | _ => .none

theorem moves_onRecv (s : Session) (buf : Buffer) :
    Moves (incomingOf s (.recv buf)) s (stateOf (onRecv buf s)) := by
  have start : Moves (incomingOf s (.recv buf)) s s := Relation.ReflTransGen.refl
  unfold onRecv
  split_ifs
  · exact moves_onRecvPrimaryPush buf s start
  · rw [onRecvFrame]
    cases read : deserialize buf with
    | error err => exact start
    | ok frame =>
      cases frame with
      | data frame =>
        have small := requestId_of_deserialize buf frame read
        exact moves_onDataFrame frame small s start
      | control frame =>
        have small := idsSmall_of_deserialize buf frame read
        change Moves _ s (stateOf (onControlFrame frame s))
        unfold onControlFrame
        rw [bind_run, get_run]
        dsimp only
        by_cases answer : frame.id ≠ 0 ∧ frame.id % 2 ≠ s.originFlag
        · have from_ : incomingOf s (.recv buf) = .answer frame.id := by
            simp only [incomingOf, read, if_pos answer]
          rw [if_pos answer]
          exact moves_onAnswer s start frame from_
        · have from_ : incomingOf s (.recv buf) = .request frame.id := by
            simp only [incomingOf, read, if_neg answer]
          cases frame with
          | closePipe id request channelId pipeId =>
            rw [if_neg answer]
            exact moves_onPipeCloseFrame id request channelId pipeId from_ s start
          | close id =>
            rw [if_neg answer]
            exact moves_onCloseControlFrame id from_ s start
          | _ =>
            rw [if_neg answer]
            exact moves_onControlFrameFromPeer s start _ from_ small

theorem moves_after (s : Session) (call : Call) (admissible : call.Admissible s) :
    Moves (incomingOf s call) s (s.after call) := by
  have start : Moves (incomingOf s call) s s := Relation.ReflTransGen.refl
  cases call with
  | «open» random => exact moves_open s start random
  | close => exact moves_close s start
  | createChannel primary label => exact moves_createChannel s start admissible primary label
  | closeChannel ch => exact moves_closeChannel s start admissible.1 ch admissible.2
  | createPushPipe ch primary label => exact moves_createPushPipe ch primary label s start
  | closePushPipe ch pipe => exact moves_closePushPipe ch pipe s start
  | push ch pipe data => exact moves_push ch pipe data s start
  | createRequestPipe ch primary label => exact moves_createRequestPipe ch primary label s start
  | closeRequestPipe ch pipe => exact moves_closeRequestPipe ch pipe s start
  | request ch pipe data callback => exact moves_request ch pipe data callback s start
  | endResponse response data => exact moves_endResponse response data s start
  | recv buf => exact moves_onRecv s buf

end Session
end AkashicSystem.Amtp
