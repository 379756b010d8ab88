import AkashicSystem.Lib.Run
import AkashicSystem.Amtp.PipeLevel
import AkashicSystem.Amtp.Shortcut

/-!
# The handshake of a server session

A server session records the handshake in its state, but only some of its handlers
look there.  Whether a handshake is in force is followed beside the session, from
the buffers it receives and from its own `close`.
-/

set_option autoImplicit false

namespace AkashicSystem.Amtp.ServerGate

open AkashicSystem.Js Computation Session
open Run (Allowed final)

/-- An Open frame that `onOpenControlFrame` answers with an Accept. -/
def accepts (buf : Buffer) : Bool :=
  match Serializer.deserialize buf with
  | .ok (.control (.open id _ protocolVersion protocolIdentifier)) =>
    id % 2 == 1 && protocolVersion == PROTOCOL_VERSION &&
      protocolIdentifier == PROTOCOL_IDENTIFIER
  | _ => false

/-- A Close frame from the peer; one under an id of the server's own is no request. -/
def closes (buf : Buffer) : Bool :=
  match Serializer.deserialize buf with
  | .ok (.control (.close id)) => id == 0 || id % 2 == 1
  | _ => false

/-- A server session, and whether an accepted Open has not been followed by a close. -/
structure Gated where
  session : Session
  handshaken : Bool

namespace Gated

def new : Gated := ⟨newServer, false⟩

def step (w : Gated) (call : Call) : Gated where
  session := w.session.after call
  handshaken :=
    match call with
    | .recv buf => if closes buf then false else if accepts buf then true else w.handshaken
    | .close => if w.session.readyState = .open then false else w.handshaken
    | _ => w.handshaken

end Gated

def isPayload : Event → Bool
  | .push .. | .request .. | .response .. => true
  | _ => false

/-- No channel has been created, no pipe created or closed, no payload delivered. -/
structure Inert (s s' : Session) : Prop where
  channels : s'.channels.next = s.channels.next
  pushPipes : ∀ ch, (s'.channels.objs ch).pushPipes = (s.channels.objs ch).pushPipes
  requestPipes : ∀ ch, (s'.channels.objs ch).requestPipes = (s.channels.objs ch).requestPipes
  incomingPushPipes :
    ∀ ch, (s'.channels.objs ch).incomingPushPipes = (s.channels.objs ch).incomingPushPipes
  incomingRequestPipes :
    ∀ ch, (s'.channels.objs ch).incomingRequestPipes = (s.channels.objs ch).incomingRequestPipes
  payloads : s'.events.filter isPayload = s.events.filter isPayload

variable (s : Session)

variable (frame : ControlFrame)

/-- A control frame under an id of the session's own. -/
def IsAnswer : Prop :=
  frame.id ≠ 0 ∧ frame.id % 2 ≠ s.originFlag

instance (s : Session) (frame : ControlFrame) : Decidable (IsAnswer s frame) :=
  inferInstanceAs (Decidable (_ ∧ _))

/-- What a frame may ask of a session that is not open: no new channel, no pipe of
a channel that is there, and no answer to a request about a pipe, but that none is made. -/
def harmlessFrame : Bool :=
  if IsAnswer s frame then
    match s.waitingCFRequests frame.id with
    | none | some .close => true
    | some (.createPushPipe ..) | some (.createRequestPipe ..) => frame.type ≠ 0x1
    | some _ => false
  else
    match frame with
    | .channel _ _ channelId _ => (s.channels.get? channelId).isSome
    | .pipe _ _ request channelId pipeId _ =>
      match s.channels.get? channelId with
      | none => true
      | some ch =>
        if request then ((s.channels.objs ch).incomingRequestPipes.get? pipeId).isSome
        else ((s.channels.objs ch).incomingPushPipes.get? pipeId).isSome
    | .closePipe _ request channelId pipeId =>
      match s.channels.get? channelId with
      | none => true
      | some ch =>
        if request then ((s.channels.objs ch).incomingRequestPipes.get? pipeId).isNone
        else ((s.channels.objs ch).incomingPushPipes.get? pipeId).isNone
    | _ => true

/-- A buffer that does no harm to a session that is not open: nor does it take the
shortcut to a pipe. -/
def harmless (s : Session) (buf : Buffer) : Bool :=
  if buf[0]? = some 0x0 then (primaryPushTarget s).isNone
  else
    match Serializer.deserialize buf with
    | .ok (.control frame) => harmlessFrame s frame
    | _ => true

/-- Any buffer while the session is open, only harmless ones while it is not. -/
def Permitted (w : Gated) (call : Call) : Prop :=
  call.Admissible w.session ∧
    match call with
    | .recv buf => w.session.readyState ≠ .open → harmless w.session buf = true
    | _ => True

def onRequest : ControlFrame → SessionM Unit
  | .closePipe id request channelId pipeId => onPipeCloseFrame id request channelId pipeId
  | .close id => onCloseControlFrame id
  | frame => ServerSession.onControlFrameFromPeer frame

theorem onControlFrame_answer (answer : IsAnswer s frame) :
    onControlFrame frame s = onAnswer frame s := by
  unfold onControlFrame
  rw [bind_run, get_run]
  exact congrFun (if_pos answer) s

theorem onControlFrame_request (server : s.originFlag = 0x1)
    (request : ¬ IsAnswer s frame) : onControlFrame frame s = onRequest frame s := by
  have notClient : ¬ s.originFlag = 0x0 := by
    rw [server]
    decide
  have fromPeer : ∀ frame, onControlFrameFromPeer frame s =
      ServerSession.onControlFrameFromPeer frame s := by
    intro frame
    unfold onControlFrameFromPeer
    rw [bind_run, get_run]
    exact congrFun (if_neg notClient) s
  unfold onControlFrame
  rw [bind_run, get_run]
  refine (congrFun (if_neg request) s).trans ?_
  cases frame with
  | closePipe id request channelId pipeId | close id => rfl
  | _ => exact fromPeer _

/-- A server session that can be open only under a condition. -/
structure Shut (gate : Prop) (s : Session) : Prop where
  origin : s.originFlag = 0x1
  handlers : ∀ id handler, s.waitingCFRequests id = some handler →
    handler = .close ∨ handler.PipeLevel
  shut : s.readyState = .open → gate

section

variable {gate : Prop}

theorem Shut.mono {gate' : Prop} {s : Session} (weaker : gate → gate')
    (shut : Shut gate s) : Shut gate' s :=
  ⟨shut.origin, shut.handlers, fun isOpen => weaker (shut.shut isOpen)⟩

theorem handlers_update {waiting : Nat → Option Handler}
    (known : ∀ id handler, waiting id = some handler → handler = .close ∨ handler.PipeLevel)
    (id : Nat) (new : Option Handler)
    (fits : ∀ handler, new = some handler → handler = .close ∨ handler.PipeLevel) :
    ∀ id' handler, Function.update waiting id new id' = some handler →
      handler = .close ∨ handler.PipeLevel := by
  intro id' handler there
  by_cases same : id' = id
  · subst same
    rw [Function.update_self] at there
    exact fits handler there
  · rw [Function.update_of_ne same] at there
    exact known id' handler there

theorem pipeStable_shut : PipeStable (Shut gate) where
  event _ _ shut := ⟨shut.origin, shut.handlers, shut.shut⟩
  sent _ _ shut := ⟨shut.origin, shut.handlers, shut.shut⟩
  channel _ _ _ _ shut := ⟨shut.origin, shut.handlers, shut.shut⟩
  requested _ _ level shut :=
    ⟨shut.origin,
      handlers_update shut.handlers _ _ fun _ same =>
        .inr (Option.some.inj same ▸ level), shut.shut⟩
  responses _ _ _ shut := ⟨shut.origin, shut.handlers, shut.shut⟩

theorem shut_setReadyState (readyState : ReadyState) (allowed : readyState = .open → gate) :
    Preserves (Shut gate) (setReadyState readyState) :=
  preserves_modify fun _ shut => ⟨shut.origin, shut.handlers, allowed⟩

theorem shut_finish (handler : Handler) (known : handler = .close ∨ handler.PipeLevel)
    (acceptData : Option Buffer) : Preserves (Shut gate) (finish handler acceptData) := by
  rcases known with rfl | level
  · exact preserves_bind (shut_setReadyState .closed nofun) fun _ => pipeStable_shut.emit _
  · exact pipeStable_shut.finish handler level acceptData

theorem shut_onAnswer (frame : ControlFrame) : Preserves (Shut gate) (onAnswer frame) := by
  intro s before
  rw [onAnswer, bind_run, get_run]
  dsimp only
  cases waiting : s.waitingCFRequests frame.id with
  | none => exact before
  | some handler =>
    have known := before.handlers frame.id handler waiting
    have cleared : Shut gate
        { s with waitingCFRequests := Function.update s.waitingCFRequests frame.id none } :=
      ⟨before.origin, handlers_update before.handlers _ _ (fun _ there => nomatch there),
        before.shut⟩
    dsimp only
    rw [bind_run, modify_run]
    dsimp only
    split
    · exact shut_finish handler known _ _ cleared
    · exact pipeStable_shut.fail handler _ _ cleared
    · exact cleared

theorem send_accept_zero (data : Option Buffer) (s : Session) :
    ∃ err, send (.control (.accept 0 data)) s = .error err s := ⟨_, rfl⟩

theorem shut_onOpenControlFrame (id random protocolVersion protocolIdentifier : Nat)
    (fromPeer : id = 0 ∨ id % 2 = 1) (accepted : id % 2 = 1 → protocolVersion = PROTOCOL_VERSION →
      protocolIdentifier = PROTOCOL_IDENTIFIER → gate) : Preserves (Shut gate)
      (ServerSession.onOpenControlFrame id random protocolVersion protocolIdentifier) := by
  unfold ServerSession.onOpenControlFrame
  split_ifs with ours
  · rcases fromPeer with rfl | odd
    · -- the Accept throws before the state is set
      intro s before
      split
      · exact before
      · next echo _ =>
          obtain ⟨err, thrown⟩ := send_accept_zero (some echo) s
          rw [bind_run, thrown]
          exact before
    · split
      · exact preserves_bind (preserves_throw _) fun _ =>
          preserves_bind (shut_setReadyState .open fun _ => accepted odd ours.2 ours.1)
            fun _ => pipeStable_shut.emit _
      · exact preserves_bind (pipeStable_shut.send _) fun _ =>
          preserves_bind (shut_setReadyState .open fun _ => accepted odd ours.2 ours.1)
            fun _ => pipeStable_shut.emit _
  · exact pipeStable_shut.send _

theorem shut_onCloseControlFrame (id : Nat) : Preserves (Shut gate) (onCloseControlFrame id) :=
  preserves_bind (shut_setReadyState .closed nofun) fun _ =>
    preserves_bind (pipeStable_shut.emit _) fun _ => pipeStable_shut.send _

theorem shut_onChannelControlFrame (id : Nat) (primary : Bool) (channelId : Nat) :
    Preserves (Shut gate) (ServerSession.onChannelControlFrame id primary channelId) := by
  refine preserves_bind preserves_get fun s => ?_
  split_ifs
  · exact preserves_throw _
  · refine preserves_bind
      (preserves_modify fun s shut => ⟨shut.origin, shut.handlers, shut.shut⟩) fun _ => ?_
    exact preserves_bind (pipeStable_shut.send _) fun _ => pipeStable_shut.emit _

theorem shut_onClose (ch : Ref) : Preserves (Shut gate) (Channel.onClose ch) :=
  preserves_bind (preserves_modify fun _ shut => ⟨shut.origin, shut.handlers, shut.shut⟩)
    fun _ => pipeStable_shut.emit _

theorem shut_onCloseChannelControlFrame (id channelId : Nat) :
    Preserves (Shut gate) (ServerSession.onCloseChannelControlFrame id channelId) := by
  refine preserves_bind preserves_get fun s => ?_
  split
  · exact preserves_throw _
  · refine preserves_bind
      (preserves_modify fun s shut => ⟨shut.origin, shut.handlers, shut.shut⟩) fun _ => ?_
    exact preserves_bind (shut_onClose _) fun _ => pipeStable_shut.send _

theorem shut_onRequest (frame : ControlFrame) (fromPeer : frame.id = 0 ∨ frame.id % 2 = 1)
    (accepted : ∀ id random, frame = .open id random PROTOCOL_VERSION PROTOCOL_IDENTIFIER →
      id % 2 = 1 → gate) : Preserves (Shut gate) (onRequest frame) := by
  cases frame with
  | closePipe id request channelId pipeId =>
    exact pipeStable_shut.onPipeCloseFrame id request channelId pipeId
  | close id => exact shut_onCloseControlFrame id
  | «open» id random protocolVersion protocolIdentifier =>
    refine shut_onOpenControlFrame id random _ _ fromPeer ?_
    rintro odd rfl rfl
    exact accepted id random rfl odd
  | channel id primary channelId label => exact shut_onChannelControlFrame id primary channelId
  | pipe id primary request channelId pipeId label =>
    exact pipeStable_shut.onPipeControlFrame id primary request channelId pipeId
  | closeChannel id channelId => exact shut_onCloseChannelControlFrame id channelId
  | accept id data | deny id | other type id => exact preserves_throw _

theorem shut_onControlFrame (frame : ControlFrame)
    (accepted : ∀ id random, frame = .open id random PROTOCOL_VERSION PROTOCOL_IDENTIFIER →
      id % 2 = 1 → gate) : Preserves (Shut gate) (onControlFrame frame) := by
  intro s before
  by_cases answer : IsAnswer s frame
  · rw [onControlFrame_answer s frame answer]
    exact shut_onAnswer frame s before
  · rw [onControlFrame_request s frame before.origin answer]
    refine shut_onRequest frame ?_ accepted s before
    have origin := before.origin
    unfold IsAnswer at answer
    omega

theorem accepts_open (buf : Buffer) (id random : Nat) (read : Serializer.deserialize buf =
      .ok (.control (.open id random PROTOCOL_VERSION PROTOCOL_IDENTIFIER)))
    (odd : id % 2 = 1) : accepts buf = true := by
  simp [accepts, read, odd]

theorem shut_onRecv (buf : Buffer) (accepted : accepts buf = true → gate) :
    Preserves (Shut gate) (onRecv buf) := by
  unfold onRecv
  split_ifs
  · exact pipeStable_shut.onRecvPrimaryPush buf
  · unfold onRecvFrame
    split
    · exact preserves_throw _
    · next frame read =>
        refine shut_onControlFrame frame ?_
        rintro id random rfl odd
        exact accepted (accepts_open buf id random read odd)
    · exact pipeStable_shut.onDataFrame _

theorem onRecvFrame_control (buf : Buffer) (frame : ControlFrame)
    (read : Serializer.deserialize buf = .ok (.control frame)) :
    onRecv buf = onControlFrame frame := by
  have first : ¬ buf[0]? = some 0x0 := by
    intro zero
    cases buf with
    | nil => cases zero
    | cons byte data =>
      obtain rfl : byte = 0x0 := Option.some.inj zero
      rw [deserialize_zero] at read
      cases Except.ok.inj read
  rw [onRecv, if_neg first, onRecvFrame, read]

theorem shut_of_closes (s : Session) (buf : Buffer) (shut : Shut gate s)
    (close : closes buf = true) : Shut False (s.after (.recv buf)) := by
  change Shut False (stateOf (onRecv buf s))
  unfold closes at close
  split at close
  · next id read =>
      have request : ¬ IsAnswer s (.close id) := by
        have origin := shut.origin
        simp only [Bool.or_eq_true, beq_iff_eq] at close
        rw [IsAnswer, ControlFrame.id]
        omega
      rw [onRecvFrame_control buf _ read, onControlFrame_request s _ shut.origin request]
      have closed : Shut False { s with readyState := .closed } :=
        ⟨shut.origin, shut.handlers, nofun⟩
      exact preserves_bind (pipeStable_shut.emit .sessionClose)
        (fun _ => pipeStable_shut.send (.control (.accept id none))) _ closed
  · cases close

theorem shut_of_close (s : Session) (shut : Shut gate s) : Shut False (s.after .close) := by
  change Shut False (stateOf (Session.close s))
  unfold Session.close whenOpen
  rw [bind_run, get_run]
  by_cases isOpen : s.readyState = .open
  · have closing : Shut False
        { s with
          readyState := .closing
          waitingCFRequests := Function.update s.waitingCFRequests s.ctrlFrmIdx (some .close)
          ctrlFrmIdx := s.ctrlFrmIdx + 2 } := by
      refine ⟨shut.origin, handlers_update shut.handlers _ _ fun handler same => ?_, nofun⟩
      exact .inl (Option.some.inj same).symm
    have sent := pipeStable_shut.send (.control (.close s.ctrlFrmIdx)) _ closing
    simpa only [if_pos isOpen, setReadyState, sendRequest, bind_run, get_run, modify_run] using sent
  · simp only [if_neg isOpen, Session.emit, modify_run, stateOf_ok]
    exact ⟨shut.origin, shut.handlers, fun isOpen' => isOpen isOpen'⟩

end

theorem shut_step (w : Gated) (call : Call) (shut : Shut (w.handshaken = true) w.session)
    (permitted : Permitted w call) :
    Shut ((w.step call).handshaken = true) (w.step call).session := by
  obtain ⟨admissible, -⟩ := permitted
  have notClient : w.session.originFlag ≠ 0x0 := by
    rw [shut.origin]
    decide
  have piped (level : call.PipeLevel) : Shut (w.handshaken = true) (w.session.after call) :=
    pipeStable_shut.run call level w.session shut
  cases call with
  | «open» random | createChannel primary label => exact absurd admissible notClient
  | closeChannel ch => exact absurd admissible.1 notClient
  | close =>
    exact (shut_of_close w.session shut).mono False.elim
  | recv buf =>
    by_cases close : closes buf = true
    · exact (shut_of_closes w.session buf shut close).mono False.elim
    · have step : (w.step (.recv buf)).handshaken =
          if accepts buf then true else w.handshaken := if_neg close
      rw [step]
      refine shut_onRecv buf (fun accepted => if_pos accepted) w.session
        (shut.mono fun held => ?_)
      split_ifs
      · rfl
      · exact held
  | createPushPipe ch primary label | closePushPipe ch pipe | push ch pipe data
  | createRequestPipe ch primary label | closeRequestPipe ch pipe
  | request ch pipe data callback | endResponse response data => exact piped trivial

theorem shut_new : Shut (Gated.new.handshaken = true) Gated.new.session :=
  ⟨rfl, nofun, nofun⟩

theorem shut_run (calls : List Call) (run : Allowed Gated.step Permitted Gated.new calls) :
    Shut ((final Gated.step Gated.new calls).handshaken = true)
      (final Gated.step Gated.new calls).session := by
  let inv : Gated → Prop := fun w => Shut (w.handshaken = true) w.session
  have kept : inv (final Gated.step Gated.new calls) :=
    Run.invariant shut_step Gated.new calls shut_new run
  exact kept

namespace Inert

theorem refl : Inert s s :=
  ⟨rfl, fun _ => rfl, fun _ => rfl, fun _ => rfl, fun _ => rfl, rfl⟩

variable {s₀ : Session}

theorem emit (event : Event) (silent : isPayload event = false) :
    Preserves (Inert s₀) (Session.emit event) :=
  preserves_modify fun _ inert =>
    { inert with
      payloads := by
        rw [List.filter_append, List.filter_cons_of_neg (by simp [silent]), List.filter_nil,
          List.append_nil]
        exact inert.payloads }

theorem send (frame : Frame) : Preserves (Inert s₀) (Session.send frame) := by
  unfold Session.send
  split
  · exact preserves_modify fun _ inert => { inert with }
  · exact preserves_throw _

theorem setReadyState (readyState : ReadyState) :
    Preserves (Inert s₀) (Session.setReadyState readyState) :=
  preserves_modify fun _ inert => { inert with }

theorem modifyChannel (s : Session) (ch : Ref) (readyState : ReadyState) (inert : Inert s₀ s) :
    Inert s₀
      { s with channels := s.channels.modify ch fun c => { c with readyState := readyState } } := by
  have same : ∀ ch', ∃ readyState',
      (s.channels.modify ch fun c => { c with readyState := readyState }).objs ch' =
        { s.channels.objs ch' with readyState := readyState' } := by
    intro ch'
    by_cases eq : ch' = ch
    · subst eq
      exact ⟨readyState, Function.update_self ..⟩
    · exact ⟨(s.channels.objs ch').readyState, Function.update_of_ne eq ..⟩
  refine ⟨inert.channels, fun ch' => ?_, fun ch' => ?_, fun ch' => ?_, fun ch' => ?_,
    inert.payloads⟩
  · obtain ⟨readyState', eq⟩ := same ch'
    rw [eq]
    exact inert.pushPipes ch'
  · obtain ⟨readyState', eq⟩ := same ch'
    rw [eq]
    exact inert.requestPipes ch'
  · obtain ⟨readyState', eq⟩ := same ch'
    rw [eq]
    exact inert.incomingPushPipes ch'
  · obtain ⟨readyState', eq⟩ := same ch'
    rw [eq]
    exact inert.incomingRequestPipes ch'

theorem onAnswer_close (s : Session) (frame : ControlFrame)
    (waiting : s.waitingCFRequests frame.id = some .close) :
    Inert s (stateOf (onAnswer frame s)) := by
  have cleared : Inert s
      { s with waitingCFRequests := Function.update s.waitingCFRequests frame.id none } :=
    { refl s with }
  rw [onAnswer, bind_run, get_run]
  dsimp only
  rw [waiting]
  dsimp only
  rw [bind_run, modify_run]
  dsimp only
  split
  · exact preserves_bind (setReadyState .closed) (fun _ => emit _ rfl) _ cleared
  · exact emit _ rfl _ cleared
  · exact cleared

/-- What a request for a pipe gets but an Accept makes none. -/
theorem onAnswer_create (s : Session) (frame : ControlFrame) (handler : Handler)
    (waiting : s.waitingCFRequests frame.id = some handler)
    (creates : ∀ err, Session.fail handler err = Session.emit (.failed err))
    (refused : frame.type ≠ 0x1) : Inert s (stateOf (onAnswer frame s)) := by
  have cleared : Inert s
      { s with waitingCFRequests := Function.update s.waitingCFRequests frame.id none } :=
    { refl s with }
  rw [onAnswer, bind_run, get_run]
  dsimp only
  rw [waiting]
  dsimp only
  rw [bind_run, modify_run]
  dsimp only
  split
  · exact absurd rfl refused
  · rw [creates]
    exact emit _ rfl _ cleared
  · exact cleared

theorem onClose (ch : Ref) : Preserves (Inert s₀) (Channel.onClose ch) :=
  preserves_bind (preserves_modify fun s inert => modifyChannel s ch .closed inert)
    fun _ => emit _ rfl

theorem onCloseChannelControlFrame (id channelId : Nat) :
    Preserves (Inert s₀) (ServerSession.onCloseChannelControlFrame id channelId) := by
  refine preserves_bind preserves_get fun s => ?_
  split
  · exact preserves_throw _
  · next channel _ =>
      refine preserves_bind (preserves_modify fun s inert => ?_) fun _ => ?_
      · exact { modifyChannel s channel .closed inert with }
      · exact preserves_bind (onClose channel) fun _ => send _

theorem onOpenControlFrame (id random protocolVersion protocolIdentifier : Nat) :
    Preserves (Inert s₀)
      (ServerSession.onOpenControlFrame id random protocolVersion protocolIdentifier) := by
  unfold ServerSession.onOpenControlFrame
  split_ifs
  · split
    · exact preserves_bind (preserves_throw _) fun _ =>
        preserves_bind (setReadyState .open) fun _ => emit _ rfl
    · exact preserves_bind (send _) fun _ =>
        preserves_bind (setReadyState .open) fun _ => emit _ rfl
  · exact send _

theorem onCloseControlFrame (id : Nat) : Preserves (Inert s₀) (Session.onCloseControlFrame id) :=
  preserves_bind (setReadyState .closed) fun _ =>
    preserves_bind (emit .sessionClose rfl) fun _ => send _

end Inert

theorem inert_onRequest (notAnswer : ¬ IsAnswer s frame)
    (harmless : harmlessFrame s frame = true) : Inert s (stateOf (onRequest frame s)) := by
  unfold harmlessFrame at harmless
  rw [if_neg notAnswer] at harmless
  cases frame with
  | closePipe id request channelId pipeId =>
    change Inert s (stateOf (onPipeCloseFrame id request channelId pipeId s))
    rw [onPipeCloseFrame, bind_run, channelOf, bind_run, get_run]
    dsimp only at harmless ⊢
    cases found : s.channels.get? channelId with
    | none => exact Inert.refl s
    | some ch =>
      rw [found] at harmless
      cases request with
      | true =>
        have missing : (s.channels.objs ch).incomingRequestPipes.get? pipeId = none :=
          Option.isNone_iff_eq_none.mp harmless
        simp [Channel.closeIncomingRequestPipe, getChannel, missing, Inert.refl]
      | false =>
        have missing : (s.channels.objs ch).incomingPushPipes.get? pipeId = none :=
          Option.isNone_iff_eq_none.mp harmless
        simp [Channel.closeIncomingPushPipe, getChannel, missing, Inert.refl]
  | close id => exact Inert.onCloseControlFrame id s (Inert.refl s)
  | «open» id random protocolVersion protocolIdentifier =>
    exact Inert.onOpenControlFrame id random _ _ s (Inert.refl s)
  | channel id primary channelId label =>
    change Inert s (stateOf (ServerSession.onChannelControlFrame id primary channelId s))
    have known : (s.channels.get? channelId).isSome = true := harmless
    simp [ServerSession.onChannelControlFrame, known, Inert.refl]
  | pipe id primary request channelId pipeId label =>
    change Inert s (stateOf (onPipeControlFrame id primary request channelId pipeId s))
    rw [onPipeControlFrame, bind_run, channelOf, bind_run, get_run]
    dsimp only at harmless ⊢
    cases found : s.channels.get? channelId with
    | none => exact Inert.refl s
    | some ch =>
      rw [found] at harmless
      cases request with
      | true =>
        have known : ((s.channels.objs ch).incomingRequestPipes.get? pipeId).isSome = true :=
          harmless
        simp [Channel.createIncomingRequestPipe, getChannel, known, Inert.refl]
      | false =>
        have known : ((s.channels.objs ch).incomingPushPipes.get? pipeId).isSome = true :=
          harmless
        simp [Channel.createIncomingPushPipe, getChannel, known, Inert.refl]
  | closeChannel id channelId =>
    exact Inert.onCloseChannelControlFrame id channelId s (Inert.refl s)
  | accept id data | deny id | other type id => exact Inert.refl s

theorem inert_onControlFrame (server : s.originFlag = 0x1)
    (harmless : harmlessFrame s frame = true) : Inert s (stateOf (onControlFrame frame s)) := by
  by_cases answer : IsAnswer s frame
  · rw [onControlFrame_answer s frame answer]
    unfold harmlessFrame at harmless
    rw [if_pos answer] at harmless
    split at harmless
    · next waiting =>
        rw [onAnswer, bind_run, get_run]
        dsimp only
        rw [waiting]
        exact Inert.refl s
    · next waiting => exact Inert.onAnswer_close s frame waiting
    · next waiting =>
        exact Inert.onAnswer_create s frame _ waiting (fun _ => rfl) (of_decide_eq_true harmless)
    · next waiting =>
        exact Inert.onAnswer_create s frame _ waiting (fun _ => rfl) (of_decide_eq_true harmless)
    · cases harmless
  · rw [onControlFrame_request s frame server answer]
    exact inert_onRequest s frame answer harmless

theorem inert_onRecv (buf : Buffer) (server : s.originFlag = 0x1)
    (notOpen : s.readyState ≠ .open) (harmless : harmless s buf = true) :
    Inert s (s.after (.recv buf)) := by
  change Inert s (stateOf (onRecv buf s))
  by_cases zero : buf[0]? = some 0x0
  · unfold ServerGate.harmless at harmless
    rw [if_pos zero] at harmless
    cases buf with
    | nil => cases zero
    | cons byte data =>
      obtain rfl : byte = 0x0 := Option.some.inj zero
      have missing : primaryPushTarget s = none := Option.isNone_iff_eq_none.mp harmless
      rw [onRecv_zero, onRecvPrimaryPush_run, missing]
      exact Inert.refl s
  · unfold ServerGate.harmless at harmless
    rw [if_neg zero] at harmless
    rw [onRecv, if_neg zero, onRecvFrame]
    cases read : Serializer.deserialize buf with
    | error err => exact Inert.refl s
    | ok frame =>
      rw [read] at harmless
      cases frame with
      | control frame => exact inert_onControlFrame s frame server harmless
      | data frame =>
        dsimp only
        rw [onDataFrame, bind_run, get_run]
        dsimp only
        rw [if_neg notOpen]
        exact Inert.refl s

/-- Without a handshake in force, a buffer that does no harm creates no channel,
creates or closes no pipe and delivers nothing. -/
theorem inert_without_handshake (calls : List Call)
    (run : Allowed Gated.step Permitted Gated.new calls) (buf : Buffer)
    (next : Permitted (final Gated.step Gated.new calls) (.recv buf))
    (none : (final Gated.step Gated.new calls).handshaken = false) :
    Inert (final Gated.step Gated.new calls).session
      ((final Gated.step Gated.new calls).session.after (.recv buf)) := by
  have shut := shut_run calls run
  have notOpen : (final Gated.step Gated.new calls).session.readyState ≠ .open := by
    intro isOpen
    rw [shut.shut isOpen] at none
    cases none
  exact inert_onRecv _ buf shut.origin notOpen (next.2 notOpen)

def openFrame : Buffer := [0x83, 0, 0, 0, 1, 0x41, 0x4d, 0x54, 0x50, 1, 0, 0, 0, 5]

def channelFrame : Buffer := [0x84, 0, 0, 0, 3, 0, 0, 0, 1]

def closedCalls : List Call :=
  [.recv openFrame, .recv channelFrame, .recv [0x86, 0, 0, 0, 5]]

theorem closedCalls_allowed : Allowed Gated.step Permitted Gated.new closedCalls := by
  refine ⟨⟨trivial, fun _ => ?_⟩, ⟨trivial, fun notOpen => ?_⟩, ⟨trivial, fun _ => ?_⟩, trivial⟩
  · decide
  · exact absurd (by decide) notOpen
  · decide

/-- The channel once more, after the Close frame. -/
theorem inert_without_handshake_closed : Inert (final Gated.step Gated.new closedCalls).session
      ((final Gated.step Gated.new closedCalls).session.after
        (.recv [0x84, 0, 0, 0, 7, 0, 0, 0, 1])) :=
  inert_without_handshake closedCalls closedCalls_allowed _
    ⟨trivial, fun _ => by decide⟩ (by decide)

/-- A Channel frame creates a channel before any handshake. -/
theorem channel_without_handshake : ¬ ∀ (calls : List Call) (buf : Buffer),
      Allowed Gated.step (fun w call => call.Admissible w.session) Gated.new calls →
      (final Gated.step Gated.new calls).handshaken = false →
      Inert (final Gated.step Gated.new calls).session
        ((final Gated.step Gated.new calls).session.after (.recv buf)) := by
  intro gated
  have inert := gated [] channelFrame trivial rfl
  exact absurd inert.channels (by decide)

end AkashicSystem.Amtp.ServerGate
