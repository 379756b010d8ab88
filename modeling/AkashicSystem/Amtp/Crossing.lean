import AkashicSystem.Amtp.Pair

/-!
# Data that crosses a close

A session that has sent a ClosePipe or a CloseChannel may still get data for the pipe or
the channel, which its peer has sent before it learned of the close.
-/

set_option autoImplicit false

namespace AkashicSystem.Amtp

open AkashicSystem.Js Computation

namespace Session

/-- The frame closes what the data was sent on: the channel, or the request pipe that is
being answered. -/
def closes (origin : Origin) : ControlFrame → Bool
  | .closeChannel _ channelId => channelId == origin.channelId
  | .closePipe _ request channelId pipeId =>
    origin.kind == .response && request && channelId == origin.channelId &&
      some pipeId == origin.pipeId
  | _ => false

variable (s : Session)

def hasClosed (origin : Origin) : Bool :=
  s.sent.any fun bytes =>
    match Serializer.deserialize bytes with
    | .ok (.control frame) => closes origin frame
    | _ => false

variable (bytes : Buffer)

/-- The buffer raises nothing, is delivered to nothing, and leaves the session as it is. -/
def Ignores : Prop := (Call.recv bytes).run s = .ok () s

/-- The buffer is delivered: its payload is emitted, or given to a callback. -/
def Delivers : Prop :=
  ∃ s' event, (Call.recv bytes).run s = .ok () s' ∧ s'.events = s.events ++ [event]

def Throws : Prop :=
  ∃ err s', (Call.recv bytes).run s = .error err s'

def DataOnly (s₀ s : Session) : Prop :=
  ∃ new, s.sent = s₀.sent ++ new ∧ ∀ bytes ∈ new, ∃ frame,
    Serializer.deserialize bytes = .ok (.data frame)

section

variable {s₀ : Session}

theorem dataOnly_refl (s : Session) : DataOnly s s := ⟨[], (List.append_nil _).symm, nofun⟩

theorem dataOnly_modify {f : Session → Session} (same : ∀ s, (f s).sent = s.sent) :
    Preserves (DataOnly s₀) (modify f : SessionM PUnit) := by
  refine preserves_modify fun s ⟨new, sent, data⟩ => ⟨new, ?_, data⟩
  rw [same, sent]

theorem dataOnly_socketSend (bytes : Buffer) (frame : DataFrame)
    (read : Serializer.deserialize bytes = .ok (.data frame)) :
    Preserves (DataOnly s₀) (socketSend bytes) := by
  refine preserves_modify fun s ⟨new, sent, data⟩ => ⟨new ++ [bytes], ?_, ?_⟩
  · dsimp only
    rw [sent, List.append_assoc]
  · intro bytes' there
    rcases List.mem_append.mp there with there | there
    · exact data bytes' there
    · obtain rfl := List.mem_singleton.mp there
      exact ⟨frame, read⟩

theorem dataOnly_send (isPrimaryChannel isPrimaryPipe : Bool) (requestId : Option Nat)
    (channelId pipeId : Nat) (data : Buffer) : Preserves (DataOnly s₀)
      (send (.data (dataFrame isPrimaryChannel isPrimaryPipe requestId channelId pipeId
        data))) := by
  unfold send
  split
  · next bytes written =>
      exact dataOnly_socketSend bytes _ (dataFrame_read _ _ _ _ _ _ _ written)
  · exact preserves_throw _

theorem dataOnly_push (ch pipe : Ref) (data : Buffer) :
    Preserves (DataOnly s₀) (Pipe.push ch pipe data) := by
  refine preserves_bind (preserves_getChannel ch) fun channel => ?_
  dsimp only
  split
  · exact preserves_throw _
  · split_ifs
    · refine preserves_bind preserves_throwUnlessOpen fun _ => ?_
      refine preserves_bind (preserves_isPrimarySendChannel _) fun isPrimaryChannel => ?_
      refine preserves_bind (preserves_isPrimaryPipeOf _ _ _) fun isPrimaryPipe => ?_
      split_ifs
      · exact dataOnly_socketSend _ _ (deserialize_zero data)
      · exact dataOnly_send _ _ _ _ _ _
    · exact preserves_throw _

theorem dataOnly_request (ch pipe : Ref) (data : Buffer) (callback : Nat) :
    Preserves (DataOnly s₀) (Pipe.request ch pipe data callback) := by
  refine preserves_bind (preserves_getChannel ch) fun channel => ?_
  refine preserves_bind (preserves_assert _ _) fun _ => ?_
  refine preserves_bind (dataOnly_modify fun _ => rfl) fun _ => ?_
  split
  · exact preserves_throw _
  · refine preserves_bind ?_ fun _ => dataOnly_modify fun _ => rfl
    refine preserves_bind preserves_throwUnlessOpen fun _ => ?_
    refine preserves_bind (preserves_isPrimarySendChannel _) fun isPrimaryChannel => ?_
    refine preserves_bind (preserves_isPrimaryPipeOf _ _ _) fun isPrimaryPipe => ?_
    exact dataOnly_send _ _ _ _ _ _

theorem dataOnly_endResponse (response : Ref) (data : Buffer) :
    Preserves (DataOnly s₀) (Pipe.endResponse response data) := by
  refine preserves_bind preserves_get fun s => ?_
  split
  · exact preserves_throw _
  · refine preserves_bind (preserves_getChannel _) fun channel => ?_
    refine preserves_bind (preserves_assert _ _) fun _ => ?_
    split
    · exact preserves_throw _
    · refine preserves_bind ?_ fun _ => dataOnly_modify fun _ => rfl
      refine preserves_bind preserves_throwUnlessOpen fun _ => ?_
      refine preserves_bind (preserves_isPrimarySendChannel _) fun isPrimaryChannel => ?_
      refine preserves_bind (preserves_isPrimaryPipeOf _ _ _) fun isPrimaryPipe => ?_
      exact dataOnly_send _ _ _ _ _ _

end

theorem dataOnly_of_origin (call : Call) (origin : Origin)
    (sends : call.origin s = some origin) : DataOnly s (s.after call) := by
  cases call with
  | push ch pipe data => exact dataOnly_push ch pipe data s (dataOnly_refl s)
  | request ch pipe data callback =>
    exact dataOnly_request ch pipe data callback s (dataOnly_refl s)
  | endResponse response data => exact dataOnly_endResponse response data s (dataOnly_refl s)
  | _ => cases sends

theorem onChannelData_cases (ch : Ref) (frame : DataFrame) :
    (∃ err s', onChannelData ch frame s = .error err s') ∨
      ∃ s' event, onChannelData ch frame s = .ok () s' ∧ s'.events = s.events ++ [event] := by
  rw [onChannelData, bind_run, get_run]
  dsimp only
  split_ifs
  · cases resolveRequestPipe (s.channels.objs ch) frame with
    | none => exact .inl ⟨_, _, rfl⟩
    | some rp =>
      dsimp only
      rw [Pipe.onResponse, bind_run, getChannel, bind_run, get_run]
      simp only [pure_run]
      by_cases isOpen : ((s.channels.objs ch).requestPipes.objs rp).readyState = .open
      · simp only [isOpen, decide_true, Session.assert, if_true, pure_run, bind_run,
          Session.modifyChannel, modify_run]
        cases ((s.channels.objs ch).requestPipes.objs rp).handlers (frame.requestId.getD 0) with
        | none => exact .inl ⟨_, _, rfl⟩
        | some callback => exact .inr ⟨_, _, rfl, rfl⟩
      · simp only [isOpen, decide_false, Session.assert, bind_run]
        exact .inl ⟨_, _, rfl⟩
  · cases resolveIncomingRequestPipe (s.channels.objs ch) frame with
    | none => exact .inl ⟨_, _, rfl⟩
    | some rp =>
      dsimp only
      rw [Pipe.onRequest, bind_run, getChannel, bind_run, get_run]
      simp only [pure_run]
      by_cases isOpen : ((s.channels.objs ch).incomingRequestPipes.objs rp).readyState = .open
      · simp only [isOpen, decide_true, Session.assert, if_true, pure_run, bind_run]
        exact .inr ⟨_, _, rfl, rfl⟩
      · simp only [isOpen, decide_false, Session.assert, bind_run]
        exact .inl ⟨_, _, rfl⟩
  · cases resolveIncomingPushPipe (s.channels.objs ch) frame with
    | none => exact .inl ⟨_, _, rfl⟩
    | some pp => exact .inr ⟨_, _, rfl, rfl⟩

/-- A data frame at a session that is open throws or is delivered, and so does the
frame of the shortcut at any session. -/
theorem throws_or_delivers (frame : DataFrame)
    (read : Serializer.deserialize bytes = .ok (.data frame))
    (heard : s.readyState = .open ∨ bytes[0]? = some 0x0) : s.Throws bytes ∨ s.Delivers bytes := by
  by_cases zero : bytes[0]? = some 0x0
  · cases bytes with
    | nil => cases zero
    | cons byte data =>
      obtain rfl : byte = 0x0 := Option.some.inj zero
      have run : (Call.recv (0x0 :: data)).run s = onRecvPrimaryPush (0x0 :: data) s := by
        change onRecv (0x0 :: data) s = _
        rw [onRecv_zero]
      rw [Throws, Delivers, run, onRecvPrimaryPush_run]
      cases primaryPushTarget s with
      | none => exact .inl ⟨_, _, rfl⟩
      | some target => exact .inr ⟨_, _, rfl, rfl⟩
  · have isOpen := heard.resolve_right zero
    have run : (Call.recv bytes).run s = onDataFrame frame s := by
      change onRecv bytes s = _
      rw [onRecv, if_neg zero, onRecvFrame, read]
    rw [Throws, Delivers, run, onDataFrame, bind_run, get_run]
    dsimp only
    rw [if_pos isOpen]
    cases resolveChannel s frame with
    | none => exact .inl ⟨_, _, rfl⟩
    | some ch => exact onChannelData_cases s ch frame

theorem ignores_of_notOpen (frame : DataFrame)
    (read : Serializer.deserialize bytes = .ok (.data frame)) (notOpen : s.readyState ≠ .open)
    (zero : bytes[0]? ≠ some 0x0) : s.Ignores bytes := by
  change onRecv bytes s = _
  rw [onRecv, if_neg zero, onRecvFrame, read]
  dsimp only
  rw [onDataFrame, bind_run, get_run]
  dsimp only
  rw [if_neg notOpen]
  rfl

end Session

namespace Pair

open Session

/-- A buffer that comes next and was sent on a pipe which the session, or whose channel it
has closed. -/
structure Crosses (w : Pair) (side : Side) (packet : Packet) (origin : Origin) : Prop where
  next : (w.inbound side).head? = some packet
  sentOn : packet.origin = some origin
  closed : (w.session side).hasClosed origin = true

def Labelled (w : Pair) : Prop :=
  ∀ side, ∀ packet ∈ w.inbound side, packet.origin ≠ none →
    ∃ frame, Serializer.deserialize packet.bytes = .ok (.data frame)

theorem labelled_perform (w : Pair) (side : Side) (call : Call) (origin : Option Origin)
    (labelled : w.Labelled)
    (sends : origin ≠ none → DataOnly (w.session side) ((w.session side).after call)) :
    (w.perform side call origin).Labelled := by
  intro side' packet there known
  by_cases same : side' = side.peer
  · subst same
    have inbound : (w.perform side call origin).inbound side.peer =
        w.inbound side.peer ++ (((w.session side).after call).sent.drop
          (w.session side).sent.length).map fun bytes => ⟨bytes, origin⟩ :=
      Function.update_self ..
    rw [inbound] at there
    rcases List.mem_append.mp there with there | there
    · exact labelled side.peer packet there known
    · obtain ⟨bytes, fresh, rfl⟩ := List.mem_map.mp there
      obtain ⟨new, sent, data⟩ := sends known
      rw [sent, List.drop_left] at fresh
      exact data bytes fresh
  · have inbound : (w.perform side call origin).inbound side' = w.inbound side' :=
      Function.update_of_ne same ..
    rw [inbound] at there
    exact labelled side' packet there known

theorem labelled_step (w : Pair) (action : Action) (labelled : w.Labelled) :
    (w.step action).Labelled := by
  cases action with
  | call side call =>
    refine labelled_perform w side call _ labelled fun known => ?_
    obtain ⟨origin, sends⟩ := Option.ne_none_iff_exists'.mp known
    exact dataOnly_of_origin _ call origin sends
  | deliver side =>
    rw [step]
    cases inbound : w.inbound side with
    | nil => exact labelled
    | cons packet rest =>
      refine labelled_perform _ side _ none ?_ fun known => absurd rfl known
      intro side' packet' there known
      dsimp only at there
      by_cases same : side' = side
      · subst same
        rw [Function.update_self] at there
        refine labelled side' packet' ?_ known
        rw [inbound]
        exact List.mem_cons_of_mem _ there
      · rw [Function.update_of_ne same] at there
        exact labelled side' packet' there known

/-- Whatever the sessions do, what is sent on a pipe is read as a data frame. -/
theorem data_in_flight (actions : List Action) : (Run.final step new actions).Labelled :=
  Run.stable labelled_step new actions nofun

/-- Whatever the two sessions have done, data that crosses a close is ignored exactly
where the session that has closed is not open any more and the data does not come with
the header of the shortcut.  Otherwise it throws or is delivered. -/
theorem crossing_ignored_iff (actions : List Action) (side : Side) (packet : Packet)
    (origin : Origin) (crosses : (Run.final step new actions).Crosses side packet origin) :
    (((Run.final step new actions).session side).Ignores packet.bytes ↔
      ((Run.final step new actions).session side).readyState ≠ .open ∧
        packet.bytes[0]? ≠ some 0x0) ∧
    (¬ ((Run.final step new actions).session side).Ignores packet.bytes →
      ((Run.final step new actions).session side).Throws packet.bytes ∨
        ((Run.final step new actions).session side).Delivers packet.bytes) := by
  generalize final : Run.final step new actions = w at crosses
  have labelled : w.Labelled := by
    rw [← final]
    exact Run.stable labelled_step new actions nofun
  have there : packet ∈ w.inbound side := List.mem_of_mem_head? crosses.next
  obtain ⟨frame, read⟩ := labelled side packet there (by rw [crosses.sentOn]; exact nofun)
  have heard : ¬ ((w.session side).readyState ≠ .open ∧ packet.bytes[0]? ≠ some 0x0) →
      (w.session side).Throws packet.bytes ∨ (w.session side).Delivers packet.bytes := by
    intro outside
    refine throws_or_delivers (w.session side) packet.bytes frame read ?_
    by_contra neither
    exact outside (not_or.mp neither)
  have ignored : (w.session side).readyState ≠ .open ∧ packet.bytes[0]? ≠ some 0x0 →
      (w.session side).Ignores packet.bytes :=
    fun inside => ignores_of_notOpen _ packet.bytes frame read inside.1 inside.2
  refine ⟨⟨fun ignores => ?_, ignored⟩, fun loud => heard (mt ignored loud)⟩
  by_contra outside
  rw [Ignores] at ignores
  rcases heard outside with ⟨err, s', threw⟩ | ⟨s', event, ran, events⟩
  · rw [ignores] at threw
    cases threw
  · rw [ignores] at ran
    cases ran
    have length := congrArg List.length events
    rw [List.length_append, List.length_singleton] at length
    omega

/-- A request pipe of the client's is closed with a request outstanding, and the server
answers the request before it learns of the close. -/
def crossingActions : List Action :=
  [.call .client (.open 5), .deliver .server, .deliver .client,
    .call .client (.createChannel false ""), .deliver .server, .deliver .client,
    .call .client (.createRequestPipe 0 false ""), .deliver .server, .deliver .client,
    .call .client (.request 0 0 [1] 0), .deliver .server,
    .call .client (.closeRequestPipe 0 0), .call .server (.endResponse 0 [2])]

def crossingPacket : Packet := ⟨[0x10, 0, 0, 0, 1, 2], some ⟨.response, 1, some 1⟩⟩

/-- The client closes its session, too. -/
theorem crossing_ignored_closing :
    ((Run.final step new (crossingActions ++ [Action.call .client .close])).session .client).Ignores
      crossingPacket.bytes :=
  (crossing_ignored_iff (crossingActions ++ [Action.call .client .close]) .client crossingPacket
    ⟨.response, 1, some 1⟩ ⟨by decide +kernel, rfl, by decide +kernel⟩).1.mpr
      ⟨by decide +kernel, by decide +kernel⟩

/-- The response makes the session that has closed the pipe throw. -/
theorem response_crossing_close :
    ¬ ∀ actions side packet origin, Run.Allowed step Permitted new actions →
      (Run.final step new actions).Crosses side packet origin →
        ((Run.final step new actions).session side).Ignores packet.bytes := by
  intro ignores
  have allowed : Run.Allowed step Permitted new crossingActions := by decide +kernel
  have crosses : (Run.final step new crossingActions).Crosses .client crossingPacket
      ⟨.response, 1, some 1⟩ := ⟨by decide +kernel, rfl, by decide +kernel⟩
  have ignored := ignores crossingActions .client crossingPacket _ allowed crosses
  have threw : (match (Call.recv crossingPacket.bytes).run
      ((Run.final step new crossingActions).session .client) with
    | .ok _ _ => false
    | .error _ _ => true) = true := by decide +kernel
  rw [Ignores] at ignored
  rw [ignored] at threw
  cases threw

end Pair
end AkashicSystem.Amtp
