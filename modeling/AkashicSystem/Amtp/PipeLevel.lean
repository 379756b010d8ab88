import AkashicSystem.Amtp.Endpoint

/-!
# What pipes do to a session

Creating and closing pipes, sending and receiving on them: all of it goes through
a few updates of the session.  A property that these updates keep is kept by
every method of pipes.
-/

set_option autoImplicit false

namespace AkashicSystem.Amtp

open AkashicSystem.Js Computation Session Channel

def Handler.PipeLevel : Handler → Prop
  | .createPushPipe .. | .createRequestPipe .. | .closePushPipe .. | .closeRequestPipe .. => True
  | _ => False

namespace Channel

structure SameFace (c c' : Channel) : Prop where
  id : c'.id = c.id
  isClientMode : c'.isClientMode = c.isClientMode
  readyState : c'.readyState = c.readyState

section

variable (c : Channel)
include c

variable (primary : Bool)

theorem sameFace_addPushPipe (pipeId : Nat) :
    SameFace c (c.addPushPipe primary pipeId) := by
  unfold addPushPipe
  dsimp only
  split_ifs <;> exact ⟨rfl, rfl, rfl⟩

theorem sameFace_addRequestPipe (pipeId : Nat) :
    SameFace c (c.addRequestPipe primary pipeId) := by
  unfold addRequestPipe
  dsimp only
  split_ifs
  · exact ⟨rfl, rfl, rfl⟩
  · split <;> exact ⟨rfl, rfl, rfl⟩

theorem sameFace_leavePushPipe (pipe : Ref) : SameFace c (c.leavePushPipe pipe) := by
  unfold leavePushPipe
  split_ifs <;> exact ⟨rfl, rfl, rfl⟩

theorem sameFace_leaveRequestPipe (pipe : Ref) : SameFace c (c.leaveRequestPipe pipe) := by
  unfold leaveRequestPipe
  split_ifs <;> exact ⟨rfl, rfl, rfl⟩

theorem sameFace_removePushPipe (pipe : Ref) :
    SameFace c (c.removePushPipe pipe) := ⟨rfl, rfl, rfl⟩

theorem sameFace_removeRequestPipe (pipe : Ref) : SameFace c (c.removeRequestPipe pipe) := by
  unfold removeRequestPipe
  dsimp only
  split_ifs <;> exact ⟨rfl, rfl, rfl⟩

theorem sameFace_addIncomingPushPipe (id : Nat) :
    SameFace c (c.addIncomingPushPipe primary id) := by
  unfold addIncomingPushPipe
  dsimp only
  split_ifs <;> exact ⟨rfl, rfl, rfl⟩

theorem sameFace_addIncomingRequestPipe (id : Nat) :
    SameFace c (c.addIncomingRequestPipe primary id) := by
  unfold addIncomingRequestPipe
  dsimp only
  split_ifs <;> exact ⟨rfl, rfl, rfl⟩

theorem sameFace_removeIncomingPushPipe (id : Nat) (p : Ref) :
    SameFace c (c.removeIncomingPushPipe id p) := by
  unfold removeIncomingPushPipe
  dsimp only
  split_ifs <;> exact ⟨rfl, rfl, rfl⟩

theorem sameFace_removeIncomingRequestPipe (id : Nat) (p : Ref) :
    SameFace c (c.removeIncomingRequestPipe id p) := by
  unfold removeIncomingRequestPipe
  dsimp only
  split_ifs <;> exact ⟨rfl, rfl, rfl⟩

end

end Channel

namespace Session

variable {inv : Session → Prop}

theorem preserves_getChannel (ch : Ref) : Preserves inv (Session.getChannel ch) :=
  preserves_bind preserves_get fun _ => preserves_pure _

theorem preserves_assert (condition : Bool) (message : String) :
    Preserves inv (Session.assert condition message) := by
  unfold Session.assert
  split_ifs
  · exact preserves_pure _
  · exact preserves_throw _

theorem preserves_whenOpen (callback : JsError → SessionM Unit) (body : SessionM Unit)
    (failing : ∀ err, Preserves inv (callback err)) (going : Preserves inv body) :
    Preserves inv (Session.whenOpen callback body) := by
  refine preserves_bind preserves_get fun s => ?_
  split_ifs
  · exact going
  · exact failing _

theorem preserves_isId (id : Nat) (held : Option (Option Nat)) :
    Preserves inv (Session.isId id held) := by
  unfold Session.isId
  split
  · exact preserves_throw _
  · exact preserves_pure _

theorem preserves_throwUnlessOpen : Preserves inv Session.throwUnlessOpen := by
  refine preserves_bind preserves_get fun s => ?_
  split_ifs
  · exact preserves_pure _
  · exact preserves_throw _

theorem preserves_channelOf (channelId : Nat) : Preserves inv (Session.channelOf channelId) := by
  refine preserves_bind preserves_get fun s => ?_
  split
  · exact preserves_throw _
  · exact preserves_pure _

theorem preserves_isPrimarySendChannel (channelId : Nat) :
    Preserves inv (Session.isPrimarySendChannel channelId) :=
  preserves_bind preserves_get fun _ => preserves_isId _ _

theorem preserves_isPrimaryPipeOf (channelId pipeId : Nat) (held : Channel → Option (Option Nat)) :
    Preserves inv (Session.isPrimaryPipeOf channelId pipeId held) := by
  refine preserves_bind preserves_get fun s => ?_
  split
  · exact preserves_throw _
  · exact preserves_isId _ _

end Session

structure PipeStable (inv : Session → Prop) : Prop where
  event : ∀ s event, inv s → inv { s with events := s.events ++ [event] }
  sent : ∀ s data, inv s → inv { s with sent := s.sent ++ [data] }
  channel : ∀ s ch (f : Channel → Channel), (∀ c, SameFace c (f c)) → inv s →
    inv { s with channels := s.channels.modify ch f }
  requested : ∀ s (handler : Handler), handler.PipeLevel → inv s →
    inv { s with
      waitingCFRequests := Function.update s.waitingCFRequests s.ctrlFrmIdx (some handler)
      ctrlFrmIdx := s.ctrlFrmIdx + 2 }
  responses : ∀ s (responses : Ref → Option RequestPipeResponse) (nextResponse : Ref), inv s →
    inv { s with responses := responses, nextResponse := nextResponse }

namespace PipeStable

variable {inv : Session → Prop} (stable : PipeStable inv)

include stable

theorem emit (event : Event) : Preserves inv (Session.emit event) :=
  preserves_modify fun s before => stable.event s event before

theorem socketSend (data : Buffer) : Preserves inv (Session.socketSend data) :=
  preserves_modify fun s before => stable.sent s data before

theorem send (frame : Frame) : Preserves inv (Session.send frame) := by
  unfold Session.send
  split
  · exact stable.socketSend _
  · exact preserves_throw _

theorem modifyChannel (ch : Ref) (f : Channel → Channel) (same : ∀ c, SameFace c (f c)) :
    Preserves inv (Session.modifyChannel ch f) :=
  preserves_modify fun s before => stable.channel s ch f same before

theorem sendRequest (frame : Nat → ControlFrame) (handler : Handler) (level : handler.PipeLevel) :
    Preserves inv (Session.sendRequest frame handler) := by
  intro s before
  have after := stable.send (.control (frame s.ctrlFrmIdx)) _
    (stable.requested s handler level before)
  simpa only [Session.sendRequest, bind_run, get_run, modify_run] using after

theorem fail (handler : Handler) (err : JsError) : Preserves inv (Session.fail handler err) := by
  unfold Session.fail
  split
  · exact preserves_throw _
  · refine preserves_bind (preserves_getChannel _) fun _ => ?_
    exact preserves_bind (stable.modifyChannel _ _ fun _ => ⟨rfl, rfl, rfl⟩)
      fun _ => stable.emit _
  · refine preserves_bind (preserves_getChannel _) fun _ => ?_
    exact preserves_bind (stable.modifyChannel _ _ fun _ => ⟨rfl, rfl, rfl⟩)
      fun _ => stable.emit _
  · exact stable.emit _

theorem createPipe (channelId pipeId : Nat) (primary request : Bool) (label : String)
    (handler : Handler) (level : handler.PipeLevel) :
    Preserves inv (Session.createPipe channelId pipeId primary request label handler) :=
  preserves_whenOpen _ _ (stable.fail handler) (stable.sendRequest _ handler level)

theorem closePipe (channelId pipeId : Nat) (request : Bool) (handler : Handler)
    (level : handler.PipeLevel) :
    Preserves inv (Session.closePipe channelId pipeId request handler) :=
  preserves_whenOpen _ _ (stable.fail handler) (stable.sendRequest _ handler level)

theorem createPushPipe (ch : Ref) (primary : Bool) (label : String) :
    Preserves inv (createPushPipe ch primary label) := by
  refine preserves_bind (preserves_getChannel ch) fun channel => ?_
  refine preserves_bind (preserves_assert _ _) fun _ => ?_
  refine preserves_bind (stable.modifyChannel ch _ fun c => ?_) fun _ => ?_
  · split_ifs <;> exact ⟨rfl, rfl, rfl⟩
  · exact preserves_bind (stable.createPipe _ _ _ _ _ _ trivial)
      fun _ => stable.modifyChannel ch _ fun _ => ⟨rfl, rfl, rfl⟩

theorem createRequestPipe (ch : Ref) (primary : Bool) (label : String) :
    Preserves inv (createRequestPipe ch primary label) := by
  refine preserves_bind (preserves_getChannel ch) fun channel => ?_
  refine preserves_bind (preserves_assert _ _) fun _ => ?_
  refine preserves_bind (stable.modifyChannel ch _ fun c => ?_) fun _ => ?_
  · split_ifs <;> exact ⟨rfl, rfl, rfl⟩
  · exact preserves_bind (stable.createPipe _ _ _ _ _ _ trivial)
      fun _ => stable.modifyChannel ch _ fun _ => ⟨rfl, rfl, rfl⟩

theorem closePushPipe (ch pipe : Ref) : Preserves inv (Pipe.closePushPipe ch pipe) := by
  refine preserves_bind (stable.modifyChannel ch _ fun _ => ⟨rfl, rfl, rfl⟩) fun _ => ?_
  refine preserves_bind (preserves_getChannel ch) fun channel => ?_
  split
  · exact preserves_throw _
  · exact preserves_bind
      (stable.modifyChannel ch _ fun c => sameFace_leavePushPipe c pipe)
      fun _ => stable.closePipe _ _ _ _ trivial

theorem closeRequestPipe (ch pipe : Ref) : Preserves inv (Pipe.closeRequestPipe ch pipe) := by
  refine preserves_bind (stable.modifyChannel ch _ fun _ => ⟨rfl, rfl, rfl⟩) fun _ => ?_
  refine preserves_bind (preserves_getChannel ch) fun channel => ?_
  split
  · exact preserves_throw _
  · exact preserves_bind
      (stable.modifyChannel ch _ fun c => sameFace_leaveRequestPipe c pipe)
      fun _ => stable.closePipe _ _ _ _ trivial

theorem createIncomingPushPipe (ch : Ref) (id : Nat) (primary : Bool) :
    Preserves inv (createIncomingPushPipe ch id primary) := by
  refine preserves_bind (preserves_getChannel ch) fun channel => ?_
  split_ifs
  · exact preserves_bind (preserves_throw _) fun _ => preserves_bind
      (stable.modifyChannel ch _ fun c => sameFace_addIncomingPushPipe c primary id)
      fun _ => stable.emit _
  · exact preserves_bind
      (stable.modifyChannel ch _ fun c => sameFace_addIncomingPushPipe c primary id)
      fun _ => stable.emit _

theorem createIncomingRequestPipe (ch : Ref) (id : Nat) (primary : Bool) :
    Preserves inv (createIncomingRequestPipe ch id primary) := by
  refine preserves_bind (preserves_getChannel ch) fun channel => ?_
  split_ifs
  · exact preserves_bind (preserves_throw _) fun _ => preserves_bind
      (stable.modifyChannel ch _ fun c => sameFace_addIncomingRequestPipe c primary id)
      fun _ => stable.emit _
  · exact preserves_bind
      (stable.modifyChannel ch _ fun c => sameFace_addIncomingRequestPipe c primary id)
      fun _ => stable.emit _

theorem closeIncomingPushPipe (ch : Ref) (id : Nat) :
    Preserves inv (closeIncomingPushPipe ch id) := by
  refine preserves_bind (preserves_getChannel ch) fun channel => ?_
  split
  · exact preserves_throw _
  · exact preserves_bind
      (stable.modifyChannel ch _ fun c => sameFace_removeIncomingPushPipe c id _)
      fun _ => stable.emit _

theorem closeIncomingRequestPipe (ch : Ref) (id : Nat) :
    Preserves inv (closeIncomingRequestPipe ch id) := by
  refine preserves_bind (preserves_getChannel ch) fun channel => ?_
  split
  · exact preserves_throw _
  · exact preserves_bind
      (stable.modifyChannel ch _ fun c => sameFace_removeIncomingRequestPipe c id _)
      fun _ => stable.emit _

theorem sendPushPipeData (channelId pipeId : Nat) (data : Buffer) :
    Preserves inv (Session.sendPushPipeData channelId pipeId data) := by
  refine preserves_bind preserves_throwUnlessOpen fun _ => ?_
  refine preserves_bind (preserves_isPrimarySendChannel _) fun isPrimaryChannel => ?_
  refine preserves_bind (preserves_isPrimaryPipeOf _ _ _) fun isPrimaryPipe => ?_
  split_ifs
  · exact stable.socketSend _
  · exact stable.send _

theorem sendRequestPipeData (channelId pipeId requestId : Nat) (data : Buffer) :
    Preserves inv (Session.sendRequestPipeData channelId pipeId requestId data) := by
  refine preserves_bind preserves_throwUnlessOpen fun _ => ?_
  refine preserves_bind (preserves_isPrimarySendChannel _) fun isPrimaryChannel => ?_
  exact preserves_bind (preserves_isPrimaryPipeOf _ _ _) fun isPrimaryPipe => stable.send _

theorem sendIncomingRequestPipeData (channelId pipeId requestId : Nat) (data : Buffer) :
    Preserves inv (Session.sendIncomingRequestPipeData channelId pipeId requestId data) := by
  refine preserves_bind preserves_throwUnlessOpen fun _ => ?_
  refine preserves_bind (preserves_isPrimarySendChannel _) fun isPrimaryChannel => ?_
  exact preserves_bind (preserves_isPrimaryPipeOf _ _ _) fun isPrimaryPipe => stable.send _

theorem push (ch pipe : Ref) (data : Buffer) : Preserves inv (Pipe.push ch pipe data) := by
  refine preserves_bind (preserves_getChannel ch) fun channel => ?_
  dsimp only
  split
  · exact preserves_throw _
  · split_ifs
    · exact stable.sendPushPipeData _ _ _
    · exact preserves_throw _

theorem request (ch pipe : Ref) (data : Buffer) (callback : Nat) :
    Preserves inv (Pipe.request ch pipe data callback) := by
  refine preserves_bind (preserves_getChannel ch) fun channel => ?_
  refine preserves_bind (preserves_assert _ _) fun _ => ?_
  refine preserves_bind (stable.modifyChannel ch _ fun _ => ⟨rfl, rfl, rfl⟩) fun _ => ?_
  split
  · exact preserves_throw _
  · exact preserves_bind (stable.sendRequestPipeData _ _ _ _)
      fun _ => stable.modifyChannel ch _ fun _ => ⟨rfl, rfl, rfl⟩

theorem endResponse (response : Ref) (data : Buffer) :
    Preserves inv (Pipe.endResponse response data) := by
  refine preserves_bind preserves_get fun s => ?_
  split
  · exact preserves_throw _
  · refine preserves_bind (preserves_getChannel _) fun channel => ?_
    refine preserves_bind (preserves_assert _ _) fun _ => ?_
    split
    · exact preserves_throw _
    · exact preserves_bind (stable.sendIncomingRequestPipeData _ _ _ _)
        fun _ => preserves_modify fun s before => stable.responses s _ _ before

theorem onPush (ch pipe : Ref) (data : Buffer) : Preserves inv (Pipe.onPush ch pipe data) :=
  stable.emit _

theorem onRequest (ch pipe : Ref) (requestId : Nat) (data : Buffer) :
    Preserves inv (Pipe.onRequest ch pipe requestId data) := by
  refine preserves_bind (preserves_getChannel ch) fun channel => ?_
  refine preserves_bind (preserves_assert _ _) fun _ => ?_
  refine preserves_bind preserves_get fun s => ?_
  exact preserves_bind (preserves_modify fun s before => stable.responses s _ _ before)
    fun _ => stable.emit _

theorem onResponse (ch pipe : Ref) (requestId : Nat) (data : Buffer) :
    Preserves inv (Pipe.onResponse ch pipe requestId data) := by
  refine preserves_bind (preserves_getChannel ch) fun channel => ?_
  refine preserves_bind (preserves_assert _ _) fun _ => ?_
  refine preserves_bind (stable.modifyChannel ch _ fun _ => ⟨rfl, rfl, rfl⟩) fun _ => ?_
  split
  · exact preserves_throw _
  · exact stable.emit _

theorem onChannelData (ch : Ref) (frame : DataFrame) :
    Preserves inv (Session.onChannelData ch frame) := by
  refine preserves_bind preserves_get fun s => ?_
  dsimp only
  split_ifs
  · split
    · exact preserves_throw _
    · exact stable.onResponse _ _ _ _
  · split
    · exact preserves_throw _
    · exact stable.onRequest _ _ _ _
  · split
    · exact preserves_throw _
    · exact stable.onPush _ _ _

theorem onDataFrame (frame : DataFrame) : Preserves inv (Session.onDataFrame frame) := by
  refine preserves_bind preserves_get fun s => ?_
  split_ifs
  · split
    · exact preserves_throw _
    · exact stable.onChannelData _ _
  · exact preserves_pure _

theorem onRecvPrimaryPush (buf : Buffer) : Preserves inv (Session.onRecvPrimaryPush buf) := by
  refine preserves_bind preserves_get fun s => ?_
  split
  · exact preserves_throw _
  · split
    · exact preserves_throw _
    · exact stable.onPush _ _ _

theorem onPipeControlFrame (id : Nat) (primary request : Bool) (channelId pipeId : Nat) :
    Preserves inv (Session.onPipeControlFrame id primary request channelId pipeId) := by
  refine preserves_bind (preserves_channelOf channelId) fun ch => ?_
  split_ifs
  · exact preserves_bind (stable.createIncomingRequestPipe _ _ _) fun _ => stable.send _
  · exact preserves_bind (stable.createIncomingPushPipe _ _ _) fun _ => stable.send _

theorem onPipeCloseFrame (id : Nat) (request : Bool) (channelId pipeId : Nat) :
    Preserves inv (Session.onPipeCloseFrame id request channelId pipeId) := by
  refine preserves_bind (preserves_channelOf channelId) fun ch => ?_
  split_ifs
  · exact preserves_bind (stable.closeIncomingRequestPipe _ _) fun _ => stable.send _
  · exact preserves_bind (stable.closeIncomingPushPipe _ _) fun _ => stable.send _

theorem finish (handler : Handler) (level : handler.PipeLevel) (acceptData : Option Buffer) :
    Preserves inv (Session.finish handler acceptData) := by
  cases handler with
  | createPushPipe ch primary pipeId =>
    exact preserves_bind
      (stable.modifyChannel ch _ fun c => sameFace_addPushPipe c primary pipeId)
      fun _ => stable.emit _
  | createRequestPipe ch primary pipeId =>
    exact preserves_bind
      (stable.modifyChannel ch _ fun c => sameFace_addRequestPipe c primary pipeId)
      fun _ => stable.emit _
  | closePushPipe ch pipe =>
    exact preserves_bind
      (stable.modifyChannel ch _ fun c => sameFace_removePushPipe c pipe)
      fun _ => stable.emit _
  | closeRequestPipe ch pipe =>
    exact preserves_bind
      (stable.modifyChannel ch _ fun c => sameFace_removeRequestPipe c pipe)
      fun _ => stable.emit _
  | close | «open» random | createChannel primary channelId | closeChannel ch => exact level.elim

end PipeStable

def Call.PipeLevel : Call → Prop
  | .createPushPipe .. | .closePushPipe .. | .push .. | .createRequestPipe .. |
    .closeRequestPipe .. | .request .. | .endResponse .. => True
  | _ => False

theorem PipeStable.run {inv : Session → Prop} (stable : PipeStable inv) (call : Call)
    (level : call.PipeLevel) : Preserves inv call.run := by
  cases call with
  | createPushPipe ch primary label => exact stable.createPushPipe ch primary label
  | closePushPipe ch pipe => exact stable.closePushPipe ch pipe
  | push ch pipe data => exact stable.push ch pipe data
  | createRequestPipe ch primary label => exact stable.createRequestPipe ch primary label
  | closeRequestPipe ch pipe => exact stable.closeRequestPipe ch pipe
  | request ch pipe data callback => exact stable.request ch pipe data callback
  | endResponse response data => exact stable.endResponse response data
  | «open» random | close | createChannel primary label | closeChannel ch | recv buf =>
    exact level.elim

end AkashicSystem.Amtp
