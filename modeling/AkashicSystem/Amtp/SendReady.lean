import AkashicSystem.Amtp.Pair

/-!
# When a send reaches the socket

A send looks up whether its channel and its pipe are the primary ones, whichever they
are, and reads the ids of the primary channel and of the primary pipe for that.  A
holder that is empty makes it throw.
-/

set_option autoImplicit false

namespace AkashicSystem.Amtp

open AkashicSystem.Js Computation

namespace Session

/-- The call returns, and the socket has got one buffer, which ends with the data. -/
def Reaches (s : Session) (call : Call) (data : Buffer) : Prop :=
  ∃ s' header, call.run s = .ok () s' ∧ s'.sent = s.sent ++ [header ++ data]

def chosen (channelId pipeId : Nat) (held : Channel → Option (Option Nat))
    (sending : Bool → Bool → SessionM Unit) : SessionM Unit := do
  throwUnlessOpen
  let isPrimaryChannel ← isPrimarySendChannel channelId
  let isPrimaryPipe ← isPrimaryPipeOf channelId pipeId held
  sending isPrimaryChannel isPrimaryPipe

section

variable {s : Session} {channelId : Nat} (pipeId : Nat) {ch : Ref}
  {held : Channel → Option (Option Nat)} (sending : Bool → Bool → SessionM Unit)

section

variable (isOpen : s.readyState = .open)
include isOpen

theorem throwUnlessOpen_run : throwUnlessOpen s = .ok () s := by
  rw [throwUnlessOpen, bind_run, get_run]
  dsimp only
  rw [if_pos isOpen]
  rfl

theorem chosen_null (there : s.channels.get? channelId = some ch)
    (missing : s.primaryChannelHolder.send = none ∨ held (s.channels.objs ch) = none) :
    chosen channelId pipeId held sending s = .error .nullAccess s := by
  rw [chosen, bind_run, throwUnlessOpen_run isOpen]
  dsimp only
  rw [bind_run, isPrimarySendChannel, bind_run, get_run]
  dsimp only
  cases send : s.primaryChannelHolder.send with
  | none => rfl
  | some primary =>
    have missing : held (s.channels.objs ch) = none := missing.resolve_left (by simp [send])
    simp [isId, isPrimaryPipeOf, there, missing]

theorem chosen_run (there : s.channels.get? channelId = some ch)
    (send : s.primaryChannelHolder.send ≠ none) (pipe : held (s.channels.objs ch) ≠ none) :
    ∃ isPrimaryChannel isPrimaryPipe,
      chosen channelId pipeId held sending s = sending isPrimaryChannel isPrimaryPipe s := by
  obtain ⟨primary, send⟩ := Option.ne_none_iff_exists'.mp send
  obtain ⟨id, pipe⟩ := Option.ne_none_iff_exists'.mp pipe
  refine ⟨some (s.channels.objs primary).id == some channelId, id == some pipeId, ?_⟩
  rw [chosen, bind_run, throwUnlessOpen_run isOpen]
  dsimp only
  rw [bind_run, isPrimarySendChannel, bind_run, get_run]
  dsimp only
  rw [send]
  simp [isId, isPrimaryPipeOf, there, pipe]

end

end

section

variable (s : Session) (isPrimaryChannel isPrimaryPipe : Bool) (requestId : Option Nat)
  {channelId pipeId : Nat} (data : Buffer)

theorem send_dataFrame (channelSmall : channelId ≤ 0x7fffffff) (pipeSmall : pipeId ≤ 0x7fffffff)
    (requestSmall : ∀ id ∈ requestId, id ≤ 0xffffffff) : ∃ header, send
      (.data (dataFrame isPrimaryChannel isPrimaryPipe requestId channelId pipeId data)) s =
        .ok () { s with sent := s.sent ++ [header ++ data] } := by
  let frame := dataFrame isPrimaryChannel isPrimaryPipe requestId channelId pipeId data
  have fits : frame.Fits := by
    refine ⟨?_, ?_, ?_⟩
    · cases isPrimaryChannel <;> simp [frame, fitsField, dataFrame, channelSmall]
    · cases isPrimaryPipe <;> simp [frame, fitsField, dataFrame, pipeSmall]
    · exact ⟨by simp [frame, dataFrame], requestSmall⟩
  have written := Serializer.serializeDataFrame_fits frame fits
  refine ⟨Serializer.dataHeader frame :: (Serializer.dataWords frame).flatMap Buffer.word, ?_⟩
  rw [send, Serializer.serialize, written]
  rfl

theorem send_dataFrame_large (large : ∃ id ∈ requestId, 0xffffffff < id) : ∃ err, send
    (.data (dataFrame isPrimaryChannel isPrimaryPipe requestId channelId pipeId data)) s =
      .error err s := by
  cases written : Serializer.serialize
    (.data (dataFrame isPrimaryChannel isPrimaryPipe requestId channelId pipeId data)) with
  | error err =>
    refine ⟨err, ?_⟩
    rw [send, written]
    rfl
  | ok bytes =>
    have fits := Serializer.fits_of_serializeDataFrame _ bytes
      (fun primary => if_pos primary) (fun primary => if_pos primary)
      (fun absent => Option.isNone_iff_eq_none.mp (Option.isSome_eq_false_iff.mp absent)) written
    obtain ⟨id, there, large⟩ := large
    exact absurd (fits.requestId.2 id there) (Nat.not_le.mpr large)

end

section

variable {s : Session} (sound : s.Sound) (isOpen : s.readyState = .open) {ch : Ref}
  (made : ch < s.channels.next) (channelOpen : (s.channels.objs ch).readyState = .open)

include sound made channelOpen

theorem Sound.there : s.channels.get? (s.channels.objs ch).id = some ch := by
  obtain ⟨id, own, there⟩ := sound.filed.filed ch made channelOpen
  cases own
  exact there

include isOpen

theorem Sound.push_reaches_iff {pipe : Ref} (pipeMade : pipe < (s.channels.objs ch).pushPipes.next)
    (pipeOpen : ((s.channels.objs ch).pushPipes.objs pipe).readyState = .open) (data : Buffer) :
    s.Reaches (.push ch pipe data) data ↔
      s.primaryChannelHolder.send ≠ none ∧ (s.channels.objs ch).primaryPushPipe ≠ none := by
  have there := sound.there made channelOpen
  have channel := sound.channel ch made
  obtain ⟨id, own, small⟩ := channel.pushIds pipe pipeMade pipeOpen
  let sending : Bool → Bool → SessionM Unit := fun isPrimaryChannel isPrimaryPipe =>
    if isPrimaryChannel && isPrimaryPipe then socketSend (0x0 :: data)
    else send
      (.data (dataFrame isPrimaryChannel isPrimaryPipe none (s.channels.objs ch).id id data))
  have run : (Call.push ch pipe data).run s =
      chosen (s.channels.objs ch).id id primaryPushPipeId sending s := by
    change Pipe.push ch pipe data s = _
    rw [Pipe.push, bind_run, getChannel, bind_run, get_run]
    simp only [pure_run, own, pipeOpen, if_true]
    rfl
  constructor
  · rintro ⟨s', header, ran, -⟩
    rw [run] at ran
    constructor
    · intro missing
      rw [chosen_null id sending isOpen there (.inl missing)] at ran
      cases ran
    · intro missing
      have nothing : primaryPushPipeId (s.channels.objs ch) = none := by
        rw [primaryPushPipeId, missing]
        rfl
      rw [chosen_null id sending isOpen there (.inr nothing)] at ran
      cases ran
  · rintro ⟨primary, primaryPipe⟩
    have held : primaryPushPipeId (s.channels.objs ch) ≠ none := by
      simpa [primaryPushPipeId] using primaryPipe
    obtain ⟨isPrimaryChannel, isPrimaryPipe, chose⟩ :=
      chosen_run id sending isOpen there primary held
    rw [Reaches, run, chose]
    dsimp only [sending]
    split_ifs
    · exact ⟨_, [0x0], rfl, rfl⟩
    · have fits : ∀ id' ∈ (none : Option Nat), id' ≤ 0xffffffff := by
        intro id' there'
        cases there'
      obtain ⟨header, sent⟩ := send_dataFrame s isPrimaryChannel isPrimaryPipe none data
        channel.small small fits
      exact ⟨_, header, sent, rfl⟩

theorem Sound.request_reaches_iff {pipe : Ref}
    (pipeMade : pipe < (s.channels.objs ch).requestPipes.next)
    (pipeOpen : ((s.channels.objs ch).requestPipes.objs pipe).readyState = .open) (data : Buffer)
    (callback : Nat) : s.Reaches (.request ch pipe data callback) data ↔
      s.primaryChannelHolder.send ≠ none ∧
        (s.channels.objs ch).primaryRequestPipeHolder.send ≠ none ∧
          ((s.channels.objs ch).requestPipes.objs pipe).reqIdx ≤ 0xffffffff := by
  have there := sound.there made channelOpen
  have channel := sound.channel ch made
  obtain ⟨id, own, small⟩ := channel.requestIds pipe pipeMade pipeOpen
  let reqIdx := ((s.channels.objs ch).requestPipes.objs pipe).reqIdx
  -- the callback is registered before anything is looked up
  let s₁ : Session := { s with
    channels := s.channels.modify ch fun c => { c with
      requestPipes := c.requestPipes.modify pipe fun p =>
        { p with handlers := Function.update p.handlers p.reqIdx (some callback) } } }
  let sending : Bool → Bool → SessionM Unit := fun isPrimaryChannel isPrimaryPipe => send
    (.data (dataFrame isPrimaryChannel isPrimaryPipe (some reqIdx) (s.channels.objs ch).id id data))
  let counted : SessionM Unit := Session.modifyChannel ch fun c => { c with
    requestPipes := c.requestPipes.modify pipe fun p => { p with reqIdx := p.reqIdx + 2 } }
  have run : (Call.request ch pipe data callback).run s =
      (chosen (s.channels.objs ch).id id primaryRequestPipeId sending >>= fun _ => counted) s₁ := by
    change Pipe.request ch pipe data callback s = _
    rw [Pipe.request, bind_run, getChannel, bind_run, get_run]
    simp only [pure_run, own, pipeOpen, decide_true, Session.assert, if_true, bind_run,
      Session.modifyChannel, modify_run]
    rfl
  have isOpen₁ : s₁.readyState = .open := isOpen
  have there₁ : s₁.channels.get? (s.channels.objs ch).id = some ch := there
  have held : primaryRequestPipeId (s₁.channels.objs ch) = none ↔
      (s.channels.objs ch).primaryRequestPipeHolder.send = none := by
    simp [s₁, primaryRequestPipeId]
  constructor
  · rintro ⟨s', header, ran, -⟩
    rw [run, bind_run] at ran
    refine ⟨fun missing => ?_, fun missing => ?_, ?_⟩
    · rw [chosen_null id sending isOpen₁ there₁ (.inl missing)] at ran
      cases ran
    · rw [chosen_null id sending isOpen₁ there₁ (.inr (held.mpr missing))] at ran
      cases ran
    · by_contra large
      by_cases missing : s.primaryChannelHolder.send = none ∨
          (s.channels.objs ch).primaryRequestPipeHolder.send = none
      · rw [chosen_null id sending isOpen₁ there₁ (missing.imp_right held.mpr)] at ran
        cases ran
      · obtain ⟨primary, primaryPipe⟩ := not_or.mp missing
        obtain ⟨isPrimaryChannel, isPrimaryPipe, chose⟩ :=
          chosen_run id sending isOpen₁ there₁ primary (mt held.mp primaryPipe)
        obtain ⟨err, failed⟩ : ∃ err, sending isPrimaryChannel isPrimaryPipe s₁ = .error err s₁ :=
          send_dataFrame_large s₁ _ _ (some reqIdx) data ⟨reqIdx, rfl, Nat.not_le.mp large⟩
        rw [chose, failed] at ran
        cases ran
  · rintro ⟨primary, primaryPipe, reqSmall⟩
    obtain ⟨isPrimaryChannel, isPrimaryPipe, chose⟩ :=
      chosen_run id sending isOpen₁ there₁ primary (mt held.mp primaryPipe)
    have fits : ∀ id' ∈ some reqIdx, id' ≤ 0xffffffff := by
      intro id' same
      cases same
      exact reqSmall
    obtain ⟨header, sent⟩ : ∃ header, sending isPrimaryChannel isPrimaryPipe s₁ =
        .ok () { s₁ with sent := s₁.sent ++ [header ++ data] } :=
      send_dataFrame s₁ _ _ (some reqIdx) data channel.small small fits
    rw [Reaches, run, bind_run, chose, sent]
    exact ⟨_, header, rfl, rfl⟩

theorem Sound.endResponse_reaches_iff {pipe : Ref}
    (pipeMade : pipe < (s.channels.objs ch).incomingRequestPipes.next)
    (pipeOpen : ((s.channels.objs ch).incomingRequestPipes.objs pipe).readyState = .open)
    {response : Ref} {requestId : Nat}
    (waits : s.responses response = some ⟨requestId, ch, pipe⟩) (data : Buffer) :
    s.Reaches (.endResponse response data) data ↔ s.primaryChannelHolder.send ≠ none := by
  have there := sound.there made channelOpen
  have channel := sound.channel ch made
  obtain ⟨id, own, small⟩ := channel.incomingIds pipe pipeMade pipeOpen
  let sending : Bool → Bool → SessionM Unit := fun isPrimaryChannel isPrimaryPipe => send
    (.data (dataFrame isPrimaryChannel isPrimaryPipe (some requestId) (s.channels.objs ch).id id
      data))
  let ended : SessionM Unit := modify fun s =>
    { s with responses := Function.update s.responses response none }
  have run : (Call.endResponse response data).run s =
      (chosen (s.channels.objs ch).id id primaryIncomingRequestPipeId sending >>= fun _ => ended)
        s := by
    change Pipe.endResponse response data s = _
    rw [Pipe.endResponse, bind_run, get_run]
    dsimp only
    rw [waits]
    dsimp only
    rw [bind_run, getChannel, bind_run, get_run]
    simp only [pure_run, own, pipeOpen, decide_true, Session.assert, if_true, bind_run]
    rfl
  -- the pipe is open, so that the channel has a primary incoming request pipe
  have held : primaryIncomingRequestPipeId (s.channels.objs ch) ≠ none := by
    have primary : (s.channels.objs ch).primaryIncomingRequestPipe ≠ none :=
      fun none => channel.primaryIncoming none pipe pipeMade pipeOpen
    simpa [primaryIncomingRequestPipeId] using primary
  constructor
  · rintro ⟨s', header, ran, -⟩ missing
    rw [run, bind_run, chosen_null id sending isOpen there (.inl missing)] at ran
    cases ran
  · intro primary
    obtain ⟨isPrimaryChannel, isPrimaryPipe, chose⟩ :=
      chosen_run id sending isOpen there primary held
    have fits : ∀ id' ∈ some requestId, id' ≤ 0xffffffff := by
      intro id' same
      cases same
      exact sound.responses response _ waits
    obtain ⟨header, sent⟩ : ∃ header, sending isPrimaryChannel isPrimaryPipe s =
        .ok () { s with sent := s.sent ++ [header ++ data] } :=
      send_dataFrame s _ _ (some requestId) data channel.small small fits
    rw [Reaches, run, bind_run, chose, sent]
    exact ⟨_, header, rfl, rfl⟩

end

end Session

namespace Pair

/-- A client has a channel to elide ids for; a server session has one whenever it has
an open channel. -/
def HasPrimaryChannel (side : Side) (s : Session) : Prop :=
  side = .client → s.primaryChannelHolder.send ≠ none

theorem Wired.hasPrimaryChannel_iff {w : Pair} (wired : w.Wired) (side : Side) (ch : Ref)
    (made : ch < (w.session side).channels.next)
    (channelOpen : ((w.session side).channels.objs ch).readyState = .open) :
    (w.session side).primaryChannelHolder.send ≠ none ↔
      HasPrimaryChannel side (w.session side) := by
  cases side with
  | client => exact ⟨fun primary _ => primary, fun primary => primary rfl⟩
  | server =>
    have server : (w.session .server).originFlag ≠ 0x0 := by
      rw [wired.server]
      decide
    refine ⟨fun _ client => (nomatch client), fun _ missing => ?_⟩
    exact (wired.sound .server).serverPrimary server missing ch made channelOpen

/-- In every state that two sessions reach, what is sent on an open pipe of an open
channel reaches the socket exactly when the holders that the send reads are filled. -/
theorem sends_reach_iff (actions : List Action) (run : Run.Allowed step Permitted new actions)
    (side : Side) (ch : Ref) (s : Session) (final : (Run.final step new actions).session side = s)
    (isOpen : s.readyState = .open) (made : ch < s.channels.next)
    (channelOpen : (s.channels.objs ch).readyState = .open) :
    (∀ pipe < (s.channels.objs ch).pushPipes.next,
      ((s.channels.objs ch).pushPipes.objs pipe).readyState = .open → ∀ data,
        (s.Reaches (.push ch pipe data) data ↔
          HasPrimaryChannel side s ∧ (s.channels.objs ch).primaryPushPipe ≠ none)) ∧
    (∀ pipe < (s.channels.objs ch).requestPipes.next,
      ((s.channels.objs ch).requestPipes.objs pipe).readyState = .open → ∀ data callback,
        (s.Reaches (.request ch pipe data callback) data ↔
          HasPrimaryChannel side s ∧ (s.channels.objs ch).primaryRequestPipeHolder.send ≠ none ∧
            ((s.channels.objs ch).requestPipes.objs pipe).reqIdx ≤ 0xffffffff)) ∧
    (∀ pipe < (s.channels.objs ch).incomingRequestPipes.next,
      ((s.channels.objs ch).incomingRequestPipes.objs pipe).readyState = .open →
        ∀ response requestId, s.responses response = some ⟨requestId, ch, pipe⟩ → ∀ data,
          (s.Reaches (.endResponse response data) data ↔ HasPrimaryChannel side s)) := by
  subst final
  have wired := wired_run actions run
  have sound := wired.sound side
  have primary := wired.hasPrimaryChannel_iff side ch made channelOpen
  refine ⟨fun pipe pipeMade pipeOpen data => ?_, fun pipe pipeMade pipeOpen data callback => ?_,
    fun pipe pipeMade pipeOpen response requestId waits data => ?_⟩
  · rw [sound.push_reaches_iff isOpen made channelOpen pipeMade pipeOpen data, primary]
  · rw [sound.request_reaches_iff isOpen made channelOpen pipeMade pipeOpen data callback, primary]
  · rw [sound.endResponse_reaches_iff isOpen made channelOpen pipeMade pipeOpen waits data, primary]

def pipedActions : List Action :=
  [.call .client (.open 5), .deliver .server, .deliver .client,
    .call .client (.createChannel false ""), .deliver .server, .deliver .client,
    .call .client (.createPushPipe 0 true ""), .deliver .server, .deliver .client]

def piped : Pair := Run.final step new pipedActions

theorem pipedActions_allowed : Run.Allowed step Permitted new pipedActions := by
  decide +kernel

theorem sends_reach_piped : (piped.session .client).Reaches (.push 0 0 [7]) [7] :=
  ((sends_reach_iff pipedActions pipedActions_allowed .client 0 (piped.session .client) rfl
    (by decide +kernel) (by decide +kernel) (by decide +kernel)).1 0 (by decide +kernel)
      (by decide +kernel) [7]).mpr ⟨fun _ => by decide +kernel, by decide +kernel⟩

/-- While another channel is being created as the primary one, nothing can be pushed. -/
theorem push_while_creating :
    ¬ ∀ actions, Run.Allowed step Permitted new actions → ∀ side ch pipe data s,
      (Run.final step new actions).session side = s → s.readyState = .open →
      ch < s.channels.next → (s.channels.objs ch).readyState = .open →
      pipe < (s.channels.objs ch).pushPipes.next →
      ((s.channels.objs ch).pushPipes.objs pipe).readyState = .open →
        s.Reaches (.push ch pipe data) data := by
  intro reaches
  let actions := pipedActions ++ [Action.call .client (.createChannel true "")]
  let s := (Run.final step new actions).session .client
  have run : Run.Allowed step Permitted new actions := by decide +kernel
  have isOpen : s.readyState = .open := by decide +kernel
  have made : 0 < s.channels.next := by decide +kernel
  have channelOpen : (s.channels.objs 0).readyState = .open := by decide +kernel
  have pipeMade : 0 < (s.channels.objs 0).pushPipes.next := by decide +kernel
  have pipeOpen : ((s.channels.objs 0).pushPipes.objs 0).readyState = .open := by decide +kernel
  have missing : s.primaryChannelHolder.send = none := by decide +kernel
  have pushed := reaches actions run .client 0 0 [7] s rfl isOpen made channelOpen pipeMade pipeOpen
  have sound : s.Sound := (wired_run actions run).sound .client
  exact ((sound.push_reaches_iff isOpen made channelOpen pipeMade pipeOpen [7]).mp pushed).1 missing

end Pair
end AkashicSystem.Amtp
