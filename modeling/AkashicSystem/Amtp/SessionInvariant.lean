import AkashicSystem.Amtp.Moves

/-!
# What every session keeps

The tables of a session file each open channel and each open pipe under its id, the
ids fit their fields, and the elections leave a server's primary channel and a
channel's primary incoming request pipe empty only where nothing is open.
-/

set_option autoImplicit false

namespace AkashicSystem.Amtp

open AkashicSystem.Js Computation ObjectTable Serializer

def SmallId (id : Option Nat) : Prop := ∃ value, id = some value ∧ value ≤ 0x7fffffff

def Handler.IdsSmall : Handler → Prop
  | .createChannel _ channelId => channelId ≤ 0x7fffffff
  | .createPushPipe _ _ pipeId | .createRequestPipe _ _ pipeId => pipeId ≤ 0x7fffffff
  | _ => True

namespace Channel

structure Sound (c : Channel) : Prop where
  small : c.id ≤ 0x7fffffff
  pushIds : ∀ p < c.pushPipes.next, (c.pushPipes.objs p).readyState = .open →
    SmallId (c.pushPipes.objs p).id
  requestIds : ∀ p < c.requestPipes.next, (c.requestPipes.objs p).readyState = .open →
    SmallId (c.requestPipes.objs p).id
  incomingIds : ∀ p < c.incomingRequestPipes.next,
    (c.incomingRequestPipes.objs p).readyState = .open → SmallId (c.incomingRequestPipes.objs p).id
  incomingRequests :
    c.incomingRequestPipes.Filed Pipe.id fun pipe => pipe.readyState = .open
  primaryIncoming : c.primaryIncomingRequestPipe = none →
    ∀ p < c.incomingRequestPipes.next, (c.incomingRequestPipes.objs p).readyState ≠ .open

theorem sound_new (id : Nat) (isClientMode : Bool) (small : id ≤ 0x7fffffff) :
    (new id isClientMode).Sound :=
  ⟨small, nofun, nofun, nofun, .empty, fun _ => nofun⟩

namespace Sound

variable {c : Channel} (sound : c.Sound)

include sound

theorem of_same (c' : Channel) (id : c'.id = c.id) (pushPipes : c'.pushPipes = c.pushPipes)
    (requestPipes : c'.requestPipes = c.requestPipes)
    (incoming : c'.incomingRequestPipes = c.incomingRequestPipes)
    (primary : c'.primaryIncomingRequestPipe = c.primaryIncomingRequestPipe) : c'.Sound := by
  refine ⟨?_, ?_, ?_, ?_, ?_, ?_⟩
  · rw [id]
    exact sound.small
  · rw [pushPipes]
    exact sound.pushIds
  · rw [requestPipes]
    exact sound.requestIds
  · rw [incoming]
    exact sound.incomingIds
  · rw [incoming]
    exact sound.incomingRequests
  · rw [incoming, primary]
    exact sound.primaryIncoming

theorem modifyPush (p : Ref) (f : Pipe → Pipe) (kept : (f (c.pushPipes.objs p)).readyState = .open →
      (c.pushPipes.objs p).readyState = .open ∧
        (f (c.pushPipes.objs p)).id = (c.pushPipes.objs p).id) :
    { c with pushPipes := c.pushPipes.modify p f }.Sound := by
  refine { sound with pushIds := fun p' made isOpen => ?_ }
  rcases objs_modify_cases c.pushPipes p p' f with ⟨rfl, eq⟩ | ⟨-, eq⟩
  · dsimp only at isOpen ⊢
    rw [eq] at isOpen ⊢
    obtain ⟨isOpen', same⟩ := kept isOpen
    rw [same]
    exact sound.pushIds p' made isOpen'
  · dsimp only at isOpen ⊢
    rw [eq] at isOpen ⊢
    exact sound.pushIds p' made isOpen

theorem modifyRequest (p : Ref) (f : RequestPipe → RequestPipe)
    (kept : (f (c.requestPipes.objs p)).readyState = .open →
      (c.requestPipes.objs p).readyState = .open ∧
        (f (c.requestPipes.objs p)).id = (c.requestPipes.objs p).id) :
    { c with requestPipes := c.requestPipes.modify p f }.Sound := by
  refine { sound with requestIds := fun p' made isOpen => ?_ }
  rcases objs_modify_cases c.requestPipes p p' f with ⟨rfl, eq⟩ | ⟨-, eq⟩
  · dsimp only at isOpen ⊢
    rw [eq] at isOpen ⊢
    obtain ⟨isOpen', same⟩ := kept isOpen
    rw [same]
    exact sound.requestIds p' made isOpen'
  · dsimp only at isOpen ⊢
    rw [eq] at isOpen ⊢
    exact sound.requestIds p' made isOpen

theorem leavePushPipe (pipe : Ref) : (c.leavePushPipe pipe).Sound := by
  unfold Channel.leavePushPipe
  split_ifs <;> exact sound.of_same _ rfl rfl rfl rfl rfl

theorem leaveRequestPipe (pipe : Ref) : (c.leaveRequestPipe pipe).Sound := by
  unfold Channel.leaveRequestPipe
  split_ifs <;> exact sound.of_same _ rfl rfl rfl rfl rfl

theorem addIncomingPushPipe (primary : Bool) (id : Nat) :
    (c.addIncomingPushPipe primary id).Sound := by
  unfold Channel.addIncomingPushPipe
  dsimp only
  split_ifs <;> exact sound.of_same _ rfl rfl rfl rfl rfl

theorem removeIncomingPushPipe (id : Nat) (p : Ref) : (c.removeIncomingPushPipe id p).Sound := by
  unfold Channel.removeIncomingPushPipe
  dsimp only
  split_ifs <;> exact sound.of_same _ rfl rfl rfl rfl rfl

theorem addPushPipe (primary : Bool) (pipeId : Nat) (small : pipeId ≤ 0x7fffffff) :
    (c.addPushPipe primary pipeId).Sound := by
  have added : { c with pushPipes := c.pushPipes.add pipeId (.new pipeId) }.Sound := by
    refine { sound with pushIds := fun p made isOpen => ?_ }
    dsimp only at made isOpen ⊢
    rcases Nat.lt_succ_iff_lt_or_eq.mp made with made | rfl
    · rw [objs_add_of_lt _ _ _ p made] at isOpen ⊢
      exact sound.pushIds p made isOpen
    · rw [objs_add_next]
      exact ⟨pipeId, rfl, small⟩
  unfold Channel.addPushPipe
  dsimp only
  split_ifs <;> exact added.of_same _ rfl rfl rfl rfl rfl

theorem addRequestPipe (primary : Bool) (pipeId : Nat) (small : pipeId ≤ 0x7fffffff) :
    (c.addRequestPipe primary pipeId).Sound := by
  have added :
      { c with requestPipes := c.requestPipes.add pipeId (.new c.isClientMode pipeId) }.Sound := by
    refine { sound with requestIds := fun p made isOpen => ?_ }
    dsimp only at made isOpen ⊢
    rcases Nat.lt_succ_iff_lt_or_eq.mp made with made | rfl
    · rw [objs_add_of_lt _ _ _ p made] at isOpen ⊢
      exact sound.requestIds p made isOpen
    · rw [objs_add_next]
      exact ⟨pipeId, rfl, small⟩
  unfold Channel.addRequestPipe
  dsimp only
  split_ifs
  · exact added.of_same _ rfl rfl rfl rfl rfl
  · split
    · exact added
    · exact added.of_same _ rfl rfl rfl rfl rfl

theorem removePushPipe (pipe : Ref) : (c.removePushPipe pipe).Sound := by
  have deleted : Channel.Sound
      { c with pushPipes := (c.pushPipes.objs pipe).id.elim c.pushPipes c.pushPipes.delete } := by
    cases (c.pushPipes.objs pipe).id with
    | none => exact sound
    | some id => exact { sound with }
  exact deleted.modifyPush pipe _ fun closed => nomatch closed

theorem removeRequestPipe (pipe : Ref) : (c.removeRequestPipe pipe).Sound := by
  have deleted : Channel.Sound { c with
      requestPipes :=
        (c.requestPipes.objs pipe).id.elim c.requestPipes c.requestPipes.delete } := by
    cases (c.requestPipes.objs pipe).id with
    | none => exact sound
    | some id => exact { sound with }
  have removed := deleted.modifyRequest pipe
    (fun p => { p with readyState := .closed, id := none, handlers := fun _ => none })
    fun closed => nomatch closed
  unfold Channel.removeRequestPipe
  dsimp only
  split_ifs
  · exact removed.of_same _ rfl rfl rfl rfl rfl
  · exact removed

theorem addIncomingRequestPipe (primary : Bool) (id : Nat) (small : id ≤ 0x7fffffff)
    (new : c.incomingRequestPipes.get? id = none) :
    (c.addIncomingRequestPipe primary id).Sound := by
  have filed : (c.incomingRequestPipes.add id (.new id)).Filed Pipe.id
      fun pipe => pipe.readyState = .open := sound.incomingRequests.add id (.new id) rfl new
  have ids : ∀ p < c.incomingRequestPipes.next + 1,
      ((c.incomingRequestPipes.add id (.new id)).objs p).readyState = .open →
        SmallId ((c.incomingRequestPipes.add id (.new id)).objs p).id := by
    intro p made isOpen
    rcases Nat.lt_succ_iff_lt_or_eq.mp made with made | rfl
    · rw [objs_add_of_lt _ _ _ p made] at isOpen ⊢
      exact sound.incomingIds p made isOpen
    · rw [objs_add_next]
      exact ⟨id, rfl, small⟩
  unfold Channel.addIncomingRequestPipe
  dsimp only
  split_ifs with isPrimary isNone
  · exact ⟨sound.small, sound.pushIds, sound.requestIds, ids, filed, fun none => nomatch none⟩
  · -- an election over a table with the pipe just added finds one
    refine ⟨sound.small, sound.pushIds, sound.requestIds, ids, filed, fun none => ?_⟩
    intro p made isOpen
    obtain ⟨id', _, there⟩ := filed.filed p made isOpen
    exact elected_none Pipe.readyState _ none id' p there isOpen
  · refine ⟨sound.small, sound.pushIds, sound.requestIds, ids, filed, fun none => ?_⟩
    exact absurd (Option.isNone_iff_eq_none.mpr none) isNone

theorem removeIncomingRequestPipe (id : Nat) (p : Ref)
    (there : c.incomingRequestPipes.get? id = some p) :
    (c.removeIncomingRequestPipe id p).Sound := by
  let pipes : ObjectTable Pipe := (c.incomingRequestPipes.delete id).modify p
    fun pipe => { pipe with readyState := .closed, id := none }
  have filed : pipes.Filed Pipe.id fun pipe => pipe.readyState = .open :=
    sound.incomingRequests.remove id p _ there fun closed => nomatch closed
  have was : ∀ p', (pipes.objs p').readyState = .open →
      p' ≠ p ∧ pipes.objs p' = c.incomingRequestPipes.objs p' := by
    intro p' isOpen
    rcases objs_modify_cases (c.incomingRequestPipes.delete id) p p'
      fun pipe => { pipe with readyState := .closed, id := none } with ⟨rfl, eq⟩ | ⟨ne, eq⟩
    · rw [eq] at isOpen
      cases isOpen
    · exact ⟨ne, eq⟩
  have ids : ∀ p' < pipes.next, (pipes.objs p').readyState = .open →
      SmallId (pipes.objs p').id := by
    intro p' made isOpen
    obtain ⟨-, eq⟩ := was p' isOpen
    rw [eq] at isOpen ⊢
    exact sound.incomingIds p' made isOpen
  unfold Channel.removeIncomingRequestPipe
  dsimp only
  split_ifs with isPrimary
  · refine ⟨sound.small, sound.pushIds, sound.requestIds, ids, filed, fun none => ?_⟩
    intro p' made isOpen
    obtain ⟨ne, eq⟩ := was p' isOpen
    have isOpen : (pipes.objs p').readyState = .open := isOpen
    rw [eq] at isOpen
    obtain ⟨id', own, there'⟩ := sound.incomingRequests.filed p' made isOpen
    refine elected_none Pipe.readyState _ none id' p' ?_ isOpen
    rw [get?_delete, if_neg ?_]
    · exact there'
    · rintro rfl
      exact ne (Option.some.inj (there'.symm.trans there))
  · refine ⟨sound.small, sound.pushIds, sound.requestIds, ids, filed, fun none => ?_⟩
    intro p' made isOpen
    have isOpen : (pipes.objs p').readyState = .open := isOpen
    rw [(was p' isOpen).2] at isOpen
    exact sound.primaryIncoming none p' made isOpen

theorem move {c' : Channel} (move : Move c c') : c'.Sound := by
  cases move with
  | same => exact sound
  | blankPush | blankRequest | countPush | countRequest => exact sound.of_same _ rfl rfl rfl rfl rfl
  | shutPush pipe readyState shut => exact sound.modifyPush pipe _ fun isOpen => absurd isOpen shut
  | shutRequest pipe readyState shut =>
    exact sound.modifyRequest pipe _ fun isOpen => absurd isOpen shut
  | leavePush pipe => exact sound.leavePushPipe pipe
  | leaveRequest pipe => exact sound.leaveRequestPipe pipe
  | handlers pipe f same =>
    refine sound.modifyRequest pipe f fun isOpen => ?_
    rw [same] at isOpen ⊢
    exact ⟨isOpen, rfl⟩
  | addIncomingPush primary id small new => exact sound.addIncomingPushPipe primary id
  | addIncomingRequest primary id small new =>
    exact sound.addIncomingRequestPipe primary id small new
  | removeIncomingPush id p there => exact sound.removeIncomingPushPipe id p
  | removeIncomingRequest id p there => exact sound.removeIncomingRequestPipe id p there

end Sound
end Channel

def Handler.ChannelLevel : Handler → Prop
  | .createChannel .. | .closeChannel .. => True
  | _ => False

namespace Session

def Own (s : Session) (id : Nat) : Prop := id ≠ 0 ∧ id % 2 ≠ s.originFlag

structure FreshIds (s : Session) : Prop where
  made : ∀ ch < s.channels.next, (s.channels.objs ch).id < s.chIdx
  distinct : ∀ ch < s.channels.next, ∀ ch' < s.channels.next,
    (s.channels.objs ch).id = (s.channels.objs ch').id → ch = ch'
  waiting : ∀ id primary channelId,
    s.waitingCFRequests id = some (.createChannel primary channelId) →
      channelId < s.chIdx ∧ ∀ ch < s.channels.next, (s.channels.objs ch).id ≠ channelId
  once : ∀ id id' primary primary' channelId,
    s.waitingCFRequests id = some (.createChannel primary channelId) →
      s.waitingCFRequests id' = some (.createChannel primary' channelId) → id = id'
  closing : ∀ id ch, s.waitingCFRequests id = some (.closeChannel ch) → ch < s.channels.next

structure Sound (s : Session) : Prop where
  filed : s.channels.Filed (fun c => some c.id) fun c => c.readyState = .open
  channel : ∀ ch < s.channels.next, (s.channels.objs ch).Sound
  responses : ∀ r response, s.responses r = some response → response.requestId ≤ 0xffffffff
  /-- A server is without a primary channel only where no channel is open. -/
  serverPrimary : s.originFlag ≠ 0x0 → s.primaryChannelHolder.send = none →
    ∀ ch < s.channels.next, (s.channels.objs ch).readyState ≠ .open
  serverRequests : s.originFlag ≠ 0x0 → ∀ id handler, s.waitingCFRequests id = some handler →
    ¬ handler.ChannelLevel
  clientIds : s.originFlag = 0x0 → s.FreshIds
  asked : ∀ bytes ∈ s.sent, ∀ frame, deserialize bytes = .ok (.control frame) →
    s.Own frame.id → frame.id < s.ctrlFrmIdx ∧
      ∀ handler, s.waitingCFRequests frame.id = some handler → handler.IdsSmall

/-- What a session may hear: a request under an id of the peer's, or an answer to a
request that it has sent. -/
def Expects (s : Session) : Incoming → Prop
  | .none => True
  | .request id => ¬ s.Own id
  | .answer id => s.Own id ∧ ∃ bytes ∈ s.sent, ∃ frame,
      deserialize bytes = .ok (.control frame) ∧ frame.id = id

theorem waiting_update {waiting : Nat → Option Handler} {id id' : Nat} {new : Option Handler}
    {handler : Handler} (there : Function.update waiting id new id' = some handler) :
    (id' = id ∧ new = some handler) ∨ (id' ≠ id ∧ waiting id' = some handler) := by
  by_cases same : id' = id
  · subst same
    rw [Function.update_self] at there
    exact .inl ⟨rfl, there⟩
  · rw [Function.update_of_ne same] at there
    exact .inr ⟨same, there⟩

theorem Writes.read {id : Nat} {handler : Handler} {written : Option Buffer}
    (writes : Writes id handler written) (bytes : Buffer) (there : bytes ∈ written) :
    handler.IdsSmall ∧ ∀ frame, deserialize bytes = .ok (.control frame) →
      frame.id = id := by
  obtain ⟨frame, asks, serialized⟩ := writes bytes there
  have assigned : ∀ type id', frame ≠ .other type id' := by
    rintro type id' rfl
    cases handler <;> simp [Handler.Asks] at asks
  have fits := fits_of_serializeControlFrame frame bytes assigned serialized
  have read := deserialize_of_fits (.control frame) bytes fits serialized
  have widths := fits.widths
  constructor
  · cases handler with
    | createChannel primary channelId =>
      obtain ⟨label, rfl⟩ := asks
      exact widths.2.1
    | createPushPipe ch primary pipeId | createRequestPipe ch primary pipeId =>
      obtain ⟨channelId, label, rfl⟩ := asks
      exact widths.2.2.1
    | _ => trivial
  · intro frame' read'
    rw [read] at read'
    cases read'
    cases handler with
    | close | «open» random => cases asks; rfl
    | createChannel primary channelId => obtain ⟨label, rfl⟩ := asks; rfl
    | closeChannel ch => obtain ⟨channelId, rfl⟩ := asks; rfl
    | createPushPipe ch primary pipeId | createRequestPipe ch primary pipeId =>
      obtain ⟨channelId, label, rfl⟩ := asks; rfl
    | closePushPipe ch pipe | closeRequestPipe ch pipe =>
      obtain ⟨channelId, pipeId, rfl⟩ := asks; rfl

theorem answer_read {frame : ControlFrame} {bytes : Buffer}
    (kind : (∃ id data, frame = .accept id data) ∨ ∃ id, frame = .deny id)
    (written : serialize (.control frame) = .ok bytes) (frame' : ControlFrame)
    (read : deserialize bytes = .ok (.control frame')) : frame'.id = frame.id := by
  have assigned : ∀ type id', frame ≠ .other type id' := by
    rintro type id' rfl
    simp at kind
  have fits := fits_of_serializeControlFrame frame bytes assigned written
  rw [deserialize_of_fits (.control frame) bytes fits written] at read
  cases read
  rcases kind with ⟨id, data, rfl⟩ | ⟨id, rfl⟩
  · rcases data with _ | _ | _ <;> rfl
  · rfl

namespace Sound

variable {s : Session} (sound : s.Sound)

include sound

theorem modifyChannel (ch : Ref) (f : Channel → Channel)
    (id : (f (s.channels.objs ch)).id = (s.channels.objs ch).id)
    (lives : (f (s.channels.objs ch)).readyState = .open → (s.channels.objs ch).readyState = .open)
    (kept : (s.channels.objs ch).Sound → (f (s.channels.objs ch)).Sound) :
    { s with channels := s.channels.modify ch f }.Sound := by
  have ids : ∀ ch', ((s.channels.modify ch f).objs ch').id = (s.channels.objs ch').id := by
    intro ch'
    rcases objs_modify_cases s.channels ch ch' f with ⟨rfl, eq⟩ | ⟨-, eq⟩
    · rw [eq, id]
    · rw [eq]
  refine { sound with
    filed := sound.filed.modify ch f (congrArg some id) lives
    channel := fun ch' made => ?_
    serverPrimary := fun server none ch' made isOpen => ?_
    clientIds := fun client => ?_ }
  · dsimp only
    rcases objs_modify_cases s.channels ch ch' f with ⟨rfl, eq⟩ | ⟨-, eq⟩
    · rw [eq]
      exact kept (sound.channel ch' made)
    · rw [eq]
      exact sound.channel ch' made
  · dsimp only at isOpen
    refine sound.serverPrimary server none ch' made ?_
    rcases objs_modify_cases s.channels ch ch' f with ⟨rfl, eq⟩ | ⟨-, eq⟩
    · rw [eq] at isOpen
      exact lives isOpen
    · rw [eq] at isOpen
      exact isOpen
  · have fresh := sound.clientIds client
    refine ⟨fun ch' made => ?_, fun ch' made ch'' made' same => ?_,
      fun id primary channelId there => ?_, fresh.once, fresh.closing⟩
    · dsimp only
      rw [ids]
      exact fresh.made ch' made
    · dsimp only at same
      rw [ids, ids] at same
      exact fresh.distinct ch' made ch'' made' same
    · obtain ⟨old, others⟩ := fresh.waiting id primary channelId there
      refine ⟨old, fun ch' made => ?_⟩
      dsimp only
      rw [ids]
      exact others ch' made

theorem settled (id : Nat) : (s.settled id).Sound := by
  have was : ∀ id' handler, (s.settled id).waitingCFRequests id' = some handler →
      s.waitingCFRequests id' = some handler := by
    intro id' handler there
    rcases waiting_update there with ⟨-, new⟩ | ⟨-, there⟩
    · cases new
    · exact there
  refine { sound with
    serverRequests := fun server id' handler there =>
      sound.serverRequests server id' handler (was id' handler there)
    clientIds := fun client => ?_
    asked := fun bytes there frame read own => ?_ }
  · have fresh := sound.clientIds client
    exact { fresh with
      waiting := fun id' primary channelId there =>
        fresh.waiting id' primary channelId (was id' _ there)
      once := fun id' id'' primary primary' channelId there there' =>
        fresh.once id' id'' primary primary' channelId (was id' _ there) (was id'' _ there')
      closing := fun id' ch there => fresh.closing id' ch (was id' _ there) }
  · obtain ⟨old, small⟩ := sound.asked bytes there frame read own
    exact ⟨old, fun handler there => small handler (was _ handler there)⟩

theorem requesting (handler : Handler) (written : Option Buffer)
    (writes : Writes s.ctrlFrmIdx handler written)
    (server : s.originFlag ≠ 0x0 → ¬ handler.ChannelLevel)
    (creates : ∀ primary channelId, handler = .createChannel primary channelId →
      channelId < s.chIdx ∧ (∀ ch < s.channels.next, (s.channels.objs ch).id ≠ channelId) ∧
        ∀ id primary', s.waitingCFRequests id ≠ some (.createChannel primary' channelId))
    (closes : ∀ ch, handler = .closeChannel ch → ch < s.channels.next) :
    (s.requesting handler written).Sound := by
  refine { sound with
    serverRequests := fun server' id handler' there => ?_
    clientIds := fun client => ?_
    asked := fun bytes there frame read own => ?_ }
  · rcases waiting_update there with ⟨-, new⟩ | ⟨-, there⟩
    · cases new
      exact server server'
    · exact sound.serverRequests server' id handler' there
  · have fresh := sound.clientIds client
    refine { fresh with
      waiting := fun id primary channelId there => ?_
      once := fun id id' primary primary' channelId there there' => ?_
      closing := fun id ch there => ?_ }
    · rcases waiting_update there with ⟨-, new⟩ | ⟨-, there⟩
      · obtain ⟨old, others, -⟩ := creates primary channelId (Option.some.inj new)
        exact ⟨old, others⟩
      · exact fresh.waiting id primary channelId there
    · rcases waiting_update there with ⟨rfl, new⟩ | ⟨-, there⟩
      · rcases waiting_update there' with ⟨rfl, -⟩ | ⟨-, there'⟩
        · rfl
        · obtain ⟨-, -, unused⟩ := creates primary channelId (Option.some.inj new)
          exact absurd there' (unused id' primary')
      · rcases waiting_update there' with ⟨rfl, new⟩ | ⟨-, there'⟩
        · obtain ⟨-, -, unused⟩ := creates primary' channelId (Option.some.inj new)
          exact absurd there (unused id primary)
        · exact fresh.once id id' primary primary' channelId there there'
    · rcases waiting_update there with ⟨-, new⟩ | ⟨-, there⟩
      · exact closes ch (Option.some.inj new)
      · exact fresh.closing id ch there
  · rcases List.mem_append.mp there with there | there
    · obtain ⟨old, small⟩ := sound.asked bytes there frame read own
      refine ⟨Nat.lt_add_right 2 old, fun handler' there' => ?_⟩
      rcases waiting_update there' with ⟨same, -⟩ | ⟨-, there'⟩
      · exact absurd same (Nat.ne_of_lt old)
      · exact small handler' there'
    · obtain ⟨small, id⟩ := writes.read bytes (Option.mem_toList.mp there)
      rw [id frame read]
      refine ⟨Nat.lt_add_of_pos_right (by decide), fun handler' there' => ?_⟩
      rcases waiting_update there' with ⟨-, new⟩ | ⟨ne, -⟩
      · cases new
        exact small
      · exact absurd rfl ne

theorem addedChannel (channelId : Nat) (isClientMode : Bool) (small : channelId ≤ 0x7fffffff) :
    ∀ ch < s.channels.next + 1,
      ((s.channels.add channelId (.new channelId isClientMode)).objs ch).Sound := by
  intro ch made
  rcases Nat.lt_succ_iff_lt_or_eq.mp made with made | rfl
  · rw [objs_add_of_lt _ _ _ ch made]
    exact sound.channel ch made
  · rw [objs_add_next]
    exact Channel.sound_new channelId isClientMode small

theorem clientAddChannel (primary : Bool) (channelId : Nat) (small : channelId ≤ 0x7fffffff)
    (client : s.originFlag = 0x0) (below : channelId < s.chIdx)
    (others : ∀ ch < s.channels.next, (s.channels.objs ch).id ≠ channelId)
    (unused : ∀ id primary', s.waitingCFRequests id ≠ some (.createChannel primary' channelId)) :
    (ClientSession.addChannel s primary channelId).Sound := by
  have fresh := sound.clientIds client
  have free : s.channels.get? channelId = none := by
    cases there : s.channels.get? channelId with
    | none => rfl
    | some ch =>
      have own := sound.filed.own channelId ch there
      exact absurd (Option.some.inj own) (others ch (sound.filed.made channelId ch there))
  refine { sound with
    filed := sound.filed.add channelId _ rfl free
    channel := sound.addedChannel channelId true small
    serverPrimary := fun server => absurd client server
    clientIds := fun _ => ⟨?_, ?_, ?_, fresh.once, ?_⟩ }
  · intro ch made
    rcases Nat.lt_succ_iff_lt_or_eq.mp made with made | rfl
    · rw [ClientSession.addChannel]
      dsimp only
      rw [objs_add_of_lt _ _ _ ch made]
      exact fresh.made ch made
    · rw [ClientSession.addChannel]
      dsimp only
      rw [objs_add_next]
      exact below
  · intro ch made ch' made' same
    rw [ClientSession.addChannel] at same
    dsimp only at same
    rcases Nat.lt_succ_iff_lt_or_eq.mp made with made | rfl
    · rcases Nat.lt_succ_iff_lt_or_eq.mp made' with made' | rfl
      · rw [objs_add_of_lt _ _ _ ch made,
          objs_add_of_lt _ _ _ ch' made'] at same
        exact fresh.distinct ch made ch' made' same
      · rw [objs_add_of_lt _ _ _ ch made, objs_add_next] at same
        exact absurd same (others ch made)
    · rcases Nat.lt_succ_iff_lt_or_eq.mp made' with made' | rfl
      · rw [objs_add_of_lt _ _ _ ch' made', objs_add_next] at same
        exact absurd same.symm (others ch' made')
      · rfl
  · intro id primary' channelId' there
    obtain ⟨old, others'⟩ := fresh.waiting id primary' channelId' there
    refine ⟨old, fun ch made => ?_⟩
    rw [ClientSession.addChannel]
    dsimp only
    rcases Nat.lt_succ_iff_lt_or_eq.mp made with made | rfl
    · rw [objs_add_of_lt _ _ _ ch made]
      exact others' ch made
    · rw [objs_add_next]
      rintro rfl
      exact unused id primary' there
  · intro id ch there
    exact Nat.lt_succ_of_lt (fresh.closing id ch there)

theorem clientRemoveChannel (ch : Ref) (made : ch < s.channels.next)
    (client : s.originFlag = 0x0) : (ClientSession.removeChannel s ch).Sound := by
  have closed := sound.modifyChannel ch (fun c => { c with readyState := .closed }) rfl
    (fun isOpen => nomatch isOpen) fun c => c.of_same _ rfl rfl rfl rfl rfl
  have fresh := closed.clientIds client
  refine { closed with
    filed := closed.filed.delete _ fun ch' made' same isOpen => ?_
    serverPrimary := fun server => absurd client server
    clientIds := fun _ => { fresh with } }
  obtain rfl : ch' = ch := fresh.distinct ch' made' ch made (Option.some.inj same)
  rw [objs_modify_self] at isOpen
  cases isOpen

theorem serverAddChannel (primary : Bool) (channelId : Nat) (small : channelId ≤ 0x7fffffff)
    (server : s.originFlag ≠ 0x0) (free : s.channels.get? channelId = none) :
    (ServerSession.addChannel s primary channelId).Sound := by
  have filed := sound.filed.add channelId (.new channelId false) rfl free
  refine { sound with
    filed := filed
    channel := sound.addedChannel channelId false small
    serverPrimary := fun _ none ch made isOpen => ?_
    clientIds := fun client => absurd client server }
  unfold ServerSession.addChannel at none
  dsimp only at none
  split_ifs at none with isPrimary isNone
  · cases none
  · obtain ⟨id, _, there⟩ := filed.filed ch made isOpen
    exact elected_none Channel.readyState _ none id ch there isOpen
  · exact isNone (Option.isNone_iff_eq_none.mpr none)

theorem serverRemoveChannel (ch : Ref) (channelId : Nat) (server : s.originFlag ≠ 0x0)
    (there : s.channels.get? channelId = some ch) :
    (ServerSession.removeChannel s ch channelId).Sound := by
  have made := sound.filed.made channelId ch there
  have closed := sound.modifyChannel ch (fun c => { c with readyState := .closed }) rfl
    (fun isOpen => nomatch isOpen) fun c => c.of_same _ rfl rfl rfl rfl rfl
  refine { closed with
    filed := closed.filed.delete channelId fun ch' made' same isOpen => ?_
    serverPrimary := fun _ none ch' made' isOpen => ?_
    clientIds := fun client => absurd client server }
  · obtain ⟨id, own, there'⟩ := closed.filed.filed ch' made' isOpen
    obtain rfl : id = channelId := Option.some.inj (own.symm.trans same)
    obtain rfl : ch = ch' := Option.some.inj (there.symm.trans there')
    rw [objs_modify_self] at isOpen
    cases isOpen
  · unfold ServerSession.removeChannel at none
    dsimp only at none
    split_ifs at none with held
    · obtain ⟨id, _, there'⟩ := closed.filed.filed ch' made' isOpen
      exact elected_none Channel.readyState _ none id ch' there' isOpen
    · exact closed.serverPrimary server none ch' made' isOpen

theorem answered (id : Nat) (handler : Handler) (waiting : s.waitingCFRequests id = some handler)
    (small : handler.IdsSmall) : ((s.settled id).applied handler).Sound := by
  have gone := sound.settled id
  cases handler with
  | close | «open» random => exact gone
  | createChannel primary channelId =>
    have client : s.originFlag = 0x0 := by
      by_contra server
      exact sound.serverRequests server id _ waiting trivial
    have fresh := sound.clientIds client
    obtain ⟨below, others⟩ := fresh.waiting id primary channelId waiting
    refine gone.clientAddChannel primary channelId small client below others ?_
    intro id' primary' there
    rcases waiting_update there with ⟨-, new⟩ | ⟨ne, there⟩
    · cases new
    · exact ne (fresh.once id' id primary' primary channelId there waiting)
  | closeChannel ch =>
    have client : s.originFlag = 0x0 := by
      by_contra server
      exact sound.serverRequests server id _ waiting trivial
    have made := (sound.clientIds client).closing id ch waiting
    exact (gone.clientRemoveChannel ch made client).modifyChannel ch
      (fun c => { c with readyState := .closed }) rfl (fun isOpen => nomatch isOpen)
      fun c => c.of_same _ rfl rfl rfl rfl rfl
  | createPushPipe ch primary pipeId =>
    have same := Channel.sameFace_addPushPipe (s.channels.objs ch) primary pipeId
    exact gone.modifyChannel ch _ same.id (fun isOpen => same.readyState ▸ isOpen)
      fun c => c.addPushPipe primary pipeId small
  | createRequestPipe ch primary pipeId =>
    have same := Channel.sameFace_addRequestPipe (s.channels.objs ch) primary pipeId
    exact gone.modifyChannel ch _ same.id (fun isOpen => same.readyState ▸ isOpen)
      fun c => c.addRequestPipe primary pipeId small
  | closePushPipe ch pipe =>
    have same := Channel.sameFace_removePushPipe (s.channels.objs ch) pipe
    exact gone.modifyChannel ch _ same.id (fun isOpen => same.readyState ▸ isOpen)
      fun c => c.removePushPipe pipe
  | closeRequestPipe ch pipe =>
    have same := Channel.sameFace_removeRequestPipe (s.channels.objs ch) pipe
    exact gone.modifyChannel ch _ same.id (fun isOpen => same.readyState ▸ isOpen)
      fun c => c.removeRequestPipe pipe

theorem sent (bytes : Buffer)
    (foreign : ∀ frame, deserialize bytes = .ok (.control frame) → ¬ s.Own frame.id) :
    { s with sent := s.sent ++ [bytes] }.Sound := by
  refine { sound with
    clientIds := fun client => { sound.clientIds client with }
    asked := fun bytes' there frame read own => ?_ }
  rcases List.mem_append.mp there with there | there
  · exact sound.asked bytes' there frame read own
  · obtain rfl := List.mem_singleton.mp there
    exact absurd own (foreign frame read)

theorem move {s' : Session} {incoming : Incoming} (expects : s.Expects incoming)
    (move : Move incoming s s') : s'.Sound := by
  cases move with
  | event event => exact { sound with clientIds := fun client => { sound.clientIds client with } }
  | readyState readyState =>
    exact { sound with clientIds := fun client => { sound.clientIds client with } }
  | data bytes data =>
    exact sound.sent bytes fun frame read => absurd read (data frame)
  | accept id data bytes from_ written =>
    subst from_
    refine sound.sent bytes fun frame read => ?_
    rw [answer_read (.inl ⟨id, data, rfl⟩) written frame read]
    exact expects
  | deny id bytes from_ written =>
    subst from_
    refine sound.sent bytes fun frame read => ?_
    rw [answer_read (.inr ⟨id, rfl⟩) written frame read]
    exact expects
  | request handler written level writes =>
    have pipes : ¬ handler.ChannelLevel := by
      rcases level with level | rfl | ⟨random, rfl⟩
      · cases handler <;> first | exact level.elim | exact id
      · exact id
      · exact id
    refine sound.requesting handler written writes (fun _ => pipes) ?_ ?_
    · rintro primary channelId rfl
      exact absurd trivial pipes
    · rintro ch rfl
      exact absurd trivial pipes
  | unopened random =>
    have was : ∀ id handler, handler ≠ .open random →
        Function.update s.waitingCFRequests s.ctrlFrmIdx (some (.open random)) id =
          some handler → s.waitingCFRequests id = some handler := by
      intro id handler ne there
      rcases waiting_update there with ⟨-, new⟩ | ⟨-, there⟩
      · exact absurd (Option.some.inj new).symm ne
      · exact there
    refine { sound with
      serverRequests := fun server id handler there level => ?_
      clientIds := fun client => ?_
      asked := fun bytes there frame read own => ?_ }
    · have there := was id handler (fun same => by rw [same] at level; exact level) there
      exact sound.serverRequests server id handler there level
    · have fresh := sound.clientIds client
      exact { fresh with
        waiting := fun id primary channelId there =>
          fresh.waiting id primary channelId (was id _ nofun there)
        once := fun id id' primary primary' channelId there there' =>
          fresh.once id id' primary primary' channelId (was id _ nofun there)
            (was id' _ nofun there')
        closing := fun id ch there => fresh.closing id ch (was id _ nofun there) }
    · obtain ⟨old, small⟩ := sound.asked bytes there frame read own
      refine ⟨old, fun handler there => ?_⟩
      rcases waiting_update there with ⟨same, -⟩ | ⟨-, there⟩
      · exact absurd same (Nat.ne_of_lt old)
      · exact small handler there
  | createChannel primary written client writes =>
    have fresh := sound.clientIds client
    have counted : { s with
        chIdx := s.chIdx + 1
        primaryChannelHolder :=
          if primary then s.primaryChannelHolder.setSend Option.none
          else s.primaryChannelHolder }.Sound := by
      refine { sound with
        serverPrimary := fun server => absurd client server
        clientIds := fun _ => { fresh with
          made := fun ch made => Nat.lt_succ_of_lt (fresh.made ch made)
          waiting := fun id primary' channelId there => ?_ } }
      obtain ⟨below, others⟩ := fresh.waiting id primary' channelId there
      exact ⟨Nat.lt_succ_of_lt below, others⟩
    refine counted.requesting _ written writes (fun server => absurd client server) ?_ nofun
    intro primary' channelId same
    cases same
    refine ⟨Nat.lt_succ_self _, fun ch made => Nat.ne_of_lt (fresh.made ch made), ?_⟩
    intro id primary' there
    exact absurd (fresh.waiting id primary' s.chIdx there).1 (Nat.lt_irrefl _)
  | closeChannel ch written client made there writes =>
    have closing := sound.modifyChannel ch (fun c => { c with readyState := .closing }) rfl
      (fun isOpen => nomatch isOpen) fun c => c.of_same _ rfl rfl rfl rfl rfl
    have left : { s with
        primaryChannelHolder :=
          if s.primaryChannelHolder.send = some ch then
            s.primaryChannelHolder.setSend Option.none
          else s.primaryChannelHolder
        channels := s.channels.modify ch fun c => { c with readyState := .closing } }.Sound :=
      { closing with
        serverPrimary := fun server => absurd client server
        clientIds := fun client => { closing.clientIds client with } }
    refine left.requesting _ written writes (fun server => absurd client server) nofun ?_
    intro ch' same
    cases same
    exact made
  | settled id from_ => exact sound.settled id
  | answered id handler from_ waiting =>
    subst from_
    obtain ⟨own, bytes, there, frame, read, rfl⟩ := expects
    exact sound.answered frame.id handler waiting
      ((sound.asked bytes there frame read own).2 handler waiting)
  | addChannel primary channelId server small new =>
    exact sound.serverAddChannel primary channelId small server new
  | removeChannel ch channelId server there =>
    exact sound.serverRemoveChannel ch channelId server there
  | closed ch =>
    exact sound.modifyChannel ch _ rfl (fun isOpen => nomatch isOpen)
      fun c => c.of_same _ rfl rfl rfl rfl rfl
  | channel ch f move =>
    have same := move.sameFace
    exact sound.modifyChannel ch f same.id (fun isOpen => same.readyState ▸ isOpen)
      fun c => c.move move
  | response requestId ch pipe small =>
    refine { sound with
      responses := fun r response there => ?_
      clientIds := fun client => { sound.clientIds client with } }
    by_cases same : r = s.nextResponse
    · subst same
      dsimp only at there
      rw [Function.update_self] at there
      cases there
      exact small
    · dsimp only at there
      rw [Function.update_of_ne same] at there
      exact sound.responses r response there
  | responded r =>
    refine { sound with
      responses := fun r' response there => ?_
      clientIds := fun client => { sound.clientIds client with } }
    by_cases same : r' = r
    · subst same
      dsimp only at there
      rw [Function.update_self] at there
      cases there
    · dsimp only at there
      rw [Function.update_of_ne same] at there
      exact sound.responses r' response there

end Sound

variable {incoming : Incoming} {s s' : Session}

theorem Move.originFlag (move : Move incoming s s') : s'.originFlag = s.originFlag := by
  cases move with
  | answered id handler from_ waiting => cases handler <;> rfl
  | _ => rfl

/-- What the socket gets in a move: a data frame, a request under the next id, or an
answer to what is being handled. -/
theorem Move.sent (move : Move incoming s s') :
    ∃ written : Option Buffer, s'.sent = s.sent ++ written.toList ∧
      ∀ bytes ∈ written, ∀ frame, deserialize bytes = .ok (.control frame) →
        frame.id = s.ctrlFrmIdx ∨ incoming = .request frame.id := by
  have nothing : ∃ written : Option Buffer, s.sent = s.sent ++ written.toList ∧
      ∀ bytes ∈ written, ∀ frame, deserialize bytes = .ok (.control frame) →
        frame.id = s.ctrlFrmIdx ∨ incoming = .request frame.id :=
    ⟨none, (List.append_nil _).symm, nofun⟩
  cases move with
  | data bytes data =>
    refine ⟨some bytes, rfl, fun bytes' there frame read => ?_⟩
    cases there
    exact absurd read (data frame)
  | accept id data bytes from_ written =>
    refine ⟨some bytes, rfl, fun bytes' there frame read => .inr ?_⟩
    cases there
    rw [from_, answer_read (.inl ⟨id, data, rfl⟩) written frame read]
    rfl
  | deny id bytes from_ written =>
    refine ⟨some bytes, rfl, fun bytes' there frame read => .inr ?_⟩
    cases there
    rw [from_, answer_read (.inr ⟨id, rfl⟩) written frame read]
    rfl
  | request handler written level writes | createChannel primary written client writes
  | closeChannel ch written client made there writes =>
    exact ⟨written, rfl, fun bytes there frame read =>
      .inl ((writes.read bytes there).2 frame read)⟩
  | answered id handler from_ waiting => cases handler <;> exact nothing
  | _ => exact nothing

theorem Move.ctrlFrmIdx (move : Move incoming s s') :
    s'.ctrlFrmIdx = s.ctrlFrmIdx ∨ s'.ctrlFrmIdx = s.ctrlFrmIdx + 2 := by
  cases move with
  | request handler written level writes | createChannel primary written client writes
  | closeChannel ch written client made there writes => exact .inr rfl
  | answered id handler from_ waiting => cases handler <;> exact .inl rfl
  | _ => exact .inl rfl

theorem Expects.move (expects : s.Expects incoming) (move : Move incoming s s') :
    s'.Expects incoming := by
  obtain ⟨written, sent, -⟩ := move.sent
  have origin := move.originFlag
  cases incoming with
  | none => trivial
  | request id =>
    intro own
    rw [Own, origin] at own
    exact expects own
  | answer id =>
    obtain ⟨own, bytes, there, asked⟩ := expects
    refine ⟨?_, bytes, ?_, asked⟩
    · rw [Own, origin]
      exact own
    · rw [sent]
      exact List.mem_append_left _ there

/-- Every session stays sound as long as the answers it gets are to what it asked. -/
theorem Sound.moves (sound : s.Sound) (expects : s.Expects incoming) (moves : Moves incoming s s') :
    s'.Sound := by
  have both : s'.Sound ∧ s'.Expects incoming := by
    induction moves with
    | refl => exact ⟨sound, expects⟩
    | tail _ last ih => exact ⟨ih.1.move ih.2 last, ih.2.move last⟩
  exact both.1

theorem sound_newClient : newClient.Sound := by
  refine ⟨.empty, nofun, nofun, fun server => absurd rfl server, fun server => absurd rfl server,
    fun _ => ⟨nofun, nofun, nofun, nofun, nofun⟩, nofun⟩

theorem sound_newServer : newServer.Sound :=
  ⟨.empty, nofun, nofun, fun _ _ => nofun, fun _ => nofun, nofun, nofun⟩

end Session
end AkashicSystem.Amtp
