import AkashicSystem.Amtp.SessionInvariant
import AkashicSystem.Lib.Run

/-!
# A client session and a server session

Two sessions on a socket that is reliable and in order: what one of them gives to its
socket reaches the other, buffer by buffer.  A buffer carries beside it what it was
sent for, which no session looks at.
-/

set_option autoImplicit false

namespace AkashicSystem.Amtp

open AkashicSystem.Js Computation Session List
open Function (update update_of_ne update_self)

inductive Side where
  | client
  | server
deriving DecidableEq

namespace Side

def peer : Side → Side
  | client => server
  | server => client

@[simp] theorem peer_peer (side : Side) : side.peer.peer = side := by cases side <;> rfl

theorem peer_ne (side : Side) : side.peer ≠ side := by cases side <;> decide

theorem eq_or_peer (side side' : Side) : side' = side ∨ side' = side.peer := by
  cases side <;> cases side' <;> decide

end Side

inductive DataKind where
  | push
  | request
  | response
deriving DecidableEq

/-- The pipe a data frame was sent on, under the ids of its sender. -/
structure Origin where
  kind : DataKind
  channelId : Nat
  pipeId : Option Nat
deriving DecidableEq

structure Packet where
  bytes : Buffer
  origin : Option Origin
deriving DecidableEq

def Call.origin (s : Session) : Call → Option Origin
  | .push ch pipe _ =>
    some ⟨.push, (s.channels.objs ch).id, ((s.channels.objs ch).pushPipes.objs pipe).id⟩
  | request ch pipe _ _ =>
    some ⟨.request, (s.channels.objs ch).id, ((s.channels.objs ch).requestPipes.objs pipe).id⟩
  | endResponse response _ =>
    (s.responses response).map fun r =>
      ⟨.response, (s.channels.objs r.ch).id,
        ((s.channels.objs r.ch).incomingRequestPipes.objs r.pipe).id⟩
  | _ => none

def Call.isRecv : Call → Bool
  | .recv _ => true
  | _ => false

theorem isRecv_eq_false (call : Call) : call.isRecv = false ↔ ∀ buf, call ≠ .recv buf := by
  cases call <;> simp [Call.isRecv]

/-- Two sessions, and what is on the way to each of them. -/
structure Pair where
  session : Side → Session
  inbound : Side → List Packet

namespace Pair

inductive Action where
  | call (side : Side) (call : Call)
  | deliver (side : Side)

def new : Pair where
  session
    | .client => newClient
    | .server => newServer
  inbound _ := []

/-- A session runs a method; what it gives to the socket goes to the other. -/
def perform (w : Pair) (side : Side) (call : Call) (origin : Option Origin) : Pair :=
  let s := w.session side
  let s' := s.after call
  { session := update w.session side s'
    inbound :=
      update w.inbound side.peer
        (w.inbound side.peer ++ (s'.sent.drop s.sent.length).map fun bytes => ⟨bytes, origin⟩) }

def step (w : Pair) : Action → Pair
  | .call side call => w.perform side call (call.origin (w.session side))
  | .deliver side =>
    match w.inbound side with
    | [] => w
    | packet :: rest =>
      { w with inbound := update w.inbound side rest }.perform side
        (.recv packet.bytes) none

/-- Buffers come from the socket only. -/
def Permitted (w : Pair) : Action → Prop
  | .call side call => (∀ buf, call ≠ .recv buf) ∧ call.Admissible (w.session side)
  | .deliver _ => True

instance (call : Call) : Decidable (∀ buf, call ≠ .recv buf) :=
  decidable_of_iff (call.isRecv = false) (isRecv_eq_false call)

instance (w : Pair) : (action : Action) → Decidable (w.Permitted action)
  | .call side call =>
    inferInstanceAs (Decidable ((∀ buf, call ≠ .recv buf) ∧ call.Admissible (w.session side)))
  | .deliver _ => inferInstanceAs (Decidable True)

/-- The two sessions are sound, what is on the way has been sent, and an answer is one
to a request. -/
structure Wired (w : Pair) : Prop where
  client : (w.session .client).originFlag = 0x0
  server : (w.session .server).originFlag = 0x1
  sound : ∀ side, (w.session side).Sound
  ownIds : ∀ side, (w.session side).Own (w.session side).ctrlFrmIdx
  carried : ∀ side, ∀ packet ∈ w.inbound side, packet.bytes ∈ (w.session side.peer).sent
  answers : ∀ side, ∀ bytes ∈ (w.session side.peer).sent, ∀ frame,
    Serializer.deserialize bytes = .ok (.control frame) → (w.session side).Own frame.id →
      ∃ bytes' ∈ (w.session side).sent, ∃ frame',
        Serializer.deserialize bytes' = .ok (.control frame') ∧ frame'.id = frame.id

theorem wired_new : new.Wired where
  client := rfl
  server := rfl
  sound side := by
    cases side with
    | client => exact sound_newClient
    | server => exact sound_newServer
  ownIds side := by
    cases side with
    | client | server => exact ⟨by decide, by decide⟩
  carried _ := nofun
  answers side := by cases side <;> exact nofun

theorem sent_of_moves {s s' : Session} {incoming : Incoming} (own : s.Own s.ctrlFrmIdx)
    (moves : Moves incoming s s') : s'.originFlag = s.originFlag ∧ s'.Own s'.ctrlFrmIdx ∧
      ∃ new, s'.sent = s.sent ++ new ∧ ∀ bytes ∈ new, ∀ frame,
        Serializer.deserialize bytes = .ok (.control frame) →
          s.Own frame.id ∨ incoming = .request frame.id := by
  induction moves with
  | refl => exact ⟨rfl, own, [], (append_nil _).symm, nofun⟩
  | @tail s₁ s₂ _ last ih =>
    obtain ⟨origin, own₁, new, sent, ids⟩ := ih
    have origin₂ := last.originFlag
    obtain ⟨written, sent₂, ids₂⟩ := last.sent
    refine ⟨origin₂.trans origin, ?_, new ++ written.toList, ?_, ?_⟩
    · obtain ⟨pos, parity⟩ := own₁
      rw [Own, origin₂]
      rcases last.ctrlFrmIdx with same | next
      · rw [same]
        exact ⟨pos, parity⟩
      · rw [next]
        exact ⟨Nat.succ_ne_zero _, by rw [Nat.add_mod_right]; exact parity⟩
    · rw [sent₂, sent, append_assoc]
    · intro bytes there frame read
      rcases mem_append.mp there with there | there
      · exact ids bytes there frame read
      · rcases ids₂ bytes (Option.mem_toList.mp there) frame read with id | request
        · left
          rw [id, Own, ← origin]
          exact own₁
        · exact .inr request

theorem Wired.expects {w : Pair} (wired : w.Wired) (side : Side) (call : Call)
    (heard : ∀ buf, call = .recv buf → buf ∈ (w.session side.peer).sent) :
    (w.session side).Expects (incomingOf (w.session side) call) := by
  cases call with
  | recv buf =>
    unfold incomingOf
    dsimp only
    split
    · next frame read =>
        split_ifs with own
        · exact ⟨own, wired.answers side buf (heard buf rfl) frame read own⟩
        · exact own
    · trivial
  | _ => trivial

theorem Wired.own_or {w : Pair} (wired : w.Wired) (side : Side) (id : Nat) :
    ¬ ((w.session side).Own id ∧ (w.session side.peer).Own id) := by
  have client := wired.client
  have server := wired.server
  intro ⟨⟨_, ours⟩, ⟨_, theirs⟩⟩
  cases side with
  | client =>
    rw [client] at ours
    rw [Side.peer, server] at theirs
    omega
  | server =>
    rw [server] at ours
    rw [Side.peer, client] at theirs
    omega

theorem Wired.perform {w : Pair} (wired : w.Wired) (side : Side) (call : Call)
    (origin : Option Origin) (admissible : call.Admissible (w.session side))
    (heard : ∀ buf, call = .recv buf → buf ∈ (w.session side.peer).sent) :
    (w.perform side call origin).Wired := by
  have moves := moves_after (w.session side) call admissible
  have sound := (wired.sound side).moves (wired.expects side call heard) moves
  obtain ⟨flag, own, new, sent, ids⟩ := sent_of_moves (wired.ownIds side) moves
  have peer : (w.perform side call origin).session side.peer = w.session side.peer :=
    update_of_ne side.peer_ne ..
  have self : (w.perform side call origin).session side = (w.session side).after call :=
    update_self ..
  have flags : ∀ side', ((w.perform side call origin).session side').originFlag =
      (w.session side').originFlag := by
    intro side'
    rcases side.eq_or_peer side' with rfl | rfl
    · rw [self, flag]
    · rw [peer]
  have grown : ∀ side', ∀ bytes ∈ (w.session side').sent,
      bytes ∈ ((w.perform side call origin).session side').sent := by
    intro side' bytes there
    rcases side.eq_or_peer side' with rfl | rfl
    · rw [self, sent]
      exact mem_append_left _ there
    · rw [peer]
      exact there
  have ownSame : ∀ side' id, ((w.perform side call origin).session side').Own id ↔
      (w.session side').Own id := by
    intro side' id
    rw [Own, Own, flags]
  refine ⟨(flags .client).trans wired.client, (flags .server).trans wired.server, ?_, ?_, ?_, ?_⟩
  · intro side'
    rcases side.eq_or_peer side' with rfl | rfl
    · rw [self]
      exact sound
    · rw [peer]
      exact wired.sound side.peer
  · intro side'
    rcases side.eq_or_peer side' with rfl | rfl
    · rw [self]
      exact own
    · rw [peer]
      exact wired.ownIds side.peer
  · intro side' packet there
    rcases side.eq_or_peer side' with rfl | rfl
    · have inbound : (w.perform side' call origin).inbound side' = w.inbound side' :=
        update_of_ne side'.peer_ne.symm ..
      rw [inbound] at there
      exact grown _ _ (wired.carried side' packet there)
    · have inbound : (w.perform side call origin).inbound side.peer =
          w.inbound side.peer ++ (((w.session side).after call).sent.drop
            (w.session side).sent.length).map fun bytes => ⟨bytes, origin⟩ :=
        update_self ..
      rw [inbound] at there
      rcases mem_append.mp there with there | there
      · exact grown _ _ (wired.carried side.peer packet there)
      · obtain ⟨bytes, fresh, rfl⟩ := mem_map.mp there
        rw [Side.peer_peer, self]
        exact mem_of_mem_drop fresh
  · intro side' bytes there frame read own'
    rw [ownSame] at own'
    rcases side.eq_or_peer side' with rfl | rfl
    · rw [peer] at there
      obtain ⟨bytes', there', asked⟩ := wired.answers side' bytes there frame read own'
      exact ⟨bytes', grown _ _ there', asked⟩
    · rw [Side.peer_peer, self, sent] at there
      rw [peer]
      rcases mem_append.mp there with there | there
      · exact wired.answers side.peer bytes (by rw [Side.peer_peer]; exact there) frame read own'
      · rcases ids bytes there frame read with ours | request
        · exact absurd ⟨ours, own'⟩ (wired.own_or side frame.id)
        · -- the request being answered has come from the other side
          cases call with
          | recv buf =>
            unfold incomingOf at request
            dsimp only at request
            split at request
            · next frame' read' =>
                split_ifs at request
                refine ⟨buf, heard buf rfl, frame', read', ?_⟩
                exact Incoming.request.inj request
            · cases request
          | _ => cases request

theorem wired_step (w : Pair) (action : Action) (wired : w.Wired) (permitted : w.Permitted action) :
    (w.step action).Wired := by
  cases action with
  | call side call =>
    exact wired.perform side call _ permitted.2 fun buf recv => absurd recv (permitted.1 buf)
  | deliver side =>
    rw [step]
    cases inbound : w.inbound side with
    | nil => exact wired
    | cons packet rest =>
      have there : packet ∈ w.inbound side := by
        rw [inbound]
        exact mem_cons_self
      have taken : { w with inbound := update w.inbound side rest }.Wired := by
        refine { wired with carried := fun side' packet' there' => ?_ }
        dsimp only at there'
        by_cases same : side' = side
        · subst same
          rw [update_self] at there'
          refine wired.carried side' packet' ?_
          rw [inbound]
          exact mem_cons_of_mem _ there'
        · rw [update_of_ne same] at there'
          exact wired.carried side' packet' there'
      refine taken.perform side _ _ trivial fun buf recv => ?_
      cases recv
      exact wired.carried side packet there

/-- In every run the two sessions are sound and the wire carries answers to requests. -/
theorem wired_run (actions : List Action) (run : Run.Allowed step Permitted new actions) :
    (Run.final step new actions).Wired :=
  Run.invariant wired_step new actions wired_new run

/-- A control frame on its way to a session under one of the session's own ids answers a request
that the session has sent. -/
theorem answers_in_flight (actions : List Action) (run : Run.Allowed step Permitted new actions)
    (side : Side) (packet : Packet) (frame : ControlFrame) :
    let w := Run.final step new actions
    packet ∈ w.inbound side → Serializer.deserialize packet.bytes = .ok (.control frame) →
      (w.session side).Own frame.id → frame.id < (w.session side).ctrlFrmIdx ∧
        ∃ bytes ∈ (w.session side).sent, ∃ request,
          Serializer.deserialize bytes = .ok (.control request) ∧ request.id = frame.id := by
  intro w inFlight read own
  have wired : w.Wired := wired_run actions run
  obtain ⟨bytes, sent, request, asked, same⟩ :=
    wired.answers side _ (wired.carried side packet inFlight) frame read own
  have made := ((wired.sound side).asked bytes sent request asked (same ▸ own)).1
  exact ⟨same ▸ made, bytes, sent, request, asked, same⟩

def channelled : List Action :=
  [.call .client (.open 5), .deliver .server, .deliver .client,
    .call .client (.createChannel true ""), .call .client (.createChannel false ""),
    .deliver .server, .deliver .server]

theorem answers_in_flight_channelled :
    let client := (Run.final step new channelled).session .client
    3 < client.ctrlFrmIdx ∧ ∃ bytes ∈ client.sent, ∃ request,
      Serializer.deserialize bytes = .ok (.control request) ∧ request.id = 3 :=
  answers_in_flight channelled (by decide +kernel) .client ⟨[129, 0, 0, 0, 3], none⟩
    (.accept 3 none) (by decide +kernel) rfl ⟨by decide, by decide +kernel⟩

/-- No two channels of the client have one id, and no two open ones of the server. -/
theorem channel_ids_distinct (actions : List Action)
    (run : Run.Allowed step Permitted new actions) (side : Side) (ch ch' : Ref) :
    let channels := ((Run.final step new actions).session side).channels
    ch < channels.next → ch' < channels.next → ch ≠ ch' → (side = .client ∨
        (channels.objs ch).readyState = .open ∧ (channels.objs ch').readyState = .open) →
      (channels.objs ch).id ≠ (channels.objs ch').id := by
  intro channels made made' distinct alive same
  have wired := wired_run actions run
  have sound := wired.sound side
  refine distinct ?_
  rcases alive with rfl | ⟨isOpen, isOpen'⟩
  · exact (sound.clientIds wired.client).distinct ch made ch' made' same
  · obtain ⟨id, is, found⟩ := sound.filed.filed ch made isOpen
    obtain ⟨id', is', found'⟩ := sound.filed.filed ch' made' isOpen'
    rw [Option.some.inj (is.symm.trans ((congrArg some same).trans is'))] at found
    exact Option.some.inj (found.symm.trans found')

theorem channel_ids_distinct_channelled :
    let channels := ((Run.final step new channelled).session .server).channels
    (channels.objs 0).id ≠ (channels.objs 1).id :=
  channel_ids_distinct channelled (by decide +kernel) .server 0 1 (by decide +kernel)
    (by decide +kernel) (by decide) (.inr (by decide +kernel))

end Pair
end AkashicSystem.Amtp
