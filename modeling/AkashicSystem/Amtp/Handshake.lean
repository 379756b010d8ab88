import Mathlib.Data.Rat.Floor
import AkashicSystem.Amtp.Pair
import AkashicSystem.Amtp.ServerGate

/-!
# The handshake and its random number

The client draws a 32-bit number and opens with it; the server sends it back.  The product that
is drawn from is exact, and so is the floor of the difference.
-/

set_option autoImplicit false

namespace AkashicSystem.Amtp
namespace Handshake

open Js Computation Session

def random (x : ℚ) : Int := ⌊x * 2 ^ 32 - 1⌋

def opened (random : Int) : Pair := Pair.step .new (.call .client (.open random))

def delivered (random : Int) (sides : List Side) : Pair :=
  Run.final Pair.step (opened random) (sides.map .deliver)

def Quiet (w : Pair) : Prop := ∀ side, w.inbound side = []

/-- The frame is one that can be serialized, and once nothing is on the way any more both
sessions are open. -/
structure Completes (random : Int) : Prop where
  sent : ∃ bytes frame, ((opened random).session .client).sent = [bytes] ∧
    Serializer.deserialize bytes = .ok (.control frame)
  quiet : ∃ sides, Quiet (delivered random sides)
  ends : ∀ sides, Quiet (delivered random sides) →
    ∀ side, ((delivered random sides).session side).readyState = .open

/-- The sessions of a pair and what is on the way to them. -/
structure At (w : Pair) (client server : Session) (toClient toServer : List Packet) : Prop where
  client : w.session .client = client
  server : w.session .server = server
  toClient : w.inbound .client = toClient
  toServer : w.inbound .server = toServer

theorem At.openClient {w : Pair} {client server : Session} (at_ : At w client server [] [])
    (random : Int) : At (w.step (.call .client (.open random)))
      (client.after (.open random)) server []
      (((client.after (.open random)).sent.drop client.sent.length).map fun b => ⟨b, none⟩) := by
  obtain ⟨rfl, rfl, toClient, toServer⟩ := at_
  constructor <;> simp [Pair.step, Pair.perform, Side.peer, toClient, toServer, Call.origin]

theorem At.deliverServer {w : Pair} {client server : Session} {packet : Packet}
    (at_ : At w client server [] [packet]) : At (w.step (.deliver .server)) client
      (server.after (.recv packet.bytes))
      (((server.after (.recv packet.bytes)).sent.drop server.sent.length).map fun b => ⟨b, none⟩)
      [] := by
  obtain ⟨rfl, rfl, toClient, toServer⟩ := at_
  constructor <;> simp [Pair.step, Pair.perform, Side.peer, toClient, toServer]

theorem At.deliverClient {w : Pair} {client server : Session} {packet : Packet}
    (at_ : At w client server [packet] []) : At (w.step (.deliver .client))
      (client.after (.recv packet.bytes)) server []
      (((client.after (.recv packet.bytes)).sent.drop client.sent.length).map
        fun b => ⟨b, none⟩) := by
  obtain ⟨rfl, rfl, toClient, toServer⟩ := at_
  constructor <;> simp [Pair.step, Pair.perform, Side.peer, toClient, toServer]

theorem deliver_of_empty {w : Pair} {side : Side} (empty : w.inbound side = []) :
    w.step (.deliver side) = w := by
  rw [Pair.step, empty]

/-- The client once it has sent its frame. -/
def opening (random : Nat) (bytes : Buffer) : Session :=
  { newClient with
    readyState := .opening
    ctrlFrmIdx := 3
    waitingCFRequests := Function.update newClient.waitingCFRequests 1 (some (.open random))
    sent := [bytes] }

theorem after_open (random : Nat) (bytes : Buffer) (written : Serializer.serialize
      (.control (.open 1 random PROTOCOL_VERSION PROTOCOL_IDENTIFIER)) = .ok bytes) :
    newClient.after (.open random) = opening random bytes := by
  have notNegative : ¬ (random : Int) < 0 := by omega
  simp only [Session.after, Call.run, ClientSession.open, bind_run, get_run]
  simp [notNegative, newClient, Session.new, send, written, socketSend, setReadyState, opening]

/-- The server once it has accepted. -/
def accepting (reply : Buffer) : Session :=
  { newServer with readyState := .open, sent := [reply], events := [.sessionOpen] }

theorem after_recv_open (random : Nat) (bytes echo reply : Buffer)
    (read : Serializer.deserialize bytes =
      .ok (.control (.open 1 random PROTOCOL_VERSION PROTOCOL_IDENTIFIER)))
    (echoed : Buffer.writeUInt32BE (Buffer.alloc 4) random 0 = .ok echo)
    (written : Serializer.serialize (.control (.accept 1 (some echo))) = .ok reply) :
    newServer.after (.recv bytes) = accepting reply := by
  simp only [Session.after, Call.run, ServerGate.onRecvFrame_control bytes _ read]
  simp [onControlFrame, ControlFrame.id, onControlFrameFromPeer,
    ServerSession.onControlFrameFromPeer, ServerSession.onOpenControlFrame, echoed, send, written,
    socketSend, setReadyState, emit, accepting, newServer, Session.new]

theorem after_recv_accept (random : Nat) (bytes echo reply : Buffer)
    (read : Serializer.deserialize reply = .ok (.control (.accept 1 (some echo))))
    (back : Buffer.readUInt32BE echo 0 = .ok random) :
    ((opening random bytes).after (.recv reply)).readyState = .open ∧
      ((opening random bytes).after (.recv reply)).sent = [bytes] := by
  simp only [Session.after, Call.run, ServerGate.onRecvFrame_control reply _ read]
  simp [onControlFrame, ControlFrame.id, onAnswer, finish, ClientSession.onOpenAccepted, back,
    setReadyState, emit, opening, newClient, Session.new]

theorem readUInt32BE_word (value : Nat) (small : value ≤ 0xffffffff) :
    Buffer.readUInt32BE (Buffer.word value) 0 = .ok value :=
  congrArg Except.ok (Buffer.wordOf_word value small)

/-- What a handshake goes through. -/
inductive Phase (random : Nat) (bytes reply : Buffer) (client : Session) (w : Pair) : Prop where
  | opened (at_ : At w (opening random bytes) newServer [] [⟨bytes, none⟩])
  | accepted (at_ : At w (opening random bytes) (accepting reply) [⟨reply, none⟩] [])
  | finished (at_ : At w client (accepting reply) [] [])

section
variable {random : Nat} {bytes reply : Buffer} {client : Session} {w : Pair}
  (accepts : newServer.after (.recv bytes) = accepting reply)
  (finishes : (opening random bytes).after (.recv reply) = client) (quiet : client.sent = [bytes])
include accepts finishes quiet

theorem Phase.deliver (side : Side) (phase : Phase random bytes reply client w) :
    Phase random bytes reply client (w.step (.deliver side)) := by
  cases phase with
  | opened at_ =>
    cases side with
    | client =>
      rw [deliver_of_empty at_.toClient]
      exact .opened at_
    | server =>
      have delivered := at_.deliverServer
      rw [accepts] at delivered
      exact .accepted delivered
  | accepted at_ =>
    cases side with
    | client =>
      have delivered := at_.deliverClient
      rw [finishes, quiet] at delivered
      exact .finished delivered
    | server =>
      rw [deliver_of_empty at_.toServer]
      exact .accepted at_
  | finished at_ =>
    rw [deliver_of_empty (by cases side; exacts [at_.toClient, at_.toServer])]
    exact .finished at_

theorem Phase.delivered (sides : List Side) (phase : Phase random bytes reply client w) :
    Phase random bytes reply client (Run.final Pair.step w (sides.map .deliver)) := by
  induction sides generalizing w with
  | nil => exact phase
  | cons side rest ih => exact ih (phase.deliver accepts finishes quiet side)

end

theorem completes_of_lt (random : Nat) (small : random < 2 ^ 32) : Completes random := by
  obtain ⟨bytes, written, read⟩ := Serializer.serialize_fits
    (.control (.open 1 random PROTOCOL_VERSION PROTOCOL_IDENTIFIER))
    ⟨Nat.one_pos, by decide, by omega, by decide, by decide⟩
  have echoed : Buffer.writeUInt32BE (Buffer.alloc 4) random 0 = .ok (Buffer.word random) := by
    rw [Serializer.writeUInt32BE_ok _ _ _ (by omega) (by decide)]
    rfl
  obtain ⟨reply, replied, answer⟩ := Serializer.serialize_fits
    (.control (.accept 1 (some (Buffer.word random)))) ⟨Nat.one_pos, (by decide : 1 ≤ 0xffffffff)⟩
  have opens := after_open random bytes written
  have accepts := after_recv_open random bytes _ reply read echoed replied
  obtain ⟨clientOpen, quiet⟩ :=
    after_recv_accept random bytes _ reply answer (readUInt32BE_word random (by omega))
  have start : At (opened random) (opening random bytes) newServer [] [⟨bytes, none⟩] := by
    have opened := At.openClient (w := .new) ⟨rfl, rfl, rfl, rfl⟩ random
    change At _ (newClient.after (.open random)) _ _
      (((newClient.after (.open random)).sent.drop 0).map _) at opened
    rw [opens] at opened
    exact opened
  have phase (sides : List Side) := (Phase.opened start).delivered accepts rfl quiet sides
  refine ⟨⟨bytes, _, ?_, read⟩, ⟨[.server, .client], ?_⟩, ?_⟩
  · rw [start.client]
    rfl
  · have delivered := start.deliverServer
    rw [accepts] at delivered
    have delivered := At.deliverClient delivered
    rw [quiet] at delivered
    intro side
    cases side
    exacts [delivered.toClient, delivered.toServer]
  · intro sides done side
    cases phase sides with
    | opened at_ => cases at_.toServer.symm.trans (done .server)
    | accepted at_ => cases at_.toClient.symm.trans (done .client)
    | finished at_ =>
      cases side with
      | client =>
        exact (congrArg Session.readyState at_.client).trans clientOpen
      | server => exact congrArg Session.readyState at_.server

theorem not_completes_of_neg (random : Int) (negative : random < 0) : ¬ Completes random := by
  intro completes
  obtain ⟨bytes, frame, sent, -⟩ := completes.sent
  have none_ : ((opened random).session .client).sent = [] := by
    change (Session.after newClient (.open random)).sent = []
    simp [Session.after, Call.run, ClientSession.open, negative, newClient, Session.new]
  cases none_.symm.trans sent

theorem random_lt {x : ℚ} (below : x < 1) : random x < 2 ^ 32 := by
  rw [random, Int.floor_lt]
  push_cast
  linarith

theorem random_nonneg_iff (x : ℚ) : 0 ≤ random x ↔ 1 ≤ x * 2 ^ 32 := by
  rw [random, Int.floor_nonneg, sub_nonneg]

/-- The handshake ends with both sessions open, exactly if the random number is not one of the
first 2⁻³². -/
theorem completes_iff (x : ℚ) (below : x < 1) : Completes (random x) ↔ 1 ≤ x * 2 ^ 32 := by
  rw [← random_nonneg_iff]
  constructor
  · intro completes
    by_contra negative
    exact not_completes_of_neg _ (Int.not_le.mp negative) completes
  · intro nonneg
    have small := random_lt below
    obtain ⟨n, is⟩ := Int.eq_ofNat_of_zero_le nonneg
    rw [is] at small ⊢
    exact completes_of_lt n (by exact_mod_cast small)

theorem completes_iff_half : Completes (random (1 / 2)) ↔ 1 ≤ (1 / 2 : ℚ) * 2 ^ 32 :=
  completes_iff (1 / 2) (by norm_num)

theorem zero_fails : ¬ ∀ x : ℚ, 0 ≤ x → x < 1 → Completes (random x) := by
  intro completes
  refine not_completes_of_neg (random 0) ?_ (completes 0 le_rfl one_pos)
  exact lt_of_not_ge fun nonneg => absurd ((random_nonneg_iff 0).mp nonneg) (by norm_num)

end Handshake
end AkashicSystem.Amtp
