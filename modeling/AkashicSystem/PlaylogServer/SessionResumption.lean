import Mathlib.Data.List.Perm.Basic
import AkashicSystem.Lib.ForEach
import AkashicSystem.PlaylogServer.EngineClients

/-!
# Resumption of an engine session

What `Client` and `Session` of playlog-server-engine write while the socket of the
session closes and is attached again.  The steps are the frames of the peer, the
answers of the AMFlow and its ticks and events, and the events of the socket.
-/

set_option autoImplicit false

namespace AkashicSystem.PlaylogServer
namespace SessionResumption

open EngineClients (ReadyState)
open ForEach Function List

inductive SocketState where
  | «open»
  /-- The WebSocket is not open any more and has not emitted `close`. -/
  | closing
  /-- The socket has emitted `disconnected`. -/
  | detached
deriving DecidableEq

inductive Label where
  | playlog
  | sessionControl
deriving DecidableEq

/-- `Opcode`, and `ControlCode` of the session_control channel. -/
inductive Opcode where
  | «open»
  | authenticate
  | getTickList
  | getStartPoint
  | putStartPoint
  | getStorageData
  | putStorageData
  | close
  | establish
  | validate
deriving DecidableEq

def Opcode.label : Opcode → Label
  | .establish | .validate => .sessionControl
  | _ => .playlog

inductive Stream where
  | tick
  | event

variable {Data : Type}

/-- What is written: the response to a request, or data on a push pipe. -/
inductive Item (Data : Type) where
  | response (request : Nat) (message : Data)
  | push (pipe : Nat) (data : Data)
deriving DecidableEq

/-- A function of `sendBuffer`; the pipe of a stream is that at the time it is called. -/
inductive Write (Data : Type) where
  | response (request : Nat) (message : Data)
  | push (stream : Stream) (data : Data)

structure AssignedPushPipes where
  sendTick : Option Nat
  sendEvent : Option Nat

def AssignedPushPipes.pipe (assigned : AssignedPushPipes) : Stream → Option Nat
  | .tick => assigned.sendTick
  | .event => assigned.sendEvent

structure Client (Data : Type) where
  label : Label
  readyState : ReadyState
  needsBuffering : Bool
  sendBuffer : List (Write Data)
  /-- `res.end` of its requests does not throw. -/
  responds : Bool
  /-- `push` of an outgoing pipe does not throw. -/
  pushes : Nat → Bool
  /-- `pushPipes.primary` and `pushPipes.secondary`. -/
  primary : Option Nat
  secondary : Option Nat
  /-- The number from which on outgoing push pipes are new. -/
  pushPipesCreated : Nat
  pushPipeHandler : Bool
  assignedPushPipes : Option AssignedPushPipes
  received : Nat
  outstanding : List (Nat × Opcode)
  /-- What the results and the streams have given to write. -/
  produced : List (Item Data)
  written : List (Item Data)

namespace Client

def absent : Client Data where
  label := .playlog
  readyState := .closed
  needsBuffering := false
  sendBuffer := []
  responds := false
  pushes := fun _ => false
  primary := none
  secondary := none
  pushPipesCreated := 0
  pushPipeHandler := false
  assignedPushPipes := none
  received := 0
  outstanding := []
  produced := []
  written := []

def new (label : Label) : Client Data := { absent with label := label }

def assigned (c : Client Data) (stream : Stream) : Option Nat :=
  c.assignedPushPipes.bind fun assigned => assigned.pipe stream

variable (c : Client Data)

/-- What `res.end` or `push` hands to the socket; `none` where they throw. -/
def item : Write Data → Option (Item Data)
  | .response request message => if c.responds then some (.response request message) else none
  | .push stream data =>
    (c.assigned stream).bind fun pipe => if c.pushes pipe then some (.push pipe data) else none

variable (isOpen : Bool)

def send (c : Client Data) (item : Item Data) : Client Data :=
  if isOpen then { c with written := c.written ++ [item] } else c

/-- A call of `res.end` or `push`, and whether it returns. -/
def write (c : Client Data) (call : Write Data) : Client Data × Bool :=
  match c.item call with
  | none => (c, false)
  | some item => (c.send isOpen item, true)

def startBuffering : Client Data := { c with needsBuffering := true }

def stopBufferingAndFlush : Client Data × Bool :=
  let flushed := forEach (write true) { c with sendBuffer := [] } c.sendBuffer
  if flushed.2 = true then ({ flushed.1 with needsBuffering := false }, true) else flushed

/-- Frames have opened or closed pipes: what `res.end` and `push` do is another matter now. -/
def onPipes (responds : Bool) (pushes : Nat → Bool) : Client Data :=
  { c with responds := responds, pushes := pushes }

def onPushPipeCreated (primary : Bool) : Client Data :=
  if primary then
    { c with primary := some c.pushPipesCreated, pushPipesCreated := c.pushPipesCreated + 1 }
  else
    { c with secondary := some c.pushPipesCreated, pushPipesCreated := c.pushPipesCreated + 1 }

/-- The listener for `close` of the channel, and whether the client emits `close`. -/
def onChannelClose : Client Data × Bool :=
  let c' := { c with responds := false, pushes := fun _ => false }
  if c.readyState = .open then ({ c' with readyState := .closed }, true) else (c', false)

/-- While a new primary push pipe is created, the channel has none and `push` throws. -/
def handleOpenRequest : Client Data := { c with pushes := fun _ => false }

def handleCloseRequest : Client Data :=
  { c with
    readyState := .closing
    pushes := fun pipe =>
      if c.primary = some pipe ∨ c.secondary = some pipe then false else c.pushes pipe }

/-- The listener for `request`. -/
def onRequest (code : Opcode) : Client Data :=
  if code.label = c.label then
    let c' := { c with
      received := c.received + 1
      outstanding := c.outstanding ++ [(c.received, code)] }
    match code with
    | .open => c'.handleOpenRequest
    | .close => c'.handleCloseRequest
    | _ => c'
  else c

def onOpened (c : Client Data) (request : Nat) (succeeds : Bool)
    (message : Data) : Client Data :=
  let c' := if succeeds then { c with pushPipeHandler := true, readyState := .open } else c
  (c'.write isOpen (.response request message)).1

/-- The promises of a close request, and whether the client emits `close`. -/
def onClosed (c : Client Data) (request : Nat) (succeeds : Bool)
    (message : Data) : Client Data × Bool :=
  let ended := c.write isOpen (.response request message)
  if succeeds = true ∧ ended.2 = true then ({ ended.1 with readyState := .closed }, true)
  else (ended.1, false)

def assign (permission : Permission) : AssignedPushPipes where
  sendTick := if permission.subscribeTick then c.primary else none
  sendEvent :=
    if permission.subscribeEvent then
      if permission.subscribeTick then c.secondary else c.primary
    else none

/-- The callback of `handleAuthenticateRequest`. -/
def onAuthenticated (c : Client Data) (request : Nat) (succeeds : Bool)
    (permission : Permission) (message : Data) : Client Data :=
  let c' := if succeeds then { c with assignedPushPipes := some (c.assign permission) } else c
  (c'.write isOpen (.response request message)).1

/-- The callbacks of `handleGetTickListRequest`, `handleGetStartPointRequest`,
`handleGetStartPointByTimestampRequest`, `handlePutStartPointRequest`,
`handleGetStorageDataRequest` and `handlePutStorageDataRequest`. -/
def onResult (c : Client Data) (request : Nat) (message : Data) : Client Data :=
  if c.needsBuffering = true then
    { c with sendBuffer := c.sendBuffer ++ [Write.response request message] }
  else if c.readyState = .open then (c.write isOpen (.response request message)).1
  else c

/-- The result of a request, and whether the client emits `close`. -/
def onAnswer (c : Client Data) (request : Nat) (succeeds : Bool)
    (permission : Permission) (message : Data) : Opcode → Client Data × Bool
  | .open => (c.onOpened isOpen request succeeds message, false)
  | .authenticate => (c.onAuthenticated isOpen request succeeds permission message, false)
  | .close => c.onClosed isOpen request succeeds message
  -- `handleEstablishRequest` and `handleValidationRequest`
  | .establish | .validate => ((c.write isOpen (.response request message)).1, false)
  | .getTickList | .getStartPoint | .putStartPoint | .getStorageData | .putStorageData =>
    (c.onResult isOpen request message, false)

def resulted (index request : Nat) (message : Data) : Client Data :=
  { c with
    outstanding := c.outstanding.eraseIdx index
    produced := c.produced ++ [Item.response request message] }

/-- `pushPipeHandler` is null when `assign` is called. -/
def Throws (succeeds : Bool) (code : Opcode) : Prop :=
  code = .authenticate ∧ succeeds = true ∧ c.pushPipeHandler = false

instance (c : Client Data) (succeeds : Bool) (code : Opcode) : Decidable (c.Throws succeeds code) :=
  inferInstanceAs (Decidable (_ ∧ _ ∧ _))

def answer (c : Client Data) (index : Nat) (succeeds : Bool)
    (permission : Permission) (message : Data) : Client Data × Bool :=
  match c.outstanding[index]? with
  | none => (c, false)
  | some (request, code) =>
    -- where the callback throws, the AMFlow calls back once more, with an error
    if c.Throws succeeds code then (c, false)
    else
      (c.resulted index request message).onAnswer isOpen request succeeds permission message
        code

/-- `onPlaylogTick` and `onPlaylogEvent`. -/
def onPlaylog (c : Client Data) (stream : Stream) (data : Data) : Client Data :=
  match c.assigned stream with
  | none => c
  | some pipe =>
    let c' : Client Data := { c with produced := c.produced ++ [Item.push pipe data] }
    if c.needsBuffering = true then
      { c' with sendBuffer := c.sendBuffer ++ [Write.push stream data] }
    else (c'.write isOpen (.push stream data)).1

end Client

structure Session (Data : Type) where
  socket : SocketState
  clients : List Nat
  client : Nat → Client Data
  created : Nat

inductive Action (Data : Type) where
  | channel (label : Label)
  | pipes (id : Nat) (responds : Bool) (pushes : Nat → Bool)
  | pushPipeCreated (id : Nat) (primary : Bool)
  | request (id : Nat) (code : Opcode)
  | closeChannel (id : Nat)
  | answer (id index : Nat) (succeeds : Bool) (permission : Permission) (message : Data)
  | push (id : Nat) (stream : Stream) (data : Data)
  | closing
  | disconnected
  | attach

namespace Session

def new : Session Data := ⟨.open, [], fun _ => .absent, 0⟩

variable (s : Session Data)

def isOpen : Bool := s.socket = .open

def set (id : Nat) (c : Client Data) : Session Data :=
  { s with client := update s.client id c }

/-- The client, and the listener of the session for its `close`. -/
def setOrRemove (id : Nat) (r : Client Data × Bool) : Session Data :=
  if r.2 = true then
    { s.set id r.1 with clients := s.clients.filter fun client => client ≠ id }
  else s.set id r.1

def onChannel (label : Label) : Session Data :=
  { s.set s.created (.new label) with
    created := s.created + 1
    clients := if label = .playlog then s.clients ++ [s.created] else s.clients }

def onSocketDisconnected : Session Data :=
  { s with
    socket := .detached
    client := fun id => if id ∈ s.clients then (s.client id).startBuffering else s.client id }

def flushClient (client : Nat → Client Data) (id : Nat) : (Nat → Client Data) × Bool :=
  (update client id (client id).stopBufferingAndFlush.1,
    (client id).stopBufferingAndFlush.2)

/-- `WSSocket.attach` and `onSocketAttached`. -/
def attach : Session Data :=
  { s with socket := .open, client := (forEach flushClient s.client s.clients).1 }

/-- A frame comes from the peer; none does from a socket that has closed. -/
def onFrame (s' : Session Data) : Session Data :=
  if s.socket = .detached then s else s'

end Session

def next (s : Session Data) : Action Data → Session Data
  | .channel label => s.onFrame (s.onChannel label)
  | .pipes id responds pushes => s.onFrame (s.set id ((s.client id).onPipes responds pushes))
  | .pushPipeCreated id primary => s.onFrame (s.set id ((s.client id).onPushPipeCreated primary))
  | .request id code => s.onFrame (s.set id ((s.client id).onRequest code))
  | .closeChannel id => s.onFrame (s.setOrRemove id (s.client id).onChannelClose)
  | .answer id index succeeds permission message =>
    s.setOrRemove id ((s.client id).answer s.isOpen index succeeds permission message)
  | .push id stream data => s.set id ((s.client id).onPlaylog s.isOpen stream data)
  | .closing => if s.socket = .open then { s with socket := .closing } else s
  | .disconnected => s.onFrame s.onSocketDisconnected
  | .attach => s.attach

def Item.answers : Item Data → Option Nat
  | .response request _ => some request
  | .push _ _ => none

/-- Nothing is lost: every request received waits for its result or is answered by one item,
and the items are written in order, those that wait once the socket is attached. -/
structure Lossless (s : Session Data) : Prop where
  answered : ∀ id, ((s.client id).outstanding.map Prod.fst ++
    (s.client id).produced.filterMap Item.answers).Perm (range (s.client id).received)
  resumed : ∀ id, (s.attach.client id).written = (s.client id).produced
  attached : s.socket = .open → ∀ id, (s.client id).written = (s.client id).produced

/-- The result of a request reaches the peer. -/
def Client.Reaches (isOpen : Bool) (c : Client Data) : Opcode → Prop
  | .getTickList | .getStartPoint | .putStartPoint | .getStorageData | .putStorageData =>
    c.responds = true ∧ (c.needsBuffering = true ∨ (c.readyState = .open ∧ isOpen = true))
  | .open | .authenticate | .close | .establish | .validate => c.responds = true ∧ isOpen = true

/-- Results and pushes come when they reach the peer: the pipe they are for takes them, and the
socket is open or they are buffered. -/
def Permitted (s : Session Data) : Action Data → Prop
  | .answer id index succeeds _ _ => ∀ request code,
      (s.client id).outstanding[index]? = some (request, code) →
        (s.client id).Throws succeeds code ∨ (s.client id).Reaches s.isOpen code
  | .push id stream _ => ∀ pipe, (s.client id).assigned stream = some pipe →
      (s.client id).pushes pipe = true ∧ ((s.client id).needsBuffering = true ∨ s.isOpen = true)
  | _ => True

namespace Client

variable (c : Client Data)

def flushes : List (Item Data) × Bool := outputs c.item c.sendBuffer

/-- All that was produced has been written or is written by a flush. -/
structure Kept (c : Client Data) : Prop where
  ends : c.flushes.2 = true
  complete : c.produced = c.written ++ c.flushes.1
  direct : c.needsBuffering = false → c.sendBuffer = []
  numbered : (c.outstanding.map Prod.fst ++ c.produced.filterMap Item.answers).Perm
    (range c.received)

/-- With a flush, as much is written as was produced. -/
def Complete : Prop :=
  c.produced.length ≤ (c.written ++ c.flushes.1).length

def flushed : Client Data :=
  { c with sendBuffer := [], needsBuffering := false, written := c.produced }

theorem item_congr {c c' : Client Data} (responds : c'.responds = c.responds)
    (pushes : c'.pushes = c.pushes) (assigned : c'.assignedPushPipes = c.assignedPushPipes) :
    c'.item = c.item := by
  funext call
  cases call with
  | response request message => simp only [item, responds]
  | push stream data => simp only [item, Client.assigned, assigned, pushes]

theorem forEach_write (calls : List (Write Data)) : forEach (write true) c calls =
      ({ c with written := c.written ++ (outputs c.item calls).1 },
        (outputs c.item calls).2) := by
  induction calls generalizing c with
  | nil =>
    rw [forEach_nil, outputs_nil]
    dsimp only
    rw [append_nil]
  | cons call rest ih =>
    cases found : c.item call with
    | none =>
      have throws : c.write true call = (c, false) := by
        rw [write, found]
      rw [forEach_cons_of_throws c call rest (by rw [throws]), throws,
        outputs_cons_of_none call rest found]
      dsimp only
      rw [append_nil]
    | some item =>
      have returns : c.write true call = ({ c with written := c.written ++ [item] }, true) := by
        rw [write, found]
        rfl
      have same : ({ c with written := c.written ++ [item] } : Client Data).item = c.item :=
        item_congr rfl rfl rfl
      rw [forEach_cons_of_returns c call rest (by rw [returns]), returns, ih, same,
        outputs_cons_of_some call rest item found]
      dsimp only
      rw [append_assoc, singleton_append]

theorem stopBufferingAndFlush_eq : c.stopBufferingAndFlush = ({ c with
        sendBuffer := []
        written := c.written ++ c.flushes.1
        needsBuffering := if c.flushes.2 = true then false else c.needsBuffering },
        c.flushes.2) := by
  have same : ({ c with sendBuffer := [] } : Client Data).item = c.item := item_congr rfl rfl rfl
  rw [stopBufferingAndFlush]
  dsimp only
  rw [forEach_write, same]
  cases ends : (outputs c.item c.sendBuffer).2 with
  | true => simp only [flushes, ends, if_true]
  | false => simp only [flushes, ends, Bool.false_eq_true, if_false]

theorem flushed_reached :
    c.stopBufferingAndFlush.1.written ++ c.stopBufferingAndFlush.1.flushes.1 =
      c.written ++ c.flushes.1 := by
  rw [stopBufferingAndFlush_eq]
  exact append_nil _

theorem flushes_length_le :
    (c.written ++ c.flushes.1).length ≤ c.written.length + c.sendBuffer.length := by
  rw [length_append]
  exact Nat.add_le_add_left (outputs_length_le c.sendBuffer) _

theorem kept_of_idle {c : Client Data} (empty : c.sendBuffer = [])
    (complete : c.produced = c.written)
    (numbered : (c.outstanding.map Prod.fst ++ c.produced.filterMap Item.answers).Perm
      (range c.received)) : c.Kept := by
  have nothing : c.flushes = ([], true) := by
    rw [flushes, empty, outputs_nil]
  refine ⟨?_, ?_, fun _ => empty, numbered⟩
  · rw [nothing]
  · rw [nothing, complete]
    exact (append_nil _).symm

namespace Kept

variable {c : Client Data}

theorem absent : (Client.absent : Client Data).Kept :=
  kept_of_idle rfl rfl (Perm.refl _)

section

variable (kept : c.Kept)
include kept

theorem idle (direct : c.needsBuffering = false) : c.sendBuffer = [] ∧ c.produced = c.written := by
  have empty := kept.direct direct
  refine ⟨empty, ?_⟩
  rw [kept.complete, flushes, empty, outputs_nil]
  exact append_nil _

theorem length_produced : c.produced.length = c.written.length + c.sendBuffer.length := by
  rw [kept.complete, length_append, flushes, outputs_length_of_all _ kept.ends]

theorem flushed_eq : c.stopBufferingAndFlush = (c.flushed, true) := by
  rw [stopBufferingAndFlush_eq, kept.ends, if_pos rfl, flushed, kept.complete]

theorem flushed : c.flushed.Kept := kept_of_idle rfl rfl kept.numbered

/-- Where nothing was written and what was added to the buffer is not, an item is lost. -/
theorem lost {c' : Client Data}
    (produced : c'.produced.length = c.produced.length + 1) (written : c'.written = c.written)
    (buffer : c'.sendBuffer = c.sendBuffer ∨
      ∃ call, c'.sendBuffer = c.sendBuffer ++ [call] ∧ c'.item call = none) : ¬ c'.Complete := by
  intro complete
  have before := kept.length_produced
  have after : c'.produced.length ≤ c.written.length + c.sendBuffer.length := by
    refine Nat.le_trans complete ?_
    obtain same | ⟨call, added, none⟩ := buffer
    · rw [← written, ← same]
      exact c'.flushes_length_le
    · rw [length_append, written, flushes, added]
      exact Nat.add_le_add_left (outputs_concat_length_le c.sendBuffer call none) _
  omega

theorem setReadyState (readyState : ReadyState) :
    ({ c with readyState := readyState } : Client Data).Kept := by
  have same : ({ c with readyState := readyState } : Client Data).item = c.item :=
    item_congr rfl rfl rfl
  have flushes : ({ c with readyState := readyState } : Client Data).flushes = c.flushes := by
    rw [Client.flushes, same, Client.flushes]
  refine ⟨?_, ?_, kept.direct, kept.numbered⟩
  · rw [flushes]
    exact kept.ends
  · rw [flushes]
    exact kept.complete

end

theorem write_direct {call : Write Data} {item : Item Data} (empty : c.sendBuffer = [])
    (complete : c.produced = c.written ++ [item])
    (numbered : (c.outstanding.map Prod.fst ++ c.produced.filterMap Item.answers).Perm
      (range c.received)) (writes : c.item call = some item) : (c.write true call).1.Kept := by
  have written : c.write true call = ({ c with written := c.written ++ [item] }, true) := by
    rw [write, writes]
    rfl
  rw [written]
  exact kept_of_idle empty complete numbered

theorem write_buffered {c' : Client Data} {call : Write Data} {item : Item Data} (kept : c.Kept)
    (same : c'.item = c.item) (buffering : c'.needsBuffering = true)
    (buffer : c'.sendBuffer = c.sendBuffer ++ [call]) (written : c'.written = c.written)
    (complete : c'.produced = c.produced ++ [item])
    (numbered : (c'.outstanding.map Prod.fst ++ c'.produced.filterMap Item.answers).Perm
      (range c'.received)) (writes : c.item call = some item) : c'.Kept := by
  have flushes : c'.flushes = (c.flushes.1 ++ [item], true) := by
    rw [Client.flushes, same, buffer]
    exact outputs_concat c.sendBuffer call item kept.ends writes
  refine ⟨?_, ?_, ?_, numbered⟩
  · rw [flushes]
  · rw [complete, kept.complete, written, flushes, append_assoc]
  · intro direct
    rw [direct] at buffering
    cases buffering

end Kept

theorem numbered_resulted {c : Client Data} {index request : Nat} {code : Opcode}
    (there : c.outstanding[index]? = some (request, code)) (message : Data)
    (numbered : (c.outstanding.map Prod.fst ++ c.produced.filterMap Item.answers).Perm
      (range c.received)) : ((c.resulted index request message).outstanding.map Prod.fst ++
      (c.resulted index request message).produced.filterMap Item.answers).Perm
      (range (c.resulted index request message).received) := by
  obtain ⟨inside, found⟩ := List.getElem?_eq_some_iff.mp there
  have taken : (request :: (c.outstanding.eraseIdx index).map Prod.fst).Perm
      (c.outstanding.map Prod.fst) := by
    have moved := (getElem_cons_eraseIdx_perm inside).map Prod.fst
    rw [found] at moved
    exact moved
  refine Perm.trans ?_ numbered
  rw [resulted]
  dsimp only
  rw [filterMap_append]
  refine Perm.trans ?_ (taken.append_right _)
  rw [← append_assoc]
  exact perm_append_comm

theorem item_response (request : Nat) (message : Data) :
    c.item (.response request message) =
      if c.responds then some (.response request message) else none := rfl

theorem write_response_unchanged (isOpen : Bool) (c : Client Data) (request : Nat)
    (message : Data) (not : ¬ (c.responds = true ∧ isOpen = true)) :
    (c.write isOpen (.response request message)).1 = c := by
  rw [write, item_response]
  by_cases responds : c.responds = true
  · rw [if_pos responds]
    dsimp only
    rw [send]
    exact if_neg fun isOpen => not ⟨responds, isOpen⟩
  · rw [if_neg responds]

theorem write_response_needsBuffering (isOpen : Bool) (c : Client Data) (request : Nat)
    (message : Data) :
    (c.write isOpen (.response request message)).1.needsBuffering = c.needsBuffering := by
  rw [write, item_response]
  by_cases responds : c.responds = true
  · rw [if_pos responds]
    cases isOpen with
    | false | true => rfl
  · rw [if_neg responds]

structure HasResult (c : Client Data) (index request : Nat) (message : Data)
    (c' : Client Data) : Prop where
  sendBuffer : c'.sendBuffer = c.sendBuffer
  written : c'.written = c.written
  responds : c'.responds = c.responds
  received : c'.received = c.received
  outstanding : c'.outstanding = c.outstanding.eraseIdx index
  produced : c'.produced = c.produced ++ [Item.response request message]

theorem hasResult_resulted (index request : Nat) (message : Data) :
    HasResult c index request message (c.resulted index request message) :=
  ⟨rfl, rfl, rfl, rfl, rfl, rfl⟩

section Answers

variable {c c' : Client Data} {isOpen : Bool} {index request : Nat} {code : Opcode}
  {message : Data} (kept : c.Kept) (direct : isOpen = true → c.needsBuffering = false)
  (there : c.outstanding[index]? = some (request, code))

include kept there in
theorem Kept.numbered_hasResult (result : HasResult c index request message c') :
    (c'.outstanding.map Prod.fst ++ c'.produced.filterMap Item.answers).Perm
      (range c'.received) := by
  rw [result.outstanding, result.produced, result.received]
  exact numbered_resulted there message kept.numbered

include kept direct there in
theorem Kept.write_hasResult (result : HasResult c index request message c')
    (reaches : c.responds = true ∧ isOpen = true) :
    (c'.write isOpen (.response request message)).1.Kept := by
  obtain ⟨responds, isOpen'⟩ := reaches
  obtain ⟨empty, complete⟩ := kept.idle (direct isOpen')
  have writes : c'.item (.response request message) = some (.response request message) := by
    rw [item_response, result.responds, if_pos responds]
  rw [isOpen']
  refine Kept.write_direct (result.sendBuffer.trans empty) ?_
    (kept.numbered_hasResult there result) writes
  rw [result.produced, complete, result.written]

include kept direct there in
theorem Kept.onResult (reaches : c.responds = true ∧ (c.needsBuffering = true ∨
    (c.readyState = .open ∧ isOpen = true))) :
    ((c.resulted index request message).onResult isOpen request message).Kept ∧
      ((c.resulted index request message).onResult isOpen request message).needsBuffering =
        c.needsBuffering := by
  obtain ⟨responds, reaches⟩ := reaches
  have result := hasResult_resulted c index request message
  rw [Client.onResult]
  by_cases buffering : (c.resulted index request message).needsBuffering = true
  · rw [if_pos buffering]
    refine ⟨?_, rfl⟩
    exact kept.write_buffered (item_congr rfl rfl rfl) buffering rfl rfl rfl
      (numbered_resulted there message kept.numbered) (if_pos responds)
  · obtain ⟨isReady, isOpen'⟩ := reaches.resolve_left buffering
    have readyState : (c.resulted index request message).readyState = .open := isReady
    rw [if_neg buffering, if_pos readyState]
    refine ⟨?_, write_response_needsBuffering isOpen _ request message⟩
    exact kept.write_hasResult direct there result ⟨responds, isOpen'⟩

variable (succeeds : Bool) (permission : Permission)

include kept direct there

theorem Kept.onAnswer (reaches : c.Reaches isOpen code) :
    ((c.resulted index request message).onAnswer isOpen request succeeds permission message
      code).1.Kept ∧
      ((c.resulted index request message).onAnswer isOpen request succeeds permission message
        code).1.needsBuffering = c.needsBuffering ∧
      (((c.resulted index request message).onAnswer isOpen request succeeds permission message
        code).2 = true → isOpen = true) := by
  have result := hasResult_resulted c index request message
  have written (c' : Client Data) (result : HasResult c index request message c')
      (same : c'.needsBuffering = c.needsBuffering) (reaches : c.responds = true ∧ isOpen = true) :
      (c'.write isOpen (.response request message)).1.Kept ∧
        (c'.write isOpen (.response request message)).1.needsBuffering = c.needsBuffering ∧
          (false = true → isOpen = true) :=
    ⟨kept.write_hasResult direct there result reaches,
      (write_response_needsBuffering isOpen c' request message).trans same, fun _ => reaches.2⟩
  have data (reaches : c.responds = true ∧ (c.needsBuffering = true ∨
      (c.readyState = .open ∧ isOpen = true))) :
      ((c.resulted index request message).onResult isOpen request message).Kept ∧
        ((c.resulted index request message).onResult isOpen request message).needsBuffering =
          c.needsBuffering ∧ (false = true → isOpen = true) := by
    obtain ⟨kept', same⟩ := kept.onResult direct there reaches
    exact ⟨kept', same, fun not => absurd not Bool.false_ne_true⟩
  cases code with
  | «open» | authenticate =>
    cases succeeds with
    | false => exact written _ result rfl reaches
    | true => exact written _ ⟨rfl, rfl, rfl, rfl, rfl, rfl⟩ rfl reaches
  | close =>
    obtain ⟨kept', same, _⟩ := written _ result rfl reaches
    rw [Client.onAnswer, onClosed]
    dsimp only
    split_ifs
    · exact ⟨kept'.setReadyState .closed, same, fun _ => reaches.2⟩
    · exact ⟨kept', same, fun _ => reaches.2⟩
  | establish | validate => exact written _ result rfl reaches
  | getTickList | getStartPoint | putStartPoint | getStorageData | putStorageData =>
    exact data reaches

theorem Kept.answer (permitted : c.Throws succeeds code ∨ c.Reaches isOpen code) :
    (c.answer isOpen index succeeds permission message).1.Kept ∧
      (c.answer isOpen index succeeds permission message).1.needsBuffering = c.needsBuffering ∧
      ((c.answer isOpen index succeeds permission message).2 = true → isOpen = true) := by
  rw [Client.answer, there]
  dsimp only
  by_cases throws : c.Throws succeeds code
  · rw [if_pos throws]
    exact ⟨kept, rfl, fun not => absurd not Bool.false_ne_true⟩
  · rw [if_neg throws]
    exact kept.onAnswer direct there succeeds permission (permitted.resolve_left throws)

omit direct

/-- Where a result does not reach the peer, its response is lost. -/
theorem Kept.reaches_of_answer
    (complete : (c.answer isOpen index succeeds permission message).1.Complete) :
    c.Throws succeeds code ∨ c.Reaches isOpen code := by
  have result := hasResult_resulted c index request message
  -- nothing is lost only if something was written or buffered
  have lost (c' : Client Data) (result : HasResult c index request message c') :
      ¬ c'.Complete := by
    refine kept.lost ?_ result.written (Or.inl result.sendBuffer)
    rw [result.produced, length_append, length_singleton]
  have reached (c' : Client Data) (result : HasResult c index request message c')
      (complete : (c'.write isOpen (.response request message)).1.Complete) :
      c.responds = true ∧ isOpen = true := by
    by_contra not
    rw [← result.responds] at not
    rw [write_response_unchanged isOpen c' request message not] at complete
    exact lost c' result complete
  have data
      (complete : ((c.resulted index request message).onResult isOpen request message).Complete) :
      c.responds = true ∧ (c.needsBuffering = true ∨ (c.readyState = .open ∧ isOpen = true)) := by
    rw [Client.onResult] at complete
    by_cases buffering : (c.resulted index request message).needsBuffering = true
    · rw [if_pos buffering] at complete
      refine ⟨?_, Or.inl buffering⟩
      by_contra not
      have throws : (c.resulted index request message).item (.response request message) = none :=
        if_neg not
      refine absurd complete (kept.lost ?_ rfl (Or.inr ⟨_, rfl, throws⟩))
      exact length_append
    · rw [if_neg buffering] at complete
      by_cases readyState : (c.resulted index request message).readyState = .open
      · rw [if_pos readyState] at complete
        obtain ⟨responds, isOpen'⟩ := reached _ result complete
        exact ⟨responds, Or.inr ⟨readyState, isOpen'⟩⟩
      · rw [if_neg readyState] at complete
        exact absurd complete (lost _ result)
  rw [Client.answer, there] at complete
  dsimp only at complete
  by_cases throws : c.Throws succeeds code
  · exact Or.inl throws
  rw [if_neg throws] at complete
  apply Or.inr
  cases code with
  | «open» =>
    cases succeeds with
    | false => exact reached _ result complete
    | true =>
      exact reached { c.resulted index request message with
        pushPipeHandler := true, readyState := .open } ⟨rfl, rfl, rfl, rfl, rfl, rfl⟩ complete
  | authenticate =>
    cases succeeds with
    | false => exact reached _ result complete
    | true =>
      exact reached { c.resulted index request message with
        assignedPushPipes := some ((c.resulted index request message).assign permission) }
        ⟨rfl, rfl, rfl, rfl, rfl, rfl⟩ complete
  | close =>
    refine reached _ result ?_
    rw [Client.onAnswer, onClosed] at complete
    dsimp only at complete
    split_ifs at complete <;> exact complete
  | establish | validate => exact reached _ result complete
  | getTickList | getStartPoint | putStartPoint | getStorageData | putStorageData =>
    exact data complete

end Answers

section Pushes

variable {c : Client Data} {isOpen : Bool} {stream : Stream} {pipe : Nat} {data : Data}

theorem item_push (c : Client Data) (stream : Stream) (data : Data) : c.item (.push stream data) =
    (c.assigned stream).bind fun pipe => if c.pushes pipe then some (.push pipe data) else none :=
  rfl

theorem Kept.onPlaylog (kept : c.Kept) (direct : isOpen = true → c.needsBuffering = false)
    (reaches : ∀ pipe, c.assigned stream = some pipe →
      c.pushes pipe = true ∧ (c.needsBuffering = true ∨ isOpen = true)) :
    (c.onPlaylog isOpen stream data).Kept ∧
      (c.onPlaylog isOpen stream data).needsBuffering = c.needsBuffering := by
  rw [Client.onPlaylog]
  cases assigned : c.assigned stream with
  | none => exact ⟨kept, rfl⟩
  | some pipe =>
    obtain ⟨pushes, reaches⟩ := reaches pipe assigned
    have writes : c.item (.push stream data) = some (.push pipe data) := by
      rw [item_push, assigned]
      exact if_pos pushes
    have numbered : (c.outstanding.map Prod.fst ++
        (c.produced ++ [Item.push pipe data]).filterMap Item.answers).Perm
          (range c.received) := by
      rw [filterMap_append]
      simp only [filterMap_cons, Item.answers, filterMap_nil, append_nil]
      exact kept.numbered
    dsimp only
    by_cases buffering : c.needsBuffering = true
    · rw [if_pos buffering]
      refine ⟨?_, rfl⟩
      exact kept.write_buffered (item_congr rfl rfl rfl) buffering rfl rfl rfl numbered writes
    · have isOpen' := reaches.resolve_left buffering
      obtain ⟨empty, complete⟩ := kept.idle (direct isOpen')
      have writes' : ({ c with produced := c.produced ++ [Item.push pipe data] } : Client Data).item
          (.push stream data) = some (.push pipe data) := writes
      rw [if_neg buffering, isOpen']
      constructor
      · refine Kept.write_direct empty ?_ numbered writes'
        dsimp only
        rw [complete]
      · rw [write, writes']
        rfl

theorem Kept.reaches_of_onPlaylog (kept : c.Kept) (assigned : c.assigned stream = some pipe)
    (complete : (c.onPlaylog isOpen stream data).Complete) :
    c.pushes pipe = true ∧ (c.needsBuffering = true ∨ isOpen = true) := by
  let c' : Client Data := { c with produced := c.produced ++ [Item.push pipe data] }
  have added : c'.produced.length = c.produced.length + 1 := length_append
  have item : c'.item (.push stream data) =
      if c.pushes pipe then some (.push pipe data) else none := by
    have assigned' : c'.assigned stream = some pipe := assigned
    rw [item_push, assigned']
    rfl
  rw [Client.onPlaylog, assigned] at complete
  dsimp only at complete
  by_cases buffering : c.needsBuffering = true
  · rw [if_pos buffering] at complete
    refine ⟨?_, Or.inl buffering⟩
    by_contra not
    rw [if_neg not] at item
    exact absurd complete (kept.lost added rfl (Or.inr ⟨_, rfl, item⟩))
  · rw [if_neg buffering] at complete
    have unchanged (same : (c'.write isOpen (.push stream data)).1 = c') : False := by
      rw [same] at complete
      exact absurd complete (kept.lost added rfl (Or.inl rfl))
    by_cases pushes : c.pushes pipe = true
    · rw [if_pos pushes] at item
      refine ⟨pushes, Or.inr ?_⟩
      by_contra closed
      apply unchanged
      rw [write, item]
      exact if_neg closed
    · rw [if_neg pushes] at item
      refine (unchanged ?_).elim
      rw [write, item]

end Pushes

section Frames

variable {c : Client Data} (kept : c.Kept) (direct : c.needsBuffering = false)

include kept direct

theorem Kept.onPipes (responds : Bool) (pushes : Nat → Bool) :
    (c.onPipes responds pushes).Kept := by
  obtain ⟨empty, complete⟩ := kept.idle direct
  exact kept_of_idle empty complete kept.numbered

theorem Kept.onPushPipeCreated (primary : Bool) : (c.onPushPipeCreated primary).Kept := by
  obtain ⟨empty, complete⟩ := kept.idle direct
  cases primary with
  | false | true => exact kept_of_idle empty complete kept.numbered

theorem Kept.onChannelClose : c.onChannelClose.1.Kept := by
  obtain ⟨empty, complete⟩ := kept.idle direct
  rw [Client.onChannelClose]
  dsimp only
  split_ifs <;> exact kept_of_idle empty complete kept.numbered

theorem Kept.onRequest (code : Opcode) : (c.onRequest code).Kept := by
  obtain ⟨empty, complete⟩ := kept.idle direct
  have numbered : ((c.outstanding ++ [(c.received, code)]).map Prod.fst ++
      c.produced.filterMap Item.answers).Perm (range (c.received + 1)) := by
    rw [map_append, append_assoc, range_succ]
    refine Perm.trans ?_ (kept.numbered.append_right [c.received])
    rw [append_assoc]
    exact perm_append_comm.append_left _
  rw [Client.onRequest]
  split_ifs
  · cases code with
    | «open» | authenticate | getTickList | getStartPoint | putStartPoint | getStorageData
    | putStorageData | close | establish | validate => exact kept_of_idle empty complete numbered
  · exact kept

end Frames

theorem onRequest_needsBuffering (code : Opcode) :
    (c.onRequest code).needsBuffering = c.needsBuffering := by
  rw [onRequest]
  split_ifs
  · cases code <;> rfl
  · rfl

theorem onChannelClose_needsBuffering :
    c.onChannelClose.1.needsBuffering = c.needsBuffering := by
  rw [onChannelClose]
  dsimp only
  split_ifs <;> rfl

end Client

structure Inv (s : Session Data) : Prop where
  kept : ∀ id, (s.client id).Kept
  buffering : ∀ id, (s.client id).needsBuffering = true ↔ s.socket = .detached ∧ id ∈ s.clients

theorem forEach_flushClient (ids : List Nat) (client : Nat → Client Data)
    (kept : ∀ id, (client id).Kept) : forEach Session.flushClient client ids =
      (fun id => if id ∈ ids then (client id).flushed else client id, true) := by
  induction ids generalizing client with
  | nil =>
    rw [forEach_nil]
    simp only [not_mem_nil, if_false]
  | cons id rest ih =>
    have flush : Session.flushClient client id =
        (update client id (client id).flushed, true) := by
      rw [Session.flushClient, (kept id).flushed_eq]
    have kept' (id' : Nat) : (update client id (client id).flushed id').Kept := by
      by_cases same : id' = id
      · subst same
        rw [update_self]
        exact (kept id').flushed
      · rw [update_of_ne same]
        exact kept id'
    rw [forEach_cons_of_returns client id rest (by rw [flush]), flush, ih _ kept']
    congr 1
    funext id'
    by_cases same : id' = id
    · subst same
      rw [update_self, if_pos mem_cons_self]
      split_ifs <;> rfl
    · rw [update_of_ne same]
      simp only [mem_cons, same, false_or]

theorem attach_brings (s : Session Data) (id : Nat) :
    (s.attach.client id).written <+: (s.client id).written ++ (s.client id).flushes.1 := by
  have moves (client : Nat → Client Data) (id' : Nat)
      (same : (client id).written ++ (client id).flushes.1 =
        (s.client id).written ++ (s.client id).flushes.1) :
      ((Session.flushClient client id').1 id).written ++
          ((Session.flushClient client id').1 id).flushes.1 =
        (s.client id).written ++ (s.client id).flushes.1 := by
    rw [Session.flushClient, ← same]
    dsimp only
    by_cases eq : id = id'
    · subst eq
      rw [update_self]
      exact (client id).flushed_reached
    · rw [update_of_ne eq]
  have reached := forEach_keeps moves s.client s.clients rfl
  rw [← reached]
  exact prefix_append _ _

namespace Inv

variable {s : Session Data}

theorem new : Inv (Session.new : Session Data) where
  kept _ := Client.Kept.absent
  buffering id := by
    constructor
    · intro buffers
      cases buffers
    · rintro ⟨detached, _⟩
      cases detached

section

variable (inv : Inv s)
include inv

theorem direct (attached : s.socket ≠ .detached) (id : Nat) :
    (s.client id).needsBuffering = false := by
  rw [Bool.eq_false_iff]
  intro buffers
  exact attached ((inv.buffering id).mp buffers).1

theorem direct_of_isOpen (id : Nat) (isOpen : s.isOpen = true) :
    (s.client id).needsBuffering = false := by
  refine inv.direct ?_ id
  intro detached
  rw [Session.isOpen, detached] at isOpen
  cases isOpen

theorem set (id : Nat) {c : Client Data} (kept : c.Kept)
    (same : c.needsBuffering = (s.client id).needsBuffering) : Inv (s.set id c) := by
  refine ⟨?_, ?_⟩
  · intro id'
    rw [Session.set]
    dsimp only
    by_cases eq : id' = id
    · subst eq
      rw [update_self]
      exact kept
    · rw [update_of_ne eq]
      exact inv.kept id'
  · intro id'
    rw [Session.set]
    dsimp only
    by_cases eq : id' = id
    · subst eq
      rw [update_self, same]
      exact inv.buffering id'
    · rw [update_of_ne eq]
      exact inv.buffering id'

theorem setOrRemove (id : Nat) {r : Client Data × Bool} (kept : r.1.Kept)
    (same : r.1.needsBuffering = (s.client id).needsBuffering)
    (direct : r.2 = true → (s.client id).needsBuffering = false) : Inv (s.setOrRemove id r) := by
  have inv' := inv.set id kept same
  rw [Session.setOrRemove]
  split_ifs with emits
  · refine ⟨inv'.kept, ?_⟩
    intro id'
    rw [inv'.buffering id', mem_filter]
    constructor
    · rintro ⟨detached, there⟩
      refine ⟨detached, there, ?_⟩
      rw [decide_eq_true_iff]
      rintro rfl
      have buffers := (inv.buffering id').mpr ⟨detached, there⟩
      rw [direct emits] at buffers
      cases buffers
    · rintro ⟨detached, there, _⟩
      exact ⟨detached, there⟩
  · exact inv'

theorem onChannel (attached : s.socket ≠ .detached) (label : Label) : Inv (s.onChannel label) := by
  refine ⟨?_, ?_⟩
  · intro id
    rw [Session.onChannel, Session.set]
    dsimp only
    by_cases eq : id = s.created
    · subst eq
      rw [update_self]
      exact Client.kept_of_idle rfl rfl (Perm.refl _)
    · rw [update_of_ne eq]
      exact inv.kept id
  · intro id
    have direct := inv.direct attached id
    rw [Session.onChannel, Session.set]
    dsimp only
    constructor
    · intro buffers
      by_cases eq : id = s.created
      · subst eq
        rw [update_self] at buffers
        cases buffers
      · rw [update_of_ne eq, direct] at buffers
        cases buffers
    · rintro ⟨detached, _⟩
      exact absurd detached attached

theorem onSocketDisconnected (attached : s.socket ≠ .detached) : Inv s.onSocketDisconnected := by
  refine ⟨?_, ?_⟩
  · intro id
    rw [Session.onSocketDisconnected]
    dsimp only
    split_ifs
    · obtain ⟨empty, complete⟩ := (inv.kept id).idle (inv.direct attached id)
      exact Client.kept_of_idle empty complete (inv.kept id).numbered
    · exact inv.kept id
  · intro id
    have direct := inv.direct attached id
    rw [Session.onSocketDisconnected]
    dsimp only
    split_ifs with there
    · exact ⟨fun _ => ⟨rfl, there⟩, fun _ => rfl⟩
    · rw [direct]
      constructor
      · intro buffers
        cases buffers
      · rintro ⟨_, there'⟩
        exact absurd there' there

theorem attach_client : s.attach.client =
    fun id => if id ∈ s.clients then (s.client id).flushed else s.client id := by
  rw [Session.attach, forEach_flushClient s.clients s.client inv.kept]

theorem attach_written (id : Nat) : (s.attach.client id).written = (s.client id).produced := by
  rw [inv.attach_client]
  dsimp only
  split_ifs with there
  · rfl
  · have direct : (s.client id).needsBuffering = false := by
      rw [Bool.eq_false_iff]
      intro buffers
      exact there ((inv.buffering id).mp buffers).2
    exact ((inv.kept id).idle direct).2.symm

theorem attach : Inv s.attach := by
  refine ⟨?_, ?_⟩
  · intro id
    rw [inv.attach_client]
    dsimp only
    split_ifs
    · exact (inv.kept id).flushed
    · exact inv.kept id
  · intro id
    rw [inv.attach_client]
    dsimp only
    constructor
    · split_ifs with there
      · intro buffers
        cases buffers
      · intro buffers
        exact absurd ((inv.buffering id).mp buffers).2 there
    · rintro ⟨detached, _⟩
      cases detached

theorem onFrame {s' : Session Data}
    (handled : s.socket ≠ .detached → Inv s') : Inv (s.onFrame s') := by
  rw [Session.onFrame]
  split_ifs with detached
  · exact inv
  · exact handled detached

theorem answer (id index : Nat) (succeeds : Bool) (permission : Permission) (message : Data)
    (permitted : Permitted s (.answer id index succeeds permission message)) : Inv (s.setOrRemove id
      ((s.client id).answer s.isOpen index succeeds permission message)) := by
  cases there : (s.client id).outstanding[index]? with
  | none =>
    have same : (s.client id).answer s.isOpen index succeeds permission message =
        (s.client id, false) := by
      rw [Client.answer, there]
    rw [same]
    exact inv.setOrRemove id (inv.kept id) rfl fun not => absurd not Bool.false_ne_true
  | some entry =>
    obtain ⟨request, code⟩ := entry
    have direct := inv.direct_of_isOpen id
    obtain ⟨kept, same, emits⟩ := (inv.kept id).answer direct there succeeds permission
      (permitted request code there)
    exact inv.setOrRemove id kept same fun closes => direct (emits closes)

theorem next (action : Action Data) (permitted : Permitted s action) : Inv (next s action) := by
  cases action with
  | channel label => exact inv.onFrame fun attached => inv.onChannel attached label
  | pipes id responds pushes =>
    apply inv.onFrame
    intro attached
    exact inv.set id ((inv.kept id).onPipes (inv.direct attached id) responds pushes) rfl
  | pushPipeCreated id primary =>
    apply inv.onFrame
    intro attached
    refine inv.set id ((inv.kept id).onPushPipeCreated (inv.direct attached id) primary) ?_
    cases primary <;> rfl
  | request id code =>
    apply inv.onFrame
    intro attached
    exact inv.set id ((inv.kept id).onRequest (inv.direct attached id) code)
      (Client.onRequest_needsBuffering _ code)
  | closeChannel id =>
    apply inv.onFrame
    intro attached
    exact inv.setOrRemove id ((inv.kept id).onChannelClose (inv.direct attached id))
      (Client.onChannelClose_needsBuffering _) fun _ => inv.direct attached id
  | answer id index succeeds permission message =>
    exact inv.answer id index succeeds permission message permitted
  | push id stream data =>
    obtain ⟨kept, same⟩ := (inv.kept id).onPlaylog (inv.direct_of_isOpen id) permitted
    exact inv.set id kept same
  | closing =>
    rw [SessionResumption.next]
    split_ifs with isOpen
    · refine ⟨inv.kept, ?_⟩
      intro id
      rw [inv.buffering id, isOpen]
      constructor
      · rintro ⟨detached, _⟩
        cases detached
      · rintro ⟨detached, _⟩
        cases detached
    · exact inv
  | disconnected => exact inv.onFrame fun attached => inv.onSocketDisconnected attached
  | attach => exact inv.attach

theorem lossless : Lossless s where
  answered id := (inv.kept id).numbered
  resumed id := inv.attach_written id
  attached isOpen id := by
    have attached : s.socket ≠ .detached := by
      rw [isOpen]
      intro detached
      cases detached
    exact ((inv.kept id).idle (inv.direct attached id)).2.symm

end

end Inv

theorem complete_of_lossless {s : Session Data} (lossless : Lossless s) (id : Nat) :
    (s.client id).Complete := by
  have brought := (attach_brings s id).length_le
  rw [lossless.resumed id] at brought
  exact brought

theorem permitted_of_lossless {s : Session Data} (inv : Inv s) (action : Action Data)
    (lossless : Lossless (next s action)) : Permitted s action := by
  cases action with
  | answer id index succeeds permission message =>
    intro request code there
    have complete := complete_of_lossless lossless id
    have own : ((next s (.answer id index succeeds permission message)).client id) =
        ((s.client id).answer s.isOpen index succeeds permission message).1 := by
      rw [next, Session.setOrRemove]
      split_ifs <;> exact update_self ..
    rw [own] at complete
    exact (inv.kept id).reaches_of_answer there succeeds permission complete
  | push id stream data =>
    intro pipe assigned
    have complete := complete_of_lossless lossless id
    have own : ((next s (.push id stream data)).client id) =
        (s.client id).onPlaylog s.isOpen stream data := update_self ..
    rw [own] at complete
    exact (inv.kept id).reaches_of_onPlaylog assigned complete
  | channel label | pipes id responds pushes | pushPipeCreated id primary | request id code
  | closeChannel id | closing | disconnected | attach => trivial

/-- Nothing is lost in any state of a run exactly if every result and push of it reaches the
peer when it comes. -/
theorem lossless_iff_permitted (actions : List (Action Data)) :
    Run.Allowed next Permitted Session.new actions ↔
      ∀ front, front <+: actions → Lossless (Run.final next Session.new front) := by
  have kept (s : Session Data) (action : Action Data) (inv : Inv s)
      (permitted : Permitted s action) : Inv (next s action) := inv.next action permitted
  have shows (s : Session Data) (inv : Inv s) : Lossless s := inv.lossless
  have needed (s : Session Data) (action : Action Data) (inv : Inv s)
      (lossless : Lossless (next s action)) : Permitted s action :=
    permitted_of_lossless inv action lossless
  exact Run.allowed_iff_always_of_invariant kept shows needed Session.new actions Inv.new

/-- A client that subscribes to ticks and events, and its open and authenticate requests. -/
def subscribing (detached : Bool) : List (Action Nat) :=
  let permission := { Permission.initial with subscribeTick := true, subscribeEvent := true }
  [Action.channel .playlog, .request 0 .open, .pushPipeCreated 0 true, .pushPipeCreated 0 false,
    .pipes 0 true fun _ => true, .answer 0 0 true permission 100, .request 0 .authenticate] ++
    (if detached then [Action.disconnected] else []) ++ [Action.answer 0 0 true permission 101]

/-- The result of an authenticate request that comes while the socket is detached is lost. -/
theorem authenticated_lost :
    ¬ Lossless (Run.final next Session.new (subscribing true ++ [Action.attach])) := by
  intro lossless
  have written := lossless.attached (by decide) 0
  revert written
  decide

end SessionResumption
end AkashicSystem.PlaylogServer
