import AkashicSystem.Lib.Run

/-!
# The callbacks of a client's session

`Session.open` is a chain of exchanges that begins when the socket opens and ends in its
callback; `Session.close` closes the AMTP client, then the socket.  Neither looks at the
socket's close, which only clears what the session holds.  A run begins after the call of
`open`.
-/

set_option autoImplicit false

namespace AkashicSystem.PlaylogClient
namespace SessionCallbacks

open List

inductive SocketState where
  | opening
  | open
  | reopening
  | closing
  | closed
deriving DecidableEq

inductive ReadyState where
  | closed
  | opening
  | open
deriving DecidableEq

inductive Amtp where
  | closed
  | opening
  | open
  | closing
deriving DecidableEq

/-- What the chain of `open` awaits. -/
inductive Chain where
  /-- The socket's `open`. -/
  | socket
  | amtp
  | channel
  /-- The channel is made, and its `push-pipe` is not listened for yet. -/
  | made
  | pipes (push request : Bool)
  | establish
  | validate
  | failing
  | ended
deriving DecidableEq

/-- What a call of `close` awaits. -/
inductive Awaits where
  | timer
  | amtp (sent : Bool)
  | socket
deriving DecidableEq

structure CloseCall where
  awaits : Option Awaits
  calls : Nat
deriving DecidableEq

/-- The callback of `close` is called when the socket is closed. -/
def CloseCall.socketClosed (call : CloseCall) : CloseCall :=
  match call.awaits with
  | some .socket => ⟨none, call.calls + 1⟩
  | _ => call

structure Session where
  validationData : Bool
  /-- Whether the callback of `open` throws when it is called without an error. -/
  throws : Bool
  readyState : ReadyState
  socketState : SocketState
  /-- Whether there is a `_socket`, and an `amtpClient`. -/
  socket : Bool
  amtpClient : Bool
  amtp : Amtp
  chain : Chain
  /-- Whether the request that the chain awaits the answer of was sent. -/
  sent : Bool
  established : Bool
  validated : Bool
  /-- The calls of the callback of `open`, each with whether it was without an error. -/
  openCalls : List Bool
  closeCalls : List CloseCall
  escaped : Bool

namespace Session

/-- After the call of `open`. -/
def new (validationData throws : Bool) : Session where
  validationData := validationData
  throws := throws
  readyState := .opening
  socketState := .opening
  socket := true
  amtpClient := false
  amtp := .closed
  chain := .socket
  sent := false
  established := false
  validated := false
  openCalls := []
  closeCalls := []
  escaped := false

variable (s : Session)

def sends : Bool := decide (s.socketState = .open)

def receives : Bool :=
  decide (s.socketState = .open) || decide (s.socketState = .closing)

def closeSocket : Session :=
  if s.socketState = .closed then s else { s with socketState := .closing }

def rejected : Session :=
  if s.socket then
    { s.closeSocket with openCalls := s.openCalls ++ [false], chain := .ended }
  else { s with escaped := true, chain := .ended }

/-- The last step of the chain, which makes the buffered pipe of the socket. -/
def done : Session :=
  if s.socket then
    let called := { s with openCalls := s.openCalls ++ [true], chain := .ended }
    if s.throws then called.rejected else called
  else s.rejected

/-- A request of the chain; it throws where the AMTP session is not open. -/
def request (chain : Chain) : Session :=
  if s.amtp = .open then { s with chain := chain, sent := s.sends } else s.rejected

/-- A control frame of the chain; the error comes later where the AMTP session is not open. -/
def control (chain : Chain) : Session :=
  if s.amtp = .open then { s with chain := chain, sent := s.sends }
  else { s with chain := .failing }

def socketOpened : Session :=
  if s.socketState = .opening ∨ s.socketState = .reopening then
    let s := { s with socketState := .open }
    if s.chain = .socket then { s with chain := .amtp, amtp := .opening, sent := true } else s
  else s

def socketReopening : Session :=
  if s.socketState = .open then { s with socketState := .reopening } else s

/-- `_onSocketClose`, and the listeners of `close`. -/
def socketClosed (s : Session) : Session :=
  if s.socketState = .closed then s
  else
    { s with
      socketState := .closed
      socket := false
      readyState := .closed
      closeCalls := s.closeCalls.map CloseCall.socketClosed }

def establish : Session :=
  if s.socket then
    let s := { s with established := true, readyState := .open }
    if s.validationData then s.request .validate else s.done
  else s.rejected

def answered (accepts : Bool) : Session :=
  if s.sent && s.receives then
    let s := { s with sent := false }
    match s.chain with
    | .amtp =>
      if accepts then { s with amtp := .open, amtpClient := true }.control .channel
      else s.rejected
    | .channel => if accepts then { s with chain := .made } else s.rejected
    | .pipes push false =>
      if accepts then
        if push then s.request .establish else { s with chain := .pipes false true }
      else s.rejected
    | .establish =>
      -- Data that arrives on a closing session is dropped.
      if s.amtp = .open then if accepts then s.establish else s.rejected else s
    | .validate =>
      if s.amtp = .open then
        if accepts then { s with validated := true }.done else s.rejected
      else s
    | .socket | .made | .pipes _ true | .failing | .ended => s
  else s

/-- The chain listens for the server's push pipe and asks for its own pipe. -/
def listened : Session :=
  if s.chain = .made then s.control (.pipes false false) else s

def pushPipe : Session :=
  if s.receives then
    match s.chain with
    | .pipes false false => { s with chain := .pipes true false }
    | .pipes false true => s.request .establish
    | _ => s
  else s

def elapsed : Session := if s.chain = .failing then s.rejected else s

def addClose (call : CloseCall) : Session :=
  { s with closeCalls := s.closeCalls ++ [call] }

def close : Session :=
  if s.readyState = .closed then s.addClose ⟨some .timer, 0⟩
  else if s.amtpClient then
    if s.amtp = .open then { s with amtp := .closing }.addClose ⟨some (.amtp s.sends), 0⟩
    else s.addClose ⟨some .timer, 0⟩
  else { s with escaped := true }.addClose ⟨none, 0⟩

def setClose (index : Nat) (call : CloseCall) : Session :=
  { s with closeCalls := s.closeCalls.set index call }

def closeAnswered (index : Nat) (accepts : Bool) : Session :=
  match s.closeCalls[index]? with
  | some ⟨some (.amtp true), calls⟩ =>
    if s.receives then
      if accepts then
        if s.socket then
          { s with amtp := .closed }.closeSocket.setClose index ⟨some .socket, calls⟩
        else { s with amtp := .closed, escaped := true }.setClose index ⟨none, calls⟩
      else s.setClose index ⟨none, calls + 1⟩
    else s
  | _ => s

def closeElapsed (index : Nat) : Session :=
  match s.closeCalls[index]? with
  | some ⟨some .timer, calls⟩ => s.setClose index ⟨none, calls + 1⟩
  | _ => s

end Session

inductive Action where
  | socketOpened
  | socketReopening
  | socketClosed
  | answered (accepts : Bool)
  | listened
  | pushPipe
  | elapsed
  | close
  | closeAnswered (close : Nat) (accepts : Bool)
  | closeElapsed (close : Nat)

open Session

variable (s : Session)

def step : Action → Session
  | .socketOpened => s.socketOpened
  | .socketReopening => s.socketReopening
  | .socketClosed => s.socketClosed
  | .answered accepts => s.answered accepts
  | .listened => s.listened
  | .pushPipe => s.pushPipe
  | .elapsed => s.elapsed
  | .close => s.close
  | .closeAnswered index accepts => s.closeAnswered index accepts
  | .closeElapsed index => s.closeElapsed index

/-- The session was established, and validated where it is to be. -/
def Succeeded : Prop :=
  s.established = true ∧ (s.validationData = true → s.validated = true)

def Quiet : Prop :=
  s.chain ≠ .failing ∧ ∀ call ∈ s.closeCalls, call.awaits ≠ some .timer

/-- What has been called when the socket is closed and the timers are over. -/
structure CalledBack (s : Session) : Prop where
  opened : s.socketState = .closed → Quiet s → s.openCalls.length = 1
  success : s.socketState = .closed → Quiet s → (s.openCalls = [true] ↔ Succeeded s)
  closed : s.socketState = .closed → Quiet s → ∀ call ∈ s.closeCalls, call.calls = 1
  escaped : s.escaped = false

def NoneAwaits : Prop :=
  ∀ call ∈ s.closeCalls, call.awaits ≠ some (.amtp true) ∧ call.awaits ≠ some (.amtp false)

/-- The socket closes when the chain has ended and no AMTP close is awaited; `close` is called
when there is an AMTP client, or the session is closed. -/
def Permitted : Action → Prop
  | .socketClosed => s.chain = .ended ∧ NoneAwaits s
  | .close => s.readyState = .closed ∨ s.amtpClient = true
  | _ => True

instance (s : Session) : Decidable (NoneAwaits s) :=
  inferInstanceAs (Decidable (∀ call ∈ s.closeCalls, _ ∧ _))

instance (s : Session) : DecidablePred (Permitted s)
  | .socketClosed => inferInstanceAs (Decidable (_ ∧ _))
  | .close => inferInstanceAs (Decidable (_ ∨ _))
  | .socketOpened | .socketReopening | .answered _ | .listened | .pushPipe | .elapsed
  | .closeAnswered _ _ | .closeElapsed _ => isTrue trivial

def Counted (call : CloseCall) : Prop := call.calls = if call.awaits = none then 1 else 0

structure Pending (s : Session) : Prop where
  throws : s.throws = false
  escaped : s.escaped = false
  socket : s.socket = true
  unclosed : s.socketState ≠ .closed
  openCalls : s.openCalls = []
  unsucceeded : ¬ Succeeded s
  unvalidated : s.validated = false
  counted : ∀ call ∈ s.closeCalls, Counted call

structure Inv (s : Session) : Prop where
  throws : s.throws = false
  escaped : s.escaped = false
  socket : s.socketState ≠ .closed → s.socket = true
  counted : ∀ call ∈ s.closeCalls, Counted call
  pending : s.chain ≠ .ended → Pending s
  established : s.chain = .validate → s.established = true
  ended : s.chain = .ended → s.openCalls.length = 1 ∧ (s.openCalls = [true] ↔ Succeeded s)
  closed : s.socketState = .closed → s.readyState = .closed ∧ s.chain = .ended ∧
    ∀ call ∈ s.closeCalls, call.awaits = none ∨ call.awaits = some .timer

variable {s : Session}

theorem calledBack_of_inv (inv : Inv s) : CalledBack s := by
  refine ⟨fun closed _ => ?_, fun closed _ => ?_, fun closed quiet call there => ?_, inv.escaped⟩
  · exact (inv.ended (inv.closed closed).2.1).1
  · exact (inv.ended (inv.closed closed).2.1).2
  · have counted := inv.counted call there
    unfold Counted at counted
    rcases (inv.closed closed).2.2 call there with none | timer
    · rw [counted, none]
      rfl
    · exact absurd timer (quiet.2 call there)

theorem inv_of_pending (pending : Pending s) (unended : s.chain ≠ .ended)
    (established : s.chain = .validate → s.established = true) : Inv s where
  throws := pending.throws
  escaped := pending.escaped
  socket _ := pending.socket
  counted := pending.counted
  pending _ := pending
  established := established
  ended ended := absurd ended unended
  closed closed := absurd closed pending.unclosed

theorem Pending.of_same (pending : Pending s) (amtp : Amtp) (amtpClient sent : Bool)
    (chain : Chain) :
    Pending { s with amtp := amtp, amtpClient := amtpClient, sent := sent, chain := chain } :=
  ⟨pending.throws, pending.escaped, pending.socket, pending.unclosed, pending.openCalls,
    pending.unsucceeded, pending.unvalidated, pending.counted⟩

theorem closeSocket_unclosed (unclosed : s.socketState ≠ .closed) :
    s.closeSocket = { s with socketState := .closing } := by
  unfold closeSocket
  rw [if_neg unclosed]

theorem inv_rejected (pending : Pending s) : Inv s.rejected := by
  unfold rejected
  rw [if_pos pending.socket, closeSocket_unclosed pending.unclosed, pending.openCalls]
  refine ⟨pending.throws, pending.escaped, fun _ => pending.socket, pending.counted,
    fun unended => absurd rfl unended, ?_, ?_, ?_⟩
  · intro validate
    cases validate
  · refine fun _ => ⟨rfl, ?_⟩
    constructor
    · intro success
      cases success
    · intro succeeded
      exact absurd succeeded pending.unsucceeded
  · intro closed
    cases closed

theorem inv_done (throws : s.throws = false) (escaped : s.escaped = false)
    (socket : s.socket = true) (unclosed : s.socketState ≠ .closed) (none : s.openCalls = [])
    (counted : ∀ call ∈ s.closeCalls, Counted call) (succeeded : Succeeded s) : Inv s.done := by
  unfold done
  dsimp only
  rw [if_pos socket, if_neg (by simp [throws])]
  refine ⟨throws, escaped, fun _ => socket, counted, fun unended => absurd rfl unended, ?_, ?_, ?_⟩
  · intro validate
    cases validate
  · dsimp only
    rw [none]
    exact fun _ => ⟨rfl, fun _ => succeeded, fun _ => rfl⟩
  · intro closed
    exact absurd closed unclosed

theorem inv_request (pending : Pending s) {chain : Chain} (unended : chain ≠ .ended)
    (established : chain = .validate → s.established = true) : Inv (s.request chain) := by
  unfold request
  split
  · exact inv_of_pending (pending.of_same s.amtp s.amtpClient s.sends chain) unended established
  · exact inv_rejected pending

theorem inv_control (pending : Pending s) {chain : Chain} (unended : chain ≠ .ended)
    (unvalidated : chain ≠ .validate) : Inv (s.control chain) := by
  unfold Session.control
  split
  · apply inv_of_pending (pending.of_same s.amtp s.amtpClient s.sends chain) unended
    exact fun validate => absurd validate unvalidated
  · apply inv_of_pending (pending.of_same s.amtp s.amtpClient s.sent .failing)
    · simp
    · intro validate
      cases validate

theorem inv_establish (pending : Pending s) : Inv s.establish := by
  unfold establish
  rw [if_pos pending.socket]
  dsimp only
  split
  · rename_i validates
    have unsucceeded : ¬ Succeeded { s with established := true, readyState := .open } := by
      rintro ⟨_, validated⟩
      have isValidated := validated validates
      rw [pending.unvalidated] at isValidated
      cases isValidated
    exact @inv_request { s with established := true, readyState := .open }
      ⟨pending.throws, pending.escaped, pending.socket, pending.unclosed, pending.openCalls,
        unsucceeded, pending.unvalidated, pending.counted⟩ .validate (by simp) fun _ => rfl
  · rename_i unasked
    exact inv_done pending.throws pending.escaped pending.socket pending.unclosed
      pending.openCalls pending.counted ⟨rfl, fun asked => absurd asked unasked⟩

theorem inv_answered (inv : Inv s) (accepts : Bool) : Inv (s.answered accepts) := by
  unfold answered
  split
  · have same (unended : s.chain ≠ .ended) : Pending { s with sent := false } :=
      (inv.pending unended).of_same s.amtp s.amtpClient false s.chain
    have inert : Inv { s with sent := false } :=
      ⟨inv.throws, inv.escaped, inv.socket, inv.counted, fun unended => same unended,
        inv.established, inv.ended, inv.closed⟩
    dsimp only
    split
    · rename_i chain
      have pending := same (by simp [chain])
      split
      · refine inv_control (pending.of_same .open true false s.chain) ?_ ?_ <;> simp
      · exact inv_rejected pending
    · rename_i chain
      have pending := same (by simp [chain])
      split
      · apply inv_of_pending (pending.of_same s.amtp s.amtpClient false .made) <;> simp
      · exact inv_rejected pending
    · rename_i push chain
      have pending := same (by simp [chain])
      split
      · split
        · apply inv_request pending <;> simp
        · apply inv_of_pending (pending.of_same s.amtp s.amtpClient false _) <;> simp
      · exact inv_rejected pending
    · rename_i chain
      have pending := same (by simp [chain])
      split
      · split
        · exact inv_establish pending
        · exact inv_rejected pending
      · exact inert
    · rename_i chain
      have pending := same (by simp [chain])
      split
      · split
        · exact inv_done pending.throws pending.escaped pending.socket pending.unclosed
            pending.openCalls pending.counted ⟨inv.established chain, fun _ => rfl⟩
        · exact inv_rejected pending
      · exact inert
    all_goals exact inert
  · exact inv

theorem inv_listened (inv : Inv s) : Inv s.listened := by
  unfold listened
  split
  · rename_i made
    apply inv_control (inv.pending (by simp [made])) <;> simp
  · exact inv

theorem inv_pushPipe (inv : Inv s) : Inv s.pushPipe := by
  unfold pushPipe
  split
  · split
    · rename_i chain
      have pending := inv.pending (by simp [chain])
      apply inv_of_pending (pending.of_same s.amtp s.amtpClient s.sent _) <;> simp
    · rename_i chain
      apply inv_request (inv.pending (by simp [chain])) <;> simp
    · exact inv
  · exact inv

theorem inv_elapsed (inv : Inv s) : Inv s.elapsed := by
  unfold elapsed
  split
  · rename_i failing
    exact inv_rejected (inv.pending (by simp [failing]))
  · exact inv

theorem Inv.of_socketState (inv : Inv s) (socketState : SocketState)
    (unclosed : socketState ≠ .closed) (before : s.socketState ≠ .closed) :
    Inv { s with socketState := socketState } := by
  refine ⟨inv.throws, inv.escaped, fun _ => inv.socket before, inv.counted, fun unended => ?_,
    inv.established, inv.ended, fun closed => absurd closed unclosed⟩
  have pending := inv.pending unended
  exact ⟨pending.throws, pending.escaped, pending.socket, unclosed, pending.openCalls,
    pending.unsucceeded, pending.unvalidated, pending.counted⟩

theorem inv_socketOpened (inv : Inv s) : Inv s.socketOpened := by
  unfold socketOpened
  split
  · rename_i before
    have opened : Inv { s with socketState := .open } := by
      apply inv.of_socketState
      · simp
      · rcases before with before | before <;> simp [before]
    dsimp only
    split
    · rename_i chain
      have pending := opened.pending (by simp [chain])
      apply inv_of_pending (pending.of_same .opening s.amtpClient true .amtp) <;> simp
    · exact opened
  · exact inv

theorem inv_socketReopening (inv : Inv s) : Inv s.socketReopening := by
  unfold socketReopening
  split
  · rename_i before
    apply inv.of_socketState <;> simp [before]
  · exact inv

theorem counted_socketClosed {call : CloseCall} (counted : Counted call) :
    Counted call.socketClosed := by
  obtain ⟨awaits, calls⟩ := call
  unfold Counted at counted
  unfold Counted CloseCall.socketClosed
  dsimp only at counted
  cases awaits with
  | none => exact counted
  | some awaits =>
    cases awaits with
    | socket => simpa using counted
    | timer | amtp sent => exact counted

section

variable (inv : Inv s)
include inv

theorem inv_socketClosed (ended : s.chain = .ended) (none : NoneAwaits s) : Inv s.socketClosed := by
  unfold socketClosed
  split
  · exact inv
  · refine ⟨inv.throws, inv.escaped, ?_, ?_, ?_, ?_, inv.ended, ?_⟩
    · intro unclosed
      exact absurd rfl unclosed
    · intro call there
      obtain ⟨before, isThere, rfl⟩ := mem_map.mp there
      exact counted_socketClosed (inv.counted before isThere)
    · intro unended
      exact absurd ended unended
    · intro validate
      change s.chain = .validate at validate
      rw [ended] at validate
      cases validate
    · refine fun _ => ⟨rfl, ended, ?_⟩
      intro call there
      obtain ⟨before, isThere, rfl⟩ := mem_map.mp there
      have unawaited := none before isThere
      obtain ⟨awaits, calls⟩ := before
      unfold CloseCall.socketClosed
      dsimp only at unawaited ⊢
      cases awaits with
      | none => exact .inl rfl
      | some awaits =>
        cases awaits with
        | socket => exact .inl rfl
        | timer => exact .inr rfl
        | amtp sent => cases sent <;> simp at unawaited

theorem Inv.of_closeCalls {amtp : Amtp} {closeCalls : List CloseCall}
    (counted : ∀ call ∈ closeCalls, Counted call)
    (closed : s.socketState = .closed → ∀ call ∈ closeCalls, call.awaits = none ∨
      call.awaits = some .timer) :
    Inv { s with amtp := amtp, closeCalls := closeCalls } := by
  refine ⟨inv.throws, inv.escaped, inv.socket, counted, fun unended => ?_, inv.established,
    inv.ended, fun isClosed => ?_⟩
  · have pending := inv.pending unended
    exact ⟨pending.throws, pending.escaped, pending.socket, pending.unclosed, pending.openCalls,
      pending.unsucceeded, pending.unvalidated, counted⟩
  · exact ⟨(inv.closed isClosed).1, (inv.closed isClosed).2.1, closed isClosed⟩

theorem inv_addClose {amtp : Amtp} {call : CloseCall} (counted : Counted call)
    (closed : s.socketState = .closed → call.awaits = none ∨ call.awaits = some .timer) :
    Inv ({ s with amtp := amtp }.addClose call) := by
  refine inv.of_closeCalls ?_ ?_
  · intro other there
    rcases mem_append.mp there with old | new
    · exact inv.counted other old
    · rwa [mem_singleton.mp new]
  · intro isClosed other there
    rcases mem_append.mp there with old | new
    · exact (inv.closed isClosed).2.2 other old
    · rw [mem_singleton.mp new]
      exact closed isClosed

theorem inv_setClose {amtp : Amtp} (index : Nat) {call : CloseCall} (counted : Counted call)
    (closed : s.socketState = .closed → call.awaits = none ∨ call.awaits = some .timer) :
    Inv ({ s with amtp := amtp }.setClose index call) := by
  refine inv.of_closeCalls ?_ ?_
  · intro other there
    rcases mem_or_eq_of_mem_set there with old | new
    · exact inv.counted other old
    · rwa [new]
  · intro isClosed other there
    rcases mem_or_eq_of_mem_set there with old | new
    · exact (inv.closed isClosed).2.2 other old
    · rw [new]
      exact closed isClosed

theorem inv_close (permitted : s.readyState = .closed ∨ s.amtpClient = true) : Inv s.close := by
  unfold Session.close
  split
  · exact inv_addClose inv rfl fun _ => .inr rfl
  · rename_i unclosed
    split
    · split
      · refine inv_addClose inv rfl fun isClosed => ?_
        exact absurd (inv.closed isClosed).1 unclosed
      · exact inv_addClose inv rfl fun _ => .inr rfl
    · rename_i none
      rcases permitted with closed | some
      · exact absurd closed unclosed
      · exact absurd some none

theorem uncalled {index calls : Nat} {awaits : Awaits}
    (there : s.closeCalls[index]? = some ⟨some awaits, calls⟩) : calls = 0 :=
  inv.counted _ (mem_of_getElem? there)

theorem inv_closeAnswered (index : Nat) (accepts : Bool) : Inv (s.closeAnswered index accepts) := by
  unfold closeAnswered
  split
  · rename_i calls there
    have none := uncalled inv there
    subst none
    have unclosed : s.socketState ≠ .closed := by
      intro closed
      have awaits := (inv.closed closed).2.2 _ (mem_of_getElem? there)
      simp at awaits
    split
    · split
      · rw [if_pos (inv.socket unclosed)]
        have closes := inv.of_socketState .closing (by simp) unclosed
        unfold closeSocket
        rw [if_neg (by exact unclosed)]
        exact inv_setClose closes index rfl fun isClosed => by cases isClosed
      · exact inv_setClose inv index rfl fun _ => .inl rfl
    · exact inv
  · exact inv

theorem inv_closeElapsed (index : Nat) : Inv (s.closeElapsed index) := by
  unfold closeElapsed
  split
  · rename_i calls there
    have none := uncalled inv there
    subst none
    exact inv_setClose inv index rfl fun _ => .inl rfl
  · exact inv

end

theorem inv_step (s : Session) (action : Action) (inv : Inv s) (permitted : Permitted s action) :
    Inv (step s action) := by
  cases action with
  | socketOpened => exact inv_socketOpened inv
  | socketReopening => exact inv_socketReopening inv
  | socketClosed => exact inv_socketClosed inv permitted.1 permitted.2
  | answered accepts => exact inv_answered inv accepts
  | listened => exact inv_listened inv
  | pushPipe => exact inv_pushPipe inv
  | elapsed => exact inv_elapsed inv
  | close => exact inv_close inv permitted
  | closeAnswered index accepts => exact inv_closeAnswered inv index accepts
  | closeElapsed index => exact inv_closeElapsed inv index

theorem inv_new (validationData : Bool) : Inv (new validationData false) := by
  apply inv_of_pending
  · constructor <;> simp [new, Succeeded]
  · simp [new]
  · simp [new]

/-- Each callback is called once, if the socket closes after the chain of `open` and after the
AMTP close of each call of `close`, and `close` finds an AMTP client or a closed session. -/
theorem calledBack_of_permitted (validationData throws : Bool) (silent : throws = false)
    (actions : List Action) (run : Run.Allowed step Permitted (new validationData throws) actions) :
    CalledBack (Run.final step (new validationData throws) actions) := by
  subst silent
  exact calledBack_of_inv (Run.invariant inv_step _ actions (inv_new validationData) run)

def closedTwice : List Action :=
  [.socketOpened, .answered true, .answered true, .listened, .pushPipe, .answered true,
    .answered true, .answered true, .close, .close, .closeElapsed 1, .closeAnswered 0 true,
    .socketClosed]

theorem calledBack_of_permitted_closedTwice :
    CalledBack (Run.final step (new true false) closedTwice) :=
  calledBack_of_permitted true false rfl closedTwice (by decide)

def lost : List Action := [.socketOpened, .socketClosed]

/-- It is lost while a call of `close` awaits the answer. -/
def lostClosing : List Action :=
  [.socketOpened, .answered true, .answered true, .listened, .pushPipe, .answered true,
    .answered true, .close, .socketClosed]

/-- The callback of `open` is never called; that of `close` is not; an exception escapes where
`close` is called too early; a callback that throws is called twice. -/
theorem lost_uncalled : (¬ ∀ (validationData throws : Bool) (actions : List Action),
        CalledBack (Run.final step (new validationData throws) actions)) ∧
      ¬ CalledBack (Run.final step (new true false) lost) ∧
      ¬ CalledBack (Run.final step (new false false) lostClosing) ∧
      ¬ CalledBack (Run.final step (new false false) [.close]) ∧
      ¬ CalledBack (Run.final step (new false true) (lostClosing.take 7 ++ [.socketClosed])) := by
  have uncalled : ¬ CalledBack (Run.final step (new true false) lost) := by
    intro called
    have once := called.opened rfl ⟨by decide, by decide⟩
    revert once
    decide
  refine ⟨fun claimed => uncalled (claimed true false lost), uncalled, ?_, ?_, ?_⟩
  · intro called
    have once := called.closed rfl ⟨by decide, by decide⟩ ⟨some (.amtp true), 0⟩ (by decide)
    cases once
  · intro called
    have escaped := called.escaped
    revert escaped
    decide
  · intro called
    have once := called.opened rfl ⟨by decide, by decide⟩
    revert once
    decide

end SessionCallbacks
end AkashicSystem.PlaylogClient
