import Mathlib.Logic.Function.Basic
import Mathlib.Tactic.ByContra
import AkashicSystem.Lib.Run

/-!
# The socket of the client

`WSSocket` keeps one WebSocket at a time and makes another when it is lost.  Its handlers
do not know which WebSocket calls them: those that are not wanted any more are taken off.
WebSockets and timers are known by number.
-/

set_option autoImplicit false

namespace AkashicSystem.PlaylogClient
namespace Sockets

open Function (update update_of_ne update_self)

inductive ReadyState where
  | close
  | closing
  | open
  | opening
  | reopening
deriving DecidableEq

/-- The `readyState` of a WebSocket. -/
inductive Link where
  | uncreated
  | connecting
  | opened
  | closing
  /-- It is `CLOSED`, and its close event has still to come. -/
  | failed
  | closed
deriving DecidableEq

def Link.isLive : Link → Bool
  | .connecting | .opened => true
  | .uncreated | .closing | .failed | .closed => false

def Link.isClosed : Link → Bool
  | .failed | .closed => true
  | .uncreated | .connecting | .opened | .closing => false

inductive Timer where
  | connectTimeout
  | reconnect

inductive Event where
  | open
  | close
  | reopening
  | error
deriving DecidableEq

structure WSSocket where
  reconnectMaxRetry : Option Nat
  readyState : ReadyState
  forcedClose : Bool
  socket : Option Nat
  reconnectRetry : Nat
  connectTimeoutTimer : Option Nat
  reconnectTimer : Option Nat
  timers : Nat → Option Timer
  links : Nat → Link
  attached : Nat → Bool
  /-- The numbers of the next WebSocket and the next timer. -/
  created : Nat
  timersSet : Nat
  reopened : Nat
  emitted : List Event

namespace WSSocket

def new (reconnectMaxRetry : Option Nat) : WSSocket where
  reconnectMaxRetry := reconnectMaxRetry
  readyState := .close
  forcedClose := false
  socket := none
  reconnectRetry := 0
  connectTimeoutTimer := none
  reconnectTimer := none
  timers := fun _ => none
  links := fun _ => .uncreated
  attached := fun _ => false
  created := 0
  timersSet := 0
  reopened := 0
  emitted := []

variable (s : WSSocket)

/-- `_reconnectMaxRetry`; an option of zero counts as none. -/
def maxRetry : Nat :=
  match s.reconnectMaxRetry with
  | none | some 0 => 3
  | some max => max

def emit (event : Event) : WSSocket :=
  { s with emitted := s.emitted ++ [event] }

def clearTimeout (timers : Nat → Option Timer) : Option Nat → Nat → Option Timer
  | some id => update timers id none
  | none => timers

def openSocket : WSSocket :=
  { s with
    socket := some s.created
    links := update s.links s.created .connecting
    attached := update s.attached s.created true
    created := s.created + 1
    connectTimeoutTimer := some s.timersSet
    timers := update s.timers s.timersSet (some .connectTimeout)
    timersSet := s.timersSet + 1 }

def «open» : WSSocket := { s with readyState := .opening }.openSocket

def cleanupListeners : WSSocket :=
  match s.socket with
  | some c => { s with attached := update s.attached c false }
  | none => s

def closeLink : WSSocket :=
  match s.socket with
  | some c =>
    if (s.links c).isLive then { s with links := update s.links c .closing } else s
  | none => s

def socketClosed : Bool := s.socket.any fun c => (s.links c).isClosed

def closeSocket : WSSocket :=
  if s.readyState = .closing ∨ s.readyState = .close then s
  else
    let cleared := { s with
      readyState := .closing
      timers := clearTimeout (clearTimeout s.timers s.reconnectTimer) s.connectTimeoutTimer }
    if s.readyState = .reopening ∧ s.socketClosed then (cleared.emit .close).cleanupListeners
    else cleared.closeLink

def close : WSSocket := { s with forcedClose := true }.closeSocket

def onOpen : WSSocket :=
  { s with
    timers := clearTimeout s.timers s.connectTimeoutTimer
    readyState := .open
    reconnectRetry := 0
    reopened := 0 }.emit .open

/-- `_reopen`; a listener of `reopening` may call `close`. -/
def reopen (closes : Bool) : WSSocket :=
  let s := { s with readyState := .reopening }
  let s :=
    if s.reconnectRetry = 0 then
      if closes then (s.emit .reopening).close else s.emit .reopening
    else s
  { s with
    reconnectRetry := s.reconnectRetry + 1
    reconnectTimer := some s.timersSet
    timers := update s.timers s.timersSet (some .reconnect)
    timersSet := s.timersSet + 1 }

def onClose (closes : Bool) : WSSocket :=
  let s := { s with timers := clearTimeout s.timers s.connectTimeoutTimer }
  if s.forcedClose = false ∧ (s.readyState = .open ∨ s.readyState = .reopening) then
    if s.reconnectRetry < s.maxRetry then s.cleanupListeners.reopen closes
    else ({ s with readyState := .close }.emit .close).cleanupListeners.emit .error
  else ({ s with readyState := .close }.emit .close).cleanupListeners

def onError (closes : Bool) : WSSocket :=
  if s.readyState = .opening ∨ s.readyState = .reopening then s.onClose closes
  else s.emit .error

def opened (s : WSSocket) (c : Nat) : WSSocket :=
  if s.links c = .connecting then
    let s := { s with links := update s.links c .opened }
    if s.attached c then s.onOpen else s
  else s

/-- A WebSocket emits `error`, when it is `CLOSED` or goes to be. -/
def failed (s : WSSocket) (c : Nat) (isClosed closes : Bool) : WSSocket :=
  if (s.links c).isLive ∨ s.links c = .closing then
    let s := { s with links := update s.links c (if isClosed then .failed else .closing) }
    if s.attached c then s.onError closes else s
  else s

def closed (s : WSSocket) (c : Nat) (closes : Bool) : WSSocket :=
  if s.links c = .uncreated ∨ s.links c = .closed then s
  else
    let s := { s with links := update s.links c .closed }
    if s.attached c then s.onClose closes else s

def elapsed (s : WSSocket) (id : Nat) : WSSocket :=
  let elapsed := { s with timers := update s.timers id none }
  match s.timers id with
  | some .connectTimeout => elapsed.close.emit .error
  | some .reconnect => { elapsed.openSocket with reopened := s.reopened + 1 }
  | none => s

end WSSocket

inductive Action where
  | open
  | close
  | opened (socket : Nat)
  | failed (socket : Nat) (isClosed closes : Bool)
  | closed (socket : Nat) (closes : Bool)
  | elapsed (timer : Nat)

open WSSocket

def step (s : WSSocket) : Action → WSSocket
  | .open => s.open
  | .close => s.close
  | .opened c => s.opened c
  | .failed c isClosed closes => s.failed c isClosed closes
  | .closed c closes => s.closed c closes
  | .elapsed id => s.elapsed id

/-- `close` once, and neither `open` nor `reopening` after it. -/
def ClosedOnce (emitted : List Event) : Prop :=
  ∃ front back, emitted = front ++ [Event.close] ++ back ∧ Event.close ∉ front ∧
    ∀ event ∈ back, event = .error

structure Orderly (s : WSSocket) : Prop where
  one : ∀ c d, s.attached c = true → s.attached d = true → c = d
  live : ∀ c, (s.links c).isLive = true → s.attached c = true
  retries : s.reopened ≤ s.reconnectMaxRetry.getD 3
  closedOnce : Event.close ∈ s.emitted → ClosedOnce s.emitted
  /-- Nothing more can happen: every WebSocket is closed, and no timer is set. -/
  ends : s.created ≠ 0 → (∀ c < s.created, s.links c = .closed) →
    (∀ id < s.timersSet, s.timers id = none) → Event.close ∈ s.emitted

def CreatesNone (s : WSSocket) (action : Action) : Prop :=
  s.forcedClose = true → (step s action).created = s.created

/-- A socket is opened once and before it is closed; in the delay before another WebSocket it is
closed only when the one that was lost is `CLOSED`; no listener of `reopening` closes it. -/
def Permitted (s : WSSocket) : Action → Prop
  | .open => s.created = 0 ∧ s.forcedClose = false
  | .close => s.readyState = .reopening → ∀ c ∈ s.socket, s.attached c = false →
      (s.links c).isClosed = true
  | .failed _ _ closes => closes = false
  | .closed _ closes => closes = false
  | .opened _ | .elapsed _ => True

instance (s : WSSocket) : DecidablePred (Permitted s)
  | .open => inferInstanceAs (Decidable (_ ∧ _))
  | .close => inferInstanceAs (Decidable (s.readyState = .reopening → _))
  | .failed _ _ closes => inferInstanceAs (Decidable (closes = false))
  | .closed _ closes => inferInstanceAs (Decidable (closes = false))
  | .opened _ | .elapsed _ => isTrue trivial

structure On (s : WSSocket) (c : Nat) : Prop where
  socket : s.socket = some c
  attached : ∀ d, s.attached d = true ↔ d = c
  others : ∀ d, d ≠ c → (s.links d).isLive = false

structure Off (s : WSSocket) : Prop where
  attached : ∀ d, s.attached d = false
  dead : ∀ d, (s.links d).isLive = false

inductive Phase (s : WSSocket) : Prop where
  | fresh (state : s.readyState = .close) (created : s.created = 0)
      (idle : ∀ id, s.timers id = none) (unclosed : Event.close ∉ s.emitted)
  | attempting (c : Nat) (state : s.readyState = .opening ∨ s.readyState = .reopening)
      (on : On s c) (connecting : s.links c = .connecting)
      (timer : ∀ id timer, s.timers id = some timer →
        s.connectTimeoutTimer = some id ∧ timer = .connectTimeout)
      (unforced : s.forcedClose = false) (unclosed : Event.close ∉ s.emitted)
  | opened (c : Nat) (state : s.readyState = .open) (on : On s c)
      (link : s.links c = .opened ∨ s.links c = .closing ∨ s.links c = .failed)
      (idle : ∀ id, s.timers id = none)
      (unforced : s.forcedClose = false) (unclosed : Event.close ∉ s.emitted)
  | waiting (c id : Nat) (state : s.readyState = .reopening) (socket : s.socket = some c)
      (off : Off s) (handle : s.reconnectTimer = some id)
      (timer : ∀ i timer, s.timers i = some timer ↔ i = id ∧ timer = .reconnect)
      (unforced : s.forcedClose = false) (unclosed : Event.close ∉ s.emitted)
      (counted : s.reopened < s.reconnectRetry) (made : s.created ≠ 0)
  | closing (c : Nat) (state : s.readyState = .closing) (on : On s c)
      (link : s.links c = .closing ∨ s.links c = .failed)
      (idle : ∀ id, s.timers id = none) (unclosed : Event.close ∉ s.emitted)
  | ended (state : s.readyState = .closing ∨ s.readyState = .close) (off : Off s)
      (idle : ∀ id, s.timers id = none) (closed : ClosedOnce s.emitted) (created : s.created ≠ 0)

structure Inv (s : WSSocket) : Prop where
  phase : Phase s
  newSockets : ∀ c, s.created ≤ c → s.links c = .uncreated ∧ s.attached c = false
  newTimers : ∀ id, s.timersSet ≤ id → s.timers id = none
  retries : s.reopened ≤ s.reconnectRetry ∧ s.reconnectRetry ≤ s.maxRetry

variable {s : WSSocket} {emitted : List Event} {timers : Nat → Option Timer} {c : Nat}
  {link : Link}

theorem orderly_of_inv (given : s.reconnectMaxRetry ≠ some 0) (inv : Inv s) : Orderly s := by
  have retries : s.reopened ≤ s.reconnectMaxRetry.getD 3 := by
    have bound : s.maxRetry = s.reconnectMaxRetry.getD 3 := by
      unfold maxRetry
      split
      · next none => rw [none, Option.getD_none]
      · next zero => exact absurd zero given
      · next max _ isMax => rw [isMax, Option.getD_some]
    exact bound ▸ Nat.le_trans inv.retries.1 inv.retries.2
  have unopened (unclosed : Event.close ∉ s.emitted) (isThere : Event.close ∈ s.emitted) :
      ClosedOnce s.emitted := absurd isThere unclosed
  have isMade (c : Nat) (on : On s c) : c < s.created := by
    by_contra new
    have attached := (inv.newSockets c (by omega)).2
    rw [(on.attached c).mpr rfl] at attached
    cases attached
  have ofOn (c : Nat) (on : On s c) :
      (∀ c d, s.attached c = true → s.attached d = true → c = d) ∧
        ∀ d, (s.links d).isLive = true → s.attached d = true := by
    constructor
    · intro d e first second
      rw [(on.attached d).mp first, (on.attached e).mp second]
    · intro d live
      rw [on.attached]
      by_contra other
      rw [on.others d other] at live
      cases live
  have ofOff (off : Off s) :
      (∀ c d, s.attached c = true → s.attached d = true → c = d) ∧
        ∀ d, (s.links d).isLive = true → s.attached d = true := by
    constructor
    · intro d e first
      rw [off.attached d] at first
      cases first
    · intro d live
      rw [off.dead d] at live
      cases live
  cases inv.phase with
  | fresh _ created _ unclosed =>
    have off : Off s := by
      constructor
      · exact fun d => (inv.newSockets d (by omega)).2
      · intro d
        rw [(inv.newSockets d (by omega)).1]
        rfl
    exact ⟨(ofOff off).1, (ofOff off).2, retries, unopened unclosed, fun some =>
      absurd created some⟩
  | attempting c _ on connecting _ _ unclosed =>
    refine ⟨(ofOn c on).1, (ofOn c on).2, retries, unopened unclosed, fun _ closed => ?_⟩
    have link := closed c (isMade c on)
    simp [connecting] at link
  | opened c _ on link _ _ unclosed =>
    refine ⟨(ofOn c on).1, (ofOn c on).2, retries, unopened unclosed, fun _ closed => ?_⟩
    have isClosed := closed c (isMade c on)
    rcases link with link | link | link <;> simp [link] at isClosed
  | waiting c id _ _ off _ timer _ unclosed _ _ =>
    refine ⟨(ofOff off).1, (ofOff off).2, retries, unopened unclosed, fun _ _ none => ?_⟩
    have set := (timer id .reconnect).mpr ⟨rfl, rfl⟩
    by_cases old : id < s.timersSet
    · rw [none id old] at set
      cases set
    · rw [inv.newTimers id (by omega)] at set
      cases set
  | closing c _ on link _ unclosed =>
    refine ⟨(ofOn c on).1, (ofOn c on).2, retries, unopened unclosed, fun _ closed => ?_⟩
    have isClosed := closed c (isMade c on)
    rcases link with link | link <;> simp [link] at isClosed
  | ended _ off _ closed _ =>
    refine ⟨(ofOff off).1, (ofOff off).2, retries, fun _ => closed, fun _ _ _ => ?_⟩
    obtain ⟨front, back, emitted, _, _⟩ := closed
    rw [emitted]
    simp

theorem unclosed_emit {event : Event} (other : event ≠ .close) (unclosed : Event.close ∉ emitted) :
    Event.close ∉ emitted ++ [event] := by
  intro there
  rcases List.mem_append.mp there with before | now
  · exact unclosed before
  · exact other (List.mem_singleton.mp now).symm

theorem closedOnce_close (unclosed : Event.close ∉ emitted) :
    ClosedOnce (emitted ++ [Event.close]) :=
  ⟨emitted, [], by simp, unclosed, by simp⟩

theorem closedOnce_error (closed : ClosedOnce emitted) : ClosedOnce (emitted ++ [Event.error]) := by
  obtain ⟨front, back, split, before, after⟩ := closed
  refine ⟨front, back ++ [.error], ?_, before, ?_⟩
  · rw [split, List.append_assoc]
  · intro event there
    rcases List.mem_append.mp there with old | new
    · exact after event old
    · exact List.mem_singleton.mp new

theorem inv_emit_error (inv : Inv s) : Inv (s.emit .error) := by
  refine ⟨?_, inv.newSockets, inv.newTimers, inv.retries⟩
  cases inv.phase with
  | fresh state created idle unclosed =>
    exact .fresh state created idle (unclosed_emit (by simp) unclosed)
  | attempting c state on connecting timer unforced unclosed =>
    exact .attempting c state ⟨on.socket, on.attached, on.others⟩ connecting timer unforced
      (unclosed_emit (by simp) unclosed)
  | opened c state on link idle unforced unclosed =>
    exact .opened c state ⟨on.socket, on.attached, on.others⟩ link idle unforced
      (unclosed_emit (by simp) unclosed)
  | waiting c id state socket off handle timer unforced unclosed counted made =>
    exact .waiting c id state socket ⟨off.attached, off.dead⟩ handle timer unforced
      (unclosed_emit (by simp) unclosed) counted made
  | closing c state on link idle unclosed =>
    exact .closing c state ⟨on.socket, on.attached, on.others⟩ link idle
      (unclosed_emit (by simp) unclosed)
  | ended state off idle closed created =>
    exact .ended state ⟨off.attached, off.dead⟩ idle (closedOnce_error closed) created

theorem last_of_closedOnce (closed : ClosedOnce emitted) :
    emitted.getLast? = some .close ∨ emitted.getLast? = some .error := by
  obtain ⟨front, back, split, _, after⟩ := closed
  rw [split, List.getLast?_append]
  cases last : back.getLast? with
  | none => simp
  | some event =>
    right
    rw [after event (List.mem_of_getLast? last)]
    rfl

/-! ## A WebSocket is lost -/

theorem clearTimeout_none {handle : Option Nat}
    (held : ∀ id timer, timers id = some timer → handle = some id) (id : Nat) :
    clearTimeout timers handle id = none := by
  cases set : timers id with
  | none =>
    cases handle with
    | none => exact set
    | some other =>
      show update timers other none id = none
      by_cases same : id = other
      · rw [same, update_self]
      · rw [update_of_ne same, set]
  | some timer =>
    rw [held id timer set]
    exact update_self _ _ _

structure Lost (s : WSSocket) (c : Nat) : Prop where
  socket : s.socket = some c
  attached : ∀ d, d ≠ c → s.attached d = false
  dead : ∀ d, (s.links d).isLive = false
  timer : ∀ id timer, s.timers id = some timer → s.connectTimeoutTimer = some id
  unclosed : Event.close ∉ s.emitted
  newSockets : ∀ d, s.created ≤ d → s.links d = .uncreated ∧ s.attached d = false
  newTimers : ∀ id, s.timersSet ≤ id → s.timers id = none
  retries : s.reopened ≤ s.reconnectRetry ∧ s.reconnectRetry ≤ s.maxRetry
  old : c < s.created

theorem detached {attached : Nat → Bool} (others : ∀ d, d ≠ c → attached d = false) (d : Nat) :
    update attached c false d = false := by
  by_cases same : d = c
  · rw [same, update_self]
  · rw [update_of_ne same, others d same]

theorem update_none (idle : ∀ id, timers id = none) (id i : Nat) (set timer : Timer) :
    update timers id (some set) i = some timer ↔ i = id ∧ timer = set := by
  by_cases same : i = id
  · rw [same, update_self]
    simp [eq_comm]
  · rw [update_of_ne same, idle i]
    simp [same]

theorem inv_onClose (lost : Lost s c) : Inv (s.onClose false) := by
  obtain ⟨reconnectMaxRetry, readyState, forcedClose, socket, reconnectRetry, connectTimeoutTimer,
    reconnectTimer, timers, links, attached, created, timersSet, reopened, emitted⟩ := s
  obtain ⟨rfl, others, dead, timer, unclosed, newSockets, newTimers, retries, old⟩ := lost
  dsimp only at others dead timer unclosed newSockets newTimers retries old
  have idle := clearTimeout_none timer
  have off := detached others
  have newSockets' (d : Nat) (new : created ≤ d) :
      links d = .uncreated ∧ update attached c false d = false :=
    ⟨(newSockets d new).1, off d⟩
  have made : created ≠ 0 := Nat.ne_of_gt (Nat.lt_of_le_of_lt (Nat.zero_le c) old)
  unfold onClose
  dsimp only
  split
  · rename_i reconnects
    split
    · rename_i more
      have waits (emitted : List Event) (unclosed : Event.close ∉ emitted) :
          Inv ⟨reconnectMaxRetry, .reopening, forcedClose, some c, reconnectRetry + 1,
            connectTimeoutTimer, some timersSet,
            update (clearTimeout timers connectTimeoutTimer) timersSet (some .reconnect),
            links, update attached c false, created, timersSet + 1, reopened,
            emitted⟩ := by
        refine ⟨.waiting c timersSet rfl rfl ⟨off, dead⟩ rfl ?_ reconnects.1 unclosed ?_ made,
          newSockets', ?_, ?_⟩
        · exact fun i timer => update_none idle timersSet i .reconnect timer
        · exact Nat.lt_succ_of_le retries.1
        · intro id new
          dsimp only at new ⊢
          rw [update_of_ne (by omega)]
          exact idle id
        · exact ⟨Nat.le_succ_of_le retries.1, more⟩
      unfold reopen cleanupListeners
      dsimp only
      split
      · exact waits _ (unclosed_emit (by simp) unclosed)
      · exact waits _ unclosed
    · apply inv_emit_error
      refine ⟨.ended (.inr rfl) ⟨off, dead⟩ idle (closedOnce_close unclosed) made, newSockets', ?_,
        retries⟩
      exact fun id _ => idle id
  · refine ⟨.ended (.inr rfl) ⟨off, dead⟩ idle (closedOnce_close unclosed) made, newSockets', ?_,
      retries⟩
    exact fun id _ => idle id

theorem lost_of_attached (inv : Inv s) (attached : s.attached c = true)
    (dead : link.isLive = false) : Lost { s with links := update s.links c link } c := by
  have old : c < s.created := by
    by_contra new
    rw [(inv.newSockets c (by omega)).2] at attached
    cases attached
  have newSockets (d : Nat) (new : s.created ≤ d) :
      update s.links c link d = .uncreated ∧ s.attached d = false := by
    rw [update_of_ne (by omega)]
    exact inv.newSockets d new
  have fromOn (e : Nat) (on : On s e) (unclosed : Event.close ∉ s.emitted)
      (timer : ∀ id timer, s.timers id = some timer → s.connectTimeoutTimer = some id) :
      Lost { s with links := update s.links c link } c := by
    have same := (on.attached c).mp attached
    subst same
    refine ⟨on.socket, ?_, ?_, timer, unclosed, newSockets, inv.newTimers, inv.retries, old⟩
    · intro d other
      rw [Bool.eq_false_iff]
      exact fun isAttached => other ((on.attached d).mp isAttached)
    · intro d
      by_cases same : d = c
      · rw [same]
        dsimp only
        rw [update_self, dead]
      · dsimp only
        rw [update_of_ne same, on.others d same]
  cases inv.phase with
  | fresh _ created _ _ => omega
  | attempting e _ on _ timer _ unclosed =>
    exact fromOn e on unclosed fun id t set => (timer id t set).1
  | opened e _ on _ idle _ unclosed => exact fromOn e on unclosed (by simp [idle])
  | closing e _ on _ idle unclosed => exact fromOn e on unclosed (by simp [idle])
  | waiting _ _ _ _ off =>
    rw [off.attached c] at attached
    cases attached
  | ended _ off =>
    rw [off.attached c] at attached
    cases attached

theorem inv_unattached (inv : Inv s) (unattached : s.attached c = false)
    (old : s.links c ≠ .uncreated) (dead : link.isLive = false) :
    Inv { s with links := update s.links c link } := by
  have apart (e : Nat) (on : On s e) : e ≠ c := by
    intro same
    rw [← same, (on.attached e).mpr rfl] at unattached
    cases unattached
  have others (e : Nat) (on : On s e) :
      On { s with links := update s.links c link } e := by
    refine ⟨on.socket, on.attached, fun d other => ?_⟩
    dsimp only
    by_cases same : d = c
    · rw [same, update_self, dead]
    · rw [update_of_ne same, on.others d other]
  have none (off : Off s) : Off { s with links := update s.links c link } := by
    refine ⟨off.attached, fun d => ?_⟩
    dsimp only
    by_cases same : d = c
    · rw [same, update_self, dead]
    · rw [update_of_ne same, off.dead d]
  refine ⟨?_, ?_, inv.newTimers, inv.retries⟩
  · cases inv.phase with
    | fresh state created idle unclosed => exact .fresh state created idle unclosed
    | attempting e state on connecting timer unforced unclosed =>
      refine .attempting e state (others e on) ?_ timer unforced unclosed
      dsimp only
      rw [update_of_ne (apart e on), connecting]
    | opened e state on link idle unforced unclosed =>
      refine .opened e state (others e on) ?_ idle unforced unclosed
      dsimp only
      rw [update_of_ne (apart e on)]
      exact link
    | waiting e id state socket off handle timer unforced unclosed counted made =>
      exact .waiting e id state socket (none off) handle timer unforced unclosed counted made
    | closing e state on link idle unclosed =>
      refine .closing e state (others e on) ?_ idle unclosed
      dsimp only
      rw [update_of_ne (apart e on)]
      exact link
    | ended state off idle closed created => exact .ended state (none off) idle closed created
  · intro d new
    dsimp only
    rw [update_of_ne]
    · exact inv.newSockets d new
    · intro same
      rw [← same] at old
      exact old (inv.newSockets d new).1

theorem inv_closed (inv : Inv s) (c : Nat) : Inv (s.closed c false) := by
  unfold closed
  split
  · exact inv
  · rename_i alive
    dsimp only
    split
    · rename_i attached
      exact inv_onClose (lost_of_attached inv attached rfl)
    · rename_i unattached
      apply inv_unattached inv (Bool.eq_false_iff.mpr unattached) _ rfl
      exact fun uncreated => alive (.inl uncreated)

theorem inv_linkFails (inv : Inv s) (attached : s.attached c = true)
    (settled : ¬ (s.readyState = .opening ∨ s.readyState = .reopening))
    (ends : link = .closing ∨ link = .failed) :
    Inv { s with links := update s.links c link } := by
  have lost : Lost { s with links := update s.links c link } c := by
    apply lost_of_attached inv attached
    rcases ends with rfl | rfl <;> rfl
  have on (e : Nat) (on : On s e) :
      On { s with links := update s.links c link } c := by
    have same := (on.attached c).mp attached
    subst same
    exact ⟨on.socket, on.attached, fun d _ => lost.dead d⟩
  refine ⟨?_, lost.newSockets, inv.newTimers, inv.retries⟩
  cases inv.phase with
  | fresh _ created _ _ =>
    have old := lost.old
    dsimp only at old
    omega
  | attempting e state => exact absurd state settled
  | opened e state isOn _ idle unforced unclosed =>
    refine .opened c state (on e isOn) ?_ idle unforced unclosed
    dsimp only
    rw [update_self]
    exact .inr ends
  | closing e state isOn _ idle unclosed =>
    refine .closing c state (on e isOn) ?_ idle unclosed
    dsimp only
    rw [update_self]
    exact ends
  | waiting _ _ state => exact absurd (.inr state) settled
  | ended _ off =>
    rw [off.attached c] at attached
    cases attached

theorem inv_onError (inv : Inv s) (attached : s.attached c = true)
    (ends : link = .closing ∨ link = .failed) :
    Inv ({ s with links := update s.links c link }.onError false) := by
  unfold onError
  split
  · apply inv_onClose (lost_of_attached inv attached _)
    rcases ends with rfl | rfl <;> rfl
  · rename_i settled
    exact inv_emit_error (inv_linkFails inv attached settled ends)

theorem inv_failed (inv : Inv s) (c : Nat) (isClosed : Bool) : Inv (s.failed c isClosed false) := by
  unfold failed
  split
  · rename_i alive
    dsimp only
    by_cases attached : s.attached c = true
    · rw [if_pos attached]
      apply inv_onError inv attached
      cases isClosed <;> simp
    · rw [if_neg attached]
      apply inv_unattached inv (Bool.eq_false_iff.mpr attached)
      · intro uncreated
        rw [uncreated] at alive
        simp [Link.isLive] at alive
      · cases isClosed <;> rfl
  · exact inv

/-! ## What the client does, and the timers -/

theorem idle_of_uncreated (inv : Inv s) (created : s.created = 0) :
    (∀ id, s.timers id = none) ∧ Event.close ∉ s.emitted := by
  have unattached (c : Nat) (on : On s c) : False := by
    have attached := (on.attached c).mpr rfl
    rw [(inv.newSockets c (by omega)).2] at attached
    cases attached
  cases inv.phase with
  | fresh _ _ idle unclosed => exact ⟨idle, unclosed⟩
  | attempting c _ on => exact (unattached c on).elim
  | opened c _ on => exact (unattached c on).elim
  | closing c _ on => exact (unattached c on).elim
  | waiting _ _ _ _ _ _ _ _ _ _ made => exact absurd created made
  | ended _ _ _ _ made => exact absurd created made

theorem inv_openSocket (state : s.readyState = .opening ∨ s.readyState = .reopening) (off : Off s)
    (idle : ∀ id, s.timers id = none) (unforced : s.forcedClose = false)
    (unclosed : Event.close ∉ s.emitted)
    (newSockets : ∀ c, s.created ≤ c → s.links c = .uncreated ∧ s.attached c = false)
    (retries : s.reopened ≤ s.reconnectRetry ∧ s.reconnectRetry ≤ s.maxRetry) :
    Inv s.openSocket := by
  refine ⟨.attempting s.created state ⟨rfl, ?_, ?_⟩ (update_self _ _ _) ?_ unforced
    unclosed, ?_, ?_, retries⟩
  · intro d
    show update s.attached s.created true d = true ↔ d = s.created
    by_cases same : d = s.created
    · simp [same]
    · simp [same, off.attached d]
  · intro d other
    show (update s.links s.created .connecting d).isLive = false
    rw [update_of_ne other, off.dead d]
  · intro id timer set
    obtain ⟨itself, kind⟩ := (update_none idle s.timersSet id .connectTimeout timer).mp set
    exact ⟨congrArg some itself.symm, kind⟩
  · intro c new
    change s.created + 1 ≤ c at new
    show update s.links s.created .connecting c = .uncreated ∧
      update s.attached s.created true c = false
    rw [update_of_ne (by omega), update_of_ne (by omega)]
    exact newSockets c (by omega)
  · intro id new
    change s.timersSet + 1 ≤ id at new
    show update s.timers s.timersSet (some .connectTimeout) id = none
    rw [update_of_ne (by omega), idle id]

theorem inv_open (inv : Inv s) (created : s.created = 0) (unforced : s.forcedClose = false) :
    Inv s.open := by
  obtain ⟨idle, unclosed⟩ := idle_of_uncreated inv created
  have new (c : Nat) : s.links c = .uncreated ∧ s.attached c = false :=
    inv.newSockets c (by omega)
  have off : Off { s with readyState := .opening } := by
    refine ⟨fun c => (new c).2, fun c => ?_⟩
    dsimp only
    rw [(new c).1]
    rfl
  exact inv_openSocket (.inl rfl) off idle unforced unclosed inv.newSockets inv.retries

theorem inv_opened (inv : Inv s) (c : Nat) : Inv (s.opened c) := by
  unfold WSSocket.opened
  split
  · rename_i connecting
    have live : (s.links c).isLive = true := by
      rw [connecting]
      rfl
    have notOther (d : Nat) (on : On s d) : c = d := by
      by_contra other
      rw [on.others c other] at live
      cases live
    cases inv.phase with
    | fresh _ created _ _ =>
      rw [(inv.newSockets c (by omega)).1] at connecting
      cases connecting
    | attempting d state on _ timer unforced unclosed =>
      have same := notOther d on
      subst same
      dsimp only
      rw [if_pos ((on.attached c).mpr rfl)]
      have idle := clearTimeout_none fun id t set => (timer id t set).1
      refine ⟨.opened c rfl ⟨on.socket, on.attached, ?_⟩ (.inl (update_self _ _ _)) idle
        unforced (unclosed_emit (by simp) unclosed), ?_, fun id _ => idle id, ?_⟩
      · intro d other
        show (update s.links c .opened d).isLive = false
        rw [update_of_ne other, on.others d other]
      · intro d new
        show update s.links c .opened d = .uncreated ∧ s.attached d = false
        have fresh := inv.newSockets d new
        rw [update_of_ne]
        · exact fresh
        · intro same
          rw [same, (on.attached c).mpr rfl] at fresh
          cases fresh.2
      · exact ⟨Nat.le_refl 0, Nat.zero_le _⟩
    | opened d _ on link _ _ _ =>
      rw [← notOther d on, connecting] at link
      simp at link
    | closing d _ on link _ _ =>
      rw [← notOther d on, connecting] at link
      simp at link
    | waiting _ _ _ _ off =>
      rw [off.dead c] at live
      cases live
    | ended _ off =>
      rw [off.dead c] at live
      cases live
  · exact inv

theorem clearTimeout_some {handle : Option Nat} {id : Nat} {timer : Timer}
    (set : clearTimeout timers handle id = some timer) : timers id = some timer := by
  cases handle with
  | none => exact set
  | some other =>
    change update timers other none id = some timer at set
    by_cases same : id = other
    · rw [same, update_self] at set
      cases set
    · rwa [update_of_ne same] at set

theorem inv_closeLink (state : s.readyState = .closing) (on : On s c)
    (link : s.links c ≠ .uncreated ∧ s.links c ≠ .closed) (idle : ∀ id, s.timers id = none)
    (unclosed : Event.close ∉ s.emitted)
    (newSockets : ∀ c, s.created ≤ c → s.links c = .uncreated ∧ s.attached c = false)
    (newTimers : ∀ id, s.timersSet ≤ id → s.timers id = none)
    (retries : s.reopened ≤ s.reconnectRetry ∧ s.reconnectRetry ≤ s.maxRetry) :
    Inv s.closeLink := by
  obtain ⟨reconnectMaxRetry, readyState, forcedClose, socket, reconnectRetry, connectTimeoutTimer,
    reconnectTimer, timers, links, attached, created, timersSet, reopened, emitted⟩ := s
  obtain ⟨rfl, isAttached, others⟩ := on
  dsimp only at state isAttached others link idle unclosed newSockets newTimers retries
  unfold closeLink
  dsimp only
  split
  · refine ⟨.closing c state ⟨rfl, isAttached, ?_⟩ (.inl (update_self _ _ _)) idle unclosed,
      ?_, newTimers, retries⟩
    · intro d other
      show (update links c .closing d).isLive = false
      rw [update_of_ne other, others d other]
    · intro d new
      show update links c .closing d = .uncreated ∧ attached d = false
      rw [update_of_ne]
      · exact newSockets d new
      · intro same
        rw [← same] at link
        exact link.1 (newSockets d new).1
  · rename_i dead
    refine ⟨.closing c state ⟨rfl, isAttached, others⟩ ?_ idle unclosed, newSockets, newTimers,
      retries⟩
    show links c = .closing ∨ links c = .failed
    cases isLink : links c <;> simp [isLink, Link.isLive] at dead link ⊢

theorem cleared_none {first second : Option Nat}
    (held : ∀ id timer, timers id = some timer → second = some id) (id : Nat) :
    clearTimeout (clearTimeout timers first) second id = none := by
  apply clearTimeout_none
  exact fun id timer set => held id timer (clearTimeout_some set)

theorem inv_close (inv : Inv s) (permitted : Permitted s .close) : Inv s.close := by
  obtain ⟨phase, newSockets, newTimers, retries⟩ := inv
  unfold close closeSocket
  dsimp only
  cases phase with
  | fresh state created idle unclosed =>
    rw [if_pos (.inr state)]
    exact ⟨.fresh state created idle unclosed, newSockets, newTimers, retries⟩
  | attempting c state on connecting timer unforced unclosed =>
    have none : ∀ id, clearTimeout (clearTimeout s.timers s.reconnectTimer) s.connectTimeoutTimer
        id = none := cleared_none fun id t set => (timer id t set).1
    rw [if_neg (by rcases state with state | state <;> simp [state]), if_neg]
    · refine inv_closeLink rfl ⟨on.socket, on.attached, on.others⟩ ?_ none unclosed newSockets
        (fun id _ => none id) retries
      dsimp only
      rw [connecting]
      simp
    · rintro ⟨_, closed⟩
      unfold socketClosed at closed
      dsimp only at closed
      rw [on.socket] at closed
      simp [connecting, Link.isClosed] at closed
  | opened c state on link idle unforced unclosed =>
    have none : ∀ id, clearTimeout (clearTimeout s.timers s.reconnectTimer) s.connectTimeoutTimer
        id = none := cleared_none (by simp [idle])
    rw [if_neg (by simp [state]), if_neg (by simp [state])]
    refine inv_closeLink rfl ⟨on.socket, on.attached, on.others⟩ ?_ none unclosed newSockets
      (fun id _ => none id) retries
    dsimp only
    rcases link with link | link | link <;> simp [link]
  | waiting c id state socket off handle timer unforced unclosed _ made =>
    have closed := permitted state c socket (off.attached c)
    have none : ∀ id, clearTimeout (clearTimeout s.timers s.reconnectTimer) s.connectTimeoutTimer
        id = none := by
      intro i
      have first : ∀ i, clearTimeout s.timers s.reconnectTimer i = none := by
        apply clearTimeout_none
        intro i t set
        rw [handle, ((timer i t).mp set).1]
      exact clearTimeout_none (by simp [first]) i
    rw [if_neg (by simp [state]), if_pos]
    · unfold cleanupListeners emit
      dsimp only
      rw [socket]
      have off' : ∀ d, update s.attached c false d = false :=
        detached fun d _ => off.attached d
      refine ⟨.ended (.inl rfl) ⟨off', off.dead⟩ none (closedOnce_close unclosed) made, ?_,
        fun id _ => none id, retries⟩
      exact fun d new => ⟨(newSockets d new).1, off' d⟩
    · refine ⟨state, ?_⟩
      unfold socketClosed
      dsimp only
      rw [socket]
      simpa using closed
  | closing c state on link idle unclosed =>
    rw [if_pos (.inl state)]
    exact ⟨.closing c state ⟨on.socket, on.attached, on.others⟩ link idle unclosed, newSockets,
      newTimers, retries⟩
  | ended state off idle closed made =>
    rw [if_pos state]
    exact ⟨.ended state ⟨off.attached, off.dead⟩ idle closed made, newSockets, newTimers, retries⟩

theorem inv_elapsed (inv : Inv s) (id : Nat) : Inv (s.elapsed id) := by
  have unset (idle : ∀ id, s.timers id = none) : s.elapsed id = s := by
    unfold elapsed
    rw [idle id]
  have newTimers (i : Nat) (new : s.timersSet ≤ i) :
      update s.timers id none i = none := by
    by_cases same : i = id
    · rw [same, update_self]
    · rw [update_of_ne same, inv.newTimers i new]
  cases inv.phase with
  | fresh _ _ idle => rwa [unset idle]
  | opened _ _ _ _ idle => rwa [unset idle]
  | closing _ _ _ _ idle => rwa [unset idle]
  | ended _ _ idle => rwa [unset idle]
  | attempting c state on connecting timer unforced unclosed =>
    cases set : s.timers id with
    | none =>
      unfold elapsed
      rwa [set]
    | some kind =>
      obtain ⟨_, rfl⟩ := timer id kind set
      unfold elapsed
      rw [set]
      apply inv_emit_error
      apply inv_close
      · refine ⟨.attempting c state ⟨on.socket, on.attached, on.others⟩ connecting ?_ unforced
          unclosed, inv.newSockets, newTimers, inv.retries⟩
        exact fun i t set => timer i t (@clearTimeout_some s.timers (some id) i t set)
      · intro _ d current unattached
        dsimp only at current unattached
        rw [on.socket] at current
        cases current
        rw [(on.attached c).mpr rfl] at unattached
        cases unattached
  | waiting c itself state socket off handle timer unforced unclosed counted made =>
    cases set : s.timers id with
    | none =>
      unfold elapsed
      rwa [set]
    | some kind =>
      obtain ⟨rfl, rfl⟩ := (timer id kind).mp set
      have idle : ∀ i, update s.timers id none i = none := by
        apply @clearTimeout_none s.timers (some id)
        intro i t set
        rw [((timer i t).mp set).1]
      unfold elapsed
      rw [set]
      exact @inv_openSocket { s with
          timers := update s.timers id none, reopened := s.reopened + 1 }
        (.inr state) ⟨off.attached, off.dead⟩ idle unforced unclosed inv.newSockets
        ⟨counted, inv.retries.2⟩

theorem inv_step (s : WSSocket) (action : Action) (inv : Inv s) (permitted : Permitted s action) :
    Inv (step s action) := by
  cases action with
  | «open» => exact inv_open inv permitted.1 permitted.2
  | close => exact inv_close inv permitted
  | opened c => exact inv_opened inv c
  | elapsed id => exact inv_elapsed inv id
  | failed c isClosed closes =>
    cases permitted
    exact inv_failed inv c isClosed
  | closed c closes =>
    cases permitted
    exact inv_closed inv c

theorem inv_new (reconnectMaxRetry : Option Nat) : Inv (new reconnectMaxRetry) := by
  refine ⟨.fresh rfl rfl (fun _ => rfl) (by simp [new]), fun _ _ => ⟨rfl, rfl⟩, fun _ _ => rfl, ?_⟩
  exact ⟨Nat.le_refl 0, Nat.zero_le _⟩

/-! ## Which WebSockets are made -/

def MakesNone (s s' : WSSocket) : Prop :=
  s'.reconnectMaxRetry = s.reconnectMaxRetry ∧ s'.created = s.created

theorem MakesNone.trans {s' s'' : WSSocket} (first : MakesNone s s') (second : MakesNone s' s'') :
    MakesNone s s'' :=
  ⟨second.1.trans first.1, second.2.trans first.2⟩

theorem makesNone_cleanupListeners (s : WSSocket) : MakesNone s s.cleanupListeners := by
  unfold cleanupListeners
  split <;> exact ⟨rfl, rfl⟩

theorem makesNone_closeLink (s : WSSocket) : MakesNone s s.closeLink := by
  unfold closeLink
  split
  · split <;> exact ⟨rfl, rfl⟩
  · exact ⟨rfl, rfl⟩

theorem makesNone_close (s : WSSocket) : MakesNone s s.close := by
  unfold close closeSocket
  dsimp only
  split
  · exact ⟨rfl, rfl⟩
  · split
    · exact makesNone_cleanupListeners _
    · exact makesNone_closeLink _

theorem makesNone_reopen (s : WSSocket) (closes : Bool) : MakesNone s (s.reopen closes) := by
  unfold reopen
  dsimp only
  split
  · split
    · exact makesNone_close ({ s with readyState := .reopening }.emit .reopening)
    · exact ⟨rfl, rfl⟩
  · exact ⟨rfl, rfl⟩

theorem makesNone_onClose (s : WSSocket) (closes : Bool) : MakesNone s (s.onClose closes) := by
  unfold onClose
  dsimp only
  split
  · split
    · exact (makesNone_cleanupListeners { s with
          timers := clearTimeout s.timers s.connectTimeoutTimer }).trans (makesNone_reopen _ closes)
    · exact makesNone_cleanupListeners _
  · exact makesNone_cleanupListeners _

theorem makesNone_onError (s : WSSocket) (closes : Bool) : MakesNone s (s.onError closes) := by
  unfold onError
  split
  · exact makesNone_onClose s closes
  · exact ⟨rfl, rfl⟩

theorem makesNone_opened (s : WSSocket) (c : Nat) : MakesNone s (s.opened c) := by
  unfold WSSocket.opened
  split
  · dsimp only
    split <;> exact ⟨rfl, rfl⟩
  · exact ⟨rfl, rfl⟩

theorem makesNone_failed (s : WSSocket) (c : Nat) (isClosed closes : Bool) :
    MakesNone s (s.failed c isClosed closes) := by
  unfold failed
  split
  · dsimp only
    by_cases attached : s.attached c = true
    · rw [if_pos attached]
      exact makesNone_onError _ closes
    · rw [if_neg attached]
      exact ⟨rfl, rfl⟩
  · exact ⟨rfl, rfl⟩

theorem makesNone_closed (s : WSSocket) (c : Nat) (closes : Bool) :
    MakesNone s (s.closed c closes) := by
  unfold closed
  split
  · exact ⟨rfl, rfl⟩
  · dsimp only
    split
    · exact makesNone_onClose _ closes
    · exact ⟨rfl, rfl⟩

theorem step_reconnectMaxRetry (s : WSSocket) (action : Action) :
    (step s action).reconnectMaxRetry = s.reconnectMaxRetry := by
  cases action with
  | «open» => rfl
  | close => exact (makesNone_close s).1
  | opened c => exact (makesNone_opened s c).1
  | failed c isClosed closes => exact (makesNone_failed s c isClosed closes).1
  | closed c closes => exact (makesNone_closed s c closes).1
  | elapsed id =>
    show (s.elapsed id).reconnectMaxRetry = s.reconnectMaxRetry
    unfold elapsed
    split
    · exact (makesNone_close _).1
    · rfl
    · rfl

theorem createsNone_of_permitted (s : WSSocket) (action : Action) (inv : Inv s)
    (permitted : Permitted s action) : CreatesNone s action := by
  intro forced
  cases action with
  | «open» =>
    rw [permitted.2] at forced
    cases forced
  | close => exact (makesNone_close s).2
  | opened c => exact (makesNone_opened s c).2
  | failed c isClosed closes => exact (makesNone_failed s c isClosed closes).2
  | closed c closes => exact (makesNone_closed s c closes).2
  | elapsed id =>
    show (s.elapsed id).created = s.created
    unfold elapsed
    split
    · exact (makesNone_close _).2
    · rename_i set
      -- The timer of a reconnection is set only while the socket has not been closed.
      cases inv.phase with
      | fresh _ _ idle =>
        rw [idle id] at set
        cases set
      | attempting _ _ _ _ timer =>
        have kind := (timer id _ set).2
        cases kind
      | opened _ _ _ _ idle =>
        rw [idle id] at set
        cases set
      | closing _ _ _ _ idle =>
        rw [idle id] at set
        cases set
      | ended _ _ idle =>
        rw [idle id] at set
        cases set
      | waiting _ _ _ _ _ _ _ unforced =>
        rw [unforced] at forced
        cases forced
    · rfl

/-- The life cycle of a socket that is opened once. -/
theorem orderly_of_permitted (reconnectMaxRetry : Option Nat) (given : reconnectMaxRetry ≠ some 0)
    (actions : List Action) (run : Run.Allowed step Permitted (new reconnectMaxRetry) actions) :
    Orderly (Run.final step (new reconnectMaxRetry) actions) ∧
      Run.Allowed step CreatesNone (new reconnectMaxRetry) actions := by
  have start := inv_new reconnectMaxRetry
  have option := Run.stable (fun s action option => (step_reconnectMaxRetry s action).trans option)
    (new reconnectMaxRetry) actions (rfl : (new reconnectMaxRetry).reconnectMaxRetry = _)
  constructor
  · apply orderly_of_inv
    · rw [option]
      exact given
    · exact Run.invariant inv_step _ actions start run
  · exact Run.Allowed.of_invariant inv_step createsNone_of_permitted _ actions start run

/-- The WebSocket opens, is lost, is made again at the second try, opens, is lost, and is given
up after three tries. -/
def reconnected : List Action :=
  [.open, .opened 0, .failed 0 true false, .closed 0 false, .elapsed 1, .failed 1 true false,
    .closed 1 false, .elapsed 3, .opened 2, .closed 2 false, .elapsed 5, .closed 3 false,
    .elapsed 7, .closed 4 false, .elapsed 9, .closed 5 false]

theorem orderly_of_permitted_reconnected : Orderly (Run.final step (new none) reconnected) ∧
      Run.Allowed step CreatesNone (new none) reconnected :=
  orderly_of_permitted none (by simp) reconnected (by decide)

/-- The second WebSocket fails before it is `CLOSED`, and the socket is closed in the delay. -/
def closedBetween : List Action :=
  [.open, .opened 0, .closed 0 false, .elapsed 1, .failed 1 false false, .close, .closed 1 false]

/-- A listener of `reopening` closes the socket. -/
def closedWithin : List Action := [.open, .opened 0, .closed 0 true, .elapsed 1, .opened 1]

/-- The WebSocket is lost and made again, though no retry was asked for. -/
def retried : List Action := [.open, .opened 0, .closed 0 false, .elapsed 1]

/-- The close is never emitted; a WebSocket opens after it; there are more retries than given. -/
theorem closedBetween_unorderly : (¬ ∀ (reconnectMaxRetry : Option Nat) (actions : List Action),
        Orderly (Run.final step (new reconnectMaxRetry) actions)) ∧
      ¬ Orderly (Run.final step (new none) closedBetween) ∧
      ¬ Orderly (Run.final step (new none) closedWithin) ∧
      ¬ Orderly (Run.final step (new (some 0)) retried) := by
  have unclosed : ¬ Orderly (Run.final step (new none) closedBetween) := by
    intro orderly
    have closed := orderly.ends (by decide) (by decide) (by decide)
    revert closed
    decide
  refine ⟨fun claimed => unclosed (claimed none closedBetween), unclosed, ?_, ?_⟩
  · intro orderly
    have last := last_of_closedOnce (orderly.closedOnce (by decide))
    revert last
    decide
  · intro orderly
    have few := orderly.retries
    revert few
    decide

end Sockets
end AkashicSystem.PlaylogClient
