import Mathlib.Data.List.Basic
import Mathlib.Tactic.SplitIfs
import AkashicSystem.Lib.Run

/-!
# The keep-alive of an engine socket

`WSSocket` has a timer for the next ping, and one for its answer.  A pong sets the first anew, and
clears the second only.  Timers are known by number; one that no variable has stays armed.
-/

set_option autoImplicit false

namespace AkashicSystem.PlaylogServer

/-- The armed timers are those of `intervals`, `timeouts` and `reopens`.  `answered` says whether a
pong has come since the latest ping, and `closes` what it said when the socket closed itself. -/
structure WSSocket where
  isOpen : Bool
  forcedClose : Bool
  readyStateOpen : Bool
  closeTimer : Option Nat
  timeoutTimer : Option Nat
  intervalTimer : Option Nat
  intervals : List Nat
  timeouts : List Nat
  reopens : List Nat
  timersSet : Nat
  answered : Bool
  closes : List Bool

namespace WSSocket

variable (s : WSSocket)

def clear (armed : List Nat) (ref : Option Nat) : List Nat := armed.filter fun id => some id ≠ ref

def startKeepAlive : WSSocket :=
  { s with
    timeouts := clear s.timeouts s.timeoutTimer
    intervals := s.intervals ++ [s.timersSet]
    intervalTimer := some s.timersSet
    timersSet := s.timersSet + 1 }

def stopKeepAlive : WSSocket :=
  { s with
    intervals := clear s.intervals s.intervalTimer
    timeouts := clear s.timeouts s.timeoutTimer }

def close : WSSocket := { s with forcedClose := true }.stopKeepAlive

def onPong : WSSocket :=
  let s := { s with answered := true }
  if s.isOpen ∧ s.readyStateOpen then s.startKeepAlive else s

/-- Nothing is sent where the socket or its ws is not open. -/
def ping : WSSocket :=
  if s.isOpen ∧ s.readyStateOpen then { s with answered := false } else s

def onInterval (id : Nat) : WSSocket :=
  if id ∈ s.intervals then
    { s.ping with
      intervals := s.intervals.erase id
      timeouts := s.timeouts ++ [s.timersSet]
      timeoutTimer := some s.timersSet
      timersSet := s.timersSet + 1 }
  else s

def onTimeout (id : Nat) : WSSocket :=
  if id ∈ s.timeouts then
    { s with timeouts := s.timeouts.erase id, closes := s.closes ++ [s.answered] }.close
  else s

def onReopenTimeout (id : Nat) : WSSocket :=
  if id ∈ s.reopens then { s with reopens := s.reopens.erase id }.close else s

def onClose : WSSocket :=
  let s := { s with isOpen := false, readyStateOpen := false }
  if s.forcedClose then s
  else
    { s.stopKeepAlive with
      reopens := clear s.reopens s.closeTimer ++ [s.timersSet]
      closeTimer := some s.timersSet
      timersSet := s.timersSet + 1 }

def attach (readyStateOpen : Bool) : WSSocket :=
  if s.forcedClose then s
  else
    { s.stopKeepAlive with
      reopens := clear s.reopens s.closeTimer
      readyStateOpen := readyStateOpen
      isOpen := true }.startKeepAlive

def new : WSSocket := startKeepAlive ⟨true, false, true, none, none, none, [], [], [], 0, true, []⟩

inductive Action where
  | pong
  | interval (id : Nat)
  | timeout (id : Nat)
  | reopenTimeout (id : Nat)
  | readyStateClosing
  | closed
  | attach (readyStateOpen : Bool)
  | close

def step : Action → WSSocket
  | .pong => s.onPong
  | .interval id => s.onInterval id
  | .timeout id => s.onTimeout id
  | .reopenTimeout id => s.onReopenTimeout id
  | .readyStateClosing => { s with readyStateOpen := false }
  | .closed => s.onClose
  | .attach readyStateOpen => s.attach readyStateOpen
  | .close => s.close

structure KeptAlive : Prop where
  intervals : s.intervals.length ≤ 1
  timeouts : s.timeouts.length ≤ 1
  ended : s.forcedClose = true ∨ s.isOpen = false → s.intervals = [] ∧ s.timeouts = []
  closes : ∀ answered ∈ s.closes, answered = false

/-- A pong that is handled comes before the socket is closed, while no ping is due; one that is not
finds none unanswered.  A ping that is due finds the ws open. -/
def Permitted : Action → Prop
  | .interval id => id ∈ s.intervals → s.readyStateOpen = true
  | .pong => s.isOpen = true →
      if s.readyStateOpen then s.forcedClose = false ∧ s.intervals = [] else s.timeouts = []
  | _ => True

inductive Phase : Prop where
  | idle (intervals : s.intervals = []) (timeouts : s.timeouts = [])
  | waiting (id : Nat) (intervals : s.intervals = [id]) (timeouts : s.timeouts = [])
      (timer : s.intervalTimer = some id) (isOpen : s.isOpen = true)
      (notClosed : s.forcedClose = false)
  | pinging (id : Nat) (intervals : s.intervals = []) (timeouts : s.timeouts = [id])
      (timer : s.timeoutTimer = some id) (isOpen : s.isOpen = true)
      (notClosed : s.forcedClose = false) (unanswered : s.answered = false)

structure Inv : Prop where
  phase : s.Phase
  closes : ∀ answered ∈ s.closes, answered = false

section
variable {s}

theorem keptAlive_of_inv (inv : Inv s) : s.KeptAlive := by
  have closes := inv.closes
  cases inv.phase with
  | idle intervals timeouts => constructor <;> simp_all
  | waiting id intervals timeouts timer isOpen notClosed => constructor <;> simp_all
  | pinging id intervals timeouts timer isOpen notClosed => constructor <;> simp_all

theorem stopped (phase : s.Phase) :
    s.stopKeepAlive.intervals = [] ∧ s.stopKeepAlive.timeouts = [] := by
  cases phase with
  | idle intervals timeouts => simp [stopKeepAlive, clear, intervals, timeouts]
  | waiting id intervals timeouts timer => simp [stopKeepAlive, clear, intervals, timeouts, timer]
  | pinging id intervals timeouts timer => simp [stopKeepAlive, clear, intervals, timeouts, timer]

theorem inv_close (inv : Inv s) : Inv s.close :=
  ⟨.idle (stopped inv.phase).1 (stopped inv.phase).2, inv.closes⟩

theorem inv_startKeepAlive (isOpen : s.isOpen = true) (notClosed : s.forcedClose = false)
    (intervals : s.intervals = []) (timeouts : clear s.timeouts s.timeoutTimer = [])
    (closes : ∀ answered ∈ s.closes, answered = false) : Inv s.startKeepAlive :=
  ⟨.waiting s.timersSet (by simp [startKeepAlive, intervals]) timeouts rfl isOpen notClosed, closes⟩

theorem inv_onPong (inv : Inv s) (permitted : s.Permitted .pong) : Inv s.onPong := by
  unfold onPong
  dsimp only
  split_ifs with handled
  · have permitted := permitted handled.1
    rw [if_pos handled.2] at permitted
    have timeouts : clear s.timeouts s.timeoutTimer = [] := by
      cases inv.phase with
      | idle intervals timeouts => simp [clear, timeouts]
      | waiting id intervals timeouts => simp [clear, timeouts]
      | pinging id intervals timeouts timer => simp [clear, timeouts, timer]
    exact inv_startKeepAlive handled.1 permitted.1 permitted.2 timeouts inv.closes
  · refine ⟨?_, inv.closes⟩
    cases inv.phase with
    | idle intervals timeouts => exact .idle intervals timeouts
    | waiting id intervals timeouts timer isOpen notClosed =>
      exact .waiting id intervals timeouts timer isOpen notClosed
    | pinging id intervals timeouts timer isOpen =>
      have permitted := permitted isOpen
      rw [if_neg fun readyStateOpen => handled ⟨isOpen, readyStateOpen⟩, timeouts] at permitted
      cases permitted

theorem inv_onInterval (inv : Inv s) (id : Nat) (permitted : s.Permitted (.interval id)) :
    Inv (s.onInterval id) := by
  unfold onInterval
  split_ifs with armed
  · cases inv.phase with
    | idle intervals timeouts => simp [intervals] at armed
    | waiting id' intervals timeouts timer isOpen notClosed =>
      have pinged : s.ping = { s with answered := false } := if_pos ⟨isOpen, permitted armed⟩
      obtain rfl : id = id' := by simpa [intervals] using armed
      rw [pinged]
      exact ⟨.pinging s.timersSet (by simp [intervals]) (by simp [timeouts]) rfl isOpen notClosed
        rfl, inv.closes⟩
    | pinging id' intervals => simp [intervals] at armed
  · exact inv

theorem inv_onTimeout (inv : Inv s) (id : Nat) : Inv (s.onTimeout id) := by
  unfold onTimeout
  split_ifs with armed
  · cases inv.phase with
    | idle intervals timeouts => simp [timeouts] at armed
    | waiting id' intervals timeouts => simp [timeouts] at armed
    | pinging id' intervals timeouts timer isOpen notClosed unanswered =>
      obtain rfl : id = id' := by simpa [timeouts] using armed
      refine ⟨.idle (by simp [close, stopKeepAlive, clear, intervals])
        (by simp [close, stopKeepAlive, clear, timeouts]), fun answered there => ?_⟩
      rcases List.mem_append.mp there with old | new
      · exact inv.closes answered old
      · rw [List.mem_singleton.mp new, unanswered]
  · exact inv

theorem inv_onClose (inv : Inv s) : Inv s.onClose := by
  unfold onClose
  dsimp only
  split_ifs with closed
  · refine ⟨?_, inv.closes⟩
    cases inv.phase with
    | idle intervals timeouts => exact .idle intervals timeouts
    | waiting id intervals timeouts timer isOpen notClosed => cases closed.symm.trans notClosed
    | pinging id intervals timeouts timer isOpen notClosed => cases closed.symm.trans notClosed
  · exact ⟨.idle (stopped inv.phase).1 (stopped inv.phase).2, inv.closes⟩

theorem inv_attach (inv : Inv s) (readyStateOpen : Bool) : Inv (s.attach readyStateOpen) := by
  have stopped := stopped inv.phase
  unfold attach
  split_ifs with closed
  · exact inv
  · refine inv_startKeepAlive rfl (Bool.eq_false_iff.mpr closed) stopped.1 ?_ inv.closes
    simp [stopped.2, clear]

end

theorem inv_step (s : WSSocket) (action : Action) (inv : Inv s) (permitted : s.Permitted action) :
    Inv (s.step action) := by
  cases action with
  | pong => exact inv_onPong inv permitted
  | interval id => exact inv_onInterval inv id permitted
  | timeout id => exact inv_onTimeout inv id
  | reopenTimeout id =>
    change Inv (s.onReopenTimeout id)
    unfold onReopenTimeout
    split_ifs
    · exact ⟨.idle (stopped inv.phase).1 (stopped inv.phase).2, inv.closes⟩
    · exact inv
  | readyStateClosing =>
    refine ⟨?_, inv.closes⟩
    cases inv.phase with
    | idle intervals timeouts => exact .idle intervals timeouts
    | waiting id intervals timeouts timer isOpen notClosed =>
      exact .waiting id intervals timeouts timer isOpen notClosed
    | pinging id intervals timeouts timer isOpen notClosed unanswered =>
      exact .pinging id intervals timeouts timer isOpen notClosed unanswered
  | closed => exact inv_onClose inv
  | attach readyStateOpen => exact inv_attach inv readyStateOpen
  | close => exact inv_close inv

theorem inv_new : Inv new :=
  inv_startKeepAlive rfl rfl rfl rfl (List.forall_mem_nil _)

/-- The timers are kept, if every ping that is due is sent, and each pong answers the latest one
before the socket is closed. -/
theorem keptAlive_of_permitted (actions : List Action)
    (run : Run.Allowed step Permitted new actions) : (Run.final step new actions).KeptAlive :=
  keptAlive_of_inv (Run.invariant inv_step new actions inv_new run)

/-- A ping that is answered, and one that is not. -/
def pinged : List Action := [.interval 0, .pong, .interval 2, .timeout 3]

theorem keptAlive_of_permitted_pinged : (Run.final step new pinged).KeptAlive :=
  keptAlive_of_permitted pinged
    ⟨fun _ => rfl, fun _ => ⟨rfl, rfl⟩, fun _ => rfl, trivial, trivial⟩

/-- A pong that nothing asked for. -/
theorem unsolicited_armed : ¬ ∀ actions, (Run.final step new actions).KeptAlive := by
  intro kept
  exact absurd (kept [.pong]).intervals (by decide)

end WSSocket
end AkashicSystem.PlaylogServer
