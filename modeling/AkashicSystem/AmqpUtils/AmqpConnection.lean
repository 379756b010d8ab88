import Mathlib.Logic.Function.Basic
import AkashicSystem.Lib.Run

/-!
# A connection that is kept

`AmqpConnection` connects again when its connection fails or is closed.  Each loss that is
heard starts a reconnection of its own, which closes the connection there is before it
opens another.  Connections are known by number.
-/

set_option autoImplicit false

namespace AkashicSystem.AmqpUtils
namespace Connection

/-- A connection as the driver knows it; a failed one may still emit its close event. -/
inductive Link where
  | unopened
  | opened
  | failed
  | closed
deriving DecidableEq

/-- A call of `_reconnect` that has not ended. -/
inductive Attempt where
  | closing (connection : Nat) (retry : Nat)
  | connecting (retry : Nat)
  | sleeping (retry : Nat)

structure AmqpConnection where
  running : Bool
  connection : Option Nat
  attempts : List Attempt
  /-- The calls of `close`, each awaiting the close of a connection. -/
  closes : List Nat
  links : Nat → Link
  listensError : Nat → Bool
  listensClose : Nat → Bool
  created : Nat

namespace AmqpConnection

open Function

def new : AmqpConnection where
  running := false
  connection := none
  attempts := []
  closes := []
  links := fun _ => .unopened
  listensError := fun _ => false
  listensClose := fun _ => false
  created := 0

variable (a : AmqpConnection)

def setLink (c : Nat) (link : Link) : AmqpConnection :=
  { a with links := update a.links c link }

/-- What `_reconnect` does at once; a call that ends there is `none`. -/
def reconnectWith (retry : Nat) : AmqpConnection × Option Attempt :=
  if a.running then
    match a.connection with
    | some c => ({ a with connection := none }, some (.closing c retry))
    | none => (a, some (.connecting retry))
  else (a, none)

def reconnect : AmqpConnection :=
  let begun := a.reconnectWith 0
  { begun.1 with attempts := begun.1.attempts ++ begun.2.toList }

def connect : AmqpConnection := { a with running := true }.reconnect

def close (a : AmqpConnection) : AmqpConnection :=
  let a := { a with running := false }
  match a.connection with
  | some c => { a with closes := a.closes ++ [c] }
  | none => a

variable (index : Nat)

/-- A call of `close` goes on when the connection is closed; one that finds none throws. -/
def closeResolved : AmqpConnection :=
  match a.closes[index]? with
  | none => a
  | some c =>
    if a.links c = .opened then a
    else
      let a := { a with closes := a.closes.eraseIdx index }
      match a.connection with
      | none => a
      | some current =>
        { a with
          connection := none
          listensError := update a.listensError current false
          listensClose := update a.listensClose current false }

def setAttempt : Option Attempt → AmqpConnection
  | some attempt => { a with attempts := a.attempts.set index attempt }
  | none => { a with attempts := a.attempts.eraseIdx index }

def oldClosed : AmqpConnection :=
  match a.attempts[index]? with
  | some (.closing c retry) =>
    if a.links c = .opened then a else a.setAttempt index (some (.connecting retry))
  | _ => a

def connected : AmqpConnection :=
  match a.attempts[index]? with
  | some (.connecting _) =>
    let a := a.setAttempt index none
    { a with
      connection := some a.created
      links := update a.links a.created .opened
      listensError := update a.listensError a.created true
      listensClose := update a.listensClose a.created true
      created := a.created + 1 }
  | _ => a

def refused : AmqpConnection :=
  match a.attempts[index]? with
  | some (.connecting retry) => a.setAttempt index (some (.sleeping retry))
  | _ => a

def elapsed : AmqpConnection :=
  match a.attempts[index]? with
  | some (.sleeping retry) =>
    let begun := a.reconnectWith (retry + 1)
    begun.1.setAttempt index begun.2
  | _ => a

/-- A connection emits `error`. -/
def failed (a : AmqpConnection) (c : Nat) : AmqpConnection :=
  if a.links c = .opened then
    let a := a.setLink c .failed
    if a.listensError c then
      { a with listensError := update a.listensError c false }.reconnect
    else a
  else a

def closed (a : AmqpConnection) (c : Nat) : AmqpConnection :=
  if a.links c = .opened ∨ a.links c = .failed then
    let a := a.setLink c .closed
    if a.listensClose c then
      { a with listensClose := update a.listensClose c false }.reconnect
    else a
  else a

end AmqpConnection

inductive Action where
  | connect
  | close
  | closeResolved (index : Nat)
  | oldClosed (attempt : Nat)
  | connected (attempt : Nat)
  | refused (attempt : Nat)
  | elapsed (attempt : Nat)
  | failed (connection : Nat)
  | closed (connection : Nat)

open AmqpConnection

variable (a : AmqpConnection)

def step : Action → AmqpConnection
  | .connect => a.connect
  | .close => a.close
  | .closeResolved index => a.closeResolved index
  | .oldClosed index => a.oldClosed index
  | .connected index => a.connected index
  | .refused index => a.refused index
  | .elapsed index => a.elapsed index
  | .failed c => a.failed c
  | .closed c => a.closed c

/-- No connection but the one that is returned is open, where no attempt is pending. -/
structure KeepsOne (a : AmqpConnection) : Prop where
  current : a.attempts = [] → ∀ c, a.links c = .opened → a.connection = some c
  attempts : a.running → a.connection = none → a.attempts ≠ []
  closed : ¬ a.running → a.attempts = [] → a.closes = [] → ∀ c, a.links c ≠ .opened

/-- The event of a connection is heard, and starts a reconnection. -/
def Heard (listens : Nat → Bool) (c : Nat) : Prop :=
  a.running = true ∧ listens c = true

/-- A reconnection is started only where none is pending, no connection is asked for beside a
call of `close`, and none is opened after one. -/
def Permitted : Action → Prop
  | .connect => a.attempts = [] ∧ a.closes = []
  | .connected index => index < a.attempts.length → a.running = true
  | .failed c => a.links c = .opened → Heard a a.listensError c → a.attempts = []
  | .closed c => a.links c = .opened ∨ a.links c = .failed → Heard a a.listensClose c →
      a.attempts = []
  | .close | .closeResolved _ | .oldClosed _ | .refused _ | .elapsed _ => True

instance (a : AmqpConnection) (listens : Nat → Bool) (c : Nat) : Decidable (Heard a listens c) :=
  inferInstanceAs (Decidable (_ ∧ _))

instance (a : AmqpConnection) : DecidablePred (Permitted a)
  | .connect => inferInstanceAs (Decidable (_ ∧ _))
  | .connected index => inferInstanceAs (Decidable (index < a.attempts.length → _))
  | .failed c => inferInstanceAs (Decidable (a.links c = .opened → Heard a a.listensError c → _))
  | .closed c => inferInstanceAs (Decidable (a.links c = .opened ∨ a.links c = .failed →
      Heard a a.listensClose c → _))
  | .close | .closeResolved _ | .oldClosed _ | .refused _ | .elapsed _ => isTrue trivial

inductive Stands (a : AmqpConnection) : List Attempt → Prop where
  | none (current : ∀ c, a.links c = .opened → a.connection = some c)
      (running : a.running → a.connection ≠ none)
      (stopped : ¬ a.running → a.connection ≠ none → a.closes ≠ []) : Stands a []
  | closing (c retry : Nat) (dropped : a.connection = none)
      (old : ∀ d, a.links d = .opened → d = c) : Stands a [.closing c retry]
  | connecting (retry : Nat) (dropped : a.connection = none)
      (dead : ∀ d, a.links d ≠ .opened) : Stands a [.connecting retry]
  | sleeping (retry : Nat) (dropped : a.connection = none)
      (dead : ∀ d, a.links d ≠ .opened) : Stands a [.sleeping retry]

structure Inv (a : AmqpConnection) : Prop where
  stands : Stands a a.attempts
  closes : a.closes ≠ [] → a.running = false ∧ a.attempts = []
  closing : ∀ c ∈ a.closes, ∀ d ∈ a.connection, d = c
  fresh : ∀ c, a.created ≤ c → a.links c ≠ .opened

variable {a : AmqpConnection}

theorem keepsOne_of_inv (inv : Inv a) : KeepsOne a := by
  obtain ⟨stands, _, _, _⟩ := inv
  generalize attempts : a.attempts = list at stands
  cases stands with
  | none current running stopped =>
    refine ⟨fun _ => current, fun isRunning dropped => absurd dropped (running isRunning),
      fun isStopped _ closes c opened => ?_⟩
    have held : a.connection ≠ none := by
      rw [current c opened]
      simp
    exact stopped isStopped held closes
  | closing c retry dropped old | connecting retry dropped dead | sleeping retry dropped dead =>
    constructor <;> simp [attempts]

theorem Stands.of_fewer {b : AmqpConnection} {attempts : List Attempt}
    (links : ∀ c, b.links c = .opened → a.links c = .opened)
    (connection : b.connection = a.connection) (running : b.running = a.running)
    (closes : b.closes = a.closes) (stands : Stands a attempts) : Stands b attempts := by
  cases stands with
  | none current isRunning stopped =>
    rw [← connection, ← running] at isRunning
    rw [← connection, ← running, ← closes] at stopped
    refine .none (fun c opened => ?_) isRunning stopped
    rw [connection]
    exact current c (links c opened)
  | closing c retry dropped old =>
    exact .closing c retry (connection.trans dropped) fun d opened => old d (links d opened)
  | connecting retry dropped dead =>
    exact .connecting retry (connection.trans dropped) fun d opened => dead d (links d opened)
  | sleeping retry dropped dead =>
    exact .sleeping retry (connection.trans dropped) fun d opened => dead d (links d opened)

theorem Inv.of_fewer {b : AmqpConnection} (inv : Inv a)
    (links : ∀ c, b.links c = .opened → a.links c = .opened)
    (connection : b.connection = a.connection) (running : b.running = a.running)
    (attempts : b.attempts = a.attempts) (closes : b.closes = a.closes)
    (created : b.created = a.created) : Inv b := by
  refine ⟨?_, ?_, ?_, ?_⟩
  · rw [attempts]
    exact inv.stands.of_fewer links connection running closes
  · rw [closes, running, attempts]
    exact inv.closes
  · rw [closes, connection]
    exact inv.closing
  · rw [created]
    exact fun c new opened => inv.fresh c new (links c opened)

theorem opened_of_setLink {c : Nat} {link : Link} (other : link ≠ .opened) (d : Nat)
    (opened : (a.setLink c link).links d = .opened) : a.links d = .opened := by
  unfold setLink at opened
  dsimp only at opened
  by_cases same : d = c
  · subst same
    rw [Function.update_self] at opened
    exact absurd opened other
  · rwa [Function.update_of_ne same] at opened

theorem current_of_idle (inv : Inv a) (idle : a.attempts = []) :
    ∀ c, a.links c = .opened → a.connection = some c := by
  have stands := inv.stands
  rw [idle] at stands
  cases stands with
  | none current _ _ => exact current

theorem inv_reconnect (running : a.running = true) (idle : a.attempts = [])
    (closes : a.closes = []) (current : ∀ c, a.links c = .opened → a.connection = some c)
    (fresh : ∀ c, a.created ≤ c → a.links c ≠ .opened) : Inv a.reconnect := by
  cases held : a.connection with
  | none =>
    have begun : a.reconnect = { a with attempts := [.connecting 0] } := by
      simp [reconnect, reconnectWith, running, held, idle]
    rw [begun]
    refine ⟨.connecting 0 held fun c opened => ?_, fun some => absurd closes some, ?_, fresh⟩
    · rw [current c opened] at held
      cases held
    · simp [closes]
  | some c =>
    have begun : a.reconnect = { a with connection := none, attempts := [.closing c 0] } := by
      simp [reconnect, reconnectWith, running, held, idle]
    rw [begun]
    refine ⟨.closing c 0 rfl fun d opened => ?_, fun some => absurd closes some, ?_, fresh⟩
    · have same := current d opened
      rw [held] at same
      exact (Option.some.inj same).symm
    · simp [closes]

theorem reconnect_stopped (stopped : a.running = false) : a.reconnect = a := by
  unfold reconnect reconnectWith
  simp only [stopped, Bool.false_eq_true, if_false, Option.toList_none, List.append_nil]
  rw [← stopped]

theorem inv_lost {b : AmqpConnection} (inv : Inv a)
    (links : ∀ c, b.links c = .opened → a.links c = .opened)
    (connection : b.connection = a.connection) (running : b.running = a.running)
    (attempts : b.attempts = a.attempts) (closes : b.closes = a.closes)
    (created : b.created = a.created) (alone : a.running = true → a.attempts = []) :
    Inv b.reconnect := by
  have fewer := inv.of_fewer links connection running attempts closes created
  cases isRunning : a.running with
  | false =>
    rw [reconnect_stopped (running.trans isRunning)]
    exact fewer
  | true =>
    have idle := alone isRunning
    have none : b.closes = [] := by
      by_contra some
      have stopped := (fewer.closes some).1
      rw [running, isRunning] at stopped
      cases stopped
    exact inv_reconnect (running.trans isRunning) (attempts.trans idle) none
      (current_of_idle fewer (attempts.trans idle)) fewer.fresh

theorem inv_connect (inv : Inv a) (idle : a.attempts = []) (closes : a.closes = []) :
    Inv a.connect := by
  have current := current_of_idle inv idle
  exact @inv_reconnect { a with running := true } rfl idle closes current inv.fresh

theorem inv_close (inv : Inv a) : Inv a.close := by
  obtain ⟨running, connection, attempts, closes, links, listensError, listensClose, created⟩ := a
  obtain ⟨stands, pending, closing, fresh⟩ := inv
  dsimp only at stands pending closing fresh
  cases connection with
  | none =>
    show Inv ⟨false, none, attempts, closes, links, listensError, listensClose, created⟩
    refine ⟨?_, fun some => ⟨rfl, (pending some).2⟩, by simp, fresh⟩
    cases stands with
    | none current _ _ => exact .none current (by simp) (by simp)
    | closing c retry dropped old => exact .closing c retry dropped old
    | connecting retry dropped dead => exact .connecting retry dropped dead
    | sleeping retry dropped dead => exact .sleeping retry dropped dead
  | some c =>
    show Inv ⟨false, some c, attempts, closes ++ [c], links, listensError, listensClose, created⟩
    cases stands with
    | closing d retry dropped old | connecting retry dropped dead | sleeping retry dropped dead =>
      cases dropped
    | none current _ _ =>
      refine ⟨.none current (by simp) (by simp), fun _ => ⟨rfl, rfl⟩, ?_, fresh⟩
      intro d there e held
      rcases List.mem_append.mp there with old | new
      · exact closing d old e held
      · rw [List.mem_singleton.mp new]
        exact (Option.some.inj held).symm

theorem inv_closeResolved (inv : Inv a) (index : Nat) : Inv (a.closeResolved index) := by
  obtain ⟨running, connection, attempts, closes, links, listensError, listensClose, created⟩ := a
  unfold closeResolved
  dsimp only
  cases there : closes[index]? with
  | none => exact inv
  | some c =>
    dsimp only
    split
    · exact inv
    · rename_i dead
      obtain ⟨stands, pending, closing, fresh⟩ := inv
      dsimp only at stands pending closing fresh dead there
      have isThere := List.mem_of_getElem? there
      obtain ⟨stopped, idle⟩ := pending (List.ne_nil_of_mem isThere)
      subst stopped idle
      cases stands with
      | none current _ _ =>
        have others : ∀ d, links d ≠ .opened := by
          intro d opened
          have itself := closing c isThere d (current d opened)
          rw [itself] at opened
          exact dead opened
        have none : Inv ⟨false, none, [], closes.eraseIdx index, links, listensError,
            listensClose, created⟩ := by
          refine ⟨?_, fun _ => ⟨rfl, rfl⟩, by simp, fresh⟩
          exact .none (fun d opened => absurd opened (others d)) (by simp) (by simp)
        cases connection with
        | none => exact none
        | some current =>
          exact none.of_fewer (fun _ opened => opened) rfl rfl rfl rfl rfl

theorem only {attempt : Attempt} {index : Nat} {a : Attempt}
    (there : [attempt][index]? = some a) : index = 0 ∧ a = attempt := by
  obtain ⟨inside, eq⟩ := List.getElem?_eq_some_iff.mp there
  have zero : index = 0 := by simpa using inside
  subst zero
  exact ⟨rfl, eq.symm⟩

theorem inv_opened {links : Nat → Link} {listensError listensClose : Nat → Bool} {created : Nat}
    (dead : ∀ d, links d ≠ .opened) :
    Inv ⟨true, some created, [], [], Function.update links created .opened, listensError,
      listensClose, created + 1⟩ := by
  refine ⟨.none ?_ (by simp) (by simp), by simp, by simp, ?_⟩
  · intro d opened
    by_cases same : d = created
    · rw [same]
    · dsimp only at opened
      rw [Function.update_of_ne same] at opened
      exact absurd opened (dead d)
  · intro d new
    have same : d ≠ created := by
      dsimp only at new
      omega
    dsimp only
    rw [Function.update_of_ne same]
    exact dead d

theorem inv_attempt (inv : Inv a) (index : Nat) :
    Inv (a.oldClosed index) ∧ Inv (a.refused index) ∧ Inv (a.elapsed index) ∧
      ((index < a.attempts.length → a.running = true) → Inv (a.connected index)) := by
  obtain ⟨running, connection, attempts, closes, links, listensError, listensClose, created⟩ := a
  have kept := inv
  obtain ⟨stands, pending, closing, fresh⟩ := inv
  dsimp only at stands pending closing fresh
  unfold oldClosed refused elapsed connected
  dsimp only
  cases there : attempts[index]? with
  | none => exact ⟨kept, kept, kept, fun _ => kept⟩
  | some attempt =>
    have nothing : closes = [] := by
      by_contra some
      rw [(pending some).2] at there
      cases there
    subst nothing
    have begun (attempt : Attempt) (stands : Stands ⟨running, none, [attempt], [], links,
        listensError, listensClose, created⟩ [attempt]) :
        Inv ⟨running, none, [attempt], [], links, listensError, listensClose, created⟩ :=
      ⟨stands, by simp, by simp, fresh⟩
    cases stands with
    | none current _ _ => cases there
    | closing c retry dropped old =>
      obtain ⟨rfl, rfl⟩ := only there
      dsimp only at dropped old
      subst dropped
      refine ⟨?_, kept, kept, fun _ => kept⟩
      dsimp only
      split
      · exact kept
      · rename_i dead
        apply begun
        refine .connecting retry rfl fun d opened => ?_
        rw [old d opened] at opened
        exact dead opened
    | connecting retry dropped dead =>
      obtain ⟨rfl, rfl⟩ := only there
      dsimp only at dropped dead
      subst dropped
      refine ⟨kept, begun _ (.sleeping retry rfl dead), kept, fun isRunning => ?_⟩
      have isRunning := isRunning (by simp)
      subst isRunning
      apply inv_opened dead
    | sleeping retry dropped dead =>
      obtain ⟨rfl, rfl⟩ := only there
      dsimp only at dropped dead
      subst dropped
      refine ⟨kept, kept, ?_, fun _ => kept⟩
      cases running with
      | true => exact begun _ (.connecting (retry + 1) rfl dead)
      | false =>
        show Inv ⟨false, none, [], [], links, listensError, listensClose, created⟩
        refine ⟨?_, by simp, by simp, fresh⟩
        exact .none (fun d opened => absurd opened (dead d)) (by simp) (by simp)

theorem inv_step (a : AmqpConnection) (action : Action) (inv : Inv a)
    (permitted : Permitted a action) : Inv (step a action) := by
  -- Only what starts a reconnection, or ends one, looks at the condition.
  cases action with
  | connect => exact inv_connect inv permitted.1 permitted.2
  | close => exact inv_close inv
  | closeResolved index => exact inv_closeResolved inv index
  | oldClosed index => exact (inv_attempt inv index).1
  | connected index => exact (inv_attempt inv index).2.2.2 permitted
  | refused index => exact (inv_attempt inv index).2.1
  | elapsed index => exact (inv_attempt inv index).2.2.1
  | failed c =>
    show Inv (a.failed c)
    unfold AmqpConnection.failed
    split
    · rename_i opened
      dsimp only
      split
      · rename_i listens
        refine @inv_lost a { a.setLink c .failed with
          listensError := Function.update (a.setLink c .failed).listensError c false } inv
          (@opened_of_setLink a c .failed (by simp)) rfl rfl rfl rfl rfl ?_
        exact fun running => permitted opened ⟨running, listens⟩
      · exact inv.of_fewer (opened_of_setLink (by simp)) rfl rfl rfl rfl rfl
    · exact inv
  | closed c =>
    show Inv (a.closed c)
    unfold AmqpConnection.closed
    split
    · rename_i alive
      dsimp only
      split
      · rename_i listens
        refine @inv_lost a { a.setLink c .closed with
          listensClose := Function.update (a.setLink c .closed).listensClose c false } inv
          (@opened_of_setLink a c .closed (by simp)) rfl rfl rfl rfl rfl ?_
        exact fun running => permitted alive ⟨running, listens⟩
      · exact inv.of_fewer (opened_of_setLink (by simp)) rfl rfl rfl rfl rfl
    · exact inv

theorem inv_new : Inv new where
  stands := .none (by simp [new]) (by simp [new]) (by simp [new])
  closes := by simp [new]
  closing := by simp [new]
  fresh := by simp [new]

/-- One connection is kept, if no reconnection is started beside another, none beside a call of
`close`, and no connection is opened after one. -/
theorem keepsOne_of_permitted (actions : List Action)
    (run : Run.Allowed step Permitted new actions) : KeepsOne (Run.final step new actions) :=
  keepsOne_of_inv (Run.invariant inv_step new actions inv_new run)

/-- A connection fails, another is opened in its place, and that one is closed. -/
def reconnected : List Action :=
  [.connect, .refused 0, .elapsed 0, .connected 0, .failed 0, .oldClosed 0, .connected 0,
    .close, .closed 1, .closeResolved 0]

theorem keepsOne_of_permitted_reconnected : KeepsOne (Run.final step new reconnected) :=
  keepsOne_of_permitted reconnected (by decide)

def closedAfterError : List Action :=
  [.connect, .connected 0, .failed 0, .closed 0, .oldClosed 0, .connected 0, .connected 0]

def closedEarly : List Action := [.connect, .close, .connected 0]

/-- Two connections are open, or one that is not returned any more. -/
theorem closedAfterError_keepsTwo :
    (¬ ∀ actions : List Action, KeepsOne (Run.final step new actions)) ∧
      ¬ KeepsOne (Run.final step new closedAfterError) ∧
      ¬ KeepsOne (Run.final step new closedEarly) := by
  have two : ¬ KeepsOne (Run.final step new closedAfterError) := by
    intro keeps
    have first := keeps.current rfl 1 (by decide)
    revert first
    decide
  refine ⟨fun claimed => two (claimed closedAfterError), two, ?_⟩
  intro keeps
  exact keeps.closed (by decide) rfl rfl 0 (by decide)

end Connection
end AkashicSystem.AmqpUtils
