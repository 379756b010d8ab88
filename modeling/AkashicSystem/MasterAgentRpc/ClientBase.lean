import Mathlib.Logic.Function.Basic
import AkashicSystem.Lib.Run

/-!
# The connection of an RPC client

`ClientBase` makes its connection when a client is asked for and none is remembered, and
keeps it for later requests.  Each call that finds none makes an attempt of its own, and
each connection keeps handlers that clear what is remembered.  Connections are known by
number; a client is known by its connection.
-/

set_option autoImplicit false

namespace AkashicSystem.MasterAgentRpc

open List
open Function (update update_of_ne update_self)

inductive Link where
  | uncreated
  | dialing
  | opened
  /-- `end` has been called on it. -/
  | ending
  /-- It has emitted `error`; its close event may follow. -/
  | failed
  | closed
deriving DecidableEq

/-- A call of `getClient` that has not ended. -/
inductive Attempt where
  /-- `getConnection` awaits the connection; so many more may be tried. -/
  | dialing (connection : Nat) (left : Nat)
  /-- `getConnection` has resolved. -/
  | resolved (connection : Nat)

structure ClientBase where
  retryCount : Option Nat
  connection : Option Nat
  client : Option Nat
  attempts : List Attempt
  links : Nat → Link
  /-- Whether the handlers that clear the fields are on a connection. -/
  handled : Nat → Bool
  created : Nat
  /-- Whether a client has been asked for since `close` was last called. -/
  asked : Bool

namespace ClientBase

def new (retryCount : Option Nat) : ClientBase where
  retryCount := retryCount
  connection := none
  client := none
  attempts := []
  links := fun _ => .uncreated
  handled := fun _ => false
  created := 0
  asked := false

variable (b : ClientBase)

def setLink (c : Nat) (link : Link) : ClientBase :=
  { b with links := update b.links c link }

def createConnection : ClientBase :=
  { b with links := update b.links b.created .dialing, created := b.created + 1 }

/-- `getClient`; with a client it resolves at once, and with no try it makes no attempt. -/
def getClient : ClientBase :=
  let b := { b with asked := true }
  match b.client with
  | some _ => b
  | none =>
    match b.retryCount.getD 5 with
    | 0 => b
    | left + 1 =>
      { b.createConnection with attempts := b.attempts ++ [.dialing b.created left] }

def close : ClientBase :=
  let b := { b with client := none, asked := false }
  match b.connection with
  | some c =>
    let b := if b.links c = .opened then b.setLink c .ending else b
    { b with connection := none }
  | none => b

variable (index : Nat)

/-- `getConnection` rejects, and the next try begins if there is one. -/
def rejected : Nat → ClientBase
  | 0 => { b with attempts := b.attempts.eraseIdx index }
  | left + 1 =>
    { b.createConnection with attempts := b.attempts.set index (.dialing b.created left) }

/-- The connection an attempt awaits emits `connect`. -/
def connected : ClientBase :=
  match b.attempts[index]? with
  | some (.dialing c _) =>
    if b.links c = .dialing then
      { b.setLink c .opened with attempts := b.attempts.set index (.resolved c) }
    else b
  | _ => b

def refused : ClientBase :=
  match b.attempts[index]? with
  | some (.dialing c left) =>
    if b.links c = .dialing then (b.setLink c .failed).rejected index left else b
  | _ => b

def timedOut : ClientBase :=
  match b.attempts[index]? with
  | some (.dialing _ left) => b.rejected index left
  | _ => b

/-- The observer of `getClient` is given the connection. -/
def remembered : ClientBase :=
  match b.attempts[index]? with
  | some (.resolved c) =>
    { b with
      connection := some c
      client := some c
      handled := update b.handled c true
      attempts := b.attempts.eraseIdx index }
  | _ => b

def awaits (b : ClientBase) (c : Nat) : Bool :=
  b.attempts.any fun
    | .dialing d _ => d == c
    | .resolved _ => false

/-- A connection that no attempt awaits any more emits `connect`. -/
def connectedLate (c : Nat) : ClientBase :=
  if b.links c = .dialing ∧ b.awaits c = false then b.setLink c .opened else b

def lost (c : Nat) : ClientBase :=
  if b.handled c then { b with client := none, connection := none } else b

def failed (b : ClientBase) (c : Nat) : ClientBase :=
  match b.links c with
  | .opened | .ending => (b.setLink c .failed).lost c
  | .dialing => if b.awaits c then b else b.setLink c .failed
  | .uncreated | .failed | .closed => b

def closed (b : ClientBase) (c : Nat) : ClientBase :=
  match b.links c with
  | .opened | .ending | .failed => (b.setLink c .closed).lost c
  | .uncreated | .dialing | .closed => b

end ClientBase

inductive Action where
  | getClient
  | close
  | requestTimedOut
  | connected (attempt : Nat)
  | refused (attempt : Nat)
  | timedOut (attempt : Nat)
  | remembered (attempt : Nat)
  | connectedLate (connection : Nat)
  | failed (connection : Nat)
  | closed (connection : Nat)

open ClientBase

variable (b : ClientBase)

def step : Action → ClientBase
  | .getClient => b.getClient
  | .close => b.close
  | .requestTimedOut => b.close
  | .connected index => b.connected index
  | .refused index => b.refused index
  | .timedOut index => b.timedOut index
  | .remembered index => b.remembered index
  | .connectedLate c => b.connectedLate c
  | .failed c => b.failed c
  | .closed c => b.closed c

/-- What is remembered, and what is open, where no attempt is pending. -/
structure KeepsOne (b : ClientBase) : Prop where
  one : b.attempts = [] → ∀ c d, b.links c = .opened → b.links d = .opened → c = d
  own : b.attempts = [] → ∀ c, b.links c = .opened → b.client = some c
  none : b.attempts = [] → (∀ c, b.links c ≠ .opened) → b.client = none
  closed : b.attempts = [] → b.asked = false → ∀ c, b.links c ≠ .opened

def LeavesOthers (action : Action) : Prop :=
  ∀ c, action = .failed c ∨ action = .closed c →
    ∀ d ∈ b.client, d ≠ c → (step b action).client = some d

def FindsOwn (c : Nat) : Prop :=
  b.handled c = true → b.client = none ∨ b.client = some c

/-- A connection may be remembered: none is, it is open still, and it is asked for. -/
def Wanted : Attempt → Prop
  | .dialing _ _ => True
  | .resolved c => b.client = none ∧ b.links c = .opened ∧ b.asked = true

/-- A connection is remembered only beside no other, while it is open and before a call of
`close`; one that is given up does not open; and the connection of another client ends only
without its handlers. -/
def Permitted : Action → Prop
  | .remembered index => ∀ attempt ∈ b.attempts[index]?, Wanted b attempt
  | .connectedLate c => b.links c = .dialing → b.awaits c = true
  | .failed c => b.links c = .opened ∨ b.links c = .ending → FindsOwn b c
  | .closed c => b.links c = .opened ∨ b.links c = .ending ∨ b.links c = .failed → FindsOwn b c
  | _ => True

instance (b : ClientBase) (c : Nat) : Decidable (FindsOwn b c) :=
  inferInstanceAs (Decidable (b.handled c = true → _))

instance (b : ClientBase) : DecidablePred (Wanted b)
  | .dialing _ _ => isTrue trivial
  | .resolved _ => inferInstanceAs (Decidable (_ ∧ _))

instance (b : ClientBase) : DecidablePred (Permitted b)
  | .remembered index => inferInstanceAs (Decidable (∀ attempt ∈ b.attempts[index]?, _))
  | .connectedLate c => inferInstanceAs (Decidable (b.links c = .dialing → _))
  | .failed c => inferInstanceAs (Decidable (b.links c = .opened ∨ _ → _))
  | .closed c => inferInstanceAs (Decidable (b.links c = .opened ∨ _ → _))
  | .getClient | .close | .requestTimedOut | .connected _ | .refused _ | .timedOut _ =>
    isTrue trivial

structure Inv (b : ClientBase) : Prop where
  same : b.connection = b.client
  kept : ∀ c ∈ b.client, b.links c = .opened ∧ b.handled c = true
  opened : ∀ c, b.links c = .opened → b.client = some c ∨ Attempt.resolved c ∈ b.attempts
  closed : b.asked = false → b.client = none
  fresh : ∀ c, b.created ≤ c → b.links c = .uncreated

variable {b : ClientBase} {d : Nat} {link : Link} {links : Nat → Link}

theorem keepsOne_of_inv (inv : Inv b) : KeepsOne b := by
  have own (idle : b.attempts = []) (c : Nat) (opened : b.links c = .opened) :
      b.client = some c := by
    rcases inv.opened c opened with itself | pending
    · exact itself
    · rw [idle] at pending
      cases pending
  refine ⟨fun idle c d opened opened' => ?_, own, fun _ none => ?_, fun idle closed c opened => ?_⟩
  · have first := own idle c opened
    rw [own idle d opened'] at first
    exact (Option.some.inj first).symm
  · cases held : b.client with
    | none => rfl
    | some c => exact absurd (inv.kept c held).1 (none c)
  · have first := own idle c opened
    rw [inv.closed closed] at first
    cases first

theorem links_update_opened {c : Nat} (other : link ≠ .opened)
    (opened : update links c link d = .opened) : d ≠ c ∧ links d = .opened := by
  by_cases same : d = c
  · subst same
    rw [update_self] at opened
    exact absurd opened other
  · rw [update_of_ne same] at opened
    exact ⟨same, opened⟩

theorem mem_set_or_erase {attempts : List Attempt} {index c left : Nat} (attempt : Attempt)
    (there : attempts[index]? = some (.dialing d left)) (resolved : .resolved c ∈ attempts) :
    Attempt.resolved c ∈ attempts.set index attempt ∧
      Attempt.resolved c ∈ attempts.eraseIdx index := by
  obtain ⟨i, at'⟩ := mem_iff_getElem?.mp resolved
  have apart : i ≠ index := by
    intro same
    rw [same, there] at at'
    cases at'
  constructor
  · apply mem_iff_getElem?.mpr
    refine ⟨i, ?_⟩
    rw [List.getElem?_set_ne (Ne.symm apart)]
    exact at'
  · exact mem_eraseIdx_iff_getElem?.mpr ⟨i, apart, at'⟩

theorem Inv.of_dialing {b' : ClientBase} (inv : Inv b) (connection : b'.connection = b.connection)
    (client : b'.client = b.client) (handled : b'.handled = b.handled)
    (asked : b'.asked = b.asked ∨ b'.asked = true)
    (links : ∀ c, b'.links c = .opened ↔ b.links c = .opened)
    (attempts : ∀ c, .resolved c ∈ b.attempts → Attempt.resolved c ∈ b'.attempts)
    (fresh : ∀ c, b'.created ≤ c → b'.links c = .uncreated) : Inv b' := by
  refine ⟨?_, ?_, ?_, ?_, fresh⟩
  · rw [connection, client]
    exact inv.same
  · intro c held
    rw [client] at held
    rw [handled]
    exact (inv.kept c held).imp_left (links c).mpr
  · intro c opened
    rw [client]
    exact (inv.opened c ((links c).mp opened)).imp_right (attempts c)
  · intro closed
    rw [client]
    rcases asked with same | again
    · exact inv.closed (same.symm.trans closed)
    · rw [again] at closed
      cases closed

theorem update_dialing (other : link ≠ .opened) (before : links d ≠ .opened) (c : Nat) :
    update links d link c = .opened ↔ links c = .opened := by
  by_cases same : c = d
  · subst same
    rw [update_self]
    exact ⟨fun opened => absurd opened other, fun opened => absurd opened before⟩
  · rw [update_of_ne same]

theorem fresh_createConnection {created : Nat} (fresh : ∀ c, created ≤ c → links c = .uncreated)
    (c : Nat) (new : created + 1 ≤ c) : update links created .dialing c = .uncreated := by
  rw [update_of_ne (by omega)]
  exact fresh c (by omega)

theorem fresh_setLink {created : Nat} (fresh : ∀ c, created ≤ c → links c = .uncreated)
    (old : links d ≠ .uncreated) (c : Nat) (new : created ≤ c) :
    update links d link c = .uncreated := by
  have apart : c ≠ d := by
    intro same
    rw [same] at new
    exact old (fresh d new)
  rw [update_of_ne apart]
  exact fresh c new

section

variable (inv : Inv b)
include inv

theorem inv_setLink (other : link ≠ .opened) (before : b.links d ≠ .opened)
    (old : b.links d ≠ .uncreated) : Inv (b.setLink d link) := by
  refine inv.of_dialing rfl rfl rfl (.inl rfl) ?_ ?_ ?_
  · exact update_dialing other before
  · exact fun _ there => there
  · exact fresh_setLink inv.fresh old

theorem update_created (c : Nat) :
    update b.links b.created .dialing c = .opened ↔ b.links c = .opened := by
  apply update_dialing (by simp)
  rw [inv.fresh b.created (Nat.le_refl _)]
  simp

theorem inv_getClient : Inv b.getClient := by
  have again : Inv { b with asked := true } := by
    refine inv.of_dialing rfl rfl rfl (.inr rfl) ?_ ?_ ?_
    · exact fun _ => Iff.rfl
    · exact fun _ there => there
    · exact inv.fresh
  unfold getClient
  dsimp only
  split
  · exact again
  · split
    · exact again
    · rename_i left _
      refine inv.of_dialing rfl rfl rfl (.inr rfl) ?_ ?_ ?_
      · exact update_created again
      · exact fun c there => mem_append_left _ there
      · exact fresh_createConnection inv.fresh

theorem inv_rejected {index c left : Nat}
    (there : b.attempts[index]? = some (.dialing c left)) : Inv (b.rejected index left) := by
  cases left with
  | zero =>
    refine inv.of_dialing rfl rfl rfl (.inl rfl) ?_ ?_ ?_
    · exact fun _ => Iff.rfl
    · exact fun d resolved => (mem_set_or_erase (.resolved d) there resolved).2
    · exact inv.fresh
  | succ left =>
    refine inv.of_dialing rfl rfl rfl (.inl rfl) ?_ ?_ ?_
    · exact update_created inv
    · exact fun d resolved => (mem_set_or_erase _ there resolved).1
    · exact fresh_createConnection inv.fresh

variable (index : Nat)

theorem inv_refused : Inv (b.refused index) := by
  unfold refused
  split
  · rename_i c left there
    split
    · rename_i dialing
      have ended : Inv (b.setLink c .failed) := by
        apply inv_setLink inv <;> simp [dialing]
      exact inv_rejected ended there
    · exact inv
  · exact inv

theorem inv_timedOut : Inv (b.timedOut index) := by
  unfold timedOut
  split
  · rename_i there
    exact inv_rejected inv there
  · exact inv

theorem inv_connected : Inv (b.connected index) := by
  unfold connected
  split
  · rename_i c left there
    split
    · rename_i dialing
      obtain ⟨inside, _⟩ := List.getElem?_eq_some_iff.mp there
      refine ⟨inv.same, ?_, ?_, inv.closed, ?_⟩
      · intro d held
        refine (inv.kept d held).imp_left fun opened => ?_
        show update b.links c .opened d = .opened
        by_cases same : d = c
        · rw [same, update_self]
        · rw [update_of_ne same, opened]
      · intro d opened
        by_cases same : d = c
        · right
          subst same
          exact mem_set inside _
        · change update b.links c .opened d = .opened at opened
          rw [update_of_ne same] at opened
          apply (inv.opened d opened).imp_right
          exact fun resolved => (mem_set_or_erase _ there resolved).1
      · exact fresh_setLink inv.fresh (by simp [dialing])
    · exact inv
  · exact inv

theorem inv_remembered
    (permitted : ∀ attempt ∈ b.attempts[index]?, Wanted b attempt) : Inv (b.remembered index) := by
  unfold remembered
  split
  · rename_i c there
    obtain ⟨none, isOpen, asked⟩ := permitted _ there
    refine ⟨rfl, ?_, ?_, ?_, inv.fresh⟩
    · intro d held
      cases held
      exact ⟨isOpen, update_self c true b.handled⟩
    · intro d opened
      by_cases same : d = c
      · subst same
        exact .inl rfl
      · -- No other was remembered, so this one is still to be.
        right
        rcases inv.opened d opened with held | resolved
        · rw [none] at held
          cases held
        · obtain ⟨i, at'⟩ := mem_iff_getElem?.mp resolved
          apply mem_eraseIdx_iff_getElem?.mpr
          refine ⟨i, fun itself => ?_, at'⟩
          rw [itself, there] at at'
          cases at'
          exact same rfl
    · intro closed
      rw [asked] at closed
      cases closed
  · exact inv

theorem inv_close : Inv b.close := by
  obtain ⟨retryCount, connection, client, attempts, links, handled, created, asked⟩ := b
  obtain ⟨same, kept, opened, _, fresh⟩ := inv
  dsimp only at same kept opened fresh
  subst same
  cases connection with
  | none => exact ⟨rfl, by simp [close], opened, fun _ => rfl, fresh⟩
  | some c =>
    have isOpen : links c = .opened := (kept c rfl).1
    simp only [close, isOpen, if_true]
    refine ⟨rfl, by simp [setLink], ?_, fun _ => rfl, ?_⟩
    · intro d opened'
      obtain ⟨apart, before⟩ := links_update_opened (by simp) opened'
      rcases opened d before with itself | pending
      · exact absurd (Option.some.inj itself).symm apart
      · exact .inr pending
    · exact fresh_setLink fresh (by simp [isOpen])

/-- A connection ends, and its handlers find its own client, or none. -/
theorem inv_lost {c : Nat} (other : link ≠ .opened) (old : b.links c ≠ .uncreated)
    (own : FindsOwn b c) : Inv ((b.setLink c link).lost c) := by
  have isFresh := @fresh_setLink c link b.links b.created inv.fresh old
  have remaining (d : Nat) (opened : (b.setLink c link).links d = .opened) :
      d ≠ c ∧ (b.client = some d ∨ Attempt.resolved d ∈ b.attempts) := by
    obtain ⟨apart, before⟩ := links_update_opened other opened
    exact ⟨apart, inv.opened d before⟩
  unfold lost
  split
  · rename_i handled
    refine ⟨rfl, by simp, ?_, fun _ => rfl, isFresh⟩
    intro d opened
    obtain ⟨apart, held | pending⟩ := remaining d opened
    · exfalso
      rcases own handled with none | itself
      · rw [none] at held
        cases held
      · rw [itself] at held
        exact apart (Option.some.inj held).symm
    · exact .inr pending
  · rename_i unhandled
    refine ⟨inv.same, ?_, fun d opened => (remaining d opened).2, inv.closed, isFresh⟩
    intro d held
    have apart : d ≠ c := by
      intro same
      rw [same] at held
      exact unhandled (inv.kept c held).2
    refine (inv.kept d held).imp_left fun opened => ?_
    show update b.links c link d = .opened
    rw [update_of_ne apart, opened]

theorem inv_failed (c : Nat)
    (permitted : b.links c = .opened ∨ b.links c = .ending → FindsOwn b c) : Inv (b.failed c) := by
  unfold ClientBase.failed
  split
  · rename_i opened
    exact inv_lost inv (by simp) (by simp [opened]) (permitted (.inl opened))
  · rename_i ending
    exact inv_lost inv (by simp) (by simp [ending]) (permitted (.inr ending))
  · rename_i dialing
    split
    · exact inv
    · exact inv_setLink inv (by simp) (by simp [dialing]) (by simp [dialing])
  all_goals exact inv

theorem inv_closed (c : Nat)
    (permitted : b.links c = .opened ∨ b.links c = .ending ∨ b.links c = .failed → FindsOwn b c) :
    Inv (b.closed c) := by
  unfold ClientBase.closed
  split
  · rename_i opened
    exact inv_lost inv (by simp) (by simp [opened]) (permitted (.inl opened))
  · rename_i ending
    exact inv_lost inv (by simp) (by simp [ending]) (permitted (.inr (.inl ending)))
  · rename_i failed
    exact inv_lost inv (by simp) (by simp [failed]) (permitted (.inr (.inr failed)))
  all_goals exact inv

end

theorem inv_step (b : ClientBase) (action : Action) (inv : Inv b)
    (permitted : Permitted b action) : Inv (step b action) := by
  cases action with
  | getClient => exact inv_getClient inv
  | close | requestTimedOut => exact inv_close inv
  | connected index => exact inv_connected inv index
  | refused index => exact inv_refused inv index
  | timedOut index => exact inv_timedOut inv index
  | remembered index => exact inv_remembered inv index permitted
  | failed c => exact inv_failed inv c permitted
  | closed c => exact inv_closed inv c permitted
  | connectedLate c =>
    -- One that is given up does not open.
    have same : b.connectedLate c = b := by
      unfold connectedLate
      split
      · rename_i late
        rw [permitted late.1] at late
        cases late.2
      · rfl
    show Inv (b.connectedLate c)
    rw [same]
    exact inv

theorem inv_new (retryCount : Option Nat) : Inv (new retryCount) := by
  constructor <;> simp [new]

theorem lost_client {c : Nat} (link : Link) (own : FindsOwn b c) (held : b.client = some d)
    (apart : d ≠ c) : ((b.setLink c link).lost c).client = some d := by
  unfold lost
  split
  · rename_i handled
    exfalso
    rcases own handled with none | itself
    · rw [none] at held
      cases held
    · rw [itself] at held
      exact apart (Option.some.inj held).symm
  · exact held

theorem leavesOthers_of_permitted (b : ClientBase) (action : Action)
    (permitted : Permitted b action) : LeavesOthers b action := by
  rintro c (rfl | rfl) d held apart
  · show (b.failed c).client = some d
    unfold ClientBase.failed
    split
    · rename_i opened
      exact lost_client .failed (permitted (.inl opened)) held apart
    · rename_i ending
      exact lost_client .failed (permitted (.inr ending)) held apart
    · split <;> exact held
    all_goals exact held
  · show (b.closed c).client = some d
    unfold ClientBase.closed
    split
    · rename_i opened
      exact lost_client .closed (permitted (.inl opened)) held apart
    · rename_i ending
      exact lost_client .closed (permitted (.inr (.inl ending))) held apart
    · rename_i failed
      exact lost_client .closed (permitted (.inr (.inr failed))) held apart
    all_goals exact held

/-- The second try is answered; the connection fails and another is made, and is ended for a
request that is not answered. -/
def madeAgain : List Action :=
  [.getClient, .refused 0, .connected 0, .remembered 0, .failed 1, .closed 1, .getClient,
    .connected 0, .remembered 0, .requestTimedOut, .closed 2]

def overlapping : List Action :=
  [.getClient, .getClient, .connected 0, .connected 1, .remembered 0, .remembered 0]

def endedLate : List Action :=
  [.getClient, .connected 0, .remembered 0, .close, .getClient, .connected 0, .remembered 0,
    .closed 0]

def givenUp : List Action := [.getClient, .timedOut 0, .connectedLate 0]

def closedEarly : List Action := [.getClient, .close, .connected 0, .remembered 0]

end AkashicSystem.MasterAgentRpc
