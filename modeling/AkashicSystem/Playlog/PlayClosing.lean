import AkashicSystem.Lib.Pool
import AkashicSystem.Playlog.QueueConsumer
import Mathlib.Data.List.Perm.Basic
import Mathlib.Logic.Function.Basic

/-!
# Closing a play

`unsubscribeAndDelete` of `PlaylogQueueConsumer` and `preparePublishPlaylog` of
`PlaylogFixture` for one play, at each call of the broker and of the database,
beside publishers and the deliveries, acknowledgements and requeues of consumers.
-/

set_option autoImplicit false

namespace AkashicSystem.Playlog

open scoped List
open Function (update update_of_ne update_self)
open List (Perm append_assoc append_nil cons_append perm_middle)

/-- The play has a store queue and a store exchange of each kind. -/
inductive Kind where
  | tick
  | startPoint
deriving DecidableEq

/-- A queue of the broker, with the messages that are delivered and not acknowledged. -/
structure BrokerQueue (M : Type) where
  ready : List M
  unacked : List M
  consumers : Nat
  bound : Bool

/-- What the broker, the database and the workers have of a play. -/
structure ClosingPlay (M : Type) where
  queue : Kind → Option (BrokerQueue M)
  exchange : Kind → Bool
  /-- Messages delivered and not acknowledged whose queue is gone. -/
  orphaned : Kind → List M
  acknowledged : Kind → List M
  published : Kind → List M
  /-- The workers whose `subscriptionMap` has the play. -/
  subscribed : Nat → Bool
  /-- `writeStatus`; `none` where the play has no row. -/
  status : Option WriteStatus
  resumptions : Nat

inductive ClosingTask (M : Type) where
  -- `unsubscribeAndDelete` of a worker, with how often the play had been set playing
  -- when it checked
  | checksTick (worker : Nat)
  | checksStartPoint (worker since : Nat) (found : Bool)
  | cancelsTick (worker since : Nat)
  | cancelsStartPoint (worker since : Nat)
  | assertsTick (since : Nat)
  | assertsStartPoint (since tickConsumers : Nat)
  | deletesTick (since tickConsumers startPointConsumers : Nat)
  | deletesStartPoint (since startPointConsumers : Nat)
  | setsClosed (since : Nat)
  | skipped
  | closed (since upto : Nat)
  -- `preparePublishPlaylog`
  | assertsExchange (kind : Kind)
  | assertsQueue (kind : Kind)
  | binds (kind : Kind)
  | setsPlaying
  -- publishers and consumers
  | publishes (kind : Kind) (message : M)
  | delivers (kind : Kind)
  | acknowledges (kind : Kind) (index : Nat)
  | requeues (kind : Kind) (index : Nat)
  | acknowledgesOrphan (kind : Kind) (index : Nat)
  | requeuesOrphan (kind : Kind) (index : Nat)
  | done
  | failed

/-- Whether a call of the broker or of the database succeeds. -/
inductive Reply where
  | ok
  | error

def ClosingTask.begins {M : Type} : ClosingTask M → Bool
  | .checksTick _ | .assertsExchange .tick | .publishes .. | .delivers _ | .acknowledges ..
  | .requeues .. | .acknowledgesOrphan .. | .requeuesOrphan .. => true
  | _ => false

namespace ClosingTask

variable {M : Type}

/-- The task has found the queue empty, and goes on to delete it. -/
def watches (kind : Kind) : ClosingTask M → Bool
  | .checksStartPoint _ _ found => kind = .tick && !found
  | .cancelsTick .. | .cancelsStartPoint .. | .assertsTick _ => true
  | .assertsStartPoint _ tickConsumers => kind = .startPoint || tickConsumers = 0
  | .deletesTick _ tickConsumers startPointConsumers =>
    (if kind = .tick then tickConsumers else startPointConsumers) = 0
  | .deletesStartPoint _ startPointConsumers => kind = .startPoint && startPointConsumers = 0
  | _ => false

/-- How often the play had been set playing when the task checked, up to the status write. -/
def since? : ClosingTask M → Option Nat
  | .checksStartPoint _ since _ | .cancelsTick _ since | .cancelsStartPoint _ since
  | .assertsTick since | .assertsStartPoint since _ | .deletesTick since _ _
  | .deletesStartPoint since _ | .setsClosed since => some since
  | _ => none

end ClosingTask

namespace ClosingPlay

variable {M : Type}

variable (s : ClosingPlay M)

variable (kind : Kind)

def setQueue (queue : Option (BrokerQueue M)) :
    ClosingPlay M := { s with queue := update s.queue kind queue }

def assertQueue : ClosingPlay M :=
  match s.queue kind with
  | none => s.setQueue kind (some ⟨[], [], 0, false⟩)
  | some _ => s

def consumerCount : Nat :=
  ((s.queue kind).map BrokerQueue.consumers).getD 0

def cancel : ClosingPlay M :=
  match s.queue kind with
  | none => s
  | some q => s.setQueue kind (some { q with consumers := q.consumers - 1 })

def deleteQueue : ClosingPlay M :=
  match s.queue kind with
  | none => s
  | some q =>
    { s.setQueue kind none with
      orphaned := update s.orphaned kind (s.orphaned kind ++ q.unacked) }

def publish (message : M) : ClosingPlay M :=
  let taken := { s with
    published := update s.published kind (s.published kind ++ [message]) }
  match s.queue kind with
  | none => taken
  | some q =>
    if q.bound then taken.setQueue kind (some { q with ready := q.ready ++ [message] }) else taken

/-- The next call of the task; `none` where it is settled or there is nothing to do. -/
def next :
    ClosingTask M → Reply → Option (ClosingPlay M × ClosingTask M)
  -- `hasMessage` gives null where a check throws, as it does for a missing queue
  | .checksTick worker, .error => some (s, .cancelsTick worker s.resumptions)
  | .checksTick worker, .ok =>
    match s.queue .tick with
    | none => some (s, .cancelsTick worker s.resumptions)
    | some q => some (s, .checksStartPoint worker s.resumptions !q.ready.isEmpty)
  | .checksStartPoint worker since _, .error => some (s, .cancelsTick worker since)
  | .checksStartPoint worker since found, .ok =>
    match s.queue .startPoint with
    | none => some (s, .cancelsTick worker since)
    | some q =>
      some (s, if found || !q.ready.isEmpty then .skipped else .cancelsTick worker since)
  | .cancelsTick worker since, .ok =>
    if s.subscribed worker then some (s.cancel .tick, .cancelsStartPoint worker since)
    else some (s, .assertsTick since)
  | .cancelsStartPoint worker since, .ok =>
    some ({ s.cancel .startPoint with subscribed := update s.subscribed worker false },
      .assertsTick since)
  | .assertsTick since, .ok =>
    some (s.assertQueue .tick, .assertsStartPoint since (s.consumerCount .tick))
  | .assertsStartPoint since tickConsumers, .ok =>
    some (s.assertQueue .startPoint,
      .deletesTick since tickConsumers (s.consumerCount .startPoint))
  | .deletesTick since tickConsumers startPointConsumers, .ok =>
    some (if tickConsumers = 0 then s.deleteQueue .tick else s,
      .deletesStartPoint since startPointConsumers)
  | .deletesStartPoint since startPointConsumers, .ok =>
    some (if startPointConsumers = 0 then s.deleteQueue .startPoint else s, .setsClosed since)
  | .setsClosed since, .ok =>
    some ({ s with status := s.status.map fun _ => .closed }, .closed since s.resumptions)
  | .assertsExchange kind, .ok =>
    some ({ s with exchange := update s.exchange kind true },
      if kind = .tick then .assertsExchange .startPoint else .assertsQueue .tick)
  | .assertsQueue kind, .ok =>
    some (s.assertQueue kind, if kind = .tick then .assertsQueue .startPoint else .binds .tick)
  | .binds kind, .ok =>
    match s.queue kind with
    | none => some (s, .failed)
    | some q =>
      if s.exchange kind then
        some (s.setQueue kind (some { q with bound := true }),
          if kind = .tick then .binds .startPoint else .setsPlaying)
      else some (s, .failed)
  | .setsPlaying, .ok =>
    some ({ s with status := some .playing, resumptions := s.resumptions + 1 }, .done)
  | .publishes kind message, .ok =>
    if s.exchange kind then some (s.publish kind message, .done) else some (s, .failed)
  | .delivers kind, .ok =>
    match s.queue kind with
    | none => none
    | some q =>
      match q.ready with
      | [] => none
      | message :: rest =>
        if q.consumers = 0 then none
        else
          some (s.setQueue kind
            (some { q with ready := rest, unacked := q.unacked ++ [message] }), .done)
  | .acknowledges kind index, .ok =>
    match s.queue kind with
    | none => none
    | some q =>
      match q.unacked[index]? with
      | none => none
      | some message =>
        some ({ s.setQueue kind (some { q with unacked := q.unacked.eraseIdx index }) with
          acknowledged := update s.acknowledged kind
            (message :: s.acknowledged kind) }, .done)
  | .requeues kind index, .ok =>
    match s.queue kind with
    | none => none
    | some q =>
      match q.unacked[index]? with
      | none => none
      | some message =>
        some (s.setQueue kind (some { q with
          ready := message :: q.ready, unacked := q.unacked.eraseIdx index }), .done)
  | .acknowledgesOrphan kind index, .ok =>
    match (s.orphaned kind)[index]? with
    | none => none
    | some message =>
      some ({ s with
        orphaned := update s.orphaned kind ((s.orphaned kind).eraseIdx index)
        acknowledged := update s.acknowledged kind
          (message :: s.acknowledged kind) }, .done)
  | .requeuesOrphan kind index, .ok =>
    match (s.orphaned kind)[index]? with
    | none => none
    | some _ =>
      some ({ s with
        orphaned := update s.orphaned kind ((s.orphaned kind).eraseIdx index) }, .done)
  | .skipped, _ | .closed .., _ | .done, _ | .failed, _ => none
  | _, .error => some (s, .failed)

def messages : Option (BrokerQueue M) → List M
  | none => []
  | some q => q.ready ++ q.unacked

def held : List M :=
  messages (s.queue kind) ++ s.orphaned kind ++ s.acknowledged kind

variable {s s' : ClosingPlay M} {task task' : ClosingTask M} {reply : Reply}

@[simp] theorem published_assertQueue (kind : Kind) :
    (s.assertQueue kind).published = s.published := by
  unfold assertQueue
  split <;> rfl

@[simp] theorem published_cancel (kind : Kind) : (s.cancel kind).published = s.published := by
  unfold cancel
  split <;> rfl

@[simp] theorem published_deleteQueue (kind : Kind) :
    (s.deleteQueue kind).published = s.published := by
  unfold deleteQueue
  split <;> rfl

@[simp] theorem resumptions_assertQueue (kind : Kind) :
    (s.assertQueue kind).resumptions = s.resumptions := by
  unfold assertQueue
  split <;> rfl

@[simp] theorem resumptions_cancel (kind : Kind) : (s.cancel kind).resumptions = s.resumptions := by
  unfold cancel
  split <;> rfl

@[simp] theorem resumptions_deleteQueue (kind : Kind) :
    (s.deleteQueue kind).resumptions = s.resumptions := by
  unfold deleteQueue
  split <;> rfl

theorem held_setQueue (kind : Kind) (queue : Option (BrokerQueue M))
    (same : (messages queue).Perm (messages (s.queue kind))) (k : Kind) :
    ((s.setQueue kind queue).held k).Perm (s.held k) := by
  by_cases here : k = kind
  · subst here
    simp only [held, setQueue, update_self]
    exact (same.append_right _).append_right _
  · simp only [held, setQueue, update_of_ne here]
    exact Perm.refl _

theorem held_assertQueue (kind k : Kind) : ((s.assertQueue kind).held k).Perm (s.held k) := by
  unfold assertQueue
  cases queue : s.queue kind with
  | none =>
    refine held_setQueue kind _ ?_ k
    rw [queue]
    exact Perm.refl _
  | some q => exact Perm.refl _

theorem held_cancel (kind k : Kind) : ((s.cancel kind).held k).Perm (s.held k) := by
  unfold cancel
  cases queue : s.queue kind with
  | none => exact Perm.refl _
  | some q =>
    refine held_setQueue kind _ ?_ k
    rw [queue]
    exact Perm.refl _

theorem held_deleteQueue (kind k : Kind) (idle : ∀ q, s.queue kind = some q → q.ready = []) :
    ((s.deleteQueue kind).held k).Perm (s.held k) := by
  unfold deleteQueue
  cases queue : s.queue kind with
  | none => exact Perm.refl _
  | some q =>
    by_cases here : k = kind
    · subst here
      simp only [held, setQueue, update_self, queue, messages, idle q queue,
        List.nil_append]
      exact List.perm_append_comm.append_right _
    · simp only [held, setQueue, update_of_ne here]
      exact Perm.refl _

theorem queue_publish_of_ne {kind k : Kind} (message : M) (other : k ≠ kind) :
    (s.publish kind message).queue k = s.queue k := by
  unfold publish
  split
  · rfl
  · split
    · exact update_of_ne other ..
    · rfl

theorem held_publish (kind k : Kind) (message : M)
    (bound : ∃ q, s.queue kind = some q ∧ q.bound = true) :
    ∃ new, ((s.publish kind message).held k).Perm (s.held k ++ new) ∧
      (s.publish kind message).published k = s.published k ++ new := by
  obtain ⟨q, queue, bound⟩ := bound
  unfold publish
  rw [queue]
  dsimp only
  rw [if_pos bound]
  by_cases here : k = kind
  · subst here
    refine ⟨[message], ?_, update_self ..⟩
    simp only [held, setQueue, update_self, queue, messages]
    rw [append_assoc, append_assoc, append_assoc, append_assoc,
      append_assoc, append_assoc]
    refine Perm.append_left q.ready ?_
    rw [← append_assoc q.unacked, ← append_assoc q.unacked,
      ← append_assoc (q.unacked ++ s.orphaned k)]
    exact List.perm_append_comm
  · refine ⟨[], ?_, ?_⟩
    · simp only [held, setQueue, update_of_ne here, append_nil]
      exact Perm.refl _
    · simp only [setQueue, update_of_ne here, append_nil]

theorem perm_eraseIdx (l : List M) (index : Nat) (message : M) (there : l[index]? = some message) :
    (message :: l.eraseIdx index).Perm l := by
  obtain ⟨inside, rfl⟩ := List.getElem?_eq_some_iff.mp there
  exact List.getElem_cons_eraseIdx_perm inside

theorem held_requeues (kind k : Kind) (q : BrokerQueue M) (index : Nat) (message : M)
    (queue : s.queue kind = some q) (there : q.unacked[index]? = some message) :
    ((s.setQueue kind (some { q with
      ready := message :: q.ready, unacked := q.unacked.eraseIdx index })).held k).Perm
        (s.held k) := by
  refine held_setQueue kind _ ?_ k
  rw [queue]
  show (message :: (q.ready ++ q.unacked.eraseIdx index)).Perm (q.ready ++ q.unacked)
  exact perm_middle.symm.trans ((perm_eraseIdx q.unacked index message there).append_left _)

theorem held_acknowledges (kind k : Kind) (q : BrokerQueue M) (index : Nat) (message : M)
    (queue : s.queue kind = some q) (there : q.unacked[index]? = some message) :
    (({ s.setQueue kind (some { q with unacked := q.unacked.eraseIdx index }) with
      acknowledged := update s.acknowledged kind (message :: s.acknowledged kind) } :
        ClosingPlay M).held k).Perm (s.held k) := by
  by_cases here : k = kind
  · subst here
    simp only [held, setQueue, update_self, queue, messages]
    refine perm_middle.trans ?_
    rw [← cons_append, ← cons_append]
    refine (Perm.append_right _ ?_).append_right _
    exact perm_middle.symm.trans ((perm_eraseIdx q.unacked index message there).append_left _)
  · simp only [held, setQueue, update_of_ne here]
    exact Perm.refl _

theorem held_acknowledgesOrphan (kind k : Kind) (index : Nat) (message : M)
    (there : (s.orphaned kind)[index]? = some message) : (({ s with
      orphaned := update s.orphaned kind ((s.orphaned kind).eraseIdx index)
      acknowledged := update s.acknowledged kind (message :: s.acknowledged kind) } :
        ClosingPlay M).held k).Perm (s.held k) := by
  by_cases here : k = kind
  · subst here
    simp only [held, update_self]
    refine perm_middle.trans ?_
    rw [← cons_append]
    refine Perm.append_right _ ?_
    exact perm_middle.symm.trans ((perm_eraseIdx _ index message there).append_left _)
  · simp only [held, update_of_ne here]
    exact Perm.refl _

variable {kind}

theorem next_binds (moves : s.next (.binds kind) .ok = some (s', task')) :
    s' = s ∧ task' = .failed ∨ ∃ q, s.queue kind = some q ∧
      s' = s.setQueue kind (some { q with bound := true }) ∧
      task' = if kind = .tick then .binds .startPoint else .setsPlaying := by
  simp only [next] at moves
  cases queue : s.queue kind with
  | none =>
    rw [queue] at moves
    cases moves
    exact .inl ⟨rfl, rfl⟩
  | some q =>
    rw [queue] at moves
    dsimp only at moves
    split at moves
    · cases moves
      exact .inr ⟨q, rfl, rfl, rfl⟩
    · cases moves
      exact .inl ⟨rfl, rfl⟩

theorem next_delivers (moves : s.next (.delivers kind) .ok = some (s', task')) :
    ∃ q message rest, s.queue kind = some q ∧ q.ready = message :: rest ∧
      s' = s.setQueue kind
        (some { q with ready := rest, unacked := q.unacked ++ [message] }) ∧ task' = .done := by
  simp only [next] at moves
  cases queue : s.queue kind with
  | none =>
    rw [queue] at moves
    cases moves
  | some q =>
    rw [queue] at moves
    dsimp only at moves
    cases ready : q.ready with
    | nil =>
      rw [ready] at moves
      cases moves
    | cons message rest =>
      rw [ready] at moves
      dsimp only at moves
      split at moves
      · cases moves
      · cases moves
        exact ⟨q, message, rest, rfl, ready, rfl, rfl⟩

theorem next_acknowledges {index : Nat}
    (moves : s.next (.acknowledges kind index) .ok = some (s', task')) :
    ∃ q message, s.queue kind = some q ∧ q.unacked[index]? = some message ∧
      s' = { s.setQueue kind (some { q with unacked := q.unacked.eraseIdx index }) with
        acknowledged := update s.acknowledged kind (message :: s.acknowledged kind) } ∧
      task' = .done := by
  simp only [next] at moves
  cases queue : s.queue kind with
  | none =>
    rw [queue] at moves
    cases moves
  | some q =>
    rw [queue] at moves
    dsimp only at moves
    cases there : q.unacked[index]? with
    | none =>
      rw [there] at moves
      cases moves
    | some message =>
      rw [there] at moves
      cases moves
      exact ⟨q, message, rfl, there, rfl, rfl⟩

theorem next_requeues {index : Nat}
    (moves : s.next (.requeues kind index) .ok = some (s', task')) :
    ∃ q message, s.queue kind = some q ∧ q.unacked[index]? = some message ∧
      s' = s.setQueue kind (some { q with
        ready := message :: q.ready, unacked := q.unacked.eraseIdx index }) ∧ task' = .done := by
  simp only [next] at moves
  cases queue : s.queue kind with
  | none =>
    rw [queue] at moves
    cases moves
  | some q =>
    rw [queue] at moves
    dsimp only at moves
    cases there : q.unacked[index]? with
    | none =>
      rw [there] at moves
      cases moves
    | some message =>
      rw [there] at moves
      cases moves
      exact ⟨q, message, rfl, there, rfl, rfl⟩

def Idle (s : ClosingPlay M) (kind : Kind) : Prop := ∀ q ∈ s.queue kind, q.ready = []

/-- The call discards no message. -/
def Spares (s : ClosingPlay M) : ClosingTask M → Reply → Prop
  | .deletesTick _ tickConsumers _, .ok => tickConsumers = 0 → s.Idle .tick
  | .deletesStartPoint _ startPointConsumers, .ok => startPointConsumers = 0 → s.Idle .startPoint
  | .publishes kind _, .ok =>
    s.exchange kind = true → (s.queue kind).any BrokerQueue.bound = true
  | .requeuesOrphan kind index, .ok => (s.orphaned kind)[index]? = none
  | _, _ => True

/-- A call that spares the messages keeps them, with those that it publishes. -/
theorem next_held (moves : s.next task reply = some (s', task')) (spares : s.Spares task reply)
    (k : Kind) : ∃ new, (s'.held k).Perm (s.held k ++ new) ∧
      s'.published k = s.published k ++ new := by
  have unchanged : (s'.held k).Perm (s.held k) → s'.published k = s.published k →
      ∃ new, (s'.held k).Perm (s.held k ++ new) ∧ s'.published k = s.published k ++ new := by
    intro held published
    exact ⟨[], by rwa [append_nil], by rwa [append_nil]⟩
  cases reply with
  | error =>
    cases task <;> cases moves <;> exact unchanged (Perm.refl _) rfl
  | ok =>
    cases task with
    | checksTick worker | checksStartPoint worker since found =>
      simp only [next] at moves
      split at moves <;> cases moves <;> exact unchanged (Perm.refl _) rfl
    | cancelsTick worker since =>
      simp only [next] at moves
      split at moves
      · cases moves
        exact unchanged (held_cancel .tick k) (by simp)
      · cases moves
        exact unchanged (Perm.refl _) rfl
    | cancelsStartPoint worker since =>
      cases moves
      exact unchanged (held_cancel .startPoint k) (by simp)
    | assertsTick since =>
      cases moves
      exact unchanged (held_assertQueue .tick k) (by simp)
    | assertsStartPoint since tickConsumers =>
      cases moves
      exact unchanged (held_assertQueue .startPoint k) (by simp)
    | deletesTick since tickConsumers startPointConsumers =>
      simp only [next] at moves
      split at moves
      · next idle =>
        cases moves
        exact unchanged (held_deleteQueue .tick k (spares idle)) (by simp)
      · cases moves
        exact unchanged (Perm.refl _) rfl
    | deletesStartPoint since startPointConsumers =>
      simp only [next] at moves
      split at moves
      · next idle =>
        cases moves
        exact unchanged (held_deleteQueue .startPoint k (spares idle)) (by simp)
      · cases moves
        exact unchanged (Perm.refl _) rfl
    | setsClosed since | assertsExchange kind =>
      cases moves; exact unchanged (Perm.refl _) rfl
    | assertsQueue kind =>
      cases moves
      exact unchanged (held_assertQueue kind k) (by simp)
    | binds kind =>
      rcases next_binds moves with ⟨rfl, -⟩ | ⟨q, queue, rfl, -⟩
      · exact unchanged (Perm.refl _) rfl
      · refine unchanged (held_setQueue kind _ ?_ k) rfl
        rw [queue]
        exact Perm.refl _
    | setsPlaying => cases moves; exact unchanged (Perm.refl _) rfl
    | publishes kind message =>
      simp only [next] at moves
      split at moves
      · next exchange =>
        cases moves
        obtain ⟨q, queue, bound⟩ := (Option.any_eq_true _ _).mp (spares exchange)
        exact held_publish kind k message ⟨q, queue, bound⟩
      · cases moves
        exact unchanged (Perm.refl _) rfl
    | delivers kind =>
      obtain ⟨q, message, rest, queue, ready, rfl, -⟩ := next_delivers moves
      refine unchanged (held_setQueue kind _ ?_ k) rfl
      rw [queue]
      simp only [messages, ready, cons_append]
      rw [← append_assoc]
      exact List.perm_append_singleton message _
    | acknowledges kind index =>
      obtain ⟨q, message, queue, there, rfl, -⟩ := next_acknowledges moves
      exact unchanged (held_acknowledges kind k q index message queue there) rfl
    | requeues kind index =>
      obtain ⟨q, message, queue, there, rfl, -⟩ := next_requeues moves
      exact unchanged (held_requeues kind k q index message queue there) rfl
    | acknowledgesOrphan kind index =>
      simp only [next] at moves
      cases there : (s.orphaned kind)[index]? with
      | none =>
        rw [there] at moves
        cases moves
      | some message =>
        rw [there] at moves
        cases moves
        exact unchanged (held_acknowledgesOrphan kind k index message there) rfl
    | requeuesOrphan kind index =>
      simp only [next] at moves
      rw [show (s.orphaned kind)[index]? = none from spares] at moves
      cases moves
    | skipped | closed since upto | done | failed => cases moves

/-! ## What falls between the check of a queue and its deletion -/

theorem idle_setQueue {kind : Kind} (k : Kind) (queue : Option (BrokerQueue M))
    (empty : k = kind → ∀ q ∈ queue, q.ready = []) (idle : s.Idle k) :
    (s.setQueue kind queue).Idle k := by
  intro q there
  by_cases here : k = kind
  · subst here
    change q ∈ update s.queue k queue k at there
    rw [update_self] at there
    exact empty rfl q there
  · change q ∈ update s.queue kind queue k at there
    rw [update_of_ne here] at there
    exact idle q there

theorem idle_assertQueue (kind k : Kind) (idle : s.Idle k) : (s.assertQueue kind).Idle k := by
  unfold assertQueue
  split
  · exact idle_setQueue k _ (by simp) idle
  · exact idle

theorem idle_cancel (kind k : Kind) (idle : s.Idle k) : (s.cancel kind).Idle k := by
  unfold cancel
  split
  · exact idle
  · next q queue =>
    refine idle_setQueue k _ ?_ idle
    rintro rfl q' there
    cases there
    exact idle q queue

theorem idle_deleteQueue (kind k : Kind) (idle : s.Idle k) : (s.deleteQueue kind).Idle k := by
  unfold deleteQueue
  split
  · exact idle
  · exact idle_setQueue (s := s) k none (by simp) idle

/-- What a call of one task does to the closing tasks. -/
structure Passes (s : ClosingPlay M) (task : ClosingTask M) (s' : ClosingPlay M)
    (task' : ClosingTask M) : Prop where
  idle : ∀ kind, (∀ m, task = .publishes kind m → s.exchange kind = false) →
    (∀ index, task ≠ .requeues kind index) → s.Idle kind → s'.Idle kind
  watches : ∀ kind, task'.watches kind = true → task.watches kind = true ∨ s'.Idle kind
  resumptions : task ≠ .setsPlaying → s'.resumptions = s.resumptions
  since : ∀ since, task'.since? = some since →
    task.since? = some since ∨ since = s.resumptions ∧ task ≠ .setsPlaying
  closed : ∀ since upto, task' = .closed since upto →
    task.since? = some since ∧ upto = s.resumptions

/-- The task is not closing the play any more. -/
def Ended (task : ClosingTask M) : Prop :=
  (∀ kind, task.watches kind = false) ∧ task.since? = none ∧ ∀ since upto, task ≠ .closed since upto

theorem Passes.of_ended (ended : Ended task')
    (idle : ∀ kind, (∀ m, task = .publishes kind m → s.exchange kind = false) →
      (∀ index, task ≠ .requeues kind index) → s.Idle kind → s'.Idle kind)
    (resumptions : task ≠ .setsPlaying → s'.resumptions = s.resumptions) :
    Passes s task s' task' := by
  obtain ⟨unwatched, unclosing, unclosed⟩ := ended
  refine ⟨idle, fun kind watches => ?_, resumptions, fun since closing => ?_,
    fun since upto closed => absurd closed (unclosed since upto)⟩
  · rw [unwatched kind] at watches
    cases watches
  · rw [unclosing] at closing
    cases closing

theorem Passes.of_going {since : Nat} (idle : ∀ kind, s.Idle kind → s'.Idle kind)
    (same : s'.resumptions = s.resumptions)
    (watches : ∀ kind, task'.watches kind = true → task.watches kind = true ∨ s.Idle kind)
    (before : task.since? = some since ∨ since = s.resumptions ∧ task ≠ .setsPlaying)
    (after : task'.since? = some since) : Passes s task s' task' := by
  refine ⟨fun kind _ _ => idle kind, fun kind found => (watches kind found).imp_right (idle kind),
    fun _ => same, fun since' closing => ?_, ?_⟩
  · obtain rfl : since = since' := Option.some.inj (after.symm.trans closing)
    exact before
  · rintro since' upto rfl
    cases after

/-- `hasMessage` fails, or does not find a queue, only while no message is ready. -/
def Checks (s : ClosingPlay M) : ClosingTask M → Reply → Prop
  | .checksTick _, .error | .checksStartPoint .., .error => s.Idle .tick ∧ s.Idle .startPoint
  | .checksTick _, .ok => (s.queue .tick).isNone = true → s.Idle .tick ∧ s.Idle .startPoint
  | .checksStartPoint .., .ok =>
    (s.queue .startPoint).isNone = true → s.Idle .tick ∧ s.Idle .startPoint
  | _, _ => True

theorem idle_of_both (both : s.Idle .tick ∧ s.Idle .startPoint) (kind : Kind) : s.Idle kind := by
  cases kind with
  | tick => exact both.1
  | startPoint => exact both.2

theorem Passes.of_same (ended : Ended task') : Passes s task s task' :=
  .of_ended ended (fun _ _ _ idle => idle) fun _ => rfl

theorem passes_checksTick {worker : Nat}
    (moves : s.next (.checksTick worker) reply = some (s', task'))
    (checks : s.Checks (.checksTick worker) reply) : Passes s (.checksTick worker) s' task' := by
  have unfound (idle : ∀ kind, s.Idle kind) :
      Passes s (.checksTick worker) s (.cancelsTick worker s.resumptions) :=
    .of_going (fun _ idle => idle) rfl (fun kind _ => .inr (idle kind)) (.inr ⟨rfl, by simp⟩) rfl
  cases reply with
  | error =>
    cases moves
    exact unfound (idle_of_both checks)
  | ok =>
    simp only [next] at moves
    cases queue : s.queue .tick with
    | none =>
      rw [queue] at moves
      cases moves
      exact unfound (idle_of_both (checks (by rw [queue]; rfl)))
    | some q =>
      rw [queue] at moves
      cases moves
      refine .of_going (fun _ idle => idle) rfl (fun kind watches => .inr ?_)
        (.inr ⟨rfl, by simp⟩) rfl
      obtain ⟨isTick, empty⟩ := Bool.and_eq_true_iff.mp watches
      obtain rfl := of_decide_eq_true isTick
      intro q' there
      obtain rfl : q = q' := Option.some.inj (queue.symm.trans there)
      simpa using empty

theorem passes_checksStartPoint {worker since : Nat} {found : Bool}
    (moves : s.next (.checksStartPoint worker since found) reply = some (s', task'))
    (checks : s.Checks (.checksStartPoint worker since found) reply) :
    Passes s (.checksStartPoint worker since found) s' task' := by
  have unfound (idle : ∀ kind, s.Idle kind) :
      Passes s (.checksStartPoint worker since found) s (.cancelsTick worker since) :=
    .of_going (fun _ idle => idle) rfl (fun kind _ => .inr (idle kind)) (.inl rfl) rfl
  cases reply with
  | error =>
    cases moves
    exact unfound (idle_of_both checks)
  | ok =>
    simp only [next] at moves
    cases queue : s.queue .startPoint with
    | none =>
      rw [queue] at moves
      cases moves
      exact unfound (idle_of_both (checks (by rw [queue]; rfl)))
    | some q =>
      rw [queue] at moves
      dsimp only at moves
      split at moves
      · cases moves
        exact .of_same ⟨fun _ => rfl, rfl, by simp⟩
      · next empty =>
        cases moves
        refine .of_going (fun _ idle => idle) rfl (fun kind _ => ?_) (.inl rfl) rfl
        simp only [Bool.or_eq_true, not_or, Bool.not_eq_true, Bool.not_eq_false'] at empty
        cases kind with
        | tick => exact .inl (by simp [ClosingTask.watches, empty.1])
        | startPoint =>
          refine .inr fun q' there => ?_
          obtain rfl : q = q' := Option.some.inj (queue.symm.trans there)
          exact List.isEmpty_iff.mp empty.2

/-- A publication makes no queue ready but its own. -/
theorem passes_publishes {message : M}
    (moves : s.next (.publishes kind message) .ok = some (s', task')) :
    Passes s (.publishes kind message) s' task' := by
  simp only [next] at moves
  split at moves
  · next exchange =>
    cases moves
    refine .of_ended ⟨fun _ => rfl, rfl, by simp⟩ (fun k unpublished _ idle => ?_) fun _ => ?_
    · have other : k ≠ kind := by
        rintro rfl
        rw [unpublished message rfl] at exchange
        cases exchange
      intro q there
      exact idle q (by rwa [queue_publish_of_ne message other] at there)
    · unfold publish
      split
      · rfl
      · split <;> rfl
  · cases moves
    exact .of_same ⟨fun _ => rfl, rfl, by simp⟩

/-- What the broker does with a queue that has a message, or with one that is bound. -/
theorem Passes.of_setQueue {queue : Option (BrokerQueue M)} (ended : Ended task')
    (empty : (∀ index, task ≠ .requeues kind index) → s.Idle kind → ∀ q ∈ queue, q.ready = [])
    (s' : ClosingPlay M) (same : s'.queue = (s.setQueue kind queue).queue)
    (resumptions : s'.resumptions = s.resumptions) : Passes s task s' task' := by
  refine .of_ended ended (fun k _ other idle q there => ?_) fun _ => resumptions
  have kept : (s.setQueue kind queue).Idle k := by
    refine idle_setQueue k queue ?_ idle
    rintro rfl
    exact empty other idle
  rw [same] at there
  exact kept q there

theorem next_passes (moves : s.next task reply = some (s', task')) (checks : s.Checks task reply) :
    Passes s task s' task' := by
  have same (kind : Kind) (idle : s.Idle kind) : s.Idle kind := idle
  cases reply with
  | error =>
    cases task with
    | checksTick worker => exact passes_checksTick moves checks
    | checksStartPoint worker since found => exact passes_checksStartPoint moves checks
    | _ => cases moves <;> exact .of_same ⟨fun _ => rfl, rfl, by simp⟩
  | ok =>
    cases task with
    | checksTick worker => exact passes_checksTick moves checks
    | checksStartPoint worker since found => exact passes_checksStartPoint moves checks
    | cancelsTick worker since =>
      simp only [next] at moves
      split at moves
      · cases moves
        exact .of_going (idle_cancel .tick) (by simp) (fun _ _ => .inl rfl) (.inl rfl) rfl
      · cases moves
        exact .of_going same rfl (fun _ _ => .inl rfl) (.inl rfl) rfl
    | cancelsStartPoint worker since =>
      cases moves
      exact .of_going (idle_cancel .startPoint) (by simp) (fun _ _ => .inl rfl) (.inl rfl) rfl
    | assertsTick since =>
      cases moves
      exact .of_going (idle_assertQueue .tick) (by simp) (fun _ _ => .inl rfl) (.inl rfl) rfl
    | assertsStartPoint since tickConsumers =>
      cases moves
      refine .of_going (idle_assertQueue .startPoint) (by simp) (fun kind watches => .inl ?_)
        (.inl rfl) rfl
      cases kind with
      | tick => exact watches
      | startPoint => rfl
    | deletesTick since tickConsumers startPointConsumers =>
      cases moves
      refine .of_going (fun kind idle => ?_) (by split <;> simp) (fun kind watches => .inl ?_)
        (.inl rfl) rfl
      · split
        · exact idle_deleteQueue .tick kind idle
        · exact idle
      · cases kind with
        | tick => cases watches
        | startPoint => exact watches
    | deletesStartPoint since startPointConsumers =>
      cases moves
      refine .of_going (fun kind idle => ?_) (by split <;> simp)
        (fun kind watches => by cases watches) (.inl rfl) rfl
      split
      · exact idle_deleteQueue .startPoint kind idle
      · exact idle
    | setsClosed since =>
      cases moves
      refine ⟨fun kind _ _ => same kind, fun kind watches => ?_, fun _ => rfl,
        fun _ closing => ?_, fun since' upto closed => ?_⟩
      · cases watches
      · cases closing
      · cases closed
        exact ⟨rfl, rfl⟩
    | assertsExchange kind =>
      cases moves
      exact .of_ended (by cases kind <;> exact ⟨fun _ => rfl, rfl, by simp⟩)
        (fun kind _ _ => same kind) fun _ => rfl
    | assertsQueue kind =>
      cases moves
      exact .of_ended (by cases kind <;> exact ⟨fun _ => rfl, rfl, by simp⟩)
        (fun k _ _ => idle_assertQueue kind k) fun _ => by simp
    | binds kind =>
      rcases next_binds moves with ⟨rfl, rfl⟩ | ⟨q, queue, rfl, rfl⟩
      · exact .of_same ⟨fun _ => rfl, rfl, by simp⟩
      · refine .of_setQueue (by cases kind <;> exact ⟨fun _ => rfl, rfl, by simp⟩)
          (fun _ idle q' there => ?_) _ rfl rfl
        cases there
        exact idle q queue
    | setsPlaying =>
      cases moves
      exact .of_ended ⟨fun _ => rfl, rfl, by simp⟩ (fun kind _ _ => same kind)
        fun other => absurd rfl other
    | publishes kind message => exact passes_publishes moves
    | delivers kind =>
      obtain ⟨q, message, rest, queue, ready, rfl, rfl⟩ := next_delivers moves
      refine .of_setQueue ⟨fun _ => rfl, rfl, by simp⟩ (fun _ idle => ?_) _ rfl rfl
      have empty := idle q queue
      rw [ready] at empty
      cases empty
    | acknowledges kind index =>
      obtain ⟨q, message, queue, -, rfl, rfl⟩ := next_acknowledges moves
      refine .of_setQueue ⟨fun _ => rfl, rfl, by simp⟩ (fun _ idle q' there => ?_) _ rfl rfl
      cases there
      exact idle q queue
    | requeues kind index =>
      obtain ⟨q, message, -, -, rfl, rfl⟩ := next_requeues moves
      exact .of_setQueue ⟨fun _ => rfl, rfl, by simp⟩ (fun other => absurd rfl (other index))
        _ rfl rfl
    | acknowledgesOrphan kind index | requeuesOrphan kind index =>
      simp only [next] at moves
      split at moves
      · cases moves
      · cases moves
        exact .of_ended ⟨fun _ => rfl, rfl, by simp⟩ (fun kind _ _ => same kind) fun _ => rfl
    | skipped | closed since upto | done | failed => cases moves

/-- From its check of a queue to its deletion no closing task of the play is in the way of a
publication or a requeue to the queue, nor is the play set playing before the status is written;
what was unacknowledged in a deleted queue is not requeued, and nothing is published to an exchange
without the queue. -/
def Undisturbed (p : Pool (ClosingPlay M) (ClosingTask M)) : ClosingTask M → Reply → Prop
  | .publishes kind _, .ok => p.state.exchange kind = true →
      (p.state.queue kind).any BrokerQueue.bound = true ∧
        ∀ other ∈ p.threads, other.watches kind = false
  | .requeues kind _, .ok => ∀ other ∈ p.threads, other.watches kind = false
  | .requeuesOrphan kind index, .ok => (p.state.orphaned kind)[index]? = none
  | .setsPlaying, .ok => ∀ other ∈ p.threads, other.since? = none
  | _, _ => True

def Begins (_ : Pool (ClosingPlay M) (ClosingTask M)) :
    Pool.Action (ClosingTask M) Reply → Prop
  | .start task => task.begins = true
  | .step .. => True

/-- And nothing falls between the calls of a closing. -/
def Careful (p : Pool (ClosingPlay M) (ClosingTask M)) :
    Pool.Action (ClosingTask M) Reply → Prop
  | .start task => task.begins = true
  | .step index reply => ∀ task ∈ p.threads[index]?,
      p.state.Checks task reply ∧ Undisturbed p task reply

/-- All messages that were there at first or were published since are still there or have
been acknowledged. -/
def Kept (start s : ClosingPlay M) : Prop :=
  ∀ kind, (s.held kind ++ start.published kind).Perm (start.held kind ++ s.published kind)

def Unresumed : ClosingTask M → Prop
  | .closed since upto => upto = since
  | _ => True

theorem Kept.next {start : ClosingPlay M} (kept : Kept start s)
    (moves : s.next task reply = some (s', task')) (spares : s.Spares task reply) :
    Kept start s' := by
  intro kind
  obtain ⟨new, held, published⟩ := next_held moves spares kind
  rw [published]
  calc s'.held kind ++ start.published kind
      ~ s.held kind ++ new ++ start.published kind := held.append_right _
    _ ~ s.held kind ++ start.published kind ++ new := by
        rw [append_assoc, append_assoc]
        exact List.perm_append_comm.append_left _
    _ ~ start.held kind ++ s.published kind ++ new := (kept kind).append_right _
    _ = start.held kind ++ (s.published kind ++ new) := append_assoc ..

/-- The queues that a closing task has found empty are, and the play has not been set playing
since it checked. -/
structure Inv (start : ClosingPlay M) (p : Pool (ClosingPlay M) (ClosingTask M)) : Prop where
  kept : Kept start p.state
  unresumed : ∀ task ∈ p.threads, Unresumed task
  idle : ∀ task ∈ p.threads, ∀ kind, task.watches kind = true → p.state.Idle kind
  since : ∀ task ∈ p.threads, ∀ since, task.since? = some since → p.state.resumptions = since

variable {start : ClosingPlay M} {p : Pool (ClosingPlay M) (ClosingTask M)} {index : Nat}

theorem Inv.spares (inv : Inv start p) (there : task ∈ p.threads)
    (undisturbed : Undisturbed p task reply) : p.state.Spares task reply := by
  cases reply with
  | error => cases task <;> trivial
  | ok =>
    cases task with
    | deletesTick since tickConsumers startPointConsumers =>
      exact fun none => inv.idle _ there .tick (decide_eq_true none)
    | deletesStartPoint since startPointConsumers =>
      exact fun none => inv.idle _ there .startPoint (decide_eq_true none)
    | publishes kind message => exact fun exchange => (undisturbed exchange).1
    | requeuesOrphan kind index => exact undisturbed
    | _ => trivial

/-- Queues that were found empty stay empty, and the play is not set playing. -/
theorem Inv.step (inv : Inv start p) (here : p.threads[index]? = some task)
    (moves : p.state.next task reply = some (s', task')) (checks : p.state.Checks task reply)
    (undisturbed : Undisturbed p task reply) : Inv start ⟨s', p.threads.set index task'⟩ := by
  have there := List.mem_of_getElem? here
  have passes := next_passes moves checks
  have ready (kind : Kind) (other : ClosingTask M) (isOther : other ∈ p.threads)
      (watches : other.watches kind = true) : s'.Idle kind := by
    cases reply with
    | error =>
      have same : s' = p.state := by cases task <;> cases moves <;> rfl
      rw [same]
      exact inv.idle other isOther kind watches
    | ok =>
      refine passes.idle kind ?_ ?_ (inv.idle other isOther kind watches)
      · rintro message rfl
        by_contra exchange
        have unwatched := (undisturbed ((Bool.not_eq_false _).mp exchange)).2 other isOther
        exact absurd watches (Bool.eq_false_iff.mp unwatched)
      · rintro index rfl
        exact absurd watches (Bool.eq_false_iff.mp (undisturbed other isOther))
  have kept (other : ClosingTask M) (isOther : other ∈ p.threads) (since : Nat)
      (closing : other.since? = some since) : s'.resumptions = since := by
    cases reply with
    | error =>
      have same : s' = p.state := by cases task <;> cases moves <;> rfl
      rw [same]
      exact inv.since other isOther since closing
    | ok =>
      rw [passes.resumptions, inv.since other isOther since closing]
      rintro rfl
      rw [undisturbed other isOther] at closing
      cases closing
  refine ⟨inv.kept.next moves (inv.spares there undisturbed), fun other isThere => ?_,
    fun other isThere kind watches => ?_, fun other isThere since closing => ?_⟩
  · rcases List.mem_or_eq_of_mem_set isThere with old | rfl
    · exact inv.unresumed other old
    · cases other with
      | closed since upto =>
        obtain ⟨before, rfl⟩ := passes.closed since upto rfl
        exact inv.since task there since before
      | _ => trivial
  · rcases List.mem_or_eq_of_mem_set isThere with old | rfl
    · exact ready kind other old watches
    · exact (passes.watches kind watches).elim (ready kind task there) id
  · rcases List.mem_or_eq_of_mem_set isThere with old | rfl
    · exact kept other old since closing
    · rcases passes.since since closing with before | ⟨rfl, other⟩
      · exact kept task there since before
      · exact passes.resumptions other

/-- If nothing falls between the check of a queue and its deletion, no message is lost, and no
play that is set playing while it is being closed is closed. -/
theorem closing_careful (start : ClosingPlay M) (actions : List (Pool.Action (ClosingTask M) Reply))
    (run : Run.Allowed (Pool.step next) Careful ⟨start, []⟩ actions) :
    Kept start (Run.final (Pool.step next) ⟨start, []⟩ actions).state ∧
      ∀ task ∈ (Run.final (Pool.step next) ⟨start, []⟩ actions).threads, Unresumed task := by
  have preserved : ∀ (p : Pool (ClosingPlay M) (ClosingTask M)) action, Inv start p →
      Careful p action → Inv start (p.step next action) := by
    intro p action inv careful
    cases action with
    | start task =>
      have begun : Unresumed task ∧ (∀ kind, task.watches kind = false) ∧ task.since? = none := by
        cases task <;> first | exact ⟨trivial, fun _ => rfl, rfl⟩ | cases careful
      refine ⟨inv.kept, fun other there => ?_, fun other there kind watches => ?_,
        fun other there since closing => ?_⟩
      all_goals rcases List.mem_append.mp there with old | new
      · exact inv.unresumed other old
      · rw [List.mem_singleton.mp new]
        exact begun.1
      · exact inv.idle other old kind watches
      · rw [List.mem_singleton.mp new, begun.2.1] at watches
        cases watches
      · exact inv.since other old since closing
      · rw [List.mem_singleton.mp new, begun.2.2] at closing
        cases closing
    | step index reply =>
      rcases Pool.step_cases _ p index reply with same | ⟨task, s', task', here, moves, eq⟩
      · rw [same]
        exact inv
      · rw [eq]
        obtain ⟨checks, undisturbed⟩ := careful task here
        exact inv.step here moves checks undisturbed
  have last := Run.invariant preserved _ actions ⟨fun _ => Perm.refl _,
    fun _ there => (List.not_mem_nil there).elim, fun _ there => (List.not_mem_nil there).elim,
    fun _ there => (List.not_mem_nil there).elim⟩ run
  exact ⟨last.kept, last.unresumed⟩

section Decidable

variable [DecidableEq M]

instance (s : ClosingPlay M) (kind : Kind) : Decidable (s.Idle kind) :=
  inferInstanceAs (Decidable (∀ q ∈ s.queue kind, _))

instance decidableChecks (s : ClosingPlay M) (task : ClosingTask M) (reply : Reply) :
    Decidable (s.Checks task reply) := by
  cases task <;> cases reply <;> unfold Checks <;> infer_instance

instance decidableUndisturbed (p : Pool (ClosingPlay M) (ClosingTask M)) (task : ClosingTask M)
    (reply : Reply) : Decidable (Undisturbed p task reply) := by
  cases task <;> cases reply <;> unfold Undisturbed <;> infer_instance

instance (p : Pool (ClosingPlay M) (ClosingTask M)) : DecidablePred (Careful p)
  | .start task => inferInstanceAs (Decidable (task.begins = true))
  | .step index _ => inferInstanceAs (Decidable (∀ task ∈ p.threads[index]?, _))

instance (p : Pool (ClosingPlay M) (ClosingTask M)) : DecidablePred (Begins p)
  | .start task => inferInstanceAs (Decidable (task.begins = true))
  | .step .. => isTrue trivial

end Decidable

/-- A play that was prepared and then set closing, with one worker that consumes. -/
def preparedPlay : ClosingPlay Nat where
  queue _ := some ⟨[], [], 1, true⟩
  exchange _ := true
  orphaned _ := []
  acknowledged _ := []
  published _ := []
  subscribed worker := worker = 0
  status := some .closing
  resumptions := 0

abbrev ClosingAction := Pool.Action (ClosingTask Nat) Reply

def closingCalls (index count : Nat) : List ClosingAction :=
  List.replicate count (.step index .ok)

def publishedBefore : List ClosingAction :=
  [Pool.Action.start (.publishes .tick 7), .step 0 .ok, .start (.delivers .tick), .step 1 .ok,
    .start (.acknowledges .tick 0), .step 2 .ok, .start (.checksTick 0)] ++ closingCalls 3 9

def publishedBetween : List ClosingAction :=
  [Pool.Action.start (.checksTick 0)] ++ closingCalls 0 6 ++
    [Pool.Action.start (.publishes .tick 7), .step 1 .ok] ++ closingCalls 0 3

/-- The play is set playing between the check and the update of the status. -/
def resumedBetween : List ClosingAction :=
  [Pool.Action.start (.checksTick 0)] ++ closingCalls 0 2 ++
    [Pool.Action.start (.assertsExchange .tick)] ++
    closingCalls 1 7 ++ closingCalls 0 7

theorem closing_careful_published :
    Kept preparedPlay (Run.final (Pool.step next) ⟨preparedPlay, []⟩ publishedBefore).state ∧
      ∀ task ∈ (Run.final (Pool.step next) ⟨preparedPlay, []⟩ publishedBefore).threads,
        Unresumed task := by
  exact closing_careful preparedPlay publishedBefore (by decide +kernel)

/-- A tick that is published meanwhile is lost; a play that is set playing meanwhile is closed. -/
theorem closing_careless : (¬ ∀ actions : List ClosingAction,
      Run.Allowed (Pool.step next) Begins ⟨preparedPlay, []⟩ actions →
      Kept preparedPlay (Run.final (Pool.step next) ⟨preparedPlay, []⟩ actions).state) ∧
    ¬ ∀ actions : List ClosingAction,
      Run.Allowed (Pool.step next) Begins ⟨preparedPlay, []⟩ actions →
      ∀ task ∈ (Run.final (Pool.step next) ⟨preparedPlay, []⟩ actions).threads, Unresumed task := by
  constructor
  · intro claimed
    have kept := claimed publishedBetween (by decide +kernel) .tick
    have lost : ¬ (
        (Run.final (Pool.step next) ⟨preparedPlay, []⟩ publishedBetween).state.held .tick ++
        preparedPlay.published .tick).Perm (preparedPlay.held .tick ++
          (Run.final (Pool.step next) ⟨preparedPlay, []⟩
            publishedBetween).state.published .tick) := by
      decide +kernel
    exact lost kept
  · intro claimed
    have unresumed := claimed resumedBetween (by decide +kernel) (.closed 0 1) (by
      refine List.mem_of_getElem? (i := 0) ?_
      rfl)
    cases unresumed

end ClosingPlay

end AkashicSystem.Playlog
