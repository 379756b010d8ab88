import Mathlib.Algebra.BigOperators.Group.List.Basic
import AkashicSystem.Lib.Keyed
import AkashicSystem.Lib.Pool

/-!
# The assignments and what is assigned

The assignments of instances to processes are rows of a table.  What is assigned to a
process altogether is kept beside them: it is counted before a row is written, from a
sum that may have to be awaited, and forgotten when all rows of the process go.
-/

set_option autoImplicit false

namespace AkashicSystem.ClusterMaster

open List

/-- A process, and which of its incarnations.  Its key string stands for it. -/
structure ClusterIdentity where
  fqdn : String
  type : String
  name : String
  czxid : Nat
deriving DecidableEq

structure InstanceAssignment where
  targetIdentity : ClusterIdentity
  instanceId : String
  requirement : Int
deriving DecidableEq

/-- A row of `instanceAssignments`. -/
structure StoredAssignment extends InstanceAssignment where
  id : Nat
deriving DecidableEq

structure InstanceAssignmentRepository where
  database : List StoredAssignment
  insertId : Nat
  status : ClusterIdentity → Option Int

namespace InstanceAssignmentRepository

variable (r : InstanceAssignmentRepository)

def getByIdentity (identity : ClusterIdentity) :
    List StoredAssignment :=
  r.database.filter fun stored => stored.targetIdentity = identity

def getCurrentAssignment (identity : ClusterIdentity) : Int :=
  ((r.getByIdentity identity).map fun stored => stored.requirement).sum

def setStatus (identity : ClusterIdentity)
    (assigned : Option Int) : InstanceAssignmentRepository :=
  { r with status := Function.update r.status identity assigned }

inductive Operation where
  | getAssignmentStatus (identity : ClusterIdentity)
  | save (instanceAssignment : InstanceAssignment)
  | remove (instanceAssignment : StoredAssignment)
  | removeByIdentity (identity : ClusterIdentity)

namespace Operation

def identity : Operation → ClusterIdentity
  | .getAssignmentStatus identity | .removeByIdentity identity => identity
  | .save instanceAssignment => instanceAssignment.targetIdentity
  | .remove instanceAssignment => instanceAssignment.targetIdentity

/-- What `_updateInstanceAssignmentStatus` adds. -/
def delta : Operation → Int
  | .save instanceAssignment => instanceAssignment.requirement
  | .remove instanceAssignment => -instanceAssignment.requirement
  | .getAssignmentStatus _ | .removeByIdentity _ => 0

end Operation

inductive Phase where
  | called
  | summing
  | writing
  /-- A `save` awaits the row that it has inserted. -/
  | selecting
  | settled (fulfilled : Bool)
deriving DecidableEq

structure Call where
  operation : Operation
  phase : Phase

/-- How a call of the database ends; one that fails may have been executed. -/
inductive Reply where
  | done
  | failed (executed : Bool)
deriving DecidableEq

def Reply.executed : Reply → Bool
  | .done => true
  | .failed executed => executed

def begin : Operation → InstanceAssignmentRepository × Phase
  | .getAssignmentStatus identity =>
    (r, if (r.status identity).isSome then .settled true else .summing)
  | .removeByIdentity identity => (r.setStatus identity none, .writing)
  | operation =>
    match r.status operation.identity with
    | some current =>
      (r.setStatus operation.identity (some (current + operation.delta)), .writing)
    | none => (r, .summing)

def write : Operation → InstanceAssignmentRepository
  | .getAssignmentStatus _ => r
  | .save instanceAssignment =>
    { r with
      database := r.database ++ [⟨instanceAssignment, r.insertId⟩]
      insertId := r.insertId + 1 }
  | .remove instanceAssignment =>
    { r with database := r.database.filter fun stored => stored.id ≠ instanceAssignment.id }
  | .removeByIdentity identity =>
    { r with database := r.database.filter fun stored => stored.targetIdentity ≠ identity }

def summed (operation : Operation) :
    InstanceAssignmentRepository × Phase :=
  let identity := operation.identity
  (r.setStatus identity (some (r.getCurrentAssignment identity + operation.delta)),
    match operation with
    | .getAssignmentStatus _ => .settled true
    | _ => .writing)

def written : Operation → Phase
  | .save _ => .selecting
  | _ => .settled true

def next (call : Call) (reply : Reply) :
    Option (InstanceAssignmentRepository × Call) :=
  match call.phase with
  | .called =>
    let begun := r.begin call.operation
    some (begun.1, ⟨call.operation, begun.2⟩)
  | .summing =>
    match reply with
    | .done =>
      let counted := r.summed call.operation
      some (counted.1, ⟨call.operation, counted.2⟩)
    | .failed _ => some (r, ⟨call.operation, .settled false⟩)
  | .writing =>
    let r' := if reply.executed then r.write call.operation else r
    match reply with
    | .done => some (r', ⟨call.operation, written call.operation⟩)
    | .failed _ => some (r', ⟨call.operation, .settled false⟩)
  | .selecting => some (r, ⟨call.operation, .settled (reply = .done)⟩)
  | .settled _ => none

abbrev Calls := Pool InstanceAssignmentRepository Call

namespace Calls

def step (w : Calls) (action : Pool.Action Call Reply) : Calls := Pool.step next w action

def new (database : List StoredAssignment) (insertId : Nat) : Calls :=
  ⟨⟨database, insertId, fun _ => none⟩, []⟩

variable (w : Calls)

def Quiescent : Prop :=
  ∀ call ∈ w.threads, call.phase = .called ∨ ∃ fulfilled, call.phase = .settled fulfilled

instance (w : Calls) : Decidable w.Quiescent :=
  decidable_of_iff (∀ call ∈ w.threads, call.phase = .called ∨ call.phase = .settled true ∨
    call.phase = .settled false) (by simp [Quiescent, or_comm])

/-- What is assigned to a process, if known, is the sum of what is stored for it. -/
def Agrees : Prop :=
  ∀ identity, ∀ assigned ∈ w.state.status identity,
    assigned = w.state.getCurrentAssignment identity

def pending (identity : ClusterIdentity) (call : Call) : Int :=
  if call.phase = .writing ∧ call.operation.identity = identity then call.operation.delta else 0

/-- What is assigned is what is stored and what the calls still have to write. -/
def Ledger : Prop :=
  ∀ identity, ∀ assigned ∈ w.state.status identity,
    assigned = w.state.getCurrentAssignment identity + Pool.total (pending identity) w.threads

/-- The statement of a call does to what is stored what the call has counted. -/
def WritesCounted (operation : Operation) (reply : Reply) :
    Prop :=
  match operation with
  | .getAssignmentStatus _ => True
  | .save instanceAssignment =>
    r.status instanceAssignment.targetIdentity = none ∨ reply.executed = true
  | .remove instanceAssignment =>
    (reply.executed = true ∧ instanceAssignment ∈ r.database) ∨
      (r.status instanceAssignment.targetIdentity = none ∧
        (instanceAssignment ∈ r.database ∨
          ∀ stored ∈ r.database, stored.id ≠ instanceAssignment.id))
  | .removeByIdentity identity =>
    r.status identity = none ∨ reply.executed = false ∨ r.getByIdentity identity = []

/-- The rows of a process are not summed while another call has counted for it what it still
has to write, and what has been counted is written. -/
def Permitted : Pool.Action Call Reply → Prop
  | .start call => call.phase = .called
  | .step index reply => ∀ call ∈ w.threads[index]?,
      (call.phase = .summing → reply = .done →
        ∀ other ∈ w.threads, pending call.operation.identity other = 0) ∧
      (call.phase = .writing → WritesCounted w.state call.operation reply)

instance (r : InstanceAssignmentRepository) (operation : Operation) (reply : Reply) :
    Decidable (WritesCounted r operation reply) := by
  cases operation with
  | getAssignmentStatus identity => exact isTrue trivial
  | save instanceAssignment | remove instanceAssignment | removeByIdentity identity =>
    exact inferInstanceAs (Decidable (_ ∨ _))

instance (w : Calls) : DecidablePred w.Permitted
  | .start call => inferInstanceAs (Decidable (call.phase = .called))
  | .step index reply => inferInstanceAs (Decidable (∀ call ∈ w.threads[index]?,
      (call.phase = .summing → reply = .done →
        ∀ other ∈ w.threads, pending call.operation.identity other = 0) ∧
      (call.phase = .writing → WritesCounted w.state call.operation reply)))

/-- The ids of the rows are distinct, and the next one is new. -/
structure Sequential (r : InstanceAssignmentRepository) : Prop where
  nodup : (r.database.map StoredAssignment.id).Nodup
  fresh : ∀ stored ∈ r.database, stored.id < r.insertId

section Stored

variable {r : InstanceAssignmentRepository}

theorem sequential_write (sequential : Sequential r) (operation : Operation) :
    Sequential (r.write operation) := by
  cases operation with
  | getAssignmentStatus identity => exact sequential
  | save a =>
    constructor
    · apply Keyed.nodup_map_append _ _ _ sequential.nodup
      intro there
      obtain ⟨stored, held, same⟩ := mem_map.mp there
      have before := sequential.fresh stored held
      dsimp only at same
      omega
    · intro stored there
      show stored.id < r.insertId + 1
      rcases mem_append.mp there with held | new
      · exact Nat.lt_succ_of_lt (sequential.fresh stored held)
      · rw [mem_singleton.mp new]
        exact Nat.lt_succ_self _
  | remove a | removeByIdentity identity =>
    constructor
    · exact Keyed.nodup_map_filter _ _ _ sequential.nodup
    · exact fun stored there => sequential.fresh stored (mem_of_mem_filter there)

theorem current_save (r : InstanceAssignmentRepository) (a : InstanceAssignment)
    (identity : ClusterIdentity) : (r.write (.save a)).getCurrentAssignment identity =
      r.getCurrentAssignment identity +
        if a.targetIdentity = identity then a.requirement else 0 := by
  by_cases same : a.targetIdentity = identity
  · rw [if_pos same]
    simp [write, getCurrentAssignment, getByIdentity, filter_append, same]
  · rw [if_neg same]
    simp [write, getCurrentAssignment, getByIdentity, filter_append, same]

theorem current_remove (sequential : Sequential r) (a : StoredAssignment)
    (there : a ∈ r.database) (identity : ClusterIdentity) :
    (r.write (.remove a)).getCurrentAssignment identity +
        (if a.targetIdentity = identity then a.requirement else 0) =
      r.getCurrentAssignment identity := by
  have rows := Keyed.perm_filter_key StoredAssignment.id r.database sequential.nodup a there
  have sums := ((rows.filter fun stored => stored.targetIdentity = identity).map
    fun stored => stored.requirement).sum_eq
  by_cases same : a.targetIdentity = identity
  · rw [filter_cons_of_pos (by simpa using same), map_cons, sum_cons] at sums
    rw [if_pos same, Int.add_comm]
    exact sums.symm
  · rw [filter_cons_of_neg (by simpa using same)] at sums
    rw [if_neg same, Int.add_zero]
    exact sums.symm

theorem current_removeByIdentity (r : InstanceAssignmentRepository)
    (removed identity : ClusterIdentity) :
    (r.write (.removeByIdentity removed)).getCurrentAssignment identity =
      if removed = identity then 0 else r.getCurrentAssignment identity := by
  unfold write getCurrentAssignment getByIdentity
  dsimp only
  rw [filter_filter]
  by_cases same : removed = identity
  · rw [if_pos same, same]
    have none' : (r.database.filter fun stored =>
        decide (stored.targetIdentity = identity) && decide (stored.targetIdentity ≠ identity)) =
        [] := by
      apply filter_eq_nil_iff.mpr
      intro stored _
      simp
    rw [none']
    rfl
  · rw [if_neg same]
    congr 2
    apply filter_congr
    intro stored _
    by_cases its : stored.targetIdentity = identity
    · simp [its, Ne.symm same]
    · simp [its]

/-- What a statement does to what is stored, where it does what has been counted. -/
theorem current_written (sequential : Sequential r) (operation : Operation) (reply : Reply)
    (counted : WritesCounted r operation reply) (identity : ClusterIdentity)
    (known : r.status identity ≠ none) :
    (if reply.executed then r.write operation else r).getCurrentAssignment identity =
      r.getCurrentAssignment identity +
        if operation.identity = identity then operation.delta else 0 := by
  have untouched : operation.identity ≠ identity → r.getCurrentAssignment identity =
      r.getCurrentAssignment identity +
        if operation.identity = identity then operation.delta else 0 := by
    intro other
    rw [if_neg other, Int.add_zero]
  cases operation with
  | getAssignmentStatus other =>
    simp only [write, ite_self, Operation.delta, Int.add_zero]
  | save a =>
    rcases counted with unknown | executed
    · have other : a.targetIdentity ≠ identity := by
        rintro rfl
        exact known unknown
      cases reply.executed with
      | false => exact untouched other
      | true => exact current_save r a identity
    · rw [executed]
      exact current_save r a identity
  | remove a =>
    have stored (there : a ∈ r.database) :
        (r.write (.remove a)).getCurrentAssignment identity = r.getCurrentAssignment identity +
          if a.targetIdentity = identity then -a.requirement else 0 := by
      have rows := current_remove sequential a there identity
      split_ifs with same
      · rw [if_pos same] at rows
        omega
      · rw [if_neg same] at rows
        omega
    rcases counted with ⟨executed, there⟩ | ⟨unknown, there⟩
    · rw [executed]
      exact stored there
    · have other : a.targetIdentity ≠ identity := by
        rintro rfl
        exact known unknown
      cases reply.executed with
      | false => exact untouched other
      | true =>
        rcases there with there | absent
        · exact stored there
        · have same : r.write (.remove a) = r := by
            have kept : (r.database.filter fun stored => decide (stored.id ≠ a.id)) =
                r.database := filter_eq_self.mpr fun stored there => by
              simpa using absent stored there
            rw [write, kept]
          rw [if_pos rfl, same]
          exact untouched other
  | removeByIdentity removed =>
    have unchanged : (r.write (.removeByIdentity removed)).getCurrentAssignment identity =
        r.getCurrentAssignment identity ∨ reply.executed = false := by
      rcases counted with unknown | skipped | nothing
      · have other : removed ≠ identity := by
          rintro rfl
          exact known unknown
        rw [current_removeByIdentity, if_neg other]
        exact .inl rfl
      · exact .inr skipped
      · rw [current_removeByIdentity]
        split_ifs with same
        · subst same
          simp [getCurrentAssignment, nothing]
        · exact .inl rfl
    simp only [Operation.delta, ite_self, Int.add_zero]
    rcases unchanged with same | skipped
    · split
      · exact same
      · rfl
    · rw [skipped]
      rfl

end Stored

section Steps

variable {r r' : InstanceAssignmentRepository} {call call' : Call} {reply : Reply}

theorem status_setStatus (r : InstanceAssignmentRepository) (identity other : ClusterIdentity)
    (assigned : Option Int) : (r.setStatus identity assigned).status other =
      if other = identity then assigned else r.status other := by
  by_cases same : other = identity
  · rw [if_pos same, same]
    exact Function.update_self ..
  · rw [if_neg same]
    exact Function.update_of_ne same ..

theorem status_write (r : InstanceAssignmentRepository) (operation : Operation) :
    (r.write operation).status = r.status := by
  cases operation with
  | getAssignmentStatus identity | save a | remove a | removeByIdentity identity => rfl

theorem sequential_setStatus (sequential : Sequential r) (identity : ClusterIdentity)
    (assigned : Option Int) : Sequential (r.setStatus identity assigned) :=
  ⟨sequential.nodup, sequential.fresh⟩

theorem sequential_begin (sequential : Sequential r) (operation : Operation) :
    Sequential (r.begin operation).1 := by
  unfold begin
  cases operation with
  | getAssignmentStatus identity => exact sequential
  | removeByIdentity identity => exact sequential_setStatus sequential _ _
  | save a | remove a =>
    dsimp only
    split
    · exact sequential_setStatus sequential _ _
    · exact sequential

theorem sequential_next (moves : next r call reply = some (r', call'))
    (sequential : Sequential r) : Sequential r' := by
  unfold next at moves
  cases phase : call.phase with
  | called =>
    rw [phase] at moves
    cases moves
    exact sequential_begin sequential _
  | summing =>
    rw [phase] at moves
    cases reply with
    | done =>
      cases moves
      exact sequential_setStatus sequential _ _
    | failed executed =>
      cases moves
      exact sequential
  | writing =>
    have kept : Sequential (if reply.executed then r.write call.operation else r) := by
      split
      · exact sequential_write sequential _
      · exact sequential
    rw [phase] at moves
    cases reply with
    | done | failed executed =>
      cases moves
      exact kept
  | selecting =>
    rw [phase] at moves
    cases moves
    exact sequential
  | settled fulfilled =>
    rw [phase] at moves
    cases moves

theorem pending_of_not_writing {identity : ClusterIdentity} (idle : call.phase ≠ .writing) :
    pending identity call = 0 :=
  if_neg fun both => idle both.1

theorem pending_writing (identity : ClusterIdentity) (operation : Operation) :
    pending identity ⟨operation, .writing⟩ =
      if operation.identity = identity then operation.delta else 0 := by
  unfold pending
  simp only [true_and]

variable {others : ClusterIdentity → Int}

section

variable (ledger : ∀ identity, ∀ assigned ∈ r.status identity,
  assigned = r.getCurrentAssignment identity + others identity)
include ledger

theorem ledger_count (operation : Operation) (current : Int)
    (counts : current = r.getCurrentAssignment operation.identity + others operation.identity)
    (identity : ClusterIdentity) (assigned : Int)
    (known : assigned ∈ (r.setStatus operation.identity
      (some (current + operation.delta))).status identity) :
    assigned = r.getCurrentAssignment identity +
      (others identity + pending identity ⟨operation, .writing⟩) := by
  rw [status_setStatus] at known
  rw [pending_writing]
  split_ifs at known with same
  · subst same
    rw [if_pos rfl, ← Option.some.inj known]
    omega
  · rw [if_neg (Ne.symm same), Int.add_zero]
    exact ledger identity assigned known

theorem ledger_begin (operation : Operation) (identity : ClusterIdentity) (assigned : Int)
    (known : assigned ∈ (r.begin operation).1.status identity) :
    assigned = (r.begin operation).1.getCurrentAssignment identity +
      (others identity + pending identity ⟨operation, (r.begin operation).2⟩) := by
  have idle (phase : Phase) (isIdle : phase ≠ .writing) (there : assigned ∈ r.status identity) :
      assigned = r.getCurrentAssignment identity +
        (others identity + pending identity ⟨operation, phase⟩) := by
    have nothing : pending identity ⟨operation, phase⟩ = 0 := pending_of_not_writing isIdle
    rw [nothing, Int.add_zero]
    exact ledger identity assigned there
  have counting (begins : r.begin operation = match r.status operation.identity with
      | some current =>
        (r.setStatus operation.identity (some (current + operation.delta)), .writing)
      | none => (r, .summing)) :
      assigned = (r.begin operation).1.getCurrentAssignment identity +
        (others identity + pending identity ⟨operation, (r.begin operation).2⟩) := by
    rw [begins] at known ⊢
    cases cached : r.status operation.identity with
    | none =>
      rw [cached] at known
      exact idle .summing (by simp) known
    | some current =>
      rw [cached] at known
      exact ledger_count ledger operation current (ledger _ current cached) identity assigned known
  cases operation with
  | getAssignmentStatus other =>
    have waits : (r.begin (.getAssignmentStatus other)).2 ≠ .writing := by
      unfold begin
      dsimp only
      split_ifs <;> simp
    exact idle _ waits known
  | removeByIdentity other =>
    change assigned ∈ (r.setStatus other none).status identity at known
    show assigned = r.getCurrentAssignment identity +
      (others identity + pending identity ⟨.removeByIdentity other, .writing⟩)
    rw [status_setStatus] at known
    rw [pending_writing]
    split_ifs at known with same
    · cases known
    · simp only [Operation.delta, ite_self, Int.add_zero]
      exact ledger identity assigned known
  | save a | remove a => exact counting rfl

end

/-- A step moves as much between what is counted, stored and still to write. -/
theorem ledger_next (moves : next r call reply = some (r', call')) (sequential : Sequential r)
    (ledger : ∀ identity, ∀ assigned ∈ r.status identity,
      assigned = r.getCurrentAssignment identity + (others identity + pending identity call))
    (sums : call.phase = .summing → reply = .done → others call.operation.identity = 0)
    (writes : call.phase = .writing → WritesCounted r call.operation reply)
    (identity : ClusterIdentity) (assigned : Int) (known : assigned ∈ r'.status identity) :
    assigned = r'.getCurrentAssignment identity + (others identity + pending identity call') := by
  have unburdened (idle : call.phase ≠ .writing) : ∀ identity, ∀ assigned ∈ r.status identity,
      assigned = r.getCurrentAssignment identity + others identity := by
    intro identity assigned there
    have before := ledger identity assigned there
    rw [pending_of_not_writing idle, Int.add_zero] at before
    exact before
  unfold next at moves
  cases phase : call.phase with
  | called =>
    rw [phase] at moves
    cases moves
    exact ledger_begin (unburdened (by simp [phase])) call.operation identity assigned known
  | summing =>
    have before := unburdened (by simp [phase])
    rw [phase] at moves
    cases reply with
    | done =>
      cases moves
      have counts : r.getCurrentAssignment call.operation.identity =
          r.getCurrentAssignment call.operation.identity + others call.operation.identity := by
        rw [sums phase rfl, Int.add_zero]
      have counted := ledger_count before call.operation _ counts identity assigned known
      show assigned = r.getCurrentAssignment identity +
        (others identity + pending identity ⟨call.operation, (r.summed call.operation).2⟩)
      rw [counted]
      cases call.operation with
      | getAssignmentStatus other => simp [summed, pending, Operation.delta]
      | removeByIdentity other | save a | remove a => rfl
    | failed executed =>
      cases moves
      have nothing : pending identity ⟨call.operation, .settled false⟩ = 0 :=
        pending_of_not_writing (by simp)
      rw [nothing, Int.add_zero]
      exact before identity assigned known
  | writing =>
    have idle : call'.phase ≠ .writing := by
      rw [phase] at moves
      cases reply with
      | done =>
        cases moves
        cases call.operation <;> simp [written]
      | failed executed =>
        cases moves
        simp
    have wrote : r' = if reply.executed then r.write call.operation else r := by
      rw [phase] at moves
      cases reply with
      | done | failed executed =>
        cases moves
        rfl
    have kept : r'.status = r.status := by
      rw [wrote]
      split
      · exact status_write r _
      · rfl
    rw [kept] at known
    have before := ledger identity assigned known
    have after := current_written sequential call.operation reply (writes phase) identity
      (by simp [Option.mem_def.mp known])
    have held := pending_writing identity call.operation
    have same : (⟨call.operation, .writing⟩ : Call) = call := by
      rw [← phase]
    rw [same] at held
    rw [pending_of_not_writing idle, wrote, after, before, held]
    omega
  | selecting =>
    have before := unburdened (by simp [phase])
    rw [phase] at moves
    cases moves
    have nothing : pending identity ⟨call.operation, .settled (reply = .done)⟩ = 0 :=
      pending_of_not_writing (by simp)
    rw [nothing, Int.add_zero]
    exact before identity assigned known
  | settled fulfilled =>
    rw [phase] at moves
    cases moves

end Steps

structure Inv (w : Calls) : Prop where
  sequential : Sequential w.state
  ledger : w.Ledger

theorem inv_step (action : Pool.Action Call Reply) (inv : Inv w)
    (permitted : w.Permitted action) : Inv (w.step action) := by
  obtain ⟨sequential, ledger⟩ := inv
  cases action with
  | start call =>
    refine ⟨sequential, fun identity assigned known => ?_⟩
    have idle : pending identity call = 0 := by
      apply pending_of_not_writing
      rw [(permitted : call.phase = .called)]
      simp
    have before := ledger identity assigned known
    show assigned = w.state.getCurrentAssignment identity +
      Pool.total (pending identity) (w.threads ++ [call])
    rw [Pool.total_append, idle, Int.add_zero]
    exact before
  | step index reply =>
    rcases Pool.step_cases next w index reply with
      same | ⟨call, r', call', here, moves, eq⟩
    · rw [step, same]
      exact ⟨sequential, ledger⟩
    · obtain ⟨sums, writes⟩ := permitted call here
      rw [step, eq]
      refine ⟨sequential_next moves sequential, fun identity assigned known => ?_⟩
      have total (identity : ClusterIdentity) :=
        Pool.total_set (pending identity) w.threads index call call' here
      have apart : ∀ identity, ∀ assigned ∈ w.state.status identity,
          assigned = w.state.getCurrentAssignment identity +
            ((Pool.total (pending identity) w.threads - pending identity call) +
              pending identity call) := by
        intro identity assigned known
        rw [ledger identity assigned known]
        omega
      have alone : call.phase = .summing → reply = .done →
          Pool.total (pending call.operation.identity) w.threads -
            pending call.operation.identity call = 0 := by
        intro summing done
        have nothing := Pool.total_eq_zero (pending call.operation.identity) w.threads
          (sums summing done)
        rw [nothing, sums summing done call (mem_of_getElem? here)]
        rfl
      have after := ledger_next moves sequential apart alone writes identity assigned known
      show assigned = r'.getCurrentAssignment identity +
        Pool.total (pending identity) (w.threads.set index call')
      rw [total identity]
      exact after

theorem agrees_of_ledger {w : Calls} (ledger : w.Ledger) (quiescent : w.Quiescent) : w.Agrees := by
  intro identity assigned known
  have nothing : Pool.total (pending identity) w.threads = 0 := by
    apply Pool.total_eq_zero
    intro call there
    apply pending_of_not_writing
    rcases quiescent call there with called | ⟨fulfilled, settled⟩
    · simp [called]
    · simp [settled]
  rw [ledger identity assigned known, nothing, Int.add_zero]

/-- Whenever no call is in progress, what is assigned is what is stored, if no call sums the
rows while another has still to write, and the statements do what has been counted. -/
theorem agrees_of_permitted (database : List StoredAssignment) (insertId : Nat)
    (sequential : Sequential ⟨database, insertId, fun _ => none⟩)
    (actions : List (Pool.Action Call Reply))
    (run : Run.Allowed step Permitted (new database insertId) actions)
    (quiescent : Quiescent (Run.final step (new database insertId) actions)) :
    Agrees (Run.final step (new database insertId) actions) := by
  have begins : Inv (new database insertId) := by
    refine ⟨sequential, fun identity assigned known => ?_⟩
    cases known
  have inv := Run.invariant inv_step (new database insertId) actions begins run
  exact agrees_of_ledger inv.ledger quiescent

def runner : ClusterIdentity := ⟨"runner.local", "game-runner2", "gr1", 7⟩

def booked : InstanceAssignment := ⟨runner, "1", 30⟩

def oneByOne : List (Pool.Action Call Reply) :=
  [.start ⟨.save booked, .called⟩, .step 0 .done, .step 0 .done, .step 0 .done, .step 0 .done,
    .start ⟨.save booked, .called⟩, .step 1 .done, .step 1 .done, .step 1 .done,
    .start ⟨.remove ⟨booked, 1⟩, .called⟩, .step 2 .done, .step 2 (.failed true)]

theorem agrees_of_permitted_oneByOne : Agrees (Run.final step (new [] 1) oneByOne) := by
  have sequential : Sequential ⟨[], 1, fun _ => none⟩ :=
    ⟨nodup_nil, fun _ there => (not_mem_nil there).elim⟩
  exact agrees_of_permitted [] 1 sequential oneByOne (by decide +kernel) (by decide +kernel)

def Called (_ : Calls) : Pool.Action Call Reply → Prop
  | .start call => call.phase = .called
  | .step _ _ => True

instance (w : Calls) : DecidablePred w.Called
  | .start call => inferInstanceAs (Decidable (call.phase = .called))
  | .step _ _ => isTrue trivial

def sideBySide : List (Pool.Action Call Reply) :=
  [.start ⟨.save booked, .called⟩, .start ⟨.save booked, .called⟩, .step 0 .done, .step 1 .done,
    .step 0 .done, .step 1 .done, .step 0 .done, .step 1 .done, .step 0 .done, .step 1 .done]

def failing : List (Pool.Action Call Reply) :=
  [.start ⟨.save booked, .called⟩, .step 0 .done, .step 0 .done, .step 0 (.failed false)]

/-- What is assigned is then too little, and too much. -/
theorem sideBySide_disagrees : (¬ ∀ (database : List StoredAssignment) (insertId : Nat)
      (actions : List (Pool.Action Call Reply)), Sequential ⟨database, insertId, fun _ => none⟩ →
      Run.Allowed step Called (new database insertId) actions →
      Quiescent (Run.final step (new database insertId) actions) →
      Agrees (Run.final step (new database insertId) actions)) ∧
    ¬ Agrees (Run.final step (new [] 1) sideBySide) ∧
    ¬ Agrees (Run.final step (new [] 1) failing) := by
  have sequential : Sequential ⟨[], 1, fun _ => none⟩ :=
    ⟨nodup_nil, fun _ there => (not_mem_nil there).elim⟩
  have tooLittle : ¬ Agrees (Run.final step (new [] 1) sideBySide) := by
    intro agrees
    have same := agrees runner 30 (by decide +kernel)
    revert same
    decide +kernel
  refine ⟨fun claimed => ?_, tooLittle, ?_⟩
  · exact tooLittle (claimed [] 1 sideBySide sequential (by decide +kernel) (by decide +kernel))
  · intro agrees
    have same := agrees runner 30 (by decide +kernel)
    revert same
    decide +kernel

end Calls
end InstanceAssignmentRepository
end AkashicSystem.ClusterMaster
