import Mathlib.Data.List.AList
import AkashicSystem.ClusterMaster.InstanceAssignmentRepository

/-!
# The processes and what is known of them

The processes that have joined are rows of a table, kept in a cache that is changed before
the table is, and is replaced as a whole by what a synchronisation has read.  A row that is
there already is updated in its key columns only.
-/

set_option autoImplicit false

namespace AkashicSystem.ClusterMaster

open List
open InstanceAssignmentRepository renaming Reply → AssignmentReply

/-- What a process has joined with; a falsy value is stored as NULL, and is none here. -/
structure ProcessInfo where
  port : Int
  machineValues : Option String
deriving DecidableEq

abbrev Processes := AList fun _ : ClusterIdentity => ProcessInfo

structure ProcessRepository where
  database : Processes
  processes : Processes
  synchronized : Bool

namespace ProcessRepository

open InstanceAssignmentRepository.Calls (runner)

inductive Operation where
  | syncDatabase
  | getAll
  | saveOrUpdate (identity : ClusterIdentity) (info : ProcessInfo)
  | removeProcesses (identities : List ClusterIdentity)

inductive Phase where
  | called
  | selecting
  | writing
  /-- A `saveOrUpdate` awaits the row. -/
  | reading
  | settled (fulfilled : Bool)
deriving DecidableEq

structure Call where
  operation : Operation
  phase : Phase

variable (r : ProcessRepository)

def getAll : List (ClusterIdentity × ProcessInfo) :=
  r.processes.entries.map fun entry => (entry.1, entry.2)

def rows : List (ClusterIdentity × ProcessInfo) :=
  r.database.entries.map fun entry => (entry.1, entry.2)

def eraseAll (processes : Processes) (identities : List ClusterIdentity) : Processes :=
  identities.foldl (fun processes identity => processes.erase identity) processes

variable (table : Processes)

/-- `INSERT … ON DUPLICATE KEY UPDATE`: the columns of the key are updated. -/
def insertOrUpdate (identity : ClusterIdentity) (info : ProcessInfo) :
    Processes :=
  if (table.lookup identity).isSome then table else table.insert identity info

def begin : Operation → ProcessRepository × Phase
  | .syncDatabase => (r, .selecting)
  | .getAll => (r, if r.synchronized then .settled true else .selecting)
  | .saveOrUpdate identity info =>
    ({ r with processes := r.processes.insert identity info }, .writing)
  | .removeProcesses [] => (r, .settled true)
  | .removeProcesses identities =>
    ({ r with processes := eraseAll r.processes identities }, .writing)

def write : Operation → ProcessRepository
  | .syncDatabase | .getAll => r
  | .saveOrUpdate identity info => { r with database := insertOrUpdate r.database identity info }
  | .removeProcesses identities => { r with database := eraseAll r.database identities }

def synchronize : ProcessRepository :=
  { r with processes := r.database, synchronized := true }

def written : Operation → Phase
  | .saveOrUpdate .. => .reading
  | _ => .settled true

def next (call : Call) (reply : AssignmentReply) :
    Option (ProcessRepository × Call) :=
  match call.phase with
  | .called =>
    let begun := r.begin call.operation
    some (begun.1, ⟨call.operation, begun.2⟩)
  | .selecting =>
    match reply with
    | .done => some (r.synchronize, ⟨call.operation, .settled true⟩)
    | .failed _ => some (r, ⟨call.operation, .settled false⟩)
  | .writing =>
    let r' := if reply.executed then r.write call.operation else r
    match reply with
    | .done => some (r', ⟨call.operation, written call.operation⟩)
    | .failed _ => some (r', ⟨call.operation, .settled false⟩)
  | .reading => some (r, ⟨call.operation, .settled (reply = .done)⟩)
  | .settled _ => none

namespace Operation

def identities : Operation → List ClusterIdentity
  | .syncDatabase | .getAll => []
  | .saveOrUpdate identity _ => [identity]
  | .removeProcesses identities => identities

def leaves : Operation → Option ProcessInfo
  | .saveOrUpdate _ info => some info
  | .syncDatabase | .getAll | .removeProcesses _ => none

end Operation

def Call.writes (call : Call) : List ClusterIdentity :=
  if call.phase = .writing then call.operation.identities else []

abbrev Calls := Pool ProcessRepository Call

namespace Calls

def step (w : Calls) (action : Pool.Action Call AssignmentReply) : Calls :=
  Pool.step next w action

def new (database : Processes) : Calls := ⟨⟨database, ∅, false⟩, []⟩

def Quiescent (w : Calls) : Prop :=
  ∀ call ∈ w.threads, call.phase = .called ∨ ∃ fulfilled, call.phase = .settled fulfilled

instance (w : Calls) : Decidable w.Quiescent :=
  decidable_of_iff (∀ call ∈ w.threads, call.phase = .called ∨ call.phase = .settled true ∨
    call.phase = .settled false) (by simp [Quiescent, or_comm])

def Agrees (w : Calls) : Prop :=
  ∀ process, process ∈ w.state.getAll ↔ process ∈ w.state.rows

/-- The statement of a call leaves in the table what the call has left in the cache. -/
def WritesCached (operation : Operation)
    (reply : AssignmentReply) : Prop :=
  match operation with
  | .syncDatabase | .getAll => True
  | .saveOrUpdate identity info =>
    r.database.lookup identity = some info ∨
      (reply.executed = true ∧ r.database.lookup identity = none)
  | .removeProcesses identities =>
    reply.executed = true ∨ ∀ identity ∈ identities, r.database.lookup identity = none

/-- After a synchronisation, a process is not changed while it is being written, and is written
as it is cached; the rows are read while nothing is being written. -/
def Permitted (w : Calls) : Pool.Action Call AssignmentReply → Prop
  | .start call => call.phase = .called
  | .step index reply => ∀ call ∈ w.threads[index]?,
      (call.phase = .called → w.state.synchronized = true →
        ∀ identity ∈ call.operation.identities, ∀ other ∈ w.threads, identity ∉ other.writes) ∧
      (call.phase = .selecting → reply = .done → ∀ other ∈ w.threads, other.phase ≠ .writing) ∧
      (call.phase = .writing → w.state.synchronized = true →
        WritesCached w.state call.operation reply)

instance (r : ProcessRepository) (operation : Operation)
    (reply : AssignmentReply) :
    Decidable (WritesCached r operation reply) := by
  cases operation with
  | syncDatabase | getAll => exact isTrue trivial
  | saveOrUpdate identity info | removeProcesses identities =>
    exact inferInstanceAs (Decidable (_ ∨ _))

instance (w : Calls) : DecidablePred w.Permitted
  | .start call => inferInstanceAs (Decidable (call.phase = .called))
  | .step index reply => inferInstanceAs (Decidable (∀ call ∈ w.threads[index]?,
      (call.phase = .called → w.state.synchronized = true →
        ∀ identity ∈ call.operation.identities, ∀ other ∈ w.threads, identity ∉ other.writes) ∧
      (call.phase = .selecting → reply = .done → ∀ other ∈ w.threads, other.phase ≠ .writing) ∧
      (call.phase = .writing → w.state.synchronized = true →
        WritesCached w.state call.operation reply)))

section Tables

theorem lookup_eraseAll (identities : List ClusterIdentity)
    (identity : ClusterIdentity) : (eraseAll table identities).lookup identity =
      if identity ∈ identities then none else table.lookup identity := by
  unfold eraseAll
  induction identities generalizing table with
  | nil => simp
  | cons head rest ih =>
    rw [foldl_cons, ih]
    by_cases later : identity ∈ rest
    · simp [later]
    · by_cases same : identity = head
      · subst same
        rw [if_neg later, if_pos mem_cons_self]
        exact AList.lookup_erase ..
      · rw [if_neg later, AList.lookup_erase_ne same]
        simp [same, later]

variable {r r' : ProcessRepository} {call call' : Call} {reply : AssignmentReply}

theorem lookup_begin (r : ProcessRepository) (operation : Operation) (identity : ClusterIdentity) :
    (r.begin operation).1.processes.lookup identity =
      if identity ∈ operation.identities then operation.leaves
      else r.processes.lookup identity := by
  cases operation with
  | syncDatabase | getAll => simp [begin, Operation.identities]
  | saveOrUpdate saved info =>
    show (r.processes.insert saved info).lookup identity =
      if identity ∈ [saved] then some info else r.processes.lookup identity
    by_cases same : identity = saved
    · subst same
      rw [if_pos (mem_singleton.mpr rfl)]
      exact AList.lookup_insert _
    · rw [if_neg fun there => same (mem_singleton.mp there)]
      exact AList.lookup_insert_ne same
  | removeProcesses identities =>
    cases identities with
    | nil => simp [begin, Operation.identities]
    | cons head rest => exact lookup_eraseAll r.processes (head :: rest) identity

theorem begin_table (r : ProcessRepository) (operation : Operation) :
    (r.begin operation).1.database = r.database ∧
      (r.begin operation).1.synchronized = r.synchronized := by
  cases operation with
  | syncDatabase | getAll | saveOrUpdate saved info => exact ⟨rfl, rfl⟩
  | removeProcesses identities =>
    cases identities with
    | nil | cons head rest => exact ⟨rfl, rfl⟩

theorem write_cache (r : ProcessRepository) (operation : Operation) :
    (r.write operation).processes = r.processes ∧
      (r.write operation).synchronized = r.synchronized := by
  cases operation with
  | syncDatabase | getAll | saveOrUpdate saved info | removeProcesses identities => exact ⟨rfl, rfl⟩

theorem lookup_write_other (r : ProcessRepository) (operation : Operation)
    (identity : ClusterIdentity) (other : identity ∉ operation.identities) :
    (r.write operation).database.lookup identity = r.database.lookup identity := by
  cases operation with
  | syncDatabase | getAll => rfl
  | saveOrUpdate saved info =>
    have distinct : identity ≠ saved := fun same => other (mem_singleton.mpr same)
    unfold write insertOrUpdate
    dsimp only
    split
    · rfl
    · exact AList.lookup_insert_ne distinct
  | removeProcesses identities =>
    exact (lookup_eraseAll r.database identities identity).trans (if_neg other)

theorem lookup_written (operation : Operation) (reply : AssignmentReply)
    (cached : WritesCached r operation reply) (identity : ClusterIdentity)
    (its : identity ∈ operation.identities) :
    (if reply.executed then r.write operation else r).database.lookup identity =
      operation.leaves := by
  cases operation with
  | syncDatabase | getAll => cases its
  | saveOrUpdate saved info =>
    rw [mem_singleton.mp its]
    rcases cached with there | ⟨executed, absent⟩
    · have kept : (r.write (.saveOrUpdate saved info)).database.lookup saved = some info := by
        unfold write insertOrUpdate
        dsimp only
        rw [there]
        exact there
      split
      · exact kept
      · exact there
    · rw [executed]
      show (insertOrUpdate r.database saved info).lookup saved = some info
      have new : ¬(r.database.lookup saved).isSome := by
        rw [absent]
        exact Bool.false_ne_true
      rw [insertOrUpdate, if_neg new]
      exact AList.lookup_insert _
  | removeProcesses identities =>
    have gone : (r.write (.removeProcesses identities)).database.lookup identity = none :=
      (lookup_eraseAll r.database identities identity).trans (if_pos its)
    rcases cached with executed | absent
    · rw [executed]
      exact gone
    · split
      · exact gone
      · exact absent identity its

end Tables

/-- After a synchronisation, what no call has to write is cached as it is stored, and what one
has to write as it leaves it. -/
structure Inv (w : Calls) : Prop where
  stored : w.state.synchronized = true → ∀ identity,
    (∀ call ∈ w.threads, identity ∉ call.writes) →
      w.state.processes.lookup identity = w.state.database.lookup identity
  cached : w.state.synchronized = true → ∀ call ∈ w.threads, ∀ identity ∈ call.writes,
    w.state.processes.lookup identity = call.operation.leaves

section Steps

variable {w : Calls} {call call' : Call} {index : Nat}

theorem writes_idle (idle : call.phase ≠ .writing) : call.writes = [] := if_neg idle

theorem writes_writing (operation : Operation) :
    Call.writes ⟨operation, .writing⟩ = operation.identities := if_pos rfl

theorem unwritten_of_idle (idle : call.phase ≠ .writing) (identity : ClusterIdentity) :
    identity ∉ call.writes := by
  rw [writes_idle idle]
  exact not_mem_nil

theorem unwritten_before (here : w.threads[index]? = some call) {identity : ClusterIdentity}
    (unwritten : ∀ other ∈ w.threads.set index call', identity ∉ other.writes)
    (own : identity ∉ call.writes) : ∀ other ∈ w.threads, identity ∉ other.writes := by
  intro other there
  obtain ⟨j, at_j⟩ := mem_iff_getElem?.mp there
  by_cases same : j = index
  · subst same
    cases here.symm.trans at_j
    exact own
  · refine unwritten other (mem_of_getElem? (i := j) ?_)
    rw [List.getElem?_set_ne (Ne.symm same)]
    exact at_j

theorem mem_after (here : w.threads[index]? = some call) : call' ∈ w.threads.set index call' :=
  mem_set (List.getElem?_eq_some_iff.mp here).1 call'

theorem inv_settled (inv : Inv w) (here : w.threads[index]? = some call)
    (idle : call.phase ≠ .writing) (idle' : call'.phase ≠ .writing) :
    Inv ⟨w.state, w.threads.set index call'⟩ := by
  constructor
  · intro synchronized identity unwritten
    exact inv.stored synchronized identity
      (unwritten_before here unwritten (unwritten_of_idle idle identity))
  · intro synchronized other there identity written
    rcases mem_or_eq_of_mem_set there with before | rfl
    · exact inv.cached synchronized other before identity written
    · exact absurd written (unwritten_of_idle idle' identity)

theorem inv_begin (inv : Inv w) (here : w.threads[index]? = some call)
    (called : call.phase = .called) (alone : w.state.synchronized = true →
      ∀ identity ∈ call.operation.identities, ∀ other ∈ w.threads, identity ∉ other.writes) :
    Inv ⟨(w.state.begin call.operation).1,
      w.threads.set index ⟨call.operation, (w.state.begin call.operation).2⟩⟩ := by
  have table := begin_table w.state call.operation
  have lookup := lookup_begin w.state call.operation
  have idle : call.phase ≠ .writing := by simp [called]
  constructor
  · intro synchronized identity unwritten
    dsimp only at synchronized unwritten ⊢
    rw [table.2] at synchronized
    rw [table.1, lookup identity]
    have others := unwritten_before here unwritten (unwritten_of_idle idle identity)
    split_ifs with its
    · exfalso
      apply unwritten _ (mem_after here)
      have waits : (w.state.begin call.operation).2 = .writing := by
        cases operation : call.operation with
        | syncDatabase | getAll =>
          rw [operation] at its
          cases its
        | saveOrUpdate saved info => rfl
        | removeProcesses identities =>
          cases identities with
          | nil =>
            rw [operation] at its
            cases its
          | cons head rest => rfl
      rw [waits, writes_writing]
      exact its
    · exact inv.stored synchronized identity others
  · intro synchronized other there identity written
    dsimp only at synchronized ⊢
    rw [table.2] at synchronized
    rw [lookup identity]
    rcases mem_or_eq_of_mem_set there with before | rfl
    · rw [if_neg fun its => alone synchronized identity its other before written]
      exact inv.cached synchronized other before identity written
    · have its : identity ∈ call.operation.identities := by
        by_cases waits : (w.state.begin call.operation).2 = .writing
        · rw [waits, writes_writing] at written
          exact written
        · exact absurd written (unwritten_of_idle waits identity)
      rw [if_pos its]

theorem inv_synchronize (alone : ∀ other ∈ w.threads, other.phase ≠ .writing)
    (operation : Operation) (index : Nat) :
    Inv ⟨w.state.synchronize, w.threads.set index ⟨operation, .settled true⟩⟩ := by
  constructor
  · exact fun _ _ _ => rfl
  · intro _ other there identity written
    rcases mem_or_eq_of_mem_set there with before | rfl
    · exact absurd written (unwritten_of_idle (alone other before) identity)
    · exact absurd written (unwritten_of_idle (by simp) identity)

theorem inv_written (inv : Inv w) (here : w.threads[index]? = some call) (reply : AssignmentReply)
    (writing : call.phase = .writing) (idle' : call'.phase ≠ .writing)
    (cached : w.state.synchronized = true → WritesCached w.state call.operation reply) :
    Inv ⟨if reply.executed then w.state.write call.operation else w.state,
      w.threads.set index call'⟩ := by
  have its : call.writes = call.operation.identities := if_pos writing
  have kept : (if reply.executed then w.state.write call.operation else w.state).processes =
      w.state.processes ∧
      (if reply.executed then w.state.write call.operation else w.state).synchronized =
        w.state.synchronized := by
    split
    · exact write_cache w.state call.operation
    · exact ⟨rfl, rfl⟩
  constructor
  · intro synchronized identity unwritten
    dsimp only at synchronized unwritten ⊢
    rw [kept.2] at synchronized
    rw [kept.1]
    by_cases own : identity ∈ call.operation.identities
    · rw [lookup_written call.operation reply (cached synchronized) identity own]
      exact inv.cached synchronized call (mem_of_getElem? here) identity (by rwa [its])
    · have others := unwritten_before here unwritten (by rwa [its])
      rw [inv.stored synchronized identity others]
      split
      · exact (lookup_write_other w.state call.operation identity own).symm
      · rfl
  · intro synchronized other there identity written
    dsimp only at synchronized ⊢
    rw [kept.2] at synchronized
    rw [kept.1]
    rcases mem_or_eq_of_mem_set there with before | rfl
    · exact inv.cached synchronized other before identity written
    · exact absurd written (unwritten_of_idle idle' identity)

theorem inv_step (w : Calls) (action : Pool.Action Call AssignmentReply) (inv : Inv w)
    (permitted : w.Permitted action) : Inv (w.step action) := by
  cases action with
  | start call =>
    have called : call.phase = .called := permitted
    have idle : call.phase ≠ .writing := by simp [called]
    constructor
    · intro synchronized identity unwritten
      exact inv.stored synchronized identity fun other there =>
        unwritten other (mem_append_left _ there)
    · intro synchronized other there identity written
      rcases mem_append.mp there with before | new
      · exact inv.cached synchronized other before identity written
      · rw [mem_singleton.mp new] at written
        exact absurd written (unwritten_of_idle idle identity)
  | step index reply =>
    rcases Pool.step_cases next w index reply with
      same | ⟨call, r', call', here, moves, eq⟩
    · rw [step, same]
      exact inv
    · obtain ⟨begins, selects, writes⟩ := permitted call here
      rw [step, eq]
      unfold next at moves
      cases phase : call.phase with
      | called =>
        rw [phase] at moves
        cases moves
        exact inv_begin inv here phase (begins phase)
      | selecting =>
        have idle : call.phase ≠ .writing := by simp [phase]
        rw [phase] at moves
        cases reply with
        | done =>
          cases moves
          exact inv_synchronize (selects phase rfl) call.operation index
        | failed executed =>
          cases moves
          exact inv_settled inv here idle (by simp)
      | writing =>
        rw [phase] at moves
        cases reply with
        | done =>
          cases moves
          refine inv_written inv here .done phase ?_ (writes phase)
          cases call.operation <;> simp [written]
        | failed executed =>
          cases moves
          exact inv_written inv here (.failed executed) phase (by simp) (writes phase)
      | reading =>
        have idle : call.phase ≠ .writing := by simp [phase]
        rw [phase] at moves
        cases moves
        exact inv_settled inv here idle (by simp)
      | settled fulfilled =>
        rw [phase] at moves
        cases moves

end Steps

theorem mem_entries_iff (process : ClusterIdentity × ProcessInfo) :
    process ∈ (table.entries.map fun entry => (entry.1, entry.2)) ↔
      table.lookup process.1 = some process.2 := by
  constructor
  · intro there
    obtain ⟨entry, held, eq⟩ := mem_map.mp there
    subst eq
    exact AList.mem_lookup_iff.mpr held
  · intro found
    exact mem_map.mpr ⟨⟨process.1, process.2⟩, AList.mem_lookup_iff.mp found, rfl⟩

/-- Whenever no call is in progress and a synchronisation has completed, all the processes are
those of the table, if the calls write what they have cached, one after the other for each
process, and the rows are read while nothing is being written. -/
theorem processes_agree_of_permitted (database : Processes)
    (actions : List (Pool.Action Call AssignmentReply))
    (run : Run.Allowed step Permitted (new database) actions)
    (quiescent : Quiescent (Run.final step (new database) actions))
    (synchronized : (Run.final step (new database) actions).state.synchronized = true) :
    Agrees (Run.final step (new database) actions) := by
  have begins : Inv (new database) := by
    constructor
    · intro false_
      cases false_
    · intro false_
      cases false_
  have inv := Run.invariant inv_step (new database) actions begins run
  intro process
  have unwritten : ∀ call ∈ (Run.final step (new database) actions).threads,
      process.1 ∉ call.writes := by
    intro call there
    apply unwritten_of_idle
    rcases quiescent call there with called | ⟨fulfilled, settled⟩
    · simp [called]
    · simp [settled]
  unfold getAll rows
  rw [mem_entries_iff, mem_entries_iff, inv.stored synchronized process.1 unwritten]

def joinsAndLeaves : List (Pool.Action Call AssignmentReply) :=
  [.start ⟨.saveOrUpdate runner ⟨8000, none⟩, .called⟩, .step 0 .done, .step 0 .done,
    .step 0 .done, .start ⟨.getAll, .called⟩, .step 1 .done, .step 1 .done,
    .start ⟨.removeProcesses [runner], .called⟩, .step 2 .done, .step 2 .done]

theorem processes_agree_of_permitted_joinsAndLeaves :
    Agrees (Run.final step (new ∅) joinsAndLeaves) := by
  apply processes_agree_of_permitted ∅ joinsAndLeaves
  · decide +kernel
  · decide +kernel
  · decide +kernel

def Called (_ : Calls) : Pool.Action Call AssignmentReply → Prop
  | .start call => call.phase = .called
  | .step _ _ => True

instance (w : Calls) : DecidablePred w.Called
  | .start call => inferInstanceAs (Decidable (call.phase = .called))
  | .step _ _ => isTrue trivial

def joinsAgain : List (Pool.Action Call AssignmentReply) :=
  [.start ⟨.getAll, .called⟩, .step 0 .done, .step 0 .done,
    .start ⟨.saveOrUpdate runner ⟨8000, none⟩, .called⟩, .step 1 .done, .step 1 .done,
    .step 1 .done, .start ⟨.saveOrUpdate runner ⟨8001, none⟩, .called⟩, .step 2 .done,
    .step 2 .done, .step 2 .done]

/-- The table has the port it joined with first. -/
theorem joinsAgain_disagrees : ¬ ∀ (database : Processes)
    (actions : List (Pool.Action Call AssignmentReply)),
    Run.Allowed step Called (new database) actions →
    Quiescent (Run.final step (new database) actions) →
    (Run.final step (new database) actions).state.synchronized = true →
    Agrees (Run.final step (new database) actions) := by
  intro claimed
  have agrees := claimed ∅ joinsAgain (by decide +kernel) (by decide +kernel) (by decide +kernel)
  have stored := (agrees (runner, ⟨8001, none⟩)).mp (by decide +kernel)
  revert stored
  decide +kernel

end Calls
end ProcessRepository
end AkashicSystem.ClusterMaster
