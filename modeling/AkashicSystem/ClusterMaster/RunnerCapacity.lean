import Mathlib.Algebra.Order.Ring.Rat
import Mathlib.Data.List.Sort
import Mathlib.Tactic.Linarith
import AkashicSystem.ClusterMaster.InstanceAssignmentRepository

/-!
# The capacity of the game runners

An instance is booted by a search of the processes with room for it, the request to one of
them to run it, and the booking of what it requires.  The mutex keeps the handling of one
instance together, and lets the instances pass each other between these steps.
-/

set_option autoImplicit false

namespace AkashicSystem.ClusterMaster

open List
open InstanceAssignmentRepository (begin getByIdentity getCurrentAssignment Call Calls
  Calls.pending Operation Operation.remove Operation.identity Operation.getAssignmentStatus)
open InstanceAssignmentRepository renaming next → callNext, Phase → CallPhase

/-- A trait as it was joined with; a text that starts with a bracket is parsed. -/
inductive Trait where
  | array (traits : List String)
  | bracketed (parsed : Option (List String))
  | text (text : String)
deriving DecidableEq

structure MachineValues where
  capacity : Option ℚ
  videoEnabled : Option Bool
  trait : Option Trait
deriving DecidableEq

namespace MachineValues

variable (machineValues : MachineValues)

def getCapacity : ℚ := machineValues.capacity.getD 100

def getVideoEnabled : Bool :=
  machineValues.videoEnabled.getD false

def getTrait : Option (List String) :=
  match machineValues.trait with
  | none => none
  | some (.array traits) => some traits
  | some (.bracketed parsed) => parsed
  | some (.text text) => some (text.splitOn ",")

end MachineValues

structure Process where
  clusterIdentity : ClusterIdentity
  port : Int
  machineValues : MachineValues
deriving DecidableEq

structure ExcludedProcess where
  fqdn : String
  type : String
  name : String
deriving DecidableEq

structure ForceAssignTo where
  host : String
  name : String

structure BootQueueMessage where
  instanceId : String
  cost : Int
  modules : List String
  /-- That of `assignmentConstraints`. -/
  trait : Option (List String)
  forceAssignTo : Option ForceAssignTo

structure Requirement where
  cost : Int
  video : Bool
  trait : Option (List String)

variable (message : BootQueueMessage)

/-- `StandardEvaluator.evaluateCost`, with `needVideo`. -/
def BootQueueMessage.evaluateCost : Requirement :=
  ⟨message.cost, message.modules.any fun code => code = "videoPublisher", message.trait⟩

structure SearchResult where
  clusterIdentity : ClusterIdentity
  targetPort : Int
  score : ℚ
deriving DecidableEq

namespace DefaultSearcher

def traitMatches (required traits : Option (List String)) : Bool :=
  match required, traits with
  | none, traits => traits.isNone
  | some _, none => false
  | some required, some traits =>
    required.length = traits.length && required.all fun trait => traits.contains trait

def suits (excluded : List ExcludedProcess) (requirement : Requirement) (process : Process) :
    Bool :=
  let identity := process.clusterIdentity
  !(excluded.any fun e =>
      identity.fqdn = e.fqdn && identity.type = e.type && identity.name = e.name) &&
    requirement.video == process.machineValues.getVideoEnabled &&
    traitMatches requirement.trait process.machineValues.getTrait

/-- The result for a process that suits, if there is room for the requirement. -/
def result (requirement : Requirement) (process : Process) (assigned : Int) :
    Option SearchResult :=
  let score := process.machineValues.getCapacity - assigned - requirement.cost
  if score < 0 then none else some ⟨process.clusterIdentity, process.port, score⟩

def sorted (results : List SearchResult) : List SearchResult :=
  results.insertionSort fun a b => b.score ≤ a.score

end DefaultSearcher

/-- A row of an instance, and its call of the process and of the repository. -/
inductive RemovalPhase where
  | unassigning
  | removing (phase : CallPhase)
deriving DecidableEq

structure Removal where
  row : StoredAssignment
  phase : RemovalPhase
deriving DecidableEq

/-- Where the handling of an instance stands, under the mutex of its id. -/
inductive HandlingPhase where
  | called
  /-- The head of the rest is looked at, and what is assigned to it may be awaited. -/
  | searching (rest : List Process) (excluded : List ExcludedProcess)
      (results : List SearchResult) (phase : CallPhase)
  /-- The argument of the request to the first candidate is awaited. -/
  | preparing (candidates : List SearchResult)
  | assigning (target : SearchResult)
  | saving (target : SearchResult) (phase : CallPhase)
  | updating
  | settled
  | unassigning (removals : List Removal)
deriving DecidableEq

structure Handling where
  message : BootQueueMessage
  phase : HandlingPhase
  runs : List ClusterIdentity

inductive Label where
  | processes (listed : List Process) (excluded : List ExcludedProcess)
  | prepared (made : Bool)
  | done
  | rowDone (index : Nat)
  | shutdown
deriving DecidableEq

namespace Handling

def instanceId (h : Handling) : String := h.message.instanceId

def searched (h : Handling) : Bool := h.message.forceAssignTo.isNone

def call (r : InstanceAssignmentRepository) (operation : Operation)
    (phase : CallPhase) :
    InstanceAssignmentRepository × CallPhase :=
  match callNext r ⟨operation, phase⟩ .done with
  | some (r', call) => (r', call.phase)
  | none => (r, phase)

variable (r : InstanceAssignmentRepository)

def found (process : Process) :
    Option SearchResult :=
  DefaultSearcher.result message.evaluateCost process
    ((r.status process.clusterIdentity).getD 0)

def search
    (rest : List Process) (excluded : List ExcludedProcess) (results : List SearchResult)
    (phase : CallPhase) :
    InstanceAssignmentRepository × HandlingPhase :=
  match rest with
  | [] => (r, .preparing (DefaultSearcher.sorted results))
  | process :: rest =>
    if DefaultSearcher.suits excluded message.evaluateCost process then
      let looked := call r (.getAssignmentStatus process.clusterIdentity) phase
      if looked.2 = .settled true then
        (looked.1,
          .searching rest excluded (results ++ (found message looked.1 process).toList) .called)
      else (looked.1, .searching (process :: rest) excluded results looked.2)
    else (r, .searching rest excluded results .called)

def resolve (listed : List Process)
    (excluded : List ExcludedProcess) : HandlingPhase :=
  match message.forceAssignTo with
  | none => .searching listed excluded [] .called
  | some forced =>
    -- `assignToFixedTarget`
    match listed.find? fun process => process.clusterIdentity.name = forced.name with
    | none => .updating
    | some target => .preparing [⟨target.clusterIdentity, target.port, 1⟩]

def assignment (target : SearchResult) : InstanceAssignment :=
  ⟨target.clusterIdentity, message.instanceId, message.cost⟩

/-- One step for a row of a shutdown: the process gives the instance up, the row is removed. -/
def remove (r : InstanceAssignmentRepository) (runs : List ClusterIdentity) (removal : Removal) :
    InstanceAssignmentRepository × List ClusterIdentity × Removal :=
  match removal.phase with
  | .unassigning =>
    (r, runs.filter fun identity => identity ≠ removal.row.targetIdentity,
      ⟨removal.row, .removing .called⟩)
  | .removing phase =>
    let removed := call r (.remove removal.row) phase
    (removed.1, runs, ⟨removal.row, .removing removed.2⟩)

/-- The processes that it has found or asked, and for which it has not been counted. -/
def candidates (h : Handling) : List ClusterIdentity :=
  match h.phase with
  | .searching _ _ results _ => results.map SearchResult.clusterIdentity
  | .preparing candidates => candidates.map SearchResult.clusterIdentity
  | .assigning target => [target.clusterIdentity]
  | .saving target .called | .saving target .summing => [target.clusterIdentity]
  | _ => []

def calls (h : Handling) : List Call :=
  match h.phase with
  | .searching (process :: _) _ _ phase =>
    [⟨.getAssignmentStatus process.clusterIdentity, phase⟩]
  | .saving target phase => [⟨.save (assignment h.message target), phase⟩]
  | .unassigning removals => removals.filterMap fun removal =>
    match removal.phase with
    | .unassigning => none
    | .removing phase => some ⟨.remove removal.row, phase⟩
  | _ => []

def summed (h : Handling) (label : Label) : Option ClusterIdentity :=
  match h.phase, label with
  | .searching (process :: _) _ _ .summing, .done => some process.clusterIdentity
  | .saving target .summing, .done => some target.clusterIdentity
  | .unassigning removals, .rowDone index => removals[index]?.bind fun removal =>
    if removal.phase = .removing .summing then some removal.row.targetIdentity else none
  | _, _ => none

def taken (h : Handling) (label : Label) :
    Option SearchResult :=
  match h.phase, label with
  | .searching (process :: _) excluded _ phase, .done =>
    let looked := call r (.getAssignmentStatus process.clusterIdentity) phase
    if DefaultSearcher.suits excluded h.message.evaluateCost process ∧ looked.2 = .settled true
    then found h.message looked.1 process
    else none
  | _, _ => none

def rows (instanceId : String) : List StoredAssignment :=
  r.database.filter fun stored => stored.instanceId = instanceId

def Removed (removal : Removal) : Prop := ∃ fulfilled, removal.phase =
    .removing (.settled fulfilled)

instance (removal : Removal) : Decidable (Removed removal) :=
  decidable_of_iff (removal.phase = .removing (.settled true) ∨
    removal.phase = .removing (.settled false)) (by simp [Removed, or_comm])

def next (r : InstanceAssignmentRepository) (h : Handling) (label : Label) :
    Option (InstanceAssignmentRepository × Handling) :=
  match h.phase, label with
  | .called, .processes listed excluded =>
    some (r, { h with phase := resolve h.message listed excluded })
  | .searching rest excluded results phase, .done =>
    let searched := search h.message r rest excluded results phase
    some (searched.1, { h with phase := searched.2 })
  | .preparing [], .done => some (r, { h with phase := .updating })
  | .preparing (target :: rest), .prepared made =>
    if made then some (r, { h with phase := .assigning target })
    else
      -- the process is asked to give the instance up, and the next one is tried
      some (r, { h with
        phase := .preparing rest
        runs := h.runs.filter fun identity => identity ≠ target.clusterIdentity })
  | .assigning target, .done =>
    some (r, { h with
      phase := .saving target .called
      runs := h.runs.insert target.clusterIdentity })
  | .saving target phase, .done =>
    let saved := call r (.save (assignment h.message target)) phase
    if saved.2 = .settled true then some (saved.1, { h with phase := .updating })
    else some (saved.1, { h with phase := .saving target saved.2 })
  | .updating, .done => some (r, { h with phase := .settled })
  | .settled, .shutdown =>
    some (r, { h with
      phase := .unassigning ((rows r h.instanceId).map fun row => ⟨row, .unassigning⟩) })
  | .unassigning removals, .rowDone index =>
    match removals[index]? with
    | none => none
    | some removal =>
      let removed := remove r h.runs removal
      some (removed.1, { h with
        phase := .unassigning (removals.set index removed.2.2)
        runs := removed.2.1 })
  | .unassigning removals, .done =>
    if ∀ removal ∈ removals, Removed removal then some (r, { h with phase := .settled })
    else none
  | _, _ => none

end Handling

/-- The repository of the master, and the handling of each instance. -/
abbrev Handlings := Pool InstanceAssignmentRepository Handling

namespace Handlings

open Handling
open InstanceAssignmentRepository.Calls (Sequential WritesCounted)

def step (w : Handlings) (action : Pool.Action Handling Label) : Handlings :=
  Pool.step next w action

def resumed (row : StoredAssignment × Option ForceAssignTo) : Handling :=
  { message := ⟨row.1.instanceId, row.1.requirement, [], none, row.2⟩
    phase := .settled
    runs := [row.1.targetIdentity] }

def new (rows : List (StoredAssignment × Option ForceAssignTo)) (insertId : Nat) : Handlings :=
  ⟨⟨rows.map Prod.fst, insertId, fun _ => none⟩, rows.map resumed⟩

/-- What an instance requires of a process that runs it, if it was searched for. -/
def assigned (identity : ClusterIdentity) (h : Handling) : Int :=
  if h.searched ∧ identity ∈ h.runs then h.message.cost else 0

variable (capacity : ClusterIdentity → ℚ)

/-- The requirements of the instances assigned to a process sum to no more than its capacity. -/
def Within (w : Handlings) : Prop :=
  ∀ identity, ((Pool.total (assigned identity) w.threads : Int) : ℚ) ≤ capacity identity

/-- What a boot holds of a process that its search has taken, and has not yet counted. -/
def held (identity : ClusterIdentity) (h : Handling) : Int :=
  if h.searched ∧ identity ∈ h.candidates then h.message.cost else 0

def pending (identity : ClusterIdentity) (h : Handling) : Int :=
  Pool.total (Calls.pending identity) h.calls

/-- Different instances are booted, and a process is listed with its capacity. -/
def Started (w : Handlings) : Pool.Action Handling Label → Prop
  | .start h => h.phase = .called ∧ h.runs = [] ∧
      ∀ other ∈ w.threads, other.instanceId ≠ h.instanceId
  | .step _ (.processes listed _) => ∀ process ∈ listed,
      process.machineValues.getCapacity = capacity process.clusterIdentity
  | .step _ _ => True

/-- No cost is negative, rows are not summed while a save has still to insert what it has
counted, and the score of what a search takes covers what the other boots hold. -/
def Permitted (w : Handlings) (action : Pool.Action Handling Label) : Prop :=
  w.Started capacity action ∧
  match action with
  | .start h => 0 ≤ h.message.cost
  | .step index label => ∀ h ∈ w.threads[index]?,
      (∀ identity ∈ h.summed label, Pool.total (pending identity) w.threads ≤ 0) ∧
      ∀ result ∈ h.taken w.state label,
        ((Pool.total (held result.clusterIdentity) w.threads - held result.clusterIdentity h : Int)
          : ℚ) ≤ result.score

instance (w : Handlings) : DecidablePred (w.Started capacity)
  | .start h => inferInstanceAs (Decidable (h.phase = .called ∧ h.runs = [] ∧
      ∀ other ∈ w.threads, other.instanceId ≠ h.instanceId))
  | .step _ (.processes listed _) => inferInstanceAs (Decidable (∀ process ∈ listed,
      process.machineValues.getCapacity = capacity process.clusterIdentity))
  | .step _ (.prepared _) | .step _ .done | .step _ (.rowDone _) | .step _ .shutdown =>
    isTrue trivial

instance (w : Handlings) : DecidablePred (w.Permitted capacity)
  | .start h => inferInstanceAs (Decidable (w.Started capacity (.start h) ∧ 0 ≤ h.message.cost))
  | .step index label => inferInstanceAs (Decidable (w.Started capacity (.step index label) ∧
      ∀ h ∈ w.threads[index]?,
        (∀ identity ∈ h.summed label, Pool.total (pending identity) w.threads ≤ 0) ∧
        ∀ result ∈ h.taken w.state label,
          ((Pool.total (held result.clusterIdentity) w.threads -
            held result.clusterIdentity h : Int) : ℚ) ≤ result.score))

/-! ## The calls of the repository -/

section Calls

open InstanceAssignmentRepository (Operation Phase)
open InstanceAssignmentRepository.Calls (pending_of_not_writing pending_writing ledger_next
  sequential_next status_setStatus)

variable {r : InstanceAssignmentRepository} {operation : Operation} {phase : Phase}

/-- What is known to be assigned covers what is stored, and what is still to be written. -/
def Covers (r : InstanceAssignmentRepository) (others : ClusterIdentity → Int) : Prop :=
  ∀ identity, ∀ assigned ∈ r.status identity,
    r.getCurrentAssignment identity + others identity ≤ assigned

theorem sequential_call (sequential : Sequential r) : Sequential (call r operation phase).1 := by
  unfold call
  cases moves : callNext r ⟨operation, phase⟩ .done with
  | none => exact sequential
  | some moved => exact sequential_next moves sequential

theorem database_call : (call r operation phase).1.database =
    if phase = .writing then (r.write operation).database else r.database := by
  cases phase with
  | called =>
    rw [if_neg (by simp)]
    show (r.begin operation).1.database = r.database
    unfold begin
    cases operation with
    | getAssignmentStatus identity | removeByIdentity identity => rfl
    | save a | remove a =>
      dsimp only
      split <;> rfl
  | summing | writing | selecting | settled fulfilled => rfl

theorem operation_next {r' : InstanceAssignmentRepository}
    {call call' : Call} {reply : InstanceAssignmentRepository.Reply}
    (moves : callNext r call reply = some (r', call')) : call'.operation = call.operation := by
  unfold callNext at moves
  cases phase : call.phase with
  | called =>
    rw [phase] at moves
    cases moves
    rfl
  | summing | writing =>
    rw [phase] at moves
    cases reply with
    | done | failed executed =>
      cases moves
      rfl
  | selecting =>
    rw [phase] at moves
    cases moves
    rfl
  | settled fulfilled =>
    rw [phase] at moves
    cases moves

variable {others : ClusterIdentity → Int}

theorem covers_unsummed (sequential : Sequential r)
    (covers : Covers r fun identity => others identity + Calls.pending identity ⟨operation, phase⟩)
    (unsummed : phase ≠ .summing) (writes : phase = .writing → WritesCounted r operation .done) :
    Covers (call r operation phase).1 fun identity => others identity + Calls.pending identity
        ⟨operation, (call r operation phase).2⟩ := by
  unfold call
  cases moves : callNext r ⟨operation, phase⟩ .done with
  | none => exact covers
  | some moved =>
    have same : (⟨operation, moved.2.phase⟩ : Call) = moved.2 := by
      have kept : moved.2.operation = operation := operation_next moves
      rw [← kept]
    -- what the known amount has beyond the calls is counted among the others
    let rest (identity : ClusterIdentity) : Int :=
      match r.status identity with
      | none => others identity
      | some assigned => assigned - r.getCurrentAssignment identity -
          Calls.pending identity ⟨operation, phase⟩
    have more (identity : ClusterIdentity) : others identity ≤ rest identity := by
      unfold rest
      cases known : r.status identity with
      | none => exact Int.le_refl _
      | some assigned =>
        have enough := covers identity assigned known
        dsimp only at enough ⊢
        omega
    have exactly : ∀ identity, ∀ assigned ∈ r.status identity,
        assigned = r.getCurrentAssignment identity + (rest identity +
          Calls.pending identity ⟨operation, phase⟩) := by
      intro identity assigned known
      unfold rest
      rw [Option.mem_def.mp known]
      dsimp only
      omega
    intro identity assigned known
    have after := ledger_next moves sequential exactly (fun summing => absurd summing unsummed)
      writes identity assigned known
    have enough := more identity
    dsimp only
    rw [same]
    omega

/-- What is summed is known, if the others have nothing more to insert. -/
theorem covers_summed (covers : Covers r others) (written : others operation.identity ≤ 0) :
    Covers (call r operation .summing).1 fun identity => others identity + Calls.pending identity
        ⟨operation, (call r operation .summing).2⟩ := by
  have counts (identity : ClusterIdentity) :
      Calls.pending identity
          ⟨operation, (call r operation .summing).2⟩ =
        if operation.identity = identity then operation.delta else 0 := by
    rw [← pending_writing]
    cases operation with
    | getAssignmentStatus other => simp [call, callNext,
        InstanceAssignmentRepository.summed, Calls.pending,
        Operation.delta]
    | removeByIdentity other | save a | remove a => rfl
  intro identity assigned known
  change assigned ∈ (r.setStatus operation.identity
    (some (r.getCurrentAssignment operation.identity + operation.delta))).status identity at known
  show r.getCurrentAssignment identity + (others identity + _) ≤ assigned
  rw [counts]
  rw [status_setStatus] at known
  split_ifs at known with same
  · subst same
    have sum := Option.some.inj known
    rw [if_pos rfl]
    omega
  · rw [if_neg (Ne.symm same), Int.add_zero]
    exact covers identity assigned known

theorem covers_call (sequential : Sequential r)
    (covers : Covers r fun identity => others identity + Calls.pending identity ⟨operation, phase⟩)
    (sums : phase = .summing → others operation.identity + Calls.pending operation.identity
      ⟨operation, phase⟩ ≤ 0)
    (writes : phase = .writing → WritesCounted r operation .done) :
    Covers (call r operation phase).1 fun identity => others identity + Calls.pending identity
        ⟨operation, (call r operation phase).2⟩ := by
  by_cases summing : phase = .summing
  · subst summing
    have nothing (identity : ClusterIdentity) :
        Calls.pending identity ⟨operation, .summing⟩ = 0 :=
      pending_of_not_writing (by simp)
    have written := sums rfl
    rw [nothing, Int.add_zero] at written
    apply covers_summed _ written
    intro identity assigned known
    have enough := covers identity assigned known
    dsimp only at enough
    rw [nothing, Int.add_zero] at enough
    exact enough
  · exact covers_unsummed sequential covers summing writes

end Calls

/-! ## What is stored of an instance -/

section Stored

variable {r r' : InstanceAssignmentRepository} {message : BootQueueMessage}

theorem rows_of_database (same : r'.database = r.database) (instanceId : String) :
    rows r' instanceId = rows r instanceId := by
  unfold rows
  rw [same]

theorem rows_save (a : InstanceAssignment) (instanceId : String) :
    rows (r.write (.save a)) instanceId = rows r instanceId ++
      if a.instanceId = instanceId then [⟨a, r.insertId⟩] else [] := by
  show (r.database ++ [_]).filter _ = _
  rw [filter_append]
  by_cases same : a.instanceId = instanceId <;> simp [rows, same]

theorem rows_remove (sequential : Sequential r) (row : StoredAssignment) (there : row ∈ r.database)
    (instanceId : String) : rows (r.write (.remove row)) instanceId =
      (rows r instanceId).filter fun stored => stored ≠ row := by
  show (r.database.filter _).filter _ = _
  unfold rows
  rw [filter_filter, filter_filter]
  apply filter_congr
  intro stored held
  have itself : stored.id = row.id ↔ stored = row := by
    constructor
    · exact Keyed.eq_of_key StoredAssignment.id r.database sequential.nodup stored row held there
    · rintro rfl
      rfl
  simp only [ne_eq, itself]
  exact Bool.and_comm ..

def Unwritten (phase : CallPhase) : Prop :=
  phase = .called ∨ phase = .summing ∨ phase = .writing

structure Books (r : InstanceAssignmentRepository) (message : BootQueueMessage)
    (row : StoredAssignment) : Prop where
  rows : rows r message.instanceId = [row]
  requirement : row.requirement = message.cost

inductive Stands (r : InstanceAssignmentRepository) (message : BootQueueMessage) :
    HandlingPhase → List ClusterIdentity → Prop where
  | called (unbooked : rows r message.instanceId = []) : Stands r message .called []
  | searching (rest : List Process) (excluded : List ExcludedProcess)
      (results : List SearchResult) (phase : CallPhase)
      (unbooked : rows r message.instanceId = [])
      (looks : phase = .called ∨ phase = .summing)
      (listed : ∀ process ∈ rest,
        process.machineValues.getCapacity = capacity process.clusterIdentity) :
      Stands r message (.searching rest excluded results phase) []
  | preparing (candidates : List SearchResult) (unbooked : rows r message.instanceId = []) :
      Stands r message (.preparing candidates) []
  | assigning (target : SearchResult) (unbooked : rows r message.instanceId = []) :
      Stands r message (.assigning target) []
  | saving (target : SearchResult) (phase : CallPhase)
      (unbooked : rows r message.instanceId = []) (unwritten : Unwritten phase) :
      Stands r message (.saving target phase) [target.clusterIdentity]
  | saved (target : SearchResult) (row : StoredAssignment) (books : Books r message row)
      (same : row.targetIdentity = target.clusterIdentity) :
      Stands r message (.saving target .selecting) [target.clusterIdentity]
  | failed (unbooked : rows r message.instanceId = []) : Stands r message .updating []
  | booked (row : StoredAssignment) (books : Books r message row) :
      Stands r message .updating [row.targetIdentity]
  | free (unbooked : rows r message.instanceId = []) : Stands r message .settled []
  | running (row : StoredAssignment) (books : Books r message row) :
      Stands r message .settled [row.targetIdentity]
  | givingUp (row : StoredAssignment) (books : Books r message row) :
      Stands r message (.unassigning [⟨row, .unassigning⟩]) [row.targetIdentity]
  | removing (row : StoredAssignment) (phase : CallPhase)
      (books : Books r message row) (unwritten : Unwritten phase) :
      Stands r message (.unassigning [⟨row, .removing phase⟩]) []
  | removed (removals : List Removal) (unbooked : rows r message.instanceId = [])
      (removed : ∀ removal ∈ removals, removal.phase = .removing (.settled true)) :
      Stands r message (.unassigning removals) []

variable {capacity}

theorem Stands.of_rows {phase : HandlingPhase} {runs : List ClusterIdentity}
    (same : rows r' message.instanceId = rows r message.instanceId)
    (stands : Stands capacity r message phase runs) : Stands capacity r' message phase runs := by
  have books {row : StoredAssignment} (books : Books r message row) : Books r' message row :=
    ⟨same.trans books.rows, books.requirement⟩
  cases stands with
  | called unbooked => exact .called (same.trans unbooked)
  | searching rest excluded results phase unbooked looks listed =>
    exact .searching rest excluded results phase (same.trans unbooked) looks listed
  | preparing candidates unbooked => exact .preparing candidates (same.trans unbooked)
  | assigning target unbooked => exact .assigning target (same.trans unbooked)
  | saving target phase unbooked unwritten =>
    exact .saving target phase (same.trans unbooked) unwritten
  | saved target row held target' => exact .saved target row (books held) target'
  | failed unbooked => exact .failed (same.trans unbooked)
  | booked row held => exact .booked row (books held)
  | free unbooked => exact .free (same.trans unbooked)
  | running row held => exact .running row (books held)
  | givingUp row held => exact .givingUp row (books held)
  | removing row phase held unwritten => exact .removing row phase (books held) unwritten
  | removed removals unbooked removed => exact .removed removals (same.trans unbooked) removed

end Stored

/-! ## One step of a handling -/

section Steps

open InstanceAssignmentRepository.Calls (pending_of_not_writing)

variable {capacity} {r r' : InstanceAssignmentRepository} {message : BootQueueMessage}
  {h h' : Handling} {label : Label}

structure Moved (capacity : ClusterIdentity → ℚ) (r r' : InstanceAssignmentRepository)
    (h h' : Handling) (label : Label) : Prop where
  message : h'.message = h.message
  sequential : Sequential r'
  stands : Stands capacity r' h.message h'.phase h'.runs
  apart : ∀ instanceId, instanceId ≠ h.instanceId → rows r' instanceId = rows r instanceId
  owned : ∀ row ∈ r'.database, row ∈ r.database ∨ row.instanceId = h.instanceId
  covers : ∀ others : ClusterIdentity → Int,
    Covers r (fun identity => others identity + pending identity h) →
    (∀ identity ∈ h.summed label, others identity + pending identity h ≤ 0) →
    Covers r' fun identity => others identity + pending identity h'
  held : h.searched → ∀ identity, identity ∈ h'.runs ∨ identity ∈ h'.candidates →
    (identity ∈ h.runs ∨ identity ∈ h.candidates) ∨
      ∃ result ∈ h.taken r label, result.clusterIdentity = identity ∧
        ∃ assigned ∈ r'.status identity,
          result.score = capacity identity - assigned - h.message.cost

theorem Moved.of_uncalled (sequential : Sequential r) (phase : HandlingPhase)
    (runs : List ClusterIdentity) (stands : Stands capacity r h.message phase runs)
    (counts : ∀ identity, pending identity ⟨h.message, phase, runs⟩ = pending identity h)
    (held : h.searched → ∀ identity,
      identity ∈ runs ∨ identity ∈ (⟨h.message, phase, runs⟩ : Handling).candidates →
        identity ∈ h.runs ∨ identity ∈ h.candidates) :
    Moved capacity r r h ⟨h.message, phase, runs⟩ label where
  message := rfl
  sequential := sequential
  stands := stands
  apart _ _ := rfl
  owned _ there := .inl there
  covers others covers _ := by
    simp only [counts]
    exact covers
  held searched identity there := .inl (held searched identity there)

theorem pending_single (identity : ClusterIdentity) (call : Call) (only : h.calls = [call]) :
    pending identity h = Calls.pending identity call := by
  unfold pending
  rw [only]
  exact Int.add_zero _

theorem pending_searching (identity : ClusterIdentity) (rest : List Process)
    (excluded : List ExcludedProcess) (results : List SearchResult)
    (phase : CallPhase) (runs : List ClusterIdentity) (looks : phase = .called ∨ phase = .summing) :
    pending identity ⟨message, .searching rest excluded results phase, runs⟩ = 0 := by
  cases rest with
  | nil => rfl
  | cons process rest =>
    rw [pending_single identity ⟨.getAssignmentStatus process.clusterIdentity, phase⟩ rfl]
    apply pending_of_not_writing
    rcases looks with rfl | rfl <;> simp

theorem call_getAssignmentStatus (identity : ClusterIdentity)
    (phase : CallPhase) (looks : phase = .called ∨ phase = .summing) :
    let looked := call r (.getAssignmentStatus identity) phase
    (looked.2 = .settled true ∧ ∃ assigned, looked.1.status identity = some assigned) ∨
      looked.2 = .summing := by
  rcases looks with rfl | rfl
  · cases known : r.status identity with
    | none =>
      right
      simp [call, callNext, begin, known]
    | some assigned =>
      left
      simp [call, callNext, begin, known]
  · left
    exact ⟨rfl, _, Function.update_self ..⟩

theorem unwritten_call (operation : Operation) (phase : CallPhase)
    (writes : (∃ a, operation = .save a) ∨ ∃ row, operation = .remove row)
    (unwritten : Unwritten phase) : (phase ≠ .writing ∧ Unwritten (call r operation phase).2) ∨
      (phase = .writing ∧
        (call r operation phase).2 = InstanceAssignmentRepository.written operation) := by
  rcases unwritten with rfl | rfl | rfl
  · left
    refine ⟨by simp, ?_⟩
    rcases writes with ⟨a, rfl⟩ | ⟨row, rfl⟩
    · cases known : r.status a.targetIdentity with
      | none | some assigned => simp [call, callNext,
          begin, Operation.identity,
          known, Unwritten]
    · cases known : r.status row.targetIdentity with
      | none | some assigned => simp [call, callNext,
          begin, Operation.identity,
          known, Unwritten]
  · left
    refine ⟨by simp, ?_⟩
    rcases writes with ⟨a, rfl⟩ | ⟨row, rfl⟩ <;> exact .inr (.inr rfl)
  · exact .inr ⟨rfl, rfl⟩

def Own (r : InstanceAssignmentRepository) (instanceId : String)
    (operation : Operation) : Prop :=
  (∃ a : InstanceAssignment, operation = .save a ∧ a.instanceId = instanceId) ∨
    ∃ row ∈ r.database, operation = .remove row ∧ row.instanceId = instanceId

section

variable (sequential : Sequential r)
include sequential

theorem Moved.of_call (operation : Operation)
    (callPhase : CallPhase) (calls : h.calls = [⟨operation, callPhase⟩])
    (own : callPhase = .writing → Own r h.instanceId operation)
    (summed : callPhase = .summing → operation.identity ∈ h.summed label)
    (phase : HandlingPhase) (runs : List ClusterIdentity)
    (stands : Stands capacity (call r operation callPhase).1 h.message phase runs)
    (counts : ∀ identity, pending identity ⟨h.message, phase, runs⟩ =
      Calls.pending identity
        ⟨operation, (call r operation callPhase).2⟩)
    (held : h.searched → ∀ identity,
      identity ∈ runs ∨ identity ∈ (⟨h.message, phase, runs⟩ : Handling).candidates →
        (identity ∈ h.runs ∨ identity ∈ h.candidates) ∨
          ∃ result ∈ h.taken r label, result.clusterIdentity = identity ∧
            ∃ assigned ∈ (call r operation callPhase).1.status identity,
              result.score = capacity identity - assigned - h.message.cost) :
    Moved capacity r (call r operation callPhase).1 h ⟨h.message, phase, runs⟩ label where
  message := rfl
  sequential := sequential_call sequential
  stands := stands
  held := held
  apart := by
    intro instanceId other
    by_cases writing : callPhase = .writing
    · have written := @database_call r operation callPhase
      rw [if_pos writing] at written
      rw [rows_of_database written]
      rcases own writing with ⟨a, rfl, its⟩ | ⟨row, there, rfl, its⟩
      · rw [rows_save, if_neg (fun same => other (same.symm.trans its)), append_nil]
      · rw [rows_remove sequential row there]
        apply filter_eq_self.mpr
        intro stored held
        have isOther : stored.instanceId = instanceId := by
          simpa using (mem_filter.mp held).2
        simp only [ne_eq, decide_not, Bool.not_eq_eq_eq_not, Bool.not_true,
          decide_eq_false_iff_not]
        rintro rfl
        exact other (isOther.symm.trans its)
    · have unwritten := @database_call r operation callPhase
      rw [if_neg writing] at unwritten
      exact rows_of_database unwritten instanceId
  owned := by
    intro row there
    rw [database_call] at there
    split_ifs at there with writing
    · rcases own writing with ⟨a, rfl, its⟩ | ⟨removed, _, rfl, _⟩
      · rcases mem_append.mp there with old | new
        · exact .inl old
        · rw [mem_singleton.mp new]
          exact .inr its
      · exact .inl (mem_of_mem_filter there)
    · exact .inl there
  covers := by
    intro others covers sums
    simp only [pending_single _ _ calls] at covers sums
    simp only [counts]
    apply covers_call sequential covers
    · intro summing
      exact sums _ (summed summing)
    · intro writing
      rcases own writing with ⟨a, rfl, its⟩ | ⟨row, there, rfl, its⟩
      · exact .inr rfl
      · exact .inl ⟨rfl, there⟩

theorem moved_search (rest : List Process)
    (excluded : List ExcludedProcess) (results : List SearchResult)
    (phase : CallPhase) (unbooked : rows r message.instanceId = [])
    (looks : phase = .called ∨ phase = .summing) (listed : ∀ process ∈ rest,
      process.machineValues.getCapacity = capacity process.clusterIdentity) :
    let searched := search message r rest excluded results phase
    Moved capacity r searched.1 ⟨message, .searching rest excluded results phase, []⟩
      ⟨message, searched.2, []⟩ .done := by
  have nothing := @pending_searching message
  cases rest with
  | nil =>
    apply Moved.of_uncalled sequential
    · exact .preparing _ unbooked
    · intro identity
      rw [nothing _ _ _ _ _ _ looks]
      rfl
    · rintro - identity (runs | sorted)
      · exact .inl runs
      · right
        obtain ⟨result, there, its⟩ := mem_map.mp sorted
        exact mem_map.mpr ⟨result, (perm_insertionSort _ _).mem_iff.mp there, its⟩
  | cons process rest =>
    have later : ∀ process ∈ rest,
        process.machineValues.getCapacity = capacity process.clusterIdentity :=
      fun process there => listed process (mem_cons_of_mem _ there)
    unfold search
    dsimp only
    by_cases suits : DefaultSearcher.suits excluded message.evaluateCost process
    · rw [if_pos suits]
      have unwritten : (call r (.getAssignmentStatus process.clusterIdentity) phase).1.database =
          r.database := by
        rw [database_call, if_neg (by rcases looks with rfl | rfl <;> simp)]
      have stillUnbooked := (rows_of_database unwritten message.instanceId).trans unbooked
      have silent : phase = .writing → Own r message.instanceId
          (.getAssignmentStatus process.clusterIdentity) := by
        rintro rfl
        rcases looks with none | none <;> cases none
      have sums (after : HandlingPhase) : phase = .summing →
          (Operation.getAssignmentStatus
            process.clusterIdentity).identity ∈ (⟨message, .searching (process :: rest) excluded
              results phase, []⟩ : Handling).summed .done := by
        rintro rfl
        rfl
      rcases call_getAssignmentStatus (r := r) process.clusterIdentity phase looks with
        ⟨settled, assigned, known⟩ | summing
      · rw [if_pos settled]
        apply Moved.of_call sequential _ _ rfl silent (sums .called)
        · exact .searching _ _ _ _ stillUnbooked (.inl rfl) later
        · intro identity
          rw [nothing _ _ _ _ _ _ (.inl rfl), pending_of_not_writing]
          rw [settled]
          simp
        · rintro - identity (runs | among)
          · exact .inl (.inl runs)
          · obtain ⟨result, there, its⟩ := mem_map.mp among
            rcases mem_append.mp there with old | new
            · exact .inl (.inr (mem_map.mpr ⟨result, old, its⟩))
            · right
              have isFound := Option.mem_toList.mp new
              have takes : (⟨message, .searching (process :: rest) excluded results phase, []⟩ :
                  Handling).taken r .done = some result := by
                unfold taken
                dsimp only
                rw [if_pos ⟨suits, settled⟩]
                exact isFound
              have scored : result.clusterIdentity = process.clusterIdentity ∧
                  result.score = process.machineValues.getCapacity - assigned - message.cost := by
                unfold found DefaultSearcher.result at isFound
                rw [known] at isFound
                dsimp only at isFound
                split_ifs at isFound with short
                cases isFound
                exact ⟨rfl, rfl⟩
              refine ⟨result, takes, its, assigned, ?_, ?_⟩
              · rw [← its, scored.1]
                exact known
              · rw [scored.2, ← its, scored.1, listed process mem_cons_self]
      · rw [if_neg (by rw [summing]; simp)]
        apply Moved.of_call sequential _ _ rfl silent (sums .called)
        · exact .searching _ _ _ _ stillUnbooked (.inr summing) listed
        · intro identity
          rw [nothing _ _ _ _ _ _ (.inr summing), pending_of_not_writing]
          rw [summing]
          simp
        · exact fun _ identity there => .inl there
    · rw [if_neg suits]
      apply Moved.of_uncalled sequential
      · exact .searching _ _ _ _ unbooked (.inl rfl) later
      · intro identity
        rw [nothing _ _ _ _ _ _ looks, nothing _ _ _ _ _ _ (.inl rfl)]
      · exact fun _ identity there => there

theorem moved_save (target : SearchResult) (phase : CallPhase) (runs : List ClusterIdentity)
    (stands : Stands capacity r message (.saving target phase) runs) :
    let saved := call r (.save (assignment message target)) phase
    Moved capacity r saved.1 ⟨message, .saving target phase, runs⟩
      ⟨message, if saved.2 = .settled true then .updating else .saving target saved.2, runs⟩
      .done := by
  have its (after : CallPhase) (identity : ClusterIdentity)
      (there : identity ∈ [target.clusterIdentity] ∨
        identity ∈ (⟨message, .saving target after, [target.clusterIdentity]⟩ :
          Handling).candidates) : identity ∈ [target.clusterIdentity] := by
    rcases there with runs | candidate
    · exact runs
    · cases after with
      | called | summing => exact candidate
      | writing | selecting | settled fulfilled => cases candidate
  dsimp only
  cases stands with
  | saving target phase unbooked unwritten =>
    have own : phase = .writing →
        Own r message.instanceId (.save (assignment message target)) :=
      fun _ => .inl ⟨_, rfl, rfl⟩
    have sums : phase = .summing → target.clusterIdentity ∈ (⟨message, .saving target phase,
        [target.clusterIdentity]⟩ : Handling).summed .done := by
      rintro rfl
      rfl
    rcases unwritten_call (r := r) (.save (assignment message target)) phase
      (.inl ⟨_, rfl⟩) unwritten with ⟨waits, still⟩ | ⟨writing, selects⟩
    · have unsettled :
          (call r (.save (assignment message target)) phase).2 ≠ .settled true := by
        rcases still with eq | eq | eq <;> simp [eq]
      rw [if_neg unsettled]
      have unwritten : (call r (.save (assignment message target)) phase).1.database =
          r.database := by
        rw [database_call, if_neg waits]
      apply Moved.of_call sequential _ _ rfl own sums
      · exact .saving target _ ((rows_of_database unwritten _).trans unbooked) still
      · exact fun identity => pending_single _ _ rfl
      · exact fun _ identity there => .inl (.inl (its _ identity there))
    · have selects' : (call r (.save (assignment message target)) phase).2 = .selecting := selects
      rw [if_neg (by rw [selects']; simp)]
      have row : rows (call r (.save (assignment message target)) phase).1 message.instanceId =
          [⟨assignment message target, r.insertId⟩] := by
        have written := @database_call r (.save (assignment message target)) phase
        rw [if_pos writing] at written
        have its : (assignment message target).instanceId = message.instanceId := rfl
        rw [rows_of_database written, rows_save, unbooked, if_pos its]
        rfl
      apply Moved.of_call sequential _ _ rfl own sums
      · rw [selects']
        exact .saved target _ ⟨row, rfl⟩ rfl
      · exact fun identity => pending_single _ _ rfl
      · exact fun _ identity there => .inl (.inl (its _ identity there))
  | saved target row books same =>
    have settles : (call r (.save (assignment message target)) .selecting).2 = .settled true :=
      rfl
    rw [if_pos settles]
    apply Moved.of_call sequential _ .selecting rfl
    · rintro ⟨⟩
    · rintro ⟨⟩
    · have running := @Stands.booked capacity _ _ row books
      rw [same] at running
      exact running
    · intro identity
      exact (pending_of_not_writing (by simp [settles])).symm
    · rintro - identity (runs | none)
      · exact .inl (.inl runs)
      · cases none

theorem moved_remove (removals : List Removal)
    (runs : List ClusterIdentity) (index : Nat) (removal : Removal)
    (there : removals[index]? = some removal)
    (stands : Stands capacity r message (.unassigning removals) runs) :
    let removed := remove r runs removal
    Moved capacity r removed.1 ⟨message, .unassigning removals, runs⟩
      ⟨message, .unassigning (removals.set index removed.2.2), removed.2.1⟩ (.rowDone index) := by
  have first (only : Removal) (there : [only][index]? = some removal) :
      index = 0 ∧ removal = only := by
    obtain ⟨inside, eq⟩ := List.getElem?_eq_some_iff.mp there
    have zero : index = 0 := by simpa using inside
    subst zero
    exact ⟨rfl, eq.symm⟩
  dsimp only
  cases stands with
  | givingUp row books =>
    obtain ⟨rfl, rfl⟩ := first _ there
    have given : [row.targetIdentity].filter (fun identity => identity ≠ row.targetIdentity) =
        [] := by simp
    unfold remove
    dsimp only
    rw [given]
    apply Moved.of_uncalled sequential
    · exact .removing row .called books (.inl rfl)
    · exact fun identity => rfl
    · rintro - identity (none | none)
      · cases none
      · cases none
  | removing row phase books unwritten =>
    obtain ⟨rfl, rfl⟩ := first _ there
    have inDatabase : row ∈ r.database := by
      have among : row ∈ rows r message.instanceId := by simp [books.rows]
      exact mem_of_mem_filter among
    have itsId : row.instanceId = message.instanceId := by
      have among : row ∈ rows r message.instanceId := by simp [books.rows]
      simpa using (mem_filter.mp among).2
    have own : phase = .writing → Own r message.instanceId (.remove row) :=
      fun _ => .inr ⟨row, inDatabase, rfl, itsId⟩
    have sums : phase = .summing → row.targetIdentity ∈
        (⟨message, .unassigning [⟨row, .removing phase⟩], []⟩ : Handling).summed
          (.rowDone 0) := by
      rintro rfl
      rfl
    rcases unwritten_call (r := r) (.remove row) phase (.inr ⟨_, rfl⟩) unwritten with
      ⟨waits, still⟩ | ⟨writing, settles⟩
    · have unwritten : (call r (.remove row) phase).1.database = r.database := by
        rw [database_call, if_neg waits]
      have same := rows_of_database unwritten message.instanceId
      apply Moved.of_call sequential _ _ rfl own sums
      · exact .removing row _ ⟨same.trans books.rows, books.requirement⟩ still
      · exact fun identity => pending_single _ _ rfl
      · rintro - identity (none | none)
        · cases none
        · cases none
    · have settles' : (call r (.remove row) phase).2 = .settled true := settles
      have unbooked : rows (call r (.remove row) phase).1 message.instanceId = [] := by
        have written := @database_call r (.remove row) phase
        rw [if_pos writing] at written
        rw [rows_of_database written, rows_remove sequential row inDatabase, books.rows]
        simp
      apply Moved.of_call sequential _ _ rfl own sums
      · apply Stands.removed _ unbooked
        intro removal isRemoval
        rw [mem_singleton.mp isRemoval]
        exact congrArg RemovalPhase.removing settles'
      · exact fun identity => pending_single _ _ rfl
      · rintro - identity (none | none)
        · cases none
        · cases none
  | removed removals unbooked removed =>
    have settled := removed removal (mem_of_getElem? there)
    have same : remove r [] removal = (r, [], removal) := by
      unfold remove
      obtain ⟨row, phase⟩ := removal
      dsimp only at settled
      rw [settled]
      rfl
    have unchanged : removals.set index removal = removals := by
      obtain ⟨inside, eq⟩ := List.getElem?_eq_some_iff.mp there
      rw [← eq]
      exact set_getElem_self inside
    rw [same]
    dsimp only
    rw [unchanged]
    apply Moved.of_uncalled sequential
    · exact .removed removals unbooked removed
    · exact fun identity => rfl
    · exact fun _ identity there => there

theorem moved_resolve (listed : List Process)
    (excluded : List ExcludedProcess) (unbooked : rows r message.instanceId = [])
    (capacities : ∀ process ∈ listed,
      process.machineValues.getCapacity = capacity process.clusterIdentity) :
    Moved capacity r r ⟨message, .called, []⟩ ⟨message, resolve message listed excluded, []⟩
      (.processes listed excluded) := by
  unfold resolve
  cases forced : message.forceAssignTo with
  | none =>
    apply Moved.of_uncalled sequential
    · exact .searching _ _ _ _ unbooked (.inl rfl) capacities
    · intro identity
      rw [pending_searching _ _ _ _ _ _ (.inl rfl)]
      rfl
    · exact fun _ identity there => there
  | some forced' =>
    have notSearched (searched : (⟨message, .called, []⟩ : Handling).searched) : False := by
      unfold Handling.searched at searched
      rw [forced] at searched
      cases searched
    dsimp only
    split
    · apply Moved.of_uncalled sequential
      · exact .failed unbooked
      · exact fun identity => rfl
      · exact fun searched => (notSearched searched).elim
    · apply Moved.of_uncalled sequential
      · exact .preparing _ unbooked
      · exact fun identity => rfl
      · exact fun searched => (notSearched searched).elim

theorem moved_shutdown (runs : List ClusterIdentity)
    (stands : Stands capacity r message .settled runs) :
    Moved capacity r r ⟨message, .settled, runs⟩
      ⟨message, .unassigning ((rows r message.instanceId).map fun row => ⟨row, .unassigning⟩),
        runs⟩ .shutdown := by
  apply Moved.of_uncalled sequential
  · cases stands with
    | free unbooked =>
      rw [unbooked]
      exact .removed [] unbooked fun _ none => (not_mem_nil none).elim
    | running row books =>
      rw [books.rows]
      exact .givingUp row books
  · intro identity
    have silent : (⟨message, .unassigning ((rows r message.instanceId).map fun row =>
        ⟨row, .unassigning⟩), runs⟩ : Handling).calls = [] := by
      unfold calls
      dsimp only
      rw [filterMap_map]
      exact filterMap_eq_nil_iff.mpr fun _ _ => rfl
    unfold pending
    rw [silent]
    rfl
  · exact fun _ identity there => there

theorem moved_next (stands : Stands capacity r h.message h.phase h.runs)
    (listed : ∀ listed excluded, label = .processes listed excluded → ∀ process ∈ listed,
      process.machineValues.getCapacity = capacity process.clusterIdentity)
    (moves : next r h label = some (r', h')) : Moved capacity r r' h h' label := by
  obtain ⟨message, phase, runs⟩ := h
  unfold Handling.next at moves
  dsimp only at moves stands
  split at moves
  next found excluded =>
    cases moves
    cases stands with
    | called unbooked => exact moved_resolve sequential found excluded unbooked (listed _ _ rfl)
  next rest excluded results phase =>
    cases moves
    cases stands with
    | searching rest excluded results phase unbooked looks listed =>
      exact moved_search sequential rest excluded results phase unbooked looks listed
  next =>
    cases moves
    cases stands with
    | preparing _ unbooked =>
      apply Moved.of_uncalled sequential
      · exact .failed unbooked
      · exact fun identity => rfl
      · exact fun _ identity there => there
  next target rest made =>
    cases stands with
    | preparing _ unbooked =>
      split at moves
      · cases moves
        apply Moved.of_uncalled sequential
        · exact .assigning target unbooked
        · exact fun identity => rfl
        · rintro - identity (none | first)
          · cases none
          · rw [mem_singleton.mp first]
            exact .inr mem_cons_self
      · cases moves
        apply Moved.of_uncalled sequential
        · exact .preparing rest unbooked
        · exact fun identity => rfl
        · rintro - identity (none | later)
          · cases none
          · exact .inr (mem_cons_of_mem _ later)
  next target =>
    cases moves
    cases stands with
    | assigning _ unbooked =>
      apply Moved.of_uncalled sequential
      · exact .saving target .called unbooked (.inl rfl)
      · intro identity
        rw [pending_single identity ⟨.save (assignment message target), .called⟩ rfl,
          pending_of_not_writing (by simp)]
        rfl
      · rintro - identity (running | candidate)
        · exact .inr running
        · exact .inr candidate
  next target phase =>
    have moved := moved_save sequential target phase runs stands
    dsimp only at moved moves
    split_ifs at moves with settled
    · cases moves
      rw [if_pos settled] at moved
      exact moved
    · cases moves
      rw [if_neg settled] at moved
      exact moved
  next =>
    cases moves
    apply Moved.of_uncalled sequential
    · cases stands with
      | failed unbooked => exact .free unbooked
      | booked row books => exact .running row books
    · exact fun identity => rfl
    · exact fun _ identity there => there
  next =>
    cases moves
    exact moved_shutdown sequential runs stands
  next removals index =>
    cases there : removals[index]? with
    | none =>
      rw [there] at moves
      cases moves
    | some removal =>
      rw [there] at moves
      cases moves
      exact moved_remove sequential removals runs index removal there stands
  next removals =>
    split_ifs at moves with all
    cases moves
    apply Moved.of_uncalled sequential
    · cases stands with
      | givingUp row books =>
        obtain ⟨fulfilled, none⟩ := all _ (mem_singleton.mpr rfl)
        cases none
      | removing row phase books unwritten =>
        obtain ⟨fulfilled, settled⟩ := all _ (mem_singleton.mpr rfl)
        cases settled
        rcases unwritten with none | none | none <;> cases none
      | removed _ unbooked => exact .free unbooked
    · intro identity
      have silent : pending identity ⟨message, .unassigning removals, runs⟩ = 0 := by
        apply Pool.total_eq_zero
        intro call there
        obtain ⟨removal, among, its⟩ := mem_filterMap.mp there
        obtain ⟨fulfilled, settled⟩ := all removal among
        rw [settled] at its
        cases its
        exact pending_of_not_writing (by simp)
      rw [silent]
      rfl
    · exact fun _ identity there => there
  next => cases moves

end

end Steps

/-! ## What the instances claim together -/

section Claims

open InstanceAssignmentRepository.Calls (pending_of_not_writing pending_writing)

variable {capacity} {r : InstanceAssignmentRepository}

def claims (identity : ClusterIdentity) (h : Handling) : Int :=
  if h.searched ∧ (identity ∈ h.runs ∨ identity ∈ h.candidates) then h.message.cost else 0

def stored (database : List StoredAssignment) (identity : ClusterIdentity) (h : Handling) : Int :=
  (((database.filter fun row => row.instanceId = h.instanceId).filter fun row =>
    row.targetIdentity = identity).map fun row => row.requirement).sum

theorem stored_cons (row : StoredAssignment) (database : List StoredAssignment)
    (identity : ClusterIdentity) (h : Handling) : stored (row :: database) identity h =
      (if h.instanceId = row.instanceId then
        if row.targetIdentity = identity then row.requirement else 0 else 0) +
        stored database identity h := by
  unfold stored
  by_cases its : row.instanceId = h.instanceId
  · by_cases same : row.targetIdentity = identity <;> simp [its, same]
  · simp [its, Ne.symm its]

theorem total_stored (database : List StoredAssignment) (identity : ClusterIdentity)
    (handlings : List Handling) (distinct : (handlings.map Handling.instanceId).Nodup)
    (owned : ∀ row ∈ database, row.instanceId ∈ handlings.map Handling.instanceId) :
    Pool.total (stored database identity) handlings =
      ((database.filter fun row => row.targetIdentity = identity).map
        fun row => row.requirement).sum := by
  induction database with
  | nil =>
    apply Pool.total_eq_zero
    exact fun _ _ => rfl
  | cons row database ih =>
    have rest := ih fun row there => owned row (mem_cons_of_mem _ there)
    have split := Pool.total_add (fun h : Handling => if h.instanceId = row.instanceId then
      if row.targetIdentity = identity then row.requirement else 0 else 0)
      (stored database identity) handlings
    rw [funext fun h => stored_cons row database identity h, split, rest,
      Pool.total_of_key Handling.instanceId row.instanceId _ handlings distinct
        (owned row mem_cons_self)]
    by_cases same : row.targetIdentity = identity <;> simp [same]

variable {h : Handling}

theorem stored_of_nothing (nothing : rows r h.instanceId = []) (identity : ClusterIdentity) :
    stored r.database identity h = 0 := by
  unfold rows at nothing
  simp [stored, nothing]

theorem stored_of_row {row : StoredAssignment} (books : Books r h.message row)
    (identity : ClusterIdentity) : stored r.database identity h =
      if row.targetIdentity = identity then h.message.cost else 0 := by
  have only : r.database.filter (fun row => row.instanceId = h.instanceId) = [row] := books.rows
  unfold stored
  rw [only]
  by_cases same : row.targetIdentity = identity
  · simp [same, books.requirement]
  · simp [same]

theorem claims_le_of_uncounted (identity : ClusterIdentity) (runs : h.runs = [])
    (counted : 0 ≤ stored r.database identity h + pending identity h) :
    claims identity h ≤ stored r.database identity h + pending identity h + held identity h ∧
      0 ≤ stored r.database identity h + pending identity h := by
  refine ⟨?_, counted⟩
  have atMost : claims identity h = held identity h := by
    simp [claims, held, runs]
  omega

/-- What an instance requires is counted for the one process that runs it. -/
theorem claims_le_of_counted (identity target : ClusterIdentity) (cost : 0 ≤ h.message.cost)
    (runs : h.runs = [target]) (candidates : h.candidates = [])
    (counted : stored r.database identity h + pending identity h = if target = identity then
      h.message.cost else 0) :
    claims identity h ≤ stored r.database identity h + pending identity h + held identity h ∧
      0 ≤ stored r.database identity h + pending identity h := by
  rw [counted]
  have nothing : held identity h = 0 := by
    simp [held, candidates]
  rw [nothing, Int.add_zero]
  unfold claims
  rw [runs, candidates]
  by_cases same : target = identity
  · rw [if_pos same]
    refine ⟨?_, cost⟩
    split
    · exact Int.le_refl _
    · exact cost
  · have other : ¬ identity = target := fun eq => same eq.symm
    simp [same, other]

theorem claims_le (stands : Stands capacity r h.message h.phase h.runs)
    (cost : 0 ≤ h.message.cost) (identity : ClusterIdentity) :
    claims identity h ≤ stored r.database identity h + pending identity h + held identity h ∧
      0 ≤ stored r.database identity h + pending identity h := by
  obtain ⟨message, phase, runs⟩ := h
  dsimp only at stands cost
  have uncounted {phase : HandlingPhase} (unbooked : rows r message.instanceId = [])
      (written : pending identity ⟨message, phase, []⟩ = 0) :
      0 ≤ stored r.database identity ⟨message, phase, []⟩ +
        pending identity ⟨message, phase, []⟩ := by
    rw [@stored_of_nothing r ⟨message, phase, []⟩ unbooked, written]
    exact Int.le_refl 0
  have counted {phase : HandlingPhase} {runs : List ClusterIdentity} {row : StoredAssignment}
      (books : Books r message row) (written : pending identity ⟨message, phase, runs⟩ = 0) :
      stored r.database identity ⟨message, phase, runs⟩ +
        pending identity ⟨message, phase, runs⟩ =
          if row.targetIdentity = identity then message.cost else 0 := by
    rw [@stored_of_row r ⟨message, phase, runs⟩ row books, written, Int.add_zero]
  cases stands with
  | called unbooked => exact claims_le_of_uncounted identity rfl (uncounted unbooked rfl)
  | searching rest excluded results phase unbooked looks listed =>
    exact claims_le_of_uncounted identity rfl (uncounted unbooked
      (pending_searching identity rest excluded results phase [] looks))
  | preparing candidates unbooked | assigning target unbooked =>
    exact claims_le_of_uncounted identity rfl (uncounted unbooked rfl)
  | saving target phase unbooked unwritten =>
    have nothing := @stored_of_nothing r
      ⟨message, .saving target phase, [target.clusterIdentity]⟩ unbooked identity
    have waits : pending identity ⟨message, .saving target phase, [target.clusterIdentity]⟩ =
        Calls.pending identity
          ⟨.save (assignment message target), phase⟩ := pending_single identity _ rfl
    have begins (unwritten : phase = .called ∨ phase = .summing) :
        claims identity ⟨message, .saving target phase, [target.clusterIdentity]⟩ ≤
            0 + 0 + held identity ⟨message, .saving target phase, [target.clusterIdentity]⟩ ∧
          (0 : Int) ≤ 0 + 0 := by
      rcases unwritten with rfl | rfl <;> simp [claims, held, candidates]
    rcases unwritten with called | summing | rfl
    · rw [nothing, waits, pending_of_not_writing (by simp [called])]
      exact begins (.inl called)
    · rw [nothing, waits, pending_of_not_writing (by simp [summing])]
      exact begins (.inr summing)
    · apply claims_le_of_counted identity target.clusterIdentity cost rfl rfl
      rw [nothing, waits, pending_writing, Int.zero_add]
      rfl
  | saved target row books same =>
    apply claims_le_of_counted identity target.clusterIdentity cost rfl rfl
    rw [← same]
    apply counted books
    rw [pending_single identity ⟨.save (assignment message target), .selecting⟩ rfl]
    exact pending_of_not_writing (by simp)
  | failed unbooked => exact claims_le_of_uncounted identity rfl (uncounted unbooked rfl)
  | booked row books => exact claims_le_of_counted identity _ cost rfl rfl (counted books rfl)
  | free unbooked => exact claims_le_of_uncounted identity rfl (uncounted unbooked rfl)
  | running row books | givingUp row books =>
    exact claims_le_of_counted identity _ cost rfl rfl (counted books rfl)
  | removing row phase books unwritten =>
    apply claims_le_of_uncounted identity rfl
    rw [@stored_of_row r ⟨message, .unassigning [⟨row, .removing phase⟩], []⟩ row books,
      pending_single identity ⟨.remove row, phase⟩ rfl]
    rcases unwritten with rfl | rfl | rfl
    · rw [pending_of_not_writing (by simp), Int.add_zero]
      split
      · exact cost
      · exact Int.le_refl 0
    · rw [pending_of_not_writing (by simp), Int.add_zero]
      split
      · exact cost
      · exact Int.le_refl 0
    · have delta : (Operation.remove row).delta = -message.cost := by
        rw [← books.requirement]
        rfl
      have itself : (Operation.remove row).identity =
          row.targetIdentity := rfl
      rw [pending_writing, delta, itself]
      by_cases same : row.targetIdentity = identity
      · rw [if_pos same, if_pos same]
        show 0 ≤ message.cost + -message.cost
        omega
      · rw [if_neg same, if_neg same]
        exact Int.le_refl 0
  | removed removals unbooked removed =>
    apply claims_le_of_uncounted identity rfl (uncounted unbooked _)
    apply Pool.total_eq_zero
    intro call there
    obtain ⟨removal, among, its⟩ := mem_filterMap.mp there
    rw [removed removal among] at its
    cases its
    exact pending_of_not_writing (by simp)

end Claims

section Runs

variable {capacity}

structure Inv (capacity : ClusterIdentity → ℚ) (w : Handlings) : Prop where
  sequential : Sequential w.state
  distinct : (w.threads.map Handling.instanceId).Nodup
  owned : ∀ row ∈ w.state.database, row.instanceId ∈ w.threads.map Handling.instanceId
  costs : ∀ h ∈ w.threads, 0 ≤ h.message.cost
  stands : ∀ h ∈ w.threads, Stands capacity w.state h.message h.phase h.runs
  covers : Covers w.state fun identity => Pool.total (pending identity) w.threads
  room : ∀ identity,
    ((Pool.total (claims identity) w.threads : Int) : ℚ) ≤ capacity identity

theorem claims_nonneg {h : Handling} (cost : 0 ≤ h.message.cost) (identity : ClusterIdentity) :
    0 ≤ claims identity h ∧ claims identity h ≤ h.message.cost := by
  unfold claims
  split
  · exact ⟨cost, Int.le_refl _⟩
  · exact ⟨Int.le_refl 0, cost⟩

theorem room_of_score {w : Handlings} (distinct : (w.threads.map Handling.instanceId).Nodup)
    (owned : ∀ row ∈ w.state.database, row.instanceId ∈ w.threads.map Handling.instanceId)
    (costs : ∀ h ∈ w.threads, 0 ≤ h.message.cost)
    (stands : ∀ h ∈ w.threads, Stands capacity w.state h.message h.phase h.runs)
    (covers : Covers w.state fun identity => Pool.total (pending identity) w.threads)
    {h : Handling} (there : h ∈ w.threads) {identity : ClusterIdentity} {assigned : Int}
    (known : assigned ∈ w.state.status identity)
    (score : ((Pool.total (held identity) w.threads - held identity h : Int) : ℚ) ≤
      capacity identity - assigned - h.message.cost) :
    ((Pool.total (claims identity) w.threads : Int) : ℚ) ≤ capacity identity := by
  have beside := Pool.total_beside_le (claims identity)
    (fun h => stored w.state.database identity h + pending identity h + held identity h)
    w.threads (fun h there => (claims_le (stands h there) (costs h there) identity).1) h there
  have own := (claims_le (stands h there) (costs h there) identity).2
  have most := (claims_nonneg (costs h there) identity).2
  rw [Pool.total_add, Pool.total_add, total_stored _ identity _ distinct owned] at beside
  have enough := covers identity assigned known
  have inAll : Pool.total (claims identity) w.threads ≤ h.message.cost + assigned +
      (Pool.total (held identity) w.threads - held identity h) := by
    unfold getCurrentAssignment
      getByIdentity at enough
    dsimp only at beside enough
    omega
  have cast : ((Pool.total (claims identity) w.threads : Int) : ℚ) ≤
      ((h.message.cost + assigned +
        (Pool.total (held identity) w.threads - held identity h) : Int) : ℚ) :=
    Int.cast_le.mpr inAll
  push_cast at cast score
  linarith

theorem map_instanceId_set (handlings : List Handling) (index : Nat) (h h' : Handling)
    (here : handlings[index]? = some h) (same : h'.message = h.message) :
    (handlings.set index h').map Handling.instanceId = handlings.map Handling.instanceId := by
  have id : h'.instanceId = h.instanceId := congrArg BootQueueMessage.instanceId same
  apply ext_getElem?
  intro i
  rw [List.getElem?_map, List.getElem?_map]
  by_cases itself : index = i
  · subst itself
    have inside := (List.getElem?_eq_some_iff.mp here).1
    rw [List.getElem?_set_self inside, here]
    exact congrArg some id
  · rw [List.getElem?_set_ne itself]

theorem inv_start (w : Handlings) (h : Handling) (inv : Inv capacity w)
    (permitted : w.Permitted capacity (.start h)) : Inv capacity (w.step (.start h)) := by
  obtain ⟨⟨called, runs, fresh⟩, cost⟩ := permitted
  obtain ⟨message, phase, running⟩ := h
  dsimp only at called runs fresh cost
  subst called runs
  have absent : message.instanceId ∉ w.threads.map Handling.instanceId := by
    intro there
    obtain ⟨other, among, same⟩ := mem_map.mp there
    exact fresh other among same
  have unbooked : rows w.state message.instanceId = [] := by
    apply filter_eq_nil_iff.mpr
    intro row there its
    apply absent
    rw [← of_decide_eq_true its]
    exact inv.owned row there
  constructor
  · exact inv.sequential
  · exact Keyed.nodup_map_append Handling.instanceId w.threads _ inv.distinct absent
  · intro row there
    show row.instanceId ∈ (w.threads ++ [_]).map Handling.instanceId
    rw [map_append]
    exact mem_append_left _ (inv.owned row there)
  · intro h there
    rcases mem_append.mp there with old | new
    · exact inv.costs h old
    · rw [mem_singleton.mp new]
      exact cost
  · intro h there
    rcases mem_append.mp there with old | new
    · exact inv.stands h old
    · rw [mem_singleton.mp new]
      exact .called unbooked
  · intro identity assigned known
    show _ + Pool.total (pending identity) (w.threads ++ [_]) ≤ assigned
    rw [Pool.total_append]
    have nothing : pending identity ⟨message, .called, []⟩ = 0 := rfl
    rw [nothing, Int.add_zero]
    exact inv.covers identity assigned known
  · intro identity
    show ((Pool.total (claims identity) (w.threads ++ [_]) : Int) : ℚ) ≤ _
    rw [Pool.total_append]
    have nothing : claims identity ⟨message, .called, []⟩ = 0 := by
      simp [claims, candidates]
    rw [nothing, Int.add_zero]
    exact inv.room identity

theorem inv_step (w : Handlings) (action : Pool.Action Handling Label) (inv : Inv capacity w)
    (permitted : w.Permitted capacity action) : Inv capacity (w.step action) := by
  cases action with
  | start h => exact inv_start w h inv permitted
  | step index label =>
    obtain ⟨started, permitted⟩ := permitted
    rcases Pool.step_cases next w index label with
      same | ⟨h, r', h', here, moves, eq⟩
    · rw [step, same]
      exact inv
    · have there := mem_of_getElem? here
      have listed : ∀ listed excluded, label = .processes listed excluded →
          ∀ process ∈ listed,
            process.machineValues.getCapacity = capacity process.clusterIdentity := by
        rintro listed excluded rfl
        exact started
      have moved := moved_next inv.sequential (inv.stands h there) listed moves
      obtain ⟨sums, takes⟩ := permitted h here
      have ids := map_instanceId_set w.threads index h h' here moved.message
      have total (weight : Handling → Int) := Pool.total_set weight w.threads index h h' here
      have distinct : ((w.threads.set index h').map Handling.instanceId).Nodup := by
        rw [ids]
        exact inv.distinct
      have owned : ∀ row ∈ r'.database,
          row.instanceId ∈ (w.threads.set index h').map Handling.instanceId := by
        intro row inTable
        rw [ids]
        rcases moved.owned row inTable with old | own
        · exact inv.owned row old
        · rw [own]
          exact mem_map_of_mem there
      have costs : ∀ other ∈ w.threads.set index h', 0 ≤ other.message.cost := by
        intro other among
        rcases mem_or_eq_of_mem_set among with old | rfl
        · exact inv.costs other old
        · rw [moved.message]
          exact inv.costs h there
      have stands : ∀ other ∈ w.threads.set index h',
          Stands capacity r' other.message other.phase other.runs := by
        intro other among
        obtain ⟨i, there'⟩ := List.getElem?_of_mem among
        rcases Pool.getElem?_set_cases w.threads index i h h' other here there' with
          ⟨_, rfl⟩ | ⟨beside, old⟩
        · rw [moved.message]
          exact moved.stands
        · apply (inv.stands other (mem_of_getElem? old)).of_rows
          apply moved.apart
          intro same
          have inside : i < (w.threads.map Handling.instanceId).length := by
            rw [length_map]
            exact (List.getElem?_eq_some_iff.mp old).1
          apply beside
          apply (List.getElem?_inj inside inv.distinct).mp
          rw [List.getElem?_map, List.getElem?_map, old, here]
          exact congrArg some same
      have covers : Covers r' fun identity =>
          Pool.total (pending identity) (w.threads.set index h') := by
        have after := moved.covers
          (fun identity => Pool.total (pending identity) w.threads - pending identity h)
        simp only [Int.sub_add_cancel] at after
        simp only [total]
        exact after inv.covers sums
      rw [step, eq]
      refine ⟨moved.sequential, distinct, owned, costs, stands, covers, fun identity => ?_⟩
      show ((Pool.total (claims identity) (w.threads.set index h') : Int) : ℚ) ≤ _
      have cost := inv.costs h there
      by_cases more : claims identity h' ≤ claims identity h
      · have atMost : Pool.total (claims identity) (w.threads.set index h') ≤
            Pool.total (claims identity) w.threads := by
          rw [total]
          omega
        exact le_trans (Int.cast_le.mpr atMost) (inv.room identity)
      · -- only what a search takes is claimed anew
        have claimed : h'.searched ∧ (identity ∈ h'.runs ∨ identity ∈ h'.candidates) := by
          by_contra none
          apply more
          rw [show claims identity h' = 0 from if_neg none]
          exact (claims_nonneg cost identity).1
        have searched : h.searched := by
          unfold Handling.searched
          rw [← moved.message]
          exact claimed.1
        rcases moved.held searched identity claimed.2 with
          already | ⟨result, taken, rfl, assigned, known, score⟩
        · refine absurd ?_ more
          have before : claims identity h = h.message.cost := if_pos ⟨searched, already⟩
          have after := (claims_nonneg (moved.message ▸ cost) identity : _ ∧
            claims identity h' ≤ h'.message.cost).2
          rw [moved.message] at after
          omega
        · have itself : h' ∈ w.threads.set index h' :=
            mem_set (List.getElem?_eq_some_iff.mp here).1 h'
          have room := takes result taken
          apply @room_of_score capacity ⟨r', w.threads.set index h'⟩ distinct owned costs stands
            covers h' itself _ assigned known
          rw [total, moved.message, ← score]
          have beside : Pool.total (held result.clusterIdentity) w.threads -
              held result.clusterIdentity h + held result.clusterIdentity h' -
                held result.clusterIdentity h' =
              Pool.total (held result.clusterIdentity) w.threads -
                held result.clusterIdentity h := by
            omega
          rw [beside]
          exact room

theorem inv_new (rows : List (StoredAssignment × Option ForceAssignTo)) (insertId : Nat)
    (sequential : Sequential (new rows insertId).state)
    (distinct : (rows.map fun row => row.1.instanceId).Nodup)
    (costs : ∀ row ∈ rows, 0 ≤ row.1.requirement)
    (within : Within capacity (new rows insertId)) : Inv capacity (new rows insertId) := by
  have ids : (rows.map resumed).map Handling.instanceId =
      rows.map fun row => row.1.instanceId := by
    rw [map_map]
    rfl
  constructor
  · exact sequential
  · show ((rows.map resumed).map Handling.instanceId).Nodup
    rw [ids]
    exact distinct
  · intro row there
    obtain ⟨entry, among, rfl⟩ := mem_map.mp there
    show entry.1.instanceId ∈ (rows.map resumed).map Handling.instanceId
    rw [ids]
    exact mem_map_of_mem among
  · intro h there
    obtain ⟨entry, among, rfl⟩ := mem_map.mp there
    exact costs entry among
  · intro h there
    obtain ⟨entry, among, rfl⟩ := mem_map.mp there
    apply Stands.running entry.1
    refine ⟨?_, rfl⟩
    apply Keyed.filter_eq_key (fun row : StoredAssignment => row.instanceId)
    · show ((rows.map Prod.fst).map _).Nodup
      rw [map_map]
      exact distinct
    · exact mem_map_of_mem among
  · intro identity assigned known
    cases known
  · intro identity
    have same : Pool.total (claims identity) (new rows insertId).threads =
        Pool.total (assigned identity) (new rows insertId).threads := by
      show Pool.total (claims identity) (rows.map resumed) = Pool.total _ (rows.map resumed)
      unfold Pool.total
      rw [map_map, map_map]
      congr 1
      apply map_congr_left
      intro row _
      simp [claims, assigned, candidates, resumed]
    rw [same]
    exact within identity

/-- The capacity of no process is exceeded, if no cost is negative, no rows are summed while a
save has still to insert what it has counted, and the score of what a search takes covers what
the other boots hold. -/
theorem within_of_permitted (capacity : ClusterIdentity → ℚ)
    (rows : List (StoredAssignment × Option ForceAssignTo)) (insertId : Nat)
    (sequential : Sequential (new rows insertId).state)
    (distinct : (rows.map fun row => row.1.instanceId).Nodup)
    (costs : ∀ row ∈ rows, 0 ≤ row.1.requirement) (within : Within capacity (new rows insertId))
    (actions : List (Pool.Action Handling Label))
    (run : Run.Allowed step (Permitted capacity) (new rows insertId) actions) :
    Within capacity (Run.final step (new rows insertId) actions) := by
  have inv := Run.invariant inv_step (new rows insertId) actions
    (inv_new rows insertId sequential distinct costs within) run
  intro identity
  have atMost : Pool.total (assigned identity)
      (Run.final step (new rows insertId) actions).threads ≤
        Pool.total (claims identity) (Run.final step (new rows insertId) actions).threads := by
    apply Pool.total_le_total
    intro h there
    have cost := inv.costs h there
    unfold assigned claims
    by_cases runs : h.searched ∧ identity ∈ h.runs
    · rw [if_pos runs, if_pos ⟨runs.1, .inl runs.2⟩]
    · rw [if_neg runs]
      split
      · exact cost
      · exact Int.le_refl 0
  exact le_trans (Int.cast_le.mpr atMost) (inv.room identity)

open InstanceAssignmentRepository.Calls (runner)

def runnerProcess : Process := ⟨runner, 5000, ⟨none, none, none⟩⟩

def requested (instanceId : String) (cost : Int) (forceAssignTo : Option ForceAssignTo) :
    Handling :=
  { message := ⟨instanceId, cost, [], none, forceAssignTo⟩, phase := .called, runs := [] }

/-- One boot after the other, and a shutdown; there is no room for the second. -/
def oneByOne : List (Pool.Action Handling Label) :=
  [.start (requested "1" 60 none), .start (requested "2" 60 none),
    .step 0 (.processes [runnerProcess] []), .step 1 (.processes [runnerProcess] []),
    .step 0 .done, .step 0 .done, .step 0 .done, .step 0 (.prepared true), .step 0 .done,
    .step 0 .done, .step 0 .done, .step 0 .done, .step 0 .done,
    .step 1 .done, .step 1 .done, .step 1 .done,
    .step 0 .shutdown, .step 0 (.rowDone 0), .step 0 (.rowDone 0), .step 0 (.rowDone 0),
    .step 0 .done]

theorem within_of_permitted_oneByOne :
    Within (fun _ => 100) (Run.final step (new [] 1) oneByOne) := by
  have sequential : Sequential (new [] 1).state :=
    ⟨nodup_nil, fun _ none => (not_mem_nil none).elim⟩
  have within : Within (fun _ => 100) (new [] 1) := by
    intro identity
    exact (by norm_num : ((0 : Int) : ℚ) ≤ 100)
  exact within_of_permitted (fun _ => 100) [] 1 sequential nodup_nil
    (fun _ none => (not_mem_nil none).elim) within oneByOne (by decide +kernel)

def overlapping : List (Pool.Action Handling Label) :=
  [.start (requested "1" 60 none), .start (requested "2" 60 none),
    .step 0 (.processes [runnerProcess] []), .step 1 (.processes [runnerProcess] []),
    .step 0 .done, .step 0 .done, .step 0 .done, .step 1 .done, .step 1 .done,
    .step 0 (.prepared true), .step 1 (.prepared true), .step 0 .done, .step 1 .done]

/-- They exceed the capacity together. -/
theorem overlapping_exceeds :
    ¬ ∀ (capacity : ClusterIdentity → ℚ) (rows : List (StoredAssignment × Option ForceAssignTo))
      (insertId : Nat) (actions : List (Pool.Action Handling Label)),
      Sequential (new rows insertId).state → (rows.map fun row => row.1.instanceId).Nodup →
      Within capacity (new rows insertId) →
      Run.Allowed step (Started capacity) (new rows insertId) actions →
      Within capacity (Run.final step (new rows insertId) actions) := by
  intro claimed
  have sequential : Sequential (new [] 1).state :=
    ⟨nodup_nil, fun _ none => (not_mem_nil none).elim⟩
  have begins : Within (fun _ => 100) (new [] 1) := by
    intro identity
    exact (by norm_num : ((0 : Int) : ℚ) ≤ 100)
  have within := claimed (fun _ => 100) [] 1 overlapping sequential nodup_nil begins
    (by decide +kernel) runner
  revert within
  decide +kernel

end Runs

end Handlings
end AkashicSystem.ClusterMaster
