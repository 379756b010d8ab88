import AkashicSystem.Dispatching.DispatchingRedis
import AkashicSystem.Lib.Pool

/-!
# Dispatching a client to a process

`Dispatcher`, and the give-backs of the playlog servers.  A dispatch lists its
candidates from several answers and then tries one after the other; each phase
is a command or a request that it waits for.
-/

set_option autoImplicit false

namespace AkashicSystem.Dispatching

structure Process where
  id : String
  reservationEndpoint : Option String
deriving DecidableEq

def removeDuplicateCapacities (capacities : List (String × Int)) (processes : List String) :
    List (String × Int) :=
  capacities.filter fun capacity => capacity.1 ∉ processes

variable (processes : List String)

def removeZeroCapacityProcesses (capacities : List (String × Int)) :
    List String :=
  processes.filter fun process =>
    process = "" ∨ process ∉ (capacities.filter fun capacity => capacity.2 < 1).map Prod.fst

def pickAliveProcesses (aliveProcesses : List Process) : List Process :=
  processes.flatMap fun process => aliveProcesses.filter fun alive => alive.id = process

def removeExcludeProcesses (processes : List Process) (excludeProcessIds : List String) :
    List Process :=
  processes.filter fun process => process.id ∉ excludeProcessIds

/-- The loop of `shuffleProcesses` from index `i` down; `random i` is the random index. -/
def shuffleFrom (random : Nat → Nat) (array : Array Process) : Nat → Array Process
  | 0 => array
  | i + 1 => shuffleFrom random (array.swapIfInBounds (i + 1) (random (i + 1) % (i + 2))) i

def shuffleProcesses (random : Nat → Nat) (array : List Process) : List Process :=
  (shuffleFrom random array.toArray (array.length - 1)).toList

def orderedProcesses (capacities : List (String × Int)) : List String :=
  removeZeroCapacityProcesses
    (processes ++ (removeDuplicateCapacities capacities processes).map Prod.fst) capacities

/-- The candidates: the first `shuffleProcessCount` of them are shuffled. -/
def shuffledCandidates (shuffleProcessCount : Nat) (random : Nat → Nat)
    (candidates : List Process) : List Process :=
  shuffleProcesses random (candidates.take shuffleProcessCount) ++
    candidates.drop shuffleProcessCount

inductive Phase where
  | findProcesses
  | findCapacities (processes : List String)
  | getAliveProcesses (ordered : List String)
  | getExcludeProcesses (alive : List Process)
  | getForceProcess (processId : String)
  | increaseCapacity (processId : String) (rest : List Process)
  | resetCapacity (processId : String) (rest : List Process)
  | increaseClient (processId : String) (rest : List Process)
  | reserveEndpoint (processId : String) (rest : List Process)
  | assigned (processId : String)
  | rejected
deriving DecidableEq

structure Dispatch where
  playId : String
  playToken : String
  phase : Phase

inductive Answer where
  | done
  | failed
  | alive (processes : List Process)
  | excluded (processIds : List String) (random : Nat → Nat)
  /-- The server has made the reservation, and the dispatcher knows. -/
  | reserved
  /-- The request fails where the server may still make the reservation. -/
  | unanswered

def Answer.isFailed : Answer → Bool
  | .failed => true
  | _ => false

def Answer.isReserved : Answer → Bool
  | .reserved => true
  | _ => false

theorem Answer.isFailed_iff (answer : Answer) : answer.isFailed = true ↔ answer = .failed := by
  cases answer <;> simp [isFailed]

instance (answer : Answer) : Decidable (answer = .failed) :=
  decidable_of_iff _ answer.isFailed_iff

namespace Phase

def begins : Phase → Bool
  | .findProcesses | .getForceProcess _ => true
  | _ => false

def finished : Phase → Bool
  | .assigned _ | .rejected => true
  | _ => false

def atCapacity : Phase → Bool
  | .increaseCapacity _ _ | .resetCapacity _ _ => true
  | _ => false

end Phase

/-- `assignProcessWithCandidates` from here on: a process without an endpoint is
passed over. -/
def assignProcessWithCandidates : List Process → Phase
  | [] => .rejected
  | process :: rest =>
    match process.reservationEndpoint with
    | none | some "" => assignProcessWithCandidates rest
    | some _ => .increaseCapacity process.id rest

namespace Dispatch

/-- `dispatch`. -/
def new (playId playToken : String) (forceProcessId : Option String) : Dispatch :=
  match forceProcessId with
  | none | some "" => ⟨playId, playToken, .findProcesses⟩
  | some processId => ⟨playId, playToken, .getForceProcess processId⟩

def next (shuffleProcessCount : Nat) (redis : DispatchingRedis) (d : Dispatch)
    (answer : Answer) : Option (DispatchingRedis × Dispatch) :=
  match d.phase, answer with
  | .findProcesses, .done =>
    some (redis, { d with phase := .findCapacities (redis.findProcesses d.playId) })
  | .findCapacities processes, .done =>
    some (redis, { d with
      phase := .getAliveProcesses (orderedProcesses processes redis.findCapacities) })
  | .getAliveProcesses ordered, .alive processes =>
    some (redis, { d with
      phase := .getExcludeProcesses (pickAliveProcesses ordered processes) })
  | .getExcludeProcesses alive, .excluded processIds random =>
    some (redis, { d with
      phase := assignProcessWithCandidates (shuffledCandidates shuffleProcessCount random
        (removeExcludeProcesses alive processIds)) })
  | .getForceProcess processId, .alive processes =>
    some (redis, { d with
      phase := assignProcessWithCandidates
        (processes.find? fun alive => alive.id = processId).toList })
  | .increaseCapacity processId rest, .done =>
    let redis := redis.increaseCapacity processId (-1)
    if redis.capacity processId < 0 then
      some (redis, { d with phase := .resetCapacity processId rest })
    else some (redis, { d with phase := .increaseClient processId rest })
  | .resetCapacity processId rest, .done =>
    some (redis.increaseCapacity processId 1, { d with
      phase := assignProcessWithCandidates rest })
  | .increaseClient processId rest, .done =>
    let redis := redis.increaseClient processId d.playId 1
    some ({ redis with increased := processId :: redis.increased }, { d with
      phase := .reserveEndpoint processId rest })
  | .increaseClient processId rest, .failed =>
    some ({ redis with unrecorded := processId :: redis.unrecorded }, { d with
      phase := assignProcessWithCandidates rest })
  | .increaseCapacity _ rest, .failed | .resetCapacity _ rest, .failed =>
    some (redis, { d with phase := assignProcessWithCandidates rest })
  | .reserveEndpoint processId _, .reserved =>
    some (redis, { d with phase := .assigned processId })
  | .reserveEndpoint _ rest, .unanswered | .reserveEndpoint _ rest, .failed =>
    some (redis, { d with phase := assignProcessWithCandidates rest })
  | .findProcesses, .failed | .findCapacities _, .failed | .getAliveProcesses _, .failed
  | .getExcludeProcesses _, .failed | .getForceProcess _, .failed =>
    some (redis, { d with phase := .rejected })
  | _, _ => none

end Dispatch

/-- The phase is one in which no capacity has been taken. -/
def Phase.Unheld : Phase → Prop
  | .resetCapacity _ _ | .increaseClient _ _ | .reserveEndpoint _ _ => False
  | _ => True

theorem unheld_assignProcessWithCandidates (candidates : List Process) :
    (assignProcessWithCandidates candidates).Unheld := by
  induction candidates with
  | nil => trivial
  | cons process rest ih =>
    unfold assignProcessWithCandidates
    split
    · exact ih
    · exact ih
    · trivial

namespace Dispatch

/-- A step of a dispatch in a phase: the answer, and what it leaves. -/
inductive Move (redis : DispatchingRedis) (playId : String) :
    Phase → Answer → DispatchingRedis → Phase → Prop
  | unheld (phase phase' : Phase) (answer : Answer) (before : phase.Unheld)
      (after : phase'.Unheld) : Move redis playId phase answer redis phase'
  | decreases (processId : String) (rest : List Process)
      (room : 0 ≤ (redis.increaseCapacity processId (-1)).capacity processId) :
      Move redis playId (.increaseCapacity processId rest) .done
        (redis.increaseCapacity processId (-1)) (.increaseClient processId rest)
  | overdraws (processId : String) (rest : List Process)
      (full : (redis.increaseCapacity processId (-1)).capacity processId < 0) :
      Move redis playId (.increaseCapacity processId rest) .done
        (redis.increaseCapacity processId (-1)) (.resetCapacity processId rest)
  | resets (processId : String) (rest : List Process) (phase' : Phase) (after : phase'.Unheld) :
      Move redis playId (.resetCapacity processId rest) .done
        (redis.increaseCapacity processId 1) phase'
  | unreset (processId : String) (rest : List Process) (phase' : Phase) (after : phase'.Unheld) :
      Move redis playId (.resetCapacity processId rest) .failed redis phase'
  | counts (processId : String) (rest : List Process) :
      Move redis playId (.increaseClient processId rest) .done
        { redis.increaseClient processId playId 1 with
          increased := processId :: redis.increased } (.reserveEndpoint processId rest)
  | uncounted (processId : String) (rest : List Process) (phase' : Phase)
      (after : phase'.Unheld) :
      Move redis playId (.increaseClient processId rest) .failed
        { redis with unrecorded := processId :: redis.unrecorded } phase'
  | reserves (processId : String) (rest : List Process) :
      Move redis playId (.reserveEndpoint processId rest) .reserved redis (.assigned processId)
  | reservesUnanswered (processId : String) (rest : List Process) (phase' : Phase)
      (after : phase'.Unheld) :
      Move redis playId (.reserveEndpoint processId rest) .unanswered redis phase'
  | unreserved (processId : String) (rest : List Process) (phase' : Phase)
      (after : phase'.Unheld) :
      Move redis playId (.reserveEndpoint processId rest) .failed redis phase'

theorem next_move {shuffleProcessCount : Nat} {redis redis' : DispatchingRedis} {d d' : Dispatch}
    {answer : Answer} (moves : d.next shuffleProcessCount redis answer = some (redis', d')) :
    d' = { d with phase := d'.phase } ∧ Move redis d.playId d.phase answer redis' d'.phase := by
  obtain ⟨playId, playToken, phase⟩ := d
  have tried := unheld_assignProcessWithCandidates
  unfold next at moves
  split at moves <;> rename_i isPhase
  case h_6 processId rest =>
      subst isPhase
      dsimp only at moves
      split at moves
      · cases moves
        exact ⟨rfl, .overdraws processId rest ‹_›⟩
      · cases moves
        exact ⟨rfl, .decreases processId rest (Int.not_lt.mp ‹_›)⟩
  case h_20 => cases moves
  all_goals
    subst isPhase
    cases moves
    refine ⟨rfl, ?_⟩
  · exact .unheld _ _ _ trivial trivial
  · exact .unheld _ _ _ trivial trivial
  · exact .unheld _ _ _ trivial trivial
  · exact .unheld _ _ _ trivial (tried _)
  · exact .unheld _ _ _ trivial (tried _)
  · exact .resets _ _ _ (tried _)
  · exact .counts _ _
  · exact .uncounted _ _ _ (tried _)
  · exact .unheld _ _ _ trivial (tried _)
  · exact .unreset _ _ _ (tried _)
  · exact .reserves _ _
  · exact .reservesUnanswered _ _ _ (tried _)
  · exact .unreserved _ _ _ (tried _)
  all_goals exact .unheld _ _ _ trivial trivial

end Dispatch

/-- What a server does for an ended session and for an expired reservation. -/
inductive GiveBackPhase where
  | increaseCapacity
  | increaseClient
  | settled
deriving DecidableEq

structure GiveBack where
  processId : String
  playId : String
  phase : GiveBackPhase

namespace GiveBack

def new (processId playId : String) : GiveBack := ⟨processId, playId, .increaseCapacity⟩

def next (redis : DispatchingRedis) (g : GiveBack) (answer : Answer) :
    Option (DispatchingRedis × GiveBack) :=
  match g.phase, answer with
  | .increaseCapacity, .done =>
    let redis := redis.increaseCapacity g.processId 1
    some ({ redis with givenBack := g.processId :: redis.givenBack }, { g with
      phase := .increaseClient })
  | .increaseClient, .done =>
    some (redis.increaseClient g.processId g.playId (-1), { g with phase := .settled })
  | .increaseCapacity, .failed | .increaseClient, .failed =>
    some (redis, { g with phase := .settled })
  | _, _ => none

end GiveBack

inductive Task where
  | dispatch (d : Dispatch)
  | giveBack (g : GiveBack)

namespace Task

def asDispatch : Task → Option Dispatch
  | .dispatch d => some d
  | .giveBack _ => none

theorem mem_asDispatch (task : Task) (d : Dispatch) : d ∈ task.asDispatch ↔ task = .dispatch d := by
  cases task with
  | dispatch d' | giveBack g => simp [asDispatch]

def next (shuffleProcessCount : Nat) (redis : DispatchingRedis) :
    Task → Answer → Option (DispatchingRedis × Task)
  | .dispatch d, answer =>
    (d.next shuffleProcessCount redis answer).map fun moved => (moved.1, .dispatch moved.2)
  | .giveBack g, answer => (g.next redis answer).map fun moved => (moved.1, .giveBack moved.2)

def Begins : Task → Prop
  | .dispatch d => d.phase.begins = true
  | .giveBack g => g.phase = .increaseCapacity

def Finished : Task → Prop
  | .dispatch d => d.phase.finished = true
  | .giveBack g => g.phase = .settled

def AtCapacity : Task → Prop
  | .dispatch d => d.phase.atCapacity = true
  | .giveBack g => g.phase = .increaseCapacity

def CapacitySucceeds (task : Task) (answer : Answer) : Prop := task.AtCapacity → answer ≠ .failed

instance : DecidablePred Begins
  | .dispatch d => inferInstanceAs (Decidable (d.phase.begins = true))
  | .giveBack g => inferInstanceAs (Decidable (g.phase = .increaseCapacity))

instance : DecidablePred Finished
  | .dispatch d => inferInstanceAs (Decidable (d.phase.finished = true))
  | .giveBack g => inferInstanceAs (Decidable (g.phase = .settled))

instance : DecidablePred AtCapacity
  | .dispatch d => inferInstanceAs (Decidable (d.phase.atCapacity = true))
  | .giveBack g => inferInstanceAs (Decidable (g.phase = .increaseCapacity))

instance (task : Task) (answer : Answer) : Decidable (task.CapacitySucceeds answer) :=
  inferInstanceAs (Decidable (task.AtCapacity → ¬ answer = .failed))

end Task
end AkashicSystem.Dispatching
