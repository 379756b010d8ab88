import AkashicSystem.Dispatching.Dispatcher

/-!
# A process is not assigned more clients than it has room for

Every decrement of a capacity is undone, or counted: as a client, or as one that
could not be recorded.  Together with what the tasks still hold, the capacity is
what it was and what has been given back.
-/

set_option autoImplicit false

namespace AkashicSystem.Dispatching

def Phase.overdraft (p : String) : Phase → Int
  | .resetCapacity processId _ => if processId = p then 1 else 0
  | _ => 0

def Phase.counting (p : String) : Phase → Int
  | .increaseClient processId _ => if processId = p then 1 else 0
  | _ => 0

namespace Task

def overdraft (p : String) : Task → Int
  | .dispatch d => d.phase.overdraft p
  | .giveBack _ => 0

def counting (p : String) : Task → Int
  | .dispatch d => d.phase.counting p
  | .giveBack _ => 0

theorem overdraft_nonneg (p : String) (task : Task) : 0 ≤ task.overdraft p := by
  cases task with
  | giveBack g => exact Int.le_refl 0
  | dispatch d =>
    rw [overdraft]
    unfold Phase.overdraft
    split
    · split_ifs <;> decide
    · exact Int.le_refl 0

theorem counting_nonneg (p : String) (task : Task) : 0 ≤ task.counting p := by
  cases task with
  | giveBack g => exact Int.le_refl 0
  | dispatch d =>
    rw [counting]
    unfold Phase.counting
    split
    · split_ifs <;> decide
    · exact Int.le_refl 0

end Task

variable {phase : Phase} {answer : Answer}

theorem Phase.Unheld.holds (unheld : phase.Unheld) (p : String) :
    phase.overdraft p = 0 ∧ phase.counting p = 0 := by
  cases phase with
  | resetCapacity processId rest | increaseClient processId rest => cases unheld
  | _ => exact ⟨rfl, rfl⟩

theorem Phase.unheld_of_finished (finished : phase.finished = true) : phase.Unheld := by
  cases phase <;> trivial

theorem Phase.unheld_of_begins (begins : phase.begins = true) : phase.Unheld := by
  cases phase <;> trivial

theorem Task.held_of_finished (p : String) (task : Task) (finished : task.Finished) :
    task.overdraft p = 0 ∧ task.counting p = 0 := by
  cases task with
  | giveBack g => exact ⟨rfl, rfl⟩
  | dispatch d => exact (Phase.unheld_of_finished finished).holds p

theorem Task.held_of_begins (p : String) (task : Task) (begins : task.Begins) :
    task.overdraft p = 0 ∧ task.counting p = 0 := by
  cases task with
  | giveBack g => exact ⟨rfl, rfl⟩
  | dispatch d => exact (Phase.unheld_of_begins begins).holds p

variable (redis : DispatchingRedis)

def DispatchingRedis.balance (p : String) : Int :=
  redis.capacity p + redis.increased.count p + redis.unrecorded.count p - redis.givenBack.count p

def DispatchingRedis.taken (p : String) : Int :=
  redis.increased.count p + redis.unrecorded.count p

theorem count_cons_int (p q : String) (list : List String) :
    ((q :: list).count p : Int) = list.count p + if q = p then 1 else 0 := by
  by_cases same : q = p <;> simp [same]

namespace DispatchingRedis

theorem balance_eq (p : String) :
    redis.balance p = redis.capacity p + redis.taken p - redis.givenBack.count p := by
  simp only [balance, taken]
  omega

variable (redis : DispatchingRedis) (p : String)

theorem balance_increaseCapacity (processId : String) (increment : Int) :
    (redis.increaseCapacity processId increment).balance p =
      redis.balance p + if processId = p then increment else 0 := by
  have capacity := redis.capacity_increaseCapacity processId increment p
  simp only [balance, capacity]
  change _ + (redis.increased.count p : Int) + redis.unrecorded.count p -
    redis.givenBack.count p = _
  omega

theorem balance_counted (processId playId : String) : { redis.increaseClient processId playId 1 with
      increased := processId :: redis.increased }.balance p =
        redis.balance p + if processId = p then 1 else 0 := by
  change redis.capacity p + ((processId :: redis.increased).count p : Int) +
    redis.unrecorded.count p - redis.givenBack.count p = _
  rw [count_cons_int, balance]
  omega

theorem balance_uncounted (processId : String) :
    { redis with unrecorded := processId :: redis.unrecorded }.balance p =
      redis.balance p + if processId = p then 1 else 0 := by
  change redis.capacity p + (redis.increased.count p : Int) +
    (processId :: redis.unrecorded).count p - redis.givenBack.count p = _
  rw [count_cons_int, balance]
  omega

theorem balance_givenBack (processId : String) :
    { redis with givenBack := processId :: redis.givenBack }.balance p =
      redis.balance p - if processId = p then 1 else 0 := by
  change redis.capacity p + (redis.increased.count p : Int) +
    redis.unrecorded.count p - (processId :: redis.givenBack).count p = _
  rw [count_cons_int, balance]
  omega

theorem taken_counted (processId playId : String) : { redis.increaseClient processId playId 1 with
      increased := processId :: redis.increased }.taken p =
        redis.taken p + if processId = p then 1 else 0 := by
  change ((processId :: redis.increased).count p : Int) + redis.unrecorded.count p = _
  rw [count_cons_int, taken]
  omega

theorem taken_uncounted (processId : String) :
    { redis with unrecorded := processId :: redis.unrecorded }.taken p =
      redis.taken p + if processId = p then 1 else 0 := by
  change (redis.increased.count p : Int) + ((processId :: redis.unrecorded).count p : Nat) = _
  rw [count_cons_int, taken]
  omega

end DispatchingRedis

/-- What a step leaves of a process: the balance, with what the task holds, and no
more taken than there was room for. -/
structure Kept (p : String) (redis redis' : DispatchingRedis) (task task' : Task) : Prop where
  balance : redis'.balance p + task'.overdraft p + task'.counting p =
    redis.balance p + task.overdraft p + task.counting p
  givenBack : redis.givenBack.count p ≤ redis'.givenBack.count p
  taken : redis'.taken p + task'.counting p = redis.taken p + task.counting p ∨
    redis'.taken p + task'.counting p = redis.taken p + task.counting p + 1 ∧
      0 ≤ redis'.capacity p

variable {shuffleProcessCount : Nat} {redis redis' : DispatchingRedis}

theorem Dispatch.Move.kept (p playToken : String) {playId : String} {phase' : Phase}
    (move : Move redis playId phase answer redis' phase')
    (succeeds : (Task.dispatch ⟨playId, playToken, phase⟩).CapacitySucceeds answer) :
    Kept p redis redis' (.dispatch ⟨playId, playToken, phase⟩)
      (.dispatch ⟨playId, playToken, phase'⟩) := by
  cases move with
  | unheld phase phase' answer before after =>
    obtain ⟨overdraft, counting⟩ := before.holds p
    obtain ⟨overdraft', counting'⟩ := after.holds p
    refine ⟨?_, Nat.le_refl _, .inl ?_⟩
    · simp only [Task.overdraft, Task.counting, overdraft, counting, overdraft', counting']
    · simp only [Task.counting, counting, counting']
  | decreases processId rest room =>
    refine ⟨?_, Nat.le_refl _, ?_⟩
    · rw [redis.balance_increaseCapacity]
      simp only [Task.overdraft, Task.counting, Phase.overdraft, Phase.counting]
      split_ifs <;> omega
    · change redis.taken p + (if processId = p then 1 else 0) = redis.taken p + 0 ∨
        redis.taken p + (if processId = p then 1 else 0) = redis.taken p + 0 + 1 ∧ _
      split_ifs with same
      · subst same
        exact .inr ⟨by omega, room⟩
      · exact .inl rfl
  | overdraws processId rest full =>
    refine ⟨?_, Nat.le_refl _, .inl rfl⟩
    rw [redis.balance_increaseCapacity]
    simp only [Task.overdraft, Task.counting, Phase.overdraft, Phase.counting]
    split_ifs <;> omega
  | resets processId rest phase' after =>
    obtain ⟨overdraft', counting'⟩ := after.holds p
    refine ⟨?_, Nat.le_refl _, .inl ?_⟩
    · rw [redis.balance_increaseCapacity]
      simp only [Task.overdraft, Task.counting, overdraft', counting']
      simp only [Phase.overdraft, Phase.counting]
      omega
    · simp only [Task.counting, counting']
      rfl
  | unreset processId rest phase' after =>
    exact absurd rfl (succeeds rfl)
  | counts processId rest =>
    refine ⟨?_, Nat.le_refl _, .inl ?_⟩
    · rw [redis.balance_counted]
      simp only [Task.overdraft, Task.counting, Phase.overdraft, Phase.counting]
      omega
    · rw [redis.taken_counted]
      simp only [Task.counting, Phase.counting]
      omega
  | uncounted processId rest phase' after =>
    obtain ⟨overdraft', counting'⟩ := after.holds p
    refine ⟨?_, Nat.le_refl _, .inl ?_⟩
    · rw [redis.balance_uncounted]
      simp only [Task.overdraft, Task.counting, overdraft', counting']
      simp only [Phase.overdraft, Phase.counting]
      omega
    · rw [redis.taken_uncounted]
      simp only [Task.counting, counting']
      simp only [Phase.counting]
      omega
  | reserves processId rest => exact ⟨rfl, Nat.le_refl _, .inl rfl⟩
  | reservesUnanswered processId rest phase' after | unreserved processId rest phase' after =>
    obtain ⟨overdraft', counting'⟩ := after.holds p
    refine ⟨?_, Nat.le_refl _, .inl ?_⟩
    · simp only [Task.overdraft, Task.counting, overdraft', counting']
      rfl
    · simp only [Task.counting, counting']
      rfl

variable (p : String)

theorem GiveBack.next_kept {g g' : GiveBack}
    (moves : g.next redis answer = some (redis', g'))
    (succeeds : (Task.giveBack g).CapacitySucceeds answer) :
    Kept p redis redis' (.giveBack g) (.giveBack g') := by
  obtain ⟨processId, playId, phase⟩ := g
  unfold next at moves
  split at moves
  · cases moves
    refine ⟨?_, ?_, .inl rfl⟩
    · have balance := (redis.increaseCapacity processId 1).balance_givenBack p processId
      rw [redis.balance_increaseCapacity] at balance
      simp only [Task.overdraft, Task.counting]
      omega
    · exact List.count_le_count_cons
  · cases moves
    exact ⟨rfl, Nat.le_refl _, .inl rfl⟩
  · rename_i isPhase
    exact absurd rfl (succeeds isPhase)
  · cases moves
    exact ⟨rfl, Nat.le_refl _, .inl rfl⟩
  · cases moves

theorem Task.next_kept (p : String) {task task' : Task}
    (moves : task.next shuffleProcessCount redis answer = some (redis', task'))
    (succeeds : task.CapacitySucceeds answer) : Kept p redis redis' task task' := by
  cases task with
  | dispatch d =>
    obtain ⟨⟨_, d'⟩, ran, eq⟩ := Option.map_eq_some_iff.mp moves
    cases eq
    obtain ⟨same, move⟩ := Dispatch.next_move ran
    have kept := move.kept p d.playToken succeeds
    rw [same]
    exact kept
  | giveBack g =>
    obtain ⟨⟨_, g'⟩, ran, eq⟩ := Option.map_eq_some_iff.mp moves
    cases eq
    exact GiveBack.next_kept p ran succeeds

def Task.Uncounted (task : Task) (answer : Answer) : Prop :=
  ∃ d rest, task = .dispatch d ∧ d.phase = .increaseClient p rest ∧ answer = .failed

theorem Task.next_unrecorded {task task' : Task}
    (moves : task.next shuffleProcessCount redis answer = some (redis', task')) :
    (task.Uncounted p answer ∧ redis'.unrecorded.count p = redis.unrecorded.count p + 1) ∨
      (¬ task.Uncounted p answer ∧ redis'.unrecorded.count p = redis.unrecorded.count p) := by
  cases task with
  | giveBack g =>
    right
    constructor
    · rintro ⟨d, rest, isTask, _⟩
      cases isTask
    · obtain ⟨⟨_, g'⟩, ran, eq⟩ := Option.map_eq_some_iff.mp moves
      cases eq
      unfold GiveBack.next at ran
      split at ran <;> cases ran <;> rfl
  | dispatch d =>
    obtain ⟨⟨_, d'⟩, ran, eq⟩ := Option.map_eq_some_iff.mp moves
    cases eq
    obtain ⟨_, move⟩ := Dispatch.next_move ran
    have other (unlike : ∀ rest, d.phase = .increaseClient p rest → answer ≠ .failed) :
        ¬ (Task.dispatch d).Uncounted p answer := by
      rintro ⟨d', rest, isTask, phase, failed⟩
      cases isTask
      exact unlike rest phase failed
    generalize isPhase : d.phase = phase, d'.phase = phase' at move
    cases move with
    | uncounted processId rest phase' after =>
      by_cases same : processId = p
      · subst same
        exact .inl ⟨⟨d, rest, rfl, isPhase, rfl⟩, List.count_cons_self⟩
      · right
        refine ⟨other fun rest' isPhase' => ?_, List.count_cons_of_ne same⟩
        cases isPhase.symm.trans isPhase'
        exact absurd rfl same
    | unheld phase phase' answer before after =>
      refine .inr ⟨other fun rest' isPhase' => ?_, rfl⟩
      rw [isPhase.symm.trans isPhase'] at before
      cases before
    | _ =>
      refine .inr ⟨other fun rest' isPhase' => ?_, rfl⟩
      cases isPhase.symm.trans isPhase'
      all_goals nofun

abbrev Dispatches := Pool DispatchingRedis Task

namespace Dispatches

def CapacityCommandsSucceed (w : Dispatches) : Pool.Action Task Answer → Prop
  | .start task => task.Begins
  | .step index answer => ∀ task, w.threads[index]? = some task → task.CapacitySucceeds answer

def ClientCounted (w : Dispatches) : Pool.Action Task Answer → Prop
  | .start _ => True
  | .step index answer => ∀ d rest, w.threads[index]? = some (.dispatch d) →
      d.phase = .increaseClient p rest → answer ≠ .failed

instance (w : Dispatches) (action : Pool.Action Task Answer) :
    Decidable (w.CapacityCommandsSucceed action) :=
  match action with
  | .start task => inferInstanceAs (Decidable task.Begins)
  | .step index answer =>
    inferInstanceAs (Decidable (∀ task ∈ w.threads[index]?, task.CapacitySucceeds answer))

def Finished (w : Dispatches) : Prop := ∀ task ∈ w.threads, task.Finished

instance (w : Dispatches) : Decidable w.Finished :=
  inferInstanceAs (Decidable (∀ task ∈ w.threads, task.Finished))

def new (capacities : SortedSet) (clients : String → SortedSet) : Dispatches :=
  ⟨⟨capacities, clients, [], [], []⟩, []⟩

def step (shuffleProcessCount : Nat) (w : Dispatches) (action : Pool.Action Task Answer) :
    Dispatches :=
  Pool.step (Task.next shuffleProcessCount) w action

structure Inv (p : String) (k : Int) (w : Dispatches) : Prop where
  balance : w.state.balance p + Pool.total (Task.overdraft p) w.threads +
    Pool.total (Task.counting p) w.threads = k
  taken : w.state.taken p + Pool.total (Task.counting p) w.threads ≤
    max (k + w.state.givenBack.count p) 0

theorem inv_new (capacities : SortedSet) (clients : String → SortedSet) :
    Inv p (capacities.score p) (new capacities clients) := by
  constructor
  · simp [new, DispatchingRedis.balance, DispatchingRedis.capacity]
  · simp only [new, DispatchingRedis.taken, List.count_nil, Pool.total_nil]
    omega

theorem inv_step (k : Int) (w : Dispatches) (action : Pool.Action Task Answer)
    (inv : Inv p k w) (succeed : w.CapacityCommandsSucceed action) :
    Inv p k (w.step shuffleProcessCount action) := by
  obtain ⟨balance, taken⟩ := inv
  cases action with
  | start task =>
    obtain ⟨overdraft, counting⟩ := task.held_of_begins p succeed
    constructor
    · simp only [step, Pool.step, Pool.total_append, overdraft, counting]
      omega
    · simp only [step, Pool.step, Pool.total_append, counting]
      omega
  | step index answer =>
    rcases Pool.step_cases (Task.next shuffleProcessCount) w index answer with
      same | ⟨task, redis', task', here, moves, eq⟩
    · rw [step, same]
      exact ⟨balance, taken⟩
    · have kept := task.next_kept p moves (succeed task here)
      have overdraft := Pool.total_set (Task.overdraft p) w.threads index task task' here
      have counting := Pool.total_set (Task.counting p) w.threads index task task' here
      have moved := kept.balance
      have back := kept.givenBack
      rw [step, eq]
      constructor
      · simp only [overdraft, counting]
        omega
      · have held : 0 ≤ Pool.total (Task.overdraft p) (w.threads.set index task') :=
          Pool.total_nonneg _ _ fun task _ => task.overdraft_nonneg p
        have now := redis'.balance_eq p
        simp only [counting]
        rcases kept.taken with same | ⟨one, room⟩ <;> omega

theorem unrecorded_step (shuffleProcessCount : Nat) (p : String) (w : Dispatches)
    (action : Pool.Action Task Answer) :
    (w.ClientCounted p action ∧ (w.step shuffleProcessCount action).state.unrecorded.count p =
        w.state.unrecorded.count p) ∨
      (¬ w.ClientCounted p action ∧ (w.step shuffleProcessCount action).state.unrecorded.count p =
        w.state.unrecorded.count p + 1) := by
  cases action with
  | start task => exact .inl ⟨trivial, rfl⟩
  | step index answer =>
    cases here : w.threads[index]? with
    | none =>
      left
      simp [ClientCounted, step, Pool.step, here]
    | some task =>
      cases moves : task.next shuffleProcessCount w.state answer with
      | none =>
        left
        refine ⟨fun d rest there phase failed => ?_, by simp [step, Pool.step, here, moves]⟩
        cases here.symm.trans there
        subst failed
        simp [Task.next, Dispatch.next, phase] at moves
      | some moved =>
        have state : (w.step shuffleProcessCount (.step index answer)).state = moved.1 := by
          simp [step, Pool.step, here, moves]
        rw [state]
        rcases task.next_unrecorded p moves with
          ⟨⟨d, rest, isTask, phase, failed⟩, more⟩ | ⟨counted, same⟩
        · right
          subst isTask
          exact ⟨fun counted => counted d rest here phase failed, more⟩
        · left
          refine ⟨fun d rest there phase failed => ?_, same⟩
          cases here.symm.trans there
          exact counted ⟨d, rest, rfl, phase, failed⟩

theorem clientCounted_iff (w : Dispatches) (actions : List (Pool.Action Task Answer)) :
    Run.Allowed (step shuffleProcessCount) (ClientCounted p) w actions ↔
      (Run.final (step shuffleProcessCount) w actions).state.unrecorded.count p =
        w.state.unrecorded.count p := by
  refine @Run.allowed_iff_unchanged _ _ _ _ (fun w => w.state.unrecorded.count p)
    (fun w action => ?_) (fun w action => ?_) w actions
  · rcases unrecorded_step shuffleProcessCount p w action with
      ⟨_, same⟩ | ⟨_, more⟩ <;> omega
  · rcases unrecorded_step shuffleProcessCount p w action with
      ⟨counted, same⟩ | ⟨uncounted, more⟩
    · exact ⟨fun _ => same, fun _ => counted⟩
    · exact ⟨fun counted => absurd counted uncounted, fun same => by omega⟩

/-- No more dispatches are counted at a process than it has room for and gets back, and
its capacity in the end is what the counted ones leave exactly if none failed to be counted. -/
theorem increased_within_capacity (shuffleProcessCount : Nat) (p : String)
    (capacities : SortedSet) (clients : String → SortedSet)
    (actions : List (Pool.Action Task Answer))
    (succeed : Run.Allowed (step shuffleProcessCount) CapacityCommandsSucceed
      (new capacities clients) actions) :
    let w := Run.final (step shuffleProcessCount) (new capacities clients) actions
    (w.state.increased.count p : Int) ≤ max (capacities.score p + w.state.givenBack.count p) 0 ∧
      (w.Finished → (w.state.capacity p =
            capacities.score p + w.state.givenBack.count p - w.state.increased.count p ↔
          Run.Allowed (step shuffleProcessCount) (ClientCounted p)
            (new capacities clients) actions)) := by
  intro w
  obtain ⟨balance, taken⟩ : Inv p (capacities.score p) w :=
    Run.invariant (inv_step p _) _ actions (inv_new p capacities clients) succeed
  have counting : 0 ≤ Pool.total (Task.counting p) w.threads :=
    Pool.total_nonneg _ _ fun task _ => task.counting_nonneg p
  constructor
  · simp only [DispatchingRedis.taken] at taken
    omega
  · intro finished
    have overdraft := Pool.total_eq_zero (Task.overdraft p) w.threads fun task there =>
      (task.held_of_finished p (finished task there)).1
    have counting := Pool.total_eq_zero (Task.counting p) w.threads fun task there =>
      (task.held_of_finished p (finished task there)).2
    rw [clientCounted_iff]
    have fresh : (new capacities clients).state.unrecorded.count p = 0 := rfl
    simp only [DispatchingRedis.balance] at balance
    change _ ↔ w.state.unrecorded.count p = _
    omega

def rivals : List (Pool.Action Task Answer) :=
  [.start (.dispatch (.new "play" "a" none)), .start (.dispatch (.new "play" "b" none)),
    .step 0 .done, .step 1 .done, .step 0 .done, .step 1 .done,
    .step 0 (.alive [⟨"p", some "endpoint"⟩]), .step 1 (.alive [⟨"p", some "endpoint"⟩]),
    .step 0 (.excluded [] id), .step 1 (.excluded [] id),
    .step 1 .done, .step 0 .done, .step 0 .done, .step 1 .done, .step 1 .reserved]

theorem increased_within_capacity_rivals :
    let w := Run.final (step 5) (new [("p", 1)] fun _ => []) rivals
    (w.state.increased.count "p" : Int) ≤
        max (SortedSet.score [("p", 1)] "p" + w.state.givenBack.count "p") 0 ∧
      (w.state.capacity "p" = SortedSet.score [("p", 1)] "p" + w.state.givenBack.count "p" -
          w.state.increased.count "p" ↔
        Run.Allowed (step 5) (ClientCounted "p") (new [("p", 1)] fun _ => []) rivals) := by
  have within := increased_within_capacity 5 "p" [("p", 1)] (fun _ => []) rivals
    (by decide +kernel)
  exact ⟨within.1, within.2 (by decide +kernel)⟩

/-- The only dispatch takes the capacity, and its client is not counted. -/
def uncounted : List (Pool.Action Task Answer) :=
  [.start (.dispatch (.new "play" "a" (some "p"))), .step 0 (.alive [⟨"p", some "endpoint"⟩]),
    .step 0 .done, .step 0 .failed]

/-- The capacity is not given back. -/
theorem uncounted_lost : ¬ ∀ (shuffleProcessCount : Nat) (p : String) (capacities : SortedSet)
      (clients : String → SortedSet) (actions : List (Pool.Action Task Answer)),
      Run.Allowed (step shuffleProcessCount) CapacityCommandsSucceed (new capacities clients)
        actions →
      let w := Run.final (step shuffleProcessCount) (new capacities clients) actions
      (w.state.increased.count p : Int) ≤ max (capacities.score p + w.state.givenBack.count p) 0 ∧
        (w.Finished → w.state.capacity p =
          capacities.score p + w.state.givenBack.count p - w.state.increased.count p) := by
  intro claimed
  obtain ⟨_, left⟩ := claimed 5 "p" [("p", 1)] (fun _ => []) uncounted (by decide +kernel)
  have equal := left (by decide +kernel)
  revert equal
  decide +kernel

end Dispatches

end AkashicSystem.Dispatching
