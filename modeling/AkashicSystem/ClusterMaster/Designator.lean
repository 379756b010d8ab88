import AkashicSystem.ClusterMaster.InstanceAssignmentRepository

/-!
# The assignment of an instance

The candidates are tried one after the other: the process is asked to run the instance, the
requirement is counted and the record saved.  Where one of the calls fails, the process is
asked to give the instance up, which is not waited for, and the next candidate is tried.
-/

set_option autoImplicit false

namespace AkashicSystem.ClusterMaster

open List
open InstanceAssignmentRepository.Calls (current_save runner status_setStatus status_write)

structure TaskAssignmentTarget where
  targetIdentity : ClusterIdentity
  targetPort : Int
  cost : Int

abbrev Address := String × Int

def TaskAssignmentTarget.address (target : TaskAssignmentTarget) : Address :=
  (target.targetIdentity.fqdn, target.targetPort)

structure Replies where
  /-- The argument is made, of which the parents of the play are looked up. -/
  prepared : Bool
  assign : InstanceAssignmentRepository.Reply
  sum : InstanceAssignmentRepository.Reply
  insert : InstanceAssignmentRepository.Reply
  select : InstanceAssignmentRepository.Reply
  /-- The instance is given up only after all candidates have been tried. -/
  late : Bool

/-- The master's repository, the instances that run, and the calls that are not waited for. -/
structure Assignments where
  repository : InstanceAssignmentRepository
  running : List (Address × String)
  pending : List (Address × String)

namespace InstanceAssignmentRepository

def insert (r : InstanceAssignmentRepository) (a : InstanceAssignment) (replies : Replies) :
    InstanceAssignmentRepository × Bool :=
  (if replies.insert.executed then r.write (.save a) else r,
    replies.insert = .done && replies.select = .done)

def save (r : InstanceAssignmentRepository) (a : InstanceAssignment) (replies : Replies) :
    InstanceAssignmentRepository × Bool :=
  match r.status a.targetIdentity with
  | some current =>
    (r.setStatus a.targetIdentity (some (current + a.requirement))).insert a replies
  | none =>
    if replies.sum = .done then
      let current := r.getCurrentAssignment a.targetIdentity
      (r.setStatus a.targetIdentity (some (current + a.requirement))).insert a replies
    else (r, false)

end InstanceAssignmentRepository

namespace Assignments

variable (instanceId : String)

variable (w : Assignments)

variable (target : TaskAssignmentTarget)

variable (replies : Replies)

def started :
    List (Address × String) :=
  if replies.assign.executed then w.running.insert (target.address, instanceId) else w.running

/-- `assignInstance`, with its `catch`. -/
def assignInstance :
    Assignments × Bool :=
  if replies.prepared then
    let running := w.started instanceId target replies
    if replies.assign = .done then
      let saved := w.repository.save ⟨target.targetIdentity, instanceId, target.cost⟩ replies
      ({ w with repository := saved.1, running }, saved.2)
    else ({ w with running }, false)
  else (w, false)

def unassign (call : Address × String) : Assignments :=
  { w with running := w.running.filter fun running => running ≠ call }

def assign :
    Assignments × Bool :=
  let assigned := w.assignInstance instanceId target replies
  if assigned.2 then assigned
  else if replies.late then
    ({ assigned.1 with pending := assigned.1.pending ++ [(target.address, instanceId)] }, false)
  else (assigned.1.unassign (target.address, instanceId), false)

def assignTask (w : Assignments) :
    List (TaskAssignmentTarget × Replies) → Assignments × Option TaskAssignmentTarget
  | [] => (w, none)
  | (target, replies) :: rest =>
    let assigned := w.assign instanceId target replies
    if assigned.2 then (assigned.1, some target) else assigned.1.assignTask rest

def settle : Assignments := w.pending.foldl unassign w

def records (identity : ClusterIdentity) : List StoredAssignment :=
  w.repository.database.filter fun stored =>
    stored.targetIdentity = identity ∧ stored.instanceId = instanceId

/-- Nothing is booked for a process but what was, or else what was stored. -/
def Unbooked (w w' : Assignments) : Prop :=
  ∀ identity, ∀ assigned ∈ w'.repository.status identity,
    assigned = (w.repository.status identity).getD (w.repository.getCurrentAssignment identity)

/-- With a target, it runs the instance and has a record of it, and no other process comes to;
without one, no process does, and nothing is booked. -/
def AllOrNothing (attempts : List (TaskAssignmentTarget × Replies)) : Prop :=
  let after := w.assignTask instanceId attempts
  let settled := after.1.settle
  match after.2 with
  | some target =>
    (target.address, instanceId) ∈ settled.running ∧
      (∃ stored ∈ settled.repository.database,
        stored.targetIdentity = target.targetIdentity ∧ stored.instanceId = instanceId) ∧
      (∀ address, address ≠ target.address → (address, instanceId) ∈ settled.running →
        (address, instanceId) ∈ w.running) ∧
      ∀ identity, identity ≠ target.targetIdentity →
        settled.records instanceId identity = w.records instanceId identity
  | none =>
    (∀ attempt ∈ attempts, (attempt.1.address, instanceId) ∉ settled.running) ∧
      (∀ address, (address, instanceId) ∈ settled.running →
        (address, instanceId) ∈ w.running) ∧
      (∀ identity, settled.records instanceId identity = w.records instanceId identity) ∧
      w.Unbooked settled

def Counts : Prop :=
  replies.prepared = true ∧ replies.assign = .done ∧
    (w.repository.status target.targetIdentity ≠ none ∨ replies.sum = .done)

instance (w : Assignments) (target : TaskAssignmentTarget) (replies : Replies) :
    Decidable (w.Counts target replies) :=
  inferInstanceAs (Decidable (_ ∧ _ ∧ (_ ∨ _)))

structure Failure where
  target : TaskAssignmentTarget
  booked : Int
  inserted : Bool
  late : Bool

def failure : Failure :=
  { target
    booked := if w.Counts target replies then target.cost else 0
    inserted := decide (w.Counts target replies) && replies.insert.executed
    late := replies.late }

def failures (w : Assignments) : List (TaskAssignmentTarget × Replies) → List Failure
  | [] => []
  | (target, replies) :: rest =>
    let assigned := w.assign instanceId target replies
    if assigned.2 then [] else w.failure target replies :: assigned.1.failures rest

def booked (failures : List Failure) (identity : ClusterIdentity) : Int :=
  ((failures.filter fun failure => failure.target.targetIdentity = identity).map
    Failure.booked).sum

/-- No failure leaves a record of another process or gives up what the target runs; without a
target, none leaves a record, and nothing stays booked. -/
def Harmless (failures : List Failure) : Option TaskAssignmentTarget → Prop
  | some target => ∀ failure ∈ failures,
      (failure.inserted = true → failure.target.targetIdentity = target.targetIdentity) ∧
        (failure.target.address = target.address → failure.late = false)
  | none => (∀ failure ∈ failures, failure.inserted = false) ∧
      ∀ identity, booked failures identity = 0

def known (identity : ClusterIdentity) : Int :=
  (w.repository.status identity).getD (w.repository.getCurrentAssignment identity)

structure Left (w w' : Assignments) (failures : List Failure) : Prop where
  records : ∀ identity, ∃ more,
    w'.records instanceId identity = w.records instanceId identity ++ more ∧
      (more = [] ↔ ∀ failure ∈ failures,
        failure.inserted = true → failure.target.targetIdentity ≠ identity)
  known : ∀ identity, w'.known identity = w.known identity + booked failures identity
  unknown : ∀ identity, w'.repository.status identity = none →
    w.repository.status identity = none ∧ booked failures identity = 0
  pending : ∀ address, (address, instanceId) ∈ w'.pending ↔ (address, instanceId) ∈ w.pending ∨
    ∃ failure ∈ failures, failure.late = true ∧ failure.target.address = address
  others : ∀ address, (∀ failure ∈ failures, failure.target.address ≠ address) →
    ((address, instanceId) ∈ w'.running ↔ (address, instanceId) ∈ w.running)
  tried : ∀ failure ∈ failures, (failure.target.address, instanceId) ∈ w'.pending ∨
    (failure.target.address, instanceId) ∉ w'.running

section Attempts

variable {instanceId} {w w' w'' : Assignments} {target : TaskAssignmentTarget}
  {replies : Replies}

theorem booked_nil (identity : ClusterIdentity) : booked [] identity = 0 := rfl

theorem booked_append (front back : List Failure) (identity : ClusterIdentity) :
    booked (front ++ back) identity = booked front identity + booked back identity := by
  simp [booked, filter_append]

theorem booked_singleton (failure : Failure) (identity : ClusterIdentity) :
    booked [failure] identity =
      if failure.target.targetIdentity = identity then failure.booked else 0 := by
  by_cases same : failure.target.targetIdentity = identity <;> simp [booked, same]

theorem left_refl (w : Assignments) : Left instanceId w w [] := by
  constructor
  · intro identity
    refine ⟨[], (append_nil _).symm, iff_of_true rfl ?_⟩
    exact fun failure there => (not_mem_nil there).elim
  · intro identity
    rw [booked_nil, Int.add_zero]
  · exact fun identity unknown => ⟨unknown, booked_nil identity⟩
  · intro address
    simp
  · exact fun address _ => Iff.rfl
  · exact fun failure there => (not_mem_nil there).elim

theorem left_trans {front back : List Failure} (first : Left instanceId w w' front)
    (second : Left instanceId w' w'' back) : Left instanceId w w'' (front ++ back) := by
  constructor
  · intro identity
    obtain ⟨more, grown, none'⟩ := first.records identity
    obtain ⟨more', grown', none''⟩ := second.records identity
    refine ⟨more ++ more', by rw [grown', grown, append_assoc], ?_⟩
    rw [append_eq_nil_iff, none', none'', forall_mem_append]
  · intro identity
    rw [second.known, first.known, booked_append, Int.add_assoc]
  · intro identity unknown
    obtain ⟨unknown', later⟩ := second.unknown identity unknown
    obtain ⟨unknown'', earlier⟩ := first.unknown identity unknown'
    exact ⟨unknown'', by rw [booked_append, earlier, later, Int.add_zero]⟩
  · intro address
    rw [second.pending, first.pending, or_assoc]
    simp only [mem_append, or_and_right, exists_or]
  · intro address apart
    rw [forall_mem_append] at apart
    rw [second.others address apart.2, first.others address apart.1]
  · intro failure there
    by_cases later : ∃ failure' ∈ back, failure'.target.address = failure.target.address
    · obtain ⟨failure', there', same⟩ := later
      rw [← same]
      exact second.tried failure' there'
    · have apart : ∀ failure' ∈ back, failure'.target.address ≠ failure.target.address :=
        fun failure' there' same => later ⟨failure', there', same⟩
      have before := first.tried failure ((mem_append.mp there).resolve_right fun inBack =>
        apart failure inBack rfl)
      rw [second.others _ apart]
      refine before.imp_left fun pending => ?_
      exact (second.pending _).mpr (.inl pending)

def record (instanceId : String) (target : TaskAssignmentTarget) : InstanceAssignment :=
  ⟨target.targetIdentity, instanceId, target.cost⟩

theorem save_counted {r : InstanceAssignmentRepository} {a : InstanceAssignment}
    (counts : r.status a.targetIdentity ≠ none ∨ replies.sum = .done) :
    r.save a replies = (r.setStatus a.targetIdentity (some
      ((r.status a.targetIdentity).getD (r.getCurrentAssignment a.targetIdentity) +
        a.requirement))).insert a replies := by
  unfold InstanceAssignmentRepository.save
  cases cached : r.status a.targetIdentity with
  | some current => rfl
  | none =>
    have summed : replies.sum = .done := counts.resolve_left fun ne => ne cached
    dsimp only
    rw [if_pos summed]
    rfl

theorem save_uncounted {r : InstanceAssignmentRepository} {a : InstanceAssignment}
    (uncounted : ¬(r.status a.targetIdentity ≠ none ∨ replies.sum = .done)) :
    r.save a replies = (r, false) := by
  obtain ⟨cached, failed⟩ := not_or.mp uncounted
  unfold InstanceAssignmentRepository.save
  rw [not_not.mp cached]
  dsimp only
  rw [if_neg failed]

def countedRepository (w : Assignments) (target : TaskAssignmentTarget) :
    InstanceAssignmentRepository :=
  w.repository.setStatus target.targetIdentity
    (some (w.known target.targetIdentity + target.cost))

theorem assignInstance_repository (instanceId : String) (w : Assignments)
    (target : TaskAssignmentTarget) (replies : Replies) :
    (w.assignInstance instanceId target replies).1.repository = (if w.Counts target replies then
          ((w.countedRepository target).insert (record instanceId target) replies).1
        else w.repository) ∧
      (w.assignInstance instanceId target replies).2 = (decide (w.Counts target replies) &&
        (replies.insert = .done && replies.select = .done)) := by
  unfold assignInstance
  by_cases prepared : replies.prepared = true
  · rw [if_pos prepared]
    by_cases assigned : replies.assign = .done
    · simp only [assigned, if_true]
      by_cases counts : w.repository.status target.targetIdentity ≠ none ∨ replies.sum = .done
      · have all : w.Counts target replies := ⟨prepared, assigned, counts⟩
        have saved := @save_counted replies w.repository (record instanceId target) counts
        rw [if_pos all, decide_eq_true all, Bool.true_and]
        exact ⟨congrArg Prod.fst saved, congrArg Prod.snd saved⟩
      · have some' : ¬w.Counts target replies := fun all => counts all.2.2
        have saved := @save_uncounted replies w.repository (record instanceId target) counts
        rw [if_neg some', decide_eq_false some', Bool.false_and]
        exact ⟨congrArg Prod.fst saved, congrArg Prod.snd saved⟩
    · have some' : ¬w.Counts target replies := fun all => assigned all.2.1
      simp [assigned, some']
  · have some' : ¬w.Counts target replies := fun all => prepared all.1
    simp [prepared, some']

theorem assign_repository (instanceId : String) (w : Assignments)
    (target : TaskAssignmentTarget) (replies : Replies) :
    (w.assign instanceId target replies).1.repository =
        (w.assignInstance instanceId target replies).1.repository ∧
      (w.assign instanceId target replies).2 = (w.assignInstance instanceId target replies).2 := by
  unfold assign
  dsimp only
  split_ifs with assigned late
  · exact ⟨rfl, rfl⟩
  · exact ⟨rfl, (Bool.not_eq_true _ ▸ assigned).symm⟩
  · exact ⟨rfl, (Bool.not_eq_true _ ▸ assigned).symm⟩

theorem mem_started (instanceId : String) (w : Assignments) (target : TaskAssignmentTarget)
    (replies : Replies) (address : Address) (other : address ≠ target.address) :
    (address, instanceId) ∈ w.started instanceId target replies ↔
      (address, instanceId) ∈ w.running := by
  unfold started
  split
  · rw [mem_insert_iff]
    exact or_iff_right fun same => other (congrArg Prod.fst same)
  · exact Iff.rfl

theorem assignInstance_running (instanceId : String) (w : Assignments)
    (target : TaskAssignmentTarget) (replies : Replies) :
    (w.assignInstance instanceId target replies).1.running =
        (if replies.prepared then w.started instanceId target replies else w.running) ∧
      (w.assignInstance instanceId target replies).1.pending = w.pending := by
  unfold assignInstance
  by_cases prepared : replies.prepared = true
  · rw [if_pos prepared, if_pos prepared]
    dsimp only
    split <;> exact ⟨rfl, rfl⟩
  · rw [if_neg prepared, if_neg prepared]
    exact ⟨rfl, rfl⟩

theorem mem_assignInstance_running (instanceId : String) (w : Assignments)
    (target : TaskAssignmentTarget) (replies : Replies) (address : Address)
    (other : address ≠ target.address) :
    (address, instanceId) ∈ (w.assignInstance instanceId target replies).1.running ↔
      (address, instanceId) ∈ w.running := by
  rw [(assignInstance_running instanceId w target replies).1]
  split
  · exact mem_started instanceId w target replies address other
  · exact Iff.rfl

theorem assign_failed (fails : (w.assign instanceId target replies).2 = false) :
    (w.assign instanceId target replies).1 =
      if replies.late then
        { (w.assignInstance instanceId target replies).1 with
          pending := w.pending ++ [(target.address, instanceId)] }
      else (w.assignInstance instanceId target replies).1.unassign
        (target.address, instanceId) := by
  have pending := (assignInstance_running instanceId w target replies).2
  have failed : (w.assignInstance instanceId target replies).2 = false :=
    (assign_repository instanceId w target replies).2.symm.trans fails
  unfold assign
  dsimp only
  rw [failed, if_neg Bool.false_ne_true, pending]
  split <;> rfl

variable (r : InstanceAssignmentRepository)

theorem records_insert (replies : Replies)
    (target : TaskAssignmentTarget) (identity : ClusterIdentity) (w : Assignments)
    (repository : w.repository = (r.insert (record instanceId target) replies).1)
    (w₀ : Assignments) (same : r.database = w₀.repository.database) :
    w.records instanceId identity = w₀.records instanceId identity ++
      if replies.insert.executed = true ∧ target.targetIdentity = identity then
        [⟨record instanceId target, r.insertId⟩]
      else [] := by
  unfold records
  rw [repository, InstanceAssignmentRepository.insert, ← same]
  by_cases executed : replies.insert.executed = true
  · rw [if_pos executed]
    by_cases its : target.targetIdentity = identity
    · rw [if_pos ⟨executed, its⟩]
      simp [InstanceAssignmentRepository.write, filter_append, record, its]
    · rw [if_neg fun both => its both.2]
      simp [InstanceAssignmentRepository.write, filter_append, record, its]
  · rw [if_neg executed, if_neg fun both => executed both.1, append_nil]

theorem status_insert (a : InstanceAssignment)
    (replies : Replies) : (r.insert a replies).1.status = r.status := by
  unfold InstanceAssignmentRepository.insert
  dsimp only
  split
  · exact status_write r (.save a)
  · rfl

theorem current_insert (a : InstanceAssignment)
    (replies : Replies) (identity : ClusterIdentity) (other : a.targetIdentity ≠ identity) :
    (r.insert a replies).1.getCurrentAssignment identity = r.getCurrentAssignment identity := by
  unfold InstanceAssignmentRepository.insert
  dsimp only
  split
  · rw [current_save, if_neg other, Int.add_zero]
  · rfl

theorem known_assign (repository : w'.repository = if w.Counts target replies then
      ((w.countedRepository target).insert (record instanceId target) replies).1
      else w.repository) (identity : ClusterIdentity) :
    w'.known identity = w.known identity + booked [w.failure target replies] identity ∧
      (w'.repository.status identity = none → w.repository.status identity = none ∧
        booked [w.failure target replies] identity = 0) := by
  rw [booked_singleton]
  show w'.known identity = w.known identity +
      (if target.targetIdentity = identity then
        (if w.Counts target replies then target.cost else 0) else 0) ∧
    (w'.repository.status identity = none → w.repository.status identity = none ∧
      (if target.targetIdentity = identity then
        (if w.Counts target replies then target.cost else 0) else 0) = 0)
  by_cases counts : w.Counts target replies
  · rw [if_pos counts] at repository
    have status : w'.repository.status identity =
        (w.countedRepository target).status identity := by
      rw [repository, status_insert]
    rw [countedRepository, status_setStatus] at status
    rw [if_pos counts]
    by_cases its : target.targetIdentity = identity
    · rw [if_pos its.symm] at status
      rw [if_pos its, known, status, ← its]
      refine ⟨rfl, fun unknown => ?_⟩
      cases unknown
    · rw [if_neg (Ne.symm its)] at status
      have sum : w'.repository.getCurrentAssignment identity =
          w.repository.getCurrentAssignment identity := by
        rw [repository, current_insert _ _ _ _ its]
        rfl
      rw [if_neg its, known, status, sum, Int.add_zero]
      exact ⟨rfl, fun unknown => ⟨unknown, rfl⟩⟩
  · rw [if_neg counts] at repository
    rw [if_neg counts, ite_self, Int.add_zero, known, repository]
    exact ⟨rfl, fun unknown => ⟨unknown, rfl⟩⟩

theorem left_assign (fails : (w.assign instanceId target replies).2 = false) :
    Left instanceId w (w.assign instanceId target replies).1 [w.failure target replies] := by
  have eq := assign_failed fails
  obtain ⟨repository, -⟩ := assign_repository instanceId w target replies
  rw [(assignInstance_repository instanceId w target replies).1] at repository
  constructor
  · intro identity
    by_cases counts : w.Counts target replies
    · rw [if_pos counts] at repository
      refine ⟨_, records_insert _ replies target identity _ repository w rfl, ?_⟩
      rw [forall_mem_singleton]
      simp only [failure, counts, decide_true, Bool.true_and]
      by_cases executed : replies.insert.executed = true
      · by_cases its : target.targetIdentity = identity <;> simp [executed, its]
      · simp [executed]
    · rw [if_neg counts] at repository
      refine ⟨[], ?_, iff_of_true rfl ?_⟩
      · rw [append_nil, records, repository]
        rfl
      · simp [failure, counts]
  · exact fun identity => (known_assign repository identity).1
  · exact fun identity => (known_assign repository identity).2
  · intro address
    rw [eq]
    by_cases late : replies.late = true
    · rw [if_pos late]
      show (address, instanceId) ∈ w.pending ++ [(target.address, instanceId)] ↔ _
      rw [mem_append, mem_singleton]
      apply or_congr_right
      constructor
      · intro same
        exact ⟨_, mem_singleton.mpr rfl, late, (congrArg Prod.fst same).symm⟩
      · intro given
        obtain ⟨failed, there, -, same⟩ := given
        rw [mem_singleton.mp there] at same
        rw [← same]
        rfl
    · have pending := (assignInstance_running instanceId w target replies).2
      simp [late, failure, unassign, pending]
  · intro address apart
    have other : address ≠ target.address :=
      Ne.symm (apart (w.failure target replies) (mem_singleton.mpr rfl))
    rw [eq]
    split
    · exact mem_assignInstance_running instanceId w target replies address other
    · rw [unassign, mem_filter,
        mem_assignInstance_running instanceId w target replies address other]
      refine and_iff_left ?_
      rw [decide_eq_true_eq]
      exact fun same => other (congrArg Prod.fst same)
  · intro failure there
    rw [mem_singleton.mp there, eq]
    show (target.address, instanceId) ∈ _ ∨ (target.address, instanceId) ∉ _
    by_cases late : replies.late = true
    · rw [if_pos late]
      exact .inl (mem_append_right _ (mem_singleton.mpr rfl))
    · rw [if_neg late]
      right
      simp [unassign]

/-- What the attempts come to: those that fail, and then one that succeeds or none. -/
theorem assignTask_cases (w : Assignments) (attempts : List (TaskAssignmentTarget × Replies)) :
    ∃ w', Left instanceId w w' (failures instanceId w attempts) ∧
      ((w.assignTask instanceId attempts = (w', none) ∧
          (failures instanceId w attempts).map Failure.target = attempts.map Prod.fst) ∨
        ∃ target replies, (w'.assign instanceId target replies).2 = true ∧
          w.assignTask instanceId attempts =
            ((w'.assign instanceId target replies).1, some target)) := by
  induction attempts generalizing w with
  | nil => exact ⟨w, left_refl w, .inl ⟨rfl, rfl⟩⟩
  | cons attempt rest ih =>
    obtain ⟨target, replies⟩ := attempt
    rw [assignTask, failures]
    cases result : (w.assign instanceId target replies).2 with
    | true =>
      exact ⟨w, left_refl w, .inr ⟨target, replies, result, rfl⟩⟩
    | false =>
      obtain ⟨w', left, ends⟩ := ih (w.assign instanceId target replies).1
      refine ⟨w', left_trans (left_assign result) left, ?_⟩
      rcases ends with ⟨eq, targets⟩ | ⟨target', replies', succeeds, eq⟩
      · exact .inl ⟨eq, by simp [targets, failure]⟩
      · exact .inr ⟨target', replies', succeeds, eq⟩

theorem settle_eq (w : Assignments) : w.settle.repository = w.repository ∧
    ∀ call, call ∈ w.settle.running ↔ call ∈ w.running ∧ call ∉ w.pending := by
  have each (calls : List (Address × String)) (w : Assignments) :
      (calls.foldl unassign w).repository = w.repository ∧
        ∀ call, call ∈ (calls.foldl unassign w).running ↔ call ∈ w.running ∧ call ∉ calls := by
    induction calls generalizing w with
    | nil => simp
    | cons first rest ih =>
      rw [foldl_cons]
      refine ⟨(ih _).1, fun call => ?_⟩
      rw [(ih _).2 call, unassign, mem_filter, decide_eq_true_eq, mem_cons, not_or,
        and_assoc]
  exact each w.pending w

theorem records_settle (w : Assignments) (identity : ClusterIdentity) :
    w.settle.records instanceId identity = w.records instanceId identity := by
  unfold records
  rw [(settle_eq w).1]

variable {failures : List Failure}

/-- Where the attempts fail, no process of theirs runs the instance in the end. -/
theorem settled_left {running : List (Address × String)} {repository : InstanceAssignmentRepository}
    (left : Left instanceId ⟨repository, running, []⟩ w' failures) (address : Address)
    (runs : (address, instanceId) ∈ w'.settle.running) :
    (address, instanceId) ∈ running ∧ ∀ failure ∈ failures, failure.target.address ≠ address := by
  obtain ⟨held, kept⟩ := ((settle_eq w').2 _).mp runs
  have apart : ∀ failure ∈ failures, failure.target.address ≠ address := by
    intro failure there same
    rcases left.tried failure there with pending | gone
    · rw [same] at pending
      exact kept pending
    · rw [same] at gone
      exact gone held
  exact ⟨(left.others address apart).mp held, apart⟩

theorem records_left_iff (left : Left instanceId w w' failures) (identity : ClusterIdentity) :
    w'.records instanceId identity = w.records instanceId identity ↔
      ∀ failure ∈ failures, failure.inserted = true → failure.target.targetIdentity ≠ identity := by
  obtain ⟨more, grown, none'⟩ := left.records identity
  rw [grown, ← none']
  exact append_right_eq_self

theorem unbooked_left_iff (left : Left instanceId w w' failures) :
    w.Unbooked w'.settle ↔ ∀ identity, booked failures identity = 0 := by
  unfold Unbooked
  rw [(settle_eq w').1]
  apply forall_congr'
  intro identity
  have amount := left.known identity
  show (∀ assigned ∈ w'.repository.status identity, assigned = w.known identity) ↔ _
  cases status : w'.repository.status identity with
  | none =>
    refine iff_of_true ?_ (left.unknown identity status).2
    intro assigned there
    cases there
  | some assigned =>
    have same : w'.known identity = assigned := by
      rw [known, status]
      rfl
    rw [same] at amount
    constructor
    · intro all
      have eq := all assigned rfl
      omega
    · intro nothing assigned' there
      cases there
      omega

theorem assign_succeeded (succeeds : (w.assign instanceId target replies).2 = true) :
    (w.assign instanceId target replies).1.running = w.running.insert (target.address, instanceId) ∧
      (w.assign instanceId target replies).1.pending = w.pending ∧
      (w.assign instanceId target replies).1.repository =
        ((w.countedRepository target).insert (record instanceId target) replies).1 ∧
      replies.insert.executed = true := by
  obtain ⟨running, pending⟩ := assignInstance_running instanceId w target replies
  obtain ⟨repository, result⟩ := assignInstance_repository instanceId w target replies
  have assigned : (w.assignInstance instanceId target replies).2 = true :=
    (assign_repository instanceId w target replies).2.symm.trans succeeds
  have same : (w.assign instanceId target replies).1 =
      (w.assignInstance instanceId target replies).1 := by
    unfold assign
    dsimp only
    rw [if_pos assigned]
  rw [assigned] at result
  obtain ⟨counts, saved⟩ := Bool.and_eq_true_iff.mp result.symm
  obtain ⟨inserted, -⟩ := Bool.and_eq_true_iff.mp saved
  have counts := of_decide_eq_true counts
  have inserted := of_decide_eq_true inserted
  rw [same, running, pending, repository, if_pos counts, if_pos counts.1, started, counts.2.1]
  exact ⟨rfl, rfl, rfl, by rw [inserted]; rfl⟩

end Attempts

section

variable {repository : InstanceAssignmentRepository} {running : List (Address × String)}
  {instanceId : String} {w' : Assignments} {failures : List Failure}

theorem nothing_iff {attempts : List (TaskAssignmentTarget × Replies)}
    (left : Left instanceId ⟨repository, running, []⟩ w' failures)
    (targets : failures.map Failure.target = attempts.map Prod.fst) :
    ((∀ attempt ∈ attempts, (attempt.1.address, instanceId) ∉ w'.settle.running) ∧
      (∀ address, (address, instanceId) ∈ w'.settle.running →
        (address, instanceId) ∈ running) ∧
      (∀ identity, w'.settle.records instanceId identity =
        records instanceId ⟨repository, running, []⟩ identity) ∧
      Unbooked ⟨repository, running, []⟩ w'.settle) ↔ Harmless failures none := by
  have stopped : ∀ attempt ∈ attempts, (attempt.1.address, instanceId) ∉ w'.settle.running := by
    intro attempt there runs
    have target : attempt.1 ∈ failures.map Failure.target := by
      rw [targets]
      exact mem_map_of_mem there
    obtain ⟨failure, failed, same⟩ := mem_map.mp target
    exact (settled_left left _ runs).2 failure failed (by rw [same])
  have others : ∀ address, (address, instanceId) ∈ w'.settle.running →
      (address, instanceId) ∈ running := fun address runs => (settled_left left address runs).1
  rw [and_iff_right stopped, and_iff_right others, unbooked_left_iff left]
  apply and_congr_left'
  constructor
  · intro same failure there
    by_contra inserted
    have unrecorded := (records_left_iff left failure.target.targetIdentity).mp
      (by rw [← records_settle]; exact same _) failure there
    exact unrecorded ((Bool.not_eq_false _).mp inserted) rfl
  · intro none' identity
    rw [records_settle, records_left_iff left]
    intro failure there inserted
    rw [none' failure there] at inserted
    cases inserted

theorem target_iff {target : TaskAssignmentTarget} {replies : Replies}
    (left : Left instanceId ⟨repository, running, []⟩ w' failures)
    (succeeds : (w'.assign instanceId target replies).2 = true) :
    ((target.address, instanceId) ∈ (w'.assign instanceId target replies).1.settle.running ∧
      (∃ stored ∈ (w'.assign instanceId target replies).1.settle.repository.database,
        stored.targetIdentity = target.targetIdentity ∧ stored.instanceId = instanceId) ∧
      (∀ address, address ≠ target.address →
        (address, instanceId) ∈ (w'.assign instanceId target replies).1.settle.running →
          (address, instanceId) ∈ running) ∧
      ∀ identity, identity ≠ target.targetIdentity →
        (w'.assign instanceId target replies).1.settle.records instanceId identity =
          records instanceId ⟨repository, running, []⟩ identity) ↔
      Harmless failures (some target) := by
  obtain ⟨runs, pending, saved, inserted⟩ := assign_succeeded succeeds
  obtain ⟨settledRepository, settled⟩ := settle_eq (w'.assign instanceId target replies).1
  have recorded : ∃ stored ∈ (w'.assign instanceId target replies).1.settle.repository.database,
      stored.targetIdentity = target.targetIdentity ∧ stored.instanceId = instanceId := by
    rw [settledRepository, saved, InstanceAssignmentRepository.insert, if_pos inserted]
    refine ⟨⟨record instanceId target, (w'.countedRepository target).insertId⟩,
      mem_append_right _ (mem_singleton.mpr rfl), rfl, rfl⟩
  have others : ∀ address, address ≠ target.address →
      (address, instanceId) ∈ (w'.assign instanceId target replies).1.settle.running →
        (address, instanceId) ∈ running := by
    intro address other held
    rw [settled, runs, pending, mem_insert_iff] at held
    have before := held.1.resolve_left fun same => other (congrArg Prod.fst same)
    exact (settled_left left address (((settle_eq w').2 _).mpr ⟨before, held.2⟩)).1
  have kept : (target.address, instanceId) ∈
      (w'.assign instanceId target replies).1.settle.running ↔
      ∀ failure ∈ failures, failure.target.address = target.address → failure.late = false := by
    rw [settled, runs, pending, and_iff_right (mem_insert_self), left.pending]
    constructor
    · intro waits failure there same
      by_contra late
      exact waits (.inr ⟨failure, there, (Bool.not_eq_false _).mp late, same⟩)
    · intro early waits
      rcases waits with before | ⟨failure, there, late, same⟩
      · cases before
      · rw [early failure there same] at late
        cases late
  have records' : ∀ identity, identity ≠ target.targetIdentity →
      ((w'.assign instanceId target replies).1.settle.records instanceId identity =
        records instanceId ⟨repository, running, []⟩ identity ↔
        ∀ failure ∈ failures, failure.inserted = true →
          failure.target.targetIdentity ≠ identity) := by
    intro identity other
    have same := records_insert _ replies target identity _ saved w' rfl
    rw [if_neg fun both => other both.2.symm, append_nil] at same
    rw [records_settle, same, records_left_iff left]
  rw [kept, and_iff_right recorded, and_iff_right others]
  constructor
  · intro both failure there
    obtain ⟨early, same⟩ := both
    refine ⟨fun inserted => ?_, early failure there⟩
    by_contra other
    exact (records' _ other).mp (same _ other) failure there inserted rfl
  · intro harmless
    refine ⟨fun failure there => (harmless failure there).2, fun identity other => ?_⟩
    rw [records' identity other]
    intro failure there inserted its
    exact other (its.symm.trans ((harmless failure there).1 inserted))

end

def counts (cached : Bool) : Bool :=
  replies.prepared && (replies.assign = .done) && (cached || replies.sum = .done)

/-- The attempts up to the first of which every call succeeds, with what each that fails has
left, and that one's target. -/
def tried (cached : ClusterIdentity → Bool) :
    List (TaskAssignmentTarget × Replies) → List Failure × Option TaskAssignmentTarget
  | [] => ([], none)
  | (target, replies) :: rest =>
    let counted := counts replies (cached target.targetIdentity)
    if counted && (replies.insert = .done && replies.select = .done) then ([], some target)
    else
      let later := tried
        (fun identity => cached identity || counted && (identity = target.targetIdentity)) rest
      (⟨target, if counted then target.cost else 0, counted && replies.insert.executed,
        replies.late⟩ :: later.1, later.2)

theorem counts_eq :
    counts replies (w.repository.status target.targetIdentity).isSome =
      decide (w.Counts target replies) := by
  rw [Bool.eq_iff_iff, decide_eq_true_eq]
  simp [counts, Counts, Option.isSome_iff_ne_none, and_assoc]

theorem isSome_assign (instanceId : String) (w : Assignments) (target : TaskAssignmentTarget)
    (replies : Replies) (identity : ClusterIdentity) :
    ((w.assign instanceId target replies).1.repository.status identity).isSome =
      ((w.repository.status identity).isSome || decide (w.Counts target replies) &&
        (identity = target.targetIdentity)) := by
  rw [(assign_repository instanceId w target replies).1,
    (assignInstance_repository instanceId w target replies).1]
  by_cases counts : w.Counts target replies
  · rw [if_pos counts, status_insert, countedRepository,
      status_setStatus]
    by_cases its : identity = target.targetIdentity
    · simp [its, counts]
    · simp [its]
  · simp [counts]

theorem tried_eq (instanceId : String) (w : Assignments)
    (attempts : List (TaskAssignmentTarget × Replies)) :
    tried (fun identity => (w.repository.status identity).isSome) attempts =
      (failures instanceId w attempts, (w.assignTask instanceId attempts).2) := by
  induction attempts generalizing w with
  | nil => rfl
  | cons attempt rest ih =>
    obtain ⟨target, replies⟩ := attempt
    have result := (assign_repository instanceId w target replies).2.trans
      (assignInstance_repository instanceId w target replies).2
    have later := ih (w.assign instanceId target replies).1
    simp only [isSome_assign] at later
    rw [tried, failures, assignTask]
    dsimp only
    rw [counts_eq, ← result, later]
    by_cases succeeds : (w.assign instanceId target replies).2 = true
    · rw [if_pos succeeds, if_pos succeeds, if_pos succeeds]
    · rw [if_neg succeeds, if_neg succeeds, if_neg succeeds, failure]
      simp only [decide_eq_true_eq]

/-- The assignment is all or nothing exactly if no attempt that fails leaves a record of
another process, none gives up what the target runs, and, without a target, nothing stays
booked. -/
theorem allOrNothing_iff (repository : InstanceAssignmentRepository)
    (running : List (Address × String)) (instanceId : String)
    (attempts : List (TaskAssignmentTarget × Replies)) :
    AllOrNothing instanceId ⟨repository, running, []⟩ attempts ↔
      Harmless (tried (fun identity => (repository.status identity).isSome) attempts).1
        (tried (fun identity => (repository.status identity).isSome) attempts).2 := by
  obtain ⟨w', left, ends⟩ :=
    @assignTask_cases instanceId ⟨repository, running, []⟩ attempts
  have eq := tried_eq instanceId ⟨repository, running, []⟩ attempts
  dsimp only at eq
  rw [eq]
  unfold AllOrNothing
  dsimp only
  rcases ends with ⟨eq, targets⟩ | ⟨target, replies, succeeds, eq⟩
  · rw [eq]
    exact nothing_iff left targets
  · rw [eq]
    exact target_iff left succeeds

def unsaved : TaskAssignmentTarget × Replies :=
  (⟨runner, 8000, 30⟩,
    ⟨true, .done, .done, .failed false, .done, false⟩)

/-- The requirement stays booked. -/
theorem unsaved_stays_booked :
    ¬ ∀ (repository : InstanceAssignmentRepository) (running : List (Address × String))
      (instanceId : String) (attempts : List (TaskAssignmentTarget × Replies)),
      AllOrNothing instanceId ⟨repository, running, []⟩ attempts := by
  intro claimed
  have all := claimed ⟨[], 1, fun _ => none⟩ [] "1" [unsaved]
  have booked := all.2.2.2 runner 30 (by decide +kernel)
  revert booked
  decide +kernel

end Assignments
end AkashicSystem.ClusterMaster
