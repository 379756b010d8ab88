import AkashicSystem.ClusterMaster.ProcessRepository
import AkashicSystem.SystemApiServer.InstanceManager

/-!
# The departure of processes

`ProcessMonitor` on a master: a process that leaves takes its instances into the error state and
its records out of the tables, and `syncDatabase` does so for the processes with records that the
monitor does not list; what is left over is removed without a report.
-/

set_option autoImplicit false

namespace AkashicSystem.ClusterMaster.ProcessMonitor

open SystemApiServer.InstanceManager (InstanceState)
open List
open InstanceAssignmentRepository renaming Reply → AssignmentReply

def typeGameRunner2 : String := "gameRunner2"

/-- The states in which `abort` leaves an instance, which has already ended in some way. -/
def ended : InstanceState → Bool
  | .closed | .closing | .error => true
  | .prepare | .running | .pausing | .paused | .resuming => false

structure Repositories where
  assignments : InstanceAssignmentRepository
  processes : ProcessRepository
  instances : String → Option InstanceState

namespace Repositories

variable (t : Repositories)

/-- `InstanceManager.abort` in its transaction: whether it resolves.  There is no status to be
read where there is no instance. -/
def abort (instanceId : String) (reply : AssignmentReply) :
    Repositories × Bool :=
  match t.instances instanceId with
  | none => (t, false)
  | some status =>
    (if ended status || !reply.executed then t
      else { t with instances := Function.update t.instances instanceId (some .error) },
      reply = .done)

/-- The status of an assignment is forgotten when its records are to be removed. -/
def forgetAssignments (identity : ClusterIdentity) : Repositories :=
  { t with assignments := (t.assignments.begin (.removeByIdentity identity)).1 }

def removeAssignments (identity : ClusterIdentity) : Repositories :=
  { t with assignments := t.assignments.write (.removeByIdentity identity) }

variable (identities : List ClusterIdentity)

def forgetProcesses : Repositories :=
  { t with processes := (t.processes.begin (.removeProcesses identities)).1 }

def removeProcesses (identities : List ClusterIdentity) : Repositories :=
  { t with processes := t.processes.write (.removeProcesses identities) }

/-- `getNotByIdentities` of the processes. -/
def deadProcesses : List ClusterIdentity :=
  t.processes.database.keys.filter fun identity => identity ∉ identities

/-- The targets of `getNotByIdentities` of the assignments. -/
def deadTargets : List ClusterIdentity :=
  (t.assignments.database.filter fun stored => stored.targetIdentity ∉ identities).map
    fun stored => stored.targetIdentity

end Repositories

/-! ## A process that leaves -/

inductive Departure where
  | assignments
  | aborting (instanceIds : List String) (resolved : Bool)
  | removing
  | removingProcess
  | settled (fulfilled : Bool)
deriving DecidableEq

/-- A `processLeaved`. -/
structure Leave where
  identity : ClusterIdentity
  departure : Departure

namespace Leave

def aborting (t : Repositories) (leave : Leave) (instanceIds : List String) (resolved : Bool) :
    Repositories × Leave :=
  match instanceIds, resolved with
  | [], true => (t.forgetAssignments leave.identity, { leave with departure := .removing })
  | [], false => (t, { leave with departure := .settled false })
  | _ :: _, _ => (t, { leave with departure := .aborting instanceIds resolved })

def reply (t : Repositories) (leave : Leave) (reply : AssignmentReply) :
    Repositories × Leave :=
  match leave.departure with
  | .assignments =>
    if reply = .done then
      aborting t leave
        (if leave.identity.type = typeGameRunner2 then
          (t.assignments.getByIdentity leave.identity).map fun stored => stored.instanceId
        else []) true
    else (t, { leave with departure := .settled false })
  | .removing =>
    let t := if reply.executed then t.removeAssignments leave.identity else t
    if reply = .done then
      (t.forgetProcesses [leave.identity], { leave with departure := .removingProcess })
    else (t, { leave with departure := .settled false })
  | .removingProcess =>
    (if reply.executed then t.removeProcesses [leave.identity] else t,
      { leave with departure := .settled (reply = .done) })
  | .aborting _ _ | .settled _ => (t, leave)

def abort (t : Repositories) (leave : Leave) (index : Nat)
    (reply : AssignmentReply) : Repositories × Leave :=
  match leave.departure with
  | .aborting instanceIds resolved =>
    match instanceIds[index]? with
    | none => (t, leave)
    | some instanceId =>
      let aborted := t.abort instanceId reply
      aborting aborted.1 leave (instanceIds.eraseIdx index) (resolved && aborted.2)
  | _ => (t, leave)

end Leave

/-! ## The synchronisation -/

inductive Progress where
  | selecting
  | leaving (first past : Nat)
  | selectingProcesses
  | removingProcesses (rest : List ClusterIdentity)
  | selectingAssignments
  /-- It awaits the removal of the assignments of the first. -/
  | removingAssignments (rest : List ClusterIdentity)
  | settled (fulfilled : Bool)
deriving DecidableEq

/-- A `syncDatabase`, with the nodes that the monitor listed at its start. -/
structure Sync where
  identities : List ClusterIdentity
  progress : Progress

namespace Sync

def cleanDeadProcesses (t : Repositories) (sync : Sync) (rest : List ClusterIdentity) :
    Repositories × Sync :=
  match rest with
  | [] => (t, { sync with progress := .selectingAssignments })
  | _ :: _ => (t.forgetProcesses (rest.take 10), { sync with progress := .removingProcesses rest })

def cleanDeadInstanceAssignment (t : Repositories) (sync : Sync) (rest : List ClusterIdentity) :
    Repositories × Sync :=
  match rest with
  | [] => (t, { sync with progress := .settled true })
  | identity :: _ =>
    (t.forgetAssignments identity, { sync with progress := .removingAssignments rest })

end Sync

structure World where
  tables : Repositories
  nodes : List ClusterIdentity
  leaves : List Leave
  sync : Option Sync

inductive Action where
  | nodeLeaved (identity : ClusterIdentity)
  | syncDatabase
  | leave (index : Nat) (reply : AssignmentReply)
  | abort (index place : Nat) (reply : AssignmentReply)
  /-- The database answers the synchronisation, or it looks at the departures. -/
  | sync (reply : AssignmentReply)

namespace World

def new (tables : Repositories) (nodes : List ClusterIdentity) : World := ⟨tables, nodes, [], none⟩

variable (w : World)

def become (index : Nat) (next : Repositories × Leave) : World :=
  { w with tables := next.1, leaves := w.leaves.set index next.2 }

def follow (next : Repositories × Sync) : World :=
  { w with tables := next.1, sync := some next.2 }

def fail (sync : Sync) : World :=
  { w with sync := some { sync with progress := .settled false } }

def departures (first past : Nat) : List Leave :=
  (w.leaves.drop first).take (past - first)

def answerSync (sync : Sync) (reply : AssignmentReply) : World :=
  match sync.progress with
  | .selecting =>
    if reply = .done then
      let dead := w.tables.deadProcesses sync.identities
      { w with
        leaves := w.leaves ++ dead.map fun identity => ⟨identity, .assignments⟩
        sync := some { sync with
          progress := .leaving w.leaves.length (w.leaves.length + dead.length) } }
    else w.fail sync
  | .leaving first past =>
    let departures := w.departures first past
    if departures.any fun leave => leave.departure = .settled false then w.fail sync
    else if departures.all fun leave => leave.departure = .settled true then
      { w with sync := some { sync with progress := .selectingProcesses } }
    else w
  | .selectingProcesses =>
    if reply = .done then
      w.follow (sync.cleanDeadProcesses w.tables (w.tables.deadProcesses sync.identities))
    else w.fail sync
  | .removingProcesses rest =>
    let tables := if reply.executed then w.tables.removeProcesses (rest.take 10) else w.tables
    if reply = .done then w.follow (sync.cleanDeadProcesses tables (rest.drop 10))
    else { w.fail sync with tables }
  | .selectingAssignments =>
    if reply = .done then
      w.follow (sync.cleanDeadInstanceAssignment w.tables (w.tables.deadTargets sync.identities))
    else w.fail sync
  | .removingAssignments rest =>
    let tables :=
      match rest.head? with
      | some identity => if reply.executed then w.tables.removeAssignments identity else w.tables
      | none => w.tables
    if reply = .done then w.follow (sync.cleanDeadInstanceAssignment tables rest.tail)
    else { w.fail sync with tables }
  | .settled _ => w

def step : Action → World
  | .nodeLeaved identity =>
    if identity ∈ w.nodes then
      { w with
        nodes := w.nodes.filter fun node => node ≠ identity
        leaves := w.leaves ++ [⟨identity, .assignments⟩] }
    else w
  | .syncDatabase =>
    match w.sync with
    | none => { w with sync := some ⟨w.nodes, .selecting⟩ }
    | some _ => w
  | .leave index reply =>
    match w.leaves[index]? with
    | none => w
    | some leave => w.become index (leave.reply w.tables reply)
  | .abort index place reply =>
    match w.leaves[index]? with
    | none => w
    | some leave => w.become index (leave.abort w.tables place reply)
  | .sync reply =>
    match w.sync with
    | none => w
    | some sync => w.answerSync sync reply

end World

def Repositories.Unfinished (t : Repositories) (instanceId : String) : Prop :=
  ∃ status ∈ t.instances instanceId, ended status = false

instance (t : Repositories) : DecidablePred t.Unfinished :=
  fun _ => inferInstanceAs (Decidable (∃ status ∈ _, _))

def Lost (nodes : List ClusterIdentity) (stored : StoredAssignment) : Prop :=
  stored.targetIdentity.type = typeGameRunner2 ∧ stored.targetIdentity ∉ nodes

instance (nodes : List ClusterIdentity) : DecidablePred (Lost nodes) :=
  fun _ => inferInstanceAs (Decidable (_ ∧ _))

namespace World

/-- The tables after a synchronisation that began in `start`. -/
structure Cleaned (start w : World) : Prop where
  processes : ∀ identity ∈ w.tables.processes.database, identity ∈ start.nodes
  assignments : ∀ stored ∈ w.tables.assignments.database, stored.targetIdentity ∈ start.nodes
  errors : ∀ stored ∈ start.tables.assignments.database, Lost start.nodes stored →
    start.tables.Unfinished stored.instanceId →
      w.tables.instances stored.instanceId = some .error
  kept : ∀ identity ∈ start.nodes, identity ∈ w.nodes →
    w.tables.processes.database.lookup identity =
        start.tables.processes.database.lookup identity ∧
      w.tables.assignments.getByIdentity identity =
        start.tables.assignments.getByIdentity identity

/-- An unfinished instance that is assigned to a game runner that is not listed is assigned to one
that has a record. -/
def Recorded (w : World) : Prop :=
  ∀ stored ∈ w.tables.assignments.database, Lost w.nodes stored →
    w.tables.Unfinished stored.instanceId →
      ∃ other ∈ w.tables.assignments.database, Lost w.nodes other ∧
        other.instanceId = stored.instanceId ∧
          other.targetIdentity ∈ w.tables.processes.database

instance (w : World) : Decidable w.Recorded :=
  inferInstanceAs (Decidable (∀ stored ∈ _, _ → _ → ∃ other ∈ _, _))

end World

/-! ## What a step does to the tables -/

/-- The rows of some processes are removed, and instances are aborted. -/
structure Does (t t' : Repositories) (unassigns unregisters : ClusterIdentity → Prop) : Prop where
  instances : ∀ id, t'.instances id = t.instances id ∨
    (t.Unfinished id ∧ t'.instances id = some .error)
  rows : t'.assignments.database ⊆ t.assignments.database
  stays : ∀ identity, ¬ unassigns identity →
    t'.assignments.getByIdentity identity = t.assignments.getByIdentity identity
  processes : ∀ identity,
    t'.processes.database.lookup identity = t.processes.database.lookup identity ∨
      (unregisters identity ∧ t'.processes.database.lookup identity = none)

section Tables

variable {t t' t'' : Repositories} {unassigns unregisters : ClusterIdentity → Prop}

theorem Does.refl (t : Repositories) (unassigns unregisters : ClusterIdentity → Prop) :
    Does t t unassigns unregisters :=
  ⟨fun _ => .inl rfl, List.Subset.refl _, fun _ _ => rfl, fun _ => .inl rfl⟩

theorem Does.trans (first : Does t t' unassigns unregisters)
    (second : Does t' t'' unassigns unregisters) : Does t t'' unassigns unregisters where
  instances id := by
    rcases second.instances id with same | ⟨⟨status, there, begun⟩, error⟩
    · rw [same]
      exact first.instances id
    · rcases first.instances id with same' | ⟨unfinished, -⟩
      · exact .inr ⟨⟨status, by rw [← same']; exact there, begun⟩, error⟩
      · exact .inr ⟨unfinished, error⟩
  rows := List.Subset.trans second.rows first.rows
  stays identity not := (second.stays identity not).trans (first.stays identity not)
  processes identity := by
    rcases second.processes identity with same | gone
    · rw [same]
      exact first.processes identity
    · exact .inr gone

section

variable (does : Does t t' unassigns unregisters)

include does

theorem Does.unfinished {id : String} (unfinished : t'.Unfinished id) : t.Unfinished id := by
  obtain ⟨status, there, begun⟩ := unfinished
  rcases does.instances id with same | ⟨before, -⟩
  · rw [same] at there
    exact ⟨status, there, begun⟩
  · exact before

theorem Does.mem {stored : StoredAssignment}
    (there : stored ∈ t.assignments.database) (not : ¬ unassigns stored.targetIdentity) :
    stored ∈ t'.assignments.database := by
  have listed : stored ∈ t'.assignments.getByIdentity stored.targetIdentity := by
    rw [does.stays _ not]
    exact mem_filter.mpr ⟨there, by simp⟩
  exact (mem_filter.mp listed).1

theorem Does.mem_processes {identity : ClusterIdentity}
    (there : identity ∈ t.processes.database) (not : ¬ unregisters identity) :
    identity ∈ t'.processes.database := by
  rw [← AList.lookup_isSome] at there ⊢
  rcases does.processes identity with same | ⟨gone, -⟩
  · rw [same]
    exact there
  · exact absurd gone not

theorem Does.of_mem_processes {identity : ClusterIdentity}
    (there : identity ∈ t'.processes.database) : identity ∈ t.processes.database := by
  rw [← AList.lookup_isSome] at there ⊢
  rcases does.processes identity with same | ⟨-, gone⟩
  · rw [← same]
    exact there
  · rw [gone] at there
    cases there

end

theorem does_forgetAssignments (t : Repositories) (identity : ClusterIdentity) :
    Does t (t.forgetAssignments identity) unassigns unregisters :=
  ⟨fun _ => .inl rfl, List.Subset.refl _, fun _ _ => rfl, fun _ => .inl rfl⟩

theorem does_forgetProcesses (t : Repositories) (identities : List ClusterIdentity) :
    Does t (t.forgetProcesses identities) unassigns unregisters := by
  refine ⟨fun _ => .inl rfl, List.Subset.refl _, fun _ _ => rfl, fun identity => .inl ?_⟩
  show (t.processes.begin _).1.database.lookup identity = _
  rw [(ProcessRepository.Calls.begin_table t.processes (.removeProcesses identities)).1]

theorem does_removeAssignments (t : Repositories) (identity : ClusterIdentity)
    (its : unassigns identity) :
    Does t (t.removeAssignments identity) unassigns unregisters := by
  refine ⟨fun _ => .inl rfl, filter_subset_self .., fun other not => ?_,
    fun _ => .inl rfl⟩
  have ne : other ≠ identity := by
    rintro rfl
    exact not its
  unfold Repositories.removeAssignments InstanceAssignmentRepository.getByIdentity
  simp only [InstanceAssignmentRepository.write, filter_filter]
  apply filter_congr
  intro stored there
  by_cases same : stored.targetIdentity = other
  · simp [same, ne]
  · simp [same]

theorem lookup_removeProcesses (t : Repositories) (identities : List ClusterIdentity)
    (identity : ClusterIdentity) :
    (t.removeProcesses identities).processes.database.lookup identity =
      if identity ∈ identities then none else t.processes.database.lookup identity :=
  ProcessRepository.Calls.lookup_eraseAll t.processes.database identities identity

theorem does_removeProcesses (t : Repositories) (identities : List ClusterIdentity)
    (its : ∀ identity ∈ identities, unregisters identity) :
    Does t (t.removeProcesses identities) unassigns unregisters := by
  refine ⟨fun _ => .inl rfl, List.Subset.refl _, fun _ _ => rfl, fun identity => ?_⟩
  rw [lookup_removeProcesses]
  split
  · next there => exact .inr ⟨its identity there, rfl⟩
  · exact .inl rfl

theorem does_abort (t : Repositories) (instanceId : String)
    (reply : AssignmentReply) :
    Does t (t.abort instanceId reply).1 unassigns unregisters := by
  unfold Repositories.abort
  split
  · exact .refl t _ _
  · next status here =>
    dsimp only
    split
    · exact .refl t _ _
    · next begun =>
      refine ⟨fun id => ?_, List.Subset.refl _, fun _ _ => rfl, fun _ => .inl rfl⟩
      by_cases same : id = instanceId
      · subst same
        right
        refine ⟨⟨status, here, ?_⟩, Function.update_self ..⟩
        simp only [Bool.or_eq_true, not_or, Bool.not_eq_true] at begun
        exact begun.1
      · exact .inl (Function.update_of_ne same ..)

theorem ended_of_abort (t : Repositories) (instanceId : String)
    (reply : AssignmentReply) (resolves : (t.abort instanceId reply).2 = true) :
    ¬ (t.abort instanceId reply).1.Unfinished instanceId := by
  unfold Repositories.abort at resolves ⊢
  split at resolves
  · cases resolves
  · next status here =>
    have done : reply = .done := of_decide_eq_true resolves
    subst done
    rintro ⟨status', there, begun⟩
    cases finished : ended status with
    | true =>
      simp only [finished, Bool.true_or, if_true, here, Option.mem_some_iff] at there
      rw [← there, finished] at begun
      cases begun
    | false =>
      simp only [finished, AssignmentReply.executed, Bool.not_true, Bool.or_self,
        Bool.false_eq_true, if_false, Function.update_self, Option.mem_some_iff] at there
      rw [← there] at begun
      cases begun

end Tables

/-! ## What a departure does to the instances of its process -/

/-- The departure of the process has ended the instance of the assignment, or will. -/
def Tends (t : Repositories) (stored : StoredAssignment) (leave : Leave) : Prop :=
  match leave.departure with
  | .assignments | .settled false => True
  | .aborting instanceIds resolved =>
    resolved = true → stored.instanceId ∈ instanceIds ∨ ¬ t.Unfinished stored.instanceId
  | .removing | .removingProcess | .settled true => ¬ t.Unfinished stored.instanceId

structure Moved (t : Repositories) (leave : Leave) (next : Repositories × Leave) : Prop where
  identity : next.2.identity = leave.identity
  does : Does t next.1
    (fun identity => identity = leave.identity ∧ leave.departure = .removing)
    fun identity => identity = leave.identity ∧ leave.departure = .removingProcess
  tends : ∀ stored : StoredAssignment, stored.targetIdentity = leave.identity →
    stored.targetIdentity.type = typeGameRunner2 →
      stored ∈ t.assignments.database ∨ ¬ t.Unfinished stored.instanceId →
        Tends t stored leave → Tends next.1 stored next.2

section Departures

variable {t t' : Repositories} {leave : Leave} {unassigns unregisters : ClusterIdentity → Prop}

theorem Tends.of_does {stored : StoredAssignment} (tends : Tends t stored leave)
    (does : Does t t' unassigns unregisters) : Tends t' stored leave := by
  unfold Tends at tends ⊢
  have still (finished : ¬ t.Unfinished stored.instanceId) : ¬ t'.Unfinished stored.instanceId :=
    fun unfinished => finished (does.unfinished unfinished)
  split
  · trivial
  · trivial
  · next ids resolved phase =>
    simp only [phase] at tends
    exact fun ok => (tends ok).imp_right still
  all_goals
    next phase =>
    simp only [phase] at tends
    exact still tends

theorem identity_aborting (t : Repositories) (leave : Leave) (instanceIds : List String)
    (resolved : Bool) : (leave.aborting t instanceIds resolved).2.identity = leave.identity := by
  unfold Leave.aborting
  split <;> rfl

theorem does_aborting (t : Repositories) (leave : Leave) (instanceIds : List String)
    (resolved : Bool) :
    Does t (leave.aborting t instanceIds resolved).1 unassigns unregisters := by
  unfold Leave.aborting
  split
  · exact does_forgetAssignments t _
  · exact .refl t _ _
  · exact .refl t _ _

theorem tends_aborting {stored : StoredAssignment} (instanceIds : List String) (resolved : Bool)
    (its : resolved = true → stored.instanceId ∈ instanceIds ∨
      ¬ t.Unfinished stored.instanceId) : Tends (leave.aborting t instanceIds resolved).1 stored
      (leave.aborting t instanceIds resolved).2 := by
  unfold Leave.aborting
  split
  · rcases its rfl with there | finished
    · cases there
    · exact finished
  · trivial
  · exact its

theorem moved_reply (t : Repositories) (leave : Leave)
    (reply : AssignmentReply) : Moved t leave (leave.reply t reply) := by
  have failed : Moved t leave (t, { leave with departure := .settled false }) :=
    ⟨rfl, .refl t _ _, fun _ _ _ _ _ => trivial⟩
  unfold Leave.reply
  split
  · next phase =>
    split
    · refine ⟨identity_aborting t leave _ true, does_aborting t leave _ true, ?_⟩
      intro stored its runner there _
      apply tends_aborting
      intro _
      refine there.imp_left fun listed => ?_
      rw [its] at runner
      rw [if_pos runner]
      apply mem_map_of_mem
      exact mem_filter.mpr ⟨listed, by simp [its]⟩
    · exact failed
  · next phase =>
    have removes : Does t (if reply.executed then t.removeAssignments leave.identity else t)
        (fun identity => identity = leave.identity ∧ leave.departure = .removing)
        fun identity => identity = leave.identity ∧ leave.departure = .removingProcess := by
      split
      · exact does_removeAssignments t _ ⟨rfl, phase⟩
      · exact .refl t _ _
    dsimp only
    split
    · have all := removes.trans (does_forgetProcesses _ [leave.identity])
      refine ⟨rfl, all, fun stored _ _ _ tends unfinished => ?_⟩
      unfold Tends at tends
      rw [phase] at tends
      exact tends (all.unfinished unfinished)
    · exact ⟨rfl, removes, fun _ _ _ _ _ => trivial⟩
  · next phase =>
    have removes : Does t (if reply.executed then t.removeProcesses [leave.identity] else t)
        (fun identity => identity = leave.identity ∧ leave.departure = .removing)
        fun identity => identity = leave.identity ∧ leave.departure = .removingProcess := by
      split
      · apply does_removeProcesses
        intro identity there
        exact ⟨mem_singleton.mp there, phase⟩
      · exact .refl t _ _
    refine ⟨rfl, removes, fun stored _ _ _ tends => ?_⟩
    unfold Tends at tends ⊢
    rw [phase] at tends
    dsimp only
    split
    · trivial
    · trivial
    · next same =>
      cases same
    all_goals exact fun unfinished => tends (removes.unfinished unfinished)
  · exact ⟨rfl, .refl t _ _, fun _ _ _ _ tends => tends⟩
  · exact ⟨rfl, .refl t _ _, fun _ _ _ _ tends => tends⟩

theorem moved_abort (t : Repositories) (leave : Leave) (index : Nat)
    (reply : AssignmentReply) : Moved t leave (leave.abort t index reply) := by
  have same : Moved t leave (t, leave) := ⟨rfl, .refl t _ _, fun _ _ _ _ tends => tends⟩
  unfold Leave.abort
  split
  · next instanceIds resolved phase =>
    split
    · exact same
    · next instanceId here =>
      have does := @does_abort
        (fun identity => identity = leave.identity ∧ leave.departure = .removing)
        (fun identity => identity = leave.identity ∧ leave.departure = .removingProcess)
        t instanceId reply
      refine ⟨identity_aborting _ leave _ _, does.trans (does_aborting _ leave _ _),
        fun stored _ _ _ tends => ?_⟩
      apply tends_aborting
      intro both
      obtain ⟨ok, resolves⟩ := Bool.and_eq_true_iff.mp both
      unfold Tends at tends
      rw [phase] at tends
      rcases tends ok with there | finished
      · by_cases its : stored.instanceId = instanceId
        · right
          rw [its]
          exact ended_of_abort t instanceId reply resolves
        · left
          obtain ⟨place, found⟩ := mem_iff_getElem?.mp there
          refine mem_eraseIdx_iff_getElem?.mpr ⟨place, ?_, found⟩
          rintro rfl
          rw [here] at found
          exact its (Option.some.inj found).symm
      · exact .inr fun unfinished => finished (does.unfinished unfinished)
  · exact same

end Departures

namespace World

/-! ## Before a synchronisation -/

structure Follows (watched : StoredAssignment → Prop) (w : World) : Prop where
  table : ∀ stored, watched stored → stored ∈ w.tables.assignments.database ∨
    ¬ w.tables.Unfinished stored.instanceId
  tends : ∀ stored, watched stored → ∀ leave ∈ w.leaves,
    leave.identity = stored.targetIdentity → Tends w.tables stored leave

section Follows

variable {watched : StoredAssignment → Prop} {w : World}

theorem Follows.become (follows : w.Follows watched)
    (runners : ∀ stored, watched stored → stored.targetIdentity.type = typeGameRunner2)
    {index : Nat} {leave : Leave} (here : w.leaves[index]? = some leave)
    {next : Repositories × Leave} (moved : Moved w.tables leave next) :
    (w.become index next).Follows watched := by
  have mine := mem_of_getElem? here
  refine ⟨fun stored its => ?_, fun stored its other there same => ?_⟩
  · by_cases removed : stored.targetIdentity = leave.identity ∧ leave.departure = .removing
    · right
      intro unfinished
      have tends := follows.tends stored its leave mine removed.1.symm
      unfold Tends at tends
      rw [removed.2] at tends
      exact tends (moved.does.unfinished unfinished)
    · rcases follows.table stored its with there | finished
      · exact .inl (moved.does.mem there removed)
      · exact .inr fun unfinished => finished (moved.does.unfinished unfinished)
  · rcases mem_or_eq_of_mem_set there with before | rfl
    · exact (follows.tends stored its other before same).of_does moved.does
    · rw [moved.identity] at same
      exact moved.tends stored same.symm (runners stored its) (follows.table stored its)
        (follows.tends stored its leave mine same)

theorem Follows.append (follows : w.Follows watched) (identities : List ClusterIdentity)
    (nodes : List ClusterIdentity) (sync : Option Sync) : ({ w with
        nodes, sync
        leaves := w.leaves ++ identities.map fun identity => ⟨identity, .assignments⟩ } :
      World).Follows watched := by
  refine ⟨follows.table, fun stored its leave there same => ?_⟩
  rcases mem_append.mp there with before | now
  · exact follows.tends stored its leave before same
  · obtain ⟨identity, -, rfl⟩ := mem_map.mp now
    trivial

structure Prepares (watched : StoredAssignment → Prop) (w : World) : Prop where
  follows : w.Follows watched
  left : ∀ leave ∈ w.leaves, leave.identity ∉ w.nodes

theorem Prepares.become (prepares : w.Prepares watched)
    (runners : ∀ stored, watched stored → stored.targetIdentity.type = typeGameRunner2)
    {index : Nat} {leave : Leave} (here : w.leaves[index]? = some leave)
    {next : Repositories × Leave} (moved : Moved w.tables leave next) :
    (w.become index next).Prepares watched := by
  refine ⟨prepares.follows.become runners here moved, fun other there => ?_⟩
  rcases mem_or_eq_of_mem_set there with before | rfl
  · exact prepares.left other before
  · rw [moved.identity]
    exact prepares.left leave (mem_of_getElem? here)

theorem answerSync_isSome (w : World) (sync : Sync)
    (reply : AssignmentReply) (here : w.sync = some sync) :
    (w.answerSync sync reply).sync.isSome = true := by
  have still : w.sync.isSome = true := by
    rw [here]
    rfl
  unfold answerSync
  dsimp only
  split
  · split <;> rfl
  · split
    · rfl
    · split
      · rfl
      · exact still
  · split <;> rfl
  · split <;> rfl
  · split <;> rfl
  · split <;> rfl
  · exact still

theorem idle_of_step (w : World) (action : Action) (still : (w.step action).sync = none) :
    w.sync = none := by
  cases action with
  | nodeLeaved identity =>
    unfold step at still
    dsimp only at still
    split at still <;> exact still
  | syncDatabase =>
    unfold step at still
    dsimp only at still
    split at still
    · cases still
    · exact still
  | leave index reply | abort index place reply =>
    unfold step at still
    dsimp only at still
    split at still <;> exact still
  | sync reply =>
    unfold step at still
    dsimp only at still
    split at still
    · exact still
    · next sync here =>
      have some' := answerSync_isSome w sync reply here
      rw [still] at some'
      cases some'

/-- Before a synchronisation no step adds an assignment, and the departures tend to those that
there are. -/
theorem prepares_step (runners : ∀ stored, watched stored →
      stored.targetIdentity.type = typeGameRunner2) (w : World) (action : Action)
    (prepares : w.Prepares watched) (still : (w.step action).sync = none) :
    (w.step action).tables.assignments.database ⊆ w.tables.assignments.database ∧
      (w.step action).Prepares watched := by
  have idle := idle_of_step w action still
  have same : w.tables.assignments.database ⊆ w.tables.assignments.database ∧
      w.Prepares watched := ⟨List.Subset.refl _, prepares⟩
  cases action with
  | nodeLeaved identity =>
    unfold step
    dsimp only
    split
    · refine ⟨List.Subset.refl _, prepares.follows.append [identity] _ _,
        fun leave there isNode => ?_⟩
      obtain ⟨listed, ne⟩ := mem_filter.mp isNode
      rcases mem_append.mp there with before | now
      · exact prepares.left leave before listed
      · cases mem_singleton.mp now
        simp at ne
    · exact same
  | syncDatabase =>
    unfold step at still
    simp only [idle] at still
    cases still
  | leave index reply =>
    unfold step
    dsimp only
    split
    · exact same
    · next leave here =>
      have moved := moved_reply w.tables leave reply
      exact ⟨moved.does.rows, prepares.become runners here moved⟩
  | abort index place reply =>
    unfold step
    dsimp only
    split
    · exact same
    · next leave here =>
      have moved := moved_abort w.tables leave place reply
      exact ⟨moved.does.rows, prepares.become runners here moved⟩
  | sync reply =>
    unfold step
    simp only [idle]
    exact same

end Follows
/-! ## Since the start of a synchronisation -/

def Watched (start : World) (stored : StoredAssignment) : Prop :=
  stored ∈ start.tables.assignments.database ∧ Lost start.nodes stored ∧
    stored.targetIdentity ∈ start.tables.processes.database

variable (start w : World)

def Over : Prop :=
  ∀ stored, start.Watched stored → ¬ w.tables.Unfinished stored.instanceId

def Registered : Prop :=
  ∀ identity ∈ w.tables.processes.database, identity ∈ start.nodes

def Assigned : Prop :=
  ∀ stored ∈ w.tables.assignments.database, stored.targetIdentity ∈ start.nodes

def Proceeds : Progress → Prop
  | .selecting | .settled false => True
  | .leaving first past => ∀ stored, start.Watched stored →
      ¬ w.tables.Unfinished stored.instanceId ∨ ∃ place leave, first ≤ place ∧ place < past ∧
        w.leaves[place]? = some leave ∧ leave.identity = stored.targetIdentity
  | .selectingProcesses => Over start w
  | .removingProcesses rest => Over start w ∧
      (∀ identity ∈ w.tables.processes.database, identity ∈ start.nodes ∨ identity ∈ rest) ∧
        ∀ identity ∈ rest, identity ∉ start.nodes
  | .selectingAssignments => Over start w ∧ Registered start w
  | .removingAssignments rest => Over start w ∧ Registered start w ∧
      (∀ stored ∈ w.tables.assignments.database,
        stored.targetIdentity ∈ start.nodes ∨ stored.targetIdentity ∈ rest) ∧
        ∀ identity ∈ rest, identity ∉ start.nodes
  | .settled true => Over start w ∧ Registered start w ∧ Assigned start w

structure Spared (start w : World) (identity : ClusterIdentity) : Prop where
  process : w.tables.processes.database.lookup identity =
    start.tables.processes.database.lookup identity
  assignments : w.tables.assignments.getByIdentity identity =
    start.tables.assignments.getByIdentity identity
  stays : ∀ leave ∈ w.leaves, leave.identity ≠ identity

structure Since (start w : World) : Prop where
  follows : w.Follows start.Watched
  instances : ∀ id, w.tables.instances id = start.tables.instances id ∨
    (start.tables.Unfinished id ∧ w.tables.instances id = some .error)
  registered : ∀ stored, start.Watched stored →
    stored.targetIdentity ∈ w.tables.processes.database ∨
      ¬ w.tables.Unfinished stored.instanceId
  spared : ∀ identity ∈ start.nodes, identity ∈ w.nodes → Spared start w identity

structure Inv (start w : World) : Prop where
  since : Since start w
  sync : ∃ sync, w.sync = some sync ∧ sync.identities = start.nodes ∧
    Proceeds start w sync.progress

section Since

variable {start w w' : World} {unassigns unregisters : ClusterIdentity → Prop}

theorem watched_runner (stored : StoredAssignment) (watched : start.Watched stored) :
    stored.targetIdentity.type = typeGameRunner2 := watched.2.1.1

theorem Over.of_does (finished : Over start w)
    (does : Does w.tables w'.tables unassigns unregisters) : Over start w' :=
  fun stored watched unfinished => finished stored watched (does.unfinished unfinished)

theorem instances_of_does (since : ∀ id, w.tables.instances id = start.tables.instances id ∨
      (start.tables.Unfinished id ∧ w.tables.instances id = some .error))
    (does : Does w.tables w'.tables unassigns unregisters) (id : String) :
    w'.tables.instances id = start.tables.instances id ∨
      (start.tables.Unfinished id ∧ w'.tables.instances id = some .error) := by
  rcases does.instances id with same | ⟨⟨status, there, begun⟩, error⟩
  · rw [same]
    exact since id
  · rcases since id with same | ⟨unfinished, -⟩
    · rw [same] at there
      exact .inr ⟨⟨status, there, begun⟩, error⟩
    · exact .inr ⟨unfinished, error⟩

theorem Proceeds.of_does {progress : Progress} (proceeds : Proceeds start w progress)
    (does : Does w.tables w'.tables unassigns unregisters)
    (leaves : ∀ (place : Nat) (leave : Leave), w.leaves[place]? = some leave →
      ∃ leave', w'.leaves[place]? = some leave' ∧ leave'.identity = leave.identity) :
    Proceeds start w' progress := by
  have registered (before : Registered start w) : Registered start w' :=
    fun identity there => before identity (does.of_mem_processes there)
  unfold Proceeds at proceeds ⊢
  split
  · trivial
  · trivial
  · intro stored watched
    rcases proceeds stored watched with finished | ⟨place, leave, from', below, here, same⟩
    · exact .inl fun unfinished => finished (does.unfinished unfinished)
    · obtain ⟨leave', here', same'⟩ := leaves place leave here
      exact .inr ⟨place, leave', from', below, here', same'.trans same⟩
  · exact Over.of_does proceeds does
  · exact ⟨proceeds.1.of_does does,
      fun identity there => proceeds.2.1 identity (does.of_mem_processes there), proceeds.2.2⟩
  · exact ⟨proceeds.1.of_does does, registered proceeds.2⟩
  · exact ⟨proceeds.1.of_does does, registered proceeds.2.1,
      fun stored there => proceeds.2.2.1 stored (does.rows there), proceeds.2.2.2⟩
  · exact ⟨proceeds.1.of_does does, registered proceeds.2.1,
      fun stored there => proceeds.2.2 stored (does.rows there)⟩

theorem Spared.of_does {identity : ClusterIdentity} (spared : Spared start w identity)
    (does : Does w.tables w'.tables unassigns unregisters) (not : ¬ unassigns identity)
    (not' : ¬ unregisters identity) (stays : ∀ leave ∈ w'.leaves, leave.identity ≠ identity) :
    Spared start w' identity := by
  refine ⟨?_, (does.stays identity not).trans spared.assignments, stays⟩
  rcases does.processes identity with same | ⟨gone, -⟩
  · exact same.trans spared.process
  · exact absurd gone not'

theorem Inv.become (inv : Inv start w) {index : Nat} {leave : Leave}
    (here : w.leaves[index]? = some leave) {next : Repositories × Leave}
    (moved : Moved w.tables leave next) : Inv start (w.become index next) := by
  have mine := mem_of_getElem? here
  have does : Does w.tables (w.become index next).tables _ _ := moved.does
  refine ⟨⟨inv.since.follows.become watched_runner here moved,
    instances_of_does inv.since.instances does, fun stored watched => ?_,
    fun identity listed isNode => ?_⟩, ?_⟩
  · by_cases removed : stored.targetIdentity = leave.identity ∧
        leave.departure = .removingProcess
    · right
      intro unfinished
      have tends := inv.since.follows.tends stored watched leave mine removed.1.symm
      unfold Tends at tends
      rw [removed.2] at tends
      exact tends (does.unfinished unfinished)
    · rcases inv.since.registered stored watched with there | finished
      · exact .inl (does.mem_processes there removed)
      · exact .inr fun unfinished => finished (does.unfinished unfinished)
  · have spared := inv.since.spared identity listed isNode
    have ne := spared.stays leave mine
    apply spared.of_does does
    · exact fun its => ne its.1.symm
    · exact fun its => ne its.1.symm
    · intro other there
      rcases mem_or_eq_of_mem_set there with before | rfl
      · exact spared.stays other before
      · rw [moved.identity]
        exact ne
  · obtain ⟨sync, isSync, same, proceeds⟩ := inv.sync
    refine ⟨sync, isSync, same, proceeds.of_does does fun place other found => ?_⟩
    show ∃ leave', (w.leaves.set index next.2)[place]? = some leave' ∧ _
    by_cases its : index = place
    · subst its
      rw [here] at found
      cases found
      refine ⟨next.2, ?_, moved.identity⟩
      exact List.getElem?_set_self (List.getElem?_eq_some_iff.mp here).1
    · rw [List.getElem?_set_ne its]
      exact ⟨other, found, rfl⟩

theorem Since.append (since : Since start w) (identities : List ClusterIdentity)
    (nodes : List ClusterIdentity) (sync : Option Sync) (fewer : nodes ⊆ w.nodes)
    (gone : ∀ identity ∈ identities, identity ∈ start.nodes → identity ∉ nodes) :
    Since start { w with
      nodes, sync
      leaves := w.leaves ++ identities.map fun identity => ⟨identity, .assignments⟩ } := by
  refine ⟨since.follows.append identities nodes sync, since.instances, since.registered,
    fun identity listed isNode => ?_⟩
  have spared := since.spared identity listed (fewer isNode)
  refine ⟨spared.process, spared.assignments, fun leave there => ?_⟩
  rcases mem_append.mp there with before | now
  · exact spared.stays leave before
  · obtain ⟨other, isGone, rfl⟩ := mem_map.mp now
    rintro rfl
    exact gone other isGone listed isNode

theorem Since.turn (since : Since start w) (sync : Option Sync) : Since start { w with sync } :=
  ⟨⟨since.follows.table, since.follows.tends⟩, since.instances, since.registered,
    fun identity listed isNode =>
      let spared := since.spared identity listed isNode
      ⟨spared.process, spared.assignments, spared.stays⟩⟩

variable {tables : Repositories}

def Outside (start : World) (unassigns unregisters : ClusterIdentity → Prop) : Prop :=
  ∀ identity ∈ start.nodes, ¬ unassigns identity ∧ ¬ unregisters identity

theorem Since.remove (since : Since start w) (finished : Over start w)
    (does : Does w.tables tables unassigns unregisters)
    (outside : Outside start unassigns unregisters)
    (sync : Option Sync) : Since start { w with tables, sync } := by
  have finished' : Over start { w with tables, sync } :=
    fun stored watched unfinished => finished stored watched (does.unfinished unfinished)
  refine ⟨⟨fun stored watched => .inr (finished' stored watched),
      fun stored watched leave there same =>
    (since.follows.tends stored watched leave there same).of_does does⟩,
    @instances_of_does start w { w with tables, sync } _ _ since.instances does,
    fun stored watched => .inr (finished' stored watched), fun identity listed isNode => ?_⟩
  have spared := since.spared identity listed isNode
  exact @Spared.of_does start w { w with tables, sync } _ _ identity spared does
    (outside identity listed).1 (outside identity listed).2 spared.stays

theorem Since.inv_turn (since : Since start w) (sync : Sync)
    (same : sync.identities = start.nodes) (proceeds : Proceeds start w sync.progress) :
    Inv start { w with sync := some sync } :=
  ⟨since.turn (some sync), sync, rfl, same,
    proceeds.of_does (.refl w.tables (fun _ => False) fun _ => False)
      fun _ leave here => ⟨leave, here, rfl⟩⟩

theorem Since.inv_fail (since : Since start w) (sync : Sync)
    (same : sync.identities = start.nodes) : Inv start (w.fail sync) :=
  since.inv_turn { sync with progress := .settled false } same trivial

theorem Since.inv_cleanDeadProcesses (since : Since start w) (finished : Over start w)
    (does : Does w.tables tables unassigns unregisters)
    (outside : Outside start unassigns unregisters)
    (sync : Sync) (same : sync.identities = start.nodes) (rest : List ClusterIdentity)
    (left : ∀ identity ∈ tables.processes.database, identity ∈ start.nodes ∨ identity ∈ rest)
    (gone : ∀ identity ∈ rest, identity ∉ start.nodes) :
    Inv start (w.follow (sync.cleanDeadProcesses tables rest)) := by
  have still (sync' : Option Sync) : Over start { w with tables, sync := sync' } :=
    fun stored watched unfinished => finished stored watched (does.unfinished unfinished)
  cases rest with
  | nil =>
    refine ⟨since.remove finished does outside _, _, rfl, same, still _, fun identity there => ?_⟩
    rcases left identity there with listed | none'
    · exact listed
    · cases none'
  | cons head rest =>
    have forgets := @does_forgetProcesses unassigns unregisters
      tables ((head :: rest).take 10)
    refine ⟨since.remove finished (does.trans forgets) outside _, _, rfl, same, ?_, ?_, gone⟩
    · exact fun stored watched unfinished =>
        finished stored watched ((does.trans forgets).unfinished unfinished)
    · exact fun identity there => left identity (forgets.of_mem_processes there)

theorem Since.inv_cleanDeadInstanceAssignment (since : Since start w) (finished : Over start w)
    (registered : Registered start w) (does : Does w.tables tables unassigns unregisters)
    (outside : Outside start unassigns unregisters)
    (sync : Sync) (same : sync.identities = start.nodes) (rest : List ClusterIdentity)
    (left : ∀ stored ∈ tables.assignments.database, stored.targetIdentity ∈ start.nodes ∨
      stored.targetIdentity ∈ rest)
    (gone : ∀ identity ∈ rest, identity ∉ start.nodes) :
    Inv start (w.follow (sync.cleanDeadInstanceAssignment tables rest)) := by
  have still (sync' : Option Sync) : Over start { w with tables, sync := sync' } :=
    fun stored watched unfinished => finished stored watched (does.unfinished unfinished)
  have still' (identity : ClusterIdentity) (there : identity ∈ tables.processes.database) :
      identity ∈ start.nodes := registered identity (does.of_mem_processes there)
  cases rest with
  | nil =>
    refine ⟨since.remove finished does outside _, _, rfl, same, still _, still',
      fun stored there => ?_⟩
    rcases left stored there with listed | none'
    · exact listed
    · cases none'
  | cons head rest =>
    have forgets := @does_forgetAssignments unassigns unregisters
      tables head
    refine ⟨since.remove finished (does.trans forgets) outside _, _, rfl, same, ?_, ?_, ?_, gone⟩
    · exact fun stored watched unfinished =>
        finished stored watched ((does.trans forgets).unfinished unfinished)
    · exact fun identity there => still' identity (forgets.of_mem_processes there)
    · exact fun stored there => left stored (forgets.rows there)

theorem mem_deadProcesses (t : Repositories) (nodes : List ClusterIdentity)
    (identity : ClusterIdentity) :
    identity ∈ t.deadProcesses nodes ↔ identity ∈ t.processes.database ∧ identity ∉ nodes := by
  unfold Repositories.deadProcesses
  rw [mem_filter, decide_eq_true_iff]
  exact Iff.rfl

theorem mem_departures {first past place : Nat} {leave : Leave} (from' : first ≤ place)
    (below : place < past) (here : w.leaves[place]? = some leave) :
    leave ∈ w.departures first past := by
  unfold departures
  rw [mem_iff_getElem?]
  refine ⟨place - first, ?_⟩
  rw [List.getElem?_take_of_lt (by omega), List.getElem?_drop]
  rw [show first + (place - first) = place by omega]
  exact here

theorem inv_answerSync (inv : Inv start w) (sync : Sync) (reply : AssignmentReply)
    (here : w.sync = some sync) : Inv start (w.answerSync sync reply) := by
  obtain ⟨sync', here', same, proceeds⟩ := inv.sync
  rw [here] at here'
  cases here'
  have since := inv.since
  have nothing : Outside start (fun _ => False) fun _ => False := fun _ _ => ⟨id, id⟩
  have failing {tables : Repositories} {unassigns unregisters : ClusterIdentity → Prop}
      (finished : Over start w) (does : Does w.tables tables unassigns unregisters)
      (outside : Outside start unassigns unregisters) :
      Inv start { w.fail sync with tables } :=
    ⟨since.remove finished does outside _, _, rfl, same, trivial⟩
  unfold answerSync
  dsimp only
  split
  · split
    · rw [same]
      refine ⟨since.append _ w.nodes _ (List.Subset.refl _) ?_, _, rfl, rfl, ?_⟩
      · intro identity dead listed
        exact absurd listed ((mem_deadProcesses _ _ _).mp dead).2
      · intro stored watched
        rcases since.registered stored watched with there | finished
        · right
          have dead : stored.targetIdentity ∈ w.tables.deadProcesses start.nodes :=
            (mem_deadProcesses _ _ _).mpr ⟨there, watched.2.1.2⟩
          obtain ⟨place, found⟩ := mem_iff_getElem?.mp dead
          have below := (List.getElem?_eq_some_iff.mp found).1
          refine ⟨w.leaves.length + place, ⟨stored.targetIdentity, .assignments⟩, ?_, ?_, ?_, rfl⟩
          · omega
          · omega
          · dsimp only
            rw [List.getElem?_append_right (by omega), Nat.add_sub_cancel_left, List.getElem?_map,
              found]
            rfl
        · exact .inl finished
    · exact since.inv_fail sync same
  · next first past progress =>
    split
    · exact since.inv_fail sync same
    · split
      · next all =>
        apply since.inv_turn { sync with progress := .selectingProcesses } same
        intro stored watched
        rw [progress] at proceeds
        rcases proceeds stored watched with finished | ⟨place, leave, from', below, found, its⟩
        · exact finished
        · have listed := mem_departures from' below found
          have settled := of_decide_eq_true (all_eq_true.mp all leave listed)
          have tends := since.follows.tends stored watched leave (mem_of_getElem? found) its
          unfold Tends at tends
          rw [settled] at tends
          exact tends
      · exact inv
  · next progress =>
    rw [progress] at proceeds
    split
    · apply since.inv_cleanDeadProcesses proceeds (.refl w.tables _ _) nothing sync same
      · intro identity there
        rw [same, mem_deadProcesses]
        by_cases listed : identity ∈ start.nodes
        · exact .inl listed
        · exact .inr ⟨there, listed⟩
      · intro identity dead
        rw [same, mem_deadProcesses] at dead
        exact dead.2
    · exact since.inv_fail sync same
  · next rest progress =>
    rw [progress] at proceeds
    obtain ⟨finished, left, gone⟩ := proceeds
    have outside : Outside start (fun _ => False) (· ∈ rest.take 10) :=
      fun identity listed => ⟨id, fun there => gone identity (mem_of_mem_take there) listed⟩
    have removes : Does w.tables
        (if reply.executed then w.tables.removeProcesses (rest.take 10) else w.tables)
        (fun _ => False) fun identity => identity ∈ rest.take 10 := by
      split
      · exact does_removeProcesses _ _ fun _ => id
      · exact .refl _ _ _
    split
    · next done =>
      apply since.inv_cleanDeadProcesses finished removes outside sync same
      · subst done
        intro identity there
        have present : identity ∈ w.tables.processes.database ∧ identity ∉ rest.take 10 := by
          refine ⟨removes.of_mem_processes there, fun removed => ?_⟩
          have there' : identity ∈
              (w.tables.removeProcesses (rest.take 10)).processes.database := there
          rw [← AList.lookup_isSome, lookup_removeProcesses, if_pos removed] at there'
          cases there'
        refine (left identity present.1).imp_right fun inRest => ?_
        rw [← take_append_drop 10 rest] at inRest
        exact (mem_append.mp inRest).resolve_left present.2
      · exact fun identity there => gone identity (mem_of_mem_drop there)
    · exact failing finished removes outside
  · next progress =>
    rw [progress] at proceeds
    split
    · apply since.inv_cleanDeadInstanceAssignment proceeds.1 proceeds.2 (.refl w.tables _ _) nothing
        sync same
      · intro stored there
        by_cases listed : stored.targetIdentity ∈ start.nodes
        · exact .inl listed
        · refine .inr (mem_map_of_mem (mem_filter.mpr ⟨there, ?_⟩))
          rw [same]
          exact decide_eq_true listed
      · intro identity dead
        obtain ⟨stored, there, rfl⟩ := mem_map.mp dead
        rw [same] at there
        exact of_decide_eq_true (mem_filter.mp there).2
    · exact since.inv_fail sync same
  · next rest progress =>
    rw [progress] at proceeds
    obtain ⟨finished, registered, left, gone⟩ := proceeds
    cases rest with
    | nil =>
      dsimp only [List.head?_nil]
      split
      · apply since.inv_cleanDeadInstanceAssignment finished registered (.refl w.tables _ _) nothing
          sync same
        · exact left
        · exact gone
      · exact failing finished (.refl w.tables _ _) nothing
    | cons head rest =>
      have outside : Outside start (· = head) fun _ => False :=
        fun identity listed => ⟨fun its => gone head mem_cons_self (its ▸ listed), id⟩
      have removes : Does w.tables
          (if reply.executed then w.tables.removeAssignments head else w.tables)
          (fun identity => identity = head) fun _ => False := by
        split
        · exact does_removeAssignments _ _ rfl
        · exact .refl _ _ _
      dsimp only [List.head?_cons, tail_cons]
      split
      · next done =>
        apply since.inv_cleanDeadInstanceAssignment finished registered removes outside sync same
        · subst done
          intro stored there
          have present : stored ∈ w.tables.assignments.database ∧
              stored.targetIdentity ≠ head := by
            refine ⟨removes.rows there, ?_⟩
            exact of_decide_eq_true (mem_filter.mp there).2
          refine (left stored present.1).imp_right fun inRest => ?_
          exact (mem_cons.mp inRest).resolve_left present.2
        · exact fun identity there => gone identity (mem_cons_of_mem _ there)
      · exact failing finished removes outside
  · exact inv

theorem inv_step (start w : World) (action : Action) (inv : Inv start w) :
    Inv start (w.step action) := by
  cases action with
  | nodeLeaved identity =>
    unfold step
    dsimp only
    split
    · obtain ⟨sync, here, same, proceeds⟩ := inv.sync
      refine ⟨inv.since.append [identity] _ _ (filter_subset_self ..) ?_, sync, here, same, ?_⟩
      · intro other its _ there
        cases mem_singleton.mp its
        simp at there
      · refine @Proceeds.of_does start w _ (fun _ => False) (fun _ => False) _ proceeds
          (.refl w.tables _ _) ?_
        intro place leave found
        refine ⟨leave, ?_, rfl⟩
        dsimp only
        rw [List.getElem?_append_left (List.getElem?_eq_some_iff.mp found).1, found]
    · exact inv
  | syncDatabase =>
    obtain ⟨sync, here, -⟩ := inv.sync
    unfold step
    simp only [here]
    exact inv
  | leave index reply =>
    unfold step
    dsimp only
    split
    · exact inv
    · next leave here => exact inv.become here (moved_reply w.tables leave reply)
  | abort index place reply =>
    unfold step
    dsimp only
    split
    · exact inv
    · next leave here => exact inv.become here (moved_abort w.tables leave place reply)
  | sync reply =>
    unfold step
    dsimp only
    split
    · exact inv
    · next sync here => exact inv_answerSync inv sync reply here

end Since

/-- The synchronisation begins where every unfinished instance can be found by the record of a
process. -/
def Permitted (w : World) : Action → Prop
  | .syncDatabase => w.sync = none → w.Recorded
  | _ => True

instance (w : World) : DecidablePred w.Permitted
  | .syncDatabase => inferInstanceAs (Decidable (w.sync = none → w.Recorded))
  | .nodeLeaved _ | .leave _ _ | .abort _ _ _ | .sync _ => isTrue trivial

theorem inv_syncDatabase (w : World) (idle : w.sync = none)
    (prepares : ∀ stored ∈ w.tables.assignments.database,
      stored.targetIdentity.type = typeGameRunner2 → ∀ leave ∈ w.leaves,
        leave.identity = stored.targetIdentity → Tends w.tables stored leave)
    (left : ∀ leave ∈ w.leaves, leave.identity ∉ w.nodes) : Inv w (w.step .syncDatabase) := by
  unfold step
  simp only [idle]
  refine ⟨⟨⟨fun stored watched => .inl watched.1, fun stored watched leave there same =>
    prepares stored watched.1 watched.2.1.1 leave there same⟩, fun _ => .inl rfl,
    fun stored watched => .inl watched.2.2, fun identity listed _ => ⟨rfl, rfl, ?_⟩⟩,
    _, rfl, rfl, trivial⟩
  rintro leave there rfl
  exact left leave there listed

/-- Whenever a synchronisation has completed that began where the unfinished instances of lost
game runners are assigned to one with a record, it has cleaned the tables. -/
theorem cleaned_of_permitted (tables : Repositories) (nodes : List ClusterIdentity)
    (front back : List Action)
    (run : Run.Allowed step Permitted (new tables nodes) (front ++ .syncDatabase :: back)) :
    let start := Run.final step (new tables nodes) front
    let w := Run.final step (start.step .syncDatabase) back
    start.sync = none → (∃ sync ∈ w.sync, sync.progress = .settled true) → Cleaned start w := by
  intro start w idle completed
  obtain ⟨-, recorded, -⟩ := (Run.allowed_append (new tables nodes) front _).mp run
  have recorded : start.Recorded := recorded idle
  -- the departures that are in progress tend to all the assignments that there are
  let watched : StoredAssignment → Prop := fun stored =>
    stored ∈ tables.assignments.database ∧ stored.targetIdentity.type = typeGameRunner2
  have prepared : start.sync = none →
      start.tables.assignments.database ⊆ tables.assignments.database ∧
        start.Prepares watched := by
    apply @Run.stable _ _ step (fun w => w.sync = none →
      w.tables.assignments.database ⊆ tables.assignments.database ∧ w.Prepares watched)
    · intro w action prepares still
      obtain ⟨fewer, prepares⟩ := prepares (idle_of_step w action still)
      obtain ⟨fewer', prepares'⟩ := prepares_step (fun _ its => its.2) w action prepares still
      exact ⟨List.Subset.trans fewer' fewer, prepares'⟩
    · refine fun _ => ⟨List.Subset.refl _, ⟨fun stored its => .inl its.1, ?_⟩, ?_⟩
      · intro stored _ leave there
        cases there
      · intro leave there
        cases there
  obtain ⟨fewer, prepares⟩ := prepared idle
  have began : Inv start (start.step .syncDatabase) := by
    apply inv_syncDatabase start idle _ prepares.left
    exact fun stored there runner => prepares.follows.tends stored ⟨fewer there, runner⟩
  have inv : Inv start w :=
    Run.stable (fun w action => inv_step start w action) (start.step .syncDatabase) back began
  obtain ⟨sync, here, -, proceeds⟩ := inv.sync
  obtain ⟨sync', here', settled⟩ := completed
  rw [here] at here'
  cases here'
  rw [settled] at proceeds
  obtain ⟨finished, registered, assigned⟩ := proceeds
  refine ⟨registered, assigned, fun stored there lost unfinished => ?_, fun identity listed stays =>
    ⟨(inv.since.spared identity listed stays).process,
      (inv.since.spared identity listed stays).assignments⟩⟩
  obtain ⟨other, there', lost', same, record⟩ := recorded stored there lost unfinished
  have ended := finished other ⟨there', lost', record⟩
  rw [same] at ended
  rcases inv.since.instances stored.instanceId with unchanged | ⟨-, error⟩
  · apply absurd _ ended
    obtain ⟨status, isStatus, begun⟩ := unfinished
    exact ⟨status, by rw [unchanged]; exact isStatus, begun⟩
  · exact error

def runner (czxid : Nat) : ClusterIdentity := ⟨"runner.local", typeGameRunner2, "gr1", czxid⟩

def assigned (czxid : Nat) (instanceId : String) (id : Nat) : StoredAssignment :=
  ⟨⟨runner czxid, instanceId, 30⟩, id⟩

/-- Instance 1 runs on the game runner that has gone, and instance 2 on the one that there is. -/
def sampleTables (processes : Processes) : Repositories :=
  ⟨⟨[assigned 7 "1" 1, assigned 8 "2" 2], 3, fun _ => none⟩, ⟨processes, ∅, false⟩,
    Function.update (Function.update (fun _ => none) "1" (some .running)) "2" (some .running)⟩

def recorded : List Action :=
  [.sync .done, .leave 0 .done, .abort 0 0 .done, .leave 0 .done, .leave 0 .done, .sync .done,
    .sync .done, .sync .done]

theorem cleaned_of_permitted_recorded :
    let start := new (sampleTables ((∅ : Processes).insert (runner 7) ⟨8000, none⟩)) [runner 8]
    Cleaned start (Run.final step (start.step .syncDatabase) recorded) := by
  intro start
  refine cleaned_of_permitted (sampleTables ((∅ : Processes).insert (runner 7) ⟨8000, none⟩))
    [runner 8] [] recorded (by decide +kernel) rfl ?_
  decide +kernel

def unrecorded : List Action :=
  [.sync .done, .sync .done, .sync .done, .sync .done, .sync .done]

/-- The assignment is removed, and the instance stays in the running state. -/
theorem unrecorded_uncleaned :
    ¬ ∀ (tables : Repositories) (nodes : List ClusterIdentity) (front back : List Action),
      let start := Run.final step (new tables nodes) front
      let w := Run.final step (start.step .syncDatabase) back
      start.sync = none → (∃ sync ∈ w.sync, sync.progress = .settled true) → Cleaned start w := by
  intro claimed
  have cleaned := claimed (sampleTables ∅) [runner 8] [] unrecorded rfl (by decide +kernel)
  have error := cleaned.errors (assigned 7 "1" 1) (by decide +kernel) (by decide +kernel)
    (by decide +kernel)
  revert error
  decide +kernel

end World

end AkashicSystem.ClusterMaster.ProcessMonitor
