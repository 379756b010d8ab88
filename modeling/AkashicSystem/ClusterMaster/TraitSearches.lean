import AkashicSystem.ClusterMaster.RunnerCapacity
import AkashicSystem.Lib.Sorted
import Mathlib.Data.List.Dedup

/-!
# Searches for processes

`DefaultSearcher.search` over a table of processes.  Traits are compared by the
length of the lists and by the inclusion of the required ones, which is not the
equality of the sets where a trait is repeated.
-/

set_option autoImplicit false

namespace AkashicSystem.ClusterMaster

open List

/-- What `getAll` of the process repository answers: one process of each identity. -/
structure ProcessTable where
  processes : List Process
  distinct : (processes.map Process.clusterIdentity).Nodup

namespace DefaultSearcher

variable (excluded : List ExcludedProcess) (requirement : Requirement)
  (assigned : ClusterIdentity → Int)

/-- `search`; `assigned` is what `getAssignmentStatus` answers. -/
def search (table : ProcessTable) : List SearchResult :=
  sorted (table.processes.filterMap fun process =>
    if suits excluded requirement process then
      result requirement process (assigned process.clusterIdentity) else none)

variable (process : Process)

def score : ℚ :=
  process.machineValues.getCapacity - assigned process.clusterIdentity - requirement.cost

def Excluded : Prop :=
  ∃ e ∈ excluded, process.clusterIdentity.fqdn = e.fqdn ∧ process.clusterIdentity.type = e.type ∧
    process.clusterIdentity.name = e.name

/-- The traits are the same set, or are both absent. -/
def SameTraits : Option (List String) → Option (List String) → Prop
  | none, none => True
  | some required, some traits => ∀ trait, trait ∈ required ↔ trait ∈ traits
  | _, _ => False

structure Wanted (process : Process) : Prop where
  included : ¬ Excluded excluded process
  video : process.machineValues.getVideoEnabled = requirement.video
  traits : SameTraits requirement.trait process.machineValues.getTrait
  room : 0 ≤ score requirement assigned process

/-- The results are those of the wanted processes, each once, in descending order. -/
structure Finds (table : ProcessTable) (results : List SearchResult) : Prop where
  wanted : ∀ process ∈ table.processes,
    (⟨process.clusterIdentity, process.port, score requirement assigned process⟩ ∈ results ↔
      Wanted excluded requirement assigned process)
  known : ∀ found ∈ results, ∃ process ∈ table.processes,
    found = ⟨process.clusterIdentity, process.port, score requirement assigned process⟩
  once : (results.map SearchResult.clusterIdentity).Nodup
  descending : results.Pairwise fun a b => b.score ≤ a.score

/-- Where the required traits are among those of the process, the lists are as long as each
other exactly if they have as many different traits. -/
def RepeatsAlike : Prop :=
  ∀ required traits, requirement.trait = some required →
    process.machineValues.getTrait = some traits → required ⊆ traits →
      (required.length = traits.length ↔ required.dedup.length = traits.dedup.length)

variable {excluded requirement assigned}

theorem traitMatches_iff (required traits : Option (List String)) :
    traitMatches required traits = true ↔
      (required = none ∧ traits = none) ∨ ∃ r t, required = some r ∧ traits = some t ∧
        r.length = t.length ∧ r ⊆ t := by
  cases required with
  | none => simp [traitMatches]
  | some r =>
    cases traits with
    | none => simp [traitMatches]
    | some t => simp [traitMatches, subset_def]

theorem sameTraits_iff (required traits : Option (List String)) : SameTraits required traits ↔
      (required = none ∧ traits = none) ∨ ∃ r t, required = some r ∧ traits = some t ∧
        r.dedup.length = t.dedup.length ∧ r ⊆ t := by
  cases required with
  | none => cases traits <;> simp [SameTraits]
  | some r =>
    cases traits with
    | none => simp [SameTraits]
    | some t =>
      simp only [SameTraits, reduceCtorEq, false_and, Option.some.injEq, false_or]
      constructor
      · intro same
        have perm : r.dedup.Perm t.dedup := by
          refine (perm_ext_iff_of_nodup r.nodup_dedup t.nodup_dedup).mpr ?_
          simpa using same
        exact ⟨r, t, rfl, rfl, perm.length_eq, fun trait there => (same trait).mp there⟩
      · rintro ⟨r, t, rfl, rfl, counts, among⟩ trait
        refine ⟨fun there => among there, fun there => ?_⟩
        have sub : r.dedup.Subperm t.dedup := by
          refine subperm_of_subset r.nodup_dedup fun trait there => ?_
          exact mem_dedup.mpr (among (mem_dedup.mp there))
        have perm := sub.perm_of_length_le (le_of_eq counts.symm)
        exact mem_dedup.mp (perm.mem_iff.mpr (mem_dedup.mpr there))

/-- The two comparisons of the traits differ where the repeats do. -/
theorem matches_iff_same (process : Process) :
    (traitMatches requirement.trait process.machineValues.getTrait = true ↔
      SameTraits requirement.trait process.machineValues.getTrait) ↔
        RepeatsAlike requirement process := by
  rw [traitMatches_iff, sameTraits_iff]
  unfold RepeatsAlike
  constructor
  · intro same required traits isRequired areTraits among
    rw [isRequired, areTraits] at same
    simpa [among] using same
  · intro alike
    cases isRequired : requirement.trait with
    | none => simp
    | some required =>
      cases areTraits : process.machineValues.getTrait with
      | none => simp
      | some traits =>
        by_cases among : required ⊆ traits
        · have counts := alike required traits isRequired areTraits among
          simpa [among] using counts
        · simp [among]

theorem suits_iff (process : Process) :
    suits excluded requirement process = true ↔ ¬ Excluded excluded process ∧
      process.machineValues.getVideoEnabled = requirement.video ∧
        traitMatches requirement.trait process.machineValues.getTrait = true := by
  unfold suits Excluded
  simp only [Bool.and_eq_true, Bool.not_eq_true', any_eq_false, decide_eq_true_eq, beq_iff_eq,
    not_exists, not_and, and_assoc]
  exact ⟨fun ⟨included, video, traits⟩ => ⟨included, video.symm, traits⟩,
    fun ⟨included, video, traits⟩ => ⟨included, video.symm, traits⟩⟩

theorem pushed_iff (process : Process) (found : SearchResult) :
    (if suits excluded requirement process then
        result requirement process (assigned process.clusterIdentity) else none) = some found ↔
      suits excluded requirement process = true ∧ 0 ≤ score requirement assigned process ∧
        found = ⟨process.clusterIdentity, process.port, score requirement assigned process⟩ := by
  by_cases suited : suits excluded requirement process = true
  · rw [if_pos suited]
    unfold result
    dsimp only
    change (if score requirement assigned process < 0 then none
      else some (SearchResult.mk _ _ (score requirement assigned process))) = _ ↔ _
    by_cases full : score requirement assigned process < 0
    · rw [if_pos full]
      constructor
      · intro pushed
        cases pushed
      · rintro ⟨-, room, -⟩
        exact absurd full (not_lt.mpr room)
    · rw [if_neg full, Option.some.injEq]
      exact ⟨fun same => ⟨suited, not_lt.mp full, same.symm⟩, fun pushed => pushed.2.2.symm⟩
  · rw [if_neg suited]
    exact ⟨fun pushed => (by cases pushed), fun pushed => absurd pushed.1 suited⟩

variable (table : ProcessTable)

theorem mem_search (found : SearchResult) :
    found ∈ search excluded requirement assigned table ↔ ∃ process ∈ table.processes,
      suits excluded requirement process = true ∧ 0 ≤ score requirement assigned process ∧
        found = ⟨process.clusterIdentity, process.port, score requirement assigned process⟩ := by
  rw [search, sorted, mem_insertionSort, mem_filterMap]
  exact exists_congr fun process => and_congr_right fun _ => pushed_iff process found

theorem nodup_search :
    ((search excluded requirement assigned table).map SearchResult.clusterIdentity).Nodup := by
  have perm := perm_insertionSort (fun a b : SearchResult => b.score ≤ a.score)
    (table.processes.filterMap fun process => if suits excluded requirement process then
      result requirement process (assigned process.clusterIdentity) else none)
  rw [search, sorted, (perm.map SearchResult.clusterIdentity).nodup_iff]
  refine Nodup.sublist ?_ table.distinct
  generalize table.processes = processes
  induction processes with
  | nil => exact Sublist.refl _
  | cons process rest ih =>
    rw [filterMap_cons, map_cons]
    cases pushed : (if suits excluded requirement process then
        result requirement process (assigned process.clusterIdentity) else none) with
    | none => exact ih.cons process.clusterIdentity
    | some found =>
      obtain ⟨-, -, rfl⟩ := (pushed_iff process found).mp pushed
      exact ih.cons_cons process.clusterIdentity

theorem descending_search :
    (search excluded requirement assigned table).Pairwise fun a b => b.score ≤ a.score :=
  Sorted.pairwise_insertionSort (r := fun a b : SearchResult => b.score ≤ a.score)
    (fun a b => le_total b.score a.score) (fun _ _ _ le le' => le_trans le' le) _

/-- The search finds what is wanted exactly if the traits of every process with room repeat as
the required ones do. -/
theorem finds_search_iff :
    Finds excluded requirement assigned table (search excluded requirement assigned table) ↔
      ∀ process ∈ table.processes, ¬ Excluded excluded process →
        process.machineValues.getVideoEnabled = requirement.video →
          0 ≤ score requirement assigned process → RepeatsAlike requirement process := by
  -- a process is found by its own entry, since no other has its identity
  have found : ∀ process ∈ table.processes,
      (⟨process.clusterIdentity, process.port, score requirement assigned process⟩ ∈
          search excluded requirement assigned table ↔
        suits excluded requirement process = true ∧
          0 ≤ score requirement assigned process) := by
    intro process there
    rw [mem_search]
    constructor
    · rintro ⟨other, there', suited, room, same⟩
      have identity := congrArg SearchResult.clusterIdentity same
      obtain rfl := inj_on_of_nodup_map table.distinct there there' identity
      exact ⟨suited, room⟩
    · rintro ⟨suited, room⟩
      exact ⟨process, there, suited, room, rfl⟩
  constructor
  · intro finds process there included video room
    have wanted := (found process there).symm.trans (finds.wanted process there)
    rw [suits_iff] at wanted
    apply (matches_iff_same process).mp
    constructor
    · intro fits
      exact (wanted.mp ⟨⟨included, video, fits⟩, room⟩).traits
    · intro same
      exact (wanted.mpr ⟨included, video, same, room⟩).1.2.2
  · intro alike
    refine ⟨fun process there => ?_, fun result there => ?_, nodup_search table,
      descending_search table⟩
    · rw [found process there, suits_iff]
      constructor
      · rintro ⟨⟨included, video, fits⟩, room⟩
        have same := (matches_iff_same process).mpr (alike process there included video room)
        exact ⟨included, video, same.mp fits, room⟩
      · rintro ⟨included, video, same, room⟩
        have fits := (matches_iff_same process).mpr (alike process there included video room)
        exact ⟨⟨included, video, fits.mpr same⟩, room⟩
    · obtain ⟨process, there, -, -, same⟩ := (mem_search table result).mp there
      exact ⟨process, there, same⟩

def twoTraits : Process :=
  ⟨⟨"fqdn", "type", "name", 1⟩, 80, ⟨none, none, some (.array ["a", "b"])⟩⟩

/-- One of them is required twice, and the process is found. -/
theorem repeated_trait_found :
    let table : ProcessTable := ⟨[twoTraits], nodup_singleton _⟩
    ¬ Finds [] ⟨1, false, some ["a", "a"]⟩ (fun _ => 0) table
      (search [] ⟨1, false, some ["a", "a"]⟩ (fun _ => 0) table) := by
  intro table finds
  have there : twoTraits ∈ table.processes := mem_singleton.mpr rfl
  have listed := finds.wanted twoTraits there
  rw [mem_search] at listed
  have wanted := listed.mp ⟨twoTraits, there, by decide, by decide +kernel, rfl⟩
  have same := wanted.traits "b"
  exact absurd (same.mpr (by decide)) (by decide)

end DefaultSearcher
end AkashicSystem.ClusterMaster
