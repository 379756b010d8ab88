import Mathlib.Data.List.Nodup
import AkashicSystem.Dispatching.Dispatcher

/-!
# The candidates of a dispatch

The processes of the play come first, in the order of the reply, then the others with a capacity.
A process that the reply of the capacities lacks is not taken for one without capacity.
-/

set_option autoImplicit false

namespace AkashicSystem.Dispatching
namespace Candidates

open List

theorem shuffleFrom_perm (random : Nat → Nat) (array : Array Process) (i : Nat) :
    (shuffleFrom random array i).toList.Perm array.toList := by
  induction i generalizing array with
  | zero => exact Perm.refl _
  | succ i ih =>
    rw [shuffleFrom]
    refine (ih _).trans ?_
    unfold Array.swapIfInBounds
    split
    · split
      · exact (Array.swap_perm _ _).toList
      · exact Perm.refl _
    · exact Perm.refl _

theorem shuffleProcesses_perm (random : Nat → Nat) (list : List Process) :
    (shuffleProcesses random list).Perm list :=
  shuffleFrom_perm random list.toArray _

section
variable (processes : List String) (capacities : List (String × Int)) (alive : List Process)
  (excluded : List String)

/-- The candidates before they are shuffled. -/
def unshuffled : List Process :=
  removeExcludeProcesses (pickAliveProcesses (orderedProcesses processes capacities) alive) excluded

/-- The processes of the play, then the others. -/
def order : List String :=
  processes ++ (removeDuplicateCapacities capacities processes).map Prod.fst

/-- `candidates` are the alive processes that are not excluded and have a capacity, each once and in
order, but for the first `shuffleProcessCount`. -/
def Lists (shuffleProcessCount : Nat) (candidates : List Process) : Prop :=
  ∃ list : List Process, (list.map Process.id).Sublist (order processes capacities) ∧
    (list.map Process.id).Nodup ∧
    (∀ process, process ∈ list ↔ process ∈ alive ∧ process.id ∉ excluded ∧
      ∃ capacity, (process.id, capacity) ∈ capacities ∧ 1 ≤ capacity) ∧
    ∃ front, front.Perm (list.take shuffleProcessCount) ∧
      candidates = front ++ list.drop shuffleProcessCount

/-- The reply has a capacity for each process of the play, and one that is not too small for the
process whose id is empty. -/
def Permitted : Prop :=
  ∀ process ∈ alive, process.id ∉ excluded →
    (process.id ∈ processes → process.id ∈ capacities.map Prod.fst) ∧
      (process.id = "" → ∀ capacity, (process.id, capacity) ∈ capacities → 1 ≤ capacity)

variable {processes capacities alive excluded}

theorem mem_unshuffled (process : Process) :
    process ∈ unshuffled processes capacities alive excluded ↔
      process ∈ alive ∧ process.id ∉ excluded ∧ process.id ∈ order processes capacities ∧
        (process.id = "" ∨ ∀ capacity, (process.id, capacity) ∈ capacities → 1 ≤ capacity) := by
  simp only [unshuffled, removeExcludeProcesses, pickAliveProcesses, orderedProcesses,
    removeZeroCapacityProcesses, order, mem_filter, mem_flatMap, mem_map,
    decide_eq_true_eq, Prod.exists, exists_and_right, exists_eq_right, not_exists, not_and]
  constructor
  · rintro ⟨⟨_, ⟨listed, kept⟩, there, rfl⟩, notExcluded⟩
    exact ⟨there, notExcluded, listed, kept.imp id fun none_ capacity has =>
      Int.not_lt.mp (none_ capacity has)⟩
  · rintro ⟨there, notExcluded, listed, kept⟩
    exact ⟨⟨process.id, ⟨listed, kept.imp id fun all capacity has =>
      Int.not_lt.mpr (all capacity has)⟩,
      there, rfl⟩, notExcluded⟩

theorem mem_order (id : String) :
    id ∈ order processes capacities ↔ id ∈ processes ∨ id ∈ capacities.map Prod.fst := by
  simp only [order, removeDuplicateCapacities, mem_append, mem_map, mem_filter,
    decide_eq_true_eq]
  constructor
  · rintro (play | ⟨capacity, ⟨has, -⟩, is⟩)
    · exact .inl play
    · exact .inr ⟨capacity, has, is⟩
  · rintro (play | ⟨capacity, has, rfl⟩)
    · exact .inl play
    · exact (Classical.em (capacity.1 ∈ processes)).imp id fun other =>
      ⟨capacity, ⟨has, other⟩, rfl⟩

theorem nodup_order (own : processes.Nodup) (others : (capacities.map Prod.fst).Nodup) :
    (order processes capacities).Nodup := by
  refine Nodup.append own (others.sublist (filter_sublist.map _)) ?_
  intro id play other
  obtain ⟨capacity, has, rfl⟩ := mem_map.mp other
  exact of_decide_eq_true (mem_filter.mp has).2 play

theorem pickAliveProcesses_sublist (unique : (alive.map Process.id).Nodup) (ids : List String) :
    ((pickAliveProcesses ids alive).map Process.id).Sublist ids := by
  induction ids with
  | nil => exact Sublist.refl _
  | cons id rest ih =>
    have found : ((alive.filter fun process => process.id = id).map Process.id).Sublist [id] := by
      have same : (alive.filter fun process => process.id = id).map Process.id =
          (alive.map Process.id).filter (· = id) := by
        rw [filter_map]
        rfl
      rw [same, filter_eq]
      have once : (alive.map Process.id).count id ≤ 1 := nodup_iff_count_le_one.mp unique id
      exact (replicate_sublist_replicate id).mpr once
    simpa [pickAliveProcesses] using found.append ih

theorem unshuffled_sublist (unique : (alive.map Process.id).Nodup) :
    ((unshuffled processes capacities alive excluded).map Process.id).Sublist
      (order processes capacities) :=
  (filter_sublist.map _).trans
    ((pickAliveProcesses_sublist unique _).trans filter_sublist)

/-- The candidates are the processes that can take a client, exactly if no process of the play lacks
a capacity in the reply. -/
theorem lists_iff (shuffleProcessCount : Nat) (random : Nat → Nat) (own : processes.Nodup)
    (others : (capacities.map Prod.fst).Nodup) (unique : (alive.map Process.id).Nodup) :
    Lists processes capacities alive excluded shuffleProcessCount
        (shuffledCandidates shuffleProcessCount random
          (unshuffled processes capacities alive excluded)) ↔
      Permitted processes capacities alive excluded := by
  have shuffled := shuffleProcesses_perm random
    ((unshuffled processes capacities alive excluded).take shuffleProcessCount)
  constructor
  · rintro ⟨list, -, -, mem_list, front, front_perm, is⟩ process there notExcluded
    have all : (unshuffled processes capacities alive excluded).Perm list := by
      have before := shuffled.append_right
        ((unshuffled processes capacities alive excluded).drop shuffleProcessCount)
      have after := front_perm.append_right (list.drop shuffleProcessCount)
      rw [take_append_drop] at before after
      exact before.symm.trans ((Perm.of_eq is).trans after)
    have capable (listed : process.id ∈ order processes capacities)
        (kept : process.id = "" ∨
          ∀ capacity, (process.id, capacity) ∈ capacities → 1 ≤ capacity) :=
      ((mem_list process).mp (all.mem_iff.mp
        ((mem_unshuffled process).mpr ⟨there, notExcluded, listed, kept⟩))).2.2
    constructor
    · intro play
      by_contra lacks
      obtain ⟨capacity, has, -⟩ := capable ((mem_order _).mpr (.inl play)) (.inr fun capacity has =>
        absurd (mem_map.mpr ⟨_, has, rfl⟩) lacks)
      exact lacks (mem_map.mpr ⟨_, has, rfl⟩)
    · intro empty capacity has
      obtain ⟨capacity', has', enough⟩ := capable
        ((mem_order _).mpr (.inr (mem_map.mpr ⟨_, has, rfl⟩))) (.inl empty)
      have same := inj_on_of_nodup_map others has has' rfl
      rw [(Prod.mk.inj same).2]
      exact enough
  · intro permitted
    refine ⟨unshuffled processes capacities alive excluded, unshuffled_sublist unique,
      (nodup_order own others).sublist (unshuffled_sublist unique), fun process => ?_,
      _, shuffled, rfl⟩
    rw [mem_unshuffled]
    constructor
    · rintro ⟨there, notExcluded, listed, kept⟩
      obtain ⟨play, empty⟩ := permitted process there notExcluded
      obtain ⟨⟨id, capacity⟩, has, rfl⟩ :=
        mem_map.mp (((mem_order _).mp listed).elim play id)
      exact ⟨there, notExcluded, capacity, has,
        kept.elim (fun isEmpty => empty isEmpty capacity has) fun all => all capacity has⟩
    · rintro ⟨there, notExcluded, capacity, has, enough⟩
      refine ⟨there, notExcluded, (mem_order _).mpr (.inr (mem_map.mpr ⟨_, has, rfl⟩)),
        .inr fun capacity' has' => ?_⟩
      have same := inj_on_of_nodup_map others has has' rfl
      rw [← (Prod.mk.inj same).2]
      exact enough

end

theorem lists_iff_lone : Lists ["p"] [("p", 1)] [⟨"p", none⟩] [] 1
      (shuffledCandidates 1 id (unshuffled ["p"] [("p", 1)] [⟨"p", none⟩] [])) ↔
    Permitted ["p"] [("p", 1)] [⟨"p", none⟩] [] :=
  lists_iff 1 id (by decide) (by decide) (by decide)

/-- A process of the play whose capacity has fallen below zero. -/
theorem overdrawn_listed : ¬ Lists ["p"] [] [⟨"p", none⟩] [] 1
    (shuffledCandidates 1 id (unshuffled ["p"] [] [⟨"p", none⟩] [])) := by
  rintro ⟨list, -, -, mem_list, front, front_perm, is⟩
  have empty : list = [] := eq_nil_iff_forall_not_mem.mpr fun process there => by
    obtain ⟨-, -, capacity, has, -⟩ := (mem_list process).mp there
    cases has
  rw [empty] at front_perm is
  rw [front_perm.eq_nil] at is
  exact absurd is (by decide)

end Candidates
end AkashicSystem.Dispatching
