import Mathlib.Data.List.Chain
import Mathlib.Data.List.Nodup
import Mathlib.Data.List.Perm.Subperm

/-!
# The search for the ancestors of a play

The search follows the first parent of the play found last.  No play is taken twice, and only
parents are taken, so that it ends whatever the relations are.
-/

set_option autoImplicit false

namespace AkashicSystem.Play

open List

namespace AncestorSearch

/-- A parent and its child. -/
abbrev Relations := List (String × String)

/-- The keys of the map that is found for a child. -/
def findByChild (relations : Relations) (childPlayId : String) : List String :=
  (relations.filter fun relation => relation.2 = childPlayId).map Prod.fst

variable (relations : Relations)

/-- The rounds of the loop; nothing is returned while it goes on. -/
def search : Nat → List String → Option (List String)
  | 0, _ => none
  | rounds + 1, playIds =>
    match (playIds.head?.bind fun playId => (findByChild relations playId).head?) with
    | none => some playIds
    | some parentPlayId =>
      if parentPlayId ∈ playIds then some playIds else search rounds (parentPlayId :: playIds)

def findParentPlayIdsByChild (rounds : Nat) (childPlayId : String) : Option (List String) :=
  if childPlayId = "" then some [] else (search relations rounds [childPlayId]).map dropLast

/-- The first relation of the child is one to the parent. -/
def IsFirstParent (parentPlayId childPlayId : String) : Prop :=
  ∃ front back, relations = front ++ (parentPlayId, childPlayId) :: back ∧
    ∀ relation ∈ front, relation.2 ≠ childPlayId

theorem head?_findByChild_iff (parentPlayId childPlayId : String) :
    (findByChild relations childPlayId).head? = some parentPlayId ↔
      IsFirstParent relations parentPlayId childPlayId := by
  rw [findByChild, head?_map, head?_filter, Option.map_eq_some_iff]
  constructor
  · rintro ⟨⟨parent, child⟩, found, rfl⟩
    obtain ⟨own, front, back, eq, before⟩ := find?_eq_some_iff_append.mp found
    obtain rfl : child = childPlayId := of_decide_eq_true own
    exact ⟨front, back, eq, fun relation there => by simpa using before relation there⟩
  · rintro ⟨front, back, eq, before⟩
    exact ⟨_, find?_eq_some_iff_append.mpr ⟨decide_eq_true rfl, front, back, eq,
      fun relation there => by simpa using before relation there⟩, rfl⟩

/-- The play ids, from the last that was found to the child. -/
structure Follows (childPlayId : String) (playIds : List String) : Prop where
  once : playIds.Nodup
  linked : playIds.IsChain (IsFirstParent relations)
  child : playIds.getLast? = some childPlayId
  known : ∀ playId ∈ playIds, playId ∈ childPlayId :: relations.map Prod.fst

/-- The play found last has no parent, or its first parent was found already. -/
def Stopped (playIds : List String) : Prop :=
  ∀ playId ∈ playIds.head?, ∀ parentPlayId, IsFirstParent relations parentPlayId playId →
    parentPlayId ∈ playIds

variable {relations} {childPlayId : String} {playIds : List String}

theorem Follows.cons (follows : Follows relations childPlayId playIds)
    {playId parentPlayId : String}
    (last : playIds.head? = some playId) (parent : IsFirstParent relations parentPlayId playId)
    (new : parentPlayId ∉ playIds) :
    Follows relations childPlayId (parentPlayId :: playIds) where
  once := nodup_cons.mpr ⟨new, follows.once⟩
  linked := by
    apply follows.linked.cons
    intro next isNext
    rw [last] at isNext
    cases isNext
    exact parent
  child := by
    rw [List.getLast?_cons, follows.child]
    rfl
  known := by
    intro other there
    rcases mem_cons.mp there with rfl | there
    · obtain ⟨front, back, eq, -⟩ := parent
      simp [eq]
    · exact follows.known other there

theorem Follows.length_le (follows : Follows relations childPlayId playIds) :
    playIds.length ≤ relations.length + 1 := by
  have bound := (follows.once.subperm follows.known).length_le
  rwa [length_cons, length_map] at bound

theorem search_ends (rounds : Nat) (follows : Follows relations childPlayId playIds)
    (enough : relations.length + 1 < playIds.length + rounds) :
    ∃ found, (∀ more, search relations (rounds + more) playIds = some found) ∧
      Follows relations childPlayId found ∧ Stopped relations found := by
  induction rounds generalizing playIds with
  | zero => exact absurd enough (by have := follows.length_le; omega)
  | succ rounds ih =>
    cases next : playIds.head?.bind fun playId => (findByChild relations playId).head? with
    | none =>
      refine ⟨playIds, fun more => ?_, follows, fun playId last parentPlayId parent => ?_⟩
      · rw [Nat.add_right_comm, search, next]
      · rw [Option.mem_def] at last
        rw [last, Option.bind_some, (head?_findByChild_iff ..).mpr parent] at next
        cases next
    | some parentPlayId =>
      obtain ⟨playId, last, parent⟩ := Option.bind_eq_some_iff.mp next
      by_cases old : parentPlayId ∈ playIds
      · refine ⟨playIds, fun more => ?_, follows, fun other isLast first isFirst => ?_⟩
        · rw [Nat.add_right_comm, search, next]
          exact if_pos old
        · rw [Option.mem_def, last] at isLast
          cases isLast
          rw [← head?_findByChild_iff, parent] at isFirst
          cases isFirst
          exact old
      · obtain ⟨found, finds, rest⟩ := ih
          (follows.cons last ((head?_findByChild_iff ..).mp parent) old)
          (by rw [length_cons]; omega)
        refine ⟨found, fun more => ?_, rest⟩
        rw [Nat.add_right_comm, search, next]
        exact (if_neg old).trans (finds more)

/-- The search ends, with the ancestors up to one without a parent of its own. -/
theorem findParentPlayIdsByChild_ends (relations : Relations) (childPlayId : String) :
    ∃ ancestors, (∀ rounds, relations.length + 1 < rounds →
        findParentPlayIdsByChild relations rounds childPlayId = some ancestors) ∧
      ancestors.Nodup ∧ childPlayId ∉ ancestors ∧
      (ancestors ++ [childPlayId]).IsChain (IsFirstParent relations) ∧
      (childPlayId ≠ "" → Stopped relations (ancestors ++ [childPlayId])) := by
  by_cases empty : childPlayId = ""
  · exact ⟨[], fun _ _ => if_pos empty, nodup_nil, not_mem_nil, .singleton _,
      fun other => absurd empty other⟩
  · have start : Follows relations childPlayId [childPlayId] :=
      ⟨nodup_singleton _, .singleton _, rfl, by simp⟩
    obtain ⟨found, finds, follows, stopped⟩ := search_ends (relations.length + 1) start
      (by rw [length_singleton]; omega)
    have whole : found.dropLast ++ [childPlayId] = found :=
      dropLast_append_getLast? _ follows.child
    refine ⟨found.dropLast, fun rounds many => ?_, ?_⟩
    · obtain ⟨more, rfl⟩ := Nat.exists_eq_add_of_le (Nat.le_of_lt many)
      rw [findParentPlayIdsByChild, if_neg empty, finds more]
      rfl
    · have once := follows.once
      rw [← whole] at once
      obtain ⟨nodup, -, apart⟩ := nodup_append.mp once
      rw [whole]
      exact ⟨nodup, fun there => apart _ there _ (mem_singleton_self _) rfl, follows.linked,
        fun _ => stopped⟩

end AncestorSearch
end AkashicSystem.Play
