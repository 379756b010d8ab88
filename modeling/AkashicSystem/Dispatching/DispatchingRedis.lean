import Mathlib.Data.List.Basic
import Mathlib.Algebra.Group.Nat.Defs

/-!
# The processes of a trait

`DispatchingRedis`: two sorted sets of a trait, one of the capacities of the
processes and one, for each play, of the clients they serve.
-/

set_option autoImplicit false

namespace AkashicSystem.Dispatching

abbrev SortedSet := List (String × Int)

namespace SortedSet

variable (set : SortedSet)

def zscore (member : String) : Option Int :=
  (set.find? fun entry => entry.1 = member).map Prod.snd

/-- The score of a member that `zincrby` starts from. -/
def score (member : String) : Int := (set.zscore member).getD 0

def zincrby (increment : Int) (member : String) : SortedSet :=
  (member, set.score member + increment) :: set.filter fun entry => entry.1 ≠ member

def before (a b : String × Int) : Bool := a.2 < b.2 || (a.2 = b.2 && a.1 ≤ b.1)

def zrangebyscore : SortedSet :=
  (set.filter fun entry => 0 ≤ entry.2).mergeSort before

def zrevrangebyscore : SortedSet := set.zrangebyscore.reverse

theorem score_zincrby_self (increment : Int) (member : String) :
    (set.zincrby increment member).score member = set.score member + increment := by
  simp [score, zscore, zincrby]

theorem score_zincrby_of_ne (increment : Int) (member other : String)
    (distinct : other ≠ member) : (set.zincrby increment member).score other = set.score other := by
  have skip : ∀ entry : String × Int, (entry.1 ≠ member ∧ entry.1 = other) ↔ entry.1 = other := by
    intro entry
    constructor
    · exact And.right
    · rintro rfl
      exact ⟨distinct, rfl⟩
  simp [score, zscore, zincrby, List.find?_filter, skip, distinct.symm]

end SortedSet

/-- The sorted sets of a trait.  The lists keep what has come to pass: the
processes that a dispatch was counted for, those whose client could not be
counted after the capacity was, and those that a server has given back. -/
structure DispatchingRedis where
  capacities : SortedSet
  clients : String → SortedSet
  increased : List String
  unrecorded : List String
  givenBack : List String

namespace DispatchingRedis

variable (redis : DispatchingRedis)

variable (processId : String)

def capacity : Int :=
  redis.capacities.score processId

def findProcesses (playId : String) : List String :=
  (redis.clients playId).zrangebyscore.map Prod.fst

def findCapacities : List (String × Int) :=
  redis.capacities.zrevrangebyscore

def increaseClient (processId playId : String) (increment : Int) :
    DispatchingRedis :=
  { redis with
    clients := Function.update redis.clients playId
      ((redis.clients playId).zincrby increment processId) }

def increaseCapacity (increment : Int) :
    DispatchingRedis :=
  { redis with capacities := redis.capacities.zincrby increment processId }

theorem capacity_increaseCapacity
    (increment : Int) (p : String) : (redis.increaseCapacity processId increment).capacity p =
      redis.capacity p + if processId = p then increment else 0 := by
  unfold capacity increaseCapacity
  split_ifs with same
  · rw [same]
    exact SortedSet.score_zincrby_self redis.capacities increment p
  · rw [Int.add_zero]
    exact SortedSet.score_zincrby_of_ne redis.capacities increment processId p (Ne.symm same)

end DispatchingRedis
end AkashicSystem.Dispatching
