import AkashicSystem.Lib.Run
import Mathlib.Logic.Function.Basic

/-!
# The stores of play relations

The implementations of `IPlayRelationModel` beside the maps that they stand for.  A table or a
hash is what it has for a parent and a child, and a boundary is what its text is parsed to.
-/

set_option autoImplicit false

namespace AkashicSystem.Play

/-- The boundary of a parent and a child. -/
abbrev RelationTable (β : Type) := Nat → Nat → Option β

namespace RelationTable

variable {β : Type}

def set (table : RelationTable β) (parentPlayId childPlayId : Nat) (boundary : Option β) :
    RelationTable β :=
  fun parent child =>
    if parent = parentPlayId ∧ child = childPlayId then boundary else table parent child

/-- `INSERT`, which the unique pair rejects. -/
def insert (table : RelationTable β) (parentPlayId childPlayId : Nat) (boundary : β) :
    RelationTable β :=
  if (table parentPlayId childPlayId).isSome then table
  else table.set parentPlayId childPlayId (some boundary)

end RelationTable

namespace PlayRelationStores

/-- `parent_id = ? & child_id = ?`, where `&` binds before the two comparisons, and the first
comparison is 1 or 0. -/
def deletes (parentPlayId childPlayId parent child : Nat) : Bool :=
  (if parent = parentPlayId &&& child then 1 else 0) == childPlayId

def delete {β : Type} (table : RelationTable β) (parentPlayId childPlayId : Nat) :
    RelationTable β :=
  fun parent child =>
    if deletes parentPlayId childPlayId parent child then none else table parent child

inductive Action (β : Type) where
  | store (parentPlayId childPlayId : Nat) (boundary : β)
  | destroy (parentPlayId childPlayId : Nat)
  | findByChild (childPlayId : Nat)

end PlayRelationStores

/-- The table of `Database`, the hashes of `LegacyCacheStore` by child and parent, and beside
them what was stored and not destroyed since. -/
structure PlayRelationStores (β : Type) where
  database : RelationTable β
  cache : Nat → Nat → Option β
  stored : RelationTable β
  cached : RelationTable β

namespace PlayRelationStores

variable {β : Type}

def new (table : RelationTable β) : PlayRelationStores β :=
  ⟨table, fun _ _ => none, table, fun _ _ => none⟩

/-- `hset` and `hdel`. -/
def hset (cache : Nat → Nat → Option β) (childPlayId parentPlayId : Nat) (boundary : Option β) :
    Nat → Nat → Option β :=
  Function.update cache childPlayId
    (Function.update (cache childPlayId) parentPlayId boundary)

variable (w : PlayRelationStores β)

def step : Action β → PlayRelationStores β
  | .store parentPlayId childPlayId boundary =>
    { database := w.database.insert parentPlayId childPlayId boundary
      cache := hset w.cache childPlayId parentPlayId (some boundary)
      stored := w.stored.insert parentPlayId childPlayId boundary
      cached := w.cached.set parentPlayId childPlayId (some boundary) }
  | .destroy parentPlayId childPlayId =>
    { database := delete w.database parentPlayId childPlayId
      cache := hset w.cache childPlayId parentPlayId none
      stored := w.stored.set parentPlayId childPlayId none
      cached := w.cached.set parentPlayId childPlayId none }
  | .findByChild _ => w

def findByChild (childPlayId parentPlayId : Nat) : Option β :=
  w.database parentPlayId childPlayId

def findCachedByChild (childPlayId parentPlayId : Nat) : Option β :=
  w.cache childPlayId parentPlayId

def Lawful : Prop :=
  ∀ childPlayId parentPlayId, w.findByChild childPlayId parentPlayId =
    w.stored parentPlayId childPlayId

def CacheLawful : Prop :=
  ∀ childPlayId parentPlayId, w.findCachedByChild childPlayId parentPlayId =
    w.cached parentPlayId childPlayId

/-- Of the rows there are, the condition selects that of the pair alone. -/
def Permitted : Action β → Prop
  | .destroy parentPlayId childPlayId => ∀ parent child, (w.database parent child).isSome = true →
      (deletes parentPlayId childPlayId parent child = true ↔
        parent = parentPlayId ∧ child = childPlayId)
  | _ => True

theorem delete_eq_set_iff (table : RelationTable β) (parentPlayId childPlayId : Nat) :
    delete table parentPlayId childPlayId = table.set parentPlayId childPlayId none ↔
      ∀ parent child, (table parent child).isSome = true →
        (deletes parentPlayId childPlayId parent child = true ↔
          parent = parentPlayId ∧ child = childPlayId) := by
  simp only [funext_iff]
  apply forall₂_congr
  intro parent child
  unfold delete RelationTable.set
  cases row : table parent child with
  | none => simp
  | some boundary =>
    by_cases selected : deletes parentPlayId childPlayId parent child = true <;>
      by_cases isPair : parent = parentPlayId ∧ child = childPlayId <;> simp [selected, isPair]

theorem lawful_iff : w.Lawful ↔ w.database = w.stored :=
  ⟨fun lawful => funext fun parent => funext fun child => lawful child parent,
    fun same _ _ => by rw [findByChild, same]⟩

theorem lawful_step_iff (action : Action β) (lawful : w.Lawful) :
    (w.step action).Lawful ↔ w.Permitted action := by
  rw [lawful_iff] at lawful ⊢
  cases action with
  | store parentPlayId childPlayId boundary => exact iff_of_true (by rw [step, lawful]) trivial
  | destroy parentPlayId childPlayId =>
    rw [step, ← lawful]
    exact delete_eq_set_iff w.database parentPlayId childPlayId
  | findByChild _ => exact iff_of_true lawful trivial

theorem cacheLawful_hset {w : PlayRelationStores β} (lawful : w.CacheLawful)
    (childPlayId parentPlayId : Nat) (boundary : Option β) (child parent : Nat) :
    hset w.cache childPlayId parentPlayId boundary child parent =
      w.cached.set parentPlayId childPlayId boundary parent child := by
  unfold hset RelationTable.set
  by_cases same : child = childPlayId
  · subst same
    by_cases same' : parent = parentPlayId
    · subst same'
      simp
    · simpa [same', findCachedByChild] using lawful child parent
  · simpa [same, findCachedByChild] using lawful child parent

theorem cacheLawful_step (action : Action β) (lawful : w.CacheLawful) :
    (w.step action).CacheLawful := by
  cases action with
  | store parentPlayId childPlayId boundary => exact cacheLawful_hset lawful _ _ _
  | destroy parentPlayId childPlayId => exact cacheLawful_hset lawful _ _ _
  | findByChild _ => exact lawful

/-- The cache is a map in every run; the database is one all along exactly if no removal selects
other rows than that of its pair. -/
theorem lawful_iff_permitted (table : RelationTable β) (actions : List (Action β)) :
    (∀ front, front <+: actions → (Run.final step (new table) front).CacheLawful) ∧
    (Run.Allowed step Permitted (new table) actions ↔
      ∀ front, front <+: actions → (Run.final step (new table) front).Lawful) := by
  refine ⟨fun front _ => Run.stable cacheLawful_step _ front fun _ _ => rfl, ?_⟩
  have preserved : ∀ (w : PlayRelationStores β) (action : Action β), True → True :=
    fun _ _ _ => trivial
  apply Run.allowed_iff_always preserved
  · exact fun w action _ lawful => lawful_step_iff w action lawful
  · trivial
  · exact fun _ _ => rfl

/-- A pair is still found when it was destroyed. -/
theorem destroyed_found : ¬ ∀ front, front <+: [Action.store 1 5 (), .destroy 1 5] →
    (Run.final step (new fun _ _ => none) front).Lawful := by
  intro lawful
  have found := lawful _ (List.prefix_refl _) 5 1
  revert found
  decide

end PlayRelationStores
end AkashicSystem.Play
