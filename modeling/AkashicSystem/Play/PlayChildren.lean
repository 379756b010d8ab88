import AkashicSystem.Play.PlayRelationModel
import AkashicSystem.PlaylogServer.TokenRevocation

/-!
# Deleted relations

A DELETE of a relation removes it from the cache only.  A parent that has been deleted is
found again once the hash of the child is empty while the table has the row.
-/

set_option autoImplicit false

namespace AkashicSystem.Play

open AkashicSystem.PlaylogServer (Boundary Permission PlayToken Validator)
open List

/-- The relations, and the parents and children of which the last request was a DELETE. -/
structure PlayChildren where
  relations : PlayRelationModel
  deleted : List (String × String)

namespace PlayChildren

open PlayRelationModel

open PlayRelationModel (Action)

def new (database : String → Relations) : PlayChildren := ⟨.new database, []⟩

def note (deleted : List (String × String)) : Action → List (String × String)
  | .store parentPlayId childPlayId _ =>
    deleted.filter fun pair => pair ≠ (parentPlayId, childPlayId)
  | .destroy parentPlayId childPlayId => (parentPlayId, childPlayId) :: deleted
  | .findByChild _ | .expire _ => deleted

def step (w : PlayChildren) (action : Action) : PlayChildren :=
  ⟨w.relations.step action, note w.deleted action⟩

def parentPlays (m : PlayRelationModel) (childPlayId : String) :
    List (String × Option Boundary) :=
  (m.findByChild childPlayId).2.entries.map fun entry => (entry.1, entry.2)

/-- A deleted parent is not found, and no session has a token from it for the child. -/
def Barred (w : PlayChildren) : Prop :=
  ∀ pair ∈ w.deleted, pair.1 ∉ (w.relations.findByChild pair.2).2.keys ∧
    ∀ (v : Validator) (sessionId : String),
      ∀ infos ∈ v.getParentPlayInfo sessionId (parentPlays w.relations pair.2),
        ∀ info ∈ infos, info.1.playId ≠ pair.1

/-- The hash of a child becomes empty only while the table has no deleted parent of it. -/
def Permitted (w : PlayChildren) : Action → Prop
  | .destroy parentPlayId childPlayId =>
    (w.relations.cacheStore childPlayId).erase parentPlayId = ∅ →
      ∀ other ∈ (w.relations.database childPlayId).keys,
        other ≠ parentPlayId ∧ (other, childPlayId) ∉ w.deleted
  | .expire childPlayId =>
    ∀ other ∈ (w.relations.database childPlayId).keys, (other, childPlayId) ∉ w.deleted
  | .store .. | .findByChild _ => True

section Sessions

variable {v : Validator} {parentId : String} {cond : Boundary} {token : PlayToken}
  {info : PlayToken × Permission}

theorem inherit_playId (inherits : Validator.inherit parentId cond token = some (some info)) :
    info.1.playId = parentId := by
  have own : ∀ info', (if token.playId = parentId then
      some (token, Validator.getChildPermission token.permission cond.allow cond.deny)
      else none) = some info' → info'.1.playId = parentId := by
    intro info' eq
    split_ifs at eq with parent
    obtain rfl := Option.some.inj eq
    exact parent
  unfold Validator.inherit at inherits
  cases flag : cond.authorizedFlag with
  | none =>
    rw [flag] at inherits
    exact own info (Option.some.inj inherits)
  | some name =>
    rw [flag] at inherits
    cases user : token.meta with
    | none =>
      rw [user] at inherits
      cases inherits
    | some data =>
      rw [user] at inherits
      have same := Option.some.inj inherits
      split at same
      · exact own info same
      · cases same

/-- Every token that a child's is derived from is one for a parent that was found. -/
theorem getParentPlayInfo_playId {sessionId : String} {plays : List (String × Option Boundary)}
    {infos : List (PlayToken × Permission)}
    (found : v.getParentPlayInfo sessionId plays = some infos) (there : info ∈ infos) :
    info.1.playId ∈ plays.map Prod.fst := by
  unfold Validator.getParentPlayInfo at found
  dsimp only at found
  split_ifs at found
  · cases found
    cases there
  · obtain ⟨lists, mapped, eq⟩ := Option.bind_eq_some_iff.mp found
    obtain rfl := Option.some.inj eq
    obtain ⟨list, inLists, inList⟩ :=
      mem_flatten.mp (reduceOption_mem_iff.mp there)
    obtain ⟨⟨parentId, cond⟩, listed, ofPlay⟩ :=
      Validator.mem_of_mapM _ _ _ mapped list inLists
    obtain ⟨boundary, -, inner⟩ := Option.bind_eq_some_iff.mp ofPlay
    obtain ⟨holder, -, inherits⟩ := Validator.mem_of_mapM _ _ _ inner _ inList
    rw [inherit_playId inherits]
    exact mem_map_of_mem listed

end Sessions

section Found

variable {m : PlayRelationModel} {parentPlayId childPlayId : String}

theorem parentPlays_fst (m : PlayRelationModel) (childPlayId : String) :
    (parentPlays m childPlayId).map Prod.fst = (m.findByChild childPlayId).2.keys := by
  rw [parentPlays, map_map]
  rfl

theorem found_cached (cached : m.cacheStore childPlayId ≠ ∅) :
    (m.findByChild childPlayId).2 = m.cacheStore childPlayId := by
  unfold findByChild
  rw [if_pos ((size_pos_iff _).mpr cached)]

theorem found_stored (empty : m.cacheStore childPlayId = ∅) :
    (m.findByChild childPlayId).2 = m.database childPlayId := by
  unfold findByChild
  have absent : ¬(m.cacheStore childPlayId).size > 0 := by
    simp [size_pos_iff, empty]
  rw [if_neg absent]
  by_cases known : m.database childPlayId = ∅
  · have absent' : ¬(m.database childPlayId).size > 0 := by
      simp [size_pos_iff, known]
    rw [if_neg absent', known]
  · rw [if_pos ((size_pos_iff _).mpr known)]

theorem found_congr {m' : PlayRelationModel}
    (cached : m'.cacheStore childPlayId = m.cacheStore childPlayId)
    (stored : m'.database childPlayId = m.database childPlayId) :
    (m'.findByChild childPlayId).2 = (m.findByChild childPlayId).2 := by
  by_cases empty : m.cacheStore childPlayId = ∅
  · rw [found_stored empty, found_stored (cached.trans empty), stored]
  · rw [found_cached empty, found_cached (by rwa [cached]), cached]

end Found

section Steps

variable {w : PlayChildren}

theorem barred_iff (w : PlayChildren) : w.Barred ↔
    ∀ pair ∈ w.deleted, pair.1 ∉ (w.relations.findByChild pair.2).2.keys := by
  constructor
  · exact fun barred pair there => (barred pair there).1
  · intro absent pair there
    refine ⟨absent pair there, fun v sessionId infos found info inherits same => ?_⟩
    have listed := getParentPlayInfo_playId found inherits
    rw [parentPlays_fst, same] at listed
    exact absent pair there listed

def child : Action → String
  | .store _ childPlayId _ | .destroy _ childPlayId => childPlayId
  | .findByChild childPlayId | .expire childPlayId => childPlayId

theorem found_other (m : PlayRelationModel) (action : Action) {other : String}
    (distinct : other ≠ child action) :
    ((m.step action).findByChild other).2 = (m.findByChild other).2 := by
  have kept {α : Type} (f : String → α) (value : α) :
      Function.update f (child action) value other = f other :=
    Function.update_of_ne distinct value f
  apply found_congr
  · cases action with
    | store parentPlayId childPlayId boundary =>
      simp only [PlayRelationModel.step, PlayRelationModel.store]
      split <;> exact kept _ _
    | destroy parentPlayId childPlayId => exact kept _ _
    | findByChild childPlayId =>
      simp only [PlayRelationModel.step, PlayRelationModel.findByChild]
      split_ifs
      · rfl
      · exact kept _ _
      · rfl
    | expire childPlayId => exact kept _ _
  · cases action with
    | store parentPlayId childPlayId boundary =>
      simp only [PlayRelationModel.step, PlayRelationModel.store]
      split
      · rfl
      · exact kept _ _
    | destroy parentPlayId childPlayId => rfl
    | findByChild childPlayId =>
      simp only [PlayRelationModel.step, PlayRelationModel.findByChild]
      split_ifs <;> rfl
    | expire childPlayId => rfl

theorem note_other (deleted : List (String × String)) (action : Action) (pair : String × String)
    (distinct : pair.2 ≠ child action) : pair ∈ note deleted action ↔ pair ∈ deleted := by
  have apart : ∀ parentPlayId, pair ≠ (parentPlayId, child action) := by
    rintro parentPlayId rfl
    exact distinct rfl
  cases action with
  | store parentPlayId childPlayId boundary =>
    rw [note, mem_filter, decide_eq_true_eq]
    exact and_iff_left (apart parentPlayId)
  | destroy parentPlayId childPlayId =>
    rw [note, mem_cons]
    exact or_iff_right (apart parentPlayId)
  | findByChild childPlayId | expire childPlayId => exact Iff.rfl

theorem barred_step_iff (barred : w.Barred) (action : Action) :
    (w.step action).Barred ↔ ∀ parentPlayId, (parentPlayId, child action) ∈ note w.deleted action →
      parentPlayId ∉ ((w.relations.step action).findByChild (child action)).2.keys := by
  rw [barred_iff] at barred ⊢
  constructor
  · intro after parentPlayId there
    exact after (parentPlayId, child action) there
  · intro own pair there
    by_cases same : pair.2 = child action
    · obtain ⟨parentPlayId, childPlayId⟩ := pair
      dsimp only at same
      subst same
      exact own parentPlayId there
    · have before := barred pair ((note_other w.deleted action pair same).mp there)
      rw [step, found_other w.relations action same]
      exact before

theorem barred_store (barred : w.Barred) (parentPlayId childPlayId : String)
    (boundary : Boundary) : (w.step (.store parentPlayId childPlayId boundary)).Barred := by
  rw [barred_step_iff barred]
  intro other there
  obtain ⟨before, apart⟩ := mem_filter.mp there
  have distinct : other ≠ parentPlayId := by
    rintro rfl
    simp [child] at apart
  have cached : (w.relations.step (.store parentPlayId childPlayId boundary)).cacheStore
      childPlayId =
      PlayRelationModel.cache (w.relations.cacheStore childPlayId) parentPlayId boundary := by
    simp only [PlayRelationModel.step, PlayRelationModel.store]
    split <;> exact Function.update_self ..
  have absent := (barred _ before).1
  have full := cache_ne_empty (w.relations.cacheStore childPlayId) parentPlayId
    boundary
  rw [child, found_cached (by rwa [cached]), cached, mem_keys_iff,
    cache_lookup, if_neg distinct]
  intro known
  have held : w.relations.cacheStore childPlayId ≠ ∅ := by
    intro empty
    rw [empty] at known
    exact known rfl
  simp only [child] at absent
  rw [found_cached held, mem_keys_iff] at absent
  exact absent known

theorem barred_destroy_iff (barred : w.Barred) (parentPlayId childPlayId : String) :
    (w.step (.destroy parentPlayId childPlayId)).Barred ↔
      w.Permitted (.destroy parentPlayId childPlayId) := by
  rw [barred_step_iff barred]
  have cached : (w.relations.step (.destroy parentPlayId childPlayId)).cacheStore childPlayId =
      (w.relations.cacheStore childPlayId).erase parentPlayId := Function.update_self ..
  have noted : ∀ other, (other, childPlayId) ∈ note w.deleted (.destroy parentPlayId childPlayId) ↔
      other = parentPlayId ∨ (other, childPlayId) ∈ w.deleted := by
    intro other
    simp [note]
  simp only [child, noted]
  show _ ↔ ((w.relations.cacheStore childPlayId).erase parentPlayId = ∅ →
    ∀ other ∈ (w.relations.database childPlayId).keys,
      other ≠ parentPlayId ∧ (other, childPlayId) ∉ w.deleted)
  by_cases empty : (w.relations.cacheStore childPlayId).erase parentPlayId = ∅
  · rw [found_stored (cached.trans empty)]
    have stored : (w.relations.step (.destroy parentPlayId childPlayId)).database =
      w.relations.database := rfl
    rw [stored]
    constructor
    · intro after _ other there
      exact not_or.mp fun deleted => after other deleted there
    · intro permitted other deleted there
      exact not_or.mpr (permitted empty other there) deleted
  · rw [found_cached (by rwa [cached]), cached]
    refine iff_of_true ?_ fun empty' => absurd empty' empty
    intro other deleted there
    rw [mem_keys_iff] at there
    by_cases same : other = parentPlayId
    · subst same
      exact there (AList.lookup_erase _ _)
    · rw [AList.lookup_erase_ne same] at there
      have held : w.relations.cacheStore childPlayId ≠ ∅ := by
        intro gone
        rw [gone] at there
        exact there rfl
      have absent := (barred _ (deleted.resolve_left same)).1
      dsimp only at absent
      rw [found_cached held, mem_keys_iff] at absent
      exact absent there

theorem mem_found_findByChild (m : PlayRelationModel) (childPlayId parentPlayId : String) :
    parentPlayId ∈ ((m.step (.findByChild childPlayId)).findByChild childPlayId).2.keys ↔
      parentPlayId ∈ (m.findByChild childPlayId).2.keys := by
  by_cases cached : m.cacheStore childPlayId = ∅
  · have absent : ¬(m.cacheStore childPlayId).size > 0 := by
      simp [size_pos_iff, cached]
    by_cases known : m.database childPlayId = ∅
    · have absent' : ¬(m.database childPlayId).size > 0 := by
        simp [size_pos_iff, known]
      have same : m.step (.findByChild childPlayId) = m := by
        rw [PlayRelationModel.step, PlayRelationModel.findByChild, if_neg absent, if_neg absent']
      rw [same]
    · have filled : (m.step (.findByChild childPlayId)).cacheStore childPlayId =
          PlayRelationModel.recache ∅ (m.database childPlayId) := by
        rw [PlayRelationModel.step, PlayRelationModel.findByChild, if_neg absent,
          if_pos ((PlayRelationModel.size_pos_iff _).mpr known)]
        dsimp only
        rw [Function.update_self, cached]
      have field : ∀ other, (recache ∅ (m.database childPlayId)).lookup other ≠
          none ↔ (m.database childPlayId).lookup other ≠ none := by
        intro other
        rw [recache_lookup]
        cases (m.database childPlayId).lookup other with
        | none => exact Iff.rfl
        | some boundary => simp
      have full : recache ∅ (m.database childPlayId) ≠ ∅ := by
        intro empty
        apply known
        rw [eq_empty_iff]
        intro other
        by_contra there
        rw [← Ne, ← field other, empty] at there
        exact there rfl
      rw [found_cached (by rwa [filled]), filled, found_stored cached,
        mem_keys_iff, mem_keys_iff, field]
  · have same : m.step (.findByChild childPlayId) = m := by
      rw [PlayRelationModel.step, PlayRelationModel.findByChild,
        if_pos ((PlayRelationModel.size_pos_iff _).mpr cached)]
    rw [same]

/-- One request keeps the deleted parents out exactly if it is permitted. -/
theorem barred_iff_of_barred (barred : w.Barred) (action : Action) :
    (w.step action).Barred ↔ w.Permitted action := by
  cases action with
  | store parentPlayId childPlayId boundary =>
    exact iff_of_true (barred_store barred parentPlayId childPlayId boundary) trivial
  | destroy parentPlayId childPlayId => exact barred_destroy_iff barred parentPlayId childPlayId
  | findByChild childPlayId =>
    refine iff_of_true ?_ trivial
    rw [barred_step_iff barred]
    intro parentPlayId there
    rw [child, mem_found_findByChild]
    exact (barred _ there).1
  | expire childPlayId =>
    rw [barred_step_iff barred]
    have expired : (w.relations.step (.expire childPlayId)).cacheStore childPlayId = ∅ :=
      Function.update_self ..
    rw [child, found_stored expired]
    show (∀ other, (other, childPlayId) ∈ w.deleted →
        other ∉ (w.relations.database childPlayId).keys) ↔
      ∀ other ∈ (w.relations.database childPlayId).keys, (other, childPlayId) ∉ w.deleted
    constructor
    · exact fun after other there deleted => after other deleted there
    · exact fun permitted other deleted there => permitted other there deleted

end Steps

end PlayChildren

end AkashicSystem.Play
