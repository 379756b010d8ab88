import AkashicSystem.PlaylogServer.PlayTokenValidator
import Mathlib.Data.List.AList

/-!
# The relations of plays and their cache

The parents of a child are rows of a table and fields of a hash in the cache.  The hash
counts as all the parents there are once it has a field, but a store and a removal touch
one field of it, whatever the others.
-/

set_option autoImplicit false

namespace AkashicSystem.Play

open AkashicSystem.PlaylogServer (Boundary Permission)
open List

deriving instance DecidableEq for Boundary

/-- The parents of a child.  A text is what it is parsed to: nothing, if it cannot be. -/
abbrev Relations := AList fun _ : String => Option Boundary

/-- The table, whose key is the child and the parent, and the cache. -/
structure PlayRelationModel where
  database : String → Relations
  cacheStore : String → Relations

def Relations.size (relations : Relations) : Nat := relations.entries.length

/-- `{}`. -/
def emptyBoundary : Boundary := ⟨none, none, none⟩

namespace PlayRelationModel

open Function

inductive Action where
  | store (parentPlayId childPlayId : String) (boundary : Boundary)
  | destroy (parentPlayId childPlayId : String)
  | findByChild (childPlayId : String)
  | expire (childPlayId : String)

def new (database : String → Relations) : PlayRelationModel := ⟨database, fun _ => ∅⟩

/-- `LegacyCacheStore.store`. -/
def cache (relations : Relations) (parentPlayId : String) (boundary : Boundary) : Relations :=
  relations.insert parentPlayId (some boundary)

/-- `Database.store`: the key is unique. -/
def insert (relations : Relations) (parentPlayId : String) (boundary : Boundary) :
    Option Relations :=
  if (relations.lookup parentPlayId).isSome then none
  else some (relations.insert parentPlayId (some boundary))

variable (m : PlayRelationModel)

/-- The database and the cache are both tried; the call fails if the database rejects. -/
def store (parentPlayId childPlayId : String) (boundary : Boundary) :
    PlayRelationModel × Bool :=
  let cached := update m.cacheStore childPlayId
    (cache (m.cacheStore childPlayId) parentPlayId boundary)
  match insert (m.database childPlayId) parentPlayId boundary with
  | none => (⟨m.database, cached⟩, false)
  | some relations => (⟨update m.database childPlayId relations, cached⟩, true)

def destroy (parentPlayId childPlayId : String) : PlayRelationModel :=
  { m with
    cacheStore := update m.cacheStore childPlayId
      ((m.cacheStore childPlayId).erase parentPlayId) }

/-- What is cached of what the database has; a boundary that is null is cached as `{}`. -/
def recache (cached fromDatabase : Relations) : Relations :=
  fromDatabase.entries.foldl
    (fun cached entry => cache cached entry.1 (entry.2.getD emptyBoundary)) cached

def findByChild (childPlayId : String) : PlayRelationModel × Relations :=
  let fromCache := m.cacheStore childPlayId
  if fromCache.size > 0 then (m, fromCache)
  else
    let fromDatabase := m.database childPlayId
    if fromDatabase.size > 0 then
      ({ m with
        cacheStore := update m.cacheStore childPlayId (recache fromCache fromDatabase) },
        fromDatabase)
    else (m, ∅)

def step : Action → PlayRelationModel
  | .store parentPlayId childPlayId boundary => (m.store parentPlayId childPlayId boundary).1
  | .destroy parentPlayId childPlayId => m.destroy parentPlayId childPlayId
  | .findByChild childPlayId => (m.findByChild childPlayId).1
  | .expire childPlayId =>
    { m with cacheStore := update m.cacheStore childPlayId ∅ }

def Coherent : Prop :=
  ∀ childPlayId parentPlayId,
    (m.findByChild childPlayId).2.lookup parentPlayId =
      (m.database childPlayId).lookup parentPlayId

/-- A store starts a hash only for a child without other parents, and is not rejected unless it
says what the database has; a removal does not leave some of the parents behind; and a look-up
caches no boundary that is null. -/
def Permitted : Action → Prop
  | .store parentPlayId childPlayId boundary =>
    (∀ held ∈ (m.database childPlayId).lookup parentPlayId, held = some boundary) ∧
      (m.cacheStore childPlayId = ∅ →
        ∀ other ∈ (m.database childPlayId).keys, other = parentPlayId)
  | .destroy parentPlayId childPlayId =>
    parentPlayId ∈ (m.cacheStore childPlayId).keys →
      ∀ other ∈ (m.cacheStore childPlayId).keys, other = parentPlayId
  | .findByChild childPlayId => m.cacheStore childPlayId = ∅ →
      ∀ parentPlayId ∈ (m.database childPlayId).keys,
        (m.database childPlayId).lookup parentPlayId ≠ some none
  | .expire _ => True

theorem size_pos_iff (relations : Relations) : relations.size > 0 ↔ relations ≠ ∅ := by
  rw [Relations.size, gt_iff_lt, length_pos_iff, Ne, Ne, AList.ext_iff]
  exact Iff.rfl

theorem eq_empty_iff (relations : Relations) :
    relations = ∅ ↔ ∀ parentPlayId, relations.lookup parentPlayId = none := by
  constructor
  · rintro rfl parentPlayId
    rfl
  · intro none'
    apply AList.ext
    show relations.entries = []
    apply eq_nil_iff_forall_not_mem.mpr
    rintro ⟨parentPlayId, boundary⟩ there
    have found := AList.mem_lookup_iff.mpr there
    rw [none' parentPlayId] at found
    cases found

def Agrees (cached held : Relations) : Prop :=
  cached = ∅ ∨ ∀ parentPlayId, cached.lookup parentPlayId = held.lookup parentPlayId

theorem coherent_iff : m.Coherent ↔ ∀ childPlayId,
    Agrees (m.cacheStore childPlayId) (m.database childPlayId) := by
  apply forall_congr'
  intro childPlayId
  unfold findByChild Agrees
  dsimp only
  by_cases cached : m.cacheStore childPlayId = ∅
  · have absent : ¬(m.cacheStore childPlayId).size > 0 := by simp [size_pos_iff, cached]
    rw [if_neg absent]
    refine iff_of_true (fun parentPlayId => ?_) (.inl cached)
    by_cases known : m.database childPlayId = ∅
    · have absent' : ¬(m.database childPlayId).size > 0 := by simp [size_pos_iff, known]
      rw [if_neg absent', known]
    · rw [if_pos ((size_pos_iff _).mpr known)]
  · rw [if_pos ((size_pos_iff _).mpr cached)]
    exact (or_iff_right cached).symm

variable {m : PlayRelationModel} {cached held : Relations}

theorem coherent_update (coherent : m.Coherent) (childPlayId : String) (held cached : Relations) :
    (⟨update m.database childPlayId held,
      update m.cacheStore childPlayId cached⟩ : PlayRelationModel).Coherent ↔
      Agrees cached held := by
  rw [coherent_iff] at coherent ⊢
  constructor
  · intro all
    have this := all childPlayId
    dsimp only at this
    rw [update_self, update_self] at this
    exact this
  · intro agrees other
    dsimp only
    by_cases same : other = childPlayId
    · subst same
      rw [update_self, update_self]
      exact agrees
    · rw [update_of_ne same, update_of_ne same]
      exact coherent other

theorem coherent_update_cache (coherent : m.Coherent) (childPlayId : String) (cached : Relations) :
    (⟨m.database, update m.cacheStore childPlayId cached⟩ :
      PlayRelationModel).Coherent ↔ Agrees cached (m.database childPlayId) := by
  have same := coherent_update coherent childPlayId (m.database childPlayId) cached
  rw [update_eq_self] at same
  exact same

theorem mem_keys_iff (relations : Relations) (parentPlayId : String) :
    parentPlayId ∈ relations.keys ↔ relations.lookup parentPlayId ≠ none := by
  rw [← AList.mem_keys, Ne, AList.lookup_eq_none, not_not]

theorem cache_ne_empty (cached : Relations) (parentPlayId : String) (boundary : Boundary) :
    cache cached parentPlayId boundary ≠ ∅ := by
  intro empty
  have none' := (eq_empty_iff _).mp empty parentPlayId
  rw [cache, AList.lookup_insert] at none'
  cases none'

theorem cache_lookup (cached : Relations) (parentPlayId other : String) (boundary : Boundary) :
    (cache cached parentPlayId boundary).lookup other =
      if other = parentPlayId then some (some boundary) else cached.lookup other := by
  by_cases same : other = parentPlayId
  · subst same
    rw [if_pos rfl]
    exact AList.lookup_insert _
  · rw [if_neg same]
    exact AList.lookup_insert_ne same

section

variable (agrees : Agrees cached held)
include agrees

variable (parentPlayId : String)

theorem agrees_others_iff :
    (∀ other, other ≠ parentPlayId → cached.lookup other = held.lookup other) ↔
      (cached = ∅ → ∀ other ∈ held.keys, other = parentPlayId) := by
  constructor
  · rintro same rfl other there
    by_contra ne
    exact (mem_keys_iff held other).mp there (same other ne).symm
  · intro alone other ne
    rcases agrees with empty | same
    · have absent : held.lookup other = none := by
        by_contra known
        exact ne (alone empty other ((mem_keys_iff held other).mpr known))
      rw [absent, empty]
      rfl
    · exact same other

theorem agrees_rejected_iff {parentPlayId : String} (boundary : Boundary) {known : Option Boundary}
    (found : held.lookup parentPlayId = some known) :
    Agrees (cache cached parentPlayId boundary) held ↔
      known = some boundary ∧ (cached = ∅ → ∀ other ∈ held.keys, other = parentPlayId) := by
  rw [← agrees_others_iff agrees]
  constructor
  · intro after
    have same := after.resolve_left (cache_ne_empty cached parentPlayId boundary)
    constructor
    · have this := same parentPlayId
      rw [cache_lookup, if_pos rfl, found] at this
      exact (Option.some.inj this).symm
    · intro other ne
      have this := same other
      rw [cache_lookup, if_neg ne] at this
      exact this
  · rintro ⟨rfl, others⟩
    refine .inr fun other => ?_
    rw [cache_lookup]
    by_cases same : other = parentPlayId
    · rw [if_pos same, same, found]
    · rw [if_neg same]
      exact others other same

theorem agrees_stored_iff (boundary : Boundary) :
    Agrees (cache cached parentPlayId boundary) (held.insert parentPlayId (some boundary)) ↔
      (cached = ∅ → ∀ other ∈ held.keys, other = parentPlayId) := by
  rw [← agrees_others_iff agrees]
  have stored : ∀ other, other ≠ parentPlayId →
      (held.insert parentPlayId (some boundary)).lookup other = held.lookup other :=
    fun other ne => AList.lookup_insert_ne ne
  constructor
  · intro after other ne
    have this := after.resolve_left (cache_ne_empty cached parentPlayId boundary) other
    rw [cache_lookup, if_neg ne, stored other ne] at this
    exact this
  · intro others
    refine .inr fun other => ?_
    rw [cache_lookup]
    by_cases same : other = parentPlayId
    · rw [if_pos same, same, AList.lookup_insert]
    · rw [if_neg same, stored other same]
      exact others other same

theorem agrees_erase_iff : Agrees (cached.erase parentPlayId) held ↔
      (parentPlayId ∈ cached.keys → ∀ other ∈ cached.keys, other = parentPlayId) := by
  constructor
  · intro after there other there'
    by_contra ne
    have same : ∀ other, cached.lookup other = held.lookup other := by
      apply agrees.resolve_left
      rintro rfl
      cases there
    rcases after with empty | same'
    · have gone := (eq_empty_iff _).mp empty other
      rw [AList.lookup_erase_ne ne] at gone
      exact (mem_keys_iff cached other).mp there' gone
    · have gone := same' parentPlayId
      rw [AList.lookup_erase, ← same parentPlayId] at gone
      exact (mem_keys_iff cached parentPlayId).mp there gone.symm
  · intro alone
    by_cases there : parentPlayId ∈ cached.keys
    · left
      rw [eq_empty_iff]
      intro other
      by_cases same : other = parentPlayId
      · rw [same, AList.lookup_erase]
      · rw [AList.lookup_erase_ne same]
        by_contra known
        exact same (alone there other ((mem_keys_iff cached other).mpr known))
    · have unchanged : ∀ other, (cached.erase parentPlayId).lookup other = cached.lookup other := by
        intro other
        by_cases same : other = parentPlayId
        · rw [same, AList.lookup_erase]
          by_contra known
          exact there ((mem_keys_iff cached parentPlayId).mpr (Ne.symm known))
        · rw [AList.lookup_erase_ne same]
      rcases agrees with empty | same
      · left
        rw [eq_empty_iff]
        intro other
        rw [unchanged other, empty]
        rfl
      · exact .inr fun other => (unchanged other).trans (same other)

end

theorem foldl_cache_lookup (entries : List (Sigma fun _ : String => Option Boundary))
    (distinct : entries.NodupKeys) (cached : Relations) (other : String) :
    (entries.foldl (fun cached entry => cache cached entry.1 (entry.2.getD emptyBoundary))
      cached).lookup other =
      ((dlookup other entries).map fun boundary => some (boundary.getD emptyBoundary)).or
        (cached.lookup other) := by
  induction entries generalizing cached with
  | nil => rfl
  | cons entry rest ih =>
    obtain ⟨parentPlayId, boundary⟩ := entry
    rw [nodupKeys_cons] at distinct
    rw [foldl_cons, ih distinct.2, cache_lookup]
    by_cases same : other = parentPlayId
    · subst same
      have absent : dlookup other rest = none := dlookup_eq_none.mpr distinct.1
      rw [if_pos rfl, absent, dlookup_cons_eq]
      rfl
    · rw [if_neg same, dlookup_cons_ne _ _ same]

theorem recache_lookup (cached fromDatabase : Relations) (other : String) :
    (recache cached fromDatabase).lookup other =
      ((fromDatabase.lookup other).map fun boundary => some (boundary.getD emptyBoundary)).or
        (cached.lookup other) :=
  foldl_cache_lookup fromDatabase.entries fromDatabase.nodupKeys cached other

theorem agrees_recache_iff (held : Relations) : Agrees (recache ∅ held) held ↔
      ∀ parentPlayId ∈ held.keys, held.lookup parentPlayId ≠ some none := by
  have filled : ∀ parentPlayId, (recache ∅ held).lookup parentPlayId =
      (held.lookup parentPlayId).map fun boundary => some (boundary.getD emptyBoundary) := by
    intro parentPlayId
    rw [recache_lookup]
    exact Option.or_none
  constructor
  · intro agrees parentPlayId there null
    rcases agrees with empty | same
    · have gone := (eq_empty_iff _).mp empty parentPlayId
      rw [filled, null] at gone
      cases gone
    · have read := same parentPlayId
      rw [filled, null] at read
      cases read
  · intro known
    refine .inr fun parentPlayId => ?_
    rw [filled]
    cases found : held.lookup parentPlayId with
    | none => rfl
    | some boundary =>
      cases boundary with
      | none =>
        have there : parentPlayId ∈ held.keys := by
          rw [mem_keys_iff, found]
          exact Option.some_ne_none _
        exact absurd found (known parentPlayId there)
      | some boundary => rfl

theorem coherent_store_iff (coherent : m.Coherent) (parentPlayId childPlayId : String)
    (boundary : Boundary) : (m.step (.store parentPlayId childPlayId boundary)).Coherent ↔
      m.Permitted (.store parentPlayId childPlayId boundary) := by
  have agrees := (coherent_iff m).mp coherent childPlayId
  show (m.store parentPlayId childPlayId boundary).1.Coherent ↔
    (∀ held ∈ (m.database childPlayId).lookup parentPlayId, held = some boundary) ∧
      (m.cacheStore childPlayId = ∅ →
        ∀ other ∈ (m.database childPlayId).keys, other = parentPlayId)
  unfold store insert
  dsimp only
  cases found : (m.database childPlayId).lookup parentPlayId with
  | none =>
    rw [if_neg (by simp)]
    dsimp only
    rw [coherent_update coherent, agrees_stored_iff agrees]
    refine (and_iff_right ?_).symm
    intro held there
    cases there
  | some known =>
    rw [if_pos (by simp)]
    dsimp only
    rw [coherent_update_cache coherent, agrees_rejected_iff agrees boundary found]
    apply and_congr_left'
    constructor
    · intro same held there
      exact (Option.some.inj there).symm.trans same
    · intro all
      exact all known rfl

theorem coherent_findByChild_iff (coherent : m.Coherent) (childPlayId : String) :
    (m.step (.findByChild childPlayId)).Coherent ↔ m.Permitted (.findByChild childPlayId) := by
  show (m.findByChild childPlayId).1.Coherent ↔ (m.cacheStore childPlayId = ∅ →
    ∀ parentPlayId ∈ (m.database childPlayId).keys,
      (m.database childPlayId).lookup parentPlayId ≠ some none)
  unfold findByChild
  dsimp only
  by_cases cached : m.cacheStore childPlayId = ∅
  · have absent : ¬(m.cacheStore childPlayId).size > 0 := by simp [size_pos_iff, cached]
    rw [if_neg absent]
    by_cases known : m.database childPlayId = ∅
    · have absent' : ¬(m.database childPlayId).size > 0 := by simp [size_pos_iff, known]
      rw [if_neg absent']
      refine iff_of_true coherent fun _ parentPlayId there => ?_
      rw [known] at there
      cases there
    · rw [if_pos ((size_pos_iff _).mpr known)]
      dsimp only
      rw [coherent_update_cache coherent, cached, agrees_recache_iff]
      exact ⟨fun known' _ => known', fun known' => known' rfl⟩
  · rw [if_pos ((size_pos_iff _).mpr cached)]
    exact iff_of_true coherent fun empty => absurd empty cached

theorem coherent_step_iff (coherent : m.Coherent) (action : Action) :
    (m.step action).Coherent ↔ m.Permitted action := by
  cases action with
  | store parentPlayId childPlayId boundary =>
    exact coherent_store_iff coherent parentPlayId childPlayId boundary
  | destroy parentPlayId childPlayId =>
    have agrees := (coherent_iff m).mp coherent childPlayId
    exact (coherent_update_cache coherent childPlayId _).trans
      (agrees_erase_iff agrees parentPlayId)
  | findByChild childPlayId => exact coherent_findByChild_iff coherent childPlayId
  | expire childPlayId =>
    refine iff_of_true ?_ trivial
    exact (coherent_update_cache coherent childPlayId ∅).mpr (.inl rfl)

theorem coherent_new (database : String → Relations) : (new database).Coherent := by
  rw [coherent_iff]
  intro childPlayId
  exact .inl rfl

end PlayRelationModel

end AkashicSystem.Play
