import AkashicSystem.Js.ObjectTable
import AkashicSystem.PlaylogServer.PlayToken

/-!
# The store of authenticated tokens

`PlayTokenStore`: the holders by token id, and the ids by session, parent, play
and user.  Holders are objects with an identity, known by a reference.
-/

set_option autoImplicit false

namespace AkashicSystem.PlaylogServer

open AkashicSystem.Js Function

/-- `{ [key: string]: Set<string> }`; a set that is empty is not there. -/
abbrev TokensMap := String → List String

namespace TokensMap

def empty : TokensMap := fun _ => []

def add (tokensMap : TokensMap) (key : Option String) (tokenId : String) : TokensMap :=
  match key with
  | none | some "" => tokensMap
  | some key =>
    if tokenId ∈ tokensMap key then tokensMap
    else update tokensMap key (tokensMap key ++ [tokenId])

def delete (tokensMap : TokensMap) (key : Option String) (tokenId : String) : TokensMap :=
  match key with
  | none | some "" => tokensMap
  | some key => update tokensMap key ((tokensMap key).filter fun id => id ≠ tokenId)

end TokensMap

structure PlayTokenStore where
  tokens : String → Option Ref
  tokensSessionMap : TokensMap
  tokensParentMap : TokensMap
  tokensPlayMap : TokensMap
  tokensUserMap : TokensMap

namespace PlayTokenStore

def empty : PlayTokenStore := ⟨fun _ => none, .empty, .empty, .empty, .empty⟩

def add (store : PlayTokenStore) (ref : Ref) (holder : PlayTokenHolder) : PlayTokenStore :=
  let id := holder.playToken.id
  if (store.tokens id).isSome then store
  else
    { tokens := update store.tokens id (some ref)
      tokensSessionMap := store.tokensSessionMap.add holder.sessionId id
      tokensParentMap := store.tokensParentMap.add holder.parentId id
      tokensPlayMap := store.tokensPlayMap.add holder.playToken.playId id
      tokensUserMap := store.tokensUserMap.add holder.playToken.userId id }

variable (holders : Ref → PlayTokenHolder)

def delete (store : PlayTokenStore) (id : String) : PlayTokenStore :=
  match store.tokens id with
  | none => store
  | some ref =>
    let holder := holders ref
    { tokens := update store.tokens id none
      tokensSessionMap := store.tokensSessionMap.delete holder.sessionId id
      tokensParentMap := store.tokensParentMap.delete holder.parentId id
      tokensPlayMap := store.tokensPlayMap.delete holder.playToken.playId id
      tokensUserMap := store.tokensUserMap.delete holder.playToken.userId id }

variable (store : PlayTokenStore)

def deleteBySession (sessionId : String) : PlayTokenStore :=
  (store.tokensSessionMap sessionId).foldl (delete holders) store

/-- `_get`; every id of a map has its holder (`PlayTokenStore.Indexed`). -/
def get (tokensMap : TokensMap) (key : String) : List Ref :=
  (tokensMap key).filterMap store.tokens

def getBySession : String → List Ref := store.get store.tokensSessionMap

def getByParent : String → List Ref := store.get store.tokensParentMap

def getByPlay : String → List Ref := store.get store.tokensPlayMap

def getByUser : String → List Ref := store.get store.tokensUserMap

/-- The map holds the ids of the stored holders under their keys, and no others. -/
def MapIndexed (tokensMap : TokensMap)
    (key : PlayTokenHolder → Option String) : Prop :=
  ∀ name id, id ∈ tokensMap name ↔
    name ≠ "" ∧ ∃ ref, store.tokens id = some ref ∧ key (holders ref) = some name

/-- Every stored holder stands under its id, and in the maps under its keys. -/
structure Indexed (store : PlayTokenStore) : Prop where
  id : ∀ id ref, store.tokens id = some ref → (holders ref).playToken.id = id
  session : store.MapIndexed holders store.tokensSessionMap fun holder => holder.sessionId
  parent : store.MapIndexed holders store.tokensParentMap PlayTokenHolder.parentId
  play : store.MapIndexed holders store.tokensPlayMap fun holder => holder.playToken.playId
  user : store.MapIndexed holders store.tokensUserMap fun holder => holder.playToken.userId

end PlayTokenStore

theorem TokensMap.mem_add (tokensMap : TokensMap) (key : Option String) (tokenId name id : String) :
    id ∈ tokensMap.add key tokenId name ↔
      id ∈ tokensMap name ∨ (name ≠ "" ∧ key = some name ∧ id = tokenId) := by
  cases key with
  | none => simp [add]
  | some key =>
    by_cases empty : key = ""
    · subst empty
      have unnamed : ¬ (name ≠ "" ∧ some "" = some name ∧ id = tokenId) := by
        rintro ⟨named, eq, -⟩
        exact named (Option.some.inj eq).symm
      simp only [add, unnamed, or_false]
    · by_cases there : tokenId ∈ tokensMap key
      · have same : tokensMap.add (some key) tokenId = tokensMap := by simp [add, there]
        rw [same]
        constructor
        · exact .inl
        · rintro (held | ⟨-, eq, rfl⟩)
          · exact held
          · cases eq
            exact there
      · have step : tokensMap.add (some key) tokenId =
            update tokensMap key (tokensMap key ++ [tokenId]) := by simp [add, there]
        rw [step]
        by_cases eq : name = key
        · subst eq
          simp [empty]
        · rw [update_of_ne eq]
          simp [Ne.symm eq]

theorem TokensMap.mem_delete (tokensMap : TokensMap) (key : Option String)
    (tokenId name id : String) : id ∈ tokensMap.delete key tokenId name ↔
      id ∈ tokensMap name ∧ ¬ (name ≠ "" ∧ key = some name ∧ id = tokenId) := by
  cases key with
  | none => simp [delete]
  | some key =>
    by_cases empty : key = ""
    · subst empty
      have unnamed : ¬ (name ≠ "" ∧ some "" = some name ∧ id = tokenId) := by
        rintro ⟨named, eq, -⟩
        exact named (Option.some.inj eq).symm
      simp only [delete, unnamed, not_false_eq_true, and_true]
    · have step : tokensMap.delete (some key) tokenId =
          update tokensMap key ((tokensMap key).filter fun id => id ≠ tokenId) := by
        simp [delete]
      rw [step]
      by_cases eq : name = key
      · subst eq
        simp [empty]
      · rw [update_of_ne eq]
        simp [Ne.symm eq]

namespace PlayTokenStore

variable {holders : Ref → PlayTokenHolder} {store : PlayTokenStore}

variable {key : PlayTokenHolder → Option String} {tokensMap : TokensMap}

theorem mem_get (indexed : store.MapIndexed holders tokensMap key) (name : String)
    (named : name ≠ "") (id : String) (ref : Ref) (stored : store.tokens id = some ref)
    (keyed : key (holders ref) = some name) : ref ∈ store.get tokensMap name :=
  List.mem_filterMap.mpr ⟨id, (indexed name id).mpr ⟨named, ref, stored, keyed⟩, stored⟩

theorem mapIndexed_add (indexed : store.MapIndexed holders tokensMap key) (id : String)
    (ref : Ref) (absent : store.tokens id = none) (store' : PlayTokenStore)
    (tokens : store'.tokens = update store.tokens id (some ref)) :
    store'.MapIndexed holders (tokensMap.add (key (holders ref)) id) key := by
  intro name id'
  rw [TokensMap.mem_add, indexed name id', tokens]
  by_cases same : id' = id
  · subst same
    simp [absent]
  · simp [same]

theorem indexed_add (indexed : store.Indexed holders) (ref : Ref)
    (absent : store.tokens (holders ref).playToken.id = none) :
    (store.add ref (holders ref)).Indexed holders := by
  have notThere : ¬ (store.tokens (holders ref).playToken.id).isSome := by simp [absent]
  rw [add, if_neg notThere]
  refine ⟨fun id ref' stored => ?_, ?_, ?_, ?_, ?_⟩
  · dsimp only at stored
    by_cases same : id = (holders ref).playToken.id
    · subst same
      rw [update_self] at stored
      cases stored
      rfl
    · rw [update_of_ne same] at stored
      exact indexed.id id ref' stored
  · exact mapIndexed_add indexed.session _ ref absent _ rfl
  · exact mapIndexed_add indexed.parent _ ref absent _ rfl
  · exact mapIndexed_add indexed.play _ ref absent _ rfl
  · exact mapIndexed_add indexed.user _ ref absent _ rfl

theorem mapIndexed_delete (indexed : store.MapIndexed holders tokensMap key) (id : String)
    (ref : Ref) (stored : store.tokens id = some ref) (store' : PlayTokenStore)
    (tokens : store'.tokens = update store.tokens id none) :
    store'.MapIndexed holders (tokensMap.delete (key (holders ref)) id) key := by
  intro name id'
  rw [TokensMap.mem_delete, indexed name id', tokens]
  by_cases same : id' = id
  · subst same
    simp only [stored, Option.some.injEq, update_self, reduceCtorEq, false_and,
      exists_false, and_false, iff_false]
    rintro ⟨⟨named, ref', rfl, keyed⟩, other⟩
    exact other ⟨named, keyed, trivial⟩
  · simp [same]

theorem tokens_delete (id id' : String) :
    (store.delete holders id).tokens id' = if id' = id then none else store.tokens id' := by
  unfold delete
  cases stored : store.tokens id with
  | none =>
    split_ifs with same
    · rw [same, stored]
    · rfl
  | some ref =>
    split_ifs with same
    · rw [same]
      exact update_self ..
    · exact update_of_ne same ..

theorem indexed_delete (indexed : store.Indexed holders) (id : String) :
    (store.delete holders id).Indexed holders := by
  unfold delete
  cases stored : store.tokens id with
  | none => exact indexed
  | some ref =>
    refine ⟨fun id' ref' stored' => ?_, ?_, ?_, ?_, ?_⟩
    · dsimp only at stored'
      by_cases same : id' = id
      · subst same
        rw [update_self] at stored'
        cases stored'
      · rw [update_of_ne same] at stored'
        exact indexed.id id' ref' stored'
    · exact mapIndexed_delete indexed.session id ref stored _ rfl
    · exact mapIndexed_delete indexed.parent id ref stored _ rfl
    · exact mapIndexed_delete indexed.play id ref stored _ rfl
    · exact mapIndexed_delete indexed.user id ref stored _ rfl

theorem tokens_foldl_delete (ids : List String) (store : PlayTokenStore) (id : String) :
    (ids.foldl (delete holders) store).tokens id =
      if id ∈ ids then none else store.tokens id := by
  induction ids generalizing store with
  | nil => rfl
  | cons head rest ih =>
    rw [List.foldl_cons, ih, tokens_delete]
    by_cases there : id ∈ rest
    · simp [there]
    · by_cases same : id = head
      · simp [same]
      · simp [there, same]

theorem indexed_foldl_delete (ids : List String) (store : PlayTokenStore)
    (indexed : store.Indexed holders) : (ids.foldl (delete holders) store).Indexed holders := by
  induction ids generalizing store with
  | nil => exact indexed
  | cons head rest ih =>
    rw [List.foldl_cons]
    exact ih _ (indexed_delete indexed head)

theorem tokens_deleteBySession (indexed : store.Indexed holders) (sessionId id : String) (ref : Ref)
    (stored : store.tokens id = some ref) (other : (holders ref).sessionId ≠ sessionId) :
    (store.deleteBySession holders sessionId).tokens id = some ref := by
  have absent : id ∉ store.tokensSessionMap sessionId := by
    intro there
    obtain ⟨-, ref', stored', owned⟩ := (indexed.session sessionId id).mp there
    rw [stored] at stored'
    cases stored'
    exact other (Option.some.inj owned)
  rw [deleteBySession, tokens_foldl_delete, if_neg absent, stored]

theorem mapIndexed_congr {holders' : Ref → PlayTokenHolder}
    (indexed : store.MapIndexed holders tokensMap key)
    (same : ∀ id ref, store.tokens id = some ref → key (holders' ref) = key (holders ref)) :
    store.MapIndexed holders' tokensMap key := by
  intro name id
  rw [indexed name id]
  constructor
  · rintro ⟨named, ref, stored, keyed⟩
    exact ⟨named, ref, stored, by rw [same id ref stored, keyed]⟩
  · rintro ⟨named, ref, stored, keyed⟩
    exact ⟨named, ref, stored, by rw [← same id ref stored, keyed]⟩

theorem Indexed.congr {holders' : Ref → PlayTokenHolder} (indexed : store.Indexed holders)
    (same : ∀ id ref, store.tokens id = some ref → (holders ref).SameIdentity (holders' ref)) :
    store.Indexed holders' := by
  refine ⟨fun id ref stored => ?_, ?_, ?_, ?_, ?_⟩
  · rw [(same id ref stored).id]
    exact indexed.id id ref stored
  · exact mapIndexed_congr indexed.session fun id ref stored =>
      congrArg some (same id ref stored).session
  · exact mapIndexed_congr indexed.parent fun id ref stored => (same id ref stored).parent
  · exact mapIndexed_congr indexed.play fun id ref stored =>
      congrArg some (same id ref stored).play
  · exact mapIndexed_congr indexed.user fun id ref stored => (same id ref stored).user

end PlayTokenStore
end AkashicSystem.PlaylogServer
