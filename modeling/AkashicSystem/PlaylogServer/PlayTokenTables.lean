import AkashicSystem.Js.Computation
import AkashicSystem.Js.PlainObject
import AkashicSystem.Lib.Run
import AkashicSystem.PlaylogServer.PlayTokenStore

/-!
# The tables of the token store

`PlayTokenStore` over the plain objects it is made of: an operation that comes
upon an inherited property throws and keeps what it has done so far.  Where no
key is the name of one, the tables are those of `PlayTokenStore`.
-/

set_option autoImplicit false

namespace AkashicSystem.PlaylogServer

open AkashicSystem.Js PlainObject Function

/-- The maps of the ids of the tokens, and the keys they have them under. -/
inductive TokensIndex where
  | session
  | parent
  | play
  | user
deriving DecidableEq

namespace TokensIndex

def key : TokensIndex → PlayTokenHolder → Option String
  | .session, holder => some holder.sessionId
  | .parent, holder => holder.parentId
  | .play, holder => some holder.playToken.playId
  | .user, holder => holder.playToken.userId

def all : List TokensIndex := [.session, .parent, .play, .user]

theorem mem_all (index : TokensIndex) : index ∈ all := by
  cases index <;> decide

end TokensIndex

/-- `{ [id: string]: Set<string> }`. -/
abbrev TokenSets := PlainObject (List String)

namespace TokenSets

def add (sets : TokenSets) (key : Option String) (tokenId : String) :
    Except TypeError TokenSets :=
  match key.filter fun key => key ≠ "" with
  | none => .ok sets
  | some key =>
    match sets.property key with
    | .own tokenIds =>
      .ok (sets.set key (if tokenId ∈ tokenIds then tokenIds else tokenIds ++ [tokenId]))
    -- its `add` is undefined
    | .inherited _ => .error .thrown
    | .absent => .ok (sets.set key [tokenId])

/-- `_delete`; a set of strings does not have `undefined`, which is `none`. -/
def delete (sets : TokenSets) (key tokenId : Option String) : Except TypeError TokenSets :=
  match key.filter fun key => key ≠ "" with
  | none => .ok sets
  | some key =>
    match sets.property key with
    | .own tokenIds =>
      let rest := tokenIds.filter fun id => some id ≠ tokenId
      .ok (if rest = [] then PlainObject.delete sets key else sets.set key rest)
    | .inherited _ => .error .thrown
    | .absent => .ok sets

end TokenSets

structure PlayTokenTables where
  tokens : PlainObject Ref
  maps : TokensIndex → TokenSets

namespace PlayTokenTables

def new : PlayTokenTables := ⟨.empty, fun _ => .empty⟩

def alter (index : TokensIndex) (changed : TokenSets → Except TypeError TokenSets) :
    Computation TypeError PlayTokenTables Unit := do
  let tables ← get
  match changed (tables.maps index) with
  | .ok sets => modify fun tables =>
    { tables with maps := update tables.maps index sets }
  | .error err => throw err

def add (ref : Ref) (holder : PlayTokenHolder) : Computation TypeError PlayTokenTables Unit := do
  let id := holder.playToken.id
  match (← get).tokens.property id with
  | .absent => do
      modify fun tables => { tables with tokens := tables.tokens.set id ref }
      TokensIndex.all.forM fun index =>
        alter index fun sets => TokenSets.add sets (index.key holder) id
  | _ => pure ()

variable (holders : Ref → PlayTokenHolder)

/-- The property that is named by an id, or by `undefined`. -/
def propertyName (id : Option String) : String := id.getD "undefined"

def delete (id : Option String) : Computation TypeError PlayTokenTables Unit := do
  match (← get).tokens.property (propertyName id) with
  | .absent => pure ()
  -- its `playToken` is undefined
  | .inherited _ => throw .thrown
  | .own ref => do
      modify fun tables => { tables with tokens := tables.tokens.delete (propertyName id) }
      TokensIndex.all.forM fun index =>
        alter index fun sets => TokenSets.delete sets (index.key (holders ref)) id

/-- `Array.from` of a function has as many items as the function has parameters, and each is
`undefined`. -/
def deleteBySession (sessionId : String) : Computation TypeError PlayTokenTables Unit := do
  match ((← get).maps .session).property sessionId with
  | .absent => pure ()
  | .own ids => ids.forM fun id => delete holders (some id)
  | .inherited length => (List.replicate length none).forM (delete holders)

def clear : Computation TypeError PlayTokenTables Unit := do
  (← get).tokens.keys.forM fun id => delete holders (some id)

/-- `getBySession`, `getByParent`, `getByPlay` and `getByUser`. -/
def getBy (tables : PlayTokenTables) (index : TokensIndex) (key : String) :
    Except TypeError (List (Property Ref)) :=
  if key = "" then .ok []
  else
    match (tables.maps index).property key with
    | .absent => .ok []
    -- its `forEach` is undefined
    | .inherited _ => .error .thrown
    | .own tokenIds => .ok (tokenIds.map tables.tokens.property)

end PlayTokenTables

namespace TokenSets

variable (sets : TokenSets)

/-- The ids under each key, which `PlayTokenStore` has. -/
def ids : TokensMap := fun name => (sets.get? name).getD []

/-- The set is not empty, has no id twice, and does not stand under an inherited name. -/
structure SoundSet (name : String) (tokenIds : List String) : Prop where
  nonempty : tokenIds ≠ []
  nodup : tokenIds.Nodup
  plain : inherited name = none

def Sound : Prop :=
  ∀ name tokenIds, sets.get? name = some tokenIds → SoundSet name tokenIds

theorem ids_set (key : String) (tokenIds : List String) :
    ids (sets.set key tokenIds) = update (ids sets) key tokenIds := by
  funext name
  unfold ids
  rw [get?_set]
  by_cases same : name = key
  · rw [if_pos same, same, update_self]
    rfl
  · rw [if_neg same, update_of_ne same]

theorem ids_delete (key : String) :
    ids (PlainObject.delete sets key) = update (ids sets) key [] := by
  funext name
  unfold ids
  rw [get?_delete]
  by_cases same : name = key
  · rw [if_pos same, same, update_self]
    rfl
  · rw [if_neg same, update_of_ne same]

theorem Sound.set {sets : TokenSets} (sound : Sound sets) {key : String} {tokenIds : List String}
    (whole : SoundSet key tokenIds) : Sound (sets.set key tokenIds) := by
  intro name tokenIds' there
  rw [get?_set] at there
  split at there
  · next same =>
    cases there
    rw [same]
    exact whole
  · exact sound name tokenIds' there

theorem Sound.delete {sets : TokenSets} (sound : Sound sets) (key : String) :
    Sound (PlainObject.delete sets key) := by
  intro name tokenIds there
  rw [PlainObject.get?_delete] at there
  split at there
  · cases there
  · exact sound name tokenIds there

theorem add_eq (sound : Sound sets) (key : Option String) (tokenId : String)
    (plain : ∀ name, key = some name → inherited name = none) :
    ∃ sets', add sets key tokenId = .ok sets' ∧ ids sets' = (ids sets).add key tokenId ∧
      Sound sets' := by
  cases key with
  | none => exact ⟨sets, rfl, rfl, sound⟩
  | some name =>
    by_cases empty : name = ""
    · subst empty
      exact ⟨sets, rfl, rfl, sound⟩
    · have falsy : (some name).filter (fun key => key ≠ "") = some name := by simp [empty]
      have named : (ids sets).add (some name) tokenId =
          if tokenId ∈ ids sets name then ids sets
          else update (ids sets) name (ids sets name ++ [tokenId]) := by
        simp [TokensMap.add]
      rw [named]
      unfold add
      simp only [falsy]
      cases there : sets.get? name with
      | none =>
        have absent : sets.property name = .absent :=
          (property_eq_absent_iff sets name).mpr ⟨there, plain name rfl⟩
        have nothing : ids sets name = [] := by rw [ids, there]; rfl
        simp only [absent]
        refine ⟨_, rfl, ?_, sound.set ⟨List.cons_ne_nil _ _, List.nodup_singleton _,
          plain name rfl⟩⟩
        rw [ids_set, nothing, if_neg List.not_mem_nil]
        rfl
      | some tokenIds =>
        have own : sets.property name = .own tokenIds :=
          (property_eq_own_iff sets name tokenIds).mpr there
        have these : ids sets name = tokenIds := by rw [ids, there]; rfl
        have whole := sound name tokenIds there
        simp only [own]
        rw [these]
        by_cases known : tokenId ∈ tokenIds
        · rw [if_pos known, if_pos known]
          refine ⟨_, rfl, ?_, sound.set whole⟩
          rw [ids_set]
          conv_lhs => rw [← these]
          exact update_eq_self name (ids sets)
        · rw [if_neg known, if_neg known]
          refine ⟨_, rfl, ids_set .., sound.set ⟨?_, ?_, whole.plain⟩⟩
          · exact List.append_ne_nil_of_right_ne_nil _ (List.cons_ne_nil _ _)
          · exact List.nodup_append'.mpr ⟨whole.nodup, List.nodup_singleton _,
              List.disjoint_singleton.mpr known⟩

theorem Sound.get?_inherited {sets : TokenSets} (sound : Sound sets) (name : String)
    (taken : inherited name ≠ none) : sets.get? name = none := by
  cases there : sets.get? name with
  | none => rfl
  | some tokenIds => exact absurd (sound name tokenIds there).plain taken

theorem add_inherited (sound : Sound sets) (name tokenId : String)
    (taken : inherited name ≠ none) : add sets (some name) tokenId = .error .thrown := by
  have named : name ≠ "" := by
    rintro rfl
    exact taken rfl
  obtain ⟨length, found⟩ := Option.ne_none_iff_exists'.mp taken
  have property : sets.property name = .inherited length :=
    (property_eq_inherited_iff sets name length).mpr
      ⟨sound.get?_inherited name taken, found⟩
  have falsy : (some name).filter (fun key => key ≠ "") = some name := by simp [named]
  unfold add
  simp only [falsy, property]

theorem delete_eq (sound : Sound sets) (key : Option String)
    (tokenId : String) (there : ∀ name, key = some name → name ≠ "" → tokenId ∈ ids sets name) :
    ∃ sets', delete sets key (some tokenId) = .ok sets' ∧
      ids sets' = (ids sets).delete key tokenId ∧ Sound sets' := by
  cases key with
  | none => exact ⟨sets, rfl, rfl, sound⟩
  | some name =>
    by_cases empty : name = ""
    · subst empty
      exact ⟨sets, rfl, rfl, sound⟩
    · have falsy : (some name).filter (fun key => key ≠ "") = some name := by simp [empty]
      have named : (ids sets).delete (some name) tokenId =
          update (ids sets) name
            ((ids sets name).filter fun id => id ≠ tokenId) := by
        simp [TokensMap.delete]
      have held := there name rfl empty
      rw [named]
      have strings (tokenIds : List String) : tokenIds.filter (fun id => some id ≠ some tokenId) =
          tokenIds.filter fun id => id ≠ tokenId := by simp
      unfold delete
      simp only [falsy]
      cases found : sets.get? name with
      | none =>
        rw [ids, found] at held
        exact (List.not_mem_nil held).elim
      | some tokenIds =>
        have own : sets.property name = .own tokenIds :=
          (property_eq_own_iff sets name tokenIds).mpr found
        have these : ids sets name = tokenIds := by rw [ids, found]; rfl
        have whole := sound name tokenIds found
        simp only [own, strings]
        rw [these]
        by_cases last : tokenIds.filter (fun id => id ≠ tokenId) = []
        · rw [if_pos last, last]
          exact ⟨_, rfl, ids_delete .., sound.delete name⟩
        · rw [if_neg last]
          exact ⟨_, rfl, ids_set .., sound.set ⟨last, whole.nodup.filter _, whole.plain⟩⟩

end TokenSets

namespace PlayTokenTables

open Computation

def toStore (tables : PlayTokenTables) : PlayTokenStore :=
  ⟨tables.tokens.get?, TokenSets.ids (tables.maps .session), TokenSets.ids (tables.maps .parent),
    TokenSets.ids (tables.maps .play), TokenSets.ids (tables.maps .user)⟩

/-- The tables are those of a store that is indexed, with no inherited name among the keys. -/
structure Orderly (holders : Ref → PlayTokenHolder) (tables : PlayTokenTables) : Prop where
  indexed : tables.toStore.Indexed holders
  sound : ∀ index, TokenSets.Sound (tables.maps index)
  plain : ∀ id ref, tables.tokens.get? id = some ref → inherited id = none

theorem orderly_new (holders : Ref → PlayTokenHolder) : new.Orderly holders := by
  have nothing : ∀ key, new.toStore.MapIndexed holders .empty key := by
    intro key name id
    constructor
    · intro there
      exact (List.not_mem_nil there).elim
    · rintro ⟨-, ref, stored, -⟩
      cases stored
  refine ⟨⟨fun id ref stored => ?_, nothing _, nothing _, nothing _, nothing _⟩,
    fun index name tokenIds there => ?_, fun id ref stored => ?_⟩
  · cases stored
  · cases there
  · cases stored

theorem Orderly.mem_ids_iff {holders : Ref → PlayTokenHolder} {tables : PlayTokenTables}
    (orderly : tables.Orderly holders) (index : TokensIndex) (name id : String) :
    id ∈ TokenSets.ids (tables.maps index) name ↔
      name ≠ "" ∧ ∃ ref, tables.tokens.get? id = some ref ∧
        index.key (holders ref) = some name := by
  cases index with
  | session => exact orderly.indexed.session name id
  | parent => exact orderly.indexed.parent name id
  | play => exact orderly.indexed.play name id
  | user => exact orderly.indexed.user name id

section

variable (changed : TokensIndex → TokenSets → Except TypeError TokenSets)
include changed

theorem forM_alter (result : TokensIndex → TokensMap → TokensMap) (indices : List TokensIndex)
    (distinct : indices.Nodup) (tables : PlayTokenTables)
    (sound : ∀ index, TokenSets.Sound (tables.maps index))
    (each : ∀ index ∈ indices, ∃ sets, changed index (tables.maps index) = .ok sets ∧
      TokenSets.ids sets = result index (TokenSets.ids (tables.maps index)) ∧
        TokenSets.Sound sets) :
    ∃ tables', indices.forM (fun index => alter index (changed index)) tables = .ok () tables' ∧
      tables'.tokens = tables.tokens ∧ (∀ index, TokenSets.Sound (tables'.maps index)) ∧
        ∀ index, TokenSets.ids (tables'.maps index) =
          if index ∈ indices then result index (TokenSets.ids (tables.maps index))
          else TokenSets.ids (tables.maps index) := by
  induction indices generalizing tables with
  | nil => exact ⟨tables, rfl, rfl, sound, fun index => by rw [if_neg List.not_mem_nil]⟩
  | cons first rest ih =>
    obtain ⟨fresh, distinct⟩ := List.nodup_cons.mp distinct
    obtain ⟨sets, here, ids, whole⟩ := each first List.mem_cons_self
    let tables₁ : PlayTokenTables :=
      { tables with maps := update tables.maps first sets }
    have step : alter first (changed first) tables = .ok () tables₁ := by
      unfold alter
      rw [bind_run, get_run]
      dsimp only
      rw [here]
      rfl
    have sound₁ : ∀ index, TokenSets.Sound (tables₁.maps index) := by
      intro index
      by_cases same : index = first
      · rw [same]
        change TokenSets.Sound (update tables.maps first sets first)
        rw [update_self]
        exact whole
      · change TokenSets.Sound (update tables.maps first sets index)
        rw [update_of_ne same]
        exact sound index
    have others : ∀ index, index ≠ first → tables₁.maps index = tables.maps index :=
      fun index other => update_of_ne other sets tables.maps
    obtain ⟨tables', run, tokens, sound', after⟩ := ih distinct tables₁ sound₁
      fun index there => by
        have other : index ≠ first := by
          rintro rfl
          exact fresh there
        rw [others index other]
        exact each index (List.mem_cons_of_mem _ there)
    refine ⟨tables', ?_, tokens, sound', fun index => ?_⟩
    · change (alter first (changed first) >>= fun _ => rest.forM _) tables = _
      rw [bind_run, step]
      exact run
    · rw [after index]
      by_cases same : index = first
      · subst same
        rw [if_neg fresh, if_pos List.mem_cons_self, ← ids]
        exact congrArg TokenSets.ids (update_self index sets tables.maps)
      · rw [others index same]
        simp only [List.mem_cons, same, false_or]

theorem tokens_forM_alter (indices : List TokensIndex) (tables : PlayTokenTables) :
    (stateOf (indices.forM (fun index => alter index (changed index)) tables)).tokens =
      tables.tokens := by
  induction indices generalizing tables with
  | nil => rfl
  | cons first rest ih =>
    change (stateOf ((alter first (changed first) >>= fun _ => rest.forM _) tables)).tokens = _
    rw [bind_run]
    unfold alter
    rw [bind_run, get_run]
    dsimp only
    cases changed first (tables.maps first) with
    | error err => rfl
    | ok sets => exact ih _

theorem forM_alter_all (result : TokensIndex → TokensMap → TokensMap) (tables : PlayTokenTables)
    (sound : ∀ index, TokenSets.Sound (tables.maps index))
    (each : ∀ index, ∃ sets, changed index (tables.maps index) = .ok sets ∧
      TokenSets.ids sets = result index (TokenSets.ids (tables.maps index)) ∧
        TokenSets.Sound sets) :
    ∃ tables', TokensIndex.all.forM (fun index => alter index (changed index)) tables =
        .ok () tables' ∧
      tables'.tokens = tables.tokens ∧ (∀ index, TokenSets.Sound (tables'.maps index)) ∧
        ∀ index, TokenSets.ids (tables'.maps index) =
          result index (TokenSets.ids (tables.maps index)) := by
  obtain ⟨tables', run, tokens, sound', after⟩ := forM_alter changed result TokensIndex.all
    (by decide) tables sound fun index _ => each index
  refine ⟨tables', run, tokens, sound', fun index => ?_⟩
  rw [after index, if_pos (TokensIndex.mem_all index)]

end

variable {holders : Ref → PlayTokenHolder} {tables : PlayTokenTables}

theorem add_eq (orderly : tables.Orderly holders) (ref : Ref)
    (absent : tables.tokens.property (holders ref).playToken.id = .absent)
    (plain : ∀ index name, TokensIndex.key index (holders ref) = some name →
      inherited name = none) : ∃ tables', add ref (holders ref) tables = .ok () tables' ∧
      tables'.toStore = tables.toStore.add ref (holders ref) ∧ tables'.Orderly holders := by
  obtain ⟨none, plainId⟩ := (property_eq_absent_iff _ _).mp absent
  let tables₁ : PlayTokenTables :=
    { tables with tokens := tables.tokens.set (holders ref).playToken.id ref }
  obtain ⟨tables', run, tokens, sound, after⟩ := forM_alter_all
    (fun index sets => TokenSets.add sets (index.key (holders ref)) (holders ref).playToken.id)
    (fun index tokensMap => tokensMap.add (index.key (holders ref)) (holders ref).playToken.id)
    tables₁ orderly.sound fun index => TokenSets.add_eq _ (orderly.sound index) _ _ (plain index)
  have same : tables'.toStore = tables.toStore.add ref (holders ref) := by
    have notThere : ¬ (tables.toStore.tokens (holders ref).playToken.id).isSome := by
      change ¬ (tables.tokens.get? _).isSome
      simp [none]
    have stored : tables'.tokens.get? =
        update tables.tokens.get? (holders ref).playToken.id (some ref) := by
      funext id
      rw [tokens]
      change (tables.tokens.set _ _).get? id = _
      rw [get?_set, update_apply]
    unfold PlayTokenStore.add
    dsimp only
    rw [if_neg notThere]
    unfold toStore
    rw [after .session, after .parent, after .play, after .user, stored]
    rfl
  refine ⟨tables', ?_, same, ?_, sound, fun id ref' there => ?_⟩
  · unfold add
    rw [bind_run, get_run]
    dsimp only
    rw [absent]
    exact run
  · rw [same]
    exact PlayTokenStore.indexed_add orderly.indexed ref none
  · rw [tokens, get?_set] at there
    split at there
    · next here =>
      rw [here]
      exact plainId
    · exact orderly.plain id ref' there

theorem forM_alter_thrown (changed : TokensIndex → TokenSets → Except TypeError TokenSets)
    (indices : List TokensIndex) (distinct : indices.Nodup) (tables : PlayTokenTables)
    (bad : TokensIndex) (there : bad ∈ indices)
    (fails : changed bad (tables.maps bad) = .error .thrown) :
    ∃ index ∈ indices, changed index (tables.maps index) = .error .thrown ∧
      (stateOf (indices.forM (fun index => alter index (changed index)) tables)).maps index =
        tables.maps index ∧
      (stateOf (indices.forM (fun index => alter index (changed index)) tables)).tokens =
        tables.tokens := by
  induction indices generalizing tables with
  | nil => cases there
  | cons first rest ih =>
    obtain ⟨fresh, distinct⟩ := List.nodup_cons.mp distinct
    have unfolded : (first :: rest).forM (fun index => alter index (changed index)) =
        (alter first (changed first) >>= fun _ =>
          rest.forM fun index => alter index (changed index)) := rfl
    rw [unfolded, bind_run]
    unfold alter
    rw [bind_run, get_run]
    dsimp only
    cases now : changed first (tables.maps first) with
    | error err =>
      cases err
      exact ⟨first, List.mem_cons_self, now, rfl, rfl⟩
    | ok sets =>
      have later : bad ∈ rest := by
        rcases List.mem_cons.mp there with rfl | later
        · rw [fails] at now
          cases now
        · exact later
      have others : ∀ index ∈ rest, update tables.maps first sets index =
          tables.maps index := by
        intro index inRest
        have other : index ≠ first := by
          rintro rfl
          exact fresh inRest
        exact update_of_ne other sets tables.maps
      have fails' : changed bad (update tables.maps first sets bad) =
          .error .thrown := by
        rw [others bad later]
        exact fails
      obtain ⟨index, inRest, thrown, same, tokens⟩ := ih distinct
        { tables with maps := update tables.maps first sets } later fails'
      dsimp only at thrown same tokens
      rw [others index inRest] at thrown same
      exact ⟨index, List.mem_cons_of_mem _ inRest, thrown, same, tokens⟩

/-- A token with a key that every object inherits is stored, and not in the map of that key. -/
theorem add_inherited (orderly : tables.Orderly holders) (ref : Ref)
    (absent : tables.tokens.property (holders ref).playToken.id = .absent) (bad : TokensIndex)
    (name : String) (keyed : bad.key (holders ref) = some name) (taken : inherited name ≠ none) :
    ∃ index name, index.key (holders ref) = some name ∧ name ≠ "" ∧
      (stateOf (add ref (holders ref) tables)).tokens.get? (holders ref).playToken.id = some ref ∧
        ((stateOf (add ref (holders ref) tables)).maps index).get? name = none := by
  let changed : TokensIndex → TokenSets → Except TypeError TokenSets :=
    fun index sets => TokenSets.add sets (index.key (holders ref)) (holders ref).playToken.id
  let tables₁ : PlayTokenTables :=
    { tables with tokens := tables.tokens.set (holders ref).playToken.id ref }
  have fails : changed bad (tables₁.maps bad) = .error .thrown := by
    change TokenSets.add (tables.maps bad) (bad.key (holders ref)) _ = _
    rw [keyed]
    exact TokenSets.add_inherited _ (orderly.sound bad) name _ taken
  obtain ⟨index, -, thrown, same, tokens⟩ := forM_alter_thrown changed TokensIndex.all
    (by decide) tables₁ bad (TokensIndex.mem_all bad) fails
  have run : add ref (holders ref) tables =
      TokensIndex.all.forM (fun index => alter index (changed index)) tables₁ := by
    unfold add
    rw [bind_run, get_run]
    dsimp only
    rw [absent]
    rfl
  have unnamed : ∃ name, index.key (holders ref) = some name ∧ inherited name ≠ none := by
    by_contra plain
    push Not at plain
    obtain ⟨sets, ok, -⟩ := TokenSets.add_eq (tables.maps index) (orderly.sound index)
      (index.key (holders ref)) (holders ref).playToken.id plain
    have thrown : TokenSets.add (tables.maps index) _ _ = .error .thrown := thrown
    rw [ok] at thrown
    cases thrown
  obtain ⟨name, keyed, taken⟩ := unnamed
  refine ⟨index, name, keyed, ?_, ?_, ?_⟩
  · rintro rfl
    exact taken rfl
  · rw [run, tokens]
    exact (get?_set ..).trans (if_pos rfl)
  · rw [run, same]
    exact (orderly.sound index).get?_inherited name taken

theorem delete_eq (orderly : tables.Orderly holders) (id : String) :
    (stateOf (delete holders (some id) tables)).toStore = tables.toStore.delete holders id ∧
      (stateOf (delete holders (some id) tables)).Orderly holders ∧
        (inherited id = none → ∃ tables', delete holders (some id) tables = .ok () tables') := by
  cases stored : tables.tokens.get? id with
  | none =>
    have same : tables.toStore.delete holders id = tables.toStore := by
      have absent : tables.toStore.tokens id = none := stored
      rw [PlayTokenStore.delete, absent]
    unfold delete
    rw [bind_run, get_run, same]
    dsimp only [propertyName, Option.getD_some]
    cases name : inherited id with
    | none =>
      rw [(property_eq_absent_iff _ _).mpr ⟨stored, name⟩]
      exact ⟨rfl, orderly, fun _ => ⟨tables, rfl⟩⟩
    | some length =>
      rw [(property_eq_inherited_iff _ _ length).mpr ⟨stored, name⟩]
      exact ⟨rfl, orderly, fun plain => by cases plain⟩
  | some ref =>
    let tables₁ : PlayTokenTables := { tables with tokens := tables.tokens.delete id }
    obtain ⟨tables', run, tokens, sound, after⟩ := forM_alter_all
      (fun index sets => TokenSets.delete sets (index.key (holders ref)) (some id))
      (fun index tokensMap => tokensMap.delete (index.key (holders ref)) id)
      tables₁ orderly.sound fun index => TokenSets.delete_eq _ (orderly.sound index) _ _
        fun name keyed named =>
          (orderly.mem_ids_iff index name id).mpr ⟨named, ref, stored, keyed⟩
    have ran : delete holders (some id) tables = .ok () tables' := by
      unfold delete
      rw [bind_run, get_run]
      dsimp only [propertyName, Option.getD_some]
      rw [(property_eq_own_iff _ _ ref).mpr stored]
      exact run
    have same : tables'.toStore = tables.toStore.delete holders id := by
      have left : tables'.tokens.get? = update tables.tokens.get? id none := by
        funext id'
        rw [tokens]
        change (tables.tokens.delete id).get? id' = _
        rw [get?_delete, update_apply]
      have found : tables.toStore.tokens id = some ref := stored
      rw [PlayTokenStore.delete, found]
      unfold toStore
      rw [after .session, after .parent, after .play, after .user, left]
      rfl
    rw [ran]
    refine ⟨same, ⟨?_, sound, fun id' ref' there => ?_⟩, fun _ => ⟨tables', rfl⟩⟩
    · change tables'.toStore.Indexed holders
      rw [same]
      exact PlayTokenStore.indexed_delete orderly.indexed id
    · have there : tables'.tokens.get? id' = some ref' := there
      rw [tokens, get?_delete] at there
      split at there
      · cases there
      · exact orderly.plain id' ref' there

theorem forM_delete (ids : List String) (plain : ∀ id ∈ ids, inherited id = none)
    (orderly : tables.Orderly holders) :
    ∃ tables', ids.forM (fun id => delete holders (some id)) tables = .ok () tables' ∧
      tables'.toStore = ids.foldl (PlayTokenStore.delete holders) tables.toStore ∧
        tables'.Orderly holders := by
  induction ids generalizing tables with
  | nil => exact ⟨tables, rfl, rfl, orderly⟩
  | cons first rest ih =>
    obtain ⟨same, orderly₁, resolves⟩ := delete_eq orderly first
    obtain ⟨tables₁, step⟩ := resolves (plain first List.mem_cons_self)
    rw [step] at same orderly₁
    obtain ⟨tables', run, same', orderly'⟩ :=
      ih (fun id there => plain id (List.mem_cons_of_mem _ there)) orderly₁
    refine ⟨tables', ?_, ?_, orderly'⟩
    · change (delete holders (some first) >>= fun _ =>
        rest.forM fun id => delete holders (some id)) tables = _
      rw [bind_run, step]
      exact run
    · rw [same', List.foldl_cons]
      exact congrArg (rest.foldl (PlayTokenStore.delete holders)) same

end PlayTokenTables
end AkashicSystem.PlaylogServer
