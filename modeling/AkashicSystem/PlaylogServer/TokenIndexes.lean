import AkashicSystem.PlaylogServer.PlayTokenTables

/-!
# The indexes of the token store

The maps of `PlayTokenStore` under any operations on it, beside updates of the
permissions of holders: they have the ids of the stored tokens, each under its
own keys.
-/

set_option autoImplicit false

namespace AkashicSystem.PlaylogServer
namespace TokenIndexes

open AkashicSystem.Js Computation PlayTokenTables List

structure World where
  holders : Ref → PlayTokenHolder
  tables : PlayTokenTables

inductive Action where
  | add (ref : Ref)
  | delete (id : String)
  | deleteBySession (sessionId : String)
  | clear
  /-- The permission is what `generate` has made. -/
  | updatePermission (ref : Ref) (permission : Permission)

def start (holders : Ref → PlayTokenHolder) : World := ⟨holders, .new⟩

namespace World

variable (w : World)

def step : Action → World
  | .add ref => { w with tables := stateOf (add ref (w.holders ref) w.tables) }
  | .delete id => { w with tables := stateOf (delete w.holders (some id) w.tables) }
  | .deleteBySession sessionId =>
    { w with tables := stateOf (deleteBySession w.holders sessionId w.tables) }
  | .clear => { w with tables := stateOf (clear w.holders w.tables) }
  | .updatePermission ref permission =>
    { w with holders :=
        Function.update w.holders ref ((w.holders ref).updatePermission permission) }

def Stored (id : String) (ref : Ref) : Prop := w.tables.tokens.get? id = some ref

/-- The indexes hold the ids of the stored tokens under their keys, and the look-ups by a key
return holders that are present. -/
structure Agrees (w : World) : Prop where
  own : ∀ id ref, w.Stored id ref → (w.holders ref).playToken.id = id
  exact : ∀ index name id,
    (∃ tokenIds, (w.tables.maps index).get? name = some tokenIds ∧ id ∈ tokenIds) ↔
      name ≠ "" ∧ ∃ ref, w.Stored id ref ∧ index.key (w.holders ref) = some name
  nonempty : ∀ index name tokenIds,
    (w.tables.maps index).get? name = some tokenIds → tokenIds ≠ []
  present : ∀ index name answer, w.tables.getBy index name = .ok answer → answer.Nodup ∧
    ∀ found ∈ answer, ∃ id ref, found = .own ref ∧ w.Stored id ref ∧
      index.key (w.holders ref) = some name

def Touches (id : String) : Action → Prop
  | .add ref => id = (w.holders ref).playToken.id
  | .delete id' => id = id'
  | .deleteBySession sessionId => ∃ ref, w.Stored id ref ∧ (w.holders ref).sessionId = sessionId
  | .clear => True
  | .updatePermission ref _ => w.Stored id ref

variable (action : Action)

def LeavesOthers : Prop :=
  ∀ id, ¬ w.Touches id action →
    (w.step action).tables.tokens.get? id = w.tables.tokens.get? id ∧
      ∀ ref, w.Stored id ref → (w.step action).holders ref = w.holders ref

/-- A token that is new has no key that every object inherits, and the tokens of a session of
such a name are not deleted where there is a token of the id `undefined`. -/
def Plain : Action → Prop
  | .add ref => w.tables.tokens.property (w.holders ref).playToken.id = .absent →
      ∀ index name, TokensIndex.key index (w.holders ref) = some name → inherited name = none
  | .deleteBySession sessionId => ∀ parameters, inherited sessionId = some (parameters + 1) →
      w.tables.tokens.get? "undefined" = none
  | _ => True

theorem agrees_of_orderly {w : World} (orderly : w.tables.Orderly w.holders) : w.Agrees := by
  have held : ∀ index name id,
      (∃ tokenIds, (w.tables.maps index).get? name = some tokenIds ∧ id ∈ tokenIds) ↔
        id ∈ TokenSets.ids (w.tables.maps index) name := by
    intro index name id
    unfold TokenSets.ids
    cases (w.tables.maps index).get? name with
    | none | some tokenIds => simp
  have exact : ∀ index name id,
      (∃ tokenIds, (w.tables.maps index).get? name = some tokenIds ∧ id ∈ tokenIds) ↔
        name ≠ "" ∧ ∃ ref, w.Stored id ref ∧ index.key (w.holders ref) = some name :=
    fun index name id => (held index name id).trans (orderly.mem_ids_iff index name id)
  refine ⟨orderly.indexed.id, exact, fun index name tokenIds there =>
    (orderly.sound index name tokenIds there).nonempty, fun index name answer answered => ?_⟩
  unfold getBy at answered
  split at answered
  · cases answered
    exact ⟨nodup_nil, fun _ there => (not_mem_nil there).elim⟩
  · cases property : (w.tables.maps index).property name with
    | absent =>
      rw [property] at answered
      cases answered
      exact ⟨nodup_nil, fun _ there => (not_mem_nil there).elim⟩
    | inherited length =>
      rw [property] at answered
      cases answered
    | own tokenIds =>
      rw [property] at answered
      cases answered
      have there := (PlainObject.property_eq_own_iff _ _ tokenIds).mp property
      have stored : ∀ id ∈ tokenIds, ∃ ref, w.tables.tokens.property id = .own ref ∧
          w.Stored id ref ∧ index.key (w.holders ref) = some name := by
        intro id inSet
        obtain ⟨-, ref, stored, keyed⟩ := (exact index name id).mp ⟨tokenIds, there, inSet⟩
        exact ⟨ref, (PlainObject.property_eq_own_iff _ _ ref).mpr stored, stored, keyed⟩
      constructor
      · refine Nodup.map_on ?_ (orderly.sound index name tokenIds there).nodup
        intro id inSet id' inSet' same
        obtain ⟨ref, isOwn, isStored, -⟩ := stored id inSet
        obtain ⟨ref', isOwn', isStored', -⟩ := stored id' inSet'
        rw [isOwn, isOwn'] at same
        cases same
        exact (orderly.indexed.id id ref isStored).symm.trans
          (orderly.indexed.id id' ref isStored')
      · intro found inAnswer
        obtain ⟨id, inSet, rfl⟩ := mem_map.mp inAnswer
        obtain ⟨ref, isOwn, isStored, keyed⟩ := stored id inSet
        exact ⟨id, ref, isOwn, isStored, keyed⟩

/-- `delete(undefined)` where no token has the text for its id. -/
theorem forM_delete_undefined (holders : Ref → PlayTokenHolder) (tables : PlayTokenTables)
    (absent : tables.tokens.get? "undefined" = none) (times : Nat) :
    (replicate times none).forM (delete holders) tables = .ok () tables := by
  have first : delete holders none tables = .ok () tables := by
    unfold delete
    rw [bind_run, get_run]
    dsimp only [propertyName, Option.getD_none]
    rw [(PlainObject.property_eq_absent_iff _ _).mpr ⟨absent, rfl⟩]
    rfl
  induction times with
  | zero => rfl
  | succ times ih =>
    change (delete holders none >>= fun _ => (replicate times none).forM (delete holders)) _ = _
    rw [bind_run, first]
    exact ih

/-- `delete(undefined)` takes away the token whose id is the text. -/
theorem tokens_delete_undefined (holders : Ref → PlayTokenHolder) (tables : PlayTokenTables) :
    (stateOf (delete holders none tables)).tokens.get? "undefined" = none := by
  unfold delete
  rw [bind_run, get_run]
  dsimp only [propertyName, Option.getD_none]
  cases property : tables.tokens.property "undefined" with
  | absent => exact ((PlainObject.property_eq_absent_iff _ _).mp property).1
  | inherited length => exact ((PlainObject.property_eq_inherited_iff _ _ _).mp property).1
  | own ref =>
    have kept := tokens_forM_alter
      (fun index sets => TokenSets.delete sets (index.key (holders ref)) none) TokensIndex.all
      { tables with tokens := tables.tokens.delete "undefined" }
    have gone := (tables.tokens.get?_delete "undefined" "undefined").trans (if_pos rfl)
    exact (congrArg (fun tokens => tokens.get? "undefined") kept).trans gone

section Tables

variable {holders : Ref → PlayTokenHolder} {tables : PlayTokenTables}
  (orderly : tables.Orderly holders)

include orderly

theorem orderly_add (ref : Ref) (plain : World.Plain ⟨holders, tables⟩ (.add ref)) :
    (stateOf (add ref (holders ref) tables)).Orderly holders ∧
      ∀ id, id ≠ (holders ref).playToken.id →
        (stateOf (add ref (holders ref) tables)).tokens.get? id =
          tables.tokens.get? id := by
  by_cases absent : tables.tokens.property (holders ref).playToken.id = .absent
  · obtain ⟨tables', run, same, orderly'⟩ :=
      add_eq orderly ref absent (plain absent)
    rw [run, stateOf_ok]
    refine ⟨orderly', fun id other => ?_⟩
    have tokens := congrArg (fun store => PlayTokenStore.tokens store id) same
    change tables'.tokens.get? id = _ at tokens
    rw [tokens]
    unfold PlayTokenStore.add
    dsimp only
    split
    · rfl
    · exact Function.update_of_ne other ..
  · have known : add ref (holders ref) tables = .ok () tables := by
      unfold add
      rw [bind_run, get_run]
      dsimp only
      cases property : tables.tokens.property (holders ref).playToken.id with
      | absent => exact absurd property absent
      | own ref' | inherited length => rfl
    rw [known, stateOf_ok]
    exact ⟨orderly, fun _ _ => rfl⟩

theorem tokens_delete (id id' : String) (other : id' ≠ id) :
    (stateOf (delete holders (some id) tables)).tokens.get? id' =
      tables.tokens.get? id' := by
  have same := (delete_eq orderly id).1
  have tokens := congrArg (fun store => PlayTokenStore.tokens store id') same
  change (stateOf (delete holders (some id) tables)).tokens.get? id' = _ at tokens
  rw [tokens, PlayTokenStore.tokens_delete, if_neg other]
  rfl

theorem orderly_forM_delete (ids : List String) (plain : ∀ id ∈ ids, inherited id = none) :
    (stateOf (ids.forM (fun id => delete holders (some id)) tables)).Orderly holders ∧
      ∀ id, (stateOf (ids.forM (fun id => delete holders (some id)) tables)).tokens.get? id =
        if id ∈ ids then none else tables.tokens.get? id := by
  obtain ⟨tables', run, same, orderly'⟩ := forM_delete ids plain orderly
  rw [run, stateOf_ok]
  refine ⟨orderly', fun id => ?_⟩
  have tokens := congrArg (fun store => PlayTokenStore.tokens store id) same
  change tables'.tokens.get? id = _ at tokens
  rw [tokens, PlayTokenStore.tokens_foldl_delete]
  rfl

theorem deleteBySession_run (sessionId : String)
    (plain : World.Plain ⟨holders, tables⟩ (.deleteBySession sessionId)) :
    ∃ ids : List String, deleteBySession holders sessionId tables =
        ids.forM (fun id => delete holders (some id)) tables ∧
      (∀ id ∈ ids, inherited id = none) ∧
      ∀ id ref, tables.tokens.get? id = some ref → id ∈ ids →
        (holders ref).sessionId = sessionId := by
  unfold deleteBySession
  rw [bind_run, get_run]
  dsimp only
  cases property : (tables.maps .session).property sessionId with
  | absent =>
    exact ⟨[], rfl, fun _ there => (not_mem_nil there).elim,
      fun _ _ _ there => (not_mem_nil there).elim⟩
  | own ids =>
    have found := (PlainObject.property_eq_own_iff _ _ ids).mp property
    have held : ∀ id ∈ ids, ∃ ref, tables.tokens.get? id = some ref ∧
        (holders ref).sessionId = sessionId := by
      intro id there
      have inIds : id ∈ TokenSets.ids (tables.maps .session) sessionId := by
        rw [TokenSets.ids, found]
        exact there
      obtain ⟨-, ref, stored, keyed⟩ := (orderly.mem_ids_iff .session sessionId id).mp inIds
      exact ⟨ref, stored, Option.some.inj keyed⟩
    refine ⟨ids, rfl, fun id there => ?_, fun id ref stored there => ?_⟩
    · obtain ⟨ref, stored, -⟩ := held id there
      exact orderly.plain id ref stored
    · obtain ⟨ref', stored', owned⟩ := held id there
      rw [stored] at stored'
      cases stored'
      exact owned
  | inherited length =>
    refine ⟨[], ?_, fun _ there => (not_mem_nil there).elim,
      fun _ _ _ there => (not_mem_nil there).elim⟩
    cases length with
    | zero => rfl
    | succ parameters =>
      have name := ((PlainObject.property_eq_inherited_iff _ _ _).mp property).2
      exact forM_delete_undefined holders tables (plain parameters name) _

theorem tokens_deleteBySession_inherited (sessionId : String) (parameters : Nat)
    (taken : inherited sessionId = some (parameters + 1)) :
    (stateOf (deleteBySession holders sessionId tables)).tokens.get? "undefined" =
      none := by
  have taken' : inherited sessionId ≠ none := by
    rw [taken]
    exact Option.some_ne_none _
  have property := (PlainObject.property_eq_inherited_iff (tables.maps .session) sessionId
    (parameters + 1)).mpr ⟨(orderly.sound .session).get?_inherited sessionId taken', taken⟩
  unfold deleteBySession
  rw [bind_run, get_run]
  dsimp only
  rw [property]
  change (stateOf ((delete holders none >>= fun _ =>
    (replicate parameters none).forM (delete holders)) tables)).tokens.get? "undefined" = none
  rw [bind_run]
  have gone := tokens_delete_undefined holders tables
  cases first : delete holders none tables with
  | error err tables' =>
    rw [first] at gone
    exact gone
  | ok _ tables' =>
    rw [first] at gone
    dsimp only
    rw [forM_delete_undefined holders tables' gone]
    exact gone

theorem orderly_clear : (stateOf (clear holders tables)).Orderly holders := by
  refine (orderly_forM_delete orderly tables.tokens.keys fun id there => ?_).1
  obtain ⟨ref, stored⟩ := Option.isSome_iff_exists.mp ((PlainObject.mem_keys _ id).mp there)
  exact orderly.plain id ref stored

end Tables

/-- The invariant of the runs. -/
def Orderly (w : World) : Prop := w.tables.Orderly w.holders

theorem orderly_step (orderly : w.Orderly)
    (plain : w.Plain action) : (w.step action).Orderly := by
  cases action with
  | add ref => exact (orderly_add orderly ref plain).1
  | delete id => exact (delete_eq orderly id).2.1
  | deleteBySession sessionId =>
    obtain ⟨ids, run, plainIds, -⟩ := deleteBySession_run orderly sessionId plain
    change (stateOf (deleteBySession w.holders sessionId w.tables)).Orderly _
    rw [run]
    exact (orderly_forM_delete orderly ids plainIds).1
  | clear => exact orderly_clear orderly
  | updatePermission ref permission =>
    refine ⟨orderly.indexed.congr fun id ref' _ => ?_, orderly.sound, orderly.plain⟩
    by_cases same : ref' = ref
    · subst same
      change (w.holders ref').SameIdentity (Function.update w.holders ref' _ ref')
      rw [Function.update_self]
      exact PlayTokenHolder.sameIdentity_updatePermission (w.holders ref') permission
    · change (w.holders ref').SameIdentity (Function.update w.holders ref _ ref')
      rw [Function.update_of_ne same]
      exact PlayTokenHolder.SameIdentity.refl _

theorem leavesOthers (orderly : w.Orderly)
    (plain : w.Plain action) : w.LeavesOthers action := by
  intro id other
  cases action with
  | add ref => exact ⟨(orderly_add orderly ref plain).2 id other, fun _ _ => rfl⟩
  | delete id' => exact ⟨tokens_delete orderly id' id other, fun _ _ => rfl⟩
  | deleteBySession sessionId =>
    obtain ⟨ids, run, plainIds, owned⟩ := deleteBySession_run orderly sessionId plain
    refine ⟨?_, fun _ _ => rfl⟩
    change (stateOf (deleteBySession w.holders sessionId
      w.tables)).tokens.get? id = _
    rw [run, (orderly_forM_delete orderly ids plainIds).2 id]
    split
    · next there =>
      cases stored : w.tables.tokens.get? id with
      | none => rfl
      | some ref =>
        exact absurd ⟨ref, stored, owned id ref stored there⟩ other
    · rfl
  | clear => exact absurd trivial other
  | updatePermission ref permission =>
    refine ⟨rfl, fun ref' stored => ?_⟩
    refine Function.update_of_ne ?_ ..
    rintro rfl
    exact other stored

/-- An operation that is not plain leaves the indexes wrong, or takes another token away. -/
theorem plain_of_kept (orderly : w.Orderly)
    (agrees : (w.step action).Agrees) (leaves : w.LeavesOthers action) : w.Plain action := by
  cases action with
  | add ref =>
    intro absent index name keyed
    by_contra taken
    obtain ⟨index, name, keyed, named, stored, unlisted⟩ :=
      add_inherited orderly ref absent index name keyed taken
    obtain ⟨tokenIds, there, -⟩ := (agrees.exact index name (w.holders ref).playToken.id).mpr
      ⟨named, ref, stored, keyed⟩
    exact absurd (there.symm.trans unlisted) (Option.some_ne_none _)
  | deleteBySession sessionId =>
    intro parameters taken
    by_contra there
    obtain ⟨ref, stored⟩ := Option.ne_none_iff_exists'.mp there
    have other : ¬ w.Touches "undefined" (.deleteBySession sessionId) := by
      rintro ⟨ref', stored', rfl⟩
      have named : (w.holders ref').sessionId ≠ "" := by
        intro empty
        rw [empty] at taken
        cases taken
      obtain ⟨tokenIds, listed, -⟩ := ((agrees_of_orderly orderly).exact .session _ _).mpr
        ⟨named, ref', stored', rfl⟩
      rw [(orderly.sound .session _ tokenIds listed).plain] at taken
      cases taken
    have kept := (leaves "undefined" other).1
    rw [stored] at kept
    have gone := tokens_deleteBySession_inherited orderly sessionId parameters taken
    exact absurd (kept.symm.trans gone) (Option.some_ne_none _)
  | delete id | clear | updatePermission ref permission => trivial

end World

/-- The indexes agree after every operation, and every operation leaves the other tokens as they
were, exactly if no operation comes upon an inherited property. -/
theorem agrees_iff_plain (holders : Ref → PlayTokenHolder) (actions : List Action) :
    Run.Allowed World.step World.Plain (start holders) actions ↔
      (∀ front, front <+: actions → (Run.final World.step (start holders) front).Agrees) ∧
        ∀ front action, front ++ [action] <+: actions →
          (Run.final World.step (start holders) front).LeavesOthers action := by
  have begins : (start holders).Orderly := orderly_new holders
  have exactly : ∀ w action, World.Orderly w →
      (w.Plain action ↔ (w.step action).Agrees ∧ w.LeavesOthers action) := by
    intro w action orderly
    constructor
    · intro plain
      exact ⟨World.agrees_of_orderly (World.orderly_step w action orderly plain),
        World.leavesOthers w action orderly plain⟩
    · rintro ⟨agrees, leaves⟩
      exact World.plain_of_kept w action orderly agrees leaves
  rw [Run.allowed_iff_of_invariant World.orderly_step exactly _ _ begins,
    Run.allowed_iff_prefix]
  constructor
  · intro each
    refine ⟨fun front before => ?_, fun front action before => (each front action before).2⟩
    rcases eq_nil_or_concat' front with rfl | ⟨front, action, rfl⟩
    · exact World.agrees_of_orderly begins
    · rw [Run.final_append]
      exact (each front action before).1
  · rintro ⟨agrees, leaves⟩ front action before
    refine ⟨?_, leaves front action before⟩
    have after := agrees (front ++ [action]) before
    rw [Run.final_append] at after
    exact after

def userHolder (userId : String) : PlayTokenHolder :=
  .new ⟨"7", "1", .initial, some ⟨some userId, []⟩⟩ "s" none

/-- The token is stored, and not under its user. -/
theorem constructor_unlisted :
    ¬ (Run.final World.step (start fun _ => userHolder "constructor") [.add 0]).Agrees := by
  intro agrees
  have stored : (Run.final World.step (start fun _ => userHolder "constructor")
      [.add 0]).tables.tokens.get? "7" = some 0 := by decide
  obtain ⟨tokenIds, there, -⟩ := (agrees.exact .user "constructor" "7").mpr
    ⟨by decide, 0, stored, rfl⟩
  have none : ((Run.final World.step (start fun _ => userHolder "constructor")
      [.add 0]).tables.maps .user).get? "constructor" = none := by decide
  rw [none] at there
  cases there

end TokenIndexes
end AkashicSystem.PlaylogServer
