import AkashicSystem.PlaylogServer.TokenSessions

/-!
# What an event that updates permissions changes

The changes that a validator makes to the permissions of its holders, each with the walk that
makes it: an event changes the tokens that it names and their children, and no others.
-/

set_option autoImplicit false

namespace AkashicSystem.PlaylogServer

open AkashicSystem.Js Validator Function List

structure Change where
  walk : Nat
  ref : Ref
  permission : Permission

namespace Change

def apply (ref : Ref) (permission : Permission) (change : Change) : Permission :=
  if change.ref = ref then change.permission else permission

variable {ref : Ref} {permission : Permission} {changes : List Change}

theorem foldl_apply_of_ne (others : ∀ change ∈ changes, change.ref ≠ ref) :
    changes.foldl (apply ref) permission = permission := by
  induction changes generalizing permission with
  | nil => rfl
  | cons change rest ih =>
    rw [foldl_cons, apply, if_neg (others change mem_cons_self)]
    exact ih fun change' there => others change' (mem_cons_of_mem _ there)

theorem foldl_apply_of_same {old : Permission}
    (same : ∀ change ∈ changes, change.ref = ref → change.permission = permission)
    (some' : old = permission ∨ ∃ change ∈ changes, change.ref = ref) :
    changes.foldl (apply ref) old = permission := by
  induction changes generalizing old with
  | nil =>
    rcases some' with now | ⟨change, there, -⟩
    · exact now
    · cases there
  | cons change rest ih =>
    rw [foldl_cons]
    apply ih fun change' there => same change' (mem_cons_of_mem _ there)
    by_cases its : change.ref = ref
    · left
      rw [apply, if_pos its]
      exact same change mem_cons_self its
    · rw [apply, if_neg its]
      rcases some' with now | ⟨change', there, its'⟩
      · exact .inl now
      · rcases mem_cons.mp there with rfl | there
        · exact absurd its' its
        · exact .inr ⟨change', there, its'⟩

end Change

namespace Validator

/-- What `_updatePermission` changes, within a walk. -/
def changesAt (v : Validator) (walk : Nat) (ref : Ref) : List Change :=
  match (v.walks walk).update with
  | .revoke => []
  | .permission permission =>
    if (v.holders ref).playToken.id ∈ (v.walks walk).visited then []
    else [⟨walk, ref, permission⟩]

def changesOf (permission : Permission) : Nat → List Ref → List Change
  | _, [] => []
  | walk, ref :: rest => ⟨walk, ref, permission⟩ :: changesOf permission (walk + 1) rest

def changes (v : Validator) : Action → List Change
  | .updatePermission req (some permission) =>
    match permission.generate with
    | none => []
    | some permission => changesOf permission v.nextWalk (v.targets req)
  | .immediate index =>
    match v.immediates[index]? with
    | none => []
    | some immediate => v.changesAt immediate.walk immediate.child
  | _ => []

section Permissions

variable (v : Validator) (ref : Ref)

theorem permission_visit (walk : Nat) (visited : Ref) :
    ((v.visit walk visited).holders ref).playToken.permission =
      (v.changesAt walk visited).foldl (Change.apply ref) (v.holders ref).playToken.permission := by
  unfold changesAt
  by_cases seen : (v.holders visited).playToken.id ∈ (v.walks walk).visited
  · rw [visit_of_mem v walk visited seen]
    split
    · rfl
    · rw [if_pos seen]
      rfl
  · rw [visit_of_notMem v walk visited seen]
    dsimp only
    by_cases same : ref = visited
    · subst same
      rw [update_self]
      split
      · next revoking =>
        rw [revoking]
        rfl
      · next permission updating =>
        rw [updating, if_neg seen, foldl_cons, Change.apply, if_pos rfl]
        rfl
    · rw [update_of_ne same]
      split
      · rfl
      · rw [if_neg seen, foldl_cons, Change.apply, if_neg (Ne.symm same)]
        rfl

theorem permission_walkFrom (permission : Permission) (target : Ref) :
    ((walkFrom (.permission permission) v target).holders ref).playToken.permission =
      Change.apply ref (v.holders ref).playToken.permission ⟨v.nextWalk, target, permission⟩ := by
  rw [walkFrom_eq, permission_visit]
  simp [changesAt, beginWalk]

theorem permission_foldl (permission : Permission) (refs : List Ref) :
    ((refs.foldl (walkFrom (.permission permission)) v).holders ref).playToken.permission =
      (changesOf permission v.nextWalk refs).foldl (Change.apply ref)
        (v.holders ref).playToken.permission := by
  induction refs generalizing v with
  | nil => rfl
  | cons target rest ih =>
    rw [foldl_cons, ih, nextWalk_walkFrom, permission_walkFrom]
    rfl

theorem permission_foldl_revoke (refs : List Ref) :
    ((refs.foldl (walkFrom .revoke) v).holders ref).playToken.permission =
      (v.holders ref).playToken.permission := by
  induction refs generalizing v with
  | nil => rfl
  | cons target rest ih =>
    rw [foldl_cons, ih, walkFrom_eq, permission_visit]
    simp [changesAt, beginWalk]

theorem permission_step (action : Action) (known : ref < v.next) :
    ((v.step action).holders ref).playToken.permission =
      (v.changes action).foldl (Change.apply ref) (v.holders ref).playToken.permission := by
  have added (holder : PlayTokenHolder) : (v.onValidated holder).holders ref = v.holders ref :=
    update_of_ne (Nat.ne_of_lt known) ..
  cases action with
  | validate sessionId =>
    show ((v.validate sessionId).holders ref).playToken.permission = _
    unfold validate
    split <;> rfl
  | validated sessionId token =>
    show ((v.onValidated _).holders ref).playToken.permission = _
    rw [added]
    rfl
  | derived sessionId playId tokenId parentPlays =>
    show ((v.validateBySession _ _ _ _).holders ref).playToken.permission = _
    unfold validateBySession
    split
    · rfl
    · rfl
    · rw [added]
      rfl
  | closed sessionId =>
    show ((v.onSessionClose sessionId).holders ref).playToken.permission = _
    rw [(onSessionClose_frame v sessionId).2.1]
    rfl
  | revoke req => exact permission_foldl_revoke v ref (v.targets req)
  | updatePermission req permission =>
    show ((v.onUpdatePermissionEvent req permission).holders ref).playToken.permission = _
    unfold onUpdatePermissionEvent changes
    cases permission with
    | none => rfl
    | some permission =>
      cases generated : permission.generate with
      | none =>
        simp only [generated]
        rfl
      | some permission' =>
        simp only [generated]
        exact permission_foldl v ref permission' (v.targets req)
  | immediate index =>
    show ((v.runImmediate index).holders ref).playToken.permission = _
    unfold changes
    rcases runImmediate_eq v index with ⟨none', eq⟩ | ⟨immediate, there, eq⟩
    · rw [eq]
      simp only [none']
      rfl
    · rw [eq, permission_visit]
      simp only [there]
      rfl

end Permissions

section Selection

variable {v v' : Validator}

theorem of_mem_get {tokensMap : TokensMap} {key : PlayTokenHolder → Option String}
    (indexed : v.store.MapIndexed v.holders tokensMap key) (name : String) (ref : Ref)
    (there : ref ∈ v.store.get tokensMap name) :
    (∃ id, v.store.tokens id = some ref) ∧ key (v.holders ref) = some name := by
  obtain ⟨id, listed, stored⟩ := mem_filterMap.mp there
  obtain ⟨-, ref', stored', keyed⟩ := (indexed name id).mp listed
  rw [stored] at stored'
  cases stored'
  exact ⟨⟨id, stored⟩, keyed⟩

theorem of_mem_targets (indexed : v.store.Indexed v.holders) (req : TokenEvent) (ref : Ref)
    (there : ref ∈ v.targets req) :
    (∃ id, v.store.tokens id = some ref) ∧ req.Matches (v.holders ref).playToken := by
  unfold targets at there
  unfold TokenEvent.Matches
  cases givenId : given req.id with
  | some id =>
    rw [givenId] at there
    cases stored : v.store.tokens id with
    | none => simp [stored] at there
    | some target =>
      have named := indexed.id id target stored
      cases givenPlay : given req.playId <;> cases givenUser : given req.userId <;>
        simp only [stored, givenPlay, givenUser] at there
      · rw [mem_singleton] at there
        subst there
        exact ⟨⟨id, stored⟩, by simpa using named⟩
      · split at there
        · next user =>
          rw [mem_singleton] at there
          subst there
          exact ⟨⟨id, stored⟩, by simpa using ⟨named, user⟩⟩
        · cases there
      · split at there
        · next play =>
          rw [mem_singleton] at there
          subst there
          exact ⟨⟨id, stored⟩, by simpa using ⟨named, play⟩⟩
        · cases there
      · split at there
        · next both =>
          rw [mem_singleton] at there
          subst there
          exact ⟨⟨id, stored⟩, by simpa using ⟨named, both⟩⟩
        · cases there
  | none =>
    cases givenPlay : given req.playId <;> cases givenUser : given req.userId <;>
      simp only [givenId, givenPlay, givenUser] at there
    · cases there
    · obtain ⟨stored, user⟩ := of_mem_get indexed.user _ ref there
      exact ⟨stored, by simpa using user⟩
    · obtain ⟨stored, play⟩ := of_mem_get indexed.play _ ref there
      exact ⟨stored, by simpa using play⟩
    · obtain ⟨inPlay, user⟩ := mem_filter.mp there
      obtain ⟨stored, play⟩ := of_mem_get indexed.play _ ref inPlay
      exact ⟨stored, by simpa using ⟨Option.some.inj play, of_decide_eq_true user⟩⟩

end Selection

/-- What the store and the walks of a validator keep, beside `Sound`. -/
structure Rooted (v : Validator) : Prop where
  sound : v.Sound
  named : "" ∉ v.sessions
  all : ∀ ref < v.next, ref ∈ v.validated
  walks : ∀ immediate ∈ v.immediates, immediate.walk < v.nextWalk
  /-- The parent of a token in the store is there too, for the same session. -/
  parented : ∀ id child, v.store.tokens id = some child →
    ∀ parentId, (v.holders child).parentId = some parentId →
      ∃ parent, v.store.tokens parentId = some parent ∧ (v.holders parent).parentId = none ∧
        (v.holders child).sessionId = (v.holders parent).sessionId

def NamesSession : Action → Prop
  | .validate sessionId => sessionId ≠ ""
  | _ => True

section Rooted

variable {v v' : Validator}

theorem rooted_new : new.Rooted := by
  refine ⟨sound_new, ?_, ?_, ?_, ?_⟩
  · intro there
    cases there
  · intro ref known
    exact absurd known (Nat.not_lt_zero _)
  · intro immediate there
    cases there
  · intro id child stored
    cases stored

section

variable (rooted : v.Rooted)
include rooted

theorem Rooted.childless (ref : Ref) (known : ref < v.next)
    (derived : (v.holders ref).parentId ≠ none) :
    v.store.getByParent (v.holders ref).playToken.id = [] := by
  rw [eq_nil_iff_forall_not_mem]
  intro child there
  obtain ⟨⟨id, stored⟩, parentId⟩ := of_mem_get rooted.sound.indexed.parent _ child there
  obtain ⟨parent, stored', root, -⟩ := rooted.parented id child stored _ parentId
  have same := rooted.sound.derived ref known derived parent
    (rooted.sound.stored _ parent stored') (rooted.sound.indexed.id _ parent stored')
  rw [same] at root
  exact derived root

theorem Rooted.of_kept (kept : v.Kept v') (sessions : v'.sessions = v.sessions)
    (sound : v'.Sound) (walks : ∀ immediate ∈ v'.immediates, immediate.walk < v'.nextWalk) :
    v'.Rooted where
  sound := sound
  named := by
    rw [sessions]
    exact rooted.named
  all ref known := by
    rw [kept.next] at known
    rw [kept.validated]
    exact rooted.all ref known
  walks := walks
  parented id child stored parentId derived := by
    rw [kept.store] at stored
    rw [(kept.identity child).parent] at derived
    obtain ⟨parent, stored', root, session⟩ := rooted.parented id child stored parentId derived
    rw [kept.store]
    refine ⟨parent, stored', ?_, ?_⟩
    · rw [(kept.identity parent).parent, root]
    · rw [(kept.identity child).session, (kept.identity parent).session, session]

theorem Rooted.onValidated (holder : PlayTokenHolder)
    (absent : v.store.tokens holder.playToken.id = none) (sound : (v.onValidated holder).Sound)
    (parented : ∀ parentId, holder.parentId = some parentId →
      ∃ parent, v.store.tokens parentId = some parent ∧ (v.holders parent).parentId = none ∧
        holder.sessionId = (v.holders parent).sessionId) : (v.onValidated holder).Rooted := by
  have old : ∀ ref < v.next, (v.onValidated holder).holders ref = v.holders ref :=
    fun ref known => update_of_ne (Nat.ne_of_lt known) ..
  have new : (v.onValidated holder).holders v.next = holder := update_self ..
  have tokens := tokens_onValidated holder absent
  have stays (parentId : String) (parent : Ref) (stored : v.store.tokens parentId = some parent) :
      (v.onValidated holder).store.tokens parentId = some parent := by
    rw [tokens, update_of_ne, stored]
    rintro rfl
    rw [absent] at stored
    cases stored
  refine ⟨sound, rooted.named, ?_, rooted.walks, ?_⟩
  · intro ref known
    rcases Nat.lt_succ_iff_lt_or_eq.mp known with before | rfl
    · exact mem_append_left _ (rooted.all ref before)
    · exact mem_append_right _ (mem_singleton.mpr rfl)
  · intro id child stored parentId derived
    have before : ∃ parent, v.store.tokens parentId = some parent ∧
        (v.holders parent).parentId = none ∧
        ((v.onValidated holder).holders child).sessionId = (v.holders parent).sessionId := by
      rw [tokens] at stored
      by_cases same : id = holder.playToken.id
      · subst same
        rw [update_self] at stored
        cases stored
        rw [new] at derived ⊢
        exact parented parentId derived
      · rw [update_of_ne same] at stored
        rw [old child (rooted.sound.stored id child stored)] at derived ⊢
        exact rooted.parented id child stored parentId derived
    obtain ⟨parent, stored', root, session⟩ := before
    refine ⟨parent, stays parentId parent stored', ?_, ?_⟩
    · rw [old parent (rooted.sound.stored _ parent stored'), root]
    · rw [session, old parent (rooted.sound.stored _ parent stored')]

theorem Rooted.validateBySession (sessionId playId tokenId : String)
    (parentPlays : List (String × Option Boundary))
    (own : ∀ ref < v.next, (v.holders ref).playToken.id ≠ tokenId)
    (sound : (v.validateBySession sessionId playId tokenId parentPlays).Sound) :
    (v.validateBySession sessionId playId tokenId parentPlays).Rooted := by
  have absent : v.store.tokens tokenId = none := by
    cases stored : v.store.tokens tokenId with
    | none => rfl
    | some ref =>
      exact absurd (rooted.sound.indexed.id tokenId ref stored)
        (own ref (rooted.sound.stored _ ref stored))
  unfold Validator.validateBySession at sound ⊢
  split
  · exact rooted
  · exact rooted
  · next parent permission rest found =>
    simp only [found] at sound
    apply rooted.onValidated _ absent sound
    intro parentId its
    obtain ⟨ref, inSession, -, root, token⟩ :=
      mem_getParentPlayInfo sessionId parentPlays _ found parent permission mem_cons_self
    obtain ⟨⟨id, stored⟩, session⟩ := of_mem_get rooted.sound.indexed.session _ ref inSession
    have same : parentId = id := by
      rw [← rooted.sound.indexed.id id ref stored, token]
      exact (Option.some.inj its).symm
    rw [same]
    exact ⟨ref, stored, root, (Option.some.inj session).symm⟩

end

theorem still_onSessionClose (v : Validator) (sessionId : String) :
    (v.onSessionClose sessionId).validated = v.validated ∧
      (v.onSessionClose sessionId).walks = v.walks ∧
      (v.onSessionClose sessionId).immediates = v.immediates ∧
      (v.onSessionClose sessionId).nextWalk = v.nextWalk := by
  unfold onSessionClose
  split <;> exact ⟨rfl, rfl, rfl, rfl⟩

theorem Rooted.onSessionClose (rooted : v.Rooted) (sessionId : String) :
    (v.onSessionClose sessionId).Rooted := by
  have named : sessionId ∈ v.sessions → sessionId ≠ "" := by
    rintro there rfl
    exact rooted.named there
  obtain ⟨-, holders, next, sessions⟩ := onSessionClose_frame v sessionId
  have same := still_onSessionClose v sessionId
  have tokens := tokens_onSessionClose rooted.sound.indexed sessionId named
  refine ⟨rooted.sound.onSessionClose sessionId, ?_, ?_, ?_, ?_⟩
  · intro there
    exact rooted.named ((sessions "").mp there).1
  · intro ref known
    rw [next] at known
    rw [same.1]
    exact rooted.all ref known
  · rw [same.2.2.1, same.2.2.2]
    exact rooted.walks
  · intro id child stored parentId derived
    obtain ⟨stored, other⟩ := (tokens id child).mp stored
    rw [holders] at derived ⊢
    obtain ⟨parent, stored', root, session⟩ := rooted.parented id child stored parentId derived
    refine ⟨parent, (tokens parentId parent).mpr ⟨stored', ?_⟩, root, session⟩
    rw [← session]
    exact other

def Within (first past walk : Nat) : Prop := first ≤ walk ∧ walk < past

instance (first past : Nat) : DecidablePred (Within first past) :=
  fun walk => inferInstanceAs (Decidable (first ≤ walk ∧ walk < past))

structure Begins (v v' : Validator) : Prop where
  sessions : v'.sessions = v.sessions
  walks : ∀ walk < v.nextWalk, v'.walks walk = v.walks walk
  immediates : ∀ immediate ∈ v'.immediates, immediate ∈ v.immediates ∨
    Within v.nextWalk v'.nextWalk immediate.walk

theorem walkFrom_spec (update : Update) (v : Validator) (ref : Ref) :
    walkFrom update v ref =
      { v with
        holders := Function.update v.holders ref (update.apply (v.holders ref))
        walks := Function.update v.walks v.nextWalk ⟨update, [(v.holders ref).playToken.id]⟩
        nextWalk := v.nextWalk + 1
        immediates := v.immediates ++
          (v.store.getByParent (v.holders ref).playToken.id).map fun child =>
            ⟨v.nextWalk, child⟩ } := by
  simp [walkFrom, visit]

theorem begins_walkFrom (update : Update) (v : Validator) (ref : Ref) :
    v.Begins (walkFrom update v ref) := by
  rw [walkFrom_spec]
  refine ⟨rfl, fun walk old => update_of_ne (Nat.ne_of_lt old) .., ?_⟩
  intro immediate there
  rcases mem_append.mp there with before | now
  · exact .inl before
  · obtain ⟨child, -, rfl⟩ := mem_map.mp now
    exact .inr ⟨Nat.le_refl _, Nat.lt_succ_self _⟩

theorem begins_foldl (update : Update) (refs : List Ref) (v : Validator) :
    v.Begins (refs.foldl (walkFrom update) v) := by
  induction refs generalizing v with
  | nil => exact ⟨rfl, fun _ _ => rfl, fun _ => .inl⟩
  | cons ref rest ih =>
    rw [foldl_cons]
    have now := begins_walkFrom update v ref
    have later := ih (walkFrom update v ref)
    have grows : v.nextWalk ≤ (walkFrom update v ref).nextWalk :=
      (kept_walkFrom update v ref).nextWalk
    have grows' := (kept_foldl update rest (walkFrom update v ref)).nextWalk
    refine ⟨later.sessions.trans now.sessions, ?_, ?_⟩
    · intro walk old
      rw [later.walks walk (Nat.lt_of_lt_of_le old grows), now.walks walk old]
    · intro immediate there
      rcases later.immediates immediate there with before | ⟨from', below⟩
      · rcases now.immediates immediate before with before | ⟨from', below⟩
        · exact .inl before
        · exact .inr ⟨from', Nat.lt_of_lt_of_le below grows'⟩
      · exact .inr ⟨Nat.le_trans grows from', below⟩

theorem Rooted.foldl_walkFrom (rooted : v.Rooted) (update : Update) (refs : List Ref)
    (known : ∀ ref ∈ refs, ref < v.next) : (refs.foldl (walkFrom update) v).Rooted := by
  have kept := kept_foldl update refs v
  have begins := begins_foldl update refs v
  refine rooted.of_kept kept begins.sessions (rooted.sound.foldl_walkFrom update refs known) ?_
  intro immediate there
  rcases begins.immediates immediate there with before | ⟨-, below⟩
  · exact Nat.lt_of_lt_of_le (rooted.walks immediate before) kept.nextWalk
  · exact below

theorem nextWalk_visit (v : Validator) (walk : Nat) (ref : Ref) :
    (v.visit walk ref).nextWalk = v.nextWalk := by
  unfold visit
  dsimp only
  split <;> rfl

theorem walks_visit_of_ne (v : Validator) (walk : Nat) (ref : Ref) {other : Nat}
    (ne : other ≠ walk) : (v.visit walk ref).walks other = v.walks other := by
  unfold visit
  dsimp only
  split
  · rfl
  · exact update_of_ne ne ..

theorem immediates_visit (v : Validator) (walk : Nat) (ref : Ref) (immediate : Immediate)
    (there : immediate ∈ (v.visit walk ref).immediates) :
    immediate ∈ v.immediates ∨ (immediate.walk = walk ∧
      immediate.child ∈ v.store.getByParent (v.holders ref).playToken.id) := by
  unfold visit at there
  dsimp only at there
  split at there
  · exact .inl there
  · rcases mem_append.mp there with before | now
    · exact .inl before
    · obtain ⟨child, isChild, rfl⟩ := mem_map.mp now
      exact .inr ⟨rfl, isChild⟩

theorem Rooted.immediate (rooted : v.Rooted) (index : Nat) : (v.runImmediate index).Rooted := by
  rcases runImmediate_eq v index with ⟨_, eq⟩ | ⟨immediate, at_, eq⟩
  · rw [eq]
    exact rooted
  · have there := mem_of_getElem? at_
    have dequeued : (v.dequeue index).Rooted :=
      { rooted with
        sound := rooted.sound.dequeue index
        walks := fun other left => rooted.walks other (mem_of_mem_eraseIdx left) }
    rw [eq]
    have untouched := untouched_visit (v.dequeue index) immediate.walk immediate.child
    refine dequeued.of_kept untouched.kept untouched.sessions ?_ ?_
    · exact dequeued.sound.visit _ _ (rooted.sound.pending immediate there)
    · intro other scheduled
      rw [nextWalk_visit]
      rcases immediates_visit _ _ _ other scheduled with before | ⟨its, -⟩
      · exact dequeued.walks other before
      · rw [its]
        exact rooted.walks immediate there

theorem rooted_step (action : Action) (rooted : v.Rooted) (named : NamesSession action)
    (allowed : v.Fresh action ∧ v.Unhidden action) : (v.step action).Rooted := by
  have sound : (v.step action).Sound := sound_step action rooted.sound allowed
  cases action with
  | validate sessionId =>
    have names : "" ∉ (v.validate sessionId).sessions := by
      rw [mem_validate]
      rintro (same | there)
      · exact named same.symm
      · exact rooted.named there
    show (v.validate sessionId).Rooted
    revert names
    unfold validate
    split
    · exact fun _ => rooted
    · exact fun names => { rooted with sound := { rooted.sound with }, named := names }
  | validated sessionId token =>
    apply rooted.onValidated (.new token sessionId none) allowed.2 sound
    intro parentId its
    cases its
  | derived sessionId playId tokenId parentPlays =>
    exact rooted.validateBySession sessionId playId tokenId parentPlays allowed.1.2 sound
  | closed sessionId => exact rooted.onSessionClose sessionId
  | revoke req =>
    exact rooted.foldl_walkFrom .revoke _ fun ref => rooted.sound.lt_of_mem_targets req ref
  | updatePermission req permission =>
    show (v.onUpdatePermissionEvent req permission).Rooted
    rcases onUpdatePermissionEvent_eq v req permission with eq | ⟨generated, eq⟩
    · rw [eq]
      exact rooted
    · rw [eq]
      exact rooted.foldl_walkFrom _ _ fun ref => rooted.sound.lt_of_mem_targets req ref
  | immediate index => exact rooted.immediate index

end Rooted

def Child (before : Validator) (targets : List Ref) (ref : Ref) : Prop :=
  ∃ parent ∈ targets, ref ∈ before.store.getByParent (before.holders parent).playToken.id

def Changed (first past : Nat) (since : List Change) (ref : Ref) : Prop :=
  ∃ change ∈ since, Within first past change.walk ∧ change.ref = ref

structure Tracked (before : Validator) (targets : List Ref) (first past : Nat)
    (permission : Permission) (v : Validator) (since : List Change) : Prop where
  bound : past ≤ v.nextWalk
  next : before.next ≤ v.next
  identity : ∀ ref < before.next, (before.holders ref).SameIdentity (v.holders ref)
  update : ∀ walk, Within first past walk → (v.walks walk).update = .permission permission
  direct : ∀ ref ∈ targets, Changed first past since ref
  children : ∀ ref, before.Child targets ref → Changed first past since ref ∨
    ∃ walk, Within first past walk ∧ (⟨walk, ref⟩ : Immediate) ∈ v.immediates
  visited : ∀ walk, Within first past walk → ∀ id ∈ (v.walks walk).visited,
    ∃ change ∈ since, change.walk = walk ∧ change.ref < before.next ∧
      (before.holders change.ref).playToken.id = id
  only : ∀ change ∈ since, Within first past change.walk →
    change.permission = permission ∧ (change.ref ∈ targets ∨ before.Child targets change.ref)
  scheduled : ∀ immediate ∈ v.immediates, Within first past immediate.walk →
    before.Child targets immediate.child

section Tracked

variable {before v v' : Validator} {targets : List Ref} {first past : Nat}
  {permission : Permission} {since more : List Change}

theorem Changed.append {ref : Ref} (changed : Changed first past since ref) :
    Changed first past (since ++ more) ref := by
  obtain ⟨change, there, within, its⟩ := changed
  exact ⟨change, mem_append_left more there, within, its⟩

theorem Tracked.of_apart (tracked : Tracked before targets first past permission v since)
    (bound : v.nextWalk ≤ v'.nextWalk) (grown : v.Grown v')
    (walks : ∀ walk, Within first past walk → v'.walks walk = v.walks walk)
    (immediates : ∀ immediate : Immediate, Within first past immediate.walk →
      (immediate ∈ v'.immediates ↔ immediate ∈ v.immediates))
    (others : ∀ change ∈ more, ¬ Within first past change.walk) :
    Tracked before targets first past permission v' (since ++ more) where
  bound := Nat.le_trans tracked.bound bound
  next := Nat.le_trans tracked.next grown.next
  identity ref known :=
    (tracked.identity ref known).trans (grown.identity ref (Nat.lt_of_lt_of_le known tracked.next))
  update walk within := by
    rw [walks walk within]
    exact tracked.update walk within
  direct ref there := (tracked.direct ref there).append
  children ref isChild := by
    rcases tracked.children ref isChild with changed | ⟨walk, within, there⟩
    · exact .inl changed.append
    · exact .inr ⟨walk, within, (immediates ⟨walk, ref⟩ within).mpr there⟩
  visited walk within id there := by
    rw [walks walk within] at there
    obtain ⟨change, listed, its⟩ := tracked.visited walk within id there
    exact ⟨change, mem_append_left more listed, its⟩
  only change there within := by
    rcases mem_append.mp there with before' | now
    · exact tracked.only change before' within
    · exact absurd within (others change now)
  scheduled immediate there within :=
    tracked.scheduled immediate ((immediates immediate within).mp there) within

theorem walk_of_mem_changesOf (walk : Nat) (refs : List Ref) (change : Change)
    (there : change ∈ changesOf permission walk refs) : walk ≤ change.walk := by
  induction refs generalizing walk with
  | nil => cases there
  | cons ref rest ih =>
    rcases mem_cons.mp there with rfl | later
    · exact Nat.le_refl _
    · exact Nat.le_of_succ_le (ih (walk + 1) later)

section

variable (tracked : Tracked before targets first past permission v since)
include tracked

theorem Tracked.foldl_walkFrom (update : Update) (refs : List Ref)
    (later : ∀ change ∈ more, v.nextWalk ≤ change.walk) :
    Tracked before targets first past permission (refs.foldl (walkFrom update) v)
      (since ++ more) := by
  have kept := kept_foldl update refs v
  have begins := begins_foldl update refs v
  apply tracked.of_apart kept.nextWalk (.of_kept kept)
  · exact fun walk within =>
      begins.walks walk (Nat.lt_of_lt_of_le within.2 tracked.bound)
  · refine fun immediate within => ⟨fun there => ?_, kept.immediates immediate⟩
    rcases begins.immediates immediate there with before' | ⟨from', -⟩
    · exact before'
    · have below := Nat.lt_of_lt_of_le within.2 tracked.bound
      omega
  · intro change there within
    have from' := later change there
    have below := Nat.lt_of_lt_of_le within.2 tracked.bound
    omega

section

variable (rooted : v.Rooted) (known : ∀ ref, before.Child targets ref → ref < before.next)
  (derived : ∀ ref, before.Child targets ref → (before.holders ref).parentId ≠ none)

include rooted known derived

/-- An immediate of the event updates a child, unless its walk has been there: a token derived
from another is the only one of its id. -/
theorem Tracked.visit (index : Nat) (immediate : Immediate)
    (at_ : v.immediates[index]? = some immediate)
    (within : Within first past immediate.walk) : Tracked before targets first past permission
      ((v.dequeue index).visit immediate.walk immediate.child)
      (since ++ v.changesAt immediate.walk immediate.child) := by
  have isChild := tracked.scheduled immediate (mem_of_getElem? at_) within
  have old := known _ isChild
  have same := tracked.identity _ old
  have left (other : Immediate) (there : other ∈ (v.dequeue index).immediates) :
      other ∈ v.immediates := mem_of_mem_eraseIdx there
  have remains (other : Immediate) (ne : other ≠ immediate) (there : other ∈ v.immediates) :
      other ∈ (v.dequeue index).immediates := by
    obtain ⟨place, found⟩ := mem_iff_getElem?.mp there
    refine mem_eraseIdx_iff_getElem?.mpr ⟨place, ?_, found⟩
    rintro rfl
    rw [at_] at found
    exact ne (Option.some.inj found).symm
  by_cases seen : (v.holders immediate.child).playToken.id ∈ (v.walks immediate.walk).visited
  · have none' : v.changesAt immediate.walk immediate.child = [] := by
      unfold changesAt
      split
      · rfl
      · exact if_pos seen
    rw [none', append_nil, visit_of_mem (v.dequeue index) _ _ seen]
    refine { tracked with children := ?_, scheduled := ?_ }
    · intro ref its
      rcases tracked.children ref its with changed | ⟨walk, within', there⟩
      · exact .inl changed
      · by_cases this' : (⟨walk, ref⟩ : Immediate) = immediate
        · subst this'
          left
          obtain ⟨change, listed, sameWalk, before', sameId⟩ :=
            tracked.visited walk within _ seen
          refine ⟨change, listed, by rw [sameWalk]; exact within, ?_⟩
          rw [same.id] at sameId
          have own := rooted.sound.derived ref (Nat.lt_of_lt_of_le old tracked.next) (by
            rw [same.parent]
            exact derived ref its) change.ref (Nat.lt_of_lt_of_le before' tracked.next)
          apply own
          rw [(tracked.identity _ before').id, same.id, sameId]
        · exact .inr ⟨walk, within', remains _ this' there⟩
    · exact fun other there => tracked.scheduled other (left other there)
  · have updating := tracked.update _ within
    have now : v.changesAt immediate.walk immediate.child =
        [⟨immediate.walk, immediate.child, permission⟩] := by
      simp [changesAt, updating, seen]
    have childless : v.store.getByParent (v.holders immediate.child).playToken.id = [] := by
      apply rooted.childless _ (Nat.lt_of_lt_of_le old tracked.next)
      rw [same.parent]
      exact derived _ isChild
    have spec := visit_of_notMem (v.dequeue index) immediate.walk immediate.child seen
    have immediates : ((v.dequeue index).visit immediate.walk immediate.child).immediates =
        (v.dequeue index).immediates := by
      rw [spec]
      show _ ++ (v.store.getByParent (v.holders immediate.child).playToken.id).map _ = _
      rw [childless]
      exact append_nil _
    have kept := kept_visit (v.dequeue index) immediate.walk immediate.child
    rw [now]
    refine ⟨?_, ?_, ?_, ?_, ?_, ?_, ?_, ?_, ?_⟩
    · rw [nextWalk_visit]
      exact tracked.bound
    · rw [kept.next]
      exact tracked.next
    · exact fun ref before' => (tracked.identity ref before').trans (kept.identity ref)
    · intro walk within'
      rw [kept.update walk (Nat.lt_of_lt_of_le within'.2 tracked.bound)]
      exact tracked.update walk within'
    · exact fun ref there => (tracked.direct ref there).append
    · intro ref its
      rw [immediates]
      by_cases this' : ref = immediate.child
      · left
        refine ⟨⟨immediate.walk, immediate.child, permission⟩, ?_, within, this'.symm⟩
        exact mem_append_right _ (mem_singleton.mpr rfl)
      · rcases tracked.children ref its with changed | ⟨walk, within', there⟩
        · exact .inl changed.append
        · refine .inr ⟨walk, within', remains _ ?_ there⟩
          rintro rfl
          exact this' rfl
    · intro walk within' id there
      by_cases its : walk = immediate.walk
      · subst its
        rw [spec] at there
        dsimp only at there
        rw [update_self] at there
        rcases mem_cons.mp there with rfl | there
        · refine ⟨⟨immediate.walk, immediate.child, permission⟩, ?_, rfl, old, same.id.symm⟩
          exact mem_append_right _ (mem_singleton.mpr rfl)
        · obtain ⟨change, listed, rest⟩ := tracked.visited _ within' id there
          exact ⟨change, mem_append_left _ listed, rest⟩
      · rw [walks_visit_of_ne (v.dequeue index) _ _ its] at there
        obtain ⟨change, listed, rest⟩ := tracked.visited walk within' id there
        exact ⟨change, mem_append_left _ listed, rest⟩
    · intro change there within'
      rcases mem_append.mp there with before' | now'
      · exact tracked.only change before' within'
      · cases mem_singleton.mp now'
        exact ⟨rfl, .inr isChild⟩
    · intro other there
      rw [immediates] at there
      exact tracked.scheduled other (left other there)

theorem Tracked.step (action : Action) :
    Tracked before targets first past permission (v.step action) (since ++ v.changes action) := by
  have grown := grown_step v action
  have still (walks : (v.step action).walks = v.walks)
      (immediates : (v.step action).immediates = v.immediates)
      (next : (v.step action).nextWalk = v.nextWalk) (none' : v.changes action = []) :
      Tracked before targets first past permission (v.step action) (since ++ v.changes action) := by
    apply tracked.of_apart (Nat.le_of_eq next.symm) grown
    · intro walk _
      rw [walks]
    · intro immediate _
      rw [immediates]
    · rw [none']
      intro change there
      cases there
  cases action with
  | validate sessionId =>
    have same : (v.validate sessionId).walks = v.walks ∧
        (v.validate sessionId).immediates = v.immediates ∧
        (v.validate sessionId).nextWalk = v.nextWalk := by
      unfold validate
      split <;> exact ⟨rfl, rfl, rfl⟩
    exact still same.1 same.2.1 same.2.2 rfl
  | validated sessionId token => exact still rfl rfl rfl rfl
  | derived sessionId playId tokenId parentPlays =>
    have same : (v.validateBySession sessionId playId tokenId parentPlays).walks = v.walks ∧
        (v.validateBySession sessionId playId tokenId parentPlays).immediates = v.immediates ∧
        (v.validateBySession sessionId playId tokenId parentPlays).nextWalk = v.nextWalk := by
      unfold validateBySession
      split <;> exact ⟨rfl, rfl, rfl⟩
    exact still same.1 same.2.1 same.2.2 rfl
  | closed sessionId =>
    have same := still_onSessionClose v sessionId
    exact still same.2.1 same.2.2.1 same.2.2.2 rfl
  | revoke req =>
    apply tracked.foldl_walkFrom .revoke (v.targets req)
    intro change there
    cases there
  | updatePermission req given =>
    show Tracked before targets first past permission (v.onUpdatePermissionEvent req given) _
    unfold onUpdatePermissionEvent changes
    cases given with
    | none =>
      rw [append_nil]
      exact tracked
    | some given =>
      cases generated : given.generate with
      | none =>
        simp only [generated]
        rw [append_nil]
        exact tracked
      | some given' =>
        simp only [generated]
        exact tracked.foldl_walkFrom _ _ (walk_of_mem_changesOf v.nextWalk _)
  | immediate index =>
    show Tracked before targets first past permission (v.runImmediate index) _
    unfold changes
    rcases runImmediate_eq v index with ⟨none', eq⟩ | ⟨immediate, at_, eq⟩
    · simp only [eq, none']
      rw [append_nil]
      exact tracked
    · simp only [eq, at_]
      by_cases within : Within first past immediate.walk
      · exact tracked.visit rooted known derived index immediate at_ within
      · have kept := kept_visit (v.dequeue index) immediate.walk immediate.child
        apply tracked.of_apart
        · exact Nat.le_of_eq (nextWalk_visit (v.dequeue index) _ _).symm
        · have visited : (v.dequeue index).Grown _ := .of_kept kept
          exact ⟨visited.next, visited.identity, visited.validated⟩
        · intro walk within'
          apply walks_visit_of_ne
          rintro rfl
          exact within within'
        · intro other within'
          have ne : other ≠ immediate := by
            rintro rfl
            exact within within'
          constructor
          · intro there
            rcases immediates_visit _ _ _ other there with before' | ⟨its, -⟩
            · exact mem_of_mem_eraseIdx before'
            · rw [its] at within'
              exact absurd within' within
          · intro there
            apply kept.immediates
            obtain ⟨place, found⟩ := mem_iff_getElem?.mp there
            refine mem_eraseIdx_iff_getElem?.mpr ⟨place, ?_, found⟩
            rintro rfl
            rw [at_] at found
            exact ne (Option.some.inj found).symm
        · intro change there within'
          unfold changesAt at there
          split at there
          · cases there
          · split at there
            · cases there
            · cases mem_singleton.mp there
              exact within within'

end

end

theorem within_succ {walk : Nat} (within : Within first (past + 1) walk) (ne : walk ≠ past) :
    Within first past walk := ⟨within.1, by have := within.2; omega⟩

theorem Tracked.walkFrom (tracked : Tracked before targets first v.nextWalk permission v since)
    (kept : before.Kept v) (rooted : v.Rooted) (from' : first ≤ v.nextWalk)
    (earlier : ∀ change ∈ since, change.walk < v.nextWalk) (ref : Ref) (known : ref < before.next) :
    Tracked before (targets ++ [ref]) first (walkFrom (.permission permission) v ref).nextWalk
      permission (walkFrom (.permission permission) v ref)
      (since ++ [⟨v.nextWalk, ref, permission⟩]) := by
  have now := kept_walkFrom (.permission permission) v ref
  have begins := begins_walkFrom (.permission permission) v ref
  have next := nextWalk_walkFrom (.permission permission) v ref
  have spec := walkFrom_spec (.permission permission) v ref
  have this' : Within first (v.nextWalk + 1) v.nextWalk := ⟨from', Nat.lt_succ_self _⟩
  have wider {other : Ref} (changed : Changed first v.nextWalk since other) :
      Changed first (v.nextWalk + 1) (since ++ [⟨v.nextWalk, ref, permission⟩]) other := by
    obtain ⟨change, there, within, its⟩ := changed
    exact ⟨change, mem_append_left _ there, ⟨within.1, Nat.lt_succ_of_lt within.2⟩, its⟩
  rw [next]
  refine ⟨Nat.le_of_eq next.symm, ?_, ?_, ?_, ?_, ?_, ?_, ?_, ?_⟩
  · rw [now.next]
    exact tracked.next
  · exact fun other old => (tracked.identity other old).trans (now.identity other)
  · intro walk within
    by_cases its : walk = v.nextWalk
    · subst its
      rw [spec]
      dsimp only
      rw [Function.update_self]
    · have within' := within_succ within its
      rw [begins.walks walk within'.2]
      exact tracked.update walk within'
  · intro other there
    rcases mem_append.mp there with before' | now'
    · exact wider (tracked.direct other before')
    · cases mem_singleton.mp now'
      exact ⟨_, mem_append_right _ (mem_singleton.mpr rfl), this', rfl⟩
  · rintro child ⟨parent, there, isChild⟩
    rcases mem_append.mp there with before' | now'
    · rcases tracked.children child ⟨parent, before', isChild⟩ with changed | ⟨walk, within, waits⟩
      · exact .inl (wider changed)
      · exact .inr ⟨walk, ⟨within.1, Nat.lt_succ_of_lt within.2⟩, now.immediates _ waits⟩
    · cases mem_singleton.mp now'
      refine .inr ⟨v.nextWalk, this', ?_⟩
      rw [spec]
      apply mem_append_right
      rw [kept.store, (kept.identity ref).id]
      exact mem_map_of_mem isChild
  · intro walk within id there
    by_cases its : walk = v.nextWalk
    · subst its
      rw [spec] at there
      dsimp only at there
      rw [update_self, mem_singleton] at there
      refine ⟨_, mem_append_right _ (mem_singleton.mpr rfl), rfl, known, ?_⟩
      rw [there, (kept.identity ref).id]
    · have within' := within_succ within its
      rw [begins.walks walk within'.2] at there
      obtain ⟨change, listed, rest⟩ := tracked.visited walk within' id there
      exact ⟨change, mem_append_left _ listed, rest⟩
  · intro change there within
    rcases mem_append.mp there with before' | now'
    · obtain ⟨same, its⟩ := tracked.only change before' ⟨within.1, earlier change before'⟩
      refine ⟨same, its.imp (mem_append_left _) ?_⟩
      rintro ⟨parent, listed, isChild⟩
      exact ⟨parent, mem_append_left _ listed, isChild⟩
    · cases mem_singleton.mp now'
      exact ⟨rfl, .inl (mem_append_right _ (mem_singleton.mpr rfl))⟩
  · intro immediate there within
    rw [spec] at there
    rcases mem_append.mp there with before' | now'
    · obtain ⟨parent, listed, isChild⟩ := tracked.scheduled immediate before'
        ⟨within.1, rooted.walks immediate before'⟩
      exact ⟨parent, mem_append_left _ listed, isChild⟩
    · obtain ⟨child, isChild, rfl⟩ := mem_map.mp now'
      refine ⟨ref, mem_append_right _ (mem_singleton.mpr rfl), ?_⟩
      rw [kept.store, (kept.identity ref).id] at isChild
      exact isChild

theorem tracked_foldl (rest : List Ref)
    (tracked : Tracked before targets first v.nextWalk permission v since)
    (kept : before.Kept v) (rooted : v.Rooted) (from' : first ≤ v.nextWalk)
    (earlier : ∀ change ∈ since, change.walk < v.nextWalk)
      (known : ∀ ref ∈ rest, ref < before.next) :
    Tracked before (targets ++ rest) first
      (rest.foldl (walkFrom (.permission permission)) v).nextWalk permission
      (rest.foldl (walkFrom (.permission permission)) v)
      (since ++ changesOf permission v.nextWalk rest) := by
  induction rest generalizing targets v since with
  | nil =>
    rw [append_nil]
    show Tracked before targets first v.nextWalk permission v (since ++ [])
    rw [append_nil]
    exact tracked
  | cons ref rest ih =>
    have its := known ref mem_cons_self
    have next := nextWalk_walkFrom (.permission permission) v ref
    have now := tracked.walkFrom kept rooted from' earlier ref its
    have rooted' : (walkFrom (.permission permission) v ref).Rooted := by
      apply rooted.foldl_walkFrom (.permission permission) [ref]
      intro other there
      cases mem_singleton.mp there
      rw [kept.next]
      exact its
    have later := ih now (kept.trans (kept_walkFrom _ v ref)) rooted' (by omega) (by
      intro change there
      rw [next]
      rcases mem_append.mp there with before' | now'
      · exact Nat.lt_succ_of_lt (earlier change before')
      · cases mem_singleton.mp now'
        exact Nat.lt_succ_self _) fun other there => known other (mem_cons_of_mem _ there)
    rw [next, append_assoc, append_assoc] at later
    exact later

theorem tracked_event (rooted : before.Rooted) (req : TokenEvent) :
    Tracked before (before.targets req) before.nextWalk
      (before.updatePlayTokenByEvent req (.permission permission)).nextWalk permission
      (before.updatePlayTokenByEvent req (.permission permission))
      (changesOf permission before.nextWalk (before.targets req)) := by
  have start : Tracked before [] before.nextWalk before.nextWalk permission before [] := by
    have never (walk : Nat) : ¬ Within before.nextWalk before.nextWalk walk := by
      rintro ⟨from', below⟩
      omega
    refine ⟨Nat.le_refl _, Nat.le_refl _, fun _ _ => .refl _, ?_, ?_, ?_, ?_, ?_, ?_⟩
    · exact fun walk within => absurd within (never walk)
    · intro ref there
      cases there
    · rintro ref ⟨parent, there, -⟩
      cases there
    · exact fun walk within => absurd within (never walk)
    · intro change there
      cases there
    · exact fun immediate _ within => absurd within (never _)
  have all := tracked_foldl (before.targets req) start (.refl before) rooted (Nat.le_refl _)
    (fun change there => by cases there)
    fun ref there => rooted.sound.lt_of_mem_targets req ref there
  rw [nil_append, nil_append] at all
  exact all

/-- The holder's token is named, or derived from one that is. -/
def Selected (before : Validator) (names : PlayToken → Prop) (ref : Ref) : Prop :=
  names (before.holders ref).playToken ∨
    ∃ parent ∈ before.validated, names (before.holders parent).playToken ∧
      (before.holders ref).DerivedFrom (before.holders parent)

theorem Rooted.lt_of_child (rooted : before.Rooted) {ref : Ref}
    (isChild : before.Child targets ref) : ref < before.next := by
  obtain ⟨parent, -, there⟩ := isChild
  exact rooted.sound.lt_of_mem_get _ _ ref there

theorem Rooted.derived_of_child (rooted : before.Rooted) {ref : Ref}
    (isChild : before.Child targets ref) : (before.holders ref).parentId ≠ none := by
  obtain ⟨parent, -, there⟩ := isChild
  rw [(of_mem_get rooted.sound.indexed.parent _ ref there).2]
  intro none'
  cases none'

/-- Once it is processed, an event has changed the tokens that it names and their children, and no
others. -/
theorem Tracked.changed_iff {req : TokenEvent}
    (tracked : Tracked before (before.targets req) first past permission v since)
    (rooted : before.Rooted)
    (processed : ∀ immediate ∈ v.immediates, ¬ Within first past immediate.walk) (ref : Ref)
    (there : ref ∈ before.validated) (isOpen : (before.holders ref).sessionId ∉ before.closed) :
    Changed first past since ref ↔ before.Selected req.Matches ref := by
  have indexed := rooted.sound.indexed
  have live := rooted.sound.live
  constructor
  · rintro ⟨change, listed, within, rfl⟩
    rcases (tracked.only change listed within).2 with target | ⟨parent, target, isChild⟩
    · exact .inl (of_mem_targets indexed req _ target).2
    · obtain ⟨⟨id, stored⟩, matching⟩ := of_mem_targets indexed req parent target
      obtain ⟨⟨childId, stored'⟩, parentId⟩ := of_mem_get indexed.parent _ _ isChild
      obtain ⟨parent', stored'', -, session⟩ := rooted.parented _ _ stored' _ parentId
      rw [indexed.id id parent stored, stored] at stored''
      cases stored''
      exact .inr ⟨parent, rooted.all parent (rooted.sound.stored id parent stored), matching,
        session, parentId⟩
  · rintro (matching | ⟨parent, valid, matching, session, parentId⟩)
    · exact tracked.direct ref (mem_targets indexed req ref (live ref there isOpen) matching)
    · have stored := live parent valid (by rw [← session]; exact isOpen)
      have target := mem_targets indexed req parent stored matching
      have isChild := PlayTokenStore.mem_get indexed.parent _ (rooted.sound.named parent valid) _
        ref (live ref there isOpen) parentId
      rcases tracked.children ref ⟨parent, target, isChild⟩ with changed | ⟨walk, within, waits⟩
      · exact changed
      · exact absurd within (processed _ waits)

end Tracked

/-- The event has changed the open sessions' tokens that are selected, and no others; where
nothing else changes one, it has the permission of the event or the one that it had. -/
structure Exact (before after : Validator) (names : PlayToken → Prop) (permission : Permission)
    (first past : Nat) (since : List Change) : Prop where
  changed : ∀ ref ∈ before.validated, (before.holders ref).sessionId ∉ before.closed →
    (Changed first past since ref ↔ before.Selected names ref)
  permission : ∀ ref ∈ before.validated, (before.holders ref).sessionId ∉ before.closed →
    (∀ change ∈ since, change.ref = ref → Within first past change.walk) →
      (before.Selected names ref → (after.holders ref).playToken.permission = permission) ∧
      (¬ before.Selected names ref → (after.holders ref).playToken.permission =
        (before.holders ref).playToken.permission)

theorem Tracked.exact {before v : Validator} {first past : Nat} {permission : Permission}
    {since : List Change} {req : TokenEvent}
    (tracked : Tracked before (before.targets req) first past permission v since)
    (rooted : before.Rooted)
    (processed : ∀ immediate ∈ v.immediates, ¬ Within first past immediate.walk)
    (tells : ∀ ref < before.next, (v.holders ref).playToken.permission =
      since.foldl (Change.apply ref) (before.holders ref).playToken.permission) :
    Exact before v req.Matches permission first past since := by
  refine ⟨tracked.changed_iff rooted processed, fun ref there isOpen alone => ⟨?_, ?_⟩⟩
  · intro selected
    obtain ⟨change, listed, -, its⟩ :=
      (tracked.changed_iff rooted processed ref there isOpen).mpr selected
    rw [tells ref (rooted.sound.known ref there)]
    apply Change.foldl_apply_of_same _ (.inr ⟨change, listed, its⟩)
    exact fun other listed' its' => (tracked.only other listed' (alone other listed' its')).1
  · intro unselected
    rw [tells ref (rooted.sound.known ref there)]
    apply Change.foldl_apply_of_ne
    intro change listed its
    apply unselected
    apply (tracked.changed_iff rooted processed ref there isOpen).mp
    exact ⟨change, listed, alone change listed its, its⟩

theorem Exact.of_iff {before after : Validator} {names names' : PlayToken → Prop}
    {permission : Permission} {first past : Nat} {since : List Change}
    (exact' : Exact before after names permission first past since)
    (same : ∀ ref ∈ before.validated, names (before.holders ref).playToken ↔
      names' (before.holders ref).playToken) :
    Exact before after names' permission first past since := by
  have selected : ∀ ref ∈ before.validated,
      (before.Selected names ref ↔ before.Selected names' ref) := by
    intro ref there
    unfold Selected
    rw [same ref there]
    apply or_congr_right
    constructor
    · rintro ⟨parent, valid, its, derived⟩
      exact ⟨parent, valid, (same parent valid).mp its, derived⟩
    · rintro ⟨parent, valid, its, derived⟩
      exact ⟨parent, valid, (same parent valid).mpr its, derived⟩
  refine ⟨fun ref there isOpen => ?_, fun ref there isOpen alone => ?_⟩
  · rw [← selected ref there]
    exact exact'.changed ref there isOpen
  · rw [← selected ref there]
    exact exact'.permission ref there isOpen alone

end Validator
end AkashicSystem.PlaylogServer
