import AkashicSystem.PlaylogServer.TokenRevocation

/-!
# Tokens and the sessions they belong to

A validation looks up the token, then the parents of the play, and adds a holder to
the store when it has found one; the listener of the session's close has cleaned the
store up by then, where the session closed in between.
-/

set_option autoImplicit false

namespace AkashicSystem.PlaylogServer

open AkashicSystem.Js List

namespace TokenSessions

/-- A call of `validate` that has not settled, and what it waits for. -/
inductive Validation where
  /-- `_validateByTokenValue`. -/
  | byTokenValue (sessionId playId : String)
  /-- `_validateBySession` waits for the relations of the play. -/
  | bySession (sessionId playId : String)
  /-- `_validate` has resolved. -/
  | resolved (holder : PlayTokenHolder)
  | settled
deriving DecidableEq

/-- The validator, its validations, and the sessions that have asked for one. -/
structure World where
  validator : Validator
  validations : List Validation
  asked : List String

inductive Action where
  | validate (sessionId playId value : String)
  /-- The look-up by the value has given a token that has not expired. -/
  | accepted (index : Nat) (token : PlayToken)
  /-- The look-up by the value, or of the relations, has failed. -/
  | failed (index : Nat)
  /-- `findByChild` has answered; `uuid.v4` gives the id. -/
  | related (index : Nat) (tokenId : String) (parentPlays : List (String × Option Boundary))
  | added (index : Nat)
  | closed (sessionId : String)
  | revoke (req : TokenEvent)
  | updatePermission (req : TokenEvent) (permission : Option Permission)
  | immediate (index : Nat)

namespace World

def new : World := ⟨.new, [], []⟩

variable (w : World)

def become (index : Nat) (validation : Validation) : World :=
  { w with validations := w.validations.set index validation }

/-- What `_validateBySession` makes of the parents. -/
def fromParents (v : Validator) (sessionId playId tokenId : String)
    (parentPlays : List (String × Option Boundary)) : Validation :=
  match v.getParentPlayInfo sessionId parentPlays with
  | none | some [] => .settled
  | some ((parentToken, permission) :: _) =>
    .resolved (.new ⟨tokenId, playId, permission, parentToken.meta⟩ sessionId parentToken.id)

def step : Action → World
  | .validate sessionId playId value =>
    let validation : Validation :=
      if value = "" then .bySession sessionId playId else .byTokenValue sessionId playId
    ⟨w.validator.validate sessionId, w.validations ++ [validation], sessionId :: w.asked⟩
  | .accepted index token =>
    match w.validations[index]? with
    | some (.byTokenValue sessionId _) => w.become index (.resolved (.new token sessionId none))
    | _ => w
  | .failed index =>
    match w.validations[index]? with
    | some (.byTokenValue sessionId playId) => w.become index (.bySession sessionId playId)
    | some (.bySession _ _) => w.become index .settled
    | _ => w
  | .related index tokenId parentPlays =>
    match w.validations[index]? with
    | some (.bySession sessionId playId) =>
      w.become index (fromParents w.validator sessionId playId tokenId parentPlays)
    | _ => w
  | .added index =>
    match w.validations[index]? with
    | some (.resolved holder) =>
      { w.become index .settled with validator := w.validator.onValidated holder }
    | _ => w
  | .closed sessionId => { w with validator := w.validator.onSessionClose sessionId }
  | .revoke req => { w with validator := w.validator.onRevokePlayTokenEvent req }
  | .updatePermission req permission =>
    { w with validator := w.validator.onUpdatePermissionEvent req permission }
  | .immediate index => { w with validator := w.validator.runImmediate index }

def Quiet : Prop := ∀ validation ∈ w.validations, validation = .settled

instance (w : World) : Decidable w.Quiet :=
  inferInstanceAs (Decidable (∀ validation ∈ w.validations, validation = .settled))

/-- Every holder in the store belongs to a session that is open, and the known sessions are
the open ones that have asked for a validation. -/
structure Clean (w : World) : Prop where
  stored : ∀ id ref, w.validator.store.tokens id = some ref →
    (w.validator.holders ref).sessionId ∉ w.validator.closed
  known : ∀ sessionId, sessionId ∈ w.validator.sessions ↔
    sessionId ∈ w.asked ∧ sessionId ∉ w.validator.closed

/-- A session has an id, and closes once. -/
def Called : Action → Prop
  | .validate sessionId _ _ => sessionId ≠ ""
  | .closed sessionId => sessionId ∉ w.validator.closed
  | _ => True

instance (w : World) : ∀ action, Decidable (w.Called action)
  | .validate sessionId _ _ => inferInstanceAs (Decidable (sessionId ≠ ""))
  | .closed sessionId => inferInstanceAs (Decidable (sessionId ∉ w.validator.closed))
  | .accepted _ _ | .failed _ | .related .. | .added _ | .revoke _ | .updatePermission ..
  | .immediate _ => inferInstanceAs (Decidable True)

/-- A token that has been validated for a session that has closed is one that is stored. -/
def Replaced : Validation → Prop
  | .resolved holder => holder.sessionId ∈ w.validator.closed →
      (w.validator.store.tokens holder.playToken.id).isSome = true
  | _ => True

instance (w : World) : DecidablePred w.Replaced
  | .resolved holder => inferInstanceAs (Decidable (holder.sessionId ∈ w.validator.closed →
      (w.validator.store.tokens holder.playToken.id).isSome = true))
  | .byTokenValue _ _ | .bySession _ _ | .settled => isTrue trivial

/-- A session that has closed asks for no validation, and none of its validations ends with a
token whose id is not stored. -/
def Permitted : Action → Prop
  | .validate sessionId _ _ => sessionId ∉ w.validator.closed
  | .added index => ∀ validation ∈ w.validations[index]?, w.Replaced validation
  | _ => True

instance (w : World) : ∀ action, Decidable (w.Permitted action)
  | .validate sessionId _ _ => inferInstanceAs (Decidable (sessionId ∉ w.validator.closed))
  | .added index =>
    inferInstanceAs (Decidable (∀ validation ∈ w.validations[index]?, w.Replaced validation))
  | .accepted _ _ | .failed _ | .related .. | .closed _ | .revoke _ | .updatePermission ..
  | .immediate _ => isTrue trivial

end World

def Validation.session : Validation → Option String
  | .byTokenValue sessionId _ | .bySession sessionId _ => some sessionId
  | .resolved holder => some holder.sessionId
  | .settled => none

end TokenSessions

namespace Validator

structure Untouched (v v' : Validator) : Prop where
  kept : v.Kept v'
  sessions : v'.sessions = v.sessions

theorem Untouched.refl (v : Validator) : v.Untouched v := ⟨.refl v, rfl⟩

theorem Untouched.trans {v v' v'' : Validator} (first : v.Untouched v')
    (second : v'.Untouched v'') : v.Untouched v'' :=
  ⟨first.kept.trans second.kept, second.sessions.trans first.sessions⟩

section Walks

variable (v : Validator)

theorem untouched_visit (walk : Nat) (ref : Ref) : v.Untouched (v.visit walk ref) := by
  refine ⟨kept_visit v walk ref, ?_⟩
  unfold visit
  dsimp only
  split <;> rfl

theorem untouched_foldl (update : Update) (refs : List Ref) :
    v.Untouched (refs.foldl (walkFrom update) v) := by
  induction refs generalizing v with
  | nil => exact .refl v
  | cons ref rest ih =>
    have begun : v.Untouched (v.beginWalk update) := ⟨kept_beginWalk v update, rfl⟩
    have visited := begun.trans (untouched_visit (v.beginWalk update) v.nextWalk ref)
    exact visited.trans (ih (walkFrom update v ref))

theorem untouched_onUpdatePermissionEvent (req : TokenEvent) (permission : Option Permission) :
    v.Untouched (v.onUpdatePermissionEvent req permission) := by
  rcases onUpdatePermissionEvent_eq v req permission with eq | ⟨generated, eq⟩
  · rw [eq]
    exact .refl v
  · rw [eq]
    exact untouched_foldl v _ _

end Walks

variable (v : Validator)

theorem mem_validate (sessionId other : String) :
    other ∈ (v.validate sessionId).sessions ↔ other = sessionId ∨ other ∈ v.sessions := by
  unfold validate
  split
  · next there =>
    constructor
    · exact .inr
    · rintro (rfl | old)
      · exact there
      · exact old
  · exact mem_cons

theorem validate_frame (sessionId : String) :
    (v.validate sessionId).store = v.store ∧ (v.validate sessionId).closed = v.closed ∧
      (v.validate sessionId).holders = v.holders ∧ (v.validate sessionId).next = v.next := by
  unfold validate
  split <;> exact ⟨rfl, rfl, rfl, rfl⟩

theorem tokens_added (holder : PlayTokenHolder) (id : String) :
    (v.onValidated holder).store.tokens id =
      if v.store.tokens id = none ∧ id = holder.playToken.id then some v.next
      else v.store.tokens id := by
  by_cases there : (v.store.tokens holder.playToken.id).isSome = true
  · have same : (v.onValidated holder).store.tokens = v.store.tokens := by
      simp [onValidated, PlayTokenStore.add, there]
    rw [same, if_neg]
    rintro ⟨absent, rfl⟩
    rw [absent] at there
    cases there
  · have absent : v.store.tokens holder.playToken.id = none := by simpa using there
    rw [tokens_onValidated holder absent]
    by_cases eq : id = holder.playToken.id
    · subst eq
      rw [Function.update_self, if_pos ⟨absent, rfl⟩]
    · rw [Function.update_of_ne eq, if_neg fun both => eq both.2]

theorem indexed_onValidated (holder : PlayTokenHolder)
    (indexed : v.store.Indexed v.holders)
    (stored : ∀ id ref, v.store.tokens id = some ref → ref < v.next) :
    (v.onValidated holder).store.Indexed (v.onValidated holder).holders := by
  have new : (v.onValidated holder).holders v.next = holder := Function.update_self ..
  have same : ∀ id ref, v.store.tokens id = some ref →
      (v.holders ref).SameIdentity ((v.onValidated holder).holders ref) := by
    intro id ref there
    have old : (v.onValidated holder).holders ref = v.holders ref :=
      Function.update_of_ne (Nat.ne_of_lt (stored id ref there)) ..
    rw [old]
    exact .refl _
  have grown := indexed.congr same
  by_cases there : (v.store.tokens holder.playToken.id).isSome = true
  · have unchanged : (v.onValidated holder).store = v.store := by
      simp [onValidated, PlayTokenStore.add, there]
    rw [unchanged]
    exact grown
  · have absent : v.store.tokens holder.playToken.id = none := by simpa using there
    have indexed' := PlayTokenStore.indexed_add grown v.next (by rw [new]; exact absent)
    rw [new] at indexed'
    exact indexed'

section Close

variable {v : Validator} (indexed : v.store.Indexed v.holders) (sessionId : String)

include indexed

theorem indexed_onSessionClose :
    (v.onSessionClose sessionId).store.Indexed (v.onSessionClose sessionId).holders := by
  unfold onSessionClose
  split
  · exact PlayTokenStore.indexed_foldl_delete _ _ indexed
  · exact indexed

/-- The holders of a known session that closes are taken out of the store, and no others. -/
theorem tokens_onSessionClose (named : sessionId ∈ v.sessions → sessionId ≠ "") (id : String)
    (ref : Ref) : (v.onSessionClose sessionId).store.tokens id = some ref ↔
      v.store.tokens id = some ref ∧
        ¬ (sessionId ∈ v.sessions ∧ (v.holders ref).sessionId = sessionId) := by
  unfold onSessionClose
  by_cases known : sessionId ∈ v.sessions
  · rw [if_pos known]
    show (v.store.deleteBySession v.holders sessionId).tokens id = _ ↔ _
    rw [PlayTokenStore.deleteBySession, PlayTokenStore.tokens_foldl_delete]
    constructor
    · intro there
      split at there
      · cases there
      · next unlisted =>
        refine ⟨there, fun both => unlisted ?_⟩
        exact (indexed.session sessionId id).mpr ⟨named known, ref, there, congrArg some both.2⟩
    · rintro ⟨there, other⟩
      rw [if_neg, there]
      intro listed
      obtain ⟨_, ref', there', owned⟩ := (indexed.session sessionId id).mp listed
      rw [there] at there'
      cases there'
      exact other ⟨known, Option.some.inj owned⟩
  · rw [if_neg known]
    exact ⟨fun there => ⟨there, fun both => known both.1⟩, And.left⟩

end Close

theorem onSessionClose_frame (sessionId : String) :
    (v.onSessionClose sessionId).closed = sessionId :: v.closed ∧
      (v.onSessionClose sessionId).holders = v.holders ∧
      (v.onSessionClose sessionId).next = v.next ∧
      ∀ other, other ∈ (v.onSessionClose sessionId).sessions ↔
        other ∈ v.sessions ∧ other ≠ sessionId := by
  unfold onSessionClose
  by_cases known : sessionId ∈ v.sessions
  · rw [if_pos known]
    refine ⟨rfl, rfl, rfl, fun other => ?_⟩
    simp
  · rw [if_neg known]
    refine ⟨rfl, rfl, rfl, fun other => ⟨fun there => ⟨there, ?_⟩, And.left⟩⟩
    rintro rfl
    exact known there

structure SameSessions (v v' : Validator) : Prop where
  store : v'.store = v.store
  sessions : v'.sessions = v.sessions
  closed : v'.closed = v.closed
  next : v'.next = v.next
  identity : ∀ ref, (v.holders ref).SameIdentity (v'.holders ref)

theorem Untouched.sameSessions {v v' : Validator} (untouched : v.Untouched v') :
    v.SameSessions v' :=
  ⟨untouched.kept.store, untouched.sessions, untouched.kept.closed, untouched.kept.next,
    untouched.kept.identity⟩

theorem sameSessions_runImmediate (index : Nat) :
    v.SameSessions (v.runImmediate index) := by
  rcases runImmediate_eq v index with ⟨_, eq⟩ | ⟨immediate, _, eq⟩
  · rw [eq]
    exact ⟨rfl, rfl, rfl, rfl, fun _ => .refl _⟩
  · rw [eq]
    have visited := untouched_visit (v.dequeue index) immediate.walk immediate.child
    exact ⟨visited.kept.store, visited.sessions, visited.kept.closed, visited.kept.next,
      visited.kept.identity⟩

end Validator

namespace TokenSessions.World

structure Inv (w : World) : Prop where
  indexed : w.validator.store.Indexed w.validator.holders
  stored : ∀ id ref, w.validator.store.tokens id = some ref →
    ref < w.validator.next ∧ (w.validator.holders ref).sessionId ∈ w.asked
  known : ∀ sessionId ∈ w.validator.sessions, sessionId ∈ w.asked
  listening : ∀ sessionId ∈ w.asked, sessionId ∉ w.validator.closed →
    sessionId ∈ w.validator.sessions
  named : ∀ sessionId ∈ w.asked, sessionId ≠ ""
  pending : ∀ validation ∈ w.validations, ∀ sessionId, validation.session = some sessionId →
    sessionId ∈ w.asked

theorem inv_new : new.Inv := by
  refine ⟨Validator.sound_new.indexed, ?_, ?_, ?_, ?_, ?_⟩
  · intro id ref there
    cases there
  · intro sessionId there
    cases there
  · intro sessionId there
    cases there
  · intro sessionId there
    cases there
  · intro validation there
    cases there

variable {w : World}

/-- The known sessions have asked, and are missing only when they have closed. -/
theorem Inv.clean_iff (inv : w.Inv) : w.Clean ↔ (∀ id ref, w.validator.store.tokens id = some ref →
        (w.validator.holders ref).sessionId ∉ w.validator.closed) ∧
      ∀ sessionId ∈ w.validator.sessions, sessionId ∉ w.validator.closed := by
  constructor
  · rintro ⟨stored, known⟩
    exact ⟨stored, fun sessionId there => ((known sessionId).mp there).2⟩
  · rintro ⟨stored, known⟩
    refine ⟨stored, fun sessionId => ⟨fun there => ?_, fun both => ?_⟩⟩
    · exact ⟨inv.known sessionId there, known sessionId there⟩
    · exact inv.listening sessionId both.1 both.2

theorem Inv.sameSessions (inv : w.Inv) {v : Validator} (same : w.validator.SameSessions v) :
    ({ w with validator := v } : World).Inv := by
  refine ⟨?_, fun id ref there => ?_, ?_, ?_, inv.named, inv.pending⟩
  · show v.store.Indexed v.holders
    rw [same.store]
    exact inv.indexed.congr fun _ ref _ => same.identity ref
  · show ref < v.next ∧ (v.holders ref).sessionId ∈ w.asked
    rw [same.next, (same.identity ref).session]
    exact inv.stored id ref (same.store ▸ there)
  · show ∀ sessionId ∈ v.sessions, sessionId ∈ w.asked
    rw [same.sessions]
    exact inv.known
  · show ∀ sessionId ∈ w.asked, sessionId ∉ v.closed → sessionId ∈ v.sessions
    rw [same.closed, same.sessions]
    exact inv.listening

theorem clean_sameSessions {v : Validator} (same : w.validator.SameSessions v) :
    ({ w with validator := v } : World).Clean ↔ w.Clean := by
  have session (ref : Ref) : (v.holders ref).sessionId = (w.validator.holders ref).sessionId :=
    (same.identity ref).session
  constructor
  · rintro ⟨stored, known⟩
    dsimp only at stored known
    rw [same.store, same.closed] at stored
    rw [same.sessions, same.closed] at known
    exact ⟨fun id ref there => session ref ▸ stored id ref there, known⟩
  · rintro ⟨stored, known⟩
    refine ⟨?_, ?_⟩
    · show ∀ id ref, v.store.tokens id = some ref → (v.holders ref).sessionId ∉ v.closed
      rw [same.store, same.closed]
      exact fun id ref there => (session ref).symm ▸ stored id ref there
    · show ∀ sessionId, sessionId ∈ v.sessions ↔ sessionId ∈ w.asked ∧ sessionId ∉ v.closed
      rw [same.sessions, same.closed]
      exact known

theorem Inv.become (inv : w.Inv) {index : Nat} {old new : Validation}
    (here : w.validations[index]? = some old)
    (same : ∀ sessionId, new.session = some sessionId → old.session = some sessionId) :
    (w.become index new).Inv := by
  refine ⟨inv.indexed, inv.stored, inv.known, inv.listening, inv.named, ?_⟩
  intro validation there sessionId session
  rcases mem_or_eq_of_mem_set there with before | rfl
  · exact inv.pending validation before sessionId session
  · exact inv.pending old (mem_of_getElem? here) sessionId (same sessionId session)

theorem clean_become (index : Nat) (validation : Validation) :
    (w.become index validation).Clean ↔ w.Clean :=
  ⟨fun ⟨stored, known⟩ => ⟨stored, known⟩, fun ⟨stored, known⟩ => ⟨stored, known⟩⟩

theorem session_fromParents (v : Validator) (sessionId playId tokenId : String)
    (parentPlays : List (String × Option Boundary)) (session : String)
    (eq : (fromParents v sessionId playId tokenId parentPlays).session = some session) :
    session = sessionId := by
  unfold fromParents at eq
  split at eq
  · cases eq
  · cases eq
  · exact (Option.some.inj eq).symm

theorem Inv.validate (inv : w.Inv) (sessionId playId value : String) (named : sessionId ≠ "") :
    (w.step (.validate sessionId playId value)).Inv := by
  obtain ⟨store, closed, holders, next⟩ := w.validator.validate_frame sessionId
  refine ⟨?_, fun id ref there => ?_, fun other there => ?_, fun other there isOpen => ?_,
    fun other there => ?_, fun validation there other session => ?_⟩
  · show (w.validator.validate sessionId).store.Indexed (w.validator.validate sessionId).holders
    rw [store, holders]
    exact inv.indexed
  · have before : w.validator.store.tokens id = some ref := store ▸ there
    show ref < (w.validator.validate sessionId).next ∧
      ((w.validator.validate sessionId).holders ref).sessionId ∈ sessionId :: w.asked
    rw [holders, next]
    exact ⟨(inv.stored id ref before).1, mem_cons_of_mem _ (inv.stored id ref before).2⟩
  · rcases (w.validator.mem_validate sessionId other).mp there with rfl | old
    · exact mem_cons_self
    · exact mem_cons_of_mem _ (inv.known other old)
  · apply (w.validator.mem_validate sessionId other).mpr
    rcases mem_cons.mp there with rfl | old
    · exact .inl rfl
    · exact .inr (inv.listening other old (closed ▸ isOpen))
  · rcases mem_cons.mp there with rfl | old
    · exact named
    · exact inv.named other old
  · rcases mem_append.mp there with old | new
    · exact mem_cons_of_mem _ (inv.pending validation old other session)
    · have own : validation.session = some sessionId := by
        rw [mem_singleton.mp new]
        split <;> rfl
      rw [own] at session
      cases session
      exact mem_cons_self

theorem clean_validate (inv : w.Inv) (sessionId playId value : String) (named : sessionId ≠ "") :
    (w.step (.validate sessionId playId value)).Clean ↔
      w.Clean ∧ sessionId ∉ w.validator.closed := by
  obtain ⟨store, closed, holders, _⟩ := w.validator.validate_frame sessionId
  rw [(inv.validate sessionId playId value named).clean_iff, inv.clean_iff]
  show ((∀ id ref, (w.validator.validate sessionId).store.tokens id = some ref →
      ((w.validator.validate sessionId).holders ref).sessionId ∉
        (w.validator.validate sessionId).closed) ∧
    ∀ other ∈ (w.validator.validate sessionId).sessions,
      other ∉ (w.validator.validate sessionId).closed) ↔ _
  rw [store, closed, holders, and_assoc]
  refine and_congr_right fun _ => ⟨fun known => ⟨fun other there => ?_, ?_⟩, ?_⟩
  · exact known other ((w.validator.mem_validate sessionId other).mpr (.inr there))
  · exact known sessionId ((w.validator.mem_validate sessionId sessionId).mpr (.inl rfl))
  · rintro ⟨known, isOpen⟩ other there
    rcases (w.validator.mem_validate sessionId other).mp there with rfl | old
    · exact isOpen
    · exact known other old

theorem Inv.closed (inv : w.Inv) (sessionId : String) : (w.step (.closed sessionId)).Inv := by
  obtain ⟨closed, holders, next, sessions⟩ := w.validator.onSessionClose_frame sessionId
  have named : sessionId ∈ w.validator.sessions → sessionId ≠ "" :=
    fun there => inv.named sessionId (inv.known sessionId there)
  refine ⟨Validator.indexed_onSessionClose inv.indexed sessionId, fun id ref there => ?_,
    fun other there => ?_, fun other there isOpen => ?_, inv.named, inv.pending⟩
  · have before := ((Validator.tokens_onSessionClose inv.indexed sessionId named id ref).mp there).1
    show ref < (w.validator.onSessionClose sessionId).next ∧
      ((w.validator.onSessionClose sessionId).holders ref).sessionId ∈ w.asked
    rw [holders, next]
    exact inv.stored id ref before
  · exact inv.known other ((sessions other).mp there).1
  · have isOpen' : other ∉ sessionId :: w.validator.closed := closed ▸ isOpen
    obtain ⟨differs, isOpen⟩ := ne_and_not_mem_of_not_mem_cons isOpen'
    exact (sessions other).mpr ⟨inv.listening other there isOpen, differs⟩

theorem clean_closed (inv : w.Inv) (sessionId : String) (once : sessionId ∉ w.validator.closed) :
    (w.step (.closed sessionId)).Clean ↔ w.Clean := by
  obtain ⟨closed, holders, _, sessions⟩ := w.validator.onSessionClose_frame sessionId
  have named : sessionId ∈ w.validator.sessions → sessionId ≠ "" :=
    fun there => inv.named sessionId (inv.known sessionId there)
  have tokens := Validator.tokens_onSessionClose inv.indexed sessionId named
  rw [(inv.closed sessionId).clean_iff, inv.clean_iff]
  show ((∀ id ref, (w.validator.onSessionClose sessionId).store.tokens id = some ref →
      ((w.validator.onSessionClose sessionId).holders ref).sessionId ∉
        (w.validator.onSessionClose sessionId).closed) ∧
    ∀ other ∈ (w.validator.onSessionClose sessionId).sessions,
      other ∉ (w.validator.onSessionClose sessionId).closed) ↔ _
  rw [closed, holders]
  constructor
  · rintro ⟨stored, known⟩
    refine ⟨fun id ref there => ?_, fun other there => ?_⟩
    · by_cases own : (w.validator.holders ref).sessionId = sessionId
      · rw [own]
        exact once
      · have stays := (tokens id ref).mpr ⟨there, fun both => own both.2⟩
        exact not_mem_of_not_mem_cons (stored id ref stays)
    · by_cases own : other = sessionId
      · rw [own]
        exact once
      · have stays := (sessions other).mpr ⟨there, own⟩
        exact not_mem_of_not_mem_cons (known other stays)
  · rintro ⟨stored, known⟩
    refine ⟨fun id ref there => ?_, fun other there => ?_⟩
    · obtain ⟨before, other⟩ := (tokens id ref).mp there
      refine not_mem_cons_of_ne_of_not_mem (fun own => other ?_) (stored id ref before)
      have asked : sessionId ∈ w.asked := own ▸ (inv.stored id ref before).2
      exact ⟨inv.listening sessionId asked once, own⟩
    · obtain ⟨before, differs⟩ := (sessions other).mp there
      exact not_mem_cons_of_ne_of_not_mem differs (known other before)

section Added

variable {index : Nat} {holder : PlayTokenHolder}

theorem holders_added (v : Validator) (ref : Ref) (known : ref < v.next) :
    (v.onValidated holder).holders ref = v.holders ref :=
  Function.update_of_ne (Nat.ne_of_lt known) ..

theorem Inv.added (inv : w.Inv) (here : w.validations[index]? = some (.resolved holder)) :
    ({ w.become index .settled with validator := w.validator.onValidated holder } : World).Inv := by
  have pending : ∀ validation ∈ w.validations.set index .settled, ∀ sessionId,
      validation.session = some sessionId → sessionId ∈ w.asked :=
    (@Inv.become w inv index _ .settled here fun _ none => by cases none).pending
  refine ⟨?_, fun id ref there => ?_, inv.known, inv.listening, inv.named, pending⟩
  · exact w.validator.indexed_onValidated holder inv.indexed
      fun id ref there => (inv.stored id ref there).1
  · have own : holder.sessionId ∈ w.asked :=
      inv.pending _ (mem_of_getElem? here) holder.sessionId rfl
    dsimp only at there
    rw [Validator.tokens_added] at there
    split at there
    · cases there
      have new : (w.validator.onValidated holder).holders w.validator.next = holder :=
        Function.update_self ..
      refine ⟨Nat.lt_succ_self _, ?_⟩
      dsimp only
      rw [new]
      exact own
    · obtain ⟨old, asked⟩ := inv.stored id ref there
      refine ⟨Nat.lt_succ_of_lt old, ?_⟩
      dsimp only
      rw [holders_added w.validator ref old]
      exact asked

theorem clean_added (inv : w.Inv) (here : w.validations[index]? = some (.resolved holder)) :
    ({ w.become index .settled with validator := w.validator.onValidated holder } : World).Clean ↔
      w.Clean ∧ (holder.sessionId ∈ w.validator.closed →
        (w.validator.store.tokens holder.playToken.id).isSome = true) := by
  have new : (w.validator.onValidated holder).holders w.validator.next = holder :=
    Function.update_self ..
  rw [(inv.added here).clean_iff, inv.clean_iff]
  show ((∀ id ref, (w.validator.onValidated holder).store.tokens id = some ref →
      ((w.validator.onValidated holder).holders ref).sessionId ∉ w.validator.closed) ∧
    ∀ other ∈ w.validator.sessions, other ∉ w.validator.closed) ↔ _
  rw [and_right_comm]
  refine and_congr_left fun _ => ⟨fun stored => ⟨fun id ref there => ?_, fun gone => ?_⟩, ?_⟩
  · have old := (inv.stored id ref there).1
    rw [← @holders_added holder w.validator ref old]
    apply stored id ref
    rw [Validator.tokens_added, if_neg, there]
    rintro ⟨absent, _⟩
    rw [there] at absent
    cases absent
  · cases there : w.validator.store.tokens holder.playToken.id with
    | some ref => rfl
    | none =>
      have added : (w.validator.onValidated holder).store.tokens holder.playToken.id =
          some w.validator.next := by
        rw [Validator.tokens_added, if_pos ⟨there, rfl⟩]
      exact absurd gone (new ▸ stored _ _ added)
  · rintro ⟨stored, replaced⟩ id ref there
    rw [Validator.tokens_added] at there
    split at there
    · next absent =>
      cases there
      rw [new]
      intro gone
      have present := replaced gone
      rw [← absent.2, absent.1] at present
      cases present
    · rw [holders_added w.validator ref (inv.stored id ref there).1]
      exact stored id ref there

end Added

theorem step_spec (w : World) (action : Action) (inv : w.Inv) (called : w.Called action) :
    (w.step action).Inv ∧ ((w.step action).Clean ↔ w.Clean ∧ w.Permitted action) := by
  have still (permitted : w.Permitted action) (w' : World) (eq : w.step action = w')
      (inv' : w'.Inv) (clean : w'.Clean ↔ w.Clean) :
      (w.step action).Inv ∧ ((w.step action).Clean ↔ w.Clean ∧ w.Permitted action) := by
    rw [eq]
    exact ⟨inv', clean.trans (and_iff_left permitted).symm⟩
  cases action with
  | validate sessionId playId value =>
    exact ⟨inv.validate sessionId playId value called,
      clean_validate inv sessionId playId value called⟩
  | accepted index token =>
    cases here : w.validations[index]? with
    | none => exact still trivial w (by simp only [step, here]) inv .rfl
    | some validation =>
      cases validation with
      | byTokenValue sessionId playId =>
        exact still trivial (w.become index (.resolved (.new token sessionId none)))
          (by simp only [step, here]) (inv.become here fun _ session => session)
          (clean_become index _)
      | _ => exact still trivial w (by simp only [step, here]) inv .rfl
  | failed index =>
    cases here : w.validations[index]? with
    | none => exact still trivial w (by simp only [step, here]) inv .rfl
    | some validation =>
      cases validation with
      | byTokenValue sessionId playId =>
        exact still trivial (w.become index (.bySession sessionId playId))
          (by simp only [step, here]) (inv.become here fun _ session => session)
          (clean_become index _)
      | bySession sessionId playId =>
        exact still trivial (w.become index .settled) (by simp only [step, here])
          (inv.become here fun _ none => by cases none) (clean_become index _)
      | _ => exact still trivial w (by simp only [step, here]) inv .rfl
  | related index tokenId parentPlays =>
    cases here : w.validations[index]? with
    | none => exact still trivial w (by simp only [step, here]) inv .rfl
    | some validation =>
      cases validation with
      | bySession sessionId playId =>
        refine still trivial
          (w.become index (fromParents w.validator sessionId playId tokenId parentPlays))
          (by simp only [step, here]) (inv.become here ?_) (clean_become index _)
        intro session eq
        rw [session_fromParents _ _ _ _ _ session eq]
        rfl
      | _ => exact still trivial w (by simp only [step, here]) inv .rfl
  | added index =>
    cases here : w.validations[index]? with
    | none =>
      have permitted : w.Permitted (.added index) := by
        intro validation there
        rw [here] at there
        cases there
      exact still permitted w (by simp only [step, here]) inv .rfl
    | some validation =>
      have permitted : w.Permitted (.added index) ↔ w.Replaced validation := by
        constructor
        · exact fun permitted => permitted validation here
        · rintro replaced other there
          rw [here] at there
          cases there
          exact replaced
      cases validation with
      | resolved holder =>
        rw [permitted]
        simp only [step, here]
        exact ⟨inv.added here, clean_added inv here⟩
      | _ => exact still (permitted.mpr trivial) w (by simp only [step, here]) inv .rfl
  | closed sessionId =>
    exact still trivial _ rfl (inv.closed sessionId) (clean_closed inv sessionId called)
  | revoke req =>
    have same := (w.validator.untouched_foldl .revoke (w.validator.targets req)).sameSessions
    exact still trivial _ rfl (inv.sameSessions same) (clean_sameSessions same)
  | updatePermission req permission =>
    have same := (w.validator.untouched_onUpdatePermissionEvent req permission).sameSessions
    exact still trivial _ rfl (inv.sameSessions same) (clean_sameSessions same)
  | immediate index =>
    have same := w.validator.sameSessions_runImmediate index
    exact still trivial _ rfl (inv.sameSessions same) (clean_sameSessions same)

theorem clean_new : new.Clean := by
  refine ⟨fun id ref there => ?_, fun sessionId => ⟨fun there => ?_, fun both => ?_⟩⟩
  · cases there
  · cases there
  · cases both.1

/-- After a run of sessions that close once, every holder in the store belongs to an open
session, and the known sessions are the open ones that have asked, if and only if no session
that has closed asks for a validation or has one end with a new holder. -/
theorem clean_iff_permitted (actions : List Action) (called : Run.Allowed step Called new actions) :
    (Run.final step new actions).Clean ↔ Run.Allowed step Permitted new actions := by
  have exactly : (Run.final step new actions).Clean ↔
      new.Clean ∧ Run.Allowed step Permitted new actions :=
    Run.final_iff_allowed_given (fun w action inv called => (step_spec w action inv called).1)
      (fun w action inv called => (step_spec w action inv called).2) new actions inv_new called
  exact exactly.trans (and_iff_right clean_new)

def sampleToken : PlayToken := ⟨"7", "10", .initial, none⟩

def inTime : List Action :=
  [.validate "s" "10" "v", .accepted 0 sampleToken, .added 0, .closed "s"]

theorem clean_inTime : (Run.final step new inTime).Clean :=
  (clean_iff_permitted inTime (by decide +kernel)).mpr (by decide +kernel)

def late : List Action :=
  [.validate "s" "10" "v", .closed "s", .accepted 0 sampleToken, .added 0]

/-- The holder stays in the store. -/
theorem late_unclean : ¬ ∀ actions : List Action, Run.Allowed step Called new actions →
      (Run.final step new actions).Quiet → (Run.final step new actions).Clean := by
  intro claimed
  have clean := claimed late (by decide +kernel) (by decide +kernel)
  exact clean.stored "7" 0 (by decide +kernel) (by decide +kernel)

end TokenSessions.World
end AkashicSystem.PlaylogServer
