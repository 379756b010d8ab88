import AkashicSystem.PlaylogServer.PlayTokenValidator
import Mathlib.Data.List.ReduceOption

/-!
# Permissions of child plays

`_validateBySession` with the boundaries as they are parsed from the database:
they may be `null`, and `allow` and `deny` may lack members.
-/

set_option autoImplicit false

namespace AkashicSystem.PlaylogServer
namespace ChildPermissions

open AkashicSystem.Js List

abbrev JsonNumber := { n : Number // n ≠ .nan }

/-- `allow` and `deny`, of which any member may be missing. -/
structure PermissionMembers where
  writeTick : Option Bool
  readTick : Option Bool
  subscribeTick : Option Bool
  sendEvent : Option Bool
  subscribeEvent : Option Bool
  maxEventPriority : Option JsonNumber

/-- `IPlayTokenPermissionBoundary`. -/
structure PermissionBoundary where
  allow : Option PermissionMembers
  deny : Option PermissionMembers
  authorizedFlag : Option String

/-- What `findByChild` answers: a map of the parents. -/
structure ParentPlays where
  boundaries : List (String × Option PermissionBoundary)
  distinct : (boundaries.map Prod.fst).Nodup

/-- A holder whose token was read: its priority was cast. -/
structure AuthedHolder where
  holder : PlayTokenHolder
  cast : holder.playToken.permission.maxEventPriority ≠ .nan

abbrev ParentPlayInfo := PlayToken × Permission

def boolean (member : Option Bool) : Bool := member.getD false

/-- A member as `Math.max` and `Math.min` take it: `undefined` is not a number. -/
def number (member : Option JsonNumber) : Number := (member.map Subtype.val).getD .nan

def getChildPermission (parent : Permission) (allow deny : Option PermissionMembers) :
    Permission :=
  let permission :=
    match allow with
    | none => parent
    | some allow =>
      ⟨parent.writeTick || boolean allow.writeTick, parent.readTick || boolean allow.readTick,
        parent.subscribeTick || boolean allow.subscribeTick,
        parent.sendEvent || boolean allow.sendEvent,
        parent.subscribeEvent || boolean allow.subscribeEvent,
        parent.maxEventPriority.max (number allow.maxEventPriority)⟩
  match deny with
  | none => permission
  | some deny =>
    ⟨permission.writeTick && !boolean deny.writeTick,
      permission.readTick && !boolean deny.readTick,
      permission.subscribeTick && !boolean deny.subscribeTick,
      permission.sendEvent && !boolean deny.sendEvent,
      permission.subscribeEvent && !boolean deny.subscribeEvent,
      permission.maxEventPriority.min (number deny.maxEventPriority)⟩

/-- What one token gives the child of one parent; the flag is looked up in the meta data before
the play of the token is compared. -/
def inherit (parentId : String) (cond : PermissionBoundary) (token : PlayToken) :
    Except TypeError (Option ParentPlayInfo) := do
  match cond.authorizedFlag with
  | none => pure ()
  | some flag =>
    match token.meta with
    | none => throw .thrown
    | some «meta» => if flag ∉ «meta».flags then return none
  if token.playId = parentId then
    return some (token, getChildPermission token.permission cond.allow cond.deny)
  else return none

def inheritAll (authedTokens : List PlayToken) (parent : String × Option PermissionBoundary) :
    Except TypeError (List ParentPlayInfo) :=
  match parent.2 with
  -- its `authorizedFlag` is read
  | none => throw .thrown
  | some cond => do return (← authedTokens.mapM (inherit parent.1 cond)).reduceOption

variable (holders : List AuthedHolder)

/-- The tokens of a session that are not revoked and were not authenticated by a parent. -/
def authedTokens : List AuthedHolder :=
  holders.filter fun authed => !authed.holder.revoked && authed.holder.parentId.isNone

/-- `_getParentPlayInfo`, with the holders that `getBySession` returns. -/
def getParentPlayInfo (parentPlays : ParentPlays) :
    Except TypeError (List ParentPlayInfo) :=
  let tokens := (authedTokens holders).map fun authed => authed.holder.playToken
  if tokens = [] then return []
  else do return (← parentPlays.boundaries.mapM (inheritAll tokens)).flatten

/-- `_validateBySession`, with the id that `uuid.v4` gives; `none` is a rejection. -/
def validateBySession (parentPlays : ParentPlays)
    (sessionId playId tokenId : String) : Option PlayTokenHolder :=
  match getParentPlayInfo holders parentPlays with
  | .error _ => none
  | .ok [] => none
  | .ok ((parentToken, permission) :: _) =>
    some (.new ⟨tokenId, playId, permission, parentToken.meta⟩ sessionId parentToken.id)

def granted (parent : Permission) (allow deny : Option PermissionMembers) : Permission :=
  let flag (own : Bool) (member : PermissionMembers → Option Bool) : Bool :=
    (own || (allow.bind member).getD false) && !(deny.bind member).getD false
  let raised := (allow.bind PermissionMembers.maxEventPriority).elim parent.maxEventPriority
    fun n => parent.maxEventPriority.max n.val
  ⟨flag parent.writeTick PermissionMembers.writeTick,
    flag parent.readTick PermissionMembers.readTick,
    flag parent.subscribeTick PermissionMembers.subscribeTick,
    flag parent.sendEvent PermissionMembers.sendEvent,
    flag parent.subscribeEvent PermissionMembers.subscribeEvent,
    (deny.bind PermissionMembers.maxEventPriority).elim raised fun n => raised.min n.val⟩

variable (cond : Option PermissionBoundary)

variable (parent : Permission)

/-- A `null` boundary changes nothing. -/
def permissionFor : Permission :=
  granted parent (cond.bind PermissionBoundary.allow) (cond.bind PermissionBoundary.deny)

/-- The flag is absent, or `true` in the meta data. -/
def authorizes (token : PlayToken) : Bool :=
  match cond.bind PermissionBoundary.authorizedFlag with
  | none => true
  | some flag => token.meta.any fun «meta» => flag ∈ «meta».flags

def eligible (parent : String × Option PermissionBoundary) (token : PlayToken) : Bool :=
  token.playId = parent.1 ∧ authorizes parent.2 token

/-- The parents and the tokens that may be inherited from them, in the order of the search. -/
def eligiblePairs (holders : List AuthedHolder) (parentPlays : ParentPlays) :
    List ((String × Option PermissionBoundary) × AuthedHolder) :=
  parentPlays.boundaries.flatMap fun parent =>
    ((authedTokens holders).filter fun authed => eligible parent authed.holder.playToken).map
      fun authed => (parent, authed)

/-- Validation succeeds where a token may be inherited from, and gives what that token's
permission and the boundary make. -/
structure Derives (holders : List AuthedHolder) (parentPlays : ParentPlays)
    (sessionId playId tokenId : String) (result : Option PlayTokenHolder) : Prop where
  succeeds : result.isSome = true ↔ ∃ parent ∈ parentPlays.boundaries,
    ∃ authed ∈ authedTokens holders, eligible parent authed.holder.playToken = true
  permission : ∀ derived, result = some derived → ∃ parent ∈ parentPlays.boundaries,
    ∃ authed ∈ authedTokens holders, eligible parent authed.holder.playToken = true ∧
      derived = .new ⟨tokenId, playId,
        permissionFor parent.2 authed.holder.playToken.permission,
        authed.holder.playToken.meta⟩ sessionId authed.holder.playToken.id

/-- The members are there, as far as the priority goes. -/
def HasPriority (members : Option PermissionMembers) : Prop :=
  ∀ given, members = some given → given.maxEventPriority ≠ none

theorem max_ne_nan {a b : Number} (left : a ≠ .nan) (right : b ≠ .nan) : a.max b ≠ .nan := by
  cases a <;> cases b <;> simp_all [Number.max] <;> split <;> simp

theorem min_ne_nan {a b : Number} (left : a ≠ .nan) (right : b ≠ .nan) : a.min b ≠ .nan := by
  cases a <;> cases b <;> simp_all [Number.min] <;> split <;> simp

@[simp] theorem max_nan (a : Number) : a.max .nan = .nan := by
  cases a <;> rfl

@[simp] theorem min_nan (a : Number) : a.min .nan = .nan := by
  cases a <;> rfl

@[simp] theorem nan_min (a : Number) : Number.min .nan a = .nan := by
  cases a <;> rfl

theorem granted_ne_nan (number : parent.maxEventPriority ≠ .nan)
    (allow deny : Option PermissionMembers) :
    (granted parent allow deny).maxEventPriority ≠ .nan := by
  have raised : ((allow.bind PermissionMembers.maxEventPriority).elim parent.maxEventPriority
      fun n => parent.maxEventPriority.max n.val) ≠ .nan := by
    cases allow.bind PermissionMembers.maxEventPriority with
    | none => exact number
    | some n => exact max_ne_nan number n.property
  change ((deny.bind PermissionMembers.maxEventPriority).elim _ fun n => _) ≠ Number.nan
  cases deny.bind PermissionMembers.maxEventPriority with
  | none => exact raised
  | some n => exact min_ne_nan raised n.property

/-- Without the priority of an `allow` or a `deny` the result is not a number. -/
theorem getChildPermission_nan (allow deny : Option PermissionMembers)
    (missing : ¬ (HasPriority allow ∧ HasPriority deny)) :
    (getChildPermission parent allow deny).maxEventPriority = .nan := by
  unfold HasPriority at missing
  cases allow with
  | none =>
    cases deny with
    | none => simp at missing
    | some deny =>
      have none : deny.maxEventPriority = none := by simpa using missing
      simp [getChildPermission, number, none]
  | some allow =>
    cases given : allow.maxEventPriority with
    | none => cases deny <;> simp [getChildPermission, number, given]
    | some n =>
      cases deny with
      | none => simp [given] at missing
      | some deny =>
        have none : deny.maxEventPriority = none := by simpa [given] using missing
        simp [getChildPermission, number, none]

theorem getChildPermission_eq (allow deny : Option PermissionMembers)
    (raises : HasPriority allow) (lowers : HasPriority deny) :
    getChildPermission parent allow deny = granted parent allow deny := by
  have priority : ∀ members, HasPriority (some members) →
      ∃ n, members.maxEventPriority = some n := fun members has =>
    Option.ne_none_iff_exists'.mp (has members rfl)
  cases allow with
  | none =>
    cases deny with
    | none => simp [getChildPermission, granted]
    | some deny =>
      obtain ⟨n, given⟩ := priority deny lowers
      simp [getChildPermission, granted, boolean, number, given]
  | some allow =>
    obtain ⟨m, given⟩ := priority allow raises
    cases deny with
    | none => simp [getChildPermission, granted, boolean, number, given]
    | some deny =>
      obtain ⟨n, given'⟩ := priority deny lowers
      simp [getChildPermission, granted, boolean, number, given, given']

def childPermission : Permission :=
  match cond with
  | none => parent
  | some cond => getChildPermission parent cond.allow cond.deny

/-- The boundary has the priorities of what it allows and denies. -/
def BoundaryHasPriority : Prop :=
  HasPriority (cond.bind PermissionBoundary.allow) ∧
    HasPriority (cond.bind PermissionBoundary.deny)

theorem childPermission_eq
    (has : BoundaryHasPriority cond) : childPermission cond parent = permissionFor cond parent := by
  cases cond with
  | none => simp [childPermission, permissionFor, granted]
  | some cond => exact getChildPermission_eq parent cond.allow cond.deny has.1 has.2

theorem childPermission_nan
    (lacks : ¬ BoundaryHasPriority cond) :
    (childPermission cond parent).maxEventPriority = .nan := by
  cases cond with
  | none =>
    have nothing : HasPriority none := fun _ given => by cases given
    exact absurd ⟨nothing, nothing⟩ lacks
  | some cond => exact getChildPermission_nan parent cond.allow cond.deny lacks

section Loops

variable {α β : Type}

theorem mapM_ok (f : α → Except TypeError β) (g : α → β) (l : List α)
    (each : ∀ a ∈ l, f a = .ok (g a)) : l.mapM f = .ok (l.map g) := by
  induction l with
  | nil => rfl
  | cons a rest ih =>
    rw [mapM_cons, each a mem_cons_self,
      ih fun a there => each a (mem_cons_of_mem _ there)]
    rfl

theorem mapM_error (f : α → Except TypeError β) (l : List α) (a : α) (there : a ∈ l)
    (fails : f a = .error .thrown) : l.mapM f = .error .thrown := by
  induction l with
  | nil => cases there
  | cons first rest ih =>
    rw [mapM_cons]
    cases now : f first with
    | error err =>
      cases err
      rfl
    | ok b =>
      have later : a ∈ rest := by
        rcases mem_cons.mp there with rfl | later
        · rw [fails] at now
          cases now
        · exact later
      rw [ih later]
      rfl

end Loops

def Readable (cond : PermissionBoundary) (token : PlayToken) : Prop :=
  cond.authorizedFlag ≠ none → token.meta ≠ none

theorem inherit_eq (parentId : String) (cond : PermissionBoundary) (token : PlayToken)
    (readable : Readable cond token) : inherit parentId cond token = .ok
      (if eligible (parentId, some cond) token then
        some (token, getChildPermission token.permission cond.allow cond.deny) else none) := by
  unfold inherit eligible authorizes
  cases flagged : cond.authorizedFlag with
  | none =>
    by_cases same : token.playId = parentId
    · simp [flagged, same]
      rfl
    · simp [flagged, same]
      rfl
  | some flag =>
    obtain ⟨«meta», there⟩ := Option.ne_none_iff_exists'.mp
      (readable (by rw [flagged]; exact Option.some_ne_none _))
    by_cases set : flag ∈ «meta».flags
    · by_cases same : token.playId = parentId
      · simp [flagged, there, set, same]
        rfl
      · simp [flagged, there, set, same]
        rfl
    · simp [flagged, there, set]
      rfl

theorem inherit_thrown (parentId : String) (cond : PermissionBoundary) (token : PlayToken)
    (unreadable : ¬ Readable cond token) : inherit parentId cond token = .error .thrown := by
  unfold Readable at unreadable
  push Not at unreadable
  obtain ⟨flagged, none⟩ := unreadable
  obtain ⟨flag, flagged⟩ := Option.ne_none_iff_exists'.mp flagged
  unfold inherit
  simp [flagged, none]
  rfl

variable (tokens : List PlayToken)

theorem reduceOption_map_ite (kept : PlayToken → Bool)
    (g : PlayToken → ParentPlayInfo) :
    (tokens.map fun token => if kept token then some (g token) else none).reduceOption =
      (tokens.filter kept).map g := by
  induction tokens with
  | nil => rfl
  | cons token rest ih =>
    rw [map_cons]
    by_cases here : kept token = true
    · rw [if_pos here, reduceOption_cons_of_some, ih, filter_cons_of_pos here,
        map_cons]
    · rw [if_neg here, reduceOption_cons_of_none, ih, filter_cons_of_neg here]

theorem inheritAll_eq (parentId : String) (cond : PermissionBoundary)
    (readable : ∀ token ∈ tokens, Readable cond token) :
    inheritAll tokens (parentId, some cond) =
      .ok ((tokens.filter (eligible (parentId, some cond))).map fun token =>
        (token, childPermission (some cond) token.permission)) := by
  unfold inheritAll
  dsimp only
  rw [mapM_ok (inherit parentId cond) _ tokens fun token there =>
    inherit_eq parentId cond token (readable token there)]
  exact congrArg Except.ok (reduceOption_map_ite tokens (eligible (parentId, some cond)) _)

theorem inheritAll_thrown (parent : String × Option PermissionBoundary)
    (fails : ∀ cond, parent.2 = some cond → ∃ token ∈ tokens, ¬ Readable cond token) :
    inheritAll tokens parent = .error .thrown := by
  obtain ⟨parentId, cond⟩ := parent
  cases cond with
  | none => rfl
  | some cond =>
    obtain ⟨token, there, unreadable⟩ := fails cond rfl
    unfold inheritAll
    dsimp only
    rw [mapM_error (inherit parentId cond) tokens token there
      (inherit_thrown parentId cond token unreadable)]
    rfl

variable {holders : List AuthedHolder} {parentPlays : ParentPlays}

def Searchable (holders : List AuthedHolder) (parentPlays : ParentPlays) : Prop :=
  ∀ parent ∈ parentPlays.boundaries, ∃ cond, parent.2 = some cond ∧
    ∀ authed ∈ authedTokens holders, Readable cond authed.holder.playToken

theorem getParentPlayInfo_eq (searchable : Searchable holders parentPlays) :
    getParentPlayInfo holders parentPlays = .ok ((eligiblePairs holders parentPlays).map
      fun pair => (pair.2.holder.playToken,
        childPermission pair.1.2 pair.2.holder.playToken.permission)) := by
  unfold getParentPlayInfo
  dsimp only
  split
  · next none =>
    have nobody : authedTokens holders = [] := map_eq_nil_iff.mp none
    have nothing : eligiblePairs holders parentPlays = [] := by
      rw [eligiblePairs, nobody]
      simp
    rw [nothing]
    rfl
  · rw [mapM_ok (inheritAll _) (fun parent => (((authedTokens holders).filter fun authed =>
      eligible parent authed.holder.playToken).map fun authed => (authed.holder.playToken,
        childPermission parent.2 authed.holder.playToken.permission))) parentPlays.boundaries]
    · unfold eligiblePairs
      rw [map_flatMap]
      simp only [map_map]
      rfl
    · rintro ⟨parentId, cond⟩ there
      obtain ⟨cond, rfl, readable⟩ := searchable (parentId, cond) there
      rw [inheritAll_eq]
      · rw [filter_map, map_map]
        rfl
      · intro token inTokens
        obtain ⟨authed, inAuthed, rfl⟩ := mem_map.mp inTokens
        exact readable authed inAuthed

theorem getParentPlayInfo_thrown (unsearchable : ¬ Searchable holders parentPlays)
    (somebody : authedTokens holders ≠ []) :
    getParentPlayInfo holders parentPlays = .error .thrown := by
  unfold Searchable at unsearchable
  push Not at unsearchable
  obtain ⟨parent, there, unreadable⟩ := unsearchable
  unfold getParentPlayInfo
  dsimp only
  rw [if_neg (fun none => somebody (map_eq_nil_iff.mp none)),
    mapM_error _ parentPlays.boundaries parent there]
  · rfl
  · refine inheritAll_thrown _ parent fun cond isCond => ?_
    obtain ⟨authed, inAuthed, unreadable⟩ := unreadable cond isCond
    exact ⟨_, mem_map_of_mem inAuthed, unreadable⟩

theorem mem_eligiblePairs (parent : String × Option PermissionBoundary) (authed : AuthedHolder) :
    (parent, authed) ∈ eligiblePairs holders parentPlays ↔ parent ∈ parentPlays.boundaries ∧
      authed ∈ authedTokens holders ∧ eligible parent authed.holder.playToken = true := by
  unfold eligiblePairs
  simp only [mem_flatMap, mem_map, mem_filter, Prod.mk.injEq]
  constructor
  · rintro ⟨parent', there, authed', ⟨inAuthed, may⟩, rfl, rfl⟩
    exact ⟨there, inAuthed, may⟩
  · rintro ⟨there, inAuthed, may⟩
    exact ⟨parent, there, authed, ⟨inAuthed, may⟩, rfl, rfl⟩

def derive (sessionId playId tokenId : String) (permission : Permission) (parentToken : PlayToken) :
    PlayTokenHolder :=
  .new ⟨tokenId, playId, permission, parentToken.meta⟩ sessionId parentToken.id

theorem validateBySession_eq (searchable : Searchable holders parentPlays)
    (sessionId playId tokenId : String) :
    validateBySession holders parentPlays sessionId playId tokenId =
      (eligiblePairs holders parentPlays).head?.map fun pair =>
        derive sessionId playId tokenId
          (childPermission pair.1.2 pair.2.holder.playToken.permission)
          pair.2.holder.playToken := by
  unfold validateBySession
  rw [getParentPlayInfo_eq searchable]
  cases eligiblePairs holders parentPlays with
  | nil | cons pair rest => rfl

theorem validateBySession_none (unsearchable : ¬ Searchable holders parentPlays)
    (sessionId playId tokenId : String) :
    validateBySession holders parentPlays sessionId playId tokenId = none := by
  unfold validateBySession
  by_cases somebody : authedTokens holders = []
  · have nothing : getParentPlayInfo holders parentPlays = .ok [] := by
      unfold getParentPlayInfo
      rw [somebody]
      rfl
    rw [nothing]
  · rw [getParentPlayInfo_thrown unsearchable somebody]

/-- Validation derives what is meant exactly if nothing is to be derived, or everything that the
search looks at is there and so are the priorities of the boundary it takes. -/
theorem derives_iff (holders : List AuthedHolder) (parentPlays : ParentPlays)
    (sessionId playId tokenId : String) : Derives holders parentPlays sessionId playId tokenId
        (validateBySession holders parentPlays sessionId playId tokenId) ↔
      ∀ parent authed, (eligiblePairs holders parentPlays).head? = some (parent, authed) →
        Searchable holders parentPlays ∧ BoundaryHasPriority parent.2 := by
  have anybody : (∃ parent ∈ parentPlays.boundaries, ∃ authed ∈ authedTokens holders,
      eligible parent authed.holder.playToken = true) ↔
        eligiblePairs holders parentPlays ≠ [] := by
    constructor
    · rintro ⟨parent, there, authed, inAuthed, may⟩
      exact ne_nil_of_mem ((mem_eligiblePairs parent authed).mpr ⟨there, inAuthed, may⟩)
    · intro some
      obtain ⟨⟨parent, authed⟩, mem⟩ := exists_mem_of_ne_nil _ some
      obtain ⟨there, inAuthed, may⟩ := (mem_eligiblePairs parent authed).mp mem
      exact ⟨parent, there, authed, inAuthed, may⟩
  constructor
  · rintro ⟨succeeds, permission⟩ parent authed first
    have searchable : Searchable holders parentPlays := by
      by_contra unsearchable
      rw [validateBySession_none unsearchable] at succeeds
      have some : eligiblePairs holders parentPlays ≠ [] := by
        intro nil
        rw [nil] at first
        cases first
      exact absurd (succeeds.mpr (anybody.mpr some)) Bool.false_ne_true
    refine ⟨searchable, ?_⟩
    by_contra lacks
    rw [validateBySession_eq searchable, first] at permission
    obtain ⟨parent', -, authed', -, -, same⟩ := permission _ rfl
    have priority := congrArg
      (fun holder => holder.playToken.permission.maxEventPriority) same
    change (childPermission parent.2 authed.holder.playToken.permission).maxEventPriority =
      (permissionFor parent'.2 authed'.holder.playToken.permission).maxEventPriority at priority
    rw [childPermission_nan _ _ lacks] at priority
    exact granted_ne_nan _ authed'.cast _ _ priority.symm
  · intro condition
    cases first : (eligiblePairs holders parentPlays).head? with
    | none =>
      have nil : eligiblePairs holders parentPlays = [] := List.head?_eq_none_iff.mp first
      have rejected : validateBySession holders parentPlays sessionId playId tokenId = none := by
        by_cases searchable : Searchable holders parentPlays
        · rw [validateBySession_eq searchable, first]
          rfl
        · exact validateBySession_none searchable sessionId playId tokenId
      rw [rejected]
      refine ⟨?_, fun derived made => by cases made⟩
      rw [anybody]
      exact ⟨fun some => absurd some Bool.false_ne_true, fun some => absurd nil some⟩
    | some pair =>
      obtain ⟨parent, authed⟩ := pair
      obtain ⟨searchable, has⟩ := condition parent authed first
      have mem := mem_of_head? first
      obtain ⟨there, inAuthed, may⟩ := (mem_eligiblePairs parent authed).mp mem
      rw [validateBySession_eq searchable, first]
      refine ⟨⟨fun _ => ⟨parent, there, authed, inAuthed, may⟩, fun _ => rfl⟩, ?_⟩
      intro derived made
      cases made
      refine ⟨parent, there, authed, inAuthed, may, ?_⟩
      dsimp only
      rw [childPermission_eq parent.2 _ has]
      rfl

def parentHolder («meta» : Option Meta) : AuthedHolder where
  holder := .new ⟨"7", "1", ⟨true, true, true, true, true, 2⟩, «meta»⟩ "s" none
  cast := fun isNan => by cases isNan

def onlyParent (cond : Option PermissionBoundary) : ParentPlays :=
  ⟨[("1", cond)], nodup_singleton "1"⟩

/-- The boundary is `null`. -/
theorem null_boundary_rejected : ¬ Derives [parentHolder none] (onlyParent none) "s" "2" "8"
      (validateBySession [parentHolder none] (onlyParent none) "s" "2" "8") := by
  rintro ⟨succeeds, -⟩
  have rejected : validateBySession [parentHolder none] (onlyParent none) "s" "2" "8" = none := by
    rfl
  rw [rejected] at succeeds
  refine absurd (succeeds.mpr ⟨("1", none), mem_singleton.mpr rfl, parentHolder none, ?_, ?_⟩)
    Bool.false_ne_true
  · exact mem_singleton.mpr rfl
  · decide

end ChildPermissions
end AkashicSystem.PlaylogServer
