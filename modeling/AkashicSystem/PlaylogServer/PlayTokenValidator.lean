import AkashicSystem.Lib.Run
import AkashicSystem.PlaylogServer.PlayTokenStore

/-!
# Validating, revoking and updating tokens

`PlayTokenValidator`.  Its steps are the turns of the event loop: a validation
that completes, a session that closes, an event from the queue, an immediate.
A walk is the closure that goes down to the children of a token: what it does to
a holder, and the set of the ids it has visited.
-/

set_option autoImplicit false

namespace AkashicSystem.PlaylogServer

open AkashicSystem.Js

/-- The permissions of a child play: `allow` and `deny` of the boundary. -/
structure Boundary where
  allow : Option Permission
  deny : Option Permission
  authorizedFlag : Option String

/-- A token of the message queue; a falsy field is not given. -/
structure TokenEvent where
  id : Option String
  playId : Option String
  userId : Option String

inductive Update where
  | revoke
  | permission (permission : Permission)

def Update.apply : Update → PlayTokenHolder → PlayTokenHolder
  | .revoke, holder => holder.revoke
  | .permission generated, holder => holder.updatePermission generated

structure Walk where
  update : Update
  visited : List String

instance : Inhabited Walk := ⟨⟨.revoke, []⟩⟩

/-- A callback of `setImmediate`. -/
structure Immediate where
  walk : Nat
  child : Ref
deriving DecidableEq

structure Validator where
  holders : Ref → PlayTokenHolder
  next : Ref
  store : PlayTokenStore
  sessions : List String
  walks : Nat → Walk
  nextWalk : Nat
  immediates : List Immediate
  /-- The holders that `validate` has resolved with. -/
  validated : List Ref
  closed : List String

namespace Validator

instance : Inhabited PlayTokenHolder :=
  ⟨⟨⟨"", "", .initial, none⟩, "", none, false⟩⟩

def new : Validator :=
  ⟨fun _ => default, 0, .empty, [], fun _ => default, 0, [], [], []⟩

def validate (v : Validator) (sessionId : String) : Validator :=
  if sessionId ∈ v.sessions then v else { v with sessions := sessionId :: v.sessions }

variable (v : Validator)

/-- The part of `validate` that runs when the validation has given a holder. -/
def onValidated (holder : PlayTokenHolder) : Validator :=
  { v with
    holders := Function.update v.holders v.next holder
    next := v.next + 1
    store := v.store.add v.next holder
    validated := v.validated ++ [v.next] }

def getChildPermission (parent : Permission) (allow deny : Option Permission) : Permission :=
  let permission :=
    match allow with
    | none => parent
    | some allow =>
      ⟨parent.writeTick || allow.writeTick, parent.readTick || allow.readTick,
        parent.subscribeTick || allow.subscribeTick, parent.sendEvent || allow.sendEvent,
        parent.subscribeEvent || allow.subscribeEvent,
        parent.maxEventPriority.max allow.maxEventPriority⟩
  match deny with
  | none => permission
  | some deny =>
    ⟨permission.writeTick && !deny.writeTick, permission.readTick && !deny.readTick,
      permission.subscribeTick && !deny.subscribeTick, permission.sendEvent && !deny.sendEvent,
      permission.subscribeEvent && !deny.subscribeEvent,
      permission.maxEventPriority.min deny.maxEventPriority⟩

/-- What one authenticated token gives the child of a play; the outer `none` is a
`TypeError`, the meta data being read where there is none. -/
def inherit (parentId : String) (cond : Boundary) (token : PlayToken) :
    Option (Option (PlayToken × Permission)) :=
  let info :=
    if token.playId = parentId then
      some (token, getChildPermission token.permission cond.allow cond.deny)
    else none
  match cond.authorizedFlag with
  | none => some info
  | some flag =>
    match token.meta with
    | none => none
    | some «meta» => some (if flag ∈ «meta».flags then info else none)

/-- `_getParentPlayInfo`, from what `findByChild` answers; `none` is a `TypeError`,
here also for a boundary that is `null`. -/
def getParentPlayInfo (sessionId : String)
    (parentPlays : List (String × Option Boundary)) : Option (List (PlayToken × Permission)) :=
  let authedTokens := ((v.store.getBySession sessionId).map v.holders).filter fun holder =>
    !holder.revoked && holder.parentId.isNone
  if authedTokens.isEmpty then some []
  else do
    let infos ← parentPlays.mapM fun (parentId, cond) => do
      let cond ← cond
      authedTokens.mapM fun holder => inherit parentId cond holder.playToken
    return infos.flatten.reduceOption

/-- `_validateBySession` after the query, with the id that `uuid.v4` gives. -/
def validateBySession (sessionId playId tokenId : String)
    (parentPlays : List (String × Option Boundary)) : Validator :=
  match v.getParentPlayInfo sessionId parentPlays with
  | none | some [] => v
  | some ((parentToken, permission) :: _) =>
    v.onValidated (.new ⟨tokenId, playId, permission, parentToken.meta⟩ sessionId parentToken.id)

def onSessionClose (sessionId : String) : Validator :=
  if sessionId ∈ v.sessions then
    { v with
      store := v.store.deleteBySession v.holders sessionId
      sessions := v.sessions.filter fun id => id ≠ sessionId
      closed := sessionId :: v.closed }
  else { v with closed := sessionId :: v.closed }

/-- `_revokePlayToken` and `_updatePermission`, within a walk. -/
def visit (walk : Nat) (ref : Ref) : Validator :=
  let id := (v.holders ref).playToken.id
  if id ∈ (v.walks walk).visited then v
  else
    { v with
      holders := Function.update v.holders ref ((v.walks walk).update.apply (v.holders ref))
      walks := Function.update v.walks walk
        { v.walks walk with visited := id :: (v.walks walk).visited }
      immediates := v.immediates ++ (v.store.getByParent id).map fun child => ⟨walk, child⟩ }

/-- `_revokePlayToken(holder)` and `_updatePermission(holder, permission)`: a new
set of visited ids. -/
def walkFrom (update : Update) (v : Validator) (ref : Ref) : Validator :=
  { v with
    walks := Function.update v.walks v.nextWalk ⟨update, []⟩
    nextWalk := v.nextWalk + 1 }.visit v.nextWalk ref

def given (field : Option String) : Option String := field.filter fun value => value ≠ ""

variable (req : TokenEvent)

/-- The holders that `_updatePlayTokenByEvent` updates. -/
def targets : List Ref :=
  match given req.id with
  | some id =>
    match v.store.tokens id with
    | none => []
    | some ref =>
      let token := (v.holders ref).playToken
      match given req.playId, given req.userId with
      | some playId, some userId =>
        if token.playId = playId ∧ token.userId = some userId then [ref] else []
      | some playId, none => if token.playId = playId then [ref] else []
      | none, some userId => if token.userId = some userId then [ref] else []
      | none, none => [ref]
  | none =>
    match given req.playId, given req.userId with
    | some playId, some userId =>
      (v.store.getByPlay playId).filter fun ref =>
        (v.holders ref).playToken.userId = some userId
    | some playId, none => v.store.getByPlay playId
    | none, some userId => v.store.getByUser userId
    | none, none => []

def updatePlayTokenByEvent (update : Update) : Validator :=
  (v.targets req).foldl (walkFrom update) v

def onRevokePlayTokenEvent : Validator :=
  v.updatePlayTokenByEvent req .revoke

/-- A permission that `generate` does not take throws at the first holder. -/
def onUpdatePermissionEvent (permission : Option Permission) :
    Validator :=
  match permission with
  | none => v
  | some permission =>
    match permission.generate with
    | none => v
    | some permission => v.updatePlayTokenByEvent req (.permission permission)

def dequeue (index : Nat) : Validator :=
  { v with immediates := v.immediates.eraseIdx index }

def runImmediate (index : Nat) : Validator :=
  match v.immediates[index]? with
  | none => v
  | some immediate => (v.dequeue index).visit immediate.walk immediate.child

inductive Action where
  | validate (sessionId : String)
  | validated (sessionId : String) (token : PlayToken)
  /-- A play's parents were found, for a validation by session. -/
  | derived (sessionId playId tokenId : String) (parentPlays : List (String × Option Boundary))
  | closed (sessionId : String)
  | revoke (req : TokenEvent)
  | updatePermission (req : TokenEvent) (permission : Option Permission)
  | immediate (index : Nat)

def step : Action → Validator
  | .validate sessionId => v.validate sessionId
  | .validated sessionId token => v.onValidated (.new token sessionId none)
  | .derived sessionId playId tokenId parentPlays =>
    v.validateBySession sessionId playId tokenId parentPlays
  | .closed sessionId => v.onSessionClose sessionId
  | .revoke req => v.onRevokePlayTokenEvent req
  | .updatePermission req permission => v.onUpdatePermissionEvent req permission
  | .immediate index => v.runImmediate index

end Validator
end AkashicSystem.PlaylogServer
