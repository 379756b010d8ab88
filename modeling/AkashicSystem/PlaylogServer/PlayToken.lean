import AkashicSystem.Js.Number

/-!
# Play tokens

`PlayToken` and `PlayTokenPermission` of server-engine-data-types, and the
`PlayTokenHolder` of the playlog server.
-/

set_option autoImplicit false

namespace AkashicSystem.PlaylogServer

open AkashicSystem.Js

/-- `PlayTokenPermission`. -/
structure Permission where
  writeTick : Bool
  readTick : Bool
  subscribeTick : Bool
  sendEvent : Bool
  subscribeEvent : Bool
  maxEventPriority : Number
deriving DecidableEq

namespace Permission

/-- `initPermission`. -/
def initial : Permission := ⟨false, false, false, false, false, 0⟩

/-- `PlayTokenPermission.generate` of an object: the priority is cast to an integer
from 0 to 3, or the cast throws. -/
def generate (permission : Permission) : Option Permission :=
  match permission.maxEventPriority with
  | .nan => some { permission with maxEventPriority := 0 }
  | .finite q =>
    if q = 0 ∨ q = 1 ∨ q = 2 ∨ q = 3 then some permission else none
  | _ => none

end Permission

/-- The meta data of a token: the user, and the flags that are `true`. -/
structure Meta where
  userId : Option String
  flags : List String
deriving DecidableEq

structure PlayToken where
  id : String
  playId : String
  permission : Permission
  «meta» : Option Meta
deriving DecidableEq

namespace PlayToken

/-- `meta ? meta.userId : undefined`. -/
def userId (token : PlayToken) : Option String := token.meta.bind Meta.userId

end PlayToken

structure PlayTokenHolder where
  playToken : PlayToken
  sessionId : String
  parentId : Option String
  revoked : Bool
deriving DecidableEq

namespace PlayTokenHolder

/-- `new PlayTokenHolder(playToken, sessionId, parentId)`. -/
def new (playToken : PlayToken) (sessionId : String) (parentId : Option String) :
    PlayTokenHolder :=
  ⟨playToken, sessionId, parentId, false⟩

variable (holder : PlayTokenHolder)

def revoke : PlayTokenHolder := { holder with revoked := true }

/-- `updatePermission`; the token is updated with what `generate` makes of the permission. -/
def updatePermission (permission : Permission) : PlayTokenHolder :=
  { holder with playToken := { holder.playToken with permission := permission } }

structure SameIdentity (holder holder' : PlayTokenHolder) : Prop where
  session : holder'.sessionId = holder.sessionId
  parent : holder'.parentId = holder.parentId
  id : holder'.playToken.id = holder.playToken.id
  play : holder'.playToken.playId = holder.playToken.playId
  user : holder'.playToken.userId = holder.playToken.userId

theorem SameIdentity.refl : holder.SameIdentity holder :=
  ⟨rfl, rfl, rfl, rfl, rfl⟩

theorem SameIdentity.trans {h h' h'' : PlayTokenHolder} (first : h.SameIdentity h')
    (second : h'.SameIdentity h'') : h.SameIdentity h'' :=
  ⟨second.session.trans first.session, second.parent.trans first.parent,
    second.id.trans first.id, second.play.trans first.play, second.user.trans first.user⟩

theorem sameIdentity_revoke : holder.SameIdentity holder.revoke :=
  ⟨rfl, rfl, rfl, rfl, rfl⟩

theorem sameIdentity_updatePermission (permission : Permission) :
    holder.SameIdentity (holder.updatePermission permission) :=
  ⟨rfl, rfl, rfl, rfl, rfl⟩

end PlayTokenHolder
end AkashicSystem.PlaylogServer
