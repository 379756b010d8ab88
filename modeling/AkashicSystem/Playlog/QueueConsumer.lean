import AkashicSystem.Js.Computation
import AkashicSystem.Lib.Run

/-!
# Watching the write status of plays

`PlaylogQueueConsumer.onUpdate`: plays that are being written are subscribed to,
and a play that is not, or has been closing for a while, is unsubscribed, its
queues are deleted and its write status is set to closed.  One update gets what
the status database, the queue and the clock answer during it.
-/

set_option autoImplicit false

namespace AkashicSystem.Playlog

open AkashicSystem.Js

inductive WriteStatus where
  | playing
  | closing
  | closed
deriving DecidableEq

def expireTime : Nat := 10 * 60 * 1000

structure Subscription where
  playId : String
  changeClosingAt : Option Nat

/-- The calls a consumer makes on the queue and on the status database. -/
inductive QueueCall where
  | subscribe (playId : String)
  | hasMessage (playId : String)
  | unsubscribe (playId : String)
  | deleteQueue (playId : String)
  | setClosed (playId : String)
deriving DecidableEq

structure QueueConsumer where
  subscriptions : List Subscription
  calls : List QueueCall

/-- What an update meets.  A call on which it fails throws. -/
structure Update where
  /-- The answer of `getWritingPlays`. -/
  writingPlays : Option (List (String × WriteStatus))
  closingNow : String → Nat
  /-- The clock when the expired subscriptions are looked for. -/
  now : Nat
  succeeds : QueueCall → Bool
  /-- The answer of `hasMessage`; it is `null` where there is no queue. -/
  hasMessage : String → Option Bool

namespace QueueConsumer

abbrev UpdateM (α : Type) := Computation Unit QueueConsumer α

def new : QueueConsumer := ⟨[], []⟩

variable (u : Update)

def call (made : QueueCall) : UpdateM Unit := do
  modify fun c => { c with calls := c.calls ++ [made] }
  if u.succeeds made then pure () else throw ()

def subscribed (c : QueueConsumer) (playId : String) : Bool :=
  c.subscriptions.any fun subscription => subscription.playId == playId

def assertSubscription (playId : String) : UpdateM Unit := do
  if (← get).subscribed playId then pure ()
  else do
    call u (.subscribe playId)
    modify fun c => { c with subscriptions := c.subscriptions ++ [⟨playId, none⟩] }

def startClosing (playId : String) (subscription : Subscription) : Subscription :=
  if subscription.playId = playId ∧ subscription.changeClosingAt = none then
    { subscription with changeClosingAt := some (u.closingNow playId) }
  else subscription

/-- The loop over the plays being written; returns the ids left to delete. -/
def watchPlays (u : Update) : List (String × WriteStatus) → List String → UpdateM (List String)
  | [], deletingIds => pure deletingIds
  | (playId, writeStatus) :: rest, deletingIds => do
      assertSubscription u playId
      modify fun c =>
        if writeStatus = .closing then
          { c with subscriptions := c.subscriptions.map (startClosing u playId) }
        else c
      watchPlays u rest (deletingIds.filter fun id => id ≠ playId)

def expired (now : Nat) (subscription : Subscription) : Bool :=
  subscription.changeClosingAt.any fun changeClosingAt => changeClosingAt + expireTime < now

/-- The loop over the subscriptions: `deletingIds.add` for each expired one. -/
def addExpired (now : Nat) (subscriptions : List Subscription) (deletingIds : List String) :
    List String :=
  subscriptions.foldl
    (fun ids subscription =>
      if expired now subscription ∧ subscription.playId ∉ ids then ids ++ [subscription.playId]
      else ids)
    deletingIds

def unsubscribeAndDelete (playId : String) : UpdateM Unit := do
  call u (.hasMessage playId)
  if u.hasMessage playId = some true then pure ()
  else do
    call u (.unsubscribe playId)
    call u (.deleteQueue playId)
    modify fun c =>
      { c with
        subscriptions := c.subscriptions.filter fun subscription => subscription.playId ≠ playId }
    call u (.setClosed playId)

def deleteAll (u : Update) : List String → UpdateM Unit
  | [] => pure ()
  | playId :: rest => do
      unsubscribeAndDelete u playId
      deleteAll u rest

def onUpdate : UpdateM Unit :=
  match u.writingPlays with
  | none => throw ()
  | some runningPlays => do
      let ids := (← get).subscriptions.map Subscription.playId
      let deletingIds ← watchPlays u runningPlays ids
      let c ← get
      deleteAll u (addExpired u.now c.subscriptions deletingIds)

/-- The consumer after an update; the timer goes on whether it throws or not. -/
def update (c : QueueConsumer) (u : Update) : QueueConsumer := Computation.stateOf (onUpdate u c)

end QueueConsumer
end AkashicSystem.Playlog
