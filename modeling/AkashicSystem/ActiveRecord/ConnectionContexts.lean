import AkashicSystem.Js.Computation

/-!
# Connections and who gives them back

A body runs in the context of a connection, which is taken from the factory before it and
released after it, in a transaction or not.  What the database is asked for is kept in order;
a step of a chain of promises that throws goes on in the nearest `catch`.
-/

set_option autoImplicit false

namespace AkashicSystem.ActiveRecord

open Js

/-- With a pool, a pool for each of several hosts, or a connection of its own for each use. -/
inductive ConnectionFactory where
  | pool
  | poolCluster
  | noPool

namespace ConnectionFactory

/-- Its connections have `release` and `destroy`. -/
def pooledConnection : ConnectionFactory → Bool
  | .pool | .poolCluster => true
  | .noPool => false

end ConnectionFactory

inductive Call where
  | getConnection
  | beginTransaction
  | body
  | commit
  | rollback
  | release
  | close
deriving DecidableEq

inductive Body (α : Type) where
  | resolves (result : α)
  | rejects (error : String)
  | throws (error : String)

structure Outcomes where
  getConnection : Option String
  beginTransaction : Option String
  commit : Option String

abbrev ContextM := Computation String (List Call)

section

variable {α : Type}

def ask (call : Call) (error : Option String) : ContextM Unit := do
  modify fun calls => calls ++ [call]
  match error with
  | none => return ()
  | some error => throw error

variable (factory : ConnectionFactory)

/-- `Connection.release`; the pool throws where the connection has been released already. -/
def connectionRelease : ContextM Unit := do
  if factory.pooledConnection then
    if (← get).contains .release then throw "Connection already released"
    modify fun calls => calls ++ [.release]

/-- `Connection.end`, which returns nothing. -/
def connectionEnd : ContextM Unit := do
  if factory.pooledConnection then modify fun calls => calls ++ [.close]

def release : ContextM Bool := do
  match factory with
  | .pool | .poolCluster =>
    connectionRelease factory
    return true
  | .noPool =>
    connectionEnd factory
    return false

def ofPromise (isPromise : Bool) (method : String) : ContextM Unit :=
  if isPromise then return ()
  else throw ("Cannot read properties of undefined (reading '" ++ method ++ "')")

def settled : Body α → ContextM α
  | .resolves result => return result
  | .rejects error | .throws error => throw error

def enterContext (outcomes : Outcomes) (inContext : Body α) :
    ContextM α := do
  ask .getConnection outcomes.getConnection
  modify fun calls => calls ++ [.body]
  match inContext with
  -- it is thrown before there is a promise to catch it
  | .throws error => throw error
  | inContext =>
    tryCatch
      (do
        let result ← settled inContext
        ofPromise (← release factory) "then"
        return result)
      fun error => do
        ofPromise (← release factory) "catch"
        throw error

/-- `Database.transaction`; `rollback` does not reject. -/
def transaction (outcomes : Outcomes)
    (inTransactionProcess : Body α) : ContextM α := do
  ask .getConnection outcomes.getConnection
  tryCatch
    (do
      ask .beginTransaction outcomes.beginTransaction
      modify fun calls => calls ++ [.body]
      let result ← settled inTransactionProcess
      ask .commit outcomes.commit
      let _ ← release factory
      return result)
    fun error => do
      tryCatch
        (do
          ask .rollback none
          let _ ← release factory)
        fun _ => return ()
      throw error

end

section Returned

variable {α : Type}

/-- How often the connection has been given back, to its pool or for good. -/
def releases (calls : List Call) : Nat := calls.count .release + calls.count .close

def Returned (calls : List Call) (connected : Bool) : Prop :=
  releases calls = if connected then 1 else 0

def value : EStateM.Result String (List Call) α → Except String α
  | .ok result _ => .ok result
  | .error error _ => .error error

def Body.value : Body α → Except String α
  | .resolves result => .ok result
  | .rejects error | .throws error => .error error

/-- The connection is released once, and what the body came to is passed on. -/
def EntersOnce (outcomes : Outcomes) (inContext : Body α)
    (run : EStateM.Result String (List Call) α) : Prop :=
  Returned (Computation.stateOf run) outcomes.getConnection.isNone ∧
    value run = match outcomes.getConnection with
      | some error => .error error
      | none => inContext.value

/-- The connection is released once; the transaction is committed where the body succeeds, and
what has not been committed is rolled back; the result is passed on, or the first error. -/
def Transacts (outcomes : Outcomes) (inTransactionProcess : Body α)
    (run : EStateM.Result String (List Call) α) : Prop :=
  let calls := Computation.stateOf run
  Returned calls outcomes.getConnection.isNone ∧
    (outcomes.getConnection = none →
      (Call.commit ∈ calls ↔
        outcomes.beginTransaction = none ∧ ∃ result, inTransactionProcess.value = .ok result) ∧
      (Call.rollback ∈ calls ↔ ¬ (outcomes.beginTransaction = none ∧ outcomes.commit = none ∧
        ∃ result, inTransactionProcess.value = .ok result))) ∧
    value run =
      match outcomes.getConnection, outcomes.beginTransaction, inTransactionProcess.value,
          outcomes.commit with
      | some error, _, _, _ => .error error
      | none, some error, _, _ => .error error
      | none, none, .error error, _ => .error error
      | none, none, .ok _, some error => .error error
      | none, none, .ok result, none => .ok result

theorem not_returned {calls : List Call} (kept : releases calls = 0) : ¬ Returned calls true := by
  intro returned
  rw [Returned, kept] at returned
  cases returned

variable (factory : ConnectionFactory)

variable (outcomes : Outcomes)

theorem entersOnce_iff (inContext : Body α) :
    EntersOnce outcomes inContext (enterContext factory outcomes inContext []) ↔
      outcomes.getConnection ≠ none ∨
        (factory.pooledConnection ∧ ∀ error, inContext ≠ .throws error) := by
  obtain ⟨connects, begins, commits⟩ := outcomes
  cases connects with
  | some error =>
    constructor
    · exact fun _ => .inl (by simp)
    · exact fun _ => ⟨rfl, rfl⟩
  | none =>
    have leaks (unreleased : releases (Computation.stateOf
        (enterContext factory ⟨none, begins, commits⟩ inContext [])) = 0) :
        ¬ EntersOnce ⟨none, begins, commits⟩ inContext
          (enterContext factory ⟨none, begins, commits⟩ inContext []) :=
      fun enters => not_returned unreleased enters.1
    cases inContext with
    | throws error =>
      constructor
      · intro enters
        exact absurd enters (leaks rfl)
      · rintro (failed | ⟨_, returns⟩)
        · exact absurd rfl failed
        · exact absurd rfl (returns error)
    | resolves result | rejects error =>
      cases factory with
      | pool | poolCluster => exact ⟨fun _ => .inr ⟨rfl, by simp⟩, fun _ => ⟨rfl, rfl⟩⟩
      | noPool =>
        constructor
        · intro enters
          exact absurd enters (leaks rfl)
        · rintro (failed | ⟨pooled, _⟩)
          · exact absurd rfl failed
          · cases pooled

theorem transacts_pooled (pooled : factory.pooledConnection)
    (begins commits : Option String) (inTransactionProcess : Body α) :
    Transacts ⟨none, begins, commits⟩ inTransactionProcess
      (transaction factory ⟨none, begins, commits⟩ inTransactionProcess []) := by
  have same : transaction factory ⟨none, begins, commits⟩ inTransactionProcess [] =
      transaction .pool ⟨none, begins, commits⟩ inTransactionProcess [] := by
    cases factory with
    | pool | poolCluster => rfl
    | noPool => cases pooled
  rw [same]
  have leaves (calls : List Call)
      (asked : Computation.stateOf (transaction .pool ⟨none, begins, commits⟩
        inTransactionProcess []) = calls)
      (ends : (Call.commit ∈ calls ↔
          begins = none ∧ ∃ result, inTransactionProcess.value = .ok result) ∧
        (Call.rollback ∈ calls ↔ ¬ (begins = none ∧ commits = none ∧
          ∃ result, inTransactionProcess.value = .ok result))) := asked ▸ ends
  cases begins with
  | some error =>
    refine ⟨rfl, fun _ => ?_, rfl⟩
    apply leaves [.getConnection, .beginTransaction, .rollback, .release] rfl
    simp
  | none =>
    cases inTransactionProcess with
    | throws error | rejects error =>
      refine ⟨rfl, fun _ => ?_, rfl⟩
      apply leaves [.getConnection, .beginTransaction, .body, .rollback, .release] rfl
      simp [Body.value]
    | resolves result =>
      cases commits with
      | some error =>
        refine ⟨rfl, fun _ => ?_, rfl⟩
        apply leaves [.getConnection, .beginTransaction, .body, .commit, .rollback, .release] rfl
        simp [Body.value]
      | none =>
        refine ⟨rfl, fun _ => ?_, rfl⟩
        apply leaves [.getConnection, .beginTransaction, .body, .commit, .release] rfl
        simp [Body.value]

theorem transaction_unreleased (begins commits : Option String) (inTransactionProcess : Body α) :
    releases (Computation.stateOf (transaction .noPool ⟨none, begins, commits⟩
      inTransactionProcess [])) = 0 := by
  cases begins with
  | some error => rfl
  | none =>
    cases inTransactionProcess with
    | throws error | rejects error => rfl
    | resolves result =>
      cases commits with
      | some error | none => rfl

theorem transacts_iff
    (inTransactionProcess : Body α) : Transacts outcomes inTransactionProcess
        (transaction factory outcomes inTransactionProcess []) ↔
      outcomes.getConnection ≠ none ∨ factory.pooledConnection := by
  obtain ⟨connects, begins, commits⟩ := outcomes
  cases connects with
  | some error =>
    constructor
    · exact fun _ => .inl (by simp)
    · exact fun _ => ⟨rfl, by simp, rfl⟩
  | none =>
    constructor
    · intro transacts
      cases factory with
      | pool | poolCluster => exact .inr rfl
      | noPool =>
        have unreleased := transaction_unreleased begins commits inTransactionProcess
        exact absurd transacts.1 (not_returned unreleased)
    · rintro (failed | pooled)
      · exact absurd rfl failed
      · exact transacts_pooled factory pooled begins commits inTransactionProcess

/-- The connections are returned exactly where they come from a pool, and the body of a
context without a transaction returns a promise. -/
theorem returned_iff (body : Body α) :
    (EntersOnce outcomes body (enterContext factory outcomes body []) ↔
      outcomes.getConnection ≠ none ∨ (factory.pooledConnection ∧ ∀ error, body ≠ .throws error)) ∧
    (Transacts outcomes body (transaction factory outcomes body []) ↔
      outcomes.getConnection ≠ none ∨ factory.pooledConnection) :=
  ⟨entersOnce_iff factory outcomes body, transacts_iff factory outcomes body⟩

/-- A body throws before it returns a promise; and there is no pool. -/
theorem throwing_unreturned : ¬ EntersOnce ⟨none, none, none⟩ (.throws "not an identity" : Body Nat)
        (enterContext .pool ⟨none, none, none⟩ (.throws "not an identity") []) ∧
    ¬ EntersOnce ⟨none, none, none⟩ (.resolves 1 : Body Nat)
        (enterContext .noPool ⟨none, none, none⟩ (.resolves 1) []) ∧
    ¬ Transacts ⟨none, none, none⟩ (.resolves 1 : Body Nat)
        (transaction .noPool ⟨none, none, none⟩ (.resolves 1) []) := by
  refine ⟨?_, ?_, ?_⟩
  · intro enters
    exact not_returned rfl enters.1
  · intro enters
    exact not_returned rfl enters.1
  · intro transacts
    exact not_returned rfl transacts.1

end Returned
end AkashicSystem.ActiveRecord
