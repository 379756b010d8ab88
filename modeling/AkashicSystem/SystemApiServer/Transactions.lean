import AkashicSystem.SystemApiServer.PlayManager

/-!
# Transactions

`Database.transaction` over any state: a connection is taken, and what the process of the
transaction has changed is committed, or else rolled back with its error thrown again.
-/

set_option autoImplicit false

namespace AkashicSystem.SystemApiServer.Transactions

open AkashicSystem.Js AkashicSystem.Js.Computation

variable {σ α : Type}

def attempt (reply : Reply) (effect : σ → σ) : Computation ApiError σ Unit := fun s =>
  match reply with
  | .ok => .ok () (effect s)
  | .failed true => .error .unavailable (effect s)
  | .failed false => .error .unavailable s

theorem attempt_ok {reply : Reply} (ok : reply = .ok) (effect : σ → σ) (s : σ) :
    attempt reply effect s = .ok () (effect s) := by
  subst ok
  rfl

theorem attempt_failed {reply : Reply} (failed : reply ≠ .ok) (effect : σ → σ) (s : σ) :
    ∃ s', attempt reply effect s = .error .unavailable s' ∧
      ((s' = effect s ∧ reply ≠ .failed false) ∨ (s' = s ∧ reply = .failed false)) := by
  cases reply with
  | ok => exact absurd rfl failed
  | failed applied =>
    cases applied with
    | true => exact ⟨effect s, rfl, .inl ⟨rfl, by simp⟩⟩
    | false => exact ⟨s, rfl, .inr ⟨rfl, rfl⟩⟩

theorem attempt_id_failed {reply : Reply} (failed : reply ≠ .ok) (s : σ) :
    attempt reply id s = .error .unavailable s := by
  obtain ⟨s', run, left⟩ := attempt_failed failed id s
  rcases left with ⟨same, -⟩ | ⟨same, -⟩
  · rw [run, same]
    rfl
  · rw [run, same]

structure Replies where
  getConnection : Reply
  beginTransaction : Reply
  commit : Reply
  rollback : Reply
  release : Reply

structure Effects (σ : Type) where
  begins : σ → σ
  commits : σ → σ
  rollsBack : σ → σ

/-- The `catch` of the transaction. -/
def rollback (replies : Replies) (effects : Effects σ) (error : ApiError) :
    Computation ApiError σ α := do
  modify effects.rollsBack
  ignoring (do
    attempt replies.rollback id
    attempt replies.release id)
  throw error

def transaction (replies : Replies) (effects : Effects σ)
    (inTransactionProcess : Computation ApiError σ α) : Computation ApiError σ α := do
  attempt replies.getConnection id
  tryCatch
    (do
      attempt replies.beginTransaction effects.begins
      let result ← inTransactionProcess
      attempt replies.commit effects.commits
      attempt replies.release id
      return result)
    (rollback replies effects)

variable {replies : Replies} {effects : Effects σ}

/-- What is not committed is gone, whether or not the rollback is answered. -/
theorem rollback_run (error : ApiError) (s : σ) :
    (rollback replies effects error : Computation ApiError σ α) s =
      .error error (effects.rollsBack s) := by
  have same (s : σ) : stateOf ((do
      attempt replies.rollback id
      attempt replies.release id : Computation ApiError σ Unit) s) = s := by
    rw [bind_run]
    by_cases rolledBack : replies.rollback = .ok
    · rw [attempt_ok rolledBack]
      dsimp only [id]
      by_cases released : replies.release = .ok
      · rw [attempt_ok released]
        rfl
      · rw [attempt_id_failed released]
        rfl
    · rw [attempt_id_failed rolledBack]
      rfl
  rw [rollback, bind_run, modify_run]
  dsimp only
  rw [bind_run, ignoring_run]
  dsimp only
  exact congrArg (EStateM.Result.error error) (same _)

theorem transaction_run (connected : replies.getConnection = .ok)
    (begun : replies.beginTransaction = .ok) (m : Computation ApiError σ α) (s : σ) :
    transaction replies effects m s =
      match m (effects.begins s) with
      | .error error s' => .error error (effects.rollsBack s')
      | .ok a s' =>
        if replies.commit = .failed false then .error .unavailable (effects.rollsBack s')
        else if replies.commit = .ok ∧ replies.release = .ok then .ok a (effects.commits s')
        else .error .unavailable (effects.rollsBack (effects.commits s')) := by
  rw [transaction, bind_run, attempt_ok connected]
  dsimp only [id]
  rw [tryCatch_run, bind_run, attempt_ok begun]
  dsimp only
  rw [bind_run]
  cases body : m (effects.begins s) with
  | error error s' => exact rollback_run error s'
  | ok a s' =>
    dsimp only
    rw [bind_run]
    by_cases committed : replies.commit = .ok
    · rw [attempt_ok committed, if_neg (by simp [committed])]
      dsimp only
      rw [bind_run]
      by_cases released : replies.release = .ok
      · rw [attempt_ok released, if_pos ⟨committed, released⟩]
        rfl
      · rw [attempt_id_failed released, if_neg fun both => released both.2]
        exact rollback_run .unavailable _
    · obtain ⟨s'', run, left⟩ := attempt_failed committed effects.commits s'
      rw [run]
      dsimp only
      rw [rollback_run]
      rcases left with ⟨same, taken⟩ | ⟨same, lost⟩
      · rw [if_neg taken, if_neg fun both => committed both.1, same]
      · rw [if_pos lost, same]

theorem transaction_closed
    (closed : ¬(replies.getConnection = .ok ∧ replies.beginTransaction = .ok))
    (m : Computation ApiError σ α) {s : σ} (kept : effects.rollsBack s = s)
    (undone : effects.rollsBack (effects.begins s) = s) :
    transaction replies effects m s = .error .unavailable s := by
  rw [transaction, bind_run]
  by_cases connected : replies.getConnection = .ok
  · obtain ⟨s', run, left⟩ :=
      attempt_failed (fun begun => closed ⟨connected, begun⟩) effects.begins s
    rw [attempt_ok connected]
    dsimp only [id]
    rw [tryCatch_run, bind_run, run]
    dsimp only
    rw [rollback_run]
    rcases left with ⟨same, -⟩ | ⟨same, -⟩
    · rw [same, undone]
    · rw [same, kept]
  · rw [attempt_id_failed connected]

end AkashicSystem.SystemApiServer.Transactions
