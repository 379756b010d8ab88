import Mathlib.Data.List.Basic
import AkashicSystem.Lib.Pool
import AkashicSystem.PlaylogServer.PlayToken

/-!
# Validating by the value of a token

`PlayTokenValidator.validate` up to the fallback to the session, for one play and
one value: the validations of all sessions and servers share the key in Redis.
-/

set_option autoImplicit false

namespace AkashicSystem.PlaylogServer
namespace TokenUse

open Pool

structure StoredToken where
  token : PlayToken
  expire : Int
deriving DecidableEq

inductive Phase where
  /-- `_getTokenFromRedis` waits for the value of the key. -/
  | get
  /-- It has parsed the token, and waits for the deletion of the key. -/
  | del (stored : StoredToken)
  | succeeded (token : PlayToken)
  /-- Validation by the token has failed; `_validateBySession` follows. -/
  | bySession
deriving DecidableEq

/-- A call of `validate`, or the expiry of the key. -/
inductive Task where
  | validation (sessionId : String) (phase : Phase)
  | expiry (expired : Bool)
deriving DecidableEq

/-- How a command of Redis ends; one that fails may have been executed. -/
inductive Reply where
  | done (now : Int)
  | failed (executed : Bool)

def validate (sessionId value : String) : Task :=
  .validation sessionId (if value = "" then .bySession else .get)

/-- What follows a reply; `parse` is `PlayToken.fromObject(JSON.parse(data))`. -/
def next (parse : String → Option StoredToken) (data : Option String) :
    Task → Reply → Option (Option String × Task)
  | .validation sessionId .get, .done _ =>
    match data.bind parse with
    | some stored => some (data, .validation sessionId (.del stored))
    | none => some (data, .validation sessionId .bySession)
  | .validation sessionId .get, .failed _ => some (data, .validation sessionId .bySession)
  | .validation sessionId (.del stored), .done now =>
    some (none, .validation sessionId
      (if now ≤ stored.expire then .succeeded stored.token else .bySession))
  | .validation sessionId (.del _), .failed executed =>
    some (if executed then none else data, .validation sessionId .bySession)
  | .expiry false, _ => some (none, .expiry true)
  | _, _ => none

abbrev Uses := Pool (Option String) Task

def step (parse : String → Option StoredToken) (w : Uses) (action : Pool.Action Task Reply) :
    Uses :=
  Pool.step (next parse) w action

def new (data : Option String) : Uses := ⟨data, []⟩

def succeeds : Task → Bool
  | .validation _ (.succeeded _) => true
  | _ => false

def deletes : Task → Bool
  | .validation _ (.del _) => true
  | _ => false

def looksUp : Task → Bool
  | .validation _ .get => true
  | _ => false

def Begins : Task → Prop
  | .validation _ phase => phase = .get ∨ phase = .bySession
  | .expiry expired => expired = false

instance : DecidablePred Begins
  | .validation _ phase => inferInstanceAs (Decidable (phase = .get ∨ phase = .bySession))
  | .expiry expired => inferInstanceAs (Decidable (expired = false))

def Called (_ : Uses) : Action Task Reply → Prop
  | .start task => Begins task
  | .step _ _ => True

/-- The key is not looked up while a validation that has found the token has not deleted it. -/
def Unhurried (w : Uses) : Action Task Reply → Prop
  | .start task => Begins task
  | .step index _ => ∀ task ∈ w.threads[index]?, looksUp task = true →
      ∀ other ∈ w.threads, deletes other = false

instance (w : Uses) : DecidablePred (Called w)
  | .start task => inferInstanceAs (Decidable (Begins task))
  | .step _ _ => isTrue trivial

instance (w : Uses) : DecidablePred (Unhurried w)
  | .start task => inferInstanceAs (Decidable (Begins task))
  | .step index _ => inferInstanceAs (Decidable (∀ task ∈ w.threads[index]?, looksUp task = true →
      ∀ other ∈ w.threads, deletes other = false))

variable {parse : String → Option StoredToken} {data data' : Option String} {task task' : Task}

variable (p : Task → Bool)

def holds (task : Task) : Int := if p task then 1 else 0

/-- What a step of a task does: it finds the token, uses it up, or lets it be. -/
theorem next_cases {reply : Reply} (moves : next parse data task reply = some (data', task')) :
    (looksUp task = true ∧ data ≠ none ∧ data' = data ∧ deletes task' = true ∧
        succeeds task' = false ∧ deletes task = false ∧ succeeds task = false) ∨
      (deletes task = true ∧ data' = none ∧ deletes task' = false ∧ succeeds task = false) ∨
      (deletes task' = false ∧ succeeds task' = false ∧ succeeds task = false ∧
        (data' = data ∨ data' = none)) := by
  unfold next at moves
  split at moves
  · next sessionId now =>
      split at moves
      · next stored found =>
          cases moves
          refine .inl ⟨rfl, ?_, rfl, rfl, rfl, rfl, rfl⟩
          rintro rfl
          cases found
      · cases moves
        exact .inr (.inr ⟨rfl, rfl, rfl, .inl rfl⟩)
  · cases moves
    exact .inr (.inr ⟨rfl, rfl, rfl, .inl rfl⟩)
  · next sessionId stored now =>
      cases moves
      refine .inr (.inl ⟨rfl, rfl, ?_, rfl⟩)
      split_ifs <;> rfl
  · next sessionId stored executed =>
      cases moves
      refine .inr (.inr ⟨rfl, rfl, rfl, ?_⟩)
      cases executed
      · exact .inl rfl
      · exact .inr rfl
  · cases moves
    exact .inr (.inr ⟨rfl, rfl, rfl, .inr rfl⟩)
  · cases moves

/-- One validation deletes the key or has succeeded; once one has, the key is gone. -/
structure Inv (w : Uses) : Prop where
  one : total (holds deletes) w.threads + total (holds succeeds) w.threads ≤ 1
  gone : 0 < total (holds succeeds) w.threads → w.state = none

theorem holds_of_true {p : Task → Bool} {task : Task} (true_ : p task = true) :
    holds p task = 1 := if_pos true_

theorem holds_of_false {p : Task → Bool} {task : Task} (false_ : p task = false) :
    holds p task = 0 := by
  rw [holds, false_]
  rfl

theorem holds_le_one (task : Task) : holds p task ≤ 1 := by
  unfold holds
  split_ifs <;> decide

theorem holds_nonneg (task : Task) : 0 ≤ holds p task := by
  unfold holds
  split_ifs <;> decide

theorem inv_new (data : Option String) : Inv (new data) := by
  constructor <;> simp [new]

theorem inv_step (w : Uses) (action : Action Task Reply) (inv : Inv w)
    (unhurried : Unhurried w action) : Inv (step parse w action) := by
  obtain ⟨one, gone⟩ := inv
  cases action with
  | start task =>
    have nothing : holds deletes task = 0 ∧ holds succeeds task = 0 := by
      cases task with
      | validation sessionId phase =>
        rcases (unhurried : phase = .get ∨ phase = .bySession) with rfl | rfl <;>
          exact ⟨rfl, rfl⟩
      | expiry expired => exact ⟨rfl, rfl⟩
    constructor
    · simp only [step, Pool.step, Pool.total_append, nothing]
      omega
    · simp only [step, Pool.step, Pool.total_append, nothing, Int.add_zero]
      exact gone
  | step index reply =>
    rcases step_cases (next parse) w index reply with
      same | ⟨task, data', task', here, moves, eq⟩
    · rw [step, same]
      exact ⟨one, gone⟩
    · have deleting := Pool.total_set (holds deletes) w.threads index task task' here
      have succeeding := total_set (holds succeeds) w.threads index task task' here
      have deletes_nonneg := total_nonneg (holds deletes) w.threads fun task _ =>
        holds_nonneg deletes task
      have succeeds_nonneg := total_nonneg (holds succeeds) w.threads fun task _ =>
        holds_nonneg succeeds task
      have own := weight_le_total (holds deletes) w.threads
        (fun task _ => holds_nonneg deletes task) task (List.mem_of_getElem? here)
      rw [step, eq]
      rcases next_cases moves with
        ⟨looks, there, rfl, found, unsucceeded, undeleting, before⟩ |
        ⟨deletes_, rfl, done, before⟩ | ⟨undeleting, unsucceeded, before, left⟩
      · have none_deletes := total_eq_zero (holds deletes) w.threads fun other mem =>
          holds_of_false (unhurried task here looks other mem)
        have none_succeeded : ¬ 0 < total (holds succeeds) w.threads := fun some_ =>
          there (gone some_)
        rw [holds_of_true found, holds_of_false undeleting] at deleting
        rw [holds_of_false unsucceeded, holds_of_false before] at succeeding
        constructor
        · simp only [deleting, succeeding]
          omega
        · intro some_
          simp only [succeeding] at some_
          omega
      · have most := holds_le_one succeeds task'
        rw [holds_of_true deletes_] at own
        rw [holds_of_false done, holds_of_true deletes_] at deleting
        rw [holds_of_false before] at succeeding
        constructor
        · simp only [deleting, succeeding]
          omega
        · exact fun _ => rfl
      · have less := holds_nonneg deletes task
        rw [holds_of_false undeleting] at deleting
        rw [holds_of_false unsucceeded, holds_of_false before] at succeeding
        constructor
        · simp only [deleting, succeeding]
          omega
        · intro some_
          simp only [succeeding] at some_
          rcases left with rfl | rfl
          · exact gone (by omega)
          · rfl

/-- At most one validation succeeds by the value of a token, if the key is not looked up
between another look-up and its deletion. -/
theorem single_use (parse : String → Option StoredToken) (data : Option String)
    (actions : List (Action Task Reply))
    (unhurried : Run.Allowed (step parse) Unhurried (new data) actions) :
    (Run.final (step parse) (new data) actions).threads.countP succeeds ≤ 1 := by
  obtain ⟨one, _⟩ : Inv (Run.final (step parse) (new data) actions) :=
    Run.invariant inv_step (new data) actions (inv_new data) unhurried
  have deleting := total_nonneg (holds deletes)
    (Run.final (step parse) (new data) actions).threads fun task _ => holds_nonneg deletes task
  have count := total_indicator succeeds
    (Run.final (step parse) (new data) actions).threads
  change total (holds succeeds) _ = _ at count
  omega

def sampleToken : StoredToken := ⟨⟨"id", "play", .initial, none⟩, 10⟩

def oneByOne : List (Action Task Reply) :=
  [.start (validate "a" "value"), .start (validate "b" "value"),
    .step 1 (.done 1), .step 1 (.done 2), .step 0 (.done 3)]

theorem single_use_oneByOne :
    (Run.final (step fun _ => some sampleToken) (new (some "token")) oneByOne).threads.countP
      succeeds ≤ 1 := by
  exact single_use (fun _ => some sampleToken) (some "token") oneByOne (by decide +kernel)

def sideBySide : List (Pool.Action Task Reply) :=
  [.start (validate "a" "value"), .start (validate "b" "value"),
    .step 0 (.done 1), .step 1 (.done 1), .step 0 (.done 2), .step 1 (.done 2)]

/-- Both succeed. -/
theorem used_twice : ¬ ∀ (parse : String → Option StoredToken) (data : Option String)
      (actions : List (Action Task Reply)),
      Run.Allowed (step parse) Called (new data) actions →
      (Run.final (step parse) (new data) actions).threads.countP succeeds ≤ 1 := by
  intro claimed
  have once := claimed (fun _ => some sampleToken) (some "token") sideBySide (by decide +kernel)
  revert once
  decide +kernel

end TokenUse
end AkashicSystem.PlaylogServer
