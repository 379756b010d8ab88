/-!
# Loops that retry

A loop without a bound is run round by round; what each round meets is given in advance.
A round says whether the loop ends with it.
-/

set_option autoImplicit false

namespace Retry

variable {World Round : Type}

def run (step : World → Round → World × Bool) (rounds : Nat → Round) (w : World) :
    Nat → World × Bool
  | 0 => (w, false)
  | n + 1 =>
    if (run step rounds w n).2 then run step rounds w n
    else step (run step rounds w n).1 (rounds n)

/-- The loop ends, in a world that is as it should be. -/
def EndsIn (step : World → Round → World × Bool) (rounds : Nat → Round) (w : World)
    (good : World → Prop) : Prop :=
  ∃ n, (run step rounds w n).2 = true ∧ good (run step rounds w n).1

section

variable {step : World → Round → World × Bool} {rounds : Nat → Round} {w : World}

variable {n : Nat} {inv : World → Prop}

theorem run_succ_going (going : (run step rounds w n).2 = false) :
    run step rounds w (n + 1) = step (run step rounds w n).1 (rounds n) := by
  rw [run, going]
  rfl

theorem going_of_succ (going : (run step rounds w (n + 1)).2 = false) :
    (run step rounds w n).2 = false := by
  cases ended : (run step rounds w n).2 with
  | false => rfl
  | true =>
    rw [run, ended] at going
    simp only [if_true] at going
    rw [ended] at going
    cases going

theorem run_add (ended : (run step rounds w n).2 = true) (k : Nat) :
    run step rounds w (n + k) = run step rounds w n := by
  induction k with
  | zero => rfl
  | succ k ih =>
    rw [← Nat.add_assoc, run, ih, ended]
    rfl

theorem run_unique {m : Nat} (first : (run step rounds w n).2 = true)
    (second : (run step rounds w m).2 = true) : run step rounds w n = run step rounds w m := by
  rcases Nat.le_total n m with le | le
  · obtain ⟨k, rfl⟩ := Nat.exists_eq_add_of_le le
    exact (run_add first k).symm
  · obtain ⟨k, rfl⟩ := Nat.exists_eq_add_of_le le
    exact run_add second k

theorem last_round (ended : (run step rounds w n).2 = true) : ∃ m, (run step rounds w m).2 = false ∧
      (step (run step rounds w m).1 (rounds m)).2 = true := by
  induction n with
  | zero => cases ended
  | succ n ih =>
    cases going : (run step rounds w n).2 with
    | true => exact ih going
    | false =>
      refine ⟨n, going, ?_⟩
      rw [← run_succ_going going]
      exact ended

section

variable (kept : ∀ w r, inv w → inv (step w r).1)
include kept

theorem invariant (start : inv w) (n : Nat) : inv (run step rounds w n).1 := by
  induction n with
  | zero => exact start
  | succ n ih =>
    cases going : (run step rounds w n).2 with
    | true =>
      rw [run, going]
      exact ih
    | false =>
      rw [run_succ_going going]
      exact kept _ _ ih

theorem never_ends (goes : ∀ w r, inv w → (step w r).2 = false) (start : inv w) (n : Nat) :
    (run step rounds w n).2 = false := by
  induction n with
  | zero => rfl
  | succ n ih =>
    rw [run_succ_going ih]
    exact goes _ _ (invariant kept start n)

/-- A loop ends with the first round that meets what ends it. -/
theorem ends_of_round (ends : ∀ w, inv w → (step w (rounds n)).2 = true) (start : inv w) :
    ∃ m, (run step rounds w m).2 = true := by
  cases going : (run step rounds w n).2 with
  | true => exact ⟨n, going⟩
  | false =>
    refine ⟨n + 1, ?_⟩
    rw [run_succ_going going]
    exact ends _ (invariant kept start n)

end

/-- Where the loop ends it is good exactly if its last round leaves it so. -/
theorem endsIn_iff {good : World → Prop} (going : (run step rounds w n).2 = false)
    (ends : (step (run step rounds w n).1 (rounds n)).2 = true) :
    EndsIn step rounds w good ↔ good (step (run step rounds w n).1 (rounds n)).1 := by
  rw [← run_succ_going going] at ends ⊢
  constructor
  · rintro ⟨m, ended, isGood⟩
    rwa [run_unique ends ended]
  · exact fun isGood => ⟨n + 1, ends, isGood⟩

end

end Retry
