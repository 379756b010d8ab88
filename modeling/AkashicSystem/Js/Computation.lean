/-!
# Computations that throw

A method body over mutable state: what it throws keeps the state it has reached.
The lemmas run one on a state.
-/

set_option autoImplicit false

namespace AkashicSystem.Js

theorem bind_eq_ok {ε α β : Type} {x : Except ε α} {f : α → Except ε β} {r : β} :
    (x >>= f) = .ok r ↔ ∃ a, x = .ok a ∧ f a = .ok r := by
  cases x with
  | error e => exact ⟨fun h => (nomatch h), fun ⟨a, h, _⟩ => (nomatch h)⟩
  | ok a => exact ⟨fun h => ⟨a, rfl, h⟩, fun ⟨b, h, g⟩ => by cases h; exact g⟩

abbrev Computation (ε σ α : Type) := EStateM ε σ α

namespace Computation

variable {ε σ α β : Type}

@[simp] theorem bind_run (m : Computation ε σ α) (f : α → Computation ε σ β) (s : σ) :
    (m >>= f) s =
      match m s with
      | .ok a s' => f a s'
      | .error err s' => .error err s' := by
  change EStateM.bind m f s = _
  rw [EStateM.bind]
  cases m s <;> rfl

@[simp] theorem pure_run (a : α) (s : σ) : (pure a : Computation ε σ α) s = .ok a s := rfl

@[simp] theorem get_run (s : σ) : (get : Computation ε σ σ) s = .ok s s := rfl

@[simp] theorem modify_run (f : σ → σ) (s : σ) :
    (modify f : Computation ε σ PUnit) s = .ok () (f s) := rfl

@[simp] theorem throw_run (err : ε) (s : σ) :
    (throw err : Computation ε σ α) s = .error err s := rfl

theorem tryCatch_run (m : Computation ε σ α) (handler : ε → Computation ε σ α) (s : σ) :
    (tryCatch m handler : Computation ε σ α) s =
      match m s with
      | .ok a s' => .ok a s'
      | .error err s' => handler err s' := by
  change EStateM.tryCatch m handler s = _
  delta EStateM.tryCatch
  cases m s <;> rfl

theorem bind_eq_ok {m : Computation ε σ α} {f : α → Computation ε σ β} {s s' : σ} {b : β} :
    (m >>= f) s = .ok b s' ↔ ∃ a s₁, m s = .ok a s₁ ∧ f a s₁ = .ok b s' := by
  rw [bind_run]
  cases run : m s with
  | ok a s₁ =>
    constructor
    · intro rest
      exact ⟨a, s₁, rfl, rest⟩
    · rintro ⟨a', s', eq, rest⟩
      cases eq
      exact rest
  | error err s₁ =>
    constructor
    · intro rest
      cases rest
    · rintro ⟨a', s', eq, rest⟩
      cases eq

def stateOf : EStateM.Result ε σ α → σ
  | .ok _ s => s
  | .error _ s => s

@[simp] theorem stateOf_ok (a : α) (s : σ) :
    stateOf (.ok a s : EStateM.Result ε σ α) = s := rfl

@[simp] theorem stateOf_error (err : ε) (s : σ) :
    stateOf (.error err s : EStateM.Result ε σ α) = s := rfl

/-- `.catch((_e) => undefined)`. -/
def ignoring (m : Computation ε σ Unit) : Computation ε σ Unit :=
  tryCatch m fun _ => pure ()

theorem ignoring_run (m : Computation ε σ Unit) (s : σ) :
    ignoring m s = .ok () (stateOf (m s)) := by
  rw [ignoring, tryCatch_run]
  cases m s <;> rfl

def Preserves (inv : σ → Prop) (m : Computation ε σ α) : Prop :=
  ∀ s, inv s → inv (stateOf (m s))

section Preserving

variable {inv : σ → Prop}

theorem preserves_bind {m : Computation ε σ α} {f : α → Computation ε σ β}
    (first : Preserves inv m) (second : ∀ a, Preserves inv (f a)) : Preserves inv (m >>= f) := by
  intro s before
  have middle := first s before
  rw [bind_run]
  cases run : m s with
  | ok a s' =>
    rw [run] at middle
    exact second a s' middle
  | error err s' =>
    rw [run] at middle
    exact middle

theorem preserves_pure (a : α) : Preserves inv (pure a : Computation ε σ α) :=
  fun _ before => before

theorem preserves_get : Preserves inv (get : Computation ε σ σ) := fun _ before => before

theorem preserves_throw (err : ε) : Preserves inv (throw err : Computation ε σ α) :=
  fun _ before => before

theorem preserves_modify {f : σ → σ} (kept : ∀ s, inv s → inv (f s)) :
    Preserves inv (modify f : Computation ε σ PUnit) := fun s before => kept s before

end Preserving

end Computation
end AkashicSystem.Js
