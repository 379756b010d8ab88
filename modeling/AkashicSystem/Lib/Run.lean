/-!
# Runs of a deterministic system

A system is a step function on states; which steps may be taken where is a
predicate of its own.  What every allowed step preserves, a run preserves.
-/

set_option autoImplicit false

namespace Run

open List

variable {State Action : Type}

def final (step : State → Action → State) (s : State) (actions : List Action) : State :=
  actions.foldl step s

/-- Every action is allowed in the state it is taken in. -/
def Allowed (step : State → Action → State) (allowed : State → Action → Prop) :
    State → List Action → Prop
  | _, [] => True
  | s, action :: rest => allowed s action ∧ Allowed step allowed (step s action) rest

section Invariants

variable {step : State → Action → State} {allowed : State → Action → Prop}

theorem final_nil (s : State) : final step s [] = s := rfl

theorem final_cons (s : State) (action : Action) (rest : List Action) :
    final step s (action :: rest) = final step (step s action) rest := rfl

theorem final_append (s : State) (front back : List Action) :
    final step s (front ++ back) = final step (final step s front) back := foldl_append

variable {inv good : State → Prop} {allowed' : State → Action → Prop}

theorem invariant (preserved : ∀ s action, inv s → allowed s action → inv (step s action))
    (s : State) (actions : List Action) (start : inv s) (run : Allowed step allowed s actions) :
    inv (final step s actions) := by
  induction actions generalizing s with
  | nil => exact start
  | cons action rest ih =>
    obtain ⟨now, later⟩ := run
    rw [final_cons]
    exact ih (step s action) (preserved s action start now) later

theorem stable (preserved : ∀ s action, inv s → inv (step s action)) (s : State)
    (actions : List Action) (start : inv s) : inv (final step s actions) := by
  induction actions generalizing s with
  | nil => exact start
  | cons action rest ih => exact ih (step s action) (preserved s action start)

variable (s : State)

theorem allowed_append (front back : List Action) :
    Allowed step allowed s (front ++ back) ↔
      Allowed step allowed s front ∧ Allowed step allowed (final step s front) back := by
  induction front generalizing s with
  | nil => simp [Allowed, final_nil]
  | cons action rest ih => simp [Allowed, final_cons, ih, and_assoc]

variable (actions : List Action)

/-- A run is allowed if each of its actions is, after those before it. -/
theorem allowed_of_prefix
    (each : ∀ front action, front ++ [action] <+: actions → allowed (final step s front) action) :
    Allowed step allowed s actions := by
  induction actions generalizing s with
  | nil => trivial
  | cons action rest ih =>
    refine ⟨each [] action (cons_prefix_cons.mpr ⟨rfl, nil_prefix⟩), ?_⟩
    apply ih
    intro front action' before
    exact each (action :: front) action' (cons_prefix_cons.mpr ⟨rfl, before⟩)

theorem allowed_iff_prefix : Allowed step allowed s actions ↔
      ∀ front action, front ++ [action] <+: actions → allowed (final step s front) action := by
  refine ⟨?_, allowed_of_prefix s actions⟩
  rintro run front action ⟨back, rfl⟩
  obtain ⟨upTo, -⟩ := (allowed_append s (front ++ [action]) back).mp run
  exact ((allowed_append s front [action]).mp upTo).2.1

/-- A weaker permission, for the actions of the run, allows it too. -/
theorem Allowed.mono_of_mem
    (weaker : ∀ s, ∀ action ∈ actions, allowed s action → allowed' s action)
    (run : Allowed step allowed s actions) : Allowed step allowed' s actions := by
  induction actions generalizing s with
  | nil => trivial
  | cons action rest ih =>
    obtain ⟨now, later⟩ := run
    refine ⟨weaker s action mem_cons_self now, ih (step s action) ?_ later⟩
    exact fun s action there => weaker s action (mem_cons_of_mem _ there)

section

variable (preserved : ∀ s action, inv s → allowed s action → inv (step s action))
include preserved

theorem Allowed.of_invariant (shows : ∀ s action, inv s → allowed s action → allowed' s action)
    (s : State)
    (actions : List Action) (start : inv s) (run : Allowed step allowed s actions) :
    Allowed step allowed' s actions := by
  induction actions generalizing s with
  | nil => trivial
  | cons action rest ih =>
    obtain ⟨now, later⟩ := run
    exact ⟨shows s action start now, ih (step s action) (preserved s action start now) later⟩

theorem allowed_iff_of_invariant
    (exactly : ∀ s action, inv s → (allowed s action ↔ allowed' s action)) (s : State)
    (actions : List Action) (start : inv s) :
    Allowed step allowed s actions ↔ Allowed step allowed' s actions := by
  constructor
  · exact Allowed.of_invariant preserved (fun s action before => (exactly s action before).mp)
      s actions start
  · refine Allowed.of_invariant (fun s action before now => ?_)
      (fun s action before => (exactly s action before).mpr) s actions start
    exact preserved s action before ((exactly s action before).mpr now)

end

theorem Allowed.of_forall
    (all : ∀ s, ∀ action ∈ actions, allowed s action) : Allowed step allowed s actions := by
  induction actions generalizing s with
  | nil => trivial
  | cons action rest ih =>
    refine ⟨all s action mem_cons_self, ih (step s action) ?_⟩
    exact fun s action there => all s action (mem_cons_of_mem _ there)

/-- What no step lessens is the same after a run exactly if no step of it adds anything. -/
theorem allowed_iff_unchanged {measure : State → Nat}
    (grows : ∀ s action, measure s ≤ measure (step s action))
    (unchanged : ∀ s action, allowed s action ↔ measure (step s action) = measure s)
    (s : State) (actions : List Action) :
    Allowed step allowed s actions ↔ measure (final step s actions) = measure s := by
  have later (s : State) (actions : List Action) :
      measure s ≤ measure (final step s actions) := by
    induction actions generalizing s with
    | nil => exact Nat.le_refl _
    | cons action rest ih => exact Nat.le_trans (grows s action) (ih (step s action))
  induction actions generalizing s with
  | nil => exact ⟨fun _ => rfl, fun _ => trivial⟩
  | cons action rest ih =>
    have first := grows s action
    have rest' := later (step s action) rest
    rw [final_cons]
    constructor
    · rintro ⟨now, run⟩
      have same := (unchanged s action).mp now
      have same' := (ih (step s action)).mp run
      omega
    · intro same
      refine ⟨(unchanged s action).mpr ?_, (ih (step s action)).mpr ?_⟩ <;> omega

/-- Where a given step from a good state ends in a good one exactly if it is allowed, all the
states of a given run are good exactly if the run is allowed. -/
theorem allowed_iff_always_given {given : State → Action → Prop}
    (preserved : ∀ s action, inv s → given s action → inv (step s action))
    (exactly : ∀ s action, inv s → good s → given s action →
      (good (step s action) ↔ allowed s action))
    (s : State) (actions : List Action) (begins : inv s) (initially : good s)
    (run : Allowed step given s actions) :
    Allowed step allowed s actions ↔ ∀ front, front <+: actions → good (final step s front) := by
  induction actions generalizing s with
  | nil =>
    refine ⟨fun _ front before => ?_, fun _ => trivial⟩
    rw [prefix_nil.mp before]
    exact initially
  | cons action rest ih =>
    obtain ⟨givenNow, givenLater⟩ := run
    have kept := preserved s action begins givenNow
    constructor
    · rintro ⟨now, later⟩ front before
      have now' := (exactly s action begins initially givenNow).mpr now
      cases front with
      | nil => exact initially
      | cons first front =>
        obtain ⟨rfl, inRest⟩ := cons_prefix_cons.mp before
        exact (ih _ kept now' givenLater).mp later front inRest
    · intro always
      have first : good (final step s [action]) := always [action] ⟨rest, rfl⟩
      refine ⟨(exactly s action begins initially givenNow).mp first, ?_⟩
      apply (ih _ kept first givenLater).mpr
      intro front before
      exact always (action :: front) (cons_prefix_cons.mpr ⟨rfl, before⟩)

/-- Where a step from a good state ends in a good one exactly if it is allowed, all the
states of a run are good exactly if the run is allowed. -/
theorem allowed_iff_always (preserved : ∀ s action, inv s → inv (step s action))
    (exactly : ∀ s action, inv s → good s → (good (step s action) ↔ allowed s action)) (s : State)
    (actions : List Action) (begins : inv s) (initially : good s) :
    Allowed step allowed s actions ↔ ∀ front, front <+: actions → good (final step s front) := by
  have free : Allowed step (fun _ _ => True) s actions :=
    Allowed.of_forall s actions fun _ _ _ => trivial
  refine allowed_iff_always_given ?_ ?_ s actions begins initially free
  · exact fun s action before _ => preserved s action before
  · exact fun s action before good _ => exactly s action before good

/-- Where the allowed steps keep an invariant, which makes a state good, and no other step from
it ends in a good state, all the states of a run are good exactly if the run is allowed. -/
theorem allowed_iff_always_of_invariant
    (kept : ∀ s action, inv s → allowed s action → inv (step s action))
    (shows : ∀ s, inv s → good s)
    (needed : ∀ s action, inv s → good (step s action) → allowed s action) (s : State)
    (actions : List Action) (begins : inv s) :
    Allowed step allowed s actions ↔ ∀ front, front <+: actions → good (final step s front) := by
  constructor
  · rintro run front ⟨back, rfl⟩
    exact shows _ (invariant kept s front begins ((allowed_append s front back).mp run).1)
  · intro always
    induction actions generalizing s with
    | nil => trivial
    | cons action rest ih =>
      have now : allowed s action := needed s action begins (always [action] ⟨rest, rfl⟩)
      refine ⟨now, ih (step s action) (kept s action begins now) ?_⟩
      intro front before
      exact always (action :: front) (cons_prefix_cons.mpr ⟨rfl, before⟩)

/-- Where a given step ends in a good state exactly if it is allowed in a good one, a given run
ends in one exactly if it is allowed. -/
theorem final_iff_allowed_given {given : State → Action → Prop}
    (preserved : ∀ s action, inv s → given s action → inv (step s action))
    (exactly : ∀ s action, inv s → given s action →
      (good (step s action) ↔ good s ∧ allowed s action))
    (s : State) (actions : List Action) (begins : inv s) (run : Allowed step given s actions) :
    good (final step s actions) ↔ good s ∧ Allowed step allowed s actions := by
  induction actions generalizing s with
  | nil => exact ⟨fun ends => ⟨ends, trivial⟩, And.left⟩
  | cons action rest ih =>
    obtain ⟨givenNow, givenLater⟩ := run
    have kept := preserved s action begins givenNow
    rw [final_cons, ih (step s action) kept givenLater, exactly s action begins givenNow,
      and_assoc]
    exact Iff.rfl

instance decidableAllowed (step : State → Action → State) (allowed : State → Action → Prop)
    [∀ s action, Decidable (allowed s action)] :
    ∀ (s : State) (actions : List Action), Decidable (Allowed step allowed s actions)
  | _, [] => isTrue trivial
  | s, action :: rest =>
    have := decidableAllowed step allowed (step s action) rest
    inferInstanceAs (Decidable (allowed s action ∧ Allowed step allowed (step s action) rest))

end Invariants

end Run
