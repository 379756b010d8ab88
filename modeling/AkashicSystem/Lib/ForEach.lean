/-!
# Loops over callbacks that may throw

`forEach` hands the items to a callback in order; the first callback that throws
ends the loop, and what was done until then stays done.
-/

set_option autoImplicit false

namespace ForEach

open List

variable {State Item Output : Type}

def forEach (f : State → Item → State × Bool) : State → List Item → State × Bool
  | s, [] => (s, true)
  | s, item :: rest => if (f s item).2 = true then forEach f (f s item).1 rest else f s item

def outputs (g : Item → Option Output) : List Item → List Output × Bool
  | [] => ([], true)
  | item :: rest =>
    match g item with
    | none => ([], false)
    | some output => (output :: (outputs g rest).1, (outputs g rest).2)

section Loops

variable {f : State → Item → State × Bool}

theorem forEach_nil (s : State) : forEach f s [] = (s, true) := rfl

theorem forEach_cons_of_throws (s : State) (item : Item) (rest : List Item)
    (throws : (f s item).2 = false) : forEach f s (item :: rest) = f s item := by
  rw [forEach, throws]
  exact if_neg Bool.false_ne_true

theorem forEach_cons_of_returns (s : State) (item : Item) (rest : List Item)
    (returns : (f s item).2 = true) : forEach f s (item :: rest) = forEach f (f s item).1 rest := by
  rw [forEach, if_pos returns]

/-- What every callback keeps, whether it throws or not, the loop keeps. -/
theorem forEach_keeps {inv : State → Prop} (kept : ∀ s item, inv s → inv (f s item).1) (s : State)
    (items : List Item) (start : inv s) : inv (forEach f s items).1 := by
  induction items generalizing s with
  | nil => exact start
  | cons item rest ih =>
    have first := kept s item start
    cases returns : (f s item).2 with
    | false =>
      rw [forEach_cons_of_throws s item rest returns]
      exact first
    | true =>
      rw [forEach_cons_of_returns s item rest returns]
      exact ih _ first

end Loops

section Outputs

variable {g : Item → Option Output}

theorem outputs_nil : outputs g [] = ([], true) := rfl

theorem outputs_cons_of_none (item : Item) (rest : List Item) (none : g item = none) :
    outputs g (item :: rest) = ([], false) := by
  rw [outputs, none]

theorem outputs_cons_of_some (item : Item) (rest : List Item) (output : Output)
    (some : g item = some output) :
    outputs g (item :: rest) = (output :: (outputs g rest).1, (outputs g rest).2) := by
  rw [outputs, some]

section

variable (items : List Item)
include items

theorem outputs_length_le : (outputs g items).1.length ≤ items.length := by
  induction items with
  | nil => exact Nat.le_refl _
  | cons item rest ih =>
    cases found : g item with
    | none =>
      rw [outputs_cons_of_none item rest found]
      exact Nat.zero_le _
    | some output =>
      rw [outputs_cons_of_some item rest output found, length_cons, length_cons]
      omega

theorem outputs_length_of_all (all : (outputs g items).2 = true) :
    (outputs g items).1.length = items.length := by
  induction items with
  | nil => rfl
  | cons item rest ih =>
    cases found : g item with
    | none =>
      rw [outputs_cons_of_none item rest found] at all
      cases all
    | some output =>
      rw [outputs_cons_of_some item rest output found] at all ⊢
      rw [length_cons, length_cons, ih all]

theorem outputs_concat_length_le (item : Item) (none : g item = none) :
    (outputs g (items ++ [item])).1.length ≤ items.length := by
  induction items with
  | nil =>
    rw [nil_append, outputs_cons_of_none item [] none]
    exact Nat.le_refl _
  | cons first rest ih =>
    rw [cons_append]
    cases found : g first with
    | none =>
      rw [outputs_cons_of_none first _ found]
      exact Nat.zero_le _
    | some output =>
      rw [outputs_cons_of_some first _ output found, length_cons, length_cons]
      omega

theorem outputs_concat (item : Item) (output : Output)
    (all : (outputs g items).2 = true) (some : g item = some output) :
    outputs g (items ++ [item]) = ((outputs g items).1 ++ [output], true) := by
  induction items with
  | nil =>
    rw [nil_append, outputs_cons_of_some item [] output some, outputs_nil]
    rfl
  | cons first rest ih =>
    rw [cons_append]
    cases found : g first with
    | none =>
      rw [outputs_cons_of_none first _ found] at all
      cases all
    | some output' =>
      rw [outputs_cons_of_some first _ output' found] at all
      rw [outputs_cons_of_some first _ output' found,
        outputs_cons_of_some first _ output' found, ih all]
      rfl

end

end Outputs

end ForEach
