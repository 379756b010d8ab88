import Mathlib.Order.Lattice.Nat
import AkashicSystem.Amtp.Channel

/-!
# Elections

The ids of a table are sorted as texts, so the elected one is the least of those that are Open in
the order of their texts.
-/

set_option autoImplicit false

namespace AkashicSystem.Amtp

open AkashicSystem.Js

variable {α : Type} (readyState : α → ReadyState) (targets : ObjectTable α)

def openIds : Set Nat :=
  {id | ∃ ref, targets.get? id = some ref ∧ readyState (targets.objs ref) = .open}

theorem keyOrder_antisymm {a b : Nat} (le : keyOrder a b) (ge : keyOrder b a) : a = b := by
  have same := congrArg (fun text => Nat.ofDigitChars 10 text.toList 0) (le_antisymm le ge)
  simpa using same

/-- What `find?` finds in a sorted list comes before whatever else it could have found. -/
theorem rel_of_find? {r : Nat → Nat → Prop} {p : Nat → Bool} {ids : List Nat} {id id' : Nat}
    (sorted : ids.Pairwise r) (refl : r id id) (found : ids.find? p = some id) (there : id' ∈ ids)
    (also : p id' = true) : r id id' := by
  induction ids with
  | nil => cases there
  | cons first rest ih =>
    obtain ⟨before, sorted⟩ := List.pairwise_cons.mp sorted
    rw [List.find?_cons] at found
    split at found
    · cases found
      rcases List.mem_cons.mp there with rfl | later
      · exact refl
      · exact before id' later
    · next not =>
      rcases List.mem_cons.mp there with rfl | later
      · cases also.symm.trans not
      · exact ih sorted found later

theorem keyOrder_of_elected {id id' : Nat}
    (elected : detectOpenStatusMinimumId readyState targets = some id)
    (isOpen : id' ∈ openIds readyState targets) : keyOrder id id' := by
  obtain ⟨ref, there, isOpen⟩ := isOpen
  have : Std.Total keyOrder := ⟨fun a b => le_total (Nat.repr a) (Nat.repr b)⟩
  have : IsTrans Nat keyOrder := ⟨fun _ _ _ => le_trans⟩
  refine rel_of_find? (List.pairwise_insertionSort keyOrder targets.ids) (le_refl (Nat.repr id))
    elected ?_ ?_
  · exact (List.mem_insertionSort keyOrder).mpr (targets.mem_ids_of_get? id' ref there)
  · rw [there]
    exact decide_eq_true isOpen

theorem detectOpenStatusMinimumId_eq_none_iff :
    detectOpenStatusMinimumId readyState targets = none ↔ openIds readyState targets = ∅ := by
  constructor
  · intro none_
    refine Set.eq_empty_iff_forall_notMem.mpr fun id isOpen => ?_
    obtain ⟨ref, there, isOpen⟩ := isOpen
    exact detectOpenStatusMinimumId_none readyState targets none_ id ref there isOpen
  · intro empty
    cases elected : detectOpenStatusMinimumId readyState targets with
    | none => rfl
    | some id =>
      have isOpen : id ∈ openIds readyState targets :=
        detectOpenStatusMinimumId_some readyState targets id elected
      rw [empty] at isOpen
      cases isOpen

/-- The least of the Open ids is elected, exactly if its text comes before those of the others. -/
theorem elected_iff_isLeast_iff :
    ((∀ id, detectOpenStatusMinimumId readyState targets = some id ↔
        IsLeast (openIds readyState targets) id) ∧
      (detectOpenStatusMinimumId readyState targets = none ↔ openIds readyState targets = ∅)) ↔
    ∀ id, IsLeast (openIds readyState targets) id →
      ∀ id' ∈ openIds readyState targets, keyOrder id id' := by
  constructor
  · intro elects id least id' isOpen
    exact keyOrder_of_elected readyState targets ((elects.1 id).mpr least) isOpen
  · intro first
    refine ⟨fun id => ?_, detectOpenStatusMinimumId_eq_none_iff readyState targets⟩
    have same (elected : Nat) (is : detectOpenStatusMinimumId readyState targets = some elected)
        (least : Nat) (isLeast : IsLeast (openIds readyState targets) least) : elected = least :=
      keyOrder_antisymm (keyOrder_of_elected readyState targets is isLeast.1)
        (first least isLeast elected (detectOpenStatusMinimumId_some readyState targets _ is))
    constructor
    · intro is
      have isOpen : id ∈ openIds readyState targets :=
        detectOpenStatusMinimumId_some readyState targets id is
      obtain ⟨least, isLeast⟩ : ∃ least, IsLeast (openIds readyState targets) least :=
        ⟨sInf (openIds readyState targets), Nat.sInf_mem ⟨id, isOpen⟩, fun _ => Nat.sInf_le⟩
      rw [same id is least isLeast]
      exact isLeast
    · intro isLeast
      cases is : detectOpenStatusMinimumId readyState targets with
      | none =>
        rw [detectOpenStatusMinimumId_eq_none_iff] at is
        have isOpen := isLeast.1
        rw [is] at isOpen
        cases isOpen
      | some elected => rw [same elected is id isLeast]

/-- A table of two Open entries. -/
def twoAndTen : ObjectTable Unit := (ObjectTable.empty.add 2 ()).add 10 ()

theorem twoAndTen_elected : ¬ ((∀ id, detectOpenStatusMinimumId (fun _ => .open) twoAndTen = some id ↔
      IsLeast (openIds (fun _ => .open) twoAndTen) id) ∧
    (detectOpenStatusMinimumId (fun _ => .open) twoAndTen = none ↔
      openIds (fun _ => .open) twoAndTen = ∅)) := by
  rintro ⟨elects, -⟩
  have ten : detectOpenStatusMinimumId (fun _ => .open) twoAndTen = some 10 := by decide
  have two : 2 ∈ openIds (fun _ => .open) twoAndTen := ⟨0, by decide, by decide⟩
  exact absurd (((elects 10).mp ten).2 two) (by decide)

end AkashicSystem.Amtp
