import Mathlib.Tactic.SplitIfs

/-!
# Parts joined with a separator

A separator that occurs in the parts divides them further: what is joined determines the
segments between the separators, and with the number of segments of each part the parts.
-/

set_option autoImplicit false

namespace Joined

open List

variable {α : Type} [DecidableEq α] (sep : α)

variable (parts : List (List α))

def segments : List (List α) := parts.flatMap fun part => part.splitOn sep

def counts : List Nat := parts.map fun part => (part.splitOn sep).length

theorem separator_notMem (part segment : List α) (there : segment ∈ part.splitOn sep) :
    sep ∉ segment := by
  induction part generalizing segment with
  | nil =>
    rw [splitOn_nil] at there
    rw [mem_singleton.mp there]
    exact not_mem_nil
  | cons a rest ih =>
    rw [splitOn_cons_eq_if_modifyHead] at there
    split_ifs at there with same
    · rcases mem_cons.mp there with rfl | later
      · exact not_mem_nil
      · exact ih segment later
    · cases segments : rest.splitOn sep with
      | nil => exact absurd segments (splitOn_ne_nil sep rest)
      | cons head tail =>
        rw [segments] at there ih
        rcases mem_cons.mp there with rfl | later
        · intro within
          rcases mem_cons.mp within with rfl | deeper
          · exact same (beq_self_eq_true _)
          · exact ih head mem_cons_self deeper
        · exact ih segment (mem_cons_of_mem _ later)

theorem splitOn_intercalate_eq (nonempty : parts ≠ []) :
    ([sep].intercalate parts).splitOn sep = segments sep parts := by
  induction parts with
  | nil => exact absurd rfl nonempty
  | cons part rest ih =>
    cases rest with
    | nil => simp [segments]
    | cons next rest =>
      have tail := ih (cons_ne_nil next rest)
      have head : [sep].intercalate (part :: next :: rest) =
          part ++ sep :: [sep].intercalate (next :: rest) := by
        rw [intercalate_cons_cons]
        simp
      rw [head, splitOn_append_cons_self, tail]
      simp [segments]

theorem intercalate_eq_iff (parts parts' : List (List α)) (nonempty : parts ≠ [])
    (nonempty' : parts' ≠ []) : [sep].intercalate parts = [sep].intercalate parts' ↔
      segments sep parts = segments sep parts' := by
  rw [← splitOn_intercalate_eq sep parts nonempty, ← splitOn_intercalate_eq sep parts' nonempty']
  constructor
  · intro same
    rw [same]
  · intro same
    have back := congrArg [sep].intercalate same
    rw [intercalate_splitOn, intercalate_splitOn] at back
    exact back

theorem eq_of_segments (parts parts' : List (List α))
    (same : segments sep parts = segments sep parts')
    (number : counts sep parts = counts sep parts') : parts = parts' := by
  induction parts generalizing parts' with
  | nil =>
    cases parts' with
    | nil => rfl
    | cons part rest => cases number
  | cons part rest ih =>
    cases parts' with
    | nil => cases number
    | cons part' rest' =>
      obtain ⟨first, others⟩ := List.cons.inj number
      have divided : part.splitOn sep ++ segments sep rest =
          part'.splitOn sep ++ segments sep rest' := same
      obtain ⟨head, tail⟩ := append_inj divided first
      have itself := congrArg [sep].intercalate head
      rw [intercalate_splitOn, intercalate_splitOn] at itself
      rw [itself, ih rest' tail others]

end Joined
