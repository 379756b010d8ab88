import Mathlib.Data.List.Nodup

/-!
# Lists of rows with distinct keys

A row is removed by its key: exactly one row goes, and every other key that is
distinct too would remove the same one.
-/

set_option autoImplicit false

namespace Keyed

open List

variable {α κ κ' : Type}

theorem nodup_map_filter (key : α → κ) (kept : α → Bool) (rows : List α)
    (nodup : (rows.map key).Nodup) : ((rows.filter kept).map key).Nodup :=
  nodup.sublist (filter_sublist.map key)

theorem eq_of_key (key : α → κ) (rows : List α) (nodup : (rows.map key).Nodup) (a b : α)
    (there : a ∈ rows) (there' : b ∈ rows) (same : key a = key b) : a = b :=
  inj_on_of_nodup_map nodup there there' same

theorem nodup_map_append (key : α → κ) (rows : List α) (a : α) (nodup : (rows.map key).Nodup)
    (absent : key a ∉ rows.map key) : ((rows ++ [a]).map key).Nodup := by
  rw [map_append, map_singleton]
  refine nodup_append'.mpr ⟨nodup, nodup_singleton _, ?_⟩
  exact disjoint_singleton.mpr absent

variable [DecidableEq κ] [DecidableEq κ']

omit [DecidableEq κ'] in
theorem perm_filter_key (key : α → κ) (rows : List α) (nodup : (rows.map key).Nodup) (a : α)
    (there : a ∈ rows) : rows.Perm (a :: rows.filter fun b => key b ≠ key a) := by
  induction rows with
  | nil => cases there
  | cons row rest ih =>
    rw [map_cons, nodup_cons] at nodup
    obtain ⟨absent, rest_nodup⟩ := nodup
    by_cases same : key row = key a
    · have others : ∀ b ∈ rest, decide (key b ≠ key a) = true := by
        intro b inRest
        rw [decide_eq_true_eq]
        intro eq
        exact absent (mem_map.mpr ⟨b, inRest, eq.trans same.symm⟩)
      have first : row = a := by
        rcases mem_cons.mp there with eq | inRest
        · exact eq.symm
        · exact absurd (mem_map.mpr ⟨a, inRest, same.symm⟩) absent
      rw [filter_cons_of_neg (by simp [same]), filter_eq_self.mpr others, first]
    · have inRest : a ∈ rest := by
        rcases mem_cons.mp there with rfl | inRest
        · exact absurd rfl same
        · exact inRest
      rw [filter_cons_of_pos (by simp [same])]
      exact ((ih rest_nodup inRest).cons row).trans (Perm.swap a row _)

omit [DecidableEq κ'] in
theorem length_filter_key (key : α → κ) (rows : List α) (nodup : (rows.map key).Nodup) (a : α)
    (there : a ∈ rows) : (rows.filter fun b => key b ≠ key a).length + 1 = rows.length :=
  (perm_filter_key key rows nodup a there).length_eq.symm

theorem filter_key_eq (key : α → κ) (key' : α → κ') (rows : List α)
    (nodup : (rows.map key).Nodup) (nodup' : (rows.map key').Nodup) (a : α) (there : a ∈ rows) :
    (rows.filter fun b => key b ≠ key a) = rows.filter fun b => key' b ≠ key' a := by
  refine filter_congr fun b there' => ?_
  rw [decide_eq_decide, not_iff_not]
  constructor
  · intro same
    rw [eq_of_key key rows nodup b a there' there same]
  · intro same
    rw [eq_of_key key' rows nodup' b a there' there same]

omit [DecidableEq κ'] in
theorem filter_key_of_absent (key : α → κ) (rows : List α) (k : κ) (absent : k ∉ rows.map key) :
    (rows.filter fun b => key b ≠ k) = rows := by
  refine filter_eq_self.mpr fun b there => ?_
  rw [decide_eq_true_eq]
  intro same
  exact absent (mem_map.mpr ⟨b, there, same⟩)

omit [DecidableEq κ'] in
theorem filter_eq_key (key : α → κ) (rows : List α) (nodup : (rows.map key).Nodup) (a : α)
    (there : a ∈ rows) : (rows.filter fun b => key b = key a) = [a] := by
  induction rows with
  | nil => cases there
  | cons b rest ih =>
    obtain ⟨absent, nodup⟩ := nodup_cons.mp nodup
    by_cases same : key b = key a
    · have itself : b = a := eq_of_key key (b :: rest) (nodup_cons.mpr ⟨absent, nodup⟩) b a
        mem_cons_self there same
      have others : (rest.filter fun b => key b = key a) = [] := by
        apply filter_eq_nil_iff.mpr
        intro c inRest again
        apply absent
        rw [same, ← of_decide_eq_true again]
        exact mem_map_of_mem inRest
      rw [filter_cons_of_pos (by simpa using same), others, itself]
    · have inRest : a ∈ rest := by
        rcases mem_cons.mp there with rfl | inRest
        · exact absurd rfl same
        · exact inRest
      rw [filter_cons_of_neg (by simpa using same)]
      exact ih nodup inRest

end Keyed
