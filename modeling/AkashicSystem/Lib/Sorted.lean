import Mathlib.Data.List.Sort

/-!
# Sorted lists

What a sorted list shows of an element when it is cut off, and which element an
insertion sort puts first.
-/

set_option autoImplicit false

namespace Sorted

open List

variable {α : Type} {r : α → α → Prop}

theorem mem_take_or (l : List α) (n : Nat) (sorted : l.Pairwise r) (x : α) (there : x ∈ l) :
    x ∈ l.take n ∨ (l.take n).length = n ∧ ∀ y ∈ l.take n, r y x := by
  by_cases early : x ∈ l.take n
  · exact .inl early
  · right
    have late : x ∈ l.drop n := by
      rw [← take_append_drop n l] at there
      exact (mem_append.mp there).resolve_left early
    constructor
    · rw [length_take]
      have long : 0 < (l.drop n).length := length_pos_of_mem late
      rw [length_drop] at long
      omega
    · intro y before
      rw [← take_append_drop n l, pairwise_append] at sorted
      exact sorted.2.2 y before x late

/-- With distinct keys, `take` keeps the elements that fewer are before. -/
theorem mem_take_iff (key : α → Int) (l : List α) (n : Nat)
    (sorted : l.Pairwise fun a b => key a < key b) (x : α) :
    x ∈ l.take n ↔ x ∈ l ∧ l.countP (fun a => key a < key x) < n := by
  induction l generalizing n with
  | nil => simp
  | cons first rest ih =>
    obtain ⟨least, sorted⟩ := pairwise_cons.mp sorted
    cases n with
    | zero => simp
    | succ n =>
      rw [take_succ_cons, mem_cons, mem_cons, countP_cons]
      by_cases here : x = first
      · subst here
        have none : rest.countP (fun a => key a < key x) = 0 :=
          countP_eq_zero.mpr fun a there => by simpa using le_of_lt (least a there)
        simp [none]
      · rw [ih n sorted]
        constructor
        · rintro (absurd | ⟨there, few⟩)
          · exact (here absurd).elim
          · refine ⟨.inr there, ?_⟩
            rw [if_pos (decide_eq_true (least x there))]
            omega
        · rintro ⟨absurd | there, few⟩
          · exact (here absurd).elim
          · rw [if_pos (decide_eq_true (least x there))] at few
            exact .inr ⟨there, by omega⟩

theorem find?_first (l : List α) (sorted : l.Pairwise r) (kind : α → Bool) (first x : α)
    (found : l.find? kind = some first) (there : x ∈ l) (same : kind x = true) :
    x = first ∨ r first x := by
  obtain ⟨_, front, back, rfl, none⟩ := List.find?_eq_some_iff_append.mp found
  rw [pairwise_append] at sorted
  rcases mem_append.mp there with before | after
  · have not := none x before
    rw [same] at not
    cases not
  · rcases mem_cons.mp after with eq | after
    · exact .inl eq
    · exact .inr (rel_of_pairwise_cons sorted.2.1 after)

variable [DecidableRel r] (total : ∀ a b, r a b ∨ r b a)
  (trans : ∀ a b c, r a b → r b c → r a c)

include total trans

theorem pairwise_insertionSort (l : List α) : (l.insertionSort r).Pairwise r := by
  have : Std.Total r := ⟨total⟩
  have : IsTrans α r := ⟨trans⟩
  exact List.pairwise_insertionSort r l

theorem head_insertionSort (l : List α) (x : α) (there : x ∈ l) :
    ∃ first, (l.insertionSort r).head? = some first ∧ first ∈ l ∧ (first = x ∨ r first x) := by
  have sorted := pairwise_insertionSort total trans l
  have mem : x ∈ l.insertionSort r := (mem_insertionSort r).mpr there
  cases eq : l.insertionSort r with
  | nil =>
    rw [eq] at mem
    exact (not_mem_nil mem).elim
  | cons first rest =>
    rw [eq] at mem sorted
    have here : first ∈ l := by
      rw [← mem_insertionSort r, eq]
      exact mem_cons_self
    refine ⟨first, rfl, here, ?_⟩
    rcases mem_cons.mp mem with rfl | later
    · exact .inl rfl
    · exact .inr (rel_of_pairwise_cons sorted later)

/-- Lists of the same elements, no two of which are tied, are sorted into the same list. -/
theorem insertionSort_perm (l l' : List α) (perm : l.Perm l')
    (untied : ∀ a ∈ l, ∀ b ∈ l, r a b → r b a → a = b) :
    l.insertionSort r = l'.insertionSort r := by
  have left := perm_insertionSort r l
  have right := perm_insertionSort r l'
  refine Perm.eq_of_pairwise ?_ (pairwise_insertionSort total trans l)
    (pairwise_insertionSort total trans l') (left.trans (perm.trans right.symm))
  intro a b there there' le le'
  exact untied a (left.mem_iff.mp there) b (perm.mem_iff.mpr (right.mem_iff.mp there')) le le'

omit total trans in
theorem find?_head_insertionSort (key : α → Int) (l : List α) (first : α)
    (head : (l.insertionSort fun a b => key b ≤ key a).head? = some first) :
    l.find? (fun a => key a = key first) = some first := by
  induction l generalizing first with
  | nil => cases head
  | cons a rest ih =>
    rw [insertionSort_cons] at head
    cases sorted : rest.insertionSort fun a b => key b ≤ key a with
    | nil =>
      rw [sorted] at head
      cases head
      simp
    | cons b others =>
      rw [sorted, orderedInsert] at head
      split at head
      · cases head
        simp
      · next less =>
        obtain rfl : b = first := Option.some.inj head
        have different : key a ≠ key b := fun eq => less (le_of_eq eq.symm)
        rw [List.find?_cons_of_neg (by simpa using different)]
        exact ih b (by rw [sorted]; rfl)

end Sorted
