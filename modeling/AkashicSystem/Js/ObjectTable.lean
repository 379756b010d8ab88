import Mathlib.Data.String.Basic
import Mathlib.Data.List.Sort

/-!
# Objects by reference

A JavaScript object that maps numeric ids to mutable objects.  The objects have
an identity of their own: one that is deleted from the table, or whose id is
assigned again, is still there for whoever holds a reference to it.
-/

set_option autoImplicit false

namespace AkashicSystem.Js

abbrev Ref := Nat

structure ObjectTable (α : Type) where
  objs : Ref → α
  next : Ref
  keys : List (Nat × Ref)

namespace ObjectTable

variable {α : Type}

def empty [Inhabited α] : ObjectTable α := ⟨fun _ => default, 0, []⟩

/-- `targets[id]`. -/
def get? (t : ObjectTable α) (id : Nat) : Option Ref := t.keys.lookup id

/-- `targets[id] = new ...`; the reference of the new object is `t.next`. -/
def add (t : ObjectTable α) (id : Nat) (object : α) : ObjectTable α :=
  ⟨Function.update t.objs t.next object, t.next + 1,
    (id, t.next) :: t.keys.filter fun key => key.1 != id⟩

def delete (t : ObjectTable α) (id : Nat) : ObjectTable α :=
  { t with keys := t.keys.filter fun key => key.1 != id }

def modify (t : ObjectTable α) (ref : Ref) (f : α → α) : ObjectTable α :=
  { t with objs := Function.update t.objs ref (f (t.objs ref)) }

def ids (t : ObjectTable α) : List Nat := t.keys.map Prod.fst

theorem lookup_filter_ne (keys : List (Nat × Ref)) (id id' : Nat) :
    (keys.filter fun key => key.1 != id).lookup id' =
      if id' = id then none else keys.lookup id' := by
  induction keys with
  | nil => simp
  | cons key keys ih =>
    obtain ⟨id₀, ref⟩ := key
    by_cases eq : id₀ = id
    · subst eq
      rw [List.filter_cons_of_neg (by simp), ih]
      by_cases same : id' = id₀
      · rw [if_pos same, if_pos same]
      · have other : (id' == id₀) = false := beq_eq_false_iff_ne.mpr same
        rw [if_neg same, if_neg same, List.lookup_cons, other]
    · rw [List.filter_cons_of_pos (by simpa using eq), List.lookup_cons, List.lookup_cons, ih]
      by_cases same : id' = id₀
      · subst same
        simp [eq]
      · have other : (id' == id₀) = false := beq_eq_false_iff_ne.mpr same
        rw [other]

section

variable (t : ObjectTable α)

include t

@[simp] theorem get?_add (id id' : Nat) (object : α) :
    (t.add id object).get? id' = if id' = id then some t.next else t.get? id' := by
  rw [get?, add, List.lookup_cons, lookup_filter_ne]
  by_cases same : id' = id
  · subst same
    simp
  · have other : (id' == id) = false := beq_eq_false_iff_ne.mpr same
    rw [other, if_neg same, if_neg same]
    rfl

variable (id : Nat)

@[simp] theorem objs_add_next (object : α) :
    (t.add id object).objs t.next = object := Function.update_self ..

theorem objs_add_of_lt (object : α) (ref : Ref)
    (made : ref < t.next) : (t.add id object).objs ref = t.objs ref :=
  Function.update_of_ne (Nat.ne_of_lt made) ..

@[simp] theorem get?_delete (id id' : Nat) :
    (t.delete id).get? id' = if id' = id then none else t.get? id' := lookup_filter_ne _ _ _

@[simp] theorem get?_modify (ref : Ref) (f : α → α) (id : Nat) :
    (t.modify ref f).get? id = t.get? id := rfl

@[simp] theorem objs_modify_self (ref : Ref) (f : α → α) :
    (t.modify ref f).objs ref = f (t.objs ref) := Function.update_self ..

theorem objs_modify_of_ne (ref ref' : Ref) (f : α → α) (ne : ref' ≠ ref) :
    (t.modify ref f).objs ref' = t.objs ref' := Function.update_of_ne ne ..

theorem objs_modify_cases (ref ref' : Ref) (f : α → α) :
    (ref' = ref ∧ (t.modify ref f).objs ref' = f (t.objs ref)) ∨
      (ref' ≠ ref ∧ (t.modify ref f).objs ref' = t.objs ref') := by
  by_cases same : ref' = ref
  · subst same
    exact .inl ⟨rfl, objs_modify_self ..⟩
  · exact .inr ⟨same, objs_modify_of_ne _ _ _ _ same⟩

theorem mem_ids_of_get? (ref : Ref) (there : t.get? id = some ref) :
    id ∈ t.ids := by
  obtain ⟨front, back, eq, -⟩ := List.lookup_eq_some_iff.mp there
  rw [ids, eq]
  simp

end

/-- Every entry is a made object under its own id, and every object that is live has
an entry. -/
structure Filed (t : ObjectTable α) (idOf : α → Option Nat) (live : α → Prop) : Prop where
  made : ∀ id ref, t.get? id = some ref → ref < t.next
  own : ∀ id ref, t.get? id = some ref → idOf (t.objs ref) = some id
  filed : ∀ ref < t.next, live (t.objs ref) →
    ∃ id, idOf (t.objs ref) = some id ∧ t.get? id = some ref

namespace Filed

variable {t : ObjectTable α} {idOf : α → Option Nat} {live : α → Prop}

theorem empty [Inhabited α] : (ObjectTable.empty : ObjectTable α).Filed idOf live :=
  ⟨nofun, nofun, nofun⟩

section

variable (filed : t.Filed idOf live)
include filed

theorem add (id : Nat) (object : α) (own : idOf object = some id)
    (free : t.get? id = none) : (t.add id object).Filed idOf live := by
  refine ⟨fun id' ref there => ?_, fun id' ref there => ?_, fun ref made lives => ?_⟩
  · rw [get?_add] at there
    split_ifs at there
    · cases there
      exact Nat.lt_succ_self _
    · exact Nat.lt_succ_of_lt (filed.made id' ref there)
  · rw [get?_add] at there
    split_ifs at there with same
    · cases there
      rw [objs_add_next, same, own]
    · rw [objs_add_of_lt t id object ref (filed.made id' ref there)]
      exact filed.own id' ref there
  · rcases Nat.lt_succ_iff_lt_or_eq.mp made with made | rfl
    · rw [objs_add_of_lt t id object ref made] at lives ⊢
      obtain ⟨id', own', there⟩ := filed.filed ref made lives
      refine ⟨id', own', ?_⟩
      rw [get?_add, if_neg ?_]
      · exact there
      · rintro rfl
        rw [free] at there
        cases there
    · refine ⟨id, ?_, ?_⟩
      · rw [objs_add_next, own]
      · rw [get?_add, if_pos rfl]

theorem modify (ref : Ref) (f : α → α) (own : idOf (f (t.objs ref)) = idOf (t.objs ref))
    (lives : live (f (t.objs ref)) → live (t.objs ref)) : (t.modify ref f).Filed idOf live := by
  refine ⟨filed.made, fun id ref' there => ?_, fun ref' made lives' => ?_⟩
  · rcases objs_modify_cases t ref ref' f with ⟨rfl, eq⟩ | ⟨-, eq⟩
    · rw [eq, own]
      exact filed.own id ref' there
    · rw [eq]
      exact filed.own id ref' there
  · rcases objs_modify_cases t ref ref' f with ⟨rfl, eq⟩ | ⟨-, eq⟩
    · rw [eq] at lives' ⊢
      rw [own]
      exact filed.filed ref' made (lives lives')
    · rw [eq] at lives' ⊢
      exact filed.filed ref' made lives'

theorem delete (id : Nat)
    (dead : ∀ ref < t.next, idOf (t.objs ref) = some id → ¬ live (t.objs ref)) :
    (t.delete id).Filed idOf live := by
  refine ⟨fun id' ref there => ?_, fun id' ref there => ?_, fun ref made lives => ?_⟩
  · rw [get?_delete] at there
    split_ifs at there
    exact filed.made id' ref there
  · rw [get?_delete] at there
    split_ifs at there
    exact filed.own id' ref there
  · obtain ⟨id', own, there⟩ := filed.filed ref made lives
    refine ⟨id', own, ?_⟩
    rw [get?_delete, if_neg ?_]
    · exact there
    · rintro rfl
      exact dead ref made own lives

theorem remove (id : Nat) (p : Ref) (f : α → α)
    (there : t.get? id = some p) (dead : ¬ live (f (t.objs p))) :
    ((t.delete id).modify p f).Filed idOf live := by
  have others : ∀ id' ref, (t.delete id).get? id' = some ref →
      t.get? id' = some ref ∧ ref ≠ p := by
    intro id' ref there'
    rw [get?_delete] at there'
    split_ifs at there' with other
    refine ⟨there', ?_⟩
    rintro rfl
    have own := filed.own id ref there
    rw [filed.own id' ref there'] at own
    exact other (Option.some.inj own)
  refine ⟨fun id' ref there' => ?_, fun id' ref there' => ?_, fun ref made lives => ?_⟩
  · exact filed.made id' ref (others id' ref there').1
  · obtain ⟨there', other⟩ := others id' ref there'
    rw [objs_modify_of_ne _ _ _ _ other]
    exact filed.own id' ref there'
  · rcases objs_modify_cases (t.delete id) p ref f with ⟨rfl, eq⟩ | ⟨other, eq⟩
    · rw [eq] at lives
      exact absurd lives dead
    · rw [eq] at lives ⊢
      obtain ⟨id', own, there'⟩ := filed.filed ref made lives
      refine ⟨id', own, ?_⟩
      rw [get?_modify, get?_delete, if_neg ?_]
      · exact there'
      · rintro rfl
        exact other (Option.some.inj (there'.symm.trans there))

end

end Filed
end ObjectTable
end AkashicSystem.Js
