import Mathlib.Algebra.Group.Nat.Defs
import Mathlib.Data.List.AList
import Mathlib.Data.List.Sort

/-!
# Plain objects as tables

`{ [key: string]: T }`: an object whose own properties are the entries, and which
inherits the properties of `Object.prototype`.  A look-up of the name of an
inherited property finds that property where there is no own one.
-/

set_option autoImplicit false

namespace AkashicSystem.Js

open List

/-- The properties of `Object.prototype`, with the `length` of those that are functions. -/
def prototypeLengths : List (String × Nat) :=
  [("constructor", 1), ("__defineGetter__", 2), ("__defineSetter__", 2), ("hasOwnProperty", 1),
    ("__lookupGetter__", 1), ("__lookupSetter__", 1), ("isPrototypeOf", 1),
    ("propertyIsEnumerable", 1), ("toString", 0), ("valueOf", 0), ("__proto__", 0),
    ("toLocaleString", 0)]

def objectPrototype : List String := prototypeLengths.map Prod.fst

def inherited (key : String) : Option Nat := prototypeLengths.lookup key

/-- The properties of `Object` and of every function, beside those of `Object.prototype`. -/
def functionProperties : List String := ["name", "apply", "bind", "call"]

def objectProperties : List String :=
  ["assign", "create", "defineProperties", "defineProperty", "entries", "freeze", "fromEntries",
    "getOwnPropertyDescriptor", "getOwnPropertyDescriptors", "getOwnPropertyNames",
    "getOwnPropertySymbols", "getPrototypeOf", "groupBy", "hasOwn", "is", "isExtensible",
    "isFrozen", "isSealed", "keys", "preventExtensions", "prototype", "seal", "setPrototypeOf",
    "values"]

/-- `({})[key][key']` is truthy. -/
def inheritsAt (key key' : String) : Bool :=
  match inherited key with
  | none => false
  | some length =>
    if key = "__proto__" then key' ≠ "__proto__" && (inherited key').isSome
    else
      (inherited key').isSome || key' ∈ functionProperties || (key' = "length" && 0 < length) ||
        (key = "constructor" && key' ∈ objectProperties)

/-- `table[key]`; an inherited property has a length. -/
inductive Property (α : Type) where
  | own (value : α)
  | inherited (length : Nat)
  | absent
deriving DecidableEq

structure PlainObject (α : Type) where
  own : AList fun _ : String => α

namespace PlainObject

variable {α : Type}

def empty : PlainObject α := ⟨∅⟩

def get? (table : PlainObject α) (key : String) : Option α := table.own.lookup key

def property (table : PlainObject α) (key : String) : Property α :=
  match table.get? key with
  | some value => .own value
  | none =>
    match inherited key with
    | some length => .inherited length
    | none => .absent

/-- `table[key] = value`, for a key that is not inherited. -/
def set (table : PlainObject α) (key : String) (value : α) : PlainObject α :=
  ⟨if key ∈ table.own then table.own.replace key value else table.own.insert key value⟩

/-- `delete table[key]`. -/
def delete (table : PlainObject α) (key : String) : PlainObject α := ⟨table.own.erase key⟩

def arrayIndex? (key : String) : Option Nat :=
  key.toNat?.filter fun n => n.repr = key ∧ n < 2 ^ 32 - 1

/-- `Object.keys(table)`: the indices of arrays in their order, then the others as they came. -/
def keys (table : PlainObject α) : List String :=
  let names := table.own.keys.reverse
  (names.filter fun name => (arrayIndex? name).isSome).insertionSort
      (fun a b => (arrayIndex? a).getD 0 ≤ (arrayIndex? b).getD 0) ++
    names.filter fun name => (arrayIndex? name).isNone

theorem dlookup_kreplace (entries : List (Sigma fun _ : String => α)) (key key' : String)
    (value : α) (there : key ∈ entries.keys) : (entries.kreplace key value).dlookup key' =
      if key' = key then some value else entries.dlookup key' := by
  induction entries with
  | nil => cases there
  | cons entry rest ih =>
    obtain ⟨name, value'⟩ := entry
    unfold kreplace at ih ⊢
    by_cases here : key = name
    · subst here
      rw [lookmap_cons]
      simp only [if_pos]
      by_cases same : key' = key
      · rw [if_pos same, same, dlookup_cons_eq]
      · rw [if_neg same, dlookup_cons_ne _ _ same, dlookup_cons_ne _ _ same]
    · have later : key ∈ rest.keys := (mem_cons.mp there).resolve_left here
      rw [lookmap_cons]
      simp only [if_neg here]
      by_cases same : key' = name
      · subst same
        rw [if_neg (Ne.symm here), dlookup_cons_eq, dlookup_cons_eq]
      · rw [dlookup_cons_ne _ _ same, dlookup_cons_ne _ _ same, ih later]

@[simp] theorem get?_set (table : PlainObject α) (key key' : String) (value : α) :
    (table.set key value).get? key' = if key' = key then some value else table.get? key' := by
  unfold set get?
  split
  · exact dlookup_kreplace table.own.entries key key' value ‹_›
  · split
    · next same => rw [same, AList.lookup_insert]
    · next other => exact AList.lookup_insert_ne other

@[simp] theorem get?_delete (table : PlainObject α) (key key' : String) :
    (table.delete key).get? key' = if key' = key then none else table.get? key' := by
  unfold delete get?
  split
  · next same => rw [same, AList.lookup_erase]
  · next other => exact AList.lookup_erase_ne other

section

variable (table : PlainObject α)
include table

theorem mem_keys (key : String) : key ∈ table.keys ↔ (table.get? key).isSome = true := by
  unfold keys get?
  rw [AList.lookup_isSome, AList.mem_keys, mem_append, mem_insertionSort,
    mem_filter, mem_filter, mem_reverse]
  cases arrayIndex? key with
  | none | some n => simp

theorem property_eq_own_iff (key : String) (value : α) :
    table.property key = .own value ↔ table.get? key = some value := by
  unfold property
  cases table.get? key with
  | some value' => simp
  | none => cases inherited key <;> simp

theorem property_eq_inherited_iff (key : String) (length : Nat) :
    table.property key = .inherited length ↔
      table.get? key = none ∧ inherited key = some length := by
  unfold property
  cases table.get? key with
  | some value' => simp
  | none => cases inherited key <;> simp

theorem property_eq_absent_iff (key : String) :
    table.property key = .absent ↔ table.get? key = none ∧ inherited key = none := by
  unfold property
  cases table.get? key with
  | some value' => simp
  | none => cases inherited key <;> simp

end

end PlainObject
end AkashicSystem.Js
