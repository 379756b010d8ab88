import Mathlib.Algebra.Order.Ring.Nat
import Mathlib.Tactic.ByContra
import AkashicSystem.Js.Value
import AkashicSystem.Lib.Joined

/-!
# The identities of processes and their keys

A process is identified by its host, type and name, and each of its incarnations by the
transaction that created its node besides.  Tables are keyed by these joined with dots, the
host reversed.
-/

set_option autoImplicit false

namespace AkashicSystem.ServerEngineDataTypes

open Js (Value)
open List

inductive CastError where
  | typeError (message : String)
  | rangeError (message : String)

/-- The validators of the validator package that the casts use. -/
structure Validator where
  isFQDN : String → Bool
  isInt : String → Bool

namespace Cast

def length (text : String) : Nat :=
  (text.toList.map fun c => if c.toNat < 65536 then 1 else 2).sum

def string (value : Option Value) (maxLength : Nat) (message : String) :
    Except CastError String :=
  match value with
  | some (.text text) =>
    if length text ≤ maxLength then .ok text else .error (.typeError message)
  | _ => .error (.typeError message)

def isHostCharacter (c : Char) : Bool :=
  c.isAlphanum || c = '-' || c = '_' || c = '~'

def isUnreserved (c : Char) : Bool := isHostCharacter c || c = '.'

def fqdnOrHostname (v : Validator) (value : Option Value) (message : String) :
    Except CastError String := do
  let text ← string value 255 message
  if v.isFQDN text || (text ≠ "" && text.toList.all isHostCharacter) then return text
  else throw (.rangeError message)

def uriUnreserved (value : Option Value) (maxLength : Nat) (message : String) :
    Except CastError String := do
  let text ← string value maxLength message
  if text ≠ "" && text.toList.all isUnreserved then return text
  else throw (.rangeError message)

/-- `String(value)`; what is no integer, or is written with an exponent, is no `isInt`. -/
def integerText (n : Int) : Option String := if n.natAbs < 10 ^ 21 then some (toString n) else none

def bigint (v : Validator) (value : Option Value) (message : String) : Except CastError String :=
  let text := match value with
    | some (.number n) => integerText n
    | some (.text text) => some text
    | _ => none
  match text with
  | some text => if v.isInt text then .ok text else .error (.typeError message)
  | none => .error (.typeError message)

end Cast

/-- `obj[name]`, of an object; other values have none of the names, or throw. -/
def property (obj : Option Value) (name : String) : Option Value :=
  match obj with
  | some (.object fields) => fields.lookup name
  | _ => none

/-- `!obj`; a number other than zero and a text have no such properties. -/
def absent (obj : Option Value) : Bool :=
  match obj with
  | none | some .null | some (.bool false) | some (.number 0) | some (.text "") => true
  | _ => false

namespace Fqdn

def fromObject (v : Validator) (obj : Option Value) : Except CastError String :=
  if absent obj then .error (.typeError "obj is not valid")
  else
    match obj, property obj "value" with
    | some (.text text), _ => Cast.fqdnOrHostname v (some (.text text)) "obj is not valid fqdn"
    | _, some (.text text) => Cast.fqdnOrHostname v (some (.text text)) "obj is not valid fqdn"
    | _, _ => .error (.typeError "obj is not fqdn value")

def toReverseFQDN (fqdn : String) : List Char :=
  ['.'].intercalate (fqdn.toList.splitOn '.').reverse

end Fqdn

structure ProcessIdentity where
  fqdn : String
  type : String
  name : String
deriving DecidableEq

structure ClusterIdentity where
  fqdn : String
  type : String
  name : String
  czxid : String
deriving DecidableEq

def joined (parts : List (List Char)) : String := String.ofList (['.'].intercalate parts)

namespace ProcessIdentity

def fromObject (v : Validator) (obj : Option Value) : Except CastError ProcessIdentity := do
  if absent obj then throw (.typeError "obj is not valid")
  let type ← Cast.uriUnreserved (property obj "type") 32 "property type is not valid"
  let name ← Cast.uriUnreserved (property obj "name") 32 "property name is not valid"
  let fqdn ← Fqdn.fromObject v (property obj "fqdn")
  return { fqdn, type, name }

def parts (identity : ProcessIdentity) : List (List Char) :=
  [Fqdn.toReverseFQDN identity.fqdn, identity.type.toList, identity.name.toList]

def getKeyString (identity : ProcessIdentity) : String := joined identity.parts

end ProcessIdentity

namespace ClusterIdentity

def fromObject (v : Validator) (obj : Option Value) : Except CastError ClusterIdentity := do
  if absent obj then throw (.typeError "obj is not valid")
  let type ← Cast.string (property obj "type") 32 "property type is not valid"
  let name ← Cast.string (property obj "name") 32 "property name is not valid"
  let fqdn ← Fqdn.fromObject v (property obj "fqdn")
  let czxid ← Cast.bigint v (property obj "czxid") "property czxid is not valid"
  return { fqdn, type, name, czxid }

def parts (identity : ClusterIdentity) : List (List Char) :=
  [Fqdn.toReverseFQDN identity.fqdn, identity.type.toList, identity.name.toList,
    identity.czxid.toList]

def getKeyString (identity : ClusterIdentity) : String := joined identity.parts

def isSame (identity other : ClusterIdentity) : Bool :=
  identity.fqdn == other.fqdn && identity.type == other.type && identity.name == other.name &&
    identity.czxid == other.czxid

end ClusterIdentity

/-- The segments that dots divide the parts of a key into, all in a row. -/
def segments (parts : List (List Char)) : List (List Char) := Joined.segments '.' parts

def counts (parts : List (List Char)) : List Nat := Joined.counts '.' parts

theorem joined_eq_iff (parts parts' : List (List Char)) (nonempty : parts ≠ [])
    (nonempty' : parts' ≠ []) :
    joined parts = joined parts' ↔ segments parts = segments parts' := by
  have texts := Joined.intercalate_eq_iff '.' parts parts' nonempty nonempty'
  exact Iff.trans String.ofList_inj texts

/-- Keys are the same for the same segments only, and differ in how these are divided. -/
theorem joined_differ_iff (parts parts' : List (List Char)) (nonempty : parts ≠ [])
    (nonempty' : parts' ≠ []) : (parts ≠ parts' → joined parts ≠ joined parts') ↔
      ¬ (segments parts = segments parts' ∧ counts parts ≠ counts parts') := by
  rw [Ne, Ne, joined_eq_iff parts parts' nonempty nonempty']
  constructor
  · rintro differ ⟨same, divided⟩
    refine differ (fun eq => divided ?_) same
    rw [eq]
  · intro undivided other same
    refine other (Joined.eq_of_segments '.' parts parts' same ?_)
    by_contra divided
    exact undivided ⟨same, divided⟩

theorem splitOn_toReverseFQDN (fqdn : String) :
    (Fqdn.toReverseFQDN fqdn).splitOn '.' = (fqdn.toList.splitOn '.').reverse := by
  apply splitOn_intercalate
  · intro segment there
    exact Joined.separator_notMem '.' fqdn.toList segment (mem_reverse.mp there)
  · simp

theorem toReverseFQDN_inj {fqdn fqdn' : String}
    (same : Fqdn.toReverseFQDN fqdn = Fqdn.toReverseFQDN fqdn') : fqdn = fqdn' := by
  have reversed := congrArg (splitOn '.') same
  rw [splitOn_toReverseFQDN, splitOn_toReverseFQDN] at reversed
  have text := congrArg ['.'].intercalate (reverse_inj.mp reversed)
  rw [intercalate_splitOn, intercalate_splitOn] at text
  exact String.toList_injective text

theorem ProcessIdentity.parts_inj {identity other : ProcessIdentity}
    (same : identity.parts = other.parts) : identity = other := by
  obtain ⟨fqdn, type, name⟩ := identity
  obtain ⟨fqdn', type', name'⟩ := other
  simp only [parts, cons.injEq, and_true] at same
  obtain ⟨host, sameType, sameName⟩ := same
  rw [toReverseFQDN_inj host, String.toList_injective sameType, String.toList_injective sameName]

theorem ClusterIdentity.parts_inj {identity other : ClusterIdentity}
    (same : identity.parts = other.parts) : identity = other := by
  obtain ⟨fqdn, type, name, czxid⟩ := identity
  obtain ⟨fqdn', type', name', czxid'⟩ := other
  simp only [parts, cons.injEq, and_true] at same
  obtain ⟨host, sameType, sameName, sameCzxid⟩ := same
  rw [toReverseFQDN_inj host, String.toList_injective sameType, String.toList_injective sameName,
    String.toList_injective sameCzxid]

/-- The keys of two processes differ, and those of two incarnations, unless the dots in the
hosts, types and names divide the same segments in another way. -/
theorem getKeyString_differ_iff (identity other : ProcessIdentity)
    (cluster other' : ClusterIdentity) :
    ((identity ≠ other → identity.getKeyString ≠ other.getKeyString) ↔
        ¬ (segments identity.parts = segments other.parts ∧
          counts identity.parts ≠ counts other.parts)) ∧
      ((cluster ≠ other' → cluster.getKeyString ≠ other'.getKeyString) ↔
        ¬ (segments cluster.parts = segments other'.parts ∧
          counts cluster.parts ≠ counts other'.parts)) := by
  constructor
  · have asParts : identity ≠ other ↔ identity.parts ≠ other.parts :=
      not_congr ⟨congrArg ProcessIdentity.parts, ProcessIdentity.parts_inj⟩
    rw [asParts]
    exact joined_differ_iff identity.parts other.parts (by simp [ProcessIdentity.parts])
      (by simp [ProcessIdentity.parts])
  · have asParts : cluster ≠ other' ↔ cluster.parts ≠ other'.parts :=
      not_congr ⟨congrArg ClusterIdentity.parts, ClusterIdentity.parts_inj⟩
    rw [asParts]
    exact joined_differ_iff cluster.parts other'.parts (by simp [ClusterIdentity.parts])
      (by simp [ClusterIdentity.parts])

/-- Decimal digits, without the signs that `isInt` accepts as well; no host of one label is an
FQDN. -/
def validator : Validator where
  isFQDN _ := false
  isInt text := text ≠ "" && text.toList.all Char.isDigit

def processObject (type name : String) : Option Value :=
  some (.object [("fqdn", .text "localhost"), ("type", .text type), ("name", .text name),
    ("czxid", .text "1")])

/-- Two processes are accepted under one key, and two incarnations. -/
theorem processObject_shared : (¬ ∀ (obj obj' : Option Value) (identity other : ProcessIdentity),
      ProcessIdentity.fromObject validator obj = .ok identity →
      ProcessIdentity.fromObject validator obj' = .ok other →
      identity ≠ other → identity.getKeyString ≠ other.getKeyString) ∧
    ¬ ∀ (obj obj' : Option Value) (identity other : ClusterIdentity),
      ClusterIdentity.fromObject validator obj = .ok identity →
      ClusterIdentity.fromObject validator obj' = .ok other →
      identity ≠ other → identity.getKeyString ≠ other.getKeyString := by
  constructor
  · intro claimed
    exact claimed (processObject "game.runner" "1") (processObject "game" "runner.1")
      ⟨"localhost", "game.runner", "1"⟩ ⟨"localhost", "game", "runner.1"⟩ rfl rfl
      (by decide +kernel) (by decide +kernel)
  · intro claimed
    exact claimed (processObject "game.runner" "1") (processObject "game" "runner.1")
      ⟨"localhost", "game.runner", "1", "1"⟩ ⟨"localhost", "game", "runner.1", "1"⟩
      rfl rfl (by decide +kernel) (by decide +kernel)

end AkashicSystem.ServerEngineDataTypes
