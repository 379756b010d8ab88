import AkashicSystem.Js.Value
import Mathlib.Algebra.Group.Nat.Defs
import Mathlib.Algebra.Order.Ring.Unbundled.Rat

/-!
# JavaScript numbers

A number as a comparison sees it: not a number, an infinity, or the rational
number a double stands for.
-/

set_option autoImplicit false

namespace AkashicSystem.Js

inductive Number where
  | nan
  | negInfinity
  | finite (q : ℚ)
  | infinity
deriving DecidableEq

namespace Number

instance (n : Nat) : OfNat Number n := ⟨.finite n⟩

instance : Inhabited Number := ⟨0⟩

def lt : Number → Number → Bool
  | nan, _ => false
  | _, nan => false
  | finite p, finite q => decide (p < q)
  | finite _, infinity => true
  | finite _, negInfinity => false
  | negInfinity, negInfinity => false
  | negInfinity, _ => true
  | infinity, _ => false

variable (a b : Number)

def le : Bool :=
  match a, b with
  | nan, _ => false
  | _, nan => false
  | a, b => !lt b a

def max : Number :=
  match a, b with
  | nan, _ => nan
  | _, nan => nan
  | a, b => if lt a b then b else a

def min : Number :=
  match a, b with
  | nan, _ => nan
  | _, nan => nan
  | a, b => if lt b a then b else a

def ofBits (bits : UInt64) : Number :=
  let exponent : Nat := bits.toNat / 2 ^ 52 % 2048
  let fraction : Nat := bits.toNat % 2 ^ 52
  let negative := decide (2 ^ 63 ≤ bits.toNat)
  if exponent = 2047 then
    if fraction ≠ 0 then nan else if negative then negInfinity else infinity
  else
    let mantissa : Nat := if exponent = 0 then fraction else 2 ^ 52 + fraction
    let scale : Nat := Nat.max exponent 1
    let magnitude : ℚ :=
      if 1075 ≤ scale then mantissa * 2 ^ (scale - 1075) else mkRat mantissa (2 ^ (1075 - scale))
    finite (if negative then -magnitude else magnitude)

theorem le_iff : le a b = true ↔ a ≠ nan ∧ b ≠ nan ∧ lt b a = false := by
  cases a <;> cases b <;> simp [le]

end Number

namespace Value

def asNumber : Value → Option Number
  | .number n => some (.finite n)
  | .double bits => some (.ofBits bits)
  | _ => none

def truthy : Value → Bool
  | .null => false
  | .bool b => b
  | .number n => n ≠ 0
  | .double bits => Number.ofBits bits ≠ .nan ∧ Number.ofBits bits ≠ 0
  | .text s => s ≠ ""
  | _ => true

end Value
end AkashicSystem.Js
