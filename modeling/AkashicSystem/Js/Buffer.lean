import Mathlib.Data.Nat.Bitwise

/-!
# Byte buffers

The part of a JavaScript byte buffer that the protocol code uses: big-endian
32-bit words read and written with range checks, bytes read past the end as
`undefined`, and the signed 32-bit bitwise and of numbers.
-/

set_option autoImplicit false

namespace AkashicSystem.Js

inductive JsError where
  | assertion (message : String)
  | range
  | nullAccess
  | error (name message : String)
deriving DecidableEq

abbrev Buffer := List UInt8

def assert (condition : Bool) (message : String) : Except JsError Unit :=
  if condition then .ok () else .error (.assertion message)

namespace Buffer

def alloc (size : Nat) : Buffer := List.replicate size 0

variable (buf : Buffer)

/-- `buf[i]` as an operand of a bitwise operator: `undefined` counts as zero. -/
def byteAt (i : Nat) : UInt8 := buf.getD i 0

def word (value : Nat) : Buffer :=
  [UInt8.ofNat (value / 0x1000000), UInt8.ofNat (value / 0x10000),
    UInt8.ofNat (value / 0x100), UInt8.ofNat value]

def wordOf (b0 b1 b2 b3 : UInt8) : Nat :=
  b0.toNat * 0x1000000 + b1.toNat * 0x10000 + b2.toNat * 0x100 + b3.toNat

def writeUInt32BE (value offset : Nat) : Except JsError Buffer :=
  if 0xffffffff < value then .error .range
  else if buf.length < offset + 4 then .error .range
  else .ok (buf.take offset ++ word value ++ buf.drop (offset + 4))

def readUInt32BE (offset : Nat) : Except JsError Nat :=
  if buf.length < offset + 4 then .error .range
  else .ok (wordOf (buf.getD offset 0) (buf.getD (offset + 1) 0) (buf.getD (offset + 2) 0)
    (buf.getD (offset + 3) 0))

def slice (start : Nat) : Buffer := buf.drop start

end Buffer

/-- `a & b` on numbers: both operands and the result are signed 32-bit words. -/
def int32And (a b : Nat) : Int := (BitVec.ofNat 32 a &&& BitVec.ofNat 32 b).toInt

/-- `a & 0x7fffffff`. -/
def low31 (a : Nat) : Nat := (int32And a 0x7fffffff).toNat

namespace Buffer

theorem wordOf_lt (b0 b1 b2 b3 : UInt8) : wordOf b0 b1 b2 b3 < 0x100000000 := by
  have h0 := b0.toNat_lt
  have h1 := b1.toNat_lt
  have h2 := b2.toNat_lt
  have h3 := b3.toNat_lt
  simp only [wordOf]
  omega

theorem word_length (value : Nat) : (word value).length = 4 := rfl

theorem wordOf_word (value : Nat) (h : value ≤ 0xffffffff) :
    wordOf (UInt8.ofNat (value / 0x1000000)) (UInt8.ofNat (value / 0x10000))
      (UInt8.ofNat (value / 0x100)) (UInt8.ofNat value) = value := by
  simp only [wordOf, UInt8.toNat_ofNat']
  omega

theorem ofNat_of_toNat_mod (n : Nat) (b : UInt8) (h : n % 256 = b.toNat) : UInt8.ofNat n = b := by
  apply UInt8.toNat_inj.mp
  rw [UInt8.toNat_ofNat']
  exact h

theorem word_wordOf (b0 b1 b2 b3 : UInt8) : word (wordOf b0 b1 b2 b3) = [b0, b1, b2, b3] := by
  have h0 := b0.toNat_lt
  have h1 := b1.toNat_lt
  have h2 := b2.toNat_lt
  have h3 := b3.toNat_lt
  simp only [word, wordOf]
  rw [ofNat_of_toNat_mod _ b0 (by omega), ofNat_of_toNat_mod _ b1 (by omega),
    ofNat_of_toNat_mod _ b2 (by omega), ofNat_of_toNat_mod _ b3 (by omega)]

end Buffer

theorem low31_eq (a : Nat) : low31 a = a % 0x80000000 := by
  have mask : (BitVec.ofNat 32 a &&& BitVec.ofNat 32 0x7fffffff).toNat = a % 0x80000000 := by
    rw [BitVec.toNat_and, BitVec.toNat_ofNat, BitVec.toNat_ofNat]
    have pow : (0x7fffffff : Nat) % 2 ^ 32 = 2 ^ 31 - 1 := rfl
    rw [pow, Nat.and_two_pow_sub_one_eq_mod]
    omega
  rw [low31, int32And, BitVec.toInt_eq_toNat_cond, mask]
  have small : a % 0x80000000 < 0x80000000 := Nat.mod_lt a (by decide)
  rw [if_pos (by omega)]
  exact Int.toNat_natCast _

theorem low31_le (value : Nat) : low31 value ≤ 0x7fffffff := by
  rw [low31_eq]
  omega

theorem low31_of_lt (a : Nat) (h : a ≤ 0x7fffffff) : low31 a = a := by
  rw [low31_eq]
  exact Nat.mod_eq_of_lt (by omega)

end AkashicSystem.Js
