import Mathlib.Data.String.Basic

/-!
# UTF-8 on byte lists

`encode` is the encoding of a string.  `decode` is the total decoder of the
encoding standard, one byte at a time: a malformed sequence gives U+FFFD once
for each maximal subpart, so that every byte list has a decoding.  On the
encodings of strings the decoder is the inverse of the encoder.
-/

set_option autoImplicit false

namespace AkashicSystem.Js.Utf8

open List

def replacement : Char := Char.ofNat 0xfffd

/-- A multi-byte sequence that is not complete: how many bytes are still
needed, the bounds of the next one, and the code point read so far. -/
structure Pending where
  needed : Nat
  lower : Nat
  upper : Nat
  point : Nat

inductive Lead where
  | char (c : Char)
  | more (p : Pending)
  | bad

def lead (b : Nat) : Lead :=
  if b ≤ 0x7f then .char (Char.ofNat b)
  else if 0xc2 ≤ b ∧ b ≤ 0xdf then .more ⟨1, 0x80, 0xbf, b - 0xc0⟩
  else if 0xe0 ≤ b ∧ b ≤ 0xef then
    .more ⟨2, if b = 0xe0 then 0xa0 else 0x80, if b = 0xed then 0x9f else 0xbf, b - 0xe0⟩
  else if 0xf0 ≤ b ∧ b ≤ 0xf4 then
    .more ⟨3, if b = 0xf0 then 0x90 else 0x80, if b = 0xf4 then 0x8f else 0xbf, b - 0xf0⟩
  else .bad

def decodeFrom : Option Pending → List UInt8 → List Char
  | none, [] => []
  | some _, [] => [replacement]
  | none, b :: rest =>
    match lead b.toNat with
    | .char c => c :: decodeFrom none rest
    | .more p => decodeFrom (some p) rest
    | .bad => replacement :: decodeFrom none rest
  | some p, b :: rest =>
    if p.lower ≤ b.toNat ∧ b.toNat ≤ p.upper then
      if p.needed ≤ 1 then Char.ofNat (p.point * 64 + b.toNat % 64) :: decodeFrom none rest
      else decodeFrom (some ⟨p.needed - 1, 0x80, 0xbf, p.point * 64 + b.toNat % 64⟩) rest
    else
      -- the byte that ends the malformed sequence is read again as a first byte
      match lead b.toNat with
      | .char c => replacement :: c :: decodeFrom none rest
      | .more q => replacement :: decodeFrom (some q) rest
      | .bad => replacement :: replacement :: decodeFrom none rest

def encode (s : String) : List UInt8 := s.toList.flatMap String.utf8EncodeChar

def decode (bytes : List UInt8) : String := String.ofList (decodeFrom none bytes)

/-- The bytes are the encoding of some string. -/
def Valid (bytes : List UInt8) : Prop := encode (decode bytes) = bytes

@[simp] theorem encode_empty : encode "" = [] := rfl

@[simp] theorem decode_nil : decode [] = "" := rfl

theorem decodeFrom_char (b : UInt8) (rest : List UInt8) (c : Char) (h : lead b.toNat = .char c) :
    decodeFrom none (b :: rest) = c :: decodeFrom none rest := by
  simp only [decodeFrom, h]

theorem decodeFrom_more (b : UInt8) (rest : List UInt8) (p : Pending) (h : lead b.toNat = .more p) :
    decodeFrom none (b :: rest) = decodeFrom (some p) rest := by
  simp only [decodeFrom, h]

theorem decodeFrom_next (p : Pending) (b : UInt8) (rest : List UInt8)
    (bounds : p.lower ≤ b.toNat ∧ b.toNat ≤ p.upper) (needed : 1 < p.needed) :
    decodeFrom (some p) (b :: rest) =
      decodeFrom (some ⟨p.needed - 1, 0x80, 0xbf, p.point * 64 + b.toNat % 64⟩) rest := by
  have more : ¬ p.needed ≤ 1 := by omega
  simp only [decodeFrom, if_pos bounds, if_neg more]

theorem decodeFrom_last (p : Pending) (b : UInt8) (rest : List UInt8)
    (bounds : p.lower ≤ b.toNat ∧ b.toNat ≤ p.upper) (needed : p.needed ≤ 1) :
    decodeFrom (some p) (b :: rest) =
      Char.ofNat (p.point * 64 + b.toNat % 64) :: decodeFrom none rest := by
  simp only [decodeFrom, if_pos bounds, if_pos needed]

theorem char_toNat_bound (c : Char) :
    c.val.toNat < 0xd800 ∨ 0xdfff < c.val.toNat ∧ c.val.toNat < 0x110000 := c.valid

theorem char_ofNat_of_eq (c : Char) (n : Nat) (h : n = c.val.toNat) : Char.ofNat n = c := by
  subst h
  exact Char.ofNat_toNat c

theorem toNat_tail (n : Nat) : (UInt8.ofNat (n % 0x40 + 0x80)).toNat = n % 0x40 + 0x80 :=
  UInt8.toNat_ofNat_of_lt' (by simp only [UInt8.size]; omega)

/-- One character: its encoding in front of any bytes is decoded to it. -/
theorem decodeFrom_encodeChar (c : Char) (rest : List UInt8) :
    decodeFrom none (String.utf8EncodeChar c ++ rest) = c :: decodeFrom none rest := by
  have bound := char_toNat_bound c
  simp only [String.utf8EncodeChar]
  generalize hv : c.val.toNat = v at bound
  split
  · rename_i small
    have toNat : (UInt8.ofNat v).toNat = v :=
      UInt8.toNat_ofNat_of_lt' (by simp only [UInt8.size]; omega)
    have read : lead (UInt8.ofNat v).toNat = .char (Char.ofNat v) := by
      rw [toNat, lead, if_pos small]
    rw [cons_append, nil_append, decodeFrom_char _ _ _ read,
      char_ofNat_of_eq c v hv.symm]
  · split
    · rename_i small two
      have first : (UInt8.ofNat (v / 64 % 0x20 + 0xc0)).toNat = v / 64 + 0xc0 := by
        rw [UInt8.toNat_ofNat_of_lt' (by simp only [UInt8.size]; omega)]
        omega
      have second := toNat_tail v
      have read : lead (UInt8.ofNat (v / 64 % 0x20 + 0xc0)).toNat =
          .more ⟨1, 0x80, 0xbf, v / 64⟩ := by
        rw [first, lead, if_neg (by omega), if_pos (by omega)]
        simp
      rw [cons_append, cons_append, nil_append, decodeFrom_more _ _ _ read,
        decodeFrom_last _ _ _ (by rw [second]; simp only; omega) (by simp),
        char_ofNat_of_eq c _ (by rw [second, hv]; simp only; omega)]
    · split
      · rename_i small two three
        have first : (UInt8.ofNat (v / 4096 % 0x10 + 0xe0)).toNat = v / 4096 + 0xe0 := by
          rw [UInt8.toNat_ofNat_of_lt' (by simp only [UInt8.size]; omega)]
          omega
        have second := toNat_tail (v / 64)
        have third := toNat_tail v
        have read : lead (UInt8.ofNat (v / 4096 % 0x10 + 0xe0)).toNat =
            .more ⟨2, if v / 4096 = 0 then 0xa0 else 0x80,
              if v / 4096 = 13 then 0x9f else 0xbf, v / 4096⟩ := by
          rw [first, lead, if_neg (by omega), if_neg (by omega), if_pos (by omega)]
          simp
        rw [cons_append, cons_append, cons_append, nil_append,
          decodeFrom_more _ _ _ read,
          decodeFrom_next _ _ _ (by rw [second]; simp only; split <;> split <;> omega) (by simp),
          decodeFrom_last _ _ _ (by rw [third]; simp only; omega) (by simp),
          char_ofNat_of_eq c _ (by rw [second, third, hv]; simp only; omega)]
      · rename_i small two three
        have first : (UInt8.ofNat (v / 262144 % 0x08 + 0xf0)).toNat = v / 262144 + 0xf0 := by
          rw [UInt8.toNat_ofNat_of_lt' (by simp only [UInt8.size]; omega)]
          omega
        have second := toNat_tail (v / 4096)
        have third := toNat_tail (v / 64)
        have fourth := toNat_tail v
        have read : lead (UInt8.ofNat (v / 262144 % 0x08 + 0xf0)).toNat =
            .more ⟨3, if v / 262144 = 0 then 0x90 else 0x80,
              if v / 262144 = 4 then 0x8f else 0xbf, v / 262144⟩ := by
          rw [first, lead, if_neg (by omega), if_neg (by omega), if_neg (by omega),
            if_pos (by omega)]
          simp
        rw [cons_append, cons_append, cons_append, cons_append,
          nil_append, decodeFrom_more _ _ _ read,
          decodeFrom_next _ _ _ (by rw [second]; simp only; split <;> split <;> omega) (by simp),
          decodeFrom_next _ _ _ (by rw [third]; simp only; omega) (by simp),
          decodeFrom_last _ _ _ (by rw [fourth]; simp only; omega) (by simp),
          char_ofNat_of_eq c _ (by rw [second, third, fourth, hv]; simp only; omega)]

theorem decodeFrom_encode (chars : List Char) :
    decodeFrom none (chars.flatMap String.utf8EncodeChar) = chars := by
  induction chars with
  | nil => rfl
  | cons c rest ih => rw [flatMap_cons, decodeFrom_encodeChar, ih]

theorem decode_encode (s : String) : decode (encode s) = s := by
  rw [decode, encode, decodeFrom_encode, String.ofList_toList]

theorem encode_eq_nil (s : String) (h : encode s = []) : s = "" := by
  rw [← decode_encode s, h]
  rfl

end AkashicSystem.Js.Utf8
