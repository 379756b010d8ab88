import AkashicSystem.Playlog.TickFormat

/-!
# Short values of msgpack

The values whose header is one byte: `null`, booleans, the numbers below 128 and
the arrays of up to 15 such values.  Everything else is encoded as the byte that
msgpack never uses, so that it is not carried.
-/

set_option autoImplicit false

namespace AkashicSystem.Playlog

open AkashicSystem.Js List

namespace ShortMsgpack

mutual

def encode : Value → List UInt8
  | .null => [0xc0]
  | .bool false => [0xc2]
  | .bool true => [0xc3]
  | .number n => if 0 ≤ n ∧ n < 128 then [UInt8.ofNat n.toNat] else [0xc1]
  | .array items =>
    if items.length < 16 then UInt8.ofNat (144 + items.length) :: encodeAll items else [0xc1]
  | _ => [0xc1]

def encodeAll : List Value → List UInt8
  | [] => []
  | item :: rest => encode item ++ encodeAll rest

end

def parseAll (parse : List UInt8 → Option (Value × List UInt8)) :
    Nat → List UInt8 → Option (List Value × List UInt8)
  | 0, bytes => some ([], bytes)
  | n + 1, bytes => do
      let (item, bytes) ← parse bytes
      let (rest, bytes) ← parseAll parse n bytes
      return (item :: rest, bytes)

def parse : Nat → List UInt8 → Option (Value × List UInt8)
  | 0, _ => none
  | _, [] => none
  | fuel + 1, byte :: bytes =>
    if byte < 128 then some (.number byte.toNat, bytes)
    else if byte < 144 then none
    else if byte < 160 then do
      let (items, bytes) ← parseAll (parse fuel) (byte.toNat - 144) bytes
      return (.array items, bytes)
    else if byte = 0xc0 then some (.null, bytes)
    else if byte = 0xc2 then some (.bool false, bytes)
    else if byte = 0xc3 then some (.bool true, bytes)
    else none

def decode (bytes : List UInt8) : Option Value := (parse bytes.length bytes).map Prod.fst

mutual

def Short : Value → Prop
  | .null => True
  | .bool _ => True
  | .number n => 0 ≤ n ∧ n < 128
  | .array items => items.length < 16 ∧ AllShort items
  | _ => False

def AllShort : List Value → Prop
  | [] => True
  | item :: rest => Short item ∧ AllShort rest

end

theorem allShort_iff (items : List Value) : AllShort items ↔ ∀ item ∈ items, Short item := by
  induction items with
  | nil => simp [AllShort]
  | cons item rest ih => simp [AllShort, ih]

theorem short_array (items : List Value) :
    Short (.array items) ↔ items.length < 16 ∧ ∀ item ∈ items, Short item := by
  rw [Short, allShort_iff]

theorem parseAll_short (fuel : Nat)
    (each : ∀ bytes value rest, parse fuel bytes = some (value, rest) → Short value) (n : Nat)
    (bytes : List UInt8) (items : List Value) (rest : List UInt8)
    (parsed : parseAll (parse fuel) n bytes = some (items, rest)) :
    items.length = n ∧ ∀ item ∈ items, Short item := by
  induction n generalizing bytes items rest with
  | zero =>
    cases parsed
    exact ⟨rfl, fun _ there => (not_mem_nil there).elim⟩
  | succ n ih =>
    rw [parseAll, Option.bind_eq_bind, Option.bind_eq_some_iff] at parsed
    obtain ⟨⟨item, bytes'⟩, first, parsed⟩ := parsed
    rw [Option.bind_eq_bind, Option.bind_eq_some_iff] at parsed
    obtain ⟨⟨items', bytes''⟩, others, eq⟩ := parsed
    cases eq
    obtain ⟨length, all⟩ := ih _ _ _ others
    refine ⟨by rw [length_cons, length], fun value there => ?_⟩
    rcases mem_cons.mp there with rfl | inRest
    · exact each _ _ _ first
    · exact all value inRest

theorem parse_short (fuel : Nat) (bytes : List UInt8) (value : Value) (rest : List UInt8)
    (parsed : parse fuel bytes = some (value, rest)) : Short value := by
  induction fuel generalizing bytes value rest with
  | zero => cases parsed
  | succ fuel ih =>
    cases bytes with
    | nil => cases parsed
    | cons byte bytes =>
      rw [parse] at parsed
      split at parsed
      · next small =>
        cases parsed
        have bound : byte.toNat < 128 := UInt8.lt_iff_toNat_lt.mp small
        rw [Short]
        omega
      · split at parsed
        · cases parsed
        · split at parsed
          · next lower upper =>
            rw [Option.bind_eq_bind, Option.bind_eq_some_iff] at parsed
            obtain ⟨⟨items, bytes'⟩, all, eq⟩ := parsed
            cases eq
            obtain ⟨length, short⟩ := parseAll_short fuel ih _ _ _ _ all
            have bound : byte.toNat < 160 := UInt8.lt_iff_toNat_lt.mp upper
            exact (short_array items).mpr ⟨by omega, short⟩
          · split at parsed
            · cases parsed
              trivial
            · split at parsed
              · cases parsed
                trivial
              · split at parsed
                · cases parsed
                  trivial
                · cases parsed

mutual

theorem parse_encode (value : Value) (short : Short value) (fuel : Nat) (rest : List UInt8)
    (enough : (encode value).length ≤ fuel) :
    parse fuel (encode value ++ rest) = some (value, rest) := by
  cases value with
  | null =>
    cases fuel with
    | zero => cases enough
    | succ fuel => rfl
  | bool b =>
    cases fuel with
    | zero => cases b <;> cases enough
    | succ fuel => cases b <;> rfl
  | number n =>
    have small : 0 ≤ n ∧ n < 128 := short
    rw [encode, if_pos small] at enough ⊢
    cases fuel with
    | zero => cases enough
    | succ fuel =>
      have toNat : (UInt8.ofNat n.toNat).toNat = n.toNat := by
        rw [UInt8.toNat_ofNat', Nat.mod_eq_of_lt]
        omega
      have byte : UInt8.ofNat n.toNat < 128 := by
        rw [UInt8.lt_iff_toNat_lt, toNat]
        change n.toNat < 128
        omega
      rw [singleton_append, parse, if_pos byte, toNat, Int.toNat_of_nonneg small.1]
  | array items =>
    obtain ⟨few, all⟩ := (show items.length < 16 ∧ AllShort items from short)
    rw [encode, if_pos few] at enough ⊢
    cases fuel with
    | zero => cases enough
    | succ fuel =>
      have toNat : (UInt8.ofNat (144 + items.length)).toNat = 144 + items.length := by
        rw [UInt8.toNat_ofNat', Nat.mod_eq_of_lt]
        omega
      have notNumber : ¬ UInt8.ofNat (144 + items.length) < 128 := by
        rw [UInt8.lt_iff_toNat_lt, toNat]
        change ¬ 144 + items.length < 128
        omega
      have notMap : ¬ UInt8.ofNat (144 + items.length) < 144 := by
        rw [UInt8.lt_iff_toNat_lt, toNat]
        change ¬ 144 + items.length < 144
        omega
      have isArray : UInt8.ofNat (144 + items.length) < 160 := by
        rw [UInt8.lt_iff_toNat_lt, toNat]
        change 144 + items.length < 160
        omega
      have count : 144 + items.length - 144 = items.length := by omega
      have inside : (encodeAll items).length ≤ fuel := by
        rw [length_cons] at enough
        omega
      rw [cons_append, parse, if_neg notNumber, if_neg notMap, if_pos isArray, toNat,
        count, parseAll_encodeAll items all fuel rest inside]
      rfl
  | double _ => exact short.elim
  | text _ => exact short.elim
  | binary _ => exact short.elim
  | object _ => exact short.elim

theorem parseAll_encodeAll (items : List Value) (all : AllShort items) (fuel : Nat)
    (rest : List UInt8) (enough : (encodeAll items).length ≤ fuel) :
    parseAll (parse fuel) items.length (encodeAll items ++ rest) = some (items, rest) := by
  cases items with
  | nil => rfl
  | cons item items =>
    obtain ⟨first, others⟩ := (show Short item ∧ AllShort items from all)
    rw [encodeAll, length_append] at enough
    have one := parse_encode item first fuel (encodeAll items ++ rest) (by omega)
    have more := parseAll_encodeAll items others fuel rest (by omega)
    rw [encodeAll, append_assoc, length_cons, parseAll, one]
    change (do
      let (rest', bytes) ← parseAll (parse fuel) items.length (encodeAll items ++ rest)
      return (item :: rest', bytes)) = _
    rw [more]
    rfl

end

theorem decode_encode (value : Value) (short : Short value) :
    decode (encode value) = some value := by
  have parsed := parse_encode value short (encode value).length [] (Nat.le_refl _)
  rw [append_nil] at parsed
  rw [decode, parsed]
  rfl

theorem decode_short (bytes : List UInt8) (value : Value) (decoded : decode bytes = some value) :
    Short value := by
  rw [decode, Option.map_eq_some_iff] at decoded
  obtain ⟨⟨_, rest⟩, parsed, rfl⟩ := decoded
  exact parse_short _ _ _ _ parsed

mutual

def sameValue : Value → Value → Bool
  | .null, .null => true
  | .bool b, .bool b' => b == b'
  | .number n, .number n' => n == n'
  | .array items, .array items' => sameItems items items'
  | _, _ => false

def sameItems : List Value → List Value → Bool
  | [], [] => true
  | item :: rest, item' :: rest' => sameValue item item' && sameItems rest rest'
  | _, _ => false

end

mutual

theorem sameValue_refl (value : Value) (short : Short value) : sameValue value value = true := by
  cases value with
  | null => rfl
  | bool b => cases b <;> rfl
  | number n => simp [sameValue]
  | array items =>
    obtain ⟨_, all⟩ := (show items.length < 16 ∧ AllShort items from short)
    rw [sameValue]
    exact sameItems_refl items all
  | double _ => exact short.elim
  | text _ => exact short.elim
  | binary _ => exact short.elim
  | object _ => exact short.elim

theorem sameItems_refl (items : List Value) (all : AllShort items) :
    sameItems items items = true := by
  cases items with
  | nil => rfl
  | cons item rest =>
    obtain ⟨first, others⟩ := (show Short item ∧ AllShort rest from all)
    rw [sameItems, sameValue_refl item first, sameItems_refl rest others, Bool.and_self]

end

theorem length_of_sameItems (items items' : List Value) (same : sameItems items items' = true) :
    items.length = items'.length := by
  induction items generalizing items' with
  | nil =>
    cases items' with
    | nil => rfl
    | cons item' rest' => cases same
  | cons item rest ih =>
    cases items' with
    | nil => cases same
    | cons item' rest' =>
      rw [sameItems, Bool.and_eq_true] at same
      rw [length_cons, length_cons, ih rest' same.2]

def codec : Codec where
  decode := decode
  toInt32 := fun _ => .ok 0
  deepEqual := fun storedValue value => storedValue.any fun stored => sameValue stored value
  eventFlagsMask := ⟨4, 8⟩
  encode := fun value => encode (value.getD .null)
  carries_decoded := fun bytes value decoded =>
    decode_encode value (decode_short bytes value decoded)
  carries_item := by
    intro items carried item there
    have short : Short (.array items) := decode_short _ _ carried
    exact decode_encode item (((short_array items).mp short).2 item there)
  carries_array := by
    intro items items' carried length each
    have short : Short (.array items) := decode_short _ _ carried
    refine decode_encode _ ((short_array items').mpr ⟨?_, fun item there => ?_⟩)
    · have bound := ((short_array items).mp short).1
      omega
    · exact decode_short _ _ (each item there)

theorem codec_carries_iff (value : Value) : codec.Carries value ↔ Short value :=
  ⟨decode_short _ _, decode_encode value⟩

theorem readable_of_number (code n : Int) (more : List Value) :
    eventFlags codec.toLibrary (.array (.number code :: .number n :: more)) =
      .ok (BitVec.ofInt 32 n) := rfl

def emptyTick (frame : Int) (small : 0 ≤ frame ∧ frame < 128) : RawTick codec :=
  have carried : codec.Carries (.number frame) := (codec_carries_iff _).mpr small
  { bytes := codec.encode (some (.number frame))
    tick := {
      frame := frame
      rest := []
      readable := fun _ there => (not_mem_nil there).elim
      carriesFrame := carried
      carries := fun some => (some rfl).elim }
    decodes := by
      have decoded : codec.decode (codec.encode (some (.number frame))) = some (.number frame) :=
        carried
      rw [decodeTick, decoded]
      rfl }

def eventTick (frame flags : Int) (small : 0 ≤ frame ∧ frame < 128)
    (short : 0 ≤ flags ∧ flags < 128) : RawTick codec :=
  let rest := [Value.array [.array [.number 32, .number flags, .null]]]
  have carried : codec.Carries (.array (.number frame :: rest)) := by
    refine (codec_carries_iff _).mpr ?_
    simp [Short, AllShort, rest, small, short]
  { bytes := codec.encode (some (.array (.number frame :: rest)))
    tick := {
      frame := frame
      rest := rest
      readable := by
        intro event there
        obtain rfl := mem_singleton.mp there
        exact ⟨_, readable_of_number 32 flags [.null]⟩
      carriesFrame := (codec_carries_iff _).mpr small
      carries := fun _ => carried }
    decodes := by
      have decoded : codec.decode (codec.encode (some (.array (.number frame :: rest)))) =
        some (.array (.number frame :: rest)) := carried
      rw [decodeTick, decoded]
      rfl }

def noStartPoints : Format Unit Unit := ⟨id, id, id, fun _ => 0, fun _ => none⟩

end ShortMsgpack
end AkashicSystem.Playlog
