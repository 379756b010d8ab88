import AkashicSystem.AmflowMessage.Messages
import AkashicSystem.AmflowMessage.TickListConverter
import AkashicSystem.Js.Buffer

/-!
# Tick lists of encoded ticks

`createEncodedDirect` puts a response together from ticks that are encoded already.
It writes the headers of the arrays itself, and takes a tick for one without events
and storage data by its first byte.
-/

set_option autoImplicit false

namespace AkashicSystem.AmflowMessage

open AkashicSystem.Js List
open AkashicSystem.Playlog (Msgpack hasLength)

def bytesBE : Nat → Nat → Buffer
  | 0, _ => []
  | size + 1, value => UInt8.ofNat (value / 256 ^ size) :: bytesBE size value

/-- A buffer that is written, and the offset to write at. -/
structure Writing where
  buf : Buffer
  offset : Nat

namespace Writing

/-- `buf[offset++] = byte`. -/
def set (w : Writing) (byte : UInt8) : Writing := ⟨w.buf.set w.offset byte, w.offset + 1⟩

def copy (w : Writing) (source : Buffer) : Writing :=
  let count := min source.length (w.buf.length - w.offset)
  ⟨w.buf.take w.offset ++ source.take count ++ w.buf.drop (w.offset + count), w.offset + count⟩

/-- `offset = buf.writeUInt8(value, offset)`, and the like of more bytes; it throws where the
value or the offset is out of range. -/
def writeUIntBE (w : Writing) (size value : Nat) : Option Writing :=
  if value < 256 ^ size ∧ w.offset + size ≤ w.buf.length then
    some ⟨w.buf.take w.offset ++ bytesBE size value ++ w.buf.drop (w.offset + size),
      w.offset + size⟩
  else none

end Writing

def sizeOfArrayHeader (len : Nat) : Nat := if len < 16 then 1 else if len < 65536 then 3 else 5

def writeArrayHeader (w : Writing) (len : Nat) : Option Writing :=
  if len < 16 then w.writeUIntBE 1 (0x90 + len)
  else if len < 65536 then do
    let w ← w.writeUIntBE 1 0xdc
    w.writeUIntBE 2 len
  else do
    let w ← w.writeUIntBE 1 0xdd
    w.writeUIntBE 4 len

def Tick.value (tick : Tick) : Value := .array (.number tick.frame :: tick.rest)

variable (msgpack : Msgpack)

def encodeTick (tick : Tick) : Buffer :=
  if tick.hasContent then msgpack.encode (some tick.value)
  else msgpack.encode (some (.number tick.frame))

theorem encodeTick_value (codec : Playlog.Codec) (tick : Tick) :
    Playlog.encodeTick codec tick.value = .ok (encodeTick codec.toMsgpack tick) := by
  unfold encodeTick
  split
  · next content => exact if_pos content
  · next bare => exact if_neg bare

def isEventTick (t : Buffer) : Bool :=
  !(t.byteAt 0 = 0x91 || t.byteAt 0 &&& 0xf0 ≠ 0x90)

def encodedFrame (rawTick : Buffer) : Option Buffer := do
  let tick ← msgpack.decode rawTick
  if tick.isNumber then return msgpack.encode (some tick)
  else
    let frame ← (tick.index 0).toOption
    return msgpack.encode frame

/-- The packet of the encoded frames and ticks, in a buffer of its size. -/
def assemble («from» «to» : Buffer) (rawEventTicks : List Buffer) : Option Buffer := do
  let ticksSize := (rawEventTicks.map List.length).sum
  let hasEventTicks := 0 < rawEventTicks.length
  let buf := Buffer.alloc (1 + 1 + 1 + from.length + to.length +
    if hasEventTicks then sizeOfArrayHeader rawEventTicks.length + ticksSize else 0)
  let w := (Writing.mk buf 0).set (if hasEventTicks then 0x95 else 0x94)
  let w := ((w.set 0x4).set 0xc0).copy «from» |>.copy «to»
  if hasEventTicks then
    let w ← writeArrayHeader w rawEventTicks.length
    return (rawEventTicks.foldl Writing.copy w).buf
  else return w.buf

def createEncodedDirect (rawTicks : List Buffer) : Option Buffer :=
  match rawTicks with
  | [] => some [0x92, 0x4, 0xc0]
  | rawTick :: rest => do
      let «from» ← encodedFrame msgpack rawTick
      let «to» ← encodedFrame msgpack (rest.getLastD rawTick)
      assemble «from» «to» (rawTicks.filter isEventTick)

def GetTickListResponse (tickList : Option TickList) : Response :=
  .getTickList (some .null) (tickList.map fun list =>
    ⟨some (.number list.from), some (.number list.to),
      list.eventTicks.map fun ticks => .array (ticks.map Tick.value)⟩)

def arrayHeader (len : Nat) : Buffer :=
  if len ≤ 15 then [UInt8.ofNat (0x90 + len)]
  else if len < 2 ^ 16 then 0xdc :: bytesBE 2 len
  else 0xdd :: bytesBE 4 len

/-- The encoder writes `null`, small numbers and arrays as they are specified, in their shortest
forms, and a number begins with a byte of a format of numbers. -/
structure Specified (msgpack : Msgpack) : Prop where
  nil : msgpack.encode (some .null) = [0xc0]
  fixint : ∀ n < 128, msgpack.encode (some (.number (Int.ofNat n))) = [UInt8.ofNat n]
  number : ∀ n, ∃ byte bytes, msgpack.encode (some (.number n)) = byte :: bytes ∧
    (byte < 0x80 ∨ 0xca ≤ byte)
  array : ∀ items : List Value, items.length < 2 ^ 32 → msgpack.encode (some (.array items)) =
    arrayHeader items.length ++ items.flatMap fun item => msgpack.encode (some item)

/-- The buffer begins with what has been written, and there is room for the rest. -/
structure Writing.Done (w : Writing) (size : Nat) (done : Buffer) : Prop where
  buf : w.buf = done ++ Buffer.alloc (size - done.length)
  offset : w.offset = done.length

theorem length_bytesBE (size value : Nat) : (bytesBE size value).length = size := by
  induction size with
  | zero => rfl
  | succ size ih => rw [bytesBE, length_cons, ih]

theorem length_arrayHeader (len : Nat) : (arrayHeader len).length = sizeOfArrayHeader len := by
  unfold arrayHeader sizeOfArrayHeader
  split_ifs <;> first | omega | simp [length_bytesBE]

namespace Writing.Done

variable {w : Writing} {size : Nat} {done : Buffer}

section

variable (written : w.Done size done)
include written

theorem put (bytes : Buffer) :
    w.buf.take w.offset ++ bytes ++ w.buf.drop (w.offset + bytes.length) =
      done ++ bytes ++ Buffer.alloc (size - (done ++ bytes).length) := by
  rw [written.buf, written.offset, take_left' rfl, drop_length_add_append]
  simp [Buffer.alloc, Nat.sub_sub]

theorem set (byte : UInt8) (room : done.length < size) :
    (w.set byte).Done size (done ++ [byte]) := by
  obtain ⟨rest, isSize⟩ : ∃ rest, size = done.length + 1 + rest :=
    ⟨size - done.length - 1, by omega⟩
  have zeros : Buffer.alloc (size - done.length) = 0 :: Buffer.alloc rest := by
    rw [isSize, Nat.add_assoc, Nat.add_sub_cancel_left, Nat.add_comm 1 rest]
    rfl
  constructor
  · rw [Writing.set, written.buf, written.offset, zeros]
    simp [isSize]
  · rw [Writing.set, written.offset, length_append]
    rfl

theorem copy (source : Buffer)
    (room : done.length + source.length ≤ size) :
    (w.copy source).Done size (done ++ source) := by
  have count : min source.length (w.buf.length - w.offset) = source.length := by
    rw [written.buf, written.offset]
    simp [Buffer.alloc]
    omega
  unfold Writing.copy
  dsimp only
  rw [count, take_length]
  exact ⟨written.put source, by simp [written.offset]⟩

theorem writeUIntBE (count value : Nat) (fits : value < 256 ^ count)
    (room : done.length + count ≤ size) :
    ∃ w', w.writeUIntBE count value = some w' ∧ w'.Done size (done ++ bytesBE count value) := by
  have inside : w.offset + count ≤ w.buf.length := by
    rw [written.buf, written.offset]
    simp [Buffer.alloc]
    omega
  have length := length_bytesBE count value
  have put := written.put (bytesBE count value)
  rw [length] at put
  refine ⟨_, if_pos ⟨fits, inside⟩, put, ?_⟩
  simp [written.offset, length]

theorem writeArrayHeader (len : Nat) (few : len < 2 ^ 32)
    (room : done.length + sizeOfArrayHeader len ≤ size) :
    ∃ w', AmflowMessage.writeArrayHeader w len = some w' ∧
      w'.Done size (done ++ arrayHeader len) := by
  unfold AmflowMessage.writeArrayHeader arrayHeader
  unfold sizeOfArrayHeader at room
  by_cases small : len < 16
  · rw [if_pos small] at room ⊢
    rw [if_pos (Nat.le_of_lt_succ small)]
    have header : [UInt8.ofNat (0x90 + len)] = bytesBE 1 (0x90 + len) := by simp [bytesBE]
    rw [header]
    exact written.writeUIntBE 1 _ (by omega) room
  · -- the byte of the format, and then the length
    have long : ∀ (format count : Nat), format < 256 → len < 256 ^ count →
        done.length + (1 + count) ≤ size → ∃ w', (do
          let w ← w.writeUIntBE 1 format
          w.writeUIntBE count len) = some w' ∧
          w'.Done size (done ++ (UInt8.ofNat format :: bytesBE count len)) := by
      intro format count byte fits room
      obtain ⟨w', head, written⟩ := written.writeUIntBE 1 format byte (by omega)
      have begun : (done ++ bytesBE 1 format).length = done.length + 1 := by
        rw [length_append, length_bytesBE]
      obtain ⟨w'', length, written⟩ := written.writeUIntBE count len fits (by omega)
      refine ⟨w'', by rw [head]; exact length, ?_⟩
      simpa [bytesBE] using written
    rw [if_neg small] at room ⊢
    rw [if_neg fun le => small (Nat.lt_succ_of_le le)]
    by_cases medium : len < 65536
    · have medium' : len < 2 ^ 16 := medium
      rw [if_pos medium] at room ⊢
      rw [if_pos medium']
      exact long 0xdc 2 (by decide) medium room
    · have medium' : ¬ len < 2 ^ 16 := medium
      rw [if_neg medium] at room ⊢
      rw [if_neg medium']
      exact long 0xdd 4 (by decide) few room

theorem foldl_copy (sources : List Buffer)
    (room : done.length + (sources.map List.length).sum ≤ size) :
    (sources.foldl Writing.copy w).Done size (done ++ sources.flatten) := by
  induction sources generalizing w done with
  | nil => simpa using written
  | cons source rest ih =>
    rw [map_cons, sum_cons] at room
    have copied := written.copy source (by omega)
    have more := ih copied (by
      rw [length_append]
      omega)
    rw [foldl_cons, flatten_cons, ← append_assoc]
    exact more

theorem full (all : done.length = size) : w.buf = done := by
  rw [written.buf, all, Nat.sub_self]
  exact append_nil done

end

end Writing.Done

theorem assemble_eq («from» «to» : Buffer) (rawEventTicks : List Buffer)
    (few : rawEventTicks.length < 2 ^ 32) : assemble «from» «to» rawEventTicks =
      some ([if 0 < rawEventTicks.length then 0x95 else 0x94, 0x4, 0xc0] ++ «from» ++ «to» ++
        if 0 < rawEventTicks.length then
          arrayHeader rawEventTicks.length ++ rawEventTicks.flatten else []) := by
  unfold assemble
  dsimp only
  generalize isSize : 1 + 1 + 1 + from.length + to.length +
    (if 0 < rawEventTicks.length then
      sizeOfArrayHeader rawEventTicks.length + (rawEventTicks.map List.length).sum else 0) = size
  have begins : (Writing.mk (Buffer.alloc size) 0).Done size [] := ⟨rfl, rfl⟩
  have opcode := ((begins.set (if 0 < rawEventTicks.length then 0x95 else 0x94)
    (by simp; omega)).set 0x4 (by simp; omega)).set 0xc0 (by simp; omega)
  have bounds := (opcode.copy «from» (by simp; omega)).copy «to» (by simp; omega)
  by_cases some : 0 < rawEventTicks.length
  · simp only [if_pos some] at isSize bounds ⊢
    obtain ⟨w, head, counted⟩ := bounds.writeArrayHeader rawEventTicks.length few (by simp; omega)
    have all := counted.foldl_copy rawEventTicks (by simp [length_arrayHeader]; omega)
    rw [head]
    simpa using all.full (by simp [length_arrayHeader]; omega)
  · simp only [if_neg some] at isSize bounds ⊢
    simpa using bounds.full (by simp; omega)

theorem rest_ne_nil {tick : Tick} (content : tick.hasContent = true) : tick.rest ≠ [] := by
  intro nothing
  rw [Tick.hasContent, nothing] at content
  cases content

theorem not_isEventTick_of_number (byte : UInt8) (bytes : Buffer)
    (number : byte < 0x80 ∨ 0xca ≤ byte) : isEventTick (byte :: bytes) = false := by
  have all : ∀ byte : BitVec 8, byte < 0x80#8 ∨ 0xca#8 ≤ byte → byte &&& 0xf0#8 ≠ 0x90#8 := by
    decide
  have differs : byte &&& 0xf0 ≠ 0x90 := fun eq =>
    all byte.toBitVec number (congrArg UInt8.toBitVec eq)
  simp [isEventTick, Buffer.byteAt, differs]

section Encoded

variable {msgpack : Msgpack}

theorem encodedFrame_encodeTick {tick : Tick} (carried : msgpack.Carries
    (if tick.hasContent then tick.value else .number tick.frame)) :
    encodedFrame msgpack (encodeTick msgpack tick) =
      some (msgpack.encode (some (.number tick.frame))) := by
  unfold encodedFrame encodeTick
  by_cases content : tick.hasContent = true
  · rw [if_pos content] at carried ⊢
    rw [carried]
    rfl
  · rw [if_neg content] at carried ⊢
    rw [carried]
    rfl

theorem getLastD_map {α β : Type} (f : α → β) (l : List α) (a : α) :
    (l.map f).getLastD (f a) = f (l.getLastD a) := by
  simp [getLastD_eq_getLast?]

variable (specified : Specified msgpack)

include specified

theorem isEventTick_encodeTick {tick : Tick} (short : tick.rest.length ≤ 2) :
    isEventTick (encodeTick msgpack tick) = tick.hasContent := by
  unfold encodeTick
  split
  · next content =>
    have some := length_pos_of_ne_nil (rest_ne_nil content)
    rw [Tick.value, specified.array _ (by rw [length_cons]; omega), content]
    obtain one | two : tick.rest.length = 1 ∨ tick.rest.length = 2 := by omega
    · simp [isEventTick, Buffer.byteAt, arrayHeader, one]
      rfl
    · simp [isEventTick, Buffer.byteAt, arrayHeader, two]
      rfl
  · next bare =>
    obtain ⟨byte, bytes, encoded, number⟩ := specified.number tick.frame
    rw [encoded, not_isEventTick_of_number byte bytes number, Bool.eq_false_of_not_eq_true bare]

theorem filter_isEventTick {ticks : List Tick} (short : ∀ tick ∈ ticks, tick.rest.length ≤ 2) :
    (ticks.map (encodeTick msgpack)).filter isEventTick =
      (ticks.filter Tick.hasContent).map fun tick => msgpack.encode (some tick.value) := by
  have same : ticks.filter (isEventTick ∘ encodeTick msgpack) = ticks.filter Tick.hasContent :=
    filter_congr fun tick there => isEventTick_encodeTick specified (short tick there)
  rw [filter_map, same]
  refine map_congr_left fun tick kept => ?_
  exact if_pos (mem_filter.mp kept).2

theorem encode_response (first last : Int) (eventTicks : List Tick)
    (few : eventTicks.length < 2 ^ 32) :
    Response.encode msgpack (GetTickListResponse (some ⟨first, last,
        if eventTicks.isEmpty then none else some eventTicks⟩)) =
      [if 0 < eventTicks.length then 0x95 else 0x94, 0x4, 0xc0] ++
        msgpack.encode (some (.number first)) ++ msgpack.encode (some (.number last)) ++
          if 0 < eventTicks.length then arrayHeader eventTicks.length ++
            (eventTicks.map fun tick => msgpack.encode (some tick.value)).flatten else [] := by
  have opcode : msgpack.encode (some (.number 4)) = [4] := specified.fixint 4 (by decide)
  cases eventTicks with
  | nil =>
    have packet : (GetTickListResponse (some ⟨first, last, none⟩)).toPacket =
      [some (.number 4), some .null, some (.number first), some (.number last)] := rfl
    change Response.encode msgpack (GetTickListResponse (some ⟨first, last, none⟩)) = _
    rw [Response.encode, packet, encodePacket, specified.array _ (by simp [written])]
    simp [written, specified.nil, opcode, arrayHeader]
  | cons tick rest =>
    have packet : (GetTickListResponse (some ⟨first, last, some (tick :: rest)⟩)).toPacket =
      [some (.number 4), some .null, some (.number first), some (.number last),
        some (.array ((tick :: rest).map Tick.value))] := rfl
    change Response.encode msgpack (GetTickListResponse (some ⟨first, last,
      some (tick :: rest)⟩)) = _
    rw [Response.encode, packet, encodePacket, specified.array _ (by simp [written])]
    have inner := specified.array ((tick :: rest).map Tick.value) (by simpa using few)
    simp [flatMap_def, Function.comp_def] at inner
    simp [written, specified.nil, opcode, inner, flatMap_def]
    rfl

/-- The response that is put together is the one that is encoded.  A tick has no more than its
frame, events and storage data, and the length of an array has 32 bits. -/
theorem createEncodedDirect_encodeTick (ticks : List Tick) (isArray : ticks.length < 2 ^ 32)
    (typed : ∀ tick ∈ ticks, tick.rest.length ≤ 2) (carried : ∀ tick ∈ ticks, msgpack.Carries
      (if tick.hasContent then tick.value else .number tick.frame)) :
    createEncodedDirect msgpack (ticks.map (encodeTick msgpack)) =
      some (Response.encode msgpack (GetTickListResponse (fromTicks ticks))) := by
  cases ticks with
  | nil =>
    have opcode : msgpack.encode (some (.number 4)) = [4] := specified.fixint 4 (by decide)
    have packet : (GetTickListResponse none).toPacket = [some (.number 4), some .null] := rfl
    rw [fromTicks, Response.encode, packet, encodePacket, specified.array _ (by decide)]
    simp [written, specified.nil, opcode, createEncodedDirect]
    rfl
  | cons tick rest =>
    have few : ((tick :: rest).filter Tick.hasContent).length < 2 ^ 32 :=
      Nat.lt_of_le_of_lt (length_filter_le ..) isArray
    have first := encodedFrame_encodeTick (carried tick mem_cons_self)
    have last := encodedFrame_encodeTick (carried (rest.getLastD tick) getLastD_mem_cons)
    have raw := filter_isEventTick specified typed
    rw [fromTicks, encode_response specified _ _ _ few]
    rw [map_cons] at raw ⊢
    unfold createEncodedDirect
    dsimp only
    rw [getLastD_map, first, last, raw]
    refine (assemble_eq _ _ _ ?_).trans ?_
    · rw [length_map]
      exact few
    · rw [length_map]

end Encoded

mutual

def encodeValue : Value → Buffer
  | .null => [0xc0]
  | .bool b => [if b then 0xc3 else 0xc2]
  | .number n =>
      if 0 ≤ n ∧ n < 128 then [UInt8.ofNat n.toNat] else 0xd3 :: bytesBE 8 (n % 2 ^ 64).toNat
  | .array items => arrayHeader items.length ++ encodeItems items
  | _ => [0xc1]

def encodeItems : List Value → Buffer
  | [] => []
  | item :: rest => encodeValue item ++ encodeItems rest

end

def smallMsgpack : Msgpack :=
  { Playlog.ShortMsgpack.codec.toMsgpack with
    encode := fun value => encodeValue (value.getD .null) }

theorem encode_smallMsgpack (value : Value) :
    smallMsgpack.encode (some value) = encodeValue value := rfl

theorem encodeItems_eq (items : List Value) : encodeItems items = items.flatMap encodeValue := by
  induction items with
  | nil => rfl
  | cons item rest ih => rw [encodeItems, ih, flatMap_cons]

theorem specified_smallMsgpack : Specified smallMsgpack where
  nil := by rw [encode_smallMsgpack, encodeValue]
  fixint := fun n small => by
    rw [encode_smallMsgpack, encodeValue, if_pos ⟨Int.natCast_nonneg n, Int.ofNat_lt.mpr small⟩]
    rfl
  number := fun n => by
    rw [encode_smallMsgpack, encodeValue]
    split
    · next small =>
      refine ⟨_, [], rfl, .inl ?_⟩
      rw [UInt8.lt_iff_toNat_lt, UInt8.toNat_ofNat']
      change n.toNat % 256 < 128
      omega
    · exact ⟨0xd3, _, rfl, .inr (by decide)⟩
  array := fun items _ => by
    rw [encode_smallMsgpack, encodeValue, encodeItems_eq]
    rfl

/-- Two ticks without events around one that has one. -/
theorem createEncodedDirect_joined : createEncodedDirect smallMsgpack
    ([.bare 1, joined, ⟨3, [.array []]⟩].map (encodeTick smallMsgpack)) =
      some (Response.encode smallMsgpack
        (GetTickListResponse (fromTicks [.bare 1, joined, ⟨3, [.array []]⟩]))) := by
  refine createEncodedDirect_encodeTick specified_smallMsgpack _ (by decide) ?_ ?_
  · simp [Tick.bare, joined]
  · intro tick there
    simp only [mem_cons, not_mem_nil, or_false] at there
    rcases there with rfl | rfl | rfl <;> rfl

end AkashicSystem.AmflowMessage
