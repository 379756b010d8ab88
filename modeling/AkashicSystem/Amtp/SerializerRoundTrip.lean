import AkashicSystem.Amtp.Serializer
import AkashicSystem.Js.Computation

/-!
# Serializing and reading back

Each serializer function writes one fixed layout (`layout`), a word list behind
the type byte, and each deserializer function reads that layout back.  For a
frame whose fields fit their widths the two compose to the identity; an empty
accept payload is read back as an absent one.
-/

set_option autoImplicit false

namespace AkashicSystem.Amtp

open AkashicSystem.Js AkashicSystem.Js.Buffer List
open ControlFrame (accept channel closePipe deny pipe)

def fitsLabel (label : String) : Prop := (Utf8.encode label).length ≤ 64

instance (label : String) : Decidable (fitsLabel label) :=
  inferInstanceAs (Decidable ((Utf8.encode label).length ≤ 64))

/-- The widths of the specification: 32-bit control ids, 31-bit channel and pipe
ids, and a label of at most 64 bytes. -/
def ControlFrame.Widths : ControlFrame → Prop
  | .accept id _ => id ≤ 0xffffffff
  | .deny id => id ≤ 0xffffffff
  | .open id random protocolVersion protocolIdentifier =>
    id ≤ 0xffffffff ∧ random ≤ 0xffffffff ∧ protocolVersion ≤ 0xff ∧
      protocolIdentifier ≤ 0xffffffff
  | .channel id _ channelId label => id ≤ 0xffffffff ∧ channelId ≤ 0x7fffffff ∧ fitsLabel label
  | .pipe id _ _ channelId pipeId label =>
    id ≤ 0xffffffff ∧ channelId ≤ 0x7fffffff ∧ pipeId ≤ 0x7fffffff ∧ fitsLabel label
  | .close id => id ≤ 0xffffffff
  | .closeChannel id channelId => id ≤ 0xffffffff ∧ channelId ≤ 0x7fffffff
  | .closePipe id _ channelId pipeId =>
    id ≤ 0xffffffff ∧ channelId ≤ 0x7fffffff ∧ pipeId ≤ 0x7fffffff
  | .other type id => id ≤ 0xffffffff ∧ (type = 0 ∨ 8 < type) ∧ type ≤ 0x7f

structure ControlFrame.Fits (frame : ControlFrame) : Prop where
  pos : 0 < frame.id
  widths : frame.Widths

/-- The field is there exactly when its flag says so, and within its width. -/
def fitsField (present : Bool) (limit : Nat) (field : Option Nat) : Prop :=
  (field.isSome ↔ present) ∧ ∀ value ∈ field, value ≤ limit

structure DataFrame.Fits (f : DataFrame) : Prop where
  channelId : fitsField (!f.primaryChannel) 0x7fffffff f.channelId
  pipeId : fitsField (!f.primaryPipe) 0x7fffffff f.pipeId
  requestId : fitsField f.request 0xffffffff f.requestId

def Frame.Fits : Frame → Prop
  | .control frame => frame.Fits
  | .data frame => frame.Fits

def ControlFrame.identifyEmpty : ControlFrame → ControlFrame
  | .accept id (some []) => .accept id none
  | frame => frame

def Frame.identifyEmpty : Frame → Frame
  | .control frame => .control frame.identifyEmpty
  | .data frame => .data frame

namespace Serializer

def tagged (flag : Bool) (value : Nat) : Nat := if flag then value + 0x80000000 else value

variable (value : Nat)

@[simp] theorem tagged_false : tagged false value = value := rfl

@[simp] theorem tagged_true : tagged true value = value + 0x80000000 := rfl

theorem tagged_le (flag : Bool) (value : Nat) (h : value ≤ 0x7fffffff) :
    tagged flag value ≤ 0xffffffff := by
  cases flag
  · rw [tagged_false]
    omega
  · rw [tagged_true]
    omega

theorem low31_tagged (flag : Bool) (value : Nat) (h : value ≤ 0x7fffffff) :
    low31 (tagged flag value) = value := by
  rw [low31_eq]
  cases flag
  · rw [tagged_false]
    omega
  · rw [tagged_true]
    omega

theorem low7_toNat (b : UInt8) : (b &&& 0x7f).toNat = b.toNat % 128 := by
  rw [UInt8.toNat_and]
  exact Nat.and_two_pow_sub_one_eq_mod b.toNat 7

theorem toNat_or_top (b : UInt8) (h : b.toNat < 128) : (b ||| 0x80).toNat = b.toNat + 128 := by
  have or := Nat.two_pow_add_eq_or_of_lt (i := 7) (b := b.toNat) h 1
  have top : UInt8.toNat 0x80 = 2 ^ 7 * 1 := rfl
  rw [UInt8.toNat_or, Nat.or_comm, top, ← or]
  omega

theorem toNat_and_top (b : UInt8) : (b &&& 0x80).toNat = b.toNat / 128 * 128 := by
  have bound := b.toNat_lt
  have split := Nat.and_two_pow_sub_one_eq_mod b.toNat 7
  rw [UInt8.toNat_and]
  have bit := Nat.and_two_pow b.toNat 7
  rw [show (UInt8.toNat 0x80) = 2 ^ 7 from rfl, bit, Nat.testBit_eq_decide_div_mod_eq]
  by_cases top : b.toNat / 2 ^ 7 % 2 = 1
  · simp only [top, decide_true, Bool.toNat_true]
    omega
  · simp only [top, decide_false, Bool.toNat_false]
    omega

theorem and_top_ne_zero (b : UInt8) : (b &&& 0x80 != 0) = decide (128 ≤ b.toNat) := by
  have bound := b.toNat_lt
  have value := toNat_and_top b
  by_cases top : 128 ≤ b.toNat
  · have ne : b &&& 0x80 ≠ 0 := by
      intro zero
      rw [zero] at value
      have : UInt8.toNat 0 = 0 := rfl
      omega
    simp only [bne_iff_ne, ne, ne_eq, not_false_eq_true, top, decide_true]
  · have eq : b &&& 0x80 = 0 := by
      apply UInt8.toNat_inj.mp
      have : UInt8.toNat 0 = 0 := rfl
      omega
    simp only [eq, bne_self_eq_false, top, decide_false]

theorem tagged_byte0 (h : value ≤ 0x7fffffff) :
    UInt8.ofNat ((value + 0x80000000) / 0x1000000) = UInt8.ofNat (value / 0x1000000) ||| 0x80 := by
  apply UInt8.toNat_inj.mp
  have small : (UInt8.ofNat (value / 0x1000000)).toNat = value / 0x1000000 := by
    rw [UInt8.toNat_ofNat']
    omega
  rw [toNat_or_top _ (by omega), small, UInt8.toNat_ofNat']
  omega

theorem tagged_byte1 :
    UInt8.ofNat ((value + 0x80000000) / 0x10000) = UInt8.ofNat (value / 0x10000) :=
  ofNat_of_toNat_mod _ _ (by rw [UInt8.toNat_ofNat']; omega)

theorem tagged_byte2 :
    UInt8.ofNat ((value + 0x80000000) / 0x100) = UInt8.ofNat (value / 0x100) :=
  ofNat_of_toNat_mod _ _ (by rw [UInt8.toNat_ofNat']; omega)

theorem tagged_flag (flag : Bool) (value : Nat) (h : value ≤ 0x7fffffff) :
    (UInt8.ofNat (tagged flag value / 0x1000000) &&& 0x80 != 0) = flag := by
  rw [and_top_ne_zero, UInt8.toNat_ofNat']
  cases flag
  · rw [tagged_false]
    exact decide_eq_false (by omega)
  · rw [tagged_true]
    exact decide_eq_true (by omega)

@[simp] theorem assert_pass (message : String) : assert true message = .ok () := rfl

theorem assert_true (condition : Bool) (message : String) (h : condition = true) :
    assert condition message = .ok () := by rw [assert, if_pos h]

theorem writeUInt32BE_ok (buf : Buffer) (value offset : Nat) (small : value ≤ 0xffffffff)
    (room : offset + 4 ≤ buf.length) : writeUInt32BE buf value offset =
      .ok (buf.take offset ++ word value ++ buf.drop (offset + 4)) := by
  rw [writeUInt32BE, if_neg (by omega), if_neg (by omega)]

theorem appendLabel_ok (buf : Buffer) (label : String) (h : fitsLabel label) :
    appendLabel buf label = .ok (buf ++ Utf8.encode label) := by
  by_cases empty : label = ""
  · subst empty
    simp only [appendLabel, if_true, Utf8.encode_empty, append_nil]
    rfl
  · have checked : decide ((Utf8.encode label).length ≤ 64) = true := decide_eq_true h
    rw [appendLabel, if_neg empty]
    dsimp only
    rw [assert_true _ _ checked]
    rfl

def typeByte (type : Nat) : UInt8 := UInt8.ofNat (type ||| 0x80)

def fixed (first : UInt8) (words : List Nat) (tail : Buffer) : Buffer :=
  first :: (words.flatMap word ++ tail)

def layout : ControlFrame → Buffer
  | .accept id data => fixed (typeByte 0x1) [id] (data.getD [])
  | .deny id => fixed (typeByte 0x2) [id] []
  | .open id random protocolVersion protocolIdentifier =>
    fixed (typeByte 0x3) [id, protocolIdentifier] (UInt8.ofNat protocolVersion :: word random)
  | .channel id primary channelId label =>
    fixed (typeByte 0x4) [id, tagged primary channelId] (Utf8.encode label)
  | .pipe id primary request channelId pipeId label =>
    fixed (typeByte 0x5) [id, tagged primary channelId, tagged request pipeId] (Utf8.encode label)
  | .close id => fixed (typeByte 0x6) [id] []
  | .closeChannel id channelId => fixed (typeByte 0x7) [id, channelId] []
  | .closePipe id request channelId pipeId =>
    fixed (typeByte 0x8) [id, channelId, tagged request pipeId] []
  | .other type id => fixed (typeByte type) [id] []

theorem serializeControlFrame_fits (frame : ControlFrame) (fits : frame.Fits) :
    serializeControlFrame frame = .ok (layout frame) := by
  obtain ⟨pos, widths⟩ := fits
  have checked := assert_true _ "control frame id must be greater than 0" (decide_eq_true pos)
  rw [serializeControlFrame.eq_def, checked]
  cases frame with
  | accept id data =>
    have id32 : id ≤ 0xffffffff := widths
    cases data <;>
      simp [serializeAcceptControlFrame, writeUInt32BE_ok, allocTyped, alloc, id32, layout,
        typeByte, fixed, word, bind, Except.bind, pure, Except.pure]
  | deny id =>
    have id32 : id ≤ 0xffffffff := widths
    simp [ControlFrame.type, writeUInt32BE_ok, allocTyped, alloc, id32, layout, typeByte, fixed,
      word, bind, Except.bind]
  | «open» id random version identifier =>
    obtain ⟨id32, random32, version8, identifier32⟩ := widths
    simp [serializeOpenControlFrame, ControlFrame.type, random32, version8, identifier32,
      writeUInt32BE_ok, allocTyped, alloc, id32, layout, typeByte, fixed, word, bind, Except.bind]
  | channel id primary channelId label =>
    obtain ⟨id32, channel31, label64⟩ := widths
    have channel32 : channelId ≤ 0xffffffff := by omega
    cases primary <;>
      simp [serializeChannelControlFrame, ControlFrame.type, channel31, channel32,
        writeUInt32BE_ok, allocTyped, alloc, id32, setTopBit, byteAt, appendLabel_ok _ _ label64,
        layout, typeByte, fixed, tagged_byte0, tagged_byte1, tagged_byte2, word, bind,
        Except.bind]
  | pipe id primary request channelId pipeId label =>
    obtain ⟨id32, channel31, pipe31, label64⟩ := widths
    have channel32 : channelId ≤ 0xffffffff := by omega
    have pipe32 : pipeId ≤ 0xffffffff := by omega
    cases primary <;> cases request <;>
      simp [serializePipeControlFrame, ControlFrame.type, channel31, channel32, pipe31, pipe32,
        writeUInt32BE_ok, allocTyped, alloc, id32, setTopBit, byteAt, appendLabel_ok _ _ label64,
        layout, typeByte, fixed, tagged_byte0, tagged_byte1, tagged_byte2, word, bind,
        Except.bind]
  | close id =>
    have id32 : id ≤ 0xffffffff := widths
    simp [serializeCloseControlFrame, ControlFrame.type, writeUInt32BE_ok, allocTyped, alloc,
      id32, layout, typeByte, fixed, word, bind, Except.bind]
  | closeChannel id channelId =>
    obtain ⟨id32, channel31⟩ := widths
    have channel32 : channelId ≤ 0xffffffff := by omega
    simp [serializeCloseChannelControlFrame, ControlFrame.type, channel31, channel32,
      writeUInt32BE_ok, allocTyped, alloc, id32, layout, typeByte, fixed, word, bind, Except.bind]
  | closePipe id request channelId pipeId =>
    obtain ⟨id32, channel31, pipe31⟩ := widths
    have channel32 : channelId ≤ 0xffffffff := by omega
    have pipe32 : pipeId ≤ 0xffffffff := by omega
    cases request <;>
      simp [serializeClosePipeControlFrame, ControlFrame.type, channel31, channel32, pipe31,
        pipe32, writeUInt32BE_ok, allocTyped, alloc, id32, setTopBit, byteAt, layout, typeByte,
        fixed, tagged_byte0, tagged_byte1, tagged_byte2, word, bind, Except.bind, pure,
        Except.pure]
  | other type id =>
    obtain ⟨id32, -, -⟩ := widths
    simp [ControlFrame.type, writeUInt32BE_ok, allocTyped, alloc, id32, layout, typeByte, fixed,
      word, bind, Except.bind]

theorem getD_words (words : List Nat) (tail : Buffer) (i k : Nat) (inside : i < words.length)
    (byte : k < 4) :
    (words.flatMap word ++ tail).getD (4 * i + k) 0 = (word (words.getD i 0)).getD k 0 := by
  induction words generalizing i with
  | nil => exact absurd inside (Nat.not_lt_zero i)
  | cons value words ih =>
    rw [flatMap_cons, append_assoc]
    cases i with
    | zero =>
      rw [Nat.mul_zero, Nat.zero_add, getD_append _ _ _ _ (by rw [word_length]; omega)]
      rfl
    | succ i =>
      have there : i < words.length := Nat.lt_of_succ_lt_succ inside
      have skip : 4 * (i + 1) + k - (word value).length = 4 * i + k := by
        rw [word_length]
        omega
      rw [getD_append_right _ _ _ _ (by rw [word_length]; omega), skip, ih i there]
      rfl

section

variable (first : UInt8)
include first

variable (words : List Nat)

variable (tail : Buffer)

theorem fixed_length :
    (fixed first words tail).length = 1 + 4 * words.length + tail.length := by
  have words4 : (words.flatMap word).length = 4 * words.length := by
    induction words with
    | nil => rfl
    | cons value words ih =>
      rw [flatMap_cons, length_append, ih, word_length, length_cons]
      omega
  rw [fixed, length_cons, length_append, words4]
  omega

theorem readUInt32BE_fixed (i : Nat)
    (inside : i < words.length) (small : words.getD i 0 ≤ 0xffffffff) :
    readUInt32BE (fixed first words tail) (1 + 4 * i) = .ok (words.getD i 0) := by
  have byte : ∀ k < 4, (fixed first words tail).getD (1 + 4 * i + k) 0 =
      (word (words.getD i 0)).getD k 0 := by
    intro k bound
    have shift : 1 + 4 * i + k = 4 * i + k + 1 := by omega
    rw [fixed, shift, getD_cons_succ]
    exact getD_words words tail i k inside bound
  have room : ¬ (fixed first words tail).length < 1 + 4 * i + 4 := by
    rw [fixed_length]
    omega
  rw [readUInt32BE, if_neg room, byte 1 (by omega), byte 2 (by omega), byte 3 (by omega)]
  have byte0 := byte 0 (by omega)
  rw [Nat.add_zero] at byte0
  rw [byte0]
  exact congrArg Except.ok (wordOf_word _ small)

theorem byteAt_fixed (i : Nat) (inside : i < words.length) :
    byteAt (fixed first words tail) (1 + 4 * i) = UInt8.ofNat (words.getD i 0 / 0x1000000) := by
  have byte0 := getD_words words tail i 0 inside (by omega)
  rw [Nat.add_zero] at byte0
  rw [byteAt, fixed, Nat.add_comm, getD_cons_succ, byte0]
  rfl

theorem slice_fixed :
    (fixed first words tail).slice (1 + 4 * words.length) = tail := by
  have front := fixed_length first words []
  have whole : fixed first words tail = fixed first words [] ++ tail := by
    simp only [fixed, append_nil, cons_append]
  rw [slice, whole, ← Nat.add_zero (1 + 4 * words.length), ← length_nil (α := UInt8), ← front]
  exact drop_left

theorem label_tail (label : String) :
    (if 1 + 4 * words.length < (fixed first words (Utf8.encode label)).length then
      Utf8.decode ((fixed first words (Utf8.encode label)).slice (1 + 4 * words.length))
    else "") = label := by
  rw [slice_fixed, fixed_length]
  by_cases empty : Utf8.encode label = []
  · rw [empty, length_nil, if_neg (by omega), Utf8.encode_eq_nil label empty]
  · have pos := length_pos_of_ne_nil empty
    rw [if_pos (by omega), Utf8.decode_encode]

end

theorem type_of_byte (type : Nat) (h : type ≤ 0x7f) : (typeByte type &&& 0x7f).toNat = type := by
  have or := Nat.two_pow_add_eq_or_of_lt (i := 7) (b := type) (by omega) 1
  rw [low7_toNat, typeByte, UInt8.toNat_ofNat', Nat.or_comm,
    show (0x80 : Nat) = 2 ^ 7 * 1 from rfl, ← or]
  omega

section Layouts

variable (first : UInt8) (a b c : Nat) (words : List Nat) (tail : Buffer)

theorem read_first (h : a ≤ 0xffffffff) : readUInt32BE (fixed first (a :: words) tail) 1 = .ok a :=
  readUInt32BE_fixed first (a :: words) tail 0 (Nat.succ_pos _) h

theorem read_second (h : b ≤ 0xffffffff) :
    readUInt32BE (fixed first (a :: b :: words) tail) 5 = .ok b :=
  readUInt32BE_fixed first (a :: b :: words) tail 1 (by simp only [length_cons]; omega) h

theorem read_third (h : c ≤ 0xffffffff) :
    readUInt32BE (fixed first (a :: b :: c :: words) tail) 9 = .ok c :=
  readUInt32BE_fixed first (a :: b :: c :: words) tail 2
    (by simp only [length_cons]; omega) h

theorem flag_second (flag : Bool) (h : b ≤ 0x7fffffff) :
    (byteAt (fixed first (a :: tagged flag b :: words) tail) 5 &&& 0x80 != 0) = flag := by
  have byte := byteAt_fixed first (a :: tagged flag b :: words) tail 1
    (by simp only [length_cons]; omega)
  rw [show 5 = 1 + 4 * 1 from rfl, byte]
  exact tagged_flag flag b h

theorem flag_third (flag : Bool) (h : c ≤ 0x7fffffff) :
    (byteAt (fixed first (a :: b :: tagged flag c :: words) tail) 9 &&& 0x80 != 0) = flag := by
  have byte := byteAt_fixed first (a :: b :: tagged flag c :: words) tail 2
    (by simp only [length_cons]; omega)
  rw [show 9 = 1 + 4 * 2 from rfl, byte]
  exact tagged_flag flag c h

end Layouts

theorem byteAt_zero (first : UInt8) (words : List Nat) (tail : Buffer) :
    byteAt (fixed first words tail) 0 = first := rfl

theorem deserializeControlFrame_layout (frame : ControlFrame) (widths : frame.Widths) :
    deserializeControlFrame (layout frame) = .ok (ControlFrame.identifyEmpty frame) := by
  cases frame with
  | accept id data =>
    have id32 : id ≤ 0xffffffff := widths
    have type := type_of_byte 0x1 (by decide)
    have payload := slice_fixed (typeByte 0x1) [id] (data.getD [])
    rw [deserializeControlFrame, layout, byteAt_zero, type]
    change deserializeAcceptControlFrame (fixed (typeByte 0x1) [id] (data.getD [])) = _
    rw [deserializeAcceptControlFrame, read_first _ _ _ _ id32, fixed_length]
    rcases data with _ | _ | ⟨head, rest⟩
    · rfl
    · rfl
    · change Except.ok (accept id (if 5 < 5 + (rest.length + 1) then some _
        else none)) = _
      rw [if_pos (by omega)]
      exact congrArg (fun data => Except.ok (accept id (some data))) payload
  | deny id =>
    have id32 : id ≤ 0xffffffff := widths
    have type := type_of_byte 0x2 (by decide)
    rw [deserializeControlFrame, layout, byteAt_zero, type, read_first _ _ _ _ id32]
    rfl
  | «open» id random version identifier =>
    obtain ⟨id32, random32, version8, identifier32⟩ := widths
    have type := type_of_byte 0x3 (by decide)
    rw [deserializeControlFrame, layout, byteAt_zero, type]
    change deserializeOpenControlFrame (fixed (typeByte 0x3) [id, identifier]
      (UInt8.ofNat version :: word random)) = _
    have byte : byteAt (fixed (typeByte 0x3) [id, identifier]
        (UInt8.ofNat version :: word random)) 9 =
      UInt8.ofNat version := rfl
    have last : readUInt32BE (fixed (typeByte 0x3) [id, identifier]
        (UInt8.ofNat version :: word random)) 10 = .ok random :=
      congrArg Except.ok (wordOf_word random random32)
    rw [deserializeOpenControlFrame, read_first _ _ _ _ id32, read_second _ _ _ _ _ identifier32,
      byte, last, UInt8.toNat_ofNat', Nat.mod_eq_of_lt (by omega)]
    rfl
  | channel id primary channelId label =>
    obtain ⟨id32, channel31, label64⟩ := widths
    have type := type_of_byte 0x4 (by decide)
    have channel32 := tagged_le primary channelId channel31
    have name := label_tail (typeByte 0x4) [id, tagged primary channelId] label
    rw [deserializeControlFrame, layout, byteAt_zero, type]
    change deserializeChannelControlFrame
      (fixed (typeByte 0x4) [id, tagged primary channelId] (Utf8.encode label)) = _
    rw [deserializeChannelControlFrame, read_first _ _ _ _ id32,
      flag_second _ _ _ _ _ _ channel31, read_second _ _ _ _ _ channel32]
    change Except.ok (channel id primary (low31 (tagged primary channelId)) _) = _
    rw [low31_tagged primary channelId channel31]
    exact congrArg (fun label => Except.ok (channel id primary channelId label)) name
  | pipe id primary request channelId pipeId label =>
    obtain ⟨id32, channel31, pipe31, label64⟩ := widths
    have type := type_of_byte 0x5 (by decide)
    have channel32 := tagged_le primary channelId channel31
    have pipe32 := tagged_le request pipeId pipe31
    have name :=
      label_tail (typeByte 0x5) [id, tagged primary channelId, tagged request pipeId] label
    rw [deserializeControlFrame, layout, byteAt_zero, type]
    change deserializePipeControlFrame
      (fixed (typeByte 0x5) [id, tagged primary channelId, tagged request pipeId]
        (Utf8.encode label)) = _
    rw [deserializePipeControlFrame, read_first _ _ _ _ id32, flag_second _ _ _ _ _ _ channel31,
      read_second _ _ _ _ _ channel32, flag_third _ _ _ _ _ _ _ pipe31,
      read_third _ _ _ _ _ _ pipe32]
    change Except.ok (pipe id primary request (low31 (tagged primary channelId))
      (low31 (tagged request pipeId)) _) = _
    rw [low31_tagged primary channelId channel31, low31_tagged request pipeId pipe31]
    exact congrArg (fun label =>
      Except.ok (pipe id primary request channelId pipeId label)) name
  | close id =>
    have id32 : id ≤ 0xffffffff := widths
    have type := type_of_byte 0x6 (by decide)
    rw [deserializeControlFrame, layout, byteAt_zero, type]
    change deserializeCloseControlFrame (fixed (typeByte 0x6) [id] []) = _
    rw [deserializeCloseControlFrame, read_first _ _ _ _ id32]
    rfl
  | closeChannel id channelId =>
    obtain ⟨id32, channel31⟩ := widths
    have type := type_of_byte 0x7 (by decide)
    rw [deserializeControlFrame, layout, byteAt_zero, type]
    change deserializeCloseChannelControlFrame (fixed (typeByte 0x7) [id, channelId] []) = _
    rw [deserializeCloseChannelControlFrame, read_first _ _ _ _ id32,
      read_second _ _ _ _ _ (by omega)]
    exact congrArg (fun channelId => Except.ok (ControlFrame.closeChannel id channelId))
      (low31_of_lt channelId channel31)
  | closePipe id request channelId pipeId =>
    obtain ⟨id32, channel31, pipe31⟩ := widths
    have type := type_of_byte 0x8 (by decide)
    have pipe32 := tagged_le request pipeId pipe31
    rw [deserializeControlFrame, layout, byteAt_zero, type]
    change deserializeClosePipeControlFrame
      (fixed (typeByte 0x8) [id, channelId, tagged request pipeId] []) = _
    rw [deserializeClosePipeControlFrame, read_first _ _ _ _ id32,
      read_second _ _ _ _ _ (by omega), flag_third _ _ _ _ _ _ _ pipe31,
      read_third _ _ _ _ _ _ pipe32]
    change Except.ok (closePipe id request (low31 channelId)
      (low31 (tagged request pipeId))) = _
    rw [low31_of_lt channelId channel31, low31_tagged request pipeId pipe31]
    rfl
  | other type id =>
    obtain ⟨id32, unassigned, type7⟩ := widths
    rw [deserializeControlFrame, layout, byteAt_zero, type_of_byte type type7]
    -- none of the assigned types is left for `other`
    split
    all_goals try omega
    rw [read_first _ _ _ _ id32]
    have unassigned : type ≠ 2 := by omega
    change Except.ok (if type = 2 then deny id else ControlFrame.other type id) = _
    rw [if_neg unassigned]
    rfl

def headerOf (primaryChannel primaryPipe request : Bool) : UInt8 :=
  (if primaryChannel then 0 else 0x40) ||| (if primaryPipe then 0 else 0x20) |||
    (if request then 0x10 else 0)

variable (f : DataFrame)

def dataHeader : UInt8 := headerOf f.primaryChannel f.primaryPipe f.request

def dataWords : List Nat :=
  f.channelId.toList ++ (f.pipeId.toList ++ f.requestId.toList)

def fieldsMatchFlags : Prop :=
  (f.channelId.isSome = !f.primaryChannel) ∧ (f.pipeId.isSome = !f.primaryPipe) ∧
    f.requestId.isSome = f.request

theorem serializeDataFrame_fits (fits : f.Fits) :
    serializeDataFrame f = .ok (fixed (dataHeader f) (dataWords f) f.payload) := by
  obtain ⟨⟨channelSome, channel31⟩, ⟨pipeSome, pipe31⟩, ⟨requestSome, request32⟩⟩ := fits
  have channel32 : ∀ value ∈ f.channelId, value ≤ 0xffffffff :=
    fun value there => (channel31 value there).trans (by decide)
  have pipe32 : ∀ value ∈ f.pipeId, value ≤ 0xffffffff :=
    fun value there => (pipe31 value there).trans (by decide)
  rcases f with ⟨_ | _, _ | _, _ | _, _ | channel, _ | pipe, _ | request, payload⟩ <;>
    simp at channelSome pipeSome requestSome channel31 pipe31 request32 channel32 pipe32 <;>
    simp [serializeDataFrame, writeField, writeUInt32BE_ok, channel31, pipe31, request32,
      channel32, pipe32, dataHeader, headerOf, dataWords, fixed, alloc, word, bind, Except.bind,
      pure, Except.pure]

theorem deserializeDataFrame_fixed (first : UInt8) (f : DataFrame)
    (channelFlag : (first &&& 0x40 != 0x40) = f.primaryChannel)
    (pipeFlag : (first &&& 0x20 != 0x20) = f.primaryPipe)
    (requestFlag : (first &&& 0x10 == 0x10) = f.request)
    (fields : fieldsMatchFlags f) (words32 : ∀ value ∈ dataWords f, value ≤ 0xffffffff) :
    deserializeDataFrame (fixed first (dataWords f) f.payload) = .ok f := by
  obtain ⟨channelSome, pipeSome, requestSome⟩ := fields
  have payload := slice_fixed first (dataWords f) f.payload
  rw [deserializeDataFrame, byteAt_zero, channelFlag, pipeFlag, requestFlag]
  rcases f with ⟨_ | _, _ | _, _ | _, _ | channel, _ | pipe, _ | request, payload⟩ <;>
    simp at channelSome pipeSome requestSome <;>
    simp [dataWords] at words32 payload <;>
    simp [dataWords, readField, read_first, read_second, read_third, words32, payload, bind,
      Except.bind, pure, Except.pure]

theorem dataHeader_flags : (dataHeader f &&& 0x80 == 0x80) = false ∧
      (dataHeader f &&& 0x40 != 0x40) = f.primaryChannel ∧
      (dataHeader f &&& 0x20 != 0x20) = f.primaryPipe ∧
      (dataHeader f &&& 0x10 == 0x10) = f.request := by
  have flags : ∀ a b c, (headerOf a b c &&& 0x80 == 0x80) = false ∧
      (headerOf a b c &&& 0x40 != 0x40) = a ∧ (headerOf a b c &&& 0x20 != 0x20) = b ∧
      (headerOf a b c &&& 0x10 == 0x10) = c := by decide
  exact flags f.primaryChannel f.primaryPipe f.request

theorem fields_of_fits (fits : f.Fits) : fieldsMatchFlags f := by
  obtain ⟨⟨channelSome, -⟩, ⟨pipeSome, -⟩, ⟨requestSome, -⟩⟩ := fits
  exact ⟨Bool.eq_iff_iff.mpr channelSome, Bool.eq_iff_iff.mpr pipeSome,
    Bool.eq_iff_iff.mpr requestSome⟩

theorem words32_of_fits (fits : f.Fits) :
    ∀ value ∈ dataWords f, value ≤ 0xffffffff := by
  obtain ⟨⟨-, channel31⟩, ⟨-, pipe31⟩, ⟨-, request32⟩⟩ := fits
  intro value there
  rw [dataWords, mem_append, mem_append, Option.mem_toList, Option.mem_toList,
    Option.mem_toList] at there
  rcases there with channel | pipe | request
  · exact (channel31 value channel).trans (by decide)
  · exact (pipe31 value pipe).trans (by decide)
  · exact request32 value request

theorem deserializeDataFrame_fits (fits : f.Fits) :
    deserializeDataFrame (fixed (dataHeader f) (dataWords f) f.payload) = .ok f := by
  obtain ⟨-, channelFlag, pipeFlag, requestFlag⟩ := dataHeader_flags f
  exact deserializeDataFrame_fixed (dataHeader f) f channelFlag pipeFlag requestFlag
    (fields_of_fits f fits) (words32_of_fits f fits)

theorem deserialize_control (buf : Buffer) (h : (byteAt buf 0 &&& 0x80 == 0x80) = true) :
    deserialize buf = (deserializeControlFrame buf).map Frame.control := by
  rw [deserialize, if_pos h]
  cases deserializeControlFrame buf <;> rfl

theorem deserialize_data (buf : Buffer) (h : (byteAt buf 0 &&& 0x80 == 0x80) = false) :
    deserialize buf = (deserializeDataFrame buf).map Frame.data := by
  rw [deserialize, h]
  cases deserializeDataFrame buf <;> rfl

theorem layout_flag (frame : ControlFrame) (widths : frame.Widths) :
    (byteAt (layout frame) 0 &&& 0x80 == 0x80) = true := by
  have type7 : frame.type ≤ 0x7f := by
    cases frame with
    | other type id => exact widths.2.2
    | _ =>
      simp only [ControlFrame.type]
      omega
  have first : byteAt (layout frame) 0 = typeByte frame.type := by cases frame <;> rfl
  have or := Nat.two_pow_add_eq_or_of_lt (i := 7) (b := frame.type) (by omega) 1
  rw [first, beq_iff_eq]
  apply UInt8.toNat_inj.mp
  rw [toNat_and_top, typeByte, UInt8.toNat_ofNat', Nat.or_comm,
    show (0x80 : Nat) = 2 ^ 7 * 1 from rfl, ← or]
  have top : UInt8.toNat 0x80 = 0x80 := rfl
  omega

theorem serialize_fits (frame : Frame) (fits : frame.Fits) :
    ∃ data, serialize frame = .ok data ∧ deserialize data = .ok frame.identifyEmpty := by
  cases frame with
  | control frame =>
    have written := serializeControlFrame_fits frame fits
    have read := deserializeControlFrame_layout frame fits.widths
    have flag := layout_flag frame fits.widths
    refine ⟨layout frame, written, ?_⟩
    rw [deserialize_control _ flag, read]
    rfl
  | data f =>
    have written := serializeDataFrame_fits f fits
    have read := deserializeDataFrame_fits f fits
    have flag :
        (byteAt (fixed (dataHeader f) (dataWords f) f.payload) 0 &&& 0x80 == 0x80) = false :=
      (dataHeader_flags f).1
    refine ⟨fixed (dataHeader f) (dataWords f) f.payload, written, ?_⟩
    rw [deserialize_data _ flag, read]
    rfl

/-- Whatever fits is read back as it was, with an absent and an empty accept
payload identified. -/
theorem deserialize_serialize (frame : Frame) (fits : frame.Fits) :
    (serialize frame >>= deserialize) = .ok frame.identifyEmpty := by
  obtain ⟨data, written, read⟩ := serialize_fits frame fits
  rw [written]
  exact read

theorem deserialize_serialize_pipe : (Frame.control (.pipe 7 true false 3 4 "p")).Fits ∧
      (serialize (.control (.pipe 7 true false 3 4 "p")) >>= deserialize) =
        .ok (.control (.pipe 7 true false 3 4 "p")) := by
  have fits : (pipe 7 true false 3 4 "p").Fits :=
    ⟨by decide, by decide, by decide, by decide, by decide⟩
  exact ⟨fits, deserialize_serialize (.control (.pipe 7 true false 3 4 "p")) fits⟩

end Serializer
end AkashicSystem.Amtp
