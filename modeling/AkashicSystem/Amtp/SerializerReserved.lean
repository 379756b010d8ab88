import AkashicSystem.Amtp.SerializerRoundTrip

/-!
# Reserved bits

The bits the specification marks `X`: the low four bits of a data frame's first
byte, the top bits of its channel and pipe id words, and the top bit of the
channel id word of `CloseChannel` and `ClosePipe`.  The control frame decoders
mask theirs; the data frame decoder takes the ids as they stand.
-/

set_option autoImplicit false

namespace AkashicSystem.Amtp.Serializer

open AkashicSystem.Js AkashicSystem.Js.Buffer List

variable (buf : Buffer)

def isControl : Bool := byteAt buf 0 &&& 0x80 == 0x80

def elidesChannel : Bool := byteAt buf 0 &&& 0x40 != 0x40

def elidesPipe : Bool := byteAt buf 0 &&& 0x20 != 0x20

def typeOf : Nat := (byteAt buf 0 &&& 0x7f).toNat

def pipeOffset : Nat := if elidesChannel buf then 1 else 5

def maskTop (i : Nat) : Buffer := buf.modify i (· &&& 0x7f)

def clearReserved : Buffer :=
  if isControl buf then
    if typeOf buf = 0x7 ∨ typeOf buf = 0x8 then maskTop buf 5 else buf
  else
    let masked := if elidesPipe buf then buf else maskTop buf (pipeOffset buf)
    let masked := if elidesChannel buf then masked else maskTop masked 1
    masked.modify 0 (· &&& 0xf0)

/-- The two buffers differ in reserved bits at most. -/
def SameUpToReserved (buf buf' : Buffer) : Prop := clearReserved buf = clearReserved buf'

def idBits : Bool × Bool :=
  if isControl buf then (false, false)
  else
    (!elidesChannel buf && byteAt buf 1 &&& 0x80 != 0,
      !elidesPipe buf && byteAt buf (pipeOffset buf) &&& 0x80 != 0)

def accepted : Bool := (deserialize buf).isOk

def labelTail (tail : Buffer) : Prop := Utf8.Valid tail ∧ tail.length ≤ 64

/-- What stands behind the fixed part: a valid label, or nothing in a frame of
fixed size. -/
def WellFormedTail : Prop :=
  isControl buf →
    match typeOf buf with
    | 0x1 => True
    | 0x3 => buf.length = 14
    | 0x4 => labelTail (buf.slice 9)
    | 0x5 => labelTail (buf.slice 13)
    | 0x7 => buf.length = 9
    | 0x8 => buf.length = 13
    | _ => buf.length = 5

/-- A control frame with an id, or a data frame that is there and has no
reserved bit set in its id words. -/
def Reserializable : Prop :=
  if isControl buf then readUInt32BE buf 1 ≠ .ok 0 else buf ≠ [] ∧ idBits buf = (false, false)

theorem words_of_bytes (n : Nat) (bytes : Buffer) (room : 4 * n ≤ bytes.length) :
    ∃ (words : List Nat) (tail : Buffer), words.length = n ∧ (∀ value ∈ words, value ≤ 0xffffffff) ∧
      bytes = words.flatMap word ++ tail := by
  induction n generalizing bytes with
  | zero => exact ⟨[], bytes, rfl, fun value there => (not_mem_nil there).elim, rfl⟩
  | succ n ih =>
    rcases bytes with _ | ⟨b0, _ | ⟨b1, _ | ⟨b2, _ | ⟨b3, rest⟩⟩⟩⟩ <;>
      simp only [length_cons, length_nil] at room
    all_goals try omega
    obtain ⟨words, tail, length, small, eq⟩ := ih rest (by omega)
    refine ⟨wordOf b0 b1 b2 b3 :: words, tail, by rw [length_cons, length], ?_, ?_⟩
    · intro value there
      rcases mem_cons.mp there with rfl | there
      · exact Nat.le_of_lt_succ (wordOf_lt b0 b1 b2 b3)
      · exact small value there
    · rw [flatMap_cons, word_wordOf, eq]
      rfl

theorem fixed_of_length (n : Nat) (room : 1 + 4 * n ≤ buf.length) :
    ∃ (words : List Nat) (tail : Buffer), words.length = n ∧ (∀ value ∈ words, value ≤ 0xffffffff) ∧
      buf = fixed (byteAt buf 0) words tail := by
  cases buf with
  | nil => exact absurd room (by simp only [length_nil]; omega)
  | cons first rest =>
    rw [length_cons] at room
    obtain ⟨words, tail, length, small, eq⟩ := words_of_bytes n rest (by omega)
    exact ⟨words, tail, length, small, congrArg (first :: ·) eq⟩

theorem word_low31 (value : Nat) : (word value).modify 0 (· &&& 0x7f) = word (low31 value) := by
  have byte0 : UInt8.ofNat (value / 0x1000000) &&& 0x7f =
      UInt8.ofNat (low31 value / 0x1000000) := by
    apply UInt8.toNat_inj.mp
    rw [low7_toNat, UInt8.toNat_ofNat', UInt8.toNat_ofNat', low31_eq]
    omega
  have byte1 : UInt8.ofNat (value / 0x10000) = UInt8.ofNat (low31 value / 0x10000) :=
    ofNat_of_toNat_mod _ _ (by rw [UInt8.toNat_ofNat', low31_eq]; omega)
  have byte2 : UInt8.ofNat (value / 0x100) = UInt8.ofNat (low31 value / 0x100) :=
    ofNat_of_toNat_mod _ _ (by rw [UInt8.toNat_ofNat', low31_eq]; omega)
  have byte3 : UInt8.ofNat value = UInt8.ofNat (low31 value) :=
    ofNat_of_toNat_mod _ _ (by rw [UInt8.toNat_ofNat', low31_eq]; omega)
  rw [word, word, ← byte0, ← byte1, ← byte2, ← byte3]
  rfl

theorem maskTop_words (words : List Nat) (tail : Buffer) (i : Nat) (inside : i < words.length) :
    (words.flatMap word ++ tail).modify (4 * i) (· &&& 0x7f) =
      (words.modify i low31).flatMap word ++ tail := by
  induction words generalizing i with
  | nil => exact absurd inside (Nat.not_lt_zero i)
  | cons value words ih =>
    have front : (word value).modify 0 (· &&& 0x7f) = word (low31 value) :=
      word_low31 value
    cases i with
    | zero =>
      rw [modify_zero_cons, flatMap_cons, flatMap_cons, ← front]
      rfl
    | succ i =>
      have rest := ih i (Nat.lt_of_succ_lt_succ inside)
      have skip : 4 * (i + 1) = 4 * i + 4 := by omega
      rw [modify_succ_cons, flatMap_cons, flatMap_cons, append_assoc,
        append_assoc, ← rest, skip]
      rfl

variable (first : UInt8)

theorem maskTop_fixed (words : List Nat) (tail : Buffer) (i : Nat)
    (inside : i < words.length) :
    maskTop (fixed first words tail) (1 + 4 * i) = fixed first (words.modify i low31) tail := by
  rw [maskTop, fixed, Nat.add_comm, modify_succ_cons, maskTop_words words tail i inside]
  rfl

theorem tagged_low31 (value : Nat) (small : value ≤ 0xffffffff) :
    tagged (decide (0x80000000 ≤ value)) (low31 value) = value := by
  rw [low31_eq]
  by_cases top : 0x80000000 ≤ value
  · rw [decide_eq_true top, tagged_true]
    omega
  · rw [decide_eq_false top, tagged_false]
    omega

theorem room_of_read (offset value : Nat) (h : readUInt32BE buf offset = .ok value) :
    offset + 4 ≤ buf.length := by
  rw [readUInt32BE] at h
  by_cases short : buf.length < offset + 4
  · rw [if_pos short] at h
    cases h
  · exact Nat.not_lt.mp short

theorem accepted_control (control : isControl buf = true) :
    accepted buf = true ↔ ∃ frame, deserializeControlFrame buf = .ok frame := by
  rw [accepted, deserialize_control buf control]
  cases deserializeControlFrame buf with
  | error e => exact ⟨fun h => (nomatch h), fun ⟨frame, h⟩ => (nomatch h)⟩
  | ok frame => exact ⟨fun _ => ⟨frame, rfl⟩, fun _ => rfl⟩

def wordCount (type : Nat) : Nat :=
  match type with
  | 0x3 => 2
  | 0x4 => 2
  | 0x5 => 3
  | 0x7 => 2
  | 0x8 => 3
  | _ => 1

theorem control_room (frame : ControlFrame)
    (h : deserializeControlFrame buf = .ok frame) :
    1 + 4 * wordCount (typeOf buf) ≤ buf.length := by
  rw [deserializeControlFrame, ← typeOf] at h
  generalize typeOf buf = type at h ⊢
  split at h
  · obtain ⟨id, -, h⟩ := bind_eq_ok.mp h
    obtain ⟨identifier, read, -⟩ := bind_eq_ok.mp h
    exact room_of_read buf 5 identifier read
  · obtain ⟨id, -, h⟩ := bind_eq_ok.mp h
    obtain ⟨channelId, read, -⟩ := bind_eq_ok.mp h
    exact room_of_read buf 5 channelId read
  · obtain ⟨id, -, h⟩ := bind_eq_ok.mp h
    obtain ⟨channelId, -, h⟩ := bind_eq_ok.mp h
    obtain ⟨pipeId, read, -⟩ := bind_eq_ok.mp h
    exact room_of_read buf 9 pipeId read
  · obtain ⟨id, -, h⟩ := bind_eq_ok.mp h
    obtain ⟨channelId, read, -⟩ := bind_eq_ok.mp h
    exact room_of_read buf 5 channelId read
  · obtain ⟨id, -, h⟩ := bind_eq_ok.mp h
    obtain ⟨channelId, -, h⟩ := bind_eq_ok.mp h
    obtain ⟨pipeId, read, -⟩ := bind_eq_ok.mp h
    exact room_of_read buf 9 pipeId read
  · obtain ⟨id, read, -⟩ := bind_eq_ok.mp h
    exact room_of_read buf 1 id read
  · obtain ⟨id, read, -⟩ := bind_eq_ok.mp h
    exact room_of_read buf 1 id read
  · obtain ⟨id, read, -⟩ := bind_eq_ok.mp h
    have one : wordCount type = 1 := by
      rw [wordCount.eq_def]
      split <;> first | rfl | contradiction
    rw [one]
    exact room_of_read buf 1 id read

theorem typeOf_fixed (words : List Nat) (tail : Buffer) :
    typeOf (fixed first words tail) = (first &&& 0x7f).toNat := rfl

theorem closeChannel_masked (id channelId : Nat) (tail : Buffer)
    (id32 : id ≤ 0xffffffff) (channel32 : channelId ≤ 0xffffffff) :
    deserializeCloseChannelControlFrame (fixed first [id, low31 channelId] tail) =
      deserializeCloseChannelControlFrame (fixed first [id, channelId] tail) := by
  have low := low31_le channelId
  rw [deserializeCloseChannelControlFrame, deserializeCloseChannelControlFrame,
    read_first _ _ _ _ id32, read_second _ _ _ _ _ (by omega), read_first _ _ _ _ id32,
    read_second _ _ _ _ _ channel32]
  exact congrArg (fun channelId => Except.ok (ControlFrame.closeChannel id channelId))
    (low31_of_lt _ low)

theorem closePipe_masked (id channelId pipeId : Nat) (tail : Buffer)
    (id32 : id ≤ 0xffffffff) (channel32 : channelId ≤ 0xffffffff) (pipe32 : pipeId ≤ 0xffffffff) :
    deserializeClosePipeControlFrame (fixed first [id, low31 channelId, pipeId] tail) =
      deserializeClosePipeControlFrame (fixed first [id, channelId, pipeId] tail) := by
  have low := low31_le channelId
  have flag : byteAt (fixed first [id, low31 channelId, pipeId] tail) 9 =
    byteAt (fixed first [id, channelId, pipeId] tail) 9 := rfl
  rw [deserializeClosePipeControlFrame, deserializeClosePipeControlFrame, flag,
    read_first _ _ _ _ id32, read_second _ _ _ _ _ (by omega), read_third _ _ _ _ _ _ pipe32,
    read_first _ _ _ _ id32, read_second _ _ _ _ _ channel32, read_third _ _ _ _ _ _ pipe32]
  change Except.ok (ControlFrame.closePipe id _ (low31 (low31 channelId)) _) = _
  rw [low31_of_lt _ low]
  rfl

theorem deserialize_clearReserved (control : isControl buf = true)
    (ok : accepted buf = true) : deserialize (clearReserved buf) = deserialize buf := by
  obtain ⟨frame, decoded⟩ := (accepted_control buf control).mp ok
  have room := control_room buf frame decoded
  obtain ⟨words, tail, count, small, eq⟩ := fixed_of_length buf (wordCount (typeOf buf)) room
  generalize byteAt buf 0 = first at eq
  subst eq
  rw [clearReserved, if_pos control]
  by_cases reserved : typeOf (fixed first words tail) = 0x7 ∨ typeOf (fixed first words tail) = 0x8
  · have second : 1 < words.length := by
      rcases reserved with type | type <;> rw [count, type] <;> decide
    have masked := maskTop_fixed first words tail 1 second
    rw [if_pos reserved, show 5 = 1 + 4 * 1 from rfl, masked,
      deserialize_control (fixed first (words.modify 1 low31) tail) control,
      deserialize_control (fixed first words tail) control, deserializeControlFrame,
      deserializeControlFrame, byteAt_zero, byteAt_zero]
    apply congrArg (Except.map Frame.control)
    rw [typeOf_fixed] at reserved count
    rcases reserved with type | type
    · rw [type] at count ⊢
      rcases words with _ | ⟨id, _ | ⟨channelId, _ | ⟨_, _⟩⟩⟩ <;>
        simp only [length_cons, length_nil, wordCount] at count
      all_goals try omega
      exact closeChannel_masked first id channelId tail (small id (by simp))
        (small channelId (by simp))
    · rw [type] at count ⊢
      rcases words with _ | ⟨id, _ | ⟨channelId, _ | ⟨pipeId, _ | ⟨_, _⟩⟩⟩⟩ <;>
        simp only [length_cons, length_nil, wordCount] at count
      all_goals try omega
      exact closePipe_masked first id channelId pipeId tail (small id (by simp))
        (small channelId (by simp)) (small pipeId (by simp))
  · rw [if_neg reserved]

theorem first_of_control (control : isControl buf = true) :
    byteAt buf 0 = typeByte (typeOf buf) := by
  have bound := (byteAt buf 0).toNat_lt
  have top := beq_iff_eq.mp control
  have value := toNat_and_top (byteAt buf 0)
  rw [top, show UInt8.toNat 0x80 = 0x80 from rfl] at value
  have or := Nat.two_pow_add_eq_or_of_lt (i := 7) (b := typeOf buf)
    (by rw [typeOf, low7_toNat]; omega) 1
  apply UInt8.toNat_inj.mp
  rw [typeByte, UInt8.toNat_ofNat', Nat.or_comm, show (0x80 : Nat) = 2 ^ 7 * 1 from rfl, ← or,
    typeOf, low7_toNat]
  omega

theorem encode_labelTail (tail : Buffer) (valid : labelTail tail) :
    Utf8.encode (Utf8.decode tail) = tail ∧ fitsLabel (Utf8.decode tail) := by
  have same : Utf8.encode (Utf8.decode tail) = tail := valid.1
  refine ⟨same, ?_⟩
  rw [fitsLabel, same]
  exact valid.2

theorem nil_of_length (words : List Nat) (tail : Buffer)
    (exactLength : (fixed first words tail).length = 1 + 4 * words.length) : tail = [] := by
  rw [fixed_length] at exactLength
  exact eq_nil_of_length_eq_zero (by omega)

/-- A control frame with a proper tail is, its reserved bits cleared, what the
serializer would lay out for some frame. -/
theorem control_layout (control : isControl buf = true) (ok : accepted buf = true)
    (wellFormed : WellFormedTail buf) :
    ∃ frame : ControlFrame, frame.Widths ∧ frame.identifyEmpty = frame ∧
      clearReserved buf = layout frame := by
  obtain ⟨frame, decoded⟩ := (accepted_control buf control).mp ok
  have room := control_room buf frame decoded
  have first := first_of_control buf control
  have wellFormed := wellFormed control
  obtain ⟨words, tail, count, small, eq⟩ := fixed_of_length buf (wordCount (typeOf buf)) room
  have type7 : typeOf buf < 128 := by
    rw [typeOf, low7_toNat]
    omega
  rw [first] at eq
  rw [clearReserved, if_pos control]
  generalize typeOf buf = type at *
  subst eq
  split at wellFormed
  · rcases words with _ | ⟨id, _ | ⟨_, _⟩⟩ <;>
      simp only [length_cons, length_nil, wordCount] at count
    all_goals try omega
    rw [if_neg (by decide)]
    have id32 := small id (by simp)
    cases tail with
    | nil => exact ⟨.accept id none, id32, rfl, rfl⟩
    | cons head rest => exact ⟨.accept id (some (head :: rest)), id32, rfl, rfl⟩
  · rcases words with _ | ⟨id, _ | ⟨identifier, _ | ⟨_, _⟩⟩⟩ <;>
      simp only [length_cons, length_nil, wordCount] at count
    all_goals try omega
    rw [fixed_length, length_cons, length_cons, length_nil] at wellFormed
    rcases tail with _ | ⟨version, _ | ⟨r0, _ | ⟨r1, _ | ⟨r2, _ | ⟨r3, _ | ⟨_, _⟩⟩⟩⟩⟩⟩ <;>
      simp only [length_cons, length_nil] at wellFormed
    all_goals try omega
    rw [if_neg (by decide)]
    have version8 := version.toNat_lt
    refine ⟨.open id (wordOf r0 r1 r2 r3) version.toNat identifier,
      ⟨small id (by simp), Nat.le_of_lt_succ (wordOf_lt r0 r1 r2 r3), by omega,
        small identifier (by simp)⟩, rfl, ?_⟩
    rw [layout, word_wordOf, UInt8.ofNat_toNat]
  · rcases words with _ | ⟨id, _ | ⟨channelId, _ | ⟨_, _⟩⟩⟩ <;>
      simp only [length_cons, length_nil, wordCount] at count
    all_goals try omega
    rw [if_neg (by decide)]
    have behind : (fixed (typeByte 0x4) [id, channelId] tail).slice 9 = tail := slice_fixed _ _ _
    rw [behind] at wellFormed
    obtain ⟨same, label64⟩ := encode_labelTail tail wellFormed
    refine ⟨.channel id (decide (0x80000000 ≤ channelId)) (low31 channelId) (Utf8.decode tail),
      ⟨small id (by simp), low31_le channelId, label64⟩, rfl, ?_⟩
    rw [layout, same, tagged_low31 channelId (small channelId (by simp))]
  · rcases words with _ | ⟨id, _ | ⟨channelId, _ | ⟨pipeId, _ | ⟨_, _⟩⟩⟩⟩ <;>
      simp only [length_cons, length_nil, wordCount] at count
    all_goals try omega
    rw [if_neg (by decide)]
    have behind : (fixed (typeByte 0x5) [id, channelId, pipeId] tail).slice 13 = tail :=
      slice_fixed _ _ _
    rw [behind] at wellFormed
    obtain ⟨same, label64⟩ := encode_labelTail tail wellFormed
    refine ⟨.pipe id (decide (0x80000000 ≤ channelId)) (decide (0x80000000 ≤ pipeId))
      (low31 channelId) (low31 pipeId) (Utf8.decode tail),
      ⟨small id (by simp), low31_le channelId, low31_le pipeId, label64⟩, rfl, ?_⟩
    rw [layout, same, tagged_low31 channelId (small channelId (by simp)),
      tagged_low31 pipeId (small pipeId (by simp))]
  · rcases words with _ | ⟨id, _ | ⟨channelId, _ | ⟨_, _⟩⟩⟩ <;>
      simp only [length_cons, length_nil, wordCount] at count
    all_goals try omega
    cases nil_of_length (typeByte 0x7) [id, channelId] tail wellFormed
    rw [if_pos (by decide)]
    refine ⟨.closeChannel id (low31 channelId), ⟨small id (by simp), low31_le channelId⟩, rfl, ?_⟩
    exact maskTop_fixed (typeByte 0x7) [id, channelId] [] 1 (Nat.lt_add_one 1)
  · rcases words with _ | ⟨id, _ | ⟨channelId, _ | ⟨pipeId, _ | ⟨_, _⟩⟩⟩⟩ <;>
      simp only [length_cons, length_nil, wordCount] at count
    all_goals try omega
    cases nil_of_length (typeByte 0x8) [id, channelId, pipeId] tail wellFormed
    rw [if_pos (by decide)]
    refine ⟨.closePipe id (decide (0x80000000 ≤ pipeId)) (low31 channelId) (low31 pipeId),
      ⟨small id (by simp), low31_le channelId, low31_le pipeId⟩, rfl, ?_⟩
    rw [layout, tagged_low31 pipeId (small pipeId (by simp))]
    exact maskTop_fixed (typeByte 0x8) [id, channelId, pipeId] [] 1
      (by simp only [length_cons]; omega)
  · rename_i not1 not3 not4 not5 not7 not8
    have one : wordCount type = 1 := by
      rw [wordCount.eq_def]
      split <;> first | rfl | contradiction
    rw [one] at count
    rcases words with _ | ⟨id, _ | ⟨_, _⟩⟩ <;>
      simp only [length_cons, length_nil] at count
    all_goals try omega
    cases nil_of_length (typeByte type) [id] tail wellFormed
    rw [if_neg fun reserved => reserved.elim not7 not8]
    have id32 := small id (by simp)
    by_cases deny : type = 0x2
    · subst deny
      exact ⟨.deny id, id32, rfl, rfl⟩
    · by_cases close : type = 0x6
      · subst close
        exact ⟨.close id, id32, rfl, rfl⟩
      · have others : type ≠ 1 ∧ type ≠ 3 ∧ type ≠ 4 ∧ type ≠ 5 ∧ type ≠ 7 ∧ type ≠ 8 :=
          ⟨not1, not3, not4, not5, not7, not8⟩
        exact ⟨.other type id, ⟨id32, by omega, by omega⟩, rfl, rfl⟩

theorem accepted_data (data : isControl buf = false) :
    accepted buf = true ↔ ∃ f, deserializeDataFrame buf = .ok f := by
  rw [accepted, deserialize_data buf data]
  cases deserializeDataFrame buf with
  | error e => exact ⟨fun h => (nomatch h), fun ⟨f, h⟩ => (nomatch h)⟩
  | ok f => exact ⟨fun _ => ⟨f, rfl⟩, fun _ => rfl⟩

def carriesRequest : Bool := byteAt buf 0 &&& 0x10 == 0x10

theorem room_of_readField (present : Bool) (buf : Buffer) (offset : Nat) (value : Option Nat)
    (h : readField present buf offset = .ok value) (there : present = true) :
    offset + 4 ≤ buf.length := by
  rw [readField, if_pos there] at h
  obtain ⟨word, read, -⟩ := bind_eq_ok.mp h
  exact room_of_read buf offset word read

variable (f : DataFrame)

theorem data_room (decoded : deserializeDataFrame buf = .ok f)
    (nonempty : buf ≠ []) :
    1 + 4 * ((!elidesChannel buf).toNat + (!elidesPipe buf).toNat + (carriesRequest buf).toNat) ≤
      buf.length := by
  have pos := length_pos_of_ne_nil nonempty
  rw [deserializeDataFrame, ← elidesChannel, ← elidesPipe, ← carriesRequest] at decoded
  obtain ⟨channelId, channelRead, decoded⟩ := bind_eq_ok.mp decoded
  obtain ⟨pipeId, pipeRead, decoded⟩ := bind_eq_ok.mp decoded
  obtain ⟨requestId, requestRead, -⟩ := bind_eq_ok.mp decoded
  have channelRoom := room_of_readField _ _ _ _ channelRead
  have pipeRoom := room_of_readField _ _ _ _ pipeRead
  have requestRoom := room_of_readField _ _ _ _ requestRead
  revert channelRoom pipeRoom requestRoom
  cases elidesChannel buf <;> cases elidesPipe buf <;> cases carriesRequest buf <;>
    simp only [Bool.not_true, Bool.not_false, Bool.toNat_true, Bool.toNat_false, if_true,
      Bool.false_eq_true, if_false, true_implies, false_implies] <;> omega

theorem data_frame (decoded : deserializeDataFrame buf = .ok f)
    (nonempty : buf ≠ []) :
    buf = fixed (byteAt buf 0) (dataWords f) f.payload ∧ fieldsMatchFlags f ∧
      (∀ value ∈ dataWords f, value ≤ 0xffffffff) ∧ elidesChannel buf = f.primaryChannel ∧
      elidesPipe buf = f.primaryPipe ∧ carriesRequest buf = f.request := by
  have room := data_room buf f decoded nonempty
  obtain ⟨words, tail, count, small, eq⟩ := fixed_of_length buf _ room
  -- the frame the words spell under the flags, which is the decoded one
  have spelled : ∃ g : DataFrame, dataWords g = words ∧ g.payload = tail ∧ fieldsMatchFlags g ∧
      elidesChannel buf = g.primaryChannel ∧ elidesPipe buf = g.primaryPipe ∧
      carriesRequest buf = g.request := by
    clear eq room decoded
    generalize elidesChannel buf = primaryChannel at *
    generalize elidesPipe buf = primaryPipe at *
    generalize carriesRequest buf = request at *
    let second := if primaryChannel then 0 else 1
    refine ⟨⟨primaryChannel, primaryPipe, request, if primaryChannel then none else words[0]?,
      if primaryPipe then none else words[second]?,
      if request then words[if primaryPipe then second else second + 1]? else none, tail⟩,
      ?_, rfl, ?_, rfl, rfl, rfl⟩
    all_goals
      rcases words with _ | ⟨a, _ | ⟨b, _ | ⟨c, _ | ⟨_, _⟩⟩⟩⟩ <;> cases primaryChannel <;>
        cases primaryPipe <;> cases request <;>
        simp [dataWords, fieldsMatchFlags, second] at count ⊢
  obtain ⟨g, rfl, rfl, fields, channelFlag, pipeFlag, requestFlag⟩ := spelled
  have read := deserializeDataFrame_fixed (byteAt buf 0) g channelFlag pipeFlag requestFlag fields
    small
  rw [← eq, decoded] at read
  cases read
  exact ⟨eq, fields, small, channelFlag, pipeFlag, requestFlag⟩

def masked : DataFrame :=
  { f with channelId := f.channelId.map low31, pipeId := f.pipeId.map low31 }

theorem clear_flags (data : (first &&& 0x80 == 0x80) = false) :
    first &&& 0xf0 = headerOf (first &&& 0x40 != 0x40) (first &&& 0x20 != 0x20)
      (first &&& 0x10 == 0x10) := by
  revert data
  rcases first with ⟨⟨first⟩⟩
  revert first
  decide +kernel

theorem mask_first (a : Nat) (words : List Nat) (tail : Buffer) :
    maskTop (fixed first (a :: words) tail) 1 = fixed first (low31 a :: words) tail :=
  maskTop_fixed first (a :: words) tail 0 (Nat.succ_pos _)

theorem mask_second (a b : Nat) (words : List Nat) (tail : Buffer) :
    maskTop (fixed first (a :: b :: words) tail) 5 = fixed first (a :: low31 b :: words) tail :=
  maskTop_fixed first (a :: b :: words) tail 1 (by simp only [length_cons]; omega)

theorem clearReserved_data (data : isControl buf = false)
    (decoded : deserializeDataFrame buf = .ok f) (nonempty : buf ≠ []) :
    clearReserved buf = fixed (dataHeader f) (dataWords (masked f)) f.payload := by
  obtain ⟨eq, ⟨channelSome, pipeSome, requestSome⟩, -, channelFlag, pipeFlag, requestFlag⟩ :=
    data_frame buf f decoded nonempty
  have header : byteAt buf 0 &&& 0xf0 = dataHeader f := by
    rw [clear_flags _ data, dataHeader, ← channelFlag, ← pipeFlag, ← requestFlag]
    rfl
  have first : ∀ words tail, (fixed (byteAt buf 0) words tail).modify 0 (· &&& 0xf0) =
      fixed (dataHeader f) words tail := by
    intro words tail
    rw [← header]
    rfl
  rw [clearReserved, data, pipeOffset, channelFlag, pipeFlag, eq]
  simp only [Bool.false_eq_true, if_false]
  clear eq channelFlag pipeFlag requestFlag decoded header
  generalize byteAt buf 0 = header at first ⊢
  rcases f with ⟨_ | _, _ | _, request, _ | channelId, _ | pipeId, requestId, payload⟩ <;>
    simp only [Option.isSome_none, Option.isSome_some, Bool.not_true, Bool.not_false,
      Bool.false_eq_true, reduceCtorEq] at channelSome pipeSome <;>
    simp only [dataWords, masked, Option.toList_none, Option.toList_some, Option.map_none,
      Option.map_some, nil_append, cons_append, Bool.false_eq_true, if_false, if_true,
      mask_first, mask_second, first]

def topBit (id : Option Nat) : Bool := id.any fun id => decide (0x80000000 ≤ id)

theorem top_of_word (value : Nat) (small : value ≤ 0xffffffff) :
    (UInt8.ofNat (value / 0x1000000) &&& 0x80 != 0) = decide (0x80000000 ≤ value) := by
  rw [and_top_ne_zero, UInt8.toNat_ofNat']
  exact decide_eq_decide.mpr (by omega)

theorem top_first (a : Nat) (words : List Nat) (tail : Buffer)
    (small : a ≤ 0xffffffff) :
    (byteAt (fixed first (a :: words) tail) 1 &&& 0x80 != 0) = decide (0x80000000 ≤ a) := by
  rw [← top_of_word a small]
  exact congrArg (fun byte => byte &&& 0x80 != 0)
    (byteAt_fixed first (a :: words) tail 0 (Nat.succ_pos _))

theorem top_second (a b : Nat) (words : List Nat) (tail : Buffer)
    (small : b ≤ 0xffffffff) :
    (byteAt (fixed first (a :: b :: words) tail) 5 &&& 0x80 != 0) = decide (0x80000000 ≤ b) := by
  rw [← top_of_word b small]
  exact congrArg (fun byte => byte &&& 0x80 != 0)
    (byteAt_fixed first (a :: b :: words) tail 1 (by simp only [length_cons]; omega))

theorem idBits_data (data : isControl buf = false)
    (decoded : deserializeDataFrame buf = .ok f) (nonempty : buf ≠ []) :
    idBits buf = (topBit f.channelId, topBit f.pipeId) := by
  obtain ⟨eq, ⟨channelSome, pipeSome, -⟩, small, channelFlag, pipeFlag, -⟩ :=
    data_frame buf f decoded nonempty
  rw [idBits, data, pipeOffset, channelFlag, pipeFlag, eq]
  clear eq channelFlag pipeFlag decoded
  generalize byteAt buf 0 = header
  rcases f with ⟨_ | _, _ | _, request, _ | channelId, _ | pipeId, requestId, payload⟩ <;>
    simp only [Option.isSome_none, Option.isSome_some, Bool.not_true, Bool.not_false,
      Bool.false_eq_true, reduceCtorEq] at channelSome pipeSome <;>
    simp [dataWords] at small <;>
    simp [dataWords, topBit, top_first, top_second, small]

theorem eq_iff_topBit (id id' : Option Nat) (small : ∀ value ∈ id, value ≤ 0xffffffff)
    (small' : ∀ value ∈ id', value ≤ 0xffffffff) (same : id.map low31 = id'.map low31) :
    id = id' ↔ topBit id = topBit id' := by
  constructor
  · exact congrArg topBit
  · intro bits
    rcases id with _ | value <;> rcases id' with _ | value'
    · rfl
    · cases same
    · cases same
    · have low : low31 value = low31 value' := Option.some.inj same
      have top : decide (0x80000000 ≤ value) = decide (0x80000000 ≤ value') := bits
      rw [← tagged_low31 value (small value rfl), ← tagged_low31 value' (small' value' rfl), low,
        top]

theorem assert_ok (condition : Bool) (message : String)
    (h : assert condition message = .ok ()) : condition = true := by
  cases condition with
  | true => rfl
  | false => cases h

theorem writeField_bound (primary : Bool) (header : Buffer) (id : Option Nat) (message : String)
    (offset : Nat) (buf : Buffer) (field : id.isSome = !primary)
    (written : writeField (!primary) header id 0x7fffffff message offset = .ok buf) :
    topBit id = false := by
  cases id with
  | none => rfl
  | some value =>
    cases primary with
    | true => cases field
    | false =>
      obtain ⟨⟨⟩, checked, -⟩ := bind_eq_ok.mp written
      have small : value ≤ 0x7fffffff := of_decide_eq_true (assert_ok _ _ checked)
      exact decide_eq_false (by omega)

theorem serializeDataFrame_ids (buf : Buffer) (fields : fieldsMatchFlags f)
    (written : serializeDataFrame f = .ok buf) :
    topBit f.channelId = false ∧ topBit f.pipeId = false := by
  obtain ⟨channelSome, pipeSome, -⟩ := fields
  rw [serializeDataFrame] at written
  obtain ⟨header, channelWritten, written⟩ := bind_eq_ok.mp written
  obtain ⟨header', pipeWritten, -⟩ := bind_eq_ok.mp written
  exact ⟨writeField_bound _ _ _ _ _ _ channelSome channelWritten,
    writeField_bound _ _ _ _ _ _ pipeSome pipeWritten⟩

theorem masked_id (id : Option Nat) (clear : topBit id = false) :
    (∀ value ∈ id, value ≤ 0x7fffffff) ∧ id.map low31 = id := by
  cases id with
  | none => exact ⟨fun value there => (nomatch there), rfl⟩
  | some value =>
    have small : value ≤ 0x7fffffff := by
      have := of_decide_eq_false clear
      omega
    refine ⟨fun other there => ?_, congrArg some (low31_of_lt value small)⟩
    cases there
    exact small

theorem fits_of_idBits (fields : fieldsMatchFlags f)
    (small : ∀ value ∈ dataWords f, value ≤ 0xffffffff) (channelClear : topBit f.channelId = false)
    (pipeClear : topBit f.pipeId = false) : f.Fits ∧ masked f = f := by
  obtain ⟨channelSome, pipeSome, requestSome⟩ := fields
  obtain ⟨channel31, channelSame⟩ := masked_id f.channelId channelClear
  obtain ⟨pipe31, pipeSame⟩ := masked_id f.pipeId pipeClear
  have request32 : ∀ value ∈ f.requestId, value ≤ 0xffffffff := by
    intro value there
    refine small value ?_
    rw [dataWords, mem_append, mem_append, Option.mem_toList, Option.mem_toList,
      Option.mem_toList]
    exact .inr (.inr there)
  refine ⟨⟨⟨Bool.eq_iff_iff.mp channelSome, channel31⟩, ⟨Bool.eq_iff_iff.mp pipeSome, pipe31⟩,
    ⟨Bool.eq_iff_iff.mp requestSome, request32⟩⟩, ?_⟩
  rw [masked, channelSame, pipeSame]

theorem modify_zero_byteAt (f : UInt8 → UInt8) (zero : f 0 = 0) :
    byteAt (buf.modify 0 f) 0 = f (byteAt buf 0) := by
  cases buf with
  | nil => exact zero.symm
  | cons head tail => rfl

theorem maskTop_byteAt_zero (i : Nat) (pos : 0 < i) :
    byteAt (maskTop buf i) 0 = byteAt buf 0 := by
  cases buf with
  | nil => 
    rw [maskTop, modify_nil]
  | cons head tail =>
    obtain ⟨i, rfl⟩ := Nat.exists_eq_succ_of_ne_zero (Nat.ne_of_gt pos)
    rfl

theorem isControl_clearReserved : isControl (clearReserved buf) = isControl buf := by
  have offset : 0 < pipeOffset buf := by
    rw [pipeOffset]
    split <;> decide
  rw [clearReserved]
  split
  · split
    · rw [isControl, maskTop_byteAt_zero buf 5 (by decide), isControl]
    · rfl
  · have top : ∀ byte : UInt8, byte &&& 0xf0 &&& 0x80 = byte &&& 0x80 := by
      intro byte
      rcases byte with ⟨⟨byte⟩⟩
      revert byte
      decide +kernel
    dsimp only
    rw [isControl, modify_zero_byteAt _ _ (by decide), top, isControl]
    split <;> split <;> simp only [maskTop_byteAt_zero, offset, Nat.one_pos]

theorem deserialize_same_control (buf buf' : Buffer) (control : isControl buf = true)
    (control' : isControl buf' = true) (ok : accepted buf) (ok' : accepted buf')
    (same : SameUpToReserved buf buf') : deserialize buf = deserialize buf' :=
  calc deserialize buf
      = deserialize (clearReserved buf) := (deserialize_clearReserved buf control ok).symm
    _ = deserialize (clearReserved buf') := congrArg deserialize same
    _ = deserialize buf' := deserialize_clearReserved buf' control' ok'

theorem deserialize_masked (fields : fieldsMatchFlags f)
    (small : ∀ value ∈ dataWords f, value ≤ 0xffffffff) :
    deserializeDataFrame (fixed (dataHeader f) (dataWords (masked f)) f.payload) =
      .ok (masked f) := by
  obtain ⟨channelSome, pipeSome, requestSome⟩ := fields
  obtain ⟨-, channelFlag, pipeFlag, requestFlag⟩ := dataHeader_flags f
  have fields : fieldsMatchFlags (masked f) :=
    ⟨(Option.isSome_map ..).trans channelSome, (Option.isSome_map ..).trans pipeSome, requestSome⟩
  refine deserializeDataFrame_fixed (dataHeader f) (masked f) channelFlag pipeFlag requestFlag
    fields ?_
  intro value there
  rw [dataWords, mem_append, mem_append, Option.mem_toList, Option.mem_toList,
    Option.mem_toList] at there
  rcases there with channel | pipe | request
  · obtain ⟨id, -, rfl⟩ := Option.mem_map.mp channel
    exact (low31_le id).trans (by decide)
  · obtain ⟨id, -, rfl⟩ := Option.mem_map.mp pipe
    exact (low31_le id).trans (by decide)
  · refine small value ?_
    rw [dataWords, mem_append, mem_append, Option.mem_toList, Option.mem_toList,
      Option.mem_toList]
    exact .inr (.inr request)

theorem clearReserved_eq_nil (cleared : clearReserved buf = []) : buf = [] := by
  have length : (clearReserved buf).length = buf.length := by
    rw [clearReserved]
    dsimp only
    split_ifs <;> simp only [maskTop, length_modify]
  rw [cleared] at length
  exact eq_nil_of_length_eq_zero length.symm

theorem deserialize_same_data (buf buf' : Buffer) (data : isControl buf = false)
    (data' : isControl buf' = false) (ok : accepted buf) (ok' : accepted buf')
    (same : SameUpToReserved buf buf') :
    deserialize buf = deserialize buf' ↔ idBits buf = idBits buf' := by
  by_cases empty : buf = []
  · have empty' : buf' = [] := by
      apply clearReserved_eq_nil
      rw [← same, empty]
      rfl
    rw [empty, empty']
    exact ⟨fun _ => rfl, fun _ => rfl⟩
  · have nonempty' : buf' ≠ [] := by
      intro empty'
      apply empty
      apply clearReserved_eq_nil
      rw [same, empty']
      rfl
    obtain ⟨f, decoded⟩ := (accepted_data buf data).mp ok
    obtain ⟨f', decoded'⟩ := (accepted_data buf' data').mp ok'
    obtain ⟨-, fields, small, -⟩ := data_frame buf f decoded empty
    obtain ⟨-, fields', small', -⟩ := data_frame buf' f' decoded' nonempty'
    have frames : masked f = masked f' := by
      have cleared := deserialize_masked f fields small
      rw [← clearReserved_data buf f data decoded empty, same,
        clearReserved_data buf' f' data' decoded' nonempty', deserialize_masked f' fields' small']
        at cleared
      exact (Except.ok.inj cleared).symm
    have channelWords : ∀ g : DataFrame, ∀ value ∈ g.channelId, value ∈ dataWords g :=
      fun g value there => mem_append_left _ (Option.mem_toList.mpr there)
    have pipeWords (g : DataFrame) : ∀ value ∈ g.pipeId, value ∈ dataWords g := fun value there =>
      mem_append_right _ (mem_append_left _ (Option.mem_toList.mpr there))
    have channel := eq_iff_topBit f.channelId f'.channelId
      (fun value there => small value (channelWords f value there))
      (fun value there => small' value (channelWords f' value there))
      (congrArg DataFrame.channelId frames)
    have pipe := eq_iff_topBit f.pipeId f'.pipeId
      (fun value there => small value (pipeWords f value there))
      (fun value there => small' value (pipeWords f' value there))
      (congrArg DataFrame.pipeId frames)
    have frame : f = f' ↔ f.channelId = f'.channelId ∧ f.pipeId = f'.pipeId := by
      constructor
      · rintro rfl
        exact ⟨rfl, rfl⟩
      · rintro ⟨channelEq, pipeEq⟩
        rcases f with ⟨p, q, r, c, i, t, payload⟩
        rcases f' with ⟨p', q', r', c', i', t', payload'⟩
        simp only [masked, DataFrame.mk.injEq] at frames channelEq pipeEq
        simp only [DataFrame.mk.injEq]
        exact ⟨frames.1, frames.2.1, frames.2.2.1, channelEq, pipeEq, frames.2.2.2.2.2⟩
    rw [deserialize_data buf data, deserialize_data buf' data', decoded, decoded',
      idBits_data buf f data decoded empty, idBits_data buf' f' data' decoded' nonempty',
      Prod.mk.injEq, ← channel, ← pipe, ← frame]
    exact ⟨fun h => Frame.data.inj (Except.ok.inj h), fun h => by rw [h]⟩

theorem read_layout (frame : ControlFrame) (widths : frame.Widths) :
    readUInt32BE (layout frame) 1 = .ok frame.id := by
  cases frame with
  | accept id data | deny id | close id => exact read_first _ _ _ _ widths
  | _ => exact read_first _ _ _ _ widths.1

theorem read_clearReserved (control : isControl buf = true) :
    readUInt32BE (clearReserved buf) 1 = readUInt32BE buf 1 := by
  have masked : readUInt32BE (maskTop buf 5) 1 = readUInt32BE buf 1 := by
    have same : ∀ i, i ≠ 5 → (maskTop buf 5).getD i 0 = buf.getD i 0 := by
      intro i other
      rw [maskTop, List.getD_eq_getElem?_getD, List.getElem?_modify, List.getD_eq_getElem?_getD]
      simp only [other.symm, if_false]
      exact congrArg (·.getD 0) (id_map buf[i]?)
    rw [readUInt32BE, readUInt32BE, same 1 (by decide), same 2 (by decide), same 3 (by decide),
      same 4 (by decide), maskTop, length_modify]
  rw [clearReserved, if_pos control]
  split
  · exact masked
  · rfl

theorem reserialize_control (control : isControl buf = true) (ok : accepted buf)
    (wellFormed : WellFormedTail buf) : (deserialize buf >>= serialize) = .ok (clearReserved buf) ↔
      readUInt32BE buf 1 ≠ .ok 0 := by
  obtain ⟨frame, widths, identified, cleared⟩ := control_layout buf control ok wellFormed
  have decoded : deserialize buf = .ok (.control frame) := by
    rw [← deserialize_clearReserved buf control ok, cleared,
      deserialize_control _ (layout_flag frame widths), deserializeControlFrame_layout frame widths,
      identified]
    rfl
  have id : readUInt32BE buf 1 = .ok frame.id := by
    rw [← read_clearReserved buf control, cleared]
    exact read_layout frame widths
  rw [decoded, id]
  change serializeControlFrame frame = .ok (clearReserved buf) ↔ _
  by_cases zero : frame.id = 0
  · rw [zero]
    refine ⟨fun written => ?_, fun nonzero => absurd rfl nonzero⟩
    rw [serializeControlFrame.eq_def, zero] at written
    cases written
  · have written := serializeControlFrame_fits frame ⟨Nat.pos_of_ne_zero zero, widths⟩
    rw [written, cleared]
    exact ⟨fun _ eq => zero (Except.ok.inj eq), fun _ => rfl⟩

theorem reserialize_data (data : isControl buf = false) (ok : accepted buf) :
    (deserialize buf >>= serialize) = .ok (clearReserved buf) ↔
      buf ≠ [] ∧ idBits buf = (false, false) := by
  by_cases empty : buf = []
  · subst empty
    refine ⟨fun written => ?_, fun ⟨nonempty, _⟩ => absurd rfl nonempty⟩
    cases written
  · obtain ⟨f, decoded⟩ := (accepted_data buf data).mp ok
    obtain ⟨-, fields, small, -⟩ := data_frame buf f decoded empty
    rw [deserialize_data buf data, decoded, idBits_data buf f data decoded empty, Prod.mk.injEq]
    change serializeDataFrame f = .ok (clearReserved buf) ↔ _
    constructor
    · exact fun written => ⟨empty, serializeDataFrame_ids f _ fields written⟩
    · rintro ⟨-, channelClear, pipeClear⟩
      obtain ⟨fits, same⟩ := fits_of_idBits f fields small channelClear pipeClear
      rw [serializeDataFrame_fits f fits, clearReserved_data buf f data decoded empty, same]

/-- Buffers that differ in reserved bits only decode to one frame exactly when
the top bits of the id words of a data frame agree; and the decoded frame is
written back as the cleared buffer exactly when these bits are clear and the
frame has an id, or a first byte. -/
theorem reserved_ignored_iff (buf buf' : Buffer) (ok : accepted buf) (ok' : accepted buf')
    (same : SameUpToReserved buf buf') :
    (deserialize buf = deserialize buf' ↔ idBits buf = idBits buf') ∧ (WellFormedTail buf →
        ((deserialize buf >>= serialize) = .ok (clearReserved buf) ↔ Reserializable buf)) := by
  have kind : isControl buf = isControl buf' := by
    rw [← isControl_clearReserved buf, same, isControl_clearReserved buf']
  cases control : isControl buf with
  | true =>
    have control' := kind.symm.trans control
    have equal := deserialize_same_control buf buf' control control' ok ok' same
    have bits : idBits buf = idBits buf' := by
      rw [idBits, idBits, if_pos control, if_pos control']
    refine ⟨⟨fun _ => bits, fun _ => equal⟩, fun wellFormed => ?_⟩
    rw [Reserializable, if_pos control]
    exact reserialize_control buf control ok wellFormed
  | false =>
    have data' := kind.symm.trans control
    refine ⟨deserialize_same_data buf buf' control data' ok ok' same, fun _ => ?_⟩
    rw [Reserializable, control]
    exact reserialize_data buf control ok

/-- A data frame on channel 1 and the same with the reserved top bit set. -/
theorem reserved_ignored_iff_data :
    ¬ deserialize [0x40, 0, 0, 0, 1, 7] = deserialize [0x40, 0x80, 0, 0, 1, 7] ∧
      (deserialize [0x40, 0, 0, 0, 1, 7] >>= serialize) =
        .ok (clearReserved [0x40, 0, 0, 0, 1, 7]) := by
  have iffs := reserved_ignored_iff [0x40, 0, 0, 0, 1, 7] [0x40, 0x80, 0, 0, 1, 7] (by decide)
    (by decide) (by unfold SameUpToReserved; decide)
  refine ⟨fun equal => ?_, (iffs.2 fun control => ?_).mpr ?_⟩
  · exact absurd (iffs.1.mp equal) (by decide)
  · cases control
  · exact ⟨by decide, by decide⟩

/-- The reserved top bit of the channel id word shows in the decoded frame. -/
theorem reserved_not_ignored :
    ¬ ∀ buf buf' : Buffer, accepted buf → accepted buf' → SameUpToReserved buf buf' →
      deserialize buf = deserialize buf' ∧
        (WellFormedTail buf → (deserialize buf >>= serialize) = .ok (clearReserved buf)) := by
  intro ignored
  have equal := (ignored [0x40, 0, 0, 0, 1, 7] [0x40, 0x80, 0, 0, 1, 7] (by decide) (by decide)
    (by unfold SameUpToReserved; decide)).1
  exact absurd equal (by decide)

end AkashicSystem.Amtp.Serializer
