import AkashicSystem.Playlog.ShortMsgpack

/-!
# The messages of AMFlow

A message is sent as the array of its opcode and its fields, and is made again of
what is received; `undefined` is sent as `null`.  A `GetStartPointByTimestampRequest`
has the opcode of a `GetStartPointRequest`, and is known by its options.
-/

set_option autoImplicit false

namespace AkashicSystem.AmflowMessage

open AkashicSystem.Js Playlog.ShortMsgpack
open AkashicSystem.Playlog (Msgpack hasLength)

inductive Opcode where
  | «open»
  | authenticate
  | close
  | getTickList
  | putStartPoint
  | getStartPoint
  | putStorageData
  | getStorageData

def Opcode.value : Opcode → Int
  | .open => 0x1
  | .authenticate => 0x2
  | .close => 0x3
  | .getTickList => 0x4
  | .putStartPoint => 0x5
  | .getStartPoint => 0x6
  | .putStorageData => 0x7
  | .getStorageData => 0x8

/-- The opcode whose class makes a message of a packet; for any other one an error is thrown. -/
def opcodeOf : Option Value → Option Opcode
  | some (.number code) =>
    [.open, .authenticate, .close, .getTickList, .putStartPoint, .getStartPoint,
      .putStorageData, .getStorageData].find? fun opcode => opcode.value = code
  | _ => none

def written (packet : List (Option Value)) : List Value := packet.map fun place => place.getD .null

variable (msgpack : Msgpack)

def encodePacket (packet : List (Option Value)) : List UInt8 :=
  msgpack.encode (some (.array (written packet)))

/-- `undefined` and `null` are the same. -/
def nulled (place : Option Value) : Option Value := some (place.getD .null)

inductive Request where
  | «open» (playId : Option Value)
  | authenticate (token : Option Value)
  | close
  | getTickList (start «end» excludeEventFlags : Option Value)
  | putStartPoint (startPoint : Option Value)
  | getStartPoint (opts : Option Value)
  | getStartPointByTimestamp (opts : Option Value)
  | putStorageData (key value opts : Option Value)
  | getStorageData (keys : Option Value)

namespace Request

def code : Request → Opcode
  | .open _ => .open
  | .authenticate _ => .authenticate
  | .close => .close
  | .getTickList _ _ _ => .getTickList
  | .putStartPoint _ => .putStartPoint
  | .getStartPoint _ => .getStartPoint
  | .getStartPointByTimestamp _ => .getStartPoint
  | .putStorageData _ _ _ => .putStorageData
  | .getStorageData _ => .getStorageData

variable (request : Request)

def toPacket : List (Option Value) :=
  some (.number request.code.value) :: match request with
    | .open playId => [playId]
    | .authenticate token => [token]
    | .close => []
    | .getTickList start «end» excludeEventFlags => [start, «end», excludeEventFlags]
    | .putStartPoint startPoint => [startPoint]
    | .getStartPoint opts => [opts]
    | .getStartPointByTimestamp opts => [opts]
    | .putStorageData key value opts => [key, value, opts]
    | .getStorageData keys => [keys]

/-- A place that the packet does not have is `undefined`. -/
def fromPacket (packet : List Value) : Option Request :=
  match opcodeOf packet[0]? with
  | some .open => some (.open packet[1]?)
  | some .authenticate => some (.authenticate packet[1]?)
  | some .close => some .close
  | some .getTickList => some (.getTickList packet[1]? packet[2]? packet[3]?)
  | some .putStartPoint => some (.putStartPoint packet[1]?)
  | some .getStartPoint => some (.getStartPoint packet[1]?)
  | some .putStorageData => some (.putStorageData packet[1]? packet[2]? packet[3]?)
  | some .getStorageData => some (.getStorageData packet[1]?)
  | none => none

def encode : List UInt8 :=
  encodePacket msgpack request.toPacket

def decode (msgpack : Msgpack) (bytes : List UInt8) : Option Request :=
  match msgpack.decode bytes with
  | some (.array packet) => fromPacket packet
  | _ => none

/-- `"timestamp" in opts`. -/
def hasTimestamp (opts : Option Value) : Bool :=
  match opts with
  | some (.object fields) => (fields.lookup "timestamp").isSome
  | _ => false

/-- The request as it is taken: a start point is asked for by a timestamp if there is one. -/
def taken : Request → Request
  | .open playId => .open (nulled playId)
  | .authenticate token => .authenticate (nulled token)
  | .close => .close
  | .getTickList start «end» flags => .getTickList (nulled start) (nulled «end») (nulled flags)
  | .putStartPoint startPoint => .putStartPoint (nulled startPoint)
  | .getStartPoint opts | .getStartPointByTimestamp opts =>
    if hasTimestamp opts then .getStartPointByTimestamp (nulled opts)
    else .getStartPoint (nulled opts)
  | .putStorageData key value opts => .putStorageData (nulled key) (nulled value) (nulled opts)
  | .getStorageData keys => .getStorageData (nulled keys)

theorem hasTimestamp_nulled (opts : Option Value) :
    hasTimestamp (nulled opts) = hasTimestamp opts := by
  cases opts <;> rfl

theorem fromPacket_toPacket :
    ∃ request', fromPacket (written request.toPacket) = some request' ∧
      request'.code = request.code ∧ request'.taken = request.taken := by
  cases request with
  | getStartPoint opts | getStartPointByTimestamp opts =>
    refine ⟨.getStartPoint (nulled opts), rfl, rfl, ?_⟩
    rw [taken, taken, hasTimestamp_nulled]
    rfl
  | _ => exact ⟨_, rfl, rfl, rfl⟩

end Request

/-- The value of `x || null`. -/
structure OrNull where
  value : Value
  truthy : value.truthy = true ∨ value = .null

def OrNull.of (x : Option Value) : OrNull :=
  match x with
  | none => ⟨.null, .inr rfl⟩
  | some value =>
    if truthy : value.truthy = true then ⟨value, .inl truthy⟩ else ⟨.null, .inr rfl⟩

theorem OrNull.of_value (x : OrNull) : OrNull.of (some x.value) = x := by
  obtain ⟨value, truthy⟩ := x
  unfold OrNull.of
  dsimp only
  split
  · rfl
  · next falsy =>
    cases truthy.resolve_left falsy
    rfl

/-- `playlog.TickList`, with the places of its array. -/
structure TickPlaces where
  «from» : Option Value
  «to» : Option Value
  eventTicks : Option Value

inductive Response where
  | «open» (error : OrNull)
  | authenticate (error : Option Value) (permission : OrNull)
  | close (error : OrNull)
  | getTickList (error : Option Value) (tickList : Option TickPlaces)
  | putStartPoint (error : OrNull)
  | getStartPoint (error : Option Value) (startPoint : OrNull)
  | putStorageData (error : OrNull)
  | getStorageData (error : Option Value) (storageData : OrNull)

namespace Response

def code : Response → Opcode
  | .open _ => .open
  | .authenticate _ _ => .authenticate
  | .close _ => .close
  | .getTickList _ _ => .getTickList
  | .putStartPoint _ => .putStartPoint
  | .getStartPoint _ _ => .getStartPoint
  | .putStorageData _ => .putStorageData
  | .getStorageData _ _ => .getStorageData

variable (response : Response)

def toPacket : List (Option Value) :=
  some (.number response.code.value) :: match response with
    | .open error => [some error.value]
    | .authenticate error permission => [error, some permission.value]
    | .close error => [some error.value]
    | .getTickList error none => [error]
    | .getTickList error (some ⟨«from», «to», eventTicks⟩) =>
      if hasLength eventTicks then [error, «from», «to», eventTicks] else [error, «from», «to»]
    | .putStartPoint error => [some error.value]
    | .getStartPoint error startPoint => [error, some startPoint.value]
    | .putStorageData error => [some error.value]
    | .getStorageData error storageData => [error, some storageData.value]

def fromPacket (packet : List Value) : Option Response :=
  match opcodeOf packet[0]? with
  | some .open => some (.open (.of packet[1]?))
  | some .authenticate => some (.authenticate packet[1]? (.of packet[2]?))
  | some .close => some (.close (.of packet[1]?))
  | some .getTickList =>
    if packet.length = 2 then some (.getTickList packet[1]? none)
    else some (.getTickList packet[1]?
      (some ⟨packet[2]?, packet[3]?, packet[4]?.filter Value.truthy⟩))
  | some .putStartPoint => some (.putStartPoint (.of packet[1]?))
  | some .getStartPoint => some (.getStartPoint packet[1]? (.of packet[2]?))
  | some .putStorageData => some (.putStorageData (.of packet[1]?))
  | some .getStorageData => some (.getStorageData packet[1]? (.of packet[2]?))
  | none => none

def encode : List UInt8 :=
  encodePacket msgpack response.toPacket

def decode (msgpack : Msgpack) (bytes : List UInt8) : Option Response :=
  match msgpack.decode bytes with
  | some (.array packet) => fromPacket packet
  | _ => none

def someTicks : Option Value → Option Value
  | some (.array []) => none
  | some .null => none
  | eventTicks => eventTicks

def taken : Response → Response
  | .authenticate error permission => .authenticate (nulled error) permission
  | .getTickList error none => .getTickList (nulled error) none
  | .getTickList error (some ⟨«from», «to», eventTicks⟩) =>
    .getTickList (nulled error) (some ⟨nulled «from», nulled «to», someTicks eventTicks⟩)
  | .getStartPoint error startPoint => .getStartPoint (nulled error) startPoint
  | .getStorageData error storageData => .getStorageData (nulled error) storageData
  | response => response

/-- The ticks between the bounds of a tick list are a list, if there are any. -/
def Typed : Response → Prop
  | .getTickList _ (some ⟨_, _, some eventTicks⟩) =>
    eventTicks = .null ∨ ∃ ticks, eventTicks = .array ticks
  | _ => True

theorem someTicks_of_hasLength {eventTicks : Option Value}
    (typed : ∀ value, eventTicks = some value → value = .null ∨ ∃ ticks, value = .array ticks) :
    someTicks ((if hasLength eventTicks then eventTicks else none).filter Value.truthy) =
      someTicks eventTicks := by
  cases eventTicks with
  | none => rfl
  | some value =>
    rcases typed value rfl with rfl | ⟨ticks, rfl⟩
    · rfl
    · cases ticks with
      | nil => rfl
      | cons tick rest => rfl

theorem fromPacket_toPacket (typed : response.Typed) :
    ∃ response', fromPacket (written response.toPacket) = some response' ∧
      response'.code = response.code ∧ response'.taken = response.taken := by
  cases response with
  | «open» error | close error | putStartPoint error | putStorageData error =>
    refine ⟨_, rfl, rfl, ?_⟩
    simp [written, toPacket, OrNull.of_value]
  | authenticate error result | getStartPoint error result | getStorageData error result =>
    refine ⟨_, rfl, rfl, ?_⟩
    simp [written, toPacket, OrNull.of_value, taken, nulled]
  | getTickList error tickList =>
    cases tickList with
    | none => exact ⟨_, rfl, rfl, rfl⟩
    | some tickList =>
      obtain ⟨«from», «to», eventTicks⟩ := tickList
      have same := @someTicks_of_hasLength eventTicks (by
        rintro value rfl
        exact typed)
      refine ⟨.getTickList (nulled error) (some ⟨nulled «from», nulled «to»,
        (if hasLength eventTicks then eventTicks else none).filter Value.truthy⟩), ?_, rfl, ?_⟩
      · by_cases sent : hasLength eventTicks = true
        · obtain ⟨value, rfl⟩ : ∃ value, eventTicks = some value := by
            cases eventTicks with
            | none => cases sent
            | some value => exact ⟨value, rfl⟩
          simp only [toPacket, if_pos sent]
          rfl
        · simp only [toPacket, if_neg sent]
          rfl
      · rw [taken, taken, same]
        rfl

end Response

/-- What is received of a message is taken as the message is, where the packet is decoded from
what it is encoded to. -/
theorem messages_roundTrip :
    (∀ request : Request, msgpack.Carries (.array (written request.toPacket)) →
      ∃ request', Request.decode msgpack (request.encode msgpack) = some request' ∧
        request'.code = request.code ∧ request'.taken = request.taken) ∧
      ∀ response : Response, response.Typed → msgpack.Carries (.array (written response.toPacket)) →
        ∃ response', Response.decode msgpack (response.encode msgpack) = some response' ∧
          response'.code = response.code ∧ response'.taken = response.taken := by
  constructor
  · intro request carried
    obtain ⟨request', made, same⟩ := request.fromPacket_toPacket
    refine ⟨request', ?_, same⟩
    rw [Request.decode, Request.encode, encodePacket, carried]
    exact made
  · intro response typed carried
    obtain ⟨response', made, same⟩ := response.fromPacket_toPacket typed
    refine ⟨response', ?_, same⟩
    rw [Response.decode, Response.encode, encodePacket, carried]
    exact made

open AkashicSystem.Playlog (ShortMsgpack.Short ShortMsgpack.AllShort) in
/-- A request without its flags, and a response with an empty list of ticks. -/
theorem messages_roundTrip_short : (∃ request', Request.decode codec.toMsgpack
        (Request.encode codec.toMsgpack
          (.getTickList (some (.number 1)) (some (.number 9)) none)) = some request' ∧
      request'.code = .getTickList ∧ request'.taken =
        .getTickList (some (.number 1)) (some (.number 9)) (some .null)) ∧
      ∃ response', Response.decode codec.toMsgpack
          (Response.encode codec.toMsgpack
            (.getTickList none (some ⟨some (.number 1), some (.number 8), some (.array [])⟩))) =
          some response' ∧ response'.code = .getTickList ∧ response'.taken =
            .getTickList (some .null) (some ⟨some (.number 1), some (.number 8), none⟩) := by
  refine ⟨(messages_roundTrip _).1 (.getTickList (some (.number 1)) (some (.number 9)) none) ?_,
    (messages_roundTrip _).2
      (.getTickList none (some ⟨some (.number 1), some (.number 8), some (.array [])⟩)) ?_ ?_⟩
  · exact (codec_carries_iff _).mpr
      (by simp [ShortMsgpack.Short, ShortMsgpack.AllShort, written, Request.toPacket,
        Request.code, Opcode.value])
  · exact .inr ⟨[], rfl⟩
  · exact (codec_carries_iff _).mpr
      (by simp [ShortMsgpack.Short, ShortMsgpack.AllShort, written, Response.toPacket,
        Response.code, Opcode.value, hasLength])

end AkashicSystem.AmflowMessage
