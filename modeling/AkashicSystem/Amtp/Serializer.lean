import AkashicSystem.Js.Utf8
import AkashicSystem.Amtp.Frame

/-!
# The AMTP serializer

The functions of amtplib's `Serializer.ts`, one definition each.  A frame is
written into a buffer of its fixed size, label, accept data and payload behind
it; a failed check or a value out of range throws.
-/

set_option autoImplicit false

namespace AkashicSystem.Amtp.Serializer

open AkashicSystem.Js AkashicSystem.Js.Buffer

def channelIdMessage : String := "channelId must be less than or equal to 2147483647"
def pipeIdMessage : String := "pipeId must be less than or equal to 2147483647"
def requestIdMessage : String := "requestId must be less than or equal to 4294967295"
def labelMessage : String := "label must be less than or equal to 64"

/-- `buf[0] = frame.type | 0x80` on a fresh buffer. -/
def allocTyped (size type : Nat) : Buffer := (alloc size).set 0 (UInt8.ofNat (type ||| 0x80))

variable (buf : Buffer)

/-- `buf[i] |= 0x80` under a flag. -/
def setTopBit (i : Nat) (flag : Bool) : Buffer :=
  if flag then buf.set i (byteAt buf i ||| 0x80) else buf

def appendLabel (label : String) : Except JsError Buffer := do
  if label = "" then
    return buf
  else
    let bytes := Utf8.encode label
    assert (bytes.length ≤ 64) labelMessage
    return buf ++ bytes

def serializeAcceptControlFrame (id : Nat) (data : Option Buffer) : Except JsError Buffer := do
  let buf ← writeUInt32BE (allocTyped 5 0x1) id 1
  match data with
  | some data => return buf ++ data
  | none => return buf

def deserializeAcceptControlFrame : Except JsError ControlFrame := do
  let id ← readUInt32BE buf 1
  return .accept id (if 5 < buf.length then some (buf.slice 5) else none)

def serializeOpenControlFrame (type id random protocolVersion protocolIdentifier : Nat) :
    Except JsError Buffer := do
  assert (protocolIdentifier ≤ 0xffffffff)
    "protocol identifier must be less than or equal to 4294967295"
  assert (protocolVersion ≤ 0xff) "protocol version must be less than or equal to 255"
  assert (random ≤ 0xffffffff) "random bytes must be less than or equal to 4294967295"
  let buf ← writeUInt32BE (allocTyped 14 type) id 1
  let buf ← writeUInt32BE buf protocolIdentifier 5
  let buf := buf.set 9 (UInt8.ofNat protocolVersion)
  writeUInt32BE buf random 10

def deserializeOpenControlFrame : Except JsError ControlFrame := do
  let id ← readUInt32BE buf 1
  let protocolIdentifier ← readUInt32BE buf 5
  let protocolVersion := (byteAt buf 9).toNat
  let random ← readUInt32BE buf 10
  return .open id random protocolVersion protocolIdentifier

variable (type id : Nat)

def serializeCloseControlFrame : Except JsError Buffer :=
  writeUInt32BE (allocTyped 5 type) id 1

def deserializeCloseControlFrame : Except JsError ControlFrame := do
  let id ← readUInt32BE buf 1
  return .close id

def serializeChannelControlFrame (primary : Bool) (channelId : Nat)
    (label : String) : Except JsError Buffer := do
  assert (channelId ≤ 0x7fffffff) channelIdMessage
  let buf ← writeUInt32BE (allocTyped 9 type) id 1
  let buf ← writeUInt32BE buf channelId 5
  let buf := setTopBit buf 5 primary
  appendLabel buf label

def deserializeChannelControlFrame : Except JsError ControlFrame := do
  let id ← readUInt32BE buf 1
  let primary := byteAt buf 5 &&& 0x80 != 0
  let channelId ← readUInt32BE buf 5
  let label := if 9 < buf.length then Utf8.decode (buf.slice 9) else ""
  return .channel id primary (low31 channelId) label

def serializePipeControlFrame (primary request : Bool) (channelId pipeId : Nat)
    (label : String) : Except JsError Buffer := do
  assert (channelId ≤ 0x7fffffff) channelIdMessage
  assert (pipeId ≤ 0x7fffffff) pipeIdMessage
  let buf ← writeUInt32BE (allocTyped 13 type) id 1
  let buf ← writeUInt32BE buf channelId 5
  let buf := setTopBit buf 5 primary
  let buf ← writeUInt32BE buf pipeId 9
  let buf := setTopBit buf 9 request
  appendLabel buf label

def deserializePipeControlFrame : Except JsError ControlFrame := do
  let id ← readUInt32BE buf 1
  let primary := byteAt buf 5 &&& 0x80 != 0
  let channelId ← readUInt32BE buf 5
  let request := byteAt buf 9 &&& 0x80 != 0
  let pipeId ← readUInt32BE buf 9
  let label := if 13 < buf.length then Utf8.decode (buf.slice 13) else ""
  return .pipe id primary request (low31 channelId) (low31 pipeId) label

def serializeCloseChannelControlFrame (type id channelId : Nat) : Except JsError Buffer := do
  assert (channelId ≤ 0x7fffffff) channelIdMessage
  let buf ← writeUInt32BE (allocTyped 9 type) id 1
  writeUInt32BE buf channelId 5

def deserializeCloseChannelControlFrame : Except JsError ControlFrame := do
  let id ← readUInt32BE buf 1
  let channelId ← readUInt32BE buf 5
  return .closeChannel id (low31 channelId)

def serializeClosePipeControlFrame (request : Bool) (channelId pipeId : Nat) :
    Except JsError Buffer := do
  assert (channelId ≤ 0x7fffffff) channelIdMessage
  assert (pipeId ≤ 0x7fffffff) pipeIdMessage
  let buf ← writeUInt32BE (allocTyped 13 type) id 1
  let buf ← writeUInt32BE buf channelId 5
  let buf ← writeUInt32BE buf pipeId 9
  return setTopBit buf 9 request

def deserializeClosePipeControlFrame : Except JsError ControlFrame := do
  let id ← readUInt32BE buf 1
  let channelId ← readUInt32BE buf 5
  let request := byteAt buf 9 &&& 0x80 != 0
  let pipeId ← readUInt32BE buf 9
  return .closePipe id request (low31 channelId) (low31 pipeId)

def serializeControlFrame (frame : ControlFrame) : Except JsError Buffer := do
  assert (0 < frame.id) "control frame id must be greater than 0"
  match frame with
  | .open id random version identifier =>
    serializeOpenControlFrame frame.type id random version identifier
  | .channel id primary channelId label =>
    serializeChannelControlFrame frame.type id primary channelId label
  | .pipe id primary request channelId pipeId label =>
    serializePipeControlFrame frame.type id primary request channelId pipeId label
  | .closeChannel id channelId => serializeCloseChannelControlFrame frame.type id channelId
  | .closePipe id request channelId pipeId =>
    serializeClosePipeControlFrame frame.type id request channelId pipeId
  | .accept id data => serializeAcceptControlFrame id data
  | .close id => serializeCloseControlFrame frame.type id
  | .deny id | .other _ id => writeUInt32BE (allocTyped 5 frame.type) id 1

def deserializeControlFrame : Except JsError ControlFrame :=
  match (byteAt buf 0 &&& 0x7f).toNat with
  | 0x3 => deserializeOpenControlFrame buf
  | 0x4 => deserializeChannelControlFrame buf
  | 0x5 => deserializePipeControlFrame buf
  | 0x7 => deserializeCloseChannelControlFrame buf
  | 0x8 => deserializeClosePipeControlFrame buf
  | 0x1 => deserializeAcceptControlFrame buf
  | 0x6 => deserializeCloseControlFrame buf
  | type => do
      let id ← readUInt32BE buf 1
      return if type = 0x2 then .deny id else .other type id

/-- A field that is checked and written when its flag says so; an absent one
fails the check, as every comparison with `undefined` does. -/
def writeField (present : Bool) (header : Buffer) (value : Option Nat) (limit : Nat)
    (message : String) (offset : Nat) : Except JsError Buffer :=
  if present then
    match value with
    | none => .error (.assertion message)
    | some value => do
        assert (value ≤ limit) message
        writeUInt32BE header value offset
  else .ok header

def serializeDataFrame (f : DataFrame) : Except JsError Buffer := do
  let header := alloc (1 + (if f.primaryChannel then 0 else 4) + (if f.primaryPipe then 0 else 4) +
    (if f.request then 4 else 0))
  let header := header.set 0 ((if f.primaryChannel then 0 else 0x40) |||
    (if f.primaryPipe then 0 else 0x20) ||| (if f.request then 0x10 else 0))
  let header ← writeField (!f.primaryChannel) header f.channelId 0x7fffffff channelIdMessage 1
  let offset := if f.primaryChannel then 1 else 5
  let header ← writeField (!f.primaryPipe) header f.pipeId 0x7fffffff pipeIdMessage offset
  let offset := if f.primaryPipe then offset else offset + 4
  let header ← writeField f.request header f.requestId 0xffffffff requestIdMessage offset
  return header ++ f.payload

def readField (present : Bool) (buf : Buffer) (offset : Nat) : Except JsError (Option Nat) :=
  if present then do
    let value ← readUInt32BE buf offset
    return some value
  else .ok none

def deserializeDataFrame : Except JsError DataFrame := do
  let primaryChannel := byteAt buf 0 &&& 0x40 != 0x40
  let primaryPipe := byteAt buf 0 &&& 0x20 != 0x20
  let request := byteAt buf 0 &&& 0x10 == 0x10
  let channelId ← readField (!primaryChannel) buf 1
  let offset := if primaryChannel then 1 else 5
  let pipeId ← readField (!primaryPipe) buf offset
  let offset := if primaryPipe then offset else offset + 4
  let requestId ← readField request buf offset
  let offset := if request then offset + 4 else offset
  return ⟨primaryChannel, primaryPipe, request, channelId, pipeId, requestId, buf.slice offset⟩

def serialize : Frame → Except JsError Buffer
  | .control frame => serializeControlFrame frame
  | .data frame => serializeDataFrame frame

def deserialize : Except JsError Frame := do
  if byteAt buf 0 &&& 0x80 == 0x80 then
    return .control (← deserializeControlFrame buf)
  else
    return .data (← deserializeDataFrame buf)

example : serialize (.control (.accept 256 (some [1, 2, 3]))) =
    .ok [0x81, 0, 0, 1, 0, 1, 2, 3] := by decide

end AkashicSystem.Amtp.Serializer
