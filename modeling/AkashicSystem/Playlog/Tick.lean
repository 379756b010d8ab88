import AkashicSystem.Js.Value

/-!
# Ticks

A tick is an array of its frame, its events and its storage data, the last two
of which may be missing.  The codec of the values is a parameter.
-/

set_option autoImplicit false

namespace AkashicSystem.Playlog

open AkashicSystem.Js

structure EventFlagsMask where
  transient : BitVec 32
  ignorable : BitVec 32

/-- What the playlog code uses of its libraries and of the language. -/
structure Library where
  /-- `msgpack.decode`; it throws where there is no value. -/
  decode : List UInt8 → Option Value
  /-- The conversion of a value that is no integer by the operator `&`. -/
  toInt32 : Option Value → Except TypeError (BitVec 32)
  deepEqual : Option Value → Value → Bool
  eventFlagsMask : EventFlagsMask

def decodeTick (lib : Library) (bytes : List UInt8) : Option Value := do
  let encoded ← lib.decode bytes
  if encoded.isNumber then return .array [encoded] else return encoded

def decodeStartPoint (lib : Library) (bytes : List UInt8) : Option Value := lib.decode bytes

/-- The event has none of the flags: `targetEventFlags.every`. -/
def lacksFlags (lib : Library) (event : Value) :
    List (BitVec 32) → Except TypeError Bool
  | [] => .ok true
  | targetEventFlag :: rest => do
      let flagged ← Value.hasFlag lib.toInt32 (← event.index 1) targetEventFlag
      if flagged then return false else lacksFlags lib event rest

def removeTargetEvents (lib : Library) (tick : Value) (targetEventFlags : List (BitVec 32)) :
    Except TypeError Value := do
  match ← tick.index 1 with
  | some (.array events) =>
    let filteredEvents ← events.filterM fun event => lacksFlags lib event targetEventFlags
    match tick with
    | .array items => return .array (items.set 1 (.array filteredEvents))
    -- nothing else can be spread
    | _ => throw .thrown
  | _ => return tick

end AkashicSystem.Playlog
