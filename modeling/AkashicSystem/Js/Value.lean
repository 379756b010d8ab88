/-!
# JavaScript values

The values that decoding a message gives, and the operators that the playlog
code applies to them.  `undefined` is the absent value.
-/

set_option autoImplicit false

namespace AkashicSystem.Js

/-- A number that is no integer is kept as the bits of its double. -/
inductive Value where
  | null
  | bool (b : Bool)
  | number (n : Int)
  | double (bits : UInt64)
  | text (s : String)
  | binary (bytes : List UInt8)
  | array (items : List Value)
  | object (fields : List (String × Value))

inductive TypeError where
  | thrown

namespace Value

def isNumber : Value → Bool
  | .number _ => true
  | .double _ => true
  | _ => false

/-- `value.name` on a value with fields; other values have no own fields. -/
def field (value : Value) (name : String) : Except TypeError (Option Value) :=
  match value with
  | .null => .error .thrown
  | .object fields => .ok (fields.lookup name)
  | _ => .ok none

def index (value : Value) (i : Nat) : Except TypeError (Option Value) :=
  match value with
  | .array items => .ok items[i]?
  | .binary bytes => .ok (bytes[i]?.map fun byte => .number byte.toNat)
  | .text s => .ok (s.toList[i]?.map fun c => .text c.toString)
  | other => other.field i.repr

/-- `value & mask` is nonzero; `toInt32` converts what is no integer. -/
def hasFlag (toInt32 : Option Value → Except TypeError (BitVec 32)) (value : Option Value)
    (mask : BitVec 32) : Except TypeError Bool :=
  match value with
  | some (.number n) => .ok (BitVec.ofInt 32 n &&& mask != 0)
  | other => do return (← toInt32 other) &&& mask != 0

end Value
end AkashicSystem.Js
