import AkashicSystem.Js.Buffer

/-!
# AMTP frames

The frames of amtplib's `Frame.ts`.  A control frame carries its type in its
constructor; `other` stands for the types without a layout of their own
(`Error` and the numbers the protocol does not assign).
-/

set_option autoImplicit false

namespace AkashicSystem.Amtp

open AkashicSystem.Js

inductive ControlFrame where
  | accept (id : Nat) (data : Option Buffer)
  | deny (id : Nat)
  | open (id random protocolVersion protocolIdentifier : Nat)
  | channel (id : Nat) (primary : Bool) (channelId : Nat) (label : String)
  | pipe (id : Nat) (primary request : Bool) (channelId pipeId : Nat) (label : String)
  | close (id : Nat)
  | closeChannel (id channelId : Nat)
  | closePipe (id : Nat) (request : Bool) (channelId pipeId : Nat)
  | other (type id : Nat)
deriving DecidableEq

namespace ControlFrame

def type : ControlFrame → Nat
  | accept .. => 0x1
  | deny .. => 0x2
  | .open .. => 0x3
  | channel .. => 0x4
  | pipe .. => 0x5
  | close .. => 0x6
  | closeChannel .. => 0x7
  | closePipe .. => 0x8
  | other type _ => type

def id : ControlFrame → Nat
  | accept id _ => id
  | deny id => id
  | .open id .. => id
  | channel id .. => id
  | pipe id .. => id
  | close id => id
  | closeChannel id _ => id
  | closePipe id .. => id
  | other _ id => id

end ControlFrame

structure DataFrame where
  primaryChannel : Bool
  primaryPipe : Bool
  request : Bool
  channelId : Option Nat
  pipeId : Option Nat
  requestId : Option Nat
  payload : Buffer
deriving DecidableEq

inductive Frame where
  | control (frame : ControlFrame)
  | data (frame : DataFrame)
deriving DecidableEq

def PROTOCOL_IDENTIFIER : Nat := 0x414d5450

def PROTOCOL_VERSION : Nat := 1

end AkashicSystem.Amtp
