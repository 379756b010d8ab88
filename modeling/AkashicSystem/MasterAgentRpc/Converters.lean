import AkashicSystem.Js.Json
import AkashicSystem.ServerEngineDataTypes.ProcessIdentity

/-!
# The conversions of master and runner messages

The free-form parts of a message travel as JSON texts.  The message layer carries its
fields as they are, and an absent field as absent.
-/

set_option autoImplicit false

namespace AkashicSystem.MasterAgentRpc

open Js (Json)
open ServerEngineDataTypes (ClusterIdentity)

section Objects

variable (ν : Type)

structure ProcessInfo where
  clusterIdentity : ClusterIdentity
  port : Int
  machineValues : Option (Json ν)

structure InstanceModule where
  code : String
  values : Option (Json ν)

structure InstanceAssignment where
  instanceId : String
  gameCode : String
  entryPoint : String
  modules : List (InstanceModule ν)
  cost : Int
  playId : String
  parentPlayIds : List String

end Objects

/-- The type is the number of a status, which the conversions do not look at. -/
structure ProcessStatusInfo where
  instanceId : String
  type : Int
  message : String

namespace Types

structure ClusterIdentity where
  fqdn : String
  type : String
  name : String
  czxid : String

structure ProcessInfo where
  clusterIdentity : ClusterIdentity
  port : Int
  machineValues : Option String

structure ProcessStatusInfo where
  instanceId : String
  type : Int
  message : String

structure Module where
  code : String
  values : Option String

structure InstanceAssignment where
  instanceId : String
  gameCode : String
  entryPoint : String
  modules : List Module
  cost : Int
  playId : String
  parentPlayIds : List String

inductive ErrorCode where
  | parameterError

structure RPCError where
  errorCode : ErrorCode
  message : String

end Types

open AkashicSystem.MasterAgentRpc.Types (RPCError)

variable {ν : Type} (engine : Json.Engine ν)

def clusterIdentityToRPC (identity : ClusterIdentity) : Types.ClusterIdentity :=
  ⟨identity.fqdn, identity.type, identity.name, identity.czxid⟩

def clusterIdentityFromRPC (identity : Types.ClusterIdentity) : ClusterIdentity :=
  ⟨identity.fqdn, identity.type, identity.name, identity.czxid⟩

/-- The texts of the free-form parts are read in the same way, and named in the error. -/
def parsed (name : String) (text : Option String) : Except RPCError (Json ν) :=
  (Json.parse engine text).mapError fun message =>
    ⟨.parameterError, "failed to parse " ++ name ++ ". " ++ message⟩

def processInfoToRPC (processInfo : ProcessInfo ν) : Types.ProcessInfo where
  clusterIdentity := clusterIdentityToRPC processInfo.clusterIdentity
  port := processInfo.port
  machineValues := processInfo.machineValues.map (Json.stringify engine)

def processInfoFromRPC (processInfo : Types.ProcessInfo) : Except RPCError (ProcessInfo ν) := do
  let machineValues ← parsed engine "machineValues" processInfo.machineValues
  return {
    clusterIdentity := clusterIdentityFromRPC processInfo.clusterIdentity
    port := processInfo.port
    machineValues := some machineValues }

def processStatusInfoToRPC (processStatusInfo : ProcessStatusInfo) : Types.ProcessStatusInfo :=
  ⟨processStatusInfo.instanceId, processStatusInfo.type, processStatusInfo.message⟩

def processStatusInfoFromRPC (processStatusInfo : Types.ProcessStatusInfo) : ProcessStatusInfo :=
  ⟨processStatusInfo.instanceId, processStatusInfo.type, processStatusInfo.message⟩

def moduleToRPC (m : InstanceModule ν) : Types.Module :=
  ⟨m.code, m.values.map (Json.stringify engine)⟩

def moduleFromRPC (m : Types.Module) : Except RPCError (InstanceModule ν) := do
  return ⟨m.code, some (← parsed engine "module.values" m.values)⟩

def instanceAssignmentToRPC (a : InstanceAssignment ν) : Types.InstanceAssignment :=
  { a with modules := a.modules.map (moduleToRPC engine) }

def instanceAssignmentFromRPC (a : Types.InstanceAssignment) :
    Except RPCError (InstanceAssignment ν) := do
  let modules ← a.modules.mapM (moduleFromRPC engine)
  return { a with modules }

def nulled (part : Option (Json ν)) : Option (Json ν) := some (part.getD .null)

theorem moduleFromRPC_toRPC (m : InstanceModule ν) :
    moduleFromRPC engine (moduleToRPC engine m) = .ok ⟨m.code, nulled m.values⟩ := by
  rw [moduleFromRPC, moduleToRPC, parsed, Json.parse_stringify]
  rfl

theorem modulesFromRPC_toRPC (modules : List (InstanceModule ν)) :
    (modules.map (moduleToRPC engine)).mapM (moduleFromRPC engine) =
      .ok (modules.map fun m => ⟨m.code, nulled m.values⟩) := by
  induction modules with
  | nil => rfl
  | cons m modules ih =>
    rw [List.map_cons, List.mapM_cons, moduleFromRPC_toRPC, ih]
    rfl

/-- Every message arrives as it was sent, but for absent free-form parts, which arrive as null. -/
theorem messages_arrive {ν : Type} (engine : Json.Engine ν) :
    (∀ info : ProcessInfo ν, processInfoFromRPC engine (processInfoToRPC engine info) =
      .ok { info with machineValues := nulled info.machineValues }) ∧
    (∀ status, processStatusInfoFromRPC (processStatusInfoToRPC status) = status) ∧
    ∀ a : InstanceAssignment ν, instanceAssignmentFromRPC engine (instanceAssignmentToRPC engine a) =
      .ok { a with modules := a.modules.map fun m => ⟨m.code, nulled m.values⟩ } := by
  refine ⟨fun info => ?_, fun _ => rfl, fun a => ?_⟩
  · rw [processInfoFromRPC, processInfoToRPC, parsed, Json.parse_stringify]
    rfl
  · rw [instanceAssignmentFromRPC, instanceAssignmentToRPC, modulesFromRPC_toRPC]
    rfl

def unknownMachine : ProcessInfo Nat := ⟨⟨"h", "t", "n", "1"⟩, 80, none⟩

theorem unknownMachine_changed :
    processInfoFromRPC Json.decimal (processInfoToRPC Json.decimal unknownMachine) ≠
      .ok unknownMachine := by
  intro same
  cases same

end AkashicSystem.MasterAgentRpc
