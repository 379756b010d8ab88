import AkashicSystem.Js.Buffer
import AkashicSystem.Lib.Run
import Mathlib.Data.List.Count

/-!
# The tick cache of the playlog server

`TickCache` of playlog-server: a sparse array of raw ticks, the requests to the
store that fill its gaps, and the gets that wait for them.  A get is known by
its number; what its promise comes to is logged.  `decodeTick` is the reader of
the message format, which is asked for a tick's frame only.
-/

set_option autoImplicit false

namespace AkashicSystem.PlaylogServer

open AkashicSystem.Js

/-- A JavaScript array; `none` is a hole. -/
abbrev SparseArray := List (Option Buffer)

namespace SparseArray

variable (ticks : SparseArray)

def at? (i : Nat) : Option Buffer := (ticks[i]?).join

def put (i : Nat) (value : Buffer) : SparseArray :=
  (ticks ++ List.replicate (i + 1 - ticks.length) none).set i (some value)

def slice (start stop : Nat) : SparseArray :=
  (ticks.take stop).drop start

end SparseArray

structure Waiting where
  get : Nat
  start : Nat
  stop : Nat

/-- A request to the store that is under way, by its number. -/
structure Complementing where
  request : Nat
  start : Nat
  stop : Nat
  waitings : List Waiting

inductive Outcome where
  | resolved (ticks : SparseArray)
  | rejected (err : String)
deriving DecidableEq

structure TickCache where
  destroyed : Bool
  ticks : SparseArray
  complementings : List Complementing
  /-- How many requests to the store were made, and with which range. -/
  requests : List (Nat × Nat)
  gets : List (Nat × Int)
  settled : List (Nat × Outcome)

namespace TickCache

def new : TickCache := ⟨false, [], [], [], [], []⟩

variable (c : TickCache)

def settle (get : Nat) (outcome : Outcome) : TickCache :=
  { c with settled := c.settled ++ [(get, outcome)] }

def settleAll (waitings : List Waiting) (outcome : Waiting → Outcome) : TickCache :=
  { c with settled := c.settled ++ waitings.map fun w => (w.get, outcome w) }

/-- `startComplememnt`. -/
def startComplement (start stop : Nat) (waitings : List Waiting) : TickCache :=
  { c with
    complementings := c.complementings ++ [⟨c.requests.length, start, stop, waitings⟩]
    requests := c.requests ++ [(start, stop)] }

/-- The loop of `add`: down from a frame, past the frames that are missing. -/
def complementBegin (ticks : SparseArray) : Nat → Nat
  | 0 => 0
  | frame + 1 => if (ticks.at? frame).isSome then frame + 1 else complementBegin ticks frame

def add (decodeTick : Buffer → Option Nat) (c : TickCache) (rawTick : Buffer) : TickCache :=
  if c.destroyed then c
  else
    match decodeTick rawTick with
    -- `decodeTick` throws
    | none => c
    | some frame =>
      let c :=
        if frame ≠ 0 ∧ (c.ticks.at? (frame - 1)).isNone then
          c.startComplement (complementBegin c.ticks (frame - 1)) frame []
        else c
      { c with ticks := c.ticks.put frame rawTick }

/-- The loop of `getComplementRangeIfNeeded`: the first frame of the next `n`
that is missing, counted from the first of the cached ticks. -/
def firstMissing (cachedTicks : SparseArray) (i : Nat) : Nat → Option Nat
  | 0 => none
  | n + 1 => if (cachedTicks.at? i).isNone then some i else firstMissing cachedTicks (i + 1) n

def getComplementing (complementings : List Complementing) (start stop : Nat) :
    Option Complementing :=
  complementings.find? fun comp => comp.start ≤ start ∧ stop ≤ comp.stop

variable (request : Nat)

def joinComplementing (w : Waiting) : TickCache :=
  { c with
    complementings := c.complementings.map fun comp =>
      if comp.request = request then { comp with waitings := comp.waitings ++ [w] } else comp }

def get (start : Nat) (stop : Int) : TickCache :=
  let number := c.gets.length
  let c := { c with gets := c.gets ++ [(start, stop)] }
  if c.destroyed then c.settle number (.rejected "cache was destroyed")
  else if stop - start ≤ 0 then c.settle number (.resolved [])
  else
    let stop := stop.toNat
    let ticks := c.ticks.slice start stop
    match firstMissing ticks 0 (stop - start) with
    | none => c.settle number (.resolved ticks)
    | some missing =>
      match getComplementing c.complementings (start + missing) stop with
      | some comp => c.joinComplementing comp.request ⟨number, start, stop⟩
      | none => c.startComplement (start + missing) stop [⟨number, start, stop⟩]

def destroy : TickCache :=
  let c := c.settleAll (c.complementings.flatMap Complementing.waitings) fun _ =>
    .rejected "cache was destroyed"
  { c with destroyed := true, complementings := [], ticks := [] }

def putAll (ticks : SparseArray) (start : Nat) : List Buffer → SparseArray
  | [] => ticks
  | tick :: rest => putAll (ticks.put start tick) (start + 1) rest

def removeComplementing : TickCache :=
  { c with complementings := c.complementings.filter fun comp => comp.request ≠ request }

def complete (reply : List Buffer) : TickCache :=
  match c.complementings.find? fun comp => comp.request = request with
  -- destroyed in the meantime
  | none => c
  | some comp =>
    let c := c.removeComplementing request
    let c := { c with ticks := putAll c.ticks comp.start reply }
    let maxSliceEnd := comp.start + reply.length
    c.settleAll comp.waitings fun w => .resolved (c.ticks.slice w.start (min maxSliceEnd w.stop))

def fail (err : String) : TickCache :=
  match c.complementings.find? fun comp => comp.request = request with
  | none => c
  | some comp => (c.removeComplementing request).settleAll comp.waitings fun _ => .rejected err

inductive Action where
  | add (rawTick : Buffer)
  | get (start : Nat) (stop : Int)
  | complete (request : Nat) (reply : List Buffer)
  | fail (request : Nat) (err : String)
  | destroy

def step (decodeTick : Buffer → Option Nat) (c : TickCache) : Action → TickCache
  | .add rawTick => c.add decodeTick rawTick
  | .get start stop => c.get start stop
  | .complete request reply => c.complete request reply
  | .fail request err => c.fail request err
  | .destroy => c.destroy

end TickCache
end AkashicSystem.PlaylogServer
