import Mathlib.Data.List.Sort

/-!
# The playlog stores of one play

`MongoDBStore` and the archive of `PlaylogS3Store`, for the records of one play.
The pair of play key and frame is unique in a collection, and the driver rejects
an empty `insertMany`.
-/

set_option autoImplicit false

namespace AkashicSystem.Playlog

/-- How a tick or a start point is stored: `encode` and `decode` are the codec of
the collection's binaries, `json` is what the archive makes of a value. -/
structure Format (α β : Type) where
  encode : α → β
  decode : β → α
  json : α → α
  frame : α → Int
  /-- `null` for a tick. -/
  timestamp : α → Option Int

structure Record (β : Type) where
  frame : Int
  timestamp : Option Int
  data : β
deriving DecidableEq

namespace Format

variable {α β : Type} (format : Format α β)

/-- `toTickRecord` and `toStartPointRecord`. -/
def toRecord (value : α) : Record β :=
  ⟨format.frame value, format.timestamp value, format.encode value⟩

def readBack (value : α) : α := format.decode (format.encode value)

def decodeRecord (record : Record β) : α := format.decode record.data

end Format

namespace Collection

variable {β : Type}

variable (records : List (Record β))

/-- `insertOne`; `none` is the duplicate key error. -/
def insertOne (record : Record β) : Option (List (Record β)) :=
  if record.frame ∈ records.map Record.frame then none else some (records ++ [record])

/-- The inserts of `insertMany`, up to the first that fails. -/
def insertAll : List (Record β) → List (Record β) → List (Record β) × Bool
  | records, [] => (records, true)
  | records, record :: rest =>
    match insertOne records record with
    | none => (records, false)
    | some records' => insertAll records' rest

def insertMany (records inserted : List (Record β)) : List (Record β) × Bool :=
  if inserted = [] then (records, false) else insertAll records inserted

def findFrame (frame : Int) : Option (Record β) :=
  records.find? fun record => record.frame = frame

/-- `sort({ frame: 1 })`. -/
def sortFrame : List (Record β) :=
  records.insertionSort fun r r' => r.frame ≤ r'.frame

def applyLimit (limit : Nat) (records : List (Record β)) : List (Record β) :=
  if limit = 0 then records else records.take limit

end Collection

variable {T S τ σ : Type}

structure Ticks (T : Type) where
  original : List T
  excludedIgnorable : List T

structure TicksQuery where
  frameFrom : Option Int
  frameTo : Option Int
  limit : Nat
  ignorable : Bool

structure ActiveStore (τ σ : Type) where
  original : List (Record τ)
  excludedIgnorable : List (Record τ)
  startPoints : List (Record σ)

structure Formats (T S τ σ : Type) where
  tick : Format T τ
  startPoint : Format S σ

namespace ActiveStore

def empty : ActiveStore τ σ := ⟨[], [], []⟩

def ticks (s : ActiveStore τ σ) (ignorable : Bool) : List (Record τ) :=
  if ignorable then s.excludedIgnorable else s.original

def setTicks (s : ActiveStore τ σ) (ignorable : Bool) (records : List (Record τ)) :
    ActiveStore τ σ :=
  if ignorable then { s with excludedIgnorable := records } else { s with original := records }

variable (f : Formats T S τ σ)

variable (s : ActiveStore τ σ)

/-- `none` is the conflict error. -/
def putTick (tick : T) (ignorable : Bool) : Option (ActiveStore τ σ) :=
  (Collection.insertOne (s.ticks ignorable) (f.tick.toRecord tick)).map (s.setTicks ignorable)

def putStartPoint (startPoint : S) : Option (ActiveStore τ σ) :=
  (Collection.insertOne s.startPoints (f.startPoint.toRecord startPoint)).map fun records =>
    { s with startPoints := records }

def store (ticks : Ticks T) (startPoints : List S) : ActiveStore τ σ × Bool :=
  let (original, stored) := Collection.insertMany [] (ticks.original.map f.tick.toRecord)
  if !stored then (⟨original, [], []⟩, false)
  else
    let (excludedIgnorable, stored) :=
      Collection.insertMany [] (ticks.excludedIgnorable.map f.tick.toRecord)
    if !stored then (⟨original, excludedIgnorable, []⟩, false)
    else
      let (records, stored) :=
        Collection.insertMany [] (startPoints.map f.startPoint.toRecord)
      (⟨original, excludedIgnorable, records⟩, stored)

/-- The fallback is for plays whose ticks were stored without the second form. -/
def getTick (frame : Int) (ignorable : Bool) : Option T :=
  match Collection.findFrame (s.ticks ignorable) frame with
  | some record => some (f.tick.decodeRecord record)
  | none =>
    if ignorable then (Collection.findFrame s.original frame).map f.tick.decodeRecord else none

variable (query : TicksQuery)

def inRange (frame : Int) : Bool :=
  query.frameFrom.all (fun frameFrom => frameFrom ≤ frame) &&
    query.frameTo.all (fun frameTo => frame < frameTo)

def getTicksInner (records : List (Record τ)) : List (Record τ) :=
  Collection.applyLimit query.limit
    (Collection.sortFrame (records.filter fun record => inRange query record.frame))

def getTicksRecords : List (Record τ) :=
  match getTicksInner query (s.ticks query.ignorable) with
  | [] => if query.ignorable then getTicksInner query s.original else []
  | records => records

def getTicksRaw : List τ :=
  (s.getTicksRecords query).map Record.data

def getTicks : List T :=
  (s.getTicksRaw query).map f.tick.decode

def getAllTicks : Ticks T :=
  ⟨(Collection.sortFrame s.original).map f.tick.decodeRecord,
    (Collection.sortFrame s.excludedIgnorable).map f.tick.decodeRecord⟩

def getStartPoint (frame : Int) : Option S :=
  (Collection.findFrame s.startPoints frame).map f.startPoint.decodeRecord

def getStartPoints (limit : Nat) : List S :=
  (Collection.applyLimit limit (Collection.sortFrame s.startPoints)).map f.startPoint.decodeRecord

def getClosestStartPoint (frame : Int) : Option S :=
  let records := s.startPoints.filter fun record => record.frame ≤ frame
  (records.insertionSort fun r r' => r'.frame ≤ r.frame).head?.map f.startPoint.decodeRecord

/-- A `null` is not below any number; among the others the order is that of the numbers. -/
def getClosestStartPointByTimestamp (timestamp : Int) : Option S :=
  let records := s.startPoints.filter fun record => record.timestamp.any fun t => t < timestamp
  (records.insertionSort fun r r' => r'.timestamp.getD 0 ≤ r.timestamp.getD 0).head?.map
    f.startPoint.decodeRecord

def getAllStartPoints : List S :=
  (Collection.sortFrame s.startPoints).map f.startPoint.decodeRecord

def deleteAll (_ : ActiveStore τ σ) : ActiveStore τ σ := empty

end ActiveStore

/-- The files of a play in the archive, as they are parsed. -/
structure Archive (T S : Type) where
  ticks : Ticks T
  startPoints : List S

namespace Archive

variable (f : Formats T S τ σ)

def store (ticks : Ticks T) (startPoints : List S) : Archive T S :=
  ⟨⟨ticks.original.map f.tick.json, ticks.excludedIgnorable.map f.tick.json⟩,
    startPoints.map f.startPoint.json⟩

def getAllTicks (a : Archive T S) : Ticks T :=
  ⟨a.ticks.original.insertionSort fun t t' => f.tick.frame t ≤ f.tick.frame t',
    a.ticks.excludedIgnorable.insertionSort fun t t' => f.tick.frame t ≤ f.tick.frame t'⟩

def getAllStartPoints (a : Archive T S) : List S := a.startPoints

end Archive
end AkashicSystem.Playlog
