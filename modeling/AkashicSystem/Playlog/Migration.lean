import AkashicSystem.Lib.Pool
import AkashicSystem.Playlog.PlaylogStoreFacade

/-!
# The migrations of a play, call by call

`createArchive`, `pruneActive`, `restore` and the reads of `PlaylogStoreFacade`, at
each call of the driver, of S3, of the metadata and of the database, any of which
may fail.  A job is where a call of the facade stands: its next call, with what it
has read so far.
-/

set_option autoImplicit false

namespace AkashicSystem.Playlog

variable {T S τ σ : Type}

/-- The three kinds of data of a play, in the order in which they are copied. -/
inductive Part where
  | original
  | excludedIgnorable
  | startPoints
deriving DecidableEq

def Part.next : Part → Option Part
  | .original => some .excludedIgnorable
  | .excludedIgnorable => some .startPoints
  | .startPoints => none

structure Content (T S : Type) where
  ticks : Ticks T
  startPoints : List S

/-- The files of a play in the archive; `none` is a file that is not there. -/
structure Files (T S : Type) where
  original : Option (List T)
  excludedIgnorable : Option (List T)
  startPoints : Option (List S)

def Files.none : Files T S := ⟨.none, .none, .none⟩

namespace Collection

variable {β : Type}

/-- What a `deleteMany` that failed has left. -/
def keepSome (records : List (Record β)) (kept : Nat → Bool) : List (Record β) :=
  (records.zipIdx.filter fun entry => kept entry.2).map Prod.fst

/-- What an `insertMany` that failed has inserted before. -/
def insertSome (records inserted : List (Record β)) (count : Nat) : List (Record β) :=
  (insertAll records (inserted.take count)).1

end Collection

variable (f : Formats T S τ σ)

/-- `storeToS3`. -/
def Files.put (files : Files T S) (part : Part) (content : Content T S) : Files T S :=
  match part with
  | .original => { files with original := some (content.ticks.original.map f.tick.json) }
  | .excludedIgnorable =>
    { files with excludedIgnorable := some (content.ticks.excludedIgnorable.map f.tick.json) }
  | .startPoints => { files with startPoints := some (content.startPoints.map f.startPoint.json) }

namespace ActiveStore

variable (s : ActiveStore τ σ)

def deleteMany : Part → ActiveStore τ σ
  | .original => { s with original := [] }
  | .excludedIgnorable => { s with excludedIgnorable := [] }
  | .startPoints => { s with startPoints := [] }

def deleteSome (kept : Nat → Bool) : Part → ActiveStore τ σ
  | .original => { s with original := Collection.keepSome s.original kept }
  | .excludedIgnorable =>
    { s with excludedIgnorable := Collection.keepSome s.excludedIgnorable kept }
  | .startPoints => { s with startPoints := Collection.keepSome s.startPoints kept }

def insertMany (s : ActiveStore τ σ) (content : Content T S) : Part → ActiveStore τ σ × Bool
  | .original =>
    let (records, inserted) :=
      Collection.insertMany s.original (content.ticks.original.map f.tick.toRecord)
    ({ s with original := records }, inserted)
  | .excludedIgnorable =>
    let (records, inserted) := Collection.insertMany s.excludedIgnorable
      (content.ticks.excludedIgnorable.map f.tick.toRecord)
    ({ s with excludedIgnorable := records }, inserted)
  | .startPoints =>
    let (records, inserted) :=
      Collection.insertMany s.startPoints (content.startPoints.map f.startPoint.toRecord)
    ({ s with startPoints := records }, inserted)

def insertSome (s : ActiveStore τ σ) (content : Content T S) (count : Nat) :
    Part → ActiveStore τ σ
  | .original =>
    let inserted := content.ticks.original.map f.tick.toRecord
    { s with original := Collection.insertSome s.original inserted count }
  | .excludedIgnorable =>
    let inserted := content.ticks.excludedIgnorable.map f.tick.toRecord
    { s with excludedIgnorable := Collection.insertSome s.excludedIgnorable inserted count }
  | .startPoints =>
    let inserted := content.startPoints.map f.startPoint.toRecord
    { s with startPoints := Collection.insertSome s.startPoints inserted count }

/-- The first find of a read; `none` where it finds nothing and looks again. -/
def find : Query → Option (Answer T S τ)
  | .getTick frame ignorable =>
    match Collection.findFrame (s.ticks ignorable) frame with
    | some record => some (.tick (some (f.tick.decodeRecord record)))
    | none => if ignorable then none else some (.tick none)
  | .getTicks query =>
    match getTicksInner query (s.ticks query.ignorable) with
    | [] => if query.ignorable then none else some (.ticks [])
    | records => some (.ticks (records.map f.tick.decodeRecord))
  | .getTicksRaw query =>
    match getTicksInner query (s.ticks query.ignorable) with
    | [] => if query.ignorable then none else some (.ticksRaw [])
    | records => some (.ticksRaw (records.map Record.data))
  | query => some (s.read f query)

def findAgain : Query → Answer T S τ
  | .getTick frame _ => .tick ((Collection.findFrame s.original frame).map f.tick.decodeRecord)
  | .getTicks query => .ticks ((getTicksInner query s.original).map f.tick.decodeRecord)
  | .getTicksRaw query => .ticksRaw ((getTicksInner query s.original).map Record.data)
  | query => s.read f query

theorem find_eq_some (query : Query) (answer : Answer T S τ)
    (found : s.find f query = some answer) : answer = s.read f query := by
  cases query with
  | getTick frame ignorable =>
    cases record : Collection.findFrame (s.ticks ignorable) frame with
    | some record' =>
      simp only [find, record, Option.some.injEq] at found
      simp only [read, getTick, record, found]
    | none =>
      cases ignorable with
      | true => simp [find, record] at found
      | false =>
        simp only [find, record, Bool.false_eq_true, if_false, Option.some.injEq] at found
        simp [read, getTick, record, ← found]
  | getTicks query =>
    cases records : getTicksInner query (s.ticks query.ignorable) with
    | cons record rest =>
      simp only [find, records, Option.some.injEq] at found
      simp only [read, getTicks, getTicksRaw, getTicksRecords, records, ← found, List.map_map]
      rfl
    | nil =>
      cases ignorable : query.ignorable with
      | true =>
        rw [ignorable] at records
        simp [find, records, ignorable] at found
      | false =>
        rw [ignorable] at records
        simp only [find, records, ignorable, Bool.false_eq_true, if_false,
          Option.some.injEq] at found
        simp [read, getTicks, getTicksRaw, getTicksRecords, records, ignorable, ← found]
  | getTicksRaw query =>
    cases records : getTicksInner query (s.ticks query.ignorable) with
    | cons record rest =>
      simp only [find, records, Option.some.injEq] at found
      simp only [read, getTicksRaw, getTicksRecords, records, ← found]
    | nil =>
      cases ignorable : query.ignorable with
      | true =>
        rw [ignorable] at records
        simp [find, records, ignorable] at found
      | false =>
        rw [ignorable] at records
        simp only [find, records, ignorable, Bool.false_eq_true, if_false,
          Option.some.injEq] at found
        simp [read, getTicksRaw, getTicksRecords, records, ignorable, ← found]
  | _ =>
    cases found
    rfl

/-- The two finds together are the read, on a store that stays as it is. -/
theorem findAgain_eq (query : Query) (again : s.find f query = none) :
    s.findAgain f query = s.read f query := by
  cases query with
  | getTick frame ignorable =>
    cases record : Collection.findFrame (s.ticks ignorable) frame with
    | some record' => simp [find, record] at again
    | none =>
      cases ignorable with
      | true => simp [findAgain, read, getTick, record]
      | false => simp [find, record] at again
  | getTicks query =>
    cases records : getTicksInner query (s.ticks query.ignorable) with
    | cons record rest => simp [find, records] at again
    | nil =>
      cases ignorable : query.ignorable with
      | true =>
        rw [ignorable] at records
        simp only [findAgain, read, getTicks, getTicksRaw, getTicksRecords, records,
          ignorable, if_true, List.map_map]
        rfl
      | false =>
        rw [ignorable] at records
        simp [find, records, ignorable] at again
  | getTicksRaw query =>
    cases records : getTicksInner query (s.ticks query.ignorable) with
    | cons record rest => simp [find, records] at again
    | nil =>
      cases ignorable : query.ignorable with
      | true =>
        rw [ignorable] at records
        simp only [findAgain, read, getTicksRaw, getTicksRecords, records, ignorable, if_true]
      | false =>
        rw [ignorable] at records
        simp [find, records, ignorable] at again
  | _ => cases again

end ActiveStore

structure PlayStores (T S τ σ : Type) where
  active : ActiveStore τ σ
  files : Files T S
  hasArchived : Bool
  shouldGetFromArchive : Bool
  /-- The play has the row that `withPlaylogLock` locks. -/
  hasRow : Bool
  locked : Bool

inductive Operation where
  | createArchive
  | pruneActive
  | read (query : Query)

inductive Outcome (T S τ : Type) where
  | rejected
  | resolved
  | answered (answer : Answer T S τ)

inductive Job (T S τ : Type) where
  | readChecks (query : Query)
  | locks (op : Operation)
  | archiveChecks
  | archiveFindsOriginal
  | archiveFindsExcluded (original : List T)
  | archiveFindsStartPoints (ticks : Ticks T)
  | archivePuts (part : Part) (content : Content T S)
  | archiveFlags
  | pruneChecks
  | pruneChecksArchive
  | pruneFlags
  | pruneDeletes (part : Part)
  | restoreChecks (query : Query)
  | restoreGetsOriginal (query : Query)
  | restoreGetsExcluded (query : Query) (original : List T)
  | restoreGetsStartPoints (query : Query) (ticks : Ticks T)
  | restoreDeletes (query : Query) (part : Part) (content : Content T S)
  | restoreInserts (query : Query) (part : Part) (content : Content T S)
  | restoreFlags (query : Query)
  | commits (op : Operation)
  | rollsBack (op : Operation)
  | finds (query : Query)
  | findsAgain (query : Query)
  | settled (op : Operation) (outcome : Outcome T S τ)

def Operation.job : Operation → Job T S τ
  | .createArchive => .locks .createArchive
  | .pruneActive => .locks .pruneActive
  | .read query => .readChecks query

/-- What a call that failed has done all the same: a single write, the documents that a
`deleteMany` has left, those that an `insertMany` has inserted. -/
structure Fault where
  applied : Bool
  kept : Nat → Bool
  count : Nat

/-- The sorts of `PlaylogS3Store.getAllTicks`. -/
def Ticks.sort (ticks : Ticks T) : Ticks T :=
  ⟨ticks.original.insertionSort fun t t' => f.tick.frame t ≤ f.tick.frame t',
    ticks.excludedIgnorable.insertionSort fun t t' => f.tick.frame t ≤ f.tick.frame t'⟩

def Content.isEmpty (content : Content T S) : Bool :=
  content.ticks.original.isEmpty || content.startPoints.isEmpty

namespace PlayStores

def new (active : ActiveStore τ σ) (hasRow : Bool) : PlayStores T S τ σ :=
  ⟨active, .none, false, false, hasRow, false⟩

def inLock : Operation → Job T S τ
  | .createArchive => .archiveChecks
  | .pruneActive => .pruneChecks
  | .read query => .restoreChecks query

def committed : Operation → Job T S τ
  | .read query => .finds query
  | op => .settled op .resolved

variable (s : PlayStores T S τ σ)

/-- The next call succeeds; `none` where the job is settled or waits for the lock. -/
def succeed : Job T S τ → Option (PlayStores T S τ σ × Job T S τ)
  | .readChecks query =>
    some (s, if s.shouldGetFromArchive then .locks (.read query) else .finds query)
  | .locks op =>
    if !s.hasRow then some (s, .settled op .rejected)
    else if s.locked then none
    else some ({ s with locked := true }, inLock op)
  -- createArchive
  | .archiveChecks =>
    some (s, if s.hasArchived then .commits .createArchive else .archiveFindsOriginal)
  | .archiveFindsOriginal =>
    some (s, .archiveFindsExcluded
      ((Collection.sortFrame s.active.original).map f.tick.decodeRecord))
  | .archiveFindsExcluded original =>
    some (s, .archiveFindsStartPoints ⟨original,
      (Collection.sortFrame s.active.excludedIgnorable).map f.tick.decodeRecord⟩)
  | .archiveFindsStartPoints ticks =>
    let content : Content T S := ⟨ticks, s.active.getAllStartPoints f⟩
    some (s, if content.isEmpty then .rollsBack .createArchive
      else .archivePuts .original content)
  | .archivePuts part content =>
    some ({ s with files := s.files.put f part content },
      match part.next with
      | some part => .archivePuts part content
      | none => .archiveFlags)
  | .archiveFlags => some ({ s with hasArchived := true }, .commits .createArchive)
  -- pruneActive
  | .pruneChecks =>
    some (s, if s.shouldGetFromArchive then .commits .pruneActive else .pruneChecksArchive)
  | .pruneChecksArchive =>
    some (s, if s.hasArchived then .pruneFlags else .rollsBack .pruneActive)
  | .pruneFlags => some ({ s with shouldGetFromArchive := true }, .pruneDeletes .original)
  | .pruneDeletes part =>
    some ({ s with active := s.active.deleteMany part },
      match part.next with
      | some part => .pruneDeletes part
      | none => .commits .pruneActive)
  -- restore
  | .restoreChecks query =>
    some (s, if s.shouldGetFromArchive then .restoreGetsOriginal query
      else .commits (.read query))
  | .restoreGetsOriginal query =>
    some (s, match s.files.original with
      | none => .rollsBack (.read query)
      | some original => .restoreGetsExcluded query original)
  | .restoreGetsExcluded query original =>
    some (s, match s.files.excludedIgnorable with
      | none => .rollsBack (.read query)
      | some excludedIgnorable =>
        .restoreGetsStartPoints query (Ticks.sort f ⟨original, excludedIgnorable⟩))
  | .restoreGetsStartPoints query ticks =>
    some (s, match s.files.startPoints with
      | none => .rollsBack (.read query)
      | some startPoints =>
        let content : Content T S := ⟨ticks, startPoints⟩
        if content.isEmpty then .rollsBack (.read query)
        else .restoreDeletes query .original content)
  | .restoreDeletes query part content =>
    some ({ s with active := s.active.deleteMany part },
      match part.next with
      | some part => .restoreDeletes query part content
      | none => .restoreInserts query .original content)
  | .restoreInserts query part content =>
    let (active, inserted) := s.active.insertMany f content part
    some ({ s with active },
      if !inserted then .rollsBack (.read query)
      else
        match part.next with
        | some part => .restoreInserts query part content
        | none => .restoreFlags query)
  | .restoreFlags query => some ({ s with shouldGetFromArchive := false }, .commits (.read query))
  -- the end of a transaction, and of a read
  | .commits op => some ({ s with locked := false }, committed op)
  | .rollsBack op => some ({ s with locked := false }, .settled op .rejected)
  | .finds query =>
    some (s, match s.active.find f query with
      | none => .findsAgain query
      | some answer => .settled (.read query) (.answered answer))
  | .findsAgain query =>
    some (s, .settled (.read query) (.answered (s.active.findAgain f query)))
  | .settled .. => none

def fail (fault : Fault) :
    Job T S τ → Option (PlayStores T S τ σ × Job T S τ)
  | .readChecks query => some (s, .settled (.read query) .rejected)
  | .locks op => some (s, .settled op .rejected)
  | .archiveChecks | .archiveFindsOriginal | .archiveFindsExcluded _
  | .archiveFindsStartPoints _ => some (s, .rollsBack .createArchive)
  | .archivePuts part content =>
    some (if fault.applied then { s with files := s.files.put f part content } else s,
      .rollsBack .createArchive)
  | .archiveFlags =>
    some ({ s with hasArchived := s.hasArchived || fault.applied }, .rollsBack .createArchive)
  | .pruneChecks | .pruneChecksArchive => some (s, .rollsBack .pruneActive)
  | .pruneFlags =>
    some ({ s with shouldGetFromArchive := s.shouldGetFromArchive || fault.applied },
      .rollsBack .pruneActive)
  | .pruneDeletes part =>
    some ({ s with active := s.active.deleteSome fault.kept part }, .rollsBack .pruneActive)
  | .restoreChecks query | .restoreGetsOriginal query | .restoreGetsExcluded query _
  | .restoreGetsStartPoints query _ => some (s, .rollsBack (.read query))
  | .restoreDeletes query part _ =>
    some ({ s with active := s.active.deleteSome fault.kept part }, .rollsBack (.read query))
  | .restoreInserts query part content =>
    some ({ s with active := s.active.insertSome f content fault.count part },
      .rollsBack (.read query))
  | .restoreFlags query =>
    some ({ s with shouldGetFromArchive := s.shouldGetFromArchive && !fault.applied },
      .rollsBack (.read query))
  | .commits op => some ({ s with locked := false }, .settled op .rejected)
  | .rollsBack op => some ({ s with locked := false }, .settled op .rejected)
  | .finds query | .findsAgain query => some (s, .settled (.read query) .rejected)
  | .settled .. => none

def next (job : Job T S τ) (fault : Option Fault) :
    Option (PlayStores T S τ σ × Job T S τ) :=
  match fault with
  | none => s.succeed f job
  | some fault => s.fail f fault job

end PlayStores

end AkashicSystem.Playlog
