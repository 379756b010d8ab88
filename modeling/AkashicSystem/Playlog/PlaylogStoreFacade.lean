import AkashicSystem.Lib.Run
import AkashicSystem.Playlog.MongoDBStore

/-!
# The playlog store facade

The calls of `PlaylogStoreFacade` on one play, interleaved at each call to the
active store, the archive, the metadata or the lock.  A task is where a call
stands: its next call to a store, with what it has read so far.
-/

set_option autoImplicit false

namespace AkashicSystem.Playlog

variable {T S τ σ : Type}

/-- `putTick` or `putStartPoint`. -/
inductive Put (T S : Type) where
  | tick (tick : T) (ignorable : Bool)
  | startPoint (startPoint : S)

inductive Query where
  | getTick (frame : Int) (ignorable : Bool)
  | getTicks (query : TicksQuery)
  | getTicksRaw (query : TicksQuery)
  | getStartPoint (frame : Int)
  | getStartPoints (limit : Nat)
  | getClosestStartPoint (frame : Int)
  | getClosestStartPointByTimestamp (timestamp : Int)

inductive Answer (T S τ : Type) where
  | tick (tick : Option T)
  | ticks (ticks : List T)
  | ticksRaw (ticks : List τ)
  | startPoint (startPoint : Option S)
  | startPoints (startPoints : List S)

namespace ActiveStore

variable (f : Formats T S τ σ)

/-- `none` is the conflict error. -/
def put (s : ActiveStore τ σ) : Put T S → Option (ActiveStore τ σ)
  | .tick tick ignorable => s.putTick f tick ignorable
  | .startPoint startPoint => s.putStartPoint f startPoint

def read (s : ActiveStore τ σ) : Query → Answer T S τ
  | .getTick frame ignorable => .tick (s.getTick f frame ignorable)
  | .getTicks query => .ticks (s.getTicks f query)
  | .getTicksRaw query => .ticksRaw (s.getTicksRaw query)
  | .getStartPoint frame => .startPoint (s.getStartPoint f frame)
  | .getStartPoints limit => .startPoints (s.getStartPoints f limit)
  | .getClosestStartPoint frame => .startPoint (s.getClosestStartPoint f frame)
  | .getClosestStartPointByTimestamp timestamp =>
    .startPoint (s.getClosestStartPointByTimestamp f timestamp)

end ActiveStore

structure Stores (T S τ σ : Type) where
  active : ActiveStore τ σ
  archive : Option (Archive T S)
  hasArchived : Bool
  shouldGetFromArchive : Bool
  /-- The play has the row that `withPlaylogLock` locks. -/
  hasRow : Bool
  locked : Bool

inductive Task (T S τ : Type) where
  | putChecks (put : Put T S)
  | putWrites (put : Put T S)
  | putSettled (put : Put T S) (resolved : Bool)
  | archiveLocks
  | archiveChecks
  | archiveReadsTicks
  | archiveReadsStartPoints (ticks : Ticks T)
  | archiveStores (ticks : Ticks T) (startPoints : List S)
  | archiveFlags
  | archiveUnlocks (resolved : Bool)
  | archiveSettled (resolved : Bool)
  | pruneLocks
  | pruneChecksActive
  | pruneChecksArchive
  | pruneFlags
  | pruneDeletes
  | pruneUnlocks (resolved : Bool)
  | pruneSettled (resolved : Bool)
  | readChecks (query : Query)
  | restoreLocks (query : Query)
  | restoreChecks (query : Query)
  | restoreReadsTicks (query : Query)
  | restoreReadsStartPoints (query : Query) (ticks : Ticks T)
  | restoreStores (query : Query) (ticks : Ticks T) (startPoints : List S)
  | restoreFlags (query : Query)
  | restoreUnlocks (query : Query) (resolved : Bool)
  | readReads (query : Query)
  /-- `none` is a rejection. -/
  | readSettled (query : Query) (answer : Option (Answer T S τ))

namespace Stores

/-- `withPlaylogLock` takes the lock, waits for it, or throws for want of a row. -/
def lock (s : Stores T S τ σ) (inLock thrown : Task T S τ) :
    Option (Stores T S τ σ × Task T S τ) :=
  if !s.hasRow then some (s, thrown)
  else if s.locked then none
  else some ({ s with locked := true }, inLock)

variable (f : Formats T S τ σ)

/-- The next call to a store; `none` where the task is settled or waits for the lock. -/
def next (s : Stores T S τ σ) : Task T S τ → Option (Stores T S τ σ × Task T S τ)
  | .putChecks put =>
    some (s, if s.hasArchived then .putSettled put false else .putWrites put)
  | .putWrites put =>
    match s.active.put f put with
    | none => some (s, .putSettled put false)
    | some active => some ({ s with active }, .putSettled put true)
  | .putSettled _ _ => none
  -- createArchive
  | .archiveLocks => s.lock .archiveChecks (.archiveSettled false)
  | .archiveChecks =>
    some (s, if s.hasArchived then .archiveUnlocks true else .archiveReadsTicks)
  | .archiveReadsTicks => some (s, .archiveReadsStartPoints (s.active.getAllTicks f))
  | .archiveReadsStartPoints ticks =>
    let startPoints := s.active.getAllStartPoints f
    some (s, if ticks.original.isEmpty || startPoints.isEmpty then .archiveUnlocks false
      else .archiveStores ticks startPoints)
  | .archiveStores ticks startPoints =>
    some ({ s with archive := some (Archive.store f ticks startPoints) }, .archiveFlags)
  | .archiveFlags => some ({ s with hasArchived := true }, .archiveUnlocks true)
  | .archiveUnlocks resolved => some ({ s with locked := false }, .archiveSettled resolved)
  | .archiveSettled _ => none
  -- pruneActive
  | .pruneLocks => s.lock .pruneChecksActive (.pruneSettled false)
  | .pruneChecksActive =>
    some (s, if s.shouldGetFromArchive then .pruneUnlocks true else .pruneChecksArchive)
  | .pruneChecksArchive =>
    some (s, if s.hasArchived then .pruneFlags else .pruneUnlocks false)
  | .pruneFlags => some ({ s with shouldGetFromArchive := true }, .pruneDeletes)
  | .pruneDeletes => some ({ s with active := s.active.deleteAll }, .pruneUnlocks true)
  | .pruneUnlocks resolved => some ({ s with locked := false }, .pruneSettled resolved)
  | .pruneSettled _ => none
  -- a read, with restore
  | .readChecks query =>
    some (s, if s.shouldGetFromArchive then .restoreLocks query else .readReads query)
  | .restoreLocks query => s.lock (.restoreChecks query) (.readSettled query none)
  | .restoreChecks query =>
    some (s, if s.shouldGetFromArchive then .restoreReadsTicks query
      else .restoreUnlocks query true)
  | .restoreReadsTicks query =>
    match s.archive with
    | none => some (s, .restoreUnlocks query false)
    | some archive => some (s, .restoreReadsStartPoints query (archive.getAllTicks f))
  | .restoreReadsStartPoints query ticks =>
    match s.archive with
    | none => some (s, .restoreUnlocks query false)
    | some archive =>
      let startPoints := archive.getAllStartPoints
      some (s, if ticks.original.isEmpty || startPoints.isEmpty then
          .restoreUnlocks query false
        else .restoreStores query ticks startPoints)
  | .restoreStores query ticks startPoints =>
    let (active, stored) := ActiveStore.store f ticks startPoints
    some ({ s with active },
      if stored then .restoreFlags query else .restoreUnlocks query false)
  | .restoreFlags query =>
    some ({ s with shouldGetFromArchive := false }, .restoreUnlocks query true)
  | .restoreUnlocks query resolved =>
    some ({ s with locked := false },
      if resolved then .readReads query else .readSettled query none)
  | .readReads query => some (s, .readSettled query (some (s.active.read f query)))
  | .readSettled _ _ => none

end Stores

inductive FacadeCall (T S : Type) where
  | put (put : Put T S)
  | createArchive
  | pruneActive
  | read (query : Query)

def FacadeCall.task : FacadeCall T S → Task T S τ
  | .put p => .putChecks p
  | .createArchive => .archiveLocks
  | .pruneActive => .pruneLocks
  | .read query => .readChecks query

structure Facade (T S τ σ : Type) where
  stores : Stores T S τ σ
  tasks : List (Task T S τ)

inductive FacadeAction (T S : Type) where
  | call (call : FacadeCall T S)
  | step (index : Nat)

namespace Facade

def new (hasRow : Bool) : Facade T S τ σ :=
  ⟨⟨ActiveStore.empty, none, false, false, hasRow, false⟩, []⟩

def step (f : Formats T S τ σ) (w : Facade T S τ σ) : FacadeAction T S → Facade T S τ σ
  | .call call => { w with tasks := w.tasks ++ [call.task] }
  | .step index =>
    match w.tasks[index]? with
    | none => w
    | some task =>
      match w.stores.next f task with
      | none => w
      | some (stores, task) => ⟨stores, w.tasks.set index task⟩

end Facade
end AkashicSystem.Playlog
