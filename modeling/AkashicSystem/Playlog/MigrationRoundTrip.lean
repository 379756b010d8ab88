import AkashicSystem.Playlog.MigrationReaders

/-!
# Archiving and pruning a play

The calls of the facade one after the other.  A play that was archived and pruned
is restored by its next read, if the archive has ignorable-excluded ticks; the
reads are then those of the restored collections.
-/

set_option autoImplicit false

namespace AkashicSystem.Playlog

open List

variable {T S τ σ : Type}

def Job.answer (f : Formats T S τ σ) : Job T S τ → Option (Answer T S τ)
  | .settled _ (.answered answer) => some (answer.decoded f)
  | _ => none

namespace PlayStores

open ActiveStore

section Calls

variable (f : Formats T S τ σ)

variable (s : PlayStores T S τ σ)

/-- A call of the facade by itself, with what befalls its calls to the stores. -/
def attempt (op : Operation) (faults : List (Option Fault)) :
    PlayStores T S τ σ × Job T S τ := Run.final (Pool.solo (next f)) (s, op.job) faults

/-- A call of the facade by itself; none makes more than sixteen calls to the stores. -/
def call (op : Operation) : PlayStores T S τ σ × Job T S τ :=
  s.attempt f op (replicate 16 none)

/-- What a read gives, with raw ticks decoded; `none` is a rejection. -/
def readable (query : Query) : Option (Answer T S τ) :=
  (s.call f (.read query)).2.answer f

def afterReads (queries : List Query) : PlayStores T S τ σ :=
  queries.foldl (fun s query => (s.call f (.read query)).1) s

def archivedAndPruned : PlayStores T S τ σ :=
  ((s.call f .createArchive).1.call f .pruneActive).1

end Calls

variable {f : Formats T S τ σ} {c : ActiveStore τ σ} {s s' : PlayStores T S τ σ}
  {job job' : Job T S τ}

theorem final_next (moves : s.succeed f job = some (s', job')) (count : Nat) :
    Run.final (Pool.solo (next f)) (s, job) (replicate (count + 1) none) =
      Run.final (Pool.solo (next f)) (s', job') (replicate count none) := by
  rw [replicate_succ, Run.final_cons]
  have solo : Pool.solo (next f) (s, job) none = (s', job') := by
    rw [Pool.solo, next, moves]
    rfl
  rw [solo]

theorem final_settled (op : Operation) (outcome : Outcome T S τ) (faults : List (Option Fault)) :
    Run.final (Pool.solo (next f)) (s, .settled op outcome) faults = (s, .settled op outcome) := by
  induction faults with
  | nil => rfl
  | cons fault rest ih =>
    have solo : Pool.solo (next f) (s, .settled op outcome) fault = (s, .settled op outcome) := by
      cases fault <;> rfl
    rw [Run.final_cons, solo, ih]

theorem final_finds (query : Query) (count : Nat) :
    Run.final (Pool.solo (next f)) (s, .finds query) (replicate (count + 2) none) =
      (s, .settled (.read query) (.answered (s.active.read f query))) := by
  cases found : s.active.find f query with
  | none =>
    have first : s.succeed f (.finds query) = some (s, .findsAgain query) := by
      simp only [succeed, found]
    have again : s.succeed f (.findsAgain query) =
        some (s, .settled (.read query) (.answered (s.active.read f query))) := by
      simp only [succeed, s.active.findAgain_eq f query found]
    rw [final_next first, final_next again, final_settled]
  | some answer =>
    have first : s.succeed f (.finds query) =
        some (s, .settled (.read query) (.answered (s.active.read f query))) := by
      simp only [succeed, found, s.active.find_eq_some f query answer found]
    rw [final_next first, final_settled]

theorem call_read_unflagged (flag : s.shouldGetFromArchive = false) (query : Query) :
    s.call f (.read query) = (s, .settled (.read query) (.answered (s.active.read f query))) := by
  have checks : s.succeed f (.readChecks query) = some (s, .finds query) := by
    simp [succeed, flag]
  show Run.final (Pool.solo (next f)) (s, .readChecks query) (replicate 16 none) = _
  rw [final_next checks, final_finds]

/-- The play when the restore of a read has been rejected for want of excluded ticks. -/
def halfRestored (f : Formats T S τ σ) (c : ActiveStore τ σ) (s : PlayStores T S τ σ) :
    PlayStores T S τ σ := { s with active := ⟨(c.restored f).original, [], []⟩ }

def nowRestored (f : Formats T S τ σ) (c : ActiveStore τ σ) (s : PlayStores T S τ σ) :
    PlayStores T S τ σ := { s with active := c.restored f, shouldGetFromArchive := false }

theorem final_restoreGets (keeps : f.Keeps) (labelled : c.Labelled f)
    (files : s.files = c.image f) (nonempty : c.original ≠ [] ∧ c.startPoints ≠ [])
    (query : Query) (count : Nat) : Run.final (Pool.solo (next f)) (s, .restoreGetsOriginal query)
        (replicate (count + 3) none) =
      Run.final (Pool.solo (next f)) (s, .restoreDeletes query .original (c.archived f))
        (replicate count none) := by
  have original : s.succeed f (.restoreGetsOriginal query) =
      some (s, .restoreGetsExcluded query (c.archived f).ticks.original) := by
    simp only [succeed, files]
    rfl
  have excluded : s.succeed f (.restoreGetsExcluded query (c.archived f).ticks.original) =
      some (s, .restoreGetsStartPoints query (c.archived f).ticks) := by
    have sorted : Ticks.sort f
        ⟨(c.archived f).ticks.original, f.tick.archived c.excludedIgnorable⟩ =
          (c.archived f).ticks := sort_archived keeps labelled
    simp only [succeed, files, image, sorted]
  have startPoints : s.succeed f (.restoreGetsStartPoints query (c.archived f).ticks) =
      some (s, .restoreDeletes query .original (c.archived f)) := by
    have whole : (⟨(c.archived f).ticks, f.startPoint.archived c.startPoints⟩ : Content T S) =
        c.archived f := rfl
    have some : (c.archived f).isEmpty = false := by
      rw [isEmpty_archived]
      simp [nonempty.1, nonempty.2]
    simp only [succeed, files, image, whole, some, Bool.false_eq_true, if_false]
  rw [final_next original, final_next excluded, final_next startPoints]

theorem final_restoreDeletes (query : Query) (content : Content T S) (count : Nat) :
    Run.final (Pool.solo (next f)) (s, .restoreDeletes query .original content)
        (replicate (count + 3) none) = Run.final (Pool.solo (next f))
        ({ s with active := .empty }, .restoreInserts query .original content)
        (replicate count none) := by
  rw [final_next rfl, final_next rfl, final_next rfl]
  rfl

section

variable (keeps : f.Keeps) (labelled : c.Labelled f) (active : s.active = .empty)

include keeps labelled active

theorem succeed_insertsOriginal (nonempty : c.original ≠ []) (query : Query) :
    s.succeed f (.restoreInserts query .original (c.archived f)) =
      some (halfRestored f c s, .restoreInserts query .excludedIgnorable (c.archived f)) := by
  have inserted := insertMany_restoredBefore (f := f) (c := c) keeps labelled .original
  rw [show restoredBefore f c .original = s.active from active.symm] at inserted
  rw [succeed_restoreInserts, inserted]
  simp [nonempty, halfRestored, restoredBefore, Part.next]

theorem final_insertsNothing (nonempty : c.original ≠ []) (nothing : c.excludedIgnorable = [])
    (query : Query) (count : Nat) :
    Run.final (Pool.solo (next f)) (s, .restoreInserts query .original (c.archived f))
        (replicate (count + 3) none) =
      ({ halfRestored f c s with locked := false }, .settled (.read query) .rejected) := by
  have inserted := insertMany_restoredBefore (f := f) (c := c) keeps labelled .excludedIgnorable
  have rejected : (halfRestored f c s).succeed f
      (.restoreInserts query .excludedIgnorable (c.archived f)) =
        some (halfRestored f c s, .rollsBack (.read query)) := by
    rw [succeed_restoreInserts, show (halfRestored f c s).active =
      restoredBefore f c .excludedIgnorable from rfl, inserted]
    simp [nothing, halfRestored, restoredBefore, restored,
      show f.tick.restored [] = [] from rfl]
  rw [final_next (succeed_insertsOriginal keeps labelled active nonempty query),
    final_next rejected, final_next rfl, final_settled]

theorem final_inserts (nonempty : c.original ≠ [] ∧ c.startPoints ≠ [])
    (some_ : c.excludedIgnorable ≠ []) (query : Query) (count : Nat) :
    Run.final (Pool.solo (next f)) (s, .restoreInserts query .original (c.archived f))
        (replicate (count + 7) none) = ({ nowRestored f c s with locked := false },
        .settled (.read query) (.answered ((c.restored f).read f query))) := by
  have inserted := insertMany_restoredBefore (f := f) (c := c) keeps labelled
  have excluded : (halfRestored f c s).succeed f
      (.restoreInserts query .excludedIgnorable (c.archived f)) =
        some ({ s with active := restoredBefore f c .startPoints },
          .restoreInserts query .startPoints (c.archived f)) := by
    rw [succeed_restoreInserts, show (halfRestored f c s).active =
      restoredBefore f c .excludedIgnorable from rfl, inserted .excludedIgnorable]
    simp [some_, halfRestored, Part.next]
  have startPoints : ({ s with active := restoredBefore f c .startPoints } :
      PlayStores T S τ σ).succeed f (.restoreInserts query .startPoints (c.archived f)) =
        some ({ s with active := c.restored f }, .restoreFlags query) := by
    rw [succeed_restoreInserts, inserted .startPoints]
    simp [nonempty.2, Part.next]
  rw [final_next (succeed_insertsOriginal keeps labelled active nonempty.1 query),
    final_next excluded, final_next startPoints, final_next rfl, final_next rfl]
  exact final_finds query count

end

theorem call_read_flagged (keeps : f.Keeps) (labelled : c.Labelled f) (glob : Glob f c s)
    (flag : s.shouldGetFromArchive = true) (unlocked : s.locked = false) (query : Query) :
    s.call f (.read query) =
      if c.excludedIgnorable = [] then
        (halfRestored f c s, .settled (.read query) .rejected)
      else
        (nowRestored f c s, .settled (.read query) (.answered ((c.restored f).read f query))) := by
  obtain ⟨_, files, nonempty⟩ := glob.archived_of_flag flag
  have isImage : ({ s with locked := true } : PlayStores T S τ σ).files = c.image f := files
  have row := glob.row flag
  have checks : s.succeed f (.readChecks query) = some (s, .locks (.read query)) := by
    simp [succeed, flag]
  have locks : s.succeed f (.locks (.read query)) =
      some ({ s with locked := true }, .restoreChecks query) := by
    simp [succeed, row, unlocked, inLock]
  have checksAgain : ({ s with locked := true } : PlayStores T S τ σ).succeed f
      (.restoreChecks query) = some ({ s with locked := true }, .restoreGetsOriginal query) := by
    simp [succeed, flag]
  rw [call, attempt, Operation.job, final_next checks, final_next locks, final_next checksAgain,
    final_restoreGets keeps labelled isImage nonempty, final_restoreDeletes]
  split
  · next nothing =>
    rw [final_insertsNothing keeps labelled rfl nonempty.1 nothing]
    simp [halfRestored, unlocked]
  · next some =>
    rw [final_inserts keeps labelled rfl nonempty some]
    simp [nowRestored, unlocked]

def nowArchived (f : Formats T S τ σ) (c : ActiveStore τ σ) : PlayStores T S τ σ :=
  ⟨c, c.image f, true, false, true, false⟩

def nowPruned (f : Formats T S τ σ) (c : ActiveStore τ σ) : PlayStores T S τ σ :=
  ⟨.empty, c.image f, true, true, true, false⟩

theorem final_archivePuts (files : Files T S) (count : Nat) :
    Run.final (Pool.solo (next f)) (⟨c, files, false, false, true, true⟩,
        .archivePuts .original (c.snapshot f)) (replicate (count + 5) none) =
      (nowArchived f c, .settled .createArchive .resolved) := by
  let put (part : Part) (files : Files T S) : Files T S := files.put f part (c.snapshot f)
  have original : (⟨c, files, false, false, true, true⟩ : PlayStores T S τ σ).succeed f
      (.archivePuts .original (c.snapshot f)) =
        some (⟨c, put .original files, false, false, true, true⟩,
          .archivePuts .excludedIgnorable (c.snapshot f)) := rfl
  have excluded : (⟨c, put .original files, false, false, true, true⟩ :
      PlayStores T S τ σ).succeed f (.archivePuts .excludedIgnorable (c.snapshot f)) =
        some (⟨c, put .excludedIgnorable (put .original files), false, false, true, true⟩,
          .archivePuts .startPoints (c.snapshot f)) := rfl
  have startPoints : (⟨c, put .excludedIgnorable (put .original files), false, false, true,
      true⟩ : PlayStores T S τ σ).succeed f (.archivePuts .startPoints (c.snapshot f)) =
        some (⟨c, c.image f, false, false, true, true⟩, .archiveFlags) := rfl
  have flags : (⟨c, c.image f, false, false, true, true⟩ : PlayStores T S τ σ).succeed f
      .archiveFlags = some (⟨c, c.image f, true, false, true, true⟩, .commits .createArchive) := rfl
  have commits : (⟨c, c.image f, true, false, true, true⟩ : PlayStores T S τ σ).succeed f
      (.commits .createArchive) =
        some (nowArchived f c, .settled .createArchive .resolved) := rfl
  rw [final_next original, final_next excluded, final_next startPoints, final_next flags,
    final_next commits, final_settled]

theorem call_createArchive (nonempty : c.original ≠ [] ∧ c.startPoints ≠ []) :
    (new c true).call f .createArchive = (nowArchived f c, .settled .createArchive .resolved) := by
  let locked : PlayStores T S τ σ := ⟨c, .none, false, false, true, true⟩
  have locks : (new c true).succeed f (.locks .createArchive) = some (locked, .archiveChecks) := rfl
  have checks : locked.succeed f .archiveChecks = some (locked, .archiveFindsOriginal) := rfl
  have original : locked.succeed f .archiveFindsOriginal =
      some (locked, .archiveFindsExcluded (c.snapshot f).ticks.original) := rfl
  have excluded : locked.succeed f (.archiveFindsExcluded (c.snapshot f).ticks.original) =
      some (locked, .archiveFindsStartPoints (c.snapshot f).ticks) := rfl
  have startPoints : locked.succeed f (.archiveFindsStartPoints (c.snapshot f).ticks) =
      some (locked, .archivePuts .original (c.snapshot f)) := by
    have whole : (⟨(c.snapshot f).ticks, locked.active.getAllStartPoints f⟩ : Content T S) =
        c.snapshot f := rfl
    have some : (c.snapshot f).isEmpty = false := by
      rw [isEmpty_snapshot]
      simp [nonempty.1, nonempty.2]
    simp only [succeed, whole, some, Bool.false_eq_true, if_false]
  rw [call, attempt, Operation.job, final_next locks, final_next checks, final_next original,
    final_next excluded, final_next startPoints]
  exact final_archivePuts .none 6

theorem call_pruneActive (active : ActiveStore τ σ) (files : Files T S) :
    (⟨active, files, true, false, true, false⟩ : PlayStores T S τ σ).call f .pruneActive =
      (⟨.empty, files, true, true, true, false⟩, .settled .pruneActive .resolved) := by
  let flagged (active : ActiveStore τ σ) : PlayStores T S τ σ :=
    ⟨active, files, true, true, true, true⟩
  let locked : PlayStores T S τ σ := ⟨active, files, true, false, true, true⟩
  have locks : (⟨active, files, true, false, true, false⟩ : PlayStores T S τ σ).succeed f
      (.locks .pruneActive) = some (locked, .pruneChecks) := rfl
  have checks : locked.succeed f .pruneChecks = some (locked, .pruneChecksArchive) := rfl
  have checksArchive : locked.succeed f .pruneChecksArchive = some (locked, .pruneFlags) := rfl
  have flags : locked.succeed f .pruneFlags =
      some (flagged active, .pruneDeletes .original) := rfl
  have original : (flagged active).succeed f (.pruneDeletes .original) =
      some (flagged (active.deleteMany .original), .pruneDeletes .excludedIgnorable) := rfl
  have excluded : (flagged (active.deleteMany .original)).succeed f
      (.pruneDeletes .excludedIgnorable) =
        some (flagged ((active.deleteMany .original).deleteMany .excludedIgnorable),
          .pruneDeletes .startPoints) := rfl
  have startPoints :
      (flagged ((active.deleteMany .original).deleteMany .excludedIgnorable)).succeed f
        (.pruneDeletes .startPoints) = some (flagged .empty, .commits .pruneActive) := rfl
  have commits : (flagged .empty).succeed f (.commits .pruneActive) =
      some (⟨.empty, files, true, true, true, false⟩, .settled .pruneActive .resolved) := rfl
  rw [call, attempt, Operation.job, final_next locks, final_next checks, final_next checksArchive,
    final_next flags, final_next original, final_next excluded, final_next startPoints,
    final_next commits, final_settled]

theorem call_pruneActive_pruned (active : ActiveStore τ σ) (files : Files T S)
    (hasArchived : Bool) :
    (⟨active, files, hasArchived, true, true, false⟩ : PlayStores T S τ σ).call f .pruneActive =
      (⟨active, files, hasArchived, true, true, false⟩, .settled .pruneActive .resolved) := by
  let locked : PlayStores T S τ σ := ⟨active, files, hasArchived, true, true, true⟩
  have locks : (⟨active, files, hasArchived, true, true, false⟩ : PlayStores T S τ σ).succeed f
      (.locks .pruneActive) = some (locked, .pruneChecks) := rfl
  have checks : locked.succeed f .pruneChecks = some (locked, .commits .pruneActive) := rfl
  have commits : locked.succeed f (.commits .pruneActive) =
      some (⟨active, files, hasArchived, true, true, false⟩, .settled .pruneActive .resolved) :=
    rfl
  rw [call, attempt, Operation.job, final_next locks, final_next checks, final_next commits,
    final_settled]

theorem call_rowless (op : Operation) (job : (op.job : Job T S τ) = .locks op) :
    (new c false).call f op = (new c false, .settled op .rejected) := by
  have locks : (new c false : PlayStores T S τ σ).succeed f (.locks op) =
      some (new c false, .settled op .rejected) := rfl
  rw [call, attempt, job, final_next locks, final_settled]

theorem archivedAndPruned_eq (nonempty : c.original ≠ [] ∧ c.startPoints ≠ []) (hasRow : Bool) :
    (new c hasRow).archivedAndPruned f = if hasRow then nowPruned f c else new c false := by
  cases hasRow with
  | false =>
    rw [archivedAndPruned, call_rowless .createArchive rfl, call_rowless .pruneActive rfl]
    rfl
  | true =>
    rw [archivedAndPruned, call_createArchive nonempty, nowArchived, call_pruneActive]
    rfl

theorem glob_nowPruned (nonempty : c.original ≠ [] ∧ c.startPoints ≠ []) :
    Glob f c (nowPruned f c) where
  unarchived none := by cases none
  archived _ := ⟨rfl, nonempty⟩
  readable none := by cases none
  row _ := rfl

theorem readable_answered {answer : Answer T S τ} (query : Query)
    (called : s.call f (.read query) = (s', .settled (.read query) (.answered answer))) :
    s.readable f query = some (answer.decoded f) := by
  rw [readable, called]
  rfl

theorem readable_rejected (query : Query)
    (called : s.call f (.read query) = (s', .settled (.read query) .rejected)) :
    s.readable f query = none := by
  rw [readable, called]
  rfl

theorem readable_unflagged (flag : s.shouldGetFromArchive = false) (queries : List Query)
    (query : Query) : (s.afterReads f queries).readable f query =
      some ((s.active.read f query : Answer T S τ).decoded f) := by
  have same : s.afterReads f queries = s := by
    induction queries with
    | nil => rfl
    | cons first rest ih =>
      rw [afterReads, foldl_cons, call_read_unflagged flag first]
      exact ih
  rw [same, readable_answered query (call_read_unflagged flag query)]

def unexcludedPuts : List (Put Sample Sample) :=
  [.tick ⟨1, none, .number 7⟩ false, .startPoint ⟨0, some 100, .number 0⟩]

end PlayStores

end AkashicSystem.Playlog
