import AkashicSystem.Playlog.MigrationRoundTrip

/-!
# Migrations that fail

Calls of the facade one after the other, each of whose calls to the stores may
fail.  What was readable stays so, and a call that is made again until it succeeds
leaves the play as if it had not failed, unless the archive has lost something.
-/

set_option autoImplicit false

namespace AkashicSystem.Playlog

open ActiveStore (decoded_read labelled_stored stored)

variable {T S τ σ : Type}

namespace Job

def op : Job T S τ → Operation
  | .readChecks query | .restoreChecks query | .restoreGetsOriginal query
  | .restoreGetsExcluded query _ | .restoreGetsStartPoints query _ | .restoreDeletes query _ _
  | .restoreInserts query _ _ | .restoreFlags query | .finds query | .findsAgain query =>
    .read query
  | .archiveChecks | .archiveFindsOriginal | .archiveFindsExcluded _ | .archiveFindsStartPoints _
  | .archivePuts .. | .archiveFlags => .createArchive
  | .pruneChecks | .pruneChecksArchive | .pruneFlags | .pruneDeletes _ => .pruneActive
  | .locks op | .commits op | .rollsBack op | .settled op _ => op

def looks : Job T S τ → Bool
  | .finds _ | .findsAgain _ => true
  | _ => false

def flagged : Job T S τ → Bool
  | .pruneDeletes _ | .commits .pruneActive | .settled .pruneActive .resolved
  | .settled .pruneActive (.answered _) => true
  | _ => false

end Job

namespace PlayStores

variable {f : Formats T S τ σ} {c : ActiveStore τ σ} {s s' : PlayStores T S τ σ}
  {job job' : Job T S τ}

def Shown (f : Formats T S τ σ) (c : ActiveStore τ σ) (s : PlayStores T S τ σ)
    (job : Job T S τ) : Job T S τ → Prop
  | .settled (.read query) (.answered answer) =>
    job.looks = true ∧ (s.active = c → answer = c.read f query)
  | _ => True

/-- What a step can change, and what its job knows afterwards if it is alone. -/
structure Effects (f : Formats T S τ σ) (c : ActiveStore τ σ) (s : PlayStores T S τ σ)
    (job : Job T S τ) (s' : PlayStores T S τ σ) (job' : Job T S τ) : Prop where
  op : job'.op = job.op
  row : s'.hasRow = s.hasRow
  lock : s.locked = job.holds → s'.locked = job'.holds
  archived : s'.hasArchived = s.hasArchived ∨ job.op = .createArchive
  flag : s'.shouldGetFromArchive = s.shouldGetFromArchive ∨
    (job.op = .pruneActive ∧ s'.shouldGetFromArchive = true) ∨
    ∃ query, job = .restoreFlags query
  active : s'.active = s.active ∨
    (s.shouldGetFromArchive = true ∧ s'.shouldGetFromArchive = true)
  looks : job'.looks = true → (job.looks = true → s.shouldGetFromArchive = false) →
    s'.shouldGetFromArchive = false
  flagged : job'.flagged = true → s'.shouldGetFromArchive = true
  answer : Shown f c s job job'

theorem succeed_effects (moves : s.succeed f job = some (s', job')) (loc : Loc f c s job)
    (before : job.flagged = true → s.shouldGetFromArchive = true) : Effects f c s job s' job' := by
  obtain ⟨lock, here⟩ := loc
  cases job with
  | readChecks query =>
    cases moves
    cases flag : s.shouldGetFromArchive with
    | true => exact ⟨rfl, rfl, id, .inl rfl, .inl rfl, .inl rfl, nofun, nofun, trivial⟩
    | false =>
      exact ⟨rfl, rfl, id, .inl rfl, .inl rfl, .inl rfl, fun _ _ => flag, nofun, trivial⟩
  | locks op =>
    rw [succeed_locks] at moves
    split_ifs at moves with noRow held
    · cases moves
      cases op <;>
        exact ⟨rfl, rfl, id, .inl rfl, .inl rfl, .inl rfl, nofun, nofun, trivial⟩
    · cases moves
      cases op <;> exact
        ⟨rfl, rfl, fun _ => rfl, .inl rfl, .inl rfl, .inl rfl, nofun, nofun, trivial⟩
  | archiveChecks =>
    cases moves
    cases s.hasArchived with
    | true | false => exact ⟨rfl, rfl, id, .inl rfl, .inl rfl, .inl rfl, nofun, nofun, trivial⟩
  | archiveFindsStartPoints ticks =>
    cases moves
    split <;> exact ⟨rfl, rfl, id, .inl rfl, .inl rfl, .inl rfl, nofun, nofun, trivial⟩
  | archivePuts part content =>
    cases moves
    cases part <;> exact ⟨rfl, rfl, id, .inl rfl, .inl rfl, .inl rfl, nofun, nofun, trivial⟩
  | archiveFlags =>
    cases moves
    exact ⟨rfl, rfl, id, .inr rfl, .inl rfl, .inl rfl, nofun, nofun, trivial⟩
  | pruneChecks =>
    cases moves
    cases flag : s.shouldGetFromArchive with
    | true => exact ⟨rfl, rfl, id, .inl rfl, .inl rfl, .inl rfl, nofun, fun _ => flag, trivial⟩
    | false => exact ⟨rfl, rfl, id, .inl rfl, .inl rfl, .inl rfl, nofun, nofun, trivial⟩
  | pruneChecksArchive =>
    cases moves
    cases s.hasArchived with
    | true | false => exact ⟨rfl, rfl, id, .inl rfl, .inl rfl, .inl rfl, nofun, nofun, trivial⟩
  | pruneFlags =>
    cases moves
    exact ⟨rfl, rfl, id, .inl rfl, .inr (.inl ⟨rfl, rfl⟩), .inl rfl, nofun, fun _ => rfl, trivial⟩
  | pruneDeletes part =>
    cases moves
    have flag := here.2
    cases part <;>
      exact ⟨rfl, rfl, id, .inl rfl, .inl rfl, .inr ⟨flag, flag⟩, nofun, fun _ => flag, trivial⟩
  | restoreChecks query =>
    cases moves
    cases s.shouldGetFromArchive with
    | true | false => exact ⟨rfl, rfl, id, .inl rfl, .inl rfl, .inl rfl, nofun, nofun, trivial⟩
  | restoreGetsOriginal query | restoreGetsExcluded query original =>
    cases moves
    split <;> exact ⟨rfl, rfl, id, .inl rfl, .inl rfl, .inl rfl, nofun, nofun, trivial⟩
  | restoreGetsStartPoints query ticks =>
    cases moves
    split
    · exact ⟨rfl, rfl, id, .inl rfl, .inl rfl, .inl rfl, nofun, nofun, trivial⟩
    · dsimp only
      split <;> exact ⟨rfl, rfl, id, .inl rfl, .inl rfl, .inl rfl, nofun, nofun, trivial⟩
  | restoreDeletes query part content =>
    cases moves
    have flag := here.1
    cases part <;>
      exact ⟨rfl, rfl, id, .inl rfl, .inl rfl, .inr ⟨flag, flag⟩, nofun, nofun, trivial⟩
  | restoreInserts query part content =>
    rw [succeed_restoreInserts] at moves
    have flag := here.1
    cases moves
    split
    · exact ⟨rfl, rfl, id, .inl rfl, .inl rfl, .inr ⟨flag, flag⟩, nofun, nofun, trivial⟩
    · cases part <;>
        exact ⟨rfl, rfl, id, .inl rfl, .inl rfl, .inr ⟨flag, flag⟩, nofun, nofun, trivial⟩
  | restoreFlags query =>
    cases moves
    exact ⟨rfl, rfl, id, .inl rfl, .inr (.inr ⟨query, rfl⟩), .inl rfl, nofun, nofun, trivial⟩
  | commits op =>
    cases moves
    cases op with
    | createArchive =>
      exact ⟨rfl, rfl, fun _ => rfl, .inl rfl, .inl rfl, .inl rfl, nofun, nofun, trivial⟩
    | pruneActive =>
      exact ⟨rfl, rfl, fun _ => rfl, .inl rfl, .inl rfl, .inl rfl, nofun, fun _ => before rfl,
        trivial⟩
    | read query =>
      exact ⟨rfl, rfl, fun _ => rfl, .inl rfl, .inl rfl, .inl rfl, fun _ _ => here, nofun,
        trivial⟩
  | rollsBack op =>
    cases moves
    cases op <;>
      exact ⟨rfl, rfl, fun _ => rfl, .inl rfl, .inl rfl, .inl rfl, nofun, nofun, trivial⟩
  | finds query =>
    cases moves
    cases found : s.active.find f query with
    | none =>
      exact ⟨rfl, rfl, id, .inl rfl, .inl rfl, .inl rfl, fun _ flag => flag rfl, nofun, trivial⟩
    | some answer =>
      refine ⟨rfl, rfl, id, .inl rfl, .inl rfl, .inl rfl, nofun, nofun, rfl, fun isC => ?_⟩
      rw [isC] at found
      exact c.find_eq_some f query answer found
  | findsAgain query =>
    cases moves
    refine ⟨rfl, rfl, id, .inl rfl, .inl rfl, .inl rfl, nofun, nofun, rfl, fun isC => ?_⟩
    rw [isC]
    exact c.findAgain_eq f query here.2
  | settled op outcome => cases moves
  | _ =>
    cases moves
    exact ⟨rfl, rfl, id, .inl rfl, .inl rfl, .inl rfl, nofun, nofun, trivial⟩

theorem fail_effects (fault : Fault) (moves : s.fail f fault job = some (s', job'))
    (loc : Loc f c s job) : Effects f c s job s' job' := by
  obtain ⟨lock, here⟩ := loc
  cases job with
  | locks op =>
    cases moves
    cases op <;>
      exact ⟨rfl, rfl, id, .inl rfl, .inl rfl, .inl rfl, nofun, nofun, trivial⟩
  | archivePuts part content =>
    cases moves
    split <;> exact ⟨rfl, rfl, id, .inl rfl, .inl rfl, .inl rfl, nofun, nofun, trivial⟩
  | archiveFlags =>
    cases moves
    exact ⟨rfl, rfl, id, .inr rfl, .inl rfl, .inl rfl, nofun, nofun, trivial⟩
  | pruneFlags =>
    cases moves
    refine ⟨rfl, rfl, id, .inl rfl, ?_, .inl rfl, nofun, nofun, trivial⟩
    cases fault.applied with
    | true => exact .inr (.inl ⟨rfl, Bool.or_true _⟩)
    | false => exact .inl (Bool.or_false _)
  | pruneDeletes part =>
    cases moves
    exact ⟨rfl, rfl, id, .inl rfl, .inl rfl, .inr ⟨here.2, here.2⟩, nofun, nofun, trivial⟩
  | restoreDeletes query part content | restoreInserts query part content =>
    cases moves
    exact ⟨rfl, rfl, id, .inl rfl, .inl rfl, .inr ⟨here.1, here.1⟩, nofun, nofun, trivial⟩
  | restoreFlags query =>
    cases moves
    exact ⟨rfl, rfl, id, .inl rfl, .inr (.inr ⟨query, rfl⟩), .inl rfl, nofun, nofun, trivial⟩
  | commits op | rollsBack op =>
    cases moves
    cases op <;>
      exact ⟨rfl, rfl, fun _ => rfl, .inl rfl, .inl rfl, .inl rfl, nofun, nofun, trivial⟩
  | settled op outcome => cases moves
  | _ =>
    cases moves
    exact ⟨rfl, rfl, id, .inl rfl, .inl rfl, .inl rfl, nofun, nofun, trivial⟩

/-- The play cannot be archived, or its archive cannot be restored. -/
def Unrestorable (c : ActiveStore τ σ) : Prop :=
  c.original = [] ∨ c.startPoints = [] ∨ c.excludedIgnorable = []

structure Alone (f : Formats T S τ σ) (c : ActiveStore τ σ) (began s : PlayStores T S τ σ)
    (job : Job T S τ) : Prop where
  row : s.hasRow = began.hasRow
  lock : s.locked = job.holds
  looks : job.looks = true → s.shouldGetFromArchive = false
  flagged : job.flagged = true → s.shouldGetFromArchive = true
  archived : job.op ≠ .createArchive → s.hasArchived = began.hasArchived
  flag : job.op = .createArchive ∨ (job.op ≠ .pruneActive ∧ c.excludedIgnorable = []) →
    s.shouldGetFromArchive = began.shouldGetFromArchive
  unrestored : Unrestorable c → s.shouldGetFromArchive = false → s.active = c
  answer : Unrestorable c → ∀ query answer, job = .settled (.read query) (.answered answer) →
    answer = c.read f query

theorem restorable_of_restoreFlags (glob : Glob f c s) (query : Query)
    (loc : Loc f c s (.restoreFlags query)) : ¬ Unrestorable c := by
  obtain ⟨flag, _, some⟩ := loc.here
  obtain ⟨_, _, original, startPoints⟩ := glob.archived_of_flag flag
  rintro (none | none | none)
  · exact original none
  · exact startPoints none
  · exact some none

theorem next_alone (began : PlayStores T S τ σ) (fault : Option Fault)
    (moves : s.next f job fault = some (s', job')) (glob : Glob f c s) (loc : Loc f c s job)
    (alone : Alone f c began s job) : Alone f c began s' job' ∧ job'.op = job.op := by
  have effects : Effects f c s job s' job' := by
    cases fault with
    | none => exact succeed_effects moves loc alone.flagged
    | some fault => exact fail_effects fault moves loc
  refine ⟨?_, effects.op⟩
  constructor
  · exact effects.row.trans alone.row
  · exact effects.lock alone.lock
  · intro looks
    exact effects.looks looks alone.looks
  · exact effects.flagged
  · intro other
    rw [effects.op] at other
    rcases effects.archived with same | create
    · rw [same]
      exact alone.archived other
    · exact absurd create other
  · intro unflagging
    rw [effects.op] at unflagging
    rcases effects.flag with same | ⟨prune, _⟩ | ⟨query, restores⟩
    · rw [same]
      exact alone.flag unflagging
    · rcases unflagging with create | ⟨other, _⟩
      · rw [prune] at create
        cases create
      · exact absurd prune other
    · subst restores
      rcases unflagging with create | ⟨_, nothing⟩
      · cases create
      · exact absurd (.inr (.inr nothing)) (restorable_of_restoreFlags glob query loc)
  · intro unrestorable unflagged
    have before : s.shouldGetFromArchive = false := by
      rcases effects.flag with same | ⟨_, set⟩ | ⟨query, restores⟩
      · rw [← same]
        exact unflagged
      · rw [set] at unflagged
        cases unflagged
      · subst restores
        exact absurd unrestorable (restorable_of_restoreFlags glob query loc)
    rcases effects.active with same | ⟨flag, _⟩
    · rw [same]
      exact alone.unrestored unrestorable before
    · rw [before] at flag
      cases flag
  · rintro unrestorable query answer rfl
    obtain ⟨looked, shown⟩ := effects.answer
    exact shown (alone.unrestored unrestorable (alone.looks looked))

structure Sound (f : Formats T S τ σ) (c : ActiveStore τ σ) (s : PlayStores T S τ σ) : Prop where
  glob : Glob f c s
  unlocked : s.locked = false
  unrestored : Unrestorable c → s.shouldGetFromArchive = false → s.active = c

theorem Sound.alone_job (sound : Sound f c s) (op : Operation) : Alone f c s s op.job := by
  refine ⟨rfl, ?_, ?_, ?_, fun _ => rfl, fun _ => rfl, sound.unrestored, ?_⟩
  · rw [sound.unlocked]
    cases op <;> rfl
  · cases op <;> exact nofun
  · cases op <;> exact nofun
  · intro _ query answer settled
    cases op <;> cases settled

section

variable (keeps : f.Keeps) (labelled : c.Labelled f)

include keeps labelled

theorem attempt_alone (sound : Sound f c s)
    (op : Operation) (faults : List (Option Fault)) (outcome : Outcome T S τ)
    (ran : s.attempt f op faults = (s', .settled op outcome)) :
    Glob f c s' ∧ Loc f c s' (.settled op outcome) ∧ Alone f c s s' (.settled op outcome) := by
  have own : ∀ (s₀ : PlayStores T S τ σ) (job : Job T S τ) (fault : Option Fault) s₁ job₁,
      s₀.next f job fault = some (s₁, job₁) → Glob f c s₀ →
        (Loc f c s₀ job ∧ Alone f c s s₀ job) →
          Glob f c s₁ ∧ (Loc f c s₁ job₁ ∧ Alone f c s s₁ job₁) := by
    rintro s₀ job fault s₁ job₁ moves glob ⟨loc, alone⟩
    obtain ⟨glob', loc'⟩ := next_keeps keeps labelled fault moves glob loc
    exact ⟨glob', loc', (next_alone s fault moves glob loc alone).1⟩
  have begins : (op.job : Job T S τ).Begins := (Job.begins_iff _).mpr ⟨op, rfl⟩
  have kept := Pool.solo_stable own (s, op.job) faults
    ⟨sound.glob, (begins_loc begins).1, sound.alone_job op⟩
  rw [attempt] at ran
  rw [ran] at kept
  exact kept

theorem Sound.attempt (sound : Sound f c s)
    (op : Operation) (faults : List (Option Fault)) (outcome : Outcome T S τ)
    (ran : s.attempt f op faults = (s', .settled op outcome)) : Sound f c s' := by
  obtain ⟨glob, _, alone⟩ := attempt_alone keeps labelled sound op faults outcome ran
  exact ⟨glob, alone.lock, alone.unrestored⟩

/-- The states of a play between calls, which ran to their end one after the other. -/
inductive Reached (f : Formats T S τ σ) (c : ActiveStore τ σ) : PlayStores T S τ σ → Prop where
  | new (hasRow : Bool) : Reached f c (.new c hasRow)
  | attempt (s s' : PlayStores T S τ σ) (op : Operation) (faults : List (Option Fault))
      (outcome : Outcome T S τ) : Reached f c s →
      s.attempt f op faults = (s', .settled op outcome) → Reached f c s'

/-- The states after the call has failed a number of times. -/
inductive Failed (f : Formats T S τ σ) (op : Operation) (s : PlayStores T S τ σ) :
    PlayStores T S τ σ → Prop where
  | once : Failed f op s s
  | again (s' s'' : PlayStores T S τ σ) (faults : List (Option Fault)) : Failed f op s s' →
      s'.attempt f op faults = (s'', .settled op .rejected) → Failed f op s s''

theorem Reached.sound (reached : Reached f c s) :
    Sound f c s := by
  induction reached with
  | new hasRow => exact ⟨glob_new hasRow, rfl, fun _ _ => rfl⟩
  | attempt s s' op faults outcome _ ran ih => exact ih.attempt keeps labelled op faults outcome ran

theorem Failed.sound (sound : Sound f c s)
    {op : Operation} (failed : Failed f op s s') : Sound f c s' := by
  induction failed with
  | once => exact sound
  | again s' s'' faults _ ran ih => exact ih.attempt keeps labelled op faults .rejected ran

theorem Failed.same (sound : Sound f c s)
    {op : Operation} (failed : Failed f op s s') : s'.hasRow = s.hasRow ∧
      (op ≠ .createArchive → s'.hasArchived = s.hasArchived) ∧
      (op = .createArchive ∨ (op ≠ .pruneActive ∧ c.excludedIgnorable = []) →
        s'.shouldGetFromArchive = s.shouldGetFromArchive) := by
  induction failed with
  | once => exact ⟨rfl, fun _ => rfl, fun _ => rfl⟩
  | again s' s'' faults failed ran ih =>
    obtain ⟨row, archived, flag⟩ := ih
    obtain ⟨_, _, alone⟩ := attempt_alone keeps labelled (failed.sound keeps labelled sound) op
      faults .rejected ran
    refine ⟨alone.row.trans row, fun other => ?_, fun unflagging => ?_⟩
    · exact (alone.archived other).trans (archived other)
    · exact (alone.flag unflagging).trans (flag unflagging)

end

end PlayStores

def Part.rank : Part → Nat
  | .original => 2
  | .excludedIgnorable => 1
  | .startPoints => 0

def Job.rank : Job T S τ → Nat
  | .settled .. => 0
  | .findsAgain _ => 1
  | .finds _ => 2
  | .commits _ | .rollsBack _ => 3
  | .archiveFlags | .restoreFlags _ => 4
  | .pruneDeletes part => 4 + part.rank
  | .archivePuts part _ | .restoreInserts _ part _ => 5 + part.rank
  | .pruneFlags => 7
  | .restoreDeletes _ part _ => 8 + part.rank
  | .archiveFindsStartPoints _ | .pruneChecksArchive => 8
  | .archiveFindsExcluded _ | .pruneChecks => 9
  | .archiveFindsOriginal => 10
  | .archiveChecks | .restoreGetsStartPoints .. => 11
  | .restoreGetsExcluded .. => 12
  | .restoreGetsOriginal _ => 13
  | .restoreChecks _ => 14
  | .locks _ => 15
  | .readChecks _ => 16

namespace PlayStores

variable {f : Formats T S τ σ} {c : ActiveStore τ σ} {s s' : PlayStores T S τ σ}
  {job job' : Job T S τ}

theorem succeed_rank (lock : s.locked = job.holds) : (∃ op outcome, job = .settled op outcome) ∨
      ∃ s' job', s.succeed f job = some (s', job') ∧ job'.rank < job.rank := by
  cases job with
  | settled op outcome => exact .inl ⟨op, outcome, rfl⟩
  | locks op =>
    have unlocked : s.locked = false := lock
    refine .inr ?_
    rw [succeed_locks, unlocked]
    cases s.hasRow with
    | false => exact ⟨_, _, rfl, by simp [Job.rank]⟩
    | true =>
      refine ⟨_, _, rfl, ?_⟩
      cases op <;> simp [Job.rank, inLock]
  | archivePuts part content | pruneDeletes part | restoreDeletes query part content =>
    refine .inr ⟨_, _, rfl, ?_⟩
    cases part <;> simp [Job.rank, Part.next, Part.rank]
  | restoreInserts query part content =>
    refine .inr ?_
    rw [succeed_restoreInserts]
    refine ⟨_, _, rfl, ?_⟩
    split
    · cases part <;> simp [Job.rank, Part.rank]
    · cases part <;> simp [Job.rank, Part.next, Part.rank]
  | restoreGetsStartPoints query ticks =>
    refine .inr ⟨_, _, rfl, ?_⟩
    split
    · simp [Job.rank]
    · dsimp only
      split <;> simp [Job.rank, Part.rank]
  | commits op =>
    refine .inr ⟨_, _, rfl, ?_⟩
    cases op <;> simp [Job.rank, committed]
  | readChecks query | archiveChecks | archiveFindsStartPoints ticks | pruneChecks
  | pruneChecksArchive | restoreChecks query | restoreGetsOriginal query
  | restoreGetsExcluded query original | finds query =>
    refine .inr ⟨_, _, rfl, ?_⟩
    split <;> simp [Job.rank, Part.rank]
  | _ => exact .inr ⟨_, _, rfl, by simp [Job.rank, Part.rank]⟩

theorem final_settles (keeps : f.Keeps) (labelled : c.Labelled f) (began : PlayStores T S τ σ)
    (count : Nat) (glob : Glob f c s) (loc : Loc f c s job) (alone : Alone f c began s job)
    (rank : job.rank ≤ count) : ∃ s' outcome,
      Run.final (Pool.solo (next f)) (s, job) (List.replicate count none) =
        (s', .settled job.op outcome) := by
  induction count generalizing s job with
  | zero =>
    rcases succeed_rank (f := f) alone.lock with ⟨op, outcome, rfl⟩ | ⟨s', job', _, less⟩
    · exact ⟨s, outcome, rfl⟩
    · omega
  | succ count ih =>
    rcases succeed_rank (f := f) alone.lock with ⟨op, outcome, rfl⟩ | ⟨s', job', moves, less⟩
    · exact ⟨s, outcome, final_settled op outcome _⟩
    · have moves' : s.next f job none = some (s', job') := moves
      obtain ⟨glob', loc'⟩ := next_keeps keeps labelled none moves' glob loc
      obtain ⟨alone', op⟩ := next_alone began none moves' glob loc alone
      rw [final_next moves, ← op]
      exact ih glob' loc' alone' (by omega)

theorem Sound.call_settles (keeps : f.Keeps) (labelled : c.Labelled f) (sound : Sound f c s)
    (op : Operation) : ∃ s' outcome, s.call f op = (s', .settled op outcome) := by
  have begins : (op.job : Job T S τ).Begins := (Job.begins_iff _).mpr ⟨op, rfl⟩
  have rank : (op.job : Job T S τ).rank ≤ 16 := by cases op <;> simp [Operation.job, Job.rank]
  obtain ⟨s', outcome, ran⟩ := final_settles keeps labelled s 16 sound.glob (begins_loc begins).1
    (sound.alone_job op) rank
  have same : (op.job : Job T S τ).op = op := by cases op <;> rfl
  rw [same] at ran
  exact ⟨s', outcome, ran⟩

/-- Between calls a play shows what was stored, or nothing where its archive cannot be
restored. -/
theorem Sound.readable_eq (keeps : f.Keeps) (labelled : c.Labelled f) (sound : Sound f c s)
    (kept : Unrestorable c ∨ c.Recoverable f) (query : Query) : s.readable f query =
      if s.shouldGetFromArchive = true ∧ c.excludedIgnorable = [] then none
      else some ((c.read f query : Answer T S τ).decoded f) := by
  cases flag : s.shouldGetFromArchive with
  | false =>
    rw [if_neg (by simp), readable_answered query (call_read_unflagged flag query)]
    rcases kept with unrestorable | recoverable
    · rw [sound.unrestored unrestorable flag]
    · rw [decoded_read keeps labelled recoverable (sound.glob.whole flag)]
  | true =>
    have called := call_read_flagged keeps labelled sound.glob flag sound.unlocked query
    by_cases nothing : c.excludedIgnorable = []
    · rw [if_pos nothing] at called
      rw [if_pos ⟨rfl, nothing⟩, readable_rejected query called]
    · rw [if_neg nothing] at called
      rw [if_neg (by simp [nothing]), readable_answered query called]
      rcases kept with unrestorable | recoverable
      · obtain ⟨_, _, original, startPoints⟩ := sound.glob.archived_of_flag flag
        rcases unrestorable with none | none | none
        · exact absurd none original
        · exact absurd none startPoints
        · exact absurd none nothing
      · rw [decoded_read keeps labelled recoverable ActiveStore.whole_restored]

/-- Whatever fails, reads that succeed give what was stored, and a call that is made again
until it succeeds leaves what the same call leaves when nothing befalls it. -/
structure FaultAtomic (f : Formats T S τ σ) (c : ActiveStore τ σ) : Prop where
  reads : ∀ s, Reached f c s → ∀ query faults s' answer,
    s.attempt f (.read query) faults = (s', .settled (.read query) (.answered answer)) →
      answer.decoded f = (c.read f query).decoded f
  retries : ∀ s, Reached f c s → ∀ op s₁, Failed f op s s₁ → ∀ faults s₂ outcome,
    s₁.attempt f op faults = (s₂, .settled op outcome) →
      outcome ≠ .rejected → ∀ query, s₂.readable f query = (s.call f op).1.readable f query

theorem Sound.call_pruneActive_flag (sound : Sound f c s) (row : s.hasRow = true)
    (archived : s.hasArchived = true) : (s.call f .pruneActive).1.shouldGetFromArchive = true := by
  obtain ⟨active, files, hasArchived, flag, hasRow, locked⟩ := s
  obtain rfl : locked = false := sound.unlocked
  obtain rfl : hasRow = true := row
  obtain rfl : hasArchived = true := archived
  cases flag with
  | false => rw [call_pruneActive]
  | true => rw [call_pruneActive_pruned]

theorem flag_retried (keeps : f.Keeps) (labelled : c.Labelled f) (sound : Sound f c s)
    {op : Operation} {s₁ s₂ : PlayStores T S τ σ} (failed : Failed f op s s₁)
    (faults : List (Option Fault)) (outcome : Outcome T S τ)
    (ran : s₁.attempt f op faults = (s₂, .settled op outcome)) (succeeded : outcome ≠ .rejected)
    (nothing : c.excludedIgnorable = []) :
    s₂.shouldGetFromArchive = (s.call f op).1.shouldGetFromArchive := by
  have sound₁ := failed.sound keeps labelled sound
  obtain ⟨glob, loc, alone⟩ := attempt_alone keeps labelled sound₁ op faults outcome ran
  obtain ⟨row, archived, flag⟩ := failed.same keeps labelled sound
  obtain ⟨s₃, outcome₃, called⟩ := sound.call_settles keeps labelled op
  obtain ⟨_, _, alone₃⟩ := attempt_alone keeps labelled sound op _ outcome₃ called
  rw [called]
  by_cases prune : op = .pruneActive
  · subst prune
    have flagged : s₂.shouldGetFromArchive = true := by
      cases outcome with
      | rejected => exact absurd rfl succeeded
      | resolved | answered answer => exact alone.flagged rfl
    have flagged₃ := sound.call_pruneActive_flag (f := f)
      (by rw [← row, ← alone.row, glob.row flagged])
      (by
        rw [← archived nofun, ← alone.archived nofun]
        exact (glob.archived_of_flag flagged).1)
    rw [called] at flagged₃
    rw [flagged]
    exact flagged₃.symm
  · have unflagging : op = .createArchive ∨ (op ≠ .pruneActive ∧ c.excludedIgnorable = []) :=
      .inr ⟨prune, nothing⟩
    calc s₂.shouldGetFromArchive = s₁.shouldGetFromArchive := alone.flag unflagging
      _ = s.shouldGetFromArchive := flag unflagging
      _ = s₃.shouldGetFromArchive := (alone₃.flag unflagging).symm

/-- A tick has a `NaN`, which the archive makes `null`. -/
def nanPuts : List (Put Sample Sample) :=
  [.tick ⟨1, none, .nan⟩ false, .tick ⟨1, none, .nan⟩ true, .startPoint ⟨0, some 100, .number 0⟩]

theorem attempt_pruneActive_fails (active : ActiveStore τ σ) (files : Files T S) (fault : Fault) :
    (⟨active, files, true, false, true, false⟩ : PlayStores T S τ σ).attempt f .pruneActive
        [none, none, none, none, some fault, none] =
      (⟨active.deleteSome fault.kept .original, files, true, true, true, false⟩,
        .settled .pruneActive .rejected) := rfl

end PlayStores

end AkashicSystem.Playlog
