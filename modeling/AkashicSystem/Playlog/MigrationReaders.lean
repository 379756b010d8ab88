import AkashicSystem.Playlog.RestoredReads

/-!
# Readers beside migrations

The reads of a play beside `createArchive`, `pruneActive` and the restores of other
reads, interleaved at each call to a store, any of which may fail.  A read that is
past the metadata holds no lock, so a migration can delete what it is about to find.
-/

set_option autoImplicit false

namespace AkashicSystem.Playlog

open List
open Pool.Action (start)

variable {T S τ σ : Type}

namespace Format

variable {α β : Type} {format : Format α β}

theorem insertOne_labelled (keeps : format.Keeps) {records records' : List (Record β)}
    (labelled : format.Labelled records) (value : α)
    (inserted : Collection.insertOne records (format.toRecord value) = some records') :
    format.Labelled records' := by
  unfold Collection.insertOne at inserted
  split at inserted
  · cases inserted
  · next fresh =>
    cases inserted
    refine ⟨fun record there => ?_, ?_⟩
    · rcases mem_append.mp there with there | there
      · exact labelled.1 record there
      · rw [mem_singleton.mp there]
        exact keeps.1 value
    · rw [map_append, nodup_append]
      refine ⟨labelled.2, nodup_singleton _, fun frame there frame' there' eq => ?_⟩
      rw [map_singleton, mem_singleton] at there'
      exact fresh (there' ▸ eq ▸ there)

end Format

namespace ActiveStore

variable {f : Formats T S τ σ}

def stored (f : Formats T S τ σ) (puts : List (Put T S)) : ActiveStore τ σ :=
  puts.foldl (fun s p => (s.put f p).getD s) empty

theorem put_labelled (keeps : f.Keeps) {s s' : ActiveStore τ σ} (labelled : s.Labelled f)
    (p : Put T S) (put : s.put f p = some s') : s'.Labelled f := by
  obtain ⟨original, excluded, points⟩ := labelled
  cases p with
  | tick tick ignorable =>
    obtain ⟨records, inserted, rfl⟩ := Option.map_eq_some_iff.mp put
    cases ignorable with
    | false =>
      exact ⟨Format.insertOne_labelled keeps.1 original tick inserted, excluded, points⟩
    | true => exact ⟨original, Format.insertOne_labelled keeps.1 excluded tick inserted, points⟩
  | startPoint startPoint =>
    obtain ⟨records, inserted, rfl⟩ := Option.map_eq_some_iff.mp put
    exact ⟨original, excluded, Format.insertOne_labelled keeps.2 points startPoint inserted⟩

theorem labelled_stored (keeps : f.Keeps) (puts : List (Put T S)) : (stored f puts).Labelled f := by
  have kept : ∀ (s : ActiveStore τ σ) (p : Put T S), s.Labelled f →
      ((s.put f p).getD s).Labelled f := by
    intro s p labelled
    cases put : s.put f p with
    | none => exact labelled
    | some s' => exact put_labelled keeps labelled p put
  exact Run.stable kept empty puts
    ⟨Format.labelled_nil, Format.labelled_nil, Format.labelled_nil⟩

end ActiveStore

def Job.Begins : Job T S τ → Prop
  | .locks .createArchive | .locks .pruneActive | .readChecks _ => True
  | _ => False

instance : DecidablePred (Job.Begins (T := T) (S := S) (τ := τ))
  | .locks .createArchive | .locks .pruneActive | .readChecks _ => isTrue trivial
  | .locks (.read _) | .archiveChecks | .archiveFindsOriginal | .archiveFindsExcluded _
  | .archiveFindsStartPoints _ | .archivePuts .. | .archiveFlags | .pruneChecks
  | .pruneChecksArchive | .pruneFlags | .pruneDeletes _ | .restoreChecks _
  | .restoreGetsOriginal _ | .restoreGetsExcluded .. | .restoreGetsStartPoints ..
  | .restoreDeletes .. | .restoreInserts .. | .restoreFlags _ | .commits _ | .rollsBack _
  | .finds _ | .findsAgain _ | .settled .. => isFalse nofun

theorem Job.begins_iff (job : Job T S τ) : job.Begins ↔ ∃ op : Operation, job = op.job := by
  constructor
  · intro begins
    cases job with
    | readChecks query => exact ⟨.read query, rfl⟩
    | locks op =>
      cases op with
      | createArchive => exact ⟨.createArchive, rfl⟩
      | pruneActive => exact ⟨.pruneActive, rfl⟩
      | read query => exact begins.elim
    | _ => exact begins.elim
  · rintro ⟨op, rfl⟩
    cases op <;> trivial

/-- The job deletes no collection that the other, a read, may still look in. -/
def Job.Beside (job other : Job T S τ) : Prop :=
  ∀ part ∈ job.deletes, other.needs part = false

instance : DecidableRel (Job.Beside (T := T) (S := S) (τ := τ)) := fun job other =>
  inferInstanceAs (Decidable (∀ part ∈ job.deletes, other.needs part = false))

def Job.Apart (job other : Job T S τ) : Prop := ¬ (job.holds = true ∧ other.holds = true)

namespace PlayStores

variable {f : Formats T S τ σ} {c : ActiveStore τ σ} {s s' : PlayStores T S τ σ}
  {job job' : Job T S τ} {fault : Option Fault}

/-- While another job is inside the lock, a job outside it changes nothing. -/
theorem next_outside (outside : job.holds = false) (locked : s.locked = true)
    (row : s.hasRow = true) (moves : s.next f job fault = some (s', job')) :
    s' = s ∧ job'.holds = false := by
  cases fault with
  | none =>
    cases job with
    | readChecks query =>
      cases moves
      refine ⟨rfl, ?_⟩
      split <;> rfl
    | locks op => simp [next, succeed, row, locked] at moves
    | finds query =>
      cases moves
      refine ⟨rfl, ?_⟩
      split <;> rfl
    | findsAgain query =>
      cases moves
      exact ⟨rfl, rfl⟩
    | settled op outcome => cases moves
    | _ => cases outside
  | some fault =>
    cases job with
    | readChecks query | locks op | finds query | findsAgain query =>
      cases moves; exact ⟨rfl, rfl⟩
    | settled op outcome => cases moves
    | _ => cases outside

theorem wholeAt_other {active : ActiveStore τ σ} {part part' : Part} (other : part' ≠ part)
    (whole : c.WholeAt f active part) (kept : Nat → Bool) (content : Content T S) (count : Nat) :
    c.WholeAt f (active.deleteMany part') part ∧ c.WholeAt f (active.deleteSome kept part') part ∧
      c.WholeAt f (active.insertMany f content part').1 part ∧
      c.WholeAt f (active.insertSome f content count part') part := by
  cases part' with
  | original =>
    cases part with
    | original => exact absurd rfl other
    | excludedIgnorable | startPoints => exact ⟨whole, whole, whole, whole⟩
  | excludedIgnorable =>
    cases part with
    | original => exact ⟨whole, whole, whole, whole⟩
    | excludedIgnorable => exact absurd rfl other
    | startPoints => exact ⟨whole, whole, whole, whole⟩
  | startPoints =>
    cases part with
    | original | excludedIgnorable => exact ⟨whole, whole, whole, whole⟩
    | startPoints => exact absurd rfl other

theorem insert_restoredBefore (part : Part) (count : Nat)
    (whole : c.WholeAt f (restoredBefore f c part) part) :
    ((restoredBefore f c part).insertMany f (c.archived f) part).1 = restoredBefore f c part ∧
      (restoredBefore f c part).insertSome f (c.archived f) count part =
        restoredBefore f c part := by
  cases part with
  | original =>
    have nothing : c.original = [] := Format.Whole.eq_nil whole
    have archived : (c.archived f).ticks.original = [] := by
      rw [ActiveStore.archived, nothing]
      rfl
    simp only [ActiveStore.insertMany, ActiveStore.insertSome, archived, map_nil,
      Collection.insertMany, Collection.insertSome, take_nil, Collection.insertAll, if_true,
      and_self]
  | excludedIgnorable =>
    have nothing : c.excludedIgnorable = [] := Format.Whole.eq_nil whole
    have archived : (c.archived f).ticks.excludedIgnorable = [] := by
      rw [ActiveStore.archived, nothing]
      rfl
    simp only [ActiveStore.insertMany, ActiveStore.insertSome, archived, map_nil,
      Collection.insertMany, Collection.insertSome, take_nil, Collection.insertAll, if_true,
      and_self]
  | startPoints =>
    have nothing : c.startPoints = [] := Format.Whole.eq_nil whole
    have archived : (c.archived f).startPoints = [] := by
      rw [ActiveStore.archived, nothing]
      rfl
    simp only [ActiveStore.insertMany, ActiveStore.insertSome, archived, map_nil,
      Collection.insertMany, Collection.insertSome, take_nil, Collection.insertAll, if_true,
      and_self]

theorem next_wholeAt (moves : s.next f job fault = some (s', job')) (loc : Loc f c s job)
    (part : Part) (kept : job.deletes ≠ some part) (whole : c.WholeAt f s.active part) :
    c.WholeAt f s'.active part := by
  have deletes : ∀ part', job.deletes = some part' → part' ≠ part := by
    rintro part' deletes rfl
    exact kept deletes
  have inserts : ∀ query part' content, job = .restoreInserts query part' content → ∀ count,
      c.WholeAt f (s.active.insertMany f content part').1 part ∧
        c.WholeAt f (s.active.insertSome f content count part') part := by
    rintro query part' content rfl count
    obtain ⟨flag, rfl, before, _⟩ := loc.here
    by_cases same : part' = part
    · subst same
      rw [before] at whole ⊢
      obtain ⟨many, some_⟩ := insert_restoredBefore part' count whole
      rw [many, some_]
      exact ⟨whole, whole⟩
    · exact (wholeAt_other same whole (fun _ => true) (c.archived f) count).2.2
  cases fault with
  | none =>
    cases job with
    | pruneDeletes part' =>
      cases moves
      exact (wholeAt_other (deletes part' rfl) whole (fun _ => true)
        (⟨⟨[], []⟩, []⟩ : Content T S) 0).1
    | restoreDeletes query part' content =>
      cases moves
      exact (wholeAt_other (deletes part' rfl) whole (fun _ => true) content 0).1
    | restoreInserts query part' content =>
      have inserted := (inserts query part' content rfl 0).1
      rw [next, succeed_restoreInserts] at moves
      cases moves
      exact inserted
    | locks op =>
      rw [next, succeed_locks] at moves
      split_ifs at moves with noRow held
      · cases moves
        exact whole
      · cases moves
        exact whole
    | settled op outcome => cases moves
    | _ =>
      cases moves
      exact whole
  | some fault =>
    cases job with
    | pruneDeletes part' =>
      cases moves
      exact (wholeAt_other (deletes part' rfl) whole fault.kept
        (⟨⟨[], []⟩, []⟩ : Content T S) 0).2.1
    | restoreDeletes query part' content =>
      cases moves
      exact (wholeAt_other (deletes part' rfl) whole fault.kept content 0).2.1
    | restoreInserts query part' content =>
      have inserted := (inserts query part' content rfl fault.count).2
      cases moves
      exact inserted
    | archivePuts part' content =>
      cases moves
      split <;> exact whole
    | settled op outcome => cases moves
    | _ =>
      cases moves
      exact whole

theorem next_apart (moves : s.next f job fault = some (s', job')) (loc : Loc f c s job)
    (other : Job T S τ) (locOther : Loc f c s other) (apart : job.Apart other)
    (beside : job.Beside other) : Loc f c s' other ∧ job'.Apart other := by
  cases holds : other.holds with
  | true =>
    have outside : job.holds = false := by
      cases here : job.holds with
      | false => rfl
      | true => exact absurd ⟨here, holds⟩ apart
    obtain ⟨locked, row⟩ := locOther.lock holds
    obtain ⟨rfl, outside'⟩ := next_outside outside locked row moves
    refine ⟨locOther, ?_⟩
    rintro ⟨inside, _⟩
    rw [outside'] at inside
    cases inside
  | false =>
    have apart' : job'.Apart other := by
      rintro ⟨_, inside⟩
      rw [holds] at inside
      cases inside
    have kept : ∀ part, other.needs part = true → job.deletes ≠ some part := by
      intro part needs deletes
      rw [beside part deletes] at needs
      cases needs
    refine ⟨⟨fun inside => ?_, ?_⟩, apart'⟩
    · rw [holds] at inside
      cases inside
    have here := locOther.here
    cases other with
    | readChecks query | locks op => exact here
    | finds query =>
      intro part needs
      exact next_wholeAt moves loc part (kept part needs) (here part needs)
    | findsAgain query =>
      exact ⟨next_wholeAt moves loc .original (kept .original rfl) here.1, here.2⟩
    | settled op outcome =>
      cases op with
      | read query =>
        cases outcome with
        | answered answer => exact here
        | _ => trivial
      | _ => trivial
    | _ => cases holds

theorem begins_loc (begins : job.Begins) : Loc f c s job ∧ ∀ other, job.Apart other := by
  obtain ⟨op, rfl⟩ := job.begins_iff.mp begins
  refine ⟨⟨?_, ?_⟩, ?_⟩
  · cases op <;> exact nofun
  · cases op <;> trivial
  · rintro other ⟨inside, _⟩
    cases op <;> cases inside

theorem glob_new (hasRow : Bool) : Glob f c (.new c hasRow) :=
  ⟨fun _ => ⟨rfl, rfl⟩, nofun, fun _ => .inl rfl, nofun⟩

/-- Beside migrations that delete no collection under a read, every read that succeeds
has all that was stored. -/
theorem answers_full (keeps : f.Keeps) (puts : List (Put T S)) (hasRow : Bool)
    (actions : List (Pool.Action (Job T S τ) (Option Fault)))
    (run : Run.Allowed (Pool.step (next f)) (Pool.Allowed Job.Begins Job.Beside)
      ⟨.new (.stored f puts) hasRow, []⟩ actions)
    (index : Nat) (query : Query) (answer : Answer T S τ)
    (there : (Run.final (Pool.step (next f)) ⟨.new (.stored f puts) hasRow, []⟩
      actions).threads[index]? = some (.settled (.read query) (.answered answer))) :
    answer.size = ((ActiveStore.stored f puts).read f query : Answer T S τ).size := by
  have labelled := ActiveStore.labelled_stored keeps puts
  have preserved : ∀ (p : Pool (PlayStores T S τ σ) (Job T S τ)) action,
      Pool.Inv (Glob f (.stored f puts)) (Loc f (.stored f puts)) Job.Apart p →
        Pool.Allowed Job.Begins Job.Beside p action →
          Pool.Inv (Glob f (.stored f puts)) (Loc f (.stored f puts)) Job.Apart
            (p.step (next f) action) := by
    apply Pool.inv_step
    · rintro job other apart ⟨inside, inside'⟩
      exact apart ⟨inside', inside⟩
    · intro s job begins _
      exact begins_loc begins
    · intro s job fault s' job' moves glob loc
      exact next_keeps keeps labelled fault moves glob loc
    · intro s job fault s' job' other moves _ loc locOther apart beside
      exact next_apart moves loc other locOther apart beside
  have inv := Run.invariant preserved _ actions
    ⟨glob_new hasRow, fun i job there => by simp at there, fun i j job other _ there => by
      simp at there⟩ run
  obtain ⟨store, whole, rfl⟩ := (inv.loc index _ there).here
  exact ActiveStore.size_read keeps labelled whole query

end PlayStores

inductive Datum where
  | number (n : Int)
  | nan
  | null

structure Sample where
  frame : Int
  timestamp : Option Int
  datum : Datum

/-- `JSON.stringify` has no `NaN`. -/
def Sample.json (sample : Sample) : Sample :=
  match sample.datum with
  | .nan => { sample with datum := .null }
  | _ => sample

def sampleFormat : Format Sample Sample := ⟨id, id, Sample.json, Sample.frame, Sample.timestamp⟩

def sampleFormats : Formats Sample Sample Sample Sample := ⟨sampleFormat, sampleFormat⟩

theorem sampleFormats_keeps : sampleFormats.Keeps := by
  have json : ∀ sample : Sample, sample.json.frame = sample.frame ∧
      sample.json.timestamp = sample.timestamp := by
    intro sample
    unfold Sample.json
    split <;> exact ⟨rfl, rfl⟩
  exact ⟨⟨fun _ => ⟨rfl, rfl⟩, json⟩, ⟨fun _ => ⟨rfl, rfl⟩, json⟩⟩

def samplePuts : List (Put Sample Sample) :=
  [.tick ⟨1, none, .number 7⟩ false, .tick ⟨1, none, .number 7⟩ true,
    .startPoint ⟨0, some 100, .number 0⟩]

namespace PlayStores

abbrev SampleAction := Pool.Action (Job Sample Sample Sample) (Option Fault)

def calls (index count : Nat) : List SampleAction := replicate count (.step index none)

def readAfterPrune : List SampleAction :=
  [start (Operation.job .createArchive)] ++ calls 0 10 ++
    [start (Operation.job .pruneActive)] ++ calls 1 8 ++
    [start (Operation.job (.read (.getTick 1 false)))] ++ calls 2 15

def readBesidePrune : List SampleAction :=
  [start (Operation.job .createArchive)] ++ calls 0 10 ++
    [start (Operation.job (.read (.getTick 1 false)))] ++ calls 1 1 ++
    [start (Operation.job .pruneActive)] ++ calls 2 8 ++ calls 1 1

def afterSampleActions (actions : List SampleAction) :
    Pool (PlayStores Sample Sample Sample Sample) (Job Sample Sample Sample) :=
  Run.final (Pool.step (next sampleFormats)) ⟨.new (.stored sampleFormats samplePuts) true, []⟩
    actions

theorem answers_full_pruned :
    (Answer.tick (some ⟨1, none, .number 7⟩) : Answer Sample Sample Sample).size =
      ((ActiveStore.stored sampleFormats samplePuts).read sampleFormats (.getTick 1 false) :
        Answer Sample Sample Sample).size := by
  exact answers_full sampleFormats_keeps samplePuts true readAfterPrune (by decide +kernel) 2
    (.getTick 1 false) (.tick (some ⟨1, none, .number 7⟩)) rfl

/-- Under a prune the read finds nothing, and resolves with `null`. -/
theorem tick_pruned_under_read : ¬ ∀ actions : List SampleAction,
      Run.Allowed (Pool.step (next sampleFormats)) (Pool.Allowed Job.Begins fun _ _ => True)
        ⟨.new (.stored sampleFormats samplePuts) true, []⟩ actions →
      ∀ (index : Nat) (query : Query) (answer : Answer Sample Sample Sample),
        (afterSampleActions actions).threads[index]? =
          some (.settled (.read query) (.answered answer)) →
        answer.size = ((ActiveStore.stored sampleFormats samplePuts).read sampleFormats query :
          Answer Sample Sample Sample).size := by
  intro claimed
  have allowed : Run.Allowed (Pool.step (next sampleFormats))
      (Pool.Allowed Job.Begins fun _ _ => True)
      ⟨.new (.stored sampleFormats samplePuts) true, []⟩ readBesidePrune := by decide +kernel
  have full := claimed readBesidePrune allowed 1 (.getTick 1 false) (.tick none) rfl
  have short : (Answer.tick none : Answer Sample Sample Sample).size ≠
      ((ActiveStore.stored sampleFormats samplePuts).read sampleFormats (.getTick 1 false) :
        Answer Sample Sample Sample).size := by decide +kernel
  exact short full

end PlayStores

end AkashicSystem.Playlog
