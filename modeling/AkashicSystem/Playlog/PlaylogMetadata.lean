import Mathlib.Data.List.Basic
import Mathlib.Algebra.Group.Nat.Defs
import AkashicSystem.Lib.Pool

/-!
# The metadata of a play

`PlaylogMetadataMongoDBStore`: one document for each play, updated by reading it,
computing the new one and writing that where the revision is still the one read.
`playId` is unique, so an upsert that matches no document fails where there is one.
-/

set_option autoImplicit false

namespace AkashicSystem.Playlog

structure PlaylogMetadata where
  revision : Nat
  hasArchived : Bool
  shouldGetFromArchive : Bool
  lastAccessTime : Option Int
deriving DecidableEq

def defaultMetadata : PlaylogMetadata := ⟨1, false, false, none⟩

def lastAccessTimeResolution : Nat := 5 * 60 * 1000

namespace MetadataStore

def maxRetryCount : Nat := 3

inductive Update where
  | setShouldGetFromArchive (shouldGetFromArchive : Bool)
  | setHasArchived (hasArchive : Bool)
  | updateLastAccessTime

def Update.apply (update : Update) (now : Int) (metadata : PlaylogMetadata) :
    Option PlaylogMetadata :=
  match update with
  | .setShouldGetFromArchive shouldGetFromArchive =>
    some { metadata with shouldGetFromArchive := shouldGetFromArchive }
  | .setHasArchived hasArchive => some { metadata with hasArchived := hasArchive }
  | .updateLastAccessTime =>
    match metadata.lastAccessTime with
    | some lastAccessTime =>
      if (now - lastAccessTime).natAbs < lastAccessTimeResolution then none
      else some { metadata with lastAccessTime := some now }
    | none => some { metadata with lastAccessTime := some now }

variable (document : Option PlaylogMetadata)

def getPlaylogMetadata : PlaylogMetadata :=
  document.getD defaultMetadata

def bump (metadataUpdated : PlaylogMetadata) : PlaylogMetadata :=
  { metadataUpdated with revision := metadataUpdated.revision + 1 }

/-- `updateOne` with `upsert`; `none` is a duplicate key. -/
def updateOne (currentRevision : Nat)
    (metadataUpdated : PlaylogMetadata) : Option PlaylogMetadata :=
  match document with
  | none => some metadataUpdated
  | some metadata => if metadata.revision = currentRevision then some metadataUpdated else none

inductive Phase where
  | findOne (retry : Nat)
  /-- `read` is what `findOne` gave, `metadataUpdated` what was made of it. -/
  | updateOne (retry : Nat) (read : Option PlaylogMetadata) (metadataUpdated : PlaylogMetadata)
  | updated
  | unchanged
  | conflict
  | failed (applied : Bool)
deriving DecidableEq

/-- A call of `setPlaylogMetadata`. -/
structure Call where
  update : Update
  phase : Phase

/-- How a command ends; one that fails may have been applied. -/
inductive Reply where
  | done (now : Int)
  | failed (applied : Bool)

def retried (retry : Nat) : Phase :=
  if retry + 1 < maxRetryCount then .findOne (retry + 1) else .conflict

def Call.new (update : Update) : Call := ⟨update, .findOne 0⟩

def next (call : Call) (reply : Reply) :
    Option (Option PlaylogMetadata × Call) :=
  match call.phase, reply with
  | .findOne retry, .done now =>
    match call.update.apply now (getPlaylogMetadata document) with
    | none => some (document, { call with phase := .unchanged })
    | some metadataUpdated =>
      some (document, { call with phase := .updateOne retry document metadataUpdated })
  | .findOne _, .failed _ => some (document, { call with phase := .failed false })
  | .updateOne retry _ metadataUpdated, .done _ =>
    match updateOne document metadataUpdated.revision (bump metadataUpdated) with
    | none => some (document, { call with phase := retried retry })
    | some document' => some (some document', { call with phase := .updated })
  | .updateOne _ _ metadataUpdated, .failed true =>
    match updateOne document metadataUpdated.revision (bump metadataUpdated) with
    | none => some (document, { call with phase := .failed false })
    | some document' => some (some document', { call with phase := .failed true })
  | .updateOne _ _ _, .failed false => some (document, { call with phase := .failed false })
  | _, _ => none

abbrev Updates := Pool (Option PlaylogMetadata) Call

def new : Updates := ⟨document, []⟩

def step (w : Updates) (action : Pool.Action Call Reply) : Updates := Pool.step next w action

theorem Update.apply_revision (update : Update) (now : Int)
    (metadata metadataUpdated : PlaylogMetadata)
    (applied : update.apply now metadata = some metadataUpdated) :
    metadataUpdated.revision = metadata.revision := by
  cases update with
  | setShouldGetFromArchive shouldGetFromArchive | setHasArchived hasArchive =>
    cases applied
    rfl
  | updateLastAccessTime =>
    simp only [apply] at applied
    split at applied
    · split at applied
      · cases applied
      · cases applied
        rfl
    · cases applied
      rfl

def Call.applied (call : Call) : Bool := call.phase = .updated || call.phase = .failed true

def Behind (read document : Option PlaylogMetadata) : Prop :=
  read = document ∨ document ≠ none ∧
    (getPlaylogMetadata read).revision < (getPlaylogMetadata document).revision

def Loc (call : Call) : Prop :=
  ∀ retry read metadataUpdated, call.phase = .updateOne retry read metadataUpdated →
    Behind read document ∧
      ∃ now, call.update.apply now (getPlaylogMetadata read) = some metadataUpdated

/-- A write goes through only where the document is the one that was read. -/
theorem Behind.eq_of_written {read document : Option PlaylogMetadata}
    {metadataUpdated new : PlaylogMetadata} (behind : Behind read document)
    (revision : metadataUpdated.revision = (getPlaylogMetadata read).revision)
    (written : updateOne document metadataUpdated.revision new = some new) :
    read = document := by
  rcases behind with same | ⟨there, older⟩
  · exact same
  · cases document with
    | none => exact absurd rfl there
    | some metadata =>
      unfold updateOne at written
      dsimp only at written
      split_ifs at written with equal
      change _ < metadata.revision at older
      omega

inductive Move (document : Option PlaylogMetadata) (call : Call) :
    Option PlaylogMetadata → Call → Prop
  | unchanged (now : Int) (nothing : call.update.apply now (getPlaylogMetadata document) = none) :
      Move document call document { call with phase := .unchanged }
  | reads (retry now) (metadataUpdated : PlaylogMetadata)
      (made : call.update.apply now (getPlaylogMetadata document) = some metadataUpdated) :
      Move document call document { call with phase := .updateOne retry document metadataUpdated }
  | stays (phase : Phase) (unapplied : phase ≠ .updated ∧ phase ≠ .failed true)
      (unread : ∀ retry read metadataUpdated, phase ≠ .updateOne retry read metadataUpdated)
      (changed : phase ≠ .unchanged) :
      Move document call document { call with phase := phase }
  | writes (retry) (read : Option PlaylogMetadata) (metadataUpdated : PlaylogMetadata)
      (phase : Phase) (from_ : call.phase = .updateOne retry read metadataUpdated)
      (applied : phase = .updated ∨ phase = .failed true)
      (written : updateOne document metadataUpdated.revision (bump metadataUpdated) =
        some (bump metadataUpdated)) :
      Move document call (some (bump metadataUpdated)) { call with phase := phase }

theorem retried_ne (retry : Nat) : (retried retry ≠ .updated ∧ retried retry ≠ .failed true) ∧
    (∀ retry' read metadataUpdated, retried retry ≠ .updateOne retry' read metadataUpdated) ∧
    retried retry ≠ .unchanged := by
  unfold retried
  split_ifs <;> simp

theorem updateOne_eq {document : Option PlaylogMetadata} {revision : Nat}
    {new written : PlaylogMetadata}
    (done : updateOne document revision new = some written) : written = new := by
  unfold updateOne at done
  split at done
  · exact (Option.some.inj done).symm
  · split_ifs at done
    exact (Option.some.inj done).symm

theorem next_move {document document' : Option PlaylogMetadata} {call call' : Call} {reply : Reply}
    (moves : next document call reply = some (document', call')) :
    Move document call document' call' := by
  unfold next at moves
  split at moves
  · next retry now isPhase =>
      split at moves
      · next nothing =>
          cases moves
          exact .unchanged now nothing
      · next metadataUpdated made =>
          cases moves
          exact .reads retry now metadataUpdated made
  · cases moves
    exact .stays _ (by simp) (by simp) (by simp)
  · next retry read metadataUpdated now isPhase =>
      split at moves
      · cases moves
        obtain ⟨unapplied, unread, changed⟩ := retried_ne retry
        exact .stays _ unapplied unread changed
      · next written done =>
          cases moves
          obtain rfl := updateOne_eq done
          exact .writes retry read metadataUpdated _ isPhase (.inl rfl) done
  · next retry read metadataUpdated isPhase =>
      split at moves
      · cases moves
        exact .stays _ (by simp) (by simp) (by simp)
      · next written done =>
          cases moves
          obtain rfl := updateOne_eq done
          exact .writes retry read metadataUpdated _ isPhase (.inr rfl) done
  · cases moves
    exact .stays _ (by simp) (by simp) (by simp)
  · cases moves

variable {document document' : Option PlaylogMetadata} {call call' : Call}

theorem Move.newer (move : Move document call document' call') (loc : Loc document call) :
    document' = document ∨ document' ≠ none ∧
      (getPlaylogMetadata document').revision = (getPlaylogMetadata document).revision + 1 := by
  cases move with
  | unchanged now nothing | reads retry now metadataUpdated made
  | stays phase unapplied unread changed => exact .inl rfl
  | writes retry read metadataUpdated phase from_ applied written =>
    obtain ⟨behind, now, made⟩ := loc retry read metadataUpdated from_
    have revision := call.update.apply_revision now _ _ made
    obtain rfl := behind.eq_of_written revision written
    refine .inr ⟨Option.some_ne_none _, ?_⟩
    rw [← revision]
    rfl

theorem Behind.step {read : Option PlaylogMetadata} (behind : Behind read document)
    (newer : document' = document ∨ document' ≠ none ∧
      (getPlaylogMetadata document').revision = (getPlaylogMetadata document).revision + 1) :
    Behind read document' := by
  rcases newer with rfl | ⟨there, revision⟩
  · exact behind
  · rcases behind with rfl | ⟨_, older⟩ <;> exact .inr ⟨there, by omega⟩

theorem Move.loc (move : Move document call document' call') : Loc document' call' := by
  intro retry read metadataUpdated isPhase
  cases move with
  | unchanged now nothing => cases isPhase
  | reads retry' now metadataUpdated' made =>
    cases isPhase
    exact ⟨.inl rfl, now, made⟩
  | stays phase unapplied unread changed => exact absurd isPhase (unread _ _ _)
  | writes retry' read' metadataUpdated' phase from_ applied written =>
    rcases applied with rfl | rfl <;> cases isPhase

def Begins (_ : Updates) : Pool.Action Call Reply → Prop
  | .start call => call.phase = .findOne 0
  | .step _ _ => True

variable (w : Updates)

def Inv : Prop :=
  ∀ (index : Nat) (call : Call), w.threads[index]? = some call → Loc w.state call

theorem inv_step (action : Pool.Action Call Reply) (inv : Inv w)
    (begins : Begins w action) : Inv (step w action) := by
  intro index call there
  cases action with
  | start new =>
    rcases Pool.getElem?_append_cases w.threads index new call there with old | ⟨_, rfl⟩
    · exact inv index call old
    · intro retry read metadataUpdated isPhase
      cases (begins : call.phase = .findOne 0).symm.trans isPhase
  | step other reply =>
    rcases Pool.step_cases next w other reply with
      same | ⟨moving, document', call', here, moves, eq⟩
    · rw [step, same] at there ⊢
      exact inv index call there
    · rw [step, eq] at there ⊢
      have move := next_move moves
      rcases Pool.getElem?_set_cases _ other index moving call' call here there with
        ⟨rfl, rfl⟩ | ⟨_, old⟩
      · exact move.loc
      · intro retry read metadataUpdated isPhase
        obtain ⟨behind, made⟩ := inv index call old retry read metadataUpdated isPhase
        exact ⟨behind.step (move.newer (inv other moving here)), made⟩

/-- What a step of a call does: it finds nothing to change in the present document; it
changes the present document, which is what it has read; or it leaves the document. -/
def Exact : Pool.Action Call Reply → Prop
  | .start _ => True
  | .step index reply => ∀ call document' call', w.threads[index]? = some call →
      next w.state call reply = some (document', call') →
        (call'.phase = .unchanged →
          ∃ now, call.update.apply now (getPlaylogMetadata w.state) = none) ∧
        (call'.applied = true → ∃ retry metadataUpdated now,
          call.phase = .updateOne retry w.state metadataUpdated ∧
          call.update.apply now (getPlaylogMetadata w.state) = some metadataUpdated ∧
          document' = some (bump metadataUpdated) ∧
          (bump metadataUpdated).revision = (getPlaylogMetadata w.state).revision + 1) ∧
        (call'.applied = false → document' = w.state)

theorem exact_of_inv (inv : Inv w) (action : Pool.Action Call Reply) :
    Exact w action := by
  cases action with
  | start call => trivial
  | step index reply =>
    intro call document' call' here moves
    have loc := inv index call here
    cases next_move moves with
    | unchanged now nothing => exact ⟨fun _ => ⟨now, nothing⟩, nofun, fun _ => rfl⟩
    | reads retry now metadataUpdated made => exact ⟨nofun, nofun, fun _ => rfl⟩
    | stays phase unapplied unread changed =>
      refine ⟨fun isPhase => absurd isPhase changed, fun applied => ?_, fun _ => rfl⟩
      simp [Call.applied, unapplied] at applied
    | writes retry read metadataUpdated phase from_ applied written =>
      obtain ⟨behind, now, made⟩ := loc retry read metadataUpdated from_
      have revision := call.update.apply_revision now _ _ made
      obtain rfl := behind.eq_of_written revision written
      refine ⟨fun isPhase => ?_, fun _ => ?_, fun unapplied => ?_⟩
      · rcases applied with rfl | rfl <;> cases isPhase
      · exact ⟨retry, metadataUpdated, now, from_, made, rfl, congrArg (· + 1) revision⟩
      · rcases applied with rfl | rfl <;> cases unapplied

theorem next_of_applied (applied : call.applied = true) (reply : Reply) :
    next document call reply = none := by
  obtain ⟨update, phase⟩ := call
  simp only [Call.applied, Bool.or_eq_true, decide_eq_true_eq] at applied
  rcases applied with rfl | rfl <;> rfl

def base : Int :=
  (getPlaylogMetadata w.state).revision -
    Pool.total (fun call => if call.applied then 1 else 0) w.threads

theorem base_step (inv : Inv w) (action : Pool.Action Call Reply)
    (begins : Begins w action) : base (step w action) = base w := by
  cases action with
  | start call =>
    have isPhase : call.phase = .findOne 0 := begins
    have unapplied : call.applied = false := by simp [Call.applied, isPhase]
    simp [base, step, Pool.step, unapplied]
  | step index reply =>
    rcases Pool.step_cases next w index reply with
      same | ⟨call, document', call', here, moves, eq⟩
    · rw [step, same]
    · have unapplied : call.applied = false := by
        by_contra applied
        rw [next_of_applied (Bool.of_not_eq_false applied)] at moves
        cases moves
      have total := Pool.total_set (fun call => if call.applied then 1 else 0) w.threads index
        call call' here
      obtain ⟨_, written, left⟩ := exact_of_inv w inv (.step index reply) call document' call'
        here moves
      rw [step, eq]
      unfold base
      rw [total, unapplied]
      cases applied : call'.applied with
      | false =>
        rw [left applied]
        simp
      | true =>
        obtain ⟨_, metadataUpdated, _, _, _, rfl, revision⟩ := written applied
        change ((bump metadataUpdated).revision : Int) - _ = _
        rw [revision]
        simp only [if_true, Bool.false_eq_true, if_false]
        omega

/-- Every update is applied to the document it has read or finds nothing to change in it,
the revision counts the applied ones, and one that ends in a conflict has left the
document as it was at each of its steps. -/
theorem no_lost_update (document : Option PlaylogMetadata)
    (actions : List (Pool.Action Call Reply))
    (begins : Run.Allowed step Begins (new document) actions) :
    let w := Run.final step (new document) actions
    Run.Allowed step Exact (new document) actions ∧
      (getPlaylogMetadata w.state).revision =
        (getPlaylogMetadata document).revision + w.threads.countP Call.applied ∧
      ∀ (index : Nat) (call : Call), w.threads[index]? = some call → call.phase = .conflict →
        ∀ front reply back, actions = front ++ .step index reply :: back →
          (Run.final step (new document) (front ++ [Pool.Action.step index reply])).state =
            (Run.final step (new document) front).state := by
  intro w
  have fresh : Inv (new document) := fun index call there => by cases there
  have exact_ : Run.Allowed step Exact (new document) actions :=
    Run.Allowed.of_invariant inv_step (fun w action inv _ => exact_of_inv w inv action) _ actions
      fresh begins
  refine ⟨exact_, ?_, ?_⟩
  · obtain ⟨_, same⟩ : Inv w ∧ base w = base (new document) := by
      refine @Run.invariant _ _ step _ (fun w => Inv w ∧ base w = base (new document)) ?_ _
        actions ⟨fresh, rfl⟩ begins
      rintro w action ⟨inv, same⟩ begins
      exact ⟨inv_step w action inv begins, (base_step w inv action begins).trans same⟩
    have total := Pool.total_indicator Call.applied w.threads
    simp only [base, total] at same
    change _ = ((getPlaylogMetadata document).revision : Int) - 0 at same
    omega
  · rintro index call there conflict front reply back rfl
    rw [Run.allowed_append] at exact_
    obtain ⟨_, now, _⟩ := exact_
    rw [Run.final_append, Run.final_cons, Run.final_nil]
    rcases Pool.step_cases next (Run.final step (new document) front) index reply with
      same | ⟨before, document', after, here, moves, eq⟩
    · rw [step, same]
    · rw [step, eq]
      refine (now before document' after here moves).2.2 ?_
      by_contra applied
      have stays := Pool.settled_stays next
        (step (Run.final step (new document) front) (.step index reply)) back index after
        (fun _ reply => next_of_applied (Bool.of_not_eq_false applied) reply) (by
          rw [step, eq]
          exact List.getElem?_set_self (List.getElem?_eq_some_iff.mp here).1)
      have final : w = Run.final step (step (Run.final step (new document) front)
          (.step index reply)) back := by
        change Run.final step (new document) (front ++ .step index reply :: back) = _
        rw [Run.final_append, Run.final_cons]
      rw [final] at there
      cases stays.symm.trans there
      simp [Call.applied, conflict] at applied

/-- Three calls on a play without a document: two insert it, one of them tries again, and
the third finds the time of access recent. -/
def insertions : List (Pool.Action Call Reply) :=
  [.start (.new .updateLastAccessTime), .start (.new (.setHasArchived true)),
    .start (.new .updateLastAccessTime),
    .step 0 (.done 1000), .step 1 (.done 1000), .step 1 (.done 1000), .step 0 (.done 1000),
    .step 0 (.done 2000), .step 0 (.done 2000), .step 2 (.done 3000)]

theorem no_lost_update_insertions :
    let w := Run.final step (new none) insertions
    Run.Allowed step Exact (new none) insertions ∧
      (getPlaylogMetadata w.state).revision = 1 + w.threads.countP Call.applied ∧
      ∀ (index : Nat) (call : Call), w.threads[index]? = some call → call.phase = .conflict →
        ∀ front reply back, insertions = front ++ .step index reply :: back →
          (Run.final step (new none) (front ++ [Pool.Action.step index reply])).state =
            (Run.final step (new none) front).state := by
  exact no_lost_update none insertions ⟨rfl, rfl, rfl, trivial, trivial, trivial, trivial,
    trivial, trivial, trivial, trivial⟩

end MetadataStore
end AkashicSystem.Playlog
