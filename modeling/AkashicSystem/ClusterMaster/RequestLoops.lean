import AkashicSystem.Lib.Retry
import AkashicSystem.SystemApiServer.InstanceManager

/-!
# The loops over boot messages and instance requests

`BootRequestConsumer` and `InstanceRequestConsumer` handle a message under the mutex of its
instance and handle it again when that fails.  A boot message leaves the status to an error
handler after the mutex; a request has one inside.  What fails in a round is given with the
round.
-/

set_option autoImplicit false

namespace AkashicSystem.ClusterMaster
namespace RequestLoops

open Retry

open AkashicSystem.SystemApiServer.InstanceManager (InstanceState)

def instanceExitCodeOk : Nat := 0

def instanceExitCodeFailure : Nat := 1

def instanceExitCodeShutdownFail : Nat := 2

def instanceExitCodeServerResourceFull : Nat := 3

inductive Outcome where
  | assigned
  | full
  | failed
  | closed
  | paused
  | resumed
deriving DecidableEq

def Outcome.status : Outcome → InstanceState
  | .assigned => .running
  | .full => .error
  | .failed => .error
  | .closed => .closed
  | .paused => .paused
  | .resumed => .running

structure Instance where
  status : InstanceState
  exitCode : Option Nat
  processName : Option String

inductive Owner where
  | loop
  | other (waiting : Nat)

structure World where
  record : Option Instance
  assignments : List Nat
  /-- The entry of the instance in the locks of the mutex, and whose section runs. -/
  lock : Option (List Nat)
  runs : Option Owner
  /-- What the loop came to last, where it calls for a status. -/
  outcome : Option Outcome

/-- Where a call of `StatusUpdater.update` fails. -/
inductive Fault where
  | none
  | unwritten
  /-- After it: reading the instance back or publishing fails. -/
  | written
deriving DecidableEq

/-- `Instance.updateStatus`, without reading back. -/
def Instance.update (i : Instance) (status : InstanceState) (exitCode : Option Nat)
    (processName : Option String) : Instance where
  status := status
  exitCode := exitCode.or i.exitCode
  processName := processName.or i.processName

/-- `StatusUpdater.update`, with whether it succeeds: it publishes the instance read back. -/
def update (w : World) (fault : Fault) (status : InstanceState) (exitCode : Option Nat)
    (processName : Option String) : World × Bool :=
  let updated := { w with record := w.record.map (·.update status exitCode processName) }
  match fault with
  | .unwritten => (w, false)
  | .written => (updated, false)
  | .none => (updated, w.record.isSome)

variable (w : World)

/-- The section begins; those that ask for the lock before it ends are given. -/
def enterLockSection (waiting : List Nat) : World :=
  { w with lock := some waiting, runs := some .loop }

def onReleaseLock : World :=
  match w.lock with
  | some (next :: rest) => { w with lock := some rest, runs := some (.other next) }
  | _ => { w with lock := none, runs := none }

def Released : Prop :=
  w.lock = none ∧ w.runs = none ∨ ∃ next, w.runs = some (.other next)

theorem released_onReleaseLock : Released (onReleaseLock w) := by
  unfold onReleaseLock
  split
  · exact .inr ⟨_, rfl⟩
  · exact .inl ⟨rfl, rfl⟩

theorem record_onReleaseLock :
    (onReleaseLock w).record = w.record ∧ (onReleaseLock w).outcome = w.outcome := by
  unfold onReleaseLock
  split <;> exact ⟨rfl, rfl⟩

inductive ResolveResult where
  | success (processName : String)
  | fail

structure BootRound where
  waiting : List Nat
  get : Bool
  /-- What the resolver finds; without a result it throws. -/
  resolve : Option ResolveResult
  update : Fault
  handler : Fault

def BootRound.Succeeds (r : BootRound) : Prop :=
  r.get = false ∧ r.resolve ≠ none ∧ r.update = .none ∧ r.handler = .none

def updateState (result : ResolveResult) (fault : Fault) : World × Bool :=
  match result with
  | .success processName =>
    update { w with outcome := some .assigned } fault .running none (some processName)
  | .fail =>
    update { w with outcome := some .full } fault .error (some instanceExitCodeServerResourceFull)
      none

def bootSection (r : BootRound) : World × Bool :=
  if r.get then (w, false)
  else
    match w.record with
    | none => (w, false)
    | some i =>
      if i.status = .prepare then
        match r.resolve with
        | none => (w, false)
        | some result => updateState w result r.update
      else (w, true)

def catchUnknownAssignError (fault : Fault) : World :=
  (update { w with outcome := some .failed } fault .error (some instanceExitCodeFailure) none).1

def bootRound (r : BootRound) : World × Bool :=
  let done := bootSection (enterLockSection w r.waiting) r
  let released := onReleaseLock done.1
  if done.2 then (released, true) else (catchUnknownAssignError released r.handler, false)

inductive RequestType where
  | shutdown
  | pause
  | resume
  | unknown
deriving DecidableEq

structure InstanceRequest where
  type : RequestType
  isErrorRecovery : Bool
deriving DecidableEq

structure RequestRound where
  waiting : List Nat
  get : Bool
  /-- Whether the runner of an assignment fails, or the removal of it. -/
  runner : Nat → Bool
  remove : Nat → Bool
  update : Fault
  handler : Fault

def RequestRound.Succeeds (r : RequestRound) : Prop :=
  r.get = false ∧ (∀ a, r.runner a = false ∧ r.remove a = false) ∧ r.update = .none ∧
    r.handler = .none

variable (request : InstanceRequest)

def InstanceRequest.failsAt (r : RequestRound) (a : Nat) : Bool :=
  match request.type with
  | .shutdown => r.runner a || r.remove a
  | .pause | .resume => r.runner a
  | .unknown => true

def InstanceRequest.unassign (w : World) (r : RequestRound) : World :=
  match request.type with
  | .shutdown => { w with assignments := w.assignments.filter (request.failsAt r) }
  | _ => w

def InstanceRequest.updateStatus (w : World) (fault : Fault) :
    World × Bool :=
  if request.isErrorRecovery then (w, true)
  else
    match request.type with
    | .shutdown =>
      update { w with outcome := some .closed } fault .closed (some instanceExitCodeOk) none
    | .pause => update { w with outcome := some .paused } fault .paused none none
    | .resume => update { w with outcome := some .resumed } fault .running none none
    | .unknown => (w, true)

def InstanceRequest.attempt (w : World) (r : RequestRound) :
    World × Bool :=
  if r.get then (w, false)
  else
    let unassigned := request.unassign w r
    if w.assignments.any (request.failsAt r) then (unassigned, false)
    else request.updateStatus unassigned r.update

def processRequest (w : World) (r : RequestRound) : World × Bool :=
  let attempt := request.attempt w r
  if attempt.2 then attempt
  else if request.isErrorRecovery = false ∧ request.type = .shutdown then
    update { attempt.1 with outcome := some .failed } r.handler .error
      (some instanceExitCodeShutdownFail) none
  else ({ attempt.1 with outcome := none }, true)

def requestRound (w : World) (r : RequestRound) : World × Bool :=
  let done := processRequest request (enterLockSection w r.waiting) r
  (onReleaseLock done.1, done.2)

/-- The instance has the status that the last outcome calls for. -/
def AsCalledFor : Prop :=
  ∀ outcome ∈ w.outcome, ∀ i ∈ w.record, i.status = outcome.status

def Settled : Prop := Released w ∧ AsCalledFor w

def arrival (record : Option Instance) (assignments : List Nat) : World :=
  ⟨record, assignments, none, none, none⟩

/-- What a boot loop meets: after finitely many rounds everything succeeds. -/
structure BootRounds where
  round : Nat → BootRound
  succeeds : ∃ n, ∀ m, n ≤ m → (round m).Succeeds

structure RequestRounds where
  round : Nat → RequestRound
  succeeds : ∃ n, ∀ m, n ≤ m → (round m).Succeeds

def RunsInVain (r : BootRound) : Prop :=
  r.get = false ∧ (∃ i ∈ w.record, i.status = .prepare) ∧
    (∃ processName, r.resolve = some (.success processName)) ∧ r.update = .written

/-- The error handler writes the status, or a round leaves it in what is handled again. -/
def Handled (r : BootRound) : Prop :=
  r.handler ≠ .unwritten ∨
    (∀ i ∈ w.record, i.status = .prepare ∨ i.status = .error) ∧ ¬ RunsInVain w r

/-- Whether the section of a boot message fails, for an instance there is. -/
def fails (i : Instance) (r : BootRound) : Bool :=
  r.get || decide (i.status = .prepare) && (r.resolve.isNone || decide (r.update ≠ .none))

def Fails (r : BootRound) : Prop := ∀ i ∈ w.record, fails i r = true

/-- The last round that fails, if one does, is handled. -/
def LastHandled (rounds : BootRounds) (w : World) : Prop :=
  ∀ n, (run bootRound rounds.round w n).2 = false →
    Fails (run bootRound rounds.round w n).1 (rounds.round n) →
    ¬ Fails (run bootRound rounds.round w (n + 1)).1 (rounds.round (n + 1)) →
    Handled (run bootRound rounds.round w n).1 (rounds.round n)

def statusAfter (i : Instance) (r : BootRound) : InstanceState :=
  if r.get then i.status
  else if i.status = .prepare then
    match r.resolve, r.update with
    | none, _ => i.status
    | some _, .unwritten => i.status
    | some (.success _), _ => .running
    | some .fail, _ => .error
  else i.status

variable {i : Instance} {w : World} {r : BootRound} {request : InstanceRequest}

theorem bootSection_some (there : w.record = some i) (r : BootRound) :
    (bootSection w r).2 = !fails i r ∧
      ∃ i', (bootSection w r).1.record = some i' ∧ i'.status = statusAfter i r := by
  unfold bootSection fails statusAfter
  cases get : r.get with
  | true => simp [there]
  | false =>
    simp only [there, Bool.false_eq_true, if_false]
    by_cases prepare : i.status = .prepare
    · cases resolve : r.resolve with
      | none => simp [prepare, there]
      | some result =>
        cases result <;> cases fault : r.update <;>
          simp [prepare, updateState, update, there, Instance.update]
    · simp [prepare, there]

theorem bootSection_outcome (there : w.record = some i) (ends : fails i r = false) :
    if i.status = .prepare then
      ∃ outcome, (bootSection w r).1.outcome = some outcome ∧ outcome.status = statusAfter i r
    else (bootSection w r).1.outcome = w.outcome := by
  unfold fails at ends
  unfold bootSection statusAfter
  simp only [Bool.or_eq_false_iff] at ends
  obtain ⟨get, later⟩ := ends
  simp only [get, there, Bool.false_eq_true, if_false]
  by_cases prepare : i.status = .prepare
  · simp only [prepare, decide_true, Bool.true_and, Bool.or_eq_false_iff] at later
    cases resolve : r.resolve with
    | none => simp [resolve] at later
    | some result =>
      cases result <;> cases fault : r.update <;>
        simp [prepare, updateState, update, fault, Outcome.status] at later ⊢
  · simp [prepare]

theorem bootRound_some (there : w.record = some i) (r : BootRound) :
    (bootRound w r).2 = !fails i r ∧ ∃ i', (bootRound w r).1.record = some i' ∧
        i'.status = if fails i r ∧ r.handler ≠ .unwritten then .error else statusAfter i r := by
  obtain ⟨ended, i', there', status⟩ :=
    @bootSection_some i (enterLockSection w r.waiting) there r
  have kept := (record_onReleaseLock (bootSection (enterLockSection w r.waiting) r).1).1
  unfold bootRound
  dsimp only
  cases failed : fails i r with
  | false =>
    rw [failed] at ended
    rw [ended]
    refine ⟨rfl, i', kept.trans there', ?_⟩
    simpa using status
  | true =>
    rw [failed] at ended
    rw [ended]
    refine ⟨rfl, ?_⟩
    unfold catchUnknownAssignError update
    cases fault : r.handler <;> simp [kept, there', status, Instance.update]

theorem going_iff_fails (there : ∃ i, w.record = some i) (r : BootRound) :
    (bootRound w r).2 = false ↔ Fails w r := by
  obtain ⟨i, there⟩ := there
  rw [(bootRound_some there r).1, Bool.not_eq_false', Fails, there]
  simp

theorem bootRound_none (absent : w.record = none) (r : BootRound) :
    (bootRound w r).2 = false ∧ (bootRound w r).1.record = none := by
  have absent' : (enterLockSection w r.waiting).record = none := absent
  have failed : bootSection (enterLockSection w r.waiting) r =
      (enterLockSection w r.waiting, false) := by
    unfold bootSection
    split
    · rfl
    · rw [absent']
  have kept := (record_onReleaseLock (enterLockSection w r.waiting)).1
  unfold bootRound
  dsimp only
  rw [failed]
  refine ⟨rfl, ?_⟩
  unfold catchUnknownAssignError update
  cases r.handler <;> simp [kept, absent']

theorem bootRound_failed (there : w.record = some i) (failed : fails i r = true) :
    (bootRound w r).1.outcome = some .failed := by
  have ended := (@bootSection_some i (enterLockSection w r.waiting) there r).1
  rw [failed] at ended
  unfold bootRound
  dsimp only
  rw [ended]
  unfold catchUnknownAssignError update
  cases r.handler <;> rfl

theorem bootRound_ended (ended : (bootRound w r).2 = true) : Released (bootRound w r).1 := by
  unfold bootRound at ended ⊢
  dsimp only at ended ⊢
  split
  · exact released_onReleaseLock _
  · rename_i failed
    rw [if_neg failed] at ended
    cases ended

theorem statusAfter_of_unprepared (unprepared : i.status ≠ .prepare) (r : BootRound) :
    statusAfter i r = i.status := by
  simp [statusAfter, unprepared]

theorem asCalledFor_of_ends (there : w.record = some i) (ends : fails i r = false) :
    AsCalledFor (bootRound w r).1 ↔
      i.status = .prepare ∨ ∀ outcome ∈ w.outcome, i.status = outcome.status := by
  obtain ⟨_, i', there', status⟩ := bootRound_some there r
  have resolved := (@bootSection_some i (enterLockSection w r.waiting) there r).1
  have outcome := @bootSection_outcome i (enterLockSection w r.waiting) r there ends
  have kept : (bootRound w r).1.outcome =
    (bootSection (enterLockSection w r.waiting) r).1.outcome := by
    unfold bootRound
    dsimp only
    rw [resolved, ends]
    exact (record_onReleaseLock _).2
  rw [if_neg (by simp [ends])] at status
  unfold AsCalledFor
  rw [there', kept]
  by_cases prepare : i.status = .prepare
  · rw [if_pos prepare] at outcome
    obtain ⟨came, isOutcome, calls⟩ := outcome
    rw [isOutcome]
    simp [prepare, status, calls]
  · rw [if_neg prepare] at outcome
    rw [outcome]
    rw [statusAfter_of_unprepared prepare] at status
    simp [prepare, status, enterLockSection]

theorem statusAfter_handled (failed : fails i r = true) (there : w.record = some i) :
    (statusAfter i r = .prepare ∨ statusAfter i r = .error) ↔
      (∀ i ∈ w.record, i.status = .prepare ∨ i.status = .error) ∧ ¬ RunsInVain w r := by
  unfold fails at failed
  unfold RunsInVain statusAfter
  rw [there]
  cases get : r.get with
  | true => simp
  | false =>
    rw [get] at failed
    simp only [Bool.false_or, Bool.and_eq_true, decide_eq_true_eq] at failed
    obtain ⟨prepare, later⟩ := failed
    cases resolve : r.resolve with
    | none => simp [prepare]
    | some result =>
      cases result <;> cases fault : r.update <;> simp [prepare, resolve, fault] at later ⊢

/-- The round after one that fails leaves the instance as called for exactly if that one was
handled. -/
theorem asCalledFor_iff_handled (there : w.record = some i) {r' : BootRound}
    (failed : fails i r = true) (ended : (bootRound (bootRound w r).1 r').2 = true) :
    AsCalledFor (bootRound (bootRound w r).1 r').1 ↔ Handled w r := by
  obtain ⟨_, i', there', status⟩ := bootRound_some there r
  have ends : fails i' r' = false := by
    rw [(bootRound_some there' r').1] at ended
    simpa using ended
  rw [asCalledFor_of_ends there' ends, bootRound_failed there failed]
  unfold Handled
  rw [← statusAfter_handled failed there]
  by_cases handler : r.handler = .unwritten
  · rw [if_neg (by simp [handler])] at status
    simp [status, handler, Outcome.status]
  · rw [if_pos ⟨failed, handler⟩] at status
    simp [status, handler, Outcome.status]

theorem bootRound_succeeds (there : w.record = some i) (succeeds : r.Succeeds) :
    (bootRound w r).2 = true := by
  obtain ⟨get, resolve, fault, _⟩ := succeeds
  rw [(bootRound_some there r).1]
  unfold fails
  rw [get, fault]
  cases result : r.resolve with
  | none => exact absurd result resolve
  | some result => simp

theorem boot_settles_iff (record : Option Instance) (assignments : List Nat) (rounds : BootRounds) :
    EndsIn bootRound rounds.round (arrival record assignments) Settled ↔
      record ≠ none ∧ LastHandled rounds (arrival record assignments) := by
  cases record with
  | none =>
    have never := @Retry.never_ends World BootRound bootRound rounds.round
      (arrival none assignments)
      (fun w => w.record = none) (fun w r absent => (bootRound_none absent r).2)
      (fun w r absent => (bootRound_none absent r).1) rfl
    constructor
    · rintro ⟨n, ended, _⟩
      rw [never n] at ended
      cases ended
    · exact fun exists' => absurd rfl exists'.1
  | some i =>
    have kept (w : World) (r : BootRound) (held : ∃ i, w.record = some i) :
        ∃ i, (bootRound w r).1.record = some i := by
      obtain ⟨i, there⟩ := held
      obtain ⟨_, i', there', _⟩ := bootRound_some there r
      exact ⟨i', there'⟩
    have exists' (n : Nat) := @Retry.invariant World BootRound bootRound rounds.round
      (arrival (some i) assignments) (fun w => ∃ i, w.record = some i) kept ⟨i, rfl⟩ n
    -- The round before the last is the last that fails.
    have handled (n : Nat)
        (going : (run bootRound rounds.round (arrival (some i) assignments) (n + 1)).2 = false)
        (ends : (bootRound (run bootRound rounds.round (arrival (some i) assignments)
          (n + 1)).1 (rounds.round (n + 1))).2 = true) :
        EndsIn bootRound rounds.round (arrival (some i) assignments) Settled ↔
          Handled (run bootRound rounds.round (arrival (some i) assignments) n).1
            (rounds.round n) := by
      obtain ⟨j, there⟩ := exists' n
      have before := going_of_succ going
      rw [endsIn_iff going ends]
      rw [run_succ_going before] at going ends ⊢
      have failed : fails j (rounds.round n) = true := by
        rw [(bootRound_some there _).1] at going
        simpa using going
      rw [← asCalledFor_iff_handled there failed ends]
      exact ⟨fun settled => settled.2, fun called => ⟨bootRound_ended ends, called⟩⟩
    constructor
    · refine fun settles => ⟨by simp, fun n before failed unfailed => ?_⟩
      rw [← going_iff_fails (exists' n), ← run_succ_going before] at failed
      rw [← going_iff_fails (exists' (n + 1)), Bool.not_eq_false] at unfailed
      exact (handled n failed unfailed).mp settles
    · rintro ⟨_, lastHandled⟩
      obtain ⟨n, succeeds⟩ := rounds.succeeds
      obtain ⟨m, ended⟩ := @Retry.ends_of_round World BootRound bootRound rounds.round
        (arrival (some i) assignments) n (fun w => ∃ i, w.record = some i) kept
        (fun w there => bootRound_succeeds there.choose_spec (succeeds n (Nat.le_refl n))) ⟨i, rfl⟩
      obtain ⟨last, going, ends⟩ := last_round ended
      cases last with
      | zero =>
        rw [endsIn_iff going ends]
        refine ⟨bootRound_ended ends, ?_⟩
        have unfailed : fails i (rounds.round 0) = false := by
          have here := (@bootRound_some i (arrival (some i) assignments) rfl (rounds.round 0)).1
          change (bootRound (arrival (some i) assignments) (rounds.round 0)).2 = true at ends
          rw [here] at ends
          simpa using ends
        apply (@asCalledFor_of_ends i (arrival (some i) assignments) _ rfl unfailed).mpr
        right
        intro outcome came
        cases came
      | succ last =>
        have before := going_of_succ going
        apply (handled last going ends).mpr
        apply lastHandled last before
        · rw [← going_iff_fails (exists' last), ← run_succ_going before]
          exact going
        · rw [← going_iff_fails (exists' (last + 1)), Bool.not_eq_false]
          exact ends

def Shuts (request : InstanceRequest) : Prop :=
  request.isErrorRecovery = false ∧ request.type = .shutdown

theorem update_record (w : World) (fault : Fault) (status : InstanceState) (exitCode : Option Nat)
    (processName : Option String) :
    (update w fault status exitCode processName).1.record.isSome = w.record.isSome := by
  unfold update
  cases fault <;> simp

theorem asCalledFor_update {outcome : Outcome} {fault : Fault} {exitCode : Option Nat}
    {processName : Option String}
    (updated : (update { w with outcome := some outcome } fault outcome.status exitCode
      processName).2 = true) :
    AsCalledFor (update { w with outcome := some outcome } fault outcome.status exitCode
      processName).1 := by
  intro came isOutcome i there
  cases fault with
  | unwritten | written => cases updated
  | none =>
    cases isOutcome
    obtain ⟨before, _, rfl⟩ := Option.map_eq_some_iff.mp there
    rfl

theorem unassign_kept (request : InstanceRequest) (w : World) (r : RequestRound) :
    (request.unassign w r).record = w.record ∧ (request.unassign w r).outcome = w.outcome := by
  unfold InstanceRequest.unassign
  split <;> exact ⟨rfl, rfl⟩

theorem updateStatus_record (request : InstanceRequest) (w : World) (fault : Fault) :
    (request.updateStatus w fault).1.record.isSome = w.record.isSome := by
  unfold InstanceRequest.updateStatus
  split
  · rfl
  · split
    · exact update_record _ _ _ _ _
    · exact update_record _ _ _ _ _
    · exact update_record _ _ _ _ _
    · rfl

theorem attempt_record (request : InstanceRequest) (w : World) (r : RequestRound) :
    (request.attempt w r).1.record.isSome = w.record.isSome := by
  have kept := congrArg Option.isSome (unassign_kept request w r).1
  unfold InstanceRequest.attempt
  split
  · rfl
  · dsimp only
    split
    · exact kept
    · rw [updateStatus_record]
      exact kept

theorem requestRound_record (request : InstanceRequest) (w : World) (r : RequestRound) :
    (requestRound request w r).1.record.isSome = w.record.isSome := by
  have attempted := attempt_record request (enterLockSection w r.waiting) r
  unfold requestRound
  dsimp only
  rw [(record_onReleaseLock _).1]
  unfold processRequest
  dsimp only
  split
  · exact attempted
  · split
    · rw [update_record]
      exact attempted
    · exact attempted

theorem asCalledFor_attempt {r : RequestRound} (begins : w.outcome = none ∨ Shuts request)
    (succeeded : (request.attempt w r).2 = true) : AsCalledFor (request.attempt w r).1 := by
  have quiet (unshut : ¬ Shuts request) : AsCalledFor (request.unassign w r) := by
    rcases begins with none | shuts
    · intro outcome came
      rw [(unassign_kept request w r).2, none] at came
      cases came
    · exact absurd shuts unshut
  unfold InstanceRequest.attempt at succeeded ⊢
  split at succeeded
  · cases succeeded
  · rename_i get
    rw [if_neg get]
    dsimp only at succeeded ⊢
    split at succeeded
    · cases succeeded
    · rename_i none
      rw [if_neg none]
      unfold InstanceRequest.updateStatus at succeeded ⊢
      split at succeeded
      · rename_i recovery
        rw [if_pos recovery]
        apply quiet
        intro shuts
        rw [shuts.1] at recovery
        cases recovery
      · rename_i unrecovered
        rw [if_neg unrecovered]
        cases type : request.type with
        | shutdown | pause | resume =>
          rw [type] at succeeded
          exact asCalledFor_update succeeded
        | unknown =>
          apply quiet
          intro shuts
          rw [shuts.2] at type
          cases type

theorem settled_of_ended {r : RequestRound} (begins : w.outcome = none ∨ Shuts request)
    (ended : (requestRound request w r).2 = true) : Settled (requestRound request w r).1 := by
  refine ⟨released_onReleaseLock _, ?_⟩
  have called : AsCalledFor (processRequest request (enterLockSection w r.waiting) r).1 := by
    change (processRequest request (enterLockSection w r.waiting) r).2 = true at ended
    unfold processRequest at ended ⊢
    dsimp only at ended ⊢
    split
    · rename_i succeeded
      exact asCalledFor_attempt begins succeeded
    · rename_i failed
      rw [if_neg failed] at ended
      split
      · rename_i shuts
        rw [if_pos shuts] at ended
        exact asCalledFor_update ended
      · intro outcome came
        cases came
  unfold AsCalledFor at called ⊢
  unfold requestRound
  dsimp only
  rw [(record_onReleaseLock _).1, (record_onReleaseLock _).2]
  exact called

theorem requestRound_unshut (unshut : ¬ Shuts request) (w : World) (r : RequestRound) :
    (requestRound request w r).2 = true := by
  unfold requestRound processRequest
  dsimp only
  split
  · assumption
  · rw [if_neg (by exact unshut)]

theorem requestRound_succeeds (shuts : Shuts request) (there : w.record.isSome = true)
    {r : RequestRound} (succeeds : r.Succeeds) : (requestRound request w r).2 = true := by
  obtain ⟨get, each, fault, _⟩ := succeeds
  have none (assignments : List Nat) : assignments.any (request.failsAt r) = false := by
    rw [List.any_eq_false]
    intro a _
    unfold InstanceRequest.failsAt
    simp [shuts.2, each a]
  have kept := congrArg Option.isSome (unassign_kept request (enterLockSection w r.waiting) r).1
  have attempted : (request.attempt (enterLockSection w r.waiting) r).2 = true := by
    unfold InstanceRequest.attempt
    simp only [get, none, Bool.false_eq_true, if_false]
    unfold InstanceRequest.updateStatus
    rw [if_neg (by simp [shuts.1]), shuts.2, fault]
    exact kept.trans there
  unfold requestRound processRequest
  dsimp only
  rw [if_pos attempted]
  exact attempted

/-- A shutdown of an instance that does not exist is tried again and again. -/
theorem requestRound_absent (shuts : Shuts request) (absent : w.record.isSome = false)
    (r : RequestRound) : (requestRound request w r).2 = false := by
  have attempted := attempt_record request (enterLockSection w r.waiting) r
  have unpublished (w : World) (absent : w.record.isSome = false) (fault : Fault)
      (status : InstanceState) (exitCode : Option Nat) :
      (update w fault status exitCode none).2 = false := by
    unfold update
    cases fault <;> simp [absent]
  have failed : (request.attempt (enterLockSection w r.waiting) r).2 = false := by
    unfold InstanceRequest.attempt
    split
    · rfl
    · dsimp only
      split
      · rfl
      · unfold InstanceRequest.updateStatus
        rw [if_neg (by simp [shuts.1]), shuts.2]
        apply unpublished
        show (request.unassign (enterLockSection w r.waiting) r).record.isSome = false
        rw [(unassign_kept request _ r).1]
        exact absent
  unfold requestRound processRequest
  dsimp only
  rw [if_neg (by simp [failed]), if_pos (by exact shuts)]
  apply unpublished
  exact attempted.trans absent

theorem request_settles_iff (request : InstanceRequest) (record : Option Instance)
    (assignments : List Nat) (rounds : RequestRounds) :
    EndsIn (requestRound request) rounds.round (arrival record assignments) Settled ↔
      record ≠ none ∨ request.type ≠ .shutdown ∨ request.isErrorRecovery = true := by
  by_cases shuts : Shuts request
  · cases record with
    | none =>
      have never := @Retry.never_ends World RequestRound (requestRound request) rounds.round
        (arrival none assignments) (fun w => w.record.isSome = false)
        (fun w r kept => (requestRound_record request w r).trans kept)
        (fun w r absent => requestRound_absent shuts absent r) rfl
      constructor
      · rintro ⟨n, ended, _⟩
        rw [never n] at ended
        cases ended
      · simp [shuts.1, shuts.2]
    | some i =>
      refine ⟨fun _ => .inl (by simp), fun _ => ?_⟩
      obtain ⟨n, succeeds⟩ := rounds.succeeds
      obtain ⟨m, ended⟩ := @Retry.ends_of_round World RequestRound (requestRound request)
        rounds.round (arrival (some i) assignments) n (fun w => w.record.isSome = true)
        (fun w r kept => (requestRound_record request w r).trans kept)
        (fun w there => requestRound_succeeds shuts there (succeeds n (Nat.le_refl n))) rfl
      obtain ⟨last, going, ends⟩ := last_round ended
      rw [endsIn_iff going ends]
      exact settled_of_ended (.inr shuts) ends
  · refine ⟨fun _ => .inr ?_, fun _ => ?_⟩
    · by_cases shutdown : request.type = .shutdown
      · right
        cases recovery : request.isErrorRecovery with
        | true => rfl
        | false => exact absurd ⟨recovery, shutdown⟩ shuts
      · exact .inl shutdown
    · have ends := requestRound_unshut shuts (arrival record assignments) (rounds.round 0)
      apply (@Retry.endsIn_iff World RequestRound (requestRound request) rounds.round
        (arrival record assignments) 0 Settled rfl ends).mpr
      exact settled_of_ended (.inl rfl) ends

/-- The loops end, the mutex is released and the instance is as called for, for a boot message
exactly if there is an instance and its last failing round is handled, for a request exactly if
there is an instance or the request sets no status when it fails. -/
theorem settles_iff (record : Option Instance) (assignments : List Nat) : (∀ rounds : BootRounds,
        EndsIn bootRound rounds.round (arrival record assignments) Settled ↔
          record ≠ none ∧ LastHandled rounds (arrival record assignments)) ∧
      ∀ (request : InstanceRequest) (rounds : RequestRounds),
        EndsIn (requestRound request) rounds.round (arrival record assignments) Settled ↔
          record ≠ none ∨ request.type ≠ .shutdown ∨ request.isErrorRecovery = true :=
  ⟨boot_settles_iff record assignments,
    fun request rounds => request_settles_iff request record assignments rounds⟩

def assigns : BootRound := ⟨[], false, some (.success "com.example.runner"), .none, .none⟩

/-- Publishing fails and so does the error handler, in the first round. -/
def inVainRound : Nat → BootRound
  | 0 => ⟨[], false, some (.success "com.example.runner"), .written, .unwritten⟩
  | _ + 1 => assigns

theorem inVainRound_succeeds (m : Nat) (later : 1 ≤ m) : (inVainRound m).Succeeds := by
  cases m with
  | zero => cases later
  | succ m => exact ⟨rfl, by simp [inVainRound, assigns], rfl, rfl⟩

def inVain : BootRounds := ⟨inVainRound, 1, inVainRound_succeeds⟩

/-- Neither loop ends for an instance that does not exist; a boot loop ends with an instance that
runs after an error. -/
theorem absent_unsettled : (¬ ∀ (rounds : BootRounds) (record : Option Instance),
        EndsIn bootRound rounds.round (arrival record []) Settled) ∧
      (∀ rounds : BootRounds, ¬ EndsIn bootRound rounds.round (arrival none []) Settled) ∧
      (∀ rounds : RequestRounds,
        ¬ EndsIn (requestRound ⟨.shutdown, false⟩) rounds.round (arrival none []) Settled) ∧
      ¬ EndsIn bootRound inVain.round (arrival (some ⟨.prepare, none, none⟩) []) Settled := by
  have absent (rounds : BootRounds) :
      ¬ EndsIn bootRound rounds.round (arrival none []) Settled := by
    rw [boot_settles_iff]
    exact fun settles => settles.1 rfl
  refine ⟨fun claimed => absent inVain (claimed inVain none), absent, ?_, ?_⟩
  · intro rounds
    rw [request_settles_iff]
    simp
  · rw [boot_settles_iff]
    rintro ⟨_, handled⟩
    rcases handled 0 rfl ((going_iff_fails ⟨_, rfl⟩ _).mp rfl)
      (mt (going_iff_fails ⟨_, rfl⟩ _).mpr (Bool.not_eq_false _ |>.mpr rfl))
      with written | ⟨_, other⟩
    · exact written rfl
    · exact other ⟨rfl, ⟨_, rfl, rfl⟩, ⟨_, rfl⟩, rfl⟩

end RequestLoops
end AkashicSystem.ClusterMaster
