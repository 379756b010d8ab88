import AkashicSystem.ClusterMaster.LifeCycle

/-!
# The terminal states

What is still to be written when an instance has ended writes the status it has, and a shutdown
or an abort that has been carried out leaves a request behind that gives its rows up, as long as
there are any.
-/

set_option autoImplicit false

namespace AkashicSystem.ClusterMaster
namespace LifeCycle

open LifeCycle

open SystemApiServer.InstanceManager (InstanceState)
open RequestLoops (InstanceRequest RequestType Outcome)
open ProcessMonitor (ended typeGameRunner2)

section Guarded

variable {s : LifeCycle}

theorem mark_cases (may : InstanceState → Bool) (status : InstanceState) : s.mark may status = s ∨
      s.transaction = none ∧ may s.status = true ∧ s.mark may status = { s with status } := by
  by_cases free : s.transaction = none ∧ may s.status
  · right
    refine ⟨free.1, free.2, ?_⟩
    exact if_pos free
  · left
    exact if_neg free

theorem lock_cases (skips : InstanceState → Bool) (holder : Holder) : s.lock skips holder = s ∨
      s.transaction = none ∧ skips s.status = false ∧
        s.lock skips holder = { s with transaction := some ⟨holder, .updating⟩ } := by
  by_cases free : s.transaction = none ∧ skips s.status = false
  · right
    refine ⟨free.1, free.2, ?_⟩
    exact if_pos free
  · left
    exact if_neg free

theorem announce_cases (type : RequestType) (expected : InstanceState) :
    s.announce type expected = s ∨ s.status = expected ∧
        s.announce type expected = { s with announced := s.announced ++ [type] } := by
  by_cases as : s.status = expected
  · right
    exact ⟨as, if_pos as⟩
  · left
    exact if_neg as

end Guarded

def Event.Handles : Event → Prop
  | .takeBoot | .takeRequest | .resolved _ | .prepared _ | .done | .rowDone _ => True
  | _ => False

theorem step_handles (s : LifeCycle) {event : Event} (handles : event.Handles) :
    (s.step event).transaction = s.transaction ∧ (s.step event).departures = s.departures ∧
      (event ≠ .takeRequest → (s.step event).requestQueue = s.requestQueue) ∧
      (event ≠ .done → (s.step event).status = s.status) := by
  have kept {s' : LifeCycle} (transaction : s'.transaction = s.transaction)
      (departures : s'.departures = s.departures) (queue : s'.requestQueue = s.requestQueue)
      (status : event ≠ .done → s'.status = s.status) :
      s'.transaction = s.transaction ∧ s'.departures = s.departures ∧
        (event ≠ .takeRequest → s'.requestQueue = s.requestQueue) ∧
        (event ≠ .done → s'.status = s.status) := ⟨transaction, departures, fun _ => queue, status⟩
  cases event with
  | takeBoot | resolved =>
    simp only [step]
    split <;> exact kept rfl rfl rfl fun _ => rfl
  | takeRequest =>
    simp only [step]
    split
    · exact ⟨rfl, rfl, fun other => absurd rfl other, fun _ => rfl⟩
    · exact kept rfl rfl rfl fun _ => rfl
  | prepared made =>
    simp only [step]
    cases s.inSection with
    | none => exact kept rfl rfl rfl fun _ => rfl
    | some handled =>
      simp only [Option.elim_some, prepare]
      split
      · split <;> exact kept rfl rfl rfl fun _ => rfl
      · exact kept rfl rfl rfl fun _ => rfl
  | done =>
    refine kept ?_ ?_ ?_ fun other => absurd rfl other
    all_goals
      simp only [step]
      cases s.inSection with
      | none => rfl
      | some handled =>
        simp only [Option.elim_some, proceed]
        split <;> first | rfl | (split <;> rfl)
  | rowDone index =>
    simp only [step]
    cases s.inSection with
    | none => exact kept rfl rfl rfl fun _ => rfl
    | some handled =>
      simp only [Option.elim_some, callDone]
      split
      · split
        · exact kept rfl rfl rfl fun _ => rfl
        · split <;> exact kept rfl rfl rfl fun _ => rfl
      · exact kept rfl rfl rfl fun _ => rfl
  | _ => exact handles.elim

/-- A handling in a state that has ended: what it writes is that state. -/
def Section.Keeps (status : InstanceState) : Section → Prop
  | .resolving | .preparing _ | .assigning _ => status = .error
  | .saving _ => False
  | .listing request | .calling request _ => ∀ outcome ∈ request.outcome, outcome.status = status
  | .updating outcome => outcome.status = status
  | .reading | .publishing => True

structure Frozen (s : LifeCycle) : Prop where
  unlocked : s.transaction = none
  unannounced : s.announced = []
  queued : ∀ request ∈ s.requestQueue, ∀ outcome ∈ request.outcome, outcome.status = s.status
  handled : ∀ handled ∈ s.inSection, handled.Keeps s.status

theorem outcome_recovery {request : InstanceRequest} (recovery : request.isErrorRecovery = true) :
    request.outcome = none := if_pos recovery

theorem outcome_shutdown {request : InstanceRequest} (type : request.type = .shutdown) :
    ∀ outcome ∈ request.outcome, outcome = .closed := by
  intro outcome writes
  unfold InstanceRequest.outcome at writes
  split at writes
  · cases writes
  · rw [type] at writes
    exact (Option.some.inj writes).symm

theorem keeps_error {handled : Section} (idle : ¬ handled.Commits) : handled.Keeps .error := by
  cases handled with
  | reading | resolving | preparing | assigning | publishing => trivial
  | saving target => exact idle trivial
  | listing request | calling request calls =>
    have recovery : request.isErrorRecovery = true := by simpa [Section.Commits] using idle
    intro outcome writes
    rw [outcome_recovery recovery] at writes
    cases writes
  | updating outcome => simpa [Section.Commits, Section.Keeps] using idle

section Frozen

variable {s : LifeCycle}

theorem Frozen.of_eq {s' : LifeCycle} (frozen : Frozen s) (status : s'.status = s.status)
    (transaction : s'.transaction = s.transaction) (announced : s'.announced = s.announced)
    (requestQueue : ∀ request ∈ s'.requestQueue, request ∈ s.requestQueue)
    (inSection : ∀ handled ∈ s'.inSection, handled.Keeps s.status) : Frozen s' where
  unlocked := transaction.trans frozen.unlocked
  unannounced := announced.trans frozen.unannounced
  queued request queued := by
    rw [status]
    exact frozen.queued request (requestQueue request queued)
  handled := by
    rw [status]
    exact inSection

section

variable (frozen : Frozen s)
include frozen

theorem Frozen.proceed (ended : Terminal s.status) {handled : Section}
    (there : s.inSection = some handled) (apart : Apart s .done) :
    (s.proceed handled).status = s.status ∧ Frozen (s.proceed handled) := by
  have keeps : handled.Keeps s.status := frozen.handled handled there
  have stays {inSection : Option Section}
      (keep : ∀ handled ∈ inSection, handled.Keeps s.status) :
      Frozen { s with inSection := inSection } :=
    frozen.of_eq rfl rfl rfl (fun _ queued => queued) keep
  have leaves : Frozen { s with inSection := none } := stays fun _ none => by cases none
  cases handled with
  | reading =>
    have started : s.status ≠ .prepare := by
      intro prepare
      rw [prepare] at ended
      rcases ended with same | same <;> cases same
    simp only [LifeCycle.proceed, if_neg started]
    exact ⟨trivial, leaves⟩
  | resolving => exact ⟨rfl, frozen⟩
  | preparing candidates =>
    cases candidates with
    | nil =>
      refine ⟨rfl, stays fun handled there => ?_⟩
      cases there
      exact keeps.symm
    | cons target rest => exact ⟨rfl, frozen⟩
  | assigning target =>
    have other : s.status ≠ .error := apart _ there
    exact absurd keeps other
  | saving target => exact keeps.elim
  | listing request =>
    refine ⟨rfl, stays fun handled there => ?_⟩
    cases there
    exact keeps
  | calling request calls =>
    simp only [LifeCycle.proceed]
    split
    · refine ⟨rfl, stays fun handled there => ?_⟩
      obtain ⟨outcome, writes, rfl⟩ := Option.map_eq_some_iff.mp there
      exact keeps outcome writes
    · exact ⟨rfl, frozen⟩
  | updating outcome =>
    simp only [LifeCycle.proceed, if_pos frozen.unlocked]
    have same : outcome.status = s.status := keeps
    refine ⟨same, ?_⟩
    refine frozen.of_eq same rfl rfl (fun _ queued => queued) ?_
    intro handled there
    cases there
    trivial
  | publishing => exact ⟨rfl, leaves⟩

theorem frozen_departure (departures : List Departure) (rows : List Row) :
    Frozen { s with departures, rows } :=
  frozen.of_eq rfl rfl rfl (fun _ queued => queued) frozen.handled

theorem Frozen.depart (terminal : Terminal s.status) (index : Nat) (d : Departure) :
    (s.depart index d).status = s.status ∧ Frozen (s.depart index d) := by
  have hasEnded : ended s.status = true := by
    rcases terminal with same | same <;> rw [same] <;> rfl
  unfold LifeCycle.depart
  cases d.phase with
  | listing => exact ⟨rfl, frozen_departure frozen _ _⟩
  | aborting count =>
    cases count with
    | zero => exact ⟨rfl, frozen_departure frozen _ _⟩
    | succ count =>
      simp only [frozen.unlocked, hasEnded, and_self, if_true]
      exact ⟨rfl, frozen_departure frozen _ _⟩
  | left => exact ⟨rfl, frozen⟩

theorem Frozen.callDone (index : Nat) {handled : Section} (there : s.inSection = some handled) :
    (s.callDone index handled).status = s.status ∧ Frozen (s.callDone index handled) := by
  have keeps : handled.Keeps s.status := frozen.handled handled there
  cases handled with
  | calling request calls =>
    have stays (calls' : List Call) (running : List ClusterIdentity) (rows : List Row) :
        Frozen { s with inSection := some (.calling request calls'), running, rows } := by
      refine frozen.of_eq rfl rfl rfl (fun _ queued => queued) ?_
      intro handled there
      cases there
      exact keeps
    simp only [LifeCycle.callDone]
    split
    · exact ⟨rfl, frozen⟩
    · split
      · exact ⟨rfl, stays _ _ _⟩
      · exact ⟨rfl, stays _ _ _⟩
      · exact ⟨rfl, stays _ _ _⟩
      · exact ⟨rfl, frozen⟩
  | _ => exact ⟨rfl, frozen⟩

/-- A terminal state with nothing under way that writes another is left by no step. -/
theorem Frozen.step (terminal : Terminal s.status) (event : Event) (apart : Apart s event) :
    (s.step event).status = s.status ∧ Frozen (s.step event) := by
  have stays {inSection : Option Section} {requestQueue : List InstanceRequest}
      (queued : ∀ request ∈ requestQueue, request ∈ s.requestQueue)
      (keep : ∀ handled ∈ inSection, handled.Keeps s.status) (bootQueue : Nat)
      (givingUp : List ClusterIdentity) :
      Frozen { s with inSection, requestQueue, bootQueue, givingUp } :=
    frozen.of_eq rfl rfl rfl queued keep
  have marked {s' : LifeCycle} {may : InstanceState → Bool} {status : InstanceState}
      (is : s' = s.mark may status) (unmarked : may s.status = false) :
      s'.status = s.status ∧ Frozen s' := by
    rcases mark_cases may status with same | ⟨_, allowed, _⟩
    · rw [is, same]
      exact ⟨rfl, frozen⟩
    · rw [unmarked] at allowed
      cases allowed
  have locked {skips : InstanceState → Bool} (holder : Holder) (skipped : skips s.status = true) :
      (s.lock skips holder).status = s.status ∧ Frozen (s.lock skips holder) := by
    rcases lock_cases skips holder with same | ⟨_, allowed, _⟩
    · rw [same]
      exact ⟨rfl, frozen⟩
    · rw [skipped] at allowed
      cases allowed
  have announced (type : RequestType) {expected : InstanceState} (other : ¬ Terminal expected) :
      (s.announce type expected).status = s.status ∧ Frozen (s.announce type expected) := by
    rcases announce_cases type expected with same | ⟨same, _⟩
    · rw [same]
      exact ⟨rfl, frozen⟩
    · exact absurd (same ▸ terminal) other
  cases event with
  | stopInstance =>
    apply marked rfl
    rcases terminal with same | same
    · simp [same]
    · exact absurd same apart
  | pauseInstance | resumeInstance =>
    apply marked rfl
    rcases terminal with same | same <;> simp [same]
  | boot => exact ⟨rfl, stays (fun _ queued => queued) frozen.handled _ _⟩
  | shutdown =>
    apply locked
    rcases terminal with same | same <;> simp [same]
  | abort =>
    apply locked
    rcases terminal with same | same <;> rw [same] <;> rfl
  | pause => exact announced .pause (by decide)
  | resume => exact announced .resume (by decide)
  | announced index =>
    simp only [LifeCycle.step, enqueue, frozen.unannounced, List.getElem?_nil]
    exact ⟨trivial, frozen⟩
  | transaction =>
    simp only [LifeCycle.step, frozen.unlocked, Option.elim_none]
    exact ⟨trivial, frozen⟩
  | takeBoot =>
    simp only [LifeCycle.step]
    split
    · refine ⟨rfl, stays (fun _ queued => queued) ?_ _ _⟩
      intro handled there
      cases there
      trivial
    · exact ⟨rfl, frozen⟩
  | takeRequest =>
    simp only [LifeCycle.step]
    split
    · rename_i request rest free queue
      have first : request ∈ s.requestQueue := by simp [queue]
      refine ⟨rfl, stays ?_ ?_ _ _⟩
      · intro other queued
        rw [queue]
        exact List.mem_cons_of_mem _ queued
      · intro handled there
        cases there
        exact frozen.queued request first
    · exact ⟨rfl, frozen⟩
  | resolved candidates =>
    simp only [LifeCycle.step]
    split
    · rename_i resolving
      have keeps : s.status = .error := frozen.handled .resolving resolving
      refine ⟨rfl, stays (fun _ queued => queued) ?_ _ _⟩
      intro handled there
      cases there
      exact keeps
    · exact ⟨rfl, frozen⟩
  | prepared made =>
    simp only [LifeCycle.step]
    cases there : s.inSection with
    | none => exact ⟨rfl, frozen⟩
    | some handled =>
      have keeps : handled.Keeps s.status := frozen.handled handled there
      simp only [Option.elim_some, prepare]
      split
      · split
        · refine ⟨rfl, stays (fun _ queued => queued) ?_ _ _⟩
          intro handled there
          cases there
          exact keeps
        · refine ⟨rfl, stays (fun _ queued => queued) ?_ _ _⟩
          intro handled there
          cases there
          exact keeps
      · exact ⟨rfl, frozen⟩
  | done =>
    simp only [LifeCycle.step]
    cases there : s.inSection with
    | none => exact ⟨rfl, frozen⟩
    | some handled => exact frozen.proceed terminal there apart
  | rowDone index =>
    simp only [LifeCycle.step]
    cases there : s.inSection with
    | none => exact ⟨rfl, frozen⟩
    | some handled => exact frozen.callDone index there
  | leaves identity => exact ⟨rfl, frozen.of_eq rfl rfl rfl (fun _ queued => queued) frozen.handled⟩
  | departure index =>
    simp only [LifeCycle.step]
    cases s.departures[index]? with
    | none => exact ⟨rfl, frozen⟩
    | some d => exact frozen.depart terminal index d
  | givenUp index =>
    simp only [LifeCycle.step]
    split
    · exact ⟨rfl, frozen⟩
    · exact ⟨rfl, frozen.of_eq rfl rfl rfl (fun _ queued => queued) frozen.handled⟩

end

theorem status_cases (s : LifeCycle) (event : Event) : (s.step event).status = s.status ∨
      ((s.step event).status = .closing ∨ (s.step event).status = .pausing ∨
        (s.step event).status = .resuming) ∨
      (event = .transaction ∧ ∃ t, s.transaction = some t ∧ t.phase = .committing) ∨
      event = .done ∧ ∃ outcome, s.inSection = some (.updating outcome) ∧ s.transaction = none := by
  have marked {s' : LifeCycle} {may : InstanceState → Bool} {status : InstanceState}
      (is : s' = s.mark may status) : s'.status = s.status ∨ s'.status = status := by
    rcases mark_cases may status with same | ⟨_, _, written⟩
    · exact .inl (by rw [is, same])
    · exact .inr (by rw [is, written])
  have locked (skips : InstanceState → Bool) (holder : Holder) :
      (s.lock skips holder).status = s.status := by
    rcases lock_cases skips holder with same | ⟨_, _, same⟩ <;> rw [same]
  have announced (type : RequestType) (expected : InstanceState) :
      (s.announce type expected).status = s.status := by
    rcases announce_cases type expected with same | ⟨_, same⟩ <;> rw [same]
  cases event with
  | stopInstance => exact (marked rfl).imp_right fun is => .inl (.inl is)
  | pauseInstance => exact (marked rfl).imp_right fun is => .inl (.inr (.inl is))
  | resumeInstance => exact (marked rfl).imp_right fun is => .inl (.inr (.inr is))
  | boot => exact .inl rfl
  | shutdown | abort => exact .inl (locked _ _)
  | pause | resume => exact .inl (announced _ _)
  | announced index =>
    left
    simp only [step, enqueue]
    split <;> rfl
  | transaction =>
    cases held : s.transaction with
    | none =>
      left
      simp only [step, held, Option.elim_none]
    | some t =>
      cases phase : t.phase with
      | updating | publishing =>
        left
        simp only [step, held, Option.elim_some, transact, phase]
      | committing => exact .inr (.inr (.inl ⟨rfl, t, rfl, phase⟩))
  | done =>
    simp only [step]
    cases there : s.inSection with
    | none => exact .inl rfl
    | some handled =>
      cases handled with
      | updating outcome =>
        by_cases free : s.transaction = none
        · exact .inr (.inr (.inr ⟨trivial, outcome, rfl, free⟩))
        · left
          simp only [Option.elim_some, proceed, if_neg free]
      | reading | calling =>
        left
        simp only [Option.elim_some, proceed]
        split <;> rfl
      | preparing candidates =>
        left
        cases candidates <;> rfl
      | _ => exact .inl rfl
  | takeBoot | takeRequest | resolved | prepared | rowDone =>
    exact .inl ((step_handles s (by trivial)).2.2.2 (by simp))
  | leaves identity => exact .inl rfl
  | departure index =>
    left
    simp only [step]
    cases s.departures[index]? with
    | none => rfl
    | some d =>
      simp only [Option.elim_some, depart]
      split
      · rfl
      · rfl
      · split
        · rfl
        · exact locked _ _
      · rfl
  | givenUp index =>
    left
    simp only [step]
    split <;> rfl

theorem step_commits {t : Transaction} (held : s.transaction = some t)
    (phase : t.phase = .committing) : ∃ departures, s.step .transaction =
      { s with transaction := none, status := t.holder.status, departures } := by
  simp only [step, held, Option.elim_some, transact, phase]
  cases t.holder with
  | shutdown | abort => exact ⟨s.departures, rfl⟩
  | departure index => exact ⟨_, rfl⟩

theorem step_updates {outcome : Outcome} (there : s.inSection = some (.updating outcome))
    (free : s.transaction = none) :
    s.step .done = { s with status := outcome.status, inSection := some .publishing } := by
  simp only [step, there, Option.elim_some, proceed, if_pos free]

/-- A step into a terminal state leaves nothing under way that writes another. -/
theorem frozen_of_enters (event : Event) (apart : Apart s event) (before : ¬ Terminal s.status)
    (after : Terminal (s.step event).status) : Frozen (s.step event) := by
  rcases status_cases s event with same | marked | ⟨rfl, t, held, phase⟩ |
    ⟨rfl, outcome, there, free⟩
  · rw [same] at after
    exact absurd after before
  · exfalso
    rcases after with closed | error
    · rw [closed] at marked
      simp at marked
    · rw [error] at marked
      simp at marked
  · obtain ⟨departures, is⟩ := step_commits held phase
    rw [is] at after ⊢
    have other : t.holder ≠ .shutdown := by
      intro same
      simp [Holder.status, same, Terminal] at after
    have error : t.holder.status = .error := by
      cases holder : t.holder with
      | shutdown => exact absurd holder other
      | abort | departure => rfl
    obtain ⟨⟨unannounced, queued⟩, idle⟩ := apart t held phase other
    refine ⟨rfl, unannounced, ?_, ?_⟩
    · intro request there outcome writes
      rw [outcome_recovery (queued request there)] at writes
      cases writes
    · intro handled there
      dsimp only
      rw [error]
      exact keeps_error (idle handled there)
  · rw [step_updates there free] at after ⊢
    obtain ⟨full, closed⟩ := apart _ there free
    have published : ∀ handled ∈ some Section.publishing, handled.Keeps outcome.status := by
      intro handled there
      cases there
      trivial
    rcases after with isClosed | isError
    · obtain ⟨unannounced, queued⟩ := closed isClosed
      refine ⟨free, unannounced, ?_, published⟩
      intro request there written writes
      rw [outcome_shutdown (queued request there) written writes]
      exact isClosed.symm
    · obtain ⟨unannounced, queued⟩ := full isError
      refine ⟨free, unannounced, ?_, published⟩
      intro request there written writes
      rw [outcome_recovery (queued request there)] at writes
      cases writes

theorem ended_step (kept : Terminal s.status → Frozen s) (event : Event) (apart : Apart s event) :
    Terminal (s.step event).status → Frozen (s.step event) := by
  intro after
  by_cases before : Terminal s.status
  · exact ((kept before).step before event apart).2
  · exact frozen_of_enters event apart before after

end Frozen

end LifeCycle
end AkashicSystem.ClusterMaster
