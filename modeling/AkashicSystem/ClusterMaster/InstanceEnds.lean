import AkashicSystem.ClusterMaster.EndedAssignments

/-!
# How an instance ends

A transaction that is about to commit has its request queued or handled, or what is stored has
been given up already; the departure of a process ends with the removal of its rows.  When
nothing is queued any more, what a shutdown or an abort has ended runs nowhere.
-/

set_option autoImplicit false

namespace AkashicSystem.ClusterMaster
namespace LifeCycle

open LifeCycle List

open SystemApiServer.InstanceManager (InstanceState)
open RequestLoops (InstanceRequest RequestType Outcome)
open ProcessMonitor (ended typeGameRunner2)

def Pending (s : LifeCycle) (request : InstanceRequest) : Prop :=
  request ∈ s.requestQueue ∨ s.inSection = some (.listing request) ∨
    ∃ calls, s.inSection = some (.calling request calls)

section Steps

variable {s : LifeCycle}

variable {request : InstanceRequest}

theorem queue_step (queued : request ∈ s.requestQueue) (event : Event) :
    request ∈ (s.step event).requestQueue ∨ (s.step event).inSection = some (.listing request) := by
  have kept {s' : LifeCycle} (same : s'.requestQueue = s.requestQueue) :
      request ∈ s'.requestQueue ∨ s'.inSection = some (.listing request) := by
    left
    rw [same]
    exact queued
  cases event with
  | stopInstance | pauseInstance | resumeInstance =>
    simp only [step]
    rcases mark_cases (s := s) _ _ with is | ⟨_, _, is⟩ <;> rw [is] <;> exact kept rfl
  | shutdown | abort =>
    simp only [step]
    rcases lock_cases (s := s) _ _ with is | ⟨_, _, is⟩ <;> rw [is] <;> exact kept rfl
  | pause | resume =>
    simp only [step]
    rcases announce_cases (s := s) _ _ with is | ⟨_, is⟩ <;> rw [is] <;> exact kept rfl
  | boot | leaves => exact kept rfl
  | announced index =>
    simp only [step, enqueue]
    split
    · exact kept rfl
    · exact .inl (mem_append_left _ queued)
  | transaction =>
    simp only [step]
    cases s.transaction with
    | none => exact kept rfl
    | some t =>
      simp only [Option.elim_some, transact]
      split
      · exact kept rfl
      · exact .inl (mem_append_left _ queued)
      · split <;> exact kept rfl
  | takeRequest =>
    simp only [step]
    split
    · rename_i first rest free queue
      rw [queue] at queued
      rcases mem_cons.mp queued with rfl | later
      · exact .inr rfl
      · exact .inl later
    · exact kept rfl
  | takeBoot | resolved | prepared | done | rowDone =>
    exact kept ((step_handles s (by trivial)).2.2.1 (by simp))
  | givenUp =>
    simp only [step]
    split <;> exact kept rfl
  | departure index =>
    simp only [step]
    cases s.departures[index]? with
    | none => exact kept rfl
    | some d =>
      simp only [Option.elim_some, depart]
      split
      · exact kept rfl
      · exact kept rfl
      · split
        · exact kept rfl
        · rcases lock_cases (s := s) ended (.departure index) with is | ⟨_, _, is⟩ <;>
            rw [is] <;> exact kept rfl
      · exact kept rfl

theorem Pending.step (pending : Pending s request) (event : Event) :
    Pending (s.step event) request ∨ ∃ calls, s.inSection = some (.calling request calls) ∧
        (∀ call ∈ calls, call.phase = .settled) ∧
        (s.step event).inSection = request.outcome.map .updating := by
  have moves := moves_step s event
  rcases pending with queued | listing | ⟨calls, calling⟩
  · rcases queue_step queued event with still | taken
    · exact .inl (.inl still)
    · exact .inl (.inr (.inl taken))
  · rw [listing] at moves
    generalize after : (s.step event).inSection = inSection' at moves
    cases moves with
    | kept => exact .inl (.inr (.inl after))
    | lists _ calls => exact .inl (.inr (.inr ⟨calls, after⟩))
  · rw [calling] at moves
    generalize after : (s.step event).inSection = inSection' at moves
    cases moves with
    | kept => exact .inl (.inr (.inr ⟨calls, after⟩))
    | calls _ _ _ calls' => exact .inl (.inr (.inr ⟨calls', after⟩))
    | settles _ _ settled => exact .inr ⟨calls, calling, settled, rfl⟩

theorem Held.unassigned (held : Held s) {calls : List Call}
    (calling : s.inSection = some (.calling request calls))
    (settled : ∀ call ∈ calls, call.phase = .settled) (type : request.type = .shutdown) :
    s.rows = [] := by
  apply eq_nil_iff_forall_not_mem.mpr
  intro row stored
  obtain ⟨call, listed, _, unsettled⟩ := (held.covered _ calling).2.2 type row stored
  exact unsettled (settled call listed)

theorem Held.only (held : Held s) {row row' : Row} (stored : row ∈ s.rows)
    (stored' : row' ∈ s.rows) : row = row' := by
  have single := held.single
  cases rows : s.rows with
  | nil =>
    rw [rows] at stored
    cases stored
  | cons only rest =>
    have none : rest = [] := by simpa [rows] using single
    subst none
    rw [rows] at stored stored'
    exact (mem_singleton.mp stored).trans (mem_singleton.mp stored').symm

theorem rows_nil (none : s.rows = []) (event : Event)
    (unsaved : event = .done → ∀ identity, s.inSection ≠ some (.saving identity)) :
    (s.step event).rows = [] := by
  apply eq_nil_iff_forall_not_mem.mpr
  intro row stored
  have before := rows_step event unsaved row stored
  rw [none] at before
  cases before

inductive Goes (s : LifeCycle) (event : Event) : Departure → Departure → Prop where
  | kept (d : Departure) : Goes s event d d
  | listed (identity : ClusterIdentity) (count : Nat) (same : (s.step event).rows = s.rows)
      (counted : 0 < count → ∃ row ∈ s.rows, row.targetIdentity = identity) :
      Goes s event ⟨identity, .listing⟩ ⟨identity, .aborting count⟩
  | aborted (identity : ClusterIdentity) (count : Nat)
      (may : event = .transaction ∨ s.transaction = none) :
      Goes s event ⟨identity, .aborting (count + 1)⟩ ⟨identity, .aborting count⟩
  | left (identity : ClusterIdentity)
      (removed : ∀ row ∈ (s.step event).rows, row.targetIdentity ≠ identity) :
      Goes s event ⟨identity, .aborting 0⟩ ⟨identity, .left⟩

def Onward (s : LifeCycle) (event : Event) (departures : List Departure) : Prop :=
  ∀ j : Nat, match s.departures[j]? with
    | some d => ∃ d', departures[j]? = some d' ∧ Goes s event d d'
    | none => ∀ d' : Departure, departures[j]? = some d' → d'.phase = .listing

theorem onward_of_eq (event : Event) {departures : List Departure}
    (same : departures = s.departures) : Onward s event departures := by
  subst same
  intro j
  cases there : s.departures[j]? with
  | none => simp
  | some d => exact ⟨d, rfl, .kept d⟩

theorem onward_set (event : Event) {index : Nat} {d d' : Departure}
    (there : s.departures[index]? = some d) (goes : Goes s event d d') :
    Onward s event (s.departures.set index d') := by
  intro j
  obtain ⟨inBounds, _⟩ := List.getElem?_eq_some_iff.mp there
  by_cases same : index = j
  · subst same
    rw [there]
    exact ⟨d', by rw [List.getElem?_set_self inBounds], goes⟩
  · rw [List.getElem?_set_ne same]
    exact onward_of_eq event rfl j

theorem onward_aborted (event : Event) (index : Nat)
    (may : event = .transaction ∨ s.transaction = none) :
    Onward s event (s.aborted index).departures := by
  intro j
  simp only [aborted, List.getElem?_modify]
  cases there : s.departures[j]? with
  | none => simp
  | some d =>
    by_cases same : index = j
    · refine ⟨d.aborted, by simp [same], ?_⟩
      obtain ⟨identity, phase⟩ := d
      cases phase with
      | aborting count =>
        cases count with
        | zero => exact .kept _
        | succ count => exact .aborted identity count may
      | listing | left => exact .kept _
    · exact ⟨d, by simp [same], .kept d⟩

theorem departures_step (s : LifeCycle) (event : Event) :
    Onward s event (s.step event).departures := by
  cases event with
  | stopInstance | pauseInstance | resumeInstance =>
    apply onward_of_eq
    simp only [step]
    rcases mark_cases (s := s) _ _ with is | ⟨_, _, is⟩ <;> rw [is]
  | shutdown | abort =>
    apply onward_of_eq
    simp only [step]
    rcases lock_cases (s := s) _ _ with is | ⟨_, _, is⟩ <;> rw [is]
  | pause | resume =>
    apply onward_of_eq
    simp only [step]
    rcases announce_cases (s := s) _ _ with is | ⟨_, is⟩ <;> rw [is]
  | boot => exact onward_of_eq _ rfl
  | announced index =>
    apply onward_of_eq
    simp only [step, enqueue]
    split <;> rfl
  | transaction =>
    cases held : s.transaction with
    | none =>
      apply onward_of_eq
      simp only [step, held, Option.elim_none]
    | some t =>
      simp only [step, held, Option.elim_some, transact]
      split
      · exact onward_of_eq _ rfl
      · exact onward_of_eq _ rfl
      · split
        · exact onward_aborted _ _ (.inl rfl)
        · exact onward_of_eq _ rfl
  | takeBoot | takeRequest | resolved | prepared | done | rowDone =>
    exact onward_of_eq _ (step_handles s (by trivial)).2.1
  | givenUp =>
    apply onward_of_eq
    simp only [step]
    split <;> rfl
  | leaves identity =>
    intro j
    simp only [step]
    cases there : s.departures[j]? with
    | none =>
      intro d' added
      rw [List.getElem?_append_right (List.getElem?_eq_none_iff.mp there)] at added
      have is : d' = ⟨identity, .listing⟩ :=
        mem_singleton.mp (mem_of_getElem? added)
      rw [is]
    | some d =>
      obtain ⟨inBounds, _⟩ := List.getElem?_eq_some_iff.mp there
      exact ⟨d, by rw [List.getElem?_append_left inBounds, there], .kept d⟩
  | departure index =>
    cases there : s.departures[index]? with
    | none =>
      apply onward_of_eq
      simp only [step, there, Option.elim_none]
    | some d =>
      have steps : s.step (.departure index) = s.depart index d := by
        simp only [step, there, Option.elim_some]
      rw [steps]
      obtain ⟨identity, phase⟩ := d
      cases phase with
      | listing =>
        refine onward_set _ there (.listed identity _ ?_ ?_)
        · rw [steps]
          rfl
        · intro counted
          split at counted
          · obtain ⟨row, stored, same⟩ := countP_pos_iff.mp counted
            exact ⟨row, stored, by simpa using same⟩
          · cases counted
      | aborting count =>
        cases count with
        | zero =>
          refine onward_set _ there (.left identity ?_)
          rw [steps]
          intro row stored
          simpa using (mem_filter.mp stored).2
        | succ count =>
          simp only [depart]
          split
          · rename_i free
            exact onward_aborted _ _ (.inr free.1)
          · apply onward_of_eq
            rcases lock_cases (s := s) ended (.departure index) with is | ⟨_, _, is⟩ <;>
              rw [is]
      | left => exact onward_of_eq _ rfl

inductive Locks (s : LifeCycle) (event : Event) :
    Option Transaction → Option Transaction → Prop where
  | kept (transaction : Option Transaction)
      (other : event ≠ .transaction ∨ transaction = none) :
      Locks s event transaction transaction
  | locked (holder : Holder)
      (leaving : ∀ index, holder = .departure index →
        (s.step event).departures = s.departures ∧
          ∃ d n, s.departures[index]? = some d ∧ d.phase = .aborting (n + 1)) :
      Locks s event none (some ⟨holder, .updating⟩)
  | updated (holder : Holder) (same : (s.step event).departures = s.departures) :
      Locks s event (some ⟨holder, .updating⟩) (some ⟨holder, .publishing⟩)
  | published (holder : Holder) (same : (s.step event).departures = s.departures)
      (queued : ∀ request ∈ holder.request, request ∈ (s.step event).requestQueue) :
      Locks s event (some ⟨holder, .publishing⟩) (some ⟨holder, .committing⟩)
  | committed (holder : Holder) : Locks s event (some ⟨holder, .committing⟩) none

theorem locks_lock {skips : InstanceState → Bool} {holder : Holder} {event : Event}
    (other : event ≠ .transaction) (steps : s.step event = s.lock skips holder)
    (leaving : ∀ index, holder = .departure index →
      ∃ d n, s.departures[index]? = some d ∧ d.phase = .aborting (n + 1)) :
    Locks s event s.transaction (s.step event).transaction := by
  rw [steps]
  rcases lock_cases skips holder with is | ⟨free, _, is⟩
  · rw [is]
    exact .kept _ (.inl other)
  · rw [is, free]
    refine .locked holder fun index same => ⟨?_, leaving index same⟩
    rw [steps, is]

theorem locks_step (s : LifeCycle) (event : Event) :
    Locks s event s.transaction (s.step event).transaction := by
  have kept (other : event ≠ .transaction) {s' : LifeCycle}
      (same : s'.transaction = s.transaction) : Locks s event s.transaction s'.transaction := by
    rw [same]
    exact .kept _ (.inl other)
  cases event with
  | stopInstance | pauseInstance | resumeInstance =>
    apply kept (by simp)
    simp only [step]
    rcases mark_cases (s := s) _ _ with is | ⟨_, _, is⟩ <;> rw [is]
  | shutdown =>
    have steps : s.step .shutdown =
        s.lock (fun status => status = .closed ∨ status = .error) .shutdown := rfl
    refine locks_lock (by simp) steps ?_
    intro index same
    cases same
  | abort =>
    have steps : s.step .abort = s.lock ended .abort := rfl
    refine locks_lock (by simp) steps ?_
    intro index same
    cases same
  | pause | resume =>
    apply kept (by simp)
    simp only [step]
    rcases announce_cases (s := s) _ _ with is | ⟨_, is⟩ <;> rw [is]
  | boot | leaves => exact kept (by simp) rfl
  | transaction =>
    cases held : s.transaction with
    | none =>
      simp only [step, held, Option.elim_none]
      exact .kept _ (.inr rfl)
    | some t =>
      obtain ⟨holder, phase⟩ := t
      have steps : s.step .transaction = s.transact ⟨holder, phase⟩ := by
        simp only [step, held, Option.elim_some]
      rw [steps]
      cases phase with
      | updating =>
        apply Locks.updated
        rw [steps]
        rfl
      | publishing =>
        refine .published holder (by rw [steps]; rfl) ?_
        intro request asks
        rw [steps]
        refine mem_append_right _ ?_
        simpa using asks
      | committing => cases holder <;> exact .committed _
  | announced index =>
    apply kept (by simp)
    simp only [step, enqueue]
    split <;> rfl
  | takeBoot | takeRequest | resolved | prepared | done | rowDone =>
    exact kept (by simp) (step_handles s (by trivial)).1
  | givenUp =>
    apply kept (by simp)
    simp only [step]
    split <;> rfl
  | departure index =>
    cases there : s.departures[index]? with
    | none =>
      apply kept (by simp)
      simp only [step, there, Option.elim_none]
    | some d =>
      have steps : s.step (.departure index) = s.depart index d := by
        simp only [step, there, Option.elim_some]
      obtain ⟨identity, phase⟩ := d
      cases phase with
      | listing | left =>
        apply kept (by simp)
        rw [steps]
        rfl
      | aborting count =>
        cases count with
        | zero =>
          apply kept (by simp)
          rw [steps]
          rfl
        | succ count =>
          simp only [depart] at steps
          split at steps
          · apply kept (by simp)
            rw [steps]
            rfl
          · refine locks_lock (by simp) steps ?_
            intro other same
            cases same
            exact ⟨⟨identity, .aborting (count + 1)⟩, count, there, rfl⟩

structure Owed (s : LifeCycle) : Prop where
  /-- A departure that aborts has found the only process there is. -/
  leaving : ∀ d ∈ s.departures, ∀ n, d.phase = .aborting (n + 1) →
    Sealed s ∧ ∀ row ∈ s.rows, row.targetIdentity = d.identity
  departure : ∀ index phase, s.transaction = some ⟨.departure index, phase⟩ →
    ∃ d n, s.departures[index]? = some d ∧ d.phase = .aborting (n + 1)
  shutdown : s.transaction = some ⟨.shutdown, .committing⟩ →
    Pending s ⟨.shutdown, false⟩ ∨ s.inSection = some (.updating .closed)
  abort : s.transaction = some ⟨.abort, .committing⟩ →
    Pending s ⟨.shutdown, true⟩ ∨ s.rows = [] ∨ s.inSection = some (.updating .assigned)

theorem updating_step {outcome : Outcome} (there : s.inSection = some (.updating outcome))
    (locked : s.transaction ≠ none) (event : Event) :
    (s.step event).inSection = some (.updating outcome) := by
  have moves := moves_step s event
  rw [there] at moves
  generalize after : (s.step event).inSection = inSection' at moves
  cases moves with
  | kept => rfl
  | updates _ free => exact absurd free locked

theorem Owed.step (owed : Owed s) (held : Held s) (event : Event) : Owed (s.step event) := by
  have locks := locks_step s event
  constructor
  · intro d' listed' n phase'
    obtain ⟨j, at'⟩ := List.getElem?_of_mem listed'
    have onward := departures_step s event j
    cases there : s.departures[j]? with
    | none =>
      simp only [there] at onward
      rw [onward d' at'] at phase'
      cases phase'
    | some d =>
      simp only [there] at onward
      obtain ⟨d'', same, goes⟩ := onward
      rw [at'] at same
      cases same
      have listed : d ∈ s.departures := mem_of_getElem? there
      have from' (identity : ClusterIdentity) (m : Nat)
          (before : (⟨identity, .aborting (m + 1)⟩ : Departure) ∈ s.departures) :
          Sealed (s.step event) ∧
            ∀ row ∈ (s.step event).rows, row.targetIdentity = identity := by
        obtain ⟨sealed, of⟩ := owed.leaving _ before m rfl
        exact ⟨sealed.step event,
          fun row stored => of row (rows_step event (fun _ => sealed.unsaved) row stored)⟩
      cases goes with
      | kept =>
        obtain ⟨identity, phase⟩ := d'
        cases phase'
        exact from' identity n listed
      | listed identity count same counted =>
        cases phase'
        obtain ⟨row, stored, is⟩ := counted (Nat.succ_pos n)
        have sealed : Sealed s := held.sealed (ne_nil_of_mem stored)
        refine ⟨sealed.step event, ?_⟩
        intro other stored'
        rw [same] at stored'
        rw [held.only stored' stored, is]
      | aborted identity count may =>
        cases phase'
        exact from' identity (n + 1) listed
      | left => cases phase'
  · intro index phase transaction'
    generalize before : s.transaction = transaction at locks
    rw [transaction'] at locks
    cases locks with
    | kept _ other =>
      obtain ⟨d, n, there, aborting⟩ := owed.departure index phase before
      have onward := departures_step s event index
      simp only [there] at onward
      obtain ⟨d', at', goes⟩ := onward
      refine ⟨d', n, at', ?_⟩
      cases goes with
      | kept => exact aborting
      | listed | left => cases aborting
      | aborted identity count may =>
        exfalso
        rcases may with same | free
        · exact other.elim (fun ne => ne same) (fun none => by cases none)
        · rw [before] at free
          cases free
    | locked _ leaving =>
      obtain ⟨same, d, n, there, aborting⟩ := leaving index rfl
      rw [same]
      exact ⟨d, n, there, aborting⟩
    | updated _ same | published _ same =>
      rw [same]
      exact owed.departure index _ before
  · intro transaction'
    generalize before : s.transaction = transaction at locks
    rw [transaction'] at locks
    cases locks with
    | kept _ other =>
      rcases owed.shutdown before with pending | closing
      · rcases pending.step event with still | ⟨calls, _, _, updating⟩
        · exact .inl still
        · exact .inr updating
      · exact .inr (updating_step closing (by simp [before]) event)
    | published _ same queued => exact .inl (.inl (queued _ rfl))
  · intro transaction'
    generalize before : s.transaction = transaction at locks
    rw [transaction'] at locks
    cases locks with
    | kept _ other =>
      rcases owed.abort before with pending | none | assigned
      · rcases pending.step event with still | ⟨calls, calling, settled, _⟩
        · exact .inl still
        · right
          left
          apply rows_nil (held.unassigned calling settled rfl)
          simp [calling]
      · by_cases saving : event = .done ∧ ∃ identity, s.inSection = some (.saving identity)
        · obtain ⟨rfl, identity, saving⟩ := saving
          right
          right
          simp only [LifeCycle.step, saving, Option.elim_some, LifeCycle.proceed]
        · right
          left
          apply rows_nil none
          intro same identity there
          exact saving ⟨same, identity, there⟩
      · exact .inr (.inr (updating_step assigned (by simp [before]) event))
    | published _ same queued => exact .inl (.inl (queued _ rfl))

structure Clear (s : LifeCycle) : Prop where
  rows : s.rows = []
  unsaved : ∀ identity, s.inSection ≠ some (.saving identity)
  aborted : ∀ handled ∈ s.inSection, handled.Boots → s.status = .error

def Removes (s : LifeCycle) : Prop :=
  Sealed s ∧ ∃ d ∈ s.departures, (∃ n, d.phase = .aborting n) ∧
    ∀ row ∈ s.rows, row.targetIdentity = d.identity

/-- A shutdown is under way, or there is nothing left, or what is left is being removed. -/
def Settling (s : LifeCycle) : Prop :=
  s.status ≠ .prepare ∧
    ((∃ request, request.type = .shutdown ∧ Pending s request) ∨ Clear s ∨ Removes s)

structure Inv (s : LifeCycle) : Prop where
  frozen : Terminal s.status → Frozen s
  held : Held s
  owed : Owed s

theorem Inv.step (inv : Inv s) (event : Event) (apart : Apart s event) :
    Inv (s.step event) where
  frozen := ended_step inv.frozen event apart
  held := inv.held.step event apart
  owed := inv.owed.step inv.held event

theorem inv_created : Inv created where
  frozen terminal := by
    rcases terminal with same | same <;> cases same
  held :=
    { running := by simp [created]
      covered := by simp [created]
      single := by simp [created]
      sealed := fun rows => absurd rfl rows }
  owed :=
    { leaving := by simp [created]
      departure := by simp [created]
      shutdown := by simp [created]
      abort := by simp [created] }

theorem Clear.step (clear : Clear s) (started : s.status ≠ .prepare) (inv : Inv s)
    (event : Event) (apart : Apart s event) : Clear (s.step event) := by
  have moves := moves_step s event
  constructor
  · exact rows_nil clear.rows event fun _ => clear.unsaved
  · intro identity saving
    generalize before : s.inSection = inSection at moves
    generalize after : (s.step event).inSection = inSection' at moves saving
    cases moves with
    | kept => exact clear.unsaved identity (before.trans saving)
    | saves =>
      have isError : s.status = .error := clear.aborted _ before trivial
      have other : s.status ≠ .error := apart _ before
      exact other isError
    | settles request =>
      obtain ⟨outcome, _, same⟩ := Option.map_eq_some_iff.mp saving
      cases same
    | _ => cases saving
  · intro handled' there' boots
    have wasError (handled : Section) (there : s.inSection = some handled)
        (boots : handled.Boots) : (s.step event).status = .error := by
      have isError : s.status = .error := clear.aborted handled there boots
      have kept := ((inv.frozen (.inr isError)).step (.inr isError) event apart).1
      rw [kept, isError]
    generalize before : s.inSection = inSection at moves
    generalize after : (s.step event).inSection = inSection' at moves there'
    cases moves with
    | kept => exact wasError handled' (before.trans there') boots
    | resolves prepare => exact absurd prepare started
    | finds | assigns | drops | saves => exact wasError _ before trivial
    | settles request =>
      obtain ⟨outcome, _, rfl⟩ := Option.map_eq_some_iff.mp there'
      exact boots.elim
    | skips | ends => cases there'
    | takesBoot | takesRequest | finds_none | saved | lists | calls | updates =>
      cases there'
      exact boots.elim

theorem Settling.step (settling : Settling s) (inv : Inv s) (event : Event)
    (apart : Apart s event) : Settling (s.step event) := by
  obtain ⟨started, shutdown | clear | ⟨sealed, d, listed, ⟨n, phase⟩, of⟩⟩ := settling
  · refine ⟨started_step started event, ?_⟩
    obtain ⟨request, type, pending⟩ := shutdown
    rcases pending.step event with still | ⟨calls, calling, settled, after⟩
    · exact .inl ⟨request, type, still⟩
    · right
      left
      have none := inv.held.unassigned calling settled type
      constructor
      · exact rows_nil none event (by simp [calling])
      · rw [after]
        intro identity same
        obtain ⟨outcome, _, is⟩ := Option.map_eq_some_iff.mp same
        cases is
      · rw [after]
        intro handled there boots
        obtain ⟨outcome, _, rfl⟩ := Option.map_eq_some_iff.mp there
        exact boots.elim
  · exact ⟨started_step started event, .inr (.inl (clear.step started inv event apart))⟩
  · refine ⟨started_step started event, .inr ?_⟩
    have sealed' := sealed.step event
    have rows : ∀ row ∈ (s.step event).rows, row.targetIdentity = d.identity := by
      intro row stored
      exact of row (rows_step event (fun _ => sealed.unsaved) row stored)
    obtain ⟨j, there⟩ := List.getElem?_of_mem listed
    have onward := departures_step s event j
    simp only [there] at onward
    obtain ⟨d', at', goes⟩ := onward
    have still (aborting : ∃ n, d'.phase = .aborting n) (same : d'.identity = d.identity) :
        Clear (s.step event) ∨ Removes (s.step event) := by
      refine .inr ⟨sealed', d', mem_of_getElem? at', aborting, ?_⟩
      rw [same]
      exact rows
    cases goes with
    | kept => exact still ⟨n, phase⟩ rfl
    | listed => cases phase
    | aborted identity count => exact still ⟨count, rfl⟩ rfl
    | left identity removed =>
      left
      refine ⟨?_, sealed'.unsaved, ?_⟩
      · apply eq_nil_iff_forall_not_mem.mpr
        intro row stored
        exact removed row stored (rows row stored)
      · intro handled there boots
        rcases sealed' with ⟨_, idle⟩ | assigned
        · exact absurd boots (idle handled there)
        · rw [assigned] at there
          cases there
          exact boots.elim

theorem settling_of_carriesOut (inv : Inv s) (event : Event) (apart : Apart s event)
    (commits : CarriesOut s event) : Settling (s.step event) := by
  obtain ⟨rfl, t, transaction, phase⟩ := commits
  obtain ⟨departures, is⟩ := step_commits transaction phase
  refine ⟨?_, ?_⟩
  · rw [is]
    exact t.holder.status_ne_prepare
  · have idle (other : t.holder ≠ .shutdown) := (apart t transaction phase other).2
    have pending {request : InstanceRequest} (before : Pending s request) :
        Pending (s.step .transaction) request := by
      rw [is]
      exact before
    obtain ⟨holder, _⟩ := t
    cases phase
    cases holder with
    | shutdown =>
      rcases inv.owed.shutdown transaction with before | closing
      · exact .inl ⟨_, rfl, pending before⟩
      · right
        left
        rw [is]
        refine ⟨inv.held.covered _ closing rfl, ?_, ?_⟩
        · simp [closing]
        · intro handled there boots
          rw [closing] at there
          cases there
          exact boots.elim
    | abort =>
      rcases inv.owed.abort transaction with before | none | assigned
      · exact .inl ⟨_, rfl, pending before⟩
      · right
        left
        rw [is]
        refine ⟨none, ?_, fun _ _ _ => rfl⟩
        intro identity saving
        exact idle (by simp) _ saving trivial
      · exfalso
        exact idle (by simp) _ assigned (by simp [Section.Commits, Outcome.status])
    | departure index =>
      obtain ⟨d, n, there, aborting⟩ := inv.owed.departure index _ transaction
      obtain ⟨sealed, rows⟩ := inv.owed.leaving d (mem_of_getElem? there) n aborting
      have locked : s.transaction = some ⟨.departure index, .committing⟩ := transaction
      have aborted : (s.step .transaction).departures[index]? =
          some ⟨d.identity, .aborting n⟩ := by
        simp [step, locked, transact, aborted, there,
          Departure.aborted, aborting]
      refine .inr (.inr ⟨sealed.step _, _, mem_of_getElem? aborted, ⟨n, rfl⟩, ?_⟩)
      rw [is]
      exact rows

theorem Settling.drained (settling : Settling s) (inv : Inv s) (drained : Drained s) :
    s.running = [] ∧ s.rows = [] := by
  obtain ⟨_, queue, free, left⟩ := drained
  have none : s.rows = [] := by
    obtain ⟨_, ⟨request, _, queued | listing | ⟨calls, calling⟩⟩ | clear |
      ⟨_, d, listed, ⟨n, phase⟩, _⟩⟩ := settling
    · rw [queue] at queued
      cases queued
    · rw [free] at listing
      cases listing
    · rw [free] at calling
      cases calling
    · exact clear.rows
    · rw [left d listed] at phase
      cases phase
  refine ⟨?_, none⟩
  apply eq_nil_iff_forall_not_mem.mpr
  intro identity runs
  rcases inv.held.running identity runs with ⟨row, stored, _⟩ | saving
  · rw [none] at stored
    cases stored
  · rw [free] at saving
    cases saving

theorem inv_final (events : List Event) (run : Run.Allowed step Apart created events) :
    Inv (Run.final step created events) :=
  Run.invariant (fun _ event inv apart => inv.step event apart) created events inv_created run

/-- An ended instance stays so, and one that a shutdown or an abort has ended is left with no
assignment. -/
theorem final_and_ends_of_apart (events : List Event)
    (run : Run.Allowed step Apart created events) : Final events ∧ Ends events := by
  constructor
  · rintro front ⟨back, rfl⟩ terminal
    obtain ⟨before, after⟩ := (Run.allowed_append created front back).mp run
    have stays (s : LifeCycle) (event : Event)
        (before : s.status = (Run.final step created front).status ∧ Frozen s)
        (apart : Apart s event) :
        (s.step event).status = (Run.final step created front).status ∧
          Frozen (s.step event) := by
      obtain ⟨same, frozen⟩ := before
      obtain ⟨kept, frozen'⟩ := frozen.step (same ▸ terminal) event apart
      exact ⟨kept.trans same, frozen'⟩
    have frozen := (inv_final front before).frozen terminal
    rw [Run.final_append]
    exact (Run.invariant stays _ back ⟨rfl, frozen⟩ after).1
  · rintro front event ⟨back, rfl⟩ commits drained
    have inv := inv_final _ run
    obtain ⟨upTo, after⟩ := (Run.allowed_append created (front ++ [event]) back).mp run
    obtain ⟨before, now, _⟩ := (Run.allowed_append created front [event]).mp upTo
    have stays (s : LifeCycle) (event : Event) (before : Settling s ∧ Inv s)
        (apart : Apart s event) : Settling (s.step event) ∧ Inv (s.step event) :=
      ⟨before.1.step before.2 event apart, before.2.step event apart⟩
    have begins : Settling (Run.final step created (front ++ [event])) := by
      rw [Run.final_append]
      exact settling_of_carriesOut (inv_final front before) event now commits
    rw [Run.final_append] at drained inv ⊢
    have settling := (Run.invariant stays _ back ⟨begins, inv_final _ upTo⟩ after).1
    exact settling.drained inv drained

def runner : ClusterIdentity := ⟨"runner", typeGameRunner2, "0", 0⟩

def booting : List Event :=
  [.boot, .takeBoot, .done, .resolved [runner], .prepared true, .done, .done]

def stopped : List Event :=
  booting ++ [.done, .done, .stopInstance, .shutdown, .transaction, .transaction, .transaction,
    .takeRequest, .done, .rowDone 0, .rowDone 0, .done, .done, .done, .leaves runner,
    .departure 0, .departure 0]

theorem final_and_ends_of_apart_stopped : Final stopped ∧ Ends stopped :=
  final_and_ends_of_apart stopped (by decide)

/-- The runner reports that the instance has crashed, before it is set to run. -/
def crashed : List Event := booting ++ [.abort, .transaction, .transaction, .transaction]

/-- The recovery of an abort finds nothing, and a boot does not see the abort yet. -/
def uncommitted : List Event :=
  [.abort, .transaction, .transaction, .takeRequest, .done, .done, .boot, .takeBoot, .done,
    .resolved [runner], .prepared true, .done, .done]

/-- An instance that has crashed is set to run; one that is aborted runs after all. -/
theorem crashed_reruns : ¬ Final (crashed ++ [.done]) ∧
    ¬ Ends (uncommitted ++ [.transaction, .done, .done]) := by
  constructor
  · intro final
    have same := final crashed ⟨[.done], rfl⟩ (by decide)
    exact absurd same (by decide)
  · intro ends
    have commits : CarriesOut (Run.final step created uncommitted) .transaction :=
      ⟨rfl, ⟨.abort, .committing⟩, by decide, rfl⟩
    have none := ends uncommitted .transaction ⟨[.done, .done], rfl⟩ commits
      ⟨by decide, by decide, by decide, by decide⟩
    exact absurd none.1 (by decide)

end Steps

end LifeCycle
end AkashicSystem.ClusterMaster
