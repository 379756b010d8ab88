import AkashicSystem.ClusterMaster.TerminalStatus

/-!
# The assignments of an instance that has ended

An instance is assigned at most once, by the boot that found it in `prepare`.  A process that
runs it has its row, except while the row is being saved, and a shutdown gives up every row that
it has read.
-/

set_option autoImplicit false

namespace AkashicSystem.ClusterMaster
namespace LifeCycle

open LifeCycle List

open SystemApiServer.InstanceManager (InstanceState)
open RequestLoops (InstanceRequest RequestType Outcome)
open ProcessMonitor (ended typeGameRunner2)

/-- A boot that may still come to save a row. -/
def Section.Boots : Section → Prop
  | .resolving | .preparing _ | .assigning _ | .saving _ => True
  | .reading | .listing _ | .calling _ _ | .updating _ | .publishing => False

def Sealed (s : LifeCycle) : Prop :=
  s.status ≠ .prepare ∧ (∀ handled ∈ s.inSection, ¬ handled.Boots) ∨
    s.inSection = some (.updating .assigned)

/-- A shutdown has a call for every row, and what has given it up does not run the instance. -/
def Section.Covers (rows : List Row) (running : List ClusterIdentity) : Section → Prop
  | .calling request calls =>
    calls.length ≤ 1 ∧
      (∀ call ∈ calls, call.phase = .removing →
        request.type = .shutdown ∧ call.row.targetIdentity ∉ running) ∧
      (request.type = .shutdown →
        ∀ row ∈ rows, ∃ call ∈ calls, call.row = row ∧ call.phase ≠ .settled)
  | .updating outcome => outcome = .closed → rows = []
  | .reading | .resolving | .preparing _ | .assigning _ | .saving _ | .listing _
  | .publishing => True

structure Held (s : LifeCycle) : Prop where
  running : ∀ identity ∈ s.running,
    (∃ row ∈ s.rows, row.targetIdentity = identity) ∨ s.inSection = some (.saving identity)
  covered : ∀ handled ∈ s.inSection, handled.Covers s.rows s.running
  single : s.rows.length ≤ 1
  sealed : s.rows ≠ [] → Sealed s

theorem Holder.status_ne_prepare (holder : Holder) : holder.status ≠ .prepare := by
  cases holder <;> simp [Holder.status]

theorem outcome_ne_prepare (outcome : Outcome) : outcome.status ≠ .prepare := by
  cases outcome <;> simp [Outcome.status]

section Steps

variable {s : LifeCycle}

theorem started_step (started : s.status ≠ .prepare) (event : Event) :
    (s.step event).status ≠ .prepare := by
  rcases status_cases s event with same | marked | ⟨rfl, t, held, phase⟩ |
    ⟨rfl, outcome, there, free⟩
  · rw [same]
    exact started
  · intro prepare
    rw [prepare] at marked
    simp at marked
  · obtain ⟨departures, is⟩ := step_commits held phase
    rw [is]
    exact t.holder.status_ne_prepare
  · rw [step_updates there free]
    exact outcome_ne_prepare outcome

theorem step_others {event : Event} (other : ¬ event.Handles) :
    (s.step event).inSection = s.inSection ∧
      (∀ identity ∈ (s.step event).running, identity ∈ s.running) ∧ ((s.step event).rows = s.rows ∨
        ∃ index d, event = .departure index ∧ s.departures[index]? = some d ∧
          d.phase = .aborting 0 ∧ (s.step event).running = s.running ∧
          (s.step event).rows = s.rows.filter fun row => row.targetIdentity ≠ d.identity) := by
  have kept {s' : LifeCycle} (inSection : s'.inSection = s.inSection)
      (running : s'.running = s.running) (rows : s'.rows = s.rows) :
      s'.inSection = s.inSection ∧ (∀ identity ∈ s'.running, identity ∈ s.running) ∧
        (s'.rows = s.rows ∨
          ∃ index d, event = .departure index ∧ s.departures[index]? = some d ∧
            d.phase = .aborting 0 ∧ s'.running = s.running ∧
            s'.rows = s.rows.filter fun row => row.targetIdentity ≠ d.identity) := by
    refine ⟨inSection, ?_, .inl rows⟩
    rw [running]
    exact fun _ runs => runs
  cases event with
  | stopInstance | pauseInstance | resumeInstance =>
    simp only [step]
    rcases mark_cases (s := s) _ _ with is | ⟨_, _, is⟩ <;> rw [is] <;> exact kept rfl rfl rfl
  | shutdown | abort =>
    simp only [step]
    rcases lock_cases (s := s) _ _ with is | ⟨_, _, is⟩ <;> rw [is] <;> exact kept rfl rfl rfl
  | pause | resume =>
    simp only [step]
    rcases announce_cases (s := s) _ _ with is | ⟨_, is⟩ <;> rw [is] <;> exact kept rfl rfl rfl
  | boot => exact kept rfl rfl rfl
  | announced index =>
    simp only [step, enqueue]
    split <;> exact kept rfl rfl rfl
  | transaction =>
    simp only [step]
    cases s.transaction with
    | none => exact kept rfl rfl rfl
    | some t =>
      simp only [Option.elim_some, transact]
      split
      · exact kept rfl rfl rfl
      · exact kept rfl rfl rfl
      · split <;> exact kept rfl rfl rfl
  | takeBoot | takeRequest | resolved | prepared | done | rowDone => exact absurd trivial other
  | leaves identity =>
    exact ⟨rfl, fun other runs => (mem_filter.mp runs).1, .inl rfl⟩
  | departure index =>
    simp only [step]
    cases there : s.departures[index]? with
    | none => exact kept rfl rfl rfl
    | some d =>
      simp only [Option.elim_some, depart]
      split
      · exact kept rfl rfl rfl
      · rename_i phase
        exact ⟨rfl, fun _ runs => runs, .inr ⟨index, d, rfl, there, phase, rfl, rfl⟩⟩
      · split
        · exact kept rfl rfl rfl
        · rcases lock_cases (s := s) ended (.departure index) with is | ⟨_, _, is⟩ <;>
            rw [is] <;> exact kept rfl rfl rfl
      · exact kept rfl rfl rfl
  | givenUp index =>
    simp only [step]
    split
    · exact kept rfl rfl rfl
    · exact ⟨rfl, fun other runs => (mem_filter.mp runs).1, .inl rfl⟩

variable {handled : Section}

theorem Sealed.moves (sealed : Sealed s) (there : s.inSection = some handled)
    (other : handled ≠ .updating .assigned) : s.status ≠ .prepare ∧ ¬ handled.Boots := by
  rcases sealed with ⟨started, idle⟩ | assigned
  · exact ⟨started, idle handled there⟩
  · rw [there] at assigned
    exact absurd (Option.some.inj assigned) other

theorem Held.moves (held : Held s) {inSection : Option Section}
    (unsaved : ∀ identity, s.inSection ≠ some (.saving identity))
    (covered : ∀ handled ∈ inSection, handled.Covers s.rows s.running)
    (sealed : s.rows ≠ [] → Sealed { s with inSection := inSection }) (bootQueue : Nat)
    (requestQueue : List InstanceRequest) (givingUp : List ClusterIdentity) :
    Held { s with inSection, bootQueue, requestQueue, givingUp } where
  running identity runs := by
    left
    rcases held.running identity runs with row | saving
    · exact row
    · exact absurd saving (unsaved identity)
  covered := covered
  single := held.single
  sealed := sealed

theorem sealed_of_idle (there : s.inSection = some handled)
    (other : handled ≠ .updating .assigned) {inSection : Option Section}
    (idle : ¬ handled.Boots → ∀ handled' ∈ inSection, ¬ handled'.Boots) (sealed : Sealed s) :
    Sealed { s with inSection := inSection } := by
  obtain ⟨started, quiet⟩ := sealed.moves there other
  exact .inl ⟨started, idle quiet⟩

theorem Held.proceed (held : Held s) (there : s.inSection = some handled) :
    Held (s.proceed handled) := by
  have covers : handled.Covers s.rows s.running := held.covered handled there
  have none_covers : ∀ handled ∈ (none : Option Section), handled.Covers s.rows s.running := by
    intro handled none
    cases none
  have moves {inSection : Option Section} (unsaved : ∀ identity, handled ≠ .saving identity)
      (other : handled ≠ .updating .assigned)
      (covered : ∀ handled ∈ inSection, handled.Covers s.rows s.running)
      (idle : s.rows ≠ [] → ¬ handled.Boots → ∀ handled' ∈ inSection, ¬ handled'.Boots) :
      Held { s with inSection := inSection } := by
    refine held.moves ?_ covered ?_ _ _ _
    · intro identity saving
      rw [there] at saving
      exact unsaved identity (Option.some.inj saving)
    · intro rows
      exact sealed_of_idle there other (idle rows) (held.sealed rows)
  cases handled with
  | reading =>
    simp only [proceed]
    split
    · rename_i prepare
      apply moves (by simp) (by simp)
      · intro handled there
        cases there
        trivial
      · intro rows
        exact absurd prepare ((held.sealed rows).moves there (by simp)).1
    · apply moves (by simp) (by simp) none_covers
      intro _ _ handled none
      cases none
  | resolving => exact held
  | preparing candidates =>
    cases candidates with
    | nil =>
      apply moves (by simp) (by simp)
      · intro handled there
        cases there
        exact fun full => by cases full
      · intro _ _ handled there
        cases there
        exact id
    | cons target rest => exact held
  | assigning target =>
    have unassigned : s.rows = [] := by
      by_contra rows
      exact ((held.sealed rows).moves there (by simp)).2 trivial
    constructor
    · intro identity runs
      rcases mem_insert_iff.mp runs with rfl | before
      · exact .inr rfl
      · rcases held.running identity before with row | saving
        · exact .inl row
        · rw [there] at saving
          cases saving
    · intro handled there
      cases there
      trivial
    · exact held.single
    · intro rows
      exact absurd unassigned rows
  | saving target =>
    have unassigned : s.rows = [] := by
      by_contra rows
      exact ((held.sealed rows).moves there (by simp)).2 trivial
    constructor
    · intro identity runs
      left
      rcases held.running identity runs with ⟨row, stored, same⟩ | saving
      · exact ⟨row, mem_append_left _ stored, same⟩
      · rw [there] at saving
        cases saving
        exact ⟨_, mem_append_right _ (mem_singleton.mpr rfl), rfl⟩
    · intro handled there
      cases there
      exact fun closed => by cases closed
    · simp [proceed, unassigned]
    · intro _
      exact .inr rfl
  | listing request =>
    apply moves (by simp) (by simp)
    · intro handled there
      cases there
      refine ⟨by simpa using held.single, ?_, ?_⟩
      · intro call listed removing
        obtain ⟨row, _, rfl⟩ := mem_map.mp listed
        cases removing
      · intro _ row stored
        exact ⟨⟨row, .asked⟩, mem_map.mpr ⟨row, stored, rfl⟩, rfl, by simp⟩
    · intro _ _ handled there
      cases there
      exact id
  | calling request calls =>
    simp only [proceed]
    split
    · rename_i settled
      apply moves (by simp) (by simp)
      · intro handled there
        obtain ⟨outcome, writes, rfl⟩ := Option.map_eq_some_iff.mp there
        intro closed
        have type : request.type = .shutdown := by
          unfold InstanceRequest.outcome at writes
          split at writes
          · cases writes
          · subst closed
            cases type : request.type <;> simp [type] at writes ⊢
        apply eq_nil_iff_forall_not_mem.mpr
        intro row stored
        obtain ⟨call, listed, _, unsettled⟩ := covers.2.2 type row stored
        exact unsettled (settled call listed)
      · intro _ _ handled there
        obtain ⟨outcome, _, rfl⟩ := Option.map_eq_some_iff.mp there
        exact id
    · exact held
  | updating outcome =>
    simp only [proceed]
    split
    · constructor
      · intro identity runs
        left
        rcases held.running identity runs with row | saving
        · exact row
        · rw [there] at saving
          cases saving
      · intro handled there
        cases there
        trivial
      · exact held.single
      · intro _
        refine .inl ⟨outcome_ne_prepare outcome, ?_⟩
        intro handled there
        cases there
        exact id
    · exact held
  | publishing =>
    apply moves (by simp) (by simp) none_covers
    intro _ _ handled none
    cases none

theorem only_call {calls : List Call} (single : calls.length ≤ 1) {index : Nat} {call : Call}
    (at' : calls[index]? = some call) : calls = [call] ∧ index = 0 := by
  match calls, single with
  | [], _ => simp at at'
  | [only], _ =>
    cases index with
    | zero => exact ⟨by simpa using at', rfl⟩
    | succ index => simp at at'

theorem Held.callDone (held : Held s) (index : Nat) (there : s.inSection = some handled) :
    Held (s.callDone index handled) := by
  have covers : handled.Covers s.rows s.running := held.covered handled there
  cases handled with
  | calling request calls =>
    simp only [callDone]
    split
    · exact held
    · rename_i call at'
      obtain ⟨single, removes, shutdown⟩ := covers
      obtain ⟨rfl, rfl⟩ := only_call single at'
      have unsaved (identity : ClusterIdentity) : s.inSection ≠ some (.saving identity) := by
        rw [there]
        simp
      have placed : ∀ identity ∈ s.running,
          ∃ row ∈ s.rows, row.targetIdentity = identity := by
        intro identity runs
        exact (held.running identity runs).resolve_right (unsaved identity)
      have covering (type : request.type = .shutdown) : ∀ row ∈ s.rows, call.row = row := by
        intro row stored
        obtain ⟨other, listed, same, _⟩ := shutdown type row stored
        rwa [mem_singleton.mp listed] at same
      have sealed {calls' : List Call} {rows : List Row} {running : List ClusterIdentity}
          (still : s.rows ≠ []) :
          Sealed { s with inSection := some (.calling request calls'), rows, running } := by
        obtain ⟨started, _⟩ := (held.sealed still).moves there (by simp)
        refine .inl ⟨started, ?_⟩
        intro handled there
        cases there
        exact id
      split
      · -- the process has given the instance up
        rename_i asked type
        constructor
        · intro identity runs
          exact .inl (placed identity (mem_filter.mp runs).1)
        · intro handled there
          cases there
          refine ⟨by simp, ?_, ?_⟩
          · intro other listed _
            have is : other = ⟨call.row, .removing⟩ := by simpa using listed
            simp [is, type]
          · intro _ row stored
            exact ⟨⟨call.row, .removing⟩, by simp, covering type row stored, by simp⟩
        · exact held.single
        · exact sealed
      · -- a pause or a resume
        rename_i asked other
        constructor
        · intro identity runs
          exact .inl (placed identity runs)
        · intro handled there
          cases there
          refine ⟨by simp, ?_, fun type => absurd type other⟩
          intro other listed removing
          have is : other = ⟨call.row, .settled⟩ := by simpa using listed
          simp [is] at removing
        · exact held.single
        · exact sealed
      · -- the row is removed, which the process does not run any more
        rename_i removing
        obtain ⟨type, givenUp⟩ := removes call (by simp) removing
        constructor
        · intro identity runs
          obtain ⟨row, stored, same⟩ := placed identity runs
          rw [← covering type row stored] at same
          exact absurd (same ▸ runs) givenUp
        · intro handled there
          cases there
          refine ⟨by simp, ?_, ?_⟩
          · intro other listed removing
            have is : other = ⟨call.row, .settled⟩ := by simpa using listed
            simp [is] at removing
          · intro _ row stored
            obtain ⟨before, other⟩ := mem_filter.mp stored
            rw [covering type row before] at other
            simp at other
        · exact (length_filter_le _ _).trans held.single
        · intro still
          apply sealed
          intro none
          simp [none] at still
      · exact held
  | _ => exact held

theorem Section.Covers.mono {rows rows' : List Row} {running running' : List ClusterIdentity}
    (covers : handled.Covers rows running) (fewerRows : ∀ row ∈ rows', row ∈ rows)
    (fewer : ∀ identity ∈ running', identity ∈ running) : handled.Covers rows' running' := by
  cases handled with
  | calling request calls =>
    obtain ⟨single, removes, shutdown⟩ := covers
    refine ⟨single, ?_, ?_⟩
    · intro call listed removing
      obtain ⟨type, givenUp⟩ := removes call listed removing
      exact ⟨type, fun runs => givenUp (fewer _ runs)⟩
    · intro type row stored
      exact shutdown type row (fewerRows row stored)
  | updating outcome =>
    intro closed
    have none : rows = [] := covers closed
    apply eq_nil_iff_forall_not_mem.mpr
    intro row stored
    have before := fewerRows row stored
    rw [none] at before
    cases before
  | _ => trivial

theorem Sealed.of_kept (sealed : Sealed s) {event : Event}
    (kept : (s.step event).inSection = s.inSection) : Sealed (s.step event) := by
  rcases sealed with ⟨started, idle⟩ | assigned
  · left
    rw [kept]
    exact ⟨started_step started event, idle⟩
  · right
    rw [kept]
    exact assigned

theorem Held.others (held : Held s) {event : Event} (other : ¬ event.Handles)
    (apart : Apart s event) : Held (s.step event) := by
  obtain ⟨kept, fewer, rows⟩ := step_others (s := s) other
  have fewerRows : ∀ row ∈ (s.step event).rows, row ∈ s.rows := by
    intro row stored
    rcases rows with same | ⟨_, _, _, _, _, _, same⟩
    · rwa [same] at stored
    · rw [same] at stored
      exact (mem_filter.mp stored).1
  constructor
  · intro identity runs
    rw [kept]
    refine (held.running identity (fewer identity runs)).imp_left ?_
    rintro ⟨row, stored, rfl⟩
    rcases rows with same | ⟨index, d, rfl, there, phase, same, removed⟩
    · rw [same]
      exact ⟨row, stored, rfl⟩
    · -- the process that has left does not run it
      rw [same] at runs
      have gone : d.identity ∉ s.running := apart d there phase
      have another : row.targetIdentity ≠ d.identity := by
        intro is
        rw [is] at runs
        exact gone runs
      rw [removed]
      exact ⟨row, mem_filter.mpr ⟨stored, by simpa using another⟩, rfl⟩
  · intro handled there
    rw [kept] at there
    exact (held.covered handled there).mono fewerRows fewer
  · rcases rows with same | ⟨_, _, _, _, _, _, same⟩
    · rw [same]
      exact held.single
    · rw [same]
      exact (length_filter_le _ _).trans held.single
  · intro still
    have before : s.rows ≠ [] := by
      intro none
      apply still
      apply eq_nil_iff_forall_not_mem.mpr
      intro row stored
      have was := fewerRows row stored
      rw [none] at was
      cases was
    exact (held.sealed before).of_kept kept

theorem Held.prepare (held : Held s) (made : Bool) (there : s.inSection = some handled) :
    Held (s.prepare made handled) := by
  unfold LifeCycle.prepare
  split
  · rename_i target rest
    have moves {inSection : Option Section}
        (covered : ∀ handled ∈ inSection, handled.Covers s.rows s.running)
        (givingUp : List ClusterIdentity) : Held { s with inSection, givingUp } := by
      refine held.moves ?_ covered ?_ _ _ _
      · rw [there]
        simp
      · intro rows
        exact absurd trivial ((held.sealed rows).moves there (by simp)).2
    split
    · apply moves
      intro handled there
      cases there
      trivial
    · apply moves
      intro handled there
      cases there
      trivial
  · exact held

theorem Held.takes (held : Held s) (free : s.inSection = none) (idle : ¬ handled.Boots)
    (covers : handled.Covers s.rows s.running) (bootQueue : Nat)
    (requestQueue : List InstanceRequest) :
    Held { s with inSection := some handled, bootQueue, requestQueue } := by
  refine held.moves (by simp [free]) ?_ ?_ _ _ _
  · intro handled' there
    cases there
    exact covers
  · intro rows
    rcases held.sealed rows with ⟨started, _⟩ | assigned
    · refine .inl ⟨started, ?_⟩
      intro handled' there
      cases there
      exact idle
    · rw [free] at assigned
      cases assigned

theorem Held.step (held : Held s) (event : Event) (apart : Apart s event) :
    Held (s.step event) := by
  by_cases other : event.Handles
  swap
  · exact held.others other apart
  cases event with
  | takeBoot =>
    simp only [LifeCycle.step]
    split
    · rename_i count free queued
      exact held.takes free (by exact id) (by trivial) _ _
    · exact held
  | takeRequest =>
    simp only [LifeCycle.step]
    split
    · rename_i request rest free queued
      exact held.takes free (by exact id) (by trivial) _ _
    · exact held
  | resolved candidates =>
    simp only [LifeCycle.step]
    split
    · rename_i resolving
      refine held.moves ?_ ?_ ?_ _ _ _
      · rw [resolving]
        simp
      · intro handled there
        cases there
        trivial
      · intro rows
        exact absurd trivial ((held.sealed rows).moves resolving (by simp)).2
    · exact held
  | prepared made =>
    simp only [LifeCycle.step]
    cases there : s.inSection with
    | none => exact held
    | some handled => exact held.prepare made there
  | done =>
    simp only [LifeCycle.step]
    cases there : s.inSection with
    | none => exact held
    | some handled => exact held.proceed there
  | rowDone index =>
    simp only [LifeCycle.step]
    cases there : s.inSection with
    | none => exact held
    | some handled => exact held.callDone index there
  | _ => exact other.elim

inductive Moves (s : LifeCycle) : Event → Option Section → Option Section → Prop where
  | kept (event : Event) (inSection : Option Section) : Moves s event inSection inSection
  | takesBoot : Moves s .takeBoot none (some .reading)
  | takesRequest (request : InstanceRequest)
      (first : s.requestQueue.head? = some request) :
      Moves s .takeRequest none (some (.listing request))
  | resolves (prepare : s.status = .prepare) : Moves s .done (some .reading) (some .resolving)
  | skips : Moves s .done (some .reading) none
  | finds (candidates : List ClusterIdentity) :
      Moves s (.resolved candidates) (some .resolving) (some (.preparing candidates))
  | assigns (made : Bool) (target : ClusterIdentity) (rest : List ClusterIdentity) :
      Moves s (.prepared made) (some (.preparing (target :: rest))) (some (.assigning target))
  | drops (made : Bool) (target : ClusterIdentity) (rest : List ClusterIdentity) :
      Moves s (.prepared made) (some (.preparing (target :: rest))) (some (.preparing rest))
  | finds_none : Moves s .done (some (.preparing [])) (some (.updating .full))
  | saves (target : ClusterIdentity) :
      Moves s .done (some (.assigning target)) (some (.saving target))
  | saved (target : ClusterIdentity) :
      Moves s .done (some (.saving target)) (some (.updating .assigned))
  | lists (request : InstanceRequest) (calls : List Call) :
      Moves s .done (some (.listing request)) (some (.calling request calls))
  | calls (index : Nat) (request : InstanceRequest) (calls calls' : List Call) :
      Moves s (.rowDone index) (some (.calling request calls)) (some (.calling request calls'))
  | settles (request : InstanceRequest) (calls : List Call)
      (settled : ∀ call ∈ calls, call.phase = .settled) :
      Moves s .done (some (.calling request calls)) (request.outcome.map .updating)
  | updates (outcome : Outcome) (free : s.transaction = none) :
      Moves s .done (some (.updating outcome)) (some .publishing)
  | ends : Moves s .done (some .publishing) none

theorem moves_step (s : LifeCycle) (event : Event) :
    Moves s event s.inSection (s.step event).inSection := by
  by_cases other : event.Handles
  swap
  · rw [(step_others (s := s) other).1]
    exact .kept event _
  cases event with
  | takeBoot =>
    simp only [step]
    split
    · rename_i count free queued
      rw [free]
      exact .takesBoot
    · exact .kept _ _
  | takeRequest =>
    simp only [step]
    split
    · rename_i request rest free queued
      rw [free]
      exact .takesRequest request (by rw [queued, List.head?_cons])
    · exact .kept _ _
  | resolved candidates =>
    simp only [step]
    split
    · rename_i resolving
      rw [resolving]
      exact .finds candidates
    · exact .kept _ _
  | prepared made =>
    simp only [step]
    cases there : s.inSection with
    | none =>
      rw [Option.elim_none, there]
      exact .kept _ _
    | some handled =>
      simp only [Option.elim_some, prepare]
      split
      · split
        · exact .assigns made _ _
        · exact .drops made _ _
      · rw [there]
        exact .kept _ _
  | done =>
    simp only [step]
    cases there : s.inSection with
    | none =>
      rw [Option.elim_none, there]
      exact .kept _ _
    | some handled =>
      simp only [Option.elim_some, proceed]
      split
      · split
        · rename_i prepare
          exact .resolves prepare
        · exact .skips
      · exact .finds_none
      · exact .saves _
      · exact .saved _
      · exact .lists _ _
      · split
        · rename_i settled
          exact .settles _ _ settled
        · rw [there]
          exact .kept _ _
      · split
        · rename_i free
          exact .updates _ free
        · rw [there]
          exact .kept _ _
      · exact .ends
      · rw [there]
        exact .kept _ _
      · rw [there]
        exact .kept _ _
  | rowDone index =>
    simp only [step]
    cases there : s.inSection with
    | none =>
      rw [Option.elim_none, there]
      exact .kept _ _
    | some handled =>
      simp only [Option.elim_some, callDone]
      split
      · split
        · rw [there]
          exact .kept _ _
        · split
          · exact .calls index _ _ _
          · exact .calls index _ _ _
          · exact .calls index _ _ _
          · rw [there]
            exact .kept _ _
      · rw [there]
        exact .kept _ _
  | _ => exact other.elim

theorem Sealed.step (sealed : Sealed s) (event : Event) : Sealed (s.step event) := by
  have moves := moves_step s event
  rcases sealed with ⟨started, idle⟩ | assigned
  · refine .inl ⟨started_step started event, ?_⟩
    intro handled' there'
    generalize before : s.inSection = inSection at moves
    generalize after : (s.step event).inSection = inSection' at moves there'
    rw [before] at idle
    cases moves with
    | kept => exact idle handled' there'
    | resolves prepare => exact absurd prepare started
    | skips | ends => cases there'
    | finds | assigns | drops | finds_none | saves | saved => exact absurd trivial (idle _ rfl)
    | settles request =>
      obtain ⟨outcome, _, rfl⟩ := Option.map_eq_some_iff.mp there'
      exact id
    | takesBoot | takesRequest | lists | calls | updates =>
      cases there'
      exact id
  · rw [assigned] at moves
    generalize after : (s.step event).inSection = inSection' at moves
    cases moves with
    | kept => exact .inr after
    | updates _ free =>
      left
      rw [step_updates assigned free]
      refine ⟨by simp [Outcome.status], ?_⟩
      intro handled there
      cases there
      exact id

theorem rows_step (event : Event)
    (unsaved : event = .done → ∀ identity, s.inSection ≠ some (.saving identity)) :
    ∀ row ∈ (s.step event).rows, row ∈ s.rows := by
  intro row stored
  by_cases other : event.Handles
  swap
  · rcases (step_others (s := s) other).2.2 with same | ⟨_, _, _, _, _, _, same⟩
    · rwa [same] at stored
    · rw [same] at stored
      exact (mem_filter.mp stored).1
  cases event with
  | takeBoot | takeRequest | resolved =>
    simp only [step] at stored
    split at stored <;> exact stored
  | prepared made =>
    simp only [step] at stored
    cases there : s.inSection with
    | none =>
      rw [there] at stored
      exact stored
    | some handled =>
      simp only [there, Option.elim_some, prepare] at stored
      split at stored
      · split at stored <;> exact stored
      · exact stored
  | done =>
    simp only [step] at stored
    cases there : s.inSection with
    | none =>
      rw [there] at stored
      exact stored
    | some handled =>
      simp only [there, Option.elim_some, proceed] at stored
      split at stored
      case h_4 target => exact absurd there (unsaved rfl target)
      all_goals first | exact stored | (split at stored <;> exact stored)
  | rowDone index =>
    simp only [step] at stored
    cases there : s.inSection with
    | none =>
      rw [there] at stored
      exact stored
    | some handled =>
      simp only [there, Option.elim_some, callDone] at stored
      split at stored
      · split at stored
        · exact stored
        · split at stored
          · exact stored
          · exact stored
          · exact (mem_filter.mp stored).1
          · exact stored
      · exact stored
  | _ => exact other.elim

theorem Sealed.unsaved (sealed : Sealed s) (identity : ClusterIdentity) :
    s.inSection ≠ some (.saving identity) := by
  rcases sealed with ⟨_, idle⟩ | assigned
  · intro saving
    exact idle _ saving trivial
  · rw [assigned]
    simp

end Steps

end LifeCycle
end AkashicSystem.ClusterMaster
