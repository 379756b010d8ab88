import AkashicSystem.Lib.Run
import AkashicSystem.ServerEngineDataTypes.ProcessIdentity

/-!
# Big queries

A query whose rows are passed on one by one: the events of the driver become notifications
of a subject, and the observer of the subject gathers them into a promise.  A listener may
throw, into the driver.
-/

set_option autoImplicit false

namespace AkashicSystem.Tapper

open List

inductive Notification (Item : Type) where
  | onNext (item : Item)
  | onError (error : String)
  | onCompleted

/-- The observers that are attached, by number, and the states of all that have subscribed. -/
structure Subject (σ : Type) where
  isStopped : Bool
  error : Option String
  observers : List Nat
  states : List σ

namespace Subject

variable {σ Item : Type}

def new : Subject σ := ⟨false, none, [], []⟩

variable (react : Notification Item → σ → σ × Bool)

def notify (notification : Notification Item) : List Nat → List σ → List σ × Bool
  | [], states => (states, false)
  | index :: rest, states =>
    match states[index]? with
    | none => notify notification rest states
    | some state =>
      let reacted := react notification state
      if reacted.2 then (states.set index reacted.1, true)
      else notify notification rest (states.set index reacted.1)

def subscribe (s : Subject σ) (observer : σ) : Subject σ :=
  if !s.isStopped then
    { s with observers := s.observers ++ [s.states.length], states := s.states ++ [observer] }
  else
    let told := match s.error with
      | some error => react (.onError error) observer
      | none => react .onCompleted observer
    { s with states := s.states ++ [told.1] }

def onNext (s : Subject σ) (item : Item) : Subject σ × Bool :=
  if !s.isStopped then
    let notified := notify react (.onNext item) s.observers s.states
    ({ s with states := notified.1 }, notified.2)
  else (s, false)

def stop (s : Subject σ) (notification : Notification Item) : Subject σ × Bool :=
  let notified := notify react notification s.observers s.states
  ({ s with
      isStopped := true
      observers := if notified.2 then s.observers else []
      states := notified.1 }, notified.2)

def onError (s : Subject σ) (error : String) : Subject σ × Bool :=
  if !s.isStopped then { s with error := some error }.stop react (.onError error) else (s, false)

def onCompleted (s : Subject σ) : Subject σ × Bool :=
  if !s.isStopped then s.stop react .onCompleted else (s, false)

end Subject

inductive DriverEvent (Fields Row : Type) where
  | fields (fields : Fields)
  | result (row : Row)
  | error (error : String)
  | ended

structure BigQuery (σ Fields : Type) where
  fields : Option Fields
  subject : Subject σ

namespace BigQuery

variable {σ Fields Row Item : Type} (populate : Fields → Row → Option Item)
  (react : Notification Item → σ → σ × Bool)

/-- The query, and the observer that has subscribed to its subject at once. -/
def subscribed (observer : σ) : BigQuery σ Fields :=
  ⟨none, Subject.subscribe react Subject.new observer⟩

/-- The listeners of `bigQuery`, and whether one throws. -/
def listen (q : BigQuery σ Fields) : DriverEvent Fields Row → BigQuery σ Fields × Bool
  -- the listener for errors is one for `err`
  | .error _ => (q, false)
  | .fields fields => ({ q with fields := some fields }, false)
  | .result row =>
    match q.fields with
    | none =>
      let told := q.subject.onError react
        "no field packet. may use bigQuery<T> for no response set query?"
      ({ q with subject := told.1 }, told.2)
    | some fields =>
      match populate fields row with
      | none => (q, true)
      | some item =>
        let told := q.subject.onNext react item
        ({ q with subject := told.1 }, told.2)
  | .ended =>
    let told := q.subject.onCompleted react
    ({ q with subject := told.1 }, told.2)

/-- The driver emits its events; where a listener throws, it goes on in a way of its own. -/
def deliver (after : List (DriverEvent Fields Row)) (q : BigQuery σ Fields) :
    List (DriverEvent Fields Row) → BigQuery σ Fields
  | [] => q
  | event :: rest =>
    let heard := listen populate react q event
    if heard.2 then after.foldl (fun q event => (listen populate react q event).1) heard.1
    else deliver after heard.1 rest

def ending : Option String → List (DriverEvent Fields Row)
  | none => [.ended]
  | some error => [.error error, .ended]

def events (fields : Fields) (rows : List Row) (failure : Option String) :
    List (DriverEvent Fields Row) :=
  .fields fields :: (rows.map .result ++ ending failure)

def observed (observer : σ) (fields : Fields) (rows : List Row) (failure : Option String)
    (after : List (DriverEvent Fields Row)) : Option σ :=
  (deliver populate react after (subscribed react observer) (events fields rows failure)).subject
    |>.states[0]?

section Quiet

variable {populate react}

variable {P : σ → Prop}

theorem notify_all (notification : Notification Item)
    (keeps : ∀ state, P state → P (react notification state).1) (observers : List Nat)
    (states : List σ) (all : ∀ state ∈ states, P state) :
    ∀ state ∈ (Subject.notify react notification observers states).1, P state := by
  induction observers generalizing states with
  | nil => exact all
  | cons index rest ih =>
    unfold Subject.notify
    cases here : states[index]? with
    | none => exact ih states all
    | some state =>
      have kept : ∀ other ∈ states.set index (react notification state).1, P other := by
        intro other there
        rcases mem_or_eq_of_mem_set there with old | rfl
        · exact all other old
        · exact keeps state (all state (mem_of_getElem? here))
      dsimp only
      split
      · exact kept
      · exact ih _ kept

/-- The fields are known, and no observer has been told of an error. -/
structure Quiet (P : σ → Prop) (q : BigQuery σ Fields) : Prop where
  fields : q.fields ≠ none
  states : ∀ state ∈ q.subject.states, P state

section

variable (next : ∀ item state, P state → P (react (.onNext item) state).1)
include next

section

variable (completed : ∀ state, P state → P (react .onCompleted state).1)

include completed

theorem quiet_listen {q : BigQuery σ Fields}
    (quiet : Quiet P q) (event : DriverEvent Fields Row) :
    Quiet P (listen populate react q event).1 := by
  cases event with
  | error error => exact quiet
  | fields fields => exact ⟨by simp [listen], quiet.states⟩
  | result row =>
    cases known : q.fields with
    | none => exact absurd known quiet.fields
    | some fields =>
      unfold listen
      rw [known]
      dsimp only
      cases populate fields row with
      | none => exact quiet
      | some item =>
        unfold Subject.onNext
        refine ⟨by simp, ?_⟩
        dsimp only
        split
        · exact notify_all _ (next item) _ _ quiet.states
        · exact quiet.states
  | ended =>
    refine ⟨quiet.fields, ?_⟩
    unfold listen Subject.onCompleted Subject.stop
    dsimp only
    split
    · exact notify_all _ completed _ _ quiet.states
    · exact quiet.states

theorem quiet_deliver (after events : List (DriverEvent Fields Row)) {q : BigQuery σ Fields}
    (quiet : Quiet P q) :
    Quiet P (deliver populate react after q events) := by
  induction events generalizing q with
  | nil => exact quiet
  | cons event rest ih =>
    have heard := @quiet_listen _ _ _ _ populate _ _ next completed q quiet event
    unfold deliver
    dsimp only
    split
    · exact @Run.stable _ _ (fun q event => (listen populate react q event).1) (Quiet P)
        (fun q event quiet => quiet_listen next completed quiet event) _ after heard
    · exact ih heard

theorem observed_quiet (observer : σ)
    (begins : P observer) (fields : Fields) (rows : List Row) (failure : Option String)
    (after : List (DriverEvent Fields Row)) (state : σ)
    (becomes : observed populate react observer fields rows failure after = some state) :
    P state := by
  have subscribed : Quiet P (⟨some fields, (subscribed react observer :
      BigQuery σ Fields).subject⟩ : BigQuery σ Fields) := by
    refine ⟨by simp, ?_⟩
    intro other there
    rw [mem_singleton.mp there]
    exact begins
  have quiet := @quiet_deliver _ _ _ _ populate _ _ next completed after
    (rows.map .result ++ ending failure) _ subscribed
  exact quiet.states state (mem_of_getElem? becomes)

end

end

end Quiet

section Complete

variable {populate react}

theorem deliver_rows (next : Item → σ → σ) (fields : Fields) (rows : List Row)
    (items : List Item) (converted : rows.map (populate fields) = items.map some)
    (reacts : ∀ item ∈ items, ∀ state, react (.onNext item) state = (next item state, false))
    (after rest : List (DriverEvent Fields Row)) (state : σ) :
    deliver populate react after ⟨some fields, ⟨false, none, [0], [state]⟩⟩
        (rows.map .result ++ rest) = deliver populate react after
        ⟨some fields, ⟨false, none, [0], [items.foldl (fun state item => next item state) state]⟩⟩
        rest := by
  induction rows generalizing items state with
  | nil =>
    cases items with
    | nil => rfl
    | cons item items => cases converted
  | cons row rows ih =>
    cases items with
    | nil => cases converted
    | cons item items =>
      obtain ⟨first, others⟩ := List.cons.inj converted
      have told := reacts item mem_cons_self state
      have heard : listen populate react ⟨some fields, ⟨false, none, [0], [state]⟩⟩
          (.result row) = (⟨some fields, ⟨false, none, [0], [next item state]⟩⟩, false) := by
        simp [listen, first, Subject.onNext, Subject.notify, told]
      have tail := ih items others
        (fun item there => reacts item (mem_cons_of_mem _ there)) (next item state)
      rw [map_cons, cons_append, deliver, heard]
      exact tail

theorem observed_complete (next : Item → σ → σ) (finish : σ → σ) (observer : σ)
    (fields : Fields) (rows : List Row) (items : List Item)
    (converted : rows.map (populate fields) = items.map some)
    (reacts : ∀ item ∈ items, ∀ state, react (.onNext item) state = (next item state, false))
    (finishes : ∀ state, react .onCompleted state = (finish state, false))
    (after : List (DriverEvent Fields Row)) :
    observed populate react observer fields rows none after =
      some (finish (items.foldl (fun state item => next item state) observer)) := by
  have passed := deliver_rows next fields rows items converted reacts after [.ended] observer
  have begins : deliver populate react after (subscribed react observer)
      (events fields rows none) =
      deliver populate react after ⟨some fields, ⟨false, none, [0], [observer]⟩⟩
        (rows.map .result ++ [.ended]) := rfl
  unfold observed
  rw [begins, passed]
  simp [deliver, listen, Subject.onCompleted, Subject.stop, Subject.notify, finishes]

end Complete

def keeping (notification : Notification Item) (told : List (Notification Item)) :
    List (Notification Item) × Bool :=
  (told ++ [notification], false)

/-- Every row and the end; or the rows before the failure, and one error. -/
def Told (fields : Fields) (rows : List Row) (failure : Option String)
    (told : List (Notification Item)) : Prop :=
  if failure = none ∧ ∀ row ∈ rows, (populate fields row).isSome then
    told = (rows.filterMap (populate fields)).map .onNext ++ [.onCompleted]
  else ∃ error, told =
    ((rows.takeWhile fun row => (populate fields row).isSome).filterMap (populate fields)).map
      .onNext ++ [.onError error]

theorem map_filterMap {α β : Type} (f : α → Option β) (list : List α)
    (all : ∀ a ∈ list, (f a).isSome) : list.map f = (list.filterMap f).map some := by
  induction list with
  | nil => rfl
  | cons a rest ih =>
    obtain ⟨image, eq⟩ := Option.isSome_iff_exists.mp (all a mem_cons_self)
    rw [filterMap_cons_some eq, map_cons, map_cons, eq,
      ih fun b there => all b (mem_cons_of_mem _ there)]

theorem foldl_keeping (items : List Item) (told : List (Notification Item)) :
    items.foldl (fun told item => told ++ [.onNext item]) told = told ++ items.map .onNext := by
  induction items generalizing told with
  | nil => simp
  | cons item rest ih => simp [ih]

/-- The subscriber is told of what happened exactly if nothing fails. -/
theorem told_iff (fields : Fields) (rows : List Row) (failure : Option String)
    (after : List (DriverEvent Fields Row)) :
    (∃ told ∈ observed populate keeping [] fields rows failure after,
      Told populate fields rows failure told) ↔
      failure = none ∧ ∀ row ∈ rows, (populate fields row).isSome := by
  constructor
  · rintro ⟨told, becomes, correct⟩
    by_contra fails
    unfold Told at correct
    rw [if_neg fails] at correct
    obtain ⟨error, isError⟩ := correct
    have quiet := @observed_quiet _ _ _ _ populate keeping
      (fun told => ∀ error, .onError error ∉ told) (by simp [keeping]) (by simp [keeping]) []
      (by simp) fields rows failure after told becomes
    apply quiet error
    rw [isError]
    exact mem_append_right _ (mem_singleton.mpr rfl)
  · rintro ⟨rfl, all⟩
    refine ⟨_, observed_complete (fun item told => told ++ [.onNext item])
      (fun told => told ++ [.onCompleted]) [] fields rows _ (map_filterMap _ rows all)
      (fun _ _ _ => rfl) (fun _ => rfl) after, ?_⟩
    unfold Told
    rw [if_pos ⟨rfl, all⟩, foldl_keeping]
    rfl

open ServerEngineDataTypes (ClusterIdentity)

/-- What an observer has gathered, and what its promise came to. -/
structure Listing (Entity : Type) where
  result : List Entity
  promise : Option (Except String (List Entity))

def Listing.settle {Entity : Type} (l : Listing Entity) (value : Except String (List Entity)) :
    Listing Entity :=
  { l with promise := l.promise.or (some value) }

section NotByIdentities

variable {Entity : Type} (toEntity : Item → Option Entity) (identityOf : Entity → ClusterIdentity)
  (identities : List ClusterIdentity)

def listed (entity : Entity) : Bool :=
  !identities.any fun identity => identity.isSame (identityOf entity)

/-- The observer of `getNotByIdentities`; `toEntity` may throw. -/
def gathering : Notification Item → Listing Entity → Listing Entity × Bool
  | .onNext item, l =>
    match toEntity item with
    | none => (l, true)
    | some entity =>
      if listed identityOf identities entity then
        ({ l with result := l.result ++ [entity] }, false)
      else (l, false)
  | .onError error, l => (l.settle (.error error), false)
  | .onCompleted, l => (l.settle (.ok l.result), false)

def getNotByIdentities (fields : Fields) (rows : List Row) (failure : Option String)
    (after : List (DriverEvent Fields Row)) : Option (Except String (List Entity)) :=
  (observed populate (gathering toEntity identityOf identities) ⟨[], none⟩ fields rows failure
    after).bind Listing.promise

/-- All but the given ones; or a rejection. -/
def Answers (fields : Fields) (rows : List Row) (failure : Option String)
    (promise : Option (Except String (List Entity))) : Prop :=
  if failure = none ∧ ∀ row ∈ rows, ((populate fields row).bind toEntity).isSome then
    promise = some (.ok ((rows.filterMap fun row => (populate fields row).bind toEntity).filter
      (listed identityOf identities)))
  else ∃ error, promise = some (.error error)

theorem foldl_gathering (items : List Item) (l : Listing Entity)
    (all : ∀ item ∈ items, (toEntity item).isSome) :
    items.foldl (fun l item => (gathering toEntity identityOf identities (.onNext item) l).1) l =
      { l with
        result := l.result ++ (items.filterMap toEntity).filter (listed identityOf identities) }
    := by
  induction items generalizing l with
  | nil => simp
  | cons item rest ih =>
    obtain ⟨entity, eq⟩ := Option.isSome_iff_exists.mp (all item mem_cons_self)
    have others : ∀ item ∈ rest, (toEntity item).isSome :=
      fun item there => all item (mem_cons_of_mem _ there)
    rw [foldl_cons, ih _ others, filterMap_cons_some eq]
    by_cases isListed : listed identityOf identities entity <;> simp [gathering, eq, isListed]

theorem answers_iff (fields : Fields) (rows : List Row) (failure : Option String)
    (after : List (DriverEvent Fields Row)) :
    Answers populate toEntity identityOf identities fields rows failure
        (getNotByIdentities populate toEntity identityOf identities fields rows failure after) ↔
      failure = none ∧ ∀ row ∈ rows, ((populate fields row).bind toEntity).isSome := by
  constructor
  · intro correct
    by_contra fails
    unfold Answers at correct
    rw [if_neg fails] at correct
    obtain ⟨error, isError⟩ := correct
    obtain ⟨l, becomes, rejected⟩ := Option.bind_eq_some_iff.mp isError
    have quiet := @observed_quiet _ _ _ _ populate (gathering toEntity identityOf identities)
      (fun l => ∀ error, l.promise ≠ some (.error error)) ?_ ?_ ⟨[], none⟩ (by simp) fields rows
      failure after l becomes
    · exact quiet error rejected
    · intro item l unrejected
      unfold gathering
      dsimp only
      split
      · exact unrejected
      · split <;> exact unrejected
    · intro l unrejected error
      unfold gathering Listing.settle
      cases settled : l.promise with
      | none => simp [settled]
      | some value =>
        have kept := unrejected error
        rw [settled] at kept
        simpa [settled] using kept
  · rintro ⟨rfl, all⟩
    have populated : ∀ row ∈ rows, (populate fields row).isSome := by
      intro row there
      exact Option.isSome_of_isSome_bind (all row there)
    have entities : ∀ item ∈ rows.filterMap (populate fields), (toEntity item).isSome := by
      intro item there
      obtain ⟨row, inRows, eq⟩ := mem_filterMap.mp there
      have both := all row inRows
      rw [eq] at both
      exact both
    have complete := @observed_complete _ _ _ _ populate
      (gathering toEntity identityOf identities)
      (fun item l => (gathering toEntity identityOf identities (.onNext item) l).1)
      (fun l => l.settle (.ok l.result)) (⟨[], none⟩ : Listing Entity) fields rows _
      (map_filterMap (populate fields) rows populated) ?_ (fun _ => rfl) after
    · unfold Answers getNotByIdentities
      rw [if_pos ⟨rfl, all⟩, complete, foldl_gathering toEntity identityOf identities _ _ entities,
        filterMap_filterMap]
      rfl
    · intro item there l
      obtain ⟨entity, eq⟩ := Option.isSome_iff_exists.mp (entities item there)
      unfold gathering
      dsimp only
      rw [eq]
      dsimp only
      split <;> rfl

end NotByIdentities

/-- The subscriber and the promise are told of what happened exactly if no row fails and the
query does not, whatever the driver does after a listener has thrown. -/
theorem complete_iff {Entity : Type} (toEntity : Item → Option Entity)
    (identityOf : Entity → ClusterIdentity) (identities : List ClusterIdentity)
    (fields : Fields) (rows : List Row) (failure : Option String)
    (after : List (DriverEvent Fields Row)) :
    ((∃ told ∈ observed populate keeping [] fields rows failure after,
      Told populate fields rows failure told) ↔
      failure = none ∧ ∀ row ∈ rows, (populate fields row).isSome) ∧
    (Answers populate toEntity identityOf identities fields rows failure
        (getNotByIdentities populate toEntity identityOf identities fields rows failure after) ↔
      failure = none ∧ ∀ row ∈ rows, ((populate fields row).bind toEntity).isSome) :=
  ⟨told_iff populate fields rows failure after,
    answers_iff populate toEntity identityOf identities fields rows failure after⟩

def processOf (name : String) : ClusterIdentity := ⟨"localhost", "game", name, "1"⟩

/-- Two rows of three have come when the connection is lost. -/
theorem lostConnection_complete :
    (¬ ∀ (populate : Unit → String → Option String) (fields : Unit) (rows : List String)
      (failure : Option String) (after : List (DriverEvent Unit String)),
      ∃ told ∈ observed populate keeping [] fields rows failure after,
        Told populate fields rows failure told) ∧
    getNotByIdentities (fun _ row => some row) some processOf [] () ["1", "2"]
      (some "connection lost") [] = some (.ok ["1", "2"]) := by
  constructor
  · intro claimed
    obtain ⟨told, becomes, correct⟩ :=
      claimed (fun _ row => some row) () ["1", "2"] (some "connection lost") []
    cases becomes
    unfold Told at correct
    rw [if_neg (by simp)] at correct
    obtain ⟨error, eq⟩ := correct
    revert eq
    simp [keeping]
  · rfl

end BigQuery
end AkashicSystem.Tapper
