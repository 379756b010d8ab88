import AkashicSystem.Lib.Run
import Mathlib.Algebra.Order.BigOperators.Group.List
import Mathlib.Algebra.Order.Ring.Nat
import Mathlib.Data.List.Nodup
import Mathlib.Logic.Function.Basic

/-!
# The mutex of the master

`Mutex`: the callers of a key wait in a queue, and the one that leaves hands the
lock over to the next, which is called in the next tick.  Calls may come at any
point in between; the callbacks of promises come in more orders here than in the
event loop.
-/

set_option autoImplicit false

namespace AkashicSystem.ClusterMaster
namespace Mutex

open Function (update update_of_ne update_self update_apply)
open List

/-- Where a call of `enterLockSection` stands. -/
inductive Phase (Outcome : Type) where
  | waiting
  /-- `process.nextTick(waitFunc)`. -/
  | scheduled
  /-- `inSection` is being called, in the tick or within `enterLockSection` itself. -/
  | calling (inTick : Bool)
  | running
  /-- It has settled, and `onReleaseLock` is to be called. -/
  | ended (outcome : Outcome)
  | released (outcome : Outcome)
  | settled (outcome : Outcome)
  /-- The tick threw; the promise of the call stays pending. -/
  | uncaught
deriving DecidableEq

namespace Phase

variable {Outcome : Type}

def runs : Phase Outcome → Bool
  | .calling _ | .running => true
  | _ => false

def unreleased : Phase Outcome → Bool
  | .waiting | .scheduled | .calling _ | .running | .ended _ => true
  | _ => false

def started : Phase Outcome → Bool
  | .waiting | .scheduled => false
  | _ => true

def left : Phase Outcome → Nat
  | .waiting => 6
  | .scheduled => 5
  | .calling _ => 4
  | .running => 3
  | .ended _ => 2
  | .released _ => 1
  | .settled _ => 0
  | .uncaught => 0

end Phase

variable {Key Outcome : Type}

structure Call (Key Outcome : Type) where
  key : Key
  phase : Phase Outcome
  result : Option Outcome

structure World (Key Outcome : Type) where
  locks : Key → Option (List Nat)
  calls : Nat → Option (Call Key Outcome)
  count : Nat
  ticks : List Nat
  /-- The calls whose sections have been called, in order. -/
  order : List Nat

inductive Action (Key Outcome : Type) where
  | enterLockSection (key : Key)
  /-- `inSection` returns its promise. -/
  | returns (call : Nat)
  /-- `inSection` throws instead. -/
  | throws (call : Nat) (error : Outcome)
  | ends (call : Nat) (outcome : Outcome)
  | release (call : Nat)
  /-- `resolve` or `reject`. -/
  | settle (call : Nat)
  | tick

def start : World Key Outcome := ⟨fun _ => none, fun _ => none, 0, [], []⟩

namespace World

def put (w : World Key Outcome) (id : Nat) (call : Call Key Outcome) : World Key Outcome :=
  { w with calls := update w.calls id (some call) }

variable [DecidableEq Key]

variable (w : World Key Outcome)

def onReleaseLock (key : Key) : World Key Outcome :=
  match w.locks key with
  | none | some [] => { w with locks := update w.locks key none }
  | some (next :: rest) =>
    let w := { w with
      locks := update w.locks key (some rest)
      ticks := w.ticks ++ [next] }
    match w.calls next with
    | none => w
    | some call => w.put next { call with phase := .scheduled }

/-- `waitFunc` up to the call of `inSection`. -/
def waitFunc (id : Nat) (call : Call Key Outcome) (inTick : Bool) :
    World Key Outcome :=
  let locks := if (w.locks call.key).isNone then update w.locks call.key (some [])
    else w.locks
  { w.put id { call with phase := .calling inTick } with
    locks := locks
    order := w.order ++ [id] }

def step : Action Key Outcome → World Key Outcome
  | .enterLockSection key =>
    let call : Call Key Outcome := ⟨key, .waiting, none⟩
    match w.locks key with
    | some waitFuncs =>
      { w.put w.count call with
        locks := update w.locks key (some (waitFuncs ++ [w.count]))
        count := w.count + 1 }
    | none => { w with count := w.count + 1 }.waitFunc w.count call false
  | .returns id =>
    match w.calls id with
    | some ⟨key, .calling _, result⟩ => w.put id ⟨key, .running, result⟩
    | _ => w
  | .throws id error =>
    match w.calls id with
    | some ⟨key, .calling inTick, _⟩ =>
      w.put id ⟨key, if inTick then .uncaught else .settled error, some error⟩
    | _ => w
  | .ends id outcome =>
    match w.calls id with
    | some ⟨key, .running, _⟩ => w.put id ⟨key, .ended outcome, some outcome⟩
    | _ => w
  | .release id =>
    match w.calls id with
    | some ⟨key, .ended outcome, result⟩ =>
      (w.put id ⟨key, .released outcome, result⟩).onReleaseLock key
    | _ => w
  | .settle id =>
    match w.calls id with
    | some ⟨key, .released outcome, result⟩ => w.put id ⟨key, .settled outcome, result⟩
    | _ => w
  | .tick =>
    match w.ticks with
    | [] => w
    | id :: rest =>
      match w.calls id with
      | none => w
      | some call => { w with ticks := rest }.waitFunc id call true

def keyOf (id : Nat) : Option Key := (w.calls id).map Call.key

def phase (w : World Key Outcome) (id : Nat) : Option (Phase Outcome) := (w.calls id).map Call.phase

def unreleased (w : World Key Outcome) (id : Nat) : Bool := (w.phase id).any Phase.unreleased

def started (w : World Key Outcome) (id : Nat) : Bool := (w.phase id).any Phase.started

def left (w : World Key Outcome) (id : Nat) : Nat := ((w.phase id).map Phase.left).getD 0

def work : Nat := ((range w.count).map w.left).sum

/-- What the event loop is about to do by itself. -/
def Due : Action Key Outcome → Prop
  | .tick => ∃ id, w.phase id = some .scheduled
  | .release id => ∃ outcome, w.phase id = some (.ended outcome)
  | .settle id => ∃ outcome, w.phase id = some (.released outcome)
  | _ => False

/-! ## What the mutex is for -/

structure Excludes (w : World Key Outcome) : Prop where
  exclusive : ∀ id id' phase phase', w.phase id = some phase → w.phase id' = some phase' →
    phase.runs = true → phase'.runs = true → w.keyOf id = w.keyOf id' → id = id'
  /-- The sections of a key have been called in the order of the calls. -/
  fifo : w.order.Pairwise fun a b => w.keyOf a = w.keyOf b → a < b
  called : ∀ id, id ∈ w.order ↔ w.started id = true
  /-- A call settles with what its own section has ended with. -/
  own : ∀ id call outcome, w.calls id = some call → call.phase = .settled outcome →
    call.result = some outcome
  /-- A call that waits waits for an earlier one of its key. -/
  apart : ∀ id, w.phase id = some .waiting → ∃ id' < id, w.keyOf id' = w.keyOf id ∧
    w.unreleased id' = true ∧ w.phase id' ≠ some .waiting
  /-- The table has the keys of the calls that are not released. -/
  table : ∀ key, w.locks key = none ↔ ∀ id, w.keyOf id = some key → w.unreleased id = false
  /-- A call that finds none of its key is not made to wait. -/
  runs : ∀ key, (∀ id, w.keyOf id = some key → w.unreleased id = false) →
    (w.step (.enterLockSection key)).phase w.count = some (.calling false)
  /-- Every step but a new call brings the calls that have been made nearer to their end. -/
  progress : ∀ action, (∀ key, action ≠ .enterLockSection key) → w.step action ≠ w →
    (w.step action).work < w.work
  due : ∀ action, w.Due action → w.step action ≠ w
  /-- Where no section runs and nothing is due, every call has settled and the table is empty. -/
  settles : (∀ id phase, w.phase id = some phase → phase.runs = false) →
    (∀ action, ¬ w.Due action) → (∀ key, w.locks key = none) ∧
      ∀ id phase, w.phase id = some phase → ∃ outcome, phase = .settled outcome

end World

/-- No section that is being called throws instead of returning a promise. -/
def Asynchronous (w : World Key Outcome) : Action Key Outcome → Prop
  | .throws id _ => ∀ inTick, w.phase id ≠ some (.calling inTick)
  | _ => True

namespace World

variable {w : World Key Outcome}

theorem phase_put (id id' : Nat) (call : Call Key Outcome) :
    (w.put id call).phase id' = if id' = id then some call.phase else w.phase id' := by
  unfold put phase
  dsimp only
  rw [update_apply]
  split <;> rfl

theorem keyOf_put (id id' : Nat) (call : Call Key Outcome) :
    (w.put id call).keyOf id' = if id' = id then some call.key else w.keyOf id' := by
  unfold put keyOf
  dsimp only
  rw [update_apply]
  split <;> rfl

theorem unreleased_put (id id' : Nat) (call : Call Key Outcome) : (w.put id call).unreleased id' =
      if id' = id then call.phase.unreleased else w.unreleased id' := by
  unfold unreleased
  rw [phase_put]
  split <;> rfl

theorem started_put (id id' : Nat) (call : Call Key Outcome) :
    (w.put id call).started id' = if id' = id then call.phase.started else w.started id' := by
  unfold started
  rw [phase_put]
  split <;> rfl

variable {call call' : Call Key Outcome} {id : Nat} {line : Key → List Nat}
  {w' : World Key Outcome}

theorem phase_of_calls (there : w.calls id = some call) : w.phase id = some call.phase := by
  rw [phase, there]
  rfl

theorem keyOf_of_calls (there : w.calls id = some call) : w.keyOf id = some call.key := by
  rw [keyOf, there]
  rfl

theorem unreleased_of_phase {phase : Phase Outcome} (phased : w.phase id = some phase) :
    w.unreleased id = phase.unreleased := by
  rw [unreleased, phased]
  rfl

theorem keyOf_put_same (there : w.calls id = some call) (key : call'.key = call.key) (id' : Nat) :
    (w.put id call').keyOf id' = w.keyOf id' := by
  rw [keyOf_put]
  split
  · next same => rw [same, keyOf_of_calls there, key]
  · rfl

theorem calls_put_of_none {id' : Nat} (there : w.calls id = some call)
    (absent : w.calls id' = none) : (w.put id call').calls id' = none := by
  have other : id' ≠ id := by
    rintro rfl
    rw [there] at absent
    cases absent
  exact (update_of_ne other ..).trans absent

/-! ## The lines of the keys -/

def waiters : List Nat → Option (List Nat)
  | [] => none
  | _ :: rest => some rest

structure Lined (w : World Key Outcome) (line : Key → List Nat) : Prop where
  sorted : ∀ key, (line key).Pairwise (· < ·)
  mem : ∀ key id, id ∈ line key ↔ w.keyOf id = some key ∧ w.unreleased id = true
  locks : ∀ key, w.locks key = waiters (line key)
  head : ∀ key id rest, line key = id :: rest → w.phase id ≠ some .waiting ∧
    ∀ id' ∈ rest, w.phase id' = some .waiting
  nodup : w.ticks.Nodup
  ticks : ∀ id, id ∈ w.ticks ↔ w.phase id = some .scheduled
  fresh : ∀ id, w.count ≤ id → w.calls id = none
  called : ∀ id, id ∈ w.order ↔ w.started id = true
  fifo : w.order.Pairwise fun a b => w.keyOf a = w.keyOf b → a < b
  ahead : ∀ a b, w.started a = true → w.keyOf a = w.keyOf b →
    w.unreleased b = true → w.started b = false → a < b

structure Own (w : World Key Outcome) : Prop where
  own : ∀ id call outcome, w.calls id = some call → call.phase = .ended outcome ∨
    call.phase = .released outcome ∨ call.phase = .settled outcome → call.result = some outcome
  caught : ∀ id, w.phase id ≠ some .uncaught

section Steps

variable {line : Key → List Nat}

theorem lined_start : (start : World Key Outcome).Lined fun _ => [] where
  sorted := fun _ => List.Pairwise.nil
  mem := fun _ _ => by simp [start, keyOf]
  locks := fun _ => rfl
  head := fun _ _ _ first => by cases first
  nodup := nodup_nil
  ticks := fun _ => by simp [start, phase]
  fresh := fun _ _ => rfl
  called := fun _ => by simp [start, World.started, phase]
  fifo := List.Pairwise.nil
  ahead := fun _ _ started => by simp [start, World.started, phase] at started

theorem Lined.congr {w' : World Key Outcome} (lined : w.Lined line)
    (keys : ∀ id, w'.keyOf id = w.keyOf id) (unreleased : ∀ id, w'.unreleased id = w.unreleased id)
    (started : ∀ id, w'.started id = w.started id)
    (waiting : ∀ id, w'.phase id = some .waiting ↔ w.phase id = some .waiting)
    (scheduled : ∀ id, w'.phase id = some .scheduled ↔ w.phase id = some .scheduled)
    (locks : w'.locks = w.locks) (ticks : w'.ticks = w.ticks) (order : w'.order = w.order)
    (fresh : ∀ id, w'.count ≤ id → w'.calls id = none) : w'.Lined line where
  sorted := lined.sorted
  mem := fun key id => by rw [keys, unreleased, lined.mem]
  locks := fun key => by rw [locks, lined.locks]
  head := fun key id rest first => by
    obtain ⟨holds, waits⟩ := lined.head key id rest first
    refine ⟨fun isWaiting => holds ((waiting id).mp isWaiting), fun id' there => ?_⟩
    exact (waiting id').mpr (waits id' there)
  nodup := by
    rw [ticks]
    exact lined.nodup
  ticks := fun id => by rw [ticks, scheduled, lined.ticks]
  fresh := fresh
  called := fun id => by rw [order, started, lined.called]
  fifo := by
    rw [order]
    exact lined.fifo.imp fun before same => before (by rw [← keys, ← keys, same])
  ahead := fun a b => by
    rw [started, started, keys, keys, unreleased]
    exact lined.ahead a b

variable {id : Nat}

theorem Lined.put (lined : w.Lined line) {call call' : Call Key Outcome}
    (there : w.calls id = some call) (key : call'.key = call.key)
    (unreleased : call'.phase.unreleased = call.phase.unreleased)
    (started : call.phase.started = true) (started' : call'.phase.started = true) :
    (w.put id call').Lined line := by
  have phased := phase_of_calls there
  refine lined.congr (keyOf_put_same there key) (fun id' => ?_) (fun id' => ?_) (fun id' => ?_)
    (fun id' => ?_) rfl rfl rfl fun id' late => calls_put_of_none there (lined.fresh id' late)
  · rw [unreleased_put]
    split
    · next same =>
      rw [same, unreleased, World.unreleased, phased]
      rfl
    · rfl
  · rw [started_put]
    split
    · next same =>
      rw [same, started', World.started, phased]
      exact started.symm
    · rfl
  · rw [phase_put]
    split
    · next same =>
      rw [same, phased]
      constructor
      · intro isWaiting
        rw [Option.some.inj isWaiting] at started'
        cases started'
      · intro isWaiting
        rw [Option.some.inj isWaiting] at started
        cases started
    · rfl
  · rw [phase_put]
    split
    · next same =>
      rw [same, phased]
      constructor
      · intro isScheduled
        rw [Option.some.inj isScheduled] at started'
        cases started'
      · intro isScheduled
        rw [Option.some.inj isScheduled] at started
        cases started
    · rfl

theorem Lined.first (lined : w.Lined line) {key : Key} (isKey : w.keyOf id = some key)
    (unreleased : w.unreleased id = true) (holds : w.phase id ≠ some .waiting) :
    ∃ rest, line key = id :: rest := by
  have there := (lined.mem key id).mpr ⟨isKey, unreleased⟩
  cases eq : line key with
  | nil =>
    rw [eq] at there
    cases there
  | cons head rest =>
    rw [eq] at there
    rcases mem_cons.mp there with rfl | later
    · exact ⟨rest, rfl⟩
    · exact absurd ((lined.head key head rest eq).2 id later) holds

theorem Lined.lt_count (lined : w.Lined line) (there : w.calls id ≠ none) : id < w.count := by
  by_contra late
  exact there (lined.fresh id (Nat.not_lt.mp late))

theorem Lined.lt_count_of_mem (lined : w.Lined line) {key : Key} (there : id ∈ line key) :
    id < w.count := by
  refine lined.lt_count fun none => ?_
  have isKey := ((lined.mem key id).mp there).1
  rw [keyOf, none] at isKey
  cases isKey

theorem Lined.lt_count_of_started (lined : w.Lined line) (started : w.started id = true) :
    id < w.count := by
  refine lined.lt_count fun none => ?_
  rw [World.started, phase, none] at started
  cases started

theorem Lined.phase_count (lined : w.Lined line) : w.phase w.count = none := by
  rw [phase, lined.fresh w.count (Nat.le_refl _)]
  rfl

variable [DecidableEq Key]

section

variable (lined : w.Lined line)

include lined

theorem sorted_append (key key' : Key) :
    (update line key (line key ++ [w.count]) key').Pairwise (· < ·) := by
  rw [update_apply]
  split
  · refine pairwise_append.mpr ⟨lined.sorted key, pairwise_singleton _ _, ?_⟩
    intro id there last isLast
    rw [mem_singleton.mp isLast]
    exact lined.lt_count_of_mem there
  · exact lined.sorted key'

theorem mem_append (call : Call Key Outcome)
    (unreleased : call.phase.unreleased = true) (key : Key) (id : Nat) :
    id ∈ update line call.key (line call.key ++ [w.count]) key ↔
      (w.put w.count call).keyOf id = some key ∧ (w.put w.count call).unreleased id = true := by
  rw [keyOf_put, unreleased_put]
  by_cases new : id = w.count
  · rw [if_pos new, if_pos new, new]
    by_cases same : key = call.key
    · rw [same, update_self]
      simp [unreleased]
    · have absent : w.count ∉ line key := fun there =>
        absurd (lined.lt_count_of_mem there) (Nat.lt_irrefl _)
      rw [update_of_ne same]
      simp [absent, Ne.symm same]
  · rw [if_neg new, if_neg new, ← lined.mem key id]
    by_cases same : key = call.key
    · rw [same, update_self]
      simp [new]
    · rw [update_of_ne same]

omit [DecidableEq Key] in
theorem fresh_put (call : Call Key Outcome) (id : Nat)
    (late : w.count + 1 ≤ id) : (w.put w.count call).calls id = none := by
  have other : id ≠ w.count := by omega
  exact (update_of_ne other ..).trans (lined.fresh id (by omega))

omit [DecidableEq Key] in
theorem ahead_put (call : Call Key Outcome)
    (alone : call.phase.started = true → line call.key = []) (a b : Nat)
    (started : (w.put w.count call).started a = true)
    (same : (w.put w.count call).keyOf a = (w.put w.count call).keyOf b)
    (unreleased : (w.put w.count call).unreleased b = true)
    (waits : (w.put w.count call).started b = false) : a < b := by
  rw [started_put] at started waits
  rw [keyOf_put, keyOf_put] at same
  rw [unreleased_put] at unreleased
  by_cases newA : a = w.count
  · rw [if_pos newA] at started same
    by_cases newB : b = w.count
    · rw [if_pos newB, started] at waits
      cases waits
    · rw [if_neg newB] at same unreleased
      have there := (lined.mem call.key b).mpr ⟨same.symm, unreleased⟩
      rw [alone started] at there
      exact (not_mem_nil there).elim
  · rw [if_neg newA] at started same
    by_cases newB : b = w.count
    · have before := lined.lt_count_of_started started
      omega
    · rw [if_neg newB] at same unreleased waits
      exact lined.ahead a b started same unreleased waits

theorem head_append (call : Call Key Outcome)
    (fits : (line call.key = [] ∧ call.phase ≠ .waiting) ∨
      (line call.key ≠ [] ∧ call.phase = .waiting)) (key : Key) (id : Nat) (rest : List Nat)
    (isLine : update line call.key (line call.key ++ [w.count]) key = id :: rest) :
    (w.put w.count call).phase id ≠ some .waiting ∧
      ∀ id' ∈ rest, (w.put w.count call).phase id' = some .waiting := by
  have old : ∀ key id, id ∈ line key → (w.put w.count call).phase id = w.phase id := by
    intro key id there
    have before := lined.lt_count_of_mem there
    rw [phase_put, if_neg (by omega)]
  have new : (w.put w.count call).phase w.count = some call.phase := by
    rw [phase_put, if_pos rfl]
  by_cases same : key = call.key
  · rw [same, update_self] at isLine
    rcases fits with ⟨empty, holds⟩ | ⟨some, waits⟩
    · rw [empty, nil_append] at isLine
      cases isLine
      rw [new]
      exact ⟨fun isWaiting => holds (Option.some.inj isWaiting),
        fun _ there => (not_mem_nil there).elim⟩
    · obtain ⟨first, others, isOld⟩ := exists_cons_of_ne_nil some
      obtain ⟨holds, wait⟩ := lined.head call.key first others isOld
      rw [isOld, cons_append] at isLine
      obtain ⟨rfl, rfl⟩ := List.cons.inj isLine
      have inLine : first ∈ line call.key := by
        rw [isOld]
        exact mem_cons_self
      refine ⟨?_, fun id' there => ?_⟩
      · rw [old call.key first inLine]
        exact holds
      · rcases List.mem_append.mp there with before | last
        · have inLine' : id' ∈ line call.key := by
            rw [isOld]
            exact mem_cons_of_mem _ before
          rw [old call.key id' inLine']
          exact wait id' before
        · rw [mem_singleton.mp last, new, waits]
  · rw [update_of_ne same] at isLine
    obtain ⟨holds, wait⟩ := lined.head key id rest isLine
    have inLine : ∀ id' ∈ id :: rest, id' ∈ line key := fun id' there => isLine ▸ there
    refine ⟨?_, fun id' there => ?_⟩
    · rw [old key id (inLine id mem_cons_self)]
      exact holds
    · rw [old key id' (inLine id' (mem_cons_of_mem _ there))]
      exact wait id' there

theorem lined_new (call : Call Key Outcome)
    (fits : (line call.key = [] ∧ call.phase = .calling false) ∨
      (line call.key ≠ [] ∧ call.phase = .waiting)) (locks : Key → Option (List Nat))
    (isLocks : ∀ key, locks key =
      waiters (update line call.key (line call.key ++ [w.count]) key)) :
    Lined { w.put w.count call with
      locks := locks
      order := if call.phase.started then w.order ++ [w.count] else w.order
      count := w.count + 1 } (update line call.key (line call.key ++ [w.count])) := by
  have unreleased : call.phase.unreleased = true := by
    rcases fits with ⟨-, isPhase⟩ | ⟨-, isPhase⟩ <;> rw [isPhase] <;> rfl
  have alone : call.phase.started = true → line call.key = [] := by
    intro started
    rcases fits with ⟨empty, -⟩ | ⟨-, isPhase⟩
    · exact empty
    · rw [isPhase] at started
      cases started
  have oldKey : ∀ id ∈ w.order, (w.put w.count call).keyOf id = w.keyOf id := by
    intro id there
    have before := lined.lt_count_of_started ((lined.called id).mp there)
    rw [keyOf_put, if_neg (by omega)]
  have fifo : w.order.Pairwise fun a b =>
      (w.put w.count call).keyOf a = (w.put w.count call).keyOf b → a < b := by
    refine lined.fifo.imp_of_mem fun {a b} thereA thereB before same => before ?_
    rw [← oldKey a thereA, ← oldKey b thereB, same]
  exact {
    sorted := sorted_append lined call.key
    mem := mem_append lined call unreleased
    locks := isLocks
    head := by
      refine head_append lined call ?_
      rcases fits with ⟨empty, isPhase⟩ | queued
      · refine .inl ⟨empty, fun isWaiting => ?_⟩
        rw [isPhase] at isWaiting
        cases isWaiting
      · exact .inr queued
    nodup := lined.nodup
    ticks := fun id => by
      change id ∈ w.ticks ↔ (w.put w.count call).phase id = _
      rw [phase_put, lined.ticks]
      by_cases new : id = w.count
      · rw [if_pos new, new, lined.phase_count]
        rcases fits with ⟨-, isPhase⟩ | ⟨-, isPhase⟩ <;> rw [isPhase] <;> simp
      · rw [if_neg new]
    fresh := fresh_put lined call
    called := fun id => by
      change id ∈ (if call.phase.started then _ else _) ↔ (w.put w.count call).started id = true
      have notCalled : w.count ∉ w.order := fun there =>
        absurd (lined.lt_count_of_started ((lined.called _).mp there)) (Nat.lt_irrefl _)
      rw [started_put]
      by_cases new : id = w.count
      · rw [if_pos new, new]
        cases call.phase.started <;> simp [notCalled]
      · rw [if_neg new, ← lined.called]
        cases call.phase.started <;> simp [new]
    fifo := by
      change (if call.phase.started then w.order ++ [w.count] else w.order).Pairwise _
      split
      · refine pairwise_append.mpr ⟨fifo, pairwise_singleton _ _, ?_⟩
        intro a there b last _
        rw [mem_singleton.mp last]
        exact lined.lt_count_of_started ((lined.called a).mp there)
      · exact fifo
    ahead := ahead_put lined call alone }

theorem enterLockSection_of_empty {key : Key} (empty : line key = []) :
    w.step (.enterLockSection key) = { w.put w.count ⟨key, .calling false, none⟩ with
      locks := update w.locks key (some [])
      order := w.order ++ [w.count]
      count := w.count + 1 } := by
  have queue := lined.locks key
  rw [empty] at queue
  have none : w.locks key = none := queue
  unfold World.step
  simp only [none]
  unfold waitFunc
  simp only [none, Option.isNone_none, if_true]
  rfl

theorem lined_enterLockSection (key : Key) :
    (w.step (.enterLockSection key)).Lined (update line key (line key ++ [w.count])) := by
  by_cases empty : line key = []
  · rw [enterLockSection_of_empty lined empty]
    refine lined_new lined ⟨key, .calling false, none⟩ (.inl ⟨empty, rfl⟩) _ fun key' => ?_
    by_cases same : key' = key
    · rw [same, update_self, update_self]
      dsimp only
      rw [empty]
      rfl
    · rw [update_of_ne same, update_of_ne same, lined.locks]
  · obtain ⟨first, rest, isLine⟩ := exists_cons_of_ne_nil empty
    have queue := lined.locks key
    rw [isLine] at queue
    have step : w.step (.enterLockSection key) =
        { w.put w.count ⟨key, .waiting, none⟩ with
          locks := update w.locks key (some (rest ++ [w.count]))
          count := w.count + 1 } := by
      have taken : w.locks key = some rest := queue
      unfold World.step
      simp only [taken]
    rw [step]
    refine lined_new lined ⟨key, .waiting, none⟩ (.inr ⟨empty, rfl⟩) _ fun key' => ?_
    by_cases same : key' = key
    · rw [same, update_self, update_self]
      dsimp only
      rw [isLine]
      rfl
    · rw [update_of_ne same, update_of_ne same, lined.locks]

/-! ## The hand-over -/

end

/-- The first of a line is released, and the second is scheduled. -/
structure HandsOver (w w' : World Key Outcome) (key : Key) (id : Nat) (rest : List Nat)
    (outcome : Outcome) : Prop where
  keys : ∀ id', w'.keyOf id' = w.keyOf id'
  phase : ∀ id', w'.phase id' = if id' = id then some (.released outcome)
    else if rest.head? = some id' then some .scheduled else w.phase id'
  locks : w'.locks = update w.locks key (waiters rest)
  ticks : w'.ticks = w.ticks ++ rest.head?.toList
  order : w'.order = w.order
  count : w'.count = w.count
  fresh : ∀ id', w'.count ≤ id' → w'.calls id' = none

section HandingOver

variable {w' : World Key Outcome} {key : Key} {id : Nat} {rest : List Nat} {outcome : Outcome}
  (lined : w.Lined line) (isLine : line key = id :: rest)
  (ended : w.phase id = some (.ended outcome)) (hands : HandsOver w w' key id rest outcome)

include lined isLine

omit [DecidableEq Key] in
theorem not_mem_rest : id ∉ rest := by
  have sorted := lined.sorted key
  rw [isLine] at sorted
  exact fun there => absurd ((pairwise_cons.mp sorted).1 id there) (Nat.lt_irrefl _)

omit [DecidableEq Key] in
theorem next_waits {id' : Nat} (isNext : rest.head? = some id') :
    id' ≠ id ∧ w.phase id' = some .waiting := by
  have there := mem_of_head? isNext
  refine ⟨?_, (lined.head key id rest isLine).2 id' there⟩
  rintro rfl
  exact not_mem_rest lined isLine there

omit [DecidableEq Key] in
theorem keyOf_mem {id' : Nat} (there : id' ∈ id :: rest) : w.keyOf id' = some key := by
  rw [← isLine] at there
  exact ((lined.mem key id').mp there).1

include hands

theorem HandsOver.unreleased (id' : Nat) :
    w'.unreleased id' = if id' = id then false else w.unreleased id' := by
  rw [World.unreleased, hands.phase, World.unreleased]
  split
  · rfl
  · split
    · next isNext =>
      rw [(next_waits lined isLine isNext).2]
      rfl
    · rfl

include ended in
theorem HandsOver.started (id' : Nat) : w'.started id' = w.started id' := by
  rw [World.started, hands.phase, World.started]
  split
  · next same =>
    rw [same, ended]
    rfl
  · split
    · next isNext =>
      rw [(next_waits lined isLine isNext).2]
      rfl
    · rfl

theorem HandsOver.phase_other {key' : Key} (other : key' ≠ key) {id' : Nat}
    (there : id' ∈ line key') : w'.phase id' = w.phase id' := by
  have isKey' := ((lined.mem key' id').mp there).1
  have notHere : id' ∉ id :: rest := by
    intro here
    rw [keyOf_mem lined isLine here] at isKey'
    exact other (Option.some.inj isKey').symm
  rw [hands.phase, if_neg, if_neg]
  · exact fun isNext => notHere (mem_cons_of_mem _ (mem_of_head? isNext))
  · rintro rfl
    exact notHere mem_cons_self

theorem HandsOver.mem (key' : Key) (id' : Nat) : id' ∈ update line key rest key' ↔
    w'.keyOf id' = some key' ∧ w'.unreleased id' = true := by
  rw [hands.keys, hands.unreleased lined isLine]
  by_cases same : key' = key
  · have inLine := lined.mem key id'
    rw [isLine, mem_cons] at inLine
    rw [same, update_self]
    by_cases isFirst : id' = id
    · simp [isFirst, not_mem_rest lined isLine]
    · rw [if_neg isFirst, ← inLine]
      simp [isFirst]
  · rw [update_of_ne same, lined.mem]
    by_cases isFirst : id' = id
    · rw [isFirst, keyOf_mem lined isLine mem_cons_self]
      simp [Ne.symm same]
    · rw [if_neg isFirst]

theorem HandsOver.head (key' : Key) (id' : Nat) (rest' : List Nat)
    (isLine' : update line key rest key' = id' :: rest') :
    w'.phase id' ≠ some .waiting ∧ ∀ id'' ∈ rest', w'.phase id'' = some .waiting := by
  by_cases same : key' = key
  · rw [same, update_self] at isLine'
    subst isLine'
    have sorted := lined.sorted key
    rw [isLine] at sorted
    have later := (pairwise_cons.mp (pairwise_cons.mp sorted).2).1
    have isNext : (id' :: rest').head? = some id' := rfl
    obtain ⟨notFirst, -⟩ := next_waits lined isLine isNext
    refine ⟨?_, fun id'' there => ?_⟩
    · rw [hands.phase, if_neg notFirst, List.head?_cons, if_pos rfl]
      exact fun isWaiting => by cases isWaiting
    · have inRest : id'' ∈ id' :: rest' := mem_cons_of_mem _ there
      rw [hands.phase, if_neg, if_neg]
      · exact (lined.head key id _ isLine).2 id'' inRest
      · rintro isNext
        cases isNext
        exact absurd (later id' there) (Nat.lt_irrefl _)
      · rintro rfl
        exact not_mem_rest lined isLine inRest
  · rw [update_of_ne same] at isLine'
    obtain ⟨holds, wait⟩ := lined.head key' id' rest' isLine'
    have inLine : ∀ id'' ∈ id' :: rest', id'' ∈ line key' := fun id'' there => isLine' ▸ there
    refine ⟨?_, fun id'' there => ?_⟩
    · rw [hands.phase_other lined isLine same (inLine id' mem_cons_self)]
      exact holds
    · rw [hands.phase_other lined isLine same (inLine id'' (mem_cons_of_mem _ there))]
      exact wait id'' there

theorem HandsOver.nodup : w'.ticks.Nodup := by
  rw [hands.ticks]
  cases isNext : rest.head? with
  | none => simpa using lined.nodup
  | some id' =>
    refine nodup_append'.mpr ⟨lined.nodup, nodup_singleton _, ?_⟩
    refine disjoint_singleton.mpr fun there => ?_
    have scheduled := (lined.ticks id').mp there
    rw [(next_waits lined isLine isNext).2] at scheduled
    cases scheduled

include ended in
theorem HandsOver.mem_ticks (id' : Nat) : id' ∈ w'.ticks ↔ w'.phase id' = some .scheduled := by
  rw [hands.ticks, hands.phase, List.mem_append, lined.ticks, Option.mem_toList]
  by_cases isFirst : id' = id
  · have notNext : rest.head? ≠ some id' := fun isNext =>
      (next_waits lined isLine isNext).1 isFirst
    rw [if_pos isFirst, isFirst, ended]
    rw [isFirst] at notNext
    simp [notNext]
  · rw [if_neg isFirst]
    by_cases isNext : rest.head? = some id' <;> simp [isNext]

include ended in
theorem lined_handsOver : w'.Lined (update line key rest) where
  sorted := fun key' => by
    by_cases same : key' = key
    · have sorted := lined.sorted key
      rw [isLine] at sorted
      rw [same, update_self]
      exact (pairwise_cons.mp sorted).2
    · rw [update_of_ne same]
      exact lined.sorted key'
  mem := hands.mem lined isLine
  locks := fun key' => by
    rw [hands.locks]
    by_cases same : key' = key
    · rw [same, update_self, update_self]
    · rw [update_of_ne same, update_of_ne same, lined.locks]
  head := hands.head lined isLine
  nodup := hands.nodup lined isLine
  ticks := hands.mem_ticks lined isLine ended
  fresh := hands.fresh
  called := fun id' => by rw [hands.order, hands.started lined isLine ended, lined.called]
  fifo := by
    rw [hands.order]
    exact lined.fifo.imp fun before same => before (by rw [← hands.keys, ← hands.keys, same])
  ahead := fun a b => by
    rw [hands.started lined isLine ended, hands.started lined isLine ended, hands.keys,
      hands.keys, hands.unreleased lined isLine]
    intro isStarted same isOpen waiting
    refine lined.ahead a b isStarted same ?_ waiting
    split at isOpen
    · cases isOpen
    · exact isOpen

end HandingOver

theorem handsOver_release (lined : w.Lined line) (id : Nat) (key : Key) (result : Option Outcome)
    (outcome : Outcome) (there : w.calls id = some ⟨key, .ended outcome, result⟩) :
    ∃ rest, line key = id :: rest ∧ HandsOver w (w.step (.release id)) key id rest outcome := by
  have phased := phase_of_calls there
  have unreleased : w.unreleased id = true := by
    rw [World.unreleased, phased]
    rfl
  have holds : w.phase id ≠ some .waiting := by
    rw [phased]
    exact fun isWaiting => by cases isWaiting
  obtain ⟨rest, isLine⟩ := lined.first (keyOf_of_calls there) unreleased holds
  refine ⟨rest, isLine, ?_⟩
  have queue := lined.locks key
  rw [isLine] at queue
  have queue : w.locks key = some rest := queue
  have step : w.step (.release id) =
      (w.put id ⟨key, .released outcome, result⟩).onReleaseLock key := by
    unfold World.step
    simp only [there]
  have keyPut : ∀ id', (w.put id ⟨key, .released outcome, result⟩).keyOf id' = w.keyOf id' :=
    keyOf_put_same there rfl
  have freshPut : ∀ id', w.count ≤ id' →
      (w.put id ⟨key, .released outcome, result⟩).calls id' = none := fun id' late =>
    calls_put_of_none there (lined.fresh id' late)
  have queuePut : (w.put id ⟨key, .released outcome, result⟩).locks key = some rest := queue
  rw [step]
  unfold onReleaseLock
  cases rest with
  | nil =>
    simp only [queuePut]
    refine ⟨keyPut, fun id' => ?_, rfl, (append_nil _).symm, rfl, rfl, freshPut⟩
    exact phase_put id id' ⟨key, .released outcome, result⟩
  | cons next more =>
    simp only [queuePut]
    have isNext : (next :: more).head? = some next := rfl
    obtain ⟨other, waits⟩ := next_waits lined isLine isNext
    obtain ⟨call, calls, -⟩ := Option.map_eq_some_iff.mp waits
    have callsPut : (w.put id ⟨key, .released outcome, result⟩).calls next = some call :=
      (update_of_ne other ..).trans calls
    simp only [callsPut]
    refine ⟨fun id' => ?_, fun id' => ?_, rfl, rfl, rfl, rfl, fun id' late => ?_⟩
    · refine Eq.trans ?_ (keyPut id')
      exact keyOf_put_same callsPut (by rfl) id'
    · refine (phase_put next id' _).trans ?_
      by_cases same : id' = next
      · rw [if_pos same, same, if_neg other, if_pos isNext]
      · have notNext : ¬ (next :: more).head? = some id' := fun eq =>
          same (Option.some.inj eq).symm
        rw [if_neg same, if_neg notNext]
        exact phase_put id id' ⟨key, .released outcome, result⟩
    · exact calls_put_of_none callsPut (freshPut id' late)

theorem step_release (lined : w.Lined line) (id : Nat) : w.step (.release id) = w ∨
    ∃ key outcome rest, w.phase id = some (.ended outcome) ∧ line key = id :: rest ∧
      HandsOver w (w.step (.release id)) key id rest outcome := by
  by_cases ended : ∃ key outcome result, w.calls id = some ⟨key, .ended outcome, result⟩
  · obtain ⟨key, outcome, result, there⟩ := ended
    obtain ⟨rest, isLine, hands⟩ := handsOver_release lined id key result outcome there
    exact .inr ⟨key, outcome, rest, phase_of_calls there, isLine, hands⟩
  · left
    unfold World.step
    dsimp only
    split
    · next key outcome result there => exact absurd ⟨key, outcome, result, there⟩ ended
    · rfl

section Called

variable {id : Nat} {rest more : List Nat} {call : Call Key Outcome} (lined : w.Lined line)
  (there : w.calls id = some call) (scheduled : call.phase = .scheduled)
  (isTicks : w.ticks = id :: rest) (isLine : line call.key = id :: more)

include there

include scheduled

omit [DecidableEq Key] in
theorem unreleased_called (id' : Nat) :
    (w.put id { call with phase := .calling true }).unreleased id' = w.unreleased id' := by
  rw [unreleased_put]
  split
  · next same =>
    rw [same, unreleased, phase_of_calls there, scheduled]
    rfl
  · rfl

include lined isTicks isLine

omit [DecidableEq Key] in
theorem lined_called : Lined { w.put id { call with phase := .calling true } with
      ticks := rest
      order := w.order ++ [id] } line := by
  have phased : w.phase id = some .scheduled := by rw [phase_of_calls there, scheduled]
  have notStarted : w.started id = false := by
    rw [World.started, phased]
    rfl
  have isOpen : w.unreleased id = true := by
    rw [World.unreleased, phased]
    rfl
  have nodup := lined.nodup
  rw [isTicks, nodup_cons] at nodup
  have keys : ∀ id', (w.put id { call with phase := .calling true }).keyOf id' = w.keyOf id' :=
    keyOf_put_same there rfl
  have unreleased := unreleased_called there scheduled
  have ticks := lined.ticks
  rw [isTicks] at ticks
  exact {
    sorted := lined.sorted
    mem := fun key id' => by
      rw [lined.mem]
      exact and_congr (by rw [← keys id']; rfl) (by rw [← unreleased id']; rfl)
    locks := lined.locks
    head := fun key id' others isLine' => by
      obtain ⟨holds, waits⟩ := lined.head key id' others isLine'
      refine ⟨fun isWaiting => ?_, fun id'' inOthers => ?_⟩
      · have isWaiting := (phase_put id id' _).symm.trans isWaiting
        split at isWaiting
        · cases isWaiting
        · exact holds isWaiting
      · refine (phase_put id id'' _).trans ?_
        have waiting := waits id'' inOthers
        rw [if_neg]
        · exact waiting
        · rintro rfl
          rw [phased] at waiting
          cases waiting
    nodup := nodup.2
    ticks := fun id' => by
      refine Iff.trans ?_ (Eq.congr_left (phase_put id id' _)).symm
      by_cases same : id' = id
      · rw [if_pos same, same]
        simp [nodup.1]
      · rw [if_neg same, ← ticks id']
        simp [same]
    fresh := fun id' late => calls_put_of_none there (lined.fresh id' late)
    called := fun id' => by
      refine Iff.trans ?_ (Eq.congr_left (started_put id id' _)).symm
      rw [List.mem_append, lined.called, mem_singleton]
      by_cases same : id' = id
      · simp [same, Phase.started]
      · simp [same]
    fifo := by
      refine pairwise_append.mpr ⟨?_, pairwise_singleton _ _, ?_⟩
      · exact lined.fifo.imp fun before same =>
          before ((keys _).symm.trans (same.trans (keys _)))
      · intro a inOrder b last same
        obtain rfl := mem_singleton.mp last
        exact lined.ahead a b ((lined.called a).mp inOrder)
          ((keys a).symm.trans (same.trans (keys b))) isOpen notStarted
    ahead := fun a b isStarted same isOpen' waiting => by
      have isStarted := (started_put id a _).symm.trans isStarted
      have waiting := (started_put id b _).symm.trans waiting
      have same := (keys a).symm.trans (same.trans (keys b))
      have isOpen' := (unreleased b).symm.trans isOpen'
      by_cases isB : b = id
      · rw [if_pos isB] at waiting
        cases waiting
      · rw [if_neg isB] at waiting
        by_cases isA : a = id
        · -- the others of the line come after its first
          rw [isA, keyOf_of_calls there] at same
          have inLine := (lined.mem call.key b).mpr ⟨same.symm, isOpen'⟩
          have sorted := lined.sorted call.key
          rw [isLine] at inLine sorted
          rw [isA]
          exact (pairwise_cons.mp sorted).1 b ((mem_cons.mp inLine).resolve_left isB)
        · rw [if_neg isA] at isStarted
          exact lined.ahead a b isStarted same isOpen' waiting }

end Called

theorem step_tick (lined : w.Lined line) : (w.ticks = [] ∧ w.step .tick = w) ∨ ∃ id rest call more,
    w.ticks = id :: rest ∧ w.calls id = some call ∧ call.phase = .scheduled ∧
      line call.key = id :: more ∧
      w.step .tick = { w.put id { call with phase := .calling true } with
        ticks := rest
        order := w.order ++ [id] } := by
  cases isTicks : w.ticks with
  | nil =>
    refine .inl ⟨rfl, ?_⟩
    unfold World.step
    simp only [isTicks]
  | cons id rest =>
    have scheduled : w.phase id = some .scheduled :=
      (lined.ticks id).mp (isTicks ▸ mem_cons_self)
    obtain ⟨call, there, isPhase⟩ := Option.map_eq_some_iff.mp scheduled
    have unreleased : w.unreleased id = true := by
      rw [World.unreleased, scheduled]
      rfl
    have holds : w.phase id ≠ some .waiting := by
      rw [scheduled]
      exact fun isWaiting => by cases isWaiting
    obtain ⟨more, isLine⟩ := lined.first (keyOf_of_calls there) unreleased holds
    have taken : w.locks call.key = some more := by
      rw [lined.locks, isLine]
      rfl
    refine .inr ⟨id, rest, call, more, rfl, there, isPhase, isLine, ?_⟩
    unfold World.step
    simp only [isTicks, there]
    unfold waitFunc
    simp only [taken, Option.isNone_some, Bool.false_eq_true, if_false]
    rfl

theorem lined_tick (lined : w.Lined line) : (w.step .tick).Lined line := by
  obtain ⟨-, stays⟩ | ⟨id, rest, call, more, isTicks, there, scheduled, isLine, step⟩ :=
    step_tick lined
  · rw [stays]
    exact lined
  · rw [step]
    exact lined_called lined there scheduled isTicks isLine

end Steps

variable [DecidableEq Key]

theorem throws_of_asynchronous {error : Outcome}
    (asynchronous : Asynchronous w (.throws id error)) : w.step (.throws id error) = w := by
  unfold World.step
  dsimp only
  split
  · next key inTick result there => exact absurd (phase_of_calls there) (asynchronous inTick)
  · rfl

inductive Advances (w : World Key Outcome) : World Key Outcome → Prop where
  | stays : Advances w w
  | put (id : Nat) (call call' : Call Key Outcome) (there : w.calls id = some call)
      (key : call'.key = call.key) (unreleased : call'.phase.unreleased = call.phase.unreleased)
      (started : call.phase.started = true) (started' : call'.phase.started = true)
      (less : call'.phase.left < call.phase.left) (caught : call'.phase ≠ .uncaught)
      (own : (∀ outcome, call.phase = .released outcome → call.result = some outcome) →
        ∀ outcome, call'.phase = .ended outcome ∨ call'.phase = .released outcome ∨
          call'.phase = .settled outcome → call'.result = some outcome) :
      Advances w (w.put id call')

theorem advances_returns (w : World Key Outcome) (id : Nat) :
    Advances w (w.step (.returns id)) := by
  unfold World.step
  dsimp only
  split
  · next key inTick result there =>
    refine .put id _ _ there rfl rfl rfl rfl (Nat.lt_succ_self 3) (fun eq => by cases eq) ?_
    rintro - outcome (eq | eq | eq) <;> cases eq
  · exact .stays

theorem advances_ends (w : World Key Outcome) (id : Nat) (outcome : Outcome) :
    Advances w (w.step (.ends id outcome)) := by
  unfold World.step
  dsimp only
  split
  · next key result there =>
    refine .put id _ _ there rfl rfl rfl rfl (Nat.lt_succ_self 2) (fun eq => by cases eq) ?_
    rintro - outcome' (eq | eq | eq) <;> cases eq
    rfl
  · exact .stays

theorem advances_settle (w : World Key Outcome) (id : Nat) : Advances w (w.step (.settle id)) := by
  unfold World.step
  dsimp only
  split
  · next key outcome result there =>
    refine .put id _ _ there rfl rfl rfl rfl (Nat.lt_succ_self 0) (fun eq => by cases eq) ?_
    rintro own outcome' (eq | eq | eq) <;> cases eq
    exact own outcome rfl
  · exact .stays

omit [DecidableEq Key] in
theorem Advances.lined (advances : Advances w w') (lined : w.Lined line) : w'.Lined line := by
  cases advances with
  | stays => exact lined
  | put id call call' there key unreleased started started' _ _ _ =>
    exact lined.put there key unreleased started started'

theorem lined_step (action : Action Key Outcome) (lined : ∃ line, w.Lined line)
    (asynchronous : Asynchronous w action) : ∃ line, (w.step action).Lined line := by
  obtain ⟨line, lined⟩ := lined
  cases action with
  | enterLockSection key => exact ⟨_, lined_enterLockSection lined key⟩
  | returns id => exact ⟨line, (advances_returns w id).lined lined⟩
  | throws id error =>
    rw [throws_of_asynchronous asynchronous]
    exact ⟨line, lined⟩
  | ends id outcome => exact ⟨line, (advances_ends w id outcome).lined lined⟩
  | release id =>
    obtain stays | ⟨key, outcome, rest, ended, isLine, hands⟩ := step_release lined id
    · rw [stays]
      exact ⟨line, lined⟩
    · exact ⟨_, lined_handsOver lined isLine ended hands⟩
  | settle id => exact ⟨line, (advances_settle w id).lined lined⟩
  | tick => exact ⟨line, lined_tick lined⟩

/-! ## What a call has -/

omit [DecidableEq Key] in
theorem own_put (own : w.Own) (id : Nat) (call : Call Key Outcome)
    (has : ∀ outcome, call.phase = .ended outcome ∨ call.phase = .released outcome ∨
      call.phase = .settled outcome → call.result = some outcome)
    (caught : call.phase ≠ .uncaught) : (w.put id call).Own where
  own := fun id' call' outcome there => by
    have there : update w.calls id (some call) id' = some call' := there
    rw [update_apply] at there
    split at there
    · cases there
      exact has outcome
    · exact own.own id' call' outcome there
  caught := fun id' => by
    rw [phase_put]
    split
    · exact fun eq => caught (Option.some.inj eq)
    · exact own.caught id'

omit [DecidableEq Key] in
theorem Own.of_calls (own : w.Own) (calls : w'.calls = w.calls) : w'.Own := by
  refine ⟨fun id call outcome there => ?_, fun id => ?_⟩
  · rw [calls] at there
    exact own.own id call outcome there
  · rw [phase, calls]
    exact own.caught id

omit [DecidableEq Key] in
theorem Advances.own (advances : Advances w w') (own : w.Own) : w'.Own := by
  cases advances with
  | stays => exact own
  | put id call call' there _ _ _ _ _ caught has =>
    exact own_put own id call' (has fun outcome released =>
      own.own id call outcome there (.inr (.inl released))) caught

theorem own_waitFunc (own : w.Own) (id : Nat) (call : Call Key Outcome) (inTick : Bool) :
    (w.waitFunc id call inTick).Own := by
  have put := own_put own id { call with phase := .calling inTick }
    (by rintro outcome (eq | eq | eq) <;> cases eq) fun eq => by cases eq
  exact put.of_calls rfl

theorem own_onReleaseLock (own : w.Own) (key : Key) : (w.onReleaseLock key).Own := by
  unfold onReleaseLock
  split
  · exact own.of_calls rfl
  · exact own.of_calls rfl
  · next next rest _ =>
    have queues : Own { w with
        locks := update w.locks key (some rest), ticks := w.ticks ++ [next] } :=
      own.of_calls rfl
    dsimp only
    split
    · exact queues
    · refine own_put queues next _ ?_ fun eq => by cases eq
      rintro outcome (eq | eq | eq) <;> cases eq

theorem own_step (action : Action Key Outcome) (own : w.Own)
    (asynchronous : Asynchronous w action) : (w.step action).Own := by
  cases action with
  | enterLockSection key =>
    unfold World.step
    dsimp only
    split
    · have put := own_put own w.count ⟨key, .waiting, none⟩
        (by rintro outcome (eq | eq | eq) <;> cases eq) fun eq => by cases eq
      exact put.of_calls rfl
    · have counted : Own { w with count := w.count + 1 } := own.of_calls rfl
      exact own_waitFunc counted _ _ _
  | returns id => exact (advances_returns w id).own own
  | throws id error =>
    rw [throws_of_asynchronous asynchronous]
    exact own
  | ends id outcome => exact (advances_ends w id outcome).own own
  | release id =>
    unfold World.step
    dsimp only
    split
    · next key outcome result there =>
      refine own_onReleaseLock (own_put own id _ ?_ fun eq => by cases eq) key
      rintro outcome' (eq | eq | eq) <;> cases eq
      exact own.own id ⟨key, .ended outcome, result⟩ outcome there (.inl rfl)
    · exact own
  | settle id => exact (advances_settle w id).own own
  | tick =>
    unfold World.step
    dsimp only
    split
    · exact own
    · next id rest _ =>
      split
      · exact own
      · have taken : Own { w with ticks := rest } := own.of_calls rfl
        exact own_waitFunc taken _ _ _

/-! ## What is left to do -/

omit [DecidableEq Key] in
theorem left_put (id id' : Nat) (call : Call Key Outcome) :
    (w.put id call).left id' = if id' = id then call.phase.left else w.left id' := by
  unfold left
  rw [phase_put]
  split <;> rfl

omit [DecidableEq Key] in
theorem left_of_phase {phase : Phase Outcome} (phased : w.phase id = some phase) :
    w.left id = phase.left := by
  rw [left, phased]
  rfl

omit [DecidableEq Key] in
theorem work_lt (count : w'.count = w.count) (most : ∀ id, w'.left id ≤ w.left id)
    (before : id < w.count) (less : w'.left id < w.left id) : w'.work < w.work := by
  unfold work
  rw [count]
  exact sum_lt_sum _ _ (fun id _ => most id) ⟨id, mem_range.mpr before, less⟩

section Working

variable {line : Key → List Nat} (lined : w.Lined line)

include lined

omit [DecidableEq Key] in
theorem work_put {id : Nat} {call call' : Call Key Outcome} (there : w.calls id = some call)
    (less : call'.phase.left < call.phase.left) : (w.put id call').work < w.work := by
  have was := left_of_phase (phase_of_calls there)
  have before : id < w.count := lined.lt_count fun none => by
    rw [there] at none
    cases none
  refine work_lt rfl (fun id' => ?_) before ?_
  · rw [left_put]
    split
    · next same =>
      rw [same, was]
      exact Nat.le_of_lt less
    · exact Nat.le_refl _
  · rw [left_put, if_pos rfl, was]
    exact less

omit [DecidableEq Key] in
theorem Advances.work {w' : World Key Outcome} (advances : Advances w w') :
    w' = w ∨ w'.work < w.work := by
  cases advances with
  | stays => exact .inl rfl
  | put id call call' there _ _ _ _ less _ _ => exact .inr (work_put lined there less)

theorem HandsOver.work {w' : World Key Outcome} {key : Key} {id : Nat} {rest : List Nat}
    {outcome : Outcome} (ended : w.phase id = some (.ended outcome))
    (isLine : line key = id :: rest) (hands : HandsOver w w' key id rest outcome) :
    w'.work < w.work := by
  have before : id < w.count := by
    have inLine : id ∈ line key := by
      rw [isLine]
      exact mem_cons_self
    exact lined.lt_count_of_mem inLine
  refine work_lt hands.count (fun id' => ?_) before ?_
  · unfold left
    rw [hands.phase]
    split
    · next same =>
      rw [same, ended]
      exact Nat.le_succ 1
    · split
      · next isNext =>
        rw [(next_waits lined isLine isNext).2]
        exact Nat.le_succ 5
      · exact Nat.le_refl _
  · unfold left
    rw [hands.phase, if_pos rfl, ended]
    exact Nat.lt_succ_self 1

theorem work_step (action : Action Key Outcome) (old : ∀ key, action ≠ .enterLockSection key) :
    w.step action = w ∨ (w.step action).work < w.work := by
  cases action with
  | enterLockSection key => exact absurd rfl (old key)
  | returns id => exact (advances_returns w id).work lined
  | throws id error =>
    unfold World.step
    dsimp only
    split
    · next key inTick result there =>
      right
      refine work_put lined there ?_
      cases inTick <;> exact Nat.succ_pos 3
    · exact .inl rfl
  | ends id outcome => exact (advances_ends w id outcome).work lined
  | release id =>
    obtain stays | ⟨key, outcome, rest, ended, isLine, hands⟩ := step_release lined id
    · exact .inl stays
    · exact .inr (hands.work lined ended isLine)
  | settle id => exact (advances_settle w id).work lined
  | tick =>
    obtain ⟨-, stays⟩ | ⟨id, rest, call, more, -, there, scheduled, -, step⟩ := step_tick lined
    · exact .inl stays
    · right
      have less : ({ call with phase := .calling true } : Call Key Outcome).phase.left <
          call.phase.left := by
        rw [scheduled]
        exact Nat.lt_succ_self 4
      rw [step]
      exact work_put lined there less

theorem work_due {action : Action Key Outcome} (due : w.Due action) :
    (w.step action).work < w.work := by
  cases action with
  | tick =>
    obtain ⟨id, scheduled⟩ := due
    refine (work_step lined .tick fun _ eq => by cases eq).resolve_left fun stays => ?_
    have queued := (lined.ticks id).mpr scheduled
    obtain ⟨none, -⟩ | ⟨id', rest, call, more, isTicks, -, -, -, step⟩ := step_tick lined
    · rw [none] at queued
      exact not_mem_nil queued
    · have shorter : rest = w.ticks := congrArg World.ticks (step.symm.trans stays)
      rw [isTicks] at shorter
      exact cons_ne_self _ _ shorter.symm
  | release id =>
    obtain ⟨outcome, ended⟩ := due
    obtain ⟨⟨key, phase, result⟩, there, rfl⟩ := Option.map_eq_some_iff.mp ended
    obtain ⟨rest, isLine, hands⟩ := handsOver_release lined id key result outcome there
    exact hands.work lined ended isLine
  | settle id =>
    obtain ⟨outcome, released⟩ := due
    obtain ⟨⟨key, phase, result⟩, there, rfl⟩ := Option.map_eq_some_iff.mp released
    have step : w.step (.settle id) = w.put id ⟨key, .settled outcome, result⟩ := by
      unfold World.step
      simp only [there]
    rw [step]
    exact work_put lined there (Nat.lt_succ_self 0)
  | _ => exact due.elim

/-! ## What the lines say -/

omit [DecidableEq Key] in
theorem line_eq_nil_iff (key : Key) :
    line key = [] ↔ ∀ id, w.keyOf id = some key → w.unreleased id = false := by
  rw [eq_nil_iff_forall_not_mem]
  refine forall_congr' fun id => ?_
  rw [lined.mem, not_and, Bool.not_eq_true]

omit [DecidableEq Key] in
theorem locks_eq_none_iff (key : Key) : w.locks key = none ↔ line key = [] := by
  rw [lined.locks]
  cases line key with
  | nil | cons id rest => simp [waiters]

omit [DecidableEq Key] in
theorem first_of_runs {id : Nat} {phase : Phase Outcome} (phased : w.phase id = some phase)
    (runs : phase.runs = true) : ∃ key rest, w.keyOf id = some key ∧ line key = id :: rest := by
  obtain ⟨call, there, isPhase⟩ := Option.map_eq_some_iff.mp phased
  have isKey := keyOf_of_calls there
  have isOpen : w.unreleased id = true := by
    rw [unreleased_of_phase phased]
    cases phase <;> first | rfl | cases runs
  have holds : w.phase id ≠ some .waiting := by
    rw [phased]
    rintro isWaiting
    cases isWaiting
    cases runs
  obtain ⟨rest, isLine⟩ := lined.first isKey isOpen holds
  exact ⟨call.key, rest, isKey, isLine⟩

omit [DecidableEq Key] in
theorem behind_of_waiting {id : Nat} (waiting : w.phase id = some .waiting) :
    ∃ key first rest, w.keyOf id = some key ∧ line key = first :: rest ∧ first < id ∧
      w.keyOf first = some key ∧ w.unreleased first = true ∧ w.phase first ≠ some .waiting := by
  obtain ⟨call, there, isPhase⟩ := Option.map_eq_some_iff.mp waiting
  have isKey := keyOf_of_calls there
  have inLine := (lined.mem call.key id).mpr ⟨isKey, unreleased_of_phase waiting⟩
  obtain ⟨first, rest, isLine⟩ := exists_cons_of_ne_nil (ne_nil_of_mem inLine)
  have holds := (lined.head call.key first rest isLine).1
  have sorted := lined.sorted call.key
  rw [isLine] at inLine sorted
  have inRest : id ∈ rest := by
    refine (mem_cons.mp inLine).resolve_left ?_
    rintro rfl
    exact holds waiting
  have isFirst := (lined.mem call.key first).mp (by
    rw [isLine]
    exact mem_cons_self)
  exact ⟨call.key, first, rest, isKey, isLine, (pairwise_cons.mp sorted).1 id inRest,
    isFirst.1, isFirst.2, holds⟩

end Working

theorem excludes_of_lined (lined : w.Lined line) (own : w.Own) :
    w.Excludes where
  exclusive := fun id id' phase phase' phased phased' runs runs' same => by
    obtain ⟨key, rest, isKey, isLine⟩ := first_of_runs lined phased runs
    obtain ⟨key', rest', isKey', isLine'⟩ := first_of_runs lined phased' runs'
    rw [isKey, isKey'] at same
    cases same
    rw [isLine] at isLine'
    exact (List.cons.inj isLine').1
  fifo := lined.fifo
  called := lined.called
  own := fun id call outcome there settled => own.own id call outcome there (.inr (.inr settled))
  apart := fun id waiting => by
    obtain ⟨key, first, rest, isKey, -, before, isKey', isOpen, holds⟩ :=
      behind_of_waiting lined waiting
    exact ⟨first, before, isKey'.trans isKey.symm, isOpen, holds⟩
  table := fun key => (locks_eq_none_iff lined key).trans (line_eq_nil_iff lined key)
  runs := fun key none => by
    rw [enterLockSection_of_empty lined ((line_eq_nil_iff lined key).mpr none)]
    exact (phase_put w.count w.count ⟨key, .calling false, Option.none⟩).trans (if_pos rfl)
  progress := fun action old moves => (work_step lined action old).resolve_left moves
  due := fun action due eq => by
    have left := work_due lined due
    rw [eq] at left
    exact Nat.lt_irrefl _ left
  settles := fun idle nothing => by
    have noWait : ∀ id, w.phase id ≠ some .waiting := by
      intro id waiting
      obtain ⟨key, first, rest, -, -, -, -, isOpen, holds⟩ := behind_of_waiting lined waiting
      obtain ⟨phase, phased, isOpen⟩ := (Option.any_eq_true ..).mp isOpen
      have notRuns := idle first phase phased
      cases phase with
      | waiting => exact holds phased
      | scheduled => exact nothing .tick ⟨first, phased⟩
      | calling inTick | running => cases notRuns
      | ended outcome => exact nothing (.release first) ⟨outcome, phased⟩
      | released outcome | settled outcome | uncaught => cases isOpen
    have settled : ∀ id phase, w.phase id = some phase → ∃ outcome, phase = .settled outcome := by
      intro id phase phased
      have notRuns := idle id phase phased
      cases phase with
      | waiting => exact absurd phased (noWait id)
      | scheduled => exact absurd ⟨id, phased⟩ (nothing .tick)
      | calling inTick | running => cases notRuns
      | ended outcome => exact absurd ⟨outcome, phased⟩ (nothing (.release id))
      | released outcome => exact absurd ⟨outcome, phased⟩ (nothing (.settle id))
      | settled outcome => exact ⟨outcome, rfl⟩
      | uncaught => exact absurd phased (own.caught id)
    refine ⟨fun key => ?_, settled⟩
    rw [locks_eq_none_iff lined, line_eq_nil_iff lined]
    intro id isKey
    obtain ⟨call, there, -⟩ := Option.map_eq_some_iff.mp isKey
    have phased := phase_of_calls there
    obtain ⟨outcome, isPhase⟩ := settled id call.phase phased
    rw [unreleased_of_phase phased, isPhase]
    rfl

/-- A first of the line that goes without a hand-over keeps the lock of its key. -/
theorem not_excludes_put (lined : w.Lined line) {rest : List Nat} (there : w.calls id = some call)
    (isLine : line call.key = id :: rest) (key : call'.key = call.key)
    (released : call'.phase.unreleased = false) : ¬ (w.put id call').Excludes := by
  intro excludes
  have keys := keyOf_put_same there key
  have others : ∀ id', w.keyOf id' = some call.key → (w.put id call').unreleased id' = true →
      id' ≠ id ∧ w.phase id' = some .waiting := by
    intro id' isKey isOpen
    rw [unreleased_put] at isOpen
    split at isOpen
    · rw [released] at isOpen
      cases isOpen
    · next other =>
      have inLine := (lined.mem call.key id').mpr ⟨isKey, isOpen⟩
      rw [isLine] at inLine
      have inRest := (mem_cons.mp inLine).resolve_left other
      exact ⟨other, (lined.head call.key id rest isLine).2 id' inRest⟩
  -- the key is locked, so that a call waits, and none of those before it is to hand over
  have locked : w.locks call.key ≠ none := by
    rw [lined.locks, isLine]
    exact fun eq => by cases eq
  refine locked ((excludes.table call.key).mpr fun id' isKey => ?_)
  rw [keys] at isKey
  by_contra isOpen
  obtain ⟨other, waiting⟩ := others id' isKey (Bool.eq_true_of_not_eq_false isOpen)
  have waiting' : (w.put id call').phase id' = some .waiting := by
    rw [phase_put, if_neg other, waiting]
  obtain ⟨first, -, same, isOpen', holds⟩ := excludes.apart id' waiting'
  rw [keys, keys, isKey] at same
  obtain ⟨other', firstWaits⟩ := others first same isOpen'
  exact holds (by rw [phase_put, if_neg other', firstWaits])

theorem not_excludes_throws (lined : w.Lined line) {inTick : Bool}
    (calling : w.phase id = some (.calling inTick)) (error : Outcome) :
    ¬ (w.step (.throws id error)).Excludes := by
  obtain ⟨key, rest, isKey, isLine⟩ := first_of_runs lined calling rfl
  obtain ⟨⟨key', phase, result⟩, there, rfl⟩ := Option.map_eq_some_iff.mp calling
  rw [keyOf_of_calls there] at isKey
  cases isKey
  unfold World.step
  simp only [there]
  refine not_excludes_put lined there isLine rfl ?_
  cases inTick <;> rfl

end World

theorem own_start : (start : World Key Outcome).Own where
  own := fun _ _ _ there => by cases there
  caught := fun _ there => by cases there

variable [DecidableEq Key]

/-- The mutex does what it is for at every point of a run exactly if no section of the run throws
instead of returning a promise. -/
theorem excludes_iff (run : List (Action Key Outcome)) :
    (∀ front, front <+: run → (Run.final World.step start front).Excludes) ↔
      Run.Allowed World.step Asynchronous start run := by
  have kept : ∀ (w : World Key Outcome) action, ((∃ line, w.Lined line) ∧ w.Own) →
      Asynchronous w action → (∃ line, (w.step action).Lined line) ∧ (w.step action).Own := by
    rintro w action ⟨lined, own⟩ now
    exact ⟨World.lined_step action lined now, World.own_step action own now⟩
  have shows : ∀ w : World Key Outcome, ((∃ line, w.Lined line) ∧ w.Own) → w.Excludes := by
    rintro w ⟨⟨line, lined⟩, own⟩
    exact World.excludes_of_lined lined own
  have needed : ∀ (w : World Key Outcome) action, ((∃ line, w.Lined line) ∧ w.Own) →
      (w.step action).Excludes → Asynchronous w action := by
    rintro w action ⟨⟨line, lined⟩, -⟩ excludes
    cases action with
    | throws id error =>
      intro inTick calling
      exact World.not_excludes_throws lined calling error excludes
    | _ => trivial
  exact (Run.allowed_iff_always_of_invariant kept shows needed start run
    ⟨⟨_, World.lined_start⟩, own_start⟩).symm

/-- A section throws while it is called, and the next one of its key waits for ever. -/
theorem thrown_locks : ¬ (Run.final World.step start
    ([.enterLockSection 7, .throws 0 5, .enterLockSection 7] : List (Action Nat Nat))).Excludes := by
  intro excludes
  obtain ⟨first, before, -, isOpen, -⟩ := excludes.apart 1 (by decide)
  obtain rfl : first = 0 := by omega
  revert isOpen
  decide

end Mutex
end AkashicSystem.ClusterMaster
