import AkashicSystem.Playlog.PlaylogStoreReads
import Mathlib.Algebra.Ring.Nat

/-!
# Puts that stay readable

A put checks for an archive and writes without the lock.  As long as it writes
before the archive is read, the archive holds what the active store holds, and
pruning and restoring lose nothing.
-/

set_option autoImplicit false

namespace AkashicSystem.Playlog

open List

variable {T S τ σ : Type}

namespace Task

def critical : Task T S τ → Bool
  | .archiveChecks | .archiveReadsTicks | .archiveReadsStartPoints _ | .archiveStores _ _ => true
  | .archiveFlags | .archiveUnlocks _ => true
  | .pruneChecksActive | .pruneChecksArchive | .pruneFlags | .pruneDeletes => true
  | .pruneUnlocks _ => true
  | .restoreChecks _ | .restoreReadsTicks _ | .restoreReadsStartPoints _ _ => true
  | .restoreStores _ _ _ | .restoreFlags _ | .restoreUnlocks _ _ => true
  | _ => false

def settled : Task T S τ → Bool
  | .putSettled _ _ | .archiveSettled _ | .pruneSettled _ | .readSettled _ _ => true
  | _ => false

/-- `createArchive` has read the list that the put adds to. -/
def hasRead : Put T S → Task T S τ → Bool
  | .tick _ _, .archiveReadsStartPoints _ => true
  | _, .archiveStores _ _ => true
  | _, .archiveFlags => true
  | _, _ => false

end Task

namespace Facade

def Resolved (w : Facade T S τ σ) (p : Put T S) : Prop := .putSettled p true ∈ w.tasks

def Settled (w : Facade T S τ σ) : Prop := ∀ task ∈ w.tasks, task.settled = true

instance (w : Facade T S τ σ) : Decidable w.Settled :=
  inferInstanceAs (Decidable (∀ task ∈ w.tasks, task.settled = true))

/-- A put writes before the play is archived and before `createArchive` has read
the list it adds to, a value that the archive keeps; and a play is pruned whose
archive has ticks without ignorable events. -/
def TimelyTask (f : Formats T S τ σ) (w : Facade T S τ σ) : Task T S τ → Prop
  | .putWrites p =>
    w.stores.hasArchived = false ∧ (∀ task ∈ w.tasks, task.hasRead p = false) ∧ p.Survives f
  | .pruneFlags =>
    ∃ archive, w.stores.archive = some archive ∧ archive.ticks.excludedIgnorable ≠ []
  | _ => True

def Timely (f : Formats T S τ σ) (w : Facade T S τ σ) : FacadeAction T S → Prop
  | .call _ => True
  | .step index =>
    match w.tasks[index]? with
    | none => True
    | some task => TimelyTask f w task

theorem timely_step {f : Formats T S τ σ} {w : Facade T S τ σ} {index : Nat} :
    Timely f w (.step index) ↔ ∀ task, w.tasks[index]? = some task → TimelyTask f w task := by
  unfold Timely
  cases there : w.tasks[index]? with
  | none =>
    simp only [there, true_iff]
    exact fun task eq => nomatch eq
  | some task =>
    simp only [there]
    constructor
    · intro timely task' eq
      cases eq
      exact timely
    · intro timely
      exact timely task rfl

section Decidable

variable [DecidableEq T] [DecidableEq S]

instance (f : Formats T S τ σ) (p : Put T S) : Decidable (p.Survives f) :=
  match p with
  | .tick tick _ =>
    inferInstanceAs (Decidable (f.tick.json (f.tick.readBack tick) = f.tick.readBack tick))
  | .startPoint startPoint =>
    inferInstanceAs (Decidable (f.startPoint.json (f.startPoint.readBack startPoint) =
      f.startPoint.readBack startPoint))

instance (f : Formats T S τ σ) (w : Facade T S τ σ) (task : Task T S τ) :
    Decidable (TimelyTask f w task) := by
  cases task with
  | putWrites p =>
    exact inferInstanceAs (Decidable (w.stores.hasArchived = false ∧
      (∀ task ∈ w.tasks, task.hasRead p = false) ∧ p.Survives f))
  | pruneFlags =>
    exact inferInstanceAs (Decidable (∃ archive, w.stores.archive = some archive ∧
      archive.ticks.excludedIgnorable ≠ []))
  | _ => exact isTrue trivial

instance (f : Formats T S τ σ) (w : Facade T S τ σ) (action : FacadeAction T S) :
    Decidable (Timely f w action) :=
  match action with
  | .call _ => isTrue trivial
  | .step index =>
    decidable_of_iff (∀ task ∈ w.tasks[index]?, TimelyTask f w task) timely_step.symm

end Decidable

end Facade

variable (f : Formats T S τ σ)

/-- An archive of all that was put, and that can be restored. -/
structure Full (resolved : Put T S → Prop) (a : Archive T S) : Prop where
  stable : a.Stable f
  holds : ∀ p, resolved p → a.Holds f p
  original : a.ticks.original ≠ []
  startPoints : a.startPoints ≠ []

structure Sound (resolved : Put T S → Prop) (s : Stores T S τ σ) : Prop where
  stable : s.active.Stable f
  unpruned : s.hasArchived = false → s.shouldGetFromArchive = false
  active : s.shouldGetFromArchive = false → ∀ p, resolved p → s.active.Holds f p
  archived : s.hasArchived = true → ∃ a, s.archive = some a ∧ Full f resolved a
  restorable : s.shouldGetFromArchive = true →
    s.hasRow = true ∧ ∃ a, s.archive = some a ∧ a.ticks.excludedIgnorable ≠ []

def At (resolved : Put T S → Prop) (s : Stores T S τ σ) : Task T S τ → Prop
  | .archiveReadsTicks => s.hasArchived = false
  | .archiveReadsStartPoints ticks =>
    s.hasArchived = false ∧ ticks.Stable f ∧
      ∀ tick ignorable, resolved (.tick tick ignorable) →
        f.tick.readBack tick ∈ ticks.form ignorable
  | .archiveStores ticks startPoints =>
    s.hasArchived = false ∧ Full f resolved ⟨ticks, startPoints⟩
  | .archiveFlags => s.hasArchived = false ∧ ∃ a, s.archive = some a ∧ Full f resolved a
  | .pruneChecksArchive => s.shouldGetFromArchive = false
  | .pruneFlags => s.shouldGetFromArchive = false ∧ s.hasArchived = true
  | .pruneDeletes => s.shouldGetFromArchive = true
  | .restoreReadsTicks _ => s.shouldGetFromArchive = true
  | .restoreReadsStartPoints _ ticks =>
    s.shouldGetFromArchive = true ∧ ∃ a, s.archive = some a ∧ ticks = a.getAllTicks f
  | .restoreStores _ ticks startPoints =>
    s.shouldGetFromArchive = true ∧
      ∃ a, s.archive = some a ∧ ticks = a.getAllTicks f ∧ startPoints = a.getAllStartPoints
  | .restoreFlags _ =>
    s.shouldGetFromArchive = true ∧ ∀ p, resolved p → s.active.Holds f p
  | _ => True

variable {f} {resolved : Put T S → Prop} {s s' : Stores T S τ σ}

theorem at_of_not_critical {task : Task T S τ} (outside : task.critical = false) :
    At f resolved s task := by
  cases task <;> trivial

/-- Where the play is pruned, its archive is full and can be restored. -/
theorem Sound.full (sound : Sound f resolved s) (pruned : s.shouldGetFromArchive = true) :
    ∃ a, s.archive = some a ∧ Full f resolved a ∧ a.ticks.excludedIgnorable ≠ [] := by
  have hasArchived : s.hasArchived = true := by
    by_contra unarchived
    have unpruned := sound.unpruned (Bool.eq_false_iff.mpr unarchived)
    rw [pruned] at unpruned
    cases unpruned
  obtain ⟨a, archive, full⟩ := sound.archived hasArchived
  obtain ⟨-, a', archive', excluded⟩ := sound.restorable pruned
  rw [archive] at archive'
  cases archive'
  exact ⟨a, archive, full, excluded⟩

theorem Full.getAllTicks_original {a : Archive T S} (full : Full f resolved a) :
    (a.getAllTicks f).original.isEmpty = false := by
  have perm : (a.getAllTicks f).original.Perm a.ticks.original := perm_insertionSort _ _
  rw [isEmpty_eq_false_iff]
  intro empty
  rw [empty] at perm
  exact full.original (nil_perm.mp perm)

theorem Full.startPoints_isEmpty {a : Archive T S} (full : Full f resolved a) :
    a.getAllStartPoints.isEmpty = false := isEmpty_eq_false_iff.mpr full.startPoints

/-! ## Steps under the lock -/

theorem Sound.setLocked (sound : Sound f resolved s) (locked : Bool) :
    Sound f resolved { s with locked } :=
  ⟨sound.stable, sound.unpruned, sound.active, sound.archived, sound.restorable⟩

theorem archive_step (lawful : f.Lawful) (sound : Sound f resolved s) (ticks : Ticks T)
    (here : At f resolved s (.archiveReadsStartPoints ticks)) (task : Task T S τ)
    (next : s.next f (.archiveReadsStartPoints ticks) = some (s', task)) :
    Sound f resolved s' ∧ At f resolved s' task := by
  obtain ⟨unarchived, stableTicks, mem⟩ := here
  cases next
  refine ⟨sound, ?_⟩
  by_cases empty :
      (ticks.original.isEmpty || (s.active.getAllStartPoints f).isEmpty) = true
  · rw [if_pos empty]
    trivial
  · rw [if_neg empty]
    rw [Bool.or_eq_true, not_or, List.isEmpty_iff, List.isEmpty_iff] at empty
    refine ⟨unarchived, ⟨stableTicks, sound.stable.2.2.sorted⟩, ?_, empty.1, empty.2⟩
    intro p done
    cases p with
    | tick tick ignorable => exact mem tick ignorable done
    | startPoint startPoint =>
      refine (ActiveStore.mem_getAllStartPoints lawful sound.stable startPoint).mpr ?_
      exact sound.active (sound.unpruned unarchived) _ done

theorem restoreReadsStartPoints_step (sound : Sound f resolved s) (query : Query) (ticks : Ticks T)
    (here : At f resolved s (.restoreReadsStartPoints query ticks)) :
    ∃ a : Archive T S, s.next f (.restoreReadsStartPoints query ticks) =
      some (s, .restoreStores query ticks a.getAllStartPoints) ∧
      At f resolved s (.restoreStores query ticks a.getAllStartPoints) := by
  obtain ⟨pruned, a, archive, rfl⟩ := here
  obtain ⟨a', archive', full, -⟩ := sound.full pruned
  rw [archive] at archive'
  cases archive'
  refine ⟨a, ?_, pruned, a, archive, rfl, rfl⟩
  rw [Stores.next, archive]
  dsimp only
  rw [full.getAllTicks_original, full.startPoints_isEmpty]
  rfl

theorem restoreStores_step (lawful : f.Lawful) (sound : Sound f resolved s) (query : Query)
    (ticks : Ticks T) (startPoints : List S)
    (here : At f resolved s (.restoreStores query ticks startPoints)) :
    ∃ active, s.next f (.restoreStores query ticks startPoints) =
      some ({ s with active }, .restoreFlags query) ∧ active.Stable f ∧
      ∀ p, resolved p → active.Holds f p := by
  obtain ⟨pruned, a, archive, rfl, rfl⟩ := here
  obtain ⟨a', archive', full, excluded⟩ := sound.full pruned
  rw [archive] at archive'
  cases archive'
  obtain ⟨active, stored, stable, holds⟩ := ActiveStore.store_archive lawful full.stable
    full.original excluded full.startPoints
  refine ⟨active, ?_, stable, fun p done => holds p (full.holds p done)⟩
  rw [Stores.next, stored]
  rfl

/-- A step of the task that holds the lock keeps the invariant. -/
theorem critical_step (lawful : f.Lawful) (sound : Sound f resolved s) {task task' : Task T S τ}
    (critical : task.critical = true) (here : At f resolved s task) (row : s.hasRow = true)
    (prunes : task = .pruneFlags → ∃ a, s.archive = some a ∧ a.ticks.excludedIgnorable ≠ [])
    (next : s.next f task = some (s', task')) : Sound f resolved s' ∧ At f resolved s' task' := by
  cases task with
  | archiveChecks =>
    cases next
    refine ⟨sound, ?_⟩
    by_cases archived : s.hasArchived = true
    · rw [if_pos archived]
      trivial
    · rw [if_neg archived]
      exact Bool.eq_false_iff.mpr archived
  | archiveReadsTicks =>
    cases next
    refine ⟨sound, here, ActiveStore.getAllTicks_stable sound.stable, ?_⟩
    intro tick ignorable done
    refine (ActiveStore.mem_getAllTicks lawful sound.stable tick ignorable).mpr ?_
    exact sound.active (sound.unpruned here) _ done
  | archiveReadsStartPoints ticks => exact archive_step lawful sound ticks here task' next
  | archiveStores ticks startPoints =>
    obtain ⟨unarchived, full⟩ := here
    cases next
    have unpruned := sound.unpruned unarchived
    constructor
    · refine ⟨sound.stable, sound.unpruned, sound.active, fun archived => ?_, fun pruned => ?_⟩
      · exact absurd (unarchived.symm.trans archived) Bool.false_ne_true
      · exact absurd (unpruned.symm.trans pruned) Bool.false_ne_true
    · refine ⟨unarchived, _, rfl, ?_⟩
      rw [Archive.store_stable full.stable]
      exact full
  | archiveFlags =>
    obtain ⟨unarchived, a, archive, full⟩ := here
    cases next
    have unpruned := sound.unpruned unarchived
    refine ⟨⟨sound.stable, fun _ => unpruned, sound.active, fun _ => ⟨a, archive, full⟩, ?_⟩,
      trivial⟩
    intro pruned
    exact absurd (unpruned.symm.trans pruned) Bool.false_ne_true
  | archiveUnlocks =>
    cases next
    exact ⟨sound.setLocked false, trivial⟩
  | pruneChecksActive =>
    cases next
    refine ⟨sound, ?_⟩
    by_cases pruned : s.shouldGetFromArchive = true
    · rw [if_pos pruned]
      trivial
    · rw [if_neg pruned]
      exact Bool.eq_false_iff.mpr pruned
  | pruneChecksArchive =>
    cases next
    refine ⟨sound, ?_⟩
    by_cases archived : s.hasArchived = true
    · rw [if_pos archived]
      exact ⟨here, archived⟩
    · rw [if_neg archived]
      trivial
  | pruneFlags =>
    obtain ⟨-, archived⟩ := here
    cases next
    refine ⟨⟨sound.stable, fun unarchived => ?_, fun unpruned => ?_, sound.archived, ?_⟩, rfl⟩
    · exact absurd (unarchived.symm.trans archived) Bool.false_ne_true
    · cases unpruned
    · exact fun _ => ⟨row, prunes rfl⟩
  | pruneDeletes =>
    cases next
    refine ⟨⟨ActiveStore.stable_empty, sound.unpruned, fun unpruned => ?_, sound.archived,
      sound.restorable⟩, trivial⟩
    exact absurd (unpruned.symm.trans here) Bool.false_ne_true
  | pruneUnlocks =>
    cases next
    exact ⟨sound.setLocked false, trivial⟩
  | restoreChecks query =>
    cases next
    refine ⟨sound, ?_⟩
    by_cases pruned : s.shouldGetFromArchive = true
    · rw [if_pos pruned]
      exact pruned
    · rw [if_neg pruned]
      trivial
  | restoreReadsTicks query =>
    obtain ⟨a, archive, -, -⟩ := sound.full here
    rw [Stores.next, archive] at next
    cases next
    exact ⟨sound, here, a, archive, rfl⟩
  | restoreReadsStartPoints query ticks =>
    obtain ⟨a, eq, at'⟩ := restoreReadsStartPoints_step sound query ticks here
    rw [eq] at next
    cases next
    exact ⟨sound, at'⟩
  | restoreStores query ticks startPoints =>
    obtain ⟨active, eq, stable, holds⟩ :=
      restoreStores_step lawful sound query ticks startPoints here
    rw [eq] at next
    cases next
    exact ⟨⟨stable, sound.unpruned, fun _ => holds, sound.archived, sound.restorable⟩,
      here.1, holds⟩
  | restoreFlags query =>
    cases next
    refine ⟨⟨sound.stable, fun _ => rfl, fun _ => here.2, sound.archived, fun pruned => ?_⟩,
      trivial⟩
    cases pruned
  | restoreUnlocks query resolved =>
    cases next
    refine ⟨sound.setLocked false, at_of_not_critical ?_⟩
    cases resolved <;> rfl
  | _ => cases critical

theorem critical_lock {task task' : Task T S τ} (critical : task.critical = true)
    (locked : s.locked = true) (next : s.next f task = some (s', task')) :
    s'.locked = task'.critical ∧ s'.hasRow = s.hasRow ∧ ∀ p, task' ≠ .putSettled p true := by
  cases task <;> try cases critical
  all_goals
    simp only [Stores.next] at next
    try split at next
    all_goals
      cases next
      try split
      all_goals exact ⟨by first | exact locked | rfl, rfl, fun p eq => nomatch eq⟩

namespace Facade

/-- The lock is held by one task at most, and by one if it is taken. -/
structure Exclusive (w : Facade T S τ σ) : Prop where
  alone : ∀ (index index' : Nat) task task', w.tasks[index]? = some task →
    w.tasks[index']? = some task' → task.critical = true → task'.critical = true → index = index'
  locked : ∀ (index : Nat) task, w.tasks[index]? = some task → task.critical = true →
    w.stores.locked = true ∧ w.stores.hasRow = true
  holder : w.stores.locked = true →
    ∃ (index : Nat) (task : Task T S τ), w.tasks[index]? = some task ∧ task.critical = true

variable (f) in
structure Inv (w : Facade T S τ σ) : Prop where
  sound : Sound f w.Resolved w.stores
  here : ∀ (index : Nat) task, w.tasks[index]? = some task → At f w.Resolved w.stores task
  exclusive : Exclusive w

theorem inv_new (hasRow : Bool) : Inv f (new hasRow : Facade T S τ σ) where
  sound := by
    refine ⟨ActiveStore.stable_empty, fun _ => rfl, fun _ p done => ?_, fun archived => ?_,
      fun pruned => ?_⟩
    · exact (not_mem_nil done).elim
    · cases archived
    · cases pruned
  here := fun _ _ there => nomatch there
  exclusive := {
    alone := fun _ _ _ _ there => nomatch there
    locked := fun _ _ there => nomatch there
    holder := fun locked => nomatch locked
  }

variable {w : Facade T S τ σ}

theorem getElem?_set_eq {α : Type} (l : List α) (i j : Nat) (a b : α) (before : l[i]? = some b) :
    (l.set i a)[j]? = if j = i then some a else l[j]? := by
  have bound : i < l.length := (List.getElem?_eq_some_iff.mp before).1
  rw [List.getElem?_set]
  by_cases same : i = j
  · subst same
    rw [if_pos rfl, if_pos rfl, if_pos bound]
  · rw [if_neg same, if_neg (Ne.symm same)]

section GoesOn

variable {index : Nat} {task : Task T S τ} (there : w.tasks[index]? = some task)
  (stores : Stores T S τ σ) (task' : Task T S τ)

include there

theorem task_of_set (i : Nat) (t : Task T S τ) (ti : (w.tasks.set index task')[i]? = some t) :
    i = index ∧ t = task' ∨ i ≠ index ∧ w.tasks[i]? = some t := by
  rw [getElem?_set_eq _ _ _ _ _ there] at ti
  by_cases eq : i = index
  · rw [if_pos eq] at ti
    exact .inl ⟨eq, (Option.some.inj ti).symm⟩
  · rw [if_neg eq] at ti
    exact .inr ⟨eq, ti⟩

theorem resolved_set (unsettled : ∀ p, task ≠ .putSettled p true) (p : Put T S) :
    Resolved ⟨stores, w.tasks.set index task'⟩ p ↔ Resolved w p ∨ task' = .putSettled p true := by
  unfold Resolved
  rw [mem_iff_getElem?, mem_iff_getElem?]
  constructor
  · rintro ⟨i, ti⟩
    rcases task_of_set there task' i _ ti with ⟨-, eq⟩ | ⟨-, old⟩
    · exact .inr eq.symm
    · exact .inl ⟨i, old⟩
  · rintro (⟨i, ti⟩ | rfl)
    · refine ⟨i, ?_⟩
      rw [getElem?_set_eq _ _ _ _ _ there]
      by_cases same : i = index
      · subst same
        rw [there] at ti
        exact absurd (Option.some.inj ti) (unsettled p)
      · rw [if_neg same]
        exact ti
    · refine ⟨index, ?_⟩
      rw [getElem?_set_eq _ _ _ _ _ there, if_pos rfl]

theorem resolved_set_eq (unsettled : ∀ p, task ≠ .putSettled p true)
    (unsettled' : ∀ p, task' ≠ .putSettled p true) :
    Resolved ⟨stores, w.tasks.set index task'⟩ = w.Resolved := by
  funext p
  refine propext ((resolved_set there stores task' unsettled p).trans ⟨fun done => ?_, .inl⟩)
  rcases done with done | done
  · exact done
  · exact absurd done (unsettled' p)

theorem exclusive_outside (exclusive : Exclusive w) (outside : task.critical = false)
    (outside' : task'.critical = false) (locked : stores.locked = w.stores.locked)
    (row : stores.hasRow = w.stores.hasRow) : Exclusive ⟨stores, w.tasks.set index task'⟩ := by
  have old : ∀ (i : Nat) (t : Task T S τ), (w.tasks.set index task')[i]? = some t →
      t.critical = true → w.tasks[i]? = some t := by
    intro i t ti ci
    rcases task_of_set there task' i t ti with ⟨-, rfl⟩ | ⟨-, ti⟩
    · rw [outside'] at ci
      cases ci
    · exact ti
  constructor
  · intro i j t t' ti tj ci cj
    exact exclusive.alone i j t t' (old i t ti ci) (old j t' tj cj) ci cj
  · intro i t ti ci
    rw [locked, row]
    exact exclusive.locked i t (old i t ti ci) ci
  · intro taken
    obtain ⟨i, t, ti, ci⟩ := exclusive.holder (locked.symm.trans taken)
    refine ⟨i, t, ?_, ci⟩
    rw [getElem?_set_eq _ _ _ _ _ there]
    by_cases eq : i = index
    · subst eq
      rw [there] at ti
      cases ti
      rw [outside] at ci
      cases ci
    · rw [if_neg eq]
      exact ti

theorem exclusive_inside
    (others : ∀ (i : Nat) (t : Task T S τ), i ≠ index → w.tasks[i]? = some t → t.critical = false)
    (locked : stores.locked = task'.critical) (row : stores.hasRow = true) :
    Exclusive ⟨stores, w.tasks.set index task'⟩ := by
  have only : ∀ (i : Nat) (t : Task T S τ), (w.tasks.set index task')[i]? = some t →
      t.critical = true → i = index ∧ t = task' := by
    intro i t ti ci
    rcases task_of_set there task' i t ti with eq | ⟨other, ti⟩
    · exact eq
    · rw [others i t other ti] at ci
      cases ci
  constructor
  · intro i j t t' ti tj ci cj
    exact (only i t ti ci).1.trans (only j t' tj cj).1.symm
  · intro i t ti ci
    obtain ⟨-, rfl⟩ := only i t ti ci
    exact ⟨locked.trans ci, row⟩
  · intro taken
    refine ⟨index, task', ?_, locked.symm.trans taken⟩
    rw [getElem?_set_eq _ _ _ _ _ there, if_pos rfl]

theorem inv_quiet (inv : Inv f w) (unsettled : ∀ p, task ≠ .putSettled p true)
    (outside : task.critical = false) (outside' : task'.critical = false)
    (unsettled' : ∀ p, task' ≠ .putSettled p true) : Inv f ⟨w.stores, w.tasks.set index task'⟩ := by
  have same := resolved_set_eq there w.stores task' unsettled unsettled'
  constructor
  · rw [same]
    exact inv.sound
  · intro i t ti
    rw [same]
    rcases task_of_set there task' i t ti with ⟨-, rfl⟩ | ⟨-, ti⟩
    · exact at_of_not_critical outside'
    · exact inv.here i t ti
  · exact exclusive_outside there w.stores task' inv.exclusive outside outside' rfl rfl

theorem inv_lock (inv : Inv f w) (unsettled : ∀ p, task ≠ .putSettled p true)
    (row : w.stores.hasRow = true) (unlocked : w.stores.locked = false)
    (critical' : task'.critical = true)
    (here : ∀ resolved (s : Stores T S τ σ), At f resolved s task')
    (unsettled' : ∀ p, task' ≠ .putSettled p true) :
    Inv f ⟨{ w.stores with locked := true }, w.tasks.set index task'⟩ := by
  have same := resolved_set_eq there { w.stores with locked := true } task' unsettled unsettled'
  have noCritical : ∀ (i : Nat) (t : Task T S τ), w.tasks[i]? = some t → t.critical = false := by
    intro i t ti
    by_contra critical
    have locked := (inv.exclusive.locked i t ti (Bool.not_eq_false _ ▸ critical)).1
    rw [unlocked] at locked
    cases locked
  constructor
  · rw [same]
    exact inv.sound.setLocked true
  · intro i t ti
    rcases task_of_set there task' i t ti with ⟨-, rfl⟩ | ⟨-, ti⟩
    · exact here _ _
    · exact at_of_not_critical (noCritical i t ti)
  · exact exclusive_inside there _ task' (fun i t _ => noCritical i t) critical'.symm row

theorem inv_critical (lawful : f.Lawful) (inv : Inv f w) (critical : task.critical = true)
    (prunes : task = .pruneFlags → ∃ a, w.stores.archive = some a ∧ a.ticks.excludedIgnorable ≠ [])
    (next : w.stores.next f task = some (stores, task')) :
    Inv f ⟨stores, w.tasks.set index task'⟩ := by
  obtain ⟨locked, row⟩ := inv.exclusive.locked index task there critical
  obtain ⟨sound, here⟩ := critical_step lawful inv.sound critical (inv.here index task there) row
    prunes next
  obtain ⟨locked', row', unsettled'⟩ := critical_lock critical locked next
  have unsettled : ∀ p, task ≠ .putSettled p true := by
    rintro p rfl
    cases critical
  have others : ∀ (i : Nat) (t : Task T S τ), i ≠ index → w.tasks[i]? = some t →
      t.critical = false := by
    intro i t other ti
    by_contra critical'
    exact other (inv.exclusive.alone i index t task ti there (Bool.not_eq_false _ ▸ critical')
      critical)
  have same := resolved_set_eq there stores task' unsettled unsettled'
  constructor
  · rw [same]
    exact sound
  · intro i t ti
    rw [same]
    rcases task_of_set there task' i t ti with ⟨-, rfl⟩ | ⟨other, ti⟩
    · exact here
    · exact at_of_not_critical (others i t other ti)
  · exact exclusive_inside there stores task' others locked' (row'.trans row)

end GoesOn

theorem at_write {resolved resolved' : Put T S → Prop} {s : Stores T S τ σ} {p : Put T S}
    (active : ActiveStore τ σ) (unarchived : s.hasArchived = false)
    (unpruned : s.shouldGetFromArchive = false)
    (grown : ∀ q, resolved' q → resolved q ∨ q = p) (task : Task T S τ)
    (unread : task.hasRead p = false) (here : At f resolved s task) :
    At f resolved' { s with active } task := by
  cases task with
  | archiveReadsStartPoints ticks =>
    obtain ⟨-, stable, mem⟩ := here
    refine ⟨unarchived, stable, fun tick ignorable done => ?_⟩
    rcases grown _ done with old | rfl
    · exact mem tick ignorable old
    · cases unread
  | archiveStores | archiveFlags => cases p <;> cases unread
  | pruneFlags => exact absurd (unarchived.symm.trans here.2) Bool.false_ne_true
  | pruneDeletes | restoreReadsTicks => exact absurd (unpruned.symm.trans here) Bool.false_ne_true
  | restoreReadsStartPoints | restoreStores | restoreFlags =>
    exact absurd (unpruned.symm.trans here.1) Bool.false_ne_true
  | _ => exact here

theorem inv_write (lawful : f.Lawful) (inv : Inv f w) {index : Nat} {p : Put T S}
    (there : w.tasks[index]? = some (.putWrites p)) (unarchived : w.stores.hasArchived = false)
    (unread : ∀ task ∈ w.tasks, task.hasRead p = false) (survives : p.Survives f)
    {active : ActiveStore τ σ} (put : w.stores.active.put f p = some active) :
    Inv f ⟨{ w.stores with active }, w.tasks.set index (.putSettled p true)⟩ := by
  obtain ⟨stable, holds, kept⟩ := ActiveStore.put_stable lawful inv.sound.stable p survives put
  have unpruned := inv.sound.unpruned unarchived
  have resolved := resolved_set there { w.stores with active } (.putSettled p true)
    (fun _ eq => nomatch eq)
  have grown : ∀ q, Resolved ⟨{ w.stores with active }, w.tasks.set index (.putSettled p true)⟩ q →
      w.Resolved q ∨ q = p := by
    intro q done
    rcases (resolved q).mp done with old | eq
    · exact .inl old
    · cases eq
      exact .inr rfl
  constructor
  · refine ⟨stable, fun _ => unpruned, fun _ q done => ?_, fun archived => ?_, fun pruned => ?_⟩
    · rcases grown q done with before | rfl
      · exact kept q (inv.sound.active unpruned q before)
      · exact holds
    · exact absurd (unarchived.symm.trans archived) Bool.false_ne_true
    · exact absurd (unpruned.symm.trans pruned) Bool.false_ne_true
  · intro i t ti
    rcases task_of_set there _ i t ti with ⟨-, rfl⟩ | ⟨-, before⟩
    · trivial
    · exact at_write active unarchived unpruned grown t (unread t (mem_of_getElem? before))
        (inv.here i t before)
  · exact exclusive_outside there _ _ inv.exclusive rfl rfl rfl rfl

theorem inv_call (inv : Inv f w) (call : FacadeCall T S) :
    Inv f { w with tasks := w.tasks ++ [call.task] } := by
  have outside : (call.task : Task T S τ).critical = false := by cases call <;> rfl
  have unsettled : ∀ p, (call.task : Task T S τ) ≠ .putSettled p true := by
    intro p eq
    cases call <;> cases eq
  have same : Resolved { w with tasks := w.tasks ++ [call.task] } = w.Resolved := by
    funext p
    refine propext ⟨fun done => ?_, fun done => mem_append_left _ done⟩
    rcases mem_append.mp done with old | new
    · exact old
    · exact absurd (mem_singleton.mp new).symm (unsettled p)
  have old : ∀ (i : Nat) (t : Task T S τ), (w.tasks ++ [call.task])[i]? = some t →
      t.critical = true → w.tasks[i]? = some t := by
    intro i t ti ci
    rw [List.getElem?_append] at ti
    by_cases early : i < w.tasks.length
    · rw [if_pos early] at ti
      exact ti
    · rw [if_neg early] at ti
      have mem := mem_singleton.mp (mem_of_getElem? ti)
      rw [mem, outside] at ci
      cases ci
  constructor
  · rw [same]
    exact inv.sound
  · intro i t ti
    rw [same]
    cases critical : t.critical with
    | false => exact at_of_not_critical critical
    | true => exact inv.here i t (old i t ti critical)
  · constructor
    · intro i j t t' ti tj ci cj
      exact inv.exclusive.alone i j t t' (old i t ti ci) (old j t' tj cj) ci cj
    · intro i t ti ci
      exact inv.exclusive.locked i t (old i t ti ci) ci
    · intro locked
      obtain ⟨i, t, ti, ci⟩ := inv.exclusive.holder locked
      refine ⟨i, t, ?_, ci⟩
      rw [List.getElem?_append_left (List.getElem?_eq_some_iff.mp ti).1]
      exact ti

variable {task' task : Task T S τ}

theorem lock_cases {s s' : Stores T S τ σ} {inLock thrown : Task T S τ}
    (next : s.lock inLock thrown = some (s', task')) : s' = s ∧ task' = thrown ∧ s.hasRow = false ∨
      s' = { s with locked := true } ∧ task' = inLock ∧ s.hasRow = true ∧ s.locked = false := by
  unfold Stores.lock at next
  cases row : s.hasRow with
  | false =>
    rw [row] at next
    cases next
    exact .inl ⟨rfl, rfl, rfl⟩
  | true =>
    cases locked : s.locked with
    | true =>
      rw [row, locked] at next
      cases next
    | false =>
      rw [row, locked] at next
      cases next
      exact .inr ⟨rfl, rfl, rfl, rfl⟩

theorem inv_takesLock (inv : Inv f w) {index : Nat} {inLock thrown : Task T S τ}
    {stores : Stores T S τ σ} (there : w.tasks[index]? = some task)
    (unsettled : ∀ p, task ≠ .putSettled p true) (outside : task.critical = false)
    (next : w.stores.lock inLock thrown = some (stores, task'))
    (outsideThrown : thrown.critical = false) (unsettledThrown : ∀ p, thrown ≠ .putSettled p true)
    (critical : inLock.critical = true)
    (here : ∀ resolved (s : Stores T S τ σ), At f resolved s inLock)
    (unsettledLock : ∀ p, inLock ≠ .putSettled p true) :
    Inv f ⟨stores, w.tasks.set index task'⟩ := by
  rcases lock_cases next with ⟨rfl, rfl, -⟩ | ⟨rfl, rfl, row, unlocked⟩
  · exact inv_quiet there _ inv unsettled outside outsideThrown unsettledThrown
  · exact inv_lock there _ inv unsettled row unlocked critical here unsettledLock

theorem inv_outside (lawful : f.Lawful) (inv : Inv f w) {index : Nat} {stores : Stores T S τ σ}
    (there : w.tasks[index]? = some task) (outside : task.critical = false)
    (timely : TimelyTask f w task) (next : w.stores.next f task = some (stores, task')) :
    Inv f ⟨stores, w.tasks.set index task'⟩ := by
  cases task with
  | putChecks p =>
    cases next
    refine inv_quiet there _ inv (fun _ eq => nomatch eq) rfl ?_ ?_
    · split <;> rfl
    · intro q eq
      split at eq <;> cases eq
  | putWrites p =>
    obtain ⟨unarchived, unread, survives⟩ := timely
    rw [Stores.next] at next
    cases put : w.stores.active.put f p with
    | none =>
      rw [put] at next
      cases next
      refine inv_quiet there _ inv (fun _ eq => nomatch eq) rfl rfl ?_
      exact fun _ eq => nomatch eq
    | some active =>
      rw [put] at next
      cases next
      exact inv_write lawful inv there unarchived unread survives put
  | archiveLocks | pruneLocks | restoreLocks query =>
    exact inv_takesLock inv there (fun _ eq => nomatch eq) rfl next rfl
      (fun _ eq => nomatch eq) rfl (fun _ _ => trivial) (fun _ eq => nomatch eq)
  | readChecks query =>
    cases next
    refine inv_quiet there _ inv (fun _ eq => nomatch eq) rfl ?_ ?_
    · split <;> rfl
    · intro q eq
      split at eq <;> cases eq
  | readReads query =>
    cases next
    refine inv_quiet there _ inv (fun _ eq => nomatch eq) rfl rfl ?_
    exact fun _ eq => nomatch eq
  | putSettled | archiveSettled | pruneSettled | readSettled => cases next
  | _ => cases outside

variable (f) in
theorem step_cases (w : Facade T S τ σ) (index : Nat) :
    step f w (.step index) = w ∨ ∃ task stores task', w.tasks[index]? = some task ∧
      w.stores.next f task = some (stores, task') ∧
      step f w (.step index) = ⟨stores, w.tasks.set index task'⟩ := by
  cases there : w.tasks[index]? with
  | none =>
    left
    simp only [step, there]
  | some task =>
    cases next : w.stores.next f task with
    | none =>
      left
      simp only [step, there, next]
    | some result =>
      right
      refine ⟨task, result.1, result.2, rfl, next, ?_⟩
      simp only [step, there, next]

theorem inv_step (lawful : f.Lawful) (w : Facade T S τ σ) (action : FacadeAction T S)
    (inv : Inv f w) (timely : Timely f w action) : Inv f (step f w action) := by
  cases action with
  | call call => exact inv_call inv call
  | step index =>
    rcases step_cases f w index with same | ⟨task, stores, task', there, next, eq⟩
    · rw [same]
      exact inv
    · rw [eq]
      have timelyTask := timely_step.mp timely task there
      cases critical : task.critical with
      | true =>
        refine inv_critical there stores task' lawful inv critical ?_ next
        rintro rfl
        exact timelyTask
      | false => exact inv_outside lawful inv there critical timelyTask next

/-! ## Reads after everything has settled -/

/-- The call is a read, or an earlier call goes on. -/
def IsRead : FacadeAction T S → Prop
  | .call (.read _) => True
  | .call _ => False
  | .step _ => True

variable (f) in
def ReadAt (resolved : Put T S → Prop) (s : Stores T S τ σ) : Task T S τ → Prop
  | .readChecks _ | .restoreChecks _ | .restoreReadsTicks _ => True
  | .restoreReadsStartPoints _ _ | .restoreStores _ _ _ | .restoreFlags _ => True
  | .restoreLocks _ => s.hasRow = true
  | .restoreUnlocks _ stored => stored = true ∧ s.shouldGetFromArchive = false
  | .readReads _ => s.shouldGetFromArchive = false
  | .readSettled query answer =>
    ∃ a, answer = some a ∧ ∀ p, resolved p → ActiveStore.Shows f p query a
  | _ => False

theorem ReadAt.mono {resolved : Put T S → Prop} {s s' : Stores T S τ σ}
    (reads : ReadAt f resolved s task) (row : s'.hasRow = s.hasRow)
    (unpruned : s.shouldGetFromArchive = false → s'.shouldGetFromArchive = false) :
    ReadAt f resolved s' task := by
  cases task with
  | restoreLocks => exact row.trans reads
  | restoreUnlocks => exact ⟨reads.1, unpruned reads.2⟩
  | readReads => exact unpruned reads
  | _ => exact reads

theorem read_step (lawful : f.Lawful) {resolved : Put T S → Prop} {s s' : Stores T S τ σ}
    (sound : Sound f resolved s) (here : At f resolved s task) (reads : ReadAt f resolved s task)
    (next : s.next f task = some (s', task')) : ReadAt f resolved s' task' ∧ s'.hasRow = s.hasRow ∧
      (s.shouldGetFromArchive = false → s'.shouldGetFromArchive = false) := by
  cases task with
  | readChecks query =>
    cases next
    refine ⟨?_, rfl, id⟩
    by_cases pruned : s.shouldGetFromArchive = true
    · rw [if_pos pruned]
      exact (sound.restorable pruned).1
    · rw [if_neg pruned]
      exact Bool.eq_false_iff.mpr pruned
  | restoreLocks query =>
    rcases lock_cases next with ⟨-, -, noRow⟩ | ⟨rfl, rfl, -, -⟩
    · exact absurd (noRow.symm.trans reads) Bool.false_ne_true
    · exact ⟨trivial, rfl, id⟩
  | restoreChecks query =>
    cases next
    refine ⟨?_, rfl, id⟩
    by_cases pruned : s.shouldGetFromArchive = true
    · rw [if_pos pruned]
      trivial
    · rw [if_neg pruned]
      exact ⟨rfl, Bool.eq_false_iff.mpr pruned⟩
  | restoreReadsTicks query =>
    obtain ⟨a, archive, -, -⟩ := sound.full here
    rw [Stores.next, archive] at next
    cases next
    exact ⟨trivial, rfl, id⟩
  | restoreReadsStartPoints query ticks =>
    obtain ⟨a, eq, -⟩ := restoreReadsStartPoints_step sound query ticks here
    rw [eq] at next
    cases next
    exact ⟨trivial, rfl, id⟩
  | restoreStores query ticks startPoints =>
    obtain ⟨active, eq, -, -⟩ := restoreStores_step lawful sound query ticks startPoints here
    rw [eq] at next
    cases next
    exact ⟨trivial, rfl, id⟩
  | restoreFlags query =>
    cases next
    exact ⟨⟨rfl, rfl⟩, rfl, fun _ => rfl⟩
  | restoreUnlocks query stored =>
    obtain ⟨rfl, unpruned⟩ := reads
    cases next
    exact ⟨unpruned, rfl, id⟩
  | readReads query =>
    cases next
    refine ⟨⟨_, rfl, fun p done => ?_⟩, rfl, id⟩
    exact ActiveStore.read_shows sound.stable p (sound.active reads p done) query
  | readSettled => cases next
  | _ => exact reads.elim

theorem next_settled {s : Stores T S τ σ} (settled : task.settled = true) :
    s.next f task = none := by
  cases task <;> first | rfl | cases settled

variable (f) in
structure Reading (resolved : Put T S → Prop) (count : Nat) (w : Facade T S τ σ) : Prop where
  inv : Inv f w
  same : w.Resolved = resolved
  long : count ≤ w.tasks.length
  old : ∀ (index : Nat) task, index < count → w.tasks[index]? = some task → task.settled = true
  reads : ∀ (index : Nat) task, count ≤ index → w.tasks[index]? = some task →
    ReadAt f resolved w.stores task

section

variable {resolved : Put T S → Prop} {count : Nat}

theorem Reading.timely (reading : Reading f resolved count w) (index : Nat) : Timely f w
    (.step index) := by
  refine timely_step.mpr fun task there => ?_
  rcases Nat.lt_or_ge index count with early | late
  · have settled := reading.old index task early there
    cases task <;> trivial
  · have reads := reading.reads index task late there
    cases task <;> trivial

theorem Reading.call (lawful : f.Lawful)
    (reading : Reading f resolved count w) (query : Query) :
    Reading f resolved count (step f w (.call (.read query))) := by
  refine ⟨inv_step lawful w _ reading.inv trivial, ?_, ?_, ?_, ?_⟩
  · rw [← reading.same]
    funext p
    refine propext ⟨fun done => ?_, fun done => mem_append_left _ done⟩
    rcases mem_append.mp done with old | new
    · exact old
    · cases mem_singleton.mp new
  · have long := reading.long
    simp only [step, length_append]
    omega
  · intro i t early ti
    refine reading.old i t early ?_
    have inside : i < w.tasks.length := Nat.lt_of_lt_of_le early reading.long
    exact (List.getElem?_append_left inside).symm.trans ti
  · intro i t late ti
    have ti' : (w.tasks ++ [Task.readChecks query])[i]? = some t := ti
    rw [List.getElem?_append] at ti'
    by_cases inside : i < w.tasks.length
    · rw [if_pos inside] at ti'
      exact reading.reads i t late ti'
    · rw [if_neg inside] at ti'
      rw [mem_singleton.mp (mem_of_getElem? ti')]
      trivial

theorem Reading.step (lawful : f.Lawful)
    (reading : Reading f resolved count w) (index : Nat) :
    Reading f resolved count (step f w (.step index)) := by
  have inv := inv_step lawful w _ reading.inv (reading.timely index)
  rcases step_cases f w index with same | ⟨task, stores, task', there, next, eq⟩
  · rw [same]
    exact reading
  · rw [eq] at inv ⊢
    have late : count ≤ index := by
      by_contra early
      have settled := reading.old index task (Nat.lt_of_not_le early) there
      rw [next_settled settled] at next
      cases next
    have here := reading.inv.here index task there
    have sound := reading.inv.sound
    rw [reading.same] at here sound
    obtain ⟨reads, row, unpruned⟩ :=
      read_step lawful sound here (reading.reads index task late there) next
    refine ⟨inv, ?_, ?_, ?_, ?_⟩
    · rw [resolved_set_eq there stores task' ?_ ?_, reading.same]
      · rintro p rfl
        cases next
      · rintro p rfl
        exact reads.elim
    · rw [length_set]
      exact reading.long
    · intro i t early ti
      rcases task_of_set there task' i t ti with ⟨rfl, -⟩ | ⟨-, ti⟩
      · omega
      · exact reading.old i t early ti
    · intro i t late' ti
      rcases task_of_set there task' i t ti with ⟨-, rfl⟩ | ⟨-, ti⟩
      · exact reads
      · exact (reading.reads i t late' ti).mono row unpruned

end

theorem critical_next {s : Stores T S τ σ} (critical : task.critical = true) :
    s.next f task ≠ none := by
  cases task <;> try cases critical
  all_goals
    simp only [Stores.next]
    try split
    all_goals exact fun eq => nomatch eq

theorem Exclusive.settled (exclusive : Exclusive w)
    (stuck : ∀ task ∈ w.tasks, w.stores.next f task = none) : w.Settled := by
  have free : w.stores.locked = false := by
    by_contra taken
    obtain ⟨index, task, there, critical⟩ := exclusive.holder (Bool.not_eq_false _ ▸ taken)
    exact critical_next critical (stuck task (mem_of_getElem? there))
  have lock : ∀ inLock thrown : Task T S τ, w.stores.lock inLock thrown ≠ none := by
    intro inLock thrown
    unfold Stores.lock
    rw [free]
    split <;> exact fun eq => nomatch eq
  intro task mem
  have none := stuck task mem
  cases critical : task.critical with
  | true => exact absurd none (critical_next critical)
  | false =>
    cases task with
    | putChecks => cases none
    | putWrites p =>
      simp only [Stores.next] at none
      split at none <;> cases none
    | archiveLocks | pruneLocks | restoreLocks => exact absurd none (lock _ _)
    | readChecks | readReads => cases none
    | putSettled | archiveSettled | pruneSettled | readSettled => rfl
    | _ => cases critical

variable (f) in
/-- The reads that are called after a settled state resolve and show all that was
put, and where none can go on all have settled. -/
def Durable (w : Facade T S τ σ) (reads : List (FacadeAction T S)) : Prop :=
  (∀ (index : Nat) query answer, w.tasks.length ≤ index →
    (Run.final (step f) w reads).tasks[index]? = some (.readSettled query answer) →
    ∃ a, answer = some a ∧ ∀ p, w.Resolved p → ActiveStore.Shows f p query a) ∧
  ((∀ task ∈ (Run.final (step f) w reads).tasks,
    (Run.final (step f) w reads).stores.next f task = none) →
    (Run.final (step f) w reads).Settled)

/-- What is put in a timely run can be read after all its calls have settled. -/
theorem puts_durable (lawful : f.Lawful) (hasRow : Bool) (calls reads : List (FacadeAction T S))
    (timely : Run.Allowed (step f) (Timely f) (new hasRow) calls)
    (settled : (Run.final (step f) (new hasRow) calls).Settled)
    (onlyReads : ∀ action ∈ reads, IsRead action) :
    Durable f (Run.final (step f) (new hasRow) calls) reads := by
  have inv : Inv f (Run.final (step f) (new hasRow) calls) :=
    Run.invariant (inv_step lawful) _ calls (inv_new hasRow) timely
  generalize Run.final (step f) (new hasRow) calls = w at settled inv ⊢
  have start : Reading f w.Resolved w.tasks.length w := by
    refine ⟨inv, rfl, le_refl _, fun i t _ ti => settled t (mem_of_getElem? ti), ?_⟩
    intro i t late ti
    have early := (List.getElem?_eq_some_iff.mp ti).1
    omega
  have reading : Reading f w.Resolved w.tasks.length (Run.final (step f) w reads) := by
    have allowed : Run.Allowed (step f) (fun _ => IsRead) w reads :=
      Run.Allowed.of_forall _ _ fun _ => onlyReads
    refine Run.invariant ?_ w reads start allowed
    intro s action reading isRead
    match action, isRead with
    | .call (.read query), _ => exact reading.call lawful query
    | .step index, _ => exact reading.step lawful index
  constructor
  · intro index query answer late there
    exact reading.reads index _ late there
  · exact reading.inv.exclusive.settled

/-! ## A late put -/

def plainFormats : Formats Int Int Int Int :=
  ⟨⟨id, id, id, id, fun _ => none⟩, ⟨id, id, id, id, fun _ => none⟩⟩

theorem plainFormats_lawful : plainFormats.Lawful := ⟨fun _ => rfl, fun _ => rfl⟩

def firstPuts : List (FacadeAction Int Int) :=
  [.call (.put (.tick 1 false)), .step 0, .step 0, .call (.put (.tick 1 true)), .step 1, .step 1,
    .call (.put (.startPoint 1)), .step 2, .step 2]

def steps (index count : Nat) : List (FacadeAction Int Int) := replicate count (.step index)

def timelyCalls : List (FacadeAction Int Int) :=
  firstPuts ++ [FacadeAction.call (.put (.tick 2 false)), .step 3, .step 3] ++
    [FacadeAction.call .createArchive] ++ steps 4 7 ++ [FacadeAction.call .pruneActive] ++ steps 5 6

/-- The play is archived between the check and the write of the second tick. -/
def lateCalls : List (FacadeAction Int Int) :=
  firstPuts ++ [FacadeAction.call (.put (.tick 2 false)), .step 3] ++
    [FacadeAction.call .createArchive] ++ steps 4 7 ++ [FacadeAction.step 3] ++
      [FacadeAction.call .pruneActive] ++ steps 5 6

def secondRead : List (FacadeAction Int Int) :=
    [FacadeAction.call (.read (.getTick 2 false))] ++ steps 6 9

theorem onlyReads_secondRead : ∀ action ∈ secondRead, IsRead action := by
  intro action there
  rcases mem_append.mp there with there | there
  · rw [mem_singleton.mp there]
    trivial
  · rw [eq_of_mem_replicate there]
    trivial

theorem puts_durable_timely :
    Durable plainFormats (Run.final (step plainFormats) (new true) timelyCalls) secondRead := by
  exact puts_durable plainFormats_lawful true timelyCalls secondRead (by decide) (by decide)
    onlyReads_secondRead

/-- The tick is not in the archive that the read restores. -/
theorem late_put_lost : ¬ ∀ (calls reads : List (FacadeAction Int Int)),
      (Run.final (step plainFormats) (new true) calls).Settled → (∀ action ∈ reads, IsRead action) →
      Durable plainFormats (Run.final (step plainFormats) (new true) calls) reads := by
  intro claimed
  have durable := claimed lateCalls secondRead (by decide) onlyReads_secondRead
  obtain ⟨a, answer, shows⟩ := durable.1 6 (.getTick 2 false) (some (.tick none)) (by decide) rfl
  have resolved : Resolved (Run.final (step plainFormats) (new true) lateCalls)
      (.tick (2 : Int) false) := by
    refine mem_of_getElem? (i := 3) ?_
    rfl
  have shown := shows _ resolved rfl rfl
  rw [shown] at answer
  cases answer

end Facade
end AkashicSystem.Playlog
