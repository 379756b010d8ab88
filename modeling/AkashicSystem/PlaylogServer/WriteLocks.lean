import Mathlib.Data.List.Pairwise
import Mathlib.Tactic.SplitIfs
import AkashicSystem.Lib.Run

/-!
# Ticks under a write lock

`publishTickRaw` hands a tick over while the lock of the play is `Locked`, and buffers it
otherwise.  The lock may be acquired anew, and the listeners of older locks stay.
-/

set_option autoImplicit false

namespace AkashicSystem.PlaylogServer
namespace WriteLocks

open Function (update)
open List

inductive WriteLockStatus where
  | free
  | unknown
  | locked
deriving DecidableEq

/-- A tick, known by the number of its call; one that does not decode throws. -/
structure Tick where
  number : Nat
  decodes : Bool
deriving DecidableEq

/-- What `PlaylogHandler` keeps for a play, with the states of the locks it has acquired and, for
each tick that was handed over, the state its lock was in. -/
structure PlaylogHandler where
  locks : Nat → WriteLockStatus
  acquired : Nat
  writeLock : Option Nat
  publishBuffer : List Tick
  calls : Nat
  handed : List (Nat × Option WriteLockStatus)

namespace PlaylogHandler

def new : PlaylogHandler := ⟨fun _ => .free, 0, none, [], 0, []⟩

def lockState (h : PlaylogHandler) : Option WriteLockStatus := h.writeLock.map h.locks

def hand (h : PlaylogHandler) (tick : Tick) : PlaylogHandler :=
  if tick.decodes then { h with handed := h.handed ++ [(tick.number, h.lockState)] } else h

def publishTickRaw (h : PlaylogHandler) (decodes : Bool) : PlaylogHandler :=
  let tick := ⟨h.calls, decodes⟩
  let h := { h with calls := h.calls + 1 }
  if h.lockState = some .locked then h.hand tick
  else { h with publishBuffer := h.publishBuffer ++ [tick] }

def acquireWriteLock (h : PlaylogHandler) (state : WriteLockStatus) : PlaylogHandler :=
  { h with
    locks := update h.locks h.acquired state
    acquired := h.acquired + 1
    writeLock := some h.acquired }

/-- A tick that throws ends the loop; those behind it stay. -/
def flushMessages (h : PlaylogHandler) : List Tick → PlaylogHandler
  | [] => { h with publishBuffer := [] }
  | tick :: rest =>
    if tick.decodes then (h.hand tick).flushMessages rest else { h with publishBuffer := rest }

def onStateChanged (h : PlaylogHandler) (lock : Nat) (state : WriteLockStatus) : PlaylogHandler :=
  if h.acquired ≤ lock ∨ h.locks lock = state then h
  else
    let h' := { h with locks := update h.locks lock state }
    if state = .locked ∧ h.locks lock = .unknown then h'.flushMessages h.publishBuffer else h'

end PlaylogHandler

open PlaylogHandler

inductive Action where
  | acquireWriteLock (state : WriteLockStatus)
  | stateChanged (lock : Nat) (state : WriteLockStatus)
  | publishTickRaw (decodes : Bool)

def step (h : PlaylogHandler) : Action → PlaylogHandler
  | .acquireWriteLock state => h.acquireWriteLock state
  | .stateChanged lock state => h.onStateChanged lock state
  | .publishTickRaw decodes => h.publishTickRaw decodes

/-- Ticks were handed over in the order of their calls, under a lock that is `Locked`. -/
def Ordered (h : PlaylogHandler) : Prop :=
  (h.handed.map Prod.fst).Pairwise (· < ·) ∧ ∀ entry ∈ h.handed, entry.2 = some .locked

/-- No tick passes those in the buffer, and none leaves it unless the lock of the play is
`Locked`. -/
def Permitted (h : PlaylogHandler) : Action → Prop
  | .acquireWriteLock _ => True
  | .stateChanged lock state => h.publishBuffer ≠ [] → state = .locked → lock < h.acquired →
      h.locks lock = .unknown → h.writeLock = some lock ∨ h.lockState = some .locked
  | .publishTickRaw _ => h.lockState = some .locked → h.publishBuffer = []

/-- The numbers of the ticks that were handed over, and of those that are still to be. -/
def numbers (h : PlaylogHandler) (buffer : List Tick) : List Nat :=
  h.handed.map Prod.fst ++ buffer.map Tick.number

structure Inv (h : PlaylogHandler) (buffer : List Tick) : Prop where
  ordered : (numbers h buffer).Pairwise (· < ·)
  called : ∀ number ∈ numbers h buffer, number < h.calls
  locked : ∀ entry ∈ h.handed, entry.2 = some .locked

theorem inv_sublist {h h' : PlaylogHandler} {buffer buffer' : List Tick} (inv : Inv h buffer)
    (fewer : (numbers h' buffer').Sublist (numbers h buffer)) (calls : h'.calls = h.calls)
    (locked : ∀ entry ∈ h'.handed, entry.2 = some .locked) : Inv h' buffer' where
  ordered := inv.ordered.sublist fewer
  called number there := calls ▸ inv.called number (fewer.subset there)
  locked := locked

theorem inv_hand {h : PlaylogHandler} {tick : Tick} {rest : List Tick} (inv : Inv h (tick :: rest))
    (locked : h.lockState = some .locked) : Inv (h.hand tick) rest := by
  unfold hand
  split_ifs with decodes
  · refine inv_sublist inv (by simp [numbers]) rfl fun entry there => ?_
    rcases mem_append.mp there with old | new
    · exact inv.locked entry old
    · rw [mem_singleton.mp new]
      exact locked
  · exact inv_sublist inv (by simp [numbers]) rfl inv.locked

theorem lockState_hand (h : PlaylogHandler) (tick : Tick) :
    (h.hand tick).lockState = h.lockState := by
  unfold hand
  split_ifs <;> rfl

theorem inv_flushMessages {h : PlaylogHandler} {buffer : List Tick} (inv : Inv h buffer)
    (locked : buffer ≠ [] → h.lockState = some .locked) :
    Inv (h.flushMessages buffer) (h.flushMessages buffer).publishBuffer := by
  induction buffer generalizing h with
  | nil => exact inv_sublist inv (Sublist.refl _) rfl inv.locked
  | cons tick rest ih =>
    have locked := locked (cons_ne_nil _ _)
    rw [flushMessages]
    split_ifs with decodes
    · exact ih (inv_hand inv locked) fun _ => (lockState_hand h tick).trans locked
    · exact inv_sublist inv (by simp [numbers]) rfl inv.locked

theorem inv_publishTickRaw {h : PlaylogHandler} (inv : Inv h h.publishBuffer) (decodes : Bool)
    (permitted : Permitted h (.publishTickRaw decodes)) :
    Inv (h.publishTickRaw decodes) (h.publishTickRaw decodes).publishBuffer := by
  have added : Inv { h with calls := h.calls + 1 } (h.publishBuffer ++ [⟨h.calls, decodes⟩]) := by
    have same : numbers { h with calls := h.calls + 1 } (h.publishBuffer ++ [⟨h.calls, decodes⟩]) =
        numbers h h.publishBuffer ++ [h.calls] := by simp [numbers]
    constructor
    · rw [same, pairwise_append]
      refine ⟨inv.ordered, pairwise_singleton _ _, fun number there other new => ?_⟩
      rw [mem_singleton.mp new]
      exact inv.called number there
    · intro number there
      rw [same] at there
      rcases mem_append.mp there with old | new
      · exact Nat.lt_succ_of_lt (inv.called number old)
      · rw [mem_singleton.mp new]
        exact Nat.lt_succ_self _
    · exact inv.locked
  unfold publishTickRaw
  dsimp only
  split_ifs with locked
  · have empty := permitted locked
    have buffer : ({ h with calls := h.calls + 1 }.hand ⟨h.calls, decodes⟩).publishBuffer = [] := by
      unfold hand
      split_ifs <;> exact empty
    rw [buffer]
    refine inv_hand ?_ locked
    simpa [empty] using added
  · exact inv_sublist added (Sublist.refl _) rfl added.locked

theorem inv_onStateChanged {h : PlaylogHandler} (inv : Inv h h.publishBuffer) (lock : Nat)
    (state : WriteLockStatus) (permitted : Permitted h (.stateChanged lock state)) :
    Inv (h.onStateChanged lock state) (h.onStateChanged lock state).publishBuffer := by
  unfold onStateChanged
  dsimp only
  split_ifs with same checked
  · exact inv
  · obtain ⟨rfl, unknown⟩ := checked
    refine inv_flushMessages (inv_sublist inv (Sublist.refl _) rfl inv.locked) fun buffered => ?_
    have acquired := Nat.not_le.mp (not_or.mp same).1
    rcases permitted buffered rfl acquired unknown with own | locked
    · simp [lockState, own]
    · cases current : h.writeLock with
      | none => simp [lockState, current] at locked
      | some other =>
        have other_ne : other ≠ lock := by
          rintro rfl
          simp [lockState, current, unknown] at locked
        simpa [lockState, current, Function.update_of_ne other_ne] using locked
  · exact inv_sublist inv (Sublist.refl _) rfl inv.locked

theorem inv_step (h : PlaylogHandler) (action : Action) (inv : Inv h h.publishBuffer)
    (permitted : Permitted h action) : Inv (step h action) (step h action).publishBuffer := by
  cases action with
  | acquireWriteLock state => exact inv_sublist inv (Sublist.refl _) rfl inv.locked
  | stateChanged lock state => exact inv_onStateChanged inv lock state permitted
  | publishTickRaw decodes => exact inv_publishTickRaw inv decodes permitted

/-- Ticks keep the order of their calls, if none passes those in the buffer and only the lock of
the play lets them go. -/
theorem ordered_of_permitted (actions : List Action) (run : Run.Allowed step Permitted new actions) :
    Ordered (Run.final step new actions) := by
  have inv := Run.invariant inv_step new actions ⟨List.Pairwise.nil, forall_mem_nil _,
    forall_mem_nil _⟩ run
  exact ⟨(pairwise_append.mp inv.ordered).1, inv.locked⟩

/-- A lock that is lost for a while. -/
def checkedAgain : List Action :=
  [.acquireWriteLock .locked, .publishTickRaw true, .stateChanged 0 .unknown, .publishTickRaw true,
    .stateChanged 0 .locked, .publishTickRaw true]

theorem ordered_of_permitted_checkedAgain : Ordered (Run.final step new checkedAgain) :=
  ordered_of_permitted checkedAgain ⟨trivial, fun _ => rfl, fun _ is => (by cases is),
    fun locked => absurd locked (by decide), fun _ _ _ _ => .inl rfl, fun _ => rfl, trivial⟩

/-- The lock is acquired anew while a tick is buffered. -/
def acquiredAnew : List Action :=
  [.acquireWriteLock .locked, .stateChanged 0 .unknown, .publishTickRaw true,
    .acquireWriteLock .locked, .publishTickRaw true, .stateChanged 0 .locked]

theorem acquiredAnew_reordered : ¬ ∀ actions, Ordered (Run.final step new actions) := by
  intro ordered
  exact absurd (ordered acquiredAnew).1 (by decide)

end WriteLocks
end AkashicSystem.PlaylogServer
