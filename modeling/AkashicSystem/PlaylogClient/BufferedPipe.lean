import Mathlib.Data.List.TakeWhile
import AkashicSystem.Js.Number
import AkashicSystem.Lib.ForEach
import AkashicSystem.Lib.Run

/-!
# The requests of a client

`BufferedPipe` hands pushes and requests to their pipes, and keeps them while the
socket is reopened.  A call is known by its number; the callback of a request by
the number of its call.
-/

set_option autoImplicit false

namespace AkashicSystem.PlaylogClient

open AkashicSystem.Js List
open ForEach

variable {Data : Type}

structure Item (Data : Type) where
  call : Nat
  pipe : Nat
  isRequest : Bool
  data : Data

/-- The buffered pipe, the pipes beneath it, and the callbacks. -/
structure BufferedPipe (Data : Type) where
  needsBuffering : Bool
  buffer : List (Item Data)
  closedPipes : List Nat
  sent : List (Item Data)
  pending : List Nat
  called : List Nat
  /-- The calls of `request`. -/
  requested : List Nat
  calls : Nat
  limits : Nat

namespace BufferedPipe

def new : BufferedPipe Data := ⟨false, [], [], [], [], [], [], 0, 0⟩

def requests (items : List (Item Data)) : List Nat :=
  (items.filter Item.isRequest).map Item.call

/-- `pipe.push(data)` or `pipe.request(data, callback)`; it throws on a pipe that is not
open. -/
def hand (b : BufferedPipe Data) (item : Item Data) : BufferedPipe Data × Bool :=
  if item.pipe ∈ b.closedPipes then (b, false)
  else
    ({ b with sent := b.sent ++ [item], pending := b.pending ++ requests [item] }, true)

/-- The common body of `push` and `request`. -/
def submit (bufferMaxSize : Number) (b : BufferedPipe Data) (item : Item Data)
    (noBuffering : Bool) : BufferedPipe Data :=
  if b.needsBuffering then
    if noBuffering then b
    else if bufferMaxSize.le (.finite b.buffer.length) then { b with limits := b.limits + 1 }
    else { b with buffer := b.buffer ++ [item] }
  else (b.hand item).1

def push (bufferMaxSize : Number) (b : BufferedPipe Data) (pipe : Nat) (data : Data)
    (noBuffering : Bool) : BufferedPipe Data :=
  { b with calls := b.calls + 1 }.submit bufferMaxSize ⟨b.calls, pipe, false, data⟩ noBuffering

def request (bufferMaxSize : Number) (b : BufferedPipe Data) (pipe : Nat) (data : Data)
    (noBuffering : Bool) : BufferedPipe Data :=
  { b with calls := b.calls + 1, requested := b.requested ++ [b.calls] }.submit bufferMaxSize
    ⟨b.calls, pipe, true, data⟩ noBuffering

def onReopening (b : BufferedPipe Data) : BufferedPipe Data := { b with needsBuffering := true }

def onOpen (b : BufferedPipe Data) : BufferedPipe Data :=
  (forEach hand { b with needsBuffering := false, buffer := [] } b.buffer).1

def onClose (b : BufferedPipe Data) : BufferedPipe Data :=
  { b with needsBuffering := false, buffer := [] }

/-- The pipe calls back with the response to a request, or with an error. -/
def onAnswer (b : BufferedPipe Data) (call : Nat) : BufferedPipe Data :=
  if call ∈ b.pending then
    { b with pending := b.pending.erase call, called := b.called ++ [call] }
  else b

inductive Action (Data : Type) where
  | push (pipe : Nat) (data : Data) (noBuffering : Bool)
  | request (pipe : Nat) (data : Data) (noBuffering : Bool)
  | reopening
  | opened
  | closed
  | answered (call : Nat)
  | pipeClosed (pipe : Nat)

def step (bufferMaxSize : Number) (b : BufferedPipe Data) : Action Data → BufferedPipe Data
  | .push pipe data noBuffering => b.push bufferMaxSize pipe data noBuffering
  | .request pipe data noBuffering => b.request bufferMaxSize pipe data noBuffering
  | .reopening => b.onReopening
  | .opened => b.onOpen
  | .closed => b.onClose
  | .answered call => b.onAnswer call
  | .pipeClosed pipe => { b with closedPipes := pipe :: b.closedPipes }

/-- How often a request is buffered, waits for its response, or has been called back. -/
def count (b : BufferedPipe Data) (call : Nat) : Nat :=
  (requests b.buffer).count call + b.pending.count call + b.called.count call

/-- Every request is buffered, waits for its response, or has been called back once. -/
def Accounted (b : BufferedPipe Data) : Prop := ∀ call ∈ b.requested, b.count call = 1

/-- The calls that have been handed to the pipes, and the buffered ones after them, are in the
order in which they were made. -/
def Ordered (b : BufferedPipe Data) : Prop :=
  ((b.sent ++ b.buffer).map Item.call).Pairwise (· < ·)

def Quiet (b : BufferedPipe Data) : Prop := b.buffer = [] ∧ b.pending = []

/-- A call while the socket is reopened may be buffered and finds room in the buffer; any other
finds its pipe open. -/
def Kept (bufferMaxSize : Number) (b : BufferedPipe Data) (pipe : Nat) (noBuffering : Bool) :
    Prop :=
  if b.needsBuffering then
    noBuffering = false ∧ bufferMaxSize.le (.finite b.buffer.length) = false
  else pipe ∉ b.closedPipes

instance (bufferMaxSize : Number) (b : BufferedPipe Data) (pipe : Nat) (noBuffering : Bool) :
    Decidable (b.Kept bufferMaxSize pipe noBuffering) :=
  inferInstanceAs (Decidable (if b.needsBuffering then
    noBuffering = false ∧ bufferMaxSize.le (.finite b.buffer.length) = false
    else pipe ∉ b.closedPipes))

/-- A request is kept; the socket closes with no request in the buffer, and opens with none
behind a call whose pipe is closed. -/
def Permitted (bufferMaxSize : Number) (b : BufferedPipe Data) : Action Data → Prop
  | .request pipe _ noBuffering => b.Kept bufferMaxSize pipe noBuffering
  | .opened => requests (b.buffer.dropWhile fun item => item.pipe ∉ b.closedPipes) = []
  | .closed => requests b.buffer = []
  | _ => True

section Requests

variable (items items' : List (Item Data))

theorem requests_append : requests (items ++ items') = requests items ++ requests items' := by
  simp [requests]

end Requests

theorem forEach_hand (b : BufferedPipe Data) (items : List (Item Data)) : (forEach hand b items).1 =
      { b with
        sent := b.sent ++ items.takeWhile fun item => item.pipe ∉ b.closedPipes
        pending := b.pending ++ requests (items.takeWhile fun item => item.pipe ∉ b.closedPipes) }
      := by
  induction items generalizing b with
  | nil => simp [forEach_nil, requests]
  | cons item rest ih =>
    by_cases closed : item.pipe ∈ b.closedPipes
    · have throws : b.hand item = (b, false) := by rw [hand, if_pos closed]
      rw [forEach_cons_of_throws b item rest (by rw [throws]), throws, takeWhile_cons,
        if_neg (by simpa using closed), append_nil]
      simp [requests]
    · have returns : b.hand item =
          ({ b with sent := b.sent ++ [item], pending := b.pending ++ requests [item] }, true) := by
        rw [hand, if_neg closed]
      rw [forEach_cons_of_returns b item rest (by rw [returns]), returns, ih,
        takeWhile_cons, if_pos (by simpa using closed)]
      simp only [append_assoc, singleton_append, ← requests_append]

section

variable (bufferMaxSize : Number) (b : BufferedPipe Data)

include bufferMaxSize b

theorem submit_cases (item : Item Data)
    (noBuffering : Bool) : (b.Kept bufferMaxSize item.pipe noBuffering ∧
      ((b.needsBuffering = true ∧
          b.submit bufferMaxSize item noBuffering = { b with buffer := b.buffer ++ [item] }) ∨
        b.needsBuffering = false ∧ b.submit bufferMaxSize item noBuffering =
          { b with sent := b.sent ++ [item], pending := b.pending ++ requests [item] })) ∨
    (¬ b.Kept bufferMaxSize item.pipe noBuffering ∧ ∃ limits,
      b.submit bufferMaxSize item noBuffering = { b with limits := limits }) := by
  unfold submit Kept
  by_cases buffering : b.needsBuffering = true
  · rw [if_pos buffering, if_pos buffering]
    cases noBuffering with
    | true => exact .inr ⟨fun kept => Bool.noConfusion kept.1, b.limits, rfl⟩
    | false =>
      by_cases full : bufferMaxSize.le (.finite b.buffer.length) = true
      · refine .inr ⟨fun kept => ?_, b.limits + 1, ?_⟩
        · rw [full] at kept
          exact Bool.noConfusion kept.2
        · rw [if_neg Bool.false_ne_true, if_pos full]
      · refine .inl ⟨⟨rfl, Bool.eq_false_iff.mpr full⟩, .inl ⟨buffering, ?_⟩⟩
        rw [if_neg Bool.false_ne_true, if_neg full]
  · rw [if_neg buffering, if_neg buffering]
    unfold hand
    by_cases closed : item.pipe ∈ b.closedPipes
    · rw [if_pos closed]
      exact .inr ⟨fun isOpen => isOpen closed, b.limits, rfl⟩
    · rw [if_neg closed]
      exact .inl ⟨closed, .inr ⟨Bool.eq_false_iff.mpr buffering, rfl⟩⟩

def made (b : BufferedPipe Data) : Action Data → List Nat
  | .request .. => [b.calls]
  | _ => []

def lost (bufferMaxSize : Number) (b : BufferedPipe Data) : Action Data → List Nat
  | .request pipe _ noBuffering =>
    if b.Kept bufferMaxSize pipe noBuffering then [] else [b.calls]
  | .opened => requests (b.buffer.dropWhile fun item => item.pipe ∉ b.closedPipes)
  | .closed => requests b.buffer
  | _ => []

theorem permitted_iff (action : Action Data) :
    b.Permitted bufferMaxSize action ↔ b.lost bufferMaxSize action = [] := by
  cases action with
  | request pipe data noBuffering =>
    show b.Kept bufferMaxSize pipe noBuffering ↔ _
    unfold lost
    by_cases kept : b.Kept bufferMaxSize pipe noBuffering <;> simp [kept]
  | push pipe data noBuffering | reopening | answered call | pipeClosed pipe =>
    exact iff_of_true trivial rfl
  | opened | closed => exact Iff.rfl

theorem count_submit (item : Item Data)
    (noBuffering : Bool) (call : Nat) : (b.submit bufferMaxSize item noBuffering).count call =
      b.count call + if b.Kept bufferMaxSize item.pipe noBuffering then
        (requests [item]).count call else 0 := by
  rcases b.submit_cases bufferMaxSize item noBuffering with
    ⟨kept, ⟨_, eq⟩ | ⟨_, eq⟩⟩ | ⟨dropped, limits, eq⟩
  · rw [eq, if_pos kept]
    simp only [count, requests_append, count_append]
    omega
  · rw [eq, if_pos kept]
    simp only [count, count_append]
    omega
  · rw [eq, if_neg dropped]
    rfl

/-- The requests there are and the one that is made are there after the step, but for those that
are dropped. -/
theorem count_step (action : Action Data)
    (call : Nat) :
    (b.step bufferMaxSize action).count call + (b.lost bufferMaxSize action).count call =
      b.count call + (b.made action).count call := by
  cases action with
  | push pipe data noBuffering =>
    show (BufferedPipe.submit bufferMaxSize _ _ _).count call + 0 = _ + 0
    rw [count_submit]
    simp [requests, count]
  | request pipe data noBuffering =>
    show (BufferedPipe.submit bufferMaxSize _ _ _).count call + _ = _ + [b.calls].count call
    have kept : ({ b with calls := b.calls + 1, requested := b.requested ++ [b.calls] } :
        BufferedPipe Data).Kept bufferMaxSize pipe noBuffering ↔
          b.Kept bufferMaxSize pipe noBuffering := Iff.rfl
    rw [count_submit]
    show b.count call + _ +
      (if b.Kept bufferMaxSize pipe noBuffering then [] else [b.calls]).count call = _
    by_cases holds : b.Kept bufferMaxSize pipe noBuffering
    · rw [if_pos (kept.mpr holds), if_pos holds]
      rfl
    · rw [if_neg fun now => holds (kept.mp now), if_neg holds]
      rfl
  | reopening | pipeClosed pipe => rfl
  | opened =>
    have split := takeWhile_append_dropWhile
      (p := fun item : Item Data => decide (item.pipe ∉ b.closedPipes)) (l := b.buffer)
    show (forEach hand _ b.buffer).1.count call + _ = _ + 0
    rw [forEach_hand]
    show (requests []).count call + (b.pending ++ requests _).count call + _ + _ = _
    unfold count lost
    rw [count_append]
    conv_rhs => rw [← split, requests_append, count_append]
    simp only [requests, filter_nil, map_nil, count_nil]
    omega
  | closed =>
    show (requests []).count call + b.pending.count call + b.called.count call + _ =
      (requests b.buffer).count call + b.pending.count call + b.called.count call + 0
    simp only [requests, filter_nil, map_nil, count_nil, lost]
    omega
  | answered other =>
    show (b.onAnswer other).count call + 0 = _ + 0
    unfold onAnswer
    split
    · next waits =>
      have positive : 0 < b.pending.count other := count_pos_iff.mpr waits
      simp only [count, count_append, count_erase, count_singleton]
      by_cases same : other = call
      · subst same
        simp
        omega
      · simp [same]
    · rfl

end

/-- The calls that have been handed to the pipes and those in the buffer are in order, and a
buffer that is not in use is empty. -/
structure InOrder (b : BufferedPipe Data) : Prop where
  ordered : b.Ordered
  before : ∀ item ∈ b.sent ++ b.buffer, item.call < b.calls
  empty : b.needsBuffering = false → b.buffer = []

theorem inOrder_new : (new : BufferedPipe Data).InOrder := by
  refine ⟨List.Pairwise.nil, ?_, fun _ => rfl⟩
  intro item there
  cases there

theorem ordered_concat (items : List (Item Data)) (item : Item Data)
    (ordered : (items.map Item.call).Pairwise (· < ·))
    (last : ∀ other ∈ items, other.call < item.call) :
    ((items ++ [item]).map Item.call).Pairwise (· < ·) := by
  rw [map_append, pairwise_append]
  refine ⟨ordered, pairwise_singleton _ _, fun call there call' there' => ?_⟩
  obtain ⟨other, mem, rfl⟩ := mem_map.mp there
  rw [mem_singleton.mp there']
  exact last other mem

section InOrder

variable {b : BufferedPipe Data}

theorem InOrder.submit (inOrder : b.InOrder) (bufferMaxSize : Number) (item : Item Data)
    (noBuffering : Bool) (numbered : item.call = b.calls) (requested : List Nat) :
    (({ b with calls := b.calls + 1, requested := requested } :
      BufferedPipe Data).submit bufferMaxSize item noBuffering).InOrder := by
  have later : ∀ other ∈ b.sent ++ b.buffer, other.call < b.calls + 1 :=
    fun other there => Nat.lt_succ_of_lt (inOrder.before other there)
  have last : ∀ other ∈ b.sent ++ b.buffer, other.call < item.call :=
    fun other there => numbered ▸ inOrder.before other there
  have own : item.call < b.calls + 1 := by omega
  have added := ordered_concat (b.sent ++ b.buffer) item inOrder.ordered last
  have addedBefore : ∀ other ∈ (b.sent ++ b.buffer) ++ [item], other.call < b.calls + 1 := by
    intro other there
    rcases mem_append.mp there with old | new
    · exact later other old
    · rw [mem_singleton.mp new]
      exact own
  rcases submit_cases bufferMaxSize ({ b with calls := b.calls + 1, requested := requested } :
      BufferedPipe Data) item noBuffering with
    ⟨_, ⟨buffering, eq⟩ | ⟨free, eq⟩⟩ | ⟨_, limits, eq⟩
  · rw [eq]
    refine ⟨?_, ?_, fun free => ?_⟩
    · show ((b.sent ++ (b.buffer ++ [item])).map Item.call).Pairwise (· < ·)
      rw [← append_assoc]
      exact added
    · show ∀ other ∈ b.sent ++ (b.buffer ++ [item]), other.call < b.calls + 1
      rw [← append_assoc]
      exact addedBefore
    · cases buffering.symm.trans free
  · rw [eq]
    have empty : b.buffer = [] := inOrder.empty free
    rw [empty, append_nil] at added addedBefore
    refine ⟨?_, ?_, fun _ => empty⟩
    · show (((b.sent ++ [item]) ++ b.buffer).map Item.call).Pairwise (· < ·)
      rw [empty, append_nil]
      exact added
    · show ∀ other ∈ (b.sent ++ [item]) ++ b.buffer, other.call < b.calls + 1
      rw [empty, append_nil]
      exact addedBefore
  · rw [eq]
    exact ⟨inOrder.ordered, later, inOrder.empty⟩

theorem InOrder.flushed (inOrder : b.InOrder) (items : List (Item Data))
    (sublist : items.Sublist b.buffer) (b' : BufferedPipe Data) (sent : b'.sent = b.sent ++ items)
    (buffer : b'.buffer = []) (calls : b'.calls = b.calls) : b'.InOrder := by
  have part : (b'.sent ++ b'.buffer).Sublist (b.sent ++ b.buffer) := by
    rw [sent, buffer, append_nil]
    exact (Sublist.refl b.sent).append sublist
  refine ⟨inOrder.ordered.sublist (part.map Item.call), fun item there => ?_, fun _ => buffer⟩
  rw [calls]
  exact inOrder.before item (part.subset there)

theorem InOrder.step (inOrder : b.InOrder) (bufferMaxSize : Number) (action : Action Data) :
    (b.step bufferMaxSize action).InOrder := by
  cases action with
  | push pipe data noBuffering =>
    exact inOrder.submit bufferMaxSize ⟨b.calls, pipe, false, data⟩ noBuffering rfl b.requested
  | request pipe data noBuffering =>
    exact inOrder.submit bufferMaxSize ⟨b.calls, pipe, true, data⟩ noBuffering rfl _
  | reopening =>
    refine ⟨inOrder.ordered, inOrder.before, fun free => ?_⟩
    cases free
  | opened =>
    show (forEach hand _ b.buffer).1.InOrder
    rw [forEach_hand]
    exact inOrder.flushed _ (takeWhile_sublist _) _ rfl rfl rfl
  | closed =>
    exact inOrder.flushed [] (nil_sublist _) _ (append_nil _).symm rfl rfl
  | answered call =>
    show (b.onAnswer call).InOrder
    unfold onAnswer
    split
    · exact ⟨inOrder.ordered, inOrder.before, inOrder.empty⟩
    · exact inOrder
  | pipeClosed pipe => exact ⟨inOrder.ordered, inOrder.before, inOrder.empty⟩

end InOrder

structure Inv (b : BufferedPipe Data) : Prop where
  inOrder : b.InOrder
  once : ∀ call, b.count call ≤ 1
  fresh : ∀ call, b.calls ≤ call → b.count call = 0
  known : ∀ call ∈ b.requested, call < b.calls
  requested : ∀ call, 0 < b.count call → call ∈ b.requested

theorem inv_new : (new : BufferedPipe Data).Inv := by
  refine ⟨inOrder_new, fun _ => Nat.zero_le _, fun _ _ => rfl, ?_, ?_⟩
  · intro call there
    cases there
  · intro call positive
    cases positive

theorem requested_step (bufferMaxSize : Number) (b : BufferedPipe Data) (action : Action Data) :
    (b.step bufferMaxSize action).requested = b.requested ++ b.made action ∧
      b.calls ≤ (b.step bufferMaxSize action).calls ∧
      ∀ call ∈ b.made action, call = b.calls ∧ call < (b.step bufferMaxSize action).calls := by
  have submitted (b : BufferedPipe Data) (item : Item Data) (noBuffering : Bool) :
      (b.submit bufferMaxSize item noBuffering).requested = b.requested ∧
        (b.submit bufferMaxSize item noBuffering).calls = b.calls := by
    rcases b.submit_cases bufferMaxSize item noBuffering with
      ⟨_, ⟨_, eq⟩ | ⟨_, eq⟩⟩ | ⟨_, _, eq⟩
    · rw [eq]
      exact ⟨rfl, rfl⟩
    · rw [eq]
      exact ⟨rfl, rfl⟩
    · rw [eq]
      exact ⟨rfl, rfl⟩
  have other (same : (b.step bufferMaxSize action).requested = b.requested)
      (calls : b.calls ≤ (b.step bufferMaxSize action).calls) (none : b.made action = []) :
      (b.step bufferMaxSize action).requested = b.requested ++ b.made action ∧
        b.calls ≤ (b.step bufferMaxSize action).calls ∧
        ∀ call ∈ b.made action, call = b.calls ∧ call < (b.step bufferMaxSize action).calls := by
    rw [none, append_nil]
    refine ⟨same, calls, fun call there => ?_⟩
    cases there
  cases action with
  | push pipe data noBuffering =>
    obtain ⟨requested, calls⟩ := submitted { b with calls := b.calls + 1 }
      ⟨b.calls, pipe, false, data⟩ noBuffering
    exact other requested (Nat.le_trans (Nat.le_succ _) (Nat.le_of_eq calls.symm)) rfl
  | request pipe data noBuffering =>
    obtain ⟨requested, calls⟩ := submitted
      { b with calls := b.calls + 1, requested := b.requested ++ [b.calls] }
      ⟨b.calls, pipe, true, data⟩ noBuffering
    have next : (b.step bufferMaxSize (.request pipe data noBuffering)).calls = b.calls + 1 :=
      calls
    refine ⟨requested, by omega, fun call there => ?_⟩
    have eq : call = b.calls := mem_singleton.mp there
    exact ⟨eq, by omega⟩
  | opened =>
    have eq : (b.step bufferMaxSize .opened) = (forEach hand _ b.buffer).1 := rfl
    rw [forEach_hand] at eq
    exact other (by rw [eq]) (by rw [eq]) rfl
  | reopening | closed | pipeClosed pipe => exact other rfl (Nat.le_refl _) rfl
  | answered call =>
    have answered : (b.onAnswer call).requested = b.requested ∧
        (b.onAnswer call).calls = b.calls := by
      unfold onAnswer
      split <;> exact ⟨rfl, rfl⟩
    exact other answered.1 (Nat.le_of_eq answered.2.symm) rfl

section Steps

theorem eq_of_mem_made (b : BufferedPipe Data) (action : Action Data) (call : Nat)
    (new : call ∈ b.made action) : call = b.calls := by
  cases action with
  | request pipe data noBuffering => exact mem_singleton.mp new
  | _ => cases new

variable (bufferMaxSize : Number) (b : BufferedPipe Data) (action : Action Data)

theorem count_made_le (inv : b.Inv) (call : Nat) :
    b.count call + (b.made action).count call ≤ 1 := by
  by_cases new : call ∈ b.made action
  · have number := b.eq_of_mem_made action call new
    have none := inv.fresh call (Nat.le_of_eq number.symm)
    have one : (b.made action).count call ≤ 1 := by
      cases action with
      | request pipe data noBuffering =>
        show [b.calls].count call ≤ 1
        rw [count_singleton]
        split
        · exact Nat.le_refl _
        · exact Nat.zero_le _
      | _ => exact Nat.zero_le _
    omega
  · have none := count_eq_zero.mpr new
    have once := inv.once call
    omega

theorem inv_step (inv : b.Inv) : (b.step bufferMaxSize action).Inv := by
  have counts := b.count_step bufferMaxSize action
  obtain ⟨requested, calls, made⟩ := b.requested_step bufferMaxSize action
  refine ⟨inv.inOrder.step bufferMaxSize action, fun call => ?_, fun call late => ?_,
    fun call there => ?_, fun call positive => ?_⟩
  · have total := counts call
    have once := b.count_made_le action inv call
    omega
  · have total := counts call
    have old := inv.fresh call (Nat.le_trans calls late)
    have unmade : (b.made action).count call = 0 := by
      apply count_eq_zero.mpr
      intro new
      have early := (made call new).2
      omega
    omega
  · rw [requested] at there
    rcases mem_append.mp there with old | new
    · exact Nat.lt_of_lt_of_le (inv.known call old) calls
    · exact (made call new).2
  · rw [requested]
    apply mem_append.mpr
    have total := counts call
    by_cases old : 0 < b.count call
    · exact .inl (inv.requested call old)
    · right
      apply count_pos_iff.mp
      omega

theorem lost_requested (inv : b.Inv) (call : Nat) (dropped : call ∈ b.lost bufferMaxSize action) :
    call ∈ b.requested ++ b.made action := by
  have total := b.count_step bufferMaxSize action call
  have positive := count_pos_iff.mpr dropped
  apply mem_append.mpr
  by_cases old : 0 < b.count call
  · exact .inl (inv.requested call old)
  · right
    apply count_pos_iff.mp
    omega

/-- The requests stay accounted for exactly if none is dropped. -/
theorem accounted_step (inv : b.Inv) :
    (b.step bufferMaxSize action).Accounted ↔ b.Accounted ∧ b.Permitted bufferMaxSize action := by
  have counts := b.count_step bufferMaxSize action
  have requested := (b.requested_step bufferMaxSize action).1
  rw [permitted_iff]
  unfold Accounted
  rw [requested]
  constructor
  · intro accounted
    refine ⟨fun call there => ?_, eq_nil_iff_forall_not_mem.mpr fun call dropped => ?_⟩
    · have total := counts call
      have one := accounted call (mem_append_left _ there)
      have once := b.count_made_le action inv call
      have early := inv.known call there
      have unmade : (b.made action).count call = 0 := by
        apply count_eq_zero.mpr
        intro new
        have number := b.eq_of_mem_made action call new
        omega
      omega
    · have total := counts call
      have one := accounted call (b.lost_requested bufferMaxSize action inv call dropped)
      have once := b.count_made_le action inv call
      have positive := count_pos_iff.mpr dropped
      omega
  · rintro ⟨accounted, kept⟩ call there
    have total := counts call
    rw [kept, count_nil] at total
    have once := b.count_made_le action inv call
    rcases mem_append.mp there with old | new
    · have one := accounted call old
      omega
    · have positive := count_pos_iff.mpr new
      omega

end Steps

/-- After a run, the calls are in order, and every request is buffered, waits for its response
or has been called back exactly once, if and only if no step of the run drops a request. -/
theorem completes_iff_permitted (bufferMaxSize : Number) (actions : List (Action Data)) :
    (Run.final (step bufferMaxSize) new actions).Ordered ∧
        (Run.final (step bufferMaxSize) new actions).Accounted ↔
      Run.Allowed (step bufferMaxSize) (Permitted bufferMaxSize) new actions := by
  have free : Run.Allowed (step bufferMaxSize) (fun _ _ => True) (new : BufferedPipe Data) actions :=
    .of_forall new actions fun _ _ _ => trivial
  have kept (b : BufferedPipe Data) (action : Action Data) (inv : b.Inv) (_ : True) :
      (b.step bufferMaxSize action).Inv := b.inv_step bufferMaxSize action inv
  have ends := Run.invariant kept new actions inv_new free
  have exactly : (Run.final (step bufferMaxSize) new actions).Accounted ↔
      (new : BufferedPipe Data).Accounted ∧
        Run.Allowed (step bufferMaxSize) (Permitted bufferMaxSize) new actions :=
    Run.final_iff_allowed_given kept
      (fun b action inv _ => b.accounted_step bufferMaxSize action inv) new actions inv_new free
  have begins : (new : BufferedPipe Data).Accounted := by
    intro call there
    cases there
  rw [and_iff_right ends.inOrder.ordered, exactly, and_iff_right begins]

/-- A request that must not be buffered is made while the socket is reopened. -/
def unbuffered : List (Action Unit) := [.reopening, .request 0 () true, .opened]

/-- Nothing waits after it, and its callback has not been invoked. -/
theorem unbuffered_uncalled :
    ¬ ∀ actions : List (Action Unit), (Run.final (step 100000) new actions).Quiet →
      ∀ call ∈ (Run.final (step 100000) new actions).requested,
        (Run.final (step 100000) new actions).called.count call = 1 := by
  intro claimed
  have once := claimed unbuffered ⟨rfl, rfl⟩ 0 mem_cons_self
  cases once

end BufferedPipe
end AkashicSystem.PlaylogClient
