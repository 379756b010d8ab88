import AkashicSystem.Lib.Pool
import AkashicSystem.Playlog.ShortMsgpack
import AkashicSystem.Playlog.TickReads

/-!
# Redelivered ticks

Deliveries of one tick message to the consumer, each of which puts the two forms
of the tick one after the other and may stop anywhere.  A put that conflicts is
recovered from by reading the stored tick and comparing it with the tick put.
-/

set_option autoImplicit false

namespace AkashicSystem.Playlog

open AkashicSystem.Js Pool ActiveStore List

variable {codec : Codec} {S σ : Type}

structure QueueState (codec : Codec) (σ : Type) where
  store : ActiveStore (RawTick codec) σ
  /-- The `tickConflicted` events: the stored tick and the received one. -/
  conflicts : List (Option Value × Value)

/-- What a delivery has come to.  It is whole as long as no operation of it failed. -/
inductive Delivering where
  | putting (excludedIgnorable whole : Bool)
  | recovering (excludedIgnorable whole : Bool)
  | ended (whole : Bool)

/-- How an operation goes, and whether the listener of an event lets the consumer continue. -/
inductive Going where
  | resolves (continues : Bool)
  /-- The database may have applied what it reports as failed. -/
  | fails (applied continues : Bool)

namespace Delivering

def after (excludedIgnorable whole : Bool) : Delivering :=
  if excludedIgnorable then .ended whole else .putting true whole

variable (startPoint : Format S σ) (message : RawTick codec)

def putOf (excludedIgnorable : Bool) : TickPut codec :=
  ⟨message.tick.stored excludedIgnorable, excludedIgnorable⟩

/-- `getTick` of the recovery. -/
def storedTick (s : QueueState codec σ) (excludedIgnorable : Bool) : Option Value :=
  (s.store.getTick (tickFormats codec startPoint) message.tick.frame excludedIgnorable).map
    Tick.value

/-- The steps of `storeTickInner` for each form. -/
def next (s : QueueState codec σ) (delivering : Delivering) (going : Going) :
    Option (QueueState codec σ × Delivering) :=
  match delivering, going with
  | .putting form whole, .resolves _ =>
    match s.store.putTick (tickFormats codec startPoint) (message.tick.stored form) form with
    | some store => some ({ s with store := store }, after form whole)
    | none => some (s, .recovering form whole)
  | .putting form _, .fails applied continues =>
    some ({ s with
        store := if applied then s.store.applyPut startPoint (putOf message form) else s.store },
      if continues then after form false else .ended false)
  | .recovering form whole, .resolves continues =>
    let received := (message.tick.stored form).value
    let storedTick := storedTick startPoint message s form
    if codec.deepEqual storedTick received then some (s, after form whole)
    else
      some ({ s with conflicts := s.conflicts ++ [(storedTick, received)] },
        if continues then after form whole else .ended false)
  | .recovering _ _, .fails _ _ => some (s, .ended false)
  | .ended _, _ => none

def Startable (delivering : Delivering) : Prop := delivering = .putting false true

/-- Deliveries of the message, in any number and interleaved in any way. -/
def Deliveries (p : Pool (QueueState codec σ) Delivering)
    (actions : List (Action Delivering Going)) : Prop :=
  Run.Allowed (step (next startPoint message))
    (Allowed Startable fun _ _ => True) p actions

variable (s : ActiveStore (RawTick codec) σ)

def begin : Pool (QueueState codec σ) Delivering :=
  ⟨⟨s, []⟩, []⟩

def delivered : ActiveStore (RawTick codec) σ :=
  (s.applyPut startPoint (putOf message false)).applyPut startPoint (putOf message true)

def Fresh : Prop :=
  ∀ excludedIgnorable,
    message.tick.frame ∉ (s.ticks excludedIgnorable).map Record.frame

/-- A form has events or storage data, or nothing at all behind its frame. -/
def ReadsBack (excludedIgnorable : Bool) : Prop :=
  (message.tick.stored excludedIgnorable).hasContent = true ∨
    (message.tick.stored excludedIgnorable).rest = []

def formOf (excludedIgnorable : Bool) : Form :=
  if excludedIgnorable then .excludedIgnorable else .original

/-- The store answers, and the listener of the conflicts returns. -/
structure Answered (a : Answers) (s : QueueState codec σ) (form : Bool) : Prop where
  library : a.lib = codec.toLibrary
  put : a.put (formOf form) =
    if (s.store.putTick (tickFormats codec startPoint) (message.tick.stored form) form).isSome then
      .resolved else .conflict
  stored : a.stored (formOf form) = some (storedTick startPoint message s form)
  onConflicted : a.onConflicted (formOf form) = .returns

def effect (form : Bool) (s : QueueState codec σ) : Happening → QueueState codec σ
  | .put _ _ _ => { s with store := s.store.applyPut startPoint (putOf message form) }
  | .conflicted _ _ storedTick received =>
    { s with conflicts := s.conflicts ++ [(storedTick, received)] }
  | _ => s

/-- `storeTickInner` does what the steps of a delivery by itself do. -/
theorem storeTickInner_steps (a : Answers) (playId : String) (s : QueueState codec σ) (form : Bool)
    (answered : Answered startPoint message a s form) (trace : List Happening) :
    ∃ happenings goings, PlaylogQueueConsumer.storeTickInner a playId
        (message.tick.stored form).value form trace = .ok () (trace ++ happenings) ∧
      Run.final (solo (next startPoint message)) (s, .putting form true) goings =
        (happenings.foldl (effect startPoint message form) s, after form true) := by
  obtain ⟨library, put, stored, onConflicted⟩ := answered
  have isForm : (if form = true then Form.excludedIgnorable else Form.original) = formOf form := rfl
  unfold PlaylogQueueConsumer.storeTickInner PlaylogQueueConsumer.putOrReport
  rw [isForm, put]
  cases result : s.store.putTick (tickFormats codec startPoint) (message.tick.stored form) form with
  | some store =>
    have applied : s.store.applyPut startPoint (putOf message form) = store :=
      congrArg (fun result => Option.getD result s.store) result
    refine ⟨[.put playId (formOf form) (message.tick.stored form).value], [.resolves true],
      rfl, ?_⟩
    simp only [Run.final_cons, Run.final_nil, solo, next, result, foldl_cons,
      foldl_nil, effect, applied]
    rfl
  | none =>
    rw [stored]
    by_cases equal : codec.deepEqual (storedTick startPoint message s form)
        (message.tick.stored form).value = true
    · refine ⟨[.found playId (formOf form) (message.tick.stored form).value, .log .warn],
        [.resolves true, .resolves true], ?_, ?_⟩
      · simp only [Option.isSome_none, Bool.false_eq_true, if_false, library, equal, if_true]
        rw [Computation.bind_run]
        change EStateM.Result.ok () (trace ++ [_] ++ [_]) = _
        rw [append_assoc]
        rfl
      · simp only [Run.final_cons, Run.final_nil, solo, next, result, equal, if_true,
          foldl_cons, foldl_nil, effect, Option.getD_some]
    · refine ⟨[.conflicted playId (formOf form) (storedTick startPoint message s form)
        (message.tick.stored form).value], [.resolves true, .resolves true], ?_, ?_⟩
      · simp only [Option.isSome_none, Bool.false_eq_true, if_false, library, equal, onConflicted]
        rfl
      · simp only [Run.final_cons, Run.final_nil, solo, next, result, equal, if_true,
          foldl_cons, foldl_nil, effect, Option.getD_some, Bool.false_eq_true,
          if_false]

open ShortMsgpack in
/-- The store holds another tick of the frame, so that the put conflicts. -/
theorem storeTickInner_steps_stored :
    let message := eventTick 1 8 (by decide) (by decide)
    let held := (emptyTick 1 (by decide)).tick
    let s : QueueState _ Unit := ⟨empty.applyPut noStartPoints ⟨held, false⟩, []⟩
    let a := { resolving ShortMsgpack.codec with
      put := fun _ => .conflict
      stored := fun _ => some (storedTick noStartPoints message s false) }
    ∃ happenings goings, PlaylogQueueConsumer.storeTickInner a "play"
        (message.tick.stored false).value false [] = .ok () happenings ∧
      Run.final (solo (next noStartPoints message)) (s, .putting false true) goings =
        (happenings.foldl (effect noStartPoints message false) s, after false true) :=
  storeTickInner_steps noStartPoints _ _ "play" _ false ⟨rfl, rfl, rfl, rfl⟩ []

variable {message} {s₀ s : ActiveStore (RawTick codec) σ}

def Has (message : RawTick codec) (s₀ s : ActiveStore (RawTick codec) σ) (form : Bool) : Prop :=
  s.ticks form = s₀.ticks form ++ [(putOf message form).record]

structure Between (message : RawTick codec) (s₀ s : ActiveStore (RawTick codec) σ) : Prop where
  ticks : ∀ form, s.ticks form = s₀.ticks form ∨ Has message s₀ s form
  startPoints : s.startPoints = s₀.startPoints

theorem ext_ticks {s s' : ActiveStore (RawTick codec) σ}
    (ticks : ∀ form, s.ticks form = s'.ticks form)
    (startPoints : s.startPoints = s'.startPoints) : s = s' := by
  have original : s.original = s'.original := ticks false
  have excluded : s.excludedIgnorable = s'.excludedIgnorable := ticks true
  cases s
  cases s'
  cases original
  cases excluded
  cases startPoints
  rfl

theorem startPoints_applyPut (s : ActiveStore (RawTick codec) σ) (p : TickPut codec) :
    (s.applyPut startPoint p).startPoints = s.startPoints := by
  unfold applyPut putTick
  cases Collection.insertOne (s.ticks p.ignorable) ((tickFormats codec startPoint).tick.toRecord
    p.tick) with
  | none => rfl
  | some records => cases p.ignorable <;> rfl

variable {form : Bool} {delivering delivering' : Delivering} {stored : Bool → Prop}
  {going : Going} {s' : QueueState codec σ}

theorem putTick_of_has (has : Has message s₀ s form) :
    s.putTick (tickFormats codec startPoint) (message.tick.stored form) form = none := by
  have known : (putOf message form).record.frame ∈ (s.ticks form).map Record.frame := by
    rw [has, map_append]
    exact mem_append_right _ mem_cons_self
  unfold putTick Collection.insertOne
  rw [if_pos]
  · rfl
  · exact known

theorem putTick_of_absent (fresh : Fresh message s₀) (absent : s.ticks form = s₀.ticks form) :
    s.putTick (tickFormats codec startPoint) (message.tick.stored form) form =
      some (s.setTicks form (s.ticks form ++ [(putOf message form).record])) := by
  have unknown : (putOf message form).record.frame ∉ (s.ticks form).map Record.frame := by
    rw [absent]
    exact fresh form
  unfold putTick Collection.insertOne
  rw [if_neg]
  · rfl
  · exact unknown

theorem applyPut_between (fresh : Fresh message s₀) (between : Between message s₀ s) (form : Bool) :
    Between message s₀ (s.applyPut startPoint (putOf message form)) ∧
      Has message s₀ (s.applyPut startPoint (putOf message form)) form ∧ ∀ other, other ≠ form →
        (s.applyPut startPoint (putOf message form)).ticks other = s.ticks other := by
  have points := startPoints_applyPut startPoint s (putOf message form)
  rcases between.ticks form with absent | has
  · have put : s.applyPut startPoint (putOf message form) =
        s.setTicks form (s.ticks form ++ [(putOf message form).record]) := by
      unfold applyPut
      exact congrArg (fun result => Option.getD result s)
        (putTick_of_absent startPoint fresh absent)
    rw [put] at points ⊢
    have here : Has message s₀
        (s.setTicks form (s.ticks form ++ [(putOf message form).record])) form := by
      rw [Has, ticks_setTicks, if_pos rfl, absent]
    have others : ∀ other, other ≠ form →
        (s.setTicks form (s.ticks form ++ [(putOf message form).record])).ticks other =
          s.ticks other := by
      intro other different
      rw [ticks_setTicks, if_neg different]
    refine ⟨⟨fun other => ?_, points.trans between.startPoints⟩, here, others⟩
    by_cases same : other = form
    · subst same
      exact .inr here
    · rw [Has, others other same]
      exact between.ticks other
  · have put : s.applyPut startPoint (putOf message form) = s := by
      unfold applyPut
      exact congrArg (fun result => Option.getD result s) (putTick_of_has startPoint has)
    rw [put]
    exact ⟨between, has, fun _ _ => rfl⟩

theorem between_refl : Between message s₀ s₀ := ⟨fun _ => .inl rfl, rfl⟩

theorem eq_delivered (fresh : Fresh message s₀) (between : Between message s₀ s)
    (both : ∀ form, Has message s₀ s form) : s = delivered startPoint message s₀ := by
  obtain ⟨first, original, _⟩ := applyPut_between startPoint fresh
    (between_refl : Between message s₀ s₀) false
  obtain ⟨second, excluded, kept⟩ := applyPut_between startPoint fresh first true
  refine ext_ticks (fun form => ?_) (between.startPoints.trans second.startPoints.symm)
  cases form with
  | false =>
    rw [delivered, kept false Bool.false_ne_true]
    exact (both false).trans original.symm
  | true => exact (both true).trans excluded.symm

theorem storedTick_of_has (fresh : Fresh message s₀) {s : QueueState codec σ}
    (has : Has message s₀ s.store form) :
    storedTick startPoint message s form = some (message.tick.stored form).normal.value := by
  have notBefore : ∀ record ∈ s₀.ticks form, record.frame ≠ message.tick.frame :=
    fun record there same => fresh form (mem_map.mpr ⟨record, there, same⟩)
  have found : Collection.findFrame (s.store.ticks form) message.tick.frame =
      some (putOf message form).record := by
    rw [Collection.findFrame, has, List.find?_append]
    have none : (s₀.ticks form).find? (fun record => record.frame = message.tick.frame) = none := by
      refine List.find?_eq_none.mpr fun record there same => ?_
      exact notBefore record there (of_decide_eq_true same)
    rw [none, Option.none_or]
    exact List.find?_cons_of_pos (decide_eq_true rfl)
  unfold storedTick getTick
  rw [found]
  rfl

def Knows (stored : Bool → Prop) : Delivering → Prop
  | .putting form whole => form = true → whole = true → stored false
  | .recovering form whole => stored form ∧ (form = true → whole = true → stored false)
  | .ended whole => whole = true → ∀ form, stored form

theorem Knows.mono {stored' : Bool → Prop} (kept : ∀ form, stored form → stored' form)
    (knows : Knows stored delivering) : Knows stored' delivering := by
  cases delivering with
  | putting form whole => exact fun isSecond isWhole => kept false (knows isSecond isWhole)
  | recovering form whole =>
    exact ⟨kept form knows.1, fun isSecond isWhole => kept false (knows.2 isSecond isWhole)⟩
  | ended whole => exact fun isWhole form => kept form (knows isWhole form)

theorem knows_after {whole : Bool} (here : whole = true → stored form)
    (before : form = true → whole = true → stored false) : Knows stored (after form whole) := by
  cases form with
  | false => exact fun _ isWhole => here isWhole
  | true =>
    intro isWhole form
    cases form with
    | false => exact before rfl isWhole
    | true => exact here isWhole

theorem next_store {s : QueueState codec σ}
    (moves : next startPoint message s delivering going = some (s', delivering')) :
    s'.store = s.store ∨ ∃ form, s'.store = s.store.applyPut startPoint (putOf message form) := by
  cases delivering with
  | ended whole => cases moves
  | recovering form whole =>
    left
    cases going with
    | fails applied continues =>
      cases moves
      rfl
    | resolves continues =>
      simp only [next] at moves
      split at moves <;> cases moves <;> rfl
  | putting form whole =>
    cases going with
    | fails applied continues =>
      cases moves
      cases applied with
      | true => exact .inr ⟨form, rfl⟩
      | false => exact .inl rfl
    | resolves continues =>
      simp only [next] at moves
      split at moves
      · next store put =>
        cases moves
        exact .inr ⟨form, (congrArg (fun result => Option.getD result s.store) put).symm⟩
      · cases moves
        exact .inl rfl

theorem next_knows {s : QueueState codec σ}
    (moves : next startPoint message s delivering going = some (s', delivering'))
    {stored' : Bool → Prop} (kept : ∀ form, stored form → stored' form)
    (put : ∀ form, s'.store = s.store.applyPut startPoint (putOf message form) → stored' form)
    (refused : ∀ form, s.store.putTick (tickFormats codec startPoint) (message.tick.stored form)
      form = none → stored form)
    (knows : Knows stored delivering) : Knows stored' delivering' := by
  have stops : Knows stored' (.ended false) := fun isWhole => (nomatch isWhole)
  cases delivering with
  | ended whole => cases moves
  | recovering form whole =>
    obtain ⟨here, before⟩ := knows
    have follows : Knows stored' (after form whole) :=
      (knows_after (fun _ => here) before).mono kept
    cases going with
    | fails applied continues =>
      cases moves
      exact stops
    | resolves continues =>
      simp only [next] at moves
      split at moves
      · cases moves
        exact follows
      · cases moves
        cases continues with
        | true => exact follows
        | false => exact stops
  | putting form whole =>
    cases going with
    | fails applied continues =>
      cases moves
      cases continues with
      | true =>
        exact knows_after (fun isWhole => (nomatch isWhole)) fun _ isWhole => (nomatch isWhole)
      | false => exact stops
    | resolves continues =>
      simp only [next] at moves
      split at moves
      · next store result =>
        cases moves
        have here := put form (congrArg (fun result => Option.getD result s.store) result).symm
        exact knows_after (fun _ => here) fun isSecond isWhole =>
          kept false (knows isSecond isWhole)
      · next result =>
        cases moves
        have here := refused form result
        exact ⟨kept form here, fun isSecond isWhole => kept false (knows isSecond isWhole)⟩

/-- `deepEqual` takes a tick for itself, and tells arrays of different lengths apart. -/
structure DeepEqual (codec : Codec) : Prop where
  refl : ∀ tick : Tick codec, codec.deepEqual (some tick.value) tick.value = true
  length : ∀ items items', codec.deepEqual (some (.array items)) (.array items') = true →
    items.length = items'.length

theorem deepEqual_normal_iff (deepEqual : DeepEqual codec) (tick : Tick codec) :
    codec.deepEqual (some tick.normal.value) tick.value = true ↔ tick.normal = tick := by
  constructor
  · intro equal
    have lengths := deepEqual.length _ _ equal
    rw [length_cons, length_cons, Nat.succ_inj] at lengths
    by_cases content : tick.hasContent = true
    · exact Tick.normal_of_content content
    · rw [Tick.normal_of_no_content content] at lengths ⊢
      exact Tick.ext rfl (length_eq_zero_iff.mp lengths.symm).symm
  · intro same
    rw [same]
    exact deepEqual.refl tick

theorem next_keeps (fresh : Fresh message s₀) {s : QueueState codec σ}
    (moves : next startPoint message s delivering going = some (s', delivering'))
    (between : Between message s₀ s.store) (knows : Knows (Has message s₀ s.store) delivering) :
    Between message s₀ s'.store ∧
      (∀ form, Has message s₀ s.store form → Has message s₀ s'.store form) ∧
      Knows (Has message s₀ s'.store) delivering' := by
  have put (form : Bool) := applyPut_between startPoint fresh between form
  have kept : ∀ other, Has message s₀ s.store other → Has message s₀ s'.store other := by
    intro other has
    rcases next_store startPoint moves with same | ⟨form, applied⟩
    · rw [same]
      exact has
    · rw [applied]
      by_cases same : other = form
      · subst same
        exact (put other).2.1
      · rw [Has, (put form).2.2 other same]
        exact has
  refine ⟨?_, kept, next_knows startPoint moves kept (fun form applied => ?_)
    (fun form refused => ?_) knows⟩
  · rcases next_store startPoint moves with same | ⟨form, applied⟩
    · rw [same]
      exact between
    · rw [applied]
      exact (put form).1
  · rw [applied]
    exact (put form).2.1
  · rcases between.ticks form with absent | has
    · rw [putTick_of_absent startPoint fresh absent] at refused
      cases refused
    · exact has

/-- A step emits a conflict only where a form does not read back. -/
theorem next_conflicts (fresh : Fresh message s₀) (deepEqual : DeepEqual codec)
    (readsBack : ∀ form, ReadsBack message form) {s : QueueState codec σ}
    (moves : next startPoint message s delivering going = some (s', delivering'))
    (knows : Knows (Has message s₀ s.store) delivering) : s'.conflicts = s.conflicts := by
  cases delivering with
  | ended whole => cases moves
  | recovering form whole =>
    cases going with
    | fails applied continues =>
      cases moves
      rfl
    | resolves continues =>
      have read := storedTick_of_has startPoint fresh knows.1
      have equal := (deepEqual_normal_iff deepEqual _).mpr
        ((Tick.normal_eq_self_iff _).mpr (readsBack form))
      simp only [next, read, equal, if_true] at moves
      cases moves
      rfl
  | putting form whole =>
    cases going with
    | fails applied continues =>
      cases moves
      rfl
    | resolves continues =>
      simp only [next] at moves
      split at moves <;> cases moves <;> rfl

abbrev Inv (message : RawTick codec) (s₀ : ActiveStore (RawTick codec) σ)
    (conflictFree : Bool) : Pool (QueueState codec σ) Delivering → Prop :=
  Pool.Inv (fun s => Between message s₀ s.store ∧ (conflictFree = true → s.conflicts = []))
    (fun s delivering => Knows (Has message s₀ s.store) delivering) fun _ _ => True

theorem inv_run (fresh : Fresh message s₀) (deepEqual : DeepEqual codec) (conflictFree : Bool)
    (readsBack : conflictFree = true → ∀ form, ReadsBack message form)
    (actions : List (Action Delivering Going))
    (run : Deliveries startPoint message (begin s₀) actions) : Inv message s₀ conflictFree
      (Run.final (step (next startPoint message)) (begin s₀) actions) := by
  refine Run.invariant ?_ (begin s₀) actions ?_ run
  · intro p action inv allowed
    refine Pool.inv_step (fun _ _ _ => trivial) ?_ ?_ ?_ p action inv allowed
    · intro s delivering starts _
      obtain rfl : delivering = .putting false true := starts
      exact ⟨fun isSecond => (nomatch isSecond), fun _ => trivial⟩
    · intro s delivering going s' delivering' moves glob knows
      obtain ⟨between', _, knows'⟩ := next_keeps startPoint fresh moves glob.1 knows
      refine ⟨⟨between', fun free => ?_⟩, knows'⟩
      rw [next_conflicts startPoint fresh deepEqual (readsBack free) moves knows]
      exact glob.2 free
    · intro s delivering going s' delivering' other moves glob knows knowsOther _ _
      obtain ⟨_, kept, _⟩ := next_keeps startPoint fresh moves glob.1 knows
      exact ⟨knowsOther.mono kept, trivial⟩
  · refine ⟨⟨between_refl, fun _ => rfl⟩, fun i delivering there => ?_, fun _ _ _ _ _ _ _ =>
    trivial⟩
    simp [begin] at there

theorem has_delivered (fresh : Fresh message s₀) (form : Bool) :
    Has message s₀ (delivered startPoint message s₀) form := by
  obtain ⟨first, original, _⟩ := applyPut_between startPoint fresh
    (between_refl : Between message s₀ s₀) false
  obtain ⟨_, excluded, kept⟩ := applyPut_between startPoint fresh first true
  cases form with
  | false =>
    rw [Has, delivered, kept false Bool.false_ne_true]
    exact original
  | true => exact excluded

theorem next_putting (s : ActiveStore (RawTick codec) σ) (conflicts : List (Option Value × Value))
    (fresh : Fresh message s₀) (form : Bool) (absent : s.ticks form = s₀.ticks form) :
    next startPoint message ⟨s, conflicts⟩ (.putting form true) (.resolves true) =
      some (⟨s.applyPut startPoint (putOf message form), conflicts⟩, after form true) := by
  have put := putTick_of_absent startPoint fresh absent
  have applied : s.applyPut startPoint (putOf message form) =
      s.setTicks form (s.ticks form ++ [(putOf message form).record]) :=
    congrArg (fun result => Option.getD result s) put
  simp only [next, put, applied]

theorem next_recovering (fresh : Fresh message s₀) (s : QueueState codec σ) (form : Bool)
    (has : Has message s₀ s.store form) :
    next startPoint message s (.putting form true) (.resolves true) =
        some (s, .recovering form true) ∧ ∃ s' : QueueState codec σ, s'.store = s.store ∧
        next startPoint message s (.recovering form true) (.resolves true) =
          some (s', after form true) ∧ (s'.conflicts = [] → s.conflicts = [] ∧
          codec.deepEqual (some (message.tick.stored form).normal.value)
            (message.tick.stored form).value = true) := by
  have put := putTick_of_has startPoint has
  have read := storedTick_of_has startPoint fresh has
  refine ⟨by simp only [next, put], ?_⟩
  by_cases equal : codec.deepEqual (some (message.tick.stored form).normal.value)
      (message.tick.stored form).value = true
  · refine ⟨s, rfl, by simp only [next, read, equal, if_true], fun free => ⟨free, equal⟩⟩
  · refine ⟨⟨s.store, s.conflicts ++ [(some (message.tick.stored form).normal.value,
      (message.tick.stored form).value)]⟩, rfl, ?_, fun free => ?_⟩
    · simp only [next, read, equal, if_true]
      rfl
    · simp at free

theorem step_at {State Thread Label : Type}
    (next : State → Thread → Label → Option (State × Thread))
    {s s' : State} {threads : List Thread} {i : Nat} {thread thread' : Thread} {label : Label}
    (here : threads[i]? = some thread) (moves : next s thread label = some (s', thread')) :
    step next ⟨s, threads⟩ (.step i label) = ⟨s', threads.set i thread'⟩ := by
  simp only [step, here, moves]

def twice : List (Action Delivering Going) :=
  .start (.putting false true) :: replicate 2 (.step 0 (.resolves true)) ++
    .start (.putting false true) :: replicate 4 (.step 1 (.resolves true))

theorem deliveries_twice (p : Pool (QueueState codec σ) Delivering) :
    Deliveries startPoint message p twice := by
  simp [Deliveries, twice, Run.Allowed, Allowed, Startable, replicate]

/-- A second delivery that emits nothing found both forms as they were put. -/
theorem readsBack_of_twice (fresh : Fresh message s₀) (deepEqual : DeepEqual codec)
    (free : (Run.final (step (next startPoint message)) (begin s₀) twice).state.conflicts =
      []) : ∀ form, ReadsBack message form := by
  have first := next_putting startPoint s₀ [] fresh false rfl
  obtain ⟨_, _, others⟩ := applyPut_between startPoint fresh
    (between_refl : Between message s₀ s₀) false
  have second := next_putting startPoint _ [] fresh true
    (others true Bool.false_ne_true.symm)
  let s : QueueState codec σ := ⟨delivered startPoint message s₀, []⟩
  obtain ⟨again, s', same, recovers, equal⟩ :=
    next_recovering startPoint fresh s false (has_delivered startPoint fresh false)
  have has : Has message s₀ s'.store true := by
    rw [same]
    exact has_delivered startPoint fresh true
  obtain ⟨again', s'', same', recovers', equal'⟩ :=
    next_recovering startPoint fresh s' true has
  have front : Run.final (step (next startPoint message)) (begin s₀)
      (.start (.putting false true) :: replicate 2 (.step 0 (.resolves true))) =
        ⟨s, [.ended true]⟩ := by
    simp only [replicate, Run.final_cons, Run.final_nil]
    change step (next startPoint message) (step (next startPoint message)
      ⟨⟨s₀, []⟩, [.putting false true]⟩ (.step 0 (.resolves true))) (.step 0 (.resolves true)) = _
    rw [step_at _ rfl first, step_at _ rfl second]
    rfl
  have ends : Run.final (step (next startPoint message)) (begin s₀) twice =
      ⟨s'', [.ended true, .ended true]⟩ := by
    rw [twice, Run.final_append, front]
    simp only [replicate, Run.final_cons, Run.final_nil]
    change step (next startPoint message) (step (next startPoint message)
      (step (next startPoint message) (step (next startPoint message)
        ⟨s, [.ended true, .putting false true]⟩ (.step 1 (.resolves true)))
        (.step 1 (.resolves true))) (.step 1 (.resolves true))) (.step 1 (.resolves true)) = _
    rw [step_at _ rfl again, step_at _ rfl recovers, step_at _ rfl again', step_at _ rfl recovers']
    rfl
  rw [ends] at free
  obtain ⟨free', isEqual'⟩ := equal' free
  obtain ⟨_, isEqual⟩ := equal free'
  intro form
  cases form with
  | false => exact (Tick.normal_eq_self_iff _).mp ((deepEqual_normal_iff deepEqual _).mp isEqual)
  | true => exact (Tick.normal_eq_self_iff _).mp ((deepEqual_normal_iff deepEqual _).mp isEqual')

variable (message s₀) in
/-- However often the message is delivered, and wherever the deliveries stop, no conflict
is emitted, and the store is as after one delivery as soon as one was whole. -/
def Idempotent : Prop :=
  ∀ actions, Deliveries startPoint message (begin s₀) actions →
    let p := Run.final (step (next startPoint message)) (begin s₀) actions
    p.state.conflicts = [] ∧
      (.ended true ∈ p.threads → p.state.store = delivered startPoint message s₀)

/-- Redelivery is idempotent exactly for the messages both forms of which read back. -/
theorem idempotent_iff (deepEqual : DeepEqual codec) (fresh : Fresh message s₀) :
    Idempotent startPoint message s₀ ↔ ∀ form, ReadsBack message form := by
  constructor
  · intro idempotent
    have free := (idempotent twice (deliveries_twice startPoint _)).1
    exact readsBack_of_twice startPoint fresh deepEqual free
  · intro readsBack actions run
    have inv := inv_run startPoint fresh deepEqual true (fun _ => readsBack) actions run
    refine ⟨inv.glob.2 rfl, fun there => ?_⟩
    obtain ⟨i, here⟩ := List.getElem?_of_mem there
    have knows := inv.loc i _ here
    exact eq_delivered startPoint fresh inv.glob.1 (knows rfl)

open ShortMsgpack in
/-- A tick whose only event is transient: each form is read back without its empty list. -/
theorem transient_conflicts :
    ¬ Idempotent noStartPoints (eventTick 1 4 (by decide) (by decide)) empty := by
  intro idempotent
  have free := congrArg List.length (idempotent twice (deliveries_twice noStartPoints _)).1
  revert free
  decide +kernel

theorem deepEqual_short : DeepEqual ShortMsgpack.codec where
  refl := by
    intro tick
    have frame := ShortMsgpack.decode_short _ _ tick.carriesFrame
    have all : ShortMsgpack.AllShort (.number tick.frame :: tick.rest) := by
      refine ⟨frame, ?_⟩
      by_cases some : tick.rest = []
      · rw [some]
        trivial
      · have short := ShortMsgpack.decode_short _ _ (tick.carries some)
        exact short.2.2
    exact ShortMsgpack.sameItems_refl _ all
  length := fun items items' same => ShortMsgpack.length_of_sameItems items items' same

open ShortMsgpack in
theorem idempotent_of_event :
    Idempotent noStartPoints (eventTick 1 0 (by decide) (by decide)) empty := by
  refine (idempotent_iff noStartPoints deepEqual_short fun form there => ?_).mpr fun form => ?_
  · cases form <;> cases there
  · cases form
    · exact .inl (by decide +kernel)
    · exact .inl (by decide +kernel)

end Delivering
end AkashicSystem.Playlog
