import AkashicSystem.Lib.Keyed
import AkashicSystem.Playlog.Redelivery

/-!
# Reads without ignorable events

Reads of a play's ticks without their ignorable events, interleaved with the
deliveries that store the ticks.  A read looks among the ticks without them
first and, where it finds nothing, among all ticks; a delivery stores the tick
in the other order.
-/

set_option autoImplicit false

namespace AkashicSystem.Playlog

open AkashicSystem.Js List
open Delivering (next_store putOf)
open Collection (applyLimit findFrame sortFrame)

variable {codec : Codec} {S σ : Type}

structure PlayTicks (codec : Codec) where
  at? : Int → Option (Tick codec)
  framed : ∀ frame tick, at? frame = some tick → tick.frame = frame

def PlayTicks.Has (play : PlayTicks codec) (tick : Tick codec) : Prop :=
  play.at? tick.frame = some tick

/-- `getTick` and `getTicksRaw`, as far as they find records. -/
inductive ExcludedRead where
  | single (frame : Int)
  | range (frameFrom frameTo : Option Int) (limit : Nat)

namespace ExcludedRead

def find {β : Type} (records : List (Record β)) : ExcludedRead → List (Record β)
  | .single frame => (findFrame records frame).toList
  | .range frameFrom frameTo limit =>
    ActiveStore.getTicksInner ⟨frameFrom, frameTo, limit, true⟩ records

def asks : ExcludedRead → Int → Bool
  | .single frame', frame => frame = frame'
  | .range frameFrom frameTo limit, frame =>
    ActiveStore.inRange ⟨frameFrom, frameTo, limit, true⟩ frame

/-- The read asks for the frame, and where it has a limit, comes to it among the frames there. -/
def Reaches (read : ExcludedRead) (frames : List Int) (frame : Int) : Prop :=
  read.asks frame ∧ match read with
    | .single _ => True
    | .range _ _ limit =>
      limit = 0 ∨ (frames.filter read.asks).countP (fun other => other < frame) < limit

end ExcludedRead

/-- What goes on in a play: its ticks are stored and read. -/
inductive PlayTask (play : PlayTicks codec) where
  | storing (message : RawTick codec) (has : play.Has message.tick) (delivering : Delivering)
  | finding (read : ExcludedRead)
  /-- The first look found nothing; the frames that were put without ignorable events by then. -/
  | retrying (read : ExcludedRead) (excluded : List Int)
  | answered (read : ExcludedRead) (ticks : List (Tick codec))
  | rejected (read : ExcludedRead)

namespace PlayTask

variable {play : PlayTicks codec} (startPoint : Format S σ)

def next (s : QueueState codec σ) (task : PlayTask play) (going : Going) :
    Option (QueueState codec σ × PlayTask play) :=
  match task, going with
  | .storing message has delivering, going =>
    (Delivering.next startPoint message s delivering going).map fun moved =>
      (moved.1, .storing message has moved.2)
  | .finding read, .resolves _ =>
    match read.find s.store.excludedIgnorable with
    | [] => some (s, .retrying read (s.store.excludedIgnorable.map Record.frame))
    | records => some (s, .answered read (records.map (tickFormat codec).decodeRecord))
  | .retrying read _, .resolves _ =>
    some (s, .answered read
      ((read.find s.store.original).map (tickFormat codec).decodeRecord))
  | .finding read, .fails _ _ => some (s, .rejected read)
  | .retrying read _, .fails _ _ => some (s, .rejected read)
  | .answered _ _, _ => none
  | .rejected _, _ => none

end PlayTask

/-- A message of the play is delivered, once more perhaps; a read is begun; a task goes on. -/
inductive PlayAction (play : PlayTicks codec) where
  | deliver (message : RawTick codec) (has : play.Has message.tick)
  | look (read : ExcludedRead)
  | advance (index : Nat) (going : Going)

namespace PlayAction

variable {play : PlayTicks codec} (startPoint : Format S σ)

def step (p : Pool (QueueState codec σ) (PlayTask play)) (action : PlayAction play) :
    Pool (QueueState codec σ) (PlayTask play) :=
  match action with
  | .deliver message has =>
    p.step (PlayTask.next startPoint) (.start (.storing message has (.putting false true)))
  | .look read => p.step (PlayTask.next startPoint) (.start (.finding read))
  | .advance index going => p.step (PlayTask.next startPoint) (.step index going)

def begin (play : PlayTicks codec) (startPoints : List (Record σ)) :
    Pool (QueueState codec σ) (PlayTask play) :=
  ⟨⟨⟨[], [], startPoints⟩, []⟩, []⟩

/-- The two puts of a tick whose original has ignorable events are not astride the two looks of a
read that reaches it: the first put comes after the second look, or the second put before the
first look. -/
def Apart (p : Pool (QueueState codec σ) (PlayTask play)) : PlayAction play → Prop
  | .advance index (.resolves _) => ∀ read excluded,
      p.threads[index]? = some (.retrying read excluded) → ∀ tick, play.Has tick →
        ¬ (tick.stored false).Lacks [codec.eventFlagsMask.ignorable] →
        read.Reaches (p.state.store.original.map Record.frame) tick.frame →
          tick.frame ∉ p.state.store.original.map Record.frame ∨ tick.frame ∈ excluded
  | _ => True

end PlayAction

namespace PlayTask

variable {play : PlayTicks codec} {startPoint : Format S σ}

/-- No tick that a read was answered with has an ignorable event. -/
def Unexposed (p : Pool (QueueState codec σ) (PlayTask play)) : Prop :=
  ∀ read ticks, PlayTask.answered read ticks ∈ p.threads →
    ∀ tick ∈ ticks, tick.Lacks [codec.eventFlagsMask.ignorable]

/-- Of every tick that was delivered, one delivery was whole. -/
def Settled (p : Pool (QueueState codec σ) (PlayTask play)) : Prop :=
  ∀ message has delivering, PlayTask.storing message has delivering ∈ p.threads →
    ∃ message' has', PlayTask.storing message' has' (.ended true) ∈ p.threads ∧
      message'.tick.frame = message.tick.frame

def BothForms (s : ActiveStore (RawTick codec) σ) : Prop :=
  ∀ frame, frame ∈ s.original.map Record.frame ↔ frame ∈ s.excludedIgnorable.map Record.frame

def removed (tick : Tick codec) : Tick codec := (tick.without (storedMasks codec true)).normal

variable (startPoint) in
/-- Reads without ignorable events show the ticks of the original reads with the events of
both kinds removed. -/
structure Matches (s : ActiveStore (RawTick codec) σ) : Prop where
  single : ∀ frame, s.getTick (tickFormats codec startPoint) frame true =
    (s.getTick (tickFormats codec startPoint) frame false).map removed
  range : ∀ frameFrom frameTo limit,
    s.getTicks (tickFormats codec startPoint) ⟨frameFrom, frameTo, limit, true⟩ =
      (s.getTicks (tickFormats codec startPoint) ⟨frameFrom, frameTo, limit, false⟩).map removed

/-- A collection holds one form of ticks of the play. -/
def Holds (play : PlayTicks codec) (form : Bool) (records : List (Record (RawTick codec)))
    (ticks : List (Tick codec)) : Prop :=
  (∀ tick ∈ ticks, play.Has tick) ∧ (ticks.map Tick.frame).Nodup ∧
    records = ticks.map fun tick => (tickFormat codec).toRecord (tick.stored form)

def Stored (play : PlayTicks codec) (s : ActiveStore (RawTick codec) σ) : Prop :=
  ∀ form, ∃ ticks, Holds play form (s.ticks form) ticks

variable {records : List (Record (RawTick codec))} {s : ActiveStore (RawTick codec) σ}
  {s' : QueueState codec σ} {index : Nat} {old : PlayTask play}
  {p : Pool (QueueState codec σ) (PlayTask play)}

theorem Holds.frames {form : Bool} {ticks : List (Tick codec)}
    (holds : Holds play form records ticks) : records.map Record.frame = ticks.map Tick.frame := by
  rw [holds.2.2, map_map]
  rfl

theorem applyPut_stored (stored : Stored play s) (message : RawTick codec)
    (has : play.Has message.tick) (form : Bool) :
    Stored play (s.applyPut startPoint (putOf message form)) := by
  by_cases known : message.tick.frame ∈ (s.ticks form).map Record.frame
  · rw [ActiveStore.applyPut_of_known startPoint s (putOf message form) known]
    exact stored
  · intro other
    have put := ActiveStore.ticks_applyPut startPoint s (putOf message form) known other
    rw [put]
    obtain ⟨ticks, own, nodup, records⟩ := stored other
    by_cases same : other = form
    · subst same
      have absent : message.tick.frame ∉ ticks.map Tick.frame := by
        rw [← Holds.frames ⟨own, nodup, records⟩]
        exact known
      refine ⟨ticks ++ [message.tick], ?_, ?_, ?_⟩
      · intro tick there
        rcases mem_append.mp there with before | last
        · exact own tick before
        · rw [mem_singleton.mp last]
          exact has
      · exact Keyed.nodup_map_append Tick.frame ticks message.tick nodup absent
      · rw [records, map_append]
        simp [TickPut.into, putOf, TickPut.record]
    · have none : TickPut.into other [putOf message form] = [] := by
        simp [TickPut.into, putOf, Ne.symm same]
      rw [none, map_nil, append_nil]
      exact ⟨ticks, own, nodup, records⟩

theorem lacks_stored (tick : Tick codec) :
    (tick.stored true).normal.Lacks [codec.eventFlagsMask.ignorable] :=
  (Tick.lacks_without tick (storedMasks codec true)).normal.tail

/-- The second form is the first one, as it is read, without the events of both kinds. -/
theorem removed_stored (tick : Tick codec) :
    removed (tick.stored false).normal = (tick.stored true).normal :=
  Tick.normal_without_normal_without tick _ _ fun event lacking => Tick.lacks_of_cons event lacking

theorem ticks_perm {records' : List (Record (RawTick codec))} {ticks ticks' : List (Tick codec)}
    (holds : Holds play false records ticks) (holds' : Holds play true records' ticks')
    (both : ∀ frame, frame ∈ records.map Record.frame ↔ frame ∈ records'.map Record.frame) :
    ticks'.Perm ticks := by
  rw [holds.frames, holds'.frames] at both
  have nodup : ticks.Nodup := Nodup.of_map Tick.frame holds.2.1
  have nodup' : ticks'.Nodup := Nodup.of_map Tick.frame holds'.2.1
  refine (perm_ext_iff_of_nodup nodup' nodup).mpr fun tick => ?_
  -- a play has one tick of a frame
  have same : ∀ other other' : Tick codec, play.Has other → play.Has other' →
      other.frame = other'.frame → other = other' := by
    intro other other' has has' frame
    rw [PlayTicks.Has, frame] at has
    exact Option.some.inj (has.symm.trans has')
  constructor
  · intro there
    obtain ⟨other, inTicks, frame⟩ :=
      mem_map.mp ((both tick.frame).mpr (mem_map_of_mem there))
    rw [same tick other (holds'.1 tick there) (holds.1 other inTicks) frame.symm]
    exact inTicks
  · intro there
    obtain ⟨other, inTicks, frame⟩ :=
      mem_map.mp ((both tick.frame).mp (mem_map_of_mem there))
    rw [same tick other (holds.1 tick there) (holds'.1 other inTicks) frame.symm]
    exact inTicks

theorem find_map (read : ExcludedRead) (ticks : List (Tick codec)) :
    ∃ found : List (Tick codec), ∀ form,
      read.find (ticks.map fun tick => (tickFormat codec).toRecord (tick.stored form)) =
        found.map fun tick => (tickFormat codec).toRecord (tick.stored form) := by
  cases read with
  | single frame =>
    refine ⟨(ticks.find? fun tick => tick.frame = frame).toList, fun form => ?_⟩
    rw [ExcludedRead.find, findFrame, List.find?_map]
    have same : ((fun record : Record (RawTick codec) => decide (record.frame = frame)) ∘
        fun tick : Tick codec => (tickFormat codec).toRecord (tick.stored form)) =
        fun tick => decide (tick.frame = frame) := rfl
    rw [same]
    cases ticks.find? fun tick => tick.frame = frame <;> rfl
  | range frameFrom frameTo limit =>
    let inRange := fun tick : Tick codec =>
      ActiveStore.inRange ⟨frameFrom, frameTo, limit, true⟩ tick.frame
    let sorted := (ticks.filter inRange).insertionSort fun tick tick' => tick.frame ≤ tick'.frame
    refine ⟨if limit = 0 then sorted else sorted.take limit, fun form => ?_⟩
    have filtered : (ticks.map fun tick => (tickFormat codec).toRecord (tick.stored form)).filter
        (fun record => ActiveStore.inRange ⟨frameFrom, frameTo, limit, true⟩ record.frame) =
        (ticks.filter inRange).map fun tick => (tickFormat codec).toRecord (tick.stored form) := by
      rw [filter_map]
      rfl
    have sorting : sortFrame ((ticks.filter inRange).map fun tick =>
        (tickFormat codec).toRecord (tick.stored form)) =
        sorted.map fun tick => (tickFormat codec).toRecord (tick.stored form) := by
      symm
      exact map_insertionSort _ _ _ _ fun _ _ _ _ => Iff.rfl
    rw [ExcludedRead.find, ActiveStore.getTicksInner, filtered, sorting, applyLimit]
    by_cases unlimited : limit = 0
    · rw [if_pos unlimited, if_pos unlimited]
    · rw [if_neg unlimited, if_neg unlimited, map_take]

theorem find_perm {records' : List (Record (RawTick codec))} (perm : records.Perm records')
    (nodup : (records.map Record.frame).Nodup) (read : ExcludedRead) :
    read.find records = read.find records' := by
  cases read with
  | single frame =>
    rw [ExcludedRead.find, ExcludedRead.find, findFrame_perm perm nodup]
  | range frameFrom frameTo limit =>
    exact getTicksInner_perm perm nodup _

/-- Where all ticks have both forms, a read finds the two forms of the same ticks. -/
theorem find_both (stored : Stored play s) (both : BothForms s) (read : ExcludedRead) :
    (read.find s.excludedIgnorable).map (tickFormat codec).decodeRecord =
      ((read.find s.original).map (tickFormat codec).decodeRecord).map removed ∧
    (read.find s.excludedIgnorable = [] ↔ read.find s.original = []) := by
  obtain ⟨ticks, holds⟩ := stored false
  obtain ⟨ticks', holds'⟩ := stored true
  have perm := ticks_perm holds holds' both
  have excluded : s.excludedIgnorable.Perm
      (ticks.map fun tick => (tickFormat codec).toRecord (tick.stored true)) := by
    have records : s.excludedIgnorable = _ := holds'.2.2
    rw [records]
    exact perm.map _
  have nodup : (s.excludedIgnorable.map Record.frame).Nodup := by
    have frames : s.excludedIgnorable.map Record.frame = _ := holds'.frames
    rw [frames]
    exact holds'.2.1
  obtain ⟨found, finds⟩ := find_map read ticks
  have original : s.original = ticks.map fun tick =>
    (tickFormat codec).toRecord (tick.stored false) :=
    holds.2.2
  rw [find_perm excluded nodup read, original, finds true, finds false]
  constructor
  · rw [map_map, map_map, map_map]
    exact map_congr_left fun tick _ => (removed_stored tick).symm
  · rw [map_eq_nil_iff, map_eq_nil_iff]

theorem matches_of_bothForms (stored : Stored play s) (both : BothForms s) :
    Matches startPoint s := by
  constructor
  · intro frame
    obtain ⟨same, nothing⟩ := find_both stored both (.single frame)
    rw [ActiveStore.getTick_excludedIgnorable, ActiveStore.getTick_original]
    cases excluded : findFrame s.excludedIgnorable frame with
    | none =>
      have none : findFrame s.original frame = none := by
        have empty := nothing.mp (by rw [ExcludedRead.find, excluded]; rfl)
        exact Option.toList_eq_nil_iff.mp empty
      rw [none]
      rfl
    | some record =>
      cases original : findFrame s.original frame with
      | none =>
        have empty := nothing.mpr (by rw [ExcludedRead.find, original]; rfl)
        rw [ExcludedRead.find, excluded] at empty
        cases empty
      | some record' =>
        rw [ExcludedRead.find, ExcludedRead.find, excluded, original] at same
        exact congrArg some (head_eq_of_cons_eq same)
  · intro frameFrom frameTo limit
    obtain ⟨same, nothing⟩ := find_both stored both (.range frameFrom frameTo limit)
    rw [ActiveStore.getTicks_eq, ActiveStore.getTicks_eq,
      ActiveStore.getTicksRecords_excludedIgnorable s rfl,
        ActiveStore.getTicksRecords_original s rfl]
    change ((if (ExcludedRead.range frameFrom frameTo limit).find s.excludedIgnorable = [] then
        (ExcludedRead.range frameFrom frameTo limit).find s.original
      else (ExcludedRead.range frameFrom frameTo limit).find s.excludedIgnorable).map _) =
      (((ExcludedRead.range frameFrom frameTo limit).find s.original).map _).map removed
    by_cases empty : (ExcludedRead.range frameFrom frameTo limit).find s.excludedIgnorable = []
    · rw [if_pos empty, nothing.mp empty]
      rfl
    · rw [if_neg empty]
      exact same

def InForm (s : ActiveStore (RawTick codec) σ) (form : Bool) (frame : Int) : Prop :=
  frame ∈ (s.ticks form).map Record.frame

theorem inForm_applyPut (s : ActiveStore (RawTick codec) σ) (p : TickPut codec) (form : Bool)
    (frame : Int) : InForm (s.applyPut startPoint p) form frame ↔
      InForm s form frame ∨ (form = p.ignorable ∧ frame = p.tick.frame) := by
  by_cases known : p.tick.frame ∈ (s.ticks p.ignorable).map Record.frame
  · rw [ActiveStore.applyPut_of_known startPoint s p known]
    refine ⟨.inl, fun cond => ?_⟩
    rcases cond with here | ⟨rfl, rfl⟩
    · exact here
    · exact known
  · unfold InForm
    rw [ActiveStore.ticks_applyPut startPoint s p known, map_append, mem_append]
    by_cases same : form = p.ignorable
    · subst same
      simp [TickPut.into, TickPut.record, Format.toRecord, tickFormat]
    · simp [TickPut.into, same, Ne.symm same]

theorem next_frames {message : RawTick codec} {s : QueueState codec σ}
    {delivering delivering' : Delivering} {going : Going}
    (moves : Delivering.next startPoint message s delivering going = some (s', delivering')) :
    (∀ form frame, InForm s.store form frame → InForm s'.store form frame) ∧
      (∀ form frame, InForm s'.store form frame →
        InForm s.store form frame ∨ frame = message.tick.frame) ∧
      (delivering.Knows (InForm s.store · message.tick.frame) →
        delivering'.Knows (InForm s'.store · message.tick.frame)) := by
  have kept : ∀ form frame, InForm s.store form frame → InForm s'.store form frame := by
    intro form frame here
    rcases next_store startPoint moves with same | ⟨form', applied⟩
    · rw [same]
      exact here
    · rw [applied]
      exact (inForm_applyPut s.store _ form frame).mpr (.inl here)
  refine ⟨kept, fun form frame here => ?_, fun knows => ?_⟩
  · rcases next_store startPoint moves with same | ⟨form', applied⟩
    · rw [same] at here
      exact .inl here
    · rw [applied, inForm_applyPut] at here
      rcases here with before | ⟨_, frame⟩
      · exact .inl before
      · exact .inr frame
  · refine Delivering.next_knows startPoint moves (fun form => kept form _) (fun form applied => ?_)
      (fun form refused => ?_) knows
    · rw [applied]
      exact (inForm_applyPut s.store _ form _).mpr (.inr ⟨rfl, rfl⟩)
    · exact (ActiveStore.putTick_eq_none_iff startPoint s.store
        (putOf message form)).mp refused

def Looked (task : PlayTask play) : Prop :=
  ∀ read excluded, task = .retrying read excluded → ∀ frame ∈ excluded, read.asks frame = false

structure PlayInv (p : Pool (QueueState codec σ) (PlayTask play)) : Prop where
  stored : Stored play p.state.store
  delivered : ∀ form frame, InForm p.state.store form frame →
    ∃ message has delivering, PlayTask.storing message has delivering ∈ p.threads ∧
      message.tick.frame = frame
  knows : ∀ message has delivering, PlayTask.storing message has delivering ∈ p.threads →
    delivering.Knows (InForm p.state.store · message.tick.frame)
  looked : ∀ task ∈ p.threads, Looked task

theorem looked_of_ne {task : PlayTask play}
    (other : ∀ read excluded, task ≠ .retrying read excluded) : Looked task :=
  fun read excluded eq => absurd eq (other read excluded)

theorem mem_set_or {threads : List (PlayTask play)} {new task : PlayTask play}
    (here : threads[index]? = some old) (there : task ∈ threads) :
    task ∈ threads.set index new ∨ task = old := by
  obtain ⟨i, at_i⟩ := List.getElem?_of_mem there
  by_cases same : index = i
  · subst same
    exact .inr (Option.some.inj (at_i.symm.trans here))
  · have kept : (threads.set index new)[i]? = some task := by
      rw [List.getElem?_set_ne same]
      exact at_i
    exact .inl (mem_of_getElem? kept)

theorem mem_set_self {threads : List (PlayTask play)} (here : threads[index]? = some old)
    (new : PlayTask play) : new ∈ threads.set index new :=
  mem_set (List.getElem?_eq_some_iff.mp here).1 new

theorem playInv_start (inv : PlayInv p) (task : PlayTask play)
    (begins : ∀ message has delivering, task = .storing message has delivering →
      delivering = .putting false true) (looked : Looked task) :
    PlayInv ⟨p.state, p.threads ++ [task]⟩ where
  stored := inv.stored
  delivered := by
    intro form frame here
    obtain ⟨message, has, delivering, there, isFrame⟩ := inv.delivered form frame here
    exact ⟨message, has, delivering, mem_append_left _ there, isFrame⟩
  knows := by
    intro message has delivering there
    rcases mem_append.mp there with before | last
    · exact inv.knows message has delivering before
    · rw [begins message has delivering (mem_singleton.mp last).symm]
      exact fun isSecond => (nomatch isSecond)
  looked := by
    intro task' there
    rcases mem_append.mp there with before | last
    · exact inv.looked task' before
    · rwa [mem_singleton.mp last]

theorem playInv_set (inv : PlayInv p) (here : p.threads[index]? = some old) (new : PlayTask play)
    (noDelivery : (∀ message has delivering, old ≠ .storing message has delivering) ∧
      ∀ message has delivering, new ≠ .storing message has delivering) (looked : Looked new) :
    PlayInv ⟨p.state, p.threads.set index new⟩ where
  stored := inv.stored
  delivered := by
    intro form frame inForm
    obtain ⟨message, has, delivering, there, isFrame⟩ := inv.delivered form frame inForm
    refine ⟨message, has, delivering, ?_, isFrame⟩
    rcases mem_set_or here there with kept | isOld
    · exact kept
    · exact absurd isOld.symm (noDelivery.1 message has delivering)
  knows := by
    intro message has delivering there
    rcases mem_or_eq_of_mem_set there with before | isNew
    · exact inv.knows message has delivering before
    · exact absurd isNew.symm (noDelivery.2 message has delivering)
  looked := by
    intro task there
    rcases mem_or_eq_of_mem_set there with before | rfl
    · exact inv.looked task before
    · exact looked

theorem playInv_storing (inv : PlayInv p) {message : RawTick codec} {has : play.Has message.tick}
    {delivering delivering' : Delivering} {going : Going}
    (here : p.threads[index]? = some (.storing message has delivering))
    (moves : Delivering.next startPoint message p.state delivering going = some (s', delivering')) :
    PlayInv ⟨s', p.threads.set index (.storing message has delivering')⟩ := by
  obtain ⟨kept, new, knows⟩ := next_frames moves
  refine ⟨?_, ?_, ?_, fun task there => ?_⟩
  · rcases next_store startPoint moves with same | ⟨form, put⟩
    · rw [same]
      exact inv.stored
    · rw [put]
      exact applyPut_stored inv.stored message has form
  · intro form frame inForm
    rcases new form frame inForm with before | isFrame
    · obtain ⟨other, has', delivering'', there, isFrame⟩ := inv.delivered form frame before
      rcases mem_set_or here there with still | moved
      · exact ⟨other, has', delivering'', still, isFrame⟩
      · cases moved
        exact ⟨message, has, delivering', mem_set_self here _, isFrame⟩
    · exact ⟨message, has, delivering', mem_set_self here _, isFrame.symm⟩
  · intro other has' delivering'' there
    rcases mem_or_eq_of_mem_set there with before | moved
    · exact (inv.knows other has' delivering'' before).mono fun form => kept form _
    · cases moved
      exact knows (inv.knows message has delivering (mem_of_getElem? here))
  · rcases mem_or_eq_of_mem_set there with before | rfl
    · exact inv.looked task before
    · exact looked_of_ne fun _ _ eq => by cases eq

theorem find_ne_nil {β : Type} {records : List (Record β)} {read : ExcludedRead}
    {record : Record β} (there : record ∈ records) (asks : read.asks record.frame = true) :
    read.find records ≠ [] := by
  cases read with
  | single frame =>
    intro nothing
    have none := List.find?_eq_none.mp (Option.toList_eq_nil_iff.mp nothing) record there
    exact none asks
  | range frameFrom frameTo limit =>
    have found : record ∈ sortFrame (records.filter fun record =>
        ActiveStore.inRange ⟨frameFrom, frameTo, limit, true⟩ record.frame) :=
      (mem_insertionSort _).mpr (mem_filter.mpr ⟨there, asks⟩)
    rw [ExcludedRead.find, ActiveStore.getTicksInner, applyLimit]
    split
    · exact ne_nil_of_mem found
    · intro nothing
      rcases take_eq_nil_iff.mp nothing with zero | none
      · contradiction
      · exact ne_nil_of_mem found none

theorem next_finding {s : QueueState codec σ} {read : ExcludedRead} {task' : PlayTask play}
    {going : Going} (moves : next startPoint s (.finding read) going = some (s', task')) :
    s' = s ∧ (task' = .rejected read ∨
      (task' = .retrying read (s.store.excludedIgnorable.map Record.frame) ∧ Looked task') ∨
      task' = .answered read
        ((read.find s.store.excludedIgnorable).map (tickFormat codec).decodeRecord)) := by
  cases going with
  | fails applied continues =>
    cases moves
    exact ⟨rfl, .inl rfl⟩
  | resolves continues =>
    simp only [next] at moves
    split at moves
    · next nothing =>
      cases moves
      refine ⟨rfl, .inr (.inl ⟨rfl, ?_⟩)⟩
      rintro read' excluded eq frame there
      cases eq
      obtain ⟨record, inStore, rfl⟩ := mem_map.mp there
      by_contra asks
      exact find_ne_nil inStore ((Bool.not_eq_false _).mp asks) nothing
    · cases moves
      exact ⟨rfl, .inr (.inr rfl)⟩

theorem playInv_step (p : Pool (QueueState codec σ) (PlayTask play)) (action : PlayAction play)
    (inv : PlayInv p) : PlayInv (action.step startPoint p) := by
  cases action with
  | deliver message has =>
    refine playInv_start inv _ (fun message' has' delivering eq => ?_)
      (looked_of_ne fun _ _ eq => by cases eq)
    cases eq
    rfl
  | look read =>
    exact playInv_start inv _ (fun _ _ _ eq => by cases eq) (looked_of_ne fun _ _ eq => by cases eq)
  | advance index going =>
    rcases Pool.step_cases (next startPoint) p index going with
      same | ⟨task, s', task', here, moves, eq⟩
    · rw [PlayAction.step, same]
      exact inv
    · rw [PlayAction.step, eq]
      cases task with
      | storing message has delivering =>
        simp only [next, Option.map_eq_some_iff] at moves
        obtain ⟨⟨s'', delivering'⟩, moves, eq⟩ := moves
        cases eq
        exact playInv_storing inv here moves
      | answered read ticks | rejected read => cases moves
      | finding read =>
        obtain ⟨rfl, ends⟩ := next_finding moves
        refine playInv_set inv here task' ⟨(fun _ _ _ eq => by cases eq), ?_⟩ ?_
        · intro message has delivering eq
          subst eq
          rcases ends with eq | ⟨eq, -⟩ | eq <;> cases eq
        · rcases ends with rfl | ⟨-, looked⟩ | rfl
          · exact looked_of_ne fun _ _ eq => by cases eq
          · exact looked
          · exact looked_of_ne fun _ _ eq => by cases eq
      | retrying read excluded =>
        cases going with
        | fails applied continues | resolves continues =>
          cases moves
          exact playInv_set inv here _ ⟨(fun _ _ _ eq => by cases eq),
            (fun _ _ _ eq => by cases eq)⟩ (looked_of_ne fun _ _ eq => by cases eq)

theorem bothForms_of_settled (inv : PlayInv p) (settled : Settled p) : BothForms p.state.store := by
  have everywhere : ∀ form frame, InForm p.state.store form frame →
      ∀ other, InForm p.state.store other frame := by
    intro form frame here other
    obtain ⟨message, has, delivering, there, rfl⟩ := inv.delivered form frame here
    obtain ⟨message', has', whole, sameFrame⟩ := settled message has delivering there
    rw [← sameFrame]
    exact inv.knows message' has' _ whole rfl other
  intro frame
  exact ⟨fun here => everywhere false frame here true, fun here => everywhere true frame here false⟩

/-- A look finds the records of the frames it reaches. -/
theorem mem_find_iff {β : Type} {records : List (Record β)}
    (nodup : (records.map Record.frame).Nodup) (read : ExcludedRead) (record : Record β) :
    record ∈ read.find records ↔
      record ∈ records ∧ read.Reaches (records.map Record.frame) record.frame := by
  cases read with
  | single frame =>
    rw [ExcludedRead.find, Option.mem_toList, findFrame, ExcludedRead.Reaches, and_true]
    constructor
    · exact fun found => ⟨List.mem_of_find?_eq_some found, (List.find?_some found :)⟩
    · rintro ⟨there, isFrame⟩
      cases found : records.find? fun record => record.frame = frame with
      | none => exact absurd isFrame (List.find?_eq_none.mp found record there)
      | some other =>
        have same : other.frame = record.frame :=
          (of_decide_eq_true (List.find?_some found :)).trans (of_decide_eq_true isFrame).symm
        exact congrArg some
          (inj_on_of_nodup_map nodup (List.mem_of_find?_eq_some found) there same)
  | range frameFrom frameTo limit =>
    let asked := records.filter fun record =>
      ActiveStore.inRange ⟨frameFrom, frameTo, limit, true⟩ record.frame
    have perm : (sortFrame asked).Perm asked := perm_insertionSort _ _
    have distinct : ((sortFrame asked).map Record.frame).Nodup := by
      refine (perm.map Record.frame).nodup_iff.mpr (nodup.sublist ?_)
      exact filter_sublist.map Record.frame
    have sorted : (sortFrame asked).Pairwise fun r r' => r.frame < r'.frame := by
      have ordered : (sortFrame asked).Pairwise fun r r' => r.frame ≤ r'.frame :=
        Sorted.pairwise_insertionSort (r := fun r r' : Record β => r.frame ≤ r'.frame)
          (fun r r' => Int.le_total r.frame r'.frame) (fun r r' r'' => Int.le_trans) asked
      exact (ordered.and (pairwise_map.mp distinct)).imp fun both => lt_of_le_of_ne both.1 both.2
    have mem : record ∈ sortFrame asked ↔ record ∈ records ∧
        (ExcludedRead.range frameFrom frameTo limit).asks record.frame = true :=
      perm.mem_iff.trans mem_filter
    have count : (sortFrame asked).countP (fun r => r.frame < record.frame) =
        ((records.map Record.frame).filter (ExcludedRead.range frameFrom frameTo limit).asks).countP
          (fun other => other < record.frame) := by
      rw [perm.countP_eq, filter_map, countP_map]
      rfl
    change record ∈ (if limit = 0 then sortFrame asked else (sortFrame asked).take limit) ↔ _ ∧
      _ ∧ (limit = 0 ∨ _ < limit)
    by_cases unlimited : limit = 0
    · rw [if_pos unlimited, mem]
      simp only [unlimited, true_or, and_true]
    · rw [if_neg unlimited, Sorted.mem_take_iff Record.frame _ limit sorted, mem, count, and_assoc]
      simp only [unlimited, false_or]

theorem lacks_found (stored : Stored play s) (read : ExcludedRead) (tick : Tick codec)
    (shown : tick ∈ (read.find s.excludedIgnorable).map (tickFormat codec).decodeRecord) :
    tick.Lacks [codec.eventFlagsMask.ignorable] := by
  obtain ⟨record, found, rfl⟩ := mem_map.mp shown
  obtain ⟨ticks, holds⟩ := stored true
  have nodup : (s.excludedIgnorable.map Record.frame).Nodup := by
    have frames : s.excludedIgnorable.map Record.frame = _ := holds.frames
    rw [frames]
    exact holds.2.1
  have there := ((mem_find_iff nodup read record).mp found).1
  have records : s.excludedIgnorable = _ := holds.2.2
  rw [records] at there
  obtain ⟨tick, _, rfl⟩ := mem_map.mp there
  exact lacks_stored tick

theorem unexposed_set_iff (unexposed : Unexposed p) (here : p.threads[index]? = some old)
    (s' : QueueState codec σ) (new : PlayTask play) : Unexposed ⟨s', p.threads.set index new⟩ ↔
      ∀ read ticks, new = .answered read ticks →
        ∀ tick ∈ ticks, tick.Lacks [codec.eventFlagsMask.ignorable] := by
  constructor
  · rintro unexposed' read ticks rfl
    exact unexposed' read ticks (mem_set_self here _)
  · intro clean read ticks there
    rcases mem_or_eq_of_mem_set there with before | isNew
    · exact unexposed read ticks before
    · exact clean read ticks isNew.symm

theorem lacks_normal_iff (tick : Tick codec) (masks : List (BitVec 32)) :
    tick.normal.Lacks masks ↔ tick.Lacks masks := by
  refine ⟨fun lacking event there => ?_, Tick.Lacks.normal⟩
  rw [Tick.normal_of_content (Tick.hasContent_of_events (ne_nil_of_mem there))] at lacking
  exact lacking event there

/-- The second look of a read shows no ignorable event exactly if no tick is put around it. -/
theorem clean_iff_apart (inv : PlayInv p) {read : ExcludedRead} {excluded : List Int}
    (here : p.threads[index]? = some (.retrying read excluded)) :
    (∀ tick ∈ (read.find p.state.store.original).map (tickFormat codec).decodeRecord,
        tick.Lacks [codec.eventFlagsMask.ignorable]) ↔
      ∀ tick, play.Has tick → ¬ (tick.stored false).Lacks [codec.eventFlagsMask.ignorable] →
        read.Reaches (p.state.store.original.map Record.frame) tick.frame →
          tick.frame ∉ p.state.store.original.map Record.frame ∨ tick.frame ∈ excluded := by
  obtain ⟨ticks, holds⟩ := inv.stored false
  have records : p.state.store.original = _ := holds.2.2
  have nodup : (p.state.store.original.map Record.frame).Nodup := by
    have frames : p.state.store.original.map Record.frame = _ := holds.frames
    rw [frames]
    exact holds.2.1
  constructor
  · intro clean tick has ignorable reaches
    by_contra both
    obtain ⟨there, -⟩ := not_or.mp both
    obtain ⟨record, inStore, frame⟩ := mem_map.mp (not_not.mp there)
    have found := (mem_find_iff nodup read record).mpr ⟨inStore, by rwa [frame]⟩
    have shown := clean _ (mem_map_of_mem found)
    rw [records] at inStore
    obtain ⟨other, inTicks, rfl⟩ := mem_map.mp inStore
    have own : play.at? other.frame = some other := holds.1 other inTicks
    have same : other.frame = tick.frame := frame
    rw [same] at own
    obtain rfl : tick = other := Option.some.inj (has.symm.trans own)
    exact ignorable ((lacks_normal_iff _ _).mp shown)
  · intro apart tick shown
    obtain ⟨record, found, rfl⟩ := mem_map.mp shown
    obtain ⟨inStore, reaches⟩ := (mem_find_iff nodup read record).mp found
    have frame := mem_map_of_mem (f := Record.frame) inStore
    rw [records] at inStore
    obtain ⟨other, inTicks, rfl⟩ := mem_map.mp inStore
    refine (lacks_normal_iff _ _).mpr ?_
    by_contra ignorable
    rcases apart other (holds.1 other inTicks) ignorable reaches with absent | before
    · exact absent frame
    · -- the first look would have found it
      have unasked := inv.looked _ (mem_of_getElem? here) read excluded rfl _ before
      exact absurd reaches.1 (Bool.eq_false_iff.mp unasked)

/-- An action exposes an event exactly where the puts of its tick are astride a read's looks. -/
theorem unexposed_step_iff (p : Pool (QueueState codec σ) (PlayTask play))
    (action : PlayAction play) (inv : PlayInv p) (unexposed : Unexposed p) :
    Unexposed (action.step startPoint p) ↔ PlayAction.Apart p action := by
  have appended (task : PlayTask play) (isNew : ∀ read ticks, task ≠ .answered read ticks) :
      Unexposed ⟨p.state, p.threads ++ [task]⟩ := by
    intro read ticks there
    rcases mem_append.mp there with before | last
    · exact unexposed read ticks before
    · exact absurd (mem_singleton.mp last).symm (isNew read ticks)
  cases action with
  | deliver message has =>
    exact iff_of_true (appended _ fun _ _ eq => by cases eq) trivial
  | look read => exact iff_of_true (appended _ fun _ _ eq => by cases eq) trivial
  | advance index going =>
    have silent
        (notRetrying : ∀ read excluded, p.threads[index]? ≠ some (.retrying read excluded)) :
        PlayAction.Apart p (.advance index going) := by
      cases going with
      | fails applied continues => trivial
      | resolves continues =>
        exact fun read excluded here => absurd here (notRetrying read excluded)
    cases here : p.threads[index]? with
    | none =>
      have same : PlayAction.step startPoint p (.advance index going) = p := by
        simp [PlayAction.step, Pool.step, here]
      rw [same]
      exact iff_of_true unexposed (silent fun _ _ at_index => by simp [here] at at_index)
    | some task =>
      have moved : PlayAction.step startPoint p (.advance index going) =
          (next startPoint p.state task going).elim p fun result =>
            ⟨result.1, p.threads.set index result.2⟩ := by
        simp only [PlayAction.step, Pool.step, here]
        cases next startPoint p.state task going <;> rfl
      rw [moved]
      cases task with
      | storing message has delivering =>
        refine iff_of_true ?_ (silent fun _ _ at_index => by simp [here] at at_index)
        simp only [next]
        cases Delivering.next startPoint message p.state delivering going with
        | none => exact unexposed
        | some result =>
          refine (unexposed_set_iff unexposed here _ _).mpr ?_
          intro _ _ eq
          cases eq
      | answered read ticks | rejected read =>
        exact iff_of_true unexposed (silent fun _ _ at_index => by simp [here] at at_index)
      | finding read =>
        refine iff_of_true ?_ (silent fun _ _ at_index => by simp [here] at at_index)
        cases moves : next startPoint p.state (.finding read) going with
        | none => exact unexposed
        | some result =>
          obtain ⟨s', task'⟩ := result
          obtain ⟨rfl, ends⟩ := next_finding moves
          refine (unexposed_set_iff unexposed here _ _).mpr ?_
          rintro read' ticks rfl
          rcases ends with eq | ⟨eq, -⟩ | eq
          · cases eq
          · cases eq
          · cases eq
            exact lacks_found inv.stored read
      | retrying read excluded =>
        cases going with
        | fails applied continues =>
          refine iff_of_true ?_ trivial
          refine (unexposed_set_iff unexposed here _ _).mpr ?_
          intro _ _ eq
          cases eq
        | resolves continues =>
          refine (unexposed_set_iff unexposed here _ _).trans ?_
          have astride := clean_iff_apart inv here
          constructor
          · intro clean read' excluded' at_index
            cases here.symm.trans at_index
            exact astride.mp fun tick shown => clean read _ rfl tick shown
          · rintro apart read' ticks eq tick shown
            cases eq
            exact astride.mpr (apart read excluded here) tick shown

theorem playInv_begin (startPoints : List (Record σ)) :
    PlayInv (PlayAction.begin play startPoints) where
  stored := by
    intro form
    refine ⟨[], fun _ there => (not_mem_nil there).elim, nodup_nil, ?_⟩
    cases form <;> rfl
  delivered := by
    intro form frame here
    cases form <;> exact (not_mem_nil here).elim
  knows := fun _ _ _ there => (not_mem_nil there).elim
  looked := fun _ there => (not_mem_nil there).elim

variable (startPoint) in
/-- No read has shown an ignorable event, and when the stores have settled, the reads are
the original ones without the events of both kinds. -/
def Sound (p : Pool (QueueState codec σ) (PlayTask play)) : Prop :=
  Unexposed p ∧ (Settled p → Matches startPoint p.state.store)

/-- Reads are sound at every point of a run exactly if no tick with ignorable events is put
astride the two looks of a read that reaches it. -/
theorem sound_iff (startPoints : List (Record σ)) (actions : List (PlayAction play)) :
    (∀ front, front <+: actions → Sound startPoint
        (Run.final (PlayAction.step startPoint) (PlayAction.begin play startPoints) front)) ↔
      Run.Allowed (PlayAction.step startPoint) PlayAction.Apart
        (PlayAction.begin play startPoints) actions := by
  have settles (p : Pool (QueueState codec σ) (PlayTask play)) (inv : PlayInv p) :
      Settled p → Matches startPoint p.state.store := fun settled =>
    matches_of_bothForms inv.stored (bothForms_of_settled inv settled)
  have exactly (p : Pool (QueueState codec σ) (PlayTask play)) (action : PlayAction play)
      (inv : PlayInv p) (good : Sound startPoint p) :
      Sound startPoint (action.step startPoint p) ↔ PlayAction.Apart p action := by
    rw [← unexposed_step_iff p action inv good.1]
    exact ⟨fun both => both.1, fun unexposed =>
      ⟨unexposed, settles _ (playInv_step p action inv)⟩⟩
  have begins : PlayInv (PlayAction.begin play startPoints) := playInv_begin startPoints
  have initially : Sound startPoint (PlayAction.begin play startPoints) :=
    ⟨fun _ _ there => (not_mem_nil there).elim, settles _ begins⟩
  exact (Run.allowed_iff_always playInv_step exactly _ actions begins initially).symm

open ShortMsgpack

def ignorableTick : PlayTicks ShortMsgpack.codec where
  at? := fun frame => if frame = 1 then some (eventTick 1 8 (by decide) (by decide)).tick else none
  framed := by
    intro frame tick isTick
    split at isTick
    · next isFrame =>
      cases isTick
      exact isFrame.symm
    · cases isTick

def readBetween : List (PlayAction ignorableTick) :=
  [.deliver (eventTick 1 8 (by decide) (by decide)) rfl, .advance 0 (.resolves true),
    .look (.single 1),
    .advance 1 (.resolves true), .advance 1 (.resolves true)]

theorem readBetween_exposed : ¬ Sound noStartPoints (Run.final (PlayAction.step noStartPoints)
      (PlayAction.begin ignorableTick []) readBetween) := by
  intro sound
  have answered : (Run.final (PlayAction.step noStartPoints) (PlayAction.begin ignorableTick [])
      readBetween).threads[1]? =
      some (.answered (.single 1)
        [((eventTick 1 8 (by decide) (by decide)).tick.stored false).normal]) := rfl
  have lacking := sound.1 _ _ (mem_of_getElem? answered) _ mem_cons_self
    (.array [.number 32, .number 8, .null]) mem_cons_self
  revert lacking
  decide +kernel

end PlayTask
end AkashicSystem.Playlog
