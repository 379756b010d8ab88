import AkashicSystem.Lib.Run
import AkashicSystem.Playlog.StoreQueue
import AkashicSystem.Playlog.TickFormat

/-!
# What is read of ticks that were put

The store queue's consumer puts a tick in two forms.  What the reads of the
store show depends on the ticks that were put, and not on their order.
-/

set_option autoImplicit false

namespace AkashicSystem.Playlog

open AkashicSystem.Js Collection PlaylogQueueConsumer List

section Orders

variable {β : Type}

variable {records records' : List (Record β)}

section

variable (perm : records.Perm records')
include perm

theorem findFrame_perm (nodup : (records.map Record.frame).Nodup) (frame : Int) :
    findFrame records frame = findFrame records' frame := by
  have nodup' : (records'.map Record.frame).Nodup := (perm.map Record.frame).nodup_iff.mp nodup
  unfold findFrame
  cases found : records.find? fun record => record.frame = frame with
  | none =>
    rw [List.find?_eq_none] at found
    symm
    rw [List.find?_eq_none]
    intro record there
    exact found record (perm.mem_iff.mpr there)
  | some record =>
    have there : record ∈ records' := perm.mem_iff.mp (List.mem_of_find?_eq_some found)
    have isFrame : record.frame = frame := by simpa using List.find?_some found
    cases found' : records'.find? fun record => record.frame = frame with
    | none =>
      have absent := List.find?_eq_none.mp found' record there
      simp [isFrame] at absent
    | some record' =>
      have isFrame' : record'.frame = frame := by simpa using List.find?_some found'
      have same : record = record' := inj_on_of_nodup_map nodup' there
        (List.mem_of_find?_eq_some found') (isFrame.trans isFrame'.symm)
      rw [same]

theorem sortFrame_perm (nodup : (records.map Record.frame).Nodup) :
    sortFrame records = sortFrame records' := by
  refine Sorted.insertionSort_perm (r := fun r r' : Record β => r.frame ≤ r'.frame)
    (fun r r' => Int.le_total r.frame r'.frame) (fun r r' r'' => Int.le_trans) _ _ perm ?_
  intro record there record' there' le le'
  exact inj_on_of_nodup_map nodup there there' (Int.le_antisymm le le')

theorem getTicksInner_perm (nodup : (records.map Record.frame).Nodup) (query : TicksQuery) :
    ActiveStore.getTicksInner query records = ActiveStore.getTicksInner query records' := by
  unfold ActiveStore.getTicksInner
  rw [sortFrame_perm (perm.filter _)]
  exact nodup.sublist (filter_sublist.map Record.frame)

end

def TicksQuery.whole (ignorable : Bool) : TicksQuery := ⟨none, none, 0, ignorable⟩

theorem getTicksInner_whole (ignorable : Bool) (records : List (Record β)) :
    ActiveStore.getTicksInner (.whole ignorable) records = sortFrame records := by
  have all : records.filter (fun record => ActiveStore.inRange (.whole ignorable) record.frame) =
      records := filter_eq_self.mpr fun _ _ => rfl
  rw [ActiveStore.getTicksInner, all]
  rfl

end Orders

namespace ActiveStore

variable {T S τ σ : Type} (f : Formats T S τ σ) (s : ActiveStore τ σ)

theorem getTick_original (frame : Int) :
    s.getTick f frame false = (findFrame s.original frame).map f.tick.decodeRecord := by
  unfold getTick ticks
  rw [if_neg Bool.false_ne_true]
  cases findFrame s.original frame <;> rfl

theorem getTick_excludedIgnorable (frame : Int) :
    s.getTick f frame true = ((findFrame s.excludedIgnorable frame).or
      (findFrame s.original frame)).map f.tick.decodeRecord := by
  unfold getTick ticks
  rw [if_pos rfl]
  cases findFrame s.excludedIgnorable frame <;> rfl

theorem getTicksRecords_original {query : TicksQuery} (original : query.ignorable = false) :
    s.getTicksRecords query = getTicksInner query s.original := by
  unfold getTicksRecords ticks
  rw [original, if_neg Bool.false_ne_true]
  cases getTicksInner query s.original <;> rfl

/-- The read falls back where there is nothing of the second form. -/
theorem getTicksRecords_excludedIgnorable {query : TicksQuery} (excluded : query.ignorable = true) :
    s.getTicksRecords query =
      if getTicksInner query s.excludedIgnorable = [] then getTicksInner query s.original
      else getTicksInner query s.excludedIgnorable := by
  unfold getTicksRecords ticks
  rw [excluded, if_pos rfl]
  cases getTicksInner query s.excludedIgnorable <;> rfl

theorem getTicks_eq (query : TicksQuery) :
    s.getTicks f query = (s.getTicksRecords query).map f.tick.decodeRecord := by
  rw [getTicks, getTicksRaw, map_map]
  rfl

end ActiveStore

variable {codec : Codec} {S σ : Type}

def tickFormats (codec : Codec) (startPoint : Format S σ) :
    Formats (Tick codec) S (RawTick codec) σ := ⟨tickFormat codec, startPoint⟩

structure TickPut (codec : Codec) where
  tick : Tick codec
  ignorable : Bool

namespace TickPut

def record (p : TickPut codec) : Record (RawTick codec) := (tickFormat codec).toRecord p.tick

def into (ignorable : Bool) (puts : List (TickPut codec)) : List (TickPut codec) :=
  puts.filter fun p => p.ignorable = ignorable

def frames (ignorable : Bool) (puts : List (TickPut codec)) : List Int :=
  (into ignorable puts).map fun p => p.tick.frame

end TickPut

namespace ActiveStore

variable (startPoint : Format S σ)

def applyPut (s : ActiveStore (RawTick codec) σ) (p : TickPut codec) :
    ActiveStore (RawTick codec) σ :=
  (s.putTick (tickFormats codec startPoint) p.tick p.ignorable).getD s

section

variable (s : ActiveStore (RawTick codec) σ)
include s

theorem ticks_setTicks (ignorable other : Bool) (records : List (Record (RawTick codec))) :
    (s.setTicks ignorable records).ticks other =
      if other = ignorable then records else s.ticks other := by
  cases ignorable <;> cases other <;> rfl

variable (p : TickPut codec)

theorem applyPut_of_known
    (known : p.tick.frame ∈ (s.ticks p.ignorable).map Record.frame) :
    s.applyPut startPoint p = s := by
  have refused : insertOne (s.ticks p.ignorable) p.record = none := if_pos known
  unfold applyPut putTick
  change ((insertOne (s.ticks p.ignorable) p.record).map
    (s.setTicks p.ignorable)).getD s = s
  rw [refused]
  rfl

theorem putTick_eq_none_iff :
    s.putTick (tickFormats codec startPoint) p.tick p.ignorable = none ↔
      p.tick.frame ∈ (s.ticks p.ignorable).map Record.frame := by
  unfold putTick
  change (insertOne (s.ticks p.ignorable) p.record).map _ = none ↔ _
  rw [Option.map_eq_none_iff]
  by_cases known : p.tick.frame ∈ (s.ticks p.ignorable).map Record.frame
  · have refused : insertOne (s.ticks p.ignorable) p.record = none := if_pos known
    exact iff_of_true refused known
  · have inserted : insertOne (s.ticks p.ignorable) p.record =
      some (s.ticks p.ignorable ++ [p.record]) := if_neg known
    rw [inserted]
    exact iff_of_false (Option.some_ne_none _) known

theorem ticks_applyPut
    (fresh : p.tick.frame ∉ (s.ticks p.ignorable).map Record.frame) (ignorable : Bool) :
    (s.applyPut startPoint p).ticks ignorable =
      s.ticks ignorable ++ (TickPut.into ignorable [p]).map TickPut.record := by
  have inserted : insertOne (s.ticks p.ignorable) p.record =
      some (s.ticks p.ignorable ++ [p.record]) := if_neg fresh
  have put : s.applyPut startPoint p =
      s.setTicks p.ignorable (s.ticks p.ignorable ++ [p.record]) := by
    unfold applyPut putTick
    change ((insertOne (s.ticks p.ignorable) p.record).map
      (s.setTicks p.ignorable)).getD s = _
    rw [inserted]
    rfl
  rw [put, ticks_setTicks]
  by_cases same : ignorable = p.ignorable
  · subst same
    simp [TickPut.into]
  · simp [TickPut.into, same, Ne.symm same]

theorem ticks_final_applyPut (puts : List (TickPut codec)) (fresh : ∀ ignorable,
      ((s.ticks ignorable).map Record.frame ++ TickPut.frames ignorable puts).Nodup)
    (ignorable : Bool) : (Run.final (applyPut startPoint) s puts).ticks ignorable =
      s.ticks ignorable ++ (TickPut.into ignorable puts).map TickPut.record := by
  induction puts generalizing s with
  | nil => simp [Run.final_nil, TickPut.into]
  | cons p rest ih =>
    have split (other : Bool) : TickPut.into other (p :: rest) =
        TickPut.into other [p] ++ TickPut.into other rest := by
      rw [TickPut.into, ← singleton_append, filter_append]
      rfl
    have absent : p.tick.frame ∉ (s.ticks p.ignorable).map Record.frame := by
      intro there
      have nodup := fresh p.ignorable
      rw [nodup_append] at nodup
      refine nodup.2.2 _ there p.tick.frame ?_ rfl
      exact mem_map.mpr ⟨p, by simp [TickPut.into], rfl⟩
    have put := ticks_applyPut startPoint s p absent
    have later : ∀ other, (((s.applyPut startPoint p).ticks other).map Record.frame ++
        TickPut.frames other rest).Nodup := by
      intro other
      have nodup := fresh other
      rw [TickPut.frames, split, map_append, ← append_assoc] at nodup
      rw [put, map_append, map_map]
      exact nodup
    rw [Run.final_cons, ih _ later, put, split, map_append, append_assoc]

theorem getTick_ticks (ignorable : Bool) (tick : Tick codec)
    (nodup : ((s.ticks ignorable).map Record.frame).Nodup)
    (there : (tickFormat codec).toRecord tick ∈ s.ticks ignorable) :
    s.getTick (tickFormats codec startPoint) tick.frame ignorable = some tick.normal := by
  have found : findFrame (s.ticks ignorable) tick.frame =
      some ((tickFormat codec).toRecord tick) := by
    unfold findFrame
    cases eq : (s.ticks ignorable).find? fun record => record.frame = tick.frame with
    | none =>
      have absent := List.find?_eq_none.mp eq _ there
      exact absurd (decide_eq_true rfl) absent
    | some record =>
      have isFrame : record.frame = tick.frame := by simpa using List.find?_some eq
      rw [inj_on_of_nodup_map nodup (List.mem_of_find?_eq_some eq) there isFrame]
  rw [getTick, found]
  rfl

end

end ActiveStore

def storedMasks (codec : Codec) (excludedIgnorable : Bool) : List (BitVec 32) :=
  let mask := codec.eventFlagsMask
  if excludedIgnorable then [mask.transient, mask.ignorable] else [mask.transient]

def Tick.stored (tick : Tick codec) (excludedIgnorable : Bool) : Tick codec :=
  tick.without (storedMasks codec excludedIgnorable)

/-- Every put resolves. -/
def resolving (codec : Codec) : Answers :=
  ⟨codec.toLibrary, fun _ => none, fun _ => false, none, 0, fun _ => .resolved, fun _ => none,
    .returns, fun _ => .returns, .returns⟩

/-- The consumer's puts of a tick are those of its two forms. -/
theorem storeTick_value (a : Answers) (library : a.lib = codec.toLibrary) (playId : String)
    (tick : Tick codec) : storeTick a playId tick.value = (do
      logFirstFrame a (some (.number tick.frame))
      storeTickInner a playId (tick.stored false).value false
      storeTickInner a playId (tick.stored true).value true) := by
  have original := tick.removeTargetEvents_value (storedMasks codec false)
  have excluded := tick.removeTargetEvents_value (storedMasks codec true)
  unfold storeTick
  rw [library]
  change (do
    logFirstFrame a (some (.number tick.frame))
    let storeTick ← operate (removeTargetEvents codec.toLibrary tick.value
      (storedMasks codec false))
    let excludedIgnorableTick ← operate (removeTargetEvents codec.toLibrary tick.value
      (storedMasks codec true))
    storeTickInner a playId storeTick false
    storeTickInner a playId excludedIgnorableTick true) = _
  rw [original, excluded]
  rfl

variable {masks : List (BitVec 32)}

theorem Tick.lacks_of_cons {mask : BitVec 32} (event : Value)
    (lacking : Tick.lacks codec (mask :: masks) event = true) :
    Tick.lacks codec [mask] event = true := by
  unfold Tick.lacks lacksFlags at lacking ⊢
  cases at1 : event.index 1 with
  | error e =>
    rw [at1] at lacking
    cases lacking
  | ok flags =>
    rw [at1] at lacking
    cases flagged : Value.hasFlag codec.toInt32 flags mask with
    | error e =>
      simp only [bind, Except.bind, flagged] at lacking
      cases lacking
    | ok b =>
      simp only [bind, Except.bind, flagged] at lacking ⊢
      cases b with
      | true => exact lacking
      | false => rfl

theorem Tick.Lacks.tail {tick : Tick codec} {mask : BitVec 32}
    (lacking : tick.Lacks (mask :: masks)) : tick.Lacks masks := by
  intro event there
  obtain ⟨flags, readable⟩ := tick.readable event there
  have both := lacking event there
  rw [Tick.lacks_eq readable, all_cons, Bool.and_eq_true] at both
  rw [Tick.lacks_eq readable]
  exact both.2

theorem Tick.Lacks.of_cons {tick : Tick codec} {mask : BitVec 32}
    (lacking : tick.Lacks (mask :: masks)) : tick.Lacks [mask] :=
  fun event there => Tick.lacks_of_cons event (lacking event there)

end AkashicSystem.Playlog
