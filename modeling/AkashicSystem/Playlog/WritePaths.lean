import AkashicSystem.Playlog.ShortMsgpack
import AkashicSystem.Playlog.TickReads

/-!
# The two ways a tick is written

The `PlaylogHandler` of playlog-server puts a tick it is sent into the store as
it is, and in one form only; a tick from the store queue is put in two forms,
from which events were taken.  What is read is the same either way for ticks
that have nothing to take, where all of them were written the same way.
-/

set_option autoImplicit false

namespace AkashicSystem.Playlog

open AkashicSystem.Js ActiveStore TickPut PlaylogQueueConsumer List

inductive WritePath where
  /-- `PlaylogHandler.publishTickRaw`. -/
  | direct
  /-- The store exchange and `PlaylogQueueConsumer`. -/
  | consumer
deriving DecidableEq

variable {codec : Codec} {S σ : Type}

def PlaylogHandler.putTickToStore (tick : RawTick codec) : List (TickPut codec) :=
  [⟨tick.tick, false⟩]

def PlaylogQueueConsumer.storePuts (tick : RawTick codec) : List (TickPut codec) :=
  [⟨tick.tick.stored false, false⟩, ⟨tick.tick.stored true, true⟩]

/-- Whatever the store answers, the consumer makes these puts of a tick, in this order. -/
theorem storeTick_storePuts (a : Answers) (library : a.lib = codec.toLibrary) (playId : String)
    (tick : RawTick codec) : storeTick a playId tick.tick.value = (do
      logFirstFrame a (some (.number tick.tick.frame))
      (storePuts tick).forM fun p => storeTickInner a playId p.tick.value p.ignorable) := by
  rw [storeTick_value a library]
  refine congrArg _ (funext fun _ => ?_)
  change _ = (do
    storeTickInner a playId (tick.tick.stored false).value false
    storeTickInner a playId (tick.tick.stored true).value true
    pure ())
  exact congrArg _ (funext fun _ => bind_pure_unit.symm)

namespace WritePath

def puts (tick : RawTick codec) : WritePath → List (TickPut codec)
  | .direct => PlaylogHandler.putTickToStore tick
  | .consumer => storePuts tick

def allPuts (way : Int → WritePath) (ticks : List (RawTick codec)) : List (TickPut codec) :=
  ticks.flatMap fun tick => (way tick.tick.frame).puts tick

/-- The store when all puts have settled, in whichever order they did. -/
def Settled (startPoint : Format S σ) (way : Int → WritePath) (ticks : List (RawTick codec))
    (s : ActiveStore (RawTick codec) σ) : Prop :=
  ∃ puts : List (TickPut codec), puts.Perm (allPuts way ticks) ∧
    s = Run.final (applyPut startPoint) .empty puts

end WritePath

def SameReads (startPoint : Format S σ) (s s' : ActiveStore (RawTick codec) σ) : Prop :=
  (∀ frame ignorable, s.getTick (tickFormats codec startPoint) frame ignorable =
      s'.getTick (tickFormats codec startPoint) frame ignorable) ∧
    ∀ query, s.getTicks (tickFormats codec startPoint) query =
      s'.getTicks (tickFormats codec startPoint) query

namespace WritePath

variable {startPoint : Format S σ} {ticks : List (RawTick codec)} {p q : Int → WritePath}
  {s s' : ActiveStore (RawTick codec) σ}

def form (way : WritePath) (tick : Tick codec) (ignorable : Bool) : Option (Tick codec) :=
  match way, ignorable with
  | .direct, false => some tick
  | .direct, true => none
  | .consumer, ignorable => some (tick.stored ignorable)

variable (way : Int → WritePath)

def forms (ticks : List (RawTick codec)) (ignorable : Bool) :
    List (Tick codec) :=
  ticks.filterMap fun tick => (way tick.tick.frame).form tick.tick ignorable

theorem form_frame {way : WritePath} {tick tick' : Tick codec} {ignorable : Bool}
    (isForm : way.form tick ignorable = some tick') : tick'.frame = tick.frame := by
  cases way <;> cases ignorable <;> cases isForm <;> rfl

theorem into_puts (way : WritePath) (tick : RawTick codec) (ignorable : Bool) :
    (TickPut.into ignorable (way.puts tick)).map TickPut.tick =
      (way.form tick.tick ignorable).toList := by
  cases way <;> cases ignorable <;> rfl

theorem into_allPuts (ticks : List (RawTick codec)) (ignorable : Bool) :
    (into ignorable (allPuts way ticks)).map tick = forms way ticks ignorable := by
  induction ticks with
  | nil => rfl
  | cons tick rest ih =>
    have head := into_puts (way tick.tick.frame) tick ignorable
    rw [allPuts, flatMap_cons, TickPut.into, filter_append, map_append]
    change (TickPut.into ignorable ((way tick.tick.frame).puts tick)).map TickPut.tick ++
      (TickPut.into ignorable (allPuts way rest)).map TickPut.tick = _
    rw [head, ih]
    unfold forms
    rw [filterMap_cons]
    cases (way tick.tick.frame).form tick.tick ignorable <;> rfl

theorem forms_frames (ticks : List (RawTick codec)) (ignorable : Bool) :
    ((forms way ticks ignorable).map Tick.frame).Sublist
      (ticks.map fun tick => tick.tick.frame) := by
  induction ticks with
  | nil => exact Sublist.slnil
  | cons tick rest ih =>
    rw [forms, filterMap_cons, map_cons]
    cases isForm : (way tick.tick.frame).form tick.tick ignorable with
    | none => exact ih.cons _
    | some tick' =>
      have frame := form_frame isForm
      change (tick'.frame :: (forms way rest ignorable).map Tick.frame).Sublist _
      rw [frame]
      exact ih.cons_cons _

section

variable (distinct : (ticks.map fun tick => tick.tick.frame).Nodup)
include distinct

theorem frames_nodup (way : Int → WritePath) (ignorable : Bool) :
    ((forms way ticks ignorable).map Tick.frame).Nodup :=
  distinct.sublist (forms_frames way ticks ignorable)

theorem Settled.ticks_perm (settled : Settled startPoint p ticks s) (ignorable : Bool) :
    (s.ticks ignorable).Perm ((forms p ticks ignorable).map (tickFormat codec).toRecord) := by
  obtain ⟨puts, perm, rfl⟩ := settled
  have ticksPerm (other : Bool) :
      ((into other puts).map tick).Perm (forms p ticks other) := by
    rw [← into_allPuts]
    exact (perm.filter _).map tick
  have fresh (other : Bool) : (((empty (τ := RawTick codec) (σ := σ)).ticks other).map
      Record.frame ++ frames other puts).Nodup := by
    have none : (empty (τ := RawTick codec) (σ := σ)).ticks other = [] := by
      cases other <;> rfl
    have frames : frames other puts =
        ((into other puts).map tick).map Tick.frame := by
      rw [frames, map_map]
      rfl
    rw [none, map_nil, nil_append, frames]
    exact (((ticksPerm other).map Tick.frame).nodup_iff).mpr (frames_nodup distinct p other)
  have none : (empty (τ := RawTick codec) (σ := σ)).ticks ignorable = [] := by
    cases ignorable <;> rfl
  have records : (TickPut.into ignorable puts).map TickPut.record =
      ((TickPut.into ignorable puts).map TickPut.tick).map (tickFormat codec).toRecord := by
    rw [map_map]
    rfl
  rw [ticks_final_applyPut startPoint _ puts fresh, none, nil_append, records]
  exact (ticksPerm ignorable).map (tickFormat codec).toRecord

theorem Settled.nodup (settled : Settled startPoint p ticks s) (ignorable : Bool) :
    ((s.ticks ignorable).map Record.frame).Nodup := by
  have perm := (settled.ticks_perm distinct ignorable).map Record.frame
  rw [map_map] at perm
  exact perm.nodup_iff.mpr (frames_nodup distinct p ignorable)

end

theorem sameReads_of_perm (original : s.original.Perm s'.original)
    (excluded : s.excludedIgnorable.Perm s'.excludedIgnorable)
    (nodup : ∀ ignorable, ((s.ticks ignorable).map Record.frame).Nodup) :
    SameReads startPoint s s' := by
  constructor
  · intro frame ignorable
    have first := findFrame_perm original (nodup false) frame
    have second := findFrame_perm excluded (nodup true) frame
    cases ignorable with
    | false => rw [getTick_original, getTick_original, first]
    | true =>
      rw [getTick_excludedIgnorable, getTick_excludedIgnorable, first,
        second]
  · intro query
    have first := getTicksInner_perm original (nodup false) query
    have second := getTicksInner_perm excluded (nodup true) query
    rw [getTicks_eq, getTicks_eq]
    cases kind : query.ignorable with
    | false =>
      rw [getTicksRecords_original s kind, getTicksRecords_original s' kind,
        first]
    | true =>
      rw [getTicksRecords_excludedIgnorable s kind,
        getTicksRecords_excludedIgnorable s' kind, first, second]

theorem sameReads_of_fallback (original : s.original.Perm s'.original)
    (lacking : s.excludedIgnorable = []) (both : s'.excludedIgnorable.Perm s'.original)
    (nodup : ∀ ignorable, ((s.ticks ignorable).map Record.frame).Nodup) :
    SameReads startPoint s s' := by
  have nodup' : (s'.excludedIgnorable.map Record.frame).Nodup :=
    ((original.trans both.symm).map Record.frame).nodup_iff.mp (nodup false)
  constructor
  · intro frame ignorable
    have first := findFrame_perm original (nodup false) frame
    have second := findFrame_perm both nodup' frame
    cases ignorable with
    | false => rw [getTick_original, getTick_original, first]
    | true =>
      rw [getTick_excludedIgnorable, getTick_excludedIgnorable, lacking,
        second, first]
      cases Collection.findFrame s'.original frame <;> rfl
  · intro query
    have first := getTicksInner_perm original (nodup false) query
    have second := getTicksInner_perm both nodup' query
    rw [getTicks_eq, getTicks_eq]
    cases kind : query.ignorable with
    | false =>
      rw [getTicksRecords_original s kind, getTicksRecords_original s' kind,
        first]
    | true =>
      have nothing : getTicksInner query s.excludedIgnorable = [] := by
        rw [lacking, getTicksInner, Collection.applyLimit]
        split
        · rfl
        · exact take_nil
      rw [getTicksRecords_excludedIgnorable s kind,
        getTicksRecords_excludedIgnorable s' kind, nothing, second, first, if_pos rfl,
        ite_self]

theorem mem_forms (ignorable : Bool) (tick : RawTick codec)
    (there : tick ∈ ticks) (tick' : Tick codec)
    (isForm : (way tick.tick.frame).form tick.tick ignorable = some tick') :
    tick' ∈ forms way ticks ignorable :=
  mem_filterMap.mpr ⟨tick, there, isForm⟩

theorem Settled.getTick (distinct : (ticks.map fun tick => tick.tick.frame).Nodup)
    (settled : Settled startPoint p ticks s) (tick : RawTick codec) (there : tick ∈ ticks)
    (ignorable : Bool) :
    s.getTick (tickFormats codec startPoint) tick.tick.frame ignorable =
      some (match p tick.tick.frame with
        | .direct => tick.tick.normal
        | .consumer => (tick.tick.stored ignorable).normal) := by
  have shown (other : Bool) (tick' : Tick codec)
      (isForm : (p tick.tick.frame).form tick.tick other = some tick') :
      s.getTick (tickFormats codec startPoint) tick.tick.frame other = some tick'.normal := by
    rw [← form_frame isForm]
    refine getTick_ticks startPoint s other tick' (settled.nodup distinct other) ?_
    refine (settled.ticks_perm distinct other).mem_iff.mpr ?_
    exact mem_map.mpr ⟨tick', mem_forms p other tick there tick' isForm, rfl⟩
  cases way : p tick.tick.frame with
  | consumer => exact shown ignorable _ (by rw [way]; cases ignorable <;> rfl)
  | direct =>
    have original := shown false tick.tick (by rw [way]; rfl)
    cases ignorable with
    | false => exact original
    | true =>
      -- the tick has no second form, so that the read falls back
      have absent : Collection.findFrame s.excludedIgnorable tick.tick.frame = none := by
        refine List.find?_eq_none.mpr fun record inStore isFrame => ?_
        have inForms := (settled.ticks_perm distinct true).mem_iff.mp inStore
        obtain ⟨tick', isOne, rfl⟩ := mem_map.mp inForms
        obtain ⟨other, there', isForm⟩ := mem_filterMap.mp isOne
        have frame : other.tick.frame = tick.tick.frame := by
          rw [← form_frame isForm]
          exact of_decide_eq_true isFrame
        rw [inj_on_of_nodup_map distinct there' there frame, way] at isForm
        cases isForm
      rw [getTick_original] at original
      rw [getTick_excludedIgnorable, absent, Option.none_or, original]

theorem mem_frames_sorted {records : List (Record (RawTick codec))} {forms : List (Tick codec)}
    (perm : records.Perm (forms.map (tickFormat codec).toRecord)) (frame : Int) :
    frame ∈ ((Collection.sortFrame records).map (tickFormat codec).decodeRecord).map Tick.frame ↔
      ∃ tick ∈ forms, tick.frame = frame := by
  have sorted : ∀ record, record ∈ Collection.sortFrame records ↔
      record ∈ forms.map (tickFormat codec).toRecord := fun record =>
    (mem_insertionSort _).trans perm.mem_iff
  constructor
  · intro shown
    obtain ⟨tick, read, rfl⟩ := mem_map.mp shown
    obtain ⟨record, there, rfl⟩ := mem_map.mp read
    obtain ⟨tick', isOne, rfl⟩ := mem_map.mp ((sorted record).mp there)
    exact ⟨tick', isOne, tick'.normal_frame.symm⟩
  · rintro ⟨tick, isOne, rfl⟩
    refine mem_map.mpr ⟨tick.normal, ?_, tick.normal_frame⟩
    refine mem_map.mpr ⟨(tickFormat codec).toRecord tick, ?_, rfl⟩
    exact (sorted _).mpr (mem_map.mpr ⟨tick, isOne, rfl⟩)

section

variable (distinct : (ticks.map fun tick => tick.tick.frame).Nodup)
include distinct

theorem Settled.excluded_nil_iff (settled : Settled startPoint p ticks s) :
    s.excludedIgnorable = [] ↔ ∀ tick ∈ ticks, p tick.tick.frame = .direct := by
  have perm : s.excludedIgnorable.Perm _ := settled.ticks_perm distinct true
  constructor
  · intro lacking tick there
    cases way : p tick.tick.frame with
    | direct => rfl
    | consumer =>
      have isForm := mem_forms p true tick there (tick.tick.stored true) (by rw [way]; rfl)
      rw [lacking, nil_perm, map_eq_nil_iff] at perm
      rw [perm] at isForm
      cases isForm
  · intro direct
    have none : forms p ticks true = [] := by
      refine filterMap_eq_nil_iff.mpr fun tick there => ?_
      rw [direct tick there]
      rfl
    rw [none] at perm
    exact perm_nil.mp perm

theorem Settled.mem_whole (settled : Settled startPoint p ticks s) (tick : RawTick codec)
    (there : tick ∈ ticks) :
    tick.tick.frame ∈ (s.getTicks (tickFormats codec startPoint) (.whole true)).map Tick.frame ↔
      p tick.tick.frame = .consumer ∨ ∀ other ∈ ticks, p other.tick.frame = .direct := by
  rw [getTicks_eq, getTicksRecords_excludedIgnorable s rfl,
    getTicksInner_whole, getTicksInner_whole]
  have emptied : Collection.sortFrame s.excludedIgnorable = [] ↔ s.excludedIgnorable = [] := by
    have perm : (Collection.sortFrame s.excludedIgnorable).Perm s.excludedIgnorable :=
      perm_insertionSort _ _
    constructor
    · intro nothing
      rw [nothing] at perm
      exact nil_perm.mp perm
    · intro nothing
      rw [nothing] at perm ⊢
      exact perm_nil.mp perm
  by_cases direct : ∀ other ∈ ticks, p other.tick.frame = .direct
  · have lacking := (settled.excluded_nil_iff distinct).mpr direct
    rw [if_pos (emptied.mpr lacking)]
    refine ⟨fun _ => .inr direct, fun _ => ?_⟩
    refine (mem_frames_sorted (settled.ticks_perm distinct false) _).mpr ?_
    exact ⟨tick.tick, mem_forms p false tick there _ (by rw [direct tick there]; rfl), rfl⟩
  · have some := fun lacking => direct ((settled.excluded_nil_iff distinct).mp lacking)
    rw [if_neg fun nothing => some (emptied.mp nothing)]
    refine (mem_frames_sorted (settled.ticks_perm distinct true) _).trans ?_
    constructor
    · rintro ⟨tick', isOne, frame⟩
      obtain ⟨other, there', isForm⟩ := mem_filterMap.mp isOne
      have same : other.tick.frame = tick.tick.frame := (form_frame isForm).symm.trans frame
      rw [inj_on_of_nodup_map distinct there' there same] at isForm
      cases way : p tick.tick.frame with
      | consumer => exact .inl rfl
      | direct =>
        rw [way] at isForm
        cases isForm
    · intro consumer
      have way := consumer.resolve_right direct
      exact ⟨tick.tick.stored true, mem_forms p true tick there _ (by rw [way]; rfl), rfl⟩

end

theorem SameReads.symm (same : SameReads startPoint s s') : SameReads startPoint s' s :=
  ⟨fun frame ignorable => (same.1 frame ignorable).symm, fun query => (same.2 query).symm⟩

section

variable (distinct : (ticks.map fun tick => tick.tick.frame).Nodup)
include distinct

/-- Where a tick that is written directly reads as one that the consumer writes, this holds
of all ticks, and they have nothing to take. -/
theorem SameReads.uniform (settled : Settled startPoint p ticks s)
    (settled' : Settled startPoint q ticks s')
    (same : SameReads startPoint s s') (tick : RawTick codec) (there : tick ∈ ticks)
    (direct : p tick.tick.frame = .direct) (consumer : q tick.tick.frame = .consumer) :
    ∀ other ∈ ticks, other.tick.Lacks (storedMasks codec true) ∧
      p other.tick.frame = .direct ∧ q other.tick.frame = .consumer := by
  have whole := same.2 (.whole true)
  have shown := (settled'.mem_whole distinct tick there).mpr (.inl consumer)
  rw [← whole, settled.mem_whole distinct tick there, direct] at shown
  have allDirect : ∀ other ∈ ticks, p other.tick.frame = .direct := by
    rcases shown with absurd | all
    · cases absurd
    · exact all
  intro other there'
  have shown' := (settled.mem_whole distinct other there').mpr (.inr allDirect)
  rw [whole, settled'.mem_whole distinct other there'] at shown'
  have isConsumer : q other.tick.frame = .consumer := by
    rcases shown' with isConsumer | all
    · exact isConsumer
    · have contrary := all tick there
      rw [consumer] at contrary
      cases contrary
  refine ⟨?_, allDirect other there', isConsumer⟩
  have read := same.1 other.tick.frame true
  rw [settled.getTick distinct other there', settled'.getTick distinct other there',
    allDirect other there', isConsumer] at read
  exact (Tick.normal_without_eq_iff _ _).mp (Option.some.inj read).symm

theorem sameReads_of_lacks (settled : Settled startPoint p ticks s)
    (settled' : Settled startPoint q ticks s')
    (uniform : ∀ other ∈ ticks, other.tick.Lacks (storedMasks codec true) ∧
      p other.tick.frame = .direct ∧ q other.tick.frame = .consumer) :
    SameReads startPoint s s' := by
  have stored (tick : RawTick codec) (there : tick ∈ ticks) (ignorable : Bool) :
      tick.tick.stored ignorable = tick.tick := by
    refine Tick.without_of_lacks ?_
    cases ignorable with
    | false => exact (uniform tick there).1.of_cons
    | true => exact (uniform tick there).1
  have forms_p : forms p ticks false = ticks.map RawTick.tick := by
    rw [← filterMap_eq_map]
    refine filterMap_congr fun tick there => ?_
    rw [(uniform tick there).2.1]
    rfl
  have forms_q (ignorable : Bool) : forms q ticks ignorable = ticks.map RawTick.tick := by
    rw [← filterMap_eq_map]
    refine filterMap_congr fun tick there => ?_
    rw [(uniform tick there).2.2]
    exact congrArg some (stored tick there ignorable)
  have original := settled.ticks_perm distinct false
  have original' := settled'.ticks_perm distinct false
  have excluded' := settled'.ticks_perm distinct true
  rw [forms_p] at original
  rw [forms_q] at original' excluded'
  refine sameReads_of_fallback (original.trans original'.symm) ?_ (excluded'.trans original'.symm)
    (settled.nodup distinct)
  exact (settled.excluded_nil_iff distinct).mpr fun tick there => (uniform tick there).2.1

end

theorem forms_congr (agree : ∀ tick ∈ ticks, p tick.tick.frame = q tick.tick.frame)
    (ignorable : Bool) : forms p ticks ignorable = forms q ticks ignorable := by
  refine filterMap_congr fun tick there => ?_
  rw [agree tick there]

/-- Two ways of writing the same ticks are read the same exactly if they are the same
way, or all ticks go directly in one, all to the consumer in the other, and none has a
transient or ignorable event. -/
theorem sameReads_iff (distinct : (ticks.map fun tick => tick.tick.frame).Nodup)
    (settled : Settled startPoint p ticks s) (settled' : Settled startPoint q ticks s') :
    SameReads startPoint s s' ↔ (∀ tick ∈ ticks, p tick.tick.frame = q tick.tick.frame) ∨
      (∀ tick ∈ ticks, tick.tick.Lacks (storedMasks codec true) ∧
        p tick.tick.frame = .direct ∧ q tick.tick.frame = .consumer) ∨
      (∀ tick ∈ ticks, tick.tick.Lacks (storedMasks codec true) ∧
        q tick.tick.frame = .direct ∧ p tick.tick.frame = .consumer) := by
  constructor
  · intro same
    by_cases agree : ∀ tick ∈ ticks, p tick.tick.frame = q tick.tick.frame
    · exact .inl agree
    · simp only [not_forall] at agree
      obtain ⟨tick, there, differ⟩ := agree
      cases way : p tick.tick.frame with
      | direct =>
        cases way' : q tick.tick.frame with
        | direct => exact absurd (way.trans way'.symm) differ
        | consumer =>
          exact .inr (.inl (SameReads.uniform distinct settled settled' same tick there way way'))
      | consumer =>
        cases way' : q tick.tick.frame with
        | direct =>
          have same' := SameReads.symm same
          exact .inr (.inr (SameReads.uniform distinct settled' settled same' tick there way' way))
        | consumer => exact absurd (way.trans way'.symm) differ
  · intro cond
    rcases cond with agree | uniform | uniform
    · have perm (ignorable : Bool) : (s.ticks ignorable).Perm (s'.ticks ignorable) := by
        have here := settled.ticks_perm distinct ignorable
        rw [forms_congr agree] at here
        exact here.trans (settled'.ticks_perm distinct ignorable).symm
      exact sameReads_of_perm (perm false) (perm true) (settled.nodup distinct)
    · exact sameReads_of_lacks distinct settled settled' uniform
    · exact SameReads.symm (sameReads_of_lacks distinct settled' settled uniform)

open ShortMsgpack in
/-- A tick with a transient event. -/
theorem transient_read_differs :
    ∃ s s', Settled noStartPoints (fun _ => .direct) [eventTick 1 4 (by decide) (by decide)] s ∧
      Settled noStartPoints (fun _ => .consumer) [eventTick 1 4 (by decide) (by decide)] s' ∧
      ¬ SameReads noStartPoints s s' := by
  refine ⟨_, _, ⟨_, Perm.refl _, rfl⟩, ⟨_, Perm.refl _, rfl⟩, fun same => ?_⟩
  have read := congrArg (Option.map fun tick => tick.rest.length) (same.1 1 false)
  revert read
  decide +kernel

open ShortMsgpack in
/-- A tick without events, and one with an event that neither form is without. -/
theorem sameReads_of_plainEvent :
    let ticks := [emptyTick 1 (by decide), eventTick 2 1 (by decide) (by decide)]
    ∃ s s', Settled noStartPoints (fun _ => .direct) ticks s ∧
      Settled noStartPoints (fun _ => .consumer) ticks s' ∧ SameReads noStartPoints s s' := by
  intro ticks
  have distinct : (ticks.map fun tick => tick.tick.frame).Nodup := by decide
  refine ⟨_, _, ⟨_, Perm.refl _, rfl⟩, ⟨_, Perm.refl _, rfl⟩, ?_⟩
  refine (sameReads_iff distinct ⟨_, Perm.refl _, rfl⟩ ⟨_, Perm.refl _, rfl⟩).mpr ?_
  refine .inr (.inl fun tick there => ?_)
  rcases mem_cons.mp there with rfl | rest
  · exact ⟨fun _ there => (not_mem_nil there).elim, rfl, rfl⟩
  · obtain rfl := mem_singleton.mp rest
    refine ⟨fun event there => ?_, rfl, rfl⟩
    obtain rfl := mem_singleton.mp there
    decide +kernel

end WritePath
end AkashicSystem.Playlog
