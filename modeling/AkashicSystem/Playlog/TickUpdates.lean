import AkashicSystem.Playlog.ShortMsgpack
import Mathlib.Data.List.Nodup

/-!
# Updates of stored ticks

`updateTick` of `MongoDBStore`, call by call.  An update replaces the record of
a frame and never adds one, so what it does depends on the frame being stored.
A read of a range gives the record of a frame at the index that belongs to the
frame if no frame between the first and it is missing.
-/

set_option autoImplicit false

namespace AkashicSystem.Playlog

open List

namespace Collection

variable {β : Type} {records : List (Record β)}

def frames (records : List (Record β)) : List Int := records.map Record.frame

/-- `findOneAndUpdate` with `$set`, for the record's own frame. -/
def findOneAndUpdate (records : List (Record β)) (record : Record β) : List (Record β) :=
  records.map fun other => if other.frame = record.frame then record else other

section

variable (record : Record β)
include record

theorem frames_findOneAndUpdate : frames (findOneAndUpdate records record) = frames records := by
  rw [frames, findOneAndUpdate, map_map]
  apply map_congr_left
  intro other _
  rw [Function.comp_apply]
  split
  · rename_i same
    exact same.symm
  · rfl

theorem findFrame_findOneAndUpdate (stored : record.frame ∈ frames records) :
    findFrame (findOneAndUpdate records record) record.frame = some record := by
  induction records with
  | nil => exact (not_mem_nil stored).elim
  | cons other rest ih =>
    unfold findFrame findOneAndUpdate at ih ⊢
    rw [map_cons]
    by_cases same : other.frame = record.frame
    · rw [if_pos same, List.find?_cons_of_pos (by simp)]
    · rw [if_neg same, List.find?_cons_of_neg (by simpa using same)]
      refine ih ?_
      rcases mem_cons.mp stored with here | later
      · exact absurd here.symm same
      · exact later

theorem findFrame_findOneAndUpdate_of_ne {frame : Int} (other : frame ≠ record.frame) :
    findFrame (findOneAndUpdate records record) frame = findFrame records frame := by
  induction records with
  | nil => rfl
  | cons first rest ih =>
    unfold findFrame findOneAndUpdate at ih ⊢
    rw [map_cons]
    by_cases same : first.frame = record.frame
    · have skipped : record.frame ≠ frame := Ne.symm other
      have skipped' : first.frame ≠ frame := by
        rw [same]
        exact skipped
      rw [if_pos same, List.find?_cons_of_neg (by simpa using skipped),
        List.find?_cons_of_neg (by simpa using skipped'), ih]
    · rw [if_neg same, List.find?_cons, List.find?_cons, ih]

theorem findOneAndUpdate_findOneAndUpdate :
    findOneAndUpdate (findOneAndUpdate records record) record =
      findOneAndUpdate records record := by
  rw [findOneAndUpdate, findOneAndUpdate, map_map]
  apply map_congr_left
  intro other _
  rw [Function.comp_apply]
  by_cases same : other.frame = record.frame
  · rw [if_pos same, if_pos rfl]
  · rw [if_neg same, if_neg same]

end

variable {record : Record β}

theorem mem_frames_of_findFrame {frame : Int} (found : findFrame records frame = some record) :
    frame ∈ frames records := by
  have isFrame : record.frame = frame := by simpa using List.find?_some found
  exact mem_map.mpr ⟨record, List.mem_of_find?_eq_some found, isFrame⟩

theorem insertOne_eq_some {records' : List (Record β)}
    (put : insertOne records record = some records') :
    record.frame ∉ frames records ∧ records' = records ++ [record] := by
  unfold insertOne at put
  split at put
  · cases put
  · rename_i fresh
    exact ⟨fresh, (Option.some.inj put).symm⟩

theorem findFrame_append {frame : Int} (more : List (Record β))
    (found : findFrame records frame = some record) :
    findFrame (records ++ more) frame = some record := by
  unfold findFrame at found ⊢
  rw [List.find?_append, found]
  rfl

theorem increasing_sortFrame (nodup : (frames records).Nodup) :
    (frames (sortFrame records)).Pairwise (· < ·) := by
  have perm := perm_insertionSort (fun r r' : Record β => r.frame ≤ r'.frame) records
  have distinct : (frames (sortFrame records)).Nodup := (perm.map Record.frame).nodup_iff.mpr nodup
  rw [nodup_iff_pairwise_ne] at distinct
  have ordered : (frames (sortFrame records)).Pairwise (· ≤ ·) := by
    rw [frames, pairwise_map]
    exact pairwise_insertionSort (fun r r' : Record β => r.frame ≤ r'.frame) records
  exact (ordered.and distinct).imp fun both => lt_of_le_of_ne both.1 both.2

theorem mem_sorted (record : Record β) : record ∈ sortFrame records ↔ record ∈ records :=
  (perm_insertionSort (fun r r' : Record β => r.frame ≤ r'.frame) records).mem_iff

theorem getElem?_of_increasing (numbers : List Int) (first : Int) (n : Nat)
    (increasing : numbers.Pairwise (· < ·)) (lower : ∀ number ∈ numbers, first ≤ number)
    (whole : ∀ i ≤ n, first + i ∈ numbers) : numbers[n]? = some (first + n) := by
  induction numbers generalizing first n with
  | nil => exact (not_mem_nil (whole 0 (Nat.zero_le n))).elim
  | cons number rest ih =>
    rw [pairwise_cons] at increasing
    have isFirst : number = first := by
      have atLeast := lower number mem_cons_self
      rcases mem_cons.mp (whole 0 (Nat.zero_le n)) with here | later
      · omega
      · have after := increasing.1 _ later
        omega
    cases n with
    | zero =>
      rw [List.getElem?_cons_zero, isFirst]
      simp
    | succ n =>
      rw [List.getElem?_cons_succ, ih (first + 1) n increasing.2]
      · congr 1
        omega
      · intro later there
        have after := increasing.1 later there
        omega
      · intro i bound
        have next := whole (i + 1) (by omega)
        rcases mem_cons.mp next with here | later
        · omega
        · have same : first + 1 + (i : Int) = first + ((i + 1 : Nat) : Int) := by omega
          rw [same]
          exact later

end Collection

namespace ActiveStore

variable {T S τ σ β : Type}

/-- The query of a list of ticks: `frameFrom`, `frameTo` and as many as the range is long. -/
def rangeQuery (start : Nat) (stop : Int) (ignorable : Bool) : TicksQuery :=
  ⟨some start, some stop, (stop - start).toNat, ignorable⟩

def Unbroken (records : List (Record β)) (first last : Nat) : Prop :=
  ∀ frame : Nat, first ≤ frame → frame ≤ last → (frame : Int) ∈ Collection.frames records

theorem inRange_rangeQuery (start : Nat) (stop frame : Int) (ignorable : Bool) :
    inRange (rangeQuery start stop ignorable) frame = true ↔ start ≤ frame ∧ frame < stop := by
  simp [inRange, rangeQuery]

theorem length_getTicksInner_le (records : List (Record β)) (start : Nat) (stop : Int)
    (ignorable : Bool) :
    (getTicksInner (rangeQuery start stop ignorable) records).length ≤ (stop - start).toNat := by
  unfold getTicksInner Collection.applyLimit
  by_cases empty : (stop - start).toNat = 0
  · have none : records.filter (fun record =>
        inRange (rangeQuery start stop ignorable) record.frame) = [] := by
      refine filter_eq_nil_iff.mpr fun record _ inside => ?_
      have range := (inRange_rangeQuery start stop record.frame ignorable).mp inside
      omega
    rw [none]
    change (if (stop - start).toNat = 0 then [] else _ : List (Record β)).length ≤ _
    rw [if_pos empty]
    exact Nat.zero_le _
  · change (if (stop - start).toNat = 0 then _ else _ : List (Record β)).length ≤ _
    rw [if_neg empty]
    exact length_take_le _ _

theorem getElem?_getTicksInner {records : List (Record β)} {record : Record β} {frame : Nat}
    (nodup : (Collection.frames records).Nodup) (start : Nat) (stop : Int) (ignorable : Bool)
    (lower : start ≤ frame) (upper : frame < stop) (unbroken : Unbroken records start frame)
    (found : Collection.findFrame records frame = some record) :
    (getTicksInner (rangeQuery start stop ignorable) records)[frame - start]? = some record := by
  generalize ranged : records.filter (fun record =>
    inRange (rangeQuery start stop ignorable) record.frame) = within
  have inside : ∀ other, other ∈ within ↔
      other ∈ records ∧ start ≤ other.frame ∧ other.frame < stop := by
    intro other
    rw [← ranged, mem_filter, inRange_rangeQuery]
  have distinct : (Collection.frames within).Nodup := by
    rw [← ranged]
    exact nodup.sublist (filter_sublist.map Record.frame)
  have index := Collection.getElem?_of_increasing _ start (frame - start)
    (Collection.increasing_sortFrame distinct) (fun number there => ?_) (fun i bound => ?_)
  · rw [Collection.frames, List.getElem?_map] at index
    obtain ⟨other, there, isFrame⟩ := Option.map_eq_some_iff.mp index
    have stored := (Collection.mem_sorted other).mp (mem_of_getElem? there)
    have same : other = record := by
      have isFrame' : record.frame = frame := by simpa using List.find?_some found
      refine inj_on_of_nodup_map nodup ((inside other).mp stored).1
        (List.mem_of_find?_eq_some found) ?_
      omega
    have limited : (stop - start).toNat ≠ 0 := by omega
    unfold getTicksInner Collection.applyLimit
    rw [ranged]
    change (if (stop - start).toNat = 0 then _ else _ : List (Record β))[frame - start]? = _
    rw [if_neg limited, List.getElem?_take, if_pos, there, same]
    change frame - start < (stop - start).toNat
    omega
  · obtain ⟨other, listed, rfl⟩ := mem_map.mp there
    exact ((inside other).mp ((Collection.mem_sorted other).mp listed)).2.1
  · have stored := unbroken (start + i) (by omega) (by omega)
    obtain ⟨other, there, isFrame⟩ := mem_map.mp stored
    refine mem_map.mpr ⟨other, (Collection.mem_sorted other).mpr ?_, ?_⟩
    · rw [inside]
      exact ⟨there, by omega, by omega⟩
    · omega

variable (f : Formats T S τ σ)

/-- One of the two updates of `updateTick`, under `getPlayIdKey`. -/
def findOneAndUpdate (s : ActiveStore τ σ) (tick : T) (ignorable : Bool) : ActiveStore τ σ :=
  s.setTicks ignorable (Collection.findOneAndUpdate (s.ticks ignorable) (f.tick.toRecord tick))

/-- What `updateTick` waits for. -/
inductive Updating where
  | findOneAndUpdate
  | getTick
  | findOneAndUpdateAgain
  | done
deriving DecidableEq

/-- The next call of `updateTick` succeeds.  Both updates are of the play key of the
original ticks. -/
def updateTick (s : ActiveStore τ σ) (tick : T) : Updating → ActiveStore τ σ × Updating
  | .findOneAndUpdate => (s.findOneAndUpdate f tick false, .getTick)
  | .getTick =>
    let firstTickWithoutIgnorableEvent := s.getTick f 1 false
    (s, if firstTickWithoutIgnorableEvent.isSome then .findOneAndUpdateAgain else .done)
  | .findOneAndUpdateAgain => (s.findOneAndUpdate f tick false, .done)
  | .done => (s, .done)

structure Distinct (s : ActiveStore τ σ) : Prop where
  original : (Collection.frames s.original).Nodup
  excludedIgnorable : (Collection.frames s.excludedIgnorable).Nodup

def Corrected (s : ActiveStore τ σ) (tick : T) : Prop :=
  Collection.findFrame s.original (f.tick.frame tick) = some (f.tick.toRecord tick)

variable {f}

theorem distinct_empty : (empty : ActiveStore τ σ).Distinct := ⟨nodup_nil, nodup_nil⟩

variable {s : ActiveStore τ σ} {tick : T}

theorem distinct_putTick {s' : ActiveStore τ σ} {ignorable : Bool} (distinct : s.Distinct)
    (put : s.putTick f tick ignorable = some s') : s'.Distinct := by
  obtain ⟨records, inserted, rfl⟩ := Option.map_eq_some_iff.mp put
  obtain ⟨fresh, rfl⟩ := Collection.insertOne_eq_some inserted
  have grown : (Collection.frames (s.ticks ignorable)).Nodup →
      (Collection.frames (s.ticks ignorable ++ [f.tick.toRecord tick])).Nodup := by
    intro nodup
    rw [Collection.frames, map_append, map_singleton]
    refine Nodup.append nodup (nodup_singleton _) ?_
    intro frame there here
    rw [mem_singleton.mp here] at there
    exact fresh there
  cases ignorable with
  | false => exact ⟨grown distinct.original, distinct.excludedIgnorable⟩
  | true => exact ⟨distinct.original, grown distinct.excludedIgnorable⟩

theorem corrected_putTick {s' : ActiveStore τ σ} {put : T} {ignorable : Bool}
    (corrected : s.Corrected f tick) (stored : s.putTick f put ignorable = some s') :
    s'.Corrected f tick := by
  obtain ⟨records, inserted, rfl⟩ := Option.map_eq_some_iff.mp stored
  obtain ⟨-, rfl⟩ := Collection.insertOne_eq_some inserted
  cases ignorable with
  | false => exact Collection.findFrame_append _ corrected
  | true => exact corrected

theorem distinct_updateTick (distinct : s.Distinct) (tick : T) (updating : Updating) :
    (s.updateTick f tick updating).1.Distinct := by
  have updated : (s.findOneAndUpdate f tick false).Distinct := by
    refine ⟨?_, distinct.excludedIgnorable⟩
    change (Collection.frames (Collection.findOneAndUpdate s.original _)).Nodup
    rw [Collection.frames_findOneAndUpdate]
    exact distinct.original
  cases updating with
  | findOneAndUpdate => exact updated
  | getTick => exact distinct
  | findOneAndUpdateAgain => exact updated
  | done => exact distinct

theorem corrected_findOneAndUpdate (stored : f.tick.frame tick ∈ Collection.frames s.original) :
    (s.findOneAndUpdate f tick false).Corrected f tick :=
  Collection.findFrame_findOneAndUpdate (f.tick.toRecord tick) stored

theorem corrected_updateTick (corrected : s.Corrected f tick) (updating : Updating) :
    (s.updateTick f tick updating).1.Corrected f tick := by
  have updated : (s.findOneAndUpdate f tick false).Corrected f tick :=
    corrected_findOneAndUpdate (Collection.mem_frames_of_findFrame corrected)
  cases updating with
  | findOneAndUpdate => exact updated
  | getTick => exact corrected
  | findOneAndUpdateAgain => exact updated
  | done => exact corrected

theorem getElem?_corrected {frame : Nat} (distinct : s.Distinct) (corrected : s.Corrected f tick)
    (isFrame : f.tick.frame tick = frame) (start : Nat) (stop : Int) (lower : start ≤ frame)
    (upper : frame < stop) (unbroken : Unbroken s.original start frame) (ignorable : Bool) :
    ((getTicksInner (rangeQuery start stop ignorable) s.original).map
      Record.data)[frame - start]? = some (f.tick.encode tick) := by
  unfold Corrected at corrected
  rw [isFrame] at corrected
  rw [List.getElem?_map, getElem?_getTicksInner distinct.original start stop ignorable lower upper
    unbroken corrected]
  rfl

section Resolved

variable (f)

def updated (s : ActiveStore τ σ) (tick : T) : ActiveStore τ σ × Updating :=
  let (s, updating) := s.updateTick f tick .findOneAndUpdate
  let (s, updating) := s.updateTick f tick updating
  s.updateTick f tick updating

/-- Reads of a frame give the replacement in both forms, and other frames are as before. -/
structure InStep (tick : T) (s s' : ActiveStore τ σ) : Prop where
  replaced : ∀ ignorable,
    s'.getTick f (f.tick.frame tick) ignorable = some (f.tick.readBack tick)
  others : ∀ frame, frame ≠ f.tick.frame tick → ∀ ignorable,
    s'.getTick f frame ignorable = s.getTick f frame ignorable

end Resolved

theorem updated_eq (s : ActiveStore τ σ) (tick : T) :
    s.updated f tick = (s.findOneAndUpdate f tick false, .done) := by
  have again : (s.findOneAndUpdate f tick false).findOneAndUpdate f tick false =
      s.findOneAndUpdate f tick false := by
    change ActiveStore.mk _ _ _ = ActiveStore.mk _ _ _
    congr 1
    exact Collection.findOneAndUpdate_findOneAndUpdate (f.tick.toRecord tick)
  change (s.findOneAndUpdate f tick false).updateTick f tick
    (if ((s.findOneAndUpdate f tick false).getTick f 1 false).isSome then _ else _) = _
  split
  · exact congrArg (fun s' => (s', Updating.done)) again
  · rfl

theorem getTick_findOneAndUpdate (stored : f.tick.frame tick ∈ Collection.frames s.original)
    (ignorable : Bool) : (s.findOneAndUpdate f tick false).getTick f (f.tick.frame tick) ignorable =
      some (((if ignorable then Collection.findFrame s.excludedIgnorable (f.tick.frame tick)
        else none).map f.tick.decodeRecord).getD (f.tick.readBack tick)) := by
  have corrected : Collection.findFrame (s.findOneAndUpdate f tick false).original
      (f.tick.frame tick) = some (f.tick.toRecord tick) := corrected_findOneAndUpdate stored
  have excluded : (s.findOneAndUpdate f tick false).excludedIgnorable =
      s.excludedIgnorable := rfl
  unfold getTick ticks
  cases ignorable with
  | false =>
    simp only [Bool.false_eq_true, if_false, corrected]
    rfl
  | true =>
    simp only [if_true, corrected, excluded]
    cases Collection.findFrame s.excludedIgnorable (f.tick.frame tick) with
    | none | some record => rfl

theorem getTick_findOneAndUpdate_of_ne (s : ActiveStore τ σ) {frame : Int}
    (other : frame ≠ f.tick.frame tick) (ignorable : Bool) :
    (s.findOneAndUpdate f tick false).getTick f frame ignorable = s.getTick f frame ignorable := by
  have original : Collection.findFrame (s.findOneAndUpdate f tick false).original frame =
      Collection.findFrame s.original frame :=
    Collection.findFrame_findOneAndUpdate_of_ne (f.tick.toRecord tick) other
  have excluded : (s.findOneAndUpdate f tick false).excludedIgnorable =
      s.excludedIgnorable := rfl
  unfold getTick ticks
  cases ignorable with
  | false => simp only [Bool.false_eq_true, if_false, original]
  | true => simp only [if_true, original, excluded]

/-- Both forms are in step where the form without ignorable events falls back to the
original, or has the replacement already. -/
theorem inStep_updated_iff (s : ActiveStore τ σ) (tick : T)
    (stored : f.tick.frame tick ∈ Collection.frames s.original) :
    InStep f tick s (s.updated f tick).1 ↔
      ∀ record, Collection.findFrame s.excludedIgnorable (f.tick.frame tick) = some record →
        f.tick.decodeRecord record = f.tick.readBack tick := by
  rw [updated_eq]
  constructor
  · intro inStep record found
    have read := inStep.replaced true
    rw [getTick_findOneAndUpdate stored, if_pos rfl, found] at read
    exact Option.some.inj read
  · intro same
    refine ⟨fun ignorable => ?_, fun frame other ignorable =>
      getTick_findOneAndUpdate_of_ne s other ignorable⟩
    rw [getTick_findOneAndUpdate stored]
    cases ignorable with
    | false => rfl
    | true =>
      rw [if_pos rfl]
      cases found : Collection.findFrame s.excludedIgnorable (f.tick.frame tick) with
      | none => rfl
      | some record => exact congrArg some (same record found)

section Stale

open ShortMsgpack

def shortFormats : Formats (Tick codec) Unit (RawTick codec) Unit :=
  ⟨tickFormat codec, noStartPoints⟩

def messageTick : RawTick codec := eventTick 2 0 (by omega) (by omega)

def silentTick : Tick codec := (emptyTick 2 (by omega)).tick

/-- A play whose one tick is stored, in both forms if it is stored `excluded`. -/
def messagePlay (excluded : Bool) : ActiveStore (RawTick codec) Unit :=
  let records := [Record.mk 2 none messageTick]
  ⟨records, if excluded then records else [], []⟩

/-- The message is still read in the form without ignorable events. -/
theorem stale_excludedIgnorable :
    shortFormats.tick.frame silentTick ∈ Collection.frames (messagePlay true).original ∧
      ¬ InStep shortFormats silentTick (messagePlay true)
        ((messagePlay true).updated shortFormats silentTick).1 := by
  refine ⟨mem_singleton.mpr rfl, fun inStep => ?_⟩
  have read : some messageTick.tick = some (shortFormats.tick.readBack silentTick) :=
    inStep.replaced true
  have events := congrArg (fun tick => (Tick.rest tick).length) (Option.some.inj read)
  exact absurd events (by decide)

theorem inStep_updated_of_fallback : InStep shortFormats silentTick (messagePlay false)
      ((messagePlay false).updated shortFormats silentTick).1 :=
  (inStep_updated_iff (messagePlay false) silentTick (mem_singleton.mpr rfl)).mpr
    fun _ found => by cases found

end Stale
end ActiveStore
end AkashicSystem.Playlog
