import AkashicSystem.Playlog.PlaylogStoreFacade
import AkashicSystem.Playlog.StableRecords

/-!
# What the stores show of a put

The active store holds a put if it has its record, the archive if it has its
value; archiving and restoring go from the one to the other, and every read of a
store that holds a put shows it.
-/

set_option autoImplicit false

namespace AkashicSystem.Playlog

open List

variable {T S τ σ : Type} (f : Formats T S τ σ)

def Formats.Lawful : Prop := f.tick.Lawful ∧ f.startPoint.Lawful

/-- The archive keeps the value that was put, as it is read. -/
def Put.Survives : Put T S → Prop
  | .tick t _ => f.tick.Survives t
  | .startPoint s => f.startPoint.Survives s

def Ticks.form (ticks : Ticks T) (ignorable : Bool) : List T :=
  if ignorable then ticks.excludedIgnorable else ticks.original

def Ticks.Stable (ticks : Ticks T) : Prop :=
  f.tick.Stable ticks.original ∧ f.tick.Stable ticks.excludedIgnorable

namespace Archive

def Stable (a : Archive T S) : Prop := a.ticks.Stable f ∧ f.startPoint.Stable a.startPoints

def Holds (a : Archive T S) : Put T S → Prop
  | .tick tick ignorable => f.tick.readBack tick ∈ a.ticks.form ignorable
  | .startPoint startPoint => f.startPoint.readBack startPoint ∈ a.startPoints

variable {f}

theorem store_stable {ticks : Ticks T} {startPoints : List S}
    (stable : Stable f ⟨ticks, startPoints⟩) :
    store f ticks startPoints = ⟨ticks, startPoints⟩ := by
  obtain ⟨⟨original, excluded⟩, points⟩ := stable
  unfold store
  rw [original.map_json, excluded.map_json, points.map_json]

end Archive

namespace ActiveStore

def Stable (s : ActiveStore τ σ) : Prop :=
  f.tick.StableRecords s.original ∧ f.tick.StableRecords s.excludedIgnorable ∧
    f.startPoint.StableRecords s.startPoints

def Holds (s : ActiveStore τ σ) : Put T S → Prop
  | .tick tick ignorable => f.tick.toRecord tick ∈ s.ticks ignorable
  | .startPoint startPoint => f.startPoint.toRecord startPoint ∈ s.startPoints

variable {f}

theorem Stable.ticks {s : ActiveStore τ σ} (stable : s.Stable f) (ignorable : Bool) :
    f.tick.StableRecords (s.ticks ignorable) := by
  cases ignorable with
  | false => exact stable.1
  | true => exact stable.2.1

theorem stable_empty : (empty : ActiveStore τ σ).Stable f :=
  ⟨Format.stableRecords_nil, Format.stableRecords_nil, Format.stableRecords_nil⟩

section

variable {s s' : ActiveStore τ σ} (lawful : f.Lawful) (stable : s.Stable f)

include lawful stable

theorem putTick_stable (tick : T) (ignorable : Bool) (survives : f.tick.Survives tick)
    (put : s.putTick f tick ignorable = some s') :
    s'.Stable f ∧ s'.Holds f (.tick tick ignorable) ∧ ∀ p, s.Holds f p → s'.Holds f p := by
  obtain ⟨records, inserted, rfl⟩ := Option.map_eq_some_iff.mp put
  obtain ⟨kept, rfl⟩ := Format.insertOne_stable lawful.1 (stable.ticks ignorable) tick survives
    inserted
  obtain ⟨original, excluded, points⟩ := stable
  cases ignorable with
  | false =>
    refine ⟨⟨kept, excluded, points⟩, ?_, fun p holds => ?_⟩
    · exact mem_append_right _ (mem_singleton_self _)
    · match p, holds with
      | .tick _ false, holds => exact mem_append_left _ holds
      | .tick _ true, holds => exact holds
      | .startPoint _, holds => exact holds
  | true =>
    refine ⟨⟨original, kept, points⟩, ?_, fun p holds => ?_⟩
    · exact mem_append_right _ (mem_singleton_self _)
    · match p, holds with
      | .tick _ false, holds => exact holds
      | .tick _ true, holds => exact mem_append_left _ holds
      | .startPoint _, holds => exact holds

theorem putStartPoint_stable (startPoint : S) (survives : f.startPoint.Survives startPoint)
    (put : s.putStartPoint f startPoint = some s') :
    s'.Stable f ∧ s'.Holds f (.startPoint startPoint) ∧ ∀ p, s.Holds f p → s'.Holds f p := by
  obtain ⟨records, inserted, rfl⟩ := Option.map_eq_some_iff.mp put
  obtain ⟨original, excluded, points⟩ := stable
  obtain ⟨kept, rfl⟩ := Format.insertOne_stable lawful.2 points startPoint survives inserted
  refine ⟨⟨original, excluded, kept⟩, ?_, fun p holds => ?_⟩
  · exact mem_append_right _ (mem_singleton_self _)
  · match p, holds with
    | .tick _ false, holds => exact holds
    | .tick _ true, holds => exact holds
    | .startPoint _, holds => exact mem_append_left _ holds

theorem put_stable (p : Put T S) (survives : p.Survives f) (put : s.put f p = some s') :
    s'.Stable f ∧ s'.Holds f p ∧ ∀ q, s.Holds f q → s'.Holds f q := by
  cases p with
  | tick tick ignorable => exact putTick_stable lawful stable tick ignorable survives put
  | startPoint startPoint => exact putStartPoint_stable lawful stable startPoint survives put

end

variable {s : ActiveStore τ σ}

theorem getAllTicks_stable (stable : s.Stable f) :
    (s.getAllTicks f).Stable f := ⟨stable.1.sorted, stable.2.1.sorted⟩

theorem mem_getAllTicks (lawful : f.Lawful) (stable : s.Stable f) (tick : T)
    (ignorable : Bool) : f.tick.readBack tick ∈ (s.getAllTicks f).form ignorable ↔
      s.Holds f (.tick tick ignorable) := by
  have perm : ∀ records : List (Record τ), (Collection.sortFrame records).Perm records :=
    fun records => perm_insertionSort _ records
  cases ignorable with
  | false =>
    have mem := ((perm s.original).map f.tick.decodeRecord).mem_iff (a := f.tick.readBack tick)
    exact mem.trans (stable.1.mem_iff lawful.1 tick)
  | true =>
    have mem := ((perm s.excludedIgnorable).map f.tick.decodeRecord).mem_iff
      (a := f.tick.readBack tick)
    exact mem.trans (stable.2.1.mem_iff lawful.1 tick)

theorem mem_getAllStartPoints (lawful : f.Lawful) (stable : s.Stable f)
    (startPoint : S) : f.startPoint.readBack startPoint ∈ s.getAllStartPoints f ↔
      s.Holds f (.startPoint startPoint) := by
  have perm : (Collection.sortFrame s.startPoints).Perm s.startPoints :=
    perm_insertionSort _ s.startPoints
  have mem := (perm.map f.startPoint.decodeRecord).mem_iff (a := f.startPoint.readBack startPoint)
  exact mem.trans (stable.2.2.mem_iff lawful.2 startPoint)

theorem store_archive {a : Archive T S} (lawful : f.Lawful) (stable : a.Stable f)
    (original : a.ticks.original ≠ []) (excluded : a.ticks.excludedIgnorable ≠ [])
    (points : a.startPoints ≠ []) :
    ∃ s, store f (a.getAllTicks f) a.getAllStartPoints = (s, true) ∧ s.Stable f ∧
      ∀ p, a.Holds f p → s.Holds f p := by
  obtain ⟨⟨stableOriginal, stableExcluded⟩, stablePoints⟩ := stable
  have perm : ∀ ticks : List T,
      (ticks.insertionSort fun t t' => f.tick.frame t ≤ f.tick.frame t').Perm ticks :=
    fun ticks => perm_insertionSort _ ticks
  have nonempty : ∀ ticks : List T, ticks ≠ [] →
      (ticks.insertionSort fun t t' => f.tick.frame t ≤ f.tick.frame t') ≠ [] :=
    fun ticks some eq => some (nil_perm.mp (eq ▸ perm ticks))
  have sortedOriginal := stableOriginal.perm (perm a.ticks.original).symm
  have sortedExcluded := stableExcluded.perm (perm a.ticks.excludedIgnorable).symm
  have first := Format.insertMany_stable sortedOriginal (nonempty _ original)
  have second := Format.insertMany_stable sortedExcluded (nonempty _ excluded)
  have third := Format.insertMany_stable stablePoints points
  refine ⟨⟨(a.getAllTicks f).original.map f.tick.toRecord,
    (a.getAllTicks f).excludedIgnorable.map f.tick.toRecord,
    a.startPoints.map f.startPoint.toRecord⟩, ?_,
    ⟨sortedOriginal.records, sortedExcluded.records, stablePoints.records⟩, ?_⟩
  · unfold store Archive.getAllTicks Archive.getAllStartPoints
    rw [first, second, third]
    rfl
  · intro p holds
    match p, holds with
    | .tick tick false, holds =>
      have there := mem_map_of_mem (f := f.tick.toRecord)
        ((perm a.ticks.original).mem_iff.mpr holds)
      rw [lawful.1] at there
      exact there
    | .tick tick true, holds =>
      have there := mem_map_of_mem (f := f.tick.toRecord)
        ((perm a.ticks.excludedIgnorable).mem_iff.mpr holds)
      rw [lawful.1] at there
      exact there
    | .startPoint startPoint, holds =>
      have there := mem_map_of_mem (f := f.startPoint.toRecord) holds
      rw [lawful.2] at there
      exact there

/-- The list has the value, or is filled up to its limit with earlier frames. -/
def Lists {α β : Type} (format : Format α β) (limit : Nat) (values : List α) (value : α) : Prop :=
  format.readBack value ∈ values ∨
    limit ≠ 0 ∧ values.length = limit ∧ ∀ earlier ∈ values,
      format.frame earlier < format.frame value

variable (f) in
/-- The answer of a read shows what was put, where the read asks for it. -/
def Shows : Put T S → Query → Answer T S τ → Prop
  | .tick t ignorable, .getTick frame ignorable', answer =>
    ignorable' = ignorable → frame = f.tick.frame t →
      answer = .tick (some (f.tick.readBack t))
  | .tick t ignorable, .getTicks query, answer =>
    query.ignorable = ignorable → inRange query (f.tick.frame t) = true →
      ∃ ticks, answer = .ticks ticks ∧ Lists f.tick query.limit ticks t
  | .tick t ignorable, .getTicksRaw query, answer =>
    query.ignorable = ignorable → inRange query (f.tick.frame t) = true →
      ∃ ticks, answer = .ticksRaw ticks ∧
        Lists f.tick query.limit (ticks.map f.tick.decode) t
  | .startPoint s, .getStartPoint frame, answer =>
    frame = f.startPoint.frame s → answer = .startPoint (some (f.startPoint.readBack s))
  | .startPoint s, .getStartPoints limit, answer =>
    ∃ startPoints, answer = .startPoints startPoints ∧ Lists f.startPoint limit startPoints s
  | .startPoint s, .getClosestStartPoint frame, answer =>
    f.startPoint.frame s ≤ frame → ∃ closest, answer = .startPoint (some closest) ∧
      f.startPoint.frame s ≤ f.startPoint.frame closest ∧ f.startPoint.frame closest ≤ frame
  | .startPoint s, .getClosestStartPointByTimestamp before, answer =>
    ∀ timestamp, f.startPoint.timestamp s = some timestamp → timestamp < before →
      ∃ closest later, answer = .startPoint (some closest) ∧
        f.startPoint.timestamp closest = some later ∧ timestamp ≤ later ∧ later < before
  | .tick _ _, _, _ => True
  | .startPoint _, _, _ => True

theorem frame_decodeRecord {α β : Type} {format : Format α β} {records : List (Record β)}
    (stable : format.StableRecords records) (record : Record β) (there : record ∈ records) :
    format.frame (format.decodeRecord record) = record.frame :=
  congrArg Record.frame (stable.1 record there).1

theorem lists_applyLimit {α β : Type} {format : Format α β} {records some : List (Record β)}
    (stable : format.StableRecords records) (sub : some.Sublist records) (limit : Nat) (value : α)
    (there : format.toRecord value ∈ some) : Lists format limit
      ((Collection.applyLimit limit (Collection.sortFrame some)).map format.decodeRecord)
        value := by
  have nodup : (some.map Record.frame).Nodup := stable.2.sublist (sub.map Record.frame)
  rcases Format.applyLimit_shows some limit _ nodup there with shown | ⟨limited, full, earlier⟩
  · exact .inl (mem_map.mpr ⟨_, shown, rfl⟩)
  · refine .inr ⟨limited, by rw [length_map, full], fun v mem => ?_⟩
    obtain ⟨record, here, rfl⟩ := mem_map.mp mem
    obtain ⟨known, before⟩ := earlier record here
    rw [frame_decodeRecord stable record (sub.subset known)]
    exact before

theorem Lists.ne_nil {α β : Type} {format : Format α β} {limit : Nat} {values : List α} {value : α}
    (lists : Lists format limit values value) : values ≠ [] := by
  rintro rfl
  rcases lists with there | ⟨limited, full, -⟩
  · exact not_mem_nil there
  · exact limited full.symm

section

variable {s : ActiveStore τ σ} (stable : s.Stable f)

include stable

theorem getTicksRecords_lists (query : TicksQuery)
    (tick : T) (holds : s.Holds f (.tick tick query.ignorable))
    (inRange : inRange query (f.tick.frame tick) = true) :
    Lists f.tick query.limit ((s.getTicksRecords query).map f.tick.decodeRecord) tick := by
  have lists : Lists f.tick query.limit
      ((getTicksInner query (s.ticks query.ignorable)).map f.tick.decodeRecord) tick := by
    refine lists_applyLimit (stable.ticks query.ignorable) filter_sublist _ _ ?_
    exact mem_filter.mpr ⟨holds, inRange⟩
  unfold getTicksRecords
  split
  · next none =>
      rw [none] at lists
      exact absurd rfl lists.ne_nil
  · exact lists

theorem getTick_shows (tick : T) (ignorable : Bool)
    (holds : s.Holds f (.tick tick ignorable)) :
    s.getTick f (f.tick.frame tick) ignorable = some (f.tick.readBack tick) := by
  unfold getTick
  rw [Format.findFrame_stable (stable.ticks ignorable) tick holds]
  rfl

theorem getClosestStartPoint_shows (startPoint : S)
    (holds : s.Holds f (.startPoint startPoint)) (frame : Int)
    (before : f.startPoint.frame startPoint ≤ frame) :
    ∃ closest, s.getClosestStartPoint f frame = some closest ∧
      f.startPoint.frame startPoint ≤ f.startPoint.frame closest ∧
      f.startPoint.frame closest ≤ frame := by
  have there : f.startPoint.toRecord startPoint ∈
      s.startPoints.filter fun record => record.frame ≤ frame :=
    mem_filter.mpr ⟨holds, decide_eq_true before⟩
  obtain ⟨first, head, mem, order⟩ := Sorted.head_insertionSort
    (r := fun r r' : Record σ => r'.frame ≤ r.frame)
    (fun r r' => Int.le_total r'.frame r.frame) (fun r r' r'' le le' => Int.le_trans le' le)
    _ _ there
  obtain ⟨known, inFront⟩ := mem_filter.mp mem
  rw [decide_eq_true_eq] at inFront
  refine ⟨f.startPoint.decodeRecord first, ?_, ?_, ?_⟩
  · exact congrArg (Option.map f.startPoint.decodeRecord) head
  · rw [frame_decodeRecord stable.2.2 first known]
    rcases order with rfl | order
    · exact le_refl _
    · exact order
  · rw [frame_decodeRecord stable.2.2 first known]
    exact inFront

theorem getClosestStartPointByTimestamp_shows (startPoint : S)
    (holds : s.Holds f (.startPoint startPoint)) (before timestamp : Int)
    (stamped : f.startPoint.timestamp startPoint = some timestamp) (early : timestamp < before) :
    ∃ closest later, s.getClosestStartPointByTimestamp f before = some closest ∧
      f.startPoint.timestamp closest = some later ∧ timestamp ≤ later ∧ later < before := by
  have there : f.startPoint.toRecord startPoint ∈
      s.startPoints.filter fun record => record.timestamp.any fun t => t < before := by
    refine mem_filter.mpr ⟨holds, ?_⟩
    have stamp : (f.startPoint.toRecord startPoint).timestamp = some timestamp := stamped
    rw [stamp]
    exact decide_eq_true early
  obtain ⟨first, head, mem, order⟩ := Sorted.head_insertionSort
    (r := fun r r' : Record σ => r'.timestamp.getD 0 ≤ r.timestamp.getD 0)
    (fun r r' => Int.le_total (r'.timestamp.getD 0) (r.timestamp.getD 0))
    (fun r r' r'' le le' => Int.le_trans le' le) _ _ there
  obtain ⟨known, inFront⟩ := mem_filter.mp mem
  obtain ⟨later, firstStamp, firstEarly⟩ := (Option.any_eq_true _ _).mp inFront
  rw [decide_eq_true_eq] at firstEarly
  refine ⟨f.startPoint.decodeRecord first, later, ?_, ?_, ?_, firstEarly⟩
  · exact congrArg (Option.map f.startPoint.decodeRecord) head
  · have again := congrArg Record.timestamp (stable.2.2.1 first known).1
    exact again.trans firstStamp
  · have le : (f.startPoint.toRecord startPoint).timestamp.getD 0 ≤ first.timestamp.getD 0 := by
      rcases order with rfl | order
      · exact le_refl _
      · exact order
    have stamp : (f.startPoint.toRecord startPoint).timestamp = some timestamp := stamped
    rw [stamp, firstStamp] at le
    exact le

theorem read_shows (p : Put T S)
    (holds : s.Holds f p) (query : Query) : Shows f p query (s.read f query) := by
  cases p with
  | tick tick ignorable =>
    cases query with
    | getTick frame ignorable' =>
      rintro rfl rfl
      exact congrArg Answer.tick (getTick_shows stable tick ignorable' holds)
    | getTicks query =>
      rintro rfl inRange
      have lists := getTicksRecords_lists stable query tick holds inRange
      refine ⟨_, rfl, ?_⟩
      rw [getTicks, getTicksRaw, map_map]
      exact lists
    | getTicksRaw query =>
      rintro rfl inRange
      have lists := getTicksRecords_lists stable query tick holds inRange
      refine ⟨_, rfl, ?_⟩
      rw [getTicksRaw, map_map]
      exact lists
    | getStartPoint | getStartPoints | getClosestStartPoint | getClosestStartPointByTimestamp =>
      trivial
  | startPoint startPoint =>
    cases query with
    | getTick | getTicks | getTicksRaw => trivial
    | getStartPoint frame =>
      rintro rfl
      refine congrArg Answer.startPoint ?_
      rw [getStartPoint, Format.findFrame_stable stable.2.2 startPoint holds]
      rfl
    | getStartPoints limit =>
      exact ⟨_, rfl, lists_applyLimit stable.2.2 (Sublist.refl _) limit startPoint holds⟩
    | getClosestStartPoint frame =>
      intro before
      obtain ⟨closest, eq, rest⟩ :=
        getClosestStartPoint_shows stable startPoint holds frame before
      exact ⟨closest, congrArg Answer.startPoint eq, rest⟩
    | getClosestStartPointByTimestamp before =>
      intro timestamp stamped early
      obtain ⟨closest, later, eq, rest⟩ := getClosestStartPointByTimestamp_shows stable
        startPoint holds before timestamp stamped early
      exact ⟨closest, later, congrArg Answer.startPoint eq, rest⟩

end

end ActiveStore
end AkashicSystem.Playlog
