import AkashicSystem.Playlog.MigrationInvariant
import Mathlib.Data.List.Find

/-!
# What reads show of a restored play

A restore makes a copy of each collection, in the order of the frames.  The finds
by frame see it; among the start points of one timestamp the first is found.
-/

set_option autoImplicit false

namespace AkashicSystem.Playlog

open List

variable {T S τ σ : Type}

namespace Collection

variable {β : Type}

/-- The copy has the records in the form `g`, under the same labels. -/
structure Copies (records copy : List (Record β)) (g : Record β → Record β) : Prop where
  perm : copy.Perm (records.map g)
  frame : ∀ record ∈ records, (g record).frame = record.frame
  timestamp : ∀ record ∈ records, (g record).timestamp = record.timestamp

/-- Among the records of one timestamp the first has the least frame. -/
def TiesInOrder (records : List (Record β)) : Prop :=
  ∀ record ∈ records, record.timestamp ≠ none → ∀ first,
    records.find? (fun r => r.timestamp = record.timestamp) = some first →
      first.frame ≤ record.frame

def latest (timestamp : Int) (records : List (Record β)) : Option (Record β) :=
  ((records.filter fun record => record.timestamp.any fun t => t < timestamp).insertionSort
    fun r r' => r'.timestamp.getD 0 ≤ r.timestamp.getD 0).head?

section Copy

variable {records copy : List (Record β)} {g : Record β → Record β}

theorem findFrame_perm (records' : List (Record β)) (perm : records.Perm records')
    (nodup : (records.map Record.frame).Nodup) (frame : Int) :
    findFrame records frame = findFrame records' frame := by
  refine List.find?_eq_find?_of_perm perm ?_
  rintro record ⟨there, here⟩ record' ⟨there', here'⟩
  have eq : record.frame = record'.frame := (of_decide_eq_true here).trans
    (of_decide_eq_true here').symm
  exact inj_on_of_nodup_map nodup there there' eq

section

variable (copies : Copies records copy g)
include copies

theorem Copies.frames : (records.map g).map Record.frame = records.map Record.frame := by
  rw [map_map]
  exact map_congr_left copies.frame

theorem Copies.nodup (nodup : (records.map Record.frame).Nodup) :
    (copy.map Record.frame).Nodup := by
  rw [(copies.perm.map Record.frame).nodup_iff, copies.frames]
  exact nodup

theorem Copies.findFrame_eq (nodup : (records.map Record.frame).Nodup) (frame : Int) :
    findFrame copy frame = (findFrame records frame).map g := by
  rw [findFrame_perm _ copies.perm (copies.nodup nodup), findFrame, List.find?_map, findFrame]
  have same : ∀ record ∈ records,
      ((fun r : Record β => decide (r.frame = frame)) ∘ g) record =
        decide (record.frame = frame) := by
    intro record there
    simp only [Function.comp, copies.frame record there]
  rw [List.find?_congr same]

theorem Copies.filter_perm (p : Int → Bool) : (copy.filter fun record => p record.frame).Perm
      ((records.filter fun record => p record.frame).map g) := by
  have same : (records.filter fun record => p record.frame) =
      records.filter ((fun record => p record.frame) ∘ g) := by
    refine filter_congr fun record there => ?_
    simp only [Function.comp, copies.frame record there]
  rw [same, ← filter_map]
  exact copies.perm.filter _

section

variable (nodup : (records.map Record.frame).Nodup)

include nodup

theorem Copies.insertionSort_eq (p : Int → Bool) (r : Int → Int → Prop)
    [DecidableRel r] (total : ∀ a b, r a b ∨ r b a) (trans : ∀ a b c, r a b → r b c → r a c)
    (antisymm : ∀ a b, r a b → r b a → a = b) :
    (copy.filter fun record => p record.frame).insertionSort (fun a b => r a.frame b.frame) =
      ((records.filter fun record => p record.frame).insertionSort
        (fun a b => r a.frame b.frame)).map g := by
  have distinct := copies.nodup nodup
  rw [map_insertionSort (fun a b : Record β => r a.frame b.frame)
    (fun a b : Record β => r a.frame b.frame) g]
  · refine Sorted.insertionSort_perm (r := fun a b : Record β => r a.frame b.frame)
      (fun a b => total a.frame b.frame) (fun a b c => trans a.frame b.frame c.frame) _ _
      (copies.filter_perm p) ?_
    intro a there b there' le le'
    exact inj_on_of_nodup_map distinct (mem_of_mem_filter there)
      (mem_of_mem_filter there') (antisymm _ _ le le')
  · intro a there b there'
    rw [copies.frame a (mem_of_mem_filter there),
      copies.frame b (mem_of_mem_filter there')]

theorem Copies.sortFrame_eq (p : Int → Bool) :
    sortFrame (copy.filter fun record => p record.frame) =
      (sortFrame (records.filter fun record => p record.frame)).map g :=
  copies.insertionSort_eq nodup p (· ≤ ·) Int.le_total (fun _ _ _ => Int.le_trans)
    (fun _ _ => Int.le_antisymm)

theorem Copies.applyLimit_eq (limit : Nat) (p : Int → Bool) :
    applyLimit limit (sortFrame (copy.filter fun record => p record.frame)) =
      (applyLimit limit (sortFrame (records.filter fun record => p record.frame))).map g := by
  rw [copies.sortFrame_eq nodup, applyLimit, applyLimit]
  split
  · rfl
  · rw [map_take]

theorem Copies.getTicksInner_eq (query : TicksQuery) :
    ActiveStore.getTicksInner query copy = (ActiveStore.getTicksInner query records).map g :=
  copies.applyLimit_eq nodup query.limit (ActiveStore.inRange query)

theorem Copies.closest_eq (frame : Int) :
    ((copy.filter fun record => record.frame ≤ frame).insertionSort
        fun r r' => r'.frame ≤ r.frame).head? =
      ((records.filter fun record => record.frame ≤ frame).insertionSort
        fun r r' => r'.frame ≤ r.frame).head?.map g := by
  have sorted := copies.insertionSort_eq nodup (fun f => f ≤ frame) (fun a b => b ≤ a)
    (fun a b => Int.le_total b a) (fun _ _ _ le le' => Int.le_trans le' le)
    (fun _ _ le le' => Int.le_antisymm le' le)
  rw [sorted, List.head?_map]

end

end

end Copy

section Latest

variable {records : List (Record β)}

variable (timestamp : Int)

/-- All that the find by timestamp shows: the first record of the latest timestamp. -/
theorem latest_eq_some (first : Record β)
    (found : latest timestamp records = some first) :
    first ∈ records ∧ ∃ t, first.timestamp = some t ∧ t < timestamp ∧
      (∀ record ∈ records, ∀ t', record.timestamp = some t' → t' < timestamp → t' ≤ t) ∧
      records.find? (fun record => record.timestamp = some t) = some first := by
  have mem := (mem_insertionSort _).mp (mem_of_head? found)
  obtain ⟨there, stamped⟩ := mem_filter.mp mem
  obtain ⟨t, stamp, early⟩ := (Option.any_eq_true _ _).mp stamped
  rw [decide_eq_true_eq] at early
  refine ⟨there, t, stamp, early, fun record here t' stamp' early' => ?_, ?_⟩
  · have inside : record ∈
        records.filter fun record => record.timestamp.any fun t => t < timestamp := by
      refine mem_filter.mpr ⟨here, ?_⟩
      rw [stamp']
      exact decide_eq_true early'
    obtain ⟨first', head, _, order⟩ := Sorted.head_insertionSort
      (r := fun r r' : Record β => r'.timestamp.getD 0 ≤ r.timestamp.getD 0)
      (fun r r' => Int.le_total (r'.timestamp.getD 0) (r.timestamp.getD 0))
      (fun _ _ _ le le' => Int.le_trans le' le) _ record inside
    obtain rfl : first' = first := Option.some.inj (head.symm.trans found)
    rcases order with rfl | le
    · rw [stamp] at stamp'
      exact le_of_eq (Option.some.inj stamp').symm
    · rw [stamp, stamp'] at le
      exact le
  · have first' := Sorted.find?_head_insertionSort (fun r : Record β => r.timestamp.getD 0) _ first
      found
    rw [List.find?_filter] at first'
    rw [← first']
    refine List.find?_congr fun record _ => ?_
    rw [stamp]
    cases record.timestamp with
    | none => simp
    | some t' =>
      by_cases same : t' = t
      · simp [same, early]
      · simp [same]

theorem latest_eq_none : latest timestamp records = none ↔
      ∀ record ∈ records, ∀ t, record.timestamp = some t → ¬ t < timestamp := by
  rw [latest, List.head?_eq_none_iff, ← length_eq_zero_iff, length_insertionSort,
    length_eq_zero_iff, filter_eq_nil_iff]
  refine forall₂_congr fun record _ => ?_
  cases record.timestamp with
  | none | some t => simp

theorem Copies.latest_isSome {copy : List (Record β)} {g : Record β → Record β}
    (copies : Copies records copy g) (timestamp : Int) :
    (latest timestamp copy).isSome = (latest timestamp records).isSome := by
  have none_iff : latest timestamp copy = none ↔ latest timestamp records = none := by
    rw [latest_eq_none, latest_eq_none]
    constructor
    · intro late record there t stamp
      refine late (g record) (copies.perm.mem_iff.mpr (mem_map_of_mem there)) t ?_
      rw [copies.timestamp record there]
      exact stamp
    · intro late record there t stamp
      obtain ⟨record', there', rfl⟩ := mem_map.mp (copies.perm.mem_iff.mp there)
      rw [copies.timestamp record' there'] at stamp
      exact late record' there' t stamp
  rw [Bool.eq_iff_iff, ← not_iff_not, Bool.not_eq_true, Bool.not_eq_true,
    Option.isSome_eq_false_iff, Option.isSome_eq_false_iff, Option.isNone_iff_eq_none,
    Option.isNone_iff_eq_none, none_iff]

theorem mem_sortFrame (record : Record β) : record ∈ sortFrame records ↔ record ∈ records :=
  mem_insertionSort _

theorem latest_sortFrame_frame (timestamp t : Int) (first record : Record β)
    (found : latest timestamp (sortFrame records) = some first) (there : record ∈ records)
    (stamp : record.timestamp = some t) (same : first.timestamp = some t) :
    first.frame ≤ record.frame := by
  obtain ⟨_, t', stamp', _, _, find⟩ := latest_eq_some timestamp first found
  rw [same] at stamp'
  cases stamp'
  have order := Sorted.find?_first _ (Format.pairwise_sortFrame records) _ first record find
    ((mem_sortFrame record).mpr there) (by rw [stamp]; simp)
  rcases order with rfl | le
  · exact le_refl _
  · exact le

theorem latest_sortFrame_timestamp (first first' : Record β)
    (found : latest timestamp records = some first)
    (found' : latest timestamp (sortFrame records) = some first') :
    first.timestamp = first'.timestamp := by
  obtain ⟨there, t, stamp, early, greatest, _⟩ := latest_eq_some timestamp first found
  obtain ⟨there', t', stamp', early', greatest', _⟩ := latest_eq_some timestamp first' found'
  have le := greatest first' ((mem_sortFrame first').mp there') t' stamp' early'
  have le' := greatest' first ((mem_sortFrame first).mpr there) t stamp early
  rw [stamp, stamp', Int.le_antisymm le' le]

theorem latest_sortFrame_none :
    latest timestamp (sortFrame records) = none ↔ latest timestamp records = none := by
  rw [latest_eq_none, latest_eq_none]
  simp only [mem_sortFrame]

/-- The order of the frames shows the same latest records where ties are in order. -/
theorem latest_sortFrame (nodup : (records.map Record.frame).Nodup) (ties : TiesInOrder records)
    (timestamp : Int) : latest timestamp (sortFrame records) = latest timestamp records := by
  cases found : latest timestamp records with
  | none => exact (latest_sortFrame_none timestamp).mpr found
  | some first =>
    cases found' : latest timestamp (sortFrame records) with
    | none =>
      rw [(latest_sortFrame_none timestamp).mp found'] at found
      cases found
    | some first' =>
      have same := latest_sortFrame_timestamp timestamp first first' found found'
      obtain ⟨there, t, stamp, _, _, find⟩ := latest_eq_some timestamp first found
      have there' := (mem_sortFrame first').mp (latest_eq_some timestamp first' found').1
      have le := latest_sortFrame_frame timestamp t first' first found' there stamp
        (same ▸ stamp)
      have le' := ties first' there' (by rw [← same, stamp]; simp) first (by
        rw [← same, stamp]
        exact find)
      rw [inj_on_of_nodup_map nodup there' there (Int.le_antisymm le le')]

theorem tiesInOrder_of_latest
    (same : ∀ timestamp first first', latest timestamp records = some first →
      latest timestamp (sortFrame records) = some first' → first.frame = first'.frame) :
    TiesInOrder records := by
  intro record there stamped first find
  obtain ⟨t, stamp⟩ := Option.ne_none_iff_exists'.mp stamped
  rw [stamp] at find
  have late : t < t + 1 := Int.lt_succ t
  -- the latest before `t + 1` is at `t`
  cases found : latest (t + 1) records with
  | none => exact absurd late ((latest_eq_none _).mp found record there t stamp)
  | some first₀ =>
    obtain ⟨_, t₀, stamp₀, early₀, greatest₀, find₀⟩ := latest_eq_some _ first₀ found
    have eq : t₀ = t := Int.le_antisymm (Int.lt_add_one_iff.mp early₀)
      (greatest₀ record there t stamp late)
    rw [eq, find] at find₀
    cases find₀
    cases found' : latest (t + 1) (sortFrame records) with
    | none =>
      rw [(latest_sortFrame_none _).mp found'] at found
      cases found
    | some first' =>
      have stamp' := latest_sortFrame_timestamp _ _ _ found found'
      rw [stamp₀, eq] at stamp'
      have le := latest_sortFrame_frame (t + 1) t first' record found' there stamp stamp'.symm
      rw [same _ _ _ found found']
      exact le

end Latest

end Collection

open Collection (findFrame latest sortFrame)

namespace Format

variable {α β : Type} {format : Format α β} {records copy : List (Record β)}

/-- The archive and the codec give back every value of the collection. -/
def Unaltered (format : Format α β) (records : List (Record β)) : Prop :=
  ∀ record ∈ records,
    format.readBack (format.json (format.decodeRecord record)) = format.decodeRecord record

section

variable (keeps : format.Keeps) (labelled : format.Labelled records)

include keeps labelled

theorem copies_restored :
    Collection.Copies records (format.restored records) format.migrate where
  perm := by
    rw [restored_eq]
    exact (perm_sortFrame records).map format.migrate
  frame record there := (label_migrate keeps labelled record there).1
  timestamp record there := (label_migrate keeps labelled record there).2

theorem Whole.copies (whole : format.Whole records copy) : ∃ g, Collection.Copies records copy g ∧
      (format.Unaltered records →
        ∀ record ∈ records, format.decodeRecord (g record) = format.decodeRecord record) := by
  rcases whole with rfl | rfl
  · refine ⟨id, ⟨?_, fun _ _ => rfl, fun _ _ => rfl⟩, fun _ _ _ => rfl⟩
    rw [map_id]
  · exact ⟨format.migrate, copies_restored keeps labelled, fun unaltered => unaltered⟩

theorem latest_restored (timestamp : Int) : latest timestamp (format.restored records) =
      (latest timestamp (sortFrame records)).map format.migrate := by
  have stamp : ∀ record ∈ sortFrame records,
      (format.migrate record).timestamp = record.timestamp := fun record there =>
    (label_migrate keeps labelled record (Collection.mem_sortFrame record |>.mp there)).2
  have same : (sortFrame records).filter
        ((fun r : Record β => r.timestamp.any fun t => t < timestamp) ∘ format.migrate) =
      (sortFrame records).filter fun r => r.timestamp.any fun t => t < timestamp := by
    refine filter_congr fun record there => ?_
    simp only [Function.comp, stamp record there]
  rw [latest, restored_eq, filter_map, same,
    ← map_insertionSort (fun r r' : Record β => r'.timestamp.getD 0 ≤ r.timestamp.getD 0),
    List.head?_map, latest]
  intro a there b there'
  rw [stamp a (mem_of_mem_filter there), stamp b (mem_of_mem_filter there')]

end

end Format

namespace Answer

def size : Answer T S τ → Nat
  | .tick value => value.toList.length
  | .ticks values => values.length
  | .ticksRaw values => values.length
  | .startPoint value => value.toList.length
  | .startPoints values => values.length

def decoded (f : Formats T S τ σ) : Answer T S τ → Answer T S τ
  | .ticksRaw values => .ticks (values.map f.tick.decode)
  | answer => answer

end Answer

namespace ActiveStore

variable {f : Formats T S τ σ} {c s : ActiveStore τ σ}

theorem getTick_eq (s : ActiveStore τ σ) (frame : Int) (ignorable : Bool) :
    s.getTick f frame ignorable = (if ignorable then
        (findFrame s.excludedIgnorable frame).or (findFrame s.original frame)
      else findFrame s.original frame).map f.tick.decodeRecord := by
  cases ignorable with
  | false =>
    simp only [getTick, ticks, Bool.false_eq_true, if_false]
    cases findFrame s.original frame with
    | none | some record => rfl
  | true =>
    simp only [getTick, ticks, if_true]
    cases findFrame s.excludedIgnorable frame with
    | none | some record => rfl

theorem getTicksRecords_eq (s : ActiveStore τ σ) (query : TicksQuery) : s.getTicksRecords query =
      if query.ignorable = true ∧ getTicksInner query s.excludedIgnorable ≠ [] then
        getTicksInner query s.excludedIgnorable
      else getTicksInner query s.original := by
  unfold getTicksRecords
  cases ignorable : query.ignorable with
  | false =>
    rw [if_neg (by simp)]
    simp only [ticks, Bool.false_eq_true, if_false]
    split
    · next none => exact none.symm
    · rfl
  | true =>
    simp only [ticks, if_true]
    split
    · next none => simp [none]
    · next records some =>
      rw [if_pos ⟨trivial, fun none => some none⟩]

theorem getTicksRecords_copy {γ : Type} (view : List (Record τ) → γ) (query : TicksQuery)
    (original : view (getTicksInner query s.original) = view (getTicksInner query c.original))
    (excluded : view (getTicksInner query s.excludedIgnorable) =
      view (getTicksInner query c.excludedIgnorable))
    (none : getTicksInner query s.excludedIgnorable = [] ↔
      getTicksInner query c.excludedIgnorable = []) :
    view (s.getTicksRecords query) = view (c.getTicksRecords query) := by
  rw [getTicksRecords_eq, getTicksRecords_eq]
  simp only [ne_eq, none]
  split
  · exact excluded
  · exact original

theorem mem_of_applyLimit {β : Type} {records : List (Record β)} {limit : Nat}
    {p : Record β → Bool} {record : Record β}
    (there : record ∈ Collection.applyLimit limit (sortFrame (records.filter p))) :
    record ∈ records := by
  unfold Collection.applyLimit at there
  have sorted : record ∈ sortFrame (records.filter p) := by
    split at there
    · exact there
    · exact mem_of_mem_take there
  exact mem_of_mem_filter (Collection.mem_sortFrame record |>.mp sorted)

theorem getStartPoints_copy {β : Type} {records copy : List (Record β)} {g : Record β → Record β}
    (copies : Collection.Copies records copy g) (nodup : (records.map Record.frame).Nodup)
    (limit : Nat) : Collection.applyLimit limit (sortFrame copy) =
      (Collection.applyLimit limit (sortFrame records)).map g := by
  have all : ∀ l : List (Record β), (l.filter fun _ => true) = l := fun l =>
    filter_eq_self.mpr fun _ _ => rfl
  have same := copies.applyLimit_eq nodup limit fun _ => true
  rw [all, all] at same
  exact same

theorem size_read (keeps : f.Keeps) (labelled : c.Labelled f) (whole : c.Whole f s)
    (query : Query) : (s.read f query : Answer T S τ).size = (c.read f query).size := by
  obtain ⟨g, original, _⟩ := Format.Whole.copies keeps.1 labelled.1 (whole .original)
  obtain ⟨h, excluded, _⟩ := Format.Whole.copies keeps.1 labelled.2.1 (whole .excludedIgnorable)
  obtain ⟨k, points, _⟩ := Format.Whole.copies keeps.2 labelled.2.2 (whole .startPoints)
  have records : ∀ query, (s.getTicksRecords query).length = (c.getTicksRecords query).length := by
    intro query
    apply getTicksRecords_copy length query
    · rw [original.getTicksInner_eq labelled.1.2, length_map]
    · rw [excluded.getTicksInner_eq labelled.2.1.2, length_map]
    · rw [excluded.getTicksInner_eq labelled.2.1.2, map_eq_nil_iff]
  cases query with
  | getTick frame ignorable =>
    show (s.getTick f frame ignorable).toList.length = (c.getTick f frame ignorable).toList.length
    rw [getTick_eq, getTick_eq, original.findFrame_eq labelled.1.2,
      excluded.findFrame_eq labelled.2.1.2]
    cases ignorable with
    | false => cases findFrame c.original frame <;> rfl
    | true =>
      cases findFrame c.excludedIgnorable frame with
      | none => cases findFrame c.original frame <;> rfl
      | some record => rfl
  | getTicks query =>
    show ((s.getTicksRaw query).map f.tick.decode).length =
      ((c.getTicksRaw query).map f.tick.decode).length
    rw [length_map, length_map, getTicksRaw, getTicksRaw, length_map,
      length_map, records]
  | getTicksRaw query =>
    show (s.getTicksRaw query).length = (c.getTicksRaw query).length
    rw [getTicksRaw, getTicksRaw, length_map, length_map, records]
  | getStartPoint frame =>
    show (s.getStartPoint f frame).toList.length = (c.getStartPoint f frame).toList.length
    rw [getStartPoint, getStartPoint, points.findFrame_eq labelled.2.2.2]
    cases findFrame c.startPoints frame <;> rfl
  | getStartPoints limit =>
    show (s.getStartPoints f limit).length = (c.getStartPoints f limit).length
    rw [getStartPoints, getStartPoints, getStartPoints_copy points labelled.2.2.2,
      length_map, length_map, length_map]
  | getClosestStartPoint frame =>
    show (s.getClosestStartPoint f frame).toList.length =
      (c.getClosestStartPoint f frame).toList.length
    simp only [getClosestStartPoint]
    rw [points.closest_eq labelled.2.2.2]
    cases ((c.startPoints.filter fun record => record.frame ≤ frame).insertionSort
      fun r r' => r'.frame ≤ r.frame).head? <;> rfl
  | getClosestStartPointByTimestamp timestamp =>
    show ((latest timestamp s.startPoints).map f.startPoint.decodeRecord).toList.length
      = ((latest timestamp c.startPoints).map f.startPoint.decodeRecord).toList.length
    have same := points.latest_isSome timestamp
    cases found : latest timestamp c.startPoints with
    | none =>
      rw [found, Option.isSome_none, Option.isSome_eq_false_iff,
        Option.isNone_iff_eq_none] at same
      rw [same]
    | some first =>
      rw [found, Option.isSome_some, Option.isSome_iff_exists] at same
      obtain ⟨first', found'⟩ := same
      rw [found']
      rfl

/-- The archive gives back what is in the collections, and finds the same start points
by timestamp. -/
structure Recoverable (f : Formats T S τ σ) (c : ActiveStore τ σ) : Prop where
  original : f.tick.Unaltered c.original
  excludedIgnorable : f.tick.Unaltered c.excludedIgnorable
  startPoints : f.startPoint.Unaltered c.startPoints
  ties : Collection.TiesInOrder c.startPoints

/-- Whole collections show the same values, if the archive gives these back. -/
theorem decoded_read (keeps : f.Keeps) (labelled : c.Labelled f) (recoverable : c.Recoverable f)
    (whole : c.Whole f s) (query : Query) :
    (s.read f query : Answer T S τ).decoded f = (c.read f query).decoded f := by
  obtain ⟨g, original, sameOriginal⟩ := Format.Whole.copies keeps.1 labelled.1 (whole .original)
  obtain ⟨h, excluded, sameExcluded⟩ :=
    Format.Whole.copies keeps.1 labelled.2.1 (whole .excludedIgnorable)
  obtain ⟨k, points, samePoints⟩ := Format.Whole.copies keeps.2 labelled.2.2 (whole .startPoints)
  have keptOriginal := sameOriginal recoverable.original
  have keptExcluded := sameExcluded recoverable.excludedIgnorable
  have keptPoints := samePoints recoverable.startPoints
  have records : ∀ query, (s.getTicksRecords query).map f.tick.decodeRecord =
      (c.getTicksRecords query).map f.tick.decodeRecord := by
    intro query
    apply getTicksRecords_copy (fun l => l.map f.tick.decodeRecord) query
    · rw [original.getTicksInner_eq labelled.1.2, map_map]
      exact map_congr_left fun record there => keptOriginal record (mem_of_applyLimit there)
    · rw [excluded.getTicksInner_eq labelled.2.1.2, map_map]
      exact map_congr_left fun record there => keptExcluded record (mem_of_applyLimit there)
    · rw [excluded.getTicksInner_eq labelled.2.1.2, map_eq_nil_iff]
  have raw : ∀ query, s.getTicks f query = c.getTicks f query := by
    intro query
    simp only [getTicks, getTicksRaw, map_map]
    exact records query
  cases query with
  | getTick frame ignorable =>
    refine congrArg Answer.tick ?_
    rw [getTick_eq, getTick_eq, original.findFrame_eq labelled.1.2,
      excluded.findFrame_eq labelled.2.1.2]
    cases here : findFrame c.original frame with
    | none =>
      cases there : findFrame c.excludedIgnorable frame with
      | none => cases ignorable <;> rfl
      | some record =>
        have same := keptExcluded record (List.mem_of_find?_eq_some there)
        cases ignorable with
        | false => rfl
        | true => exact congrArg some same
    | some record' =>
      have same' := keptOriginal record' (List.mem_of_find?_eq_some here)
      cases there : findFrame c.excludedIgnorable frame with
      | none => cases ignorable <;> exact congrArg some same'
      | some record =>
        have same := keptExcluded record (List.mem_of_find?_eq_some there)
        cases ignorable with
        | false => exact congrArg some same'
        | true => exact congrArg some same
  | getTicks query | getTicksRaw query => exact congrArg Answer.ticks (raw query)
  | getStartPoint frame =>
    refine congrArg Answer.startPoint ?_
    rw [getStartPoint, getStartPoint, points.findFrame_eq labelled.2.2.2]
    cases here : findFrame c.startPoints frame with
    | none => rfl
    | some record => exact congrArg some (keptPoints record (List.mem_of_find?_eq_some here))
  | getStartPoints limit =>
    refine congrArg Answer.startPoints ?_
    rw [getStartPoints, getStartPoints, getStartPoints_copy points labelled.2.2.2, map_map]
    refine map_congr_left fun record there => keptPoints record ?_
    have all : (c.startPoints.filter fun _ => true) = c.startPoints :=
      filter_eq_self.mpr fun _ _ => rfl
    rw [← all] at there
    exact mem_of_applyLimit there
  | getClosestStartPoint frame =>
    refine congrArg Answer.startPoint ?_
    simp only [getClosestStartPoint]
    rw [points.closest_eq labelled.2.2.2]
    cases first : ((c.startPoints.filter fun record => record.frame ≤ frame).insertionSort
      fun r r' => r'.frame ≤ r.frame).head? with
    | none => rfl
    | some record =>
      have there := (mem_insertionSort _).mp (mem_of_head? first)
      exact congrArg some (keptPoints record (mem_of_mem_filter there))
  | getClosestStartPointByTimestamp timestamp =>
    refine congrArg Answer.startPoint ?_
    show (latest timestamp s.startPoints).map f.startPoint.decodeRecord =
      (latest timestamp c.startPoints).map f.startPoint.decodeRecord
    rcases whole .startPoints with same | restored
    · rw [same]
    · rw [restored, Format.latest_restored keeps.2 labelled.2.2,
        Collection.latest_sortFrame labelled.2.2.2 recoverable.ties]
      cases found : latest timestamp c.startPoints with
      | none => rfl
      | some first =>
        have there := (Collection.latest_eq_some timestamp first found).1
        exact congrArg some (recoverable.startPoints first there)

theorem unaltered_of_findFrame {α β : Type} {format : Format α β} {records : List (Record β)}
    (keeps : format.Keeps) (labelled : format.Labelled records)
    (same : ∀ record ∈ records, findFrame records record.frame = some record →
      (findFrame (format.restored records) record.frame).map format.decodeRecord =
        some (format.decodeRecord record)) : format.Unaltered records := by
  intro record there
  have found : findFrame records record.frame = some record := by
    cases found : findFrame records record.frame with
    | none =>
      rw [findFrame_eq_none] at found
      exact absurd (mem_map_of_mem there) found
    | some record' =>
      have frame := List.find?_some found
      rw [decide_eq_true_eq] at frame
      have eq := inj_on_of_nodup_map labelled.2 (List.mem_of_find?_eq_some found) there frame
      rw [eq]
  have restored := same record there found
  rw [(Format.copies_restored keeps labelled).findFrame_eq labelled.2, found] at restored
  exact Option.some.inj restored

/-- If a restore changes no read, the archive gives back what is in the collections. -/
theorem recoverable_of_reads (keeps : f.Keeps) (labelled : c.Labelled f)
    (same : ∀ query, ((c.restored f).read f query : Answer T S τ).decoded f =
      (c.read f query).decoded f) : c.Recoverable f where
  original := by
    refine unaltered_of_findFrame keeps.1 labelled.1 fun record there found => ?_
    have answer : Answer.tick ((c.restored f).getTick f record.frame false) =
      (Answer.tick (c.getTick f record.frame false) : Answer T S τ) :=
        same (.getTick record.frame false)
    have ticks := Answer.tick.inj answer
    rw [getTick_eq, getTick_eq, if_neg Bool.false_ne_true, if_neg Bool.false_ne_true,
      found] at ticks
    exact ticks
  excludedIgnorable := by
    refine unaltered_of_findFrame keeps.1 labelled.2.1 fun record there found => ?_
    have answer : Answer.tick ((c.restored f).getTick f record.frame true) =
      (Answer.tick (c.getTick f record.frame true) : Answer T S τ) :=
        same (.getTick record.frame true)
    have ticks := Answer.tick.inj answer
    have found' := (Format.copies_restored keeps.1 labelled.2.1).findFrame_eq labelled.2.1.2
      record.frame
    rw [found] at found'
    rw [getTick_eq, getTick_eq, if_pos rfl, if_pos rfl, found] at ticks
    rw [show (c.restored f).excludedIgnorable = f.tick.restored c.excludedIgnorable from rfl,
      found'] at ticks
    rw [found']
    exact ticks
  startPoints := by
    refine unaltered_of_findFrame keeps.2 labelled.2.2 fun record there found => ?_
    have answer : Answer.startPoint ((c.restored f).getStartPoint f record.frame) =
      (Answer.startPoint (c.getStartPoint f record.frame) : Answer T S τ) :=
        same (.getStartPoint record.frame)
    have points := Answer.startPoint.inj answer
    rw [getStartPoint, getStartPoint, found] at points
    exact points
  ties := by
    refine Collection.tiesInOrder_of_latest fun timestamp first first' found found' => ?_
    have answer : Answer.startPoint ((c.restored f).getClosestStartPointByTimestamp f timestamp) =
      (Answer.startPoint (c.getClosestStartPointByTimestamp f timestamp) : Answer T S τ) :=
        same (.getClosestStartPointByTimestamp timestamp)
    have points : (latest timestamp (f.startPoint.restored c.startPoints)).map
        f.startPoint.decodeRecord =
      (latest timestamp c.startPoints).map f.startPoint.decodeRecord :=
        Answer.startPoint.inj answer
    rw [Format.latest_restored keeps.2 labelled.2.2, found, found'] at points
    have value : f.startPoint.decodeRecord (f.startPoint.migrate first') =
        f.startPoint.decodeRecord first := Option.some.inj points
    have there := (Collection.latest_eq_some timestamp first found).1
    have there' := (Collection.mem_sortFrame first').mp
      (Collection.latest_eq_some timestamp first' found').1
    have copied : f.startPoint.migrate first' ∈ f.startPoint.restored c.startPoints := by
      rw [Format.restored_eq]
      exact mem_map_of_mem ((Collection.mem_sortFrame first').mpr there')
    calc first.frame = f.startPoint.frame (f.startPoint.decodeRecord first) :=
          (labelled.2.2.1 first there).1.symm
      _ = f.startPoint.frame (f.startPoint.decodeRecord (f.startPoint.migrate first')) := by
          rw [value]
      _ = (f.startPoint.migrate first').frame :=
          ((Format.labelled_restored keeps.2 labelled.2.2).1 _ copied).1
      _ = first'.frame := (Format.label_migrate keeps.2 labelled.2.2 first' there').1

end ActiveStore

end AkashicSystem.Playlog
