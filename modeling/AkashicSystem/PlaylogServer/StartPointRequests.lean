import AkashicSystem.Playlog.RestoredReads

/-!
# Requests for a start point

`getStartPoint` of `RequestHandler`, over the start points that are stored of a
play.  A frame is to go before a timestamp; frame 0 is taken for no frame.
-/

set_option autoImplicit false

namespace AkashicSystem.PlaylogServer

open AkashicSystem.Playlog

variable {T S τ σ : Type}

structure GetStartPointOption where
  frame : Option Int
  timestamp : Option Int

namespace RequestHandler

variable (f : Formats T S τ σ) (s : ActiveStore τ σ)

/-- `getStartPoint` past its first branch. -/
def getStartPointWithoutFrame (timestamp : Option Int) : Option S :=
  match timestamp.bind (s.getClosestStartPointByTimestamp f) with
  | some startPoint => some startPoint
  | none => s.getStartPoint f 0

def getStartPoint (option : Option GetStartPointOption) : Option S :=
  let frame := option.bind GetStartPointOption.frame
  let timestamp := option.bind GetStartPointOption.timestamp
  match frame with
  | some frame =>
    if frame ≠ 0 then s.getClosestStartPoint f frame
    else getStartPointWithoutFrame f s timestamp
  | none => getStartPointWithoutFrame f s timestamp

end RequestHandler

namespace StartPoints

variable (records : List (Record σ))

/-- The record has the greatest frame that is not above the given one. -/
structure IsClosest (frame : Int) (record : Record σ) : Prop where
  stored : record ∈ records
  not_above : record.frame ≤ frame
  greatest : ∀ other ∈ records, other.frame ≤ frame → other.frame ≤ record.frame

def Below (timestamp : Int) (record : Record σ) : Prop :=
  ∃ t, record.timestamp = some t ∧ t < timestamp

/-- The record has the greatest timestamp that is below the given one. -/
structure IsLatest (timestamp : Int) (record : Record σ) : Prop where
  stored : record ∈ records
  below : Below timestamp record
  greatest : ∀ other ∈ records, Below timestamp other →
    ∀ t, record.timestamp = some t → ∀ t', other.timestamp = some t' → t' ≤ t

variable (f : Formats T S τ σ)

def AnswersFrame (frame : Int) (answer : Option S) : Prop :=
  (∃ record, IsClosest records frame record ∧
      answer = some (f.startPoint.decodeRecord record)) ∨
    (answer = none ∧ ∀ record ∈ records, frame < record.frame)

def AnswersFirst (answer : Option S) : Prop :=
  (∃ record ∈ records, record.frame = 0 ∧ answer = some (f.startPoint.decodeRecord record)) ∨
    (answer = none ∧ ∀ record ∈ records, record.frame ≠ 0)

def AnswersTimestamp (timestamp : Int) (answer : Option S) : Prop :=
  (∃ record, IsLatest records timestamp record ∧
      answer = some (f.startPoint.decodeRecord record)) ∨
    ((∀ record ∈ records, ¬ Below timestamp record) ∧ AnswersFirst records f answer)

/-- A frame goes before a timestamp. -/
def Answers (option : GetStartPointOption) (answer : Option S) : Prop :=
  match option with
  | ⟨some frame, _⟩ => AnswersFrame records f frame answer
  | ⟨none, some timestamp⟩ => AnswersTimestamp records f timestamp answer
  | ⟨none, none⟩ => True

/-- The first of the records with the greatest timestamp. -/
def IsFirstLatest (timestamp : Int) (record : Record σ) : Prop :=
  IsLatest records timestamp record ∧
    records.find? (fun other => other.timestamp = record.timestamp) = some record

/-- Where frame 0 is asked for, a start point that the timestamp finds reads as the one that is
asked for, and where it finds none, frame 0 is stored or every frame is above it. -/
def ZeroAgrees (option : GetStartPointOption) : Prop :=
  option.frame = some 0 →
    (∀ timestamp, option.timestamp = some timestamp → ∀ record,
      IsFirstLatest records timestamp record → ∃ closest, IsClosest records 0 closest ∧
        f.startPoint.decodeRecord closest = f.startPoint.decodeRecord record) ∧
    ((∀ timestamp, option.timestamp = some timestamp →
        ∀ record ∈ records, ¬ Below timestamp record) →
      (∀ record ∈ records, record.frame ≠ 0) → ∀ record ∈ records, 0 < record.frame)

variable {records f}

theorem latest_eq_some_iff (timestamp : Int) (record : Record σ) :
    Collection.latest timestamp records = some record ↔ IsFirstLatest records timestamp record := by
  have found : ∀ first, Collection.latest timestamp records = some first →
      IsFirstLatest records timestamp first := by
    intro first found
    obtain ⟨stored, t, stamp, early, greatest, find⟩ :=
      Collection.latest_eq_some timestamp first found
    refine ⟨⟨stored, ⟨t, stamp, early⟩, ?_⟩, ?_⟩
    · intro other there below u stamp' t' other'
      obtain ⟨t'', same, early'⟩ := below
      rw [other'] at same
      cases same
      rw [stamp] at stamp'
      cases stamp'
      exact greatest other there t' other' early'
    · rw [stamp]
      exact find
  refine ⟨found record, fun ⟨isLatest, find⟩ => ?_⟩
  cases first : Collection.latest timestamp records with
  | none =>
    obtain ⟨t, stamp, early⟩ := isLatest.below
    have late := (Collection.latest_eq_none timestamp).mp first record isLatest.stored t stamp
    exact absurd early late
  | some other =>
    obtain ⟨isLatest', find'⟩ := found other first
    obtain ⟨t, stamp, early⟩ := isLatest.below
    obtain ⟨t', stamp', early'⟩ := isLatest'.below
    have le := isLatest.greatest other isLatest'.stored isLatest'.below t stamp t' stamp'
    have le' := isLatest'.greatest record isLatest.stored isLatest.below t' stamp' t stamp
    have same : other.timestamp = record.timestamp := by
      rw [stamp, stamp', Int.le_antisymm le le']
    rw [same, find] at find'
    exact find'.symm

theorem latest_eq_none_iff (timestamp : Int) : Collection.latest timestamp records = none ↔
      ∀ record ∈ records, ¬ Below timestamp record := by
  rw [Collection.latest_eq_none]
  refine forall₂_congr fun record _ => ?_
  unfold Below
  push Not
  rfl

variable (s : ActiveStore τ σ)

theorem answersFrame_getClosestStartPoint (frame : Int) :
    AnswersFrame s.startPoints f frame (s.getClosestStartPoint f frame) := by
  unfold ActiveStore.getClosestStartPoint
  generalize within : s.startPoints.filter (fun record => record.frame ≤ frame) = records
  have inside : ∀ record, record ∈ records ↔
      record ∈ s.startPoints ∧ record.frame ≤ frame := by
    intro record
    rw [← within, List.mem_filter, decide_eq_true_eq]
  cases records with
  | nil =>
    refine .inr ⟨rfl, fun record stored => ?_⟩
    by_contra above
    exact List.not_mem_nil ((inside record).mpr ⟨stored, by omega⟩)
  | cons some rest =>
    obtain ⟨first, head, mem, -⟩ := Sorted.head_insertionSort
      (r := fun r r' : Record σ => r'.frame ≤ r.frame)
      (fun r r' => Int.le_total r'.frame r.frame)
      (fun _ _ _ le le' => Int.le_trans le' le) (some :: rest) some List.mem_cons_self
    obtain ⟨stored, not_above⟩ := (inside first).mp mem
    refine .inl ⟨first, ⟨stored, not_above, fun other there le => ?_⟩, ?_⟩
    · obtain ⟨first', head', _, order⟩ := Sorted.head_insertionSort
        (r := fun r r' : Record σ => r'.frame ≤ r.frame)
        (fun r r' => Int.le_total r'.frame r.frame)
        (fun _ _ _ le le' => Int.le_trans le' le) (some :: rest) other
        ((inside other).mpr ⟨there, le⟩)
      obtain rfl : first' = first := Option.some.inj (head'.symm.trans head)
      rcases order with rfl | le'
      · exact le_refl _
      · exact le'
    · simp only [head, Option.map_some]

theorem answersFirst_getStartPoint :
    AnswersFirst s.startPoints f (s.getStartPoint f 0) := by
  unfold ActiveStore.getStartPoint
  cases found : Collection.findFrame s.startPoints 0 with
  | none =>
    refine .inr ⟨rfl, fun record stored zero => ?_⟩
    exact List.find?_eq_none.mp found record stored (decide_eq_true zero)
  | some record =>
    refine .inl ⟨record, List.mem_of_find?_eq_some found, ?_, rfl⟩
    have zero := List.find?_some found
    exact of_decide_eq_true zero

def found (records : List (Record σ)) (timestamp : Option Int) : Option (Record σ) :=
  timestamp.bind fun timestamp => Collection.latest timestamp records

variable (timestamp : Option Int)

theorem getStartPointWithoutFrame_eq :
    RequestHandler.getStartPointWithoutFrame f s timestamp =
      match found s.startPoints timestamp with
      | some record => some (f.startPoint.decodeRecord record)
      | none => s.getStartPoint f 0 := by
  have find : timestamp.bind (s.getClosestStartPointByTimestamp f) =
      (found s.startPoints timestamp).map f.startPoint.decodeRecord := by
    cases timestamp with
    | none | some timestamp => rfl
  unfold RequestHandler.getStartPointWithoutFrame
  rw [find]
  cases found s.startPoints timestamp with
  | none | some record => rfl

theorem found_eq_some_iff (record : Record σ) :
    found records timestamp = some record ↔
      ∃ t, timestamp = some t ∧ IsFirstLatest records t record := by
  cases timestamp with
  | none => simp [found]
  | some timestamp => simp [found, latest_eq_some_iff]

theorem found_eq_none_iff : found records timestamp = none ↔
      ∀ t, timestamp = some t → ∀ record ∈ records, ¬ Below t record := by
  cases timestamp with
  | none => simp [found]
  | some timestamp => simp [found, latest_eq_none_iff]

theorem answersTimestamp_getStartPoint (timestamp : Int) :
    AnswersTimestamp s.startPoints f timestamp
      (RequestHandler.getStartPointWithoutFrame f s (some timestamp)) := by
  rw [getStartPointWithoutFrame_eq]
  cases find : found s.startPoints (some timestamp) with
  | none =>
    exact .inr ⟨(found_eq_none_iff (some timestamp)).mp find timestamp rfl,
      answersFirst_getStartPoint s⟩
  | some record =>
    obtain ⟨t, given, isLatest, -⟩ := (found_eq_some_iff (some timestamp) record).mp find
    cases given
    exact .inl ⟨record, isLatest, rfl⟩

theorem answersFrame_zero_iff :
    AnswersFrame s.startPoints f 0 (RequestHandler.getStartPointWithoutFrame f s timestamp) ↔
      ZeroAgrees s.startPoints f ⟨some 0, timestamp⟩ := by
  rw [getStartPointWithoutFrame_eq]
  cases find : found s.startPoints timestamp with
  | none =>
    have nothing := (found_eq_none_iff timestamp).mp find
    constructor
    · intro answers _
      refine ⟨fun t given record isFirst => ?_, fun _ zeroless => ?_⟩
      · exact absurd isFirst.1.below (nothing t given record isFirst.1.stored)
      · rcases answers with ⟨closest, isClosest, read⟩ | ⟨-, above⟩
        · rcases answersFirst_getStartPoint (f := f) s with ⟨first, stored, zero, -⟩ | ⟨empty, -⟩
          · exact absurd zero (zeroless first stored)
          · rw [empty] at read
            cases read
        · exact above
    · intro agrees
      rcases answersFirst_getStartPoint (f := f) s with ⟨first, stored, zero, read⟩ | ⟨empty, none⟩
      · refine .inl ⟨first, ⟨stored, le_of_eq zero, fun other _ le => ?_⟩, read⟩
        rw [zero]
        exact le
      · exact .inr ⟨empty, (agrees rfl).2 nothing none⟩
  | some record =>
    obtain ⟨t, given, isFirst⟩ := (found_eq_some_iff timestamp record).mp find
    constructor
    · intro answers _
      refine ⟨fun t' given' record' isFirst' => ?_, fun nothing => ?_⟩
      · have find' := (found_eq_some_iff timestamp record').mpr ⟨t', given', isFirst'⟩
        obtain rfl : record = record' := Option.some.inj (find.symm.trans find')
        rcases answers with ⟨closest, isClosest, read⟩ | ⟨empty, -⟩
        · exact ⟨closest, isClosest, (Option.some.inj read).symm⟩
        · cases empty
      · exact absurd isFirst.1.below (nothing t given record isFirst.1.stored)
    · intro agrees
      obtain ⟨closest, isClosest, same⟩ := (agrees rfl).1 t given record isFirst
      exact .inl ⟨closest, isClosest, congrArg some same.symm⟩

def stampedFormats : Formats Unit (Int × Option Int) Unit (Int × Option Int) :=
  ⟨⟨id, id, id, fun _ => 0, fun _ => none⟩, ⟨id, id, id, Prod.fst, Prod.snd⟩⟩

def twoStartPoints : ActiveStore Unit (Int × Option Int) :=
  ⟨[], [], [(0, some 1000), (60, some 2000)].map stampedFormats.startPoint.toRecord⟩

end StartPoints
end AkashicSystem.PlaylogServer
