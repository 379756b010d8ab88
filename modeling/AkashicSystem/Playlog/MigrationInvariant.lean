import AkashicSystem.Playlog.Migration
import AkashicSystem.Playlog.StableRecords

/-!
# What a migration keeps

While the metadata say that a play is read from the active store, the store has
the records that it had at first, or those of a restore.  A job in the lock knows
how far the copy is; a read that has passed the metadata relies on the store to
stay as it is.
-/

set_option autoImplicit false

namespace AkashicSystem.Playlog

open List

namespace Format

open Collection

variable {α β : Type} (format : Format α β)

/-- The codec and the JSON of the archive keep the frame and the timestamp of a value. -/
def Keeps : Prop :=
  (∀ value, format.frame (format.readBack value) = format.frame value ∧
    format.timestamp (format.readBack value) = format.timestamp value) ∧
  ∀ value, format.frame (format.json value) = format.frame value ∧
    format.timestamp (format.json value) = format.timestamp value

variable (records : List (Record β))

/-- The records have the frames and timestamps of their values, each frame once. -/
def Labelled : Prop :=
  (∀ record ∈ records, format.frame (format.decodeRecord record) = record.frame ∧
    format.timestamp (format.decodeRecord record) = record.timestamp) ∧
  (records.map Record.frame).Nodup

def archived : List α :=
  ((sortFrame records).map format.decodeRecord).map format.json

def restored : List (Record β) :=
  (format.archived records).map format.toRecord

variable {format}

theorem labelled_nil : format.Labelled [] :=
  ⟨fun _ there => (not_mem_nil there).elim, nodup_nil⟩

theorem perm_sortFrame (records : List (Record β)) :
    (sortFrame records).Perm records := perm_insertionSort _ records

theorem pairwise_sortFrame (records : List (Record β)) :
    (sortFrame records).Pairwise fun r r' => r.frame ≤ r'.frame :=
  Sorted.pairwise_insertionSort (r := fun r r' : Record β => r.frame ≤ r'.frame)
    (fun r r' => Int.le_total r.frame r'.frame) (fun _ _ _ => Int.le_trans) records

def migrate (format : Format α β) (record : Record β) : Record β :=
  format.toRecord (format.json (format.decodeRecord record))

theorem restored_eq (records : List (Record β)) :
    format.restored records = (sortFrame records).map format.migrate := by
  rw [restored, archived, map_map, map_map]
  rfl

variable {records : List (Record β)}

section

variable (keeps : format.Keeps)
include keeps

section

variable (labelled : format.Labelled records)

include labelled

theorem label_migrate (record : Record β) (there : record ∈ records) :
    (format.migrate record).frame = record.frame ∧
      (format.migrate record).timestamp = record.timestamp := by
  obtain ⟨frame, timestamp⟩ := labelled.1 record there
  obtain ⟨frame', timestamp'⟩ := keeps.2 (format.decodeRecord record)
  exact ⟨frame'.trans frame, timestamp'.trans timestamp⟩

theorem frames_restored :
    (format.restored records).map Record.frame =
      (sortFrame records).map Record.frame := by
  rw [restored_eq, map_map]
  refine map_congr_left fun record there => ?_
  exact (label_migrate keeps labelled record ((perm_sortFrame records).mem_iff.mp there)).1

theorem nodup_restored :
    ((format.restored records).map Record.frame).Nodup := by
  rw [frames_restored keeps labelled]
  exact ((perm_sortFrame records).map Record.frame).nodup_iff.mpr labelled.2

theorem labelled_restored :
    format.Labelled (format.restored records) := by
  refine ⟨fun record there => ?_, nodup_restored keeps labelled⟩
  obtain ⟨value, _, rfl⟩ := mem_map.mp there
  exact keeps.1 value

end

end

theorem restored_eq_nil (records : List (Record β)) :
    format.restored records = [] ↔ records = [] := by
  rw [restored_eq, map_eq_nil_iff]
  constructor
  · intro empty
    have perm := perm_sortFrame records
    rw [empty] at perm
    exact nil_perm.mp perm
  · rintro rfl
    rfl

/-- The collection is there, or is as a restore leaves it. -/
def Whole (format : Format α β) (records copy : List (Record β)) : Prop :=
  copy = records ∨ copy = format.restored records

theorem Whole.mem_frames (keeps : format.Keeps) {copy : List (Record β)}
    (labelled : format.Labelled records) (whole : format.Whole records copy) (frame : Int) :
    frame ∈ copy.map Record.frame ↔ frame ∈ records.map Record.frame := by
  rcases whole with rfl | rfl
  · rfl
  · rw [frames_restored keeps labelled]
    exact ((perm_sortFrame records).map Record.frame).mem_iff

theorem Whole.eq_nil (whole : format.Whole records []) : records = [] := by
  rcases whole with nothing | nothing
  · exact nothing.symm
  · exact (restored_eq_nil records).mp nothing.symm

theorem insertMany_archived (keeps : format.Keeps) (labelled : format.Labelled records) :
    insertMany [] ((format.archived records).map format.toRecord) =
      (format.restored records, decide (records ≠ [])) := by
  have same : (format.archived records).map format.toRecord = format.restored records := rfl
  rw [same]
  by_cases empty : records = []
  · have nothing : format.restored records = [] := (restored_eq_nil records).mpr empty
    rw [insertMany, if_pos nothing, nothing]
    simp [empty]
  · have some : format.restored records ≠ [] := fun none =>
      empty ((restored_eq_nil records).mp none)
    rw [insertMany, if_neg some,
      insertAll_nodup [] _ (by simpa using nodup_restored keeps labelled)]
    simp [empty]

theorem sort_archived (keeps : format.Keeps) (labelled : format.Labelled records) :
    (format.archived records).insertionSort (fun a b => format.frame a ≤ format.frame b) =
      format.archived records := by
  refine List.Pairwise.insertionSort_eq ?_
  rw [archived, map_map, pairwise_map]
  refine (pairwise_sortFrame records).imp_of_mem fun there there' le => ?_
  have frame := (label_migrate keeps labelled _ ((perm_sortFrame records).mem_iff.mp there)).1
  have frame' := (label_migrate keeps labelled _ ((perm_sortFrame records).mem_iff.mp there')).1
  simp only [Function.comp]
  calc format.frame (format.json (format.decodeRecord _)) = _ := frame
    _ ≤ _ := le
    _ = _ := frame'.symm

end Format

variable {T S τ σ : Type}

def Formats.Keeps (f : Formats T S τ σ) : Prop := f.tick.Keeps ∧ f.startPoint.Keeps

namespace ActiveStore

variable (f : Formats T S τ σ) (c : ActiveStore τ σ)

def Labelled : Prop :=
  f.tick.Labelled c.original ∧ f.tick.Labelled c.excludedIgnorable ∧
    f.startPoint.Labelled c.startPoints

/-- What `createArchive` reads. -/
def snapshot : Content T S := ⟨c.getAllTicks f, c.getAllStartPoints f⟩

/-- What it has made of that in the archive, and what a restore reads there. -/
def archived : Content T S :=
  ⟨⟨f.tick.archived c.original, f.tick.archived c.excludedIgnorable⟩,
    f.startPoint.archived c.startPoints⟩

def image : Files T S :=
  ⟨some (f.tick.archived c.original), some (f.tick.archived c.excludedIgnorable),
    some (f.startPoint.archived c.startPoints)⟩

def restored : ActiveStore τ σ :=
  ⟨f.tick.restored c.original, f.tick.restored c.excludedIgnorable,
    f.startPoint.restored c.startPoints⟩

variable {f c}

theorem isEmpty_map_sortFrame {α β : Type} (records : List (Record β)) (g : Record β → α) :
    ((Collection.sortFrame records).map g).isEmpty = records.isEmpty := by
  have perm := Format.perm_sortFrame records
  cases records with
  | nil => rfl
  | cons record rest =>
    cases sorted : Collection.sortFrame (record :: rest) with
    | nil =>
      rw [sorted] at perm
      exact absurd perm.symm (not_perm_cons_nil)
    | cons first others => rfl

theorem isEmpty_snapshot :
    (c.snapshot f).isEmpty = (c.original.isEmpty || c.startPoints.isEmpty) := by
  rw [Content.isEmpty, snapshot, getAllTicks, getAllStartPoints, isEmpty_map_sortFrame,
    isEmpty_map_sortFrame]

theorem isEmpty_archived :
    (c.archived f).isEmpty = (c.original.isEmpty || c.startPoints.isEmpty) := by
  have same : ∀ {α β : Type} (format : Format α β) (records : List (Record β)),
      (format.archived records).isEmpty = records.isEmpty := by
    intro α β format records
    rw [Format.archived, isEmpty_map, isEmpty_map_sortFrame]
  show ((f.tick.archived c.original).isEmpty || (f.startPoint.archived c.startPoints).isEmpty) = _
  rw [same, same]

theorem sort_archived (keeps : f.Keeps) (labelled : c.Labelled f) :
    Ticks.sort f (c.archived f).ticks = (c.archived f).ticks := by
  rw [Ticks.sort, archived, Format.sort_archived keeps.1 labelled.1,
    Format.sort_archived keeps.1 labelled.2.1]

/-! The reads that look again do so on both stores. -/

theorem getTicksInner_eq_nil (query : TicksQuery) (records : List (Record τ)) :
    getTicksInner query records = [] ↔ ∀ record ∈ records, inRange query record.frame = false := by
  have sorted : ∀ l : List (Record τ), Collection.sortFrame l = [] ↔ l = [] := by
    intro l
    constructor
    · intro empty
      have perm := Format.perm_sortFrame l
      rw [empty] at perm
      exact nil_perm.mp perm
    · rintro rfl
      rfl
  unfold getTicksInner Collection.applyLimit
  split
  · rw [sorted, filter_eq_nil_iff]
    simp
  · next limited =>
    rw [take_eq_nil_iff, sorted, filter_eq_nil_iff]
    simp [limited]

theorem findFrame_eq_none {β : Type} (records : List (Record β)) (frame : Int) :
    Collection.findFrame records frame = none ↔ frame ∉ records.map Record.frame := by
  rw [Collection.findFrame, List.find?_eq_none, mem_map]
  constructor
  · rintro absent ⟨record, there, eq⟩
    exact absent record there (decide_eq_true eq)
  · intro absent record there eq
    exact absent ⟨record, there, of_decide_eq_true eq⟩

theorem find_eq_none_iff (s : ActiveStore τ σ) (query : Query) :
    s.find f query = none ↔
      match query with
      | .getTick frame ignorable =>
        ignorable = true ∧ frame ∉ (s.ticks ignorable).map Record.frame
      | .getTicks query | .getTicksRaw query =>
        query.ignorable = true ∧
          ∀ frame ∈ (s.ticks query.ignorable).map Record.frame, inRange query frame = false
      | _ => False := by
  cases query with
  | getTick frame ignorable =>
    dsimp only
    rw [← findFrame_eq_none]
    cases found : Collection.findFrame (s.ticks ignorable) frame with
    | none => cases ignorable <;> simp [find, found]
    | some record => simp [find, found]
  | getTicks query | getTicksRaw query =>
    have inner := getTicksInner_eq_nil query (s.ticks query.ignorable)
    dsimp only
    rw [forall_mem_map, ← inner]
    cases found : getTicksInner query (s.ticks query.ignorable) with
    | nil => cases ignorable : query.ignorable <;> rw [ignorable] at found <;>
        simp [find, found, ignorable]
    | cons record rest => simp [find, found]
  | getStartPoint frame | getStartPoints limit | getClosestStartPoint frame
  | getClosestStartPointByTimestamp timestamp => simp [find]

def WholeAt (f : Formats T S τ σ) (c s : ActiveStore τ σ) : Part → Prop
  | .original => f.tick.Whole c.original s.original
  | .excludedIgnorable => f.tick.Whole c.excludedIgnorable s.excludedIgnorable
  | .startPoints => f.startPoint.Whole c.startPoints s.startPoints

def Whole (f : Formats T S τ σ) (c s : ActiveStore τ σ) : Prop := ∀ part, WholeAt f c s part

theorem wholeAt_self (part : Part) : WholeAt f c c part := by
  cases part with
  | original | excludedIgnorable | startPoints => exact .inl rfl

theorem whole_restored : Whole f c (c.restored f) := by
  intro part
  cases part with
  | original | excludedIgnorable | startPoints => exact .inr rfl

theorem find_whole (keeps : f.Keeps) (labelled : c.Labelled f) {s : ActiveStore τ σ}
    (whole : Whole f c s) (query : Query) : s.find f query = none ↔ c.find f query = none := by
  have frames : ∀ ignorable frame, frame ∈ (s.ticks ignorable).map Record.frame ↔
      frame ∈ (c.ticks ignorable).map Record.frame := by
    intro ignorable frame
    cases ignorable with
    | false => exact Format.Whole.mem_frames keeps.1 labelled.1 (whole .original) frame
    | true => exact Format.Whole.mem_frames keeps.1 labelled.2.1 (whole .excludedIgnorable) frame
  rw [find_eq_none_iff, find_eq_none_iff]
  cases query with
  | getTick frame ignorable | getTicks query | getTicksRaw query => simp only [frames]
  | _ => rfl

end ActiveStore

def Job.holds : Job T S τ → Bool
  | .readChecks _ | .locks _ | .finds _ | .findsAgain _ | .settled .. => false
  | _ => true

def Query.consults : Query → Part → Bool
  | .getTick _ ignorable, part => part = .original || ignorable && part = .excludedIgnorable
  | .getTicks query, part | .getTicksRaw query, part =>
    part = .original || query.ignorable && part = .excludedIgnorable
  | _, part => part = .startPoints

/-- The job is a read that has passed the metadata and may still look there. -/
def Job.needs : Job T S τ → Part → Bool
  | .finds query, part => query.consults part
  | .findsAgain _, part => part = .original
  | _, _ => false

def Job.deletes : Job T S τ → Option Part
  | .pruneDeletes part => some part
  | .restoreDeletes _ part _ => some part
  | _ => none

namespace ActiveStore

variable {f : Formats T S τ σ} {c : ActiveStore τ σ}

/-- A find in whole collections is the find in a whole store. -/
theorem find_consulted (s : ActiveStore τ σ) (query : Query)
    (whole : ∀ part, query.consults part = true → c.WholeAt f s part) :
    ∃ store, c.Whole f store ∧ s.find f query = store.find f query := by
  have ticks : ∀ ignorable : Bool, c.WholeAt f s .original →
      (ignorable = true → c.WholeAt f s .excludedIgnorable) →
        ∃ store, c.Whole f store ∧ s.ticks ignorable = store.ticks ignorable ∧
          s.original = store.original := by
    intro ignorable original excluded
    cases ignorable with
    | false =>
      refine ⟨⟨s.original, c.excludedIgnorable, c.startPoints⟩, fun part => ?_, rfl, rfl⟩
      cases part with
      | original => exact original
      | excludedIgnorable | startPoints => exact .inl rfl
    | true =>
      refine ⟨⟨s.original, s.excludedIgnorable, c.startPoints⟩, fun part => ?_, rfl, rfl⟩
      cases part with
      | original => exact original
      | excludedIgnorable => exact excluded rfl
      | startPoints => exact .inl rfl
  have startPoints : c.WholeAt f s .startPoints →
      ∃ store, c.Whole f store ∧ s.startPoints = store.startPoints := by
    intro startPoints
    refine ⟨⟨c.original, c.excludedIgnorable, s.startPoints⟩, fun part => ?_, rfl⟩
    cases part with
    | original | excludedIgnorable => exact .inl rfl
    | startPoints => exact startPoints
  cases query with
  | getTick frame ignorable =>
    obtain ⟨store, isWhole, same, _⟩ := ticks ignorable (whole .original rfl) fun some =>
      whole .excludedIgnorable (by simp [Query.consults, some])
    exact ⟨store, isWhole, by simp only [find, same]⟩
  | getTicks query | getTicksRaw query =>
    obtain ⟨store, isWhole, same, _⟩ := ticks query.ignorable (whole .original rfl) fun some =>
      whole .excludedIgnorable (by simp [Query.consults, some])
    exact ⟨store, isWhole, by simp only [find, same]⟩
  | getStartPoint frame =>
    obtain ⟨store, isWhole, same⟩ := startPoints (whole .startPoints rfl)
    exact ⟨store, isWhole, by simp only [find, read, getStartPoint, same]⟩
  | getStartPoints limit =>
    obtain ⟨store, isWhole, same⟩ := startPoints (whole .startPoints rfl)
    exact ⟨store, isWhole, by simp only [find, read, getStartPoints, same]⟩
  | getClosestStartPoint frame =>
    obtain ⟨store, isWhole, same⟩ := startPoints (whole .startPoints rfl)
    exact ⟨store, isWhole, by simp only [find, read, getClosestStartPoint, same]⟩
  | getClosestStartPointByTimestamp timestamp =>
    obtain ⟨store, isWhole, same⟩ := startPoints (whole .startPoints rfl)
    exact ⟨store, isWhole, by simp only [find, read, getClosestStartPointByTimestamp, same]⟩

theorem findAgain_consulted (keeps : f.Keeps) (labelled : c.Labelled f) (s : ActiveStore τ σ)
    (query : Query) (original : c.WholeAt f s .original) (again : c.find f query = none) :
    ∃ store, c.Whole f store ∧ s.findAgain f query = store.read f query := by
  have isWhole : c.Whole f ⟨s.original, c.excludedIgnorable, c.startPoints⟩ := by
    intro part
    cases part with
    | original => exact original
    | excludedIgnorable | startPoints => exact .inl rfl
  refine ⟨_, isWhole, ?_⟩
  rw [← findAgain_eq f _ query ((find_whole keeps labelled isWhole query).mpr again)]
  cases query with
  | getTick frame ignorable | getTicks query | getTicksRaw query => rfl
  | _ => cases again

end ActiveStore

namespace PlayStores

variable (f : Formats T S τ σ) (c : ActiveStore τ σ)

/-- What holds of the stores of a play with the given records. -/
structure Glob (s : PlayStores T S τ σ) : Prop where
  unarchived : s.hasArchived = false → s.active = c ∧ s.shouldGetFromArchive = false
  archived : s.hasArchived = true →
    s.files = c.image f ∧ c.original ≠ [] ∧ c.startPoints ≠ []
  readable : s.shouldGetFromArchive = false → s.active = c ∨ s.active = c.restored f
  row : s.shouldGetFromArchive = true → s.hasRow = true

def FilesBefore (files : Files T S) : Part → Prop
  | .original => True
  | .excludedIgnorable => files.original = (c.image f).original
  | .startPoints => files.original = (c.image f).original ∧
      files.excludedIgnorable = (c.image f).excludedIgnorable

def EmptyBefore (active : ActiveStore τ σ) : Part → Prop
  | .original => True
  | .excludedIgnorable => active.original = []
  | .startPoints => active.original = [] ∧ active.excludedIgnorable = []

def restoredBefore : Part → ActiveStore τ σ
  | .original => .empty
  | .excludedIgnorable => ⟨(c.restored f).original, [], []⟩
  | .startPoints => ⟨(c.restored f).original, (c.restored f).excludedIgnorable, []⟩

def At (s : PlayStores T S τ σ) : Job T S τ → Prop
  | .archiveFindsOriginal => s.hasArchived = false
  | .archiveFindsExcluded original =>
    s.hasArchived = false ∧ original = (c.snapshot f).ticks.original
  | .archiveFindsStartPoints ticks => s.hasArchived = false ∧ ticks = (c.snapshot f).ticks
  | .archivePuts part content =>
    s.hasArchived = false ∧ content = c.snapshot f ∧ (c.original ≠ [] ∧ c.startPoints ≠ []) ∧
      FilesBefore f c s.files part
  | .archiveFlags => s.files = c.image f ∧ c.original ≠ [] ∧ c.startPoints ≠ []
  | .pruneFlags => s.hasArchived = true
  | .pruneDeletes _ => s.hasArchived = true ∧ s.shouldGetFromArchive = true
  | .restoreGetsOriginal _ => s.shouldGetFromArchive = true
  | .restoreGetsExcluded _ original =>
    s.shouldGetFromArchive = true ∧ original = (c.archived f).ticks.original
  | .restoreGetsStartPoints _ ticks =>
    s.shouldGetFromArchive = true ∧ ticks = (c.archived f).ticks
  | .restoreDeletes _ part content =>
    s.shouldGetFromArchive = true ∧ content = c.archived f ∧ EmptyBefore s.active part
  | .restoreInserts _ part content =>
    s.shouldGetFromArchive = true ∧ content = c.archived f ∧
      s.active = restoredBefore f c part ∧ (part = .startPoints → c.excludedIgnorable ≠ [])
  | .restoreFlags _ =>
    s.shouldGetFromArchive = true ∧ s.active = c.restored f ∧ c.excludedIgnorable ≠ []
  | .commits (.read _) => s.shouldGetFromArchive = false
  | .finds query => ∀ part, query.consults part = true → c.WholeAt f s.active part
  | .findsAgain query => c.WholeAt f s.active .original ∧ c.find f query = none
  | .settled (.read query) (.answered answer) =>
    ∃ store, c.Whole f store ∧ answer = store.read f query
  | _ => True

structure Loc (s : PlayStores T S τ σ) (job : Job T S τ) : Prop where
  lock : job.holds = true → s.locked = true ∧ s.hasRow = true
  here : At f c s job

section Steps

variable {f c} {s s' : PlayStores T S τ σ} {job job' : Job T S τ}

section

variable (glob : Glob f c s)
include glob

theorem Glob.archived_of_flag (flag : s.shouldGetFromArchive = true) :
    s.hasArchived = true ∧ s.files = c.image f ∧ c.original ≠ [] ∧ c.startPoints ≠ [] := by
  cases archived : s.hasArchived with
  | false =>
    have unflagged := (glob.unarchived archived).2
    rw [flag] at unflagged
    cases unflagged
  | true => exact ⟨rfl, glob.archived archived⟩

theorem Glob.whole (flag : s.shouldGetFromArchive = false) : c.Whole f s.active := by
  rcases glob.readable flag with original | restored
  · rw [original]
    exact ActiveStore.wholeAt_self
  · rw [restored]
    exact ActiveStore.whole_restored

theorem Glob.setLocked (locked : Bool) : Glob f c { s with locked } :=
  ⟨glob.unarchived, glob.archived, glob.readable, glob.row⟩

/-- While the play is read from the archive, the active store may be anything. -/
theorem Glob.setActive (flag : s.shouldGetFromArchive = true)
    (active : ActiveStore τ σ) : Glob f c { s with active } where
  unarchived none := by
    have archived := (glob.archived_of_flag flag).1
    rw [archived] at none
    cases none
  archived := glob.archived
  readable none := by
    rw [show s.shouldGetFromArchive = false from none] at flag
    cases flag
  row := glob.row

theorem Glob.setFiles (unarchived : s.hasArchived = false)
    (files : Files T S) : Glob f c { s with files } where
  unarchived := glob.unarchived
  archived some := by
    rw [show s.hasArchived = true from some] at unarchived
    cases unarchived
  readable := glob.readable
  row := glob.row

theorem flag_of_archived (flag : s.shouldGetFromArchive = true)
    (unarchived : s.hasArchived = false) : False := by
  have archived := (glob.archived_of_flag flag).1
  rw [unarchived] at archived
  cases archived

end

theorem insertMany_restoredBefore (keeps : f.Keeps) (labelled : c.Labelled f) (part : Part) :
    (restoredBefore f c part).insertMany f (c.archived f) part =
      match part with
      | .original => (restoredBefore f c .excludedIgnorable, decide (c.original ≠ []))
      | .excludedIgnorable =>
        (restoredBefore f c .startPoints, decide (c.excludedIgnorable ≠ []))
      | .startPoints => (c.restored f, decide (c.startPoints ≠ [])) := by
  cases part with
  | original =>
    have inserted := Format.insertMany_archived keeps.1 labelled.1
    simp only [restoredBefore, ActiveStore.empty, ActiveStore.insertMany, ActiveStore.archived,
      ActiveStore.restored, inserted]
  | excludedIgnorable =>
    have inserted := Format.insertMany_archived keeps.1 labelled.2.1
    simp only [restoredBefore, ActiveStore.insertMany, ActiveStore.archived,
      ActiveStore.restored, inserted]
  | startPoints =>
    have inserted := Format.insertMany_archived keeps.2 labelled.2.2
    simp only [restoredBefore, ActiveStore.insertMany, ActiveStore.archived,
      ActiveStore.restored, inserted]

theorem succeed_locks (op : Operation) :
    s.succeed f (.locks op) =
      if !s.hasRow then some (s, .settled op .rejected)
      else if s.locked then none
      else some ({ s with locked := true }, inLock op) := rfl

theorem succeed_restoreInserts (query : Query) (part : Part) (content : Content T S) :
    s.succeed f (.restoreInserts query part content) =
      some ({ s with active := (s.active.insertMany f content part).1 },
        if !(s.active.insertMany f content part).2 then .rollsBack (.read query)
        else
          match part.next with
          | some part => .restoreInserts query part content
          | none => .restoreFlags query) := rfl

/-- A call that succeeds keeps the assertion of the stores and the job's own. -/
theorem archivePuts_keeps {part : Part} {content : Content T S}
    (moves : s.succeed f (.archivePuts part content) = some (s', job')) (glob : Glob f c s)
    (loc : Loc f c s (.archivePuts part content)) : Glob f c s' ∧ Loc f c s' job' := by
  obtain ⟨lock, here⟩ := loc
  cases moves
  obtain ⟨unarchived, rfl, nonempty, before⟩ := here
  have files := glob.setFiles unarchived (s.files.put f part (c.snapshot f))
  refine ⟨files, ?_⟩
  cases part with
  | original => exact ⟨fun _ => lock rfl, unarchived, rfl, nonempty, rfl⟩
  | excludedIgnorable => exact ⟨fun _ => lock rfl, unarchived, rfl, nonempty, before, rfl⟩
  | startPoints =>
    refine ⟨fun _ => lock rfl, ?_, nonempty⟩
    obtain ⟨original, excluded⟩ := before
    show (⟨s.files.original, s.files.excludedIgnorable, _⟩ : Files T S) = _
    rw [original, excluded]
    rfl

theorem restoreDeletes_keeps {query : Query} {part : Part} {content : Content T S}
    (moves : s.succeed f (.restoreDeletes query part content) = some (s', job')) (glob : Glob f c s)
    (loc : Loc f c s (.restoreDeletes query part content)) : Glob f c s' ∧ Loc f c s' job' := by
  obtain ⟨lock, here⟩ := loc
  cases moves
  obtain ⟨flag, rfl, before⟩ := here
  refine ⟨glob.setActive flag _, ?_⟩
  cases part with
  | original => exact ⟨fun _ => lock rfl, flag, rfl, rfl⟩
  | excludedIgnorable => exact ⟨fun _ => lock rfl, flag, rfl, before, rfl⟩
  | startPoints =>
    refine ⟨fun _ => lock rfl, flag, rfl, ?_, nofun⟩
    obtain ⟨original, excluded⟩ := before
    show (⟨s.active.original, s.active.excludedIgnorable, []⟩ : ActiveStore τ σ) = _
    rw [original, excluded]
    rfl

theorem restoreInserts_keeps (keeps : f.Keeps) (labelled : c.Labelled f) {query : Query}
    {part : Part}
    {content : Content T S}
    (moves : s.succeed f (.restoreInserts query part content) = some (s', job')) (glob : Glob f c s)
    (loc : Loc f c s (.restoreInserts query part content)) : Glob f c s' ∧ Loc f c s' job' := by
  obtain ⟨lock, here⟩ := loc
  obtain ⟨flag, rfl, before, some_⟩ := here
  have nonempty := (glob.archived_of_flag flag).2.2
  rw [succeed_restoreInserts, before, insertMany_restoredBefore keeps labelled] at moves
  cases part with
  | original =>
    simp only [nonempty.1, ne_eq, not_false_eq_true, decide_true, Bool.not_true,
      Bool.false_eq_true, if_false, Part.next] at moves
    cases moves
    exact ⟨glob.setActive flag _, fun _ => lock rfl, flag, rfl, rfl, nofun⟩
  | excludedIgnorable =>
    by_cases excluded : c.excludedIgnorable = []
    · simp only [excluded, ne_eq, not_true_eq_false, decide_false, Bool.not_false,
        if_true] at moves
      cases moves
      exact ⟨glob.setActive flag _, fun _ => lock rfl, trivial⟩
    · simp only [excluded, ne_eq, not_false_eq_true, decide_true, Bool.not_true,
        Bool.false_eq_true, if_false, Part.next] at moves
      cases moves
      exact ⟨glob.setActive flag _, fun _ => lock rfl, flag, rfl, rfl, fun _ => excluded⟩
  | startPoints =>
    simp only [nonempty.2, ne_eq, not_false_eq_true, decide_true, Bool.not_true,
      Bool.false_eq_true, if_false, Part.next] at moves
    cases moves
    exact ⟨glob.setActive flag _, fun _ => lock rfl, flag, rfl, some_ rfl⟩

theorem finds_keeps (keeps : f.Keeps) (labelled : c.Labelled f) {query : Query}
    (moves : s.succeed f (.finds query) = some (s', job')) (glob : Glob f c s)
    (loc : Loc f c s (.finds query)) : Glob f c s' ∧ Loc f c s' job' := by
  obtain ⟨lock, here⟩ := loc
  cases moves
  refine ⟨glob, ?_⟩
  obtain ⟨store, whole, same⟩ := ActiveStore.find_consulted s.active query here
  cases found : s.active.find f query with
  | none =>
    refine ⟨nofun, here .original ?_, ?_⟩
    · have ticks := (ActiveStore.find_eq_none_iff s.active query).mp found
      cases query with
      | getTick frame ignorable | getTicks query | getTicksRaw query => rfl
      | _ => exact ticks.elim
    · rw [← ActiveStore.find_whole keeps labelled whole, ← same]
      exact found
  | some answer =>
    rw [same] at found
    exact ⟨nofun, store, whole, store.find_eq_some f query answer found⟩

theorem succeed_keeps (keeps : f.Keeps) (labelled : c.Labelled f)
    (moves : s.succeed f job = some (s', job')) (glob : Glob f c s) (loc : Loc f c s job) :
    Glob f c s' ∧ Loc f c s' job' := by
  obtain ⟨lock, here⟩ := loc
  cases job with
  | readChecks query =>
    cases moves
    refine ⟨glob, ?_⟩
    cases flag : s.shouldGetFromArchive with
    | true => exact ⟨nofun, trivial⟩
    | false => exact ⟨nofun, fun part _ => glob.whole flag part⟩
  | locks op =>
    rw [succeed_locks] at moves
    split_ifs at moves with noRow held
    · cases moves
      refine ⟨glob, nofun, ?_⟩
      cases op <;> trivial
    · cases moves
      refine ⟨glob.setLocked true, fun _ => ⟨rfl, by simpa using noRow⟩, ?_⟩
      cases op <;> trivial
  | archiveChecks =>
    cases moves
    refine ⟨glob, ?_⟩
    cases archived : s.hasArchived with
    | true => exact ⟨fun _ => lock rfl, trivial⟩
    | false => exact ⟨fun _ => lock rfl, archived⟩
  | archiveFindsOriginal =>
    cases moves
    refine ⟨glob, fun _ => lock rfl, here, ?_⟩
    rw [(glob.unarchived here).1]
    rfl
  | archiveFindsExcluded original =>
    cases moves
    obtain ⟨unarchived, rfl⟩ := here
    refine ⟨glob, fun _ => lock rfl, unarchived, ?_⟩
    rw [(glob.unarchived unarchived).1]
    rfl
  | archiveFindsStartPoints ticks =>
    cases moves
    obtain ⟨unarchived, rfl⟩ := here
    have content : (⟨(c.snapshot f).ticks, s.active.getAllStartPoints f⟩ : Content T S) =
        c.snapshot f := by
      rw [(glob.unarchived unarchived).1]
      rfl
    rw [content, ActiveStore.isEmpty_snapshot]
    refine ⟨glob, ?_⟩
    split
    · exact ⟨fun _ => lock rfl, trivial⟩
    · next nonempty =>
      refine ⟨fun _ => lock rfl, unarchived, rfl, ?_, trivial⟩
      simpa using nonempty
  | archivePuts part content => exact archivePuts_keeps moves glob ⟨lock, here⟩
  | archiveFlags =>
    cases moves
    obtain ⟨files, nonempty⟩ := here
    exact ⟨⟨nofun, fun _ => ⟨files, nonempty⟩, glob.readable, glob.row⟩, fun _ => lock rfl,
      trivial⟩
  | pruneChecks =>
    cases moves
    refine ⟨glob, ?_⟩
    cases s.shouldGetFromArchive with
    | true | false => exact ⟨fun _ => lock rfl, trivial⟩
  | pruneChecksArchive =>
    cases moves
    refine ⟨glob, ?_⟩
    cases archived : s.hasArchived with
    | true => exact ⟨fun _ => lock rfl, archived⟩
    | false => exact ⟨fun _ => lock rfl, trivial⟩
  | pruneFlags =>
    cases moves
    refine ⟨⟨fun none => ?_, glob.archived, nofun, fun _ => (lock rfl).2⟩, fun _ => lock rfl,
      here, rfl⟩
    rw [show s.hasArchived = true from here] at none
    cases none
  | pruneDeletes part =>
    cases moves
    refine ⟨glob.setActive here.2 _, ?_⟩
    cases part with
    | original | excludedIgnorable => exact ⟨fun _ => lock rfl, here⟩
    | startPoints => exact ⟨fun _ => lock rfl, trivial⟩
  | restoreChecks query =>
    cases moves
    refine ⟨glob, ?_⟩
    cases flag : s.shouldGetFromArchive with
    | true | false => exact ⟨fun _ => lock rfl, flag⟩
  | restoreGetsOriginal query =>
    cases moves
    have files := (glob.archived_of_flag here).2.1
    rw [files]
    exact ⟨glob, fun _ => lock rfl, here, rfl⟩
  | restoreGetsExcluded query original =>
    cases moves
    obtain ⟨flag, rfl⟩ := here
    have files := (glob.archived_of_flag flag).2.1
    rw [files]
    exact ⟨glob, fun _ => lock rfl, flag, ActiveStore.sort_archived keeps labelled⟩
  | restoreGetsStartPoints query ticks =>
    cases moves
    obtain ⟨flag, rfl⟩ := here
    have files := (glob.archived_of_flag flag).2.1
    rw [files]
    refine ⟨glob, ?_⟩
    dsimp only [ActiveStore.image]
    split
    · exact ⟨fun _ => lock rfl, trivial⟩
    · exact ⟨fun _ => lock rfl, flag, rfl, trivial⟩
  | restoreDeletes query part content => exact restoreDeletes_keeps moves glob ⟨lock, here⟩
  | restoreInserts query part content =>
    exact restoreInserts_keeps keeps labelled moves glob ⟨lock, here⟩
  | restoreFlags query =>
    cases moves
    obtain ⟨flag, active, _⟩ := here
    refine ⟨⟨fun none => (flag_of_archived glob flag none).elim, glob.archived,
      fun _ => .inr active, nofun⟩, fun _ => lock rfl, rfl⟩
  | commits op =>
    cases moves
    refine ⟨glob.setLocked false, ?_⟩
    cases op with
    | read query => exact ⟨nofun, fun part _ => glob.whole here part⟩
    | _ => exact ⟨nofun, trivial⟩
  | rollsBack op =>
    cases moves
    refine ⟨glob.setLocked false, nofun, ?_⟩
    cases op <;> trivial
  | finds query => exact finds_keeps keeps labelled moves glob ⟨lock, here⟩
  | findsAgain query =>
    cases moves
    obtain ⟨original, again⟩ := here
    exact ⟨glob, nofun, ActiveStore.findAgain_consulted keeps labelled s.active query original
      again⟩
  | settled op outcome => cases moves

theorem fail_keeps (fault : Fault) (moves : s.fail f fault job = some (s', job'))
    (glob : Glob f c s) (loc : Loc f c s job) : Glob f c s' ∧ Loc f c s' job' := by
  obtain ⟨lock, here⟩ := loc
  cases job with
  | readChecks query =>
    cases moves
    exact ⟨glob, nofun, trivial⟩
  | locks op =>
    cases moves
    refine ⟨glob, nofun, ?_⟩
    cases op <;> trivial
  | archiveChecks | archiveFindsOriginal | archiveFindsExcluded original
  | archiveFindsStartPoints ticks => cases moves; exact ⟨glob, fun _ => lock rfl, trivial⟩
  | archivePuts part content =>
    cases moves
    split
    · exact ⟨glob.setFiles here.1 _, fun _ => lock rfl, trivial⟩
    · exact ⟨glob, fun _ => lock rfl, trivial⟩
  | archiveFlags =>
    cases moves
    obtain ⟨files, nonempty⟩ := here
    refine ⟨⟨fun none => ?_, fun _ => ⟨files, nonempty⟩, glob.readable, glob.row⟩,
      fun _ => lock rfl, trivial⟩
    exact glob.unarchived (by simp at none; exact none.1)
  | pruneChecks | pruneChecksArchive => cases moves; exact ⟨glob, fun _ => lock rfl, trivial⟩
  | pruneFlags =>
    cases moves
    have archived : s.hasArchived = true := here
    refine ⟨⟨fun none => ?_, glob.archived, fun none => ?_, fun _ => (lock rfl).2⟩,
      fun _ => lock rfl, trivial⟩
    · rw [show s.hasArchived = false from none] at archived
      cases archived
    · exact glob.readable (by simp at none; exact none.1)
  | pruneDeletes part => cases moves; exact ⟨glob.setActive here.2 _, fun _ => lock rfl, trivial⟩
  | restoreChecks query | restoreGetsOriginal query | restoreGetsExcluded query original
  | restoreGetsStartPoints query ticks => cases moves; exact ⟨glob, fun _ => lock rfl, trivial⟩
  | restoreDeletes query part content | restoreInserts query part content =>
    cases moves
    exact ⟨glob.setActive here.1 _, fun _ => lock rfl, trivial⟩
  | restoreFlags query =>
    cases moves
    obtain ⟨flag, active, _⟩ := here
    refine ⟨⟨fun none => (flag_of_archived glob flag none).elim, glob.archived,
      fun _ => .inr active, fun _ => (lock rfl).2⟩, fun _ => lock rfl, trivial⟩
  | commits op | rollsBack op =>
    cases moves
    refine ⟨glob.setLocked false, nofun, ?_⟩
    cases op <;> trivial
  | finds query | findsAgain query => cases moves; exact ⟨glob, nofun, trivial⟩
  | settled op outcome => cases moves

theorem next_keeps (keeps : f.Keeps) (labelled : c.Labelled f) (fault : Option Fault)
    (moves : s.next f job fault = some (s', job')) (glob : Glob f c s) (loc : Loc f c s job) :
    Glob f c s' ∧ Loc f c s' job' := by
  cases fault with
  | none => exact succeed_keeps keeps labelled moves glob loc
  | some fault => exact fail_keeps fault moves glob loc

end Steps

end PlayStores

end AkashicSystem.Playlog
