import AkashicSystem.Lib.Sorted
import AkashicSystem.Playlog.MongoDBStore

/-!
# Records that survive storing

A value that was put reads back as itself from then on: encoding it again gives
the same record, and so does a trip through the archive's JSON.
-/

set_option autoImplicit false

namespace AkashicSystem.Playlog

open List

variable {α β : Type}

namespace Format

open Collection

variable (format : Format α β)

def Lawful : Prop := ∀ value, format.toRecord (format.readBack value) = format.toRecord value

def Survives (value : α) : Prop := format.json (format.readBack value) = format.readBack value

def Stable (values : List α) : Prop :=
  (∀ value ∈ values, format.readBack value = value ∧ format.json value = value) ∧
    (values.map format.frame).Nodup

def StableRecords (records : List (Record β)) : Prop :=
  (∀ record ∈ records, format.toRecord (format.decodeRecord record) = record ∧
    format.json (format.decodeRecord record) = format.decodeRecord record) ∧
    (records.map Record.frame).Nodup

variable {format}

theorem stableRecords_nil : format.StableRecords [] :=
  ⟨fun _ there => (not_mem_nil there).elim, nodup_nil⟩

theorem Stable.map_json {values : List α} (stable : format.Stable values) :
    values.map format.json = values := by
  have same : ∀ value ∈ values, format.json value = id value := fun value there =>
    (stable.1 value there).2
  rw [map_congr_left same, map_id]

theorem Stable.perm {values values' : List α} (perm : values.Perm values')
    (stable : format.Stable values) : format.Stable values' := by
  refine ⟨fun value there => stable.1 value (perm.mem_iff.mpr there), ?_⟩
  exact (perm.map format.frame).nodup_iff.mp stable.2

theorem StableRecords.mem_iff {records : List (Record β)} (lawful : format.Lawful)
    (stable : format.StableRecords records) (value : α) :
    format.readBack value ∈ records.map format.decodeRecord ↔ format.toRecord value ∈ records := by
  rw [mem_map]
  constructor
  · rintro ⟨record, there, eq⟩
    rw [← lawful, ← eq, (stable.1 record there).1]
    exact there
  · intro there
    exact ⟨format.toRecord value, there, rfl⟩

theorem StableRecords.values {records : List (Record β)} (stable : format.StableRecords records) :
    format.Stable (records.map format.decodeRecord) := by
  have frame : ∀ record ∈ records, format.frame (format.decodeRecord record) = record.frame := by
    intro record there
    exact congrArg Record.frame (stable.1 record there).1
  constructor
  · intro value there
    obtain ⟨record, here, rfl⟩ := mem_map.mp there
    obtain ⟨again, survives⟩ := stable.1 record here
    refine ⟨?_, survives⟩
    have data : format.encode (format.decodeRecord record) = record.data :=
      congrArg Record.data again
    rw [readBack, data]
    rfl
  · have frames : (records.map format.decodeRecord).map format.frame =
      records.map Record.frame := by
      rw [map_map]
      exact map_congr_left frame
    rw [frames]
    exact stable.2

theorem StableRecords.sorted {records : List (Record β)} (stable : format.StableRecords records) :
    format.Stable ((sortFrame records).map format.decodeRecord) := by
  have perm : (sortFrame records).Perm records := perm_insertionSort _ records
  exact stable.values.perm (perm.symm.map format.decodeRecord)

theorem Stable.records {values : List α} (stable : format.Stable values) :
    format.StableRecords (values.map format.toRecord) := by
  constructor
  · intro record there
    obtain ⟨value, here, rfl⟩ := mem_map.mp there
    obtain ⟨same, survives⟩ := stable.1 value here
    have decoded : format.decodeRecord (format.toRecord value) = value := same
    rw [decoded]
    exact ⟨rfl, survives⟩
  · rw [map_map]
    exact stable.2

theorem insertOne_stable {records records' : List (Record β)} (lawful : format.Lawful)
    (stable : format.StableRecords records) (value : α) (survives : format.Survives value)
    (inserted : insertOne records (format.toRecord value) = some records') :
    format.StableRecords records' ∧ records' = records ++ [format.toRecord value] := by
  unfold insertOne at inserted
  by_cases known : (format.toRecord value).frame ∈ records.map Record.frame
  · rw [if_pos known] at inserted
    cases inserted
  · rw [if_neg known] at inserted
    cases inserted
    refine ⟨⟨fun record there => ?_, ?_⟩, rfl⟩
    · rcases mem_append.mp there with there | there
      · exact stable.1 record there
      · rw [mem_singleton.mp there]
        exact ⟨lawful value, survives⟩
    · rw [map_append, nodup_append]
      refine ⟨stable.2, nodup_singleton _, fun frame there frame' there' eq => ?_⟩
      rw [map_singleton, mem_singleton] at there'
      exact known (there' ▸ eq ▸ there)

theorem insertAll_nodup (records inserted : List (Record β))
    (nodup : ((records ++ inserted).map Record.frame).Nodup) :
    insertAll records inserted = (records ++ inserted, true) := by
  induction inserted generalizing records with
  | nil => rw [insertAll, append_nil]
  | cons record rest ih =>
    have fresh : record.frame ∉ records.map Record.frame := by
      rw [map_append, map_cons, nodup_append] at nodup
      intro there
      exact nodup.2.2 _ there _ mem_cons_self rfl
    have append : records ++ record :: rest = records ++ [record] ++ rest := append_cons ..
    rw [append] at nodup
    rw [insertAll, insertOne, if_neg fresh, append]
    exact ih _ nodup

theorem insertMany_stable {values : List α} (stable : format.Stable values) (some : values ≠ []) :
    insertMany [] (values.map format.toRecord) = (values.map format.toRecord, true) := by
  have nonempty : values.map format.toRecord ≠ [] := fun eq => some (map_eq_nil_iff.mp eq)
  rw [insertMany, if_neg nonempty, insertAll_nodup _ _ stable.records.2, nil_append]

theorem findFrame_stable {records : List (Record β)} (stable : format.StableRecords records)
    (value : α) (there : format.toRecord value ∈ records) :
    findFrame records (format.frame value) = some (format.toRecord value) := by
  cases found : findFrame records (format.frame value) with
  | none =>
    have none := List.find?_eq_none.mp found (format.toRecord value) there
    exact absurd (decide_eq_true rfl) none
  | some record =>
    have frame := List.find?_some found
    rw [decide_eq_true_eq] at frame
    have here := List.mem_of_find?_eq_some found
    have same := inj_on_of_nodup_map stable.2 here there frame
    rw [same]

theorem applyLimit_shows (records : List (Record β)) (limit : Nat) (record : Record β)
    (nodup : (records.map Record.frame).Nodup) (there : record ∈ records) :
    record ∈ applyLimit limit (sortFrame records) ∨
      limit ≠ 0 ∧ (applyLimit limit (sortFrame records)).length = limit ∧
        ∀ earlier ∈ applyLimit limit (sortFrame records),
          earlier ∈ records ∧ earlier.frame < record.frame := by
  have sorted : (sortFrame records).Pairwise fun r r' => r.frame ≤ r'.frame :=
    Sorted.pairwise_insertionSort (r := fun r r' : Record β => r.frame ≤ r'.frame)
      (fun r r' => Int.le_total r.frame r'.frame) (fun r r' r'' => Int.le_trans) records
  have mem : ∀ r, r ∈ sortFrame records ↔ r ∈ records := fun r =>
    mem_insertionSort _
  unfold applyLimit
  by_cases zero : limit = 0
  · rw [if_pos zero]
    exact .inl ((mem record).mpr there)
  · rw [if_neg zero]
    rcases Sorted.mem_take_or _ limit sorted record ((mem record).mpr there) with early | full
    · exact .inl early
    · by_cases early : record ∈ (sortFrame records).take limit
      · exact .inl early
      · refine .inr ⟨zero, full.1, fun earlier before => ?_⟩
        have here := (mem earlier).mp (mem_of_mem_take before)
        refine ⟨here, lt_of_le_of_ne (full.2 earlier before) fun eq => ?_⟩
        have same := inj_on_of_nodup_map nodup here there eq
        exact early (same ▸ before)

end Format
end AkashicSystem.Playlog
