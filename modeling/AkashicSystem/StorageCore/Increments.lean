import Mathlib.Algebra.BigOperators.Group.List.Basic
import Mathlib.Algebra.Order.Ring.Int
import AkashicSystem.StorageCore.GameExternalStorage

/-!
# Increments

An increment reads the values once and writes all results together.  It adds up where what it
takes for the value of a player is what the operands before the last would have left.
-/

set_option autoImplicit false

namespace AkashicSystem.StorageCore

open List

variable {σ ν : Type} [AddCommGroup ν] (lang : Language ν) (commands : Commands σ ν)

def combine (writeType : WriteType) (x operand : ν) : ν :=
  match writeType with
  | .overwrite => operand
  | .incr => x + operand
  | .decr => x - operand

theorem calculate_cases {writeType : WriteType} (adds : writeType ≠ .overwrite)
    (original : Option ν) (value : StorageValue ν) :
    calculate lang writeType original value = .notFinite ∨ ∃ x v, original = some x ∧
      lang.number value = some v ∧
      calculate lang writeType original value = .json (.number (combine writeType x v)) := by
  cases writeType with
  | overwrite => exact absurd rfl adds
  | incr | decr =>
    cases number : lang.number value with
    | none => cases original <;> simp [calculate, number]
    | some v => cases original <;> simp [calculate, number, combine]

theorem originalValue_written (x : ν) :
    originalValue lang (some (written lang (.json (.number x)))) = some x := by
  rw [originalValue]
  simp [written, lang.shown_number, lang.number_shown]

section

variable (writeType : WriteType) (adds : writeType ≠ .overwrite)

include writeType adds

theorem combine_add (x d v : ν) :
    combine writeType x (d + v) = combine writeType (combine writeType x d) v := by
  cases writeType with
  | overwrite => exact absurd rfl adds
  | incr => exact (add_assoc x d v).symm
  | decr => exact sub_add_eq_sub_sub x d v

theorem combine_left_inj (x y v : ν) :
    combine writeType x v = combine writeType y v ↔ x = y := by
  cases writeType with
  | overwrite => exact absurd rfl adds
  | incr => exact add_left_inj v
  | decr => exact sub_left_inj

theorem combine_zero (x : ν) :
    combine writeType x 0 = x := by
  cases writeType with
  | overwrite => exact absurd rfl adds
  | incr => exact add_zero x
  | decr => exact sub_zero x

end

variable [LinearOrder ν]

section

variable (s : σ) (req : WriteRequest ν) (storageKey : String)

/-- The number that a player has, which is zero where there is none. -/
def stored (playerId : String) : Option ν :=
  if req.type = .orderedNumber then some (((commands.ranking s storageKey).lookup playerId).getD 0)
  else originalValue lang (commands.value s (playerKey storageKey playerId))

/-- What a write takes for it. -/
def taken (playerId : String) : Option ν :=
  if req.type = .orderedNumber then
    match (originalMemberScores lang commands s req storageKey).property playerId with
    | .own score => some (score.getD 0)
    | .absent => some 0
    | .inherited _ => none
  else originalValue lang (commands.value s (playerKey storageKey playerId))

def result (entry : StorageData ν) : StorageValue ν :=
  if req.type = .orderedNumber then orderValue lang commands s req storageKey entry
  else playerValue lang commands s req storageKey entry

/-- The entries of a player that are not refused. -/
def entriesOf (data : List (StorageData ν)) (playerId : String) : List (StorageData ν) :=
  data.filter fun entry => entry.playerId = playerId &&
    (getGameExternalStorageWriteFailureInfo lang req (result lang commands s req storageKey entry)
      entry.playerId).isNone

def operands (data : List (StorageData ν)) (playerId : String) : List ν :=
  (entriesOf lang commands s req storageKey data playerId).filterMap fun entry =>
    lang.number entry.value

end

variable {s : σ} {req : WriteRequest ν} {storageKey : String}

theorem result_of_accepted (adds : req.writeType ≠ .overwrite) {entry : StorageData ν}
    (accepted : getGameExternalStorageWriteFailureInfo lang req
      (result lang commands s req storageKey entry) entry.playerId = none) :
    ∃ x v, taken lang commands s req storageKey entry.playerId = some x ∧
      lang.number entry.value = some v ∧
      result lang commands s req storageKey entry =
        .json (.number (combine req.writeType x v)) := by
  have finite (original : Option ν)
      (is : result lang commands s req storageKey entry =
        calculate lang req.writeType original entry.value)
      (same : taken lang commands s req storageKey entry.playerId = original) :
      ∃ x v, taken lang commands s req storageKey entry.playerId = some x ∧
        lang.number entry.value = some v ∧ result lang commands s req storageKey entry =
          .json (.number (combine req.writeType x v)) := by
    rw [is] at accepted ⊢
    rw [same]
    rcases calculate_cases lang adds original entry.value with notFinite | number
    · rw [notFinite, getGameExternalStorageWriteFailureInfo] at accepted
      split_ifs at accepted <;> cases accepted
    · exact number
  by_cases ordered : req.type = .orderedNumber
  · cases found : (originalMemberScores lang commands s req storageKey).property
        entry.playerId with
    | own score =>
      exact finite (some (score.getD 0)) (by simp [result, ordered, orderValue, found])
        (by simp [taken, ordered, found])
    | absent =>
      exact finite (some 0) (by simp [result, ordered, orderValue, found])
        (by simp [taken, ordered, found])
    | inherited length =>
      exfalso
      cases type : req.writeType with
      | overwrite => exact adds type
      | incr | decr =>
        simp [result, ordered, orderValue, found, type,
          getGameExternalStorageWriteFailureInfo, WriteRequest.fails] at accepted
  · exact finite _ (if_neg ordered) (if_neg ordered)

theorem stored_of_wrote {s' : σ} {failed : List WriteFailureInfo} {data : List (StorageData ν)}
    (created : req.createStorageKey = .ok storageKey) (given : req.data = some data)
    (wrote : doWrite lang commands s req = .ok (failed, s')) (playerId : String) :
    stored lang commands s' req storageKey playerId =
      (entriesOf lang commands s req storageKey data playerId).getLast?.elim
        (stored lang commands s req storageKey playerId) fun entry =>
          if req.type = .orderedNumber then
            some ((lang.number (result lang commands s req storageKey entry)).getD
              (((commands.ranking s storageKey).lookup playerId).getD 0))
          else originalValue lang
            (some (written lang (result lang commands s req storageKey entry))) := by
  have wrote := doWrite_eq_ok lang commands given wrote
  rw [entriesOf, stored, stored]
  split_ifs at wrote with ordered
  · have same : result lang commands s req storageKey =
        orderValue lang commands s req storageKey := funext fun _ => if_pos ordered
    rw [if_pos ordered, if_pos ordered, doWriteOrder_lookup lang commands created wrote,
      lookup_accepted, same]
    cases getLast? _ with
    | none => rfl
    | some entry =>
      simp only [Option.elim_some, Option.map_some, Option.bind_some, if_pos ordered]
      cases lang.number (orderValue lang commands s req storageKey entry) <;> rfl
  · have same : result lang commands s req storageKey =
        playerValue lang commands s req storageKey := funext fun _ => if_neg ordered
    rw [if_neg ordered, if_neg ordered, doWritePlayers_value lang commands created wrote,
      lookup_accepted, same]
    cases getLast? _ with
    | none => rfl
    | some entry =>
      rw [Option.elim_some, if_neg ordered, Option.map_some, Option.map_some, Option.some_or]

/-- Increments add up for every player exactly if, for every player with an operand that is not
refused, what the write takes for the player's number is that number with the operands before
the last. -/
theorem increments_iff {s' : σ} {failed : List WriteFailureInfo} {data : List (StorageData ν)}
    (adds : req.writeType ≠ .overwrite) (created : req.createStorageKey = .ok storageKey)
    (given : req.data = some data) (wrote : doWrite lang commands s req = .ok (failed, s')) :
    (∀ playerId, stored lang commands s' req storageKey playerId =
      (stored lang commands s req storageKey playerId).map fun x =>
        combine req.writeType x (operands lang commands s req storageKey data playerId).sum) ↔
    ∀ playerId, operands lang commands s req storageKey data playerId ≠ [] →
      taken lang commands s req storageKey playerId =
        (stored lang commands s req storageKey playerId).map fun x => combine req.writeType x
          (operands lang commands s req storageKey data playerId).dropLast.sum := by
  refine forall_congr' fun playerId => ?_
  rw [stored_of_wrote lang commands created given wrote, operands]
  cases last : (entriesOf lang commands s req storageKey data playerId).getLast? with
  | none =>
    rw [List.getLast?_eq_none_iff.mp last]
    simp [combine_zero _ adds]
  | some entry =>
    obtain ⟨front, entries⟩ := List.getLast?_eq_some_iff.mp last
    have there := mem_of_getLast? last
    simp only [entriesOf, mem_filter, Bool.and_eq_true, decide_eq_true_eq,
      Option.isNone_iff_eq_none] at there
    obtain ⟨_, rfl, kept⟩ := there
    obtain ⟨x, v, takes, number, is⟩ := result_of_accepted lang commands adds kept
    have after : (if req.type = .orderedNumber then
          some ((lang.number (result lang commands s req storageKey entry)).getD
            (((commands.ranking s storageKey).lookup entry.playerId).getD 0))
        else originalValue lang
          (some (written lang (result lang commands s req storageKey entry)))) =
        some (combine req.writeType x v) := by
      rw [is, lang.number_number, originalValue_written]
      exact ite_self _
    rw [Option.elim_some, after, entries, takes, filterMap_append, filterMap_cons, number,
      filterMap_nil, sum_append, sum_singleton, dropLast_concat]
    cases stored lang commands s req storageKey entry.playerId with
    | none => simp
    | some y => simp [combine_add _ adds, combine_left_inj _ adds]

def repeatedIncrement : WriteRequest Int :=
  ⟨⟨"game", "", "", "key"⟩, .number, .incr, none, none,
    some [⟨"a", .json (.number 1)⟩, ⟨"a", .json (.number 1)⟩]⟩

def incrementedKey : String := "\x7bgame\x7d:global:key"

def incremented : List (String × String) :=
  [("\x7bgame\x7d:global:key:a", "1"), ("\x7bgame\x7d:global:key:a", "1")]

theorem repeatedIncrement_wrote :
    doWrite integers unranked [] repeatedIncrement = .ok ([], incremented) := rfl

/-- Of two increments of one player, one is lost. -/
theorem repeatedIncrement_lost : ¬ ∀ playerId,
    stored integers unranked incremented repeatedIncrement incrementedKey playerId =
      (stored integers unranked [] repeatedIncrement incrementedKey playerId).map fun x =>
        combine repeatedIncrement.writeType x (operands integers unranked [] repeatedIncrement
          incrementedKey (repeatedIncrement.data.getD []) playerId).sum := by
  intro adds
  cases adds "a"

theorem increments_iff_incremented :
    (∀ playerId, stored integers unranked incremented repeatedIncrement incrementedKey playerId =
      (stored integers unranked [] repeatedIncrement incrementedKey playerId).map fun x =>
        combine repeatedIncrement.writeType x (operands integers unranked [] repeatedIncrement
          incrementedKey (repeatedIncrement.data.getD []) playerId).sum) ↔
    ∀ playerId, operands integers unranked [] repeatedIncrement incrementedKey
        (repeatedIncrement.data.getD []) playerId ≠ [] →
      taken integers unranked [] repeatedIncrement incrementedKey playerId =
        (stored integers unranked [] repeatedIncrement incrementedKey playerId).map fun x =>
          combine repeatedIncrement.writeType x (operands integers unranked [] repeatedIncrement
            incrementedKey (repeatedIncrement.data.getD []) playerId).dropLast.sum :=
  increments_iff integers unranked (by decide) rfl rfl repeatedIncrement_wrote

end AkashicSystem.StorageCore
