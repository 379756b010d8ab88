import Mathlib.Data.List.Induction
import AkashicSystem.Js.Json
import AkashicSystem.Js.PlainObject

/-!
# The storage of contents

`GameExternalStorageDataAccessBase`: requests, the keys of the entries they access, and what
they read and write.  Its commands on the storage are abstract methods, named after those of
Redis, and parameters here; so are the conversions of the language.
-/

set_option autoImplicit false

namespace AkashicSystem.StorageCore

open Js (Json PlainObject)
open List

inductive ValueType where
  | string | number | orderedNumber | general
deriving DecidableEq

def ValueType.text : ValueType → String
  | .string => "string"
  | .number => "number"
  | .orderedNumber => "ordered-number"
  | .general => "general"

inductive WriteType where
  | overwrite | incr | decr
deriving DecidableEq

inductive Order where
  | asc | desc | unspecified
deriving DecidableEq

inductive FailureType where
  | notPermitted | subceedMin | exceedMax

/-- A text that is not given is empty. -/
structure Locator where
  gameCode : String
  playScope : String
  playId : String
  key : String

/-- An offset or a limit that is not given is zero. -/
structure ReadRequest extends Locator where
  type : ValueType
  playerIds : Option (List String)
  order : Option Order
  rankOfPlayerId : String
  offset : Int
  limit : Int

/-- A value of a request or a response; a number may not be finite. -/
inductive StorageValue (ν : Type) where
  | undefined
  | json (value : Json ν)
  | notFinite

structure StorageData (ν : Type) where
  playerId : String
  value : StorageValue ν

structure WriteRequest (ν : Type) extends Locator where
  type : ValueType
  writeType : WriteType
  min : Option ν
  max : Option ν
  data : Option (List (StorageData ν))

structure ReadResponse (ν : Type) where
  gameCode : String
  playScope : String
  key : String
  type : ValueType
  data : List (StorageData ν)

structure WriteFailureInfo where
  gameCode : String
  playScope : String
  key : String
  type : ValueType
  playerId : String
  failureType : FailureType
  message : String

/-- `Number(value)`, where it is finite, the text of `${value}`, what `+` makes of an object
and a number, and the text of a score. -/
structure Language (ν : Type) where
  engine : Json.Engine ν
  number : StorageValue ν → Option ν
  shown : StorageValue ν → String
  appended : String → StorageValue ν → String
  scoreText : ν → String
  number_number : ∀ x, number (.json (.number x)) = some x
  number_shown : ∀ x, number (.json (.text (shown (.json (.number x))))) = some x
  number_scoreText : ∀ x, number (.json (.text (scoreText x))) = some x
  shown_undefined : shown .undefined = "undefined"
  shown_bool : ∀ b, shown (.json (.bool b)) = if b then "true" else "false"
  shown_number : ∀ x, shown (.json (.number x)) ≠ ""
  shown_text : ∀ s, shown (.json (.text s)) = s
  scoreText_colon : ∀ x, ':' ∉ (scoreText x).toList

/-- `MGET` and `MSET` on plain entries, `ZRANGE` and `ZADD` on those with a ranking. -/
structure Commands (σ ν : Type) where
  value : σ → String → Option String
  ranking : σ → String → List (String × ν)
  mset : σ → List (String × String) → σ
  zadd : σ → String → List (String × Option ν) → Option σ
  nodup : ∀ s key, ((ranking s key).map Prod.fst).Nodup
  value_mset : ∀ s entries key,
    value (mset s entries) key = (entries.reverse.lookup key).or (value s key)
  lookup_zadd : ∀ s key members s', zadd s key members = some s' → ∀ playerId,
    (ranking s' key).lookup playerId =
      ((members.reverse.lookup playerId).bind id).or ((ranking s key).lookup playerId)

/-- The integers in decimal. -/
def integerText (x : Int) : List Char :=
  (if x < 0 then ['-'] else []) ++ Nat.toDigits 10 x.natAbs

def readInteger (text : List Char) : Option Int :=
  if text.head? = some '-' then (Json.decimal.read text.tail).map fun n : Nat => -(n : Int)
  else (Json.decimal.read text).map Int.ofNat

theorem isNumeric_integerText (x : Int) : ∀ c ∈ integerText x, Json.isNumeric c = true := by
  intro c there
  rcases mem_append.mp there with sign | digit
  · split_ifs at sign with negative
    · rw [mem_singleton.mp sign]
      rfl
    · cases sign
  · exact Json.decimal.numeric _ c digit

theorem readInteger_integerText (x : Int) : readInteger (integerText x) = some x := by
  have read : Json.decimal.read (Nat.toDigits 10 x.natAbs) = some x.natAbs :=
    Json.decimal.read_text x.natAbs
  rw [readInteger, integerText]
  by_cases negative : x < 0
  · have back : -(x.natAbs : Int) = x := by omega
    simp only [negative, if_true, cons_append, nil_append, List.head?_cons, tail_cons,
      read, Option.map_some, back]
  · have back : Int.ofNat x.natAbs = x := Int.natAbs_of_nonneg (Int.not_lt.mp negative)
    have digit : (Nat.toDigits 10 x.natAbs).head? ≠ some '-' := by
      intro sign
      cases Nat.isDigit_of_mem_toDigits (by decide) (by decide) (mem_of_mem_head? sign)
    rw [if_neg negative, nil_append, if_neg digit, read, Option.map_some, back]

theorem readInteger_ofList (x : Int) :
    readInteger (String.ofList (integerText x)).toList = some x := by
  rw [String.toList_ofList, readInteger_integerText]

def integers : Language Int where
  engine := ⟨integerText, readInteger, fun _ => "Unexpected token", isNumeric_integerText,
    fun _ empty => Nat.toDigits_ne_nil (append_eq_nil_iff.mp empty).2,
    readInteger_integerText⟩
  number
    | .json (.number x) => some x
    | .json (.text s) => readInteger s.toList
    | .json .null => some 0
    | _ => none
  shown
    | .json (.number x) => String.ofList (integerText x)
    | .json (.text s) => s
    | .json (.bool b) => if b then "true" else "false"
    | .undefined => "undefined"
    | _ => ""
  appended name _ := name
  scoreText x := String.ofList (integerText x)
  number_number _ := rfl
  number_shown := readInteger_ofList
  number_scoreText := readInteger_ofList
  shown_undefined := rfl
  shown_bool _ := rfl
  shown_number x empty := Nat.toDigits_ne_nil
    (append_eq_nil_iff.mp (String.ofList_eq_empty_iff.mp empty)).2
  shown_text _ := rfl
  scoreText_colon x there := by
    rw [String.toList_ofList] at there
    cases isNumeric_integerText x ':' there

/-- Plain entries of which the last one of a key counts, beside a ranking that stays. -/
def entriesBeside (members : List (String × Int)) (nodup : (members.map Prod.fst).Nodup) :
    Commands (List (String × String)) Int where
  value s key := s.lookup key
  ranking _ _ := members
  mset s entries := entries.reverse ++ s
  zadd _ _ _ := none
  nodup _ _ := nodup
  value_mset _ _ _ := lookup_append
  lookup_zadd _ _ _ _ added := by cases added

def unranked : Commands (List (String × String)) Int := entriesBeside [] .nil

namespace Locator

variable (req : Locator)

def getGameCode : Except String String :=
  if req.gameCode = "" then throw "invalid game code." else return req.gameCode

def getPlayScope : String := if req.playScope = "" then "global" else req.playScope

def convertPlayScopeToKey (playScope : String) : Option String :=
  if playScope = "global" then some "global"
  else if req.playId ≠ "" then some req.playId
  else none

def createStorageKeyPrefix : Except String String := do
  return "\x7b" ++ (← req.getGameCode) ++ "\x7d"

def createStorageKey : Except String String :=
  match req.convertPlayScopeToKey req.getPlayScope with
  | none => throw ("request playScope (" ++ req.playScope ++ ") is not available.")
  | some playScopeKey => do
    return (← req.createStorageKeyPrefix) ++ ":" ++ playScopeKey ++ ":" ++ req.key

theorem getGameCode_of_created {storageKey : String}
    (created : req.createStorageKey = .ok storageKey) :
    req.getGameCode = .ok req.gameCode := by
  rw [createStorageKey] at created
  split at created
  · cases created
  · rw [createStorageKeyPrefix, getGameCode] at created
    rw [getGameCode]
    split_ifs at created ⊢
    · cases created
    · rfl

end Locator

def playerKey (storageKey playerId : String) : String := storageKey ++ ":" ++ playerId

def ReadRequest.checkReadRequestParameter (req : ReadRequest) : Bool :=
  let ranks := req.rankOfPlayerId ≠ ""
  !(req.key = "" || (req.playerIds.isNone && req.order.isNone && !ranks)) &&
  !((req.playerIds.isSome && req.order.isSome) || (req.playerIds.isSome && ranks) ||
    (req.order.isSome && ranks)) &&
  !((req.type = .orderedNumber && req.playerIds.isSome) ||
    (req.type ≠ .orderedNumber && (req.order.isSome || ranks))) &&
  !(req.limit < 0 || req.offset < 0) && !(ranks && (req.limit ≠ 0 || req.offset ≠ 0))

def WriteRequest.checkWriteRequestParameter {ν : Type} (req : WriteRequest ν) : Bool :=
  !(req.key = "" || req.data.isNone)

section

variable {σ ν : Type} (lang : Language ν) (commands : Commands σ ν)

def convertValueType (value : Option String) (valueType : ValueType) : StorageValue ν :=
  match value, valueType with
  | none, _ => .json .null
  | some text, .string => .json (.text text)
  | some text, .number | some text, .orderedNumber =>
    match lang.number (.json (.text text)) with
    | some x => .json (.number x)
    | none => .notFinite
  | some text, .general =>
    match Json.parse lang.engine (some text) with
    | .ok value => .json value
    | .error _ => .json .null

def ReadRequest.respond (req : ReadRequest) (gameCode : String) (data : List (StorageData ν)) :
    ReadResponse ν :=
  ⟨gameCode, req.getPlayScope, req.key, req.type, data⟩

def doReadPlayers (s : σ) (req : ReadRequest) (playerIds : List String) :
    Except String (ReadResponse ν) := do
  let gameCode ← req.getGameCode
  let storageKey ← req.createStorageKey
  return req.respond gameCode (playerIds.map fun playerId =>
    ⟨playerId, convertValueType lang (commands.value s (playerKey storageKey playerId)) req.type⟩)

/-- The text before the first occurrence of the separator: `text.split(separator).shift()`. -/
def beforeFirst (separator : List Char) : List Char → List Char
  | [] => []
  | c :: rest =>
    if separator.isPrefixOf (c :: rest) then [] else c :: beforeFirst separator rest

/-- The player and the score of `member:score`. -/
def splitMember (memberScore : String) : String × String :=
  let score := (memberScore.toList.splitOn ':').getLastD []
  (String.ofList (beforeFirst (':' :: score) memberScore.toList), String.ofList score)

def memberScore (member : String × ν) : String := member.1 ++ ":" ++ lang.scoreText member.2

/-- `ZRANGE` of the ascending ranking: an index below zero counts from behind. -/
def storageZrange (s : σ) (key : String) (first last : Int) : List String :=
  let members := (commands.ranking s key).map (memberScore lang)
  let absolute := fun i : Int => if i < 0 then i + members.length else i
  let begins := (absolute first).toNat
  (members.take (absolute last + 1).toNat).drop begins

section

variable [LT ν] [DecidableLT ν]

variable (req : WriteRequest ν)

def WriteRequest.fails (playerId : String) (failureType : FailureType)
    (message : String) : Option WriteFailureInfo :=
  some ⟨req.gameCode, req.getPlayScope, req.key, req.type, playerId, failureType, message⟩

def getGameExternalStorageWriteFailureInfo (value : StorageValue ν)
    (playerId : String) : Option WriteFailureInfo :=
  let wrongType := req.fails playerId .notPermitted ("valueの型がリクエストの型と異なります（value:" ++
    lang.shown value ++ ", type:" ++ req.type.text ++ "）")
  let wrongValue := req.fails playerId .notPermitted ("valueの値が不正です（value:" ++
    lang.shown value ++ ", type:" ++ req.type.text ++ "）")
  match value with
  | .json (.text _) => if req.type ≠ .string then wrongType else none
  | .notFinite => if req.type = .string ∨ req.type = .general then wrongType else wrongValue
  | .json (.number x) =>
    if req.type = .string ∨ req.type = .general then wrongType
    else if req.min.any fun min => x < min then
      req.fails playerId .subceedMin ("valueがリクエストのmin値を下回りました（value:" ++
        lang.shown value ++ ", min:" ++ (req.min.elim "" fun x => lang.shown (.json (.number x))) ++
        "）")
    else if req.max.any fun max => max < x then
      req.fails playerId .exceedMax ("valueがリクエストのmax値を上回りました（value:" ++
        lang.shown value ++ ", max:" ++ (req.max.elim "" fun x => lang.shown (.json (.number x))) ++
        "）")
    else none
  | .undefined | .json (.bool _) => none
  | .json _ => if req.type ≠ .general then wrongValue else none

/-- The values of the entries that are not refused, and the failures of the others. -/
def accepted (values : List (String × StorageValue ν)) :
    List (String × StorageValue ν) :=
  values.filter fun entry =>
    (getGameExternalStorageWriteFailureInfo lang req entry.2 entry.1).isNone

def failures (values : List (String × StorageValue ν)) :
    List WriteFailureInfo :=
  values.filterMap fun entry => getGameExternalStorageWriteFailureInfo lang req entry.2 entry.1

def valued (value : StorageData ν → StorageValue ν) (data : List (StorageData ν)) :
    List (String × StorageValue ν) :=
  data.map fun entry => (entry.playerId, value entry)

theorem lookup_accepted (value : StorageData ν → StorageValue ν)
    (data : List (StorageData ν)) (playerId : String) :
    (accepted lang req (valued value data)).reverse.lookup playerId =
      ((data.filter fun entry => entry.playerId = playerId &&
        (getGameExternalStorageWriteFailureInfo lang req (value entry)
          entry.playerId).isNone).getLast?).map value := by
  induction data using reverseRecOn with
  | nil => rfl
  | append_singleton front entry ih =>
    rw [accepted, valued] at ih ⊢
    rw [map_append, filter_append, reverse_append, filter_append]
    cases kept : (getGameExternalStorageWriteFailureInfo lang req (value entry)
        entry.playerId).isNone with
    | false => simp [kept, ih]
    | true =>
      by_cases own : entry.playerId = playerId
      · subst own
        simp [kept]
      · simp [kept, own, lookup_cons, beq_false_of_ne (Ne.symm own), ih]

variable [Add ν] [Sub ν] [Zero ν]

/-- The value of a `writeType`; an `original` that is missing is not a finite number. -/
def calculate (writeType : WriteType) (original : Option ν) (value : StorageValue ν) :
    StorageValue ν :=
  let number (result : Option ν) : StorageValue ν := result.elim .notFinite fun x =>
    .json (.number x)
  match writeType with
  | .overwrite => value
  | .incr => number (do return (← original) + (← lang.number value))
  | .decr => number (do return (← original) - (← lang.number value))

def written : StorageValue ν → String
  | .json .null => Json.stringify lang.engine .null
  | .json (.array items) => Json.stringify lang.engine (.array items)
  | .json (.object members) => Json.stringify lang.engine (.object members)
  | value => lang.shown value

/-- `originalValues[index] ? Number(originalValues[index]) : 0`. -/
def originalValue (text : Option String) : Option ν :=
  if text.getD "" = "" then some 0 else lang.number (.json (.text (text.getD "")))

variable (s : σ)

def playerValue (req : WriteRequest ν) (storageKey : String) (entry : StorageData ν) :
    StorageValue ν :=
  calculate lang req.writeType
    (originalValue lang (commands.value s (playerKey storageKey entry.playerId))) entry.value

def doWritePlayers (req : WriteRequest ν) (data : List (StorageData ν)) :
    Except String (List WriteFailureInfo × σ) := do
  discard req.getGameCode
  let storageKey ← req.createStorageKey
  let values := valued (playerValue lang commands s req storageKey) data
  let accepted := accepted lang req values
  let failed := failures lang req values
  if accepted.isEmpty then return (failed, s)
  return (failed, commands.mset s (accepted.map fun entry =>
    (playerKey storageKey entry.1, written lang entry.2)))

/-- `originalMemberScores`; an assignment to `__proto__` does nothing with a number. -/
def originalMemberScores (req : WriteRequest ν) (storageKey : String) :
    PlainObject (Option ν) :=
  if req.writeType = .overwrite then PlainObject.empty
  else (storageZrange lang commands s storageKey 0 (-1)).foldl (fun table member =>
    let (playerId, score) := splitMember member
    if playerId = "__proto__" then table
    else table.set playerId (lang.number (.json (.text score)))) PlainObject.empty

/-- An inherited property is an object, of which `+` makes a text and `-` no number. -/
def orderValue (req : WriteRequest ν) (storageKey : String) (entry : StorageData ν) :
    StorageValue ν :=
  match (originalMemberScores lang commands s req storageKey).property entry.playerId with
  | .own score => calculate lang req.writeType (some (score.getD 0)) entry.value
  | .absent => calculate lang req.writeType (some 0) entry.value
  | .inherited _ =>
    match req.writeType with
    | .overwrite => entry.value
    | .incr => .json (.text (lang.appended entry.playerId entry.value))
    | .decr => .notFinite

def doWriteOrder (req : WriteRequest ν) (data : List (StorageData ν)) :
    Except String (List WriteFailureInfo × σ) := do
  discard req.getGameCode
  let storageKey ← req.createStorageKey
  let values := valued (orderValue lang commands s req storageKey) data
  let accepted := accepted lang req values
  let failed := failures lang req values
  if accepted.isEmpty then return (failed, s)
  match commands.zadd s storageKey (accepted.map fun entry => (entry.1, lang.number entry.2)) with
  | some s' => return (failed, s')
  | none => throw "value is not a valid float"

def doWrite (req : WriteRequest ν) : Except String (List WriteFailureInfo × σ) :=
  match req.checkWriteRequestParameter, req.data with
  | true, some data =>
    if req.type = .orderedNumber then doWriteOrder lang commands s req data
    else doWritePlayers lang commands s req data
  | _, _ => throw "invalid write storage parameter."

theorem lookup_map_key {α β : Type} {f : String → String} (injective : Function.Injective f)
    (g : α → β) (entries : List (String × α)) (key : String) :
    (entries.map fun entry => (f entry.1, g entry.2)).lookup (f key) =
      (entries.lookup key).map g := by
  induction entries with
  | nil => rfl
  | cons entry rest ih =>
    obtain ⟨name, value⟩ := entry
    by_cases same : key = name
    · simp [same]
    · simp [lookup_cons, beq_false_of_ne same, beq_false_of_ne (injective.ne same), ih]

theorem playerKey_injective (storageKey : String) : Function.Injective (playerKey storageKey) := by
  intro playerId playerId' same
  have texts := congrArg String.toList same
  simpa [playerKey, String.toList_inj] using texts

theorem doWrite_eq_ok {s : σ} {req : WriteRequest ν} {data : List (StorageData ν)}
    {r : List WriteFailureInfo × σ} (given : req.data = some data)
    (wrote : doWrite lang commands s req = .ok r) :
    (if req.type = .orderedNumber then doWriteOrder lang commands s req data
      else doWritePlayers lang commands s req data) = .ok r := by
  rw [doWrite, given] at wrote
  split at wrote
  · next some_ =>
    cases some_
    exact wrote
  · cases wrote

section

variable {s s' : σ} {req : WriteRequest ν} {data : List (StorageData ν)} {storageKey : String}
  {failed : List WriteFailureInfo} (created : req.createStorageKey = .ok storageKey)

include created

theorem doWritePlayers_value (wrote : doWritePlayers lang commands s req data = .ok (failed, s'))
    (playerId : String) : commands.value s' (playerKey storageKey playerId) =
      (((accepted lang req (valued (playerValue lang commands s req storageKey)
        data)).reverse.lookup
        playerId).map (written lang)).or (commands.value s (playerKey storageKey playerId)) := by
  rw [doWritePlayers, req.getGameCode_of_created created, created] at wrote
  change (if (accepted lang req _).isEmpty then _ else _) = _ at wrote
  split_ifs at wrote with none_ <;> cases wrote
  · rw [List.isEmpty_iff.mp none_]
    rfl
  · rw [commands.value_mset, ← map_reverse,
      lookup_map_key (playerKey_injective storageKey) (written lang)]

theorem doWriteOrder_lookup (wrote : doWriteOrder lang commands s req data = .ok (failed, s'))
    (playerId : String) : (commands.ranking s' storageKey).lookup playerId =
      (((accepted lang req (valued (orderValue lang commands s req storageKey) data)).reverse.lookup
        playerId).bind lang.number).or ((commands.ranking s storageKey).lookup playerId) := by
  rw [doWriteOrder, req.getGameCode_of_created created, created] at wrote
  change (if (accepted lang req _).isEmpty then _ else _) = _ at wrote
  split_ifs at wrote with none_
  · cases wrote
    rw [List.isEmpty_iff.mp none_]
    rfl
  · split at wrote <;> cases wrote
    next added =>
      have mapped := lookup_map_key Function.injective_id lang.number
      simp only [id] at mapped
      rw [commands.lookup_zadd _ _ _ _ added, ← map_reverse, mapped]
      cases lookup playerId _ <;> rfl

end

end

end

end AkashicSystem.StorageCore
