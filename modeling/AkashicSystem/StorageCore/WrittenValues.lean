import Mathlib.Algebra.Ring.Int.Defs
import AkashicSystem.StorageCore.RankingPages

/-!
# What is written and read back

A value that is not refused is written as a text or as a score, and a read converts it to the
declared type.
-/

set_option autoImplicit false

namespace AkashicSystem.StorageCore

open Js (Json PlainObject)
open List
open WriteRequest (fails)

variable {σ ν : Type} (lang : Language ν) (commands : Commands σ ν)

theorem beforeFirst_append_prefix (separator id : List Char) :
    beforeFirst separator (id ++ separator) ++ separator <+: id ++ separator := by
  induction id with
  | nil => cases separator <;> simp [beforeFirst]
  | cons c id ih =>
    rw [cons_append, beforeFirst]
    split_ifs with here
    · exact isPrefixOf_iff_prefix.mp here
    · exact cons_prefix_cons.mpr ⟨rfl, ih⟩

theorem beforeFirst_beforeFirst (separator id : List Char) (nonempty : separator ≠ []) :
    beforeFirst separator (beforeFirst separator (id ++ separator) ++ separator) =
      beforeFirst separator (id ++ separator) := by
  have empty : beforeFirst separator separator = [] := by
    obtain ⟨c, rest, rfl⟩ := exists_cons_of_ne_nil nonempty
    simp [beforeFirst]
  induction id with
  | nil => rw [nil_append, empty, nil_append, empty]
  | cons c id ih =>
    rw [cons_append, beforeFirst]
    split_ifs with here
    · exact empty
    · rw [cons_append, beforeFirst, if_neg, ih]
      intro there
      rw [List.isPrefixOf_iff_prefix] at there here
      exact here (there.trans
        (cons_prefix_cons.mpr ⟨rfl, beforeFirst_append_prefix separator id⟩))

theorem divides_parsedPlayer (member : String × ν) :
    Divides lang (parsedPlayer lang member, member.2) := by
  rw [← parsedPlayer_eq_iff, parsedPlayer, parsedPlayer, splitMember_memberScore,
    splitMember_memberScore, String.toList_ofList, beforeFirst_beforeFirst _ _ (by simp)]

theorem lookup_eq_some_iff_mem {entries : List (String × ν)}
    (nodup : (entries.map Prod.fst).Nodup) (key : String) (value : ν) :
    entries.lookup key = some value ↔ (key, value) ∈ entries := by
  induction entries with
  | nil => simp
  | cons entry rest ih =>
    obtain ⟨name, value'⟩ := entry
    obtain ⟨fresh, nodup⟩ := nodup_cons.mp nodup
    by_cases same : key = name
    · subst same
      have other : (key, value) ∉ rest := fun there => fresh (mem_map.mpr ⟨_, there, rfl⟩)
      simp [other, eq_comm]
    · simp [lookup_cons, beq_false_of_ne same, ih nodup, same]

def rankingRead (req : WriteRequest ν) (limit : Nat) : ReadRequest :=
  ⟨req.toLocator, req.type, none, some .asc, "", 0, limit⟩

theorem doReadOrder_ranking {s : σ} {req : WriteRequest ν} {storageKey : String}
    (game : req.getGameCode = .ok req.gameCode)
    (created : req.createStorageKey = .ok storageKey) (ordered : req.type = .orderedNumber)
    (response : ReadResponse ν) : doReadOrder lang commands s
        (rankingRead req ((commands.ranking s storageKey).length + 1)) = .ok response ↔
      (∀ member ∈ commands.ranking s storageKey, parsedPlayer lang member ≠ "") ∧
        (rankingRead req ((commands.ranking s storageKey).length + 1)).respond req.gameCode
          ((commands.ranking s storageKey).map fun member =>
            ranked (parsedPlayer lang member, member.2)) = response := by
  have type (limit : Nat) : (rankingRead req limit).type = .orderedNumber := ordered
  rw [doReadOrder_eq lang commands s (rankingRead req _) game created (by simp [rankingRead])
    (by simp [rankingRead]), type]
  have all : (rankingRead req ((commands.ranking s storageKey).length + 1)).page
      (commands.ranking s storageKey) = commands.ranking s storageKey := by
    simp [rankingRead, ReadRequest.page, take_of_length_le]
  have read := mapM_readMember lang (commands.ranking s storageKey)
  dsimp only
  rw [all]
  simp only [rankingRead, reduceCtorEq, Option.some.injEq, if_false]
  cases other : ((commands.ranking s storageKey).map (memberScore lang)).mapM
      (readMember lang .orderedNumber) with
  | error =>
    refine iff_of_false (fun thrown => by cases thrown) fun both => ?_
    cases other.symm.trans ((read _).mpr ⟨both.1, rfl⟩)
  | ok data =>
    obtain ⟨given, rfl⟩ := (read data).mp other
    simpa [bind, Except.bind, pure, Except.pure] using fun _ => given

section

variable [Add ν] [Sub ν] [Zero ν] {s : σ} {req : WriteRequest ν} {storageKey : String}

theorem orderValue_overwrite (overwrites : req.writeType = .overwrite) :
    orderValue lang commands s req storageKey = StorageData.value := by
  funext entry
  rw [orderValue, overwrites]
  split <;> rfl

theorem playerValue_overwrite (overwrites : req.writeType = .overwrite) :
    playerValue lang commands s req storageKey = StorageData.value := by
  funext entry
  rw [playerValue, overwrites]
  rfl

end

theorem parse_undefined : Json.parse lang.engine (some "undefined") =
    .error (lang.engine.syntaxError "undefined") := rfl

variable [LT ν] [DecidableLT ν]

/-- The value of the last entry of the player that is not refused. -/
def lastWritten (req : WriteRequest ν) (data : List (StorageData ν)) (playerId : String) :
    Option (StorageValue ν) :=
  (accepted lang req (valued StorageData.value data)).reverse.lookup playerId

/-- A value that is absent is read as null. -/
def intended : StorageValue ν → StorageValue ν
  | .undefined => .json .null
  | value => value

def playerRead (req : WriteRequest ν) (playerId : String) : ReadRequest :=
  ⟨req.toLocator, req.type, some [playerId], none, "", 0, 0⟩

/-- The value is read as it was meant: that of the player, or that in a page of the ranking. -/
def ReadsBack (s : σ) (req : WriteRequest ν) (storageKey playerId : String)
    (value : StorageValue ν) : Prop :=
  if req.type = .orderedNumber then
    ∃ response, doReadOrder lang commands s
      (rankingRead req ((commands.ranking s storageKey).length + 1)) = .ok response ∧
        ⟨playerId, intended value⟩ ∈ response.data
  else doReadPlayers lang commands s (playerRead req playerId) [playerId] =
    .ok ((playerRead req playerId).respond req.gameCode [⟨playerId, intended value⟩])

def Unchanged (s s' : σ) (req : WriteRequest ν) (storageKey playerId : String) : Prop :=
  if req.type = .orderedNumber then
    (commands.ranking s' storageKey).lookup playerId =
      (commands.ranking s storageKey).lookup playerId
  else commands.value s' (playerKey storageKey playerId) =
    commands.value s (playerKey storageKey playerId)

/-- A plain value is neither absent nor boolean, if it is to have a type of its own; a score is a
number of a player with whose member it divides, in a ranking without members of no player. -/
def Survives (s : σ) (req : WriteRequest ν) (data : List (StorageData ν))
    (storageKey playerId : String) (value : StorageValue ν) : Prop :=
  if req.type = .orderedNumber then
    (∃ x, value = .json (.number x) ∧ Divides lang (playerId, x)) ∧
      ∀ other x, ((lastWritten lang req data other).bind lang.number).or
        ((commands.ranking s storageKey).lookup other) = some x → parsedPlayer lang (other, x) ≠ ""
  else req.type = .general ∨ value ≠ .undefined ∧ ∀ b, value ≠ .json (.bool b)

variable {lang commands} {s s' : σ} {req : WriteRequest ν} {storageKey : String}

theorem convertValueType_written {playerId : String} {value : StorageValue ν}
    (plain : req.type ≠ .orderedNumber)
    (accepted : getGameExternalStorageWriteFailureInfo lang req value playerId = none) :
    convertValueType lang (some (written lang value)) req.type = intended value ↔
      (req.type = .general ∨ value ≠ .undefined ∧ ∀ b, value ≠ .json (.bool b)) := by
  have parsed (value : Json ν) := Json.parse_stringify lang.engine (some value)
  simp only [Option.map_some, Option.getD_some] at parsed
  cases type : req.type with
  | orderedNumber => exact absurd type plain
  | string =>
    cases value with
    | undefined => simp [written, convertValueType, intended]
    | notFinite => simp [getGameExternalStorageWriteFailureInfo, type, fails] at accepted
    | json value => cases value <;> simp [getGameExternalStorageWriteFailureInfo, type, written,
        fails, convertValueType, intended, lang.shown_text] at accepted ⊢
  | number =>
    cases value with
    | undefined =>
      simp only [written, convertValueType, intended]
      split <;> simp
    | notFinite => simp [getGameExternalStorageWriteFailureInfo, type, fails] at accepted
    | json value =>
      cases value with
      | bool b =>
        simp only [written, convertValueType, intended]
        split <;> simp
      | _ => simp [getGameExternalStorageWriteFailureInfo, type, written, fails,
          convertValueType, intended, lang.number_shown] at accepted ⊢
  | general =>
    cases value with
    | undefined => simp [written, convertValueType, intended, lang.shown_undefined, parse_undefined]
    | notFinite => simp [getGameExternalStorageWriteFailureInfo, type, fails] at accepted
    | json value =>
      cases value with
      | bool b =>
        have same : lang.shown (.json (.bool b)) = Json.stringify lang.engine (.bool b) := by
          rw [lang.shown_bool]
          cases b <;> rfl
        simp [written, convertValueType, intended, same, parsed]
      | _ => simp [getGameExternalStorageWriteFailureInfo, type, written, fails,
          convertValueType, intended, parsed] at accepted ⊢

theorem accepted_of_lastWritten {data : List (StorageData ν)} {playerId : String}
    {value : StorageValue ν} (last : lastWritten lang req data playerId = some value) :
    getGameExternalStorageWriteFailureInfo lang req value playerId = none := by
  rw [lastWritten, lookup_accepted, Option.map_eq_some_iff] at last
  obtain ⟨entry, last, rfl⟩ := last
  have there := mem_of_getLast? last
  simp only [mem_filter, Bool.and_eq_true, decide_eq_true_eq, Option.isNone_iff_eq_none]
    at there
  obtain ⟨_, rfl, kept⟩ := there
  exact kept

variable [Add ν] [Sub ν] [Zero ν] {data : List (StorageData ν)} {failed : List WriteFailureInfo}

theorem readsBack_ordered (overwrites : req.writeType = .overwrite)
    (created : req.createStorageKey = .ok storageKey) (ordered : req.type = .orderedNumber)
    (wrote : doWriteOrder lang commands s req data = .ok (failed, s')) {playerId : String}
    {value : StorageValue ν} (last : lastWritten lang req data playerId = some value) :
    ReadsBack lang commands s' req storageKey playerId value ↔
      Survives lang commands s req data storageKey playerId value := by
  have final (other : String) (x : ν) : (other, x) ∈ commands.ranking s' storageKey ↔
      ((lastWritten lang req data other).bind lang.number).or
        ((commands.ranking s storageKey).lookup other) = some x := by
    rw [← lookup_eq_some_iff_mem (commands.nodup s' storageKey), lastWritten,
      doWriteOrder_lookup lang commands created wrote,
        orderValue_overwrite lang commands overwrites]
  rw [ReadsBack, Survives, if_pos ordered, if_pos ordered]
  simp only [← final,
    doReadOrder_ranking lang commands (req.getGameCode_of_created created) created ordered]
  constructor
  · rintro ⟨_, ⟨given, rfl⟩, there⟩
    obtain ⟨member, there, same⟩ := mem_map.mp there
    refine ⟨?_, fun other x there => given _ there⟩
    have divides := divides_parsedPlayer lang member
    cases value with
    | json value =>
      cases same
      exact ⟨member.2, rfl, divides⟩
    | _ => cases same
  · rintro ⟨⟨x, rfl, divides⟩, given⟩
    refine ⟨_, ⟨fun member there => given member.1 member.2 there, rfl⟩, mem_map.mpr ?_⟩
    refine ⟨(playerId, x), (final playerId x).mpr ?_, ?_⟩
    · rw [last, Option.bind_some, lang.number_number, Option.some_or]
    · rw [(parsedPlayer_eq_iff lang (playerId, x)).mpr divides]
      rfl

/-- What a request writes is read back, and what it refuses leaves everything as it was, exactly if
the last value of each player that is not refused survives its declared type. -/
theorem readsBack_iff (overwrites : req.writeType = .overwrite)
    (created : req.createStorageKey = .ok storageKey) (given : req.data = some data)
    (wrote : doWrite lang commands s req = .ok (failed, s')) :
    (∀ playerId, (∀ value, lastWritten lang req data playerId = some value →
        ReadsBack lang commands s' req storageKey playerId value) ∧
      (lastWritten lang req data playerId = none →
        Unchanged commands s s' req storageKey playerId)) ↔
    ∀ playerId value, lastWritten lang req data playerId = some value →
      Survives lang commands s req data storageKey playerId value := by
  have wrote := doWrite_eq_ok lang commands given wrote
  have reads (playerId : String) (value : StorageValue ν)
      (last : lastWritten lang req data playerId = some value) :
      ReadsBack lang commands s' req storageKey playerId value ↔
        Survives lang commands s req data storageKey playerId value := by
    split_ifs at wrote with ordered
    · exact readsBack_ordered overwrites created ordered wrote last
    · rw [ReadsBack, Survives, if_neg ordered, if_neg ordered,
        ← convertValueType_written ordered (accepted_of_lastWritten last), doReadPlayers]
      have stored := doWritePlayers_value lang commands created wrote playerId
      rw [playerValue_overwrite lang commands overwrites] at stored
      rw [lastWritten] at last
      rw [last, Option.map_some, Option.some_or] at stored
      simp [playerRead, req.getGameCode_of_created created, created, stored, bind, Except.bind, pure,
        Except.pure, ReadRequest.respond]
  refine ⟨fun both playerId value last => (reads _ _ last).mp ((both playerId).1 value last),
    fun survive playerId => ⟨fun value last => (reads _ _ last).mpr (survive _ _ last),
      fun last => ?_⟩⟩
  rw [lastWritten] at last
  rw [Unchanged]
  split_ifs at wrote ⊢
  · rw [doWriteOrder_lookup lang commands created wrote,
      orderValue_overwrite lang commands overwrites, last]
    rfl
  · rw [doWritePlayers_value lang commands created wrote,
      playerValue_overwrite lang commands overwrites, last]
    rfl

def absentWrite : WriteRequest Int :=
  ⟨⟨"game", "", "", "key"⟩, .string, .overwrite, none, none, some [⟨"a", .undefined⟩]⟩

def absentWritten : List (String × String) := [("\x7bgame\x7d:global:key:a", "undefined")]

theorem absentWrite_wrote :
    doWrite integers unranked [] absentWrite = .ok ([], absentWritten) := rfl

/-- A value that is absent is a text when it is read. -/
theorem absentWrite_read : ¬ ∀ playerId,
    (∀ value, lastWritten integers absentWrite [⟨"a", .undefined⟩] playerId = some value →
        ReadsBack integers unranked absentWritten absentWrite "\x7bgame\x7d:global:key" playerId
          value) ∧
      (lastWritten integers absentWrite [⟨"a", .undefined⟩] playerId = none →
        Unchanged unranked [] absentWritten absentWrite "\x7bgame\x7d:global:key" playerId) := by
  intro both
  have read := (both "a").1 .undefined rfl
  rw [ReadsBack, if_neg (by decide)] at read
  cases read

theorem readsBack_iff_absentWrite : (∀ playerId,
    (∀ value, lastWritten integers absentWrite [⟨"a", .undefined⟩] playerId = some value →
        ReadsBack integers unranked absentWritten absentWrite "\x7bgame\x7d:global:key" playerId
          value) ∧
      (lastWritten integers absentWrite [⟨"a", .undefined⟩] playerId = none →
        Unchanged unranked [] absentWritten absentWrite "\x7bgame\x7d:global:key" playerId)) ↔
    ∀ playerId value,
      lastWritten integers absentWrite [⟨"a", .undefined⟩] playerId = some value →
        Survives integers unranked [] absentWrite [⟨"a", .undefined⟩] "\x7bgame\x7d:global:key"
          playerId value :=
  readsBack_iff rfl rfl rfl absentWrite_wrote

end AkashicSystem.StorageCore
