import AkashicSystem.Lib.Joined
import AkashicSystem.StorageCore.GameExternalStorage

/-!
# The keys of the storage

Player values and rankings are entries of one key space, under texts that are joined with
colons.  The texts of two locations may have the colons in other places.
-/

set_option autoImplicit false

namespace AkashicSystem.StorageCore

open List

inductive Scope where
  | global
  | play (playId : String)
deriving DecidableEq

/-- Where a player's value is stored, or a ranking, which has no player. -/
structure Location where
  gameCode : String
  scope : Scope
  key : String
  playerId : Option String
deriving DecidableEq

namespace Location

def scopeText (location : Location) : String :=
  match location.scope with
  | .global => "global"
  | .play playId => playId

def parts (location : Location) : List (List Char) :=
  ['\x7b' :: (location.gameCode.toList ++ ['\x7d']), location.scopeText.toList,
    location.key.toList] ++ location.playerId.toList.map String.toList

theorem eq_of_parts {location other : Location} (same : location.parts = other.parts)
    (scope : location.scope = other.scope) : location = other := by
  obtain ⟨game, _, key, playerId⟩ := location
  obtain ⟨game', _, key', playerId'⟩ := other
  simp only [parts, cons_append, nil_append, cons.injEq, true_and] at same
  obtain ⟨sameGame, _, sameKey, samePlayer⟩ := same
  have player : playerId = playerId' := by
    cases playerId <;> cases playerId' <;> simp_all [String.toList_inj]
  obtain rfl := scope
  rw [String.toList_injective (append_cancel_right sameGame),
    String.toList_injective sameKey, player]

end Location

/-- A location, with the text under which it is stored. -/
abbrev Entry := Location × String

namespace Locator

variable (req : Locator)

def location (playerId : Option String) : Location :=
  ⟨req.gameCode, if req.getPlayScope = "global" then .global else .play req.playId, req.key,
    playerId⟩

/-- The entries of the players, or that of the ranking. -/
def entries (playerIds : Option (List String)) : Except String (List Entry) := do
  discard req.getGameCode
  let storageKey ← req.createStorageKey
  return match playerIds with
  | some playerIds => playerIds.map fun playerId =>
      (req.location (some playerId), playerKey storageKey playerId)
  | none => [(req.location none, storageKey)]

theorem toList_createStorageKey {storageKey : String}
    (created : req.createStorageKey = .ok storageKey) :
    storageKey.toList = [':'].intercalate (req.location none).parts := by
  rw [createStorageKey] at created
  split at created
  · cases created
  · next scopeKey converted =>
    have scope : (req.location none).scopeText = scopeKey := by
      rw [convertPlayScopeToKey] at converted
      split_ifs at converted with global given <;>
        simpa [location, Location.scopeText, global] using converted
    rw [createStorageKeyPrefix, getGameCode] at created
    split_ifs at created <;> cases created
    rw [Location.parts, scope]
    simp [location]

theorem toList_entries {playerIds : Option (List String)} {entries : List Entry}
    (accepted : req.entries playerIds = .ok entries) {entry : Entry} (there : entry ∈ entries) :
    entry.2.toList = [':'].intercalate entry.1.parts := by
  rw [Locator.entries] at accepted
  cases game : req.getGameCode with
  | error => rw [game] at accepted; cases accepted
  | ok =>
    cases created : req.createStorageKey with
    | error => rw [game, created] at accepted; cases accepted
    | ok storageKey =>
      have text := req.toList_createStorageKey created
      rw [game, created] at accepted
      cases accepted
      cases playerIds with
      | none =>
        rw [mem_singleton.mp there]
        exact text
      | some playerIds =>
        obtain ⟨playerId, _, rfl⟩ := mem_map.mp there
        rw [playerKey, String.toList_append, String.toList_append, text]
        simp [Location.parts, location, Location.scopeText]

end Locator

inductive Request (ν : Type) where
  | read (req : ReadRequest)
  | write (req : WriteRequest ν)

variable {ν : Type}

/-- What a request accesses, if it is accepted. -/
def Request.entries : Request ν → Except String (List Entry)
  | .read req =>
    if req.checkReadRequestParameter then req.entries req.playerIds
    else throw "invalid read storage parameter."
  | .write req =>
    if req.checkWriteRequestParameter then
      req.entries (if req.type = .orderedNumber then none
        else some ((req.data.getD []).map StorageData.playerId))
    else throw "invalid write storage parameter."

theorem Request.toList_entries {request : Request ν} {entries : List Entry}
    (accepted : request.entries = .ok entries) {entry : Entry} (there : entry ∈ entries) :
    entry.2.toList = [':'].intercalate entry.1.parts := by
  cases request with
  | read req =>
    rw [Request.entries] at accepted
    split_ifs at accepted
    exact req.toList_entries accepted there
  | write req =>
    rw [Request.entries] at accepted
    split_ifs at accepted <;> exact req.toList_entries accepted there

/-- The texts differ, and what is written under the one is not read under the other. -/
def Isolated (text text' : String) : Prop :=
  text ≠ text' ∧ ∀ (β : Type) (store : String → β) (written : β),
    Function.update store text written text' = store text'

/-- Two locations that requests access are isolated from each other unless the colons in their
parts divide the same segments in another way, or one is of a play that is called `global`. -/
theorem isolated_iff_divided (request request' : Request ν) {entries entries' : List Entry}
    (accepted : request.entries = .ok entries) (accepted' : request'.entries = .ok entries') :
    ∀ entry ∈ entries, ∀ entry' ∈ entries', (entry.1 ≠ entry'.1 → Isolated entry.2 entry'.2) ↔
      ¬ (Joined.segments ':' entry.1.parts = Joined.segments ':' entry'.1.parts ∧
        (Joined.counts ':' entry.1.parts ≠ Joined.counts ':' entry'.1.parts ∨
          entry.1.scope ≠ entry'.1.scope)) := by
  intro entry there entry' there'
  have texts : entry.2 = entry'.2 ↔
      Joined.segments ':' entry.1.parts = Joined.segments ':' entry'.1.parts := by
    rw [← String.toList_inj, Request.toList_entries accepted there,
      Request.toList_entries accepted' there']
    exact Joined.intercalate_eq_iff ':' _ _ (by simp [Location.parts]) (by simp [Location.parts])
  constructor
  · rintro isolated ⟨same, differ⟩
    refine (isolated fun eq => ?_).1 (texts.mpr same)
    rw [eq] at differ
    simp at differ
  · intro undivided differ
    have apart : entry.2 ≠ entry'.2 := by
      intro same
      refine undivided ⟨texts.mp same, ?_⟩
      by_contra alike
      push Not at alike
      exact differ (Location.eq_of_parts (Joined.eq_of_segments ':' _ _ (texts.mp same) alike.1)
        alike.2)
    exact ⟨apart, fun _ store written => Function.update_of_ne apart.symm written store⟩

def rankingRequest : Request Nat :=
  .write ⟨⟨"game", "", "", "a:b"⟩, .orderedNumber, .overwrite, none, none, some []⟩

def playerRequest : Request Nat :=
    .read ⟨⟨"game", "", "", "a"⟩, .number, some ["b"], none, "", 0, 0⟩

/-- A ranking and the value of a player are stored under one text. -/
theorem rankingRequest_shared : ¬ ∀ (request request' : Request Nat) (entries entries' : List Entry),
    request.entries = .ok entries → request'.entries = .ok entries' →
    ∀ entry ∈ entries, ∀ entry' ∈ entries',
      entry.1 ≠ entry'.1 → Isolated entry.2 entry'.2 := by
  intro claimed
  have shared := claimed rankingRequest playerRequest
    [(⟨"game", .global, "a:b", none⟩, "\x7bgame\x7d:global:a:b")]
    [(⟨"game", .global, "a", some "b"⟩, "\x7bgame\x7d:global:a:b")] rfl rfl
    _ mem_cons_self _ mem_cons_self (by decide)
  exact shared.1 rfl

theorem isolated_iff_divided_playerRequest :
    let a : Entry := (⟨"game", .global, "a:b", none⟩, "\x7bgame\x7d:global:a:b")
    let b : Entry := (⟨"game", .global, "a", some "b"⟩, "\x7bgame\x7d:global:a:b")
    (a.1 ≠ b.1 → Isolated a.2 b.2) ↔
      ¬ (Joined.segments ':' a.1.parts = Joined.segments ':' b.1.parts ∧
        (Joined.counts ':' a.1.parts ≠ Joined.counts ':' b.1.parts ∨ a.1.scope ≠ b.1.scope)) :=
  isolated_iff_divided rankingRequest playerRequest rfl rfl _ mem_cons_self _ mem_cons_self

end AkashicSystem.StorageCore
