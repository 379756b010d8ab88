import AkashicSystem.Js.PlainObject
import AkashicSystem.Lib.Run
import Mathlib.Logic.Function.Basic

/-!
# The session table of the engine server

`Server` of playlog-server-engine, with `Session` as far as it is established and
closed: a session waits until it is established, and is then found by its uid
when its client connects again.
-/

set_option autoImplicit false

namespace AkashicSystem.PlaylogServer
namespace EngineServer

open Function (update update_of_ne update_self)
open Js (objectPrototype)
open List

/-- What `uuid.v4` returns. -/
structure Uuid where
  text : String
  length : text.length = 36

inductive Reached where
  | session (session : Nat) (live : Bool)
  /-- An inherited property, whose `socket` is undefined: attaching throws. -/
  | inherited

structure Server where
  created : Nat
  id : Nat → Option String
  /-- The session has not emitted `close`; after that it has no listeners. -/
  live : Nat → Bool
  sessions : String → Option Nat
  waitingSessions : List Nat
  /-- The sessions of the `session` events. -/
  emitted : List Nat
  /-- What the connections with a uid were attached to, in order. -/
  reached : List Reached
  /-- What `uuid.v4` has returned. -/
  issued : List String

def new : Server := ⟨0, fun _ => none, fun _ => false, fun _ => none, [], [], [], []⟩

/-- `_sessions[uid]`. -/
inductive Property where
  | own (session : Nat)
  | inherited
  | absent

namespace Server

variable (sv : Server)

def property (uid : String) : Property :=
  match sv.sessions uid with
  | some session => .own session
  | none => if uid ∈ objectPrototype then .inherited else .absent

def attachRawSocket (uid : String) : Server :=
  match sv.property uid with
  | .own session =>
    { sv with reached := sv.reached ++ [Reached.session session (sv.live session)] }
  | .inherited => { sv with reached := sv.reached ++ [Reached.inherited] }
  | .absent => sv

def prepareSession : Server :=
  { sv with
    created := sv.created + 1
    id := update sv.id sv.created none
    live := update sv.live sv.created true
    waitingSessions := sv.waitingSessions ++ [sv.created] }

/-- `_onConnection`; `uid` is what `parseUid` returns. -/
def onConnection (uid : Option String) : Server :=
  match uid with
  | none => sv.prepareSession
  | some uid => if uid = "" then sv.prepareSession else sv.attachRawSocket uid

/-- The listener for `close` of a session; a session without an id has the key `null`. -/
def onClose (session : Nat) : Server :=
  if sv.live session = true then
    { sv with
      live := update sv.live session false
      sessions := update sv.sessions ((sv.id session).getD "null") none
      waitingSessions := sv.waitingSessions.erase session }
  else sv

/-- The callback of `handleEstablishRequest`, after the session has left the waiting list. -/
def identify (session : Nat) (uid : Uuid) : Server :=
  { sv with
    id := update sv.id session (some uid.text)
    waitingSessions := sv.waitingSessions.filter fun waiting => waiting ≠ session
    issued := sv.issued ++ [uid.text] }

/-- The listener for `establish-request`.  Where `res.end` throws, the socket of the session
fails and the session closes. -/
def onEstablishRequest (session : Nat) (uid : Uuid) (ends : Bool) : Server :=
  if sv.live session = true then
    let sv' := sv.identify session uid
    if ends then
      { sv' with
        sessions := update sv'.sessions uid.text (some session)
        emitted := sv'.emitted ++ [session] }
    else sv'.onClose session
  else sv

end Server

inductive Action where
  | connect (uid : Option String)
  | establish (session : Nat) (uid : Uuid) (ends : Bool)
  | close (session : Nat)

variable (sv : Server)

def next : Action → Server
  | .connect uid => sv.onConnection uid
  | .establish session uid ends => sv.onEstablishRequest session uid ends
  | .close session => sv.onClose session

def Fresh : Action → Prop
  | .establish session uid _ => sv.live session = true → uid.text ∉ sv.issued
  | _ => True

structure Consistent (sv : Server) : Prop where
  table : ∀ uid session, sv.sessions uid = some session ↔
    sv.live session = true ∧ sv.id session = some uid
  placed : ∀ session, sv.live session = true →
    (session ∈ sv.waitingSessions ↔ ∀ uid, sv.sessions uid ≠ some session)
  once : sv.emitted.Nodup
  announced : ∀ session, sv.live session = true → sv.id session ≠ none → session ∈ sv.emitted
  reaches : ∀ reached ∈ sv.reached, ∃ session, reached = .session session true

/-- A session is established once, and no uid is the name of an inherited property. -/
def Orderly : Action → Prop
  | .connect uid => ∀ text, uid = some text → text ∉ objectPrototype
  | .establish session _ _ => sv.live session = true → sv.id session = none
  | .close _ => True

theorem update_cases {α : Type} [DecidableEq α] {β : Type} {f : α → β} {a a' : α} {b b' : β}
    (eq : update f a b a' = b') : (a' = a ∧ b = b') ∨ (a' ≠ a ∧ f a' = b') := by
  by_cases same : a' = a
  · subst same
    rw [update_self] at eq
    exact Or.inl ⟨rfl, eq⟩
  · rw [update_of_ne same] at eq
    exact Or.inr ⟨same, eq⟩

structure Inv (sv : Server) : Prop where
  made : ∀ session, sv.live session = true → session < sv.created
  emittedMade : ∀ session ∈ sv.emitted, session < sv.created
  waiting : ∀ session ∈ sv.waitingSessions, sv.live session = true ∧ sv.id session = none
  nodup : sv.waitingSessions.Nodup
  unestablished : ∀ session, sv.live session = true → sv.id session = none →
    session ∈ sv.waitingSessions ∧ session ∉ sv.emitted ∧ ∀ uid, sv.sessions uid ≠ some session
  keys : ∀ uid session, sv.sessions uid = some session →
    uid ∈ sv.issued ∧ session < sv.created
  ids : ∀ session uid, sv.id session = some uid → uid ∈ sv.issued
  issued : ∀ uid ∈ sv.issued, uid.length = 36

namespace Inv

theorem new : Inv EngineServer.new where
  made session live := by cases live
  emittedMade session there := (not_mem_nil there).elim
  waiting session there := (not_mem_nil there).elim
  nodup := nodup_nil
  unestablished session live := by cases live
  keys uid session there := by cases there
  ids session uid there := by cases there
  issued uid there := (not_mem_nil there).elim

variable {sv : Server}

section

variable (inv : Inv sv)
include inv

theorem not_issued (text : String) (short : text.length ≠ 36) : text ∉ sv.issued :=
  fun there => short (inv.issued text there)

/-- No session has an inherited name, and none has the key of a session without an id. -/
theorem sessions_of_not_issued (text : String) (absent : text ∉ sv.issued) :
    sv.sessions text = none := by
  cases found : sv.sessions text with
  | none => rfl
  | some session => exact absurd (inv.keys text session found).1 absent

theorem prepareSession : Inv sv.prepareSession := by
  have other : ∀ session ∈ sv.waitingSessions, session ≠ sv.created := by
    intro session there
    exact Nat.ne_of_lt (inv.made session (inv.waiting session there).1)
  constructor
  · intro session live
    by_cases same : session = sv.created
    · rw [same]
      exact Nat.lt_succ_self _
    · simp only [Server.prepareSession, update_of_ne same] at live
      exact Nat.lt_succ_of_lt (inv.made session live)
  · intro session there
    exact Nat.lt_succ_of_lt (inv.emittedMade session there)
  · intro session there
    simp only [Server.prepareSession]
    rcases mem_append.mp there with there | there
    · rw [update_of_ne (other session there), update_of_ne (other session there)]
      exact inv.waiting session there
    · rw [mem_singleton.mp there, update_self, update_self]
      exact ⟨rfl, rfl⟩
  · refine nodup_append'.mpr ⟨inv.nodup, nodup_singleton _, ?_⟩
    exact disjoint_singleton.mpr fun there => other _ there rfl
  · intro session live none
    by_cases same : session = sv.created
    · subst same
      refine ⟨mem_append_right _ (mem_singleton_self _), ?_, ?_⟩
      · exact fun there => Nat.lt_irrefl _ (inv.emittedMade _ there)
      · exact fun uid there => Nat.lt_irrefl _ (inv.keys uid _ there).2
    · simp only [Server.prepareSession, update_of_ne same] at live none
      obtain ⟨waits, notEmitted, notFound⟩ := inv.unestablished session live none
      exact ⟨mem_append_left _ waits, notEmitted, notFound⟩
  · intro uid session there
    obtain ⟨issued, made⟩ := inv.keys uid session there
    exact ⟨issued, Nat.lt_succ_of_lt made⟩
  · intro session uid there
    rcases update_cases there with ⟨-, eq⟩ | ⟨-, there⟩
    · cases eq
    · exact inv.ids session uid there
  · exact inv.issued

theorem attachRawSocket (uid : String) : Inv (sv.attachRawSocket uid) := by
  rw [Server.attachRawSocket]
  split
  · exact { inv with }
  · exact { inv with }
  · exact inv

theorem onConnection (uid : Option String) : Inv (sv.onConnection uid) := by
  cases uid with
  | none => exact inv.prepareSession
  | some uid =>
    rw [Server.onConnection]
    split
    · exact inv.prepareSession
    · exact inv.attachRawSocket uid

theorem onClose (session : Nat) : Inv (sv.onClose session) := by
  rw [Server.onClose]
  split
  · have lives : ∀ other, update sv.live session false other = true →
        other ≠ session ∧ sv.live other = true := by
      intro other live
      rcases update_cases live with ⟨-, off⟩ | kept
      · cases off
      · exact kept
    have kept : ∀ uid other,
        update sv.sessions ((sv.id session).getD "null") none uid = some other →
        sv.sessions uid = some other := by
      intro uid other found
      rcases update_cases found with ⟨-, gone⟩ | ⟨-, kept⟩
      · cases gone
      · exact kept
    constructor
    · exact fun other live => inv.made other (lives other live).2
    · exact inv.emittedMade
    · intro other there
      obtain ⟨live, none⟩ := inv.waiting other (mem_of_mem_erase there)
      refine ⟨?_, none⟩
      have different : other ≠ session := by
        rintro rfl
        exact inv.nodup.not_mem_erase there
      show update sv.live session false other = true
      rw [update_of_ne different]
      exact live
    · exact inv.nodup.erase session
    · intro other live none
      obtain ⟨different, lived⟩ := lives other live
      obtain ⟨waits, notEmitted, notFound⟩ := inv.unestablished other lived none
      refine ⟨(mem_erase_of_ne different).mpr waits, notEmitted, ?_⟩
      exact fun uid found => notFound uid (kept uid other found)
    · exact fun uid other found => inv.keys uid other (kept uid other found)
    · exact inv.ids
    · exact inv.issued
  · exact inv

theorem identify (session : Nat) (uid : Uuid) : Inv (sv.identify session uid) := by
  have others : ∀ other, update sv.id session (some uid.text) other = none →
      other ≠ session ∧ sv.id other = none := by
    intro other none
    rcases update_cases none with ⟨-, eq⟩ | kept
    · cases eq
    · exact kept
  constructor
  · exact inv.made
  · exact inv.emittedMade
  · intro other there
    obtain ⟨waits, different⟩ := mem_filter.mp there
    obtain ⟨live, none⟩ := inv.waiting other waits
    refine ⟨live, ?_⟩
    show update sv.id session (some uid.text) other = Option.none
    rw [update_of_ne (of_decide_eq_true different)]
    exact none
  · exact inv.nodup.filter _
  · intro other live none
    obtain ⟨different, none⟩ := others other none
    obtain ⟨waits, rest⟩ := inv.unestablished other live none
    exact ⟨mem_filter.mpr ⟨waits, decide_eq_true different⟩, rest⟩
  · intro uid' other found
    obtain ⟨issued, made⟩ := inv.keys uid' other found
    exact ⟨mem_append_left _ issued, made⟩
  · intro other uid' own
    rcases update_cases own with ⟨-, eq⟩ | ⟨-, own⟩
    · cases eq
      exact mem_append_right _ (mem_singleton_self _)
    · exact mem_append_left _ (inv.ids other uid' own)
  · intro uid' there
    rcases mem_append.mp there with there | there
    · exact inv.issued uid' there
    · rw [mem_singleton.mp there]
      exact uid.length

theorem onEstablishRequest (session : Nat) (uid : Uuid) (ends : Bool) :
    Inv (sv.onEstablishRequest session uid ends) := by
  rw [Server.onEstablishRequest]
  split
  case isTrue live =>
    have inv' := inv.identify session uid
    dsimp only
    split
    · have lives : session < sv.created := inv.made session live
      refine { inv' with emittedMade := ?_, unestablished := ?_, keys := ?_ }
      · intro other there
        rcases mem_append.mp there with there | there
        · exact inv.emittedMade other there
        · rw [mem_singleton.mp there]
          exact lives
      · intro other live' none
        have different : other ≠ session := by
          rintro rfl
          simp only [Server.identify, update_self] at none
          cases none
        obtain ⟨waits, notEmitted, notFound⟩ := inv'.unestablished other live' none
        refine ⟨waits, ?_, ?_⟩
        · intro there
          rcases mem_append.mp there with there | there
          · exact notEmitted there
          · exact different (mem_singleton.mp there)
        · intro uid' found
          rcases update_cases found with ⟨-, eq⟩ | ⟨-, found⟩
          · exact different (Option.some.inj eq).symm
          · exact notFound uid' found
      · intro uid' other found
        rcases update_cases found with ⟨rfl, eq⟩ | ⟨-, found⟩
        · cases eq
          exact ⟨mem_append_right _ (mem_singleton_self _), lives⟩
        · exact inv'.keys uid' other found
    · exact inv'.onClose session
  · exact inv

theorem next (action : Action) : Inv (next sv action) := by
  cases action with
  | connect uid => exact inv.onConnection uid
  | establish session uid ends => exact inv.onEstablishRequest session uid ends
  | close session => exact inv.onClose session

end

end Inv

section Steps

variable {sv : Server}

section

variable (inv : Inv sv)
include inv

section

variable (good : Consistent sv)

include good

theorem consistent_prepareSession : Consistent sv.prepareSession := by
  have absent : ∀ uid, sv.sessions uid ≠ some sv.created :=
    fun uid found => Nat.lt_irrefl _ (inv.keys uid _ found).2
  constructor
  · intro uid session
    by_cases same : session = sv.created
    · subst same
      simp only [Server.prepareSession, update_self]
      constructor
      · exact fun found => absurd found (absent uid)
      · rintro ⟨-, none⟩
        cases none
    · simp only [Server.prepareSession, update_of_ne same]
      exact good.table uid session
  · intro session live
    by_cases same : session = sv.created
    · subst same
      refine ⟨fun _ => absent, fun _ => ?_⟩
      exact mem_append_right _ (mem_singleton_self _)
    · simp only [Server.prepareSession, update_of_ne same] at live
      rw [show (sv.prepareSession.sessions) = sv.sessions from rfl, ← good.placed session live]
      simp only [Server.prepareSession, mem_append, mem_singleton, same, or_false]
  · exact good.once
  · intro session live known
    by_cases same : session = sv.created
    · subst same
      simp only [Server.prepareSession, update_self] at known
      exact absurd rfl known
    · simp only [Server.prepareSession, update_of_ne same] at live known
      exact good.announced session live known
  · exact good.reaches

theorem consistent_attachRawSocket_iff (uid : String) :
    Consistent (sv.attachRawSocket uid) ↔ uid ∉ objectPrototype := by
  have reaches (reached : Reached) : Consistent { sv with reached := sv.reached ++ [reached] } ↔
      ∃ session, reached = .session session true := by
    constructor
    · exact fun good' => good'.reaches reached (mem_append_right _ (mem_singleton_self _))
    · intro live
      refine { good with reaches := ?_ }
      intro reached' there
      rcases mem_append.mp there with there | there
      · exact good.reaches reached' there
      · rw [mem_singleton.mp there]
        exact live
  rw [Server.attachRawSocket, Server.property]
  cases found : sv.sessions uid with
  | some session =>
    have live := ((good.table uid session).mp found).1
    have plain : uid ∉ objectPrototype := by
      intro there
      have long := inv.issued uid (inv.keys uid session found).1
      revert long
      have short : ∀ name ∈ objectPrototype, name.length ≠ 36 := by decide
      exact short uid there
    dsimp only
    rw [reaches, live]
    exact ⟨fun _ => plain, fun _ => ⟨session, rfl⟩⟩
  | none =>
    dsimp only
    split_ifs with there
    · refine ⟨fun good' => ?_, fun plain => absurd there plain⟩
      obtain ⟨session, eq⟩ := (reaches .inherited).mp good'
      cases eq
    · exact ⟨fun _ => there, fun _ => good⟩

theorem consistent_onConnection_iff (uid : Option String) :
    Consistent (sv.onConnection uid) ↔ ∀ text, uid = some text → text ∉ objectPrototype := by
  cases uid with
  | none =>
    refine ⟨fun _ text eq => ?_, fun _ => consistent_prepareSession inv good⟩
    cases eq
  | some uid =>
    rw [Server.onConnection]
    split_ifs with empty
    · refine ⟨fun _ text eq => ?_, fun _ => consistent_prepareSession inv good⟩
      cases eq
      rw [empty]
      decide
    · rw [consistent_attachRawSocket_iff inv good]
      constructor
      · intro plain text eq
        cases eq
        exact plain
      · exact fun all => all uid rfl

theorem consistent_onClose (session : Nat) :
    Consistent (sv.onClose session) := by
  rw [Server.onClose]
  split
  case isFalse => exact good
  case isTrue live =>
    have free : sv.sessions "null" = none :=
      inv.sessions_of_not_issued "null" (inv.not_issued "null" (by decide))
    have key : ∀ other, sv.sessions ((sv.id session).getD "null") = some other →
        other = session := by
      intro other found
      cases own : sv.id session with
      | none =>
        rw [own, Option.getD_none, free] at found
        cases found
      | some uid =>
        rw [own, Option.getD_some] at found
        have mine := (good.table uid session).mpr ⟨live, own⟩
        rw [mine] at found
        exact (Option.some.inj found).symm
    have kept : ∀ uid other, other ≠ session →
        (update sv.sessions ((sv.id session).getD "null") none uid = some other ↔
          sv.sessions uid = some other) := by
      intro uid other different
      by_cases same : uid = (sv.id session).getD "null"
      · subst same
        rw [update_self]
        refine ⟨fun none => ?_, fun found => absurd (key other found) different⟩
        cases none
      · rw [update_of_ne same]
    constructor
    · intro uid other
      by_cases same : other = session
      · subst same
        constructor
        · intro found
          rcases update_cases found with ⟨-, none⟩ | ⟨notKey, found⟩
          · cases none
          · have own := ((good.table uid other).mp found).2
            rw [own, Option.getD_some] at notKey
            exact absurd rfl notKey
        · rintro ⟨off, -⟩
          simp only [update_self] at off
          cases off
      · simp only [update_of_ne same]
        exact (kept uid other same).trans (good.table uid other)
    · intro other live'
      rcases update_cases live' with ⟨-, off⟩ | ⟨different, live'⟩
      · cases off
      · rw [mem_erase_of_ne different, good.placed other live']
        exact forall_congr' fun uid => not_congr (kept uid other different).symm
    · exact good.once
    · intro other live' known
      rcases update_cases live' with ⟨-, off⟩ | ⟨-, live'⟩
      · cases off
      · exact good.announced other live' known
    · exact good.reaches

theorem consistent_establish {session : Nat} {uid : Uuid}
    (live : sv.live session = true) (first : sv.id session = none) (fresh : uid.text ∉ sv.issued) :
    Consistent (sv.onEstablishRequest session uid true) := by
  obtain ⟨waits, notEmitted, notFound⟩ := inv.unestablished session live first
  have free := inv.sessions_of_not_issued uid.text fresh
  rw [Server.onEstablishRequest, if_pos live]
  dsimp only [Server.identify]
  rw [if_pos rfl]
  constructor
  · intro uid' other
    by_cases key : uid' = uid.text
    · subst key
      simp only [update_self]
      constructor
      · intro eq
        cases eq
        exact ⟨live, update_self ..⟩
      · rintro ⟨-, own⟩
        rcases update_cases own with ⟨rfl, -⟩ | ⟨-, own⟩
        · rfl
        · exact absurd (inv.ids other _ own) fresh
    · simp only [update_of_ne key]
      rw [good.table uid' other]
      by_cases same : other = session
      · subst same
        rw [update_self, first]
        constructor
        · rintro ⟨-, none⟩
          cases none
        · rintro ⟨-, eq⟩
          exact absurd (Option.some.inj eq).symm key
      · rw [update_of_ne same]
  · intro other live'
    by_cases same : other = session
    · subst same
      constructor
      · intro there
        have different := of_decide_eq_true (mem_filter.mp there).2
        exact absurd rfl different
      · exact fun none => absurd (update_self ..) (none uid.text)
    · have placed := good.placed other live'
      rw [mem_filter, decide_eq_true_eq, and_iff_left same, placed]
      apply forall_congr'
      intro uid'
      by_cases key : uid' = uid.text
      · subst key
        simp only [update_self, free, ne_eq, Option.some.injEq, reduceCtorEq,
          not_false_eq_true, true_iff]
        exact fun eq => same eq.symm
      · simp only [update_of_ne key]
  · refine nodup_append'.mpr ⟨good.once, nodup_singleton _, ?_⟩
    exact disjoint_singleton.mpr notEmitted
  · intro other live' known
    by_cases same : other = session
    · rw [same]
      exact mem_append_right _ (mem_singleton_self _)
    · simp only [update_of_ne same] at known
      exact mem_append_left _ (good.announced other live' known)
  · exact good.reaches

/-- A session whose answer cannot be sent is closed, and has not come into the table. -/
theorem consistent_establish_failed {session : Nat}
    {uid : Uuid} (live : sv.live session = true) (first : sv.id session = none)
    (fresh : uid.text ∉ sv.issued) : Consistent (sv.onEstablishRequest session uid false) := by
  have free := inv.sessions_of_not_issued uid.text fresh
  have same : update sv.sessions uid.text none = sv.sessions := by
    rw [← free]
    exact Function.update_eq_self _ _
  have lived : (sv.identify session uid).live session = true := live
  rw [Server.onEstablishRequest, if_pos live]
  dsimp only
  rw [if_neg Bool.false_ne_true, Server.onClose, if_pos lived]
  dsimp only [Server.identify]
  rw [update_self, Option.getD_some, same]
  constructor
  · intro uid' other
    rw [good.table uid' other]
    by_cases eq : other = session
    · subst eq
      simp only [first, update_self]
      constructor
      · rintro ⟨-, none⟩
        cases none
      · rintro ⟨off, -⟩
        cases off
    · simp only [update_of_ne eq]
  · intro other live'
    rcases update_cases live' with ⟨-, off⟩ | ⟨different, live'⟩
    · cases off
    · rw [mem_erase_of_ne different, mem_filter, decide_eq_true_eq,
        and_iff_left different]
      exact good.placed other live'
  · exact good.once
  · intro other live' known
    rcases update_cases live' with ⟨-, off⟩ | ⟨different, live'⟩
    · cases off
    · simp only [update_of_ne different] at known
      exact good.announced other live' known
  · exact good.reaches

/-- A session that is established again leaves its former uid in the table. -/
theorem not_consistent_establish_again {session : Nat}
    {uid : Uuid} {former : String} (live : sv.live session = true)
    (known : sv.id session = some former) (fresh : uid.text ∉ sv.issued) (ends : Bool) :
    ¬ Consistent (sv.onEstablishRequest session uid ends) := by
  intro good'
  have found := (good.table former session).mpr ⟨live, known⟩
  have different : former ≠ uid.text := by
    rintro rfl
    exact fresh (inv.ids session _ known)
  have lived : (sv.identify session uid).live session = true := live
  have identified : (sv.identify session uid).id session = some uid.text := update_self ..
  rw [Server.onEstablishRequest, if_pos live] at good'
  dsimp only at good'
  cases ends with
  | true =>
    rw [if_pos rfl] at good'
    have still := (good'.table former session).mp ?_
    · have eq := still.2
      rw [identified] at eq
      exact different (Option.some.inj eq).symm
    · exact (update_of_ne different _ _).trans found
  | false =>
    rw [if_neg Bool.false_ne_true, Server.onClose, if_pos lived] at good'
    have still := (good'.table former session).mp ?_
    · have off := still.1
      simp only [update_self] at off
      cases off
    · rw [identified, Option.getD_some]
      exact (update_of_ne different _ _).trans found

theorem consistent_establish_iff (session : Nat) (uid : Uuid)
    (ends : Bool) (fresh : sv.live session = true → uid.text ∉ sv.issued) :
    Consistent (sv.onEstablishRequest session uid ends) ↔
      (sv.live session = true → sv.id session = none) := by
  by_cases live : sv.live session = true
  · cases known : sv.id session with
    | none =>
      refine ⟨fun _ _ => rfl, fun _ => ?_⟩
      cases ends with
      | true => exact consistent_establish inv good live known (fresh live)
      | false => exact consistent_establish_failed inv good live known (fresh live)
    | some former =>
      refine ⟨fun good' => ?_, fun first => ?_⟩
      · exact absurd good' (not_consistent_establish_again inv good live known (fresh live) ends)
      · cases first live
  · rw [Server.onEstablishRequest, if_neg live]
    exact ⟨fun _ lives => absurd lives live, fun _ => good⟩

end

end

end Steps

theorem consistent_new : Consistent new where
  table uid session := by
    constructor
    · intro found
      cases found
    · rintro ⟨live, -⟩
      cases live
  placed session live := by cases live
  once := nodup_nil
  announced session live := by cases live
  reaches reached there := (not_mem_nil there).elim

theorem consistent_next_iff (action : Action) (inv : Inv sv) (good : Consistent sv)
    (fresh : Fresh sv action) : Consistent (next sv action) ↔ Orderly sv action := by
  cases action with
  | connect uid => exact consistent_onConnection_iff inv good uid
  | establish session uid ends => exact consistent_establish_iff inv good session uid ends fresh
  | close session => exact ⟨fun _ => trivial, fun _ => consistent_onClose inv good session⟩

/-- The table agrees with the sessions throughout a run exactly if no session is established
twice and no client connects with the name of an inherited property for its uid. -/
theorem consistent_iff_orderly (actions : List Action)
    (fresh : Run.Allowed next Fresh new actions) :
    (∀ front, front <+: actions → Consistent (Run.final next new front)) ↔
      Run.Allowed next Orderly new actions :=
  (Run.allowed_iff_always_given (fun _ action inv _ => inv.next action) consistent_next_iff
    new actions Inv.new consistent_new fresh).symm

def firstUid : Uuid := ⟨"00000000-0000-4000-8000-000000000001", rfl⟩

def secondUid : Uuid := ⟨"00000000-0000-4000-8000-000000000002", rfl⟩

def establishedTwice : List Action :=
  [.connect none, .establish 0 firstUid true, .establish 0 secondUid true]

theorem establishedTwice_fresh : Run.Allowed next Fresh new establishedTwice := by
  refine ⟨trivial, fun _ => not_mem_nil, fun _ => ?_, trivial⟩
  decide

theorem establishedTwice_inconsistent : ¬ ∀ actions, Run.Allowed next Fresh new actions →
      ∀ front, front <+: actions → Consistent (Run.final next new front) := by
  intro always
  have good := always establishedTwice establishedTwice_fresh establishedTwice prefix_rfl
  have known := ((good.table firstUid.text 0).mp (by decide)).2
  exact absurd known (by decide)

/-- One connection, established once and connected again, is in order. -/
theorem reconnected_consistent : Consistent (Run.final next new
    [.connect none, .establish 0 firstUid true, .connect firstUid.text]) := by
  refine (consistent_iff_orderly _ ?_).mpr ?_ _ (List.prefix_refl _)
  · exact ⟨trivial, fun _ => not_mem_nil, trivial, trivial⟩
  · refine ⟨fun text eq => ?_, fun _ => rfl, fun text eq => ?_, trivial⟩
    · cases eq
    · cases eq
      decide

end EngineServer
end AkashicSystem.PlaylogServer
