import AkashicSystem.PlaylogServer.TokenSessions
import AkashicSystem.PlaylogServer.TokenUse

/-!
# Purging a token

`PermissionServerService.deleteToken` beside the validations of the token on any number of
playlog servers: they share the record in Redis, and each server takes the event that
revokes the token from a queue of its own.
-/

set_option autoImplicit false

namespace AkashicSystem.PlaylogServer.TokenPurge

open Validator Function TokenUse List

open TokenUse (StoredToken Reply)

/-- How far a `deleteToken` has come. -/
inductive Deletion where
  /-- `getPlayToken` waits for the value of the key. -/
  | get
  /-- `deletePlayToken`; the id is that of the token it has got. -/
  | del (id : String)
  | publish (id : String)
  | settled (fulfilled : Bool)
deriving DecidableEq

def revocation (playId id : String) : TokenEvent := ⟨some id, some playId, none⟩

def Deletion.next (parse : String → Option StoredToken) (playId : String) (data : Option String) :
    Deletion → Reply → Option (Option String × List TokenEvent × Deletion)
  | .get, .done _ =>
    match data.bind parse with
    | some stored => some (data, [], .del stored.token.id)
    -- the error is `NotFound`
    | none => some (data, [], .settled false)
  | .get, .failed _ => some (data, [], .settled false)
  | .del id, .done _ => some (none, [], .publish id)
  | .del _, .failed executed => some (if executed then none else data, [], .settled false)
  | .publish id, .done _ => some (data, [revocation playId id], .settled true)
  | .publish id, .failed executed =>
    some (data, if executed then [revocation playId id] else [], .settled false)
  | .settled _, _ => none

inductive Call (Server : Type) where
  /-- `validate` on a playlog server. -/
  | validation (server : Server) (task : Task)
  | deletion (deletion : Deletion)
deriving DecidableEq

structure World (Server : Type) where
  data : Option String
  validators : Server → Validator
  calls : List (Call Server)
  queues : Server → List TokenEvent
  /-- The servers that have processed an event that revokes the token. -/
  processed : Server → Bool

inductive Action (Server : Type) where
  | validate (server : Server) (sessionId : String)
  | deleteToken
  /-- A command of Redis is answered, or the publication. -/
  | answer (index : Nat) (reply : Reply)
  | expire
  | deliver (server : Server)
  | other (server : Server) (action : Validator.Action)

namespace World

variable {Server : Type} [DecidableEq Server]

def new (data : String) : World Server :=
  ⟨some data, fun _ => .new, [], fun _ => [], fun _ => false⟩

def setValidator (w : World Server) (server : Server) (v : Validator) : World Server :=
  { w with validators := update w.validators server v }

/-- The holder of a validation that has succeeded is added in the same turn. -/
def validated (w : World Server) (server : Server) : Task → World Server
  | .validation sessionId (.succeeded token) =>
    w.setValidator server ((w.validators server).onValidated (.new token sessionId none))
  | _ => w

variable (parse : String → Option StoredToken) (playId : String)

variable (w : World Server)

def answer (index : Nat) (reply : Reply) : World Server :=
  match w.calls[index]? with
  | none => w
  | some (.validation server task) =>
    match next parse w.data task reply with
    | none => w
    | some (data, task') =>
      { w with data, calls := w.calls.set index (.validation server task') }.validated server
        task'
  | some (.deletion deletion) =>
    match deletion.next parse playId w.data reply with
    | none => w
    | some (data, events, deletion') =>
      { w with
        data
        calls := w.calls.set index (.deletion deletion')
        queues := fun server => w.queues server ++ events }

def deliver (server : Server) : World Server :=
  match w.queues server with
  | [] => w
  | req :: rest =>
    { w.setValidator server ((w.validators server).onRevokePlayTokenEvent req) with
      queues := update w.queues server rest
      processed := update w.processed server true }

def step (w : World Server) : Action Server → World Server
  | .validate server sessionId =>
    { w.setValidator server ((w.validators server).validate sessionId) with
      calls := w.calls ++ [.validation server (.validation sessionId .get)] }
  | .deleteToken => { w with calls := w.calls ++ [.deletion .get] }
  | .answer index reply => w.answer parse playId index reply
  | .expire => { w with data := none }
  | .deliver server => w.deliver server
  | .other server action => w.setValidator server ((w.validators server).step action)

/-- A `deleteToken` has succeeded, and its event has been processed everywhere. -/
def Purged : Prop :=
  .deletion (.settled true) ∈ w.calls ∧ ∀ server, w.queues server = []

/-- No open session of a server holds the token unrevoked. -/
def Revoked (id : String) (v : Validator) : Prop :=
  ∀ ref ∈ v.validated, (v.holders ref).playToken.id = id →
    (v.holders ref).sessionId ∉ v.closed → (v.holders ref).revoked = true

instance (id : String) (v : Validator) : Decidable (Revoked id v) :=
  inferInstanceAs (Decidable (∀ ref ∈ v.validated, _ → _ → _))

/-- Sessions have ids, and the ids of tokens are their own. -/
def OfOthers (id : String) : Validator.Action → Prop
  | .validate sessionId => sessionId ≠ ""
  | .validated _ token => token.id ≠ id
  | .derived _ _ tokenId _ => tokenId ≠ id
  | _ => True

instance (id : String) : DecidablePred (OfOthers id)
  | .validate sessionId => inferInstanceAs (Decidable (sessionId ≠ ""))
  | .validated _ token => inferInstanceAs (Decidable (token.id ≠ id))
  | .derived _ _ tokenId _ => inferInstanceAs (Decidable (tokenId ≠ id))
  | .closed _ | .revoke _ | .updatePermission _ _ | .immediate _ => isTrue trivial

def Called (id : String) : Action Server → Prop
  | .validate _ sessionId => sessionId ≠ ""
  | .other _ action => OfOthers id action
  | _ => True

instance (id : String) : DecidablePred (Called id : Action Server → Prop)
  | .validate _ sessionId => inferInstanceAs (Decidable (sessionId ≠ ""))
  | .other _ action => inferInstanceAs (Decidable (OfOthers id action))
  | .deleteToken | .answer _ _ | .expire | .deliver _ => isTrue trivial

/-- A validation that ends with the token does so on a server that has not processed the event
and has no holder of the token, or for a session that has closed. -/
def InTime (server : Server) : Task → Prop
  | .validation sessionId (.succeeded token) =>
    sessionId ∈ (w.validators server).closed ∨
      (w.processed server = false ∧ (w.validators server).store.tokens token.id = none)
  | _ => True

instance (w : World Server) (server : Server) : DecidablePred (w.InTime server)
  | .validation sessionId (.succeeded token) =>
    inferInstanceAs (Decidable (sessionId ∈ (w.validators server).closed ∨
      (w.processed server = false ∧ (w.validators server).store.tokens token.id = none)))
  | .validation _ .get | .validation _ (.del _) | .validation _ .bySession | .expiry _ =>
    isTrue trivial

def EndsInTime (reply : Reply) : Call Server → Prop
  | .validation server task =>
    ∀ moved ∈ next parse w.data task reply, w.InTime server moved.2
  | .deletion _ => True

instance (w : World Server) (reply : Reply) : DecidablePred (w.EndsInTime parse reply)
  | .validation server task => inferInstanceAs (Decidable
      (∀ moved ∈ next parse w.data task reply, w.InTime server moved.2))
  | .deletion _ => isTrue trivial

def Permitted : Action Server → Prop
  | .answer index reply => ∀ call ∈ w.calls[index]?, w.EndsInTime parse reply call
  | _ => True

instance (w : World Server) : DecidablePred (w.Permitted parse)
  | .answer index reply =>
    inferInstanceAs (Decidable (∀ call ∈ w.calls[index]?, w.EndsInTime parse reply call))
  | .validate _ _ | .deleteToken | .expire | .deliver _ | .other _ _ => isTrue trivial

end World

section Validators

variable {id playId : String}

/-- The open holders of the token are stored under its id, and once the event has been
processed they are revoked. -/
structure Holds (id playId : String) (processed : Bool) (v : Validator) : Prop where
  indexed : v.store.Indexed v.holders
  stored : ∀ id ref, v.store.tokens id = some ref → ref < v.next
  known : ∀ ref ∈ v.validated, ref < v.next
  named : "" ∉ v.sessions
  play : ∀ ref ∈ v.validated, (v.holders ref).playToken.id = id →
    (v.holders ref).playToken.playId = playId
  live : ∀ ref ∈ v.validated, (v.holders ref).playToken.id = id →
    (v.holders ref).sessionId ∉ v.closed → v.store.tokens id = some ref
  revoked : processed = true → World.Revoked id v

variable {processed : Bool} {v v' : Validator}

theorem holds_new (id playId : String) : Holds id playId false .new := by
  refine ⟨sound_new.indexed, sound_new.stored, ?_, ?_, ?_, ?_, ?_⟩
  · intro ref there
    cases there
  · intro there
    cases there
  · intro ref there
    cases there
  · intro ref there
    cases there
  · intro done
    cases done

section

variable (holds : Holds id playId processed v)

include holds

theorem Holds.of_same (same : v.SameSessions v')
    (validated : v'.validated = v.validated)
    (stays : ∀ ref < v.next, (v.holders ref).revoked = true → (v'.holders ref).revoked = true) :
    Holds id playId processed v' where
  indexed := by
    rw [same.store]
    exact holds.indexed.congr fun _ ref _ => same.identity ref
  stored other ref there := by
    rw [same.store] at there
    rw [same.next]
    exact holds.stored other ref there
  known ref there := by
    rw [validated] at there
    rw [same.next]
    exact holds.known ref there
  named := by
    rw [same.sessions]
    exact holds.named
  play ref there its := by
    rw [validated] at there
    rw [(same.identity ref).id] at its
    rw [(same.identity ref).play]
    exact holds.play ref there its
  live ref there its isOpen := by
    rw [validated] at there
    rw [(same.identity ref).id] at its
    rw [(same.identity ref).session, same.closed] at isOpen
    rw [same.store]
    exact holds.live ref there its isOpen
  revoked done ref there its isOpen := by
    rw [validated] at there
    rw [(same.identity ref).id] at its
    rw [(same.identity ref).session, same.closed] at isOpen
    exact stays ref (holds.known ref there) (holds.revoked done ref there its isOpen)

theorem Holds.of_untouched (untouched : v.Untouched v') :
    Holds id playId processed v' :=
  holds.of_same untouched.sameSessions untouched.kept.validated
    fun ref _ => untouched.kept.revoked ref

theorem Holds.validate {sessionId : String}
    (isNamed : sessionId ≠ "") : Holds id playId processed (v.validate sessionId) := by
  have named : "" ∉ (v.validate sessionId).sessions := by
    rw [mem_validate]
    rintro (same | there)
    · exact isNamed same.symm
    · exact holds.named there
  revert named
  unfold Validator.validate
  split
  · exact fun _ => holds
  · exact fun named => { holds with named }

theorem Holds.added (holder : PlayTokenHolder)
    (play : holder.playToken.id = id → holder.playToken.playId = playId)
    (inTime : holder.playToken.id = id → holder.sessionId ∈ v.closed ∨
      (processed = false ∧ v.store.tokens id = none)) :
    Holds id playId processed (v.onValidated holder) := by
  have new : (v.onValidated holder).holders v.next = holder := update_self ..
  have old : ∀ ref < v.next, (v.onValidated holder).holders ref = v.holders ref :=
    fun ref known => update_of_ne (Nat.ne_of_lt known) ..
  have cases' : ∀ ref ∈ (v.onValidated holder).validated,
      (ref ∈ v.validated ∧ (v.onValidated holder).holders ref = v.holders ref) ∨
        ref = v.next := by
    intro ref there
    rcases mem_append.mp there with before | now
    · exact .inl ⟨before, old ref (holds.known ref before)⟩
    · exact .inr (mem_singleton.mp now)
  refine ⟨indexed_onValidated v holder holds.indexed holds.stored, ?_, ?_, holds.named,
    ?_, ?_, ?_⟩
  · intro other ref there
    rw [tokens_added] at there
    split at there
    · cases there
      exact Nat.lt_succ_self _
    · exact Nat.lt_succ_of_lt (holds.stored other ref there)
  · intro ref there
    rcases cases' ref there with ⟨before, -⟩ | rfl
    · exact Nat.lt_succ_of_lt (holds.known ref before)
    · exact Nat.lt_succ_self _
  · intro ref there its
    rcases cases' ref there with ⟨before, same⟩ | rfl
    · rw [same] at its ⊢
      exact holds.play ref before its
    · rw [new] at its ⊢
      exact play its
  · intro ref there its isOpen
    rw [tokens_added]
    rcases cases' ref there with ⟨before, same⟩ | rfl
    · rw [same] at its isOpen
      have held := holds.live ref before its isOpen
      rw [if_neg, held]
      rintro ⟨absent, -⟩
      rw [held] at absent
      cases absent
    · rw [new] at its isOpen
      rcases inTime its with closed | ⟨-, absent⟩
      · exact absurd closed isOpen
      · rw [if_pos ⟨absent, its.symm⟩]
  · intro done ref there its isOpen
    rcases cases' ref there with ⟨before, same⟩ | rfl
    · rw [same] at its isOpen ⊢
      exact holds.revoked done ref before its isOpen
    · rw [new] at its isOpen
      rcases inTime its with closed | ⟨pending, -⟩
      · exact absurd closed isOpen
      · rw [done] at pending
        cases pending

theorem Holds.closed (sessionId : String) :
    Holds id playId processed (v.onSessionClose sessionId) := by
  have named : sessionId ∈ v.sessions → sessionId ≠ "" := by
    rintro there rfl
    exact holds.named there
  obtain ⟨closed, holders, next, sessions⟩ := onSessionClose_frame v sessionId
  have validated : (v.onSessionClose sessionId).validated = v.validated := by
    unfold onSessionClose
    split <;> rfl
  have tokens := tokens_onSessionClose holds.indexed sessionId named
  refine ⟨indexed_onSessionClose holds.indexed sessionId, ?_, ?_, ?_, ?_, ?_, ?_⟩
  · intro other ref there
    rw [next]
    exact holds.stored other ref ((tokens other ref).mp there).1
  · intro ref there
    rw [validated] at there
    rw [next]
    exact holds.known ref there
  · intro there
    exact holds.named ((sessions "").mp there).1
  · intro ref there its
    rw [validated] at there
    rw [holders] at its ⊢
    exact holds.play ref there its
  · intro ref there its isOpen
    rw [validated] at there
    rw [holders] at its isOpen
    rw [closed, mem_cons, not_or] at isOpen
    rw [tokens]
    exact ⟨holds.live ref there its isOpen.2, fun both => isOpen.1 both.2⟩
  · intro done ref there its isOpen
    rw [validated] at there
    rw [holders] at its isOpen ⊢
    rw [closed, mem_cons, not_or] at isOpen
    exact holds.revoked done ref there its isOpen.2

theorem Holds.deliver (isId : id ≠ "") :
    Holds id playId true (v.onRevokePlayTokenEvent (revocation playId id)) := by
  have kept := holds.of_untouched (untouched_foldl v .revoke
    (v.targets (revocation playId id)))
  refine { kept with revoked := fun _ ref there its isOpen => ?_ }
  have frame : v.Kept (v.onRevokePlayTokenEvent (revocation playId id)) :=
    kept_foldl .revoke (v.targets (revocation playId id)) v
  rw [(frame.identity ref).id] at its
  rw [(frame.identity ref).session, frame.closed] at isOpen
  rw [frame.validated] at there
  have stored : v.store.tokens (v.holders ref).playToken.id = some ref := by
    rw [its]
    exact holds.live ref there its isOpen
  have target := mem_targets holds.indexed (revocation playId id) ref stored (by
    refine ⟨?_, ?_, ?_, ?_⟩
    · intro given isGiven
      have same := Option.filter_eq_some_iff.mp isGiven
      exact its.trans (Option.some.inj same.1)
    · intro given isGiven
      have same := Option.filter_eq_some_iff.mp isGiven
      exact (holds.play ref there its).trans (Option.some.inj same.1)
    · intro given isGiven
      cases isGiven
    · intro none'
      have isNone := none'.1
      simp [revocation, given, isId] at isNone)
  exact (reached_foldl _ v ref target).1

theorem Holds.step (action : Validator.Action)
    (called : World.OfOthers id action) :
    Holds id playId processed (v.step action) := by
  cases action with
  | validate sessionId => exact holds.validate called
  | validated sessionId token =>
    exact holds.added _ (fun its => absurd its called) fun its => absurd its called
  | derived sessionId childId tokenId parentPlays =>
    show Holds id playId processed (v.validateBySession sessionId childId tokenId parentPlays)
    have other : tokenId ≠ id := called
    unfold Validator.validateBySession
    split
    · exact holds
    · exact holds
    · exact holds.added _ (fun its => absurd its other) fun its => absurd its other
  | closed sessionId => exact holds.closed sessionId
  | revoke req => exact holds.of_untouched (Validator.untouched_foldl v .revoke (v.targets req))
  | updatePermission req permission =>
    exact holds.of_untouched (Validator.untouched_onUpdatePermissionEvent v req permission)
  | immediate index =>
    refine holds.of_same (Validator.sameSessions_runImmediate v index) ?_ ?_
    · show (v.runImmediate index).validated = v.validated
      rcases Validator.runImmediate_eq v index with ⟨_, eq⟩ | ⟨immediate, _, eq⟩
      · rw [eq]
      · rw [eq]
        exact (Validator.kept_visit (v.dequeue index) _ _).validated
    · intro ref known was
      exact Validator.revoked_step v (.immediate index) ref known was

end

end Validators

section Runs

variable {Server : Type} [DecidableEq Server] {parse : String → Option StoredToken}
  {playId data : String} {stored : StoredToken}

def Call.Reads (stored : StoredToken) : Call Server → Prop
  | .validation _ (.validation _ (.del found)) => found = stored
  | .deletion (.del id) | .deletion (.publish id) => id = stored.token.id
  | _ => True

structure Inv (playId data : String) (stored : StoredToken) (w : World Server) : Prop where
  data : ∀ held ∈ w.data, held = data
  holds : ∀ server, Holds stored.token.id playId (w.processed server) (w.validators server)
  reads : ∀ call ∈ w.calls, call.Reads stored
  queued : ∀ server, ∀ req ∈ w.queues server, req = revocation playId stored.token.id
  /-- The event of a `deleteToken` that has succeeded is in a queue until it is processed. -/
  published : .deletion (.settled true) ∈ w.calls → ∀ server, w.processed server = true ∨
    revocation playId stored.token.id ∈ w.queues server

omit [DecidableEq Server] in
theorem inv_new (playId data : String) (stored : StoredToken) :
    Inv playId data stored (World.new data : World Server) := by
  refine ⟨?_, fun _ => holds_new _ _, ?_, ?_, ?_⟩
  · intro held there
    exact (Option.mem_some.mp there).symm
  · intro call there
    cases there
  · intro server req there
    cases there
  · intro there
    cases there

omit [DecidableEq Server] in
theorem validation_next (found : parse data = some stored) {held held' : Option String}
    {server : Server} {task task' : Task} {reply : Reply}
    (is : ∀ value ∈ held, value = data)
    (reads : (Call.validation server task).Reads stored)
    (moves : next parse held task reply = some (held', task')) :
    (∀ value ∈ held', value = data) ∧ (Call.validation server task').Reads stored ∧
      ∀ sessionId token, task' = .validation sessionId (.succeeded token) →
        token = stored.token := by
  have gone : ∀ value ∈ (none : Option String), value = data := by
    intro value there
    cases there
  unfold TokenUse.next at moves
  split at moves
  · split at moves
    · next sessionId now stored' parsed =>
      cases moves
      obtain ⟨value, there, parsed⟩ := Option.bind_eq_some_iff.mp parsed
      rw [is value there, found] at parsed
      cases parsed
      exact ⟨is, rfl, fun _ _ same => by cases same⟩
    · cases moves
      exact ⟨is, trivial, fun _ _ same => by cases same⟩
  · cases moves
    exact ⟨is, trivial, fun _ _ same => by cases same⟩
  · next sessionId stored' now =>
    cases moves
    have same : stored' = stored := reads
    subst same
    refine ⟨gone, ?_, ?_⟩
    · split <;> trivial
    · intro sessionId' token eq
      split at eq
      · cases eq
        rfl
      · cases eq
  · next sessionId stored' executed =>
    cases moves
    refine ⟨?_, trivial, fun _ _ same => by cases same⟩
    split
    · exact gone
    · exact is
  · cases moves
    exact ⟨gone, trivial, fun _ _ same => by cases same⟩
  · cases moves

omit [DecidableEq Server] in
theorem deletion_next (found : parse data = some stored) {held held' : Option String}
    {deletion deletion' : Deletion} {events : List TokenEvent} {reply : Reply}
    (is : ∀ value ∈ held, value = data)
    (reads : (Call.deletion deletion : Call Server).Reads stored)
    (moves : deletion.next parse playId held reply = some (held', events, deletion')) :
    (∀ value ∈ held', value = data) ∧ (Call.deletion deletion' : Call Server).Reads stored ∧
      (∀ req ∈ events, req = revocation playId stored.token.id) ∧
      (deletion' = .settled true → revocation playId stored.token.id ∈ events) := by
  have gone : ∀ value ∈ (none : Option String), value = data := by
    intro value there
    cases there
  have nothing (req : TokenEvent) : req ∈ ([] : List TokenEvent) →
      req = revocation playId stored.token.id := fun there => (not_mem_nil there).elim
  unfold Deletion.next at moves
  split at moves
  · split at moves
    · next now stored' parsed =>
      cases moves
      obtain ⟨value, there, parsed⟩ := Option.bind_eq_some_iff.mp parsed
      rw [is value there, found] at parsed
      cases parsed
      exact ⟨is, rfl, nothing, fun same => by cases same⟩
    · cases moves
      exact ⟨is, trivial, nothing, fun same => by cases same⟩
  · cases moves
    exact ⟨is, trivial, nothing, fun same => by cases same⟩
  · cases moves
    exact ⟨gone, reads, nothing, fun same => by cases same⟩
  · cases moves
    refine ⟨?_, trivial, nothing, fun same => by cases same⟩
    split
    · exact gone
    · exact is
  · next id now =>
    cases moves
    have same : id = stored.token.id := reads
    subst same
    exact ⟨is, trivial, fun req there => mem_singleton.mp there,
      fun _ => mem_singleton.mpr rfl⟩
  · next id executed =>
    cases moves
    have same : id = stored.token.id := reads
    subst same
    refine ⟨is, trivial, ?_, fun same => by cases same⟩
    split
    · exact fun req there => mem_singleton.mp there
    · exact nothing
  · cases moves

theorem holds_setValidator {w : World Server} {processed : Server → Bool} {server : Server}
    {v : Validator} {id : String}
    (holds : ∀ server, Holds id playId (w.processed server) (w.validators server))
    (changed : Holds id playId (processed server) v)
    (same : ∀ other ≠ server, processed other = w.processed other) (other : Server) :
    Holds id playId (processed other) ((w.setValidator server v).validators other) := by
  unfold World.setValidator
  dsimp only
  by_cases its : other = server
  · subst its
    rw [update_self]
    exact changed
  · rw [update_of_ne its, same other its]
    exact holds other

theorem inv_answer (found : parse data = some stored) (own : stored.token.playId = playId)
    {w : World Server} (inv : Inv playId data stored w) (index : Nat) (reply : Reply)
    (permitted : w.Permitted parse (.answer index reply)) :
    Inv playId data stored (w.answer parse playId index reply) := by
  unfold World.answer
  split
  · exact inv
  · next server task here =>
    split
    · exact inv
    · next held' task' moves =>
      obtain ⟨is, reads, token⟩ := validation_next found inv.data
        (inv.reads _ (mem_of_getElem? here)) moves
      have inTime : w.InTime server task' := permitted _ here (held', task') moves
      have calls : ∀ call ∈ w.calls.set index (.validation server task'), call.Reads stored := by
        intro call there
        rcases mem_or_eq_of_mem_set there with before | now
        · exact inv.reads call before
        · rw [now]
          exact reads
      have published : .deletion (.settled true) ∈
          w.calls.set index (.validation server task') → ∀ server, w.processed server = true ∨
            revocation playId stored.token.id ∈ w.queues server := by
        intro there
        rcases mem_or_eq_of_mem_set there with before | now
        · exact inv.published before
        · cases now
      unfold World.validated
      split
      · next sessionId token' =>
        have same := token sessionId token' rfl
        subst same
        refine ⟨is, ?_, calls, inv.queued, published⟩
        refine holds_setValidator inv.holds ?_ fun _ _ => rfl
        exact (inv.holds server).added _ (fun _ => own) fun _ => inTime
      · exact ⟨is, inv.holds, calls, inv.queued, published⟩
  · next deletion here =>
    split
    · exact inv
    · next held' events deletion' moves =>
      obtain ⟨is, reads, own', event⟩ := deletion_next found inv.data
        (inv.reads _ (mem_of_getElem? here)) moves
      refine ⟨is, inv.holds, ?_, ?_, ?_⟩
      · intro call there
        rcases mem_or_eq_of_mem_set there with before | now
        · exact inv.reads call before
        · rw [now]
          exact reads
      · intro server req there
        rcases mem_append.mp there with before | now
        · exact inv.queued server req before
        · exact own' req now
      · intro there server
        rcases mem_or_eq_of_mem_set there with before | now
        · exact (inv.published before server).imp_right (mem_append_left events)
        · exact .inr (mem_append_right _ (event (Call.deletion.inj now).symm))

theorem inv_deliver (named : stored.token.id ≠ "") {w : World Server}
    (inv : Inv playId data stored w) (server : Server) :
    Inv playId data stored (w.deliver server) := by
  unfold World.deliver
  split
  · exact inv
  · next req rest here =>
    have its : req = revocation playId stored.token.id := by
      apply inv.queued server
      rw [here]
      exact mem_cons_self
    subst its
    refine ⟨inv.data, ?_, inv.reads, ?_, ?_⟩
    · refine @holds_setValidator Server _ _ w (update w.processed server true) server _ _
        inv.holds ?_ fun other ne => update_of_ne ne ..
      rw [update_self]
      exact (inv.holds server).deliver named
    · intro other req there
      by_cases same : other = server
      · subst same
        dsimp only at there
        rw [update_self] at there
        apply inv.queued other
        rw [here]
        exact mem_cons_of_mem _ there
      · dsimp only at there
        rw [update_of_ne same] at there
        exact inv.queued other req there
    · intro there other
      by_cases same : other = server
      · subst same
        exact .inl (update_self ..)
      · rcases inv.published there other with done | queued
        · left
          exact (update_of_ne same ..).trans done
        · right
          dsimp only
          rw [update_of_ne same]
          exact queued

theorem inv_step (found : parse data = some stored) (own : stored.token.playId = playId)
    (named : stored.token.id ≠ "") (w : World Server) (action : Action Server)
    (inv : Inv playId data stored w)
    (allowed : World.Called stored.token.id action ∧ w.Permitted parse action) :
    Inv playId data stored (w.step parse playId action) := by
  obtain ⟨called, permitted⟩ := allowed
  have appended (call : Call Server) (reads : call.Reads stored) :
      ∀ call' ∈ w.calls ++ [call], call'.Reads stored := by
    intro call' there
    rcases mem_append.mp there with before | now
    · exact inv.reads call' before
    · rw [mem_singleton.mp now]
      exact reads
  have published (call : Call Server) (ne : call ≠ .deletion (.settled true)) :
      .deletion (.settled true) ∈ w.calls ++ [call] → ∀ server, w.processed server = true ∨
        revocation playId stored.token.id ∈ w.queues server := by
    intro there
    rcases mem_append.mp there with before | now
    · exact inv.published before
    · exact absurd (mem_singleton.mp now).symm ne
  cases action with
  | validate server sessionId =>
    refine ⟨inv.data, ?_, appended _ trivial, inv.queued, published _ (by simp)⟩
    refine holds_setValidator inv.holds ?_ fun _ _ => rfl
    exact (inv.holds server).validate called
  | deleteToken =>
    exact ⟨inv.data, inv.holds, appended _ trivial, inv.queued, published _ (by simp)⟩
  | answer index reply => exact inv_answer found own inv index reply permitted
  | expire =>
    refine ⟨?_, inv.holds, inv.reads, inv.queued, inv.published⟩
    intro held there
    cases there
  | deliver server => exact inv_deliver named inv server
  | other server action =>
    refine ⟨inv.data, ?_, inv.reads, inv.queued, inv.published⟩
    refine holds_setValidator inv.holds ?_ fun _ _ => rfl
    exact (inv.holds server).step action called

theorem processed_step (w : World Server) (action : Action Server) (server : Server)
    (done : w.processed server = true) :
    (w.step parse playId action).processed server = true := by
  cases action with
  | answer index reply =>
    show (w.answer parse playId index reply).processed server = true
    unfold World.answer
    split
    · exact done
    · split
      · exact done
      · unfold World.validated
        split <;> exact done
    · split <;> exact done
  | deliver other =>
    show (w.deliver other).processed server = true
    unfold World.deliver
    split
    · exact done
    · dsimp only
      rw [update_apply]
      split
      · rfl
      · exact done
  | validate _ _ => exact done
  | deleteToken | expire => exact done
  | other _ _ => exact done

/-- Once a token is purged, no open session holds it unrevoked, then or later, as long as the
validations that end with it do so in time. -/
theorem revoked_of_inTime (parse : String → Option StoredToken) (playId data : String)
    (stored : StoredToken) (found : parse data = some stored)
    (own : stored.token.playId = playId) (named : stored.token.id ≠ "")
    (actions later : List (Action Server))
    (run : Run.Allowed (World.step parse playId)
      (fun w action => World.Called stored.token.id action ∧ w.Permitted parse action)
      (World.new data) (actions ++ later)) :
    let w := Run.final (World.step parse playId) (World.new data) actions
    w.Purged → ∀ server, World.Revoked stored.token.id
      ((Run.final (World.step parse playId) w later).validators server) := by
  intro w purged server
  obtain ⟨first, second⟩ := (Run.allowed_append (World.new data) actions later).mp run
  have inv : Inv playId data stored w :=
    Run.invariant (inv_step found own named) (World.new data) actions
      (inv_new playId data stored) first
  have processed : w.processed server = true := by
    rcases inv.published purged.1 server with done | queued
    · exact done
    · rw [purged.2 server] at queued
      cases queued
  have still := @Run.stable _ _ (World.step parse playId)
    (fun w : World Server => w.processed server = true)
    (fun w action => processed_step w action server) w later processed
  have inv' := Run.invariant (inv_step found own named) w later inv second
  exact (inv'.holds server).revoked still

end Runs

/-- A session is validated while the token is being purged, and the event finds its holder. -/
def inTime : List (Action Unit) :=
  [.validate () "s", .deleteToken, .answer 0 (.done 1), .answer 1 (.done 1), .answer 0 (.done 2),
    .answer 1 (.done 2), .answer 1 (.done 3), .deliver ()]

theorem revoked_of_inTime_beside :
    let w := Run.final (World.step (fun _ => some sampleToken) "play")
      (World.new "token") inTime
    ∀ server, World.Revoked "id" (w.validators server) := by
  intro w
  refine revoked_of_inTime (fun _ => some sampleToken) "play" "token"
    sampleToken rfl rfl (by decide) inTime [] (by decide +kernel)
    ⟨by decide +kernel, ?_⟩
  intro server
  cases server
  decide +kernel

/-- The validation has read the record, and ends with the token after the event. -/
def late : List (Action Unit) :=
  [.validate () "s", .deleteToken, .answer 0 (.done 1), .answer 1 (.done 1), .answer 1 (.done 2),
    .answer 1 (.done 3), .deliver ()]

/-- The session holds the purged token unrevoked. -/
theorem late_unrevoked :
    ¬ ∀ (parse : String → Option StoredToken) (playId data : String) (stored : StoredToken)
      (actions later : List (Action Unit)), parse data = some stored →
      stored.token.playId = playId → stored.token.id ≠ "" →
      Run.Allowed (World.step parse playId) (fun _ action => World.Called stored.token.id action)
        (World.new data) (actions ++ later) →
      let w := Run.final (World.step parse playId) (World.new data) actions
      w.Purged → ∀ server, World.Revoked stored.token.id
        ((Run.final (World.step parse playId) w later).validators server) := by
  intro claimed
  have revoked := claimed (fun _ => some sampleToken) "play" "token"
    sampleToken late [.answer 0 (.done 4)] rfl rfl (by decide) (by decide +kernel)
    ⟨by decide +kernel, by intro server; cases server; decide +kernel⟩ ()
  revert revoked
  decide +kernel

end AkashicSystem.PlaylogServer.TokenPurge
