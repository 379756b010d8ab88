import AkashicSystem.PlaylogServer.PermissionWalks
import AkashicSystem.PlaylogServer.TokenUse

/-!
# Updating the permissions of tokens

`PermissionServerService.updatePermission` beside the tokens that are issued and authenticated.
A token that a call names by its value is looked up in Redis, where the playlog servers delete it;
the event goes to a queue of each server.
-/

set_option autoImplicit false

namespace AkashicSystem.PlaylogServer.TokenPermits

open Validator Function TokenUse List

open TokenUse (StoredToken Reply)
open Validator (given)

structure Condition where
  playId : Option String
  userId : Option String
  tokenValue : Option String
deriving DecidableEq

/-- The key of a record: a play, and the value of a token. -/
abbrev Key := String × String

def Condition.key (condition : Condition) : Key :=
  (condition.playId.getD "", condition.tokenValue.getD "")

inductive Outcome where
  | fulfilled
  /-- `token.id`, where there is no token. -/
  | typeError
  | failed
deriving DecidableEq

inductive Phase where
  /-- `getPlayToken` waits for the record. -/
  | get
  | publish (tokenId : Option String)
  | settled (outcome : Outcome)
deriving DecidableEq

/-- A call of `updatePermission`. -/
structure Call where
  condition : Condition
  permission : Permission
  phase : Phase
deriving DecidableEq

structure Sent where
  condition : Condition
  tokenId : Option String
  permission : Permission

def Sent.event (sent : Sent) : TokenEvent :=
  ⟨sent.tokenId, sent.condition.playId, sent.condition.userId⟩

/-- `updatePermission`, up to what it waits for: the token is only looked up by a play and a
value. -/
def updatePermission (permission : Permission) (condition : Condition) : Call :=
  match given condition.playId, given condition.tokenValue with
  | some _, some _ => ⟨condition, permission, .get⟩
  | _, _ => ⟨condition, permission, .publish none⟩

def Call.next (parse : String → Option StoredToken) (record : Option String) (call : Call) :
    Reply → List Sent × Phase :=
  match call.phase with
  | .get => fun
    | .done _ =>
      match record.bind parse with
      | some stored => ([], .publish (some stored.token.id))
      | none => ([], .settled .typeError)
    | .failed _ => ([], .settled .failed)
  | .publish tokenId => fun
    | .done _ => ([⟨call.condition, tokenId, call.permission⟩], .settled .fulfilled)
    | .failed executed =>
      (if executed then [⟨call.condition, tokenId, call.permission⟩] else [], .settled .failed)
  | .settled outcome => fun _ => ([], .settled outcome)

structure Issue where
  key : Key
  id : String

structure Validation (Server : Type) where
  server : Server
  key : Key
  task : Task

structure World (Server : Type) where
  records : Key → Option String
  issued : List Issue
  authenticated : List Key
  validations : List (Validation Server)
  calls : List Call
  validators : Server → Validator
  changes : Server → List Change
  queues : Server → List Sent

inductive Action (Server : Type) where
  /-- `savePlayToken`. -/
  | issue (key : Key) (data : String)
  | expire (key : Key)
  | validate (server : Server) (sessionId : String) (key : Key)
  | answer (index : Nat) (reply : Reply)
  | updatePermission (permission : Permission) (condition : Condition)
  /-- A command of a call is answered, or its publication. -/
  | reply (index : Nat) (reply : Reply)
  | deliver (server : Server)
  | other (server : Server) (action : Validator.Action)

namespace World

variable {Server : Type} [DecidableEq Server]

def new : World Server :=
  ⟨fun _ => none, [], [], [], [], fun _ => .new, fun _ => [], fun _ => []⟩

def perform (w : World Server) (server : Server) (action : Validator.Action) : World Server :=
  { w with
    validators := update w.validators server ((w.validators server).step action)
    changes := update w.changes server
      (w.changes server ++ (w.validators server).changes action) }

def validated (w : World Server) (server : Server) (key : Key) : Task → World Server
  | .validation sessionId (.succeeded token) =>
    { w with authenticated := key :: w.authenticated }.perform server
      (.validated sessionId token)
  | _ => w

variable (parse : String → Option StoredToken)

variable (w : World Server)

def issue (key : Key) (data : String) : World Server :=
  match w.records key, parse data with
  | none, some stored =>
    { w with
      records := update w.records key (some data)
      issued := w.issued ++ [⟨key, stored.token.id⟩] }
  | _, _ => w

def answer (index : Nat) (reply : Reply) : World Server :=
  match w.validations[index]? with
  | none => w
  | some validation =>
    match next parse (w.records validation.key) validation.task reply with
    | none => w
    | some (record, task) =>
      { w with
        records := update w.records validation.key record
        validations := w.validations.set index { validation with task } }.validated
          validation.server validation.key task

def reply (w : World Server) (index : Nat) (reply : Reply) : World Server :=
  match w.calls[index]? with
  | none => w
  | some call =>
    let next := call.next parse (w.records call.condition.key) reply
    { w with
      calls := w.calls.set index { call with phase := next.2 }
      queues := fun server => w.queues server ++ next.1 }

def deliver (server : Server) : World Server :=
  match w.queues server with
  | [] => w
  | sent :: rest =>
    { w with queues := update w.queues server rest }.perform server
      (.updatePermission sent.event (some sent.permission))

def step : Action Server → World Server
  | .issue key data => w.issue parse key data
  | .expire key => { w with records := update w.records key none }
  | .validate server sessionId key =>
    let validation : Validation Server := ⟨server, key, validate sessionId key.2⟩
    { w with validations := w.validations ++ [validation] }.perform server (.validate sessionId)
  | .answer index reply => w.answer parse index reply
  | .updatePermission permission condition =>
    { w with calls := w.calls ++ [TokenPermits.updatePermission permission condition] }
  | .reply index reply => w.reply parse index reply
  | .deliver server => w.deliver server
  | .other server action => w.perform server action

end World

/-- The token matches every component that the condition gives. -/
def Condition.Names (issued : List Issue) (condition : Condition) (token : PlayToken) : Prop :=
  (∀ playId ∈ given condition.playId, token.playId = playId) ∧
    (∀ userId ∈ given condition.userId, token.userId = some userId) ∧
    ∀ value ∈ given condition.tokenValue, ∃ issue ∈ issued,
      issue.key.2 = value ∧ issue.id = token.id

instance (issued : List Issue) (condition : Condition) : DecidablePred (condition.Names issued) :=
  fun _ => inferInstanceAs (Decidable (_ ∧ _ ∧ _))

def Condition.Nonempty (condition : Condition) : Prop :=
  given condition.playId ≠ none ∨ given condition.userId ≠ none ∨
    given condition.tokenValue ≠ none

instance : DecidablePred Condition.Nonempty :=
  fun _ => inferInstanceAs (Decidable (_ ∨ _ ∨ _))

namespace World

variable {Server : Type} [DecidableEq Server] (parse : String → Option StoredToken)

variable (w : World Server)

/-- The ids of the tokens that `uuid.v4` names have dashes, and are their own. -/
def Derives (server : Server) : Validator.Action → Prop
  | .validate sessionId => sessionId ≠ ""
  | .derived sessionId playId tokenId parentPlays => '-' ∈ tokenId.toList ∧
      (w.validators server).Fresh (.derived sessionId playId tokenId parentPlays)
  | .closed _ | .revoke _ | .immediate _ => True
  | .validated _ _ | .updatePermission _ _ => False

instance (w : World Server) (server : Server) : DecidablePred (w.Derives server)
  | .validate sessionId => inferInstanceAs (Decidable (sessionId ≠ ""))
  | .derived sessionId playId tokenId parentPlays => inferInstanceAs (Decidable
      ('-' ∈ tokenId.toList ∧
        (w.validators server).Fresh (.derived sessionId playId tokenId parentPlays)))
  | .closed _ | .revoke _ | .immediate _ => isTrue trivial
  | .validated _ _ | .updatePermission _ _ => isFalse id

/-- The ids of issued tokens are numbers that go up, and their values are new; sessions have ids;
the permission of a call has been generated, and its condition gives something. -/
def Called : Action Server → Prop
  | .issue key data => (∀ issue ∈ w.issued, issue.key ≠ key) ∧
      ∀ stored ∈ parse data, stored.token.playId = key.1 ∧ stored.token.id ≠ "" ∧
        '-' ∉ stored.token.id.toList ∧ ∀ issue ∈ w.issued, issue.id ≠ stored.token.id
  | .validate _ sessionId _ => sessionId ≠ ""
  | .updatePermission permission condition =>
    permission.generate = some permission ∧ condition.Nonempty
  | .other server action => w.Derives server action
  | .expire _ | .answer _ _ | .reply _ _ | .deliver _ => True

instance (w : World Server) : DecidablePred (w.Called parse)
  | .issue key data => inferInstanceAs (Decidable ((∀ issue ∈ w.issued, issue.key ≠ key) ∧
      ∀ stored ∈ parse data, stored.token.playId = key.1 ∧ stored.token.id ≠ "" ∧
        '-' ∉ stored.token.id.toList ∧ ∀ issue ∈ w.issued, issue.id ≠ stored.token.id))
  | .validate _ sessionId _ => inferInstanceAs (Decidable (sessionId ≠ ""))
  | .updatePermission permission condition => inferInstanceAs (Decidable
      (permission.generate = some permission ∧ condition.Nonempty))
  | .other server action => inferInstanceAs (Decidable (w.Derives server action))
  | .expire _ | .answer _ _ | .reply _ _ | .deliver _ => isTrue trivial

/-- No holder of the token is stored. -/
def Unhidden (server : Server) : Task → Prop
  | .validation _ (.succeeded token) => (w.validators server).store.tokens token.id = none
  | _ => True

instance (w : World Server) (server : Server) : DecidablePred (w.Unhidden server)
  | .validation _ (.succeeded token) =>
    inferInstanceAs (Decidable ((w.validators server).store.tokens token.id = none))
  | .validation _ .get | .validation _ (.del _) | .validation _ .bySession | .expiry _ =>
    isTrue trivial

/-- A value is only given with its play, for a token that is not authenticated when it is looked
up; no token is authenticated while the server stores a holder of it. -/
def Permitted : Action Server → Prop
  | .updatePermission _ condition =>
    given condition.tokenValue ≠ none → given condition.playId ≠ none
  | .reply index _ => ∀ call ∈ w.calls[index]?, call.phase = .get →
      call.condition.key ∉ w.authenticated
  | .answer index reply => ∀ validation ∈ w.validations[index]?,
      ∀ moved ∈ next parse (w.records validation.key) validation.task reply,
        w.Unhidden validation.server moved.2
  | _ => True

instance (w : World Server) : DecidablePred (w.Permitted parse)
  | .updatePermission _ condition => inferInstanceAs (Decidable
      (given condition.tokenValue ≠ none → given condition.playId ≠ none))
  | .reply index _ => inferInstanceAs (Decidable (∀ call ∈ w.calls[index]?, call.phase = .get →
      call.condition.key ∉ w.authenticated))
  | .answer index reply => inferInstanceAs (Decidable (∀ validation ∈ w.validations[index]?,
      ∀ moved ∈ next parse (w.records validation.key) validation.task reply,
        w.Unhidden validation.server moved.2))
  | .issue _ _ | .expire _ | .validate _ _ _ | .deliver _ | .other _ _ => isTrue trivial

/-- Once an event is processed on a server, it has changed the tokens that its condition names. -/
def Exact (actions : List (Action Server)) : Prop :=
  ∀ front server back, actions = front ++ .deliver server :: back →
    let w := Run.final (step parse) new front
    let handled := (w.step parse (.deliver server))
    let after := Run.final (step parse) handled back
    ∀ sent ∈ (w.queues server).head?,
      Validator.Processed (w.validators server) (handled.validators server)
        (after.validators server) →
      Validator.Exact (w.validators server) (after.validators server)
        (sent.condition.Names w.issued) sent.permission (w.validators server).nextWalk
        (handled.validators server).nextWalk
        ((after.changes server).drop (w.changes server).length)

/-- No call fails because the token it names is authenticated. -/
def Unrefused (actions : List (Action Server)) : Prop :=
  ∀ front index answered back, actions = front ++ .reply index answered :: back →
    let w := Run.final (step parse) new front
    ∀ call ∈ w.calls[index]?, (call.next parse (w.records call.condition.key) answered).2 =
        .settled .typeError → call.phase = .get →
      ∀ server, ∀ ref ∈ (w.validators server).validated,
        ¬ call.condition.Names w.issued ((w.validators server).holders ref).playToken

end World

section Invariants

variable {Server : Type} [DecidableEq Server] {parse : String → Option StoredToken}
  {w : World Server}

def ReadsOf (issued : List Issue) (key : Key) : Task → Prop
  | .validation _ (.del stored) => ⟨key, stored.token.id⟩ ∈ issued ∧ stored.token.playId = key.1
  | _ => True

structure Resolved (issued : List Issue) (condition : Condition) (tokenId : Option String) :
    Prop where
  absent : given condition.tokenValue = none → tokenId = none
  named : ∀ value, given condition.tokenValue = some value → ∃ playId id,
    given condition.playId = some playId ∧ tokenId = some id ∧ ⟨(playId, value), id⟩ ∈ issued

structure CallOf (issued : List Issue) (call : Call) : Prop where
  generated : call.permission.generate = some call.permission
  nonempty : call.condition.Nonempty
  get : call.phase = .get → ∃ playId value, given call.condition.playId = some playId ∧
    given call.condition.tokenValue = some value
  publish : ∀ tokenId, call.phase = .publish tokenId → Resolved issued call.condition tokenId

structure SentOf (issued : List Issue) (sent : Sent) : Prop where
  generated : sent.permission.generate = some sent.permission
  nonempty : sent.condition.Nonempty
  resolved : Resolved issued sent.condition sent.tokenId

/-- What the validators of the servers keep: their stores, and the tokens that have been issued
or derived. -/
structure Held (issued : List Issue) (authenticated : List Key) (v : Validator) : Prop where
  rooted : v.Rooted
  derived : ∀ ref < v.next, (v.holders ref).parentId ≠ none →
    '-' ∈ (v.holders ref).playToken.id.toList
  issued : ∀ ref < v.next, (v.holders ref).parentId = none → ∃ issue ∈ issued,
    issue.id = (v.holders ref).playToken.id ∧ issue.key.1 = (v.holders ref).playToken.playId ∧
      issue.key ∈ authenticated

structure Inv (parse : String → Option StoredToken) (w : World Server) : Prop where
  keys : ∀ first ∈ w.issued, ∀ second ∈ w.issued, first.key = second.key → first = second
  ids : ∀ first ∈ w.issued, ∀ second ∈ w.issued, first.id = second.id → first = second
  numbers : ∀ issue ∈ w.issued, issue.id ≠ "" ∧ '-' ∉ issue.id.toList
  records : ∀ key, ∀ data ∈ w.records key, ∃ stored, parse data = some stored ∧
    ⟨key, stored.token.id⟩ ∈ w.issued ∧ stored.token.playId = key.1
  reads : ∀ validation ∈ w.validations, ReadsOf w.issued validation.key validation.task
  held : ∀ server, Held w.issued w.authenticated (w.validators server)
  calls : ∀ call ∈ w.calls, CallOf w.issued call
  sent : ∀ server, ∀ sent ∈ w.queues server, SentOf w.issued sent

theorem given_eq {field : Option String} {value : String} (isGiven : given field = some value) :
    field = some value := (Option.filter_eq_some_iff.mp isGiven).1

theorem held_new : Held [] [] .new := by
  refine ⟨rooted_new, ?_, ?_⟩
  · intro ref known
    exact absurd known (Nat.not_lt_zero ref)
  · intro ref known
    exact absurd known (Nat.not_lt_zero ref)

omit [DecidableEq Server] in
theorem inv_new : Inv parse (World.new : World Server) := by
  refine ⟨?_, ?_, ?_, ?_, ?_, fun _ => held_new, ?_, ?_⟩
  · intro issue there
    cases there
  · intro issue there
    cases there
  · intro issue there
    cases there
  · intro key data there
    cases there
  · intro validation there
    cases there
  · intro call there
    cases there
  · intro server sent there
    cases there

section Growing

variable {issued issued' : List Issue} {authenticated authenticated' : List Key}

theorem Resolved.mono {condition : Condition} {tokenId : Option String}
    (resolved : Resolved issued condition tokenId) (more : issued ⊆ issued') :
    Resolved issued' condition tokenId := by
  refine ⟨resolved.absent, fun value isGiven => ?_⟩
  obtain ⟨playId, id, play, its, there⟩ := resolved.named value isGiven
  exact ⟨playId, id, play, its, more there⟩

theorem CallOf.mono {call : Call} (its : CallOf issued call) (more : issued ⊆ issued') :
    CallOf issued' call :=
  { its with publish := fun tokenId phase => (its.publish tokenId phase).mono more }

theorem SentOf.mono {sent : Sent} (its : SentOf issued sent) (more : issued ⊆ issued') :
    SentOf issued' sent := { its with resolved := its.resolved.mono more }

theorem ReadsOf.mono {key : Key} {task : Task} (reads : ReadsOf issued key task)
    (more : issued ⊆ issued') : ReadsOf issued' key task := by
  unfold ReadsOf at reads ⊢
  split
  · exact ⟨more reads.1, reads.2⟩
  · trivial

theorem Held.mono {v : Validator} (held : Held issued authenticated v) (more : issued ⊆ issued')
    (more' : authenticated ⊆ authenticated') : Held issued' authenticated' v := by
  refine ⟨held.rooted, held.derived, fun ref known root => ?_⟩
  obtain ⟨issue, there, id, play, key⟩ := held.issued ref known root
  exact ⟨issue, more there, id, play, more' key⟩

theorem Held.of_grown {v v' : Validator} (held : Held issued authenticated v)
    (rooted : v'.Rooted) (grown : v.Grown v') (next : v'.next = v.next) :
    Held issued authenticated v' := by
  refine ⟨rooted, fun ref known derived => ?_, fun ref known root => ?_⟩
  · rw [next] at known
    rw [(grown.identity ref known).parent] at derived
    rw [(grown.identity ref known).id]
    exact held.derived ref known derived
  · rw [next] at known
    rw [(grown.identity ref known).parent] at root
    rw [(grown.identity ref known).id, (grown.identity ref known).play]
    exact held.issued ref known root

theorem Held.added {v : Validator} (held : Held issued authenticated v) (holder : PlayTokenHolder)
    (rooted : (v.onValidated holder).Rooted)
    (derived : holder.parentId ≠ none → '-' ∈ holder.playToken.id.toList)
    (root : holder.parentId = none → ∃ issue ∈ issued, issue.id = holder.playToken.id ∧
      issue.key.1 = holder.playToken.playId ∧ issue.key ∈ authenticated) :
    Held issued authenticated (v.onValidated holder) := by
  have old : ∀ ref < v.next, (v.onValidated holder).holders ref = v.holders ref :=
    fun ref known => update_of_ne (Nat.ne_of_lt known) ..
  have new : (v.onValidated holder).holders v.next = holder := update_self ..
  refine ⟨rooted, fun ref known => ?_, fun ref known => ?_⟩
  · rcases Nat.lt_succ_iff_lt_or_eq.mp known with before | rfl
    · rw [old ref before]
      exact held.derived ref before
    · rw [new]
      exact derived
  · rcases Nat.lt_succ_iff_lt_or_eq.mp known with before | rfl
    · rw [old ref before]
      exact held.issued ref before
    · rw [new]
      exact root

end Growing

omit [DecidableEq Server] in
theorem matches_iff (inv : Inv parse w) {sent : Sent} (its : SentOf w.issued sent)
    (server : Server) (ref : Js.Ref) (known : ref < (w.validators server).next) :
    sent.event.Matches ((w.validators server).holders ref).playToken ↔
      sent.condition.Names w.issued ((w.validators server).holders ref).playToken := by
  have held := inv.held server
  constructor
  · rintro ⟨byId, byPlay, byUser, -⟩
    refine ⟨byPlay, byUser, fun value isGiven => ?_⟩
    obtain ⟨playId, id, play, same, there⟩ := its.resolved.named value isGiven
    refine ⟨_, there, rfl, (byId id ?_).symm⟩
    show given sent.tokenId = some id
    rw [same]
    exact Option.filter_eq_some_iff.mpr ⟨rfl, by simpa using (inv.numbers _ there).1⟩
  · rintro ⟨byPlay, byUser, byValue⟩
    refine ⟨fun id isGiven => ?_, byPlay, byUser, ?_⟩
    · cases value' : given sent.condition.tokenValue with
      | none =>
        have none' : given sent.tokenId = some id := isGiven
        rw [its.resolved.absent value'] at none'
        cases none'
      | some value =>
        obtain ⟨playId, id', play, same, there⟩ := its.resolved.named value value'
        have eq : id' = id := by
          have isGiven' := given_eq isGiven
          rw [show sent.event.id = sent.tokenId from rfl, same] at isGiven'
          exact Option.some.inj isGiven'
        subst eq
        obtain ⟨issue, listed, valued, sameId⟩ := byValue value value'
        have root : ((w.validators server).holders ref).parentId = none := by
          by_contra derived
          have dashed := held.derived ref known derived
          rw [← sameId] at dashed
          exact (inv.numbers issue listed).2 dashed
        obtain ⟨issue', listed', sameId', play', -⟩ := held.issued ref known root
        have this' := inv.ids issue listed issue' listed' (sameId.trans sameId'.symm)
        subst this'
        have key : issue.key = (playId, value) := by
          apply Prod.ext
          · exact play'.trans (byPlay playId play)
          · exact valued
        have same' := inv.keys issue listed _ there key
        rw [← sameId, same']
    · rintro ⟨noId, noPlay, noUser⟩
      rcases its.nonempty with play | user | value
      · exact play noPlay
      · exact user noUser
      · obtain ⟨value', isGiven⟩ := Option.ne_none_iff_exists'.mp value
        obtain ⟨playId, id, play, -, -⟩ := its.resolved.named value' isGiven
        rw [show given sent.event.playId = some playId from play] at noPlay
        cases noPlay

omit [DecidableEq Server] in
theorem authenticated_of_names (inv : Inv parse w) {call : Call} (its : CallOf w.issued call)
    (waits : call.phase = .get) (server : Server) (ref : Js.Ref)
    (known : ref < (w.validators server).next)
    (names : call.condition.Names w.issued ((w.validators server).holders ref).playToken) :
    call.condition.key ∈ w.authenticated := by
  obtain ⟨playId, value, play, value'⟩ := its.get waits
  obtain ⟨issue, listed, valued, sameId⟩ := names.2.2 value value'
  have root : ((w.validators server).holders ref).parentId = none := by
    by_contra derived
    have dashed := (inv.held server).derived ref known derived
    rw [← sameId] at dashed
    exact (inv.numbers issue listed).2 dashed
  obtain ⟨issue', listed', sameId', play', there⟩ := (inv.held server).issued ref known root
  have this' := inv.ids issue listed issue' listed' (sameId.trans sameId'.symm)
  subst this'
  have key : issue.key = call.condition.key := by
    unfold Condition.key
    rw [given_eq play, given_eq value']
    apply Prod.ext
    · exact play'.trans (names.1 playId play)
    · exact valued
  rw [← key]
  exact there

section Servers

variable {issued : List Issue} {authenticated : List Key} {v : Validator}

theorem Held.updatePermission (held : Held issued authenticated v) (req : TokenEvent)
    (permission : Option Permission) :
    Held issued authenticated (v.step (.updatePermission req permission)) := by
  have rooted := rooted_step (.updatePermission req permission) held.rooted
  apply held.of_grown (rooted trivial ⟨trivial, trivial⟩) (grown_step v _)
  exact (untouched_onUpdatePermissionEvent v req permission).kept.next

omit [DecidableEq Server] in
theorem Held.step (held : Held issued authenticated v) (w : World Server) (server : Server)
    (its : v = w.validators server) (action : Validator.Action)
      (derives : w.Derives server action) :
    Held issued authenticated (v.step action) := by
  have grown := Validator.grown_step v action
  have rooted := Validator.rooted_step action held.rooted
  cases action with
  | validate sessionId =>
    apply held.of_grown (rooted derives ⟨trivial, trivial⟩) grown
    exact (Validator.validate_frame v sessionId).2.2.2
  | validated sessionId token => exact derives.elim
  | derived sessionId playId tokenId parentPlays =>
    subst its
    have rooted' := rooted trivial ⟨derives.2, trivial⟩
    revert rooted'
    show (Validator.validateBySession _ _ _ _ _).Rooted →
      Held _ _ (Validator.validateBySession _ _ _ _ _)
    unfold Validator.validateBySession
    split
    · exact fun _ => held
    · exact fun _ => held
    · intro rooted
      apply held.added _ rooted
      · exact fun _ => derives.1
      · intro root
        cases root
  | closed sessionId =>
    apply held.of_grown (held.rooted.onSessionClose sessionId) grown
    exact (Validator.onSessionClose_frame v sessionId).2.2.1
  | revoke req =>
    apply held.of_grown (rooted trivial ⟨trivial, trivial⟩) grown
    exact (Validator.kept_updatePlayTokenByEvent v req .revoke).next
  | updatePermission req permission => exact derives.elim
  | immediate index =>
    apply held.of_grown (held.rooted.immediate index) grown
    exact (Validator.sameSessions_runImmediate v index).next

end Servers

theorem inv_perform (inv : Inv parse w) (server : Server) (action : Validator.Action)
    (held : Held w.issued w.authenticated ((w.validators server).step action)) :
    Inv parse (w.perform server action) := by
  refine { inv with held := fun other => ?_ }
  show Held w.issued w.authenticated (update w.validators server _ other)
  by_cases same : other = server
  · subst same
    rw [update_self]
    exact held
  · rw [update_of_ne same]
    exact inv.held other

omit [DecidableEq Server] in
theorem validation_next (inv : Inv parse w) {key : Key} {record : Option String}
    {task task' : Task} {reply : Reply} (reads : ReadsOf w.issued key task)
    (moves : next parse (w.records key) task reply = some (record, task')) :
    (record = w.records key ∨ record = none) ∧ ReadsOf w.issued key task' ∧
      ∀ sessionId token, task' = .validation sessionId (.succeeded token) →
        ⟨key, token.id⟩ ∈ w.issued ∧ token.playId = key.1 := by
  unfold TokenUse.next at moves
  split at moves
  · split at moves
    · next sessionId now stored parsed =>
      cases moves
      obtain ⟨data, there, parsed⟩ := Option.bind_eq_some_iff.mp parsed
      obtain ⟨stored', parsed', its⟩ := inv.records key data there
      rw [parsed] at parsed'
      cases parsed'
      exact ⟨.inl rfl, its, fun _ _ same => by cases same⟩
    · cases moves
      exact ⟨.inl rfl, trivial, fun _ _ same => by cases same⟩
  · cases moves
    exact ⟨.inl rfl, trivial, fun _ _ same => by cases same⟩
  · cases moves
    refine ⟨.inr rfl, ?_, ?_⟩
    · split <;> trivial
    · intro sessionId' token eq
      split at eq
      · cases eq
        exact reads
      · cases eq
  · cases moves
    refine ⟨?_, trivial, fun _ _ same => by cases same⟩
    split
    · exact .inr rfl
    · exact .inl rfl
  · cases moves
    exact ⟨.inr rfl, trivial, fun _ _ same => by cases same⟩
  · cases moves

omit [DecidableEq Server] in
theorem records_update {key : Key} {record : Option String}
    (of : record = w.records key ∨ record = none) (other : Key) (data : String)
    (there : data ∈ update w.records key record other) : data ∈ w.records other := by
  by_cases same : other = key
  · subst same
    rw [update_self] at there
    rcases of with rfl | rfl
    · exact there
    · cases there
  · rw [update_of_ne same] at there
    exact there

omit [DecidableEq Server] in
theorem inv_issue (inv : Inv parse w) (key : Key) (data : String)
    (called : w.Called parse (.issue key data)) : Inv parse (w.issue parse key data) := by
  obtain ⟨fresh, its⟩ := called
  unfold World.issue
  split
  · next stored free parsed =>
    obtain ⟨play, named, dashless, own⟩ := its stored parsed
    have more : w.issued ⊆ w.issued ++ [⟨key, stored.token.id⟩] := subset_append_left ..
    have new : (⟨key, stored.token.id⟩ : Issue) ∈ w.issued ++ [⟨key, stored.token.id⟩] :=
      mem_append_right _ (mem_singleton.mpr rfl)
    refine ⟨?_, ?_, ?_, ?_, ?_, ?_, ?_, ?_⟩
    · intro first there second there' same
      rcases mem_append.mp there with before | now <;>
        rcases mem_append.mp there' with before' | now'
      · exact inv.keys first before second before' same
      · cases mem_singleton.mp now'
        exact absurd same (fresh first before)
      · cases mem_singleton.mp now
        exact absurd same.symm (fresh second before')
      · rw [mem_singleton.mp now, mem_singleton.mp now']
    · intro first there second there' same
      rcases mem_append.mp there with before | now <;>
        rcases mem_append.mp there' with before' | now'
      · exact inv.ids first before second before' same
      · cases mem_singleton.mp now'
        exact absurd same (own first before)
      · cases mem_singleton.mp now
        exact absurd same.symm (own second before')
      · rw [mem_singleton.mp now, mem_singleton.mp now']
    · intro issue there
      rcases mem_append.mp there with before | now
      · exact inv.numbers issue before
      · cases mem_singleton.mp now
        exact ⟨named, dashless⟩
    · intro other data' there
      by_cases same : other = key
      · subst same
        dsimp only at there
        rw [update_self] at there
        cases there
        exact ⟨stored, parsed, new, play⟩
      · dsimp only at there
        rw [update_of_ne same] at there
        obtain ⟨stored', parsed', listed, play'⟩ := inv.records other data' there
        exact ⟨stored', parsed', more listed, play'⟩
    · exact fun validation there => (inv.reads validation there).mono more
    · exact fun server => (inv.held server).mono more (List.Subset.refl _)
    · exact fun call there => (inv.calls call there).mono more
    · exact fun server sent there => (inv.sent server sent there).mono more
  · exact inv

theorem inv_answer (inv : Inv parse w) (index : Nat) (reply : Reply)
    (permitted : w.Permitted parse (.answer index reply)) :
    Inv parse (w.answer parse index reply) := by
  unfold World.answer
  split
  · exact inv
  · next validation here =>
    split
    · exact inv
    · next record task moves =>
      obtain ⟨of, reads, token⟩ := validation_next inv
        (inv.reads _ (mem_of_getElem? here)) moves
      have unhidden : w.Unhidden validation.server task := permitted _ here (record, task) moves
      have moved : Inv parse { w with
          records := update w.records validation.key record
          validations := w.validations.set index { validation with task } } := by
        refine { inv with records := ?_, reads := ?_ }
        · exact fun key data there => inv.records key data (records_update of key data there)
        · intro other there
          rcases mem_or_eq_of_mem_set there with before | rfl
          · exact inv.reads other before
          · exact reads
      unfold World.validated
      split
      · next sessionId token' =>
        obtain ⟨listed, play⟩ := token sessionId token' rfl
        have more : w.authenticated ⊆ validation.key :: w.authenticated :=
          subset_cons_self ..
        have held := (moved.held validation.server).mono (List.Subset.refl _) more
        apply inv_perform
        · exact { moved with held := fun server =>
            (moved.held server).mono (List.Subset.refl _) more }
        · have rooted := Validator.rooted_step (.validated sessionId token') held.rooted trivial
            ⟨⟨(inv.numbers _ listed).1, ?_⟩, unhidden⟩
          · apply held.added _ rooted
            · exact fun derived => absurd rfl derived
            · exact fun _ => ⟨_, listed, rfl, play.symm, mem_cons_self⟩
          · intro ref known derived same
            have dashed := held.derived ref known derived
            rw [same] at dashed
            exact (inv.numbers _ listed).2 dashed
      · exact moved

omit [DecidableEq Server] in
theorem callOf_updatePermission (issued : List Issue) {permission : Permission}
    {condition : Condition} (generated : permission.generate = some permission)
    (nonempty : condition.Nonempty)
    (withPlay : given condition.tokenValue ≠ none → given condition.playId ≠ none) :
    CallOf issued (updatePermission permission condition) := by
  unfold updatePermission
  split
  · next playId value play value' =>
    refine ⟨generated, nonempty, fun _ => ⟨playId, value, play, value'⟩, ?_⟩
    intro tokenId phase
    cases phase
  · next other =>
    refine ⟨generated, nonempty, fun phase => (by cases phase), ?_⟩
    intro tokenId phase
    cases phase
    refine ⟨fun _ => rfl, fun value isGiven => ?_⟩
    have play := withPlay (by rw [isGiven]; exact Option.some_ne_none value)
    obtain ⟨playId, play'⟩ := Option.ne_none_iff_exists'.mp play
    exact absurd isGiven (other playId value play')

omit [DecidableEq Server] in
theorem call_next (inv : Inv parse w) {call : Call} (its : CallOf w.issued call) (reply : Reply) :
    CallOf w.issued { call with
        phase := (call.next parse (w.records call.condition.key) reply).2 } ∧
      ∀ sent ∈ (call.next parse (w.records call.condition.key) reply).1, SentOf w.issued sent := by
  have settled (outcome : Outcome) :
      CallOf w.issued { call with phase := .settled outcome } :=
    ⟨its.generated, its.nonempty, fun phase => (by cases phase),
      fun _ phase => (by cases phase)⟩
  have nothing : ∀ sent ∈ ([] : List Sent), SentOf w.issued sent := by
    intro sent there
    cases there
  have only (tokenId : Option String) (phase : call.phase = .publish tokenId) :
      ∀ sent ∈ [(⟨call.condition, tokenId, call.permission⟩ : Sent)], SentOf w.issued sent := by
    intro sent there
    cases mem_singleton.mp there
    exact ⟨its.generated, its.nonempty, its.publish tokenId phase⟩
  unfold Call.next
  cases phase : call.phase with
  | get =>
    cases reply with
    | done now =>
      dsimp only
      split
      · next stored parsed =>
        obtain ⟨data, there, parsed⟩ := Option.bind_eq_some_iff.mp parsed
        obtain ⟨stored', parsed', listed, -⟩ := inv.records _ data there
        rw [parsed] at parsed'
        cases parsed'
        obtain ⟨playId, value, play, value'⟩ := its.get phase
        refine ⟨⟨its.generated, its.nonempty, fun phase => (by cases phase), ?_⟩, nothing⟩
        intro tokenId phase'
        cases phase'
        refine ⟨fun none' => ?_, fun other isGiven => ?_⟩
        · rw [value'] at none'
          cases none'
        · rw [value'] at isGiven
          cases isGiven
          refine ⟨playId, stored.token.id, play, rfl, ?_⟩
          have key : call.condition.key = (playId, value) := by
            unfold Condition.key
            rw [given_eq play, given_eq value']
            rfl
          rw [← key]
          exact listed
      · exact ⟨settled .typeError, nothing⟩
    | failed executed => exact ⟨settled .failed, nothing⟩
  | publish tokenId =>
    cases reply with
    | done now => exact ⟨settled .fulfilled, only tokenId phase⟩
    | failed executed =>
      refine ⟨settled .failed, ?_⟩
      dsimp only
      split
      · exact only tokenId phase
      · exact nothing
  | settled outcome => exact ⟨settled outcome, nothing⟩

theorem inv_step (w : World Server) (action : Action Server) (inv : Inv parse w)
    (allowed : w.Called parse action ∧ w.Permitted parse action) :
    Inv parse (w.step parse action) := by
  obtain ⟨called, permitted⟩ := allowed
  cases action with
  | issue key data => exact inv_issue inv key data called
  | expire key =>
    refine { inv with records := ?_ }
    exact fun other data there =>
      inv.records other data (records_update (.inr rfl) other data there)
  | validate server sessionId key =>
    apply inv_perform
    · refine { inv with reads := ?_ }
      intro validation there
      rcases mem_append.mp there with before | now
      · exact inv.reads validation before
      · cases mem_singleton.mp now
        show ReadsOf _ _ (TokenUse.validate sessionId key.2)
        unfold TokenUse.validate
        split <;> trivial
    · exact (inv.held server).step w server rfl (.validate sessionId) called
  | answer index reply => exact inv_answer inv index reply permitted
  | updatePermission permission condition =>
    refine { inv with calls := ?_ }
    intro call there
    rcases mem_append.mp there with before | now
    · exact inv.calls call before
    · rw [mem_singleton.mp now]
      exact callOf_updatePermission w.issued called.1 called.2 permitted
  | reply index reply =>
    show Inv parse (w.reply parse index reply)
    unfold World.reply
    split
    · exact inv
    · next call here =>
      obtain ⟨moved, published⟩ := call_next inv (inv.calls _ (mem_of_getElem? here)) reply
      refine { inv with calls := ?_, sent := ?_ }
      · intro other there
        rcases mem_or_eq_of_mem_set there with before | rfl
        · exact inv.calls other before
        · exact moved
      · intro server sent there
        rcases mem_append.mp there with before | now
        · exact inv.sent server sent before
        · exact published sent now
  | deliver server =>
    show Inv parse (w.deliver server)
    unfold World.deliver
    split
    · exact inv
    · next sent rest here =>
      apply inv_perform
      · refine { inv with sent := ?_ }
        intro other sent' there
        apply inv.sent other
        dsimp only at there
        by_cases same : other = server
        · subst same
          rw [update_self] at there
          rw [here]
          exact mem_cons_of_mem _ there
        · rw [update_of_ne same] at there
          exact there
      · exact (inv.held server).updatePermission _ _
  | other server action =>
    exact inv_perform inv server action ((inv.held server).step w server rfl action called)

theorem perform_server (w : World Server) (other server : Server) (action : Validator.Action) :
    ((w.perform other action).validators server = w.validators server ∧
        (w.perform other action).changes server = w.changes server) ∨
      ∃ action', (w.perform other action).validators server = (w.validators server).step action' ∧
        (w.perform other action).changes server =
          w.changes server ++ (w.validators server).changes action' := by
  unfold World.perform
  dsimp only
  by_cases same : server = other
  · subst same
    rw [update_self, update_self]
    exact .inr ⟨action, rfl, rfl⟩
  · rw [update_of_ne same, update_of_ne same]
    exact .inl ⟨rfl, rfl⟩

theorem step_server (parse : String → Option StoredToken) (w : World Server)
    (action : Action Server) (server : Server) :
    ((w.step parse action).validators server = w.validators server ∧
        (w.step parse action).changes server = w.changes server) ∨
      ∃ action', (w.step parse action).validators server = (w.validators server).step action' ∧
        (w.step parse action).changes server =
          w.changes server ++ (w.validators server).changes action' := by
  cases action with
  | issue key data =>
    left
    show (w.issue parse key data).validators server = _ ∧
      (w.issue parse key data).changes server = _
    unfold World.issue
    split <;> exact ⟨rfl, rfl⟩
  | expire key => exact .inl ⟨rfl, rfl⟩
  | validate other sessionId key => exact perform_server _ other server (.validate sessionId)
  | answer index reply =>
    show ((w.answer parse index reply).validators server = _ ∧
      (w.answer parse index reply).changes server = _) ∨ ∃ action',
        (w.answer parse index reply).validators server = _ ∧
          (w.answer parse index reply).changes server = _
    unfold World.answer
    split
    · exact .inl ⟨rfl, rfl⟩
    · split
      · exact .inl ⟨rfl, rfl⟩
      · unfold World.validated
        split
        · exact perform_server _ _ server _
        · exact .inl ⟨rfl, rfl⟩
  | updatePermission permission condition => exact .inl ⟨rfl, rfl⟩
  | reply index reply =>
    left
    show (w.reply parse index reply).validators server = _ ∧
      (w.reply parse index reply).changes server = _
    unfold World.reply
    split <;> exact ⟨rfl, rfl⟩
  | deliver other =>
    show ((w.deliver other).validators server = _ ∧ (w.deliver other).changes server = _) ∨
      ∃ action', (w.deliver other).validators server = _ ∧ (w.deliver other).changes server = _
    unfold World.deliver
    split
    · exact .inl ⟨rfl, rfl⟩
    · exact perform_server _ other server _
  | other other action => exact perform_server w other server action

structure Following (parse : String → Option StoredToken) (before : Validator)
    (req : TokenEvent) (first past : Nat) (permission : Permission) (earlier : List Change)
    (server : Server) (w : World Server) : Prop where
  inv : Inv parse w
  since : ∃ since, w.changes server = earlier ++ since ∧
    Tracked before (before.targets req) first past permission (w.validators server)
      since ∧
    ∀ ref < before.next, ((w.validators server).holders ref).playToken.permission =
      since.foldl (Change.apply ref) (before.holders ref).playToken.permission

theorem following_step {before : Validator} {req : TokenEvent} {first past : Nat}
    {permission : Permission} {earlier : List Change} {server : Server} (rooted : before.Rooted)
    (w : World Server) (action : Action Server)
    (following : Following parse before req first past permission earlier server w)
    (allowed : w.Called parse action ∧ w.Permitted parse action) :
    Following parse before req first past permission earlier server (w.step parse action) := by
  refine ⟨inv_step w action following.inv allowed, ?_⟩
  obtain ⟨since, changes, tracked, tells⟩ := following.since
  rcases step_server parse w action server with ⟨same, same'⟩ | ⟨action', steps, more⟩
  · rw [same, same']
    exact ⟨since, changes, tracked, tells⟩
  · refine ⟨since ++ (w.validators server).changes action', ?_, ?_, ?_⟩
    · rw [more, changes, append_assoc]
    · rw [steps]
      exact tracked.step (following.inv.held server).rooted (fun _ => rooted.lt_of_child)
        (fun _ => rooted.derived_of_child) action'
    · intro ref known
      rw [steps, permission_step _ ref action' (Nat.lt_of_lt_of_le known tracked.next),
        tells ref known, foldl_append]

/-- In every run in which a value is only given with its play, for a token that is not yet
authenticated, and no validation ends with a token that its server stores, the calls change the
tokens that they name. -/
theorem exact_of_permitted (parse : String → Option StoredToken) (actions : List (Action Server))
    (run : Run.Allowed (World.step parse)
      (fun w action => w.Called parse action ∧ w.Permitted parse action) World.new actions) :
    World.Unrefused parse actions ∧ World.Exact parse actions := by
  constructor
  · intro front index answered back split w call here refused waits server ref there names
    subst split
    obtain ⟨runFront, ⟨-, permitted⟩, -⟩ := (Run.allowed_append World.new front _).mp run
    have inv : Inv parse w := Run.invariant inv_step World.new front inv_new runFront
    have its := inv.calls call (mem_of_getElem? here)
    apply permitted call here waits
    exact authenticated_of_names inv its waits server ref
      ((inv.held server).rooted.sound.known ref there) names
  · intro front server back split w handled after sent first processed
    subst split
    obtain ⟨runFront, event, runBack⟩ := (Run.allowed_append World.new front _).mp run
    have inv : Inv parse w := Run.invariant inv_step World.new front inv_new runFront
    have rooted := (inv.held server).rooted
    obtain ⟨rest, here⟩ : ∃ rest, w.queues server = sent :: rest := by
      obtain ⟨rest, eq⟩ := List.head?_eq_some_iff.mp first
      exact ⟨rest, eq⟩
    have its : SentOf w.issued sent := by
      apply inv.sent server
      rw [here]
      exact mem_cons_self
    have delivers : handled = ({ w with queues := update w.queues server rest }.perform
        server (.updatePermission sent.event (some sent.permission))) := by
      show w.deliver server = _
      unfold World.deliver
      rw [here]
    have validators : handled.validators server =
        (w.validators server).updatePlayTokenByEvent sent.event (.permission sent.permission) := by
      rw [delivers]
      show update w.validators server _ server = _
      rw [update_self]
      show (w.validators server).onUpdatePermissionEvent sent.event (some sent.permission) = _
      unfold Validator.onUpdatePermissionEvent
      simp only [its.generated]
    have changes : handled.changes server = w.changes server ++
        Validator.changesOf sent.permission (w.validators server).nextWalk
          ((w.validators server).targets sent.event) := by
      rw [delivers]
      show update w.changes server _ server = _
      rw [update_self]
      unfold Validator.changes
      simp only [its.generated]
    have start : Following parse (w.validators server) sent.event (w.validators server).nextWalk
        (handled.validators server).nextWalk sent.permission (w.changes server) server handled := by
      refine ⟨inv_step w _ inv event, _, changes, ?_, ?_⟩
      · rw [validators]
        exact Validator.tracked_event rooted sent.event
      · intro ref _
        rw [validators]
        exact Validator.permission_foldl (w.validators server) ref sent.permission _
    obtain ⟨since, changes', tracked, tells⟩ :=
      (Run.invariant (following_step rooted) handled back start runBack).since
    have drops : (after.changes server).drop (w.changes server).length = since := by
      rw [changes']
      exact drop_left
    rw [drops]
    apply (tracked.exact rooted processed tells).of_iff
    intro ref there
    exact matches_iff inv its server ref (rooted.sound.known ref there)

end Invariants

/-- A token is looked up by a call, and authenticated before the event comes. -/
def lookedUp : List (Action Unit) :=
  [.issue ("play", "value") "data",
    .updatePermission { Permission.initial with readTick := true }
      ⟨some "play", none, some "value"⟩,
    .reply 0 (.done 1), .validate () "s" ("play", "value"), .answer 0 (.done 1),
    .answer 0 (.done 2), .reply 0 (.done 3), .deliver ()]

theorem exact_of_permitted_lookedUp :
    let parse : String → Option StoredToken := fun _ => some sampleToken
    (((Run.final (World.step parse) World.new lookedUp).validators ()).holders 0).playToken.permission
        = { Permission.initial with readTick := true } ∧
      World.Unrefused parse lookedUp ∧ World.Exact parse lookedUp := by
  intro parse
  exact ⟨by decide +kernel, exact_of_permitted parse lookedUp (by decide +kernel)⟩

def authenticatedFirst : List (Action Unit) :=
  [.issue ("play", "value") "data", .validate () "s" ("play", "value"), .answer 0 (.done 1),
    .answer 0 (.done 2), .updatePermission .initial ⟨some "play", none, some "value"⟩]

/-- The call fails: the record of the token it names is gone. -/
theorem authenticatedFirst_refused :
    ¬ ∀ (parse : String → Option StoredToken) (actions : List (Action Unit)),
      Run.Allowed (World.step parse) (World.Called parse) World.new actions →
        World.Unrefused parse actions ∧ World.Exact parse actions := by
  intro claimed
  have run := claimed (fun _ => some sampleToken)
    (authenticatedFirst ++ [.reply 0 (.done 3)]) (by decide +kernel)
  refine run.1 authenticatedFirst 0 (.done 3) [] rfl
    ⟨⟨some "play", none, some "value"⟩, .initial, .get⟩ ?_ ?_ rfl () 0 ?_ ?_
  all_goals decide +kernel

end AkashicSystem.PlaylogServer.TokenPermits
