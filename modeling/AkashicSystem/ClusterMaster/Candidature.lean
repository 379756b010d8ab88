import AkashicSystem.ClusterMaster.MasterSeat

/-!
# A candidate and its requests

What the status of a controller says of the seat, and what a candidate awaits: the reply
of a request, or the event of a watcher.  One lemma for each callback, call and event of
the client.
-/

set_option autoImplicit false

namespace AkashicSystem.ClusterMaster

open List

variable {Session : Type}

def Sent.Created : Sent Session → Prop
  | ⟨.create _ _, some .ok⟩ => True
  | _ => False

instance : DecidablePred (Sent.Created : Sent Session → Prop)
  | ⟨.create _ _, some .ok⟩ => isTrue trivial
  | ⟨.create _ _, none⟩ | ⟨.create _ _, some (.stat _)⟩ | ⟨.create _ _, some (.error _)⟩
  | ⟨.check .., _⟩ | ⟨.watch _, _⟩ | ⟨.demoteExists, _⟩ | ⟨.demoteRemove _, _⟩ => isFalse id

theorem Sent.Created.replied {sent : Sent Session} (created : sent.Created) :
    sent.reply = some .ok := by
  unfold Sent.Created at created
  split at created
  · rfl
  · exact absurd created id

def Reply.isLoss : Reply Session → Bool
  | .error code => code.isLoss
  | .ok | .stat _ => false

def Request.Rechecks : Request → Prop
  | .check .reconnection _ => True
  | _ => False

instance : DecidablePred Request.Rechecks := by
  intro request
  unfold Request.Rechecks
  split <;> infer_instance

def Request.Candidates : Request → Prop
  | .create _ _ | .check (.candidature _) _ | .watch _ => True
  | _ => False

def Request.Undemoting : Request → Prop
  | .demoteExists | .demoteRemove _ => False
  | _ => True

/-- The replies that ZooKeeper and the client give, where the session has the seat or not. -/
def Sent.Answered (connected closed : Bool) (sessionId : Session) (owns : Prop) :
    Sent Session → Prop
  | ⟨.create _ _, some .ok⟩ => connected = true ∧ owns
  | ⟨.create _ _, some (.error code)⟩ =>
    code.isLoss = true ∨ code = .nodeExists ∨ code = .sessionExpired ∧ closed = true
  | ⟨.check .reconnection _, some (.stat seat)⟩ =>
    connected = true ∧ owns ∧ ∃ node ∈ seat, node.owner = sessionId
  | ⟨.check (.candidature _) _, some (.stat seat)⟩ | ⟨.watch _, some (.stat seat)⟩ =>
    connected = true ∧ ((∃ node ∈ seat, node.owner = sessionId) → owns)
  | ⟨.check _ _, some (.error code)⟩ | ⟨.watch _, some (.error code)⟩ =>
    code.isLoss = true ∨ code = .sessionExpired ∧ closed = true
  | ⟨request, none⟩ => request.Undemoting
  | _ => False

namespace Controller

/-- What the status and the requests say of the seat, where the session has it or not. -/
structure Safe (sessionId : Session) (owns alive : Prop) (c : Controller Session) : Prop where
  linked : c.connected = true → alive ∧ c.closed = false
  closed : c.closed = true → c.masterStatus = .fatal
  fatal : c.masterStatus = .fatal →
    c.closed = true ∨ ∀ sent ∈ c.requests, ¬sent.request.Rechecks
  answered : ∀ sent ∈ c.requests, sent.Answered c.connected c.closed sessionId owns
  master : c.masterStatus = .master → c.connected = true ∧ owns
  reChecking : c.masterStatus = .reChecking → alive → owns
  rechecks : ∀ sent ∈ c.requests, sent.request.Rechecks → alive → owns
  called : c.endPoint = none → c.requests = [] ∧ c.watchers = [] ∧
    (c.masterStatus = .notMaster ∨ c.masterStatus = .fatal)

structure Settling (owns : Prop) (c : Controller Session) : Prop where
  owner : owns → c.masterStatus = .master ∨ c.masterStatus = .reChecking ∨
    c.masterStatus = .fatal ∨ ∃ sent ∈ c.requests, sent.Created
  reChecking : c.masterStatus = .reChecking → c.connected = true →
    ∃ sent ∈ c.requests, sent.request.Rechecks

/-- A candidate that is not the master awaits a reply, or watches the seat of another. -/
structure Live (sessionId : Session) (owns : Prop) (c : Controller Session) : Prop
    extends Settling owns c where
  candidate : c.masterStatus = .notMaster ∨ c.masterStatus = .subMaster → c.endPoint ≠ none →
    (∃ sent ∈ c.requests, sent.request.Candidates) ∨
      ∃ seen ∈ c.watchers, ∃ node ∈ seen, node.owner ≠ sessionId

variable {sessionId : Session} {owns alive : Prop} {c : Controller Session}

def without (c : Controller Session) (index : Nat) : Controller Session :=
  { c with requests := c.requests.eraseIdx index }

section

variable (safe : c.Safe sessionId owns alive)
include safe

theorem Safe.without (index : Nat) : (c.without index).Safe sessionId owns alive := by
  have kept : ∀ sent ∈ c.requests.eraseIdx index, sent ∈ c.requests :=
    fun _ => mem_of_mem_eraseIdx
  constructor
  case linked => exact safe.linked
  case closed => exact safe.closed
  case fatal =>
    intro fatal
    apply (safe.fatal fatal).imp id
    exact fun none' sent there => none' sent (kept sent there)
  case answered => exact fun sent there => safe.answered sent (kept sent there)
  case master => exact safe.master
  case reChecking => exact safe.reChecking
  case rechecks => exact fun sent there => safe.rechecks sent (kept sent there)
  case called =>
    intro uncalled
    obtain ⟨requests, watchers, status⟩ := safe.called uncalled
    refine ⟨?_, watchers, status⟩
    rw [Controller.without, requests, eraseIdx_nil]

/-- A request is sent that a demotion has not made, a check only where it is due. -/
theorem Safe.send (request : Request) (undemoting : request.Undemoting) (called : c.endPoint ≠ none)
    (due : request.Rechecks → (alive → owns) ∧ (c.masterStatus = .fatal → c.closed = true)) :
    (c.send request).Safe sessionId owns alive := by
  constructor
  case linked => exact safe.linked
  case closed => exact safe.closed
  case fatal =>
    intro fatal
    rcases safe.fatal fatal with closed | none'
    · exact .inl closed
    · by_cases rechecks : request.Rechecks
      · exact .inl ((due rechecks).2 fatal)
      · refine .inr fun sent there => ?_
        rcases mem_append.mp there with before | added
        · exact none' sent before
        · rw [mem_singleton.mp added]
          exact rechecks
  case answered =>
    intro sent there
    rcases mem_append.mp there with before | added
    · exact safe.answered sent before
    · rw [mem_singleton.mp added]
      show Sent.Answered c.connected c.closed sessionId owns _
      by_cases closed : c.closed = true
      · simp only [closed, if_true]
        cases request with
        | create caller data => exact .inr (.inr ⟨rfl, rfl⟩)
        | check checker retryCount => cases checker <;> exact .inr ⟨rfl, rfl⟩
        | watch caller => exact .inr ⟨rfl, rfl⟩
        | demoteExists | demoteRemove version => exact absurd undemoting id
      · simp only [closed, Bool.false_eq_true, if_false]
        cases request with
        | create caller data => exact undemoting
        | check checker retryCount => cases checker <;> exact undemoting
        | watch caller | demoteExists | demoteRemove version => exact undemoting
  case master => exact safe.master
  case reChecking => exact safe.reChecking
  case rechecks =>
    intro sent there rechecks
    rcases mem_append.mp there with before | added
    · exact safe.rechecks sent before rechecks
    · rw [mem_singleton.mp added] at rechecks
      exact (due rechecks).1
  case called => exact fun uncalled => absurd uncalled called

theorem Safe.setFatal (unchecked : c.closed = true ∨ ∀ sent ∈ c.requests, ¬sent.request.Rechecks) :
    (c.setMasterStatus .fatal).Safe sessionId owns alive where
  linked := safe.linked
  closed := fun _ => rfl
  fatal := fun _ => unchecked
  answered := safe.answered
  master := fun master => absurd master (by simp [setMasterStatus])
  reChecking := fun reChecking => absurd reChecking (by simp [setMasterStatus])
  rechecks := safe.rechecks
  called := fun uncalled =>
    have before := safe.called uncalled
    ⟨before.1, before.2.1, .inr rfl⟩

theorem Safe.setMaster (called : c.endPoint ≠ none)
    (connected : c.connected = true) (has : owns) :
    (c.setMasterStatus .master).Safe sessionId owns alive where
  linked := safe.linked
  closed := fun closed => absurd closed (by
    show ¬c.closed = true
    simp [(safe.linked connected).2])
  fatal := fun fatal => absurd fatal (by simp [setMasterStatus])
  answered := safe.answered
  master := fun _ => ⟨connected, has⟩
  reChecking := fun reChecking => absurd reChecking (by simp [setMasterStatus])
  rechecks := safe.rechecks
  called := fun uncalled => absurd uncalled called

theorem Safe.setSubMaster (called : c.endPoint ≠ none)
    (living : c.masterStatus ≠ .fatal) :
    (c.setMasterStatus .subMaster).Safe sessionId owns alive where
  linked := safe.linked
  closed := fun closed => absurd (safe.closed closed) living
  fatal := fun fatal => absurd fatal (by simp [setMasterStatus])
  answered := safe.answered
  master := fun master => absurd master (by simp [setMasterStatus])
  reChecking := fun reChecking => absurd reChecking (by simp [setMasterStatus])
  rechecks := safe.rechecks
  called := fun uncalled => absurd uncalled called

theorem Safe.watch (called : c.endPoint ≠ none)
    (seat : Option (Node Session)) :
    ({ c with watchers := c.watchers ++ [seat] } : Controller Session).Safe sessionId owns
      alive where
  linked := safe.linked
  closed := safe.closed
  fatal := safe.fatal
  answered := safe.answered
  master := safe.master
  reChecking := safe.reChecking
  rechecks := safe.rechecks
  called := fun uncalled => absurd uncalled called

end

theorem rejected_fatal (fatal : c.masterStatus = .fatal) (caller : Caller) :
    c.rejected caller = c := by
  cases caller with
  | post => rfl
  | watcher =>
    rw [rejected, setMasterStatus, ← fatal]

section

variable (safe : c.Safe sessionId owns alive)
include safe

theorem Safe.runAsSubMaster (called : c.endPoint ≠ none)
    (caller : Caller) : (c.runAsSubMaster caller).Safe sessionId owns alive := by
  unfold Controller.runAsSubMaster
  split
  · exact safe
  · rename_i standing
    have living : c.masterStatus ≠ .fatal := by
      intro fatal
      exact standing ⟨by simp [fatal], by simp [fatal]⟩
    apply (safe.setSubMaster called living).send (.watch caller) trivial called
    exact fun rechecks => absurd rechecks id

theorem Safe.tryGetMasterPostInner (called : c.endPoint ≠ none) (caller : Caller) :
    (c.tryGetMasterPostInner caller).Safe sessionId owns alive := by
  unfold Controller.tryGetMasterPostInner
  split
  · exact safe
  · split
    · rename_i uncalled
      exact absurd uncalled called
    · exact safe.send _ trivial called fun rechecks => absurd rechecks id

theorem Safe.checkMaster (called : c.endPoint ≠ none) (caller : Caller) :
    (c.checkMaster (.candidature caller)).Safe sessionId owns alive := by
  unfold Controller.checkMaster
  split
  · exact safe.runAsSubMaster called caller
  · exact safe.send _ trivial called fun rechecks => absurd rechecks id

end

theorem Live.of_fatal (fatal : c.masterStatus = .fatal) : c.Live sessionId owns where
  owner := fun _ => .inr (.inr (.inl fatal))
  reChecking := by simp [fatal]
  candidate := by simp [fatal]

section

variable (settling : c.Settling owns)
include settling

theorem Settling.send (request : Request) :
    (c.send request).Settling owns where
  owner := by
    intro has
    rcases settling.owner has with master | reChecking | fatal | ⟨sent, there, created⟩
    · exact .inl master
    · exact .inr (.inl reChecking)
    · exact .inr (.inr (.inl fatal))
    · exact .inr (.inr (.inr ⟨sent, mem_append_left _ there, created⟩))
  reChecking := by
    intro reChecking connected
    obtain ⟨sent, there, rechecks⟩ := settling.reChecking reChecking connected
    exact ⟨sent, mem_append_left _ there, rechecks⟩

theorem Settling.live_send (request : Request)
    (candidates : request.Candidates) : (c.send request).Live sessionId owns where
  toSettling := settling.send request
  candidate := fun _ _ => .inl ⟨_, mem_append_right _ mem_cons_self, candidates⟩

theorem Settling.runAsSubMaster (caller : Caller) :
    (c.runAsSubMaster caller).Live sessionId owns := by
  unfold Controller.runAsSubMaster
  split
  · rename_i standing
    exact ⟨settling, fun candidate => absurd candidate (by simp [standing.1, standing.2])⟩
  · rename_i standing
    have waiting : (c.setMasterStatus .subMaster).Settling owns := by
      constructor
      case owner =>
        intro has
        rcases settling.owner has with master | reChecking | fatal | created
        · exact absurd ⟨by simp [master], by simp [master]⟩ standing
        · exact absurd ⟨by simp [reChecking], by simp [reChecking]⟩ standing
        · exact absurd ⟨by simp [fatal], by simp [fatal]⟩ standing
        · exact .inr (.inr (.inr created))
      case reChecking => exact fun reChecking => absurd reChecking (by simp [setMasterStatus])
    exact waiting.live_send (.watch caller) trivial

theorem Settling.tryGetMasterPostInner (called : c.endPoint ≠ none)
    (caller : Caller) : (c.tryGetMasterPostInner caller).Live sessionId owns := by
  unfold Controller.tryGetMasterPostInner
  split
  · rename_i fatal
    exact .of_fatal fatal
  · split
    · rename_i uncalled
      exact absurd uncalled called
    · exact settling.live_send _ trivial

theorem Settling.checkMaster (caller : Caller) :
    (c.checkMaster (.candidature caller)).Live sessionId owns := by
  unfold Controller.checkMaster
  split
  · exact settling.runAsSubMaster caller
  · exact settling.live_send _ trivial

end

variable {index : Nat} {popped sent : Sent Session} {was : Option (Reply Session)}
  {request : Request} {closed connected : Bool}

theorem mem_eraseIdx {requests : List (Sent Session)} (found : requests[index]? = some popped)
    (there : sent ∈ requests) (other : sent ≠ popped) : sent ∈ requests.eraseIdx index := by
  obtain ⟨k, at'⟩ := mem_iff_getElem?.mp there
  refine mem_eraseIdx_iff_getElem?.mpr ⟨k, ?_, at'⟩
  intro same
  rw [same, found] at at'
  exact other (Option.some.inj at').symm

section

variable (live : c.Live sessionId owns)
include live

theorem Live.owner_without (found : c.requests[index]? = some popped) (uncreated : ¬popped.Created)
    (has : owns) :
    c.masterStatus = .master ∨ c.masterStatus = .reChecking ∨ c.masterStatus = .fatal ∨
      ∃ sent ∈ c.requests.eraseIdx index, sent.Created := by
  rcases live.owner has with master | reChecking | fatal | ⟨sent, there, created⟩
  · exact .inl master
  · exact .inr (.inl reChecking)
  · exact .inr (.inr (.inl fatal))
  · refine .inr (.inr (.inr ⟨sent, mem_eraseIdx found there ?_, created⟩))
    rintro rfl
    exact uncreated created

theorem Live.settling_without (found : c.requests[index]? = some popped)
    (uncreated : ¬popped.Created)
    (unchecked : ¬popped.request.Rechecks) :
    (c.without index).Settling owns where
  owner := live.owner_without found uncreated
  reChecking := by
    intro reChecking connected
    obtain ⟨sent, there, rechecks⟩ := live.reChecking reChecking connected
    refine ⟨sent, mem_eraseIdx found there ?_, rechecks⟩
    rintro rfl
    exact unchecked rechecks

theorem Live.recheck {retryCount : Nat}
    (found : c.requests[index]? = some ⟨.check .reconnection retryCount, was⟩) :
    ((c.without index).send (.check .reconnection (retryCount + 1))).Live sessionId owns where
  owner := by
    intro has
    rcases live.owner_without found id has with master | reChecking | fatal | ⟨sent, there, created⟩
    · exact .inl master
    · exact .inr (.inl reChecking)
    · exact .inr (.inr (.inl fatal))
    · exact .inr (.inr (.inr ⟨sent, mem_append_left _ there, created⟩))
  reChecking := fun _ _ => ⟨_, mem_append_right _ mem_cons_self, trivial⟩
  candidate := by
    intro standing called
    rcases live.candidate standing called with ⟨sent, there, candidates⟩ | watching
    · refine .inl ⟨sent, mem_append_left _ (mem_eraseIdx found there ?_), candidates⟩
      rintro rfl
      exact candidates
    · exact .inr watching

end

/-- The check of a candidature is given up, or one of two checks after a reconnection. -/
def GivesUp (c : Controller Session) (index : Nat) : Request → Prop
  | .check (.candidature _) retryCount => maxRetryCount ≤ retryCount + 1
  | .check .reconnection retryCount =>
    maxRetryCount ≤ retryCount + 1 ∧
      ∃ sent ∈ c.requests.eraseIdx index, sent.request.Rechecks
  | _ => False

instance (c : Controller Session) (index : Nat) : DecidablePred (c.GivesUp index) := by
  intro request
  unfold GivesUp
  split <;> infer_instance

structure Borne (c : Controller Session) (index : Nat) (popped : Sent Session)
    (reply : Reply Session) : Prop where
  created : popped.Created → reply = .ok ∨ c.masterStatus = .fatal
  patient : reply.isLoss = true → c.masterStatus = .fatal ∨ ¬c.GivesUp index popped.request

instance [DecidableEq Session] (c : Controller Session) (index : Nat) (popped : Sent Session)
    (reply : Reply Session) : Decidable (c.Borne index popped reply) :=
  decidable_of_iff ((popped.Created → reply = .ok ∨ c.masterStatus = .fatal) ∧
      (reply.isLoss = true → c.masterStatus = .fatal ∨ ¬c.GivesUp index popped.request))
    ⟨fun both => ⟨both.1, both.2⟩, fun borne => ⟨borne.created, borne.patient⟩⟩

theorem Safe.unchecked (safe : c.Safe sessionId owns alive) (there : ⟨request, was⟩ ∈ c.requests)
    (rechecks : request.Rechecks) (fatal : c.masterStatus = .fatal) : c.closed = true := by
  rcases safe.fatal fatal with closed | none'
  · exact closed
  · exact absurd rechecks (none' _ there)

theorem Live.without (live : c.Live sessionId owns) (found : c.requests[index]? = some popped)
    (uncreated : ¬popped.Created) (unchecked : ¬popped.request.Rechecks) (has : owns) :
    (c.without index).Live sessionId owns := by
  have settling := live.settling_without found uncreated unchecked
  refine ⟨settling, fun candidate _ => ?_⟩
  have standing : c.masterStatus = .notMaster ∨ c.masterStatus = .subMaster := candidate
  rcases settling.owner has with master | reChecking | fatal | ⟨sent, there, created⟩
  · have master' : c.masterStatus = .master := master
    simp [master'] at standing
  · have reChecking' : c.masterStatus = .reChecking := reChecking
    simp [reChecking'] at standing
  · have fatal' : c.masterStatus = .fatal := fatal
    simp [fatal'] at standing
  · refine .inl ⟨sent, there, ?_⟩
    unfold Sent.Created at created
    split at created
    · trivial
    · exact absurd created id

/-- The controller is safe, and what it awaits goes on. -/
def Steady (sessionId : Session) (owns alive : Prop) (c : Controller Session) : Prop :=
  c.Safe sessionId owns alive ∧ c.Live sessionId owns

section

variable (safe : c.Safe sessionId owns alive)
include safe

theorem Safe.called_of_mem (there : sent ∈ c.requests) : c.endPoint ≠ none := by
  intro uncalled
  rw [(safe.called uncalled).1] at there
  cases there

theorem Safe.rejected (fatal : c.masterStatus = .fatal)
    (caller : Caller) : (c.rejected caller).Steady sessionId owns alive := by
  rw [rejected_fatal fatal]
  exact ⟨safe, .of_fatal fatal⟩

theorem Safe.checkFailed {checker : Checker} {retryCount : Nat} {code : Code}
    (found : c.requests[index]? = some ⟨.check checker retryCount, was⟩)
    (answered : Sent.Answered c.connected c.closed sessionId owns
      ⟨.check checker retryCount, some (.error code)⟩)
    (borne : c.Borne index ⟨.check checker retryCount, was⟩ (.error code))
    (last : ¬(code.isLoss = true ∧ retryCount + 1 < maxRetryCount)) :
    ((c.without index).checkFailed checker).Steady sessionId owns alive := by
  have there := mem_of_getElem? found
  have erased := safe.without index
  -- The client has closed, or the controller was fatal, or no other check is under way.
  have ends : c.masterStatus = .fatal ∨ checker = .reconnection ∧
      ∀ sent ∈ c.requests.eraseIdx index, ¬sent.request.Rechecks := by
    by_cases loss : code.isLoss = true
    · rcases borne.patient loss with fatal | patient
      · exact .inl fatal
      · have many : maxRetryCount ≤ retryCount + 1 := by
          by_contra few
          exact last ⟨loss, by omega⟩
        cases checker with
        | candidature caller => exact absurd many patient
        | reconnection =>
          exact .inr ⟨rfl, fun sent kept rechecks => patient ⟨many, sent, kept, rechecks⟩⟩
    · have closed : c.closed = true := by
        cases checker with
        | candidature caller | reconnection => exact (answered.resolve_left loss).2
      exact .inl (safe.closed closed)
  cases checker with
  | candidature caller =>
    rcases ends with fatal | ⟨other, _⟩
    · exact erased.rejected fatal caller
    · cases other
  | reconnection =>
    refine ⟨erased.setFatal ?_, .of_fatal rfl⟩
    rcases ends with fatal | ⟨_, alone⟩
    · exact .inl (safe.unchecked there trivial fatal)
    · exact .inr alone

end

section

variable [DecidableEq Session] {index : Nat} {was : Option (Reply Session)}

variable {reply : Reply Session}

theorem Steady.replied_create {caller : Caller} {data : String}
    (steady : c.Steady sessionId owns alive)
    (found : c.requests[index]? = some ⟨.create caller data, was⟩)
    (answered : Sent.Answered c.connected c.closed sessionId owns ⟨.create caller data, some reply⟩)
    (borne : c.Borne index ⟨.create caller data, was⟩ reply) :
    ((c.without index).replied sessionId (.create caller data) reply).Steady sessionId owns
      alive := by
  have erased := steady.1.without index
  have called : (c.without index).endPoint ≠ none :=
    steady.1.called_of_mem (mem_of_getElem? found)
  cases reply with
  | ok =>
    show Steady _ _ _ (if c.masterStatus = .fatal then _ else _)
    by_cases fatal : c.masterStatus = .fatal
    · rw [if_pos fatal]
      exact ⟨erased, .of_fatal fatal⟩
    · rw [if_neg fatal]
      refine ⟨erased.setMaster called answered.1 answered.2, ?_⟩
      exact ⟨⟨fun _ => .inl rfl, by simp [setMasterStatus]⟩, by simp [setMasterStatus]⟩
  | stat seat => exact absurd answered id
  | error code =>
    -- The seat is another's, unless the controller is fatal.
    have settling : (c.without index).Settling owns := by
      by_cases created : Sent.Created (⟨.create caller data, was⟩ : Sent Session)
      · have fatal := (borne.created created).resolve_left (by simp)
        have live : (c.without index).Live sessionId owns := .of_fatal fatal
        exact live.toSettling
      · exact steady.2.settling_without found created id
    show Steady _ _ _ (if code.isLoss then _ else _)
    by_cases loss : code.isLoss = true
    · rw [if_pos loss]
      exact ⟨erased.checkMaster called caller, settling.checkMaster caller⟩
    · rw [if_neg loss]
      by_cases exists' : code = .nodeExists
      · rw [if_pos exists']
        exact ⟨erased.runAsSubMaster called caller, settling.runAsSubMaster caller⟩
      · rw [if_neg exists']
        have closed := ((answered.resolve_left loss).resolve_left exists').2
        exact erased.rejected (steady.1.closed closed) caller

theorem Steady.replied_check {checker : Checker} {retryCount : Nat}
    (steady : c.Steady sessionId owns alive)
    (found : c.requests[index]? = some ⟨.check checker retryCount, was⟩)
    (answered : Sent.Answered c.connected c.closed sessionId owns
      ⟨.check checker retryCount, some reply⟩)
    (borne : c.Borne index ⟨.check checker retryCount, was⟩ reply) :
    ((c.without index).replied sessionId (.check checker retryCount) reply).Steady sessionId owns
      alive := by
  have there := mem_of_getElem? found
  have erased := steady.1.without index
  have called : (c.without index).endPoint ≠ none := steady.1.called_of_mem there
  cases reply with
  | ok => cases checker <;> exact absurd answered id
  | stat seat =>
    cases checker with
    | candidature caller =>
      have settling := steady.2.settling_without found id id
      cases seat with
      | none => exact ⟨erased.runAsSubMaster called caller, settling.runAsSubMaster caller⟩
      | some node =>
        show Steady _ _ _ (if decide (node.owner = sessionId) = true then _ else _)
        by_cases own : node.owner = sessionId
        · rw [if_pos (decide_eq_true own)]
          exact ⟨erased, steady.2.without found id id (answered.2 ⟨node, rfl, own⟩)⟩
        · rw [if_neg (by simpa using own)]
          exact ⟨erased.runAsSubMaster called caller, settling.runAsSubMaster caller⟩
    | reconnection =>
      obtain ⟨connected, has, node, rfl, own⟩ := answered
      have promoted : (c.without index).replied sessionId (.check .reconnection retryCount)
          (.stat (some node)) = (c.without index).setMasterStatus .master := by
        simp [replied, checked, own]
      rw [promoted]
      refine ⟨erased.setMaster called connected has, ?_⟩
      exact ⟨⟨fun _ => .inl rfl, by simp [setMasterStatus]⟩, by simp [setMasterStatus]⟩
  | error code =>
    show Steady _ _ _ (if code.isLoss = true ∧ retryCount + 1 < maxRetryCount then _ else _)
    by_cases again : code.isLoss = true ∧ retryCount + 1 < maxRetryCount
    · rw [if_pos again]
      cases checker with
      | candidature caller =>
        have settling := steady.2.settling_without found id id
        exact ⟨erased.send _ trivial called (fun rechecks => absurd rechecks id),
          settling.live_send _ trivial⟩
      | reconnection =>
        refine ⟨erased.send _ trivial called fun _ => ⟨?_, ?_⟩, steady.2.recheck found⟩
        · exact steady.1.rechecks _ there trivial
        · exact steady.1.unchecked there trivial
    · rw [if_neg again]
      exact steady.1.checkFailed found answered borne again

theorem Steady.replied_watch {caller : Caller} (steady : c.Steady sessionId owns alive)
    (found : c.requests[index]? = some ⟨.watch caller, was⟩)
    (answered : Sent.Answered c.connected c.closed sessionId owns ⟨.watch caller, some reply⟩) :
    ((c.without index).replied sessionId (.watch caller) reply).Steady sessionId owns alive := by
  have erased := steady.1.without index
  have settling := steady.2.settling_without found id id
  have called : (c.without index).endPoint ≠ none :=
    steady.1.called_of_mem (mem_of_getElem? found)
  cases reply with
  | ok => exact absurd answered id
  | stat seat =>
    have watching := erased.watch called seat
    have settling' : ({ c.without index with
        watchers := (c.without index).watchers ++ [seat] } : Controller Session).Settling owns :=
      ⟨settling.owner, settling.reChecking⟩
    cases seat with
    | none =>
      exact ⟨watching.tryGetMasterPostInner called caller,
        settling'.tryGetMasterPostInner called caller⟩
    | some node =>
      refine ⟨watching, settling', fun standing asked => ?_⟩
      by_cases own : node.owner = sessionId
      · have live := steady.2.without found id id (answered.2 ⟨node, rfl, own⟩)
        rcases live.candidate standing asked with requested | ⟨seen, there, other⟩
        · exact .inl requested
        · exact .inr ⟨seen, mem_append_left _ there, other⟩
      · exact .inr ⟨some node, mem_append_right _ mem_cons_self, node, rfl, own⟩
  | error code =>
    show Steady _ _ _ (if code.isLoss then _ else _)
    by_cases loss : code.isLoss = true
    · rw [if_pos loss]
      exact ⟨erased.send _ trivial called (fun rechecks => absurd rechecks id),
        settling.live_send _ trivial⟩
    · rw [if_neg loss]
      exact erased.rejected (steady.1.closed (answered.resolve_left loss).2) caller

theorem Steady.replied {request : Request} (steady : c.Steady sessionId owns alive)
    (found : c.requests[index]? = some ⟨request, was⟩)
    (answered : Sent.Answered c.connected c.closed sessionId owns ⟨request, some reply⟩)
    (borne : c.Borne index ⟨request, was⟩ reply) :
    ((c.without index).replied sessionId request reply).Steady sessionId owns alive := by
  cases request with
  | create caller data => exact steady.replied_create found answered borne
  | check checker retryCount => exact steady.replied_check found answered borne
  | watch caller => exact steady.replied_watch found answered
  | demoteExists | demoteRemove version => cases reply <;> exact absurd answered id

end

/-! ## A controller that is fatal stays so -/

section

variable (fatal : c.masterStatus = .fatal)
include fatal

theorem tryGetMasterPostInner_fatal (caller : Caller) :
    c.tryGetMasterPostInner caller = c := if_pos fatal

theorem runAsSubMaster_fatal (caller : Caller) : c.runAsSubMaster caller = c := by
  rw [runAsSubMaster, if_pos]
  simp [fatal]

theorem checkMaster_fatal (caller : Caller) : c.checkMaster (.candidature caller) = c := by
  rw [checkMaster, if_pos (.inr (.inr fatal))]
  exact runAsSubMaster_fatal fatal caller

theorem tryGetMasterPost_fatal (myEndpoint : String) :
    (c.tryGetMasterPost myEndpoint).masterStatus = .fatal := by
  unfold tryGetMasterPost
  split
  · exact fatal
  · exact (congrArg masterStatus (tryGetMasterPostInner_fatal
      (c := { c with endPoint := some myEndpoint }) fatal .post)).trans fatal

theorem onDisconnected_fatal : c.onDisconnected.masterStatus = .fatal := by
  simp [onDisconnected, fatal]

theorem onConnected_fatal : c.onConnected.masterStatus = .fatal := by
  simp [onConnected, fatal]

end

theorem onEvent_fatal {watchers : List (Option (Node Session))}
    (fatal : c.masterStatus = .fatal) (event : Event) :
    ({ c with watchers := watchers }.onEvent event).masterStatus = .fatal := by
  cases event with
  | nodeDeleted =>
    exact (congrArg masterStatus (tryGetMasterPostInner_fatal
      (c := { c with watchers := watchers }) fatal .post)).trans fatal
  | nodeCreated | nodeDataChanged | nodeChildrenChanged => exact fatal

theorem replied_fatal [DecidableEq Session] {reply : Reply Session}
    (safe : c.Safe sessionId owns alive) (found : c.requests[index]? = some ⟨request, was⟩)
    (answered : Sent.Answered c.connected c.closed sessionId owns ⟨request, some reply⟩)
    (fatal : c.masterStatus = .fatal) :
    ((c.without index).replied sessionId request reply).masterStatus = .fatal := by
  have there := mem_of_getElem? found
  have fatal' : (c.without index).masterStatus = .fatal := fatal
  cases request with
  | create caller data =>
    cases reply with
    | ok =>
      show (if c.masterStatus = .fatal then _ else _ : Controller Session).masterStatus = _
      rw [if_pos fatal]
      exact fatal
    | stat seat => exact absurd answered id
    | error code =>
      simp only [replied, checkMaster_fatal fatal', runAsSubMaster_fatal fatal',
        rejected_fatal fatal', ite_self]
      exact fatal
  | check checker retryCount =>
    cases checker with
    | candidature caller =>
      cases reply with
      | ok => exact absurd answered id
      | stat seat =>
        cases seat with
        | none =>
          show ((c.without index).runAsSubMaster caller).masterStatus = _
          rw [runAsSubMaster_fatal fatal']
          exact fatal
        | some node =>
          simp only [replied, checked, runAsSubMaster_fatal fatal', ite_self]
          exact fatal
      | error code =>
        simp only [replied, checkFailed, rejected_fatal fatal']
        split <;> exact fatal
    | reconnection =>
      -- The client has closed, and gives errors only.
      have closed := safe.unchecked there trivial fatal
      have disconnected : c.connected ≠ true := by
        intro connected
        have open' := (safe.linked connected).2
        rw [closed] at open'
        cases open'
      cases reply with
      | ok => exact absurd answered id
      | stat seat => exact absurd answered.1 disconnected
      | error code =>
        simp only [replied]
        split
        · exact fatal
        · rfl
  | watch caller =>
    cases reply with
    | ok => exact absurd answered id
    | stat seat =>
      simp only [replied]
      split
      · exact (congrArg masterStatus (tryGetMasterPostInner_fatal (c := { c.without index with
          watchers := (c.without index).watchers ++ [seat] }) fatal' caller)).trans fatal
      · exact fatal
    | error code =>
      simp only [replied, rejected_fatal fatal']
      split <;> exact fatal
  | demoteExists | demoteRemove version => cases reply <;> exact absurd answered id

/-! ## The calls and the events of the client -/

theorem Steady.tryGetMasterPost (steady : c.Steady sessionId owns alive) (myEndpoint : String) :
    (c.tryGetMasterPost myEndpoint).Steady sessionId owns alive := by
  unfold Controller.tryGetMasterPost
  split
  · exact steady
  · rename_i uncalled
    obtain ⟨requests, watchers, status⟩ := steady.1.called uncalled
    have safe : ({ c with endPoint := some myEndpoint } : Controller Session).Safe sessionId
        owns alive :=
      { steady.1 with called := fun other => absurd other (by simp) }
    have settling : ({ c with endPoint := some myEndpoint } : Controller Session).Settling owns :=
      ⟨steady.2.owner, steady.2.reChecking⟩
    exact ⟨safe.tryGetMasterPostInner (by simp) .post,
      settling.tryGetMasterPostInner (by simp) .post⟩

theorem answered_of_disconnected {owns' : Prop}
    (answered : sent.Answered false closed sessionId owns) :
    sent.Answered connected closed sessionId owns' := by
  unfold Sent.Answered at answered ⊢
  split at answered <;> first | exact answered | exact absurd answered.1 (by simp)

theorem undemoting_of_answered (answered : sent.Answered connected closed sessionId owns) :
    sent.request.Undemoting := by
  unfold Sent.Answered at answered
  split at answered <;> trivial

theorem lost_answered (undemoting : sent.request.Undemoting) :
    (Sent.lost sent).Answered connected closed sessionId owns := by
  obtain ⟨request, reply⟩ := sent
  cases request with
  | create caller data => exact .inl rfl
  | check checker retryCount => cases checker <;> exact .inl rfl
  | watch caller => exact .inl rfl
  | demoteExists | demoteRemove version => exact absurd undemoting id

theorem timeout_answered (undemoting : request.Undemoting) :
    Sent.Answered connected closed sessionId owns ⟨request, some (.error .operationTimeout)⟩ := by
  cases request with
  | create caller data => exact .inl rfl
  | check checker retryCount => cases checker <;> exact .inl rfl
  | watch caller => exact .inl rfl
  | demoteExists | demoteRemove version => exact absurd undemoting id

theorem closed_answered (undemoting : sent.request.Undemoting) :
    (Sent.closed sent).Answered connected true sessionId owns := by
  obtain ⟨request, reply⟩ := sent
  cases request with
  | create caller data => exact .inr (.inr ⟨rfl, rfl⟩)
  | check checker retryCount => cases checker <;> exact .inr ⟨rfl, rfl⟩
  | watch caller => exact .inr ⟨rfl, rfl⟩
  | demoteExists | demoteRemove version => exact absurd undemoting id

section

variable (steady : c.Steady sessionId owns alive)
include steady

theorem Steady.onDisconnected
    (uncreated : c.masterStatus = .fatal ∨ ∀ sent ∈ c.requests, ¬sent.Created) :
    c.onDisconnected.Steady sessionId owns alive := by
  have answered : ∀ sent ∈ c.requests.map Sent.lost,
      sent.Answered false c.closed sessionId owns := by
    intro sent there
    obtain ⟨before, known, rfl⟩ := mem_map.mp there
    exact lost_answered (undemoting_of_answered (steady.1.answered before known))
  have rechecks : ∀ sent ∈ c.requests.map Sent.lost, sent.request.Rechecks → alive → owns := by
    intro sent there
    obtain ⟨before, known, rfl⟩ := mem_map.mp there
    exact steady.1.rechecks before known
  have called : c.endPoint = none → c.requests.map Sent.lost = [] ∧ c.watchers = [] ∧
      (c.masterStatus = .notMaster ∨ c.masterStatus = .fatal) := by
    intro uncalled
    obtain ⟨requests, watchers, status⟩ := steady.1.called uncalled
    exact ⟨by rw [requests, map_nil], watchers, status⟩
  unfold Controller.onDisconnected
  dsimp only
  split
  · rename_i master
    have master' : c.masterStatus = .master := master
    constructor
    · constructor
      case linked => exact fun connected => absurd connected (by simp [setMasterStatus])
      case closed =>
        intro closed
        have fatal := steady.1.closed closed
        rw [master'] at fatal
        cases fatal
      case fatal => exact fun fatal => absurd fatal (by simp [setMasterStatus])
      case answered => exact answered
      case master => exact fun other => absurd other (by simp [setMasterStatus])
      case reChecking => exact fun _ _ => (steady.1.master master').2
      case rechecks => exact rechecks
      case called =>
        intro uncalled
        obtain ⟨_, _, status⟩ := called uncalled
        rw [master'] at status
        rcases status with other | other <;> cases other
    · refine ⟨⟨fun _ => .inr (.inl rfl), ?_⟩, fun standing =>
      absurd standing (by simp [setMasterStatus])⟩
      exact fun _ connected => absurd connected (by simp [setMasterStatus])
  · rename_i other
    have other' : c.masterStatus ≠ .master := other
    constructor
    · constructor
      case linked => exact fun connected => absurd connected (by simp)
      case closed => exact steady.1.closed
      case fatal =>
        intro fatal
        apply (steady.1.fatal fatal).imp id
        intro none' sent there
        obtain ⟨before, known, rfl⟩ := mem_map.mp there
        exact none' before known
      case answered => exact answered
      case master => exact fun master => absurd master other'
      case reChecking => exact steady.1.reChecking
      case rechecks => exact rechecks
      case called => exact called
    · constructor
      · constructor
        case owner =>
          intro has
          rcases steady.2.owner has with master | reChecking | fatal | ⟨sent, there, created⟩
          · exact .inl master
          · exact .inr (.inl reChecking)
          · exact .inr (.inr (.inl fatal))
          · rcases uncreated with fatal | none'
            · exact .inr (.inr (.inl fatal))
            · exact absurd created (none' sent there)
        case reChecking => exact fun _ connected => absurd connected (by simp)
      · intro standing asked
        rcases steady.2.candidate standing asked with ⟨sent, there, candidates⟩ | watching
        · exact .inl ⟨Sent.lost sent, mem_map_of_mem there, candidates⟩
        · exact .inr watching

theorem Steady.onConnected (disconnected : c.connected = false) (living : alive)
    (open' : c.closed = false) :
    c.onConnected.Steady sessionId owns alive := by
  have safe : ({ c with connected := true } : Controller Session).Safe sessionId owns alive :=
    { steady.1 with
      linked := fun _ => ⟨living, open'⟩
      answered := by
        intro sent there
        have before := steady.1.answered sent there
        rw [disconnected] at before
        exact answered_of_disconnected before
      master := fun master => ⟨rfl, (steady.1.master master).2⟩ }
  have unfolded : c.onConnected = if c.masterStatus = .reChecking
      then { c with connected := true }.checkMaster .reconnection
      else { c with connected := true } := rfl
  rw [unfolded]
  by_cases checking : c.masterStatus = .reChecking
  · rw [if_pos checking]
    have called : c.endPoint ≠ none := by
      intro uncalled
      have status := (steady.1.called uncalled).2.2
      rw [checking] at status
      rcases status with other | other <;> cases other
    have sends : ({ c with connected := true } : Controller Session).checkMaster .reconnection =
        ({ c with connected := true } : Controller Session).send (.check .reconnection 0) := by
      rw [checkMaster, if_neg]
      simp [called, checking]
    rw [sends]
    refine ⟨safe.send _ trivial called fun _ => ⟨steady.1.reChecking checking, ?_⟩, ?_⟩
    · intro fatal
      have fatal' : c.masterStatus = .fatal := fatal
      rw [checking] at fatal'
      cases fatal'
    · refine ⟨⟨fun _ => .inr (.inl checking), fun _ _ => ?_⟩, fun standing => ?_⟩
      · exact ⟨_, mem_append_right _ mem_cons_self, trivial⟩
      · have standing' : c.masterStatus = .notMaster ∨ c.masterStatus = .subMaster := standing
        rw [checking] at standing'
        rcases standing' with other | other <;> cases other
  · rw [if_neg checking]
    exact ⟨safe, ⟨steady.2.owner, fun other => absurd other checking⟩, steady.2.candidate⟩

theorem Steady.onState (state : State) : (c.onState state).Steady sessionId owns alive := by
  refine ⟨?_, .of_fatal rfl⟩
  constructor
  case linked =>
    exact fun connected => absurd connected (by simp [Controller.onState, setMasterStatus])
  case closed => exact fun _ => rfl
  case fatal => exact fun _ => .inl rfl
  case answered =>
    intro sent there
    obtain ⟨before, known, rfl⟩ := mem_map.mp there
    exact closed_answered (undemoting_of_answered (steady.1.answered before known))
  case master => exact fun master => absurd master (by simp [Controller.onState, setMasterStatus])
  case reChecking =>
    exact fun reChecking => absurd reChecking (by simp [Controller.onState, setMasterStatus])
  case rechecks =>
    intro sent there
    obtain ⟨before, known, rfl⟩ := mem_map.mp there
    exact steady.1.rechecks before known
  case called =>
    intro uncalled
    obtain ⟨requests, watchers, _⟩ := steady.1.called uncalled
    refine ⟨?_, watchers, .inr rfl⟩
    show c.requests.map Sent.closed = []
    rw [requests, map_nil]

theorem Steady.onEvent {seen : Option (Node Session)}
    (found : c.watchers[index]? = some seen) (event : Event) :
    ({ c with watchers := c.watchers.eraseIdx index }.onEvent event).Steady sessionId owns
      alive := by
  have called : c.endPoint ≠ none := by
    intro uncalled
    rw [(steady.1.called uncalled).2.1] at found
    cases found
  have safe : ({ c with watchers := c.watchers.eraseIdx index } : Controller Session).Safe
      sessionId owns alive :=
    { steady.1 with called := fun uncalled => absurd uncalled called }
  have settling : ({ c with watchers := c.watchers.eraseIdx index } :
      Controller Session).Settling owns := ⟨steady.2.owner, steady.2.reChecking⟩
  have again : (({ c with watchers := c.watchers.eraseIdx index } :
      Controller Session).doSubMaster .watcher).Steady sessionId owns alive :=
    ⟨safe.send _ trivial called (fun rechecks => absurd rechecks id),
      settling.live_send _ trivial⟩
  cases event with
  | nodeDeleted =>
    exact ⟨safe.tryGetMasterPostInner called .post, settling.tryGetMasterPostInner called .post⟩
  | nodeCreated | nodeDataChanged | nodeChildrenChanged => exact again

end

theorem answered_mono {owns' : Prop} (answered : sent.Answered connected closed sessionId owns)
    (more : owns → owns') : sent.Answered connected closed sessionId owns' := by
  unfold Sent.Answered at answered ⊢
  split at answered
  · exact ⟨answered.1, more answered.2⟩
  · exact answered
  · exact ⟨answered.1, more answered.2.1, answered.2.2⟩
  · exact ⟨answered.1, fun seen => more (answered.2 seen)⟩
  · exact ⟨answered.1, fun seen => more (answered.2 seen)⟩
  · exact answered
  · exact answered
  · exact answered
  · exact absurd answered id

theorem Steady.served (steady : c.Steady sessionId owns alive) {owns' : Prop}
    {reply : Reply Session} (found : c.requests[index]? = some ⟨request, none⟩)
    (answered : Sent.Answered c.connected c.closed sessionId owns' ⟨request, some reply⟩)
    (more : owns → owns')
    (created : owns' → owns ∨ Sent.Created (⟨request, some reply⟩ : Sent Session)) :
    ({ c with requests := c.requests.set index ⟨request, some reply⟩ } :
      Controller Session).Steady sessionId owns' alive := by
  have there := mem_of_getElem? found
  have kept : ∀ sent ∈ c.requests.set index ⟨request, some reply⟩,
      sent ∈ c.requests ∨ sent = ⟨request, some reply⟩ :=
    fun _ => mem_or_eq_of_mem_set
  have added : ⟨request, some reply⟩ ∈ c.requests.set index ⟨request, some reply⟩ := by
    obtain ⟨inside, _⟩ := List.getElem?_eq_some_iff.mp found
    exact mem_set inside _
  -- Another request than the one that is served stays as it is.
  have others : ∀ sent ∈ c.requests, sent ≠ ⟨request, none⟩ →
      sent ∈ c.requests.set index ⟨request, some reply⟩ := by
    intro sent known other
    obtain ⟨k, at'⟩ := mem_iff_getElem?.mp known
    apply mem_of_getElem? (i := k)
    rw [List.getElem?_set_ne, at']
    rintro rfl
    rw [found] at at'
    exact other (Option.some.inj at').symm
  have same : ∀ kind : Request → Prop, (∃ sent ∈ c.requests, kind sent.request) →
      ∃ sent ∈ c.requests.set index ⟨request, some reply⟩, kind sent.request := by
    rintro kind ⟨sent, known, is⟩
    by_cases this : sent = ⟨request, none⟩
    · rw [this] at is
      exact ⟨_, added, is⟩
    · exact ⟨sent, others sent known this, is⟩
  constructor
  · constructor
    case linked => exact steady.1.linked
    case closed => exact steady.1.closed
    case fatal =>
      intro fatal
      apply (steady.1.fatal fatal).imp id
      intro none' sent mem
      rcases kept sent mem with known | rfl
      · exact none' sent known
      · exact fun rechecks => none' ⟨request, none⟩ there rechecks
    case answered =>
      intro sent mem
      rcases kept sent mem with known | rfl
      · exact answered_mono (steady.1.answered sent known) more
      · exact answered
    case master =>
      intro master
      obtain ⟨connected, has⟩ := steady.1.master master
      exact ⟨connected, more has⟩
    case reChecking => exact fun reChecking living => more (steady.1.reChecking reChecking living)
    case rechecks =>
      intro sent mem rechecks living
      rcases kept sent mem with known | rfl
      · exact more (steady.1.rechecks sent known rechecks living)
      · exact more (steady.1.rechecks _ there rechecks living)
    case called =>
      intro uncalled
      rw [(steady.1.called uncalled).1] at there
      cases there
  · constructor
    · constructor
      case owner =>
        intro has
        rcases created has with before | now
        · rcases steady.2.owner before with master | reChecking | fatal | ⟨sent, known, was⟩
          · exact .inl master
          · exact .inr (.inl reChecking)
          · exact .inr (.inr (.inl fatal))
          · refine .inr (.inr (.inr ⟨sent, others sent known ?_, was⟩))
            rintro rfl
            cases was.replied
        · exact .inr (.inr (.inr ⟨_, added, now⟩))
      case reChecking =>
        exact fun checking connected =>
          same Request.Rechecks (steady.2.reChecking checking connected)
    · intro standing asked
      exact (steady.2.candidate standing asked).imp (same Request.Candidates) id

theorem Steady.expire (steady : c.Steady sessionId owns alive) {owns' alive' : Prop}
    (disconnected : c.connected = false) (gone : ¬owns') (dead : ¬alive') :
    c.Steady sessionId owns' alive' := by
  constructor
  · constructor
    case linked =>
      intro connected
      rw [disconnected] at connected
      cases connected
    case closed => exact steady.1.closed
    case fatal => exact steady.1.fatal
    case answered =>
      intro sent there
      have before := steady.1.answered sent there
      rw [disconnected] at before
      exact answered_of_disconnected before
    case master =>
      intro master
      have connected := (steady.1.master master).1
      rw [disconnected] at connected
      cases connected
    case reChecking => exact fun _ living => absurd living dead
    case rechecks => exact fun _ _ _ living => absurd living dead
    case called => exact steady.1.called
  · exact ⟨⟨fun has => absurd has gone, steady.2.reChecking⟩, steady.2.candidate⟩

end Controller

end AkashicSystem.ClusterMaster
