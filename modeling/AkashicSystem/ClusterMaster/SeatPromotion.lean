import AkashicSystem.ClusterMaster.Candidature

/-!
# The owner of the seat and the master

A controller that is connected and awaits nothing is the master if its session has the
seat, and watches the seat of another session if not.  A creation whose reply is lost
goes through a check that the status may forbid, and that does not promote.
-/

set_option autoImplicit false

namespace AkashicSystem.ClusterMaster

variable {Session : Type}

namespace World

open Controller

/-- The controller of a session, once it candidates and while it is not fatal, is the master if
its session has the seat, and watches the seat of another session if not; this holds while it is
connected and awaits nothing. -/
def Seated (w : World Session) (i : Session) : Prop :=
  (w.controllers i).connected = true → (w.controllers i).requests = [] →
    (w.controllers i).endPoint ≠ none → (w.controllers i).masterStatus ≠ .fatal →
      (w.Owns i → (w.controllers i).masterStatus = .master) ∧
        (¬w.Owns i → ∃ seen ∈ (w.controllers i).watchers, ∃ node ∈ seen, node.owner ≠ i)

/-- What may happen besides: a demotion of the controller does not belong here, nor that another
one removes the seat of its session. -/
def Given (i : Session) (w : World Session) : Action Session → Prop
  | .demoteMasterPost sessionId => sessionId ≠ i
  | .serve sessionId index => ∀ node ∈ w.removed sessionId index, node.owner ≠ i
  | _ => True

/-- A creation that has taken effect does not lose its reply, the check of a candidature is not
given up, and a check after a reconnection only where it is the last one. -/
def Undisturbed (i : Session) (w : World Session) : Action Session → Prop
  | .disconnected sessionId => sessionId = i →
      (w.controllers i).masterStatus = .fatal ∨ ∀ sent ∈ (w.controllers i).requests, ¬sent.Created
  | .timeout sessionId index => sessionId = i → ∀ sent ∈ (w.controllers i).requests[index]?,
      (w.controllers i).Borne index sent (.error .operationTimeout)
  | .reply sessionId index => sessionId = i → ∀ sent ∈ (w.controllers i).requests[index]?,
      ∀ reply ∈ sent.reply, (w.controllers i).Borne index sent reply
  | _ => True

instance [DecidableEq Session] (i : Session) (w : World Session) : DecidablePred (w.Given i)
  | .demoteMasterPost sessionId => inferInstanceAs (Decidable (sessionId ≠ i))
  | .serve sessionId index =>
    inferInstanceAs (Decidable (∀ node ∈ w.removed sessionId index, node.owner ≠ i))
  | .tryGetMasterPost .. | .disconnected _ | .connected _ | .state .. | .expire _ | .reply ..
  | .timeout .. | .event .. | .setData _ => isTrue trivial

instance [DecidableEq Session] (i : Session) (w : World Session) : DecidablePred (w.Undisturbed i)
  | .disconnected sessionId => inferInstanceAs (Decidable (sessionId = i →
      (w.controllers i).masterStatus = .fatal ∨
        ∀ sent ∈ (w.controllers i).requests, ¬sent.Created))
  | .timeout sessionId index => inferInstanceAs (Decidable (sessionId = i →
      ∀ sent ∈ (w.controllers i).requests[index]?,
        (w.controllers i).Borne index sent (.error .operationTimeout)))
  | .reply sessionId index => inferInstanceAs (Decidable (sessionId = i →
      ∀ sent ∈ (w.controllers i).requests[index]?,
        ∀ reply ∈ sent.reply, (w.controllers i).Borne index sent reply))
  | .tryGetMasterPost .. | .demoteMasterPost _ | .connected _ | .state .. | .expire _ | .serve ..
  | .event .. | .setData _ => isTrue trivial

def Steady (i : Session) (w : World Session) : Prop :=
  (w.controllers i).Steady i (w.Owns i) (w.alive i = true)

variable {i : Session} {w : World Session} {request : Request}

theorem Steady.seated (steady : w.Steady i) : w.Seated i := by
  intro connected idle asked living
  have alive := (steady.1.linked connected).1
  -- A controller that checks again, or that has just got the seat, awaits a reply.
  have settled : (w.controllers i).masterStatus ≠ .reChecking := by
    intro checking
    obtain ⟨sent, there, _⟩ := steady.2.reChecking checking connected
    rw [idle] at there
    cases there
  constructor
  · intro has
    rcases steady.2.owner has with master | checking | fatal | ⟨sent, there, _⟩
    · exact master
    · exact absurd checking settled
    · exact absurd fatal living
    · rw [idle] at there
      cases there
  · intro without
    have standing : (w.controllers i).masterStatus = .notMaster ∨
        (w.controllers i).masterStatus = .subMaster := by
      cases status : (w.controllers i).masterStatus with
      | notMaster => exact .inl rfl
      | reChecking => exact absurd status settled
      | master => exact absurd (steady.1.master status).2 without
      | fatal => exact absurd status living
      | subMaster => exact .inr rfl
    rcases steady.2.candidate standing asked with ⟨sent, there, _⟩ | watching
    · rw [idle] at there
      cases there
    · exact watching

theorem steady_new (i : Session) : (new : World Session).Steady i := by
  constructor
  · constructor
    case linked => exact fun connected => absurd connected (by simp [new, Controller.new])
    case closed => exact fun closed => absurd closed (by simp [new, Controller.new])
    case fatal => exact fun fatal => absurd fatal (by simp [new, Controller.new])
    case answered => exact fun sent there => absurd there List.not_mem_nil
    case master => exact fun master => absurd master (by simp [new, Controller.new])
    case reChecking => exact fun checking => absurd checking (by simp [new, Controller.new])
    case rechecks => exact fun sent there => absurd there List.not_mem_nil
    case called => exact fun _ => ⟨rfl, rfl, .inl rfl⟩
  · constructor
    · constructor
      case owner =>
        rintro ⟨node, seat, _⟩
        cases seat
      case reChecking => exact fun checking => absurd checking (by simp [new, Controller.new])
    · exact fun _ asked => absurd rfl asked

/-- What a step keeps for a session: its controller is steady, and fatal if it was. -/
structure Keeps (i : Session) (w w' : World Session) : Prop where
  steady : w'.Steady i
  fatal : (w.controllers i).masterStatus = .fatal → (w'.controllers i).masterStatus = .fatal

theorem Keeps.refl (steady : w.Steady i) : Keeps i w w :=
  ⟨steady, id⟩

theorem keeps_seat {w' : World Session} (steady : w.Steady i)
    (same : w'.controllers i = w.controllers i) (alive : w'.alive i = w.alive i)
    (owns : w'.Owns i ↔ w.Owns i) : Keeps i w w' := by
  constructor
  · rw [Steady, same, alive, propext owns]
    exact steady
  · rw [same]
    exact id

variable [DecidableEq Session]

theorem keeps_set {c : Controller Session} (steady : c.Steady i (w.Owns i) (w.alive i = true))
    (fatal : (w.controllers i).masterStatus = .fatal → c.masterStatus = .fatal) :
    Keeps i w (w.set i c) := by
  constructor
  · show ((w.set i c).controllers i).Steady i (w.Owns i) (w.alive i = true)
    rw [set_same]
    exact steady
  · rw [set_same]
    exact fatal

theorem keeps_other {sessionId : Session} {c : Controller Session} (steady : w.Steady i)
    (other : i ≠ sessionId) : Keeps i w (w.set sessionId c) := by
  constructor
  · show ((w.set sessionId c).controllers i).Steady i (w.Owns i) (w.alive i = true)
    rw [set_other w sessionId i c other]
    exact steady
  · rw [set_other w sessionId i c other]
    exact id

theorem keeps_deliver (steady : w.Steady i) {index : Nat} {was : Option (Reply Session)}
    {reply : Reply Session} (found : (w.controllers i).requests[index]? = some ⟨request, was⟩)
    (answered : Sent.Answered (w.controllers i).connected (w.controllers i).closed i (w.Owns i)
      ⟨request, some reply⟩)
    (borne : (w.controllers i).Borne index ⟨request, was⟩ reply) :
    Keeps i w (w.deliver i index request reply) :=
  keeps_set (Steady.replied steady found answered borne)
    (replied_fatal steady.1 found answered)

theorem keeps_served (steady : w.Steady i) {index : Nat} {reply : Reply Session}
    {seat : Option (Node Session)}
    (found : (w.controllers i).requests[index]? = some ⟨request, none⟩)
    (answered : Sent.Answered (w.controllers i).connected (w.controllers i).closed i
      (∃ node ∈ seat, node.owner = i) ⟨request, some reply⟩)
    (more : w.Owns i → ∃ node ∈ seat, node.owner = i)
    (created : (∃ node ∈ seat, node.owner = i) → w.Owns i ∨
      Sent.Created (⟨request, some reply⟩ : Sent Session)) :
    Keeps i w ((w.set i { w.controllers i with
      requests := (w.controllers i).requests.set index ⟨request, some reply⟩ }).commit seat) := by
  constructor
  · show ((w.set i _).controllers i).Steady i (∃ node ∈ seat, node.owner = i) (w.alive i = true)
    rw [set_same]
    exact Steady.served steady found answered more created
  · rw [commit_controllers, set_same]
    exact id

omit [DecidableEq Session] in
theorem owns_serve_other {sessionId : Session} {index : Nat}
    (found : (w.controllers sessionId).requests[index]? = some ⟨request, none⟩)
    (connected : (w.controllers sessionId).connected = true) (other : i ≠ sessionId)
    (given : w.Given i (.serve sessionId index)) :
    (∃ node ∈ (w.serve sessionId request).1, node.owner = i) ↔ w.Owns i := by
  cases request with
  | create caller data =>
    cases seat : w.seat with
    | none => simp [serve, seat, Owns, other.symm]
    | some node => simp [serve, seat, Owns]
  | check checker retryCount | watch caller | demoteExists => exact Iff.rfl
  | demoteRemove version =>
    cases seat : w.seat with
    | none => simp [serve, seat, Owns]
    | some node =>
      by_cases same : node.version = version
      · have removes : node ∈ w.removed sessionId index := by
          simp [removed, found, connected, seat, same]
        simp [serve, seat, same, Owns, given node removes]
      · simp [serve, seat, same, Owns]

theorem keeps_serve (i : Session) (w : World Session) (sessionId : Session) (index : Nat)
    (steady : w.Steady i) (given : w.Given i (.serve sessionId index)) :
    Keeps i w (w.step (.serve sessionId index)) := by
  simp only [step]
  split
  · rename_i request found
    by_cases connected : (w.controllers sessionId).connected = true
    · rw [if_pos connected]
      by_cases other : i = sessionId
      · subst other
        have there := List.mem_of_getElem? found
        have undemoting := undemoting_of_answered (steady.1.answered _ there)
        cases request with
        | create caller data =>
          cases seat : w.seat with
          | none =>
            simp only [serve, seat]
            apply keeps_served steady found
            · exact ⟨connected, _, rfl, rfl⟩
            · exact fun _ => ⟨_, rfl, rfl⟩
            · exact fun _ => .inr trivial
          | some node =>
            simp only [serve, seat]
            rw [← seat]
            exact keeps_served steady found (.inr (.inl rfl)) id .inl
        | check checker retryCount =>
          apply keeps_served steady found ?_ id .inl
          cases checker with
          | candidature caller => exact ⟨connected, id⟩
          | reconnection =>
            have alive := (steady.1.linked connected).1
            have has := steady.1.rechecks _ there trivial alive
            exact ⟨connected, has, has⟩
        | watch caller => exact keeps_served steady found ⟨connected, id⟩ id .inl
        | demoteExists | demoteRemove version => exact absurd undemoting id
      · apply keeps_seat steady
        · rw [commit_controllers, set_other _ _ _ _ other]
        · rfl
        · exact owns_serve_other found connected other given
    · rw [if_neg connected]
      exact .refl steady
  · exact .refl steady

theorem keeps_step (i : Session) (w : World Session) (action : Action Session)
    (steady : w.Steady i) (given : w.Given i action) (undisturbed : w.Undisturbed i action) :
    Keeps i w (w.step action) := by
  cases action with
  | tryGetMasterPost sessionId myEndpoint =>
    by_cases other : i = sessionId
    · subst other
      exact keeps_set (Steady.tryGetMasterPost steady myEndpoint)
        fun fatal => tryGetMasterPost_fatal fatal myEndpoint
    · exact keeps_other steady other
  | demoteMasterPost sessionId => exact keeps_other steady (Ne.symm given)
  | disconnected sessionId =>
    simp only [step]
    split
    · by_cases other : i = sessionId
      · subst other
        exact keeps_set (Steady.onDisconnected steady (undisturbed rfl))
          onDisconnected_fatal
      · exact keeps_other steady other
    · exact .refl steady
  | connected sessionId =>
    simp only [step]
    split
    · rename_i waiting
      obtain ⟨disconnected, open', alive⟩ := waiting
      by_cases other : i = sessionId
      · subst other
        exact keeps_set (Steady.onConnected steady (by simpa using disconnected) alive
          (by simpa using open')) onConnected_fatal
      · exact keeps_other steady other
    · exact .refl steady
  | state sessionId state =>
    simp only [step]
    split
    · exact .refl steady
    · by_cases other : i = sessionId
      · subst other
        exact keeps_set (Steady.onState steady state) fun _ => rfl
      · exact keeps_other steady other
  | expire sessionId =>
    simp only [step]
    split
    · exact .refl steady
    · rename_i disconnected
      by_cases other : i = sessionId
      · subst other
        refine ⟨Steady.expire steady (by simpa using disconnected) ?_ (by simp), id⟩
        rintro ⟨node, seat, owner⟩
        have kept := (Option.mem_filter_iff.mp seat).2
        simp [owner] at kept
      · apply keeps_seat steady
        · rfl
        · exact Function.update_of_ne other ..
        · constructor
          · rintro ⟨node, seat, owner⟩
            exact ⟨node, (Option.mem_filter_iff.mp seat).1, owner⟩
          · rintro ⟨node, seat, owner⟩
            refine ⟨node, Option.mem_filter_iff.mpr ⟨seat, ?_⟩, owner⟩
            simpa [owner] using other
  | serve sessionId index => exact keeps_serve i w sessionId index steady given
  | reply sessionId index =>
    simp only [step]
    split
    · rename_i request reply found
      by_cases other : i = sessionId
      · subst other
        exact keeps_deliver steady found (steady.1.answered _ (List.mem_of_getElem? found))
          (undisturbed rfl _ found reply rfl)
      · exact keeps_other steady other
    · exact .refl steady
  | timeout sessionId index =>
    simp only [step]
    split
    · rename_i request was found
      by_cases other : i = sessionId
      · subst other
        have there := List.mem_of_getElem? found
        have undemoting := undemoting_of_answered (steady.1.answered _ there)
        exact keeps_deliver steady found (timeout_answered undemoting)
          (undisturbed rfl _ found)
      · exact keeps_other steady other
    · exact .refl steady
  | event sessionId index event =>
    simp only [step]
    split
    · rename_i seen found
      split
      · by_cases other : i = sessionId
        · subst other
          exact keeps_set (Steady.onEvent steady found event)
            fun fatal => onEvent_fatal fatal event
        · exact keeps_other steady other
      · exact .refl steady
    · exact .refl steady
  | setData data =>
    apply keeps_seat steady
    · rfl
    · rfl
    · constructor
      · rintro ⟨node, seat, owner⟩
        obtain ⟨before, was, rfl⟩ := Option.map_eq_some_iff.mp seat
        exact ⟨before, was, owner⟩
      · rintro ⟨node, seat, owner⟩
        exact ⟨_, Option.mem_map_of_mem _ seat, owner⟩

def Lost (i : Session) (w : World Session) : Prop :=
  w.Steady i ∧ (w.controllers i).masterStatus = .fatal

theorem steady_step (i : Session) (w : World Session) (action : Action Session)
    (steady : w.Steady i) (allowed : w.Given i action ∧ w.Undisturbed i action) :
    (w.step action).Steady i := (keeps_step i w action steady allowed.1 allowed.2).steady

theorem lost_step (i : Session) (w : World Session) (action : Action Session)
    (lost : w.Lost i) (allowed : w.Given i action ∧ w.Undisturbed i action) :
    (w.step action).Lost i := by
  have kept := keeps_step i w action lost.1 allowed.1 allowed.2
  exact ⟨kept.steady, kept.fatal lost.2⟩

/-- The creation takes effect and its reply does not come in time: the controller is no
candidate of its own yet, checks nothing, and waits for the seat that its session has. -/
def unanswered : List (Action Unit) :=
  [.connected (), .tryGetMasterPost () "a", .serve () 0, .timeout () 0, .serve () 0, .reply () 0]

end World

end AkashicSystem.ClusterMaster
