import AkashicSystem.ClusterMaster.MasterController

/-!
# The master and the owner of the seat

Who takes itself for the master, or is about to, has a session that owns the seat.  A
demotion removes the seat first and gives the status up on the reply.
-/

set_option autoImplicit false

namespace AkashicSystem.ClusterMaster

open List

variable {Session : Type}

def Sent.Claims (sessionId : Session) : Sent Session → Prop
  | ⟨.create _ _, some .ok⟩ => True
  | ⟨.check .reconnection _, some (.stat (some node))⟩ => node.owner = sessionId
  | _ => False

instance [DecidableEq Session] (sessionId : Session) (sent : Sent Session) :
    Decidable (sent.Claims sessionId) := by
  unfold Sent.Claims
  split <;> infer_instance

namespace Controller

/-- The controller is the master, or will be on a reply that is on its way. -/
def Holds (c : Controller Session) (sessionId : Session) : Prop :=
  c.masterStatus = .master ∨ ∃ sent ∈ c.requests, sent.Claims sessionId

instance [DecidableEq Session] (c : Controller Session) (sessionId : Session) :
    Decidable (c.Holds sessionId) :=
  inferInstanceAs (Decidable (_ ∨ ∃ sent ∈ c.requests, sent.Claims sessionId))

structure Follows (sessionId : Session) (c c' : Controller Session) : Prop where
  connected : c'.connected = c.connected
  holds : c'.Holds sessionId → c.Holds sessionId

variable {sessionId : Session} (c : Controller Session)

theorem Follows.refl : Follows sessionId c c := ⟨rfl, id⟩

variable {c} in
theorem Follows.trans {c' c'' : Controller Session} (first : Follows sessionId c c')
    (second : Follows sessionId c' c'') : Follows sessionId c c'' :=
  ⟨second.connected.trans first.connected, first.holds ∘ second.holds⟩

theorem follows_setMasterStatus (status : MasterStatus) (other : status ≠ .master) :
    Follows sessionId c (c.setMasterStatus status) := by
  refine ⟨rfl, ?_⟩
  rintro (master | claimed)
  · exact absurd master other
  · exact .inr claimed

theorem follows_send (request : Request) : Follows sessionId c (c.send request) := by
  refine ⟨rfl, ?_⟩
  rintro (master | ⟨sent, there, claims⟩)
  · exact .inl master
  · rcases mem_append.mp there with before | added
    · exact .inr ⟨sent, before, claims⟩
    · rw [mem_singleton.mp added] at claims
      -- A request that is sent has no reply but the error of a closed client.
      by_cases closed : c.closed = true <;> simp [closed, Sent.Claims] at claims

theorem follows_rejected (caller : Caller) : Follows sessionId c (c.rejected caller) := by
  cases caller with
  | post => exact .refl c
  | watcher => exact follows_setMasterStatus c .fatal (by simp)

theorem follows_tryGetMasterPostInner (caller : Caller) :
    Follows sessionId c (c.tryGetMasterPostInner caller) := by
  unfold tryGetMasterPostInner
  split
  · exact .refl c
  · split
    · exact follows_rejected c caller
    · exact follows_send c _

theorem follows_runAsSubMaster (caller : Caller) :
    Follows sessionId c (c.runAsSubMaster caller) := by
  unfold runAsSubMaster
  split
  · exact .refl c
  · exact (follows_setMasterStatus c .subMaster (by simp)).trans (follows_send _ _)

variable (checker : Checker)

theorem follows_checked_false :
    Follows sessionId c (c.checked checker false) := by
  cases checker with
  | candidature caller => exact follows_runAsSubMaster c caller
  | reconnection => exact follows_setMasterStatus c .fatal (by simp)

theorem follows_checkFailed : Follows sessionId c (c.checkFailed checker) := by
  cases checker with
  | candidature caller => exact follows_rejected c caller
  | reconnection => exact follows_setMasterStatus c .fatal (by simp)

theorem follows_checkMaster : Follows sessionId c (c.checkMaster checker) := by
  unfold checkMaster
  split
  · exact follows_checked_false c checker
  · exact follows_send c _

theorem follows_onEvent (event : Event) : Follows sessionId c (c.onEvent event) := by
  cases event with
  | nodeDeleted => exact follows_tryGetMasterPostInner c .post
  | nodeCreated | nodeDataChanged | nodeChildrenChanged => exact follows_send c _

theorem follows_tryGetMasterPost (myEndpoint : String) :
    Follows sessionId c (c.tryGetMasterPost myEndpoint) := by
  unfold tryGetMasterPost
  split
  · exact .refl c
  · have called : Follows sessionId c { c with endPoint := some myEndpoint } := ⟨rfl, id⟩
    exact called.trans (follows_tryGetMasterPostInner _ .post)

theorem follows_demoteMasterPost : Follows sessionId c c.demoteMasterPost := by
  unfold demoteMasterPost
  split
  · exact .refl c
  · exact follows_send c _

section

variable [DecidableEq Session]

theorem follows_replied (request : Request) (reply : Reply Session)
    (claimless : ¬Sent.Claims sessionId ⟨request, some reply⟩) :
    Follows sessionId c (c.replied sessionId request reply) := by
  unfold replied
  split
  · exact absurd trivial claimless
  · split
    · exact follows_checkMaster c _
    · split
      · exact follows_runAsSubMaster c _
      · exact follows_rejected c _
  · exact follows_checked_false c _
  · rename_i checker _ node
    cases checker with
    | candidature caller =>
      by_cases owned : node.owner = sessionId
      · simp only [checked, owned, decide_true, if_true]
        exact .refl c
      · simp only [checked, owned, decide_false, Bool.false_eq_true, if_false]
        exact follows_runAsSubMaster c caller
    | reconnection =>
      have other : node.owner ≠ sessionId := claimless
      simp only [other, decide_false]
      exact follows_checked_false c .reconnection
  · split
    · exact follows_send c _
    · exact follows_checkFailed c _
  · rename_i caller seat
    have watching : Follows sessionId c { c with watchers := c.watchers ++ [seat] } := ⟨rfl, id⟩
    split
    · exact watching.trans (follows_tryGetMasterPostInner _ caller)
    · exact watching
  · split
    · exact follows_send c _
    · exact follows_rejected c _
  · exact follows_send c _
  · exact follows_setMasterStatus c .fatal (by simp)
  · exact .refl c

theorem replied_connected (request : Request) (reply : Reply Session) :
    (c.replied sessionId request reply).connected = c.connected := by
  by_cases claims : Sent.Claims sessionId ⟨request, some reply⟩
  · unfold replied
    split
    · split <;> rfl
    · exact absurd claims id
    · exact absurd claims (by simp [Sent.Claims])
    · rename_i checker _ node
      cases checker with
      | candidature caller => exact absurd claims id
      | reconnection => rfl
    · exact absurd claims (by simp [Sent.Claims])
    · exact absurd claims id
    · exact absurd claims id
    · exact absurd claims id
    · exact absurd claims id
    · rfl
  · exact (follows_replied c request reply claims).connected

theorem holds_of_replied {index : Nat} {request : Request} {reply : Reply Session}
    (holder : Sent.Claims sessionId ⟨request, some reply⟩ → c.Holds sessionId)
    (holds : ({ c with requests := c.requests.eraseIdx index }.replied sessionId request
      reply).Holds sessionId) : c.Holds sessionId := by
  by_cases claims : Sent.Claims sessionId ⟨request, some reply⟩
  · exact holder claims
  · rcases (follows_replied _ request reply claims).holds holds with master | ⟨sent, kept, claimed⟩
    · exact .inl master
    · exact .inr ⟨sent, mem_of_mem_eraseIdx kept, claimed⟩

end

theorem onDisconnected_holds : ¬c.onDisconnected.Holds sessionId := by
  have lost : ∀ sent ∈ c.requests.map Sent.lost, ¬sent.Claims sessionId := by
    intro sent there claims
    obtain ⟨before, _, rfl⟩ := mem_map.mp there
    simp [Sent.lost, Sent.Claims] at claims
  unfold onDisconnected
  dsimp only
  split
  · rintro (master | ⟨sent, there, claims⟩)
    · cases master
    · exact lost sent there claims
  · rename_i other
    rintro (master | ⟨sent, there, claims⟩)
    · exact other master
    · exact lost sent there claims

theorem onConnected_holds (holds : c.onConnected.Holds sessionId) :
    c.onConnected.connected = true ∧ c.Holds sessionId := by
  have connecting : ({ c with connected := true } : Controller Session).Holds sessionId →
      c.Holds sessionId := id
  have unfolded : c.onConnected = if c.masterStatus = .reChecking
      then { c with connected := true }.checkMaster .reconnection
      else { c with connected := true } := rfl
  rw [unfolded] at holds ⊢
  by_cases checking : c.masterStatus = .reChecking
  · rw [if_pos checking] at holds ⊢
    have follows : Follows sessionId { c with connected := true } _ :=
      follows_checkMaster { c with connected := true } .reconnection
    exact ⟨follows.connected, connecting (follows.holds holds)⟩
  · rw [if_neg checking] at holds ⊢
    exact ⟨rfl, connecting holds⟩

theorem onState_holds (state : State) : ¬(c.onState state).Holds sessionId := by
  rintro (master | ⟨sent, there, claims⟩)
  · cases master
  · obtain ⟨before, _, rfl⟩ := mem_map.mp there
    simp [Sent.closed, Sent.Claims] at claims

end Controller

namespace World

/-- At most one controller is the master, and the session of a connected one has the seat. -/
structure Exclusive (w : World Session) : Prop where
  one : ∀ i j, (w.controllers i).isMaster = true → (w.controllers j).isMaster = true → i = j
  owns : ∀ i, (w.controllers i).connected = true → (w.controllers i).isMaster = true → w.Owns i

def removed (w : World Session) (sessionId : Session) (index : Nat) : Option (Node Session) :=
  match (w.controllers sessionId).requests[index]? with
  | some ⟨.demoteRemove version, none⟩ =>
    if (w.controllers sessionId).connected then w.seat.filter fun node => node.version = version
    else none
  | _ => none

/-- A seat is removed from a session whose controller does not hold it any more. -/
def Permitted (w : World Session) : Action Session → Prop
  | .serve sessionId index =>
    ∀ node ∈ w.removed sessionId index, ¬(w.controllers node.owner).Holds node.owner
  | _ => True

instance [DecidableEq Session] (w : World Session) : DecidablePred w.Permitted
  | .serve sessionId index => inferInstanceAs (Decidable (∀ node ∈ w.removed sessionId index,
      ¬(w.controllers node.owner).Holds node.owner))
  | .tryGetMasterPost .. | .demoteMasterPost _ | .disconnected _ | .connected _ | .state ..
  | .expire _ | .reply .. | .timeout .. | .event .. | .setData _ => isTrue trivial

def Held (w : World Session) : Prop :=
  ∀ i, (w.controllers i).Holds i → (w.controllers i).connected = true ∧ w.Owns i

variable {w : World Session} {sessionId : Session}

theorem owns_unique {i j : Session} (one : w.Owns i) (other : w.Owns j) : i = j := by
  obtain ⟨node, seat, rfl⟩ := one
  obtain ⟨node', seat', rfl⟩ := other
  rw [Option.mem_def] at seat seat'
  rw [seat] at seat'
  rw [Option.some.inj seat']

theorem Held.exclusive (held : w.Held) : w.Exclusive where
  one := by
    intro i j master master'
    have first := held i (.inl (of_decide_eq_true master))
    have second := held j (.inl (of_decide_eq_true master'))
    exact owns_unique first.2 second.2
  owns := fun i _ master => (held i (.inl (of_decide_eq_true master))).2

theorem held_new : (new : World Session).Held := by
  rintro i (master | ⟨sent, there, _⟩)
  · cases master
  · cases there

variable [DecidableEq Session]

theorem held_set {c : Controller Session} (held : w.Held)
    (backed : c.Holds sessionId → c.connected = true ∧ w.Owns sessionId) :
    (w.set sessionId c).Held := by
  intro i holds
  by_cases same : i = sessionId
  · subst same
    rw [set_same] at holds ⊢
    exact backed holds
  · rw [set_other w sessionId i c same] at holds ⊢
    exact held i holds

theorem held_follows {c : Controller Session} (held : w.Held)
    (follows : Controller.Follows sessionId (w.controllers sessionId) c) :
    (w.set sessionId c).Held := by
  apply held_set held
  intro holds
  rw [follows.connected]
  exact held sessionId (follows.holds holds)

theorem holds_of_served {index : Nat} {sent : Sent Session} (i : Session)
    (holds : ((w.set sessionId
      { w.controllers sessionId with requests := (w.controllers sessionId).requests.set index sent }).controllers i).Holds i) :
    (w.controllers i).Holds i ∨ (i = sessionId ∧ sent.Claims sessionId) := by
  by_cases same : i = sessionId
  · subst same
    rw [set_same] at holds
    rcases holds with master | ⟨sent', there, claims⟩
    · exact .inl (.inl master)
    · rcases mem_or_eq_of_mem_set there with before | rfl
      · exact .inl (.inr ⟨sent', before, claims⟩)
      · exact .inr ⟨rfl, claims⟩
  · rw [set_other _ _ _ _ same] at holds
    exact .inl holds

theorem connected_of_served {requests : List (Sent Session)} (i : Session) :
    ((w.set sessionId { w.controllers sessionId with requests := requests }).controllers
      i).connected = (w.controllers i).connected := by
  by_cases same : i = sessionId
  · subst same
    rw [set_same]
  · rw [set_other _ _ _ _ same]

theorem held_commit {index : Nat} {request : Request} {reply : Reply Session} (held : w.Held)
    (claimless : ¬Sent.Claims sessionId ⟨request, some reply⟩) :
    ((w.set sessionId { w.controllers sessionId with
      requests := (w.controllers sessionId).requests.set index ⟨request, some reply⟩ }).commit
        w.seat).Held := by
  intro i holds
  rcases holds_of_served i holds with before | ⟨_, claims⟩
  · rw [commit_controllers, connected_of_served i]
    exact held i before
  · exact absurd claims claimless

theorem held_serve (w : World Session) (sessionId : Session) (index : Nat) (held : w.Held)
    (permitted : w.Permitted (.serve sessionId index)) :
    (w.step (.serve sessionId index)).Held := by
  simp only [step]
  split
  · rename_i request found
    by_cases connected : (w.controllers sessionId).connected = true
    · rw [if_pos connected]
      cases request with
      | create caller data =>
        cases seat : w.seat with
        | none =>
          -- Nobody holds a seat that is not there.
          intro i holds
          rcases holds_of_served i holds with before | ⟨rfl, _⟩
          · obtain ⟨node, there, _⟩ := (held i before).2
            rw [seat] at there
            cases there
          · rw [commit_controllers, connected_of_served i]
            refine ⟨connected, ?_⟩
            simp [serve, seat, Owns]
        | some node =>
          simp only [serve, seat]
          rw [← seat]
          exact held_commit held id
      | check checker retryCount =>
        intro i holds
        rw [commit_controllers, connected_of_served i]
        rcases holds_of_served i holds with before | ⟨rfl, claims⟩
        · exact held i before
        · refine ⟨connected, ?_⟩
          cases checker with
          | candidature caller => exact absurd claims id
          | reconnection =>
            cases seat : w.seat with
            | none =>
              rw [serve, seat] at claims
              exact absurd claims id
            | some node =>
              rw [serve, seat] at claims
              have owner : node.owner = i := claims
              exact ⟨node, seat, owner⟩
      | watch caller | demoteExists => exact held_commit held id
      | demoteRemove version =>
        cases seat : w.seat with
        | none =>
          simp only [serve, seat]
          rw [← seat]
          exact held_commit held id
        | some node =>
          simp only [serve, seat]
          by_cases same : node.version = version
          · rw [if_pos same]
            have removes : node ∈ w.removed sessionId index := by
              simp [removed, found, connected, seat, same]
            have free := permitted node removes
            -- Whoever held the seat was its owner.
            intro i holds
            rcases holds_of_served i holds with before | ⟨_, claims⟩
            · have owner : node.owner = i := owns_unique ⟨node, seat, rfl⟩ (held i before).2
              rw [owner] at free
              exact absurd before free
            · exact absurd claims id
          · rw [if_neg same, ← seat]
            exact held_commit held id
    · rw [if_neg connected]
      exact held
  · exact held

theorem held_deliver (w : World Session) (sessionId : Session) (index : Nat) (held : w.Held)
    (request : Request) (reply : Reply Session)
    (holder : Sent.Claims sessionId ⟨request, some reply⟩ →
      (w.controllers sessionId).Holds sessionId) :
    (w.deliver sessionId index request reply).Held := by
  apply held_set held
  intro holds
  rw [Controller.replied_connected]
  exact held sessionId (Controller.holds_of_replied _ holder holds)

theorem held_step (w : World Session) (action : Action Session) (held : w.Held)
    (permitted : w.Permitted action) : (w.step action).Held := by
  cases action with
  | tryGetMasterPost sessionId myEndpoint =>
    exact held_follows held (Controller.follows_tryGetMasterPost _ myEndpoint)
  | demoteMasterPost sessionId =>
    exact held_follows held (Controller.follows_demoteMasterPost _)
  | disconnected sessionId =>
    simp only [step]
    split
    · apply held_set held
      intro holds
      exact absurd holds (Controller.onDisconnected_holds _)
    · exact held
  | connected sessionId =>
    simp only [step]
    split
    · apply held_set held
      intro holds
      obtain ⟨connected, before⟩ := Controller.onConnected_holds _ holds
      exact ⟨connected, (held sessionId before).2⟩
    · exact held
  | state sessionId state =>
    simp only [step]
    split
    · exact held
    · apply held_set held
      intro holds
      exact absurd holds (Controller.onState_holds _ state)
  | expire sessionId =>
    simp only [step]
    split
    · exact held
    · rename_i disconnected
      intro i holds
      obtain ⟨connected, node, seat, owner⟩ := held i holds
      refine ⟨connected, node, ?_, owner⟩
      -- The session that has ended is not one of a connected controller.
      have other : node.owner ≠ sessionId := by
        intro same
        rw [← same, owner] at disconnected
        exact disconnected connected
      rw [Option.mem_def] at seat ⊢
      simp [seat, other]
  | serve sessionId index => exact held_serve w sessionId index held permitted
  | reply sessionId index =>
    simp only [step]
    split
    · rename_i request reply found
      have there := mem_of_getElem? found
      exact held_deliver w sessionId index held request reply fun claims => .inr ⟨_, there, claims⟩
    · exact held
  | timeout sessionId index =>
    simp only [step]
    split
    · rename_i request reply found
      apply held_deliver w sessionId index held
      intro claims
      simp [Sent.Claims] at claims
    · exact held
  | event sessionId index event =>
    simp only [step]
    split
    · rename_i seen found
      split
      · have watching : Controller.Follows sessionId (w.controllers sessionId)
            { w.controllers sessionId with
              watchers := (w.controllers sessionId).watchers.eraseIdx index } := ⟨rfl, id⟩
        exact held_follows held (watching.trans (Controller.follows_onEvent _ event))
      · exact held
    · exact held
  | setData data =>
    intro i holds
    obtain ⟨connected, node, seat, owner⟩ := held i holds
    refine ⟨connected, { node with version := node.version + 1, data := data }, ?_, owner⟩
    exact Option.mem_map_of_mem _ seat

/-- Where no seat is removed from under a controller that holds it, there is one master, and
its session has the seat. -/
theorem exclusive_of_permitted (actions : List (Action Session))
    (run : Run.Allowed step Permitted (new : World Session) actions) :
    (Run.final step (new : World Session) actions).Exclusive :=
  Held.exclusive (Run.invariant held_step new actions held_new run)

def elected : List (Action Bool) :=
  [.connected false, .connected true, .tryGetMasterPost false "a", .serve false 0, .reply false 0,
    .tryGetMasterPost true "b", .serve true 0, .reply true 0, .serve true 0, .reply true 0]

def promoted : List (Action Bool) := [.event true 0 .nodeDeleted, .serve true 0, .reply true 0]

/-- The session of the master expires. -/
theorem expired_exclusive :
    (Run.final step new (elected ++ [Action.disconnected false, .expire false] ++ promoted)).Exclusive :=
  exclusive_of_permitted _ (by decide +kernel)

/-- The master steps down: its seat is removed, and is taken before it hears of that. -/
theorem demoted_masters :
    ¬∀ actions : List (Action Bool), (Run.final step new actions).Exclusive := by
  intro always
  have exclusive := always (elected ++
    [Action.demoteMasterPost false, .serve false 0, .reply false 0, .serve false 0] ++ promoted)
  have same := exclusive.one false true (by decide +kernel) (by decide +kernel)
  cases same

end World

end AkashicSystem.ClusterMaster
