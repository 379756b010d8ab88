import AkashicSystem.Dispatching.OverAssignment
import AkashicSystem.Lib.Keyed
import AkashicSystem.PlaylogServer.SessionManager

/-!
# The capacity of a playlog server

A capacity that a dispatch has taken is held by the dispatch, then by a request
or a reservation, then by a session, and last by what gives it back.
-/

set_option autoImplicit false

namespace AkashicSystem.PlaylogServer

open AkashicSystem.Dispatching Pool List

def Timer.key (timer : Timer) : String × String := (timer.playId, timer.token)

theorem Timer.isFor_iff (timer : Timer) (playId token : String) :
    timer.isFor playId token = true ↔ timer.key = (playId, token) := by
  simp [Timer.isFor, Timer.key]

namespace SessionManager

/-- A timer of every reservation and no other, and one reservation of a token. -/
structure Sound (m : SessionManager) : Prop where
  timers : m.timers = m.reserved
  keys : (m.reserved.map Timer.key).Nodup
  ids : (m.reserved.map Timer.id).Nodup
  fresh : ∀ timer ∈ m.reserved, timer.id < m.nextTimer
  started : (m.started.map Prod.fst).Nodup

theorem sound_new (limit : Nat) : (new limit).Sound :=
  ⟨rfl, nodup_nil, nodup_nil, fun _ there => absurd there not_mem_nil,
    nodup_nil⟩

variable {m : SessionManager}

theorem deleteReservation_eq (m : SessionManager) (playId token : String) :
    (m.deleteReservation playId token).reserved =
      m.reserved.filter fun timer => timer.key ≠ (playId, token) := by
  refine filter_congr fun timer _ => ?_
  rw [Bool.eq_iff_iff, Bool.not_eq_true', ← Bool.not_eq_true, timer.isFor_iff, decide_eq_true_eq]

theorem Sound.release (sound : m.Sound) (timer : Timer) (there : timer ∈ m.reserved) :
    let released := (m.clearTimeout (.timer timer)).deleteReservation timer.playId timer.token
    released.Sound ∧ released.reserved.length + 1 = m.reserved.length := by
  intro released
  have reserved : released.reserved = m.reserved.filter fun other => other.key ≠ timer.key :=
    deleteReservation_eq (m.clearTimeout (.timer timer)) timer.playId timer.token
  have timers : released.timers = m.reserved.filter fun other => other.id ≠ timer.id := by
    rw [← sound.timers]
    rfl
  refine ⟨⟨?_, ?_, ?_, ?_, sound.started⟩, ?_⟩
  · rw [timers, reserved]
    exact Keyed.filter_key_eq Timer.id Timer.key m.reserved sound.ids sound.keys timer there
  · rw [reserved]
    exact Keyed.nodup_map_filter _ _ _ sound.keys
  · rw [reserved]
    exact Keyed.nodup_map_filter _ _ _ sound.ids
  · intro other
    rw [reserved]
    exact fun there' => sound.fresh other (mem_of_mem_filter there')
  · rw [reserved]
    exact Keyed.length_filter_key Timer.key m.reserved sound.keys timer there

theorem timer?_some {playId token : String} {timer : Timer}
    (found : m.timer? playId token = some timer) :
    timer ∈ m.reserved ∧ timer.playId = playId ∧ timer.token = token := by
  have isFor := List.find?_some (p := fun timer : Timer => timer.isFor playId token) found
  have key := (timer.isFor_iff playId token).mp isFor
  exact ⟨List.mem_of_find?_eq_some found, congrArg Prod.fst key, congrArg Prod.snd key⟩

theorem timer?_none {playId token : String} (none_ : m.timer? playId token = none) :
    (playId, token) ∉ m.reserved.map Timer.key := by
  intro there
  obtain ⟨timer, mem, key⟩ := mem_map.mp there
  exact List.find?_eq_none.mp none_ timer mem ((timer.isFor_iff playId token).mpr key)

/-- A reservation of a play and token that has no other, under names of its own. -/
structure Reservable (m : SessionManager) (playId token : String) : Prop where
  first : m.timer? playId token = none
  plain : Js.inherited playId = none ∧ token ≠ "__proto__"

instance (m : SessionManager) (playId token : String) : Decidable (m.Reservable playId token) :=
  decidable_of_iff
    (m.timer? playId token = none ∧ Js.inherited playId = none ∧ token ≠ "__proto__")
    ⟨fun ⟨first, plain⟩ => ⟨first, plain⟩, fun ⟨first, plain⟩ => ⟨first, plain⟩⟩

/-- A validation request that finds a timer or nothing, and a timer only for a session that
has not started. -/
structure Startable (m : SessionManager) (playId token sessionId : String) : Prop where
  plain : m.reservation playId token ≠ some .inherited
  first : m.timer? playId token = none ∨ sessionId ∉ m.started.map Prod.fst

instance (m : SessionManager) (playId token sessionId : String) :
    Decidable (m.Startable playId token sessionId) :=
  decidable_of_iff (m.reservation playId token ≠ some .inherited ∧
      (m.timer? playId token = none ∨ sessionId ∉ m.started.map Prod.fst))
    ⟨fun ⟨plain, first⟩ => ⟨plain, first⟩, fun ⟨plain, first⟩ => ⟨plain, first⟩⟩

theorem Sound.reserve (sound : m.Sound) (playId token : String)
    (first : m.timer? playId token = none) :
    (m.reserve playId token).1.Sound ∧
      (m.reserve playId token).1.reserved.length = m.reserved.length + 1 := by
  have absent := timer?_none first
  have same : (m.deleteReservation playId token).reserved = m.reserved := by
    rw [deleteReservation_eq]
    exact Keyed.filter_key_of_absent Timer.key m.reserved (playId, token) absent
  have reserved : (m.reserve playId token).1.reserved =
      m.reserved ++ [⟨m.nextTimer, playId, token⟩] := by
    rw [← same]
    rfl
  refine ⟨⟨?_, ?_, ?_, ?_, sound.started⟩, ?_⟩
  · rw [reserved, ← sound.timers]
    rfl
  · rw [reserved]
    exact Keyed.nodup_map_append Timer.key m.reserved _ sound.keys absent
  · rw [reserved]
    refine Keyed.nodup_map_append Timer.id m.reserved _ sound.ids fun there => ?_
    obtain ⟨timer, mem, id⟩ := mem_map.mp there
    have below := sound.fresh timer mem
    change timer.id = m.nextTimer at id
    omega
  · intro timer
    rw [reserved]
    intro there
    change timer.id < m.nextTimer + 1
    rcases mem_append.mp there with old | new
    · exact Nat.lt_succ_of_lt (sound.fresh timer old)
    · rw [mem_singleton.mp new]
      exact Nat.lt_succ_self _
  · rw [reserved, length_append, length_singleton]

theorem Sound.start (sound : m.Sound) (playId token sessionId : String)
    (room : m.reserved.length + m.started.length ≤ m.limit)
    (startable : m.Startable playId token sessionId) :
    (m.start playId token sessionId).1.Sound ∧
      (m.start playId token sessionId).1.limit = m.limit ∧
      (m.start playId token sessionId).1.reserved.length +
          (m.start playId token sessionId).1.started.length =
        m.reserved.length + m.started.length ∧
      ((m.start playId token sessionId).2.1 = .deny playId ∨
        (m.start playId token sessionId).2.1 = .start playId) := by
  cases found : m.timer? playId token with
  | none =>
    have missing : m.reservation playId token = none := by
      have plain := startable.plain
      unfold reservation at plain ⊢
      rw [found] at plain ⊢
      dsimp only at plain ⊢
      split_ifs at plain ⊢
      · exact absurd rfl plain
      · rfl
    unfold SessionManager.start
    rw [missing]
    exact ⟨sound, rfl, rfl, .inl rfl⟩
  | some timer =>
    obtain ⟨there, rfl, rfl⟩ := timer?_some found
    have found' : m.reservation timer.playId timer.token = some (.timer timer) := by
      unfold reservation
      rw [found]
    obtain ⟨released, less⟩ := sound.release timer there
    have absent : sessionId ∉ m.started.map Prod.fst := by
      refine startable.first.resolve_left ?_
      rw [found]
      exact Option.some_ne_none timer
    have below : ¬ m.started.length ≥ m.limit := by omega
    have same : (m.started.filter fun info => info.1 ≠ sessionId) = m.started :=
      Keyed.filter_key_of_absent Prod.fst m.started sessionId absent
    unfold SessionManager.start
    rw [found']
    dsimp only
    rw [if_neg (show ¬ ((m.clearTimeout (.timer timer)).deleteReservation timer.playId
      timer.token).started.length ≥ ((m.clearTimeout (.timer timer)).deleteReservation
        timer.playId timer.token).limit from below)]
    refine ⟨⟨released.timers, released.keys, released.ids, released.fresh, ?_⟩, rfl, ?_, .inr rfl⟩
    · change (((m.started.filter fun info => info.1 ≠ sessionId) ++
        [(sessionId, timer.playId)]).map Prod.fst).Nodup
      rw [same]
      exact Keyed.nodup_map_append Prod.fst m.started _ sound.started absent
    · change _ + ((m.started.filter fun info => info.1 ≠ sessionId) ++
        [(sessionId, timer.playId)]).length = _
      rw [same, length_append, length_singleton]
      dsimp only at less ⊢
      omega

theorem Sound.endBySession (sound : m.Sound) (sessionId : String) :
    m.endBySession sessionId = (m, none) ∨
      ∃ playId, (m.endBySession sessionId).2 = some (.«end» playId) ∧
        (m.endBySession sessionId).1.Sound ∧
        (m.endBySession sessionId).1.reserved = m.reserved ∧
        (m.endBySession sessionId).1.limit = m.limit ∧
        (m.endBySession sessionId).1.started.length + 1 = m.started.length := by
  unfold SessionManager.endBySession
  split
  · exact .inl rfl
  · next info found =>
      right
      have there := List.mem_of_find?_eq_some found
      have id : info.1 = sessionId := by simpa using List.find?_some found
      refine ⟨info.2, rfl, ⟨sound.timers, sound.keys, sound.ids, sound.fresh, ?_⟩, rfl, rfl, ?_⟩
      · exact Keyed.nodup_map_filter _ _ _ sound.started
      · rw [← id]
        exact Keyed.length_filter_key Prod.fst m.started sound.started info there

end SessionManager

variable (p : String)

/-- The capacity that a task holds of a process and that is to become a reservation or
to be given back. -/
def claims : Task → Int
  | .dispatch ⟨_, _, .increaseClient processId _⟩
  | .dispatch ⟨_, _, .reserveEndpoint processId _⟩
  | .giveBack ⟨processId, _, .increaseCapacity⟩ => if processId = p then 1 else 0
  | _ => 0

theorem claims_nonneg (task : Task) : 0 ≤ claims p task := by
  unfold claims
  split
  · split_ifs <;> decide
  · split_ifs <;> decide
  · split_ifs <;> decide
  · exact Int.le_refl 0

theorem claims_of_unheld (p playId playToken : String) (phase : Phase) (unheld : phase.Unheld) :
    claims p (.dispatch ⟨playId, playToken, phase⟩) = 0 := by
  cases phase with
  | increaseClient processId rest | reserveEndpoint processId rest => cases unheld
  | _ => rfl

theorem claims_of_finished (task : Task) (finished : task.Finished) :
    claims p task = 0 := by
  cases task with
  | giveBack g =>
    obtain ⟨processId, playId, phase⟩ := g
    cases (finished : phase = .settled)
    rfl
  | dispatch d =>
    obtain ⟨playId, playToken, phase⟩ := d
    exact claims_of_unheld p playId playToken phase (Phase.unheld_of_finished finished)

def handedOver : Task → Dispatching.Answer → Int
  | .dispatch d, .reserved | .dispatch d, .unanswered =>
    if Server.requesting p d then 1 else 0
  | _, _ => 0

/-- The task holds a capacity of the process, in any way. -/
def Holds (task : Task) : Prop := task.overdraft p + claims p task ≠ 0

instance (p : String) (task : Task) : Decidable (Holds p task) :=
  inferInstanceAs (Decidable (¬ task.overdraft p + claims p task = 0))

structure Carried (p : String) (redis redis' : DispatchingRedis) (task task' : Task)
    (answer : Dispatching.Answer) : Prop where
  capacity : redis'.capacity p + task'.overdraft p + claims p task' + handedOver p task answer =
    redis.capacity p + task.overdraft p + claims p task
  room : claims p task' + handedOver p task answer ≤ claims p task ∨
    claims p task' + handedOver p task answer = claims p task + 1 ∧ 0 ≤ redis'.capacity p

variable {shuffleProcessCount : Nat} {redis redis' : DispatchingRedis} {p : String}

variable {answer : Dispatching.Answer}

theorem carried_dispatch (p playToken : String) {playId : String} {phase phase' : Phase}
    (move : Dispatch.Move redis playId phase answer redis' phase')
    (succeeds : Holds p (.dispatch ⟨playId, playToken, phase⟩) → answer ≠ .failed) :
    Carried p redis redis' (.dispatch ⟨playId, playToken, phase⟩)
      (.dispatch ⟨playId, playToken, phase'⟩) answer := by
  cases move with
  | unheld phase phase' answer before after =>
    obtain ⟨overdraft, _⟩ := before.holds p
    obtain ⟨overdraft', _⟩ := after.holds p
    have claims := claims_of_unheld p playId playToken phase before
    have claims' := claims_of_unheld p playId playToken phase' after
    have nothing : handedOver p (.dispatch ⟨playId, playToken, phase⟩) answer = 0 := by
      cases phase with
      | reserveEndpoint processId rest => cases before
      | _ => cases answer <;> rfl
    constructor
    · simp only [Task.overdraft, overdraft, overdraft', claims, claims', nothing]
      omega
    · left
      rw [claims, claims', nothing]
      decide
  | decreases processId rest room =>
    have capacity := redis.capacity_increaseCapacity processId (-1) p
    constructor
    · rw [capacity]
      simp only [Task.overdraft, Phase.overdraft, claims, handedOver]
      split_ifs <;> omega
    · simp only [claims, handedOver]
      split_ifs with same
      · subst same
        exact .inr ⟨by omega, room⟩
      · exact .inl (by omega)
  | overdraws processId rest full =>
    have capacity := redis.capacity_increaseCapacity processId (-1) p
    constructor
    · rw [capacity]
      simp only [Task.overdraft, Phase.overdraft, claims, handedOver]
      split_ifs <;> omega
    · left
      exact Int.le_refl 0
  | resets processId rest phase' after =>
    obtain ⟨overdraft', _⟩ := after.holds p
    have claims' := claims_of_unheld p playId playToken phase' after
    have capacity := redis.capacity_increaseCapacity processId 1 p
    constructor
    · rw [capacity]
      simp only [Task.overdraft, overdraft', claims', handedOver]
      simp only [Phase.overdraft, claims]
      omega
    · left
      rw [claims']
      exact Int.le_refl 0
  | counts processId rest =>
    constructor
    · change redis.capacity p + _ + _ + _ = _
      simp only [Task.overdraft, Phase.overdraft, claims, handedOver]
      omega
    · left
      simp only [claims, handedOver]
      omega
  | reserves processId rest =>
    constructor
    · simp only [Task.overdraft, Phase.overdraft, claims, handedOver, Server.requesting,
        decide_eq_true_eq]
      omega
    · left
      simp only [claims, handedOver, Server.requesting, decide_eq_true_eq]
      omega
  | reservesUnanswered processId rest phase' after =>
    obtain ⟨overdraft', _⟩ := after.holds p
    have claims' := claims_of_unheld p playId playToken phase' after
    constructor
    · simp only [Task.overdraft, overdraft', claims', handedOver, Server.requesting,
        decide_eq_true_eq]
      simp only [Phase.overdraft, claims]
      omega
    · left
      rw [claims']
      simp only [claims, handedOver, Server.requesting, decide_eq_true_eq]
      omega
  | unreset processId rest phase' after =>
    obtain ⟨overdraft', _⟩ := after.holds p
    have claims' := claims_of_unheld p playId playToken phase' after
    have unheld : processId ≠ p := by
      rintro rfl
      refine succeeds ?_ rfl
      simp [Holds, Task.overdraft, Phase.overdraft, claims]
    constructor
    · simp only [Task.overdraft, overdraft', claims', handedOver]
      simp only [Phase.overdraft, claims, if_neg unheld]
      omega
    · left
      rw [claims']
      exact Int.le_refl 0
  | uncounted processId rest phase' after =>
    obtain ⟨overdraft', _⟩ := after.holds p
    have claims' := claims_of_unheld p playId playToken phase' after
    have unheld : processId ≠ p := by
      rintro rfl
      refine succeeds ?_ rfl
      simp [Holds, Task.overdraft, Phase.overdraft, claims]
    constructor
    · change redis.capacity p + _ + _ + _ = _
      simp only [Task.overdraft, overdraft', claims', handedOver]
      simp only [Phase.overdraft, claims, if_neg unheld]
      omega
    · left
      rw [claims']
      simp only [claims, handedOver, if_neg unheld]
      decide
  | unreserved processId rest phase' after =>
    obtain ⟨overdraft', _⟩ := after.holds p
    have claims' := claims_of_unheld p playId playToken phase' after
    have unheld : processId ≠ p := by
      rintro rfl
      refine succeeds ?_ rfl
      simp [Holds, Task.overdraft, Phase.overdraft, claims]
    constructor
    · simp only [Task.overdraft, overdraft', claims', handedOver]
      simp only [Phase.overdraft, claims, if_neg unheld]
      omega
    · left
      rw [claims']
      simp only [claims, handedOver, if_neg unheld]
      decide

theorem carried_giveBack {g g' : GiveBack} (moves : g.next redis answer = some (redis', g'))
    (succeeds : Holds p (.giveBack g) → answer ≠ .failed) :
    Carried p redis redis' (.giveBack g) (.giveBack g') answer := by
  obtain ⟨processId, playId, phase⟩ := g
  unfold GiveBack.next at moves
  split at moves <;> rename_i isPhase
  · obtain rfl : phase = .increaseCapacity := isPhase
    cases moves
    have capacity := redis.capacity_increaseCapacity processId 1 p
    constructor
    · change (redis.increaseCapacity processId 1).capacity p + _ + _ + _ = _
      rw [capacity]
      simp only [Task.overdraft, claims, handedOver]
      omega
    · left
      simp only [claims, handedOver]
      split_ifs <;> decide
  · obtain rfl : phase = .increaseClient := isPhase
    cases moves
    exact ⟨(Int.add_zero _).trans rfl, .inl (Int.le_refl 0)⟩
  · obtain rfl : phase = .increaseCapacity := isPhase
    cases moves
    have unheld : processId ≠ p := by
      rintro rfl
      refine succeeds ?_ rfl
      simp [Holds, Task.overdraft, claims]
    constructor
    · simp only [Task.overdraft, claims, handedOver, if_neg unheld]
      omega
    · left
      simp only [claims, handedOver, if_neg unheld]
      decide
  · obtain rfl : phase = .increaseClient := isPhase
    cases moves
    exact ⟨(Int.add_zero _).trans rfl, .inl (Int.le_refl 0)⟩
  · cases moves

theorem carried_next {task task' : Task}
    (moves : task.next shuffleProcessCount redis answer = some (redis', task'))
    (succeeds : Holds p task → answer ≠ .failed) :
    Carried p redis redis' task task' answer := by
  cases task with
  | dispatch d =>
    obtain ⟨⟨_, d'⟩, ran, eq⟩ := Option.map_eq_some_iff.mp moves
    cases eq
    obtain ⟨same, move⟩ := Dispatch.next_move ran
    have carried := carried_dispatch p d.playToken move succeeds
    rw [same]
    exact carried
  | giveBack g =>
    obtain ⟨⟨_, g'⟩, ran, eq⟩ := Option.map_eq_some_iff.mp moves
    cases eq
    exact carried_giveBack ran succeeds

theorem moves_of_handedOver {task : Task} (handed : handedOver p task answer ≠ 0) :
    task.next shuffleProcessCount redis answer ≠ none := by
  unfold handedOver at handed
  split at handed
  · next d =>
      obtain ⟨playId, playToken, phase⟩ := d
      cases phase with
      | reserveEndpoint processId rest => exact Option.some_ne_none _
      | _ => exact absurd rfl handed
  · next d =>
      obtain ⟨playId, playToken, phase⟩ := d
      cases phase with
      | reserveEndpoint processId rest => exact Option.some_ne_none _
      | _ => exact absurd rfl handed
  · exact absurd rfl handed

namespace Server

variable {w : Server} {maxClients : Nat}

structure Inv (maxClients : Nat) (w : Server) : Prop where
  sound : w.manager.Sound
  limit : w.manager.limit = maxClients
  capacity : w.dispatches.state.capacity w.processId +
    total (Task.overdraft w.processId) w.dispatches.threads +
    total (claims w.processId) w.dispatches.threads + w.requests.length +
    w.manager.reserved.length + w.manager.started.length = maxClients
  room : total (claims w.processId) w.dispatches.threads + w.requests.length +
    w.manager.reserved.length + w.manager.started.length ≤ maxClients

/-- A step that loses no capacity: nothing fails for a task that holds one, no request is
lost, no reservation and no session is made twice, and a validation request finds nothing
that is inherited. -/
def Careful (w : Server) : Action → Prop
  | .dispatch _ _ _ | .giveBack _ _ | .timeout _ | .close _ => True
  | .step index answer => ∀ task ∈ w.dispatches.threads[index]?,
      (Holds w.processId task → answer ≠ .failed) ∧
        ∀ d, task = .dispatch d → answer.isReserved = true → requesting w.processId d = true →
          w.manager.Reservable d.playId d.playToken
  | .arrive index => ∀ request ∈ w.requests[index]?, w.manager.Reservable request.1 request.2
  | .lose index => w.requests[index]? = none
  | .validationRequest sessionId playId token =>
    w.manager.Startable playId token sessionId

instance (w : Server) : DecidablePred w.Careful
  | .dispatch _ _ _ | .giveBack _ _ | .timeout _ | .close _ => isTrue trivial
  | .step index answer => decidable_of_iff
      (∀ task ∈ w.dispatches.threads[index]?, (Holds w.processId task → ¬ answer = .failed) ∧
        ∀ d ∈ task.asDispatch, answer.isReserved = true → requesting w.processId d = true →
          w.manager.Reservable d.playId d.playToken)
      (by simp only [Task.mem_asDispatch]; rfl)
  | .arrive index => inferInstanceAs (Decidable (∀ request ∈ w.requests[index]?,
      w.manager.Reservable request.1 request.2))
  | .lose index => inferInstanceAs (Decidable (w.requests[index]? = none))
  | .validationRequest sessionId playId token =>
    inferInstanceAs (Decidable (w.manager.Startable playId token sessionId))

theorem inv_new (processId : String) (maxClients : Nat) (capacities : SortedSet)
    (clients : String → SortedSet) :
    Inv maxClients (new processId maxClients capacities clients) := by
  refine ⟨SessionManager.sound_new maxClients, rfl, ?_, ?_⟩
  · simp [new, DispatchingRedis.capacity, SortedSet.score, SortedSet.zscore, SessionManager.new]
  · simp [new, SessionManager.new]

theorem inv_spawn (inv : Inv maxClients w) (task : Task)
    (overdraft : task.overdraft w.processId = 0) (unclaimed : claims w.processId task = 0) :
    Inv maxClients (w.spawn task) := by
  obtain ⟨sound, limit, capacity, room⟩ := inv
  refine ⟨sound, limit, ?_, ?_⟩
  · simp only [spawn, total_append, overdraft, unclaimed]
    omega
  · simp only [spawn, total_append, unclaimed]
    omega

theorem inv_handle_released (inv : Inv maxClients w) (manager : SessionManager)
    (sound : manager.Sound) (limit : manager.limit = w.manager.limit)
    (released : manager.reserved.length + manager.started.length + 1 =
      w.manager.reserved.length + w.manager.started.length) (playId : String) :
    Inv maxClients
      { w with
        manager := manager
        dispatches.threads :=
          w.dispatches.threads ++ [.giveBack (.new w.processId playId)] } := by
  obtain ⟨_, limit', capacity, room⟩ := inv
  have claim : claims w.processId (.giveBack (.new w.processId playId)) = 1 := if_pos rfl
  refine ⟨sound, limit.trans limit', ?_, ?_⟩
  · simp only [total_append, claim, Task.overdraft]
    omega
  · simp only [total_append, claim]
    omega

theorem inv_onTimeout (inv : Inv maxClients w) (timer : Timer) (there : timer ∈ w.manager.timers) :
    Inv maxClients (w.onTimeout timer) := by
  rw [inv.sound.timers] at there
  obtain ⟨released, less⟩ := inv.sound.release timer there
  refine inv_handle_released inv _ released rfl ?_ timer.playId
  change _ + w.manager.started.length + 1 = _
  omega

theorem inv_endBySession (inv : Inv maxClients w) (sessionId : String) :
    Inv maxClients (w.endBySession sessionId) := by
  unfold endBySession
  rcases inv.sound.endBySession sessionId with same | ⟨playId, event, sound, reserved, limit, less⟩
  · rw [same]
    exact inv
  · generalize w.manager.endBySession sessionId = ended at event sound reserved limit less
    obtain ⟨manager, event'⟩ := ended
    cases event
    refine inv_handle_released inv manager sound limit ?_ playId
    dsimp only at reserved less
    rw [reserved]
    omega

theorem inv_onClose (inv : Inv maxClients w) (sessionId : String) :
    Inv maxClients (w.onClose sessionId) := by
  have ended : ∀ (ids : List String) (w : Server), Inv maxClients w →
      Inv maxClients (ids.foldl endBySession w) := by
    intro ids
    induction ids with
    | nil => exact fun w inv => inv
    | cons id rest ih => exact fun w inv => ih _ (inv_endBySession inv id)
  obtain ⟨sound, limit, capacity, room⟩ :=
    ended (w.closeListeners.filter fun id => id = sessionId) w inv
  exact ⟨sound, limit, capacity, room⟩

theorem inv_reserve (w : Server) (playId token : String) (sound : w.manager.Sound)
    (limit : w.manager.limit = maxClients)
    (capacity : w.dispatches.state.capacity w.processId +
      total (Task.overdraft w.processId) w.dispatches.threads +
      total (claims w.processId) w.dispatches.threads + w.requests.length +
      w.manager.reserved.length + w.manager.started.length + 1 = maxClients)
    (room : total (claims w.processId) w.dispatches.threads + w.requests.length +
      w.manager.reserved.length + w.manager.started.length + 1 ≤ maxClients)
    (first : w.manager.timer? playId token = none) :
    Inv maxClients (w.reserve playId token) := by
  obtain ⟨sound', more⟩ := sound.reserve playId token first
  have started : (w.manager.reserve playId token).1.started = w.manager.started := rfl
  refine ⟨sound', limit, ?_, ?_⟩
  · change w.dispatches.state.capacity w.processId +
      total (Task.overdraft w.processId) w.dispatches.threads +
      total (claims w.processId) w.dispatches.threads + w.requests.length +
      (w.manager.reserve playId token).1.reserved.length + w.manager.started.length = _
    omega
  · change total (claims w.processId) w.dispatches.threads + w.requests.length +
      (w.manager.reserve playId token).1.reserved.length + w.manager.started.length ≤ _
    omega

theorem receive_cases (w : Server) (task : Task) (answer : Dispatching.Answer) :
    (handedOver w.processId task answer = 0 ∧ w.receive task answer = w) ∨
      (handedOver w.processId task answer = 1 ∧ ∃ d, task = .dispatch d ∧
        ((answer.isReserved = true ∧ requesting w.processId d = true ∧
            w.receive task answer = w.reserve d.playId d.playToken) ∨
          w.receive task answer =
            { w with requests := w.requests ++ [(d.playId, d.playToken)] })) := by
  cases task with
  | giveBack g => exact .inl ⟨by cases answer <;> rfl, by cases answer <;> rfl⟩
  | dispatch d =>
    by_cases asked : requesting w.processId d = true
    · cases answer with
      | reserved => exact .inr ⟨if_pos asked, d, rfl, .inl ⟨rfl, asked, if_pos asked⟩⟩
      | unanswered => exact .inr ⟨if_pos asked, d, rfl, .inr (if_pos asked)⟩
      | _ => exact .inl ⟨rfl, rfl⟩
    · cases answer with
      | reserved | unanswered => exact .inl ⟨if_neg asked, if_neg asked⟩
      | _ => exact .inl ⟨rfl, rfl⟩

theorem inv_receive (w : Server) (task : Task) (answer : Dispatching.Answer)
    (sound : w.manager.Sound) (limit : w.manager.limit = maxClients)
    (capacity : w.dispatches.state.capacity w.processId +
      total (Task.overdraft w.processId) w.dispatches.threads +
      total (claims w.processId) w.dispatches.threads + w.requests.length +
      w.manager.reserved.length + w.manager.started.length +
      handedOver w.processId task answer = maxClients)
    (room : total (claims w.processId) w.dispatches.threads + w.requests.length +
      w.manager.reserved.length + w.manager.started.length +
      handedOver w.processId task answer ≤ maxClients)
    (first : ∀ d, task = .dispatch d → answer.isReserved = true →
      requesting w.processId d = true → w.manager.Reservable d.playId d.playToken) :
    Inv maxClients (w.receive task answer) := by
  rcases receive_cases w task answer with ⟨nothing, same⟩ | ⟨one, d, isTask, cases_⟩
  · rw [same]
    exact ⟨sound, limit, by omega, by omega⟩
  · rw [one] at capacity room
    rcases cases_ with ⟨reserved, asked, eq⟩ | eq
    · rw [eq]
      exact inv_reserve w d.playId d.playToken sound limit capacity room
        (first d isTask reserved asked).first
    · rw [eq]
      refine ⟨sound, limit, ?_, ?_⟩
      · simp only [length_append, length_singleton]
        omega
      · simp only [length_append, length_singleton]
        omega

theorem inv_advance (inv : Inv maxClients w) (index : Nat) (answer : Dispatching.Answer)
    (careful : w.Careful (.step index answer)) :
    Inv maxClients (w.advance shuffleProcessCount index answer) := by
  obtain ⟨sound, limit, capacity, room⟩ := inv
  cases here : w.dispatches.threads[index]? with
  | none =>
    unfold advance
    rw [here]
    exact ⟨sound, limit, capacity, room⟩
  | some task =>
    obtain ⟨succeeds, first⟩ := careful task here
    unfold advance
    rw [here]
    cases moves : task.next shuffleProcessCount w.dispatches.state answer with
    | none =>
      have idle : handedOver w.processId task answer = 0 := by
        by_contra handed
        exact moves_of_handedOver handed moves
      have same : w.dispatches.step (Task.next shuffleProcessCount) (.step index answer) =
          w.dispatches := by
        simp only [Pool.step, here, moves]
      rw [same]
      refine inv_receive _ task answer sound limit ?_ ?_ first
      · dsimp only
        omega
      · dsimp only
        omega
    | some moved =>
      obtain ⟨redis', task'⟩ := moved
      have carried := carried_next moves succeeds
      have overdraft := total_set (Task.overdraft w.processId) w.dispatches.threads index
        task task' here
      have claimed := total_set (claims w.processId) w.dispatches.threads index task task'
        here
      have overdraft_nonneg : 0 ≤ total (Task.overdraft w.processId)
          (w.dispatches.threads.set index task') :=
        total_nonneg _ _ fun task _ => task.overdraft_nonneg w.processId
      have eq : w.dispatches.step (Task.next shuffleProcessCount) (.step index answer) =
          ⟨redis', w.dispatches.threads.set index task'⟩ := by
        simp only [Pool.step, here, moves]
      have capacity' := carried.capacity
      rw [eq]
      refine inv_receive _ task answer sound limit ?_ ?_ first
      · dsimp only
        omega
      · dsimp only
        rcases carried.room with below | ⟨more, nonneg⟩ <;> omega

theorem inv_arrive (inv : Inv maxClients w) (index : Nat) (careful : w.Careful (.arrive index)) :
    Inv maxClients (w.arrive index) := by
  unfold arrive
  split
  · exact inv
  · next playId token here =>
      obtain ⟨sound, limit, capacity, room⟩ := inv
      have inside := (List.getElem?_eq_some_iff.mp here).1
      have less : (w.requests.eraseIdx index).length + 1 = w.requests.length := by
        rw [length_eraseIdx_of_lt inside]
        omega
      refine inv_reserve { w with requests := w.requests.eraseIdx index } playId token sound limit
        ?_ ?_ (careful (playId, token) here).first
      · dsimp only
        omega
      · dsimp only
        omega

theorem inv_onValidationRequest (inv : Inv maxClients w) (sessionId playId token : String)
    (careful : w.Careful (.validationRequest sessionId playId token)) :
    Inv maxClients (w.onValidationRequest sessionId playId token) := by
  obtain ⟨sound, limit, capacity, room⟩ := inv
  have claimed : 0 ≤ total (claims w.processId) w.dispatches.threads :=
    total_nonneg _ _ fun task _ => claims_nonneg w.processId task
  have fits : w.manager.reserved.length + w.manager.started.length ≤ w.manager.limit := by omega
  obtain ⟨sound', limit', same, event⟩ := sound.start playId token sessionId fits careful
  unfold onValidationRequest
  split_ifs
  · exact ⟨sound, limit, capacity, room⟩
  · exact ⟨sound, limit, capacity, room⟩
  · generalize w.manager.start playId token sessionId = started at sound' limit' same event
    obtain ⟨manager, event', ok⟩ := started
    dsimp only at sound' limit' same event ⊢
    have kept : Inv maxClients { w with manager := manager } :=
      ⟨sound', limit'.trans limit, by dsimp only; omega, by dsimp only; omega⟩
    have handled : Inv maxClients ({ w with manager := manager }.handle event') := by
      rcases event with rfl | rfl <;> exact kept
    split_ifs
    · exact ⟨handled.sound, handled.limit, handled.capacity, handled.room⟩
    · exact handled

theorem inv_step (w : Server) (action : Action) (inv : Inv maxClients w)
    (careful : w.Careful action) : Inv maxClients (w.step shuffleProcessCount action) := by
  cases action with
  | dispatch playId playToken forceProcessId =>
    have begins : (Task.dispatch (.new playId playToken forceProcessId)).Begins := by
      unfold Dispatch.new
      split <;> rfl
    refine inv_spawn inv _ (Task.held_of_begins w.processId _ begins).1 ?_
    exact claims_of_unheld _ _ _ _ (Phase.unheld_of_begins begins)
  | giveBack processId playId =>
    unfold step
    dsimp only
    split_ifs with same
    · exact inv
    · exact inv_spawn inv _ rfl (if_neg same)
  | step index answer => exact inv_advance inv index answer careful
  | arrive index => exact inv_arrive inv index careful
  | lose index =>
    have same : w.requests.eraseIdx index = w.requests :=
      eraseIdx_of_length_le (List.getElem?_eq_none_iff.mp careful)
    change Inv maxClients { w with requests := w.requests.eraseIdx index }
    rw [same]
    exact inv
  | timeout timer =>
    unfold step
    dsimp only
    split_ifs with there
    · exact inv_onTimeout inv timer there
    · exact inv
  | validationRequest sessionId playId token =>
    exact inv_onValidationRequest inv sessionId playId token careful
  | close sessionId =>
    unfold step
    dsimp only
    split_ifs
    · exact inv
    · exact inv_onClose inv sessionId

/-- Where nothing is in progress, the score, the reservations and the sessions of a server
make up its maximum. -/
theorem capacity_conserved (shuffleProcessCount : Nat) (processId : String) (maxClients : Nat)
    (capacities : SortedSet) (clients : String → SortedSet) (actions : List Action)
    (careful : Run.Allowed (step shuffleProcessCount) Careful
      (new processId maxClients capacities clients) actions) :
    let w := Run.final (step shuffleProcessCount) (new processId maxClients capacities clients)
      actions
    w.Idle → w.accounted = maxClients := by
  intro w idle
  obtain ⟨_, _, capacity, _⟩ : Inv maxClients w :=
    Run.invariant inv_step _ actions (inv_new processId maxClients capacities clients) careful
  have overdraft := total_eq_zero (Task.overdraft w.processId) w.dispatches.threads
    fun task there => (task.held_of_finished w.processId (idle.2 task there)).1
  have claimed := total_eq_zero (claims w.processId) w.dispatches.threads fun task there =>
    claims_of_finished w.processId task (idle.2 task there)
  have requests : w.requests.length = 0 := by rw [idle.1, length_nil]
  unfold accounted
  omega

/-- Two dispatches, one of them answered late; a session that comes and goes, and a
reservation that times out. -/
def carefulActions : List Action :=
  [.dispatch "play" "a" (some "p"), .step 0 (.alive [⟨"p", some "endpoint"⟩]), .step 0 .done,
    .dispatch "play" "b" (some "p"), .step 1 (.alive [⟨"p", some "endpoint"⟩]), .step 1 .done,
    .step 1 .done, .step 1 .unanswered, .step 0 .done, .step 0 .reserved,
    .validationRequest "session" "play" "a", .arrive 0, .validationRequest "session" "play" "a",
    .close "session", .timeout ⟨1, "play", "b"⟩, .step 2 .done, .step 3 .done, .step 2 .done,
    .step 3 .failed]

theorem capacity_conserved_careful :
    (Run.final (step 5) (new "p" 2 [] fun _ => []) carefulActions).accounted = 2 := by
  exact capacity_conserved 5 "p" 2 [] (fun _ => []) carefulActions (by decide +kernel)
    (by decide +kernel)

def failedReservation : List Action :=
  [.dispatch "play" "a" (some "p"), .step 0 (.alive [⟨"p", some "endpoint"⟩]), .step 0 .done,
    .step 0 .done, .step 0 .failed]

/-- Its capacity is gone. -/
theorem capacity_lost :
    ¬ ∀ (shuffleProcessCount : Nat) (processId : String) (maxClients : Nat)
      (capacities : SortedSet) (clients : String → SortedSet) (actions : List Action),
      let w := Run.final (step shuffleProcessCount)
        (new processId maxClients capacities clients) actions
      w.Idle → w.accounted = maxClients := by
  intro claimed
  have equal := claimed 5 "p" 2 [] (fun _ => []) failedReservation (by decide +kernel)
  revert equal
  decide +kernel

end Server
end AkashicSystem.PlaylogServer
