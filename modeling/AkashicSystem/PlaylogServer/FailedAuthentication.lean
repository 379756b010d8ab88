import Mathlib.Data.List.Basic
import AkashicSystem.PlaylogServer.EventSanitation
import AkashicSystem.PlaylogServer.SessionAuthentication

/-!
# A session whose authentication has failed

An error that is called back leaves the permission as it is: it is the one of no
operation from the call of `authenticate` on, and the token's from the validation
on.  So the session is closed to its client where the validation fails, and open
where the connection or the write lock fails.
-/

set_option autoImplicit false

namespace AkashicSystem.PlaylogServer

open AkashicSystem.Js AMFlow List

def Effect.isCallback : Effect → Bool
  | .tickList _ _ | .startPointPut _ | .startPoint _ _ => true
  | _ => false

def Effect.isError : Effect → Bool
  | .tickList (some _) none | .startPointPut (some _) | .startPoint (some _) none => true
  | _ => false

namespace AMFlow

def OnlyErrors (s after : AMFlow) : Prop :=
  ∃ errors : List Effect, after = { s with effects := s.effects ++ errors } ∧
    ∀ error ∈ errors, error.isError = true

/-- The operation does nothing but to call back with an error, whatever the codec and the
limits are; one that has been let through before calls back with an error. -/
def Refused (s : AMFlow) (holders : Ref → PlayTokenHolder) (op : Operation) : Prop :=
  match op with
  | .answer index answer =>
    ∃ effects, (s.answer holders index answer).effects = s.effects ++ effects ∧
      ∀ effect ∈ effects, effect.isCallback = true → effect.isError = true
  | op => ∀ engine, s.OnlyErrors (s.perform engine holders op)

/-- Operations are let through by the permission; a subscription is not refused for a
token that is revoked. -/
def Permits (permission : Permission) (revoked : Bool) : Prop :=
  permission.subscribeTick = true ∨ permission.subscribeEvent = true ∨
    revoked = false ∧ (permission.readTick = true ∨ permission.writeTick = true ∨
      permission.sendEvent = true)

theorem not_permits_initial (revoked : Bool) : ¬ Permits .initial revoked := by
  simp [Permits, Permission.initial]

theorem not_permits_iff (permission : Permission) (revoked : Bool) : ¬ Permits permission revoked ↔
      permission.subscribeTick = false ∧ permission.subscribeEvent = false ∧
        (revoked = true ∨ permission.readTick = false ∧ permission.writeTick = false ∧
          permission.sendEvent = false) := by
  cases revoked <;> simp [Permits]

variable (engine : Engine) (holders : Ref → PlayTokenHolder) (s : AMFlow)

section Closed

variable {engine} {holders} {s}

theorem OnlyErrors.refl : s.OnlyErrors s := ⟨[], by simp, by simp⟩

theorem OnlyErrors.emit (effect : Effect) (error : effect.isError = true) :
    s.OnlyErrors (s.emit effect) := by
  refine ⟨[effect], rfl, fun other mem => ?_⟩
  rw [mem_singleton.mp mem]
  exact error

variable (closed : ¬ Permits s.permission (s.revoked holders))

include closed

theorem errGetTickList_of_closed : ∃ error, s.errGetTickList holders = some error := by
  obtain ⟨_, _, revoked | ⟨readTick, _, _⟩⟩ := (not_permits_iff _ _).mp closed
  · exact ⟨createTokenRevokedError, by simp [errGetTickList, revoked]⟩
  · by_cases revoked : s.revoked holders = true
    · exact ⟨createTokenRevokedError, by simp [errGetTickList, revoked]⟩
    · exact ⟨createPermissionError "no readTick permission",
        by simp [errGetTickList, revoked, readTick]⟩

theorem errPutStartPoint_of_closed : ∃ error, s.errPutStartPoint holders = some error := by
  obtain ⟨_, _, revoked | ⟨_, writeTick, _⟩⟩ := (not_permits_iff _ _).mp closed
  · exact ⟨createTokenRevokedError, by simp [errPutStartPoint, revoked]⟩
  · by_cases revoked : s.revoked holders = true
    · exact ⟨createTokenRevokedError, by simp [errPutStartPoint, revoked]⟩
    · exact ⟨createPermissionError "no writeTick permission",
        by simp [errPutStartPoint, revoked, writeTick]⟩

theorem errGetStartPoint_of_closed : ∃ error, s.errGetStartPoint holders = some error := by
  obtain ⟨_, _, revoked | ⟨readTick, writeTick, _⟩⟩ := (not_permits_iff _ _).mp closed
  · exact ⟨createTokenRevokedError, by simp [errGetStartPoint, revoked]⟩
  · by_cases revoked : s.revoked holders = true
    · exact ⟨createTokenRevokedError, by simp [errGetStartPoint, revoked]⟩
    · exact ⟨createPermissionError "no readTick permission",
        by simp [errGetStartPoint, revoked, readTick, writeTick]⟩

theorem sendRawTick_of_closed (tick : List UInt8) : s.sendRawTick holders tick = s := by
  obtain ⟨_, _, revoked | ⟨_, writeTick, _⟩⟩ := (not_permits_iff _ _).mp closed
  · simp [sendRawTick, revoked]
  · simp [sendRawTick, writeTick]

theorem sendRawEvent_of_closed (buf : List UInt8) (now : Int) :
    s.sendRawEvent engine holders buf now = s := by
  rcases sendRawEvent_cases engine holders s buf now with
    same | ⟨_, _, _, may, alive, _⟩
  · exact same
  · exact absurd (.inr (.inr ⟨alive, .inr (.inr may)⟩)) closed

/-- What follows `await` checks the permission again before it hands anything out. -/
theorem continue_of_closed (request : Request) (answer : Answer) :
    ∃ effects, (s.continue_ holders request answer).effects = s.effects ++ effects ∧
      ∀ effect ∈ effects, effect.isCallback = true → effect.isError = true := by
  obtain ⟨noTicks, ticks⟩ := errGetTickList_of_closed closed
  obtain ⟨noPut, put⟩ := errPutStartPoint_of_closed closed
  obtain ⟨noPoint, point⟩ := errGetStartPoint_of_closed closed
  have single (effect : Effect) (emitted : (s.continue_ holders request answer).effects =
      s.effects ++ [effect]) (error : effect.isCallback = true → effect.isError = true) :
      ∃ effects, (s.continue_ holders request answer).effects = s.effects ++ effects ∧
        ∀ effect ∈ effects, effect.isCallback = true → effect.isError = true := by
    refine ⟨[effect], emitted, fun other mem => ?_⟩
    rw [mem_singleton.mp mem]
    exact error
  cases request with
  | gameCode first last flags =>
    cases answer with
    | gameCode gameCode =>
      by_cases nicocas : s.getGameCode gameCode = "nicocas"
      · exact single (.getRawTickListExcludedIgnorable first last flags)
          (by simp [continue_, nicocas, await, emit]) nofun
      · exact single (.getRawTickList first last)
          (by simp [continue_, nicocas, await, emit]) nofun
    | _ => exact single _ rfl fun _ => rfl
  | tickList =>
    cases answer with
    | tickList tickList =>
      exact single (.tickList (some noTicks) none) (by simp [continue_, ticks, emit])
        fun _ => rfl
    | _ => exact single _ rfl fun _ => rfl
  | putStartPoint =>
    cases answer with
    | put =>
      exact single (.startPointPut (some noPut)) (by simp [continue_, put, emit]) fun _ => rfl
    | _ => exact single _ rfl fun _ => rfl
  | getStartPoint =>
    cases answer with
    | startPoint startPoint =>
      exact single (.startPoint (some noPoint) none) (by simp [continue_, point, emit])
        fun _ => rfl
    | _ => exact single _ rfl fun _ => rfl

theorem refused_of_closed (op : Operation) : s.Refused holders op := by
  obtain ⟨subscribeTick, subscribeEvent, _⟩ := (not_permits_iff _ _).mp closed
  cases op with
  | sendRawTick tick =>
    intro engine
    show s.OnlyErrors (s.sendRawTick holders tick)
    rw [sendRawTick_of_closed closed]
    exact .refl
  | sendRawEvent buf now =>
    intro engine
    show s.OnlyErrors (s.sendRawEvent engine holders buf now)
    rw [sendRawEvent_of_closed closed]
    exact .refl
  | onRawTick handler =>
    intro engine
    have same : s.onRawTick handler = s := by simp [onRawTick, subscribeTick]
    show s.OnlyErrors (s.onRawTick handler)
    rw [same]
    exact .refl
  | offRawTick handler =>
    intro engine
    have same : s.offRawTick handler = s := by simp [offRawTick, subscribeTick]
    show s.OnlyErrors (s.offRawTick handler)
    rw [same]
    exact .refl
  | onRawEvent handler =>
    intro engine
    have same : s.onRawEvent handler = s := by simp [onRawEvent, subscribeEvent]
    show s.OnlyErrors (s.onRawEvent handler)
    rw [same]
    exact .refl
  | offRawEvent handler =>
    intro engine
    have same : s.offRawEvent handler = s := by simp [offRawEvent, subscribeEvent]
    show s.OnlyErrors (s.offRawEvent handler)
    rw [same]
    exact .refl
  | getRawTickList first last flags =>
    intro engine
    obtain ⟨error, refuses⟩ := errGetTickList_of_closed closed
    show s.OnlyErrors (s.getRawTickList holders first last flags)
    simp only [getRawTickList, refuses]
    exact .emit _ rfl
  | putStartPoint startPoint =>
    intro engine
    obtain ⟨error, refuses⟩ := errPutStartPoint_of_closed closed
    show s.OnlyErrors (s.putStartPoint holders startPoint)
    simp only [putStartPoint, refuses]
    exact .emit _ rfl
  | getStartPoint opts =>
    intro engine
    obtain ⟨error, refuses⟩ := errGetStartPoint_of_closed closed
    show s.OnlyErrors (s.getStartPoint holders opts)
    simp only [getStartPoint, refuses]
    exact .emit _ rfl
  | answer index reply =>
    show ∃ effects, (s.answer holders index reply).effects = s.effects ++ effects ∧
      ∀ effect ∈ effects, effect.isCallback = true → effect.isError = true
    unfold answer
    split
    · exact ⟨[], by simp, by simp⟩
    · next request _ =>
      have same : ¬ Permits { s with requests := s.requests.eraseIdx index }.permission
          ({ s with requests := s.requests.eraseIdx index }.revoked holders) := closed
      exact continue_of_closed same request reply

end Closed

section Open

/-- The codec decodes one event, of a code that is allowed, and nothing is limited. -/
def unlimited : Engine where
  decodeEvent _ := some (.array [.number 32, .number 0, .null])
  toNumber _ := .ok 0
  eventCodeWhiteList := [32]
  eventLimitCount := ⟨.infinity, .infinity⟩

theorem OnlyErrors.requests {after : AMFlow} (only : s.OnlyErrors after) :
    after.requests = s.requests := by
  obtain ⟨errors, eq, _⟩ := only
  rw [eq]

theorem subscribesTicks (permitted : s.permission.subscribeTick = true) :
    ¬ s.Refused holders (.onRawTick 0) := by
  intro refused
  obtain ⟨errors, eq, _⟩ := refused unlimited
  have handlers := congrArg tickHandlers eq
  have added : (s.onRawTick 0).tickHandlers = s.tickHandlers ++ [0] := by
    by_cases first : s.tickHandlers.isEmpty = true
    · simp [onRawTick, permitted, first, emit]
    · simp [onRawTick, permitted, first]
  cases append_right_eq_self.mp (added.symm.trans handlers)

theorem subscribesEvents (permitted : s.permission.subscribeEvent = true) :
    ¬ s.Refused holders (.onRawEvent 0) := by
  intro refused
  obtain ⟨errors, eq, _⟩ := refused unlimited
  have handlers := congrArg eventHandlers eq
  have added : (s.onRawEvent 0).eventHandlers = s.eventHandlers ++ [0] := by
    by_cases first : s.eventHandlers.isEmpty = true
    · simp [onRawEvent, permitted, first, emit]
    · simp [onRawEvent, permitted, first]
  cases append_right_eq_self.mp (added.symm.trans handlers)

theorem readsTicks (alive : s.revoked holders = false) (permitted : s.permission.readTick = true) :
    ¬ s.Refused holders (.getRawTickList 0 0 .null) := by
  intro refused
  have requests := (refused unlimited).requests
  have accepted : s.errGetTickList holders = none := by simp [errGetTickList, alive, permitted]
  have added : (s.getRawTickList holders 0 0 .null).requests =
      s.requests ++ [Request.gameCode 0 0 .null] := by
    by_cases unknown : s.gameCode.getD "" = ""
    · simp [getRawTickList, accepted, unknown, await, emit]
    · simp [getRawTickList, accepted, unknown, await]
  cases append_right_eq_self.mp (added.symm.trans requests)

theorem putsStartPoints (alive : s.revoked holders = false)
    (permitted : s.permission.writeTick = true) : ¬ s.Refused holders (.putStartPoint .null) := by
  intro refused
  have requests := (refused unlimited).requests
  have accepted : s.errPutStartPoint holders = none := by
    simp [errPutStartPoint, alive, permitted]
  have added : (s.putStartPoint holders .null).requests =
    s.requests ++ [Request.putStartPoint] := by
    simp [putStartPoint, accepted, await, emit]
  cases append_right_eq_self.mp (added.symm.trans requests)

theorem toNumber_unlimited (item : Item) : ∃ n, item.toNumber unlimited.toNumber = .ok n := by
  cases item with
  | decoded value =>
    cases number : value.asNumber with
    | some n => exact ⟨n, by simp [Item.toNumber, number]⟩
    | none => exact ⟨0, by simp [Item.toNumber, number, unlimited]⟩
  | number n => exact ⟨n, rfl⟩

theorem passes_unlimited (userId : Option String) : ∃ identified capped, Passes unlimited s userId
      (decoded [.number 32, .number 0, .null]) 0 identified capped := by
  have named : ∃ identified,
      identify userId (decoded [.number 32, .number 0, .null]) = some identified ∧
        identified.get 0 = some (.decoded (.number 32)) ∧
        identified.get 1 = some (.decoded (.number 0)) := by
    unfold identify
    split <;> exact ⟨_, rfl, rfl, rfl⟩
  obtain ⟨identified, identity, code, priority⟩ := named
  have below (priority : Option Item) :
      (s.beginSecond 0).limited unlimited priority = .ok false := by
    cases priority with
    | none => rfl
    | some item =>
      obtain ⟨n, number⟩ := toNumber_unlimited item
      have never : ∀ count : ℚ, Number.infinity.le (.finite count) = false := fun _ => rfl
      simp only [limited, number, bind, Except.bind, pure, Except.pure]
      simp [unlimited, never]
  have compared : exceeds unlimited s.permission.maxEventPriority (identified.get 1) =
      .ok (s.permission.maxEventPriority.lt 0) := by
    rw [priority]
    rfl
  by_cases greater : s.permission.maxEventPriority.lt 0 = true
  · refine ⟨identified, identified.set 1 (.number s.permission.maxEventPriority), identity, ?_, ?_,
      below _⟩
    · simp [cap, compared, greater, bind, Except.bind, pure, Except.pure]
    · rw [identified.get_set_of_ne 1 0 _ (by decide), code]
      decide +kernel
  · refine ⟨identified, identified, identity, ?_, ?_, below _⟩
    · simp [cap, compared, greater, bind, Except.bind, pure, Except.pure]
    · rw [code]
      decide +kernel

theorem sendsEvents (alive : s.revoked holders = false) (permitted : s.permission.sendEvent = true)
    (ref : Ref) (holder : s.tokenHolder = some ref) : ¬ s.Refused holders (.sendRawEvent [] 0) := by
  intro refused
  obtain ⟨errors, eq, allErrors⟩ := refused unlimited
  obtain ⟨identified, published, passes⟩ :=
    passes_unlimited s (holders ref).playToken.userId
  have publishes : (s.sendRawEvent unlimited holders [] 0).effects =
      s.effects ++ [Effect.publishEvent published] :=
    (publishes_iff unlimited holders s [] 0 published).mpr
      ⟨permitted, alive, _, ref, identified, rfl, holder, passes⟩
  have effects : (s.sendRawEvent unlimited holders [] 0).effects = s.effects ++ errors :=
    congrArg effects eq
  rw [publishes] at effects
  have same := append_cancel_left effects
  have published' : Effect.publishEvent published ∈ errors := by
    rw [← same]
    exact mem_singleton_self _
  cases allErrors _ published'

theorem closed_of_refused (bare : s.tokenHolder = none → s.permission = .initial)
    (refused : ∀ op, s.Refused holders op) : ¬ Permits s.permission (s.revoked holders) := by
  rintro (ticks | events | ⟨alive, ticks | writes | sends⟩)
  · exact subscribesTicks holders s ticks (refused _)
  · exact subscribesEvents holders s events (refused _)
  · exact readsTicks holders s alive ticks (refused _)
  · exact putsStartPoints holders s alive writes (refused _)
  · cases holder : s.tokenHolder with
    | none =>
      rw [bare holder] at sends
      cases sends
    | some ref => exact sendsEvents holders s alive sends ref holder (refused _)

end Open

theorem Permits.of_revoked {permission : Permission} {before after : Bool}
    (permits : Permits permission after) (stays : before = true → after = true) :
    Permits permission before := by
  rcases permits with ticks | events | ⟨alive, permitted⟩
  · exact .inl ticks
  · exact .inr (.inl events)
  · refine .inr (.inr ⟨?_, permitted⟩)
    cases before with
    | false => rfl
    | true => cases alive.symm.trans (stays rfl)

end AMFlow

namespace SessionAuthentication

def World.Permits (w : World) : Prop :=
  AMFlow.Permits w.amflow.permission (w.amflow.revoked w.validator.holders)

/-- From an error that has been called back to the next success, every operation is
refused. -/
def FailsClosed (w : World) : Prop :=
  w.answered = some false → ∀ op, w.amflow.Refused w.validator.holders op

def fails : Task → Reply → Bool
  | .releasing, .rejected => true
  | .validating, .rejected => true
  | .granting preparing _ failed, .prepared succeeded => preparing && !succeeded && !failed
  | .granting _ locking failed, .writeLocked succeeded => locking && !succeeded && !failed
  | _, _ => false

def installs : Task → Reply → Option Ref
  | .validating, .validated ref => some ref
  | _, _ => none

/-- An error is called back while the session permits nothing.  Between an error and the
next success, no token is installed that permits anything and waits for the handlers. -/
def Withheld (w : World) (fails : Bool) (installs : Option Ref) : Prop :=
  (fails = true → ¬ w.Permits) ∧
    ∀ ref, installs = some ref → ref ∈ w.validator.validated → w.answered = some false →
      (w.validator.holders ref).playToken.permission.connects = true →
      ¬ Permits (w.validator.holders ref).playToken.permission
        (w.validator.holders ref).revoked

def Condition (p : Run) : Pool.Action Task Reply → Prop
  | .start _ => True
  | .step index reply => ∀ task ∈ p.threads[index]?,
      Withheld p.state (fails task reply) (installs task reply)

inductive Turn (w : World) : World → Bool → Option Ref → Prop
  | cleared (w' : World) (validator : w'.validator = w.validator)
      (answered : w'.answered = w.answered) (permission : w'.amflow.permission = .initial)
      (holder : w'.amflow.tokenHolder = none) : Turn w w' false none
  | kept (w' : World) (validator : w'.validator = w.validator)
      (copy : w.amflow.SameCopy w'.amflow)
      (answered : w'.answered = w.answered ∨ w'.answered = some true) : Turn w w' false none
  | failed (w' : World) (validator : w'.validator = w.validator)
      (copy : w.amflow.SameCopy w'.amflow) (answered : w'.answered = some false) :
      Turn w w' true none
  | installed (w' : World) (ref : Ref) (valid : ref ∈ w.validator.validated)
      (validator : w'.validator = w.validator)
      (permission : w'.amflow.permission = (w.validator.holders ref).playToken.permission)
      (holder : w'.amflow.tokenHolder = some ref)
      (answered : w'.answered =
        if (w.validator.holders ref).playToken.permission.connects then w.answered
        else some true) :
      Turn w w' false (some ref)
  | validator (action : Validator.Action) :
      Turn w { w with validator := w.validator.step action } false none

section Turns

theorem copy_authenticate (s : AMFlow) :
    s.authenticate.permission = .initial ∧ s.authenticate.tokenHolder = none := by
  unfold authenticate
  dsimp only
  split <;> exact ⟨rfl, rfl⟩

theorem sameCopy_close (s : AMFlow) : s.SameCopy s.close :=
  sameCopy_ite s _ _ _ ⟨rfl, rfl⟩ ⟨rfl, rfl⟩

variable {engine : Engine} {w w' : World}

theorem turn_settle (w : World) (amflow : AMFlow) (copy : w.amflow.SameCopy amflow)
    (preparing locking failed : Bool) :
    Turn w (settle { w with amflow := amflow } preparing locking failed).1 false none := by
  unfold settle
  split
  · exact .kept _ rfl copy (.inl rfl)
  · split
    · exact .kept _ rfl copy (.inl rfl)
    · exact .kept _ rfl copy (.inr rfl)

theorem turn_reject (preparing locking failed : Bool) :
    Turn w (settle (w.reject failed) preparing locking true).1 (!failed) none := by
  have first : (settle (w.reject failed) preparing locking true).1 = w.reject failed := by
    unfold settle
    split <;> rfl
  rw [first]
  cases failed with
  | true => exact .kept _ rfl (.refl _) (.inl rfl)
  | false => exact .failed _ rfl (.refl _) rfl

theorem turn_onValidated (ref : Ref) (valid : ref ∈ w.validator.validated) :
    Turn w (onValidated w ref).1 false (some ref) := by
  obtain ⟨permission, holder⟩ :=
    SessionPlay.copy_onValidated w.amflow ref (w.validator.holders ref)
  unfold onValidated
  by_cases connects : (w.validator.holders ref).playToken.permission.connects = true
  · refine .installed _ ref valid ?_ ?_ ?_ ?_ <;> simp [settle, connects, permission, holder]
  · have unlocked : (w.validator.holders ref).playToken.permission.writeTick = false := by
      simp only [Permission.connects, Bool.or_eq_true, not_or, Bool.not_eq_true] at connects
      exact connects.1.1.1
    refine .installed _ ref valid ?_ ?_ ?_ ?_ <;>
      simp [settle, connects, unlocked, permission, holder, World.callback]

theorem turn_of_next {task : Task} {reply : Reply} {r : World × Task}
    (moves : next engine w task reply = some r) :
    Turn w r.1 (fails task reply) (installs task reply) := by
  cases task with
  | authenticate =>
    cases moves
    obtain ⟨permission, holder⟩ := copy_authenticate w.amflow
    exact .cleared _ rfl rfl permission holder
  | close =>
    cases moves
    exact .kept _ rfl (sameCopy_close w.amflow) (.inl rfl)
  | operation op =>
    cases moves
    exact .kept _ rfl (sameCopy_perform engine _ w.amflow op) (.inl rfl)
  | binaryTick tick | binaryEvent event =>
    cases moves
    exact .kept _ rfl (sameCopy_ite w.amflow _ _ _ (.refl _) ⟨rfl, rfl⟩) (.inl rfl)
  | writeLockReleased =>
    cases moves
    exact .kept _ rfl ⟨rfl, rfl⟩ (.inl rfl)
  | validator action =>
    cases moves
    exact .validator action
  | releasing =>
    cases reply with
    | resolved =>
      cases moves
      exact .kept _ rfl ⟨rfl, rfl⟩ (.inl rfl)
    | rejected =>
      cases moves
      exact .failed _ rfl (.refl _) rfl
    | _ => cases moves
  | validating =>
    cases reply with
    | validated ref =>
      simp only [next] at moves
      split at moves
      · next valid =>
        cases moves
        exact turn_onValidated ref valid
      · cases moves
    | rejected =>
      cases moves
      exact .failed _ rfl (.refl _) rfl
    | _ => cases moves
  | granting preparing locking failed =>
    cases reply with
    | prepared succeeded =>
      cases preparing with
      | false => cases moves
      | true =>
        cases succeeded with
        | true =>
          cases moves
          exact turn_settle w { w.amflow with playlogHandlerPrepared := true } ⟨rfl, rfl⟩
            false locking failed
        | false =>
          cases moves
          exact turn_reject false locking failed
    | writeLocked succeeded =>
      cases locking with
      | false => cases moves
      | true =>
        cases succeeded with
        | true =>
          cases moves
          exact turn_settle w { w.amflow with writeLocked := true } ⟨rfl, rfl⟩ preparing
            false failed
        | false =>
          cases moves
          exact turn_reject preparing false failed
    | _ => cases moves
  | done => cases moves

theorem withheld_of_none {task : Task} {reply : Reply} (still : next engine w task reply = none) :
    Withheld w (fails task reply) (installs task reply) := by
  constructor
  · intro failing
    unfold fails at failing
    split at failing
    · cases still
    · cases still
    · next preparing locking failed succeeded =>
      cases preparing with
      | false => cases failing
      | true => cases succeeded <;> cases still
    · next preparing locking failed succeeded =>
      cases locking with
      | false => cases failing
      | true => cases succeeded <;> cases still
    · cases failing
  · intro ref installing valid
    unfold installs at installing
    split at installing
    · cases installing
      simp [next, valid] at still
    · cases installing

end Turns

structure Inv (w : World) : Prop where
  known : ∀ ref ∈ w.validator.validated, ref < w.validator.next
  held : ∀ ref, w.amflow.tokenHolder = some ref → ref < w.validator.next
  bare : w.amflow.tokenHolder = none → w.amflow.permission = .initial

theorem inv_new : Inv new := ⟨nofun, nofun, fun _ => rfl⟩

def Closed (w : World) : Prop := w.answered = some false → ¬ w.Permits

theorem failsClosed_iff {w : World} (inv : Inv w) : FailsClosed w ↔ Closed w := by
  constructor
  · intro closed failed
    exact AMFlow.closed_of_refused _ w.amflow inv.bare (closed failed)
  · intro closed failed op
    exact AMFlow.refused_of_closed (closed failed) op

section Turns

variable {w w' : World} {failed : Bool} {installed : Option Ref}

theorem Turn.inv (turn : Turn w w' failed installed) (inv : Inv w) : Inv w' := by
  cases turn with
  | cleared _ validator answered permission holder =>
    refine ⟨by rw [validator]; exact inv.known, fun ref there => ?_, fun _ => permission⟩
    cases holder.symm.trans there
  | kept _ validator copy _ | failed _ validator copy _ =>
    refine ⟨by rw [validator]; exact inv.known, fun ref there => ?_, fun none => ?_⟩
    · rw [validator]
      exact inv.held ref (copy.2 ▸ there)
    · rw [copy.1]
      exact inv.bare (copy.2 ▸ none)
  | installed _ ref valid validator permission holder _ =>
    refine ⟨by rw [validator]; exact inv.known, fun other there => ?_, fun none => ?_⟩
    · cases holder.symm.trans there
      rw [validator]
      exact inv.known ref valid
    · cases holder.symm.trans none
  | validator action =>
    have grown := Validator.grown_step w.validator action
    refine ⟨fun ref there => ?_, fun ref there => ?_, inv.bare⟩
    · rcases grown.validated ref there with before | now
      · exact Nat.lt_of_lt_of_le (inv.known ref before) grown.next
      · exact now
    · exact Nat.lt_of_lt_of_le (inv.held ref there) grown.next

theorem permits_copy (validator : w'.validator = w.validator)
    (copy : w.amflow.SameCopy w'.amflow) : w'.Permits ↔ w.Permits := by
  unfold World.Permits revoked
  rw [validator, copy.1, copy.2]

/-- The holder of the session does not come back from a revocation. -/
theorem permits_validator (action : Validator.Action) (inv : Inv w)
    (permits : ({ w with validator := w.validator.step action } : World).Permits) : w.Permits := by
  refine permits.of_revoked ?_
  cases holder : w.amflow.tokenHolder with
  | none => simp [AMFlow.revoked, holder]
  | some ref =>
    simp only [revoked, holder]
    exact Validator.revoked_step w.validator action ref (inv.held ref holder)

/-- A session that is closed stays closed exactly under the condition. -/
theorem Turn.closed_iff (turn : Turn w w' failed installed) (inv : Inv w) (closed : Closed w) :
    Closed w' ↔ Withheld w failed installed := by
  cases turn with
  | cleared _ validator answered permission holder =>
    refine ⟨fun _ => ⟨nofun, nofun⟩, fun _ _ => ?_⟩
    unfold World.Permits
    rw [permission]
    exact not_permits_initial _
  | kept _ validator copy answered =>
    refine ⟨fun _ => ⟨nofun, nofun⟩, fun _ error => ?_⟩
    rw [permits_copy validator copy]
    rcases answered with same | success
    · exact closed (same.symm.trans error)
    · cases success.symm.trans error
  | failed _ validator copy answered =>
    unfold Closed
    rw [permits_copy validator copy]
    exact ⟨fun closed' => ⟨fun _ => closed' answered, nofun⟩,
      fun withheld _ => withheld.1 rfl⟩
  | installed _ ref valid validator permission holder answered =>
    have permits : w'.Permits ↔ Permits
        (w.validator.holders ref).playToken.permission (w.validator.holders ref).revoked := by
      unfold World.Permits revoked
      rw [validator, permission, holder]
    unfold Closed
    rw [permits]
    constructor
    · intro closed'
      refine ⟨nofun, fun other same _ error connects => ?_⟩
      cases same
      rw [if_pos connects] at answered
      exact closed' (answered.trans error)
    · intro withheld error
      by_cases connects : (w.validator.holders ref).playToken.permission.connects = true
      · rw [if_pos connects] at answered
        exact withheld.2 ref rfl valid (answered.symm.trans error) connects
      · rw [if_neg connects] at answered
        cases answered.symm.trans error
  | validator action =>
    refine ⟨fun _ => ⟨nofun, nofun⟩, fun _ error permits => ?_⟩
    exact closed error (permits_validator action inv permits)

end Turns

variable (engine : Engine)

theorem step_cases (p : Run) (action : Pool.Action Task Reply) :
    ((step engine p action).state = p.state ∧ Condition p action) ∨
      ∃ failed installed, Turn p.state (step engine p action).state failed installed ∧
        (Condition p action ↔ Withheld p.state failed installed) := by
  cases action with
  | start task => exact .inl ⟨rfl, trivial⟩
  | step index reply =>
    cases here : p.threads[index]? with
    | none => exact .inl ⟨by simp [step, Pool.step, here], by simp [Condition, here]⟩
    | some task =>
      have condition : Condition p (.step index reply) ↔
          Withheld p.state (fails task reply) (installs task reply) := by
        simp [Condition, here]
      cases moves : next engine p.state task reply with
      | none =>
        refine .inl ⟨by simp [step, Pool.step, here, moves], condition.mpr ?_⟩
        exact withheld_of_none moves
      | some r =>
        refine .inr ⟨_, _, ?_, condition⟩
        have state : (step engine p (.step index reply)).state = r.1 := by
          simp [step, Pool.step, here, moves]
        rw [state]
        exact turn_of_next moves

/-- In a run, every operation is refused from each error to the next success if and only if
every error is called back by a session that permits nothing, and a token that is installed
between an error and the next success permits nothing as long as it waits. -/
theorem failsClosed_iff_condition (actions : List (Pool.Action Task Reply)) :
    (∀ front, front <+: actions → FailsClosed (Run.final (step engine) start front).state) ↔
      Run.Allowed (step engine) Condition start actions := by
  have preserved (p : Run) (action : Pool.Action Task Reply) (inv : Inv p.state) :
      Inv (step engine p action).state := by
    rcases step_cases engine p action with ⟨same, _⟩ | ⟨failed, installed, turn, _⟩
    · rw [same]
      exact inv
    · exact turn.inv inv
  have exactly (p : Run) (action : Pool.Action Task Reply) (inv : Inv p.state)
      (closed : FailsClosed p.state) :
      FailsClosed (step engine p action).state ↔ Condition p action := by
    rw [failsClosed_iff (preserved p action inv)]
    have closed' := (failsClosed_iff inv).mp closed
    rcases step_cases engine p action with ⟨same, condition⟩ | ⟨failed, installed, turn, condition⟩
    · rw [same]
      exact iff_of_true closed' condition
    · rw [condition]
      exact turn.closed_iff inv closed'
  exact (Run.allowed_iff_always preserved exactly start actions inv_new nofun).symm

def writer : PlayToken :=
  ⟨"7", "10", { Permission.initial with writeTick := true, readTick := true }, none⟩

def lockTaken : List (Pool.Action Task Reply) :=
  [.start (.validator (.validated "s" writer)), .step 0 .resolved, .start .authenticate,
    .step 1 .resolved, .step 1 (.validated 0), .step 1 (.prepared true),
    .step 1 (.writeLocked false)]

/-- The error is called back, and the list of ticks is read. -/
theorem open_after_lockTaken : ¬ ∀ actions : List (Pool.Action Task Reply),
      Run.Allowed (step unlimited) Called start actions →
        FailsClosed (Run.final (step unlimited) start actions).state := by
  intro claimed
  have closed := claimed lockTaken (by decide +kernel) (by decide +kernel)
  have alive : (Run.final (step unlimited) start lockTaken).state.amflow.revoked
      (Run.final (step unlimited) start lockTaken).state.validator.holders = false := by
    decide +kernel
  exact readsTicks _ _ alive (by decide +kernel) (closed _)

end SessionAuthentication
end AkashicSystem.PlaylogServer
