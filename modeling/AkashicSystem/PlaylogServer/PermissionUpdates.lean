import AkashicSystem.PlaylogServer.EventSanitation

/-!
# Updates of a permission

The copy of the permission beside the permission that the update events give the
token of the session.  An operation consults some fields; where the two agree on
these, it does what it would do by the updated permission.
-/

set_option autoImplicit false

namespace AkashicSystem.PlaylogServer

open AkashicSystem.Js Permission SessionPlay

namespace AMFlow

def consults (s : AMFlow) : Operation → Permission → Permission
  | .sendRawTick _, p => { initial with writeTick := p.writeTick }
  | .sendRawEvent .., p =>
    { initial with
      sendEvent := p.sendEvent
      maxEventPriority := if p.sendEvent then p.maxEventPriority else 0 }
  | .onRawTick _, p | .offRawTick _, p =>
    { initial with subscribeTick := p.subscribeTick }
  | .onRawEvent _, p | .offRawEvent _, p =>
    { initial with subscribeEvent := p.subscribeEvent }
  | .getRawTickList .., p => { initial with readTick := p.readTick }
  | .putStartPoint _, p => { initial with writeTick := p.writeTick }
  | .getStartPoint _, p => { initial with readTick := p.readTick || p.writeTick }
  | .answer index _, p =>
    match s.requests[index]? with
    | some .tickList => { initial with readTick := p.readTick }
    | some .putStartPoint => { initial with writeTick := p.writeTick }
    | some .getStartPoint => { initial with readTick := p.readTick || p.writeTick }
    | some (.gameCode ..) | none => .initial

section Congruence

variable (engine : Engine) (holders : Ref → PlayTokenHolder) (s : AMFlow) (p : Permission)

def permitted (s : AMFlow) (p : Permission) : AMFlow := { s with permission := p }

theorem sendEvent_permitted (userId : Option String) (event : Event) (now : Int)
    (same : s.permission.maxEventPriority = p.maxEventPriority) :
    sendEvent engine (s.permitted p) userId event now =
      (sendEvent engine s userId event now).map fun after => after.permitted p := by
  have second : (s.permitted p).beginSecond now = (s.beginSecond now).permitted p := by
    unfold beginSecond permitted
    split <;> rfl
  have limit : ∀ priority, ((s.beginSecond now).permitted p).limited engine priority =
      (s.beginSecond now).limited engine priority := fun _ => rfl
  unfold sendEvent
  cases identify userId event with
  | none => rfl
  | some identified =>
    have caps : (s.permitted p).permission.maxEventPriority = s.permission.maxEventPriority :=
      same.symm
    simp only [caps]
    cases cap engine s.permission.maxEventPriority identified with
    | error e => rfl
    | ok capped =>
      simp only [bind, Except.bind, second, limit]
      split
      · rfl
      · cases (s.beginSecond now).limited engine (capped.get 1) with
        | error e => rfl
        | ok atLimit =>
          cases atLimit with
          | true | false => rfl

theorem sendRawEvent_permitted (buf : List UInt8) (now : Int)
    (send : s.permission.sendEvent = p.sendEvent)
    (priority : p.sendEvent = true → s.permission.maxEventPriority = p.maxEventPriority) :
    (s.permitted p).sendRawEvent engine holders buf now =
      (s.sendRawEvent engine holders buf now).permitted p := by
  unfold sendRawEvent
  have may : (s.permitted p).permission.sendEvent = s.permission.sendEvent := send.symm
  have alive : (s.permitted p).revoked holders = s.revoked holders := rfl
  have holder : (s.permitted p).tokenHolder = s.tokenHolder := rfl
  rw [may, alive, holder]
  cases sends : s.permission.sendEvent with
  | false => rfl
  | true =>
    have same := priority (by rw [← send, sends])
    simp only [sendEvent_permitted engine s p _ _ _ same]
    cases s.revoked holders with
    | true => rfl
    | false =>
      rcases engine.decodeEvent buf with _ | value
      · rfl
      · cases value with
        | array items =>
          cases s.tokenHolder with
          | none => rfl
          | some ref =>
            dsimp only
            cases sendEvent engine s (holders ref).playToken.userId
              (items.map fun value => some (.decoded value)) now with
            | error e => rfl
            | ok after => rfl
        | _ => rfl

/-! What is asked of the permission before an answer. -/

theorem errGetTickList_permitted (same : s.permission.readTick = p.readTick) :
    (s.permitted p).errGetTickList holders = s.errGetTickList holders := by
  have read : (s.permitted p).permission.readTick = s.permission.readTick := same.symm
  have alive : (s.permitted p).revoked holders = s.revoked holders := rfl
  rw [errGetTickList, errGetTickList, read, alive]

theorem errPutStartPoint_permitted (same : s.permission.writeTick = p.writeTick) :
    (s.permitted p).errPutStartPoint holders = s.errPutStartPoint holders := by
  have write : (s.permitted p).permission.writeTick = s.permission.writeTick := same.symm
  have alive : (s.permitted p).revoked holders = s.revoked holders := rfl
  rw [errPutStartPoint, errPutStartPoint, write, alive]

theorem errGetStartPoint_permitted
    (same : (s.permission.readTick || s.permission.writeTick) = (p.readTick || p.writeTick)) :
    (s.permitted p).errGetStartPoint holders = s.errGetStartPoint holders := by
  have either : (!(s.permitted p).permission.readTick && !(s.permitted p).permission.writeTick) =
      (!s.permission.readTick && !s.permission.writeTick) := by
    rw [← Bool.not_or, ← Bool.not_or, same]
    rfl
  have alive : (s.permitted p).revoked holders = s.revoked holders := rfl
  rw [errGetStartPoint, errGetStartPoint, either, alive]

theorem continue_permitted (request : Request) (reply : Answer)
    (read : request = .tickList → s.permission.readTick = p.readTick)
    (write : request = .putStartPoint → s.permission.writeTick = p.writeTick)
    (either : request = .getStartPoint →
      (s.permission.readTick || s.permission.writeTick) = (p.readTick || p.writeTick)) :
    (s.permitted p).continue_ holders request reply =
      (s.continue_ holders request reply).permitted p := by
  cases request with
  | gameCode «begin» «end» flags =>
    cases reply with
    | gameCode gameCode =>
      have code : (s.permitted p).getGameCode gameCode = s.getGameCode gameCode := rfl
      simp only [continue_, code]
      by_cases excludes : s.getGameCode gameCode = "nicocas"
      · simp only [excludes, if_true]
        rfl
      · simp only [excludes, if_false]
        rfl
    | _ => rfl
  | tickList =>
    cases reply with
    | tickList tickList =>
      simp only [continue_, errGetTickList_permitted holders s p (read rfl)]
      cases s.errGetTickList holders with
      | none | some error => rfl
    | _ => rfl
  | putStartPoint =>
    cases reply with
    | put =>
      simp only [continue_, errPutStartPoint_permitted holders s p (write rfl)]
      rfl
    | _ => rfl
  | getStartPoint =>
    cases reply with
    | startPoint startPoint =>
      simp only [continue_, errGetStartPoint_permitted holders s p (either rfl)]
      cases s.errGetStartPoint holders with
      | none | some error => rfl
    | _ => rfl

/-- An operation does the same by a permission that agrees on what it consults. -/
theorem perform_permitted (op : Operation) (same : s.consults op s.permission = s.consults op p) :
    (s.permitted p).perform engine holders op = (s.perform engine holders op).permitted p := by
  cases op with
  | sendRawTick tick =>
    have write : (s.permitted p).permission.writeTick = s.permission.writeTick :=
      (congrArg writeTick same).symm
    have alive : (s.permitted p).revoked holders = s.revoked holders := rfl
    have locked : (s.permitted p).writeLocked = s.writeLocked := rfl
    simp only [perform, sendRawTick, write, alive, locked]
    cases s.permission.writeTick <;> cases s.revoked holders <;> cases s.writeLocked <;> rfl
  | sendRawEvent buf now =>
    have send : s.permission.sendEvent = p.sendEvent := (congrArg Permission.sendEvent same :)
    refine sendRawEvent_permitted engine holders s p buf now send fun may => ?_
    have priority := congrArg Permission.maxEventPriority same
    simpa only [consults, send, may, if_true] using priority
  | onRawTick handler =>
    have subscribe : (s.permitted p).permission.subscribeTick = s.permission.subscribeTick :=
      (congrArg subscribeTick same).symm
    have handlers : (s.permitted p).tickHandlers = s.tickHandlers := rfl
    simp only [perform, onRawTick, subscribe, handlers]
    cases s.permission.subscribeTick <;> cases s.tickHandlers.isEmpty <;> rfl
  | offRawTick handler =>
    have subscribe : (s.permitted p).permission.subscribeTick = s.permission.subscribeTick :=
      (congrArg subscribeTick same).symm
    have handlers : (s.permitted p).tickHandlers = s.tickHandlers := rfl
    simp only [perform, offRawTick, subscribe, handlers]
    cases s.permission.subscribeTick <;>
      cases (s.tickHandlers.filter fun h => h ≠ handler).isEmpty <;> rfl
  | onRawEvent handler =>
    have subscribe : (s.permitted p).permission.subscribeEvent = s.permission.subscribeEvent :=
      (congrArg subscribeEvent same).symm
    have handlers : (s.permitted p).eventHandlers = s.eventHandlers := rfl
    simp only [perform, onRawEvent, subscribe, handlers]
    cases s.permission.subscribeEvent <;> cases s.eventHandlers.isEmpty <;> rfl
  | offRawEvent handler =>
    have subscribe : (s.permitted p).permission.subscribeEvent = s.permission.subscribeEvent :=
      (congrArg subscribeEvent same).symm
    have handlers : (s.permitted p).eventHandlers = s.eventHandlers := rfl
    simp only [perform, offRawEvent, subscribe, handlers]
    cases s.permission.subscribeEvent <;>
      cases (s.eventHandlers.filter fun h => h ≠ handler).isEmpty <;> rfl
  | getRawTickList «begin» «end» flags =>
    have read : s.permission.readTick = p.readTick := (congrArg readTick same :)
    simp only [perform, getRawTickList, errGetTickList_permitted holders s p read]
    cases s.errGetTickList holders with
    | some error => rfl
    | none =>
      have code : (s.permitted p).gameCode = s.gameCode := rfl
      simp only [code]
      by_cases unknown : s.gameCode.getD "" = ""
      · simp only [unknown, if_true]
        rfl
      · simp only [unknown, if_false]
        rfl
  | putStartPoint startPoint =>
    have write : s.permission.writeTick = p.writeTick := (congrArg writeTick same :)
    simp only [perform, putStartPoint, errPutStartPoint_permitted holders s p write]
    cases s.errPutStartPoint holders with
    | some error | none => rfl
  | getStartPoint opts =>
    have either := congrArg readTick same
    simp only [perform, getStartPoint, errGetStartPoint_permitted holders s p either]
    cases s.errGetStartPoint holders with
    | some error | none => rfl
  | answer index reply =>
    have waiting : (s.permitted p).requests[index]? = s.requests[index]? := rfl
    simp only [perform, answer, waiting]
    simp only [consults] at same
    cases found : s.requests[index]? with
    | none => rfl
    | some request =>
      rw [found] at same
      refine continue_permitted holders { s with requests := s.requests.eraseIdx index } p
        request reply ?_ ?_ ?_
      · rintro rfl
        exact (congrArg readTick same :)
      · rintro rfl
        exact (congrArg writeTick same :)
      · rintro rfl
        exact (congrArg readTick same :)

end Congruence

end AMFlow

namespace Validator

/-- The permission that the event gives the holder's token, where it names it. -/
def namedPermission (v : Validator) (action : Action) (ref : Ref) : Option Permission :=
  match action with
  | .updatePermission req (some permission) =>
    if ref ∈ v.validated ∧ req.Matches (v.holders ref).playToken then permission.generate
    else none
  | _ => none

/-- The permissions as the events leave them: an event gives its permission to every
token that it names, and a walk to the tokens it goes down to. -/
def updated (v : Validator) (permissions : Ref → Permission) (action : Action) :
    Ref → Permission := fun ref =>
  let after := ((v.step action).holders ref).playToken.permission
  match v.namedPermission action ref with
  | some permission => permission
  | none =>
    if ref < v.next ∧ after = (v.holders ref).playToken.permission then permissions ref
    else after

end Validator

/-- A session beside the permissions as the events leave them. -/
structure FollowedPlay where
  play : SessionPlay
  permissions : Ref → Permission

namespace FollowedPlay

variable (engine : Engine)

def new : FollowedPlay := ⟨.new, fun _ => .initial⟩

variable (w : FollowedPlay)

def current : Permission :=
  match w.play.amflow.tokenHolder with
  | none => .initial
  | some ref => w.permissions ref

def follow : Action → Ref → Permission
  | .validator action => w.play.validator.updated w.permissions action
  | _ => w.permissions

def step (w : FollowedPlay) (action : Action) : FollowedPlay :=
  ⟨w.play.step engine action, w.follow action⟩

/-- What the updates are for: an operation goes by the updated permission. -/
def stepUpdated (action : Action) : FollowedPlay :=
  match action with
  | .operation op =>
    let s := w.play.amflow
    let after := (s.permitted w.current).perform engine w.play.validator.holders op
    ⟨{ w.play with amflow := after.permitted s.permission }, w.permissions⟩
  | action => w.step engine action

/-- The copy agrees with the updated permission on what the operation consults. -/
def Agrees : Action → Prop
  | .operation op =>
    w.play.amflow.consults op w.play.amflow.permission = w.play.amflow.consults op w.current
  | _ => True

theorem step_eq_stepUpdated (action : SessionPlay.Action)
    (agrees : w.Agrees action) : w.step engine action = w.stepUpdated engine action := by
  cases action with
  | operation op =>
    have performed := AMFlow.perform_permitted engine w.play.validator.holders w.play.amflow
      w.current op agrees
    have copy := (AMFlow.sameCopy_perform engine w.play.validator.holders w.play.amflow op).1
    have back : ∀ (s : AMFlow) (p : Permission),
        (s.permitted p).permitted s.permission = s := fun _ _ => rfl
    simp only [step, stepUpdated, SessionPlay.step, follow, performed]
    rw [← copy, back]
  | _ => rfl

/-- In every run whose operations consult nothing on which the copy and the updated
permission differ, each operation is decided by the updated permission. -/
theorem decided_by_updated (actions : List Action)
    (run : Run.Allowed (step engine) Agrees new actions) :
    Run.final (step engine) new actions = Run.final (stepUpdated engine) new actions := by
  generalize new = w at run ⊢
  induction actions generalizing w with
  | nil => rfl
  | cons action rest ih =>
    obtain ⟨agrees, later⟩ := run
    rw [Run.final_cons, Run.final_cons, ← step_eq_stepUpdated engine w action agrees]
    exact ih _ later

instance (w : FollowedPlay) : ∀ action, Decidable (w.Agrees action)
  | .operation op =>
    inferInstanceAs (Decidable
      (w.play.amflow.consults op w.play.amflow.permission = w.play.amflow.consults op w.current))
  | .validator _ | .authenticate | .validated _ | .playlogClosed | .prepared | .writeLocked _
  | .binaryTick _ | .binaryEvent _ => inferInstanceAs (Decidable True)

/-- A session that may write ticks and read them is denied reading; it sends a tick. -/
theorem decided_by_updated_write :
    let token : PlayToken :=
      ⟨"7", "10", { initial with writeTick := true, readTick := true }, none⟩
    let update : Validator.Action :=
      .updatePermission ⟨some "7", none, none⟩
        (some { initial with writeTick := true })
    let actions : List Action :=
      [.authenticate, .validator (.validated "s" token), .validated 0, .writeLocked true,
        .validator update, .operation (.sendRawTick [1])]
    (Run.final (step nanEngine) new actions).play.amflow.effects.length = 3 ∧
      Run.final (step nanEngine) new actions =
        Run.final (stepUpdated nanEngine) new actions := by
  intro token update actions
  refine ⟨by decide +kernel, decided_by_updated nanEngine actions ?_⟩
  decide +kernel

/-- The same session reads ticks: by the copy it is answered, by the updated
permission it would not be. -/
theorem read_by_copy :
    let token : PlayToken :=
      ⟨"7", "10", { initial with writeTick := true, readTick := true }, none⟩
    let update : Validator.Action :=
      .updatePermission ⟨some "7", none, none⟩
        (some { initial with writeTick := true })
    let actions : List Action :=
      [.authenticate, .validator (.validated "s" token), .validated 0, .validator update,
        .operation (.getRawTickList 0 10 .null)]
    Run.final (step nanEngine) new actions ≠
      Run.final (stepUpdated nanEngine) new actions := by
  intro token update actions same
  have requests := congrArg (fun w => w.play.amflow.requests.length) same
  revert requests
  decide +kernel

end FollowedPlay
end AkashicSystem.PlaylogServer
