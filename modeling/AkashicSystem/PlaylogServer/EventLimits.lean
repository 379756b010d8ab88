import Mathlib.Data.Rat.Cast.Order
import Mathlib.Logic.Function.Basic
import AkashicSystem.PlaylogServer.FailedAuthentication

/-!
# The limit of the events of a second

A session publishes as many events in a second as its class may.  The count is
kept beside the flag of the class; the flag is set by a token of the main player
and never reset, and a priority that does not compare with 3 is not limited.
-/

set_option autoImplicit false

namespace AkashicSystem.Js.Number

/-- A limit that counts things: an integer, or no limit. -/
def Whole (limit : Number) : Prop := ∀ q, limit = .finite q → ∃ k : Int, q = k

theorem finite_le_of_le (k m : Nat) (limit : Number) (less : m ≤ k)
    (bounded : (Number.finite k).le limit = true) : (Number.finite m).le limit = true := by
  cases limit with
  | nan | negInfinity => cases bounded
  | infinity => rfl
  | finite q =>
    have above : ¬ q < (k : ℚ) := by simpa [le, lt] using bounded
    have cast : (m : ℚ) ≤ (k : ℚ) := by exact_mod_cast less
    have below : ¬ q < (m : ℚ) := fun small => above (lt_of_lt_of_le small cast)
    simpa [le, lt] using below

theorem finite_succ_le (k : Nat) (limit : Number) (whole : limit.Whole)
    (bounded : (Number.finite 0).le limit = true) (below : limit.le (.finite k) = false) :
    (Number.finite (k + 1 : Nat)).le limit = true := by
  cases limit with
  | nan | negInfinity => cases bounded
  | infinity => rfl
  | finite q =>
    obtain ⟨integer, rfl⟩ := whole q rfl
    have greater : (k : ℚ) < integer := by simpa [le, lt] using below
    have cast : (k : Int) < integer := by exact_mod_cast greater
    have above : ((k + 1 : Nat) : ℚ) ≤ integer := by exact_mod_cast cast
    simpa [le, lt] using above

end AkashicSystem.Js.Number

namespace AkashicSystem.PlaylogServer

open AkashicSystem.Js AMFlow

namespace AMFlow

variable (engine : Engine) (holders : Ref → PlayTokenHolder) (s : AMFlow)

/-- The call passes the event on: the filters let it pass as `published`. -/
def Sends (buf : List UInt8) (now : Int) (published : Event) : Prop :=
  s.permission.sendEvent = true ∧ s.revoked holders = false ∧ ∃ items ref identified,
    engine.decodeEvent buf = some (.array items) ∧ s.tokenHolder = some ref ∧
    Passes engine s (holders ref).playToken.userId (decoded items) now identified published

def counted (now : Int) (published : Event) : AMFlow :=
  { (s.beginSecond now).emit (.publishEvent published) with
    sendEventCount := (s.beginSecond now).sendEventCount + 1 }

theorem sendEvent_cases (userId : Option String) (event : Event) (now : Int) (after : AMFlow)
    (sent : sendEvent engine s userId event now = .ok after) :
    after = s ∨ after = s.beginSecond now ∨ ∃ identified published,
      Passes engine s userId event now identified published ∧ after = s.counted now published := by
  unfold sendEvent at sent
  cases identity : identify userId event with
  | none =>
    rw [identity] at sent
    cases sent
    exact .inl rfl
  | some identified =>
    simp only [identity] at sent
    obtain ⟨capped, caps, sent⟩ := bind_eq_ok.mp sent
    by_cases allowed : allowsCode engine (capped.get 0) = true
    · simp only [allowed, Bool.not_true, Bool.false_eq_true, if_false] at sent
      obtain ⟨atLimit, limit, sent⟩ := bind_eq_ok.mp sent
      cases atLimit with
      | true =>
        cases sent
        exact .inr (.inl rfl)
      | false =>
        cases sent
        exact .inr (.inr ⟨identified, capped, ⟨identity, caps, allowed, limit⟩, rfl⟩)
    · simp only [allowed, Bool.not_false, if_true] at sent
      cases sent
      exact .inl rfl

/-- A call drops the event, before or after the second begins, or it publishes it. -/
theorem sendRawEvent_outcome (buf : List UInt8) (now : Int) :
    (s.sendRawEvent engine holders buf now = s ∨
      s.sendRawEvent engine holders buf now = s.beginSecond now) ∧
        (∀ published, ¬ Sends engine holders s buf now published) ∨
    ∃ published, Sends engine holders s buf now published ∧
      s.sendRawEvent engine holders buf now = s.counted now published := by
  have length (published : Event) : (s.counted now published).effects =
      s.effects ++ [Effect.publishEvent published] := by
    show (s.beginSecond now).effects ++ [Effect.publishEvent published] = _
    rw [effects_beginSecond]
  have still (after : AMFlow) (effects : after.effects = s.effects)
      (eq : s.sendRawEvent engine holders buf now = after) (published : Event) :
      ¬ Sends engine holders s buf now published := by
    intro sends
    have publishes := (publishes_iff engine holders s buf now published).mpr sends
    rw [Publishes, eq, effects] at publishes
    exact append_ne_self _ _ publishes
  rcases sendRawEvent_cases engine holders s buf now with
    same | ⟨items, ref, after, may, alive, event, holder, sent, eq⟩
  · exact .inl ⟨.inl same, still s rfl same⟩
  · rcases sendEvent_cases engine s _ _ now after sent with
      rfl | rfl | ⟨identified, published, passes, rfl⟩
    · exact .inl ⟨.inl eq, still _ rfl eq⟩
    · exact .inl ⟨.inr eq, still _ (effects_beginSecond s now) eq⟩
    · exact .inr ⟨published, ⟨may, alive, items, ref, identified, event, holder, passes⟩, eq⟩

theorem sends_unique (buf : List UInt8) (now : Int) (published published' : Event)
    (first : Sends engine holders s buf now published)
    (second : Sends engine holders s buf now published') : published = published' := by
  have one := (publishes_iff engine holders s buf now published).mpr first
  have two := (publishes_iff engine holders s buf now published').mpr second
  rw [Publishes] at one two
  simpa using one.symm.trans two

def asPublished : Effect → Option Event
  | .publishEvent event => some event
  | _ => none

/-- Nothing is published and no second begins; the flag is not taken back. -/
structure Quiet (s s' : AMFlow) : Prop where
  count : s'.sendEventCount = s.sendEventCount
  time : s'.beforeTime = s.beforeTime
  main : s.isMainPlayer = true → s'.isMainPlayer = true
  effects : ∃ effects, s'.effects = s.effects ++ effects ∧ effects.filterMap asPublished = []

section Quiet

variable {s}

theorem Quiet.refl : s.Quiet s := ⟨rfl, rfl, id, [], by simp, rfl⟩

theorem Quiet.of_eq (s' : AMFlow) (count : s'.sendEventCount = s.sendEventCount)
    (time : s'.beforeTime = s.beforeTime) (main : s'.isMainPlayer = s.isMainPlayer)
    (effects : s'.effects = s.effects) : s.Quiet s' :=
  ⟨count, time, fun isMain => main.trans isMain, [], by simp [effects], rfl⟩

theorem Quiet.trans {s' s'' : AMFlow} (first : s.Quiet s') (second : s'.Quiet s'') :
    s.Quiet s'' := by
  obtain ⟨effects, eq, none⟩ := first.effects
  obtain ⟨effects', eq', none'⟩ := second.effects
  refine ⟨second.count.trans first.count, second.time.trans first.time,
    fun isMain => second.main (first.main isMain), effects ++ effects', ?_, ?_⟩
  · rw [eq', eq, List.append_assoc]
  · rw [List.filterMap_append, none, none']
    rfl

theorem Quiet.emit {s' : AMFlow} (quiet : s.Quiet s') (effect : Effect)
    (other : asPublished effect = none) : s.Quiet (s'.emit effect) := by
  refine quiet.trans ⟨rfl, rfl, id, [effect], rfl, ?_⟩
  simp [other]

theorem Quiet.await {s' : AMFlow} (quiet : s.Quiet s') (request : Request) :
    s.Quiet (s'.await request) := quiet.trans (.of_eq _ rfl rfl rfl rfl)

theorem Quiet.ite (condition : Prop) [Decidable condition] {yes no : AMFlow}
    (first : s.Quiet yes) (second : s.Quiet no) : s.Quiet (if condition then yes else no) := by
  split
  · exact first
  · exact second

theorem quiet_callbacks {Handler : Type} (handlers : List Handler) (callback : Handler → Effect)
    (other : ∀ handler, asPublished (callback handler) = none) :
    s.Quiet { s with effects := s.effects ++ handlers.map callback } := by
  refine ⟨rfl, rfl, id, _, rfl, ?_⟩
  rw [List.filterMap_map, List.filterMap_eq_nil_iff]
  intro handler _
  exact other handler

theorem quiet_authenticate : s.Quiet s.authenticate := by
  have cleared : s.Quiet { s with permission := .initial, tokenHolder := none } :=
    .of_eq _ rfl rfl rfl rfl
  exact .ite _ (cleared.emit _ rfl) cleared

theorem quiet_close : s.Quiet s.close := by
  have cleared : s.Quiet { s with eventHandlers := [], tickHandlers := [] } :=
    .of_eq _ rfl rfl rfl rfl
  exact .ite _ (cleared.emit _ rfl) cleared

variable (handler : Nat)

theorem quiet_onRawTick : s.Quiet (s.onRawTick handler) := by
  have consumed : s.Quiet (if s.tickHandlers.isEmpty then s.emit .consumeTick else s) :=
    .ite _ (.emit .refl _ rfl) .refl
  exact .ite _ .refl (consumed.trans (.of_eq _ rfl rfl rfl rfl))

theorem quiet_offRawTick : s.Quiet (s.offRawTick handler) := by
  have removed : s.Quiet { s with tickHandlers := s.tickHandlers.filter fun h => h ≠ handler } :=
    .of_eq _ rfl rfl rfl rfl
  exact .ite _ .refl (.ite _ (removed.emit _ rfl) removed)

theorem quiet_onRawEvent : s.Quiet (s.onRawEvent handler) := by
  have consumed : s.Quiet (if s.eventHandlers.isEmpty then s.emit .consumeEvent else s) :=
    .ite _ (.emit .refl _ rfl) .refl
  exact .ite _ .refl (consumed.trans (.of_eq _ rfl rfl rfl rfl))

theorem quiet_offRawEvent : s.Quiet (s.offRawEvent handler) := by
  have removed :
      s.Quiet { s with eventHandlers := s.eventHandlers.filter fun h => h ≠ handler } :=
    .of_eq _ rfl rfl rfl rfl
  exact .ite _ .refl (.ite _ (removed.emit _ rfl) removed)

theorem quiet_continue (request : Request) (answer : Answer) :
    s.Quiet (s.continue_ holders request answer) := by
  unfold continue_
  split
  · next «begin» «end» flags gameCode =>
    have named : s.Quiet { s with gameCode := some (s.getGameCode gameCode) } :=
      .of_eq _ rfl rfl rfl rfl
    exact .await (.ite _ (named.emit _ rfl) (named.emit _ rfl)) _
  · split <;> exact .emit .refl _ rfl
  · exact .emit .refl _ rfl
  · split <;> exact .emit .refl _ rfl
  · exact .emit .refl _ rfl
  · exact .emit .refl _ rfl
  · exact .emit .refl _ rfl
  · exact .emit .refl _ rfl

theorem quiet_answer (index : Nat) (answer : Answer) : s.Quiet (s.answer holders index answer) := by
  unfold AMFlow.answer
  split
  · exact .refl
  · next request _ =>
    have taken : s.Quiet { s with requests := s.requests.eraseIdx index } :=
      .of_eq _ rfl rfl rfl rfl
    exact taken.trans (quiet_continue holders request answer)

theorem quiet_perform (op : Operation) (other : ∀ buf now, op ≠ .sendRawEvent buf now) :
    s.Quiet (s.perform engine holders op) := by
  cases op with
  | sendRawTick tick =>
    exact .ite _ .refl (.ite _ .refl (.ite _ .refl (.emit .refl _ rfl)))
  | sendRawEvent buf now => exact absurd rfl (other buf now)
  | onRawTick handler => exact quiet_onRawTick handler
  | offRawTick handler => exact quiet_offRawTick handler
  | onRawEvent handler => exact quiet_onRawEvent handler
  | offRawEvent handler => exact quiet_offRawEvent handler
  | getRawTickList «begin» «end» flags =>
    show s.Quiet (s.getRawTickList holders «begin» «end» flags)
    unfold getRawTickList
    split
    · exact .emit .refl _ rfl
    · exact .await (.ite _ (.emit .refl _ rfl) .refl) _
  | putStartPoint startPoint =>
    show s.Quiet (s.putStartPoint holders startPoint)
    unfold putStartPoint
    split
    · exact .emit .refl _ rfl
    · exact .await (.emit .refl _ rfl) _
  | getStartPoint opts =>
    show s.Quiet (s.getStartPoint holders opts)
    unfold getStartPoint
    split
    · exact .emit .refl _ rfl
    · exact .await (.emit .refl _ rfl) _
  | answer index reply => exact quiet_answer holders index reply

end Quiet

def mainPlayer (permission : Permission) : Bool :=
  permission.sendEvent && permission.maxEventPriority = 2

theorem quiet_onValidated (ref : Ref) (holder : PlayTokenHolder) :
    s.Quiet (s.onValidated ref holder) ∧ (mainPlayer holder.playToken.permission = true →
        (s.onValidated ref holder).isMainPlayer = true) := by
  let installed : AMFlow := { s with
    tokenHolder := some ref
    isMainPlayer := s.isMainPlayer || mainPlayer holder.playToken.permission
    permission := holder.playToken.permission }
  have first : s.Quiet installed := by
    refine ⟨rfl, rfl, fun isMain => ?_, [], by simp [installed], rfl⟩
    simp [installed, isMain]
  have flag : mainPlayer holder.playToken.permission = true → installed.isMainPlayer = true := by
    intro main
    simp [installed, main]
  have second : installed.Quiet (s.onValidated ref holder) := by
    refine .trans (.ite _ (.emit .refl _ rfl) .refl) (.ite _ (.emit .refl _ rfl) .refl)
  exact ⟨first.trans second, fun main => second.main (flag main)⟩

end AMFlow

namespace SessionAuthentication

variable (engine : Engine)

theorem amflow_settle (w : World) (preparing locking failed : Bool) :
    (settle w preparing locking failed).1.amflow = w.amflow := by
  unfold settle
  split
  · rfl
  · split <;> rfl

theorem quiet_of_next {w : World} {task : Task} {reply : Reply} {r : World × Task}
    (moves : next engine w task reply = some r)
    (other : ∀ buf now, task ≠ .operation (.sendRawEvent buf now)) : w.amflow.Quiet r.1.amflow := by
  have rejected (failed : Bool) : (w.reject failed).amflow = w.amflow := by
    cases failed with
    | true | false => rfl
  cases task with
  | authenticate =>
    cases moves
    exact quiet_authenticate
  | close =>
    cases moves
    exact quiet_close
  | operation op =>
    cases moves
    apply quiet_perform
    rintro buf now rfl
    exact other buf now rfl
  | binaryTick tick | binaryEvent event =>
    cases moves
    exact .ite _ .refl (quiet_callbacks _ _ fun _ => rfl)
  | writeLockReleased =>
    cases moves
    exact .of_eq _ rfl rfl rfl rfl
  | validator action =>
    cases moves
    exact .refl
  | releasing =>
    cases reply with
    | resolved =>
      cases moves
      exact .of_eq _ rfl rfl rfl rfl
    | rejected =>
      cases moves
      exact .refl
    | _ => cases moves
  | validating =>
    cases reply with
    | validated ref =>
      simp only [next] at moves
      split at moves
      · cases moves
        unfold onValidated
        rw [amflow_settle]
        exact (quiet_onValidated w.amflow ref _).1
      · cases moves
    | rejected =>
      cases moves
      exact .refl
    | _ => cases moves
  | granting preparing locking failed =>
    cases reply with
    | prepared succeeded =>
      cases preparing with
      | false => cases moves
      | true =>
        cases succeeded with
        | true =>
          cases moves
          show w.amflow.Quiet (settle _ _ _ _).1.amflow
          rw [amflow_settle]
          exact .of_eq _ rfl rfl rfl rfl
        | false =>
          cases moves
          show w.amflow.Quiet (settle _ _ _ _).1.amflow
          rw [amflow_settle, rejected]
          exact .refl
    | writeLocked succeeded =>
      cases locking with
      | false => cases moves
      | true =>
        cases succeeded with
        | true =>
          cases moves
          show w.amflow.Quiet (settle _ _ _ _).1.amflow
          rw [amflow_settle]
          exact .of_eq _ rfl rfl rfl rfl
        | false =>
          cases moves
          show w.amflow.Quiet (settle _ _ _ _).1.amflow
          rw [amflow_settle, rejected]
          exact .refl
    | _ => cases moves
  | done => cases moves

def Grants (task : Task) (reply : Reply) : Prop :=
  (∃ ref, task = .validating ∧ reply = .validated ref) ∨
    ∃ preparing locking failed, task = .granting preparing locking failed

theorem validated_of_answered {w : World} {task : Task} {reply : Reply} {r : World × Task}
    (moves : next engine w task reply = some r) (unanswered : w.answered = none)
    (success : r.1.answered = some true) : Grants task reply := by
  have same (answered : r.1.answered = w.answered) : Grants task reply := by
    rw [answered, unanswered] at success
    cases success
  cases task with
  | authenticate | close | operation _ | binaryTick _ | binaryEvent _ | writeLockReleased
  | validator _ =>
    cases moves
    exact same rfl
  | releasing =>
    cases reply with
    | resolved =>
      cases moves
      exact same rfl
    | rejected =>
      cases moves
      cases success
    | _ => cases moves
  | validating =>
    cases reply with
    | validated ref => exact .inl ⟨ref, rfl, rfl⟩
    | rejected =>
      cases moves
      cases success
    | _ => cases moves
  | granting preparing locking failed => exact .inr ⟨preparing, locking, failed, rfl⟩
  | done => cases moves

theorem granting_of_next {w : World} {task : Task} {reply : Reply} {w' : World}
    {preparing locking failed : Bool}
    (moves : next engine w task reply = some (w', .granting preparing locking failed)) :
    Grants task reply := by
  cases task with
  | authenticate =>
    have task' := congrArg Prod.snd (Option.some.inj moves)
    dsimp only at task'
    split at task'
    · cases task'
    · cases task'
  | close | operation _ | binaryTick _ | binaryEvent _ | writeLockReleased | validator _ =>
    cases moves
  | releasing => cases reply <;> cases moves
  | validating =>
    cases reply with
    | validated ref => exact .inl ⟨ref, rfl, rfl⟩
    | _ => cases moves
  | granting preparing locking failed => exact .inr ⟨preparing, locking, failed, rfl⟩
  | done => cases moves

theorem main_of_validated {w : World} {ref : Ref} {r : World × Task}
    (moves : next engine w .validating (.validated ref) = some r)
    (main : mainPlayer (w.validator.holders ref).playToken.permission = true) :
    r.1.amflow.isMainPlayer = true := by
  have flag := (quiet_onValidated w.amflow ref (w.validator.holders ref)).2 main
  simp only [next] at moves
  split at moves
  · cases moves
    show (settle _ _ _ _).1.amflow.isMainPlayer = true
    rw [amflow_settle]
    exact flag
  · cases moves

/-- A session beside the class of each token that an `authenticate` of it has validated,
the class of the token of the last authentication that has succeeded, and what has been
published since the count last began. -/
structure Ledger where
  run : Run
  validated : Nat → Bool
  authenticated : Option Bool
  window : List Event

namespace Ledger

def new : Ledger := ⟨start, fun _ => false, none, []⟩

variable (l : Ledger)

def noted (index : Nat) (reply : Reply) : Nat → Bool :=
  match l.run.threads[index]?, reply with
  | some .validating, .validated ref =>
    Function.update l.validated index
      (mainPlayer (l.run.state.validator.holders ref).playToken.permission)
  | _, _ => l.validated

def succeeds (index : Nat) (reply : Reply) : Bool :=
  match l.run.threads[index]? with
  | none => false
  | some task =>
    match next engine { l.run.state with answered := none } task reply with
    | none => false
    | some (w, _) => w.answered = some true

variable (window : List Event)

/-- What is published from one state to the next, after what has been since the count
last began. -/
def published (before after : AMFlow) : List Event :=
  (if after.beforeTime = before.beforeTime then window else []) ++
    (after.effects.drop before.effects.length).filterMap asPublished

def step (l : Ledger) : Pool.Action Task Reply → Ledger
  | .start task => { l with run := SessionAuthentication.step engine l.run (.start task) }
  | .step index reply =>
    let run := SessionAuthentication.step engine l.run (.step index reply)
    let validated := l.noted index reply
    { run
      validated
      authenticated := if l.succeeds engine index reply then some (validated index)
        else l.authenticated
      window := published l.window l.run.state.amflow run.state.amflow }

def unlimited (event : Event) : Bool := (event.get 1).bind Item.asNumber = some 3

def limitedEvents : Nat := window.countP fun event => !unlimited event

def limitOf (main : Bool) : Number :=
  if main then engine.eventLimitCount.mainPlayer else engine.eventLimitCount.subPlayer

def Within (main : Bool) : Prop :=
  (Number.finite (limitedEvents window)).le (limitOf engine main) = true

/-- The events since the count last began are as many as a session may publish of the class
of the token that it was last authenticated with. -/
def Bounded : Prop := ∀ main ∈ l.authenticated, Within engine l.window main

/-- The priority compares with 3, the flag is the one of the class, and the limit is whole. -/
def Limits (s : AMFlow) (event : Event) (main : Bool) : Prop :=
  (∃ item n, event.get 1 = some item ∧ item.toNumber engine.toNumber = .ok n ∧ n.lt 3 = true) ∧
    (s.isMainPlayer = true → main = true) ∧ (limitOf engine main).Whole

def windowFrom (now : Int) : List Event :=
  if now - l.run.state.amflow.beforeTime > 1000 then [] else l.window

/-- An authentication that succeeds finds no more events than its class may publish; an event
that is published is limited, or the class may publish one more. -/
def Permitted : Pool.Action Task Reply → Prop
  | .start _ => True
  | .step index reply =>
    (l.succeeds engine index reply = true →
      Within engine l.window (l.noted index reply index)) ∧
    ∀ buf now, l.run.threads[index]? = some (.operation (.sendRawEvent buf now)) →
      ∀ event,
        Sends engine l.run.state.validator.holders l.run.state.amflow buf now event →
        unlimited event = false → ∀ main ∈ l.authenticated,
          Limits engine l.run.state.amflow event main ∨
            Within engine (l.windowFrom now ++ [event]) main

structure Inv (l : Ledger) : Prop where
  counted : l.window.length = l.run.state.amflow.sendEventCount
  classed : l.authenticated = some true → l.run.state.amflow.isMainPlayer = true
  granting : ∀ (index : Nat) (preparing locking failed : Bool),
    l.run.threads[index]? = some (.granting preparing locking failed) →
      l.validated index = true → l.run.state.amflow.isMainPlayer = true
  fresh : ∀ index, l.run.threads.length ≤ index → l.validated index = false

theorem inv_new : Inv new := ⟨rfl, nofun, nofun, fun _ _ => rfl⟩

section Published

variable (window : List Event) (before : AMFlow)

theorem published_quiet (after : AMFlow) (quiet : before.Quiet after) :
    published window before after = window := by
  obtain ⟨effects, eq, none⟩ := quiet.effects
  unfold published
  rw [if_pos quiet.time, eq, List.drop_left, none, List.append_nil]

theorem published_beginSecond (now : Int) : published window before (before.beginSecond now) =
      if now - before.beforeTime > 1000 then [] else window := by
  unfold published
  rw [effects_beginSecond, List.drop_length, List.filterMap_nil, List.append_nil]
  unfold beginSecond
  by_cases passed : now - before.beforeTime > 1000
  · have changed : now ≠ before.beforeTime := by omega
    rw [if_pos passed, if_pos passed, if_neg changed]
  · rw [if_neg passed, if_neg passed, if_pos rfl]

theorem published_counted (now : Int) (event : Event) :
    published window before (before.counted now event) =
      (if now - before.beforeTime > 1000 then [] else window) ++ [event] := by
  rw [← published_beginSecond]
  unfold published counted
  show (if (before.beginSecond now).beforeTime = _ then window else []) ++
      (((before.beginSecond now).effects ++ [Effect.publishEvent event]).drop _).filterMap _ = _
  rw [effects_beginSecond, List.drop_left, List.drop_length, List.filterMap_nil,
    List.append_nil]
  rfl

theorem length_windowFrom (l : Ledger) (now : Int)
    (counted : l.window.length = l.run.state.amflow.sendEventCount) :
    (l.windowFrom now).length = (l.run.state.amflow.beginSecond now).sendEventCount := by
  unfold windowFrom beginSecond
  split
  · rfl
  · exact counted

theorem main_beginSecond (now : Int) :
    (before.beginSecond now).isMainPlayer = before.isMainPlayer := by
  unfold beginSecond
  split <;> rfl

end Published

variable {engine}

variable {reply : Reply} {task : Task}

theorem next_unanswered {w : World} (still : next engine w task reply = none) :
    next engine { w with answered := none } task reply = none := by
  cases task with
  | authenticate | close | operation _ | binaryTick _ | binaryEvent _ | writeLockReleased
  | validator _ => cases still
  | releasing =>
    cases reply with
    | resolved | rejected => cases still
    | _ => rfl
  | validating =>
    cases reply with
    | validated ref =>
      simp only [next] at still ⊢
      split at still
      · cases still
      · next unknown => rw [if_neg unknown]
    | rejected => cases still
    | _ => rfl
  | granting preparing locking failed =>
    cases reply with
    | prepared succeeded =>
      cases preparing with
      | false => rfl
      | true => cases succeeded <;> cases still
    | writeLocked succeeded =>
      cases locking with
      | false => rfl
      | true => cases succeeded <;> cases still
    | _ => rfl
  | done => rfl

theorem succeeds_cases (l : Ledger) (index : Nat) (reply : Reply)
    (success : l.succeeds engine index reply = true) :
    ∃ task r, l.run.threads[index]? = some task ∧ next engine l.run.state task reply = some r ∧
      Grants task reply := by
  unfold succeeds at success
  cases here : l.run.threads[index]? with
  | none =>
    rw [here] at success
    cases success
  | some task =>
    simp only [here] at success
    cases moved : next engine { l.run.state with answered := none } task reply with
    | none =>
      rw [moved] at success
      cases success
    | some r =>
      simp only [moved, decide_eq_true_eq] at success
      cases moves : next engine l.run.state task reply with
      | none =>
        rw [next_unanswered moves] at moved
        cases moved
      | some r' =>
        exact ⟨task, r', rfl, moves, validated_of_answered engine moved rfl success⟩

variable (engine) in
theorem step_cases (l : Ledger) (index : Nat) (reply : Reply) :
    ((SessionAuthentication.step engine l.run (.step index reply) = l.run ∧
        l.succeeds engine index reply = false) ∧
      ∀ buf now, l.run.threads[index]? ≠ some (.operation (.sendRawEvent buf now))) ∨
    ∃ task w' task', l.run.threads[index]? = some task ∧
      next engine l.run.state task reply = some (w', task') ∧
      SessionAuthentication.step engine l.run (.step index reply) =
        ⟨w', l.run.threads.set index task'⟩ := by
  have fails (still : ∀ task, l.run.threads[index]? = some task →
      next engine l.run.state task reply = none) : l.succeeds engine index reply = false := by
    rw [Bool.eq_false_iff]
    intro success
    obtain ⟨task, r, here, moves, _⟩ := succeeds_cases l index reply success
    rw [still task here] at moves
    cases moves
  cases here : l.run.threads[index]? with
  | none =>
    refine .inl ⟨⟨by simp [SessionAuthentication.step, Pool.step, here], fails ?_⟩, nofun⟩
    intro task there
    rw [here] at there
    cases there
  | some task =>
    cases moves : next engine l.run.state task reply with
    | none =>
      refine .inl ⟨⟨by simp [SessionAuthentication.step, Pool.step, here, moves], fails ?_⟩, ?_⟩
      · intro task' there
        rw [here] at there
        cases there
        exact moves
      · rintro buf now eq
        cases eq
        cases moves
    | some r =>
      exact .inr ⟨task, r.1, r.2, rfl, moves,
        by simp [SessionAuthentication.step, Pool.step, here, moves]⟩

theorem next_cases {w w' : World} {task' : Task}
    (moves : next engine w task reply = some (w', task')) :
    ((∀ buf now, task ≠ .operation (.sendRawEvent buf now)) ∧ w.amflow.Quiet w'.amflow) ∨
      ∃ buf now, task = .operation (.sendRawEvent buf now) ∧ task' = .done ∧
        w'.amflow = w.amflow.sendRawEvent engine w.validator.holders buf now := by
  by_cases sends : ∃ buf now, task = .operation (.sendRawEvent buf now)
  · obtain ⟨buf, now, rfl⟩ := sends
    cases moves
    exact .inr ⟨buf, now, rfl, rfl, rfl⟩
  · have other : ∀ buf now, task ≠ .operation (.sendRawEvent buf now) :=
      fun buf now eq => sends ⟨buf, now, eq⟩
    exact .inl ⟨other, quiet_of_next engine moves other⟩

theorem main_of_next {w w' : World} {task' : Task}
    (moves : next engine w task reply = some (w', task')) (main : w.amflow.isMainPlayer = true) :
    w'.amflow.isMainPlayer = true := by
  rcases next_cases moves with ⟨_, quiet⟩ | ⟨buf, now, _, _, eq⟩
  · exact quiet.main main
  · rw [eq]
    rcases sendRawEvent_outcome engine w.validator.holders w.amflow buf now with
      ⟨same | begun, _⟩ | ⟨event, _, sent⟩
    · rw [same]
      exact main
    · rw [begun, main_beginSecond]
      exact main
    · rw [sent]
      show (w.amflow.beginSecond now).isMainPlayer = true
      rw [main_beginSecond]
      exact main

theorem noted_of_granting (l : Ledger) (index j : Nat) (reply : Reply)
    (preparing locking failed : Bool)
    (there : l.run.threads[j]? = some (.granting preparing locking failed)) :
    l.noted index reply j = l.validated j := by
  unfold noted
  cases here : l.run.threads[index]? with
  | none => rfl
  | some task =>
    cases task with
    | validating =>
      cases reply with
      | validated ref =>
        apply Function.update_of_ne
        rintro rfl
        rw [there] at here
        cases here
      | _ => rfl
    | _ => rfl

theorem noted_of_fresh (l : Ledger) (index j : Nat) (reply : Reply)
    (fresh : l.run.threads.length ≤ j) : l.noted index reply j = l.validated j := by
  unfold noted
  cases here : l.run.threads[index]? with
  | none => rfl
  | some task =>
    have inside : index < l.run.threads.length := (List.getElem?_eq_some_iff.mp here).1
    cases task with
    | validating =>
      cases reply with
      | validated ref => exact Function.update_of_ne (by omega) _ _
      | _ => rfl
    | _ => rfl

theorem Inv.main_of_noted {l : Ledger} (inv : l.Inv) {index : Nat} {w' : World} {task' : Task}
    (here : l.run.threads[index]? = some task)
    (moves : next engine l.run.state task reply = some (w', task'))
    (waits : Grants task reply)
    (main : l.noted index reply index = true) : w'.amflow.isMainPlayer = true := by
  rcases waits with ⟨ref, rfl, rfl⟩ | ⟨preparing, locking, failed, rfl⟩
  · apply main_of_validated engine moves
    simpa [noted, here] using main
  · rw [noted_of_granting l index index reply preparing locking failed here] at main
    exact main_of_next moves (inv.granting index preparing locking failed here main)

variable (engine)

theorem inv_step (l : Ledger) (action : Pool.Action Task Reply) (inv : l.Inv) :
    (l.step engine action).Inv := by
  cases action with
  | start task =>
    refine ⟨inv.counted, inv.classed, ?_, fun index outside => ?_⟩
    · intro index preparing locking failed there main
      rcases Pool.getElem?_append_cases l.run.threads index task _ there with old | ⟨rfl, _⟩
      · exact inv.granting index preparing locking failed old main
      · cases (inv.fresh _ (Nat.le_refl _)).symm.trans main
    · apply inv.fresh index
      have grown : (l.run.threads ++ [task]).length ≤ index := outside
      rw [List.length_append] at grown
      omega
  | step index reply =>
    rcases step_cases engine l index reply with
      ⟨⟨same, fails⟩, _⟩ | ⟨task, w', task', here, moves, eq⟩
    · unfold step
      dsimp only
      rw [same, fails, published_quiet _ _ _ .refl]
      refine ⟨inv.counted, inv.classed, ?_, fun j outside => ?_⟩
      · intro j preparing locking failed there main
        apply inv.granting j preparing locking failed there
        exact (noted_of_granting l index j reply preparing locking failed there).symm.trans main
      · exact (noted_of_fresh l index j reply outside).trans (inv.fresh j outside)
    · unfold step
      dsimp only
      rw [eq]
      refine ⟨?_, ?_, ?_, ?_⟩
      · show (published l.window l.run.state.amflow w'.amflow).length = w'.amflow.sendEventCount
        rcases next_cases moves with ⟨_, quiet⟩ | ⟨buf, now, _, _, sent⟩
        · rw [published_quiet _ _ _ quiet, quiet.count]
          exact inv.counted
        · rw [sent]
          rcases sendRawEvent_outcome engine l.run.state.validator.holders
              l.run.state.amflow buf now with ⟨unsent | begun, _⟩ | ⟨event, _, sent⟩
          · rw [unsent, published_quiet _ _ _ .refl]
            exact inv.counted
          · rw [begun, published_beginSecond]
            exact l.length_windowFrom now inv.counted
          · rw [sent, published_counted, List.length_append]
            show (l.windowFrom now).length + 1 = _ + 1
            rw [l.length_windowFrom now inv.counted]
      · show (if l.succeeds engine index reply = true then _ else _) = _ → _
        by_cases success : l.succeeds engine index reply = true
        · rw [if_pos success]
          intro main
          obtain ⟨task₁, r, here₁, moves₁, waits⟩ := l.succeeds_cases index reply success
          rw [here] at here₁
          cases here₁
          exact inv.main_of_noted here moves waits (Option.some.inj main)
        · rw [if_neg success]
          exact fun main => main_of_next moves (inv.classed main)
      · intro j preparing locking failed there main
        show w'.amflow.isMainPlayer = true
        rcases Pool.getElem?_set_cases l.run.threads index j task task' _ here there with
          ⟨rfl, rfl⟩ | ⟨_, old⟩
        · exact inv.main_of_noted here moves (granting_of_next engine moves) main
        · apply main_of_next moves
          apply inv.granting j preparing locking failed old
          exact (noted_of_granting l index j reply preparing locking failed old).symm.trans main
      · intro j outside
        have outside' : l.run.threads.length ≤ j := by
          rw [← List.length_set]
          exact outside
        exact (noted_of_fresh l index j reply outside').trans (inv.fresh j outside')

variable {engine}

theorem within_of_le {window window' : List Event} {main : Bool}
    (less : limitedEvents window' ≤ limitedEvents window) (within : Within engine window main) :
    Within engine window' main := Number.finite_le_of_le _ _ _ less within

theorem limitedEvents_windowFrom (l : Ledger) (now : Int) :
    limitedEvents (l.windowFrom now) ≤ limitedEvents l.window := by
  unfold windowFrom
  split
  · exact Nat.zero_le _
  · exact Nat.le_refl _

theorem limitedEvents_append (window : List Event) (event : Event) :
    limitedEvents (window ++ [event]) =
      limitedEvents window + if unlimited event then 0 else 1 := by
  unfold limitedEvents
  rw [List.countP_append, List.countP_singleton]
  cases unlimited event with
  | true | false => rfl

theorem within_unlimited {window : List Event} {event : Event} {main : Bool}
    (free : unlimited event = true) (within : Within engine window main) :
    Within engine (window ++ [event]) main := by
  apply within_of_le _ within
  rw [limitedEvents_append, if_pos free, Nat.add_zero]

theorem within_of_limits {l : Ledger} (inv : l.Inv) {buf : List UInt8} {now : Int} {event : Event}
    {main : Bool} (known : main ∈ l.authenticated) (within : Within engine l.window main)
    (sends : Sends engine l.run.state.validator.holders l.run.state.amflow buf now event)
    (limits : Limits engine l.run.state.amflow event main) :
    Within engine (l.windowFrom now ++ [event]) main := by
  obtain ⟨⟨item, n, priority, number, below⟩, flag, whole⟩ := limits
  obtain ⟨_, _, _, _, _, _, _, passes⟩ := sends
  have sameClass : l.run.state.amflow.isMainPlayer = main := by
    cases main with
    | true => exact inv.classed known
    | false =>
      rw [Bool.eq_false_iff]
      exact fun isMain => Bool.false_ne_true (flag isMain)
  have free : (limitOf engine main).le
      (.finite (l.run.state.amflow.beginSecond now).sendEventCount) = false := by
    have limited := passes.2.2.2
    rw [priority] at limited
    simpa [AMFlow.limited, number, below, main_beginSecond, sameClass, limitOf, bind, Except.bind,
      pure, Except.pure] using limited
  have count : limitedEvents (l.windowFrom now ++ [event]) ≤
      (l.run.state.amflow.beginSecond now).sendEventCount + 1 := by
    have length := l.length_windowFrom now inv.counted
    have some' : limitedEvents (l.windowFrom now) ≤ (l.windowFrom now).length :=
      List.countP_le_length
    rw [limitedEvents_append]
    split <;> omega
  have nonneg : (Number.finite (0 : Nat)).le (limitOf engine main) = true :=
    Number.finite_le_of_le _ 0 _ (Nat.zero_le _) within
  apply Number.finite_le_of_le _ _ _ count
  exact Number.finite_succ_le _ _ whole (by simpa using nonneg) free

/-- A turn that publishes keeps the bound exactly if the event is limited or may be one more. -/
theorem bounded_published {l : Ledger} (inv : l.Inv) (bounded : l.Bounded engine)
    {buf : List UInt8} {now : Int} {event : Event}
    (sends : Sends engine l.run.state.validator.holders l.run.state.amflow buf now event) :
    (∀ main ∈ l.authenticated, Within engine (l.windowFrom now ++ [event]) main) ↔
      (unlimited event = false → ∀ main ∈ l.authenticated,
        Limits engine l.run.state.amflow event main ∨
          Within engine (l.windowFrom now ++ [event]) main) := by
  constructor
  · exact fun within _ main known => .inr (within main known)
  · intro permitted main known
    by_cases free : unlimited event = true
    · apply within_unlimited free
      exact within_of_le (l.limitedEvents_windowFrom now) (bounded main known)
    · rcases permitted (Bool.eq_false_iff.mpr free) main known with limits | within
      · exact within_of_limits inv known (bounded main known) sends limits
      · exact within

variable (engine)

theorem bounded_step (l : Ledger) (action : Pool.Action Task Reply) (inv : l.Inv)
    (bounded : l.Bounded engine) :
    (l.step engine action).Bounded engine ↔ l.Permitted engine action := by
  cases action with
  | start task => exact iff_of_true bounded trivial
  | step index reply =>
    rcases step_cases engine l index reply with
      ⟨⟨same, fails⟩, still⟩ | ⟨task, w', task', here, moves, eq⟩
    · unfold step Bounded Permitted
      dsimp only
      rw [same, fails, published_quiet _ _ _ .refl]
      refine iff_of_true bounded ⟨nofun, fun buf now sends => ?_⟩
      exact absurd sends (still buf now)
    · unfold step Bounded Permitted
      dsimp only
      rw [eq]
      show (∀ main ∈ (if l.succeeds engine index reply = true then _ else _),
        Within engine (published l.window l.run.state.amflow w'.amflow) main) ↔ _
      rcases next_cases moves with ⟨other, quiet⟩ | ⟨buf, now, rfl, _, sent⟩
      · have silent : ∀ buf now,
            l.run.threads[index]? ≠ some (.operation (.sendRawEvent buf now)) := by
          intro buf now sends
          exact other buf now (Option.some.inj (here.symm.trans sends))
        rw [published_quiet _ _ _ quiet]
        by_cases success : l.succeeds engine index reply = true
        · rw [if_pos success]
          constructor
          · exact fun within =>
              ⟨fun _ => within _ rfl, fun buf now sends => absurd sends (silent buf now)⟩
          · rintro ⟨within, _⟩ main ⟨⟩
            exact within success
        · rw [if_neg success]
          refine iff_of_true bounded ⟨fun now => absurd now success, ?_⟩
          exact fun buf now sends => absurd sends (silent buf now)
      · have fails : ¬ l.succeeds engine index reply = true := by
          intro success
          obtain ⟨task, _, here', _, waits⟩ := l.succeeds_cases index reply success
          rw [here] at here'
          cases here'
          rcases waits with ⟨_, eq, _⟩ | ⟨_, _, _, eq⟩ <;> cases eq
        rw [if_neg fails, sent]
        have unsent (silent : ∀ event, ¬ Sends engine l.run.state.validator.holders
            l.run.state.amflow buf now event) : l.Permitted engine (.step index reply) := by
          refine ⟨fun now => absurd now fails, fun buf' now' there event sends => ?_⟩
          rw [here] at there
          cases there
          exact absurd sends (silent event)
        rcases sendRawEvent_outcome engine l.run.state.validator.holders
            l.run.state.amflow buf now with ⟨same | begun, silent⟩ | ⟨event, sends, sent⟩
        · rw [same, published_quiet _ _ _ .refl]
          exact iff_of_true bounded (unsent silent)
        · rw [begun, published_beginSecond]
          refine iff_of_true (fun main known => ?_) (unsent silent)
          exact within_of_le (l.limitedEvents_windowFrom now) (bounded main known)
        · rw [sent, published_counted]
          refine (bounded_published inv bounded sends).trans ⟨fun permitted => ?_, ?_⟩
          · refine ⟨fun now => absurd now fails, fun buf' now' there event' sends' => ?_⟩
            rw [here] at there
            cases there
            cases sends_unique engine _ _ buf now event event' sends sends'
            exact permitted
          · rintro ⟨_, permitted⟩
            exact permitted buf now here event sends

/-- In a run, no more events that are limited are published between two resets of the count
than the class of the last authenticated token may if and only if every event that is published
is limited by that class or finds room, and so does every authentication that succeeds. -/
theorem bounded_iff_permitted (actions : List (Pool.Action Task Reply)) :
    (∀ front, front <+: actions → (Run.final (step engine) new front).Bounded engine) ↔
      Run.Allowed (step engine) (Permitted engine) new actions :=
  (Run.allowed_iff_always (inv_step engine) (bounded_step engine) new actions inv_new nofun).symm

def twoAndOne : Engine where
  decodeEvent _ := some (.array [.number 32, .number 0, .null])
  toNumber _ := .ok 0
  eventCodeWhiteList := [32, 33, 34, 35, 64, 3]
  eventLimitCount := ⟨2, 1⟩

def mainToken : PlayToken :=
  ⟨"7", "10", { Permission.initial with sendEvent := true, maxEventPriority := 2 }, none⟩

def subToken : PlayToken := ⟨"8", "10", { Permission.initial with sendEvent := true }, none⟩

/-- The main player authenticates again, with a token of another class, and sends two events. -/
def demoted : List (Pool.Action Task Reply) :=
  [.start (.validator (.validated "s" mainToken)), .step 0 .resolved, .start .authenticate,
    .step 1 .resolved, .step 1 (.validated 0), .step 1 (.prepared true),
    .start (.validator (.validated "s" subToken)), .step 2 .resolved, .start .authenticate,
    .step 3 .resolved, .step 3 .resolved, .step 3 (.validated 1), .step 3 (.prepared true),
    .start (.operation (.sendRawEvent [] 2000)), .step 4 .resolved,
    .start (.operation (.sendRawEvent [] 2001)), .step 5 .resolved]

/-- Both are published. -/
theorem demoted_unbounded : ¬ ∀ actions : List (Pool.Action Task Reply),
      Run.Allowed (step twoAndOne) (fun l => Called l.run) new actions →
        (Run.final (step twoAndOne) new actions).Bounded twoAndOne := by
  intro claimed
  have bounded := claimed demoted (by decide +kernel)
  have known : (Run.final (step twoAndOne) new demoted).authenticated = some false := by
    decide +kernel
  have two : limitedEvents (Run.final (step twoAndOne) new demoted).window = 2 := by
    decide +kernel
  have within := bounded false known
  rw [Within, two] at within
  cases within

end Ledger
end SessionAuthentication
end AkashicSystem.PlaylogServer
