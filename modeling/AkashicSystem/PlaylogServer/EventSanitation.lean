import AkashicSystem.Js.Computation
import AkashicSystem.PlaylogServer.ServerEngineAMFlow
import AkashicSystem.PlaylogServer.TokenRevocation

/-!
# What a session publishes

An event goes through four filters, in order: the player id, the priority, the
code, the limit of the second.  The priority filter overwrites what compares
greater than the permission's; what does not compare at all goes through.
-/

set_option autoImplicit false

namespace AkashicSystem.Js.Number

theorem lt_self (n : Number) : n.lt n = false := by
  cases n <;> simp [lt]

theorem le_of_not_lt (a b : Number) (number : a ≠ nan) (number' : b ≠ nan)
    (notLess : b.lt a = false) : a.le b = true :=
  (le_iff a b).mpr ⟨number, number', notLess⟩

end AkashicSystem.Js.Number

namespace AkashicSystem.PlaylogServer

open AkashicSystem.Js AMFlow

namespace Event

theorem get_set_self (event : Event) (i : Nat) (item : Item) :
    (event.set i item).get i = some item := by
  unfold get Event.set
  by_cases inside : i < event.length
  · rw [if_pos inside, List.getElem?_set_self inside]
    rfl
  · have length : (event ++ List.replicate (i - event.length) none).length = i := by
      simp
      omega
    rw [if_neg inside, List.getElem?_append_right (by omega), length]
    simp

theorem get_set_of_ne (event : Event) (i j : Nat) (item : Item) (other : i ≠ j) :
    (event.set i item).get j = event.get j := by
  unfold get Event.set
  by_cases inside : i < event.length
  · rw [if_pos inside, List.getElem?_set_ne other]
  · rw [if_neg inside, List.append_assoc]
    by_cases there : j < event.length
    · rw [List.getElem?_append_left there]
    · rw [List.getElem?_append_right (by omega), List.getElem?_eq_none (by omega : _ ≤ j)]
      by_cases hole : j - event.length < i - event.length
      · rw [List.getElem?_append_left (by simpa using hole)]
        simp [hole]
      · rw [List.getElem?_eq_none (by simp; omega)]

end Event

namespace AMFlow

variable (engine : Engine)

theorem identify_some (userId : String) (event identified : Event) (named : userId ≠ "")
    (passes : identify (some userId) event = some identified) :
    ∃ item, identified.get 2 = some item ∧ item.isText userId = true := by
  have written : ∃ item, (event.set 2 (.decoded (.text userId))).get 2 = some item ∧
      item.isText userId = true := ⟨_, event.get_set_self 2 _, by simp [Item.isText]⟩
  unfold identify at passes
  split at passes
  · next eq => cases eq
  · next eq => exact absurd (Option.some.inj eq) named
  · next eq =>
    cases eq
    cases playerId : event.get 2 with
    | none =>
      simp only [playerId, Option.some.injEq] at passes
      rw [← passes]
      exact written
    | some item =>
      simp only [playerId] at passes
      split_ifs at passes with falsy same
      · cases passes
        exact written
      · cases passes
        exact ⟨item, playerId, same⟩

theorem get_one_of_identify (userId : Option String) (event identified : Event)
    (passes : identify userId event = some identified) : identified.get 1 = event.get 1 := by
  unfold identify at passes
  split at passes
  · cases passes
    rfl
  · cases passes
    rfl
  · cases playerId : event.get 2 with
    | none =>
      simp only [playerId, Option.some.injEq] at passes
      rw [← passes]
      exact event.get_set_of_ne 2 1 _ (by decide)
    | some item =>
      simp only [playerId] at passes
      split_ifs at passes
      · cases passes
        exact event.get_set_of_ne 2 1 _ (by decide)
      · cases passes
        rfl

/-- The priority compares: it is not given, it is a number, or it converts to one that
the permission's is less than. -/
def Compares (maxEventPriority : Number) : Option Item → Prop
  | none => maxEventPriority ≠ .nan
  | some item =>
    maxEventPriority ≠ .nan ∧
      (item.isNull = true ∨ (∃ n, item.asNumber = some n ∧ n ≠ .nan) ∨
        ∃ n, item.toNumber engine.toNumber = .ok n ∧ maxEventPriority.lt n = true)

def Capped (maxEventPriority : Number) (priority : Option Item) : Prop :=
  ∃ n, priority.bind Item.asNumber = some n ∧ n.le maxEventPriority = true

theorem toNumber_of_asNumber (item : Item) (n : Number) (number : item.asNumber = some n) :
    item.toNumber engine.toNumber = .ok n := by
  cases item with
  | decoded value =>
    have isNumber : value.asNumber = some n := number
    simp [Item.toNumber, isNumber]
  | number m =>
    cases number
    rfl

section

variable (maxEventPriority : Number)
include maxEventPriority

variable (event capped : Event)

theorem cap_eq_ok (passes : cap engine maxEventPriority event = .ok capped) :
    (exceeds engine maxEventPriority (event.get 1) = .ok true ∧
      capped = event.set 1 (.number maxEventPriority)) ∨
    (exceeds engine maxEventPriority (event.get 1) = .ok false ∧ capped = event) := by
  unfold cap at passes
  cases compared : exceeds engine maxEventPriority (event.get 1) with
  | error e =>
    rw [compared] at passes
    cases passes
  | ok greater =>
    rw [compared] at passes
    cases greater with
    | true =>
      cases passes
      exact .inl ⟨rfl, rfl⟩
    | false =>
      cases passes
      exact .inr ⟨rfl, rfl⟩

theorem capped_set_iff (event : Event) :
    Capped maxEventPriority ((event.set 1 (.number maxEventPriority)).get 1) ↔
      maxEventPriority ≠ .nan := by
  rw [event.get_set_self]
  constructor
  · rintro ⟨n, eq, less⟩ rfl
    exact ((Number.le_iff n .nan).mp less).2.1 rfl
  · intro number
    exact ⟨_, rfl, Number.le_of_not_lt _ _ number number (Number.lt_self _)⟩

theorem compares_of_exceeds (priority : Option Item)
    (greater : exceeds engine maxEventPriority priority = .ok true) :
    Compares engine maxEventPriority priority ↔ maxEventPriority ≠ .nan := by
  cases priority with
  | none => rfl
  | some item =>
    refine ⟨And.left, fun number => ⟨number, ?_⟩⟩
    by_cases null : item.isNull = true
    · exact .inl null
    · cases converted : item.toNumber engine.toNumber with
      | error e => simp [exceeds, null, converted, bind, Except.bind] at greater
      | ok n =>
        have less : maxEventPriority.lt n = true := by
          simpa [exceeds, null, converted, bind, Except.bind, pure, Except.pure] using greater
        exact .inr (.inr ⟨n, rfl, less⟩)

theorem compares_of_not_exceeds (priority : Option Item)
    (notGreater : exceeds engine maxEventPriority priority = .ok false) :
    Compares engine maxEventPriority priority ↔ Capped maxEventPriority priority := by
  cases priority with
  | none => cases notGreater
  | some item =>
    by_cases null : item.isNull = true
    · simp [exceeds, null] at notGreater
    · cases converted : item.toNumber engine.toNumber with
      | error e => simp [exceeds, null, converted, bind, Except.bind] at notGreater
      | ok m =>
        have notLess : maxEventPriority.lt m = false := by
          simpa [exceeds, null, converted, bind, Except.bind, pure, Except.pure]
            using notGreater
        constructor
        · rintro ⟨number, isNull | ⟨n, isNumber, notNan⟩ | ⟨n, eq, less⟩⟩
          · exact absurd isNull null
          · have same := toNumber_of_asNumber engine item n isNumber
            rw [converted] at same
            cases same
            exact ⟨m, isNumber, Number.le_of_not_lt _ _ notNan number notLess⟩
          · rw [converted] at eq
            cases eq
            rw [notLess] at less
            cases less
        · rintro ⟨n, isNumber, le⟩
          obtain ⟨notNan, number, _⟩ := (Number.le_iff _ _).mp le
          exact ⟨number, .inr (.inl ⟨n, isNumber, notNan⟩)⟩

theorem capped_iff
    (passes : cap engine maxEventPriority event = .ok capped) :
    Capped maxEventPriority (capped.get 1) ↔ Compares engine maxEventPriority (event.get 1) := by
  rcases cap_eq_ok engine maxEventPriority event capped passes with
    ⟨greater, rfl⟩ | ⟨notGreater, rfl⟩
  · rw [capped_set_iff, compares_of_exceeds engine _ _ greater]
  · rw [compares_of_not_exceeds engine _ _ notGreater]

theorem get_two_of_cap
    (passes : cap engine maxEventPriority event = .ok capped) : capped.get 2 = event.get 2 := by
  rcases cap_eq_ok engine maxEventPriority event capped passes with ⟨_, rfl⟩ | ⟨_, rfl⟩
  · exact event.get_set_of_ne 1 2 _ (by decide)
  · rfl

end

theorem allowsCode_iff (code : Option Item) : allowsCode engine code = true ↔
      ∃ allowed ∈ engine.eventCodeWhiteList, code.bind Item.asNumber = some (.finite allowed) := by
  unfold allowsCode
  cases code.bind Item.asNumber with
  | none | some n => simp

variable (holders : Ref → PlayTokenHolder)

variable (s : AMFlow)

variable (buf : List UInt8)

variable (now : Int)

def Publishes (event : Event) : Prop :=
  (s.sendRawEvent engine holders buf now).effects = s.effects ++ [Effect.publishEvent event]

/-- What the filters make of a decoded event, where none drops it. -/
def Passes (userId : Option String) (event : Event) (now : Int)
    (identified capped : Event) : Prop :=
  identify userId event = some identified ∧
    cap engine s.permission.maxEventPriority identified = .ok capped ∧
    allowsCode engine (capped.get 0) = true ∧
    (s.beginSecond now).limited engine (capped.get 1) = .ok false

theorem effects_beginSecond : (s.beginSecond now).effects = s.effects := by
  unfold beginSecond
  split <;> rfl

theorem append_ne_self (effects : List Effect) (effect : Effect) :
    effects ≠ effects ++ [effect] := by
  intro eq
  have length := congrArg List.length eq
  simp at length

/-- An event is published where the filters let one pass, and as they have made it. -/
theorem sendEvent_publishes (s after : AMFlow) (userId : Option String) (event : Event) (now : Int)
    (published : Event) (sent : sendEvent engine s userId event now = .ok after) :
    after.effects = s.effects ++ [Effect.publishEvent published] ↔
      ∃ identified, Passes engine s userId event now identified published := by
  unfold sendEvent at sent
  cases identity : identify userId event with
  | none =>
    rw [identity] at sent
    cases sent
    refine ⟨fun eq => absurd eq (append_ne_self _ _), ?_⟩
    rintro ⟨identified, passes, _⟩
    rw [identity] at passes
    cases passes
  | some identified =>
    simp only [identity] at sent
    obtain ⟨capped, caps, sent⟩ := bind_eq_ok.mp sent
    have only : ∀ identified', Passes engine s userId event now identified' published →
        published = capped := by
      rintro identified' ⟨passes, caps', _⟩
      rw [identity] at passes
      cases passes
      rw [caps] at caps'
      exact (Except.ok.inj caps').symm
    by_cases allowed : allowsCode engine (capped.get 0) = true
    · simp only [allowed, Bool.not_true, Bool.false_eq_true, if_false] at sent
      obtain ⟨atLimit, limit, sent⟩ := bind_eq_ok.mp sent
      cases atLimit with
      | true =>
        cases sent
        rw [effects_beginSecond]
        refine ⟨fun eq => absurd eq (append_ne_self _ _), ?_⟩
        rintro ⟨identified', passes⟩
        have free := passes.2.2.2
        rw [only identified' passes, limit] at free
        cases free
      | false =>
        cases sent
        show (s.beginSecond now).effects ++ [Effect.publishEvent capped] = _ ↔ _
        rw [effects_beginSecond]
        constructor
        · intro eq
          have same : capped = published := by simpa using eq
          subst same
          exact ⟨identified, identity, caps, allowed, limit⟩
        · rintro ⟨identified', passes⟩
          rw [only identified' passes]
    · simp only [allowed, Bool.not_false, if_true] at sent
      cases sent
      refine ⟨fun eq => absurd eq (append_ne_self _ _), ?_⟩
      rintro ⟨identified', passes⟩
      have code := passes.2.2.1
      rw [only identified' passes] at code
      exact absurd code allowed

theorem sendEvent_of_passes (userId : Option String) (event : Event) (now : Int)
    (identified published : Event)
    (passes : Passes engine s userId event now identified published) :
    sendEvent engine s userId event now =
      .ok { (s.beginSecond now).emit (.publishEvent published) with
        sendEventCount := (s.beginSecond now).sendEventCount + 1 } := by
  obtain ⟨identity, caps, allowed, limit⟩ := passes
  unfold sendEvent
  simp [identity, caps, allowed, limit, bind, Except.bind, pure, Except.pure]

def decoded (items : List Value) : Event := items.map fun value => some (.decoded value)

theorem sendRawEvent_eq (items : List Value) (ref : Ref)
    (after : AMFlow) (may : s.permission.sendEvent = true) (alive : s.revoked holders = false)
    (event : engine.decodeEvent buf = some (.array items)) (holder : s.tokenHolder = some ref)
    (sent : sendEvent engine s (holders ref).playToken.userId (decoded items) now = .ok after) :
    s.sendRawEvent engine holders buf now = after := by
  unfold decoded at sent
  simp [sendRawEvent, may, alive, event, holder, sent]

theorem sendRawEvent_cases :
    s.sendRawEvent engine holders buf now = s ∨
      ∃ items ref after, s.permission.sendEvent = true ∧ s.revoked holders = false ∧
        engine.decodeEvent buf = some (.array items) ∧ s.tokenHolder = some ref ∧
        sendEvent engine s (holders ref).playToken.userId (decoded items) now = .ok after ∧
        s.sendRawEvent engine holders buf now = after := by
  by_cases may : s.permission.sendEvent = true
  · by_cases alive : s.revoked holders = false
    · rcases eq : engine.decodeEvent buf with _ | value
      · exact .inl (by simp [sendRawEvent, eq])
      · cases value with
        | array items =>
          cases holder : s.tokenHolder with
          | none => exact .inl (by simp [sendRawEvent, eq, holder])
          | some ref =>
            cases sent : sendEvent engine s (holders ref).playToken.userId (decoded items)
                now with
            | error e =>
              unfold decoded at sent
              exact .inl (by simp [sendRawEvent, eq, holder, sent])
            | ok after =>
              exact .inr ⟨items, ref, after, may, alive, rfl, rfl, sent,
                sendRawEvent_eq engine holders s buf now items ref after may alive eq holder
                  sent⟩
        | _ => exact .inl (by simp [sendRawEvent, eq])
    · exact .inl (by simp [sendRawEvent, alive])
  · exact .inl (by simp [sendRawEvent, may])

/-- What is published has passed the filters of a session that may send and has a
holder that is not revoked. -/
theorem publishes_iff (published : Event) :
    Publishes engine holders s buf now published ↔
      s.permission.sendEvent = true ∧ s.revoked holders = false ∧ ∃ items ref identified,
        engine.decodeEvent buf = some (.array items) ∧ s.tokenHolder = some ref ∧
        Passes engine s (holders ref).playToken.userId (decoded items) now identified
          published := by
  constructor
  · intro publishes
    rcases sendRawEvent_cases engine holders s buf now with
      same | ⟨items, ref, after, may, alive, event, holder, sent, eq⟩
    · rw [Publishes, same] at publishes
      exact absurd publishes (append_ne_self _ _)
    · rw [Publishes, eq] at publishes
      obtain ⟨identified, passes⟩ :=
        (sendEvent_publishes engine s after _ _ now published sent).mp publishes
      exact ⟨may, alive, items, ref, identified, event, holder, passes⟩
  · rintro ⟨may, alive, items, ref, identified, event, holder, passes⟩
    have sent := sendEvent_of_passes engine s _ _ now identified published passes
    rw [Publishes, sendRawEvent_eq engine holders s buf now items ref _ may alive event holder sent]
    exact (sendEvent_publishes engine s _ _ _ now published sent).mpr ⟨identified, passes⟩

end AMFlow

namespace AMFlow

def SameCopy (s s' : AMFlow) : Prop :=
  s'.permission = s.permission ∧ s'.tokenHolder = s.tokenHolder

variable (engine : Engine) (holders : Ref → PlayTokenHolder) (s : AMFlow)

theorem SameCopy.refl : s.SameCopy s := ⟨rfl, rfl⟩

theorem sameCopy_ite (condition : Prop) [Decidable condition] (yes no : AMFlow)
    (first : s.SameCopy yes) (second : s.SameCopy no) :
    s.SameCopy (if condition then yes else no) := by
  split
  · exact first
  · exact second

theorem sameCopy_beginSecond (now : Int) : s.SameCopy (s.beginSecond now) :=
  sameCopy_ite s _ _ _ ⟨rfl, rfl⟩ (.refl s)

theorem sameCopy_sendEvent (userId : Option String) (event : Event) (now : Int) (after : AMFlow)
    (sent : sendEvent engine s userId event now = .ok after) : s.SameCopy after := by
  unfold sendEvent at sent
  split at sent
  · cases sent
    exact .refl s
  · obtain ⟨capped, _, sent⟩ := bind_eq_ok.mp sent
    split_ifs at sent
    · cases sent
      exact .refl s
    · obtain ⟨limited, _, sent⟩ := bind_eq_ok.mp sent
      split_ifs at sent
      · cases sent
        exact sameCopy_beginSecond s now
      · cases sent
        exact sameCopy_beginSecond s now

theorem sameCopy_sendRawEvent (buf : List UInt8) (now : Int) :
    s.SameCopy (s.sendRawEvent engine holders buf now) := by
  rcases sendRawEvent_cases engine holders s buf now with
    same | ⟨items, ref, after, _, _, _, _, sent, eq⟩
  · rw [same]
    exact .refl s
  · rw [eq]
    exact sameCopy_sendEvent engine s _ _ now after sent

theorem sameCopy_continue (request : Request) (answer : Answer) :
    s.SameCopy (s.continue_ holders request answer) := by
  unfold continue_
  split
  · simp only [apply_ite (fun s : AMFlow => s.await .tickList)]
    exact sameCopy_ite s _ _ _ ⟨rfl, rfl⟩ ⟨rfl, rfl⟩
  · split <;> exact ⟨rfl, rfl⟩
  · exact ⟨rfl, rfl⟩
  · split <;> exact ⟨rfl, rfl⟩
  · exact ⟨rfl, rfl⟩
  · exact ⟨rfl, rfl⟩
  · exact ⟨rfl, rfl⟩
  · exact ⟨rfl, rfl⟩

theorem sameCopy_onRawTick (handler : Nat) : s.SameCopy (s.onRawTick handler) := by
  unfold onRawTick
  split
  · exact .refl s
  · have subscribed : s.SameCopy (if s.tickHandlers.isEmpty then s.emit .consumeTick else s) :=
      sameCopy_ite s _ _ _ ⟨rfl, rfl⟩ (.refl s)
    exact subscribed

theorem sameCopy_onRawEvent (handler : Nat) : s.SameCopy (s.onRawEvent handler) := by
  unfold onRawEvent
  split
  · exact .refl s
  · have subscribed : s.SameCopy (if s.eventHandlers.isEmpty then s.emit .consumeEvent else s) :=
      sameCopy_ite s _ _ _ ⟨rfl, rfl⟩ (.refl s)
    exact subscribed

theorem sameCopy_getRawTickList («begin» «end» : Number) (flags : Value) :
    s.SameCopy (s.getRawTickList holders «begin» «end» flags) := by
  unfold getRawTickList
  split
  · exact ⟨rfl, rfl⟩
  · have asked : s.SameCopy (if s.gameCode.getD "" = "" then s.emit .getPlay else s) :=
      sameCopy_ite s _ _ _ ⟨rfl, rfl⟩ (.refl s)
    exact asked

theorem sameCopy_perform (op : Operation) : s.SameCopy (s.perform engine holders op) := by
  cases op with
  | sendRawTick tick =>
    exact sameCopy_ite s _ _ _ (.refl s) (sameCopy_ite s _ _ _ (.refl s)
      (sameCopy_ite s _ _ _ (.refl s) ⟨rfl, rfl⟩))
  | sendRawEvent buf now => exact sameCopy_sendRawEvent engine holders s buf now
  | onRawTick handler => exact sameCopy_onRawTick s handler
  | offRawTick handler =>
    exact sameCopy_ite s _ _ _ (.refl s) (sameCopy_ite s _ _ _ ⟨rfl, rfl⟩ ⟨rfl, rfl⟩)
  | onRawEvent handler => exact sameCopy_onRawEvent s handler
  | offRawEvent handler =>
    exact sameCopy_ite s _ _ _ (.refl s) (sameCopy_ite s _ _ _ ⟨rfl, rfl⟩ ⟨rfl, rfl⟩)
  | getRawTickList «begin» «end» flags =>
    exact sameCopy_getRawTickList holders s «begin» «end» flags
  | putStartPoint startPoint =>
    show s.SameCopy (s.putStartPoint holders startPoint)
    unfold putStartPoint
    split <;> exact ⟨rfl, rfl⟩
  | getStartPoint opts =>
    show s.SameCopy (s.getStartPoint holders opts)
    unfold getStartPoint
    split <;> exact ⟨rfl, rfl⟩
  | answer index reply =>
    show s.SameCopy (s.answer holders index reply)
    unfold answer
    split
    · exact .refl s
    · next request _ =>
      exact sameCopy_continue holders { s with requests := s.requests.eraseIdx index } request
        reply

end AMFlow

namespace SessionPlay

variable (engine : Engine)

def Copied (w : SessionPlay) : Prop :=
  match w.token with
  | none => w.amflow.permission = .initial
  | some token =>
    w.amflow.permission = token.permission ∧ ∃ ref < w.validator.next,
      w.amflow.tokenHolder = some ref ∧
      (w.validator.holders ref).playToken.userId = token.userId

structure Consistent (w : SessionPlay) : Prop where
  known : ∀ ref ∈ w.validator.validated, ref < w.validator.next
  copied : w.Copied

theorem consistent_new : new.Consistent := ⟨nofun, rfl⟩

variable {w : SessionPlay}

theorem Consistent.validator (consistent : w.Consistent) (action : Validator.Action) :
    ({ w with validator := w.validator.step action } : SessionPlay).Consistent := by
  have grown := Validator.grown_step w.validator action
  refine ⟨fun ref there => ?_, ?_⟩
  · rcases grown.validated ref there with before | now
    · exact Nat.lt_of_lt_of_le (consistent.known ref before) grown.next
    · exact now
  · have copied := consistent.copied
    cases token : w.token with
    | none =>
      simp only [Copied, token] at copied ⊢
      exact copied
    | some token' =>
      simp only [Copied, token] at copied ⊢
      obtain ⟨permission, ref, known, holder, user⟩ := copied
      refine ⟨permission, ref, Nat.lt_of_lt_of_le known grown.next, holder, ?_⟩
      rw [(grown.identity ref known).user, user]

theorem Consistent.amflow (consistent : w.Consistent) (after : AMFlow)
    (same : w.amflow.SameCopy after) : ({ w with amflow := after } : SessionPlay).Consistent := by
  refine ⟨consistent.known, ?_⟩
  have copied := consistent.copied
  unfold Copied at copied ⊢
  simp only [same.1, same.2]
  exact copied

theorem copy_onValidated (s : AMFlow) (ref : Ref) (holder : PlayTokenHolder) :
    (s.onValidated ref holder).permission = holder.playToken.permission ∧
      (s.onValidated ref holder).tokenHolder = some ref := by
  unfold onValidated
  dsimp only
  split
  · split <;> exact ⟨rfl, rfl⟩
  · split <;> exact ⟨rfl, rfl⟩

theorem consistent_step (action : Action) (consistent : w.Consistent) :
    (w.step engine action).Consistent := by
  cases action with
  | validator action => exact consistent.validator action
  | authenticate =>
    refine ⟨consistent.known, ?_⟩
    show (w.amflow.authenticate).permission = .initial
    unfold authenticate
    dsimp only
    split <;> rfl
  | validated ref =>
    show (if _ then _ else w : SessionPlay).Consistent
    split
    · next valid =>
      refine ⟨consistent.known, ?_⟩
      obtain ⟨permission, holder⟩ := copy_onValidated w.amflow ref (w.validator.holders ref)
      exact ⟨permission, ref, consistent.known ref valid.2, holder, rfl⟩
    · exact consistent
  | playlogClosed | prepared | writeLocked locked => exact consistent.amflow _ ⟨rfl, rfl⟩
  | binaryTick tick | binaryEvent event =>
    exact consistent.amflow _ (sameCopy_ite w.amflow _ _ _ (.refl _) ⟨rfl, rfl⟩)
  | operation op =>
    exact consistent.amflow _ (sameCopy_perform engine w.validator.holders w.amflow op)

theorem consistent_run (actions : List Action) : (Run.final (step engine) new actions).Consistent :=
  Run.stable (fun _ action consistent => consistent_step engine action consistent) new actions
    consistent_new

/-- A session has the permission and the user of the token it was last validated with. -/
theorem permission_of_token (actions : List Action) :
    (Run.final (step engine) new actions).Copied :=
  (consistent_run engine actions).copied

/-- The event is one that the token allows: its code, its priority and its player. -/
def Sanitized (token : PlayToken) (event : Event) : Prop :=
  (∃ allowed ∈ engine.eventCodeWhiteList,
    (event.get 0).bind Item.asNumber = some (.finite allowed)) ∧
  Capped token.permission.maxEventPriority (event.get 1) ∧
  ∀ userId, token.userId = some userId → userId ≠ "" →
    ∃ item, event.get 2 = some item ∧ item.isText userId = true

/-- Whatever the call publishes is allowed by the token of the session, which may
send and is not revoked. -/
def Sanitizes (w : SessionPlay) (buf : List UInt8) (now : Int) : Prop :=
  ∀ event, Publishes engine w.validator.holders w.amflow buf now event →
    ∃ token, w.token = some token ∧ token.permission.sendEvent = true ∧
      w.amflow.revoked w.validator.holders = false ∧ Sanitized engine token event

/-- Where the other filters let the event pass, its priority compares. -/
def PriorityCompares (w : SessionPlay) (buf : List UInt8) (now : Int) : Prop :=
  ∀ items token identified capped, engine.decodeEvent buf = some (.array items) →
    w.token = some token → token.permission.sendEvent = true →
    w.amflow.revoked w.validator.holders = false →
    Passes engine w.amflow token.userId (decoded items) now identified capped →
    Compares engine token.permission.maxEventPriority ((decoded items).get 1)

/-- In every run, whatever a call publishes is sanitized if and only if the priority
compares. -/
theorem sanitizes_iff (actions : List Action) (buf : List UInt8) (now : Int) :
    Sanitizes engine (Run.final (step engine) new actions) buf now ↔
      PriorityCompares engine (Run.final (step engine) new actions) buf now := by
  have copied := (consistent_run engine actions).copied
  generalize Run.final (step engine) new actions = w at copied ⊢
  constructor
  · intro sanitizes items token identified capped event authenticated may alive passes
    simp only [Copied, authenticated] at copied
    obtain ⟨permission, ref, _, holder, user⟩ := copied
    rw [← user] at passes
    have publishes : Publishes engine w.validator.holders w.amflow buf now capped :=
      (publishes_iff engine w.validator.holders w.amflow buf now capped).mpr
        ⟨by rw [permission, may], alive, items, ref, identified, event, holder, passes⟩
    obtain ⟨token', authenticated', _, _, _, isCapped, _⟩ := sanitizes capped publishes
    rw [authenticated] at authenticated'
    cases authenticated'
    obtain ⟨identity, caps, _, _⟩ := passes
    rw [permission] at caps
    rw [← get_one_of_identify _ _ _ identity]
    exact (capped_iff engine _ identified capped caps).mp isCapped
  · intro compares published publishes
    obtain ⟨may, alive, items, ref, identified, event, holder, passes⟩ :=
      (publishes_iff engine w.validator.holders w.amflow buf now published).mp publishes
    cases authenticated : w.token with
    | none =>
      simp only [Copied, authenticated] at copied
      rw [copied] at may
      cases may
    | some token =>
      simp only [Copied, authenticated] at copied
      obtain ⟨permission, ref', _, holder', user⟩ := copied
      rw [holder] at holder'
      cases holder'
      rw [user] at passes
      rw [permission] at may
      have priority := compares items token identified published event authenticated may alive
        passes
      obtain ⟨identity, caps, code, _⟩ := passes
      rw [permission] at caps
      rw [← get_one_of_identify _ _ _ identity] at priority
      refine ⟨token, rfl, may, alive, (allowsCode_iff engine _).mp code,
        (capped_iff engine _ identified published caps).mpr priority, ?_⟩
      intro userId isUser named
      rw [isUser] at identity
      rw [get_two_of_cap engine _ identified published caps]
      exact identify_some userId _ identified named identity

def nanEngine : Engine where
  decodeEvent _ := some (.array [.number 32, .double 0x7ff8000000000000, .null])
  toNumber _ := .ok .nan
  eventCodeWhiteList := [32, 33, 34, 35, 64, 3]
  eventLimitCount := ⟨60, 30⟩

/-- A session that may send events of priority 0 publishes one of priority `NaN`. -/
theorem nan_priority :
    let token : PlayToken := ⟨"7", "10", { Permission.initial with sendEvent := true }, none⟩
    ¬ Sanitizes nanEngine (Run.final (step nanEngine) new
        [.authenticate, .validator (.validated "s" token), .validated 0]) [] 0 := by
  intro token sanitizes
  have publishes := sanitizes
    [some (.decoded (.number 32)), some (.decoded (.double 0x7ff8000000000000)),
      some (.decoded .null)] rfl
  obtain ⟨token', authenticated, _, _, _, ⟨n, isNumber, le⟩, _⟩ := publishes
  have nan : n = .nan := by
    cases isNumber
    decide +kernel
  rw [nan] at le
  cases le

end SessionPlay
end AkashicSystem.PlaylogServer
