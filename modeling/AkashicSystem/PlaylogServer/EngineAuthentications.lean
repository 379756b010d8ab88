import AkashicSystem.PlaylogServer.EnginePushes

/-!
# Authentications of a client

`handleAuthenticateRequest` takes down what is installed when a request comes, and
installs when it is answered.  Between the two another authentication may be
answered, and then both are installed; where none is, the pushes of the client and
the ticks and events of the play go once where the permission says.
-/

set_option autoImplicit false

namespace AkashicSystem.PlaylogServer
namespace EnginePushes

open AkashicSystem.Js
open SessionAuthentication (Reply)

namespace EngineClient

variable {holders : Ref → PlayTokenHolder} {ticks events : Bool} {pipes : Pipe → List Kind}
  {s : EngineClient}

variable (holders) in
/-- Whether an authentication calls back with a reply, and if so, whether it has succeeded. -/
def callsBack : Authenticating → Reply → Option Bool
  | .releasing, .rejected => some false
  | .validating, .rejected => some false
  | .validating, .validated ref =>
    let permission := (holders ref).playToken.permission
    if (holders ref).revoked || permission.connects || permission.writeTick then none
    else some true
  | .granting _ _ true locking failed, .prepared true =>
    if locking || failed then none else some true
  | .granting _ (some _) true _ failed, .prepared false => if failed then none else some false
  | .granting _ _ preparing true failed, .writeLocked true =>
    if preparing || failed then none else some true
  | .granting _ _ _ true failed, .writeLocked false => if failed then none else some false
  | _, _ => none

/-- The holder that an authentication has made is given up. -/
def Loses : Authenticating → Reply → Prop
  | .granting _ (some _) true _ _, .prepared false => True
  | _, _ => False

variable (holders) in
/-- The AMFlow has the permission of the token, and where ticks or events are subscribed, the
play has a holder. -/
def Grants (s : EngineClient) : Authenticating → Prop
  | .granting ref _ _ _ _ =>
    s.amflow.permission = (holders ref).playToken.permission ∧
      (s.amflow.permission.subscribeTick = true ∨ s.amflow.permission.subscribeEvent = true →
        s.playlog.current.isSome)
  | _ => True

variable (holders) in
/-- Authentications keep apart: when one calls back, or loses its holder, nothing of another is
installed; the one that succeeds finds its own permission at the AMFlow; and a request finds the
permission that what is installed needs to be taken down. -/
def Apart (s : EngineClient) : Action → Prop
  | .authenticate => ∀ permission, s.granted = some permission →
      (permission.subscribeTick = true → s.amflow.permission.subscribeTick = true) ∧
        (permission.subscribeEvent = true → s.amflow.permission.subscribeEvent = true)
  | .reply index reply => ∀ stage, s.authentications[index]? = some stage →
      ((callsBack holders stage reply).isSome ∨ Loses stage reply → s.Uninstalled) ∧
        (callsBack holders stage reply = some true → s.Grants holders stage)
  | _ => True

theorem inv_of_same {s' : EngineClient} (inv : Inv holders s)
    (listeners : s'.listeners = s.listeners) (playlog : s'.playlog = s.playlog)
    (amflow : s'.amflow.tickHandlers = s.amflow.tickHandlers ∧
      s'.amflow.eventHandlers = s.amflow.eventHandlers ∧
      s'.amflow.tokenHolder = s.amflow.tokenHolder ∧ s'.amflow.effects = s.amflow.effects)
    (granted : s'.granted = s.granted) (assigned : s'.assigned = s.assigned) :
    Inv holders s' where
  holds := by
    rw [granted]
    exact inv.holds.of_same listeners playlog amflow.1 amflow.2.1 amflow.2.2.1 amflow.2.2.2
  assigned := by
    rw [granted, assigned]
    exact inv.assigned

section

variable (inv : Inv holders s)
include inv

theorem inv_settle (index : Nat) (ref : Ref) (created : Option Nat)
    (preparing locking failed : Bool)
    (ends : preparing = false → locking = false → failed = false → s.Uninstalled ∧
      s.amflow.permission = (holders ref).playToken.permission ∧
      (s.amflow.permission.subscribeTick = true ∨ s.amflow.permission.subscribeEvent = true →
        s.playlog.current.isSome)) :
    Inv holders (s.settle holders index ref created preparing locking failed) := by
  unfold settle
  have staged (stage : Authenticating) : Inv holders (s.setStage index stage) :=
    inv_of_same inv rfl rfl ⟨rfl, rfl, rfl, rfl⟩ rfl rfl
  split
  · exact staged _
  · rename_i settled
    simp only [Bool.or_eq_true, not_or, Bool.not_eq_true] at settled
    split
    · exact staged _
    · rename_i succeeded
      obtain ⟨uninstalled, permission, connected⟩ :=
        ends settled.1 settled.2 (Bool.eq_false_iff.mpr succeeded)
      have held : Holds holders false false (fun _ => []) (s.setStage index .done) :=
        (uninstalled.holds inv.holds).of_same rfl rfl rfl rfl rfl rfl
      refine inv_succeed held _ permission ?_
      rw [← permission]
      exact connected

theorem inv_fail (uninstalled : s.Uninstalled) : Inv holders s.fail :=
  inv_of_none rfl ((uninstalled.holds inv.holds).of_same rfl rfl rfl rfl rfl rfl)

theorem inv_onValidated (index : Nat) (ref : Ref) (alive : (holders ref).revoked = false)
    (uninstalled : (holders ref).playToken.permission.connects = false →
      (holders ref).playToken.permission.writeTick = false → s.Uninstalled) :
    Inv holders (s.onValidated holders index ref) := by
  unfold onValidated
  dsimp only
  obtain ⟨playlog, tickHandlers, eventHandlers, -, permission⟩ :=
    run_onValidated inv.holds.effects ref (holders ref)
  obtain ⟨isAmflow, assigned, listeners, -, granted, -⟩ :=
    run_keeps s (s.amflow.onValidated ref (holders ref))
  have validated : Inv holders (s.run (s.amflow.onValidated ref (holders ref))) := by
    constructor
    · rw [granted]
      exact holds_onValidated inv.holds ref alive
    · rw [granted, assigned]
      exact inv.assigned
  refine inv_settle validated index ref _ _ _ false fun preparing locking _ => ?_
  have nothing := uninstalled preparing locking
  refine ⟨⟨?_, ?_, ?_⟩, ?_, ?_⟩
  · rw [listeners]
    exact nothing.listeners
  · rw [isAmflow]
    exact tickHandlers.trans nothing.tickHandlers
  · rw [isAmflow]
    exact eventHandlers.trans nothing.eventHandlers
  · rw [isAmflow]
    exact permission
  · -- it would connect
    rw [isAmflow]
    change (s.amflow.onValidated ref (holders ref)).permission.subscribeTick = true ∨
      (s.amflow.onValidated ref (holders ref)).permission.subscribeEvent = true → _
    rw [permission]
    simp only [Permission.connects, Bool.or_eq_false_iff] at preparing
    simp [preparing]

theorem inv_failed (failed : Bool)
    (uninstalled : failed = false → s.Uninstalled) (index : Nat) (ref : Ref)
    (created : Option Nat) (preparing locking : Bool) :
    Inv holders ((if failed then s else s.fail).settle holders index ref created preparing locking
      true) := by
  have failing : Inv holders (if failed then s else s.fail) := by
    cases failed with
    | true => exact inv
    | false => exact inv_fail inv (uninstalled rfl)
  refine inv_settle failing index ref created preparing locking true fun _ _ no => ?_
  cases no

theorem inv_error (uninstalled : s.Uninstalled) (number : Nat) :
    Inv holders { s with playlog := s.playlog.error number } := by
  obtain ⟨ticks, events, pipes⟩ := uninstalled.nothing inv.holds
  have held := inv.holds
  refine ⟨?_, inv.assigned⟩
  change Holds holders (subscribesTick s.granted) (subscribesEvent s.granted) (incoming s.granted)
    { s with playlog := s.playlog.error number }
  rw [ticks, events, pipes] at held ⊢
  exact holds_error held number

theorem inv_reply (index : Nat) (stage : Authenticating) (reply : Reply)
    (uninstalled : (callsBack holders stage reply).isSome ∨ Loses stage reply → s.Uninstalled)
    (grants : callsBack holders stage reply = some true → s.Grants holders stage) :
    Inv holders (s.reply holders index stage reply) := by
  have same : Inv holders s := inv
  have staged (stage : Authenticating) : Inv holders (s.setStage index stage) :=
    inv_of_same inv rfl rfl ⟨rfl, rfl, rfl, rfl⟩ rfl rfl
  have failing (nothing : s.Uninstalled) : Inv holders (s.setStage index .done).fail :=
    inv_fail (staged .done) ⟨nothing.listeners, nothing.tickHandlers, nothing.eventHandlers⟩
  cases stage with
  | releasing =>
    cases reply with
    | resolved => exact inv_of_same inv rfl rfl ⟨rfl, rfl, rfl, rfl⟩ rfl rfl
    | rejected => exact failing (uninstalled (.inl rfl))
    | _ => exact inv
  | validating =>
    cases reply with
    | rejected => exact failing (uninstalled (.inl rfl))
    | validated ref =>
      rw [EngineClient.reply]
      cases revoked : (holders ref).revoked with
      | true => exact inv
      | false =>
        rw [if_neg Bool.false_ne_true]
        refine inv_onValidated inv index ref revoked fun connects writes => ?_
        refine uninstalled (.inl ?_)
        simp [callsBack, revoked, connects, writes]
    | _ => exact inv
  | granting ref created preparing locking failed =>
    cases reply with
    | prepared succeeded =>
      cases preparing with
      | false => cases succeeded <;> cases created <;> cases locking <;> exact inv
      | true =>
        cases succeeded with
        | true =>
          have prepared : Inv holders
              { s with amflow := { s.amflow with playlogHandlerPrepared := true } } :=
            inv_of_same inv rfl rfl ⟨rfl, rfl, rfl, rfl⟩ rfl rfl
          have settled := inv_settle prepared index ref created false locking failed
            fun _ locked fine => by
              have back : callsBack holders (.granting ref created true locking failed)
                  (.prepared true) = some true := by
                rw [locked, fine]
                cases created <;> rfl
              have nothing := uninstalled (.inl (by rw [back]; rfl))
              exact ⟨⟨nothing.listeners, nothing.tickHandlers, nothing.eventHandlers⟩,
                grants back⟩
          cases created <;> cases locking <;> exact settled
        | false =>
          cases created with
          | none => cases locking <;> exact inv
          | some number =>
            have nothing := uninstalled (.inr (by cases locking <;> trivial))
            have lost := inv_error inv nothing number
            have settled := inv_failed lost failed (fun _ =>
              ⟨nothing.listeners, nothing.tickHandlers, nothing.eventHandlers⟩) index ref
              (some number) false locking
            cases locking <;> exact settled
    | writeLocked succeeded =>
      cases locking with
      | false =>
        cases succeeded <;> cases created <;> cases preparing <;> exact inv
      | true =>
        cases succeeded with
        | true =>
          have locked : Inv holders
              { s with amflow := { s.amflow with writeLocked := true } } :=
            inv_of_same inv rfl rfl ⟨rfl, rfl, rfl, rfl⟩ rfl rfl
          have settled := inv_settle locked index ref created preparing false failed
            fun prepared _ fine => by
              have back : callsBack holders (.granting ref created preparing true failed)
                  (.writeLocked true) = some true := by
                rw [prepared, fine]
                cases created <;> rfl
              have nothing := uninstalled (.inl (by rw [back]; rfl))
              exact ⟨⟨nothing.listeners, nothing.tickHandlers, nothing.eventHandlers⟩,
                grants back⟩
          cases created <;> cases preparing <;> exact settled
        | false =>
          have settled := inv_failed inv failed (fun fine => by
            refine uninstalled (.inl ?_)
            rw [fine]
            cases created <;> cases preparing <;> rfl) index ref created preparing false
          cases created <;> cases preparing <;> exact settled
    | _ => cases preparing <;> cases locking <;> cases created <;> exact inv
  | done => cases reply <;> exact inv

end

theorem run_onBinaryTick (held : Holds holders true events pipes s) (tick : List UInt8) :
    s.run (s.amflow.onBinaryTick holders tick) = s.onPlaylogTick tick := by
  have alive : s.amflow.revoked holders = false := by
    unfold AMFlow.revoked
    cases token : s.amflow.tokenHolder with
    | none => rfl
    | some ref => exact held.alive ref token
  have handlers : s.amflow.tickHandlers = [0] := held.tickHandlers
  have calls : (s.amflow.onBinaryTick holders tick).effects = [.onTick 0 tick] := by
    unfold AMFlow.onBinaryTick
    rw [alive, if_neg Bool.false_ne_true, held.effects, handlers]
    rfl
  have same : { s.amflow.onBinaryTick holders tick with effects := [] } = s.amflow := by
    unfold AMFlow.onBinaryTick
    rw [alive, if_neg Bool.false_ne_true, ← held.effects]
  unfold run
  rw [calls, same]
  rfl

theorem run_onBinaryEvent (held : Holds holders ticks true pipes s) (event : List UInt8) :
    s.run (s.amflow.onBinaryEvent holders event) = s.onPlaylogEvent event := by
  have alive : s.amflow.revoked holders = false := by
    unfold AMFlow.revoked
    cases token : s.amflow.tokenHolder with
    | none => rfl
    | some ref => exact held.alive ref token
  have handlers : s.amflow.eventHandlers = [0] := held.eventHandlers
  have calls : (s.amflow.onBinaryEvent holders event).effects = [.onEvent 0 event] := by
    unfold AMFlow.onBinaryEvent
    rw [alive, if_neg Bool.false_ne_true, held.effects, handlers]
    rfl
  have same : { s.amflow.onBinaryEvent holders event with effects := [] } = s.amflow := by
    unfold AMFlow.onBinaryEvent
    rw [alive, if_neg Bool.false_ne_true, ← held.effects]
  unfold run
  rw [calls, same]
  rfl

variable (holders) in
/-- What pushes of the client, and ticks and events of the play, come to. -/
structure Exact (s : EngineClient) : Prop where
  passed : ∀ pipe data, (s.step holders (.push pipe data)).passed =
    s.passed ++ (incoming s.granted pipe).map fun kind => (kind, data)
  ticks : ∀ number tick, (s.step holders (.tick number tick)).sent =
    s.sent ++ if s.playlog.current = some number then ticksTo s.granted tick else []
  events : ∀ number event, (s.step holders (.event number event)).sent =
    s.sent ++ if s.playlog.current = some number then eventsTo s.granted event else []

theorem step_tick (inv : Inv holders s) (number : Nat) (tick : List UInt8) :
    (s.playlog.current = some number ∧ subscribesTick s.granted = true ∧
        s.step holders (.tick number tick) = s.onPlaylogTick tick) ∨
      (¬ (s.playlog.current = some number ∧ subscribesTick s.granted = true) ∧
        s.step holders (.tick number tick) = s) := by
  have held := inv.holds
  rw [step]
  cases there : s.playlog.holders[number]? with
  | none =>
    refine .inr ⟨fun both => ?_, rfl⟩
    have bound := held.inside number both.1
    rw [List.getElem?_eq_none_iff] at there
    omega
  | some holder =>
    obtain ⟨registered, -⟩ := held.registered number holder there
    rw [Option.map_some, Option.getD_some]
    cases isRegistered : holder.tick with
    | true =>
      obtain ⟨ticks, current⟩ := registered.mp isRegistered
      refine .inl ⟨current, ticks, ?_⟩
      rw [if_pos rfl]
      rw [ticks] at held
      exact run_onBinaryTick held tick
    | false =>
      refine .inr ⟨fun both => ?_, rfl⟩
      rw [registered.mpr ⟨both.2, both.1⟩] at isRegistered
      cases isRegistered

theorem step_event (inv : Inv holders s) (number : Nat) (event : List UInt8) :
    (s.playlog.current = some number ∧ subscribesEvent s.granted = true ∧
        s.step holders (.event number event) = s.onPlaylogEvent event) ∨
      (¬ (s.playlog.current = some number ∧ subscribesEvent s.granted = true) ∧
        s.step holders (.event number event) = s) := by
  have held := inv.holds
  rw [step]
  cases there : s.playlog.holders[number]? with
  | none =>
    refine .inr ⟨fun both => ?_, rfl⟩
    have bound := held.inside number both.1
    rw [List.getElem?_eq_none_iff] at there
    omega
  | some holder =>
    obtain ⟨-, registered⟩ := held.registered number holder there
    rw [Option.map_some, Option.getD_some]
    cases isRegistered : holder.event with
    | true =>
      obtain ⟨events, current⟩ := registered.mp isRegistered
      refine .inl ⟨current, events, ?_⟩
      rw [if_pos rfl]
      rw [events] at held
      exact run_onBinaryEvent held event
    | false =>
      refine .inr ⟨fun both => ?_, rfl⟩
      rw [registered.mpr ⟨both.2, both.1⟩] at isRegistered
      cases isRegistered

theorem ticksTo_of_unsubscribed {granted : Option Permission}
    (none : subscribesTick granted = false) (tick : List UInt8) : ticksTo granted tick = [] := by
  cases granted with
  | none => rfl
  | some permission =>
    have unsubscribed : permission.subscribeTick = false := none
    simp [ticksTo, assign, unsubscribed]

theorem eventsTo_of_unsubscribed {granted : Option Permission}
    (none : subscribesEvent granted = false) (event : List UInt8) :
    eventsTo granted event = [] := by
  cases granted with
  | none => rfl
  | some permission =>
    have unsubscribed : permission.subscribeEvent = false := none
    simp [eventsTo, assign, unsubscribed]

theorem sent_onPlaylogTick (inv : Inv holders s) (subscribes : subscribesTick s.granted = true)
    (tick : List UInt8) : (s.onPlaylogTick tick).sent = s.sent ++ ticksTo s.granted tick := by
  cases granted : s.granted with
  | none =>
    rw [granted] at subscribes
    cases subscribes
  | some permission =>
    rw [granted] at subscribes
    have isSubscribed : permission.subscribeTick = true := subscribes
    have pipe : (assign permission).sendTick = some .primary := by simp [assign, isSubscribed]
    unfold onPlaylogTick ticksTo
    rw [inv.assigned permission granted, Option.bind_some, Option.bind_some, pipe]
    rfl

theorem sent_onPlaylogEvent (inv : Inv holders s) (subscribes : subscribesEvent s.granted = true)
    (event : List UInt8) : (s.onPlaylogEvent event).sent = s.sent ++ eventsTo s.granted event := by
  cases granted : s.granted with
  | none =>
    rw [granted] at subscribes
    cases subscribes
  | some permission =>
    rw [granted] at subscribes
    have isSubscribed : (assign permission).sendEvent.isSome := by
      rw [isSome_sendEvent]
      exact subscribes
    obtain ⟨pipe, isPipe⟩ := Option.isSome_iff_exists.mp isSubscribed
    unfold onPlaylogEvent eventsTo
    rw [inv.assigned permission granted, Option.bind_some, Option.bind_some, isPipe]
    rfl

theorem exact_of_inv (inv : Inv holders s) : Exact holders s where
  passed := by
    intro pipe data
    rw [step, inv.holds.listeners]
  ticks := by
    intro number tick
    rcases step_tick inv number tick with ⟨current, subscribes, sends⟩ | ⟨not, same⟩
    · rw [sends, if_pos current]
      exact sent_onPlaylogTick inv subscribes tick
    · rw [same]
      split
      · rename_i current
        have unsubscribed : subscribesTick s.granted = false :=
          Bool.eq_false_iff.mpr fun subscribes => not ⟨current, subscribes⟩
        rw [ticksTo_of_unsubscribed unsubscribed, List.append_nil]
      · rw [List.append_nil]
  events := by
    intro number event
    rcases step_event inv number event with ⟨current, subscribes, sends⟩ | ⟨not, same⟩
    · rw [sends, if_pos current]
      exact sent_onPlaylogEvent inv subscribes event
    · rw [same]
      split
      · rename_i current
        have unsubscribed : subscribesEvent s.granted = false :=
          Bool.eq_false_iff.mpr fun subscribes => not ⟨current, subscribes⟩
        rw [eventsTo_of_unsubscribed unsubscribed, List.append_nil]
      · rw [List.append_nil]

theorem inv_start (others : Nat) : Inv holders (start others) := by
  refine inv_of_none rfl ⟨rfl, rfl, rfl, ?_, ?_, ?_, ?_, rfl⟩
  · intro number holder there
    have unregistered : holder = ⟨false, false⟩ := by
      change (PlaylogEntry.start others).holders[number]? = some holder at there
      unfold PlaylogEntry.start at there
      split at there
      · cases there
      · exact List.mem_singleton.mp (List.mem_of_getElem? there)
    rw [unregistered]
    simp
  · intro some
    rcases some with no | no <;> cases no
  · intro number isCurrent
    change (PlaylogEntry.start others).current = some number at isCurrent
    change number < (PlaylogEntry.start others).holders.length
    unfold PlaylogEntry.start at isCurrent ⊢
    split at isCurrent
    · cases isCurrent
    · rename_i some
      rw [if_neg some, ← Option.some.inj isCurrent]
      exact Nat.zero_lt_one
  · intro ref isRef
    cases isRef

theorem inv_step (inv : Inv holders s) (action : Action) (apart : s.Apart holders action) :
    Inv holders (s.step holders action) := by
  cases action with
  | authenticate => exact inv_handleAuthenticateRequest inv apart
  | reply index reply =>
    rw [step]
    cases there : s.authentications[index]? with
    | none => exact inv
    | some stage =>
      obtain ⟨uninstalled, grants⟩ := apart stage there
      exact inv_reply inv index stage reply uninstalled grants
  | push pipe data => exact inv_of_same inv rfl rfl ⟨rfl, rfl, rfl, rfl⟩ rfl rfl
  | tick number tick =>
    rcases step_tick inv number tick with ⟨-, -, sends⟩ | ⟨-, same⟩
    · rw [sends, onPlaylogTick]
      split
      · exact inv_of_same inv rfl rfl ⟨rfl, rfl, rfl, rfl⟩ rfl rfl
      · exact inv
    · rw [same]
      exact inv
  | event number event =>
    rcases step_event inv number event with ⟨-, -, sends⟩ | ⟨-, same⟩
    · rw [sends, onPlaylogEvent]
      split
      · exact inv_of_same inv rfl rfl ⟨rfl, rfl, rfl, rfl⟩ rfl rfl
      · exact inv
    · rw [same]
      exact inv

end EngineClient

open EngineClient

/-- Where the authentications of a client keep apart, what it pushes is passed on once and as
what the permission says, and what its play's holder consumes is pushed to it once or not at
all, as the permission says. -/
theorem exact_of_apart (holders : Ref → PlayTokenHolder) (others : Nat) (actions : List Action)
    (apart : Run.Allowed (step holders) (Apart holders) (start others) actions) :
    Exact holders (Run.final (step holders) (start others) actions) :=
  exact_of_inv (@Run.invariant _ _ (step holders) _ (Inv holders)
    (fun _ action inv apart => inv_step inv action apart) (start others) actions
    (inv_start others) apart)

def viewer (ref : Ref) : PlayTokenHolder :=
  .new ⟨"token", "play", ⟨false, true, ref = 0, ref = 0, false, 0⟩, none⟩ "session" none

/-- Two requests come before the first one is answered, and both succeed. -/
def overlappingRun : List Action :=
  [.authenticate, .authenticate, .reply 0 (.validated 0), .reply 1 (.validated 0),
    .reply 0 (.prepared true), .reply 1 (.prepared true)]

def overlapped : EngineClient := Run.final (step viewer) (start 0) overlappingRun

/-- All is answered; an event of the client is passed on twice, and a tick is pushed twice. -/
theorem overlapped_twice : overlapped.authentications = [.done, .done] ∧
      (overlapped.step viewer (.push .primary [1])).passed = [(.event, [1]), (.event, [1])] ∧
      (overlapped.step viewer (.tick 0 [2])).sent =
        [(.primary, .tick, [2]), (.primary, .tick, [2])] ∧ ¬ Exact viewer overlapped := by
  refine ⟨by decide, by decide, by decide, fun exact => ?_⟩
  have passed := exact.passed .primary [1]
  exact absurd passed (by decide)

def separateRun : List Action :=
  [.authenticate, .reply 0 (.validated 0), .reply 0 (.prepared true), .authenticate,
    .reply 1 .resolved, .reply 1 .rejected, .authenticate, .reply 2 (.validated 0),
    .reply 2 (.prepared true), .tick 1 [2]]

theorem quiet_of_none {s : EngineClient} {stage : Authenticating} {reply : Reply}
    (none : callsBack viewer stage reply = none) (keeps : ¬ Loses stage reply) :
    ((callsBack viewer stage reply).isSome ∨ Loses stage reply → s.Uninstalled) ∧
      (callsBack viewer stage reply = some true → s.Grants viewer stage) := by
  rw [none]
  refine ⟨fun ends => ?_, fun back => ?_⟩
  · rcases ends with some | loses
    · cases some
    · exact absurd loses keeps
  · cases back

theorem separate_apart : Run.Allowed (step viewer) (Apart viewer) (start 0) separateRun := by
  refine ⟨?_, ?_, ?_, ?_, ?_, ?_, ?_, ?_, ?_, trivial, trivial⟩
  · intro permission granted
    cases granted
  · intro stage there
    obtain rfl := Option.some.inj there
    exact quiet_of_none (by decide) id
  · intro stage there
    obtain rfl := Option.some.inj there
    exact ⟨fun _ => ⟨fun pipe => rfl, rfl, rfl⟩, fun _ => ⟨rfl, fun _ => rfl⟩⟩
  · intro permission granted
    obtain rfl := Option.some.inj granted
    exact ⟨fun _ => rfl, fun no => absurd no (by decide)⟩
  · intro stage there
    obtain rfl := Option.some.inj there
    exact quiet_of_none (by decide) id
  · intro stage there
    obtain rfl := Option.some.inj there
    refine ⟨fun _ => ⟨fun pipe => ?_, rfl, rfl⟩, fun back => absurd back (by decide)⟩
    cases pipe
    · rfl
    · rfl
  · intro permission granted
    cases granted
  · intro stage there
    obtain rfl := Option.some.inj there
    exact quiet_of_none (by decide) id
  · intro stage there
    obtain rfl := Option.some.inj there
    refine ⟨fun _ => ⟨fun pipe => ?_, rfl, rfl⟩, fun _ => ⟨rfl, fun _ => rfl⟩⟩
    cases pipe
    · rfl
    · rfl

theorem exact_of_apart_separate : Exact viewer (Run.final (step viewer) (start 0) separateRun) ∧
      (Run.final (step viewer) (start 0) separateRun).sent = [(.primary, .tick, [2])] :=
  ⟨exact_of_apart viewer 0 separateRun separate_apart, by decide⟩

end EnginePushes
end AkashicSystem.PlaylogServer
