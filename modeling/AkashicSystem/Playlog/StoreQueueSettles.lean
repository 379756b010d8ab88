import AkashicSystem.Playlog.StoreQueue

/-!
# Messages of the store queues are settled

A message is acknowledged after each of its forms is stored, was found stored,
or was reported as conflicting.  Storing writes nothing but such evidence to the
trace, and the settlement follows it.
-/

set_option autoImplicit false

namespace AkashicSystem.Playlog

open AkashicSystem.Js Computation List

def Happening.isSettlement : Happening → Bool
  | .ack _ => true
  | .nack _ _ => true
  | _ => false

def settlements (trace : List Happening) : List Happening :=
  trace.filter Happening.isSettlement

theorem settlements_append (front back : List Happening) :
    settlements (front ++ back) = settlements front ++ settlements back := filter_append ..

/-- A form of a play's message is in the store, or is reported as conflicting. -/
def Evidence (playId : String) (form : Form) (value : Value) (trace : List Happening) : Prop :=
  .put playId form value ∈ trace ∨ .found playId form value ∈ trace ∨
    ∃ storedValue, .conflicted playId form storedValue value ∈ trace

theorem Evidence.append {playId : String} {form : Form} {value : Value} {trace : List Happening}
    (evidence : Evidence playId form value trace) (made : List Happening) :
    Evidence playId form value (trace ++ made) := by
  rcases evidence with put | found | ⟨storedValue, conflicted⟩
  · exact .inl (mem_append_left _ put)
  · exact .inr (.inl (mem_append_left _ found))
  · exact .inr (.inr ⟨storedValue, mem_append_left _ conflicted⟩)

/-- The computation only adds to the trace, and settles nothing. -/
def Quiet {α : Type} (m : HandlingM α) : Prop :=
  ∀ trace, ∃ made, stateOf (m trace) = trace ++ made ∧ settlements made = []

namespace Quiet

theorem of_stateOf {α : Type} {m : HandlingM α}
    (unchanged : ∀ trace, stateOf (m trace) = trace) : Quiet m :=
  fun trace => ⟨[], by rw [unchanged, append_nil], rfl⟩

theorem pure {α : Type} (a : α) : Quiet (Pure.pure a : HandlingM α) := of_stateOf fun _ => rfl

theorem throw {α : Type} (why : Interrupt) : Quiet (MonadExcept.throw why : HandlingM α) :=
  of_stateOf fun _ => rfl

theorem bind {α β : Type} {m : HandlingM α} {f : α → HandlingM β} (first : Quiet m)
    (second : ∀ a, Quiet (f a)) : Quiet (m >>= f) := by
  intro trace
  obtain ⟨made, eq, quiet⟩ := first trace
  rw [bind_run]
  cases run : m trace with
  | ok a trace' =>
    rw [run, stateOf_ok] at eq
    obtain ⟨made', eq', quiet'⟩ := second a trace'
    refine ⟨made ++ made', ?_, ?_⟩
    · rw [eq', eq, append_assoc]
    · rw [settlements_append, quiet, quiet', append_nil]
  | error err trace' =>
    rw [run, stateOf_error] at eq
    exact ⟨made, eq, quiet⟩

theorem record {happening : Happening} (quiet : happening.isSettlement = false) :
    Quiet (Playlog.record happening) := by
  intro trace
  refine ⟨[happening], rfl, ?_⟩
  rw [settlements, filter_cons, quiet]
  rfl

theorem emit {event : Happening} (quiet : event.isSettlement = false) (listener : Listener) :
    Quiet (Playlog.emit event listener) := by
  refine bind (record quiet) fun _ => ?_
  cases listener with
  | returns => exact pure _
  | throws | exits => exact throw _

theorem operate {α : Type} (result : Except TypeError α) : Quiet (Playlog.operate result) := by
  cases result with
  | ok a => exact pure a
  | error err => exact throw _

end Quiet

namespace PlaylogQueueConsumer

variable (a : Answers)

theorem logFirstFrame_quiet (frame : Option Value) :
    Quiet (logFirstFrame a frame) := by
  unfold logFirstFrame
  split
  · refine Quiet.bind ?_ fun delayed => ?_
    · unfold getMillisFromPlayStarted
      split
      · exact Quiet.throw _
      · exact Quiet.bind (Quiet.record rfl) fun _ => Quiet.pure _
      · exact Quiet.pure _
    · split
      · exact Quiet.record rfl
      · split
        · exact Quiet.record rfl
        · exact Quiet.pure _
  · exact Quiet.pure _

theorem putOrReport_quiet (playId : String) (form : Form) (value : Value) :
    Quiet (putOrReport a playId form value) := by
  unfold putOrReport
  split
  · exact Quiet.record rfl
  · exact Quiet.emit rfl _
  · split
    · exact Quiet.throw _
    · split
      · exact Quiet.bind (Quiet.record rfl) fun _ => Quiet.record rfl
      · exact Quiet.emit rfl _

theorem storeTick_quiet (playId : String) (tick : Value) :
    Quiet (storeTick a playId tick) := by
  refine Quiet.bind (Quiet.operate _) fun frame => ?_
  refine Quiet.bind (logFirstFrame_quiet a frame) fun _ => ?_
  refine Quiet.bind (Quiet.operate _) fun storeTick => ?_
  refine Quiet.bind (Quiet.operate _) fun excludedIgnorableTick => ?_
  exact Quiet.bind (putOrReport_quiet a _ _ _) fun _ => putOrReport_quiet a _ _ _

theorem storeStartPoint_quiet (playId : String) (startPoint : Value) :
    Quiet (storeStartPoint a playId startPoint) := by
  refine Quiet.bind (Quiet.operate _) fun frame => ?_
  exact Quiet.bind (logFirstFrame_quiet a frame) fun _ => putOrReport_quiet a _ _ _

/-- A put that returns leaves its evidence, unless a listener swallows its failure. -/
theorem putOrReport_ok (escalates : a.onError ≠ .returns) (playId : String)
    (form : Form) (value : Value) (trace trace' : List Happening)
    (run : putOrReport a playId form value trace = .ok () trace') :
    Evidence playId form value trace' := by
  unfold putOrReport at run
  cases put : a.put form with
  | resolved =>
    rw [put] at run
    cases run
    exact .inl (mem_append_right _ (mem_singleton_self _))
  | failed =>
    rw [put] at run
    cases listener : a.onError with
    | returns => exact absurd listener escalates
    | throws | exits =>
      rw [listener] at run
      cases run
  | conflict =>
    rw [put] at run
    cases stored : a.stored form with
    | none =>
      rw [stored] at run
      cases run
    | some storedValue =>
      rw [stored] at run
      dsimp only at run
      by_cases equal : a.lib.deepEqual storedValue value = true
      · rw [if_pos equal] at run
        cases run
        refine .inr (.inl (mem_append_left _ (mem_append_right _ ?_)))
        exact mem_singleton_self _
      · rw [if_neg equal] at run
        obtain ⟨_, trace₁, recorded, rest⟩ := bind_eq_ok.mp run
        cases recorded
        have here : Evidence playId form value
            (trace ++ [Happening.conflicted playId form storedValue value]) :=
          .inr (.inr ⟨storedValue, mem_append_right _ (mem_singleton_self _)⟩)
        cases listener : a.onConflicted form with
        | returns =>
          rw [listener] at rest
          cases rest
          exact here
        | throws | exits =>
          rw [listener] at rest
          cases rest

theorem operate_ok {α : Type} {result : Except TypeError α} {trace trace' : List Happening} {b : α}
    (run : operate result trace = .ok b trace') : result = .ok b ∧ trace' = trace := by
  cases result with
  | ok a =>
    cases run
    exact ⟨rfl, rfl⟩
  | error err => cases run

theorem storeTick_ok (escalates : a.onError ≠ .returns) (playId : String)
    (tick : Value) (trace trace' : List Happening)
    (run : storeTick a playId tick trace = .ok () trace') :
    (∃ value, removeTargetEvents a.lib tick [a.lib.eventFlagsMask.transient] = .ok value ∧
      Evidence playId .original value trace') ∧ ∃ value, removeTargetEvents a.lib tick
        [a.lib.eventFlagsMask.transient, a.lib.eventFlagsMask.ignorable] = .ok value ∧
      Evidence playId .excludedIgnorable value trace' := by
  obtain ⟨frame, trace₁, -, run⟩ := bind_eq_ok.mp run
  obtain ⟨_, trace₂, -, run⟩ := bind_eq_ok.mp run
  obtain ⟨original, trace₃, removed, run⟩ := bind_eq_ok.mp run
  obtain ⟨excluded, trace₄, removed', run⟩ := bind_eq_ok.mp run
  obtain ⟨_, trace₅, stored, stored'⟩ := bind_eq_ok.mp run
  constructor
  · refine ⟨original, (operate_ok removed).1, ?_⟩
    have evidence := putOrReport_ok a escalates playId _ _ _ _ stored
    obtain ⟨made, eq, -⟩ := putOrReport_quiet a playId .excludedIgnorable excluded trace₅
    have grown : trace' = trace₅ ++ made := by
      rw [← eq]
      exact (congrArg stateOf stored').symm
    rw [grown]
    exact evidence.append made
  · refine ⟨excluded, (operate_ok removed').1, ?_⟩
    exact putOrReport_ok a escalates playId _ _ _ _ stored'

theorem storeStartPoint_ok (escalates : a.onError ≠ .returns) (playId : String)
    (startPoint : Value) (trace trace' : List Happening)
    (run : storeStartPoint a playId startPoint trace = .ok () trace') :
    Evidence playId .startPoint startPoint trace' := by
  obtain ⟨frame, trace₁, -, run⟩ := bind_eq_ok.mp run
  obtain ⟨_, trace₂, -, run⟩ := bind_eq_ok.mp run
  exact putOrReport_ok a escalates playId _ _ _ _ run

end PlaylogQueueConsumer

namespace Delivery

def playId (d : Delivery) : Option String :=
  match d.source with
  | .tick playId | .startPoint playId => some playId
  | .tickDeadLetter playId | .startPointDeadLetter playId => playId.filter fun id => id ≠ ""

def decoded (a : Answers) (d : Delivery) : Option Value :=
  match d.source with
  | .tick _ | .tickDeadLetter _ => decodeTick a.lib d.content
  | .startPoint _ | .startPointDeadLetter _ => decodeStartPoint a.lib d.content

def forms (d : Delivery) : List Form :=
  match d.source with
  | .tick _ | .tickDeadLetter _ => [.original, .excludedIgnorable]
  | .startPoint _ | .startPointDeadLetter _ => [.startPoint]

def valueOf (lib : Library) (message : Value) : Form → Except TypeError Value
  | .original => removeTargetEvents lib message [lib.eventFlagsMask.transient]
  | .excludedIgnorable =>
    removeTargetEvents lib message [lib.eventFlagsMask.transient, lib.eventFlagsMask.ignorable]
  | .startPoint => .ok message

/-- Every form of the message is in the store, or is reported as conflicting. -/
def Kept (a : Answers) (d : Delivery) (trace : List Happening) : Prop :=
  ∃ playId message, d.playId = some playId ∧ d.decoded a = some message ∧
    ∀ form ∈ d.forms, ∃ value, valueOf a.lib message form = .ok value ∧
      Evidence playId form value trace

/-- The message is settled once on the channel that delivered it, and is
acknowledged only after it is kept; without a settlement the broker returns it
to the queue, since the channel is lost or the process ended. -/
def Settles (a : Answers) (d : Delivery) (result : EStateM.Result Interrupt (List Happening) Unit) :
    Prop :=
  (settlements (stateOf result) = [.ack d.channel] ∧
    ∃ before after, stateOf result = before ++ .ack d.channel :: after ∧
      Kept a d before) ∨
  settlements (stateOf result) = [.nack d.channel true] ∨
  settlements (stateOf result) = [] ∧
    (a.isOpen d.channel = false ∨ result = .error .exited (stateOf result))

/-- The message is acknowledged once where its channel is open, and nothing is asked of the
store. -/
def Discards (a : Answers) (d : Delivery) (trace : List Happening) : Prop :=
  settlements trace = (if a.isOpen d.channel then [.ack d.channel] else []) ∧
    ∀ happening ∈ trace, happening = .log .warn ∨ happening = .ack d.channel

def Current (a : Answers) (d : Delivery) : Prop :=
  ∀ lookup, a.getChannel lookup = some d.channel ∨
    a.getChannel lookup = none ∧ a.isOpen d.channel = false

theorem settlements_snoc (trace : List Happening) (none : settlements trace = [])
    (happening : Happening) (settles : happening.isSettlement = true) :
    settlements (trace ++ [happening]) = [happening] := by
  rw [settlements_append, none, settlements, filter_cons, settles]
  rfl

variable {body handler : HandlingM Unit} {trace trace' : List Happening}

theorem catching_ok (run : body trace = .ok () trace') :
    catching body handler trace = .ok () trace' := by
  rw [catching, run]

theorem catching_thrown (run : body trace = .error .thrown trace') :
    catching body handler trace = handler trace' := by
  rw [catching, run]

theorem catching_exited (run : body trace = .error .exited trace') :
    catching body handler trace = .error .exited trace' := by
  rw [catching, run]

open AMQPPlaylogStoreQueue

theorem settle_open {a : Answers} {channel : Nat} (isOpen : a.isOpen channel = true)
    (settlement : Happening) (trace : List Happening) :
    settle a channel settlement trace = .ok () (trace ++ [settlement]) := by
  rw [settle, if_pos isOpen]
  rfl

theorem settle_closed {a : Answers} {channel : Nat} (closed : ¬ a.isOpen channel = true)
    (settlement : Happening) (trace : List Happening) :
    settle a channel settlement trace = .error .thrown trace := by
  rw [settle, if_neg closed]
  rfl

section

variable (a : Answers)
include a

variable (d : Delivery)

theorem settles_of_nack (trace : List Happening)
    (none : settlements trace = []) :
    Settles a d ((settle a d.channel (.nack d.channel true) >>= fun _ =>
      emit .queueError a.onQueueError) trace) := by
  rw [bind_run]
  by_cases isOpen : a.isOpen d.channel = true
  · rw [settle_open isOpen]
    have emits : Quiet (emit .queueError a.onQueueError) := Quiet.emit rfl a.onQueueError
    obtain ⟨made, eq, quiet⟩ := emits (trace ++ [Happening.nack d.channel true])
    refine .inr (.inl ?_)
    dsimp only
    rw [eq, settlements_append, settlements_snoc trace none _ rfl, quiet]
    rfl
  · rw [settle_closed isOpen]
    exact .inr (.inr ⟨none, .inl (Bool.eq_false_iff.mpr isOpen)⟩)

/-- A callback that keeps the message when it returns settles it. -/
theorem onMessage_settles (lookup : Nat) (current : Current a d)
    (decode : List UInt8 → Option Value) (callback : Value → HandlingM Unit)
    (message : Value) (decodes : decode d.content = some message) (quiet : Quiet (callback message))
    (keeps : ∀ trace trace', callback message trace = .ok () trace' → Kept a d trace') :
    Settles a d (onMessage a lookup decode callback d.content []) := by
  unfold onMessage getChannel
  rcases current lookup with found | ⟨lost, closed⟩
  · simp only [found, decodes, bind_run, pure_run]
    obtain ⟨made, eq, none⟩ := quiet []
    rw [nil_append] at eq
    cases run : callback message [] with
    | ok _ trace =>
      rw [run, stateOf_ok] at eq
      subst eq
      have body : (callback message >>= fun _ => settle a d.channel (.ack d.channel)) [] =
          settle a d.channel (.ack d.channel) trace := by
        rw [bind_run, run]
      by_cases isOpen : a.isOpen d.channel = true
      · rw [settle_open isOpen] at body
        rw [catching_ok body]
        refine .inl ⟨settlements_snoc trace none _ rfl, trace, [], rfl, ?_⟩
        exact keeps [] trace run
      · rw [settle_closed isOpen] at body
        rw [catching_thrown body]
        exact settles_of_nack a d trace none
    | error why trace =>
      rw [run, stateOf_error] at eq
      subst eq
      have body : (callback message >>= fun _ => settle a d.channel (.ack d.channel)) [] =
          .error why trace := by
        rw [bind_run, run]
      cases why with
      | exited =>
        rw [catching_exited body]
        exact .inr (.inr ⟨none, .inr rfl⟩)
      | thrown =>
        rw [catching_thrown body]
        exact settles_of_nack a d trace none
  · rw [lost]
    exact .inr (.inr ⟨rfl, .inl closed⟩)

theorem onTickMessage_settles (escalates : a.onError ≠ .returns) (d : Delivery)
    (current : Current a d) (lookup : Nat) (playId : String) (tick : Value)
    (isPlay : d.playId = some playId) (isTick : d.forms = [.original, .excludedIgnorable])
    (decoded : d.decoded a = decodeTick a.lib d.content)
    (decodes : decodeTick a.lib d.content = some tick) :
    Settles a d (onTickMessage a lookup playId d.content []) := by
  refine onMessage_settles a d lookup current _ _ tick decodes
    (PlaylogQueueConsumer.storeTick_quiet a playId tick) fun trace trace' run => ?_
  obtain ⟨original, excluded⟩ :=
    PlaylogQueueConsumer.storeTick_ok a escalates playId tick trace trace' run
  refine ⟨playId, tick, isPlay, decoded.trans decodes, fun form there => ?_⟩
  rw [isTick, mem_cons, mem_singleton] at there
  rcases there with rfl | rfl
  · exact original
  · exact excluded

theorem onStartPointMessage_settles (escalates : a.onError ≠ .returns)
    (d : Delivery) (current : Current a d) (lookup : Nat) (playId : String) (startPoint : Value)
    (isPlay : d.playId = some playId) (isStartPoint : d.forms = [.startPoint])
    (decoded : d.decoded a = decodeStartPoint a.lib d.content)
    (decodes : decodeStartPoint a.lib d.content = some startPoint) :
    Settles a d (onStartPointMessage a lookup playId d.content []) := by
  refine onMessage_settles a d lookup current _ _ startPoint decodes
    (PlaylogQueueConsumer.storeStartPoint_quiet a playId startPoint) fun trace trace' run => ?_
  refine ⟨playId, startPoint, isPlay, decoded.trans decodes, fun form there => ?_⟩
  rw [isStartPoint, mem_singleton] at there
  subst there
  exact ⟨startPoint, rfl,
    PlaylogQueueConsumer.storeStartPoint_ok a escalates playId startPoint trace trace' run⟩

theorem onDeadLetter_settles (current : Current a d)
    (header : Option String) (onPlayMessage : String → HandlingM Unit) (playId : String)
    (isPlay : header.filter (fun id => id ≠ "") = some playId)
    (settles : Settles a d (onPlayMessage playId [])) :
    Settles a d (onDeadLetter a header onPlayMessage []) := by
  obtain ⟨rfl, nonempty⟩ := Option.filter_eq_some_iff.mp isPlay
  rw [decide_eq_true_eq] at nonempty
  unfold onDeadLetter getChannel
  rcases current 0 with found | ⟨lost, closed⟩
  · simp only [found, bind_run, pure_run]
    exact settles
  · rw [lost]
    exact .inr (.inr ⟨rfl, .inl closed⟩)

/-- Handling a message that belongs to a play and can be decoded settles it. -/
theorem handle_settles_of_play (escalates : a.onError ≠ .returns) (d : Delivery)
    (current : Current a d) (playId : String) (isPlay : d.playId = some playId) (message : Value)
    (decodes : d.decoded a = some message) : Settles a d (d.handle a []) := by
  rcases d with ⟨source, channel, content⟩
  cases source with
  | tick id =>
    cases isPlay
    exact onTickMessage_settles a escalates _ current 0 playId message rfl rfl rfl decodes
  | startPoint id =>
    cases isPlay
    exact onStartPointMessage_settles a escalates _ current 0 playId message rfl rfl rfl decodes
  | tickDeadLetter header =>
    refine onDeadLetter_settles a _ current header _ playId isPlay ?_
    exact onTickMessage_settles a escalates _ current 1 playId message isPlay rfl rfl decodes
  | startPointDeadLetter header =>
    refine onDeadLetter_settles a _ current header _ playId isPlay ?_
    exact onStartPointMessage_settles a escalates _ current 1 playId message isPlay rfl rfl
      decodes

theorem onDeadLetter_discards (current : Current a d)
    (header : Option String) (onPlayMessage : String → HandlingM Unit)
    (noPlay : header.filter (fun id => id ≠ "") = none) :
    Discards a d (stateOf (onDeadLetter a header onPlayMessage [])) := by
  have falsy : header = none ∨ header = some "" := by
    cases header with
    | none => exact .inl rfl
    | some id =>
      rw [Option.filter_some] at noPlay
      by_cases empty : id = ""
      · exact .inr (congrArg some empty)
      · rw [if_pos (decide_eq_true empty)] at noPlay
        cases noPlay
  have disposes (found : a.getChannel 0 = some d.channel) :
      stateOf (onDeadLetter a header onPlayMessage []) =
        .log .warn :: if a.isOpen d.channel then [.ack d.channel] else [] := by
    unfold onDeadLetter getChannel
    by_cases isOpen : a.isOpen d.channel = true
    · rcases falsy with rfl | rfl
      all_goals
        simp only [found, bind_run, pure_run, record, modify_run, settle_open isOpen, if_pos isOpen]
        rfl
    · rcases falsy with rfl | rfl
      all_goals
        simp only [found, bind_run, pure_run, record, modify_run, settle_closed isOpen,
          if_neg isOpen]
        rfl
  rcases current 0 with found | ⟨lost, closed⟩
  · unfold Discards
    rw [disposes found]
    cases a.isOpen d.channel with
    | true => exact ⟨rfl, by simp⟩
    | false => exact ⟨rfl, by simp⟩
  · unfold Discards onDeadLetter getChannel
    rw [lost, if_neg (Bool.eq_false_iff.mp closed)]
    exact ⟨rfl, fun _ nothing => (not_mem_nil nothing).elim⟩

/-- A dead letter without a play id is acknowledged unstored. -/
theorem handle_discards (current : Current a d) (noPlay : d.playId = none) :
    Discards a d (stateOf (d.handle a [])) := by
  rcases d with ⟨source, channel, content⟩
  cases source with
  | tick id | startPoint id => cases noPlay
  | tickDeadLetter header | startPointDeadLetter header =>
    exact onDeadLetter_discards a _ current header _ noPlay

end

/-- A message of a play is settled once and acknowledged only after it is kept; a
dead letter without a play is discarded. -/
theorem handle_settles (a : Answers) (d : Delivery) (current : Current a d) :
    (a.onError ≠ .returns → d.playId ≠ none → d.decoded a ≠ none → Settles a d (d.handle a [])) ∧
    (d.playId = none → Discards a d (stateOf (d.handle a []))) := by
  constructor
  · intro escalates hasPlay decodes
    obtain ⟨playId, isPlay⟩ := Option.ne_none_iff_exists'.mp hasPlay
    obtain ⟨message, decoded⟩ := Option.ne_none_iff_exists'.mp decodes
    exact handle_settles_of_play a escalates d current playId isPlay message decoded
  · exact handle_discards a d current

/-- Numbers below 128 are encoded as one byte; the second form conflicts. -/
def conflictingAnswers : Answers where
  lib := {
    decode := fun bytes =>
      match bytes with
      | [byte] => if byte < 128 then some (.number byte.toNat) else none
      | _ => none
    toInt32 := fun _ => .ok 0
    deepEqual := fun storedValue _ => storedValue.isSome
    eventFlagsMask := ⟨4, 8⟩
  }
  getChannel := fun _ => some 1
  isOpen := fun _ => true
  getStarted := some (some 0)
  getNow := 0
  put := fun form => if form = .excludedIgnorable then .conflict else .resolved
  stored := fun _ => some none
  onError := .exits
  onConflicted := fun _ => .returns
  onQueueError := .exits

theorem handle_settles_conflicting : Settles conflictingAnswers ⟨.tick "1", 1, [7]⟩
        (handle conflictingAnswers ⟨.tick "1", 1, [7]⟩ []) ∧
    Discards conflictingAnswers ⟨.tickDeadLetter none, 1, [7]⟩
      (stateOf (handle conflictingAnswers ⟨.tickDeadLetter none, 1, [7]⟩ [])) :=
  ⟨(handle_settles conflictingAnswers ⟨.tick "1", 1, [7]⟩ fun _ => .inl rfl).1
      (fun eq => nomatch eq) (fun eq => nomatch eq) (fun eq => nomatch eq),
    (handle_settles conflictingAnswers ⟨.tickDeadLetter none, 1, [7]⟩ fun _ => .inl rfl).2 rfl⟩

/-- A dead letter without a play id is acknowledged, and nothing of it is kept. -/
theorem headerless_not_kept : ¬ ∀ (a : Answers) (d : Delivery), Settles a d (d.handle a []) := by
  intro claimed
  have discarded : settlements _ = [.ack 1] :=
    (handle_discards conflictingAnswers ⟨.tickDeadLetter none, 1, [7]⟩ (fun _ => .inl rfl) rfl).1
  rcases claimed conflictingAnswers ⟨.tickDeadLetter none, 1, [7]⟩ with acked | nacked | unsettled
  · obtain ⟨-, before, after, -, playId, message, isPlay, -⟩ := acked
    cases isPlay
  · rw [discarded] at nacked
    cases nacked
  · rw [discarded] at unsettled
    cases unsettled.1

end Delivery
end AkashicSystem.Playlog
