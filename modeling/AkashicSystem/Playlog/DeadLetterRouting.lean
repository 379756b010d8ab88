import AkashicSystem.Js.Computation
import AkashicSystem.Lib.Broker
import AkashicSystem.Lib.Run

/-!
# Where dead letters go

`prepares.ts`, `constants.ts` and the consumers of `AMQPPlaylogStoreQueue`: the
store queues of a play dead-letter to an exchange for each kind, to which the
queue of the kind is bound.  The two dead letter queues have one name, so one
queue gets both kinds and the consumers of both.
-/

set_option autoImplicit false

namespace AkashicSystem.Playlog.DeadLetters

open AkashicSystem.Js Computation Broker
open Run (Allowed final final_cons)

inductive Kind where
  | tick
  | startPoint
deriving DecidableEq

def tickStoreQueueNamePrefix : String := "playlog_store_queue_ticks."
def startPointStoreQueueNamePrefix : String := "playlog_store_queue_startpoint."
def tickStoreDeadLetterQueueName : String := "playlog_store_dead_letter_queue_ticks"
def startPointStoreDeadLetterQueueName : String := "playlog_store_dead_letter_queue_ticks"
def tickDlxName : String := "playlog_ticks_dlx"
def startPointDlxName : String := "playlog_startpoint_dlx"

/-- `getQueueNames`. -/
def storeQueueName (playId : String) : Kind → String
  | .tick => tickStoreQueueNamePrefix ++ playId
  | .startPoint => startPointStoreQueueNamePrefix ++ playId

def deadLetterQueueName : Kind → String
  | .tick => tickStoreDeadLetterQueueName
  | .startPoint => startPointStoreDeadLetterQueueName

def dlxName : Kind → String
  | .tick => tickDlxName
  | .startPoint => startPointDlxName

structure Message (Content : Type) where
  kind : Kind
  playId : Option String
  content : Content
  /-- The header `x-death`, which the broker sets on a dead letter. -/
  dead : Bool
deriving DecidableEq

inductive Handler where
  /-- `onTickMessage` or `onStartPointMessage` of a play. -/
  | store (kind : Kind) (playId : String)
  /-- `onTickDeadLetter` or `onStartPointDeadLetter`. -/
  | deadLetter (kind : Kind)
deriving DecidableEq

def died {Content : Type} (message : Message Content) : Message Content :=
  { message with dead := true }

variable {Content : Type}

abbrev PlaylogBroker (Content : Type) := Broker String Nat Handler (Message Content)

/-- A call on a channel throws where the broker refuses it. -/
abbrev ChannelM (Content α : Type) := Computation Unit (PlaylogBroker Content) α

def call (operation : PlaylogBroker Content → Option (PlaylogBroker Content)) :
    ChannelM Content Unit := fun b =>
  match operation b with
  | some b' => .ok () b'
  | none => .error () b

variable (queueName : Kind → String)

/-- The code gives `deadLetterQueueName` for the names of the dead letter queues. -/
def prepareDlx : ChannelM Content Unit := do
  modify fun b => b.assertExchange tickDlxName
  modify fun b => b.assertExchange startPointDlxName
  call fun b => b.assertQueue (queueName .tick) none
  call fun b => b.assertQueue (queueName .startPoint) none
  call fun b => b.bindQueue (queueName .tick) tickDlxName
  call fun b => b.bindQueue (queueName .startPoint) startPointDlxName

def prepareStoreQueue (playId : String) : ChannelM Content Unit := do
  call fun b => b.assertQueue (storeQueueName playId .tick) (some tickDlxName)
  call fun b => b.assertQueue (storeQueueName playId .startPoint) (some startPointDlxName)

def subscribeInner (channel : Nat) (playId : String) : ChannelM Content Unit := do
  prepareStoreQueue playId
  call fun b => b.consume ⟨channel, storeQueueName playId .tick, .store .tick playId⟩
  call fun b => b.consume ⟨channel, storeQueueName playId .startPoint, .store .startPoint playId⟩

/-- One of the two calls of `consume` in `subscribeDeadLetterInner`. -/
def consumeDeadLetter (channel : Nat) (kind : Kind) :
    ChannelM Content Unit :=
  call fun b => b.consume ⟨channel, queueName kind, .deadLetter kind⟩

/-- A message without its play is disposed of by the dead letter handlers. -/
def disposed (delivery : Delivery String Nat Handler (Message Content)) : Bool :=
  match delivery.consumer.handler with
  | .store _ _ => false
  | .deadLetter _ => (delivery.message.playId.getD "").isEmpty

/-- A handler acknowledges the message, or gives it back where its callback rejects. -/
def settle (b : PlaylogBroker Content) (index : Nat) (resolved : Bool) : PlaylogBroker Content :=
  match b.unsettled[index]? with
  | none => b
  | some delivery => if disposed delivery || resolved then b.ack index else b.requeue index

structure Service (Content : Type) where
  broker : PlaylogBroker Content
  /-- The channels on which `subscribeDeadLetterInner` waits for its first `consume`. -/
  subscribing : List Nat

def Service.new : Service Content := ⟨empty, []⟩

inductive Action (Content : Type) where
  | start
  | prepareStoreQueue (playId : String)
  | subscribe (channel : Nat) (playId : String)
  | subscribeDeadLetter (channel : Nat)
  /-- The start point's consumer follows that of the ticks. -/
  | continueDeadLetter (channel : Nat)
  | stop (channel : Nat)
  | lose (channel : Nat)
  /-- A tick or start point reaches the store queue of its play. -/
  | publish (kind : Kind) (playId : String) (header : Option String) (content : Content)
  /-- A message expires, or is dropped, in a store queue of a play. -/
  | deadLetter (kind : Kind) (playId : String) (index : Nat)
  | deliver (queue : String)
  | settle (index : Nat) (resolved : Bool)

def run (m : ChannelM Content Unit) (b : PlaylogBroker Content) : PlaylogBroker Content :=
  stateOf (m b)

variable (choice : Nat → Nat)

variable (s : Service Content)

def onBroker :
    Action Content → PlaylogBroker Content
  | .start => run (prepareDlx queueName) s.broker
  | .prepareStoreQueue playId => run (prepareStoreQueue playId) s.broker
  | .subscribe channel playId => run (subscribeInner channel playId) s.broker
  | .subscribeDeadLetter channel => run (consumeDeadLetter queueName channel .tick) s.broker
  | .continueDeadLetter channel =>
    if channel ∈ s.subscribing then
      run (consumeDeadLetter queueName channel .startPoint) s.broker
    else s.broker
  | .stop channel => s.broker.cancel channel
  | .lose channel => s.broker.close channel
  | .publish kind playId header content =>
    s.broker.enqueue (storeQueueName playId kind) ⟨kind, header, content, false⟩
  | .deadLetter kind playId index => s.broker.deadLetter died (storeQueueName playId kind) index
  | .deliver queue => s.broker.deliver choice queue
  | .settle index resolved => settle s.broker index resolved

def next
    (action : Action Content) : Service Content where
  broker := onBroker queueName choice s action
  subscribing :=
    match action with
    | .subscribeDeadLetter channel => s.subscribing ++ [channel]
    | .continueDeadLetter channel => s.subscribing.erase channel
    | .lose channel => s.subscribing.filter fun other => other ≠ channel
    | _ => s.subscribing

/-- Dead letters are handed to the handler of their kind only, and none to two handlers. -/
structure HandledApart (b : PlaylogBroker Content) : Prop where
  own : ∀ delivery ∈ b.handed, delivery.message.dead = true →
    delivery.consumer.handler = .deadLetter delivery.message.kind
  once : ∀ delivery ∈ b.handed, ∀ delivery' ∈ b.handed, delivery.message.dead = true →
    delivery.message = delivery'.message →
    delivery.consumer.handler = delivery'.consumer.handler

/-- A dead letter is delivered only while its queue has consumers of its kind alone. -/
def OwnConsumers : Action Content → Prop
  | .deliver queue => ∀ message, s.broker.first queue = some message → message.dead = true →
      ∀ consumer ∈ s.broker.consumersOf queue, consumer.handler = .deadLetter message.kind
  | _ => True

theorem handledApart_iff_own (b : PlaylogBroker Content) :
    HandledApart b ↔ ∀ delivery ∈ b.handed, delivery.message.dead = true →
      delivery.consumer.handler = .deadLetter delivery.message.kind := by
  constructor
  · exact HandledApart.own
  · intro own
    refine ⟨own, ?_⟩
    intro delivery there delivery' there' dead same
    have dead' : delivery'.message.dead = true := by rw [← same, dead]
    rw [own delivery there dead, own delivery' there' dead', same]

theorem preserves_call {inv : PlaylogBroker Content → Prop}
    {operation : PlaylogBroker Content → Option (PlaylogBroker Content)}
    (kept : ∀ b b', inv b → operation b = some b' → inv b') :
    Preserves inv (call operation) := by
  intro b before
  rw [call]
  cases answer : operation b with
  | none => exact before
  | some b' => exact kept b b' before answer

section Preserving

variable {inv : PlaylogBroker Content → Prop}

theorem preserves_prepareDlx (queueName : Kind → String)
    (exchanges : ∀ b kind, inv b → inv (b.assertExchange (dlxName kind)))
    (queues : ∀ kind, Preserves inv (call fun b => b.assertQueue (queueName kind) none))
    (bindings : ∀ kind,
      Preserves inv (call fun b => b.bindQueue (queueName kind) (dlxName kind))) :
    Preserves inv (prepareDlx queueName) := by
  apply preserves_bind
  · exact preserves_modify fun b before => exchanges b .tick before
  intro _
  apply preserves_bind
  · exact preserves_modify fun b before => exchanges b .startPoint before
  intro _
  apply preserves_bind (queues .tick)
  intro _
  apply preserves_bind (queues .startPoint)
  intro _
  apply preserves_bind (bindings .tick)
  intro _
  exact bindings .startPoint

theorem preserves_prepareStoreQueue (playId : String) (queues : ∀ kind, Preserves inv
      (call fun b => b.assertQueue (storeQueueName playId kind) (some (dlxName kind)))) :
    Preserves inv (prepareStoreQueue playId) := by
  apply preserves_bind (queues .tick)
  intro _
  exact queues .startPoint

theorem preserves_subscribeInner (channel : Nat) (playId : String)
    (prepares : Preserves inv (prepareStoreQueue playId))
    (consumers : ∀ kind, Preserves inv
      (call fun b => b.consume ⟨channel, storeQueueName playId kind, .store kind playId⟩)) :
    Preserves inv (subscribeInner channel playId) := by
  apply preserves_bind prepares
  intro _
  apply preserves_bind (consumers .tick)
  intro _
  exact consumers .startPoint

end Preserving

section Handed

variable (made : List (Delivery String Nat Handler (Message Content)))

private abbrev HandedIs (b : PlaylogBroker Content) : Prop := b.handed = made

theorem assertQueue_handed (name : String) (dlx : Option String) :
    Preserves (HandedIs made) (call fun b => b.assertQueue name dlx) :=
  preserves_call fun b _ before asserted => (b.handed_assertQueue asserted).trans before

theorem bindQueue_handed (name exchange : String) :
    Preserves (HandedIs made) (call fun b => b.bindQueue name exchange) :=
  preserves_call fun b _ before binds => (b.handed_bindQueue binds).trans before

theorem consume_handed (consumer : Consumer String Nat Handler) :
    Preserves (HandedIs made) (call fun b => b.consume consumer) :=
  preserves_call fun b _ before consumes => (b.handed_consume consumes).trans before

theorem prepareDlx_handed (queueName : Kind → String) :
    Preserves (HandedIs made) (prepareDlx queueName) := by
  apply preserves_prepareDlx
  · intro b kind before
    exact (b.handed_assertExchange _).trans before
  · exact fun kind => assertQueue_handed made _ _
  · exact fun kind => bindQueue_handed made _ _

theorem prepareStoreQueue_handed (playId : String) :
    Preserves (HandedIs made) (prepareStoreQueue playId) := by
  apply preserves_prepareStoreQueue
  exact fun kind => assertQueue_handed made _ _

theorem subscribeInner_handed (channel : Nat) (playId : String) :
    Preserves (HandedIs made) (subscribeInner channel playId) := by
  apply preserves_subscribeInner channel playId (prepareStoreQueue_handed made playId)
  exact fun kind => consume_handed made _

end Handed

theorem onBroker_handed
    (action : Action Content) (other : ∀ queue, action ≠ .deliver queue) :
    (onBroker queueName choice s action).handed = s.broker.handed := by
  cases action with
  | start => exact prepareDlx_handed _ queueName s.broker rfl
  | prepareStoreQueue playId => exact prepareStoreQueue_handed _ playId s.broker rfl
  | subscribe channel playId => exact subscribeInner_handed _ channel playId s.broker rfl
  | subscribeDeadLetter channel => exact consume_handed _ _ s.broker rfl
  | continueDeadLetter channel =>
    rw [onBroker]
    split
    · exact consume_handed _ _ s.broker rfl
    · rfl
  | stop channel => rfl
  | lose channel => exact s.broker.handed_close channel
  | publish kind playId header content => rfl
  | deadLetter kind playId index => exact s.broker.handed_deadLetter _ _ _
  | deliver queue => exact absurd rfl (other queue)
  | settle index resolved =>
    rw [onBroker, settle]
    split
    · rfl
    · split
      · rfl
      · exact s.broker.handed_requeue index

section Choices

variable (queueName : Kind → String) (choice : Nat → Nat)

theorem next_broker_handed (s : Service Content) (action : Action Content) :
    ∃ made, (next queueName choice s action).broker.handed = s.broker.handed ++ made := by
  by_cases delivers : ∃ queue, action = .deliver queue
  · obtain ⟨queue, rfl⟩ := delivers
    exact s.broker.handed_deliver choice queue
  · refine ⟨[], ?_⟩
    rw [List.append_nil]
    exact onBroker_handed queueName choice s action fun queue eq => delivers ⟨queue, eq⟩

theorem final_broker_handed (s : Service Content) (actions : List (Action Content)) :
    ∃ made, (final (next queueName choice) s actions).broker.handed =
      s.broker.handed ++ made := by
  induction actions generalizing s with
  | nil => exact ⟨[], (List.append_nil _).symm⟩
  | cons action rest ih =>
    obtain ⟨first, now⟩ := next_broker_handed queueName choice s action
    obtain ⟨later, eq⟩ := ih (next queueName choice s action)
    refine ⟨first ++ later, ?_⟩
    rw [final_cons, eq, now, List.append_assoc]

theorem next_congr {choice choice' : Nat → Nat} (s : Service Content) (action : Action Content)
    (agree : ∀ n, n < (next queueName choice s action).broker.handed.length →
      choice' n = choice n) : next queueName choice' s action = next queueName choice s action := by
  cases action with
  | deliver queue =>
    have same : s.broker.deliver choice' queue = s.broker.deliver choice queue :=
      s.broker.deliver_congr choice choice' queue fun made => agree _ made
    simp only [next, onBroker, same]
  | _ => rfl

theorem final_congr {choice choice' : Nat → Nat} (s : Service Content)
    (actions : List (Action Content))
    (agree : ∀ n, n < (final (next queueName choice) s actions).broker.handed.length →
      choice' n = choice n) :
    final (next queueName choice') s actions = final (next queueName choice) s actions := by
  induction actions generalizing s with
  | nil => rfl
  | cons action rest ih =>
    obtain ⟨later, eq⟩ :=
      final_broker_handed queueName choice (next queueName choice s action) rest
    have now : next queueName choice' s action = next queueName choice s action := by
      apply next_congr
      intro n made
      apply agree
      rw [final_cons, eq, List.length_append]
      omega
    rw [final_cons, final_cons, now]
    exact ih _ agree

theorem ownConsumers_of_handedApart (s : Service Content) (front : List (Action Content))
    (action : Action Content) (apart : ∀ choice,
      HandledApart (final (next queueName choice) s (front ++ [action])).broker) :
    OwnConsumers (final (next queueName choice) s front) action := by
  cases action with
  | deliver queue =>
    intro message first dead consumer there
    let reached := final (next queueName choice) s front
    obtain ⟨n, chosen⟩ := reached.broker.exists_choice first there
    let choice' : Nat → Nat := Function.update choice reached.broker.handed.length n
    have same : final (next queueName choice') s front = reached := by
      apply final_congr
      intro m before
      exact Function.update_of_ne (Nat.ne_of_lt before) n choice
    have handed := chosen choice' (Function.update_self _ _ _)
    have last := (apart choice').own ⟨consumer, message⟩
    rw [Run.final_append, same, final_cons, Run.final_nil] at last
    refine last ?_ dead
    show _ ∈ (reached.broker.deliver choice' queue).handed
    rw [handed]
    exact List.mem_append_right _ (List.mem_singleton_self _)
  | _ => trivial

theorem handledApart_next (s : Service Content) (action : Action Content)
    (before : HandledApart s.broker) (own : OwnConsumers s action) :
    HandledApart (next queueName choice s action).broker := by
  rw [handledApart_iff_own] at before ⊢
  by_cases delivers : ∃ queue, action = .deliver queue
  · obtain ⟨queue, rfl⟩ := delivers
    intro delivery there
    rcases s.broker.deliver_cases choice queue with same |
      ⟨message, consumer, first, inside, handed⟩
    · rw [show (next queueName choice s (.deliver queue)).broker = s.broker from same] at there
      exact before delivery there
    · change delivery ∈ (s.broker.deliver choice queue).handed at there
      rw [handed] at there
      rcases List.mem_append.mp there with old | new
      · exact before delivery old
      · rw [List.mem_singleton.mp new]
        exact fun dead => own message first dead consumer inside
  · intro delivery there
    have same := onBroker_handed queueName choice s action fun queue eq => delivers ⟨queue, eq⟩
    rw [show (next queueName choice s action).broker.handed = s.broker.handed from same] at there
    exact before delivery there

/-- Whatever the broker chooses, the dead letters of a run are handled apart exactly if none is
delivered while its queue has a consumer of the other kind. -/
theorem handledApart_iff (actions : List (Action Content)) : (∀ choice, ∀ front, front <+: actions →
      HandledApart (final (next queueName choice) Service.new front).broker) ↔
      ∀ choice, Allowed (next queueName choice) OwnConsumers Service.new actions := by
  constructor
  · intro apart choice
    apply Run.allowed_of_prefix
    intro front action before
    apply ownConsumers_of_handedApart
    exact fun choice' => apart choice' (front ++ [action]) before
  · intro own choice front before
    obtain ⟨back, rfl⟩ := before
    have ownFront := ((Run.allowed_append _ front back).mp (own choice)).1
    refine Run.invariant (handledApart_next queueName choice) _ front ?_ ownFront
    refine (handledApart_iff_own _).mpr fun delivery there => ?_
    exact (List.not_mem_nil there).elim

end Choices

theorem take_storeQueueName (playId : String) (kind : Kind) :
    (storeQueueName playId kind).toList.take 21 =
      "playlog_store_queue_".toList ++ [if kind = .tick then 't' else 's'] := by
  cases kind with
  | tick | startPoint => rw [storeQueueName, String.toList_append]; rfl

theorem kind_of_storeQueueName {playId playId' : String} {kind kind' : Kind}
    (same : storeQueueName playId kind = storeQueueName playId' kind') : kind = kind' := by
  have taken := take_storeQueueName playId kind
  rw [same, take_storeQueueName] at taken
  have last := List.append_cancel_left taken
  cases kind <;> cases kind' <;> first | rfl | exact absurd last (by decide)

theorem deadLetterQueueName_ne (kind kind' : Kind) (playId : String) :
    deadLetterQueueName kind ≠ storeQueueName playId kind' := by
  intro same
  have taken := take_storeQueueName playId kind'
  rw [← same] at taken
  cases kind <;> cases kind' <;> exact absurd taken (by decide)

theorem kind_of_dlxName {kind kind' : Kind} (same : dlxName kind = dlxName kind') :
    kind = kind' := by
  cases kind <;> cases kind' <;> first | rfl | exact absurd same (by decide)

/-- The queues of a play hold its messages, and the dead letter queues the dead ones. -/
def layout (Content : Type) (queueName : Kind → String) :
    Topology String Handler (Message Content) where
  queue name dlx :=
    (∃ kind playId, name = storeQueueName playId kind ∧ dlx = some (dlxName kind)) ∨
      ∃ kind, name = queueName kind ∧ dlx = none
  bound exchange name := ∃ kind, exchange = dlxName kind ∧ name = queueName kind
  placed name message :=
    if message.dead then name = queueName message.kind
    else ∃ playId, name = storeQueueName playId message.kind
  served name handler :=
    match handler with
    | .store kind playId => name = storeQueueName playId kind
    | .deadLetter kind => name = queueName kind

section Topology

variable {queueName : Kind → String}
variable (apart : ∀ kind kind' playId, queueName kind ≠ storeQueueName playId kind')

private abbrev Laid (queueName : Kind → String) (b : PlaylogBroker Content) : Prop :=
  Respects (layout Content queueName) b

theorem prepareDlx_laid :
    Preserves (Laid queueName : PlaylogBroker Content → Prop) (prepareDlx queueName) := by
  apply preserves_prepareDlx
  · intro b kind before
    exact respects_assertExchange before _
  · intro kind
    apply preserves_call
    intro b b' before asserted
    exact respects_assertQueue before (Or.inr ⟨kind, rfl, rfl⟩) asserted
  · intro kind
    apply preserves_call
    intro b b' before binds
    exact respects_bindQueue before ⟨kind, rfl, rfl⟩ binds

theorem prepareStoreQueue_laid (playId : String) :
    Preserves (Laid queueName : PlaylogBroker Content → Prop) (prepareStoreQueue playId) := by
  apply preserves_prepareStoreQueue
  intro kind
  apply preserves_call
  intro b b' before asserted
  exact respects_assertQueue before (Or.inl ⟨kind, playId, rfl, rfl⟩) asserted

theorem subscribeInner_laid (channel : Nat) (playId : String) :
    Preserves (Laid queueName : PlaylogBroker Content → Prop)
      (subscribeInner channel playId) := by
  apply preserves_subscribeInner channel playId (prepareStoreQueue_laid playId)
  intro kind
  apply preserves_call
  intro b b' before consumes
  refine respects_consume before ?_ consumes
  exact rfl

theorem consumeDeadLetter_laid (channel : Nat) (kind : Kind) :
    Preserves (Laid queueName : PlaylogBroker Content → Prop)
      (consumeDeadLetter queueName channel kind) := by
  apply preserves_call
  intro b b' before consumes
  refine respects_consume before ?_ consumes
  exact rfl

theorem settle_laid {b : PlaylogBroker Content} (before : Laid queueName b) (index : Nat)
    (resolved : Bool) : Laid queueName (settle b index resolved) := by
  rw [settle]
  split
  · exact before
  · split
    · exact respects_ack before index
    · exact respects_requeue before index

include apart in
theorem placed_died {name name' exchange : String} {message : Message Content}
    (declared : (layout Content queueName).queue name (some exchange))
    (placed : (layout Content queueName).placed name message)
    (bound : (layout Content queueName).bound exchange name') :
    (layout Content queueName).placed name' (died message) := by
  obtain ⟨kind, playId, rfl, dlx⟩ | ⟨_, _, none⟩ := declared
  · obtain ⟨kind', rfl, rfl⟩ := bound
    have sameKind := kind_of_dlxName (Option.some.inj dlx)
    rw [layout] at placed
    dsimp only at placed
    split at placed
    · exact absurd placed.symm (apart _ _ _)
    · obtain ⟨playId', same⟩ := placed
      show queueName kind' = queueName message.kind
      rw [sameKind, kind_of_storeQueueName same]
  · cases none

include apart in
theorem next_laid (choice : Nat → Nat) (s : Service Content) (action : Action Content)
    (before : Laid queueName s.broker) :
    Laid queueName (next queueName choice s action).broker := by
  show Laid queueName (onBroker queueName choice s action)
  cases action with
  | start => exact prepareDlx_laid s.broker before
  | prepareStoreQueue playId => exact prepareStoreQueue_laid playId s.broker before
  | subscribe channel playId => exact subscribeInner_laid channel playId s.broker before
  | subscribeDeadLetter channel => exact consumeDeadLetter_laid channel .tick s.broker before
  | continueDeadLetter channel =>
    rw [onBroker]
    split
    · exact consumeDeadLetter_laid channel .startPoint s.broker before
    · exact before
  | stop channel => exact respects_cancel before channel
  | lose channel => exact respects_close before channel
  | publish kind playId header content =>
    exact respects_enqueue before ⟨playId, rfl⟩
  | deadLetter kind playId index =>
    apply respects_deadLetter before
    intro exchange message declared placed name' bound
    exact placed_died apart declared placed bound
  | deliver queue => exact respects_deliver before choice queue
  | settle index resolved => exact settle_laid before index resolved

end Topology

/-- A dead letter is delivered only while no handler of the other kind consumes. -/
def OneKind : Action Content → Prop
  | .deliver queue => ∀ message, s.broker.first queue = some message → message.dead = true →
      ∀ consumer ∈ s.broker.consumers, ∀ kind, consumer.handler = .deadLetter kind →
        kind = message.kind
  | _ => True

theorem deadLetterQueueName_eq (kind kind' : Kind) :
    deadLetterQueueName kind = deadLetterQueueName kind' := by
  cases kind <;> cases kind' <;> rfl

theorem queue_of_dead {b : PlaylogBroker Content} (laid : Laid deadLetterQueueName b)
    {queue : String} {message : Message Content} (first : b.first queue = some message)
    (dead : message.dead = true) (kind : Kind) : queue = deadLetterQueueName kind := by
  obtain ⟨lies, there, rfl, inside⟩ := mem_of_first first
  have placed := laid.messages lies there message inside
  rw [layout] at placed
  dsimp only at placed
  rw [if_pos dead] at placed
  rw [placed]
  exact deadLetterQueueName_eq _ _

theorem queue_of_deadLetter {b : PlaylogBroker Content} (laid : Laid deadLetterQueueName b)
    {consumer : Consumer String Nat Handler} (there : consumer ∈ b.consumers) (kind : Kind)
    (handles : consumer.handler = .deadLetter kind) :
    consumer.queue = deadLetterQueueName kind := by
  have served := laid.consumers consumer there
  rw [layout, handles] at served
  exact served

/-- All the dead letter consumers there are consume from the queue of a dead letter. -/
theorem ownConsumers_iff_oneKind (laid : Laid deadLetterQueueName s.broker)
    (action : Action Content) : OwnConsumers s action ↔ OneKind s action := by
  cases action with
  | deliver queue =>
    constructor
    · intro own message first dead consumer there kind handles
      have queue' := queue_of_dead laid first dead kind
      have same := queue_of_deadLetter laid there kind handles
      have consumes := mem_consumersOf.mpr ⟨there, same.trans queue'.symm⟩
      have handles' := own message first dead consumer consumes
      rw [handles] at handles'
      exact Handler.deadLetter.inj handles'
    · intro one message first dead consumer consumes
      obtain ⟨there, same⟩ := mem_consumersOf.mp consumes
      cases handles : consumer.handler with
      | store kind playId =>
        have served := laid.consumers consumer there
        rw [layout, handles] at served
        have queue' := queue_of_dead laid first dead .tick
        rw [same, queue'] at served
        exact absurd served (deadLetterQueueName_ne _ _ _)
      | deadLetter kind => rw [one message first dead consumer there kind handles]
  | _ => exact Iff.rfl

theorem allowed_ownConsumers_iff (actions : List (Action Content)) :
    Allowed (next deadLetterQueueName choice) OwnConsumers Service.new actions ↔
      Allowed (next deadLetterQueueName choice) OneKind Service.new actions := by
  have laid (allowed : Service Content → Action Content → Prop) :
      ∀ s action, Laid deadLetterQueueName s.broker → allowed s action →
        Laid deadLetterQueueName (next deadLetterQueueName choice s action).broker :=
    fun s action before _ => next_laid deadLetterQueueName_ne choice s action before
  have start : Laid deadLetterQueueName (Service.new : Service Content).broker :=
    respects_empty _
  constructor
  · apply Allowed.of_invariant (laid OwnConsumers) _ _ actions start
    exact fun s action before own => (ownConsumers_iff_oneKind s before action).mp own
  · apply Allowed.of_invariant (laid OneKind) _ _ actions start
    exact fun s action before one => (ownConsumers_iff_oneKind s before action).mpr one

/-- The dead letters of a run are handled apart, whatever consumer the broker chooses, exactly
if each is delivered while no handler of the other kind consumes. -/
theorem deadLetters_apart_iff (actions : List (Action Content)) :
    (∀ choice, ∀ front, front <+: actions →
      HandledApart (final (next deadLetterQueueName choice) Service.new front).broker) ↔
      ∀ choice, Allowed (next deadLetterQueueName choice) OneKind Service.new actions := by
  rw [handledApart_iff]
  exact forall_congr' fun choice => allowed_ownConsumers_iff choice actions

/-- One service subscribes to the dead letters, and a start point expires. -/
def expiringStartPoint : List (Action Unit) :=
  [.start, .subscribeDeadLetter 1, .continueDeadLetter 1, .prepareStoreQueue "7",
    .publish .startPoint "7" (some "7") (), .deadLetter .startPoint "7" 0,
    .deliver tickStoreDeadLetterQueueName]

theorem expiringStartPoint_handed :
    (final (next deadLetterQueueName fun _ => 0) Service.new expiringStartPoint).broker.handed =
      [⟨⟨1, tickStoreDeadLetterQueueName, .deadLetter .tick⟩,
        ⟨.startPoint, some "7", (), true⟩⟩] := by
  decide +kernel

/-- The tick handler is handed a start point. -/
theorem startPoint_handed_to_tick : ¬ ∀ (choice : Nat → Nat) (actions : List (Action Unit)),
      HandledApart (final (next deadLetterQueueName choice) Service.new actions).broker := by
  intro apart
  have own := (apart (fun _ => 0) expiringStartPoint).own
  rw [expiringStartPoint_handed] at own
  have handler := own _ (List.mem_singleton_self _) rfl
  exact absurd handler (by decide)

end AkashicSystem.Playlog.DeadLetters
