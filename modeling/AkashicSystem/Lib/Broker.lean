import Mathlib.Data.List.Basic

/-!
# A message broker

Fanout exchanges, queues with a dead letter exchange, bindings and consumers.
Which consumer of a queue gets its first message is the broker's choice; the
n-th delivery is made by the n-th choice.  A topology says what is declared, and
what every operation that respects it keeps is proved once.
-/

set_option autoImplicit false

structure Broker.Queue (Name Message : Type) where
  name : Name
  deadLetterExchange : Option Name
  messages : List Message

structure Broker.Consumer (Name Channel Handler : Type) where
  channel : Channel
  queue : Name
  handler : Handler
deriving DecidableEq

structure Broker.Delivery (Name Channel Handler Message : Type) where
  consumer : Broker.Consumer Name Channel Handler
  message : Message
deriving DecidableEq

structure Broker (Name Channel Handler Message : Type) where
  exchanges : List Name
  queues : List (Broker.Queue Name Message)
  bindings : List (Name × Name)
  consumers : List (Broker.Consumer Name Channel Handler)
  /-- The deliveries that are neither acknowledged nor given back. -/
  unsettled : List (Broker.Delivery Name Channel Handler Message)
  handed : List (Broker.Delivery Name Channel Handler Message)

namespace Broker

open List

variable {Name Channel Handler Message : Type}

def empty : Broker Name Channel Handler Message := ⟨[], [], [], [], [], []⟩

section Operations

variable [DecidableEq Name]

variable (b : Broker Name Channel Handler Message)

variable (name : Name)

def findQueue :
    Option (Queue Name Message) :=
  b.queues.find? fun queue => queue.name = name

def assertExchange (exchange : Name) :
    Broker Name Channel Handler Message :=
  if exchange ∈ b.exchanges then b else { b with exchanges := b.exchanges ++ [exchange] }

/-- A queue that is there already must have the same dead letter exchange. -/
def assertQueue
    (deadLetterExchange : Option Name) : Option (Broker Name Channel Handler Message) :=
  match b.findQueue name with
  | none => some { b with queues := b.queues ++ [⟨name, deadLetterExchange, []⟩] }
  | some queue => if queue.deadLetterExchange = deadLetterExchange then some b else none

def bindQueue (name exchange : Name) :
    Option (Broker Name Channel Handler Message) :=
  if exchange ∈ b.exchanges ∧ (b.findQueue name).isSome then
    if (exchange, name) ∈ b.bindings then some b
    else some { b with bindings := b.bindings ++ [(exchange, name)] }
  else none

def consume (consumer : Consumer Name Channel Handler) :
    Option (Broker Name Channel Handler Message) :=
  if (b.findQueue consumer.queue).isSome then
    some { b with consumers := b.consumers ++ [consumer] }
  else none

/-- What the channel consumes is cancelled; its deliveries stay unsettled. -/
def cancel [DecidableEq Channel] (b : Broker Name Channel Handler Message)
    (channel : Channel) : Broker Name Channel Handler Message :=
  { b with consumers := b.consumers.filter fun consumer => consumer.channel ≠ channel }

def update
    (change : List Message → List Message) : Broker Name Channel Handler Message :=
  { b with
    queues := b.queues.map fun queue =>
      if queue.name = name then { queue with messages := change queue.messages } else queue }

def enqueue (message : Message) :
    Broker Name Channel Handler Message :=
  b.update name fun messages => messages ++ [message]

def publish (exchange : Name) (message : Message) :
    Broker Name Channel Handler Message :=
  (b.bindings.filter fun binding => binding.1 = exchange).foldl
    (fun b binding => b.enqueue binding.2 message) b

/-- A message of a queue dies there and goes on to the dead letter exchange. -/
def deadLetter (died : Message → Message) (b : Broker Name Channel Handler Message)
    (name : Name) (index : Nat) : Broker Name Channel Handler Message :=
  match b.findQueue name with
  | none => b
  | some queue =>
    match queue.messages[index]? with
    | none => b
    | some message =>
      let b' := b.update name fun messages => messages.eraseIdx index
      match queue.deadLetterExchange with
      | none => b'
      | some exchange => b'.publish exchange (died message)

def consumersOf :
    List (Consumer Name Channel Handler) :=
  b.consumers.filter fun consumer => consumer.queue = name

def first : Option Message :=
  (b.findQueue name).bind fun queue => queue.messages.head?

def deliver (choice : Nat → Nat) (b : Broker Name Channel Handler Message) (name : Name) :
    Broker Name Channel Handler Message :=
  match b.first name with
  | none => b
  | some message =>
    let consumers := b.consumersOf name
    match consumers[choice b.handed.length % consumers.length]? with
    | none => b
    | some consumer =>
      let b' := b.update name tail
      { b' with
        unsettled := b'.unsettled ++ [⟨consumer, message⟩]
        handed := b'.handed ++ [⟨consumer, message⟩] }

def ack (index : Nat) :
    Broker Name Channel Handler Message :=
  { b with unsettled := b.unsettled.eraseIdx index }

def giveBack
    (delivery : Delivery Name Channel Handler Message) : Broker Name Channel Handler Message :=
  b.update delivery.consumer.queue fun messages => delivery.message :: messages

def requeue (index : Nat) :
    Broker Name Channel Handler Message :=
  match b.unsettled[index]? with
  | none => b
  | some delivery => (b.ack index).giveBack delivery

def close [DecidableEq Channel] (b : Broker Name Channel Handler Message)
    (channel : Channel) : Broker Name Channel Handler Message :=
  let lost := b.unsettled.filter fun delivery => delivery.consumer.channel = channel
  let b' := { b.cancel channel with
    unsettled := b.unsettled.filter fun delivery => delivery.consumer.channel ≠ channel }
  lost.foldr (fun delivery b => b.giveBack delivery) b'

end Operations

/-- What is declared on the broker, and which messages and handlers belong to a queue. -/
structure Topology (Name Handler Message : Type) where
  queue : Name → Option Name → Prop
  bound : Name → Name → Prop
  placed : Name → Message → Prop
  served : Name → Handler → Prop

structure Respects (t : Topology Name Handler Message)
    (b : Broker Name Channel Handler Message) : Prop where
  queues : ∀ queue ∈ b.queues, t.queue queue.name queue.deadLetterExchange
  messages : ∀ queue ∈ b.queues, ∀ message ∈ queue.messages, t.placed queue.name message
  bindings : ∀ binding ∈ b.bindings, t.bound binding.1 binding.2
  consumers : ∀ consumer ∈ b.consumers, t.served consumer.queue consumer.handler
  unsettled : ∀ delivery ∈ b.unsettled, t.placed delivery.consumer.queue delivery.message
  handed : ∀ delivery ∈ b.handed, t.placed delivery.consumer.queue delivery.message ∧
    t.served delivery.consumer.queue delivery.consumer.handler

theorem respects_empty (t : Topology Name Handler Message) :
    Respects t (empty : Broker Name Channel Handler Message) := by
  constructor <;> exact fun _ there => (not_mem_nil there).elim

section Respecting

variable [DecidableEq Name]
variable {t : Topology Name Handler Message} {b : Broker Name Channel Handler Message}

variable {name : Name} {message : Message} {b' : Broker Name Channel Handler Message}

theorem mem_of_findQueue {queue : Queue Name Message} (found : b.findQueue name = some queue) :
    queue ∈ b.queues ∧ queue.name = name := by
  have named := List.find?_some found
  exact ⟨List.mem_of_find?_eq_some found, of_decide_eq_true named⟩

theorem mem_of_first (found : b.first name = some message) :
    ∃ queue ∈ b.queues, queue.name = name ∧ message ∈ queue.messages := by
  obtain ⟨queue, there, head⟩ := Option.bind_eq_some_iff.mp found
  obtain ⟨inQueues, named⟩ := mem_of_findQueue there
  exact ⟨queue, inQueues, named, mem_of_mem_head? head⟩

theorem mem_consumersOf {consumer : Consumer Name Channel Handler} :
    consumer ∈ b.consumersOf name ↔ consumer ∈ b.consumers ∧ consumer.queue = name := by
  rw [consumersOf, mem_filter, decide_eq_true_eq]

section

variable (before : Respects t b)
include before

theorem respects_assertExchange (exchange : Name) : Respects t (b.assertExchange exchange) := by
  rw [assertExchange]
  split
  · exact before
  · exact { before with }

theorem respects_assertQueue {dlx : Option Name}
    (declared : t.queue name dlx) (asserted : b.assertQueue name dlx = some b') :
    Respects t b' := by
  rw [assertQueue] at asserted
  split at asserted
  · cases asserted
    refine { before with queues := ?_, messages := ?_ }
    · intro queue there
      rcases mem_append.mp there with there | there
      · exact before.queues queue there
      · rw [mem_singleton.mp there]
        exact declared
    · intro queue there
      rcases mem_append.mp there with there | there
      · exact before.messages queue there
      · rw [mem_singleton.mp there]
        exact fun _ none => (not_mem_nil none).elim
  · split at asserted
    · cases asserted
      exact before
    · cases asserted

theorem respects_bindQueue {exchange : Name}
    (bound : t.bound exchange name) (binds : b.bindQueue name exchange = some b') :
    Respects t b' := by
  rw [bindQueue] at binds
  split at binds
  · split at binds
    · cases binds
      exact before
    · cases binds
      refine { before with bindings := ?_ }
      intro binding there
      rcases mem_append.mp there with there | there
      · exact before.bindings binding there
      · rw [mem_singleton.mp there]
        exact bound
  · cases binds

theorem respects_consume {consumer : Consumer Name Channel Handler}
    (served : t.served consumer.queue consumer.handler) (consumes : b.consume consumer = some b') :
    Respects t b' := by
  rw [consume] at consumes
  split at consumes
  · cases consumes
    refine { before with consumers := ?_ }
    intro consumer' there
    rcases mem_append.mp there with there | there
    · exact before.consumers consumer' there
    · rw [mem_singleton.mp there]
      exact served
  · cases consumes

end

omit [DecidableEq Name] in
theorem respects_cancel [DecidableEq Channel] (before : Respects t b) (channel : Channel) :
    Respects t (b.cancel channel) := by
  refine { before with consumers := ?_ }
  intro consumer there
  exact before.consumers consumer (mem_filter.mp there).1

section

variable (before : Respects t b)
include before

theorem respects_update (name : Name) {change : List Message → List Message}
    (placed : ∀ queue ∈ b.queues, queue.name = name →
      ∀ message ∈ change queue.messages, t.placed name message) :
    Respects t (b.update name change) := by
  refine { before with queues := ?_, messages := ?_ }
  · intro queue there
    obtain ⟨old, inOld, rfl⟩ := mem_map.mp there
    split <;> exact before.queues old inOld
  · intro queue there
    obtain ⟨old, inOld, rfl⟩ := mem_map.mp there
    split
    case isTrue named =>
      intro message inside
      show t.placed old.name message
      rw [named]
      exact placed old inOld named message inside
    · exact before.messages old inOld

theorem respects_enqueue (placed : t.placed name message) :
    Respects t (b.enqueue name message) := by
  apply respects_update before
  intro queue there named other inside
  rcases mem_append.mp inside with inside | inside
  · rw [← named]
    exact before.messages queue there other inside
  · rw [mem_singleton.mp inside]
    exact placed

theorem respects_giveBack {delivery : Delivery Name Channel Handler Message}
    (placed : t.placed delivery.consumer.queue delivery.message) :
    Respects t (b.giveBack delivery) := by
  apply respects_update before
  intro queue there named other inside
  rcases mem_cons.mp inside with rfl | inside
  · exact placed
  · rw [← named]
    exact before.messages queue there other inside

theorem respects_publish {exchange : Name}
    (placed : ∀ name, t.bound exchange name → t.placed name message) :
    Respects t (b.publish exchange message) := by
  have all : ∀ binding ∈ b.bindings.filter fun binding => binding.1 = exchange,
      t.placed binding.2 message := by
    intro binding there
    obtain ⟨inBindings, named⟩ := mem_filter.mp there
    apply placed
    rw [← of_decide_eq_true named]
    exact before.bindings binding inBindings
  rw [publish]
  generalize b.bindings.filter (fun binding => binding.1 = exchange) = bindings at all
  induction bindings generalizing b with
  | nil => exact before
  | cons binding rest ih =>
    have now := respects_enqueue before (all binding mem_cons_self)
    exact ih now fun binding' there => all binding' (mem_cons_of_mem _ there)

theorem respects_deadLetter {died : Message → Message} (name : Name)
    (index : Nat) (placed : ∀ exchange message, t.queue name (some exchange) →
      t.placed name message → ∀ name', t.bound exchange name' → t.placed name' (died message)) :
    Respects t (b.deadLetter died name index) := by
  rw [deadLetter]
  cases found : b.findQueue name with
  | none => exact before
  | some queue =>
    obtain ⟨inQueues, named⟩ := mem_of_findQueue found
    dsimp only
    cases there : queue.messages[index]? with
    | none => exact before
    | some message =>
      have left : Respects t (b.update name fun messages => messages.eraseIdx index) := by
        apply respects_update before
        intro queue' there' named' other inside
        rw [← named']
        exact before.messages queue' there' other (mem_of_mem_eraseIdx inside)
      have belonged := before.messages queue inQueues message (mem_of_getElem? there)
      have declared := before.queues queue inQueues
      rw [named] at belonged declared
      cases goesOn : queue.deadLetterExchange with
      | none => exact left
      | some exchange =>
        rw [goesOn] at declared
        exact respects_publish left (placed exchange message declared belonged)

theorem respects_deliver (choice : Nat → Nat) (name : Name) :
    Respects t (b.deliver choice name) := by
  rw [deliver]
  cases found : b.first name with
  | none => exact before
  | some message =>
    obtain ⟨queue, inQueues, named, inside⟩ := mem_of_first found
    have placed := before.messages queue inQueues message inside
    dsimp only
    split
    · exact before
    · rename_i consumer chosen
      obtain ⟨inConsumers, consumes⟩ := mem_consumersOf.mp (mem_of_getElem? chosen)
      have served := before.consumers consumer inConsumers
      rw [named, ← consumes] at placed
      have left : Respects t (b.update name tail) := by
        apply respects_update before
        intro queue' there' named' other inside'
        rw [← named']
        exact before.messages queue' there' other (mem_of_mem_tail inside')
      refine { left with unsettled := ?_, handed := ?_ }
      · intro delivery there
        rcases mem_append.mp there with there | there
        · exact before.unsettled delivery there
        · rw [mem_singleton.mp there]
          exact placed
      · intro delivery there
        rcases mem_append.mp there with there | there
        · exact before.handed delivery there
        · rw [mem_singleton.mp there]
          exact ⟨placed, served⟩

end

omit [DecidableEq Name] in
theorem respects_ack (before : Respects t b) (index : Nat) : Respects t (b.ack index) := by
  refine { before with unsettled := ?_ }
  intro delivery there
  exact before.unsettled delivery (mem_of_mem_eraseIdx there)

theorem respects_requeue (before : Respects t b) (index : Nat) : Respects t (b.requeue index) := by
  rw [requeue]
  split
  · exact before
  · rename_i delivery there
    apply respects_giveBack (respects_ack before index)
    exact before.unsettled delivery (mem_of_getElem? there)

theorem respects_close [DecidableEq Channel] (before : Respects t b) (channel : Channel) :
    Respects t (b.close channel) := by
  rw [close]
  have lost : ∀ delivery ∈ b.unsettled.filter
      (fun delivery => delivery.consumer.channel = channel),
      t.placed delivery.consumer.queue delivery.message :=
    fun delivery there => before.unsettled delivery (mem_filter.mp there).1
  generalize b.unsettled.filter (fun delivery => delivery.consumer.channel = channel) =
    deliveries at lost ⊢
  induction deliveries with
  | nil =>
    refine { respects_cancel before channel with unsettled := ?_ }
    intro delivery there
    exact before.unsettled delivery (mem_filter.mp there).1
  | cons delivery rest ih =>
    have later := ih fun delivery' there => lost delivery' (mem_cons_of_mem _ there)
    exact respects_giveBack later (lost delivery mem_cons_self)

end Respecting

section Handing

variable [DecidableEq Name]
variable (b : Broker Name Channel Handler Message)

@[simp] theorem handed_update (name : Name) (change : List Message → List Message) :
    (b.update name change).handed = b.handed := rfl

@[simp] theorem handed_assertExchange (exchange : Name) :
    (b.assertExchange exchange).handed = b.handed := by
  rw [assertExchange]
  split <;> rfl

variable {b' : Broker Name Channel Handler Message}

theorem handed_assertQueue {name : Name} {dlx : Option Name}
    (asserted : b.assertQueue name dlx = some b') : b'.handed = b.handed := by
  rw [assertQueue] at asserted
  split at asserted
  · cases asserted
    rfl
  · split at asserted
    · cases asserted
      rfl
    · cases asserted

theorem handed_bindQueue {name exchange : Name} (binds : b.bindQueue name exchange = some b') :
    b'.handed = b.handed := by
  rw [bindQueue] at binds
  split at binds
  · split at binds
    · cases binds
      rfl
    · cases binds
      rfl
  · cases binds

theorem handed_consume {consumer : Consumer Name Channel Handler}
    (consumes : b.consume consumer = some b') : b'.handed = b.handed := by
  rw [consume] at consumes
  split at consumes
  · cases consumes
    rfl
  · cases consumes

@[simp] theorem handed_publish (exchange : Name) (message : Message) :
    (b.publish exchange message).handed = b.handed := by
  rw [publish]
  generalize b.bindings.filter (fun binding => binding.1 = exchange) = bindings
  induction bindings generalizing b with
  | nil => rfl
  | cons binding rest ih => exact ih (b.enqueue binding.2 message)

@[simp] theorem handed_deadLetter (died : Message → Message) (name : Name) (index : Nat) :
    (b.deadLetter died name index).handed = b.handed := by
  rw [deadLetter]
  split
  · rfl
  · split
    · rfl
    · dsimp only
      split
      · rfl
      · rw [handed_publish, handed_update]

@[simp] theorem handed_requeue (index : Nat) : (b.requeue index).handed = b.handed := by
  rw [requeue]
  split <;> rfl

@[simp] theorem handed_close [DecidableEq Channel] (channel : Channel) :
    (b.close channel).handed = b.handed := by
  rw [close]
  dsimp only
  generalize b.unsettled.filter (fun delivery => delivery.consumer.channel = channel) =
    deliveries
  induction deliveries with
  | nil => rfl
  | cons delivery rest ih => exact ih

theorem deliver_cases (choice : Nat → Nat) (name : Name) : b.deliver choice name = b ∨
      ∃ message consumer, b.first name = some message ∧ consumer ∈ b.consumersOf name ∧
        (b.deliver choice name).handed = b.handed ++ [⟨consumer, message⟩] := by
  rw [deliver]
  cases found : b.first name with
  | none => exact Or.inl rfl
  | some message =>
    dsimp only
    split
    · exact Or.inl rfl
    · rename_i consumer chosen
      exact Or.inr ⟨message, consumer, rfl, mem_of_getElem? chosen, rfl⟩

/-- Every consumer of the queue may be the one that gets its first message. -/
theorem exists_choice {name : Name} {message : Message}
    {consumer : Consumer Name Channel Handler} (found : b.first name = some message)
    (there : consumer ∈ b.consumersOf name) :
    ∃ n, ∀ choice : Nat → Nat, choice b.handed.length = n →
      (b.deliver choice name).handed = b.handed ++ [⟨consumer, message⟩] := by
  obtain ⟨n, inside, eq⟩ := getElem_of_mem there
  refine ⟨n, fun choice chosen => ?_⟩
  have chosen' : (b.consumersOf name)[choice b.handed.length % (b.consumersOf name).length]? =
      some consumer := by
    rw [chosen, Nat.mod_eq_of_lt inside, List.getElem?_eq_getElem inside, eq]
  rw [deliver, found]
  dsimp only
  rw [chosen']
  rfl

theorem handed_deliver (choice : Nat → Nat) (name : Name) :
    ∃ made, (b.deliver choice name).handed = b.handed ++ made := by
  rcases b.deliver_cases choice name with same | ⟨message, consumer, -, -, handed⟩
  · exact ⟨[], by rw [same, append_nil]⟩
  · exact ⟨_, handed⟩

theorem deliver_congr (choice choice' : Nat → Nat) (name : Name)
    (agree : b.handed.length < (b.deliver choice name).handed.length →
      choice' b.handed.length = choice b.handed.length) :
    b.deliver choice' name = b.deliver choice name := by
  rw [deliver, deliver] at *
  cases found : b.first name with
  | none => rfl
  | some message =>
    rw [found] at agree
    dsimp only at agree ⊢
    by_cases none : b.consumersOf name = []
    · simp only [none, List.getElem?_nil]
    · have some : 0 < (b.consumersOf name).length := length_pos_of_ne_nil none
      have inside := Nat.mod_lt (choice b.handed.length) some
      rw [List.getElem?_eq_getElem inside] at agree
      have same := agree (by simp)
      rw [same]

end Handing
end Broker
