import AkashicSystem.PlaylogServer.AMQPHolder
import Mathlib.Data.List.Basic

/-!
# A holder that has been closed

An open connection is the holder's own or waits for its closing.  `close` leaves
the holder without one, unless an attempt to connect goes on behind it.
-/

set_option autoImplicit false

namespace AkashicSystem.PlaylogServer
namespace AMQPHolder

open Pool List
open AMQPHolder renaming attempts → tries

variable {Message : Type} {publishable : Kind → Message → Bool}

def startsAttempt (publishable : Kind → Message → Bool) (w : World Message) :
    Task Message → Bool
  | .prepare => w.state = .closed
  | .publish kind message =>
    !w.destroyed && w.state = .connected && !(w.takes kind && publishable kind message)
  | .connectionLost c =>
    (w.connections c).isOpen && (w.connections c).listened && w.state ≠ .connecting
  | .channelLost c => (w.channels c).isOpen && (w.channels c).listened && w.state ≠ .connecting
  | .ackAll =>
    match w.channel with
    | some c => !w.channelOpen c && w.state ≠ .connecting
    | none => false
  | _ => false

def NoAttempt (p : Run Message) : Prop := ∀ task ∈ p.threads, task.isConnecting = false

/-- The holder is not closed during an attempt; an attempt starts neither on a holder that
has been closed, nor beside another, nor over a connection that `destroy` has left. -/
def CalmTask (publishable : Kind → Message → Bool) (p : Run Message) : Task Message → Prop
  | .close => NoAttempt p
  | .prepare =>
    p.state.state = .closed →
      NoAttempt p ∧ p.state.closeCalled = false ∧ p.state.connection = none
  | task =>
    startsAttempt publishable p.state task = true → NoAttempt p ∧ p.state.closeCalled = false

def Calm (publishable : Kind → Message → Bool) (p : Run Message) :
    Action (Task Message) Reply → Prop
  | .start task => task.Begins
  | .step index _ => ∀ task ∈ p.threads[index]?, CalmTask publishable p task

instance (p : Run Message) : Decidable (NoAttempt p) :=
  inferInstanceAs (Decidable (∀ task ∈ p.threads, task.isConnecting = false))

instance (p : Run Message) : DecidablePred (CalmTask publishable p)
  | .close => inferInstanceAs (Decidable (NoAttempt p))
  | .prepare => inferInstanceAs (Decidable (p.state.state = .closed →
      NoAttempt p ∧ p.state.closeCalled = false ∧ p.state.connection = none))
  | .destroy | .publish _ _ | .consume _ | .cancelConsume _ | .connectionLost _ | .channelLost _
  | .deliver _ _ | .ackAll | .connecting _ _ | .closing _ | .consuming _ _ _ | .canceling _ _ _
  | .done => inferInstanceAs (Decidable (startsAttempt publishable p.state _ = true →
      NoAttempt p ∧ p.state.closeCalled = false))

instance (p : Run Message) : DecidablePred (Calm publishable p)
  | .start task => inferInstanceAs (Decidable task.Begins)
  | .step index _ => inferInstanceAs (Decidable (∀ task ∈ p.threads[index]?,
      CalmTask publishable p task))

/-! ## Who closes a connection -/

def Closing.Closes : Closing → Nat → Prop
  | .channel last, c => last = some c
  | .connection held, c => held = c
  | .done, _ => False

def Task.Closes : Task Message → Nat → Prop
  | .connecting _ (.closing waits), c => waits.Closes c
  | .closing waits, c => waits.Closes c
  | _, _ => False

structure Moves (w : World Message) (task : Task Message) (r : World Message × Task Message) :
    Prop where
  connections : ∀ c, (r.1.connections c).isOpen = true →
    r.1.connection = some c ∨ (w.connections c).isOpen = true
  kept : ∀ c, (r.1.connections c).isOpen = true → w.connection = some c ∨ task.Closes c →
    r.1.connection = some c ∨ r.2.Closes c
  channels : ∀ c, (r.1.channels c).isOpen = true →
    r.1.channel = some c ∨ ((w.channels c).isOpen = true ∧ w.channel ≠ some c)
  destroyed : w.destroyed = true → r.1.destroyed = true

/-- What a step leaves alone that has not to do with the connection. -/
structure Aside (w w' : World Message) : Prop where
  connection : w'.connection = w.connection
  channel : w'.channel = w.channel
  destroyed : w'.destroyed = w.destroyed
  closeCalled : w'.closeCalled = w.closeCalled
  delivered : w'.delivered = w.delivered
  connections : ∀ c, (w'.connections c).isOpen = true → (w.connections c).isOpen = true
  channels : ∀ c, (w'.channels c).isOpen = true → (w.channels c).isOpen = true

section Closing

variable {w w' w'' : World Message} {task : Task Message}

theorem Aside.refl (w : World Message) : Aside w w :=
  ⟨rfl, rfl, rfl, rfl, rfl, fun _ => id, fun _ => id⟩

theorem aside_state (w : World Message) (state : State) : Aside w { w with state := state } :=
  ⟨rfl, rfl, rfl, rfl, rfl, fun _ => id, fun _ => id⟩

theorem Aside.trans (first : Aside w w') (second : Aside w' w'') : Aside w w'' :=
  ⟨second.connection.trans first.connection, second.channel.trans first.channel,
    second.destroyed.trans first.destroyed,
    second.closeCalled.trans first.closeCalled, second.delivered.trans first.delivered,
    fun c isOpen => first.connections c (second.connections c isOpen),
    fun c isOpen => first.channels c (second.channels c isOpen)⟩

theorem Aside.moves (aside : Aside w w') {task' : Task Message}
    (closes : ∀ c, (w'.connections c).isOpen = true → task.Closes c → task'.Closes c) :
    Moves w task (w', task') := by
  constructor
  · intro c isOpen
    exact .inr (aside.connections c isOpen)
  · rintro c isOpen (own | closing)
    · exact .inl (aside.connection.trans own)
    · exact .inr (closes c isOpen closing)
  · intro c isOpen
    by_cases own : w.channel = some c
    · exact .inl (aside.channel.trans own)
    · exact .inr ⟨aside.channels c isOpen, own⟩
  · intro destroyed
    exact aside.destroyed.trans destroyed

theorem Aside.before (aside : Aside w w') {r : World Message × Task Message}
    (moves : Moves w' task r) : Moves w task r := by
  obtain ⟨connections, kept, channels, destroyed⟩ := moves
  refine ⟨fun c isOpen => ?_, fun c isOpen own => ?_, fun c isOpen => ?_, fun gone => ?_⟩
  · exact (connections c isOpen).imp_right (aside.connections c)
  · rw [← aside.connection] at own
    exact kept c isOpen own
  · rw [← aside.channel]
    exact (channels c isOpen).imp_right fun old => ⟨aside.channels c old.1, old.2⟩
  · exact destroyed (aside.destroyed.trans gone)

theorem closeConnection_connections (w : World Message) (connection : Option Nat) (c : Nat) :
    ((closeConnection w connection).1.connections c).isOpen = (w.connections c).isOpen := by
  cases connection with
  | none => rfl
  | some held =>
    by_cases same : c = held
    · subst same
      simp [closeConnection]
    · simp [closeConnection, same]

theorem closeConnection_closes (w : World Message) (c : Nat) :
    (closeConnection w (some c)).2.Closes c := rfl

theorem aside_closeConnection (w : World Message) (connection : Option Nat) :
    Aside w (closeConnection w connection).1 := by
  refine ⟨rfl, rfl, rfl, rfl, rfl, fun c isOpen => ?_, fun c => id⟩
  rwa [closeConnection_connections] at isOpen

structure Detaches (w : World Message) (r : World Message × Closing) : Prop where
  connection : r.1.connection = none
  channel : r.1.channel = none
  state : r.1.state = w.state
  destroyed : r.1.destroyed = w.destroyed
  closeCalled : r.1.closeCalled = w.closeCalled
  delivered : r.1.delivered = w.delivered
  connections : ∀ c, (r.1.connections c).isOpen = true → (w.connections c).isOpen = true
  closes : ∀ c, w.connection = some c → r.2.Closes c
  channels : ∀ c, (r.1.channels c).isOpen = true →
    (w.channels c).isOpen = true ∧ w.channel ≠ some c

theorem detaches_doClose (w : World Message) : Detaches w (doClose w) := by
  unfold doClose
  dsimp only
  split
  · next held own =>
      refine ⟨rfl, rfl, rfl, rfl, rfl, rfl, fun c => id, fun c eq => eq, fun c isOpen => ?_⟩
      rw [own]
      by_cases same : c = held
      · subst same
        simp at isOpen
      · simp only [Function.update_of_ne same] at isOpen
        exact ⟨isOpen, fun eq => same (Option.some.inj eq).symm⟩
  · next none =>
      refine ⟨rfl, rfl, rfl, rfl, rfl, rfl, fun c isOpen => ?_, fun c eq => ?_, fun c isOpen => ?_⟩
      · rwa [closeConnection_connections] at isOpen
      · rw [eq]
        exact closeConnection_closes _ c
      · rw [none]
        exact ⟨isOpen, by simp⟩

theorem aside_closing (w : World Message) (closing : Closing) : Aside w (closing.next w).1 := by
  cases closing with
  | channel last => exact aside_closeConnection w last
  | connection held =>
    refine ⟨rfl, rfl, rfl, rfl, rfl, fun c isOpen => ?_, fun c => id⟩
    by_cases same : c = held
    · subst same
      simp [Closing.next] at isOpen
    · simpa [Closing.next, same] using isOpen
  | done => exact .refl w

theorem closing_closes (w : World Message) (closing : Closing) (c : Nat)
    (isOpen : ((closing.next w).1.connections c).isOpen = true) (closes : closing.Closes c) :
    (closing.next w).2.Closes c := by
  cases closing with
  | channel last =>
    cases closes
    exact closeConnection_closes w c
  | connection held =>
    cases closes
    simp [Closing.next] at isOpen
  | done => cases closes

end Closing

/-! ## An attempt to connect -/

def Fits (w : World Message) : Task Message → Prop
  | .connecting _ (.closing _) => w.connection = none ∧ w.channel = none
  | .connecting _ .newConnection => w.connection = none ∧ w.channel = none
  | .connecting _ (.createChannel _) => w.channel = none
  | _ => True

structure Attempts (w : World Message) (task : Task Message)
    (r : World Message × Task Message) : Prop extends Moves w task r where
  closeCalled : r.1.closeCalled = w.closeCalled
  delivered : r.1.delivered = w.delivered
  fits : Fits r.1 r.2
  finished : r.2.isConnecting = false → r.1.state = .closed → r.1.channel = none

/-- `_doClose` on its way: the holder has no connection, and what a task was to close is
closed. -/
structure Detached (w : World Message) (task : Task Message) (r : World Message × Closing) :
    Prop where
  connection : r.1.connection = none
  channel : r.1.channel = none
  destroyed : w.destroyed = true → r.1.destroyed = true
  closeCalled : r.1.closeCalled = w.closeCalled
  delivered : r.1.delivered = w.delivered
  connections : ∀ c, (r.1.connections c).isOpen = true → (w.connections c).isOpen = true
  kept : ∀ c, (r.1.connections c).isOpen = true → w.connection = some c ∨ task.Closes c →
    r.2.Closes c
  channels : ∀ c, (r.1.channels c).isOpen = true →
    (w.channels c).isOpen = true ∧ w.channel ≠ some c

section Attempts

variable {w w' : World Message} {task : Task Message}

theorem Aside.attempts (aside : Aside w w') {r : World Message × Task Message}
    (attempts : Attempts w' task r) : Attempts w task r where
  toMoves := aside.before attempts.toMoves
  closeCalled := attempts.closeCalled.trans aside.closeCalled
  delivered := attempts.delivered.trans aside.delivered
  fits := attempts.fits
  finished := attempts.finished

theorem attempts_waits (aside : Aside w w') {retry : Nat} {phase : Phase}
    (closes : ∀ c, (w'.connections c).isOpen = true → task.Closes c →
      (.connecting retry phase : Task Message).Closes c)
    (fits : Fits w' (.connecting retry phase)) :
    Attempts w task (w', .connecting retry phase) where
  toMoves := aside.moves closes
  closeCalled := aside.closeCalled
  delivered := aside.delivered
  fits := fits
  finished := by
    intro finished
    cases finished

theorem Detached.ends {closing : Closing} (detached : Detached w task (w', closing))
    {w'' : World Message} {task' : Task Message} (connections : w''.connections = w'.connections)
    (channels : w''.channels = w'.channels) (closeCalled : w''.closeCalled = w'.closeCalled)
    (delivered : w''.delivered = w'.delivered)
    (destroyed : w'.destroyed = true → w''.destroyed = true)
    (closes : ∀ c, closing.Closes c → task'.Closes c) (fits : Fits w'' task')
    (finished : task'.isConnecting = false → w''.channel = none) :
    Attempts w task (w'', task') where
  connections := by
    intro c isOpen
    rw [connections] at isOpen
    exact .inr (detached.connections c isOpen)
  kept := by
    intro c isOpen own
    rw [connections] at isOpen
    exact .inr (closes c (detached.kept c isOpen own))
  channels := by
    intro c isOpen
    rw [channels] at isOpen
    exact .inr (detached.channels c isOpen)
  destroyed := fun gone => destroyed (detached.destroyed gone)
  closeCalled := closeCalled.trans detached.closeCalled
  delivered := delivered.trans detached.delivered
  fits := fits
  finished := fun ended _ => finished ended

theorem Detached.attempts {r : World Message × Closing} (detached : Detached w task r)
    (retry : Nat) : Attempts w task (connectAfter retry r) := by
  obtain ⟨w', closing⟩ := r
  have none_ : w'.connection = none ∧ w'.channel = none :=
    ⟨detached.connection, detached.channel⟩
  cases closing with
  | channel last | connection held =>
    exact detached.ends rfl rfl rfl rfl id (fun c => id) none_ fun finished => by cases finished
  | done =>
    change Attempts w task (connect w' retry)
    have nothing : ∀ c, Closing.done.Closes c → ∀ task : Task Message, task.Closes c :=
      fun c closes => absurd closes id
    unfold connect
    split
    · split
      · exact detached.ends rfl rfl rfl rfl id (fun c closes => nothing c closes _) trivial
          fun _ => detached.channel
      · exact detached.ends rfl rfl rfl rfl (fun _ => rfl) (fun c closes => nothing c closes _)
          trivial fun _ => rfl
    · exact detached.ends rfl rfl rfl rfl id (fun c closes => nothing c closes _) none_
        fun finished => by cases finished

theorem detached_doClose (w : World Message) (other : ∀ c, ¬ task.Closes c) :
    Detached w task (doClose w) := by
  have detaches := detaches_doClose w
  refine ⟨detaches.connection, detaches.channel, fun gone => ?_, detaches.closeCalled,
    detaches.delivered, detaches.connections, fun c _ own => ?_, detaches.channels⟩
  · exact detaches.destroyed.trans gone
  · rcases own with own | closes
    · exact detaches.closes c own
    · exact absurd closes (other c)

theorem detached_closing {closing : Closing} (connection : w.connection = none)
    (channel : w.channel = none) (same : ∀ c, task.Closes c → closing.Closes c) :
    Detached w task (closing.next w) := by
  have aside := aside_closing w closing
  refine ⟨aside.connection.trans connection, aside.channel.trans channel, fun gone => ?_,
    aside.closeCalled, aside.delivered, aside.connections, fun c isOpen own => ?_,
    fun c isOpen => ?_⟩
  · exact aside.destroyed.trans gone
  · rcases own with own | closes
    · rw [connection] at own
      cases own
    · exact closing_closes w closing c isOpen (same c closes)
  · rw [channel]
    exact ⟨aside.channels c isOpen, by simp⟩

theorem attempts_connectFailed (w : World Message) (retry : Nat)
    (other : ∀ c, ¬ task.Closes c) : Attempts w task (connectFailed w retry) :=
  (detached_doClose w other).attempts (retry + 1)

theorem attempts_call (w : World Message) (retry : Nat) (phase : Phase)
    (other : ∀ c, ¬ task.Closes c) (fits : Fits w (.connecting retry phase)) :
    Attempts w task (w, .connecting retry phase) :=
  attempts_waits (.refl w) (fun c _ closes => absurd closes (other c)) fits

theorem attempts_onClient (w : World Message) (retry : Nat) (kind : Kind) (phase : Nat → Phase)
    (other : ∀ c, ¬ task.Closes c) (fits : ∀ c, Fits w (.connecting retry (phase c))) :
    Attempts w task (onClient w retry kind phase) := by
  unfold onClient
  split
  · exact attempts_call w retry _ other (fits _)
  · exact attempts_connectFailed w retry other

theorem aside_flush (publishable : Kind → Message → Bool) (w : World Message) (kind : Kind)
    (taken : Nat) : Aside w (flush publishable w kind taken) :=
  ⟨rfl, rfl, rfl, rfl, rfl, fun _ => id, fun _ => id⟩

theorem attempts_flushAll (w : World Message) (retry taken : Nat)
    (other : ∀ c, ¬ task.Closes c) : Attempts w task (flushAll publishable w retry taken) := by
  have events := aside_flush publishable w .event taken
  have ticks := events.trans
    (aside_flush publishable _ .tick (taken - (w.side .event).pending.length))
  unfold flushAll
  dsimp only
  split
  · exact attempts_connectFailed w retry other
  · split
    · split
      · have connected := ticks.trans (aside_state _ .connected)
        refine ⟨connected.moves fun c _ closes => absurd closes (other c), rfl, rfl, trivial,
          fun _ closed => ?_⟩
        cases closed
      · exact ticks.attempts (attempts_connectFailed _ retry other)
    · exact events.attempts (attempts_connectFailed _ retry other)

theorem attempts_connectTicks (w : World Message) (retry taken : Nat)
    (other : ∀ c, ¬ task.Closes c) : Attempts w task (connectTicks publishable w retry taken) := by
  unfold connectTicks
  split
  · exact attempts_onClient w retry .tick _ other fun _ => trivial
  · exact attempts_flushAll w retry taken other

theorem attempts_connectEvents (w : World Message) (retry taken : Nat)
    (other : ∀ c, ¬ task.Closes c) : Attempts w task (connectEvents publishable w retry taken) := by
  unfold connectEvents
  split
  · exact attempts_onClient w retry .event _ other fun _ => trivial
  · exact attempts_connectTicks w retry taken other

theorem aside_addConsumer (w : World Message) (kind : Kind) (channel : Nat) :
    Aside w (w.addConsumer kind channel) := by
  refine ⟨rfl, rfl, rfl, rfl, rfl, fun _ => id, fun c isOpen => ?_⟩
  by_cases same : c = channel
  · subst same
    simpa [World.addConsumer] using isOpen
  · simpa [World.addConsumer, same] using isOpen

theorem aside_removeConsumer (w : World Message) (kind : Kind) (channel tag : Nat) :
    Aside w (w.removeConsumer kind channel tag) := by
  refine ⟨rfl, rfl, rfl, rfl, rfl, fun _ => id, fun c isOpen => ?_⟩
  by_cases same : c = channel
  · subst same
    simpa [World.removeConsumer] using isOpen
  · simpa [World.removeConsumer, same] using isOpen

theorem aside_connectionLost (w : World Message) (c : Nat) : Aside w { w with
      connections :=
        Function.update w.connections c { w.connections c with isOpen := false } } := by
  refine ⟨rfl, rfl, rfl, rfl, rfl, fun other isOpen => ?_, fun _ => id⟩
  by_cases same : other = c
  · subst same
    simp at isOpen
  · simpa [same] using isOpen

theorem aside_channelLost (w : World Message) (c : Nat) : Aside w { w with
      channels := Function.update w.channels c { w.channels c with isOpen := false } } := by
  refine ⟨rfl, rfl, rfl, rfl, rfl, fun _ => id, fun other isOpen => ?_⟩
  by_cases same : other = c
  · subst same
    simp at isOpen
  · simpa [same] using isOpen

theorem aside_setTag (w : World Message) (kind : Kind) (tag : Option Nat) :
    Aside w (w.setTag kind tag) :=
  ⟨rfl, rfl, rfl, rfl, rfl, fun _ => id, fun _ => id⟩

theorem aside_consumed (w : World Message) (kind : Kind) (channel : Nat)
    (consumption : Consumption) : Aside w (consumed w kind channel consumption).1 := by
  cases consumption with
  | assertQueue => exact .refl w
  | consume =>
    cases kind with
    | event => exact (aside_addConsumer w .event channel).trans (aside_setTag _ .event _)
    | tick => exact aside_addConsumer w .tick channel
  | bindQueue tag => exact aside_setTag w kind _

theorem attempts_connectConsumed (r : World Message × Option Consumption) (retry taken : Nat)
    (kind : Kind) (channel : Nat) (other : ∀ c, ¬ task.Closes c) :
    Attempts r.1 task (connectConsumed publishable retry taken kind channel r) := by
  obtain ⟨w, following⟩ := r
  cases following with
  | some following => exact attempts_call w retry _ other trivial
  | none =>
    cases kind with
    | event => exact attempts_connectTicks w retry taken other
    | tick => exact attempts_flushAll w retry taken other

theorem attempts_newConnection (w : World Message) (retry taken : Nat)
    (fits : Fits w (.connecting retry .newConnection)) :
    Attempts w (.connecting retry .newConnection)
      (connectNext publishable w retry taken .newConnection) := by
  obtain ⟨connection, channel⟩ := fits
  refine ⟨⟨fun c isOpen => ?_, fun c _ own => ?_, fun c isOpen => ?_, id⟩, rfl, rfl, channel, ?_⟩
  · by_cases same : c = w.made
    · exact .inl (congrArg some same.symm)
    · exact .inr (by simpa [connectNext, same] using isOpen)
  · rcases own with own | closes
    · rw [connection] at own
      cases own
    · cases closes
  · rw [channel]
    exact .inr ⟨isOpen, by simp⟩
  · intro finished
    cases finished

theorem attempts_createChannel (w : World Message) (retry taken held : Nat)
    (fits : Fits w (.connecting retry (.createChannel held))) :
    Attempts w (.connecting retry (.createChannel held))
      (connectNext publishable w retry taken (.createChannel held)) := by
  have channel : w.channel = none := fits
  refine ⟨⟨fun c isOpen => .inr isOpen, fun c _ own => ?_, fun c isOpen => ?_, id⟩, rfl, rfl,
    trivial, ?_⟩
  · rcases own with own | closes
    · exact .inl own
    · cases closes
  · by_cases same : c = w.made
    · exact .inl (congrArg some same.symm)
    · rw [channel]
      exact .inr ⟨by simpa [connectNext, same] using isOpen, by simp⟩
  · intro finished
    cases finished

theorem attempts_connectNext (w : World Message) (retry taken : Nat) (phase : Phase)
    (fits : Fits w (.connecting retry phase)) :
    Attempts w (.connecting retry phase) (connectNext publishable w retry taken phase) := by
  cases phase with
  | closing closing =>
    exact (detached_closing fits.1 fits.2 fun c => id).attempts retry
  | newConnection => exact attempts_newConnection w retry taken fits
  | createChannel connection => exact attempts_createChannel w retry taken connection fits
  | prefetch channel => exact attempts_onClient w retry .event _ (fun c => id) fun _ => trivial
  | checkEventExchange channel =>
    exact attempts_onClient w retry .event _ (fun c => id) fun _ => trivial
  | checkQueue channel => exact attempts_onClient w retry .tick _ (fun c => id) fun _ => trivial
  | checkTickExchange channel => exact attempts_connectEvents w retry taken fun c => id
  | doConsume kind channel consumption =>
    exact (aside_consumed w kind channel consumption).attempts
      (attempts_connectConsumed _ retry taken kind channel fun c => id)

theorem attempts_connectReply (w : World Message) (retry : Nat) (phase : Phase) (reply : Reply)
    (fits : Fits w (.connecting retry phase)) :
    Attempts w (.connecting retry phase) (connectReply publishable w retry phase reply) := by
  cases reply with
  | ok taken => exact attempts_connectNext w retry taken phase fits
  | failed =>
    cases phase with
    | closing closing =>
      exact (detached_closing fits.1 fits.2 fun c => id).attempts retry
    | newConnection | createChannel connection | prefetch channel | checkEventExchange channel
    | checkQueue channel | checkTickExchange channel | doConsume kind channel consumption =>
      exact attempts_connectFailed w retry fun c => id

end Attempts

/-- There is at most one attempt, and none once `close` has been called; every open
connection has someone to close it. -/
structure Inv (p : Run Message) : Prop where
  one : total attempts p.threads ≤ 1
  after : p.state.closeCalled = true → total attempts p.threads = 0 ∧
    p.state.state = .closed ∧ p.state.connection = none ∧ p.state.channel = none
  owned : ∀ c, (p.state.connections c).isOpen = true →
    p.state.connection = some c ∨ ∃ task ∈ p.threads, task.Closes c
  channels : ∀ c, (p.state.channels c).isOpen = true →
    p.state.channel = some c ∨ p.state.destroyed = true
  fits : ∀ task ∈ p.threads, Fits p.state task
  idle : total attempts p.threads = 0 → p.state.state = .closed → p.state.channel = none

section Inv

variable {p : Run Message} {index : Nat} {task : Task Message}
  {r : World Message × Task Message}

theorem fits_of_other {w : World Message} (other : task.isConnecting = false) : Fits w task := by
  cases task with
  | connecting retry phase => cases other
  | _ => trivial

variable {w' : World Message}

theorem Fits.of_same {w : World Message} (fits : Fits w task)
    (connection : w'.connection = w.connection)
    (channel : w'.channel = w.channel ∨ w'.channel = none) : Fits w' task := by
  have gone (none_ : w.channel = none) : w'.channel = none := by
    rcases channel with same | lost
    · exact same.trans none_
    · exact lost
  cases task with
  | connecting retry phase =>
    cases phase with
    | closing closing | newConnection => exact ⟨connection.trans fits.1, gone fits.2⟩
    | createChannel held => exact gone fits
    | _ => trivial
  | _ => trivial

theorem mem_set_self {threads : List (Task Message)} (here : threads[index]? = some task)
    (task' : Task Message) : task' ∈ threads.set index task' := by
  have inside := (List.getElem?_eq_some_iff.mp here).1
  exact mem_of_getElem? (List.getElem?_set_self inside)

theorem Inv.owned_set (inv : Inv p) (here : p.threads[index]? = some task)
    (moves : Moves p.state task r) (c : Nat) (isOpen : (r.1.connections c).isOpen = true) :
    r.1.connection = some c ∨ ∃ task ∈ p.threads.set index r.2, task.Closes c := by
  have kept (own : p.state.connection = some c ∨ task.Closes c) :
      r.1.connection = some c ∨ ∃ task ∈ p.threads.set index r.2, task.Closes c := by
    rcases moves.kept c isOpen own with held | closes
    · exact .inl held
    · exact .inr ⟨r.2, mem_set_self here r.2, closes⟩
  rcases moves.connections c isOpen with own | before
  · exact .inl own
  · rcases inv.owned c before with own | ⟨other, mem, closes⟩
    · exact kept (.inl own)
    · obtain ⟨j, there⟩ := List.getElem?_of_mem mem
      by_cases same : index = j
      · subst same
        cases here.symm.trans there
        exact kept (.inr closes)
      · have kept : (p.threads.set index r.2)[j]? = some other := by
          rw [List.getElem?_set_ne same]
          exact there
        exact .inr ⟨other, mem_of_getElem? kept, closes⟩

theorem Inv.channels_set (inv : Inv p) (moves : Moves p.state task r) (c : Nat)
    (isOpen : (r.1.channels c).isOpen = true) : r.1.channel = some c ∨ r.1.destroyed = true := by
  rcases moves.channels c isOpen with own | ⟨before, left⟩
  · exact .inl own
  · rcases inv.channels c before with own | gone
    · exact absurd own left
    · exact .inr (moves.destroyed gone)

theorem Inv.attempts (inv : Inv p) (here : p.threads[index]? = some task)
    (alone : ∀ (j : Nat) (other : Task Message), j ≠ index → p.threads[j]? = some other →
      other.isConnecting = false)
    (open_ : p.state.closeCalled = false) (attempts : Attempts p.state task r) :
    Inv ⟨r.1, p.threads.set index r.2⟩ := by
  have others : ∀ other ∈ p.threads.set index (.done : Task Message),
      tries other = 0 := by
    intro other mem
    obtain ⟨j, there⟩ := List.getElem?_of_mem mem
    rcases getElem?_set_cases p.threads index j task .done other here there with
      ⟨_, rfl⟩ | ⟨distinct, before⟩
    · rfl
    · exact attempts_of_false (alone j other distinct before)
  have none_ := total_eq_zero tries _ others
  have before := total_set tries p.threads index task .done here
  have after := total_set tries p.threads index task r.2 here
  have done_ : tries (.done : Task Message) = 0 := rfl
  rw [none_, done_] at before
  have own : total tries (p.threads.set index r.2) =
      tries r.2 := by omega
  refine ⟨?_, fun closed => ?_, inv.owned_set here attempts.toMoves,
    inv.channels_set attempts.toMoves, fun other mem => ?_, fun finished closed => ?_⟩
  · change total tries (p.threads.set index r.2) ≤ 1
    rw [own]
    unfold tries
    split <;> decide
  · rw [attempts.closeCalled, open_] at closed
    cases closed
  · obtain ⟨j, there⟩ := List.getElem?_of_mem mem
    rcases getElem?_set_cases p.threads index j task r.2 other here there with
      ⟨_, rfl⟩ | ⟨distinct, before⟩
    · exact attempts.fits
    · exact fits_of_other (alone j other distinct before)
  · have finished : total tries (p.threads.set index r.2) = 0 := finished
    rw [own] at finished
    refine attempts.finished ?_ closed
    by_contra waits
    rw [attempts_of_true (Bool.not_eq_false _ ▸ waits)] at finished
    cases finished

theorem Inv.aside (inv : Inv p) (here : p.threads[index]? = some task) (aside : Aside p.state r.1)
    (state : r.1.state = p.state.state)
    (closes : ∀ c, (r.1.connections c).isOpen = true → task.Closes c → r.2.Closes c)
    (other : task.isConnecting = false) (other' : r.2.isConnecting = false) :
    Inv ⟨r.1, p.threads.set index r.2⟩ := by
  have moves : Moves p.state task r := aside.moves closes
  have same : total tries (p.threads.set index r.2) =
      total tries p.threads := by
    rw [total_set _ _ _ _ _ here, attempts_of_false other, attempts_of_false other']
    omega
  refine ⟨?_, fun closed => ?_, inv.owned_set here moves, inv.channels_set moves,
    fun new mem => ?_, fun finished closed => ?_⟩
  · exact Int.le_trans (Int.le_of_eq same) inv.one
  · obtain ⟨finished, state', connection, channel⟩ :=
      inv.after (aside.closeCalled.symm.trans closed)
    exact ⟨same.trans finished, state.trans state', aside.connection.trans connection,
      aside.channel.trans channel⟩
  · rcases mem_or_eq_of_mem_set mem with old | rfl
    · exact (inv.fits new old).of_same aside.connection (.inl aside.channel)
    · exact fits_of_other other'
  · exact aside.channel.trans (inv.idle (same.symm.trans finished) (state.symm.trans closed))

theorem Inv.reconnect (inv : Inv p) (here : p.threads[index]? = some task)
    (aside : Aside p.state w') (state : w'.state = p.state.state)
    (other : task.isConnecting = false) (nothing : ∀ c, ¬ task.Closes c)
    (calm : w'.state ≠ .connecting → NoAttempt p ∧ p.state.closeCalled = false) :
    Inv ⟨(AMQPHolder.reconnect w').1, p.threads.set index (AMQPHolder.reconnect w').2⟩ := by
  by_cases connecting : w'.state = .connecting
  · rw [AMQPHolder.reconnect, if_pos connecting]
    exact inv.aside (r := (w', .done)) here aside state
      (fun c _ closes => absurd closes (nothing c)) other rfl
  · obtain ⟨noAttempt, open_⟩ := calm connecting
    have detached := aside.trans (aside_state w' .connecting)
    rw [AMQPHolder.reconnect, if_neg connecting]
    refine inv.attempts here (fun j other _ there => ?_) open_
      (detached.attempts ((detached_doClose _ nothing).attempts 0))
    exact noAttempt other (mem_of_getElem? there)

theorem Inv.prepare (inv : Inv p) (here : p.threads[index]? = some .prepare)
    (calm : p.state.state = .closed →
      NoAttempt p ∧ p.state.closeCalled = false ∧ p.state.connection = none) :
    Inv ⟨(AMQPHolder.prepare p.state).1, p.threads.set index (AMQPHolder.prepare p.state).2⟩ := by
  unfold AMQPHolder.prepare
  split
  · next closed =>
      obtain ⟨noAttempt, open_, connection⟩ := calm closed
      have finished := total_eq_zero tries p.threads fun task mem =>
        attempts_of_false (noAttempt task mem)
      have channel := inv.idle finished closed
      have detached : Detached p.state (.prepare : Task Message) (p.state, .done) := by
        refine ⟨connection, channel, id, rfl, rfl, fun _ => id, fun c _ own => ?_,
          fun c isOpen => ?_⟩
        · rw [connection] at own
          rcases own with own | closes
          · cases own
          · cases closes
        · rw [channel]
          exact ⟨isOpen, by simp⟩
      refine inv.attempts here (fun j other _ there => ?_) open_ (detached.attempts 0)
      exact noAttempt other (mem_of_getElem? there)
  · exact inv.aside (r := (p.state, .done)) here (.refl _) rfl
      (fun c _ closes => absurd closes id) rfl rfl

theorem Inv.destroy (inv : Inv p) (here : p.threads[index]? = some .destroy) :
    Inv ⟨p.state.destroy, p.threads.set index .done⟩ := by
  have same : total tries (p.threads.set index .done) =
      total tries p.threads := by
    rw [total_set _ _ _ _ _ here, attempts_of_false rfl, attempts_of_false rfl]
    omega
  refine ⟨?_, fun closed => ?_, fun c isOpen => ?_, fun c isOpen => .inr rfl, fun new mem => ?_,
    fun _ _ => rfl⟩
  · exact Int.le_trans (Int.le_of_eq same) inv.one
  · obtain ⟨finished, _, connection, _⟩ := inv.after closed
    exact ⟨same.trans finished, rfl, connection, rfl⟩
  · rcases inv.owned c isOpen with own | ⟨other, mem, closes⟩
    · exact .inl own
    · obtain ⟨j, there⟩ := List.getElem?_of_mem mem
      by_cases same : index = j
      · subst same
        cases here.symm.trans there
        cases closes
      · have kept : (p.threads.set index .done)[j]? = some other := by
          rw [List.getElem?_set_ne same]
          exact there
        exact .inr ⟨other, mem_of_getElem? kept, closes⟩
  · rcases mem_or_eq_of_mem_set mem with old | rfl
    · exact (inv.fits new old).of_same rfl (.inr rfl)
    · trivial

theorem Task.ofClosing_closes (closing : Closing) (c : Nat) :
    (Task.ofClosing closing : Task Message).Closes c ↔ closing.Closes c := by
  cases closing <;> rfl

theorem Task.ofClosing_isConnecting (closing : Closing) :
    (Task.ofClosing closing : Task Message).isConnecting = false := by
  cases closing <;> rfl

theorem Inv.close (inv : Inv p) (here : p.threads[index]? = some .close) (noAttempt : NoAttempt p) :
    Inv ⟨(AMQPHolder.close p.state).1, p.threads.set index (AMQPHolder.close p.state).2⟩ := by
  have detaches := detaches_doClose { p.state with state := .closed, closeCalled := true }
  have moves : Moves p.state .close (AMQPHolder.close p.state) := by
    refine ⟨fun c isOpen => ?_, fun c isOpen own => ?_, fun c isOpen => ?_, fun gone => ?_⟩
    · exact .inr (detaches.connections c isOpen)
    · rcases own with own | closes
      · exact .inr ((Task.ofClosing_closes _ c).mpr (detaches.closes c own))
      · cases closes
    · exact .inr (detaches.channels c isOpen)
    · exact detaches.destroyed.trans gone
  have others : ∀ other ∈ p.threads.set index (AMQPHolder.close p.state).2,
      other.isConnecting = false := by
    intro other mem
    rcases mem_or_eq_of_mem_set mem with old | rfl
    · exact noAttempt other old
    · exact Task.ofClosing_isConnecting _
  have finished :
      total tries (p.threads.set index (AMQPHolder.close p.state).2) = 0 :=
    total_eq_zero tries _ fun other mem => attempts_of_false (others other mem)
  refine ⟨?_, fun _ => ?_, inv.owned_set here moves, inv.channels_set moves,
    fun other mem => fits_of_other (others other mem), fun _ _ => detaches.channel⟩
  · exact Int.le_trans (Int.le_of_eq finished) (by decide)
  · exact ⟨finished, detaches.state, detaches.connection, detaches.channel⟩

theorem noAttempt_of_calm (calm : CalmTask publishable p task) (other : task ≠ .prepare)
    (starts : startsAttempt publishable p.state task = true) :
    NoAttempt p ∧ p.state.closeCalled = false := by
  cases task with
  | prepare => exact absurd rfl other
  | close => cases starts
  | _ => exact calm starts

theorem Inv.publish (inv : Inv p) {kind : Kind} {message : Message}
    (here : p.threads[index]? = some (.publish kind message))
    (calm : CalmTask publishable p (.publish kind message)) :
    Inv ⟨(AMQPHolder.publish publishable p.state kind message).1,
      p.threads.set index (AMQPHolder.publish publishable p.state kind message).2⟩ := by
  have pushed (called : Kind → List Message) :
      Aside p.state (push { p.state with called := called } kind message) :=
    ⟨rfl, rfl, rfl, rfl, rfl, fun _ => id, fun _ => id⟩
  have finished (w' : World Message) (aside : Aside p.state w') (state : w'.state = p.state.state) :
      Inv ⟨w', p.threads.set index .done⟩ :=
    inv.aside (r := (w', .done)) here aside state (fun c _ closes => absurd closes id) rfl rfl
  unfold AMQPHolder.publish
  dsimp only
  split
  · exact finished _ ⟨rfl, rfl, rfl, rfl, rfl, fun _ => id, fun _ => id⟩ rfl
  · next whole =>
      split
      · exact finished _ (pushed _) rfl
      · next connected =>
          split
          · exact finished _ ⟨rfl, rfl, rfl, rfl, rfl, fun _ => id, fun _ => id⟩ rfl
          · next refused =>
              refine inv.reconnect here (pushed _) rfl rfl (fun c => id) fun _ => ?_
              refine noAttempt_of_calm calm (fun eq => by cases eq) ?_
              have whole : p.state.destroyed = false := Bool.eq_false_iff.mpr whole
              have connected : p.state.state = .connected := Classical.not_not.mp connected
              have refused : (p.state.takes kind && publishable kind message) = false :=
                Bool.eq_false_iff.mpr refused
              simp only [startsAttempt, whole, connected, refused]
              rfl

theorem Inv.connecting (inv : Inv p) {retry : Nat} {phase : Phase}
    (here : p.threads[index]? = some (.connecting retry phase)) (reply : Reply) :
    Inv ⟨(connectReply publishable p.state retry phase reply).1,
      p.threads.set index (connectReply publishable p.state retry phase reply).2⟩ := by
  have each : ∀ task ∈ p.threads, 0 ≤ tries task :=
    fun task _ => attempts_nonneg task
  refine inv.attempts here (fun j other distinct there => ?_) ?_
    (attempts_connectReply p.state retry phase reply (inv.fits _ (mem_of_getElem? here)))
  · have pair := pair_le_total tries p.threads each index j _ other distinct
      here there
    have one := inv.one
    rw [attempts_of_true rfl] at pair
    by_contra waits
    rw [attempts_of_true (Bool.not_eq_false _ ▸ waits)] at pair
    omega
  · by_contra closed
    obtain ⟨none_, _⟩ := inv.after (Bool.not_eq_false _ ▸ closed)
    have own := weight_le_total tries p.threads each _
      (mem_of_getElem? here)
    rw [none_, attempts_of_true rfl] at own
    omega

theorem inv_next {reply : Reply} (inv : Inv p) (here : p.threads[index]? = some task)
    (calm : CalmTask publishable p task) (moves : next publishable p.state task reply = some r) :
    Inv ⟨r.1, p.threads.set index r.2⟩ := by
  have ends (w' : World Message) (aside : Aside p.state w') (state : w'.state = p.state.state)
      (nothing : ∀ c, ¬ task.Closes c) (other : task.isConnecting = false) :
      Inv ⟨w', p.threads.set index .done⟩ :=
    inv.aside (r := (w', .done)) here aside state (fun c _ closes => absurd closes (nothing c))
      other rfl
  cases task with
  | prepare =>
    cases moves
    exact inv.prepare here calm
  | close =>
    cases moves
    exact inv.close here calm
  | destroy =>
    cases moves
    exact inv.destroy here
  | publish kind message =>
    cases moves
    exact inv.publish here calm
  | consume kind =>
    cases moves
    unfold AMQPHolder.consume
    dsimp only
    split
    · exact ends _ ⟨rfl, rfl, rfl, rfl, rfl, fun _ => id, fun _ => id⟩ rfl (fun c => id) rfl
    · split
      · exact inv.aside (r := (_, .consuming kind _ _)) here
          ⟨rfl, rfl, rfl, rfl, rfl, fun _ => id, fun _ => id⟩ rfl (fun c _ => id) rfl rfl
      · exact ends _ ⟨rfl, rfl, rfl, rfl, rfl, fun _ => id, fun _ => id⟩ rfl (fun c => id) rfl
  | cancelConsume kind =>
    cases moves
    unfold AMQPHolder.cancelConsume
    dsimp only
    split
    · split
      · exact inv.aside (r := (_, .canceling kind _ _)) here
          ⟨rfl, rfl, rfl, rfl, rfl, fun _ => id, fun _ => id⟩ rfl (fun c _ => id) rfl rfl
      · exact ends _ ⟨rfl, rfl, rfl, rfl, rfl, fun _ => id, fun _ => id⟩ rfl (fun c => id) rfl
    · exact ends _ ⟨rfl, rfl, rfl, rfl, rfl, fun _ => id, fun _ => id⟩ rfl (fun c => id) rfl
  | connectionLost c =>
    have aside := aside_connectionLost p.state c
    unfold next at moves
    dsimp only at moves
    split_ifs at moves with isOpen listened
    · cases moves
      refine inv.reconnect here aside rfl rfl (fun c => id) fun idle => ?_
      refine noAttempt_of_calm calm (fun eq => by cases eq) ?_
      simpa [startsAttempt, isOpen, listened] using idle
    · cases moves
      exact ends _ aside rfl (fun c => id) rfl
  | channelLost c =>
    have aside := aside_channelLost p.state c
    unfold next at moves
    dsimp only at moves
    split_ifs at moves with isOpen listened
    · cases moves
      refine inv.reconnect here aside rfl rfl (fun c => id) fun idle => ?_
      refine noAttempt_of_calm calm (fun eq => by cases eq) ?_
      simpa [startsAttempt, isOpen, listened] using idle
    · cases moves
      exact ends _ aside rfl (fun c => id) rfl
  | deliver kind c =>
    unfold next at moves
    dsimp only at moves
    split_ifs at moves
    cases moves
    obtain ⟨one, after, owned, channels, fits, idle⟩ :=
      ends p.state (.refl _) rfl (fun c => id) rfl
    exact ⟨one, after, owned, channels,
      fun task mem => (fits task mem).of_same rfl (.inl rfl), idle⟩
  | ackAll =>
    cases moves
    split
    · next c channel =>
        split
        · exact ends _ (.refl _) rfl (fun c => id) rfl
        · next lost =>
            refine inv.reconnect here (.refl _) rfl rfl (fun c => id) fun idle => ?_
            refine noAttempt_of_calm calm (fun eq => by cases eq) ?_
            simp only [startsAttempt, channel]
            simpa [Bool.eq_false_iff.mpr lost] using idle
    · exact ends _ (.refl _) rfl (fun c => id) rfl
  | connecting retry phase =>
    cases moves
    exact inv.connecting here reply
  | closing closing =>
    cases moves
    refine inv.aside here (aside_closing p.state closing) ?_ (fun c isOpen closes => ?_) rfl
      (Task.ofClosing_isConnecting _)
    · cases closing <;> rfl
    · exact (Task.ofClosing_closes _ c).mpr (closing_closes p.state closing c isOpen closes)
  | consuming kind c consumption =>
    cases reply with
    | ok taken =>
      cases moves
      have aside := aside_consumed p.state kind c consumption
      have state : (consumed p.state kind c consumption).1.state = p.state.state := by
        cases consumption with
        | consume => cases kind <;> rfl
        | _ => rfl
      generalize consumed p.state kind c consumption = result at aside state ⊢
      obtain ⟨w', following⟩ := result
      cases following with
      | some following =>
        exact inv.aside (r := (w', .consuming kind c following)) here aside state
          (fun c _ => id) rfl rfl
      | none => exact ends w' aside state (fun c => id) rfl
    | failed =>
      cases moves
      exact ends _ (.refl _) rfl (fun c => id) rfl
  | canceling kind c tag =>
    cases reply with
    | ok taken =>
      cases moves
      exact ends _ ((aside_removeConsumer p.state kind c tag).trans (aside_setTag _ kind none))
        rfl (fun c => id) rfl
    | failed =>
      cases moves
      exact ends _ (.refl _) rfl (fun c => id) rfl
  | done => cases moves

theorem inv_step (p : Run Message) (action : Action (Task Message) Reply) (inv : Inv p)
    (calm : Calm publishable p action) : Inv (step publishable p action) := by
  cases action with
  | start task =>
    have other := (calm : task.Begins).isConnecting
    have same : total tries (p.threads ++ [task]) =
        total tries p.threads := by
      rw [total_append, attempts_of_false other, Int.add_zero]
    refine ⟨?_, fun closed => ?_, fun c isOpen => ?_, inv.channels, fun new mem => ?_,
      fun finished => inv.idle (same.symm.trans finished)⟩
    · exact Int.le_trans (Int.le_of_eq same) inv.one
    · obtain ⟨finished, rest⟩ := inv.after closed
      exact ⟨same.trans finished, rest⟩
    · refine (inv.owned c isOpen).imp_right fun ⟨task, mem, closes⟩ => ?_
      exact ⟨task, mem_append_left _ mem, closes⟩
    · rcases mem_append.mp mem with old | new_
      · exact inv.fits new old
      · rw [mem_singleton.mp new_]
        exact fits_of_other other
  | step index reply =>
    rcases step_cases (next publishable) p index reply with
      same | ⟨task, w', task', here, moves, eq⟩
    · rw [step, same]
      exact inv
    · rw [step, eq]
      exact inv_next inv here (calm task here) moves

/-! ## Once it has been closed -/

def Silent (w w' : World Message) : Prop :=
  w.closeCalled = true → w'.closeCalled = true ∧ w'.delivered = w.delivered

theorem Aside.silent {w : World Message} (aside : Aside w w') : Silent w w' :=
  fun closed => ⟨aside.closeCalled.trans closed, aside.delivered⟩

theorem silent_connect (w : World Message) (retry : Nat) : Silent w (connect w retry).1 := by
  intro closed
  unfold connect
  split
  · split <;> exact ⟨closed, rfl⟩
  · exact ⟨closed, rfl⟩

theorem silent_connectAfter (retry : Nat) (r : World Message × Closing) :
    Silent r.1 (connectAfter retry r).1 := by
  obtain ⟨w, closing⟩ := r
  cases closing with
  | done => exact silent_connect w retry
  | _ => exact fun closed => ⟨closed, rfl⟩

theorem silent_reconnect (w : World Message) : Silent w (reconnect w).1 := by
  unfold reconnect
  split
  · exact fun closed => ⟨closed, rfl⟩
  · intro closed
    have detaches := detaches_doClose { w with state := .connecting }
    obtain ⟨closed', same⟩ := silent_connectAfter 0 (doClose { w with state := .connecting })
      (detaches.closeCalled.trans closed)
    exact ⟨closed', same.trans detaches.delivered⟩

theorem silent_next {reply : Reply} (inv : Inv p) (here : p.threads[index]? = some task)
    (moves : next publishable p.state task reply = some r) : Silent p.state r.1 := by
  cases task with
  | prepare =>
    cases moves
    unfold AMQPHolder.prepare
    split
    · exact silent_connect p.state 0
    · exact fun closed => ⟨closed, rfl⟩
  | close =>
    cases moves
    intro _
    have detaches := detaches_doClose { p.state with state := .closed, closeCalled := true }
    exact ⟨detaches.closeCalled, detaches.delivered⟩
  | destroy =>
    cases moves
    exact fun closed => ⟨closed, rfl⟩
  | publish kind message =>
    cases moves
    unfold AMQPHolder.publish
    dsimp only
    split_ifs
    · exact fun closed => ⟨closed, rfl⟩
    · exact fun closed => ⟨closed, rfl⟩
    · exact fun closed => ⟨closed, rfl⟩
    · exact silent_reconnect (push { p.state with
        called := Function.update p.state.called kind (p.state.called kind ++ [message]) }
        kind message)
  | consume kind =>
    cases moves
    unfold AMQPHolder.consume
    dsimp only
    split
    · exact fun closed => ⟨closed, rfl⟩
    · split <;> exact fun closed => ⟨closed, rfl⟩
  | cancelConsume kind =>
    cases moves
    unfold AMQPHolder.cancelConsume
    dsimp only
    split
    · split <;> exact fun closed => ⟨closed, rfl⟩
    · exact fun closed => ⟨closed, rfl⟩
  | connectionLost c =>
    unfold next at moves
    dsimp only at moves
    split_ifs at moves
    · cases moves
      exact silent_reconnect { p.state with
        connections := Function.update p.state.connections c
          { p.state.connections c with isOpen := false } }
    · cases moves
      exact fun closed => ⟨closed, rfl⟩
  | channelLost c =>
    unfold next at moves
    dsimp only at moves
    split_ifs at moves
    · cases moves
      exact silent_reconnect { p.state with
        channels := Function.update p.state.channels c
          { p.state.channels c with isOpen := false } }
    · cases moves
      exact fun closed => ⟨closed, rfl⟩
  | deliver kind c =>
    unfold next at moves
    dsimp only at moves
    split_ifs at moves with delivers
    cases moves
    intro closed
    obtain ⟨_, _, _, channel⟩ := inv.after closed
    have isOpen : (p.state.channels c).isOpen = true := (Bool.and_eq_true_iff.mp delivers.1).1
    rcases inv.channels c isOpen with own | gone
    · rw [channel] at own
      cases own
    · refine ⟨closed, ?_⟩
      simp [AMQPHolder.deliver, gone]
  | ackAll =>
    cases moves
    split
    · split
      · exact fun closed => ⟨closed, rfl⟩
      · exact silent_reconnect p.state
    · exact fun closed => ⟨closed, rfl⟩
  | connecting retry phase =>
    intro closed
    obtain ⟨none_, _⟩ := inv.after closed
    have own := weight_le_total tries p.threads
      (fun task _ => attempts_nonneg task) _ (mem_of_getElem? here)
    rw [none_, attempts_of_true rfl] at own
    omega
  | closing closing =>
    cases moves
    exact (aside_closing p.state closing).silent
  | consuming kind c consumption =>
    cases reply with
    | ok taken =>
      cases moves
      have aside := aside_consumed p.state kind c consumption
      generalize consumed p.state kind c consumption = result at aside ⊢
      obtain ⟨w', following⟩ := result
      cases following with
      | some following | none => exact aside.silent
    | failed =>
      cases moves
      exact fun closed => ⟨closed, rfl⟩
  | canceling kind c tag =>
    cases reply with
    | ok taken =>
      cases moves
      exact ((aside_removeConsumer p.state kind c tag).trans (aside_setTag _ kind none)).silent
    | failed =>
      cases moves
      exact fun closed => ⟨closed, rfl⟩
  | done => cases moves

theorem silent_step (publishable : Kind → Message → Bool) (p : Run Message)
    (action : Action (Task Message) Reply) (inv : Inv p) :
    Silent p.state (step publishable p action).state := by
  cases action with
  | start task => exact fun closed => ⟨closed, rfl⟩
  | step index reply =>
    rcases step_cases (next publishable) p index reply with
      same | ⟨task, w', task', here, moves, eq⟩
    · rw [step, same]
      exact fun closed => ⟨closed, rfl⟩
    · rw [step, eq]
      exact silent_next inv here moves

end Inv

theorem inv_start (maxConnectionRetry : Nat) : Inv (start maxConnectionRetry : Run Message) := by
  refine ⟨?_, fun closed => ?_, fun c isOpen => ?_, fun c isOpen => ?_, fun task mem => ?_,
    fun _ _ => rfl⟩
  · simp [start]
  · cases closed
  · cases isOpen
  · cases isOpen
  · cases mem

/-- Once `close` has been called in a calm run, the holder is not connected, delivers nothing,
and has no connection open when no promise waits. -/
theorem closed_stays_closed (publishable : Kind → Message → Bool) (maxConnectionRetry : Nat)
    (front back : List (Action (Task Message) Reply))
    (calm : Run.Allowed (step publishable) (Calm publishable) (start maxConnectionRetry)
      (front ++ back))
    (closed : (Run.final (step publishable) (start maxConnectionRetry) front).state.closeCalled =
      true) :
    let before := Run.final (step publishable) (start maxConnectionRetry) front
    let after := Run.final (step publishable) (start maxConnectionRetry) (front ++ back)
    after.state.state ≠ .connected ∧ after.state.delivered = before.state.delivered ∧
      (Idle after → ∀ c, (after.state.connections c).isOpen = false) := by
  intro before after
  obtain ⟨first, second⟩ := (Run.allowed_append _ front back).mp calm
  have invBefore : Inv before := Run.invariant inv_step _ front (inv_start _) first
  obtain ⟨inv, closed', same⟩ : Inv after ∧ after.state.closeCalled = true ∧
      after.state.delivered = before.state.delivered := by
    have split : after = Run.final (step publishable) before back := Run.final_append _ front back
    rw [split]
    refine @Run.invariant _ _ (step publishable) _ (fun p => Inv p ∧ p.state.closeCalled = true ∧
      p.state.delivered = before.state.delivered) ?_ before back ⟨invBefore, closed, rfl⟩ second
    intro p action ⟨inv, closed, same⟩ calm
    obtain ⟨closed', same'⟩ := silent_step publishable p action inv closed
    exact ⟨inv_step p action inv calm, closed', same'.trans same⟩
  obtain ⟨_, state, connection, _⟩ := inv.after closed'
  refine ⟨?_, same, fun idle c => ?_⟩
  · rw [state]
    decide
  · by_contra isOpen
    rcases inv.owned c (Bool.not_eq_false _ ▸ isOpen) with own | ⟨task, mem, closes⟩
    · rw [connection] at own
      cases own
    · have waits := idle task mem
      cases task with
      | connecting retry phase | closing closing => cases waits
      | _ => cases closes

def closedLate : List (Action (Task Unit) Reply) :=
  [Action.start .prepare] ++ replicate 7 (.step 0 (.ok 0)) ++ [Action.start .close, .step 1 (.ok 0)]

def closings : List (Action (Task Unit) Reply) := replicate 2 (.step 1 (.ok 0))

theorem closed_stays_closed_late :
    let before := Run.final (step fun _ _ => true) (start 5) closedLate
    let after := Run.final (step fun _ _ => true) (start 5) (closedLate ++ closings)
    after.state.state ≠ .connected ∧ after.state.delivered = before.state.delivered ∧
      (Idle after → ∀ c, (after.state.connections c).isOpen = false) := by
  exact closed_stays_closed (fun _ _ => true) 5 closedLate closings (by decide +kernel)
    (by decide +kernel)

def closedEarly : List (Action (Task Unit) Reply) :=
  [.start .prepare, .step 0 (.ok 0), .start .close, .step 1 (.ok 0)]

/-- The attempt goes on, and connects it. -/
theorem connected_after_close :
    ¬ ∀ (maxConnectionRetry : Nat) (front back : List (Action (Task Unit) Reply)),
      Run.Allowed (step fun _ _ => true) Called (start maxConnectionRetry) (front ++ back) →
      (Run.final (step fun _ _ => true) (start maxConnectionRetry) front).state.closeCalled = true →
      let before := Run.final (step fun _ _ => true) (start maxConnectionRetry) front
      let after := Run.final (step fun _ _ => true) (start maxConnectionRetry) (front ++ back)
      after.state.state ≠ .connected ∧ after.state.delivered = before.state.delivered ∧
        (Idle after → ∀ c, (after.state.connections c).isOpen = false) := by
  intro claimed
  obtain ⟨unconnected, _⟩ := claimed 5 closedEarly (replicate 6 (.step 0 (.ok 0)))
    (by decide +kernel) (by decide +kernel)
  revert unconnected
  decide +kernel

end AMQPHolder
end AkashicSystem.PlaylogServer
