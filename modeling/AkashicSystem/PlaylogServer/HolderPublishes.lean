import Mathlib.Data.List.Basic
import AkashicSystem.PlaylogServer.AMQPHolder

/-!
# What the holder publishes

What has been handed to the holder is what the broker has accepted followed by
what is pending, and nothing is pending while it is connected.
-/

set_option autoImplicit false

namespace AkashicSystem.PlaylogServer
namespace AMQPHolder

open Function List

variable {Message : Type} {publishable : Kind → Message → Bool}

variable (w : World Message)

/-- Neither closed nor destroyed; a holder that gives up is destroyed. -/
def Alive : Prop := w.closeCalled = false ∧ w.destroyed = false

/-- The broker has accepted the first of the messages; the others are pending. -/
def Accounted : Prop :=
  ∀ kind, w.called kind = w.accepted kind ++ (w.side kind).pending

def Emptied : Prop := ∀ kind, (w.side kind).pending = []

/-- A holder that has given up does not get connected again. -/
def Undestroyed : Prop := w.state = .connected → w.destroyed = false

structure Settles (w : World Message) (r : World Message × Task Message) : Prop where
  undestroyed : Undestroyed w → Undestroyed r.1
  outcome : Alive r.1 → Alive w ∧ (Accounted w → w.state = .connecting → Accounted r.1 ∧
    ((r.1.state = .connecting ∧ r.2.isConnecting = true) ∨
      (r.1.state = .connected ∧ Emptied r.1 ∧ r.2.isConnecting = false)))

structure SameMail (w w' : World Message) : Prop where
  state : w'.state = w.state
  closeCalled : w'.closeCalled = w.closeCalled
  destroyed : w'.destroyed = w.destroyed
  called : w'.called = w.called
  accepted : w'.accepted = w.accepted
  pending : ∀ kind, (w'.side kind).pending = (w.side kind).pending

section SameMail

variable {w w' : World Message}

theorem SameMail.refl (w : World Message) : SameMail w w :=
  ⟨rfl, rfl, rfl, rfl, rfl, fun _ => rfl⟩

theorem SameMail.alive (same : SameMail w w') : Alive w' ↔ Alive w := by
  simp only [Alive, same.closeCalled, same.destroyed]

theorem SameMail.accounted (same : SameMail w w') : Accounted w' ↔ Accounted w := by
  simp only [Accounted, same.called, same.accepted, same.pending]

theorem SameMail.emptied (same : SameMail w w') : Emptied w' ↔ Emptied w := by
  simp only [Emptied, same.pending]

theorem SameMail.undestroyed (same : SameMail w w') : Undestroyed w' ↔ Undestroyed w := by
  simp only [Undestroyed, same.state, same.destroyed]

theorem Settles.before {r : World Message × Task Message} (settles : Settles w' r)
    (alive : Alive w' → Alive w) (accounted : Accounted w → Accounted w')
    (state : w'.state = w.state) (undestroyed : Undestroyed w → Undestroyed w') : Settles w r := by
  refine ⟨fun own => settles.undestroyed (undestroyed own), fun after => ?_⟩
  obtain ⟨before, rest⟩ := settles.outcome after
  exact ⟨alive before, fun own connecting => rest (accounted own) (state.trans connecting)⟩

theorem SameMail.settles (same : SameMail w w') {r : World Message × Task Message}
    (settles : Settles w' r) : Settles w r :=
  settles.before same.alive.mp same.accounted.mpr same.state same.undestroyed.mpr

theorem sameMail_closeConnection (w : World Message) (connection : Option Nat) :
    SameMail w (closeConnection w connection).1 :=
  ⟨rfl, rfl, rfl, rfl, rfl, fun _ => rfl⟩

theorem sameMail_doClose (w : World Message) : SameMail w (doClose w).1 := by
  unfold doClose
  split <;> exact ⟨rfl, rfl, rfl, rfl, rfl, fun _ => rfl⟩

theorem sameMail_closing (w : World Message) (closing : Closing) :
    SameMail w (closing.next w).1 := by
  cases closing with
  | channel connection => exact sameMail_closeConnection w connection
  | connection c => exact ⟨rfl, rfl, rfl, rfl, rfl, fun _ => rfl⟩
  | done => exact .refl w

theorem sameMail_addConsumer (w : World Message) (kind : Kind) (channel : Nat) :
    SameMail w (w.addConsumer kind channel) :=
  ⟨rfl, rfl, rfl, rfl, rfl, fun _ => rfl⟩

theorem pending_update (sides : Kind → Side Message) (kind : Kind) (side : Side Message)
    (pending : side.pending = (sides kind).pending) (other : Kind) :
    (update sides kind side other).pending = (sides other).pending := by
  by_cases same : other = kind
  · subst same
    rw [update_self, pending]
  · rw [update_of_ne same]

theorem sameMail_setTag (w : World Message) (kind : Kind) (tag : Option Nat) :
    SameMail w (w.setTag kind tag) :=
  ⟨rfl, rfl, rfl, rfl, rfl, pending_update w.side kind _ rfl⟩

theorem SameMail.trans {w'' : World Message} (same : SameMail w w') (same' : SameMail w' w'') :
    SameMail w w'' :=
  ⟨same'.state.trans same.state, same'.closeCalled.trans same.closeCalled,
    same'.destroyed.trans same.destroyed, same'.called.trans same.called,
    same'.accepted.trans same.accepted,
    fun kind => (same'.pending kind).trans (same.pending kind)⟩

theorem sameMail_consumed (w : World Message) (kind : Kind) (channel : Nat)
    (consumption : Consumption) : SameMail w (consumed w kind channel consumption).1 := by
  cases consumption with
  | assertQueue => exact .refl w
  | consume =>
    cases kind with
    | event => exact (sameMail_addConsumer w .event channel).trans (sameMail_setTag _ _ _)
    | tick => exact sameMail_addConsumer w .tick channel
  | bindQueue tag => exact sameMail_setTag w kind _

end SameMail

variable {w : World Message}

variable {task : Task Message} {w' : World Message} {r : World Message × Task Message}

theorem settles_waits (same : SameMail w w') (connecting : task.isConnecting = true) :
    Settles w (w', task) := by
  refine ⟨same.undestroyed.mpr, fun alive => ⟨same.alive.mp alive, fun accounted state => ?_⟩⟩
  exact ⟨same.accounted.mpr accounted, .inl ⟨same.state.trans state, connecting⟩⟩

theorem settles_connect (w : World Message) (retry : Nat) : Settles w (connect w retry) := by
  unfold connect
  split
  · split
    · next destroyed =>
        refine ⟨fun _ connected => ?_, fun alive => ?_⟩
        · cases connected
        · exact absurd (alive.2.symm.trans destroyed) (by decide)
    · refine ⟨fun _ connected => ?_, fun alive => ?_⟩
      · cases connected
      · exact absurd alive.2 (by simp [World.destroy])
  · refine ⟨fun _ connected => ?_, fun alive => ⟨alive, fun accounted _ => ?_⟩⟩
    · cases connected
    · exact ⟨accounted, .inl ⟨rfl, rfl⟩⟩

theorem settles_connectAfter (retry : Nat) (r : World Message × Closing) :
    Settles r.1 (connectAfter retry r) := by
  obtain ⟨w, closing⟩ := r
  cases closing with
  | channel connection | connection c => exact settles_waits (.refl w) rfl
  | done => exact settles_connect w retry

theorem settles_connectFailed (w : World Message) (retry : Nat) :
    Settles w (connectFailed w retry) :=
  (sameMail_doClose w).settles (settles_connectAfter (retry + 1) (doClose w))

theorem settles_onClient (w : World Message) (retry : Nat) (kind : Kind) (phase : Nat → Phase) :
    Settles w (onClient w retry kind phase) := by
  unfold onClient
  split
  · exact settles_waits (.refl w) rfl
  · exact settles_connectFailed w retry

theorem flush_accounted (publishable : Kind → Message → Bool) (w : World Message) (kind : Kind)
    (taken : Nat) (accounted : Accounted w) : Accounted (flush publishable w kind taken) := by
  intro other
  have before := accounted other
  by_cases same : other = kind
  · subst same
    have first : (if w.takes other then
        ((w.side other).pending.take taken).takeWhile (publishable other) else []) <+:
          (w.side other).pending := by
      split
      · exact (List.takeWhile_prefix _).trans (List.take_prefix _ _)
      · exact nil_prefix
    have whole := prefix_iff_eq_append.mp first
    simp only [flush, update_self]
    rw [append_assoc, whole]
    exact before
  · simp only [flush, update_of_ne same]
    exact before

theorem flush_settles (kind : Kind) (taken : Nat)
    (settles : Settles (flush publishable w kind taken) r) : Settles w r :=
  settles.before id (flush_accounted publishable w kind taken) rfl id

theorem flush_side_other (publishable : Kind → Message → Bool) (w : World Message)
    (kind other : Kind) (distinct : other ≠ kind) (taken : Nat) :
    (flush publishable w kind taken).side other = w.side other := by
  simp [flush, distinct]

theorem settles_flushAll (w : World Message) (retry taken : Nat) :
    Settles w (flushAll publishable w retry taken) := by
  unfold flushAll
  dsimp only
  split
  · exact settles_connectFailed w retry
  · next whole =>
    split
    · next eventsEmpty =>
        split
        · next ticksEmpty =>
            refine ⟨fun _ _ => Bool.eq_false_iff.mpr whole,
              fun alive => ⟨alive, fun accounted _ => ?_⟩⟩
            have events := flush_accounted publishable w .event taken accounted
            have ticks := flush_accounted publishable _ .tick
              (taken - (w.side .event).pending.length) events
            refine ⟨ticks, .inr ⟨rfl, fun kind => ?_, rfl⟩⟩
            cases kind with
            | event =>
              have kept := flush_side_other publishable (flush publishable w .event taken)
                .tick .event (by decide) (taken - (w.side .event).pending.length)
              exact (congrArg Side.pending kept).trans (List.isEmpty_iff.mp eventsEmpty)
            | tick => exact List.isEmpty_iff.mp ticksEmpty
        · exact flush_settles .event taken
            (flush_settles .tick _ (settles_connectFailed _ retry))
    · exact flush_settles .event taken (settles_connectFailed _ retry)

theorem settles_connectTicks (w : World Message) (retry taken : Nat) :
    Settles w (connectTicks publishable w retry taken) := by
  unfold connectTicks
  split
  · exact settles_onClient w retry .tick _
  · exact settles_flushAll w retry taken

theorem settles_connectEvents (w : World Message) (retry taken : Nat) :
    Settles w (connectEvents publishable w retry taken) := by
  unfold connectEvents
  split
  · exact settles_onClient w retry .event _
  · exact settles_connectTicks w retry taken

theorem settles_connectConsumed (r : World Message × Option Consumption) (retry taken : Nat)
    (kind : Kind) (channel : Nat) :
    Settles r.1 (connectConsumed publishable retry taken kind channel r) := by
  obtain ⟨w, following⟩ := r
  cases following with
  | some following => exact settles_waits (.refl w) rfl
  | none =>
    cases kind with
    | event => exact settles_connectTicks w retry taken
    | tick => exact settles_flushAll w retry taken

theorem settles_connectNext (w : World Message) (retry taken : Nat) (phase : Phase) :
    Settles w (connectNext publishable w retry taken phase) := by
  cases phase with
  | closing closing =>
    exact (sameMail_closing w closing).settles (settles_connectAfter retry _)
  | newConnection | createChannel connection =>
    refine settles_waits ?_ ?_
    · exact ⟨rfl, rfl, rfl, rfl, rfl, fun _ => rfl⟩
    · rfl
  | prefetch channel | checkEventExchange channel => exact settles_onClient w retry .event _
  | checkQueue channel => exact settles_onClient w retry .tick _
  | checkTickExchange channel => exact settles_connectEvents w retry taken
  | doConsume kind channel consumption =>
    exact (sameMail_consumed w kind channel consumption).settles
      (settles_connectConsumed _ retry taken kind channel)

theorem settles_connectReply (w : World Message) (retry : Nat) (phase : Phase) (reply : Reply) :
    Settles w (connectReply publishable w retry phase reply) := by
  cases reply with
  | ok taken => exact settles_connectNext w retry taken phase
  | failed =>
    simp only [connectReply]
    split
    · exact (sameMail_closing w _).settles (settles_connectAfter retry _)
    · exact settles_connectFailed w retry

/-- What a step of anything else does: it may start an attempt, if there is none. -/
structure Keeps (w : World Message) (r : World Message × Task Message) : Prop where
  undestroyed : Undestroyed w → Undestroyed r.1
  outcome : Alive r.1 → Alive w ∧ (Accounted w → (w.state = .connected → Emptied w) →
    Accounted r.1 ∧ (r.1.state = .connected → Emptied r.1) ∧
      ((r.2.isConnecting = false ∧ (r.1.state = .connecting ↔ w.state = .connecting)) ∨
        (r.2.isConnecting = true ∧ r.1.state = .connecting ∧ w.state ≠ .connecting)))

theorem keeps_same (same : SameMail w w') (other : task.isConnecting = false) :
    Keeps w (w', task) := by
  refine ⟨same.undestroyed.mpr, fun alive => ⟨same.alive.mp alive, fun accounted emptied => ?_⟩⟩
  refine ⟨same.accounted.mpr accounted, fun connected => ?_, .inl ⟨other, ?_⟩⟩
  · exact same.emptied.mpr (emptied (same.state.symm.trans connected))
  · rw [same.state]

theorem SameMail.keeps (same : SameMail w w') (keeps : Keeps w' r) : Keeps w r := by
  refine ⟨fun own => keeps.undestroyed (same.undestroyed.mpr own), fun alive => ?_⟩
  obtain ⟨before, rest⟩ := keeps.outcome alive
  rw [same.accounted, same.emptied, same.state] at rest
  exact ⟨same.alive.mp before, rest⟩

theorem Settles.keeps (idle : w.state ≠ .connecting)
    (settles : Settles { w with state := .connecting } r) : Keeps w r := by
  have undestroyed : Undestroyed { w with state := .connecting } := by
    intro connected
    cases connected
  refine ⟨fun _ => settles.undestroyed undestroyed, fun alive => ?_⟩
  obtain ⟨before, outcome⟩ := settles.outcome alive
  refine ⟨before, fun accounted _ => ?_⟩
  obtain ⟨accounted', ⟨state, connecting⟩ | ⟨state, emptied, other⟩⟩ := outcome accounted rfl
  · refine ⟨accounted', fun connected => ?_, .inr ⟨connecting, state, idle⟩⟩
    exact absurd (state.symm.trans connected) (by decide)
  · exact ⟨accounted', fun _ => emptied, .inl ⟨other, by simp [state, idle]⟩⟩

theorem settles_reconnect (idle : w.state ≠ .connecting) :
    Settles { w with state := .connecting } (reconnect w) := by
  rw [reconnect, if_neg idle]
  exact (sameMail_doClose _).settles (settles_connectAfter 0 _)

theorem keeps_reconnect (w : World Message) : Keeps w (reconnect w) := by
  by_cases connecting : w.state = .connecting
  · rw [reconnect, if_pos connecting]
    exact keeps_same (.refl w) rfl
  · exact Settles.keeps connecting (settles_reconnect connecting)

theorem keeps_prepare (w : World Message) : Keeps w (prepare w) := by
  unfold prepare
  split
  · next closed => exact Settles.keeps (by simp [closed]) (settles_connect _ 0)
  · exact keeps_same (.refl w) rfl

theorem push_accounted (kind : Kind) (message : Message) (accounted : Accounted w) :
    Accounted (push { w with
      called := update w.called kind (w.called kind ++ [message]) } kind message) := by
  intro other
  have before := accounted other
  by_cases same : other = kind
  · subst same
    simp only [push, World.setSide, update_self]
    rw [before, append_assoc]
  · simp only [push, World.setSide, update_of_ne same]
    exact before

theorem keeps_publish (w : World Message) (kind : Kind) (message : Message) :
    Keeps w (publish publishable w kind message) := by
  unfold publish
  dsimp only
  split
  · next destroyed =>
      refine ⟨id, fun alive => ?_⟩
      exact absurd (alive.2.symm.trans destroyed) (by decide)
  · split
    · next unconnected =>
        refine ⟨id, fun alive => ⟨alive, fun accounted emptied => ?_⟩⟩
        refine ⟨push_accounted kind message accounted, fun connected => ?_, .inl ⟨rfl, Iff.rfl⟩⟩
        exact absurd connected unconnected
    · next connected =>
        have connected := Classical.not_not.mp connected
        split
        · refine ⟨id, fun alive => ⟨alive, fun accounted emptied => ?_⟩⟩
          refine ⟨fun other => ?_, emptied, .inl ⟨rfl, Iff.rfl⟩⟩
          have empty := emptied connected other
          have before := accounted other
          rw [empty, append_nil] at before
          dsimp only
          rw [empty, append_nil]
          by_cases same : other = kind
          · subst same
            rw [update_self, update_self, before]
          · rw [update_of_ne same, update_of_ne same, before]
        · have idle : w.state ≠ .connecting := by simp [connected]
          have settles := settles_reconnect (w := push { w with
              called := update w.called kind (w.called kind ++ [message]) }
            kind message) idle
          exact Settles.keeps idle
            (settles.before id (fun accounted => push_accounted kind message accounted) rfl id)

theorem keeps_consume (w : World Message) (kind : Kind) : Keeps w (consume w kind) := by
  have same : SameMail w { w with
      side := update w.side kind { w.side kind with consumeStarted := true }
      wanted := update w.wanted kind true } :=
    ⟨rfl, rfl, rfl, rfl, rfl, pending_update w.side kind _ rfl⟩
  unfold consume
  dsimp only
  split
  · exact keeps_same same rfl
  · split <;> exact keeps_same same rfl

theorem keeps_cancelConsume (w : World Message) (kind : Kind) : Keeps w (cancelConsume w kind) := by
  unfold cancelConsume
  dsimp only
  split
  · have same : SameMail w { w with
        side := update w.side kind { w.side kind with consumeStarted := false }
        wanted := update w.wanted kind false } :=
      ⟨rfl, rfl, rfl, rfl, rfl, pending_update w.side kind _ rfl⟩
    split <;> exact keeps_same same rfl
  · refine keeps_same ?_ ?_
    · exact ⟨rfl, rfl, rfl, rfl, rfl, fun _ => rfl⟩
    · rfl

theorem keeps_next {reply : Reply} (other : task.isConnecting = false)
    (moves : next publishable w task reply = some r) : Keeps w r := by
  cases task with
  | prepare =>
    cases moves
    exact keeps_prepare w
  | close =>
    cases moves
    have same := sameMail_doClose { w with state := .closed, closeCalled := true }
    refine ⟨fun _ connected => ?_, fun alive => ?_⟩
    · cases same.state.symm.trans connected
    · cases same.closeCalled.symm.trans alive.1
  | destroy =>
    cases moves
    refine ⟨fun _ connected => ?_, fun alive => ?_⟩
    · cases connected
    · cases alive.2
  | publish kind message =>
    cases moves
    exact keeps_publish w kind message
  | consume kind =>
    cases moves
    exact keeps_consume w kind
  | cancelConsume kind =>
    cases moves
    exact keeps_cancelConsume w kind
  | connectionLost c =>
    have same : SameMail w { w with
        connections := update w.connections c
          { w.connections c with isOpen := false } } := ⟨rfl, rfl, rfl, rfl, rfl, fun _ => rfl⟩
    unfold next at moves
    dsimp only at moves
    split_ifs at moves
    · cases moves
      exact same.keeps (keeps_reconnect _)
    · cases moves
      exact keeps_same same rfl
  | channelLost c =>
    have same : SameMail w { w with
        channels := update w.channels c { w.channels c with isOpen := false } } :=
      ⟨rfl, rfl, rfl, rfl, rfl, fun _ => rfl⟩
    unfold next at moves
    dsimp only at moves
    split_ifs at moves
    · cases moves
      exact same.keeps (keeps_reconnect _)
    · cases moves
      exact keeps_same same rfl
  | deliver kind c =>
    unfold next at moves
    dsimp only at moves
    split_ifs at moves
    cases moves
    refine keeps_same ?_ ?_
    · exact ⟨rfl, rfl, rfl, rfl, rfl, fun _ => rfl⟩
    · rfl
  | ackAll =>
    cases moves
    split
    · split
      · exact keeps_same (.refl w) rfl
      · exact keeps_reconnect w
    · exact keeps_same (.refl w) rfl
  | connecting retry phase => cases other
  | closing closing =>
    cases moves
    refine keeps_same (sameMail_closing w closing) ?_
    cases (closing.next w).2 <;> rfl
  | consuming kind c consumption =>
    cases reply with
    | ok taken =>
      cases moves
      have same := sameMail_consumed w kind c consumption
      generalize consumed w kind c consumption = result at same ⊢
      obtain ⟨w', following⟩ := result
      cases following with
      | some following | none => exact keeps_same same rfl
    | failed =>
      cases moves
      exact keeps_same (.refl w) rfl
  | canceling kind c tag =>
    cases reply with
    | ok taken =>
      cases moves
      have removed : SameMail w (w.removeConsumer kind c tag) :=
        ⟨rfl, rfl, rfl, rfl, rfl, fun _ => rfl⟩
      exact keeps_same (removed.trans (sameMail_setTag _ kind none)) rfl
    | failed =>
      cases moves
      exact keeps_same (.refl w) rfl
  | done => cases moves

structure Publishing (p : Run Message) : Prop where
  accounted : Accounted p.state
  emptied : p.state.state = .connected → Emptied p.state
  one : Pool.total attempts p.threads = if p.state.state = .connecting then 1 else 0

theorem publishing_step (p : Run Message) (action : Pool.Action (Task Message) Reply)
    (inv : Alive p.state → Publishing p) (called : Called p action) :
    Alive (step publishable p action).state → Publishing (step publishable p action) := by
  cases action with
  | start task =>
    intro alive
    obtain ⟨accounted, emptied, one⟩ := inv alive
    refine ⟨accounted, emptied, ?_⟩
    change Pool.total attempts (p.threads ++ [task]) = _
    rw [Pool.total_append, attempts_of_false (called : task.Begins).isConnecting, Int.add_zero]
    exact one
  | step index reply =>
    rcases Pool.step_cases (next publishable) p index reply with
      same | ⟨task, w', task', here, moves, eq⟩
    · rw [step, same]
      exact inv
    · rw [step, eq]
      intro alive
      have sum := Pool.total_set attempts p.threads index task task' here
      by_cases attempt : task.isConnecting = true
      · have settles : Settles p.state (w', task') := by
          cases task with
          | connecting retry phase =>
            have result := Option.some.inj moves
            rw [← result]
            exact settles_connectReply p.state retry phase reply
          | _ => cases attempt
        obtain ⟨before, outcome⟩ := settles.outcome alive
        obtain ⟨accounted, emptied, one⟩ := inv before
        have own := Pool.weight_le_total attempts p.threads (fun task _ => attempts_nonneg task)
          task (mem_of_getElem? here)
        rw [attempts_of_true attempt] at own sum
        have connecting : p.state.state = .connecting := by
          by_contra idle
          rw [if_neg idle] at one
          omega
        rw [if_pos connecting] at one
        obtain ⟨accounted', ⟨state, waits⟩ | ⟨state, empty, finished⟩⟩ :=
          outcome accounted connecting
        · refine ⟨accounted', fun connected => ?_, ?_⟩
          · exact absurd (state.symm.trans connected) (by decide)
          · change Pool.total attempts (p.threads.set index task') = _
            rw [attempts_of_true waits] at sum
            rw [if_pos state]
            omega
        · refine ⟨accounted', fun _ => empty, ?_⟩
          change Pool.total attempts (p.threads.set index task') = _
          rw [attempts_of_false finished] at sum
          rw [if_neg (by rw [state]; decide)]
          omega
      · have other : task.isConnecting = false := Bool.eq_false_iff.mpr attempt
        obtain ⟨before, outcome⟩ := (keeps_next other moves).outcome alive
        obtain ⟨accounted, emptied, one⟩ := inv before
        rw [attempts_of_false other] at sum
        obtain ⟨accounted', emptied', ⟨finished, state⟩ | ⟨waits, state, idle⟩⟩ :=
          outcome accounted emptied
        · refine ⟨accounted', emptied', ?_⟩
          rw [attempts_of_false finished] at sum
          simp only at state ⊢
          simp only [state]
          omega
        · refine ⟨accounted', emptied', ?_⟩
          rw [attempts_of_true waits] at sum
          rw [if_neg idle] at one
          simp only at state ⊢
          rw [if_pos state]
          omega

theorem undestroyed_step (publishable : Kind → Message → Bool) (p : Run Message)
    (action : Pool.Action (Task Message) Reply) (undestroyed : Undestroyed p.state) :
    Undestroyed (step publishable p action).state := by
  cases action with
  | start task => exact undestroyed
  | step index reply =>
    rcases Pool.step_cases (next publishable) p index reply with
      same | ⟨task, w', task', here, moves, eq⟩
    · rw [step, same]
      exact undestroyed
    · rw [step, eq]
      by_cases attempt : task.isConnecting = true
      · cases task with
        | connecting retry phase =>
          have settles : Settles p.state (connectReply publishable p.state retry phase reply) :=
            settles_connectReply p.state retry phase reply
          rw [Option.some.inj moves] at settles
          exact settles.undestroyed undestroyed
        | _ => cases attempt
      · have other : task.isConnecting = false := Bool.eq_false_iff.mpr attempt
        exact (keeps_next other moves).undestroyed undestroyed

/-- As long as the holder is neither closed nor has given up, the broker has accepted the
first of the messages it was handed, in order, and all of them while it is connected. -/
theorem published_in_order (publishable : Kind → Message → Bool) (maxConnectionRetry : Nat)
    (actions : List (Pool.Action (Task Message) Reply))
    (called : Run.Allowed (step publishable) Called (start maxConnectionRetry) actions)
    (alive : Alive (Run.final (step publishable) (start maxConnectionRetry) actions).state)
    (kind : Kind) :
    let w := (Run.final (step publishable) (start maxConnectionRetry) actions).state
    w.accepted kind <+: w.called kind ∧
      (w.state = .connected → w.accepted kind = w.called kind) := by
  have new : Alive (start maxConnectionRetry : Run Message).state →
      Publishing (start maxConnectionRetry : Run Message) := by
    intro _
    refine ⟨fun kind => rfl, fun connected => ?_, ?_⟩
    · cases connected
    · simp [start, AMQPHolder.new]
  obtain ⟨accounted, emptied, _⟩ :=
    @Run.invariant _ _ (step publishable) _ (fun p => Alive p.state → Publishing p)
      publishing_step _ actions new called alive
  intro w
  have whole : w.called kind = w.accepted kind ++ (w.side kind).pending := accounted kind
  refine ⟨⟨_, whole.symm⟩, fun connected => ?_⟩
  have empty : (w.side kind).pending = [] := emptied connected kind
  rw [whole, empty, append_nil]

def prepared : List (Pool.Action (Task String) Reply) :=
  [Pool.Action.start (.publish .tick "tick"), .step 0 (.ok 0), .start .prepare] ++
    replicate 7 (.step 1 (.ok 1))

theorem published_in_order_prepared :
    let w := (Run.final (step fun _ _ => true) (start 5) prepared).state
    w.accepted .tick <+: w.called .tick ∧
      (w.state = .connected → w.accepted .tick = w.called .tick) := by
  exact published_in_order (fun _ _ => true) 5 prepared (by decide +kernel)
    ⟨by decide +kernel, by decide +kernel⟩ .tick

end AMQPHolder
end AkashicSystem.PlaylogServer
