import AkashicSystem.PlaylogServer.HolderServed

/-!
# The consumers of the holder

As long as the requests of a kind do not overlap its calls, the channel of a
holder that is connected has the consumers that are wanted.
-/

set_option autoImplicit false

namespace AkashicSystem.PlaylogServer
namespace AMQPHolder

open List
open Function (update)

variable {Message : Type} {publishable : Kind → Message → Bool}

/-! ## An attempt to connect -/

theorem phaseFits_iff (w : World Message) {retry c : Nat} {phase : Phase}
    (channel : phase.channel = some c) :
    PhaseFits w (.connecting retry phase) ↔ w.channel = some c := by
  cases phase with
  | closing closing | newConnection | createChannel connection => cases channel
  | _ =>
    cases channel
    exact Iff.rfl

theorem PhaseFits.of_other {w w' : World Message} {task : Task Message}
    (fits : PhaseFits w task) (other : task.isConnecting = false) : PhaseFits w' task := by
  cases task with
  | connecting retry phase => cases other
  | closing closing => exact fits
  | _ => trivial

theorem engaged_tick {retry c : Nat} {phase : Phase} (channel : phase.channel = some c) :
    (.connecting retry phase : Task Message).engaged .tick c = true := by
  cases phase with
  | closing closing | newConnection | createChannel connection => cases channel
  | doConsume kind held consumption =>
    cases channel
    cases kind <;> simp [Task.engaged]
  | _ =>
    cases channel
    simp [Task.engaged]

theorem channel_of_engaged {retry c : Nat} {phase : Phase} {kind : Kind}
    (engaged : (.connecting retry phase : Task Message).engaged kind c = true) :
    phase.channel = some c := by
  cases phase with
  | closing closing | newConnection | createChannel connection => cases engaged
  | doConsume k held consumption =>
    simp only [Task.engaged, Bool.and_eq_true, decide_eq_true_eq] at engaged
    exact congrArg some engaged.1
  | _ =>
    simp only [Task.engaged, decide_eq_true_eq] at engaged
    exact congrArg some engaged

theorem frame_flush (publishable : Kind → Message → Bool) (w : World Message) (kind : Kind)
    (taken : Nat) : Frame w (flush publishable w kind taken) := by
  refine frame_side kind _ ?_ rfl rfl rfl rfl rfl
  rfl

theorem seen_flush (publishable : Kind → Message → Bool) (w : World Message)
    (kind other : Kind) (taken channel : Nat) :
    (flush publishable w kind taken).seen other channel = w.seen other channel := by
  by_cases same : other = kind
  · subst same
    simp [World.seen, flush]
  · simp [World.seen, flush, same]

theorem started_flush (publishable : Kind → Message → Bool) (w : World Message)
    (kind other : Kind) (taken : Nat) :
    ((flush publishable w kind taken).side other).consumeStarted = (w.side other).consumeStarted :=
  congrArg Seen.started (seen_flush publishable w kind other taken 0)

theorem made_doClose (w : World Message) : (doClose w).1.made = w.made := by
  unfold doClose
  split <;> rfl

def Alone (p : Run Message) (index : Nat) : Prop :=
  ∀ (j : Nat) (other : Task Message), j ≠ index → p.threads[j]? = some other →
    other.isConnecting = false

def NoneConnects (p : Run Message) : Prop :=
  p.state.state ≠ .connecting → ∀ other ∈ p.threads, other.isConnecting = false

section Attempt

variable {p : Run Message} {index retry : Nat} {phase : Phase} {w' : World Message}

section

variable (consistent : Consistent p) (alone : Alone p index)

include consistent alone

theorem Consistent.connectAfter {r : World Message × Closing} (bare : Bare r.1)
    (made : p.state.made ≤ r.1.made)
    (retry : Nat) (alive : Alive (AMQPHolder.connectAfter retry r).1) :
    Consistent ⟨(AMQPHolder.connectAfter retry r).1,
      p.threads.set index (AMQPHolder.connectAfter retry r).2⟩ := by
  obtain ⟨w, closing⟩ := r
  have waits (w' : World Message) (bare : Bare w') (same : w'.made = w.made) (phase : Phase)
      (fits : PhaseFits w' (.connecting retry phase)) (none_ : phase.channel = none) :
      Consistent ⟨w', p.threads.set index (.connecting retry phase)⟩ := by
    refine bare.consistent (fun task mem kind c engaged => ?_) (fun task mem => ?_)
    · rcases mem_or_eq_of_mem_set mem with old | rfl
      · exact same ▸ Nat.lt_of_lt_of_le (consistent.bound task old kind c engaged) made
      · cases none_.symm.trans (channel_of_engaged engaged)
    · obtain ⟨j, there⟩ := List.getElem?_of_mem mem
      by_cases own : j = index
      · subst own
        have inside := (List.getElem?_eq_some_iff.mp there).1
        rw [length_set] at inside
        rw [List.getElem?_set_self inside] at there
        cases there
        exact fits
      · rw [List.getElem?_set_ne (Ne.symm own)] at there
        exact (consistent.fits task (mem_of_getElem? there)).of_other (alone j task own there)
  cases closing with
  | channel last | connection held => exact waits w bare rfl _ bare.channel rfl
  | done =>
    change Alive (connect w retry).1 at alive
    change Consistent ⟨(connect w retry).1, p.threads.set index (connect w retry).2⟩
    unfold connect at alive ⊢
    split at alive
    · split at alive
      · next destroyed => exact absurd (alive.2.symm.trans destroyed) (by decide)
      · exact absurd alive.2 (by simp [World.destroy])
    · next few =>
        rw [if_neg few]
        exact waits { w with state := .connecting }
          ⟨rfl, bare.channel, bare.tag, bare.closed, bare.wanted⟩ rfl .newConnection
          bare.channel rfl

theorem Consistent.connectFailed (frame : Frame p.state w') (state : w'.state = .connecting)
    (wanted : ∀ kind, (w'.side kind).consumeStarted = w'.wanted kind) (retry : Nat)
    (alive : Alive (AMQPHolder.connectFailed w' retry).1) :
    Consistent ⟨(AMQPHolder.connectFailed w' retry).1,
      p.threads.set index (AMQPHolder.connectFailed w' retry).2⟩ := by
  have opened (c : Nat) (isOpen : (w'.channels c).isOpen = true) : w'.channel = some c :=
    frame.channel.trans (consistent.opened c (frame.channels c isOpen))
  refine consistent.connectAfter alone (bare_doClose state opened wanted) ?_ (retry + 1) alive
  rw [made_doClose]
  exact frame.made

end

variable {c : Nat}

theorem Consistent.call (consistent : Consistent p)
    (here : p.threads[index]? = some (.connecting retry phase)) (channel : phase.channel = some c)
    (frame : Frame p.state w') (state : w'.state = .connecting)
    (wanted : ∀ kind, (w'.side kind).consumeStarted = w'.wanted kind) {phase' : Phase}
    (channel' : phase'.channel = some c)
    (served : ∀ kind, p.state.channelOpen c = true → Served (p.state.seen kind c) p.threads kind c →
      Served (w'.seen kind c) (p.threads.set index (.connecting retry phase')) kind c) :
    Consistent ⟨w', p.threads.set index (.connecting retry phase')⟩ := by
  have mem := mem_of_getElem? here
  have own := (phaseFits_iff p.state channel).mp (consistent.fits _ mem)
  have own' : w'.channel = some c := frame.channel.trans own
  refine consistent.frame frame (fun kind held engaged => ?_) ?_ (fun none_ => ?_)
    (fun connected => ?_) (fun closed => ?_) (fun kind held there isOpen old => ?_) wanted
  · cases channel'.symm.trans (channel_of_engaged engaged)
    exact Nat.lt_of_lt_of_le (consistent.bound _ mem .tick c (engaged_tick channel)) frame.made
  · exact (phaseFits_iff w' channel').mpr own'
  · cases none_.symm.trans own'
  · cases state.symm.trans connected
  · cases state.symm.trans closed
  · cases there.symm.trans own'
    exact served kind (frame.channelOpen isOpen) old

theorem Consistent.onClient (consistent : Consistent p)
    (here : p.threads[index]? = some (.connecting retry phase)) (channel : phase.channel = some c)
    (frame : Frame p.state w') (kind : Kind) (following : Nat → Phase) :
    AMQPHolder.onClient w' retry kind following = (w', .connecting retry (following c)) := by
  have own := (phaseFits_iff p.state channel).mp (consistent.fits _ (mem_of_getElem? here))
  have client : (w'.side kind).client = some c :=
    (frame.client kind).trans (consistent.client c own kind)
  rw [AMQPHolder.onClient, client]

section

variable (consistent : Consistent p) (here : p.threads[index]? = some (.connecting retry phase))
  (alone : Alone p index)
  (channel : phase.channel = some c)

include consistent here alone channel

theorem Consistent.flushAll (frame : Frame p.state w') (state : w'.state = .connecting)
    (wanted : ∀ kind, (w'.side kind).consumeStarted = w'.wanted kind)
    (isOpen : w'.channelOpen c = true)
    (served : ∀ kind, Served (w'.seen kind c) (p.threads.set index .done) kind c) (taken : Nat)
    (alive : Alive (AMQPHolder.flushAll publishable w' retry taken).1) :
    Consistent ⟨(AMQPHolder.flushAll publishable w' retry taken).1,
      p.threads.set index (AMQPHolder.flushAll publishable w' retry taken).2⟩ := by
  have own := (phaseFits_iff p.state channel).mp (consistent.fits _ (mem_of_getElem? here))
  have own' : w'.channel = some c := frame.channel.trans own
  have events := frame.trans (frame_flush publishable w' .event taken)
  have ticks := events.trans (frame_flush publishable (flush publishable w' .event taken) .tick
    (taken - (w'.side .event).pending.length))
  have wantedEvents (kind : Kind) :
      ((flush publishable w' .event taken).side kind).consumeStarted = w'.wanted kind :=
    (started_flush publishable w' .event kind taken).trans (wanted kind)
  have wantedTicks (kind : Kind) := (started_flush publishable
    (flush publishable w' .event taken) .tick kind
    (taken - (w'.side .event).pending.length)).trans (wantedEvents kind)
  unfold AMQPHolder.flushAll at alive ⊢
  dsimp only at alive ⊢
  split_ifs at alive ⊢
  · exact consistent.connectFailed alone frame state wanted retry alive
  · refine consistent.frame ?_ (fun kind held engaged => ?_) trivial (fun none_ => ?_)
      (fun _ => ⟨c, own', isOpen⟩) (fun closed => ?_) (fun kind held there _ _ => ?_) wantedTicks
    · exact ticks.trans ⟨rfl, Nat.le_refl _, fun _ => rfl, fun _ => rfl, fun _ => id,
        fun _ => rfl, fun _ => rfl, fun _ => id⟩
    · cases engaged
    · cases none_.symm.trans own'
    · cases closed
    · cases there.symm.trans own'
      have same := (seen_flush publishable (flush publishable w' .event taken) .tick kind
        (taken - (w'.side .event).pending.length) c).trans
        (seen_flush publishable w' .event kind taken c)
      change Served ((flush publishable _ .tick _).seen kind c) _ kind c
      rw [same]
      exact served kind
  · exact consistent.connectFailed alone ticks state wantedTicks retry alive
  · exact consistent.connectFailed alone events state wantedEvents retry alive

theorem Consistent.connectTicks (engaged :
    (.connecting retry phase : Task Message).engaged .event c = true)
    (frame : Frame p.state w') (state : w'.state = .connecting)
    (wanted : ∀ kind, (w'.side kind).consumeStarted = w'.wanted kind)
    (isOpen : w'.channelOpen c = true) (event : (w'.seen .event c).Settled)
    (tick : (w'.seen .tick c).Blank) (taken : Nat)
    (alive : Alive (AMQPHolder.connectTicks publishable w' retry taken).1) :
    Consistent ⟨(AMQPHolder.connectTicks publishable w' retry taken).1,
      p.threads.set index (AMQPHolder.connectTicks publishable w' retry taken).2⟩ := by
  have own := (phaseFits_iff p.state channel).mp (consistent.fits _ (mem_of_getElem? here))
  unfold AMQPHolder.connectTicks at alive ⊢
  split at alive
  · next started =>
      rw [if_pos started, AMQPHolder.doConsume, consistent.onClient here channel frame]
      refine consistent.call here channel frame state wanted rfl fun kind _ old => ?_
      cases kind with
      | event =>
        refine old.own here engaged (fun engaged' => ?_) fun _ => event
        simp [Task.engaged] at engaged'
      | tick =>
        refine old.own here (engaged_tick channel) (fun _ => ?_) fun finished => ?_
        · exact ⟨started, tick⟩
        · simp [Task.engaged] at finished
  · next unstarted =>
      rw [if_neg unstarted]
      refine consistent.flushAll here alone channel frame state wanted isOpen (fun kind => ?_) taken
        alive
      have old := consistent.served kind c own (frame.channelOpen isOpen)
      cases kind with
      | event => exact old.own here engaged (fun engaged' => by cases engaged') fun _ => event
      | tick =>
        refine old.own here (engaged_tick channel) (fun engaged' => by cases engaged') fun _ => ?_
        exact .inr ⟨Bool.eq_false_iff.mpr unstarted, tick⟩

end

section

variable (consistent : Consistent p)

include consistent

theorem Consistent.connectEvents (here : p.threads[index]? = some (.connecting retry
    (.checkTickExchange c))) (alone : Alone p index)
    (state : p.state.state = .connecting) (isOpen : p.state.channelOpen c = true) (taken : Nat)
    (alive : Alive (AMQPHolder.connectEvents publishable p.state retry taken).1) :
    Consistent ⟨(AMQPHolder.connectEvents publishable p.state retry taken).1,
      p.threads.set index (AMQPHolder.connectEvents publishable p.state retry taken).2⟩ := by
  have mem := mem_of_getElem? here
  have own : p.state.channel = some c := consistent.fits _ mem
  have engaged (kind : Kind) :
      (.connecting retry (.checkTickExchange c) : Task Message).engaged kind c = true :=
    decide_eq_true rfl
  have blank (kind : Kind) : (p.state.seen kind c).Blank :=
    (consistent.served kind c own isOpen).expected _ mem (engaged kind)
  unfold AMQPHolder.connectEvents at alive ⊢
  split at alive
  · next started =>
      rw [if_pos started, AMQPHolder.doConsume, consistent.onClient here rfl (frame_refl _)]
      refine consistent.call here rfl (frame_refl _) state consistent.wanted rfl
        fun kind _ old => ?_
      refine old.own here (engaged kind) (fun _ => ?_) fun finished => ?_
      · cases kind with
        | event => exact ⟨started, blank .event⟩
        | tick => exact blank .tick
      · simp [Task.engaged] at finished
  · next unstarted =>
      rw [if_neg unstarted]
      exact consistent.connectTicks here alone rfl (engaged .event) (frame_refl _) state
        consistent.wanted isOpen (.inr ⟨Bool.eq_false_iff.mpr unstarted, blank .event⟩)
        (blank .tick) taken alive

theorem Consistent.bare (state : p.state.state = .connecting)
    (channel : p.state.channel = none) : Bare p.state where
  state := state
  channel := channel
  tag := consistent.detached channel
  closed := by
    intro c
    by_contra isOpen
    cases (consistent.opened c (Bool.not_eq_false _ ▸ isOpen)).symm.trans channel
  wanted := consistent.wanted

theorem Consistent.newConnection (here : p.threads[index]? = some
    (.connecting retry .newConnection))
    (alone : Alone p index) (state : p.state.state = .connecting) (taken : Nat) :
    Consistent ⟨(connectNext publishable p.state retry taken .newConnection).1,
      p.threads.set index (connectNext publishable p.state retry taken .newConnection).2⟩ := by
  have channel : p.state.channel = none := consistent.fits _ (mem_of_getElem? here)
  have bare := consistent.bare state channel
  have bare' : Bare (connectNext publishable p.state retry taken .newConnection).1 :=
    ⟨bare.state, bare.channel, bare.tag, bare.closed, bare.wanted⟩
  refine bare'.consistent (fun task mem kind c engaged => ?_) fun task mem => ?_
  · rcases mem_or_eq_of_mem_set mem with old | rfl
    · exact Nat.lt_succ_of_lt (consistent.bound task old kind c engaged)
    · cases engaged
  · obtain ⟨j, there⟩ := List.getElem?_of_mem mem
    rcases Pool.getElem?_set_cases p.threads index j _ _ task here there with
      ⟨_, rfl⟩ | ⟨distinct, old⟩
    · exact ⟨channel, by simp [connectNext]⟩
    · exact (consistent.fits task (mem_of_getElem? old)).of_other (alone j task distinct old)

theorem Consistent.createChannel {connection : Nat}
    (here : p.threads[index]? = some (.connecting retry (.createChannel connection)))
    (alone : Alone p index) (state : p.state.state = .connecting) (taken : Nat) :
    Consistent ⟨(connectNext publishable p.state retry taken (.createChannel connection)).1,
      p.threads.set index
        (connectNext publishable p.state retry taken (.createChannel connection)).2⟩ := by
  obtain ⟨channel, listened⟩ : p.state.channel = none ∧
      (p.state.connections connection).listened = true :=
    consistent.fits _ (mem_of_getElem? here)
  have bare := consistent.bare state channel
  constructor
  case bound =>
    intro task mem kind c engaged
    rcases mem_or_eq_of_mem_set mem with old | rfl
    · exact Nat.lt_succ_of_lt (consistent.bound task old kind c engaged)
    · have same : p.state.made = c := of_decide_eq_true engaged
      exact same ▸ Nat.lt_succ_self _
  case known =>
    intro c own
    cases own
    exact Nat.lt_succ_self _
  case fits =>
    intro task mem
    obtain ⟨j, there⟩ := List.getElem?_of_mem mem
    rcases Pool.getElem?_set_cases p.threads index j _ _ task here there with
      ⟨_, rfl⟩ | ⟨distinct, old⟩
    · rfl
    · exact (consistent.fits task (mem_of_getElem? old)).of_other (alone j task distinct old)
  case detached =>
    intro none_
    cases none_
  case client =>
    intro c own kind
    exact own
  case listened =>
    intro c own
    cases own
    simpa [connectNext] using listened
  case opened =>
    intro c isOpen
    by_cases same : c = p.state.made
    · exact congrArg some same.symm
    · have before : (p.state.channels c).isOpen = true := by simpa [connectNext, same] using isOpen
      cases (bare.closed c).symm.trans before
  case live =>
    intro connected
    cases state.symm.trans connected
  case idle =>
    intro closed
    cases state.symm.trans closed
  case served =>
    intro kind c own _
    obtain rfl : p.state.made = c := Option.some.inj own
    have others : ∀ task ∈ p.threads, task.engaged kind p.state.made = false := by
      intro task mem
      by_contra engaged
      exact absurd (consistent.bound task mem kind _ (Bool.not_eq_false _ ▸ engaged))
        (Nat.lt_irrefl _)
    have none_ := Pool.total_eq_zero (engagement kind p.state.made) p.threads fun task mem =>
      engagement_of_false (others task mem)
    have old : Served ⟨false, none, []⟩ p.threads kind p.state.made := by
      refine ⟨?_, fun task mem engaged => ?_, fun _ => .inr ⟨rfl, rfl, rfl⟩⟩
      · exact Int.le_trans (Int.le_of_eq none_) (by decide)
      · cases (others task mem).symm.trans engaged
    refine old.step here (fun _ => ⟨bare.tag kind, ?_⟩) (fun _ _ => others)
      (fun j other _ there engaged => ?_) fun finished => ?_
    · simp [connectNext, World.seen]
    · cases (others other (mem_of_getElem? there)).symm.trans engaged
    · cases finished.symm.trans (decide_eq_true rfl)
  case wanted => exact bare.wanted

theorem Consistent.check (here : p.threads[index]? = some (.connecting retry phase))
    (channel : phase.channel = some c)
    (state : p.state.state = .connecting) {phase' : Phase} (channel' : phase'.channel = some c)
    (engaged : ∀ kind, (.connecting retry phase : Task Message).engaged kind c = true)
    (engaged' : ∀ kind, (.connecting retry phase' : Task Message).engaged kind c = true)
    (before : ∀ kind s, Seen.Expected s kind (.connecting retry phase : Task Message) ↔ s.Blank)
    (after : ∀ kind s, Seen.Expected s kind (.connecting retry phase' : Task Message) ↔ s.Blank) :
    Consistent ⟨p.state, p.threads.set index (.connecting retry phase')⟩ := by
  have mem := mem_of_getElem? here
  refine consistent.call here channel (frame_refl _) state consistent.wanted channel'
    fun kind _ old => ?_
  have blank := (before kind _).mp (old.expected _ mem (engaged kind))
  refine old.own here (engaged kind) (fun _ => (after kind _).mpr blank) fun finished => ?_
  cases finished.symm.trans (engaged' kind)

theorem Consistent.connectConsumed {kind : Kind} {consumption : Consumption}
    (here : p.threads[index]? = some (.connecting retry (.doConsume kind c consumption)))
    (alone : Alone p index)
    (state : p.state.state = .connecting) (isOpen : p.state.channelOpen c = true) (taken : Nat)
    (alive : Alive (AMQPHolder.connectConsumed publishable retry taken kind c
    (consumed p.state kind c consumption)).1) :
    Consistent ⟨(AMQPHolder.connectConsumed publishable retry taken kind c
        (consumed p.state kind c consumption)).1,
      p.threads.set index (AMQPHolder.connectConsumed publishable retry taken kind c
        (consumed p.state kind c consumption)).2⟩ := by
  have mem := mem_of_getElem? here
  have own : p.state.channel = some c := consistent.fits _ mem
  have engaged : (.connecting retry (.doConsume kind c consumption) : Task Message).engaged kind
      c = true := by simp [Task.engaged]
  have consuming : (p.state.seen kind c).Consuming consumption := by
    have expected := (consistent.served kind c own isOpen).expected _ mem engaged
    simpa [Seen.Expected] using expected
  have frame := frame_consumed p.state kind c consumption
  obtain ⟨goesOn, settled⟩ := seen_consumed p.state kind c consumption consuming
  have other (k : Kind) (distinct : k ≠ kind) := seen_consumed_other p.state distinct c consumption
  have started (k : Kind) := started_consumed p.state kind k c consumption
  have same := sameMail_consumed p.state kind c consumption
  have wanted_ : (consumed p.state kind c consumption).1.wanted = p.state.wanted := by
    cases consumption with
    | consume => cases kind <;> rfl
    | _ => rfl
  have isOpen' : (consumed p.state kind c consumption).1.channelOpen c = true := by
    cases consumption with
    | consume => cases kind <;> simpa [consumed, World.channelOpen, World.addConsumer,
        World.setTag, World.setSide] using isOpen
    | _ => exact isOpen
  generalize consumed p.state kind c consumption = result at *
  obtain ⟨w', following⟩ := result
  have state' : w'.state = .connecting := same.state.trans state
  have wanted (k : Kind) : (w'.side k).consumeStarted = w'.wanted k := by
    rw [wanted_]
    exact (started k).trans (consistent.wanted k)
  cases following with
  | some following =>
    refine consistent.call here rfl frame state' wanted rfl fun k _ old => ?_
    by_cases isKind : k = kind
    · subst isKind
      refine old.own here engaged (fun _ => ?_) fun finished => ?_
      · simpa [Seen.Expected] using goesOn following rfl
      · simp [Task.engaged] at finished
    · change Served (w'.seen k c) _ k c
      rw [other k isKind]
      by_cases both : (.connecting retry (.doConsume kind c consumption) : Task Message).engaged
          k c = true
      · refine old.own here both (fun _ => ?_) fun finished => ?_
        · have expected := old.expected _ mem both
          simpa [Seen.Expected, Ne.symm isKind] using expected
        · exact absurd (both.symm.trans finished) (by decide)
      · have none_ := Bool.eq_false_iff.mpr both
        exact old.aside here none_ none_
  | none =>
    have settled : (w'.seen kind c).Settled := settled rfl
    cases kind with
    | event =>
      refine consistent.connectTicks here alone rfl engaged frame state' wanted isOpen' settled
        ?_ taken alive
      have expected := (consistent.served .tick c own isOpen).expected _ mem
        (engaged_tick rfl)
      rw [other .tick (by decide)]
      exact expected
    | tick =>
      refine consistent.flushAll here alone rfl frame state' wanted isOpen' (fun k => ?_) taken
        alive
      have old := consistent.served k c own isOpen
      cases k with
      | event =>
        rw [other .event (by decide)]
        exact old.aside here (by simp [Task.engaged]) rfl
      | tick => exact old.own here engaged (fun finished => by cases finished) fun _ => settled

theorem Consistent.connectReply (here : p.threads[index]? = some (.connecting retry phase))
    (alone : Alone p index) (state : p.state.state = .connecting) (reply : Reply)
    (answered : Answered p.state (.connecting retry phase) reply)
    (alive : Alive (AMQPHolder.connectReply publishable p.state retry phase reply).1) :
    Consistent ⟨(AMQPHolder.connectReply publishable p.state retry phase reply).1,
      p.threads.set index (AMQPHolder.connectReply publishable p.state retry phase reply).2⟩ := by
  have mem := mem_of_getElem? here
  have closes (closing : Closing) (none_ : p.state.channel = none)
      (after : Alive (AMQPHolder.connectAfter retry (closing.next p.state)).1) :
      Consistent ⟨(AMQPHolder.connectAfter retry (closing.next p.state)).1,
        p.threads.set index (AMQPHolder.connectAfter retry (closing.next p.state)).2⟩ := by
    have bare := (consistent.bare state none_).closing closing
    refine consistent.connectAfter alone bare ?_ retry after
    cases closing <;> exact Nat.le_refl _
  cases reply with
  | failed =>
    cases phase with
    | closing closing => exact closes closing (consistent.fits _ mem) alive
    | _ =>
      exact consistent.connectFailed alone (frame_refl _) state consistent.wanted retry alive
  | ok taken =>
    cases phase with
    | closing closing => exact closes closing (consistent.fits _ mem) alive
    | newConnection =>
      exact @Consistent.newConnection _ publishable _ _ _ consistent here alone state taken
    | createChannel connection =>
      exact @Consistent.createChannel _ publishable _ _ _ consistent connection here alone state
        taken
    | prefetch c | checkEventExchange c | checkQueue c =>
      simp only [AMQPHolder.connectReply, connectNext]
      rw [consistent.onClient here rfl (frame_refl _)]
      exact consistent.check here rfl state rfl (fun _ => decide_eq_true rfl)
        (fun _ => decide_eq_true rfl) (fun _ _ => Iff.rfl) fun _ _ => Iff.rfl
    | checkTickExchange c =>
      exact consistent.connectEvents here alone state (answered c rfl) taken alive
    | doConsume kind c consumption =>
      exact consistent.connectConsumed here alone state (answered c rfl) taken alive

end

end Attempt

section Calls

variable {p : Run Message} {index : Nat} {task task' : Task Message} {w' : World Message}

theorem Consistent.touch (consistent : Consistent p) (frame : Frame p.state w')
    (state : w'.state = p.state.state) (isOpen : ∀ c, w'.channelOpen c = p.state.channelOpen c)
    (tag : p.state.channel = none → ∀ kind, (w'.side kind).consumeTag = none)
    (bound : ∀ kind c, task'.engaged kind c = true → c < p.state.made) (fits : PhaseFits w' task')
    (served : ∀ kind c, p.state.channel = some c → p.state.channelOpen c = true →
      Served (p.state.seen kind c) p.threads kind c →
      Served (w'.seen kind c) (p.threads.set index task') kind c)
    (wanted : ∀ kind, (w'.side kind).consumeStarted = w'.wanted kind) :
    Consistent ⟨w', p.threads.set index task'⟩ := by
  refine consistent.frame frame (fun kind c engaged => ?_) fits (fun none_ => ?_)
    (fun connected => ?_) (fun closed => state.symm.trans closed) (fun kind c own open_ old => ?_)
    wanted
  · exact Nat.lt_of_lt_of_le (bound kind c engaged) frame.made
  · exact tag (frame.channel.symm.trans none_)
  · obtain ⟨c, own, open_⟩ := consistent.live (state.symm.trans connected)
    exact ⟨c, frame.channel.trans own, (isOpen c).trans open_⟩
  · exact served kind c (frame.channel.symm.trans own) ((isOpen c).symm.trans open_) old

section

variable (consistent : Consistent p) (here : p.threads[index]? = some task)
  (alone : NoneConnects p)

include consistent here alone

theorem Consistent.reconnect (frame : Frame p.state w') (state : w'.state = p.state.state)
    (started : ∀ kind, (w'.side kind).consumeStarted = (p.state.side kind).consumeStarted)
    (tag : ∀ kind, (w'.side kind).consumeTag = (p.state.side kind).consumeTag)
    (consumers : ∀ c, (w'.channels c).consumers = (p.state.channels c).consumers)
    (wanted : w'.wanted = p.state.wanted) (before : ∀ kind c, task.engaged kind c = false)
    (alive : Alive (AMQPHolder.reconnect w').1) : Consistent ⟨(AMQPHolder.reconnect w').1,
      p.threads.set index (AMQPHolder.reconnect w').2⟩ := by
  by_cases connecting : w'.state = .connecting
  · rw [AMQPHolder.reconnect, if_pos connecting]
    refine consistent.beside here frame state started tag consumers wanted (fun connected => ?_)
      before (fun _ _ => rfl) trivial
    cases connecting.symm.trans (state.trans connected)
  · rw [AMQPHolder.reconnect, if_neg connecting] at alive ⊢
    have idle : p.state.state ≠ .connecting := fun eq => connecting (state.trans eq)
    have opened (c : Nat) (isOpen : (w'.channels c).isOpen = true) : w'.channel = some c :=
      frame.channel.trans (consistent.opened c (frame.channels c isOpen))
    have wanted' (kind : Kind) : (w'.side kind).consumeStarted = w'.wanted kind := by
      rw [wanted]
      exact (started kind).trans (consistent.wanted kind)
    refine consistent.connectAfter (fun j other _ there => ?_)
      (@bare_doClose _ { w' with state := .connecting } rfl opened wanted') ?_ 0 alive
    · exact alone idle other (mem_of_getElem? there)
    · rw [made_doClose]
      exact frame.made

theorem Consistent.prepare (before : ∀ kind c, task.engaged kind c = false)
    (alive : Alive (AMQPHolder.prepare p.state).1) : Consistent ⟨(AMQPHolder.prepare p.state).1,
      p.threads.set index (AMQPHolder.prepare p.state).2⟩ := by
  unfold AMQPHolder.prepare at alive ⊢
  split at alive
  · next closed =>
      rw [if_pos closed]
      have none_ := consistent.idle closed
      have bare : Bare { p.state with state := .connecting } := by
        refine ⟨rfl, none_, consistent.detached none_, fun c => ?_, consistent.wanted⟩
        by_contra isOpen
        cases (consistent.opened c (Bool.not_eq_false _ ▸ isOpen)).symm.trans none_
      refine @Consistent.connectAfter _ _ _ consistent (fun j other _ there => ?_)
        ({ p.state with state := .connecting }, .done) bare (Nat.le_refl _) 0 alive
      exact alone (by simp [closed]) other (mem_of_getElem? there)
  · next other =>
      rw [if_neg other]
      exact consistent.beside here (frame_refl _) rfl (fun _ => rfl) (fun _ => rfl) (fun _ => rfl)
        rfl (fun _ _ _ => id) before (fun _ _ => rfl) trivial

end

variable (w : World Message)

theorem frame_push (kind : Kind) (message : Message) : Frame w (push w kind message) :=
  frame_side kind { w.side kind with pending := (w.side kind).pending ++ [message] } rfl rfl rfl
    rfl rfl rfl

theorem seen_push (kind other : Kind) (message : Message) (channel : Nat) :
    (push w kind message).seen other channel = w.seen other channel := by
  by_cases same : other = kind
  · subst same
    simp [World.seen, push, World.setSide]
  · simp [World.seen, push, World.setSide, same]

theorem Consistent.publish (consistent : Consistent p) (here : p.threads[index]? = some task)
    (alone : NoneConnects p)
    (before : ∀ kind c, task.engaged kind c = false) (kind : Kind) (message : Message)
    (alive : Alive (AMQPHolder.publish publishable p.state kind message).1) :
    Consistent ⟨(AMQPHolder.publish publishable p.state kind message).1,
      p.threads.set index (AMQPHolder.publish publishable p.state kind message).2⟩ := by
  have called : Frame p.state { p.state with
      called := update p.state.called kind (p.state.called kind ++ [message]) } :=
    ⟨rfl, Nat.le_refl _, fun _ => rfl, fun _ => rfl, fun _ => id, fun _ => rfl, fun _ => rfl,
      fun _ => id⟩
  have pushed := called.trans (frame_push _ kind message)
  have seen (other : Kind) := seen_push { p.state with
    called := update p.state.called kind (p.state.called kind ++ [message]) } kind other
    message
  have started (other : Kind) := congrArg Seen.started (seen other 0)
  have tag (other : Kind) := congrArg Seen.tag (seen other 0)
  unfold AMQPHolder.publish at alive ⊢
  dsimp only at alive ⊢
  split_ifs at alive ⊢
  · exact consistent.beside here called rfl (fun _ => rfl) (fun _ => rfl) (fun _ => rfl) rfl
      (fun _ _ _ => id) before (fun _ _ => rfl) trivial
  · exact consistent.beside here pushed rfl started tag (fun _ => rfl) rfl
      (fun _ _ _ => id) before (fun _ _ => rfl) trivial
  · exact consistent.beside here
      ⟨rfl, Nat.le_refl _, fun _ => rfl, fun _ => rfl, fun _ => id, fun _ => rfl, fun _ => rfl,
        fun _ => id⟩ rfl (fun _ => rfl) (fun _ => rfl) (fun _ => rfl) rfl
      (fun _ _ _ => id) before (fun _ _ => rfl) trivial
  · exact consistent.reconnect here alone pushed rfl started tag (fun _ => rfl) rfl before alive

def World.asked (kind : Kind) (wanted : Bool) : World Message :=
  { w with
    side := update w.side kind { w.side kind with consumeStarted := wanted }
    wanted := update w.wanted kind wanted }

theorem seen_asked (kind : Kind) (wanted : Bool) (channel : Nat) :
    (w.asked kind wanted).seen kind channel = { w.seen kind channel with started := wanted } := by
  simp [World.seen, World.asked]

theorem seen_asked_other {kind other : Kind} (distinct : other ≠ kind)
    (wanted : Bool) (channel : Nat) :
    (w.asked kind wanted).seen other channel = w.seen other channel := by
  simp [World.seen, World.asked, distinct]

theorem Consistent.asked (consistent : Consistent p) (here : p.threads[index]? = some task)
    (before : ∀ kind c, task.engaged kind c = false) (kind : Kind) (wanted : Bool)
    (own : ∀ other c, task'.engaged other c = true → other = kind ∧ p.state.channel = some c)
    (fits : PhaseFits (p.state.asked kind wanted) task')
    (served : ∀ c, p.state.channel = some c → p.state.channelOpen c = true →
      Served (p.state.seen kind c) p.threads kind c →
      Served { p.state.seen kind c with started := wanted } (p.threads.set index task') kind c) :
    Consistent ⟨p.state.asked kind wanted, p.threads.set index task'⟩ := by
  refine consistent.touch (frame_side kind _ ?_ rfl rfl rfl rfl rfl) rfl (fun _ => rfl)
    (fun none_ other => ?_) (fun other c engaged => ?_) fits (fun other c held isOpen old => ?_)
    fun other => ?_
  · rfl
  · have same : ((p.state.asked kind wanted).side other).consumeTag =
        (p.state.side other).consumeTag := by
      by_cases isKind : other = kind
      · subst isKind
        simp [World.asked]
      · simp [World.asked, isKind]
    exact same.trans (consistent.detached none_ other)
  · exact consistent.known c (own other c engaged).2
  · by_cases isKind : other = kind
    · subst isKind
      rw [seen_asked]
      exact served c held isOpen old
    · rw [seen_asked_other p.state isKind]
      refine old.aside here (before other c) ?_
      by_contra engaged
      exact isKind (own other c (Bool.not_eq_false _ ▸ engaged)).1
  · by_cases isKind : other = kind
    · subst isKind
      simp [World.asked]
    · simpa [World.asked, isKind] using consistent.wanted other

variable {s : Seen} {threads : List (Task Message)} {kind : Kind} {channel : Nat}

/-- While the flag is down, only an attempt and the removal of a consumer are engaged. -/
theorem Served.attempt (served : Served s threads kind channel) (stopped : s.started = false)
    (mem : task ∈ threads) (engaged : task.engaged kind channel = true)
    (other : task.cancels kind channel = false) : task.isConnecting = true := by
  have expected := served.expected task mem engaged
  cases task with
  | connecting retry phase => rfl
  | consuming k c consumption => cases stopped.symm.trans expected.1
  | canceling k c tag => cases engaged.symm.trans other
  | _ => cases engaged

theorem expected_iff_blank (s : Seen) (attempt : task.isConnecting = true)
    (engaged : task.engaged kind channel = true)
    (unconsumed : task.consumes kind channel = false) : s.Expected kind task ↔ s.Blank := by
  cases task with
  | connecting retry phase =>
    cases phase with
    | doConsume k c consumption =>
      have isChannel : c = channel := by
        simp only [Task.engaged, Bool.and_eq_true, decide_eq_true_eq] at engaged
        exact engaged.1
      have other : k ≠ kind := by
        simpa [Task.consumes, isChannel] using unconsumed
      simp only [Seen.Expected, if_neg other]
    | _ => exact Iff.rfl
  | _ => cases attempt

/-- While the flag is up, only an attempt and the making of a consumer are engaged. -/
theorem Served.blank (served : Served s threads kind channel) (started : s.started = true)
    (mem : task ∈ threads) (engaged : task.engaged kind channel = true)
    (unconsumed : task.consumes kind channel = false) : task.isConnecting = true ∧ s.Blank := by
  have expected := served.expected task mem engaged
  cases task with
  | connecting retry phase =>
    exact ⟨rfl, (expected_iff_blank s rfl engaged unconsumed).mp expected⟩
  | consuming k c consumption => cases engaged.symm.trans unconsumed
  | canceling k c tag => cases started.symm.trans expected.1
  | _ => cases engaged

theorem consumes_of_unlooked (attempt : task.isConnecting = true)
    (unlooked : task.hasLooked kind = false) (channel : Nat) :
    task.consumes kind channel = false := by
  cases task with
  | connecting retry phase =>
    cases phase with
    | doConsume k c consumption =>
      have other : k ≠ kind ∧ k ≠ .tick := by simpa [Task.hasLooked] using unlooked
      simp [Task.consumes, other.1]
    | _ => rfl
  | _ => cases attempt

theorem engaged_of_unlooked {w : World Message} (attempt : task.isConnecting = true)
    (fits : PhaseFits w task) (own : w.channel = some channel)
    (unlooked : task.hasLooked kind = false) : task.engaged kind channel = true := by
  cases task with
  | connecting retry phase =>
    cases phase with
    | closing closing | newConnection => cases own.symm.trans fits
    | createChannel connection => cases own.symm.trans fits.1
    | doConsume k c consumption =>
      cases own.symm.trans fits
      have isEvent : k = .event := by
        cases k with
        | event => rfl
        | tick => simp [Task.hasLooked] at unlooked
      simp [Task.engaged, isEvent]
    | _ =>
      cases own.symm.trans fits
      exact decide_eq_true rfl
  | _ => cases attempt

theorem exists_attempt (one : Pool.total attempts threads = 1) :
    ∃ task ∈ threads, task.isConnecting = true := by
  by_contra none_
  have zero := Pool.total_eq_zero attempts threads fun task mem =>
    attempts_of_false (Bool.eq_false_iff.mpr fun attempt => none_ ⟨task, mem, attempt⟩)
  omega

section

variable (consistent : Consistent p)

include consistent

theorem Consistent.consume (here : p.threads[index]? = some (.consume kind))
    (publishing : Publishing p) (alone : NoneConnects p)
    (requested : Requested p (.consume kind)) : Consistent ⟨(AMQPHolder.consume p.state kind).1,
      p.threads.set index (AMQPHolder.consume p.state kind).2⟩ := by
  -- Where the flag is up already, the request changes nothing.
  have same (started : (p.state.side kind).consumeStarted = true) (c : Nat) :
      { p.state.seen kind c with started := true } = p.state.seen kind c := by
    rw [World.seen, started]
  by_cases connected : p.state.state = .connected
  · obtain ⟨c, own, isOpen⟩ := consistent.live connected
    have client := consistent.client c own kind
    have old := consistent.served kind c own isOpen
    have idle (task : Task Message) (mem : task ∈ p.threads) : task.isConnecting = false :=
      alone (by simp [connected]) task mem
    by_cases started : (p.state.side kind).consumeStarted = true
    · have unconsumed : ∀ task ∈ p.threads, task.consumes kind c = false := by
        simp only [Requested, if_pos started] at requested
        exact requested connected c own
      have none_ : ∀ task ∈ p.threads, task.engaged kind c = false := by
        intro task mem
        by_contra engaged
        have attempt := (old.blank started mem (Bool.not_eq_false _ ▸ engaged)
          (unconsumed task mem)).1
        exact absurd (attempt.symm.trans (idle task mem)) (by decide)
      rcases old.settled none_ with ⟨_, tag, hasTag, _⟩ | ⟨stopped, _⟩
      · have result : AMQPHolder.consume p.state kind = (p.state.asked kind true, .done) := by
          simp only [World.seen] at hasTag
          simp [AMQPHolder.consume, World.asked, connected, hasTag]
        rw [result]
        refine consistent.asked here (fun _ _ => rfl) kind true (fun _ _ engaged => ?_) trivial
          fun c _ _ old => ?_
        · cases engaged
        · rw [same started]
          exact old.aside here rfl rfl
      · cases stopped.symm.trans started
    · have stopped : (p.state.side kind).consumeStarted = false := Bool.eq_false_iff.mpr started
      have free : ∀ task ∈ p.threads, task.hasLooked kind = false ∧
          ∀ c ∈ p.state.channel, task.cancels kind c = false := by
        simpa only [Requested, if_neg started] using requested
      have none_ : ∀ task ∈ p.threads, task.engaged kind c = false := by
        intro task mem
        by_contra engaged
        have attempt := old.attempt stopped mem (Bool.not_eq_false _ ▸ engaged)
          ((free task mem).2 c own)
        exact absurd (attempt.symm.trans (idle task mem)) (by decide)
      rcases old.settled none_ with ⟨started', _⟩ | ⟨_, noTag, empty⟩
      · exact absurd started' started
      · have result : AMQPHolder.consume p.state kind =
            (p.state.asked kind true, .consuming kind c (.first kind)) := by
          simp only [World.seen] at noTag
          simp [AMQPHolder.consume, World.asked, connected, noTag, client]
        rw [result]
        refine consistent.asked here (fun _ _ => rfl) kind true (fun other held engaged => ?_)
          trivial fun held there _ old => ?_
        · simp only [Task.engaged, Bool.and_eq_true, decide_eq_true_eq] at engaged
          exact ⟨engaged.1.symm, engaged.2 ▸ own⟩
        · cases there.symm.trans own
          refine old.step here (fun _ => ⟨rfl, noTag, ?_⟩) (fun _ _ => none_)
            (fun j other _ there engaged => ?_) fun finished => ?_
          · cases kind <;> exact empty
          · cases (none_ other (mem_of_getElem? there)).symm.trans engaged
          · simp [Task.engaged] at finished
  · have result : AMQPHolder.consume p.state kind = (p.state.asked kind true, .done) := by
      simp [AMQPHolder.consume, World.asked, connected]
    rw [result]
    refine consistent.asked here (fun _ _ => rfl) kind true (fun _ _ engaged => ?_) trivial
      fun c own isOpen old => ?_
    · cases engaged
    by_cases started : (p.state.side kind).consumeStarted = true
    · rw [same started]
      exact old.aside here rfl rfl
    · have stopped : (p.state.side kind).consumeStarted = false := Bool.eq_false_iff.mpr started
      have free : ∀ task ∈ p.threads, task.hasLooked kind = false ∧
          ∀ c ∈ p.state.channel, task.cancels kind c = false := by
        simpa only [Requested, if_neg started] using requested
      refine old.step here (fun engaged => by cases engaged) (fun _ engaged => by cases engaged)
        (fun j other _ there engaged => ?_) fun _ none_ => ?_
      · have mem := mem_of_getElem? there
        have attempt := old.attempt stopped mem engaged ((free other mem).2 c own)
        have unconsumed := consumes_of_unlooked attempt (free other mem).1 c
        have blank := (expected_iff_blank _ attempt engaged unconsumed).mp
          (old.expected other mem engaged)
        exact (expected_iff_blank _ attempt engaged unconsumed).mpr blank
      · -- The attempt in progress is still to look.
        have connecting : p.state.state = .connecting := by
          cases state : p.state.state with
          | closed => cases own.symm.trans (consistent.idle state)
          | connecting => rfl
          | connected => exact absurd state connected
        have one := publishing.one
        rw [if_pos connecting] at one
        obtain ⟨task, mem, attempt⟩ := exists_attempt one
        have engaged := engaged_of_unlooked attempt (consistent.fits task mem) own (free task mem).1
        obtain ⟨j, there⟩ := List.getElem?_of_mem mem
        have distinct : j ≠ index := by
          intro eq
          subst eq
          cases here.symm.trans there
          cases attempt
        exact absurd (engaged.symm.trans (none_ j task distinct there)) (by decide)

theorem Consistent.cancelConsume (here : p.threads[index]? = some (.cancelConsume kind))
    (requested : Requested p (.cancelConsume kind)) :
    Consistent ⟨(AMQPHolder.cancelConsume p.state kind).1,
      p.threads.set index (AMQPHolder.cancelConsume p.state kind).2⟩ := by
  by_cases started : (p.state.side kind).consumeStarted = true
  · have unconsumed (c : Nat) (own : p.state.channel = some c) :
        ∀ task ∈ p.threads, task.consumes kind c = false := requested started c own
    -- Without a tag, an attempt has not come to the consumer of the kind.
    have gives (noTag : ∀ c, p.state.channel = some c → (p.state.side kind).consumeTag = none) :
        Consistent ⟨p.state.asked kind false, p.threads.set index .done⟩ := by
      refine consistent.asked here (fun _ _ => rfl) kind false (fun _ _ engaged => ?_) trivial
        fun c own isOpen old => ?_
      · cases engaged
      refine old.step here (fun engaged => by cases engaged) (fun _ engaged => by cases engaged)
        (fun j other _ there engaged => ?_) fun _ none_ => ?_
      · have mem := mem_of_getElem? there
        obtain ⟨attempt, blank⟩ := old.blank started mem engaged (unconsumed c own other mem)
        exact (expected_iff_blank _ attempt engaged (unconsumed c own other mem)).mpr blank
      · have all : ∀ task ∈ p.threads, task.engaged kind c = false := by
          intro task mem
          obtain ⟨j, there⟩ := List.getElem?_of_mem mem
          by_cases same : j = index
          · subst same
            cases here.symm.trans there
            rfl
          · exact none_ j task same there
        rcases old.settled all with ⟨_, tag, hasTag, _⟩ | ⟨stopped, _⟩
        · cases (noTag c own).symm.trans hasTag
        · cases stopped.symm.trans started
    cases hasTag : (p.state.side kind).consumeTag with
    | none =>
      have result : AMQPHolder.cancelConsume p.state kind =
          (p.state.asked kind false, .done) := by
        simp [AMQPHolder.cancelConsume, World.asked, started, hasTag]
      rw [result]
      exact gives fun _ _ => hasTag
    | some tag =>
      cases channel : p.state.channel with
      | none => cases (consistent.detached channel kind).symm.trans hasTag
      | some c =>
        have result : AMQPHolder.cancelConsume p.state kind =
            (p.state.asked kind false, .canceling kind c tag) := by
          simp [AMQPHolder.cancelConsume, World.asked, started, hasTag, channel]
        rw [result]
        refine consistent.asked here (fun _ _ => rfl) kind false (fun other held engaged => ?_)
          trivial fun held there isOpen old => ?_
        · simp only [Task.engaged, Bool.and_eq_true, decide_eq_true_eq] at engaged
          exact ⟨engaged.1.symm, engaged.2 ▸ channel⟩
        · cases there.symm.trans channel
          have none_ : ∀ task ∈ p.threads, task.engaged kind c = false := by
            intro task mem
            by_contra engaged
            have blank := (old.blank started mem (Bool.not_eq_false _ ▸ engaged)
              (unconsumed c channel task mem)).2
            cases blank.1.symm.trans hasTag
          rcases old.settled none_ with ⟨_, own, isOwn, consumers⟩ | ⟨stopped, _⟩
          · cases hasTag.symm.trans isOwn
            refine old.step here (fun _ => ⟨rfl, hasTag, consumers⟩) (fun _ _ => none_)
              (fun j other _ there engaged => ?_) fun finished => ?_
            · cases (none_ other (mem_of_getElem? there)).symm.trans engaged
            · simp [Task.engaged] at finished
          · cases stopped.symm.trans started
  · have stopped : (p.state.side kind).consumeStarted = false := Bool.eq_false_iff.mpr started
    have same : { p.state.side kind with consumeStarted := false } = p.state.side kind := by
      rw [← stopped]
    have result : AMQPHolder.cancelConsume p.state kind = (p.state.asked kind false, .done) := by
      simp [AMQPHolder.cancelConsume, World.asked, stopped, same]
    rw [result]
    refine consistent.asked here (fun _ _ => rfl) kind false (fun _ _ engaged => ?_) trivial
      fun c _ _ old => ?_
    · cases engaged
    · have unchanged : { p.state.seen kind c with started := false } = p.state.seen kind c := by
        rw [World.seen, stopped]
      rw [unchanged]
      exact old.aside here rfl rfl

theorem Consistent.connectionLost {c : Nat} (here : p.threads[index]? = some (.connectionLost c))
    (alone : NoneConnects p) {reply : Reply} {r : World Message × Task Message}
    (moves : next publishable p.state (.connectionLost c) reply = some r) (alive : Alive r.1) :
    Consistent ⟨r.1, p.threads.set index r.2⟩ := by
  have hears (c' : Nat) : ((update p.state.connections c
      { p.state.connections c with isOpen := false }) c').listened =
        (p.state.connections c').listened := by
    by_cases same : c' = c
    · subst same
      simp
    · simp [same]
  have frame : Frame p.state { p.state with
      connections := update p.state.connections c
        { p.state.connections c with isOpen := false } } := by
    refine ⟨rfl, Nat.le_refl _, fun _ => rfl, hears, fun c' isOpen => ?_, fun _ => rfl,
      fun _ => rfl, fun _ => id⟩
    by_cases same : c' = c
    · subst same
      simp at isOpen
    · simpa [same] using isOpen
  unfold next at moves
  dsimp only at moves
  split_ifs at moves
  · cases moves
    exact consistent.reconnect here alone frame rfl (fun _ => rfl) (fun _ => rfl) (fun _ => rfl)
      rfl (fun _ _ => rfl) alive
  · next unheard =>
      cases moves
      refine consistent.beside here frame rfl (fun _ => rfl) (fun _ => rfl) (fun _ => rfl) rfl
        (fun _ held own isOpen => ?_) (fun _ _ => rfl) (fun _ _ => rfl) trivial
      have heard := (consistent.listened held own).2
      have other : (p.state.channels held).connection ≠ c := by
        intro eq
        rw [eq] at heard
        exact unheard heard
      simpa [World.channelOpen, other] using isOpen

theorem Consistent.channelLost {c : Nat} (here : p.threads[index]? = some (.channelLost c))
    (alone : NoneConnects p) {reply : Reply} {r : World Message × Task Message}
    (moves : next publishable p.state (.channelLost c) reply = some r) (alive : Alive r.1) :
    Consistent ⟨r.1, p.threads.set index r.2⟩ := by
  have frame : Frame p.state { p.state with
      channels := update p.state.channels c
        { p.state.channels c with isOpen := false } } := by
    refine ⟨rfl, Nat.le_refl _, fun _ => rfl, fun _ => rfl, fun _ => id, fun c' => ?_,
      fun c' => ?_, fun c' isOpen => ?_⟩
    · by_cases same : c' = c
      · subst same
        simp
      · simp [same]
    · by_cases same : c' = c
      · subst same
        simp
      · simp [same]
    · by_cases same : c' = c
      · subst same
        simp at isOpen
      · simpa [same] using isOpen
  have consumers (c' : Nat) : ((update p.state.channels c
      { p.state.channels c with isOpen := false }) c').consumers =
        (p.state.channels c').consumers := by
    by_cases same : c' = c
    · subst same
      simp
    · simp [same]
  unfold next at moves
  dsimp only at moves
  split_ifs at moves
  · cases moves
    exact consistent.reconnect here alone frame rfl (fun _ => rfl) (fun _ => rfl) consumers
      rfl (fun _ _ => rfl) alive
  · next unheard =>
      cases moves
      refine consistent.beside here frame rfl (fun _ => rfl) (fun _ => rfl) consumers rfl
        (fun _ held own isOpen => ?_) (fun _ _ => rfl) (fun _ _ => rfl) trivial
      have other : held ≠ c := by
        intro eq
        subst eq
        exact unheard (consistent.listened held own).1
      simpa [World.channelOpen, other] using isOpen

theorem Consistent.failed (here : p.threads[index]? = some task)
    {c : Nat} (lost : p.state.channelOpen c = false)
    (own : ∀ kind held, task.engaged kind held = true → held = c) :
    Consistent ⟨p.state, p.threads.set index .done⟩ := by
  refine consistent.touch (frame_refl _) rfl (fun _ => rfl) consistent.detached
    (fun _ _ engaged => by cases engaged) trivial (fun kind held there isOpen old => ?_)
    consistent.wanted
  refine old.aside here ?_ rfl
  by_contra engaged
  have isLost := own kind held (Bool.not_eq_false _ ▸ engaged)
  rw [isLost, lost] at isOpen
  cases isOpen

end

theorem wanted_consumed (w : World Message) (kind : Kind) (channel : Nat)
    (consumption : Consumption) : (consumed w kind channel consumption).1.wanted = w.wanted := by
  cases consumption with
  | consume => cases kind <;> rfl
  | _ => rfl

theorem channelOpen_consumed (w : World Message) (kind : Kind) (channel : Nat)
    (consumption : Consumption) (c : Nat) :
    (consumed w kind channel consumption).1.channelOpen c = w.channelOpen c := by
  have added (k : Kind) : (w.addConsumer k channel).channelOpen c = w.channelOpen c := by
    by_cases same : c = channel
    · subst same
      simp [World.addConsumer, World.channelOpen]
    · simp [World.addConsumer, World.channelOpen, same]
  cases consumption with
  | consume => cases kind with
    | event => exact added .event
    | tick => exact added .tick
  | _ => rfl

theorem Consistent.consuming (consistent : Consistent p) {consumption : Consumption}
    (here : p.threads[index]? = some (.consuming kind channel consumption))
    (isOpen : p.state.channelOpen channel = true) : Consistent
      ⟨(consumeNext kind channel (consumed p.state kind channel consumption)).1,
        p.threads.set index
          (consumeNext kind channel (consumed p.state kind channel consumption)).2⟩ := by
  have own : p.state.channel = some channel :=
    consistent.opened channel (Bool.and_eq_true_iff.mp isOpen).1
  have mem := mem_of_getElem? here
  have engaged : (.consuming kind channel consumption : Task Message).engaged kind channel =
      true := by simp [Task.engaged]
  have consuming : (p.state.seen kind channel).Consuming consumption :=
    (consistent.served kind channel own isOpen).expected _ mem engaged
  obtain ⟨goesOn, settled⟩ := seen_consumed p.state kind channel consumption consuming
  have goes (new : Task Message)
      (fits : PhaseFits (consumed p.state kind channel consumption).1 new)
      (alike : ∀ other c, other ≠ kind ∨ c ≠ channel → new.engaged other c = false)
      (expected : new.engaged kind channel = true →
        ((consumed p.state kind channel consumption).1.seen kind channel).Expected kind new)
      (finished : new.engaged kind channel = false →
        ((consumed p.state kind channel consumption).1.seen kind channel).Settled) :
      Consistent ⟨(consumed p.state kind channel consumption).1, p.threads.set index new⟩ := by
    refine consistent.touch (frame_consumed p.state kind channel consumption)
      (sameMail_consumed p.state kind channel consumption).state
      (channelOpen_consumed p.state kind channel consumption) (fun none_ => ?_)
      (fun other c engaged' => ?_) fits (fun other c there _ old => ?_) fun other => ?_
    · cases none_.symm.trans own
    · by_cases same : c = channel
      · exact same ▸ consistent.known channel own
      · cases (alike other c (.inr same)).symm.trans engaged'
    · cases there.symm.trans own
      by_cases same : other = kind
      · subst same
        exact old.own here engaged expected finished
      · rw [seen_consumed_other p.state same]
        refine old.aside here ?_ (alike other channel (.inl same))
        simp [Task.engaged, Ne.symm same]
    · rw [wanted_consumed]
      exact (started_consumed p.state kind other channel consumption).trans
        (consistent.wanted other)
  generalize consumed p.state kind channel consumption = result at *
  obtain ⟨w, following⟩ := result
  cases following with
  | some following =>
    refine goes (.consuming kind channel following) trivial (fun other c differs => ?_)
      (fun _ => goesOn following rfl) fun finished => ?_
    · rcases differs with other_ | other_ <;> simp [Task.engaged, Ne.symm other_]
    · simp [Task.engaged] at finished
  | none =>
    refine goes .done trivial (fun _ _ _ => rfl) (fun engaged' => ?_) fun _ => settled rfl
    cases engaged'

theorem Consistent.canceling (consistent : Consistent p) {tag : Nat}
    (here : p.threads[index]? = some (.canceling kind channel tag))
    (isOpen : p.state.channelOpen channel = true) :
    Consistent ⟨(p.state.removeConsumer kind channel tag).setTag kind none,
      p.threads.set index .done⟩ := by
  have own : p.state.channel = some channel :=
    consistent.opened channel (Bool.and_eq_true_iff.mp isOpen).1
  have mem := mem_of_getElem? here
  have engaged : (.canceling kind channel tag : Task Message).engaged kind channel = true := by
    simp [Task.engaged]
  obtain ⟨stopped, _, consumers⟩ :=
    (consistent.served kind channel own isOpen).expected _ mem engaged
  refine consistent.touch
    ((frame_removeConsumer p.state kind channel tag).trans (frame_setTag _ kind none)) rfl
    (fun c => ?_) (fun none_ => ?_) (fun _ _ engaged' => by cases engaged') trivial
    (fun other c there _ old => ?_) fun other => ?_
  · by_cases same : c = channel
    · subst same
      simp [World.channelOpen, World.setTag, World.setSide, World.removeConsumer]
    · simp [World.channelOpen, World.setTag, World.setSide, World.removeConsumer, same]
  · cases none_.symm.trans own
  · cases there.symm.trans own
    by_cases same : other = kind
    · subst same
      refine old.own here engaged (fun engaged' => by cases engaged') fun _ => .inr ?_
      rw [seen_setTag, seen_removeConsumer, consumers]
      exact ⟨stopped, rfl, by simp⟩
    · rw [seen_setTag_other _ same, seen_removeConsumer_other p.state same]
      refine old.aside here ?_ rfl
      simp [Task.engaged, Ne.symm same]
  · by_cases same : other = kind
    · subst same
      simpa [World.setTag, World.setSide, World.removeConsumer] using consistent.wanted other
    · simpa [World.setTag, World.setSide, World.removeConsumer, same] using
        consistent.wanted other

end Calls

section Runs

variable {p : Run Message} {index : Nat} {task : Task Message}

theorem Publishing.idle (publishing : Publishing p) : NoneConnects p := by
  intro state other mem
  have one := publishing.one
  rw [if_neg state] at one
  have own := Pool.weight_le_total attempts p.threads (fun task _ => attempts_nonneg task) other mem
  by_contra attempt
  rw [attempts_of_true (Bool.not_eq_false _ ▸ attempt)] at own
  omega

theorem Publishing.attempt (publishing : Publishing p) (here : p.threads[index]? = some task)
    (attempt : task.isConnecting = true) : p.state.state = .connecting ∧ Alone p index := by
  have connecting : p.state.state = .connecting := by
    by_contra state
    have idle := publishing.idle state task (mem_of_getElem? here)
    exact absurd (attempt.symm.trans idle) (by decide)
  refine ⟨connecting, fun j other distinct there => ?_⟩
  have one := publishing.one
  have pair := Pool.pair_le_total attempts p.threads (fun task _ => attempts_nonneg task) index j
    task other distinct here there
  rw [if_pos connecting] at one
  rw [attempts_of_true attempt] at pair
  by_contra both
  rw [attempts_of_true (Bool.not_eq_false _ ▸ both)] at pair
  omega

theorem Consistent.next (consistent : Consistent p) (publishing : Publishing p)
    (here : p.threads[index]? = some task) {reply : Reply} {r : World Message × Task Message}
    (moves : AMQPHolder.next publishable p.state task reply = some r)
    (requested : Requested p task) (answered : Answered p.state task reply) (alive : Alive r.1) :
    Consistent ⟨r.1, p.threads.set index r.2⟩ := by
  have idle := publishing.idle
  cases task with
  | prepare =>
    cases moves
    exact consistent.prepare here idle (fun _ _ => rfl) alive
  | close =>
    cases moves
    have same := sameMail_doClose { p.state with state := .closed, closeCalled := true }
    cases same.closeCalled.symm.trans alive.1
  | destroy =>
    cases moves
    cases alive.2
  | publish kind message =>
    cases moves
    exact consistent.publish here idle (fun _ _ => rfl) kind message alive
  | consume kind =>
    cases moves
    exact consistent.consume here publishing idle requested
  | cancelConsume kind =>
    cases moves
    exact consistent.cancelConsume here requested
  | connectionLost c => exact consistent.connectionLost here idle moves alive
  | channelLost c => exact consistent.channelLost here idle moves alive
  | deliver kind c =>
    unfold AMQPHolder.next at moves
    dsimp only at moves
    split_ifs at moves
    cases moves
    refine consistent.beside here ?_ rfl (fun _ => rfl) (fun _ => rfl) (fun _ => rfl) rfl
      (fun _ _ _ => id) (fun _ _ => rfl) (fun _ _ => rfl) trivial
    exact ⟨rfl, Nat.le_refl _, fun _ => rfl, fun _ => rfl, fun _ => id, fun _ => rfl,
      fun _ => rfl, fun _ => id⟩
  | ackAll =>
    have stays : Consistent ⟨p.state, p.threads.set index .done⟩ :=
      consistent.beside here (frame_refl _) rfl (fun _ => rfl) (fun _ => rfl) (fun _ => rfl) rfl
        (fun _ _ _ => id) (fun _ _ => rfl) (fun _ _ => rfl) trivial
    unfold AMQPHolder.next at moves
    dsimp only at moves
    split at moves
    · split_ifs at moves
      · cases moves
        exact stays
      · cases moves
        exact consistent.reconnect here idle (frame_refl _) rfl (fun _ => rfl) (fun _ => rfl)
          (fun _ => rfl) rfl (fun _ _ => rfl) alive
    · cases moves
      exact stays
  | connecting retry phase =>
    cases moves
    obtain ⟨connecting, alone⟩ := publishing.attempt here rfl
    exact consistent.connectReply here alone connecting reply answered alive
  | closing closing => exact (consistent.fits _ (mem_of_getElem? here)).elim
  | consuming kind c consumption =>
    cases reply with
    | ok taken =>
      cases moves
      exact consistent.consuming here answered
    | failed =>
      cases moves
      refine consistent.failed here answered fun other held engaged => ?_
      simp only [Task.engaged, Bool.and_eq_true, decide_eq_true_eq] at engaged
      exact engaged.2.symm
  | canceling kind c tag =>
    cases reply with
    | ok taken =>
      cases moves
      exact consistent.canceling here answered
    | failed =>
      cases moves
      refine consistent.failed here answered fun other held engaged => ?_
      simp only [Task.engaged, Bool.and_eq_true, decide_eq_true_eq] at engaged
      exact engaged.2.symm
  | done => cases moves

theorem Consistent.start (consistent : Consistent p) (begins : task.Begins) :
    Consistent ⟨p.state, p.threads ++ [task]⟩ := by
  have unengaged (kind : Kind) (c : Nat) : task.engaged kind c = false := by
    cases task with
    | connecting retry phase | consuming k c consumption | canceling k c tag => cases begins
    | _ => rfl
  have fits : PhaseFits p.state task := by
    cases task with
    | connecting retry phase | closing closing => cases begins
    | _ => trivial
  refine { consistent with bound := ?_, fits := ?_, served := ?_ }
  · intro new mem kind c engaged
    rcases mem_append.mp mem with old | own
    · exact consistent.bound new old kind c engaged
    · rw [mem_singleton.mp own, unengaged] at engaged
      cases engaged
  · intro new mem
    rcases mem_append.mp mem with old | own
    · exact consistent.fits new old
    · rw [mem_singleton.mp own]
      exact fits
  · intro kind c own isOpen
    obtain ⟨one, expected, settled⟩ := consistent.served kind c own isOpen
    refine ⟨?_, fun new mem engaged => ?_, fun none_ => ?_⟩
    · rw [Pool.total_append, engagement_of_false (unengaged kind c), Int.add_zero]
      exact one
    · rcases mem_append.mp mem with old | own
      · exact expected new old engaged
      · rw [mem_singleton.mp own, unengaged] at engaged
        cases engaged
    · exact settled fun other mem => none_ other (mem_append_left _ mem)

theorem alive_of_next {w : World Message} {reply : Reply} {r : World Message × Task Message}
    (moves : AMQPHolder.next publishable w task reply = some r) (alive : Alive r.1) : Alive w := by
  by_cases attempt : task.isConnecting = true
  · cases task with
    | connecting retry phase =>
      cases moves
      exact ((settles_connectReply w retry phase reply).outcome alive).1
    | _ => cases attempt
  · exact ((keeps_next (Bool.eq_false_iff.mpr attempt) moves).outcome alive).1

theorem consistent_step (p : Run Message) (action : Pool.Action (Task Message) Reply)
    (inv : Alive p.state → Publishing p ∧ Consistent p) (orderly : Orderly p action)
    (alive : Alive (step publishable p action).state) : Consistent (step publishable p action) := by
  cases action with
  | start task => exact (inv alive).2.start orderly
  | step index reply =>
    rcases Pool.step_cases (AMQPHolder.next publishable) p index reply with
      same | ⟨task, w', task', here, moves, eq⟩
    · rw [step, same] at alive ⊢
      exact (inv alive).2
    · rw [step, eq] at alive ⊢
      obtain ⟨publishing, consistent⟩ := inv (alive_of_next moves alive)
      obtain ⟨requested, answered⟩ := orderly task here
      exact consistent.next publishing here moves requested answered alive

def HasWanted (w : World Message) : Prop :=
  ∃ c, w.channel = some c ∧ w.channelOpen c = true ∧
    ∀ kind, ((w.channels c).consumers kind).length = if w.wanted kind then 1 else 0

theorem Seen.Settled.length {s : Seen} (settled : s.Settled) :
    s.consumers.length = if s.started then 1 else 0 := by
  rcases settled with ⟨started, tag, _, consumers⟩ | ⟨stopped, _, consumers⟩
  · rw [consumers, started]
    rfl
  · rw [consumers, stopped]
    rfl

theorem Consistent.hasWanted (consistent : Consistent p)
    (connected : p.state.state = .connected) (idle : Idle p) : HasWanted p.state := by
  obtain ⟨c, own, isOpen⟩ := consistent.live connected
  refine ⟨c, own, isOpen, fun kind => ?_⟩
  have none_ : ∀ task ∈ p.threads, task.engaged kind c = false := by
    intro task mem
    have waits := idle task mem
    cases task with
    | connecting retry phase | consuming k held consumption | canceling k held tag => cases waits
    | _ => rfl
  have settled := (consistent.served kind c own isOpen).settled none_
  rw [← consistent.wanted kind]
  exact settled.length

/-- Where the requests of a kind do not overlap its calls, a holder that is connected and
has no call outstanding has the consumers that are wanted. -/
theorem consumers_wanted (publishable : Kind → Message → Bool) (maxConnectionRetry : Nat)
    (actions : List (Pool.Action (Task Message) Reply))
    (orderly : Run.Allowed (step publishable) Orderly (start maxConnectionRetry) actions)
    (unclosed : (Run.final (step publishable) (start maxConnectionRetry)
      actions).state.closeCalled = false)
    (connected : (Run.final (step publishable) (start maxConnectionRetry)
      actions).state.state = .connected)
    (idle : Idle (Run.final (step publishable) (start maxConnectionRetry) actions)) :
    HasWanted (Run.final (step publishable) (start maxConnectionRetry) actions).state := by
  let inv (p : Run Message) : Prop :=
    Undestroyed p.state ∧ (Alive p.state → Publishing p ∧ Consistent p)
  have new : inv (start maxConnectionRetry) := by
    refine And.intro (fun connected => (by cases connected)) fun _ => And.intro ?_ ?_
    · refine ⟨fun kind => rfl, fun connected => ?_, ?_⟩
      · cases connected
      · simp [start, AMQPHolder.new]
    · constructor
      case bound =>
        intro task mem
        cases mem
      case fits =>
        intro task mem
        cases mem
      case detached =>
        intro _ kind
        rfl
      case wanted =>
        intro kind
        rfl
      case idle =>
        intro _
        rfl
      all_goals simp [start, AMQPHolder.new]
  have stable (p : Run Message) (action : Pool.Action (Task Message) Reply) (held : inv p)
      (allowed : Orderly p action) : inv (step publishable p action) := by
    have called : Called p action := by
      cases action with
      | start task => exact allowed
      | step index reply => trivial
    refine ⟨undestroyed_step publishable p action held.1, fun alive => ⟨?_, ?_⟩⟩
    · exact publishing_step p action (fun before => (held.2 before).1) called alive
    · exact consistent_step p action held.2 allowed alive
  obtain ⟨undestroyed, whole⟩ := Run.invariant stable _ actions new orderly
  exact (whole ⟨unclosed, undestroyed connected⟩).2.hasWanted connected idle

/-- The ticks are consumed from the first connection on, and it is lost. -/
def reconnected : List (Pool.Action (Task String) Reply) :=
  [Pool.Action.start (.consume .tick), .step 0 (.ok 0), .start .prepare] ++
    replicate 10 (.step 1 (.ok 0)) ++
    [Pool.Action.start (.connectionLost 0)] ++ replicate 14 (.step 2 (.ok 0))

theorem consumers_wanted_reconnected :
    HasWanted (Run.final (step fun _ _ => true) (start 5) reconnected).state :=
  consumers_wanted (fun _ _ => true) 5 reconnected (by decide +kernel) (by decide +kernel)
    (by decide +kernel) (by decide +kernel)

/-- The ticks are asked for again before the first consumer has its tag. -/
def askedTwice : List (Pool.Action (Task String) Reply) :=
  [Pool.Action.start .prepare] ++ replicate 7 (.step 0 (.ok 0)) ++
    [Pool.Action.start (.consume .tick), .start (.consume .tick), .step 1 (.ok 0),
      .step 2 (.ok 0)] ++
    replicate 3 (.step 1 (.ok 0)) ++ replicate 3 (.step 2 (.ok 0))

theorem consumers_doubled : ¬ ∀ (publishable : Kind → String → Bool) (maxConnectionRetry : Nat)
      (actions : List (Pool.Action (Task String) Reply)),
      Run.Allowed (step publishable) Called (start maxConnectionRetry) actions →
      (Run.final (step publishable) (start maxConnectionRetry)
        actions).state.closeCalled = false →
      (Run.final (step publishable) (start maxConnectionRetry)
        actions).state.state = .connected →
      Idle (Run.final (step publishable) (start maxConnectionRetry) actions) →
      HasWanted (Run.final (step publishable) (start maxConnectionRetry) actions).state := by
  intro all
  obtain ⟨c, own, _, each⟩ := all (fun _ _ => true) 5 askedTwice (by decide +kernel)
    (by decide +kernel) (by decide +kernel) (by decide +kernel)
  have channel : (Run.final (step fun _ _ => true) (start 5) askedTwice).state.channel = some 1 :=
    by decide +kernel
  cases own.symm.trans channel
  have two : ((Run.final (step fun _ _ => true) (start 5) askedTwice).state.channels 1).consumers
      .tick = [2, 3] := by decide +kernel
  have length := each .tick
  rw [two] at length
  split at length <;> cases length

end Runs

end AMQPHolder
end AkashicSystem.PlaylogServer
