import AkashicSystem.PlaylogServer.HolderPublishes

/-!
# What the holder has of its channel

On the channel of the holder a kind has the consumer of its tag, has none, or has
one call outstanding that makes it or removes it.  Before an attempt has looked
whether to consume, there is none.
-/

set_option autoImplicit false

namespace AkashicSystem.PlaylogServer
namespace AMQPHolder

variable {Message : Type}

def Phase.channel : Phase → Option Nat
  | .prefetch c | .checkEventExchange c | .checkQueue c | .checkTickExchange c => some c
  | .doConsume _ c _ => some c
  | _ => none

namespace Task

def consumes (kind : Kind) (channel : Nat) : Task Message → Bool
  | .connecting _ (.doConsume k c _) => k = kind && c = channel
  | .consuming k c _ => k = kind && c = channel
  | _ => false

def cancels (kind : Kind) (channel : Nat) : Task Message → Bool
  | .canceling k c _ => k = kind && c = channel
  | _ => false

def hasLooked (kind : Kind) : Task Message → Bool
  | .connecting _ (.doConsume k _ _) => k = kind || k = .tick
  | _ => false

end Task

/-- The requests of a kind do not overlap its calls, and `consume` does not come after an
attempt has looked. -/
def Requested (p : Run Message) : Task Message → Prop
  | .consume kind =>
    if (p.state.side kind).consumeStarted then
      p.state.state = .connected → ∀ c ∈ p.state.channel, ∀ task ∈ p.threads,
        task.consumes kind c = false
    else ∀ task ∈ p.threads, task.hasLooked kind = false ∧
      ∀ c ∈ p.state.channel, task.cancels kind c = false
  | .cancelConsume kind =>
    (p.state.side kind).consumeStarted = true → ∀ c ∈ p.state.channel, ∀ task ∈ p.threads,
      task.consumes kind c = false
  | _ => True

variable (w : World Message)

/-- A call is answered by a channel that is open, and fails on one that is not. -/
def Answered : Task Message → Reply → Prop
  | .connecting _ phase, .ok _ => ∀ c ∈ phase.channel, w.channelOpen c = true
  | .consuming _ c _, .ok _ => w.channelOpen c = true
  | .consuming _ c _, .failed => w.channelOpen c = false
  | .canceling _ c _, .ok _ => w.channelOpen c = true
  | .canceling _ c _, .failed => w.channelOpen c = false
  | _, _ => True

def Orderly (p : Run Message) : Pool.Action (Task Message) Reply → Prop
  | .start task => task.Begins
  | .step index reply => ∀ task ∈ p.threads[index]?,
      Requested p task ∧ Answered p.state task reply

instance (p : Run Message) : DecidablePred (Requested p)
  | .consume kind => inferInstanceAs (Decidable (if (p.state.side kind).consumeStarted then
      p.state.state = .connected → ∀ c ∈ p.state.channel, ∀ task ∈ p.threads,
        task.consumes kind c = false
      else ∀ task ∈ p.threads, task.hasLooked kind = false ∧
        ∀ c ∈ p.state.channel, task.cancels kind c = false))
  | .cancelConsume kind => inferInstanceAs (Decidable ((p.state.side kind).consumeStarted = true →
      ∀ c ∈ p.state.channel, ∀ task ∈ p.threads, task.consumes kind c = false))
  | .prepare | .close | .destroy | .publish _ _ | .connectionLost _ | .channelLost _
  | .deliver _ _ | .ackAll | .connecting _ _ | .closing _ | .consuming _ _ _ | .canceling _ _ _
  | .done => isTrue trivial

instance (w : World Message) : DecidableRel (Answered w)
  | .connecting _ phase, .ok _ =>
    inferInstanceAs (Decidable (∀ c ∈ phase.channel, w.channelOpen c = true))
  | .consuming _ c _, .ok _ => inferInstanceAs (Decidable (w.channelOpen c = true))
  | .consuming _ c _, .failed => inferInstanceAs (Decidable (w.channelOpen c = false))
  | .canceling _ c _, .ok _ => inferInstanceAs (Decidable (w.channelOpen c = true))
  | .canceling _ c _, .failed => inferInstanceAs (Decidable (w.channelOpen c = false))
  | .connecting _ _, .failed => isTrue trivial
  | .prepare, _ | .close, _ | .destroy, _ | .publish _ _, _ | .consume _, _
  | .cancelConsume _, _ | .connectionLost _, _ | .channelLost _, _ | .deliver _ _, _
  | .ackAll, _ | .closing _, _ | .done, _ => isTrue trivial

instance (p : Run Message) : DecidablePred (Orderly p)
  | .start task => inferInstanceAs (Decidable task.Begins)
  | .step index reply => inferInstanceAs (Decidable (∀ task ∈ p.threads[index]?,
      Requested p task ∧ Answered p.state task reply))

structure Seen where
  started : Bool
  tag : Option Nat
  consumers : List Nat

def World.seen (kind : Kind) (channel : Nat) : Seen :=
  ⟨(w.side kind).consumeStarted, (w.side kind).consumeTag, (w.channels channel).consumers kind⟩

def Consumption.made : Consumption → List Nat
  | .bindQueue tag => [tag]
  | _ => []

namespace Seen

def Settled (s : Seen) : Prop :=
  (s.started = true ∧ ∃ tag, s.tag = some tag ∧ s.consumers = [tag]) ∨
    (s.started = false ∧ s.tag = none ∧ s.consumers = [])

def Blank (s : Seen) : Prop := s.tag = none ∧ s.consumers = []

def Consuming (s : Seen) (consumption : Consumption) : Prop :=
  s.started = true ∧ s.tag = none ∧ s.consumers = consumption.made

def Canceling (s : Seen) (tag : Nat) : Prop :=
  s.started = false ∧ s.tag = some tag ∧ s.consumers = [tag]

end Seen

/-- A task that is to make or remove a consumer of the kind, or to look whether to. -/
def Task.engaged (kind : Kind) (channel : Nat) : Task Message → Bool
  | .connecting _ (.prefetch c) | .connecting _ (.checkEventExchange c) => c = channel
  | .connecting _ (.checkQueue c) | .connecting _ (.checkTickExchange c) => c = channel
  | .connecting _ (.doConsume k c _) => c = channel && (k = kind || k = .event)
  | .consuming k c _ => k = kind && c = channel
  | .canceling k c _ => k = kind && c = channel
  | _ => false

def Seen.Expected (s : Seen) (kind : Kind) : Task Message → Prop
  | .connecting _ (.doConsume k _ consumption) =>
    if k = kind then s.Consuming consumption else s.Blank
  | .connecting _ _ => s.Blank
  | .consuming _ _ consumption => s.Consuming consumption
  | .canceling _ _ tag => s.Canceling tag
  | _ => True

def engagement (kind : Kind) (channel : Nat) (task : Task Message) : Int :=
  if task.engaged kind channel then 1 else 0

/-- At most one task is engaged; without one the kind is settled. -/
structure Served (s : Seen) (threads : List (Task Message)) (kind : Kind) (channel : Nat) :
    Prop where
  one : Pool.total (engagement kind channel) threads ≤ 1
  expected : ∀ task ∈ threads, task.engaged kind channel = true → s.Expected kind task
  settled : (∀ task ∈ threads, task.engaged kind channel = false) → s.Settled

section Served

variable {s s' : Seen} {threads : List (Task Message)} {kind : Kind} {channel index : Nat}
  {task task' : Task Message}

theorem engagement_nonneg (kind : Kind) (channel : Nat) (task : Task Message) :
    0 ≤ engagement kind channel task := by
  unfold engagement
  split_ifs <;> decide

theorem engagement_of_true (engaged : task.engaged kind channel = true) :
    engagement kind channel task = 1 := if_pos engaged

theorem engagement_of_false (other : task.engaged kind channel = false) :
    engagement kind channel task = 0 := by
  rw [engagement, other]
  rfl

theorem Served.alone (served : Served s threads kind channel)
    (here : threads[index]? = some task) (engaged : task.engaged kind channel = true) (j : Nat)
    (other : Task Message) (distinct : j ≠ index) (there : threads[j]? = some other) :
    other.engaged kind channel = false := by
  have pair := Pool.pair_le_total (engagement kind channel) threads
    (fun task _ => engagement_nonneg kind channel task) index j task other distinct here there
  have one := served.one
  rw [engagement_of_true engaged] at pair
  by_contra both
  rw [engagement_of_true (Bool.not_eq_false _ ▸ both)] at pair
  omega

theorem Served.step (served : Served s threads kind channel) (here : threads[index]? = some task)
    (own : task'.engaged kind channel = true → s'.Expected kind task')
    (begins : task.engaged kind channel = false → task'.engaged kind channel = true →
      ∀ other ∈ threads, other.engaged kind channel = false)
    (others : ∀ (j : Nat) (other : Task Message), j ≠ index → threads[j]? = some other →
      other.engaged kind channel = true → s'.Expected kind other)
    (settled : task'.engaged kind channel = false →
      (∀ (j : Nat) (other : Task Message), j ≠ index → threads[j]? = some other →
        other.engaged kind channel = false) → s'.Settled) :
    Served s' (threads.set index task') kind channel := by
  have sum := Pool.total_set (engagement kind channel) threads index task task' here
  refine ⟨?_, fun new mem engaged => ?_, fun none_ => ?_⟩
  · have one := served.one
    by_cases after : task'.engaged kind channel = true
    · rw [engagement_of_true after] at sum
      by_cases before : task.engaged kind channel = true
      · rw [engagement_of_true before] at sum
        omega
      · have before : task.engaged kind channel = false := Bool.eq_false_iff.mpr before
        have empty := Pool.total_eq_zero (engagement kind channel) threads fun other mem =>
          engagement_of_false (begins before after other mem)
        rw [engagement_of_false before] at sum
        omega
    · rw [engagement_of_false (Bool.eq_false_iff.mpr after)] at sum
      have least := engagement_nonneg kind channel task
      omega
  · obtain ⟨j, there⟩ := List.getElem?_of_mem mem
    rcases Pool.getElem?_set_cases threads index j task task' new here there with
      ⟨_, rfl⟩ | ⟨distinct, old⟩
    · exact own engaged
    · exact others j new distinct old engaged
  · have inside := (List.getElem?_eq_some_iff.mp here).1
    refine settled (none_ task' (List.mem_of_getElem? (List.getElem?_set_self inside))) ?_
    intro j other distinct there
    have kept : (threads.set index task')[j]? = some other := by
      rw [List.getElem?_set_ne (Ne.symm distinct)]
      exact there
    exact none_ other (List.mem_of_getElem? kept)

theorem Served.own (served : Served s threads kind channel) (here : threads[index]? = some task)
    (engaged : task.engaged kind channel = true)
    (own : task'.engaged kind channel = true → s'.Expected kind task')
    (settled : task'.engaged kind channel = false → s'.Settled) :
    Served s' (threads.set index task') kind channel := by
  have alone := served.alone here engaged
  refine served.step here own (fun before => ?_) (fun j other distinct there both => ?_)
    (fun finished _ => settled finished)
  · rw [engaged] at before
    cases before
  · rw [alone j other distinct there] at both
    cases both

theorem Served.aside (served : Served s threads kind channel)
    (here : threads[index]? = some task) (before : task.engaged kind channel = false)
    (after : task'.engaged kind channel = false) :
    Served s (threads.set index task') kind channel := by
  refine served.step here (fun engaged => ?_) (fun _ engaged => ?_)
    (fun j other _ there engaged => ?_) (fun _ none_ => ?_)
  · rw [after] at engaged
    cases engaged
  · rw [after] at engaged
    cases engaged
  · exact served.expected other (List.mem_of_getElem? there) engaged
  · refine served.settled fun other mem => ?_
    obtain ⟨j, there⟩ := List.getElem?_of_mem mem
    by_cases same : j = index
    · subst same
      cases here.symm.trans there
      exact before
    · exact none_ j other same there

end Served

def PhaseFits : Task Message → Prop
  | .connecting _ (.closing _) => w.channel = none
  | .connecting _ .newConnection => w.channel = none
  | .connecting _ (.createChannel connection) =>
    w.channel = none ∧ (w.connections connection).listened = true
  | .connecting _ phase => w.channel = phase.channel
  | .closing _ => False
  | _ => True

structure Consistent (p : Run Message) : Prop where
  bound : ∀ task ∈ p.threads, ∀ kind c, task.engaged kind c = true → c < p.state.made
  known : ∀ c, p.state.channel = some c → c < p.state.made
  fits : ∀ task ∈ p.threads, PhaseFits p.state task
  detached : p.state.channel = none → ∀ kind, (p.state.side kind).consumeTag = none
  client : ∀ c, p.state.channel = some c → ∀ kind, (p.state.side kind).client = some c
  listened : ∀ c, p.state.channel = some c → (p.state.channels c).listened = true ∧
    (p.state.connections (p.state.channels c).connection).listened = true
  opened : ∀ c, (p.state.channels c).isOpen = true → p.state.channel = some c
  live : p.state.state = .connected →
    ∃ c, p.state.channel = some c ∧ p.state.channelOpen c = true
  idle : p.state.state = .closed → p.state.channel = none
  served : ∀ kind c, p.state.channel = some c → p.state.channelOpen c = true →
    Served (p.state.seen kind c) p.threads kind c
  wanted : ∀ kind, (p.state.side kind).consumeStarted = p.state.wanted kind

/-- The holder has its channel, if any, and the broker has at most lost something. -/
structure Frame (w w' : World Message) : Prop where
  channel : w'.channel = w.channel
  made : w.made ≤ w'.made
  client : ∀ kind, (w'.side kind).client = (w.side kind).client
  hears : ∀ c, (w'.connections c).listened = (w.connections c).listened
  connections : ∀ c, (w'.connections c).isOpen = true → (w.connections c).isOpen = true
  link : ∀ c, (w'.channels c).connection = (w.channels c).connection
  listened : ∀ c, (w'.channels c).listened = (w.channels c).listened
  channels : ∀ c, (w'.channels c).isOpen = true → (w.channels c).isOpen = true

section Frame

variable {w w' : World Message} {p : Run Message} {index : Nat} {task task' : Task Message}

theorem Frame.channelOpen (frame : Frame w w') {c : Nat} (isOpen : w'.channelOpen c = true) :
    w.channelOpen c = true := by
  obtain ⟨own, connection⟩ := Bool.and_eq_true_iff.mp isOpen
  rw [frame.link] at connection
  exact Bool.and_eq_true_iff.mpr ⟨frame.channels c own, frame.connections _ connection⟩

theorem PhaseFits.frame (fits : PhaseFits w task) (frame : Frame w w') : PhaseFits w' task := by
  cases task with
  | connecting retry phase =>
    cases phase with
    | createChannel connection =>
      exact ⟨frame.channel.trans fits.1, (frame.hears connection).trans fits.2⟩
    | _ => exact frame.channel.trans fits
  | closing closing => exact fits
  | _ => trivial

theorem Consistent.frame (consistent : Consistent p) (frame : Frame p.state w')
    (bound : ∀ kind c, task'.engaged kind c = true → c < w'.made) (fits : PhaseFits w' task')
    (detached : w'.channel = none → ∀ kind, (w'.side kind).consumeTag = none)
    (live : w'.state = .connected → ∃ c, w'.channel = some c ∧ w'.channelOpen c = true)
    (idle : w'.state = .closed → p.state.state = .closed)
    (served : ∀ kind c, w'.channel = some c → w'.channelOpen c = true →
      Served (p.state.seen kind c) p.threads kind c →
      Served (w'.seen kind c) (p.threads.set index task') kind c)
    (wanted : ∀ kind, (w'.side kind).consumeStarted = w'.wanted kind) :
    Consistent ⟨w', p.threads.set index task'⟩ where
  bound := by
    intro new mem kind c engaged
    rcases List.mem_or_eq_of_mem_set mem with old | rfl
    · exact Nat.lt_of_lt_of_le (consistent.bound new old kind c engaged) frame.made
    · exact bound kind c engaged
  known := by
    intro c own
    exact Nat.lt_of_lt_of_le (consistent.known c (frame.channel.symm.trans own)) frame.made
  fits := by
    intro new mem
    rcases List.mem_or_eq_of_mem_set mem with old | rfl
    · exact (consistent.fits new old).frame frame
    · exact fits
  detached := detached
  client := by
    intro c own kind
    exact (frame.client kind).trans (consistent.client c (frame.channel.symm.trans own) kind)
  listened := by
    intro c own
    obtain ⟨channel, connection⟩ := consistent.listened c (frame.channel.symm.trans own)
    refine ⟨(frame.listened c).trans channel, ?_⟩
    change (w'.connections (w'.channels c).connection).listened = true
    rw [frame.link, frame.hears]
    exact connection
  opened := by
    intro c isOpen
    exact frame.channel.trans (consistent.opened c (frame.channels c isOpen))
  live := live
  idle := fun closed => frame.channel.trans (consistent.idle (idle closed))
  served := by
    intro kind c own isOpen
    exact served kind c own isOpen
      (consistent.served kind c (frame.channel.symm.trans own) (frame.channelOpen isOpen))
  wanted := wanted

theorem Consistent.beside (consistent : Consistent p) (here : p.threads[index]? = some task)
    (frame : Frame p.state w') (state : w'.state = p.state.state)
    (started : ∀ kind, (w'.side kind).consumeStarted = (p.state.side kind).consumeStarted)
    (tag : ∀ kind, (w'.side kind).consumeTag = (p.state.side kind).consumeTag)
    (consumers : ∀ c, (w'.channels c).consumers = (p.state.channels c).consumers)
    (wanted : w'.wanted = p.state.wanted)
    (live : p.state.state = .connected → ∀ c, p.state.channel = some c →
      p.state.channelOpen c = true → w'.channelOpen c = true)
    (before : ∀ kind c, task.engaged kind c = false)
    (after : ∀ kind c, task'.engaged kind c = false) (fits : PhaseFits w' task') :
    Consistent ⟨w', p.threads.set index task'⟩ := by
  refine consistent.frame frame (fun kind c engaged => ?_) fits (fun none_ kind => ?_)
    (fun connected => ?_) (fun closed => state.symm.trans closed) (fun kind c _ _ served => ?_)
    fun kind => ?_
  · rw [after] at engaged
    cases engaged
  · exact (tag kind).trans (consistent.detached (frame.channel.symm.trans none_) kind)
  · have connected := state.symm.trans connected
    obtain ⟨c, own, isOpen⟩ := consistent.live connected
    exact ⟨c, frame.channel.trans own, live connected c own isOpen⟩
  · have same : w'.seen kind c = p.state.seen kind c := by
      rw [World.seen, World.seen, started, tag, consumers]
    rw [same]
    exact served.aside here (before kind c) (after kind c)
  · rw [wanted]
    exact (started kind).trans (consistent.wanted kind)

structure Bare (w : World Message) : Prop where
  state : w.state = .connecting
  channel : w.channel = none
  tag : ∀ kind, (w.side kind).consumeTag = none
  closed : ∀ c, (w.channels c).isOpen = false
  wanted : ∀ kind, (w.side kind).consumeStarted = w.wanted kind

theorem Bare.consistent (bare : Bare w) {threads : List (Task Message)}
    (bound : ∀ task ∈ threads, ∀ kind c, task.engaged kind c = true → c < w.made)
    (fits : ∀ task ∈ threads, PhaseFits w task) : Consistent ⟨w, threads⟩ where
  bound := bound
  known := by
    intro c own
    cases bare.channel.symm.trans own
  fits := fits
  detached := fun _ => bare.tag
  client := by
    intro c own
    cases bare.channel.symm.trans own
  listened := by
    intro c own
    cases bare.channel.symm.trans own
  opened := by
    intro c isOpen
    cases (bare.closed c).symm.trans isOpen
  live := by
    intro connected
    cases bare.state.symm.trans connected
  idle := fun _ => bare.channel
  served := by
    intro kind c own
    cases bare.channel.symm.trans own
  wanted := bare.wanted

theorem bare_doClose (state : w.state = .connecting)
    (opened : ∀ c, (w.channels c).isOpen = true → w.channel = some c)
    (wanted : ∀ kind, (w.side kind).consumeStarted = w.wanted kind) : Bare (doClose w).1 := by
  unfold doClose
  dsimp only
  split
  · next held own =>
      refine ⟨state, rfl, fun _ => rfl, fun c => ?_, wanted⟩
      by_cases same : c = held
      · subst same
        simp
      · simp only [Function.update_of_ne same]
        by_contra isOpen
        cases (opened c (Bool.not_eq_false _ ▸ isOpen)).symm.trans own
        exact same rfl
  · next none_ =>
      refine ⟨state, rfl, fun _ => rfl, fun c => ?_, wanted⟩
      by_contra isOpen
      cases (opened c (Bool.not_eq_false _ ▸ isOpen)).symm.trans none_

theorem Bare.closing (bare : Bare w) (closing : Closing) : Bare (closing.next w).1 := by
  cases closing with
  | channel last | connection held =>
    exact ⟨bare.state, bare.channel, bare.tag, bare.closed, bare.wanted⟩
  | done => exact bare

end Frame

section Changes

variable {w : World Message}

theorem frame_refl (w : World Message) : Frame w w :=
  ⟨rfl, Nat.le_refl _, fun _ => rfl, fun _ => rfl, fun _ => id, fun _ => rfl, fun _ => rfl,
    fun _ => id⟩

theorem Frame.trans {w' w'' : World Message} (first : Frame w w') (second : Frame w' w'') :
    Frame w w'' where
  channel := second.channel.trans first.channel
  made := Nat.le_trans first.made second.made
  client := fun kind => (second.client kind).trans (first.client kind)
  hears := fun c => (second.hears c).trans (first.hears c)
  connections := fun c isOpen => first.connections c (second.connections c isOpen)
  link := fun c => (second.link c).trans (first.link c)
  listened := fun c => (second.listened c).trans (first.listened c)
  channels := fun c isOpen => first.channels c (second.channels c isOpen)

theorem frame_side {w' : World Message} (kind : Kind) (side : Side Message)
    (client : side.client = (w.side kind).client)
    (eq : w'.side = Function.update w.side kind side) (channel : w'.channel = w.channel)
    (made : w'.made = w.made) (connections : w'.connections = w.connections)
    (channels : w'.channels = w.channels) : Frame w w' := by
  refine ⟨channel, Nat.le_of_eq made.symm, fun other => ?_, fun c => ?_, fun c isOpen => ?_,
    fun c => ?_, fun c => ?_, fun c isOpen => ?_⟩
  · rw [eq]
    by_cases same : other = kind
    · subst same
      rw [Function.update_self, client]
    · rw [Function.update_of_ne same]
  · rw [connections]
  · rwa [connections] at isOpen
  · rw [channels]
  · rw [channels]
  · rwa [channels] at isOpen

theorem frame_setTag (w : World Message) (kind : Kind) (tag : Option Nat) :
    Frame w (w.setTag kind tag) :=
  frame_side kind { w.side kind with consumeTag := tag } rfl rfl rfl rfl rfl rfl

theorem frame_consumers (w : World Message) (channel made : Nat) (more : w.made ≤ made)
    (consumers : Kind → List Nat) : Frame w { w with
      made := made
      channels := Function.update w.channels channel
        { w.channels channel with consumers := consumers } } := by
  refine ⟨rfl, more, fun _ => rfl, fun _ => rfl, fun _ => id, fun c => ?_, fun c => ?_,
    fun c isOpen => ?_⟩
  · by_cases same : c = channel
    · subst same
      simp
    · simp [same]
  · by_cases same : c = channel
    · subst same
      simp
    · simp [same]
  · by_cases same : c = channel
    · subst same
      simpa using isOpen
    · simpa [same] using isOpen

theorem frame_addConsumer (w : World Message) (kind : Kind) (channel : Nat) :
    Frame w (w.addConsumer kind channel) :=
  frame_consumers w channel (w.made + 1) (Nat.le_succ _) _

theorem frame_removeConsumer (w : World Message) (kind : Kind) (channel tag : Nat) :
    Frame w (w.removeConsumer kind channel tag) :=
  frame_consumers w channel w.made (Nat.le_refl _) _

@[simp] theorem seen_setTag (w : World Message) (kind : Kind) (channel : Nat) (tag : Option Nat) :
    (w.setTag kind tag).seen kind channel = { w.seen kind channel with tag := tag } := by
  simp [World.seen, World.setTag, World.setSide]

variable {kind other : Kind}

theorem seen_setTag_other (w : World Message) (distinct : other ≠ kind) (channel : Nat)
    (tag : Option Nat) : (w.setTag kind tag).seen other channel = w.seen other channel := by
  simp [World.seen, World.setTag, World.setSide, distinct]

@[simp] theorem seen_addConsumer (w : World Message) (kind : Kind) (channel : Nat) :
    (w.addConsumer kind channel).seen kind channel = { w.seen kind channel with
      consumers := (w.seen kind channel).consumers ++ [w.made] } := by
  simp [World.seen, World.addConsumer]

theorem seen_addConsumer_other (w : World Message) (distinct : other ≠ kind) (channel : Nat) :
    (w.addConsumer kind channel).seen other channel = w.seen other channel := by
  simp [World.seen, World.addConsumer, distinct]

@[simp] theorem seen_removeConsumer (w : World Message) (kind : Kind) (channel tag : Nat) :
    (w.removeConsumer kind channel tag).seen kind channel = { w.seen kind channel with
      consumers := (w.seen kind channel).consumers.erase tag } := by
  simp [World.seen, World.removeConsumer]

theorem seen_removeConsumer_other (w : World Message) (distinct : other ≠ kind)
    (channel tag : Nat) :
    (w.removeConsumer kind channel tag).seen other channel = w.seen other channel := by
  simp [World.seen, World.removeConsumer, distinct]

theorem frame_consumed (w : World Message) (kind : Kind) (channel : Nat)
    (consumption : Consumption) : Frame w (consumed w kind channel consumption).1 := by
  cases consumption with
  | assertQueue => exact frame_refl w
  | consume =>
    cases kind with
    | event => exact (frame_addConsumer w .event channel).trans (frame_setTag _ .event _)
    | tick => exact frame_addConsumer w .tick channel
  | bindQueue tag => exact frame_setTag w kind _

theorem seen_consumed_other (w : World Message) (distinct : other ≠ kind) (channel : Nat)
    (consumption : Consumption) :
    (consumed w kind channel consumption).1.seen other channel = w.seen other channel := by
  cases consumption with
  | assertQueue => rfl
  | consume =>
    cases kind with
    | event =>
      exact (seen_setTag_other _ distinct channel _).trans
        (seen_addConsumer_other w distinct channel)
    | tick => exact seen_addConsumer_other w distinct channel
  | bindQueue tag => exact seen_setTag_other w distinct channel _

theorem seen_consumed (w : World Message) (kind : Kind) (channel : Nat)
    (consumption : Consumption) (consuming : (w.seen kind channel).Consuming consumption) :
    (∀ following, (consumed w kind channel consumption).2 = some following →
      ((consumed w kind channel consumption).1.seen kind channel).Consuming following) ∧
    ((consumed w kind channel consumption).2 = none →
      ((consumed w kind channel consumption).1.seen kind channel).Settled) := by
  obtain ⟨started, tag, consumers⟩ := consuming
  cases consumption with
  | assertQueue =>
    refine ⟨fun following eq => ?_, fun eq => by cases eq⟩
    cases eq
    exact ⟨started, tag, consumers⟩
  | consume =>
    cases kind with
    | event =>
      refine ⟨fun following eq => (by cases eq), fun _ => .inl ?_⟩
      simp only [consumed, seen_setTag, seen_addConsumer, consumers]
      exact ⟨started, w.made, rfl, rfl⟩
    | tick =>
      refine ⟨fun following eq => ?_, fun eq => by cases eq⟩
      cases eq
      refine ⟨?_, ?_, ?_⟩
      · simpa only [consumed, seen_addConsumer] using started
      · simpa only [consumed, seen_addConsumer] using tag
      · simp only [consumed, seen_addConsumer, consumers]
        rfl
  | bindQueue made =>
    refine ⟨fun following eq => (by cases eq), fun _ => .inl ?_⟩
    simp only [consumed, seen_setTag]
    exact ⟨started, made, rfl, consumers⟩

theorem started_consumed (w : World Message) (kind other : Kind) (channel : Nat)
    (consumption : Consumption) :
    ((consumed w kind channel consumption).1.side other).consumeStarted =
      (w.side other).consumeStarted := by
  by_cases same : other = kind
  · subst same
    cases consumption with
    | assertQueue => rfl
    | consume =>
      cases other with
      | event => simp [consumed, World.setTag, World.setSide, World.addConsumer]
      | tick => rfl
    | bindQueue tag => simp [consumed, World.setTag, World.setSide]
  · have seen := seen_consumed_other w same channel consumption
    exact congrArg Seen.started seen

end Changes

end AMQPHolder
end AkashicSystem.PlaylogServer
