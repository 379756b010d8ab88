import AkashicSystem.Lib.Keyed
import AkashicSystem.Playlog.DeadLetterRouting
import AkashicSystem.Playlog.QueueConsumerTeardown

/-!
# Subscriptions and lost channels

`AMQPPlaylogStoreQueue` under the `PlaylogQueueConsumer`, over a channel that is
lost and created again.  The queue subscribes again when the holder of the
channel emits `reconnected`, which it does where the channel failed and not
where it was closed.  Calls wait while there is no channel.
-/

set_option autoImplicit false

namespace AkashicSystem.Playlog
namespace QueueSubscriptions

open AkashicSystem.Js QueueConsumer Computation List
open DeadLetters (storeQueueName deadLetterQueueName kind_of_storeQueueName
  deadLetterQueueName_ne deadLetterQueueName_eq)

/-- How far two calls on a channel, one for the ticks and one for the start points, get before
one fails. -/
inductive Progress where
  | none
  | half
  | done

structure Consumption where
  consumerTag : Nat
  queue : String

/-- `Subscription`, with its `consumeTags`. -/
structure PlaySubscription where
  playId : String
  tick : Nat
  startPoint : Nat

structure Watcher where
  consumer : QueueConsumer
  subscriptionMap : List PlaySubscription
  /-- `dlxSubscription` is set. -/
  dlxSubscribed : Bool
  connected : Bool
  /-- The channel was lost by an error, after which the holder emits `reconnected`. -/
  lostByError : Bool
  consuming : List Consumption
  nextTag : Nat

def new : Watcher := ⟨QueueConsumer.new, [], false, true, false, [], 0⟩

namespace Watcher

variable (s : Watcher)

def consume (queue : String) : Watcher :=
  { s with consuming := s.consuming ++ [⟨s.nextTag, queue⟩], nextTag := s.nextTag + 1 }

def cancel (consumerTag : Nat) : Watcher :=
  { s with consuming := s.consuming.filter fun c => c.consumerTag ≠ consumerTag }

variable (playId : String)

def forget : Watcher :=
  { s with subscriptionMap := s.subscriptionMap.filter fun e => e.playId ≠ playId }

def subscription : Option PlaySubscription :=
  s.subscriptionMap.find? fun e => e.playId = playId

variable (progress : Progress)

def subscribeInner :
    Watcher × Option PlaySubscription :=
  match progress with
  | .none => (s.forget playId, none)
  | .half => ((s.consume (storeQueueName playId .tick)).forget playId, none)
  | .done =>
    ((s.consume (storeQueueName playId .tick)).consume (storeQueueName playId .startPoint),
      some ⟨playId, s.nextTag, s.nextTag + 1⟩)

def subscribe : Watcher × Bool :=
  match s.subscription playId with
  | some _ => (s, true)
  | none =>
    match s.subscribeInner playId progress with
    | (s', some e) => ({ s' with subscriptionMap := s'.subscriptionMap ++ [e] }, true)
    | (s', none) => (s', false)

def unsubscribe : Watcher × Bool :=
  match s.subscription playId with
  | none => (s, true)
  | some e =>
    match progress with
    | .none => (s, false)
    | .half => (s.cancel e.tick, false)
    | .done => (((s.cancel e.tick).cancel e.startPoint).forget playId, true)

def subscribeDeadLetter : Watcher :=
  match progress with
  | .none => s
  | .half => s.consume (deadLetterQueueName .tick)
  | .done =>
    { (s.consume (deadLetterQueueName .tick)).consume (deadLetterQueueName .startPoint) with
      dlxSubscribed := true }

/-- One subscription of the map, in the listener for `reconnected`. -/
def resubscribe (progress : String → Progress) (s : Watcher) (e : PlaySubscription) : Watcher :=
  match s.subscribeInner e.playId (progress e.playId) with
  | (s', some e') =>
    { s' with
      subscriptionMap := s'.subscriptionMap.map fun other =>
        if other.playId = e.playId then e' else other }
  | (s', none) => s'

/-- The listener for `reconnected`. -/
def onReconnected (progress : String → Progress) : Watcher :=
  s.subscriptionMap.foldl (resubscribe progress) s

end Watcher

def answering (succeeds : QueueCall → Bool) (hasMessage : Option Bool) : Update where
  writingPlays := none
  closingNow := fun _ => 0
  now := 0
  succeeds := succeeds
  hasMessage := fun _ => hasMessage

/-- What `unsubscribeAndDelete` meets. -/
structure Deletion where
  asked : Bool
  hasMessage : Option Bool
  progress : Progress
  deleteQueue : Bool
  setClosed : Bool

namespace Deletion

def unsubscribes (d : Deletion) : Bool := d.asked && d.hasMessage != some true

def answers (d : Deletion) (unsubscribed : Bool) : QueueCall → Bool
  | .subscribe _ => true
  | .hasMessage _ => d.asked
  | .unsubscribe _ => unsubscribed
  | .deleteQueue _ => d.deleteQueue
  | .setClosed _ => d.setClosed

end Deletion

namespace Watcher

def assertSubscription (s : Watcher) (playId : String) (progress : Progress) : Watcher :=
  let called := if s.consumer.subscribed playId then (s, true) else s.subscribe playId progress
  { called.1 with
    consumer := stateOf
      (QueueConsumer.assertSubscription (answering (fun _ => called.2) none) playId s.consumer) }

def unsubscribeAndDelete (s : Watcher) (playId : String) (d : Deletion) : Watcher :=
  let called := if d.unsubscribes then s.unsubscribe playId d.progress else (s, true)
  { called.1 with
    consumer := stateOf (QueueConsumer.unsubscribeAndDelete
      (answering (d.answers called.2) d.hasMessage) playId s.consumer) }

def lose (s : Watcher) (byError : Bool) : Watcher :=
  { s with connected := false, lostByError := byError, consuming := [] }

def reconnect (s : Watcher) (progress : String → Progress) : Watcher :=
  let s' := { s with connected := true }
  if s.lostByError then s'.onReconnected progress else s'

end Watcher

inductive Action where
  | assertSubscription (playId : String) (progress : Progress)
  | unsubscribeAndDelete (playId : String) (deletion : Deletion)
  | subscribeDeadLetter (progress : Progress)
  | lose (byError : Bool)
  | reconnect (progress : String → Progress)

def next (s : Watcher) : Action → Watcher
  | .assertSubscription playId progress =>
    if s.connected then s.assertSubscription playId progress else s
  | .unsubscribeAndDelete playId deletion =>
    if s.connected then s.unsubscribeAndDelete playId deletion else s
  | .subscribeDeadLetter progress => if s.connected then s.subscribeDeadLetter progress else s
  | .lose byError => if s.connected then s.lose byError else s
  | .reconnect progress => if s.connected then s else s.reconnect progress

/-- On a channel that works, the queues consumed are those of what is subscribed. -/
def Agrees (s : Watcher) : Prop :=
  s.connected = true → ∀ queue, (∃ c ∈ s.consuming, c.queue = queue) ↔
    (s.dlxSubscribed = true ∧ ∃ kind, queue = deadLetterQueueName kind) ∨
      ∃ playId kind, s.consumer.subscribed playId = true ∧ queue = storeQueueName playId kind

/-- No pair of calls fails at its second call, unless the first changes nothing; queues that are
unsubscribed from are deleted; a channel is closed only while nothing is subscribed, and fails
only while no dead letters are and what is subscribed is subscribed again. -/
def Permitted (s : Watcher) : Action → Prop
  | .assertSubscription playId progress =>
    s.connected = true → s.consumer.subscribed playId = false → progress ≠ .half
  | .unsubscribeAndDelete playId d =>
    s.connected = true → s.consumer.subscribed playId = true → d.unsubscribes = true →
      d.progress = .none ∨ d.progress = .done ∧ d.deleteQueue = true
  | .subscribeDeadLetter progress =>
    s.connected = true → progress = .half → s.dlxSubscribed = true
  | .lose _ => True
  | .reconnect progress =>
    s.connected = false → s.dlxSubscribed = false ∧
      ∀ playId, s.consumer.subscribed playId = true →
        s.lostByError = true ∧ progress playId = .done

section Consumer

variable (c : QueueConsumer) (playId : String)

theorem subscriptions_assertSubscription (ok : Bool) :
    (stateOf (assertSubscription (answering (fun _ => ok) none) playId
      c)).subscriptions =
      if c.subscribed playId = false ∧ ok = true then c.subscriptions ++ [⟨playId, none⟩]
      else c.subscriptions := by
  simp only [assertSubscription, bind_run, get_run]
  cases known : c.subscribed playId with
  | true => rfl
  | false =>
    rw [if_neg Bool.false_ne_true, bind_run, call_run]
    cases ok <;> rfl

theorem subscriptions_unsubscribeAndDelete (d : Deletion) (unsubscribed : Bool) :
    (stateOf (unsubscribeAndDelete
      (answering (d.answers unsubscribed) d.hasMessage) playId c)).subscriptions =
      if d.unsubscribes = true ∧ unsubscribed = true ∧ d.deleteQueue = true then
        c.subscriptions.filter fun subscription => subscription.playId ≠ playId
      else c.subscriptions := by
  obtain ⟨asked, hasMessage, progress, deleteQueue, setClosed⟩ := d
  simp only [unsubscribeAndDelete, bind_run, call_run,
    answering, Deletion.answers, Deletion.unsubscribes]
  cases asked with
  | false => rfl
  | true =>
    by_cases messages : hasMessage = some true
    · simp [messages]
    · cases unsubscribed with
      | false => simp [messages, call_run, Deletion.answers]
      | true =>
        cases deleteQueue with
        | false => simp [messages, call_run, Deletion.answers]
        | true =>
          cases setClosed <;> simp [messages, call_run, Deletion.answers]

theorem subscribed_append (other : String) (c' : QueueConsumer)
    (eq : c'.subscriptions = c.subscriptions ++ [⟨playId, none⟩]) :
    c'.subscribed other = true ↔ c.subscribed other = true ∨ other = playId := by
  simp only [subscribed, eq, any_append, any_cons, any_nil,
    Bool.or_false, Bool.or_eq_true, beq_iff_eq]
  exact or_congr Iff.rfl eq_comm

theorem subscribed_filter (other : String) (c' : QueueConsumer)
    (eq : c'.subscriptions = c.subscriptions.filter fun s => s.playId ≠ playId) :
    c'.subscribed other = true ↔ c.subscribed other = true ∧ other ≠ playId := by
  simp only [subscribed, eq, any_filter, any_eq_true, Bool.and_eq_true,
    decide_eq_true_eq, beq_iff_eq]
  constructor
  · rintro ⟨s, there, different, rfl⟩
    exact ⟨⟨s, there, rfl⟩, different⟩
  · rintro ⟨⟨s, there, rfl⟩, different⟩
    exact ⟨s, there, different, rfl⟩

theorem subscribed_congr (other : String) (c' : QueueConsumer)
    (eq : c'.subscriptions = c.subscriptions) : c'.subscribed other = c.subscribed other := by
  rw [subscribed, subscribed, eq]

end Consumer

theorem storeQueueName_inj {playId playId' : String} {kind kind' : DeadLetters.Kind}
    (same : storeQueueName playId kind = storeQueueName playId' kind') :
    playId = playId' ∧ kind = kind' := by
  have kinds := kind_of_storeQueueName same
  subst kinds
  cases kind with
  | tick | startPoint => exact ⟨(String.append_right_inj _).mp same, rfl⟩

namespace PlaySubscription

def tag (e : PlaySubscription) : DeadLetters.Kind → Nat
  | .tick => e.tick
  | .startPoint => e.startPoint

def consumption (e : PlaySubscription) (kind : DeadLetters.Kind) : Consumption :=
  ⟨e.tag kind, storeQueueName e.playId kind⟩

end PlaySubscription

/-- The tags of the consumers are distinct, and new ones differ from them. -/
structure Tagged (s : Watcher) : Prop where
  fresh : ∀ c ∈ s.consuming, c.consumerTag < s.nextTag
  nodup : (s.consuming.map Consumption.consumerTag).Nodup

/-- The map, the records of the consumer and the consumers of the channel agree. -/
structure Synced (s : Watcher) : Prop extends Tagged s where
  keys : (s.subscriptionMap.map PlaySubscription.playId).Nodup
  recorded : ∀ playId, s.consumer.subscribed playId = true ↔
    playId ∈ s.subscriptionMap.map PlaySubscription.playId
  live : s.connected = true → ∀ e ∈ s.subscriptionMap, ∀ kind, e.consumption kind ∈ s.consuming
  owned : ∀ c ∈ s.consuming, (∃ e ∈ s.subscriptionMap, ∃ kind, c = e.consumption kind) ∨
    s.dlxSubscribed = true ∧ ∃ kind, c.queue = deadLetterQueueName kind
  dead : s.connected = true → s.dlxSubscribed = true →
    ∀ kind, ∃ c ∈ s.consuming, c.queue = deadLetterQueueName kind
  lost : s.connected = false → s.consuming = []

theorem Synced.new : Synced new where
  fresh c there := (not_mem_nil there).elim
  nodup := nodup_nil
  keys := nodup_nil
  recorded playId := by
    constructor
    · intro subscribed
      cases subscribed
    · exact fun there => (not_mem_nil there).elim
  live _ e there := (not_mem_nil there).elim
  owned c there := (not_mem_nil there).elim
  dead _ subscribed := by cases subscribed
  lost _ := rfl

section Agreement

variable {s : Watcher}

theorem Synced.agrees (synced : Synced s) : Agrees s := by
  intro connected queue
  constructor
  · rintro ⟨c, there, rfl⟩
    rcases synced.owned c there with ⟨e, inMap, kind, rfl⟩ | ⟨subscribed, kind, eq⟩
    · refine Or.inr ⟨e.playId, kind, (synced.recorded _).mpr ?_, rfl⟩
      exact mem_map_of_mem inMap
    · exact Or.inl ⟨subscribed, kind, eq⟩
  · rintro (⟨subscribed, kind, rfl⟩ | ⟨playId, kind, subscribed, rfl⟩)
    · exact synced.dead connected subscribed kind
    · obtain ⟨e, inMap, rfl⟩ := mem_map.mp ((synced.recorded playId).mp subscribed)
      exact ⟨e.consumption kind, synced.live connected e inMap kind, rfl⟩

variable {playId : String}

theorem mem_of_subscription {e : PlaySubscription} (found : s.subscription playId = some e) :
    e ∈ s.subscriptionMap ∧ e.playId = playId := by
  have named := List.find?_some found
  exact ⟨List.mem_of_find?_eq_some found, of_decide_eq_true named⟩

theorem subscription_isNone (absent : s.subscription playId = none) :
    playId ∉ s.subscriptionMap.map PlaySubscription.playId := by
  intro there
  obtain ⟨e, inMap, named⟩ := mem_map.mp there
  have other := List.find?_eq_none.mp absent e inMap
  exact other (decide_eq_true named)

theorem Synced.subscription_eq_none (synced : Synced s)
    (unknown : s.consumer.subscribed playId = false) : s.subscription playId = none := by
  cases found : s.subscription playId with
  | none => rfl
  | some e =>
    obtain ⟨inMap, named⟩ := mem_of_subscription found
    have known := (synced.recorded playId).mpr (mem_map.mpr ⟨e, inMap, named⟩)
    rw [unknown] at known
    cases known

theorem Synced.exists_subscription (synced : Synced s)
    (known : s.consumer.subscribed playId = true) : ∃ e, s.subscription playId = some e := by
  cases found : s.subscription playId with
  | some e => exact ⟨e, rfl⟩
  | none => exact absurd ((synced.recorded playId).mp known) (subscription_isNone found)

theorem Tagged.consume (tagged : Tagged s) (queue : String) : Tagged (s.consume queue) := by
  constructor
  · intro c there
    rcases mem_append.mp there with there | there
    · exact Nat.lt_succ_of_lt (tagged.fresh c there)
    · rw [mem_singleton.mp there]
      exact Nat.lt_succ_self _
  · apply Keyed.nodup_map_append _ _ _ tagged.nodup
    intro there
    obtain ⟨c, inside, same⟩ := mem_map.mp there
    exact absurd same (Nat.ne_of_lt (tagged.fresh c inside))

theorem Tagged.cancel (tagged : Tagged s) (tag : Nat) : Tagged (s.cancel tag) where
  fresh c there := tagged.fresh c (mem_filter.mp there).1
  nodup := Keyed.nodup_map_filter _ _ _ tagged.nodup

theorem Tagged.eq_of_tag (tagged : Tagged s) {c c' : Consumption} (there : c ∈ s.consuming)
    (there' : c' ∈ s.consuming) (same : c.consumerTag = c'.consumerTag) : c = c' :=
  Keyed.eq_of_key Consumption.consumerTag _ tagged.nodup c c' there there' same

theorem mem_cancel {tag : Nat} {c : Consumption} :
    c ∈ (s.cancel tag).consuming ↔ c ∈ s.consuming ∧ c.consumerTag ≠ tag := by
  rw [Watcher.cancel, mem_filter, decide_eq_true_eq]

theorem Synced.eq_of_playId (synced : Synced s) {e e' : PlaySubscription}
    (there : e ∈ s.subscriptionMap) (there' : e' ∈ s.subscriptionMap)
    (same : e.playId = e'.playId) : e = e' :=
  Keyed.eq_of_key PlaySubscription.playId _ synced.keys e e' there there' same

theorem Synced.withConsumer (synced : Synced s) {consumer : QueueConsumer}
    (same : ∀ playId, consumer.subscribed playId = s.consumer.subscribed playId) :
    Synced { s with consumer := consumer } :=
  { synced with recorded := fun playId => by rw [same playId]; exact synced.recorded playId }

end Agreement

section Steps

variable {s : Watcher}

theorem Synced.subscribed (synced : Synced s) (connected : s.connected = true) {playId : String}
    (absent : s.subscription playId = none) {consumer : QueueConsumer}
    (records : ∀ other, consumer.subscribed other = true ↔
      s.consumer.subscribed other = true ∨ other = playId) :
    Synced { (s.subscribe playId .done).1 with consumer := consumer } := by
  let e : PlaySubscription := ⟨playId, s.nextTag, s.nextTag + 1⟩
  have unlisted := subscription_isNone absent
  have tagged : Tagged
      ((s.consume (storeQueueName playId .tick)).consume (storeQueueName playId .startPoint)) :=
    (synced.toTagged.consume _).consume _
  have consuming : ((s.consume (storeQueueName playId .tick)).consume
      (storeQueueName playId .startPoint)).consuming =
      s.consuming ++ [e.consumption .tick] ++ [e.consumption .startPoint] := rfl
  have newly : ∀ kind, e.consumption kind ∈
      s.consuming ++ [e.consumption .tick] ++ [e.consumption .startPoint] := by
    intro kind
    cases kind with
    | tick | startPoint => simp
  have old : ∀ c ∈ s.consuming, c ∈
      s.consuming ++ [e.consumption .tick] ++ [e.consumption .startPoint] :=
    fun c there => mem_append_left _ (mem_append_left _ there)
  simp only [Watcher.subscribe, absent, Watcher.subscribeInner]
  constructor
  · exact ⟨tagged.fresh, tagged.nodup⟩
  · exact Keyed.nodup_map_append _ _ _ synced.keys unlisted
  · intro other
    show consumer.subscribed other = true ↔
      other ∈ (s.subscriptionMap ++ [e]).map PlaySubscription.playId
    rw [records, synced.recorded, map_append, mem_append, map_singleton,
      mem_singleton]
  · intro _ other there kind
    rw [consuming]
    rcases mem_append.mp there with there | there
    · exact old _ (synced.live connected other there kind)
    · rw [mem_singleton.mp there]
      exact newly kind
  · intro c there
    rw [consuming, mem_append, mem_append, mem_singleton,
      mem_singleton] at there
    have mine : e ∈ s.subscriptionMap ++ [e] := mem_append_right _ (mem_singleton_self e)
    rcases there with (there | rfl) | rfl
    · rcases synced.owned c there with ⟨other, inMap, owns⟩ | dead
      · exact Or.inl ⟨other, mem_append_left _ inMap, owns⟩
      · exact Or.inr dead
    · exact Or.inl ⟨e, mine, .tick, rfl⟩
    · exact Or.inl ⟨e, mine, .startPoint, rfl⟩
  · intro _ subscribed kind
    obtain ⟨c, there, eq⟩ := synced.dead connected subscribed kind
    exact ⟨c, old c there, eq⟩
  · intro lost
    have lost' : s.connected = false := lost
    rw [connected] at lost'
    cases lost'

theorem forget_absent {playId : String} (absent : s.subscription playId = none) :
    s.forget playId = s := by
  have same : s.subscriptionMap.filter (fun e => e.playId ≠ playId) = s.subscriptionMap := by
    apply filter_eq_self.mpr
    intro e there
    rw [decide_eq_true_eq]
    intro named
    exact subscription_isNone absent (mem_map.mpr ⟨e, there, named⟩)
  rw [Watcher.forget, same]

theorem Synced.assertSubscription (synced : Synced s) (connected : s.connected = true)
    (playId : String) (progress : Progress)
    (permitted : s.consumer.subscribed playId = false → progress ≠ .half) :
    Synced (s.assertSubscription playId progress) := by
  rw [Watcher.assertSubscription]
  cases known : s.consumer.subscribed playId with
  | true =>
    apply synced.withConsumer
    intro other
    apply subscribed_congr
    rw [subscriptions_assertSubscription, known]
    rfl
  | false =>
    have absent := synced.subscription_eq_none known
    cases progress with
    | half => exact absurd rfl (permitted known)
    | none =>
      have called : s.subscribe playId .none = (s, false) := by
        rw [Watcher.subscribe, absent]
        dsimp only [Watcher.subscribeInner]
        rw [forget_absent absent]
      simp only [Bool.false_eq_true, if_false, called]
      apply synced.withConsumer
      intro other
      apply subscribed_congr
      rw [subscriptions_assertSubscription, if_neg (by simp)]
    | done =>
      have called : (s.subscribe playId .done).2 = true := by
        rw [Watcher.subscribe, absent]
        rfl
      simp only [Bool.false_eq_true, if_false, called]
      apply synced.subscribed connected absent
      intro other
      apply subscribed_append
      rw [subscriptions_assertSubscription, if_pos ⟨known, rfl⟩]

variable {e : PlaySubscription} {progress : String → Progress}

section

variable (synced : Synced s) (connected : s.connected = true)

include synced connected

theorem Synced.not_cancelled (inMap : e ∈ s.subscriptionMap) {c : Consumption}
    (there : c ∈ s.consuming)
    (other : ∀ kind, c.queue ≠ storeQueueName e.playId kind) (kind : DeadLetters.Kind) :
    c.consumerTag ≠ e.tag kind := by
  intro same
  have mine := synced.live connected e inMap kind
  have eq := synced.eq_of_tag there mine same
  exact other kind (by rw [eq]; rfl)

theorem Synced.unsubscribed (inMap : e ∈ s.subscriptionMap) {consumer : QueueConsumer}
    (records : ∀ other, consumer.subscribed other = true ↔ s.consumer.subscribed other = true ∧
    other ≠ e.playId) :
    Synced { ((s.cancel e.tick).cancel e.startPoint).forget e.playId with
      consumer := consumer } := by
  have kept : ∀ c, c ∈ ((s.cancel e.tick).cancel e.startPoint).consuming ↔
      c ∈ s.consuming ∧ ∀ kind, c.consumerTag ≠ e.tag kind := by
    intro c
    rw [mem_cancel, mem_cancel, and_assoc]
    refine and_congr_right fun _ => ⟨?_, fun all => ⟨all .tick, all .startPoint⟩⟩
    rintro ⟨notTick, notStartPoint⟩ kind
    cases kind with
    | tick => exact notTick
    | startPoint => exact notStartPoint
  have tagged : Tagged ((s.cancel e.tick).cancel e.startPoint) :=
    (synced.toTagged.cancel _).cancel _
  constructor
  · exact ⟨tagged.fresh, tagged.nodup⟩
  · exact Keyed.nodup_map_filter _ _ _ synced.keys
  · intro other
    show consumer.subscribed other = true ↔ _
    rw [records, synced.recorded, List.mem_map, List.mem_map]
    constructor
    · rintro ⟨⟨e', there, rfl⟩, different⟩
      exact ⟨e', mem_filter.mpr ⟨there, decide_eq_true different⟩, rfl⟩
    · rintro ⟨e', there, rfl⟩
      obtain ⟨there, different⟩ := mem_filter.mp there
      exact ⟨⟨e', there, rfl⟩, of_decide_eq_true different⟩
  · intro _ e' there kind
    obtain ⟨there, different⟩ := mem_filter.mp there
    have inside := synced.live connected e' there kind
    refine (kept _).mpr ⟨inside, synced.not_cancelled connected inMap inside ?_⟩
    intro kind' same
    exact of_decide_eq_true different (storeQueueName_inj same).1
  · intro c there
    obtain ⟨inside, notTag⟩ := (kept c).mp there
    rcases synced.owned c inside with ⟨e', there', kind, rfl⟩ | dead
    · refine Or.inl ⟨e', mem_filter.mpr ⟨there', decide_eq_true ?_⟩, kind, rfl⟩
      intro same
      rw [synced.eq_of_playId there' inMap same] at notTag
      exact notTag kind rfl
    · exact Or.inr dead
  · intro _ subscribed kind
    obtain ⟨c, there, eq⟩ := synced.dead connected subscribed kind
    refine ⟨c, (kept c).mpr ⟨there, synced.not_cancelled connected inMap there ?_⟩, eq⟩
    intro kind' same
    exact deadLetterQueueName_ne _ _ _ (eq.symm.trans same)
  · intro lost
    have lost' : s.connected = false := lost
    rw [connected] at lost'
    cases lost'

theorem Synced.unsubscribeAndDelete (playId : String) (d : Deletion)
    (permitted : s.consumer.subscribed playId = true → d.unsubscribes = true →
      d.progress = .none ∨ d.progress = .done ∧ d.deleteQueue = true) :
    Synced (s.unsubscribeAndDelete playId d) := by
  rw [Watcher.unsubscribeAndDelete]
  cases calls : d.unsubscribes with
  | false =>
    apply synced.withConsumer
    intro other
    apply subscribed_congr
    rw [subscriptions_unsubscribeAndDelete, if_neg (by simp [calls])]
  | true =>
    simp only [if_true]
    cases known : s.consumer.subscribed playId with
    | false =>
      have called : s.unsubscribe playId d.progress = (s, true) := by
        rw [Watcher.unsubscribe, synced.subscription_eq_none known]
      rw [called]
      apply synced.withConsumer
      intro other
      rw [Bool.eq_iff_iff]
      have unrecorded : other = playId → s.consumer.subscribed other = false := by
        rintro rfl
        exact known
      by_cases deletes : d.deleteQueue = true
      · rw [subscribed_filter s.consumer playId other _ ?_]
        · refine and_iff_left_of_imp fun recorded same => ?_
          rw [unrecorded same] at recorded
          cases recorded
        · rw [subscriptions_unsubscribeAndDelete, if_pos ⟨calls, rfl, deletes⟩]
      · rw [subscribed_congr s.consumer other _ ?_]
        rw [subscriptions_unsubscribeAndDelete, if_neg (by simp [deletes])]
    | true =>
      obtain ⟨e, found⟩ := synced.exists_subscription known
      obtain ⟨inMap, rfl⟩ := mem_of_subscription found
      rcases permitted known calls with none | ⟨done, deletes⟩
      · have called : s.unsubscribe e.playId d.progress = (s, false) := by
          rw [Watcher.unsubscribe, found, none]
        rw [called]
        apply synced.withConsumer
        intro other
        apply subscribed_congr
        rw [subscriptions_unsubscribeAndDelete, if_neg (by simp)]
      · have called : s.unsubscribe e.playId d.progress =
            (((s.cancel e.tick).cancel e.startPoint).forget e.playId, true) := by
          rw [Watcher.unsubscribe, found, done]
        rw [called]
        apply synced.unsubscribed connected inMap
        intro other
        apply subscribed_filter
        rw [subscriptions_unsubscribeAndDelete, if_pos ⟨calls, rfl, deletes⟩]

theorem Synced.consumeDeadLetter (kind : DeadLetters.Kind) {dlxSubscribed : Bool}
    (after : dlxSubscribed = true)
    (dead : ∀ kind', ∃ c ∈ (s.consume (deadLetterQueueName kind)).consuming,
      c.queue = deadLetterQueueName kind') :
    Synced { s.consume (deadLetterQueueName kind) with dlxSubscribed := dlxSubscribed } := by
  have tagged := synced.toTagged.consume (deadLetterQueueName kind)
  constructor
  · exact ⟨tagged.fresh, tagged.nodup⟩
  · exact synced.keys
  · exact synced.recorded
  · exact fun _ e there kind' => mem_append_left _ (synced.live connected e there kind')
  · intro c there
    rcases mem_append.mp there with there | there
    · rcases synced.owned c there with owned | ⟨-, other⟩
      · exact Or.inl owned
      · exact Or.inr ⟨after, other⟩
    · rw [mem_singleton.mp there]
      exact Or.inr ⟨after, kind, rfl⟩
  · exact fun _ _ => dead
  · intro lost
    have lost' : s.connected = false := lost
    rw [connected] at lost'
    cases lost'

theorem Synced.subscribeDeadLetter (progress : Progress)
    (permitted : progress = .half → s.dlxSubscribed = true) :
    Synced (s.subscribeDeadLetter progress) := by
  -- the two queues have one name
  have first : ∀ kind, ∃ c ∈ (s.consume (deadLetterQueueName .tick)).consuming,
      c.queue = deadLetterQueueName kind := by
    intro kind
    refine ⟨_, mem_append_right _ (mem_singleton_self _), ?_⟩
    exact deadLetterQueueName_eq .tick kind
  cases progress with
  | none => exact synced
  | half => exact synced.consumeDeadLetter connected .tick (permitted rfl) first
  | done =>
    have once := synced.consumeDeadLetter connected .tick (rfl : true = true) first
    refine once.consumeDeadLetter connected .startPoint rfl fun kind => ?_
    obtain ⟨c, there, eq⟩ := first kind
    exact ⟨c, mem_append_left _ there, eq⟩

end

theorem Synced.lose (synced : Synced s) (byError : Bool) : Synced (s.lose byError) where
  fresh c there := (not_mem_nil there).elim
  nodup := nodup_nil
  keys := synced.keys
  recorded := synced.recorded
  live connected := by cases connected
  owned c there := (not_mem_nil there).elim
  dead connected := by cases connected
  lost _ := rfl

structure Resubscribed (playIds : List String) (s : Watcher) : Prop extends Tagged s where
  keys : (s.subscriptionMap.map PlaySubscription.playId).Nodup
  live : ∀ e ∈ s.subscriptionMap, e.playId ∈ playIds → ∀ kind, e.consumption kind ∈ s.consuming
  owned : ∀ c ∈ s.consuming, ∃ e ∈ s.subscriptionMap, e.playId ∈ playIds ∧
    ∃ kind, c = e.consumption kind

theorem playIds_resubscribe (s : Watcher) (done : progress e.playId = .done) :
    (s.resubscribe progress e).subscriptionMap.map PlaySubscription.playId =
      s.subscriptionMap.map PlaySubscription.playId := by
  rw [Watcher.resubscribe, done]
  dsimp only [Watcher.subscribeInner]
  rw [map_map]
  apply map_congr_left
  intro other _
  by_cases same : other.playId = e.playId
  · rw [Function.comp_apply, if_pos same, same]
  · rw [Function.comp_apply, if_neg same]

theorem Resubscribed.next {playIds : List String} (before : Resubscribed playIds s)
    (done : progress e.playId = .done)
    (there : e.playId ∈ s.subscriptionMap.map PlaySubscription.playId) (new : e.playId ∉ playIds) :
    Resubscribed (playIds ++ [e.playId]) (s.resubscribe progress e) := by
  have ids := playIds_resubscribe s done
  let e' : PlaySubscription := ⟨e.playId, s.nextTag, s.nextTag + 1⟩
  have consuming : (s.resubscribe progress e).consuming =
      s.consuming ++ [e'.consumption .tick] ++ [e'.consumption .startPoint] := by
    rw [Watcher.resubscribe, done]
    rfl
  have entries : ∀ other, other ∈ (s.resubscribe progress e).subscriptionMap ↔
      other = e' ∨ other ∈ s.subscriptionMap ∧ other.playId ≠ e.playId := by
    intro other
    rw [Watcher.resubscribe, done]
    dsimp only [Watcher.subscribeInner]
    rw [List.mem_map]
    constructor
    · rintro ⟨old, inMap, rfl⟩
      by_cases same : old.playId = e.playId
      · rw [if_pos same]
        exact Or.inl rfl
      · rw [if_neg same]
        exact Or.inr ⟨inMap, same⟩
    · rintro (rfl | ⟨inMap, different⟩)
      · obtain ⟨old, inMap, same⟩ := mem_map.mp there
        exact ⟨old, inMap, if_pos same⟩
      · exact ⟨other, inMap, if_neg different⟩
  have newly : ∀ kind, e'.consumption kind ∈
      s.consuming ++ [e'.consumption .tick] ++ [e'.consumption .startPoint] := by
    intro kind
    cases kind with
    | tick | startPoint => simp
  have tagged : Tagged (s.resubscribe progress e) := by
    have twice := (before.toTagged.consume (storeQueueName e.playId .tick)).consume
      (storeQueueName e.playId .startPoint)
    rw [Watcher.resubscribe, done]
    exact ⟨twice.fresh, twice.nodup⟩
  refine ⟨tagged, ?_, ?_, ?_⟩
  · rw [ids]
    exact before.keys
  · intro other inMap listed kind
    rw [consuming]
    rcases (entries other).mp inMap with rfl | ⟨inMap, different⟩
    · exact newly kind
    · rcases mem_append.mp listed with listed | same
      · exact mem_append_left _ (mem_append_left _ (before.live other inMap listed kind))
      · exact absurd (mem_singleton.mp same) different
  · intro c inside
    rw [consuming, mem_append, mem_append, mem_singleton,
      mem_singleton] at inside
    have mine := (entries e').mpr (Or.inl rfl)
    have listed : e'.playId ∈ playIds ++ [e.playId] :=
      mem_append_right _ (mem_singleton_self _)
    rcases inside with (inside | rfl) | rfl
    · obtain ⟨other, inMap, known, owns⟩ := before.owned c inside
      have different : other.playId ≠ e.playId := by
        intro same
        rw [same] at known
        exact new known
      exact ⟨other, (entries other).mpr (Or.inr ⟨inMap, different⟩),
        mem_append_left _ known, owns⟩
    · exact ⟨e', mine, listed, .tick, rfl⟩
    · exact ⟨e', mine, listed, .startPoint, rfl⟩

theorem Resubscribed.foldl (rest : List PlaySubscription) {playIds : List String}
    (before : Resubscribed playIds s) (done : ∀ e ∈ rest, progress e.playId = .done)
    (there : ∀ e ∈ rest, e.playId ∈ s.subscriptionMap.map PlaySubscription.playId)
    (distinct : (playIds ++ rest.map PlaySubscription.playId).Nodup) :
    Resubscribed (playIds ++ rest.map PlaySubscription.playId)
        (rest.foldl (Watcher.resubscribe progress) s) ∧
      (rest.foldl (Watcher.resubscribe progress) s).subscriptionMap.map PlaySubscription.playId =
        s.subscriptionMap.map PlaySubscription.playId := by
  induction rest generalizing s playIds with
  | nil =>
    rw [map_nil, append_nil]
    exact ⟨before, rfl⟩
  | cons e rest ih =>
    have ids := playIds_resubscribe s (done e mem_cons_self)
    have new : e.playId ∉ playIds := by
      intro known
      exact disjoint_of_nodup_append distinct known (by simp)
    have now := before.next (done e mem_cons_self) (there e mem_cons_self) new
    rw [map_cons, append_cons] at distinct ⊢
    obtain ⟨after, same⟩ := ih now (fun e' later => done e' (mem_cons_of_mem _ later))
      (fun e' later => by rw [ids]; exact there e' (mem_cons_of_mem _ later)) distinct
    exact ⟨after, same.trans ids⟩

structure Reconsumes (progress : String → Progress) (s s' : Watcher) : Prop where
  consumer : s'.consumer = s.consumer
  dlxSubscribed : s'.dlxSubscribed = s.dlxSubscribed
  connected : s'.connected = s.connected
  consuming : ∀ c ∈ s'.consuming, c ∈ s.consuming ∨ ∃ playId kind,
    c.queue = storeQueueName playId kind ∧ (kind = .startPoint → progress playId = .done)

theorem reconsumes_resubscribe (progress : String → Progress) (s : Watcher)
    (e : PlaySubscription) : Reconsumes progress s (s.resubscribe progress e) := by
  rw [Watcher.resubscribe]
  cases gets : progress e.playId with
  | none => exact ⟨rfl, rfl, rfl, fun _ there => Or.inl there⟩
  | half =>
    refine ⟨rfl, rfl, rfl, fun c there => ?_⟩
    rcases mem_append.mp there with there | there
    · exact Or.inl there
    · rw [mem_singleton.mp there]
      exact Or.inr ⟨e.playId, .tick, rfl, fun other => by cases other⟩
  | done =>
    refine ⟨rfl, rfl, rfl, fun c there => ?_⟩
    rcases mem_append.mp there with there | there
    · rcases mem_append.mp there with there | there
      · exact Or.inl there
      · rw [mem_singleton.mp there]
        exact Or.inr ⟨e.playId, .tick, rfl, fun _ => gets⟩
    · rw [mem_singleton.mp there]
      exact Or.inr ⟨e.playId, .startPoint, rfl, fun _ => gets⟩

theorem reconsumes_foldl (progress : String → Progress) (rest : List PlaySubscription)
    (s : Watcher) : Reconsumes progress s (rest.foldl (Watcher.resubscribe progress) s) := by
  induction rest generalizing s with
  | nil => exact ⟨rfl, rfl, rfl, fun _ there => Or.inl there⟩
  | cons e rest ih =>
    have first := reconsumes_resubscribe progress s e
    have later := ih (s.resubscribe progress e)
    refine ⟨later.consumer.trans first.consumer, later.dlxSubscribed.trans first.dlxSubscribed,
      later.connected.trans first.connected, fun c there => ?_⟩
    rcases later.consuming c there with there | reconsumed
    · exact first.consuming c there
    · exact Or.inr reconsumed

theorem Synced.reconnect (synced : Synced s) (lost : s.connected = false)
    (progress : String → Progress) (undead : s.dlxSubscribed = false)
    (again : ∀ playId, s.consumer.subscribed playId = true →
      s.lostByError = true ∧ progress playId = .done) : Synced (s.reconnect progress) := by
  have nothing := synced.lost lost
  rw [Watcher.reconnect]
  by_cases byError : s.lostByError = true
  · rw [if_pos byError]
    let s' : Watcher := { s with connected := true }
    have before : Resubscribed [] s' := by
      refine ⟨⟨synced.fresh, synced.nodup⟩, synced.keys, ?_, ?_⟩
      · exact fun e _ none => (not_mem_nil none).elim
      · intro c there
        rw [show s'.consuming = [] from nothing] at there
        exact (not_mem_nil there).elim
    have done : ∀ e ∈ s'.subscriptionMap, progress e.playId = .done :=
      fun e there => (again e.playId ((synced.recorded _).mpr (mem_map_of_mem there))).2
    obtain ⟨after, ids⟩ := before.foldl s'.subscriptionMap done
      (fun e there => mem_map_of_mem there) synced.keys
    have frame := reconsumes_foldl progress s'.subscriptionMap s'
    rw [nil_append] at after
    constructor
    · exact after.toTagged
    · exact after.keys
    · intro playId
      rw [Watcher.onReconnected, frame.consumer, ids]
      exact synced.recorded playId
    · intro _ e inMap
      apply after.live e inMap
      rw [← ids]
      exact mem_map_of_mem inMap
    · intro c there
      obtain ⟨e, inMap, -, owns⟩ := after.owned c there
      exact Or.inl ⟨e, inMap, owns⟩
    · intro _ subscribed
      rw [Watcher.onReconnected, frame.dlxSubscribed, undead] at subscribed
      cases subscribed
    · intro off
      rw [Watcher.onReconnected, frame.connected] at off
      cases off
  · have unsubscribed : s.subscriptionMap = [] := by
      apply eq_nil_iff_forall_not_mem.mpr
      intro e there
      exact byError (again e.playId ((synced.recorded _).mpr (mem_map_of_mem there))).1
    rw [if_neg byError]
    refine { synced with live := ?_, dead := ?_, lost := ?_ }
    · intro _ e there
      rw [unsubscribed] at there
      exact (not_mem_nil there).elim
    · intro _ subscribed
      rw [undead] at subscribed
      cases subscribed
    · exact fun _ => nothing

end Steps

theorem Synced.next (s : Watcher) (action : Action) (synced : Synced s)
    (permitted : Permitted s action) : Synced (next s action) := by
  cases action with
  | assertSubscription playId progress =>
    rw [QueueSubscriptions.next]
    split
    case isTrue connected =>
      exact synced.assertSubscription connected playId progress (permitted connected)
    case isFalse => exact synced
  | unsubscribeAndDelete playId deletion =>
    rw [QueueSubscriptions.next]
    split
    case isTrue connected =>
      exact synced.unsubscribeAndDelete connected playId deletion (permitted connected)
    case isFalse => exact synced
  | subscribeDeadLetter progress =>
    rw [QueueSubscriptions.next]
    split
    case isTrue connected =>
      exact synced.subscribeDeadLetter connected progress (permitted connected)
    case isFalse => exact synced
  | lose byError =>
    rw [QueueSubscriptions.next]
    split
    · exact synced.lose byError
    · exact synced
  | reconnect progress =>
    rw [QueueSubscriptions.next]
    split
    · exact synced
    case isFalse off =>
      have lost : s.connected = false := Bool.eq_false_iff.mpr off
      obtain ⟨undead, again⟩ := permitted lost
      exact synced.reconnect lost progress undead again

section Needed

variable {s : Watcher}

theorem Synced.tick_not_consumed (synced : Synced s) {e : PlaySubscription}
    (inMap : e ∈ s.subscriptionMap) {c : Consumption} (there : c ∈ s.consuming)
    (notTag : c.consumerTag ≠ e.tick) : c.queue ≠ storeQueueName e.playId .tick := by
  intro same
  rcases synced.owned c there with ⟨e', there', kind, rfl⟩ | ⟨-, kind, dead⟩
  · obtain ⟨samePlay, rfl⟩ := storeQueueName_inj same
    rw [synced.eq_of_playId there' inMap samePlay] at notTag
    exact notTag rfl
  · exact deadLetterQueueName_ne _ _ _ (dead.symm.trans same)

theorem Agrees.expected {s' : Watcher} (agrees : Agrees s') (connected : s'.connected = true)
    {playId : String} (kind : DeadLetters.Kind) (known : s'.consumer.subscribed playId = true) :
    ∃ c ∈ s'.consuming, c.queue = storeQueueName playId kind :=
  (agrees connected _).mpr (Or.inr ⟨playId, kind, known, rfl⟩)

theorem needed_assertSubscription (synced : Synced s) (connected : s.connected = true)
    {playId : String} {progress : Progress} (agrees : Agrees (s.assertSubscription playId progress))
    (unknown : s.consumer.subscribed playId = false) : progress ≠ .half := by
  rintro rfl
  have absent := synced.subscription_eq_none unknown
  have called : s.subscribe playId .half =
      ((s.consume (storeQueueName playId .tick)).forget playId, false) := by
    rw [Watcher.subscribe, absent]
    rfl
  rw [Watcher.assertSubscription, unknown, if_neg Bool.false_ne_true, called] at agrees
  have expected := (agrees connected (storeQueueName playId .tick)).mp
    ⟨_, mem_append_right _ (mem_singleton_self _), rfl⟩
  rcases expected with ⟨-, kind, same⟩ | ⟨playId', kind, known, same⟩
  · exact deadLetterQueueName_ne _ _ _ same.symm
  · obtain ⟨rfl, -⟩ := storeQueueName_inj same
    dsimp only at known
    rw [subscribed_congr s.consumer playId _ ?_, unknown] at known
    · cases known
    · rw [subscriptions_assertSubscription, if_neg (by simp)]

theorem needed_unsubscribeAndDelete (synced : Synced s) (connected : s.connected = true)
    {playId : String} {d : Deletion} (agrees : Agrees (s.unsubscribeAndDelete playId d))
    (known : s.consumer.subscribed playId = true) (calls : d.unsubscribes = true) :
    d.progress = .none ∨ d.progress = .done ∧ d.deleteQueue = true := by
  obtain ⟨e, found⟩ := synced.exists_subscription known
  obtain ⟨inMap, rfl⟩ := mem_of_subscription found
  rw [Watcher.unsubscribeAndDelete, if_pos calls] at agrees
  -- the consumer keeps its record, though the tick queue is not consumed any more
  have impossible (s' : Watcher) (result : Bool)
      (called : s.unsubscribe e.playId d.progress = (s', result))
      (cancelled : ∀ c ∈ s'.consuming, c ∈ s.consuming ∧ c.consumerTag ≠ e.tick)
      (connected' : s'.connected = true)
      (kept : ¬ (d.unsubscribes = true ∧ result = true ∧ d.deleteQueue = true)) : False := by
    rw [called] at agrees
    have recorded : (stateOf (unsubscribeAndDelete
        (answering (d.answers result) d.hasMessage) e.playId s.consumer)).subscribed e.playId =
          true := by
      rw [subscribed_congr s.consumer e.playId _ ?_, known]
      rw [subscriptions_unsubscribeAndDelete, if_neg kept]
    obtain ⟨c, there, same⟩ := agrees.expected connected' .tick recorded
    obtain ⟨inside, notTag⟩ := cancelled c there
    exact synced.tick_not_consumed inMap inside notTag same
  cases gets : d.progress with
  | none => exact Or.inl rfl
  | half =>
    refine (impossible (s.cancel e.tick) false ?_ ?_ connected (by simp)).elim
    · rw [Watcher.unsubscribe, found, gets]
    · exact fun c there => mem_cancel.mp there
  | done =>
    refine Or.inr ⟨rfl, ?_⟩
    by_contra notDeleted
    refine impossible (((s.cancel e.tick).cancel e.startPoint).forget e.playId) true ?_ ?_
      connected (by simp [notDeleted])
    · rw [Watcher.unsubscribe, found, gets]
    · exact fun c there => mem_cancel.mp (mem_cancel.mp there).1

theorem needed_subscribeDeadLetter (connected : s.connected = true) {progress : Progress}
    (agrees : Agrees (s.subscribeDeadLetter progress)) (half : progress = .half) :
    s.dlxSubscribed = true := by
  subst half
  have expected := (agrees connected (deadLetterQueueName .tick)).mp
    ⟨_, mem_append_right _ (mem_singleton_self _), rfl⟩
  rcases expected with ⟨subscribed, -⟩ | ⟨playId, kind, -, same⟩
  · exact subscribed
  · exact absurd same (deadLetterQueueName_ne _ _ _)

theorem reconnect_frame (synced : Synced s) (lost : s.connected = false)
    (progress : String → Progress) : (s.reconnect progress).consumer = s.consumer ∧
      (s.reconnect progress).dlxSubscribed = s.dlxSubscribed ∧
      (s.reconnect progress).connected = true ∧
      ∀ c ∈ (s.reconnect progress).consuming, s.lostByError = true ∧ ∃ playId kind,
        c.queue = storeQueueName playId kind ∧ (kind = .startPoint → progress playId = .done) := by
  have nothing := synced.lost lost
  rw [Watcher.reconnect]
  by_cases byError : s.lostByError = true
  · rw [if_pos byError]
    have frame := reconsumes_foldl progress s.subscriptionMap { s with connected := true }
    refine ⟨frame.consumer, frame.dlxSubscribed, frame.connected, fun c there => ?_⟩
    rcases frame.consuming c there with there | reconsumed
    · rw [nothing] at there
      exact (not_mem_nil there).elim
    · exact ⟨byError, reconsumed⟩
  · rw [if_neg byError]
    refine ⟨rfl, rfl, rfl, fun c there => ?_⟩
    dsimp only at there
    rw [nothing] at there
    exact (not_mem_nil there).elim

theorem needed_reconnect (synced : Synced s) (lost : s.connected = false)
    {progress : String → Progress} (agrees : Agrees (s.reconnect progress)) :
    s.dlxSubscribed = false ∧ ∀ playId, s.consumer.subscribed playId = true →
      s.lostByError = true ∧ progress playId = .done := by
  obtain ⟨consumer, dlxSubscribed, connected, consuming⟩ := reconnect_frame synced lost progress
  constructor
  · rw [Bool.eq_false_iff]
    intro subscribed
    rw [← dlxSubscribed] at subscribed
    obtain ⟨c, there, dead⟩ := (agrees connected _).mpr (Or.inl ⟨subscribed, .tick, rfl⟩)
    obtain ⟨-, playId, kind, same, -⟩ := consuming c there
    exact deadLetterQueueName_ne _ _ _ (dead.symm.trans same)
  · intro playId known
    rw [← consumer] at known
    obtain ⟨c, there, same⟩ := agrees.expected connected .startPoint known
    obtain ⟨byError, playId', kind, same', done⟩ := consuming c there
    obtain ⟨rfl, rfl⟩ := storeQueueName_inj (same.symm.trans same')
    exact ⟨byError, done rfl⟩

theorem needed_next (s : Watcher) (action : Action) (synced : Synced s)
    (agrees : Agrees (next s action)) : Permitted s action := by
  cases action with
  | assertSubscription playId progress =>
    intro connected
    rw [next, if_pos connected] at agrees
    exact needed_assertSubscription synced connected agrees
  | unsubscribeAndDelete playId deletion =>
    intro connected
    rw [next, if_pos connected] at agrees
    exact needed_unsubscribeAndDelete synced connected agrees
  | subscribeDeadLetter progress =>
    intro connected
    rw [next, if_pos connected] at agrees
    exact needed_subscribeDeadLetter connected agrees
  | lose byError => trivial
  | reconnect progress =>
    intro lost
    rw [next, if_neg (by simp [lost])] at agrees
    exact needed_reconnect synced lost agrees

end Needed

/-- The queues consumed are those subscribed, whenever there is a channel in a run, exactly if
its steps are permitted. -/
theorem agrees_iff_permitted (actions : List Action) :
    (∀ front, front <+: actions → Agrees (Run.final next new front)) ↔
      Run.Allowed next Permitted new actions :=
  (Run.allowed_iff_always_of_invariant Synced.next (fun _ synced => synced.agrees) needed_next
    new actions Synced.new).symm

/-- The consumer subscribes to the dead letters, and the channel fails and is created again. -/
def deadLettersLost : List Action :=
  [.subscribeDeadLetter .done, .lose true, .reconnect fun _ => .done]

theorem deadLettersLost_disagrees :
    ¬ ∀ actions front, front <+: actions → Agrees (Run.final next new front) := by
  intro always
  have agrees := always deadLettersLost deadLettersLost prefix_rfl
  obtain ⟨c, there, -⟩ := (agrees rfl _).mpr (Or.inl ⟨rfl, .tick, rfl⟩)
  exact (not_mem_nil there).elim

end QueueSubscriptions
end AkashicSystem.Playlog
