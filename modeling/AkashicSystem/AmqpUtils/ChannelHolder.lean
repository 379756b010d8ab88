import AkashicSystem.Lib.Run
import Mathlib.Logic.Function.Basic
import Mathlib.Data.List.Basic

/-!
# The holder of a channel

`AmqpChannelHolder`: the channel is created on demand and again after it failed
or closed, and the creation is shared through a promise.  The steps are the
calls, the answers of the connection manager, the events of the channels and
what goes on after an `await` or a timer, in any order.
-/

set_option autoImplicit false

namespace AkashicSystem.AmqpUtils
namespace ChannelHolder

open Function List

inductive Status where
  | started
  | stopped
deriving DecidableEq

/-- A call of `createChannelInner`. -/
inductive Creation where
  | calling (retry : Nat)
  | waiting (retry : Nat)
  | resolved (channel : Nat)
  | rejected
deriving DecidableEq

def Creation.pending : Creation → Bool
  | .calling _ => true
  | .waiting _ => true
  | .resolved _ => false
  | .rejected => false

/-- What an event handler does with the promise of its `createChannel`. -/
inductive Follower where
  | onError (creation : Nat)
  | onClose (creation : Nat)

inductive Event where
  | reconnected
  | error

structure Holder where
  status : Status
  channel : Option Nat
  isChannelCreated : Bool
  createChannelPromise : Option Nat
  creations : List Creation
  /-- The creations whose `createChannel` has not gone on after its `await`. -/
  awaiting : List Nat
  followers : List Follower
  created : Nat
  /-- The channel has not failed or been closed, by the broker or by the holder. -/
  isOpen : Nat → Bool
  listensError : Nat → Bool
  listensClose : Nat → Bool
  timers : List Nat
  events : List Event

def new : Holder where
  status := .stopped
  channel := none
  isChannelCreated := false
  createChannelPromise := none
  creations := []
  awaiting := []
  followers := []
  created := 0
  isOpen := fun _ => false
  listensError := fun _ => false
  listensClose := fun _ => false
  timers := []
  events := []

namespace Holder

def stopInner (h : Holder) (fromCreateChannel : Bool) : Holder :=
  match h.channel with
  | none => h
  | some ch =>
    { h with
      channel := none
      createChannelPromise := if fromCreateChannel then h.createChannelPromise else none
      isChannelCreated := false
      isOpen := update h.isOpen ch false
      listensError := update h.listensError ch false
      listensClose := update h.listensClose ch false }

variable (maxRetry : Nat)

variable (h : Holder)

/-- `createChannelInner`, up to its first `await`. -/
def createChannelInner : Holder :=
  let h' := h.stopInner true
  { h' with creations := h'.creations ++ [if maxRetry = 0 then .rejected else .calling 1] }

/-- `createChannel`, up to its `await`. -/
def createChannel : Holder :=
  match h.createChannelPromise with
  | some _ => h
  | none =>
    { h.createChannelInner maxRetry with
      createChannelPromise := some h.creations.length
      awaiting := h.awaiting ++ [h.creations.length] }

def getChannel : Holder :=
  let h' := { h with status := .started }
  if h'.channel.isSome && h'.isChannelCreated then h' else h'.createChannel maxRetry

def start : Holder :=
  { h with status := .started }.createChannel maxRetry

def stop : Holder := { h with status := .stopped }.stopInner false

variable (n : Nat)

def setCreation (creation : Creation) : Holder :=
  { h with creations := h.creations.set n creation }

def onCreated : Holder :=
  { h.setCreation n (.resolved h.created) with
    channel := some h.created
    isChannelCreated := true
    created := h.created + 1
    isOpen := update h.isOpen h.created true
    listensError := update h.listensError h.created true
    listensClose := update h.listensClose h.created true }

/-- `createChannelInner`, after the answer of the connection manager. -/
def answer (succeeds : Bool) : Holder :=
  match h.creations[n]? with
  | some (.calling retry) =>
    if succeeds then h.onCreated n
    else h.setCreation n (if maxRetry ≤ retry then .rejected else .waiting retry)
  | _ => h

/-- `createChannelInner`, after `wait`. -/
def waited : Holder :=
  match h.creations[n]? with
  | some (.waiting retry) => h.setCreation n (.calling (retry + 1))
  | _ => h

/-- `createChannel`, after its `await`; a rejection leaves it there. -/
def proceed : Holder :=
  if n ∈ h.awaiting then
    match h.creations[n]? with
    | some (.resolved _) =>
      { h with createChannelPromise := none, awaiting := h.awaiting.erase n }
    | some .rejected => { h with awaiting := h.awaiting.erase n }
    | _ => h
  else h

/-- The promise `createChannel` returned in an event handler is handled. -/
def follow (index : Nat) : Holder :=
  match h.followers[index]? with
  | some (.onError n) =>
    match h.creations[n]? with
    | some (.resolved _) =>
      { h with followers := h.followers.eraseIdx index, events := h.events ++ [Event.reconnected] }
    | some .rejected =>
      { h with followers := h.followers.eraseIdx index, events := h.events ++ [Event.error] }
    | _ => h
  | some (.onClose n) =>
    match h.creations[n]? with
    | some (.resolved _) => { h with followers := h.followers.eraseIdx index }
    | some .rejected =>
      { h with followers := h.followers.eraseIdx index, events := h.events ++ [Event.error] }
    | _ => h
  | none => h

/-- The channel emits `error`; it is not usable any more. -/
def channelError (ch : Nat) : Holder :=
  { h with
    isOpen := update h.isOpen ch false
    listensError := update h.listensError ch false
    timers := if h.listensError ch then h.timers ++ [ch] else h.timers }

def createFor (follower : Nat → Follower) : Holder :=
  let h' := h.createChannel maxRetry
  { h' with followers := h'.followers ++ (h'.createChannelPromise.toList.map follower) }

def errorTimer (ch : Nat) : Holder :=
  if ch ∈ h.timers then
    let h' := { h with timers := h.timers.erase ch }
    if h'.status = .stopped then h'
    else if h'.channel = some ch then h'.createFor maxRetry .onError
    else { h' with events := h'.events ++ [Event.reconnected] }
  else h

/-- The channel emits `close`. -/
def channelClose (ch : Nat) : Holder :=
  let h' :=
    { h with
      isOpen := update h.isOpen ch false
      listensClose := update h.listensClose ch false }
  if h.listensClose ch then
    if h'.status = .stopped then h'
    else if h'.channel = some ch then h'.createFor maxRetry .onClose
    else h'
  else h'

def NoneInProgress : Prop := ∀ creation ∈ h.creations, creation.pending = false

instance (h : Holder) : Decidable h.NoneInProgress :=
  inferInstanceAs (Decidable (∀ creation ∈ h.creations, creation.pending = false))

def Idle : Prop := h.NoneInProgress ∧ h.awaiting = []

end Holder

inductive Action where
  | getChannel
  | start
  | stop
  | answer (creation : Nat) (succeeds : Bool)
  | waited (creation : Nat)
  | proceed (creation : Nat)
  | follow (index : Nat)
  | channelError (channel : Nat)
  | channelClose (channel : Nat)
  | errorTimer (channel : Nat)

def next (maxRetry : Nat) (h : Holder) : Action → Holder
  | .getChannel => h.getChannel maxRetry
  | .start => h.start maxRetry
  | .stop => h.stop
  | .answer n succeeds => h.answer maxRetry n succeeds
  | .waited n => h.waited n
  | .proceed n => h.proceed n
  | .follow index => h.follow index
  | .channelError ch => h.channelError ch
  | .channelClose ch => h.channelClose maxRetry ch
  | .errorTimer ch => h.errorTimer maxRetry ch

structure Recovers (maxRetry : Nat) (h : Holder) : Prop where
  /-- `getChannel` starts a new creation where there is no channel. -/
  attempts : h.Idle → h.channel = none →
    (h.getChannel maxRetry).creations[h.creations.length]? = some (.calling 1)
  succeeds : h.Idle → h.channel = none →
    let h' := (h.getChannel maxRetry).answer maxRetry h.creations.length true
    h'.channel = some h.created ∧ h'.isOpen h.created = true
  one : h.NoneInProgress → ∀ ch ch', h.isOpen ch = true → h.isOpen ch' = true → ch = ch'
  stopped : h.status = .stopped → ∀ ch, h.isOpen ch = false

/-- A creation is started only while none is in progress, succeeds only while the holder is
started, and does not fail in its last try. -/
def Permitted (maxRetry : Nat) (h : Holder) : Action → Prop
  | .getChannel => h.createChannelPromise = none → h.NoneInProgress
  | .start => h.createChannelPromise = none → h.NoneInProgress
  | .answer n succeeds => ∀ retry, h.creations[n]? = some (.calling retry) →
      if succeeds then h.status = .started else retry < maxRetry
  | _ => True

structure Inv (h : Holder) : Prop where
  single : ∀ (n n' : Nat) (creation creation' : Creation), h.creations[n]? = some creation →
    h.creations[n']? = some creation' → creation.pending = true → creation'.pending = true → n = n'
  unheld : ∀ creation ∈ h.creations, creation.pending = true → h.channel = none
  held : ∀ ch, h.isOpen ch = true → h.channel = some ch
  stopped : h.status = .stopped → ∀ ch, h.isOpen ch = false
  accepted : Creation.rejected ∉ h.creations
  promised : ∀ n, h.createChannelPromise = some n → n ∈ h.awaiting
  flagged : h.isChannelCreated = h.channel.isSome

namespace Inv

theorem new : Inv ChannelHolder.new where
  single n n' creation creation' there := by cases there
  unheld creation there := (not_mem_nil there).elim
  held ch isOpen := by cases isOpen
  stopped _ _ := rfl
  accepted := not_mem_nil
  promised n eq := by cases eq
  flagged := rfl

variable {h : Holder}

theorem noneInProgress (inv : Inv h) {ch : Nat} (held : h.channel = some ch) :
    h.NoneInProgress := by
  intro creation there
  cases pending : creation.pending with
  | false => rfl
  | true =>
    have none := inv.unheld creation there pending
    rw [held] at none
    cases none

/-- The channels that are open are closed with the current one. -/
theorem closed_stopInner (inv : Inv h) (fromCreateChannel : Bool) (ch : Nat) :
    (h.stopInner fromCreateChannel).isOpen ch = false := by
  rw [Bool.eq_false_iff]
  intro isOpen
  rw [Holder.stopInner] at isOpen
  split at isOpen
  case h_1 none =>
    have held := inv.held ch isOpen
    rw [none] at held
    cases held
  case h_2 current some =>
    by_cases same : ch = current
    · subst same
      simp only [update_self] at isOpen
      cases isOpen
    · simp only [update_of_ne same] at isOpen
      have held := inv.held ch isOpen
      rw [some] at held
      exact same (Option.some.inj held).symm

variable (fromCreateChannel : Bool)

theorem channel_stopInner :
    (h.stopInner fromCreateChannel).channel = none := by
  rw [Holder.stopInner]
  split
  · assumption
  · rfl

theorem creations_stopInner :
    (h.stopInner fromCreateChannel).creations = h.creations := by
  rw [Holder.stopInner]
  split <;> rfl

theorem awaiting_stopInner :
    (h.stopInner fromCreateChannel).awaiting = h.awaiting := by
  rw [Holder.stopInner]
  split <;> rfl

theorem stopInner (inv : Inv h) (fromCreateChannel : Bool) :
    Inv (h.stopInner fromCreateChannel) := by
  have noneOpen := inv.closed_stopInner fromCreateChannel
  have noChannel : (h.stopInner fromCreateChannel).channel = none := channel_stopInner _
  constructor
  · rw [creations_stopInner]
    exact inv.single
  · exact fun _ _ _ => noChannel
  · intro ch isOpen
    rw [noneOpen ch] at isOpen
    cases isOpen
  · exact fun _ => noneOpen
  · rw [creations_stopInner]
    exact inv.accepted
  · intro n promise
    rw [awaiting_stopInner]
    rw [Holder.stopInner] at promise
    split at promise
    · exact inv.promised n promise
    · cases fromCreateChannel with
      | true => exact inv.promised n promise
      | false => cases promise
  · rw [noChannel, Holder.stopInner]
    split
    case h_1 none => rw [inv.flagged, none]
    case h_2 => rfl

theorem started (inv : Inv h) : Inv { h with status := .started } :=
  { inv with stopped := fun stopped => by cases stopped }

theorem stop (inv : Inv h) : Inv h.stop := by
  have eq : h.stop = { h.stopInner false with status := .stopped } := by
    obtain ⟨status, channel, _⟩ := h
    cases channel with
    | none | some ch => rfl
  rw [eq]
  exact { inv.stopInner false with stopped := fun _ => inv.closed_stopInner false }

variable {maxRetry : Nat} {replaced : Creation}

section

variable (inv : Inv h)
include inv

theorem createChannel (positive : 0 < maxRetry)
    (free : h.createChannelPromise = none → h.NoneInProgress) : Inv (h.createChannel maxRetry) := by
  rw [Holder.createChannel]
  cases promise : h.createChannelPromise with
  | some n => exact inv
  | none =>
    have idle := free promise
    have kept := inv.stopInner true
    have noneOpen := inv.closed_stopInner true
    have noChannel : (h.stopInner true).channel = none := channel_stopInner _
    have creations : (h.stopInner true).creations = h.creations := creations_stopInner _
    have old : ∀ n creation, (h.creations ++ [Creation.calling 1])[n]? = some creation →
        creation.pending = true → n = h.creations.length := by
      intro n creation there pending
      rcases Nat.lt_trichotomy n h.creations.length with before | same | after
      · rw [List.getElem?_append_left before] at there
        have settled := idle creation (mem_of_getElem? there)
        rw [pending] at settled
        cases settled
      · exact same
      · rw [List.getElem?_eq_none (by simp; omega)] at there
        cases there
    simp only [Holder.createChannelInner, creations, Nat.pos_iff_ne_zero.mp positive, if_false]
    constructor
    · intro n n' creation creation' there there' pending pending'
      exact (old n creation there pending).trans (old n' creation' there' pending').symm
    · exact fun _ _ _ => noChannel
    · exact kept.held
    · exact fun _ => noneOpen
    · intro there
      rcases mem_append.mp there with there | there
      · exact inv.accepted there
      · cases mem_singleton.mp there
    · intro n eq
      cases eq
      exact mem_append_right _ (mem_singleton_self _)
    · exact kept.flagged

theorem getChannel (positive : 0 < maxRetry)
    (free : h.createChannelPromise = none → h.NoneInProgress) : Inv (h.getChannel maxRetry) := by
  rw [Holder.getChannel]
  dsimp only
  split
  · exact inv.started
  · exact inv.started.createChannel positive free

theorem others {n m : Nat} {old creation : Creation}
    (there : h.creations[n]? = some old) (pending : old.pending = true) (different : m ≠ n)
    (there' : (h.creations.set n replaced)[m]? = some creation) : creation.pending = false := by
  rw [List.getElem?_set_ne different.symm] at there'
  rw [Bool.eq_false_iff]
  exact fun pending' => different (inv.single m n creation old there' there pending' pending)

theorem not_rejected_set (n : Nat) (accepted : replaced ≠ .rejected) :
    Creation.rejected ∉ h.creations.set n replaced := by
  intro there
  rcases mem_or_eq_of_mem_set there with old | eq
  · exact inv.accepted old
  · exact accepted eq.symm

theorem setCreation {n : Nat} {old : Creation} (there : h.creations[n]? = some old)
    (pending : old.pending = true) (pending' : replaced.pending = true) :
    Inv (h.setCreation n replaced) := by
  have noChannel := inv.unheld old (mem_of_getElem? there) pending
  have only : ∀ m creation, (h.creations.set n replaced)[m]? = some creation →
      creation.pending = true → m = n := by
    intro m creation there' goesOn
    by_contra different
    rw [inv.others there pending different there'] at goesOn
    cases goesOn
  refine { inv with single := ?_, unheld := ?_, accepted := ?_ }
  · intro m m' creation creation' there' there'' goesOn goesOn'
    exact (only m creation there' goesOn).trans (only m' creation' there'' goesOn').symm
  · exact fun _ _ _ => noChannel
  · apply inv.not_rejected_set n
    rintro rfl
    cases pending'

theorem onCreated {n : Nat} {old : Creation} (there : h.creations[n]? = some old)
    (pending : old.pending = true) (started : h.status = .started) : Inv (h.onCreated n) := by
  have noChannel := inv.unheld old (mem_of_getElem? there) pending
  have inside : n < h.creations.length := (List.getElem?_eq_some_iff.mp there).1
  have settled : ∀ creation ∈ h.creations.set n (.resolved h.created),
      creation.pending = false := by
    intro creation there'
    obtain ⟨m, there'⟩ := List.getElem?_of_mem there'
    by_cases same : m = n
    · subst same
      rw [List.getElem?_set_self inside] at there'
      cases there'
      rfl
    · exact inv.others there pending same there'
  constructor
  · intro m m' creation creation' there' _ goesOn
    rw [settled creation (mem_of_getElem? there')] at goesOn
    cases goesOn
  · intro creation there' goesOn
    rw [settled creation there'] at goesOn
    cases goesOn
  · intro ch isOpen
    by_cases same : ch = h.created
    · rw [same]
      rfl
    · simp only [Holder.onCreated, update_of_ne same] at isOpen
      have held := inv.held ch isOpen
      rw [noChannel] at held
      cases held
  · intro stopped
    rw [show (h.onCreated n).status = h.status from rfl, started] at stopped
    cases stopped
  · apply inv.not_rejected_set n
    intro eq
    cases eq
  · exact inv.promised
  · rfl

theorem answer {n : Nat} {succeeds : Bool} (permitted : Permitted maxRetry h (.answer n succeeds)) :
    Inv (h.answer maxRetry n succeeds) := by
  rw [Holder.answer]
  split
  case h_2 => exact inv
  case h_1 retry there =>
    cases succeeds with
    | true => exact inv.onCreated there rfl (permitted retry there)
    | false =>
      have more : retry < maxRetry := permitted retry there
      rw [if_neg Bool.false_ne_true, if_neg (Nat.not_le.mpr more)]
      exact inv.setCreation there rfl rfl

theorem waited (n : Nat) : Inv (h.waited n) := by
  rw [Holder.waited]
  split
  case h_1 retry there => exact inv.setCreation there rfl rfl
  case h_2 => exact inv

theorem proceed (n : Nat) : Inv (h.proceed n) := by
  rw [Holder.proceed]
  split
  case isFalse => exact inv
  case isTrue =>
    split
    · exact { inv with promised := fun _ eq => by cases eq }
    case h_2 there => exact absurd (mem_of_getElem? there) inv.accepted
    · exact inv

theorem follow (index : Nat) : Inv (h.follow index) := by
  rw [Holder.follow]
  split
  · split
    · exact { inv with }
    · exact { inv with }
    · exact inv
  · split
    · exact { inv with }
    · exact { inv with }
    · exact inv
  · exact inv

theorem lost (ch : Nat) : Inv { h with isOpen := update h.isOpen ch false } := by
  have kept : ∀ other, update h.isOpen ch false other = true → h.isOpen other = true := by
    intro other isOpen
    by_cases same : other = ch
    · subst same
      rw [update_self] at isOpen
      cases isOpen
    · rw [update_of_ne same] at isOpen
      exact isOpen
  refine { inv with held := ?_, stopped := ?_ }
  · exact fun other isOpen => inv.held other (kept other isOpen)
  · intro stopped other
    rw [Bool.eq_false_iff]
    intro isOpen
    have closed := inv.stopped stopped other
    rw [kept other isOpen] at closed
    cases closed

theorem channelError (ch : Nat) : Inv (h.channelError ch) :=
  { inv.lost ch with }

theorem createFor (positive : 0 < maxRetry) {ch : Nat} (held : h.channel = some ch)
    (follower : Nat → Follower) : Inv (h.createFor maxRetry follower) :=
  { inv.createChannel positive fun _ => inv.noneInProgress held with }

theorem channelClose (positive : 0 < maxRetry) (ch : Nat) : Inv (h.channelClose maxRetry ch) := by
  have lost : Inv { h with
      isOpen := update h.isOpen ch false
      listensClose := update h.listensClose ch false } := { inv.lost ch with }
  rw [Holder.channelClose]
  dsimp only
  split_ifs with _ _ held
  · exact lost
  · exact lost.createFor positive held _
  · exact lost
  · exact lost

theorem errorTimer (positive : 0 < maxRetry) (ch : Nat) : Inv (h.errorTimer maxRetry ch) := by
  have fired : Inv { h with timers := h.timers.erase ch } := { inv with }
  rw [Holder.errorTimer]
  dsimp only
  split_ifs with _ _ held
  · exact fired
  · exact fired.createFor positive held _
  · exact { inv with }
  · exact inv

theorem next (positive : 0 < maxRetry) (action : Action)
    (permitted : Permitted maxRetry h action) : Inv (next maxRetry h action) := by
  cases action with
  | getChannel => exact inv.getChannel positive permitted
  | start => exact inv.started.createChannel positive permitted
  | stop => exact inv.stop
  | answer n succeeds => exact inv.answer permitted
  | waited n => exact inv.waited n
  | proceed n => exact inv.proceed n
  | follow index => exact inv.follow index
  | channelError ch => exact inv.channelError ch
  | channelClose ch => exact inv.channelClose positive ch
  | errorTimer ch => exact inv.errorTimer positive ch

end

end Inv

variable {h : Holder}

theorem getChannel_idle (inv : Inv h) (idle : h.Idle) (none : h.channel = none) {maxRetry : Nat}
    (positive : 0 < maxRetry) :
    (h.getChannel maxRetry).creations = h.creations ++ [Creation.calling 1] ∧
      (h.getChannel maxRetry).created = h.created := by
  have unpromised : h.createChannelPromise = Option.none := by
    cases promise : h.createChannelPromise with
    | none => rfl
    | some n =>
      have waits := inv.promised n promise
      rw [idle.2] at waits
      exact (not_mem_nil waits).elim
  simp only [Holder.getChannel, none, Option.isSome_none, Bool.false_and, Bool.false_eq_true,
    if_false, Holder.createChannel, unpromised, Holder.createChannelInner, Holder.stopInner,
    Nat.pos_iff_ne_zero.mp positive, and_self]

theorem recovers_of_inv (inv : Inv h) {maxRetry : Nat} (positive : 0 < maxRetry) :
    Recovers maxRetry h where
  attempts idle none := by
    rw [(getChannel_idle inv idle none positive).1]
    exact List.getElem?_concat_length
  succeeds idle none := by
    obtain ⟨creations, created⟩ := getChannel_idle inv idle none positive
    have calling : (h.getChannel maxRetry).creations[h.creations.length]? =
        some (.calling 1) := by
      rw [creations]
      exact List.getElem?_concat_length
    dsimp only
    rw [Holder.answer, calling]
    dsimp only
    rw [if_pos rfl, Holder.onCreated, created]
    exact ⟨rfl, update_self ..⟩
  one _ ch ch' isOpen isOpen' := by
    have held := inv.held ch isOpen
    rw [inv.held ch' isOpen'] at held
    exact (Option.some.inj held).symm
  stopped := inv.stopped

/-- In a run of permitted steps the holder recovers, holds the one open channel there is, and
leaves none open when it is stopped. -/
theorem recovers_of_permitted (maxRetry : Nat) (positive : 0 < maxRetry) (actions : List Action)
    (run : Run.Allowed (next maxRetry) (Permitted maxRetry) new actions) :
    ∀ front, front <+: actions → Recovers maxRetry (Run.final (next maxRetry) new front) := by
  intro front before
  obtain ⟨back, rfl⟩ := before
  have runFront := ((Run.allowed_append new front back).mp run).1
  refine recovers_of_inv ?_ positive
  exact Run.invariant (fun h action inv permitted => inv.next positive action permitted)
    new front Inv.new runFront

/-- A channel that is closed is created again, and closed when the holder stops. -/
theorem reopened_recovers : Recovers 5 (Run.final (next 5) new
    [.getChannel, .answer 0 true, .proceed 0, .channelClose 0, .answer 1 true, .proceed 1,
      .stop]) := by
  refine recovers_of_permitted 5 (by decide) _ ?_ _ (List.prefix_refl _)
  refine ⟨fun _ => ?_, fun _ _ => rfl, trivial, trivial, fun _ _ => rfl, trivial, trivial, trivial⟩
  decide

def failedCreation : List Action :=
  [.getChannel, .answer 0 false, .waited 0, .answer 0 false, .waited 0, .answer 0 false, .waited 0,
    .answer 0 false, .waited 0, .answer 0 false, .proceed 0]

/-- After it `getChannel` does not try again. -/
theorem failedCreation_not_recovers : ¬ ∀ actions, Recovers 5 (Run.final (next 5) new actions) := by
  intro recovers
  have attempts := (recovers failedCreation).attempts
  have idle : (Run.final (next 5) new failedCreation).Idle := by
    refine ⟨?_, rfl⟩
    decide
  have started := attempts idle rfl
  exact absurd started (by decide)

end ChannelHolder
end AkashicSystem.AmqpUtils
