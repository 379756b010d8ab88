import AkashicSystem.Lib.ForEach
import AkashicSystem.Lib.Run
import AkashicSystem.PlaylogServer.PlayToken

/-!
# What a client makes of the pushes

Every authentication that succeeds assigns the two incoming push pipes to the
roles of its permission, and listens on them; the listeners of the one before
stay where they are.
-/

set_option autoImplicit false

namespace AkashicSystem.PlaylogClient

open AkashicSystem.Js List
open AkashicSystem.PlaylogServer (Permission)
open ForEach

inductive PushPipe where
  | primary
  | secondary

inductive IncomingPushPipe where
  | incomingPrimary
  | incomingSecondary
deriving DecidableEq

structure AssignedPushPipes where
  sendTick : Option PushPipe
  subscribeTick : Option IncomingPushPipe
  sendEvent : Option PushPipe
  subscribeEvent : Option IncomingPushPipe

def assign (permission : Permission) : AssignedPushPipes where
  sendTick := if permission.writeTick then some .primary else none
  sendEvent :=
    if permission.sendEvent then
      if permission.writeTick then some .secondary else some .primary
    else none
  subscribeTick := if permission.subscribeTick then some .incomingPrimary else none
  subscribeEvent :=
    if permission.subscribeEvent then
      if permission.subscribeTick then some .incomingSecondary else some .incomingPrimary
    else none

/-- What a listener of `push` takes the data for. -/
inductive Role where
  | tick
  | event
deriving DecidableEq

/-- The decoders, which throw where there is no result, and data for each of them. -/
structure Codec (Data Tick Event : Type) where
  decodeTick : Data → Option Tick
  decodeEvent : Data → Option Event
  tickData : Data
  decodesTick : (decodeTick tickData).isSome
  eventData : Data
  decodesEvent : (decodeEvent eventData).isSome

inductive Call (Tick Event : Type) where
  | tick (handler : Nat) (tick : Tick)
  | event (handler : Nat) (event : Event)

namespace Call

variable {Tick Event : Type}

def isTick : Call Tick Event → Bool
  | .tick _ _ => true
  | .event _ _ => false

def isEvent : Call Tick Event → Bool
  | .tick _ _ => false
  | .event _ _ => true

end Call

structure Client (Tick Event : Type) where
  permission : Permission
  assigned : Option AssignedPushPipes
  listeners : IncomingPushPipe → List Role
  tickHandlers : List Nat
  eventHandlers : List Nat
  eventBuffer : List Event
  calls : List (Call Tick Event)

inductive Registration where
  | onTick (handler : Nat)
  | offTick (handler : Nat)
  | onEvent (handler : Nat)
  | offEvent (handler : Nat)

inductive Action (Data : Type) where
  | authenticated (permission : Permission)
  | refused
  | registration (registration : Registration)
  | pushed (pipe : IncomingPushPipe) (data : Data)

namespace Client

variable {Data Tick Event : Type}

def initPermission : Permission := ⟨false, false, false, false, false, .finite (-1)⟩

def new : Client Tick Event := ⟨initPermission, none, fun _ => [], [], [], [], []⟩

variable (c : Client Tick Event)

def listen (pipe : Option IncomingPushPipe) (role : Role) :
    Client Tick Event :=
  match pipe with
  | none => c
  | some pipe => { c with
      listeners := Function.update c.listeners pipe (c.listeners pipe ++ [role]) }

def handleIncomingPipes (assigned : AssignedPushPipes) :
    Client Tick Event :=
  (c.listen assigned.subscribeEvent .event).listen assigned.subscribeTick .tick

/-- The callback of the request of `authenticate`. -/
def onAuthenticated (permission : Permission) : Client Tick Event :=
  { c with permission := permission, assigned := some (assign permission) }.handleIncomingPipes
    (assign permission)

variable (handler : Nat)

def onTick : Client Tick Event :=
  { c with tickHandlers := c.tickHandlers ++ [handler] }

def offTick : Client Tick Event :=
  { c with tickHandlers := c.tickHandlers.filter fun h => h ≠ handler }

def onEvent : Client Tick Event :=
  { c with
    eventHandlers := c.eventHandlers ++ [handler]
    eventBuffer := []
    calls := c.calls ++ c.eventBuffer.map fun event => .event handler event }

def offEvent : Client Tick Event :=
  { c with eventHandlers := c.eventHandlers.filter fun h => h ≠ handler }

def register : Registration → Client Tick Event
  | .onTick handler => c.onTick handler
  | .offTick handler => c.offTick handler
  | .onEvent handler => c.onEvent handler
  | .offEvent handler => c.offEvent handler

def tickArrived (tick : Tick) : Client Tick Event :=
  { c with calls := c.calls ++ c.tickHandlers.map fun handler => .tick handler tick }

def eventArrived (event : Event) : Client Tick Event :=
  if c.eventHandlers.isEmpty then { c with eventBuffer := c.eventBuffer ++ [event] }
  else { c with calls := c.calls ++ c.eventHandlers.map fun handler => .event handler event }

variable (codec : Codec Data Tick Event)

/-- A listener of `push`; it throws where the data is not decoded. -/
def receive (data : Data) (c : Client Tick Event) : Role → Client Tick Event × Bool
  | .tick =>
    match codec.decodeTick data with
    | none => (c, false)
    | some tick => (c.tickArrived tick, true)
  | .event =>
    match codec.decodeEvent data with
    | none => (c, false)
    | some event => (c.eventArrived event, true)

variable (c : Client Tick Event)

def push (pipe : IncomingPushPipe) (data : Data) :
    Client Tick Event × Bool :=
  forEach (receive codec data) c (c.listeners pipe)

def step : Action Data → Client Tick Event
  | .authenticated permission => c.onAuthenticated permission
  | .refused => c
  | .registration registration => c.register registration
  | .pushed pipe data => (c.push codec pipe data).1

/-- A tick that is pushed on the pipe of the ticks is handed once to each tick handler, and
an event on the pipe of the events once to each event handler, or buffered where there is none;
nothing else is done, and nothing throws.  No event is buffered while there is a handler. -/
structure Delivers (c : Client Tick Event) : Prop where
  buffered : c.eventHandlers ≠ [] → c.eventBuffer = []
  tick : ∀ pipe, (assign c.permission).subscribeTick = some pipe → ∀ data tick,
    codec.decodeTick data = some tick → c.push codec pipe data =
      ({ c with calls := c.calls ++ c.tickHandlers.map fun handler => .tick handler tick }, true)
  event : ∀ pipe, (assign c.permission).subscribeEvent = some pipe → ∀ data event,
    codec.decodeEvent data = some event → c.push codec pipe data =
      (if c.eventHandlers = [] then { c with eventBuffer := c.eventBuffer ++ [event] }
        else { c with
          calls := c.calls ++ c.eventHandlers.map fun handler => .event handler event }, true)

/-- The pipes that an authentication assigns have no listener. -/
def Permitted : Action Data → Prop
  | .authenticated permission =>
    (∀ pipe, (assign permission).subscribeTick = some pipe → c.listeners pipe = []) ∧
      ∀ pipe, (assign permission).subscribeEvent = some pipe → c.listeners pipe = []
  | _ => True

/-- The pipes of the current permission have one listener each, of their role. -/
def Tuned : Prop :=
  (∀ pipe, (assign c.permission).subscribeTick = some pipe → c.listeners pipe = [.tick]) ∧
    ∀ pipe, (assign c.permission).subscribeEvent = some pipe → c.listeners pipe = [.event]

def ticks : Nat := c.calls.countP Call.isTick

def events : Nat := c.eventBuffer.length + c.calls.countP Call.isEvent

def eventWeight : Nat :=
  if c.eventHandlers.isEmpty then 1 else c.eventHandlers.length

theorem eventWeight_pos : 0 < c.eventWeight := by
  unfold eventWeight
  split
  · exact Nat.one_pos
  · next handlers =>
    apply length_pos_iff.mpr
    rintro none
    rw [none] at handlers
    exact handlers rfl

structure SameHandlers (c c' : Client Tick Event) : Prop where
  permission : c'.permission = c.permission
  assigned : c'.assigned = c.assigned
  listeners : c'.listeners = c.listeners
  tickHandlers : c'.tickHandlers = c.tickHandlers
  eventHandlers : c'.eventHandlers = c.eventHandlers

theorem SameHandlers.refl : c.SameHandlers c := ⟨rfl, rfl, rfl, rfl, rfl⟩

theorem sameHandlers_eventArrived (event : Event) :
    c.SameHandlers (c.eventArrived event) := by
  unfold eventArrived
  split <;> exact ⟨rfl, rfl, rfl, rfl, rfl⟩

theorem sameHandlers_receive (data : Data) (c : Client Tick Event) (role : Role) :
    c.SameHandlers (receive codec data c role).1 := by
  cases role with
  | tick =>
    unfold receive
    cases codec.decodeTick data with
    | none => exact .refl c
    | some tick => exact ⟨rfl, rfl, rfl, rfl, rfl⟩
  | event =>
    unfold receive
    cases codec.decodeEvent data with
    | none => exact .refl c
    | some event => exact c.sameHandlers_eventArrived event

theorem sameHandlers_push (pipe : IncomingPushPipe) (data : Data) :
    c.SameHandlers (c.push codec pipe data).1 := by
  have kept (c' : Client Tick Event) (role : Role) (same : c.SameHandlers c') :
      c.SameHandlers (receive codec data c' role).1 := by
    have received := sameHandlers_receive codec data c' role
    exact ⟨received.permission.trans same.permission, received.assigned.trans same.assigned,
      received.listeners.trans same.listeners, received.tickHandlers.trans same.tickHandlers,
      received.eventHandlers.trans same.eventHandlers⟩
  exact forEach_keeps kept c (c.listeners pipe) (.refl c)

section Counts

variable (p : Call Tick Event → Bool) (handlers : List Nat) (call : Nat → Call Tick Event)

theorem countP_calls (counted : ∀ handler, p (call handler) = true) :
    (handlers.map call).countP p = handlers.length := by
  rw [countP_map, countP_eq_length]
  exact fun handler _ => counted handler

theorem countP_others (others : ∀ handler, p (call handler) = false) :
    (handlers.map call).countP p = 0 := by
  rw [countP_map, countP_eq_zero]
  exact fun handler _ counted => Bool.false_ne_true ((others handler).symm.trans counted)

end Counts

theorem ticks_tickArrived (tick : Tick) :
    (c.tickArrived tick).ticks = c.ticks + c.tickHandlers.length ∧
      (c.tickArrived tick).events = c.events := by
  constructor
  · show (c.calls ++ c.tickHandlers.map _).countP Call.isTick = c.calls.countP Call.isTick + _
    rw [countP_append, countP_calls _ _ _ fun _ => rfl]
  · show c.eventBuffer.length + (c.calls ++ c.tickHandlers.map _).countP Call.isEvent =
      c.eventBuffer.length + c.calls.countP Call.isEvent
    rw [countP_append, countP_others _ _ _ fun _ => rfl, Nat.add_zero]

theorem events_eventArrived (event : Event) :
    (c.eventArrived event).events = c.events + c.eventWeight ∧
      (c.eventArrived event).ticks = c.ticks := by
  unfold eventArrived eventWeight
  split
  · refine ⟨?_, rfl⟩
    show (c.eventBuffer ++ [event]).length + c.calls.countP Call.isEvent =
      c.eventBuffer.length + c.calls.countP Call.isEvent + 1
    rw [length_append, length_singleton]
    omega
  · constructor
    · show c.eventBuffer.length + (c.calls ++ c.eventHandlers.map _).countP Call.isEvent =
        c.eventBuffer.length + c.calls.countP Call.isEvent + c.eventHandlers.length
      rw [countP_append, countP_calls _ _ _ fun _ => rfl]
      omega
    · show (c.calls ++ c.eventHandlers.map _).countP Call.isTick = c.calls.countP Call.isTick
      rw [countP_append, countP_others _ _ _ fun _ => rfl, Nat.add_zero]

/-- A pipe whose listeners do not throw delivers to the tick handlers once for each listener of
ticks, and counts an event once for each listener of events. -/
theorem forEach_receive (data : Data) (c : Client Tick Event) (roles : List Role)
    (returns : (forEach (receive codec data) c roles).2 = true) :
    (forEach (receive codec data) c roles).1.ticks =
        c.ticks + roles.count .tick * c.tickHandlers.length ∧
      (forEach (receive codec data) c roles).1.events =
        c.events + roles.count .event * c.eventWeight := by
  induction roles generalizing c with
  | nil =>
    rw [forEach_nil, count_nil, count_nil, Nat.zero_mul, Nat.zero_mul]
    exact ⟨rfl, rfl⟩
  | cons role rest ih =>
    have same := sameHandlers_receive codec data c role
    have first : (receive codec data c role).2 = true := by
      rw [← Bool.not_eq_false]
      intro throws
      rw [forEach_cons_of_throws c role rest throws, throws] at returns
      cases returns
    rw [forEach_cons_of_returns c role rest first] at returns ⊢
    obtain ⟨ticks, events⟩ := ih _ returns
    rw [ticks, events, same.tickHandlers]
    have weight : (receive codec data c role).1.eventWeight = c.eventWeight := by
      unfold eventWeight
      rw [same.eventHandlers]
    rw [weight]
    cases role with
    | tick =>
      cases decoded : codec.decodeTick data with
      | none => simp [receive, decoded] at first
      | some tick =>
        obtain ⟨more, kept⟩ := c.ticks_tickArrived tick
        have eq : (receive codec data c .tick).1 = c.tickArrived tick := by
          simp [receive, decoded]
        rw [eq, more, kept, count_cons_self, count_cons_of_ne (by decide),
          Nat.add_mul, Nat.one_mul]
        exact ⟨by omega, rfl⟩
    | event =>
      cases decoded : codec.decodeEvent data with
      | none => simp [receive, decoded] at first
      | some event =>
        obtain ⟨more, kept⟩ := c.events_eventArrived event
        have eq : (receive codec data c .event).1 = c.eventArrived event := by
          simp [receive, decoded]
        rw [eq, more, kept, count_cons_self, count_cons_of_ne (by decide),
          Nat.add_mul, Nat.one_mul]
        exact ⟨rfl, by omega⟩

theorem roles_eq_singleton (roles : List Role) (role other : Role) (differs : role ≠ other)
    (all : ∀ r, r = role ∨ r = other) (once : roles.count role = 1) (none : roles.count other = 0) :
    roles = [role] := by
  have only : ∀ r ∈ roles, r = role := by
    intro r there
    rcases all r with eq | rfl
    · exact eq
    · exact absurd there (count_eq_zero.mp none)
  have replicate := eq_replicate_of_mem only
  rw [replicate, count_replicate_self] at once
  rw [replicate, once]
  rfl

variable {codec}

theorem delivers_of_tuned (c : Client Tick Event)
    (buffered : c.eventHandlers ≠ [] → c.eventBuffer = []) (tuned : c.Tuned) :
    c.Delivers codec := by
  refine ⟨buffered, fun pipe assigned data tick decoded => ?_,
    fun pipe assigned data event decoded => ?_⟩
  · have received : receive codec data c .tick = (c.tickArrived tick, true) := by
      simp [receive, decoded]
    rw [push, tuned.1 pipe assigned, forEach_cons_of_returns c _ [] (by rw [received]), received,
      forEach_nil]
    rfl
  · have received : receive codec data c .event = (c.eventArrived event, true) := by
      simp [receive, decoded]
    rw [push, tuned.2 pipe assigned, forEach_cons_of_returns c _ [] (by rw [received]), received,
      forEach_nil]
    simp only [eventArrived, List.isEmpty_iff]

theorem tuned_of_delivers (c : Client Tick Event) (handlers : 0 < c.tickHandlers.length)
    (delivers : c.Delivers codec) : c.Tuned := by
  constructor
  · intro pipe assigned
    obtain ⟨tick, decoded⟩ := Option.isSome_iff_exists.mp codec.decodesTick
    have pushed := delivers.tick pipe assigned codec.tickData tick decoded
    have counts := forEach_receive codec codec.tickData c (c.listeners pipe)
      (congrArg Prod.snd pushed)
    have expected := c.ticks_tickArrived tick
    have final : (forEach (receive codec codec.tickData) c (c.listeners pipe)).1 =
        c.tickArrived tick := congrArg Prod.fst pushed
    rw [final, expected.1, expected.2] at counts
    have weight := c.eventWeight_pos
    apply roles_eq_singleton (c.listeners pipe) .tick .event (by decide)
    · intro r
      cases r with
      | tick => exact .inl rfl
      | event => exact .inr rfl
    · have same : 1 * c.tickHandlers.length =
          (c.listeners pipe).count .tick * c.tickHandlers.length := by omega
      exact (Nat.eq_of_mul_eq_mul_right handlers same).symm
    · have zero : (c.listeners pipe).count .event * c.eventWeight = 0 := by omega
      exact (Nat.mul_eq_zero.mp zero).resolve_right (by omega)
  · intro pipe assigned
    obtain ⟨event, decoded⟩ := Option.isSome_iff_exists.mp codec.decodesEvent
    have pushed := delivers.event pipe assigned codec.eventData event decoded
    have counts := forEach_receive codec codec.eventData c (c.listeners pipe)
      (congrArg Prod.snd pushed)
    have expected := c.events_eventArrived event
    have final : (forEach (receive codec codec.eventData) c (c.listeners pipe)).1 =
        c.eventArrived event := by
      refine (congrArg Prod.fst pushed).trans ?_
      simp only [eventArrived, List.isEmpty_iff]
    rw [final, expected.1, expected.2] at counts
    have weight := c.eventWeight_pos
    apply roles_eq_singleton (c.listeners pipe) .event .tick (by decide)
    · intro r
      cases r with
      | tick => exact .inr rfl
      | event => exact .inl rfl
    · have same : 1 * c.eventWeight = (c.listeners pipe).count .event * c.eventWeight := by omega
      exact (Nat.eq_of_mul_eq_mul_right weight same).symm
    · have zero : (c.listeners pipe).count .tick * c.tickHandlers.length = 0 := by omega
      exact (Nat.mul_eq_zero.mp zero).resolve_right (by omega)

theorem assign_apart (permission : Permission) (pipe pipe' : IncomingPushPipe)
    (ticks : (assign permission).subscribeTick = some pipe)
    (events : (assign permission).subscribeEvent = some pipe') : pipe ≠ pipe' := by
  unfold assign at ticks events
  by_cases subscribes : permission.subscribeTick = true
  · simp only [subscribes, if_true, Option.some.injEq] at ticks events
    split at events
    · rw [← ticks, ← Option.some.inj events]
      decide
    · cases events
  · simp [subscribes] at ticks

theorem listeners_listen (c : Client Tick Event) (pipe : Option IncomingPushPipe) (role : Role)
    (other : IncomingPushPipe) : (c.listen pipe role).listeners other =
      if pipe = some other then c.listeners other ++ [role] else c.listeners other := by
  cases pipe with
  | none => rfl
  | some pipe =>
    show Function.update c.listeners pipe (c.listeners pipe ++ [role]) other = _
    by_cases same : pipe = other
    · subst same
      rw [Function.update_self, if_pos rfl]
    · rw [Function.update_of_ne (Ne.symm same), if_neg fun eq => same (Option.some.inj eq)]

theorem permission_listen (c : Client Tick Event) (pipe : Option IncomingPushPipe) (role : Role) :
    (c.listen pipe role).permission = c.permission := by
  cases pipe with
  | none | some pipe => rfl

theorem tuned_onAuthenticated (c : Client Tick Event) (permission : Permission) :
    (c.onAuthenticated permission).Tuned ↔
      c.Permitted (.authenticated permission : Action Data) := by
  have current : (c.onAuthenticated permission).permission = permission := by
    unfold onAuthenticated handleIncomingPipes
    rw [permission_listen, permission_listen]
  have listeners (pipe : IncomingPushPipe) : (c.onAuthenticated permission).listeners pipe =
      if (assign permission).subscribeTick = some pipe then c.listeners pipe ++ [Role.tick]
      else if (assign permission).subscribeEvent = some pipe then c.listeners pipe ++ [Role.event]
      else c.listeners pipe := by
    unfold onAuthenticated handleIncomingPipes
    rw [listeners_listen, listeners_listen]
    by_cases ticks : (assign permission).subscribeTick = some pipe
    · have apart : (assign permission).subscribeEvent ≠ some pipe := by
        intro events
        exact assign_apart permission pipe pipe ticks events rfl
      rw [if_pos ticks, if_pos ticks, if_neg apart]
    · rw [if_neg ticks, if_neg ticks]
  unfold Tuned Permitted
  rw [current]
  refine and_congr (forall_congr' fun pipe => ?_) (forall_congr' fun pipe => ?_)
  · refine forall_congr' fun ticks => ?_
    rw [listeners, if_pos ticks]
    constructor
    · intro one
      exact append_left_eq_self.mp one
    · intro none
      rw [none]
      rfl
  · refine forall_congr' fun events => ?_
    have apart : (assign permission).subscribeTick ≠ some pipe := by
      intro ticks
      exact assign_apart permission pipe pipe ticks events rfl
    rw [listeners, if_neg apart, if_pos events]
    constructor
    · intro one
      exact append_left_eq_self.mp one
    · intro none
      rw [none]
      rfl

theorem tuned_congr {c c' : Client Tick Event} (permission : c'.permission = c.permission)
    (listeners : c'.listeners = c.listeners) : c'.Tuned ↔ c.Tuned := by
  unfold Tuned
  rw [permission, listeners]

theorem frame_register (c : Client Tick Event) (registration : Registration) :
    (c.register registration).permission = c.permission ∧
      (c.register registration).listeners = c.listeners := by
  cases registration with
  | onTick handler | offTick handler | onEvent handler | offEvent handler => exact ⟨rfl, rfl⟩

theorem tuned_foldl (registrations : List Registration) (c : Client Tick Event) :
    (registrations.foldl register c).Tuned ↔ c.Tuned := by
  induction registrations generalizing c with
  | nil => exact Iff.rfl
  | cons registration rest ih =>
    obtain ⟨permission, listeners⟩ := c.frame_register registration
    rw [foldl_cons, ih, tuned_congr permission listeners]

section Buffered

theorem buffered_register (c : Client Tick Event) (registration : Registration)
    (buffered : c.eventHandlers ≠ [] → c.eventBuffer = []) :
    (c.register registration).eventHandlers ≠ [] → (c.register registration).eventBuffer = [] := by
  cases registration with
  | onTick handler | offTick handler => exact buffered
  | onEvent handler => exact fun _ => rfl
  | offEvent handler =>
    intro left
    apply buffered
    intro none
    apply left
    show c.eventHandlers.filter _ = []
    rw [none]
    rfl

theorem buffered_foldl (registrations : List Registration) (c : Client Tick Event)
    (buffered : c.eventHandlers ≠ [] → c.eventBuffer = []) :
    (registrations.foldl register c).eventHandlers ≠ [] →
      (registrations.foldl register c).eventBuffer = [] := by
  induction registrations generalizing c with
  | nil => exact buffered
  | cons registration rest ih => exact ih _ (c.buffered_register registration buffered)

theorem buffered_receive (data : Data) (c : Client Tick Event) (role : Role)
    (buffered : c.eventHandlers ≠ [] → c.eventBuffer = []) :
    (receive codec data c role).1.eventHandlers ≠ [] →
      (receive codec data c role).1.eventBuffer = [] := by
  cases role with
  | tick =>
    unfold receive
    cases codec.decodeTick data with
    | none | some tick => exact buffered
  | event =>
    unfold receive
    cases codec.decodeEvent data with
    | none => exact buffered
    | some event =>
      show (c.eventArrived event).eventHandlers ≠ [] → (c.eventArrived event).eventBuffer = []
      unfold eventArrived
      split
      · next none =>
        intro some
        exact absurd (List.isEmpty_iff.mp none) some
      · exact buffered

theorem buffered_step (c : Client Tick Event) (action : Action Data)
    (buffered : c.eventHandlers ≠ [] → c.eventBuffer = []) :
    (c.step codec action).eventHandlers ≠ [] → (c.step codec action).eventBuffer = [] := by
  have listened (c : Client Tick Event) (pipe : Option IncomingPushPipe) (role : Role) :
      (c.listen pipe role).eventHandlers = c.eventHandlers ∧
        (c.listen pipe role).eventBuffer = c.eventBuffer := by
    cases pipe with
    | none | some pipe => exact ⟨rfl, rfl⟩
  cases action with
  | authenticated permission =>
    show (listen (listen _ _ _) _ _).eventHandlers ≠ [] →
      (listen (listen _ _ _) _ _).eventBuffer = []
    rw [(listened _ _ _).1, (listened _ _ _).2, (listened _ _ _).1, (listened _ _ _).2]
    exact buffered
  | refused => exact buffered
  | registration registration => exact c.buffered_register registration buffered
  | pushed pipe data =>
    exact forEach_keeps (fun c role kept => c.buffered_receive data role kept) c
      (c.listeners pipe) buffered

end Buffered

/-- Deliveries are right with whatever handlers exactly if the pipes are tuned. -/
theorem delivers_iff_tuned (c : Client Tick Event)
    (buffered : c.eventHandlers ≠ [] → c.eventBuffer = []) :
    (∀ registrations : List Registration, (registrations.foldl register c).Delivers codec) ↔
      c.Tuned := by
  constructor
  · intro delivers
    have handlers : 0 < (c.onTick 0).tickHandlers.length := by
      show 0 < (c.tickHandlers ++ [0]).length
      rw [length_append, length_singleton]
      omega
    exact (c.onTick 0).tuned_of_delivers handlers (delivers [.onTick 0])
  · intro tuned registrations
    exact delivers_of_tuned _ (buffered_foldl registrations c buffered)
      ((tuned_foldl registrations c).mpr tuned)

theorem tuned_step (c : Client Tick Event) (action : Action Data) (tuned : c.Tuned) :
    (c.step codec action).Tuned ↔ c.Permitted action := by
  cases action with
  | authenticated permission => exact c.tuned_onAuthenticated permission
  | refused => exact iff_of_true tuned trivial
  | registration registration =>
    obtain ⟨permission, listeners⟩ := c.frame_register registration
    exact iff_of_true ((tuned_congr permission listeners).mpr tuned) trivial
  | pushed pipe data =>
    have same := c.sameHandlers_push codec pipe data
    exact iff_of_true ((tuned_congr same.permission same.listeners).mpr tuned) trivial

theorem tuned_new : (new : Client Tick Event).Tuned := by
  refine ⟨fun pipe assigned => ?_, fun pipe assigned => ?_⟩
  · cases assigned
  · cases assigned

def sampleCodec : Codec (Nat ⊕ Bool) Nat Bool where
  decodeTick data := data.getLeft?
  decodeEvent data := data.getRight?
  tickData := .inl 0
  decodesTick := rfl
  eventData := .inr true
  decodesEvent := rfl

def twice : List (Action (Nat ⊕ Bool)) :=
  [.authenticated { initPermission with subscribeTick := true },
    .authenticated { initPermission with subscribeTick := true }, .registration (.onTick 7)]

end Client
end AkashicSystem.PlaylogClient
