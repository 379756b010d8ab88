import AkashicSystem.Playlog.TickUpdates
import AkashicSystem.PlaylogServer.TickListLengths
import Mathlib.Logic.Function.Basic

/-!
# Corrections of ticks

The system API server replaces a stored tick (`updateTick`) and then has every
playlog server purge the play's tick cache (`deleteCache`).  A server answers a
list of ticks from the cache that `TickCacheManager` has of the play, or, for a
game whose ignorable events are excluded, from the store.  Caches are known by
the order in which the server made them: a holder keeps the one it was given,
and a reply of the store goes to the one that asked, destroyed or not.
-/

set_option autoImplicit false

namespace AkashicSystem.PlaylogServer

open AkashicSystem.Js AkashicSystem.Playlog
open List (mem_append mem_of_getElem? mem_singleton not_mem_nil prefix_append prefix_rfl)

variable {T S σ : Type}

structure Correction (f : Formats T S Buffer σ) where
  tick : T
  frame : Nat
  isFrame : f.tick.frame tick = frame

namespace Correction

variable {f : Formats T S Buffer σ}

def replacement (c : Correction f) : Buffer := f.tick.encode c.tick

end Correction

/-- A cache of the play, and whether it was made after the purge. -/
structure MadeCache where
  cache : TickCache
  afterPurge : Bool

/-- What a request to the store was answered, on its way to the cache that asked. -/
structure StoreReply where
  cache : Nat
  request : Nat
  ticks : List Buffer

/-- Where a `getRawTickList` is. -/
inductive TickListStage where
  | gameCode
  /-- It waits for the store, and then for what the store has read. -/
  | store
  | read (ticks : List Buffer)
  | cached (cache get : Nat)
  /-- The callback was called, without a list if with an error. -/
  | answered (tickList : Option SparseArray)
deriving DecidableEq

structure TickListRequest where
  start : Nat
  stop : Int
  ignorable : Bool
  afterPurge : Bool
  stage : TickListStage
deriving DecidableEq

structure TickServer where
  caches : List MadeCache
  /-- `caches[playId]` of the manager. -/
  current : Option Nat
  replies : List StoreReply
  requests : List TickListRequest
  purged : Bool

namespace TickServer

def new : TickServer := ⟨[], none, [], [], false⟩

def getCache (s : TickServer) : TickServer × Nat :=
  match s.current with
  | some number => (s, number)
  | none =>
    ({ s with
        caches := s.caches ++ [⟨.new, s.purged⟩]
        current := some s.caches.length }, s.caches.length)

variable (decodeTick : Buffer → Option Nat)

variable (s : TickServer)

variable (number : Nat)

def act
    (action : TickCache.Action) : TickServer :=
  { s with
    caches := s.caches.modify number fun made =>
      { made with cache := made.cache.step decodeTick action } }

def purge : TickServer :=
  match s.current with
  | none => s
  | some number => { s.act decodeTick number .destroy with current := none }

def setStage (stage : TickListStage) : TickServer :=
  { s with requests := s.requests.modify number fun request => { request with stage := stage } }

def getsOf : Nat :=
  (s.caches[number]?.map fun made => made.cache.gets.length).getD 0

def outcome (number get : Nat) : Option Outcome :=
  s.caches[number]?.bind fun made =>
    (made.cache.settled.find? fun entry => entry.1 = get).map Prod.snd

inductive Action where
  /-- `getRawTickList` of an AMFlow, and whether `errGetTickList` lets it. -/
  | getRawTickList (start : Nat) (stop : Int) (ignorable permitted : Bool)
  /-- The game code arrives; `excluded` is what `_isExcludedIgnorableGameCode` says of it. -/
  | gameCode (request : Nat) (excluded : Bool)
  | readTicks (request : Nat)
  | fails (request : Nat)
  /-- The promise of the list is settled, and what `errGetTickList` says then. -/
  | settles (request : Nat) (permitted : Bool)
  /-- An `AMQPHolder` is made. -/
  | prepare
  | tick (cache : Nat) (rawTick : Buffer)
  | complement (cache request : Nat)
  | complete (reply : Nat)
  | complementFails (cache request : Nat) (err : String)
  | unref
  | purge
deriving DecidableEq

def _getRawTickList (store : ActiveStore Buffer σ) (start : Nat) (stop : Int) : List Buffer :=
  store.getTicksRaw (ActiveStore.rangeQuery start stop false)

/-- What follows the game code: `getRawTickList` and `getRawTickListExcludedIgnorable` of
the request handler. -/
def listTicks
    (request : TickListRequest) (excluded : Bool) : TickServer :=
  if request.stop - request.start ≤ 0 then s.setStage number (.read [])
  else if excluded then s.setStage number .store
  else
    let (s, cache) := s.getCache
    (s.act decodeTick cache (.get request.start request.stop)).setStage number
      (.cached cache (s.getsOf cache))

def settle (permitted : Bool) : TickListStage → TickServer
  | .read ticks =>
    s.setStage number (.answered (if permitted then some (ticks.map some) else none))
  | .cached cache get =>
    match s.outcome cache get with
    | some (.resolved ticks) =>
      s.setStage number (.answered (if permitted then some ticks else none))
    | some (.rejected _) => s.setStage number (.answered none)
    | none => s
  | _ => s

def step (store : ActiveStore Buffer σ) (s : TickServer) :
    Action → TickServer
  | .getRawTickList start stop ignorable permitted =>
    { s with requests := s.requests ++ [⟨start, stop, ignorable, s.purged,
        if permitted then .gameCode else .answered none⟩] }
  | .gameCode number excluded =>
    match s.requests[number]? with
    | some request =>
      if request.stage = .gameCode then s.listTicks decodeTick number request excluded else s
    | none => s
  | .readTicks number =>
    match s.requests[number]? with
    | some request =>
      if request.stage = .store then
        s.setStage number (.read (store.getTicksRaw
          (ActiveStore.rangeQuery request.start request.stop request.ignorable)))
      else s
    | none => s
  | .fails number =>
    match s.requests[number]? with
    | some request =>
      if request.stage = .gameCode ∨ request.stage = .store then
        s.setStage number (.answered none)
      else s
    | none => s
  | .settles number permitted =>
    match s.requests[number]? with
    | some request => s.settle number permitted request.stage
    | none => s
  | .prepare => s.getCache.1
  | .tick cache rawTick => s.act decodeTick cache (.add rawTick)
  | .complement cache request =>
    match s.caches[cache]?.bind fun made => made.cache.requests[request]? with
    | some (start, stop) =>
      { s with replies := s.replies ++ [⟨cache, request, _getRawTickList store start stop⟩] }
    | none => s
  | .complete reply =>
    match s.replies[reply]? with
    | some answer =>
      { s with replies := s.replies.eraseIdx reply }.act decodeTick answer.cache
        (.complete answer.request answer.ticks)
    | none => s
  | .complementFails cache request err => s.act decodeTick cache (.fail request err)
  | .unref => s.purge decodeTick
  | .purge => { s.purge decodeTick with purged := true }

end TickServer

/-- How far `put` of the tick controller is. -/
inductive Putting where
  | idle
  | updateTick (updating : ActiveStore.Updating)
  | deleteCache
  | published
  | failed
deriving DecidableEq

structure CorrectedPlay (σ : Type) where
  store : ActiveStore Buffer σ
  putting : Putting
  servers : Nat → TickServer

namespace CorrectedPlay

def start : CorrectedPlay σ := ⟨.empty, .idle, fun _ => .new⟩

inductive Action (T : Type) where
  | putTick (tick : T) (ignorable : Bool)
  /-- The tick is put, and whether the play has an archive. -/
  | put (hasArchive : Bool)
  /-- The next call of `put` succeeds. -/
  | succeeds
  | fails
  | server (number : Nat) (action : TickServer.Action)

variable {f : Formats T S Buffer σ}

def advance (c : Correction f) (s : CorrectedPlay σ) : CorrectedPlay σ :=
  match s.putting with
  | .updateTick updating =>
    let (store, updating) := s.store.updateTick f c.tick updating
    { s with
      store := store
      putting := if updating = .done then .deleteCache else .updateTick updating }
  | .deleteCache => { s with putting := .published }
  | _ => s

def step (decodeTick : Buffer → Option Nat) (c : Correction f) (s : CorrectedPlay σ) :
    Action T → CorrectedPlay σ
  | .putTick tick ignorable => { s with store := (s.store.putTick f tick ignorable).getD s.store }
  | .put hasArchive =>
    if s.putting = .idle then
      { s with putting := if hasArchive then .failed else .updateTick .findOneAndUpdate }
    else s
  | .succeeds => s.advance c
  | .fails =>
    match s.putting with
    | .updateTick _ | .deleteCache => { s with putting := .failed }
    | _ => s
  | .server number action =>
    -- no server processes what was not published
    if action = .purge ∧ s.putting ≠ .published then s
    else
      { s with
        servers := Function.update s.servers number
          ((s.servers number).step decodeTick s.store action) }

end CorrectedPlay

namespace TickCache

def Ranged (c : TickCache) : Prop :=
  ∀ comp ∈ c.complementings, c.requests[comp.request]? = some (comp.start, comp.stop)

theorem ranged_new : Ranged new := fun _ there => (not_mem_nil there).elim

theorem ranged_startComplement {c : TickCache} (ranged : Ranged c) (start stop : Nat)
    (waitings : List Waiting) : Ranged (c.startComplement start stop waitings) := by
  intro comp there
  rcases mem_append.mp there with before | last
  · have known := ranged comp before
    exact (List.getElem?_append_left (List.getElem?_eq_some_iff.mp known).1).trans known
  · rw [mem_singleton.mp last]
    exact List.getElem?_concat_length

theorem ranged_removeComplementing {c : TickCache} (ranged : Ranged c) (request : Nat) :
    Ranged (c.removeComplementing request) :=
  fun comp there => ranged comp (List.mem_of_mem_filter there)

section

variable (decodeTick : Buffer → Option Nat)
include decodeTick

theorem ranged_step (c : TickCache) (action : Action)
    (ranged : Ranged c) : Ranged (c.step decodeTick action) := by
  cases action with
  | add rawTick =>
    rw [step, add]
    split
    · exact ranged
    · split
      · exact ranged
      · dsimp only
        split
        · exact ranged_startComplement ranged _ _ _
        · exact ranged
  | get start stop =>
    rw [step, get]
    dsimp only
    split
    · exact ranged
    · split
      · exact ranged
      · split
        · exact ranged
        · split
          · intro comp joined
            obtain ⟨before, there, rfl⟩ := List.mem_map.mp joined
            have known := ranged before there
            split <;> exact known
          · apply ranged_startComplement
            exact ranged
  | complete request reply =>
    rw [step, complete]
    split
    · exact ranged
    · exact ranged_removeComplementing ranged request
  | fail request err =>
    rw [step, fail]
    split
    · exact ranged
    · exact ranged_removeComplementing ranged request
  | destroy => exact fun comp there => (not_mem_nil there).elim

theorem prefix_step (c : TickCache) (action : Action) :
    c.requests <+: (c.step decodeTick action).requests ∧
      c.gets <+: (c.step decodeTick action).gets := by
  cases action with
  | add rawTick =>
    rw [step, add]
    split
    · exact ⟨prefix_rfl, prefix_rfl⟩
    · split
      · exact ⟨prefix_rfl, prefix_rfl⟩
      · dsimp only
        split
        · exact ⟨prefix_append _ _, prefix_rfl⟩
        · exact ⟨prefix_rfl, prefix_rfl⟩
  | get start stop =>
    rw [step, get]
    dsimp only
    split
    · exact ⟨prefix_rfl, prefix_append _ _⟩
    · split
      · exact ⟨prefix_rfl, prefix_append _ _⟩
      · split
        · exact ⟨prefix_rfl, prefix_append _ _⟩
        · split
          · exact ⟨prefix_rfl, prefix_append _ _⟩
          · exact ⟨prefix_append _ _, prefix_append _ _⟩
  | complete request reply =>
    rw [step, complete]
    split <;> exact ⟨prefix_rfl, prefix_rfl⟩
  | fail request err =>
    rw [step, fail]
    split <;> exact ⟨prefix_rfl, prefix_rfl⟩
  | destroy => exact ⟨prefix_rfl, prefix_rfl⟩

theorem destroyed_step (c : TickCache) (action : Action)
    (destroyed : c.destroyed = true) : (c.step decodeTick action).destroyed = true := by
  cases action with
  | add rawTick => rwa [step, add, if_pos destroyed]
  | get start stop =>
    rw [step, get]
    dsimp only
    rwa [if_pos destroyed]
  | complete request reply =>
    rw [step, complete]
    split <;> exact destroyed
  | fail request err =>
    rw [step, fail]
    split <;> exact destroyed
  | destroy => rfl

end

theorem settled_of_destroyed {Plays : Nat → Buffer → Prop} {c : TickCache} (inv : Inv Plays c)
    (destroyed : c.destroyed = true) (get : Nat) (asked : get < c.gets.length) :
    c.settlements get = 1 := by
  have once := inv.once get
  rw [if_pos asked] at once
  have none : c.waits get = 0 := by
    rw [waits, allWaitings, inv.gone destroyed]
    rfl
  omega

end TickCache

namespace Correction

variable {f : Formats T S Buffer σ} (c : Correction f)

/-- After the purge, a cache has the replacement and nothing else there. -/
def Plays (after : Prop) (frame : Nat) (raw : Buffer) : Prop :=
  after → frame = c.frame → raw = c.replacement

def Long (after : Prop) (start : Nat) (stop : Int) (n : Nat) : Prop :=
  after → start ≤ c.frame → c.frame < stop → c.frame < start + n

/-- The replacement is where a list of the range has the frame. -/
def Shows {α : Type} (after : Prop) (start : Nat) (stop : Int) (replacement : α)
    (ticks : List α) : Prop :=
  after → start ≤ c.frame → c.frame < stop → ticks[c.frame - start]? = some replacement

theorem lengths (after : Prop) : TickCache.Lengths (c.Long after) where
  whole := by
    intro start stop n whole _ lower upper
    omega
  narrower := by
    intro first stop n start stop' n' covered reaches bound after lower upper
    by_cases inside : first ≤ c.frame
    · have far := reaches after inside (by omega)
      omega
    · omega

variable (claimed : Prop)

structure CacheInv (made : MadeCache) : Prop where
  inv : TickCache.Inv (c.Plays (claimed ∧ made.afterPurge = true)) made.cache
  lists : TickCache.Lists (c.Long (claimed ∧ made.afterPurge = true)) made.cache
  ranged : TickCache.Ranged made.cache

def ReplyInv (caches : List MadeCache) (reply : StoreReply) : Prop :=
  ∃ made start stop, caches[reply.cache]? = some made ∧
    made.cache.requests[reply.request]? = some (start, stop) ∧
    reply.ticks.length ≤ stop - start ∧
    c.Shows (claimed ∧ made.afterPurge = true) start stop c.replacement reply.ticks

def RequestInv (caches : List MadeCache) (request : TickListRequest) : Prop :=
  match request.stage with
  | .cached cache get =>
    ∃ made, caches[cache]? = some made ∧
      made.cache.gets[get]? = some (request.start, request.stop) ∧
      (request.afterPurge = true → made.afterPurge = true)
  | .read ticks => c.Shows (claimed ∧ request.afterPurge = true) request.start
      request.stop c.replacement ticks
  | .answered (some tickList) =>
    c.Shows (claimed ∧ request.afterPurge = true) request.start request.stop
      (some c.replacement) tickList
  | _ => True

structure ServerInv (s : TickServer) : Prop where
  caches : ∀ made ∈ s.caches, c.CacheInv claimed made
  current : ∀ number, s.current = some number →
    ∃ made, s.caches[number]? = some made ∧ (s.purged = true → made.afterPurge = true)
  retired : ∀ number made, s.caches[number]? = some made → s.current ≠ some number →
    made.cache.destroyed = true
  replies : ∀ reply ∈ s.replies, c.ReplyInv claimed s.caches reply
  requests : ∀ request ∈ s.requests, c.RequestInv claimed s.caches request
  marked : ∀ made ∈ s.caches, made.afterPurge = true → s.purged = true
  asked : ∀ request ∈ s.requests, request.afterPurge = true → s.purged = true

def Grows (caches caches' : List MadeCache) : Prop :=
  ∀ (number : Nat) (made : MadeCache), caches[number]? = some made →
    ∃ made' : MadeCache, caches'[number]? = some made' ∧ made'.afterPurge = made.afterPurge ∧
      made.cache.requests <+: made'.cache.requests ∧ made.cache.gets <+: made'.cache.gets

variable {c} {claimed} {s : TickServer}

theorem serverInv_new : c.ServerInv claimed .new where
  caches := fun _ there => (not_mem_nil there).elim
  current := by
    intro number isCurrent
    cases isCurrent
  retired := by
    intro number made there
    cases there
  replies := fun _ there => (not_mem_nil there).elim
  requests := fun _ there => (not_mem_nil there).elim
  marked := fun _ there => (not_mem_nil there).elim
  asked := fun _ there => (not_mem_nil there).elim

theorem getElem?_of_prefix {α : Type} {l l' : List α} (grown : l <+: l') {i : Nat} {a : α}
    (there : l[i]? = some a) : l'[i]? = some a := by
  obtain ⟨more, rfl⟩ := grown
  exact (List.getElem?_append_left (List.getElem?_eq_some_iff.mp there).1).trans there

theorem ReplyInv.mono {caches caches' : List MadeCache} {reply : StoreReply}
    (inv : c.ReplyInv claimed caches reply) (grows : Grows caches caches') :
    c.ReplyInv claimed caches' reply := by
  obtain ⟨made, start, stop, there, known, short, shows⟩ := inv
  obtain ⟨made', there', same, requests, -⟩ := grows _ made there
  refine ⟨made', start, stop, there', getElem?_of_prefix requests known, short, ?_⟩
  rw [same]
  exact shows

theorem RequestInv.mono {caches caches' : List MadeCache} {request : TickListRequest}
    (inv : c.RequestInv claimed caches request) (grows : Grows caches caches') :
    c.RequestInv claimed caches' request := by
  unfold RequestInv at inv ⊢
  cases stage : request.stage with
  | cached cache get =>
    rw [stage] at inv
    obtain ⟨made, there, asked, after⟩ := inv
    obtain ⟨made', there', same, -, gets⟩ := grows _ made there
    refine ⟨made', there', getElem?_of_prefix gets asked, ?_⟩
    rw [same]
    exact after
  | gameCode | store => trivial
  | read ticks =>
    rw [stage] at inv
    exact inv
  | answered tickList =>
    rw [stage] at inv
    cases tickList with
    | none => trivial
    | some tickList => exact inv

theorem serverInv_getCache (inv : c.ServerInv claimed s) :
    c.ServerInv claimed s.getCache.1 ∧ s.getCache.1.requests = s.requests ∧
      ∃ made, s.getCache.1.caches[s.getCache.2]? = some made ∧
        (s.purged = true → made.afterPurge = true) := by
  unfold TickServer.getCache
  cases isCurrent : s.current with
  | some number => exact ⟨inv, rfl, inv.current number isCurrent⟩
  | none =>
    have grows : Grows s.caches (s.caches ++ [⟨.new, s.purged⟩]) := by
      intro number made there
      refine ⟨made, ?_, rfl, prefix_rfl, prefix_rfl⟩
      exact (List.getElem?_append_left (List.getElem?_eq_some_iff.mp there).1).trans there
    refine ⟨⟨?_, ?_, ?_, ?_, ?_, ?_, inv.asked⟩, rfl, ?_⟩
    · intro made there
      rcases mem_append.mp there with before | last
      · exact inv.caches made before
      · rw [mem_singleton.mp last]
        exact ⟨TickCache.inv_new, TickCache.lists_new, TickCache.ranged_new⟩
    · intro number isCurrent'
      obtain rfl : s.caches.length = number := Option.some.inj isCurrent'
      exact ⟨_, List.getElem?_concat_length, fun purged => purged⟩
    · intro number made there notCurrent
      have last : number ≠ s.caches.length := fun same => notCurrent (congrArg some same.symm)
      have bound := (List.getElem?_eq_some_iff.mp there).1
      rw [List.length_append, List.length_singleton] at bound
      rw [List.getElem?_append_left (by omega)] at there
      refine inv.retired number made there ?_
      rw [isCurrent]
      intro same
      cases same
    · intro reply there
      exact (inv.replies reply there).mono grows
    · intro request there
      exact (inv.requests request there).mono grows
    · intro made there after
      rcases mem_append.mp there with before | last
      · exact inv.marked made before after
      · rw [mem_singleton.mp last] at after
        exact after
    · exact ⟨_, List.getElem?_concat_length, fun purged => purged⟩

variable {decodeTick : Buffer → Option Nat}

theorem getElem?_act (s : TickServer) (number other : Nat) (action : TickCache.Action) :
    (s.act decodeTick number action).caches[other]? =
      (s.caches[other]?).map fun made =>
        if number = other then { made with cache := made.cache.step decodeTick action }
        else made := by
  unfold TickServer.act
  rw [List.getElem?_modify]
  cases s.caches[other]? with
  | none => rfl
  | some made =>
    by_cases same : number = other <;> simp [same]

theorem grows_act (s : TickServer) (number : Nat) (action : TickCache.Action) :
    Grows s.caches (s.act decodeTick number action).caches := by
  intro other made there
  rw [getElem?_act, there]
  by_cases same : number = other
  · obtain ⟨requests, gets⟩ := TickCache.prefix_step decodeTick made.cache action
    refine ⟨{ made with cache := made.cache.step decodeTick action }, ?_, rfl, requests, gets⟩
    rw [Option.map_some, if_pos same]
  · refine ⟨made, ?_, rfl, prefix_rfl, prefix_rfl⟩
    rw [Option.map_some, if_neg same]

/-- What happens to a cache is sound: for one made after the purge, the ticks of the frame
are the replacement. -/
def SoundFor (decodeTick : Buffer → Option Nat) (c : Correction f) (claimed : Prop)
    (made : MadeCache) (action : TickCache.Action) : Prop :=
  TickCache.Sound (c.Plays (claimed ∧ made.afterPurge = true)) decodeTick made.cache action ∧
    TickCache.Replies (c.Long (claimed ∧ made.afterPurge = true)) made.cache action

theorem serverInv_act (inv : c.ServerInv claimed s) (number : Nat) (action : TickCache.Action)
    (sound : ∀ made, s.caches[number]? = some made → SoundFor decodeTick c claimed made action) :
    c.ServerInv claimed (s.act decodeTick number action) := by
  have grows := @grows_act decodeTick s number action
  have each : ∀ made' ∈ (s.act decodeTick number action).caches,
      c.CacheInv claimed made' ∧ (made'.afterPurge = true → s.purged = true) := by
    intro made' there
    obtain ⟨other, at'⟩ := List.getElem?_of_mem there
    rw [getElem?_act] at at'
    obtain ⟨made, isMade, rfl⟩ := Option.map_eq_some_iff.mp at'
    have inCaches := mem_of_getElem? isMade
    have old := inv.caches made inCaches
    by_cases same : number = other
    · rw [if_pos same]
      rw [← same] at isMade
      obtain ⟨sound, replies⟩ := sound made isMade
      refine ⟨⟨?_, ?_, ?_⟩, inv.marked made inCaches⟩
      · exact TickCache.inv_step decodeTick made.cache action old.inv sound
      · exact TickCache.lists_step (c.lengths _) decodeTick made.cache action old.inv old.lists
          replies
      · exact TickCache.ranged_step decodeTick made.cache action old.ranged
    · rw [if_neg same]
      exact ⟨old, inv.marked made inCaches⟩
  constructor
  · intro made there
    exact (each made there).1
  · intro current isCurrent
    obtain ⟨made, there, after⟩ := inv.current current isCurrent
    obtain ⟨made', there', same, -, -⟩ := grows current made there
    refine ⟨made', there', ?_⟩
    rw [same]
    exact after
  · intro other made' at' notCurrent
    rw [getElem?_act] at at'
    obtain ⟨made, isMade, rfl⟩ := Option.map_eq_some_iff.mp at'
    have destroyed := inv.retired other made isMade notCurrent
    split
    · exact TickCache.destroyed_step decodeTick made.cache action destroyed
    · exact destroyed
  · intro reply there
    exact (inv.replies reply there).mono grows
  · intro request there
    exact (inv.requests request there).mono grows
  · intro made there
    exact (each made there).2
  · exact inv.asked

theorem serverInv_purge (inv : c.ServerInv claimed s) :
    c.ServerInv claimed (s.purge decodeTick) := by
  unfold TickServer.purge
  cases isCurrent : s.current with
  | none => exact inv
  | some number =>
    have destroyed := @serverInv_act _ _ _ _ _ _ _ decodeTick inv number .destroy
      fun made _ => ⟨trivial, trivial⟩
    refine ⟨destroyed.caches, ?_, ?_, destroyed.replies, destroyed.requests, destroyed.marked,
      destroyed.asked⟩
    · intro other isCurrent'
      cases isCurrent'
    · intro other made' at' _
      rw [getElem?_act] at at'
      obtain ⟨made, isMade, rfl⟩ := Option.map_eq_some_iff.mp at'
      split
      · rfl
      · rename_i different
        refine inv.retired other made isMade fun same => different ?_
        exact Option.some.inj (isCurrent.symm.trans same)

theorem serverInv_setStage (inv : c.ServerInv claimed s) (number : Nat) (stage : TickListStage)
    (good : ∀ request, s.requests[number]? = some request →
      c.RequestInv claimed s.caches { request with stage := stage }) :
    c.ServerInv claimed (s.setStage number stage) := by
  have each : ∀ request ∈ (s.setStage number stage).requests,
      c.RequestInv claimed s.caches request ∧ (request.afterPurge = true → s.purged = true) := by
    intro request' there
    obtain ⟨other, at'⟩ := List.getElem?_of_mem there
    unfold TickServer.setStage at at'
    rw [List.getElem?_modify] at at'
    obtain ⟨request, isRequest, changed⟩ := Option.map_eq_some_iff.mp at'
    have inRequests := mem_of_getElem? isRequest
    rw [← changed]
    split
    · rename_i same
      rw [← same] at isRequest
      exact ⟨good request isRequest, inv.asked request inRequests⟩
    · exact ⟨inv.requests request inRequests, inv.asked request inRequests⟩
  exact ⟨inv.caches, inv.current, inv.retired, inv.replies,
    fun request there => (each request there).1, inv.marked,
    fun request there => (each request there).2⟩

theorem mem_settled_of_outcome {cache get : Nat} {outcome : Outcome} {made : MadeCache}
    (there : s.caches[cache]? = some made) (settled : s.outcome cache get = some outcome) :
    (get, outcome) ∈ made.cache.settled := by
  unfold TickServer.outcome at settled
  rw [there] at settled
  obtain ⟨⟨other, outcome'⟩, found, same⟩ := Option.map_eq_some_iff.mp settled
  have isGet := List.find?_some found
  rw [decide_eq_true_eq] at isGet
  dsimp only at isGet same
  rw [← isGet, ← same]
  exact List.mem_of_find?_eq_some found

theorem shows_resolved {made : MadeCache} (inv : c.CacheInv claimed made) {get start : Nat}
    {stop : Int} {ticks : SparseArray} (asked : made.cache.gets[get]? = some (start, stop))
    (settled : (get, Outcome.resolved ticks) ∈ made.cache.settled) :
    c.Shows (claimed ∧ made.afterPurge = true) start stop (some c.replacement) ticks := by
  intro after lower upper
  obtain ⟨start', stop', asked', far⟩ := inv.lists.resolved get ticks settled
  obtain ⟨rfl, rfl⟩ := Prod.mk.inj (Option.some.inj (asked.symm.trans asked'))
  obtain ⟨start', stop', asked', holeFree⟩ := inv.inv.resolved get ticks settled
  obtain ⟨rfl, rfl⟩ := Prod.mk.inj (Option.some.inj (asked.symm.trans asked'))
  have inside := far after lower upper
  obtain ⟨raw, there, plays⟩ := holeFree.ticks (c.frame - start) (by omega)
  rw [there, plays after (by omega)]

theorem serverInv_settle (inv : c.ServerInv claimed s) (number : Nat) (permitted : Bool)
    (request : TickListRequest) (isRequest : s.requests[number]? = some request) :
    c.ServerInv claimed (s.settle number permitted request.stage) := by
  have known := inv.requests request (mem_of_getElem? isRequest)
  unfold RequestInv at known
  unfold TickServer.settle
  cases stage : request.stage with
  | gameCode | store | answered tickList => exact inv
  | read ticks =>
    rw [stage] at known
    refine serverInv_setStage inv number _ fun other isOther => ?_
    obtain rfl : request = other := Option.some.inj (isRequest.symm.trans isOther)
    cases permitted with
    | false => trivial
    | true =>
      intro after lower upper
      rw [List.getElem?_map, known after lower upper]
      rfl
  | cached cache get =>
    rw [stage] at known
    obtain ⟨made, there, asked, after⟩ := known
    dsimp only
    cases outcome : s.outcome cache get with
    | none => exact inv
    | some outcome' =>
      have settled := mem_settled_of_outcome there outcome
      cases outcome' with
      | rejected err =>
        refine serverInv_setStage inv number _ fun other _ => ?_
        trivial
      | resolved ticks =>
        refine serverInv_setStage inv number _ fun other isOther => ?_
        obtain rfl : request = other := Option.some.inj (isRequest.symm.trans isOther)
        cases permitted with
        | false => trivial
        | true =>
          have shows := shows_resolved (inv.caches made (mem_of_getElem? there)) asked
            settled
          intro isAfter
          exact shows ⟨isAfter.1, after isAfter.2⟩

theorem getElem?_gets_act (made : MadeCache) (start : Nat) (stop : Int) :
    (made.cache.step decodeTick (.get start stop)).gets[made.cache.gets.length]? =
      some (start, stop) := by
  have last : (made.cache.gets ++ [(start, stop)])[made.cache.gets.length]? = some (start, stop) :=
    List.getElem?_concat_length
  rw [TickCache.step, TickCache.get]
  dsimp only
  split
  · exact last
  · split
    · exact last
    · split
      · exact last
      · split <;> exact last

theorem serverInv_listTicks (inv : c.ServerInv claimed s) (number : Nat) (request : TickListRequest)
    (isRequest : s.requests[number]? = some request) (excluded : Bool) :
    c.ServerInv claimed (s.listTicks decodeTick number request excluded) := by
  unfold TickServer.listTicks
  by_cases empty : request.stop - request.start ≤ 0
  · rw [if_pos empty]
    refine serverInv_setStage inv number _ fun other isOther => ?_
    obtain rfl : request = other := Option.some.inj (isRequest.symm.trans isOther)
    intro after lower upper
    dsimp only at lower upper
    omega
  · rw [if_neg empty]
    cases excluded with
    | true =>
      refine serverInv_setStage inv number _ fun other isOther => ?_
      trivial
    | false =>
      obtain ⟨invCache, requests, made, there, after⟩ := serverInv_getCache inv
      rw [if_neg Bool.false_ne_true]
      generalize s.getCache = made' at invCache requests there
      obtain ⟨s', cache⟩ := made'
      dsimp only at invCache requests there ⊢
      have used := @serverInv_act _ _ _ _ _ _ _ decodeTick invCache cache
        (.get request.start request.stop) fun made _ => ⟨trivial, trivial⟩
      refine serverInv_setStage used number _ fun other isOther => ?_
      have isOther' : s.requests[number]? = some other := by
        rw [← requests]
        exact isOther
      obtain rfl : request = other := Option.some.inj (isRequest.symm.trans isOther')
      refine ⟨{ made with
        cache := made.cache.step decodeTick (.get request.start request.stop) }, ?_, ?_, ?_⟩
      · rw [getElem?_act, there, Option.map_some, if_pos rfl]
      · have count : s'.getsOf cache = made.cache.gets.length := by
          rw [TickServer.getsOf, there]
          rfl
        rw [count]
        exact @getElem?_gets_act decodeTick made request.start request.stop
      · intro isAfter
        exact after (inv.asked request (mem_of_getElem? isRequest) isAfter)

end Correction
end AkashicSystem.PlaylogServer
