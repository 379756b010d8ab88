import AkashicSystem.Playlog.TickReads
import AkashicSystem.PlaylogServer.TickCorrections
import Mathlib.Tactic.ByContra
import Mathlib.Tactic.FinCases

/-!
# Lists of corrected ticks

A server that was purged fills a new cache, whose requests read the store after
`updateTick`; a reply from before goes to the cache that asked and was destroyed.
`updateTick` corrects the original tick alone: both of its updates are under the
same play key, and lists without ignorable events keep the tick as it was.
-/

set_option autoImplicit false

namespace AkashicSystem.PlaylogServer

open AkashicSystem.Js AkashicSystem.Playlog TickServer ActiveStore List
open TickCache (firstByte)

variable {T S σ : Type}

namespace Correction

variable {f : Formats T S Buffer σ} {c : Correction f} {claimed : Prop} {s : TickServer}
  {decodeTick : Buffer → Option Nat}

def FindsExcluded (store : ActiveStore Buffer σ) (start : Nat) (stop : Int) (ignorable : Bool) :
    Prop :=
  ignorable = true ∧
    getTicksInner (rangeQuery start stop ignorable)
      store.excludedIgnorable ≠ []

instance (store : ActiveStore Buffer σ) (start : Nat) (stop : Int) (ignorable : Bool) :
    Decidable (FindsExcluded store start stop ignorable) :=
  inferInstanceAs (Decidable (_ ∧ _))

variable (c) in
/-- No frame of the range up to the corrected one is missing in what a read finds, and where
that is the second form, it has the replacement as well. -/
def Finds (store : ActiveStore Buffer σ) (start : Nat) (stop : Int) (ignorable : Bool) : Prop :=
  if FindsExcluded store start stop ignorable then
    Unbroken store.excludedIgnorable start c.frame ∧
      Collection.findFrame store.excludedIgnorable c.frame = some (f.tick.toRecord c.tick)
  else Unbroken store.original start c.frame

theorem shows_getTicksRaw {store : ActiveStore Buffer σ} (distinct : store.Distinct)
    (corrected : store.Corrected f c.tick) {start : Nat} {stop : Int} {ignorable : Bool}
    (lower : start ≤ c.frame) (upper : c.frame < stop)
    (finds : c.Finds store start stop ignorable) :
    (store.getTicksRaw (rangeQuery start stop ignorable))[c.frame - start]? =
      some c.replacement := by
  have original (unbroken : Unbroken store.original start c.frame) :=
    getElem?_corrected distinct corrected c.isFrame start stop lower upper unbroken
      ignorable
  unfold Finds at finds
  rw [getTicksRaw]
  cases ignorable with
  | false =>
    rw [if_neg (by simp [FindsExcluded])] at finds
    rw [getTicksRecords_original store rfl]
    exact original finds
  | true =>
    rw [getTicksRecords_excludedIgnorable store rfl]
    by_cases none : getTicksInner (rangeQuery start stop true)
        store.excludedIgnorable = []
    · rw [if_neg (by simp [FindsExcluded, none])] at finds
      rw [if_pos none]
      exact original finds
    · rw [if_pos ⟨rfl, none⟩] at finds
      rw [if_neg none, List.getElem?_map,
        getElem?_getTicksInner distinct.excludedIgnorable start stop true lower upper
          finds.1 finds.2]
      rfl

theorem length_getRawTickList_le (store : ActiveStore Buffer σ) (start stop : Nat) :
    (_getRawTickList store start stop).length ≤ stop - start := by
  rw [_getRawTickList, getTicksRaw, length_map,
    getTicksRecords_original store rfl]
  have short := length_getTicksInner_le store.original start stop false
  omega

/-- What the reads of a server need: those for the caches made after the purge and those for
requests made then. -/
def ServerFinds (c : Correction f) (store : ActiveStore Buffer σ) (s : TickServer) :
    Action → Prop
  | .complement cache request =>
    ∀ made start stop, s.caches[cache]? = some made → made.afterPurge = true →
      made.cache.requests[request]? = some (start, stop) →
      start ≤ c.frame → c.frame < stop → c.Finds store start stop false
  | .readTicks number =>
    ∀ request, s.requests[number]? = some request → request.stage = .store →
      request.afterPurge = true → request.start ≤ c.frame →
      c.frame < request.stop → c.Finds store request.start request.stop request.ignorable
  | _ => True

/-- Ticks that are consumed are of other frames. -/
def OtherFrames (decodeTick : Buffer → Option Nat) (c : Correction f) :
    Action → Prop
  | .tick _ rawTick => decodeTick rawTick ≠ some c.frame
  | _ => True

theorem soundFor_complete (inv : c.ServerInv claimed s) {reply : StoreReply}
    (isReply : reply ∈ s.replies) {made : MadeCache} (there : s.caches[reply.cache]? = some made) :
    SoundFor decodeTick c claimed made (.complete reply.request reply.ticks) := by
  obtain ⟨made', start, stop, there', known, short, shows⟩ := inv.replies reply isReply
  obtain rfl : made = made' := Option.some.inj (there.symm.trans there')
  have ranged := (inv.caches made (mem_of_getElem? there)).ranged
  have range : ∀ comp ∈ made.cache.complementings, comp.request = reply.request →
      comp.start = start ∧ comp.stop = stop := by
    intro comp inCache isRequest
    have known' := ranged comp inCache
    rw [isRequest] at known'
    exact Prod.mk.inj (Option.some.inj (known'.symm.trans known))
  constructor
  · intro comp inCache isRequest
    obtain ⟨isStart, isStop⟩ := range comp inCache isRequest
    rw [isStart, isStop]
    refine ⟨short, fun i raw tick after isFrame => ?_⟩
    have inside := (List.getElem?_eq_some_iff.mp tick).1
    have shown := shows after (by omega) (by omega)
    have index : c.frame - start = i := by omega
    rw [index, tick] at shown
    exact Option.some.inj shown
  · intro comp inCache isRequest after lower upper
    obtain ⟨isStart, isStop⟩ := range comp inCache isRequest
    rw [isStart] at lower ⊢
    rw [isStop] at upper
    have inside := (List.getElem?_eq_some_iff.mp (shows after lower upper)).1
    omega

theorem serverInv_step {store : ActiveStore Buffer σ} (inv : c.ServerInv claimed s)
    (distinct : store.Distinct) (corrected : claimed → s.purged = true → store.Corrected f c.tick)
    (action : Action)
    (given : claimed → OtherFrames decodeTick c action ∧ ServerFinds c store s action) :
    c.ServerInv claimed (s.step decodeTick store action) := by
  cases action with
  | getRawTickList start stop ignorable permitted =>
    refine ⟨inv.caches, inv.current, inv.retired, inv.replies, ?_, inv.marked, ?_⟩
    · intro request there
      rcases mem_append.mp there with before | last
      · exact inv.requests request before
      · rw [mem_singleton.mp last]
        cases permitted with
        | false | true => trivial
    · intro request there after
      rcases mem_append.mp there with before | last
      · exact inv.asked request before after
      · rw [mem_singleton.mp last] at after
        exact after
  | gameCode number excluded =>
    rw [step]
    cases isRequest : s.requests[number]? with
    | none => exact inv
    | some request =>
      dsimp only
      split
      · exact serverInv_listTicks inv number request isRequest excluded
      · exact inv
  | readTicks number =>
    rw [step]
    cases isRequest : s.requests[number]? with
    | none => exact inv
    | some request =>
      dsimp only
      split
      · rename_i waits
        refine serverInv_setStage inv number _ fun other isOther => ?_
        obtain rfl : request = other := Option.some.inj (isRequest.symm.trans isOther)
        intro after lower upper
        have purged := inv.asked request (mem_of_getElem? isRequest) after.2
        exact shows_getTicksRaw distinct (corrected after.1 purged) lower upper
          ((given after.1).2 request isRequest waits after.2 lower upper)
      · exact inv
  | fails number =>
    rw [step]
    cases isRequest : s.requests[number]? with
    | none => exact inv
    | some request =>
      dsimp only
      split
      · refine serverInv_setStage inv number _ fun other _ => ?_
        trivial
      · exact inv
  | settles number permitted =>
    rw [step]
    cases isRequest : s.requests[number]? with
    | none => exact inv
    | some request => exact serverInv_settle inv number permitted request isRequest
  | prepare => exact (serverInv_getCache inv).1
  | tick cache rawTick =>
    refine serverInv_act inv cache _ fun made there => ⟨fun frame decoded after isFrame => ?_, ?_⟩
    · rw [isFrame] at decoded
      exact absurd decoded (given after.1).1
    · trivial
  | complement cache request =>
    rw [step]
    cases asked : s.caches[cache]?.bind fun made => made.cache.requests[request]? with
    | none => exact inv
    | some range =>
      obtain ⟨start, stop⟩ := range
      obtain ⟨made, there, known⟩ := Option.bind_eq_some_iff.mp asked
      refine ⟨inv.caches, inv.current, inv.retired, ?_, inv.requests, inv.marked, inv.asked⟩
      intro reply isReply
      rcases mem_append.mp isReply with before | last
      · exact inv.replies reply before
      · rw [mem_singleton.mp last]
        refine ⟨made, start, stop, there, known, length_getRawTickList_le store start stop, ?_⟩
        intro after lower upper
        have purged := inv.marked made (mem_of_getElem? there) after.2
        exact shows_getTicksRaw distinct (corrected after.1 purged) lower upper
          ((given after.1).2 made start stop there after.2 known lower (by omega))
  | complete number =>
    rw [step]
    cases isReply : s.replies[number]? with
    | none => exact inv
    | some reply =>
      dsimp only
      have fewer : c.ServerInv claimed { s with replies := s.replies.eraseIdx number } :=
        ⟨inv.caches, inv.current, inv.retired, fun other there =>
          inv.replies other (mem_of_mem_eraseIdx there), inv.requests, inv.marked,
          inv.asked⟩
      refine serverInv_act fewer reply.cache _ fun made there => ?_
      exact soundFor_complete inv (mem_of_getElem? isReply) there
  | complementFails cache request err =>
    exact serverInv_act inv cache _ fun made _ => ⟨trivial, trivial⟩
  | unref => exact serverInv_purge inv
  | purge =>
    have purged := @serverInv_purge _ _ _ _ _ _ _ decodeTick inv
    have gone : (s.purge decodeTick).current = none := by
      unfold purge
      cases isCurrent : s.current with
      | none => exact isCurrent
      | some number => rfl
    refine ⟨purged.caches, ?_, purged.retired, purged.replies, purged.requests, fun _ _ _ => rfl,
      fun _ _ _ => rfl⟩
    intro number isCurrent
    cases gone.symm.trans isCurrent

end Correction

def Putting.Updated : Putting → Prop
  | .updateTick updating => updating ≠ .findOneAndUpdate
  | .deleteCache | .published => True
  | .idle | .failed => False

namespace CorrectedPlay

variable {f : Formats T S Buffer σ}

/-- A list that was asked for after the purge has the replacement at its frame. -/
def Visible (c : Correction f) (s : CorrectedPlay σ) : Prop :=
  ∀ number, ∀ request ∈ (s.servers number).requests, ∀ tickList,
    request.stage = .answered (some tickList) →
    c.Shows (request.afterPurge = true) request.start request.stop (some c.replacement) tickList

/-- On a server that was purged, a request that waits on a cache from before has its get
settled once, and is answered with what it was settled with. -/
def WaitersSettle (decodeTick : Buffer → Option Nat) (s : CorrectedPlay σ) : Prop :=
  ∀ number index request cache get made,
    (s.servers number).purged = true → (s.servers number).requests[index]? = some request →
    request.stage = .cached cache get → (s.servers number).caches[cache]? = some made →
    made.afterPurge = false →
      made.cache.settlements get = 1 ∧
        ∀ permitted, ∃ tickList,
          ((s.servers number).step decodeTick s.store (.settles index permitted)).requests[index]? =
            some { request with stage := .answered tickList }

/-- Ticks that are consumed are of other frames. -/
def OtherFrames (decodeTick : Buffer → Option Nat) (c : Correction f) (_ : CorrectedPlay σ) :
    Action T → Prop
  | .server _ action => Correction.OtherFrames decodeTick c action
  | _ => True

/-- The tick is stored when it is updated, and the reads that matter find what they need. -/
def Finds (c : Correction f) (s : CorrectedPlay σ) : Action T → Prop
  | .succeeds => s.putting = .updateTick .findOneAndUpdate →
      (c.frame : Int) ∈ Collection.frames s.store.original
  | .server number action => Correction.ServerFinds c s.store (s.servers number) action
  | _ => True

structure Inv (c : Correction f) (claimed : Prop) (s : CorrectedPlay σ) : Prop where
  distinct : s.store.Distinct
  corrected : claimed → s.putting.Updated → s.store.Corrected f c.tick
  servers : ∀ number, c.ServerInv claimed (s.servers number)
  purged : ∀ number, (s.servers number).purged = true → s.putting = .published

variable {c : Correction f} {claimed : Prop} {s : CorrectedPlay σ}

theorem inv_start : Inv c claimed (start : CorrectedPlay σ) where
  distinct := distinct_empty
  corrected := fun _ updated => updated.elim
  servers := fun _ => Correction.serverInv_new
  purged := by
    intro number purged
    cases purged

theorem inv_advance (inv : Inv c claimed s)
    (stored : claimed → s.putting = .updateTick .findOneAndUpdate →
      (c.frame : Int) ∈ Collection.frames s.store.original) : Inv c claimed (s.advance c) := by
  unfold advance
  cases putting : s.putting with
  | idle | failed | published => exact inv
  | deleteCache =>
    refine ⟨inv.distinct, fun isClaimed _ => ?_, inv.servers, fun _ _ => rfl⟩
    refine inv.corrected isClaimed ?_
    rw [putting]
    trivial
  | updateTick updating =>
    refine ⟨distinct_updateTick inv.distinct c.tick updating,
      fun isClaimed _ => ?_, inv.servers, fun number purged => ?_⟩
    · by_cases first : updating = .findOneAndUpdate
      · rw [first] at putting ⊢
        refine corrected_findOneAndUpdate ?_
        rw [c.isFrame]
        exact stored isClaimed putting
      · refine corrected_updateTick (inv.corrected isClaimed ?_) updating
        rw [putting]
        exact first
    · have published := inv.purged number purged
      rw [putting] at published
      cases published

theorem purged_getCache (s : TickServer) : s.getCache.1.purged = s.purged := by
  unfold getCache
  cases s.current with
  | none | some number => rfl

theorem purged_purge (decodeTick : Buffer → Option Nat) (s : TickServer) :
    (s.purge decodeTick).purged = s.purged := by
  unfold purge
  cases s.current with
  | none | some number => rfl

theorem purged_settle (s : TickServer) (number : Nat) (permitted : Bool) (stage : TickListStage) :
    (s.settle number permitted stage).purged = s.purged := by
  unfold settle
  cases stage with
  | cached cache get =>
    dsimp only
    split <;> rfl
  | _ => rfl

section

variable (decodeTick : Buffer → Option Nat)
include decodeTick

theorem purged_listTicks (s : TickServer) (number : Nat)
    (request : TickListRequest) (excluded : Bool) :
    (s.listTicks decodeTick number request excluded).purged = s.purged := by
  unfold listTicks
  split
  · rfl
  · split
    · rfl
    · exact purged_getCache s

theorem purged_step (store : ActiveStore Buffer σ)
    (s : TickServer) (action : TickServer.Action) (other : action ≠ .purge) :
    (s.step decodeTick store action).purged = s.purged := by
  cases action with
  | purge => exact absurd rfl other
  | unref => exact purged_purge decodeTick s
  | prepare => exact purged_getCache s
  | gameCode number excluded =>
    rw [TickServer.step]
    split
    · split
      · exact purged_listTicks decodeTick s number _ excluded
      · rfl
    · rfl
  | settles number permitted =>
    rw [TickServer.step]
    split
    · exact purged_settle s number permitted _
    · rfl
  | readTicks number | fails number =>
    rw [TickServer.step]
    split
    · split <;> rfl
    · rfl
  | complement cache request | complete number =>
    rw [TickServer.step]
    split <;> rfl
  | getRawTickList start stop ignorable permitted | tick cache rawTick
  | complementFails cache request err => rfl

theorem inv_step (inv : Inv c claimed s) (action : Action T)
    (given : claimed → OtherFrames decodeTick c s action ∧ Finds c s action) :
    Inv c claimed (s.step decodeTick c action) := by
  cases action with
  | putTick tick ignorable =>
    rw [step]
    cases stored : s.store.putTick f tick ignorable with
    | none => exact inv
    | some store =>
      refine ⟨distinct_putTick inv.distinct stored, ?_, inv.servers, inv.purged⟩
      intro isClaimed updated
      exact corrected_putTick (inv.corrected isClaimed updated) stored
  | put hasArchive =>
    rw [step]
    by_cases idle : s.putting = .idle
    · rw [if_pos idle]
      refine ⟨inv.distinct, ?_, inv.servers, ?_⟩
      · intro _ updated
        cases hasArchive with
        | true => exact updated.elim
        | false => exact absurd rfl updated
      · intro number purged
        have published := inv.purged number purged
        rw [idle] at published
        cases published
    · rw [if_neg idle]
      exact inv
  | succeeds => exact inv_advance inv fun isClaimed => (given isClaimed).2
  | fails =>
    rw [step]
    have unpurged (busy : s.putting ≠ .published) :
        Inv c claimed { s with putting := .failed } := by
      refine ⟨inv.distinct, fun _ updated => updated.elim, inv.servers, ?_⟩
      intro number purged
      exact absurd (inv.purged number purged) busy
    cases putting : s.putting with
    | updateTick updating | deleteCache =>
      refine unpurged ?_
      rw [putting]
      exact Putting.noConfusion
    | idle | published | failed => exact inv
  | server number action =>
    rw [step]
    by_cases early : action = .purge ∧ s.putting ≠ .published
    · rw [if_pos early]
      exact inv
    · rw [if_neg early]
      have stepped := Correction.serverInv_step (inv.servers number) inv.distinct
        (fun isClaimed purged => inv.corrected isClaimed (by
          rw [inv.purged number purged]
          trivial)) action given
      refine ⟨inv.distinct, inv.corrected, ?_, ?_⟩
      · intro other
        dsimp only
        by_cases same : other = number
        · subst same
          rw [Function.update_self]
          exact stepped
        · rw [Function.update_of_ne same]
          exact inv.servers other
      · intro other purged
        dsimp only at purged ⊢
        by_cases same : other = number
        · subst same
          rw [Function.update_self] at purged
          by_cases isPurge : action = .purge
          · by_contra unpublished
            exact early ⟨isPurge, unpublished⟩
          · rw [purged_step decodeTick s.store _ action isPurge] at purged
            exact inv.purged other purged
        · rw [Function.update_of_ne same] at purged
          exact inv.purged other purged

end

theorem visible_of_inv (inv : Inv c True s) : s.Visible c := by
  intro number request there tickList answered after
  have known := (inv.servers number).requests request there
  unfold Correction.RequestInv at known
  rw [answered] at known
  exact known ⟨trivial, after⟩

theorem outcome_of_settlements {server : TickServer} {cache get : Nat} {made : MadeCache}
    (there : server.caches[cache]? = some made) (once : made.cache.settlements get = 1) :
    ∃ outcome, server.outcome cache get = some outcome := by
  unfold outcome
  rw [there, Option.bind_some]
  have counted : 0 < (made.cache.settled.map Prod.fst).count get := by
    change 0 < made.cache.settlements get
    omega
  obtain ⟨entry, settled, isGet⟩ := mem_map.mp (count_pos_iff.mp counted)
  cases found : made.cache.settled.find? fun entry => entry.1 = get with
  | none =>
    have missing := List.find?_eq_none.mp found entry settled
    exact absurd (decide_eq_true isGet) missing
  | some entry => exact ⟨entry.2, rfl⟩

theorem getElem?_setStage (server : TickServer) (number : Nat) (stage : TickListStage)
    {request : TickListRequest} (there : server.requests[number]? = some request) :
    (server.setStage number stage).requests[number]? = some { request with stage := stage } := by
  rw [setStage, List.getElem?_modify_eq, there]
  rfl

variable (decodeTick : Buffer → Option Nat)

theorem waitersSettle_of_inv (inv : Inv c claimed s) :
    s.WaitersSettle decodeTick := by
  intro number index request cache get made purged isRequest stage there before
  have server := inv.servers number
  have known := server.requests request (mem_of_getElem? isRequest)
  unfold Correction.RequestInv at known
  rw [stage] at known
  obtain ⟨made', there', asked, -⟩ := known
  obtain rfl : made = made' := Option.some.inj (there.symm.trans there')
  -- the manager's cache is from after the purge, and all others were destroyed
  have retired : (s.servers number).current ≠ some cache := by
    intro isCurrent
    obtain ⟨made', there', after⟩ := server.current cache isCurrent
    obtain rfl : made = made' := Option.some.inj (there.symm.trans there')
    rw [after purged] at before
    cases before
  have once := TickCache.settled_of_destroyed (server.caches made (mem_of_getElem? there)).inv
    (server.retired cache made there retired) get (List.getElem?_eq_some_iff.mp asked).1
  refine ⟨once, fun permitted => ?_⟩
  obtain ⟨outcome, settled⟩ := outcome_of_settlements there once
  rw [TickServer.step, isRequest]
  dsimp only
  rw [stage, TickServer.settle, settled]
  cases outcome with
  | resolved ticks | rejected err => exact ⟨_, getElem?_setStage _ index _ isRequest⟩

theorem inv_run (c : Correction f) (claimed : Prop)
    (actions : List (Action T)) (run : claimed → Run.Allowed (step decodeTick c)
      (fun s action => OtherFrames decodeTick c s action ∧ Finds c s action) start actions) :
    Inv c claimed (Run.final (step decodeTick c) start actions) := by
  by_cases isClaimed : claimed
  · refine @Run.invariant _ _ (step decodeTick c) _ (Inv c claimed) ?_ start actions inv_start
      (run isClaimed)
    intro s action inv given
    exact inv_step decodeTick inv action fun _ => given
  · refine @Run.stable _ _ (step decodeTick c) (Inv c claimed) ?_ start actions inv_start
    intro s action inv
    exact inv_step decodeTick inv action fun isClaimed' => absurd isClaimed' isClaimed

/-- In a run in which the tick is stored when it is updated, and the reads that matter find
what they need, every list asked for after the purge shows the correction.  Requests that
waited on a purged cache are answered in every run. -/
theorem visible_and_settled (c : Correction f)
    (actions : List (Action T)) : (Run.Allowed (step decodeTick c)
        (fun s action => OtherFrames decodeTick c s action ∧ Finds c s action) start actions →
      Visible c (Run.final (step decodeTick c) start actions)) ∧
      (Run.final (step decodeTick c) start actions).WaitersSettle decodeTick :=
  ⟨fun run => visible_of_inv (inv_run decodeTick c True actions fun _ => run),
    waitersSettle_of_inv decodeTick (inv_run decodeTick c False actions False.elim)⟩

def versioned : Formats (Nat × Nat) Unit Buffer Unit where
  tick :=
    { encode := fun tick => [tick.1.toUInt8, tick.2.toUInt8]
      decode := fun bytes => ((bytes.map UInt8.toNat).getD 0 0, (bytes.map UInt8.toNat).getD 1 0)
      json := id
      frame := fun tick => tick.1
      timestamp := fun _ => none }
  startPoint :=
    { encode := id, decode := id, json := id, frame := fun _ => 0, timestamp := fun _ => none }

def secondVersion : Correction versioned := ⟨(1, 2), 1, rfl⟩

/-- Two frames are stored in both forms, a correction is put, and server 0 is purged and then
asked for frame 1, for a client that excludes ignorable events or for one that does not. -/
def correctedRun (excluded : Bool) : List (Action (Nat × Nat)) :=
  [.putTick (0, 1) false, .putTick (0, 1) true, .putTick (1, 1) false, .putTick (1, 1) true,
    .server 0 (.getRawTickList 1 2 false true), .server 0 (.gameCode 0 false),
    .server 0 (.complement 0 0),
    .put false, .succeeds, .succeeds, .succeeds, .succeeds, .server 0 .purge,
    .server 0 (.complete 0), .server 0 (.settles 0 true),
    .server 0 (.getRawTickList 1 2 excluded true), .server 0 (.gameCode 1 excluded),
    .server 0 (.complement 1 0), .server 0 (.complete 0), .server 0 (.readTicks 1),
    .server 0 (.settles 1 true)]

def correctedPlay (excluded : Bool) : CorrectedPlay Unit :=
  Run.final (step firstByte secondVersion) start (correctedRun excluded)

/-- The second form still has the first version, and the server answers with it. -/
theorem excluded_uncorrected : Run.Allowed (step firstByte secondVersion)
        (OtherFrames firstByte secondVersion) start (correctedRun true) ∧
      ¬ (correctedPlay true).Visible secondVersion := by
  refine ⟨?_, fun visible => ?_⟩
  · refine Run.Allowed.of_forall start _ fun s action there => ?_
    fin_cases there <;> trivial
  · have shows := visible 0 ⟨1, 2, true, true, .answered (some [some [1, 1]])⟩ (by decide)
      [some [1, 1]] rfl rfl (by decide) (by decide)
    exact absurd shows (by decide)

theorem corrected_allowed : Run.Allowed (step firstByte secondVersion)
      (fun s action => OtherFrames firstByte secondVersion s action ∧
        Finds secondVersion s action) start (correctedRun false) := by
  refine ⟨⟨trivial, trivial⟩, ⟨trivial, trivial⟩, ⟨trivial, trivial⟩, ⟨trivial, trivial⟩,
    ⟨trivial, trivial⟩, ⟨trivial, trivial⟩, ⟨trivial, ?_⟩, ⟨trivial, trivial⟩,
    ⟨trivial, fun _ => by decide⟩, ⟨trivial, fun first => absurd first (by decide)⟩,
    ⟨trivial, fun first => absurd first (by decide)⟩,
    ⟨trivial, fun first => absurd first (by decide)⟩, ⟨trivial, trivial⟩, ⟨trivial, trivial⟩,
    ⟨trivial, trivial⟩, ⟨trivial, trivial⟩, ⟨trivial, trivial⟩, ⟨trivial, ?_⟩, ⟨trivial, trivial⟩,
    ⟨trivial, ?_⟩, ⟨trivial, trivial⟩, trivial⟩
  · -- the cache from before the purge
    intro made first last there after
    obtain rfl := Option.some.inj there
    cases after
  · intro made first last there after known lower upper
    obtain rfl := Option.some.inj there
    obtain ⟨rfl, rfl⟩ := Prod.mk.inj (Option.some.inj known)
    refine (if_neg (by decide)).mpr fun frame lower upper => ?_
    obtain rfl : frame = 1 := Nat.le_antisymm upper lower
    decide
  · intro request isRequest waits
    obtain rfl := Option.some.inj isRequest
    cases waits

theorem visible_and_settled_corrected : (correctedPlay false).Visible secondVersion ∧
      (correctedPlay false).WaitersSettle firstByte :=
  have both := visible_and_settled firstByte secondVersion (correctedRun false)
  ⟨both.1 corrected_allowed, both.2⟩

end CorrectedPlay

end AkashicSystem.PlaylogServer
