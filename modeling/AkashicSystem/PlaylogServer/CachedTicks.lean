import AkashicSystem.Playlog.WritePaths
import AkashicSystem.PlaylogServer.TickListLengths

/-!
# Ticks of the cache and of the store

The ticks of a play, in the order of their frames, are broadcast and stored by
the store queue's consumer.  The cache is given the broadcast ones, and fills
its gaps from the store; both are asked for lists of raw ticks.
-/

set_option autoImplicit false

namespace AkashicSystem.PlaylogServer

open AkashicSystem.Js AkashicSystem.Playlog TickCache List

variable {codec : Codec} {S σ : Type}

/-- `tick[TickIndex.Frame]`, as the index of an array. -/
def frameOf (codec : Codec) (bytes : Buffer) : Option Nat :=
  match decodeTick codec.toLibrary bytes with
  | some (.array (.number frame :: _)) => some frame.toNat
  | _ => none

variable (s : ActiveStore (RawTick codec) σ)

/-- The requests to the store: `_getRawTickList` behind the check of `getRawTickList`. -/
def storeTickList (start : Nat) (stop : Int) : List Buffer :=
  if stop - start ≤ 0 then []
  else (s.getTicksRaw ⟨some start, some stop, (stop - start).toNat, false⟩).map RawTick.bytes

/-- Ticks in the order of their frames, which are natural numbers. -/
structure Broadcast (codec : Codec) where
  ticks : List (RawTick codec)
  increasing : ticks.Pairwise fun tick tick' => tick.tick.frame < tick'.tick.frame
  natural : ∀ tick ∈ ticks, 0 ≤ tick.tick.frame

namespace Broadcast

variable (play : Broadcast codec)

/-- All ticks were stored by the store queue's consumer. -/
def StoredIn (startPoint : Format S σ) (s : ActiveStore (RawTick codec) σ) : Prop :=
  WritePath.Settled startPoint (fun _ => .consumer) play.ticks s

def storedTicks : ActiveStore (RawTick codec) Unit :=
  Run.final (ActiveStore.applyPut ShortMsgpack.noStartPoints) .empty
    (WritePath.allPuts (fun _ => .consumer) play.ticks)

theorem storedIn_storedTicks : play.StoredIn ShortMsgpack.noStartPoints play.storedTicks :=
  ⟨_, Perm.refl _, rfl⟩

def storedBytes (tick : RawTick codec) : Buffer := (tick.tick.stored false).encoded

def Gapless : Prop :=
  ∀ (i : Nat) (tick : RawTick codec), play.ticks[i]? = some tick → tick.tick.frame = i

/-- Each tick that was broadcast is read from the store as it is. -/
def SurvivesStoring : Prop :=
  ∀ tick ∈ play.ticks, tick.tick.Lacks [codec.eventFlagsMask.transient] ∧
    (tick.tick.hasContent = true ∨ tick.tick.rest = [])

variable {play} {startPoint : Format S σ} {s : ActiveStore (RawTick codec) σ}

theorem distinct : (play.ticks.map fun tick => tick.tick.frame).Nodup := by
  rw [nodup_iff_pairwise_ne, pairwise_map]
  exact play.increasing.imp fun lt => ne_of_lt lt

theorem original_perm (stored : play.StoredIn startPoint s) :
    s.original.Perm (play.ticks.map fun tick =>
      (tickFormat codec).toRecord (tick.tick.stored false)) := by
  have perm := stored.ticks_perm play.distinct false
  have forms : WritePath.forms (fun _ => .consumer) play.ticks false =
      play.ticks.map fun tick => tick.tick.stored false := by
    rw [← filterMap_eq_map]
    rfl
  rw [forms, map_map] at perm
  exact perm

def within (start : Nat) (stop : Int) (ticks : List (RawTick codec)) : List (RawTick codec) :=
  ticks.filter fun tick => (start : Int) ≤ tick.tick.frame ∧ tick.tick.frame < stop

theorem length_increasing_le (numbers : List Int) (start stop : Int)
    (increasing : numbers.Pairwise (· < ·)) (inside : ∀ n ∈ numbers, start ≤ n ∧ n < stop) :
    numbers.length ≤ (stop - start).toNat := by
  induction numbers generalizing start with
  | nil => exact Nat.zero_le _
  | cons n rest ih =>
    have first := inside n mem_cons_self
    rw [pairwise_cons] at increasing
    have later := ih (n + 1) increasing.2 fun m there =>
      ⟨increasing.1 m there, (inside m (mem_cons_of_mem _ there)).2⟩
    rw [length_cons]
    omega

theorem length_within_le (start : Nat) (stop : Int) :
    (within start stop play.ticks).length ≤ (stop - start).toNat := by
  have increasing : ((within start stop play.ticks).map fun tick => tick.tick.frame).Pairwise
      (· < ·) := by
    rw [pairwise_map]
    exact play.increasing.sublist filter_sublist
  have length := length_increasing_le _ start stop increasing fun frame there => ?_
  · rw [length_map] at length
    exact length
  · obtain ⟨tick, isWithin, rfl⟩ := mem_map.mp there
    exact of_decide_eq_true (mem_filter.mp isWithin).2

theorem storeTickList_eq (stored : play.StoredIn startPoint s) (start : Nat) (stop : Int) :
    storeTickList s start stop = (within start stop play.ticks).map storedBytes := by
  unfold storeTickList
  by_cases empty : stop - start ≤ 0
  · rw [if_pos empty]
    have none : within start stop play.ticks = [] := by
      refine filter_eq_nil_iff.mpr fun tick _ range => ?_
      rw [decide_eq_true_eq] at range
      omega
    rw [none]
    rfl
  · rw [if_neg empty, ActiveStore.getTicksRaw, ActiveStore.getTicksRecords_original s rfl,
      getTicksInner_perm (original_perm stored) (stored.nodup play.distinct false)]
    have filtered : (play.ticks.map fun tick =>
        (tickFormat codec).toRecord (tick.tick.stored false)).filter (fun record =>
          ActiveStore.inRange ⟨some start, some stop, (stop - start).toNat, false⟩ record.frame) =
        (within start stop play.ticks).map fun tick =>
          (tickFormat codec).toRecord (tick.tick.stored false) := by
      rw [filter_map]
      refine congrArg _ (filter_congr fun tick _ => ?_)
      change (decide (_ ≤ _) && decide (_ < _)) = _
      rw [← Bool.decide_and]
      rfl
    have sorted : Collection.sortFrame ((within start stop play.ticks).map fun tick =>
        (tickFormat codec).toRecord (tick.tick.stored false)) =
        (within start stop play.ticks).map fun tick =>
          (tickFormat codec).toRecord (tick.tick.stored false) := by
      refine List.Pairwise.insertionSort_eq ?_
      rw [pairwise_map]
      exact (play.increasing.sublist filter_sublist).imp fun lt => le_of_lt lt
    have length := @length_within_le _ play start stop
    rw [ActiveStore.getTicksInner, filtered, sorted, Collection.applyLimit]
    have limited : (stop - start).toNat ≠ 0 := by omega
    rw [if_neg limited, take_of_length_le (by rw [length_map]; exact length)]
    rw [map_map, map_map]
    rfl

theorem within_eq_slice (ticks : List (RawTick codec)) (offset start : Nat) (stop : Int)
    (numbered : ∀ (i : Nat) (tick : RawTick codec), ticks[i]? = some tick →
      tick.tick.frame = offset + i) :
    within start stop ticks = (ticks.take (stop - offset).toNat).drop (start - offset) := by
  induction ticks generalizing offset with
  | nil => simp [within]
  | cons tick rest ih =>
    have frame : tick.tick.frame = offset := by simpa using numbered 0 tick rfl
    have later := ih (offset + 1) fun i other there => by
      have next := numbered (i + 1) other there
      push_cast at next ⊢
      omega
    unfold within at later ⊢
    by_cases inside : (start : Int) ≤ tick.tick.frame ∧ tick.tick.frame < stop
    · have length : (stop - offset).toNat = (stop - ((offset + 1 : Nat) : Int)).toNat + 1 := by
        omega
      have first : start - offset = 0 := by omega
      have first' : start - (offset + 1) = 0 := by omega
      rw [filter_cons_of_pos (by simpa using inside), later, length, first, first',
        take_succ_cons]
      rfl
    · rw [filter_cons_of_neg (by simpa using inside), later]
      by_cases before : offset < start
      · have first : start - offset = start - (offset + 1) + 1 := by omega
        by_cases after : stop ≤ offset
        · have none : (stop - offset).toNat = 0 := by omega
          have none' : (stop - ((offset + 1 : Nat) : Int)).toNat = 0 := by omega
          rw [none, none']
          simp
        · have length : (stop - offset).toNat = (stop - ((offset + 1 : Nat) : Int)).toNat + 1 := by
            omega
          rw [length, first, take_succ_cons, drop_succ_cons]
      · have none : (stop - offset).toNat = 0 := by omega
        have none' : (stop - ((offset + 1 : Nat) : Int)).toNat = 0 := by omega
        rw [none, none']
        simp

end Broadcast

inductive CacheAction (codec : Codec) where
  | add (tick : RawTick codec)
  | get (start : Nat) (stop : Int)
  | complete (request : Nat)
  | fail (request : Nat) (err : String)
  | destroy

namespace CacheAction

def reply (c : TickCache) (request : Nat) : List Buffer :=
  match c.complementings.find? fun comp => comp.request = request with
  | none => []
  | some comp => storeTickList s comp.start comp.stop

def action (c : TickCache) :
    CacheAction codec → Action
  | .add tick => .add tick.bytes
  | .get start stop => .get start stop
  | .complete request => .complete request (reply s c request)
  | .fail request err => .fail request err
  | .destroy => .destroy

def step (s : ActiveStore (RawTick codec) σ) (c : TickCache) (action : CacheAction codec) :
    TickCache := TickCache.step (frameOf codec) c (action.action s c)

/-- Only ticks of the play are consumed. -/
def Of (play : Broadcast codec) (_ : TickCache) : CacheAction codec → Prop
  | .add tick => tick ∈ play.ticks
  | _ => True

end CacheAction

namespace TickCache

/-- The lists that gets resolved with decode, frame by frame, as those of the store. -/
def Agrees (c : TickCache) : Prop :=
  ∀ get list start stop, (get, Outcome.resolved list) ∈ c.settled →
    c.gets[get]? = some (start, stop) →
    list.map (fun slot => slot.bind (decodeTick codec.toLibrary)) =
      (storeTickList s start stop).map (decodeTick codec.toLibrary)

/-- The lists are as long as there are ticks: a request covers the ranges of the gets
that wait for it. -/
structure Full (count : Nat) (c : TickCache) : Prop where
  covers : ∀ comp ∈ c.complementings, ∀ w ∈ comp.waitings, w.stop ≤ comp.stop
  resolved : ∀ get list, (get, Outcome.resolved list) ∈ c.settled →
    ∃ start stop, c.gets[get]? = some (start, stop) ∧
      (stop ≤ start + list.length ∨ count ≤ start + list.length)

def RepliesFully (count : Nat) (c : TickCache) : Action → Prop
  | .complete request reply => ∀ comp ∈ c.complementings, comp.request = request →
      comp.stop ≤ comp.start + reply.length ∨ count ≤ comp.start + reply.length
  | _ => True

variable {count : Nat} {Plays : Nat → Buffer → Prop}

theorem lengths_full (count : Nat) :
    Lengths fun start stop n => stop ≤ start + n ∨ count ≤ start + n where
  whole := by
    intro start stop n whole
    exact .inl whole
  narrower := by
    intro first stop n start stop' n' covered full reaches
    omega

theorem full_iff (c : TickCache) :
    Full count c ↔ Lists (fun start stop n => stop ≤ start + n ∨ count ≤ start + n) c :=
  ⟨fun full => ⟨full.covers, full.resolved⟩, fun lists => ⟨lists.covers, lists.resolved⟩⟩

theorem full_new : Full count new := (full_iff new).mpr lists_new

theorem full_step (decodeTick : Buffer → Option Nat) (c : TickCache) (action : Action)
    (inv : Inv Plays c) (full : Full count c) (replies : RepliesFully count c action) :
    Full count (step decodeTick c action) := by
  rw [full_iff] at full ⊢
  refine lists_step (lengths_full count) decodeTick c action inv full ?_
  cases action with
  | complete request reply =>
    intro comp there isRequest
    have fully := replies comp there isRequest
    omega
  | _ => trivial

end TickCache

namespace Broadcast

variable {play : Broadcast codec} {startPoint : Format S σ} {s : ActiveStore (RawTick codec) σ}

/-- The buffer is read as the tick that the store has of the frame. -/
def Shows (play : Broadcast codec) (frame : Nat) (raw : Buffer) : Prop :=
  ∃ tick, play.ticks[frame]? = some tick ∧
    decodeTick codec.toLibrary raw = some (tick.tick.stored false).normal.value

theorem getElem?_storeTickList (stored : play.StoredIn startPoint s) (gapless : play.Gapless)
    (start : Nat) (stop : Int) (i : Nat) : (storeTickList s start stop)[i]? =
      if (start + i : Int) < stop then (play.ticks[start + i]?).map storedBytes else none := by
  have slice := within_eq_slice play.ticks 0 start stop fun i tick there => by
    rw [gapless i tick there]
    omega
  rw [storeTickList_eq stored, slice, List.getElem?_map, List.getElem?_drop, List.getElem?_take]
  by_cases inside : (start + i : Int) < stop
  · rw [if_pos inside, if_pos (by omega), Nat.sub_zero]
  · rw [if_neg inside, if_neg (by omega)]
    rfl

theorem decode_storedBytes (tick : RawTick codec) :
    decodeTick codec.toLibrary (storedBytes tick) =
      some (tick.tick.stored false).normal.value := (tick.tick.stored false).decodeTick_encoded

section

variable (stored : play.StoredIn startPoint s)
include stored

/-- Without gaps and with nothing lost on the way to the store, what the cache is given
is what the store has. -/
theorem action_sound (gapless : play.Gapless)
    (survives : play.SurvivesStoring) (c : TickCache) (action : CacheAction codec)
    (inv : Inv (Shows play) c) (isOf : action.Of play c) :
    Sound (Shows play) (frameOf codec) c (action.action s c) ∧
      RepliesFully play.ticks.length c (action.action s c) := by
  cases action with
  | get start stop | fail request err | destroy => exact ⟨trivial, trivial⟩
  | add tick =>
    refine ⟨fun frame isFrame => ?_, trivial⟩
    obtain ⟨i, there⟩ := List.getElem?_of_mem isOf
    have number := gapless i tick there
    unfold frameOf at isFrame
    rw [tick.decodes] at isFrame
    have frameEq : tick.tick.frame.toNat = frame := Option.some.inj isFrame
    have index : frame = i := by omega
    obtain ⟨lacking, short⟩ := survives tick isOf
    refine ⟨tick, index ▸ there, ?_⟩
    have same : (tick.tick.stored false).normal = tick.tick := by
      have unchanged : tick.tick.stored false = tick.tick := Tick.without_of_lacks lacking
      rw [unchanged]
      exact (Tick.normal_eq_self_iff tick.tick).mpr short
    rw [same]
    exact tick.decodes
  | complete request =>
    have replied : ∀ comp ∈ c.complementings, comp.request = request →
        CacheAction.reply s c request = storeTickList s comp.start comp.stop := by
      intro comp there same
      unfold CacheAction.reply
      cases found : c.complementings.find? fun comp => comp.request = request with
      | none => exact absurd (decide_eq_true same) (List.find?_eq_none.mp found comp there)
      | some other =>
        obtain ⟨inCache, same'⟩ := find_request c request other found
        rw [inj_on_of_nodup_map inv.numbered inCache there (same'.trans same.symm)]
    constructor
    · intro comp there same
      rw [replied comp there same]
      constructor
      · rw [storeTickList_eq stored, length_map]
        have length := @length_within_le _ play comp.start comp.stop
        omega
      · intro i raw isRaw
        rw [getElem?_storeTickList stored gapless] at isRaw
        split at isRaw
        · obtain ⟨tick, there', rfl⟩ := Option.map_eq_some_iff.mp isRaw
          exact ⟨tick, there', decode_storedBytes tick⟩
        · cases isRaw
    · intro comp there same
      rw [replied comp there same]
      -- the last tick of the reply is the last of the range or of the play
      by_contra short
      have missing := getElem?_storeTickList stored gapless comp.start comp.stop
        (storeTickList s comp.start comp.stop).length
      rw [List.getElem?_eq_none (Nat.le_refl _), if_pos (by omega)] at missing
      have inside : comp.start + (storeTickList s comp.start comp.stop).length <
        play.ticks.length := by omega
      rw [List.getElem?_eq_getElem inside] at missing
      cases missing

theorem inv_run (gapless : play.Gapless)
    (survives : play.SurvivesStoring) (actions : List (CacheAction codec))
    (run : Run.Allowed (CacheAction.step s) (fun c action => action.Of play c) .new actions) :
    Inv (Shows play) (Run.final (CacheAction.step s) .new actions) ∧
      Full play.ticks.length (Run.final (CacheAction.step s) .new actions) := by
  refine @Run.invariant _ _ (CacheAction.step s) (fun c action => action.Of play c)
    (fun c => Inv (Shows play) c ∧ Full play.ticks.length c)
    (fun c action inv isOf => ?_) .new actions ⟨inv_new, full_new⟩ run
  obtain ⟨sound, replies⟩ := action_sound stored gapless survives c action inv.1 isOf
  exact ⟨TickCache.inv_step (frameOf codec) c _ inv.1 sound,
    TickCache.full_step (frameOf codec) c _ inv.1 inv.2 replies⟩

theorem agrees_of_inv (gapless : play.Gapless) (c : TickCache) (inv : Inv (Shows play) c)
    (full : Full play.ticks.length c) : Agrees s c := by
  intro get list start stop settled asked
  obtain ⟨start', stop', asked', below, shows⟩ := inv.resolved get list settled
  obtain ⟨start'', stop'', asked'', long⟩ := full.resolved get list settled
  obtain ⟨rfl, rfl⟩ := Prod.mk.inj (Option.some.inj (asked'.symm.trans asked))
  obtain ⟨rfl, rfl⟩ := Prod.mk.inj (Option.some.inj (asked''.symm.trans asked))
  refine ext_getElem? fun i => ?_
  rw [List.getElem?_map, List.getElem?_map, getElem?_storeTickList stored gapless]
  by_cases inside : i < list.length
  · obtain ⟨raw, here, tick, there, decodes⟩ := shows i inside
    have bound := below (ne_nil_of_length_pos (by omega))
    rw [here, if_pos (by omega), there]
    exact congrArg some (decodes.trans (decode_storedBytes tick).symm)
  · rw [List.getElem?_eq_none (by omega)]
    split
    · rw [List.getElem?_eq_none (by omega)]
      rfl
    · rfl

end

theorem add_here (c : TickCache) (alive : c.destroyed = false) (decodeTick : Buffer → Option Nat)
    (raw : Buffer) (frame : Nat) (decodes : decodeTick raw = some frame) :
    (c.add decodeTick raw).ticks.at? frame = some raw ∧ (c.add decodeTick raw).destroyed = false ∧
      (c.add decodeTick raw).gets = c.gets ∧ (c.add decodeTick raw).settled = c.settled := by
  unfold add
  rw [alive, if_neg Bool.false_ne_true, decodes]
  dsimp only
  by_cases missing : frame ≠ 0 ∧ (c.ticks.at? (frame - 1)).isNone
  · rw [if_pos missing]
    exact ⟨by rw [SparseArray.at?_put, if_pos rfl], alive, rfl, rfl⟩
  · rw [if_neg missing]
    exact ⟨by rw [SparseArray.at?_put, if_pos rfl], alive, rfl, rfl⟩

theorem get_cached (c : TickCache) (alive : c.destroyed = false) (frame : Nat) (raw : Buffer)
    (here : c.ticks.at? frame = some raw) : c.get frame (frame + 1) = { c with
      gets := c.gets ++ [(frame, (frame : Int) + 1)]
      settled := c.settled ++ [(c.gets.length, .resolved [some raw])] } := by
  have slice : c.ticks.slice frame (frame + 1) = [some raw] := by
    have at0 : c.ticks[frame]? = some (some raw) := Option.join_eq_some_iff.mp here
    refine ext_getElem? fun i => ?_
    rw [SparseArray.getElem?_slice]
    cases i with
    | zero =>
      rw [if_pos (by omega), Nat.add_zero, at0]
      rfl
    | succ i =>
      rw [if_neg (by omega)]
      rfl
  have positive : ¬ ((frame : Int) + 1 - frame ≤ 0) := by omega
  have stop : ((frame : Int) + 1).toNat = frame + 1 := by omega
  have length : frame + 1 - frame = 1 := by omega
  have cached : TickCache.firstMissing [some raw] 0 1 = none := rfl
  simp only [TickCache.get, alive, Bool.false_eq_true, if_false, positive, stop, slice, length,
    cached, TickCache.settle]

theorem agrees_cached (c : TickCache) (alive : c.destroyed = false) (frame : Nat) (raw : Buffer)
    (here : c.ticks.at? frame = some raw) (agrees : Agrees s (c.get frame (frame + 1))) :
    [decodeTick codec.toLibrary raw] =
      (storeTickList s frame (frame + 1)).map (decodeTick codec.toLibrary) := by
  rw [get_cached c alive frame raw here] at agrees
  exact agrees c.gets.length [some raw] frame (frame + 1)
    (mem_append_right _ mem_cons_self) List.getElem?_concat_length

theorem singleton_of_mem {α : Type} {list : List α} {a : α} (there : a ∈ list)
    (short : list.length ≤ 1) : list = [a] := by
  obtain ⟨b, rfl⟩ := length_eq_one_iff.mp
    (Nat.le_antisymm short (length_pos_of_mem there))
  rw [mem_singleton.mp there]

theorem survives_of_agrees (stored : play.StoredIn startPoint s) (tick : RawTick codec)
    (there : tick ∈ play.ticks) (agrees : Agrees s (Run.final (CacheAction.step s) .new
      [.add tick, .get tick.tick.frame.toNat (tick.tick.frame.toNat + 1)])) :
    tick.tick.Lacks [codec.eventFlagsMask.transient] ∧
      (tick.tick.hasContent = true ∨ tick.tick.rest = []) := by
  have natural := play.natural tick there
  have isFrame : frameOf codec tick.bytes = some tick.tick.frame.toNat := by
    rw [frameOf, tick.decodes]
    rfl
  obtain ⟨here, alive, -, -⟩ := add_here .new rfl (frameOf codec) tick.bytes _ isFrame
  have same := agrees_cached _ alive _ tick.bytes here agrees
  have only : within tick.tick.frame.toNat ((tick.tick.frame.toNat : Int) + 1) play.ticks =
      [tick] := by
    have length := @length_within_le _ play tick.tick.frame.toNat (tick.tick.frame.toNat + 1)
    have isWithin : tick ∈ within tick.tick.frame.toNat ((tick.tick.frame.toNat : Int) + 1)
        play.ticks := by
      refine mem_filter.mpr ⟨there, decide_eq_true ?_⟩
      omega
    exact singleton_of_mem isWithin (by omega)
  rw [storeTickList_eq stored, only, map_singleton, map_singleton, decode_storedBytes,
    tick.decodes] at same
  have values := Option.some.inj (head_eq_of_cons_eq same)
  have reads : tick.tick = (tick.tick.stored false).normal := Tick.value_inj values
  have lacking : tick.tick.Lacks [codec.eventFlagsMask.transient] := by
    refine (Tick.normal_without_eq_iff _ _).mp ?_
    calc (tick.tick.without [codec.eventFlagsMask.transient]).normal
        = (tick.tick.stored false).normal.normal := (Tick.normal_normal _).symm
      _ = tick.tick.normal := by rw [← reads]
  refine ⟨lacking, (Tick.normal_eq_self_iff _).mp ?_⟩
  have unchanged : tick.tick.stored false = tick.tick := Tick.without_of_lacks lacking
  rw [unchanged] at reads
  exact reads.symm

theorem cached_of_reply (start stop : Nat) (nonempty : start < stop) (raw : Buffer)
    (first : (storeTickList s start stop)[0]? = some raw) :
    let c := Run.final (CacheAction.step s) new
      [(.get start stop : CacheAction codec), .complete 0]
    c.destroyed = false ∧ c.ticks.at? start = some raw := by
  have positive : ¬ ((stop : Int) - start ≤ 0) := by omega
  have length : ∃ n, stop - start = n + 1 := ⟨stop - start - 1, by omega⟩
  obtain ⟨n, length⟩ := length
  have slice : SparseArray.slice [] start stop = [] := by simp [SparseArray.slice]
  have missing : firstMissing [] 0 (n + 1) = some 0 := rfl
  have asked : new.get start stop =
      { new with
        complementings := [⟨0, start, stop, [⟨0, start, stop⟩]⟩]
        requests := [(start, stop)]
        gets := [(start, stop)] } := by
    simp only [TickCache.get, TickCache.new, Bool.false_eq_true, if_false, positive,
      Int.toNat_natCast, slice, length, missing]
    rfl
  have written := TickCache.at?_putAll (storeTickList s start stop) [] start start
  have long : 0 < (storeTickList s start stop).length :=
    length_pos_of_mem (mem_of_getElem? first)
  rw [if_pos (by omega), Nat.sub_self, first] at written
  have final : Run.final (CacheAction.step s) new
      [(.get start stop : CacheAction codec), .complete 0] =
      CacheAction.step s (TickCache.new.get start stop) (.complete 0) := rfl
  rw [final, asked]
  exact ⟨rfl, written⟩

/-- The first frame behind a gap: asked for together with the gap, it is cached in the
place of a frame that the play does not have. -/
theorem gapless_of_agrees (stored : play.StoredIn startPoint s)
    (agrees : ∀ actions : List (CacheAction codec),
      Run.Allowed (CacheAction.step s) (fun c action => action.Of play c) .new actions →
      Agrees s (Run.final (CacheAction.step s) .new actions)) : play.Gapless := by
  intro i
  induction i using Nat.strongRecOn with
  | _ i ih =>
    intro tick there
    by_contra gap
    have natural := play.natural tick (mem_of_getElem? there)
    have ordered : ∀ (j k : Nat) (a b : RawTick codec), j < k → play.ticks[j]? = some a →
        play.ticks[k]? = some b → a.tick.frame < b.tick.frame := by
      intro j k a b lt at_j at_k
      obtain ⟨inside, rfl⟩ := List.getElem?_eq_some_iff.mp at_j
      obtain ⟨inside', rfl⟩ := List.getElem?_eq_some_iff.mp at_k
      exact pairwise_iff_getElem.mp play.increasing j k inside inside' lt
    have behind : (i : Int) < tick.tick.frame := by
      have inside := (List.getElem?_eq_some_iff.mp there).1
      cases i with
      | zero => omega
      | succ j =>
        have before : play.ticks[j]? = some play.ticks[j] :=
          List.getElem?_eq_getElem (by omega)
        have number := ih j (by omega) _ before
        have lt := ordered j (j + 1) _ _ (by omega) before there
        omega
    have none : within i ((i : Int) + 1) play.ticks = [] := by
      refine filter_eq_nil_iff.mpr fun other isOther range => ?_
      rw [decide_eq_true_eq] at range
      obtain ⟨j, at_j⟩ := List.getElem?_of_mem isOther
      rcases Nat.lt_trichotomy j i with lt | rfl | gt
      · have number := ih j lt other at_j
        omega
      · rw [Option.some.inj (at_j.symm.trans there)] at range
        omega
      · have lt := ordered i j tick other gt there at_j
        omega
    have isWithin : tick ∈ within i ((tick.tick.frame.toNat + 1 : Nat) : Int) play.ticks := by
      refine mem_filter.mpr ⟨mem_of_getElem? there, decide_eq_true ?_⟩
      omega
    have first : ∃ raw, (storeTickList s i ((tick.tick.frame.toNat + 1 : Nat) : Int))[0]? =
        some raw := by
      rw [storeTickList_eq stored]
      refine ⟨_, List.getElem?_eq_getElem ?_⟩
      rw [length_map]
      exact length_pos_of_mem isWithin
    obtain ⟨raw, first⟩ := first
    obtain ⟨alive, cached⟩ := cached_of_reply i (tick.tick.frame.toNat + 1) (by omega) raw first
    have run := agrees [.get i ((tick.tick.frame.toNat + 1 : Nat) : Int), .complete 0,
      .get i ((i : Int) + 1)] ⟨trivial, trivial, trivial, trivial⟩
    have same := agrees_cached _ alive i raw cached run
    rw [storeTickList_eq stored, none] at same
    cases same

/-- The cache agrees with the store in every run exactly if the frames of the play have no
gap and no tick is changed on its way to the store. -/
theorem agrees_iff (stored : play.StoredIn startPoint s) : (∀ actions : List (CacheAction codec),
      Run.Allowed (CacheAction.step s) (fun c action => action.Of play c) .new actions →
      Agrees s (Run.final (CacheAction.step s) .new actions)) ↔
      play.Gapless ∧ play.SurvivesStoring := by
  constructor
  · intro agrees
    refine ⟨gapless_of_agrees stored agrees, fun tick there => ?_⟩
    exact survives_of_agrees stored tick there (agrees _ ⟨there, trivial, trivial⟩)
  · rintro ⟨gapless, survives⟩ actions run
    obtain ⟨inv, full⟩ := inv_run stored gapless survives actions run
    exact agrees_of_inv stored gapless _ inv full

open ShortMsgpack

theorem zero_small : 0 ≤ (0 : Int) ∧ (0 : Int) < 128 := by decide

theorem four_small : 0 ≤ (4 : Int) ∧ (4 : Int) < 128 := by decide

def transientTick : Broadcast ShortMsgpack.codec where
  ticks := [eventTick 0 4 zero_small four_small]
  increasing := pairwise_singleton _ _
  natural := by
    intro tick there
    rw [mem_singleton.mp there]
    exact Int.le_refl 0

def consumedTick : List (CacheAction ShortMsgpack.codec) :=
  [.add (eventTick 0 4 zero_small four_small), .get 0 1]

theorem consumedTick_disagrees : Run.Allowed (CacheAction.step transientTick.storedTicks)
      (fun c action => action.Of transientTick c) .new consumedTick ∧
    transientTick.StoredIn noStartPoints transientTick.storedTicks ∧
    ¬ Agrees transientTick.storedTicks
      (Run.final (CacheAction.step transientTick.storedTicks) .new consumedTick) := by
  refine ⟨⟨mem_cons_self, trivial, trivial⟩, storedIn_storedTicks transientTick, ?_⟩
  intro agrees
  have lists := agrees 0 [some (eventTick 0 4 zero_small four_small).bytes] 0 1
    mem_cons_self rfl
  have events := congrArg (map fun value : Option Value => value.map fun value =>
    (value.index 1).toOption.join.isSome) lists
  revert events
  decide +kernel

theorem one_small : 0 ≤ (1 : Int) ∧ (1 : Int) < 128 := by decide

theorem emptyTicks_increasing : [emptyTick 0 zero_small, emptyTick 1 one_small].Pairwise
      fun tick tick' => tick.tick.frame < tick'.tick.frame :=
  pairwise_pair.mpr Int.zero_lt_one

theorem emptyTicks_natural (tick : RawTick ShortMsgpack.codec)
    (there : tick ∈ [emptyTick 0 zero_small, emptyTick 1 one_small]) : 0 ≤ tick.tick.frame := by
  rcases mem_cons.mp there with rfl | there
  · exact Int.le_refl 0
  · rw [mem_singleton.mp there]
    exact Int.one_nonneg

def emptyTicks : Broadcast ShortMsgpack.codec where
  ticks := [emptyTick 0 zero_small, emptyTick 1 one_small]
  increasing := emptyTicks_increasing
  natural := emptyTicks_natural

theorem emptyTicks_agree : Agrees emptyTicks.storedTicks
    (Run.final (CacheAction.step emptyTicks.storedTicks) .new
      [.add (emptyTick 0 zero_small), .get 0 2]) := by
  refine (agrees_iff (storedIn_storedTicks emptyTicks)).mpr ⟨fun i tick there => ?_, ?_⟩ _
    ⟨mem_cons_self, trivial, trivial⟩
  · match i, there with
    | 0, there =>
      cases there
      rfl
    | 1, there =>
      cases there
      rfl
  · intro tick there
    rcases mem_cons.mp there with rfl | there
    · exact ⟨fun _ event => (not_mem_nil event).elim, .inr rfl⟩
    · rw [mem_singleton.mp there]
      exact ⟨fun _ event => (not_mem_nil event).elim, .inr rfl⟩

end Broadcast
end AkashicSystem.PlaylogServer
