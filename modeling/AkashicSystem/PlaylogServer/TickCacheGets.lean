import AkashicSystem.PlaylogServer.TickCache
import Mathlib.Data.List.Perm.Basic
import Mathlib.Data.List.Nodup

/-!
# Gets of the tick cache

A get is settled once: it is logged as settled or it waits at one request, never
both (`Inv.once`).  A list it resolves with has no hole, since the frames before
the request were cached when it began to wait and nothing leaves the cache
(`Inv.waits`).
-/

set_option autoImplicit false

namespace AkashicSystem.PlaylogServer

open AkashicSystem.Js Complementing

namespace SparseArray

section

variable (ticks : SparseArray)
include ticks

theorem at?_append_holes (n i : Nat) : at? (ticks ++ List.replicate n none) i = ticks.at? i := by
  rw [at?, at?, List.getElem?_append]
  by_cases inside : i < ticks.length
  · rw [if_pos inside]
  · rw [if_neg inside, List.getElem?_replicate, List.getElem?_eq_none (Nat.le_of_not_lt inside)]
    split <;> rfl

theorem at?_put (i j : Nat) (value : Buffer) :
    (ticks.put i value).at? j = if j = i then some value else ticks.at? j := by
  by_cases same : j = i
  · subst same
    rw [if_pos rfl, put, at?, List.getElem?_set_self (by simp; omega)]
    rfl
  · rw [if_neg same, put, at?, List.getElem?_set_ne (Ne.symm same)]
    exact at?_append_holes ticks _ j

theorem getElem?_slice (start stop i : Nat) :
    (ticks.slice start stop)[i]? = if start + i < stop then ticks[start + i]? else none := by
  rw [slice, List.getElem?_drop, List.getElem?_take]

theorem length_slice_le (start stop : Nat) : (ticks.slice start stop).length ≤ stop - start := by
  rw [slice, List.length_drop, List.length_take]
  omega

theorem at?_slice (start stop i : Nat) (inside : start + i < stop) :
    (ticks.slice start stop).at? i = ticks.at? (start + i) := by
  rw [at?, getElem?_slice, if_pos inside, at?]

end

end SparseArray

namespace TickCache

open List (count_append length_append length_singleton map_append map_cons map_map map_nil
  mem_append mem_cons mem_map mem_singleton not_mem_nil)

variable (Plays : Nat → Buffer → Prop)

/-- A hole-free run of the play's ticks from a frame, below another. -/
structure HoleFree (start : Nat) (stop : Int) (ticks : SparseArray) : Prop where
  below : ticks ≠ [] → start + ticks.length ≤ stop
  ticks : ∀ i, i < ticks.length → ∃ raw, ticks[i]? = some (some raw) ∧ Plays (start + i) raw

/-- The ticks added are the play's, and the reply to a request is the run of
the play's ticks from its first frame. -/
def Sound (decodeTick : Buffer → Option Nat) (c : TickCache) : Action → Prop
  | .add rawTick => ∀ frame, decodeTick rawTick = some frame → Plays frame rawTick
  | .complete request reply =>
    ∀ comp ∈ c.complementings, comp.request = request →
      reply.length ≤ comp.stop - comp.start ∧
        ∀ i raw, reply[i]? = some raw → Plays (comp.start + i) raw
  | _ => True

def settlements (c : TickCache) (get : Nat) : Nat := (c.settled.map Prod.fst).count get

def allWaitings (c : TickCache) : List Waiting := c.complementings.flatMap waitings

def waits (c : TickCache) (get : Nat) : Nat := (c.allWaitings.map Waiting.get).count get

structure Inv (c : TickCache) : Prop where
  cached : ∀ frame raw, c.ticks.at? frame = some raw → Plays frame raw
  waits : ∀ comp ∈ c.complementings, ∀ w ∈ comp.waitings,
    c.gets[w.get]? = some (w.start, (w.stop : Int)) ∧
      ∀ i, w.start ≤ i → i < comp.start → (c.ticks.at? i).isSome
  numbered : (c.complementings.map request).Nodup
  known : ∀ comp ∈ c.complementings, comp.request < c.requests.length
  once : ∀ get, c.settlements get + c.waits get = if get < c.gets.length then 1 else 0
  gone : c.destroyed = true → c.complementings = []
  resolved : ∀ get ticks, (get, Outcome.resolved ticks) ∈ c.settled →
    ∃ start stop, c.gets[get]? = some (start, stop) ∧ HoleFree Plays start stop ticks

variable {Plays}

theorem inv_new : Inv Plays new where
  cached := fun _ _ there => nomatch there
  waits := fun _ there => (not_mem_nil there).elim
  numbered := List.nodup_nil
  known := fun _ there => (not_mem_nil there).elim
  once := fun _ => rfl
  gone := fun _ => rfl
  resolved := fun _ _ there => (not_mem_nil there).elim

variable (ticks : SparseArray)

theorem holeFree_slice (start stop : Nat) (limit : Int)
    (cached : ∀ frame raw, ticks.at? frame = some raw → Plays frame raw)
    (present : ∀ i, start ≤ i → i < stop → (ticks.at? i).isSome) (below : (stop : Int) ≤ limit) :
    HoleFree Plays start limit (ticks.slice start stop) := by
  have short := SparseArray.length_slice_le ticks start stop
  refine ⟨fun nonempty => ?_, fun i inside => ?_⟩
  · have pos := List.length_pos_of_ne_nil nonempty
    omega
  · obtain ⟨raw, there⟩ := Option.isSome_iff_exists.mp (present (start + i) (by omega) (by omega))
    refine ⟨raw, ?_, cached _ raw there⟩
    rw [SparseArray.getElem?_slice, if_pos (by omega)]
    exact Option.join_eq_some_iff.mp there

theorem at?_putAll (reply : List Buffer) (ticks : SparseArray) (start frame : Nat) :
    (putAll ticks start reply).at? frame =
      if start ≤ frame ∧ frame < start + reply.length then reply[frame - start]?
      else ticks.at? frame := by
  induction reply generalizing ticks start with
  | nil =>
    rw [putAll, if_neg]
    rw [List.length_nil]
    omega
  | cons tick rest ih =>
    rw [putAll, ih, SparseArray.at?_put, List.length_cons]
    by_cases first : frame = start
    · subst first
      rw [if_neg (by omega), if_pos rfl, if_pos (by omega), Nat.sub_self]
      rfl
    · by_cases later : start + 1 ≤ frame ∧ frame < start + 1 + rest.length
      · have skip : frame - start = (frame - (start + 1)) + 1 := by omega
        rw [if_pos later, if_pos (by omega), skip, List.getElem?_cons_succ]
      · rw [if_neg later, if_neg first, if_neg (by omega)]

theorem firstMissing_none (i n : Nat) (h : firstMissing ticks i n = none) :
    ∀ j, i ≤ j → j < i + n → (ticks.at? j).isSome := by
  induction n generalizing i with
  | zero =>
    intro j lower upper
    omega
  | succ n ih =>
    rw [firstMissing] at h
    cases here : ticks.at? i with
    | none =>
      rw [here] at h
      cases h
    | some raw =>
      rw [here, Option.isNone_some, if_neg Bool.false_ne_true] at h
      intro j lower upper
      rcases Nat.eq_or_lt_of_le lower with rfl | after
      · rw [here]
        rfl
      · exact ih (i + 1) h j after (by omega)

theorem firstMissing_some (i n missing : Nat)
    (h : firstMissing ticks i n = some missing) :
    missing < i + n ∧ ∀ j, i ≤ j → j < missing → (ticks.at? j).isSome := by
  induction n generalizing i with
  | zero => cases h
  | succ n ih =>
    rw [firstMissing] at h
    cases here : ticks.at? i with
    | none =>
      rw [here] at h
      obtain rfl : i = missing := Option.some.inj h
      refine ⟨by omega, ?_⟩
      intro j lower upper
      omega
    | some raw =>
      rw [here, Option.isNone_some, if_neg Bool.false_ne_true] at h
      obtain ⟨bound, before⟩ := ih (i + 1) h
      refine ⟨by omega, ?_⟩
      intro j lower upper
      rcases Nat.eq_or_lt_of_le lower with rfl | after
      · rw [here]
        rfl
      · exact before j after upper

theorem settlements_settle (c : TickCache) (number get : Nat) (outcome : Outcome) :
    (c.settle number outcome).settlements get =
      c.settlements get + if number = get then 1 else 0 := by
  rw [settlements, settle, map_append, count_append, ← settlements]
  simp only [map_cons, map_nil, List.count_cons, List.count_nil, beq_iff_eq, Nat.zero_add]

theorem settlements_settleAll (c : TickCache) (waitings : List Waiting)
    (outcome : Waiting → Outcome) (get : Nat) : (c.settleAll waitings outcome).settlements get =
      c.settlements get + (waitings.map Waiting.get).count get := by
  rw [settlements, settleAll, map_append, count_append, ← settlements, map_map]
  rfl

theorem perm_of_mem (complementings : List Complementing) (comp : Complementing)
    (numbered : (complementings.map request).Nodup) (there : comp ∈ complementings) :
    complementings.Perm
      (comp :: complementings.filter fun other => other.request ≠ comp.request) := by
  induction complementings with
  | nil => exact (not_mem_nil there).elim
  | cons head rest ih =>
    rw [map_cons, List.nodup_cons] at numbered
    obtain ⟨fresh, numbered⟩ := numbered
    rcases mem_cons.mp there with rfl | there
    · have others : ∀ other ∈ rest, other.request ≠ comp.request := by
        intro other inRest same
        exact fresh (mem_map.mpr ⟨other, inRest, same⟩)
      rw [List.filter_cons_of_neg (by simp), List.filter_eq_self.mpr]
      intro other inRest
      exact decide_eq_true (others other inRest)
    · have different : head.request ≠ comp.request := by
        intro same
        exact fresh (mem_map.mpr ⟨comp, there, same.symm⟩)
      rw [List.filter_cons_of_pos (by simpa using different)]
      exact ((ih numbered there).cons head).trans (List.Perm.swap _ _ _)

theorem waits_perm (complementings others : List Complementing)
    (perm : complementings.Perm others) (get : Nat) :
    ((complementings.flatMap waitings).map Waiting.get).count get =
      ((others.flatMap waitings).map Waiting.get).count get :=
  ((perm.flatMap_right _).map _).count_eq get

theorem waits_remove (c : TickCache) (comp : Complementing) (get : Nat)
    (numbered : (c.complementings.map request).Nodup)
    (there : comp ∈ c.complementings) : c.waits get = (comp.waitings.map Waiting.get).count get +
      (c.removeComplementing comp.request).waits get := by
  have perm := perm_of_mem c.complementings comp numbered there
  rw [waits, allWaitings, waits_perm _ _ perm, List.flatMap_cons, map_append,
    count_append]
  rfl

theorem waits_join (c : TickCache) (comp : Complementing) (w : Waiting) (get : Nat)
    (numbered : (c.complementings.map request).Nodup)
    (there : comp ∈ c.complementings) : (c.joinComplementing comp.request w).waits get =
      c.waits get + if w.get = get then 1 else 0 := by
  have perm := perm_of_mem c.complementings comp numbered there
  have joined := perm.map fun other : Complementing =>
    if other.request = comp.request then { other with waitings := other.waitings ++ [w] } else other
  have others : ∀ other ∈ c.complementings.filter (fun other => other.request ≠ comp.request),
      (if other.request = comp.request then { other with waitings := other.waitings ++ [w] }
        else other) = other := by
    intro other inOthers
    exact if_neg (of_decide_eq_true (List.mem_filter.mp inOthers).2)
  rw [map_cons, if_pos rfl, List.map_congr_left others, List.map_id'] at joined
  rw [waits, allWaitings, waits, allWaitings, joinComplementing, waits_perm _ _ joined,
    waits_perm _ _ perm]
  simp only [List.flatMap_cons, map_append, count_append, map_cons, map_nil,
    List.count_cons, List.count_nil, beq_iff_eq]
  omega

theorem waits_startComplement (c : TickCache) (start stop : Nat) (waitings : List Waiting)
    (get : Nat) : (c.startComplement start stop waitings).waits get =
      c.waits get + (waitings.map Waiting.get).count get := by
  rw [waits, allWaitings, startComplement, List.flatMap_append, map_append,
    count_append, ← allWaitings, ← waits, List.flatMap_singleton]

theorem present_put (i j : Nat) (value : Buffer)
    (present : (ticks.at? j).isSome) : ((ticks.put i value).at? j).isSome := by
  rw [SparseArray.at?_put]
  split
  · rfl
  · exact present

theorem numbered_startComplement (c : TickCache) (start stop : Nat) (waitings : List Waiting)
    (numbered : (c.complementings.map request).Nodup)
    (known : ∀ comp ∈ c.complementings, comp.request < c.requests.length) :
    ((c.startComplement start stop waitings).complementings.map request).Nodup ∧
      ∀ comp ∈ (c.startComplement start stop waitings).complementings,
        comp.request < (c.startComplement start stop waitings).requests.length := by
  constructor
  · rw [startComplement, map_append, List.map_singleton]
    refine numbered.append (List.nodup_singleton _) ?_
    intro request there new
    obtain ⟨comp, inCache, rfl⟩ := mem_map.mp there
    have number : comp.request = c.requests.length := mem_singleton.mp new
    have bound := known comp inCache
    omega
  · intro comp there
    rw [startComplement, length_append, length_singleton]
    rcases mem_append.mp there with there | there
    · have bound := known comp there
      omega
    · obtain rfl := mem_singleton.mp there
      exact Nat.lt_succ_self _

theorem inv_startComplement (c : TickCache) (start stop : Nat) (alive : c.destroyed = false)
    (inv : Inv Plays c) : Inv Plays (c.startComplement start stop []) where
  cached := inv.cached
  waits := by
    intro comp there w waiting
    rcases mem_append.mp there with there | there
    · exact inv.waits comp there w waiting
    · obtain rfl := mem_singleton.mp there
      exact (not_mem_nil waiting).elim
  numbered := (numbered_startComplement c start stop [] inv.numbered inv.known).1
  known := (numbered_startComplement c start stop [] inv.numbered inv.known).2
  once := by
    intro get
    have before := inv.once get
    rw [waits_startComplement]
    exact before
  gone := fun dead => absurd (alive.symm.trans dead) Bool.false_ne_true
  resolved := inv.resolved

theorem inv_put (c : TickCache) (frame : Nat) (raw : Buffer) (plays : Plays frame raw)
    (inv : Inv Plays c) : Inv Plays { c with ticks := c.ticks.put frame raw } where
  cached := by
    intro other value there
    rw [SparseArray.at?_put] at there
    split at there
    · rename_i same
      obtain rfl : raw = value := Option.some.inj there
      rw [same]
      exact plays
    · exact inv.cached other value there
  waits := by
    intro comp there w waiting
    obtain ⟨asked, present⟩ := inv.waits comp there w waiting
    exact ⟨asked, fun i lower upper => present_put _ _ _ _ (present i lower upper)⟩
  numbered := inv.numbered
  known := inv.known
  once := inv.once
  gone := inv.gone
  resolved := inv.resolved

theorem inv_add (decodeTick : Buffer → Option Nat) (c : TickCache) (rawTick : Buffer)
    (inv : Inv Plays c) (sound : ∀ frame, decodeTick rawTick = some frame → Plays frame rawTick) :
    Inv Plays (c.add decodeTick rawTick) := by
  rw [add]
  cases alive : c.destroyed with
  | true => exact inv
  | false =>
    rw [if_neg Bool.false_ne_true]
    cases decoded : decodeTick rawTick with
    | none => exact inv
    | some frame =>
      dsimp only
      split
      · exact inv_put _ frame rawTick (sound frame decoded)
          (inv_startComplement c _ _ alive inv)
      · exact inv_put c frame rawTick (sound frame decoded) inv

theorem inv_settle_new (c : TickCache) (start : Nat) (stop : Int) (outcome : Outcome)
    (inv : Inv Plays c)
    (good : ∀ ticks, outcome = .resolved ticks → HoleFree Plays start stop ticks) :
    Inv Plays ({ c with gets := c.gets ++ [(start, stop)] }.settle c.gets.length outcome) where
  cached := inv.cached
  waits := by
    intro comp there w waiting
    obtain ⟨asked, present⟩ := inv.waits comp there w waiting
    refine ⟨?_, present⟩
    exact (List.getElem?_append_left (List.getElem?_eq_some_iff.mp asked).1).trans asked
  numbered := inv.numbered
  known := inv.known
  once := by
    intro get
    have before := inv.once get
    rw [settlements_settle]
    change c.settlements get + _ + c.waits get = if get < (c.gets ++ [(start, stop)]).length then 1
      else 0
    rw [length_append, length_singleton]
    split_ifs at before ⊢ <;> omega
  gone := inv.gone
  resolved := by
    intro get ticks there
    rcases mem_append.mp there with there | there
    · obtain ⟨start', stop', asked, holeFree⟩ := inv.resolved get ticks there
      refine ⟨start', stop', ?_, holeFree⟩
      exact (List.getElem?_append_left (List.getElem?_eq_some_iff.mp asked).1).trans asked
    · obtain ⟨rfl, resolved⟩ := Prod.mk.inj (mem_singleton.mp there)
      exact ⟨start, stop, List.getElem?_concat_length, good ticks resolved.symm⟩

theorem inv_join (c : TickCache) (comp : Complementing) (start stop : Nat) (inv : Inv Plays c)
    (there : comp ∈ c.complementings)
    (present : ∀ i, start ≤ i → i < comp.start → (c.ticks.at? i).isSome) :
    Inv Plays ({ c with gets := c.gets ++ [(start, (stop : Int))] }.joinComplementing comp.request
      ⟨c.gets.length, start, stop⟩) where
  cached := inv.cached
  waits := by
    intro other joined w waiting
    obtain ⟨before, inCache, rfl⟩ := mem_map.mp joined
    have old : ∀ w ∈ before.waitings,
        (c.gets ++ [(start, (stop : Int))])[w.get]? = some (w.start, (w.stop : Int)) ∧
          ∀ i, w.start ≤ i → i < before.start → (c.ticks.at? i).isSome := by
      intro w waiting
      obtain ⟨asked, present⟩ := inv.waits before inCache w waiting
      exact ⟨(List.getElem?_append_left (List.getElem?_eq_some_iff.mp asked).1).trans asked,
        present⟩
    by_cases same : before.request = comp.request
    · rw [if_pos same] at waiting ⊢
      rcases mem_append.mp waiting with waiting | waiting
      · exact old w waiting
      · obtain rfl := mem_singleton.mp waiting
        obtain rfl : before = comp := List.inj_on_of_nodup_map inv.numbered inCache there same
        exact ⟨List.getElem?_concat_length, present⟩
    · rw [if_neg same] at waiting ⊢
      exact old w waiting
  numbered := by
    have same : ∀ other : Complementing, (if other.request = comp.request then
        { other with waitings := other.waitings ++ [⟨c.gets.length, start, stop⟩] }
        else other).request = other.request := by
      intro other
      split <;> rfl
    rw [joinComplementing, map_map]
    exact (List.map_congr_left fun other _ => same other).symm ▸ inv.numbered
  known := by
    intro other joined
    obtain ⟨before, inCache, rfl⟩ := mem_map.mp joined
    have bound := inv.known before inCache
    split <;> exact bound
  once := by
    intro get
    have before := inv.once get
    have joined := waits_join c comp ⟨c.gets.length, start, stop⟩ get inv.numbered there
    change c.settlements get + (c.joinComplementing comp.request _).waits get =
      if get < (c.gets ++ [(start, (stop : Int))]).length then 1 else 0
    rw [joined, length_append, length_singleton]
    dsimp only
    split_ifs at before ⊢ <;> omega
  gone := by
    intro dead
    rw [joinComplementing]
    dsimp only
    rw [inv.gone dead]
    rfl
  resolved := by
    intro get ticks settled
    obtain ⟨start', stop', asked, holeFree⟩ := inv.resolved get ticks settled
    exact ⟨start', stop',
      (List.getElem?_append_left (List.getElem?_eq_some_iff.mp asked).1).trans asked, holeFree⟩

theorem inv_start (c : TickCache) (first start stop : Nat) (alive : c.destroyed = false)
    (inv : Inv Plays c) (present : ∀ i, start ≤ i → i < first → (c.ticks.at? i).isSome) :
    Inv Plays ({ c with gets := c.gets ++ [(start, (stop : Int))] }.startComplement first stop
      [⟨c.gets.length, start, stop⟩]) where
  cached := inv.cached
  waits := by
    intro comp there w waiting
    rcases mem_append.mp there with there | there
    · obtain ⟨asked, present⟩ := inv.waits comp there w waiting
      exact ⟨(List.getElem?_append_left (List.getElem?_eq_some_iff.mp asked).1).trans asked,
        present⟩
    · obtain rfl := mem_singleton.mp there
      obtain rfl := mem_singleton.mp waiting
      exact ⟨List.getElem?_concat_length, present⟩
  numbered := (numbered_startComplement c first stop _ inv.numbered inv.known).1
  known := (numbered_startComplement c first stop _ inv.numbered inv.known).2
  once := by
    intro get
    have before := inv.once get
    have started := waits_startComplement c first stop [⟨c.gets.length, start, stop⟩] get
    rw [List.map_singleton, List.count_singleton, beq_eq_decide] at started
    change c.settlements get + (c.startComplement first stop _).waits get =
      if get < (c.gets ++ [(start, (stop : Int))]).length then 1 else 0
    rw [started, length_append, length_singleton]
    simp only [decide_eq_true_eq]
    split_ifs at before ⊢ <;> omega
  gone := fun dead => absurd (alive.symm.trans dead) Bool.false_ne_true
  resolved := by
    intro get ticks settled
    obtain ⟨start', stop', asked, holeFree⟩ := inv.resolved get ticks settled
    exact ⟨start', stop',
      (List.getElem?_append_left (List.getElem?_eq_some_iff.mp asked).1).trans asked, holeFree⟩

theorem find_covering (complementings : List Complementing) (start stop : Nat)
    (comp : Complementing) (found : getComplementing complementings start stop = some comp) :
    comp ∈ complementings ∧ comp.start ≤ start := by
  have covers := List.find?_some found
  rw [decide_eq_true_eq] at covers
  exact ⟨List.mem_of_find?_eq_some found, covers.1⟩

section

variable (c : TickCache)
include c

theorem inv_get (start : Nat) (stop : Int) (inv : Inv Plays c) : Inv Plays (c.get start stop) := by
  rw [get]
  dsimp only
  by_cases dead : c.destroyed = true
  · rw [if_pos dead]
    exact inv_settle_new c start stop (.rejected _) inv fun ticks resolved => nomatch resolved
  · have alive : c.destroyed = false := Bool.eq_false_iff.mpr dead
    rw [if_neg dead]
    by_cases empty : stop - start ≤ 0
    · rw [if_pos empty]
      refine inv_settle_new c start stop (.resolved []) inv fun ticks resolved => ?_
      obtain rfl := Outcome.resolved.inj resolved
      exact ⟨fun nonempty => absurd rfl nonempty, fun i inside => absurd inside (Nat.not_lt_zero i)⟩
    · rw [if_neg empty]
      obtain ⟨stop, rfl⟩ := Int.eq_ofNat_of_zero_le (a := stop) (by omega)
      rw [Int.toNat_natCast]
      cases missing : firstMissing (c.ticks.slice start stop) 0 (stop - start) with
      | none =>
        dsimp only
        refine inv_settle_new c start stop (.resolved _) inv fun ticks resolved => ?_
        obtain rfl := Outcome.resolved.inj resolved
        refine holeFree_slice c.ticks start stop stop inv.cached (fun i lower upper => ?_)
          (Int.le_refl _)
        have there := firstMissing_none _ _ _ missing (i - start) (Nat.zero_le _) (by omega)
        rw [SparseArray.at?_slice _ _ _ _ (by omega), Nat.add_sub_cancel' lower] at there
        exact there
      | some first =>
        obtain ⟨bound, before⟩ := firstMissing_some _ _ _ first missing
        have present : ∀ i, start ≤ i → i < start + first → (c.ticks.at? i).isSome := by
          intro i lower upper
          have there := before (i - start) (Nat.zero_le _) (by omega)
          rw [SparseArray.at?_slice _ _ _ _ (by omega), Nat.add_sub_cancel' lower] at there
          exact there
        dsimp only
        cases found : getComplementing c.complementings (start + first) stop with
        | none => exact inv_start c (start + first) start stop alive inv present
        | some comp =>
          obtain ⟨there, covers⟩ :=
            find_covering c.complementings (start + first) stop comp found
          exact inv_join c comp start stop inv there
            fun i lower upper => present i lower (by omega)

/-- A request is over and all its gets are settled, with lists without a hole. -/
theorem inv_settleAll (comp : Complementing) (ticks : SparseArray)
    (outcome : Waiting → Outcome) (inv : Inv Plays c) (there : comp ∈ c.complementings)
    (cached : ∀ frame raw, ticks.at? frame = some raw → Plays frame raw)
    (kept : ∀ i, (c.ticks.at? i).isSome → (ticks.at? i).isSome)
    (good : ∀ w ∈ comp.waitings, ∀ list, outcome w = .resolved list →
      HoleFree Plays w.start w.stop list) :
    Inv Plays ({ c.removeComplementing comp.request with ticks := ticks }.settleAll comp.waitings
      outcome) where
  cached := cached
  waits := by
    intro other inRest w waiting
    obtain ⟨asked, present⟩ := inv.waits other (List.mem_of_mem_filter inRest) w waiting
    exact ⟨asked, fun i lower upper => kept i (present i lower upper)⟩
  numbered := (List.filter_sublist.map _).nodup inv.numbered
  known := fun other inRest => inv.known other (List.mem_of_mem_filter inRest)
  once := by
    intro get
    have before := inv.once get
    have removed := waits_remove c comp get inv.numbered there
    rw [settlements_settleAll]
    change c.settlements get + _ + (c.removeComplementing comp.request).waits get =
      if get < c.gets.length then 1 else 0
    omega
  gone := by
    intro dead
    have none := inv.gone dead
    rw [none] at there
    exact (not_mem_nil there).elim
  resolved := by
    intro get list settled
    rcases mem_append.mp settled with settled | settled
    · exact inv.resolved get list settled
    · obtain ⟨w, waiting, eq⟩ := mem_map.mp settled
      obtain ⟨rfl, resolved⟩ := Prod.mk.inj eq
      exact ⟨w.start, w.stop, (inv.waits comp there w waiting).1, good w waiting list resolved⟩

theorem find_request (request : Nat) (comp : Complementing)
    (found : (c.complementings.find? fun comp => comp.request = request) = some comp) :
    comp ∈ c.complementings ∧ comp.request = request := by
  have same := List.find?_some found
  rw [decide_eq_true_eq] at same
  exact ⟨List.mem_of_find?_eq_some found, same⟩

theorem inv_complete (request : Nat) (reply : List Buffer) (inv : Inv Plays c)
    (sound : ∀ comp ∈ c.complementings, comp.request = request →
      reply.length ≤ comp.stop - comp.start ∧
        ∀ i raw, reply[i]? = some raw → Plays (comp.start + i) raw) :
    Inv Plays (c.complete request reply) := by
  rw [complete]
  cases found : c.complementings.find? fun comp => comp.request = request with
  | none => exact inv
  | some comp =>
    obtain ⟨there, rfl⟩ := find_request c request comp found
    obtain ⟨-, replied⟩ := sound comp there rfl
    have written := at?_putAll reply c.ticks comp.start
    have cached : ∀ frame raw, (putAll c.ticks comp.start reply).at? frame = some raw →
        Plays frame raw := by
      intro frame raw tick
      rw [written] at tick
      by_cases inside : comp.start ≤ frame ∧ frame < comp.start + reply.length
      · rw [if_pos inside] at tick
        have plays := replied _ raw tick
        rw [Nat.add_sub_cancel' inside.1] at plays
        exact plays
      · rw [if_neg inside] at tick
        exact inv.cached frame raw tick
    have replyPresent : ∀ i, comp.start ≤ i → i < comp.start + reply.length →
        ((putAll c.ticks comp.start reply).at? i).isSome := by
      intro i lower upper
      rw [written, if_pos ⟨lower, upper⟩, List.getElem?_eq_getElem (by omega)]
      rfl
    have kept : ∀ i, (c.ticks.at? i).isSome →
        ((putAll c.ticks comp.start reply).at? i).isSome := by
      intro i present
      by_cases inside : comp.start ≤ i ∧ i < comp.start + reply.length
      · exact replyPresent i inside.1 inside.2
      · rw [written, if_neg inside]
        exact present
    refine inv_settleAll c comp _ _ inv there cached kept fun w waiting list resolved => ?_
    obtain rfl := Outcome.resolved.inj resolved
    obtain ⟨-, present⟩ := inv.waits comp there w waiting
    -- before the request's first frame: cached since; from there on: the reply
    refine holeFree_slice _ w.start _ w.stop cached (fun i lower upper => ?_) (by omega)
    by_cases before : i < comp.start
    · exact kept i (present i lower before)
    · exact replyPresent i (by omega) (by omega)

theorem inv_fail (request : Nat) (err : String) (inv : Inv Plays c) :
    Inv Plays (c.fail request err) := by
  rw [fail]
  cases found : c.complementings.find? fun comp => comp.request = request with
  | none => exact inv
  | some comp =>
    obtain ⟨there, rfl⟩ := find_request c request comp found
    exact inv_settleAll c comp c.ticks _ inv there inv.cached (fun i present => present)
      fun w waiting list resolved => nomatch resolved

theorem inv_destroy (inv : Inv Plays c) : Inv Plays c.destroy where
  cached := fun frame raw there => nomatch there
  waits := fun comp there => (not_mem_nil there).elim
  numbered := List.nodup_nil
  known := fun comp there => (not_mem_nil there).elim
  once := by
    intro get
    have before := inv.once get
    change (c.settleAll c.allWaitings _).settlements get + 0 = if get < c.gets.length then 1 else 0
    rw [settlements_settleAll]
    exact before
  gone := fun _ => rfl
  resolved := by
    intro get list settled
    rcases mem_append.mp settled with settled | settled
    · exact inv.resolved get list settled
    · obtain ⟨w, waiting, eq⟩ := mem_map.mp settled
      cases (Prod.mk.inj eq).2

end

section

variable (decodeTick : Buffer → Option Nat)

include decodeTick

theorem inv_step (c : TickCache) (action : Action)
    (inv : Inv Plays c) (sound : Sound Plays decodeTick c action) :
    Inv Plays (step decodeTick c action) := by
  cases action with
  | add rawTick => exact inv_add decodeTick c rawTick inv sound
  | get start stop => exact inv_get c start stop inv
  | complete request reply => exact inv_complete c request reply inv sound
  | fail request err => exact inv_fail c request err inv
  | destroy => exact inv_destroy c inv

theorem inv_run (actions : List Action)
    (sound : Run.Allowed (step decodeTick) (Sound Plays decodeTick) new actions) :
    Inv Plays (Run.final (step decodeTick) new actions) :=
  Run.invariant (fun c action inv now => inv_step decodeTick c action inv now) new actions inv_new
    sound

def Ends (request : Nat) : Action → Prop
  | .complete other _ => other = request
  | .fail other _ => other = request
  | .destroy => True
  | _ => False

theorem settled_at_end (c : TickCache) (comp : Complementing)
    (w : Waiting) (action : Action) (inv : Inv Plays c) (there : comp ∈ c.complementings)
    (waiting : w ∈ comp.waitings) (ends : Ends comp.request action) :
    (step decodeTick c action).settlements w.get = 1 := by
  have once := inv.once w.get
  have removed := waits_remove c comp w.get inv.numbered there
  have here : 0 < (comp.waitings.map Waiting.get).count w.get :=
    List.count_pos_iff.mpr (mem_map.mpr ⟨w, waiting, rfl⟩)
  have found : (c.complementings.find? fun other => other.request = comp.request) = some comp := by
    cases search : c.complementings.find? fun other => other.request = comp.request with
    | none => exact absurd rfl (of_decide_eq_false
        (Bool.eq_false_iff.mpr (List.find?_eq_none.mp search comp there)))
    | some other =>
      obtain ⟨inCache, same⟩ := find_request c comp.request other search
      exact congrArg some (List.inj_on_of_nodup_map inv.numbered inCache there same)
  have bound : (if w.get < c.gets.length then 1 else 0) ≤ 1 := by split <;> omega
  cases action with
  | add rawTick | get start stop => cases ends
  | complete other reply =>
    obtain rfl : other = comp.request := ends
    rw [step, complete, found]
    dsimp only
    rw [settlements_settleAll]
    change c.settlements w.get + _ = 1
    omega
  | fail other err =>
    obtain rfl : other = comp.request := ends
    rw [step, fail, found]
    dsimp only
    rw [settlements_settleAll]
    change c.settlements w.get + _ = 1
    omega
  | destroy =>
    change (c.settleAll c.allWaitings _).settlements w.get = 1
    rw [settlements_settleAll]
    change c.settlements w.get + c.waits w.get = 1
    omega

/-- Every get is settled once: at most once at any time, and if not yet, it waits
at a request under way, whose end settles it.  A list it resolved with is a
hole-free run of the play's ticks from the first frame asked for. -/
theorem get_settles_once (actions : List Action)
    (sound : Run.Allowed (step decodeTick) (Sound Plays decodeTick) new actions) :
    (∀ get < (Run.final (step decodeTick) new actions).gets.length,
      (Run.final (step decodeTick) new actions).settlements get = 1 ∨
        (Run.final (step decodeTick) new actions).settlements get = 0 ∧
          ∃ comp ∈ (Run.final (step decodeTick) new actions).complementings,
            (∃ w ∈ comp.waitings, w.get = get) ∧ ∀ action, Ends comp.request action →
                (step decodeTick (Run.final (step decodeTick) new actions) action).settlements get =
                  1) ∧ ∀ get ticks, (get, Outcome.resolved ticks) ∈
          (Run.final (step decodeTick) new actions).settled →
        ∃ start stop, (Run.final (step decodeTick) new actions).gets[get]? = some (start, stop) ∧
          HoleFree Plays start stop ticks := by
  have inv := inv_run decodeTick actions sound
  generalize Run.final (step decodeTick) new actions = c at inv ⊢
  refine ⟨fun get asked => ?_, inv.resolved⟩
  have once := inv.once get
  rw [if_pos asked] at once
  by_cases settled : c.settlements get = 1
  · exact .inl settled
  · have waits : 0 < (c.allWaitings.map Waiting.get).count get := by
      change 0 < c.waits get
      omega
    obtain ⟨w, inAll, rfl⟩ := mem_map.mp (List.count_pos_iff.mp waits)
    obtain ⟨comp, there, waiting⟩ := List.mem_flatMap.mp inAll
    refine .inr ⟨by omega, comp, there, ⟨w, waiting, rfl⟩, fun action ends => ?_⟩
    exact settled_at_end decodeTick c comp w action inv there waiting ends

end

/-- Two gets that share a request, a tick that arrives meanwhile, and a reply. -/
def sharedRun : List Action := [.get 0 3, .get 1 2, .add [2], .complete 0 [[0], [1]]]

def firstByte (raw : Buffer) : Option Nat := raw.head?.map UInt8.toNat

theorem sharedRun_sound :
    Run.Allowed (step firstByte) (Sound (fun frame raw => firstByte raw = some frame) firstByte) new
      sharedRun := by
  refine ⟨trivial, trivial, fun frame decoded => decoded, fun comp there same => ?_, trivial⟩
  have first : comp = ⟨0, 0, 3, [⟨0, 0, 3⟩, ⟨1, 1, 2⟩]⟩ := by
    rcases mem_cons.mp there with eq | there
    · exact eq
    · rcases mem_cons.mp there with rfl | there
      · cases same
      · exact (not_mem_nil there).elim
  subst first
  refine ⟨by decide, fun i raw tick => ?_⟩
  rcases i with _ | _ | i
  · cases tick
    rfl
  · cases tick
    rfl
  · cases tick

theorem get_settles_once_shared : (Run.final (step firstByte) new sharedRun).settlements 1 = 1 ∧
      ∃ start stop, (Run.final (step firstByte) new sharedRun).gets[0]? = some (start, stop) ∧
        HoleFree (fun frame raw => firstByte raw = some frame) start stop [some [0], some [1]] := by
  obtain ⟨once, resolved⟩ := get_settles_once firstByte sharedRun sharedRun_sound
  refine ⟨?_, resolved 0 [some [0], some [1]] (by decide)⟩
  rcases once 1 (by decide) with settled | ⟨-, comp, there, ⟨w, waiting, same⟩, -⟩
  · exact settled
  · have empty : (Run.final (step firstByte) new sharedRun).complementings.flatMap
        waitings = [] := by decide
    have waits := List.mem_flatMap.mpr ⟨comp, there, waiting⟩
    rw [empty] at waits
    exact (not_mem_nil waits).elim

end TickCache
end AkashicSystem.PlaylogServer
