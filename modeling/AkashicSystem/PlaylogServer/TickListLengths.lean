import AkashicSystem.PlaylogServer.TickCacheGets

/-!
# Lengths of the lists that gets resolve with

A get that waits is answered from the reply to a request whose range covers the
get's own from its first missing frame on.  A bound on the length of the replies
is therefore one on the lists.
-/

set_option autoImplicit false

namespace AkashicSystem.PlaylogServer.TickCache

open AkashicSystem.Js List

/-- How long the list of a range has to be: a list of the whole range is long enough, and
so is one that goes as far as a long enough list of a wider range. -/
structure Lengths (long : Nat → Int → Nat → Prop) : Prop where
  whole : ∀ (start : Nat) (stop : Int) (n : Nat), stop ≤ start + n → long start stop n
  narrower : ∀ first stop n start stop' n' : Nat, stop' ≤ stop → long first stop n →
    min (first + n) stop' ≤ start + n' → long start stop' n'

/-- The lists are long enough, and a request covers the ranges of the gets that wait for it. -/
structure Lists (long : Nat → Int → Nat → Prop) (c : TickCache) : Prop where
  covers : ∀ comp ∈ c.complementings, ∀ w ∈ comp.waitings, w.stop ≤ comp.stop
  resolved : ∀ get list, (get, Outcome.resolved list) ∈ c.settled →
    ∃ start stop, c.gets[get]? = some (start, stop) ∧ long start stop list.length

/-- The reply to a request is long enough. -/
def Replies (long : Nat → Int → Nat → Prop) (c : TickCache) : Action → Prop
  | .complete request reply => ∀ comp ∈ c.complementings, comp.request = request →
      long comp.start comp.stop reply.length
  | _ => True

variable {long : Nat → Int → Nat → Prop} {Plays : Nat → Buffer → Prop}

theorem lists_new : Lists long new where
  covers := fun _ there => (not_mem_nil there).elim
  resolved := fun _ _ there => (not_mem_nil there).elim

theorem length_of_present (ticks : SparseArray) (start stop : Nat)
    (present : ∀ i, start ≤ i → i < stop → (ticks.at? i).isSome) :
    stop ≤ start + (ticks.slice start stop).length := by
  by_cases empty : stop ≤ start
  · omega
  · have last := present (stop - 1) (by omega) (by omega)
    have inside : stop - 1 < ticks.length := by
      by_cases inside : stop - 1 < ticks.length
      · exact inside
      · rw [SparseArray.at?, List.getElem?_eq_none (by omega)] at last
        cases last
    rw [SparseArray.slice, length_drop, length_take]
    omega

variable {c : TickCache}

theorem Lists.asked (lists : Lists long c) (asked : Nat × Int) :
    ∀ get list, (get, Outcome.resolved list) ∈ c.settled →
      ∃ start stop, (c.gets ++ [asked])[get]? = some (start, stop) ∧
        long start stop list.length := by
  intro get list there
  obtain ⟨start, stop, known, isLong⟩ := lists.resolved get list there
  refine ⟨start, stop, ?_, isLong⟩
  exact (List.getElem?_append_left (List.getElem?_eq_some_iff.mp known).1).trans known

theorem lists_settle_new (lengths : Lengths long) (lists : Lists long c) (start : Nat)
    (stop : Int) (outcome : Outcome)
    (whole : ∀ list, outcome = .resolved list → stop ≤ start + list.length) :
    Lists long ({ c with gets := c.gets ++ [(start, stop)] }.settle c.gets.length outcome) where
  covers := lists.covers
  resolved := by
    intro get list there
    rcases mem_append.mp there with before | last
    · exact lists.asked (start, stop) get list before
    · obtain ⟨rfl, resolved⟩ := Prod.mk.inj (mem_singleton.mp last)
      exact ⟨start, stop, List.getElem?_concat_length,
        lengths.whole _ _ _ (whole list resolved.symm)⟩

theorem lists_startComplement (lists : Lists long c) (first stop : Nat) (waitings : List Waiting)
    (covered : ∀ w ∈ waitings, w.stop ≤ stop) :
    Lists long (c.startComplement first stop waitings) where
  covers := by
    intro comp there w waiting
    rcases mem_append.mp there with before | last
    · exact lists.covers comp before w waiting
    · obtain rfl := mem_singleton.mp last
      exact covered w waiting
  resolved := lists.resolved

theorem lists_get (lengths : Lengths long) (c : TickCache) (start : Nat) (stop : Int)
    (inv : Inv Plays c) (lists : Lists long c) : Lists long (c.get start stop) := by
  rw [get]
  dsimp only
  by_cases dead : c.destroyed = true
  · rw [if_pos dead]
    refine lists_settle_new lengths lists start stop _ fun list eq => ?_
    cases eq
  · rw [if_neg dead]
    by_cases empty : stop - start ≤ 0
    · rw [if_pos empty]
      refine lists_settle_new lengths lists start stop _ fun list eq => ?_
      omega
    · rw [if_neg empty]
      obtain ⟨stop, rfl⟩ := Int.eq_ofNat_of_zero_le (a := stop) (by omega)
      rw [Int.toNat_natCast]
      have waits : Lists long { c with gets := c.gets ++ [(start, (stop : Int))] } :=
        ⟨lists.covers, lists.asked _⟩
      cases missing : firstMissing (c.ticks.slice start stop) 0 (stop - start) with
      | none =>
        refine lists_settle_new lengths lists start stop _ fun list eq => ?_
        obtain rfl := Outcome.resolved.inj eq
        have present := length_of_present c.ticks start stop fun i lower upper => ?_
        · omega
        · have there := firstMissing_none _ _ _ missing (i - start) (Nat.zero_le _) (by omega)
          rw [SparseArray.at?_slice _ _ _ _ (by omega), Nat.add_sub_cancel' lower] at there
          exact there
      | some first =>
        dsimp only
        cases found : getComplementing c.complementings (start + first) stop with
        | none =>
          refine lists_startComplement waits (start + first) stop _ fun w there => ?_
          rw [mem_singleton.mp there]
        | some comp =>
          refine ⟨fun other joined w waiting => ?_, waits.resolved⟩
          obtain ⟨before, inCache, rfl⟩ := mem_map.mp joined
          have old := lists.covers before inCache
          by_cases same : before.request = comp.request
          · rw [if_pos same] at waiting ⊢
            rcases mem_append.mp waiting with waiting | waiting
            · exact old w waiting
            · rw [mem_singleton.mp waiting]
              have covering := List.find?_some found
              rw [decide_eq_true_eq] at covering
              have there := List.mem_of_find?_eq_some found
              rw [inj_on_of_nodup_map inv.numbered inCache there same]
              exact covering.2
          · rw [if_neg same] at waiting ⊢
            exact old w waiting

theorem lists_complete (lengths : Lengths long) (c : TickCache) (request : Nat)
    (reply : List Buffer) (inv : Inv Plays c) (lists : Lists long c)
    (replies : Replies long c (.complete request reply)) :
    Lists long (c.complete request reply) := by
  rw [complete]
  cases found : c.complementings.find? fun comp => comp.request = request with
  | none => exact lists
  | some comp =>
    obtain ⟨there, rfl⟩ := find_request c request comp found
    refine ⟨fun other inRest => lists.covers other (mem_of_mem_filter inRest), ?_⟩
    intro get list settled
    rcases mem_append.mp settled with before | new
    · exact lists.resolved get list before
    · obtain ⟨w, waiting, eq⟩ := mem_map.mp new
      obtain ⟨rfl, resolved⟩ := Prod.mk.inj eq
      obtain rfl := Outcome.resolved.inj resolved
      obtain ⟨asked, present⟩ := inv.waits comp there w waiting
      refine ⟨w.start, w.stop, asked, ?_⟩
      have written := at?_putAll reply c.ticks comp.start
      have reaches := length_of_present (putAll c.ticks comp.start reply) w.start
        (min (comp.start + reply.length) w.stop) fun i lower upper => ?_
      · exact lengths.narrower comp.start comp.stop reply.length w.start w.stop _
          (lists.covers comp there w waiting) (replies comp there rfl) reaches
      · rw [written]
        by_cases inside : comp.start ≤ i ∧ i < comp.start + reply.length
        · rw [if_pos inside, List.getElem?_eq_getElem (by omega)]
          rfl
        · rw [if_neg inside]
          exact present i lower (by omega)

theorem lists_add (decodeTick : Buffer → Option Nat) (c : TickCache) (rawTick : Buffer)
    (lists : Lists long c) : Lists long (c.add decodeTick rawTick) := by
  rw [add]
  cases c.destroyed with
  | true => exact lists
  | false =>
    rw [if_neg Bool.false_ne_true]
    cases decodeTick rawTick with
    | none => exact lists
    | some frame =>
      dsimp only
      split
      · have started := lists_startComplement lists (complementBegin c.ticks (frame - 1)) frame
          [] fun _ there => (not_mem_nil there).elim
        exact ⟨started.covers, started.resolved⟩
      · exact ⟨lists.covers, lists.resolved⟩

theorem lists_rejected (lists : Lists long c) (waitings : List Waiting)
    (others : List Complementing) (some : ∀ comp ∈ others, comp ∈ c.complementings) (err : String)
    (ticks : SparseArray) (destroyed : Bool) :
    Lists long { c.settleAll waitings fun _ => .rejected err with
      destroyed := destroyed, complementings := others, ticks := ticks } where
  covers := fun comp there => lists.covers comp (some comp there)
  resolved := by
    intro get list settled
    rcases mem_append.mp settled with before | new
    · exact lists.resolved get list before
    · obtain ⟨w, _, eq⟩ := mem_map.mp new
      cases (Prod.mk.inj eq).2

theorem lists_step (lengths : Lengths long) (decodeTick : Buffer → Option Nat) (c : TickCache)
    (action : Action) (inv : Inv Plays c) (lists : Lists long c) (replies : Replies long c action) :
    Lists long (step decodeTick c action) := by
  cases action with
  | add rawTick => exact lists_add decodeTick c rawTick lists
  | get start stop => exact lists_get lengths c start stop inv lists
  | complete request reply => exact lists_complete lengths c request reply inv lists replies
  | fail request err =>
    rw [step, fail]
    cases found : c.complementings.find? fun comp => comp.request = request with
    | none => exact lists
    | some comp =>
      exact lists_rejected lists comp.waitings _ (fun _ => mem_of_mem_filter) err c.ticks
        c.destroyed
  | destroy =>
    exact lists_rejected lists _ [] (fun _ there => (not_mem_nil there).elim) _ [] true

end AkashicSystem.PlaylogServer.TickCache
