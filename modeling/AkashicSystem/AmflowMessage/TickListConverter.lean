import AkashicSystem.Playlog.TickFormat
import Mathlib.Data.List.Chain

/-!
# Tick lists

`fromTicks` keeps the bounds of a list of ticks and the ticks that have events or
storage data; `toTicks` fills in the others by their frames.
-/

set_option autoImplicit false

namespace AkashicSystem.AmflowMessage

open AkashicSystem.Js List
open AkashicSystem.Playlog (hasLength)

structure Tick where
  frame : Int
  rest : List Value

namespace Tick

def hasContent (tick : Tick) : Bool := hasLength tick.rest[0]? || hasLength tick.rest[1]?

def bare (frame : Int) : Tick := ⟨frame, []⟩

/-- The tick, reduced to its frame if it has neither events nor storage data. -/
def normal (tick : Tick) : Tick := if tick.hasContent then tick else bare tick.frame

end Tick

structure TickList where
  «from» : Int
  «to» : Int
  eventTicks : Option (List Tick)

def fromTicks : List Tick → Option TickList
  | [] => none
  | tick :: rest =>
    let eventTicks := (tick :: rest).filter Tick.hasContent
    some ⟨tick.frame, (rest.getLastD tick).frame,
      if eventTicks.isEmpty then none else some eventTicks⟩

def tickMap (eventTicks : List Tick) : Int → Option Tick :=
  eventTicks.foldl (fun map t => Function.update map t.frame (some t)) fun _ => none

def frames (first last : Int) : List Int :=
  (range (last + 1 - first).toNat).map fun i : Nat => first + i

/-- `tickMap[frame] || [frame]`. -/
def fill (eventTicks : List Tick) (frame : Int) : Tick :=
  (tickMap eventTicks frame).getD (.bare frame)

def toTicks : Option TickList → List Tick
  | none => []
  | some list => (frames list.from list.to).map (fill (list.eventTicks.getD []))

variable {ticks : List Tick}

theorem tickMap_eq_some (distinct : ticks.Pairwise fun a b => a.frame ≠ b.frame) (frame : Int)
    (tick : Tick) : tickMap ticks frame = some tick ↔ tick ∈ ticks ∧ tick.frame = frame := by
  induction ticks using reverseRecOn with
  | nil => simp [tickMap]
  | append_singleton ticks last ih =>
    obtain ⟨before, -, others⟩ := pairwise_append.mp distinct
    have step : tickMap (ticks ++ [last]) =
      Function.update (tickMap ticks) last.frame (some last) :=
      foldl_append
    have apart : ∀ tick ∈ ticks, tick.frame ≠ last.frame := fun tick there =>
      others tick there last mem_cons_self
    rw [step, Function.update_apply, mem_append, mem_singleton]
    by_cases same : frame = last.frame
    · rw [if_pos same, Option.some.injEq, same]
      constructor
      · rintro rfl
        exact ⟨.inr rfl, rfl⟩
      · rintro ⟨there | rfl, eq⟩
        · exact absurd eq (apart tick there)
        · rfl
    · rw [if_neg same, ih before]
      constructor
      · rintro ⟨there, eq⟩
        exact ⟨.inl there, eq⟩
      · rintro ⟨there | rfl, eq⟩
        · exact ⟨there, eq⟩
        · exact absurd eq.symm same

section Filling

variable {ticks : List Tick} (distinct : ticks.Pairwise fun a b => a.frame ≠ b.frame)

include distinct

theorem fill_of_mem {tick : Tick} (there : tick ∈ ticks) : fill ticks tick.frame = tick := by
  rw [fill, (tickMap_eq_some distinct tick.frame tick).mpr ⟨there, rfl⟩]
  rfl

theorem fill_of_absent {frame : Int} (absent : ∀ tick ∈ ticks, tick.frame ≠ frame) :
    fill ticks frame = .bare frame := by
  have none : tickMap ticks frame = none := by
    rw [Option.eq_none_iff_forall_ne_some]
    intro tick found
    obtain ⟨there, its⟩ := (tickMap_eq_some distinct frame tick).mp found
    exact absent tick there its
  rw [fill, none]
  rfl

theorem fill_frame (frame : Int) : (fill ticks frame).frame = frame := by
  by_cases found : ∃ tick ∈ ticks, tick.frame = frame
  · obtain ⟨tick, there, rfl⟩ := found
    rw [fill_of_mem distinct there]
  · rw [fill_of_absent distinct fun tick there its => found ⟨tick, there, its⟩]
    rfl

end Filling

theorem distinct_of_ascending (ascending : ticks.Pairwise fun a b => a.frame < b.frame) :
    ticks.Pairwise fun a b => a.frame ≠ b.frame :=
  ascending.imp fun before => Int.ne_of_lt before

theorem mem_frames {first last frame : Int} :
    frame ∈ frames first last ↔ first ≤ frame ∧ frame ≤ last := by
  simp only [frames, mem_map, mem_range]
  constructor
  · rintro ⟨i, inside, rfl⟩
    omega
  · rintro ⟨lower, upper⟩
    exact ⟨(frame - first).toNat, by omega, by omega⟩

theorem frames_cons {first last : Int} (le : first ≤ last) :
    frames first last = first :: frames (first + 1) last := by
  have count : (last + 1 - first).toNat = (last + 1 - (first + 1)).toNat + 1 := by omega
  rw [frames, frames, count, range_succ_eq_map, map_cons, map_map]
  congr 1
  · simp
  · refine map_congr_left fun i _ => ?_
    simp only [Function.comp_apply]
    omega

theorem getLast?_frames {first last : Int} (le : first ≤ last) :
    (frames first last).getLast? = some last := by
  have count : (last + 1 - first).toNat = (last - first).toNat + 1 := by omega
  rw [frames, count, range_succ, map_append, map_singleton, List.getLast?_concat]
  congr 1
  omega

theorem ascending_frames (first last : Int) : (frames first last).Pairwise (· < ·) := by
  refine pairwise_map.mpr (pairwise_lt_range.imp fun before => ?_)
  omega

def Consecutive (ticks : List Tick) : Prop := ticks.IsChain fun a b => b.frame = a.frame + 1

theorem frames_of_consecutive (tick : Tick) (rest : List Tick)
    (consecutive : Consecutive (tick :: rest)) :
    (tick :: rest).map Tick.frame = frames tick.frame (rest.getLastD tick).frame := by
  induction rest generalizing tick with
  | nil => simp [frames]
  | cons next rest ih =>
    obtain ⟨follows, later⟩ := isChain_cons_cons.mp consecutive
    have others := ih next later
    have last : (next :: rest).getLastD tick = rest.getLastD next := getLastD_cons ..
    have inside : next.frame ∈ frames next.frame (rest.getLastD next).frame := by
      rw [← others]
      exact mem_cons_self
    have le : tick.frame ≤ (rest.getLastD next).frame := by
      have bounds := mem_frames.mp inside
      omega
    rw [map_cons, others, last, frames_cons le, follows]

theorem ascending_of_consecutive (consecutive : Consecutive ticks) :
    ticks.Pairwise fun a b => a.frame < b.frame := by
  have chain : (ticks.map Tick.frame).IsChain (· < ·) := by
    refine (isChain_map _).mpr (consecutive.imp fun a b follows => ?_)
    omega
  exact pairwise_map.mp (isChain_iff_pairwise.mp chain)

theorem toTicks_fromTicks (consecutive : Consecutive ticks) :
    toTicks (fromTicks ticks) = ticks.map Tick.normal := by
  cases ticks with
  | nil => rfl
  | cons tick rest =>
    have ascending := ascending_of_consecutive consecutive
    have distinct := distinct_of_ascending (ascending.filter Tick.hasContent)
    have kept : (if ((tick :: rest).filter Tick.hasContent).isEmpty then none
        else some ((tick :: rest).filter Tick.hasContent)).getD [] =
          (tick :: rest).filter Tick.hasContent := by
      split
      · next none => exact (List.isEmpty_iff.mp none).symm
      · rfl
    rw [fromTicks, toTicks]
    dsimp only
    rw [kept, ← frames_of_consecutive tick rest consecutive, map_map]
    refine map_congr_left fun tick' there => ?_
    rw [Function.comp_apply, Tick.normal]
    by_cases content : tick'.hasContent = true
    · rw [if_pos content, fill_of_mem distinct (mem_filter.mpr ⟨there, content⟩)]
    · rw [if_neg content, fill_of_absent distinct]
      intro other kept same
      obtain ⟨there', content'⟩ := mem_filter.mp kept
      -- the frame is that of one tick only
      have eq : other = tick' := by
        have distinct := distinct_of_ascending ascending
        rw [← fill_of_mem distinct there', same, fill_of_mem distinct there]
      rw [eq] at content'
      exact content content'

/-- A tick list as it is meant: the ticks in between that have content, in order. -/
structure TickList.Compact (list : TickList) : Prop where
  bounds : list.from ≤ list.to
  some : list.eventTicks ≠ some []
  ascending : (list.eventTicks.getD []).Pairwise fun a b => a.frame < b.frame
  within : ∀ tick ∈ list.eventTicks.getD [],
    list.from ≤ tick.frame ∧ tick.frame ≤ list.to ∧ tick.hasContent = true

theorem filter_toTicks {list : TickList} (compact : list.Compact) :
    (toTicks (some list)).filter Tick.hasContent = list.eventTicks.getD [] := by
  have distinct := distinct_of_ascending compact.ascending
  have sorted : ((toTicks (some list)).filter Tick.hasContent).Pairwise
      fun a b => a.frame < b.frame := by
    refine List.Pairwise.filter _ (pairwise_map.mpr ?_)
    refine (ascending_frames list.from list.to).imp fun before => ?_
    rw [fill_frame distinct, fill_frame distinct]
    exact before
  have irrefl : Std.Irrefl fun a b : Tick => a.frame < b.frame := ⟨fun a => Int.lt_irrefl _⟩
  have antisymm : Std.Antisymm fun a b : Tick => a.frame < b.frame :=
    ⟨fun a b before after => absurd (Int.lt_trans before after) (Int.lt_irrefl _)⟩
  refine sorted.eq_of_mem_iff compact.ascending fun tick => ?_
  rw [mem_filter, toTicks, mem_map]
  constructor
  · rintro ⟨⟨frame, inside, rfl⟩, content⟩
    by_cases found : ∃ tick ∈ list.eventTicks.getD [], tick.frame = frame
    · obtain ⟨tick, there, rfl⟩ := found
      rw [fill_of_mem distinct there]
      exact there
    · rw [fill_of_absent distinct fun tick there its => found ⟨tick, there, its⟩] at content
      cases content
  · intro there
    obtain ⟨lower, upper, content⟩ := compact.within tick there
    exact ⟨⟨tick.frame, mem_frames.mpr ⟨lower, upper⟩, fill_of_mem distinct there⟩, content⟩

theorem fromTicks_toTicks {list : TickList} (compact : list.Compact) :
    fromTicks (toTicks (some list)) = some list := by
  have distinct := distinct_of_ascending compact.ascending
  have kept := filter_toTicks compact
  have bounds : (toTicks (some list)).map Tick.frame = frames list.from list.to := by
    rw [toTicks, map_map]
    exact map_id'' (fill_frame distinct) _
  cases isTicks : toTicks (some list) with
  | nil =>
    rw [isTicks, frames_cons compact.bounds] at bounds
    cases bounds
  | cons tick rest =>
    rw [isTicks] at bounds kept
    have last : ((tick :: rest).map Tick.frame).getLast? = some (rest.getLastD tick).frame := by
      rw [List.getLast?_map, List.getLast?_cons, getLastD_eq_getLast?]
      rfl
    rw [bounds, getLast?_frames compact.bounds] at last
    rw [frames_cons compact.bounds] at bounds
    obtain ⟨«from», «to», eventTicks⟩ := list
    rw [fromTicks]
    dsimp only at bounds kept last ⊢
    rw [kept, (List.cons.inj bounds).1, ← Option.some.inj last]
    cases eventTicks with
    | none => rfl
    | some inner =>
      have notNil : inner ≠ [] := fun eq => compact.some (congrArg some eq)
      simp [notNil]

/-- Both conversions, the one after the other. -/
theorem tickLists_roundTrip :
    (∀ ticks, Consecutive ticks → toTicks (fromTicks ticks) = ticks.map Tick.normal) ∧
      ∀ list : TickList, list.Compact → fromTicks (toTicks (some list)) = some list :=
  ⟨fun _ consecutive => toTicks_fromTicks consecutive, fun _ compact => fromTicks_toTicks compact⟩

def joined : Tick := ⟨2, [.array [.array [.number 0, .number 3]]]⟩

/-- A tick with an event between two that have none. -/
theorem tickLists_roundTrip_joined : toTicks (fromTicks [.bare 1, joined, ⟨3, [.array []]⟩]) =
        [.bare 1, joined, ⟨3, [.array []]⟩].map Tick.normal ∧
      fromTicks (toTicks (some ⟨1, 3, some [joined]⟩)) = some ⟨1, 3, some [joined]⟩ := by
  refine ⟨tickLists_roundTrip.1 _ ?_, tickLists_roundTrip.2 _ ?_⟩
  · simp [Consecutive, Tick.bare, joined]
  · exact {
      bounds := by decide
      some := fun eq => by cases eq
      ascending := pairwise_singleton _ _
      within := by
        intro tick there
        obtain rfl := mem_singleton.mp there
        decide }

end AkashicSystem.AmflowMessage
