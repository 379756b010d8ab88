import AkashicSystem.Js.Number
import AkashicSystem.Playlog.StableRecords
import AkashicSystem.Playlog.Tick

/-!
# How ticks are written

`amflow-message` writes a tick that has neither events nor storage data as the
number of its frame.  What is read from a tick that was written is its normal
form, and the forms of it without events of a kind are ticks too.
-/

set_option autoImplicit false

namespace AkashicSystem.Playlog

open AkashicSystem.Js List

/-- `x && x.length` is truthy, where a length is. -/
def hasLength : Option Value → Bool
  | some (.array items) => !items.isEmpty
  | some (.binary bytes) => !bytes.isEmpty
  | some (.text s) => s ≠ ""
  | some (.object fields) => (fields.lookup "length").any Value.truthy
  | _ => false

structure Msgpack extends Library where
  /-- `undefined` is encoded as `null`. -/
  encode : Option Value → List UInt8

def Msgpack.Carries (msgpack : Msgpack) (value : Value) : Prop :=
  msgpack.decode (msgpack.encode (some value)) = some value

structure Codec extends Msgpack where
  carries_decoded : ∀ bytes value, decode bytes = some value → toMsgpack.Carries value
  carries_item : ∀ items, toMsgpack.Carries (.array items) →
    ∀ item ∈ items, toMsgpack.Carries item
  /-- The length of an array is what it needs beside its items. -/
  carries_array : ∀ items items', toMsgpack.Carries (.array items) →
    items'.length ≤ items.length → (∀ item ∈ items', toMsgpack.Carries item) →
    toMsgpack.Carries (.array items')

variable (codec : Codec)

def encodeTick (tick : Value) : Except TypeError (List UInt8) := do
  let events ← tick.index 1
  let storageData ← tick.index 2
  if hasLength events || hasLength storageData then
    return codec.encode (some tick)
  else return codec.encode (← tick.index 0)

/-- `event[EventIndex.EventFlags]` as the operator `&` takes it. -/
def eventFlags (lib : Library) (event : Value) : Except TypeError (BitVec 32) := do
  match ← event.index 1 with
  | some (.number n) => return BitVec.ofInt 32 n
  | other => lib.toInt32 other

def eventsOf : List Value → List Value
  | .array events :: _ => events
  | _ => []

/-- A tick: its frame, and then its events and its storage data, if it has any.  The
flags of an event can be read. -/
structure Tick (codec : Codec) where
  frame : Int
  rest : List Value
  readable : ∀ event ∈ eventsOf rest, ∃ flags, eventFlags codec.toLibrary event = .ok flags
  carriesFrame : codec.Carries (.number frame)
  carries : rest ≠ [] → codec.Carries (.array (.number frame :: rest))

namespace Tick

variable {codec : Codec}

def value (tick : Tick codec) : Value := .array (.number tick.frame :: tick.rest)

def events (tick : Tick codec) : List Value := eventsOf tick.rest

variable {tick : Tick codec}

theorem ext {tick' : Tick codec} (frame : tick.frame = tick'.frame)
    (rest : tick.rest = tick'.rest) : tick = tick' := by
  cases tick
  cases tick'
  cases frame
  cases rest
  rfl

theorem value_inj {tick' : Tick codec} (same : tick.value = tick'.value) : tick = tick' := by
  obtain ⟨frame, rest⟩ := List.cons.inj (Value.array.inj same)
  exact ext (Value.number.inj frame) rest

def hasContent (tick : Tick codec) : Bool :=
  hasLength tick.rest[0]? || hasLength tick.rest[1]?

def bare (tick : Tick codec) : Tick codec where
  frame := tick.frame
  rest := []
  readable := fun _ there => (not_mem_nil there).elim
  carriesFrame := tick.carriesFrame
  carries := fun some => (some rfl).elim

def normal (tick : Tick codec) : Tick codec := if tick.hasContent then tick else tick.bare

/-- What `encodeTick` makes of the tick. -/
def encoded (tick : Tick codec) : List UInt8 :=
  if tick.hasContent then codec.encode (some tick.value)
  else codec.encode (some (.number tick.frame))

theorem encodeTick_value (tick : Tick codec) : encodeTick codec tick.value = .ok tick.encoded := by
  unfold encodeTick encoded
  change (if tick.hasContent = true then Except.ok (codec.encode (some tick.value))
    else Except.ok (codec.encode (some (.number tick.frame)))) = _
  by_cases content : tick.hasContent = true
  · rw [if_pos content, if_pos content]
  · rw [if_neg content, if_neg content]

theorem rest_ne_nil (content : tick.hasContent = true) : tick.rest ≠ [] := by
  intro nothing
  rw [hasContent, nothing] at content
  cases content

theorem decodeTick_encoded (tick : Tick codec) :
    decodeTick codec.toLibrary tick.encoded = some tick.normal.value := by
  unfold encoded normal decodeTick
  by_cases content : tick.hasContent = true
  · rw [if_pos content, if_pos content]
    have carried : codec.decode (codec.encode (some tick.value)) = some tick.value :=
      tick.carries (rest_ne_nil content)
    rw [carried]
    rfl
  · rw [if_neg content, if_neg content]
    have carried : codec.decode (codec.encode (some (.number tick.frame))) =
      some (.number tick.frame) := tick.carriesFrame
    rw [carried]
    rfl

@[simp] theorem normal_frame (tick : Tick codec) : tick.normal.frame = tick.frame := by
  unfold normal
  split <;> rfl

def lacks (codec : Codec) (masks : List (BitVec 32)) (event : Value) : Bool :=
  match lacksFlags codec.toLibrary event masks with
  | .ok lacking => lacking
  | .error _ => false

theorem lacksFlags_ok {event : Value} {flags : BitVec 32}
    (readable : eventFlags codec.toLibrary event = .ok flags) (masks : List (BitVec 32)) :
    lacksFlags codec.toLibrary event masks = .ok (masks.all fun mask => flags &&& mask == 0) := by
  have flagged (mask : BitVec 32) :
      (do Value.hasFlag codec.toInt32 (← event.index 1) mask) = .ok (flags &&& mask != 0) := by
    unfold eventFlags at readable
    cases at1 : event.index 1 with
    | error e =>
      rw [at1] at readable
      cases readable
    | ok flagsValue =>
      rw [at1] at readable
      change Value.hasFlag codec.toInt32 flagsValue mask = _
      unfold Value.hasFlag
      split
      · cases readable
        rfl
      · next notNumber =>
        have converted : codec.toInt32 flagsValue = .ok flags := by
          revert readable
          change (match flagsValue with
            | some (.number n) => Except.ok (BitVec.ofInt 32 n)
            | other => codec.toInt32 other) = _ → _
          split
          · next n => exact absurd rfl (notNumber n)
          · exact id
        rw [converted]
        rfl
  induction masks with
  | nil => rfl
  | cons mask rest ih =>
    rw [all_cons, lacksFlags]
    have first := flagged mask
    cases at1 : event.index 1 with
    | error e =>
      rw [at1] at first
      cases first
    | ok flagsValue =>
      rw [at1] at first
      change Value.hasFlag codec.toInt32 flagsValue mask = _ at first
      change (do
        let flagged ← Value.hasFlag codec.toInt32 flagsValue mask
        if flagged then return false else lacksFlags codec.toLibrary event rest) = _
      rw [first, ih]
      change (if (flags &&& mask != 0) = true then Except.ok false
        else Except.ok (rest.all fun mask => flags &&& mask == 0)) = _
      by_cases free : flags &&& mask = 0
      · rw [free]
        rfl
      · have flagged : (flags &&& mask != 0) = true := bne_iff_ne.mpr free
        have unequal : (flags &&& mask == 0) = false := beq_eq_false_iff_ne.mpr free
        rw [if_pos flagged, unequal, Bool.false_and]

theorem lacks_eq {event : Value} {flags : BitVec 32}
    (readable : eventFlags codec.toLibrary event = .ok flags) (masks : List (BitVec 32)) :
    lacks codec masks event = masks.all fun mask => flags &&& mask == 0 := by
  rw [lacks, lacksFlags_ok readable]

variable (kept : Value → Bool)

def filterEvents : List Value → List Value
  | .array events :: more => .array (events.filter kept) :: more
  | rest => rest

variable (rest : List Value)

theorem eventsOf_filterEvents :
    eventsOf (filterEvents kept rest) = (eventsOf rest).filter kept := by
  unfold filterEvents
  split
  · rfl
  · next notArray =>
    unfold eventsOf
    split
    · exact absurd rfl (notArray _ _)
    · rfl

theorem length_filterEvents :
    (filterEvents kept rest).length = rest.length := by
  unfold filterEvents
  split <;> rfl

theorem carries_filterEvents
    (items : ∀ item ∈ rest, codec.Carries item) :
    ∀ item ∈ filterEvents kept rest, codec.Carries item := by
  unfold filterEvents
  split
  · next events more =>
    intro item there
    rcases mem_cons.mp there with rfl | inMore
    · have all : codec.Carries (.array events) := items _ mem_cons_self
      refine codec.carries_array events _ all (length_filter_le kept events) ?_
      intro event inEvents
      exact codec.carries_item events all event (mem_of_mem_filter inEvents)
    · exact items item (mem_cons_of_mem _ inMore)
  · exact items

def without (tick : Tick codec) (masks : List (BitVec 32)) : Tick codec where
  frame := tick.frame
  rest := filterEvents (lacks codec masks) tick.rest
  readable := by
    rw [eventsOf_filterEvents]
    intro event there
    exact tick.readable event (mem_of_mem_filter there)
  carriesFrame := tick.carriesFrame
  carries := by
    intro some
    have length := length_filterEvents (lacks codec masks) tick.rest
    have some' : tick.rest ≠ [] := by
      intro nothing
      rw [nothing] at some
      exact some rfl
    have all := tick.carries some'
    have items := codec.carries_item _ all
    refine codec.carries_array _ _ all (by simp [length]) ?_
    intro item there
    rcases mem_cons.mp there with rfl | inRest
    · exact tick.carriesFrame
    · refine carries_filterEvents _ _ (fun item' there' => ?_) item inRest
      exact items item' (mem_cons_of_mem _ there')

@[simp] theorem without_frame (tick : Tick codec) (masks : List (BitVec 32)) :
    (tick.without masks).frame = tick.frame := rfl

theorem events_without (tick : Tick codec) (masks : List (BitVec 32)) :
    (tick.without masks).events = tick.events.filter (lacks codec masks) :=
  eventsOf_filterEvents _ _

theorem filterAuxM_ok (p : Value → Except TypeError Bool) (kept : Value → Bool)
    (events before : List Value) (agrees : ∀ event ∈ events, p event = .ok (kept event)) :
    events.filterAuxM p before = .ok ((events.filter kept).reverse ++ before) := by
  induction events generalizing before with
  | nil => rfl
  | cons event rest ih =>
    have first := agrees event mem_cons_self
    have later := fun before => ih before fun event' there =>
      agrees event' (mem_cons_of_mem _ there)
    rw [filterAuxM, first, filter_cons]
    change rest.filterAuxM p (bif kept event then event :: before else before) = _
    cases kept event with
    | true =>
      rw [cond_true, later, if_pos rfl, reverse_cons, append_assoc]
      rfl
    | false =>
      rw [cond_false, later, if_neg Bool.false_ne_true]

theorem filterM_ok (p : Value → Except TypeError Bool) (kept : Value → Bool) (events : List Value)
    (agrees : ∀ event ∈ events, p event = .ok (kept event)) :
    events.filterM p = .ok (events.filter kept) := by
  rw [filterM, filterAuxM_ok p kept events [] agrees]
  change Except.ok ((events.filter kept).reverse ++ []).reverse = _
  rw [append_nil, reverse_reverse]

theorem removeTargetEvents_value (tick : Tick codec) (masks : List (BitVec 32)) :
    removeTargetEvents codec.toLibrary tick.value masks = .ok (tick.without masks).value := by
  obtain ⟨frame, rest, readable, carriesFrame, carries⟩ := tick
  unfold removeTargetEvents without value
  cases rest with
  | nil => rfl
  | cons first more =>
    cases first with
    | array events =>
      have filtered : (events.filterM fun event => lacksFlags codec.toLibrary event masks) =
          .ok (events.filter (lacks codec masks)) := by
        refine filterM_ok _ _ _ fun event there => ?_
        obtain ⟨flags, readsFlags⟩ := readable event there
        rw [lacksFlags_ok readsFlags, lacks_eq readsFlags]
      change (do
        let filteredEvents ← events.filterM fun event =>
          lacksFlags codec.toLibrary event masks
        return Value.array ((Value.number frame :: Value.array events :: more).set 1
          (Value.array filteredEvents))) = _
      rw [filtered]
      rfl
    | _ => rfl

def Lacks (tick : Tick codec) (masks : List (BitVec 32)) : Prop :=
  ∀ event ∈ tick.events, lacks codec masks event = true

theorem lacks_without (tick : Tick codec) (masks : List (BitVec 32)) :
    (tick.without masks).Lacks masks := by
  intro event there
  rw [events_without] at there
  exact (mem_filter.mp there).2

theorem without_of_lacks {masks : List (BitVec 32)} (lacking : tick.Lacks masks) :
    tick.without masks = tick := by
  refine ext rfl ?_
  change filterEvents (lacks codec masks) tick.rest = tick.rest
  unfold Lacks events at lacking
  cases shape : tick.rest with
  | nil => rfl
  | cons first more =>
    rw [shape] at lacking
    cases first with
    | array events =>
      have all : events.filter (lacks codec masks) = events :=
        filter_eq_self.mpr lacking
      rw [filterEvents, all]
    | _ => rfl

theorem hasContent_of_events (some : tick.events ≠ []) : tick.hasContent = true := by
  unfold events eventsOf at some
  unfold hasContent
  split at some
  · next events more shape =>
    rw [shape]
    cases events with
    | nil => exact absurd rfl some
    | cons event events => rfl
  · exact absurd rfl some

theorem normal_of_content (content : tick.hasContent = true) :
    tick.normal = tick := if_pos content

theorem normal_of_no_content (nothing : ¬ tick.hasContent = true) :
    tick.normal = tick.bare := if_neg nothing

/-- A tick is read as it was put, unless it has parts that are all empty. -/
theorem normal_eq_self_iff (tick : Tick codec) :
    tick.normal = tick ↔ tick.hasContent = true ∨ tick.rest = [] := by
  by_cases content : tick.hasContent = true
  · simp [normal_of_content content, content]
  · rw [normal_of_no_content content]
    constructor
    · intro same
      exact .inr (congrArg Tick.rest same).symm
    · intro cond
      exact ext rfl (cond.resolve_left content).symm

@[simp] theorem normal_normal (tick : Tick codec) : tick.normal.normal = tick.normal := by
  by_cases content : tick.hasContent = true
  · rw [normal_of_content content, normal_of_content content]
  · rw [normal_of_no_content content]
    rfl

@[simp] theorem encoded_normal (tick : Tick codec) : tick.normal.encoded = tick.encoded := by
  by_cases content : tick.hasContent = true
  · rw [normal_of_content content]
  · rw [normal_of_no_content content, encoded, encoded, if_neg content]
    rfl

theorem filterEvents_filterEvents (kept kept' : Value → Bool) (rest : List Value)
    (fewer : ∀ event, kept' event = true → kept event = true) :
    filterEvents kept' (filterEvents kept rest) = filterEvents kept' rest := by
  cases rest with
  | nil => rfl
  | cons first more =>
    cases first with
    | array events =>
      rw [filterEvents, filterEvents, filterEvents, filter_filter]
      have both : (fun event => kept' event && kept event) = kept' := by
        funext event
        cases isKept : kept' event with
        | false => rfl
        | true => exact fewer event isKept
      rw [both]
    | _ => rfl

theorem hasContent_filterEvents (kept kept' : Value → Bool) (rest : List Value)
    (fewer : ∀ event, kept' event = true → kept event = true)
    (some : hasLength (filterEvents kept' rest)[0]? = true) :
    hasLength (filterEvents kept rest)[0]? = true := by
  cases rest with
  | nil => exact some
  | cons first more =>
    cases first with
    | array events =>
      simp only [filterEvents, List.getElem?_cons_zero, hasLength, Bool.not_eq_true',
        isEmpty_eq_false_iff, ne_eq, filter_eq_nil_iff] at some ⊢
      intro none
      refine some fun event there isKept => ?_
      exact none event there (fewer event isKept)
    | _ => exact some

theorem getElem?_filterEvents :
    (filterEvents kept rest)[1]? = rest[1]? := by
  unfold filterEvents
  split <;> rfl

theorem Lacks.normal {masks : List (BitVec 32)} (lacking : tick.Lacks masks) :
    tick.normal.Lacks masks := by
  by_cases content : tick.hasContent = true
  · rw [normal_of_content content]
    exact lacking
  · rw [normal_of_no_content content]
    intro event there
    exact (not_mem_nil there).elim

/-- Events that are removed in the end may be removed, and the tick written, before. -/
theorem normal_without_normal_without (tick : Tick codec) (masks masks' : List (BitVec 32))
    (fewer : ∀ event, lacks codec masks' event = true → lacks codec masks event = true) :
    ((tick.without masks).normal.without masks').normal = (tick.without masks').normal := by
  have again : (tick.without masks).without masks' = tick.without masks' :=
    ext rfl (filterEvents_filterEvents _ _ tick.rest fewer)
  by_cases content : (tick.without masks).hasContent = true
  · rw [normal_of_content content, again]
  · have none : ¬ (tick.without masks').hasContent = true := by
      intro content'
      apply content
      rw [hasContent, Bool.or_eq_true] at content' ⊢
      rcases content' with events | storageData
      · exact .inl (hasContent_filterEvents _ _ _ fewer events)
      · refine .inr ?_
        change hasLength (filterEvents _ tick.rest)[1]? = true at storageData ⊢
        rw [getElem?_filterEvents] at storageData ⊢
        exact storageData
    rw [normal_of_no_content content, normal_of_no_content none]
    rfl

/-- A tick with such an event can be told from the one without it. -/
theorem normal_without_eq_iff (tick : Tick codec) (masks : List (BitVec 32)) :
    (tick.without masks).normal = tick.normal ↔ tick.Lacks masks := by
  constructor
  · intro same event there
    have content : tick.hasContent = true :=
      hasContent_of_events (ne_nil_of_mem there)
    rw [normal_of_content content] at same
    have lacking : tick.Lacks masks := by
      have events := congrArg Tick.events same
      unfold normal at events
      split at events
      · rw [events_without, filter_eq_self] at events
        exact events
      · rw [← events] at there
        exact (not_mem_nil there).elim
    exact lacking event there
  · intro lacking
    rw [without_of_lacks lacking]

end Tick

structure RawTick (codec : Codec) where
  bytes : List UInt8
  tick : Tick codec
  decodes : decodeTick codec.toLibrary bytes = some tick.value

def tickFormat : Format (Tick codec) (RawTick codec) where
  encode := fun tick => ⟨tick.encoded, tick.normal, tick.decodeTick_encoded⟩
  decode := RawTick.tick
  json := id
  frame := Tick.frame
  timestamp := fun _ => none

theorem tickFormat_lawful : (tickFormat codec).Lawful := by
  intro tick
  have same : RawTick.mk tick.normal.encoded tick.normal.normal
      tick.normal.decodeTick_encoded = ⟨tick.encoded, tick.normal, tick.decodeTick_encoded⟩ := by
    simp only [Tick.encoded_normal, Tick.normal_normal]
  change Record.mk tick.normal.frame none _ = Record.mk tick.frame none _
  rw [Tick.normal_frame]
  exact congrArg (Record.mk tick.frame none) same

@[simp] theorem tickFormat_readBack (tick : Tick codec) :
    (tickFormat codec).readBack tick = tick.normal := rfl

end AkashicSystem.Playlog
