import AkashicSystem.Js.PlainObject
import AkashicSystem.Lib.Run

/-!
# The caches of the dispatcher

`getAliveProcesses` and `getExcludeProcesses` cache their answers trait by trait, under one time
for all traits.  An answer is known by the trait it is for and the time it came.
-/

set_option autoImplicit false

namespace AkashicSystem.Dispatching

open Function (update)
open Js (PlainObject Property inherited)

namespace DispatcherCaches

inductive Kind where
  | alive
  | exclude
deriving DecidableEq

structure Fetch where
  trait : String
  time : Nat
deriving DecidableEq

structure Cache where
  entries : PlainObject Fetch
  time : Nat

/-- A list that a dispatch has used. -/
structure Use where
  kind : Kind
  trait : String
  found : Property Fetch
  time : Nat
deriving DecidableEq

inductive Action where
  | pass (msec : Nat)
  | get (kind : Kind) (trait : String)
  | fetched (index : Nat)
  | failed (index : Nat)

end DispatcherCaches

open DispatcherCaches

structure DispatcherCaches where
  expire : Kind → Nat
  cache : Kind → Cache
  awaited : List (Kind × String)
  now : Nat
  uses : List Use
  made : Nat
  /-- The answers that have come, the last one first. -/
  fetches : Kind → List Fetch

namespace DispatcherCaches

def new (expire : Kind → Nat) (now : Nat) : DispatcherCaches where
  expire := expire
  cache _ := ⟨.empty, now⟩
  awaited := []
  now := now
  uses := []
  made := now
  fetches _ := []

def cacheExpired (d : DispatcherCaches) (kind : Kind) : Bool :=
  d.expire kind < d.now - (d.cache kind).time

def get (d : DispatcherCaches) (kind : Kind) (trait : String) : DispatcherCaches :=
  let found := (d.cache kind).entries.property trait
  if found ≠ .absent ∧ d.cacheExpired kind = false then
    { d with uses := d.uses ++ [⟨kind, trait, found, d.now⟩] }
  else { d with awaited := d.awaited ++ [(kind, trait)] }

/-- The answer comes, and is cached; what an assignment to `__proto__` does is not followed. -/
def fetched (d : DispatcherCaches) (kind : Kind) (trait : String) : DispatcherCaches :=
  let fetch : Fetch := ⟨trait, d.now⟩
  { d with
    cache := update d.cache kind ⟨(d.cache kind).entries.set trait fetch, d.now⟩
    uses := d.uses ++ [⟨kind, trait, .own fetch, d.now⟩]
    fetches := update d.fetches kind (fetch :: d.fetches kind) }

def step (d : DispatcherCaches) : Action → DispatcherCaches
  | .pass msec => { d with now := d.now + msec }
  | .get kind trait => d.get kind trait
  | .fetched index =>
    match d.awaited[index]? with
    | some (kind, trait) => { d with awaited := d.awaited.eraseIdx index }.fetched kind trait
    | none => d
  | .failed index => { d with awaited := d.awaited.eraseIdx index }

/-- The list was fetched for the trait, and no longer ago than the cache allows. -/
def Use.Recent (expire : Kind → Nat) (use : Use) : Prop :=
  ∃ fetch : Fetch, use.found = .own fetch ∧ fetch.trait = use.trait ∧
    use.time ≤ fetch.time + expire use.kind

def Recent (d : DispatcherCaches) : Prop := ∀ use ∈ d.uses, use.Recent d.expire

/-- An answer for any trait has come within the expiry, or the cache was made within it. -/
def Renewed (d : DispatcherCaches) (kind : Kind) : Prop :=
  d.now ≤ d.made + d.expire kind ∨ ∃ fetch ∈ d.fetches kind, d.now ≤ fetch.time + d.expire kind

def lastFetch (d : DispatcherCaches) (kind : Kind) (trait : String) : Option Fetch :=
  (d.fetches kind).find? fun fetch => fetch.trait = trait

/-- After an answer for any trait, and until the expiry has passed without another, a trait is
dispatched that has had none yet, or whose own last answer came within the expiry. -/
def Permitted (d : DispatcherCaches) : Action → Prop
  | .get kind trait => trait ≠ "__proto__" ∧ (d.Renewed kind →
      (∀ fetch ∈ d.lastFetch kind trait, d.now ≤ fetch.time + d.expire kind) ∧
        (d.lastFetch kind trait = none → inherited trait = none))
  | .pass _ | .fetched _ | .failed _ => True

instance (d : DispatcherCaches) (kind : Kind) : Decidable (d.Renewed kind) :=
  inferInstanceAs (Decidable (_ ∨ _))

instance (d : DispatcherCaches) : DecidablePred (Permitted d)
  | .get _ _ => inferInstanceAs (Decidable (_ ∧ _))
  | .pass _ | .fetched _ | .failed _ => isTrue trivial

/-- The common time is that of an answer for some trait; the entries are the last answers for
their own. -/
structure Inv (d : DispatcherCaches) : Prop where
  recent : d.Recent
  time : ∀ kind, (d.cache kind).time = d.made ∨
    ∃ fetch ∈ d.fetches kind, fetch.time = (d.cache kind).time
  entries : ∀ kind trait, (d.cache kind).entries.get? trait = d.lastFetch kind trait

variable {d : DispatcherCaches}

theorem Inv.renewed (inv : Inv d) {kind : Kind} (unexpired : d.cacheExpired kind = false) :
    d.Renewed kind := by
  have within : d.now ≤ (d.cache kind).time + d.expire kind := by
    have late := of_decide_eq_false unexpired
    omega
  rcases inv.time kind with made | ⟨fetch, there, time⟩
  · rw [made] at within
    exact .inl within
  · rw [← time] at within
    exact .inr ⟨fetch, there, within⟩

theorem lastFetch_trait {kind : Kind} {trait : String} {fetch : Fetch}
    (last : d.lastFetch kind trait = some fetch) : fetch.trait = trait :=
  of_decide_eq_true (List.find?_some last :)

theorem recent_add (recent : d.Recent) {use : Use} (isRecent : use.Recent d.expire) :
    ∀ use' ∈ d.uses ++ [use], use'.Recent d.expire := by
  intro use' there
  rcases List.mem_append.mp there with old | new
  · exact recent use' old
  · rwa [List.mem_singleton.mp new]

theorem inv_get (inv : Inv d) {kind : Kind} {trait : String}
    (permitted : Permitted d (.get kind trait)) : Inv (d.get kind trait) := by
  unfold get
  dsimp only
  split_ifs with served
  · refine ⟨recent_add inv.recent ?_, inv.time, inv.entries⟩
    obtain ⟨fresh, plain⟩ := permitted.2 (inv.renewed served.2)
    have entry := inv.entries kind trait
    cases last : d.lastFetch kind trait with
    | none =>
      rw [last] at entry
      exact absurd ((PlainObject.property_eq_absent_iff _ _).mpr ⟨entry, plain last⟩) served.1
    | some fetch =>
      rw [last] at entry
      have own := (PlainObject.property_eq_own_iff _ _ _).mpr entry
      exact ⟨fetch, own, lastFetch_trait last, fresh fetch last⟩
  · exact ⟨inv.recent, inv.time, inv.entries⟩

theorem inv_fetched (inv : Inv d) (kind : Kind) (trait : String) :
    Inv (d.fetched kind trait) := by
  refine ⟨recent_add inv.recent ⟨_, rfl, rfl, Nat.le_add_right _ _⟩, fun other => ?_,
    fun other trait' => ?_⟩
  · by_cases same : other = kind
    · subst same
      exact .inr ⟨⟨trait, d.now⟩, by simp [fetched], by simp [fetched]⟩
    · simpa [fetched, same] using inv.time other
  · have entry := inv.entries other trait'
    by_cases same : other = kind
    · subst same
      unfold lastFetch at entry ⊢
      simp only [fetched, Function.update_self, PlainObject.get?_set, List.find?_cons]
      by_cases isTrait : trait' = trait
      · simp [isTrait]
      · simpa [isTrait, Ne.symm isTrait] using entry
    · simpa [fetched, lastFetch, same] using entry

theorem inv_step (d : DispatcherCaches) (action : Action) (inv : Inv d)
    (permitted : Permitted d action) : Inv (step d action) := by
  cases action with
  | pass msec | failed index => exact ⟨inv.recent, inv.time, inv.entries⟩
  | get kind trait => exact inv_get inv permitted
  | fetched index =>
    rw [step]
    split
    · have answered : Inv { d with awaited := d.awaited.eraseIdx index } :=
        ⟨inv.recent, inv.time, inv.entries⟩
      exact inv_fetched answered _ _
    · exact inv

/-- All lists that are used are recent, if no trait is dispatched that the answers for others keep
from being fetched again. -/
theorem recent_of_permitted (expire : Kind → Nat) (now : Nat) (actions : List Action)
    (run : Run.Allowed step Permitted (new expire now) actions) :
    (Run.final step (new expire now) actions).Recent := by
  have first : Inv (new expire now) := by
    refine ⟨fun use there => ?_, fun _ => .inl rfl, fun _ _ => rfl⟩
    cases there
  exact (Run.invariant inv_step _ actions first run).recent

/-- The answer for the second trait renews the time, and the first is dispatched while its own
answer is recent, and again after all have expired. -/
def apart : List Action :=
  [.get .alive "a", .fetched 0, .pass 3000, .get .alive "b", .fetched 0, .pass 2000,
    .get .alive "a", .pass 3001, .get .alive "a", .fetched 0]

theorem recent_of_permitted_apart : (Run.final step (new (fun _ => 5000) 0) apart).Recent :=
  recent_of_permitted (fun _ => 5000) 0 apart (by decide)

/-- The fetch of the second trait renews the time for the first one. -/
def renewed : List Action :=
  [.get .alive "a", .fetched 0, .pass 5000, .get .alive "b", .fetched 0, .pass 5000,
    .get .alive "a"]

theorem renewed_outdated : ¬ ∀ actions,
    (Run.final step (new (fun _ => 5000) 0) actions).Recent := by
  intro recent
  obtain ⟨fetch, own, -, late⟩ :=
    recent renewed ⟨.alive, "a", .own ⟨"a", 0⟩, 10000⟩ (by decide)
  cases own
  exact absurd late (by decide)

end DispatcherCaches
end AkashicSystem.Dispatching
