import Mathlib.Data.List.Count
import AkashicSystem.PlaylogServer.PlayClients

/-!
# The holder of a play and its clients

An AMFlow that is open and needs a connection is registered once, no other is, and
the play has a holder as long as one is.
-/

set_option autoImplicit false

namespace AkashicSystem.PlaylogServer
namespace PlayClients

open ServerEngineAMFlow List
open RequestHandler (ref)

def Flow.needsHolder (flow : Flow) : Bool := flow.isOpen && needsConnection flow.permission

/-- The play has a live holder exactly for the AMFlows that need it. -/
def FollowsClients (w : World) : Prop :=
  ((∃ holder, w.holder = some holder ∧ w.live holder = true) ↔
      ∃ flow, (w.flows flow).needsHolder = true) ∧
    (∀ flow, (w.flows flow).needsHolder = true → w.clients.count flow = 1) ∧
    ∀ flow, 0 < (w.flows flow).closes → flow ∉ w.clients

/-- The calls of an AMFlow do not overlap while it is registered and not yet prepared, and
the holder of the play does not fail. -/
def Timely (w : World) : Task → Reply → Prop
  | .close flow, _ | .authenticate flow, _ =>
    flow ∈ w.clients → (w.flows flow).playlogHandlerPrepared = true
  | .validating flow, .validated permission =>
    flow ∉ w.clients ∧ (needsConnection permission = true → (w.flows flow).closes = 0)
  | .onError holder, _ => (w.holders holder).destroyed = true ∨ w.holder = none
  | .granting _ (some (some holder)) _, .prepared false =>
    (w.holders holder).destroyed = true ∨ w.holder = none
  | _, _ => True

/-- Every step is timely. -/
def InTurn (p : Run) : Pool.Action Task Reply → Prop
  | .start task => task.Begins
  | .step index reply => ∀ task ∈ p.threads[index]?, Timely p.state task reply

instance (w : World) : DecidableRel (Timely w)
  | .close flow, _ | .authenticate flow, _ =>
    inferInstanceAs (Decidable (flow ∈ w.clients →
      (w.flows flow).playlogHandlerPrepared = true))
  | .validating flow, .validated permission =>
    inferInstanceAs (Decidable (flow ∉ w.clients ∧
      (needsConnection permission = true → (w.flows flow).closes = 0)))
  | .onError holder, _ =>
    inferInstanceAs (Decidable ((w.holders holder).destroyed = true ∨ w.holder = none))
  | .granting _ (some (some holder)) _, .prepared false =>
    inferInstanceAs (Decidable ((w.holders holder).destroyed = true ∨ w.holder = none))
  | .granting _ (some (some _)) _, .prepared true | .granting _ (some (some _)) _, .resolved
  | .granting _ (some (some _)) _, .rejected | .granting _ (some (some _)) _, .validated _
  | .granting _ (some (some _)) _, .writeLock _ | .granting _ (some none) _, _
  | .granting _ none _, _ | .validating _, .resolved | .validating _, .rejected
  | .validating _, .prepared _ | .validating _, .writeLock _ | .open _, _ | .closing _ _, _
  | .reauthenticating _ _, _ | .done, _ | .rejected, _ => isTrue trivial

instance (p : Run) : DecidablePred (InTurn p)
  | .start task => inferInstanceAs (Decidable task.Begins)
  | .step index reply =>
    inferInstanceAs (Decidable (∀ task ∈ p.threads[index]?, Timely p.state task reply))

def Task.releases (holder : Nat) : Task → Prop
  | .closing _ (.cancelConsume h) | .closing _ (.close h) => h = holder
  | .reauthenticating _ (.cancelConsume h) | .reauthenticating _ (.close h) => h = holder
  | _ => False

structure Inv (p : Run) : Prop where
  registered : ∀ flow, p.state.clients.count flow =
    if (p.state.flows flow).needsHolder then 1 else 0
  held : p.state.holder = none ↔ p.state.clients = []
  live : ∀ holder, p.state.holder = some holder →
    holder < p.state.made ∧ p.state.live holder = true
  unopened : ∀ flow, (p.state.flows flow).opens = 0 →
    (p.state.flows flow).permission = .initial
  released : ∀ task ∈ p.threads, ∀ holder, task.releases holder →
    holder < p.state.made ∧ p.state.holder ≠ some holder

section Steps

variable {p : Run} {index : Nat} {task task' : Task} {w' : World}

theorem Inv.follows (inv : Inv p) : FollowsClients p.state := by
  have registered (flow : Nat) : flow ∈ p.state.clients ↔
      (p.state.flows flow).needsHolder = true := by
    rw [← count_pos_iff, inv.registered]
    cases (p.state.flows flow).needsHolder <;> simp
  refine ⟨⟨fun ⟨holder, own, _⟩ => ?_, fun ⟨flow, needs⟩ => ?_⟩, fun flow needs => ?_,
    fun flow closed there => ?_⟩
  · have some_ : p.state.clients ≠ [] := by
      intro none_
      cases (inv.held.mpr none_).symm.trans own
    obtain ⟨flow, there⟩ := exists_mem_of_ne_nil _ some_
    exact ⟨flow, (registered flow).mp there⟩
  · cases own : p.state.holder with
    | none =>
      have there := (registered flow).mpr needs
      rw [inv.held.mp own] at there
      cases there
    | some holder => exact ⟨holder, rfl, (inv.live holder own).2⟩
  · rw [inv.registered, needs]
    rfl
  · have needs := (registered flow).mp there
    simp only [Flow.needsHolder, Flow.isOpen, Bool.and_eq_true, decide_eq_true_eq] at needs
    omega

theorem Inv.step (inv : Inv p)
    (registered : ∀ flow, w'.clients.count flow = if (w'.flows flow).needsHolder then 1 else 0)
    (held : w'.holder = none ↔ w'.clients = [])
    (live : ∀ holder, w'.holder = some holder → holder < w'.made ∧ w'.live holder = true)
    (unopened : ∀ flow, (w'.flows flow).opens = 0 → (w'.flows flow).permission = .initial)
    (made : p.state.made ≤ w'.made) (holder : ∀ holder, w'.holder = some holder →
      p.state.holder = some holder ∨ p.state.made ≤ holder)
    (own : ∀ holder, task'.releases holder → holder < w'.made ∧ w'.holder ≠ some holder) :
    Inv ⟨w', p.threads.set index task'⟩ := by
  refine ⟨registered, held, live, unopened, fun new mem h releases => ?_⟩
  rcases mem_or_eq_of_mem_set mem with old | rfl
  · obtain ⟨known, other⟩ := inv.released new old h releases
    refine ⟨Nat.lt_of_lt_of_le known made, fun eq => ?_⟩
    rcases holder h eq with same | fresh
    · exact other same
    · exact absurd known (Nat.not_lt.mpr fresh)
  · exact own h releases

theorem Inv.beside (inv : Inv p) (clients : w'.clients = p.state.clients)
    (needs : ∀ flow, (w'.flows flow).needsHolder = (p.state.flows flow).needsHolder)
    (unopened : ∀ flow, (w'.flows flow).opens = 0 → (w'.flows flow).permission = .initial)
    (holder : w'.holder = p.state.holder) (made : w'.made = p.state.made)
    (live : ∀ holder, p.state.holder = some holder → w'.holders holder = p.state.holders holder)
    (own : ∀ holder, task'.releases holder → holder < p.state.made ∧ p.state.holder ≠ some holder) :
    Inv ⟨w', p.threads.set index task'⟩ := by
  refine inv.step (fun flow => ?_) ?_ (fun h eq => ?_) unopened (Nat.le_of_eq made.symm)
    (fun h eq => .inl (holder.symm.trans eq)) fun h releases => ?_
  · rw [clients, needs]
    exact inv.registered flow
  · rw [clients, holder]
    exact inv.held
  · have eq := holder.symm.trans eq
    obtain ⟨known, isLive⟩ := inv.live h eq
    refine ⟨made ▸ known, ?_⟩
    rw [World.live, live h eq]
    exact isLive
  · rw [made, holder]
    exact own h releases

variable {r : World × Closing}

theorem Inv.released_flow (inv : Inv p) {flow : Nat} {value : Flow}
    (spec : PlaylogHandler.Closes (p.state.setFlow flow value) flow r)
    (needs : value.needsHolder = false) (unopened : value.opens = 0 → value.permission = .initial)
    (own : ∀ holder, task'.releases holder → r.2 = .cancelConsume holder) :
    Inv ⟨r.1, p.threads.set index task'⟩ := by
  have held : (p.state.setFlow flow value).holder = none ↔
      (p.state.setFlow flow value).clients = [] := inv.held
  refine inv.step (fun other => ?_) (spec.held held) (fun h eq => ?_) (fun other => ?_)
    (Nat.le_of_eq spec.made.symm) (fun h eq => .inl (spec.holder h eq)) fun h releases => ?_
  · rw [spec.clients, spec.flows]
    by_cases same : other = flow
    · subst same
      have count := inv.registered other
      simp only [World.setFlow, Function.update_self, needs, count_erase_self]
      split at count <;> simp [count]
    · simp only [World.setFlow, Function.update_of_ne same, count_erase_of_ne same]
      exact inv.registered other
  · have eq : p.state.holder = some h := spec.holder h eq
    obtain ⟨known, isLive⟩ := inv.live h eq
    rw [World.live, spec.made, spec.holders]
    exact ⟨known, isLive⟩
  · rw [spec.flows]
    by_cases same : other = flow
    · subst same
      simpa [World.setFlow] using unopened
    · simpa [World.setFlow, same] using inv.unopened other
  · obtain ⟨eq, none_⟩ := spec.released h (own h releases)
    have eq : p.state.holder = some h := eq
    refine ⟨?_, fun eq' => ?_⟩
    · rw [spec.made]
      exact (inv.live h eq).1
    · cases none_.symm.trans eq'

theorem Inv.open (inv : Inv p) (flow : Nat) :
    Inv ⟨ServerEngineAMFlow.open p.state flow, p.threads.set index .done⟩ := by
  refine inv.beside rfl (fun other => ?_) (fun other => ?_) rfl rfl (fun _ _ => rfl)
    fun _ releases => releases.elim
  · by_cases same : other = flow
    · subst same
      by_cases fresh : (p.state.flows other).opens = 0
      · have permission := inv.unopened other fresh
        simp [ServerEngineAMFlow.open, ref, World.setFlow, Flow.needsHolder,
          permission, needsConnection, Permission.initial]
      · have opened : 0 < (p.state.flows other).opens := Nat.pos_of_ne_zero fresh
        simp [ServerEngineAMFlow.open, ref, World.setFlow, Flow.needsHolder,
          Flow.isOpen, opened]
    · simp [ServerEngineAMFlow.open, ref, World.setFlow, same]
  · by_cases same : other = flow
    · subst same
      simp [ServerEngineAMFlow.open, ref, World.setFlow]
    · simpa [ServerEngineAMFlow.open, ref, World.setFlow, same] using
        inv.unopened other

theorem Inv.setFlow (inv : Inv p) {flow : Nat} {value : Flow} (absent : flow ∉ p.state.clients)
    (needs : value.needsHolder = false) (unopened : value.opens = 0 → value.permission = .initial)
    (clients : w'.clients = p.state.clients)
    (flows : w'.flows = Function.update p.state.flows flow value)
    (holder : w'.holder = p.state.holder) (made : w'.made = p.state.made)
    (live : w'.holders = p.state.holders) (own : ∀ holder, ¬ task'.releases holder) :
    Inv ⟨w', p.threads.set index task'⟩ := by
  have before : (p.state.flows flow).needsHolder = false := by
    have count := inv.registered flow
    rw [count_eq_zero_of_not_mem absent] at count
    by_contra needs
    rw [if_pos (Bool.not_eq_false _ ▸ needs)] at count
    cases count
  refine inv.beside clients (fun other => ?_) (fun other => ?_) holder made
    (fun h _ => congrFun live h) fun h releases => absurd releases (own h)
  · rw [flows]
    by_cases same : other = flow
    · subst same
      rw [Function.update_self, needs, before]
    · rw [Function.update_of_ne same]
  · rw [flows]
    by_cases same : other = flow
    · subst same
      rw [Function.update_self]
      exact unopened
    · rw [Function.update_of_ne same]
      exact inv.unopened other

theorem releases_first {w : World} {flow : Nat} (spec : PlaylogHandler.Closes w flow r)
    (holder : Nat)
    (releases : (Task.closing flow r.2).releases holder ∨
      (Task.reauthenticating flow r.2).releases holder) :
    r.2 = .cancelConsume holder := by
  have first := spec.first
  cases closing : r.2 with
  | cancelConsume other =>
    rw [closing] at releases
    rcases releases with eq | eq <;> exact congrArg Closing.cancelConsume eq
  | close other => exact absurd closing (first other)
  | done =>
    rw [closing] at releases
    exact releases.elim False.elim False.elim

theorem Inv.close (inv : Inv p) (flow : Nat)
    (timely : flow ∈ p.state.clients → (p.state.flows flow).playlogHandlerPrepared = true) :
    Inv ⟨(close p.state flow).1,
      p.threads.set index (ServerEngineAMFlow.close p.state flow).2⟩ := by
  unfold ServerEngineAMFlow.close
  dsimp only
  split
  · have spec := PlaylogHandler.closes (p.state.setFlow flow { p.state.flows flow with
      closes := (p.state.flows flow).closes + 1 }) flow
    refine inv.released_flow spec ?_ ?_ fun h releases => releases_first spec h (.inl releases)
    · simp [Flow.needsHolder, Flow.isOpen]
    · exact inv.unopened flow
  · next unprepared =>
      have absent : flow ∉ p.state.clients := by
        intro there
        have prepared := timely there
        simp [World.setFlow, prepared] at unprepared
      have needs : ({ p.state.flows flow with
          closes := (p.state.flows flow).closes + 1 } : Flow).needsHolder = false := by
        simp [Flow.needsHolder, Flow.isOpen]
      obtain ⟨refCount, purges, eq⟩ := unref_eq (p.state.setFlow flow
        { p.state.flows flow with closes := (p.state.flows flow).closes + 1 }) flow
      rw [eq]
      exact inv.setFlow absent needs (inv.unopened flow) rfl rfl rfl rfl rfl fun _ => id

theorem Inv.authenticate (inv : Inv p) (flow : Nat)
    (timely : flow ∈ p.state.clients → (p.state.flows flow).playlogHandlerPrepared = true) :
    Inv ⟨(authenticate p.state flow).1,
      p.threads.set index (authenticate p.state flow).2⟩ := by
  have needs : ({ p.state.flows flow with permission := .initial } : Flow).needsHolder = false := by
    simp [Flow.needsHolder, needsConnection, Permission.initial]
  unfold ServerEngineAMFlow.authenticate
  dsimp only
  split
  · have spec := PlaylogHandler.closes (p.state.setFlow flow { p.state.flows flow with
      permission := .initial }) flow
    exact inv.released_flow spec needs (fun _ => rfl)
      fun h releases => releases_first spec h (.inr releases)
  · next unprepared =>
      have absent : flow ∉ p.state.clients := by
        intro there
        have prepared := timely there
        simp [World.setFlow, prepared] at unprepared
      exact inv.setFlow absent needs (fun _ => rfl) rfl rfl rfl rfl rfl fun _ => id

theorem not_releases_granting (flow : Nat) (prepare : Option (Option Nat)) (lock : Bool)
    (holder : Nat) : ¬ (granting flow prepare lock).releases holder := by
  unfold granting
  split_ifs <;> exact id

section

variable (inv : Inv p)
include inv

theorem Inv.validated (flow : Nat) (permission : Permission)
    (opened : (p.state.flows flow).opens ≠ 0) (absent : flow ∉ p.state.clients)
    (unclosed : needsConnection permission = true → (p.state.flows flow).closes = 0) :
    Inv ⟨(validated p.state flow permission).1,
      p.threads.set index (ServerEngineAMFlow.validated p.state flow permission).2⟩ := by
  unfold ServerEngineAMFlow.validated
  dsimp only
  split
  · next needs =>
      have spec := PlaylogHandler.prepares (p.state.setFlow flow { p.state.flows flow with
        permission := permission }) flow
      generalize PlaylogHandler.prepare (p.state.setFlow flow { p.state.flows flow with
        permission := permission }) flow = r at spec ⊢
      have open_ : ({ p.state.flows flow with permission := permission } : Flow).needsHolder =
          true := by
        simp [Flow.needsHolder, Flow.isOpen, needs, unclosed needs, Nat.pos_of_ne_zero opened]
      obtain ⟨holder, own, origin⟩ := spec.held
      refine inv.step (fun other => ?_) ?_ (fun h eq => ?_) (fun other => ?_) spec.made
        (fun h eq => ?_) fun h releases =>
          absurd releases (not_releases_granting flow (some r.2) permission.writeTick h)
      · rw [spec.clients, spec.flows]
        by_cases same : other = flow
        · subst same
          have none_ := count_eq_zero_of_not_mem absent
          simp [World.setFlow, open_, none_]
        · simp only [World.setFlow, Function.update_of_ne same, count_append,
            count_cons_of_ne (Ne.symm same), count_nil, Nat.add_zero]
          exact inv.registered other
      · simp [own, spec.clients]
      · cases own.symm.trans eq
        rcases origin with ⟨before, holders⟩ | ⟨fresh, made, isLive⟩
        · have before : p.state.holder = some holder := before
          obtain ⟨known, isLive⟩ := inv.live holder before
          refine ⟨Nat.lt_of_lt_of_le known spec.made, ?_⟩
          rw [World.live, holders]
          exact isLive
        · refine ⟨?_, isLive⟩
          rw [made, fresh]
          exact Nat.lt_succ_self _
      · rw [spec.flows]
        by_cases same : other = flow
        · subst same
          simp [World.setFlow, opened]
        · simpa [World.setFlow, same] using inv.unopened other
      · cases own.symm.trans eq
        rcases origin with ⟨before, _⟩ | ⟨fresh, _⟩
        · exact .inl before
        · exact .inr (Nat.le_of_eq fresh.symm)
  · next alone =>
      refine @Inv.setFlow _ _ _ _ inv flow { p.state.flows flow with permission := permission }
        absent ?_ (fun none_ => absurd none_ opened) rfl rfl rfl rfl rfl
        fun h => not_releases_granting flow none permission.writeTick h
      simp [Flow.needsHolder, alone]

theorem Inv.setHolder {holder : Nat} (value : Holder) (other : p.state.holder ≠ some holder)
    (own : ∀ h, task'.releases h → h < p.state.made ∧ p.state.holder ≠ some h) :
    Inv ⟨p.state.setHolder holder value, p.threads.set index task'⟩ := by
  refine inv.beside rfl (fun _ => rfl) inv.unopened rfl rfl (fun h held => ?_) own
  have distinct : h ≠ holder := by
    intro same
    subst same
    exact other held
  simp [World.setHolder, distinct]

theorem Inv.onError (holder : Nat)
    (gone : (p.state.holders holder).destroyed = true ∨ p.state.holder = none)
    (own : ∀ h, ¬ task'.releases h) :
    Inv ⟨PlaylogHandler.onError p.state holder, p.threads.set index task'⟩ := by
  unfold PlaylogHandler.onError
  split
  · exact inv.beside rfl (fun _ => rfl) inv.unopened rfl rfl (fun _ _ => rfl) fun h releases =>
      absurd releases (own h)
  · next alive =>
      have none_ := gone.resolve_left alive
      have moved : Inv ⟨p.state.setHolder holder { p.state.holders holder with destroyed := true },
          p.threads.set index task'⟩ :=
        inv.setHolder _ (by simp [none_]) fun h releases => absurd releases (own h)
      have same : ({ p.state.setHolder holder { p.state.holders holder with destroyed := true } with
          holder := none } : World) =
            p.state.setHolder holder { p.state.holders holder with destroyed := true } := by
        simp only [World.setHolder, ← none_]
      rw [same]
      exact moved

theorem Inv.closing (here : p.threads[index]? = some task) {closing : Closing}
    {reply : Reply} (moves : closing.next p.state reply = some r)
    (waits : ∀ h, (closing = .cancelConsume h ∨ closing = .close h) → task.releases h)
    (own : ∀ h, task'.releases h → r.2 = .cancelConsume h ∨ r.2 = .close h) :
    Inv ⟨r.1, p.threads.set index task'⟩ := by
  have released := inv.released task (mem_of_getElem? here)
  cases closing with
  | cancelConsume h =>
    cases reply with
    | resolved =>
      cases moves
      obtain ⟨known, other⟩ := released h (waits h (.inl rfl))
      refine inv.setHolder _ other fun h' releases => ?_
      rcases own h' releases with eq | eq
      · cases eq
      · cases eq
        exact ⟨known, other⟩
    | _ => cases moves
  | close h =>
    cases reply with
    | resolved =>
      cases moves
      obtain ⟨known, other⟩ := released h (waits h (.inr rfl))
      refine inv.setHolder _ other fun h' releases => ?_
      rcases own h' releases with eq | eq <;> cases eq
    | _ => cases moves
  | done => cases moves

theorem Inv.setPrepared (flow : Nat) (prepared : Bool) (own : ∀ h, ¬ task'.releases h) :
    Inv ⟨setPrepared p.state flow prepared, p.threads.set index task'⟩ := by
  refine inv.beside rfl (fun other => ?_) (fun other => ?_) rfl rfl (fun _ _ => rfl)
    fun h releases => absurd releases (own h)
  · by_cases same : other = flow
    · subst same
      simp [ServerEngineAMFlow.setPrepared, World.setFlow, Flow.needsHolder, Flow.isOpen]
    · simp [ServerEngineAMFlow.setPrepared, World.setFlow, same]
  · by_cases same : other = flow
    · subst same
      simpa [ServerEngineAMFlow.setPrepared, World.setFlow] using inv.unopened other
    · simpa [ServerEngineAMFlow.setPrepared, World.setFlow, same] using inv.unopened other

theorem Inv.stays (own : ∀ h, ¬ task'.releases h) : Inv ⟨p.state, p.threads.set index task'⟩ :=
  inv.beside rfl (fun _ => rfl) inv.unopened rfl rfl (fun _ _ => rfl) fun h releases =>
    absurd releases (own h)

theorem Inv.next (here : p.threads[index]? = some task) {reply : Reply}
    {r : World × Task} (moves : PlayClients.next p.state task reply = some r)
    (timely : Timely p.state task reply) : Inv ⟨r.1, p.threads.set index r.2⟩ := by
  unfold PlayClients.next at moves
  split at moves
  · cases moves
    exact inv.open _
  · cases moves
    exact inv.close _ timely
  · cases moves
    exact inv.authenticate _ timely
  · split_ifs at moves
    cases moves
    exact inv.onError _ timely fun _ => id
  · next flow =>
      cases moves
      obtain ⟨refCount, purges, eq⟩ := unref_eq p.state flow
      rw [eq]
      exact inv.beside rfl (fun _ => rfl) inv.unopened rfl rfl (fun _ _ => rfl) fun _ releases =>
        releases.elim
  · cases moves
    exact inv.stays fun _ => id
  · next flow closing reply _ _ =>
      obtain ⟨r', moved, eq⟩ := Option.map_eq_some_iff.mp moves
      subst eq
      refine inv.closing here moved (fun h eq => ?_) fun h releases => ?_
      · rcases eq with rfl | rfl <;> rfl
      · revert releases
        cases r'.2 with
        | cancelConsume other => exact fun releases => .inl (congrArg _ releases)
        | close other => exact fun releases => .inr (congrArg _ releases)
        | done => exact False.elim
  · cases moves
    exact inv.setPrepared _ false fun _ => id
  · cases moves
    exact inv.stays fun _ => id
  · next flow closing reply _ _ =>
      obtain ⟨r', moved, eq⟩ := Option.map_eq_some_iff.mp moves
      subst eq
      refine inv.closing here moved (fun h eq => ?_) fun h releases => ?_
      · rcases eq with rfl | rfl <;> rfl
      · revert releases
        cases r'.2 with
        | cancelConsume other => exact fun releases => .inl (congrArg _ releases)
        | close other => exact fun releases => .inr (congrArg _ releases)
        | done => exact False.elim
  · split_ifs at moves
    next opened =>
      cases moves
      exact inv.validated _ _ opened timely.1 timely.2
  · cases moves
    exact inv.stays fun _ => id
  · cases moves
    exact inv.setPrepared _ true fun h => not_releases_granting _ _ _ h
  · cases moves
    exact inv.onError _ timely fun h => not_releases_granting _ _ _ h
  · cases moves
    exact inv.stays fun h => not_releases_granting _ _ _ h
  · cases moves

end

end Steps

theorem inv_start : Inv start where
  registered := fun _ => rfl
  held := ⟨fun _ => rfl, fun _ => rfl⟩
  live := by
    intro holder own
    cases own
  unopened := fun _ _ => rfl
  released := by
    intro task mem
    cases mem

theorem inv_step (p : Run) (action : Pool.Action Task Reply) (inv : Inv p)
    (inTurn : InTurn p action) : Inv (step p action) := by
  cases action with
  | start task =>
    refine ⟨inv.registered, inv.held, inv.live, inv.unopened, fun new mem holder releases => ?_⟩
    rcases mem_append.mp mem with old | own
    · exact inv.released new old holder releases
    · have begins : task.Begins := inTurn
      rw [mem_singleton.mp own] at releases
      cases task with
      | closing flow closing | reauthenticating flow closing => cases begins
      | _ => cases releases
  | step index reply =>
    rcases Pool.step_cases PlayClients.next p index reply with
      same | ⟨task, w', task', here, moves, eq⟩
    · rw [step, same]
      exact inv
    · rw [step, eq]
      exact inv.next here moves (inTurn task here)

/-- Where the calls of an AMFlow do not overlap while it is connecting, and no holder of the
play fails, the holder and its clients follow the AMFlows. -/
theorem holder_follows_clients (actions : List (Pool.Action Task Reply))
    (inTurn : Run.Allowed step InTurn start actions) :
    FollowsClients (Run.final step start actions).state := by
  have inv : Inv (Run.final step start actions) :=
    Run.invariant inv_step start actions inv_start inTurn
  exact inv.follows

def subscriber : Permission := { Permission.initial with subscribeTick := true }

def shared : List (Pool.Action Task Reply) :=
  [.start (.open 0), .start (.authenticate 0), .start (.open 1), .start (.authenticate 1),
    .step 0 .resolved, .step 1 .resolved, .step 1 (.validated subscriber), .step 2 .resolved,
    .step 1 (.prepared true), .step 3 .resolved, .step 3 (.validated subscriber),
    .step 3 (.prepared true), .start (.close 0), .step 4 .resolved, .step 4 .resolved]

theorem holder_follows_clients_shared : FollowsClients (Run.final step start shared).state :=
  holder_follows_clients shared (by decide +kernel)

def closedEarly : List (Pool.Action Task Reply) :=
  [.start (.open 0), .start (.authenticate 0), .start (.close 0), .step 0 .resolved,
    .step 1 .resolved, .step 1 (.validated subscriber), .step 2 .resolved,
    .step 1 (.prepared true)]

/-- It stays registered. -/
theorem registered_after_close :
    ¬ ∀ actions : List (Pool.Action Task Reply), Run.Allowed step Called start actions →
      Idle (Run.final step start actions) →
      FollowsClients (Run.final step start actions).state := by
  intro claimed
  obtain ⟨_, _, absent⟩ := claimed closedEarly (by decide +kernel) (by decide +kernel)
  exact absent 0 (by decide +kernel) (by decide +kernel)

end PlayClients
end AkashicSystem.PlaylogServer
