import Mathlib.Algebra.Ring.Int.Defs
import AkashicSystem.Lib.Run

/-!
# Threads over a shared state

A thread takes a step on the shared state, under a label that resolves its
choices; it has none when it is finished or waits.  An assertion of the state,
one of each thread, and one of each two threads together are an invariant, if a
step keeps its own and does not interfere with the others'.
-/

set_option autoImplicit false

structure Pool (State Thread : Type) where
  state : State
  threads : List Thread

namespace Pool

open List

variable {State Thread Label : Type}

inductive Action (Thread Label : Type) where
  | start (thread : Thread)
  | step (index : Nat) (label : Label)

variable (next : State → Thread → Label → Option (State × Thread))

def step (p : Pool State Thread) : Action Thread Label → Pool State Thread
  | .start thread => { p with threads := p.threads ++ [thread] }
  | .step index label =>
    match p.threads[index]? with
    | none => p
    | some thread =>
      match next p.state thread label with
      | none => p
      | some (state, thread) => ⟨state, p.threads.set index thread⟩

def solo (s : State × Thread) (label : Label) : State × Thread :=
  (next s.1 s.2 label).getD s

/-- The threads start as they may, and step beside threads they may step beside. -/
def Allowed (startable : Thread → Prop) (beside : Thread → Thread → Prop)
    (p : Pool State Thread) : Action Thread Label → Prop
  | .start thread => startable thread
  | .step index _ => ∀ thread, p.threads[index]? = some thread →
      ∀ (j : Nat) (other : Thread), j ≠ index → p.threads[j]? = some other → beside thread other

theorem allowed_step_iff {startable : Thread → Prop} {beside : Thread → Thread → Prop}
    (p : Pool State Thread) (index : Nat) (label : Label) :
    Allowed startable beside p (.step index label) ↔
      ∀ thread ∈ p.threads[index]?, ∀ entry ∈ p.threads.zipIdx, entry.2 ≠ index →
        beside thread entry.1 := by
  constructor
  · rintro allowed thread here ⟨other, j⟩ there distinct
    exact allowed thread here j other distinct (mem_zipIdx_iff_getElem?.mp there)
  · intro all thread here j other distinct there
    exact all thread here (other, j) (mem_zipIdx_iff_getElem?.mpr there) distinct

instance decidableAllowed (startable : Thread → Prop) (beside : Thread → Thread → Prop)
    [DecidablePred startable] [DecidableRel beside] (p : Pool State Thread) :
    ∀ action : Action Thread Label, Decidable (Allowed startable beside p action)
  | .start thread => inferInstanceAs (Decidable (startable thread))
  | .step index label =>
    decidable_of_iff _ (p.allowed_step_iff index label).symm

structure Inv (glob : State → Prop) (loc : State → Thread → Prop)
    (apart : Thread → Thread → Prop) (p : Pool State Thread) : Prop where
  glob : glob p.state
  loc : ∀ (i : Nat) (thread : Thread), p.threads[i]? = some thread → loc p.state thread
  apart : ∀ (i j : Nat) (thread other : Thread), i ≠ j → p.threads[i]? = some thread →
    p.threads[j]? = some other → apart thread other

section Rule

variable {next} {glob : State → Prop} {loc : State → Thread → Prop}
  {apart : Thread → Thread → Prop} {startable : Thread → Prop} {beside : Thread → Thread → Prop}

theorem getElem?_set_cases (threads : List Thread) (index i : Nat) (old new thread : Thread)
    (here : threads[index]? = some old) (there : (threads.set index new)[i]? = some thread) :
    (i = index ∧ thread = new) ∨ (i ≠ index ∧ threads[i]? = some thread) := by
  by_cases same : i = index
  · subst same
    have inside : i < threads.length := (List.getElem?_eq_some_iff.mp here).1
    rw [List.getElem?_set_self inside] at there
    exact .inl ⟨rfl, (Option.some.inj there).symm⟩
  · rw [List.getElem?_set_ne (Ne.symm same)] at there
    exact .inr ⟨same, there⟩

theorem getElem?_append_cases (threads : List Thread) (i : Nat) (new thread : Thread)
    (there : (threads ++ [new])[i]? = some thread) :
    threads[i]? = some thread ∨ (i = threads.length ∧ thread = new) := by
  by_cases inside : i < threads.length
  · rw [List.getElem?_append_left inside] at there
    exact .inl there
  · rw [List.getElem?_append_right (by omega)] at there
    obtain ⟨short, eq⟩ := List.getElem?_eq_some_iff.mp there
    have length : i = threads.length := by
      simp only [length_singleton] at short
      omega
    subst length
    simp only [Nat.sub_self, getElem_cons_zero] at eq
    exact .inr ⟨rfl, eq.symm⟩

theorem step_cases (next : State → Thread → Label → Option (State × Thread))
    (p : Pool State Thread) (index : Nat) (label : Label) :
    p.step next (.step index label) = p ∨ ∃ thread s' thread',
      p.threads[index]? = some thread ∧ next p.state thread label = some (s', thread') ∧
        p.step next (.step index label) = ⟨s', p.threads.set index thread'⟩ := by
  cases here : p.threads[index]? with
  | none => exact .inl (by simp [step, here])
  | some thread =>
    cases moves : next p.state thread label with
    | none => exact .inl (by simp [step, here, moves])
    | some moved => exact .inr ⟨thread, moved.1, moved.2, rfl, moves, by simp [step, here, moves]⟩

theorem inv_step (symm : ∀ thread other, apart thread other → apart other thread)
    (begins : ∀ s thread, startable thread → glob s → loc s thread ∧ ∀ other, apart thread other)
    (own : ∀ s thread label s' thread', next s thread label = some (s', thread') →
      glob s → loc s thread → glob s' ∧ loc s' thread')
    (others : ∀ s thread label s' thread' other, next s thread label = some (s', thread') →
      glob s → loc s thread → loc s other → apart thread other → beside thread other →
      loc s' other ∧ apart thread' other)
    (p : Pool State Thread) (action : Action Thread Label) (inv : Inv glob loc apart p)
    (allowed : Allowed startable beside p action) : Inv glob loc apart (p.step next action) := by
  obtain ⟨globally, locally, together⟩ := inv
  cases action with
  | start thread =>
    obtain ⟨isLoc, isApart⟩ := begins p.state thread allowed globally
    show Inv glob loc apart { p with threads := p.threads ++ [thread] }
    refine ⟨globally, fun i t there => ?_, fun i j t u distinct there there' => ?_⟩
    · rcases getElem?_append_cases _ i thread t there with old | ⟨_, rfl⟩
      · exact locally i t old
      · exact isLoc
    · rcases getElem?_append_cases _ i thread t there with old | ⟨eq, rfl⟩
      · rcases getElem?_append_cases _ j thread u there' with old' | ⟨_, rfl⟩
        · exact together i j t u distinct old old'
        · exact symm _ _ (isApart t)
      · exact isApart u
  | step index label =>
    rcases step_cases next p index label with same | ⟨thread, s', thread', here, moves, eq⟩
    · rw [same]
      exact ⟨globally, locally, together⟩
    · rw [eq]
      obtain ⟨globally', ownLoc⟩ := own _ _ _ _ _ moves globally (locally index thread here)
      have kept : ∀ (j : Nat) (other : Thread), j ≠ index → p.threads[j]? = some other →
          loc s' other ∧ apart thread' other := by
        intro j other distinct there
        exact others _ _ _ _ _ other moves globally (locally index thread here)
          (locally j other there) (together index j thread other (Ne.symm distinct) here there)
          (allowed thread here j other distinct there)
      refine ⟨globally', fun i t there => ?_, fun i j t u distinct there there' => ?_⟩
      · rcases getElem?_set_cases _ index i thread thread' t here there with
          ⟨_, rfl⟩ | ⟨other, old⟩
        · exact ownLoc
        · exact (kept i t other old).1
      · rcases getElem?_set_cases _ index i thread thread' t here there with
          ⟨rfl, rfl⟩ | ⟨other, old⟩
        · rcases getElem?_set_cases _ i j thread _ u here there' with
            ⟨eq, _⟩ | ⟨other', old'⟩
          · exact absurd eq.symm distinct
          · exact (kept j u other' old').2
        · rcases getElem?_set_cases _ index j thread thread' u here there' with
            ⟨_, rfl⟩ | ⟨other', old'⟩
          · exact symm _ _ (kept i t other old).2
          · exact together i j t u distinct old old'

theorem settled_stays (next : State → Thread → Label → Option (State × Thread))
    (p : Pool State Thread) (actions : List (Action Thread Label)) (index : Nat)
    (thread : Thread) (settled : ∀ s label, next s thread label = none)
    (here : p.threads[index]? = some thread) :
    (Run.final (step next) p actions).threads[index]? = some thread := by
  refine @Run.stable _ _ (step next) (fun p => p.threads[index]? = some thread)
    (fun p action here => ?_) p actions here
  cases action with
  | start new =>
    have inside := (List.getElem?_eq_some_iff.mp here).1
    change (p.threads ++ [new])[index]? = some thread
    rw [List.getElem?_append_left inside]
    exact here
  | step other label =>
    rcases step_cases next p other label with
      same | ⟨moving, s', thread', there, moves, eq⟩
    · rw [same]
      exact here
    · rw [eq]
      change (p.threads.set other thread')[index]? = some thread
      by_cases same : other = index
      · subst same
        cases here.symm.trans there
        rw [settled] at moves
        cases moves
      · rw [List.getElem?_set_ne same]
        exact here

theorem solo_stable (own : ∀ s thread label s' thread', next s thread label = some (s', thread') →
      glob s → loc s thread → glob s' ∧ loc s' thread')
    (s : State × Thread) (labels : List Label) (start : glob s.1 ∧ loc s.1 s.2) :
    glob (Run.final (solo next) s labels).1 ∧
      loc (Run.final (solo next) s labels).1 (Run.final (solo next) s labels).2 := by
  have stable : ∀ (s : State × Thread) (label : Label), (glob s.1 ∧ loc s.1 s.2) →
      glob (solo next s label).1 ∧ loc (solo next s label).1 (solo next s label).2 := by
    intro s label inv
    unfold solo
    cases moves : next s.1 s.2 label with
    | none => exact inv
    | some moved => exact own _ _ _ _ _ moves inv.1 inv.2
  exact Run.stable stable s labels start

end Rule

section Totals

def total (weight : Thread → Int) (threads : List Thread) : Int := (threads.map weight).sum

variable (weight : Thread → Int)

@[simp] theorem total_nil : total weight [] = 0 := rfl

variable (threads : List Thread)

@[simp] theorem total_append (thread : Thread) :
    total weight (threads ++ [thread]) = total weight threads + weight thread := by
  simp [total]

theorem total_set (index : Nat) (old new : Thread)
    (here : threads[index]? = some old) :
    total weight (threads.set index new) = total weight threads - weight old + weight new := by
  induction threads generalizing index with
  | nil => cases here
  | cons thread rest ih =>
    cases index with
    | zero =>
      obtain rfl : thread = old := Option.some.inj here
      simp only [total, set_cons_zero, map_cons, sum_cons]
      omega
    | succ index =>
      have tail := ih index here
      simp only [total, set_cons_succ, map_cons, sum_cons] at tail ⊢
      omega

theorem total_nonneg (each : ∀ thread ∈ threads, 0 ≤ weight thread) :
    0 ≤ total weight threads := by
  induction threads with
  | nil => exact Int.le_refl 0
  | cons thread rest ih =>
    have first := each thread mem_cons_self
    have others := ih fun thread there => each thread (mem_cons_of_mem _ there)
    simp only [total, map_cons, sum_cons] at others ⊢
    omega

theorem total_eq_zero (each : ∀ thread ∈ threads, weight thread = 0) :
    total weight threads = 0 := by
  induction threads with
  | nil => rfl
  | cons thread rest ih =>
    have first := each thread mem_cons_self
    have others := ih fun thread there => each thread (mem_cons_of_mem _ there)
    simp only [total, map_cons, sum_cons] at others ⊢
    omega

/-- Where each thread holds one or nothing, they hold as much as there are holders. -/
theorem total_indicator (holds : Thread → Bool) (threads : List Thread) :
    total (fun thread => if holds thread then 1 else 0) threads = threads.countP holds := by
  induction threads with
  | nil => rfl
  | cons thread rest ih =>
    simp only [total, map_cons, sum_cons] at ih ⊢
    rw [countP_cons, ih]
    split <;> omega

theorem total_add (weight' : Thread → Int) (threads : List Thread) :
    total (fun thread => weight thread + weight' thread) threads =
      total weight threads + total weight' threads := by
  induction threads with
  | nil => rfl
  | cons thread rest ih =>
    simp only [total, map_cons, sum_cons] at ih ⊢
    omega

theorem total_of_key {κ : Type} [DecidableEq κ] (key : Thread → κ) (k : κ) (amount : Int)
    (threads : List Thread) (nodup : (threads.map key).Nodup) (there : k ∈ threads.map key) :
    total (fun thread => if key thread = k then amount else 0) threads = amount := by
  induction threads with
  | nil => cases there
  | cons thread rest ih =>
    obtain ⟨absent, nodup⟩ := nodup_cons.mp nodup
    have whole : total (fun thread => if key thread = k then amount else 0) (thread :: rest) =
        (if key thread = k then amount else 0) +
          total (fun thread => if key thread = k then amount else 0) rest := by
      simp only [total, map_cons, sum_cons]
    rw [whole]
    by_cases same : key thread = k
    · have others : total (fun thread => if key thread = k then amount else 0) rest = 0 := by
        apply total_eq_zero
        intro other inRest
        apply if_neg
        intro again
        exact absent (same ▸ again ▸ mem_map_of_mem inRest)
      rw [if_pos same, others, Int.add_zero]
    · have inRest : k ∈ rest.map key := by
        rcases mem_cons.mp there with rfl | inRest
        · exact absurd rfl same
        · exact inRest
      rw [if_neg same, Int.zero_add]
      exact ih nodup inRest

theorem weight_le_total (each : ∀ thread ∈ threads, 0 ≤ weight thread)
    (thread : Thread) (there : thread ∈ threads) : weight thread ≤ total weight threads := by
  induction threads with
  | nil => cases there
  | cons head rest ih =>
    have first := each head mem_cons_self
    have tail : ∀ thread ∈ rest, 0 ≤ weight thread := fun thread there =>
      each thread (mem_cons_of_mem _ there)
    have others := total_nonneg weight rest tail
    have whole : total weight (head :: rest) = weight head + total weight rest := by
      simp only [total, map_cons, sum_cons]
    rcases mem_cons.mp there with rfl | inRest
    · omega
    · have below := ih tail inRest
      omega

theorem total_le_total (bound : Thread → Int) (threads : List Thread)
    (each : ∀ thread ∈ threads, weight thread ≤ bound thread) :
    total weight threads ≤ total bound threads := by
  induction threads with
  | nil => exact Int.le_refl 0
  | cons thread rest ih =>
    have first := each thread mem_cons_self
    have others := ih fun thread there => each thread (mem_cons_of_mem _ there)
    simp only [total, map_cons, sum_cons] at others ⊢
    omega

theorem total_beside_le (bound : Thread → Int) (threads : List Thread)
    (each : ∀ thread ∈ threads, weight thread ≤ bound thread) (thread : Thread)
    (there : thread ∈ threads) :
    total weight threads - weight thread ≤ total bound threads - bound thread := by
  have spare : ∀ other ∈ threads, 0 ≤ bound other - weight other := fun other there =>
    Int.sub_nonneg_of_le (each other there)
  have own := weight_le_total (fun other => bound other - weight other) threads spare thread there
  have whole := total_add weight (fun other => bound other - weight other) threads
  have same : (fun other => weight other + (bound other - weight other)) = bound := by
    funext other
    omega
  rw [same] at whole
  omega

theorem pair_le_total (each : ∀ thread ∈ threads, 0 ≤ weight thread)
    (i j : Nat) (thread other : Thread) (distinct : j ≠ i) (here : threads[i]? = some thread)
    (there : threads[j]? = some other) : weight thread + weight other ≤ total weight threads := by
  induction threads generalizing i j with
  | nil => cases here
  | cons head rest ih =>
    have first := each head mem_cons_self
    have tail : ∀ thread ∈ rest, 0 ≤ weight thread := fun thread mem =>
      each thread (mem_cons_of_mem _ mem)
    have whole : total weight (head :: rest) = weight head + total weight rest := by
      simp only [total, map_cons, sum_cons]
    cases i with
    | zero =>
      obtain rfl : head = thread := Option.some.inj here
      cases j with
      | zero => exact absurd rfl distinct
      | succ j =>
        have below := weight_le_total weight rest tail other (mem_of_getElem? there)
        omega
    | succ i =>
      cases j with
      | zero =>
        obtain rfl : head = other := Option.some.inj there
        have below := weight_le_total weight rest tail thread (mem_of_getElem? here)
        omega
      | succ j =>
        have below := ih tail i j (by omega) here there
        omega

end Totals

end Pool
