import Mathlib.Data.List.ReduceOption
import AkashicSystem.PlaylogServer.PlayTokenValidator

/-!
# Revoking reaches every live holder

The walks of an event keep what a store files the holders under.  As long as no
token is validated while a holder of its id is stored, the store has every
holder of a live session, and an event then reaches all that it names, their
children by the immediates it schedules.
-/

set_option autoImplicit false

namespace AkashicSystem.PlaylogServer

open AkashicSystem.Js Validator Function PlayTokenStore List

namespace Validator

/-! ## What a walk keeps -/

structure Kept (v v' : Validator) : Prop where
  next : v'.next = v.next
  store : v'.store = v.store
  validated : v'.validated = v.validated
  closed : v'.closed = v.closed
  identity : ∀ ref, (v.holders ref).SameIdentity (v'.holders ref)
  revoked : ∀ ref, (v.holders ref).revoked = true → (v'.holders ref).revoked = true
  nextWalk : v.nextWalk ≤ v'.nextWalk
  update : ∀ walk < v.nextWalk, (v'.walks walk).update = (v.walks walk).update
  immediates : ∀ immediate ∈ v.immediates, immediate ∈ v'.immediates

theorem Kept.refl (v : Validator) : v.Kept v :=
  ⟨rfl, rfl, rfl, rfl, fun _ => .refl _, fun _ => id, Nat.le_refl _, fun _ _ => rfl, fun _ => id⟩

theorem Kept.trans {v v' v'' : Validator} (first : v.Kept v') (second : v'.Kept v'') :
    v.Kept v'' where
  next := second.next.trans first.next
  store := second.store.trans first.store
  validated := second.validated.trans first.validated
  closed := second.closed.trans first.closed
  identity ref := (first.identity ref).trans (second.identity ref)
  revoked ref was := second.revoked ref (first.revoked ref was)
  nextWalk := Nat.le_trans first.nextWalk second.nextWalk
  update walk old := by
    rw [second.update walk (Nat.lt_of_lt_of_le old first.nextWalk), first.update walk old]
  immediates immediate there := second.immediates immediate (first.immediates immediate there)

theorem sameIdentity_apply (update : Update) (holder : PlayTokenHolder) :
    holder.SameIdentity (update.apply holder) := by
  cases update with
  | revoke => exact holder.sameIdentity_revoke
  | permission generated => exact holder.sameIdentity_updatePermission generated

theorem revoked_apply (update : Update) (holder : PlayTokenHolder)
    (was : holder.revoked = true) : (update.apply holder).revoked = true := by
  cases update with
  | revoke => rfl
  | permission generated => exact was

section Visit

variable (v : Validator) (walk : Nat) (ref : Ref)

theorem visit_of_mem (seen : (v.holders ref).playToken.id ∈ (v.walks walk).visited) :
    v.visit walk ref = v := if_pos seen

theorem visit_of_notMem (unseen : (v.holders ref).playToken.id ∉ (v.walks walk).visited) :
    v.visit walk ref = { v with
        holders := update v.holders ref ((v.walks walk).update.apply (v.holders ref))
        walks := update v.walks walk { v.walks walk with
            visited := (v.holders ref).playToken.id :: (v.walks walk).visited }
        immediates := v.immediates ++
          (v.store.getByParent (v.holders ref).playToken.id).map fun child => ⟨walk, child⟩ } :=
  if_neg unseen

theorem kept_visit : v.Kept (v.visit walk ref) := by
  by_cases seen : (v.holders ref).playToken.id ∈ (v.walks walk).visited
  · rw [visit_of_mem v walk ref seen]
    exact .refl v
  · rw [visit_of_notMem v walk ref seen]
    refine ⟨rfl, rfl, rfl, rfl, fun ref' => ?_, fun ref' was => ?_, Nat.le_refl _,
      fun walk' _ => ?_, fun immediate there => mem_append_left _ there⟩
    · by_cases same : ref' = ref
      · subst same
        simp only [update_self]
        exact sameIdentity_apply _ _
      · simp only [update_of_ne same]
        exact .refl _
    · by_cases same : ref' = ref
      · subst same
        simp only [update_self]
        exact revoked_apply _ _ was
      · simpa only [update_of_ne same] using was
    · by_cases same : walk' = walk
      · subst same
        simp
      · simp [same]

theorem holders_visit (unseen : (v.holders ref).playToken.id ∉ (v.walks walk).visited) :
    (v.visit walk ref).holders ref = (v.walks walk).update.apply (v.holders ref) := by
  rw [visit_of_notMem v walk ref unseen]
  exact update_self ..

theorem mem_visited_visit (walk' : Nat) (id : String)
    (there : id ∈ ((v.visit walk ref).walks walk').visited) : id ∈ (v.walks walk').visited ∨
      (walk' = walk ∧ id = (v.holders ref).playToken.id ∧
        (v.holders ref).playToken.id ∉ (v.walks walk).visited) := by
  by_cases seen : (v.holders ref).playToken.id ∈ (v.walks walk).visited
  · rw [visit_of_mem v walk ref seen] at there
    exact .inl there
  · rw [visit_of_notMem v walk ref seen] at there
    by_cases same : walk' = walk
    · subst same
      simp only [update_self, mem_cons] at there
      exact there.elim (fun eq => .inr ⟨rfl, eq, seen⟩) .inl
    · simp only [update_of_ne same] at there
      exact .inl there

theorem mem_immediates_visit (immediate : Immediate)
    (there : immediate ∈ (v.visit walk ref).immediates) : immediate ∈ v.immediates ∨
      immediate.child ∈ v.store.getByParent (v.holders ref).playToken.id := by
  by_cases seen : (v.holders ref).playToken.id ∈ (v.walks walk).visited
  · rw [visit_of_mem v walk ref seen] at there
    exact .inl there
  · rw [visit_of_notMem v walk ref seen] at there
    rcases mem_append.mp there with old | scheduled
    · exact .inl old
    · obtain ⟨child, isChild, rfl⟩ := mem_map.mp scheduled
      exact .inr isChild

theorem scheduled_visit (unseen : (v.holders ref).playToken.id ∉ (v.walks walk).visited)
    (child : Ref) (isChild : child ∈ v.store.getByParent (v.holders ref).playToken.id) :
    (⟨walk, child⟩ : Immediate) ∈ (v.visit walk ref).immediates := by
  rw [visit_of_notMem v walk ref unseen]
  exact mem_append_right _ (mem_map_of_mem isChild)

end Visit

variable (v : Validator)

def beginWalk (update : Update) : Validator :=
  { v with
    walks := Function.update v.walks v.nextWalk ⟨update, []⟩
    nextWalk := v.nextWalk + 1 }

theorem walkFrom_eq (update : Update) (v : Validator) (ref : Ref) :
    walkFrom update v ref = (v.beginWalk update).visit v.nextWalk ref := rfl

theorem kept_beginWalk (update : Update) : v.Kept (v.beginWalk update) :=
  ⟨rfl, rfl, rfl, rfl, fun _ => .refl _, fun _ => id, Nat.le_succ _,
    fun walk old => by simp [beginWalk, Nat.ne_of_lt old], fun _ => id⟩

theorem kept_walkFrom (update : Update) (v : Validator) (ref : Ref) :
    v.Kept (walkFrom update v ref) :=
  (kept_beginWalk v update).trans (kept_visit _ _ ref)

theorem kept_foldl (update : Update) (refs : List Ref) (v : Validator) :
    v.Kept (refs.foldl (walkFrom update) v) := by
  induction refs generalizing v with
  | nil => exact .refl v
  | cons ref rest ih => exact (kept_walkFrom update v ref).trans (ih _)

/-! ## The store has every live holder -/

/-- The invariant of the runs in which no holder hides another. -/
structure Sound (v : Validator) : Prop where
  indexed : v.store.Indexed v.holders
  stored : ∀ id ref, v.store.tokens id = some ref → ref < v.next
  known : ∀ ref ∈ v.validated, ref < v.next
  named : ∀ ref ∈ v.validated, (v.holders ref).playToken.id ≠ ""
  live : ∀ ref ∈ v.validated, (v.holders ref).sessionId ∉ v.closed →
    v.store.tokens (v.holders ref).playToken.id = some ref
  derived : ∀ child < v.next, (v.holders child).parentId ≠ none → ∀ ref < v.next,
    (v.holders ref).playToken.id = (v.holders child).playToken.id → ref = child
  visited : ∀ walk, ∀ id ∈ (v.walks walk).visited,
    ∃ ref < v.next, (v.holders ref).playToken.id = id
  pending : ∀ immediate ∈ v.immediates, immediate.child < v.next
  /-- A revoking walk has revoked the derived holders it has visited. -/
  walked : ∀ walk, (v.walks walk).update = .revoke → ∀ child < v.next,
    (v.holders child).parentId ≠ none →
    (v.holders child).playToken.id ∈ (v.walks walk).visited → (v.holders child).revoked = true

theorem sound_new : new.Sound where
  indexed := ⟨nofun, fun _ _ => by simp [new, empty, TokensMap.empty],
    fun _ _ => by simp [new, empty, TokensMap.empty],
    fun _ _ => by simp [new, empty, TokensMap.empty],
    fun _ _ => by simp [new, empty, TokensMap.empty]⟩
  stored := nofun
  known := nofun
  named := nofun
  live := nofun
  derived := nofun
  visited := nofun
  pending := nofun
  walked := nofun

section Sound

variable {v v' : Validator}

section

variable (sound : v.Sound)
include sound

theorem Sound.of_kept (kept : v.Kept v')
    (visited : ∀ walk, ∀ id ∈ (v'.walks walk).visited,
      ∃ ref < v.next, (v.holders ref).playToken.id = id)
    (pending : ∀ immediate ∈ v'.immediates, immediate.child < v.next)
    (walked : ∀ walk, (v'.walks walk).update = .revoke → ∀ child < v.next,
      (v.holders child).parentId ≠ none →
      (v.holders child).playToken.id ∈ (v'.walks walk).visited →
      (v'.holders child).revoked = true) : v'.Sound where
  indexed := by
    rw [kept.store]
    exact sound.indexed.congr fun _ ref _ => kept.identity ref
  stored id ref there := by
    rw [kept.store] at there
    rw [kept.next]
    exact sound.stored id ref there
  known ref there := by
    rw [kept.validated] at there
    rw [kept.next]
    exact sound.known ref there
  named ref there := by
    rw [kept.validated] at there
    rw [(kept.identity ref).id]
    exact sound.named ref there
  live ref there open' := by
    rw [kept.validated] at there
    rw [kept.closed, (kept.identity ref).session] at open'
    rw [kept.store, (kept.identity ref).id]
    exact sound.live ref there open'
  derived child known isChild ref known' same := by
    rw [kept.next] at known known'
    rw [(kept.identity child).parent] at isChild
    rw [(kept.identity ref).id, (kept.identity child).id] at same
    exact sound.derived child known isChild ref known' same
  visited walk id there := by
    obtain ⟨ref, known, eq⟩ := visited walk id there
    exact ⟨ref, by rw [kept.next]; exact known, by rw [(kept.identity ref).id, eq]⟩
  pending immediate there := by
    rw [kept.next]
    exact pending immediate there
  walked walk revoking child known isChild there := by
    rw [kept.next] at known
    rw [(kept.identity child).parent] at isChild
    rw [(kept.identity child).id] at there
    exact walked walk revoking child known isChild there

theorem Sound.lt_of_mem_get (tokensMap : TokensMap) (key : String)
    (ref : Ref) (there : ref ∈ v.store.get tokensMap key) : ref < v.next := by
  obtain ⟨id, _, stored⟩ := mem_filterMap.mp there
  exact sound.stored id ref stored

theorem Sound.visit (walk : Nat) (ref : Ref) (known : ref < v.next) : (v.visit walk ref).Sound := by
  refine sound.of_kept (kept_visit v walk ref) ?_ ?_ ?_
  · intro walk' id there
    rcases mem_visited_visit v walk ref walk' id there with old | ⟨_, rfl, _⟩
    · exact sound.visited walk' id old
    · exact ⟨ref, known, rfl⟩
  · intro immediate there
    rcases mem_immediates_visit v walk ref immediate there with old | isChild
    · exact sound.pending immediate old
    · exact sound.lt_of_mem_get _ _ _ isChild
  · intro walk' revoking child known' isChild there
    rcases mem_visited_visit v walk ref walk' _ there with old | ⟨rfl, same, unseen⟩
    · refine (kept_visit v walk ref).revoked child (sound.walked walk' ?_ child known' isChild old)
      by_cases seen : (v.holders ref).playToken.id ∈ (v.walks walk).visited
      · rwa [visit_of_mem v walk ref seen] at revoking
      · rw [visit_of_notMem v walk ref seen] at revoking
        by_cases eq : walk' = walk
        · subst eq
          simpa using revoking
        · simpa [eq] using revoking
    · -- the id is the child's own, so the holder visited is the child
      have eq : ref = child := sound.derived child known' isChild ref known same.symm
      subst eq
      have revoked : (v.walks walk').update = .revoke := by
        rw [visit_of_notMem v walk' ref unseen] at revoking
        simpa using revoking
      rw [holders_visit v walk' ref unseen, revoked]
      rfl

theorem Sound.beginWalk (update : Update) : (v.beginWalk update).Sound := by
  refine sound.of_kept (kept_beginWalk v update) ?_ sound.pending ?_
  · intro walk id there
    by_cases new : walk = v.nextWalk
    · subst new
      simp [Validator.beginWalk] at there
    · simp only [Validator.beginWalk, Function.update_of_ne new] at there
      exact sound.visited walk id there
  · intro walk revoking child known isChild there
    by_cases new : walk = v.nextWalk
    · subst new
      simp [Validator.beginWalk] at there
    · simp only [Validator.beginWalk, Function.update_of_ne new] at there revoking
      exact sound.walked walk revoking child known isChild there

theorem Sound.foldl_walkFrom (update : Update) (refs : List Ref)
    (known : ∀ ref ∈ refs, ref < v.next) : (refs.foldl (walkFrom update) v).Sound := by
  induction refs generalizing v with
  | nil => exact sound
  | cons ref rest ih =>
    have there : ref < (v.beginWalk update).next := known ref mem_cons_self
    have begun : (walkFrom update v ref).Sound := (sound.beginWalk update).visit _ ref there
    refine ih begun fun ref' mem => ?_
    rw [(kept_walkFrom update v ref).next]
    exact known ref' (mem_cons_of_mem _ mem)

end

end Sound

/-- The ids are what their issuers promise: not empty, and `uuid.v4` gives an id
that no other token has. -/
def Fresh : Action → Prop
  | .validated _ token =>
    token.id ≠ "" ∧ ∀ ref < v.next, (v.holders ref).parentId ≠ none →
      (v.holders ref).playToken.id ≠ token.id
  | .derived _ _ tokenId _ =>
    tokenId ≠ "" ∧ ∀ ref < v.next, (v.holders ref).playToken.id ≠ tokenId
  | _ => True

/-- No token is validated while a holder of its id is stored. -/
def Unhidden : Action → Prop
  | .validated _ token => v.store.tokens token.id = none
  | _ => True

instance (v : Validator) : ∀ action, Decidable (v.Fresh action)
  | .validated _ _ | .derived .. => inferInstanceAs (Decidable (_ ∧ _))
  | .validate _ | .closed _ | .revoke _ | .updatePermission .. | .immediate _ =>
    inferInstanceAs (Decidable True)

instance (v : Validator) : ∀ action, Decidable (v.Unhidden action)
  | .validated _ token => inferInstanceAs (Decidable (v.store.tokens token.id = none))
  | .validate _ | .derived .. | .closed _ | .revoke _ | .updatePermission .. | .immediate _ =>
    inferInstanceAs (Decidable True)

section Steps

variable {v : Validator}

theorem tokens_onValidated (holder : PlayTokenHolder)
    (absent : v.store.tokens holder.playToken.id = none) : (v.onValidated holder).store.tokens =
      update v.store.tokens holder.playToken.id (some v.next) := by
  simp [onValidated, add, absent]

section

variable (sound : v.Sound)
include sound

theorem Sound.onValidated (holder : PlayTokenHolder)
    (absent : v.store.tokens holder.playToken.id = none) (named : holder.playToken.id ≠ "")
    (own : ∀ ref < v.next, (v.holders ref).parentId ≠ none ∨ holder.parentId ≠ none →
      (v.holders ref).playToken.id ≠ holder.playToken.id) : (v.onValidated holder).Sound := by
  have old : ∀ ref < v.next, (v.onValidated holder).holders ref = v.holders ref :=
    fun ref known => update_of_ne (Nat.ne_of_lt known) ..
  have new : (v.onValidated holder).holders v.next = holder := update_self ..
  have tokens := tokens_onValidated holder absent
  refine ⟨?_, fun id ref there => ?_, fun ref there => ?_, fun ref there => ?_,
    fun ref there live => ?_, fun child known isChild ref known' same => ?_,
    fun walk id there => ?_, fun immediate there => ?_,
    fun walk revoking child known isChild there => ?_⟩
  · have same : ∀ id ref, v.store.tokens id = some ref →
        (v.holders ref).SameIdentity ((v.onValidated holder).holders ref) := by
      intro id ref stored
      rw [old ref (sound.stored id ref stored)]
      exact .refl _
    have indexed := indexed_add (sound.indexed.congr same) v.next
      (by rw [new]; exact absent)
    rw [new] at indexed
    exact indexed
  · rw [tokens] at there
    by_cases eq : id = holder.playToken.id
    · subst eq
      rw [update_self] at there
      cases there
      exact Nat.lt_succ_self _
    · rw [update_of_ne eq] at there
      exact Nat.lt_succ_of_lt (sound.stored id ref there)
  · rcases mem_append.mp there with before | now
    · exact Nat.lt_succ_of_lt (sound.known ref before)
    · cases mem_singleton.mp now
      exact Nat.lt_succ_self _
  · rcases mem_append.mp there with before | now
    · rw [old ref (sound.known ref before)]
      exact sound.named ref before
    · cases mem_singleton.mp now
      rw [new]
      exact named
  · rcases mem_append.mp there with before | now
    · rw [old ref (sound.known ref before)] at live ⊢
      have stored := sound.live ref before live
      have other : (v.holders ref).playToken.id ≠ holder.playToken.id := by
        intro eq
        rw [eq, absent] at stored
        cases stored
      rw [tokens, update_of_ne other]
      exact stored
    · cases mem_singleton.mp now
      rw [new, tokens, update_self]
  · rcases Nat.lt_succ_iff_lt_or_eq.mp known with known | rfl
    · rw [old child known] at isChild same
      rcases Nat.lt_succ_iff_lt_or_eq.mp known' with known' | rfl
      · rw [old ref known'] at same
        exact sound.derived child known isChild ref known' same
      · rw [new] at same
        exact absurd same.symm (own child known (.inl isChild))
    · rw [new] at isChild same
      rcases Nat.lt_succ_iff_lt_or_eq.mp known' with known' | rfl
      · rw [old ref known'] at same
        exact absurd same (own ref known' (.inr isChild))
      · rfl
  · obtain ⟨ref, known, eq⟩ := sound.visited walk id there
    exact ⟨ref, Nat.lt_succ_of_lt known, by rw [old ref known, eq]⟩
  · exact Nat.lt_succ_of_lt (sound.pending immediate there)
  · rcases Nat.lt_succ_iff_lt_or_eq.mp known with known | rfl
    · rw [old child known] at isChild there ⊢
      exact sound.walked walk revoking child known isChild there
    · rw [new] at isChild there
      obtain ⟨ref, known', eq⟩ := sound.visited walk _ there
      exact absurd eq (own ref known' (.inr isChild))

theorem Sound.validateBySession (sessionId playId tokenId : String)
    (parentPlays : List (String × Option Boundary)) (named : tokenId ≠ "")
    (own : ∀ ref < v.next, (v.holders ref).playToken.id ≠ tokenId) :
    (v.validateBySession sessionId playId tokenId parentPlays).Sound := by
  have absent : v.store.tokens tokenId = none := by
    cases stored : v.store.tokens tokenId with
    | none => rfl
    | some ref =>
      exact absurd (sound.indexed.id tokenId ref stored) (own ref (sound.stored _ ref stored))
  unfold Validator.validateBySession
  split
  · exact sound
  · exact sound
  · exact sound.onValidated _ absent named fun ref known _ => own ref known

theorem Sound.onSessionClose (sessionId : String) : (v.onSessionClose sessionId).Sound := by
  unfold Validator.onSessionClose
  split
  · refine ⟨?_, fun id ref there => ?_, sound.known, sound.named, fun ref there live => ?_,
      sound.derived, sound.visited, sound.pending, sound.walked⟩
    · exact indexed_foldl_delete _ _ sound.indexed
    · rw [deleteBySession, tokens_foldl_delete] at there
      split_ifs at there
      exact sound.stored id ref there
    · simp only [mem_cons, not_or] at live
      have stored := sound.live ref there live.2
      exact tokens_deleteBySession sound.indexed sessionId _ ref stored live.1
  · refine ⟨sound.indexed, sound.stored, sound.known, sound.named, fun ref there live => ?_,
      sound.derived, sound.visited, sound.pending, sound.walked⟩
    simp only [mem_cons, not_or] at live
    exact sound.live ref there live.2

theorem Sound.lt_of_mem_targets (req : TokenEvent) (ref : Ref)
    (there : ref ∈ v.targets req) : ref < v.next := by
  unfold targets at there
  cases givenId : given req.id with
  | some id =>
    rw [givenId] at there
    cases stored : v.store.tokens id with
    | none => simp [stored] at there
    | some target =>
      have eq : ref = target := by
        simp only [stored] at there
        split at there <;> simp at there
        · exact there.2
        · exact there.2
        · exact there.2
        · exact there
      subst eq
      exact sound.stored id ref stored
  | none =>
    rw [givenId] at there
    cases givenPlay : given req.playId <;> cases givenUser : given req.userId <;>
      simp only [givenPlay, givenUser, not_mem_nil, mem_filter] at there
    · exact sound.lt_of_mem_get _ _ ref there
    · exact sound.lt_of_mem_get _ _ ref there
    · exact sound.lt_of_mem_get _ _ ref there.1

theorem Sound.updatePlayTokenByEvent (req : TokenEvent) (update : Update) :
    (v.updatePlayTokenByEvent req update).Sound :=
  sound.foldl_walkFrom update _ fun ref there => sound.lt_of_mem_targets req ref there

end

theorem kept_updatePlayTokenByEvent (v : Validator) (req : TokenEvent) (update : Update) :
    v.Kept (v.updatePlayTokenByEvent req update) := kept_foldl update _ v

theorem onUpdatePermissionEvent_eq (v : Validator) (req : TokenEvent)
    (permission : Option Permission) : v.onUpdatePermissionEvent req permission = v ∨ ∃ generated,
      v.onUpdatePermissionEvent req permission =
        v.updatePlayTokenByEvent req (.permission generated) := by
  unfold onUpdatePermissionEvent
  split
  · exact .inl rfl
  · split
    · exact .inl rfl
    · exact .inr ⟨_, rfl⟩

theorem runImmediate_eq (v : Validator) (index : Nat) :
    v.immediates[index]? = none ∧ v.runImmediate index = v ∨ ∃ immediate,
      v.immediates[index]? = some immediate ∧
      v.runImmediate index = (v.dequeue index).visit immediate.walk immediate.child := by
  unfold runImmediate
  cases at_ : v.immediates[index]? with
  | none => exact .inl ⟨rfl, rfl⟩
  | some immediate => exact .inr ⟨immediate, rfl, rfl⟩

theorem Sound.dequeue (sound : v.Sound) (index : Nat) : (v.dequeue index).Sound :=
  { sound with
    pending := fun immediate there => sound.pending immediate (mem_of_mem_eraseIdx there) }

/-! ## What every step keeps -/

/-- The holders stay what they are filed under, and new ones are known. -/
structure Grown (v v' : Validator) : Prop where
  next : v.next ≤ v'.next
  identity : ∀ ref < v.next, (v.holders ref).SameIdentity (v'.holders ref)
  validated : ∀ ref ∈ v'.validated, ref ∈ v.validated ∨ ref < v'.next

theorem Grown.of_kept {v v' : Validator} (kept : v.Kept v') : v.Grown v' where
  next := Nat.le_of_eq kept.next.symm
  identity ref _ := kept.identity ref
  validated ref there := by
    rw [kept.validated] at there
    exact .inl there

theorem grown_onValidated (holder : PlayTokenHolder) : v.Grown (v.onValidated holder) where
  next := Nat.le_succ _
  identity ref known := by
    have same : (v.onValidated holder).holders ref = v.holders ref :=
      update_of_ne (Nat.ne_of_lt known) ..
    rw [same]
    exact .refl _
  validated ref there := by
    rcases mem_append.mp there with before | now
    · exact .inl before
    · cases mem_singleton.mp now
      exact .inr (Nat.lt_succ_self _)

theorem grown_step (v : Validator) (action : Action) : v.Grown (v.step action) := by
  have refl : v.Grown v := .of_kept (.refl v)
  cases action with
  | validate sessionId =>
    show v.Grown (v.validate sessionId)
    unfold validate
    split
    · exact refl
    · exact { refl with }
  | validated sessionId token => exact grown_onValidated _
  | derived sessionId playId tokenId parentPlays =>
    show v.Grown (v.validateBySession sessionId playId tokenId parentPlays)
    unfold validateBySession
    split
    · exact refl
    · exact refl
    · exact grown_onValidated _
  | closed sessionId =>
    show v.Grown (v.onSessionClose sessionId)
    unfold onSessionClose
    split <;> exact { refl with }
  | revoke req => exact .of_kept (kept_updatePlayTokenByEvent v req .revoke)
  | updatePermission req permission =>
    show v.Grown (v.onUpdatePermissionEvent req permission)
    rcases onUpdatePermissionEvent_eq v req permission with eq | ⟨generated, eq⟩
    · rw [eq]
      exact refl
    · rw [eq]
      exact .of_kept (kept_updatePlayTokenByEvent v req _)
  | immediate index =>
    show v.Grown (v.runImmediate index)
    rcases runImmediate_eq v index with ⟨_, eq⟩ | ⟨immediate, at_, eq⟩
    · rw [eq]
      exact refl
    · rw [eq]
      have visited : (v.dequeue index).Grown
          ((v.dequeue index).visit immediate.walk immediate.child) := .of_kept (kept_visit _ _ _)
      exact ⟨visited.next, visited.identity, visited.validated⟩

theorem revoked_step (v : Validator) (action : Action) (ref : Ref) (known : ref < v.next)
    (was : (v.holders ref).revoked = true) : ((v.step action).holders ref).revoked = true := by
  have added : ∀ holder, ((v.onValidated holder).holders ref).revoked = true := by
    intro holder
    have same : (v.onValidated holder).holders ref = v.holders ref :=
      update_of_ne (Nat.ne_of_lt known) ..
    rw [same]
    exact was
  cases action with
  | validate sessionId =>
    show ((v.validate sessionId).holders ref).revoked = true
    unfold validate
    split <;> exact was
  | validated sessionId token => exact added _
  | derived sessionId playId tokenId parentPlays =>
    show ((v.validateBySession sessionId playId tokenId parentPlays).holders ref).revoked = true
    unfold validateBySession
    split
    · exact was
    · exact was
    · exact added _
  | closed sessionId =>
    show ((v.onSessionClose sessionId).holders ref).revoked = true
    unfold onSessionClose
    split <;> exact was
  | revoke req => exact (kept_updatePlayTokenByEvent v req .revoke).revoked ref was
  | updatePermission req permission =>
    show ((v.onUpdatePermissionEvent req permission).holders ref).revoked = true
    rcases onUpdatePermissionEvent_eq v req permission with eq | ⟨generated, eq⟩
    · rw [eq]
      exact was
    · rw [eq]
      exact (kept_updatePlayTokenByEvent v req _).revoked ref was
  | immediate index =>
    show ((v.runImmediate index).holders ref).revoked = true
    rcases runImmediate_eq v index with ⟨_, eq⟩ | ⟨immediate, at_, eq⟩
    · rw [eq]
      exact was
    · rw [eq]
      exact (kept_visit (v.dequeue index) _ _).revoked ref was

theorem sound_step (action : Action) (sound : v.Sound)
    (allowed : v.Fresh action ∧ v.Unhidden action) : (v.step action).Sound := by
  cases action with
  | validate sessionId =>
    show (v.validate sessionId).Sound
    unfold validate
    split
    · exact sound
    · exact { sound with }
  | validated sessionId token =>
    obtain ⟨⟨named, own⟩, absent⟩ := allowed
    refine sound.onValidated (.new token sessionId none) absent named fun ref known derived => ?_
    exact own ref known (derived.resolve_right fun isChild => isChild rfl)
  | derived sessionId playId tokenId parentPlays =>
    exact sound.validateBySession sessionId playId tokenId parentPlays allowed.1.1 allowed.1.2
  | closed sessionId => exact sound.onSessionClose sessionId
  | revoke req => exact sound.updatePlayTokenByEvent req .revoke
  | updatePermission req permission =>
    show (v.onUpdatePermissionEvent req permission).Sound
    rcases onUpdatePermissionEvent_eq v req permission with eq | ⟨generated, eq⟩
    · rw [eq]
      exact sound
    · rw [eq]
      exact sound.updatePlayTokenByEvent req _
  | immediate index =>
    show (v.runImmediate index).Sound
    rcases runImmediate_eq v index with ⟨_, eq⟩ | ⟨immediate, at_, eq⟩
    · rw [eq]
      exact sound
    · rw [eq]
      exact (sound.dequeue index).visit _ _ (sound.pending immediate (mem_of_getElem? at_))

end Steps

/-! ## What an event reaches -/

/-- The holder is revoked, or an immediate of a walk from `first` to `past` will
visit it. -/
def Reached (first past : Nat) (v : Validator) (ref : Ref) : Prop :=
  (v.holders ref).revoked = true ∨ ∃ walk, first ≤ walk ∧ walk < past ∧
    (v.walks walk).update = .revoke ∧ (⟨walk, ref⟩ : Immediate) ∈ v.immediates

section Reached

variable {v v' : Validator} {first past : Nat}

theorem Reached.of_kept {ref : Ref} (reached : Reached first past v ref) (kept : v.Kept v')
    (known : past ≤ v.nextWalk) : Reached first past v' ref := by
  rcases reached with revoked | ⟨walk, from_, below, revoking, scheduled⟩
  · exact .inl (kept.revoked ref revoked)
  · refine .inr ⟨walk, from_, below, ?_, kept.immediates _ scheduled⟩
    rw [kept.update walk (Nat.lt_of_lt_of_le below known), revoking]

theorem Reached.mono {ref : Ref} {first' past' : Nat} (reached : Reached first past v ref)
    (sooner : first' ≤ first) (later : past ≤ past') : Reached first' past' v ref := by
  rcases reached with revoked | ⟨walk, from_, below, revoking, scheduled⟩
  · exact .inl revoked
  · exact .inr ⟨walk, Nat.le_trans sooner from_, Nat.lt_of_lt_of_le below later, revoking,
      scheduled⟩

theorem unseen_beginWalk (update : Update) (ref : Ref) :
    ((v.beginWalk update).holders ref).playToken.id ∉
      ((v.beginWalk update).walks v.nextWalk).visited := by
  simp [beginWalk]

theorem revoked_walkFrom (v : Validator) (ref : Ref) :
    ((walkFrom .revoke v ref).holders ref).revoked = true := by
  rw [walkFrom_eq, holders_visit _ _ _ (unseen_beginWalk .revoke ref)]
  simp [beginWalk, Update.apply, PlayTokenHolder.revoke]

theorem nextWalk_walkFrom (update : Update) (v : Validator) (ref : Ref) :
    (walkFrom update v ref).nextWalk = v.nextWalk + 1 := by
  rw [walkFrom_eq, visit_of_notMem _ _ _ (unseen_beginWalk update ref)]
  rfl

theorem reached_walkFrom (v : Validator) (ref child : Ref)
    (isChild : child ∈ v.store.getByParent (v.holders ref).playToken.id) :
    Reached v.nextWalk (walkFrom .revoke v ref).nextWalk (walkFrom .revoke v ref) child := by
  refine .inr ⟨v.nextWalk, Nat.le_refl _, ?_, ?_, ?_⟩
  · rw [nextWalk_walkFrom]
    exact Nat.lt_succ_self _
  · rw [walkFrom_eq, (kept_visit _ _ _).update _ (Nat.lt_succ_self _)]
    simp [beginWalk]
  · rw [walkFrom_eq]
    exact scheduled_visit _ _ _ (unseen_beginWalk .revoke ref) child isChild

theorem reached_foldl (refs : List Ref) (v : Validator) (ref : Ref) (there : ref ∈ refs) :
    ((refs.foldl (walkFrom .revoke) v).holders ref).revoked = true ∧
      ∀ child ∈ v.store.getByParent (v.holders ref).playToken.id,
        Reached v.nextWalk (refs.foldl (walkFrom .revoke) v).nextWalk
          (refs.foldl (walkFrom .revoke) v) child := by
  induction refs generalizing v with
  | nil => cases there
  | cons head rest ih =>
    rw [foldl_cons]
    have now : v.Kept (walkFrom .revoke v head) := kept_walkFrom .revoke v head
    have later := kept_foldl .revoke rest (walkFrom .revoke v head)
    rcases mem_cons.mp there with rfl | there
    · refine ⟨later.revoked ref (revoked_walkFrom v ref), fun child isChild => ?_⟩
      exact ((reached_walkFrom v ref child isChild).of_kept later (Nat.le_refl _)).mono
        (Nat.le_refl _) later.nextWalk
    · obtain ⟨revoked, children⟩ := ih (walkFrom .revoke v head) there
      refine ⟨revoked, fun child isChild => ?_⟩
      have isChild' : child ∈ (walkFrom .revoke v head).store.getByParent
          ((walkFrom .revoke v head).holders ref).playToken.id := by
        rwa [now.store, (now.identity ref).id]
      exact (children child isChild').mono now.nextWalk (Nat.le_refl _)

end Reached

end Validator

/-- The event gives a field, and the fields that it gives are those of the token. -/
def TokenEvent.Matches (req : TokenEvent) (token : PlayToken) : Prop :=
  (∀ id ∈ given req.id, token.id = id) ∧
    (∀ playId ∈ given req.playId, token.playId = playId) ∧
    (∀ userId ∈ given req.userId, token.userId = some userId) ∧
    ¬ (given req.id = none ∧ given req.playId = none ∧
      given req.userId = none)

instance (req : TokenEvent) (token : PlayToken) : Decidable (req.Matches token) :=
  inferInstanceAs (Decidable (_ ∧ _ ∧ _ ∧ _))

namespace Validator

theorem given_ne_empty (field : Option String) (value : String)
    (isGiven : given field = some value) : value ≠ "" := by
  obtain ⟨_, nonempty⟩ := Option.filter_eq_some_iff.mp isGiven
  simpa using nonempty

section Targets

variable {v : Validator}

theorem mem_targets (indexed : v.store.Indexed v.holders) (req : TokenEvent) (ref : Ref)
    (stored : v.store.tokens (v.holders ref).playToken.id = some ref)
    (named : req.Matches (v.holders ref).playToken) : ref ∈ v.targets req := by
  obtain ⟨byId, byPlay, byUser, some_⟩ := named
  unfold targets
  cases givenId : given req.id with
  | some id =>
    have eq := byId id givenId
    subst eq
    simp only [stored]
    cases givenPlay : given req.playId with
    | none =>
      cases givenUser : given req.userId with
      | none => simp
      | some userId => simp [byUser userId givenUser]
    | some playId =>
      cases givenUser : given req.userId with
      | none => simp [byPlay playId givenPlay]
      | some userId => simp [byPlay playId givenPlay, byUser userId givenUser]
  | none =>
    cases givenPlay : given req.playId with
    | none =>
      cases givenUser : given req.userId with
      | none => exact absurd ⟨givenId, givenPlay, givenUser⟩ some_
      | some userId =>
        exact mem_get indexed.user userId (given_ne_empty _ _ givenUser) _ ref
          stored (byUser userId givenUser)
    | some playId =>
      have inPlay : ref ∈ v.store.getByPlay playId :=
        mem_get indexed.play playId (given_ne_empty _ _ givenPlay) _ ref
          stored (congrArg some (byPlay playId givenPlay))
      cases givenUser : given req.userId with
      | none => exact inPlay
      | some userId => exact mem_filter.mpr ⟨inPlay, by simp [byUser userId givenUser]⟩

theorem mem_of_mapM {α β : Type} (f : α → Option β) (list : List α) (results : List β)
    (all : list.mapM f = some results) (b : β) (there : b ∈ results) :
    ∃ a ∈ list, f a = some b := by
  induction list generalizing results with
  | nil =>
    cases Option.some.inj all
    cases there
  | cons head rest ih =>
    simp only [mapM_cons, Option.pure_def, Option.bind_eq_bind, Option.bind_eq_some_iff,
      Option.some.injEq] at all
    obtain ⟨first, now, others, later, rfl⟩ := all
    rcases mem_cons.mp there with rfl | there
    · exact ⟨head, mem_cons_self, now⟩
    · obtain ⟨a, mem, eq⟩ := ih others later there
      exact ⟨a, mem_cons_of_mem _ mem, eq⟩

theorem fst_of_inherit (parentId : String) (cond : Boundary) (token parent : PlayToken)
    (permission : Permission)
    (info : inherit parentId cond token = some (some (parent, permission))) : parent = token := by
  unfold inherit at info
  cases flag : cond.authorizedFlag with
  | none =>
    simp only [flag] at info
    split_ifs at info
    · cases info
      rfl
    · cases info
  | some flag' =>
    cases user : token.meta with
    | none => simp [flag, user] at info
    | some «meta» =>
      simp only [flag, user] at info
      split_ifs at info
      · cases info
        rfl
      · cases info
      · cases info

/-- A token is inherited only from a holder of the session that is not revoked
and is not itself derived. -/
theorem mem_getParentPlayInfo (sessionId : String)
    (parentPlays : List (String × Option Boundary)) (infos : List (PlayToken × Permission))
    (found : v.getParentPlayInfo sessionId parentPlays = some infos)
    (parent : PlayToken) (permission : Permission) (there : (parent, permission) ∈ infos) :
    ∃ ref ∈ v.store.getBySession sessionId, (v.holders ref).revoked = false ∧
      (v.holders ref).parentId = none ∧ (v.holders ref).playToken = parent := by
  unfold getParentPlayInfo at found
  simp only at found
  split_ifs at found
  · cases found
    cases there
  · simp only [Option.bind_eq_bind, Option.pure_def, Option.bind_eq_some_iff,
      Option.some.injEq] at found
    obtain ⟨lists, mapped, rfl⟩ := found
    obtain ⟨list, inLists, inList⟩ :=
      mem_flatten.mp (reduceOption_mem_iff.mp there)
    obtain ⟨⟨parentId, cond⟩, _, of_play⟩ := mem_of_mapM _ _ _ mapped list inLists
    simp only [Option.bind_eq_some_iff] at of_play
    obtain ⟨cond, _, inner⟩ := of_play
    obtain ⟨holder, authed, info⟩ := mem_of_mapM _ _ _ inner _ inList
    obtain ⟨listed, alive⟩ := mem_filter.mp authed
    obtain ⟨ref, inSession, rfl⟩ := mem_map.mp listed
    obtain ⟨unrevoked, underived⟩ := Bool.and_eq_true_iff.mp alive
    refine ⟨ref, inSession, ?_, ?_, (fst_of_inherit _ _ _ _ _ info).symm⟩
    · simpa using unrevoked
    · simpa using underived

end Targets

end Validator

/-- A holder of a child token, which the session got for its holder of the parent. -/
def PlayTokenHolder.DerivedFrom (child parent : PlayTokenHolder) : Prop :=
  child.sessionId = parent.sessionId ∧ child.parentId = some parent.playToken.id

instance (child parent : PlayTokenHolder) : Decidable (child.DerivedFrom parent) :=
  inferInstanceAs (Decidable (_ ∧ _))

namespace Validator

/-! ## After the event -/

/-- What holds after an event whose walks are those from `first` to `past`, for the
holders that it named. -/
structure Handled (first past : Nat) (named : Ref → Prop) (v : Validator) : Prop where
  sound : v.Sound
  bound : past ≤ v.nextWalk
  known : ∀ ref, named ref → ref ∈ v.validated
  revoked : ∀ ref, named ref → (v.holders ref).sessionId ∉ v.closed →
    (v.holders ref).revoked = true
  children : ∀ ref, named ref → (v.holders ref).sessionId ∉ v.closed → ∀ child ∈ v.validated,
    (v.holders child).DerivedFrom (v.holders ref) → Reached first past v child

section Handled

variable {v v' : Validator} {first past : Nat} {named : Ref → Prop}

theorem derivedFrom_of_kept (kept : v.Kept v') (child parent : Ref)
    (derived : (v'.holders child).DerivedFrom (v'.holders parent)) :
    (v.holders child).DerivedFrom (v.holders parent) := by
  obtain ⟨session, parentId⟩ := derived
  rw [(kept.identity child).session, (kept.identity parent).session] at session
  rw [(kept.identity child).parent, (kept.identity parent).id] at parentId
  exact ⟨session, parentId⟩

theorem Handled.of_kept (handled : Handled first past named v) (kept : v.Kept v')
    (sound : v'.Sound) : Handled first past named v' where
  sound := sound
  bound := Nat.le_trans handled.bound kept.nextWalk
  known ref there := by
    rw [kept.validated]
    exact handled.known ref there
  revoked ref there live := by
    rw [kept.closed, (kept.identity ref).session] at live
    exact kept.revoked ref (handled.revoked ref there live)
  children ref there live child valid derived := by
    rw [kept.closed, (kept.identity ref).session] at live
    rw [kept.validated] at valid
    exact (handled.children ref there live child valid
      (derivedFrom_of_kept kept child ref derived)).of_kept kept handled.bound

theorem handled_revoke (sound : v.Sound) (req : TokenEvent) :
    Handled v.nextWalk (v.step (.revoke req)).nextWalk
      (fun ref => ref ∈ v.validated ∧ req.Matches (v.holders ref).playToken)
      (v.step (.revoke req)) := by
  have kept : v.Kept (v.step (.revoke req)) := kept_updatePlayTokenByEvent v req .revoke
  have target : ∀ ref ∈ v.validated, req.Matches (v.holders ref).playToken →
      (v.holders ref).sessionId ∉ v.closed → ref ∈ v.targets req :=
    fun ref valid matching live =>
      mem_targets sound.indexed req ref (sound.live ref valid live) matching
  refine ⟨sound.updatePlayTokenByEvent req .revoke, Nat.le_refl _, fun ref there => ?_,
    fun ref there live => ?_, fun ref there live child valid derived => ?_⟩
  · rw [kept.validated]
    exact there.1
  · rw [kept.closed, (kept.identity ref).session] at live
    exact (reached_foldl _ v ref (target ref there.1 there.2 live)).1
  · rw [kept.closed, (kept.identity ref).session] at live
    rw [kept.validated] at valid
    obtain ⟨session, parentId⟩ := derivedFrom_of_kept kept child ref derived
    have stored := sound.live child valid (by rw [session]; exact live)
    have isChild := mem_get sound.indexed.parent _ (sound.named ref there.1) _
      child stored parentId
    exact (reached_foldl _ v ref (target ref there.1 there.2 live)).2 child isChild

section

variable (handled : Handled first past named v)
include handled

theorem Handled.onValidated (holder : PlayTokenHolder) (sound : (v.onValidated holder).Sound)
    (unrelated : ∀ ref, named ref → (v.holders ref).sessionId ∉ v.closed →
      ¬ holder.DerivedFrom (v.holders ref)) : Handled first past named (v.onValidated holder) := by
  have old : ∀ ref ∈ v.validated, (v.onValidated holder).holders ref = v.holders ref :=
    fun ref there => update_of_ne (Nat.ne_of_lt (handled.sound.known ref there)) ..
  have new : (v.onValidated holder).holders v.next = holder := update_self ..
  refine ⟨sound, handled.bound, fun ref there => ?_, fun ref there live => ?_,
    fun ref there live child valid derived => ?_⟩
  · exact mem_append_left _ (handled.known ref there)
  · rw [old ref (handled.known ref there)] at live ⊢
    exact handled.revoked ref there live
  · rw [old ref (handled.known ref there)] at live derived
    rcases mem_append.mp valid with before | now
    · rw [old child before] at derived
      rcases handled.children ref there live child before derived with revoked | scheduled
      · exact .inl (by rw [old child before]; exact revoked)
      · exact .inr scheduled
    · cases mem_singleton.mp now
      rw [new] at derived
      exact absurd derived (unrelated ref there live)

/-- A child cannot be derived any more: the session's holder of the parent is revoked. -/
theorem Handled.validateBySession (sessionId playId tokenId : String)
    (parentPlays : List (String × Option Boundary))
    (sound : (v.validateBySession sessionId playId tokenId parentPlays).Sound) :
    Handled first past named (v.validateBySession sessionId playId tokenId parentPlays) := by
  unfold Validator.validateBySession at sound ⊢
  split
  · exact handled
  · exact handled
  · next parent permission rest found =>
    simp only [found] at sound
    refine handled.onValidated _ sound fun ref there live derived => ?_
    obtain ⟨_, parentId⟩ := derived
    obtain ⟨holder, inSession, alive, -, token⟩ :=
      mem_getParentPlayInfo sessionId parentPlays _ found parent permission mem_cons_self
    obtain ⟨id, listed, stored⟩ := mem_filterMap.mp inSession
    -- the holder the token is inherited from and the one named are stored under one id
    have sameId : id = (v.holders ref).playToken.id := by
      rw [← handled.sound.indexed.id id holder stored, token]
      exact Option.some.inj parentId
    have stored' := handled.sound.live ref (handled.known ref there) live
    rw [← sameId, stored] at stored'
    have same : holder = ref := Option.some.inj stored'
    rw [same, handled.revoked ref there live] at alive
    cases alive

theorem Handled.onSessionClose (sessionId : String) :
    Handled first past named (v.onSessionClose sessionId) := by
  have sound := handled.sound.onSessionClose sessionId
  unfold Validator.onSessionClose at sound ⊢
  split
  · next opened =>
    rw [if_pos opened] at sound
    refine ⟨sound, handled.bound, handled.known, fun ref there live => ?_,
      fun ref there live => ?_⟩
    · simp only [mem_cons, not_or] at live
      exact handled.revoked ref there live.2
    · simp only [mem_cons, not_or] at live
      exact handled.children ref there live.2
  · next unopened =>
    rw [if_neg unopened] at sound
    refine ⟨sound, handled.bound, handled.known, fun ref there live => ?_,
      fun ref there live => ?_⟩
    · simp only [mem_cons, not_or] at live
      exact handled.revoked ref there live.2
    · simp only [mem_cons, not_or] at live
      exact handled.children ref there live.2

end

theorem Reached.runImmediate (sound : v.Sound) (index : Nat) (child : Ref) (known : child < v.next)
    (isChild : (v.holders child).parentId ≠ none) (bound : past ≤ v.nextWalk)
    (reached : Reached first past v child) : Reached first past (v.runImmediate index) child := by
  rcases runImmediate_eq v index with ⟨_, eq⟩ | ⟨immediate, at_, eq⟩
  · rw [eq]
    exact reached
  · have fewer := sound.dequeue index
    rw [eq]
    have kept := kept_visit (v.dequeue index) immediate.walk immediate.child
    rcases reached with revoked | ⟨walk, from_, below, revoking, scheduled⟩
    · exact .inl (kept.revoked child revoked)
    · by_cases this_ : immediate = ⟨walk, child⟩
      · subst this_
        refine .inl ?_
        by_cases seen : (v.holders child).playToken.id ∈ (v.walks walk).visited
        · exact kept.revoked child (fewer.walked walk revoking child known isChild seen)
        · have now := holders_visit (v.dequeue index) walk child seen
          rw [now]
          simp [dequeue, revoking, Update.apply, PlayTokenHolder.revoke]
      · obtain ⟨place, found⟩ := mem_iff_getElem?.mp scheduled
        have other : place ≠ index := by
          rintro rfl
          rw [at_] at found
          exact this_ (Option.some.inj found)
        have remains : Reached first past (v.dequeue index) child :=
          .inr ⟨walk, from_, below, revoking,
            mem_eraseIdx_iff_getElem?.mpr ⟨place, other, found⟩⟩
        exact remains.of_kept kept bound

theorem Handled.runImmediate (handled : Handled first past named v) (index : Nat)
    (sound : (v.runImmediate index).Sound) : Handled first past named (v.runImmediate index) := by
  have visits : ∀ child ∈ v.validated, ∀ ref, (v.holders child).DerivedFrom (v.holders ref) →
      Reached first past v child → Reached first past (v.runImmediate index) child := by
    intro child valid ref derived reached
    have isChild : (v.holders child).parentId ≠ none := by simp [derived.2]
    exact reached.runImmediate handled.sound index child (handled.sound.known child valid) isChild
      handled.bound
  rcases runImmediate_eq v index with ⟨_, eq⟩ | ⟨immediate, _, eq⟩
  · rw [eq]
    exact handled
  · rw [eq] at sound visits ⊢
    have kept := kept_visit (v.dequeue index) immediate.walk immediate.child
    refine ⟨sound, Nat.le_trans handled.bound kept.nextWalk, fun ref there => ?_,
      fun ref there live => ?_, fun ref there live child valid derived => ?_⟩
    · rw [kept.validated]
      exact handled.known ref there
    · rw [kept.closed, (kept.identity ref).session] at live
      exact kept.revoked ref (handled.revoked ref there live)
    · rw [kept.closed, (kept.identity ref).session] at live
      rw [kept.validated] at valid
      have derived' := derivedFrom_of_kept kept child ref derived
      exact visits child valid ref derived' (handled.children ref there live child valid derived')

theorem handled_step (action : Action) (handled : Handled first past named v)
    (allowed : v.Fresh action ∧ v.Unhidden action) : Handled first past named (v.step action) := by
  have sound : (v.step action).Sound := sound_step action handled.sound allowed
  cases action with
  | validate sessionId =>
    show Handled first past named (v.validate sessionId)
    unfold validate
    split
    · exact handled
    · exact { handled with sound := { handled.sound with } }
  | validated sessionId token =>
    exact handled.onValidated _ sound fun ref there live derived => nomatch derived.2
  | derived sessionId playId tokenId parentPlays =>
    exact handled.validateBySession sessionId playId tokenId parentPlays sound
  | closed sessionId => exact handled.onSessionClose sessionId
  | revoke req => exact handled.of_kept (kept_updatePlayTokenByEvent v req .revoke) sound
  | updatePermission req permission =>
    rcases onUpdatePermissionEvent_eq v req permission with eq | ⟨generated, eq⟩
    · have same : v.step (.updatePermission req permission) = v := eq
      rw [same]
      exact handled
    · have walks : v.step (.updatePermission req permission) =
          v.updatePlayTokenByEvent req (.permission generated) := eq
      rw [walks] at sound ⊢
      exact handled.of_kept (kept_updatePlayTokenByEvent v req _) sound
  | immediate index => exact handled.runImmediate index sound

end Handled

/-- Of the live sessions that hold a token the event named before it, or a token
derived from one, every one holds a revoked holder. -/
def Complete (before : Validator) (req : TokenEvent) (after : Validator) : Prop :=
  ∀ ref ∈ after.validated, (after.holders ref).sessionId ∉ after.closed →
    (ref ∈ before.validated ∧ req.Matches (before.holders ref).playToken) ∨
      (∃ parent ∈ before.validated, req.Matches (before.holders parent).playToken ∧
        (after.holders ref).DerivedFrom (after.holders parent)) →
    (after.holders ref).revoked = true

/-- No immediate of the walks that the event began is left. -/
def Processed (before handled after : Validator) : Prop :=
  ∀ immediate ∈ after.immediates,
    ¬ (before.nextWalk ≤ immediate.walk ∧ immediate.walk < handled.nextWalk)

/-- As long as no token is validated while a holder of its id is stored, no live
holder hides another, and every event is complete once it is processed. -/
theorem complete_of_unhidden (front back : List Action) (req : TokenEvent)
    (run : Run.Allowed step (fun v action => v.Fresh action ∧ v.Unhidden action) new
      (front ++ .revoke req :: back)) :
    let before := Run.final step new front
    let handled := before.step (.revoke req)
    let after := Run.final step handled back
    (∀ ref ∈ after.validated, (after.holders ref).sessionId ∉ after.closed →
      after.store.tokens (after.holders ref).playToken.id = some ref) ∧
    (Processed before handled after → Complete before req after) := by
  intro before handled after
  obtain ⟨runFront, event, runBack⟩ := (Run.allowed_append new front _).mp run
  have sound : before.Sound :=
    Run.invariant (fun v action sound allowed => sound_step action sound allowed) new front
      sound_new runFront
  have afterEvent := handled_revoke sound req
  have later : Handled before.nextWalk handled.nextWalk _ after :=
    Run.invariant (fun v action state allowed => handled_step action state allowed) handled back
      afterEvent runBack
  refine ⟨later.sound.live, fun processed ref valid live held => ?_⟩
  rcases held with ⟨was, matching⟩ | ⟨parent, was, matching, derived⟩
  · exact later.revoked ref ⟨was, matching⟩ live
  · rw [derived.1] at live
    rcases later.children parent ⟨was, matching⟩ live ref valid derived with
      revoked | ⟨walk, from_, below, _, scheduled⟩
    · exact revoked
    · exact absurd ⟨from_, below⟩ (processed ⟨walk, ref⟩ scheduled)

instance (before : Validator) (req : TokenEvent) (after : Validator) :
    Decidable (before.Complete req after) :=
  inferInstanceAs (Decidable (∀ ref ∈ after.validated, _ → _ → _))

instance (before handled after : Validator) : Decidable (Processed before handled after) :=
  inferInstanceAs (Decidable (∀ immediate ∈ after.immediates, _))

/-- A session with the token of a play and the token derived for its child play. -/
theorem complete_of_unhidden_family :
    let front : List Action :=
      [.validate "s", .validated "s" ⟨"7", "10", .initial, none⟩,
        .derived "s" "11" "0a" [("10", some ⟨none, none, none⟩)]]
    let before := Run.final step new front
    let handled := before.step (.revoke ⟨some "7", none, none⟩)
    let after := Run.final step handled [.immediate 0]
    after.validated = [0, 1] ∧ before.Complete ⟨some "7", none, none⟩ after := by
  intro front before handled after
  have run : Run.Allowed step (fun v action => v.Fresh action ∧ v.Unhidden action) new
      (front ++ .revoke ⟨some "7", none, none⟩ :: [.immediate 0]) := by decide +kernel
  refine ⟨by decide +kernel, (complete_of_unhidden front [.immediate 0] _ run).2 ?_⟩
  decide +kernel

/-- Two sessions are validated with one token: the second holder is hidden by the
first, and the event does not revoke it. -/
theorem hidden_holder :
    let front : List Action :=
      [.validate "s", .validate "t", .validated "s" ⟨"7", "10", .initial, none⟩,
        .validated "t" ⟨"7", "10", .initial, none⟩]
    let req : TokenEvent := ⟨some "7", none, none⟩
    let before := Run.final step new front
    let handled := before.step (.revoke req)
    Run.Allowed step Fresh new (front ++ [Action.revoke req]) ∧ Processed before handled handled ∧
      ¬ before.Complete req handled := by
  decide +kernel

end Validator
end AkashicSystem.PlaylogServer
