import AkashicSystem.Playlog.QueueConsumer
import Mathlib.Data.List.Nodup

/-!
# When a playing play is torn down

The closing clock of a subscription is started by an update that lists the play
as closing, and nothing stops it when the play is resumed.  So an update that
lists the play as playing tears it down exactly when that clock ran out and no
message is left.
-/

set_option autoImplicit false

namespace AkashicSystem.Playlog.QueueConsumer

open AkashicSystem.Js Computation List

def TearsDown (playId : String) (made : QueueCall) : Prop :=
  made = .unsubscribe playId ∨ made = .deleteQueue playId ∨ made = .setClosed playId

def Lists (u : Update) (playId : String) (writeStatus : WriteStatus) : Prop :=
  ∃ plays, u.writingPlays = some plays ∧ (playId, writeStatus) ∈ plays

/-- The play id is the key of the table that `getWritingPlays` reads. -/
def Keyed (u : Update) : Prop :=
  ∀ plays, u.writingPlays = some plays → (plays.map Prod.fst).Nodup

variable (c : QueueConsumer)

def callsOf (u : Update) : List QueueCall :=
  (c.update u).calls.drop c.calls.length

def KeepsPlaying (u : Update) : Prop :=
  ∀ playId, Lists u playId .playing → ∀ made ∈ callsOf c u, ¬ TearsDown playId made

/-- The closing clock of a subscribed play ran out. -/
def Overdue (u : Update) (playId : String) : Prop :=
  ∃ subscription ∈ c.subscriptions, subscription.playId = playId ∧
    expired u.now subscription = true

def Calm (u : Update) : Prop :=
  ∀ playId, Lists u playId .playing → Overdue c u playId → u.hasMessage playId = some true

def Undisturbed (u : Update) : Prop :=
  u.writingPlays.isSome ∧ ∀ made, u.succeeds made = true

variable (p : QueueCall → Prop)

def Makes (c c' : QueueConsumer) : Prop :=
  ∃ made, c'.calls = c.calls ++ made ∧ ∀ call ∈ made, p call

theorem Makes.refl (c : QueueConsumer) : Makes p c c :=
  ⟨[], (append_nil _).symm, fun _ there => (not_mem_nil there).elim⟩

theorem Makes.trans {p : QueueCall → Prop} {a b c : QueueConsumer} (first : Makes p a b)
    (second : Makes p b c) : Makes p a c := by
  obtain ⟨made, eq, all⟩ := first
  obtain ⟨made', eq', all'⟩ := second
  refine ⟨made ++ made', by rw [eq', eq, append_assoc], fun call there => ?_⟩
  rcases mem_append.mp there with there | there
  · exact all call there
  · exact all' call there

theorem Makes.callsOf {p : QueueCall → Prop} {c : QueueConsumer} {u : Update}
    (makes : Makes p c (c.update u)) : ∀ made ∈ callsOf c u, p made := by
  obtain ⟨made, eq, all⟩ := makes
  rw [QueueConsumer.callsOf, eq, drop_left]
  exact all

theorem call_run (u : Update) (made : QueueCall) (c : QueueConsumer) : call u made c =
      if u.succeeds made then .ok () { c with calls := c.calls ++ [made] }
      else .error () { c with calls := c.calls ++ [made] } := by
  simp only [call, bind_run, modify_run]
  split <;> rfl

theorem call_makes (u : Update) (made : QueueCall) (c : QueueConsumer)
    (here : p made) : Makes p c (stateOf (call u made c)) := by
  have makes : Makes p c { c with calls := c.calls ++ [made] } :=
    ⟨[made], rfl, fun call there => mem_singleton.mp there ▸ here⟩
  rw [call_run]
  split <;> exact makes

theorem bind_makes {α β : Type} (p : QueueCall → Prop) (m : UpdateM α) (f : α → UpdateM β)
    (c : QueueConsumer) (first : Makes p c (stateOf (m c)))
    (second : ∀ a c', m c = .ok a c' → Makes p c' (stateOf (f a c'))) :
    Makes p c (stateOf ((m >>= f) c)) := by
  rw [bind_run]
  cases run : m c with
  | ok a c' =>
    rw [run] at first
    exact first.trans (second a c' run)
  | error err c' =>
    rw [run] at first
    exact first

section

variable (u : Update)
include u

variable (playId : String)

theorem assertSubscription_makes (c : QueueConsumer) :
    Makes (fun made => ∃ id, made = .subscribe id) c
      (stateOf (assertSubscription u playId c)) := by
  unfold assertSubscription
  refine bind_makes _ _ _ _ (Makes.refl _ c) fun s c' got => ?_
  cases got
  by_cases known : c.subscribed playId = true
  · rw [if_pos known]
    exact Makes.refl _ _
  · rw [if_neg known]
    refine bind_makes _ _ _ _ (call_makes _ u _ _ ⟨playId, rfl⟩) fun _ c' _ => ?_
    exact ⟨[], (append_nil _).symm, fun _ there => (not_mem_nil there).elim⟩

theorem watchPlays_makes (plays : List (String × WriteStatus)) (ids : List String)
    (c : QueueConsumer) : Makes (fun made => ∃ id, made = .subscribe id) c
      (stateOf (watchPlays u plays ids c)) := by
  induction plays generalizing ids c with
  | nil => exact Makes.refl _ c
  | cons play rest ih =>
    rcases play with ⟨playId, writeStatus⟩
    unfold watchPlays
    refine bind_makes _ _ _ _ (assertSubscription_makes u playId c) fun _ c' _ => ?_
    refine bind_makes _ _ _ _ ?_ fun _ c'' _ => ih _ c''
    rw [modify_run]
    refine ⟨[], ?_, fun _ there => (not_mem_nil there).elim⟩
    rw [append_nil]
    dsimp only [stateOf_ok]
    split <;> rfl

theorem assertSubscription_ok (c c' : QueueConsumer)
    (run : assertSubscription u playId c = .ok () c') : c'.subscriptions = c.subscriptions ∨
      c'.subscriptions = c.subscriptions ++ [⟨playId, none⟩] := by
  simp only [assertSubscription, bind_run, get_run] at run
  by_cases known : c.subscribed playId = true
  · rw [if_pos known] at run
    cases run
    exact .inl rfl
  · rw [if_neg known, bind_run, call_run] at run
    by_cases succeeds : u.succeeds (.subscribe playId) = true
    · rw [if_pos succeeds] at run
      cases run
      exact .inr rfl
    · rw [if_neg succeeds] at run
      cases run

theorem startClosing_other (subscription : Subscription)
    (other : subscription.playId ≠ playId) : startClosing u playId subscription = subscription :=
  if_neg fun both => other both.1

theorem startClosing_playId (subscription : Subscription) :
    (startClosing u playId subscription).playId = subscription.playId := by
  rw [startClosing]
  split <;> rfl

theorem watchPlays_ok (plays : List (String × WriteStatus)) (ids ids' : List String)
    (c c' : QueueConsumer) (run : watchPlays u plays ids c = .ok ids' c') :
    (∀ id, id ∈ ids' ↔ id ∈ ids ∧ id ∉ plays.map Prod.fst) ∧
      ∀ playId, (playId, WriteStatus.closing) ∉ plays →
        (∀ subscription ∈ c'.subscriptions, subscription.playId = playId →
          subscription ∈ c.subscriptions ∨ subscription.changeClosingAt = none) ∧
        ∀ subscription ∈ c.subscriptions, subscription.playId = playId →
          subscription ∈ c'.subscriptions := by
  induction plays generalizing ids c with
  | nil =>
    cases run
    refine ⟨fun id => ?_, fun playId _ => ⟨fun s there _ => .inl there, fun s there _ => there⟩⟩
    exact ⟨fun there => ⟨there, not_mem_nil⟩, fun both => both.1⟩
  | cons play rest ih =>
    rcases play with ⟨first, writeStatus⟩
    rw [watchPlays, bind_run] at run
    cases asserted : assertSubscription u first c with
    | error err c₁ =>
      rw [asserted] at run
      cases run
    | ok _ c₁ =>
      rw [asserted] at run
      simp only [bind_run, modify_run] at run
      obtain ⟨idsIff, kept⟩ := ih _ _ run
      have added := assertSubscription_ok u first c c₁ asserted
      constructor
      · intro id
        rw [idsIff, mem_filter, map_cons, mem_cons, decide_eq_true_eq]
        tauto
      · intro playId notClosing
        rw [mem_cons, not_or] at notClosing
        obtain ⟨notFirst, notRest⟩ := notClosing
        obtain ⟨back, forth⟩ := kept playId notRest
        -- the update of the clock leaves this play alone
        have same : ∀ subscription : Subscription, subscription.playId = playId →
            (subscription ∈ (if writeStatus = .closing then
                { c₁ with subscriptions := c₁.subscriptions.map (startClosing u first) }
              else c₁).subscriptions ↔ subscription ∈ c₁.subscriptions) := by
          intro subscription isPlay
          by_cases closing : writeStatus = .closing
          · subst closing
            have other : playId ≠ first := fun eq => notFirst (by rw [eq])
            rw [if_pos rfl, List.mem_map]
            constructor
            · rintro ⟨before, there, rfl⟩
              rw [startClosing_playId] at isPlay
              rw [startClosing_other _ _ _ (isPlay.symm ▸ other)]
              exact there
            · intro there
              exact ⟨subscription, there, startClosing_other _ _ _ (isPlay.symm ▸ other)⟩
          · rw [if_neg closing]
        constructor
        · intro subscription there isPlay
          rcases back subscription there isPlay with there | fresh
          · have before := (same subscription isPlay).mp there
            rcases added with eq | eq
            · exact .inl (eq ▸ before)
            · rw [eq] at before
              rcases mem_append.mp before with before | before
              · exact .inl before
              · rw [mem_singleton.mp before]
                exact .inr rfl
          · exact .inr fresh
        · intro subscription there isPlay
          refine forth subscription ((same subscription isPlay).mpr ?_) isPlay
          rcases added with eq | eq
          · exact eq ▸ there
          · rw [eq]
            exact mem_append_left _ there

end

theorem mem_addExpired (now : Nat) (subscriptions : List Subscription) (ids : List String)
    (id : String) : id ∈ addExpired now subscriptions ids ↔
      id ∈ ids ∨ ∃ subscription ∈ subscriptions, subscription.playId = id ∧
        expired now subscription = true := by
  induction subscriptions generalizing ids with
  | nil =>
    constructor
    · exact .inl
    · rintro (there | ⟨subscription, there, -⟩)
      · exact there
      · exact (not_mem_nil there).elim
  | cons head rest ih =>
    have unfolded : addExpired now (head :: rest) ids = addExpired now rest
        (if expired now head ∧ head.playId ∉ ids then ids ++ [head.playId] else ids) := rfl
    rw [unfolded, ih]
    by_cases adds : expired now head = true ∧ head.playId ∉ ids
    · rw [if_pos adds, mem_append, mem_singleton]
      constructor
      · rintro ((there | rfl) | ⟨s, there, rest⟩)
        · exact .inl there
        · exact .inr ⟨head, mem_cons_self, rfl, adds.1⟩
        · exact .inr ⟨s, mem_cons_of_mem _ there, rest⟩
      · rintro (there | ⟨s, there, isId, out⟩)
        · exact .inl (.inl there)
        · rcases mem_cons.mp there with rfl | there
          · exact .inl (.inr isId.symm)
          · exact .inr ⟨s, there, isId, out⟩
    · rw [if_neg adds]
      constructor
      · rintro (there | ⟨s, there, rest⟩)
        · exact .inl there
        · exact .inr ⟨s, mem_cons_of_mem _ there, rest⟩
      · rintro (there | ⟨s, there, isId, out⟩)
        · exact .inl there
        · rcases mem_cons.mp there with rfl | there
          · by_cases known : s.playId ∈ ids
            · exact .inl (isId ▸ known)
            · exact absurd ⟨out, known⟩ adds
          · exact .inr ⟨s, there, isId, out⟩

variable (u : Update)

variable (ids : List String)

def Within (made : QueueCall) : Prop :=
  ∀ playId, TearsDown playId made → playId ∈ ids ∧ u.hasMessage playId ≠ some true

theorem within_teardown (id : String) (made : QueueCall)
    (there : id ∈ ids) (none : u.hasMessage id ≠ some true)
    (own : ∀ playId, TearsDown playId made → playId = id) : Within u ids made := by
  intro playId tearsDown
  rw [own playId tearsDown]
  exact ⟨there, none⟩

theorem unsubscribeAndDelete_makes (id : String)
    (there : id ∈ ids) (c : QueueConsumer) :
    Makes (Within u ids) c (stateOf (unsubscribeAndDelete u id c)) := by
  unfold unsubscribeAndDelete
  have asks : Within u ids (.hasMessage id) := by
    rintro playId (eq | eq | eq) <;> cases eq
  refine bind_makes _ _ _ _ (call_makes _ u _ _ asks) fun _ c₁ _ => ?_
  by_cases left : u.hasMessage id = some true
  · rw [if_pos left]
    exact Makes.refl _ _
  · rw [if_neg left]
    have own : ∀ made : QueueCall,
        (∀ playId, TearsDown playId made → playId = id) → Within u ids made :=
      fun made => within_teardown u ids id made there left
    refine bind_makes _ _ _ _ (call_makes _ u _ _ (own _ ?_)) fun _ c₂ _ => ?_
    · rintro playId (eq | eq | eq) <;> cases eq
      rfl
    refine bind_makes _ _ _ _ (call_makes _ u _ _ (own _ ?_)) fun _ c₃ _ => ?_
    · rintro playId (eq | eq | eq) <;> cases eq
      rfl
    refine bind_makes _ _ _ _ ?_ fun _ c₄ _ => call_makes _ u _ _ (own _ ?_)
    · exact ⟨[], (append_nil _).symm, fun _ there => (not_mem_nil there).elim⟩
    · rintro playId (eq | eq | eq) <;> cases eq
      rfl

theorem deleteAll_makes (ids rest : List String) (sub : ∀ id ∈ rest, id ∈ ids)
    (c : QueueConsumer) : Makes (Within u ids) c (stateOf (deleteAll u rest c)) := by
  induction rest generalizing c with
  | nil => exact Makes.refl _ c
  | cons id rest ih =>
    unfold deleteAll
    refine bind_makes _ _ _ _ ?_ fun _ c' _ => ?_
    · exact unsubscribeAndDelete_makes u ids id (sub id mem_cons_self) c
    · exact ih (fun id there => sub id (mem_cons_of_mem _ there)) c'

theorem mem_deleting_iff (c c' : QueueConsumer) (u : Update) (plays : List (String × WriteStatus))
    (deletingIds : List String) (playId : String) (keyed : (plays.map Prod.fst).Nodup)
    (playing : (playId, WriteStatus.playing) ∈ plays)
    (run : watchPlays u plays (c.subscriptions.map Subscription.playId) c = .ok deletingIds c') :
    playId ∈ addExpired u.now c'.subscriptions deletingIds ↔ Overdue c u playId := by
  obtain ⟨idsIff, kept⟩ := watchPlays_ok u plays _ deletingIds c c' run
  have notClosing : (playId, WriteStatus.closing) ∉ plays := by
    intro closing
    have same := inj_on_of_nodup_map keyed playing closing rfl
    cases same
  obtain ⟨back, forth⟩ := kept playId notClosing
  have listed : playId ∈ plays.map Prod.fst := mem_map.mpr ⟨_, playing, rfl⟩
  rw [mem_addExpired, idsIff]
  constructor
  · rintro (⟨-, notListed⟩ | ⟨subscription, there, isPlay, out⟩)
    · exact absurd listed notListed
    · rcases back subscription there isPlay with there | fresh
      · exact ⟨subscription, there, isPlay, out⟩
      · rw [expired, fresh] at out
        cases out
  · rintro ⟨subscription, there, isPlay, out⟩
    exact .inr ⟨subscription, forth subscription there isPlay, isPlay, out⟩

/-- An update with no overdue play among the playing ones tears none of them down. -/
theorem keepsPlaying_of_calm (keyed : Keyed u)
    (calm : Calm c u) : KeepsPlaying c u := by
  intro playId lists
  apply Makes.callsOf
  obtain ⟨plays, answer, playing⟩ := lists
  unfold update onUpdate
  rw [answer]
  refine bind_makes _ _ _ _ (Makes.refl _ c) fun s c₀ got => ?_
  cases got
  refine bind_makes _ _ _ _ ?_ fun deletingIds c₁ watched => ?_
  · obtain ⟨made, eq, all⟩ := watchPlays_makes u plays (c.subscriptions.map Subscription.playId) c
    refine ⟨made, eq, fun call there => ?_⟩
    obtain ⟨id, rfl⟩ := all call there
    rintro (eq | eq | eq) <;> cases eq
  · refine bind_makes _ _ _ _ (Makes.refl _ c₁) fun s c₂ got => ?_
    cases got
    obtain ⟨made, eq, all⟩ := deleteAll_makes u _ _ (fun _ there => there) c₁
    refine ⟨made, eq, fun call there tearsDown => ?_⟩
    obtain ⟨deleting, none⟩ := all call there playId tearsDown
    have overdue := (mem_deleting_iff c c₁ u plays deletingIds playId (keyed plays answer)
      playing watched).mp deleting
    exact none (calm playId ⟨plays, answer, playing⟩ overdue)

section Succeeding

variable {u : Update} (succeeds : ∀ made, u.succeeds made = true)

include succeeds

theorem call_ok (made : QueueCall) (c : QueueConsumer) :
    call u made c = .ok () { c with calls := c.calls ++ [made] } := by
  rw [call_run, if_pos (succeeds made)]

theorem assertSubscription_succeeds (playId : String) (c : QueueConsumer) :
    ∃ c', assertSubscription u playId c = .ok () c' := by
  simp only [assertSubscription, bind_run, get_run]
  by_cases known : c.subscribed playId = true
  · rw [if_pos known]
    exact ⟨c, rfl⟩
  · rw [if_neg known, bind_run, call_ok succeeds]
    exact ⟨_, rfl⟩

theorem watchPlays_succeeds (plays : List (String × WriteStatus)) (ids : List String)
    (c : QueueConsumer) : ∃ ids' c', watchPlays u plays ids c = .ok ids' c' := by
  induction plays generalizing ids c with
  | nil => exact ⟨ids, c, rfl⟩
  | cons play rest ih =>
    rcases play with ⟨playId, writeStatus⟩
    obtain ⟨c₁, asserted⟩ := assertSubscription_succeeds succeeds playId c
    rw [watchPlays, bind_run, asserted]
    simp only [bind_run, modify_run]
    exact ih _ _

theorem unsubscribeAndDelete_succeeds (id : String) (c : QueueConsumer) :
    ∃ c' made, unsubscribeAndDelete u id c = .ok () c' ∧ c'.calls = c.calls ++ made ∧
      (u.hasMessage id ≠ some true → QueueCall.unsubscribe id ∈ made) := by
  simp only [unsubscribeAndDelete, bind_run, call_ok succeeds]
  by_cases left : u.hasMessage id = some true
  · rw [if_pos left]
    exact ⟨_, [.hasMessage id], rfl, rfl, fun none => absurd left none⟩
  · rw [if_neg left]
    simp only [bind_run, call_ok succeeds, modify_run]
    refine ⟨_, [.hasMessage id, .unsubscribe id, .deleteQueue id, .setClosed id], rfl, ?_, ?_⟩
    · simp only [append_assoc, cons_append, nil_append]
    · intro _
      simp only [mem_cons, true_or, or_true]

theorem deleteAll_succeeds (ids : List String) (c : QueueConsumer) :
    ∃ c' made, deleteAll u ids c = .ok () c' ∧ c'.calls = c.calls ++ made ∧
      ∀ id ∈ ids, u.hasMessage id ≠ some true → QueueCall.unsubscribe id ∈ made := by
  induction ids generalizing c with
  | nil =>
    exact ⟨c, [], rfl, (append_nil _).symm, fun _ there => (not_mem_nil there).elim⟩
  | cons id rest ih =>
    obtain ⟨c₁, made, run, calls, unsubscribes⟩ := unsubscribeAndDelete_succeeds succeeds id c
    obtain ⟨c₂, made', run', calls', unsubscribes'⟩ := ih c₁
    refine ⟨c₂, made ++ made', ?_, ?_, ?_⟩
    · rw [deleteAll, bind_run, run]
      exact run'
    · rw [calls', calls, append_assoc]
    · intro other there none
      rcases mem_cons.mp there with rfl | there
      · exact mem_append_left _ (unsubscribes none)
      · exact mem_append_right _ (unsubscribes' other there none)

end Succeeding

/-- Where nothing fails, an overdue play without messages is torn down. -/
theorem calm_of_keepsPlaying (keyed : Keyed u)
    (undisturbed : Undisturbed u) (keeps : KeepsPlaying c u) : Calm c u := by
  intro playId lists overdue
  by_contra none
  obtain ⟨plays, answer, playing⟩ := lists
  have succeeds := undisturbed.2
  obtain ⟨deletingIds, c₁, watched⟩ :=
    watchPlays_succeeds succeeds plays (c.subscriptions.map Subscription.playId) c
  obtain ⟨c₂, made, deleted, calls, unsubscribes⟩ :=
    deleteAll_succeeds succeeds (addExpired u.now c₁.subscriptions deletingIds) c₁
  have deleting := (mem_deleting_iff c c₁ u plays deletingIds playId (keyed plays answer)
    playing watched).mpr overdue
  have unsubscribed := unsubscribes playId deleting none
  have after : c.update u = c₂ := by
    unfold update onUpdate
    rw [answer]
    simp only [bind_run, get_run]
    rw [watched]
    dsimp only
    rw [deleted]
    rfl
  have before : ∃ watching, c₁.calls = c.calls ++ watching := by
    obtain ⟨watching, eq, -⟩ :=
      watchPlays_makes u plays (c.subscriptions.map Subscription.playId) c
    rw [watched] at eq
    exact ⟨watching, eq⟩
  obtain ⟨watching, before⟩ := before
  have there : QueueCall.unsubscribe playId ∈ callsOf c u := by
    rw [callsOf, after, calls, before, append_assoc, drop_left]
    exact mem_append_right _ unsubscribed
  exact keeps playId ⟨plays, answer, playing⟩ _ there (.inl rfl)

/-- A run keeps every playing play in every update if in each of them no playing
play is overdue and without messages; where no call fails, only if. -/
theorem playing_kept (updates : List Update) (keyed : ∀ u ∈ updates, Keyed u) :
    (Run.Allowed update Calm new updates → Run.Allowed update KeepsPlaying new updates) ∧
      ((∀ u ∈ updates, Undisturbed u) → Run.Allowed update KeepsPlaying new updates →
        Run.Allowed update Calm new updates) := by
  constructor
  · intro calm
    exact calm.mono_of_mem new updates fun c u there => keepsPlaying_of_calm c u (keyed u there)
  · intro undisturbed keeps
    refine keeps.mono_of_mem new updates fun c u there => ?_
    exact calm_of_keepsPlaying c u (keyed u there) (undisturbed u there)

/-- The updates of one play whose write status goes through these values. -/
def watched (playId : String) : List (Nat × WriteStatus) → List Update :=
  map fun (now, writeStatus) =>
    ⟨some [(playId, writeStatus)], fun _ => now, now, fun _ => true, fun _ => some false⟩

theorem watched_keyed (playId : String) (statuses : List (Nat × WriteStatus)) :
    ∀ u ∈ watched playId statuses, Keyed u := by
  intro u there plays answer
  obtain ⟨⟨now, writeStatus⟩, -, rfl⟩ := mem_map.mp there
  cases answer
  exact nodup_singleton playId

theorem playing_kept_resumed :
    (∀ u ∈ watched "1" [(0, .playing), (1000, .closing), (2000, .playing)], Keyed u) ∧
      Run.Allowed update KeepsPlaying new
        (watched "1" [(0, .playing), (1000, .closing), (2000, .playing)]) := by
  have keyed := watched_keyed "1" [(0, .playing), (1000, .closing), (2000, .playing)]
  refine ⟨keyed, (playing_kept _ keyed).1 ?_⟩
  refine ⟨?_, ?_, ?_, trivial⟩
  all_goals
    rintro playId - ⟨subscription, there, -, out⟩
    exfalso
    revert subscription
    decide

/-- A play that is resumed after a second is torn down ten minutes later. -/
theorem resumed_torn_down : ¬ ∀ updates : List Update, (∀ u ∈ updates, Keyed u) →
      Run.Allowed update KeepsPlaying new updates := by
  intro claimed
  have keyed := watched_keyed "1"
    [(0, .playing), (1000, .closing), (2000, .playing), (700000, .playing)]
  obtain ⟨-, -, -, last, -⟩ := claimed _ keyed
  refine last "1" ⟨_, rfl, mem_singleton_self _⟩ (.unsubscribe "1") ?_ (.inl rfl)
  decide

end AkashicSystem.Playlog.QueueConsumer
