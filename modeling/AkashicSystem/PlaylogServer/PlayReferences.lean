import Mathlib.Data.List.Basic
import Mathlib.Data.List.Nodup
import AkashicSystem.PlaylogServer.EngineClients

/-!
# The references to a play

The count of a play is that of the AMFlows that are open, and of those that have
been closed and wait for the handler before they give up their reference.
-/

set_option autoImplicit false

namespace AkashicSystem.PlaylogServer
namespace EngineClients

open PlayClients.ServerEngineAMFlow Function Pool PlayClients.World EngineClients PlayClients.Flow
open PlayClients.PlaylogHandler (closes onError prepare prepares)
open PlayClients renaming Task → Call, World → Clients
open List

def Unfailing (call : Call) (reply : PlayClients.Reply) : Prop :=
  match call with
  | .closing _ _ => reply ≠ .rejected
  | _ => True

/-- An AMFlow is opened once, and closed once where it has been opened. -/
def Timely (w : World) : Task → Reply → Prop
  | .openRequest client, _ => client ∈ w.present ∧ (w.flows client).opens = 0 ∧
      (w.flows client).closes = 0
  | .closeRequest client, _ => 0 < (w.flows client).opens → (w.flows client).closes = 0
  | .channelClosed client, _ => w.readyState client = .open → 0 < (w.flows client).opens →
      (w.flows client).closes = 1
  | .socketClosed session, _ => ∀ client ∈ Session.ofSession w session,
      0 < (w.flows client).opens → (w.flows client).closes = 0
  | .closing _ _ close, .call _ reply => Unfailing close reply
  | .calls running, .call index reply => ∀ call ∈ running[index]?, Unfailing call reply
  | _, _ => True

def Orderly (p : Run) : Action Task Reply → Prop
  | .start task => task.Begins
  | .step index reply => ∀ task ∈ p.threads[index]?, Timely p.state task reply

instance (call : Call) (reply : PlayClients.Reply) : Decidable (Unfailing call reply) :=
  match call with
  | .closing _ _ => inferInstanceAs (Decidable (reply ≠ .rejected))
  | .open _ | .close _ | .authenticate _ | .onError _ | .reauthenticating _ _ | .validating _
  | .granting _ _ _ | .done | .rejected => isTrue trivial

instance (w : World) : DecidableRel (Timely w)
  | .openRequest client, _ =>
    inferInstanceAs (Decidable (client ∈ w.present ∧ (w.flows client).opens = 0 ∧
      (w.flows client).closes = 0))
  | .closeRequest client, _ =>
    inferInstanceAs (Decidable (0 < (w.flows client).opens → (w.flows client).closes = 0))
  | .channelClosed client, _ =>
    inferInstanceAs (Decidable (w.readyState client = .open → 0 < (w.flows client).opens →
      (w.flows client).closes = 1))
  | .socketClosed session, _ =>
    inferInstanceAs (Decidable (∀ client ∈ Session.ofSession w session,
      0 < (w.flows client).opens → (w.flows client).closes = 0))
  | .closing _ _ close, .call _ reply => inferInstanceAs (Decidable (Unfailing close reply))
  | .calls running, .call index reply =>
    inferInstanceAs (Decidable (∀ call ∈ running[index]?, Unfailing call reply))
  | .channel _, _ | .opening _, _ | .closing _ _ _, .opened _ | .closing _ _ _, .pipesClosed
  | .closing _ _ _, .answered | .closing _ _ _, .failed | .calls _, .opened _
  | .calls _, .pipesClosed | .calls _, .answered | .calls _, .failed => isTrue trivial

instance (p : Run) : DecidablePred (Orderly p)
  | .start task => inferInstanceAs (Decidable task.Begins)
  | .step index reply =>
    inferInstanceAs (Decidable (∀ task ∈ p.threads[index]?, Timely p.state task reply))

/-- The caches have been purged as often as the count has returned to 0. -/
def Purged (w w' : Clients) : Prop :=
  w'.purges = w.purges + if 0 < w.refCount ∧ w'.refCount = 0 then 1 else 0

section Purging

variable {w w' w'' : Clients}

theorem purged_of_same (refCount : w'.refCount = w.refCount) (purges : w'.purges = w.purges) :
    Purged w w' := by
  unfold Purged
  rw [if_neg (by omega)]
  exact purges

theorem purged_unref (w : Clients) (flow : Nat) : (unref w flow).refCount ≤ w.refCount ∧
      Purged w (unref w flow) := by
  unfold unref PlayClients.RequestHandler.unref
  split
  · exact ⟨Nat.le_refl _, purged_of_same rfl rfl⟩
  · split
    · exact ⟨Nat.le_refl _, purged_of_same rfl rfl⟩
    · next some_ =>
        refine ⟨Nat.sub_le _ _, ?_⟩
        unfold Purged
        dsimp only
        by_cases last : w.refCount = 1
        · simp [last]
        · rw [if_neg last, if_neg (by omega)]
          exact (Nat.add_zero _).symm

theorem Purged.trans (first : Purged w w') (falls : w'.refCount ≤ w.refCount)
    (second : Purged w' w'') (falls' : w''.refCount ≤ w'.refCount) : Purged w w'' := by
  unfold Purged at first second ⊢
  split_ifs at first second ⊢ <;> omega

theorem purged_close (w : Clients) (flow : Nat) : (close w flow).1.refCount ≤ w.refCount ∧
      Purged w (close w flow).1 := by
  unfold close
  dsimp only
  split
  · have spec := closes (w.setFlow flow { w.flows flow with
      closes := (w.flows flow).closes + 1 }) flow
    exact ⟨Nat.le_of_eq spec.refCount, purged_of_same spec.refCount spec.purges⟩
  · exact purged_unref (w.setFlow flow { w.flows flow with
      closes := (w.flows flow).closes + 1 }) flow

end Purging

/-! ## The calls of AMFlows -/

structure SameCounts (w w' : Clients) : Prop where
  opens : ∀ flow, (w'.flows flow).opens = (w.flows flow).opens
  closes : ∀ flow, (w'.flows flow).closes = (w.flows flow).closes
  refCount : w'.refCount = w.refCount
  purges : w'.purges = w.purges

def PreparedOpened (w : Clients) : Prop :=
  ∀ flow, (w.flows flow).playlogHandlerPrepared = true → 0 < (w.flows flow).opens

def Opened (w : Clients) : Call → Prop
  | .closing flow _ | .granting flow _ _ => 0 < (w.flows flow).opens
  | .open _ | .close _ => False
  | _ => True

def owed : Call → Int
  | .closing _ _ => 1
  | _ => 0

section Calls

variable {w w' w'' : Clients} {call : Call}

theorem SameCounts.trans (first : SameCounts w w') (second : SameCounts w' w'') :
    SameCounts w w'' where
  opens flow := (second.opens flow).trans (first.opens flow)
  closes flow := (second.closes flow).trans (first.closes flow)
  refCount := second.refCount.trans first.refCount
  purges := second.purges.trans first.purges

theorem sameCounts_of_flows (flows : w'.flows = w.flows) (refCount : w'.refCount = w.refCount)
    (purges : w'.purges = w.purges) : SameCounts w w' :=
  ⟨fun _ => by rw [flows], fun _ => by rw [flows], refCount, purges⟩

theorem sameCounts_setFlow (w : Clients) (flow : Nat) (value : PlayClients.Flow)
    (opens : value.opens = (w.flows flow).opens) (closes : value.closes = (w.flows flow).closes) :
    SameCounts w (w.setFlow flow value) := by
  refine ⟨fun other => ?_, fun other => ?_, rfl, rfl⟩
  · by_cases same : other = flow
    · subst same
      simpa [setFlow] using opens
    · simp [setFlow, same]
  · by_cases same : other = flow
    · subst same
      simpa [setFlow] using closes
    · simp [setFlow, same]

theorem SameCounts.opened (same : SameCounts w w') (opened : Opened w call) : Opened w' call := by
  cases call with
  | closing flow closing | granting flow prepare lock =>
    exact Nat.lt_of_lt_of_eq opened (same.opens flow).symm
  | «open» flow | close flow => exact opened
  | _ => trivial

theorem prepared_setFlow (flow : Nat) (value : PlayClients.Flow)
    (opens : value.opens = (w.flows flow).opens) (prepared : PreparedOpened w)
    (own : value.playlogHandlerPrepared = true → 0 < (w.flows flow).opens) :
    PreparedOpened (w.setFlow flow value) := by
  intro other isPrepared
  by_cases same : other = flow
  · subst same
    simp only [setFlow, update_self] at isPrepared ⊢
    rw [opens]
    exact own isPrepared
  · simp only [setFlow, update_of_ne same] at isPrepared ⊢
    exact prepared other isPrepared

structure Moves (w : Clients) (call : Call)
    (r : Clients × Call) : Prop where
  same : SameCounts w r.1
  owed : owed r.2 = owed call
  prepared : PreparedOpened w → Opened w call → PreparedOpened r.1
  opened : Opened w call → Opened r.1 r.2

theorem owed_granting (flow : Nat) (prepare : Option (Option Nat)) (lock : Bool) :
    owed (granting flow prepare lock) = 0 := by
  unfold granting
  split <;> rfl

theorem opened_granting {flow : Nat} (opens : 0 < (w.flows flow).opens)
    (prepare : Option (Option Nat)) (lock : Bool) : Opened w (granting flow prepare lock) := by
  unfold granting
  split
  · trivial
  · exact opens

theorem moves_authenticate (w : Clients) (flow : Nat) :
    Moves w (.authenticate flow) (authenticate w flow) := by
  have reset := sameCounts_setFlow w flow { w.flows flow with permission := .initial } rfl rfl
  have prepared (was : PreparedOpened w) :
      PreparedOpened (w.setFlow flow { w.flows flow with permission := .initial }) :=
    prepared_setFlow flow _ rfl was fun own => was flow own
  unfold authenticate
  dsimp only
  split
  · have spec := closes
      (w.setFlow flow { w.flows flow with permission := .initial }) flow
    refine ⟨?_, rfl, fun was _ => ?_, fun _ => trivial⟩
    · exact reset.trans (sameCounts_of_flows spec.flows spec.refCount spec.purges)
    · intro other isPrepared
      rw [spec.flows] at isPrepared ⊢
      exact prepared was other isPrepared
  · exact ⟨reset, rfl, fun was _ => prepared was, fun _ => trivial⟩

theorem moves_validated (w : Clients) (flow : Nat) (permission : Permission)
    (opens : (w.flows flow).opens ≠ 0) :
    Moves w (.validating flow) (validated w flow permission) := by
  have set_ := sameCounts_setFlow w flow { w.flows flow with permission := permission } rfl rfl
  have prepared (was : PreparedOpened w) :
      PreparedOpened (w.setFlow flow { w.flows flow with permission := permission }) :=
    prepared_setFlow flow _ rfl was fun own => was flow own
  have positive : 0 < (w.flows flow).opens := Nat.pos_of_ne_zero opens
  unfold validated
  dsimp only
  split
  · have spec := prepares
      (w.setFlow flow { w.flows flow with permission := permission }) flow
    generalize prepare
      (w.setFlow flow { w.flows flow with permission := permission }) flow = r at spec ⊢
    have same := set_.trans (sameCounts_of_flows spec.flows spec.refCount spec.purges)
    refine ⟨same, ?_, fun was _ => ?_, fun _ => ?_⟩
    · exact owed_granting flow (some r.2) permission.writeTick
    · intro other isPrepared
      rw [spec.flows] at isPrepared ⊢
      exact prepared was other isPrepared
    · exact opened_granting (Nat.lt_of_lt_of_eq positive (same.opens flow).symm) (some r.2)
        permission.writeTick
  · refine ⟨set_, ?_, fun was _ => prepared was, fun _ => ?_⟩
    · exact owed_granting flow none permission.writeTick
    · exact opened_granting (Nat.lt_of_lt_of_eq positive (set_.opens flow).symm) none
        permission.writeTick

theorem moves_setPrepared (w : Clients) (flow : Nat) (prepared : Bool)
    {call' : Call} (owes : owed call' = owed call)
    (opens : Opened w call → prepared = true → 0 < (w.flows flow).opens)
    (opened : Opened w call → Opened w call') :
    Moves w call (setPrepared w flow prepared, call') := by
  have same := sameCounts_setFlow w flow
    { w.flows flow with playlogHandlerPrepared := prepared } rfl rfl
  refine ⟨same, owes, fun was own => ?_, fun own => same.opened (opened own)⟩
  exact prepared_setFlow flow _ rfl was fun is => opens own is

theorem moves_onError (w : Clients) (holder : Nat) {call' : Call}
    (owes : owed call' = owed call) (opened : Opened w call → Opened w call') :
    Moves w call (onError w holder, call') := by
  unfold onError
  split
  · exact ⟨sameCounts_of_flows rfl rfl rfl, owes, fun was _ => was, opened⟩
  · refine ⟨?_, owes, fun was _ => was, fun own => ?_⟩
    · exact sameCounts_of_flows rfl rfl rfl
    · exact (sameCounts_of_flows rfl rfl rfl : SameCounts w _).opened (opened own)

theorem moves_closing {closing : PlayClients.Closing} {reply : PlayClients.Reply}
    {r : Clients × PlayClients.Closing} (moved : closing.next w reply = some r)
    {call' : Call} (owes : owed call' = owed call)
    (opened : Opened w call → Opened w call') : Moves w call (r.1, call') := by
  have same (holder : Nat) (value : PlayClients.Holder) : SameCounts w (w.setHolder holder value) :=
    sameCounts_of_flows rfl rfl rfl
  cases closing with
  | cancelConsume holder | close holder =>
    cases reply with
    | resolved =>
      cases moved
      exact ⟨same _ _, owes, fun was _ => was, fun own => (same _ _).opened (opened own)⟩
    | _ => cases moved
  | done => cases moved

theorem moves_self (w : Clients) {call' : Call}
    (owes : owed call' = owed call) (opened : Opened w call → Opened w call') :
    Moves w call (w, call') :=
  ⟨sameCounts_of_flows rfl rfl rfl, owes, fun was _ => was, opened⟩

theorem call_cases {reply : PlayClients.Reply} {r : Clients × Call}
    (moves : PlayClients.next w call reply = some r) (opened : Opened w call)
    (unfailing : Unfailing call reply) : Moves w call r ∨ ∃ flow, call = .closing flow .done ∧
      r = (unref w flow, .done) := by
  unfold PlayClients.next at moves
  split at moves
  · exact opened.elim
  · exact opened.elim
  · cases moves
    exact .inl (moves_authenticate w _)
  · split_ifs at moves
    cases moves
    exact .inl (moves_onError w _ rfl fun _ => trivial)
  · next flow =>
      cases moves
      exact .inr ⟨flow, rfl, rfl⟩
  · exact absurd rfl unfailing
  · next flow closing reply _ _ =>
      obtain ⟨r', moved, eq⟩ := Option.map_eq_some_iff.mp moves
      subst eq
      exact .inl (moves_closing moved rfl id)
  · cases moves
    exact .inl (moves_setPrepared w _ false rfl (fun _ is => by cases is) fun _ => trivial)
  · cases moves
    exact .inl (moves_self w rfl fun _ => trivial)
  · next flow closing reply _ _ =>
      obtain ⟨r', moved, eq⟩ := Option.map_eq_some_iff.mp moves
      subst eq
      exact .inl (moves_closing moved rfl fun _ => trivial)
  · split_ifs at moves
    next opens =>
      cases moves
      exact .inl (moves_validated w _ _ opens)
  · cases moves
    exact .inl (moves_self w rfl fun _ => trivial)
  · cases moves
    exact .inl (moves_setPrepared w _ true (owed_granting _ _ _) (fun own _ => own) fun own =>
      opened_granting own _ _)
  · cases moves
    exact .inl (moves_onError w _ (owed_granting _ _ _) fun own => opened_granting own _ _)
  · cases moves
    exact .inl (moves_self w (owed_granting _ _ _) fun own => opened_granting own _ _)
  · cases moves

end Calls

def openCount (flows : Nat → PlayClients.Flow) (created : Nat) : Nat :=
  (range created).countP fun client => (flows client).isOpen

def opening (flow : PlayClients.Flow) : Int := if flow.isOpen then 1 else 0

section Count

variable {flows flows' : Nat → PlayClients.Flow} {created client : Nat}

theorem openCount_succ (flows : Nat → PlayClients.Flow) (created : Nat) :
    (openCount flows (created + 1) : Int) = openCount flows created + opening (flows created) := by
  unfold openCount opening
  rw [range_succ, countP_append]
  cases isOpen : (flows created).isOpen <;> simp [isOpen]

theorem openCount_congr (same : ∀ c < created, (flows' c).isOpen = (flows c).isOpen) :
    openCount flows' created = openCount flows created := by
  refine countP_congr fun c mem => ?_
  rw [same c (mem_range.mp mem)]

theorem openCount_update (flows : Nat → PlayClients.Flow) (value : PlayClients.Flow)
    (inside : client < created) : (openCount (update flows client value) created : Int) =
      openCount flows created - opening (flows client) + opening value := by
  induction created with
  | zero => exact absurd inside (Nat.not_lt_zero _)
  | succ created ih =>
    rw [openCount_succ, openCount_succ]
    by_cases last : client = created
    · subst last
      have before : openCount (update flows client value) client =
          openCount flows client := openCount_congr fun c below => by
        rw [update_of_ne (Nat.ne_of_lt below)]
      rw [update_self, before]
      omega
    · have below := ih (Nat.lt_of_le_of_ne (Nat.le_of_lt_succ inside) last)
      rw [update_of_ne (Ne.symm last), below]
      omega

end Count

/-- The count of the play, with the references that are still to be given up. -/
structure Counted (w : World) (pending : Int) : Prop where
  refs : (w.refCount : Int) = openCount w.flows w.created + pending
  once : ∀ client, (w.flows client).opens ≤ 1 ∧
    (0 < (w.flows client).opens → (w.flows client).closes ≤ 1)
  fresh : ∀ client, w.created ≤ client → (w.flows client).opens = 0
  prepared : PreparedOpened w.toWorld

section Counted

variable {w : World} {pending : Int} {client : Nat}

theorem flows_unref (w : Clients) (flow : Nat) : (unref w flow).flows = w.flows := by
  obtain ⟨refCount, purges, eq⟩ := unref_eq w flow
  rw [eq]

theorem flows_close (w : Clients) (flow : Nat) : (close w flow).1.flows = update w.flows flow
      { w.flows flow with closes := (w.flows flow).closes + 1 } := by
  unfold close
  dsimp only
  split
  · exact (closes _ flow).flows
  · exact flows_unref _ flow

theorem refCount_unref {w : Clients} {flow : Nat} (opened : 0 < (w.flows flow).opens)
    (some_ : 0 < w.refCount) : ((unref w flow).refCount : Int) = w.refCount - 1 := by
  unfold unref PlayClients.RequestHandler.unref
  rw [if_neg (Nat.ne_of_gt opened), if_neg (Nat.ne_of_gt some_)]
  dsimp only
  omega

/-- What closing an AMFlow does to the count, or leaves its promise to do. -/
theorem refCount_close (w : Clients) (flow : Nat)
    (prepared : PreparedOpened w) (some_ : 0 < (w.flows flow).opens → 0 < w.refCount) :
    ((close w flow).1.refCount : Int) = w.refCount - (if 0 < (w.flows flow).opens then 1 else 0) +
        owed (close w flow).2 := by
  unfold close
  dsimp only
  split
  · next isPrepared =>
      have opened : 0 < (w.flows flow).opens := prepared flow (by
        simpa [setFlow] using isPrepared)
      have same := (closes (w.setFlow flow { w.flows flow with
        closes := (w.flows flow).closes + 1 }) flow).refCount
      rw [same, if_pos opened]
      change (w.refCount : Int) = w.refCount - 1 + 1
      omega
  · have opens : ((w.setFlow flow { w.flows flow with
        closes := (w.flows flow).closes + 1 }).flows flow).opens = (w.flows flow).opens := by
      simp [setFlow]
    by_cases opened : 0 < (w.flows flow).opens
    · have count := refCount_unref (w := w.setFlow flow { w.flows flow with
        closes := (w.flows flow).closes + 1 }) (by rwa [opens]) (some_ opened)
      rw [count, if_pos opened]
      exact (Int.add_zero _).symm
    · rw [if_neg opened, unref,
        if_pos (opens.trans (Nat.eq_zero_of_not_pos opened))]
      change (w.refCount : Int) = w.refCount - 0 + 0
      omega

theorem opened_close (w : Clients) (flow : Nat) (prepared : PreparedOpened w) :
    Opened (close w flow).1 (close w flow).2 := by
  have flows := flows_close w flow
  unfold close at flows ⊢
  dsimp only at flows ⊢
  split at flows
  · next isPrepared =>
      rw [if_pos isPrepared]
      have opened : 0 < (w.flows flow).opens := prepared flow (by
        simpa [setFlow] using isPrepared)
      change 0 < (((PlayClients.PlaylogHandler.close _ flow).1.flows) flow).opens
      rw [flows]
      simpa using opened
  · next unprepared =>
      rw [if_neg unprepared]
      trivial

theorem Counted.close (counted : Counted w pending) (nonneg : 0 ≤ pending)
    (known : client < w.created)
    (timely : 0 < (w.flows client).opens → (w.flows client).closes = 0) :
    Counted { w with toWorld := (close w.toWorld client).1 }
      (pending + owed (close w.toWorld client).2) := by
  have flows := flows_close w.toWorld client
  have before : opening (w.flows client) = if 0 < (w.flows client).opens then 1 else 0 := by
    unfold opening isOpen
    by_cases opened : 0 < (w.flows client).opens
    · simp [opened, timely opened]
    · simp [opened]
  have after : opening ({ w.flows client with closes := (w.flows client).closes + 1 }) = 0 := by
    simp [opening, isOpen]
  have counted' := openCount_update w.flows
    { w.flows client with closes := (w.flows client).closes + 1 } known
  have refs := counted.refs
  constructor
  case refs =>
    have covers : 0 < (w.flows client).opens → 0 < w.refCount := by
      intro opened
      rw [if_pos opened] at before
      omega
    have own := refCount_close w.toWorld client counted.prepared covers
    simp only
    rw [own, flows, counted', after, before]
    omega
  case once =>
    intro other
    simp only
    rw [flows]
    by_cases same : other = client
    · subst same
      rw [update_self]
      refine ⟨(counted.once other).1, fun opened => ?_⟩
      have opened : 0 < (w.flows other).opens := opened
      simp only [timely opened]
      exact Nat.le_refl _
    · rw [update_of_ne same]
      exact counted.once other
  case fresh =>
    intro other beyond
    have beyond : w.created ≤ other := beyond
    simp only
    rw [flows, update_of_ne (by omega)]
    exact counted.fresh other beyond
  case prepared =>
    intro other isPrepared
    simp only at isPrepared ⊢
    rw [flows] at isPrepared ⊢
    by_cases same : other = client
    · subst same
      rw [update_self] at isPrepared ⊢
      exact counted.prepared other isPrepared
    · rw [update_of_ne same] at isPrepared ⊢
      exact counted.prepared other isPrepared

theorem Counted.open (counted : Counted w pending) (known : client < w.created)
    (opens : (w.flows client).opens = 0) (closes : (w.flows client).closes = 0) :
    Counted { w with toWorld := PlayClients.ServerEngineAMFlow.open w.toWorld client } pending := by
  have before : opening (w.flows client) = 0 := by
    simp [opening, isOpen, opens]
  have after : opening { w.flows client with opens := (w.flows client).opens + 1 } = 1 := by
    simp [opening, isOpen, closes]
  have counted' := openCount_update w.flows
    { w.flows client with opens := (w.flows client).opens + 1 } known
  have refs := counted.refs
  have flows : (PlayClients.ServerEngineAMFlow.open w.toWorld client).flows =
      update w.flows client
        { w.flows client with opens := (w.flows client).opens + 1 } := rfl
  constructor
  case refs =>
    change ((w.refCount + 1 : Nat) : Int) = _
    simp only
    rw [flows, counted', before, after]
    omega
  case once =>
    intro other
    simp only
    rw [flows]
    by_cases same : other = client
    · subst same
      simp [opens, closes]
    · rw [update_of_ne same]
      exact counted.once other
  case fresh =>
    intro other beyond
    have beyond : w.created ≤ other := beyond
    simp only
    rw [flows, update_of_ne (by omega)]
    exact counted.fresh other beyond
  case prepared =>
    intro other isPrepared
    simp only at isPrepared ⊢
    rw [flows] at isPrepared ⊢
    by_cases same : other = client
    · subst same
      rw [update_self]
      exact Nat.succ_pos _
    · rw [update_of_ne same] at isPrepared ⊢
      exact counted.prepared other isPrepared

theorem Counted.call (counted : Counted w pending) {call : Call}
    {reply : PlayClients.Reply} {r : Clients × Call}
    (moves : PlayClients.next w.toWorld call reply = some r) (opened : Opened w.toWorld call)
    (unfailing : Unfailing call reply) (owes : owed call ≤ pending) :
    Counted { w with toWorld := r.1 } (pending - owed call + owed r.2) := by
  have refs := counted.refs
  rcases call_cases moves opened unfailing with step | ⟨flow, rfl, rfl⟩
  · have same := step.same
    have open_ : openCount r.1.flows w.created = openCount w.flows w.created :=
      openCount_congr fun c _ => by
        rw [isOpen, isOpen, same.opens, same.closes]
    constructor
    case refs =>
      simp only
      rw [same.refCount, open_, step.owed]
      omega
    case once =>
      intro other
      simp only
      rw [same.opens, same.closes]
      exact counted.once other
    case fresh =>
      intro other beyond
      exact (same.opens other).trans (counted.fresh other beyond)
    case prepared => exact step.prepared counted.prepared opened
  · have flows := flows_unref w.toWorld flow
    have owes : (1 : Int) ≤ pending := owes
    have count := refCount_unref opened (w := w.toWorld) (by omega)
    constructor
    case refs =>
      simp only [owed]
      rw [count, flows]
      omega
    case once =>
      intro other
      simp only
      rw [flows]
      exact counted.once other
    case fresh =>
      intro other beyond
      simp only
      rw [flows]
      exact counted.fresh other beyond
    case prepared =>
      intro other isPrepared
      simp only at isPrepared ⊢
      rw [flows] at isPrepared ⊢
      exact counted.prepared other isPrepared

end Counted

/-! ## Clients and sessions -/

theorem owed_nonneg (call : Call) : 0 ≤ owed call := by
  cases call with
  | closing flow closing => exact Int.one_nonneg
  | _ => exact Int.le_refl 0

def Task.owed : Task → Int
  | .closing _ _ close => EngineClients.owed close
  | .calls running => total EngineClients.owed running
  | _ => 0

theorem Task.owed_nonneg (task : Task) : 0 ≤ task.owed := by
  cases task with
  | closing client pipes close => exact EngineClients.owed_nonneg close
  | calls running =>
    exact total_nonneg EngineClients.owed running fun call _ =>
      EngineClients.owed_nonneg call
  | _ => exact Int.le_refl 0

def Task.Sound (w : World) : Task → Prop
  | .closing client _ close =>
    client < w.created ∧ 0 < (w.flows client).closes ∧ Opened w.toWorld close
  | .calls running => ∀ call ∈ running, Opened w.toWorld call
  | _ => True

structure Inv (p : Run) : Prop where
  counted : Counted p.state (total Task.owed p.threads)
  gone : ∀ client < p.state.created, client ∉ p.state.present →
    0 < (p.state.flows client).opens → (p.state.flows client).closes = 1
  known : ∀ client ∈ p.state.present, client < p.state.created
  nodup : p.state.present.Nodup
  sound : ∀ task ∈ p.threads, task.Sound p.state

structure Grows (w w' : World) : Prop where
  created : w.created ≤ w'.created
  opens : ∀ client, (w.flows client).opens ≤ (w'.flows client).opens
  closes : ∀ client, (w.flows client).closes ≤ (w'.flows client).closes

section Steps

variable {w w' : World} {p : Run} {index : Nat} {task task' : Task} {client : Nat}

theorem Opened.mono {v v' : Clients} {call : Call} (opened : Opened v call)
    (opens : ∀ flow, (v.flows flow).opens ≤ (v'.flows flow).opens) : Opened v' call := by
  cases call with
  | closing flow closing | granting flow prepare lock =>
    exact Nat.lt_of_lt_of_le opened (opens flow)
  | «open» flow | close flow => exact opened
  | _ => trivial

theorem Task.Sound.mono (sound : task.Sound w) (grows : Grows w w') : task.Sound w' := by
  cases task with
  | closing client pipes close =>
    obtain ⟨known, closes, opened⟩ := sound
    exact ⟨Nat.lt_of_lt_of_le known grows.created, Nat.lt_of_lt_of_le closes
      (grows.closes client), opened.mono grows.opens⟩
  | calls running => exact fun call mem => (sound call mem).mono grows.opens
  | _ => trivial

theorem Counted.frame {pending : Int} (counted : Counted w pending)
    (toWorld : w'.toWorld = w.toWorld) (created : w'.created = w.created) : Counted w' pending := by
  constructor
  · rw [toWorld, created]
    exact counted.refs
  · rw [toWorld]
    exact counted.once
  · rw [toWorld, created]
    exact counted.fresh
  · rw [toWorld]
    exact counted.prepared

theorem Inv.step (inv : Inv p) (here : p.threads[index]? = some task)
    (counted : Counted w' (total Task.owed p.threads - task.owed + task'.owed))
    (gone : ∀ client < w'.created, client ∉ w'.present → 0 < (w'.flows client).opens →
      (w'.flows client).closes = 1)
    (known : ∀ client ∈ w'.present, client < w'.created) (nodup : w'.present.Nodup)
    (grows : Grows p.state w') (own : task'.Sound w') : Inv ⟨w', p.threads.set index task'⟩ := by
  refine ⟨?_, gone, known, nodup, fun new mem => ?_⟩
  · have sum := total_set Task.owed p.threads index task task' here
    rw [sum]
    exact counted
  · rcases mem_or_eq_of_mem_set mem with old | rfl
    · exact (inv.sound new old).mono grows
    · exact own

theorem owed_le (here : p.threads[index]? = some task) : task.owed ≤ total Task.owed p.threads :=
  weight_le_total Task.owed p.threads (fun task _ => Task.owed_nonneg task) task
    (mem_of_getElem? here)

theorem mem_present_remove (w : World) (client other : Nat) :
    other ∈ (w.remove client).present ↔ other ∈ w.present ∧ other ≠ client := by
  simp only [World.present, World.remove, mem_map, mem_filter]
  constructor
  · rintro ⟨entry, ⟨mem, distinct⟩, rfl⟩
    exact ⟨⟨entry, mem, rfl⟩, of_decide_eq_true distinct⟩
  · rintro ⟨⟨entry, mem, rfl⟩, distinct⟩
    exact ⟨entry, ⟨mem, decide_eq_true distinct⟩, rfl⟩

theorem nodup_filter (table : List (Nat × Nat)) (keeps : Nat × Nat → Bool)
    (nodup : (table.map Prod.snd).Nodup) : ((table.filter keeps).map Prod.snd).Nodup :=
  nodup.sublist (filter_sublist.map Prod.snd)

theorem Inv.remove (inv : Inv p) (here : p.threads[index]? = some task)
    (owes : task'.owed = task.owed)
    (closed : 0 < (p.state.flows client).opens → (p.state.flows client).closes = 1)
    (own : task'.Sound p.state) : Inv ⟨Client.closed p.state client,
      p.threads.set index task'⟩ := by
  refine inv.step here ?_ (fun other below absent opened => ?_) (fun other mem => ?_) ?_
    ⟨Nat.le_refl _, fun _ => Nat.le_refl _, fun _ => Nat.le_refl _⟩ ?_
  · rw [owes, Int.sub_add_cancel]
    exact inv.counted.frame rfl rfl
  · by_cases same : other = client
    · subst same
      exact closed opened
    · refine inv.gone other below (fun mem => absent ?_) opened
      exact (mem_present_remove (p.state.setReadyState client .closed) client other).mpr
        ⟨mem, same⟩
  · exact inv.known other ((mem_present_remove (p.state.setReadyState client .closed) client
      other).mp mem).1
  · exact nodup_filter p.state.table _ inv.nodup
  · exact own.mono ⟨Nat.le_refl _, fun _ => Nat.le_refl _, fun _ => Nat.le_refl _⟩

theorem Inv.ready (inv : Inv p) (here : p.threads[index]? = some task)
    (owes : task'.owed = task.owed) (toWorld : w'.toWorld = p.state.toWorld)
    (created : w'.created = p.state.created) (table : w'.table = p.state.table)
    (own : task'.Sound w') : Inv ⟨w', p.threads.set index task'⟩ := by
  have present : w'.present = p.state.present := congrArg (map Prod.snd) table
  refine inv.step here ?_ ?_ ?_ ?_ ⟨?_, fun client => ?_, fun client => ?_⟩ own
  · rw [owes, Int.sub_add_cancel]
    exact inv.counted.frame toWorld created
  · rw [toWorld, created, present]
    exact inv.gone
  · rw [present, created]
    exact inv.known
  · rw [present]
    exact inv.nodup
  · exact Nat.le_of_eq created.symm
  · rw [toWorld]
  · rw [toWorld]

theorem Inv.channel (inv : Inv p) (session : Nat)
    (here : p.threads[index]? = some (.channel session)) : Inv ⟨{ p.state with
        created := p.state.created + 1
        table := p.state.table ++ [(session, p.state.created)] },
      p.threads.set index (.calls [])⟩ := by
  have fresh := inv.counted.fresh p.state.created (Nat.le_refl _)
  have closed : opening (p.state.flows p.state.created) = 0 := by
    simp [opening, isOpen, fresh]
  have present : (p.state.table ++ [(session, p.state.created)]).map Prod.snd =
      p.state.present ++ [p.state.created] := by simp [World.present]
  refine inv.step here ?_ (fun other below absent opened => ?_) (fun other mem => ?_) ?_
    ⟨Nat.le_succ _, fun _ => Nat.le_refl _, fun _ => Nat.le_refl _⟩ ?_
  · have refs := inv.counted.refs
    refine ⟨?_, inv.counted.once, fun other beyond => ?_, inv.counted.prepared⟩
    · have counted := openCount_succ p.state.flows p.state.created
      simp only [Task.owed, total_nil]
      rw [counted, closed]
      omega
    · exact inv.counted.fresh other (Nat.le_of_succ_le beyond)
  · have absent : other ∉ p.state.present ++ [p.state.created] := present ▸ absent
    rw [mem_append, mem_singleton, not_or] at absent
    have below : other < p.state.created + 1 := below
    exact inv.gone other (by omega) absent.1 opened
  · have mem : other ∈ p.state.present ++ [p.state.created] := present ▸ mem
    rcases mem_append.mp mem with old | new
    · exact Nat.lt_succ_of_lt (inv.known other old)
    · rw [mem_singleton.mp new]
      exact Nat.lt_succ_self _
  · change ((p.state.table ++ [(session, p.state.created)]).map Prod.snd).Nodup
    rw [present, nodup_append]
    refine ⟨inv.nodup, nodup_singleton _, fun other mem new eq => ?_⟩
    intro same
    subst same
    exact absurd (inv.known other mem) (by rw [mem_singleton.mp eq]; exact Nat.lt_irrefl _)
  · intro call mem
    cases mem

theorem Inv.openRequest (inv : Inv p) (here : p.threads[index]? = some (.openRequest client))
    (there : client ∈ p.state.present) (opens : (p.state.flows client).opens = 0)
    (closes : (p.state.flows client).closes = 0) : Inv ⟨(Client.handleOpenRequest p.state client).1,
      p.threads.set index (Client.handleOpenRequest p.state client).2⟩ := by
  have counted := inv.counted.open (inv.known client there) opens closes
  have flows : (Client.handleOpenRequest p.state client).1.flows =
      update p.state.flows client
        { p.state.flows client with opens := (p.state.flows client).opens + 1 } := rfl
  refine inv.step here ?_ (fun other below absent opened => ?_) inv.known inv.nodup
    ⟨Nat.le_refl _, fun other => ?_, fun other => ?_⟩ trivial
  · change Counted _ (total Task.owed p.threads - 0 + 0)
    rw [Int.sub_zero, Int.add_zero]
    exact counted
  · have distinct : other ≠ client := fun same => absent (same ▸ there)
    rw [flows, update_of_ne distinct] at opened ⊢
    exact inv.gone other below absent opened
  · rw [flows]
    by_cases same : other = client
    · subst same
      rw [update_self]
      exact Nat.le_succ _
    · rw [update_of_ne same]
  · rw [flows]
    by_cases same : other = client
    · subst same
      rw [update_self]
    · rw [update_of_ne same]

theorem closes_close (v : Clients) (flow other : Nat) :
    (((close v flow).1.flows) other).opens = (v.flows other).opens ∧
      (((close v flow).1.flows) other).closes =
        (v.flows other).closes + if other = flow then 1 else 0 := by
  rw [flows_close]
  by_cases same : other = flow
  · subst same
    simp
  · simp [same]

theorem total_owed_nonneg (p : Run) : 0 ≤ total Task.owed p.threads :=
  total_nonneg Task.owed p.threads fun task _ => Task.owed_nonneg task

theorem Inv.closeRequest (inv : Inv p) (here : p.threads[index]? = some (.closeRequest client))
    (known : client < p.state.created)
    (timely : 0 < (p.state.flows client).opens → (p.state.flows client).closes = 0) :
    Inv ⟨(Client.handleCloseRequest p.state client).1,
      p.threads.set index (Client.handleCloseRequest p.state client).2⟩ := by
  have counted := inv.counted.close (total_owed_nonneg p) known timely
  have changes := closes_close p.state.toWorld client
  have opened := opened_close p.state.toWorld client inv.counted.prepared
  unfold Client.handleCloseRequest
  dsimp only
  generalize close p.state.toWorld client = r at *
  refine inv.step here ?_ (fun other below absent opened => ?_) inv.known inv.nodup
    ⟨Nat.le_refl _, fun other => ?_, fun other => ?_⟩ ⟨known, ?_, opened⟩
  · change Counted _ (total Task.owed p.threads - 0 + owed r.2)
    rw [Int.sub_zero]
    exact counted.frame rfl rfl
  · obtain ⟨opens, closes⟩ := changes other
    change (r.1.flows other).closes = 1
    have isOpened : 0 < (r.1.flows other).opens := opened
    rw [opens] at isOpened
    rw [closes]
    by_cases same : other = client
    · subst same
      rw [timely isOpened, if_pos rfl]
    · rw [if_neg same]
      exact inv.gone other below absent isOpened
  · exact Nat.le_of_eq (changes other).1.symm
  · change _ ≤ (r.1.flows other).closes
    rw [(changes other).2]
    exact Nat.le_add_right _ _
  · change 0 < (r.1.flows client).closes
    rw [(changes client).2, if_pos rfl]
    exact Nat.succ_pos _

theorem fold_close (clients : List Nat) (r : World × List Call) (others : Int)
    (nonneg : 0 ≤ others) (counted : Counted r.1 (others + total owed r.2))
    (known : ∀ client ∈ clients, client < r.1.created) (nodup : clients.Nodup)
    (timely : ∀ client ∈ clients, 0 < (r.1.flows client).opens →
      (r.1.flows client).closes = 0) (opened : ∀ call ∈ r.2, Opened r.1.toWorld call) :
    let r' := clients.foldl Client.close r
    Counted r'.1 (others + total owed r'.2) ∧
      (∀ call ∈ r'.2, Opened r'.1.toWorld call) ∧ r'.1.created = r.1.created ∧
      r'.1.table = r.1.table ∧ ∀ other, (r'.1.flows other).opens = (r.1.flows other).opens ∧
        (r'.1.flows other).closes =
          (r.1.flows other).closes + if other ∈ clients then 1 else 0 := by
  induction clients generalizing r with
  | nil => exact ⟨counted, opened, rfl, rfl, fun _ => ⟨rfl, rfl⟩⟩
  | cons client rest ih =>
    obtain ⟨first, nodup⟩ := nodup_cons.mp nodup
    have total := total_nonneg owed r.2 fun call _ => owed_nonneg call
    have closed := counted.close (by omega) (known client mem_cons_self)
      (timely client mem_cons_self)
    have changes := closes_close r.1.toWorld client
    have opened' := opened_close r.1.toWorld client counted.prepared
    have own : Client.close r client =
        ({ r.1 with
          toWorld := (close r.1.toWorld client).1 }.setReadyState
            client .closed,
          r.2 ++ [(close r.1.toWorld client).2]) := rfl
    rw [foldl_cons, own]
    generalize close r.1.toWorld client = close at *
    have counted' : Counted ({ r.1 with toWorld := close.1 }.setReadyState client .closed)
        (others + Pool.total owed (r.2 ++ [close.2])) := by
      rw [Pool.total_append, ← Int.add_assoc]
      exact closed.frame rfl rfl
    have timely' (other : Nat) (mem : other ∈ rest) (opens : 0 < (close.1.flows other).opens) :
        (close.1.flows other).closes = 0 := by
      have distinct : other ≠ client := fun same => first (same ▸ mem)
      rw [(changes other).1] at opens
      rw [(changes other).2, if_neg distinct]
      exact timely other (mem_cons_of_mem _ mem) opens
    have running (call : Call) (mem : call ∈ r.2 ++ [close.2]) :
        Opened close.1 call := by
      rcases mem_append.mp mem with old | new
      · exact (opened call old).mono fun flow => Nat.le_of_eq (changes flow).1.symm
      · rw [mem_singleton.mp new]
        exact opened'
    obtain ⟨counted'', opened'', created, table, flows⟩ := ih
      ({ r.1 with toWorld := close.1 }.setReadyState client .closed, r.2 ++ [close.2]) counted'
      (fun other mem => known other (mem_cons_of_mem _ mem)) nodup timely' running
    refine ⟨counted'', opened'', created, table, fun other => ?_⟩
    obtain ⟨opens, closes⟩ := flows other
    refine ⟨opens.trans (changes other).1, closes.trans ?_⟩
    change (close.1.flows other).closes + _ = _
    rw [(changes other).2]
    by_cases same : other = client
    · subst same
      simp [first]
    · simp [same]

theorem Inv.socketClosed (inv : Inv p) {session : Nat}
    (here : p.threads[index]? = some (.socketClosed session))
    (timely : ∀ client ∈ Session.ofSession p.state session,
      0 < (p.state.flows client).opens → (p.state.flows client).closes = 0) :
    Inv ⟨(Session.closeClients p.state session).1,
      p.threads.set index (Session.closeClients p.state session).2⟩ := by
  have mem_of (client : Nat) (mem : client ∈ Session.ofSession p.state session) :
      client ∈ p.state.present := by
    obtain ⟨entry, there, rfl⟩ := mem_map.mp mem
    exact mem_map.mpr ⟨entry, (mem_filter.mp there).1, rfl⟩
  have nodup : (Session.ofSession p.state session).Nodup :=
    nodup_filter p.state.table _ inv.nodup
  have spec := fold_close (Session.ofSession p.state session)
    ({ p.state with table := p.state.table.filter fun entry => entry.1 ≠ session }, [])
    (total Task.owed p.threads) (total_owed_nonneg p)
    (by
      rw [total_nil, Int.add_zero]
      exact inv.counted.frame rfl rfl)
    (fun client mem => inv.known client (mem_of client mem)) nodup timely
    (fun call mem => by cases mem)
  unfold Session.closeClients
  dsimp only at spec ⊢
  generalize (Session.ofSession p.state session).foldl Client.close _ = r at spec ⊢
  obtain ⟨counted, opened, created, table, flows⟩ := spec
  have left (client : Nat) : client ∈ r.1.present → client ∈ p.state.present := by
    intro mem
    obtain ⟨entry, there, rfl⟩ := mem_map.mp mem
    rw [table] at there
    exact mem_map.mpr ⟨entry, (mem_filter.mp there).1, rfl⟩
  refine inv.step here ?_ (fun other below absent opens => ?_) (fun other mem => ?_) ?_
    ⟨Nat.le_of_eq created.symm, fun other => ?_, fun other => ?_⟩ opened
  · change Counted _ (total Task.owed p.threads - 0 + total owed r.2)
    rw [Int.sub_zero]
    exact counted
  · rw [(flows other).1] at opens
    rw [(flows other).2]
    by_cases own : other ∈ Session.ofSession p.state session
    · rw [if_pos own]
      have none_ := timely other own opens
      omega
    · rw [if_neg own]
      refine inv.gone other (created ▸ below) (fun mem => absent ?_) opens
      obtain ⟨entry, there, rfl⟩ := mem_map.mp mem
      refine mem_map.mpr ⟨entry, ?_, rfl⟩
      rw [table]
      refine mem_filter.mpr ⟨there, decide_eq_true fun same => own ?_⟩
      exact mem_map.mpr ⟨entry, mem_filter.mpr ⟨there, decide_eq_true same⟩, rfl⟩
  · rw [created]
    exact inv.known other (left other mem)
  · change (r.1.table.map Prod.snd).Nodup
    rw [table]
    exact nodup_filter p.state.table _ inv.nodup
  · exact Nat.le_of_eq (flows other).1.symm
  · rw [(flows other).2]
    exact Nat.le_add_right _ _

theorem Inv.closed (inv : Inv p)
    (here : p.threads[index]? = some (.closing client true .done)) :
    Inv ⟨Client.closed p.state client, p.threads.set index (.calls [])⟩ := by
  obtain ⟨_, closes, _⟩ := inv.sound _ (mem_of_getElem? here)
  refine inv.remove here rfl (fun opens => ?_) fun call mem => by cases mem
  have most := (inv.counted.once client).2 opens
  omega

/-- A client that cannot answer its close request stays with its session. -/
theorem Inv.failed (inv : Inv p) {pipes : Bool} {close : Call}
    (here : p.threads[index]? = some (.closing client pipes close)) :
    Inv ⟨p.state, p.threads.set index (.calls [close])⟩ := by
  obtain ⟨_, _, opened⟩ := inv.sound _ (mem_of_getElem? here)
  refine inv.ready here ?_ rfl rfl rfl fun call mem => ?_
  · change total owed ([] ++ [close]) = owed close
    rw [total_append, total_nil, Int.zero_add]
  · rw [mem_singleton.mp mem]
    exact opened

theorem flows_call {v : Clients} {call : Call} {reply : PlayClients.Reply}
    {r : Clients × Call} (moves : PlayClients.next v call reply = some r)
    (opened : Opened v call) (unfailing : Unfailing call reply) :
    (∀ flow, (r.1.flows flow).opens = (v.flows flow).opens ∧
      (r.1.flows flow).closes = (v.flows flow).closes) ∧ Opened r.1 r.2 := by
  rcases call_cases moves opened unfailing with step | ⟨flow, rfl, rfl⟩
  · exact ⟨fun flow => ⟨step.same.opens flow, step.same.closes flow⟩, step.opened opened⟩
  · refine ⟨fun other => ?_, trivial⟩
    rw [flows_unref]
    exact ⟨rfl, rfl⟩

theorem Inv.call (inv : Inv p) (here : p.threads[index]? = some task) {call : Call}
    {reply : PlayClients.Reply} {r : Clients × Call}
    (moves : PlayClients.next p.state.toWorld call reply = some r)
    (opened : Opened p.state.toWorld call) (unfailing : Unfailing call reply)
    (part : owed call ≤ task.owed) (owes : task'.owed = task.owed - owed call + owed r.2)
    (own : task'.Sound { p.state with toWorld := r.1 }) :
    Inv ⟨{ p.state with toWorld := r.1 }, p.threads.set index task'⟩ := by
  obtain ⟨flows, _⟩ := flows_call moves opened unfailing
  have counted := inv.counted.call moves opened unfailing (Int.le_trans part (owed_le here))
  refine inv.step here ?_ (fun other below absent opens => ?_) inv.known inv.nodup
    ⟨Nat.le_refl _, fun other => ?_, fun other => ?_⟩ own
  · have sum : total Task.owed p.threads - task.owed + task'.owed =
        total Task.owed p.threads - owed call + owed r.2 := by omega
    rw [sum]
    exact counted
  · have opens : 0 < (r.1.flows other).opens := opens
    rw [(flows other).1] at opens
    exact (flows other).2.trans (inv.gone other below absent opens)
  · exact Nat.le_of_eq (flows other).1.symm
  · exact Nat.le_of_eq (flows other).2.symm

theorem Inv.next (inv : Inv p) (here : p.threads[index]? = some task) {reply : Reply}
    {r : World × Task} (moves : next p.state task reply = some r)
    (timely : Timely p.state task reply) : Inv ⟨r.1, p.threads.set index r.2⟩ := by
  have nothing (w : World) : (Task.calls []).Sound w := by
    intro call mem
    cases mem
  have sound := inv.sound task (mem_of_getElem? here)
  unfold EngineClients.next at moves
  split at moves
  · cases moves
    exact inv.channel _ here
  · split_ifs at moves
    cases moves
    exact inv.openRequest here timely.1 timely.2.1 timely.2.2
  · split_ifs at moves
    next known =>
      cases moves
      exact inv.closeRequest here known timely
  · split_ifs at moves
    cases moves
    unfold Client.onChannelClose
    dsimp only
    split
    · next isOpen =>
        exact inv.remove here rfl (timely isOpen) (nothing _)
    · exact inv.ready here rfl rfl rfl rfl (nothing _)
  · cases moves
    exact inv.socketClosed here timely
  · next client succeeded =>
      cases moves
      cases succeeded with
      | true | false => exact inv.ready here rfl rfl rfl rfl (nothing _)
  · cases moves
    exact inv.ready here rfl rfl rfl rfl sound
  · cases moves
    exact inv.closed here
  · cases moves
    exact inv.failed here
  · next client pipes close i reply =>
      obtain ⟨r', called, eq⟩ := Option.map_eq_some_iff.mp moves
      obtain ⟨moved, step, eq'⟩ := Option.map_eq_some_iff.mp called
      subst eq'
      subst eq
      obtain ⟨known, closes, opened⟩ := sound
      obtain ⟨flows, opened'⟩ := flows_call step opened timely
      exact inv.call here step opened timely (Int.le_refl _) (by simp [Task.owed])
        ⟨known, Nat.lt_of_lt_of_eq closes (flows client).2.symm, opened'⟩
  · next running i reply =>
      obtain ⟨call, found, moves⟩ := Option.bind_eq_some_iff.mp moves
      obtain ⟨r', called, eq⟩ := Option.map_eq_some_iff.mp moves
      obtain ⟨moved, step, eq'⟩ := Option.map_eq_some_iff.mp called
      subst eq'
      subst eq
      have opened := sound call (mem_of_getElem? found)
      have unfailing : Unfailing call reply := timely call found
      obtain ⟨flows, opened'⟩ := flows_call step opened unfailing
      refine inv.call here step opened unfailing ?_ ?_ fun other mem => ?_
      · exact weight_le_total owed running (fun call _ => owed_nonneg call) call
          (mem_of_getElem? found)
      · exact total_set owed running i call moved.2 found
      · rcases mem_or_eq_of_mem_set mem with old | rfl
        · exact (sound other old).mono fun flow => Nat.le_of_eq (flows flow).1.symm
        · exact opened'
  · cases moves

end Steps

theorem Moves.purged {v : Clients} {call : Call}
    {r : Clients × Call} (step : Moves v call r) : Purged v r.1 :=
  purged_of_same step.same.refCount step.same.purges

theorem purged_open (v : Clients) (flow : Nat) :
    Purged v (PlayClients.ServerEngineAMFlow.open v flow) := by
  unfold Purged
  rw [if_neg fun both => Nat.succ_ne_zero _ both.2]
  rfl

/-- Any call of an AMFlow purges the caches exactly when the count returns to 0. -/
theorem purged_call {v : Clients} {call : Call} {reply : PlayClients.Reply}
    {r : Clients × Call} (moves : PlayClients.next v call reply = some r) : Purged v r.1 := by
  have onError (holder : Nat) : Purged v (onError v holder) :=
    (moves_onError v holder (rfl : owed .done = owed .done) id).purged
  have closing {closing : PlayClients.Closing} {reply : PlayClients.Reply}
      {r : Clients × PlayClients.Closing} (moved : closing.next v reply = some r) :
      Purged v r.1 :=
    (moves_closing moved (rfl : owed .done = owed .done) id).purged
  unfold PlayClients.next at moves
  split at moves
  · cases moves
    exact purged_open v _
  · cases moves
    exact (purged_close v _).2
  · cases moves
    exact (moves_authenticate v _).purged
  · split_ifs at moves
    cases moves
    exact onError _
  · cases moves
    exact (purged_unref v _).2
  · cases moves
    exact purged_of_same rfl rfl
  · obtain ⟨r', moved, eq⟩ := Option.map_eq_some_iff.mp moves
    subst eq
    exact closing moved
  · cases moves
    exact purged_of_same rfl rfl
  · cases moves
    exact purged_of_same rfl rfl
  · obtain ⟨r', moved, eq⟩ := Option.map_eq_some_iff.mp moves
    subst eq
    exact closing moved
  · split_ifs at moves
    next opens =>
      cases moves
      exact (moves_validated v _ _ opens).purged
  · cases moves
    exact purged_of_same rfl rfl
  · cases moves
    exact purged_of_same rfl rfl
  · cases moves
    exact onError _
  · cases moves
    exact purged_of_same rfl rfl
  · cases moves

theorem purged_fold (clients : List Nat) (r : World × List Call) :
    (clients.foldl Client.close r).1.refCount ≤ r.1.refCount ∧
      Purged r.1.toWorld (clients.foldl Client.close r).1.toWorld := by
  induction clients generalizing r with
  | nil => exact ⟨Nat.le_refl _, purged_of_same rfl rfl⟩
  | cons client rest ih =>
    obtain ⟨falls, purged⟩ := purged_close r.1.toWorld client
    obtain ⟨falls', purged'⟩ := ih (Client.close r client)
    exact ⟨Nat.le_trans falls' falls, purged.trans falls purged' falls'⟩

theorem purged_next {w : World} {task : Task} {reply : Reply} {r : World × Task}
    (moves : next w task reply = some r) : Purged w.toWorld r.1.toWorld := by
  unfold next at moves
  split at moves
  · cases moves
    exact purged_of_same rfl rfl
  · split_ifs at moves
    cases moves
    exact purged_open w.toWorld _
  · split_ifs at moves
    cases moves
    exact (purged_close w.toWorld _).2
  · split_ifs at moves
    cases moves
    unfold Client.onChannelClose
    dsimp only
    split <;> exact purged_of_same rfl rfl
  · cases moves
    exact (purged_fold _ ({ w with table := w.table.filter _ }, [])).2
  · next client succeeded =>
      cases moves
      cases succeeded with
      | true | false => exact purged_of_same rfl rfl
  · cases moves
    exact purged_of_same rfl rfl
  · cases moves
    exact purged_of_same rfl rfl
  · cases moves
    exact purged_of_same rfl rfl
  · obtain ⟨r', called, eq⟩ := Option.map_eq_some_iff.mp moves
    obtain ⟨moved, step, eq'⟩ := Option.map_eq_some_iff.mp called
    subst eq'
    subst eq
    exact purged_call step
  · obtain ⟨call, found, moves⟩ := Option.bind_eq_some_iff.mp moves
    obtain ⟨r', called, eq⟩ := Option.map_eq_some_iff.mp moves
    obtain ⟨moved, step, eq'⟩ := Option.map_eq_some_iff.mp called
    subst eq'
    subst eq
    exact purged_call step
  · cases moves

theorem purged_step (p : Run) (action : Action Task Reply) :
    Purged p.state.toWorld (step p action).state.toWorld := by
  cases action with
  | start task => exact purged_of_same rfl rfl
  | step index reply =>
    rcases step_cases next p index reply with
      same | ⟨task, w', task', here, moves, eq⟩
    · rw [step, same]
      exact purged_of_same rfl rfl
    · rw [step, eq]
      exact purged_next moves

theorem inv_start : Inv start where
  counted := by
    constructor
    · rfl
    · intro client
      exact ⟨Nat.zero_le _, fun opened => absurd opened (Nat.lt_irrefl _)⟩
    · intro client _
      rfl
    · intro flow prepared
      cases prepared
  gone := by
    intro client below
    exact absurd below (Nat.not_lt_zero _)
  known := by
    intro client mem
    cases mem
  nodup := nodup_nil
  sound := by
    intro task mem
    cases mem

theorem inv_step (p : Run) (action : Action Task Reply) (inv : Inv p)
    (orderly : Orderly p action) : Inv (step p action) := by
  cases action with
  | start task =>
    have begins : task.Begins := orderly
    have others (running : List Call)
        (all : ∀ call ∈ running, isOther call = true) (call : Call)
        (mem : call ∈ running) : owed call = 0 ∧ Opened p.state.toWorld call := by
      have other := all call mem
      cases call with
      | authenticate flow | onError holder => exact ⟨rfl, trivial⟩
      | _ => cases other
    have nothing : task.owed = 0 := by
      cases task with
      | closing client pipes close => exact begins.elim
      | calls running =>
        exact total_eq_zero owed running fun call mem => (others running begins call mem).1
      | _ => rfl
    refine ⟨?_, inv.gone, inv.known, inv.nodup, fun new mem => ?_⟩
    · change Counted p.state (total Task.owed (p.threads ++ [task]))
      rw [total_append, nothing, Int.add_zero]
      exact inv.counted
    · rcases mem_append.mp mem with old | own
      · exact inv.sound new old
      · rw [mem_singleton.mp own]
        cases task with
        | closing client pipes close => exact begins.elim
        | calls running => exact fun call mem => (others running begins call mem).2
        | _ => trivial
  | step index reply =>
    rcases step_cases next p index reply with
      same | ⟨task, w', task', here, moves, eq⟩
    · rw [step, same]
      exact inv
    · rw [step, eq]
      exact inv.next here moves (orderly task here)

/-- The count is that of the AMFlows that are open, and each AMFlow that was opened for a
client that has gone is closed once. -/
def Balanced (w : World) : Prop :=
  w.refCount = openCount w.flows w.created ∧
    ∀ client < w.created, client ∉ w.present → 0 < (w.flows client).opens →
      (w.flows client).closes = 1

theorem owed_of_idle {task : Task} (idle : task.outstanding = false) : task.owed = 0 := by
  cases task with
  | closing client pipes close => cases idle
  | calls running =>
    refine total_eq_zero owed running fun call mem => ?_
    have waits : call.outstanding = false := by
      by_contra waits
      have some_ : running.any Call.outstanding = true :=
        any_eq_true.mpr ⟨call, mem, Bool.not_eq_false _ ▸ waits⟩
      cases some_.symm.trans idle
    cases call with
    | closing flow closing => cases waits
    | _ => rfl
  | _ => rfl

/-- The first client closes without an answer, the second with one, the third with its
session. -/
def threeClients : List (Action Task Reply) :=
  [.start (.channel 0), .start (.openRequest 0), .start (.channel 1), .start (.openRequest 1),
    .start (.channel 1), .start (.openRequest 2), .step 0 (.opened true), .step 1 (.opened true),
    .step 1 (.opened true), .step 2 (.opened true), .step 3 (.opened true),
    .step 3 (.opened true), .step 4 (.opened true), .step 5 (.opened true),
    .start (.closeRequest 0), .step 6 .answered, .start (.channelClosed 0), .step 7 .answered,
    .step 6 .failed, .start (.closeRequest 1), .step 8 .answered, .step 8 .pipesClosed,
    .step 8 .answered, .start (.socketClosed 1), .step 9 .answered, .step 5 (.opened false)]

def channelLost : List (Action Task Reply) :=
  [.start (.channel 0), .start (.openRequest 0), .step 0 (.opened true), .step 1 (.opened true),
    .step 1 (.opened true), .start (.channelClosed 0), .step 2 (.opened true)]

end EngineClients
end AkashicSystem.PlaylogServer
