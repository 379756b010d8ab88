import AkashicSystem.SystemApiServer.InstanceManager

/-!
# What the operations on instances leave

A process of a transaction either makes its change or keeps what is stored; what becomes of
the change is decided by the commit, the publication and the handlers that are saved beside
them.
-/

set_option autoImplicit false

namespace AkashicSystem.SystemApiServer.InstanceManager

open AkashicSystem.Js AkashicSystem.Js.Computation Database CreateInstanceArgs
open Transactions (attempt attempt_ok attempt_failed)

def Succeeds (replies : Replies) (calls : List Call) : Prop := ∀ c ∈ calls, replies c = .ok

instance (replies : Replies) (calls : List Call) : Decidable (Succeeds replies calls) :=
  inferInstanceAs (Decidable (∀ c ∈ calls, replies c = .ok))

variable {replies : Replies} {α β : Type}

theorem succeeds_nil : Succeeds replies [] := fun _ there => (List.not_mem_nil there).elim

theorem succeeds_cons {c : Call} {calls : List Call} :
    Succeeds replies (c :: calls) ↔ replies c = .ok ∧ Succeeds replies calls :=
  List.forall_mem_cons

theorem succeeds_append {calls calls' : List Call} :
    Succeeds replies (calls ++ calls') ↔ Succeeds replies calls ∧ Succeeds replies calls' :=
  List.forall_mem_append

structure Kept (d d' : Database) : Prop where
  tables : d'.tables = d.tables
  requests : d'.requests = d.requests
  saving : d'.saving = d.saving
  opened : d'.uncommitted ≠ none

/-- A change has been made and returned from, or there is a failure and nothing is stored. -/
def Attempts (m : DatabaseM α) (succeeds : Prop) (a : α) (d d' : Database) : Prop :=
  (succeeds ∧ m d = .ok a d') ∨ (¬succeeds ∧ ∃ error d'', m d = .error error d'' ∧ Kept d d'')

variable {d : Database}

theorem kept_refl (opened : d.uncommitted ≠ none) : Kept d d :=
  ⟨rfl, rfl, rfl, opened⟩

theorem kept_trans {d d' d'' : Database} (first : Kept d d') (second : Kept d' d'') : Kept d d'' :=
  ⟨second.tables.trans first.tables, second.requests.trans first.requests,
    second.saving.trans first.saving, second.opened⟩

theorem kept_write (opened : d.uncommitted ≠ none) (effect : Tables → Tables) :
    Kept d (d.write effect) := by
  unfold write
  split
  · exact ⟨rfl, rfl, rfl, by simp⟩
  · exact absurd ‹_› opened

variable {m : DatabaseM α}

theorem attempts_bind {f : α → DatabaseM β} {p q : Prop} {a : α} {b : β}
    {d d' d'' : Database} (first : Attempts m p a d d') (kept : Kept d d')
    (second : Attempts (f a) q b d' d'') : Attempts (m >>= f) (p ∧ q) b d d'' := by
  unfold Attempts
  rw [bind_run]
  rcases first with ⟨made, run⟩ | ⟨failed, error, left, run, keeps⟩
  · rw [run]
    dsimp only
    rcases second with ⟨made', run'⟩ | ⟨failed', error, left, run', keeps⟩
    · exact .inl ⟨⟨made, made'⟩, run'⟩
    · exact .inr ⟨fun both => failed' both.2, error, left, run', kept_trans kept keeps⟩
  · rw [run]
    exact .inr ⟨fun both => failed both.1, error, left, rfl, keeps⟩

theorem attempts_call {c : Call} {effect : Database → Database} {d : Database}
    (kept : Kept d (effect d)) (opened : d.uncommitted ≠ none) :
    Attempts (call replies c effect) (replies c = .ok) () d (effect d) := by
  by_cases ok : replies c = .ok
  · exact .inl ⟨ok, attempt_ok ok effect d⟩
  · obtain ⟨d', run, left⟩ := attempt_failed ok effect d
    refine .inr ⟨ok, .unavailable, d', run, ?_⟩
    rcases left with ⟨same, -⟩ | ⟨same, -⟩
    · rw [same]
      exact kept
    · rw [same]
      exact kept_refl opened

theorem attempts_ask {c : Call} {d : Database} (opened : d.uncommitted ≠ none) :
    Attempts (ask replies c) (replies c = .ok) () d d :=
  attempts_call (kept_refl opened) opened

theorem attempts_of_run {a : α} {d d' : Database} (run : m d = .ok a d') :
    Attempts m True a d d' :=
  .inl ⟨trivial, run⟩

theorem attempts_congr {p q : Prop} {a : α} {d d' : Database}
    (same : p ↔ q) (attempts : Attempts m p a d d') : Attempts m q a d d' := by
  unfold Attempts at *
  rw [← same]
  exact attempts

def opening : List Call := [.getConnection, .beginTransaction]

def completing : List Call := [.commit, .release, .publish]

theorem transaction_fails {k : α → DatabaseM β} {p : Prop} {a : α}
    {d d' : Database} (idle : d.uncommitted = none) (attempts : Attempts m p a d.begins d')
    (fails : ¬(Succeeds replies opening ∧ p)) :
    ∃ error left, (transaction replies m >>= k) d = .error error left ∧
      left.tables = d.tables ∧ left.saving = d.saving := by
  rw [bind_run]
  unfold transaction
  by_cases opens : Succeeds replies opening
  · obtain ⟨connected, begun⟩ := succeeds_cons.mp opens
    have begun := begun _ (List.mem_singleton.mpr rfl)
    rcases attempts with ⟨made, -⟩ | ⟨-, error, left, body, kept⟩
    · exact absurd ⟨opens, made⟩ fails
    · rw [Transactions.transaction_run connected begun]
      dsimp only
      rw [body]
      exact ⟨error, _, rfl, kept.tables, kept.saving⟩
  · have closed : d.rollsBack = d := by
      rw [rollsBack, ← idle]
    rw [Transactions.transaction_closed _ _ closed closed]
    · exact ⟨.unavailable, d, rfl, rfl, rfl⟩
    · intro both
      exact opens (succeeds_cons.mpr ⟨both.1, succeeds_cons.mpr ⟨both.2, succeeds_nil⟩⟩)

theorem transaction_request {k : α → DatabaseM β} {a : α} {b : β}
    {r : InstanceRequest} {d d' : Database} (opens : Succeeds replies opening)
    (body : m d.begins = .ok a d') (continues : k a = (do request replies r; return b)) :
    (replies .commit = .failed false ∧ ∃ error,
        (transaction replies m >>= k) d = .error error d'.rollsBack) ∨
      (replies .commit ≠ .failed false ∧ ¬Succeeds replies completing ∧ ∃ error left,
        (transaction replies m >>= k) d = .error error left ∧ left.tables = d'.view ∧
          left.saving = d'.saving) ∨ (Succeeds replies completing ∧
        (transaction replies m >>= k) d = .ok b (d'.commits.publish r)) := by
  obtain ⟨connected, begun⟩ := succeeds_cons.mp opens
  have begun := begun _ (List.mem_singleton.mpr rfl)
  rw [bind_run]
  unfold transaction
  rw [Transactions.transaction_run connected begun]
  dsimp only
  rw [body]
  dsimp only
  by_cases lost : replies .commit = .failed false
  · rw [if_pos lost]
    exact .inl ⟨lost, .unavailable, rfl⟩
  · rw [if_neg lost]
    right
    by_cases released : replies .commit = .ok ∧ replies .release = .ok
    · rw [if_pos released]
      dsimp only
      rw [continues, bind_run, request]
      by_cases published : replies .publish = .ok
      · right
        refine ⟨?_, ?_⟩
        · simp [completing, Succeeds, released.1, released.2, published]
        · rw [call, attempt_ok published]
          rfl
      · left
        obtain ⟨left, sent, same⟩ := attempt_failed published
          (fun d : Database => d.publish r) d'.commits
        refine ⟨lost, fun all => published (all _ (by simp [completing])), .unavailable, left,
          ?_, ?_⟩
        · rw [call, sent]
        · rcases same with ⟨same, -⟩ | ⟨same, -⟩
          · rw [same]
            exact ⟨rfl, rfl⟩
          · rw [same]
            exact ⟨rfl, rfl⟩
    · rw [if_neg released]
      left
      refine ⟨lost, fun all => released ⟨?_, ?_⟩, .unavailable, _, rfl, rfl, rfl⟩
      · exact all _ (by simp [completing])
      · exact all _ (by simp [completing])

def Written (replies : Replies) (index : Nat) : Prop :=
  replies (.get (.eventHandlers index)) = .ok ∧
    replies (.execute (.instanceEventHandlers index)) ≠ .failed false

instance (replies : Replies) (index : Nat) : Decidable (Written replies index) :=
  inferInstanceAs (Decidable (_ ∧ _))

def Related (replies : Replies) (index : Nat) : Prop :=
  replies (.execute (.eventHandlers index)) = .ok ∧ Written replies index

instance (replies : Replies) (index : Nat) : Decidable (Related replies index) :=
  inferInstanceAs (Decidable (_ ∧ _))

abbrev executed (replies : Replies) (handlers : List (EventHandler × Nat)) :=
  handlers.filter fun handler => replies (.execute (.eventHandlers handler.2)) = .ok

/-- Each handler has been saved under the identifier of its row. -/
abbrev Saved (instanceId : Nat) (rows : List (Nat × EventHandler)) (saving : List Saving)
    (handlers : List (EventHandler × Nat)) : Prop :=
  List.Forall₂ (fun (s : Saving) handler => s.index = handler.2 ∧ s.instanceId = instanceId ∧
    (s.eventHandlerId, handler.1) ∈ rows) saving handlers

theorem saveEventHandlers_run (instanceId : Nat) (handlers : List (EventHandler × Nat))
    (d : Database) (tables : Tables) (opened : d.uncommitted = some tables) :
    ∃ rows saving, handlers.foldl (saveEventHandler replies instanceId) d = { d with
          uncommitted := some { tables with eventHandlers := tables.eventHandlers ++ rows }
          eventHandlerId := d.eventHandlerId + rows.length
          saving := d.saving ++ saving } ∧
        Saved instanceId rows saving (executed replies handlers) := by
  induction handlers generalizing d tables with
  | nil =>
    refine ⟨[], [], ?_, List.Forall₂.nil⟩
    simp [← opened]
  | cons handler rest ih =>
    rw [List.foldl_cons, saveEventHandler]
    have inserted : d.insertEventHandler handler.1 =
        { d with
          uncommitted := some { tables with
            eventHandlers := tables.eventHandlers ++ [(d.eventHandlerId, handler.1)] }
          eventHandlerId := d.eventHandlerId + 1 } := by
      simp [insertEventHandler, write, opened]
    cases reply : replies (.execute (.eventHandlers handler.2)) with
    | ok =>
      obtain ⟨rows, saving, run, each⟩ := ih
        { d.insertEventHandler handler.1 with
          saving := d.saving ++ [⟨handler.2, instanceId, d.eventHandlerId⟩] } _
        (congrArg uncommitted inserted)
      refine ⟨(d.eventHandlerId, handler.1) :: rows,
        ⟨handler.2, instanceId, d.eventHandlerId⟩ :: saving, ?_, ?_⟩
      · dsimp only
        rw [run, inserted]
        simp [Nat.add_assoc, Nat.add_comm 1]
      · rw [executed, List.filter_cons_of_pos (by simp [reply])]
        refine List.Forall₂.cons ⟨rfl, rfl, List.mem_cons_self⟩ ?_
        exact each.imp fun _ _ row => ⟨row.1, row.2.1, List.mem_cons_of_mem _ row.2.2⟩
    | failed applied =>
      rw [executed, List.filter_cons_of_neg (by simp [reply])]
      cases applied with
      | true =>
        obtain ⟨rows, saving, run, each⟩ := ih _ _ (congrArg uncommitted inserted)
        refine ⟨(d.eventHandlerId, handler.1) :: rows, saving, ?_, ?_⟩
        · dsimp only
          rw [run, inserted]
          simp [Nat.add_assoc, Nat.add_comm 1]
        · exact each.imp fun _ _ row => ⟨row.1, row.2.1, List.mem_cons_of_mem _ row.2.2⟩
      | false =>
        exact ih d tables opened

def relations (replies : Replies) (saving : List Saving) : List (Nat × Nat) :=
  (saving.filter fun handler => Written replies handler.index).map fun handler =>
    (handler.instanceId, handler.eventHandlerId)

theorem relate_eq (d : Database) (handler : Saving) :
    d.relate replies handler =
      if Written replies handler.index then
        { d with
          tables := { d.tables with
            instanceEventHandlers := d.tables.instanceEventHandlers ++
              [(handler.instanceId, handler.eventHandlerId)] } }
      else d := rfl

theorem relate_run (saving : List Saving) (d : Database) :
    saving.foldl (relate replies) d = { d with
        tables := { d.tables with
          instanceEventHandlers :=
            d.tables.instanceEventHandlers ++ relations replies saving } } := by
  induction saving generalizing d with
  | nil => simp [relations]
  | cons handler rest ih =>
    rw [List.foldl_cons, ih, relate_eq]
    by_cases written : Written replies handler.index
    · rw [if_pos written]
      simp [relations, written]
    · rw [if_neg written]
      simp [relations, written]

theorem ended_tables (late : Nat → Bool) (d : Database) : (d.ended replies late).tables =
      { d.tables with
        instanceEventHandlers := d.tables.instanceEventHandlers ++
          relations replies (d.saving.filter fun handler => !late handler.index) } := by
  rw [ended, relate_run]

theorem settled_tables (late : Nat → Bool) (d : Database) : (d.settled replies late).tables =
      { d.tables with
        instanceEventHandlers := d.tables.instanceEventHandlers ++
          relations replies (d.saving.filter fun handler => !late handler.index) ++
          relations replies (d.saving.filter fun handler => late handler.index) } := by
  rw [settled, relate_run, ended_tables]

theorem relations_eq_nil {saving : List Saving} :
    relations replies saving = [] ↔ ∀ handler ∈ saving, ¬Written replies handler.index := by
  simp [relations]

/-- The tables stay as they are exactly if no relation is written. -/
theorem settled_iff (late : Nat → Bool) (d : Database) :
    (d.settled replies late).tables = d.tables ↔
      ∀ handler ∈ d.saving, ¬Written replies handler.index := by
  rw [settled_tables]
  constructor
  · intro same handler there written
    have rows := congrArg Tables.instanceEventHandlers same
    dsimp only at rows
    rw [List.append_assoc, List.append_right_eq_self, List.append_eq_nil_iff, relations_eq_nil,
      relations_eq_nil] at rows
    cases late' : late handler.index with
    | true =>
      exact rows.2 handler (List.mem_filter.mpr ⟨there, late'⟩) written
    | false =>
      exact rows.1 handler (List.mem_filter.mpr ⟨there, by simp [late']⟩) written
  · intro none'
    have early := relations_eq_nil.mpr fun handler there =>
      none' handler (List.mem_of_mem_filter (p := fun h : Saving => !late h.index) there)
    have later := relations_eq_nil.mpr fun handler there =>
      none' handler (List.mem_of_mem_filter (p := fun h : Saving => late h.index) there)
    rw [early, later, List.append_nil, List.append_nil]

theorem write_id (d : Database) : d.write (fun tables => tables) = d := by
  obtain ⟨tables, uncommitted, instanceId, eventHandlerId, saving, requests⟩ := d
  cases uncommitted <;> rfl

def creating (replies : Replies) (args : CreateInstanceArgs) : DatabaseM (Nat × Instance) := do
  let row ← Instance.save replies args.record
  let row ← given row
  savePlay replies args row.1
  saveVideoSetting replies args row.1
  modify fun d => (args.eventHandlers.getD []).zipIdx.foldl
    (saveEventHandler replies row.1) d
  return row

def inserts (rows : List α) (calls : List Call) : List Call :=
  if rows.isEmpty then [] else calls

variable (args : CreateInstanceArgs)

def CreateInstanceArgs.calls : List Call :=
  [Call.execute .instances, .get .instances] ++
    inserts (args.plays 0) [Call.execute .playsInstances] ++
    inserts (args.settings 0) [Call.execute .videoSettings, .get .videoSettings]

def Tables.created (tables : Tables) (args : CreateInstanceArgs) (instanceId : Nat) : Tables :=
  { tables with
    instances := tables.instances ++ [(instanceId, args.record)]
    playsInstances := tables.playsInstances ++ args.plays instanceId
    videoSettings := tables.videoSettings ++ args.settings instanceId }

theorem view_write (d : Database) (effect : Tables → Tables) :
    (d.write effect).view = effect d.view := by
  unfold write view
  split
  · rw [‹d.uncommitted = _›]
    rfl
  · rw [‹d.uncommitted = _›]
    rfl

theorem find_insertInstance (d : Database) (i : Instance) :
    ∃ row, (d.insertInstance i).view.instances.find? (fun row => row.1 = d.instanceId) =
        some row ∧ row.1 = d.instanceId := by
  have rows : (d.insertInstance i).view.instances = d.view.instances ++ [(d.instanceId, i)] :=
    congrArg Tables.instances (view_write d _)
  rw [rows]
  cases found : (d.view.instances ++ [(d.instanceId, i)]).find?
      (fun row => row.1 = d.instanceId) with
  | none =>
    have all := List.find?_eq_none.mp found (d.instanceId, i) (by simp)
    simp at all
  | some row => exact ⟨row, rfl, by simpa using List.find?_some found⟩

theorem attempts_save (opened : d.uncommitted ≠ none) (i : Instance) :
    ∃ row, row.1 = d.instanceId ∧ Attempts (Instance.save replies i)
        (replies (.execute .instances) = .ok ∧ replies (.get .instances) = .ok) (some row) d
        (d.insertInstance i) := by
  obtain ⟨row, found, its⟩ := find_insertInstance d i
  have written := kept_write opened fun tables =>
    { tables with instances := tables.instances ++ [(d.instanceId, i)] }
  have kept : Kept d (d.insertInstance i) :=
    ⟨written.tables, written.requests, written.saving, written.opened⟩
  refine ⟨row, its, ?_⟩
  have selects : Attempts (selectInstance d.instanceId) True (some row) (d.insertInstance i)
      (d.insertInstance i) := by
    apply attempts_of_run
    rw [← found]
    rfl
  have gets : Attempts (Instance.get replies d.instanceId) (replies (.get .instances) = .ok)
      (some row) (d.insertInstance i) (d.insertInstance i) :=
    attempts_congr (and_iff_left trivial)
      (attempts_bind (attempts_ask kept.opened) (kept_refl kept.opened) selects)
  have numbered : Attempts insertId True d.instanceId d d := attempts_of_run rfl
  exact attempts_congr (and_iff_right trivial)
    (attempts_bind numbered (kept_refl opened)
      (attempts_bind (attempts_call kept opened) kept gets))

theorem plays_isEmpty (instanceId : Nat) :
    (args.plays instanceId).isEmpty = (args.plays 0).isEmpty := by
  unfold plays
  cases args.playId.filter fun playId => playId ≠ "" <;> rfl

theorem attempts_plays (opened : d.uncommitted ≠ none)
    (args : CreateInstanceArgs) (instanceId : Nat) :
    Attempts (savePlay replies args instanceId)
      (Succeeds replies (inserts (args.plays 0) [Call.execute .playsInstances])) () d
      (d.write fun tables =>
        { tables with playsInstances := tables.playsInstances ++ args.plays instanceId }) := by
  have nothing (none' : args.plays instanceId = []) : (d.write fun tables =>
      { tables with playsInstances := tables.playsInstances ++ args.plays instanceId }) = d := by
    simp only [none', List.append_nil]
    exact write_id d
  have unasked (none' : args.plays instanceId = []) :
      inserts (args.plays 0) [Call.execute .playsInstances] = [] := by
    rw [inserts, ← plays_isEmpty args instanceId, none']
    rfl
  unfold savePlay
  cases given : args.playId with
  | none =>
    have none' : args.plays instanceId = [] := by simp [plays, given]
    rw [nothing none', unasked none']
    exact .inl ⟨succeeds_nil, rfl⟩
  | some playId =>
    dsimp only
    by_cases empty : playId = ""
    · have none' : args.plays instanceId = [] := by simp [plays, given, empty]
      rw [nothing none', unasked none', if_pos empty]
      exact .inl ⟨succeeds_nil, rfl⟩
    · have one : args.plays instanceId = [(playId, instanceId)] := by
        simp [plays, given, empty]
      have asked : inserts (args.plays 0) [Call.execute .playsInstances] =
          [Call.execute .playsInstances] := by
        rw [inserts, ← plays_isEmpty args instanceId, one]
        rfl
      rw [if_neg empty, one, asked]
      refine attempts_congr ?_ (attempts_call (kept_write opened _) opened)
      rw [succeeds_cons, and_iff_left succeeds_nil]

theorem attempts_settings (opened : d.uncommitted ≠ none)
    (args : CreateInstanceArgs) (instanceId : Nat) :
    Attempts (saveVideoSetting replies args instanceId)
      (Succeeds replies
        (inserts (args.settings 0) [Call.execute .videoSettings, .get .videoSettings])) () d
      (d.write fun tables =>
        { tables with videoSettings := tables.videoSettings ++ args.settings instanceId }) := by
  unfold saveVideoSetting
  cases given : args.videoSetting with
  | none =>
    have none' (instanceId : Nat) : args.settings instanceId = [] := by
      simp [settings, given]
    simp only [none', List.append_nil]
    rw [write_id]
    exact .inl ⟨succeeds_nil, rfl⟩
  | some setting =>
    have one (instanceId : Nat) : args.settings instanceId = [(instanceId, setting)] := by
      simp [settings, given]
    have kept := kept_write opened fun tables =>
      { tables with videoSettings := tables.videoSettings ++ [(instanceId, setting)] }
    simp only [one]
    refine attempts_congr ?_
      (attempts_bind (attempts_call kept opened) kept (attempts_ask kept.opened))
    rw [inserts, if_neg (by simp), succeeds_cons, succeeds_cons, and_iff_left succeeds_nil]

def Database.created (d : Database) (args : CreateInstanceArgs) : Database :=
  ((d.insertInstance args.record).write fun tables =>
    { tables with playsInstances := tables.playsInstances ++ args.plays d.instanceId }).write
      fun tables =>
    { tables with videoSettings := tables.videoSettings ++ args.settings d.instanceId }

def Database.handled (replies : Replies) (d : Database) (args : CreateInstanceArgs) : Database :=
  args.handlers.zipIdx.foldl (saveEventHandler replies d.instanceId) (d.created args)

theorem attempts_creating (d : Database)
    (opened : d.uncommitted ≠ none) : ∃ row, row.1 = d.instanceId ∧
      Attempts (creating replies args) (Succeeds replies args.calls) row d
        (d.handled replies args) := by
  obtain ⟨⟨id, instance'⟩, its, saves⟩ := @attempts_save replies d opened args.record
  have its : id = d.instanceId := its
  subst its
  have written := kept_write opened fun tables =>
    { tables with instances := tables.instances ++ [(d.instanceId, args.record)] }
  have saved : Kept d (d.insertInstance args.record) :=
    ⟨written.tables, written.requests, written.saving, written.opened⟩
  have related := @attempts_plays replies _ saved.opened args d.instanceId
  have keeps := kept_write saved.opened fun tables =>
    { tables with playsInstances := tables.playsInstances ++ args.plays d.instanceId }
  have set := @attempts_settings replies _ keeps.opened args d.instanceId
  have keeps' := kept_write keeps.opened fun tables =>
    { tables with videoSettings := tables.videoSettings ++ args.settings d.instanceId }
  have handled : Attempts
      (do
        modify fun d' => (args.eventHandlers.getD []).zipIdx.foldl
          (saveEventHandler replies d.instanceId) d'
        return (d.instanceId, instance') : DatabaseM (Nat × Instance))
      True (d.instanceId, instance') (d.created args) (d.handled replies args) :=
    attempts_of_run rfl
  have row : Attempts (given (some (d.instanceId, instance'))) True (d.instanceId, instance')
      (d.insertInstance args.record) (d.insertInstance args.record) := attempts_of_run rfl
  refine ⟨(d.instanceId, instance'), rfl, ?_⟩
  refine attempts_congr ?_ (attempts_bind saves saved (attempts_bind row (kept_refl saved.opened)
    (attempts_bind related keeps (attempts_bind set keeps' handled))))
  rw [calls, succeeds_append, succeeds_append, succeeds_cons, succeeds_cons,
    and_iff_left succeeds_nil]
  simp only [true_and, and_true, and_assoc]

theorem handled_view (args : CreateInstanceArgs) (tables : Tables)
    (instanceId eventHandlerId : Nat) (requests : List InstanceRequest) :
    let d := idle tables instanceId eventHandlerId requests
    ∃ rows saving, d.begins.handled replies args =
        { d with
          uncommitted := some { tables.created args instanceId with
            eventHandlers := tables.eventHandlers ++ rows }
          instanceId := instanceId + 1
          eventHandlerId := eventHandlerId + rows.length
          saving := saving } ∧
      Saved instanceId rows saving (executed replies args.handlers.zipIdx) := by
  intro d
  obtain ⟨rows, saving, run, each⟩ := @saveEventHandlers_run replies instanceId
    args.handlers.zipIdx (d.begins.created args) (tables.created args instanceId) rfl
  exact ⟨rows, saving, run, each⟩

variable {rows : List (Nat × EventHandler)}

theorem indices_eq {instanceId : Nat} {saving : List Saving}
    {handlers : List EventHandler}
    (each : Saved instanceId rows saving (executed replies handlers.zipIdx)) :
    saving.map Saving.index = (List.range' 0 handlers.length).filter fun index =>
      replies (.execute (.eventHandlers index)) = .ok := by
  have places : saving.map Saving.index = (executed replies handlers.zipIdx).map Prod.snd := by
    generalize executed replies handlers.zipIdx = handled at each
    induction each with
    | nil => rfl
    | cons here _ ih => rw [List.map_cons, List.map_cons, here.1, ih]
  rw [places, ← List.zipIdx_map_snd 0 handlers, List.filter_map]
  rfl

theorem unwritten_iff {saving : List Saving} {n : Nat}
    (indices : saving.map Saving.index = (List.range' 0 n).filter fun index =>
      replies (.execute (.eventHandlers index)) = .ok) :
    (∀ handler ∈ saving, ¬Written replies handler.index) ↔
      ∀ index < n, ¬Related replies index := by
  have all : (∀ handler ∈ saving, ¬Written replies handler.index) ↔
      ∀ index ∈ saving.map Saving.index, ¬Written replies index := by
    rw [List.forall_mem_map]
  rw [all, indices]
  simp [List.mem_range'_1, Related]

theorem rows_eq {instanceId : Nat} {saving : List Saving} {handled : List (EventHandler × Nat)}
    (each : Saved instanceId rows saving handled) :
    (saving.map Saving.eventHandlerId).map (fun id => (instanceId, id)) =
      saving.map fun handler => (handler.instanceId, handler.eventHandlerId) := by
  induction each with
  | nil => rfl
  | cons here _ ih => rw [List.map_cons, List.map_cons, List.map_cons, ih, here.2.1]

/-- Every handler is stored when the operation ends exactly if each is related in time. -/
theorem related_iff {instanceId : Nat} {saving : List Saving}
    {handlers : List EventHandler} {before : List (Nat × Nat)}
    {stored : List (Nat × EventHandler)} {late : Nat → Bool} (subset : rows ⊆ stored)
    (each : Saved instanceId rows saving (executed replies handlers.zipIdx)) :
    (∃ eventHandlerIds : List Nat,
      List.Forall₂ (fun id handler => (id, handler) ∈ stored) eventHandlerIds handlers ∧
        List.Subperm (before ++ eventHandlerIds.map fun id => (instanceId, id))
          (before ++ relations replies (saving.filter fun handler => !late handler.index))) ↔
      ∀ index < handlers.length, Related replies index ∧ late index = false := by
  have indices := indices_eq each
  constructor
  · rintro ⟨ids, paired, within⟩
    have long := List.Subperm.length_le within
    have few : (relations replies (saving.filter fun handler => !late handler.index)).length =
        ((List.range' 0 handlers.length).filter fun index =>
          Related replies index ∧ late index = false).length := by
      have places : (saving.filter fun handler => !late handler.index).filter
          (fun handler => Written replies handler.index) =
          saving.filter ((fun index => Written replies index ∧ late index = false) ∘
            Saving.index) := by
        rw [List.filter_filter]
        apply List.filter_congr
        intro handler _
        rw [Bool.eq_iff_iff]
        simp
      rw [relations, List.length_map, places, ← List.length_map (f := Saving.index),
        ← List.filter_map, indices, List.filter_filter]
      congr 1
      apply List.filter_congr
      intro index _
      rw [Bool.eq_iff_iff]
      simp only [Bool.and_eq_true, decide_eq_true_eq]
      unfold Related
      tauto
    simp only [List.length_append, List.length_map, paired.length_eq, few] at long
    have full : ((List.range' 0 handlers.length).filter fun index =>
        Related replies index ∧ late index = false).length =
        (List.range' 0 handlers.length).length := by
      apply Nat.le_antisymm (List.length_filter_le _ _)
      rw [List.length_range']
      omega
    intro index there
    have all := List.length_filter_eq_length_iff.mp full index
      (List.mem_range'_1.mpr ⟨Nat.zero_le _, by omega⟩)
    exact of_decide_eq_true all
  · intro all
    have places (handler : Saving) (there : handler ∈ saving) :
        Related replies handler.index ∧ late handler.index = false := by
      have index := List.mem_map_of_mem (f := Saving.index) there
      rw [indices] at index
      have within := List.mem_range'_1.mp (List.mem_of_mem_filter index)
      exact all handler.index (by omega)
    have inTime : (saving.filter fun handler => !late handler.index) = saving := by
      rw [List.filter_eq_self]
      intro handler there
      simp [(places handler there).2]
    have written : (saving.filter fun handler => Written replies handler.index) = saving := by
      rw [List.filter_eq_self]
      intro handler there
      exact decide_eq_true (places handler there).1.2
    have every : executed replies handlers.zipIdx = handlers.zipIdx := by
      rw [List.filter_eq_self]
      intro handler there
      have index := List.mem_map_of_mem (f := Prod.snd) there
      rw [List.zipIdx_map_snd, List.mem_range'_1] at index
      exact decide_eq_true (all handler.2 (by omega)).1.1
    rw [every] at each
    refine ⟨saving.map Saving.eventHandlerId, ?_, ?_⟩
    · rw [List.forall₂_map_left_iff, ← List.zipIdx_map_fst 0 handlers,
        List.forall₂_map_right_iff]
      exact each.imp fun _ _ row => subset row.2.2
    · rw [relations, inTime, written]
      rw [rows_eq each]

def changing : List Call := [.getWithLock, .execute .instances, .get .instances]

def Changeable (tables : Tables) (instanceId : Nat) (changes : InstanceState → Bool) : Prop :=
  ∃ row, tables.instances.find? (fun row => row.1 = instanceId) = some row ∧
    changes row.2.status = true

def locked (replies : Replies) (instanceId : Nat) (conflicts : InstanceState → Bool)
    (status : InstanceState) : DatabaseM (Option (Nat × Instance)) := do
  let target ← Instance.getWithLock replies instanceId
  match target with
  | none => throw (.notFound "instance not found")
  | some target =>
    if conflicts target.2.status then throw (.conflict "instance state conflict")
    else Instance.updateStatus replies target.1 status

theorem find_withStatus (instances : List (Nat × Instance)) (id : Nat) (status : InstanceState) :
    (withStatus instances id status).find? (fun row => row.1 = id) =
      (instances.find? fun row => row.1 = id).map fun row => (row.1, { row.2 with status }) := by
  induction instances with
  | nil => rfl
  | cons row rest ih =>
    rw [withStatus, List.map_cons]
    by_cases its : row.1 = id
    · rw [if_pos its, List.find?_cons_of_pos (by simpa using its),
        List.find?_cons_of_pos (by simpa using its)]
      rfl
    · rw [if_neg its, List.find?_cons_of_neg (by simpa using its),
        List.find?_cons_of_neg (by simpa using its)]
      exact ih

def updating (replies : Replies) (conflicts : InstanceState → Bool) (status : InstanceState)
    (target : Option (Nat × Instance)) : DatabaseM (Option (Nat × Instance)) :=
  match target with
  | none => throw (.notFound "instance not found")
  | some target =>
    if conflicts target.2.status then throw (.conflict "instance state conflict")
    else Instance.updateStatus replies target.1 status

theorem attempts_updating (opened : d.uncommitted ≠ none) (instanceId : Nat)
    (conflicts : InstanceState → Bool) (status : InstanceState) : Attempts
      (updating replies conflicts status
        (d.view.instances.find? fun row => row.1 = instanceId))
      (Succeeds replies [.execute .instances, .get .instances] ∧
        Changeable d.view instanceId fun status => !conflicts status)
      ((d.view.setStatus instanceId status).instances.find? fun row => row.1 = instanceId) d
      (d.write fun tables => tables.setStatus instanceId status) := by
  have fails {m : DatabaseM (Option (Nat × Instance))} {error : ApiError}
      (run : m d = .error error d)
      (none' : ¬Changeable d.view instanceId fun status => !conflicts status) :
      Attempts m
        (Succeeds replies [.execute .instances, .get .instances] ∧
          Changeable d.view instanceId fun status => !conflicts status)
        ((d.view.setStatus instanceId status).instances.find? fun row => row.1 = instanceId) d
        (d.write fun tables => tables.setStatus instanceId status) :=
    .inr ⟨fun both => none' both.2, error, d, run, kept_refl opened⟩
  cases found : d.view.instances.find? fun row => row.1 = instanceId with
  | none =>
    apply fails rfl
    rintro ⟨row, found', -⟩
    rw [found] at found'
    cases found'
  | some target =>
    unfold updating
    dsimp only
    by_cases conflict : conflicts target.2.status = true
    · rw [if_pos conflict]
      apply fails rfl
      rintro ⟨row, found', free⟩
      rw [found] at found'
      cases found'
      simp [conflict] at free
    · rw [if_neg conflict]
      have its : target.1 = instanceId := by simpa using List.find?_some found
      have kept := kept_write opened fun tables => tables.setStatus instanceId status
      have selects : Attempts (selectInstance instanceId) True
          ((d.view.setStatus instanceId status).instances.find? fun row => row.1 = instanceId)
          (d.write fun tables => tables.setStatus instanceId status)
          (d.write fun tables => tables.setStatus instanceId status) := by
        apply attempts_of_run
        rw [← view_write d fun tables => tables.setStatus instanceId status]
        rfl
      have gets : Attempts (Instance.get replies instanceId) _ _ _ _ :=
        attempts_bind (@attempts_ask replies (.get .instances) _ kept.opened)
          (kept_refl kept.opened) selects
      rw [its]
      refine attempts_congr ?_ (attempts_bind (attempts_call kept opened) kept gets)
      have free : Changeable d.view instanceId fun status => !conflicts status :=
        ⟨target, found, by simpa using conflict⟩
      rw [and_iff_left free, succeeds_cons, succeeds_cons, and_iff_left succeeds_nil,
        and_iff_left trivial]

theorem attempts_locked (opened : d.uncommitted ≠ none) (instanceId : Nat)
    (conflicts : InstanceState → Bool) (status : InstanceState) :
    Attempts (locked replies instanceId conflicts status) (Succeeds replies changing ∧
        Changeable d.view instanceId fun status => !conflicts status)
      ((d.view.setStatus instanceId status).instances.find? fun row => row.1 = instanceId) d
      (d.write fun tables => tables.setStatus instanceId status) := by
  have selects : Attempts (selectInstance instanceId) True
      (d.view.instances.find? fun row => row.1 = instanceId) d d := attempts_of_run rfl
  have locks : Attempts (Instance.getWithLock replies instanceId) _ _ d d :=
    attempts_bind (@attempts_ask replies .getWithLock d opened) (kept_refl opened) selects
  refine attempts_congr ?_ (attempts_bind locks (kept_refl opened)
    (attempts_updating opened instanceId conflicts status))
  rw [changing, @succeeds_cons _ .getWithLock, and_iff_left trivial, and_assoc]

theorem find_setStatus {tables : Tables} {instanceId : Nat} {changes : InstanceState → Bool}
    (changeable : Changeable tables instanceId changes) (status : InstanceState) :
    ∃ row, (tables.setStatus instanceId status).instances.find?
        (fun row => row.1 = instanceId) = some row ∧
      row.1 = instanceId ∧ row.2.status = status := by
  obtain ⟨row, found, -⟩ := changeable
  have its : row.1 = instanceId := by simpa using List.find?_some found
  refine ⟨(row.1, { row.2 with status }), ?_, its, rfl⟩
  rw [Tables.setStatus, find_withStatus, found]
  rfl

theorem setStatus_ne {tables : Tables} {instanceId : Nat} {changes : InstanceState → Bool}
    {status : InstanceState} (changeable : Changeable tables instanceId changes)
    (stays : changes status = false) : tables.setStatus instanceId status ≠ tables := by
  intro same
  obtain ⟨row, found, changed⟩ := changeable
  obtain ⟨row', found', -, its⟩ := find_setStatus ⟨row, found, changed⟩ status
  rw [same, found] at found'
  cases found'
  rw [its, stays] at changed
  cases changed

def Comes (replies : Replies) (tables : Tables) : Operation → Prop
  | .createAndStartInstance args => Succeeds replies opening ∧ Succeeds replies args.calls
  | .stopInstance id => Succeeds replies opening ∧ Succeeds replies changing ∧
      Changeable tables id fun status => !(status = .closing ∨ status = .closed)
  | .pauseInstance id => Succeeds replies opening ∧ Succeeds replies changing ∧
      Changeable tables id fun status => !(status ≠ .running)
  | .resumeInstance id => Succeeds replies opening ∧ Succeeds replies changing ∧
      Changeable tables id fun status => !(status ≠ .paused)

def Operation.handlers : Operation → List EventHandler
  | .createAndStartInstance args => args.handlers
  | _ => []

/-- Where the commit is lost no handler is related, and otherwise nothing fails any more and
every handler is related in time. -/
def Permitted (replies : Replies) (late : Nat → Bool) (tables : Tables) (op : Operation) : Prop :=
  Comes replies tables op →
    (replies .commit = .failed false → ∀ index < op.handlers.length, ¬Related replies index) ∧
      (replies .commit ≠ .failed false → Succeeds replies completing ∧
        ∀ index < op.handlers.length, Related replies index ∧ late index = false)

section

variable (late : Nat → Bool)
include late

theorem ended_requests (d : Database) : (d.ended replies late).requests = d.requests := by
  rw [ended, relate_run]

theorem ended_instances (d : Database) :
    (d.ended replies late).tables.instances = d.tables.instances := by
  rw [ended_tables]

theorem changeStatus_iff (id : Nat) (conflicts : InstanceState → Bool)
    (status : InstanceState) (r : Nat → InstanceRequest) (stays : conflicts status = true)
    (tables : Tables) (instanceId eventHandlerId : Nat) (requests : List InstanceRequest) :
    (match changeStatus replies id conflicts status r
        (.idle tables instanceId eventHandlerId requests) with
      | .ok row d' => (row.1 = id ∧ HasStatus id status (d'.ended replies late).tables) ∧
          r row.1 ∈ (d'.ended replies late).requests
      | .error _ d' => (d'.settled replies late).tables = tables) ↔
      (Succeeds replies opening ∧ Succeeds replies changing ∧
        Changeable tables id fun status => !conflicts status) →
      replies .commit ≠ .failed false → Succeeds replies completing := by
  have opened : (idle tables instanceId eventHandlerId requests).begins.uncommitted ≠
      none := by simp [begins]
  have attempts := @attempts_locked replies _ opened id conflicts status
  have settles (d : Database) (empty : d.saving = []) :
      (d.settled replies late).tables = d.tables := by
    rw [settled_iff, empty]
    exact fun handler there => (List.not_mem_nil there).elim
  let k : Option (Nat × Instance) → DatabaseM (Nat × Instance) := fun row => do
    let row ← given row
    request replies (r row.1)
    return row
  have run : changeStatus replies id conflicts status r =
      (transaction replies (locked replies id conflicts status) >>= k) := rfl
  rw [run]
  by_cases comes : Succeeds replies opening ∧ Succeeds replies changing ∧
      Changeable tables id fun status => !conflicts status
  · obtain ⟨opens, calls, changeable⟩ := comes
    obtain ⟨row, found, its, has⟩ := find_setStatus changeable status
    rcases attempts with ⟨-, body⟩ | ⟨failed, -⟩
    · have rows : (idle tables instanceId eventHandlerId requests).begins.view =
          tables := rfl
      rw [rows, found] at body
      have continues : k (some row) = (do request replies (r row.1); return row) := rfl
      rcases transaction_request opens body continues with
        ⟨lost, error, fails⟩ | ⟨taken, incomplete, error, left, fails, same, saving⟩ |
        ⟨complete, ok⟩
      · rw [fails]
        refine iff_of_true ?_ fun _ taken => absurd lost taken
        exact settles _ rfl
      · rw [fails]
        refine iff_of_false ?_ fun all => incomplete (all ⟨opens, calls, changeable⟩ taken)
        dsimp only
        rw [settles left saving, same]
        exact setStatus_ne changeable (by rw [stays]; rfl)
      · rw [ok]
        refine iff_of_true ⟨⟨its, ?_⟩, ?_⟩ fun _ _ => complete
        · rw [HasStatus, ended_instances]
          exact (congrArg (Option.map fun row => row.2.status) found).trans (congrArg some has)
        · rw [ended_requests]
          exact List.mem_append_right _ (List.mem_singleton.mpr rfl)
    · exact absurd ⟨calls, changeable⟩ failed
  · obtain ⟨error, left, fails, same, saving⟩ := @transaction_fails replies _ _ _ k _ _
      (idle tables instanceId eventHandlerId requests) _ rfl attempts comes
    rw [fails]
    refine iff_of_true ?_ fun comes' => absurd comes' comes
    exact (settles left saving).trans same

theorem createAndStartInstance_iff (args : CreateInstanceArgs)
    (tables : Tables) (instanceId eventHandlerId : Nat) (requests : List InstanceRequest) :
    AllOrNothing replies late (.createAndStartInstance args)
        (.idle tables instanceId eventHandlerId requests) ↔
      Permitted replies late tables (.createAndStartInstance args) := by
  have opened : (idle tables instanceId eventHandlerId requests).begins.uncommitted ≠
      none := by simp [begins]
  obtain ⟨row, its, attempts⟩ := @attempts_creating replies args _ opened
  have its : row.1 = instanceId := its
  obtain ⟨rows, saving, handled, each⟩ :=
    @handled_view replies args tables instanceId eventHandlerId requests
  have indices := indices_eq each
  let k : Nat × Instance → DatabaseM (Nat × Instance) := fun row => do
    request replies (.start row.1 args.parameters)
    return row
  have run : perform replies (.createAndStartInstance args) =
      (transaction replies (creating replies args) >>= k) := rfl
  unfold AllOrNothing Permitted
  rw [run]
  by_cases comes : Succeeds replies opening ∧ Succeeds replies args.calls
  · have comes' : Comes replies tables (.createAndStartInstance args) := comes
    obtain ⟨opens, calls⟩ := comes
    rw [forall_prop_of_true comes']
    rcases attempts with ⟨-, body⟩ | ⟨failed, -⟩
    · rw [handled] at body
      have continues : k row =
          (do request replies (.start row.1 args.parameters); return row) := rfl
      rcases transaction_request opens body continues with
        ⟨lost, error, fails⟩ | ⟨taken, incomplete, error, left, fails, same, saved⟩ |
        ⟨complete, ok⟩
      · rw [fails, and_iff_left fun taken => absurd lost taken, forall_prop_of_true lost]
        exact (settled_iff late _).trans (unwritten_iff indices)
      · rw [fails]
        refine iff_of_false ?_ fun all => incomplete (all.2 taken).1
        intro unchanged
        dsimp only at unchanged
        rw [settled_tables, same] at unchanged
        have longer := congrArg (fun tables => tables.instances.length) unchanged
        simp [idle, view, Tables.created] at longer
      · rw [ok]
        have taken : replies .commit ≠ .failed false := by
          rw [complete _ (by simp [completing])]
          simp
        rw [and_iff_right fun lost => absurd lost taken, forall_prop_of_true taken,
          and_iff_right complete]
        have subset : rows ⊆ tables.eventHandlers ++ rows := List.subset_append_right _ _
        refine Iff.trans ?_
          (@related_iff _ _ _ _ _ tables.instanceEventHandlers _ late subset each)
        dsimp only
        rw [ended_requests, ended_tables, and_iff_left]
        · unfold Promised Stored
          dsimp only
          rw [its, and_iff_right, and_iff_right, and_iff_right]
          · rfl
          · exact List.subset_append_right _ _
          · exact List.subset_append_right _ _
          · exact List.mem_append_right _ (List.mem_singleton.mpr rfl)
        · exact List.mem_append_right _ (List.mem_singleton.mpr rfl)
    · exact absurd calls failed
  · obtain ⟨error, left, fails, same, saved⟩ := @transaction_fails replies _ _ _ k _ _
      (idle tables instanceId eventHandlerId requests) _ rfl attempts comes
    rw [fails]
    refine iff_of_true ?_ fun comes' => absurd comes' comes
    dsimp only
    rw [← same, settled_iff, saved]
    exact fun handler there => (List.not_mem_nil there).elim

end

/-- An operation is all or nothing exactly if, once it comes to its commit, a lost commit has no
handler related after it, and a commit that is made has every handler related in time and
nothing failing after it. -/
theorem operation_allOrNothing_iff (replies : Replies) (late : Nat → Bool) (op : Operation)
    (tables : Tables) (instanceId eventHandlerId : Nat) (requests : List InstanceRequest) :
    AllOrNothing replies late op (.idle tables instanceId eventHandlerId requests) ↔
      Permitted replies late tables op := by
  cases op with
  | createAndStartInstance args =>
    exact createAndStartInstance_iff late args tables instanceId eventHandlerId requests
  | stopInstance id =>
    refine (changeStatus_iff late id (fun status => status = .closing ∨ status = .closed) .closing
      .stop (by decide) tables instanceId eventHandlerId requests).trans ?_
    simp [Permitted, Comes, Operation.handlers]
  | pauseInstance id =>
    refine (changeStatus_iff late id (fun status => status ≠ .running) .pausing .pause
      (by decide) tables instanceId eventHandlerId requests).trans ?_
    simp [Permitted, Comes, Operation.handlers]
  | resumeInstance id =>
    refine (changeStatus_iff late id (fun status => status ≠ .paused) .resuming .resume
      (by decide) tables instanceId eventHandlerId requests).trans ?_
    simp [Permitted, Comes, Operation.handlers]

def handled : CreateInstanceArgs :=
  { gameCode := "game"
    playId := some "10"
    entryPoint := "main.js"
    cost := 1
    modules := "[]"
    videoSetting := none
    eventHandlers := some [⟨"instance_status", "http://localhost/", "http"⟩]
    parameters := ⟨none, none⟩ }

/-- The handler's row is not inserted, and the operation succeeds. -/
theorem unsaved_handler : ¬∀ (replies : Replies) (late : Nat → Bool) (op : Operation)
    (tables : Tables) (instanceId eventHandlerId : Nat) (requests : List InstanceRequest),
    AllOrNothing replies late op (.idle tables instanceId eventHandlerId requests) := by
  intro claimed
  have all := claimed
    (fun c => if c = .execute (.eventHandlers 0) then .failed false else .ok) (fun _ => false)
    (.createAndStartInstance handled) ⟨[], [], [], [], []⟩ 1 1 []
  rw [createAndStartInstance_iff] at all
  have comes := all ⟨by decide +kernel, by decide +kernel⟩
  have stored := (comes.2 (by decide +kernel)).2 0 (by decide +kernel)
  revert stored
  decide +kernel

end AkashicSystem.SystemApiServer.InstanceManager
