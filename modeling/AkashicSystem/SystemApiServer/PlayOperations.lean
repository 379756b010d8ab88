import AkashicSystem.SystemApiServer.PlayCalls

/-!
# What the operations leave

How far an operation comes decides what it leaves: a play that is created is there
before it is started, and a play is resumed or suspended in a transaction, which
does not cover the write status and the exchanges.
-/

set_option autoImplicit false

namespace AkashicSystem.SystemApiServer

open AkashicSystem.Js AkashicSystem.Js.Computation PlayState
open AkashicSystem.Playlog (WriteStatus)

variable {replies : Replies}

theorem startPlay_sets {play : Play} (sets : SetsPlaying replies play.id) (connection : Bool)
    (s : Services) : Attempts (startPlay replies (some play) connection s)
      (Succeeds replies (.execute .setPlaying :: updates .running connection))
      (((s.playing play.id).setStatus play.id .running connection).table play.id)
      (s.playing play.id) ((s.playing play.id).setStatus play.id .running connection) := by
  have run : startPlay replies (some play) connection s =
      (do
        preparePublishPlaylog replies play.id
        Play.update replies play.id .running connection : ServiceM (Option Play)) s := rfl
  rw [run, bind_run, prepare_sets sets]
  by_cases made : replies (.execute .setPlaying) = .ok
  · rw [if_pos made]
    dsimp only
    rcases @update_attempts replies play.id .running connection (s.playing play.id) with
      ⟨ok, run⟩ | ⟨failed, error, run⟩
    · exact .inl ⟨succeeds_cons.mpr ⟨made, ok⟩, run⟩
    · exact .inr ⟨fun ok => failed (succeeds_cons.mp ok).2, error, run⟩
  · rw [if_neg made]
    exact .inr ⟨fun ok => made (succeeds_cons.mp ok).1, .unavailable, .inl rfl⟩

theorem startPlay_fails {play : Play} (fails : ¬SetsPlaying replies play.id) (connection : Bool)
    (s : Services) : startPlay replies (some play) connection s =
      .error .unavailable (s.perform (applied replies (prepare play.id))) := by
  have run : startPlay replies (some play) connection s =
      (do
        preparePublishPlaylog replies play.id
        Play.update replies play.id .running connection : ServiceM (Option Play)) s := rfl
  rw [run, bind_run, prepare_fails fails]

theorem stopPlay_attempts (play : Play) (connection : Bool) (s : Services) :
    Attempts (stopPlay replies play connection s)
      (Succeeds replies (updates .suspending connection))
      (((s.cleaned replies play.id).setStatus play.id .suspending connection).table play.id)
      (s.cleaned replies play.id)
      ((s.cleaned replies play.id).setStatus play.id .suspending connection) := by
  have run : stopPlay replies play connection s =
      Play.update replies play.id .suspending connection (s.cleaned replies play.id) := by
    rw [stopPlay, bind_run, ignoring_run, cleanup_leaves]
  rw [run]
  exact update_attempts play.id .suspending connection _

/-- What a process leaves to the transaction is committed, or all of it is rolled back. -/
theorem transaction_settles {α : Type} {m : ServiceM α} {s s₁ s₂ : Services} {a : α}
    {succeeds : Prop} (opens : Succeeds replies [.getConnection .transaction, .beginTransaction])
    (attempts : Attempts (m s.begin) succeeds a s₁ s₂) (same : s₂.rolledBack = s₁.rolledBack) :
    ((succeeds ∧ Succeeds replies [.commit, .release .transaction]) ∧
      transaction replies m s = .ok a s₂.committed) ∨
    (¬(succeeds ∧ Succeeds replies [.commit, .release .transaction]) ∧
      (succeeds ∧ replies .commit ≠ .failed false) ∧
      ∃ error, transaction replies m s = .error error s₂.committed) ∨
    (¬(succeeds ∧ Succeeds replies [.commit, .release .transaction]) ∧
      ¬(succeeds ∧ replies .commit ≠ .failed false) ∧
      ∃ error, transaction replies m s = .error error s₁.rolledBack) := by
  rw [transaction_run m s opens]
  rcases attempts with ⟨ok, run⟩ | ⟨failed, error, run⟩
  · rw [run]
    dsimp only
    by_cases lost : replies .commit = .failed false
    · right
      right
      rw [if_pos lost, same]
      refine ⟨fun all => ?_, fun made => made.2 lost, .unavailable, rfl⟩
      have committed := (succeeds_cons.mp all.2).1
      rw [lost] at committed
      cases committed
    · rw [if_neg lost]
      by_cases settled : Succeeds replies [.commit, .release .transaction]
      · rw [if_pos settled]
        exact .inl ⟨⟨ok, settled⟩, rfl⟩
      · rw [if_neg settled]
        exact .inr (.inl ⟨fun all => settled all.2, ⟨ok, lost⟩, .unavailable, rfl⟩)
  · right
    right
    refine ⟨fun all => failed all.1, fun made => failed made.1, error, ?_⟩
    rcases run with run | run
    · rw [run]
    · rw [run]
      dsimp only
      rw [same]

def Locks (replies : Replies) : Prop :=
  Succeeds replies [.getConnection .transaction, .beginTransaction, .getWithLock]

instance (replies : Replies) : Decidable (Locks replies) :=
  inferInstanceAs (Decidable (Succeeds replies _))

def commits (status : PlayState) : List Call :=
  updates status true ++ [Call.commit, .release .transaction]

def Services.updated (s : Services) (id : Nat) (status : PlayState) : Services :=
  { s with plays := withStatus s.plays id status }

/-- What `updatePlay` does in its transaction. -/
def locked (replies : Replies) (id : Nat) (state : String) : ServiceM (Option Play) := do
  let result ← Play.getWithLock replies id
  match result with
  | none => throw (.notFound "play not found")
  | some play =>
    let play ← checkStatus play state
    if state = running.constant then startPlay replies (some play) true
    else stopPlay replies play true

theorem updatePlay_eq (id : Nat) (state : String) :
    updatePlay replies id state =
      if state ≠ running.constant ∧ state ≠ suspending.constant then
        throw (.invalidParameter "invalid status parameter")
      else transaction replies (locked replies id state) := rfl

theorem locked_run (locks : Locks replies) {id : Nat} {state : String} {s : Services}
    {play : Play} (found : s.plays id = some play) : locked replies id state s.begin = (do
        let play ← checkStatus play state
        if state = running.constant then startPlay replies (some play) true
        else stopPlay replies play true : ServiceM (Option Play)) s.begin := by
  have row : s.begin.table id = some play := found
  have asked : replies .getWithLock = .ok := locks _ (by simp)
  have got : Play.getWithLock replies id s.begin = .ok (some play) s.begin := by
    rw [Play.getWithLock, bind_run, ask_ok asked]
    exact congrArg (fun row => EStateM.Result.ok row s.begin) row
  rw [locked, bind_run, got]

theorem opens_of_locks (locks : Locks replies) :
    Succeeds replies [.getConnection .transaction, .beginTransaction] := by
  intro c there
  exact locks c (List.mem_append_left [Call.getWithLock] there)

theorem resume_sets {id : Nat} {s : Services} {play : Play} (locks : Locks replies)
    (found : s.plays id = some play) (suspending : play.status = .suspending)
    (sets : SetsPlaying replies play.id) :
    ∃ a, Attempts (updatePlay replies id running.constant s)
      (Succeeds replies (.execute .setPlaying :: commits .running)) a (s.playing play.id).rolledBack
      ((s.playing play.id).rolledBack.updated play.id .running) := by
  have run : locked replies id running.constant s.begin =
      startPlay replies (some play) true s.begin := by
    rw [locked_run locks found, checkStatus, if_pos (.inr ⟨suspending, rfl⟩)]
    rfl
  have attempts := startPlay_sets sets true s.begin
  rw [← run] at attempts
  refine ⟨((s.begin.playing play.id).setStatus play.id .running true).table play.id, ?_⟩
  rw [updatePlay_eq, if_neg fun invalid => invalid.1 rfl]
  have calls : Succeeds replies (.execute .setPlaying :: commits .running) ↔
      Succeeds replies (.execute .setPlaying :: updates .running true) ∧
        Succeeds replies [.commit, .release .transaction] := by
    rw [commits, ← List.cons_append, succeeds_append]
  rcases transaction_settles (opens_of_locks locks) attempts rfl with
    ⟨ok, run⟩ | ⟨failed, -, error, run⟩ | ⟨failed, -, error, run⟩
  · exact .inl ⟨calls.mpr ok, run⟩
  · exact .inr ⟨fun ok => failed (calls.mp ok), error, .inr run⟩
  · exact .inr ⟨fun ok => failed (calls.mp ok), error, .inl run⟩

theorem resume_fails {id : Nat} {s : Services} {play : Play} (locks : Locks replies)
    (found : s.plays id = some play) (suspending : play.status = .suspending)
    (fails : ¬SetsPlaying replies play.id) : updatePlay replies id running.constant s =
      .error .unavailable (s.perform (applied replies (prepare play.id))).rolledBack := by
  have run : locked replies id running.constant s.begin =
      startPlay replies (some play) true s.begin := by
    rw [locked_run locks found, checkStatus, if_pos (.inr ⟨suspending, rfl⟩)]
    rfl
  rw [updatePlay_eq, if_neg fun invalid => invalid.1 rfl,
    transaction_run _ s (opens_of_locks locks), run, startPlay_fails fails]
  rfl

theorem setStatus_cleaned (playId : Nat) (status : PlayState) (s : Services) :
    ((s.begin.cleaned replies playId).setStatus playId status true).rolledBack =
        (s.begin.cleaned replies playId).rolledBack ∧
      (s.begin.cleaned replies playId).rolledBack = (s.cleaned replies playId).rolledBack ∧
      ((s.begin.cleaned replies playId).setStatus playId status true).committed =
        (s.cleaned replies playId).rolledBack.updated playId status := by
  unfold Services.cleaned
  split <;> exact ⟨rfl, rfl, rfl⟩

theorem suspend_cases {id : Nat} {s : Services} {play : Play} (locks : Locks replies)
    (found : s.plays id = some play) (running : play.status = .running) :
    (Succeeds replies (commits .suspending) ∧
      ∃ a, updatePlay replies id suspending.constant s =
        .ok a ((s.cleaned replies play.id).rolledBack.updated play.id .suspending)) ∨
    (¬Succeeds replies (commits .suspending) ∧
      (Succeeds replies (updates .suspending true) ∧ replies .commit ≠ .failed false) ∧
      ∃ error, updatePlay replies id suspending.constant s =
        .error error ((s.cleaned replies play.id).rolledBack.updated play.id .suspending)) ∨
    (¬Succeeds replies (commits .suspending) ∧
      ¬(Succeeds replies (updates .suspending true) ∧ replies .commit ≠ .failed false) ∧
      ∃ error, updatePlay replies id suspending.constant s =
        .error error (s.cleaned replies play.id).rolledBack) := by
  have run : locked replies id suspending.constant s.begin =
      stopPlay replies play true s.begin := by
    rw [locked_run locks found, checkStatus, if_pos (.inl ⟨running, rfl⟩)]
    rfl
  have attempts := @stopPlay_attempts replies play true s.begin
  rw [← run] at attempts
  obtain ⟨same, rolledBack, committed⟩ := @setStatus_cleaned replies play.id .suspending s
  have calls : Succeeds replies (commits .suspending) ↔
      Succeeds replies (updates .suspending true) ∧
        Succeeds replies [.commit, .release .transaction] := by
    rw [commits, succeeds_append]
  rw [updatePlay_eq, if_neg fun invalid => invalid.2 rfl, calls, ← committed, ← rolledBack]
  rcases transaction_settles (opens_of_locks locks) attempts same with
    ⟨ok, run⟩ | settled | settled
  · exact .inl ⟨ok, _, run⟩
  · exact .inr (.inl settled)
  · exact .inr (.inr settled)

theorem updatePlay_rejects {id : Nat} {state : String} {s : Services}
    (settled : s.uncommitted = none)
    (resumes : ¬(state = running.constant ∧ Locks replies ∧
      ∃ play, s.plays id = some play ∧ play.status = .suspending))
    (suspends : ¬(state = suspending.constant ∧ Locks replies ∧
      ∃ play, s.plays id = some play ∧ play.status = .running)) :
    ∃ error, updatePlay replies id state s = .error error s := by
  have back : s.begin.rolledBack = s := by
    rw [Services.begin, Services.rolledBack, ← settled]
  rw [updatePlay_eq]
  by_cases invalid : state ≠ running.constant ∧ state ≠ suspending.constant
  · rw [if_pos invalid]
    exact ⟨_, rfl⟩
  · rw [if_neg invalid]
    by_cases opens : Succeeds replies [.getConnection .transaction, .beginTransaction]
    · have rejects : ∃ error, locked replies id state s.begin = .error error s.begin := by
        by_cases asked : replies .getWithLock = .ok
        · have locks : Locks replies := by
            intro c there
            rcases List.mem_append.mp (show c ∈ [Call.getConnection .transaction,
              .beginTransaction] ++ [Call.getWithLock] from there) with there | there
            · exact opens c there
            · rw [List.mem_singleton.mp there]
              exact asked
          cases found : s.plays id with
          | none =>
            have got : Play.getWithLock replies id s.begin = .ok none s.begin := by
              rw [Play.getWithLock, bind_run, ask_ok asked]
              exact congrArg (fun row => EStateM.Result.ok row s.begin) found
            rw [locked, bind_run, got]
            exact ⟨_, rfl⟩
          | some play =>
            rw [locked_run locks found, checkStatus, if_neg]
            · exact ⟨_, rfl⟩
            · rintro (⟨running, rfl⟩ | ⟨suspending, rfl⟩)
              · exact suspends ⟨rfl, locks, play, found, running⟩
              · exact resumes ⟨rfl, locks, play, found, suspending⟩
        · rw [locked, bind_run, Play.getWithLock, bind_run, ask_failed asked]
          exact ⟨_, rfl⟩
      obtain ⟨error, run⟩ := rejects
      refine ⟨error, ?_⟩
      rw [transaction_run _ s opens, run]
      dsimp only
      rw [back]
    · exact ⟨_, transaction_closed _ settled opens⟩

/-- A play has got the next id and is not running; nothing else has changed. -/
structure Created (s s' : Services) : Prop where
  plays : ∃ play, play.id = s.insertId ∧ play.status ≠ .running ∧
    s'.plays = Function.update s.plays s.insertId (some play)
  insertId : s'.insertId = s.insertId + 1
  playlogs : s'.playlogs = s.playlogs
  broker : s'.broker = s.broker
  uncommitted : s'.uncommitted = none

variable {s : Services}

theorem created_insert (settled : s.uncommitted = none) (play : Play)
    (stopped : play.status ≠ .running) : Created s (s.insert play) where
  plays := ⟨{ play with id := s.insertId }, rfl, stopped, rfl⟩
  insertId := rfl
  playlogs := rfl
  broker := rfl
  uncommitted := settled

theorem created_setStatus {s s' : Services} (created : Created s s') {status : PlayState}
    (stopped : status ≠ .running) : Created s (s'.setStatus s.insertId status false) where
  plays := by
    obtain ⟨play, named, -, rows⟩ := created.plays
    refine ⟨{ play with status := status }, named, stopped, ?_⟩
    show withStatus s'.plays s.insertId status = _
    rw [withStatus, rows, Function.update_self, Function.update_idem]
    rfl
  insertId := created.insertId
  playlogs := created.playlogs
  broker := created.broker
  uncommitted := created.uncommitted

theorem table_of_settled (settled : s.uncommitted = none) : s.table = s.plays := by
  rw [Services.table, settled]
  rfl

theorem save_cases (settled : s.uncommitted = none) (play : Play)
    (stopped : play.status ≠ .running) : (Succeeds replies saves ∧ Created s (s.insert play) ∧
      Play.save replies play s = .ok (some { play with id := s.insertId }) (s.insert play)) ∨
    (¬Succeeds replies saves ∧ ∃ error s', (s' = s ∨ Created s s') ∧
      Play.save replies play s = .error error s') := by
  have created := created_insert settled play stopped
  rcases @save_attempts replies play s with ⟨ok, run⟩ | ⟨failed, error, run⟩
  · left
    refine ⟨ok, created, ?_⟩
    rw [run, table_of_settled created.uncommitted]
    exact congrArg (fun row => EStateM.Result.ok row (s.insert play)) (Function.update_self ..)
  · right
    rcases run with run | run
    · exact ⟨failed, error, s, .inl rfl, run⟩
    · exact ⟨failed, error, _, .inr created, run⟩

def derives : List Call := saves ++ [Call.copyPlaylog] ++ updates .suspending false

theorem createNewPlay_cases (settled : s.uncommitted = none) (gameCode : String) :
    (Succeeds replies saves ∧ ∃ play s', play.id = s.insertId ∧ Created s s' ∧
      createNewPlay replies gameCode s = startPlay replies (some play) false s') ∨
    (¬Succeeds replies saves ∧ ∃ error s', (s' = s ∨ Created s s') ∧
      createNewPlay replies gameCode s = .error error s') := by
  rcases @save_cases replies s settled ⟨0, gameCode, none, .suspending⟩ (by simp) with
    ⟨ok, created, run⟩ | ⟨failed, error, s', left', run⟩
  · left
    refine ⟨ok, ⟨s.insertId, gameCode, none, .suspending⟩, _, rfl, created, ?_⟩
    rw [createNewPlay, bind_run, run]
  · right
    refine ⟨failed, error, s', left', ?_⟩
    rw [createNewPlay, bind_run, run]

/-- A derived play is left broken, or preparing, where the playlog is not copied. -/
theorem copyPlaylog_cases {s s' : Services} (created : Created s s') {play : Play}
    (named : play.id = s.insertId) :
    (replies .copyPlaylog = .ok ∧ copyPlaylog replies play s' = .ok () s') ∨
    (replies .copyPlaylog ≠ .ok ∧ ∃ error s'', Created s s'' ∧
      copyPlaylog replies play s' = .error error s'') := by
  by_cases copied : replies .copyPlaylog = .ok
  · left
    refine ⟨copied, ?_⟩
    rw [copyPlaylog, tryCatch_run, ask_ok copied]
  · right
    refine ⟨copied, .unavailable, ?_⟩
    rw [copyPlaylog, tryCatch_run, ask_failed copied]
    dsimp only
    rw [bind_run, ignoring_run, bind_run]
    have broken := created_setStatus created (show broken ≠ .running by decide)
    rw [← named] at broken
    rcases @update_attempts replies play.id .broken false s' with
      ⟨-, run⟩ | ⟨-, error, run | run⟩
    · rw [run]
      exact ⟨_, broken, rfl⟩
    · rw [run]
      exact ⟨_, created, rfl⟩
    · rw [run]
      exact ⟨_, broken, rfl⟩

theorem createDerivedPlay_cases (settled : s.uncommitted = none)
    (gameCode : String) (parentId : Option Nat) :
    (Succeeds replies derives ∧ ∃ play s', play.id = s.insertId ∧ Created s s' ∧
      createDerivedPlay replies gameCode parentId s = startPlay replies (some play) false s') ∨
    (¬Succeeds replies derives ∧ ∃ error s', (s' = s ∨ Created s s') ∧
      createDerivedPlay replies gameCode parentId s = .error error s') := by
  have parts : Succeeds replies derives ↔ Succeeds replies saves ∧
      replies .copyPlaylog = .ok ∧ Succeeds replies (updates .suspending false) := by
    rw [derives, List.append_assoc, succeeds_append, List.singleton_append, succeeds_cons]
  rw [parts]
  rcases @save_cases replies s settled ⟨0, gameCode, parentId, .preparing⟩ (by simp) with
    ⟨saved, created, run⟩ | ⟨failed, error, s', left', run⟩
  · rw [createDerivedPlay, bind_run, run]
    dsimp only
    rw [given, bind_run, pure_run]
    dsimp only
    rw [bind_run]
    rcases @copyPlaylog_cases replies _ _ created
      ⟨s.insertId, gameCode, parentId, .preparing⟩ rfl with
      ⟨copied, run⟩ | ⟨failed, error, s', left', run⟩
    · rw [run]
      dsimp only
      rw [bind_run]
      have suspending := created_setStatus created (show suspending ≠ .running by decide)
      rcases @update_attempts replies s.insertId .suspending false (s.insert _) with
        ⟨updated, run⟩ | ⟨failed, error, run⟩
      · left
        rw [run]
        obtain ⟨play, named, -, rows⟩ := suspending.plays
        refine ⟨⟨saved, copied, updated⟩, play, _, named, suspending, ?_⟩
        dsimp only
        rw [table_of_settled suspending.uncommitted, rows, Function.update_self]
      · right
        refine ⟨fun ok => failed ok.2.2, error, ?_⟩
        rcases run with run | run
        · rw [run]
          exact ⟨_, .inr created, rfl⟩
        · rw [run]
          exact ⟨_, .inr suspending, rfl⟩
    · right
      rw [run]
      exact ⟨fun ok => failed ok.2.1, error, s', .inr left', rfl⟩
  · right
    refine ⟨fun ok => failed ok.1, error, s', left', ?_⟩
    rw [createDerivedPlay, bind_run, run]

theorem createDerivedPlayById_cases (settled : s.uncommitted = none)
    (parentId : Nat) :
    (∃ parent, (Succeeds replies (context .getParent false ++ [Call.get .getParent]) ∧
        s.plays parentId = some parent ∧ (parent.status = .running ∨ parent.status = .suspending)) ∧
      createDerivedPlayById replies parentId s =
        createDerivedPlay replies parent.gameCode (some parent.id) s) ∨
    ((¬∃ parent, Succeeds replies (context .getParent false ++ [Call.get .getParent]) ∧
        s.plays parentId = some parent ∧ (parent.status = .running ∨ parent.status = .suspending)) ∧
      ∃ error, createDerivedPlayById replies parentId s = .error error s) := by
  have reads : Attempts (Play.get replies .getParent parentId false s)
      (Succeeds replies (context .getParent false ++ [Call.get .getParent]))
        (s.plays parentId) s s := by
    have body : Attempts
        ((do
          ask replies (.get .getParent)
          select parentId : ServiceM (Option Play)) s)
        (Succeeds replies [.get .getParent]) (s.plays parentId) s s := by
      rw [bind_run]
      by_cases got : replies (.get .getParent) = .ok
      · left
        refine ⟨succeeds_cons.mpr ⟨got, succeeds_nil⟩, ?_⟩
        rw [ask_ok got, ← table_of_settled settled]
        rfl
      · right
        rw [ask_failed got]
        exact ⟨fun ok => got (succeeds_cons.mp ok).1, .unavailable, .inl rfl⟩
    have entered := @enterContext_attempts replies _ .getParent false _ _ _ _ _ body
    rw [← succeeds_append] at entered
    exact entered
  rcases reads with ⟨ok, run⟩ | ⟨failed, error, run⟩
  · rw [createDerivedPlayById, bind_run, run]
    dsimp only
    cases found : s.plays parentId with
    | none =>
      right
      refine ⟨?_, _, rfl⟩
      rintro ⟨parent, -, there, -⟩
      cases there
    | some parent =>
      dsimp only
      by_cases played : parent.status ≠ .running ∧ parent.status ≠ .suspending
      · right
        rw [if_pos played]
        refine ⟨?_, _, rfl⟩
        rintro ⟨parent', -, there, status⟩
        cases there
        exact status.elim played.1 played.2
      · left
        rw [if_neg played]
        refine ⟨parent, ⟨ok, rfl, ?_⟩, rfl⟩
        by_contra neither
        exact played (not_or.mp neither)
  · right
    refine ⟨fun known => failed known.choose_spec.1, error, ?_⟩
    rw [createDerivedPlayById, bind_run]
    rcases run with run | run <;> rw [run]

end AkashicSystem.SystemApiServer
