import AkashicSystem.SystemApiServer.Transactions

/-!
# What the calls leave

Each function of the play manager, at the calls that succeed and at those that fail:
what it leaves of the tables and of the exchanges.
-/

set_option autoImplicit false

namespace AkashicSystem.SystemApiServer

open AkashicSystem.Js AkashicSystem.Js.Computation List
open AkashicSystem.Playlog (WriteStatus)

def Succeeds (replies : Replies) (calls : List Call) : Prop := ∀ c ∈ calls, replies c = .ok

instance (replies : Replies) (calls : List Call) : Decidable (Succeeds replies calls) :=
  inferInstanceAs (Decidable (∀ c ∈ calls, replies c = .ok))

variable {replies : Replies}

theorem succeeds_nil : Succeeds replies [] := fun _ there => (not_mem_nil there).elim

variable {c : Call}

theorem succeeds_cons {calls : List Call} :
    Succeeds replies (c :: calls) ↔ replies c = .ok ∧ Succeeds replies calls :=
  forall_mem_cons

theorem succeeds_append {calls calls' : List Call} :
    Succeeds replies (calls ++ calls') ↔ Succeeds replies calls ∧ Succeeds replies calls' :=
  forall_mem_append

theorem call_ok (ok : replies c = .ok) (effect : Services → Services) (s : Services) :
    call replies c effect s = .ok () (effect s) := by
  rw [call, ok]

theorem call_applied (failed : replies c = .failed true) (effect : Services → Services)
    (s : Services) : call replies c effect s = .error .unavailable (effect s) := by
  rw [call, failed]

theorem call_lost (failed : replies c = .failed false) (effect : Services → Services)
    (s : Services) : call replies c effect s = .error .unavailable s := by
  rw [call, failed]

theorem ask_ok (ok : replies c = .ok) (s : Services) : ask replies c s = .ok () s :=
  call_ok ok id s

theorem ask_failed (failed : replies c ≠ .ok) (s : Services) :
    ask replies c s = .error .unavailable s := by
  cases reply : replies c with
  | ok => exact absurd reply failed
  | failed applied =>
    cases applied with
    | true => exact call_applied reply id s
    | false => exact call_lost reply id s

/-- A change has been made and returned from, or there is a failure with or without it. -/
def Attempts {α : Type} (result : EStateM.Result ApiError Services α) (succeeds : Prop) (a : α)
    (s s' : Services) : Prop :=
  (succeeds ∧ result = .ok a s') ∨
    (¬succeeds ∧ ∃ error, result = .error error s ∨ result = .error error s')

def context (query : Query) (connection : Bool) : List Call :=
  if connection then [] else [.getConnection query, .release query]

theorem enterContext_attempts {α : Type} {query : Query} {connection : Bool} {m : ServiceM α}
    {succeeds : Prop} {a : α} {s s' : Services} (attempts : Attempts (m s) succeeds a s s') :
    Attempts (enterContext replies query connection m s)
      (Succeeds replies (context query connection) ∧ succeeds) a s s' := by
  cases connection with
  | true =>
    rcases attempts with ⟨ok, run⟩ | ⟨failed, error, run⟩
    · exact .inl ⟨⟨succeeds_nil, ok⟩, run⟩
    · exact .inr ⟨fun ok => failed ok.2, error, run⟩
  | false =>
    by_cases connected : replies (.getConnection query) = .ok
    · have entered : enterContext replies query false m s =
          (tryCatch
            (do
              let result ← m
              ask replies (.release query)
              return result)
            fun error => do
              ignoring (ask replies (.release query))
              throw error : ServiceM α) s := by
        rw [enterContext, if_neg Bool.false_ne_true, bind_run, ask_ok connected]
      have rethrown (error : ApiError) (s : Services) :
          (do
            ignoring (ask replies (.release query))
            throw error : ServiceM α) s = .error error s := by
        rw [bind_run, ignoring_run]
        by_cases released : replies (.release query) = .ok
        · rw [ask_ok released]
          rfl
        · rw [ask_failed released]
          rfl
      rcases attempts with ⟨ok, run⟩ | ⟨failed, error, run⟩
      · by_cases released : replies (.release query) = .ok
        · left
          refine ⟨⟨?_, ok⟩, ?_⟩
          · exact succeeds_cons.mpr ⟨connected, succeeds_cons.mpr ⟨released, succeeds_nil⟩⟩
          · rw [entered, tryCatch_run, bind_run, run]
            dsimp only
            rw [bind_run, ask_ok released]
            rfl
        · right
          refine ⟨fun ok => released (ok.1 _ (by simp [context])), .unavailable, .inr ?_⟩
          rw [entered, tryCatch_run, bind_run, run]
          dsimp only
          rw [bind_run, ask_failed released]
          exact rethrown _ _
      · right
        refine ⟨fun ok => failed ok.2, error, ?_⟩
        rw [entered, tryCatch_run, bind_run]
        rcases run with run | run
        · rw [run]
          exact .inl (rethrown _ _)
        · rw [run]
          exact .inr (rethrown _ _)
    · right
      refine ⟨fun ok => connected (ok.1 _ (by simp [context])), .unavailable, .inl ?_⟩
      rw [enterContext, if_neg Bool.false_ne_true, bind_run, ask_failed connected]

theorem get_ok {query : Query} (ok : replies (.get query) = .ok) (id : Nat) (s : Services) :
    Play.get replies query id true s = .ok (s.table id) s := by
  rw [Play.get, enterContext, if_pos rfl, bind_run, ask_ok ok]
  rfl

theorem get_failed {query : Query} (failed : replies (.get query) ≠ .ok) (id : Nat)
    (s : Services) : Play.get replies query id true s = .error .unavailable s := by
  rw [Play.get, enterContext, if_pos rfl, bind_run, ask_failed failed]

theorem statement_attempts {query : Query} {effect : Services → Services} {id : Nat}
    (s : Services) : Attempts ((do
        call replies (.execute query) effect
        Play.get replies query id true : ServiceM (Option Play)) s)
      (Succeeds replies [.execute query, .get query]) ((effect s).table id) s (effect s) := by
  unfold Attempts
  rw [bind_run]
  cases reply : replies (.execute query) with
  | ok =>
    rw [call_ok reply]
    dsimp only
    by_cases selected : replies (.get query) = .ok
    · left
      refine ⟨?_, get_ok selected id (effect s)⟩
      exact succeeds_cons.mpr ⟨reply, succeeds_cons.mpr ⟨selected, succeeds_nil⟩⟩
    · right
      refine ⟨fun ok => selected (ok _ (by simp)), .unavailable, .inr ?_⟩
      exact get_failed selected id (effect s)
  | failed applied =>
    right
    refine ⟨fun ok => ?_, .unavailable, ?_⟩
    · rw [ok (.execute query) (by simp)] at reply
      cases reply
    · cases applied with
      | true =>
        rw [call_applied reply]
        exact .inr rfl
      | false =>
        rw [call_lost reply]
        exact .inl rfl

def updates (status : PlayState) (connection : Bool) : List Call :=
  context (.update status) connection ++ [Call.execute (.update status), .get (.update status)]

theorem update_attempts (id : Nat) (status : PlayState) (connection : Bool) (s : Services) :
    Attempts (Play.update replies id status connection s)
      (Succeeds replies (updates status connection))
      ((s.setStatus id status connection).table id) s (s.setStatus id status connection) := by
  have attempts := @enterContext_attempts replies _ (.update status) connection _ _ _ _ _
    (@statement_attempts replies (.update status)
      (fun s => s.setStatus id status connection) id s)
  rw [← succeeds_append] at attempts
  exact attempts

def saves : List Call := context .save false ++ [Call.execute .save, .get .save]

theorem save_attempts (play : Play) (s : Services) :
    Attempts (Play.save replies play s) (Succeeds replies saves)
      ((s.insert play).table s.insertId) s (s.insert play) := by
  have body : (do
      let insertId ← insert replies play
      Play.get replies .save insertId true : ServiceM (Option Play)) s =
      (do
        call replies (.execute .save) fun s => s.insert play
        Play.get replies .save s.insertId true : ServiceM (Option Play)) s := by
    simp only [insert, bind_run, get_run]
    cases call replies (.execute .save) (fun s => s.insert play) s <;> rfl
  have attempts : Attempts
      ((do
        let insertId ← insert replies play
        Play.get replies .save insertId true : ServiceM (Option Play)) s)
      (Succeeds replies [.execute .save, .get .save]) ((s.insert play).table s.insertId) s
      (s.insert play) := by
    rw [body]
    exact @statement_attempts replies .save (fun s => s.insert play) s.insertId s
  have entered := @enterContext_attempts replies _ .save false _ _ _ _ _ attempts
  rw [← succeeds_append] at entered
  exact entered

def applied (replies : Replies) : List Command → List Command
  | [] => []
  | command :: rest =>
    match replies (.channel command) with
    | .ok => command :: applied replies rest
    | .failed true => [command]
    | .failed false => []

def Services.perform (s : Services) (commands : List Command) : Services :=
  { s with broker := commands.foldl Command.perform s.broker }

variable (commands : List Command)

def channelCalls : List Call := commands.map Call.channel

theorem applied_subset : applied replies commands ⊆ commands := by
  induction commands with
  | nil => exact List.Subset.refl _
  | cons command rest ih =>
    rw [applied]
    split
    · exact cons_subset_cons command ih
    · exact cons_subset_cons command (nil_subset rest)
    · exact nil_subset _

theorem applied_eq_self {commands : List Command}
    (ok : Succeeds replies (channelCalls commands)) : applied replies commands = commands := by
  induction commands with
  | nil => rfl
  | cons command rest ih =>
    obtain ⟨now, later⟩ := succeeds_cons.mp ok
    rw [applied, now]
    dsimp only
    rw [ih later]

variable (s : Services)

theorem issue_run : issue replies commands s =
      if Succeeds replies (channelCalls commands) then .ok () (s.perform commands)
      else .error .unavailable (s.perform (applied replies commands)) := by
  induction commands generalizing s with
  | nil =>
    have none' : Succeeds replies (channelCalls []) := succeeds_nil
    rw [if_pos none']
    rfl
  | cons command rest ih =>
    rw [issue, bind_run]
    cases reply : replies (.channel command) with
    | ok =>
      rw [call_ok reply]
      dsimp only
      rw [ih]
      by_cases later : Succeeds replies (channelCalls rest)
      · have all : Succeeds replies (channelCalls (command :: rest)) :=
          succeeds_cons.mpr ⟨reply, later⟩
        rw [if_pos later, if_pos all]
        rfl
      · have some' : ¬Succeeds replies (channelCalls (command :: rest)) :=
          fun all => later (succeeds_cons.mp all).2
        rw [if_neg later, if_neg some', applied, reply]
        rfl
    | failed made =>
      have some' : ¬Succeeds replies (channelCalls (command :: rest)) := by
        intro all
        rw [(succeeds_cons.mp all).1] at reply
        cases reply
      rw [if_neg some', applied, reply]
      cases made with
      | true =>
        rw [call_applied reply]
        rfl
      | false =>
        rw [call_lost reply]
        rfl

/-- The write status comes to be set. -/
def SetsPlaying (replies : Replies) (playId : Nat) : Prop :=
  Succeeds replies (channelCalls (prepare playId) ++ [Call.getConnection .setPlaying]) ∧
    replies (.execute .setPlaying) ≠ .failed false

instance (replies : Replies) (playId : Nat) : Decidable (SetsPlaying replies playId) :=
  inferInstanceAs (Decidable (_ ∧ _))

def Services.playing (s : Services) (playId : Nat) : Services :=
  { s.perform (prepare playId) with
    playlogs := Function.update s.playlogs playId (some .playing) }

theorem prepare_sets {playId : Nat} (sets : SetsPlaying replies playId) (s : Services) :
    preparePublishPlaylog replies playId s =
      if replies (.execute .setPlaying) = .ok then .ok () (s.playing playId)
      else .error .unavailable (s.playing playId) := by
  obtain ⟨calls, made⟩ := sets
  obtain ⟨issued, connected⟩ := succeeds_append.mp calls
  rw [preparePublishPlaylog, bind_run, issue_run, if_pos issued]
  dsimp only
  rw [setPlaying, bind_run, ask_ok (succeeds_cons.mp connected).1]
  dsimp only
  cases reply : replies (.execute .setPlaying) with
  | ok =>
    rw [call_ok reply, if_pos rfl]
    rfl
  | failed applied =>
    rw [if_neg (by simp)]
    cases applied with
    | true =>
      rw [call_applied reply]
      rfl
    | false => exact absurd reply made

theorem prepare_fails {playId : Nat} (fails : ¬SetsPlaying replies playId) (s : Services) :
    preparePublishPlaylog replies playId s =
      .error .unavailable (s.perform (applied replies (prepare playId))) := by
  rw [preparePublishPlaylog, bind_run, issue_run]
  by_cases issued : Succeeds replies (channelCalls (prepare playId))
  · rw [if_pos issued, applied_eq_self issued]
    dsimp only
    rw [setPlaying, bind_run]
    by_cases connected : replies (.getConnection .setPlaying) = .ok
    · rw [ask_ok connected]
      dsimp only
      have lost : replies (.execute .setPlaying) = .failed false := by
        by_contra made
        refine fails ⟨succeeds_append.mpr ⟨issued, ?_⟩, made⟩
        exact succeeds_cons.mpr ⟨connected, succeeds_nil⟩
      rw [call_lost lost]
    · rw [ask_failed connected]
  · rw [if_neg issued]

def SetsClosing (replies : Replies) (playId : Nat) : Prop :=
  Succeeds replies (channelCalls (cleanup playId) ++ [Call.getConnection .setClosing]) ∧
    replies (.execute .setClosing) ≠ .failed false

instance (replies : Replies) (playId : Nat) : Decidable (SetsClosing replies playId) :=
  inferInstanceAs (Decidable (_ ∧ _))

def Services.closing (s : Services) (playId : Nat) : Services :=
  { s.perform (cleanup playId) with
    playlogs := Function.update s.playlogs playId ((s.playlogs playId).map fun _ => .closing) }

def Services.cleaned (replies : Replies) (s : Services) (playId : Nat) : Services :=
  if SetsClosing replies playId then s.closing playId
  else s.perform (applied replies (cleanup playId))

theorem cleanup_leaves (playId : Nat) (s : Services) :
    stateOf (cleanupPublishPlaylog replies playId s) = s.cleaned replies playId := by
  rw [cleanupPublishPlaylog, bind_run, issue_run, Services.cleaned]
  by_cases issued : Succeeds replies (channelCalls (cleanup playId))
  · rw [if_pos issued, applied_eq_self issued]
    dsimp only
    rw [setClosing, bind_run]
    by_cases connected : replies (.getConnection .setClosing) = .ok
    · rw [ask_ok connected]
      dsimp only
      have calls : Succeeds replies
          (channelCalls (cleanup playId) ++ [Call.getConnection .setClosing]) :=
        succeeds_append.mpr ⟨issued, succeeds_cons.mpr ⟨connected, succeeds_nil⟩⟩
      cases reply : replies (.execute .setClosing) with
      | ok =>
        rw [call_ok reply, if_pos ⟨calls, by simp [reply]⟩]
        rfl
      | failed applied =>
        cases applied with
        | true =>
          rw [call_applied reply, if_pos ⟨calls, by simp [reply]⟩]
          rfl
        | false =>
          rw [call_lost reply, if_neg fun sets => sets.2 reply]
          rfl
    · rw [ask_failed connected, if_neg]
      · rfl
      · intro sets
        exact connected (succeeds_cons.mp (succeeds_append.mp sets.1).2).1
  · rw [if_neg issued, if_neg fun sets => issued (succeeds_append.mp sets.1).1]
    rfl

def Services.begin : Services := { s with uncommitted := some s.plays }

def Services.committed : Services :=
  { s with plays := s.uncommitted.getD s.plays, uncommitted := none }

def Services.rolledBack : Services := { s with uncommitted := none }

def transactionReplies (replies : Replies) : Transactions.Replies where
  getConnection := replies (.getConnection .transaction)
  beginTransaction := replies .beginTransaction
  commit := replies .commit
  rollback := replies .rollback
  release := replies (.release .transaction)

def transactionEffects : Transactions.Effects Services :=
  ⟨Services.begin, Services.committed, Services.rolledBack⟩

theorem transaction_eq {α : Type} (m : ServiceM α) :
    transaction replies m =
      Transactions.transaction (transactionReplies replies) transactionEffects m := rfl

theorem succeeds_pair {c c' : Call} :
    Succeeds replies [c, c'] ↔ replies c = .ok ∧ replies c' = .ok := by
  rw [succeeds_cons, succeeds_cons, and_iff_left succeeds_nil]

theorem transaction_run {α : Type} (m : ServiceM α) (s : Services)
    (opens : Succeeds replies [.getConnection .transaction, .beginTransaction]) :
    transaction replies m s =
      match m s.begin with
      | .error error s' => .error error s'.rolledBack
      | .ok a s' =>
        if replies .commit = .failed false then .error .unavailable s'.rolledBack
        else if Succeeds replies [.commit, .release .transaction] then .ok a s'.committed
        else .error .unavailable s'.committed := by
  obtain ⟨connected, begun⟩ := succeeds_pair.mp opens
  have run := @Transactions.transaction_run _ _ (transactionReplies replies) transactionEffects
    connected begun m s
  rw [transaction_eq, run]
  have begins : transactionEffects.begins s = s.begin := rfl
  rw [begins]
  cases m s.begin with
  | error error s' => rfl
  | ok a s' =>
    dsimp only
    apply if_congr Iff.rfl rfl
    exact if_congr succeeds_pair.symm rfl rfl

theorem transaction_closed {α : Type} (m : ServiceM α) {s : Services}
    (settled : s.uncommitted = none)
    (fails : ¬Succeeds replies [.getConnection .transaction, .beginTransaction]) :
    transaction replies m s = .error .unavailable s := by
  have same : s.rolledBack = s := by
    rw [Services.rolledBack, ← settled]
  rw [succeeds_pair] at fails
  rw [transaction_eq]
  exact Transactions.transaction_closed fails m same same

end AkashicSystem.SystemApiServer
