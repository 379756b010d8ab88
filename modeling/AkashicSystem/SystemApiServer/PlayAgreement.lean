import AkashicSystem.SystemApiServer.PlayOperations

/-!
# Whether the tables and the exchanges agree

A play that runs has the write status `playing` and its exchanges.  An operation that
fails after it has changed one of them, before the status is committed, leaves them
apart, and so does a suspension whose clean-up fails at once.
-/

set_option autoImplicit false

namespace AkashicSystem.SystemApiServer

open AkashicSystem.Js AkashicSystem.Js.Computation Function List
open AkashicSystem.Playlog (WriteStatus)
open AkashicSystem.Playlog.DeadLetters (tickDlxName startPointDlxName)

/-- The write status of the play is `playing` and its exchanges exist. -/
def Written (s : Services) (id : Nat) : Prop :=
  s.playlogs id = some .playing ∧ ∀ exchange ∈ exchangeNames id, exchange ∈ s.broker.exchanges

/-- The play runs exactly if its playlog is written. -/
def Agrees (s : Services) (id : Nat) : Prop :=
  (s.plays id).map Play.status = some .running ↔ Written s id

structure Unchanged (before after : Services) : Prop where
  plays : ∀ id play, before.plays id = some play → after.plays id = some play
  playlogs : after.playlogs = before.playlogs

structure Agreement (server : Server) : Prop where
  agrees : ∀ id, Agrees server.services id
  unchanged : ∀ before, server.rejected = some before → Unchanged before server.services

variable (replies : Replies)

/-- Once the write status is set, nothing fails. -/
def Starts (playId : Nat) : Prop :=
  SetsPlaying replies playId → Succeeds replies (.execute .setPlaying :: updates .running false)

/-- Once the write status is set, nothing fails; and where it has been left `playing`, the
set-up does not fail with all the exchanges there. -/
def Resumes (s : Services) (replies : Replies) (playId : Nat) : Prop :=
  if SetsPlaying replies playId then Succeeds replies (.execute .setPlaying :: commits .running)
  else s.playlogs playId = some .playing → ∃ exchange ∈ exchangeNames playId,
    exchange ∉ s.broker.exchanges ∧
      Command.assertExchange exchange ∉ applied replies (prepare playId)

def Touches (playId : Nat) : Prop :=
  replies (.channel .getChannel) = .ok ∧
    replies (.channel (.deleteExchange (tickStoreExchangeName playId))) ≠ .failed false

/-- The first exchange is deleted if nothing fails in the transaction, and only then; if
something does, the status is not committed. -/
def Suspends (playId : Nat) : Prop :=
  if Succeeds replies (commits .suspending) then Touches replies playId
  else ¬Touches replies playId ∧
    ¬(Succeeds replies (updates .suspending true) ∧ replies .commit ≠ .failed false)

/-- What is asked of an operation that comes to start or stop a play. -/
def Permitted (server : Server) : Operation × Replies → Prop
  | (.createNewPlay _, replies) =>
    Succeeds replies saves → Starts replies server.services.insertId
  | (.createDerivedPlayById parentId, replies) =>
    Succeeds replies (context .getParent false ++ [Call.get .getParent] ++ derives) →
      ∀ parent ∈ server.services.plays parentId,
        parent.status = .running ∨ parent.status = .suspending →
          Starts replies server.services.insertId
  | (.createDerivedPlayByData _, replies) =>
    Succeeds replies derives → Starts replies server.services.insertId
  | (.updatePlay id state, replies) =>
    Locks replies → ∀ play ∈ server.services.plays id,
      (state = PlayState.running.constant → play.status = .suspending →
        Resumes server.services replies id) ∧
      (state = PlayState.suspending.constant → play.status = .running →
        Suspends replies id)

def exchangePrefixes : List String :=
  [tickBroadcastExchangeNamePrefix, tickStoreExchangeNamePrefix,
    startPointStoreExchangeNamePrefix, eventExchangeNamePrefix]

theorem exchangeNames_eq (id : Nat) :
    exchangeNames id = exchangePrefixes.map fun start => start ++ id.repr := rfl

theorem digits_inj {id id' : Nat} (same : id.repr.toList = id'.repr.toList) : id = id' := by
  rw [Nat.toList_repr, Nat.toList_repr] at same
  have value := congrArg (fun digits => Nat.ofDigitChars 10 digits 0) same
  simpa using value

theorem exchangePrefixes_apart : ∀ start ∈ exchangePrefixes, ∀ start' ∈ exchangePrefixes,
    start.toList <+: start'.toList → start = start' := by
  decide

theorem exchangeNames_apart {id id' : Nat} {exchange : String}
    (there : exchange ∈ exchangeNames id) (there' : exchange ∈ exchangeNames id') : id = id' := by
  rw [exchangeNames_eq] at there there'
  obtain ⟨start, known, rfl⟩ := mem_map.mp there
  obtain ⟨start', known', same⟩ := mem_map.mp there'
  have letters := congrArg String.toList same
  rw [String.toList_append, String.toList_append] at letters
  have begins : start.toList <+: start.toList ++ id.repr.toList := prefix_append ..
  have begins' : start'.toList <+: start.toList ++ id.repr.toList := ⟨_, letters⟩
  have equal : start = start' := by
    rcases prefix_or_prefix_of_prefix begins begins' with first | first
    · exact exchangePrefixes_apart start known start' known' first
    · exact (exchangePrefixes_apart start' known' start known first).symm
  subst equal
  exact (digits_inj (append_cancel_left letters)).symm

theorem dlx_not_mem (id : Nat) :
    tickDlxName ∉ exchangeNames id ∧ startPointDlxName ∉ exchangeNames id := by
  have none' : ∀ start ∈ exchangePrefixes,
      ¬start.toList <+: tickDlxName.toList ∧ ¬start.toList <+: startPointDlxName.toList := by
    decide
  rw [exchangeNames_eq]
  constructor
  · intro there
    obtain ⟨start, known, same⟩ := mem_map.mp there
    refine (none' start known).1 ⟨id.repr.toList, ?_⟩
    rw [← same, String.toList_append]
  · intro there
    obtain ⟨start, known, same⟩ := mem_map.mp there
    refine (none' start known).2 ⟨id.repr.toList, ?_⟩
    rw [← same, String.toList_append]

theorem mem_perform_asserts {exchange : String} {commands : List Command}
    (asserts : ∀ other, Command.deleteExchange other ∉ commands) (s : Services) :
    exchange ∈ (s.perform commands).broker.exchanges ↔
      exchange ∈ s.broker.exchanges ∨ Command.assertExchange exchange ∈ commands := by
  unfold Services.perform
  dsimp only
  generalize s.broker = b
  induction commands generalizing b with
  | nil => simp
  | cons command rest ih =>
    have later : ∀ other, Command.deleteExchange other ∉ rest :=
      fun other there => asserts other (mem_cons_of_mem _ there)
    rw [foldl_cons, ih later]
    cases command with
    | assertExchange other =>
      show exchange ∈ b.exchanges.insert other ∨ _ ↔ _
      rw [mem_insert_iff, mem_cons, Command.assertExchange.injEq]
      tauto
    | deleteExchange other => exact absurd mem_cons_self (asserts other)
    | _ => simp [Command.perform]

theorem mem_perform_deletes {exchange : String} {commands : List Command}
    (deletes : ∀ other, Command.assertExchange other ∉ commands) (s : Services) :
    exchange ∈ (s.perform commands).broker.exchanges ↔
      exchange ∈ s.broker.exchanges ∧ Command.deleteExchange exchange ∉ commands := by
  unfold Services.perform
  dsimp only
  generalize s.broker = b
  induction commands generalizing b with
  | nil => simp
  | cons command rest ih =>
    have later : ∀ other, Command.assertExchange other ∉ rest :=
      fun other there => deletes other (mem_cons_of_mem _ there)
    rw [foldl_cons, ih later]
    cases command with
    | deleteExchange other =>
      show exchange ∈ b.exchanges.filter (fun other' => other' ≠ other) ∧ _ ↔ _
      rw [mem_filter, decide_eq_true_eq, mem_cons, Command.deleteExchange.injEq]
      tauto
    | assertExchange other => exact absurd mem_cons_self (deletes other)
    | _ => simp [Command.perform]

theorem prepare_asserts (id : Nat) (exchange : String) :
    Command.deleteExchange exchange ∉ prepare id := by
  simp [prepare, prepareDlx, prepareStoreQueue]

theorem mem_prepare_iff {id : Nat} {exchange : String} :
    Command.assertExchange exchange ∈ prepare id ↔
      exchange = tickDlxName ∨ exchange = startPointDlxName ∨ exchange ∈ exchangeNames id := by
  simp [prepare, prepareDlx, prepareStoreQueue, exchangeNames]

theorem cleanup_deletes (id : Nat) (exchange : String) :
    Command.assertExchange exchange ∉ cleanup id := by
  simp [cleanup]

theorem mem_cleanup_iff {id : Nat} {exchange : String} :
    Command.deleteExchange exchange ∈ cleanup id ↔ exchange ∈ exchangeNames id := by
  simp only [cleanup, exchangeNames, mem_cons, Command.deleteExchange.injEq, reduceCtorEq,
    false_or, not_mem_nil, or_false]
  tauto

variable {s : Services}

theorem updated_plays {id : Nat} {play : Play} (found : s.plays id = some play)
    (status : PlayState) : (s.updated id status).plays =
      update s.plays id (some { play with status := status }) := by
  show withStatus s.plays id status = _
  rw [withStatus, found]
  rfl

theorem agrees_of_same {s s' : Services} {id : Nat} (plays : s'.plays id = s.plays id)
    (playlogs : s'.playlogs id = s.playlogs id) (exchanges : ∀ exchange ∈ exchangeNames id,
      exchange ∈ s'.broker.exchanges ↔ exchange ∈ s.broker.exchanges) :
    Agrees s' id ↔ Agrees s id := by
  unfold Agrees Written
  rw [plays, playlogs]
  apply iff_congr Iff.rfl
  apply and_congr_right
  intro _
  exact forall₂_congr exchanges

variable {id other : Nat}

theorem mem_perform_prepare (ne : other ≠ id)
    {commands : List Command} (part : commands ⊆ prepare id) {exchange : String}
    (named : exchange ∈ exchangeNames other) :
    exchange ∈ (s.perform commands).broker.exchanges ↔ exchange ∈ s.broker.exchanges := by
  rw [mem_perform_asserts fun exchange there => prepare_asserts id exchange (part there)]
  apply or_iff_left
  intro there
  rcases mem_prepare_iff.mp (part there) with rfl | rfl | named'
  · exact (dlx_not_mem other).1 named
  · exact (dlx_not_mem other).2 named
  · exact ne (exchangeNames_apart named named')

theorem mem_perform_cleanup (ne : other ≠ id)
    {commands : List Command} (part : commands ⊆ cleanup id) {exchange : String}
    (named : exchange ∈ exchangeNames other) :
    exchange ∈ (s.perform commands).broker.exchanges ↔ exchange ∈ s.broker.exchanges := by
  rw [mem_perform_deletes fun exchange there => cleanup_deletes id exchange (part there)]
  apply and_iff_left
  intro there
  exact ne (exchangeNames_apart named (mem_cleanup_iff.mp (part there)))

theorem written_playing (s : Services) (id : Nat) : Written (s.playing id) id := by
  refine ⟨update_self .., fun exchange named => ?_⟩
  have made : exchange ∈ (s.perform (prepare id)).broker.exchanges := by
    rw [mem_perform_asserts (prepare_asserts id)]
    exact .inr (mem_prepare_iff.mpr (.inr (.inr named)))
  exact made

theorem agrees_playing_of_ne (ne : other ≠ id) :
    Agrees (s.playing id) other ↔ Agrees s other := by
  apply @agrees_of_same s (s.playing id) other rfl (update_of_ne ne ..)
  intro exchange named
  have same : exchange ∈ (s.perform (prepare id)).broker.exchanges ↔ _ :=
    mem_perform_prepare ne (List.Subset.refl _) named
  exact same

theorem agrees_updated_of_ne (ne : other ≠ id)
    (status : PlayState) : Agrees (s.updated id status) other ↔ Agrees s other := by
  refine agrees_of_same ?_ rfl fun _ _ => Iff.rfl
  exact update_of_ne ne ..

theorem agrees_resumed {id : Nat} {play : Play} (found : s.plays id = some play)
    (agrees : ∀ other, Agrees s other) (other : Nat) :
    Agrees ((s.playing id).updated id .running) other := by
  by_cases same : other = id
  · subst same
    have rows := updated_plays (show (s.playing other).plays other = some play from found) .running
    refine iff_of_true ?_ (written_playing s other)
    rw [rows, update_self]
    rfl
  · rw [agrees_updated_of_ne same, agrees_playing_of_ne same]
    exact agrees other

theorem agrees_of_stopped {id : Nat}
    (stopped : (s.plays id).map Play.status ≠ some .running)
    (playlogs : s.playlogs id ≠ some .playing) : Agrees s id :=
  iff_of_false stopped fun written => playlogs written.1

variable {replies : Replies}

theorem touches_of_setsClosing {id : Nat} (sets : SetsClosing replies id) :
    Touches replies id := by
  have calls := (succeeds_append.mp sets.1).1
  refine ⟨calls _ (by simp [channelCalls, cleanup]), ?_⟩
  rw [calls _ (by simp [channelCalls, cleanup])]
  intro failed
  cases failed

/-- The play is cleaned up exactly if its first exchange is deleted. -/
theorem written_cleaned_iff {s : Services} {id : Nat}
    (written : Written s id) : Written (s.cleaned replies id) id ↔ ¬Touches replies id := by
  unfold Services.cleaned
  by_cases sets : SetsClosing replies id
  · rw [if_pos sets]
    refine iff_of_false ?_ ?_
    · intro still
      have closing : (s.closing id).playlogs id = some .closing := by
        show update s.playlogs id _ id = _
        rw [update_self, written.1]
        rfl
      have playing := still.1
      rw [closing] at playing
      cases playing
    · exact fun untouched => untouched (touches_of_setsClosing sets)
  · rw [if_neg sets]
    have asserts : ∀ other, Command.assertExchange other ∉ applied replies (cleanup id) :=
      fun other there => cleanup_deletes id other (applied_subset _ there)
    have still : Written (s.perform (applied replies (cleanup id))) id ↔
        ∀ exchange ∈ exchangeNames id,
          Command.deleteExchange exchange ∉ applied replies (cleanup id) := by
      apply (and_iff_right written.1).trans
      apply forall₂_congr
      intro exchange named
      rw [mem_perform_deletes asserts]
      exact and_iff_right (written.2 exchange named)
    rw [still]
    constructor
    · intro none' touches
      apply none' (tickStoreExchangeName id) (by simp [exchangeNames])
      rw [cleanup, applied, touches.1]
      dsimp only
      rw [applied]
      cases reply : replies (.channel (.deleteExchange (tickStoreExchangeName id))) with
      | ok => simp
      | failed made =>
        cases made with
        | true => simp
        | false => exact absurd reply touches.2
    · intro untouched exchange _ there
      apply untouched
      rw [cleanup, applied] at there
      cases channel : replies (.channel .getChannel) with
      | ok =>
        refine ⟨channel, fun failed => ?_⟩
        rw [channel] at there
        dsimp only at there
        rw [applied, failed] at there
        simp at there
      | failed made =>
        rw [channel] at there
        cases made <;> simp at there

theorem agrees_cleaned_of_ne {s : Services} {id other : Nat}
    (ne : other ≠ id) : Agrees (s.cleaned replies id) other ↔ Agrees s other := by
  unfold Services.cleaned
  by_cases sets : SetsClosing replies id
  · rw [if_pos sets]
    apply @agrees_of_same s (s.closing id) other rfl (update_of_ne ne ..)
    intro exchange named
    have same : exchange ∈ (s.perform (cleanup id)).broker.exchanges ↔ _ :=
      mem_perform_cleanup ne (List.Subset.refl _) named
    exact same
  · rw [if_neg sets]
    apply @agrees_of_same s (s.perform _) other rfl rfl
    intro exchange named
    exact mem_perform_cleanup ne (applied_subset _) named

theorem playlogs_cleaned {s : Services} {id : Nat}
    (untouched : ¬Touches replies id) : (s.cleaned replies id).playlogs = s.playlogs := by
  unfold Services.cleaned
  rw [if_neg]
  · rfl
  · exact fun sets => untouched (touches_of_setsClosing sets)

/-- Between two operations no transaction is open, and the ids to come are not used. -/
structure Tidy (s : Services) : Prop where
  settled : s.uncommitted = none
  fresh : ∀ id, s.insertId ≤ id → s.plays id = none ∧ s.playlogs id = none
  named : ∀ id play, s.plays id = some play → play.id = id

theorem Tidy.lt_insertId (tidy : Tidy s) {id : Nat} {play : Play}
    (found : s.plays id = some play) : id < s.insertId := by
  by_contra later
  have none' := (tidy.fresh id (Nat.le_of_not_lt later)).1
  rw [found] at none'
  cases none'

def outcome (before : Services) : EStateM.Result ApiError Services (Option Play) → Server
  | .ok _ s => ⟨s, none⟩
  | .error _ s => ⟨s, some before⟩

theorem step_eq (server : Server) (action : Operation × Replies) : step server action =
      outcome server.services (run action.2 action.1 server.services) := by
  unfold step
  cases run action.2 action.1 server.services <;> rfl

theorem agreement_ok_iff {before s : Services} {play : Option Play} :
    Agreement (outcome before (.ok play s)) ↔ ∀ id, Agrees s id := by
  constructor
  · exact Agreement.agrees
  · intro agrees
    refine ⟨agrees, ?_⟩
    intro before' rejected
    cases rejected

theorem agreement_error_iff {before s : Services} {error : ApiError} :
    Agreement (outcome before (.error error s)) ↔ (∀ id, Agrees s id) ∧ Unchanged before s := by
  constructor
  · intro agreement
    exact ⟨agreement.agrees, agreement.unchanged before rfl⟩
  · rintro ⟨agrees, unchanged⟩
    refine ⟨agrees, ?_⟩
    intro before' rejected
    cases rejected
    exact unchanged

theorem unchanged_refl (s : Services) : Unchanged s s := ⟨fun _ _ found => found, rfl⟩

section Operations

variable {replies : Replies} {s s' : Services}

theorem Created.agrees (created : Created s s') (tidy : Tidy s) (agrees : ∀ id, Agrees s id)
    (id : Nat) : Agrees s' id := by
  obtain ⟨play, -, stopped, rows⟩ := created.plays
  by_cases same : id = s.insertId
  · subst same
    apply agrees_of_stopped
    · rw [rows, update_self]
      exact fun runs => stopped (Option.some.inj runs)
    · rw [created.playlogs, (tidy.fresh _ (Nat.le_refl _)).2]
      intro playing
      cases playing
  · apply (@agrees_of_same s s' id ?_ ?_ ?_).mpr (agrees id)
    · rw [rows, update_of_ne same]
    · rw [created.playlogs]
    · intro exchange _
      rw [created.broker]

theorem Created.unchanged (created : Created s s') (tidy : Tidy s) : Unchanged s s' where
  plays id play found := by
    obtain ⟨play', -, -, rows⟩ := created.plays
    rw [rows, update_of_ne (Nat.ne_of_lt (tidy.lt_insertId found)), found]
  playlogs := created.playlogs

theorem Created.tidy (created : Created s s') (tidy : Tidy s) : Tidy s' := by
  obtain ⟨play, named, -, rows⟩ := created.plays
  refine ⟨created.uncommitted, ?_, ?_⟩
  · intro id later
    rw [created.insertId] at later
    rw [rows, created.playlogs, update_of_ne (by omega)]
    exact tidy.fresh id (by omega)
  · intro id play' found
    rw [rows] at found
    by_cases same : id = s.insertId
    · rw [same, update_self] at found
      cases found
      rw [named, same]
    · rw [update_of_ne same] at found
      exact tidy.named id play' found

theorem Tidy.updated {id : Nat} (tidy : Tidy s) (status : PlayState) :
    Tidy (s.updated id status) := by
  have rows (other : Nat) : (s.updated id status).plays other = s.plays other ∨
      (other = id ∧ (s.updated id status).plays other =
        (s.plays other).map fun play => { play with status := status }) := by
    by_cases same : other = id
    · subst same
      exact .inr ⟨rfl, update_self ..⟩
    · exact .inl (update_of_ne same ..)
  refine ⟨tidy.settled, ?_, ?_⟩
  · intro other later
    refine ⟨?_, (tidy.fresh other later).2⟩
    have none' := (tidy.fresh other later).1
    rcases rows other with same | ⟨-, same⟩ <;> rw [same, none']
    rfl
  · intro other play found
    rcases rows other with same | ⟨-, same⟩
    · rw [same] at found
      exact tidy.named other play found
    · rw [same] at found
      obtain ⟨old, there, rfl⟩ := Option.map_eq_some_iff.mp found
      exact tidy.named other old there

theorem Tidy.written {id : Nat} {play : Play} (tidy : Tidy s) (found : s.plays id = some play)
    (status : Option WriteStatus) (b : PlaylogExchanges) :
    Tidy { s with playlogs := update s.playlogs id status, broker := b } where
  settled := tidy.settled
  fresh other later := by
    have ne : other ≠ id := by
      have before := tidy.lt_insertId found
      have later' : s.insertId ≤ other := later
      omega
    refine ⟨(tidy.fresh other later).1, ?_⟩
    show update s.playlogs id status other = none
    rw [update_of_ne ne]
    exact (tidy.fresh other later).2
  named := tidy.named

/-- The states that the operations are compared in. -/
def Settles (before : Services) (result : EStateM.Result ApiError Services (Option Play))
    (permitted : Prop) : Prop :=
  Tidy (outcome before result).services ∧
    ((∀ id, Agrees before id) → (Agreement (outcome before result) ↔ permitted))

theorem settles_refl (tidy : Tidy s) (error : ApiError) {permitted : Prop}
    (granted : permitted) : Settles s (.error error s) permitted := by
  refine ⟨tidy, fun agrees => ?_⟩
  rw [agreement_error_iff]
  exact iff_of_true ⟨agrees, unchanged_refl s⟩ granted

theorem settles_created (tidy : Tidy s) (created : s' = s ∨ Created s s') (error : ApiError)
    {permitted : Prop} (granted : permitted) : Settles s (.error error s') permitted := by
  rcases created with rfl | created
  · exact settles_refl tidy error granted
  · refine ⟨created.tidy tidy, fun agrees => ?_⟩
    rw [agreement_error_iff]
    exact iff_of_true ⟨created.agrees tidy agrees, created.unchanged tidy⟩ granted

theorem settles_startPlay (tidy : Tidy s) (created : Created s s') {play : Play}
    (named : play.id = s.insertId) :
    Settles s (startPlay replies (some play) false s') (Starts replies s.insertId) := by
  have tidy' := created.tidy tidy
  obtain ⟨row, -, stopped, rows⟩ := created.plays
  have found : s'.plays s.insertId = some row := by rw [rows, update_self]
  have fresh : s'.playlogs s.insertId = none := by
    rw [created.playlogs]
    exact (tidy.fresh _ (Nat.le_refl _)).2
  by_cases sets : SetsPlaying replies s.insertId
  · have tidyPlaying : Tidy (s'.playing s.insertId) := tidy'.written found _ _
    -- the write status has been set, where there was none
    have altered (error : ApiError) {s'' : Services}
        (playlogs : s''.playlogs = (s'.playing s.insertId).playlogs) :
        ¬Agreement (outcome s (.error error s'')) := by
      rw [agreement_error_iff]
      rintro ⟨-, unchanged⟩
      have same := congrFun unchanged.playlogs s.insertId
      rw [playlogs, (written_playing s' s.insertId).1, ← created.playlogs, fresh] at same
      cases same
    have attempts := @startPlay_sets replies play (named ▸ sets) false s'
    rw [named] at attempts
    rcases attempts with ⟨ok, run⟩ | ⟨failed, error, run | run⟩
    · rw [run]
      refine ⟨tidyPlaying.updated .running, fun agrees => ?_⟩
      rw [agreement_ok_iff]
      exact iff_of_true (agrees_resumed found (created.agrees tidy agrees)) fun _ => ok
    · rw [run]
      refine ⟨tidyPlaying, fun _ => ?_⟩
      exact iff_of_false (altered error rfl) fun starts => failed (starts sets)
    · rw [run]
      refine ⟨tidyPlaying.updated .running, fun _ => ?_⟩
      exact iff_of_false (altered error rfl) fun starts => failed (starts sets)
  · have run := @startPlay_fails replies play (named ▸ sets) false s'
    rw [run, named]
    refine ⟨⟨tidy'.settled, tidy'.fresh, tidy'.named⟩, fun agrees => ?_⟩
    rw [agreement_error_iff]
    have before := created.agrees tidy agrees
    have unchanged := created.unchanged tidy
    refine iff_of_true ⟨fun id => ?_, unchanged.plays, unchanged.playlogs⟩
      fun starts => absurd starts sets
    by_cases same : id = s.insertId
    · subst same
      apply agrees_of_stopped
      · show (s'.plays s.insertId).map Play.status ≠ _
        rw [found]
        exact fun runs => stopped (Option.some.inj runs)
      · show s'.playlogs s.insertId ≠ _
        rw [fresh]
        intro playing
        cases playing
    · apply (@agrees_of_same s' (s'.perform _) id rfl rfl ?_).mpr (before id)
      intro exchange inNames
      exact mem_perform_prepare same (applied_subset _) inNames

theorem rolledBack_of_settled (settled : s.uncommitted = none) : s.rolledBack = s := by
  rw [Services.rolledBack, ← settled]

theorem playing_plays (s : Services) (id : Nat) : (s.playing id).plays = s.plays := rfl

theorem not_unchanged_updated {before : Services} {id : Nat} {play : Play}
    (found : before.plays id = some play) (same : s.plays = before.plays) {status : PlayState}
    (other : play.status ≠ status) : ¬Unchanged before (s.updated id status) := by
  intro unchanged
  have row := unchanged.plays id play found
  have found' : s.plays id = some play := by rw [same, found]
  rw [updated_plays found', update_self] at row
  exact other (congrArg Play.status (Option.some.inj row)).symm

theorem settles_resume (tidy : Tidy s) (locks : Locks replies) {id : Nat} {play : Play}
    (found : s.plays id = some play) (suspending : play.status = .suspending) :
    Settles s (updatePlay replies id PlayState.running.constant s) (Resumes s replies id) := by
  have named := tidy.named id play found
  have stopped : (s.plays id).map Play.status ≠ some .running := by
    rw [found]
    intro runs
    rw [Option.map_some, suspending] at runs
    cases runs
  by_cases sets : SetsPlaying replies id
  · rw [Resumes, if_pos sets]
    have tidyPlaying : Tidy (s.playing id) := tidy.written found _ _
    obtain ⟨a, attempts⟩ := resume_sets locks found suspending (named.symm ▸ sets)
    rw [named, rolledBack_of_settled tidyPlaying.settled] at attempts
    rcases attempts with ⟨ok, run⟩ | ⟨failed, error, run | run⟩
    · rw [run]
      refine ⟨tidyPlaying.updated .running, fun agrees => ?_⟩
      rw [agreement_ok_iff]
      exact iff_of_true (agrees_resumed found agrees) ok
    · rw [run]
      refine ⟨tidyPlaying, fun _ => ?_⟩
      rw [agreement_error_iff]
      refine iff_of_false ?_ failed
      rintro ⟨agrees, -⟩
      have runs := (agrees id).mpr (written_playing s id)
      rw [playing_plays] at runs
      exact stopped runs
    · rw [run]
      refine ⟨tidyPlaying.updated .running, fun _ => ?_⟩
      rw [agreement_error_iff]
      refine iff_of_false ?_ failed
      rintro ⟨-, unchanged⟩
      refine not_unchanged_updated found (playing_plays s id) ?_ unchanged
      rw [suspending]
      decide
  · have tidy' : Tidy (s.perform (applied replies (prepare id))) :=
      ⟨tidy.settled, tidy.fresh, tidy.named⟩
    rw [Resumes, if_neg sets, resume_fails locks found suspending (named.symm ▸ sets), named,
      rolledBack_of_settled tidy'.settled]
    refine ⟨tidy', fun agrees => ?_⟩
    have asserts : ∀ other, Command.deleteExchange other ∉ applied replies (prepare id) :=
      fun other there => prepare_asserts id other (applied_subset _ there)
    have missing : Agrees (s.perform (applied replies (prepare id))) id ↔
        (s.playlogs id = some .playing → ∃ exchange ∈ exchangeNames id,
          exchange ∉ s.broker.exchanges ∧
            Command.assertExchange exchange ∉ applied replies (prepare id)) := by
      have written : Written (s.perform (applied replies (prepare id))) id ↔
          s.playlogs id = some .playing ∧ ∀ exchange ∈ exchangeNames id,
            exchange ∈ s.broker.exchanges ∨
              Command.assertExchange exchange ∈ applied replies (prepare id) :=
        and_congr_right fun _ => forall₂_congr fun exchange _ => mem_perform_asserts asserts s
      apply (iff_false_left (show ¬((s.perform _).plays id).map Play.status = _ from
        stopped)).trans
      rw [written]
      simp only [not_and, not_forall, not_or, exists_prop]
    rw [agreement_error_iff, ← missing]
    constructor
    · exact fun agreement => agreement.1 id
    · intro own
      refine ⟨fun other => ?_, fun _ _ row => row, rfl⟩
      by_cases same : other = id
      · rw [same]
        exact own
      · apply (@agrees_of_same s (s.perform _) other rfl rfl ?_).mpr (agrees other)
        intro exchange inNames
        exact mem_perform_prepare same (applied_subset _) inNames

theorem cleaned_plays (s : Services) (id : Nat) : (s.cleaned replies id).plays = s.plays := by
  unfold Services.cleaned
  split <;> rfl

theorem Tidy.cleaned (tidy : Tidy s) {id : Nat} {play : Play} (found : s.plays id = some play) :
    Tidy (s.cleaned replies id) := by
  unfold Services.cleaned
  split
  · exact tidy.written found _ _
  · exact ⟨tidy.settled, tidy.fresh, tidy.named⟩

theorem settles_suspend (tidy : Tidy s) (locks : Locks replies) {id : Nat} {play : Play}
    (found : s.plays id = some play) (running : play.status = .running) :
    Settles s (updatePlay replies id PlayState.suspending.constant s) (Suspends replies id) := by
  have named := tidy.named id play found
  have tidy' : Tidy (s.cleaned replies id) := tidy.cleaned found
  have runs : (s.plays id).map Play.status = some .running := by
    rw [found, Option.map_some, running]
  have cases' := suspend_cases locks found running
  rw [named, rolledBack_of_settled tidy'.settled] at cases'
  unfold Suspends
  rcases cases' with ⟨ok, a, run⟩ | ⟨failed, committed, error, run⟩ | ⟨failed, lost, error, run⟩
  · rw [run, if_pos ok]
    refine ⟨tidy'.updated .suspending, fun agrees => ?_⟩
    have written := (agrees id).mp runs
    have stopped : (((s.cleaned replies id).updated id .suspending).plays id).map Play.status ≠
        some .running := by
      have found' : (s.cleaned replies id).plays id = some play := by rw [cleaned_plays, found]
      rw [updated_plays found', update_self]
      intro same
      cases Option.some.inj same
    have own : Agrees ((s.cleaned replies id).updated id .suspending) id ↔
        Touches replies id := by
      apply (iff_false_left stopped).trans
      have still : Written ((s.cleaned replies id).updated id .suspending) id ↔ _ :=
        written_cleaned_iff written
      rw [still, not_not]
    rw [agreement_ok_iff, ← own]
    constructor
    · exact fun all => all id
    · intro agrees' other
      by_cases same : other = id
      · rw [same]
        exact agrees'
      · rw [agrees_updated_of_ne same, agrees_cleaned_of_ne same]
        exact agrees other
  · rw [run, if_neg failed]
    refine ⟨tidy'.updated .suspending, fun _ => ?_⟩
    rw [agreement_error_iff]
    refine iff_of_false ?_ fun permitted => permitted.2 committed
    rintro ⟨-, unchanged⟩
    refine not_unchanged_updated found (cleaned_plays s id) ?_ unchanged
    rw [running]
    decide
  · rw [run, if_neg failed, and_iff_left lost]
    refine ⟨tidy', fun agrees => ?_⟩
    have written := (agrees id).mp runs
    have own : Agrees (s.cleaned replies id) id ↔ ¬Touches replies id := by
      rw [← written_cleaned_iff written]
      apply iff_true_left
      rw [cleaned_plays]
      exact runs
    rw [agreement_error_iff, ← own]
    constructor
    · exact fun agreement => agreement.1 id
    · intro agrees'
      refine ⟨fun other => ?_, ?_, playlogs_cleaned (own.mp agrees')⟩
      · by_cases same : other = id
        · rw [same]
          exact agrees'
        · exact (agrees_cleaned_of_ne same).mpr (agrees other)
      · intro other row there
        rw [cleaned_plays, there]

theorem settles_congr {result : EStateM.Result ApiError Services (Option Play)}
    {permitted permitted' : Prop} (same : permitted' ↔ permitted)
    (settles : Settles s result permitted) : Settles s result permitted' :=
  ⟨settles.1, fun agrees => (settles.2 agrees).trans same.symm⟩

theorem settles_createDerivedPlay (tidy : Tidy s) (gameCode : String) (parentId : Option Nat) :
    Settles s (createDerivedPlay replies gameCode parentId s)
      (Succeeds replies derives → Starts replies s.insertId) := by
  rcases @createDerivedPlay_cases replies s tidy.settled gameCode parentId with
    ⟨ok, play, s', named, created, run⟩ | ⟨failed, error, s', created, run⟩
  · rw [run]
    refine settles_congr ?_ (settles_startPlay tidy created named)
    exact ⟨fun starts => starts ok, fun starts _ => starts⟩
  · rw [run]
    exact settles_created tidy created error fun ok => absurd ok failed

theorem settles_run (server : Server) (tidy : Tidy server.services) (action : Operation × Replies) :
    Settles server.services (run action.2 action.1 server.services) (Permitted server action) := by
  obtain ⟨operation, replies⟩ := action
  cases operation with
  | createNewPlay gameCode =>
    show Settles _ (createNewPlay replies gameCode server.services)
      (Succeeds replies saves → Starts replies server.services.insertId)
    rcases @createNewPlay_cases replies _ tidy.settled gameCode with
      ⟨ok, play, s', named, created, run⟩ | ⟨failed, error, s', created, run⟩
    · rw [run]
      refine settles_congr ?_ (settles_startPlay tidy created named)
      exact ⟨fun starts => starts ok, fun starts _ => starts⟩
    · rw [run]
      exact settles_created tidy created error fun ok => absurd ok failed
  | createDerivedPlayById parentId =>
    show Settles _ (createDerivedPlayById replies parentId server.services)
      (Succeeds replies (context .getParent false ++ [Call.get .getParent] ++ derives) →
        ∀ parent ∈ server.services.plays parentId,
          parent.status = .running ∨ parent.status = .suspending →
            Starts replies server.services.insertId)
    rw [succeeds_append]
    rcases @createDerivedPlayById_cases replies _ tidy.settled parentId with
      ⟨parent, ⟨ok, found, played⟩, run⟩ | ⟨failed, error, run⟩
    · rw [run]
      refine settles_congr ?_ (settles_createDerivedPlay tidy parent.gameCode (some parent.id))
      constructor
      · exact fun starts derived => starts ⟨ok, derived⟩ parent found played
      · exact fun starts both _ _ _ => starts both.2
    · rw [run]
      apply settles_refl tidy
      exact fun both parent there played => absurd ⟨parent, both.1, there, played⟩ failed
  | createDerivedPlayByData gameCode =>
    exact settles_createDerivedPlay tidy gameCode none
  | updatePlay id state =>
    show Settles _ (updatePlay replies id state server.services)
      (Locks replies → ∀ play ∈ server.services.plays id,
        (state = PlayState.running.constant → play.status = .suspending →
          Resumes server.services replies id) ∧
        (state = PlayState.suspending.constant → play.status = .running →
          Suspends replies id))
    by_cases resumes : state = PlayState.running.constant ∧ Locks replies ∧
        ∃ play, server.services.plays id = some play ∧ play.status = .suspending
    · obtain ⟨rfl, locks, play, found, suspending⟩ := resumes
      refine settles_congr ?_ (settles_resume tidy locks found suspending)
      constructor
      · exact fun permitted => (permitted locks play found).1 rfl suspending
      · intro resumed _ play' _
        refine ⟨fun _ _ => resumed, fun same _ => ?_⟩
        exact absurd same (by decide)
    · by_cases suspends : state = PlayState.suspending.constant ∧ Locks replies ∧
          ∃ play, server.services.plays id = some play ∧ play.status = .running
      · obtain ⟨rfl, locks, play, found, running⟩ := suspends
        refine settles_congr ?_ (settles_suspend tidy locks found running)
        constructor
        · exact fun permitted => (permitted locks play found).2 rfl running
        · intro suspended _ play' _
          refine ⟨fun same _ => ?_, fun _ _ => suspended⟩
          exact absurd same (by decide)
      · obtain ⟨error, run⟩ := updatePlay_rejects tidy.settled resumes suspends
        rw [run]
        apply settles_refl tidy
        intro locks play there
        refine ⟨fun same status => ?_, fun same status => ?_⟩
        · exact absurd ⟨same, locks, play, there, status⟩ resumes
        · exact absurd ⟨same, locks, play, there, status⟩ suspends

end Operations

theorem tidy_new : Tidy new.services :=
  ⟨rfl, fun _ _ => ⟨rfl, rfl⟩, fun _ _ found => by cases found⟩

theorem agreement_new : Agreement new := by
  refine ⟨fun id => ?_, ?_⟩
  · exact iff_of_false (fun runs => by cases runs) fun written => by cases written.1
  · intro before rejected
    cases rejected

/-- The tables and the exchanges agree all along, and what rejects leaves them as they were,
exactly if nothing fails between the write status and the status of a play that is started or
stopped. -/
theorem agreement_iff_permitted (actions : List (Operation × Replies)) :
    Run.Allowed step Permitted new actions ↔
      ∀ front, front <+: actions → Agreement (Run.final step new front) := by
  have preserved (server : Server) (action : Operation × Replies)
      (tidy : Tidy server.services) : Tidy (step server action).services := by
    rw [step_eq]
    exact (settles_run server tidy action).1
  apply Run.allowed_iff_always preserved
  · intro server action tidy agreement
    rw [step_eq]
    exact (settles_run server tidy action).2 agreement.agrees
  · exact tidy_new
  · exact agreement_new

/-- A play of which a resumption is not committed has the write status `playing`, one of which
a suspension is not committed has lost its exchanges, and one that is suspended while there is
no channel still has all of them. -/
theorem uncommitted_disagrees :
    ∃ fails : Call → Replies, fails = (fun c c' => if c' = c then .failed false else .ok) ∧
      ¬Agreement (Run.final step new [(.createNewPlay "game", fun _ => .ok),
        (.updatePlay 1 "suspending", fun _ => .ok), (.updatePlay 1 "running", fails .commit)]) ∧
      ¬Agreement (Run.final step new [(.createNewPlay "game", fun _ => .ok),
        (.updatePlay 1 "suspending", fails .commit)]) ∧
      ¬Agreement (Run.final step new [(.createNewPlay "game", fun _ => .ok),
        (.updatePlay 1 "suspending", fails (.channel .getChannel))]) := by
  refine ⟨_, rfl, ?_, ?_, ?_⟩
  · intro agreement
    have agrees := agreement.agrees 1
    revert agrees
    unfold Agrees Written
    decide +kernel
  · intro agreement
    have agrees := agreement.agrees 1
    revert agrees
    unfold Agrees Written
    decide +kernel
  · intro agreement
    have agrees := agreement.agrees 1
    revert agrees
    unfold Agrees Written
    decide +kernel

end AkashicSystem.SystemApiServer
