import AkashicSystem.ClusterMaster.MonitorCoherence

/-!
# The rounds of a refresh

The first round compares what has been read with the cache, the second reports.  One case
for each name, then the step.
-/

set_option autoImplicit false

namespace AkashicSystem.ClusterMaster

open List

namespace Cluster

open Monitor

inductive Compares (w : Cluster) (index : Nat) (refresh : Refresh) (c : Comparison)
    (name : String) : Prop where
  /-- Nothing: the cache has what has been read, or nothing has been. -/
  | same (cached : c.cache.lookup name = w.cached name)
      (added : name ∈ c.added ↔ name ∈ refresh.added)
      (deleted : name ∈ c.deleted ↔ name ∈ refresh.deleted)
      (unadded : name ∉ refresh.added)
      (read : ∀ czxid, ⟨name, some (some czxid)⟩ ∈ refresh.reads → w.cached name = some czxid)
  /-- It has been taken up already, and goes into the cache. -/
  | new (czxid : Nat) (before : name ∈ refresh.added) (alive : w.znode name = some czxid)
      (cached : c.cache.lookup name = some czxid) (added : name ∈ c.added)
      (deleted : name ∉ c.deleted)
  | again (czxid : Nat) (before : w.cached name ≠ none) (outdated : w.cached name ≠ some czxid)
      (alive : w.znode name = some czxid) (unopened : ¬refresh.Open name)
      (others : ∀ other ∈ w.monitor.refreshes.eraseIdx index, ¬other.Open name)
      (cached : c.cache.lookup name = some czxid) (added : name ∈ c.added)
      (deleted : name ∈ c.deleted)

section

variable (w : Cluster) (index : Nat) (refresh : Refresh)

include w index refresh

theorem compares (name : String)
    (sound : refresh.Sound w.znode w.cached w.process w.Settled) (first : refresh.round = .first)
    (done : ∀ read ∈ refresh.reads, read.result.isSome = true)
    (taken : ∀ read ∈ refresh.reads, w.Taken index refresh read) :
    w.Compares index refresh (refresh.reads.foldl Comparison.note
      ⟨w.monitor.childrenCache, refresh.added, refresh.deleted⟩) name := by
  by_cases isAdded : name ∈ refresh.added
  · obtain ⟨czxid, alive, read⟩ := sound.read done isAdded
    obtain ⟨_, _, _, uncached, _⟩ := sound.joining name isAdded
    have uncached' : w.monitor.childrenCache.lookup name = none := uncached first
    obtain ⟨cache, added, deleted⟩ := Comparison.noted_of_read refresh.reads
      ⟨w.monitor.childrenCache, refresh.added, refresh.deleted⟩ sound.names read
    have current : ¬Table.Outdated w.monitor.childrenCache name czxid := by
      rintro ⟨cached, known, _⟩
      rw [uncached'] at known
      cases known
    have undeleted : name ∉ refresh.deleted := fun deleted => sound.not_added first deleted isAdded
    refine .new czxid isAdded alive cache (added.mpr (.inl isAdded)) ?_
    rw [deleted]
    exact fun either => either.elim undeleted current
  · by_cases read : ∃ czxid, ⟨name, some (some czxid)⟩ ∈ refresh.reads
    · obtain ⟨czxid, read⟩ := read
      obtain ⟨cache, added, deleted⟩ := Comparison.noted_of_read refresh.reads
        ⟨w.monitor.childrenCache, refresh.added, refresh.deleted⟩ sound.names read
      by_cases same : w.cached name = some czxid
      · have current : ¬Table.Outdated w.monitor.childrenCache name czxid := by
          rintro ⟨cached, known, ne⟩
          have known' : w.cached name = some cached := known
          rw [same] at known'
          exact ne (Option.some.inj known').symm
        refine .same (cache.trans same.symm) ?_ ?_ isAdded ?_
        · rw [added]
          exact or_iff_left current
        · rw [deleted]
          exact or_iff_left current
        · intro czxid' read'
          have eq := inj_on_of_nodup_map sound.names read' read rfl
          cases eq
          exact same
      · rcases taken _ read with same' | isAdded' | ⟨before, alive, others⟩
        · exact absurd same' same
        · exact absurd isAdded' isAdded
        · obtain ⟨cached, known⟩ := Option.ne_none_iff_exists'.mp before
          have outdated : Table.Outdated w.monitor.childrenCache name czxid := by
            refine ⟨cached, known, ?_⟩
            rintro rfl
            exact same known
          have unopened : ¬refresh.Open name := by
            rintro (opened | opened)
            · exact isAdded opened
            · exact sound.first first name opened (mem_map.mpr ⟨_, read, rfl⟩)
          exact .again czxid before same alive unopened others cache (added.mpr (.inr outdated))
            (deleted.mpr (.inr outdated))
    · have unread : Comparison.Unread refresh.reads name := fun czxid there => read ⟨czxid, there⟩
      have same := Comparison.same_of_unread refresh.reads
        ⟨w.monitor.childrenCache, refresh.added, refresh.deleted⟩ unread
      exact .same same.cache same.added same.deleted isAdded
        fun czxid there => absurd there (unread czxid)

end

section

variable {w : Cluster} {index : Nat} {refresh : Refresh} {c : Comparison} {name : String}

theorem Compares.opens (at' : w.Compares index refresh c name)
    (opened : name ∈ c.added ∨ name ∈ c.deleted) :
    refresh.Open name ∨ ∀ other ∈ w.monitor.refreshes.eraseIdx index, ¬other.Open name := by
  cases at' with
  | same cached added deleted =>
    rw [added, deleted] at opened
    exact .inl opened
  | new czxid before => exact .inl (.inl before)
  | again czxid before outdated alive unopened others => exact .inr others

theorem Compares.keeps (at' : w.Compares index refresh c name) (opened : refresh.Open name) :
    name ∈ c.added ∨ name ∈ c.deleted := by
  cases at' with
  | same cached added deleted =>
    rw [added, deleted]
    exact opened
  | new czxid before alive cached added => exact .inl added
  | again czxid before outdated alive unopened => exact absurd opened unopened

theorem Compares.unopened (found : w.monitor.refreshes[index]? = some refresh)
    (each : ∀ name, w.Compares index refresh c name) (none' : ∀ r ∈ w.monitor.refreshes.set index
    ⟨.second, c.added, c.deleted, c.added.map .asked⟩, ¬r.Open name) :
    ∀ r ∈ w.monitor.refreshes, ¬r.Open name := by
  intro r there opened
  rcases mem_set_of_mem found there with rfl | kept
  · exact none' _ (mem_set_self found) ((each name).keeps opened)
  · exact none' r kept opened

variable (coherent : w.Coherent) (found : w.monitor.refreshes[index]? = some refresh)
  (each : ∀ name, w.Compares index refresh c name)

include coherent found each

/-- The names taken up are no other refresh's. -/
theorem Compares.beside {j : Nat} {other : Refresh} (ne : j ≠ index)
    (found' : w.monitor.refreshes[j]? = some other) (opened : other.Open name) :
    ¬(name ∈ c.added ∨ name ∈ c.deleted) := by
  intro now
  rcases (each name).opens now with before | others
  · exact coherent.apart index j refresh other found found' ne.symm name before opened
  · exact others other (mem_eraseIdx_iff_getElem?.mpr ⟨j, ne, found'⟩) opened

theorem Compares.leaving (there : name ∈ c.deleted) : ∃ czxid, w.process name = some czxid ∧
    w.znode name ≠ some czxid ∧
    (name ∉ c.added → c.cache.lookup name = none ∧ (w.Settled → w.znode name = none)) := by
  have sound := coherent.sound refresh (mem_of_getElem? found)
  cases each name with
  | same cached added deleted unadded =>
    obtain ⟨czxid, known, gone, alone⟩ := sound.leaving name (deleted.mp there)
    refine ⟨czxid, known, gone, fun _ => ⟨?_, (alone unadded).2⟩⟩
    exact cached.trans (alone unadded).1
  | new czxid before alive cached added deleted => exact absurd there deleted
  | again czxid before outdated alive free others cached added deleted =>
    have closed : w.cached name = w.process name := by
      apply coherent.closed
      intro r there opened
      obtain ⟨j, at'⟩ := mem_iff_getElem?.mp there
      by_cases same : j = index
      · subst same
        rw [found] at at'
        rw [← Option.some.inj at'] at opened
        exact free opened
      · exact others r (mem_eraseIdx_iff_getElem?.mpr ⟨j, same, at'⟩) opened
    obtain ⟨czxid', known⟩ := Option.ne_none_iff_exists'.mp before
    refine ⟨czxid', closed.symm.trans known, ?_, fun only => absurd added only⟩
    rw [alive, ← known]
    exact outdated.symm

theorem Compares.sound (first : refresh.round = .first) (once : c.added.Nodup) :
    Refresh.Sound w.znode c.cache.lookup w.process w.Settled
      ⟨.second, c.added, c.deleted, c.added.map .asked⟩ := by
  have sound := coherent.sound refresh (mem_of_getElem? found)
  have asked : ∀ name result, (⟨name, result⟩ : Read) ∈ c.added.map Read.asked →
      result = none := by
    intro name result read
    obtain ⟨_, _, eq⟩ := mem_map.mp read
    cases eq
    rfl
  constructor
  case names =>
    rw [map_map]
    exact (map_id c.added).symm ▸ once
  case once => exact once
  case asked =>
    intro name added
    exact mem_map.mpr ⟨_, mem_map_of_mem added, rfl⟩
  case second =>
    intro _
    rw [map_map]
    exact map_id c.added
  case first => exact fun other => absurd other (by simp)
  case joining =>
    intro name there
    cases each name with
    | same cached added deleted unadded => exact absurd (added.mp there) unadded
    | new czxid before alive cached added deleted =>
      have undeleted : name ∉ refresh.deleted := fun there => sound.not_added first there before
      obtain ⟨_, _, _, _, _, unknown⟩ := sound.joining name before
      exact ⟨czxid, alive, fun result read => .inl (asked name result read), by simp,
        fun _ => cached, fun _ => unknown undeleted⟩
    | again czxid before outdated alive free others cached added deleted =>
      exact ⟨czxid, alive, fun result read => .inl (asked name result read), by simp,
        fun _ => cached, fun undeleted => absurd deleted undeleted⟩
  case leaving => exact fun name there => Compares.leaving coherent found each there

/-- The others know nothing new of their own names. -/
theorem Compares.sound_beside {j : Nat} {r : Refresh} (ne : j ≠ index)
    (before : w.monitor.refreshes[j]? = some r) :
    r.Sound w.znode c.cache.lookup w.process w.Settled := by
  have sound := coherent.sound r (mem_of_getElem? before)
  apply sound.congr
  · intro name opened
    have beside := Compares.beside coherent found each ne before opened
    refine ⟨rfl, ?_, rfl⟩
    cases each name with
    | same cached => exact cached
    | new czxid _ _ _ added => exact absurd (.inl added) beside
    | again czxid _ _ _ _ _ _ added => exact absurd (.inl added) beside
  · intro name deleted only settled
    obtain ⟨_, _, _, alone⟩ := sound.leaving name deleted
    exact (alone only).2 settled

theorem Compares.apart {i j : Nat} {r r' : Refresh}
    (there : (w.monitor.refreshes.set index
      ⟨.second, c.added, c.deleted, c.added.map .asked⟩)[i]? = some r)
    (there' : (w.monitor.refreshes.set index
      ⟨.second, c.added, c.deleted, c.added.map .asked⟩)[j]? = some r')
    (ne : i ≠ j) (opened : r.Open name) : ¬r'.Open name := by
  rcases Pool.getElem?_set_cases _ index i refresh _ r found there with ⟨rfl, rfl⟩ | ⟨ni, before⟩
  · rcases Pool.getElem?_set_cases _ i j refresh _ r' found there' with ⟨rfl, _⟩ | ⟨nj, before'⟩
    · exact absurd rfl ne
    · exact fun opened' => Compares.beside coherent found each nj before' opened' opened
  · rcases Pool.getElem?_set_cases _ index j refresh _ r' found there' with
      ⟨rfl, rfl⟩ | ⟨_, before'⟩
    · exact Compares.beside coherent found each ni before opened
    · exact coherent.apart i j r r' before before' ne name opened

variable (name) in
theorem Compares.current (done : ∀ read ∈ refresh.reads, read.result.isSome = true)
    (settled : w.Settled) : w.process name = w.znode name ∨
    (∃ r ∈ w.monitor.refreshes.set index
      ⟨.second, c.added, c.deleted, c.added.map .asked⟩, r.Open name) ∨
    ∃ czxid, w.znode name = some czxid ∧
      ∃ r ∈ w.monitor.refreshes.set index
        ⟨.second, c.added, c.deleted, c.added.map .asked⟩, r.round = .first ∧
        ∃ result, ⟨name, result⟩ ∈ r.reads ∧ (result = none ∨ result = some (some czxid)) := by
  by_cases opened : ∃ r ∈ w.monitor.refreshes, r.Open name
  · obtain ⟨r, there, is⟩ := opened
    rcases mem_set_of_mem found there with rfl | kept
    · exact .inr (.inl ⟨_, mem_set_self found, (each name).keeps is⟩)
    · exact .inr (.inl ⟨r, kept, is⟩)
  · have free : ∀ r ∈ w.monitor.refreshes, ¬r.Open name := fun r there is => opened ⟨r, there, is⟩
    rcases coherent.current settled name with same | open' |
      ⟨czxid, alive, r, there, round, result, read, fits⟩
    · exact .inl same
    · exact absurd open' opened
    · rcases mem_set_of_mem found there with rfl | kept
      · -- The read that was awaited has come.
        have come : (⟨name, some (some czxid)⟩ : Read) ∈ r.reads := by
          rcases fits with rfl | rfl
          · have some' := done _ read
            simp at some'
          · exact read
        cases each name with
        | same cached _ _ _ agrees =>
          left
          rw [← coherent.closed name free, agrees czxid come, alive]
        | new _ _ _ _ added => exact .inr (.inl ⟨_, mem_set_self found, .inl added⟩)
        | again _ _ _ _ _ _ _ added => exact .inr (.inl ⟨_, mem_set_self found, .inl added⟩)
      · exact .inr (.inr ⟨czxid, alive, r, kept, round, result, read, fits⟩)

end

theorem nodup_compared (w : Cluster) (refresh : Refresh)
    (sound : refresh.Sound w.znode w.cached w.process w.Settled)
    (first : refresh.round = .first) :
    (refresh.reads.foldl Comparison.note
      ⟨w.monitor.childrenCache, refresh.added, refresh.deleted⟩).added.Nodup := by
  refine Comparison.nodup_added refresh.reads
    ⟨w.monitor.childrenCache, refresh.added, refresh.deleted⟩ sound.names sound.once ?_
  rintro name czxid _ ⟨cached, known, _⟩ added
  obtain ⟨_, _, _, uncached, _⟩ := sound.joining name added
  have none' : w.monitor.childrenCache.lookup name = none := uncached first
  rw [none'] at known
  cases known

section

variable (w : Cluster) (index : Nat) (refresh : Refresh)

include w index refresh

theorem coherent_compared (coherent : w.Coherent)
    (found : w.monitor.refreshes[index]? = some refresh) (first : refresh.round = .first)
    (done : ∀ read ∈ refresh.reads, read.result.isSome = true)
    (taken : ∀ read ∈ refresh.reads, w.Taken index refresh read) :
    ({ w with monitor := w.monitor.compared index refresh } : Cluster).Coherent := by
  have sound := coherent.sound refresh (mem_of_getElem? found)
  have each := fun name => compares w index refresh name sound first done taken
  have once := nodup_compared w refresh sound first
  unfold compared
  dsimp only
  generalize compared : refresh.reads.foldl Comparison.note
    ⟨w.monitor.childrenCache, refresh.added, refresh.deleted⟩ = c at each once
  have second := Compares.sound coherent found each first once
  constructor
  case sound =>
    intro r there
    obtain ⟨i, at'⟩ := mem_iff_getElem?.mp there
    rcases Pool.getElem?_set_cases _ index i refresh _ r found at' with ⟨_, rfl⟩ | ⟨ne, before⟩
    · exact second
    · have other := Compares.sound_beside coherent found each ne before
      exact other
  case apart =>
    intro i j r r' there there' ne name opened
    have free := Compares.apart coherent found each there there' ne opened
    exact free
  case closed =>
    intro name none'
    cases each name with
    | same cached =>
      exact cached.trans (coherent.closed name (Compares.unopened found each none'))
    | new czxid _ _ _ added => exact absurd (.inl added) (none' _ (mem_set_self found))
    | again czxid _ _ _ _ _ _ added => exact absurd (.inl added) (none' _ (mem_set_self found))
  case current =>
    intro settled name
    have upToDate := Compares.current name coherent found each done settled
    exact upToDate
  case answered =>
    intro children fired answered
    obtain ⟨nodup, listed, seen⟩ := coherent.answered children fired answered
    refine ⟨nodup, listed, fun name inList => ?_⟩
    rcases seen name inList with alive | known
    · exact .inl alive
    · right
      show c.cache.lookup name ≠ none
      cases each name with
      | same cached =>
        rw [cached]
        exact known
      | new czxid _ _ cached =>
        rw [cached]
        simp
      | again czxid _ _ _ _ _ cached =>
        rw [cached]
        simp
  case fresh => exact coherent.fresh
  case reports => exact coherent.reports
  case alternates => exact coherent.alternates

inductive Ends (w : Cluster) (refresh : Refresh) (m : Monitor) (name : String) : Prop where
  | same (unopened : ¬refresh.Open name) (process : m.processes.lookup name = w.process name)
      (about : m.about name = w.monitor.about name)
  | joined (czxid : Nat) (added : name ∈ refresh.added) (alive : w.znode name = some czxid)
      (cached : w.cached name = some czxid) (process : m.processes.lookup name = some czxid)
      (about : m.about name =
        w.monitor.about name ++ due name (w.process name) (w.znode name))
  | leaved (czxid : Nat) (deleted : name ∈ refresh.deleted) (known : w.process name = some czxid)
      (gone : w.znode name ≠ some czxid) (cached : w.cached name = none)
      (settles : w.Settled → w.znode name = none) (process : m.processes.lookup name = none)
      (about : m.about name = w.monitor.about name ++ leaving name (some czxid))

theorem ends (name : String)
    (sound : refresh.Sound w.znode w.cached w.process w.Settled) (second : refresh.round = .second)
    (done : ∀ read ∈ refresh.reads, read.result.isSome = true) :
    w.Ends refresh (w.monitor.reported index refresh) name := by
  -- The processes whose znodes are gone first, then those that have been read.
  have leave := onAliveZNodeDeleted_lookup refresh.deleted
    { w.monitor with refreshes := w.monitor.refreshes.eraseIdx index } name
  have leave' := onAliveZNodeDeleted_about refresh.deleted
    { w.monitor with refreshes := w.monitor.refreshes.eraseIdx index } name
  by_cases isAdded : name ∈ refresh.added
  · obtain ⟨czxid, alive, read⟩ := sound.read done isAdded
    obtain ⟨czxid', alive', _, _, cached, unknown⟩ := sound.joining name isAdded
    rw [alive] at alive'
    cases alive'
    obtain ⟨process, about⟩ := onAliveZNodeAdded_read refresh.reads
      (({ w.monitor with refreshes := w.monitor.refreshes.eraseIdx index } :
        Monitor).onAliveZNodeDeleted refresh.deleted) name czxid sound.names read
    refine .joined czxid isAdded alive (cached second) process ?_
    refine about.trans ?_
    rw [leave', append_assoc]
    show w.monitor.about name ++ _ = _
    congr 1
    by_cases isDeleted : name ∈ refresh.deleted
    · obtain ⟨old, known, gone, _⟩ := sound.leaving name isDeleted
      have known' : w.monitor.processes.lookup name = some old := known
      rw [alive] at gone
      rw [if_pos isDeleted, known', known, alive, due, if_neg (Ne.symm gone)]
      rfl
    · rw [if_neg isDeleted, unknown isDeleted, alive]
      rfl
  · have unread : Comparison.Unread refresh.reads name := by
      intro czxid there
      have inNames : name ∈ refresh.reads.map Read.name := mem_map.mpr ⟨_, there, rfl⟩
      rw [sound.second second] at inNames
      exact isAdded inNames
    obtain ⟨process, about⟩ := onAliveZNodeAdded_unread refresh.reads
      (({ w.monitor with refreshes := w.monitor.refreshes.eraseIdx index } :
        Monitor).onAliveZNodeDeleted refresh.deleted) name unread
    by_cases isDeleted : name ∈ refresh.deleted
    · obtain ⟨old, known, gone, alone⟩ := sound.leaving name isDeleted
      have known' : w.monitor.processes.lookup name = some old := known
      refine .leaved old isDeleted known gone (alone isAdded).1 (alone isAdded).2 ?_ ?_
      · exact process.trans (leave.trans (if_pos isDeleted))
      · refine about.trans ?_
        rw [leave', if_pos isDeleted, known']
        rfl
    · refine .same (fun opened => opened.elim isAdded isDeleted) ?_ ?_
      · exact process.trans (leave.trans (if_neg isDeleted))
      · refine about.trans ?_
        rw [leave', if_neg isDeleted, append_nil]
        rfl

theorem coherent_reported (coherent : w.Coherent)
    (found : w.monitor.refreshes[index]? = some refresh) (second : refresh.round = .second)
    (done : ∀ read ∈ refresh.reads, read.result.isSome = true) :
    ({ w with monitor := w.monitor.reported index refresh } : Cluster).Coherent := by
  have here := mem_of_getElem? found
  have each := fun name => ends w index refresh name (coherent.sound refresh here) second done
  have refreshes : (w.monitor.reported index refresh).refreshes =
      w.monitor.refreshes.eraseIdx index := by
    rw [reported, (onAliveZNodeAdded_rest _ _).2,
      (onAliveZNodeDeleted_rest _ _).2]
  have cache : (w.monitor.reported index refresh).childrenCache = w.monitor.childrenCache := by
    rw [reported, (onAliveZNodeAdded_rest _ _).1,
      (onAliveZNodeDeleted_rest _ _).1]
  generalize w.monitor.reported index refresh = m at each refreshes cache
  -- The other refreshes are still there.
  have kept : ∀ r ∈ w.monitor.refreshes, r = refresh ∨ r ∈ m.refreshes := by
    intro r there
    rw [refreshes]
    obtain ⟨k, at'⟩ := mem_iff_getElem?.mp there
    by_cases same : k = index
    · subst same
      rw [found] at at'
      exact .inl (Option.some.inj at').symm
    · exact .inr (mem_eraseIdx_iff_getElem?.mpr ⟨k, same, at'⟩)
  have cached : ∀ name, ({ w with monitor := m } : Cluster).cached name = w.cached name := by
    intro name
    rw [Cluster.cached, cache]
    rfl
  constructor
  case sound =>
    intro r there
    rw [refreshes] at there
    obtain ⟨j, ne, found'⟩ := mem_eraseIdx_iff_getElem?.mp there
    have sound := coherent.sound r (mem_of_getElem? found')
    apply sound.congr
    · intro name opened
      refine ⟨rfl, cached name, ?_⟩
      have free : ¬refresh.Open name := coherent.apart j index r refresh found' found ne name opened
      cases each name with
      | same _ process => exact process
      | joined czxid added => exact absurd (.inl added) free
      | leaved czxid deleted => exact absurd (.inr deleted) free
    · intro name deleted only settled
      obtain ⟨_, _, _, alone⟩ := sound.leaving name deleted
      exact (alone only).2 settled
  case apart =>
    intro i j r r' there there' ne
    rw [refreshes, List.getElem?_eraseIdx] at there there'
    split at there <;> split at there'
    · exact coherent.apart i j r r' there there' ne
    · exact coherent.apart i (j + 1) r r' there there' (by omega)
    · exact coherent.apart (i + 1) j r r' there there' (by omega)
    · exact coherent.apart (i + 1) (j + 1) r r' there there' (by omega)
  case closed =>
    intro name free
    rw [cached]
    cases each name with
    | same unopened process =>
      refine (coherent.closed name fun r there => ?_).trans process.symm
      rcases kept r there with rfl | still
      · exact unopened
      · exact free r still
    | joined czxid _ _ known process => exact known.trans process.symm
    | leaved czxid _ _ _ uncached _ process => exact uncached.trans process.symm
  case current =>
    intro settled name
    cases each name with
    | same unopened process =>
      rcases coherent.current settled name with same | ⟨r, there, opened⟩ |
        ⟨czxid, alive, r, there, first, rest⟩
      · exact .inl (process.trans same)
      · rcases kept r there with rfl | still
        · exact absurd opened unopened
        · exact .inr (.inl ⟨r, still, opened⟩)
      · rcases kept r there with rfl | still
        · rw [second] at first
          cases first
        · exact .inr (.inr ⟨czxid, alive, r, still, first, rest⟩)
    | joined czxid _ alive _ process => exact .inl (process.trans alive.symm)
    | leaved czxid _ _ _ _ settles process => exact .inl (process.trans (settles settled).symm)
  case answered =>
    intro children fired answered
    obtain ⟨nodup, listed, seen⟩ := coherent.answered children fired answered
    refine ⟨nodup, listed, fun name inList => ?_⟩
    rw [cached]
    exact seen name inList
  case fresh =>
    rintro name czxid (alive | known)
    · exact coherent.fresh name czxid (.inl alive)
    · have known' : m.processes.lookup name = some czxid := known
      cases each name with
      | same _ process =>
        rw [process] at known'
        exact coherent.fresh name czxid (.inr known')
      | joined czxid' _ alive _ process =>
        rw [process] at known'
        cases known'
        exact coherent.fresh name czxid (.inl alive)
      | leaved _ _ _ _ _ _ process =>
        rw [process] at known'
        cases known'
  case reports =>
    intro name
    have before := coherent.reports name
    show w.past name = m.about name ++ due name (m.processes.lookup name) (w.znode name)
    cases each name with
    | same _ process about =>
      rw [process, about]
      exact before
    | joined czxid _ alive _ process about =>
      rw [process, about, before, alive]
      simp [due]
    | leaved czxid _ known gone _ _ process about =>
      rw [process, about, before, known, due, if_neg (Ne.symm gone)]
      cases znode : w.znode name with
      | none => simp [due]
      | some czxid' => simp [due, leaving]
  case alternates => exact coherent.alternates

end

end Cluster

end AkashicSystem.ClusterMaster
