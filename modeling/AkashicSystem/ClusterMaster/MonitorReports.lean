import AkashicSystem.ClusterMaster.Monitor

/-!
# What the monitor reports

Name by name, a refresh in progress has either taken the name up, to report its end or
its start, or leaves it alone.  Where no two refreshes take one name up, the reports of
a process are its history but for what is still due.
-/

set_option autoImplicit false

namespace AkashicSystem.ClusterMaster

open List

theorem lookup_foldl_erase (names : List String) (table : Table) (name : String) :
    (names.foldl (fun table name => table.erase name) table).lookup name =
      if name ∈ names then none else table.lookup name := by
  induction names generalizing table with
  | nil => simp
  | cons first rest ih =>
    rw [foldl_cons, ih]
    by_cases inRest : name ∈ rest
    · simp [inRest]
    · by_cases same : name = first
      · subst same
        simp [inRest, AList.lookup_erase]
      · simp [inRest, same, AList.lookup_erase_ne same]

namespace Comparison

def Unread (reads : List Read) (name : String) : Prop :=
  ∀ czxid, ⟨name, some (some czxid)⟩ ∉ reads

structure Same (name : String) (c c' : Comparison) : Prop where
  cache : c'.cache.lookup name = c.cache.lookup name
  added : name ∈ c'.added ↔ name ∈ c.added
  deleted : name ∈ c'.deleted ↔ name ∈ c.deleted

theorem Same.refl (name : String) (c : Comparison) : Same name c c := ⟨rfl, Iff.rfl, Iff.rfl⟩

variable {name : String}

theorem Same.trans {c c' c'' : Comparison} (first : Same name c c') (second : Same name c' c'') :
    Same name c c'' :=
  ⟨second.cache.trans first.cache, second.added.trans first.added,
    second.deleted.trans first.deleted⟩

theorem same_note (c : Comparison) (read : Read)
    (other : ∀ czxid, read ≠ ⟨name, some (some czxid)⟩) : Same name c (c.note read) := by
  obtain ⟨readName, result⟩ := read
  unfold note
  split
  · rename_i czxid found
    have found' : result = some (some czxid) := found
    have ne : name ≠ readName := by
      rintro rfl
      exact other czxid (by rw [found'])
    refine ⟨AList.lookup_insert_ne ne, ?_, ?_⟩
    · dsimp only
      split <;> simp [ne]
    · dsimp only
      split <;> simp [ne]
  · exact .refl name c

theorem same_of_unread (reads : List Read) (c : Comparison) (unread : Unread reads name) :
    Same name c (reads.foldl note c) := by
  induction reads generalizing c with
  | nil => exact .refl name c
  | cons read rest ih =>
    rw [foldl_cons]
    apply (same_note c read ?_).trans
    · exact ih (c.note read) fun czxid there => unread czxid (mem_cons_of_mem _ there)
    · rintro czxid rfl
      exact unread czxid mem_cons_self

theorem noted_of_read {czxid : Nat} (reads : List Read) (c : Comparison)
    (names : (reads.map Read.name).Nodup) (there : ⟨name, some (some czxid)⟩ ∈ reads) :
    (reads.foldl note c).cache.lookup name = some czxid ∧
      (name ∈ (reads.foldl note c).added ↔ name ∈ c.added ∨ Table.Outdated c.cache name czxid) ∧
      (name ∈ (reads.foldl note c).deleted ↔
        name ∈ c.deleted ∨ Table.Outdated c.cache name czxid) := by
  induction reads generalizing c with
  | nil => cases there
  | cons read rest ih =>
    rw [map_cons, nodup_cons] at names
    rw [foldl_cons]
    rcases mem_cons.mp there with rfl | inRest
    · have unread : Unread rest name := by
        intro czxid' there'
        exact names.1 (mem_map.mpr ⟨_, there', rfl⟩)
      have same := same_of_unread rest (c.note ⟨name, some (some czxid)⟩) unread
      rw [same.cache, same.added, same.deleted]
      refine ⟨AList.lookup_insert _, ?_, ?_⟩
      · by_cases outdated : Table.Outdated c.cache name czxid <;> simp [note, outdated]
      · by_cases outdated : Table.Outdated c.cache name czxid <;> simp [note, outdated]
    · have other : ∀ czxid', read ≠ ⟨name, some (some czxid')⟩ := by
        rintro czxid' rfl
        exact names.1 (mem_map.mpr ⟨_, inRest, rfl⟩)
      have same := same_note c read other
      obtain ⟨cache, added, deleted⟩ := ih (c.note read) names.2 inRest
      have outdated : Table.Outdated (c.note read).cache name czxid ↔
          Table.Outdated c.cache name czxid := by
        unfold Table.Outdated
        rw [same.cache]
      rw [added, deleted, same.added, same.deleted, outdated]
      exact ⟨cache, Iff.rfl, Iff.rfl⟩

theorem nodup_added (reads : List Read) (c : Comparison) (names : (reads.map Read.name).Nodup)
    (nodup : c.added.Nodup) (apart : ∀ name czxid, ⟨name, some (some czxid)⟩ ∈ reads →
      Table.Outdated c.cache name czxid → name ∉ c.added) : (reads.foldl note c).added.Nodup := by
  induction reads generalizing c with
  | nil => exact nodup
  | cons read rest ih =>
    rw [map_cons, nodup_cons] at names
    rw [foldl_cons]
    have same : ∀ name czxid, ⟨name, some (some czxid)⟩ ∈ rest → Same name c (c.note read) := by
      intro name czxid there
      apply same_note
      rintro czxid' rfl
      exact names.1 (mem_map.mpr ⟨_, there, rfl⟩)
    apply ih (c.note read) names.2
    · obtain ⟨readName, result⟩ := read
      unfold note
      split
      · rename_i czxid found
        have found' : result = some (some czxid) := found
        dsimp only
        split
        · rename_i outdated
          refine nodup_append'.mpr ⟨nodup, nodup_singleton _, ?_⟩
          apply disjoint_singleton.mpr
          apply apart readName czxid ?_ outdated
          rw [found']
          exact mem_cons_self
        · rw [append_nil]
          exact nodup
      · exact nodup
    · intro name czxid there outdated
      have kept := same name czxid there
      rw [kept.added]
      apply apart name czxid (mem_cons_of_mem _ there)
      unfold Table.Outdated at outdated ⊢
      rw [← kept.cache]
      exact outdated

end Comparison

namespace Monitor

variable (m : Monitor)

def about (name : String) : List Report := m.reports.filter fun r => r.name = name

def leaving (name : String) (process : Option Nat) : List Report :=
  (process.map (.nodeLeaved name)).toList

theorem leave_lookup (name other : String) : (m.leave other).processes.lookup name =
      if name = other then none else m.processes.lookup name := by
  unfold leave
  by_cases same : name = other
  · subst same
    rw [if_pos rfl]
    split
    · rename_i gone
      exact gone
    · exact AList.lookup_erase ..
  · rw [if_neg same]
    split
    · rfl
    · exact AList.lookup_erase_ne same

theorem leave_about (name other : String) : (m.leave other).about name =
      m.about name ++ if name = other then leaving name (m.processes.lookup name) else [] := by
  unfold leave about
  by_cases same : name = other
  · subst same
    split
    · rename_i gone
      simp [leaving, gone]
    · rename_i czxid known
      simp [leaving, known, Report.name]
  · split
    · simp [same]
    · simp [same, Report.name, Ne.symm same]

theorem leave_rest (other : String) :
    (m.leave other).childrenCache = m.childrenCache ∧ (m.leave other).refreshes = m.refreshes := by
  unfold leave
  split <;> exact ⟨rfl, rfl⟩

variable (names : List String)

theorem onAliveZNodeDeleted_lookup (m : Monitor) (name : String) :
    (m.onAliveZNodeDeleted names).processes.lookup name =
      if name ∈ names then none else m.processes.lookup name := by
  unfold onAliveZNodeDeleted
  induction names generalizing m with
  | nil => simp
  | cons first rest ih =>
    rw [foldl_cons, ih, leave_lookup]
    by_cases inRest : name ∈ rest
    · simp [inRest]
    · by_cases same : name = first
      · simp [same]
      · simp [inRest, same]

theorem onAliveZNodeDeleted_about (m : Monitor) (name : String) :
    (m.onAliveZNodeDeleted names).about name =
      m.about name ++ if name ∈ names then leaving name (m.processes.lookup name) else [] := by
  unfold onAliveZNodeDeleted
  induction names generalizing m with
  | nil => simp
  | cons first rest ih =>
    rw [foldl_cons, ih, leave_about, leave_lookup]
    by_cases same : name = first
    · simp [same, leaving]
    · simp [same]

theorem onAliveZNodeDeleted_rest (m : Monitor) :
    (m.onAliveZNodeDeleted names).childrenCache = m.childrenCache ∧
      (m.onAliveZNodeDeleted names).refreshes = m.refreshes := by
  unfold onAliveZNodeDeleted
  induction names generalizing m with
  | nil => exact ⟨rfl, rfl⟩
  | cons first rest ih =>
    obtain ⟨cache, refreshes⟩ := leave_rest m first
    rw [foldl_cons, (ih (m.leave first)).1, (ih (m.leave first)).2]
    exact ⟨cache, refreshes⟩

theorem join_other (read : Read) (name : String)
    (other : ∀ czxid, read ≠ ⟨name, some (some czxid)⟩) :
    (m.join read).processes.lookup name = m.processes.lookup name ∧
      (m.join read).about name = m.about name := by
  obtain ⟨readName, result⟩ := read
  unfold join about
  split
  · rename_i czxid found
    have found' : result = some (some czxid) := found
    have ne : name ≠ readName := by
      rintro rfl
      exact other czxid (by rw [found'])
    exact ⟨AList.lookup_insert_ne ne, by simp [Report.name, Ne.symm ne]⟩
  · exact ⟨rfl, rfl⟩

theorem join_rest (read : Read) :
    (m.join read).childrenCache = m.childrenCache ∧ (m.join read).refreshes = m.refreshes := by
  unfold join
  split <;> exact ⟨rfl, rfl⟩

variable (reads : List Read)

theorem onAliveZNodeAdded_unread (m : Monitor) (name : String)
    (unread : Comparison.Unread reads name) :
    (m.onAliveZNodeAdded reads).processes.lookup name = m.processes.lookup name ∧
      (m.onAliveZNodeAdded reads).about name = m.about name := by
  unfold onAliveZNodeAdded
  induction reads generalizing m with
  | nil => exact ⟨rfl, rfl⟩
  | cons read rest ih =>
    have other : ∀ czxid, read ≠ ⟨name, some (some czxid)⟩ := by
      rintro czxid rfl
      exact unread czxid mem_cons_self
    obtain ⟨lookup, about⟩ := join_other m read name other
    obtain ⟨lookup', about'⟩ :=
      ih (m.join read) fun czxid there => unread czxid (mem_cons_of_mem _ there)
    rw [foldl_cons, lookup', about', lookup, about]
    exact ⟨rfl, rfl⟩

theorem onAliveZNodeAdded_read (m : Monitor) (name : String) (czxid : Nat)
    (names : (reads.map Read.name).Nodup) (there : ⟨name, some (some czxid)⟩ ∈ reads) :
    (m.onAliveZNodeAdded reads).processes.lookup name = some czxid ∧
      (m.onAliveZNodeAdded reads).about name = m.about name ++ [Report.nodeJoined name czxid] := by
  unfold onAliveZNodeAdded
  induction reads generalizing m with
  | nil => cases there
  | cons read rest ih =>
    rw [map_cons, nodup_cons] at names
    rw [foldl_cons]
    rcases mem_cons.mp there with rfl | inRest
    · have unread : Comparison.Unread rest name := by
        intro czxid' there'
        exact names.1 (mem_map.mpr ⟨_, there', rfl⟩)
      obtain ⟨lookup, about⟩ :=
        onAliveZNodeAdded_unread rest (m.join ⟨name, some (some czxid)⟩) name unread
      rw [onAliveZNodeAdded] at lookup about
      rw [lookup, about]
      exact ⟨AList.lookup_insert _, by simp [join, Monitor.about, Report.name]⟩
    · have other : ∀ czxid', read ≠ ⟨name, some (some czxid')⟩ := by
        rintro czxid' rfl
        exact names.1 (mem_map.mpr ⟨_, inRest, rfl⟩)
      obtain ⟨_, about⟩ := join_other m read name other
      obtain ⟨lookup', about'⟩ := ih (m.join read) names.2 inRest
      rw [lookup', about', about]
      exact ⟨rfl, rfl⟩

theorem onAliveZNodeAdded_rest (m : Monitor) :
    (m.onAliveZNodeAdded reads).childrenCache = m.childrenCache ∧
      (m.onAliveZNodeAdded reads).refreshes = m.refreshes := by
  unfold onAliveZNodeAdded
  induction reads generalizing m with
  | nil => exact ⟨rfl, rfl⟩
  | cons read rest ih =>
    obtain ⟨cache, refreshes⟩ := join_rest m read
    rw [foldl_cons, (ih (m.join read)).1, (ih (m.join read)).2]
    exact ⟨cache, refreshes⟩

end Monitor

end AkashicSystem.ClusterMaster
