import AkashicSystem.ClusterMaster.MonitorReports
import AkashicSystem.Lib.Pool

/-!
# The monitor beside the znodes

What a refresh in progress knows of the names it has taken up, and what the cache, the
processes and the reports have of the others.  Creations, deletions, lists and reads keep
it; the ends of the two rounds follow.
-/

set_option autoImplicit false

namespace AkashicSystem.ClusterMaster

open List

namespace Refresh

def Open (r : Refresh) (name : String) : Prop := name ∈ r.added ∨ name ∈ r.deleted

instance (r : Refresh) (name : String) : Decidable (r.Open name) :=
  inferInstanceAs (Decidable (_ ∨ _))

/-- The names that a refresh has taken up, and what it knows of them. -/
structure Sound (znode cached process : String → Option Nat) (settled : Prop) (r : Refresh) :
    Prop where
  names : (r.reads.map Read.name).Nodup
  once : r.added.Nodup
  asked : ∀ name ∈ r.added, name ∈ r.reads.map Read.name
  second : r.round = .second → r.reads.map Read.name = r.added
  first : r.round = .first → ∀ name ∈ r.deleted, name ∉ r.reads.map Read.name
  joining : ∀ name ∈ r.added, ∃ czxid, znode name = some czxid ∧
    (∀ result, ⟨name, result⟩ ∈ r.reads → result = none ∨ result = some (some czxid)) ∧
    (r.round = .first → cached name = none) ∧
    (r.round = .second → cached name = some czxid) ∧
    (name ∉ r.deleted → process name = none)
  leaving : ∀ name ∈ r.deleted, ∃ czxid, process name = some czxid ∧ znode name ≠ some czxid ∧
    (name ∉ r.added → cached name = none ∧ (settled → znode name = none))

variable {znode cached process : String → Option Nat} {settled : Prop} {r : Refresh}

section

variable (sound : r.Sound znode cached process settled)
include sound

theorem Sound.congr {znode' cached' process' : String → Option Nat} {settled' : Prop}
    (same : ∀ name, r.Open name → znode' name = znode name ∧ cached' name = cached name ∧
      process' name = process name)
    (settles : ∀ name ∈ r.deleted, name ∉ r.added → settled' → znode name = none) :
    r.Sound znode' cached' process' settled' where
  names := sound.names
  once := sound.once
  asked := sound.asked
  second := sound.second
  first := sound.first
  joining := by
    intro name there
    obtain ⟨znode_eq, cached_eq, process_eq⟩ := same name (.inl there)
    rw [znode_eq, cached_eq, process_eq]
    exact sound.joining name there
  leaving := by
    intro name there
    obtain ⟨znode_eq, cached_eq, process_eq⟩ := same name (.inr there)
    rw [znode_eq, cached_eq, process_eq]
    obtain ⟨czxid, known, gone, alone⟩ := sound.leaving name there
    exact ⟨czxid, known, gone, fun only => ⟨(alone only).1, settles name there only⟩⟩

theorem Sound.not_added (first : r.round = .first)
    {name : String} (there : name ∈ r.deleted) : name ∉ r.added :=
  fun added => sound.first first name there (sound.asked name added)

theorem Sound.read (done : ∀ read ∈ r.reads, read.result.isSome = true) {name : String}
    (there : name ∈ r.added) :
    ∃ czxid, znode name = some czxid ∧ ⟨name, some (some czxid)⟩ ∈ r.reads := by
  obtain ⟨czxid, alive, results, _⟩ := sound.joining name there
  obtain ⟨⟨_, result⟩, read, rfl⟩ := mem_map.mp (sound.asked name there)
  refine ⟨czxid, alive, ?_⟩
  rcases results result read with awaited | known
  · have some' := done _ read
    simp [awaited] at some'
  · rw [known] at read
    exact read

end

theorem mem_resolve {reads : List Read} {position : Nat} {old new read : Read}
    (found : reads[position]? = some old) (there : read ∈ reads) (other : read ≠ old) :
    read ∈ reads.set position new := by
  obtain ⟨k, at'⟩ := mem_iff_getElem?.mp there
  apply mem_of_getElem? (i := k)
  rw [List.getElem?_set_ne, at']
  rintro rfl
  rw [found] at at'
  exact other (Option.some.inj at').symm

theorem Sound.resolve (sound : r.Sound znode cached process settled) {position : Nat}
    {name : String} (found : r.reads[position]? = some ⟨name, none⟩) :
    Sound znode cached process settled
      { r with reads := r.reads.set position ⟨name, some (znode name)⟩ } := by
  have names : (r.reads.set position ⟨name, some (znode name)⟩).map Read.name =
      r.reads.map Read.name := by
    apply ext_getElem?
    intro k
    rw [List.getElem?_map, List.getElem?_map]
    by_cases same : position = k
    · subst same
      obtain ⟨inside, _⟩ := List.getElem?_eq_some_iff.mp found
      rw [List.getElem?_set_self inside, found]
      rfl
    · rw [List.getElem?_set_ne same]
  constructor
  case names =>
    rw [names]
    exact sound.names
  case once => exact sound.once
  case asked =>
    rw [names]
    exact sound.asked
  case second =>
    rw [names]
    exact sound.second
  case first =>
    rw [names]
    exact sound.first
  case joining =>
    intro other added
    obtain ⟨czxid, alive, results, rest⟩ := sound.joining other added
    refine ⟨czxid, alive, fun result there => ?_, rest⟩
    rcases mem_or_eq_of_mem_set there with before | now
    · exact results result before
    · cases now
      rw [alive]
      exact .inr rfl
  case leaving => exact sound.leaving

end Refresh

namespace Cluster

variable (w : Cluster)

variable (name : String)

def znode : Option Nat := w.znodes.lookup name

def cached : Option Nat := w.monitor.childrenCache.lookup name

def process : Option Nat := w.monitor.processes.lookup name

def past : List Report := w.history.filter fun r => r.name = name

/-- The znodes have not changed since they were listed. -/
def Settled : Prop := w.chain = .watching false

/-- No event and no reply is outstanding. -/
def Quiet : Prop := w.chain = .watching false ∧ w.monitor.refreshes = []

def due (process znode : Option Nat) : List Report :=
  if process = znode then []
  else Monitor.leaving name process ++ (znode.map (.nodeJoined name)).toList

def follow : Option Nat → Report → Option (Option Nat)
  | none, .nodeJoined _ czxid => some (some czxid)
  | some czxid, .nodeLeaved _ czxid' => if czxid = czxid' then some none else none
  | none, .nodeLeaved _ _ | some _, .nodeJoined _ _ => none

def Alternates (reports : List Report) : Prop := (reports.foldlM follow none).isSome = true

instance (reports : List Report) : Decidable (Alternates reports) :=
  inferInstanceAs (Decidable (_ = true))

/-- A znode that the first round has read is taken up by this refresh alone, and is the current
one, unless the cache has it. -/
def Taken (index : Nat) (refresh : Refresh) (read : Read) : Prop :=
  match read.result with
  | some (some czxid) =>
    w.cached read.name = some czxid ∨ read.name ∈ refresh.added ∨
      (w.cached read.name ≠ none ∧ w.znode read.name = some czxid ∧
        ∀ other ∈ w.monitor.refreshes.eraseIdx index, ¬other.Open read.name)
  | _ => True

/-- A znode is deleted once it has been reported; a read fails only where there is no znode; what
a refresh takes up no other one has taken up, and its list and its reads are not out of date. -/
def Permitted : Action → Prop
  | .delete name => ∀ czxid ∈ w.znode name, w.process name = some czxid
  | .children =>
    match w.chain with
    | .answered children _ =>
      (∀ name ∈ w.monitor.added children ++ w.monitor.deleted children,
        ∀ refresh ∈ w.monitor.refreshes, ¬refresh.Open name) ∧
      ∀ name ∈ w.monitor.deleted children, w.znode name ≠ w.cached name
    | _ => True
  | .getDataFailed index position => ∀ refresh ∈ w.monitor.refreshes[index]?,
      ∀ read ∈ refresh.reads[position]?, read.result = none → w.znode read.name = none
  | .proceed index => ∀ refresh ∈ w.monitor.refreshes[index]?, refresh.round = .first →
      ∀ read ∈ refresh.reads, w.Taken index refresh read
  | _ => True

instance (w : Cluster) (index : Nat) (refresh : Refresh) (read : Read) :
    Decidable (w.Taken index refresh read) := by
  unfold Taken
  split <;> infer_instance

instance (w : Cluster) : DecidablePred w.Permitted := by
  intro action
  cases action with
  | children =>
    unfold Permitted
    dsimp only
    split <;> infer_instance
  | delete name => exact inferInstanceAs (Decidable (∀ czxid ∈ w.znode name, _ = some czxid))
  | getDataFailed index position =>
    exact inferInstanceAs (Decidable (∀ refresh ∈ w.monitor.refreshes[index]?,
      ∀ read ∈ refresh.reads[position]?, read.result = none → w.znode read.name = none))
  | proceed index =>
    exact inferInstanceAs (Decidable (∀ refresh ∈ w.monitor.refreshes[index]?,
      refresh.round = .first → ∀ read ∈ refresh.reads, w.Taken index refresh read))
  | connect | create name | getChildren | childrenFailed loss | childrenChanged
  | getData index position => exact isTrue trivial

/-- What the monitor has of a name is the znode, or will be. -/
def Current : Prop :=
  w.process name = w.znode name ∨ (∃ r ∈ w.monitor.refreshes, r.Open name) ∨
    ∃ czxid, w.znode name = some czxid ∧ ∃ r ∈ w.monitor.refreshes, r.round = .first ∧
      ∃ result, ⟨name, result⟩ ∈ r.reads ∧ (result = none ∨ result = some (some czxid))

/-- The cache, the processes, the refreshes and the reports fit the znodes. -/
structure Coherent (w : Cluster) : Prop where
  sound : ∀ r ∈ w.monitor.refreshes, r.Sound w.znode w.cached w.process w.Settled
  apart : ∀ (i j : Nat) (r r' : Refresh), w.monitor.refreshes[i]? =
    some r → w.monitor.refreshes[j]? = some r' →
    i ≠ j → ∀ name, r.Open name → ¬r'.Open name
  closed : ∀ name, (∀ r ∈ w.monitor.refreshes, ¬r.Open name) → w.cached name = w.process name
  current : w.Settled → ∀ name, w.Current name
  answered : ∀ children fired, w.chain = .answered children fired → children.Nodup ∧
    (fired = false → ∀ name, name ∈ children ↔ w.znode name ≠ none) ∧
    ∀ name ∈ children, w.znode name ≠ none ∨ w.cached name ≠ none
  fresh : ∀ name czxid, w.znode name = some czxid ∨ w.process name = some czxid → czxid < w.zxid
  reports : ∀ name, w.past name = w.monitor.about name ++ due name (w.process name) (w.znode name)
  alternates : ∀ name, (w.past name).foldlM follow none = some (w.znode name)

theorem coherent_new : new.Coherent where
  sound := fun _ there => absurd there not_mem_nil
  apart := by
    intro i j r r' found
    cases found
  closed := fun _ _ => rfl
  current := by
    intro settled
    cases settled
  answered := by
    intro children fired answered
    cases answered
  fresh := by
    rintro name czxid (alive | known)
    · cases alive
    · cases known
  reports := fun _ => rfl
  alternates := fun _ => rfl

variable {name : String} {children : List String}

theorem Coherent.unopened {w : Cluster} (coherent : w.Coherent) {czxid : Nat}
    (alive : w.znode name = some czxid) (known : w.process name = some czxid) :
    ∀ r ∈ w.monitor.refreshes, ¬r.Open name := by
  intro r there opened
  have leaving : name ∉ r.deleted := by
    intro deleted
    obtain ⟨czxid', known', gone, _⟩ := (coherent.sound r there).leaving name deleted
    rw [known] at known'
    rw [alive, known'] at gone
    exact gone rfl
  rcases opened with added | deleted
  · obtain ⟨_, _, _, _, _, unknown⟩ := (coherent.sound r there).joining name added
    rw [unknown leaving] at known
    cases known
  · exact leaving deleted

theorem Coherent.chain {w : Cluster} (coherent : w.Coherent) (chain : Chain)
    (unsettled : chain ≠ .watching false)
    (answered : ∀ children fired, chain = .answered children fired → children.Nodup ∧
      (fired = false → ∀ name, name ∈ children ↔ w.znode name ≠ none) ∧
      ∀ name ∈ children, w.znode name ≠ none ∨ w.cached name ≠ none) :
    ({ w with chain := chain } : Cluster).Coherent where
  sound := by
    intro r there
    apply (coherent.sound r there).congr
    · exact fun _ _ => ⟨rfl, rfl, rfl⟩
    · exact fun _ _ _ settled => absurd settled unsettled
  apart := coherent.apart
  closed := coherent.closed
  current := fun settled => absurd settled unsettled
  answered := answered
  fresh := coherent.fresh
  reports := coherent.reports
  alternates := coherent.alternates

theorem fire_unsettled (chain : Chain) : fire chain ≠ .watching false := by
  cases chain <;> simp [fire]

theorem fire_answered {chain : Chain} {fired : Bool}
    (answered : fire chain = .answered children fired) :
    fired = true ∧ ∃ before, chain = .answered children before := by
  cases chain with
  | answered children' before =>
    simp only [fire, Chain.answered.injEq] at answered
    obtain ⟨rfl, rfl⟩ := answered
    exact ⟨rfl, before, rfl⟩
  | idle | requested | watching fired' | stopped => simp [fire] at answered

theorem past_append_same (history : List Report) (report : Report) (name : String)
    (same : report.name = name) : (history ++ [report]).filter (fun r => r.name = name) =
      history.filter (fun r => r.name = name) ++ [report] := by
  simp [same]

theorem past_append_other {history : List Report} {report : Report} (other : report.name ≠ name) :
    (history ++ [report]).filter (fun r => r.name = name) =
      history.filter (fun r => r.name = name) := by
  simp [other]

theorem alternates_append {reports : List Report} {report : Report} {znode znode' : Option Nat}
    (before : reports.foldlM follow none = some znode) (next : follow znode report = some znode') :
    (reports ++ [report]).foldlM follow none = some znode' := by
  rw [foldlM_append, before]
  simpa using next

theorem coherent_create (w : Cluster) (name : String) (coherent : w.Coherent)
    (absent : w.znode name = none) : ({ w with
      znodes := w.znodes.insert name w.zxid
      zxid := w.zxid + 1
      history := w.history ++ [Report.nodeJoined name w.zxid]
      chain := fire w.chain } : Cluster).Coherent := by
  have created : (w.znodes.insert name w.zxid).lookup name = some w.zxid := AList.lookup_insert _
  have others : ∀ other, other ≠ name →
      (w.znodes.insert name w.zxid).lookup other = w.znode other :=
    fun other ne => AList.lookup_insert_ne ne
  constructor
  case sound =>
    intro r there
    have sound := coherent.sound r there
    have unadded : name ∉ r.added := by
      intro added
      obtain ⟨czxid, alive, _⟩ := sound.joining name added
      rw [absent] at alive
      cases alive
    constructor
    case names => exact sound.names
    case once => exact sound.once
    case asked => exact sound.asked
    case second => exact sound.second
    case first => exact sound.first
    case joining =>
      intro other added
      have ne : other ≠ name := by
        rintro rfl
        exact unadded added
      rw [znode, others other ne]
      exact sound.joining other added
    case leaving =>
      intro other deleted
      obtain ⟨czxid, known, gone, alone⟩ := sound.leaving other deleted
      refine ⟨czxid, known, ?_, fun only => ⟨(alone only).1, ?_⟩⟩
      · by_cases same : other = name
        · subst same
          have before := coherent.fresh other czxid (.inr known)
          rw [znode, created]
          intro eq
          cases eq
          omega
        · rw [znode, others other same]
          exact gone
      · exact fun settled => absurd settled (fire_unsettled w.chain)
  case apart => exact coherent.apart
  case closed => exact coherent.closed
  case current => exact fun settled => absurd settled (fire_unsettled w.chain)
  case answered =>
    intro children fired answered
    obtain ⟨rfl, before, was⟩ := fire_answered answered
    obtain ⟨nodup, _, seen⟩ := coherent.answered children before was
    refine ⟨nodup, by simp, fun other there => ?_⟩
    by_cases same : other = name
    · subst same
      left
      rw [znode, created]
      simp
    · rw [znode, others other same]
      exact seen other there
  case fresh =>
    intro other czxid
    show _ → czxid < w.zxid + 1
    by_cases same : other = name
    · subst same
      rintro (alive | known)
      · rw [znode, created] at alive
        cases alive
        omega
      · have before := coherent.fresh other czxid (.inr known)
        omega
    · rw [znode, others other same]
      intro either
      have before := coherent.fresh other czxid either
      omega
  case reports =>
    intro other
    rw [past]
    by_cases same : other = name
    · subst same
      rw [past_append_same w.history (.nodeJoined other w.zxid) other rfl]
      have before := coherent.reports other
      rw [absent, past] at before
      rw [znode, created, before]
      -- The process is an earlier incarnation, or none.
      have ne : w.process other ≠ some w.zxid := by
        intro known
        have old := coherent.fresh other _ (.inr known)
        omega
      show _ = w.monitor.about other ++ due other (w.process other) (some w.zxid)
      cases known : w.process other with
      | none => simp [due, Monitor.leaving]
      | some czxid =>
        rw [known] at ne
        simp [due, Monitor.leaving, ne]
    · rw [past_append_other (Ne.symm same), znode, others other same]
      exact coherent.reports other
  case alternates =>
    intro other
    rw [past]
    by_cases same : other = name
    · subst same
      rw [past_append_same w.history (.nodeJoined other w.zxid) other rfl]
      have before := coherent.alternates other
      rw [absent] at before
      rw [znode, created]
      exact alternates_append before rfl
    · rw [past_append_other (Ne.symm same), znode, others other same]
      exact coherent.alternates other

theorem coherent_delete (w : Cluster) (name : String) (czxid : Nat) (coherent : w.Coherent)
    (alive : w.znode name = some czxid) (known : w.process name = some czxid) : ({ w with
      znodes := w.znodes.erase name
      history := w.history ++ [Report.nodeLeaved name czxid]
      chain := fire w.chain } : Cluster).Coherent := by
  have unopened := coherent.unopened alive known
  have deleted : (w.znodes.erase name).lookup name = none := AList.lookup_erase ..
  have others : ∀ other, other ≠ name → (w.znodes.erase name).lookup other = w.znode other :=
    fun other ne => AList.lookup_erase_ne ne
  constructor
  case sound =>
    intro r there
    apply (coherent.sound r there).congr
    · intro other opened
      have ne : other ≠ name := by
        rintro rfl
        exact unopened r there opened
      exact ⟨others other ne, rfl, rfl⟩
    · exact fun _ _ _ settled => absurd settled (fire_unsettled w.chain)
  case apart => exact coherent.apart
  case closed => exact coherent.closed
  case current => exact fun settled => absurd settled (fire_unsettled w.chain)
  case answered =>
    intro children fired answered
    obtain ⟨rfl, before, was⟩ := fire_answered answered
    obtain ⟨nodup, _, seen⟩ := coherent.answered children before was
    refine ⟨nodup, by simp, fun other there => ?_⟩
    by_cases same : other = name
    · subst same
      right
      show w.cached other ≠ none
      rw [coherent.closed other unopened, known]
      simp
    · rw [znode, others other same]
      exact seen other there
  case fresh =>
    intro other czxid' either
    apply coherent.fresh other czxid'
    by_cases same : other = name
    · subst same
      rcases either with there | known'
      · rw [znode, deleted] at there
        cases there
      · exact .inr known'
    · rw [znode, others other same] at either
      exact either
  case reports =>
    intro other
    rw [past]
    by_cases same : other = name
    · subst same
      rw [past_append_same w.history (.nodeLeaved other czxid) other rfl]
      have before := coherent.reports other
      rw [alive, known, past] at before
      rw [znode, deleted, before]
      show _ = w.monitor.about other ++ due other (w.process other) none
      rw [known]
      simp [due, Monitor.leaving]
    · rw [past_append_other (Ne.symm same), znode, others other same]
      exact coherent.reports other
  case alternates =>
    intro other
    rw [past]
    by_cases same : other = name
    · subst same
      rw [past_append_same w.history (.nodeLeaved other czxid) other rfl]
      have before := coherent.alternates other
      rw [alive] at before
      rw [znode, deleted]
      exact alternates_append before (if_pos rfl)
    · rw [past_append_other (Ne.symm same), znode, others other same]
      exact coherent.alternates other

theorem mem_added {m : Monitor} :
    name ∈ m.added children ↔ name ∈ children ∧ m.childrenCache.lookup name = none := by
  rw [Monitor.added, mem_filter, decide_eq_true_eq, ← AList.mem_keys, AList.lookup_eq_none]

theorem mem_deleted {m : Monitor} :
    name ∈ m.deleted children ↔ m.childrenCache.lookup name ≠ none ∧ name ∉ children := by
  rw [Monitor.deleted, mem_filter, decide_eq_true_eq, ← AList.mem_keys, Ne,
    AList.lookup_eq_none, not_not]

theorem coherent_children (w : Cluster) (children : List String) (fired : Bool)
    (coherent : w.Coherent) (answered : w.chain = .answered children fired)
    (free : ∀ name ∈ w.monitor.added children ++ w.monitor.deleted children,
      ∀ refresh ∈ w.monitor.refreshes, ¬refresh.Open name)
    (gone : ∀ name ∈ w.monitor.deleted children, w.znode name ≠ w.cached name) : ({ w with
      chain := .watching fired
      monitor := w.monitor.onChildrenChanged children } : Cluster).Coherent := by
  obtain ⟨nodup, listed, seen⟩ := coherent.answered children fired answered
  have freeAdded : ∀ name ∈ w.monitor.added children,
      ∀ refresh ∈ w.monitor.refreshes, ¬refresh.Open name :=
    fun name there => free name (mem_append_left _ there)
  have freeDeleted : ∀ name ∈ w.monitor.deleted children,
      ∀ refresh ∈ w.monitor.refreshes, ¬refresh.Open name :=
    fun name there => free name (mem_append_right _ there)
  have cached' : ∀ name, (w.monitor.onChildrenChanged children).childrenCache.lookup name =
      if name ∈ w.monitor.deleted children then none else w.cached name :=
    lookup_foldl_erase (w.monitor.deleted children) w.monitor.childrenCache
  have names : (children.map Read.asked).map Read.name = children := by
    rw [map_map]
    exact map_id _
  constructor
  case sound =>
    intro r there
    rcases mem_append.mp there with before | added
    · -- A refresh that was in progress has taken up other names.
      have sound := coherent.sound r before
      apply sound.congr
      · intro name opened
        refine ⟨rfl, ?_, rfl⟩
        rw [cached, cached', if_neg]
        exact fun deleted => freeDeleted name deleted r before opened
      · intro name deleted only settled
        obtain ⟨_, _, _, alone⟩ := sound.leaving name deleted
        have uncached := (alone only).1
        have current : fired = false := by
          have chain : Chain.watching fired = .watching false := settled
          cases chain
          rfl
        by_contra alive
        have inList : name ∈ children := (listed current name).mpr alive
        exact freeAdded name (mem_added.mpr ⟨inList, uncached⟩) r before (.inr deleted)
    · rw [mem_singleton.mp added]
      constructor
      case names =>
        rw [names]
        exact nodup
      case once => exact nodup.filter _
      case asked =>
        intro name there
        rw [names]
        exact (mem_added.mp there).1
      case second => simp
      case first =>
        intro _ name there
        rw [names]
        exact (mem_deleted.mp there).2
      case joining =>
        intro name there
        obtain ⟨inList, uncached⟩ := mem_added.mp there
        have unknown : w.process name = none := by
          rw [← coherent.closed name (freeAdded name there)]
          exact uncached
        have alive := (seen name inList).resolve_right fun known => known uncached
        obtain ⟨czxid, znode⟩ := Option.ne_none_iff_exists'.mp alive
        refine ⟨czxid, znode, ?_, ?_, by simp, fun _ => unknown⟩
        · intro result read
          obtain ⟨other, _, eq⟩ := mem_map.mp read
          cases eq
          exact .inl rfl
        · intro _
          rw [cached, cached', if_neg]
          · exact uncached
          · exact fun deleted => (mem_deleted.mp deleted).1 uncached
      case leaving =>
        intro name there
        obtain ⟨known, unlisted⟩ := mem_deleted.mp there
        obtain ⟨czxid, cached_eq⟩ := Option.ne_none_iff_exists'.mp known
        have cached_eq' : w.cached name = some czxid := cached_eq
        have process : w.process name = some czxid := by
          rw [← coherent.closed name (freeDeleted name there)]
          exact cached_eq
        refine ⟨czxid, process, ?_, fun _ => ⟨?_, fun settled => ?_⟩⟩
        · have other := gone name there
          rw [cached_eq'] at other
          exact other
        · rw [cached, cached', if_pos there]
        · have current : fired = false := by
            have chain : Chain.watching fired = .watching false := settled
            cases chain
            rfl
          by_contra alive
          exact unlisted ((listed current name).mpr alive)
  case apart =>
    intro i j r r' found found' ne name opened opened'
    rcases Pool.getElem?_append_cases _ i _ r found with before | ⟨rfl, rfl⟩
    · rcases Pool.getElem?_append_cases _ j _ r' found' with before' | ⟨rfl, rfl⟩
      · exact coherent.apart i j r r' before before' ne name opened opened'
      · exact free name (mem_append.mpr opened') r (mem_of_getElem? before) opened
    · rcases Pool.getElem?_append_cases _ j _ r' found' with before' | ⟨rfl, rfl⟩
      · exact free name (mem_append.mpr opened) r' (mem_of_getElem? before') opened'
      · exact ne rfl
  case closed =>
    intro name unopened
    have unopened' : ∀ r ∈ w.monitor.refreshes, ¬r.Open name :=
      fun r there => unopened r (mem_append_left _ there)
    rw [cached, cached', if_neg]
    · exact coherent.closed name unopened'
    · exact fun deleted => unopened _ (mem_append_right _ mem_cons_self) (.inr deleted)
  case current =>
    intro settled name
    have current : fired = false := by
      have chain : Chain.watching fired = .watching false := settled
      cases chain
      rfl
    by_cases opened : ∃ r ∈ w.monitor.refreshes, r.Open name
    · obtain ⟨r, there, is⟩ := opened
      exact .inr (.inl ⟨r, mem_append_left _ there, is⟩)
    · have unopened : ∀ r ∈ w.monitor.refreshes, ¬r.Open name :=
        fun r there is => opened ⟨r, there, is⟩
      have closed := coherent.closed name unopened
      cases alive : w.znode name with
      | some czxid =>
        -- The first round of the new refresh reads it.
        have inList : name ∈ children := by
          apply (listed current name).mpr
          rw [alive]
          simp
        refine .inr (.inr ⟨czxid, alive, _, mem_append_right _ mem_cons_self, rfl,
          none, ?_, .inl rfl⟩)
        exact mem_map_of_mem inList
      | none =>
        have unlisted : name ∉ children := fun inList => (listed current name).mp inList alive
        by_cases uncached : w.cached name = none
        · left
          show w.process name = w.znode name
          rw [← closed, uncached, alive]
        · refine .inr (.inl ⟨_, mem_append_right _ mem_cons_self, .inr ?_⟩)
          exact mem_deleted.mpr ⟨uncached, unlisted⟩
  case answered =>
    intro children' fired' other
    cases other
  case fresh => exact coherent.fresh
  case reports => exact coherent.reports
  case alternates => exact coherent.alternates

theorem mem_set_of_mem {refreshes : List Refresh} {index : Nat} {old new r : Refresh}
    (found : refreshes[index]? = some old) (there : r ∈ refreshes) :
    r = old ∨ r ∈ refreshes.set index new := by
  obtain ⟨k, at'⟩ := mem_iff_getElem?.mp there
  by_cases same : index = k
  · subst same
    rw [found] at at'
    exact .inl (Option.some.inj at').symm
  · right
    apply mem_of_getElem? (i := k)
    rw [List.getElem?_set_ne same]
    exact at'

theorem mem_set_self {refreshes : List Refresh} {index : Nat} {old new : Refresh}
    (found : refreshes[index]? = some old) : new ∈ refreshes.set index new := by
  obtain ⟨inside, _⟩ := List.getElem?_eq_some_iff.mp found
  exact mem_set inside _

theorem coherent_resolve (w : Cluster) (index position : Nat) (result : String → Option Nat)
    (coherent : w.Coherent)
    (fits : ∀ refresh ∈ w.monitor.refreshes[index]?, ∀ read ∈ refresh.reads[position]?,
      read.result = none → result read.name = w.znode read.name) :
    ({ w with monitor := w.monitor.resolve index position result } : Cluster).Coherent := by
  unfold Monitor.resolve
  split
  · exact coherent
  · rename_i refresh found
    split
    · rename_i name foundRead
      have known : result name = w.znode name := fits refresh found ⟨name, none⟩ foundRead rfl
      rw [known]
      have here := mem_of_getElem? found
      have resolved := (coherent.sound refresh here).resolve foundRead
      constructor
      case sound =>
        intro r there
        rcases mem_or_eq_of_mem_set there with before | rfl
        · exact coherent.sound r before
        · exact resolved
      case apart =>
        intro i j r r' there there' ne other opened
        rcases Pool.getElem?_set_cases _ index i refresh _ r found there with
          ⟨rfl, rfl⟩ | ⟨_, before⟩
        · rcases Pool.getElem?_set_cases _ i j refresh _ r' found there' with
            ⟨rfl, _⟩ | ⟨_, before'⟩
          · exact absurd rfl ne
          · exact coherent.apart i j refresh r' found before' ne other opened
        · rcases Pool.getElem?_set_cases _ index j refresh _ r' found there' with
            ⟨rfl, rfl⟩ | ⟨_, before'⟩
          · exact coherent.apart i j r refresh before found ne other opened
          · exact coherent.apart i j r r' before before' ne other opened
      case closed =>
        intro other unopened
        apply coherent.closed other
        intro r there
        rcases mem_set_of_mem found there with rfl | kept
        · have still := unopened _ (mem_set_self found)
          exact still
        · exact unopened r kept
      case current =>
        intro settled other
        rcases coherent.current settled other with same | ⟨r, there, opened⟩ |
          ⟨czxid, alive, r, there, first, result', read, fits'⟩
        · exact .inl same
        · rcases mem_set_of_mem found there with rfl | kept
          · exact .inr (.inl ⟨_, mem_set_self found, opened⟩)
          · exact .inr (.inl ⟨r, kept, opened⟩)
        · refine .inr (.inr ⟨czxid, alive, ?_⟩)
          rcases mem_set_of_mem found there with rfl | kept
          · refine ⟨_, mem_set_self found, first, ?_⟩
            by_cases this : (⟨other, result'⟩ : Read) = ⟨name, none⟩
            · cases this
              obtain ⟨inside, _⟩ := List.getElem?_eq_some_iff.mp foundRead
              refine ⟨some (w.znode name), mem_set inside _, .inr ?_⟩
              rw [alive]
            · exact ⟨result', Refresh.mem_resolve foundRead read this, fits'⟩
          · exact ⟨r, kept, first, result', read, fits'⟩
      case answered => exact coherent.answered
      case fresh => exact coherent.fresh
      case reports => exact coherent.reports
      case alternates => exact coherent.alternates
    · exact coherent

end Cluster

end AkashicSystem.ClusterMaster
