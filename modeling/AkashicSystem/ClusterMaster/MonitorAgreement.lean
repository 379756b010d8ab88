import AkashicSystem.ClusterMaster.MonitorRounds

/-!
# The monitor and the znodes

Once nothing is awaited, the monitor lists the znodes there are, and has reported their
history.  Refreshes that take up the same name report a process twice, or forget it.
-/

set_option autoImplicit false

namespace AkashicSystem.ClusterMaster

namespace Cluster

theorem coherent_step (w : Cluster) (action : Action) (coherent : w.Coherent)
    (permitted : w.Permitted action) : (w.step action).Coherent := by
  cases action with
  | connect =>
    simp only [step]
    split
    · apply coherent.chain .requested (by simp)
      intro children fired other
      cases other
    · exact coherent
  | create name =>
    simp only [step]
    split
    · exact coherent
    · rename_i absent
      have absent' : w.znodes.lookup name = none := by simpa using absent
      exact coherent_create w name coherent absent'
  | delete name =>
    simp only [step]
    split
    · exact coherent
    · rename_i czxid alive
      exact coherent_delete w name czxid coherent alive (permitted czxid alive)
  | getChildren =>
    simp only [step]
    split
    · apply coherent.chain (.answered w.znodes.keys false) (by simp)
      intro children fired eq
      cases eq
      have listed : ∀ name, name ∈ w.znodes.keys ↔ w.znode name ≠ none := by
        intro name
        rw [← AList.mem_keys, znode, Ne, AList.lookup_eq_none, not_not]
      exact ⟨w.znodes.keys_nodup, fun _ => listed, fun name there => .inl ((listed name).mp there)⟩
    · exact coherent
  | children =>
    simp only [step]
    split
    · rename_i children fired answered
      have allowed : (∀ name ∈ w.monitor.added children ++ w.monitor.deleted children,
          ∀ refresh ∈ w.monitor.refreshes, ¬refresh.Open name) ∧
          ∀ name ∈ w.monitor.deleted children, w.znode name ≠ w.cached name := by
        simpa only [Permitted, answered] using permitted
      exact coherent_children w children fired coherent answered allowed.1 allowed.2
    · exact coherent
  | childrenFailed loss =>
    have failed : ({ w with chain := if loss then .requested else .stopped }
      : Cluster).Coherent := by
      apply coherent.chain
      · cases loss <;> simp
      · intro children fired other
        cases loss <;> cases other
    simp only [step]
    split
    · exact failed
    · exact failed
    · exact coherent
  | childrenChanged =>
    simp only [step]
    split
    · apply coherent.chain .requested (by simp)
      intro children fired other
      cases other
    · exact coherent
  | getData index position =>
    exact coherent_resolve w index position _ coherent fun _ _ _ _ _ => rfl
  | getDataFailed index position =>
    apply coherent_resolve w index position _ coherent
    intro refresh found read foundRead awaited
    exact (permitted refresh found read foundRead awaited).symm
  | proceed index =>
    simp only [step, Monitor.proceed]
    split
    · exact coherent
    · rename_i refresh found
      split
      · rename_i done
        split
        · rename_i first
          exact coherent_compared w index refresh coherent found first done
            (permitted refresh found first)
        · rename_i second
          exact coherent_reported w index refresh coherent found second done
      · exact coherent

/-- The reports of each process alternate; once nothing is outstanding, the monitor lists the
znodes there are, and has reported of each process what has happened to its znode. -/
structure Faithful (w : Cluster) : Prop where
  alternates : ∀ name, Alternates (w.monitor.about name)
  nodes : w.Quiet → ∀ name czxid,
    (name, czxid) ∈ w.monitor.getAllNodes ↔ w.znode name = some czxid
  reports : w.Quiet → ∀ name, w.monitor.about name = w.past name

theorem mem_getAllNodes (m : Monitor) (name : String) (czxid : Nat) :
    (name, czxid) ∈ m.getAllNodes ↔ m.processes.lookup name = some czxid := by
  have entry : m.processes.lookup name = some czxid ↔ ⟨name, czxid⟩ ∈ m.processes.entries :=
    AList.mem_lookup_iff
  rw [entry, Monitor.getAllNodes, List.mem_map]
  constructor
  · rintro ⟨⟨name', czxid'⟩, there, eq⟩
    cases eq
    exact there
  · intro there
    exact ⟨⟨name, czxid⟩, there, rfl⟩

theorem Coherent.faithful {w : Cluster} (coherent : w.Coherent) : w.Faithful := by
  have agrees : w.Quiet → ∀ name, w.process name = w.znode name := by
    rintro ⟨settled, idle⟩ name
    rcases coherent.current settled name with same | ⟨r, there, _⟩ | ⟨_, _, r, there, _⟩
    · exact same
    · rw [idle] at there
      cases there
    · rw [idle] at there
      cases there
  constructor
  case alternates =>
    intro name
    have past := coherent.alternates name
    rw [coherent.reports name, List.foldlM_append] at past
    obtain ⟨znode, reported, _⟩ := Option.bind_eq_some_iff.mp past
    rw [Alternates, reported]
    rfl
  case nodes =>
    intro quiet name czxid
    rw [mem_getAllNodes, ← agrees quiet name]
    exact Iff.rfl
  case reports =>
    intro quiet name
    rw [coherent.reports name, agrees quiet name, due, if_pos rfl, List.append_nil]

/-- Where no two refreshes take up one name, and no znode goes before it has been reported, the
monitor is faithful. -/
theorem faithful_of_permitted (actions : List Action)
    (run : Run.Allowed step Permitted new actions) : (Run.final step new actions).Faithful :=
  (Run.invariant coherent_step new actions coherent_new run).faithful

/-- `connect`, while there is no process. -/
def connected : List Action := [.connect, .getChildren, .children, .proceed 0, .proceed 0]

def listed : List Action := [.childrenChanged, .getChildren, .children]

/-- A process starts and ends. -/
theorem restarted_faithful : (Run.final step new (connected ++ [Action.create "a"] ++ listed ++
      [Action.getData 0 0, .proceed 0, .getData 0 0, .proceed 0, .delete "a", .create "a"] ++ listed ++
      [Action.getData 0 0, .proceed 0, .getData 0 0, .proceed 0])).Faithful :=
  faithful_of_permitted _ (by decide +kernel)

/-- A second process starts while the first one is read: both refreshes report the first. -/
theorem overlapping_unfaithful :
    ¬∀ actions : List Action, (Run.final step new actions).Faithful := by
  intro always
  have faithful := always (connected ++ [Action.create "a"] ++ listed ++ [Action.create "b"] ++ listed ++
    [Action.getData 0 0, .proceed 0, .getData 0 0, .proceed 0, .getData 0 0, .getData 0 1, .proceed 0,
      .getData 0 0, .getData 0 1, .proceed 0])
  have alternates := faithful.alternates "a"
  exact absurd alternates (by decide +kernel)

end Cluster

end AkashicSystem.ClusterMaster
