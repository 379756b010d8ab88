import AkashicSystem.Lib.Run
import Mathlib.Data.List.AList

/-!
# The monitor of the cluster's processes

The monitor lists the znodes of the processes, compares the list with what it has seen,
reads every znode, and reads those that are new once more before it reports them.
Refreshes overlap: one starts on each event, whatever the others await.  A znode is named
by the key string of the identity in its data, and stands for it.
-/

set_option autoImplicit false

namespace AkashicSystem.ClusterMaster

abbrev Table := AList fun _ : String => Nat

/-- A `resolveAliveNode`. -/
structure Read where
  name : String
  /-- Nothing while it is awaited, then the znode, or null. -/
  result : Option (Option Nat)
deriving DecidableEq

inductive Round where
  | first
  | second
deriving DecidableEq

/-- An `onChildrenChanged` that awaits the reads of one of its two rounds. -/
structure Refresh where
  round : Round
  added : List String
  deleted : List String
  reads : List Read

inductive Report where
  | nodeJoined (name : String) (czxid : Nat)
  | nodeLeaved (name : String) (czxid : Nat)

def Report.name : Report → String
  | .nodeJoined name _ => name
  | .nodeLeaved name _ => name

def Read.asked (name : String) : Read := ⟨name, none⟩

structure Monitor where
  childrenCache : Table
  processes : Table
  refreshes : List Refresh
  reports : List Report

/-- The cache and the two lists, as the first round leaves them. -/
structure Comparison where
  cache : Table
  added : List String
  deleted : List String

def Table.Outdated (cache : Table) (name : String) (czxid : Nat) : Prop :=
  ∃ cached ∈ cache.lookup name, cached ≠ czxid

instance (cache : Table) (name : String) (czxid : Nat) :
    Decidable (Table.Outdated cache name czxid) :=
  inferInstanceAs (Decidable (∃ cached ∈ cache.lookup name, cached ≠ czxid))

def Comparison.note (c : Comparison) (read : Read) : Comparison :=
  match read.result with
  | some (some czxid) =>
    let again := if Table.Outdated c.cache read.name czxid then [read.name] else []
    ⟨c.cache.insert read.name czxid, c.added ++ again, c.deleted ++ again⟩
  | _ => c

namespace Monitor

def new : Monitor := ⟨∅, ∅, [], []⟩

variable (m : Monitor)

def getAllNodes : List (String × Nat) :=
  m.processes.entries.map fun entry => (entry.1, entry.2)

variable (children : List String)

def added : List String :=
  children.filter fun name => name ∉ m.childrenCache.keys

def deleted : List String :=
  m.childrenCache.keys.filter fun name => name ∉ children

def onChildrenChanged : Monitor :=
  { m with
    childrenCache := (m.deleted children).foldl (fun cache name => cache.erase name)
      m.childrenCache
    refreshes := m.refreshes ++
      [⟨.first, m.added children, m.deleted children, children.map .asked⟩] }

def leave (name : String) : Monitor :=
  match m.processes.lookup name with
  | none => m
  | some czxid =>
    { m with
      processes := m.processes.erase name
      reports := m.reports ++ [Report.nodeLeaved name czxid] }

def onAliveZNodeDeleted (childNames : List String) : Monitor :=
  childNames.foldl leave m

def join (aliveNode : Read) : Monitor :=
  match aliveNode.result with
  | some (some czxid) =>
    { m with
      processes := m.processes.insert aliveNode.name czxid
      reports := m.reports ++ [Report.nodeJoined aliveNode.name czxid] }
  | _ => m

def onAliveZNodeAdded (aliveNodes : List Read) : Monitor :=
  aliveNodes.foldl join m

def compared (index : Nat) (refresh : Refresh) : Monitor :=
  let c := refresh.reads.foldl Comparison.note
    ⟨m.childrenCache, refresh.added, refresh.deleted⟩
  { m with
    childrenCache := c.cache
    refreshes := m.refreshes.set index ⟨.second, c.added, c.deleted, c.added.map .asked⟩ }

def reported (index : Nat) (refresh : Refresh) : Monitor :=
  { m with refreshes := m.refreshes.eraseIdx index }
    |>.onAliveZNodeDeleted refresh.deleted
    |>.onAliveZNodeAdded refresh.reads

def proceed (index : Nat) : Monitor :=
  match m.refreshes[index]? with
  | none => m
  | some refresh =>
    if ∀ read ∈ refresh.reads, read.result.isSome then
      match refresh.round with
      | .first => m.compared index refresh
      | .second => m.reported index refresh
    else m

def resolve (index position : Nat) (result : String → Option Nat) : Monitor :=
  match m.refreshes[index]? with
  | none => m
  | some refresh =>
    match refresh.reads[position]? with
    | some ⟨name, none⟩ =>
      let reads := refresh.reads.set position ⟨name, some (result name)⟩
      { m with refreshes := m.refreshes.set index { refresh with reads := reads } }
    | _ => m

end Monitor

/-- The `getChildren` of `connect`, of which one is called after the other. -/
inductive Chain where
  /-- `connect` has not been called. -/
  | idle
  | requested
  /-- ZooKeeper has given the children and set the watch, which may have fired since. -/
  | answered (children : List String) (fired : Bool)
  | watching (fired : Bool)
  | stopped
deriving DecidableEq

structure Cluster where
  znodes : Table
  zxid : Nat
  history : List Report
  chain : Chain
  monitor : Monitor

namespace Cluster

inductive Action where
  | connect
  | create (name : String)
  | delete (name : String)
  /-- ZooKeeper serves the `getChildren`, the client calls back, or it fails. -/
  | getChildren
  | children
  | childrenFailed (loss : Bool)
  | childrenChanged
  | getData (index position : Nat)
  | getDataFailed (index position : Nat)
  | proceed (index : Nat)

def fire : Chain → Chain
  | .answered children _ => .answered children true
  | .watching _ => .watching true
  | chain => chain

def new : Cluster := ⟨∅, 0, [], .idle, .new⟩

def step (w : Cluster) : Action → Cluster
  | .connect => if w.chain = .idle then { w with chain := .requested } else w
  | .create name =>
    if (w.znodes.lookup name).isSome then w
    else
      { w with
        znodes := w.znodes.insert name w.zxid
        zxid := w.zxid + 1
        history := w.history ++ [Report.nodeJoined name w.zxid]
        chain := fire w.chain }
  | .delete name =>
    match w.znodes.lookup name with
    | none => w
    | some czxid =>
      { w with
        znodes := w.znodes.erase name
        history := w.history ++ [Report.nodeLeaved name czxid]
        chain := fire w.chain }
  | .getChildren =>
    if w.chain = .requested then { w with chain := .answered w.znodes.keys false } else w
  | .children =>
    match w.chain with
    | .answered children fired =>
      { w with chain := .watching fired, monitor := w.monitor.onChildrenChanged children }
    | _ => w
  | .childrenFailed loss =>
    match w.chain with
    | .requested | .answered _ _ => { w with chain := if loss then .requested else .stopped }
    | _ => w
  | .childrenChanged => if w.chain = .watching true then { w with chain := .requested } else w
  | .getData index position =>
    { w with monitor := w.monitor.resolve index position fun name => w.znodes.lookup name }
  | .getDataFailed index position =>
    { w with monitor := w.monitor.resolve index position fun _ => none }
  | .proceed index => { w with monitor := w.monitor.proceed index }

end Cluster

end AkashicSystem.ClusterMaster
