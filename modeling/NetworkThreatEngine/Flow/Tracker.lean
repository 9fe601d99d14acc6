import NetworkThreatEngine.Flow.Record
import NetworkThreatEngine.Lib.Transition

/-!
# The flow tracker

`FlowTracker::update` and `evict_expired_flows` over the flow table. `update` looks the key up under
the shared lock first and again under the exclusive lock; each critical section is a definition of
its own.
-/
namespace Nte
open Transition Constants

/-- A node of the table. `id` stands for the address of its record: nodes are never moved, and two
nodes that live at the same time have different addresses. -/
structure FlowNode where
  id : Nat
  record : FlowRecord
  deriving DecidableEq, Repr

/-- `nodesMade` counts the nodes ever made; the source has no such field. -/
structure FlowTracker where
  config : FlowTrackerConfig
  table : AList fun _ : FlowKey => FlowNode := ∅
  totalFlowsCreated : UInt64 := 0
  totalFlowsEvicted : UInt64 := 0
  activeFlowCount : UInt64 := 0
  nodesMade : Nat := 0

namespace FlowTracker

def ofConfig (cfg : Config) : FlowTracker := { config := cfg.flowTracker }

def tableSize (t : FlowTracker) : Nat := t.table.entries.length

/-! ## Updating -/

/-- The two addresses of a packet the tracker looks at. -/
def addresses (info : PacketInfo) : Option (Addr128 × Addr128) :=
  if !info.valid then none
  else
    match info.l3Proto with
    | .IPv4 => some (makeAddr128FromIpv4String info.srcIp, makeAddr128FromIpv4String info.dstIp)
    | .IPv6 => some (makeAddr128FromIpv6String info.srcIp, makeAddr128FromIpv6String info.dstIp)
    | _ => none

/-- By the addresses alone. -/
def directionOf (srcAddr dstAddr : Addr128) : FlowDirection :=
  if srcAddr.val ≤ dstAddr.val then .LO_TO_HI else .HI_TO_LO

def updateNode (t : FlowTracker) (key : FlowKey) (node : FlowNode) (info : PacketInfo)
    (direction : FlowDirection) (now : TimePoint) : FlowTracker :=
  { t with
    table := t.table.insert key { node with record := node.record.updateRecord info direction now } }

def insertNode (t : FlowTracker) (key : FlowKey) (info : PacketInfo) (direction : FlowDirection)
    (now created : TimePoint) : FlowTracker :=
  { t with
    table := t.table.insert key ⟨t.nodesMade, (FlowRecord.create key created).updateRecord info direction now⟩
    totalFlowsCreated := t.totalFlowsCreated + 1
    activeFlowCount := t.activeFlowCount + 1
    nodesMade := t.nodesMade + 1 }

/-- The section under the exclusive lock. The clock reads `created` when a record is constructed. -/
def updateExclusive (t : FlowTracker) (key : FlowKey) (info : PacketInfo) (direction : FlowDirection)
    (now created : TimePoint) : Option Nat × FlowTracker :=
  match t.table.lookup key with
  | some node => (some node.id, t.updateNode key node info direction now)
  | none =>
      if t.tableSize ≥ t.config.maxFlows then (none, t)
      else (some t.nodesMade, t.insertNode key info direction now created)

/-- The section under the shared lock, and the other one when the key is not found. -/
def updateKey (t : FlowTracker) (key : FlowKey) (info : PacketInfo) (direction : FlowDirection)
    (now created : TimePoint) : Option Nat × FlowTracker :=
  match t.table.lookup key with
  | some node => (some node.id, t.updateNode key node info direction now)
  | none => t.updateExclusive key info direction now created

/-- The record a packet was accounted to, if any, and the tracker afterwards. -/
def update (t : FlowTracker) (info : PacketInfo) (now created : TimePoint) : Option Nat × FlowTracker :=
  match addresses info with
  | none => (none, t)
  | some (srcAddr, dstAddr) =>
      t.updateKey (.make srcAddr dstAddr info.srcPort info.dstPort info.ipProtoNum) info
        (directionOf srcAddr dstAddr) now created

/-! ## Eviction -/

def expired (cfg : FlowTrackerConfig) (now : TimePoint) (record : FlowRecord) : Bool :=
  let idle := secondsBetween now record.lastSeen
  if record.key.protocol = IPPROTO_TCP_NUM then
    (record.tcpState == .CLOSED && idle > 5) || idle > cfg.tcpFlowTimeoutSec
  else idle > cfg.udpFlowTimeoutSec

/-- The table without the nodes whose records satisfy `gone`. -/
def without (table : AList fun _ : FlowKey => FlowNode) (gone : FlowRecord → Bool) :
    AList fun _ : FlowKey => FlowNode :=
  ⟨table.entries.filter fun entry => !gone entry.2.record, table.nodupKeys.sublist List.filter_sublist⟩

def evictExpiredFlows (t : FlowTracker) (now : TimePoint) : FlowTracker :=
  let kept := without t.table (expired t.config now)
  let evicted := UInt64.ofNat (t.table.entries.length - kept.entries.length)
  { t with
    table := kept
    activeFlowCount := t.activeFlowCount - evicted
    totalFlowsEvicted := t.totalFlowsEvicted + evicted }

/-! ## Runs -/

/-- A call of `update`, with the readings of the clock inside it. -/
structure UpdateCall where
  info : PacketInfo
  now : TimePoint
  created : TimePoint
  deriving DecidableEq, Repr

inductive Step where
  | update (call : UpdateCall)
  | evict (now : TimePoint)
  deriving DecidableEq, Repr

def step (t : FlowTracker) : Step → FlowTracker
  | .update call => (t.update call.info call.now call.created).2
  | .evict now => t.evictExpiredFlows now

def machine (cfg : Config) : Machine FlowTracker Step where
  start := .ofConfig cfg
  next := fun t s => some (t.step s)

/-- Updates with no eviction between them. -/
def updates (t : FlowTracker) (calls : List UpdateCall) : FlowTracker :=
  calls.foldl (fun t call => t.step (.update call)) t

/-! ## Nodes -/

/-- The node under a key. -/
def HasNode (t : FlowTracker) (key : FlowKey) (id : Nat) : Prop :=
  ∃ node, t.table.lookup key = some node ∧ node.id = id

/-- Nodes under different keys are different, and a node to come is different from all of them. -/
structure NodesDistinct (t : FlowTracker) : Prop where
  old : ∀ key id, t.HasNode key id → id < t.nodesMade
  apart : ∀ key key' id, t.HasNode key id → t.HasNode key' id → key = key'

theorem HasNode.unique {t : FlowTracker} {key : FlowKey} {i j : Nat} (hi : t.HasNode key i)
    (hj : t.HasNode key j) : i = j := by
  obtain ⟨node, hnode, rfl⟩ := hi
  obtain ⟨node', hnode', rfl⟩ := hj
  rw [hnode] at hnode'
  obtain rfl := Option.some.inj hnode'
  rfl

/-- What an update does to the table: nothing, or a new record for an old node, or a new node. -/
theorem updateKey_cases (t : FlowTracker) (key : FlowKey) (info : PacketInfo) (direction : FlowDirection)
    (now created : TimePoint) :
    (∃ node, t.table.lookup key = some node ∧
        t.updateKey key info direction now created =
          (some node.id, t.updateNode key node info direction now)) ∨
      (t.table.lookup key = none ∧ t.config.maxFlows ≤ t.tableSize ∧
        t.updateKey key info direction now created = (none, t)) ∨
      (t.table.lookup key = none ∧ t.tableSize < t.config.maxFlows ∧
        t.updateKey key info direction now created =
          (some t.nodesMade, t.insertNode key info direction now created)) := by
  cases h : t.table.lookup key with
  | some node =>
      refine .inl ⟨node, rfl, ?_⟩
      rw [updateKey, h]
  | none =>
      rw [updateKey, h]
      dsimp only
      rw [updateExclusive, h]
      by_cases full : t.config.maxFlows ≤ t.tableSize
      · exact .inr (.inl ⟨rfl, full, if_pos full⟩)
      · exact .inr (.inr ⟨rfl, by omega, if_neg full⟩)

section Nodes
variable {t : FlowTracker} {key key' : FlowKey} {id : Nat} {node : FlowNode} (info : PacketInfo)
  (direction : FlowDirection) (now created : TimePoint)

theorem hasNode_updateNode (h : t.table.lookup key = some node) :
    (t.updateNode key node info direction now).HasNode key' id ↔ t.HasNode key' id := by
  unfold HasNode updateNode
  by_cases same : key' = key
  · subst same
    rw [h, AList.lookup_insert]
    simp
  · rw [AList.lookup_insert_ne same]

theorem hasNode_insertNode (h : t.table.lookup key = none) :
    (t.insertNode key info direction now created).HasNode key' id ↔
      t.HasNode key' id ∨ key' = key ∧ id = t.nodesMade := by
  unfold HasNode insertNode
  by_cases same : key' = key
  · subst same
    rw [h, AList.lookup_insert]
    simp [eq_comm]
  · rw [AList.lookup_insert_ne same]
    simp [same]

theorem NodesDistinct.updateNode (ht : t.NodesDistinct) (h : t.table.lookup key = some node) :
    (t.updateNode key node info direction now).NodesDistinct := by
  constructor
  · intro key' id
    rw [hasNode_updateNode info direction now h]
    exact ht.old key' id
  · intro key' key'' id
    rw [hasNode_updateNode info direction now h, hasNode_updateNode info direction now h]
    exact ht.apart key' key'' id

theorem NodesDistinct.insertNode (ht : t.NodesDistinct) (h : t.table.lookup key = none) :
    (t.insertNode key info direction now created).NodesDistinct := by
  constructor
  · intro key' id
    rw [hasNode_insertNode info direction now created h]
    rintro (old | ⟨-, rfl⟩)
    · exact Nat.lt_succ_of_lt (ht.old key' id old)
    · exact Nat.lt_succ_self _
  · intro key' key'' id
    rw [hasNode_insertNode info direction now created h, hasNode_insertNode info direction now created h]
    rintro (old | ⟨rfl, rfl⟩) (old' | ⟨rfl, hid⟩)
    · exact ht.apart key' key'' id old old'
    · exact absurd (ht.old key' id old) (by omega)
    · exact absurd (ht.old key'' _ old') (by omega)
    · rfl

variable (key)

theorem NodesDistinct.updateKey (ht : t.NodesDistinct) :
    (t.updateKey key info direction now created).2.NodesDistinct := by
  rcases updateKey_cases t key info direction now created with ⟨node, h, heq⟩ | ⟨h, -, heq⟩ | ⟨h, -, heq⟩
  · rw [heq]
    exact ht.updateNode info direction now h
  · rw [heq]
    exact ht
  · rw [heq]
    exact ht.insertNode info direction now created h

/-- An update keeps the nodes there are. -/
theorem HasNode.updateKey (h : t.HasNode key' id) :
    (t.updateKey key info direction now created).2.HasNode key' id := by
  rcases updateKey_cases t key info direction now created with ⟨node, hl, heq⟩ | ⟨hl, -, heq⟩ | ⟨hl, -, heq⟩
  · rw [heq]
    exact (hasNode_updateNode info direction now hl).mpr h
  · rw [heq]
    exact h
  · rw [heq]
    exact (hasNode_insertNode info direction now created hl).mpr (.inl h)

/-- Below the limit a packet is accounted to the node of its key. -/
theorem updateKey_hasNode (room : t.tableSize < t.config.maxFlows) :
    ∃ id, (t.updateKey key info direction now created).1 = some id ∧
      (t.updateKey key info direction now created).2.HasNode key id := by
  rcases updateKey_cases t key info direction now created with ⟨node, h, heq⟩ | ⟨-, full, -⟩ | ⟨h, -, heq⟩
  · rw [heq]
    exact ⟨node.id, rfl, (hasNode_updateNode info direction now h).mpr ⟨node, h, rfl⟩⟩
  · omega
  · rw [heq]
    exact ⟨t.nodesMade, rfl, (hasNode_insertNode info direction now created h).mpr (.inr ⟨rfl, rfl⟩)⟩

end Nodes

theorem hasNode_without {table : AList fun _ : FlowKey => FlowNode} {gone : FlowRecord → Bool} {key : FlowKey}
    {node : FlowNode} (h : (without table gone).lookup key = some node) : table.lookup key = some node := by
  have kept : Sigma.mk key node ∈ (without table gone).entries := AList.mem_lookup_iff.mp h
  exact AList.mem_lookup_iff.mpr (List.mem_of_mem_filter kept)

theorem NodesDistinct.evict {t : FlowTracker} (ht : t.NodesDistinct) (now : TimePoint) :
    (t.evictExpiredFlows now).NodesDistinct := by
  have before : ∀ key id, (t.evictExpiredFlows now).HasNode key id → t.HasNode key id := by
    rintro key id ⟨node, h, hid⟩
    exact ⟨node, hasNode_without h, hid⟩
  constructor
  · intro key id h
    exact ht.old key id (before key id h)
  · intro key key' id h h'
    exact ht.apart key key' id (before key id h) (before key' id h')

theorem NodesDistinct.step {t : FlowTracker} (ht : t.NodesDistinct) (s : Step) : (t.step s).NodesDistinct := by
  cases s with
  | update call =>
      change (t.update call.info call.now call.created).2.NodesDistinct
      unfold update
      cases addresses call.info with
      | none => exact ht
      | some addrs => exact ht.updateKey _ _ _ _ _
  | evict now => exact ht.evict now

theorem HasNode.updates {t : FlowTracker} {key : FlowKey} {id : Nat} (h : t.HasNode key id)
    (calls : List UpdateCall) : (t.updates calls).HasNode key id := by
  induction calls generalizing t with
  | nil => exact h
  | cons call calls ih =>
      refine ih ?_
      change (t.update call.info call.now call.created).2.HasNode key id
      unfold update
      cases addresses call.info with
      | none => exact h
      | some addrs => exact h.updateKey _ _ _ _ _

theorem NodesDistinct.updates {t : FlowTracker} (ht : t.NodesDistinct) (calls : List UpdateCall) :
    (t.updates calls).NodesDistinct := by
  induction calls generalizing t with
  | nil => exact ht
  | cons call calls ih => exact ih (ht.step (.update call))

/-- Two updates below the limit, with updates and no eviction between them, meet in one node exactly
when their keys are equal. -/
theorem updateKey_sameNode {t : FlowTracker} (ht : t.NodesDistinct) (key key' : FlowKey)
    (info info' : PacketInfo) (direction direction' : FlowDirection) (now created now' created' : TimePoint)
    (between : List UpdateCall) (room : t.tableSize < t.config.maxFlows)
    (room' : ((t.updateKey key info direction now created).2.updates between).tableSize <
      ((t.updateKey key info direction now created).2.updates between).config.maxFlows) :
    ∃ i j, (t.updateKey key info direction now created).1 = some i ∧
      (((t.updateKey key info direction now created).2.updates between).updateKey key' info' direction'
        now' created').1 = some j ∧ (i = j ↔ key = key') := by
  have distinct := ((ht.updateKey key info direction now created).updates between).updateKey
    key' info' direction' now' created'
  obtain ⟨i, hi, node⟩ := updateKey_hasNode key info direction now created room
  obtain ⟨j, hj, node'⟩ := updateKey_hasNode key' info' direction' now' created' room'
  have kept := (node.updates between).updateKey key' info' direction' now' created'
  refine ⟨i, j, hi, hj, ?_, ?_⟩
  · rintro rfl
    exact distinct.apart key key' i kept node'
  · rintro rfl
    exact kept.unique node'

/-- In every tracker that updates and evictions lead to. -/
theorem reachable_nodesDistinct {cfg : Config} {t : FlowTracker} (reach : (machine cfg).Reachable t) :
    t.NodesDistinct := by
  refine reach.invariant _ NodesDistinct ?_ ?_
  · constructor
    · rintro key id ⟨node, h, -⟩
      cases h
    · rintro key key' id ⟨node, h, -⟩ -
      cases h
  · intro t s t' ht hnext
    obtain rfl : t.step s = t' := Option.some.inj hnext
    exact ht.step s

end FlowTracker

end Nte
