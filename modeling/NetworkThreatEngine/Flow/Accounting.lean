import NetworkThreatEngine.Flow.Evidence
import NetworkThreatEngine.Flow.Tracker

/-!
# Accounting of the flow table

Any number of callers of `update` and the reaper, each critical section a step of its own: a caller that
misses its key under the shared lock waits for the exclusive one, and others may come in between. The
ids that calls returned are kept for the statements.
-/
namespace Nte
open Transition

namespace FlowRecord

theorem core_key (record : FlowRecord) : record.core.key = record.key := rfl

theorem advance_key (record : FlowRecord) (p : Segment) : (record.advance p).key = record.key := by
  cases h : p.rst with
  | true => simp [advance_rst record p h, countFlags]
  | false =>
      rw [advance_of_not_rst record p h, transition]
      cases (record.countFlags p.flags).tcpState <;> dsimp only <;> split <;> rfl

theorem accounted_key (record : FlowRecord) (q : FlowPacket) : (record.accounted q).key = record.key := by
  unfold accounted
  cases q.direction <;> rfl

theorem accounted_totalPackets (record : FlowRecord) (q : FlowPacket) :
    (record.accounted q).totalPackets = record.totalPackets + 1 := by
  unfold accounted
  cases q.direction <;> rfl

theorem updateRecord_key (record : FlowRecord) (info : PacketInfo) (direction : FlowDirection) (now : TimePoint) :
    (record.updateRecord info direction now).key = record.key := by
  have same := congrArg key (core_receive record ⟨info, direction, now⟩)
  rw [core_key, core_key] at same
  refine same.trans ?_
  split
  · rw [advance_key, accounted_key]
  · exact accounted_key record _

theorem updateRecord_totalPackets (record : FlowRecord) (info : PacketInfo) (direction : FlowDirection)
    (now : TimePoint) : (record.updateRecord info direction now).totalPackets = record.totalPackets + 1 := by
  have same := congrArg totalPackets (core_receive record ⟨info, direction, now⟩)
  refine same.trans ?_
  split
  · have totals := advance_totals (record.accounted ⟨info, direction, now⟩) ⟨info.tcpFlags, direction⟩
    exact (congrArg Prod.fst totals).trans (accounted_totalPackets record _)
  · exact accounted_totalPackets record _

end FlowRecord

namespace FlowTracker

/-- The section under the shared lock: nothing is returned when the key is not found. -/
def updateShared (t : FlowTracker) (key : FlowKey) (info : PacketInfo) (direction : FlowDirection)
    (now : TimePoint) : Option Nat × FlowTracker :=
  match t.table.lookup key with
  | some node => (some node.id, t.updateNode key node info direction now)
  | none => (none, t)

/-- A call that nobody interrupts is its two sections. -/
theorem updateKey_eq (t : FlowTracker) (key : FlowKey) (info : PacketInfo) (direction : FlowDirection)
    (now created : TimePoint) :
    t.updateKey key info direction now created =
      match t.updateShared key info direction now with
      | (some id, t') => (some id, t')
      | (none, t') => t'.updateExclusive key info direction now created := by
  unfold updateKey updateShared
  cases t.table.lookup key <;> rfl

end FlowTracker

/-- A call that has missed its key and waits for the exclusive lock. -/
structure WaitingCall where
  key : FlowKey
  info : PacketInfo
  direction : FlowDirection
  now : TimePoint
  deriving DecidableEq, Repr

structure SharedTable where
  tracker : FlowTracker
  waiting : List WaitingCall := []
  returned : List Nat := []

inductive TableStep where
  | read (info : PacketInfo) (now : TimePoint)
  | write (caller : Nat) (created : TimePoint)
  | evict (now : TimePoint)
  deriving DecidableEq, Repr

namespace SharedTable
open FlowTracker

def start (cfg : Config) : SharedTable := { tracker := .ofConfig cfg }

/-- A call ends with the record it was accounted to, or with null. -/
def finish (s : SharedTable) : Option Nat × FlowTracker → SharedTable
  | (some id, tracker) => { s with tracker, returned := s.returned ++ [id] }
  | (none, tracker) => { s with tracker }

/-- A call begins; a packet without addresses returns null at once. -/
def read (s : SharedTable) (info : PacketInfo) (now : TimePoint) : SharedTable :=
  match addresses info with
  | none => s
  | some (srcAddr, dstAddr) =>
      let key := FlowKey.make srcAddr dstAddr info.srcPort info.dstPort info.ipProtoNum
      let direction := directionOf srcAddr dstAddr
      match s.tracker.updateShared key info direction now with
      | (some id, tracker) => s.finish (some id, tracker)
      | (none, _) => { s with waiting := s.waiting ++ [⟨key, info, direction, now⟩] }

def next (s : SharedTable) : TableStep → Option SharedTable
  | .read info now => some (s.read info now)
  | .write caller created =>
      (s.waiting[caller]?).map fun call =>
        { s with waiting := s.waiting.eraseIdx caller }.finish
          (s.tracker.updateExclusive call.key call.info call.direction call.now created)
  | .evict now => some { s with tracker := s.tracker.evictExpiredFlows now }

def machine (cfg : Config) : Machine SharedTable TableStep := ⟨start cfg, next⟩

/-! ## What a step does -/

/-- Nothing, a packet accounted to an old record, a packet accounted to a new record, or an eviction. -/
theorem next_cases {s s' : SharedTable} {a : TableStep} (h : s.next a = some s') :
    (s'.tracker = s.tracker ∧ s'.returned = s.returned) ∨
      (∃ key node info direction now, s.tracker.table.lookup key = some node ∧
        s'.tracker = s.tracker.updateNode key node info direction now ∧ s'.returned = s.returned ++ [node.id]) ∨
      (∃ key info direction now created, s.tracker.table.lookup key = none ∧
        s.tracker.tableSize < s.tracker.config.maxFlows ∧
        s'.tracker = s.tracker.insertNode key info direction now created ∧
        s'.returned = s.returned ++ [s.tracker.nodesMade]) ∨
      ∃ now, a = .evict now ∧ s'.tracker = s.tracker.evictExpiredFlows now ∧ s'.returned = s.returned := by
  cases a with
  | read info now =>
      obtain rfl : s.read info now = s' := Option.some.inj h
      unfold read
      cases addresses info with
      | none => exact .inl ⟨rfl, rfl⟩
      | some addrs =>
          dsimp only
          rw [updateShared]
          cases hl : s.tracker.table.lookup (.make addrs.1 addrs.2 info.srcPort info.dstPort info.ipProtoNum) with
          | none => exact .inl ⟨rfl, rfl⟩
          | some node => exact .inr (.inl ⟨_, node, info, directionOf addrs.1 addrs.2, now, hl, rfl, rfl⟩)
  | write caller created =>
      obtain ⟨call, -, rfl⟩ := Option.map_eq_some_iff.mp h
      rw [updateExclusive]
      cases hl : s.tracker.table.lookup call.key with
      | some node => exact .inr (.inl ⟨call.key, node, call.info, call.direction, call.now, hl, rfl, rfl⟩)
      | none =>
          dsimp only
          by_cases full : s.tracker.config.maxFlows ≤ s.tracker.tableSize
          · rw [if_pos full]
            exact .inl ⟨rfl, rfl⟩
          · rw [if_neg full]
            exact .inr (.inr (.inl ⟨call.key, call.info, call.direction, call.now, created, hl, by omega, rfl, rfl⟩))
  | evict now =>
      obtain rfl : { s with tracker := s.tracker.evictExpiredFlows now } = s' := Option.some.inj h
      exact .inr (.inr (.inr ⟨now, rfl, rfl, rfl⟩))

end SharedTable

namespace FlowTracker

section Sizes
variable {t : FlowTracker} {key : FlowKey} {node : FlowNode} (info : PacketInfo) (direction : FlowDirection)
  (now created : TimePoint)

theorem tableSize_updateNode (h : t.table.lookup key = some node) :
    (t.updateNode key node info direction now).tableSize = t.tableSize := by
  have member : key ∈ t.table.keys := by
    refine AList.mem_keys.mp (AList.lookup_isSome.mp ?_)
    rw [h]
    rfl
  have positive := List.length_pos_of_mem member
  have sizes : ∀ table : AList fun _ : FlowKey => FlowNode, table.entries.length = table.keys.length := by
    intro table
    exact (List.length_map _).symm
  unfold tableSize updateNode
  rw [sizes, sizes, AList.keys_insert, List.length_cons, List.length_erase_of_mem member]
  omega

theorem tableSize_insertNode (h : t.table.lookup key = none) :
    (t.insertNode key info direction now created).tableSize = t.tableSize + 1 := by
  unfold tableSize insertNode
  rw [AList.entries_insert_of_notMem (AList.lookup_eq_none.mp h), List.length_cons]

theorem tableSize_evict : (t.evictExpiredFlows now).tableSize ≤ t.tableSize := List.length_filter_le ..

end Sizes

theorem lookup_insert_cases {table : AList fun _ : FlowKey => FlowNode} {key key' : FlowKey} {node node' : FlowNode}
    (h : (table.insert key node).lookup key' = some node') :
    (key' = key ∧ node' = node) ∨ (key' ≠ key ∧ table.lookup key' = some node') := by
  by_cases same : key' = key
  · subst same
    rw [AList.lookup_insert] at h
    exact .inl ⟨rfl, (Option.some.inj h).symm⟩
  · rw [AList.lookup_insert_ne same] at h
    exact .inr ⟨same, h⟩

/-- The counters of the tracker, the capacity and the keys of the records. -/
structure Balanced (t : FlowTracker) : Prop where
  active : t.activeFlowCount = UInt64.ofNat t.tableSize
  balance : t.totalFlowsCreated - t.totalFlowsEvicted = UInt64.ofNat t.tableSize
  capacity : t.tableSize ≤ t.config.maxFlows
  unique : t.table.keys.Nodup
  keyed : ∀ key node, t.table.lookup key = some node → node.record.key = key

theorem ofNat_sub_sub {a b : Nat} (h : b ≤ a) : UInt64.ofNat a - UInt64.ofNat (a - b) = UInt64.ofNat b := by
  have whole : UInt64.ofNat a = UInt64.ofNat b + UInt64.ofNat (a - b) := by
    rw [← UInt64.ofNat_add, Nat.add_sub_cancel' h]
  rw [whole, UInt64.add_sub_cancel]

section Balanced
variable {t : FlowTracker} (h : t.Balanced) (info : PacketInfo) (direction : FlowDirection) (now created : TimePoint)
include h

theorem Balanced.updateNode {key : FlowKey} {node : FlowNode} (found : t.table.lookup key = some node) :
    (t.updateNode key node info direction now).Balanced where
  active := by
    rw [tableSize_updateNode info direction now found]
    exact h.active
  balance := by
    rw [tableSize_updateNode info direction now found]
    exact h.balance
  capacity := by
    rw [tableSize_updateNode info direction now found]
    exact h.capacity
  unique := AList.keys_nodup _
  keyed := by
    intro key' node' lookup
    rcases lookup_insert_cases lookup with ⟨rfl, rfl⟩ | ⟨-, old⟩
    · exact (FlowRecord.updateRecord_key ..).trans (h.keyed _ _ found)
    · exact h.keyed _ _ old

theorem Balanced.insertNode {key : FlowKey} (absent : t.table.lookup key = none)
    (room : t.tableSize < t.config.maxFlows) : (t.insertNode key info direction now created).Balanced where
  active := by
    rw [tableSize_insertNode info direction now created absent, UInt64.ofNat_add, ← h.active]
    rfl
  balance := by
    rw [tableSize_insertNode info direction now created absent, UInt64.ofNat_add, ← h.balance]
    change t.totalFlowsCreated + 1 - t.totalFlowsEvicted = t.totalFlowsCreated - t.totalFlowsEvicted + 1
    grind
  capacity := by
    rw [tableSize_insertNode info direction now created absent]
    exact room
  unique := AList.keys_nodup _
  keyed := by
    intro key' node' lookup
    rcases lookup_insert_cases lookup with ⟨rfl, rfl⟩ | ⟨-, old⟩
    · exact FlowRecord.updateRecord_key ..
    · exact h.keyed _ _ old

theorem Balanced.evict : (t.evictExpiredFlows now).Balanced where
  active := by
    rw [← ofNat_sub_sub (tableSize_evict (t := t) now), ← h.active]
    rfl
  balance := by
    rw [← ofNat_sub_sub (tableSize_evict (t := t) now), ← h.balance]
    exact (sub_sub _ _ _).symm
  capacity := Nat.le_trans (tableSize_evict now) h.capacity
  unique := AList.keys_nodup _
  keyed := fun key node lookup => h.keyed key node (hasNode_without lookup)

theorem Balanced.step (s : Step) : (t.step s).Balanced := by
  cases s with
  | evict now => exact h.evict now
  | update call =>
      rw [FlowTracker.step, FlowTracker.update]
      split
      · exact h
      · rcases updateKey_cases t _ call.info _ call.now call.created with ⟨node, found, eq⟩ | ⟨-, -, eq⟩ |
          ⟨absent, room, eq⟩
        · rw [eq]
          exact h.updateNode _ _ _ found
        · rw [eq]
          exact h
        · rw [eq]
          exact h.insertNode _ _ _ _ absent room

end Balanced

end FlowTracker

namespace SharedTable
open FlowTracker

/-! ## Runs -/

/-- The tracker is balanced, and each record counts the calls that returned it. -/
structure Accounts (s : SharedTable) : Prop where
  balanced : s.tracker.Balanced
  distinct : s.tracker.NodesDistinct
  made : ∀ id ∈ s.returned, id < s.tracker.nodesMade
  counted : ∀ key node, s.tracker.table.lookup key = some node →
    node.record.totalPackets = UInt64.ofNat (s.returned.count node.id)

theorem ofNat_count_snoc (ids : List Nat) (id : Nat) :
    UInt64.ofNat ((ids ++ [id]).count id) = UInt64.ofNat (ids.count id) + 1 := by
  rw [List.count_append, List.count_singleton_self, UInt64.ofNat_add]
  rfl

theorem count_snoc_of_ne {ids : List Nat} {id new : Nat} (h : id ≠ new) : (ids ++ [new]).count id = ids.count id := by
  rw [List.count_append, List.count_singleton, if_neg (by simpa using h.symm), Nat.add_zero]

theorem accounts_start (cfg : Config) : (start cfg).Accounts where
  balanced := ⟨rfl, sub_self (0 : UInt64), Nat.zero_le _, List.nodup_nil, by rintro key node ⟨⟩⟩
  distinct := by
    constructor
    · rintro key id ⟨node, h, -⟩
      cases h
    · rintro key key' id ⟨node, h, -⟩ -
      cases h
  made := by
    intro id h
    cases h
  counted := by rintro key node ⟨⟩

theorem made_snoc {ids : List Nat} {id made made' : Nat} (old : ∀ i ∈ ids, i < made) (grows : made ≤ made')
    (new : id < made') : ∀ i ∈ ids ++ [id], i < made' := by
  intro i mem
  rcases List.mem_append.mp mem with h | h
  · exact Nat.lt_of_lt_of_le (old i h) grows
  · rw [List.mem_singleton.mp h]
    exact new

/-- A record that counts one packet more is put under a key, and its id is returned. -/
theorem Accounts.counted_insert {s : SharedTable} (h : s.Accounts) {key : FlowKey} {node : FlowNode}
    (apart : ∀ key' node', key' ≠ key → s.tracker.table.lookup key' = some node' → node'.id ≠ node.id)
    (packet : node.record.totalPackets = UInt64.ofNat (s.returned.count node.id) + 1) (key' : FlowKey)
    (node' : FlowNode) (lookup : (s.tracker.table.insert key node).lookup key' = some node') :
    node'.record.totalPackets = UInt64.ofNat ((s.returned ++ [node.id]).count node'.id) := by
  rcases lookup_insert_cases lookup with ⟨rfl, rfl⟩ | ⟨other, old⟩
  · rw [ofNat_count_snoc, packet]
  · rw [count_snoc_of_ne (apart key' node' other old)]
    exact h.counted key' node' old

theorem Accounts.next {s s' : SharedTable} {a : TableStep} (h : s.Accounts) (hnext : s.next a = some s') :
    s'.Accounts := by
  have distinct := h.distinct
  rcases next_cases hnext with ⟨tracker, returned⟩ | ⟨key, node, info, direction, now, found, tracker, returned⟩ |
    ⟨key, info, direction, now, created, absent, room, tracker, returned⟩ | ⟨now, -, tracker, returned⟩
  · constructor <;> rw [tracker]
    · exact h.balanced
    · exact distinct
    · rw [returned]
      exact h.made
    · rw [returned]
      exact h.counted
  · constructor <;> rw [tracker]
    · exact h.balanced.updateNode info direction now found
    · exact distinct.updateNode info direction now found
    · rw [returned]
      exact made_snoc h.made (Nat.le_refl _) (distinct.old key node.id ⟨node, found, rfl⟩)
    · rw [returned]
      refine h.counted_insert ?_ ?_
      · intro key' node' other lookup equal
        exact other (distinct.apart key' key node.id ⟨node', lookup, equal⟩ ⟨node, found, rfl⟩)
      · rw [← h.counted key node found]
        exact FlowRecord.updateRecord_totalPackets ..
  · constructor <;> rw [tracker]
    · exact h.balanced.insertNode info direction now created absent room
    · exact distinct.insertNode info direction now created absent
    · rw [returned]
      exact made_snoc h.made (Nat.le_succ _) (Nat.lt_succ_self _)
    · rw [returned]
      refine h.counted_insert ?_ ?_
      · intro key' node' _ lookup
        exact Nat.ne_of_lt (distinct.old key' node'.id ⟨node', lookup, rfl⟩)
      · have unused : s.returned.count s.tracker.nodesMade = 0 := by
          refine List.count_eq_zero.mpr fun mem => ?_
          exact absurd (h.made _ mem) (Nat.lt_irrefl _)
        rw [unused]
        exact FlowRecord.updateRecord_totalPackets ..
  · constructor <;> rw [tracker]
    · exact h.balanced.evict now
    · exact distinct.evict now
    · rw [returned]
      exact h.made
    · rw [returned]
      exact fun key node lookup => h.counted key node (hasNode_without lookup)

/-- Of all records exactly the one with this id counts one packet more. -/
def CountsIn (t t' : FlowTracker) (id : Nat) : Prop :=
  ∃ key node, t'.table.lookup key = some node ∧ node.id = id ∧
    node.record.totalPackets = (t.table.lookup key).elim 0 (fun old => old.record.totalPackets) + 1 ∧
    ∀ key', key' ≠ key → t'.table.lookup key' = t.table.lookup key'

/-- A step at which a call returns a record counts its packet there; apart from evictions no other step
changes the table. -/
theorem next_counts {s s' : SharedTable} {a : TableStep} (hnext : s.next a = some s') :
    (∃ id, s'.returned = s.returned ++ [id] ∧ CountsIn s.tracker s'.tracker id) ∨
      (s'.returned = s.returned ∧ ((∃ now, a = .evict now) ∨ s'.tracker.table = s.tracker.table)) := by
  rcases next_cases hnext with ⟨tracker, returned⟩ | ⟨key, node, info, direction, now, found, tracker, returned⟩ |
    ⟨key, info, direction, now, created, absent, room, tracker, returned⟩ | ⟨now, rfl, tracker, returned⟩
  · exact .inr ⟨returned, .inr (congrArg table tracker)⟩
  · refine .inl ⟨node.id, returned, key, { node with record := node.record.updateRecord info direction now }, ?_⟩
    rw [tracker, found]
    refine ⟨AList.lookup_insert _, rfl, FlowRecord.updateRecord_totalPackets .., fun key' other => ?_⟩
    exact AList.lookup_insert_ne other
  · refine .inl ⟨s.tracker.nodesMade, returned, key,
      ⟨s.tracker.nodesMade, (FlowRecord.create key created).updateRecord info direction now⟩, ?_⟩
    rw [tracker, absent]
    refine ⟨AList.lookup_insert _, rfl, FlowRecord.updateRecord_totalPackets .., fun key' other => ?_⟩
    exact AList.lookup_insert_ne other
  · exact .inr ⟨returned, .inl ⟨now, rfl⟩⟩

/-- In every state between the critical sections of the callers and of the reaper the table is accounted
for, and every call that returns a record counts its packet in that record alone. -/
theorem flow_table_accounting (cfg : Config) (s : SharedTable) (reach : (machine cfg).Reachable s) :
    s.Accounts ∧ ∀ a s', s.next a = some s' →
      (∃ id, s'.returned = s.returned ++ [id] ∧ CountsIn s.tracker s'.tracker id) ∨
        (s'.returned = s.returned ∧ ((∃ now, a = .evict now) ∨ s'.tracker.table = s.tracker.table)) := by
  constructor
  · exact reach.invariant _ Accounts (accounts_start cfg) fun _ _ _ h hnext => h.next hnext
  · intro a s' hnext
    exact next_counts hnext

/-- A TCP packet from 0.0.0.0 to itself. -/
def sampleInfo : PacketInfo := { valid := true, l3Proto := .IPv4, l4Proto := .TCP, ipProtoNum := 6 }

def sampleKey : FlowKey := .make (makeAddr128FromIpv4String []) (makeAddr128FromIpv4String []) 0 0 6

def raceSteps : List TableStep := [.read sampleInfo 0, .read sampleInfo 0, .write 1 0, .write 0 0, .evict 0]

/-- Two callers miss the same key and meet in one record. -/
theorem flow_table_accounting_race :
    ∃ s, (machine {}).run (start {}) raceSteps = some s ∧ s.returned = [0, 0] ∧ s.Accounts := by
  have meets : ((machine {}).run (start {}) raceSteps).map returned = some [0, 0] := by decide +kernel
  obtain ⟨s, hrun, hreturned⟩ := Option.map_eq_some_iff.mp meets
  exact ⟨s, hrun, hreturned, (flow_table_accounting {} s ⟨raceSteps, hrun⟩).1⟩

end SharedTable

end Nte
