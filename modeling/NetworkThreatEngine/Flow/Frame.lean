import NetworkThreatEngine.Flow.Accounting

/-!
# What an update leaves alone

A call of `update` that returns null leaves the tracker as it was. Any other call puts one record under
the key of its packet, and nothing under other keys is touched.
-/
namespace Nte

namespace FlowTracker

/-- The key of a packet the tracker looks at, and the packet's direction. -/
def keyed (info : PacketInfo) : Option (FlowKey × FlowDirection) :=
  (addresses info).map fun addrs =>
    (.make addrs.1 addrs.2 info.srcPort info.dstPort info.ipProtoNum, directionOf addrs.1 addrs.2)

theorem keyed_eq_none (info : PacketInfo) :
    keyed info = none ↔ info.valid = false ∨ (info.l3Proto ≠ .IPv4 ∧ info.l3Proto ≠ .IPv6) := by
  rw [keyed, Option.map_eq_none_iff, addresses]
  cases info.valid with
  | false => exact iff_of_true rfl (.inl rfl)
  | true => cases info.l3Proto <;> simp

/-- The record the packet is accounted to before it is: the one in the table or a new one. -/
def recordOf (t : FlowTracker) (key : FlowKey) (created : TimePoint) : FlowRecord :=
  (t.table.lookup key).elim (.create key created) (·.record)

/-- The packet of a call is in the record under its key, the node `id`; all else is as before, the counters
of a new flow apart. -/
structure Accounted (t t' : FlowTracker) (key : FlowKey) (direction : FlowDirection) (call : UpdateCall)
    (id : Nat) : Prop where
  record : t'.table.lookup key =
    some ⟨id, (t.recordOf key call.created).updateRecord call.info direction call.now⟩
  changed : t'.table.lookup key ≠ t.table.lookup key
  others : ∀ key', key' ≠ key → t'.table.lookup key' = t.table.lookup key'
  config : t'.config = t.config
  evicted : t'.totalFlowsEvicted = t.totalFlowsEvicted
  known : ∀ node, t.table.lookup key = some node →
    id = node.id ∧ t'.totalFlowsCreated = t.totalFlowsCreated ∧ t'.activeFlowCount = t.activeFlowCount
  new : t.table.lookup key = none → t.tableSize < t.config.maxFlows ∧
    t'.totalFlowsCreated = t.totalFlowsCreated + 1 ∧ t'.activeFlowCount = t.activeFlowCount + 1

section Calls
variable (t : FlowTracker) (key : FlowKey) (direction : FlowDirection) (call : UpdateCall)

theorem updateRecord_ne (record : FlowRecord) (info : PacketInfo) (now : TimePoint) :
    record.updateRecord info direction now ≠ record := by
  intro same
  have packets := congrArg FlowRecord.totalPackets same
  rw [FlowRecord.updateRecord_totalPackets] at packets
  have one : (1 : UInt64) = 0 := add_eq_left.mp packets
  exact absurd one (by decide)

variable {t key} in
theorem accounted_updateNode {node : FlowNode} (found : t.table.lookup key = some node) :
    Accounted t (t.updateNode key node call.info direction call.now) key direction call node.id := by
  have put : (t.updateNode key node call.info direction call.now).table.lookup key =
      some ⟨node.id, node.record.updateRecord call.info direction call.now⟩ := AList.lookup_insert _
  constructor
  · rw [put, recordOf, found]
    rfl
  · rw [put, found]
    intro same
    exact updateRecord_ne direction node.record call.info call.now (congrArg FlowNode.record (Option.some.inj same))
  · exact fun key' other => AList.lookup_insert_ne other
  · rfl
  · rfl
  · intro node' found'
    rw [found] at found'
    obtain rfl := Option.some.inj found'
    exact ⟨rfl, rfl, rfl⟩
  · intro absent
    rw [found] at absent
    cases absent

variable {t key} in
theorem accounted_insertNode (absent : t.table.lookup key = none) (room : t.tableSize < t.config.maxFlows) :
    Accounted t (t.insertNode key call.info direction call.now call.created) key direction call t.nodesMade := by
  have put : (t.insertNode key call.info direction call.now call.created).table.lookup key =
      some ⟨t.nodesMade, (FlowRecord.create key call.created).updateRecord call.info direction call.now⟩ :=
    AList.lookup_insert _
  constructor
  · rw [put, recordOf, absent]
    rfl
  · rw [put, absent]
    exact Option.some_ne_none _
  · exact fun key' other => AList.lookup_insert_ne other
  · rfl
  · rfl
  · intro node found
    rw [absent] at found
    cases found
  · exact fun _ => ⟨room, rfl, rfl⟩

theorem update_of_unkeyed {info : PacketInfo} (h : keyed info = none) (now created : TimePoint) :
    t.update info now created = (none, t) := by
  rw [update, Option.map_eq_none_iff.mp h]

variable {key direction} in
theorem update_of_keyed {info : PacketInfo} (h : keyed info = some (key, direction)) (now created : TimePoint) :
    t.update info now created = t.updateKey key info direction now created := by
  obtain ⟨addrs, both, same⟩ := Option.map_eq_some_iff.mp h
  obtain ⟨rfl, rfl⟩ := Prod.mk.inj same
  rw [update, both]

/-- A section under the exclusive lock has the effect of a call that nobody interrupts. -/
theorem updateKey_eq_exclusive (info : PacketInfo) (now created : TimePoint) :
    t.updateKey key info direction now created = t.updateExclusive key info direction now created := by
  unfold updateKey
  cases found : t.table.lookup key with
  | none => rfl
  | some node => rw [updateExclusive, found]

/-- So has the section under the shared lock when it finds the key. -/
theorem updateKey_eq_shared (known : key ∈ t.table) (info : PacketInfo) (now created : TimePoint) :
    t.updateKey key info direction now created = t.updateShared key info direction now := by
  obtain ⟨node, found⟩ := Option.isSome_iff_exists.mp (AList.lookup_isSome.mpr known)
  rw [updateKey, updateShared, found]

/-- A packet is turned down only for a new key when the table is full. -/
theorem updateKey_eq_none (info : PacketInfo) (now created : TimePoint) :
    (t.updateKey key info direction now created).1 = none ↔ key ∉ t.table ∧ t.config.maxFlows ≤ t.tableSize := by
  rw [← AList.lookup_eq_none]
  rcases updateKey_cases t key info direction now created with ⟨node, found, heq⟩ | ⟨absent, full, heq⟩ |
    ⟨absent, room, heq⟩ <;> rw [heq]
  · rw [found]
    exact iff_of_false (Option.some_ne_none _) fun h => Option.some_ne_none _ h.1
  · exact iff_of_true rfl ⟨absent, full⟩
  · exact iff_of_false (Option.some_ne_none _) fun h => Nat.not_le_of_lt room h.2

theorem updateKey_frame :
    ((t.updateKey key call.info direction call.now call.created).1 = none →
        (t.updateKey key call.info direction call.now call.created).2 = t) ∧
      ∀ id, (t.updateKey key call.info direction call.now call.created).1 = some id →
        Accounted t (t.updateKey key call.info direction call.now call.created).2 key direction call id := by
  rcases updateKey_cases t key call.info direction call.now call.created with ⟨node, found, heq⟩ |
    ⟨-, -, heq⟩ | ⟨absent, room, heq⟩ <;> rw [heq]
  · refine ⟨fun h => absurd h (Option.some_ne_none _), ?_⟩
    rintro id ⟨⟩
    exact accounted_updateNode direction call found
  · exact ⟨fun _ => rfl, fun id h => absurd h.symm (Option.some_ne_none _)⟩
  · refine ⟨fun h => absurd h (Option.some_ne_none _), ?_⟩
    rintro id ⟨⟩
    exact accounted_insertNode direction call absent room

end Calls

/-- In every state of the tracker: null is returned exactly for a packet without a key and for a new key when
the table is full, and then nothing changes; any other call changes the record of its key alone; and both
sections that find a key do the same. -/
theorem update_atomic_local (t : FlowTracker) (call : UpdateCall) :
    (keyed call.info = none ↔
        call.info.valid = false ∨ (call.info.l3Proto ≠ .IPv4 ∧ call.info.l3Proto ≠ .IPv6)) ∧
      ((t.update call.info call.now call.created).1 = none ↔ keyed call.info = none ∨
        ∃ key direction, keyed call.info = some (key, direction) ∧ key ∉ t.table ∧ t.config.maxFlows ≤ t.tableSize) ∧
      ((t.update call.info call.now call.created).1 = none → (t.update call.info call.now call.created).2 = t) ∧
      (∀ id, (t.update call.info call.now call.created).1 = some id →
        ∃ key direction, keyed call.info = some (key, direction) ∧
          Accounted t (t.update call.info call.now call.created).2 key direction call id) ∧
      ∀ key direction, key ∈ t.table → t.updateShared key call.info direction call.now =
        t.updateExclusive key call.info direction call.now call.created := by
  refine ⟨keyed_eq_none call.info, ?_, ?_, ?_, ?_⟩
  · cases h : keyed call.info with
    | none => exact iff_of_true (congrArg Prod.fst (t.update_of_unkeyed h _ _)) (.inl rfl)
    | some both =>
        rw [t.update_of_keyed h, t.updateKey_eq_none]
        constructor
        · exact fun full => .inr ⟨both.1, both.2, rfl, full⟩
        · rintro (unkeyed | ⟨key, direction, same, full⟩)
          · exact absurd unkeyed (Option.some_ne_none _)
          · obtain rfl := Option.some.inj same
            exact full
  · intro null
    cases h : keyed call.info with
    | none => rw [t.update_of_unkeyed h]
    | some both =>
        rw [t.update_of_keyed h] at null ⊢
        exact (t.updateKey_frame both.1 both.2 call).1 null
  · intro id returned
    cases h : keyed call.info with
    | none =>
        rw [t.update_of_unkeyed h] at returned
        cases returned
    | some both =>
        rw [t.update_of_keyed h] at returned ⊢
        exact ⟨both.1, both.2, rfl, (t.updateKey_frame both.1 both.2 call).2 id returned⟩
  · intro key direction known
    rw [← t.updateKey_eq_shared key direction known call.info call.now call.created, t.updateKey_eq_exclusive]

/-- A table without room turns a new flow down and stays as it is. -/
theorem update_atomic_local_full :
    (FlowTracker.update { config := { maxFlows := 0 } } SharedTable.sampleInfo 0 0).2 = { config := { maxFlows := 0 } } :=
  (update_atomic_local { config := { maxFlows := 0 } } ⟨SharedTable.sampleInfo, 0, 0⟩).2.2.1 (by decide +kernel)

end FlowTracker

/-- A caller that waited for the exclusive lock then does what a call that nobody interrupts does. -/
theorem SharedTable.write_tracker {s s' : SharedTable} {caller : Nat} {call : WaitingCall} {created : TimePoint}
    (waits : s.waiting[caller]? = some call) (h : s.next (.write caller created) = some s') :
    s'.tracker = (s.tracker.updateKey call.key call.info call.direction call.now created).2 := by
  rw [next, waits] at h
  rw [Option.map_some] at h
  obtain rfl := Option.some.inj h
  rw [FlowTracker.updateKey_eq_exclusive]
  obtain ⟨id, tracker⟩ := s.tracker.updateExclusive call.key call.info call.direction call.now created
  cases id <;> rfl

end Nte
