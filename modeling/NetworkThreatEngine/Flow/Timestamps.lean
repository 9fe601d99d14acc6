import NetworkThreatEngine.Flow.Heard

/-!
# The times of a flow

`update` reads the clock before it takes a lock, and the constructor of a record reads it again. A record
that was constructed later than its first packet was read has times that lie after this packet.
-/
namespace Nte
open Transition

/-- No other time of the record is later than its last packet. -/
structure FlowRecord.InOrder (record : FlowRecord) : Prop where
  firstSeen : record.firstSeen ≤ record.lastSeen
  scanWindow : record.scanWindowStart ≤ record.lastSeen
  synWindow : record.synWindowStart ≤ record.lastSeen

namespace FlowRecord

section Packet
variable {record : FlowRecord} {now : TimePoint} (info : PacketInfo) (direction : FlowDirection)

theorem inOrder_updateRecord (first : record.firstSeen ≤ now) (scan : record.scanWindowStart ≤ now)
    (syn : record.synWindowStart ≤ now) : (record.updateRecord info direction now).InOrder := by
  have keeps := keepsTimes_updateRecord now record info direction
  constructor <;> rw [keeps.lastSeen]
  · rw [keeps.firstSeen]
    exact first
  · rcases keeps.scanWindow with same | started
    · rw [same]
      exact scan
    · exact started.le
  · rcases keeps.synWindow with same | started
    · rw [same]
      exact syn
    · exact started.le

theorem InOrder.updateRecord (h : record.InOrder) (later : record.lastSeen ≤ now) :
    (record.updateRecord info direction now).InOrder :=
  inOrder_updateRecord info direction (h.firstSeen.trans later) (h.scanWindow.trans later) (h.synWindow.trans later)

/-- The first packet is in order exactly if the record was not constructed after the packet was read. -/
theorem inOrder_created_iff (key : FlowKey) (created : TimePoint) :
    ((create key created).updateRecord info direction now).InOrder ↔ created ≤ now := by
  constructor
  · intro order
    have keeps := keepsTimes_updateRecord now (create key created) info direction
    have first := order.firstSeen
    rwa [keeps.firstSeen, keeps.lastSeen] at first
  · exact fun before => inOrder_updateRecord info direction before before before

end Packet

end FlowRecord

namespace CallerTable
variable {s s' : CallerTable} {a : TableStep}

/-- All records of the table are in order. -/
def InOrder (s : CallerTable) : Prop :=
  ∀ key node, s.table.tracker.table.lookup key = some node → node.record.InOrder

/-- A record is constructed while the clock shows what it showed when its packet was read. -/
def Prompt (s : CallerTable) (a : TableStep) : Prop :=
  ∀ packet ∈ s.table.heard a, s.table.tracker.table.lookup packet.1 = none → s.table.reading a = some packet.2

instance (s : CallerTable) (a : TableStep) : Decidable (s.Prompt a) :=
  inferInstanceAs (Decidable (∀ packet ∈ s.table.heard a, s.table.tracker.table.lookup packet.1 = none →
    s.table.reading a = some packet.2))

theorem Timely.seenBy_heard (h : s.Timely) (hnext : s.next a = some s') {key : FlowKey} {now : TimePoint}
    (hears : s.table.heard a = some (key, now)) : s.table.SeenBy now := by
  obtain ⟨⟨-, later⟩, -⟩ := next_iff.mp hnext
  rcases SharedTable.heard_from hears with ⟨reads, -⟩ | ⟨call, waits, rfl⟩
  · exact fun key node found => (h.seen key node found).trans (later now reads)
  · exact (h.waited call waits).2

theorem InOrder.next (order : s.InOrder) (timely : s.Timely) (prompt : s.Prompt a) (hnext : s.next a = some s') :
    s'.InOrder := by
  intro key node found
  obtain ⟨-, table, -⟩ := next_iff.mp hnext
  rcases SharedTable.next_accounted table with ⟨-, kept⟩ | ⟨key', direction, call, id, hears, constructs, accounted⟩
  · exact order key node (kept key node found)
  · by_cases same : key = key'
    · subst same
      rw [accounted.record] at found
      obtain rfl := Option.some.inj found
      cases old : s.table.tracker.table.lookup key with
      | none =>
          have created : call.created = call.now :=
            Option.some.inj ((constructs old).symm.trans (prompt (key, call.now) hears old))
          rw [FlowTracker.recordOf, old]
          exact (FlowRecord.inOrder_created_iff call.info direction key call.created).mpr created.le
      | some node =>
          rw [FlowTracker.recordOf, old]
          exact (order key node old).updateRecord call.info direction (timely.seenBy_heard hnext hears key node old)
    · rw [accounted.others key same] at found
      exact order key node found

/-- A record that is constructed later is out of order at its first packet. -/
theorem not_inOrder_next (timely : s.Timely) (late : ¬ s.Prompt a) (hnext : s.next a = some s') : ¬ s'.InOrder := by
  intro order
  apply late
  rintro ⟨key, now⟩ hears absent
  obtain ⟨⟨-, later⟩, table, -⟩ := next_iff.mp hnext
  rcases SharedTable.next_accounted table with ⟨quiet, -⟩ | ⟨key', direction, call, id, hears', constructs, accounted⟩
  · rw [quiet] at hears
    cases hears
  · obtain ⟨rfl, rfl⟩ := Prod.mk.inj (Option.some.inj (hears'.symm.trans hears))
    have first := order key' _ accounted.record
    rw [FlowTracker.recordOf, absent] at first
    have created := (FlowRecord.inOrder_created_iff call.info direction key' call.created).mp first
    rcases SharedTable.heard_from hears with ⟨-, known⟩ | ⟨waiting, waits, before⟩
    · exact absurd absent known
    · have now_le := (timely.waited waiting waits).1
      rw [constructs absent, le_antisymm created ((before ▸ now_le).trans (later _ (constructs absent)))]

/-- With one caller and a steady clock, the times of all flows are in order throughout a run exactly when every
record is constructed at the reading of the clock that its first packet was given. -/
theorem timestamps_ordered_iff (cfg : Config) (epoch : TimePoint) (steps : List TableStep) (s : CallerTable)
    (hrun : (machine cfg epoch).run (start cfg epoch) steps = some s) :
    (machine cfg epoch).Always InOrder (start cfg epoch) steps ↔
      (machine cfg epoch).Guarded Prompt (start cfg epoch) steps := by
  refine ((machine cfg epoch).guarded_iff_always Prompt (fun s => s.Timely ∧ s.InOrder) InOrder
    (fun _ h => h.2) ?_ ?_ ⟨timely_start cfg epoch, ?_⟩ hrun).symm
  · exact fun s a s' h prompt hnext => ⟨h.1.next hnext, h.2.next h.1 prompt hnext⟩
  · exact fun s a s' h late hnext => not_inOrder_next h.1 late hnext
  · rintro key node ⟨⟩

/-- The clock stands still while the record is constructed. -/
def promptSteps : List TableStep := [.read SharedTable.sampleInfo 0, .write 0 0, .read SharedTable.sampleInfo 7]

theorem timestamps_ordered_iff_prompt :
    ((machine {} 0).run (start {} 0) promptSteps).isSome = true ∧ (machine {} 0).Always InOrder (start {} 0) promptSteps := by
  have runs : ((machine {} 0).run (start {} 0) promptSteps).isSome = true := by decide +kernel
  obtain ⟨s, hrun⟩ := Option.isSome_iff_exists.mp runs
  refine ⟨runs, (timestamps_ordered_iff {} 0 promptSteps s hrun).mpr ?_⟩
  decide +kernel

/-- The clock advances by a nanosecond before the record is constructed. -/
def lateSteps : List TableStep := [.read SharedTable.sampleInfo 0, .write 0 1]

/-- A flow of one packet was first seen after it was last seen. -/
theorem first_seen_after_last_seen :
    ∃ s node, (machine {} 0).run (start {} 0) lateSteps = some s ∧
      s.table.tracker.table.lookup SharedTable.sampleKey = some node ∧ node.record.lastSeen = 0 ∧ node.record.firstSeen = 1 ∧
      node.record.scanWindowStart = 1 ∧ node.record.synWindowStart = 1 ∧ ¬ s.InOrder := by
  have times : (((machine {} 0).run (start {} 0) lateSteps).bind fun s =>
      (s.table.tracker.table.lookup SharedTable.sampleKey).map fun node => (node.record.lastSeen, node.record.firstSeen,
        node.record.scanWindowStart, node.record.synWindowStart)) = some (0, 1, 1, 1) := by decide +kernel
  obtain ⟨s, hrun, found⟩ := Option.bind_eq_some_iff.mp times
  obtain ⟨node, found, same⟩ := Option.map_eq_some_iff.mp found
  obtain ⟨last, first, scan, syn⟩ : node.record.lastSeen = 0 ∧ node.record.firstSeen = 1 ∧
      node.record.scanWindowStart = 1 ∧ node.record.synWindowStart = 1 := by
    simpa only [Prod.mk.injEq] using same
  refine ⟨s, node, hrun, found, last, first, scan, syn, ?_⟩
  intro order
  have before := (order SharedTable.sampleKey node found).firstSeen
  rw [last, first] at before
  exact absurd before (by decide)

end CallerTable

end Nte
