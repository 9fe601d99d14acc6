import NetworkThreatEngine.Flow.Frame

/-!
# Packets and the clock

Which packet a critical section accounts, and which reading of the clock it takes. `update` is called by the
consumer thread alone, one call after the other, and its readings of the steady clock never go back.
-/
namespace Nte
open Transition

namespace FlowRecord

/-- The times of a record are the same, but windows may have been started at `now`. -/
structure KeepsTimes (now : TimePoint) (record record' : FlowRecord) : Prop where
  firstSeen : record'.firstSeen = record.firstSeen
  lastSeen : record'.lastSeen = record.lastSeen
  scanWindow : record'.scanWindowStart = record.scanWindowStart ∨ record'.scanWindowStart = now
  synWindow : record'.synWindowStart = record.synWindowStart ∨ record'.synWindowStart = now

section Times
variable (now : TimePoint) (record : FlowRecord) (info : PacketInfo) (direction : FlowDirection)

variable {now record} in
theorem KeepsTimes.trans {record' record'' : FlowRecord} (h : KeepsTimes now record record')
    (h' : KeepsTimes now record' record'') : KeepsTimes now record record'' where
  firstSeen := h'.firstSeen.trans h.firstSeen
  lastSeen := h'.lastSeen.trans h.lastSeen
  scanWindow := by
    rcases h'.scanWindow with same | started
    · rw [same]
      exact h.scanWindow
    · exact .inr started
  synWindow := by
    rcases h'.synWindow with same | started
    · rw [same]
      exact h.synWindow
    · exact .inr started

theorem keepsTimes_account (bytes : UInt64) : KeepsTimes now record (record.account bytes direction) := by
  cases direction <;> exact ⟨rfl, rfl, .inl rfl, .inl rfl⟩

theorem keepsTimes_advance (p : Segment) : KeepsTimes now record (record.advance p) := by
  cases h : p.rst with
  | true =>
      rw [advance_rst record p h]
      exact ⟨rfl, rfl, .inl rfl, .inl rfl⟩
  | false =>
      rw [advance_of_not_rst record p h, transition]
      cases (record.countFlags p.flags).tcpState <;> dsimp only <;> split <;> exact ⟨rfl, rfl, .inl rfl, .inl rfl⟩

theorem keepsTimes_contactPort (port : UInt16) : KeepsTimes now record (record.contactPort port now) := by
  unfold contactPort
  split
  · exact ⟨rfl, rfl, .inr rfl, .inl rfl⟩
  · exact ⟨rfl, rfl, .inl rfl, .inl rfl⟩

theorem keepsTimes_countSyn : KeepsTimes now record (record.countSyn now) := by
  unfold countSyn
  split
  · exact ⟨rfl, rfl, .inl rfl, .inr rfl⟩
  · exact ⟨rfl, rfl, .inl rfl, .inl rfl⟩

theorem keepsTimes_updateTcp : KeepsTimes now record (record.updateTcp info direction now) := by
  have advanced := keepsTimes_advance now record ⟨info.tcpFlags, direction⟩
  have contacted := advanced.trans (keepsTimes_contactPort now _ info.dstPort)
  unfold updateTcp
  dsimp only
  split
  · split
    · exact contacted.trans (keepsTimes_countSyn now _)
    · exact advanced.trans (keepsTimes_countSyn now _)
  · split
    · exact contacted
    · exact advanced

theorem keepsTimes_updateL7 : KeepsTimes now record (record.updateL7 info) := by
  unfold updateL7 updateTls updateHttp updateDns
  cases info.dns <;> cases info.http <;> cases info.tls <;> split <;> exact ⟨rfl, rfl, .inl rfl, .inl rfl⟩

/-- A packet sets the time its flow was last seen, and it may start windows. -/
theorem keepsTimes_updateRecord :
    KeepsTimes now { record with lastSeen := now } (record.updateRecord info direction now) := by
  have counted := keepsTimes_account now { record with lastSeen := now } direction (UInt64.ofNat info.capturedLength)
  unfold updateRecord
  dsimp only
  split
  · exact (counted.trans (keepsTimes_updateTcp now _ info direction)).trans (keepsTimes_updateL7 now _ info)
  · exact counted.trans (keepsTimes_updateL7 now _ info)

theorem updateRecord_lastSeen : (record.updateRecord info direction now).lastSeen = now :=
  (keepsTimes_updateRecord now record info direction).lastSeen

end Times

end FlowRecord

namespace SharedTable
open FlowTracker

/-- The section under the exclusive lock constructs a record for this key. -/
def constructs (s : SharedTable) (key : FlowKey) : Bool :=
  (s.tracker.table.lookup key).isNone && s.tracker.tableSize < s.tracker.config.maxFlows

/-- The reading of the clock that a step of a caller takes: in `update`, or in the constructor of a record. -/
def reading (s : SharedTable) : TableStep → Option TimePoint
  | .read info now => (keyed info).map fun _ => now
  | .write caller created => (s.waiting[caller]?).bind fun call => if s.constructs call.key then some created else none
  | .evict _ => none

/-- The key of the packet that a step accounts, and the reading of the clock that goes with it. -/
def heard (s : SharedTable) : TableStep → Option (FlowKey × TimePoint)
  | .read info now =>
      (keyed info).bind fun both => if (s.tracker.table.lookup both.1).isSome then some (both.1, now) else none
  | .write caller _ => (s.waiting[caller]?).bind fun call =>
      if (s.tracker.table.lookup call.key).isSome || s.constructs call.key then some (call.key, call.now) else none
  | .evict _ => none

section Read
variable (s : SharedTable) {info : PacketInfo} (now : TimePoint)

theorem read_of_unkeyed (h : keyed info = none) : s.read info now = s := by
  rw [read, Option.map_eq_none_iff.mp h]

variable {key : FlowKey} {direction : FlowDirection} (h : keyed info = some (key, direction))
include h

theorem read_of_known {node : FlowNode} (found : s.tracker.table.lookup key = some node) :
    s.read info now = s.finish (some node.id, s.tracker.updateNode key node info direction now) := by
  obtain ⟨addrs, both, same⟩ := Option.map_eq_some_iff.mp h
  obtain ⟨rfl, rfl⟩ := Prod.mk.inj same
  rw [read, both]
  dsimp only
  rw [updateShared, found]

theorem read_of_new (absent : s.tracker.table.lookup key = none) :
    s.read info now = { s with waiting := s.waiting ++ [⟨key, info, direction, now⟩] } := by
  obtain ⟨addrs, both, same⟩ := Option.map_eq_some_iff.mp h
  obtain ⟨rfl, rfl⟩ := Prod.mk.inj same
  rw [read, both]
  dsimp only
  rw [updateShared, absent]

end Read

/-- A step accounts the packet it hears, or leaves the records that stay as they are. -/
theorem next_accounted {s s' : SharedTable} {a : TableStep} (h : s.next a = some s') :
    (s.heard a = none ∧
        ∀ key node, s'.tracker.table.lookup key = some node → s.tracker.table.lookup key = some node) ∨
      ∃ key direction call id, s.heard a = some (key, call.now) ∧
        (s.tracker.table.lookup key = none → s.reading a = some call.created) ∧
        Accounted s.tracker s'.tracker key direction call id := by
  cases a with
  | read info now =>
      obtain rfl : s.read info now = s' := Option.some.inj h
      cases packet : keyed info with
      | none =>
          rw [s.read_of_unkeyed now packet, heard, packet]
          exact .inl ⟨rfl, fun _ _ found => found⟩
      | some both =>
          obtain ⟨key, direction⟩ := both
          cases found : s.tracker.table.lookup key with
          | none =>
              rw [s.read_of_new now packet found, heard, packet]
              exact .inl ⟨by simp [found], fun _ _ found => found⟩
          | some node =>
              rw [s.read_of_known now packet found, heard, packet]
              refine .inr ⟨key, direction, ⟨info, now, now⟩, node.id, by simp [found], ?_, ?_⟩
              · intro absent
                rw [found] at absent
                cases absent
              · exact accounted_updateNode direction ⟨info, now, now⟩ found
  | write caller created =>
      obtain ⟨call, waits, -⟩ := Option.map_eq_some_iff.mp h
      have tracker := write_tracker waits h
      rcases s.tracker.updateKey_cases call.key call.info call.direction call.now created with
        ⟨node, found, heq⟩ | ⟨absent, full, heq⟩ | ⟨absent, room, heq⟩ <;> rw [heq] at tracker <;> rw [tracker]
      · refine .inr ⟨call.key, call.direction, ⟨call.info, call.now, created⟩, node.id, ?_, ?_, ?_⟩
        · rw [heard, waits, Option.bind_some, found]
          rfl
        · intro absent
          rw [found] at absent
          cases absent
        · exact accounted_updateNode call.direction ⟨call.info, call.now, created⟩ found
      · refine .inl ⟨?_, fun _ _ found => found⟩
        rw [heard, waits, Option.bind_some, constructs, absent, decide_eq_false (Nat.not_lt_of_le full)]
        rfl
      · have new : s.constructs call.key = true := by
          rw [constructs, absent, decide_eq_true room]
          rfl
        refine .inr ⟨call.key, call.direction, ⟨call.info, call.now, created⟩, s.tracker.nodesMade, ?_, ?_, ?_⟩
        · rw [heard, waits, Option.bind_some, new, Bool.or_true, if_pos rfl]
        · intro _
          rw [reading, waits, Option.bind_some, new, if_pos rfl]
        · exact accounted_insertNode call.direction ⟨call.info, call.now, created⟩ absent room
  | evict now =>
      obtain rfl : { s with tracker := s.tracker.evictExpiredFlows now } = s' := Option.some.inj h
      exact .inl ⟨rfl, fun _ _ => hasNode_without⟩

/-- The reading of an accounted packet was taken at this step, or earlier by a call that waits. -/
theorem heard_from {s : SharedTable} {a : TableStep} {key : FlowKey} {now : TimePoint}
    (h : s.heard a = some (key, now)) :
    (s.reading a = some now ∧ s.tracker.table.lookup key ≠ none) ∨ ∃ call ∈ s.waiting, call.now = now := by
  cases a with
  | read info t =>
      obtain ⟨both, packet, known⟩ := Option.bind_eq_some_iff.mp h
      split at known
      · rename_i found
        obtain ⟨rfl, rfl⟩ := Prod.mk.inj (Option.some.inj known)
        refine .inl ⟨?_, Option.isSome_iff_ne_none.mp found⟩
        rw [reading, packet, Option.map_some]
      · cases known
  | write caller created =>
      obtain ⟨call, waits, known⟩ := Option.bind_eq_some_iff.mp h
      split at known
      · obtain ⟨-, same⟩ := Prod.mk.inj (Option.some.inj known)
        exact .inr ⟨call, List.mem_of_getElem? waits, same⟩
      · cases known
  | evict now => cases h

@[simp] theorem finish_waiting (s : SharedTable) (r : Option Nat × FlowTracker) :
    (s.finish r).waiting = s.waiting := by
  obtain ⟨id, tracker⟩ := r
  cases id <;> rfl

/-- A record after a step is an old one, or it was last seen when the packet of this step was read. -/
theorem next_lastSeen {s s' : SharedTable} {a : TableStep} (h : s.next a = some s') {key : FlowKey} {node : FlowNode}
    (found : s'.tracker.table.lookup key = some node) :
    (s.tracker.table.lookup key = some node ∧ ∀ now, s.heard a ≠ some (key, now)) ∨
      s.heard a = some (key, node.record.lastSeen) := by
  rcases next_accounted h with ⟨quiet, kept⟩ | ⟨key', direction, call, id, hears, -, accounted⟩
  · rw [quiet]
    exact .inl ⟨kept key node found, fun now => (Option.some_ne_none _).symm⟩
  · by_cases same : key = key'
    · subst same
      rw [accounted.record] at found
      obtain rfl := Option.some.inj found
      rw [FlowRecord.updateRecord_lastSeen]
      exact .inr hears
    · rw [accounted.others key same] at found
      refine .inl ⟨found, fun now other => same ?_⟩
      exact (Prod.mk.inj (Option.some.inj (other.symm.trans hears))).1

/-- No record was last seen after this time. -/
def SeenBy (s : SharedTable) (bound : TimePoint) : Prop :=
  ∀ key node, s.tracker.table.lookup key = some node → node.record.lastSeen ≤ bound

theorem SeenBy.next {s s' : SharedTable} {a : TableStep} {bound : TimePoint} (h : s.SeenBy bound)
    (packet : ∀ both ∈ s.heard a, both.2 ≤ bound) (hnext : s.next a = some s') : s'.SeenBy bound := by
  intro key node found
  rcases next_lastSeen hnext found with ⟨old, -⟩ | hears
  · exact h key node old
  · exact packet (key, node.record.lastSeen) hears

end SharedTable

/-! ## One caller -/

/-- The flow table with its one caller, and the latest reading this caller has taken. -/
structure CallerTable where
  table : SharedTable
  clock : TimePoint

namespace CallerTable

def begins : TableStep → Bool
  | .read _ _ => true
  | _ => false

/-- The caller begins a call when the one before has ended, and its readings never go back. -/
def next (s : CallerTable) (a : TableStep) : Option CallerTable :=
  if (begins a → s.table.waiting = []) ∧ ∀ t ∈ s.table.reading a, s.clock ≤ t then
    (s.table.next a).map fun table => ⟨table, (s.table.reading a).getD s.clock⟩
  else none

def start (cfg : Config) (epoch : TimePoint) : CallerTable := ⟨.start cfg, epoch⟩

def machine (cfg : Config) (epoch : TimePoint) : Machine CallerTable TableStep := ⟨start cfg epoch, next⟩

variable {s s' : CallerTable} {a : TableStep}

theorem next_iff : s.next a = some s' ↔
    ((begins a → s.table.waiting = []) ∧ ∀ t ∈ s.table.reading a, s.clock ≤ t) ∧
      s.table.next a = some s'.table ∧ s'.clock = (s.table.reading a).getD s.clock := by
  unfold next
  split
  · rename_i allowed
    rw [Option.map_eq_some_iff]
    constructor
    · rintro ⟨table, hnext, rfl⟩
      exact ⟨allowed, hnext, rfl⟩
    · rintro ⟨-, hnext, clock⟩
      exact ⟨s'.table, hnext, by rw [← clock]⟩
  · rename_i refused
    exact iff_of_false (Option.some_ne_none s').symm fun h => refused h.1

theorem clock_le (h : s.next a = some s') : s.clock ≤ s'.clock := by
  obtain ⟨⟨-, later⟩, -, clock⟩ := next_iff.mp h
  rw [clock]
  cases reads : s.table.reading a with
  | none => exact le_refl _
  | some t => exact later t reads

/-- What is known of a table with one caller: at most one call waits, it has read the clock, and nothing has
been accounted since. -/
structure Timely (s : CallerTable) : Prop where
  single : s.table.waiting.length ≤ 1
  seen : s.table.SeenBy s.clock
  waited : ∀ call ∈ s.table.waiting, call.now ≤ s.clock ∧ s.table.SeenBy call.now

/-- The call that waits has ended, or goes on waiting, or has just begun. -/
theorem next_waiting (single : s.table.waiting.length ≤ 1) (h : s.next a = some s') :
    s'.table.waiting = [] ∨
      s.table.heard a = none ∧ (s'.table.waiting = s.table.waiting ∨
        ∃ call, s'.table.waiting = [call] ∧ s.table.reading a = some call.now) := by
  obtain ⟨⟨idle, -⟩, hnext, -⟩ := next_iff.mp h
  cases a with
  | read info now =>
      have idle := idle rfl
      have table : s.table.read info now = s'.table := Option.some.inj hnext
      rw [← table]
      cases packet : FlowTracker.keyed info with
      | none => exact .inl (by rw [s.table.read_of_unkeyed now packet, idle])
      | some both =>
          obtain ⟨key, direction⟩ := both
          cases found : s.table.tracker.table.lookup key with
          | none =>
              rw [s.table.read_of_new now packet found, idle]
              refine .inr ⟨?_, .inr ⟨_, rfl, ?_⟩⟩
              · rw [SharedTable.heard, packet, Option.bind_some, found]
                rfl
              · rw [SharedTable.reading, packet, Option.map_some]
          | some node => exact .inl (by rw [s.table.read_of_known now packet found, SharedTable.finish_waiting, idle])
  | write caller created =>
      obtain ⟨call, waits, table⟩ := Option.map_eq_some_iff.mp hnext
      rw [← table, SharedTable.finish_waiting]
      have inside := (List.getElem?_eq_some_iff.mp waits).1
      refine .inl (List.eq_nil_of_length_eq_zero ?_)
      rw [List.length_eraseIdx_of_lt inside]
      omega
  | evict now =>
      have table := Option.some.inj hnext
      rw [← table]
      exact .inr ⟨rfl, .inl rfl⟩

theorem Timely.heard_le (h : s.Timely) (hnext : s.next a = some s') : ∀ both ∈ s.table.heard a, both.2 ≤ s'.clock := by
  rintro ⟨key, now⟩ hears
  obtain ⟨-, -, clock⟩ := next_iff.mp hnext
  rcases SharedTable.heard_from hears with ⟨reads, -⟩ | ⟨call, waits, rfl⟩
  · rw [clock, reads]
    exact le_refl _
  · exact (h.waited call waits).1.trans (clock_le hnext)

theorem Timely.next (h : s.Timely) (hnext : s.next a = some s') : s'.Timely := by
  obtain ⟨⟨-, later⟩, table, clock⟩ := next_iff.mp hnext
  have seen : s'.table.SeenBy s'.clock := by
    refine SharedTable.SeenBy.next ?_ (h.heard_le hnext) table
    exact fun key node found => (h.seen key node found).trans (clock_le hnext)
  rcases next_waiting h.single hnext with ended | ⟨quiet, waits | ⟨call, begun, reads⟩⟩
  · refine ⟨by rw [ended]; exact Nat.zero_le 1, seen, ?_⟩
    rw [ended]
    exact fun call mem => absurd mem List.not_mem_nil
  · refine ⟨by rw [waits]; exact h.single, seen, ?_⟩
    rw [waits]
    intro call mem
    refine ⟨(h.waited call mem).1.trans (clock_le hnext), (h.waited call mem).2.next ?_ table⟩
    rw [quiet]
    exact fun both mem => by cases mem
  · rw [reads, Option.getD_some] at clock
    refine ⟨by rw [begun]; exact le_refl 1, seen, ?_⟩
    rw [begun]
    intro call' mem
    obtain rfl := List.mem_singleton.mp mem
    exact ⟨clock.ge, by rwa [← clock]⟩

theorem timely_start (cfg : Config) (epoch : TimePoint) : (start cfg epoch).Timely where
  single := Nat.zero_le 1
  seen := by rintro key node ⟨⟩
  waited := by rintro call ⟨⟩

/-- One caller is one of the ways to call the table. -/
theorem reachable_table {cfg : Config} {epoch : TimePoint} (reach : (machine cfg epoch).Reachable s) :
    (SharedTable.machine cfg).Reachable s.table := by
  refine reach.simulation table rfl ?_
  intro s a s' hnext
  obtain ⟨-, table, -⟩ := next_iff.mp hnext
  exact ⟨[a], (SharedTable.machine cfg).run_cons.mpr ⟨s'.table, table, rfl⟩⟩

end CallerTable

end Nte
