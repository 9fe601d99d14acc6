import NetworkThreatEngine.Flow.Direction
import NetworkThreatEngine.Flow.Histories
import NetworkThreatEngine.Lib.Windows

/-!
# The windows of a record

The set of ports and the number of SYN segments that a record keeps are those of its own packets in a rolling window.
All packets of a flow go to the same two endpoints, so the set of ports cannot show a scan.
-/
namespace Nte
open Transition Lives Windows

namespace FlowRecord

/-! ## What a packet does to them -/

def scanMark (record : FlowRecord) : TimePoint × List UInt16 := (record.scanWindowStart, record.dstPortsContacted)
def synMark (record : FlowRecord) : TimePoint × UInt64 := (record.synWindowStart, record.synWindowCount)

/-- A window of so many seconds is too old. -/
abbrev Outlived (seconds : ℚ) (start now : TimePoint) : Prop := secondsBetween now start ≥ seconds

def markPort (mark : TimePoint × List UInt16) (port : UInt16) (now : TimePoint) : TimePoint × List UInt16 :=
  if Outlived 10 mark.1 now then (now, [port]) else (mark.1, mark.2.insert port)

def markSyn (mark : TimePoint × UInt64) (now : TimePoint) : TimePoint × UInt64 :=
  if Outlived 1 mark.1 now then (now, 1) else (mark.1, mark.2 + 1)

/-- Neither window has changed. -/
def SameMarks (record record' : FlowRecord) : Prop := record'.scanMark = record.scanMark ∧ record'.synMark = record.synMark

section Packet
variable (record : FlowRecord) (info : PacketInfo) (direction : FlowDirection) (now : TimePoint)

theorem sameMarks_advance (p : Segment) : SameMarks record (record.advance p) := by
  cases h : p.rst with
  | true =>
      rw [advance_rst record p h]
      exact ⟨rfl, rfl⟩
  | false =>
      rw [advance_of_not_rst record p h, transition]
      cases (record.countFlags p.flags).tcpState <;> dsimp only <;> split <;> exact ⟨rfl, rfl⟩

theorem sameMarks_account (bytes : UInt64) :
    SameMarks record (({ record with lastSeen := now } : FlowRecord).account bytes direction) := by
  cases direction <;> exact ⟨rfl, rfl⟩

theorem sameMarks_updateL7 : SameMarks record (record.updateL7 info) := by
  unfold updateL7 updateTls updateHttp updateDns
  cases info.dns <;> cases info.http <;> cases info.tls <;> split <;> exact ⟨rfl, rfl⟩

theorem marks_contactPort (port : UInt16) : (record.contactPort port now).scanMark = markPort record.scanMark port now ∧
    (record.contactPort port now).synMark = record.synMark := by
  by_cases old : Outlived 10 record.scanWindowStart now
  · have marked : markPort record.scanMark port now = (now, [port]) := if_pos old
    rw [marked, contactPort, if_pos old]
    exact ⟨rfl, rfl⟩
  · have marked : markPort record.scanMark port now =
        (record.scanWindowStart, record.dstPortsContacted.insert port) := if_neg old
    rw [marked, contactPort, if_neg old]
    exact ⟨rfl, rfl⟩

theorem marks_countSyn : (record.countSyn now).scanMark = record.scanMark ∧
    (record.countSyn now).synMark = markSyn record.synMark now := by
  by_cases old : Outlived 1 record.synWindowStart now
  · have marked : markSyn record.synMark now = (now, 1) := if_pos old
    rw [marked, countSyn, if_pos old]
    exact ⟨rfl, rfl⟩
  · have marked : markSyn record.synMark now = (record.synWindowStart, record.synWindowCount + 1) := if_neg old
    rw [marked, countSyn, if_neg old]
    exact ⟨rfl, rfl⟩

/-- A TCP packet from the lower endpoint contacts its port. -/
def contacts : Bool := info.l4Proto == .TCP && (direction == .LO_TO_HI && info.dstPort != 0)

def opening : Bool := info.l4Proto == .TCP && (synSet info.tcpFlags && !ackSet info.tcpFlags)

theorem marks_updateTcp :
    (record.updateTcp info direction now).scanMark =
        (if direction = .LO_TO_HI ∧ info.dstPort ≠ 0 then markPort record.scanMark info.dstPort now
          else record.scanMark) ∧
      (record.updateTcp info direction now).synMark =
        if synSet info.tcpFlags && !ackSet info.tcpFlags then markSyn record.synMark now else record.synMark := by
  have advanced : SameMarks record (record.advanceTcpState info.tcpFlags direction).2 :=
    sameMarks_advance record ⟨info.tcpFlags, direction⟩
  obtain ⟨scan, syn⟩ := advanced
  unfold updateTcp
  dsimp only
  generalize (record.advanceTcpState info.tcpFlags direction).2 = next at scan syn ⊢
  obtain ⟨contacted, kept⟩ := marks_contactPort next now info.dstPort
  by_cases contact : direction = .LO_TO_HI ∧ info.dstPort ≠ 0 <;>
    by_cases opens : (synSet info.tcpFlags && !ackSet info.tcpFlags) = true
  · rw [if_pos contact, if_pos contact, if_pos opens, if_pos opens, (marks_countSyn _ now).1, (marks_countSyn _ now).2,
      contacted, kept, scan, syn]
    exact ⟨rfl, rfl⟩
  · rw [if_pos contact, if_pos contact, if_neg opens, if_neg opens, contacted, kept, scan, syn]
    exact ⟨rfl, rfl⟩
  · rw [if_neg contact, if_neg contact, if_pos opens, if_pos opens, (marks_countSyn _ now).1, (marks_countSyn _ now).2,
      scan, syn]
    exact ⟨rfl, rfl⟩
  · rw [if_neg contact, if_neg contact, if_neg opens, if_neg opens, scan, syn]
    exact ⟨rfl, rfl⟩

theorem marks_updateRecord :
    (record.updateRecord info direction now).scanMark =
        (if contacts info direction then markPort record.scanMark info.dstPort now else record.scanMark) ∧
      (record.updateRecord info direction now).synMark =
        if opening info then markSyn record.synMark now else record.synMark := by
  obtain ⟨scan, syn⟩ := sameMarks_account record direction now (UInt64.ofNat info.capturedLength)
  unfold updateRecord contacts opening
  dsimp only
  generalize ({ record with lastSeen := now } : FlowRecord).account (UInt64.ofNat info.capturedLength) direction = counted
    at scan syn ⊢
  by_cases tcp : info.l4Proto = .TCP
  · obtain ⟨scanned, opened⟩ := marks_updateTcp counted info direction now
    obtain ⟨scan', syn'⟩ := sameMarks_updateL7 (counted.updateTcp info direction now) info
    rw [if_pos tcp, scan', syn', scanned, opened, scan, syn]
    simp [tcp]
  · obtain ⟨scan', syn'⟩ := sameMarks_updateL7 counted info
    rw [if_neg tcp, scan', syn', scan, syn]
    simp [tcp]

end Packet

/-! ## What they hold -/

theorem not_outlived_self {seconds : ℚ} (positive : 0 < seconds) (t : TimePoint) : ¬ Outlived seconds t t := by
  rw [Outlived, secondsBetween_self]
  exact not_le.mpr positive

def scans (q : KeyedPacket) : Bool := contacts q.info q.direction
def opens (q : KeyedPacket) : Bool := opening q.info

/-- The set of ports is that of the packets in the window under way. -/
structure ShowsPorts (mark : TimePoint × List UInt16) (recent : List KeyedPacket) : Prop where
  nodup : mark.2.Nodup
  ports : ∀ port, port ∈ mark.2 ↔ ∃ q ∈ recent, q.info.dstPort = port

/-- The windows of a record that was constructed at `created` and has been given these packets. -/
structure Windowed (record : FlowRecord) (created : TimePoint) (packets : List KeyedPacket) : Prop where
  scan : ∃ recent, Rolled KeyedPacket.now (Outlived 10) created (packets.filter scans) (record.scanWindowStart, recent) ∧
    ShowsPorts record.scanMark recent
  syn : ∃ recent, Rolled KeyedPacket.now (Outlived 1) created (packets.filter opens) (record.synWindowStart, recent) ∧
    record.synWindowCount = UInt64.ofNat recent.length

theorem ShowsPorts.mark {mark : TimePoint × List UInt16} {recent : List KeyedPacket} (h : ShowsPorts mark recent)
    (q : KeyedPacket) : ShowsPorts (markPort mark q.info.dstPort q.now)
      (roll KeyedPacket.now (Outlived 10) (mark.1, recent) q).2 := by
  unfold markPort roll
  split
  · refine ⟨List.nodup_singleton _, ?_⟩
    intro port
    simp [eq_comm]
  · refine ⟨h.nodup.insert, ?_⟩
    intro port
    dsimp only
    rw [List.mem_insert_iff, h.ports]
    simp only [List.mem_append, List.mem_singleton, or_and_right, exists_or, exists_eq_left]
    rw [or_comm, eq_comm]

theorem markPort_start (mark : TimePoint × List UInt16) (recent : List KeyedPacket) (q : KeyedPacket) :
    (markPort mark q.info.dstPort q.now).1 = (roll KeyedPacket.now (Outlived 10) (mark.1, recent) q).1 := by
  unfold markPort roll
  dsimp only
  split <;> rfl

theorem markSyn_roll (mark : TimePoint × UInt64) {recent : List KeyedPacket}
    (counted : mark.2 = UInt64.ofNat recent.length) (q : KeyedPacket) :
    (markSyn mark q.now).1 = (roll KeyedPacket.now (Outlived 1) (mark.1, recent) q).1 ∧
      (markSyn mark q.now).2 = UInt64.ofNat (roll KeyedPacket.now (Outlived 1) (mark.1, recent) q).2.length := by
  unfold markSyn roll
  dsimp only
  split
  · exact ⟨rfl, rfl⟩
  · refine ⟨rfl, ?_⟩
    dsimp only
    rw [List.length_append, counted, UInt64.ofNat_add]
    rfl

theorem windowed_create (key : FlowKey) (created : TimePoint) : (create key created).Windowed created [] where
  scan := ⟨[], rolled_start, List.nodup_nil, by simp [scanMark, create]⟩
  syn := ⟨[], rolled_start, rfl⟩

theorem Windowed.updateRecord {record : FlowRecord} {created : TimePoint} {packets : List KeyedPacket}
    (h : record.Windowed created packets) (q : KeyedPacket) :
    (record.updateRecord q.info q.direction q.now).Windowed created (packets ++ [q]) := by
  obtain ⟨scanMark, synMark⟩ := marks_updateRecord record q.info q.direction q.now
  constructor
  · obtain ⟨recent, rolled, shows⟩ := h.scan
    change ∃ recent, Rolled _ _ _ _ ((record.updateRecord q.info q.direction q.now).scanMark.1, recent) ∧ _
    rw [scanMark, List.filter_append]
    by_cases contact : contacts q.info q.direction = true
    · rw [if_pos contact, List.filter_cons_of_pos (by exact contact), List.filter_nil]
      refine ⟨_, ?_, shows.mark q⟩
      rw [markPort_start _ recent]
      exact rolled.roll (not_outlived_self (by norm_num)) q
    · rw [if_neg contact, List.filter_cons_of_neg (by exact contact), List.filter_nil, List.append_nil]
      exact ⟨recent, rolled, shows⟩
  · obtain ⟨recent, rolled, counted⟩ := h.syn
    change ∃ recent, Rolled _ _ _ _ ((record.updateRecord q.info q.direction q.now).synMark.1, recent) ∧
      (record.updateRecord q.info q.direction q.now).synMark.2 = _
    rw [synMark, List.filter_append]
    by_cases open_ : opening q.info = true
    · obtain ⟨start, count⟩ := markSyn_roll record.synMark counted q
      rw [if_pos open_, List.filter_cons_of_pos (by exact open_), List.filter_nil]
      refine ⟨_, ?_, count⟩
      rw [start]
      exact rolled.roll (not_outlived_self (by norm_num)) q
    · rw [if_neg open_, List.filter_cons_of_neg (by exact open_), List.filter_nil, List.append_nil]
      exact ⟨recent, rolled, counted⟩

theorem windowed_recordAfter (key : FlowKey) (created : TimePoint) (packets : List KeyedPacket) :
    (FlowTracker.recordAfter key created packets).Windowed created packets := by
  induction packets using List.reverseRecOn with
  | nil => exact windowed_create key created
  | append_singleton packets q ih =>
      rw [FlowTracker.recordAfter_snoc]
      exact ih.updateRecord q

/-- A packet from the lower endpoint goes to the port of the other one, unless both are on one host. -/
theorem scans_port {q : KeyedPacket} (contact : scans q = true) :
    q.info.dstPort = q.key.hiPort ∨ q.info.dstPort = q.key.loPort ∧ q.key.loAddr = q.key.hiAddr := by
  obtain ⟨⟨src, dst⟩, both, same⟩ := Option.map_eq_some_iff.mp q.keyed
  obtain ⟨key, direction⟩ := Prod.mk.inj same
  dsimp only at key direction
  simp only [scans, contacts, Bool.and_eq_true, beq_iff_eq] at contact
  rw [contact.2.1, directionOf_eq_lo_iff] at direction
  obtain ⟨⟨-, hi⟩, -⟩ | ⟨⟨lo, hi⟩, case⟩ := FlowKey.make_lo_hi src dst q.info.srcPort q.info.dstPort q.info.ipProtoNum
  · rw [key] at hi
    exact .inl (congrArg Prod.snd hi).symm
  · rw [key] at lo hi
    have below : ¬ src.val < dst.val := fun less => by
      rw [(FlowKey.srcIsLo_iff src dst _ _).mpr (.inl less)] at case
      cases case
    have oneHost : src = dst := by
      rcases Std.lt_trichotomy src.val dst.val with less | equal | greater
      · exact absurd less below
      · exact Subtype.ext equal
      · exact absurd greater (List.not_lt.mpr direction)
    refine .inr ⟨(congrArg Prod.snd lo).symm, ?_⟩
    exact (congrArg Prod.fst lo).trans (oneHost.symm.trans (congrArg Prod.fst hi).symm)

/-- The ports of a record of this key: that of its upper endpoint, or both when they are on one host. -/
def OwnPorts (record : FlowRecord) (key : FlowKey) : Prop :=
  ∀ port ∈ record.dstPortsContacted, port = key.hiPort ∨ port = key.loPort ∧ key.loAddr = key.hiAddr

theorem Windowed.ownPorts {record : FlowRecord} {created : TimePoint} {packets : List KeyedPacket} {key : FlowKey}
    (h : record.Windowed created packets) (own : ∀ q ∈ packets, q.key = key) : record.OwnPorts key := by
  intro port mem
  obtain ⟨recent, rolled, shows⟩ := h.scan
  obtain ⟨q, counted, rfl⟩ := (shows.ports port).mp mem
  obtain ⟨packet, contact⟩ := List.mem_filter.mp (rolled.last.subset counted)
  rw [← own q packet]
  exact scans_port contact

end FlowRecord

namespace SharedTable
open FlowTracker

/-- In every state of any interleaving, each record's SYN count and set of ports are those of its own packets in the
window under way, and the set has no port but those of the flow itself. -/
theorem record_windows (cfg : Config) (as : List TableStep) (s : SharedTable)
    (hrun : (machine cfg).run (machine cfg).start as = some s) :
    ∃ log, Partitioned cfg as s log ∧ ∀ key node, s.tracker.table.lookup key = some node →
      (∃ created, node.record.Windowed created (inputsOf log node.id)) ∧ node.record.OwnPorts key := by
  obtain ⟨log, partitioned⟩ := (partitioned_start cfg).run hrun
  refine ⟨log, partitioned, ?_⟩
  intro key node found
  have recorded : Recorded cfg s.tracker log (as.filterMap passAt) := partitioned.recorded
  obtain ⟨created, made⟩ := recorded.records key node found
  have windowed := FlowRecord.windowed_recordAfter key created (inputsOf log node.id)
  rw [← made] at windowed
  refine ⟨⟨created, windowed⟩, windowed.ownPorts ?_⟩
  intro q mem
  exact recorded.kept.held key node.id (liveNode_some found) (node.id, q) (mem_inputsOf.mp mem) rfl

/-- A scan of three ports that the records of its flows do not show. -/
def scanSteps : List TableStep :=
  [22, 23, 80].flatMap fun port =>
    let info : PacketInfo :=
      { valid := true, l3Proto := .IPv4, l4Proto := .TCP, ipProtoNum := 6, srcIp := ascii "10.0.0.1",
        dstIp := ascii "10.0.0.2", srcPort := 40000, dstPort := port, tcpFlags := 2 }
    [.read info 0, .write 0 0]

theorem record_windows_scan :
    ∃ s, (machine {}).run (machine {}).start scanSteps = some s ∧
      (s.tracker.table.entries.map fun entry => entry.2.record.dstPortsContacted) = [[80], [23], [22]] ∧
      ∀ key node, s.tracker.table.lookup key = some node → node.record.OwnPorts key := by
  have ends : ((machine {}).run (machine {}).start scanSteps).map
      (fun s => s.tracker.table.entries.map fun entry => entry.2.record.dstPortsContacted) =
        some [[80], [23], [22]] := by decide +kernel
  obtain ⟨s, hrun, ports⟩ := Option.map_eq_some_iff.mp ends
  obtain ⟨log, -, windows⟩ := record_windows {} scanSteps s hrun
  exact ⟨s, hrun, ports, fun key node found => (windows key node found).2⟩

end SharedTable

end Nte
