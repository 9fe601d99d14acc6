import NetworkThreatEngine.Flow.Session

/-!
# State and evidence

What the counters of a flow record say about its history and its TCP state: the counters of the flags
are those of the session under way, and every state is backed by the segments that lead to it.
-/
namespace Nte
open History

namespace FlowRecord

/-! ## The counters of a session -/

/-- The counters are the numbers of such segments. -/
structure CountsSession (record : FlowRecord) (session : List Segment) : Prop where
  syn : record.synCount.toNat = session.countP Segment.synOnly
  synAck : record.synAckCount.toNat = session.countP Segment.synAck
  ack : record.ackCount.toNat = session.countP Segment.ackOnly
  fin : record.finCount.toNat = session.countP Segment.fin
  rst : record.rstCount.toNat = session.countP Segment.rst

/-- A segment that reopens the flow carries no FIN. -/
def ReopensWithoutFin (record : FlowRecord) (p : Segment) : Prop := record.reopens p = true → p.fin = false

/-- None of the numbers is too large for a counter. -/
structure FitsCounters (session : List Segment) : Prop where
  syn : session.countP Segment.synOnly < 2 ^ 64
  synAck : session.countP Segment.synAck < 2 ^ 64
  ack : session.countP Segment.ackOnly < 2 ^ 64
  fin : session.countP Segment.fin < 2 ^ 64
  rst : session.countP Segment.rst < 2 ^ 64

/-- The segment does not reopen the flow with a FIN, and the counters have room for it. -/
def CountsOn (record : FlowRecord) (session : List Segment) (p : Segment) : Prop :=
  record.ReopensWithoutFin p ∧ FitsCounters (extend reopens record session p)

/-- The counters are the numbers of such segments modulo 2^64. -/
structure WrapsSession (record : FlowRecord) (session : List Segment) : Prop where
  syn : record.synCount = UInt64.ofNat (session.countP Segment.synOnly)
  synAck : record.synAckCount = UInt64.ofNat (session.countP Segment.synAck)
  ack : record.ackCount = UInt64.ofNat (session.countP Segment.ackOnly)
  fin : record.finCount = UInt64.ofNat (session.countP Segment.fin)
  rst : record.rstCount = UInt64.ofNat (session.countP Segment.rst)

theorem toNat_eq_iff {x : UInt64} {n : Nat} : x.toNat = n ↔ x = UInt64.ofNat n ∧ n < 2 ^ 64 := by
  constructor
  · rintro rfl
    exact ⟨UInt64.ofNat_toNat.symm, x.toNat_lt⟩
  · rintro ⟨rfl, h⟩
    exact UInt64.toNat_ofNat_of_lt' h

theorem countsSession_iff {record : FlowRecord} {session : List Segment} :
    record.CountsSession session ↔ record.WrapsSession session ∧ FitsCounters session := by
  constructor
  · rintro ⟨syn, synAck, ack, fin, rst⟩
    rw [toNat_eq_iff] at syn synAck ack fin rst
    exact ⟨⟨syn.1, synAck.1, ack.1, fin.1, rst.1⟩, ⟨syn.2, synAck.2, ack.2, fin.2, rst.2⟩⟩
  · rintro ⟨wraps, fits⟩
    exact ⟨toNat_eq_iff.mpr ⟨wraps.syn, fits.syn⟩, toNat_eq_iff.mpr ⟨wraps.synAck, fits.synAck⟩,
      toNat_eq_iff.mpr ⟨wraps.ack, fits.ack⟩, toNat_eq_iff.mpr ⟨wraps.fin, fits.fin⟩,
      toNat_eq_iff.mpr ⟨wraps.rst, fits.rst⟩⟩

theorem ofNat_countP_snoc (q : Segment → Bool) (session : List Segment) (p : Segment) :
    UInt64.ofNat ((session ++ [p]).countP q) =
      if q p then UInt64.ofNat (session.countP q) + 1 else UInt64.ofNat (session.countP q) := by
  rw [List.countP_append]
  cases hq : q p <;> simp [hq]

theorem countsSession_nil (key : FlowKey) (now : TimePoint) : (create key now).CountsSession [] :=
  ⟨rfl, rfl, rfl, rfl, rfl⟩

/-- Reopening forgets the FIN of its own segment, and that alone. -/
theorem wrapsSession_advance {record : FlowRecord} {session : List Segment} (h : record.WrapsSession session)
    (p : Segment) :
    (record.advance p).WrapsSession (extend reopens record session p) ↔ record.ReopensWithoutFin p := by
  have counters := advance_counters record p
  unfold ReopensWithoutFin extend
  cases hr : record.reopens p with
  | true =>
      obtain ⟨-, rst, syn⟩ := (reopens_iff record p).mp hr
      rw [hr] at counters
      simp only [if_true, Prod.mk.injEq] at counters ⊢
      obtain ⟨hsyn, hsynAck, hack, hfin, hrst⟩ := counters
      have synAck : p.synAck = false := by
        unfold Segment.synOnly Segment.synAck at *
        grind
      have ackOnly : p.ackOnly = false := by
        unfold Segment.synOnly Segment.ackOnly at *
        grind
      constructor
      · rintro ⟨-, -, -, fin, -⟩ -
        rw [hfin] at fin
        cases hf : p.fin with
        | false => rfl
        | true => simp [hf] at fin
      · intro fin
        exact ⟨by simp [hsyn, syn], by simp [hsynAck, synAck], by simp [hack, ackOnly],
          by simp [hfin, fin], by simp [hrst, rst]⟩
  | false =>
      rw [hr] at counters
      simp only [Bool.false_eq_true, if_false, Prod.mk.injEq] at counters ⊢
      obtain ⟨hsyn, hsynAck, hack, hfin, hrst⟩ := counters
      refine iff_of_true ⟨?_, ?_, ?_, ?_, ?_⟩ nofun
      · rw [hsyn, ofNat_countP_snoc, ← h.syn]
        rfl
      · rw [hsynAck, ofNat_countP_snoc, ← h.synAck]
        rfl
      · rw [hack, ofNat_countP_snoc, ← h.ack]
        rfl
      · rw [hfin, ofNat_countP_snoc, ← h.fin]
        rfl
      · rw [hrst, ofNat_countP_snoc, ← h.rst]
        rfl

theorem countsSession_advance {record : FlowRecord} {session : List Segment} (h : record.CountsSession session)
    (p : Segment) :
    (record.advance p).CountsSession (extend reopens record session p) ↔ record.CountsOn session p := by
  rw [countsSession_iff, wrapsSession_advance (countsSession_iff.mp h).1, CountsOn]

/-- At every point of a sequence of segments the counters are those of the session under way, exactly
if no segment that reopens the flow carries FIN and no session is too long for its counters. -/
theorem counters_per_session_iff (key : FlowKey) (now : TimePoint) (segments : List Segment) :
    (∀ before, before <+: segments → (run advance (create key now) before).CountsSession
        (since advance reopens (create key now) before)) ↔
      Every advance reopens (create key now) CountsOn segments :=
  (every_iff_forall CountsSession (countsSession_nil key now)
    fun _ _ p h => countsSession_advance h p).symm

/-- A RST, and a SYN with FIN that reopens the flow. -/
def finReopening : List Segment := [⟨0x04, .LO_TO_HI⟩, ⟨0x03, .LO_TO_HI⟩]

/-- The session has a FIN that is not counted. -/
theorem reopening_loses_fin :
    ¬ ∀ before, before <+: finReopening →
        (run advance (blank 0) before).CountsSession (since advance reopens (blank 0) before) := by
  intro all
  exact absurd (all finReopening List.prefix_rfl).fin (by decide)

/-! ## The evidence for a state -/

/-- The segments that lead to a state have been counted. -/
structure StateBacked (record : FlowRecord) : Prop where
  init : record.tcpState = .INIT →
    record.synCount.toNat = 0 ∧ record.rstCount.toNat = 0 ∧ record.completedHandshakes.toNat = 0
  synSent : record.tcpState = .SYN_SENT → 1 ≤ record.synCount.toNat
  synReceived : record.tcpState = .SYN_RECEIVED → 1 ≤ record.synCount.toNat ∧ 1 ≤ record.synAckCount.toNat
  established : record.tcpState = .ESTABLISHED →
    1 ≤ record.synCount.toNat ∧ 1 ≤ record.synAckCount.toNat ∧ 1 ≤ record.ackCount.toNat ∧
      1 ≤ record.completedHandshakes.toNat
  finWait : record.tcpState = .FIN_WAIT →
    1 ≤ record.synCount.toNat ∧ 1 ≤ record.synAckCount.toNat ∧ 1 ≤ record.ackCount.toNat ∧
      1 ≤ record.completedHandshakes.toNat ∧ 1 ≤ record.finCount.toNat
  closed : record.tcpState = .CLOSED → 1 ≤ record.rstCount.toNat ∨ 2 ≤ record.finCount.toNat

/-- The totals are those of the two directions, and each segment has at most one kind of SYN or ACK. -/
structure Consistent (record : FlowRecord) : Prop where
  packets : record.totalPackets.toNat = record.loToHiPackets.toNat + record.hiToLoPackets.toNat
  bytes : record.totalBytes = record.loToHiBytes + record.hiToLoBytes
  counted : record.synCount.toNat + record.synAckCount.toNat + record.ackCount.toNat ≤ record.totalPackets.toNat
  state : record.StateBacked

/-- No counter is above the number of packets. -/
structure Bounded (record : FlowRecord) (n : Nat) : Prop where
  flags : record.synCount.toNat + record.synAckCount.toNat + record.ackCount.toNat ≤ n
  fin : record.finCount.toNat ≤ n
  rst : record.rstCount.toNat ≤ n
  handshakes : record.completedHandshakes.toNat ≤ n

theorem toNat_succ {x : UInt64} (h : x.toNat + 1 < 2 ^ 64) : (x + 1).toNat = x.toNat + 1 := by
  rw [UInt64.toNat_add]
  exact Nat.mod_eq_of_lt h

theorem toNat_count {x : UInt64} (h : x.toNat + 1 < 2 ^ 64) (c : Bool) :
    (if c then x + 1 else x).toNat = x.toNat + if c then 1 else 0 := by
  cases c with
  | false => rfl
  | true => exact toNat_succ h

/-- The counters after a segment, as numbers. -/
theorem advance_toNat {record : FlowRecord} {n : Nat} (bounded : record.Bounded n) (room : n + 1 < 2 ^ 32) (p : Segment) :
    (record.reopens p = true ∧ (record.advance p).synCount.toNat = 1 ∧ (record.advance p).synAckCount.toNat = 0 ∧
        (record.advance p).ackCount.toNat = 0 ∧ (record.advance p).finCount.toNat = 0 ∧
        (record.advance p).rstCount.toNat = 0) ∨
      record.reopens p = false ∧
        (record.advance p).synCount.toNat = record.synCount.toNat + (if p.synOnly then 1 else 0) ∧
        (record.advance p).synAckCount.toNat = record.synAckCount.toNat + (if p.synAck then 1 else 0) ∧
        (record.advance p).ackCount.toNat = record.ackCount.toNat + (if p.ackOnly then 1 else 0) ∧
        (record.advance p).finCount.toNat = record.finCount.toNat + (if p.fin then 1 else 0) ∧
        (record.advance p).rstCount.toNat = record.rstCount.toNat + (if p.rst then 1 else 0) := by
  have counters := advance_counters record p
  obtain ⟨hflags, hfin, hrst, -⟩ := bounded
  cases hr : record.reopens p with
  | true =>
      rw [hr] at counters
      simp only [if_true, Prod.mk.injEq] at counters
      obtain ⟨hsyn, hsynAck, hack, hfin, hrst⟩ := counters
      left
      rw [hsyn, hsynAck, hack, hfin, hrst]
      decide
  | false =>
      rw [hr] at counters
      simp only [Bool.false_eq_true, if_false, Prod.mk.injEq] at counters
      obtain ⟨hsyn', hsynAck', hack', hfin', hrst'⟩ := counters
      right
      rw [hsyn', hsynAck', hack', hfin', hrst']
      exact ⟨rfl, toNat_count (by omega) _, toNat_count (by omega) _, toNat_count (by omega) _,
        toNat_count (by omega) _, toNat_count (by omega) _⟩

theorem advance_handshakes_toNat {record : FlowRecord} {n : Nat} (bounded : record.Bounded n) (room : n + 1 < 2 ^ 32)
    (p : Segment) :
    (record.advance p).completedHandshakes.toNat =
      record.completedHandshakes.toNat +
        if record.tcpState = .SYN_RECEIVED ∧ (record.advance p).tcpState = .ESTABLISHED then 1 else 0 := by
  have := bounded.handshakes
  rw [advance_completedHandshakes]
  split
  · rw [UInt32.toNat_add]
    exact Nat.mod_eq_of_lt (by simp; omega)
  · rfl

theorem flags_exclusive (p : Segment) :
    (if p.synOnly then 1 else 0) + (if p.synAck then 1 else 0) + (if p.ackOnly then 1 else 0) ≤ 1 := by
  unfold Segment.synOnly Segment.synAck Segment.ackOnly
  cases synSet p.flags <;> cases ackSet p.flags <;> decide

theorem Bounded.advance {record : FlowRecord} {n : Nat} (bounded : record.Bounded n) (room : n + 1 < 2 ^ 32)
    (p : Segment) : (record.advance p).Bounded (n + 1) := by
  have handshakes := advance_handshakes_toNat bounded room p
  have exclusive := flags_exclusive p
  have handshakesBound := bounded.handshakes
  obtain ⟨hflags, hfin, hrst, -⟩ := bounded
  have few : (record.advance p).completedHandshakes.toNat ≤ n + 1 := by
    rw [handshakes]
    split <;> omega
  rcases advance_toNat ⟨hflags, hfin, hrst, handshakesBound⟩ room p with
    ⟨-, syn, synAck, ack, fin, rst⟩ | ⟨-, syn, synAck, ack, fin, rst⟩
  · exact ⟨by omega, by omega, by omega, few⟩
  · refine ⟨by omega, ?_, ?_, few⟩
    · rw [fin]
      split <;> omega
    · rw [rst]
      split <;> omega

theorem StateBacked.advance {record : FlowRecord} {n : Nat} (h : record.StateBacked) (bounded : record.Bounded n)
    (room : n + 1 < 2 ^ 32) (p : Segment) : (record.advance p).StateBacked := by
  have next := advance_tcpState record p
  have handshakes := advance_handshakes_toNat bounded room p
  obtain ⟨init, synSent, synReceived, established, finWait, closed⟩ := h
  rcases advance_toNat bounded room p with ⟨opened, syn, -, -, -, -⟩ | ⟨-, syn, synAck, ack, fin, rst⟩
  · obtain ⟨hclosed, hrst, hsyn⟩ := (reopens_iff record p).mp opened
    have sent : (record.advance p).tcpState = .SYN_SENT := by
      rw [next, hclosed]
      simp [TcpState.next, hrst, hsyn]
    constructor <;> intro state <;> rw [sent] at state
    case synSent => exact syn.ge
    all_goals cases state
  · unfold TcpState.next at next
    cases hs : record.tcpState <;> rw [hs] at next handshakes <;> constructor <;> intro state <;> grind

/-! ## A packet -/

/-- The arguments of `update_record`. -/
structure FlowPacket where
  info : PacketInfo
  direction : FlowDirection
  now : TimePoint
  deriving DecidableEq, Repr

def receive (record : FlowRecord) (q : FlowPacket) : FlowRecord := record.updateRecord q.info q.direction q.now

/-- The record without the fields the evidence is not about. -/
def core (record : FlowRecord) : FlowRecord :=
  { record with
    lastSeen := 0, dstPortsContacted := [], scanWindowStart := 0, synWindowCount := 0, synWindowStart := 0,
    l7Proto := .NONE, lastDnsQuery := [], lastDnsQtype := 0, lastHttpHost := [], lastHttpMethod := [],
    lastTlsSni := [] }

section Core
variable (record : FlowRecord)

theorem core_contactPort (port : UInt16) (now : TimePoint) : (record.contactPort port now).core = record.core := by
  unfold contactPort
  split <;> rfl

theorem core_countSyn (now : TimePoint) : (record.countSyn now).core = record.core := by
  unfold countSyn
  split <;> rfl

theorem core_updateL7 (info : PacketInfo) : (record.updateL7 info).core = record.core := by
  unfold updateL7 updateTls updateHttp updateDns
  cases info.dns <;> cases info.http <;> cases info.tls <;> split <;> rfl

def accounted (q : FlowPacket) : FlowRecord :=
  ({ record with lastSeen := q.now } : FlowRecord).account (UInt64.ofNat q.info.capturedLength) q.direction

/-- The packet is accounted, and a TCP packet advances the state machine. -/
theorem core_receive (q : FlowPacket) :
    (record.receive q).core =
      (if q.info.l4Proto = .TCP then (record.accounted q).advance ⟨q.info.tcpFlags, q.direction⟩
        else record.accounted q).core := by
  unfold receive updateRecord
  dsimp only
  rw [core_updateL7]
  split
  · unfold updateTcp
    dsimp only
    split
    · rw [core_countSyn]
      split
      · rw [core_contactPort]
        rfl
      · rfl
    · split
      · rw [core_contactPort]
        rfl
      · rfl
  · rfl

end Core

/-- What a run knows after `n` packets with these flags. -/
structure Tallied (record : FlowRecord) (n : Nat) (flags : UInt8) : Prop where
  consistent : record.Consistent
  bounded : record.Bounded n
  total : record.totalPackets.toNat = n
  seen : record.tcpFlagsSeen = flags

theorem tallied_core {record : FlowRecord} {n : Nat} {flags : UInt8} :
    record.core.Tallied n flags ↔ record.Tallied n flags := by
  constructor
  · rintro ⟨⟨packets, bytes, counted, state⟩, ⟨hflags, fin, rst, handshakes⟩, total, seen⟩
    exact ⟨⟨packets, bytes, counted, ⟨state.init, state.synSent, state.synReceived, state.established,
      state.finWait, state.closed⟩⟩, ⟨hflags, fin, rst, handshakes⟩, total, seen⟩
  · rintro ⟨⟨packets, bytes, counted, state⟩, ⟨hflags, fin, rst, handshakes⟩, total, seen⟩
    exact ⟨⟨packets, bytes, counted, ⟨state.init, state.synSent, state.synReceived, state.established,
      state.finWait, state.closed⟩⟩, ⟨hflags, fin, rst, handshakes⟩, total, seen⟩

theorem advance_totals (record : FlowRecord) (p : Segment) :
    ((record.advance p).totalPackets, (record.advance p).loToHiPackets, (record.advance p).hiToLoPackets,
        (record.advance p).totalBytes, (record.advance p).loToHiBytes, (record.advance p).hiToLoBytes,
        (record.advance p).tcpFlagsSeen) =
      (record.totalPackets, record.loToHiPackets, record.hiToLoPackets, record.totalBytes, record.loToHiBytes,
        record.hiToLoBytes, record.tcpFlagsSeen ||| p.flags) := by
  cases h : p.rst with
  | true => simp [advance_rst record p h, countFlags]
  | false =>
      rw [advance_of_not_rst record p h, transition]
      cases (record.countFlags p.flags).tcpState <;> dsimp only <;> split <;> rfl

/-- The totals after a packet: of both directions the one it came from grows. -/
theorem accounted_totals {record : FlowRecord} {n : Nat} (total : record.totalPackets.toNat = n)
    (packets : record.totalPackets.toNat = record.loToHiPackets.toNat + record.hiToLoPackets.toNat)
    (bytes : record.totalBytes = record.loToHiBytes + record.hiToLoBytes) (room : n + 1 < 2 ^ 32) (q : FlowPacket) :
    (record.accounted q).totalPackets.toNat = n + 1 ∧
      (record.accounted q).totalPackets.toNat =
        (record.accounted q).loToHiPackets.toNat + (record.accounted q).hiToLoPackets.toNat ∧
      (record.accounted q).totalBytes = (record.accounted q).loToHiBytes + (record.accounted q).hiToLoBytes := by
  obtain ⟨info, direction, now⟩ := q
  have grown : (record.totalPackets + 1).toNat = n + 1 := by
    rw [toNat_succ (by omega), total]
  cases direction with
  | LO_TO_HI =>
      refine ⟨grown, ?_, ?_⟩
      · change (record.totalPackets + 1).toNat = (record.loToHiPackets + 1).toNat + record.hiToLoPackets.toNat
        rw [grown, toNat_succ (by omega)]
        omega
      · change record.totalBytes + UInt64.ofNat info.capturedLength =
          record.loToHiBytes + UInt64.ofNat info.capturedLength + record.hiToLoBytes
        rw [bytes, UInt64.add_assoc, UInt64.add_assoc, UInt64.add_comm (UInt64.ofNat info.capturedLength)]
  | HI_TO_LO =>
      refine ⟨grown, ?_, ?_⟩
      · change (record.totalPackets + 1).toNat = record.loToHiPackets.toNat + (record.hiToLoPackets + 1).toNat
        rw [grown, toNat_succ (by omega)]
        omega
      · change record.totalBytes + UInt64.ofNat info.capturedLength =
          record.loToHiBytes + (record.hiToLoBytes + UInt64.ofNat info.capturedLength)
        rw [bytes, UInt64.add_assoc]

theorem Tallied.receive {record : FlowRecord} {n : Nat} {flags : UInt8} (h : record.Tallied n flags)
    (room : n + 1 < 2 ^ 32) (q : FlowPacket) (tcp : q.info.l4Proto = .TCP) :
    (record.receive q).Tallied (n + 1) (flags ||| q.info.tcpFlags) := by
  obtain ⟨⟨packets, bytes, counted, state⟩, bounded, total, seen⟩ := h
  rw [← tallied_core, core_receive, if_pos tcp, tallied_core]
  obtain ⟨grown, directions, sizes⟩ := accounted_totals total packets bytes room q
  have boundedA : (record.accounted q).Bounded n := by
    unfold accounted
    cases q.direction <;> exact ⟨bounded.flags, bounded.fin, bounded.rst, bounded.handshakes⟩
  have stateA : (record.accounted q).StateBacked := by
    unfold accounted
    cases q.direction <;>
      exact ⟨state.init, state.synSent, state.synReceived, state.established, state.finWait, state.closed⟩
  have seenA : (record.accounted q).tcpFlagsSeen = flags := by
    unfold accounted
    cases q.direction <;> exact seen
  have totals := advance_totals (record.accounted q) ⟨q.info.tcpFlags, q.direction⟩
  have after := boundedA.advance room ⟨q.info.tcpFlags, q.direction⟩
  simp only [Prod.mk.injEq] at totals
  obtain ⟨htotal, hlo, hhi, hbytes, hloBytes, hhiBytes, hseen⟩ := totals
  refine ⟨⟨?_, ?_, ?_, stateA.advance boundedA room _⟩, after, ?_, ?_⟩
  · rw [htotal, hlo, hhi]
    exact directions
  · rw [hbytes, hloBytes, hhiBytes]
    exact sizes
  · rw [htotal, grown]
    exact after.flags
  · rw [htotal, grown]
  · rw [hseen, seenA]

theorem tallied_create (key : FlowKey) (now : TimePoint) : (create key now).Tallied 0 0 := by
  refine ⟨⟨rfl, rfl, Nat.le_refl _, ⟨fun _ => ⟨rfl, rfl, rfl⟩, ?_, ?_, ?_, ?_, ?_⟩⟩, ⟨?_, ?_, ?_, ?_⟩, rfl, rfl⟩
  all_goals first | exact Nat.le_refl _ | intro h; simp [create] at h

theorem tallied_run (key : FlowKey) (created : TimePoint) (packets : List FlowPacket)
    (tcp : ∀ q ∈ packets, q.info.l4Proto = .TCP) (few : packets.length < 2 ^ 32) :
    (run receive (create key created) packets).Tallied packets.length
      (packets.foldl (fun seen q => seen ||| q.info.tcpFlags) 0) := by
  induction packets using List.reverseRecOn with
  | nil => exact tallied_create key created
  | append_singleton packets q ih =>
      rw [List.length_append] at few ⊢
      rw [run_snoc, List.foldl_concat]
      have earlier := ih (fun q hq => tcp q (by simp [hq])) (by omega)
      exact earlier.receive (by simpa using few) q (tcp q (by simp))

/-- After any number of TCP packets below 2^32, state and counters agree and all flags have been seen. -/
theorem state_backed_by_evidence (key : FlowKey) (created : TimePoint) (packets : List FlowPacket)
    (tcp : ∀ q ∈ packets, q.info.l4Proto = .TCP) (few : packets.length < 2 ^ 32) :
    (run receive (create key created) packets).Consistent ∧
      (run receive (create key created) packets).tcpFlagsSeen =
        packets.foldl (fun seen q => seen ||| q.info.tcpFlags) 0 := by
  have tallied := tallied_run key created packets tcp few
  exact ⟨tallied.consistent, tallied.seen⟩

/-- A SYN of 60 bytes. -/
def synPacket : FlowPacket :=
  { info := { valid := true, l3Proto := .IPv4, l4Proto := .TCP, dstPort := 80, tcpFlags := 0x02, capturedLength := 60 }
    direction := .LO_TO_HI
    now := 0 }

theorem state_backed_by_evidence_syn :
    (run receive (blank 0) [synPacket]).Consistent ∧ (run receive (blank 0) [synPacket]).tcpFlagsSeen = 0x02 :=
  state_backed_by_evidence ⟨.zero, .zero, 0, 0, 0⟩ 0 [synPacket] (by decide) (by decide)

end FlowRecord

end Nte
