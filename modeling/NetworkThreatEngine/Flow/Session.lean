import NetworkThreatEngine.Flow.Record
import NetworkThreatEngine.Lib.History

/-!
# TCP sessions

What one segment does to a flow record: the transition of the six-state machine apart from the
counters. A SYN on a closed flow reopens it, and the counters of the flags start over.
-/
namespace Nte
open History

/-- The arguments of `advance_tcp_state`. -/
structure Segment where
  flags : UInt8
  direction : FlowDirection
  deriving DecidableEq, Repr

namespace Segment
variable (p : Segment)

def synOnly : Bool := synSet p.flags && !ackSet p.flags
def synAck : Bool := synSet p.flags && ackSet p.flags
def ackOnly : Bool := !synSet p.flags && ackSet p.flags
def ack : Bool := ackSet p.flags
def fin : Bool := FlowRecord.finSet p.flags
def rst : Bool := FlowRecord.rstSet p.flags

theorem not_synOnly_of_synAck {p : Segment} (h : p.synAck = true) : p.synOnly = false := by
  unfold synAck synOnly at *
  grind

end Segment

/-- The transitions of the state machine. -/
def TcpState.next (s : TcpState) (p : Segment) : TcpState :=
  if p.rst then .CLOSED
  else
    match s with
    | .INIT => if p.synOnly then .SYN_SENT else .INIT
    | .SYN_SENT => if p.synAck then .SYN_RECEIVED else .SYN_SENT
    | .SYN_RECEIVED => if p.ackOnly then .ESTABLISHED else .SYN_RECEIVED
    | .ESTABLISHED => if p.fin then .FIN_WAIT else .ESTABLISHED
    | .FIN_WAIT => if p.fin && p.ack then .CLOSED else .FIN_WAIT
    | .CLOSED => if p.synOnly then .SYN_SENT else .CLOSED

namespace FlowRecord

/-- The default constructor, with the default key. -/
def blank (now : TimePoint) : FlowRecord := create ⟨.zero, .zero, 0, 0, 0⟩ now

def advance (record : FlowRecord) (p : Segment) : FlowRecord := (record.advanceTcpState p.flags p.direction).2

/-- The segment takes the flow from CLOSED to SYN_SENT. -/
def reopens (record : FlowRecord) (p : Segment) : Bool :=
  record.tcpState == .CLOSED && (record.advance p).tcpState == .SYN_SENT

/-- The segment takes the flow to SYN_SENT. -/
def entersSynSent (record : FlowRecord) (p : Segment) : Bool :=
  record.tcpState != .SYN_SENT && (record.advance p).tcpState == .SYN_SENT

/-! ## What a segment does -/

section Step
variable (record : FlowRecord) (p : Segment)

theorem advance_rst (h : p.rst = true) :
    record.advance p = { record.countFlags p.flags with tcpState := .CLOSED } := by
  unfold Segment.rst at h
  simp [advance, advanceTcpState, h]

theorem advance_of_not_rst (h : p.rst = false) :
    record.advance p =
      (record.countFlags p.flags).transition (synSet p.flags) (ackSet p.flags) (finSet p.flags) := by
  unfold Segment.rst at h
  simp [advance, advanceTcpState, h]

theorem transition_tcpState (syn ack fin : Bool) :
    (record.transition syn ack fin).tcpState =
      match record.tcpState with
      | .INIT => if syn && !ack then .SYN_SENT else .INIT
      | .SYN_SENT => if syn && ack then .SYN_RECEIVED else .SYN_SENT
      | .SYN_RECEIVED => if !syn && ack then .ESTABLISHED else .SYN_RECEIVED
      | .ESTABLISHED => if fin then .FIN_WAIT else .ESTABLISHED
      | .FIN_WAIT => if fin && ack then .CLOSED else .FIN_WAIT
      | .CLOSED => if syn && !ack then .SYN_SENT else .CLOSED := by
  unfold transition
  cases h : record.tcpState <;> cases syn <;> cases ack <;> cases fin <;> first | rfl | exact h

theorem advance_tcpState : (record.advance p).tcpState = record.tcpState.next p := by
  cases h : p.rst with
  | true => simp [advance_rst record p h, TcpState.next, h]
  | false =>
      rw [advance_of_not_rst record p h, transition_tcpState]
      unfold TcpState.next
      rw [h]
      rfl

theorem reopens_iff : record.reopens p = true ↔ record.tcpState = .CLOSED ∧ p.rst = false ∧ p.synOnly = true := by
  unfold reopens
  rw [advance_tcpState, Bool.and_eq_true, beq_iff_eq, beq_iff_eq]
  constructor
  · rintro ⟨closed, sent⟩
    rw [closed] at sent
    refine ⟨closed, ?_⟩
    unfold TcpState.next at sent
    grind
  · rintro ⟨closed, rst, syn⟩
    exact ⟨closed, by simp [closed, TcpState.next, rst, syn]⟩

/-- Reopening sets the counters of the flags; any other segment counts its own flags. -/
theorem advance_counters :
    ((record.advance p).synCount, (record.advance p).synAckCount, (record.advance p).ackCount,
        (record.advance p).finCount, (record.advance p).rstCount) =
      if record.reopens p then (1, 0, 0, 0, 0)
      else ((record.countFlags p.flags).synCount, (record.countFlags p.flags).synAckCount,
        (record.countFlags p.flags).ackCount, (record.countFlags p.flags).finCount,
        (record.countFlags p.flags).rstCount) := by
  cases h : p.rst with
  | true =>
      have keeps : record.reopens p = false := by
        rw [Bool.eq_false_iff, ne_eq, reopens_iff]
        simp [h]
      simp [advance_rst record p h, keeps]
  | false =>
      have state : (record.countFlags p.flags).tcpState = record.tcpState := rfl
      have opened := reopens_iff record p
      rw [h] at opened
      rw [advance_of_not_rst record p h, transition, state]
      cases hs : record.tcpState with
      | CLOSED =>
          rw [hs] at opened
          cases syn : p.synOnly with
          | true =>
              have given : (synSet p.flags && !ackSet p.flags) = true := syn
              simp [opened, syn, given]
          | false =>
              have given : (synSet p.flags && !ackSet p.flags) = false := syn
              simp [opened, syn, given]
      | INIT | SYN_SENT | SYN_RECEIVED | ESTABLISHED | FIN_WAIT =>
          rw [hs] at opened
          have keeps : record.reopens p = false := by
            rw [Bool.eq_false_iff, ne_eq, opened]
            simp
          simp only [keeps, Bool.false_eq_true, if_false]
          split <;> rfl

theorem advance_completedHandshakes :
    (record.advance p).completedHandshakes =
      if record.tcpState = .SYN_RECEIVED ∧ (record.advance p).tcpState = .ESTABLISHED then
        record.completedHandshakes + 1
      else record.completedHandshakes := by
  rw [advance_tcpState]
  cases h : p.rst with
  | true => simp [advance_rst record p h, TcpState.next, h, countFlags]
  | false =>
      have state : (record.countFlags p.flags).tcpState = record.tcpState := rfl
      rw [advance_of_not_rst record p h, transition, state]
      cases hs : record.tcpState with
      | SYN_RECEIVED =>
          cases hack : p.ackOnly with
          | true =>
              have given : (!synSet p.flags && ackSet p.flags) = true := hack
              simp [TcpState.next, h, hack, given, countFlags]
          | false =>
              have given : (!synSet p.flags && ackSet p.flags) = false := hack
              simp [TcpState.next, h, hack, given, countFlags]
      | INIT | SYN_SENT | ESTABLISHED | FIN_WAIT | CLOSED =>
          simp only [reduceCtorEq, false_and, if_false]
          split <;> rfl

end Step

end FlowRecord

end Nte
