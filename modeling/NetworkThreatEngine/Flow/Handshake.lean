import NetworkThreatEngine.Flow.Session

/-!
# Both sides of a connection

The state machine does not look at the direction of a segment. A handshake is completed and a
connection closed by both sides where the segments that advance the machine come from the right side.
-/
namespace Nte
open History

namespace FlowRecord

theorem entersSynSent_iff (record : FlowRecord) (p : Segment) :
    record.entersSynSent p = true ↔ record.tcpState ≠ .SYN_SENT ∧ (record.advance p).tcpState = .SYN_SENT := by
  simp [entersSynSent]

/-! ## Opening -/

/-- The segment acknowledges a SYN of its own side that the other side has answered. -/
structure TwoSided (session : List Segment) (p : Segment) : Prop where
  ack : p.ackOnly = true
  noRst : ∀ q ∈ session ++ [p], q.rst = false
  exchange : ∃ syn synAck, [syn, synAck].Sublist session ∧ syn.synOnly = true ∧ synAck.synAck = true ∧
    syn.direction = p.direction ∧ synAck.direction ≠ p.direction

def HandshakeTwoSided (record : FlowRecord) (session : List Segment) (p : Segment) : Prop :=
  (record.advance p).completedHandshakes ≠ record.completedHandshakes → TwoSided session p

/-- The SYN+ACK that is accepted answers a SYN of the other side, and the ACK that is accepted comes from
the other side than this SYN+ACK. -/
structure AnswersOtherSide (record : FlowRecord) (session : List Segment) (p : Segment) : Prop where
  synAck : record.tcpState = .SYN_SENT → p.synAck = true → p.rst = false →
    ∃ q ∈ session, q.synOnly = true ∧ q.direction ≠ p.direction
  ack : record.tcpState = .SYN_RECEIVED → p.ackOnly = true → p.rst = false →
    ∀ q ∈ session.find? Segment.synAck, q.direction ≠ p.direction

/-- A handshake under way: the session has no RST, and its first SYN+ACK is the one that was accepted. -/
structure Opening (record : FlowRecord) (session : List Segment) : Prop where
  synSent : record.tcpState = .SYN_SENT →
    (∀ q ∈ session, q.rst = false) ∧ session.find? Segment.synAck = none
  synReceived : record.tcpState = .SYN_RECEIVED →
    (∀ q ∈ session, q.rst = false) ∧
      ∃ syn synAck, session.find? Segment.synAck = some synAck ∧ [syn, synAck].Sublist session ∧
        syn.synOnly = true ∧ syn.direction ≠ synAck.direction

section Opening
variable {record : FlowRecord} {session : List Segment} {p : Segment}

/-- A flow gets to SYN_SENT by a SYN, or it is there and sees no SYN+ACK. -/
theorem synSent_cases (h : (record.advance p).tcpState = .SYN_SENT) :
    p.rst = false ∧ (record.tcpState ≠ .SYN_SENT ∧ p.synOnly = true ∨ record.tcpState = .SYN_SENT ∧ p.synAck = false) := by
  rw [advance_tcpState] at h
  unfold TcpState.next at h
  grind

theorem synReceived_cases (h : (record.advance p).tcpState = .SYN_RECEIVED) :
    p.rst = false ∧ (record.tcpState = .SYN_SENT ∧ p.synAck = true ∨ record.tcpState = .SYN_RECEIVED) := by
  rw [advance_tcpState] at h
  unfold TcpState.next at h
  grind

theorem established_cases (from_ : record.tcpState = .SYN_RECEIVED) (h : (record.advance p).tcpState = .ESTABLISHED) :
    p.rst = false ∧ p.ackOnly = true := by
  rw [advance_tcpState] at h
  unfold TcpState.next at h
  grind

theorem noRst_snoc (old : ∀ q ∈ session, q.rst = false) (new : p.rst = false) : ∀ q ∈ session ++ [p], q.rst = false := by
  intro q hq
  rcases List.mem_append.mp hq with h | h
  · exact old q h
  · rw [List.mem_singleton.mp h]
    exact new

theorem Opening.advance (h : record.Opening session) (ok : record.AnswersOtherSide session p) :
    (record.advance p).Opening (extend entersSynSent record session p) := by
  constructor
  · intro sent
    obtain ⟨rst, ⟨other, syn⟩ | ⟨same, plain⟩⟩ := synSent_cases sent
    · have enters : record.entersSynSent p = true := (entersSynSent_iff record p).mpr ⟨other, sent⟩
      rw [extend, enters, if_pos rfl]
      have plain : p.synAck = false := by
        cases answer : p.synAck with
        | false => rfl
        | true => rw [Segment.not_synOnly_of_synAck answer] at syn; cases syn
      exact ⟨by simpa using rst, by simp [plain]⟩
    · have stays : record.entersSynSent p = false := by simp [entersSynSent, same]
      rw [extend, stays]
      obtain ⟨quiet, unanswered⟩ := h.synSent same
      exact ⟨noRst_snoc quiet rst, by simp [List.find?_append, unanswered, plain]⟩
  · intro received
    have stays : record.entersSynSent p = false := by simp [entersSynSent, received]
    rw [extend, stays]
    obtain ⟨rst, ⟨sent, answer⟩ | same⟩ := synReceived_cases received
    · obtain ⟨quiet, unanswered⟩ := h.synSent sent
      obtain ⟨syn, mem, only, apart⟩ := ok.synAck sent answer rst
      refine ⟨noRst_snoc quiet rst, syn, p, ?_, ?_, only, apart⟩
      · simp [List.find?_append, unanswered, answer]
      · exact (List.singleton_sublist.mpr mem).append (List.Sublist.refl [p])
    · obtain ⟨quiet, syn, synAck, found, order, only, apart⟩ := h.synReceived same
      refine ⟨noRst_snoc quiet rst, syn, synAck, ?_, ?_, only, apart⟩
      · simp [List.find?_append, found]
      · exact order.trans (List.sublist_append_left session [p])

theorem Opening.twoSided (h : record.Opening session) (ok : record.AnswersOtherSide session p) :
    record.HandshakeTwoSided session p := by
  intro completes
  rw [advance_completedHandshakes] at completes
  split at completes
  · rename_i edge
    obtain ⟨received, established⟩ := edge
    obtain ⟨rst, ack⟩ := established_cases received established
    obtain ⟨quiet, syn, synAck, found, order, only, apart⟩ := h.synReceived received
    have answered := ok.ack received ack rst synAck found
    refine ⟨ack, noRst_snoc quiet rst, syn, synAck, order, only, List.find?_some found, ?_, answered⟩
    cases hs : syn.direction <;> cases ha : synAck.direction <;> cases hp : p.direction <;> simp_all
  · exact absurd rfl completes

end Opening

/-- Where the accepted SYN+ACKs and ACKs come from the other side, every handshake is completed by both
sides. -/
theorem handshakes_two_sided (key : FlowKey) (now : TimePoint) (segments : List Segment)
    (answers : Every advance entersSynSent (create key now) AnswersOtherSide segments) :
    Every advance entersSynSent (create key now) HandshakeTwoSided segments := by
  refine answers.imp Opening ?_ (fun _ _ _ h ok => h.advance ok) fun _ _ _ h ok => h.twoSided ok
  constructor <;> intro h <;> simp [create] at h

def clientSyn : Segment := ⟨0x02, .LO_TO_HI⟩
def serverSynAck : Segment := ⟨0x12, .HI_TO_LO⟩
def clientAck : Segment := ⟨0x10, .LO_TO_HI⟩

theorem handshakes_two_sided_threeWay :
    Every advance entersSynSent (blank 0) HandshakeTwoSided [clientSyn, serverSynAck, clientAck] := by
  have opens : Every advance entersSynSent (blank 0) AnswersOtherSide ([] ++ [clientSyn]) :=
    every_snoc.mpr ⟨every_nil, ⟨by decide, by decide⟩⟩
  have answers : Every advance entersSynSent (blank 0) AnswersOtherSide ([clientSyn] ++ [serverSynAck]) :=
    every_snoc.mpr ⟨opens, ⟨by decide, by decide⟩⟩
  have completes : Every advance entersSynSent (blank 0) AnswersOtherSide ([clientSyn, serverSynAck] ++ [clientAck]) :=
    every_snoc.mpr ⟨answers, ⟨by decide, by decide⟩⟩
  exact handshakes_two_sided ⟨.zero, .zero, 0, 0, 0⟩ 0 [clientSyn, serverSynAck, clientAck] completes

/-- One endpoint sends all three segments itself. -/
theorem forged_handshake_completes :
    ¬ Every advance entersSynSent (blank 0) HandshakeTwoSided
        [clientSyn, { serverSynAck with direction := .LO_TO_HI }, clientAck] := by
  intro every
  obtain ⟨-, -, syn, synAck, order, -, -, -, apart⟩ :=
    every [clientSyn, { serverSynAck with direction := .LO_TO_HI }] clientAck [] rfl (by decide)
  have mem : synAck ∈ [clientSyn, { serverSynAck with direction := .LO_TO_HI }] := order.subset (by simp)
  revert apart
  rcases List.mem_pair.mp mem with rfl | rfl <;> decide

/-! ## Closing -/

/-- The flow is closed by a segment without RST, with a FIN from each direction in the session. -/
def ClosesBothSides (record : FlowRecord) (session : List Segment) (p : Segment) : Prop :=
  record.tcpState ≠ .CLOSED → (record.advance p).tcpState = .CLOSED → p.rst = false →
    ∀ direction, ∃ q ∈ session ++ [p], q.fin = true ∧ q.direction = direction

/-- The session has a FIN from no other side than the segment's. -/
def RepeatsFin (session : List Segment) (p : Segment) : Prop :=
  ∀ q ∈ session, q.fin = true → q.direction = p.direction

/-- A FIN+ACK that arrives in FIN_WAIT is not one side's FIN once more. -/
def FinsFromBothSides (record : FlowRecord) (session : List Segment) (p : Segment) : Prop :=
  record.tcpState = .FIN_WAIT → p.fin = true → p.ack = true → p.rst = false → ¬ RepeatsFin session p

theorem closed_cases {record : FlowRecord} {p : Segment} (rst : p.rst = false) :
    (record.tcpState ≠ .CLOSED ∧ (record.advance p).tcpState = .CLOSED) ↔
      record.tcpState = .FIN_WAIT ∧ p.fin = true ∧ p.ack = true := by
  rw [advance_tcpState]
  unfold TcpState.next
  grind

theorem fin_each_side_iff {session : List Segment} {p : Segment} (fin : p.fin = true) :
    (∀ direction, ∃ q ∈ session ++ [p], q.fin = true ∧ q.direction = direction) ↔ ¬ RepeatsFin session p := by
  simp only [RepeatsFin, not_forall, exists_prop]
  constructor
  · intro all
    obtain ⟨opposite, apart⟩ : ∃ direction, direction ≠ p.direction := by
      cases p.direction with
      | LO_TO_HI => exact ⟨.HI_TO_LO, by decide⟩
      | HI_TO_LO => exact ⟨.LO_TO_HI, by decide⟩
    obtain ⟨q, mem, hfin, side⟩ := all opposite
    have other : q.direction ≠ p.direction := side ▸ apart
    rcases List.mem_append.mp mem with old | new
    · exact ⟨q, old, hfin, other⟩
    · rw [List.mem_singleton.mp new] at other
      exact absurd rfl other
  · rintro ⟨q, mem, hfin, other⟩ direction
    by_cases own : p.direction = direction
    · exact ⟨p, by simp, fin, own⟩
    · refine ⟨q, List.mem_append_left _ mem, hfin, ?_⟩
      cases hq : q.direction <;> cases hp : p.direction <;> cases direction <;> simp_all

/-- Every closing by FINs has a FIN from both sides in its session, exactly if no FIN+ACK that arrives in
FIN_WAIT comes from the one side that has sent a FIN. -/
theorem closes_both_sides_iff (key : FlowKey) (now : TimePoint) (segments : List Segment) :
    Every advance entersSynSent (create key now) ClosesBothSides segments ↔
      Every advance entersSynSent (create key now) FinsFromBothSides segments := by
  refine every_congr fun record session p => ?_
  unfold ClosesBothSides FinsFromBothSides
  constructor
  · intro closes wait fin ack rst
    obtain ⟨open_, closed⟩ := (closed_cases rst).mpr ⟨wait, fin, ack⟩
    exact (fin_each_side_iff fin).mp (closes open_ closed rst)
  · intro fins open_ closed rst
    obtain ⟨wait, fin, ack⟩ := (closed_cases rst).mp ⟨open_, closed⟩
    exact (fin_each_side_iff fin).mpr (fins wait fin ack rst)

def clientFin : Segment := ⟨0x11, .LO_TO_HI⟩

/-- The client's FIN+ACK is retransmitted, and the flow is closed with no FIN from the server. -/
theorem repeated_fin_closes :
    ¬ Every advance entersSynSent (blank 0) ClosesBothSides
        [clientSyn, serverSynAck, clientAck, clientFin, clientFin] := by
  intro every
  have closes := every [clientSyn, serverSynAck, clientAck, clientFin] clientFin [] rfl (by decide) (by decide)
    (by decide) .HI_TO_LO
  exact absurd closes (by decide)

end FlowRecord

end Nte
