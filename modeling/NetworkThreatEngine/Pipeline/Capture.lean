import NetworkThreatEngine.Dissector.Safety
import NetworkThreatEngine.Pipeline.RingBuffer

/-!
# The capture callback

`packet_callback` counts a packet before it tries the ring and counts a refusal afterwards, each
by an atomic step of its own. The two counters of the capture layer follow the buffer's counters
and meet them whenever no callback is under way.
-/
namespace Nte
open Transition

/-- What libpcap hands to the callback: the header's fields and `caplen` bytes. -/
structure PcapFrame where
  tvSec : Int
  tvUsec : Int
  len : Nat
  bytes : Octets
  deriving DecidableEq, Repr

def PcapFrame.packet (frame : PcapFrame) : Capture :=
  .ofFrame frame.bytes frame.len (frame.tvSec * 1000000 + frame.tvUsec)

/-- A callback under way, at the step it will take next. -/
inductive Callback where
  | count (packet : Capture)
  | push (packet : Capture)
  | countDrop
  deriving DecidableEq

structure CaptureState where
  session : Session Capture
  capturedCount : UInt64 := 0
  droppedByRing : UInt64 := 0
  underWay : List Callback := []

inductive CaptureStep where
  | arrive (frame : PcapFrame)
  | callback (c : Callback)
  | pop
  | shutdown
  deriving DecidableEq

namespace CaptureState

def next (s : CaptureState) : CaptureStep → Option CaptureState
  | .arrive frame => some { s with underWay := s.underWay ++ [.count frame.packet] }
  | .callback c =>
      if c ∈ s.underWay then
        let others := s.underWay.erase c
        match c with
        | .count packet =>
            some { s with capturedCount := s.capturedCount + 1, underWay := others ++ [.push packet] }
        | .push packet =>
            let (accepted, ring) := s.session.ring.push packet
            let session := ⟨ring, s.session.log ++ [.pushed packet accepted]⟩
            if accepted then some { s with session, underWay := others }
            else some { s with session, underWay := others ++ [.countDrop] }
        | .countDrop => some { s with droppedByRing := s.droppedByRing + 1, underWay := others }
      else none
  | .pop => (s.session.next .pop).map fun session => { s with session }
  | .shutdown => (s.session.next .shutdown).map fun session => { s with session }

def machine (cfg : RingBufferConfig) : Machine CaptureState CaptureStep := ⟨{ session := .fresh cfg }, next⟩

/-! ## The callbacks are a producer of the ring -/

theorem next_session {s s' : CaptureState} {a : CaptureStep} (h : s.next a = some s') :
    (s'.session = s.session) ∨ ∃ call, s.session.next call = some s'.session := by
  cases a with
  | arrive frame =>
      cases h
      exact .inl rfl
  | callback c =>
      by_cases mem : c ∈ s.underWay
      · rw [next, if_pos mem] at h
        cases c with
        | count packet =>
            cases h
            exact .inl rfl
        | push packet =>
            refine .inr ⟨.push packet, ?_⟩
            dsimp only at h
            split at h
            · cases h
              rfl
            · cases h
              rfl
        | countDrop =>
            cases h
            exact .inl rfl
      · rw [next, if_neg mem] at h
        cases h
  | pop =>
      rw [next] at h
      obtain ⟨session, hs, rfl⟩ := Option.map_eq_some_iff.mp h
      exact .inr ⟨.pop, hs⟩
  | shutdown =>
      rw [next] at h
      obtain ⟨session, hs, rfl⟩ := Option.map_eq_some_iff.mp h
      exact .inr ⟨.shutdown, hs⟩

theorem reachable_session {cfg : RingBufferConfig} {s : CaptureState} (h : (machine cfg).Reachable s) :
    (Session.machine cfg).Reachable s.session := by
  refine Machine.Reachable.simulation CaptureState.session rfl ?_ h
  intro s a s' hnext
  rcases next_session hnext with same | ⟨call, hcall⟩
  · exact ⟨[], by rw [same]; rfl⟩
  · refine ⟨[call], (Machine.run_cons _).mpr ⟨s'.session, hcall, rfl⟩⟩

/-! ## The counters -/

/-- Callbacks that have counted their packet and not yet pushed it. -/
def counted (c : Callback) : Bool :=
  match c with
  | .push _ => true
  | _ => false

/-- Callbacks whose refusal has not been counted yet. -/
def refused (c : Callback) : Bool :=
  match c with
  | .countDrop => true
  | _ => false

/-- The capture layer's counters agree with the buffer's, up to the callbacks under way. -/
structure Counted (s : CaptureState) : Prop where
  captured : s.capturedCount = s.session.ring.pushedCount + s.session.ring.droppedCount +
    UInt64.ofNat (s.underWay.countP counted)
  dropped : s.droppedByRing + UInt64.ofNat (s.underWay.countP refused) = s.session.ring.droppedCount

theorem countP_erase {l : List Callback} {c : Callback} (mem : c ∈ l) (p : Callback → Bool) :
    l.countP p = (l.erase c).countP p + if p c then 1 else 0 := by
  rw [(List.perm_cons_erase mem).countP_eq p, List.countP_cons]

/-- Popping and shutting down leave the producers' counters alone. -/
theorem session_counters {s s' : Session Capture} {call : RingCall Capture} (consumer : call = .pop ∨ call = .shutdown)
    (h : s.next call = some s') :
    s'.ring.pushedCount = s.ring.pushedCount ∧ s'.ring.droppedCount = s.ring.droppedCount := by
  rcases Session.next_cases h with ⟨packet, hc, -⟩ | ⟨packet, hc, -⟩ | ⟨packet, rest, -, -, rfl⟩ |
    ⟨-, -, -, rfl⟩ | ⟨-, rfl⟩
  · rcases consumer with rfl | rfl <;> cases hc
  · rcases consumer with rfl | rfl <;> cases hc
  · exact ⟨rfl, rfl⟩
  · exact ⟨rfl, rfl⟩
  · exact ⟨rfl, rfl⟩

theorem next_counted {s s' : CaptureState} {a : CaptureStep} (hs : s.Counted) (h : s.next a = some s') :
    s'.Counted := by
  obtain ⟨captured, dropped⟩ := hs
  have one : UInt64.ofNat 1 = 1 := rfl
  cases a with
  | arrive frame =>
      cases h
      refine ⟨?_, ?_⟩
      · simpa [List.countP_append, counted] using captured
      · simpa [List.countP_append, refused] using dropped
  | callback c =>
      by_cases mem : c ∈ s.underWay
      · rw [next, if_pos mem] at h
        rw [countP_erase mem counted] at captured
        rw [countP_erase mem refused] at dropped
        cases c with
        | count packet =>
            cases h
            refine ⟨?_, ?_⟩
            · simp only [counted, Bool.false_eq_true, if_false, Nat.add_zero] at captured
              rw [captured, List.countP_append, UInt64.ofNat_add, UInt64.add_assoc]
              rfl
            · simpa [List.countP_append, refused] using dropped
        | push packet =>
            simp only [counted, if_true, UInt64.ofNat_add] at captured
            simp only [refused, Bool.false_eq_true, if_false, Nat.add_zero] at dropped
            rcases s.session.ring.push_cases packet with ⟨-, heq⟩ | ⟨-, heq⟩
            · simp only [heq, Bool.false_eq_true, if_false] at h
              cases h
              refine ⟨?_, ?_⟩
              · simp only [List.countP_append, UInt64.ofNat_add]
                rw [captured]
                simp only [List.countP_singleton, counted, Bool.false_eq_true, if_false, one]
                ac_rfl
              · simp only [List.countP_append, UInt64.ofNat_add]
                rw [← UInt64.add_assoc, dropped]
                rfl
            · simp only [heq, if_true] at h
              cases h
              refine ⟨?_, dropped⟩
              simp only [captured, one]
              ac_rfl
        | countDrop =>
            cases h
            simp only [counted, Bool.false_eq_true, if_false, Nat.add_zero] at captured
            simp only [refused, if_true, UInt64.ofNat_add] at dropped
            refine ⟨captured, ?_⟩
            rw [← dropped]
            simp only [one]
            ac_rfl
      · rw [next, if_neg mem] at h
        cases h
  | pop =>
      rw [next] at h
      obtain ⟨session, hnext, rfl⟩ := Option.map_eq_some_iff.mp h
      obtain ⟨hpush, hdrop⟩ := session_counters (.inl rfl) hnext
      exact ⟨by rw [captured, ← hpush, ← hdrop], dropped.trans hdrop.symm⟩
  | shutdown =>
      rw [next] at h
      obtain ⟨session, hnext, rfl⟩ := Option.map_eq_some_iff.mp h
      obtain ⟨hpush, hdrop⟩ := session_counters (.inr rfl) hnext
      exact ⟨by rw [captured, ← hpush, ← hdrop], dropped.trans hdrop.symm⟩

theorem reachable_counted {cfg : RingBufferConfig} {s : CaptureState} (h : (machine cfg).Reachable s) :
    s.Counted :=
  Machine.Reachable.invariant _ Counted h ⟨rfl, rfl⟩ fun _ _ _ hs hnext => next_counted hs hnext

end CaptureState

/-- The ring buffer is a lossless bounded FIFO under any calls; behind the callback the two layers'
counters agree whenever no callback is under way. -/
theorem ringBuffer_lossless_fifo (α : Type) (cfg : RingBufferConfig) :
    (∀ s : Session α, (Session.machine cfg).Reachable s → s.Lossless) ∧
      ∀ s : CaptureState, (CaptureState.machine cfg).Reachable s →
        s.session.Lossless ∧
          (s.underWay = [] →
            s.capturedCount = s.session.ring.pushedCount + s.session.ring.droppedCount ∧
              s.droppedByRing = s.session.ring.droppedCount) := by
  refine ⟨fun s h => (Session.reachable_kept h).toLossless, ?_⟩
  intro s h
  refine ⟨(Session.reachable_kept (CaptureState.reachable_session h)).toLossless, ?_⟩
  intro idle
  obtain ⟨captured, dropped⟩ := CaptureState.reachable_counted h
  rw [idle, List.countP_nil] at captured dropped
  exact ⟨captured.trans (UInt64.add_zero _), (UInt64.add_zero _).symm.trans dropped⟩

end Nte
