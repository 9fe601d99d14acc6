import NetworkThreatEngine.Detect.Isolation
import NetworkThreatEngine.Detect.Measurement
import NetworkThreatEngine.Dissector.Truncation
import NetworkThreatEngine.Pipeline.Consumer

/-!
# Discarding truncated packets

The consumer looks at `valid` only, so a packet cut off behind its IPv4 header is tracked and inspected
like a complete one.
-/
namespace Nte
open StateRules

namespace PipelineState

/-- What the consumer does with a packet between two calls of `pop`. -/
def process (s : PipelineState) (packet : Capture) (now created inspectedAt : TimePoint) : PipelineState :=
  (s.trackPacket (dissect packet) now created).inspectPacket (dissect packet) inspectedAt

theorem process_steps {s : PipelineState} {packet : Capture} (holds : s.consumer = .dissecting packet)
    (now created inspectedAt : TimePoint) :
    ((s.next .dissect).bind (·.next (.track now created))).bind (·.next (.inspect inspectedAt)) =
      some (s.process packet now created inspectedAt) := by
  simp only [next, holds, Option.bind_some, trackPacket_consumer, process]
  unfold trackPacket inspectPacket
  split <;> rfl

/-- The flow table with its counters and all that the detector holds are as before, and no alert was
fired. -/
structure Discarded (s s' : PipelineState) : Prop where
  flows : ∀ key, s'.tracker.table.lookup key = s.tracker.table.lookup key
  totalFlowsCreated : s'.tracker.totalFlowsCreated = s.tracker.totalFlowsCreated
  totalFlowsEvicted : s'.tracker.totalFlowsEvicted = s.tracker.totalFlowsEvicted
  activeFlowCount : s'.tracker.activeFlowCount = s.tracker.activeFlowCount
  sources : ∀ src, s'.detector.view src = s.detector.view src
  totalAlertsFired : s'.detector.totalAlertsFired = s.detector.totalAlertsFired
  alerts : s'.detector.delivered = s.detector.delivered

theorem discarded_of_invalid {packet : Capture} (invalid : (dissect packet).valid = false) (s : PipelineState)
    (now created inspectedAt : TimePoint) : Discarded s (s.process packet now created inspectedAt) := by
  have tracked : s.trackPacket (dissect packet) now created = { s with consumer := .inspecting (dissect packet) } := by
    rw [trackPacket, invalid]
    rfl
  rw [process, tracked, inspectPacket, invalid]
  exact ⟨fun _ => rfl, rfl, rfl, rfl, fun _ => rfl, rfl, rfl⟩

/-- Volume is measured for every valid packet with a source. -/
theorem not_discarded_of_inspected {packet : Capture} (valid : (dissect packet).valid = true)
    (source : (dissect packet).srcIp ≠ []) {s : PipelineState} (positive : 0 < s.detector.config.ewma.minWindowSec)
    (now created inspectedAt : TimePoint) : ¬ Discarded s (s.process packet now created inspectedAt) := by
  intro discarded
  have looked : Measurement.inspected (dissect packet) = true := by
    simp [Measurement.inspected, valid, source]
  have detector : (s.process packet now created inspectedAt).detector =
      after (ThreatDetector.inspect (dissect packet) inspectedAt) s.detector := by
    rw [process, inspectPacket, if_pos valid, trackPacket, if_pos valid]
  have same := congrArg SourceView.ewma (discarded.sources (dissect packet).srcIp)
  rw [detector] at same
  have observed := congrArg Measurement.ewma
    (ThreatDetector.inspect_measured (dissect packet) inspectedAt s.detector)
  rw [Measurement.observe_ewma _ _ _ _ looked] at observed
  refine Measurement.volume_lookup_ne s.detector.config (dissect packet) inspectedAt s.detector.measured positive ?_
  rw [← observed]
  exact same

/-- A truncated packet is discarded exactly when no complete IPv4 header was captured; with one, it
leaves its mark on every state whose volume windows have a length. -/
theorem truncated_discarded_iff (c : Capture) (truncated : (dissect c).truncated = true) :
    ((∀ s now created inspectedAt, Discarded s (process s c now created inspectedAt)) ↔ ¬ c.HasIpv4Header) ∧
      (c.HasIpv4Header → ∀ s now created inspectedAt, 0 < s.detector.config.ewma.minWindowSec →
        ¬ Discarded s (process s c now created inspectedAt)) := by
  have accepted := dissect_truncated c truncated
  have consistent := dissect_consistent c
  have marks (header : c.HasIpv4Header) (s : PipelineState) (now created inspectedAt : TimePoint)
      (positive : 0 < s.detector.config.ewma.minWindowSec) :
      ¬ Discarded s (process s c now created inspectedAt) := by
    have ip : (dissect c).l3Proto.isIp := .inl (accepted.1 header)
    exact not_discarded_of_inspected (consistent.valid.mpr (.inl ip)) (consistent.addressed.mpr ip).1 positive
      now created inspectedAt
  refine ⟨⟨?_, ?_⟩, marks⟩
  · intro all header
    exact marks header (fresh {}) 0 0 0 (by decide) (all _ 0 0 0)
  · intro none s now created inspectedAt
    apply discarded_of_invalid
    have refused := accepted.2 none
    rw [← Bool.not_eq_true, consistent.valid, refused]
    simp [L3Protocol.isIp]

/-- The first 34 bytes of a TCP segment: a complete IPv4 header and nothing behind it. -/
def cutSegment : Capture :=
  .ofFrame (List.replicate 12 0 ++ [0x08, 0x00, 0x45, 0, 0, 40, 0, 0, 0x40, 0, 64, 6, 0, 0, 10, 0, 0, 1, 10, 0, 0, 2])
    54 0

theorem truncated_discarded_iff_cut :
    ((∀ s now created inspectedAt, Discarded s (process s cutSegment now created inspectedAt)) ↔
        ¬ cutSegment.HasIpv4Header) ∧
      (cutSegment.HasIpv4Header → ∀ s now created inspectedAt, 0 < s.detector.config.ewma.minWindowSec →
        ¬ Discarded s (process s cutSegment now created inspectedAt)) :=
  truncated_discarded_iff cutSegment (by decide +kernel)

/-- It opens a flow without ports. -/
theorem cut_segment_tracked :
    (dissect cutSegment).truncated = true ∧ ¬ Discarded (fresh {}) (process (fresh {}) cutSegment 0 0 0) := by
  refine ⟨by decide +kernel, ?_⟩
  intro discarded
  have created := discarded.totalFlowsCreated
  revert created
  decide +kernel

end PipelineState

end Nte
