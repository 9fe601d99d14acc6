import NetworkThreatEngine.Delivery.Inserts
import NetworkThreatEngine.Detect.Suppression
import NetworkThreatEngine.Pipeline.Consumer

/-!
# The whole engine

The capture callbacks, the consumer, the reaper, the signal handlers, the alert writer and `main` behind the
start-up, interleaved. An inspection enqueues its alerts one call after the other, and the writer may come
in between. What the threads make of the packets is what a sequential program makes of them.
-/
namespace Nte
open Transition StateRules

/-- Where `main` stands once all layers have been started. -/
inductive MainAt where
  | joiningConsumer
  | stoppingCapture
  | stoppingReaper
  | stoppingDelivery
  | summary
  deriving DecidableEq

/-- `outbox` holds the alerts of the inspection under way that are still to be enqueued. The packets inspected,
with the readings of the clock, and the steps of the tracker are kept for the statements. -/
structure Engine where
  pipeline : PipelineState
  delivery : DeliveryLayer := {}
  capturedCount : UInt64 := 0
  droppedByRing : UInt64 := 0
  underWay : List Callback := []
  outbox : List ThreatAlert := []
  main : MainAt := .joiningConsumer
  inspections : List Timed := []
  flowSteps : List FlowTracker.Step := []

inductive EngineStep where
  | arrive (frame : PcapFrame)
  | callback (c : Callback)
  | pipeline (a : PipelineStep)
  | enqueue
  | evict (now : TimePoint)
  | write (stepDone : Bool)
  | main
  deriving DecidableEq

namespace Engine
open PipelineState (analysed analysed_append)

def fresh (cfg : Config) : Engine := { pipeline := .fresh cfg }

/-! ## Capture -/

def captureView (e : Engine) : CaptureState := ⟨e.pipeline.session, e.capturedCount, e.droppedByRing, e.underWay⟩

def captureStep (e : Engine) (a : CaptureStep) : Option Engine :=
  (e.captureView.next a).map fun c =>
    { e with
      pipeline := { e.pipeline with session := c.session }
      capturedCount := c.capturedCount
      droppedByRing := c.droppedByRing
      underWay := c.underWay }

/-- `CaptureLayer::stop` has not joined the producer yet. -/
def captures : MainAt → Bool
  | .joiningConsumer => true
  | .stoppingCapture => true
  | _ => false

/-- `stop_reaper` has not joined the reaper yet. -/
def reaps : MainAt → Bool
  | .stoppingDelivery => false
  | .summary => false
  | _ => true

/-! ## The consumer -/

/-- Packets enter by the callbacks alone, and an inspection ends when its alerts have been enqueued. -/
def allows (e : Engine) : PipelineStep → Bool
  | .push _ => false
  | .count => e.outbox.isEmpty
  | _ => true

/-- The packet the detector is given at a step of the consumer. -/
def inspectionAt (p : PipelineState) : PipelineStep → List Timed
  | .inspect now =>
      match p.consumer with
      | .inspecting info => if info.valid then [⟨info, now⟩] else []
      | _ => []
  | _ => []

/-- The call of `update` at a step of the consumer. -/
def flowStepAt (p : PipelineState) : PipelineStep → List FlowTracker.Step
  | .track now created =>
      match p.consumer with
      | .tracking info => if info.valid then [.update ⟨info, now, created⟩] else []
      | _ => []
  | _ => []

/-- The alerts fired on the way from one state of the detector to another. -/
def firedSince (d d' : ThreatDetector) : List ThreatAlert :=
  (d'.delivered.drop d.delivered.length).map Fired.alert

def pipelineStep (e : Engine) (a : PipelineStep) : Option Engine :=
  if e.allows a then
    (e.pipeline.next a).map fun p =>
      { e with
        pipeline := p
        outbox := e.outbox ++ firedSince e.pipeline.detector p.detector
        inspections := e.inspections ++ inspectionAt e.pipeline a
        flowSteps := e.flowSteps ++ flowStepAt e.pipeline a }
  else none

/-- `delivery_fire_alert` for the first alert of the outbox. -/
def enqueue (e : Engine) : Option Engine :=
  match e.outbox with
  | alert :: rest =>
      (e.delivery.next (.enqueue alert)).map fun delivery => { e with delivery, outbox := rest }
  | [] => none

/-! ## The main thread -/

def deliver (e : Engine) (a : DeliveryStep) : Option Engine :=
  (e.delivery.next a).map fun delivery => { e with delivery }

/-- `main` from `consumer.join()` to the session summary. -/
def mainStep (e : Engine) : Option Engine :=
  match e.main with
  | .joiningConsumer => if e.pipeline.consumer = .done then some { e with main := .stoppingCapture } else none
  | .stoppingCapture => if e.underWay = [] then some { e with main := .stoppingReaper } else none
  | .stoppingReaper => some { e with main := .stoppingDelivery }
  | .stoppingDelivery =>
      match e.delivery.stopping with
      | .notCalled => e.deliver .stop
      | .joining => e.deliver .join
      | .closing => e.deliver .close
      | .returned => some { e with main := .summary }
  | .summary => none

def next (e : Engine) : EngineStep → Option Engine
  | .arrive frame => if captures e.main then e.captureStep (.arrive frame) else none
  | .callback c => e.captureStep (.callback c)
  | .pipeline a => e.pipelineStep a
  | .enqueue => e.enqueue
  | .evict now =>
      if reaps e.main then
        some { e with
          pipeline := { e.pipeline with tracker := e.pipeline.tracker.evictExpiredFlows now }
          flowSteps := e.flowSteps ++ [.evict now] }
      else none
  | .write stepDone => e.deliver (.write stepDone)
  | .main => e.mainStep

def machine (cfg : Config) : Machine Engine EngineStep := ⟨fresh cfg, next⟩

/-! ## What a step of the consumer does -/

/-- The packet a step of the tracker is about. -/
def updated : FlowTracker.Step → Option PacketInfo
  | .update call => some call.info
  | .evict _ => none

section Consumer
variable {p p' : PipelineState} {a : PipelineStep}

theorem detector_next (h : p.next a = some p') :
    p'.detector = runAll (fun q : Timed => ThreatDetector.inspect q.info q.now) p.detector (inspectionAt p a) ∧
      p'.inspected = p.inspected ++ (inspectionAt p a).map Timed.info := by
  rcases PipelineState.next_cases h with ⟨packet, session, rfl, -, rfl⟩ | ⟨rfl, rfl⟩ | ⟨session, rfl, -, -, rfl⟩ |
    ⟨rfl, -, hpop⟩ | ⟨packet, rfl, -, rfl⟩ | ⟨info, now, created, rfl, -, rfl⟩ | ⟨info, now, rfl, at_, rfl⟩ |
    ⟨rfl, -, rfl⟩ | ⟨rfl, -, rfl⟩
  · exact ⟨rfl, (List.append_nil _).symm⟩
  · exact ⟨rfl, (List.append_nil _).symm⟩
  · exact ⟨rfl, (List.append_nil _).symm⟩
  · rcases PipelineState.popPacket_cases hpop with ⟨packet, rest, -, rfl⟩ | ⟨-, -, rfl⟩ <;>
      exact ⟨rfl, (List.append_nil _).symm⟩
  · exact ⟨rfl, (List.append_nil _).symm⟩
  · unfold PipelineState.trackPacket
    split <;> exact ⟨rfl, (List.append_nil _).symm⟩
  · unfold PipelineState.inspectPacket inspectionAt
    rw [at_]
    dsimp only
    split
    · exact ⟨rfl, rfl⟩
    · exact ⟨rfl, (List.append_nil _).symm⟩
  · exact ⟨rfl, (List.append_nil _).symm⟩
  · exact ⟨rfl, (List.append_nil _).symm⟩

theorem tracker_next (h : p.next a = some p') :
    p'.tracker = (flowStepAt p a).foldl FlowTracker.step p.tracker ∧
      p'.tracked = p.tracked ++ (flowStepAt p a).filterMap updated := by
  rcases PipelineState.next_cases h with ⟨packet, session, rfl, -, rfl⟩ | ⟨rfl, rfl⟩ | ⟨session, rfl, -, -, rfl⟩ |
    ⟨rfl, -, hpop⟩ | ⟨packet, rfl, -, rfl⟩ | ⟨info, now, created, rfl, at_, rfl⟩ | ⟨info, now, rfl, -, rfl⟩ |
    ⟨rfl, -, rfl⟩ | ⟨rfl, -, rfl⟩
  · exact ⟨rfl, (List.append_nil _).symm⟩
  · exact ⟨rfl, (List.append_nil _).symm⟩
  · exact ⟨rfl, (List.append_nil _).symm⟩
  · rcases PipelineState.popPacket_cases hpop with ⟨packet, rest, -, rfl⟩ | ⟨-, -, rfl⟩ <;>
      exact ⟨rfl, (List.append_nil _).symm⟩
  · exact ⟨rfl, (List.append_nil _).symm⟩
  · unfold PipelineState.trackPacket flowStepAt
    rw [at_]
    dsimp only
    split
    · exact ⟨rfl, rfl⟩
    · exact ⟨rfl, (List.append_nil _).symm⟩
  · unfold PipelineState.inspectPacket
    split <;> exact ⟨rfl, (List.append_nil _).symm⟩
  · exact ⟨rfl, (List.append_nil _).symm⟩
  · exact ⟨rfl, (List.append_nil _).symm⟩

/-- The packet that has been popped and not been counted yet. -/
def uncounted : ConsumerAt → Nat
  | .popping => 0
  | .testing => 0
  | .done => 0
  | _ => 1

/-- `g_consumer_packets_processed` counts the packets popped, but for the one under way. -/
def Processes (p : PipelineState) : Prop :=
  p.packetsProcessed + UInt64.ofNat (uncounted p.consumer) = UInt64.ofNat (poppedIn p.session.log).length

theorem processes_next (hp : Processes p) (h : p.next a = some p') : Processes p' := by
  unfold Processes at hp ⊢
  rcases PipelineState.next_cases h with ⟨packet, session, -, hnext, rfl⟩ | ⟨-, rfl⟩ | ⟨session, -, -, hnext, rfl⟩ |
    ⟨-, at_, hpop⟩ | ⟨packet, -, at_, rfl⟩ | ⟨info, now, created, -, at_, rfl⟩ | ⟨info, now, -, at_, rfl⟩ |
    ⟨-, at_, rfl⟩ | ⟨-, at_, rfl⟩
  · obtain ⟨⟨accepted, log⟩, -⟩ := PipelineState.next_push_log hnext
    dsimp only
    rw [log, poppedIn_pushed]
    exact hp
  · exact hp
  · cases hnext
    dsimp only
    rw [poppedIn_shutdown]
    exact hp
  · rw [at_] at hp
    rcases PipelineState.popPacket_cases hpop with ⟨packet, rest, -, rfl⟩ | ⟨-, -, rfl⟩
    · dsimp only
      rw [poppedIn_popped, List.length_append, UInt64.ofNat_add, ← hp]
      exact congrArg (· + 1) (UInt64.add_zero _).symm
    · dsimp only
      rw [poppedIn_empty]
      exact hp
  · rw [at_] at hp
    exact hp
  · rw [at_] at hp
    rw [PipelineState.trackPacket_session, PipelineState.trackPacket_consumer, ← hp]
    unfold PipelineState.trackPacket
    split <;> rfl
  · rw [at_] at hp
    rw [PipelineState.inspectPacket_session, PipelineState.inspectPacket_consumer, ← hp]
    unfold PipelineState.inspectPacket
    split <;> rfl
  · rw [at_] at hp
    rw [← hp]
    exact UInt64.add_zero _
  · rw [at_] at hp
    rw [← hp]
    dsimp only
    split <;> rfl

/-- What has been fired stays fired. -/
theorem delivered_prefix (d : ThreatDetector) (packets : List Timed) :
    d.delivered <+: (runAll (fun q : Timed => ThreatDetector.inspect q.info q.now) d packets).delivered := by
  refine runAll_invariant (fun e : ThreatDetector => d.delivered <+: e.delivered) ?_ packets List.prefix_rfl
  intro q d' before
  exact before.trans (ThreatDetector.inspect_keeps (R := fun d e => d.delivered <+: e.delivered) (fun h₁ h₂ => h₁.trans h₂)
    (fun _ _ h => h.delivered ▸ List.prefix_rfl) (fun _ _ _ => List.prefix_append _ _) q.info d')

theorem firedSince_next (h : p.next a = some p') :
    p.detector.delivered.map Fired.alert ++ firedSince p.detector p'.detector =
      p'.detector.delivered.map Fired.alert := by
  have grows : p.detector.delivered <+: p'.detector.delivered := by
    rw [(detector_next h).1]
    exact delivered_prefix p.detector _
  obtain ⟨new, new_eq⟩ := grows
  rw [firedSince, ← new_eq, List.drop_left, List.map_append]

theorem firedSince_self (d : ThreatDetector) : firedSince d d = [] := by
  rw [firedSince, List.drop_length]
  rfl

/-- As long as an inspection has alerts to enqueue the consumer stays behind it. -/
theorem calling_next {e : Engine} (calling : e.outbox ≠ [] → e.pipeline.consumer = .counting) {a : PipelineStep}
    (allowed : e.allows a = true) (h : e.pipeline.next a = some p')
    (more : e.outbox ++ firedSince e.pipeline.detector p'.detector ≠ []) : p'.consumer = .counting := by
  have quiet {d : ThreatDetector} (same : d = e.pipeline.detector)
      (full : e.outbox ++ firedSince e.pipeline.detector d ≠ []) : e.pipeline.consumer = .counting := by
    rw [same, firedSince_self, List.append_nil] at full
    exact calling full
  have idle {at_ : ConsumerAt} (here : e.pipeline.consumer = at_) (other : at_ ≠ .counting) {d : ThreatDetector}
      (same : d = e.pipeline.detector) (full : e.outbox ++ firedSince e.pipeline.detector d ≠ []) : False :=
    other (here.symm.trans (quiet same full))
  rcases PipelineState.next_cases h with ⟨packet, session, rfl, -, rfl⟩ | ⟨-, rfl⟩ | ⟨session, -, -, -, rfl⟩ |
    ⟨-, at_, hpop⟩ | ⟨packet, -, at_, rfl⟩ | ⟨info, now, created, -, at_, rfl⟩ | ⟨info, now, -, -, rfl⟩ |
    ⟨rfl, -, rfl⟩ | ⟨-, at_, rfl⟩
  · cases allowed
  · exact quiet rfl more
  · exact quiet rfl more
  · have same : p'.detector = e.pipeline.detector := by
      rcases PipelineState.popPacket_cases hpop with ⟨packet, rest, -, rfl⟩ | ⟨-, -, rfl⟩ <;> rfl
    exact (idle at_ nofun same more).elim
  · exact (idle at_ nofun rfl more).elim
  · have same : (e.pipeline.trackPacket info now created).detector = e.pipeline.detector := by
      unfold PipelineState.trackPacket
      split <;> rfl
    exact (idle at_ nofun same more).elim
  · exact PipelineState.inspectPacket_consumer e.pipeline info now
  · have empty : e.outbox = [] := List.isEmpty_iff.mp allowed
    refine absurd ?_ more
    rw [empty]
    exact firedSince_self _
  · exact (idle at_ nofun rfl more).elim

/-- Apart from pushes the pipeline pops and shuts down. -/
theorem session_next (h : p.next a = some p') (consumer : ∀ packet, a ≠ .push packet) :
    p'.session = p.session ∨
      ∃ call, (call = .pop ∨ call = .shutdown) ∧ p.session.next call = some p'.session := by
  rcases PipelineState.next_cases h with ⟨packet, session, rfl, -, rfl⟩ | ⟨-, rfl⟩ | ⟨session, -, -, hnext, rfl⟩ |
    ⟨-, -, hpop⟩ | ⟨packet, -, -, rfl⟩ | ⟨info, now, created, -, -, rfl⟩ | ⟨info, now, -, -, rfl⟩ |
    ⟨-, -, rfl⟩ | ⟨-, -, rfl⟩
  · exact absurd rfl (consumer packet)
  · exact .inl rfl
  · exact .inr ⟨.shutdown, .inr rfl, hnext⟩
  · exact .inr ⟨.pop, .inl rfl, PipelineState.popPacket_session hpop⟩
  · exact .inl rfl
  · exact .inl (PipelineState.trackPacket_session p info now created)
  · exact .inl (PipelineState.inspectPacket_session p info now)
  · exact .inl rfl
  · exact .inl rfl

/-- Once the loop has been left, the consumer does nothing more. -/
theorem consumer_done (h : p.next a = some p') (ended : p.consumer = .done) : p'.consumer = .done := by
  rcases PipelineState.next_cases h with ⟨packet, session, -, -, rfl⟩ | ⟨-, rfl⟩ | ⟨session, -, -, -, rfl⟩ |
    ⟨-, at_, -⟩ | ⟨packet, -, at_, -⟩ | ⟨info, now, created, -, at_, -⟩ | ⟨info, now, -, at_, -⟩ |
    ⟨-, at_, -⟩ | ⟨-, at_, -⟩
  · exact ended
  · exact ended
  · exact ended
  all_goals
    rw [ended] at at_
    cases at_

end Consumer

/-! ## What a step of the capture layer does -/

/-- A callback pushes its packet, or leaves the buffer alone. -/
theorem capture_next {c c' : CaptureState} {a : CaptureStep} (h : c.next a = some c')
    (producer : a ≠ .pop ∧ a ≠ .shutdown) :
    c'.session = c.session ∨ ∃ packet, c.session.next (.push packet) = some c'.session := by
  cases a with
  | arrive frame =>
      cases h
      exact .inl rfl
  | callback callback =>
      by_cases mem : callback ∈ c.underWay
      · rw [CaptureState.next, if_pos mem] at h
        cases callback with
        | count packet =>
            cases h
            exact .inl rfl
        | push packet =>
            refine .inr ⟨packet, ?_⟩
            dsimp only at h
            split at h <;> cases h <;> rfl
        | countDrop =>
            cases h
            exact .inl rfl
      · rw [CaptureState.next, if_neg mem] at h
        cases h
  | pop => exact absurd rfl producer.1
  | shutdown => exact absurd rfl producer.2

theorem captureStep_pipeline {e e' : Engine} {c : CaptureStep} (producer : c ≠ .pop ∧ c ≠ .shutdown)
    (h : e.captureStep c = some e') :
    e'.pipeline = e.pipeline ∨ ∃ packet, e.pipeline.next (.push packet) = some e'.pipeline := by
  obtain ⟨c', hnext, rfl⟩ := Option.map_eq_some_iff.mp h
  rcases capture_next hnext producer with same | ⟨packet, push⟩
  · refine .inl ?_
    rw [same]
    rfl
  · refine .inr ⟨packet, ?_⟩
    rw [PipelineState.next, show e.pipeline.session.next (.push packet) = some c'.session from push]
    rfl

/-- What a step makes of the pipeline: a step of the pipeline, a pass of the reaper, or nothing. -/
theorem next_pipeline {e e' : Engine} {a : EngineStep} (h : e.next a = some e') :
    e'.pipeline = e.pipeline ∨ (∃ b, e.pipeline.next b = some e'.pipeline) ∨
      ∃ now, e'.pipeline = { e.pipeline with tracker := e.pipeline.tracker.evictExpiredFlows now } := by
  have captured {c : CaptureStep} (producer : c ≠ .pop ∧ c ≠ .shutdown) (hc : e.captureStep c = some e') :
      e'.pipeline = e.pipeline ∨ ∃ b, e.pipeline.next b = some e'.pipeline :=
    (captureStep_pipeline producer hc).imp_right fun ⟨packet, push⟩ => ⟨.push packet, push⟩
  have delivered {d : DeliveryStep} (hd : e.deliver d = some e') : e'.pipeline = e.pipeline := by
    obtain ⟨d', -, rfl⟩ := Option.map_eq_some_iff.mp hd
    rfl
  cases a with
  | arrive frame =>
      rw [Engine.next] at h
      split at h
      · exact (captured (c := .arrive frame) ⟨by simp, by simp⟩ h).imp_right .inl
      · cases h
  | callback c => exact (captured (c := .callback c) ⟨by simp, by simp⟩ h).imp_right .inl
  | pipeline b =>
      rw [Engine.next, pipelineStep] at h
      split at h
      · obtain ⟨p, hp, rfl⟩ := Option.map_eq_some_iff.mp h
        exact .inr (.inl ⟨b, hp⟩)
      · cases h
  | enqueue =>
      rw [Engine.next, Engine.enqueue] at h
      split at h
      · obtain ⟨d, -, rfl⟩ := Option.map_eq_some_iff.mp h
        exact .inl rfl
      · cases h
  | evict now =>
      rw [Engine.next] at h
      split at h <;> cases h
      exact .inr (.inr ⟨now, rfl⟩)
  | write stepDone => exact .inl (delivered h)
  | main =>
      rw [Engine.next, mainStep] at h
      split at h
      · split at h <;> cases h
        exact .inl rfl
      · split at h <;> cases h
        exact .inl rfl
      · cases h
        exact .inl rfl
      · split at h
        · exact .inl (delivered h)
        · exact .inl (delivered h)
        · exact .inl (delivered h)
        · cases h
          exact .inl rfl
      · cases h

/-! ## What every run keeps -/

/-- How far `main` has come, and which threads have ended by then. -/
structure Phased (e : Engine) : Prop where
  joined : e.main ≠ .joiningConsumer → e.pipeline.consumer = .done
  stopped : captures e.main = false → e.underWay = []
  uncalled : reaps e.main = true → e.delivery.stopping = .notCalled
  returned : e.main = .summary → e.delivery.stopping = .returned

/-- The detector and the tracker are what the packets make of them one after the other, and the alerts fired are
those handed to the delivery layer. -/
structure Wired (cfg : Config) (e : Engine) : Prop where
  known : e.pipeline.Known
  counted : e.captureView.Counted
  processes : Processes e.pipeline
  detector : e.pipeline.detector = .inspectAll cfg e.inspections
  inspected : e.inspections.map Timed.info = e.pipeline.inspected
  tracker : e.pipeline.tracker = e.flowSteps.foldl FlowTracker.step (.ofConfig cfg)
  tracked : e.flowSteps.filterMap updated = e.pipeline.tracked
  alerts : e.delivery.enqueued ++ e.outbox = e.pipeline.detector.delivered.map Fired.alert
  calling : e.outbox ≠ [] → e.pipeline.consumer = .counting
  staged : e.delivery.Staged
  tried : ∃ attempts, e.delivery.Attempted attempts
  phased : e.Phased

theorem fresh_wired (cfg : Config) : (fresh cfg).Wired cfg where
  known := PipelineState.fresh_known cfg
  counted := ⟨rfl, rfl⟩
  processes := rfl
  detector := rfl
  inspected := rfl
  tracker := rfl
  tracked := rfl
  alerts := rfl
  calling := fun full => absurd rfl full
  staged := DeliveryLayer.staged_start
  tried := ⟨[], DeliveryLayer.attempted_start⟩
  phased := ⟨fun late => absurd rfl late, nofun, fun _ => rfl, nofun⟩

section Steps
variable {cfg : Config} {e e' : Engine} (h : e.Wired cfg)
include h

theorem Wired.capture {a : CaptureStep} (producer : a ≠ .pop ∧ a ≠ .shutdown)
    (open_ : captures e.main = false → e.captureView.next a = none) (hnext : e.captureStep a = some e') :
    e'.Wired cfg := by
  have pushes := captureStep_pipeline producer hnext
  have known : e'.pipeline.Known := by
    rcases pushes with same | ⟨packet, push⟩
    · rw [same]
      exact h.known
    · exact PipelineState.next_known h.known push
  have processes : Processes e'.pipeline := by
    rcases pushes with same | ⟨packet, push⟩
    · rw [same]
      exact h.processes
    · exact processes_next h.processes push
  obtain ⟨c, hc, rfl⟩ := Option.map_eq_some_iff.mp hnext
  refine ⟨known, CaptureState.next_counted h.counted hc, processes, h.detector, h.inspected, h.tracker, h.tracked,
    h.alerts, h.calling, h.staged, h.tried, h.phased.joined, ?_, h.phased.uncalled, h.phased.returned⟩
  intro shut
  rw [open_ shut] at hc
  cases hc

theorem Wired.pipeline {a : PipelineStep} (hnext : e.pipelineStep a = some e') : e'.Wired cfg := by
  rw [pipelineStep] at hnext
  split at hnext
  · rename_i allowed
    obtain ⟨p, hp, rfl⟩ := Option.map_eq_some_iff.mp hnext
    obtain ⟨detector, inspected⟩ := detector_next hp
    obtain ⟨tracker, tracked⟩ := tracker_next hp
    have consumer : ∀ packet, a ≠ .push packet := by
      rintro packet rfl
      cases allowed
    refine ⟨PipelineState.next_known h.known hp, ?_, processes_next h.processes hp, ?_, ?_, ?_, ?_, ?_,
      calling_next h.calling allowed hp, h.staged, h.tried, ?_⟩
    · rcases session_next hp consumer with same | ⟨call, kind, called⟩
      · obtain ⟨captured, dropped⟩ := h.counted
        unfold captureView at captured dropped ⊢
        rw [← same] at captured dropped
        exact ⟨captured, dropped⟩
      · obtain ⟨pushed, refused⟩ := CaptureState.session_counters kind called
        obtain ⟨captured, dropped⟩ := h.counted
        unfold captureView at captured dropped ⊢
        rw [← pushed, ← refused] at captured
        rw [← refused] at dropped
        exact ⟨captured, dropped⟩
    · rw [ThreatDetector.inspectAll, runAll_append, ← ThreatDetector.inspectAll, ← h.detector]
      exact detector
    · rw [List.map_append, h.inspected]
      exact inspected.symm
    · rw [List.foldl_append, ← h.tracker]
      exact tracker
    · rw [List.filterMap_append, h.tracked]
      exact tracked.symm
    · rw [← List.append_assoc, h.alerts]
      exact firedSince_next hp
    · refine ⟨?_, h.phased.stopped, h.phased.uncalled, h.phased.returned⟩
      exact fun late => consumer_done hp (h.phased.joined late)
  · cases hnext

theorem Wired.deliver {a : DeliveryStep} (phase : (∃ stepDone, a = .write stepDone) ∨
    ((∀ alert, a ≠ .enqueue alert) ∧ e.main = .stoppingDelivery)) (hnext : e.deliver a = some e') : e'.Wired cfg := by
  obtain ⟨d, hd, rfl⟩ := Option.map_eq_some_iff.mp hnext
  have quiet : ∀ alert, a ≠ .enqueue alert := by
    rcases phase with ⟨stepDone, rfl⟩ | ⟨quiet, -⟩
    · exact nofun
    · exact quiet
  obtain ⟨attempts, tried⟩ := h.tried
  obtain ⟨attempts', -, tried'⟩ := tried.next hd
  refine ⟨h.known, h.counted, h.processes, h.detector, h.inspected, h.tracker, h.tracked, ?_, h.calling,
    h.staged.next (fun alert same => absurd same (quiet alert)) hd, ⟨attempts', tried'⟩, h.phased.joined,
    h.phased.stopped, ?_, ?_⟩
  · rw [DeliveryLayer.next_enqueued quiet hd]
    exact h.alerts
  · intro reaping
    rcases phase with ⟨stepDone, rfl⟩ | ⟨-, at_⟩
    · exact (DeliveryLayer.writerLoop_frame hd).2.trans (h.phased.uncalled reaping)
    · have here : reaps e.main = true := reaping
      rw [at_] at here
      cases here
  · intro late
    rcases phase with ⟨stepDone, rfl⟩ | ⟨-, at_⟩
    · exact (DeliveryLayer.writerLoop_frame hd).2.trans (h.phased.returned late)
    · have here : e.main = .summary := late
      rw [at_] at here
      cases here

theorem Wired.enqueue (hnext : e.enqueue = some e') : e'.Wired cfg := by
  rw [Engine.enqueue] at hnext
  split at hnext
  · rename_i alert rest full
    obtain ⟨d, hd, rfl⟩ := Option.map_eq_some_iff.mp hnext
    have counting : e.pipeline.consumer = .counting := h.calling (by rw [full]; exact List.cons_ne_nil _ _)
    have early : e.main = .joiningConsumer := by
      by_contra late
      rw [h.phased.joined late] at counting
      cases counting
    have uncalled := h.phased.uncalled (by rw [early]; rfl)
    obtain ⟨attempts, tried⟩ := h.tried
    obtain ⟨attempts', -, tried'⟩ := tried.next hd
    have staged := h.staged.next (fun _ _ => uncalled) hd
    have alerts := h.alerts
    rw [DeliveryLayer.enqueue_next hd] at tried' staged ⊢
    refine ⟨h.known, h.counted, h.processes, h.detector, h.inspected, h.tracker, h.tracked, ?_, fun _ => counting,
      staged, ⟨attempts', tried'⟩, h.phased.joined, h.phased.stopped, fun _ => uncalled, h.phased.returned⟩
    rw [full] at alerts
    exact (List.append_assoc ..).trans alerts
  · cases hnext

theorem Wired.evict (now : TimePoint) :
    { e with
      pipeline := { e.pipeline with tracker := e.pipeline.tracker.evictExpiredFlows now }
      flowSteps := e.flowSteps ++ [FlowTracker.Step.evict now] }.Wired cfg := by
  obtain ⟨kept, called, raised, holding, ended, tracked, inspected⟩ := h.known
  refine ⟨⟨kept, called, raised, holding, ended, tracked, inspected⟩, h.counted, h.processes, h.detector, h.inspected,
    ?_, ?_, h.alerts, h.calling, h.staged, h.tried, h.phased.joined, h.phased.stopped, h.phased.uncalled,
    h.phased.returned⟩
  · rw [List.foldl_concat, ← h.tracker]
    rfl
  · rw [List.filterMap_append, h.tracked]
    exact List.append_nil _

theorem Wired.moved {main : MainAt} (phased : { e with main }.Phased) : { e with main }.Wired cfg :=
  ⟨h.known, h.counted, h.processes, h.detector, h.inspected, h.tracker, h.tracked, h.alerts, h.calling, h.staged,
    h.tried, phased⟩

theorem Wired.mainStep (hnext : e.mainStep = some e') : e'.Wired cfg := by
  obtain ⟨joined, stopped, uncalled, returned⟩ := h.phased
  rw [Engine.mainStep] at hnext
  split at hnext
  · rename_i at_
    split at hnext
    · rename_i ended
      cases hnext
      exact h.moved ⟨fun _ => ended, nofun, fun _ => uncalled (by rw [at_]; rfl), nofun⟩
    · cases hnext
  · rename_i at_
    have ended := joined (by rw [at_]; nofun)
    split at hnext
    · rename_i idle
      cases hnext
      exact h.moved ⟨fun _ => ended, fun _ => idle, fun _ => uncalled (by rw [at_]; rfl), nofun⟩
    · cases hnext
  · rename_i at_
    have ended := joined (by rw [at_]; nofun)
    have idle := stopped (by rw [at_]; rfl)
    cases hnext
    exact h.moved ⟨fun _ => ended, fun _ => idle, nofun, nofun⟩
  · rename_i at_
    split at hnext
    · exact h.deliver (a := .stop) (.inr ⟨fun _ => nofun, at_⟩) hnext
    · exact h.deliver (a := .join) (.inr ⟨fun _ => nofun, at_⟩) hnext
    · exact h.deliver (a := .close) (.inr ⟨fun _ => nofun, at_⟩) hnext
    · rename_i closed
      cases hnext
      have ended := joined (by rw [at_]; nofun)
      have idle := stopped (by rw [at_]; rfl)
      exact h.moved ⟨fun _ => ended, fun _ => idle, nofun, fun _ => closed⟩
  · cases hnext

theorem Wired.next {a : EngineStep} (hnext : e.next a = some e') : e'.Wired cfg := by
  cases a with
  | arrive frame =>
      rw [Engine.next] at hnext
      split at hnext
      · rename_i capturing
        refine h.capture (a := .arrive frame) ⟨nofun, nofun⟩ ?_ hnext
        intro shut
        rw [capturing] at shut
        cases shut
      · cases hnext
  | callback c =>
      refine h.capture (a := .callback c) ⟨nofun, nofun⟩ ?_ hnext
      intro shut
      rw [CaptureState.next, if_neg]
      rw [captureView, h.phased.stopped shut]
      exact List.not_mem_nil
  | pipeline a => exact h.pipeline hnext
  | enqueue => exact h.enqueue hnext
  | evict now =>
      rw [Engine.next] at hnext
      split at hnext
      · cases hnext
        exact h.evict now
      · cases hnext
  | write stepDone => exact h.deliver (.inl ⟨stepDone, rfl⟩) hnext
  | main => exact h.mainStep hnext

end Steps

theorem reachable_wired {cfg : Config} {e : Engine} (reach : (machine cfg).Reachable e) : e.Wired cfg :=
  Machine.Reachable.invariant _ (Wired cfg) reach (fresh_wired cfg) fun _ _ _ h hnext => h.next hnext

/-! ## The threads against one thread -/

/-- The packets inspected and those tracked are the first of the accepted ones, in their order. -/
theorem Wired.accepted {cfg : Config} {e : Engine} (h : e.Wired cfg) :
    e.inspections.map Timed.info <+: analysed (acceptedIn e.pipeline.session.log) ∧
      e.flowSteps.filterMap updated <+: analysed (acceptedIn e.pipeline.session.log) := by
  have popped : analysed (poppedIn e.pipeline.session.log) <+: analysed (acceptedIn e.pipeline.session.log) := by
    rw [← h.known.kept.fifo, analysed_append]
    exact List.prefix_append _ _
  refine ⟨List.IsPrefix.trans ?_ popped, List.IsPrefix.trans ?_ popped⟩
  · rw [h.inspected, h.known.inspected]
    exact List.prefix_append _ _
  · rw [h.tracked, h.known.tracked]
    exact List.prefix_append _ _

/-- Once `main` is past the joins, the packets popped have all been analysed. -/
theorem Wired.analysed_all {cfg : Config} {e : Engine} (h : e.Wired cfg) (late : e.main ≠ .joiningConsumer) :
    e.inspections.map Timed.info = analysed (poppedIn e.pipeline.session.log) ∧
      e.flowSteps.filterMap updated = analysed (poppedIn e.pipeline.session.log) := by
  have ended := h.phased.joined late
  refine ⟨?_, ?_⟩
  · rw [h.inspected, h.known.inspected, ended]
    exact (List.append_nil _).symm
  · rw [h.tracked, h.known.tracked, ended]
    exact (List.append_nil _).symm

theorem Wired.outbox_empty {cfg : Config} {e : Engine} (h : e.Wired cfg) (late : e.main ≠ .joiningConsumer) :
    e.outbox = [] := by
  by_contra full
  have counting := h.calling full
  rw [h.phased.joined late] at counting
  cases counting

/-- The alerts a sequential detector fires for the packets inspected so far. -/
def alertsOf (cfg : Config) (e : Engine) : List ThreatAlert :=
  (ThreatDetector.inspectAll cfg e.inspections).delivered.map Fired.alert

/-- At the summary every alert has been tried. -/
theorem Wired.tried_all {cfg : Config} {e : Engine} (h : e.Wired cfg) (finished : e.main = .summary)
    {attempts : List DeliveryLayer.Attempt} (tried : e.delivery.Attempted attempts) :
    attempts.map Prod.fst = e.alertsOf cfg := by
  have late : e.main ≠ .joiningConsumer := by
    rw [finished]
    decide
  rw [h.staged.tried tried (h.phased.returned finished), alertsOf, ← h.detector, ← h.alerts, h.outbox_empty late,
    List.append_nil]

/-- A DNS query of 10.0.0.1 for a name with a label of 60 bytes. -/
def tunnelFrame : PcapFrame where
  tvSec := 0
  tvUsec := 0
  len := 120
  bytes := List.replicate 12 2 ++ [8, 0] ++
    ([0x45, 0, 0, 106, 0, 0, 0, 0, 64, 17, 0, 0, 10, 0, 0, 1, 10, 0, 0, 2] ++ [16, 0, 0, 53, 0, 86, 0, 0]) ++
    ([0, 1, 1, 0, 0, 1, 0, 0, 0, 0, 0, 0] ++ 60 :: List.replicate 60 97 ++ [0, 0, 1, 0, 1])

/-- The signal arrives while the alert of the packet is being enqueued. -/
def tunnelRun : List EngineStep :=
  [.arrive tunnelFrame, .callback (.count tunnelFrame.packet), .callback (.push tunnelFrame.packet), .pipeline .pop,
    .pipeline .dissect, .pipeline (.track 0 0), .write true, .pipeline (.inspect 0), .pipeline .raiseFlag, .evict 0,
    .enqueue, .pipeline .count, .write true, .pipeline .shutdown, .pipeline .test, .main, .main, .main, .main,
    .write true, .write true, .write true, .write true, .main, .main, .main]

end Engine

end Nte
