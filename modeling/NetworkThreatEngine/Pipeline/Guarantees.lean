import NetworkThreatEngine.Detect.Attacks
import NetworkThreatEngine.Detect.WideScan
import NetworkThreatEngine.Pipeline.Stored

/-!
# What does not go unnoticed

Attacks that are wide or long enough reach the database, whatever comes before and between their packets and however the
threads interleave, if the inserts succeed.
-/
namespace Nte
open Transition StateRules

namespace Engine
variable {cfg : Config} {e e' : Engine}

/-! ## Sessions whose inserts succeed -/

theorem Wired.consistent_next (h : e.Wired cfg) (consistent : e.delivery.Consistent) {a : EngineStep}
    (ok : a ≠ .write false) (hnext : e.next a = some e') : e'.delivery.Consistent := by
  have deliver {b : DeliveryStep} (orderly : e.delivery.Orderly b) (hnext : e.deliver b = some e') :
      e'.delivery.Consistent := by
    obtain ⟨d, hd, rfl⟩ := Option.map_eq_some_iff.mp hnext
    exact consistent.next orderly hd
  have capture {b : CaptureStep} (hnext : e.captureStep b = some e') : e'.delivery.Consistent := by
    obtain ⟨c, -, rfl⟩ := Option.map_eq_some_iff.mp hnext
    exact consistent
  cases a with
  | arrive frame =>
      rw [Engine.next] at hnext
      split at hnext
      · exact capture hnext
      · cases hnext
  | callback c => exact capture hnext
  | pipeline a =>
      rw [Engine.next, pipelineStep] at hnext
      split at hnext
      · obtain ⟨p, -, rfl⟩ := Option.map_eq_some_iff.mp hnext
        exact consistent
      · cases hnext
  | enqueue =>
      rw [Engine.next, Engine.enqueue] at hnext
      split at hnext
      · rename_i alert rest full
        have early : e.main = .joiningConsumer := by
          by_contra late
          rw [h.outbox_empty late] at full
          cases full
        obtain ⟨d, hd, rfl⟩ := Option.map_eq_some_iff.mp hnext
        exact consistent.next (a := .enqueue alert) (h.phased.uncalled (by rw [early]; rfl)) hd
      · cases hnext
  | evict now =>
      rw [Engine.next] at hnext
      split at hnext <;> cases hnext
      exact consistent
  | write stepDone =>
      cases stepDone with
      | true => exact deliver (b := .write true) rfl hnext
      | false => exact absurd rfl ok
  | main =>
      rw [Engine.next, Engine.mainStep] at hnext
      split at hnext
      · split at hnext <;> cases hnext
        exact consistent
      · split at hnext <;> cases hnext
        exact consistent
      · cases hnext
        exact consistent
      · split at hnext
        · exact deliver (b := .stop) trivial hnext
        · exact deliver (b := .join) trivial hnext
        · exact deliver (b := .close) trivial hnext
        · cases hnext
          exact consistent
      · cases hnext

/-- A session that has come to its summary, none of its inserts failed. -/
structure Completed (cfg : Config) (steps : List EngineStep) (e : Engine) : Prop where
  ran : (machine cfg).run (machine cfg).start steps = some e
  inserts : .write false ∉ steps
  finished : e.main = .summary

theorem Completed.wired {steps : List EngineStep} (h : Completed cfg steps e) : e.Wired cfg := reachable_wired ⟨steps, h.ran⟩

/-- Its rows are the alerts fired. -/
theorem Completed.persisted {steps : List EngineStep} (h : Completed cfg steps e) : e.delivery.persisted = e.alertsOf cfg := by
  have consistent : e.Wired cfg ∧ e.delivery.Consistent := by
    apply (machine cfg).guarded_run (fun _ a => a ≠ .write false) (fun e => e.Wired cfg ∧ e.delivery.Consistent)
      (fun e a e' known ok hnext => ⟨known.1.next hnext, known.1.consistent_next known.2 ok hnext⟩)
      ⟨fresh_wired cfg, DeliveryLayer.consistent_start⟩ ((machine cfg).guarded_of_forall ?_ _) h.ran
    exact fun a mem failed => h.inserts (failed ▸ mem)
  obtain ⟨attempts, tried⟩ := h.wired.tried
  have ended := h.wired.staged.ended (.inr (h.wired.phased.returned h.finished))
  have conserved := consistent.2.conserved
  rw [DeliveryLayer.inFlight, ended, (h.wired.staged.left ended).2, List.append_nil, List.append_nil] at conserved
  rw [conserved, ← h.wired.staged.tried tried (h.wired.phased.returned h.finished), h.wired.tried_all h.finished tried]

/-- There is a row about the source that was fired at one of the packets, or too short a time before one of them. -/
def StoredFor (cfg : Config) (e : Engine) (src : Octets) (type : AttackType) (packets : List Timed) : Prop :=
  ∃ f ∈ (ThreatDetector.inspectAll cfg e.inspections).delivered, f.alert ∈ e.delivery.persisted ∧ f.alert.srcIp = src ∧
    f.alert.attackType = type ∧
      ∃ p ∈ packets, f.at_ = p.now ∨ secondsBetween p.now f.at_ < cfg.delivery.alertSuppressionSec

/-- What is detected among some packets of the session is stored. -/
theorem Completed.storedFor {steps : List EngineStep} (h : Completed cfg steps e) {before packets later : List Timed}
    (split : e.inspections = before ++ packets ++ later) {src : Octets} {type : AttackType}
    (detected : ∃ front p back, packets = front ++ p :: back ∧
      (ThreatDetector.inspectAll cfg (before ++ front)).DetectedAt p src type) : e.StoredFor cfg src type packets := by
  obtain ⟨front, p, back, rfl, looked, alert, detected, rfl, rfl⟩ := detected
  have stored {f : Fired} (mem : f ∈ (ThreatDetector.inspectAll cfg e.inspections).delivered) :
      f.alert ∈ e.delivery.persisted := by
    rw [h.persisted]
    exact List.mem_map_of_mem mem
  have position : e.inspections = (before ++ front) ++ p :: (back ++ later) := by
    rw [split]
    simp
  have here : p ∈ front ++ p :: back := by simp
  rcases (h.wired.reported h.finished).answered _ p _ position looked alert detected with
    fired | ⟨f, -, fired, source, kind, recent⟩
  · exact ⟨_, fired, stored fired, rfl, rfl, p, here, .inl rfl⟩
  · exact ⟨f, fired, stored fired, source, kind, p, here, .inr recent⟩

/-! ## Attacks -/

/-- A scan that is wide enough cannot be hidden by what the source sends before, nor by the threads. -/
theorem wide_scan_stored (cfg : Config) (steps : List EngineStep) (e : Engine) (session : Completed cfg steps e)
    (src : Octets) (before scan later : List Timed) (split : e.inspections = before ++ scan ++ later)
    (wide : ThreatDetector.WideScan cfg.portScan src before scan) : e.StoredFor cfg src .PORT_SCAN scan :=
  session.storedFor split wide.detected

/-- A SYN of 10.0.0.1 to a port. -/
def synFrame (port : UInt8) : PcapFrame where
  tvSec := 0
  tvUsec := 0
  len := 54
  bytes := List.replicate 12 2 ++ [8, 0] ++
    [0x45, 0, 0, 40, 0, 0, 0, 0, 64, 6, 0, 0, 10, 0, 0, 1, 10, 0, 0, 2] ++
    [16, 0, 0, port, 0, 0, 0, 0, 0, 0, 0, 0, 0x50, 2, 0, 0, 0, 0, 0, 0]

/-- A frame is captured and analysed, and other threads come in between. -/
def analysis (frame : PcapFrame) (now : TimePoint) (others : List EngineStep) : List EngineStep :=
  [.arrive frame, .callback (.count frame.packet), .callback (.push frame.packet), .pipeline .pop, .pipeline .dissect,
    .pipeline (.track now 0), .pipeline (.inspect now)] ++ others ++ [.pipeline .count, .pipeline .test]

/-- SYNs one second after the other, the second of which raises an alert. -/
def synRun (first second third : UInt8) : List EngineStep :=
  analysis (synFrame first) 0 [] ++ analysis (synFrame second) 1000000000 [.enqueue] ++
    analysis (synFrame third) 2000000000 [.pipeline .raiseFlag, .pipeline .shutdown] ++ [.main, .main, .main, .main] ++
      List.replicate 3 (.write true) ++ [.main, .main, .main]

def syn (port : UInt8) (now : TimePoint) : Timed := ⟨dissect (synFrame port).packet, now⟩

def syns (first second third : UInt8) : List Timed := [syn first 0, syn second 1000000000, syn third 2000000000]

def twoPorts : Config := { portScan := { distinctPortThreshold := 2 } }

theorem wide_scan_stored_syns :
    ∃ e, Completed twoPorts (synRun 1 2 3) e ∧
      e.StoredFor twoPorts (ascii "10.0.0.1") .PORT_SCAN (syns 1 2 3) := by
  have ends : ((machine twoPorts).run (machine twoPorts).start (synRun 1 2 3)).map
      (fun e => (e.main, e.inspections)) = some (.summary, syns 1 2 3) := by decide +kernel
  obtain ⟨e, hrun, he⟩ := Option.map_eq_some_iff.mp ends
  obtain ⟨finished, inspections⟩ := Prod.mk.inj he
  have session : Completed _ (synRun 1 2 3) e := ⟨hrun, by decide +kernel, finished⟩
  refine ⟨e, session, wide_scan_stored _ _ e session (ascii "10.0.0.1") [] (syns 1 2 3) [] (by simp [inspections]) ?_⟩
  constructor <;> decide +kernel

end Engine

end Nte
