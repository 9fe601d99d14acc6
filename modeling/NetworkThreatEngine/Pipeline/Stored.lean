import NetworkThreatEngine.Delivery.Rows
import NetworkThreatEngine.Lib.Windows
import NetworkThreatEngine.Pipeline.Engine

/-!
# The stored alerts

From the rows of the database back to the packets on the wire, through all threads: a row was caused by a
packet the buffer accepted, and a source cannot fill the database.
-/
namespace Nte
open Transition StateRules

namespace Engine
variable {cfg : Config} {e : Engine}

/-- The rows with the times at which their alerts were fired. -/
structure Rows (cfg : Config) (e : Engine) (rows : List Fired) : Prop where
  stored : rows.map Fired.alert = e.delivery.persisted
  fired : rows.Sublist (ThreatDetector.inspectAll cfg e.inspections).delivered

theorem Wired.rows (h : e.Wired cfg) : ∃ rows, e.Rows cfg rows := by
  obtain ⟨attempts, tried⟩ := h.tried
  have alerts : e.delivery.persisted.Sublist
      ((ThreatDetector.inspectAll cfg e.inspections).delivered.map Fired.alert) := by
    rw [← h.detector, ← h.alerts]
    exact tried.sublist.trans (List.sublist_append_left _ _)
  obtain ⟨rows, fired, stored⟩ := List.sublist_map_iff.mp alerts
  exact ⟨rows, stored.symm, fired⟩

/-- A packet that was inspected had been accepted by the ring buffer. -/
theorem Wired.captured (h : e.Wired cfg) {p : Timed} (mem : p ∈ e.inspections) :
    ∃ packet ∈ acceptedIn e.pipeline.session.log, dissect packet = p.info := by
  have analysed := h.accepted.1.subset (List.mem_map_of_mem mem)
  obtain ⟨info, -⟩ := List.mem_filter.mp analysed
  exact List.mem_map.mp info

/-- Whatever the threads do: each row names the endpoints of a packet that was captured, and its figures and severity
are justified by that packet and the thresholds. -/
theorem stored_alerts_backed (cfg : Config) (e : Engine) (reach : (machine cfg).Reachable e) (alert : ThreatAlert)
    (mem : alert ∈ e.delivery.persisted) :
    ∃ packet ∈ acceptedIn e.pipeline.session.log, ThreatDetector.About cfg (dissect packet) alert := by
  have h := reachable_wired reach
  obtain ⟨rows, all⟩ := h.rows
  rw [← all.stored] at mem
  obtain ⟨f, row, rfl⟩ := List.mem_map.mp mem
  obtain ⟨p, inspected, -, about⟩ := ThreatDetector.delivered_about (all.fired.subset row)
  obtain ⟨packet, accepted, info⟩ := h.captured inspected
  exact ⟨packet, accepted, info ▸ about⟩

theorem stored_alerts_backed_tunnel :
    ∃ e, (machine {}).run (machine {}).start tunnelRun = some e ∧ ∃ alert ∈ e.delivery.persisted,
      ∃ packet ∈ acceptedIn e.pipeline.session.log, ThreatDetector.About {} (dissect packet) alert := by
  have ends : ((machine {}).run (machine {}).start tunnelRun).map (fun e => e.delivery.persisted.length) = some 1 := by
    decide +kernel
  obtain ⟨e, hrun, stored⟩ := Option.map_eq_some_iff.mp ends
  obtain ⟨alert, one⟩ := List.length_eq_one_iff.mp stored
  have mem : alert ∈ e.delivery.persisted := by
    rw [one]
    exact List.mem_singleton_self alert
  exact ⟨e, hrun, alert, mem, stored_alerts_backed {} e ⟨tunnelRun, hrun⟩ alert mem⟩

/-! ## What the rows say -/

/-- Each row tells the severity, the endpoints and the text of its alert, except that a name with a zero byte ends there;
and rows whose texts are whole are equal for equal alerts alone. -/
theorem rows_read_back (cfg : Config) (e : Engine) (reach : (machine cfg).Reachable e) :
    (∀ alert ∈ e.delivery.persisted, ∃ packet ∈ acceptedIn e.pipeline.session.log, ReadBack (dissect packet) alert) ∧
      ∀ a ∈ e.delivery.persisted, ∀ b ∈ e.delivery.persisted, a.row.description = a.evidenceSummary →
        b.row.description = b.evidenceSummary → a.row = b.row → a = b := by
  have h := reachable_wired reach
  obtain ⟨rows, all⟩ := h.rows
  have read : ∀ alert ∈ e.delivery.persisted, ∃ packet ∈ acceptedIn e.pipeline.session.log,
      ReadBack (dissect packet) alert ∧ alert.srcIp = (dissect packet).srcIp ∧ alert.dstIp = (dissect packet).dstIp := by
    intro alert mem
    rw [← all.stored] at mem
    obtain ⟨f, row, rfl⟩ := List.mem_map.mp mem
    obtain ⟨before, p, later, split, verdict⟩ := ThreatDetector.mem_delivered (all.fired.subset row)
    obtain ⟨-, -, detected, -⟩ := ThreatDetector.mem_verdicts verdict
    obtain ⟨-, about⟩ := ThreatDetector.verdicts_about verdict
    obtain ⟨packet, accepted, info⟩ := h.captured (p := p) (by rw [split]; simp)
    have clean := dissect_clean packet
    rw [info] at clean
    refine ⟨packet, accepted, ?_⟩
    rw [info]
    exact ⟨readBack clean detected about, about.endpoints.1, about.endpoints.2.1⟩
  refine ⟨?_, ?_⟩
  · intro alert mem
    obtain ⟨packet, accepted, back, -⟩ := read alert mem
    exact ⟨packet, accepted, back⟩
  · intro a ha b hb whole whole' same
    obtain ⟨packet, -, back, endpoints⟩ := read a ha
    obtain ⟨packet', -, back', endpoints'⟩ := read b hb
    exact back.row_injective back' endpoints endpoints' whole whole' same

theorem rows_read_back_tunnel :
    ∃ e, (machine {}).run (machine {}).start tunnelRun = some e ∧ e.delivery.persisted.length = 1 ∧
      (∀ alert ∈ e.delivery.persisted, ∃ packet ∈ acceptedIn e.pipeline.session.log, ReadBack (dissect packet) alert) ∧
        ∀ a ∈ e.delivery.persisted, ∀ b ∈ e.delivery.persisted, a.row.description = a.evidenceSummary →
          b.row.description = b.evidenceSummary → a.row = b.row → a = b := by
  have ends : ((machine {}).run (machine {}).start tunnelRun).map (fun e => e.delivery.persisted.length) = some 1 := by
    decide +kernel
  obtain ⟨e, hrun, stored⟩ := Option.map_eq_some_iff.mp ends
  exact ⟨e, hrun, stored, rows_read_back {} e ⟨tunnelRun, hrun⟩⟩

/-! ## How many there can be -/

/-- The rows of a source and a type that were fired in the `sec` seconds from `start` on. -/
def rowsWithin (rows : List Fired) (src : Octets) (type : AttackType) (start : TimePoint) (sec : ℚ) : List Fired :=
  rows.filter fun f => f.alert.srcIp = src ∧ f.alert.attackType = type ∧ start ≤ f.at_ ∧ secondsBetween f.at_ start ≤ sec

/-- If the clock does not go back, a source gets at most one row of a type for each suppression interval, and one. -/
theorem stored_alerts_bounded (cfg : Config) (e : Engine) (reach : (machine cfg).Reachable e)
    (steady : e.inspections.Pairwise fun p q => p.now ≤ q.now) (positive : 0 < cfg.delivery.alertSuppressionSec) :
    ∃ rows, e.Rows cfg rows ∧ ∀ src type start (sec : ℚ), 0 ≤ sec →
      ((rowsWithin rows src type start sec).length : ℚ) ≤ sec / cfg.delivery.alertSuppressionSec + 1 := by
  obtain ⟨rows, all⟩ := (reachable_wired reach).rows
  refine ⟨rows, all, ?_⟩
  intro src type start sec wide
  have spaced := ThreatDetector.inspectAll_spaced cfg steady
  rw [ThreatDetector.Spaced, ThreatDetector.inspectAll_config] at spaced
  have own := (spaced.sublist (all.fired)).filter fun f : Fired =>
    f.alert.srcIp = src ∧ f.alert.attackType = type ∧ start ≤ f.at_ ∧ secondsBetween f.at_ start ≤ sec
  have chosen {f : Fired} (mem : f ∈ rowsWithin rows src type start sec) :
      f.alert.srcIp = src ∧ f.alert.attackType = type ∧ start ≤ f.at_ ∧ secondsBetween f.at_ start ≤ sec :=
    of_decide_eq_true (List.mem_filter.mp mem).2
  -- the times at which they were fired, in seconds from `start` on
  have apart : ((rowsWithin rows src type start sec).map fun f => secondsBetween f.at_ start).Pairwise
      (· + cfg.delivery.alertSuppressionSec ≤ ·) := by
    rw [List.pairwise_map]
    refine own.imp_of_mem ?_
    intro f g hf hg distance
    obtain ⟨source, kind, -⟩ := chosen hf
    obtain ⟨source', kind', -⟩ := chosen hg
    have gap := distance (source.trans source'.symm) (kind.trans kind'.symm)
    unfold secondsBetween at gap ⊢
    push_cast at gap ⊢
    linarith
  have few := Windows.length_le_of_spaced positive wide apart (by
    intro t mem
    obtain ⟨f, row, rfl⟩ := List.mem_map.mp mem
    obtain ⟨-, -, late, early⟩ := chosen row
    refine ⟨?_, early⟩
    rw [← secondsBetween_self start]
    exact secondsBetween_mono_later late)
  rwa [List.length_map, sub_zero] at few

theorem stored_alerts_bounded_tunnel :
    ∃ e, (machine {}).run (machine {}).start tunnelRun = some e ∧ e.delivery.persisted.length = 1 ∧
      ∃ rows, e.Rows {} rows ∧ ∀ src type start (sec : ℚ), 0 ≤ sec →
        ((rowsWithin rows src type start sec).length : ℚ) ≤ sec / 5 + 1 := by
  have ends : ((machine {}).run (machine {}).start tunnelRun).map
      (fun e => (e.delivery.persisted.length, e.inspections.length)) = some (1, 1) := by decide +kernel
  obtain ⟨e, hrun, he⟩ := Option.map_eq_some_iff.mp ends
  obtain ⟨stored, inspections⟩ := Prod.mk.inj he
  obtain ⟨p, single⟩ := List.length_eq_one_iff.mp inspections
  have steady : e.inspections.Pairwise fun p q => p.now ≤ q.now := by
    rw [single]
    exact List.pairwise_singleton _ _
  exact ⟨e, hrun, stored, stored_alerts_bounded {} e ⟨tunnelRun, hrun⟩ steady (by decide +kernel)⟩

/-! ## What becomes of a detection -/

/-- Every packet popped has been judged, and what a rule detected has been given to the database, or an alert of the same
source and type had been given to it too short a time before. -/
structure Reported (cfg : Config) (e : Engine) : Prop where
  judged : e.inspections.map Timed.info = PipelineState.analysed (poppedIn e.pipeline.session.log)
  tried : ∃ attempts : List DeliveryLayer.Attempt,
    attempts.map Prod.fst = e.alertsOf cfg ∧ e.delivery.persisted = DeliveryLayer.succeeded attempts
  answered : ∀ before p later, e.inspections = before ++ p :: later → Measurement.inspected p.info = true →
    ∀ alert ∈ ThreatDetector.detections p.info p.now (.inspectAll cfg before),
      ⟨alert, p.now⟩ ∈ (ThreatDetector.inspectAll cfg e.inspections).delivered ∨
        ∃ f ∈ (ThreatDetector.inspectAll cfg before).delivered,
          f ∈ (ThreatDetector.inspectAll cfg e.inspections).delivered ∧ f.alert.srcIp = alert.srcIp ∧
            f.alert.attackType = alert.attackType ∧ secondsBetween p.now f.at_ < cfg.delivery.alertSuppressionSec

theorem delivered_append (cfg : Config) (before later : List Timed) :
    (ThreatDetector.inspectAll cfg before).delivered <+: (ThreatDetector.inspectAll cfg (before ++ later)).delivered := by
  rw [ThreatDetector.inspectAll, ThreatDetector.inspectAll, runAll_append]
  exact delivered_prefix _ later

theorem Wired.reported (h : e.Wired cfg) (finished : e.main = .summary) : e.Reported cfg := by
  have late : e.main ≠ .joiningConsumer := by
    rw [finished]
    decide
  obtain ⟨attempts, tried⟩ := h.tried
  refine ⟨(h.analysed_all late).1, ⟨attempts, h.tried_all finished tried, tried.persisted⟩, ?_⟩
  intro before p later split looked alert detected
  rw [split]
  cases quiet : (ThreatDetector.inspectAll cfg before).isSuppressed alert.srcIp alert.attackType p.now with
  | true =>
      obtain ⟨f, mem, source, kind, recent⟩ := (ThreatDetector.inspectAll_recorded cfg before).exists_recent quiet
      rw [ThreatDetector.inspectAll_config] at recent
      exact .inr ⟨f, mem, (delivered_append cfg before (p :: later)).subset mem, source, kind, recent⟩
  | false =>
      have verdict : ⟨alert, p.now⟩ ∈ ThreatDetector.verdicts p.info p.now (.inspectAll cfg before) := by
        rw [ThreatDetector.verdicts, if_pos looked]
        exact List.mem_map_of_mem (List.mem_filter.mpr ⟨detected, by simp [quiet]⟩)
      have grows := delivered_append cfg (before ++ [p]) later
      rw [List.append_assoc, List.singleton_append, ThreatDetector.delivered_snoc] at grows
      exact .inl (grows.subset (List.mem_append_right _ verdict))

end Engine

end Nte
