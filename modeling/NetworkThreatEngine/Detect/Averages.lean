import NetworkThreatEngine.Detect.Baseline
import NetworkThreatEngine.Detect.Conservation
import NetworkThreatEngine.Detect.Verdicts
import NetworkThreatEngine.Lib.Windows

/-!
# The figures of the alerts

The rate an alert reports is an average over traffic that took place: the last packets of its source that
concern the rule, over the time since the first of them or the one before. A port scan reports the ports of
such packets, a long name its own length.
-/
namespace Nte
open KeyedStore StateRules Windows

/-- A window of one source's packets, as the packet `p` finds it: opened by one of them, or at the epoch. -/
abbrev Found (weight : Timed → Nat) (own : List Timed) (p : Timed) (start : TimePoint) (amount : Nat) : Prop :=
  Open Timed.now weight (some 0) own p start amount

/-- The TXT rule on the queries of one source that it counts. -/
def txtRule : Engine Octets Timed RateWindow (Option ℚ) where
  key p := p.info.srcIp
  create _ := ⟨0, 0⟩
  work win p := win.hit p.now

def one (_ : Timed) : Nat := 1

section Rules
variable (own : List Timed) (p : Timed)

/-- A stale profile opens its window at the packet that finds it stale. -/
theorem Found.renewed {profile : PerIpEwmaProfile} {own : List Timed} {p : Timed}
    (found : Found one own p profile.windowStart profile.windowPackets) (cfg : EWMAConfig) :
    Found one own p (profile.resetStale cfg p.now).windowStart (profile.resetStale cfg p.now).windowPackets := by
  unfold PerIpEwmaProfile.resetStale
  split
  · exact ⟨own, [], (List.append_nil _).symm, rfl, .inl rfl⟩
  · exact found

theorem syn_found (cfg : SynFloodConfig) :
    Found PerIpSynProfile.synWeight own p (((synRule cfg).own own).getD (.create p.now)).windowStart
      (((synRule cfg).own own).getD (.create p.now)).synOnlyCount := by
  apply (synRule cfg).own_found
    (fun own p profile => Found PerIpSynProfile.synWeight own p profile.windowStart profile.synOnlyCount)
  · intro p
    exact Open.create
  · intro own p profile found q
    change Found _ (own ++ [p]) q (profile.inspect cfg p.synPacket.tcpFlags p.synPacket.now).2.windowStart
      (profile.inspect cfg p.synPacket.tcpFlags p.synPacket.now).2.synOnlyCount
    by_cases young : profile.ageAt p.synPacket < cfg.windowSec
    · rw [PerIpSynProfile.inspect_young young]
      exact found.count q
    · rw [PerIpSynProfile.inspect_old young]
      exact Open.restart own p q

theorem RateWindow.hit_found {win : RateWindow} {own : List Timed} {p : Timed}
    (found : Found one own p win.windowStart win.count) (q : Timed) :
    Found one (own ++ [p]) q (win.hit p.now).2.windowStart (win.hit p.now).2.count := by
  unfold RateWindow.hit
  dsimp only
  split
  · exact Open.restart_counting own p q
  · exact found.count q

theorem hit_found : Found one own p ((hitRule.own own).getD ⟨p.now, 0⟩).windowStart
    ((hitRule.own own).getD ⟨p.now, 0⟩).count := by
  apply hitRule.own_found (fun own p win => Found one own p win.windowStart win.count)
  · intro p
    exact Open.create
  · intro own p win found q
    exact RateWindow.hit_found found q

theorem txt_found : Found one own p ((txtRule.own own).getD ⟨0, 0⟩).windowStart
    ((txtRule.own own).getD ⟨0, 0⟩).count := by
  apply txtRule.own_found (fun own p win => Found one own p win.windowStart win.count)
  · intro p
    exact Open.atOrigin rfl
  · intro own p win found q
    exact RateWindow.hit_found found q

theorem exfil_found : Found (·.info.l7PayloadLength) own p ((exfilRule.own own).getD ⟨0, 0⟩).windowStart
    ((exfilRule.own own).getD ⟨0, 0⟩).count := by
  apply exfilRule.own_found (fun own p win => Found (·.info.l7PayloadLength) own p win.windowStart win.count)
  · intro p
    exact Open.atOrigin rfl
  · intro own p win found q
    change Found _ (own ++ [p]) q (win.add p.info.l7PayloadLength p.now).2.windowStart
      (win.add p.info.l7PayloadLength p.now).2.count
    unfold RateWindow.add
    dsimp only
    split
    · exact found.count q
    · exact Open.restart own p q

end Rules

/-! ## The packets a rule has seen -/

namespace Timed

def looksFrom (src : Octets) (p : Timed) : Bool := Measurement.inspected p.info && p.comesFrom src

/-- A TXT query of the source. -/
def asksTxt (src : Octets) (p : Timed) : Bool := Measurement.inspected p.info && Measurement.txt p.info && p.comesFrom src

end Timed

namespace Measurement
variable (cfg : Config) (info : PacketInfo) (now : TimePoint) (m : Measurement) (suppressed : Bool)

theorem observe_dnsTxtState (looked : inspected info = true) :
    (m.observe cfg info now suppressed).dnsTxtState = (m.dns cfg info now suppressed).dnsTxtState := by
  rw [observe, if_pos looked, exfil_eq, bruteForce_eq, scan_eq, syn_eq]
  unfold dns
  split <;> rfl

end Measurement

namespace ThreatDetector
variable (cfg : Config) (packets : List Timed) (src : Octets)

theorem ewma_after (d : ThreatDetector) (p : Timed) : (after (inspect p.info p.now) d).ewma.lookup src =
    if p.looksFrom src then
      some (((d.ewma.lookup src).getD (.create p.now)).update d.config.ewma p.info.ipTotalLength.toNat p.now).2
    else d.ewma.lookup src := by
  have entry := entry_after d p src (·.ewma) true (fun src =>
    (((d.ewma.lookup src).getD (.create p.now)).update d.config.ewma p.info.ipTotalLength.toNat p.now).2) (by
      intro looked
      rw [inspect_measured, Measurement.observe_ewma _ _ _ _ looked]
      rfl)
  rw [Bool.and_true] at entry
  exact entry

theorem dnsTxtState_entry (d : ThreatDetector) (p : Timed) :
    (after (inspect p.info p.now) d).dnsTxtState.lookup src =
      if (Measurement.inspected p.info &&
          Measurement.countsTxt d.config p.info (d.isSuppressed p.info.srcIp .DNS_TUNNELING p.now) &&
            p.comesFrom src) = true then
        some (((d.dnsTxtState.lookup src).getD ⟨0, 0⟩).hit p.now).2
      else d.dnsTxtState.lookup src :=
  entry_after d p src (·.dnsTxtState) _ (fun src => (((d.dnsTxtState.lookup src).getD ⟨0, 0⟩).hit p.now).2) (by
    intro looked
    rw [inspect_measured, Measurement.observe_dnsTxtState _ _ _ _ _ looked, Measurement.dns]
    split <;> rfl)

theorem dnsTxtState_after (d : ThreatDetector) (p : Timed) :
    (after (inspect p.info p.now) d).dnsTxtState.lookup src = d.dnsTxtState.lookup src ∨
      p.asksTxt src = true ∧ (after (inspect p.info p.now) d).dnsTxtState.lookup src =
        some (((d.dnsTxtState.lookup src).getD ⟨0, 0⟩).hit p.now).2 := by
  have entry := dnsTxtState_entry src d p
  rw [Measurement.countsTxt] at entry
  by_cases counted : (Measurement.inspected p.info && (Measurement.txt p.info &&
      (!Measurement.longTxt d.config p.info || d.isSuppressed p.info.srcIp .DNS_TUNNELING p.now)) &&
        p.comesFrom src) = true
  · rw [if_pos counted] at entry
    refine .inr ⟨?_, entry⟩
    simp only [Bool.and_eq_true] at counted
    rw [Timed.asksTxt, counted.1.1, counted.1.2.1, counted.2]
    rfl
  · rw [if_neg counted] at entry
    exact .inl entry

/-- The window of TXT queries is what the rule makes of those it counted. -/
theorem dnsTxtState_own : ∃ own, own.Sublist (packets.filter (·.asksTxt src)) ∧
    (inspectAll cfg packets).dnsTxtState.lookup src = txtRule.own own := by
  induction packets using List.reverseRecOn with
  | nil => exact ⟨[], List.nil_sublist _, rfl⟩
  | append_singleton packets p ih =>
      obtain ⟨own, asked, seen⟩ := ih
      rw [inspectAll_snoc, List.filter_append]
      rcases dnsTxtState_after src (inspectAll cfg packets) p with same | ⟨query, counted⟩
      · exact ⟨own, asked.trans (List.sublist_append_left _ _), same.trans seen⟩
      · refine ⟨own ++ [p], ?_, ?_⟩
        · rw [List.filter_cons_of_pos query]
          exact asked.append (List.Sublist.refl _)
        · rw [counted, seen, Engine.own_snoc]
          rfl

/-! ## The figures -/

section Detections
variable {cfg : Config} {before : List Timed} {p : Timed} {alert : ThreatAlert}

/-- What the SYN-flood rule finds in the profile that the packets of the source have left. -/
theorem inspectSynFlood_own (cfg : Config) (before : List Timed) (p : Timed) :
    result (inspectSynFlood p.info.srcIp p.info.tcpFlags p.now) (inspectAll cfg before) =
      ((synRule cfg.synFlood).work (((synRule cfg.synFlood).own (before.filter (·.tcpFrom p.info.srcIp))).getD
        (.create p.now)) p).1 := by
  rw [inspectSynFlood, result_onEntry, inspectAll_config, ← synFlood_own]
  rfl

/-- What the brute-force rule finds in the window that the packets of the source to the port have left. -/
theorem hitPortWindow_own (cfg : Config) (before : List Timed) (p : Timed) :
    result (hitPortWindow p.info.srcIp p.info.dstPort p.now) (inspectAll cfg before) =
      (hitRule.work ((hitRule.own (before.filter (·.hitsFrom cfg.bruteForce p.info.srcIp p.info.dstPort))).getD
        ⟨p.now, 0⟩) p).1 := by
  have entry : ((((bruteForceField.read (inspectAll cfg before)).lookup p.info.srcIp).getD {}).portWindows.lookup
      p.info.dstPort) = ((inspectAll cfg before).bruteForceState.lookup p.info.srcIp).bind
        (·.portWindows.lookup p.info.dstPort) := by
    change (((inspectAll cfg before).bruteForceState.lookup p.info.srcIp).getD {}).portWindows.lookup _ = _
    cases (inspectAll cfg before).bruteForceState.lookup p.info.srcIp <;> rfl
  rw [hitPortWindow, result_onEntry, ← bruteForceState_own, ← entry]
  rfl

/-- What the exfiltration rule finds in the window that the packets of the source have left. -/
theorem addExfil_own (cfg : Config) (before : List Timed) (p : Timed) :
    result (addExfil p.info.srcIp p.info.l7PayloadLength p.now) (inspectAll cfg before) =
      (exfilRule.work ((exfilRule.own (before.filter (·.carriesFrom p.info.srcIp))).getD ⟨0, 0⟩) p).1 := by
  rw [addExfil, result_onEntry, ← exfilState_own cfg]
  rfl

end Detections

end ThreatDetector

end Nte
