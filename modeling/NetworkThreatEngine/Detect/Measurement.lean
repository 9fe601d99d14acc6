import NetworkThreatEngine.Detect.Suppression

/-!
# What is measured

The detector's stores without the suppression table, and what an inspection makes of them: a
function of the packet, the clock and the thresholds, with one exception. Whether a TXT query with a
long name is counted depends on the suppression of its source, since the alert that goes through ends
the check. Apart from this the suppression interval has no effect on the measurements.
-/
namespace Nte
open StateRules Constants ThreatDetector

structure Measurement where
  ewma : Store PerIpEwmaProfile
  portScan : Store PerIpScanProfile
  synFlood : Store PerIpSynProfile
  bruteForceState : Store PerIpBruteForceState
  exfilState : Store RateWindow
  dnsTxtState : Store RateWindow

def ThreatDetector.measured (d : ThreatDetector) : Measurement :=
  ⟨d.ewma, d.portScan, d.synFlood, d.bruteForceState, d.exfilState, d.dnsTxtState⟩

/-! ## Measuring by itself -/

namespace Measurement
variable (cfg : Config) (info : PacketInfo) (now : TimePoint) (m : Measurement)

def volume : Measurement :=
  { m with
    ewma := m.ewma.insert info.srcIp
      (((m.ewma.lookup info.srcIp).getD (.create now)).update cfg.ewma info.ipTotalLength.toNat now).2 }

def syn : Measurement :=
  if info.l4Proto = .TCP then
    { m with
      synFlood := m.synFlood.insert info.srcIp
        (((m.synFlood.lookup info.srcIp).getD (.create now)).inspect cfg.synFlood info.tcpFlags now).2 }
  else m

def scan : Measurement :=
  if info.dstPort ≠ 0 then
    { m with
      portScan := m.portScan.insert info.srcIp
        (((m.portScan.lookup info.srcIp).getD (.create now)).inspect cfg.portScan info.dstPort
          (if info.l4Proto = .TCP then info.tcpFlags else 0) now).2 }
  else m

def bruteForce : Measurement :=
  if info.dstPort ≠ 0 ∧ isSensitivePort cfg.bruteForce info.dstPort then
    { m with
      bruteForceState := m.bruteForceState.insert info.srcIp
        (((m.bruteForceState.lookup info.srcIp).getD {}).hit info.dstPort now).2 }
  else m

/-- A TXT query with a suspiciously long name. -/
def longTxt : Bool :=
  info.dns.any fun dns => decide (dns.queryType = DNS_QTYPE_TXT) && longName cfg.dnsTunneling dns.queryName

def txt : Bool := info.dns.any fun dns => decide (dns.queryType = DNS_QTYPE_TXT)

/-- A long name is counted only while its own alert is suppressed. -/
def countsTxt (suppressed : Bool) : Bool := txt info && (!longTxt cfg info || suppressed)

def hitTxt : Measurement :=
  { m with
    dnsTxtState := m.dnsTxtState.insert info.srcIp
      (((m.dnsTxtState.lookup info.srcIp).getD ⟨0, 0⟩).hit now).2 }

def dns (suppressed : Bool) : Measurement := if countsTxt cfg info suppressed then m.hitTxt info now else m

def exfil : Measurement :=
  if info.l7PayloadLength > 0 then
    { m with
      exfilState := m.exfilState.insert info.srcIp
        (((m.exfilState.lookup info.srcIp).getD ⟨0, 0⟩).add info.l7PayloadLength now).2 }
  else m

def inspected : Bool := info.valid && !info.srcIp.isEmpty

def observe (suppressed : Bool) : Measurement :=
  if inspected info then
    (((((m.volume cfg info now).syn cfg info now).scan cfg info now).bruteForce cfg info now).dns cfg info now
      suppressed).exfil info now
  else m

end Measurement

/-! ## Alerting measures nothing -/

namespace ThreatDetector

def SameMeasurement (d e : ThreatDetector) : Prop := e.measured = d.measured

theorem SameMeasurement.refl (d : ThreatDetector) : SameMeasurement d d := rfl

theorem fire_measures (alert : ThreatAlert) (now : TimePoint) : Keeps SameMeasurement (fire alert now) := SameMeasurement.refl

theorem unlessSuppressed_measures {rest : Config → StateM ThreatDetector Unit}
    (hrest : ∀ cfg, Keeps SameMeasurement (rest cfg)) (src : Octets) (type : AttackType) (now : TimePoint) :
    Keeps SameMeasurement (unlessSuppressed src type now rest) := by
  intro d
  exact Keeps.ite (Keeps.pure SameMeasurement.refl ()) (hrest d.config) d

/-- What a handler does with the rate of a window that came to its end. -/
theorem rate_measures (alert : Config → ThreatAlert) (high : Config → Prop) [DecidablePred high] (src : Octets)
    (type : AttackType) (now : TimePoint) :
    Keeps SameMeasurement (do
      let cfg ← query config
      if high cfg then unlessSuppressed src type now fun cfg => fire (alert cfg) now else pure ()) := by
  intro d
  have fires := unlessSuppressed_measures (fun cfg => fire_measures (alert cfg) now) src type now
  exact Keeps.ite fires (Keeps.pure SameMeasurement.refl ()) d

/-! ## Stages -/

/-- A stage works on one store; what comes of it is alerting. -/
theorem measured_stage {ε β : Type} {field : Field ε} {src : Octets} {g : Config → Option ε → β × ε}
    {rest : β → StateM ThreatDetector Unit} (hrest : ∀ b, Keeps SameMeasurement (rest b)) (d : ThreatDetector) :
    (after (onEntry field src g >>= rest) d).measured = (after (onEntry field src g) d).measured :=
  hrest (result (onEntry field src g) d) (after (onEntry field src g) d)

section Stages
variable (info : PacketInfo) (now : TimePoint) (d : ThreatDetector)

theorem inspectVolume_measured : (after (inspectVolume info now) d).measured = d.measured.volume d.config info now := by
  apply measured_stage
  intro r
  cases r with
  | none => exact SameMeasurement.refl
  | some r => exact unlessSuppressed_measures (fun cfg => fire_measures (volumeAlert cfg info r) now) _ _ _

theorem inspectSyn_measured : (after (inspectSyn info now) d).measured = d.measured.syn d.config info now := by
  unfold inspectSyn Measurement.syn
  split
  · apply measured_stage
    intro r
    cases r with
    | none => exact SameMeasurement.refl
    | some r => exact unlessSuppressed_measures (fun cfg => fire_measures (synFloodAlert cfg info r) now) _ _ _
  · rfl

theorem inspectScan_measured : (after (inspectScan info now) d).measured = d.measured.scan d.config info now := by
  unfold inspectScan Measurement.scan
  split
  · apply measured_stage
    intro r
    cases r with
    | none => exact SameMeasurement.refl
    | some r => exact unlessSuppressed_measures (fun cfg => fire_measures (portScanAlert cfg info r) now) _ _ _
  · rfl

theorem inspectBruteForce_measured :
    (after (inspectBruteForce info now) d).measured = d.measured.bruteForce d.config info now := by
  rw [inspectBruteForce, after_bind, result_query, after_query]
  unfold Measurement.bruteForce
  split
  · apply measured_stage
    intro rate
    cases rate with
    | none => exact SameMeasurement.refl
    | some rate =>
        exact rate_measures (bruteForceAlert · info rate) (fun cfg => rate ≥ cfg.bruteForce.ratePps) _ _ now
  · rfl

theorem checkTxtRate_measured : (after (checkTxtRate info now) d).measured = d.measured.hitTxt info now := by
  apply measured_stage
  intro rate
  cases rate with
  | none => exact SameMeasurement.refl
  | some rate =>
      exact rate_measures (txtRateAlert · info rate) (fun cfg => rate ≥ cfg.dnsTunneling.txtRatePps) _ _ now

theorem inspectDns_measured : (after (inspectDns info now) d).measured =
    d.measured.dns d.config info now (d.isSuppressed info.srcIp .DNS_TUNNELING now) := by
  unfold inspectDns Measurement.dns Measurement.countsTxt Measurement.txt Measurement.longTxt
  cases info.dns with
  | none => rfl
  | some dns =>
      have fires : (after (fire (longNameAlert info dns.queryName) now) d).measured = d.measured := rfl
      dsimp only
      rw [checkDnsTunneling, after_bind, result_query, after_query, after_bind, result_query, after_query]
      by_cases query : dns.queryType = DNS_QTYPE_TXT
      · cases long : longName d.config.dnsTunneling dns.queryName with
        | false => simpa [query, long] using checkTxtRate_measured info now d
        | true =>
            cases suppressed : d.isSuppressed info.srcIp .DNS_TUNNELING now with
            | true => simpa [query, long, suppressed] using checkTxtRate_measured info now d
            | false => simpa [query, long, suppressed] using fires
      · simp only [query, decide_false, Option.any_some, Bool.false_and, Bool.false_eq_true, if_false]
        split
        · exact fires
        · rfl

theorem inspectExfil_measured : (after (inspectExfil info now) d).measured = d.measured.exfil info now := by
  unfold inspectExfil Measurement.exfil
  split
  · apply measured_stage
    intro bps
    cases bps with
    | none => exact SameMeasurement.refl
    | some bps =>
        apply Keeps.ite
        · exact unlessSuppressed_measures (fun _ => fire_measures (exfilAlert info bps) now) _ _ _
        · exact SameMeasurement.refl
  · rfl

/-- One packet, on the measurements: the state of the alerts shows in a single bit. -/
theorem inspect_measured :
    (after (inspect info now) d).measured =
      d.measured.observe d.config info now (d.isSuppressed info.srcIp .DNS_TUNNELING now) := by
  by_cases looked : Measurement.inspected info
  · have unguarded : (!info.valid || info.srcIp.isEmpty) = false := by
      simpa [Measurement.inspected] using looked
    rw [after_inspect unguarded, Measurement.observe, if_pos looked]
    -- until the DNS stage the alerts are of other types
    have volume := inspectVolume_untouched info now (by decide : AttackType.VOLUME_ANOMALY ≠ .DNS_TUNNELING) d
    have m₁ := inspectVolume_measured info now d
    generalize after (inspectVolume info now) d = d₁ at volume m₁ ⊢
    have syn := volume.trans (inspectSyn_untouched info now (by decide) d₁)
    have m₂ := inspectSyn_measured info now d₁
    generalize after (inspectSyn info now) d₁ = d₂ at syn m₂ ⊢
    have scan := syn.trans (inspectScan_untouched info now (by decide) d₂)
    have m₃ := inspectScan_measured info now d₂
    generalize after (inspectScan info now) d₂ = d₃ at scan m₃ ⊢
    have brute := scan.trans (inspectBruteForce_untouched info now (by decide) d₃)
    have m₄ := inspectBruteForce_measured info now d₃
    generalize after (inspectBruteForce info now) d₃ = d₄ at brute m₄ ⊢
    rw [inspectExfil_measured, inspectDns_measured, brute.isSuppressed, brute.config, m₄, scan.config, m₃,
      syn.config, m₂, volume.config, m₁]
  · have guarded : (!info.valid || info.srcIp.isEmpty) = true := by
      simpa [Measurement.inspected, imp_iff_not_or] using looked
    rw [inspect, guarded, if_pos rfl, Measurement.observe, if_neg looked]
    rfl

end Stages

end ThreatDetector

/-! ## When the single bit matters -/

theorem RateWindow.hit_ne (win : RateWindow) (now : TimePoint) : (win.hit now).2 ≠ win := by
  intro same
  rw [RateWindow.hit] at same
  split at same
  · rename_i old
    rw [← same, secondsBetween_self] at old
    exact absurd old (by norm_num)
  · have count := congrArg RateWindow.count same
    simp at count

namespace Measurement
variable (cfg : Config) (info : PacketInfo) (now : TimePoint) (m : Measurement)

theorem hitTxt_lookup_ne : (m.hitTxt info now).dnsTxtState.lookup info.srcIp ≠ m.dnsTxtState.lookup info.srcIp := by
  rw [hitTxt, AList.lookup_insert]
  cases m.dnsTxtState.lookup info.srcIp with
  | none => simp
  | some win => simpa using RateWindow.hit_ne win now

theorem exfil_dnsTxtState : (m.exfil info now).dnsTxtState = m.dnsTxtState := by
  unfold exfil
  split <;> rfl

theorem countsTxt_of_longTxt (long : longTxt cfg info = true) (suppressed : Bool) :
    countsTxt cfg info suppressed = suppressed := by
  have query : txt info = true := by
    simp only [longTxt, txt, Option.any_eq_true] at long ⊢
    obtain ⟨dns, hdns, both⟩ := long
    exact ⟨dns, hdns, (Bool.and_eq_true_iff.mp both).1⟩
  simp [countsTxt, query, long]

theorem dns_inj (long : longTxt cfg info = true) {b b' : Bool} (same : (m.dns cfg info now b).dnsTxtState =
    (m.dns cfg info now b').dnsTxtState) : b = b' := by
  have differ := m.hitTxt_lookup_ne info now
  rw [dns, dns, countsTxt_of_longTxt cfg info long, countsTxt_of_longTxt cfg info long] at same
  cases b <;> cases b'
  · rfl
  · exact absurd (congrArg (AList.lookup info.srcIp) same).symm differ
  · exact absurd (congrArg (AList.lookup info.srcIp) same) differ
  · rfl

/-- The bit matters for the long-named TXT queries that are inspected, and for nothing else. -/
theorem observe_eq_iff (b b' : Bool) : m.observe cfg info now b = m.observe cfg info now b' ↔
    (inspected info = true → longTxt cfg info = true → b = b') := by
  constructor
  · intro same looked long
    rw [observe, observe, if_pos looked, if_pos looked] at same
    have stores := congrArg dnsTxtState same
    rw [exfil_dnsTxtState, exfil_dnsTxtState] at stores
    exact dns_inj cfg info now _ long stores
  · intro bit
    rw [observe, observe]
    by_cases looked : inspected info = true
    · by_cases long : longTxt cfg info = true
      · rw [bit looked long]
      · rw [dns, dns, countsTxt, countsTxt, Bool.eq_false_iff.mpr long]
        rfl
    · rw [if_neg looked, if_neg looked]

end Measurement

/-! ## Every inspected packet shows -/

/-- A packet is counted in the window, or starts a new one at a later time. -/
theorem PerIpEwmaProfile.update_ne {cfg : EWMAConfig} (positive : 0 < cfg.minWindowSec) (profile : PerIpEwmaProfile)
    (packetBytes : Nat) (now : TimePoint) : (profile.update cfg packetBytes now).2 ≠ profile := by
  intro same
  by_cases stale : (!profile.coldStart && secondsBetween now profile.lastUpdate > cfg.staleResetSec) = true
  · have warm : profile.coldStart = false := by
      simp only [Bool.and_eq_true, Bool.not_eq_true'] at stale
      exact stale.1
    rw [update, resetStale, if_pos stale] at same
    simp only [secondsBetween_self, if_pos positive] at same
    have cold := congrArg coldStart same
    rw [warm] at cold
    cases cold
  · rw [update, resetStale, if_neg stale] at same
    dsimp only at same
    by_cases young : secondsBetween now profile.windowStart < cfg.minWindowSec
    · rw [if_pos young] at same
      have count := congrArg windowPackets same
      simp at count
    · rw [if_neg young] at same
      have start : now = profile.windowStart := by
        split at same
        · exact congrArg windowStart same
        · exact congrArg windowStart same
      rw [start, secondsBetween_self] at young
      exact young positive

namespace Measurement
variable (cfg : Config) (info : PacketInfo) (now : TimePoint) (m : Measurement)

theorem volume_lookup_ne (positive : 0 < cfg.ewma.minWindowSec) :
    (m.volume cfg info now).ewma.lookup info.srcIp ≠ m.ewma.lookup info.srcIp := by
  rw [volume, AList.lookup_insert]
  cases m.ewma.lookup info.srcIp with
  | none => simp
  | some profile => simpa using PerIpEwmaProfile.update_ne positive profile info.ipTotalLength.toNat now

/-- The later stages leave the volume profiles alone. -/
theorem observe_ewma (looked : inspected info = true) (suppressed : Bool) :
    (m.observe cfg info now suppressed).ewma = (m.volume cfg info now).ewma := by
  have syn (m : Measurement) : (m.syn cfg info now).ewma = m.ewma := by unfold syn; split <;> rfl
  have scan (m : Measurement) : (m.scan cfg info now).ewma = m.ewma := by unfold scan; split <;> rfl
  have brute (m : Measurement) : (m.bruteForce cfg info now).ewma = m.ewma := by unfold bruteForce; split <;> rfl
  have dns (m : Measurement) : (m.dns cfg info now suppressed).ewma = m.ewma := by unfold dns; split <;> rfl
  have exfil (m : Measurement) : (m.exfil info now).ewma = m.ewma := by unfold exfil; split <;> rfl
  rw [observe, if_pos looked, exfil, dns, brute, scan, syn]

end Measurement

/-! ## Two suppression intervals -/

def Config.withSuppression (cfg : Config) (sec : ℚ) : Config :=
  { cfg with delivery := { cfg.delivery with alertSuppressionSec := sec } }

namespace ThreatDetector

theorem inspectAll_snoc (cfg : Config) (packets : List Timed) (p : Timed) :
    inspectAll cfg (packets ++ [p]) = after (inspect p.info p.now) (inspectAll cfg packets) := by
  rw [inspectAll, runAll_append]
  rfl

theorem inspectAll_measured (cfg : Config) (packets : List Timed) (p : Timed) :
    (inspectAll cfg (packets ++ [p])).measured =
      (inspectAll cfg packets).measured.observe cfg p.info p.now
        ((inspectAll cfg packets).isSuppressed p.info.srcIp .DNS_TUNNELING p.now) := by
  rw [inspectAll_snoc, inspect_measured, inspectAll_config]

/-- Two suppression intervals measure the same along a run exactly when they give the same answer
whenever a TXT query with a long name is inspected. -/
theorem measurements_agree_iff (cfg : Config) (sec : ℚ) (packets : List Timed) :
    (∀ before, before <+: packets →
      (inspectAll cfg before).measured = (inspectAll (cfg.withSuppression sec) before).measured) ↔
    ∀ before p after, packets = before ++ p :: after →
      Measurement.inspected p.info = true → Measurement.longTxt cfg p.info = true →
        (inspectAll cfg before).isSuppressed p.info.srcIp .DNS_TUNNELING p.now =
          (inspectAll (cfg.withSuppression sec) before).isSuppressed p.info.srcIp .DNS_TUNNELING p.now := by
  constructor
  · rintro same before p after rfl
    have now := same before (List.prefix_append _ _)
    have next := same (before ++ [p]) ⟨after, by simp⟩
    rw [inspectAll_measured, inspectAll_measured, ← now] at next
    exact (Measurement.observe_eq_iff cfg p.info p.now _ _ _).mp next
  · intro answers before
    induction before using List.reverseRecOn with
    | nil =>
        intro _
        rfl
    | append_singleton before p ih =>
        rintro ⟨after, split⟩
        have known := ih ⟨p :: after, by rw [← split, List.append_assoc]; rfl⟩
        have answer := answers before p after (by rw [← split, List.append_assoc]; rfl)
        rw [inspectAll_measured, inspectAll_measured, ← known]
        exact (Measurement.observe_eq_iff cfg p.info p.now _ _ _).mpr answer

/-- A TXT query for a name with a label of forty bytes, as the dissector reports it. -/
def longTxtQuery (now : TimePoint) : Timed where
  info :=
    { hasEthernet := true, etherType := Constants.ETHERTYPE_IPV4, l3Proto := .IPv4, srcIp := ascii "10.0.0.1",
      dstIp := ascii "10.0.0.2", ipProtoNum := 17, ttlOrHopLimit := 64, ipTotalLength := 90, l4Proto := .UDP,
      srcPort := 40000, dstPort := 53, l7Proto := .DNS,
      dns := some { queryName := List.replicate 40 97 ++ ascii ".com", queryType := 16 },
      l7Payload := some 42, l7PayloadLength := 62, capturedLength := 104, originalLength := 104, valid := true }
  now

/-- With five seconds the second query finds the first one's alert and is counted; with none it
fires an alert of its own and is not. -/
theorem suppression_shows_in_measurements :
    ∃ packets, packets = [longTxtQuery 0, longTxtQuery 1000000000] ∧
      (inspectAll {} packets).measured ≠ (inspectAll (({} : Config).withSuppression 0) packets).measured := by
  refine ⟨_, rfl, ?_⟩
  intro same
  have counted := congrArg (fun m => (m.dnsTxtState.lookup (ascii "10.0.0.1")).isSome) same
  revert counted
  decide +kernel

end ThreatDetector

end Nte
