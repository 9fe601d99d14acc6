import NetworkThreatEngine.Detect.Stores

/-!
# The verdicts on a packet

The six stages of an inspection run one after the other on a changing state, yet each decides as if it had
been the only one: on the state before the inspection. What an inspection fires is the detections on that
state that are not suppressed there, and every alert of a run is one of them.
-/
namespace Nte
open StateRules Constants

namespace ThreatDetector

/-- What the stages detect, in their order. -/
def detections (info : PacketInfo) (now : TimePoint) (d : ThreatDetector) : List ThreatAlert :=
  (volumeDetection info now d).toList ++ (synFloodDetection info now d).toList ++
    (portScanDetection info now d).toList ++ (bruteForceDetection info now d).toList ++
    (dnsDetection info now d).toList ++ (exfilDetection info now d).toList

/-- A rule detects something of the source and type at a packet. -/
def DetectedAt (d : ThreatDetector) (p : Timed) (src : Octets) (type : AttackType) : Prop :=
  Measurement.inspected p.info = true ∧ ∃ alert ∈ detections p.info p.now d, alert.srcIp = src ∧ alert.attackType = type

/-- The alerts that go through. -/
def unsuppressed (now : TimePoint) (d : ThreatDetector) (alerts : List ThreatAlert) : List Fired :=
  (alerts.filter fun alert => !d.isSuppressed alert.srcIp alert.attackType now).map (⟨·, now⟩)

def verdicts (info : PacketInfo) (now : TimePoint) (d : ThreatDetector) : List Fired :=
  if Measurement.inspected info then unsuppressed now d (detections info now d) else []

theorem unsuppressed_append (now : TimePoint) (d : ThreatDetector) (alerts more : List ThreatAlert) :
    unsuppressed now d (alerts ++ more) = unsuppressed now d alerts ++ unsuppressed now d more := by
  rw [unsuppressed, List.filter_append, List.map_append]
  rfl

/-! ## Firing several alerts -/

/-- From one state to the other the alerts have been fired at the same time, and no others. -/
structure Fires (now : TimePoint) (d e : ThreatDetector) (new : List Fired) : Prop where
  config : e.config = d.config
  delivered : e.delivered = d.delivered ++ new
  total : e.totalAlertsFired = d.totalAlertsFired + UInt64.ofNat new.length
  last : ∀ src type, e.lastFired src type =
    if ∃ f ∈ new, f.alert.srcIp = src ∧ f.alert.attackType = type then some now else d.lastFired src type

variable {now : TimePoint} {d e p : ThreatDetector} {info : PacketInfo}

theorem Fires.none (h : SameAlerts d e) : Fires now d e [] where
  config := h.config
  delivered := h.delivered.trans (List.append_nil _).symm
  total := h.total.trans (UInt64.add_zero _).symm
  last := by
    intro src type
    rw [h.lastFired, if_neg]
    simp

theorem Fires.trans {f : ThreatDetector} {new more : List Fired} (h₁ : Fires now d e new) (h₂ : Fires now e f more) :
    Fires now d f (new ++ more) where
  config := h₂.config.trans h₁.config
  delivered := by
    rw [h₂.delivered, h₁.delivered, List.append_assoc]
  total := by
    rw [h₂.total, h₁.total, List.length_append, UInt64.ofNat_add, UInt64.add_assoc]
  last := by
    intro src type
    rw [h₂.last, h₁.last]
    by_cases late : ∃ f ∈ more, f.alert.srcIp = src ∧ f.alert.attackType = type
    · obtain ⟨f, mem, key⟩ := late
      rw [if_pos ⟨f, mem, key⟩, if_pos ⟨f, List.mem_append_right _ mem, key⟩]
    · rw [if_neg late]
      congr 1
      refine propext ⟨?_, ?_⟩
      · rintro ⟨f, mem, key⟩
        exact ⟨f, List.mem_append_left _ mem, key⟩
      · rintro ⟨f, mem, key⟩
        exact ⟨f, (List.mem_append.mp mem).resolve_right fun here => late ⟨f, here, key⟩, key⟩

theorem Fires.one (d : ThreatDetector) (alert : ThreatAlert) (now : TimePoint) :
    Fires now d (d.fired alert now) [⟨alert, now⟩] where
  config := rfl
  delivered := rfl
  total := rfl
  last := by
    intro src type
    rw [lastFired_fired]
    congr 1
    simp [eq_comm]

/-- A stage fires what it detects on the state it starts from, unless suppressed there. -/
theorem Attempts.fires {ε : Type} {field : Field ε} {detect : ThreatDetector → Option ThreatAlert}
    {x : StateM ThreatDetector Unit} (hx : Attempts field detect now x) (hquiet : field.Quiet) (p : ThreatDetector) :
    Fires now p (after x p) (unsuppressed now p (detect p).toList) := by
  obtain ⟨store, hafter⟩ := hx p
  have written : Fires now p (field.write p store) [] := Fires.none (hquiet p store)
  rw [hafter]
  cases detect p with
  | none => exact written
  | some alert =>
      have same := (hquiet p store).isSuppressed alert.srcIp alert.attackType now
      rw [attempt, same, Option.toList_some, unsuppressed]
      cases quiet : p.isSuppressed alert.srcIp alert.attackType now with
      | true =>
          rw [if_pos rfl, List.filter_cons_of_neg (by simp [quiet])]
          exact written
      | false =>
          rw [if_neg (by decide), List.filter_cons_of_pos (by simp [quiet])]
          exact written.trans (Fires.one _ alert now)

/-- It does so as if it had started from the state before the inspection. -/
theorem Attempts.fires_before {ε : Type} {field : Field ε} {detect : ThreatDetector → Option ThreatAlert}
    {x : StateM ThreatDetector Unit} (hx : Attempts field detect now x) (hquiet : field.Quiet) {own : AttackType}
    (only : DetectsOnly info own detect) (stable : ∀ {d p}, Untouched own d p → detect p = detect d)
    (before : Untouched own d p) : Fires now p (after x p) (unsuppressed now d (detect d).toList) := by
  have fires := hx.fires hquiet p
  have same : unsuppressed now p (detect d).toList = unsuppressed now d (detect d).toList := by
    cases detected : detect d with
    | none => rfl
    | some alert =>
        have own := (only d alert detected).2
        rw [Option.toList_some, unsuppressed, unsuppressed, List.filter_singleton, List.filter_singleton, own,
          before.isSuppressed]
  rw [stable before, same] at fires
  exact fires

/-- The whole inspection: each rule decides on the state before it. -/
theorem inspect_fires (info : PacketInfo) (now : TimePoint) (d : ThreatDetector) :
    Fires now d (after (inspect info now) d) (verdicts info now d) := by
  unfold verdicts
  cases looked : Measurement.inspected info with
  | false =>
      have guarded : (!info.valid || info.srcIp.isEmpty) = true := by
        unfold Measurement.inspected at looked
        cases hv : info.valid <;> simp_all
      rw [inspect, guarded, if_pos rfl, if_neg (by decide)]
      exact Fires.none ⟨rfl, rfl, rfl, rfl⟩
  | true =>
      have unguarded : (!info.valid || info.srcIp.isEmpty) = false := by
        simpa [Measurement.inspected] using looked
      rw [after_inspect unguarded, if_pos rfl, detections, unsuppressed_append, unsuppressed_append,
        unsuppressed_append, unsuppressed_append, unsuppressed_append]
      have volume := (inspectVolume_attempts info now).fires_before ewmaField_quiet
        (volumeDetection_only info now) volumeDetection_stable (Untouched.refl _ d)
      have past₁ type (o : AttackType.VOLUME_ANOMALY ≠ type) := inspectVolume_untouched info now o d
      generalize after (inspectVolume info now) d = d₁ at volume past₁ ⊢
      have syn := (inspectSyn_attempts info now).fires_before synFloodField_quiet
        (synFloodDetection_only info now) synFloodDetection_stable (past₁ _ (by decide))
      have past₂ type (o : AttackType.SYN_FLOOD ≠ type) := inspectSyn_untouched info now o d₁
      generalize after (inspectSyn info now) d₁ = d₂ at syn past₂ ⊢
      have scan := (inspectScan_attempts info now).fires_before portScanField_quiet
        (portScanDetection_only info now) portScanDetection_stable
        ((past₁ _ (by decide)).trans (past₂ _ (by decide)))
      have past₃ type (o : AttackType.PORT_SCAN ≠ type) := inspectScan_untouched info now o d₂
      generalize after (inspectScan info now) d₂ = d₃ at scan past₃ ⊢
      have brute := (inspectBruteForce_attempts info now).fires_before bruteForceField_quiet
        (bruteForceDetection_only info now) bruteForceDetection_stable
        (((past₁ _ (by decide)).trans (past₂ _ (by decide))).trans (past₃ _ (by decide)))
      have past₄ type (o : AttackType.BRUTE_FORCE ≠ type) := inspectBruteForce_untouched info now o d₃
      generalize after (inspectBruteForce info now) d₃ = d₄ at brute past₄ ⊢
      have dns := (inspectDns_attempts info now).fires_before dnsTxtField_quiet (dnsDetection_only info now)
        dnsDetection_stable ((((past₁ _ (by decide)).trans (past₂ _ (by decide))).trans
          (past₃ _ (by decide))).trans (past₄ _ (by decide)))
      have past₅ type (o : AttackType.DNS_TUNNELING ≠ type) := inspectDns_untouched info now o d₄
      generalize after (inspectDns info now) d₄ = d₅ at dns past₅ ⊢
      have exfil := (inspectExfil_attempts info now).fires_before exfilField_quiet (exfilDetection_only info now)
        exfilDetection_stable (((((past₁ _ (by decide)).trans (past₂ _ (by decide))).trans
          (past₃ _ (by decide))).trans (past₄ _ (by decide))).trans (past₅ _ (by decide)))
      exact ((((volume.trans syn).trans scan).trans brute).trans dns).trans exfil

/-- The types in the order of the stages. -/
def stageTypes : List AttackType :=
  [.VOLUME_ANOMALY, .SYN_FLOOD, .PORT_SCAN, .BRUTE_FORCE, .DNS_TUNNELING, .DATA_EXFILTRATION]

theorem toList_types {detect : ThreatDetector → Option ThreatAlert} {own : AttackType}
    (only : DetectsOnly info own detect) (d : ThreatDetector) :
    ((detect d).toList.map (·.attackType)).Sublist [own] := by
  cases detected : detect d with
  | none => exact List.nil_sublist _
  | some alert =>
      rw [Option.toList_some, List.map_singleton, (only d alert detected).2]

theorem toList_source {detect : ThreatDetector → Option ThreatAlert} {own : AttackType}
    (only : DetectsOnly info own detect) {d : ThreatDetector} {alert : ThreatAlert} (mem : alert ∈ (detect d).toList) :
    alert.srcIp = info.srcIp := (only d alert (Option.mem_toList.mp mem)).1

theorem detections_types (info : PacketInfo) (now : TimePoint) (d : ThreatDetector) :
    ((detections info now d).map (·.attackType)).Sublist stageTypes := by
  have volume := toList_types (volumeDetection_only info now) d
  have syn := toList_types (synFloodDetection_only info now) d
  have scan := toList_types (portScanDetection_only info now) d
  have brute := toList_types (bruteForceDetection_only info now) d
  have dns := toList_types (dnsDetection_only info now) d
  have exfil := toList_types (exfilDetection_only info now) d
  simp only [detections, List.map_append]
  exact ((((volume.append syn).append scan).append brute).append dns).append exfil

theorem detections_source {alert : ThreatAlert} (mem : alert ∈ detections info now d) : alert.srcIp = info.srcIp := by
  simp only [detections, List.mem_append] at mem
  rcases mem with ((((mem | mem) | mem) | mem) | mem) | mem
  · exact toList_source (volumeDetection_only info now) mem
  · exact toList_source (synFloodDetection_only info now) mem
  · exact toList_source (portScanDetection_only info now) mem
  · exact toList_source (bruteForceDetection_only info now) mem
  · exact toList_source (dnsDetection_only info now) mem
  · exact toList_source (exfilDetection_only info now) mem

theorem mem_verdicts {f : Fired} (mem : f ∈ verdicts info now d) :
    Measurement.inspected info = true ∧ f.at_ = now ∧ f.alert ∈ detections info now d ∧
      d.isSuppressed f.alert.srcIp f.alert.attackType now = false := by
  unfold verdicts at mem
  split at mem
  · rename_i looked
    obtain ⟨alert, kept, rfl⟩ := List.mem_map.mp mem
    obtain ⟨detected, free⟩ := List.mem_filter.mp kept
    exact ⟨looked, rfl, detected, by simpa using free⟩
  · cases mem

theorem verdicts_types (info : PacketInfo) (now : TimePoint) (d : ThreatDetector) :
    ((verdicts info now d).map fun f => f.alert.attackType).Sublist stageTypes := by
  unfold verdicts
  split
  · rw [unsuppressed, List.map_map]
    exact (List.filter_sublist.map _).trans (detections_types info now d)
  · exact List.nil_sublist _

theorem delivered_snoc (cfg : Config) (packets : List Timed) (p : Timed) :
    (inspectAll cfg (packets ++ [p])).delivered =
      (inspectAll cfg packets).delivered ++ verdicts p.info p.now (inspectAll cfg packets) := by
  rw [inspectAll_snoc]
  exact (inspect_fires p.info p.now _).delivered

/-- An alert of a run is a verdict on a packet, on the state the packets before have led to. -/
theorem mem_delivered {cfg : Config} {packets : List Timed} {f : Fired} (mem : f ∈ (inspectAll cfg packets).delivered) :
    ∃ before p later, packets = before ++ p :: later ∧ f ∈ verdicts p.info p.now (inspectAll cfg before) := by
  induction packets using List.reverseRecOn with
  | nil => cases mem
  | append_singleton packets p ih =>
      rw [delivered_snoc] at mem
      rcases List.mem_append.mp mem with old | new
      · obtain ⟨before, q, later, rfl, found⟩ := ih old
        exact ⟨before, q, later ++ [p], by simp, found⟩
      · exact ⟨packets, p, [], rfl, new⟩

/-! ## What the alerts say -/

/-- The figures of an alert meet the thresholds of its rule, and its severity follows from them. -/
def Justified (cfg : Config) (info : PacketInfo) (alert : ThreatAlert) : Prop :=
  match alert.attackType with
  | .UNKNOWN => False
  | .VOLUME_ANOMALY =>
      alert.thresholdValue = alert.baselineValue * cfg.ewma.mediumMultiplier ∧
        let ratio := alert.observedValue / max alert.baselineValue cfg.ewma.ppsFloor
        (cfg.ewma.highMultiplier ≤ ratio ∧ alert.severity = .HIGH) ∨
          (cfg.ewma.mediumMultiplier ≤ ratio ∧ ratio < cfg.ewma.highMultiplier ∧ alert.severity = .MEDIUM)
  | .SYN_FLOOD =>
      info.l4Proto = .TCP ∧ alert.thresholdValue = cfg.synFlood.synRatePps ∧
        alert.thresholdValue ≤ alert.observedValue ∧
          alert.severity = if alert.observedValue ≥ alert.thresholdValue * 5 then .CRITICAL else .HIGH
  | .PORT_SCAN =>
      info.dstPort ≠ 0 ∧ alert.thresholdValue = cfg.portScan.distinctPortThreshold.toNat ∧
        alert.thresholdValue ≤ alert.observedValue ∧
          (cfg.portScan.distinctPortThreshold.toNat < 2 ^ 31 →
            alert.severity = if alert.observedValue ≥ alert.thresholdValue * 2 then .HIGH else .MEDIUM)
  | .BRUTE_FORCE =>
      info.dstPort ≠ 0 ∧ isSensitivePort cfg.bruteForce info.dstPort = true ∧
        alert.thresholdValue = cfg.bruteForce.ratePps ∧ alert.thresholdValue ≤ alert.observedValue ∧
          alert.severity = if alert.observedValue ≥ alert.thresholdValue * 3 then .CRITICAL else .HIGH
  | .DNS_TUNNELING =>
      alert.severity = .HIGH ∧ ∃ dns, info.dns = some dns ∧
        ((longName cfg.dnsTunneling dns.queryName = true ∧ alert.observedValue = dns.queryName.length) ∨
          (dns.queryType = DNS_QTYPE_TXT ∧ alert.thresholdValue = cfg.dnsTunneling.txtRatePps ∧
            alert.thresholdValue ≤ alert.observedValue))
  | .DATA_EXFILTRATION =>
      info.l7PayloadLength > 0 ∧ alert.thresholdValue = exfilMedium ∧ alert.thresholdValue ≤ alert.observedValue ∧
        alert.severity = if alert.observedValue ≥ exfilHigh then .HIGH else .MEDIUM

/-- An alert names the endpoints of its packet and says what the packet bears out. -/
structure About (cfg : Config) (info : PacketInfo) (alert : ThreatAlert) : Prop where
  inspected : Measurement.inspected info = true
  endpoints : alert.srcIp = info.srcIp ∧ alert.dstIp = info.dstIp ∧ alert.srcPort = info.srcPort ∧
    alert.dstPort = info.dstPort
  justified : Justified cfg info alert

section Rules
variable {alert : ThreatAlert}

theorem volumeDetection_about (looked : Measurement.inspected info = true)
    (h : volumeDetection info now d = some alert) : About d.config info alert := by
  obtain ⟨r, found, rfl⟩ := Option.map_eq_some_iff.mp h
  rw [updateEwma, result_onEntry] at found
  obtain ⟨bps, score⟩ : ∃ bps, PerIpEwmaProfile.score d.config.ewma r.observedPps bps r.baselinePps = some r := by
    unfold PerIpEwmaProfile.update at found
    dsimp only at found
    split at found
    · cases found
    · split at found
      · cases found
      · dsimp only at found
        have figures := found
        unfold PerIpEwmaProfile.score at figures
        dsimp only at figures
        split at figures
        · cases figures
          exact ⟨_, found⟩
        · split at figures
          · cases figures
            exact ⟨_, found⟩
          · cases figures
  refine ⟨looked, ⟨rfl, rfl, rfl, rfl⟩, rfl, ?_⟩
  unfold PerIpEwmaProfile.score at score
  dsimp only at score
  split at score
  · rename_i high
    refine .inl ⟨high, ?_⟩
    exact (congrArg EWMAResult.severity (Option.some.inj score)).symm
  · rename_i low
    split at score
    · rename_i medium
      refine .inr ⟨medium, not_le.mp low, ?_⟩
      exact (congrArg EWMAResult.severity (Option.some.inj score)).symm
    · cases score

theorem synFloodDetection_about (looked : Measurement.inspected info = true)
    (h : synFloodDetection info now d = some alert) : About d.config info alert := by
  unfold synFloodDetection at h
  split at h
  · rename_i tcp
    obtain ⟨r, found, rfl⟩ := Option.map_eq_some_iff.mp h
    rw [inspectSynFlood, result_onEntry] at found
    generalize ((synFloodField.read d).lookup info.srcIp).getD (.create now) = profile at found
    by_cases young : profile.ageAt ⟨info.tcpFlags, now⟩ < d.config.synFlood.windowSec
    · rw [PerIpSynProfile.inspect_young (p := ⟨info.tcpFlags, now⟩) young] at found
      cases found
    · rw [PerIpSynProfile.inspect_old (p := ⟨info.tcpFlags, now⟩) young] at found
      dsimp only [PerIpSynProfile.judge] at found
      split at found
      · cases found
      · rename_i fast
        split at found <;> cases found
        exact ⟨looked, ⟨rfl, rfl, rfl, rfl⟩, tcp, rfl, not_lt.mp fast, rfl⟩
  · cases h

theorem portScanDetection_about (looked : Measurement.inspected info = true)
    (h : portScanDetection info now d = some alert) : About d.config info alert := by
  unfold portScanDetection at h
  split at h
  · rename_i port
    obtain ⟨r, found, rfl⟩ := Option.map_eq_some_iff.mp h
    rw [inspectPortScan, result_onEntry] at found
    generalize ((portScanField.read d).lookup info.srcIp).getD (.create now) = profile at found
    generalize (if info.l4Proto = .TCP then info.tcpFlags else 0) = flags at found
    have verdict := congrArg Prod.fst
      (PerIpScanProfile.inspect_eq d.config.portScan profile ⟨info.dstPort, flags, now⟩)
    rw [found] at verdict
    dsimp only [PerIpScanProfile.judge] at verdict
    split at verdict
    · cases verdict
    · rename_i many
      split at verdict <;> cases verdict
      refine ⟨looked, ⟨rfl, rfl, rfl, rfl⟩, port, rfl, ?_, ?_⟩
      · exact Nat.cast_le.mpr (UInt32.le_iff_toNat_le.mp (UInt32.not_lt.mp many))
      · intro small
        dsimp only [portScanAlert, ThreatAlert.about]
        congr 1
        rw [ge_iff_le, UInt32.le_iff_toNat_le, double_toNat small, mul_comm]
        exact_mod_cast rfl
  · cases h

theorem bruteForceDetection_about (looked : Measurement.inspected info = true)
    (h : bruteForceDetection info now d = some alert) : About d.config info alert := by
  unfold bruteForceDetection at h
  split at h
  · rename_i watched
    obtain ⟨rate, found, rfl⟩ := Option.map_eq_some_iff.mp h
    obtain ⟨-, fast⟩ := Option.filter_eq_some_iff.mp found
    exact ⟨looked, ⟨rfl, rfl, rfl, rfl⟩, watched.1, watched.2, rfl, of_decide_eq_true fast, rfl⟩
  · cases h

theorem dnsDetection_about (looked : Measurement.inspected info = true) (h : dnsDetection info now d = some alert) :
    About d.config info alert := by
  have long (found : longNameDetection info d = some alert) : About d.config info alert := by
    obtain ⟨dns, kept, rfl⟩ := Option.map_eq_some_iff.mp found
    obtain ⟨some, name⟩ := Option.filter_eq_some_iff.mp kept
    exact ⟨looked, ⟨rfl, rfl, rfl, rfl⟩, rfl, dns, some, .inl ⟨name, rfl⟩⟩
  have txt (found : txtRateDetection info now d = some alert) : About d.config info alert := by
    unfold txtRateDetection at found
    split at found
    · rename_i query
      obtain ⟨dns, some, type⟩ := (Option.any_eq_true _ _).mp query.1
      obtain ⟨rate, kept, rfl⟩ := Option.map_eq_some_iff.mp found
      obtain ⟨-, fast⟩ := Option.filter_eq_some_iff.mp kept
      exact ⟨looked, ⟨rfl, rfl, rfl, rfl⟩, rfl, dns, some, .inr ⟨of_decide_eq_true type, rfl, of_decide_eq_true fast⟩⟩
    · cases found
  unfold dnsDetection at h
  split at h
  · exact txt h
  · rcases Option.or_eq_some_iff.mp h with found | ⟨-, found⟩
    · exact long found
    · exact txt found

theorem exfilDetection_about (looked : Measurement.inspected info = true)
    (h : exfilDetection info now d = some alert) : About d.config info alert := by
  unfold exfilDetection at h
  split at h
  · rename_i payload
    obtain ⟨bps, found, rfl⟩ := Option.map_eq_some_iff.mp h
    obtain ⟨-, fast⟩ := Option.filter_eq_some_iff.mp found
    exact ⟨looked, ⟨rfl, rfl, rfl, rfl⟩, payload, rfl, of_decide_eq_true fast, rfl⟩
  · cases h

end Rules

theorem verdicts_about {f : Fired} (mem : f ∈ verdicts info now d) : f.at_ = now ∧ About d.config info f.alert := by
  obtain ⟨looked, at_, detected, -⟩ := mem_verdicts mem
  refine ⟨at_, ?_⟩
  simp only [detections, List.mem_append, Option.mem_toList] at detected
  rcases detected with ((((volume | syn) | scan) | brute) | dns) | exfil
  · exact volumeDetection_about looked volume
  · exact synFloodDetection_about looked syn
  · exact portScanDetection_about looked scan
  · exact bruteForceDetection_about looked brute
  · exact dnsDetection_about looked dns
  · exact exfilDetection_about looked exfil

/-- Every alert of a run is about a packet of the run. -/
theorem delivered_about {cfg : Config} {packets : List Timed} {f : Fired} (mem : f ∈ (inspectAll cfg packets).delivered) :
    ∃ p ∈ packets, f.at_ = p.now ∧ About cfg p.info f.alert := by
  obtain ⟨before, p, later, rfl, found⟩ := mem_delivered mem
  have about := verdicts_about found
  rw [inspectAll_config] at about
  exact ⟨p, by simp, about⟩

end ThreatDetector

end Nte
