import NetworkThreatEngine.Detect.ThreatDetector

/-!
# Inspections as attempts

A rule that detects something attempts an alert, and the attempt goes through unless an alert of
the same source and type is too recent. Each stage of an inspection changes one store and makes
one attempt.
-/
namespace Nte
open StateRules Constants

namespace ThreatDetector

/-- The time the suppression table holds for a source and a type. -/
def lastFired (d : ThreatDetector) (src : Octets) (type : AttackType) : Option TimePoint :=
  (d.suppression.lookup src).bind fun s => s.lastFired.lookup type

theorem isSuppressed_eq (d : ThreatDetector) (src : Octets) (type : AttackType) (now : TimePoint) :
    d.isSuppressed src type now =
      (d.lastFired src type).any fun last => secondsBetween now last < d.config.delivery.alertSuppressionSec := by
  unfold isSuppressed lastFired PerIpSuppressionState.isSuppressed
  cases d.suppression.lookup src with
  | none => rfl
  | some s =>
      dsimp only [Option.bind_some]
      cases s.lastFired.lookup type <;> rfl

theorem lastFired_fired (d : ThreatDetector) (alert : ThreatAlert) (now : TimePoint) (src : Octets)
    (type : AttackType) :
    (d.fired alert now).lastFired src type =
      if src = alert.srcIp ∧ type = alert.attackType then some now else d.lastFired src type := by
  change ((d.suppression.insert alert.srcIp _).lookup src).bind _ = _
  by_cases hsrc : src = alert.srcIp
  · subst hsrc
    rw [AList.lookup_insert, Option.bind_some, PerIpSuppressionState.record]
    by_cases htype : type = alert.attackType
    · rw [if_pos ⟨rfl, htype⟩, htype, AList.lookup_insert]
    · rw [if_neg fun h => htype h.2, AList.lookup_insert_ne htype, lastFired]
      cases d.suppression.lookup alert.srcIp <;> rfl
  · rw [if_neg fun h => hsrc h.1, AList.lookup_insert_ne hsrc, lastFired]

/-! ## Attempts -/

/-- What a detection comes to. -/
def attempt (now : TimePoint) (d : ThreatDetector) : Option ThreatAlert → ThreatDetector
  | none => d
  | some alert => if d.isSuppressed alert.srcIp alert.attackType now then d else d.fired alert now

/-- The program changes one store and then attempts what it detected. -/
def Attempts {ε : Type} (field : Field ε) (detect : ThreatDetector → Option ThreatAlert) (now : TimePoint)
    (x : StateM ThreatDetector Unit) : Prop :=
  ∀ d, ∃ store, after x d = attempt now (field.write d store) (detect d)

theorem after_unlessSuppressed (d : ThreatDetector) (src : Octets) (type : AttackType) (now : TimePoint)
    (alert : Config → ThreatAlert) :
    after (unlessSuppressed src type now fun cfg => fire (alert cfg) now) d =
      if d.isSuppressed src type now then d else d.fired (alert d.config) now := by
  simp only [unlessSuppressed, after_bind, result_query, after_query]
  exact after_ite (pure ()) (fire (alert d.config) now) d

theorem after_ifAtLeast (d : ThreatDetector) (rate least : ℚ) {src : Octets} {type : AttackType}
    (now : TimePoint) (alert : Config → ℚ → ThreatAlert)
    (key : (alert d.config rate).srcIp = src ∧ (alert d.config rate).attackType = type) :
    after (if rate ≥ least then unlessSuppressed src type now fun cfg => fire (alert cfg rate) now
        else pure ()) d =
      attempt now d (((some rate).filter (· ≥ least)).map (alert d.config)) := by
  rw [after_ite, after_unlessSuppressed]
  by_cases h : rate ≥ least
  · rw [if_pos h, Option.filter_some_pos (by simpa using h), ← key.1, ← key.2]
    rfl
  · rw [if_neg h, Option.filter_some_neg (by simpa using h)]
    rfl

section Rules
variable (info : PacketInfo) (now : TimePoint) (d : ThreatDetector)

def volumeDetection : Option ThreatAlert :=
  (result (updateEwma info.srcIp info.ipTotalLength.toNat now) d).map (volumeAlert d.config info)

def synFloodDetection : Option ThreatAlert :=
  if info.l4Proto = .TCP then
    (result (inspectSynFlood info.srcIp info.tcpFlags now) d).map (synFloodAlert d.config info)
  else none

def portScanDetection : Option ThreatAlert :=
  if info.dstPort ≠ 0 then
    (result (inspectPortScan info.srcIp info.dstPort (if info.l4Proto = .TCP then info.tcpFlags else 0) now)
      d).map (portScanAlert d.config info)
  else none

def bruteForceDetection : Option ThreatAlert :=
  if info.dstPort ≠ 0 ∧ isSensitivePort d.config.bruteForce info.dstPort then
    ((result (hitPortWindow info.srcIp info.dstPort now) d).filter (· ≥ d.config.bruteForce.ratePps)).map
      (bruteForceAlert d.config info)
  else none

def longNameDetection : Option ThreatAlert :=
  (info.dns.filter fun dns => longName d.config.dnsTunneling dns.queryName).map fun dns =>
    longNameAlert info dns.queryName

/-- A long name whose alert goes through keeps the TXT rule from being looked at. -/
def txtRateDetection : Option ThreatAlert :=
  if (info.dns.any fun dns => dns.queryType = DNS_QTYPE_TXT) ∧
      ¬ ((longNameDetection info d).isSome ∧ d.isSuppressed info.srcIp .DNS_TUNNELING now = false) then
    ((result (hitTxtWindow info.srcIp now) d).filter (· ≥ d.config.dnsTunneling.txtRatePps)).map
      (txtRateAlert d.config info)
  else none

def exfilDetection : Option ThreatAlert :=
  if info.l7PayloadLength > 0 then
    ((result (addExfil info.srcIp info.l7PayloadLength now) d).filter (· ≥ exfilMedium)).map
      (exfilAlert info)
  else none

/-- Of the two DNS rules the one that gets to attempt its alert. -/
def dnsDetection : Option ThreatAlert :=
  if d.isSuppressed info.srcIp .DNS_TUNNELING now then txtRateDetection info now d
  else (longNameDetection info d).or (txtRateDetection info now d)

end Rules

/-! ## Every stage is one attempt -/

section Stages
variable (info : PacketInfo) (now : TimePoint)

theorem onEntry_spec {ε β : Type} (field : Field ε) (src : Octets) (f : Config → Option ε → β × ε)
    (d : ThreatDetector) : ∃ store, after (onEntry field src f) d = field.write d store :=
  ⟨_, rfl⟩

theorem inspectVolume_attempts :
    Attempts ewmaField (volumeDetection info now) now (inspectVolume info now) := by
  intro d
  obtain ⟨store, hstore⟩ := onEntry_spec ewmaField info.srcIp
    (fun cfg p => (p.getD (.create now)).update cfg.ewma info.ipTotalLength.toNat now) d
  refine ⟨store, ?_⟩
  rw [inspectVolume, after_bind, updateEwma, hstore, volumeDetection, updateEwma]
  cases result (onEntry ewmaField info.srcIp _) d with
  | none => rfl
  | some r => exact after_unlessSuppressed _ _ _ _ (volumeAlert · info r)

theorem inspectSyn_attempts :
    Attempts synFloodField (synFloodDetection info now) now (inspectSyn info now) := by
  intro d
  unfold inspectSyn synFloodDetection
  by_cases tcp : info.l4Proto = .TCP
  · obtain ⟨store, hstore⟩ := onEntry_spec synFloodField info.srcIp
      (fun cfg p => (p.getD (.create now)).inspect cfg.synFlood info.tcpFlags now) d
    refine ⟨store, ?_⟩
    rw [if_pos tcp, if_pos tcp, after_bind, inspectSynFlood, hstore]
    cases result (onEntry synFloodField info.srcIp _) d with
    | none => rfl
    | some r => exact after_unlessSuppressed _ _ _ _ (synFloodAlert · info r)
  · exact ⟨d.synFlood, by rw [if_neg tcp, if_neg tcp]; rfl⟩

theorem inspectScan_attempts :
    Attempts portScanField (portScanDetection info now) now (inspectScan info now) := by
  intro d
  unfold inspectScan portScanDetection
  by_cases port : info.dstPort ≠ 0
  · obtain ⟨store, hstore⟩ := onEntry_spec portScanField info.srcIp
      (fun cfg p => (p.getD (.create now)).inspect cfg.portScan info.dstPort
        (if info.l4Proto = .TCP then info.tcpFlags else 0) now) d
    refine ⟨store, ?_⟩
    rw [if_pos port, if_pos port, after_bind, inspectPortScan, hstore]
    cases result (onEntry portScanField info.srcIp _) d with
    | none => rfl
    | some r => exact after_unlessSuppressed _ _ _ _ (portScanAlert · info r)
  · exact ⟨d.portScan, by rw [if_neg port, if_neg port]; rfl⟩

theorem inspectBruteForce_attempts :
    Attempts bruteForceField (bruteForceDetection info now) now (inspectBruteForce info now) := by
  intro d
  unfold inspectBruteForce bruteForceDetection
  rw [after_bind, result_query, after_query]
  by_cases watched : info.dstPort ≠ 0 ∧ isSensitivePort d.config.bruteForce info.dstPort
  · obtain ⟨store, hstore⟩ := onEntry_spec bruteForceField info.srcIp
      (fun _ s => (s.getD {}).hit info.dstPort now) d
    refine ⟨store, ?_⟩
    rw [if_pos watched, if_pos watched, checkBruteForce, after_bind, hitPortWindow, hstore]
    cases result (onEntry bruteForceField info.srcIp _) d with
    | none => rfl
    | some rate => exact after_ifAtLeast (bruteForceField.write d store) rate _ now (bruteForceAlert · info) ⟨rfl, rfl⟩
  · exact ⟨d.bruteForceState, by rw [if_neg watched, if_neg watched]; rfl⟩

theorem checkTxtRate_spec (d : ThreatDetector) :
    ∃ store, after (checkTxtRate info now) d = attempt now (dnsTxtField.write d store)
      (((result (hitTxtWindow info.srcIp now) d).filter (· ≥ d.config.dnsTunneling.txtRatePps)).map
        (txtRateAlert d.config info)) := by
  obtain ⟨store, hstore⟩ := onEntry_spec dnsTxtField info.srcIp (fun _ w => (w.getD ⟨0, 0⟩).hit now) d
  refine ⟨store, ?_⟩
  rw [checkTxtRate, after_bind, hitTxtWindow, hstore]
  cases result (onEntry dnsTxtField info.srcIp _) d with
  | none => rfl
  | some rate => exact after_ifAtLeast (dnsTxtField.write d store) rate _ now (txtRateAlert · info) ⟨rfl, rfl⟩

theorem inspectDns_attempts : Attempts dnsTxtField (dnsDetection info now) now (inspectDns info now) := by
  intro d
  unfold inspectDns dnsDetection txtRateDetection longNameDetection
  cases info.dns with
  | none => exact ⟨d.dnsTxtState, by simp [attempt]; rfl⟩
  | some dns =>
      dsimp only
      rw [checkDnsTunneling, after_bind, after_bind, result_query, after_query, result_query, after_query,
        after_ite, after_ite]
      cases hlong : longName d.config.dnsTunneling dns.queryName with
      | true =>
          cases hsup : d.isSuppressed info.srcIp .DNS_TUNNELING now with
          | true =>
              by_cases txt : dns.queryType = DNS_QTYPE_TXT
              · simpa [txt] using checkTxtRate_spec info now d
              · exact ⟨d.dnsTxtState, by simp [txt, attempt]; rfl⟩
          | false =>
              refine ⟨d.dnsTxtState, ?_⟩
              have key : (dnsTxtField.write d d.dnsTxtState).isSuppressed
                  (longNameAlert info dns.queryName).srcIp (longNameAlert info dns.queryName).attackType now =
                    false := hsup
              simp [hlong, Option.filter_some, attempt, key]
              rfl
      | false =>
          by_cases txt : dns.queryType = DNS_QTYPE_TXT
          · simpa [txt, hlong, Option.filter_some] using checkTxtRate_spec info now d
          · exact ⟨d.dnsTxtState, by simp [txt, hlong, Option.filter_some, attempt]; rfl⟩

theorem inspectExfil_attempts : Attempts exfilField (exfilDetection info now) now (inspectExfil info now) := by
  intro d
  unfold inspectExfil exfilDetection
  by_cases payload : info.l7PayloadLength > 0
  · obtain ⟨store, hstore⟩ := onEntry_spec exfilField info.srcIp
      (fun _ w => (w.getD ⟨0, 0⟩).add info.l7PayloadLength now) d
    refine ⟨store, ?_⟩
    rw [if_pos payload, if_pos payload, checkDataExfiltration, after_bind, addExfil, hstore]
    cases result (onEntry exfilField info.srcIp _) d with
    | none => rfl
    | some bps => exact after_ifAtLeast (exfilField.write d store) bps _ now (fun _ => exfilAlert info) ⟨rfl, rfl⟩
  · exact ⟨d.exfilState, by rw [if_neg payload, if_neg payload]; rfl⟩

end Stages

end ThreatDetector

end Nte
