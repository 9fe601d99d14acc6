import NetworkThreatEngine.Detect.Verdicts
import NetworkThreatEngine.Dissector.Network
import NetworkThreatEngine.Lib.InetText

/-!
# The rows of the database

`persist_alert` binds each text by its `c_str()` and a negative length, so that a text ends with its first zero byte.
Addresses and the texts of most rules have none; the name in a DNS query may.
-/
namespace Nte
open Numeral InetText ByteReader ByteReader.Outcome

def severityToString : Severity → Octets
  | .LOW => ascii "LOW"
  | .MEDIUM => ascii "MEDIUM"
  | .HIGH => ascii "HIGH"
  | .CRITICAL => ascii "CRITICAL"

def severityFromString (s : Octets) : Severity :=
  if s = ascii "CRITICAL" then .CRITICAL
  else if s = ascii "HIGH" then .HIGH
  else if s = ascii "MEDIUM" then .MEDIUM
  else .LOW

def attackTypeToString : AttackType → Octets
  | .UNKNOWN => ascii "UNKNOWN"
  | .VOLUME_ANOMALY => ascii "VOLUME_ANOMALY"
  | .SYN_FLOOD => ascii "SYN_FLOOD"
  | .PORT_SCAN => ascii "PORT_SCAN"
  | .BRUTE_FORCE => ascii "BRUTE_FORCE"
  | .DNS_TUNNELING => ascii "DNS_TUNNELING"
  | .DATA_EXFILTRATION => ascii "DATA_EXFILTRATION"

/-- The columns of an insert, but for the time of day. -/
structure AlertRow where
  threatType : Octets
  srcIp : Octets
  dstIp : Octets
  srcPort : Int
  dstPort : Int
  severity : Octets
  description : Octets
  observed : ℚ
  baseline : ℚ
  threshold : ℚ
  deriving DecidableEq, Repr

def ThreatAlert.row (a : ThreatAlert) : AlertRow where
  threatType := attackTypeToString a.attackType
  srcIp := cString a.srcIp
  dstIp := cString a.dstIp
  srcPort := a.srcPort.toNat
  dstPort := a.dstPort.toNat
  severity := severityToString a.severity
  description := cString a.evidenceSummary
  observed := a.observedValue
  baseline := a.baselineValue
  threshold := a.thresholdValue

/-! ## Texts without a zero byte -/

def Clean (s : Octets) : Prop := 0 ∉ s

instance (s : Octets) : Decidable (Clean s) := inferInstanceAs (Decidable (0 ∉ s))

theorem cString_eq_self {s : Octets} : cString s = s ↔ Clean s := by
  rw [cString, List.takeWhile_eq_self_iff]
  simp only [bne_iff_ne, Clean]
  constructor
  · intro all mem
    exact all 0 mem rfl
  · intro clean c mem zero
    exact clean (zero ▸ mem)

theorem cString_append {s : Octets} (clean : Clean s) (rest : Octets) : cString (s ++ rest) = s ++ cString rest := by
  refine List.takeWhile_append_of_pos fun c mem => ?_
  rw [bne_iff_ne]
  rintro rfl
  exact clean mem

theorem clean_append {s t : Octets} : Clean (s ++ t) ↔ Clean s ∧ Clean t := by
  simp only [Clean, List.mem_append, not_or]

theorem clean_nil : Clean [] := List.not_mem_nil

theorem clean_numeral {b : Nat} (least : 1 < b) (most : b ≤ 16) (n : Nat) : Clean (numeral b n) := by
  intro zero
  obtain ⟨d, value, -⟩ := isDigit_iff.mp (numeral_isDigit least most zero)
  cases value

theorem clean_decimal (n : Nat) : Clean (numeral 10 n) := clean_numeral (by decide) (by decide) n

theorem clean_fixedPoint (precision : Nat) (q : ℚ) : Clean (fixedPoint precision q) := by
  have sign : Clean (if q < 0 then ascii "-" else []) := by
    split
    · decide
    · exact clean_nil
  have padding (n : Nat) : Clean (List.replicate n 48) := by
    intro zero
    exact absurd (List.eq_of_mem_replicate zero) (by decide)
  have point : Clean (ascii ".") := by decide
  unfold fixedPoint
  dsimp only
  refine clean_append.mpr ⟨clean_append.mpr ⟨sign, clean_decimal _⟩, ?_⟩
  split
  · exact clean_nil
  · exact clean_append.mpr ⟨clean_append.mpr ⟨point, padding _⟩, clean_decimal _⟩

theorem clean_formatIpv4 (addr : UInt32) : Clean (formatIpv4 addr) := by
  have other : (0 : UInt8) ≠ dot := by decide
  have field (n : Nat) : 0 ∉ numeral 10 n := clean_decimal n
  simp only [Clean, formatIpv4, List.mem_append, List.mem_cons, field, other, or_self, not_false_eq_true]

theorem clean_joinGroups (groups : List UInt16) : Clean (joinGroups groups) := by
  have group (g : UInt16) : Clean (numeral 16 g.toNat) := clean_numeral (by decide) (by decide) g.toNat
  have separator : Clean [colon] := by decide
  unfold joinGroups
  induction groups with
  | nil => exact clean_nil
  | cons g groups ih =>
      cases groups with
      | nil =>
          rw [List.map_singleton, List.intercalate_singleton]
          exact group g
      | cons next groups =>
          rw [List.map_cons, List.map_cons, List.intercalate_cons_cons]
          exact clean_append.mpr ⟨clean_append.mpr ⟨group g, separator⟩, ih⟩

theorem clean_formatIpv6 (addr : Octets) : Clean (formatIpv6 addr) := by
  have gap : Clean [colon, colon] := by decide
  rw [formatIpv6_text]
  cases elidedRun ((ipv6Groups addr).map (· == 0)) with
  | none => exact clean_joinGroups _
  | some run =>
      exact clean_append.mpr ⟨clean_append.mpr ⟨clean_joinGroups _, gap⟩, clean_joinGroups _⟩

/-! ## The addresses of a packet -/

def CleanAddresses (info : PacketInfo) : Prop := Clean info.srcIp ∧ Clean info.dstIp

theorem CleanAddresses.of_network {info result : PacketInfo} (h : CleanAddresses info)
    (same : result.network = info.network) : CleanAddresses result := by
  obtain ⟨-, src, dst⟩ : result.l3Proto = info.l3Proto ∧ result.srcIp = info.srcIp ∧ result.dstIp = info.dstIp := by
    simpa [PacketInfo.network] using same
  unfold CleanAddresses
  rw [src, dst]
  exact h

section Layers
variable (data : Octets) (len off : Nat) {info : PacketInfo} (blank : CleanAddresses info)
include blank

theorem dissectIpv4_clean : Ensures (dissectIpv4 data len off info) CleanAddresses := by
  unfold dissectIpv4
  refine Ensures.ite (fun _ => ensures_ok blank) fun _ => ?_
  refine Ensures.bind fun ip _ => ?_
  refine Ensures.ite (fun _ => ensures_ok blank) fun _ => ?_
  refine Ensures.ite (fun _ => ensures_ok blank) fun _ => ?_
  have header : CleanAddresses (info.withIpv4 ip) := ⟨clean_formatIpv4 _, clean_formatIpv4 _⟩
  exact (dissectIpv4L4_keepsNetwork (info.withIpv4 ip) data len _ ip).mono fun _ => header.of_network

theorem dissectIpv6_clean : Ensures (dissectIpv6 data len off info) CleanAddresses := by
  unfold dissectIpv6
  refine Ensures.ite (fun _ => ensures_ok blank) fun _ => ?_
  refine Ensures.bind fun ip6 _ => ?_
  refine Ensures.ite (fun _ => ensures_ok blank) fun _ => ?_
  have header : CleanAddresses (info.withIpv6 ip6) := ⟨clean_formatIpv6 _, clean_formatIpv6 _⟩
  exact (dissectIpv6L4_keepsNetwork (info.withIpv6 ip6) data len _ ip6).mono fun _ => header.of_network

theorem dissectL3_clean : Ensures (dissectL3 data len off info) CleanAddresses := by
  unfold dissectL3
  refine Ensures.ite (fun _ => dissectIpv4_clean data len off blank) fun _ => ?_
  refine Ensures.ite (fun _ => dissectIpv6_clean data len off blank) fun _ => ?_
  exact Ensures.ite (fun _ => ensures_ok blank) fun _ => ensures_ok blank

end Layers

theorem dissect_clean (c : Capture) : CleanAddresses (dissect c) := by
  have blank : ∀ {info : PacketInfo}, info.srcIp = [] → info.dstIp = [] → CleanAddresses info := by
    intro info src dst
    unfold CleanAddresses
    rw [src, dst]
    exact ⟨clean_nil, clean_nil⟩
  have whole : Ensures (dissectPacket c.toCapturedPacket) CleanAddresses := by
    unfold dissectPacket
    refine Ensures.ite (fun _ => ensures_ok (blank rfl rfl)) fun _ => ?_
    unfold dissectEthernet
    refine Ensures.ite (fun _ => ensures_ok (blank rfl rfl)) fun _ => ?_
    refine Ensures.bind fun eth _ => ?_
    refine Ensures.ite (fun _ => ?_) fun _ => dissectL3_clean _ _ _ (blank rfl rfl)
    refine Ensures.ite (fun _ => ensures_ok (blank rfl rfl)) fun _ => ?_
    exact Ensures.bind fun innerType _ => dissectL3_clean _ _ _ (blank rfl rfl)
  exact whole _ (dissectPacket_capture c)

/-! ## The texts of the rules -/

namespace ThreatDetector
variable {info : PacketInfo} {now : TimePoint} {d : ThreatDetector} {alert : ThreatAlert}

theorem clean_portToServiceName (port : UInt16) : Clean (portToServiceName port) := by
  unfold portToServiceName
  repeat' split
  all_goals decide

/-- Only the name of a DNS query can bring a zero byte into a text. -/
theorem detections_clean (mem : alert ∈ detections info now d) :
    Clean alert.evidenceSummary ∨ ∃ dns, info.dns = some dns ∧ alert = longNameAlert info dns.queryName := by
  simp only [detections, List.mem_append, Option.mem_toList] at mem
  rcases mem with ((((volume | syn) | scan) | brute) | name) | exfil
  · obtain ⟨r, -, rfl⟩ := Option.map_eq_some_iff.mp volume
    refine .inl ?_
    simp only [volumeAlert, ThreatAlert.about, clean_append, clean_fixedPoint, and_true]
    decide
  · unfold synFloodDetection at syn
    split at syn
    · obtain ⟨r, -, rfl⟩ := Option.map_eq_some_iff.mp syn
      refine .inl ?_
      simp only [synFloodAlert, ThreatAlert.about, clean_append, clean_fixedPoint, clean_decimal, and_true]
      decide
    · cases syn
  · unfold portScanDetection at scan
    split at scan
    · obtain ⟨r, -, rfl⟩ := Option.map_eq_some_iff.mp scan
      refine .inl ?_
      simp only [portScanAlert, ThreatAlert.about, clean_append, clean_fixedPoint, clean_decimal, and_true]
      decide
    · cases scan
  · unfold bruteForceDetection at brute
    split at brute
    · obtain ⟨rate, -, rfl⟩ := Option.map_eq_some_iff.mp brute
      refine .inl ?_
      simp only [bruteForceAlert, ThreatAlert.about, clean_append, clean_fixedPoint, clean_decimal,
        clean_portToServiceName, and_true]
      decide
    · cases brute
  · have long (found : longNameDetection info d = some alert) :
        ∃ dns, info.dns = some dns ∧ alert = longNameAlert info dns.queryName := by
      obtain ⟨dns, kept, rfl⟩ := Option.map_eq_some_iff.mp found
      exact ⟨dns, (Option.filter_eq_some_iff.mp kept).1, rfl⟩
    have txt (found : txtRateDetection info now d = some alert) : Clean alert.evidenceSummary := by
      unfold txtRateDetection at found
      split at found
      · obtain ⟨rate, -, rfl⟩ := Option.map_eq_some_iff.mp found
        simp only [txtRateAlert, ThreatAlert.about, clean_append, clean_fixedPoint, and_true]
        decide
      · cases found
    unfold dnsDetection at name
    split at name
    · exact .inl (txt name)
    · rcases Option.or_eq_some_iff.mp name with found | ⟨-, found⟩
      · exact .inr (long found)
      · exact .inl (txt found)
  · unfold exfilDetection at exfil
    split at exfil
    · obtain ⟨bps, -, rfl⟩ := Option.map_eq_some_iff.mp exfil
      refine .inl ?_
      simp only [exfilAlert, ThreatAlert.about, clean_append, clean_fixedPoint, and_true]
      decide
    · cases exfil

/-- The text of a long name, up to the name. -/
def longNameText (qname : Octets) : Octets :=
  ascii "Suspicious DNS: len=" ++ numeral 10 qname.length ++ ascii " max_label=" ++ numeral 10 (maxLabel qname) ++ ascii " q="

theorem clean_longNameText (qname : Octets) : Clean (longNameText qname) := by
  simp only [longNameText, clean_append, clean_decimal, and_true]
  decide

theorem longNameAlert_evidence (info : PacketInfo) (qname : Octets) :
    (longNameAlert info qname).evidenceSummary = longNameText qname ++ qname := rfl

end ThreatDetector

/-! ## Reading a row -/

theorem severityFromString_toString (s : Severity) : severityFromString (severityToString s) = s := by
  cases s <;> decide

theorem attackTypeToString_injective : Function.Injective attackTypeToString := by
  intro s t
  cases s <;> cases t <;> decide

/-- What can be read off the row of an alert about a packet. The name of a query may be cut short. -/
structure ReadBack (info : PacketInfo) (alert : ThreatAlert) : Prop where
  severity : severityFromString alert.row.severity = alert.severity
  addresses : alert.row.srcIp = info.srcIp ∧ alert.row.dstIp = info.dstIp
  ports : alert.row.srcPort = info.srcPort.toNat ∧ alert.row.dstPort = info.dstPort.toNat
  description : alert.row.description = alert.evidenceSummary ∨
    ∃ dns, info.dns = some dns ∧ 0 ∈ dns.queryName ∧ alert.attackType = .DNS_TUNNELING ∧
      alert.evidenceSummary = ThreatDetector.longNameText dns.queryName ++ dns.queryName ∧
        alert.row.description = ThreatDetector.longNameText dns.queryName ++ cString dns.queryName

theorem readBack {cfg : Config} {info : PacketInfo} {now : TimePoint} {d : ThreatDetector} {alert : ThreatAlert}
    (clean : CleanAddresses info) (detected : alert ∈ ThreatDetector.detections info now d)
    (about : ThreatDetector.About cfg info alert) : ReadBack info alert := by
  obtain ⟨src, dst, srcPort, dstPort⟩ := about.endpoints
  refine ⟨severityFromString_toString alert.severity, ?_, ?_, ?_⟩
  · rw [ThreatAlert.row, src, dst]
    exact ⟨cString_eq_self.mpr clean.1, cString_eq_self.mpr clean.2⟩
  · rw [ThreatAlert.row, srcPort, dstPort]
    exact ⟨rfl, rfl⟩
  · rcases ThreatDetector.detections_clean detected with plain | ⟨dns, query, rfl⟩
    · exact .inl (cString_eq_self.mpr plain)
    · by_cases zero : 0 ∈ dns.queryName
      · refine .inr ⟨dns, query, zero, rfl, rfl, ?_⟩
        exact cString_append (ThreatDetector.clean_longNameText dns.queryName) dns.queryName
      · refine .inl (cString_eq_self.mpr ?_)
        rw [ThreatDetector.longNameAlert_evidence]
        exact clean_append.mpr ⟨ThreatDetector.clean_longNameText dns.queryName, zero⟩

/-- But for texts cut short, different alerts have different rows. -/
theorem ReadBack.row_injective {info info' : PacketInfo} {a b : ThreatAlert} (ha : ReadBack info a) (hb : ReadBack info' b)
    (endpoints : a.srcIp = info.srcIp ∧ a.dstIp = info.dstIp) (endpoints' : b.srcIp = info'.srcIp ∧ b.dstIp = info'.dstIp)
    (whole : a.row.description = a.evidenceSummary) (whole' : b.row.description = b.evidenceSummary)
    (same : a.row = b.row) : a = b := by
  have severity := congrArg severityFromString (congrArg AlertRow.severity same)
  rw [ha.severity, hb.severity] at severity
  have type := attackTypeToString_injective (congrArg AlertRow.threatType same)
  have src := congrArg AlertRow.srcIp same
  rw [ha.addresses.1, hb.addresses.1, ← endpoints.1, ← endpoints'.1] at src
  have dst := congrArg AlertRow.dstIp same
  rw [ha.addresses.2, hb.addresses.2, ← endpoints.2, ← endpoints'.2] at dst
  have srcPort := UInt16.toNat_inj.mp (Int.ofNat_inj.mp (congrArg AlertRow.srcPort same))
  have dstPort := UInt16.toNat_inj.mp (Int.ofNat_inj.mp (congrArg AlertRow.dstPort same))
  have description := congrArg AlertRow.description same
  rw [whole, whole'] at description
  have observed : a.observedValue = b.observedValue := congrArg AlertRow.observed same
  have baseline : a.baselineValue = b.baselineValue := congrArg AlertRow.baseline same
  have threshold : a.thresholdValue = b.thresholdValue := congrArg AlertRow.threshold same
  cases a
  cases b
  dsimp only at severity type src dst srcPort dstPort description observed baseline threshold
  subst severity type src dst srcPort dstPort description observed baseline threshold
  rfl

end Nte
