import NetworkThreatEngine.Lib.Numeral
import NetworkThreatEngine.Packet

/-!
# Alerts

What the detectors hand to the delivery layer, and the number formatting of their evidence texts.
-/
namespace Nte
open Numeral

inductive Severity where
  | LOW | MEDIUM | HIGH | CRITICAL
  deriving DecidableEq, Repr

inductive AttackType where
  | UNKNOWN | VOLUME_ANOMALY | SYN_FLOOD | PORT_SCAN | BRUTE_FORCE | DNS_TUNNELING | DATA_EXFILTRATION
  deriving DecidableEq, Repr

structure ThreatAlert where
  attackType : AttackType := .UNKNOWN
  severity : Severity := .LOW
  srcIp : Octets := []
  dstIp : Octets := []
  srcPort : UInt16 := 0
  dstPort : UInt16 := 0
  evidenceSummary : Octets := []
  observedValue : ℚ := 0
  baselineValue : ℚ := 0
  thresholdValue : ℚ := 0
  deriving DecidableEq, Repr

/-- The convenience constructor; source, destination and ports are the packet's. -/
def ThreatAlert.about (info : PacketInfo) (type : AttackType) (sev : Severity) (evidence : Octets) :
    ThreatAlert :=
  { attackType := type, severity := sev, srcIp := info.srcIp, dstIp := info.dstIp,
    srcPort := info.srcPort, dstPort := info.dstPort, evidenceSummary := evidence }

/-- An alert handed to `delivery_fire_alert`, with the time of the call. -/
structure Fired where
  alert : ThreatAlert
  at_ : TimePoint
  deriving DecidableEq, Repr

/-! ## Evidence texts -/

/-- The integer nearest to a non-negative rational, ties to even. -/
def roundHalfEven (q : ℚ) : Nat :=
  let n := q.floor.toNat
  let rest := q - n
  if rest < 1 / 2 then n else if rest > 1 / 2 then n + 1 else n + n % 2

/-- A number in stream format `std::fixed` with the given precision. -/
def fixedPoint (precision : Nat) (q : ℚ) : Octets :=
  let scaled := roundHalfEven (|q| * 10 ^ precision)
  let fraction := numeral 10 (scaled % 10 ^ precision)
  (if q < 0 then ascii "-" else []) ++ numeral 10 (scaled / 10 ^ precision) ++
    (if precision = 0 then []
      else ascii "." ++ List.replicate (precision - fraction.length) 48 ++ fraction)

example : fixedPoint 1 (59 / 4) = ascii "14.8" := by decide +kernel

end Nte
