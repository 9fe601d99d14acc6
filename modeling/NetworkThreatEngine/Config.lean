import Mathlib

/-!
# Configuration and compile-time constants

The tunable sub-configurations with their defaults, and the wire constants. A `double`
is the rational it stands for: rates, ratios and window lengths are computed exactly.
-/
namespace Nte

/-- A `std::string` or raw memory: bytes without an encoding. -/
abbrev Octets := List UInt8

def ascii (s : String) : Octets := s.toList.map fun c => UInt8.ofNat c.toNat

structure RingBufferConfig where
  maxCapacity : Nat := 10000
  deriving DecidableEq, Repr

structure FlowTrackerConfig where
  tcpFlowTimeoutSec : ℚ := 120
  udpFlowTimeoutSec : ℚ := 30
  reaperIntervalSec : ℚ := 15
  maxFlows : Nat := 500000
  deriving DecidableEq, Repr

structure EWMAConfig where
  alpha : ℚ := 1 / 8
  staleResetSec : ℚ := 60
  minWindowSec : ℚ := 1
  mediumMultiplier : ℚ := 4
  highMultiplier : ℚ := 8
  ppsFloor : ℚ := 1
  deriving DecidableEq, Repr

structure PortScanConfig where
  windowSec : ℚ := 10
  distinctPortThreshold : UInt32 := 20
  synOnlyRatio : ℚ := 7 / 10
  deriving DecidableEq, Repr

structure SynFloodConfig where
  synRatePps : ℚ := 50
  synRatio : ℚ := 17 / 20
  windowSec : ℚ := 1
  deriving DecidableEq, Repr

structure BruteForceConfig where
  ratePps : ℚ := 20
  sensitivePorts : List UInt16 := [22, 23, 21, 25, 110, 143, 3389, 5900]
  deriving DecidableEq, Repr

structure DnsTunnelingConfig where
  maxLabelLength : Nat := 40
  maxFqdnLength : Nat := 100
  txtRatePps : ℚ := 5
  deriving DecidableEq, Repr

structure DeliveryConfig where
  alertSuppressionSec : ℚ := 5
  deriving DecidableEq, Repr

structure Config where
  ringBuffer : RingBufferConfig := {}
  flowTracker : FlowTrackerConfig := {}
  ewma : EWMAConfig := {}
  portScan : PortScanConfig := {}
  synFlood : SynFloodConfig := {}
  bruteForce : BruteForceConfig := {}
  dnsTunneling : DnsTunnelingConfig := {}
  delivery : DeliveryConfig := {}
  deriving DecidableEq, Repr

namespace Constants

def DNS_HEADER_SIZE : Nat := 12
def DNS_MAX_LABEL_HOPS : Nat := 128
def DNS_QTYPE_TXT : UInt16 := 16

def ETHERTYPE_IPV4 : UInt16 := 0x0800
def ETHERTYPE_IPV6 : UInt16 := 0x86DD
def ETHERTYPE_ARP : UInt16 := 0x0806
def ETHERTYPE_VLAN : UInt16 := 0x8100

def IPPROTO_ICMP_V4 : UInt8 := 1
def IPPROTO_TCP_NUM : UInt8 := 6
def IPPROTO_UDP_NUM : UInt8 := 17
def IPPROTO_ICMPV6 : UInt8 := 58

def TCP_FLAG_FIN : UInt8 := 0x01
def TCP_FLAG_SYN : UInt8 := 0x02
def TCP_FLAG_RST : UInt8 := 0x04
def TCP_FLAG_PSH : UInt8 := 0x08
def TCP_FLAG_ACK : UInt8 := 0x10

def PORT_DNS : UInt16 := 53
def PORT_HTTP : UInt16 := 80
def PORT_HTTPS : UInt16 := 443

def TLS_CONTENT_HANDSHAKE : UInt8 := 0x16
def TLS_HANDSHAKE_CLIENT_HELLO : UInt8 := 0x01
def TLS_EXTENSION_SNI : UInt16 := 0x0000

end Constants

/-! ## The steady clock -/

/-- A `steady_clock::time_point`: nanoseconds since the clock's epoch. -/
abbrev TimePoint := ℤ

/-- `duration<double>(later - earlier).count()`. -/
def secondsBetween (later earlier : TimePoint) : ℚ := ((later - earlier : ℤ) : ℚ) / 1000000000

@[simp] theorem secondsBetween_self (t : TimePoint) : secondsBetween t t = 0 := by
  simp [secondsBetween]

theorem secondsBetween_mono_later {a b t : TimePoint} (h : a ≤ b) :
    secondsBetween a t ≤ secondsBetween b t := by
  have hcast : ((a - t : ℤ) : ℚ) ≤ ((b - t : ℤ) : ℚ) := by exact_mod_cast Int.sub_le_sub_right h t
  exact div_le_div_of_nonneg_right hcast (by norm_num)

theorem secondsBetween_mono {a b t : TimePoint} (h : a ≤ b) :
    secondsBetween t b ≤ secondsBetween t a := by
  have hcast : ((t - b : ℤ) : ℚ) ≤ ((t - a : ℤ) : ℚ) := by exact_mod_cast Int.sub_le_sub_left h t
  exact div_le_div_of_nonneg_right hcast (by norm_num)

end Nte
