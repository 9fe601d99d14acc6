import NetworkThreatEngine.Config

/-!
# Captured packets and the dissected view
-/
namespace Nte

inductive L3Protocol where
  | NONE | IPv4 | IPv6 | ARP | OTHER
  deriving DecidableEq, Repr

inductive L4Protocol where
  | NONE | TCP | UDP | ICMP | OTHER
  deriving DecidableEq, Repr

inductive L7Protocol where
  | NONE | DNS | HTTP | TLS | OTHER
  deriving DecidableEq, Repr

structure DnsInfo where
  queryName : Octets
  queryType : UInt16 := 0
  isResponse : Bool := false
  deriving DecidableEq, Repr

structure HttpInfo where
  method : Octets
  host : Octets
  uri : Octets
  deriving DecidableEq, Repr

structure TlsInfo where
  sni : Octets
  recordVersion : UInt16 := 0
  deriving DecidableEq, Repr

/-- Lengths are naturals: no sum of `uint32_t` lengths and offsets reaches the range of a 64-bit
`size_t`, so nothing below depends on their width. -/
structure CapturedPacket where
  data : Octets
  capturedLength : Nat
  originalLength : Nat
  timestampUs : Int
  deriving DecidableEq, Repr

/-- The capture constructor sizes the data vector to exactly `captured_length` bytes. -/
def CapturedPacket.WellSized (raw : CapturedPacket) : Prop := raw.data.length = raw.capturedLength

instance (raw : CapturedPacket) : Decidable raw.WellSized := inferInstanceAs (Decidable (_ = _))

/-- The packet whose capture is exactly `frame`, as the capturing constructor builds it. -/
def CapturedPacket.ofFrame (frame : Octets) (origLen : Nat) (tsUs : Int) : CapturedPacket :=
  ⟨frame, frame.length, origLen, tsUs⟩

/-- `l7Payload` is the payload pointer as an offset into the captured bytes. -/
structure PacketInfo where
  hasEthernet : Bool := false
  srcMac : Octets := List.replicate 6 0
  dstMac : Octets := List.replicate 6 0
  etherType : UInt16 := 0
  l3Proto : L3Protocol := .NONE
  srcIp : Octets := []
  dstIp : Octets := []
  ipProtoNum : UInt8 := 0
  ttlOrHopLimit : UInt8 := 0
  ipTotalLength : UInt16 := 0
  ipFragmented : Bool := false
  l4Proto : L4Protocol := .NONE
  srcPort : UInt16 := 0
  dstPort : UInt16 := 0
  tcpSeq : UInt32 := 0
  tcpAck : UInt32 := 0
  tcpFlags : UInt8 := 0
  tcpWindow : UInt16 := 0
  l7Proto : L7Protocol := .NONE
  dns : Option DnsInfo := none
  http : Option HttpInfo := none
  tls : Option TlsInfo := none
  l7Payload : Option Nat := none
  l7PayloadLength : Nat := 0
  timestampUs : Int := 0
  capturedLength : Nat := 0
  originalLength : Nat := 0
  valid : Bool := false
  truncated : Bool := false
  deriving DecidableEq, Repr

/-- The bytes the payload pointer and length denote. -/
def PacketInfo.payloadBytes (info : PacketInfo) (data : Octets) : Octets :=
  match info.l7Payload with
  | none => []
  | some off => (data.drop off).take info.l7PayloadLength

/-! ## Flag tests shared by the flow tracker and the detectors -/

def synSet (flags : UInt8) : Bool := flags &&& Constants.TCP_FLAG_SYN != 0
def ackSet (flags : UInt8) : Bool := flags &&& Constants.TCP_FLAG_ACK != 0

end Nte
