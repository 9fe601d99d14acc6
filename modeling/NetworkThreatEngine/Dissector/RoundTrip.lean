import NetworkThreatEngine.Dissector.Frames

/-!
# What is laid out is what is reported

A whole frame: link header, network header, transport header, payload. The dissector reports
every field as it was laid out; over IPv4 its payload slice is the payload.
-/
namespace Nte
open ByteReader ByteReader.Outcome Constants Numeral

/-- Over IPv6 the sum of payload length and header has to fit the 16-bit total length. -/
inductive NetworkHeader where
  | ipv4 (h : Ipv4Header)
  | ipv6 (h : Ipv6Header) (fits : h.payloadLength.toNat + sizeofIPv6 < 65536)

inductive TransportHeader where
  | tcp (h : TcpHeader)
  | udp (h : WireUDP)

structure Frame where
  link : LinkHeader
  network : NetworkHeader
  transport : TransportHeader
  payload : Octets

namespace TransportHeader

def protocol : TransportHeader → UInt8
  | tcp _ => IPPROTO_TCP_NUM
  | udp _ => IPPROTO_UDP_NUM

def l4Proto : TransportHeader → L4Protocol
  | tcp _ => .TCP
  | udp _ => .UDP

def encode : TransportHeader → Octets
  | tcp h => h.encode
  | udp h => h.encode

@[simp] theorem encode_tcp (h : TcpHeader) : (tcp h).encode = h.encode := rfl
@[simp] theorem encode_udp (h : WireUDP) : (udp h).encode = h.encode := rfl

def srcPort : TransportHeader → UInt16
  | tcp h => h.srcPort
  | udp h => h.srcPort

def dstPort : TransportHeader → UInt16
  | tcp h => h.dstPort
  | udp h => h.dstPort

/-- UDP has none of the four fields below; the report then keeps its zeros. -/
def seqNumber : TransportHeader → UInt32
  | tcp h => h.seqNumber
  | udp _ => 0

def ackNumber : TransportHeader → UInt32
  | tcp h => h.ackNumber
  | udp _ => 0

def flags : TransportHeader → UInt8
  | tcp h => h.flags
  | udp _ => 0

def windowSize : TransportHeader → UInt16
  | tcp h => h.windowSize
  | udp _ => 0

end TransportHeader

/-! ## The text of an address -/

/-- Dotted decimal: the four bytes in network order. -/
def ipv4Text (addr : UInt32) : Octets := [dot].intercalate ((put32 addr).map fun b => numeral 10 b.toNat)

/-- Hexadecimal groups, the first longest run of two or more zero groups elided. -/
def ipv6Text (addr : Octets) : Octets :=
  groupText (ipv6Groups addr) (elidedRun ((ipv6Groups addr).map (· == 0)))

theorem formatIpv4_text (addr : UInt32) : formatIpv4 addr = ipv4Text addr := by
  simp [formatIpv4, ipv4Text, put32, ipv4Octet_eq, List.intercalate]

namespace NetworkHeader

def l3Proto : NetworkHeader → L3Protocol
  | ipv4 _ => .IPv4
  | ipv6 _ _ => .IPv6

def etherType : NetworkHeader → UInt16
  | ipv4 _ => ETHERTYPE_IPV4
  | ipv6 _ _ => ETHERTYPE_IPV6

def hopLimit : NetworkHeader → UInt8
  | ipv4 h => h.ttl
  | ipv6 h _ => h.hopLimit

def totalLength : NetworkHeader → Nat
  | ipv4 h => h.totalLength.toNat
  | ipv6 h _ => h.payloadLength.toNat + 40

def fragmented : NetworkHeader → Bool
  | ipv4 h => h.moreFragments || decide (h.fragmentOffset.val ≠ 0)
  | ipv6 _ _ => false

def srcText : NetworkHeader → Octets
  | ipv4 h => ipv4Text h.srcAddr
  | ipv6 h _ => ipv6Text h.srcAddr

def dstText : NetworkHeader → Octets
  | ipv4 h => ipv4Text h.dstAddr
  | ipv6 h _ => ipv6Text h.dstAddr

end NetworkHeader

namespace Frame

def segment (f : Frame) : Octets := f.transport.encode ++ f.payload

def encode (f : Frame) : Octets :=
  match f.network with
  | .ipv4 h => ipv4Frame f.link f.transport.protocol f.segment h
  | .ipv6 h _ => ipv6Frame f.link f.transport.protocol f.segment h

/-- Every header field of the frame stands in the report as it was laid out. -/
structure ReportedIn (f : Frame) (info : PacketInfo) : Prop where
  valid : info.valid = true
  whole : info.truncated = false
  dstMac : info.dstMac = f.link.dstMac
  srcMac : info.srcMac = f.link.srcMac
  etherType : info.etherType = f.network.etherType
  l3Proto : info.l3Proto = f.network.l3Proto
  protocol : info.ipProtoNum = f.transport.protocol
  hopLimit : info.ttlOrHopLimit = f.network.hopLimit
  totalLength : info.ipTotalLength.toNat = f.network.totalLength
  fragmented : info.ipFragmented = f.network.fragmented
  srcIp : info.srcIp = f.network.srcText
  dstIp : info.dstIp = f.network.dstText
  l4Proto : info.l4Proto = f.transport.l4Proto
  srcPort : info.srcPort = f.transport.srcPort
  dstPort : info.dstPort = f.transport.dstPort
  seqNumber : info.tcpSeq = f.transport.seqNumber
  ackNumber : info.tcpAck = f.transport.ackNumber
  flags : info.tcpFlags = f.transport.flags
  windowSize : info.tcpWindow = f.transport.windowSize

/-- The report's header fields do not depend on the payload. -/
theorem ReportedIn.of_forgetL7 {f : Frame} {info base : PacketInfo} (hb : f.ReportedIn base)
    (h : info.forgetL7 = base.forgetL7) : f.ReportedIn info where
  valid := (congrArg PacketInfo.valid h).trans hb.valid
  whole := (congrArg PacketInfo.truncated h).trans hb.whole
  dstMac := (congrArg PacketInfo.dstMac h).trans hb.dstMac
  srcMac := (congrArg PacketInfo.srcMac h).trans hb.srcMac
  etherType := (congrArg PacketInfo.etherType h).trans hb.etherType
  l3Proto := (congrArg PacketInfo.l3Proto h).trans hb.l3Proto
  protocol := (congrArg PacketInfo.ipProtoNum h).trans hb.protocol
  hopLimit := (congrArg PacketInfo.ttlOrHopLimit h).trans hb.hopLimit
  totalLength := (congrArg (fun i => i.ipTotalLength.toNat) h).trans hb.totalLength
  fragmented := (congrArg PacketInfo.ipFragmented h).trans hb.fragmented
  srcIp := (congrArg PacketInfo.srcIp h).trans hb.srcIp
  dstIp := (congrArg PacketInfo.dstIp h).trans hb.dstIp
  l4Proto := (congrArg PacketInfo.l4Proto h).trans hb.l4Proto
  srcPort := (congrArg PacketInfo.srcPort h).trans hb.srcPort
  dstPort := (congrArg PacketInfo.dstPort h).trans hb.dstPort
  seqNumber := (congrArg PacketInfo.tcpSeq h).trans hb.seqNumber
  ackNumber := (congrArg PacketInfo.tcpAck h).trans hb.ackNumber
  flags := (congrArg PacketInfo.tcpFlags h).trans hb.flags
  windowSize := (congrArg PacketInfo.tcpWindow h).trans hb.windowSize

end Frame

/-! ## Through the transport layer -/

def PacketInfo.withTransport (info : PacketInfo) : TransportHeader → PacketInfo
  | .tcp h => info.withTcp h.wire
  | .udp h => info.withUdp h

/-- What the IPv4 dissector looks for behind the header. -/
def TransportHeader.ipv4App (payload : Octets) : TransportHeader → AppData
  | .tcp h => ipv4TcpApp h.srcPort h.dstPort payload
  | .udp h => udpApp h.srcPort h.dstPort payload

section Transport
variable (t : TransportHeader) (pre payload : Octets) (info : PacketInfo)

/-- Over IPv4 every payload is delivered. -/
theorem dissectIpv4L4_encode {ip : WireIPv4} (hp : ip.protocol = t.protocol) :
    dissectIpv4L4 (pre ++ (t.encode ++ payload)) (pre ++ (t.encode ++ payload)).length pre.length ip
        info =
      .ok ((info.withTransport t).deliver (pre ++ t.encode).length payload (t.ipv4App payload)) := by
  cases t with
  | tcp h =>
      have hlen := h.wire_headerBytes
      have hread : readTCP (h.encode ++ payload) 0 = .ok h.wire := by
        rw [TcpHeader.encode, List.append_assoc, readTCP_encode]
      have hfit : h.wire.headerBytes ≤ (h.encode ++ payload).length := by
        rw [hlen, List.length_append]
        exact Nat.le_add_right _ _
      have hdrop : (h.encode ++ payload).drop h.wire.headerBytes = payload := by
        rw [hlen, List.drop_left]
      refine (dissectIpv4L4_tcp pre _ info hp).trans ?_
      rw [TransportHeader.encode_tcp]
      rw [dissectIpv4Tcp_eq pre _ info hread h.headerBytes_ge hfit, hdrop, hlen, ← List.length_append]
      rfl
  | udp h =>
      have hread := readUDP_encode h payload
      have hfit : sizeofUDP ≤ (h.encode ++ payload).length := by
        rw [List.length_append, WireUDP.encode_length]
        exact Nat.le_add_right _ _
      have hdrop : (h.encode ++ payload).drop sizeofUDP = payload := by
        rw [← h.encode_length, List.drop_left]
      refine (dissectIpv4L4_udp pre _ info hp).trans ?_
      rw [TransportHeader.encode_udp]
      rw [dissectIpv4Udp_eq pre _ info hread hfit, hdrop, ← h.encode_length, ← List.length_append]
      rfl

/-- Over IPv6 the header fields are the same; the payload may go unrecorded. -/
theorem dissectIpv6L4_encode {ip6 : WireIPv6} (hp : ip6.nextHeader = t.protocol) :
    ∃ out, dissectIpv6L4 (pre ++ (t.encode ++ payload)) (pre ++ (t.encode ++ payload)).length
        pre.length ip6 info = .ok out ∧ out.forgetL7 = (info.withTransport t).forgetL7 := by
  cases t with
  | tcp h =>
      have hlen := h.wire_headerBytes
      have hread : readTCP (h.encode ++ payload) 0 = .ok h.wire := by
        rw [TcpHeader.encode, List.append_assoc, readTCP_encode]
      have hfit : h.wire.headerBytes ≤ (h.encode ++ payload).length := by
        rw [hlen, List.length_append]
        exact Nat.le_add_right _ _
      refine ⟨_, (dissectIpv6L4_tcp pre _ info hp (h.headerBytes_ge.trans hfit)).trans
        (dissectIpv6Tcp_eq pre _ info hread h.headerBytes_ge hfit), ?_⟩
      exact PacketInfo.forgetL7_deliver _ _ _ _
  | udp h =>
      have hread := readUDP_encode h payload
      have hfit : sizeofUDP ≤ (h.encode ++ payload).length := by
        rw [List.length_append, WireUDP.encode_length]
        exact Nat.le_add_right _ _
      refine ⟨_, (dissectIpv6L4_udp pre _ info hp hfit).trans (dissectIpv6Udp_eq pre _ info hread hfit), ?_⟩
      split
      · exact PacketInfo.forgetL7_deliver _ _ _ _
      · rfl

end Transport

/-! ## The whole frame -/

section Report
variable (l : LinkHeader) (t : TransportHeader) (payload : Octets) (origLen : Nat) (tsUs : Int)

theorem reported_ipv4 (h : Ipv4Header) :
    Frame.ReportedIn ⟨l, .ipv4 h, t, payload⟩
      ((ipv4Info l t.protocol (t.encode ++ payload) origLen tsUs h).withTransport t) := by
  have hfrag : (ipv4Info l t.protocol (t.encode ++ payload) origLen tsUs h).ipFragmented =
      (h.moreFragments || decide (h.fragmentOffset.val ≠ 0)) := by
    have hoff := h.wire_fragmentOffset t.protocol
    have hpos : ((h.wire t.protocol).fragmentOffset > 0) ↔ h.fragmentOffset.val ≠ 0 := by
      rw [gt_iff_lt, UInt16.lt_iff_toNat_lt, hoff, ← Nat.pos_iff_ne_zero]
      rfl
    rw [← h.wire_moreFragments t.protocol]
    exact congrArg ((h.wire t.protocol).moreFragments || ·) (decide_eq_decide.mpr hpos)
  cases t with
  | tcp tcp =>
      exact ⟨rfl, rfl, rfl, rfl, rfl, rfl, rfl, rfl, rfl, hfrag, formatIpv4_text _, formatIpv4_text _,
        rfl, rfl, rfl, rfl, rfl, rfl, rfl⟩
  | udp udp =>
      exact ⟨rfl, rfl, rfl, rfl, rfl, rfl, rfl, rfl, rfl, hfrag, formatIpv4_text _, formatIpv4_text _,
        rfl, rfl, rfl, rfl, rfl, rfl, rfl⟩

theorem reported_ipv6 (h : Ipv6Header) (fits : h.payloadLength.toNat + sizeofIPv6 < 65536) :
    Frame.ReportedIn ⟨l, .ipv6 h fits, t, payload⟩
      ((ipv6Info l t.protocol (t.encode ++ payload) origLen tsUs h).withTransport t) := by
  have htotal : (ipv6Info l t.protocol (t.encode ++ payload) origLen tsUs h).ipTotalLength.toNat =
      h.payloadLength.toNat + 40 := UInt16.toNat_ofNat_of_lt fits
  cases t with
  | tcp tcp =>
      exact ⟨rfl, rfl, rfl, rfl, rfl, rfl, rfl, rfl, htotal, rfl, formatIpv6_text _, formatIpv6_text _,
        rfl, rfl, rfl, rfl, rfl, rfl, rfl⟩
  | udp udp =>
      exact ⟨rfl, rfl, rfl, rfl, rfl, rfl, rfl, rfl, htotal, rfl, formatIpv6_text _, formatIpv6_text _,
        rfl, rfl, rfl, rfl, rfl, rfl, rfl⟩

end Report

/-- The whole report of a frame over IPv4. -/
theorem dissectPacket_overIpv4 (l : LinkHeader) (h : Ipv4Header) (t : TransportHeader) (payload : Octets)
    (origLen : Nat) (tsUs : Int) :
    dissectPacket (.ofFrame (Frame.encode ⟨l, .ipv4 h, t, payload⟩) origLen tsUs) =
      .ok (((ipv4Info l t.protocol (t.encode ++ payload) origLen tsUs h).withTransport t).deliver
        (l.encode ETHERTYPE_IPV4 ++ h.encode t.protocol ++ t.encode).length payload (t.ipv4App payload)) :=
  (dissectPacket_ipv4 l t.protocol (t.encode ++ payload) origLen tsUs h).trans
    (dissectIpv4L4_encode t (l.encode ETHERTYPE_IPV4 ++ h.encode t.protocol) payload
      (ipv4Info l t.protocol (t.encode ++ payload) origLen tsUs h) rfl)

/-- Every encoded frame is reported field by field; over IPv4 the payload slice is the payload. -/
theorem dissectPacket_encode (f : Frame) (origLen : Nat) (tsUs : Int) :
    ∃ info, dissectPacket (.ofFrame f.encode origLen tsUs) = .ok info ∧ f.ReportedIn info ∧
      (f.network.l3Proto = .IPv4 →
        info.payloadBytes f.encode = f.payload ∧ info.l7PayloadLength = f.payload.length) := by
  obtain ⟨l, network, t, payload⟩ := f
  cases network with
  | ipv4 h =>
      refine ⟨_, dissectPacket_overIpv4 l h t payload origLen tsUs,
        (reported_ipv4 l t payload origLen tsUs h).of_forgetL7 (PacketInfo.forgetL7_deliver _ _ _ _),
        fun _ => ⟨?_, ?_⟩⟩
      · have hnone : ((ipv4Info l t.protocol (t.encode ++ payload) origLen tsUs h).withTransport
            t).l7Payload = none := by
          cases t <;> rfl
        have hbytes := PacketInfo.payloadBytes_deliver hnone
          (l.encode ETHERTYPE_IPV4 ++ h.encode t.protocol ++ t.encode) payload (t.ipv4App payload)
        rw [List.append_assoc _ t.encode] at hbytes
        exact hbytes
      · have hzero : ((ipv4Info l t.protocol (t.encode ++ payload) origLen tsUs h).withTransport
            t).l7PayloadLength = 0 := by
          cases t <;> rfl
        exact PacketInfo.payloadLength_deliver hzero _ _ _
  | ipv6 h fits =>
      obtain ⟨out, hout, hforget⟩ := dissectIpv6L4_encode t
        (l.encode ETHERTYPE_IPV6 ++ h.encode t.protocol) payload
        (ipv6Info l t.protocol (t.encode ++ payload) origLen tsUs h) (rfl : (h.wire t.protocol).nextHeader = _)
      refine ⟨out, (dissectPacket_ipv6 l t.protocol (t.encode ++ payload) origLen tsUs h).trans hout,
        (reported_ipv6 l t payload origLen tsUs h fits).of_forgetL7 hforget, ?_⟩
      intro hv4
      cases hv4

end Nte
