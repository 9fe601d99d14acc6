import NetworkThreatEngine.Dissector.DnsOverTcp
import NetworkThreatEngine.Dissector.Reports
import NetworkThreatEngine.Dissector.RoundTrip

/-!
# Later fragments

A fragment at an offset other than zero starts with the middle of a segment. It is marked as a fragment and
then read like the first one: what its body happens to hold at the places of a transport header is reported as
ports and flags.
-/
namespace Nte
open ByteReader ByteReader.Outcome Constants

/-- What flow tracking and the detectors are told about the transport layer and above. -/
structure TransportFields where
  l4Proto : L4Protocol
  srcPort : UInt16
  dstPort : UInt16
  tcpFlags : UInt8
  dns : Option DnsInfo
  http : Option HttpInfo
  tls : Option TlsInfo
  deriving DecidableEq, Repr

def PacketInfo.transportFields (info : PacketInfo) : TransportFields :=
  ⟨info.l4Proto, info.srcPort, info.dstPort, info.tcpFlags, info.dns, info.http, info.tls⟩

/-- The bytes end with a complete IPv4 header, its options included. -/
structure EndsWithIpv4 (front : Octets) (ip : WireIPv4) : Prop where
  type : be16 front (networkOffset front - 2) = .ok ETHERTYPE_IPV4
  header : readIPv4 (front.drop (networkOffset front)) 0 = .ok ip
  version : ip.version = 4
  least : sizeofIPv4 ≤ ip.ihlBytes
  length : networkOffset front + ip.ihlBytes = front.length

/-- The body of a fragment is long enough to be taken for a header of its protocol. -/
def ReadsTransport (protocol : UInt8) (size : Nat) : Prop :=
  protocol = IPPROTO_TCP_NUM ∧ sizeofTCP ≤ size ∨ protocol = IPPROTO_UDP_NUM ∧ sizeofUDP ≤ size

/-- Behind the IPv4 header the report is that of the body as a segment. -/
theorem EndsWithIpv4.report {front : Octets} {ip : WireIPv4} (ends : EndsWithIpv4 front ip) :
    ∃ eth, ∀ (body : Octets) (origLen : Nat) (tsUs : Int),
      dissect (.ofFrame (front ++ body) origLen tsUs) =
        ipv4Transport front.length ip.protocol body (PacketInfo.withIpv4
          { (CapturedPacket.ofFrame (front ++ body) origLen tsUs).blankInfo.withEthernet eth with
            etherType := ETHERTYPE_IPV4 } ip) := by
  have linked := networkOffset_le ends.type
  have least := (le_networkOffset front).trans linked
  obtain ⟨eth, header⟩ := readEthernet_defined front 0 (by omega)
  refine ⟨eth, fun body origLen tsUs => ?_⟩
  have full : front ++ body ≠ [] := by
    rintro empty
    obtain ⟨rfl, -⟩ := List.append_eq_nil_iff.mp empty
    exact absurd least (by decide)
  have header' : readEthernet (front ++ body) 0 = .ok eth := (readEthernet_append_left body least).trans header
  have type' : be16 (front ++ body) (networkOffset (front ++ body) - 2) = .ok ETHERTYPE_IPV4 := by
    rw [networkOffset_append ends.type, be16_append_left body (be16_ok_lt ends.type), ends.type]
  have cut : (front.drop (networkOffset front)).length = ip.ihlBytes := by
    rw [List.length_drop, ← ends.length, Nat.add_sub_cancel_left]
  have fits : ¬ (ip.ihlBytes < sizeofIPv4 ∨ (front.drop (networkOffset front) ++ body).length < ip.ihlBytes) := by
    have least := ends.least
    rw [List.length_append]
    omega
  rw [dissect_report _ full, frameReport_network header' type', networkOffset_append ends.type,
    List.drop_append_of_le_length linked, networkReport]
  rw [if_pos rfl, ipv4Report, readIPv4_append_left body (cut ▸ ends.least), ends.header]
  dsimp only
  rw [if_neg (not_not.mpr ends.version), if_neg fits, ends.length, ← cut, List.drop_left]

/-! ## Bodies that are not read -/

/-- The report is the same as for a segment without any bytes. -/
theorem ipv4Transport_unread {protocol : UInt8} {s : Octets} (unread : ¬ ReadsTransport protocol s.length) (off : Nat)
    (info : PacketInfo) : ipv4Transport off protocol s info = ipv4Transport off protocol [] info := by
  unfold ipv4Transport
  split
  · rename_i tcp
    have short : s.length < sizeofTCP := Nat.lt_of_not_le fun long => unread (.inl ⟨tcp, long⟩)
    rw [tcpHeader_short short, tcpHeader_short (by decide)]
  · split
    · rename_i udp
      have short : s.length < sizeofUDP := Nat.lt_of_not_le fun long => unread (.inr ⟨udp, long⟩)
      rw [udpHeader_short short, udpHeader_short (by decide)]
    · rfl

/-- Without a body, only what was found below the transport layer matters. -/
theorem ipv4Transport_nil_fields {info info' : PacketInfo} (same : info.transportFields = info'.transportFields)
    (off : Nat) (protocol : UInt8) :
    (ipv4Transport off protocol [] info).transportFields = (ipv4Transport off protocol [] info').transportFields := by
  unfold ipv4Transport
  split
  · rw [tcpHeader_short (by decide)]
    exact same
  · split
    · rw [udpHeader_short (by decide)]
      exact same
    · split
      · exact congrArg (fun fields => { fields with l4Proto := .ICMP }) same
      · exact congrArg (fun fields => { fields with l4Proto := .OTHER }) same

/-! ## Bodies that are read -/

theorem PacketInfo.srcPort_deliver (info : PacketInfo) (off : Nat) (payload : Octets) (app : AppData) :
    (info.deliver off payload app).srcPort = info.srcPort := by
  have port := congrArg PacketInfo.srcPort (info.forgetL7_deliver off payload app)
  exact port

theorem ipv4Transport_encode (t : TransportHeader) (pre payload : Octets) (info : PacketInfo) {ip : WireIPv4}
    (protocol : ip.protocol = t.protocol) :
    ipv4Transport pre.length ip.protocol (t.encode ++ payload) info =
      (info.withTransport t).deliver (pre ++ t.encode).length payload (t.ipv4App payload) := by
  have report := dissectIpv4L4_report pre (t.encode ++ payload) info ip
  exact Outcome.ok.inj (report.symm.trans (dissectIpv4L4_encode t pre payload info protocol))

/-- Any port can stand in a header that fits. -/
theorem ReadsTransport.exists_header {protocol : UInt8} {size : Nat} (read : ReadsTransport protocol size)
    (port : UInt16) : ∃ t : TransportHeader, protocol = t.protocol ∧ t.encode.length ≤ size ∧
      ∀ info : PacketInfo, (info.withTransport t).srcPort = port := by
  rcases read with ⟨tcp, long⟩ | ⟨udp, long⟩
  · exact ⟨.tcp { quietTcp with srcPort := port }, tcp, long, fun _ => rfl⟩
  · exact ⟨.udp ⟨port, 0, 0, 0⟩, udp, long, fun _ => rfl⟩

theorem ReadsTransport.exists_body {ip : WireIPv4} {size : Nat} (read : ReadsTransport ip.protocol size)
    (port : UInt16) : ∃ body : Octets, body.length = size ∧
      ∀ (pre : Octets) (info : PacketInfo), (ipv4Transport pre.length ip.protocol body info).srcPort = port := by
  obtain ⟨t, protocol, long, named⟩ := read.exists_header port
  refine ⟨t.encode ++ List.replicate (size - t.encode.length) 0, ?_, fun pre info => ?_⟩
  · rw [List.length_append, List.length_replicate]
    exact Nat.add_sub_cancel' long
  · rw [ipv4Transport_encode t pre _ info protocol, PacketInfo.srcPort_deliver]
    exact named info

/-! ## Two fragments -/

/-- Fragments with one header and bodies of one length, at any offset, are reported alike exactly if such bodies
are too short for a header of their protocol, or the protocol is not one with ports. -/
theorem fragment_bodies_iff {front : Octets} {ip : WireIPv4} (ends : EndsWithIpv4 front ip)
    (size origLen origLen' : Nat) (tsUs tsUs' : Int) :
    (∀ body body' : Octets, body.length = size → body'.length = size →
        (dissect (.ofFrame (front ++ body) origLen tsUs)).transportFields =
          (dissect (.ofFrame (front ++ body') origLen' tsUs')).transportFields) ↔
      ¬ ReadsTransport ip.protocol size := by
  obtain ⟨eth, report⟩ := ends.report
  constructor
  · intro alike read
    obtain ⟨body, sized, named⟩ := read.exists_body 0
    obtain ⟨body', sized', named'⟩ := read.exists_body 1
    have ports := congrArg TransportFields.srcPort (alike body body' sized sized')
    rw [report, report] at ports
    exact absurd ((named _ _).symm.trans (ports.trans (named' _ _))) (by decide)
  · intro unread body body' sized sized'
    have unread' : ¬ ReadsTransport ip.protocol body'.length := by rwa [sized']
    rw [← sized] at unread
    rw [report, report, ipv4Transport_unread unread, ipv4Transport_unread unread']
    apply ipv4Transport_nil_fields
    rfl

/-- The header of a TCP fragment that starts 1480 bytes into its segment. -/
def laterHeader : Ipv4Header := { quietIpv4 with totalLength := 40, fragmentOffset := ⟨185, by decide⟩ }

def laterFront : Octets := quietLink.encode ETHERTYPE_IPV4 ++ laterHeader.encode Transport.tcp.number

theorem fragment_bodies_iff_icmp :
    (∀ body body' : Octets, body.length = 20 → body'.length = 20 →
        (dissect (.ofFrame (quietLink.encode ETHERTYPE_IPV4 ++ laterHeader.encode 1 ++ body) 54 0)).transportFields =
          (dissect (.ofFrame (quietLink.encode ETHERTYPE_IPV4 ++ laterHeader.encode 1 ++ body') 54 0)).transportFields) ↔
      ¬ ReadsTransport (laterHeader.wire 1).protocol 20 :=
  fragment_bodies_iff ⟨by decide, by decide, by decide, by decide, by decide⟩ 20 54 54 0 0

/-- Two bodies of a length behind that header: the ports and the SYN flag are the sender's choice. -/
theorem fragment_body_sets_flags :
    (laterHeader.wire Transport.tcp.number).fragmentOffset = 185 ∧
      (List.replicate 20 0x50 : Octets).length = { quietTcp with dstPort := 22, flags := 2 }.encode.length ∧
      (dissect (.ofFrame (laterFront ++ List.replicate 20 0x50) 54 0)).transportFields =
        ⟨.TCP, 0x5050, 0x5050, 0x50, none, none, none⟩ ∧
      (dissect (.ofFrame (laterFront ++ { quietTcp with dstPort := 22, flags := 2 }.encode) 54 0)).transportFields =
        ⟨.TCP, 40000, 22, 2, none, none, none⟩ ∧
      (dissect (.ofFrame (laterFront ++ List.replicate 20 0x50) 54 0)).transportFields ≠
        (dissect (.ofFrame (laterFront ++ { quietTcp with dstPort := 22, flags := 2 }.encode) 54 0)).transportFields := by
  decide +kernel

end Nte
