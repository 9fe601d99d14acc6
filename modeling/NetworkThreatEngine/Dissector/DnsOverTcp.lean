import NetworkThreatEngine.Dissector.DnsMessage
import NetworkThreatEngine.Dissector.Families
import NetworkThreatEngine.Dissector.RoundTrip
import NetworkThreatEngine.Lib.Separators

/-!
# DNS over TCP

Over TCP a message stands behind its two-byte length. `dissect_packet` hands the payload to `extract_dns` as
it does over UDP, so that every field of the message is read two bytes too early: the flags word is taken for
the question count, and the name starts at the count of additional records.
-/
namespace Nte
open ByteReader ByteReader.Outcome Constants Separators

/-! ## Inversions of the decoder -/

section Inversion
variable {payload name : Octets} {dns : DnsInfo}

/-- The header fields behind a report, and the loop that read its name. -/
theorem decodeDns_header (h : decodeDns payload payload.length = .ok dns) :
    ∃ high count read, byteAt payload 2 = .ok high ∧ be16 payload 4 = .ok count ∧ count ≠ 0 ∧
      dns.isResponse = (high &&& 0x80 != 0) ∧
      dnsLabels payload payload.length DNS_MAX_LABEL_HOPS DNS_HEADER_SIZE [] = .ok read := by
  unfold decodeDns at h
  split at h
  · cases h
  · obtain ⟨high, flags, h⟩ := bind_eq_ok.mp h
    obtain ⟨count, qdcount, h⟩ := bind_eq_ok.mp h
    split at h
    · cases h
    · rename_i asked
      obtain ⟨read, walked, h⟩ := bind_eq_ok.mp h
      dsimp only at h
      split at h
      · cases h
      · obtain ⟨type, -, h⟩ := bind_eq_ok.mp h
        cases h
        exact ⟨high, count, read, flags, qdcount, asked, rfl, walked⟩

/-- The loop does not pass a length byte with both high bits set. -/
theorem dnsLabels_plain {labels : List Octets} {off hops : Nat} {read : Nat × Octets}
    (walked : dnsLabels payload payload.length (labels.length + hops) off name = .ok read)
    (held : Holds payload off (seq8 labels)) (sized : ∀ label ∈ labels, 0 < label.length ∧ label.length < 2 ^ 8) :
    ∀ label ∈ labels, 0 < label.length ∧ label.length < 192 := by
  induction labels generalizing off name with
  | nil => exact List.forall_mem_nil _
  | cons label labels ih =>
      rw [List.forall_mem_cons] at sized ⊢
      rw [List.length_cons, Nat.add_right_comm] at walked
      by_cases plain : label.length < 192
      · rw [dnsLabels_cons ⟨sized.1.1, plain⟩ held.left] at walked
        exact ⟨⟨sized.1.1, plain⟩, ih walked held.right sized.2⟩
      · obtain ⟨n, length, same, -⟩ := vec8_of_holds held.left sized.1.2
        have counted : n ≠ 0 := by
          rintro rfl
          exact absurd same (Nat.ne_of_lt sized.1.1)
        have pointer : n &&& 0xC0 = 0xC0 := by
          rw [pointerBits_iff, same]
          exact Nat.le_of_not_lt plain
        rw [dnsLabels, if_pos (byteAt_ok_lt length), length, ok_bind, if_neg counted, if_pos pointer] at walked
        cases walked

/-- Names of one dotted form are encoded in the same number of bytes. -/
theorem length_seq8_dotted {labels : List Octets} (labelled : labels ≠ []) :
    (seq8 labels).length = ((ascii ".").intercalate labels).length + 1 := by
  rw [length_seq8]
  exact (length_intercalate 46 labelled).symm

end Inversion

/-! ## A message read two bytes too early -/

namespace DnsMessage
variable (m : DnsMessage)

/-- What the wrong fields have to be for the report to come out right. -/
structure ReadsShifted : Prop where
  counted : m.flags ≠ 0
  response : m.id.toNat.testBit 15 = m.isResponse
  named : ∃ labels, (∀ label ∈ labels, 0 < label.length ∧ label.length < 192) ∧
    (ascii ".").intercalate labels = m.qname.dotted ∧
    seq8 labels ++ [0] ++ put16 m.qtype = put16 m.arcount ++ m.qname.encode

section Shifted
variable {two : Octets}

theorem shifted_id (size : two.length = 2) :
    byteAt (two ++ m.encode) 2 = .ok (UInt8.ofNat (m.id.toNat >>> 8)) := by
  have first := byteAt_append_add two m.encode 0
  rw [size] at first
  exact first

theorem shifted_flags (size : two.length = 2) : be16 (two ++ m.encode) 4 = .ok m.flags := by
  have second := be16_append_add two m.encode 2
  rw [size] at second
  have held : Holds m.encode 0 (put16 m.id ++ (put16 m.flags ++ (put16 m.qdcount ++ (put16 m.ancount ++
    (put16 m.nscount ++ put16 m.arcount))))) := holds_prefix _ _
  exact second.trans (be16_of_holds held.right)

theorem shifted_name (size : two.length = 2) :
    Holds (two ++ m.encode) DNS_HEADER_SIZE (put16 m.arcount ++ m.qname.encode) := by
  refine ⟨two ++ (put16 m.id ++ put16 m.flags ++ put16 m.qdcount ++ put16 m.ancount ++ put16 m.nscount),
    put16 m.qtype ++ (put16 m.qclass ++ m.following), ?_, ?_⟩
  · simp only [encode, header, List.append_assoc]
  · rw [List.length_append, size]
    rfl

theorem decodeDns_shifted_iff (size : two.length = 2) :
    decodeDns (two ++ m.encode) (two ++ m.encode).length = .ok m.info ↔ m.ReadsShifted := by
  have shown : m.info.queryName = (ascii ".").intercalate m.qname.labels := rfl
  have limit := m.qname.fits
  constructor
  · intro decoded
    obtain ⟨high, count, read, flags, qdcount, asked, response, walked⟩ := decodeDns_header decoded
    obtain rfl := Outcome.ok.inj ((m.shifted_id size).symm.trans flags)
    obtain rfl := Outcome.ok.inj ((m.shifted_flags size).symm.trans qdcount)
    obtain ⟨labels, found⟩ := decodeDns_found decoded
    have dotted : (ascii ".").intercalate labels = m.qname.dotted := found.name.symm.trans shown
    -- The dotted forms agree, so the names are equally long and the shifted one is not cut by the hop limit.
    have same : (seq8 labels).length = (seq8 m.qname.labels).length := by
      rw [length_seq8_dotted found.labelled, length_seq8_dotted m.qname.labelled, dotted]
      rfl
    have few : labels.length < DNS_MAX_LABEL_HOPS :=
      few_labels (fun label mem => (found.sized label mem).1) (same ▸ limit)
    rcases found.type with ⟨-, zero, type⟩ | ⟨reached, -⟩
    · have held : Holds (two ++ m.encode) DNS_HEADER_SIZE (seq8 labels ++ [0] ++ put16 m.qtype) := by
        refine (found.held.append (holds_of_byteAt zero)).append (holds_of_be16 ?_)
        rw [List.length_append, List.length_singleton]
        exact type
      have bytes := held.eq_of_length (m.shifted_name size) (by simp [DnsName.encode, same]; omega)
      obtain ⟨spare, hops⟩ := Nat.exists_eq_add_of_lt few
      rw [hops, Nat.add_assoc] at walked
      exact ⟨asked, (top_bit m.id).symm.trans response.symm, labels, dnsLabels_plain walked found.held found.sized,
        dotted, bytes⟩
    · exact absurd reached (Nat.ne_of_lt few)
  · rintro ⟨counted, response, labels, sized, dotted, bytes⟩
    have labelled : labels ≠ [] := by
      rintro rfl
      exact intercalate_ne_nil m.qname.labelled m.qname.positive (ascii ".") dotted.symm
    have same : (seq8 labels).length = (seq8 m.qname.labels).length := by
      rw [length_seq8_dotted labelled, length_seq8_dotted m.qname.labelled, dotted]
      rfl
    have few : labels.length < DNS_MAX_LABEL_HOPS := few_labels (fun label mem => (sized label mem).1) (same ▸ limit)
    have held := m.shifted_name size
    rw [← bytes] at held
    rw [decodeDns_labels labelled sized few (m.shifted_id size) (m.shifted_flags size) counted held, dotted, top_bit,
      response]
    rfl

/-- With fewer than 256 additional records the name starts with a zero byte and nothing is reported. -/
theorem decodeDns_lost (size : two.length = 2) (small : m.arcount.toNat < 256) :
    decodeDns (two ++ m.encode) (two ++ m.encode).length = .reject := by
  have high : UInt8.ofNat (m.arcount.toNat >>> 8) = 0 := by
    rw [Nat.shiftRight_eq_div_pow, Nat.div_eq_of_lt small]
    rfl
  have zero : byteAt (two ++ m.encode) DNS_HEADER_SIZE = .ok 0 := by
    rw [← high]
    exact byteAt_of_holds (m.shifted_name size).left
  have walked : dnsLabels (two ++ m.encode) (two ++ m.encode).length DNS_MAX_LABEL_HOPS DNS_HEADER_SIZE [] =
      .ok (DNS_HEADER_SIZE + 1, []) := dnsLabels_root zero
  rw [decodeDns, m.shifted_id size, ok_bind, m.shifted_flags size, ok_bind, walked]
  split
  · rfl
  · split <;> rfl

end Shifted

/-! ## Both framings through the dissector -/

/-- A segment to port 53 whose payload is the length of the message and the message. -/
def overTcp (l : LinkHeader) (h : Ipv4Header) (tcp : TcpHeader) : Frame :=
  ⟨l, .ipv4 h, .tcp { tcp with dstPort := PORT_DNS }, vec16 m.encode⟩

/-- A datagram to port 53 whose payload is the message. -/
def overUdp (l : LinkHeader) (h : Ipv4Header) (udp : WireUDP) : Frame :=
  ⟨l, .ipv4 h, .udp { udp with dstPort := PORT_DNS }, m.encode⟩

end DnsMessage

/-- What is reported of a payload that goes to the DNS decoder. -/
theorem PacketInfo.dns_deliver {info : PacketInfo} {off : Nat} {payload : Octets} (unset : info.dns = none)
    (some : payload ≠ []) (dns : DnsInfo) :
    (info.deliver off payload (asDns payload)).dns = Option.some dns ↔
      decodeDns payload payload.length = .ok dns := by
  rw [deliver, if_neg (by rwa [List.isEmpty_iff]), asDns]
  cases decodeDns payload payload.length with
  | ok found =>
      rw [Outcome.ok.injEq]
      exact Option.some_inj
  | reject => simp [setApp, withPayload, unset]
  | fault => simp [setApp, withPayload, unset]

theorem ipv4Info_dns (l : LinkHeader) (h : Ipv4Header) (t : TransportHeader) (segment : Octets) (origLen : Nat)
    (tsUs : Int) : ((ipv4Info l t.protocol segment origLen tsUs h).withTransport t).dns = none := by
  cases t <;> rfl

/-- A frame over IPv4 whose application data is looked for by the DNS decoder. -/
theorem dissectPacket_dns (l : LinkHeader) (h : Ipv4Header) (t : TransportHeader) (payload : Octets) (origLen : Nat)
    (tsUs : Int) (some : payload ≠ []) (onDns : t.ipv4App payload = asDns payload) :
    ∃ info, dissectPacket (.ofFrame (Frame.encode ⟨l, .ipv4 h, t, payload⟩) origLen tsUs) = .ok info ∧
      ∀ dns, info.dns = Option.some dns ↔ decodeDns payload payload.length = .ok dns := by
  refine ⟨_, dissectPacket_overIpv4 l h t payload origLen tsUs, fun dns => ?_⟩
  rw [onDns]
  exact PacketInfo.dns_deliver (ipv4Info_dns l h t _ origLen tsUs) some dns

section Framings
variable (m : DnsMessage) (l l' : LinkHeader) (h h' : Ipv4Header) (tcp : TcpHeader) (udp : WireUDP)
  (origLen origLen' : Nat) (tsUs tsUs' : Int)

theorem DnsMessage.dissect_overUdp :
    ∃ info, dissectPacket (.ofFrame (m.overUdp l h udp).encode origLen tsUs) = .ok info ∧ info.dns = some m.info := by
  have onDns (payload : Octets) :
      TransportHeader.ipv4App payload (.udp { udp with dstPort := PORT_DNS }) = asDns payload := rfl
  obtain ⟨info, dissected, reported⟩ := dissectPacket_dns l h (.udp { udp with dstPort := PORT_DNS }) m.encode origLen
    tsUs (List.cons_ne_nil _ _) (onDns m.encode)
  exact ⟨info, dissected, (reported m.info).mpr m.decodeDns_encode⟩

theorem DnsMessage.dissect_overTcp :
    ∃ info, dissectPacket (.ofFrame (m.overTcp l h tcp).encode origLen tsUs) = .ok info ∧
      ∀ dns, info.dns = some dns ↔ decodeDns (vec16 m.encode) (vec16 m.encode).length = .ok dns := by
  have onDns (payload : Octets) :
      TransportHeader.ipv4App payload (.tcp { tcp with dstPort := PORT_DNS }) = asDns payload := rfl
  exact dissectPacket_dns l h (.tcp { tcp with dstPort := PORT_DNS }) (vec16 m.encode) origLen tsUs
    (List.cons_ne_nil _ _) (onDns (vec16 m.encode))

/-- Both framings give the same report exactly if the fields two bytes early happen to say the same. -/
theorem dns_over_tcp_iff :
    ∃ overTcp overUdp, dissectPacket (.ofFrame (m.overTcp l h tcp).encode origLen tsUs) = .ok overTcp ∧
      dissectPacket (.ofFrame (m.overUdp l' h' udp).encode origLen' tsUs') = .ok overUdp ∧
      overUdp.dns = some m.info ∧ (overTcp.dns = overUdp.dns ↔ m.ReadsShifted) := by
  obtain ⟨overTcp, dissected, reported⟩ := m.dissect_overTcp l h tcp origLen tsUs
  obtain ⟨overUdp, dissected', same⟩ := m.dissect_overUdp l' h' udp origLen' tsUs'
  refine ⟨overTcp, overUdp, dissected, dissected', same, ?_⟩
  rw [same]
  exact (reported m.info).trans (m.decodeDns_shifted_iff rfl)

/-- Every query with fewer than 256 additional records is lost over TCP. -/
theorem dns_over_tcp_lost (small : m.arcount.toNat < 256) :
    ∃ info, dissectPacket (.ofFrame (m.overTcp l h tcp).encode origLen tsUs) = .ok info ∧ info.dns = none := by
  obtain ⟨info, dissected, reported⟩ := m.dissect_overTcp l h tcp origLen tsUs
  refine ⟨info, dissected, ?_⟩
  cases found : info.dns with
  | none => rfl
  | some dns =>
      have decoded := (reported dns).mp found
      rw [show vec16 m.encode = _ ++ m.encode from rfl, m.decodeDns_lost rfl small] at decoded
      cases decoded

end Framings

/-- A standard query for the address of "a". -/
def addressQuery : DnsMessage where
  id := 1
  flags := 0x0100
  qdcount := 1
  asked := by decide
  ancount := 0
  nscount := 0
  arcount := 0
  qname := ⟨[[97]], by decide, by decide, by decide⟩
  qtype := 1
  qclass := 1
  following := []

def quietTcp : TcpHeader := ⟨40000, 0, 0, 0, 0, 0x18, 1024, 0, 0, quietIpv4.options⟩

/-- The query is reported over UDP and not over TCP. -/
theorem query_lost_over_tcp :
    ∃ overTcp overUdp,
      dissectPacket (.ofFrame (addressQuery.overTcp quietLink quietIpv4 quietTcp).encode 72 0) = .ok overTcp ∧
      dissectPacket (.ofFrame (addressQuery.overUdp quietLink quietIpv4 ⟨40000, 0, 0, 0⟩).encode 61 0) = .ok overUdp ∧
      overTcp.dns = none ∧ overUdp.dns = some ⟨[97], 1, false⟩ := by
  obtain ⟨overTcp, dissected, lost⟩ := dns_over_tcp_lost addressQuery quietLink quietIpv4 quietTcp 72 0 (by decide)
  obtain ⟨overUdp, dissected', found⟩ := addressQuery.dissect_overUdp quietLink quietIpv4 ⟨40000, 0, 0, 0⟩ 61 0
  exact ⟨overTcp, overUdp, dissected, dissected', lost, found⟩

end Nte
