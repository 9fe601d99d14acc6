import NetworkThreatEngine.Dissector.Layers

/-!
# Frames laid out from their fields

An encoder for the whole frame grammar the dissector decodes. The values of a header that a
sender may choose are its fields; the conditions on their lengths are fields too, so that
whatever can be built can be put on the wire.
-/
namespace Nte
open ByteReader ByteReader.Outcome Constants

/-! ## Headers -/

/-- Addresses, and the control field of an 802.1Q tag when there is one. -/
structure LinkHeader where
  dstMac : Octets
  srcMac : Octets
  tag : Option UInt16
  dstMac_length : dstMac.length = 6
  srcMac_length : srcMac.length = 6

/-- Option bytes of an IPv4 or a TCP header: whole words, ten of them at most. -/
structure HeaderOptions where
  bytes : Octets
  aligned : bytes.length % 4 = 0
  bounded : bytes.length ≤ 40

/-- `leadingFlags` are the two flags before the more-fragments flag. -/
structure Ipv4Header where
  dscpEcn : UInt8
  totalLength : UInt16
  identification : UInt16
  leadingFlags : Fin 4
  moreFragments : Bool
  fragmentOffset : Fin 8192
  ttl : UInt8
  checksum : UInt16
  srcAddr : UInt32
  dstAddr : UInt32
  options : HeaderOptions

structure Ipv6Header where
  classFlow : Nat
  payloadLength : UInt16
  hopLimit : UInt8
  srcAddr : Octets
  dstAddr : Octets
  classFlow_lt : classFlow < 2 ^ 28
  srcAddr_length : srcAddr.length = 16
  dstAddr_length : dstAddr.length = 16

structure TcpHeader where
  srcPort : UInt16
  dstPort : UInt16
  seqNumber : UInt32
  ackNumber : UInt32
  reserved : Fin 16
  flags : UInt8
  windowSize : UInt16
  checksum : UInt16
  urgentPointer : UInt16
  options : HeaderOptions

/-! ## Layout -/

def LinkHeader.ethernet (l : LinkHeader) (etherType : UInt16) : WireEthernet :=
  ⟨l.dstMac, l.srcMac, etherType⟩

def LinkHeader.encode (l : LinkHeader) (etherType : UInt16) : Octets :=
  match l.tag with
  | none => (l.ethernet etherType).encode
  | some control => (l.ethernet ETHERTYPE_VLAN).encode ++ (put16 control ++ put16 etherType)

/-- Length of a header with these options, in 32-bit words. -/
def HeaderOptions.words (o : HeaderOptions) : Nat := 5 + o.bytes.length / 4

def Ipv4Header.wire (h : Ipv4Header) (protocol : UInt8) : WireIPv4 where
  versionIhl := UInt8.ofNat (4 * 16 + h.options.words)
  dscpEcn := h.dscpEcn
  totalLength := h.totalLength
  identification := h.identification
  flagsFragment := UInt16.ofNat (h.leadingFlags * 2 ^ 14 + h.moreFragments.toNat * 2 ^ 13 + h.fragmentOffset)
  ttl := h.ttl
  protocol := protocol
  checksum := h.checksum
  srcAddr := h.srcAddr
  dstAddr := h.dstAddr

def Ipv4Header.encode (h : Ipv4Header) (protocol : UInt8) : Octets :=
  (h.wire protocol).encode ++ h.options.bytes

def Ipv6Header.wire (h : Ipv6Header) (nextHeader : UInt8) : WireIPv6 where
  versionClassFlow := UInt32.ofNat (6 * 2 ^ 28 + h.classFlow)
  payloadLength := h.payloadLength
  nextHeader := nextHeader
  hopLimit := h.hopLimit
  srcAddr := h.srcAddr
  dstAddr := h.dstAddr

def Ipv6Header.encode (h : Ipv6Header) (nextHeader : UInt8) : Octets := (h.wire nextHeader).encode

def TcpHeader.wire (h : TcpHeader) : WireTCP where
  srcPort := h.srcPort
  dstPort := h.dstPort
  seqNumber := h.seqNumber
  ackNumber := h.ackNumber
  dataOffsetReserved := UInt8.ofNat (h.options.words * 16 + h.reserved)
  flags := h.flags
  windowSize := h.windowSize
  checksum := h.checksum
  urgentPointer := h.urgentPointer

def TcpHeader.encode (h : TcpHeader) : Octets := h.wire.encode ++ h.options.bytes

/-! ## The header lengths on the wire -/

theorem HeaderOptions.words_bytes (o : HeaderOptions) : o.words * 4 = 20 + o.bytes.length := by
  have := o.aligned
  unfold words
  omega

theorem HeaderOptions.words_le (o : HeaderOptions) : o.words ≤ 15 := by
  have := o.bounded
  unfold words
  omega

theorem ipv4_nibbles : ∀ w ≤ 15, (UInt8.ofNat (4 * 16 + w)).toNat >>> 4 = 4 ∧
    (UInt8.ofNat (4 * 16 + w)).toNat &&& 0x0F = w := by
  decide

theorem tcp_offset_nibble : ∀ w ≤ 15, ∀ r : Fin 16,
    ((UInt8.ofNat (w * 16 + r)).toNat &&& 0xF0) >>> 4 = w := by
  decide

theorem Ipv4Header.wire_version (h : Ipv4Header) (protocol : UInt8) : (h.wire protocol).version = 4 :=
  (ipv4_nibbles _ h.options.words_le).1

theorem Ipv4Header.wire_ihlBytes (h : Ipv4Header) (protocol : UInt8) :
    (h.wire protocol).ihlBytes = (h.encode protocol).length := by
  have hw := (ipv4_nibbles _ h.options.words_le).2
  rw [WireIPv4.ihlBytes, wire, hw, h.options.words_bytes, encode, List.length_append,
    WireIPv4.encode_length, sizeofIPv4]

theorem fragment_bits (lead : Fin 4) (more : Bool) (offset : Fin 8192) :
    let w := UInt16.ofNat (lead * 2 ^ 14 + more.toNat * 2 ^ 13 + offset)
    (w &&& 0x2000 != 0) = more ∧ (w &&& 0x1FFF).toNat = offset := by
  have hlead := lead.isLt
  have hoff := offset.isLt
  have hmore := Bool.toNat_lt more
  have hnat : (UInt16.ofNat (lead * 2 ^ 14 + more.toNat * 2 ^ 13 + offset)).toNat =
      lead * 2 ^ 14 + more.toNat * 2 ^ 13 + offset :=
    UInt16.toNat_ofNat_of_lt (by unfold UInt16.size; omega)
  refine ⟨?_, ?_⟩
  · have hbit : (UInt16.ofNat (lead * 2 ^ 14 + more.toNat * 2 ^ 13 + offset) &&& 0x2000).toNat =
        more.toNat * 2 ^ 13 := by
      rw [UInt16.toNat_and, hnat]
      have hpow : (0x2000 : UInt16).toNat = 2 ^ 13 := rfl
      rw [hpow, Nat.and_two_pow, Nat.testBit_eq_decide_div_mod_eq]
      cases more with
      | false => simp; omega
      | true => simp; omega
    rw [Bool.eq_iff_iff, bne_iff_ne, ne_eq, ← UInt16.toNat_inj, hbit]
    cases more with
    | false => simp
    | true => simp
  · rw [UInt16.toNat_and, hnat]
    have hmask : (0x1FFF : UInt16).toNat = 2 ^ 13 - 1 := rfl
    rw [hmask, Nat.and_two_pow_sub_one_eq_mod]
    omega

theorem Ipv4Header.wire_moreFragments (h : Ipv4Header) (protocol : UInt8) :
    (h.wire protocol).moreFragments = h.moreFragments :=
  (fragment_bits h.leadingFlags h.moreFragments h.fragmentOffset).1

theorem Ipv4Header.wire_fragmentOffset (h : Ipv4Header) (protocol : UInt8) :
    (h.wire protocol).fragmentOffset.toNat = h.fragmentOffset :=
  (fragment_bits h.leadingFlags h.moreFragments h.fragmentOffset).2

theorem Ipv6Header.wire_version (h : Ipv6Header) (nextHeader : UInt8) : (h.wire nextHeader).version = 6 := by
  have hlt := h.classFlow_lt
  have hnat : (UInt32.ofNat (6 * 2 ^ 28 + h.classFlow)).toNat = 6 * 2 ^ 28 + h.classFlow :=
    UInt32.toNat_ofNat_of_lt (by unfold UInt32.size; omega)
  rw [WireIPv6.version, wire, hnat, Nat.shiftRight_eq_div_pow]
  omega

theorem TcpHeader.wire_headerBytes (h : TcpHeader) : h.wire.headerBytes = h.encode.length := by
  have hw := tcp_offset_nibble _ h.options.words_le h.reserved
  rw [WireTCP.headerBytes, wire, hw, h.options.words_bytes, encode, List.length_append,
    WireTCP.encode_length, sizeofTCP]

theorem TcpHeader.headerBytes_ge (h : TcpHeader) : sizeofTCP ≤ h.wire.headerBytes := by
  rw [wire_headerBytes, encode, List.length_append, WireTCP.encode_length]
  exact Nat.le_add_right _ _

/-! ## The link layer -/

/-- What the link layer fills in, whether or not the frame is tagged. -/
def PacketInfo.withLink (info : PacketInfo) (l : LinkHeader) (etherType : UInt16) : PacketInfo :=
  info.withEthernet (l.ethernet etherType)

theorem LinkHeader.ethernet_length (l : LinkHeader) (etherType : UInt16) :
    (l.ethernet etherType).encode.length = sizeofEthernet :=
  WireEthernet.encode_length l.dstMac_length l.srcMac_length

theorem LinkHeader.readEthernet_ethernet (l : LinkHeader) (etherType : UInt16) (rest : Octets) :
    readEthernet ((l.ethernet etherType).encode ++ rest) 0 = .ok (l.ethernet etherType) :=
  readEthernet_encode l.dstMac_length l.srcMac_length rest

/-- The 802.1Q tag shifts the network header by four bytes and is otherwise invisible. -/
theorem dissectEthernet_link (l : LinkHeader) {etherType : UInt16} (inner : etherType ≠ ETHERTYPE_VLAN)
    (rest : Octets) (info : PacketInfo) :
    dissectEthernet (l.encode etherType ++ rest) (l.encode etherType ++ rest).length info =
      dissectL3 (l.encode etherType ++ rest) (l.encode etherType ++ rest).length
        (l.encode etherType).length (info.withLink l etherType) := by
  unfold LinkHeader.encode
  cases l.tag with
  | none =>
      have long : ¬ ((l.ethernet etherType).encode ++ rest).length < sizeofEthernet := by
        rw [List.length_append, l.ethernet_length]
        omega
      dsimp only
      rw [dissectEthernet, if_neg long, l.readEthernet_ethernet, ok_bind, l.ethernet_length]
      exact if_neg inner
  | some control =>
      have hlen := l.ethernet_length ETHERTYPE_VLAN
      have htype := be16_append_add (l.ethernet ETHERTYPE_VLAN).encode
        (put16 control ++ put16 etherType ++ rest) 2
      rw [hlen] at htype
      have hinner : be16 (put16 control ++ put16 etherType ++ rest) 2 = .ok etherType := by
        simp [be16, put16]
      dsimp only
      rw [List.append_assoc]
      have long : ¬ ((l.ethernet ETHERTYPE_VLAN).encode ++
          (put16 control ++ put16 etherType ++ rest)).length < sizeofEthernet + 4 := by
        simp only [List.length_append, hlen, put16, List.length_cons, List.length_nil]
        omega
      rw [dissectEthernet, if_neg (by omega), l.readEthernet_ethernet, ok_bind]
      have tagged : (info.withEthernet (l.ethernet ETHERTYPE_VLAN)).etherType = ETHERTYPE_VLAN := rfl
      dsimp only
      rw [if_pos tagged, if_neg long, htype, hinner, ok_bind]
      simp only [List.length_append, hlen, put16, List.length_cons, List.length_nil]
      rfl

theorem LinkHeader.encode_ne_nil (l : LinkHeader) (etherType : UInt16) : l.encode etherType ≠ [] := by
  intro h
  have hlen := congrArg List.length h
  unfold encode at hlen
  cases ht : l.tag with
  | none => simp [ht, l.ethernet_length, sizeofEthernet] at hlen
  | some control => simp [ht, put16] at hlen

theorem dissectPacket_link (l : LinkHeader) (etherType : UInt16) (inner : etherType ≠ ETHERTYPE_VLAN)
    (rest : Octets) (origLen : Nat) (tsUs : Int) :
    let raw := CapturedPacket.ofFrame (l.encode etherType ++ rest) origLen tsUs
    dissectPacket raw = dissectL3 raw.data raw.capturedLength (l.encode etherType).length
      (raw.blankInfo.withLink l etherType) := by
  have full : ¬ ((l.encode etherType ++ rest).isEmpty || decide ((l.encode etherType ++ rest).length = 0)) =
      true := by
    simp [l.encode_ne_nil]
  exact (if_neg full).trans (dissectEthernet_link l inner rest _)

/-! ## The network layer -/

section Network
variable (l : LinkHeader) (protocol : UInt8) (segment : Octets) (origLen : Nat) (tsUs : Int)

/-- A segment behind a link and an IPv4 header. -/
def ipv4Frame (h : Ipv4Header) : Octets :=
  l.encode ETHERTYPE_IPV4 ++ h.encode protocol ++ segment

/-- A segment behind a link header and an IPv6 header without extension headers. -/
def ipv6Frame (h : Ipv6Header) : Octets :=
  l.encode ETHERTYPE_IPV6 ++ h.encode protocol ++ segment

/-- The packet when the dissector turns to the segment. -/
def ipv4Info (h : Ipv4Header) : PacketInfo :=
  ((CapturedPacket.ofFrame (ipv4Frame l protocol segment h) origLen tsUs).blankInfo.withLink l
    ETHERTYPE_IPV4).withIpv4 (h.wire protocol)

def ipv6Info (h : Ipv6Header) : PacketInfo :=
  ((CapturedPacket.ofFrame (ipv6Frame l protocol segment h) origLen tsUs).blankInfo.withLink l
    ETHERTYPE_IPV6).withIpv6 (h.wire protocol)

theorem dissectIpv4_frame (h : Ipv4Header) (info : PacketInfo) :
    dissectIpv4 (ipv4Frame l protocol segment h) (ipv4Frame l protocol segment h).length
        (l.encode ETHERTYPE_IPV4).length info =
      dissectIpv4L4 (ipv4Frame l protocol segment h) (ipv4Frame l protocol segment h).length
        (l.encode ETHERTYPE_IPV4 ++ h.encode protocol).length (h.wire protocol)
        (info.withIpv4 (h.wire protocol)) := by
  have hread : readIPv4 (ipv4Frame l protocol segment h) (l.encode ETHERTYPE_IPV4).length =
      .ok (h.wire protocol) := by
    rw [ipv4Frame, List.append_assoc, readIPv4_append, Ipv4Header.encode, List.append_assoc,
      readIPv4_encode]
  have hver := h.wire_version protocol
  have hihl := h.wire_ihlBytes protocol
  have hmin : sizeofIPv4 ≤ (h.encode protocol).length := by
    rw [Ipv4Header.encode, List.length_append, WireIPv4.encode_length]
    exact Nat.le_add_right _ _
  have hlen : (ipv4Frame l protocol segment h).length =
      (l.encode ETHERTYPE_IPV4).length + (h.encode protocol).length + segment.length := by
    rw [ipv4Frame, List.length_append, List.length_append]
  rw [dissectIpv4, if_neg (by omega), hread, ok_bind, if_neg (by rw [hver]; decide)]
  dsimp only
  rw [hihl, if_neg (by simp only [Bool.or_eq_true, decide_eq_true_eq]; omega), List.length_append]

theorem dissectIpv6_frame (h : Ipv6Header) (info : PacketInfo) :
    dissectIpv6 (ipv6Frame l protocol segment h) (ipv6Frame l protocol segment h).length
        (l.encode ETHERTYPE_IPV6).length info =
      dissectIpv6L4 (ipv6Frame l protocol segment h) (ipv6Frame l protocol segment h).length
        (l.encode ETHERTYPE_IPV6 ++ h.encode protocol).length (h.wire protocol)
        (info.withIpv6 (h.wire protocol)) := by
  have henc : (h.encode protocol).length = sizeofIPv6 :=
    WireIPv6.encode_length h.srcAddr_length h.dstAddr_length
  have hread : readIPv6 (ipv6Frame l protocol segment h) (l.encode ETHERTYPE_IPV6).length =
      .ok (h.wire protocol) := by
    rw [ipv6Frame, List.append_assoc, readIPv6_append, Ipv6Header.encode]
    exact readIPv6_encode h.srcAddr_length h.dstAddr_length segment
  have hver := h.wire_version protocol
  have hlen : (ipv6Frame l protocol segment h).length =
      (l.encode ETHERTYPE_IPV6).length + sizeofIPv6 + segment.length := by
    rw [ipv6Frame, List.length_append, List.length_append, henc]
  rw [dissectIpv6, if_neg (by omega), hread, ok_bind, if_neg (by rw [hver]; decide), List.length_append,
    henc]

theorem dissectPacket_ipv4 (h : Ipv4Header) :
    dissectPacket (.ofFrame (ipv4Frame l protocol segment h) origLen tsUs) =
      dissectIpv4L4 (ipv4Frame l protocol segment h) (ipv4Frame l protocol segment h).length
        (l.encode ETHERTYPE_IPV4 ++ h.encode protocol).length (h.wire protocol)
        (ipv4Info l protocol segment origLen tsUs h) := by
  have hlink := dissectPacket_link l ETHERTYPE_IPV4 (by decide)
    (h.encode protocol ++ segment) origLen tsUs
  rw [← List.append_assoc] at hlink
  exact hlink.trans ((if_pos rfl).trans (dissectIpv4_frame l protocol segment h _))

theorem dissectPacket_ipv6 (h : Ipv6Header) :
    dissectPacket (.ofFrame (ipv6Frame l protocol segment h) origLen tsUs) =
      dissectIpv6L4 (ipv6Frame l protocol segment h) (ipv6Frame l protocol segment h).length
        (l.encode ETHERTYPE_IPV6 ++ h.encode protocol).length (h.wire protocol)
        (ipv6Info l protocol segment origLen tsUs h) := by
  have hlink := dissectPacket_link l ETHERTYPE_IPV6 (by decide)
    (h.encode protocol ++ segment) origLen tsUs
  rw [← List.append_assoc] at hlink
  have notIpv4 : ETHERTYPE_IPV6 ≠ ETHERTYPE_IPV4 := by decide
  exact hlink.trans ((if_neg notIpv4).trans ((if_pos rfl).trans (dissectIpv6_frame l protocol segment h _)))

end Network

end Nte
