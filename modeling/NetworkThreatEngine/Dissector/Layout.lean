import NetworkThreatEngine.Dissector.Reports
import NetworkThreatEngine.Dissector.RoundTrip

/-!
# Every captured header was laid out

What the encoders of the frame grammar can build is all there is: a frame with a complete link header, and
one with a complete IPv4 and a complete transport header behind it, is the layout of some fields and whatever
follows.
-/
namespace Nte
open ByteReader ByteReader.Outcome Constants

/-! ## The link header -/

theorem readEthernet_holds {data : Octets} {eth : WireEthernet} (h : readEthernet data 0 = .ok eth) :
    eth.dstMac.length = 6 ∧ eth.srcMac.length = 6 ∧ Holds data 0 eth.encode := by
  simp only [readEthernet, bind_eq_ok, pure_eq, Outcome.ok.injEq] at h
  obtain ⟨dst, hdst, src, hsrc, type, htype, rfl⟩ := h
  have dstSize := (slice_ok hdst).2
  have srcSize := (slice_ok hsrc).2
  have first : Holds data (0 + dst.length) src := by
    rw [dstSize]
    exact holds_of_slice hsrc
  have second : Holds data (0 + (dst ++ src).length) (put16 type) := by
    rw [List.length_append, dstSize, srcSize]
    exact holds_of_be16 htype
  exact ⟨dstSize, srcSize, ((holds_of_slice hdst).append first).append second⟩

/-- A frame of at least 14 bytes, read as untagged. -/
theorem exists_link {frame : Octets} (long : sizeofEthernet ≤ frame.length) :
    ∃ (l : LinkHeader) (etherType : UInt16) (rest : Octets), l.tag = none ∧ frame = l.encode etherType ++ rest := by
  obtain ⟨eth, header⟩ := readEthernet_defined frame 0 (by omega)
  obtain ⟨dst, src, held⟩ := readEthernet_holds header
  obtain ⟨rest, split⟩ := held.front
  exact ⟨⟨eth.dstMac, eth.srcMac, none, dst, src⟩, eth.etherType, rest, rfl, split⟩

/-- A frame that gives the type of its network layer, tagged or not. -/
theorem exists_linkHeader {frame : Octets} {etherType : UInt16}
    (type : be16 frame (networkOffset frame - 2) = .ok etherType) :
    ∃ (l : LinkHeader) (rest : Octets), frame = l.encode etherType ++ rest ∧
      (l.encode etherType).length = networkOffset frame := by
  have long := networkOffset_le type
  have least := (le_networkOffset frame).trans long
  obtain ⟨eth, header⟩ := readEthernet_defined frame 0 (by omega)
  obtain ⟨dst, src, held⟩ := readEthernet_holds header
  have size := eth.encode_length dst src
  have kind := readEthernet_etherType header
  obtain ⟨dstMac, srcMac, outer⟩ := eth
  by_cases tagged : be16 frame 12 = .ok ETHERTYPE_VLAN
  · obtain rfl : outer = ETHERTYPE_VLAN := Outcome.ok.inj (kind.symm.trans tagged)
    rw [networkOffset_tagged tagged] at type long ⊢
    have control := be16_of_lt (show sizeofEthernet + 1 < frame.length by omega)
    have tag := (holds_of_be16 control).append (holds_of_be16 type)
    have whole : Holds frame 0 (LinkHeader.encode ⟨dstMac, srcMac, some _, dst, src⟩ etherType) :=
      held.append (by rwa [size])
    obtain ⟨rest, split⟩ := whole.front
    refine ⟨_, rest, split, ?_⟩
    rw [LinkHeader.encode]
    exact List.length_append.trans (congrArg (· + 4) size)
  · rw [networkOffset_untagged tagged] at type ⊢
    obtain rfl := Outcome.ok.inj (kind.symm.trans type)
    obtain ⟨rest, split⟩ := held.front
    exact ⟨⟨dstMac, srcMac, none, dst, src⟩, rest, split, size⟩

/-! ## The IPv4 header -/

theorem readIPv4_holds {data : Octets} {ip : WireIPv4} (h : readIPv4 data 0 = .ok ip) : Holds data 0 ip.encode := by
  simp only [readIPv4, bind_eq_ok, pure_eq, Outcome.ok.injEq] at h
  obtain ⟨_, h₀, _, h₁, _, h₂, _, h₃, _, h₄, _, h₅, _, h₆, _, h₇, _, h₈, _, h₉, rfl⟩ := h
  have kind := (holds_of_byteAt h₀).append (holds_of_byteAt h₁)
  have fragment := ((kind.append (holds_of_be16 h₂)).append (holds_of_be16 h₃)).append (holds_of_be16 h₄)
  have carried := fragment.append ((holds_of_byteAt h₅).append (holds_of_byteAt h₆))
  exact ((carried.append (holds_of_be16 h₇)).append (holds_of_be32 h₈)).append (holds_of_be32 h₉)

/-- The three fields in a fragment word. -/
theorem exists_fragment (word : UInt16) : ∃ (lead : Fin 4) (more : Bool) (offset : Fin 8192),
    UInt16.ofNat (lead * 2 ^ 14 + more.toNat * 2 ^ 13 + offset) = word := by
  have small := word.toNat_lt
  refine ⟨⟨word.toNat / 2 ^ 14, by omega⟩, decide (word.toNat / 2 ^ 13 % 2 = 1), ⟨word.toNat % 2 ^ 13, by omega⟩, ?_⟩
  have bit : (decide (word.toNat / 2 ^ 13 % 2 = 1)).toNat = word.toNat / 2 ^ 13 % 2 := by
    rcases Nat.mod_two_eq_zero_or_one (word.toNat / 2 ^ 13) with zero | one
    · rw [zero]
      rfl
    · rw [one]
      rfl
  apply UInt16.toNat_inj.mp
  rw [UInt16.toNat_ofNat', bit]
  dsimp only
  omega

/-- The first byte says version 4 and the number of words that the options leave. -/
theorem versionIhl_eq {byte : UInt8} {size : Nat} (four : byte.toNat >>> 4 = 4)
    (words : (byte.toNat &&& 0x0F) * 4 = 20 + size) : UInt8.ofNat (4 * 16 + (5 + size / 4)) = byte := by
  have low : byte.toNat &&& 0x0F = byte.toNat % 2 ^ 4 := Nat.and_two_pow_sub_one_eq_mod _ 4
  rw [low] at words
  rw [Nat.shiftRight_eq_div_pow] at four
  apply UInt8.toNat_inj.mp
  rw [UInt8.toNat_ofNat']
  omega

/-- A complete header and its options are the layout of some fields. -/
theorem exists_ipv4Header {ip : WireIPv4} {options : Octets} (four : ip.version = 4)
    (words : ip.ihlBytes = sizeofIPv4 + options.length) :
    ∃ h : Ipv4Header, h.wire ip.protocol = ip ∧ h.encode ip.protocol = ip.encode ++ options := by
  obtain ⟨lead, more, offset, fragment⟩ := exists_fragment ip.flagsFragment
  have first := versionIhl_eq four words
  have most : ip.ihlBytes ≤ 60 := by
    have low : ip.versionIhl.toNat &&& 0x0F ≤ 15 := Nat.and_le_right
    rw [WireIPv4.ihlBytes]
    omega
  have aligned : options.length % 4 = 0 := by
    rw [WireIPv4.ihlBytes, sizeofIPv4] at words
    omega
  have bounded : options.length ≤ 40 := by
    rw [sizeofIPv4] at words
    omega
  let h : Ipv4Header :=
    { dscpEcn := ip.dscpEcn, totalLength := ip.totalLength, identification := ip.identification,
      leadingFlags := lead, moreFragments := more, fragmentOffset := offset, ttl := ip.ttl,
      checksum := ip.checksum, srcAddr := ip.srcAddr, dstAddr := ip.dstAddr,
      options := ⟨options, aligned, bounded⟩ }
  have wire : h.wire ip.protocol = ip := by
    simp only [Ipv4Header.wire, HeaderOptions.words, h, first, fragment]
  exact ⟨h, wire, by rw [Ipv4Header.encode, wire]⟩

/-- The bytes from a complete IPv4 header on. -/
theorem exists_ipv4 {s : Octets} {ip : WireIPv4} (header : readIPv4 s 0 = .ok ip) (four : ip.version = 4)
    (least : sizeofIPv4 ≤ ip.ihlBytes) (inside : ip.ihlBytes ≤ s.length) :
    ∃ (h : Ipv4Header) (rest : Octets), s = h.encode ip.protocol ++ rest ∧
      (h.encode ip.protocol).length = ip.ihlBytes := by
  obtain ⟨options, rest, split, words⟩ := (readIPv4_holds header).options least inside
  obtain ⟨h, -, encoded⟩ := exists_ipv4Header four words
  refine ⟨h, rest, ?_, ?_⟩
  · rw [encoded, split]
  · rw [encoded, words, List.length_append]

/-! ## The transport header -/

theorem readTCP_holds {data : Octets} {w : WireTCP} (h : readTCP data 0 = .ok w) : Holds data 0 w.encode := by
  simp only [readTCP, bind_eq_ok, pure_eq, Outcome.ok.injEq] at h
  obtain ⟨_, h₀, _, h₁, _, h₂, _, h₃, _, h₄, _, h₅, _, h₆, _, h₇, _, h₈, rfl⟩ := h
  have ports := (holds_of_be16 h₀).append (holds_of_be16 h₁)
  have numbers := (ports.append (holds_of_be32 h₂)).append (holds_of_be32 h₃)
  have control := numbers.append ((holds_of_byteAt h₄).append (holds_of_byteAt h₅))
  exact ((control.append (holds_of_be16 h₆)).append (holds_of_be16 h₇)).append (holds_of_be16 h₈)

theorem readUDP_holds {data : Octets} {w : WireUDP} (h : readUDP data 0 = .ok w) : Holds data 0 w.encode := by
  simp only [readUDP, bind_eq_ok, pure_eq, Outcome.ok.injEq] at h
  obtain ⟨_, h₀, _, h₁, _, h₂, _, h₃, rfl⟩ := h
  exact (((holds_of_be16 h₀).append (holds_of_be16 h₁)).append (holds_of_be16 h₂)).append (holds_of_be16 h₃)

/-- The high four bits count the words of the header; the low ones are reserved. -/
theorem dataOffset_eq : ∀ byte : UInt8, UInt8.ofNat ((byte.toNat &&& 0xF0) >>> 4 * 16 + byte.toNat % 16) = byte := by
  decide +kernel

theorem exists_tcp {s : Octets} {w : WireTCP} (header : tcpHeader s = some w) :
    ∃ (h : TcpHeader) (payload : Octets), s = h.encode ++ payload := by
  obtain ⟨read, least, inside⟩ := tcpHeader_eq_some header
  obtain ⟨options, payload, split, size⟩ := (readTCP_holds read).options least inside
  have most : w.headerBytes ≤ 60 := by
    have high : w.dataOffsetReserved.toNat &&& 0xF0 ≤ 0xF0 := Nat.and_le_right
    rw [WireTCP.headerBytes, Nat.shiftRight_eq_div_pow]
    omega
  have words : (w.dataOffsetReserved.toNat &&& 0xF0) >>> 4 * 4 = 20 + options.length := size
  have aligned : options.length % 4 = 0 := by omega
  have bounded : options.length ≤ 40 := by
    rw [w.encode_length, sizeofTCP] at size
    omega
  have control : UInt8.ofNat ((5 + options.length / 4) * 16 + w.dataOffsetReserved.toNat % 16) =
      w.dataOffsetReserved := by
    have count : 5 + options.length / 4 = (w.dataOffsetReserved.toNat &&& 0xF0) >>> 4 := by omega
    rw [count, dataOffset_eq]
  let h : TcpHeader :=
    { srcPort := w.srcPort, dstPort := w.dstPort, seqNumber := w.seqNumber, ackNumber := w.ackNumber,
      reserved := ⟨w.dataOffsetReserved.toNat % 16, Nat.mod_lt _ (by decide)⟩, flags := w.flags,
      windowSize := w.windowSize, checksum := w.checksum, urgentPointer := w.urgentPointer,
      options := ⟨options, aligned, bounded⟩ }
  have wire : h.wire = w := by
    simp only [TcpHeader.wire, HeaderOptions.words, h, control]
  exact ⟨h, payload, by rw [TcpHeader.encode, wire, split]⟩

theorem exists_udp {s : Octets} {w : WireUDP} (header : udpHeader s = some w) :
    ∃ payload : Octets, s = w.encode ++ payload :=
  (readUDP_holds (udpHeader_eq_some header).1).front

/-! ## Whole frames -/

/-- Complete headers up to the transport layer, over IPv4. -/
structure WellFormed (frame : Octets) (ip : WireIPv4) : Prop where
  type : be16 frame (networkOffset frame - 2) = .ok ETHERTYPE_IPV4
  header : readIPv4 (frame.drop (networkOffset frame)) 0 = .ok ip
  version : ip.version = 4
  least : sizeofIPv4 ≤ ip.ihlBytes
  inside : networkOffset frame + ip.ihlBytes ≤ frame.length
  transport : HoldsTransport ip.protocol (frame.drop (networkOffset frame + ip.ihlBytes))

/-- Every such frame is the layout of some fields. -/
theorem WellFormed.exists_frame {frame : Octets} {ip : WireIPv4} (formed : WellFormed frame ip) :
    ∃ (l : LinkHeader) (h : Ipv4Header) (t : TransportHeader) (payload : Octets),
      frame = Frame.encode ⟨l, .ipv4 h, t, payload⟩ := by
  obtain ⟨type, header, version, least, inside, transport⟩ := formed
  obtain ⟨l, packet, rfl, size⟩ := exists_linkHeader type
  rw [← List.drop_drop, ← size, List.drop_left] at transport
  rw [← size, List.length_append] at inside
  rw [← size, List.drop_left] at header
  obtain ⟨h, segment, rfl, size'⟩ := exists_ipv4 header version least (by omega)
  rw [← size', List.drop_left] at transport
  rcases transport with ⟨tcp, some⟩ | ⟨udp, some⟩
  · obtain ⟨w, some⟩ := Option.isSome_iff_exists.mp some
    obtain ⟨t, payload, rfl⟩ := exists_tcp some
    refine ⟨l, h, .tcp t, payload, ?_⟩
    rw [tcp]
    simp only [Frame.encode, Frame.segment, ipv4Frame, List.append_assoc]
    rfl
  · obtain ⟨w, some⟩ := Option.isSome_iff_exists.mp some
    obtain ⟨payload, rfl⟩ := exists_udp some
    refine ⟨l, h, .udp w, payload, ?_⟩
    rw [udp]
    simp only [Frame.encode, Frame.segment, ipv4Frame, List.append_assoc]
    rfl

end Nte
