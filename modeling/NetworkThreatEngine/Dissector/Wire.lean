import NetworkThreatEngine.Lib.ByteReader
import NetworkThreatEngine.Packet

/-!
# Packed wire headers

Each header is read through a cast of the packed structure onto the captured bytes. Multi-byte
fields hold the host-order value, that is, `ntohs` or `ntohl` of what is on the wire. `encode`
lays a header out again; a header read where one was laid out is that header.
-/
namespace Nte
open ByteReader ByteReader.Outcome

structure WireEthernet where
  dstMac : Octets
  srcMac : Octets
  etherType : UInt16
  deriving DecidableEq, Repr

structure WireIPv4 where
  versionIhl : UInt8
  dscpEcn : UInt8
  totalLength : UInt16
  identification : UInt16
  flagsFragment : UInt16
  ttl : UInt8
  protocol : UInt8
  checksum : UInt16
  srcAddr : UInt32
  dstAddr : UInt32
  deriving DecidableEq, Repr

structure WireIPv6 where
  versionClassFlow : UInt32
  payloadLength : UInt16
  nextHeader : UInt8
  hopLimit : UInt8
  srcAddr : Octets
  dstAddr : Octets
  deriving DecidableEq, Repr

structure WireTCP where
  srcPort : UInt16
  dstPort : UInt16
  seqNumber : UInt32
  ackNumber : UInt32
  dataOffsetReserved : UInt8
  flags : UInt8
  windowSize : UInt16
  checksum : UInt16
  urgentPointer : UInt16
  deriving DecidableEq, Repr

structure WireUDP where
  srcPort : UInt16
  dstPort : UInt16
  length : UInt16
  checksum : UInt16
  deriving DecidableEq, Repr

/-- `sizeof` of the packed structures. -/
def sizeofEthernet : Nat := 14
def sizeofIPv4 : Nat := 20
def sizeofIPv6 : Nat := 40
def sizeofTCP : Nat := 20
def sizeofUDP : Nat := 8

def WireIPv4.ihlBytes (ip : WireIPv4) : Nat := (ip.versionIhl.toNat &&& 0x0F) * 4
def WireIPv4.version (ip : WireIPv4) : Nat := ip.versionIhl.toNat >>> 4
def WireIPv4.moreFragments (ip : WireIPv4) : Bool := ip.flagsFragment &&& 0x2000 != 0
def WireIPv4.fragmentOffset (ip : WireIPv4) : UInt16 := ip.flagsFragment &&& 0x1FFF

/-- The top four bits of the first byte on the wire. -/
def WireIPv6.version (ip : WireIPv6) : Nat := ip.versionClassFlow.toNat >>> 28

def WireTCP.headerBytes (tcp : WireTCP) : Nat := ((tcp.dataOffsetReserved.toNat &&& 0xF0) >>> 4) * 4

/-! ## Reading -/

def readEthernet (data : Octets) (off : Nat) : Outcome WireEthernet := do
  let dstMac ← slice data off 6
  let srcMac ← slice data (off + 6) 6
  let etherType ← be16 data (off + 12)
  return { dstMac, srcMac, etherType }

def readIPv4 (data : Octets) (off : Nat) : Outcome WireIPv4 := do
  let versionIhl ← byteAt data off
  let dscpEcn ← byteAt data (off + 1)
  let totalLength ← be16 data (off + 2)
  let identification ← be16 data (off + 4)
  let flagsFragment ← be16 data (off + 6)
  let ttl ← byteAt data (off + 8)
  let protocol ← byteAt data (off + 9)
  let checksum ← be16 data (off + 10)
  let srcAddr ← be32 data (off + 12)
  let dstAddr ← be32 data (off + 16)
  return { versionIhl, dscpEcn, totalLength, identification, flagsFragment, ttl, protocol, checksum,
           srcAddr, dstAddr }

def readIPv6 (data : Octets) (off : Nat) : Outcome WireIPv6 := do
  let versionClassFlow ← be32 data off
  let payloadLength ← be16 data (off + 4)
  let nextHeader ← byteAt data (off + 6)
  let hopLimit ← byteAt data (off + 7)
  let srcAddr ← slice data (off + 8) 16
  let dstAddr ← slice data (off + 24) 16
  return { versionClassFlow, payloadLength, nextHeader, hopLimit, srcAddr, dstAddr }

def readTCP (data : Octets) (off : Nat) : Outcome WireTCP := do
  let srcPort ← be16 data off
  let dstPort ← be16 data (off + 2)
  let seqNumber ← be32 data (off + 4)
  let ackNumber ← be32 data (off + 8)
  let dataOffsetReserved ← byteAt data (off + 12)
  let flags ← byteAt data (off + 13)
  let windowSize ← be16 data (off + 14)
  let checksum ← be16 data (off + 16)
  let urgentPointer ← be16 data (off + 18)
  return { srcPort, dstPort, seqNumber, ackNumber, dataOffsetReserved, flags, windowSize, checksum,
           urgentPointer }

def readUDP (data : Octets) (off : Nat) : Outcome WireUDP := do
  let srcPort ← be16 data off
  let dstPort ← be16 data (off + 2)
  let length ← be16 data (off + 4)
  let checksum ← be16 data (off + 6)
  return { srcPort, dstPort, length, checksum }

/-! ## Reads inside the buffer are defined -/

theorem readEthernet_defined (data : Octets) (off : Nat) (h : off + sizeofEthernet ≤ data.length) :
    ∃ eth, readEthernet data off = .ok eth := by
  unfold sizeofEthernet at h
  simp (disch := omega) [readEthernet, slice_of_le, be16_of_lt]

theorem readIPv4_defined (data : Octets) (off : Nat) (h : off + sizeofIPv4 ≤ data.length) :
    ∃ ip, readIPv4 data off = .ok ip := by
  unfold sizeofIPv4 at h
  simp (disch := omega) [readIPv4, byteAt_of_lt, be16_of_lt, be32_of_lt]

theorem readIPv6_defined (data : Octets) (off : Nat) (h : off + sizeofIPv6 ≤ data.length) :
    ∃ ip, readIPv6 data off = .ok ip := by
  unfold sizeofIPv6 at h
  simp (disch := omega) [readIPv6, byteAt_of_lt, be16_of_lt, be32_of_lt, slice_of_le]

theorem readTCP_defined (data : Octets) (off : Nat) (h : off + sizeofTCP ≤ data.length) :
    ∃ tcp, readTCP data off = .ok tcp := by
  unfold sizeofTCP at h
  simp (disch := omega) [readTCP, byteAt_of_lt, be16_of_lt, be32_of_lt]

theorem readUDP_defined (data : Octets) (off : Nat) (h : off + sizeofUDP ≤ data.length) :
    ∃ udp, readUDP data off = .ok udp := by
  unfold sizeofUDP at h
  simp (disch := omega) [readUDP, be16_of_lt]

/-! ## A header read is complete -/

section Complete
variable {data : Octets}

theorem readEthernet_etherType {eth : WireEthernet} (h : readEthernet data 0 = .ok eth) :
    be16 data 12 = .ok eth.etherType := by
  obtain ⟨dst, -, h⟩ := bind_eq_ok.mp h
  obtain ⟨src, -, h⟩ := bind_eq_ok.mp h
  obtain ⟨etherType, read, h⟩ := bind_eq_ok.mp h
  cases h
  exact read

theorem readEthernet_long {eth : WireEthernet} (h : readEthernet data 0 = .ok eth) : sizeofEthernet ≤ data.length :=
  be16_ok_lt (readEthernet_etherType h)

theorem readIPv4_long {ip : WireIPv4} (h : readIPv4 data 0 = .ok ip) : sizeofIPv4 ≤ data.length := by
  simp only [readIPv4, bind_eq_ok] at h
  obtain ⟨_, -, _, -, _, -, _, -, _, -, _, -, _, -, _, -, _, -, _, last, -⟩ := h
  exact be32_ok_lt last

theorem readIPv6_long {ip6 : WireIPv6} (h : readIPv6 data 0 = .ok ip6) : sizeofIPv6 ≤ data.length := by
  simp only [readIPv6, bind_eq_ok] at h
  obtain ⟨_, -, _, -, _, -, _, -, _, -, _, last, -⟩ := h
  exact slice_inside last

end Complete

/-! ## Reads behind a prefix -/

@[simp] theorem readIPv4_append (pre b : Octets) : readIPv4 (pre ++ b) pre.length = readIPv4 b 0 := by
  have head := byteAt_append_add pre b 0
  simp only [Nat.add_zero] at head
  simp only [readIPv4, head, byteAt_append_add, be16_append_add, be32_append_add, Nat.zero_add]

@[simp] theorem readIPv6_append (pre b : Octets) : readIPv6 (pre ++ b) pre.length = readIPv6 b 0 := by
  have head := be32_append_add pre b 0
  simp only [Nat.add_zero] at head
  simp only [readIPv6, head, byteAt_append_add, be16_append_add, slice_append_add, Nat.zero_add]

@[simp] theorem readTCP_append (pre b : Octets) : readTCP (pre ++ b) pre.length = readTCP b 0 := by
  have head := be16_append_add pre b 0
  simp only [Nat.add_zero] at head
  simp only [readTCP, head, byteAt_append_add, be16_append_add, be32_append_add, Nat.zero_add]

@[simp] theorem readUDP_append (pre b : Octets) : readUDP (pre ++ b) pre.length = readUDP b 0 := by
  have head := be16_append_add pre b 0
  simp only [Nat.add_zero] at head
  simp only [readUDP, head, be16_append_add, Nat.zero_add]

/-! ## Reads in front of a suffix -/

section Front
variable {a : Octets} (b : Octets)

theorem readEthernet_append_left (h : sizeofEthernet ≤ a.length) : readEthernet (a ++ b) 0 = readEthernet a 0 := by
  unfold sizeofEthernet at h
  simp (disch := omega) only [readEthernet, slice_append_left, be16_append_left]

theorem readIPv4_append_left (h : sizeofIPv4 ≤ a.length) : readIPv4 (a ++ b) 0 = readIPv4 a 0 := by
  unfold sizeofIPv4 at h
  simp (disch := omega) only [readIPv4, byteAt_append_left, be16_append_left, be32_append_left]

theorem readIPv6_append_left (h : sizeofIPv6 ≤ a.length) : readIPv6 (a ++ b) 0 = readIPv6 a 0 := by
  unfold sizeofIPv6 at h
  simp (disch := omega) only [readIPv6, byteAt_append_left, be16_append_left, be32_append_left, slice_append_left]

theorem readTCP_append_left (h : sizeofTCP ≤ a.length) : readTCP (a ++ b) 0 = readTCP a 0 := by
  unfold sizeofTCP at h
  simp (disch := omega) only [readTCP, byteAt_append_left, be16_append_left, be32_append_left]

theorem readUDP_append_left (h : sizeofUDP ≤ a.length) : readUDP (a ++ b) 0 = readUDP a 0 := by
  unfold sizeofUDP at h
  simp (disch := omega) only [readUDP, be16_append_left]

end Front

/-! ## Laying out -/

def WireEthernet.encode (eth : WireEthernet) : Octets := eth.dstMac ++ eth.srcMac ++ put16 eth.etherType

def WireIPv4.encode (ip : WireIPv4) : Octets :=
  [ip.versionIhl, ip.dscpEcn] ++ put16 ip.totalLength ++ put16 ip.identification ++
    put16 ip.flagsFragment ++ [ip.ttl, ip.protocol] ++ put16 ip.checksum ++ put32 ip.srcAddr ++
    put32 ip.dstAddr

def WireIPv6.encode (ip : WireIPv6) : Octets :=
  put32 ip.versionClassFlow ++ put16 ip.payloadLength ++ [ip.nextHeader, ip.hopLimit] ++
    ip.srcAddr ++ ip.dstAddr

def WireTCP.encode (tcp : WireTCP) : Octets :=
  put16 tcp.srcPort ++ put16 tcp.dstPort ++ put32 tcp.seqNumber ++ put32 tcp.ackNumber ++
    [tcp.dataOffsetReserved, tcp.flags] ++ put16 tcp.windowSize ++ put16 tcp.checksum ++
    put16 tcp.urgentPointer

def WireUDP.encode (udp : WireUDP) : Octets :=
  put16 udp.srcPort ++ put16 udp.dstPort ++ put16 udp.length ++ put16 udp.checksum

@[simp] theorem WireIPv4.encode_length (ip : WireIPv4) : ip.encode.length = sizeofIPv4 := rfl
@[simp] theorem WireTCP.encode_length (tcp : WireTCP) : tcp.encode.length = sizeofTCP := rfl
@[simp] theorem WireUDP.encode_length (udp : WireUDP) : udp.encode.length = sizeofUDP := rfl

theorem WireEthernet.encode_length {eth : WireEthernet} (hd : eth.dstMac.length = 6)
    (hs : eth.srcMac.length = 6) : eth.encode.length = sizeofEthernet := by
  simp [encode, hd, hs, put16, sizeofEthernet]

theorem WireIPv6.encode_length {ip : WireIPv6} (hs : ip.srcAddr.length = 16)
    (hd : ip.dstAddr.length = 16) : ip.encode.length = sizeofIPv6 := by
  simp [encode, hd, hs, put16, put32, sizeofIPv6]

theorem slice_exact {x b rest : Octets} {n : Nat} (hb : b = x ++ rest) (hn : x.length = n) :
    slice b 0 n = .ok x := by
  subst hb hn
  simp [slice]

theorem readEthernet_encode {eth : WireEthernet} (hd : eth.dstMac.length = 6)
    (hs : eth.srcMac.length = 6) (rest : Octets) : readEthernet (eth.encode ++ rest) 0 = .ok eth := by
  have hdst : slice (eth.encode ++ rest) 0 6 = .ok eth.dstMac :=
    slice_exact (by simp [WireEthernet.encode]; rfl) hd
  have hsrc : slice (eth.encode ++ rest) 6 6 = .ok eth.srcMac := by
    have shift := slice_append_add eth.dstMac (eth.srcMac ++ put16 eth.etherType ++ rest) 0 6
    rw [hd] at shift
    rw [WireEthernet.encode, List.append_assoc, List.append_assoc, ← List.append_assoc eth.srcMac]
    exact shift.trans (slice_exact (List.append_assoc _ _ _) hs)
  have htype : be16 (eth.encode ++ rest) 12 = .ok eth.etherType := by
    have shift := be16_append_add (eth.dstMac ++ eth.srcMac) (put16 eth.etherType ++ rest) 0
    rw [List.length_append, hd, hs] at shift
    rw [WireEthernet.encode, List.append_assoc]
    exact shift.trans (by simp [be16, put16])
  simp [readEthernet, hdst, hsrc, htype]

theorem readIPv4_encode (ip : WireIPv4) (rest : Octets) : readIPv4 (ip.encode ++ rest) 0 = .ok ip := by
  simp [readIPv4, WireIPv4.encode, put16, put32, be16, be32]

theorem readTCP_encode (tcp : WireTCP) (rest : Octets) : readTCP (tcp.encode ++ rest) 0 = .ok tcp := by
  simp [readTCP, WireTCP.encode, put16, put32, be16, be32]

theorem readUDP_encode (udp : WireUDP) (rest : Octets) : readUDP (udp.encode ++ rest) 0 = .ok udp := by
  simp [readUDP, WireUDP.encode, put16, be16]

theorem readIPv6_encode {ip : WireIPv6} (hs : ip.srcAddr.length = 16) (hd : ip.dstAddr.length = 16)
    (rest : Octets) : readIPv6 (ip.encode ++ rest) 0 = .ok ip := by
  let fixed : Octets := put32 ip.versionClassFlow ++ put16 ip.payloadLength ++ [ip.nextHeader, ip.hopLimit]
  have hsrc : slice (ip.encode ++ rest) 8 16 = .ok ip.srcAddr := by
    have shift := slice_append_add fixed (ip.srcAddr ++ (ip.dstAddr ++ rest)) 0 16
    have split : ip.encode ++ rest = fixed ++ (ip.srcAddr ++ (ip.dstAddr ++ rest)) := by
      simp [WireIPv6.encode, fixed]
    rw [split]
    exact shift.trans (slice_exact rfl hs)
  have hdst : slice (ip.encode ++ rest) 24 16 = .ok ip.dstAddr := by
    have shift := slice_append_add (fixed ++ ip.srcAddr) (ip.dstAddr ++ rest) 0 16
    have split : ip.encode ++ rest = (fixed ++ ip.srcAddr) ++ (ip.dstAddr ++ rest) := by
      simp [WireIPv6.encode, fixed]
    rw [List.length_append, hs] at shift
    rw [split]
    exact shift.trans (slice_exact rfl hd)
  simp only [readIPv6, Nat.zero_add, hsrc, hdst]
  simp [WireIPv6.encode, put16, put32, be16, be32]

end Nte
