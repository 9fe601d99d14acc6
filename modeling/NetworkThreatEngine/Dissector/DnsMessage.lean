import NetworkThreatEngine.Dissector.Names

/-!
# DNS messages

What a sender puts on the wire: the six header words, a first question whose name is written out, and
whatever follows. `extract_dns` reads the question back from every one of them, since a name of at most 255
bytes has fewer labels than the hop limit.
-/
namespace Nte
open ByteReader ByteReader.Outcome Constants

/-- A name written out label by label, within the limits of the protocol. -/
structure DnsName where
  labels : List Octets
  labelled : labels ≠ []
  sized : ∀ label ∈ labels, 1 ≤ label.length ∧ label.length ≤ 63
  fits : (seq8 labels).length + 1 ≤ 255

def DnsName.encode (name : DnsName) : Octets := seq8 name.labels ++ [0]
def DnsName.dotted (name : DnsName) : Octets := (ascii ".").intercalate name.labels

structure DnsMessage where
  id : UInt16
  flags : UInt16
  qdcount : UInt16
  asked : qdcount ≠ 0
  ancount : UInt16
  nscount : UInt16
  arcount : UInt16
  qname : DnsName
  qtype : UInt16
  qclass : UInt16
  following : Octets

namespace DnsMessage

def header (m : DnsMessage) : Octets :=
  put16 m.id ++ put16 m.flags ++ put16 m.qdcount ++ put16 m.ancount ++ put16 m.nscount ++ put16 m.arcount

def encode (m : DnsMessage) : Octets :=
  m.header ++ (m.qname.encode ++ (put16 m.qtype ++ (put16 m.qclass ++ m.following)))

/-- The QR bit, the top bit of the flags word. -/
def isResponse (m : DnsMessage) : Bool := m.flags.toNat.testBit 15

def info (m : DnsMessage) : DnsInfo :=
  { queryName := m.qname.dotted, queryType := m.qtype, isResponse := m.isResponse }

end DnsMessage

/-! ## The loop over labels in place -/

/-- The two high bits of a length byte are both set from 192 on. -/
theorem pointerBits_iff (n : UInt8) : n &&& 0xC0 = 0xC0 ↔ 192 ≤ n.toNat := by
  have small : ∀ k : Fin 256, UInt8.ofNat k &&& 0xC0 = 0xC0 ↔ 192 ≤ k.val := by decide +kernel
  have self := small ⟨n.toNat, n.toNat_lt⟩
  rwa [UInt8.ofNat_toNat] at self

section Labels
variable {payload name label : Octets} {labels : List Octets} {off hops : Nat}

theorem dnsLabels_cons (size : 0 < label.length ∧ label.length < 192) (held : Holds payload off (vec8 label)) :
    dnsLabels payload payload.length (hops + 1) off name =
      dnsLabels payload payload.length hops (off + (vec8 label).length) (appendLabel name label) := by
  obtain ⟨n, length, same, body⟩ := vec8_of_holds held (by omega)
  have inside := held.inside
  rw [length_vec8] at inside
  have counted : n ≠ 0 := by
    rintro rfl
    exact absurd same (Nat.ne_of_lt size.1)
  have plain : ¬ n &&& 0xC0 = 0xC0 := by
    rw [pointerBits_iff, same]
    omega
  have fits : ¬ off + 1 + n.toNat > payload.length := by omega
  have taken : slice payload (off + 1) n.toNat = .ok label := by
    rw [same]
    exact slice_of_holds body
  rw [dnsLabels, if_pos (by omega), length, ok_bind, if_neg counted, if_neg plain, if_neg fits, taken, ok_bind, same,
    length_vec8, ← Nat.add_assoc]
  rfl

/-- The loop passes labels that stand in the payload, as long as its hops last. -/
theorem dnsLabels_walk (sized : ∀ label ∈ labels, 0 < label.length ∧ label.length < 192)
    (held : Holds payload off (seq8 labels)) :
    dnsLabels payload payload.length (labels.length + hops) off name =
      dnsLabels payload payload.length hops (off + (seq8 labels).length) (labels.foldl appendLabel name) := by
  induction labels generalizing off name with
  | nil => rw [List.length_nil, Nat.zero_add]; rfl
  | cons label labels ih =>
      rw [List.forall_mem_cons] at sized
      rw [List.length_cons, Nat.add_right_comm, dnsLabels_cons sized.1 held.left, ih sized.2 held.right, seq8_cons,
        List.length_append, ← Nat.add_assoc, List.foldl_cons]

theorem dnsLabels_root (zero : byteAt payload off = .ok 0) :
    dnsLabels payload payload.length (hops + 1) off name = .ok (off + 1, name) := by
  rw [dnsLabels, if_pos (byteAt_ok_lt zero), zero, ok_bind, if_pos rfl]
  rfl

theorem intercalate_ne_nil (labelled : labels ≠ []) (sized : ∀ label ∈ labels, 0 < label.length) (sep : Octets) :
    sep.intercalate labels ≠ [] := by
  cases labels with
  | nil => exact absurd rfl labelled
  | cons label labels =>
      have first : label ≠ [] := List.length_pos_iff.mp (sized label List.mem_cons_self)
      cases labels with
      | nil => rwa [List.intercalate_singleton]
      | cons next labels =>
          rw [List.intercalate_cons_cons]
          simp [first]

/-- A payload with labels, a zero byte and a type behind its header is decoded to these. -/
theorem decodeDns_labels {high : UInt8} {count type : UInt16} (labelled : labels ≠ [])
    (sized : ∀ label ∈ labels, 0 < label.length ∧ label.length < 192) (few : labels.length < DNS_MAX_LABEL_HOPS)
    (flags : byteAt payload 2 = .ok high) (qdcount : be16 payload 4 = .ok count) (asked : count ≠ 0)
    (held : Holds payload DNS_HEADER_SIZE (seq8 labels ++ [0] ++ put16 type)) :
    decodeDns payload payload.length =
      .ok { queryName := (ascii ".").intercalate labels, queryType := type, isResponse := high &&& 0x80 != 0 } := by
  have positive : ∀ label ∈ labels, 0 < label.length := fun label mem => (sized label mem).1
  have walked : dnsLabels payload payload.length DNS_MAX_LABEL_HOPS DNS_HEADER_SIZE [] =
      .ok (DNS_HEADER_SIZE + (seq8 labels ++ [0]).length, (ascii ".").intercalate labels) := by
    obtain ⟨spare, hops⟩ := Nat.exists_eq_add_of_lt few
    rw [hops, Nat.add_assoc, dnsLabels_walk sized held.left.left, dnsLabels_root (byteAt_of_holds held.left.right),
      joined positive, List.length_append, ← Nat.add_assoc]
    rfl
  have behind : Holds payload (DNS_HEADER_SIZE + (seq8 labels ++ [0]).length) (put16 type ++ []) := by
    rw [List.append_nil]
    exact held.right
  have inside := held.inside
  have some := List.length_pos_iff.mpr labelled
  have two := length_seq8_ge positive
  simp only [List.length_append, length_put16, List.length_singleton] at inside
  have passed : ¬ (((ascii ".").intercalate labels).isEmpty ||
      decide (DNS_HEADER_SIZE + (seq8 labels ++ [0]).length + 2 > payload.length)) = true := by
    rw [Bool.or_eq_true, List.isEmpty_iff, decide_eq_true_iff, not_or, List.length_append, List.length_singleton]
    exact ⟨intercalate_ne_nil labelled positive _, by omega⟩
  rw [decodeDns, if_neg (by omega), flags, ok_bind, qdcount, ok_bind, if_neg asked, walked, ok_bind]
  dsimp only
  rw [if_neg passed, be16_of_holds behind, ok_bind]
  rfl

end Labels

/-! ## Reading a message back -/

section Name
variable (name : DnsName)

theorem DnsName.positive : ∀ label ∈ name.labels, 0 < label.length := fun label mem => (name.sized label mem).1

theorem DnsName.plain : ∀ label ∈ name.labels, 0 < label.length ∧ label.length < 192 := by
  intro label mem
  have size := name.sized label mem
  omega

theorem few_labels {labels : List Octets} (sized : ∀ label ∈ labels, 0 < label.length)
    (fits : (seq8 labels).length + 1 ≤ 255) : labels.length < DNS_MAX_LABEL_HOPS := by
  have two := length_seq8_ge sized
  have hops : DNS_MAX_LABEL_HOPS = 128 := rfl
  omega

end Name

/-- The top bit of a word's first byte is the top bit of the word. -/
theorem top_bit (word : UInt16) : (UInt8.ofNat (word.toNat >>> 8) &&& 0x80 != 0) = word.toNat.testBit 15 := by
  have masked : (UInt8.ofNat (word.toNat >>> 8) &&& 0x80).toNat = (word.toNat.testBit 15).toNat * 2 ^ 7 := by
    have mask : (0x80 : UInt8).toNat = 2 ^ 7 := rfl
    rw [UInt8.toNat_and, UInt8.toNat_ofNat', mask, Nat.and_two_pow, Nat.testBit_mod_two_pow, Nat.testBit_shiftRight]
    rfl
  cases bit : word.toNat.testBit 15 with
  | false =>
      rw [bit] at masked
      rw [UInt8.toNat_inj.mp (masked.trans (show _ = (0 : UInt8).toNat from rfl))]
      rfl
  | true =>
      rw [bit] at masked
      rw [UInt8.toNat_inj.mp (masked.trans (show _ = (0x80 : UInt8).toNat from rfl))]
      rfl

namespace DnsMessage
variable (m : DnsMessage)

theorem held_question :
    Holds m.encode DNS_HEADER_SIZE (m.qname.encode ++ (put16 m.qtype ++ (put16 m.qclass ++ m.following))) :=
  ⟨m.header, [], (List.append_nil _).symm, rfl⟩

theorem decodeDns_encode : decodeDns m.encode m.encode.length = .ok m.info := by
  have qdcount : be16 m.encode 4 = .ok m.qdcount := by
    have held : Holds m.encode 0 (put16 m.id ++ (put16 m.flags ++ (put16 m.qdcount ++ (put16 m.ancount ++
      (put16 m.nscount ++ put16 m.arcount))))) := holds_prefix _ _
    exact be16_of_holds held.right.right
  have held : Holds m.encode DNS_HEADER_SIZE (m.qname.encode ++ put16 m.qtype) :=
    m.held_question.left.append m.held_question.right.left
  have flags : byteAt m.encode 2 = .ok (UInt8.ofNat (m.flags.toNat >>> 8)) := rfl
  rw [decodeDns_labels m.qname.labelled m.qname.plain (few_labels m.qname.positive m.qname.fits) flags qdcount
    m.asked held, top_bit]
  rfl

end DnsMessage

/-- Every well-formed message is decoded to the question its sender wrote. -/
theorem dns_complete (m : DnsMessage) (info : PacketInfo) :
    extractDns m.encode m.encode.length info =
      .ok { info with
        dns := some { queryName := (ascii ".").intercalate m.qname.labels, queryType := m.qtype,
                      isResponse := m.flags.toNat.testBit 15 },
        l7Proto := .DNS } := by
  rw [extractDns, m.decodeDns_encode]
  rfl

end Nte
