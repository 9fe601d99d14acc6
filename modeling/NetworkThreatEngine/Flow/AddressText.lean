import NetworkThreatEngine.Dissector.Network
import NetworkThreatEngine.Flow.Address
import NetworkThreatEngine.Lib.Separators

/-!
# One text for one address

The text of an address says which address it is: texts of one family are read back as what was formatted, and
a colon tells the families apart. A `::` is written once at most.
-/
namespace Nte
open ByteReader ByteReader.Outcome InetText Numeral Separators

/-! ## Colons -/

theorem colon_notMem_numeral {base : Nat} (least : 1 < base) (most : base ≤ 16) (n : Nat) : colon ∉ numeral base n := by
  intro inside
  obtain ⟨d, value, -⟩ := isDigit_iff.mp (numeral_isDigit least most inside)
  rw [show digitValue colon = none from colon_not_digit] at value
  cases value

/-- Dotted decimal has no colon. -/
theorem colon_notMem_formatIpv4 (addr : UInt32) : colon ∉ formatIpv4 addr := by
  have field (n : Nat) : colon ∉ numeral 10 n := colon_notMem_numeral (by decide) (by decide) n
  have other : colon ≠ dot := by decide
  simp only [formatIpv4, List.mem_append, List.mem_cons, field, other, or_self, not_false_eq_true]

theorem tight_joinGroups (groups : List UInt16) : Tight colon (joinGroups groups) := by
  apply tight_intercalate
  · simp only [List.forall_mem_map]
    exact fun g _ => numeral_ne_nil 16 g.toNat
  · simp only [List.forall_mem_map]
    exact fun g _ => colon_notMem_numeral (by decide) (by decide) g.toNat

/-- Colons in a row are where groups are left out. -/
theorem pairAt_formatIpv6 {addr : Octets} {i : Nat} (pair : PairAt colon (formatIpv6 addr) i) :
    ∃ start len, elidedRun ((ipv6Groups addr).map (· == 0)) = some (start, len) ∧
      i = (joinGroups ((ipv6Groups addr).take start)).length := by
  rw [formatIpv6_text] at pair
  cases run : elidedRun ((ipv6Groups addr).map (· == 0)) with
  | none =>
      rw [run] at pair
      exact absurd pair ((tight_joinGroups _).apart i)
  | some run' =>
      obtain ⟨start, len⟩ := run'
      rw [run, groupText] at pair
      exact ⟨start, len, rfl, ((tight_joinGroups _).pairAt_iff (tight_joinGroups _)).mp pair⟩

theorem pairAt_unique {addr : Octets} {i j : Nat} (first : PairAt colon (formatIpv6 addr) i)
    (second : PairAt colon (formatIpv6 addr) j) : i = j := by
  obtain ⟨start, len, run, rfl⟩ := pairAt_formatIpv6 first
  obtain ⟨start', len', run', rfl⟩ := pairAt_formatIpv6 second
  obtain ⟨rfl, -⟩ := Prod.mk.inj (Option.some.inj (run.symm.trans run'))
  rfl

/-- Eight groups are not written without one. -/
theorem colon_mem_formatIpv6 (addr : Octets) : colon ∈ formatIpv6 addr := by
  rw [formatIpv6_text]
  cases elidedRun ((ipv6Groups addr).map (· == 0)) with
  | none =>
      obtain ⟨a, b, rest, groups⟩ : ∃ a b rest, ipv6Groups addr = a :: b :: rest := ⟨_, _, _, rfl⟩
      rw [groupText, joinGroups_eq, groups, groupsText_cons]
      exact List.mem_append_right _ List.mem_cons_self
  | some run => exact List.mem_append_left _ (List.mem_append_right _ List.mem_cons_self)

theorem formatIpv4_ne_formatIpv6 (addr : UInt32) (addr6 : Octets) : formatIpv4 addr ≠ formatIpv6 addr6 := by
  intro same
  have inside := colon_mem_formatIpv6 addr6
  rw [← same] at inside
  exact colon_notMem_formatIpv4 addr inside

/-- The text fits the formatter's buffer of 16 characters, the closing zero included. -/
theorem formatIpv4_length (addr : UInt32) : (formatIpv4 addr).length < 16 := by
  have field (shift : Nat) : (numeral 10 (ipv4Octet addr shift)).length ≤ 3 := by
    have small : ipv4Octet addr shift < 10 ^ 3 := by
      rw [ipv4Octet_eq]
      exact Nat.lt_trans (UInt8.toNat_lt _) (by decide)
    exact numeral_length_le (by decide) (by decide) small
  have a := field 24
  have b := field 16
  have c := field 8
  have d := field 0
  simp only [formatIpv4, List.length_append, List.length_cons]
  omega

/-! ## Addresses of both families -/

inductive WireAddress where
  | ipv4 (addr : UInt32)
  | ipv6 (addr : Addr128)

namespace WireAddress

def proto : WireAddress → L3Protocol
  | ipv4 _ => .IPv4
  | ipv6 _ => .IPv6

/-- The address as it is in the network header. -/
def bytes : WireAddress → Octets
  | ipv4 addr => put32 addr
  | ipv6 addr => addr.val

def text : WireAddress → Octets
  | ipv4 addr => formatIpv4 addr
  | ipv6 addr => formatIpv6 addr.val

end WireAddress

theorem ipv4ToAddr128_injective : Function.Injective ipv4ToAddr128 := by
  intro a b same
  exact put32_injective (List.append_cancel_left (congrArg Subtype.val same))

theorem formatIpv4_injective : Function.Injective formatIpv4 := by
  intro a b same
  apply ipv4ToAddr128_injective
  rw [← makeAddr128_formatIpv4, ← makeAddr128_formatIpv4, same]

theorem formatIpv6_injective {a b : Addr128} (same : formatIpv6 a.val = formatIpv6 b.val) : a = b := by
  rw [← makeAddr128_formatIpv6 a, ← makeAddr128_formatIpv6 b, same]

theorem WireAddress.text_injective : Function.Injective WireAddress.text := by
  intro a b same
  cases a with
  | ipv4 a =>
      cases b with
      | ipv4 b => exact congrArg ipv4 (formatIpv4_injective same)
      | ipv6 b => exact absurd same (formatIpv4_ne_formatIpv6 a b.val)
  | ipv6 a =>
      cases b with
      | ipv4 b => exact absurd same.symm (formatIpv4_ne_formatIpv6 b a.val)
      | ipv6 b => exact congrArg ipv6 (formatIpv6_injective same)

/-- The family and the bytes in the header determine the address. -/
theorem WireAddress.eq_of_bytes {a b : WireAddress} (family : a.proto = b.proto) (same : a.bytes = b.bytes) : a = b := by
  cases a with
  | ipv4 a =>
      cases b with
      | ipv4 b => exact congrArg ipv4 (put32_injective same)
      | ipv6 b => cases family
  | ipv6 a =>
      cases b with
      | ipv4 b => cases family
      | ipv6 b => exact congrArg ipv6 (Subtype.ext same)

/-! ## Addresses of dissected packets -/

section Dissected
variable {c : Capture}

theorem exists_ipv4Addresses (v4 : (dissect c).l3Proto = .IPv4) :
    ∃ src dst : UInt32, (dissect c).srcIp = formatIpv4 src ∧ (dissect c).dstIp = formatIpv4 dst ∧
      c.srcAddr = put32 src ∧ c.dstAddr = put32 dst := by
  have header := dissect_readFrom c
  rw [ReadFrom, v4] at header
  obtain ⟨ip, read, srcText, dstText⟩ := header
  obtain ⟨src, dst⟩ := readIPv4_addresses read
  refine ⟨ip.srcAddr, ip.dstAddr, srcText, dstText, ?_, ?_⟩
  · rw [Capture.srcAddr, if_pos v4, ← put32_of_be32 src]
  · rw [Capture.dstAddr, if_pos v4, ← put32_of_be32 dst]

theorem exists_ipv6Addresses (v6 : (dissect c).l3Proto = .IPv6) :
    ∃ src dst : Addr128, (dissect c).srcIp = formatIpv6 src.val ∧ (dissect c).dstIp = formatIpv6 dst.val ∧
      c.srcAddr = src.val ∧ c.dstAddr = dst.val := by
  have header := dissect_readFrom c
  rw [ReadFrom, v6] at header
  obtain ⟨ip6, read, srcText, dstText⟩ := header
  obtain ⟨src, dst⟩ := readIPv6_addresses read
  obtain ⟨srcBytes, srcLength⟩ := slice_ok src
  obtain ⟨dstBytes, dstLength⟩ := slice_ok dst
  have not4 : (dissect c).l3Proto ≠ .IPv4 := by
    rw [v6]
    decide
  refine ⟨⟨ip6.srcAddr, srcLength⟩, ⟨ip6.dstAddr, dstLength⟩, srcText, dstText, ?_, ?_⟩
  · rw [Capture.srcAddr, if_neg not4, ← srcBytes]
  · rw [Capture.dstAddr, if_neg not4, ← dstBytes]

theorem exists_source (ip : (dissect c).l3Proto = .IPv4 ∨ (dissect c).l3Proto = .IPv6) :
    ∃ a : WireAddress, a.proto = (dissect c).l3Proto ∧ a.text = (dissect c).srcIp ∧ a.bytes = c.srcAddr := by
  rcases ip with v4 | v6
  · obtain ⟨src, -, text, -, bytes, -⟩ := exists_ipv4Addresses v4
    exact ⟨.ipv4 src, v4.symm, text.symm, bytes.symm⟩
  · obtain ⟨src, -, text, -, bytes, -⟩ := exists_ipv6Addresses v6
    exact ⟨.ipv6 src, v6.symm, text.symm, bytes.symm⟩

end Dissected

/-- Two IP packets carry one source text exactly if they are of one family and from one address. -/
theorem srcIp_eq_iff {p q : Capture} (hp : (dissect p).l3Proto = .IPv4 ∨ (dissect p).l3Proto = .IPv6)
    (hq : (dissect q).l3Proto = .IPv4 ∨ (dissect q).l3Proto = .IPv6) :
    (dissect p).srcIp = (dissect q).srcIp ↔
      (dissect p).l3Proto = (dissect q).l3Proto ∧ p.srcAddr = q.srcAddr := by
  obtain ⟨a, family, text, bytes⟩ := exists_source hp
  obtain ⟨b, family', text', bytes'⟩ := exists_source hq
  rw [← text, ← text', ← family, ← family', ← bytes, ← bytes']
  constructor
  · intro same
    obtain rfl := WireAddress.text_injective same
    exact ⟨rfl, rfl⟩
  · rintro ⟨family, same⟩
    rw [WireAddress.eq_of_bytes family same]

end Nte
