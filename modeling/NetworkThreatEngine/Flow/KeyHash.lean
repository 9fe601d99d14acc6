import NetworkThreatEngine.Flow.AddressText
import NetworkThreatEngine.Flow.Key
import NetworkThreatEngine.Lib.Fnv

/-!
# Hashes of flow keys

`FlowKeyHash` mixes the fields of a key in turn. The ports and the protocol come last and are five bytes together, so
that whoever varies them between two hosts never makes two flows meet.
-/
namespace Nte
open ByteReader Fnv

/-- `std::endian::native`: in which order a port lies in memory. -/
inductive ByteOrder where
  | little
  | big
  deriving DecidableEq, Repr

def ByteOrder.bytes (order : ByteOrder) (port : UInt16) : Octets :=
  match order with
  | .little => (put16 port).reverse
  | .big => put16 port

namespace FlowKey

/-- `FlowKeyHash::operator()`, where `size_t` has 64 bits. -/
def hash (order : ByteOrder) (key : FlowKey) : UInt64 :=
  let hash := mixBytes OFFSET key.loAddr.val
  let hash := mixBytes hash key.hiAddr.val
  let hash := mixBytes hash (order.bytes key.loPort)
  let hash := mixBytes hash (order.bytes key.hiPort)
  mixBytes hash [key.protocol]

/-! ## The bytes of a key -/

variable {order : ByteOrder}

theorem bytes_length (port : UInt16) : (order.bytes port).length = 2 := by
  cases order <;> rfl

theorem bytes_injective : Function.Injective order.bytes := by
  intro p q same
  have put : put16 p = put16 q := by
    cases order with
    | little => exact List.reverse_injective same
    | big => exact same
  rw [put16, put16, List.cons.injEq, List.cons.injEq] at put
  rw [← word16_put16 p, put.1, put.2.1, word16_put16]

/-- The ports and the protocol. -/
def tail (order : ByteOrder) (key : FlowKey) : Octets :=
  order.bytes key.loPort ++ order.bytes key.hiPort ++ [key.protocol]

theorem tail_length (key : FlowKey) : (key.tail order).length = 5 := by
  simp only [tail, List.length_append, bytes_length, List.length_singleton]

theorem tail_eq_iff {key other : FlowKey} : key.tail order = other.tail order ↔
    key.loPort = other.loPort ∧ key.hiPort = other.hiPort ∧ key.protocol = other.protocol := by
  constructor
  · intro same
    obtain ⟨ports, protocol⟩ := List.append_inj' same rfl
    obtain ⟨lo, hi⟩ := List.append_inj ports (by rw [bytes_length, bytes_length])
    exact ⟨bytes_injective lo, bytes_injective hi, List.singleton_injective protocol⟩
  · rintro ⟨lo, hi, protocol⟩
    rw [tail, tail, lo, hi, protocol]

theorem hash_eq (key : FlowKey) :
    key.hash order = mixBytes OFFSET (key.loAddr.val ++ key.hiAddr.val ++ key.tail order) := by
  simp only [hash, tail, mixBytes_append]

/-! ## Keys that never meet -/

theorem hash_injective_of_hosts {key other : FlowKey} (lo : key.loAddr = other.loAddr) (hi : key.hiAddr = other.hiAddr)
    (same : key.hash order = other.hash order) : key = other := by
  rw [hash_eq, hash_eq, lo, hi, mixBytes_append, mixBytes_append _ _ (other.tail order)] at same
  have long : (key.tail order).length = (other.tail order).length := by rw [tail_length, tail_length]
  obtain ⟨loPort, hiPort, protocol⟩ := tail_eq_iff.mp (mixBytes_left_cancel long (tail_length key).le same)
  cases key
  cases other
  dsimp only at lo hi loPort hiPort protocol
  subst lo hi loPort hiPort protocol
  rfl

/-- Which address is the lower one does not depend on the ports. -/
theorem make_hosts (a b : Addr128) (p q : UInt16) (proto : UInt8) :
    ((make a b p q proto).loAddr, (make a b p q proto).hiAddr) = if a.val < b.val then (a, b) else (b, a) := by
  unfold make
  cases h : srcIsLo a b p q with
  | true =>
      rcases (srcIsLo_iff a b p q).mp h with less | ⟨rfl, -⟩
      · rw [if_pos less]
        rfl
      · rw [ite_self]
        rfl
  | false =>
      have above : ¬ a.val < b.val := by
        intro less
        rw [(srcIsLo_iff a b p q).mpr (.inl less)] at h
        cases h
      rw [if_neg above]
      rfl

theorem hash_make_eq_iff (order : ByteOrder) (a b : Addr128) (p q p' q' : UInt16) (proto proto' : UInt8) :
    (make a b p q proto).hash order = (make a b p' q' proto').hash order ↔
      proto = proto' ∧ s((a, p), (b, q)) = s((a, p'), (b, q')) := by
  rw [← make_eq_iff]
  constructor
  · intro same
    obtain ⟨lo, hi⟩ := Prod.mk.inj ((make_hosts a b p q proto).trans (make_hosts a b p' q' proto').symm)
    exact hash_injective_of_hosts lo hi same
  · intro same
    rw [same]

/-- The last four bytes of a mapped address are the only ones that tell it from others. -/
theorem mixBytes_ipv4_injective {hash : UInt64} {before behind : Octets} {x y : UInt32}
    (same : mixBytes hash (before ++ (ipv4ToAddr128 x).val ++ behind) =
      mixBytes hash (before ++ (ipv4ToAddr128 y).val ++ behind)) : x = y := by
  have parts (z : UInt32) : before ++ (ipv4ToAddr128 z).val ++ behind =
      before ++ (List.replicate 10 0 ++ [0xFF, 0xFF]) ++ put32 z ++ behind := by
    simp only [ipv4ToAddr128, List.append_assoc]
  rw [parts, parts] at same
  exact put32_injective (mixBytes_middle_cancel rfl (by decide : 4 ≤ 5) same)

/-- The flows between two hosts have hashes of their own, whatever their ports and protocols are; and so have the keys
that differ in one IPv4 host. -/
theorem hash_apart (order : ByteOrder) :
    (∀ a b p q proto p' q' proto', (make a b p q proto).hash order = (make a b p' q' proto').hash order ↔
      proto = proto' ∧ s((a, p), (b, q)) = s((a, p'), (b, q'))) ∧
      (∀ (key : FlowKey) x y, { key with loAddr := ipv4ToAddr128 x }.hash order =
        { key with loAddr := ipv4ToAddr128 y }.hash order ↔ x = y) ∧
        ∀ (key : FlowKey) x y, { key with hiAddr := ipv4ToAddr128 x }.hash order =
          { key with hiAddr := ipv4ToAddr128 y }.hash order ↔ x = y := by
  refine ⟨?_, ?_, ?_⟩
  · intro a b p q proto p' q' proto'
    exact hash_make_eq_iff order a b p q p' q' proto proto'
  · intro key x y
    constructor
    · intro same
      have bytes (z : UInt32) : { key with loAddr := ipv4ToAddr128 z }.hash order =
          mixBytes OFFSET ([] ++ (ipv4ToAddr128 z).val ++ (key.hiAddr.val ++ key.tail order)) := by
        rw [hash_eq, List.append_assoc]
        rfl
      rw [bytes, bytes] at same
      exact mixBytes_ipv4_injective same
    · rintro rfl
      rfl
  · intro key x y
    constructor
    · intro same
      rw [hash_eq, hash_eq] at same
      exact mixBytes_ipv4_injective same
    · rintro rfl
      rfl

end FlowKey

end Nte
