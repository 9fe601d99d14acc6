import NetworkThreatEngine.Flow.Address

/-!
# Flow keys

The two directions of a conversation share a key: the lower endpoint comes first.
-/
namespace Nte

structure FlowKey where
  loAddr : Addr128
  hiAddr : Addr128
  loPort : UInt16
  hiPort : UInt16
  protocol : UInt8
  deriving DecidableEq, Repr

namespace FlowKey

/-- Lexicographic on the addresses; the port breaks ties. -/
def srcIsLo (srcAddr dstAddr : Addr128) (srcPort dstPort : UInt16) : Bool :=
  srcAddr.val < dstAddr.val || (srcAddr == dstAddr && srcPort ≤ dstPort)

def make (srcAddr dstAddr : Addr128) (srcPort dstPort : UInt16) (proto : UInt8) : FlowKey :=
  if srcIsLo srcAddr dstAddr srcPort dstPort then
    { protocol := proto, loAddr := srcAddr, loPort := srcPort, hiAddr := dstAddr, hiPort := dstPort }
  else
    { protocol := proto, loAddr := dstAddr, loPort := dstPort, hiAddr := srcAddr, hiPort := srcPort }

/-- `operator==`. -/
def equal (key other : FlowKey) : Bool :=
  key.loAddr == other.loAddr && key.hiAddr == other.hiAddr && key.loPort == other.loPort &&
    key.hiPort == other.hiPort && key.protocol == other.protocol

theorem equal_iff {key other : FlowKey} : key.equal other = true ↔ key = other := by
  obtain ⟨loAddr, hiAddr, loPort, hiPort, protocol⟩ := key
  obtain ⟨loAddr', hiAddr', loPort', hiPort', protocol'⟩ := other
  simp only [equal, Bool.and_eq_true, beq_iff_eq, mk.injEq, and_assoc]

/-! ## The endpoints of a key -/

abbrev Endpoint := Addr128 × UInt16

/-- Lexicographic: the addresses first, then the ports. -/
def Endpoint.le (e e' : Endpoint) : Prop := e.1.val < e'.1.val ∨ e.1 = e'.1 ∧ e.2 ≤ e'.2

def endpoints (key : FlowKey) : Sym2 Endpoint := s((key.loAddr, key.loPort), (key.hiAddr, key.hiPort))

section Make
variable (a b : Addr128) (p q : UInt16) (proto : UInt8)

theorem srcIsLo_iff : srcIsLo a b p q = true ↔ a.val < b.val ∨ a = b ∧ p ≤ q := by
  simp only [srcIsLo, Bool.or_eq_true, Bool.and_eq_true, decide_eq_true_eq, beq_iff_eq]

theorem srcIsLo_total (h : srcIsLo a b p q = false) : srcIsLo b a q p = true := by
  have above : ¬ (a.val < b.val ∨ a = b ∧ p ≤ q) := by
    rw [← srcIsLo_iff, h]
    exact Bool.false_ne_true
  rw [srcIsLo_iff]
  rcases Std.lt_trichotomy a.val b.val with less | equal | greater
  · exact absurd (.inl less) above
  · obtain rfl : a = b := Subtype.ext equal
    rcases UInt16.le_total p q with le | ge
    · exact absurd (.inr ⟨rfl, le⟩) above
    · exact .inr ⟨rfl, ge⟩
  · exact .inl greater

theorem srcIsLo_antisymm (h : srcIsLo a b p q = true) (h' : srcIsLo b a q p = true) : a = b ∧ p = q := by
  rw [srcIsLo_iff] at h h'
  rcases h with less | ⟨rfl, le⟩
  · rcases h' with greater | ⟨rfl, -⟩
    · exact absurd greater (List.lt_asymm less)
    · exact absurd less (List.lt_irrefl _)
  · rcases h' with less | ⟨-, ge⟩
    · exact absurd less (List.lt_irrefl _)
    · exact ⟨rfl, UInt16.le_antisymm le ge⟩

theorem make_swap : make a b p q proto = make b a q p proto := by
  unfold make
  cases h : srcIsLo a b p q with
  | true =>
      cases h' : srcIsLo b a q p with
      | true =>
          obtain ⟨rfl, rfl⟩ := srcIsLo_antisymm a b p q h h'
          rfl
      | false => rfl
  | false =>
      rw [srcIsLo_total a b p q h]
      rfl

@[simp] theorem make_protocol : (make a b p q proto).protocol = proto := by
  unfold make
  split <;> rfl

@[simp] theorem make_endpoints : (make a b p q proto).endpoints = s((a, p), (b, q)) := by
  unfold make
  split
  · rfl
  · exact Sym2.eq_swap

end Make

/-- A key is the protocol and the unordered pair of endpoints it was made from. -/
theorem make_eq_iff {a b a' b' : Addr128} {p q p' q' : UInt16} {proto proto' : UInt8} :
    make a b p q proto = make a' b' p' q' proto' ↔
      proto = proto' ∧ s((a, p), (b, q)) = s((a', p'), (b', q')) := by
  constructor
  · intro h
    exact ⟨by simpa using congrArg protocol h, by simpa using congrArg endpoints h⟩
  · rintro ⟨rfl, h⟩
    rcases Sym2.eq_iff.mp h with ⟨hs, hd⟩ | ⟨hs, hd⟩
    · obtain ⟨rfl, rfl⟩ := Prod.mk.injEq _ _ _ _ ▸ hs
      obtain ⟨rfl, rfl⟩ := Prod.mk.injEq _ _ _ _ ▸ hd
      rfl
    · obtain ⟨rfl, rfl⟩ := Prod.mk.injEq _ _ _ _ ▸ hs
      obtain ⟨rfl, rfl⟩ := Prod.mk.injEq _ _ _ _ ▸ hd
      exact make_swap _ _ _ _ _

/-- The lower endpoint comes first. -/
theorem make_le (a b : Addr128) (p q : UInt16) (proto : UInt8) :
    Endpoint.le ((make a b p q proto).loAddr, (make a b p q proto).loPort)
      ((make a b p q proto).hiAddr, (make a b p q proto).hiPort) := by
  unfold make
  cases h : srcIsLo a b p q with
  | true => exact (srcIsLo_iff a b p q).mp h
  | false => exact (srcIsLo_iff b a q p).mp (srcIsLo_total a b p q h)

/-- Keys are a canonical form of protocols with unordered pairs of endpoints. -/
theorem make_canonical :
    (∀ a b p q r, make a b p q r = make b a q p r) ∧
      (∀ a b p q r a' b' p' q' r', (make a b p q r).equal (make a' b' p' q' r') = true →
        r = r' ∧ (((a, p), (b, q)) = ((a', p'), (b', q')) ∨ ((a, p), (b, q)) = ((b', q'), (a', p')))) ∧
      ∀ a b p q r, Endpoint.le ((make a b p q r).loAddr, (make a b p q r).loPort)
        ((make a b p q r).hiAddr, (make a b p q r).hiPort) := by
  refine ⟨make_swap, ?_, make_le⟩
  intro a b p q r a' b' p' q' r' same
  obtain ⟨proto, ends⟩ := make_eq_iff.mp (equal_iff.mp same)
  refine ⟨proto, ?_⟩
  rcases Sym2.eq_iff.mp ends with ⟨source, target⟩ | ⟨source, target⟩
  · exact .inl (Prod.ext source target)
  · exact .inr (Prod.ext source target)

/-- A datagram from a host to itself and the reply. -/
theorem make_canonical_reply :
    (make .zero .zero 53 4000 17).equal (make .zero .zero 4000 53 17) = true ∧
      ((((.zero, 53), (.zero, 4000)) : Endpoint × Endpoint) = ((.zero, 4000), (.zero, 53)) ∨
        (((.zero, 53), (.zero, 4000)) : Endpoint × Endpoint) = ((.zero, 53), (.zero, 4000))) :=
  ⟨by decide, (make_canonical.2.1 .zero .zero 53 4000 17 .zero .zero 4000 53 17 (by decide)).2⟩

end FlowKey

end Nte
