import NetworkThreatEngine.Dissector.Network

/-!
# Truncated packets

The dissector marks a packet truncated on several exits: before it has accepted a network header, and
behind an IPv4 header when the transport header is cut off. Behind an IPv6 header it never does.
-/
namespace Nte
open ByteReader ByteReader.Outcome Constants PacketInfo

theorem truncated_belowTransport : BelowTransport PacketInfo.truncated where
  withTcp := fun _ _ => rfl
  withUdp := fun _ _ => rfl
  withL4 := fun _ _ => rfl
  withPayload := fun _ _ _ => rfl
  decodes := by
    intro info result h
    cases h <;> rfl

/-! ## Complete IPv4 headers -/

/-- A complete IPv4 header stands at `off`. -/
def Ipv4HeaderAt (data : Octets) (len off : Nat) : Prop :=
  ∃ ip, readIPv4 data off = .ok ip ∧ ip.version = 4 ∧ sizeofIPv4 ≤ ip.ihlBytes ∧ off + ip.ihlBytes ≤ len

/-- The frame carries IPv4, and its IPv4 header is captured as a whole. -/
def Capture.HasIpv4Header (c : Capture) : Prop :=
  be16 c.data (c.l3Offset - 2) = .ok ETHERTYPE_IPV4 ∧ Ipv4HeaderAt c.data c.capturedLength c.l3Offset

/-- The network header is accepted as IPv4 if `header` holds, and not at all otherwise. -/
def AcceptedIff (header : Prop) (info : PacketInfo) : Prop :=
  (header → info.l3Proto = .IPv4) ∧ (¬ header → info.l3Proto = .NONE)

theorem AcceptedIff.refused {header : Prop} {info : PacketInfo} (h : info.l3Proto = .NONE) (none : ¬ header) :
    AcceptedIff header info := ⟨fun some => absurd some none, fun _ => h⟩

section Headers
variable {len : Nat} {info : PacketInfo} (fresh : info.Fresh len) (data : Octets) (off : Nat)
include fresh

theorem dissectIpv4_accepted : Ensures (dissectIpv4 data len off info) (AcceptedIff (Ipv4HeaderAt data len off)) := by
  unfold dissectIpv4
  apply Ensures.ite
  · intro short
    refine ensures_ok (AcceptedIff.refused fresh.l3Proto ?_)
    rintro ⟨ip, -, -, wide, inside⟩
    omega
  intro _
  refine Ensures.bind fun ip hip => ?_
  apply Ensures.ite
  · intro other
    refine ensures_ok (AcceptedIff.refused fresh.l3Proto ?_)
    rintro ⟨ip', hip', four, -, -⟩
    rw [hip] at hip'
    cases hip'
    exact other four
  intro four
  apply Ensures.ite
  · intro bad
    refine ensures_ok (AcceptedIff.refused fresh.l3Proto ?_)
    rintro ⟨ip', hip', -, wide, inside⟩
    rw [hip] at hip'
    cases hip'
    simp only [Bool.or_eq_true, decide_eq_true_eq] at bad
    omega
  intro good
  simp only [Bool.or_eq_true, decide_eq_true_eq, not_or, not_lt] at good
  have header : Ipv4HeaderAt data len off := ⟨ip, hip, not_not.mp four, good.1, good.2⟩
  refine (dissectIpv4L4_keepsNetwork (info.withIpv4 ip) data len _ ip).mono ?_
  intro result same
  exact ⟨fun _ => congrArg Prod.fst same, fun none => absurd header none⟩

theorem dissectIpv6_refused : Ensures (dissectIpv6 data len off info) fun result =>
    result.truncated = true → result.l3Proto = .NONE := by
  unfold dissectIpv6
  refine Ensures.ite (fun _ => ensures_ok fun _ => fresh.l3Proto) fun _ => Ensures.bind fun ip6 _ => ?_
  apply Ensures.ite
  · intro _
    exact ensures_ok fun _ => fresh.l3Proto
  · intro _
    have whole : (info.withIpv6 ip6).truncated = false := fresh.bare.whole
    refine (dissectIpv6L4_leaves truncated_belowTransport (info.withIpv6 ip6) data len _ ip6).mono ?_
    intro result same truncated
    rw [same, whole] at truncated
    cases truncated

theorem dissectL3_accepted : Ensures (dissectL3 data len off info) fun result =>
    result.truncated = true → AcceptedIff (info.etherType = ETHERTYPE_IPV4 ∧ Ipv4HeaderAt data len off) result := by
  unfold dissectL3
  apply Ensures.ite
  · intro ipv4
    refine (dissectIpv4_accepted fresh data off).mono ?_
    intro result accepted _
    simpa [ipv4] using accepted
  intro other
  apply Ensures.ite
  · intro _
    refine (dissectIpv6_refused fresh data off).mono ?_
    intro result refused truncated
    exact AcceptedIff.refused (refused truncated) fun h => other h.1
  intro _
  have whole := fresh.bare.whole
  apply Ensures.ite
  · intro _
    refine ensures_ok fun truncated => ?_
    rw [whole] at truncated
    cases truncated
  · intro _
    refine ensures_ok fun truncated => ?_
    rw [whole] at truncated
    cases truncated

end Headers

theorem Capture.HasIpv4Header.room {c : Capture} (h : c.HasIpv4Header) : c.l3Offset ≤ c.capturedLength := by
  have sized : c.data.length = c.capturedLength := c.wellSized
  have read := be16_ok_lt h.1
  omega

/-- The two bytes before the network header hold its type. -/
theorem Capture.hasIpv4Header_iff {c : Capture} {off : Nat} (offset : c.l3Offset = off) {etherType : UInt16}
    (read : be16 c.data (off - 2) = .ok etherType) :
    c.HasIpv4Header ↔ etherType = ETHERTYPE_IPV4 ∧ Ipv4HeaderAt c.data c.capturedLength off := by
  rw [Capture.HasIpv4Header, offset, read, Outcome.ok.injEq]

theorem dissectEthernet_accepted (c : Capture) {info : PacketInfo} (fresh : info.Fresh c.capturedLength) :
    Ensures (dissectEthernet c.data c.capturedLength info) fun result =>
      result.truncated = true → AcceptedIff c.HasIpv4Header result := by
  unfold dissectEthernet
  apply Ensures.ite
  · intro short
    refine ensures_ok fun _ => AcceptedIff.refused fresh.l3Proto ?_
    intro header
    have room := header.room
    unfold Capture.l3Offset at room
    simp only [sizeofEthernet] at short
    split at room <;> omega
  intro _
  refine Ensures.bind fun eth heth => ?_
  have read : (info.withEthernet eth).Fresh c.capturedLength := { fresh with bare := { fresh.bare with } }
  apply Ensures.ite
  · intro tagged
    have offset := Capture.l3Offset_tagged heth tagged
    apply Ensures.ite
    · intro short
      refine ensures_ok fun _ => AcceptedIff.refused fresh.l3Proto ?_
      intro header
      have room := header.room
      omega
    · intro _
      refine Ensures.bind fun innerType inner => ?_
      have marked : ({ info.withEthernet eth with etherType := innerType } : PacketInfo).Fresh c.capturedLength :=
        { read with bare := { read.bare with } }
      rw [Capture.hasIpv4Header_iff offset inner]
      exact dissectL3_accepted marked c.data _
  · intro untagged
    have offset := Capture.l3Offset_untagged heth untagged
    rw [Capture.hasIpv4Header_iff offset (readEthernet_etherType heth)]
    exact dissectL3_accepted read c.data _

/-- A truncated capture has a complete IPv4 header or no network header that is accepted. -/
theorem dissect_truncated (c : Capture) (truncated : (dissect c).truncated = true) :
    AcceptedIff c.HasIpv4Header (dissect c) := by
  have whole : Ensures (dissectPacket c.toCapturedPacket) fun result =>
      result.truncated = true → AcceptedIff c.HasIpv4Header result := by
    unfold dissectPacket
    apply Ensures.ite
    · intro _
      refine ensures_ok fun h => ?_
      cases h
    · intro _
      exact dissectEthernet_accepted c c.blankInfo_fresh
  exact whole _ (dissectPacket_capture c) truncated

end Nte
