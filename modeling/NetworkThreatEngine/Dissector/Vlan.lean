import NetworkThreatEngine.Dissector.Layout
import NetworkThreatEngine.Dissector.Reports

/-!
# 802.1Q tags

A tag between the addresses and the EtherType moves everything behind it by four bytes. No layer looks at
bytes in front of its own, so that the tag shows in the lengths of the capture and in the place of the payload
only.
-/
namespace Nte
open ByteReader ByteReader.Outcome Constants

/-- The same packet in a capture of other lengths, its payload `shift` bytes further back. -/
def PacketInfo.relocate (info : PacketInfo) (shift captured original : Nat) : PacketInfo :=
  { info with
    capturedLength := captured, originalLength := original, l7Payload := info.l7Payload.map (· + shift) }

/-! ## Reports behind a longer prefix -/

section Relocate
variable (info : PacketInfo) (off shift captured original : Nat) (s : Octets)

theorem PacketInfo.relocate_setApp (app : AppData) :
    (info.relocate shift captured original).setApp app = (info.setApp app).relocate shift captured original := by
  cases app <;> rfl

theorem PacketInfo.relocate_deliver (payload : Octets) (app : AppData) :
    (info.relocate shift captured original).deliver (off + shift) payload app =
      (info.deliver off payload app).relocate shift captured original := by
  unfold deliver
  split
  · rfl
  · rw [← relocate_setApp]
    rfl

/-- The place behind a header of `n` bytes moves like the header. -/
theorem PacketInfo.relocate_behind (n : Nat) (payload : Octets) (app : AppData) :
    (info.relocate shift captured original).deliver (off + shift + n) payload app =
      (info.deliver (off + n) payload app).relocate shift captured original := by
  rw [Nat.add_right_comm]
  exact relocate_deliver info (off + n) shift captured original payload app

theorem ipv4Transport_relocate (protocol : UInt8) :
    ipv4Transport (off + shift) protocol s (info.relocate shift captured original) =
      (ipv4Transport off protocol s info).relocate shift captured original := by
  unfold ipv4Transport
  split
  · cases tcpHeader s with
    | some w => exact (info.withTcp w).relocate_behind off shift captured original _ _ _
    | none => rfl
  · split
    · cases udpHeader s with
      | some w => exact (info.withUdp w).relocate_behind off shift captured original _ _ _
      | none => rfl
    · split <;> rfl

theorem ipv6Transport_relocate (nextHeader : UInt8) :
    ipv6Transport (off + shift) nextHeader s (info.relocate shift captured original) =
      (ipv6Transport off nextHeader s info).relocate shift captured original := by
  unfold ipv6Transport
  split
  · cases tcpHeader s with
    | some w => exact (info.withTcp w).relocate_behind off shift captured original _ _ _
    | none => rfl
  · split
    · cases udpHeader s with
      | some w =>
          dsimp only
          split
          · exact (info.withUdp w).relocate_behind off shift captured original _ _ _
          · rfl
      | none => rfl
    · split <;> rfl

theorem ipv4Report_relocate :
    ipv4Report (off + shift) s (info.relocate shift captured original) =
      (ipv4Report off s info).relocate shift captured original := by
  unfold ipv4Report
  cases readIPv4 s 0 with
  | ok ip =>
      dsimp only
      split
      · rfl
      · split
        · rfl
        · rw [Nat.add_right_comm]
          exact ipv4Transport_relocate (info.withIpv4 ip) _ shift captured original _ _
  | reject => rfl
  | fault => rfl

theorem ipv6Report_relocate :
    ipv6Report (off + shift) s (info.relocate shift captured original) =
      (ipv6Report off s info).relocate shift captured original := by
  unfold ipv6Report
  cases readIPv6 s 0 with
  | ok ip6 =>
      dsimp only
      split
      · rfl
      · rw [Nat.add_right_comm]
        exact ipv6Transport_relocate (info.withIpv6 ip6) _ shift captured original _ _
  | reject => rfl
  | fault => rfl

theorem networkReport_relocate :
    networkReport (off + shift) s (info.relocate shift captured original) =
      (networkReport off s info).relocate shift captured original := by
  have kind : (info.relocate shift captured original).etherType = info.etherType := rfl
  unfold networkReport
  rw [kind]
  split
  · exact ipv4Report_relocate info off shift captured original s
  · split
    · exact ipv6Report_relocate info off shift captured original s
    · split <;> rfl

end Relocate

/-! ## The payload is behind the network header -/

section Behind
variable {info : PacketInfo} {off o : Nat} {s : Octets}

theorem PacketInfo.payload_behind (blank : info.l7Payload = none) {n : Nat} {payload : Octets} {app : AppData}
    (some : (info.deliver (off + n) payload app).l7Payload = some o) : off ≤ o := by
  unfold deliver at some
  split at some
  · cases blank.symm.trans some
  · have here : off + n = o := by cases app <;> exact Option.some.inj some
    exact here ▸ Nat.le_add_right off n

theorem ipv4Transport_behind (blank : info.l7Payload = none) {protocol : UInt8}
    (some : (ipv4Transport off protocol s info).l7Payload = some o) : off ≤ o := by
  unfold ipv4Transport at some
  split at some
  · split at some
    · exact PacketInfo.payload_behind (by exact blank) some
    · cases blank.symm.trans some
  · split at some
    · split at some
      · exact PacketInfo.payload_behind (by exact blank) some
      · cases blank.symm.trans some
    · split at some <;> cases blank.symm.trans some

theorem ipv6Transport_behind (blank : info.l7Payload = none) {nextHeader : UInt8}
    (some : (ipv6Transport off nextHeader s info).l7Payload = some o) : off ≤ o := by
  unfold ipv6Transport at some
  split at some
  · split at some
    · exact PacketInfo.payload_behind (by exact blank) some
    · cases blank.symm.trans some
  · split at some
    · split at some
      · split at some
        · exact PacketInfo.payload_behind (by exact blank) some
        · cases blank.symm.trans some
      · cases blank.symm.trans some
    · split at some <;> cases blank.symm.trans some

theorem networkReport_behind (blank : info.l7Payload = none)
    (some : (networkReport off s info).l7Payload = some o) : off ≤ o := by
  unfold networkReport at some
  split at some
  · unfold ipv4Report at some
    split at some
    · split at some
      · cases blank.symm.trans some
      · split at some
        · cases blank.symm.trans some
        · exact (Nat.le_add_right _ _).trans (ipv4Transport_behind (by exact blank) some)
    · cases blank.symm.trans some
  · split at some
    · unfold ipv6Report at some
      split at some
      · split at some
        · cases blank.symm.trans some
        · exact (Nat.le_add_right _ _).trans (ipv6Transport_behind (by exact blank) some)
      · cases blank.symm.trans some
    · split at some
      · cases blank.symm.trans some
      · cases blank.symm.trans some

end Behind

/-! ## Tagged frames -/

/-- The frame with a tag behind its addresses. -/
def insertTag (frame : Octets) (control : UInt16) : Octets :=
  frame.take 12 ++ (put16 ETHERTYPE_VLAN ++ put16 control) ++ frame.drop 12

def LinkHeader.tagged (l : LinkHeader) (control : UInt16) : LinkHeader := { l with tag := some control }

theorem insertTag_encode {l : LinkHeader} (untagged : l.tag = none) (etherType control : UInt16) (rest : Octets) :
    insertTag (l.encode etherType ++ rest) control = (l.tagged control).encode etherType ++ rest := by
  have plain : l.encode etherType ++ rest = (l.dstMac ++ l.srcMac) ++ (put16 etherType ++ rest) := by
    simp [LinkHeader.encode, untagged, LinkHeader.ethernet, WireEthernet.encode]
  have addresses : (l.dstMac ++ l.srcMac).length = 12 := by
    rw [List.length_append, l.dstMac_length, l.srcMac_length]
  rw [insertTag, plain, ← addresses, List.take_left, List.drop_left]
  simp [LinkHeader.encode, LinkHeader.tagged, LinkHeader.ethernet, WireEthernet.encode]

theorem LinkHeader.length_encode {l : LinkHeader} (untagged : l.tag = none) (etherType : UInt16) :
    (l.encode etherType).length = sizeofEthernet := by
  rw [encode, untagged]
  exact l.ethernet_length etherType

theorem LinkHeader.length_encode_tagged (l : LinkHeader) (etherType control : UInt16) :
    ((l.tagged control).encode etherType).length = sizeofEthernet + 4 := by
  have ethernet := (l.tagged control).ethernet_length ETHERTYPE_VLAN
  rw [encode, tagged]
  dsimp only
  rw [List.length_append]
  exact congrArg (· + 4) ethernet

/-- Behind a link header the report is that of the network layer. -/
theorem dissect_link (l : LinkHeader) {etherType : UInt16} (inner : etherType ≠ ETHERTYPE_VLAN) (rest : Octets)
    (origLen : Nat) (tsUs : Int) :
    dissect (.ofFrame (l.encode etherType ++ rest) origLen tsUs) =
      networkReport (l.encode etherType).length rest
        ((CapturedPacket.ofFrame (l.encode etherType ++ rest) origLen tsUs).blankInfo.withLink l etherType) :=
  dissect_eq_of _ ((dissectPacket_link l etherType inner rest origLen tsUs).trans (dissectL3_report _ rest _))

theorem PacketInfo.payloadBytes_relocate {info : PacketInfo} {before before' s : Octets} {shift : Nat}
    (behind : ∀ o, info.l7Payload = some o → before.length ≤ o) (size : before'.length = before.length + shift)
    (captured original : Nat) :
    (info.relocate shift captured original).payloadBytes (before' ++ s) = info.payloadBytes (before ++ s) := by
  unfold payloadBytes relocate
  cases payload : info.l7Payload with
  | none => rfl
  | some o =>
      obtain ⟨n, rfl⟩ := Nat.exists_eq_add_of_le (behind o payload)
      have place : before.length + n + shift = before'.length + n := by omega
      dsimp only [Option.map_some]
      rw [place, List.drop_length_add_append, List.drop_length_add_append]

/-- Any tag in any untagged frame leaves the report as it was, the payload four bytes further back. -/
theorem vlan_transparent (frame : Octets) (control : UInt16) (origLen origLen' : Nat) (tsUs : Int)
    (long : sizeofEthernet ≤ frame.length) (untagged : be16 frame 12 ≠ .ok ETHERTYPE_VLAN) :
    dissect (.ofFrame (insertTag frame control) origLen' tsUs) =
        { dissect (.ofFrame frame origLen tsUs) with
          capturedLength := frame.length + 4, originalLength := origLen',
          l7Payload := (dissect (.ofFrame frame origLen tsUs)).l7Payload.map (· + 4) } ∧
      (dissect (.ofFrame (insertTag frame control) origLen' tsUs)).payloadBytes (insertTag frame control) =
        (dissect (.ofFrame frame origLen tsUs)).payloadBytes frame := by
  obtain ⟨l, etherType, rest, plain, rfl⟩ := exists_link long
  have inner : etherType ≠ ETHERTYPE_VLAN := by
    rintro rfl
    have read := readEthernet_etherType (l.readEthernet_ethernet ETHERTYPE_VLAN rest)
    rw [LinkHeader.encode, plain] at untagged
    exact untagged read
  have size : ((l.tagged control).encode etherType).length = (l.encode etherType).length + 4 := by
    rw [l.length_encode_tagged, LinkHeader.length_encode plain]
  have total : ((l.tagged control).encode etherType ++ rest).length = (l.encode etherType ++ rest).length + 4 := by
    rw [List.length_append, size, List.length_append, Nat.add_right_comm]
  let start := (CapturedPacket.ofFrame (l.encode etherType ++ rest) origLen tsUs).blankInfo.withLink l etherType
  have start' : (CapturedPacket.ofFrame ((l.tagged control).encode etherType ++ rest) origLen' tsUs).blankInfo.withLink
      (l.tagged control) etherType = start.relocate 4 ((l.encode etherType ++ rest).length + 4) origLen' := by
    rw [← total]
    rfl
  have behind : ∀ o, (networkReport (l.encode etherType).length rest start).l7Payload = some o →
      (l.encode etherType).length ≤ o := fun o => networkReport_behind rfl
  rw [insertTag_encode plain, dissect_link l inner, dissect_link (l.tagged control) inner, start', size,
    networkReport_relocate]
  exact ⟨rfl, PacketInfo.payloadBytes_relocate behind size _ _⟩

/-- One payload byte behind an IPv4 and a UDP header. -/
def quietFrame : Octets := ipv4Frame quietLink Transport.udp.number udpSegment quietIpv4

theorem vlan_transparent_quiet :
    dissect (.ofFrame (insertTag quietFrame 0xA007) 47 0) =
        { dissect (.ofFrame quietFrame 43 0) with
          capturedLength := quietFrame.length + 4, originalLength := 47,
          l7Payload := (dissect (.ofFrame quietFrame 43 0)).l7Payload.map (· + 4) } ∧
      (dissect (.ofFrame (insertTag quietFrame 0xA007) 47 0)).payloadBytes (insertTag quietFrame 0xA007) =
        (dissect (.ofFrame quietFrame 43 0)).payloadBytes quietFrame :=
  vlan_transparent quietFrame 0xA007 43 47 0 (by decide) (by decide)

end Nte
