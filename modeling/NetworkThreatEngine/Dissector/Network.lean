import NetworkThreatEngine.Dissector.Fields

/-!
# Addresses on the wire

The layers above the network layer leave its fields alone, so the textual addresses of a dissected
packet are the formatted addresses of the network header in the captured bytes.
-/
namespace Nte
open ByteReader ByteReader.Outcome Constants PacketInfo

/-- What the network layer fills in for the flow tracker. -/
def PacketInfo.network (info : PacketInfo) : L3Protocol × Octets × Octets :=
  (info.l3Proto, info.srcIp, info.dstIp)

def KeepsNetwork (info : PacketInfo) (x : Outcome PacketInfo) : Prop :=
  Ensures x fun result => result.network = info.network

/-- A reading of the report that everything from the transport layer on leaves alone. -/
structure BelowTransport {β : Type} (f : PacketInfo → β) : Prop where
  withTcp : ∀ info tcp, f (info.withTcp tcp) = f info
  withUdp : ∀ info udp, f (info.withUdp udp) = f info
  withL4 : ∀ (info : PacketInfo) proto, f { info with l4Proto := proto } = f info
  withPayload : ∀ info off n, f (info.withPayload off n) = f info
  decodes : ∀ info result, Decodes info result → f result = f info

theorem network_belowTransport : BelowTransport PacketInfo.network where
  withTcp := fun _ _ => rfl
  withUdp := fun _ _ => rfl
  withL4 := fun _ _ => rfl
  withPayload := fun _ _ _ => rfl
  decodes := by
    intro info result h
    cases h <;> rfl

section Layers
variable {β : Type} {f : PacketInfo → β} (below : BelowTransport f) (info : PacketInfo)
include below

/-! ## Application layer -/

theorem BelowTransport.ofDecodes {x : Outcome PacketInfo} (h : Ensures x (Decodes info)) :
    Ensures x fun result => f result = f info := h.mono (below.decodes info)

theorem dissectIpv4TcpPayload_leaves (payload : Octets) (l7Len : Nat) :
    Ensures (dissectIpv4TcpPayload payload l7Len info) fun result => f result = f info := by
  unfold dissectIpv4TcpPayload
  refine Ensures.ite (fun _ => below.ofDecodes info (extractDns_decodes info _ _)) fun _ => ?_
  refine Ensures.ite (fun _ => below.ofDecodes info (extractTls_decodes info _ _)) fun _ => ?_
  apply Ensures.ite
  · intro _
    exact below.ofDecodes info (extractHttp_decodes info _ _)
  · intro _
    exact below.ofDecodes info (extractHttp_decodes info _ _)

theorem dissectIpv6TcpPayload_leaves (payload : Octets) (l7Len : Nat) :
    Ensures (dissectIpv6TcpPayload payload l7Len info) fun result => f result = f info := by
  unfold dissectIpv6TcpPayload
  refine Ensures.ite (fun _ => below.ofDecodes info (extractTls_decodes info _ _)) fun _ => ?_
  apply Ensures.ite
  · intro _
    exact below.ofDecodes info (extractHttp_decodes info _ _)
  · intro _
    exact ensures_ok rfl

/-! ## Transport -/

section Ipv4
variable (cut : ∀ info : PacketInfo, f info.truncate = f info) (data : Octets) (len off : Nat)
include cut

theorem dissectIpv4Tcp_leaves (l4Len : Nat) :
    Ensures (dissectIpv4Tcp data len off l4Len info) fun result => f result = f info := by
  unfold dissectIpv4Tcp
  refine Ensures.ite (fun _ => ensures_ok (cut info)) fun _ => Ensures.bind fun tcp _ => ?_
  refine Ensures.ite (fun _ => ensures_ok (cut info)) fun _ => Ensures.bind fun l7Len _ => ?_
  refine Ensures.ite (fun _ => ?_) fun _ => ensures_ok (below.withTcp info tcp)
  refine (dissectIpv4TcpPayload_leaves below _ _ _).mono ?_
  intro result same
  rw [same, below.withPayload, below.withTcp]

theorem dissectIpv4Udp_leaves (l4Len : Nat) :
    Ensures (dissectIpv4Udp data len off l4Len info) fun result => f result = f info := by
  unfold dissectIpv4Udp
  refine Ensures.ite (fun _ => ensures_ok (cut info)) fun _ => Ensures.bind fun udp _ => ?_
  refine Ensures.bind fun l7Len _ => ?_
  refine Ensures.ite (fun _ => ?_) fun _ => ensures_ok (below.withUdp info udp)
  have loaded : f ((info.withUdp udp).withPayload (off + sizeofUDP) l7Len) = f info := by
    rw [below.withPayload, below.withUdp]
  refine Ensures.ite (fun _ => ?_) fun _ => ensures_ok loaded
  exact (below.ofDecodes _ (extractDns_decodes _ _ _)).mono fun result same => same.trans loaded

theorem dissectIpv4L4_leaves (ip : WireIPv4) :
    Ensures (dissectIpv4L4 data len off ip info) fun result => f result = f info := by
  unfold dissectIpv4L4
  refine Ensures.bind fun l4Len _ => ?_
  refine Ensures.ite (fun _ => dissectIpv4Tcp_leaves below info cut data len off l4Len) fun _ => ?_
  refine Ensures.ite (fun _ => dissectIpv4Udp_leaves below info cut data len off l4Len) fun _ => ?_
  apply Ensures.ite
  · intro _
    exact ensures_ok (below.withL4 info .ICMP)
  · intro _
    exact ensures_ok (below.withL4 info .OTHER)

end Ipv4

section Ipv6
variable (data : Octets) (len off : Nat)

theorem dissectIpv6Tcp_leaves (l4Len : Nat) :
    Ensures (dissectIpv6Tcp data len off l4Len info) fun result => f result = f info := by
  unfold dissectIpv6Tcp
  refine Ensures.bind fun tcp _ => Ensures.ite (fun _ => ?_) fun _ => ensures_ok rfl
  refine Ensures.bind fun l7Len _ => Ensures.ite (fun _ => ?_) fun _ => ensures_ok (below.withTcp info tcp)
  refine (dissectIpv6TcpPayload_leaves below _ _ _).mono ?_
  intro result same
  rw [same, below.withPayload, below.withTcp]

theorem dissectIpv6Udp_leaves :
    Ensures (dissectIpv6Udp data len off info) fun result => f result = f info := by
  unfold dissectIpv6Udp
  refine Ensures.bind fun udp _ => Ensures.bind fun l7Len _ => ?_
  refine Ensures.ite (fun _ => ?_) fun _ => ensures_ok (below.withUdp info udp)
  refine (below.ofDecodes _ (extractDns_decodes _ _ _)).mono ?_
  intro result same
  rw [same, below.withPayload, below.withUdp]

/-- Behind an accepted IPv6 header no packet is marked truncated, so nothing is asked of that mark. -/
theorem dissectIpv6L4_leaves (ip6 : WireIPv6) :
    Ensures (dissectIpv6L4 data len off ip6 info) fun result => f result = f info := by
  unfold dissectIpv6L4
  refine Ensures.bind fun l4Len _ => ?_
  refine Ensures.ite (fun _ => dissectIpv6Tcp_leaves below info data len off l4Len) fun _ => ?_
  refine Ensures.ite (fun _ => dissectIpv6Udp_leaves below info data len off) fun _ => ?_
  apply Ensures.ite
  · intro _
    exact ensures_ok (below.withL4 info .ICMP)
  · intro _
    exact ensures_ok rfl

end Ipv6

end Layers

theorem dissectIpv4L4_keepsNetwork (info : PacketInfo) (data : Octets) (len off : Nat) (ip : WireIPv4) :
    KeepsNetwork info (dissectIpv4L4 data len off ip info) :=
  dissectIpv4L4_leaves network_belowTransport info (fun _ => rfl) data len off ip

theorem dissectIpv6L4_keepsNetwork (info : PacketInfo) (data : Octets) (len off : Nat) (ip6 : WireIPv6) :
    KeepsNetwork info (dissectIpv6L4 data len off ip6 info) :=
  dissectIpv6L4_leaves network_belowTransport info data len off ip6

/-! ## The network header -/

/-- The textual addresses are those of the header at `off`, formatted. -/
def ReadFrom (data : Octets) (off : Nat) (info : PacketInfo) : Prop :=
  match info.l3Proto with
  | .IPv4 => ∃ ip, readIPv4 data off = .ok ip ∧ info.srcIp = formatIpv4 ip.srcAddr ∧ info.dstIp = formatIpv4 ip.dstAddr
  | .IPv6 => ∃ ip, readIPv6 data off = .ok ip ∧ info.srcIp = formatIpv6 ip.srcAddr ∧ info.dstIp = formatIpv6 ip.dstAddr
  | _ => True

theorem ReadFrom.of_network {data : Octets} {off : Nat} {info result : PacketInfo} (h : ReadFrom data off info)
    (heq : result.network = info.network) : ReadFrom data off result := by
  obtain ⟨proto, src, dst⟩ : result.l3Proto = info.l3Proto ∧ result.srcIp = info.srcIp ∧ result.dstIp = info.dstIp := by
    simpa [PacketInfo.network] using heq
  unfold ReadFrom
  rw [proto, src, dst]
  exact h

section Header
variable (data : Octets) (len off : Nat) {info : PacketInfo} (blank : info.l3Proto = .NONE)
include blank

theorem readFrom_blank (result : PacketInfo) (h : result.l3Proto = info.l3Proto) : ReadFrom data off result := by
  unfold ReadFrom
  rw [h, blank]
  trivial

theorem dissectIpv4_readFrom : Ensures (dissectIpv4 data len off info) (ReadFrom data off) := by
  unfold dissectIpv4
  refine Ensures.ite (fun _ => ensures_ok (readFrom_blank data off blank _ rfl)) fun _ => ?_
  refine Ensures.bind fun ip hip => ?_
  refine Ensures.ite (fun _ => ensures_ok (readFrom_blank data off blank _ rfl)) fun _ => ?_
  refine Ensures.ite (fun _ => ensures_ok (readFrom_blank data off blank _ rfl)) fun _ => ?_
  have header : ReadFrom data off (info.withIpv4 ip) := ⟨ip, hip, rfl, rfl⟩
  exact (dissectIpv4L4_keepsNetwork (info.withIpv4 ip) data len _ ip).mono fun _ => header.of_network

theorem dissectIpv6_readFrom : Ensures (dissectIpv6 data len off info) (ReadFrom data off) := by
  unfold dissectIpv6
  refine Ensures.ite (fun _ => ensures_ok (readFrom_blank data off blank _ rfl)) fun _ => ?_
  refine Ensures.bind fun ip6 hip => ?_
  refine Ensures.ite (fun _ => ensures_ok (readFrom_blank data off blank _ rfl)) fun _ => ?_
  have header : ReadFrom data off (info.withIpv6 ip6) := ⟨ip6, hip, rfl, rfl⟩
  exact (dissectIpv6L4_keepsNetwork (info.withIpv6 ip6) data len _ ip6).mono fun _ => header.of_network

theorem dissectL3_readFrom : Ensures (dissectL3 data len off info) (ReadFrom data off) := by
  unfold dissectL3
  refine Ensures.ite (fun _ => dissectIpv4_readFrom data len off blank) fun _ => ?_
  refine Ensures.ite (fun _ => dissectIpv6_readFrom data len off blank) fun _ => ?_
  exact Ensures.ite (fun _ => ensures_ok trivial) fun _ => ensures_ok (readFrom_blank data off blank _ rfl)

end Header

/-! ## Wire addresses of a capture -/

/-- Where the network header starts: behind the Ethernet header and the VLAN tag, if there is one. -/
def Capture.l3Offset (c : Capture) : Nat := if be16 c.data 12 = .ok ETHERTYPE_VLAN then 18 else 14

theorem Capture.l3Offset_tagged {c : Capture} {eth : WireEthernet} (h : readEthernet c.data 0 = .ok eth)
    (tagged : eth.etherType = ETHERTYPE_VLAN) : c.l3Offset = sizeofEthernet + 4 :=
  if_pos ((readEthernet_etherType h).trans (congrArg _ tagged))

theorem Capture.l3Offset_untagged {c : Capture} {eth : WireEthernet} (h : readEthernet c.data 0 = .ok eth)
    (untagged : eth.etherType ≠ ETHERTYPE_VLAN) : c.l3Offset = sizeofEthernet := by
  refine if_neg fun tagged => untagged ?_
  exact Outcome.ok.inj ((readEthernet_etherType h).symm.trans tagged)

theorem dissectEthernet_readFrom (c : Capture) {info : PacketInfo} (blank : info.l3Proto = .NONE) :
    Ensures (dissectEthernet c.data c.capturedLength info) (ReadFrom c.data c.l3Offset) := by
  unfold dissectEthernet
  refine Ensures.ite (fun _ => ensures_ok (readFrom_blank _ _ blank _ rfl)) fun _ => ?_
  refine Ensures.bind fun eth heth => ?_
  refine Ensures.ite (fun tagged => ?_) fun untagged => ?_
  · refine Ensures.ite (fun _ => ensures_ok (readFrom_blank _ _ blank _ rfl)) fun _ => ?_
    rw [Capture.l3Offset_tagged heth tagged]
    exact Ensures.bind fun innerType _ => dissectL3_readFrom _ _ _ blank
  · rw [Capture.l3Offset_untagged heth untagged]
    exact dissectL3_readFrom _ _ _ blank

theorem dissect_readFrom (c : Capture) : ReadFrom c.data c.l3Offset (dissect c) := by
  have whole : Ensures (dissectPacket c.toCapturedPacket) (ReadFrom c.data c.l3Offset) := by
    unfold dissectPacket
    exact Ensures.ite (fun _ => ensures_ok trivial) fun _ => dissectEthernet_readFrom c rfl
  exact whole _ (dissectPacket_capture c)

/-- The bytes of the source and of the destination address in the network header. -/
def Capture.srcAddr (c : Capture) : Octets :=
  if (dissect c).l3Proto = .IPv4 then (c.data.drop (c.l3Offset + 12)).take 4
  else (c.data.drop (c.l3Offset + 8)).take 16

def Capture.dstAddr (c : Capture) : Octets :=
  if (dissect c).l3Proto = .IPv4 then (c.data.drop (c.l3Offset + 16)).take 4
  else (c.data.drop (c.l3Offset + 24)).take 16

theorem readIPv4_addresses {data : Octets} {off : Nat} {ip : WireIPv4} (h : readIPv4 data off = .ok ip) :
    be32 data (off + 12) = .ok ip.srcAddr ∧ be32 data (off + 16) = .ok ip.dstAddr := by
  simp only [readIPv4, bind_eq_ok, pure_eq, Outcome.ok.injEq] at h
  obtain ⟨_, -, _, -, _, -, _, -, _, -, _, -, _, -, _, -, src, hsrc, dst, hdst, rfl⟩ := h
  exact ⟨hsrc, hdst⟩

theorem readIPv6_addresses {data : Octets} {off : Nat} {ip6 : WireIPv6} (h : readIPv6 data off = .ok ip6) :
    slice data (off + 8) 16 = .ok ip6.srcAddr ∧ slice data (off + 24) 16 = .ok ip6.dstAddr := by
  simp only [readIPv6, bind_eq_ok, pure_eq, Outcome.ok.injEq] at h
  obtain ⟨_, -, _, -, _, -, _, -, src, hsrc, dst, hdst, rfl⟩ := h
  exact ⟨hsrc, hdst⟩

end Nte
