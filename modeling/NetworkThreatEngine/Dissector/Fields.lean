import NetworkThreatEngine.Dissector.Safety

/-!
# Fields that go together

The flow tracker and the detectors read the fields of a dissected packet without checking that they
fit each other. This is what they rely on, kept by every exit of the dissector: the network header
sets addresses and validity, the transport header needs a valid packet, the payload needs a
transport header, and a decoded application layer needs a payload.
-/
namespace Nte
open ByteReader ByteReader.Outcome Constants

def L3Protocol.isIp (proto : L3Protocol) : Prop := proto = .IPv4 ∨ proto = .IPv6

def L4Protocol.hasPorts (proto : L4Protocol) : Prop := proto = .TCP ∨ proto = .UDP

namespace PacketInfo
variable {info result : PacketInfo}

/-- At most one application layer is decoded. -/
def OneDecoded (info : PacketInfo) : Prop :=
  ¬ (info.dns.isSome ∧ info.http.isSome) ∧ ¬ (info.dns.isSome ∧ info.tls.isSome) ∧
    ¬ (info.http.isSome ∧ info.tls.isSome)

/-- The payload is what remains of the captured bytes from some offset on. -/
def PayloadIsSuffix (info : PacketInfo) : Prop :=
  ∃ off, info.l7Payload = some off ∧ off + info.l7PayloadLength = info.capturedLength

structure Consistent (info : PacketInfo) : Prop where
  oneDecoded : info.OneDecoded
  dns : info.dns.isSome ↔ info.l7Proto = .DNS
  http : info.http.isSome ↔ info.l7Proto = .HTTP
  tls : info.tls.isSome ↔ info.l7Proto = .TLS
  decodesPayload : info.dns.isSome ∨ info.http.isSome ∨ info.tls.isSome → 0 < info.l7PayloadLength
  payload : 0 < info.l7PayloadLength → info.l4Proto.hasPorts ∧ info.PayloadIsSuffix
  transport : info.l4Proto ≠ .NONE → info.valid = true ∧ info.truncated = false
  ports : info.srcPort ≠ 0 ∨ info.dstPort ≠ 0 → info.l4Proto.hasPorts
  flags : info.tcpFlags ≠ 0 → info.l4Proto = .TCP
  addressed : info.srcIp ≠ [] ∧ info.dstIp ≠ [] ↔ info.l3Proto.isIp
  valid : info.valid = true ↔ info.l3Proto.isIp ∨ info.l3Proto = .ARP

/-! ## Before the transport layer -/

/-- Nothing above the network layer is filled in. -/
structure Bare (len : Nat) (info : PacketInfo) : Prop where
  l4Proto : info.l4Proto = .NONE
  srcPort : info.srcPort = 0
  dstPort : info.dstPort = 0
  tcpFlags : info.tcpFlags = 0
  l7Proto : info.l7Proto = .NONE
  dns : info.dns = none
  http : info.http = none
  tls : info.tls = none
  l7PayloadLength : info.l7PayloadLength = 0
  capturedLength : info.capturedLength = len
  whole : info.truncated = false

/-- What the network header alone decides. -/
structure Located (info : PacketInfo) : Prop where
  addressed : info.srcIp ≠ [] ∧ info.dstIp ≠ [] ↔ info.l3Proto.isIp
  valid : info.valid = true ↔ info.l3Proto.isIp ∨ info.l3Proto = .ARP

theorem Bare.consistent {len : Nat} (bare : info.Bare len) (located : info.Located) : info.Consistent where
  oneDecoded := by simp [OneDecoded, bare.dns, bare.http]
  dns := by simp [bare.dns, bare.l7Proto]
  http := by simp [bare.http, bare.l7Proto]
  tls := by simp [bare.tls, bare.l7Proto]
  decodesPayload := by simp [bare.dns, bare.http, bare.tls]
  payload := by simp [bare.l7PayloadLength]
  transport := fun h => absurd bare.l4Proto h
  ports := by simp [bare.srcPort, bare.dstPort]
  flags := fun h => absurd bare.tcpFlags h
  addressed := located.addressed
  valid := located.valid

/-- Truncation is recorded only while the transport layer is missing. -/
theorem Consistent.truncate (h : info.Consistent) (missing : info.l4Proto = .NONE) : info.truncate.Consistent where
  oneDecoded := h.oneDecoded
  dns := h.dns
  http := h.http
  tls := h.tls
  decodesPayload := h.decodesPayload
  payload := h.payload
  transport := fun hl4 => absurd missing hl4
  ports := h.ports
  flags := h.flags
  addressed := h.addressed
  valid := h.valid

/-! ## The transport layer -/

/-- The network header is read and says where the packet comes from and goes to. -/
structure Routed (len : Nat) (info : PacketInfo) : Prop where
  bare : info.Bare len
  located : info.Located
  valid : info.valid = true

theorem Routed.consistent {len : Nat} (h : info.Routed len) : info.Consistent := h.bare.consistent h.located

theorem Routed.truncate {len : Nat} (h : info.Routed len) : info.truncate.Consistent :=
  h.consistent.truncate h.bare.l4Proto

/-- A transport protocol without ports. -/
theorem Routed.withoutPorts {len : Nat} (h : info.Routed len) (proto : L4Protocol) :
    ({ info with l4Proto := proto } : PacketInfo).Consistent where
  oneDecoded := h.consistent.oneDecoded
  dns := h.consistent.dns
  http := h.consistent.http
  tls := h.consistent.tls
  decodesPayload := h.consistent.decodesPayload
  payload := by simp [h.bare.l7PayloadLength]
  transport := fun _ => ⟨h.valid, h.bare.whole⟩
  ports := by simp [h.bare.srcPort, h.bare.dstPort]
  flags := fun hf => absurd h.bare.tcpFlags hf
  addressed := h.located.addressed
  valid := h.located.valid

/-- A TCP or UDP header is read, and no application layer is decoded yet. -/
structure Transported (len : Nat) (info : PacketInfo) : Prop where
  consistent : info.Consistent
  hasPorts : info.l4Proto.hasPorts
  l7Proto : info.l7Proto = .NONE
  capturedLength : info.capturedLength = len

theorem Routed.withTcp {len : Nat} (h : info.Routed len) (tcp : WireTCP) :
    (info.withTcp tcp).Transported len where
  consistent :=
    { oneDecoded := h.consistent.oneDecoded
      dns := h.consistent.dns
      http := h.consistent.http
      tls := h.consistent.tls
      decodesPayload := h.consistent.decodesPayload
      payload := by simp [PacketInfo.withTcp, h.bare.l7PayloadLength]
      transport := fun _ => ⟨h.valid, h.bare.whole⟩
      ports := fun _ => .inl rfl
      flags := fun _ => rfl
      addressed := h.located.addressed
      valid := h.located.valid }
  hasPorts := .inl rfl
  l7Proto := h.bare.l7Proto
  capturedLength := h.bare.capturedLength

theorem Routed.withUdp {len : Nat} (h : info.Routed len) (udp : WireUDP) :
    (info.withUdp udp).Transported len where
  consistent :=
    { oneDecoded := h.consistent.oneDecoded
      dns := h.consistent.dns
      http := h.consistent.http
      tls := h.consistent.tls
      decodesPayload := h.consistent.decodesPayload
      payload := by simp [PacketInfo.withUdp, h.bare.l7PayloadLength]
      transport := fun _ => ⟨h.valid, h.bare.whole⟩
      ports := fun _ => .inr rfl
      flags := fun hf => absurd h.bare.tcpFlags hf
      addressed := h.located.addressed
      valid := h.located.valid }
  hasPorts := .inr rfl
  l7Proto := h.bare.l7Proto
  capturedLength := h.bare.capturedLength

/-! ## The payload -/

/-- Where the payload stands, and that it is not empty. -/
structure Loaded (info : PacketInfo) : Prop where
  consistent : info.Consistent
  l7Proto : info.l7Proto = .NONE
  nonempty : 0 < info.l7PayloadLength

theorem Transported.withPayload {len off n : Nat} (h : info.Transported len) (suffix : off + n = len) (hn : 0 < n) :
    (info.withPayload off n).Loaded where
  consistent :=
    { oneDecoded := h.consistent.oneDecoded
      dns := h.consistent.dns
      http := h.consistent.http
      tls := h.consistent.tls
      decodesPayload := fun _ => hn
      payload := fun _ => ⟨h.hasPorts, off, rfl, suffix.trans h.capturedLength.symm⟩
      transport := h.consistent.transport
      ports := h.consistent.ports
      flags := h.consistent.flags
      addressed := h.consistent.addressed
      valid := h.consistent.valid }
  l7Proto := h.l7Proto
  nonempty := hn

/-- An extractor sets one application layer together with its protocol, or nothing. -/
inductive Decodes (info : PacketInfo) : PacketInfo → Prop where
  | none : Decodes info info
  | dns (value : DnsInfo) : Decodes info { info with dns := some value, l7Proto := .DNS }
  | http (value : HttpInfo) : Decodes info { info with http := some value, l7Proto := .HTTP }
  | tls (value : TlsInfo) : Decodes info { info with tls := some value, l7Proto := .TLS }

theorem Loaded.undecoded (h : info.Loaded) : info.dns = .none ∧ info.http = .none ∧ info.tls = .none := by
  have hdns := h.consistent.dns
  have hhttp := h.consistent.http
  have htls := h.consistent.tls
  simp only [h.l7Proto, reduceCtorEq, iff_false, Option.not_isSome_iff_eq_none] at hdns hhttp htls
  exact ⟨hdns, hhttp, htls⟩

theorem Decodes.consistent (h : Decodes info result) (loaded : info.Loaded) : result.Consistent := by
  obtain ⟨hdns, hhttp, htls⟩ := loaded.undecoded
  have base := loaded.consistent
  cases h with
  | none => exact base
  | dns value =>
      exact
        { base with
          oneDecoded := by simp [OneDecoded, hhttp, htls]
          dns := by simp
          http := by simp [hhttp]
          tls := by simp [htls]
          decodesPayload := fun _ => loaded.nonempty }
  | http value =>
      exact
        { base with
          oneDecoded := by simp [OneDecoded, hdns, htls]
          dns := by simp [hdns]
          http := by simp
          tls := by simp [htls]
          decodesPayload := fun _ => loaded.nonempty }
  | tls value =>
      exact
        { base with
          oneDecoded := by simp [OneDecoded, hdns, hhttp]
          dns := by simp [hdns]
          http := by simp [hhttp]
          tls := by simp
          decodesPayload := fun _ => loaded.nonempty }

end PacketInfo

open PacketInfo

/-! ## Extractors -/

section Extractors
variable (info : PacketInfo)

theorem extractDns_decodes (payload : Octets) (len : Nat) :
    Ensures (extractDns payload len info) (Decodes info) := by
  intro result h
  unfold extractDns at h
  split at h
  · cases h
    exact .dns _
  · cases h
    exact .none
  · cases h

theorem extractHttp_decodes (payload : Octets) (len : Nat) :
    Ensures (extractHttp payload len info) (Decodes info) := by
  intro result h
  unfold extractHttp at h
  split at h
  · cases h
    exact .http _
  · cases h
    exact .none
  · cases h

theorem extractTls_decodes (payload : Octets) (len : Nat) :
    Ensures (extractTls payload len info) (Decodes info) := by
  intro result h
  unfold extractTls at h
  split at h
  · cases h
    exact .tls _
  · cases h
    exact .none
  · cases h

end Extractors

/-! ## Layers -/

section Layers
variable {info : PacketInfo}

theorem sub_ensures (m n : Nat) : Ensures (sub m n) fun d => n + d = m := by
  intro d h
  unfold sub at h
  split at h
  · cases h
    omega
  · cases h

theorem dissectIpv4TcpPayload_consistent (loaded : info.Loaded) (payload : Octets) (l7Len : Nat) :
    Ensures (dissectIpv4TcpPayload payload l7Len info) Consistent := by
  have decoded : ∀ result, Decodes info result → result.Consistent := fun result h => h.consistent loaded
  unfold dissectIpv4TcpPayload
  refine Ensures.ite (fun _ => (extractDns_decodes info _ _).mono decoded) fun _ => ?_
  refine Ensures.ite (fun _ => (extractTls_decodes info _ _).mono decoded) fun _ => ?_
  apply Ensures.ite
  · intro _
    exact (extractHttp_decodes info _ _).mono decoded
  · intro _
    exact (extractHttp_decodes info _ _).mono decoded

theorem dissectIpv6TcpPayload_consistent (loaded : info.Loaded) (payload : Octets) (l7Len : Nat) :
    Ensures (dissectIpv6TcpPayload payload l7Len info) Consistent := by
  have decoded : ∀ result, Decodes info result → result.Consistent := fun result h => h.consistent loaded
  unfold dissectIpv6TcpPayload
  apply Ensures.ite
  · intro _
    exact (extractTls_decodes info _ _).mono decoded
  · intro _
    apply Ensures.ite
    · intro _
      exact (extractHttp_decodes info _ _).mono decoded
    · intro _
      exact ensures_ok loaded.consistent

variable {len : Nat} (routed : info.Routed len) (data : Octets) (off : Nat)
include routed

theorem dissectIpv4Tcp_consistent (l4Len : Nat) : Ensures (dissectIpv4Tcp data len off l4Len info) Consistent := by
  unfold dissectIpv4Tcp
  refine Ensures.ite (fun _ => ensures_ok routed.truncate) fun _ => Ensures.bind fun tcp _ => ?_
  refine Ensures.ite (fun _ => ensures_ok routed.truncate) fun _ => ?_
  refine Ensures.bind fun l7Len hsub => ?_
  have transported := routed.withTcp tcp
  apply Ensures.ite
  · intro some
    have loaded := transported.withPayload (sub_ensures _ _ _ hsub) some
    exact dissectIpv4TcpPayload_consistent loaded _ _
  · intro _
    exact ensures_ok transported.consistent

theorem dissectIpv4Udp_consistent (l4Len : Nat) : Ensures (dissectIpv4Udp data len off l4Len info) Consistent := by
  unfold dissectIpv4Udp
  refine Ensures.ite (fun _ => ensures_ok routed.truncate) fun _ => Ensures.bind fun udp _ => ?_
  refine Ensures.bind fun l7Len hsub => ?_
  have transported := routed.withUdp udp
  apply Ensures.ite
  · intro some
    have loaded := transported.withPayload (sub_ensures _ _ _ hsub) some
    apply Ensures.ite
    · intro _
      exact (extractDns_decodes _ _ _).mono fun result h => h.consistent loaded
    · intro _
      exact ensures_ok loaded.consistent
  · intro _
    exact ensures_ok transported.consistent

theorem dissectIpv4L4_consistent (ip : WireIPv4) : Ensures (dissectIpv4L4 data len off ip info) Consistent := by
  unfold dissectIpv4L4
  refine Ensures.bind fun l4Len _ => ?_
  refine Ensures.ite (fun _ => dissectIpv4Tcp_consistent routed data off l4Len) fun _ => ?_
  refine Ensures.ite (fun _ => dissectIpv4Udp_consistent routed data off l4Len) fun _ => ?_
  apply Ensures.ite
  · intro _
    exact ensures_ok (routed.withoutPorts .ICMP)
  · intro _
    exact ensures_ok (routed.withoutPorts .OTHER)

theorem dissectIpv6Tcp_consistent (l4Len : Nat) : Ensures (dissectIpv6Tcp data len off l4Len info) Consistent := by
  unfold dissectIpv6Tcp
  refine Ensures.bind fun tcp _ => ?_
  refine Ensures.ite (fun _ => ?_) fun _ => ensures_ok routed.consistent
  refine Ensures.bind fun l7Len hsub => ?_
  have transported := routed.withTcp tcp
  apply Ensures.ite
  · intro some
    have loaded := transported.withPayload (sub_ensures _ _ _ hsub) some
    exact dissectIpv6TcpPayload_consistent loaded _ _
  · intro _
    exact ensures_ok transported.consistent

theorem dissectIpv6Udp_consistent : Ensures (dissectIpv6Udp data len off info) Consistent := by
  unfold dissectIpv6Udp
  refine Ensures.bind fun udp _ => Ensures.bind fun l7Len hsub => ?_
  have transported := routed.withUdp udp
  apply Ensures.ite
  · intro query
    have some : 0 < l7Len := by
      simp only [Bool.and_eq_true, decide_eq_true_eq] at query
      exact query.1
    have loaded := transported.withPayload (sub_ensures _ _ _ hsub) some
    exact (extractDns_decodes _ _ _).mono fun result h => h.consistent loaded
  · intro _
    exact ensures_ok transported.consistent

theorem dissectIpv6L4_consistent (ip6 : WireIPv6) : Ensures (dissectIpv6L4 data len off ip6 info) Consistent := by
  unfold dissectIpv6L4
  refine Ensures.bind fun l4Len _ => ?_
  refine Ensures.ite (fun _ => dissectIpv6Tcp_consistent routed data off l4Len) fun _ => ?_
  refine Ensures.ite (fun _ => dissectIpv6Udp_consistent routed data off) fun _ => ?_
  apply Ensures.ite
  · intro _
    exact ensures_ok (routed.withoutPorts .ICMP)
  · intro _
    exact ensures_ok routed.consistent

end Layers

/-! ## The network header -/

theorem formatIpv4_ne_nil (addr : UInt32) : formatIpv4 addr ≠ [] := by simp [formatIpv4]

theorem formatIpv6_ne_nil (addr : Octets) : formatIpv6 addr ≠ [] := by
  rw [formatIpv6_text]
  cases elidedRun ((ipv6Groups addr).map (· == 0)) with
  | none =>
      obtain ⟨a, b, c, d, e, f, g, h, hg⟩ := ipv6Groups_eight addr
      simp [groupText, joinGroups, hg, List.intercalate]
  | some run => simp [groupText]

/-- No network header is read. -/
structure PacketInfo.Fresh (len : Nat) (info : PacketInfo) : Prop where
  bare : info.Bare len
  l3Proto : info.l3Proto = .NONE
  srcIp : info.srcIp = []
  invalid : info.valid = false

namespace PacketInfo.Fresh
variable {len : Nat} {info : PacketInfo}

theorem located (h : info.Fresh len) : info.Located where
  addressed := by simp [h.srcIp, h.l3Proto, L3Protocol.isIp]
  valid := by simp [h.invalid, h.l3Proto, L3Protocol.isIp]

theorem consistent (h : info.Fresh len) : info.Consistent := h.bare.consistent h.located

theorem truncate (h : info.Fresh len) : info.truncate.Consistent := h.consistent.truncate h.bare.l4Proto

theorem withIpv4 (h : info.Fresh len) (ip : WireIPv4) : (info.withIpv4 ip).Routed len where
  bare := { h.bare with }
  located :=
    { addressed := by simp [PacketInfo.withIpv4, L3Protocol.isIp, formatIpv4_ne_nil]
      valid := by simp [PacketInfo.withIpv4, L3Protocol.isIp] }
  valid := rfl

theorem withIpv6 (h : info.Fresh len) (ip6 : WireIPv6) : (info.withIpv6 ip6).Routed len where
  bare := { h.bare with }
  located :=
    { addressed := by simp [PacketInfo.withIpv6, L3Protocol.isIp, formatIpv6_ne_nil]
      valid := by simp [PacketInfo.withIpv6, L3Protocol.isIp] }
  valid := rfl

theorem arp (h : info.Fresh len) : ({ info with l3Proto := .ARP, valid := true } : PacketInfo).Consistent := by
  have bare : ({ info with l3Proto := .ARP, valid := true } : PacketInfo).Bare len := { h.bare with }
  refine bare.consistent ⟨?_, by simp⟩
  simp [h.srcIp, L3Protocol.isIp]

end PacketInfo.Fresh

section Headers
variable {len : Nat} {info : PacketInfo} (fresh : info.Fresh len) (data : Octets) (off : Nat)
include fresh

theorem dissectIpv4_consistent : Ensures (dissectIpv4 data len off info) Consistent := by
  unfold dissectIpv4
  refine Ensures.ite (fun _ => ensures_ok fresh.truncate) fun _ => Ensures.bind fun ip _ => ?_
  refine Ensures.ite (fun _ => ensures_ok fresh.consistent) fun _ => ?_
  apply Ensures.ite
  · intro _
    exact ensures_ok fresh.truncate
  · intro _
    exact dissectIpv4L4_consistent (fresh.withIpv4 ip) data _ ip

theorem dissectIpv6_consistent : Ensures (dissectIpv6 data len off info) Consistent := by
  unfold dissectIpv6
  refine Ensures.ite (fun _ => ensures_ok fresh.truncate) fun _ => Ensures.bind fun ip6 _ => ?_
  apply Ensures.ite
  · intro _
    exact ensures_ok fresh.consistent
  · intro _
    exact dissectIpv6L4_consistent (fresh.withIpv6 ip6) data _ ip6

theorem dissectL3_consistent : Ensures (dissectL3 data len off info) Consistent := by
  unfold dissectL3
  refine Ensures.ite (fun _ => dissectIpv4_consistent fresh data off) fun _ => ?_
  refine Ensures.ite (fun _ => dissectIpv6_consistent fresh data off) fun _ => ?_
  apply Ensures.ite
  · intro _
    exact ensures_ok fresh.arp
  · intro _
    exact ensures_ok fresh.consistent

theorem dissectEthernet_consistent : Ensures (dissectEthernet data len info) Consistent := by
  unfold dissectEthernet
  refine Ensures.ite (fun _ => ensures_ok fresh.truncate) fun _ => Ensures.bind fun eth _ => ?_
  have read : (info.withEthernet eth).Fresh len := { fresh with bare := { fresh.bare with } }
  refine Ensures.ite (fun _ => ?_) fun _ => dissectL3_consistent read data _
  refine Ensures.ite (fun _ => ensures_ok read.truncate) fun _ => Ensures.bind fun innerType _ => ?_
  have tagged : ({ info.withEthernet eth with etherType := innerType } : PacketInfo).Fresh len :=
    { read with bare := { read.bare with } }
  exact dissectL3_consistent tagged data _

end Headers

theorem CapturedPacket.blankInfo_fresh (raw : CapturedPacket) : raw.blankInfo.Fresh raw.capturedLength where
  bare := ⟨rfl, rfl, rfl, rfl, rfl, rfl, rfl, rfl, rfl, rfl, rfl⟩
  l3Proto := rfl
  srcIp := rfl
  invalid := rfl

theorem dissect_consistent (c : Capture) : (dissect c).Consistent := by
  have fresh := c.blankInfo_fresh
  have whole : Ensures (dissectPacket c.toCapturedPacket) Consistent := by
    unfold dissectPacket
    exact Ensures.ite (fun _ => ensures_ok fresh.consistent) fun _ => dissectEthernet_consistent fresh _
  exact whole _ (dissectPacket_capture c)

/-- Whatever bytes are captured, the fields of the report fit each other. -/
theorem dissectPacket_consistent (c : Capture) :
    ∃ info, dissectPacket c.toCapturedPacket = .ok info ∧ info.Consistent :=
  ⟨dissect c, dissectPacket_capture c, dissect_consistent c⟩

end Nte
