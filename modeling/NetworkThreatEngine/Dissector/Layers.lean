import NetworkThreatEngine.Dissector.Safety

/-!
# Closed forms of the layers

What each layer makes of the bytes behind it, with the extractors' total meaning in place of their
loops. A layer sees its segment only: the bytes before it matter through their number alone.
-/
namespace Nte
open ByteReader ByteReader.Outcome Constants

/-! ## What an extractor finds -/

/-- The application data a payload is recognised as. -/
inductive AppData where
  | none
  | dns (d : DnsInfo)
  | http (h : HttpInfo)
  | tls (t : TlsInfo)
  deriving DecidableEq, Repr

def asDns (payload : Octets) : AppData :=
  match decodeDns payload payload.length with
  | .ok d => .dns d
  | _ => .none

def asHttp (payload : Octets) : AppData :=
  match decodeHttp payload payload.length with
  | .ok h => .http h
  | _ => .none

def asTls (payload : Octets) : AppData :=
  match decodeTls payload payload.length with
  | .ok t => .tls t
  | _ => .none

def PacketInfo.setApp (info : PacketInfo) : AppData → PacketInfo
  | .none => info
  | .dns d => { info with dns := some d, l7Proto := .DNS }
  | .http h => { info with http := some h, l7Proto := .HTTP }
  | .tls t => { info with tls := some t, l7Proto := .TLS }

theorem extractDns_eq (payload : Octets) (info : PacketInfo) :
    extractDns payload payload.length info = .ok (info.setApp (asDns payload)) := by
  have h := decodeDns_safe (rfl : payload.length = payload.length)
  unfold extractDns asDns
  cases hd : decodeDns payload payload.length with
  | ok d => rfl
  | reject => rfl
  | fault => exact absurd hd h

theorem extractHttp_eq (payload : Octets) (info : PacketInfo) :
    extractHttp payload payload.length info = .ok (info.setApp (asHttp payload)) := by
  have h := decodeHttp_safe (rfl : payload.length = payload.length)
  unfold extractHttp asHttp
  cases hd : decodeHttp payload payload.length with
  | ok d => rfl
  | reject => rfl
  | fault => exact absurd hd h

theorem extractTls_eq (payload : Octets) (info : PacketInfo) :
    extractTls payload payload.length info = .ok (info.setApp (asTls payload)) := by
  have h := decodeTls_safe (rfl : payload.length = payload.length)
  unfold extractTls asTls
  cases hd : decodeTls payload payload.length with
  | ok d => rfl
  | reject => rfl
  | fault => exact absurd hd h

theorem asDns_cases (payload : Octets) : asDns payload = .none ∨ ∃ d, asDns payload = .dns d := by
  unfold asDns
  split
  · exact .inr ⟨_, rfl⟩
  · exact .inl rfl

theorem asHttp_cases (payload : Octets) : asHttp payload = .none ∨ ∃ h, asHttp payload = .http h := by
  unfold asHttp
  split
  · exact .inr ⟨_, rfl⟩
  · exact .inl rfl

theorem asTls_cases (payload : Octets) : asTls payload = .none ∨ ∃ t, asTls payload = .tls t := by
  unfold asTls
  split
  · exact .inr ⟨_, rfl⟩
  · exact .inl rfl

/-! ## Port dispatch -/

/-- One of the two ports is `port`. -/
def onPort (src dst port : UInt16) : Bool := dst == port || src == port

def ipv4TcpApp (src dst : UInt16) (payload : Octets) : AppData :=
  if onPort src dst PORT_DNS then asDns payload
  else if onPort src dst PORT_HTTPS then asTls payload
  else asHttp payload

def ipv6TcpApp (src dst : UInt16) (payload : Octets) : AppData :=
  if onPort src dst PORT_HTTPS then asTls payload
  else if onPort src dst PORT_HTTP then asHttp payload
  else .none

def udpApp (src dst : UInt16) (payload : Octets) : AppData :=
  if onPort src dst PORT_DNS then asDns payload else .none

/-- A non-empty payload at `off` becomes the packet's payload and is looked at. -/
def PacketInfo.deliver (info : PacketInfo) (off : Nat) (payload : Octets) (app : AppData) : PacketInfo :=
  if payload.isEmpty then info else (info.withPayload off payload.length).setApp app

theorem PacketInfo.usesPort_eq (info : PacketInfo) (port : UInt16) :
    info.usesPort port = onPort info.srcPort info.dstPort port := rfl

theorem dissectIpv4TcpPayload_eq (payload : Octets) (info : PacketInfo) :
    dissectIpv4TcpPayload payload payload.length info =
      .ok (info.setApp (ipv4TcpApp info.srcPort info.dstPort payload)) := by
  simp only [dissectIpv4TcpPayload, ipv4TcpApp, PacketInfo.usesPort_eq, extractDns_eq, extractTls_eq,
    extractHttp_eq, ite_self]
  split_ifs <;> rfl

theorem dissectIpv6TcpPayload_eq (payload : Octets) (info : PacketInfo) :
    dissectIpv6TcpPayload payload payload.length info =
      .ok (info.setApp (ipv6TcpApp info.srcPort info.dstPort payload)) := by
  simp only [dissectIpv6TcpPayload, ipv6TcpApp, PacketInfo.usesPort_eq, extractTls_eq, extractHttp_eq]
  split_ifs <;> rfl

/-! ## Transport segments -/

section Segment
variable (pre s : Octets) (info : PacketInfo)

/-- The payload behind a header of `hdr` bytes of the segment. -/
theorem drop_segment (hdr : Nat) : (pre ++ s).drop (pre.length + hdr) = s.drop hdr :=
  List.drop_length_add_append hdr

theorem sub_segment {hdr : Nat} (h : hdr ≤ s.length) :
    sub (pre ++ s).length (pre.length + hdr) = .ok (s.drop hdr).length := by
  rw [sub_of_le (by rw [List.length_append]; omega), List.length_append, List.length_drop]
  congr 1
  omega

theorem dissectIpv4Tcp_short (h : s.length < sizeofTCP) :
    dissectIpv4Tcp (pre ++ s) (pre ++ s).length pre.length s.length info = .ok info.truncate :=
  if_pos h

theorem dissectIpv4Tcp_badHeader {tcp : WireTCP} (htcp : readTCP s 0 = .ok tcp)
    (h : tcp.headerBytes < sizeofTCP ∨ s.length < tcp.headerBytes) :
    dissectIpv4Tcp (pre ++ s) (pre ++ s).length pre.length s.length info = .ok info.truncate := by
  unfold dissectIpv4Tcp
  split
  · rfl
  · rw [readTCP_append, htcp, ok_bind]
    exact if_pos (by simpa using h)

theorem dissectIpv4Tcp_eq {tcp : WireTCP} (htcp : readTCP s 0 = .ok tcp)
    (hlo : sizeofTCP ≤ tcp.headerBytes) (hhi : tcp.headerBytes ≤ s.length) :
    dissectIpv4Tcp (pre ++ s) (pre ++ s).length pre.length s.length info =
      .ok ((info.withTcp tcp).deliver (pre.length + tcp.headerBytes) (s.drop tcp.headerBytes)
        (ipv4TcpApp tcp.srcPort tcp.dstPort (s.drop tcp.headerBytes))) := by
  unfold dissectIpv4Tcp
  rw [if_neg (by omega), readTCP_append, htcp, ok_bind]
  rw [if_neg (by simp only [Bool.or_eq_true, decide_eq_true_eq]; omega)]
  dsimp only
  rw [sub_segment pre s hhi, ok_bind, drop_segment]
  cases hp : s.drop tcp.headerBytes with
  | nil => rfl
  | cons c p => exact dissectIpv4TcpPayload_eq (c :: p) _

theorem dissectIpv6Tcp_badHeader {tcp : WireTCP} (htcp : readTCP s 0 = .ok tcp)
    (h : tcp.headerBytes < sizeofTCP ∨ s.length < tcp.headerBytes) :
    dissectIpv6Tcp (pre ++ s) (pre ++ s).length pre.length s.length info = .ok info := by
  unfold dissectIpv6Tcp
  rw [readTCP_append, htcp, ok_bind]
  refine if_neg ?_
  simp only [ge_iff_le, Bool.and_eq_true, decide_eq_true_eq]
  omega

theorem dissectIpv6Tcp_eq {tcp : WireTCP} (htcp : readTCP s 0 = .ok tcp)
    (hlo : sizeofTCP ≤ tcp.headerBytes) (hhi : tcp.headerBytes ≤ s.length) :
    dissectIpv6Tcp (pre ++ s) (pre ++ s).length pre.length s.length info =
      .ok ((info.withTcp tcp).deliver (pre.length + tcp.headerBytes) (s.drop tcp.headerBytes)
        (ipv6TcpApp tcp.srcPort tcp.dstPort (s.drop tcp.headerBytes))) := by
  unfold dissectIpv6Tcp
  rw [readTCP_append, htcp, ok_bind]
  rw [if_pos (by simp only [ge_iff_le, Bool.and_eq_true, decide_eq_true_eq]; omega)]
  dsimp only
  rw [sub_segment pre s hhi, ok_bind, drop_segment]
  cases hp : s.drop tcp.headerBytes with
  | nil => rfl
  | cons c p => exact dissectIpv6TcpPayload_eq (c :: p) _

theorem dissectIpv4Udp_short (h : s.length < sizeofUDP) :
    dissectIpv4Udp (pre ++ s) (pre ++ s).length pre.length s.length info = .ok info.truncate :=
  if_pos h

theorem dissectIpv4Udp_eq {udp : WireUDP} (hudp : readUDP s 0 = .ok udp) (h : sizeofUDP ≤ s.length) :
    dissectIpv4Udp (pre ++ s) (pre ++ s).length pre.length s.length info =
      .ok ((info.withUdp udp).deliver (pre.length + sizeofUDP) (s.drop sizeofUDP)
        (udpApp udp.srcPort udp.dstPort (s.drop sizeofUDP))) := by
  unfold dissectIpv4Udp
  rw [if_neg (by omega), readUDP_append, hudp, ok_bind]
  dsimp only
  rw [sub_segment pre s h, ok_bind, drop_segment]
  cases hp : s.drop sizeofUDP with
  | nil => rfl
  | cons c p =>
      simp only [List.length_cons, gt_iff_lt, Nat.zero_lt_succ, if_true, PacketInfo.deliver,
        List.isEmpty_cons, Bool.false_eq_true, if_false, udpApp]
      rw [← List.length_cons (a := c), extractDns_eq]
      simp only [PacketInfo.usesPort_eq, PacketInfo.withPayload, PacketInfo.withUdp]
      by_cases hdns : onPort udp.srcPort udp.dstPort PORT_DNS = true
      · rw [if_pos hdns]
        exact if_pos hdns
      · rw [if_neg hdns]
        exact if_neg hdns

/-- Over IPv6 a UDP payload is recorded only on the DNS port. -/
theorem dissectIpv6Udp_eq {udp : WireUDP} (hudp : readUDP s 0 = .ok udp) (h : sizeofUDP ≤ s.length) :
    dissectIpv6Udp (pre ++ s) (pre ++ s).length pre.length info =
      .ok (if onPort udp.srcPort udp.dstPort PORT_DNS then
        (info.withUdp udp).deliver (pre.length + sizeofUDP) (s.drop sizeofUDP) (asDns (s.drop sizeofUDP))
        else info.withUdp udp) := by
  unfold dissectIpv6Udp
  rw [readUDP_append, hudp, ok_bind]
  dsimp only
  rw [sub_segment pre s h, ok_bind, drop_segment]
  cases hp : s.drop sizeofUDP with
  | nil => simp [PacketInfo.deliver]
  | cons c p =>
      rw [extractDns_eq]
      simp only [List.length_cons, gt_iff_lt, Nat.zero_lt_succ, decide_true, Bool.true_and,
        PacketInfo.usesPort_eq, PacketInfo.withUdp, PacketInfo.deliver, List.isEmpty_cons,
        Bool.false_eq_true, if_false]
      split <;> rfl

theorem udp_ne_tcp : IPPROTO_UDP_NUM ≠ IPPROTO_TCP_NUM := by decide

theorem sub_length_append : sub (pre ++ s).length pre.length = .ok s.length := by
  rw [sub_of_le (by rw [List.length_append]; omega), List.length_append, Nat.add_sub_cancel_left]

theorem dissectIpv4L4_tcp {ip : WireIPv4} (hp : ip.protocol = IPPROTO_TCP_NUM) :
    dissectIpv4L4 (pre ++ s) (pre ++ s).length pre.length ip info =
      dissectIpv4Tcp (pre ++ s) (pre ++ s).length pre.length s.length info := by
  rw [dissectIpv4L4, sub_length_append, ok_bind, if_pos hp]

theorem dissectIpv4L4_udp {ip : WireIPv4} (hp : ip.protocol = IPPROTO_UDP_NUM) :
    dissectIpv4L4 (pre ++ s) (pre ++ s).length pre.length ip info =
      dissectIpv4Udp (pre ++ s) (pre ++ s).length pre.length s.length info := by
  rw [dissectIpv4L4, sub_length_append, ok_bind, if_neg (by rw [hp]; decide), if_pos hp]

theorem dissectIpv6L4_tcp {ip6 : WireIPv6} (hp : ip6.nextHeader = IPPROTO_TCP_NUM)
    (h : sizeofTCP ≤ s.length) :
    dissectIpv6L4 (pre ++ s) (pre ++ s).length pre.length ip6 info =
      dissectIpv6Tcp (pre ++ s) (pre ++ s).length pre.length s.length info := by
  rw [dissectIpv6L4, sub_length_append, ok_bind, if_pos ⟨hp, h⟩]

theorem dissectIpv6L4_udp {ip6 : WireIPv6} (hp : ip6.nextHeader = IPPROTO_UDP_NUM)
    (h : sizeofUDP ≤ s.length) :
    dissectIpv6L4 (pre ++ s) (pre ++ s).length pre.length ip6 info =
      dissectIpv6Udp (pre ++ s) (pre ++ s).length pre.length info := by
  rw [dissectIpv6L4, sub_length_append, ok_bind, if_neg (fun c => udp_ne_tcp (hp.symm.trans c.1)),
    if_pos ⟨hp, h⟩]

/-- A segment shorter than its header leaves an IPv6 packet as it was. -/
theorem dissectIpv6L4_short {ip6 : WireIPv6}
    (h : ip6.nextHeader = IPPROTO_TCP_NUM ∧ s.length < sizeofTCP ∨
      ip6.nextHeader = IPPROTO_UDP_NUM ∧ s.length < sizeofUDP) :
    dissectIpv6L4 (pre ++ s) (pre ++ s).length pre.length ip6 info = .ok info := by
  rw [dissectIpv6L4, sub_length_append, ok_bind]
  rcases h with ⟨hp, hs⟩ | ⟨hp, hs⟩
  · rw [if_neg (by omega), hp, if_neg (fun c => udp_ne_tcp c.1.symm), if_neg (by decide)]
  · rw [hp, if_neg (fun c => udp_ne_tcp c.1), if_neg (by omega), if_neg (by decide)]

end Segment

/-! ## Fields the application layer leaves alone -/

/-- The packet without what the extractors write. -/
def PacketInfo.forgetApp (info : PacketInfo) : PacketInfo :=
  { info with dns := none, http := none, tls := none, l7Proto := .NONE }

/-- The packet up to its transport header. -/
def PacketInfo.forgetL7 (info : PacketInfo) : PacketInfo :=
  { info.forgetApp with l7Payload := none, l7PayloadLength := 0 }

@[simp] theorem PacketInfo.forgetApp_setApp (info : PacketInfo) (app : AppData) :
    (info.setApp app).forgetApp = info.forgetApp := by
  cases app <;> rfl

@[simp] theorem PacketInfo.forgetL7_setApp (info : PacketInfo) (app : AppData) :
    (info.setApp app).forgetL7 = info.forgetL7 := by
  cases app <;> rfl

@[simp] theorem PacketInfo.forgetL7_deliver (info : PacketInfo) (off : Nat) (payload : Octets)
    (app : AppData) : (info.deliver off payload app).forgetL7 = info.forgetL7 := by
  unfold deliver
  split
  · rfl
  · rw [forgetL7_setApp]
    rfl

@[simp] theorem PacketInfo.payloadBytes_setApp (info : PacketInfo) (app : AppData) (data : Octets) :
    (info.setApp app).payloadBytes data = info.payloadBytes data := by
  cases app <;> rfl

@[simp] theorem PacketInfo.payloadLength_setApp (info : PacketInfo) (app : AppData) :
    (info.setApp app).l7PayloadLength = info.l7PayloadLength := by
  cases app <;> rfl

theorem PacketInfo.payloadLength_deliver {info : PacketInfo} (hp : info.l7PayloadLength = 0) (off : Nat)
    (payload : Octets) (app : AppData) :
    (info.deliver off payload app).l7PayloadLength = payload.length := by
  unfold deliver
  cases payload with
  | nil => exact hp
  | cons c p => exact payloadLength_setApp _ _

/-- The payload slice of a delivered packet is the payload. -/
theorem PacketInfo.payloadBytes_deliver {info : PacketInfo} (hp : info.l7Payload = none)
    (pre payload : Octets) (app : AppData) :
    (info.deliver pre.length payload app).payloadBytes (pre ++ payload) = payload := by
  unfold deliver
  cases payload with
  | nil => simp [payloadBytes, hp]
  | cons c p =>
      rw [List.isEmpty_cons, if_neg (by decide), payloadBytes_setApp]
      simp [payloadBytes, withPayload]

end Nte
