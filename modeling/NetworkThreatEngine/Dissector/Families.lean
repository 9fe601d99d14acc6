import NetworkThreatEngine.Dissector.Frames

/-!
# The two copies of the transport dispatch

The same segment behind an IPv4 and behind an IPv6 header. The IPv4 copy marks short segments
as truncated, looks for DNS over TCP and for HTTP on any TCP port, and records every UDP payload;
the IPv6 copy does none of this. The two reports agree exactly where none of it matters.
-/
namespace Nte
open ByteReader ByteReader.Outcome Constants

/-- What a report says about the segment: transport header, payload, application data. -/
structure SegmentView where
  l4Proto : L4Protocol
  srcPort : UInt16
  dstPort : UInt16
  tcpSeq : UInt32
  tcpAck : UInt32
  tcpFlags : UInt8
  tcpWindow : UInt16
  payload : Octets
  payloadLength : Nat
  l7Proto : L7Protocol
  dns : Option DnsInfo
  http : Option HttpInfo
  tls : Option TlsInfo
  truncated : Bool
  deriving DecidableEq, Repr

def PacketInfo.segmentView (info : PacketInfo) (data : Octets) : SegmentView where
  l4Proto := info.l4Proto
  srcPort := info.srcPort
  dstPort := info.dstPort
  tcpSeq := info.tcpSeq
  tcpAck := info.tcpAck
  tcpFlags := info.tcpFlags
  tcpWindow := info.tcpWindow
  payload := info.payloadBytes data
  payloadLength := info.l7PayloadLength
  l7Proto := info.l7Proto
  dns := info.dns
  http := info.http
  tls := info.tls
  truncated := info.truncated

namespace SegmentView

/-- Nothing found. -/
def blank : SegmentView :=
  ⟨.NONE, 0, 0, 0, 0, 0, 0, [], 0, .NONE, none, none, none, false⟩

def truncate (v : SegmentView) : SegmentView := { v with truncated := true }

def tcp (w : WireTCP) : SegmentView :=
  { blank with
    l4Proto := .TCP, srcPort := w.srcPort, dstPort := w.dstPort, tcpSeq := w.seqNumber,
    tcpAck := w.ackNumber, tcpFlags := w.flags, tcpWindow := w.windowSize }

def udp (w : WireUDP) : SegmentView :=
  { blank with l4Proto := .UDP, srcPort := w.srcPort, dstPort := w.dstPort }

def setApp (v : SegmentView) : AppData → SegmentView
  | .none => v
  | .dns d => { v with dns := some d, l7Proto := .DNS }
  | .http h => { v with http := some h, l7Proto := .HTTP }
  | .tls t => { v with tls := some t, l7Proto := .TLS }

def withPayload (v : SegmentView) (payload : Octets) : SegmentView :=
  { v with payload := payload, payloadLength := payload.length }

def deliver (v : SegmentView) (payload : Octets) (app : AppData) : SegmentView :=
  if payload.isEmpty then v else (v.withPayload payload).setApp app

/-- The application data a view shows. -/
def found (v : SegmentView) : AppData :=
  match v.dns, v.http, v.tls with
  | some d, _, _ => .dns d
  | none, some h, _ => .http h
  | none, none, some t => .tls t
  | none, none, none => .none

theorem found_setApp {v : SegmentView} (blank : v.found = .none) (app : AppData) :
    (v.setApp app).found = app := by
  unfold found at blank
  split at blank
  all_goals cases blank
  rename_i hdns hhttp htls
  cases app <;> simp [found, setApp, hdns, hhttp, htls]

theorem deliver_eq_deliver {v : SegmentView} (blank : v.found = .none) (payload : Octets) (a b : AppData) :
    v.deliver payload a = v.deliver payload b ↔ payload = [] ∨ a = b := by
  cases payload with
  | nil => simp [deliver]
  | cons c p =>
      constructor
      · intro h
        have hfound := congrArg found h
        rw [deliver, deliver, List.isEmpty_cons, if_neg (by decide), if_neg (by decide)] at hfound
        have hblank : (v.withPayload (c :: p)).found = .none := blank
        rw [found_setApp hblank, found_setApp hblank] at hfound
        exact .inr hfound
      · intro h
        rcases h with h | h
        · cases h
        · rw [h]

end SegmentView

/-! ## The two views in closed form -/

inductive Transport where
  | tcp
  | udp
  deriving DecidableEq, Repr

def Transport.number : Transport → UInt8
  | tcp => IPPROTO_TCP_NUM
  | udp => IPPROTO_UDP_NUM

/-- The TCP header of a segment that holds all of it. -/
def tcpHeader (s : Octets) : Option WireTCP :=
  match readTCP s 0 with
  | .ok w => if sizeofTCP ≤ w.headerBytes ∧ w.headerBytes ≤ s.length then some w else none
  | _ => none

def udpHeader (s : Octets) : Option WireUDP :=
  match readUDP s 0 with
  | .ok w => if sizeofUDP ≤ s.length then some w else none
  | _ => none

def ipv4View (s : Octets) : Transport → SegmentView
  | .tcp =>
      match tcpHeader s with
      | some w => (SegmentView.tcp w).deliver (s.drop w.headerBytes)
          (ipv4TcpApp w.srcPort w.dstPort (s.drop w.headerBytes))
      | none => SegmentView.blank.truncate
  | .udp =>
      match udpHeader s with
      | some w => (SegmentView.udp w).deliver (s.drop sizeofUDP)
          (udpApp w.srcPort w.dstPort (s.drop sizeofUDP))
      | none => SegmentView.blank.truncate

def ipv6View (s : Octets) : Transport → SegmentView
  | .tcp =>
      match tcpHeader s with
      | some w => (SegmentView.tcp w).deliver (s.drop w.headerBytes)
          (ipv6TcpApp w.srcPort w.dstPort (s.drop w.headerBytes))
      | none => .blank
  | .udp =>
      match udpHeader s with
      | some w =>
          if onPort w.srcPort w.dstPort PORT_DNS then
            (SegmentView.udp w).deliver (s.drop sizeofUDP) (asDns (s.drop sizeofUDP))
          else .udp w
      | none => .blank

theorem segmentView_deliver (info : PacketInfo) {data payload : Octets} {off : Nat}
    (hdrop : data.drop off = payload) (app : AppData) :
    (info.deliver off payload app).segmentView data = (info.segmentView data).deliver payload app := by
  cases payload with
  | nil => rfl
  | cons c p =>
      have hbytes : (data.drop off).take (c :: p).length = c :: p := by
        rw [hdrop, List.take_length]
      cases app with
      | none => exact congrArg (fun b => { info.segmentView data with
          payload := b, payloadLength := (c :: p).length }) hbytes
      | dns d => exact congrArg (fun b => { info.segmentView data with
          payload := b, payloadLength := (c :: p).length, dns := some d, l7Proto := .DNS }) hbytes
      | http h => exact congrArg (fun b => { info.segmentView data with
          payload := b, payloadLength := (c :: p).length, http := some h, l7Proto := .HTTP }) hbytes
      | tls t => exact congrArg (fun b => { info.segmentView data with
          payload := b, payloadLength := (c :: p).length, tls := some t, l7Proto := .TLS }) hbytes

section Views
variable (pre s : Octets) {info : PacketInfo}

/-- A packet whose headers below the transport layer have been filled in, and nothing above. -/
def PacketInfo.BlankSegment (info : PacketInfo) : Prop :=
  ∀ data, info.segmentView data = .blank

theorem segmentView_withTcp (hb : info.BlankSegment) (w : WireTCP) (data : Octets) :
    (info.withTcp w).segmentView data = .tcp w := by
  have h := hb data
  simp only [PacketInfo.segmentView, SegmentView.blank, SegmentView.mk.injEq] at h
  obtain ⟨-, -, -, -, -, -, -, hpay, hlen, happ, hdns, hhttp, htls, htrunc⟩ := h
  simp only [PacketInfo.segmentView, PacketInfo.withTcp, SegmentView.tcp, SegmentView.blank,
    SegmentView.mk.injEq, true_and]
  exact ⟨hpay, hlen, happ, hdns, hhttp, htls, htrunc⟩

theorem segmentView_withUdp (hb : info.BlankSegment) (w : WireUDP) (data : Octets) :
    (info.withUdp w).segmentView data = .udp w := by
  have h := hb data
  simp only [PacketInfo.segmentView, SegmentView.blank, SegmentView.mk.injEq] at h
  obtain ⟨-, -, -, hseq, hack, hflags, hwin, hpay, hlen, happ, hdns, hhttp, htls, htrunc⟩ := h
  simp only [PacketInfo.segmentView, PacketInfo.withUdp, SegmentView.udp, SegmentView.blank,
    SegmentView.mk.injEq, true_and]
  exact ⟨hseq, hack, hflags, hwin, hpay, hlen, happ, hdns, hhttp, htls, htrunc⟩

theorem segmentView_truncate (hb : info.BlankSegment) (data : Octets) :
    info.truncate.segmentView data = SegmentView.blank.truncate :=
  congrArg SegmentView.truncate (hb data)

end Views

/-- The report's view of a segment starts out blank. -/
theorem ipv4Info_blankSegment (l : LinkHeader) (protocol : UInt8) (s : Octets) (origLen : Nat) (tsUs : Int)
    (h : Ipv4Header) : (ipv4Info l protocol s origLen tsUs h).BlankSegment :=
  fun _ => rfl

theorem ipv6Info_blankSegment (l : LinkHeader) (protocol : UInt8) (s : Octets) (origLen : Nat) (tsUs : Int)
    (h : Ipv6Header) : (ipv6Info l protocol s origLen tsUs h).BlankSegment :=
  fun _ => rfl

/-! ## The dissector produces the views -/

theorem tcpHeader_eq_some {s : Octets} {w : WireTCP} (h : tcpHeader s = some w) :
    readTCP s 0 = .ok w ∧ sizeofTCP ≤ w.headerBytes ∧ w.headerBytes ≤ s.length := by
  unfold tcpHeader at h
  split at h
  · rename_i hread
    split at h
    · cases h
      exact ⟨hread, ‹_›⟩
    · cases h
  · cases h

theorem tcpHeader_eq_none {s : Octets} (h : tcpHeader s = none) (long : sizeofTCP ≤ s.length) :
    ∃ w, readTCP s 0 = .ok w ∧ (w.headerBytes < sizeofTCP ∨ s.length < w.headerBytes) := by
  obtain ⟨w, hread⟩ := readTCP_defined s 0 (by omega)
  refine ⟨w, hread, ?_⟩
  simp only [tcpHeader, hread, ite_eq_right_iff, reduceCtorEq, imp_false, not_and_or, not_le] at h
  exact h

theorem tcpHeader_short {s : Octets} (short : s.length < sizeofTCP) : tcpHeader s = none := by
  cases header : tcpHeader s with
  | none => rfl
  | some w =>
      obtain ⟨-, least, inside⟩ := tcpHeader_eq_some header
      omega

theorem udpHeader_eq_some {s : Octets} {w : WireUDP} (h : udpHeader s = some w) :
    readUDP s 0 = .ok w ∧ sizeofUDP ≤ s.length := by
  unfold udpHeader at h
  split at h
  · rename_i hread
    split at h
    · cases h
      exact ⟨hread, ‹_›⟩
    · cases h
  · cases h

theorem udpHeader_eq_none {s : Octets} (h : udpHeader s = none) : s.length < sizeofUDP := by
  by_contra long
  obtain ⟨w, hread⟩ := readUDP_defined s 0 (by omega)
  rw [udpHeader, hread] at h
  exact absurd ((if_pos (Nat.le_of_not_lt long)).symm.trans h) (by simp)

theorem udpHeader_short {s : Octets} (short : s.length < sizeofUDP) : udpHeader s = none := by
  cases header : udpHeader s with
  | none => rfl
  | some w => exact absurd (udpHeader_eq_some header).2 (Nat.not_le.mpr short)

/-- The report of a segment that starts at `off` behind an IPv4 header. -/
def ipv4Transport (off : Nat) (protocol : UInt8) (s : Octets) (info : PacketInfo) : PacketInfo :=
  if protocol = IPPROTO_TCP_NUM then
    match tcpHeader s with
    | some w => (info.withTcp w).deliver (off + w.headerBytes) (s.drop w.headerBytes)
        (ipv4TcpApp w.srcPort w.dstPort (s.drop w.headerBytes))
    | none => info.truncate
  else if protocol = IPPROTO_UDP_NUM then
    match udpHeader s with
    | some w => (info.withUdp w).deliver (off + sizeofUDP) (s.drop sizeofUDP)
        (udpApp w.srcPort w.dstPort (s.drop sizeofUDP))
    | none => info.truncate
  else if protocol = IPPROTO_ICMP_V4 then { info with l4Proto := .ICMP }
  else { info with l4Proto := .OTHER }

/-- The same behind an IPv6 header: an incomplete transport header leaves no trace. -/
def ipv6Transport (off : Nat) (nextHeader : UInt8) (s : Octets) (info : PacketInfo) : PacketInfo :=
  if nextHeader = IPPROTO_TCP_NUM then
    match tcpHeader s with
    | some w => (info.withTcp w).deliver (off + w.headerBytes) (s.drop w.headerBytes)
        (ipv6TcpApp w.srcPort w.dstPort (s.drop w.headerBytes))
    | none => info
  else if nextHeader = IPPROTO_UDP_NUM then
    match udpHeader s with
    | some w =>
        if onPort w.srcPort w.dstPort PORT_DNS then
          (info.withUdp w).deliver (off + sizeofUDP) (s.drop sizeofUDP) (asDns (s.drop sizeofUDP))
        else info.withUdp w
    | none => info
  else if nextHeader = IPPROTO_ICMPV6 then { info with l4Proto := .ICMP }
  else info

section Closed
variable (pre s : Octets) (info : PacketInfo)

theorem dissectIpv4L4_report (ip : WireIPv4) :
    dissectIpv4L4 (pre ++ s) (pre ++ s).length pre.length ip info =
      .ok (ipv4Transport pre.length ip.protocol s info) := by
  unfold ipv4Transport
  split
  · rename_i tcp
    rw [dissectIpv4L4_tcp pre s info tcp]
    cases hw : tcpHeader s with
    | some w =>
        obtain ⟨hread, hlo, hhi⟩ := tcpHeader_eq_some hw
        exact dissectIpv4Tcp_eq pre s info hread hlo hhi
    | none =>
        by_cases short : s.length < sizeofTCP
        · exact dissectIpv4Tcp_short pre s info short
        · obtain ⟨w, hread, hbad⟩ := tcpHeader_eq_none hw (Nat.le_of_not_lt short)
          exact dissectIpv4Tcp_badHeader pre s info hread hbad
  · rename_i other
    split
    · rename_i udp
      rw [dissectIpv4L4_udp pre s info udp]
      cases hw : udpHeader s with
      | some w =>
          obtain ⟨hread, hlong⟩ := udpHeader_eq_some hw
          exact dissectIpv4Udp_eq pre s info hread hlong
      | none => exact dissectIpv4Udp_short pre s info (udpHeader_eq_none hw)
    · rename_i others
      rw [dissectIpv4L4, sub_length_append, ok_bind, if_neg other, if_neg others]
      split <;> rfl

theorem dissectIpv6L4_report (ip6 : WireIPv6) :
    dissectIpv6L4 (pre ++ s) (pre ++ s).length pre.length ip6 info =
      .ok (ipv6Transport pre.length ip6.nextHeader s info) := by
  unfold ipv6Transport
  split
  · rename_i tcp
    by_cases short : s.length < sizeofTCP
    · rw [tcpHeader_short short]
      exact dissectIpv6L4_short pre s info (.inl ⟨tcp, short⟩)
    · rw [dissectIpv6L4_tcp pre s info tcp (Nat.le_of_not_lt short)]
      cases hw : tcpHeader s with
      | some w =>
          obtain ⟨hread, hlo, hhi⟩ := tcpHeader_eq_some hw
          exact dissectIpv6Tcp_eq pre s info hread hlo hhi
      | none =>
          obtain ⟨w, hread, hbad⟩ := tcpHeader_eq_none hw (Nat.le_of_not_lt short)
          exact dissectIpv6Tcp_badHeader pre s info hread hbad
  · rename_i other
    split
    · rename_i udp
      cases hw : udpHeader s with
      | some w =>
          obtain ⟨hread, hlong⟩ := udpHeader_eq_some hw
          rw [dissectIpv6L4_udp pre s info udp hlong]
          exact dissectIpv6Udp_eq pre s info hread hlong
      | none => exact dissectIpv6L4_short pre s info (.inr ⟨udp, udpHeader_eq_none hw⟩)
    · rename_i others
      rw [dissectIpv6L4, sub_length_append, ok_bind, if_neg fun both => other both.1,
        if_neg fun both => others both.1]
      split <;> rfl

end Closed

section Produce
variable (pre s : Octets) {info : PacketInfo} (hb : info.BlankSegment)
include hb

theorem dissectIpv4L4_view (t : Transport) {ip : WireIPv4} (hp : ip.protocol = t.number) :
    ∃ out, dissectIpv4L4 (pre ++ s) (pre ++ s).length pre.length ip info = .ok out ∧
      out.segmentView (pre ++ s) = ipv4View s t := by
  refine ⟨_, dissectIpv4L4_report pre s info ip, ?_⟩
  rw [ipv4Transport, hp]
  cases t with
  | tcp =>
      have number : Transport.tcp.number = IPPROTO_TCP_NUM := rfl
      rw [if_pos number, ipv4View]
      cases tcpHeader s with
      | some w => rw [segmentView_deliver _ (drop_segment pre s _), segmentView_withTcp hb]
      | none => exact segmentView_truncate hb _
  | udp =>
      have number : Transport.udp.number = IPPROTO_UDP_NUM := rfl
      rw [number, if_neg udp_ne_tcp, if_pos rfl, ipv4View]
      cases udpHeader s with
      | some w => rw [segmentView_deliver _ (drop_segment pre s _), segmentView_withUdp hb]
      | none => exact segmentView_truncate hb _

theorem dissectIpv6L4_view (t : Transport) {ip6 : WireIPv6} (hp : ip6.nextHeader = t.number) :
    ∃ out, dissectIpv6L4 (pre ++ s) (pre ++ s).length pre.length ip6 info = .ok out ∧
      out.segmentView (pre ++ s) = ipv6View s t := by
  refine ⟨_, dissectIpv6L4_report pre s info ip6, ?_⟩
  rw [ipv6Transport, hp]
  cases t with
  | tcp =>
      have number : Transport.tcp.number = IPPROTO_TCP_NUM := rfl
      rw [if_pos number, ipv6View]
      cases tcpHeader s with
      | some w => rw [segmentView_deliver _ (drop_segment pre s _), segmentView_withTcp hb]
      | none => exact hb _
  | udp =>
      have number : Transport.udp.number = IPPROTO_UDP_NUM := rfl
      rw [number, if_neg udp_ne_tcp, if_pos rfl, ipv6View]
      cases udpHeader s with
      | some w =>
          dsimp only
          split
          · rw [segmentView_deliver _ (drop_segment pre s _), segmentView_withUdp hb]
          · rw [segmentView_withUdp hb]
      | none => exact hb _

end Produce

section Captured
variable (l : LinkHeader) (t : Transport) (s : Octets) (origLen : Nat) (tsUs : Int)

theorem dissect_eq_of (capture : Capture) {out : PacketInfo}
    (h : dissectPacket capture.toCapturedPacket = .ok out) : dissect capture = out := by
  rw [dissectPacket_capture] at h
  exact Outcome.ok.inj h

theorem dissect_ipv4_view (h : Ipv4Header) :
    (dissect (.ofFrame (ipv4Frame l t.number s h) origLen tsUs)).segmentView
      (ipv4Frame l t.number s h) = ipv4View s t := by
  obtain ⟨out, hout, hview⟩ := dissectIpv4L4_view (l.encode ETHERTYPE_IPV4 ++ h.encode t.number) s
    (ipv4Info_blankSegment l t.number s origLen tsUs h) t (rfl : (h.wire t.number).protocol = _)
  have hdissect := dissect_eq_of (.ofFrame (ipv4Frame l t.number s h) origLen tsUs)
    ((dissectPacket_ipv4 l t.number s origLen tsUs h).trans hout)
  rw [hdissect]
  exact hview

theorem dissect_ipv6_view (h : Ipv6Header) :
    (dissect (.ofFrame (ipv6Frame l t.number s h) origLen tsUs)).segmentView
      (ipv6Frame l t.number s h) = ipv6View s t := by
  obtain ⟨out, hout, hview⟩ := dissectIpv6L4_view (l.encode ETHERTYPE_IPV6 ++ h.encode t.number) s
    (ipv6Info_blankSegment l t.number s origLen tsUs h) t (rfl : (h.wire t.number).nextHeader = _)
  have hdissect := dissect_eq_of (.ofFrame (ipv6Frame l t.number s h) origLen tsUs)
    ((dissectPacket_ipv6 l t.number s origLen tsUs h).trans hout)
  rw [hdissect]
  exact hview

end Captured

/-! ## Where the copies agree -/

/-- A payload both copies of the TCP port dispatch read the same way. DNS is looked for over IPv4
only, and before anything else; over IPv6 HTTP is looked for on its own port only. -/
def TcpPortsAgree (src dst : UInt16) (payload : Octets) : Prop :=
  if onPort src dst PORT_DNS then
    asDns payload = .none ∧ (onPort src dst PORT_HTTPS → asTls payload = .none) ∧
      (¬ onPort src dst PORT_HTTPS → onPort src dst PORT_HTTP → asHttp payload = .none)
  else onPort src dst PORT_HTTPS ∨ onPort src dst PORT_HTTP ∨ asHttp payload = .none

/-- A segment with a complete header whose payload is empty or read the same way. -/
def FamiliesAgree (s : Octets) : Transport → Prop
  | .tcp => ∃ w, tcpHeader s = some w ∧
      (s.drop w.headerBytes = [] ∨ TcpPortsAgree w.srcPort w.dstPort (s.drop w.headerBytes))
  | .udp => ∃ w, udpHeader s = some w ∧
      (s.drop sizeofUDP = [] ∨ onPort w.srcPort w.dstPort PORT_DNS)

theorem tcpApp_eq_iff (src dst : UInt16) (payload : Octets) :
    ipv4TcpApp src dst payload = ipv6TcpApp src dst payload ↔ TcpPortsAgree src dst payload := by
  unfold ipv4TcpApp ipv6TcpApp TcpPortsAgree
  by_cases hdns : onPort src dst PORT_DNS = true
  · rw [if_pos hdns, if_pos hdns]
    by_cases htls : onPort src dst PORT_HTTPS = true
    · rcases asDns_cases payload with hd | ⟨d, hd⟩ <;> rcases asTls_cases payload with ht | ⟨t, ht⟩ <;>
        simp [htls, hd, ht]
    · by_cases hhttp : onPort src dst PORT_HTTP = true
      · rcases asDns_cases payload with hd | ⟨d, hd⟩ <;> rcases asHttp_cases payload with ht | ⟨t, ht⟩ <;>
          simp [htls, hhttp, hd, ht]
      · simp [htls, hhttp]
  · rw [if_neg hdns, if_neg hdns]
    by_cases htls : onPort src dst PORT_HTTPS = true
    · simp [htls]
    · by_cases hhttp : onPort src dst PORT_HTTP = true
      · simp [htls, hhttp]
      · simp [htls, hhttp]

theorem views_eq_iff (s : Octets) (t : Transport) : ipv4View s t = ipv6View s t ↔ FamiliesAgree s t := by
  have marked : SegmentView.blank.truncate ≠ .blank := by decide
  cases t with
  | tcp =>
      cases hw : tcpHeader s with
      | none => simp [ipv4View, ipv6View, FamiliesAgree, hw, marked]
      | some w =>
          simp only [ipv4View, ipv6View, FamiliesAgree, hw, Option.some.injEq, exists_eq_left']
          rw [SegmentView.deliver_eq_deliver rfl, tcpApp_eq_iff]
  | udp =>
      cases hw : udpHeader s with
      | none => simp [ipv4View, ipv6View, FamiliesAgree, hw, marked]
      | some w =>
          simp only [ipv4View, ipv6View, FamiliesAgree, hw, Option.some.injEq, exists_eq_left', udpApp]
          by_cases hdns : onPort w.srcPort w.dstPort PORT_DNS = true
          · simp [hdns]
          · rw [if_neg hdns, if_neg hdns]
            constructor
            · intro h
              by_contra hne
              have hlen := congrArg SegmentView.payloadLength h
              cases hp : s.drop sizeofUDP with
              | nil => exact hne (.inl hp)
              | cons c p =>
                  rw [hp] at hlen
                  cases hlen
            · intro h
              rcases h with h | h
              · rw [h]
                rfl
              · exact absurd h hdns

/-- The two copies report the same for a segment if and only if none of their differences shows. -/
theorem dissect_families_agree_iff (l4 l6 : LinkHeader) (h4 : Ipv4Header) (h6 : Ipv6Header)
    (t : Transport) (s : Octets) (origLen4 origLen6 : Nat) (tsUs4 tsUs6 : Int) :
    (dissect (.ofFrame (ipv4Frame l4 t.number s h4) origLen4 tsUs4)).segmentView
        (ipv4Frame l4 t.number s h4) =
      (dissect (.ofFrame (ipv6Frame l6 t.number s h6) origLen6 tsUs6)).segmentView
        (ipv6Frame l6 t.number s h6) ↔
    FamiliesAgree s t := by
  rw [dissect_ipv4_view, dissect_ipv6_view, views_eq_iff]

def quietLink : LinkHeader where
  dstMac := List.replicate 6 0
  srcMac := List.replicate 6 0
  tag := none
  dstMac_length := rfl
  srcMac_length := rfl

def quietIpv4 : Ipv4Header where
  dscpEcn := 0
  totalLength := 29
  identification := 0
  leadingFlags := 0
  moreFragments := false
  fragmentOffset := 0
  ttl := 64
  checksum := 0
  srcAddr := 0x0A000001
  dstAddr := 0x0A000002
  options := ⟨[], rfl, Nat.zero_le _⟩

def quietIpv6 : Ipv6Header where
  classFlow := 0
  payloadLength := 9
  hopLimit := 64
  srcAddr := List.replicate 15 0 ++ [1]
  dstAddr := List.replicate 15 0 ++ [2]
  classFlow_lt := by decide
  srcAddr_length := rfl
  dstAddr_length := rfl

/-- One payload byte between UDP ports 5000 and 5001. -/
def udpSegment : Octets := [0x13, 0x88, 0x13, 0x89, 0x00, 0x09, 0x00, 0x00, 0x41]

theorem dissect_families_differ :
    (dissect (.ofFrame (ipv4Frame quietLink Transport.udp.number udpSegment quietIpv4) 43 0)).segmentView
        (ipv4Frame quietLink Transport.udp.number udpSegment quietIpv4) ≠
      (dissect (.ofFrame (ipv6Frame quietLink Transport.udp.number udpSegment quietIpv6) 63 0)).segmentView
        (ipv6Frame quietLink Transport.udp.number udpSegment quietIpv6) := by
  rw [dissect_ipv4_view, dissect_ipv6_view]
  decide

end Nte
