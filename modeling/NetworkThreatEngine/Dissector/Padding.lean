import NetworkThreatEngine.Dissector.DnsOverTcp
import NetworkThreatEngine.Dissector.Layout

/-!
# Link-layer padding

The payload of a packet over IPv4 reaches to the end of the capture, whatever total length the IP header
gives. A trailer behind the packet, as Ethernet adds to short frames, is read as application data.
-/
namespace Nte
open ByteReader ByteReader.Outcome Constants

/-- Layers three to seven of a report, without the place of the payload. -/
def PacketInfo.forgetLink (info : PacketInfo) : PacketInfo :=
  { info with
    hasEthernet := false, srcMac := [], dstMac := [], etherType := 0, timestampUs := 0, capturedLength := 0,
    originalLength := 0, valid := false, truncated := false, l7Payload := none }

section Trailer
variable (l : LinkHeader) (h : Ipv4Header) (t : TransportHeader) (payload trailer : Octets)
  (origLen origLen' : Nat) (tsUs tsUs' : Int)

theorem encode_append : Frame.encode ⟨l, .ipv4 h, t, payload⟩ ++ trailer =
    Frame.encode ⟨l, .ipv4 h, t, payload ++ trailer⟩ := by
  simp only [Frame.encode, Frame.segment, ipv4Frame, List.append_assoc]

theorem dissect_overIpv4 :
    dissect (.ofFrame (Frame.encode ⟨l, .ipv4 h, t, payload⟩) origLen tsUs) =
      ((ipv4Info l t.protocol (t.encode ++ payload) origLen tsUs h).withTransport t).deliver
        (l.encode ETHERTYPE_IPV4 ++ h.encode t.protocol ++ t.encode).length payload (t.ipv4App payload) :=
  dissect_eq_of _ (dissectPacket_overIpv4 l h t payload origLen tsUs)

theorem dissect_payload :
    (dissect (.ofFrame (Frame.encode ⟨l, .ipv4 h, t, payload⟩) origLen tsUs)).payloadBytes
        (Frame.encode ⟨l, .ipv4 h, t, payload⟩) = payload ∧
      (dissect (.ofFrame (Frame.encode ⟨l, .ipv4 h, t, payload⟩) origLen tsUs)).l7PayloadLength = payload.length := by
  obtain ⟨info, dissected, -, same⟩ := dissectPacket_encode ⟨l, .ipv4 h, t, payload⟩ origLen tsUs
  rw [dissect_eq_of _ dissected]
  exact same rfl

/-- What the frame was captured with does not show in layers three to seven. -/
theorem dissect_forgetLink :
    (dissect (.ofFrame (Frame.encode ⟨l, .ipv4 h, t, payload⟩) origLen tsUs)).forgetLink =
      (dissect (.ofFrame (Frame.encode ⟨l, .ipv4 h, t, payload⟩) origLen' tsUs')).forgetLink := by
  rw [dissect_overIpv4, dissect_overIpv4]
  unfold PacketInfo.deliver
  split
  · cases t <;> rfl
  · cases TransportHeader.ipv4App payload t <;> cases t <;> rfl

/-- The headers of a padded packet are read as before, and its payload is longer by the trailer. -/
theorem dissect_padded :
    (dissect (.ofFrame (Frame.encode ⟨l, .ipv4 h, t, payload⟩ ++ trailer) origLen' tsUs')).payloadBytes
        (Frame.encode ⟨l, .ipv4 h, t, payload⟩ ++ trailer) = payload ++ trailer ∧
      (dissect (.ofFrame (Frame.encode ⟨l, .ipv4 h, t, payload⟩ ++ trailer) origLen' tsUs')).l7PayloadLength =
        payload.length + trailer.length ∧
      (dissect (.ofFrame (Frame.encode ⟨l, .ipv4 h, t, payload⟩ ++ trailer) origLen' tsUs')).forgetL7.forgetLink =
        (dissect (.ofFrame (Frame.encode ⟨l, .ipv4 h, t, payload⟩) origLen tsUs)).forgetL7.forgetLink := by
  rw [encode_append]
  have padded := dissect_payload l h t (payload ++ trailer) origLen' tsUs'
  rw [List.length_append] at padded
  refine ⟨padded.1, padded.2, ?_⟩
  rw [dissect_overIpv4, dissect_overIpv4, PacketInfo.forgetL7_deliver, PacketInfo.forgetL7_deliver]
  cases t <;> rfl

theorem encode_padding_iff :
    ((dissect (.ofFrame (Frame.encode ⟨l, .ipv4 h, t, payload⟩ ++ trailer) origLen' tsUs')).forgetLink =
        (dissect (.ofFrame (Frame.encode ⟨l, .ipv4 h, t, payload⟩) origLen tsUs)).forgetLink ∧
      (dissect (.ofFrame (Frame.encode ⟨l, .ipv4 h, t, payload⟩ ++ trailer) origLen' tsUs')).payloadBytes
          (Frame.encode ⟨l, .ipv4 h, t, payload⟩ ++ trailer) =
        (dissect (.ofFrame (Frame.encode ⟨l, .ipv4 h, t, payload⟩) origLen tsUs)).payloadBytes
          (Frame.encode ⟨l, .ipv4 h, t, payload⟩)) ↔
      trailer = [] := by
  constructor
  · rintro ⟨-, same⟩
    rw [(dissect_padded l h t payload trailer origLen origLen' tsUs tsUs').1,
      (dissect_payload l h t payload origLen tsUs).1, List.append_right_eq_self] at same
    exact same
  · rintro rfl
    rw [List.append_nil, (dissect_payload l h t payload origLen tsUs).1,
      (dissect_payload l h t payload origLen' tsUs').1]
    exact ⟨dissect_forgetLink l h t payload origLen' origLen tsUs' tsUs, rfl⟩

end Trailer

/-- Layers three to seven of a well-formed frame are reported alike with and without a trailer exactly if there is
none, whatever its total length. -/
theorem padding_iff {frame : Octets} {ip : WireIPv4} (formed : WellFormed frame ip) (trailer : Octets)
    (origLen origLen' : Nat) (tsUs tsUs' : Int) :
    ((dissect (.ofFrame (frame ++ trailer) origLen' tsUs')).forgetLink =
        (dissect (.ofFrame frame origLen tsUs)).forgetLink ∧
      (dissect (.ofFrame (frame ++ trailer) origLen' tsUs')).payloadBytes (frame ++ trailer) =
        (dissect (.ofFrame frame origLen tsUs)).payloadBytes frame) ↔
      trailer = [] := by
  obtain ⟨l, h, t, payload, rfl⟩ := formed.exists_frame
  exact encode_padding_iff l h t payload trailer origLen origLen' tsUs tsUs'

/-- A SYN without data; its packet has 40 bytes. -/
def bareSyn : Frame :=
  ⟨quietLink, .ipv4 { quietIpv4 with totalLength := 40 }, .tcp { quietTcp with dstPort := 443, flags := 2 }, []⟩

theorem padding_iff_syn :
    ((dissect (.ofFrame (bareSyn.encode ++ [0]) 55 0)).forgetLink = (dissect (.ofFrame bareSyn.encode 54 0)).forgetLink ∧
      (dissect (.ofFrame (bareSyn.encode ++ [0]) 55 0)).payloadBytes (bareSyn.encode ++ [0]) =
        (dissect (.ofFrame bareSyn.encode 54 0)).payloadBytes bareSyn.encode) ↔
      ([0] : Octets) = [] := by
  have formed : WellFormed bareSyn.encode (Ipv4Header.wire { quietIpv4 with totalLength := 40 } Transport.tcp.number) :=
    ⟨by decide, by decide, by decide, by decide, by decide, .inl ⟨rfl, by decide⟩⟩
  exact padding_iff formed [0] 54 55 0 0

/-- Padded to the 60 bytes of a shortest frame, it has six bytes of payload. -/
theorem padded_syn_has_payload :
    ({ quietIpv4 with totalLength := 40 } : Ipv4Header).totalLength.toNat = sizeofIPv4 + bareSyn.segment.length ∧
      (dissect (.ofFrame bareSyn.encode 54 0)).l7PayloadLength = 0 ∧
      (dissect (.ofFrame (bareSyn.encode ++ List.replicate 6 0) 60 0)).l7PayloadLength = 6 ∧
      (dissect (.ofFrame (bareSyn.encode ++ List.replicate 6 0) 60 0)).payloadBytes
        (bareSyn.encode ++ List.replicate 6 0) ≠ (dissect (.ofFrame bareSyn.encode 54 0)).payloadBytes bareSyn.encode := by
  decide +kernel

end Nte
