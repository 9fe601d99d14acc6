import NetworkThreatEngine.Dissector.Dissect

/-!
# Memory safety and termination of the dissector

Every extractor run on a payload of the stated length, and every layer of the dissector run on a
capture of the stated length, stays inside its buffer and ends.
-/
namespace Nte
open ByteReader ByteReader.Outcome Constants

/-! ## DNS -/

theorem dnsLabels_safe {payload : Octets} {len : Nat} (hlen : payload.length = len)
    (hopsLeft offset : Nat) (name : Octets) : Safe (dnsLabels payload len hopsLeft offset name) := by
  induction hopsLeft generalizing offset name with
  | zero => exact safe_ok _
  | succ hopsLeft ih =>
      rw [dnsLabels]
      apply Safe.ite
      · intro inside
        refine (byteAt_safe (by omega)).bind fun labelLen _ => ?_
        refine Safe.ite (fun _ => safe_ok _) fun _ => Safe.ite (fun _ => safe_reject) fun _ => ?_
        refine Safe.ite (fun _ => safe_reject) fun fits => ?_
        exact (slice_safe (by omega)).bind fun label _ => ih _ _
      · intro _
        exact safe_ok _

theorem decodeDns_safe {payload : Octets} {len : Nat} (hlen : payload.length = len) :
    Safe (decodeDns payload len) := by
  unfold decodeDns DNS_HEADER_SIZE
  refine Safe.ite (fun _ => safe_reject) fun long => ?_
  refine (byteAt_safe (by omega)).bind fun flags _ => (be16_safe (by omega)).bind fun qdcount _ => ?_
  refine Safe.ite (fun _ => safe_reject) fun _ => ?_
  refine (dnsLabels_safe hlen _ _ _).bind fun result _ => ?_
  obtain ⟨offset, name⟩ := result
  refine Safe.ite (fun _ => safe_reject) fun room => ?_
  simp only [Bool.or_eq_true, decide_eq_true_eq, not_or, not_lt] at room
  exact (be16_safe (by omega)).bind fun _ _ => safe_ok _

/-! ## HTTP -/

theorem matchesAt_safe {payload : Octets} {pos : Nat} {text : Octets}
    (h : pos + text.length ≤ payload.length) : Safe (matchesAt payload pos text) :=
  (slice_safe h).bind fun _ _ => safe_ok _

theorem findMethod_safe {payload : Octets} {len : Nat} (hlen : payload.length = len)
    (ms : List Octets) : Safe (findMethod payload len ms) := by
  induction ms with
  | nil => exact safe_ok _
  | cons m ms ih =>
      rw [findMethod]
      refine Safe.ite (fun fits => ?_) fun _ => ih
      refine (matchesAt_safe (by omega)).bind fun found _ => ?_
      exact Safe.ite (fun _ => safe_ok _) fun _ => ih

/-- A method found is one of those asked for, so the payload is at least as long. -/
theorem findMethod_length {payload : Octets} {len : Nat} {ms : List Octets} {method : Octets}
    (h : findMethod payload len ms = .ok method) (hm : method ≠ []) : method.length + 1 ≤ len := by
  induction ms with
  | nil =>
      simp only [findMethod, Outcome.ok.injEq] at h
      exact absurd h.symm hm
  | cons m ms ih =>
      rw [findMethod] at h
      split at h
      · rename_i fits
        obtain ⟨found, -, hfound⟩ := bind_eq_ok.mp h
        cases found with
        | true =>
            simp only [if_true, pure_eq, Outcome.ok.injEq] at hfound
            subst hfound
            have : m.length ≠ 0 := by
              intro h0
              exact hm (by simp [List.length_eq_zero_iff.mp h0])
            simp only [List.length_take]
            omega
        | false => exact ih hfound
      · exact ih h

theorem crlfAt_defined (payload : Octets) (pos : Nat) (h : pos + 1 < payload.length) :
    ∃ t, crlfAt payload pos = .ok t := by
  unfold crlfAt
  rw [byteAt_of_lt (by omega), byteAt_of_lt h]
  simp only [ok_bind, pure_eq]
  split <;> exact ⟨_, rfl⟩

theorem moreLine_bounded {payload : Octets} {len : Nat} (hlen : payload.length = len) :
    Bounded (moreLine payload len) len where
  defined i := by
    unfold moreLine
    split
    · obtain ⟨t, ht⟩ := crlfAt_defined payload i (by omega)
      exact ⟨!t, by simp [ht]⟩
    · exact ⟨false, rfl⟩
  stops i hi := if_neg (by omega)

theorem moreUri_bounded {payload : Octets} {len : Nat} (hlen : payload.length = len) :
    Bounded (moreUri payload len) len where
  defined i := by
    unfold moreUri
    split
    · exact ⟨_, by rw [byteAt_of_lt (by omega)]; rfl⟩
    · exact ⟨false, rfl⟩
  stops i hi := if_neg (by omega)

theorem findLineEnd_spec {payload : Octets} {len : Nat} (hlen : payload.length = len) (pos : Nat) :
    ∃ eol, findLineEnd payload len pos = .ok eol ∧ pos ≤ eol ∧ eol ≤ max pos len ∧
      moreLine payload len eol = .ok false ∧
      ∀ k, pos ≤ k → k < eol → moreLine payload len k = .ok true :=
  scan_spec (moreLine_bounded hlen) (len + 1) pos (by omega) (by omega)

theorem hostAt_safe {payload : Octets} {len pos : Nat} (hlen : payload.length = len) (h : pos ≤ len) :
    Safe (hostAt payload len pos) := by
  unfold hostAt
  rw [sub_of_le h, ok_bind]
  exact Safe.ite (fun fits => matchesAt_safe (by omega)) fun _ => safe_ok _

theorem hostAt_fits {payload : Octets} {len pos : Nat} (h : pos ≤ len)
    (hit : hostAt payload len pos = .ok true) : pos + kHost.length ≤ len := by
  by_contra short
  rw [hostAt, sub_of_le h, ok_bind, if_neg (by omega)] at hit
  cases hit

theorem findHost_safe {payload : Octets} {len : Nat} (hlen : payload.length = len) (fuel pos : Nat)
    (hf : len < fuel + pos) (hpos : 0 < fuel) : Safe (findHost payload len fuel pos) := by
  induction fuel generalizing pos with
  | zero => omega
  | succ fuel ih =>
      rw [findHost]
      refine Safe.ite (fun inside => ?_) fun _ => safe_ok _
      obtain ⟨t, ht⟩ := crlfAt_defined payload pos (by omega)
      rw [ht, ok_bind]
      refine Safe.ite (fun _ => safe_ok _) fun _ => ?_
      refine (hostAt_safe hlen (by omega)).bind fun isHost hisHost => ?_
      refine Safe.ite (fun yes => ?_) fun _ => ?_
      · have fits := hostAt_fits (by omega) (yes ▸ hisHost)
        dsimp only
        obtain ⟨valEnd, hv, lower, upper, -, -⟩ := findLineEnd_spec hlen (pos + kHost.length)
        rw [hv, ok_bind, sub_of_le lower, ok_bind]
        exact slice_safe (by omega)
      · obtain ⟨eol, he, lower, -, -, -⟩ := findLineEnd_spec hlen pos
        rw [he, ok_bind]
        exact ih _ (by omega) (by omega)

theorem decodeHttp_safe {payload : Octets} {len : Nat} (hlen : payload.length = len) :
    Safe (decodeHttp payload len) := by
  unfold decodeHttp
  refine Safe.ite (fun _ => safe_reject) fun _ => ?_
  refine (findMethod_safe hlen _).bind fun method hmethod => ?_
  refine Safe.ite (fun _ => safe_reject) fun some => ?_
  have fits := findMethod_length hmethod (by simpa using some)
  obtain ⟨uriEnd, hu, lower, upper, -, -⟩ :=
    scan_spec (moreUri_bounded hlen) (len + 1) (method.length + 1) (by omega) (by omega)
  obtain ⟨eol, he, -, -, -, -⟩ := findLineEnd_spec hlen 0
  dsimp only
  rw [hu, ok_bind, sub_of_le lower, ok_bind]
  refine (slice_safe (by omega)).bind fun uri _ => ?_
  rw [he, ok_bind]
  exact (findHost_safe hlen _ _ (by omega) (by omega)).bind fun _ _ => safe_ok _

/-! ## TLS -/

theorem sniNames_safe {payload : Octets} {v : UInt16} {sniEnd : Nat} (hend : sniEnd ≤ payload.length)
    (fuel off : Nat) (hf : sniEnd < fuel + off) (hpos : 0 < fuel) :
    Safe (sniNames payload v sniEnd fuel off) := by
  induction fuel generalizing off with
  | zero => omega
  | succ fuel ih =>
      rw [sniNames]
      refine Safe.ite (fun inside => ?_) fun _ => safe_reject
      refine (byteAt_safe (by omega)).bind fun nameType _ => ?_
      refine (be16_safe (by omega)).bind fun nameLen _ => ?_
      refine Safe.ite (fun _ => safe_reject) fun fits => Safe.ite (fun _ => ?_) fun _ => ?_
      · exact (slice_safe (by omega)).bind fun _ _ => safe_ok _
      · exact ih _ (by omega) (by omega)

theorem tlsExtensions_safe {payload : Octets} {v : UInt16} {extEnd : Nat}
    (hend : extEnd ≤ payload.length) (fuel off : Nat) (hf : extEnd < fuel + off) (hpos : 0 < fuel) :
    Safe (tlsExtensions payload v extEnd fuel off) := by
  induction fuel generalizing off with
  | zero => omega
  | succ fuel ih =>
      rw [tlsExtensions]
      refine Safe.ite (fun inside => ?_) fun _ => safe_reject
      refine (be16_safe (by omega)).bind fun extType _ => (be16_safe (by omega)).bind fun extLen _ => ?_
      refine Safe.ite (fun _ => safe_reject) fun fits => Safe.ite (fun _ => ?_) fun _ => ?_
      · refine Safe.ite (fun _ => safe_reject) fun room => ?_
        refine (be16_safe (by omega)).bind fun sniListLen _ => ?_
        refine Safe.ite (fun _ => safe_reject) fun inner => ?_
        exact sniNames_safe (by omega) _ _ (by omega) (by omega)
      · exact ih _ (by omega) (by omega)

theorem tlsHelloBody_safe {payload : Octets} {len : Nat} (hlen : payload.length = len) (v : UInt16)
    (hsEnd off : Nat) : Safe (tlsHelloBody payload len v hsEnd off) := by
  unfold tlsHelloBody
  refine Safe.ite (fun _ => safe_reject) fun _ => (byteAt_safe (by omega)).bind fun sid _ => ?_
  refine Safe.ite (fun _ => safe_reject) fun _ => Safe.ite (fun _ => safe_reject) fun _ => ?_
  refine (be16_safe (by omega)).bind fun cs _ => ?_
  refine Safe.ite (fun _ => safe_reject) fun _ => Safe.ite (fun _ => safe_reject) fun _ => ?_
  refine (byteAt_safe (by omega)).bind fun comp _ => ?_
  refine Safe.ite (fun _ => safe_reject) fun _ => Safe.ite (fun _ => safe_reject) fun _ => ?_
  refine (be16_safe (by omega)).bind fun ext _ => ?_
  refine Safe.ite (fun _ => safe_reject) fun inside => ?_
  simp only [Bool.or_eq_true, decide_eq_true_eq, not_or, not_lt] at inside
  exact tlsExtensions_safe (by omega) _ _ (by omega) (by omega)

theorem decodeTls_safe {payload : Octets} {len : Nat} (hlen : payload.length = len) :
    Safe (decodeTls payload len) := by
  unfold decodeTls
  refine Safe.ite (fun _ => safe_reject) fun _ => (byteAt_safe (by omega)).bind fun _ _ => ?_
  refine Safe.ite (fun _ => safe_reject) fun _ => ?_
  refine (be16_safe (by omega)).bind fun v _ => (be16_safe (by omega)).bind fun recordLen _ => ?_
  refine Safe.ite (fun _ => safe_reject) fun _ => (byteAt_safe (by omega)).bind fun _ _ => ?_
  refine Safe.ite (fun _ => safe_reject) fun _ => ?_
  refine (byteAt_safe (by omega)).bind fun h _ => (byteAt_safe (by omega)).bind fun m _ =>
    (byteAt_safe (by omega)).bind fun l _ => ?_
  refine Safe.ite (fun _ => safe_reject) fun _ => Safe.ite (fun _ => safe_reject) fun _ => ?_
  exact tlsHelloBody_safe hlen _ _ _

/-! ## The extractors always return a packet -/

section Extractors
variable {payload : Octets} {len : Nat} (hlen : payload.length = len) (info : PacketInfo)
include hlen

theorem extractDns_returns : Returns (extractDns payload len info) := by
  have h := decodeDns_safe hlen
  unfold extractDns
  cases hd : decodeDns payload len with
  | ok dns => exact returns_ok _
  | reject => exact returns_ok _
  | fault => exact absurd hd h

theorem extractHttp_returns : Returns (extractHttp payload len info) := by
  have h := decodeHttp_safe hlen
  unfold extractHttp
  cases hd : decodeHttp payload len with
  | ok http => exact returns_ok _
  | reject => exact returns_ok _
  | fault => exact absurd hd h

theorem extractTls_returns : Returns (extractTls payload len info) := by
  have h := decodeTls_safe hlen
  unfold extractTls
  cases hd : decodeTls payload len with
  | ok tls => exact returns_ok _
  | reject => exact returns_ok _
  | fault => exact absurd hd h

end Extractors

/-! ## The layers -/

section Layers
variable {data : Octets} {len : Nat} (hlen : data.length = len)
include hlen

theorem dissectIpv4Tcp_returns {off l4Len : Nat} (hoff : l4Len = len - off) (hle : off ≤ len)
    (info : PacketInfo) : Returns (dissectIpv4Tcp data len off l4Len info) := by
  unfold dissectIpv4Tcp
  refine Returns.ite (fun _ => returns_ok _) fun long => ?_
  simp only [sizeofTCP, not_lt] at long
  obtain ⟨tcp, htcp⟩ := readTCP_defined data off (by unfold sizeofTCP; omega)
  rw [htcp, ok_bind]
  refine Returns.ite (fun _ => returns_ok _) fun hdr => ?_
  simp only [Bool.or_eq_true, decide_eq_true_eq, not_or, not_lt] at hdr
  dsimp only
  rw [sub_of_le (by omega), ok_bind]
  refine Returns.ite (fun _ => ?_) fun _ => returns_ok _
  have hp : (data.drop (off + tcp.headerBytes)).length = len - (off + tcp.headerBytes) := by
    rw [List.length_drop, hlen]
  unfold dissectIpv4TcpPayload
  exact Returns.ite (fun _ => extractDns_returns hp _) fun _ => Returns.ite (fun _ => extractTls_returns hp _)
    fun _ => Returns.ite (fun _ => extractHttp_returns hp _) fun _ => extractHttp_returns hp _

theorem dissectIpv4Udp_returns {off l4Len : Nat} (hoff : l4Len = len - off) (hle : off ≤ len)
    (info : PacketInfo) : Returns (dissectIpv4Udp data len off l4Len info) := by
  unfold dissectIpv4Udp
  refine Returns.ite (fun _ => returns_ok _) fun long => ?_
  simp only [sizeofUDP, not_lt] at long
  obtain ⟨udp, hudp⟩ := readUDP_defined data off (by unfold sizeofUDP; omega)
  rw [hudp, ok_bind]
  dsimp only
  rw [sub_of_le (by unfold sizeofUDP; omega), ok_bind]
  have hp : (data.drop (off + sizeofUDP)).length = len - (off + sizeofUDP) := by
    rw [List.length_drop, hlen]
  exact Returns.ite (fun _ => Returns.ite (fun _ => extractDns_returns hp _) fun _ => returns_ok _)
    fun _ => returns_ok _

theorem dissectIpv4_returns (off : Nat) (info : PacketInfo) : Returns (dissectIpv4 data len off info) := by
  unfold dissectIpv4
  refine Returns.ite (fun _ => returns_ok _) fun long => ?_
  obtain ⟨ip, hip⟩ := readIPv4_defined data off (by omega)
  rw [hip, ok_bind]
  refine Returns.ite (fun _ => returns_ok _) fun _ => Returns.ite (fun _ => returns_ok _) fun hdr => ?_
  simp only [Bool.or_eq_true, decide_eq_true_eq, not_or, not_lt] at hdr
  unfold dissectIpv4L4
  rw [sub_of_le hdr.2, ok_bind]
  exact Returns.ite (fun _ => dissectIpv4Tcp_returns hlen rfl hdr.2 _) fun _ =>
    Returns.ite (fun _ => dissectIpv4Udp_returns hlen rfl hdr.2 _) fun _ =>
      Returns.ite (fun _ => returns_ok _) fun _ => returns_ok _

theorem dissectIpv6Tcp_returns {off l4Len : Nat} (hoff : l4Len = len - off) (hle : off ≤ len)
    (hlong : sizeofTCP ≤ l4Len) (info : PacketInfo) : Returns (dissectIpv6Tcp data len off l4Len info) := by
  unfold dissectIpv6Tcp
  obtain ⟨tcp, htcp⟩ := readTCP_defined data off (by omega)
  rw [htcp, ok_bind]
  refine Returns.ite (fun hdr => ?_) fun _ => returns_ok _
  simp only [ge_iff_le, Bool.and_eq_true, decide_eq_true_eq] at hdr
  dsimp only
  rw [sub_of_le (by omega), ok_bind]
  refine Returns.ite (fun _ => ?_) fun _ => returns_ok _
  have hp : (data.drop (off + tcp.headerBytes)).length = len - (off + tcp.headerBytes) := by
    rw [List.length_drop, hlen]
  unfold dissectIpv6TcpPayload
  exact Returns.ite (fun _ => extractTls_returns hp _) fun _ => Returns.ite (fun _ => extractHttp_returns hp _)
    fun _ => returns_ok _

theorem dissectIpv6Udp_returns {off : Nat} (hlong : off + sizeofUDP ≤ len) (info : PacketInfo) :
    Returns (dissectIpv6Udp data len off info) := by
  unfold dissectIpv6Udp
  obtain ⟨udp, hudp⟩ := readUDP_defined data off (by omega)
  rw [hudp, ok_bind]
  dsimp only
  rw [sub_of_le hlong, ok_bind]
  have hp : (data.drop (off + sizeofUDP)).length = len - (off + sizeofUDP) := by
    rw [List.length_drop, hlen]
  exact Returns.ite (fun _ => extractDns_returns hp _) fun _ => returns_ok _

theorem dissectIpv6_returns (off : Nat) (info : PacketInfo) : Returns (dissectIpv6 data len off info) := by
  unfold dissectIpv6
  refine Returns.ite (fun _ => returns_ok _) fun long => ?_
  obtain ⟨ip6, hip⟩ := readIPv6_defined data off (by omega)
  rw [hip, ok_bind]
  refine Returns.ite (fun _ => returns_ok _) fun _ => ?_
  unfold dissectIpv6L4
  rw [sub_of_le (by omega), ok_bind]
  exact Returns.ite (fun tcp => dissectIpv6Tcp_returns hlen rfl (by omega) tcp.2 _) fun _ =>
    Returns.ite (fun udp => dissectIpv6Udp_returns hlen (by omega) _) fun _ =>
      Returns.ite (fun _ => returns_ok _) fun _ => returns_ok _

theorem dissectL3_returns (off : Nat) (info : PacketInfo) : Returns (dissectL3 data len off info) := by
  unfold dissectL3
  exact Returns.ite (fun _ => dissectIpv4_returns hlen off info) fun _ =>
    Returns.ite (fun _ => dissectIpv6_returns hlen off info) fun _ =>
      Returns.ite (fun _ => returns_ok _) fun _ => returns_ok _

theorem dissectEthernet_returns (info : PacketInfo) : Returns (dissectEthernet data len info) := by
  unfold dissectEthernet
  refine Returns.ite (fun _ => returns_ok _) fun long => ?_
  obtain ⟨eth, heth⟩ := readEthernet_defined data 0 (by omega)
  rw [heth, ok_bind]
  refine Returns.ite (fun _ => Returns.ite (fun _ => returns_ok _) fun tagged => ?_) fun _ =>
    dissectL3_returns hlen _ _
  exact (be16_returns (by omega)).bind fun _ => dissectL3_returns hlen _ _

end Layers

theorem dissectPacket_returns {raw : CapturedPacket} (h : raw.WellSized) :
    Returns (dissectPacket raw) := by
  unfold dissectPacket
  exact Returns.ite (fun _ => returns_ok _) fun _ => dissectEthernet_returns h _

/-- No access to a capture or to a payload, no subtraction and no loop leaves its bounds. -/
theorem dissectPacket_in_bounds (raw : CapturedPacket) (h : raw.WellSized) :
    (∃ info, dissectPacket raw = .ok info) ∧
      ∀ (off : Nat) (info : PacketInfo),
        Safe (extractDns (raw.data.drop off) (raw.capturedLength - off) info) ∧
        Safe (extractHttp (raw.data.drop off) (raw.capturedLength - off) info) ∧
        Safe (extractTls (raw.data.drop off) (raw.capturedLength - off) info) := by
  refine ⟨dissectPacket_returns h, fun off info => ?_⟩
  have hp : (raw.data.drop off).length = raw.capturedLength - off := by
    rw [List.length_drop, h]
  exact ⟨(extractDns_returns hp info).safe, (extractHttp_returns hp info).safe,
    (extractTls_returns hp info).safe⟩

/-- An ARP frame of the minimal fourteen bytes. -/
theorem dissectPacket_in_bounds_arp :
    (∃ info, dissectPacket (.ofFrame (List.replicate 12 0 ++ [0x08, 0x06]) 14 0) = .ok info) ∧
      Safe (extractDns (([0x08, 0x06] : Octets).drop 2) 0 {}) :=
  have h := dissectPacket_in_bounds (.ofFrame (List.replicate 12 0 ++ [0x08, 0x06]) 14 0) rfl
  ⟨h.1, (h.2 14 {}).1⟩

/-! ## Captures

What the capture layer hands on is well sized, so the dissector is total on it. -/

structure Capture extends CapturedPacket where
  wellSized : toCapturedPacket.WellSized
  deriving DecidableEq

def dissect (capture : Capture) : PacketInfo :=
  match dissectPacket capture.toCapturedPacket with
  | .ok info => info
  | .reject => capture.blankInfo
  | .fault => capture.blankInfo

theorem dissectPacket_capture (capture : Capture) :
    dissectPacket capture.toCapturedPacket = .ok (dissect capture) := by
  obtain ⟨info, h⟩ := dissectPacket_returns capture.wellSized
  rw [dissect, h]

/-- The capture of exactly `frame`. -/
def Capture.ofFrame (frame : Octets) (origLen : Nat) (tsUs : Int) : Capture where
  toCapturedPacket := .ofFrame frame origLen tsUs
  wellSized := rfl

end Nte
