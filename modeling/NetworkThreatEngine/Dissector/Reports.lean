import NetworkThreatEngine.Dissector.Families

/-!
# Closed form of the dissector

The report of a whole frame as a function of its bytes: each layer's header, if it is complete, and the bytes
behind it. Where a layer starts matters for the place of the payload alone.
-/
namespace Nte
open ByteReader ByteReader.Outcome Constants

/-! ## The layers -/

def ipv4Report (off : Nat) (s : Octets) (info : PacketInfo) : PacketInfo :=
  match readIPv4 s 0 with
  | .ok ip =>
      if ip.version ≠ 4 then info
      else if ip.ihlBytes < sizeofIPv4 ∨ s.length < ip.ihlBytes then info.truncate
      else ipv4Transport (off + ip.ihlBytes) ip.protocol (s.drop ip.ihlBytes) (info.withIpv4 ip)
  | _ => info.truncate

def ipv6Report (off : Nat) (s : Octets) (info : PacketInfo) : PacketInfo :=
  match readIPv6 s 0 with
  | .ok ip6 =>
      if ip6.version ≠ 6 then info
      else ipv6Transport (off + sizeofIPv6) ip6.nextHeader (s.drop sizeofIPv6) (info.withIpv6 ip6)
  | _ => info.truncate

def networkReport (off : Nat) (s : Octets) (info : PacketInfo) : PacketInfo :=
  if info.etherType = ETHERTYPE_IPV4 then ipv4Report off s info
  else if info.etherType = ETHERTYPE_IPV6 then ipv6Report off s info
  else if info.etherType = ETHERTYPE_ARP then { info with l3Proto := .ARP, valid := true }
  else info

def frameReport (frame : Octets) (info : PacketInfo) : PacketInfo :=
  match readEthernet frame 0 with
  | .ok eth =>
      if eth.etherType = ETHERTYPE_VLAN then
        match be16 frame (sizeofEthernet + 2) with
        | .ok innerType => networkReport (sizeofEthernet + 4) (frame.drop (sizeofEthernet + 4))
            { info.withEthernet eth with etherType := innerType }
        | _ => (info.withEthernet eth).truncate
      else networkReport sizeofEthernet (frame.drop sizeofEthernet) (info.withEthernet eth)
  | _ => info.truncate

/-- The segment starts with a complete header of its protocol. -/
def HoldsTransport (protocol : UInt8) (s : Octets) : Prop :=
  protocol = IPPROTO_TCP_NUM ∧ (tcpHeader s).isSome ∨ protocol = IPPROTO_UDP_NUM ∧ (udpHeader s).isSome

/-! ## Short buffers -/

section Short
variable {off : Nat} {s : Octets} {info : PacketInfo}

theorem ipv4Report_short (short : s.length < sizeofIPv4) : ipv4Report off s info = info.truncate := by
  unfold ipv4Report
  split
  · rename_i header
    exact absurd (readIPv4_long header) (Nat.not_le.mpr short)
  · rfl

theorem ipv6Report_short (short : s.length < sizeofIPv6) : ipv6Report off s info = info.truncate := by
  unfold ipv6Report
  split
  · rename_i header
    exact absurd (readIPv6_long header) (Nat.not_le.mpr short)
  · rfl

theorem frameReport_short (short : s.length < sizeofEthernet) : frameReport s info = info.truncate := by
  unfold frameReport
  split
  · rename_i header
    exact absurd (readEthernet_long header) (Nat.not_le.mpr short)
  · rfl

end Short

/-! ## Where the network layer starts -/

def networkOffset (frame : Octets) : Nat :=
  if be16 frame 12 = .ok ETHERTYPE_VLAN then sizeofEthernet + 4 else sizeofEthernet

section Network
variable {frame : Octets} {etherType : UInt16}

theorem networkOffset_tagged (tagged : be16 frame 12 = .ok ETHERTYPE_VLAN) : networkOffset frame = sizeofEthernet + 4 :=
  if_pos tagged

theorem networkOffset_untagged (untagged : be16 frame 12 ≠ .ok ETHERTYPE_VLAN) : networkOffset frame = sizeofEthernet :=
  if_neg untagged

theorem le_networkOffset (frame : Octets) : sizeofEthernet ≤ networkOffset frame := by
  unfold networkOffset
  split <;> decide

/-- A frame that gives the type of its network layer is long enough for its link header. -/
theorem networkOffset_le (type : be16 frame (networkOffset frame - 2) = .ok etherType) :
    networkOffset frame ≤ frame.length := by
  have read := be16_ok_lt type
  have some := le_networkOffset frame
  unfold sizeofEthernet at some
  omega

theorem networkOffset_append (type : be16 frame (networkOffset frame - 2) = .ok etherType) (rest : Octets) :
    networkOffset (frame ++ rest) = networkOffset frame := by
  have long := (le_networkOffset frame).trans (networkOffset_le type)
  rw [networkOffset, be16_append_left rest long]
  rfl

/-- With its link header complete, a frame is reported as its network layer is. -/
theorem frameReport_network {eth : WireEthernet} (header : readEthernet frame 0 = .ok eth)
    (type : be16 frame (networkOffset frame - 2) = .ok etherType) (info : PacketInfo) :
    frameReport frame info = networkReport (networkOffset frame) (frame.drop (networkOffset frame))
      { info.withEthernet eth with etherType := etherType } := by
  have kind := readEthernet_etherType header
  rw [frameReport, header]
  dsimp only
  by_cases tagged : eth.etherType = ETHERTYPE_VLAN
  · rw [networkOffset_tagged (kind.trans (congrArg _ tagged))] at type ⊢
    have inner : be16 frame (sizeofEthernet + 2) = .ok etherType := type
    rw [if_pos tagged, inner]
  · have untagged : be16 frame 12 ≠ .ok ETHERTYPE_VLAN := fun read => tagged (Outcome.ok.inj (kind.symm.trans read))
    rw [networkOffset_untagged untagged] at type ⊢
    obtain rfl := Outcome.ok.inj (kind.symm.trans type)
    exact if_neg tagged

/-- Without it, the report is marked. -/
theorem frameReport_unlinked (none : ∀ etherType, be16 frame (networkOffset frame - 2) ≠ .ok etherType)
    (info : PacketInfo) : (frameReport frame info).truncated = true := by
  by_cases short : frame.length < sizeofEthernet
  · rw [frameReport_short short]
    rfl
  · obtain ⟨eth, header⟩ := readEthernet_defined frame 0 (by omega)
    have kind := readEthernet_etherType header
    rw [frameReport, header]
    dsimp only
    by_cases tagged : eth.etherType = ETHERTYPE_VLAN
    · rw [networkOffset_tagged (kind.trans (congrArg _ tagged))] at none
      rw [if_pos tagged]
      split
      · rename_i inner
        exact absurd inner (none _)
      · rfl
    · have untagged : be16 frame 12 ≠ .ok ETHERTYPE_VLAN := fun read => tagged (Outcome.ok.inj (kind.symm.trans read))
      rw [networkOffset_untagged untagged] at none
      exact absurd kind (none _)

end Network

/-! ## The dissector computes the reports -/

theorem length_append_take (pre : Octets) {s : Octets} {n : Nat} (inside : n ≤ s.length) :
    (pre ++ s.take n).length = pre.length + n := by
  rw [List.length_append, List.length_take_of_le inside]

section Computes
variable (pre s : Octets) (info : PacketInfo)

theorem dissectIpv4_report :
    dissectIpv4 (pre ++ s) (pre ++ s).length pre.length info = .ok (ipv4Report pre.length s info) := by
  have room : (pre ++ s).length = pre.length + s.length := List.length_append
  by_cases short : s.length < sizeofIPv4
  · rw [dissectIpv4, if_pos (by omega), ipv4Report_short short]
  · obtain ⟨ip, header⟩ := readIPv4_defined s 0 (by omega)
    rw [dissectIpv4, if_neg (by omega), readIPv4_append, ipv4Report, header, ok_bind]
    dsimp only
    split
    · rfl
    · split
      · rename_i bad
        rw [if_pos (by simpa [room] using bad)]
      · rename_i good
        have fits : sizeofIPv4 ≤ ip.ihlBytes ∧ ip.ihlBytes ≤ s.length := by simpa [room] using good
        have behind := dissectIpv4L4_report (pre ++ s.take ip.ihlBytes) (s.drop ip.ihlBytes) (info.withIpv4 ip) ip
        rw [length_append_take pre fits.2, List.append_assoc, List.take_append_drop] at behind
        rw [behind, if_neg (by omega)]

theorem dissectIpv6_report :
    dissectIpv6 (pre ++ s) (pre ++ s).length pre.length info = .ok (ipv6Report pre.length s info) := by
  have room : (pre ++ s).length = pre.length + s.length := List.length_append
  by_cases short : s.length < sizeofIPv6
  · rw [dissectIpv6, if_pos (by omega), ipv6Report_short short]
  · obtain ⟨ip6, header⟩ := readIPv6_defined s 0 (by omega)
    rw [dissectIpv6, if_neg (by omega), readIPv6_append, ipv6Report, header, ok_bind]
    dsimp only
    split
    · rfl
    · have behind := dissectIpv6L4_report (pre ++ s.take sizeofIPv6) (s.drop sizeofIPv6) (info.withIpv6 ip6) ip6
      rw [length_append_take pre (Nat.le_of_not_lt short), List.append_assoc, List.take_append_drop] at behind
      rw [behind]

theorem dissectL3_report :
    dissectL3 (pre ++ s) (pre ++ s).length pre.length info = .ok (networkReport pre.length s info) := by
  unfold dissectL3 networkReport
  split
  · exact dissectIpv4_report pre s info
  · split
    · exact dissectIpv6_report pre s info
    · split <;> rfl

end Computes

/-- The network layer of a frame that is cut where the layer starts. -/
theorem dissectL3_drop (frame : Octets) {off : Nat} (inside : off ≤ frame.length) (info : PacketInfo) :
    dissectL3 frame frame.length off info = .ok (networkReport off (frame.drop off) info) := by
  have cut := dissectL3_report (frame.take off) (frame.drop off) info
  rw [List.take_append_drop, List.length_take_of_le inside] at cut
  exact cut

theorem dissectEthernet_report (frame : Octets) (info : PacketInfo) :
    dissectEthernet frame frame.length info = .ok (frameReport frame info) := by
  by_cases short : frame.length < sizeofEthernet
  · rw [dissectEthernet, if_pos short, frameReport_short short]
  · obtain ⟨eth, header⟩ := readEthernet_defined frame 0 (by omega)
    rw [dissectEthernet, if_neg short, header, ok_bind, frameReport, header]
    dsimp only
    by_cases tagged : eth.etherType = ETHERTYPE_VLAN
    · rw [if_pos tagged, if_pos (show (info.withEthernet eth).etherType = _ from tagged)]
      by_cases cut : frame.length < sizeofEthernet + 4
      · rw [if_pos cut]
        cases inner : be16 frame (sizeofEthernet + 2) with
        | ok innerType => exact absurd (be16_ok_lt inner) (by omega)
        | reject => rfl
        | fault => rfl
      · rw [if_neg cut, be16_of_lt (by omega), ok_bind]
        exact dissectL3_drop frame (by omega) _
    · rw [if_neg tagged, if_neg (show (info.withEthernet eth).etherType ≠ _ from tagged)]
      exact dissectL3_drop frame (by omega) _

/-- What the dissector reports of a captured frame. -/
theorem dissect_report (frame : Octets) (full : frame ≠ []) (origLen : Nat) (tsUs : Int) :
    dissect (.ofFrame frame origLen tsUs) =
      frameReport frame (CapturedPacket.ofFrame frame origLen tsUs).blankInfo := by
  apply dissect_eq_of
  have taken : ¬ (frame.isEmpty || decide (frame.length = 0)) = true := by simpa using full
  exact (if_neg taken).trans (dissectEthernet_report frame _)

end Nte
