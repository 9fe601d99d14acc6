import NetworkThreatEngine.Dissector.DnsOverTcp
import NetworkThreatEngine.Dissector.Reports

/-!
# Cut frames

A capture may hold the first bytes of a frame only. What is missed of the headers is marked, except behind an
IPv6 header: an incomplete transport header is passed over there without a mark.
-/
namespace Nte
open ByteReader ByteReader.Outcome Constants

/-- Layers two to four of a report. -/
def PacketInfo.headers (info : PacketInfo) : PacketInfo :=
  { info.forgetL7 with
    timestampUs := 0, capturedLength := 0, originalLength := 0, valid := false, truncated := false }

/-- The report of the first bytes is marked, or agrees with that of the frame up to layer four. -/
def CutVisible (kept whole : PacketInfo) : Prop := kept.truncated = true ∨ kept.headers = whole.headers

/-- A transport header behind a complete IPv6 header is complete only with the bytes that are missing. -/
def CutsTransport (kept rest : Octets) : Prop :=
  ∃ ip6, readIPv6 kept 0 = .ok ip6 ∧ ip6.version = 6 ∧
    HoldsTransport ip6.nextHeader (kept.drop sizeofIPv6 ++ rest) ∧
    ¬ HoldsTransport ip6.nextHeader (kept.drop sizeofIPv6)

/-- The frame carries IPv6 and is cut in its transport header. -/
def CutsIpv6Frame (kept rest : Octets) : Prop :=
  be16 kept (networkOffset kept - 2) = .ok ETHERTYPE_IPV6 ∧ CutsTransport (kept.drop (networkOffset kept)) rest

/-! ## Headers that more bytes do not change -/

section Longer
variable {s : Octets} (rest : Octets)

theorem tcpHeader_append {w : WireTCP} (h : tcpHeader s = some w) : tcpHeader (s ++ rest) = some w := by
  obtain ⟨read, least, inside⟩ := tcpHeader_eq_some h
  rw [tcpHeader, readTCP_append_left rest (least.trans inside), read]
  exact if_pos ⟨least, inside.trans (by simp)⟩

theorem udpHeader_append {w : WireUDP} (h : udpHeader s = some w) : udpHeader (s ++ rest) = some w := by
  obtain ⟨read, inside⟩ := udpHeader_eq_some h
  rw [udpHeader, readUDP_append_left rest inside, read]
  exact if_pos (inside.trans (by simp))

end Longer

theorem PacketInfo.headers_deliver (info : PacketInfo) (off : Nat) (payload : Octets) (app : AppData) :
    (info.deliver off payload app).headers = info.headers := by
  rw [headers, forgetL7_deliver]
  rfl

/-- A report without a transport protocol does not agree with one that has it. -/
theorem not_cutVisible {kept whole : PacketInfo} (unmarked : kept.truncated = false) (blank : kept.l4Proto = .NONE)
    (some : whole.headers.l4Proto ≠ .NONE) : ¬ CutVisible kept whole := by
  rintro (marked | agree)
  · exact absurd (unmarked.symm.trans marked) (by decide)
  · rw [← agree] at some
    exact some blank

/-! ## Layer by layer -/

section Cut
variable {info info' : PacketInfo} (same : info.headers = info'.headers) {off off' : Nat} {kept rest : Octets}
include same

theorem deliver_cut (payload payload' : Octets) (app app' : AppData) :
    (info.deliver off payload app).headers = (info'.deliver off' payload' app').headers := by
  rw [PacketInfo.headers_deliver, PacketInfo.headers_deliver, same]

theorem ipv4Transport_cut (protocol : UInt8) :
    CutVisible (ipv4Transport off protocol kept info) (ipv4Transport off' protocol (kept ++ rest) info') := by
  unfold ipv4Transport
  split
  · cases header : tcpHeader kept with
    | some w =>
        have alike : (info.withTcp w).headers = (info'.withTcp w).headers := congrArg (·.withTcp w) same
        rw [tcpHeader_append rest header]
        exact .inr (deliver_cut alike _ _ _ _)
    | none => exact .inl rfl
  · split
    · cases header : udpHeader kept with
      | some w =>
          have alike : (info.withUdp w).headers = (info'.withUdp w).headers := congrArg (·.withUdp w) same
          rw [udpHeader_append rest header]
          exact .inr (deliver_cut alike _ _ _ _)
      | none => exact .inl rfl
    · split
      · exact .inr (congrArg (fun info => { info with l4Proto := .ICMP }) same)
      · exact .inr (congrArg (fun info => { info with l4Proto := .OTHER }) same)

theorem ipv4Report_cut : CutVisible (ipv4Report off kept info) (ipv4Report off' (kept ++ rest) info') := by
  by_cases short : kept.length < sizeofIPv4
  · rw [ipv4Report_short short]
    exact .inl rfl
  · obtain ⟨ip, header⟩ := readIPv4_defined kept 0 (by omega)
    rw [ipv4Report, ipv4Report, readIPv4_append_left rest (Nat.le_of_not_lt short), header]
    dsimp only
    by_cases four : ip.version ≠ 4
    · rw [if_pos four, if_pos four]
      exact .inr same
    · by_cases bad : ip.ihlBytes < sizeofIPv4 ∨ kept.length < ip.ihlBytes
      · rw [if_neg four, if_pos bad]
        exact .inl rfl
      · have good : ¬ (ip.ihlBytes < sizeofIPv4 ∨ (kept ++ rest).length < ip.ihlBytes) := by
          rw [List.length_append]
          omega
        rw [if_neg four, if_neg bad, if_neg four, if_neg good, List.drop_append_of_le_length (by omega)]
        have alike : (info.withIpv4 ip).headers = (info'.withIpv4 ip).headers :=
          congrArg (fun info => (info.withIpv4 ip).headers) same
        exact ipv4Transport_cut alike ip.protocol

theorem ipv6Tcp_cut (unmarked : info.truncated = false) (blank : info.l4Proto = .NONE) {nextHeader : UInt8}
    (tcp : nextHeader = IPPROTO_TCP_NUM) :
    CutVisible (ipv6Transport off nextHeader kept info) (ipv6Transport off' nextHeader (kept ++ rest) info') ↔
      ¬ (HoldsTransport nextHeader (kept ++ rest) ∧ ¬ HoldsTransport nextHeader kept) := by
  have held (s : Octets) : HoldsTransport nextHeader s ↔ (tcpHeader s).isSome := by
    simp [HoldsTransport, tcp, udp_ne_tcp.symm]
  rw [ipv6Transport, ipv6Transport, if_pos tcp, if_pos tcp, held, held]
  cases header : tcpHeader kept with
  | some w =>
      have alike : (info.withTcp w).headers = (info'.withTcp w).headers := congrArg (·.withTcp w) same
      rw [tcpHeader_append rest header]
      exact iff_of_true (.inr (deliver_cut alike _ _ _ _)) (by simp)
  | none =>
      cases header' : tcpHeader (kept ++ rest) with
      | none => exact iff_of_true (.inr same) (by simp)
      | some w =>
          refine iff_of_false (not_cutVisible unmarked blank ?_) (by simp)
          dsimp only
          rw [PacketInfo.headers_deliver]
          exact L4Protocol.noConfusion

theorem ipv6Udp_cut (unmarked : info.truncated = false) (blank : info.l4Proto = .NONE) {nextHeader : UInt8}
    (udp : nextHeader = IPPROTO_UDP_NUM) :
    CutVisible (ipv6Transport off nextHeader kept info) (ipv6Transport off' nextHeader (kept ++ rest) info') ↔
      ¬ (HoldsTransport nextHeader (kept ++ rest) ∧ ¬ HoldsTransport nextHeader kept) := by
  have other : nextHeader ≠ IPPROTO_TCP_NUM := udp ▸ udp_ne_tcp
  have held (s : Octets) : HoldsTransport nextHeader s ↔ (udpHeader s).isSome := by
    simp [HoldsTransport, udp, udp_ne_tcp]
  rw [ipv6Transport, ipv6Transport, if_neg other, if_neg other, if_pos udp, if_pos udp, held, held]
  cases header : udpHeader kept with
  | some w =>
      have alike : (info.withUdp w).headers = (info'.withUdp w).headers := congrArg (·.withUdp w) same
      rw [udpHeader_append rest header]
      refine iff_of_true (.inr ?_) (by simp)
      dsimp only
      split
      · exact deliver_cut alike _ _ _ _
      · exact alike
  | none =>
      cases header' : udpHeader (kept ++ rest) with
      | none => exact iff_of_true (.inr same) (by simp)
      | some w =>
          refine iff_of_false (not_cutVisible unmarked blank ?_) (by simp)
          dsimp only
          split
          · rw [PacketInfo.headers_deliver]
            exact L4Protocol.noConfusion
          · exact L4Protocol.noConfusion

/-- Behind an IPv6 header the cut shows unless it takes the transport header away. -/
theorem ipv6Transport_cut (unmarked : info.truncated = false) (blank : info.l4Proto = .NONE) (nextHeader : UInt8) :
    CutVisible (ipv6Transport off nextHeader kept info) (ipv6Transport off' nextHeader (kept ++ rest) info') ↔
      ¬ (HoldsTransport nextHeader (kept ++ rest) ∧ ¬ HoldsTransport nextHeader kept) := by
  by_cases tcp : nextHeader = IPPROTO_TCP_NUM
  · exact ipv6Tcp_cut same unmarked blank tcp
  · by_cases udp : nextHeader = IPPROTO_UDP_NUM
    · exact ipv6Udp_cut same unmarked blank udp
    · have neither (s : Octets) : ¬ HoldsTransport nextHeader s := by
        simp [HoldsTransport, tcp, udp]
      refine iff_of_true (.inr ?_) (fun lost => neither _ lost.1)
      rw [ipv6Transport, ipv6Transport, if_neg tcp, if_neg tcp, if_neg udp, if_neg udp]
      split
      · exact congrArg (fun info => { info with l4Proto := .ICMP }) same
      · exact same

theorem ipv6Report_cut (unmarked : info.truncated = false) (blank : info.l4Proto = .NONE) :
    CutVisible (ipv6Report off kept info) (ipv6Report off' (kept ++ rest) info') ↔ ¬ CutsTransport kept rest := by
  by_cases short : kept.length < sizeofIPv6
  · rw [ipv6Report_short short]
    refine iff_of_true (.inl rfl) ?_
    rintro ⟨ip6, header, -⟩
    exact absurd (readIPv6_long header) (Nat.not_le.mpr short)
  · obtain ⟨ip6, header⟩ := readIPv6_defined kept 0 (by omega)
    have cuts : CutsTransport kept rest ↔ ip6.version = 6 ∧
        (HoldsTransport ip6.nextHeader (kept.drop sizeofIPv6 ++ rest) ∧
          ¬ HoldsTransport ip6.nextHeader (kept.drop sizeofIPv6)) := by
      constructor
      · rintro ⟨found, read, six, lost⟩
        obtain rfl := Outcome.ok.inj (header.symm.trans read)
        exact ⟨six, lost⟩
      · rintro ⟨six, lost⟩
        exact ⟨ip6, header, six, lost⟩
    rw [ipv6Report, ipv6Report, readIPv6_append_left rest (Nat.le_of_not_lt short), header, cuts]
    dsimp only
    by_cases six : ip6.version = 6
    · rw [if_neg (not_not.mpr six), if_neg (not_not.mpr six), List.drop_append_of_le_length (Nat.le_of_not_lt short),
        and_iff_right six]
      have alike : (info.withIpv6 ip6).headers = (info'.withIpv6 ip6).headers :=
        congrArg (fun info => (info.withIpv6 ip6).headers) same
      exact ipv6Transport_cut alike unmarked blank ip6.nextHeader
    · rw [if_pos six, if_pos six]
      exact iff_of_true (.inr same) fun lost => six lost.1

theorem networkReport_cut (unmarked : info.truncated = false) (blank : info.l4Proto = .NONE) :
    CutVisible (networkReport off kept info) (networkReport off' (kept ++ rest) info') ↔
      ¬ (info.etherType = ETHERTYPE_IPV6 ∧ CutsTransport kept rest) := by
  have kind : info'.etherType = info.etherType := (congrArg PacketInfo.etherType same).symm
  unfold networkReport
  by_cases ipv4 : info.etherType = ETHERTYPE_IPV4
  · rw [if_pos ipv4, if_pos (kind.trans ipv4)]
    refine iff_of_true (ipv4Report_cut same) fun lost => ?_
    exact absurd (ipv4.symm.trans lost.1) (by decide)
  · have ipv4' : info'.etherType ≠ ETHERTYPE_IPV4 := kind.symm ▸ ipv4
    rw [if_neg ipv4, if_neg ipv4']
    by_cases ipv6 : info.etherType = ETHERTYPE_IPV6
    · rw [if_pos ipv6, if_pos (kind.trans ipv6), and_iff_right ipv6]
      exact ipv6Report_cut same unmarked blank
    · have ipv6' : info'.etherType ≠ ETHERTYPE_IPV6 := kind.symm ▸ ipv6
      rw [if_neg ipv6, if_neg ipv6']
      refine iff_of_true (.inr ?_) fun lost => ipv6 lost.1
      by_cases arp : info.etherType = ETHERTYPE_ARP
      · rw [if_pos arp, if_pos (kind.trans arp)]
        exact congrArg (fun info => { info with l3Proto := .ARP }) same
      · have arp' : info'.etherType ≠ ETHERTYPE_ARP := kind.symm ▸ arp
        rw [if_neg arp, if_neg arp']
        exact same

end Cut

/-! ## Whole frames -/

theorem frameReport_cut {info info' : PacketInfo} (same : info.headers = info'.headers)
    (unmarked : info.truncated = false) (blank : info.l4Proto = .NONE) (kept rest : Octets) :
    CutVisible (frameReport kept info) (frameReport (kept ++ rest) info') ↔ ¬ CutsIpv6Frame kept rest := by
  by_cases linked : ∃ etherType, be16 kept (networkOffset kept - 2) = .ok etherType
  · obtain ⟨etherType, type⟩ := linked
    have long := networkOffset_le type
    have least := (le_networkOffset kept).trans long
    obtain ⟨eth, header⟩ := readEthernet_defined kept 0 (by omega)
    have header' : readEthernet (kept ++ rest) 0 = .ok eth := (readEthernet_append_left rest least).trans header
    have type' : be16 (kept ++ rest) (networkOffset (kept ++ rest) - 2) = .ok etherType := by
      rw [networkOffset_append type, be16_append_left rest (be16_ok_lt type), type]
    have alike : ({ info.withEthernet eth with etherType := etherType } : PacketInfo).headers =
        ({ info'.withEthernet eth with etherType := etherType } : PacketInfo).headers :=
      congrArg (fun info => { info.withEthernet eth with etherType := etherType }) same
    rw [frameReport_network header type, frameReport_network header' type', networkOffset_append type,
      List.drop_append_of_le_length long, CutsIpv6Frame, type, Outcome.ok.injEq]
    exact networkReport_cut alike unmarked blank
  · have none : ∀ etherType, be16 kept (networkOffset kept - 2) ≠ .ok etherType := not_exists.mp linked
    exact iff_of_true (.inl (frameReport_unlinked none info)) fun cut => none _ cut.1

/-- A cut of a frame goes unmarked, with another report, exactly if it takes away the transport header behind a
complete IPv6 header. -/
theorem cut_visible_iff (frame : Octets) (n : Nat) (some : 1 ≤ n) (inside : n ≤ frame.length) (origLen : Nat)
    (tsUs : Int) :
    CutVisible (dissect (.ofFrame (frame.take n) origLen tsUs)) (dissect (.ofFrame frame origLen tsUs)) ↔
      ¬ CutsIpv6Frame (frame.take n) (frame.drop n) := by
  have size : (frame.take n).length = n := List.length_take_of_le inside
  have kept : frame.take n ≠ [] := by
    rintro empty
    rw [empty] at size
    exact absurd size (Nat.ne_of_lt some)
  have full : frame ≠ [] := by
    rintro rfl
    exact absurd (some.trans inside) (by decide)
  have start : (CapturedPacket.ofFrame (frame.take n) origLen tsUs).blankInfo.headers =
      (CapturedPacket.ofFrame frame origLen tsUs).blankInfo.headers := rfl
  have cut := frameReport_cut start rfl rfl (frame.take n) (frame.drop n)
  rw [List.take_append_drop] at cut
  rw [dissect_report _ kept, dissect_report _ full]
  exact cut

/-- A segment over IPv6; its transport header starts at byte 54. -/
def quietSegment : Octets := ipv6Frame quietLink Transport.tcp.number quietTcp.encode quietIpv6

theorem cut_visible_iff_quiet :
    CutVisible (dissect (.ofFrame (quietSegment.take 30) 74 0)) (dissect (.ofFrame quietSegment 74 0)) ↔
      ¬ CutsIpv6Frame (quietSegment.take 30) (quietSegment.drop 30) :=
  cut_visible_iff quietSegment 30 (by decide) (by decide) 74 0

/-- After sixty bytes the report has no ports, no transport protocol and no mark. -/
theorem cut_goes_unmarked :
    (dissect (.ofFrame (quietSegment.take 60) 74 0)).truncated = false ∧
      (dissect (.ofFrame (quietSegment.take 60) 74 0)).l4Proto = .NONE ∧
      (dissect (.ofFrame quietSegment 74 0)).l4Proto = .TCP ∧
      ¬ CutVisible (dissect (.ofFrame (quietSegment.take 60) 74 0)) (dissect (.ofFrame quietSegment 74 0)) := by
  refine ⟨by decide +kernel, by decide +kernel, by decide +kernel, ?_⟩
  exact not_cutVisible (by decide +kernel) (by decide +kernel) (by decide +kernel)

end Nte
