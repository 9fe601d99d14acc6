import NetworkThreatEngine.Detect.Stores

/-!
# Scans among datagrams

The port-scan rule sees every packet with a destination port. Datagrams bring ports to a source's window
and no SYNs, and the SYN share is taken over all packets of the window.
-/
namespace Nte
open StateRules KeyedStore ThreatDetector

/-- The packets of the source that the port-scan rule sees. -/
def scanPackets (src : Octets) (packets : List Timed) : List ScanPacket :=
  (packets.filter (·.scansFrom src)).map (·.scanPacket)

/-- The rule finds a scan at a packet that follows others. -/
def scanFound (cfg : Config) (packets : List Timed) (p : Timed) : Prop :=
  (detection p.info p.now (inspectAll cfg packets) .portScan).isSome = true

/-- The packet `first` opens a window of the source, and the packets after it that the rule sees fall into
this window. -/
structure SharesWindow (cfg : PortScanConfig) (src : Octets) (early : List Timed) (first : Timed) (late : List Timed) :
    Prop where
  scans : first.scansFrom src = true
  opens : greedyWindow cfg.windowSec (scanPackets src (early ++ [first])) = [first.scanPacket]
  young : ∀ q ∈ late, q.scansFrom src = true → secondsBetween q.now first.now < cfg.windowSec

/-- The packets of `late` in their order, with those of `extra` in between. -/
structure Inserts (extra late late' : List Timed) : Prop where
  order : late.Sublist late'
  same : late'.Perm (late ++ extra)

/-- A datagram of the source to some port, within the window that `first` opened. -/
structure UdpWithin (cfg : PortScanConfig) (src : Octets) (first q : Timed) : Prop where
  udp : q.info.l4Proto = .UDP
  scans : q.scansFrom src = true
  young : secondsBetween q.now first.now < cfg.windowSec

/-! ## What the rule finds -/

theorem scanPackets_append (src : Octets) (packets more : List Timed) :
    scanPackets src (packets ++ more) = scanPackets src packets ++ scanPackets src more := by
  rw [scanPackets, List.filter_append, List.map_append]
  rfl

theorem scanPackets_singleton {src : Octets} {p : Timed} (scans : p.scansFrom src = true) :
    scanPackets src [p] = [p.scanPacket] := by
  rw [scanPackets, List.filter_cons_of_pos scans]
  rfl

/-- With a packet counted, the detector's profile describes the current window of its source. -/
theorem portScan_counts (cfg : Config) (packets : List Timed) {src : Octets} {p : Timed}
    (scans : p.scansFrom src = true) :
    PerIpScanProfile.Describes (greedyWindow cfg.portScan.windowSec (scanPackets src (packets ++ [p])))
      ((((inspectAll cfg packets).portScan.lookup src).getD (.create p.now)).receive cfg.portScan p.scanPacket) := by
  have counts := scanEngine_counts cfg.portScan
    ((packets.filter (·.scansFrom src)).map fun q => ⟨src, q.scanPacket⟩) ⟨src, p.scanPacket⟩
  rw [← portScan_own, List.map_append, List.map_map] at counts
  rw [scanPackets_append, scanPackets_singleton scans]
  exact counts

theorem isScanned_iff {p : Timed} :
    p.isScanned = true ↔ (!p.info.valid || p.info.srcIp.isEmpty) = false ∧ p.info.dstPort ≠ 0 := by
  simp [Timed.isScanned, Measurement.inspected]

/-- What the rule finds is decided by the current window. -/
theorem scanFound_iff (cfg : Config) (packets : List Timed) (p : Timed) {window : List ScanPacket}
    (current : greedyWindow cfg.portScan.windowSec (scanPackets p.info.srcIp (packets ++ [p])) = window) :
    scanFound cfg packets p ↔ p.isScanned = true ∧ cfg.portScan.distinctPortThreshold.toNat ≤ portCount window ∧
      (cfg.portScan.synOnlyRatio = 0 ∨ cfg.portScan.synOnlyRatio ≤ synShare window) := by
  by_cases scanned : p.isScanned = true
  · have scans : p.scansFrom p.info.srcIp = true := by simp [Timed.scansFrom, Timed.comesFrom, scanned]
    have counts := portScan_counts cfg packets scans
    rw [current] at counts
    have some : window ≠ [] := by
      rw [← current, Ne, greedyWindow_eq_nil, scanPackets_append, scanPackets_singleton scans]
      simp
    obtain ⟨unguarded, port⟩ := isScanned_iff.mp scanned
    have verdict : result (inspectPortScan p.info.srcIp p.info.dstPort
        (if p.info.l4Proto = .TCP then p.info.tcpFlags else 0) p.now) (inspectAll cfg packets) =
        (((inspectAll cfg packets).portScan.lookup p.info.srcIp).getD (.create p.now)).verdict
          (inspectAll cfg packets).config.portScan p.scanPacket := rfl
    rw [scanFound, detection, unguarded, if_neg Bool.false_ne_true, portScanDetection, if_pos port,
      Option.isSome_map, verdict, inspectAll_config, counts.found some]
    exact (and_iff_right scanned).symm
  · refine iff_of_false ?_ fun h => scanned h.1
    rw [scanFound, detection]
    split
    · exact Bool.false_ne_true
    · rename_i looked
      have closed : ¬ p.info.dstPort ≠ 0 := fun port => scanned (isScanned_iff.mpr ⟨Bool.eq_false_iff.mpr looked, port⟩)
      rw [portScanDetection, if_neg closed]
      exact Bool.false_ne_true

/-- Packets that fall into the window under way are added to it. -/
theorem SharesWindow.window {cfg : PortScanConfig} {src : Octets} {early late : List Timed} {first : Timed}
    (shares : SharesWindow cfg src early first late) :
    greedyWindow cfg.windowSec (scanPackets src (early ++ first :: late)) = scanPackets src (first :: late) := by
  have head (late : List Timed) : scanPackets src (first :: late) = first.scanPacket :: scanPackets src late := by
    rw [scanPackets, List.filter_cons_of_pos shares.scans]
    rfl
  have young := shares.young
  induction late using List.reverseRecOn with
  | nil =>
      rw [head]
      exact shares.opens
  | append_singleton late q ih =>
      have known := ih ⟨shares.scans, shares.opens, fun r mem => young r (by simp [mem])⟩
        fun r mem => young r (by simp [mem])
      rw [← List.cons_append, ← List.append_assoc, scanPackets_append, scanPackets_append src (first :: late)]
      by_cases scans : q.scansFrom src = true
      · have fits : ¬ cfg.windowSec ≤ secondsBetween q.now first.now := not_le.mpr (young q (by simp) scans)
        rw [scanPackets_singleton scans, greedyWindow_snoc, known, head]
        exact if_neg fits
      · have nothing : scanPackets src [q] = [] := by
          rw [scanPackets, List.filter_cons_of_neg scans]
          rfl
        rw [nothing, List.append_nil, List.append_nil, known]

/-! ## Datagrams in between -/

theorem portCount_mono {window more : List ScanPacket} (h : window ⊆ more) : portCount window ≤ portCount more :=
  PerIpScanProfile.ports_mono (List.map_subset _ h)

/-- Datagrams are no SYNs. -/
theorem UdpWithin.not_synOnly {cfg : PortScanConfig} {src : Octets} {first q : Timed} (udp : UdpWithin cfg src first q) :
    q.scanPacket.synOnly = false := by
  have other : q.info.l4Proto ≠ .TCP := by
    rw [udp.udp]
    decide
  rw [Timed.scanPacket, if_neg other]
  change (synSet 0 && !ackSet 0) = false
  decide

section Insertion
variable {cfg : PortScanConfig} {src : Octets} {first : Timed} {extra late late' : List Timed}

theorem Inserts.scanPackets_perm (inserts : Inserts extra late late')
    (udp : ∀ q ∈ extra, UdpWithin cfg src first q) :
    (scanPackets src late').Perm (scanPackets src late ++ extra.map (·.scanPacket)) := by
  have all : extra.filter (·.scansFrom src) = extra := List.filter_eq_self.mpr fun q mem => (udp q mem).scans
  have perm := (inserts.same.filter (·.scansFrom src)).map (·.scanPacket)
  rwa [List.filter_append, List.map_append, all] at perm

variable {p : Timed} {early : List Timed}

theorem Inserts.shares (inserts : Inserts extra late late') (udp : ∀ q ∈ extra, UdpWithin cfg src first q)
    (shares : SharesWindow cfg src early first (late ++ [p])) : SharesWindow cfg src early first (late' ++ [p]) where
  scans := shares.scans
  opens := shares.opens
  young := by
    intro q mem scans
    rcases List.mem_append.mp mem with between | last
    · rcases List.mem_append.mp (inserts.same.subset between) with old | new
      · exact shares.young q (by simp [old]) scans
      · exact (udp q new).young
    · exact shares.young q (by simp [last]) scans

theorem Inserts.window_perm (inserts : Inserts extra late late') (udp : ∀ q ∈ extra, UdpWithin cfg src first q) :
    (scanPackets src (first :: (late' ++ [p]))).Perm
      (scanPackets src (first :: (late ++ [p])) ++ extra.map (·.scanPacket)) := by
  have between := inserts.scanPackets_perm udp
  have parts (late : List Timed) : scanPackets src (first :: (late ++ [p])) =
      scanPackets src [first] ++ (scanPackets src late ++ scanPackets src [p]) := by
    rw [← scanPackets_append, ← scanPackets_append]
    rfl
  rw [parts, parts, List.append_assoc, List.append_assoc]
  apply List.Perm.append_left
  calc (scanPackets src late' ++ scanPackets src [p]).Perm
        ((scanPackets src late ++ extra.map (·.scanPacket)) ++ scanPackets src [p]) := between.append_right _
    _ = scanPackets src late ++ (extra.map (·.scanPacket) ++ scanPackets src [p]) := List.append_assoc ..
    List.Perm _ (scanPackets src late ++ (scanPackets src [p] ++ extra.map (·.scanPacket))) :=
      List.perm_append_comm.append_left _

end Insertion

/-- A window of `count` packets with `syns` SYNs still passes the gate with `more` packets. -/
theorem gate_iff_le {ratio : ℚ} {syns count more : Nat} (some : 0 < count) :
    ratio = 0 ∨ ratio ≤ (syns : ℚ) / (count + more : ℕ) ↔ ratio ≤ 0 ∨ ratio * (count + more) ≤ syns := by
  have positive : (0 : ℚ) < (count + more : ℕ) := by exact_mod_cast Nat.add_pos_left some more
  rw [le_div_iff₀ positive, Nat.cast_add]
  constructor
  · rintro (zero | enough)
    · exact .inl zero.le
    · exact .inr enough
  · rintro (off | enough)
    · right
      have share : (0 : ℚ) ≤ count + more := by positivity
      have syns : (0 : ℚ) ≤ syns := by positivity
      exact (mul_nonpos_of_nonpos_of_nonneg off share).trans syns
    · exact .inr enough

/-- With datagrams of its source inserted into its window, a scan is still found exactly if the gate is
disabled or the SYNs are enough for all packets, the datagrams included. -/
theorem udp_insertion_iff (cfg : Config) (src : Octets) (early late late' extra : List Timed) (first p : Timed)
    (source : p.info.srcIp = src) (shares : SharesWindow cfg.portScan src early first (late ++ [p]))
    (inserts : Inserts extra late late') (udp : ∀ q ∈ extra, UdpWithin cfg.portScan src first q)
    (found : scanFound cfg (early ++ first :: late) p) :
    scanFound cfg (early ++ first :: late') p ↔
      cfg.portScan.synOnlyRatio ≤ 0 ∨
        cfg.portScan.synOnlyRatio * ((scanPackets src (first :: (late ++ [p]))).length + extra.length) ≤
          (scanPackets src (first :: (late ++ [p]))).countP (·.synOnly) := by
  subst source
  have window := shares.window
  have window' := (inserts.shares udp shares).window
  rw [← List.cons_append, ← List.append_assoc] at window window'
  rw [scanFound_iff cfg _ p window] at found
  obtain ⟨scanned, many, -⟩ := found
  have perm := inserts.window_perm (p := p) udp
  have ports := portCount_mono fun q mem => perm.symm.subset (List.mem_append_left _ mem)
  have none : (extra.map (·.scanPacket)).countP (·.synOnly) = 0 := by
    rw [List.countP_eq_zero]
    intro q mem
    obtain ⟨r, member, rfl⟩ := List.mem_map.mp mem
    rw [(udp r member).not_synOnly]
    exact Bool.false_ne_true
  have syns := perm.countP_eq (·.synOnly)
  rw [List.countP_append, none, Nat.add_zero] at syns
  have length := perm.length_eq
  rw [List.length_append, List.length_map] at length
  have some : 0 < (scanPackets p.info.srcIp (first :: (late ++ [p]))).length := by
    rw [scanPackets, List.filter_cons_of_pos shares.scans]
    exact Nat.succ_pos _
  rw [scanFound_iff cfg _ p window', and_iff_right scanned]
  change _ ≤ portCount (scanPackets p.info.srcIp (first :: (late' ++ [p]))) ∧ _ ↔ _
  rw [and_iff_right (many.trans ports)]
  change _ ∨ _ ≤ synShare (scanPackets p.info.srcIp (first :: (late' ++ [p]))) ↔ _
  rw [synShare, syns, length]
  exact gate_iff_le some

/-! ## Nine datagrams -/

def mixedPacket (l4Proto : L4Protocol) (tcpFlags : UInt8) (dstPort : UInt16) (now : TimePoint) : Timed where
  info := { srcIp := ascii "10.0.0.1", dstPort, l4Proto, tcpFlags, valid := true }
  now

def scanFirst : Timed := mixedPacket .TCP 2 1 0
def scanLast : Timed := mixedPacket .TCP 2 20 2000000000

/-- SYNs to the ports 2 to 19 at 1 s; the one to port 1 came at 0, the one to port 20 comes at 2 s. -/
def synScan : List Timed := (List.range 18).map fun k => mixedPacket .TCP 2 (UInt16.ofNat (k + 2)) 1000000000

def datagrams (n : Nat) : List Timed := (List.range n).map fun k => mixedPacket .UDP 0 (UInt16.ofNat (k + 2)) 1500000000

theorem datagrams_within (n : Nat) (q : Timed) (mem : q ∈ datagrams n) (ports : n < 65534) :
    UdpWithin {} (ascii "10.0.0.1") scanFirst q := by
  obtain ⟨k, range, rfl⟩ := List.mem_map.mp mem
  have small := List.mem_range.mp range
  refine ⟨rfl, ?_, ?_⟩
  · have port : UInt16.ofNat (k + 2) ≠ 0 := by
      intro zero
      have value := congrArg UInt16.toNat zero
      rw [UInt16.toNat_ofNat', Nat.mod_eq_of_lt (by omega)] at value
      cases value
    simpa [Timed.scansFrom, Timed.comesFrom, Timed.isScanned, mixedPacket, Measurement.inspected, ascii] using port
  · change secondsBetween 1500000000 0 < 10
    norm_num [secondsBetween]

theorem synScan_shares : SharesWindow {} (ascii "10.0.0.1") [] scanFirst (synScan ++ [scanLast]) := by
  constructor <;> decide +kernel

theorem synScan_found : scanFound {} ([] ++ scanFirst :: synScan) scanLast := by
  rw [scanFound_iff {} _ _ rfl]
  decide +kernel

theorem datagrams_insert (n : Nat) : Inserts (datagrams n) synScan (synScan ++ datagrams n) :=
  ⟨List.sublist_append_left _ _, List.Perm.refl _⟩

/-- Eight datagrams leave twenty SYNs among twenty-eight packets, which is enough. -/
theorem udp_insertion_eight :
    scanFound {} ([] ++ scanFirst :: (synScan ++ datagrams 8)) scanLast ↔
      ({} : PortScanConfig).synOnlyRatio ≤ 0 ∨
        ({} : PortScanConfig).synOnlyRatio *
            ((scanPackets (ascii "10.0.0.1") (scanFirst :: (synScan ++ [scanLast]))).length + (datagrams 8).length) ≤
          (scanPackets (ascii "10.0.0.1") (scanFirst :: (synScan ++ [scanLast]))).countP (·.synOnly) :=
  udp_insertion_iff {} (ascii "10.0.0.1") [] synScan (synScan ++ datagrams 8) (datagrams 8) scanFirst scanLast rfl
    synScan_shares (datagrams_insert 8) (fun q mem => datagrams_within 8 q mem (by decide)) synScan_found

/-- Nine hide the scan. -/
theorem scan_hidden_by_datagrams :
    scanFound {} ([] ++ scanFirst :: synScan) scanLast ∧
      SharesWindow {} (ascii "10.0.0.1") [] scanFirst (synScan ++ [scanLast]) ∧
      Inserts (datagrams 9) synScan (synScan ++ datagrams 9) ∧
      (∀ q ∈ datagrams 9, UdpWithin {} (ascii "10.0.0.1") scanFirst q) ∧
      ¬ scanFound {} ([] ++ scanFirst :: (synScan ++ datagrams 9)) scanLast := by
  refine ⟨synScan_found, synScan_shares, datagrams_insert 9,
    fun q mem => datagrams_within 9 q mem (by decide), ?_⟩
  rw [scanFound_iff {} _ _ rfl]
  decide +kernel

end Nte
