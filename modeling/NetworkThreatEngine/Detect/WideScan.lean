import NetworkThreatEngine.Detect.Averages
import NetworkThreatEngine.Detect.ScanMix

/-!
# Wide scans

A scan may fall on both sides of a cut between two windows. Packets that come within the length of a window are cut at
most once, so that one side has half the ports.
-/
namespace Nte
open KeyedStore StateRules Windows

/-! ## One cut at most -/

section Cut
variable {before scan window window' : List ScanPacket}

theorem portCount_append_le : portCount (window ++ window') ≤ portCount window + portCount window' := by
  rw [portCount, List.map_append, List.toFinset_append]
  exact Finset.card_union_le _ _

/-- Either the window has taken in all packets of the scan, or it was cut within, and had taken in those before. -/
theorem greedyWindow_cut (sec : ℚ) (before : List ScanPacket) {scan : List ScanPacket}
    (brief : scan.Pairwise fun p q => secondsBetween q.now p.now < sec) :
    scan ⊆ greedyWindow sec (before ++ scan) ∨
      ∃ early late, scan = early ++ late ∧ late ≠ [] ∧ early ⊆ greedyWindow sec (before ++ early) ∧
        greedyWindow sec (before ++ scan) = late := by
  induction scan using List.reverseRecOn with
  | nil => exact .inl (List.nil_subset _)
  | append_singleton scan p ih =>
      obtain ⟨shorter, -, young⟩ := List.pairwise_append.mp brief
      rw [← List.append_assoc, greedyWindow_snoc]
      rcases ih shorter with all | ⟨early, late, rfl, some, kept, cut⟩
      · rcases greedyExtend_cases sec (greedyWindow sec (before ++ scan)) p with new | ⟨grown, -⟩
        · exact .inr ⟨scan, [p], rfl, List.cons_ne_nil p [], all, new⟩
        · rw [grown]
          exact .inl (List.append_subset.mpr ⟨List.subset_append_of_subset_left _ all, List.subset_append_right _ _⟩)
      · obtain ⟨first, rest, rfl⟩ := List.exists_cons_of_ne_nil some
        have close : secondsBetween p.now first.now < sec := young first (by simp) p List.mem_cons_self
        refine .inr ⟨early, first :: rest ++ [p], List.append_assoc .., by simp, kept, ?_⟩
        rw [cut, greedyExtend, if_neg (not_le.mpr close)]

theorem ne_nil_of_ports {n : Nat} (positive : 0 < n) (enough : n ≤ portCount window) : window ≠ [] := by
  rintro rfl
  exact absurd enough (not_le.mpr positive)

/-- A scan of almost twice as many ports shows in the window of one of its packets. -/
theorem exists_wide_window (sec : ℚ) (before : List ScanPacket) {n : Nat} (positive : 0 < n)
    (brief : scan.Pairwise fun p q => secondsBetween q.now p.now < sec) (wide : 2 * n ≤ portCount scan + 1) :
    ∃ front p back, scan = front ++ p :: back ∧ n ≤ portCount (greedyWindow sec (before ++ (front ++ [p]))) := by
  have last {part more : List ScanPacket} (split : scan = part ++ more) (some : part ≠ [])
      (enough : n ≤ portCount (greedyWindow sec (before ++ part))) :
      ∃ front p back, scan = front ++ p :: back ∧ n ≤ portCount (greedyWindow sec (before ++ (front ++ [p]))) := by
    obtain ⟨front, p, rfl⟩ := List.eq_nil_or_concat part |>.resolve_left some
    refine ⟨front, p, more, ?_, ?_⟩
    · rw [split, List.concat_eq_append, List.append_assoc]
      rfl
    · rwa [List.concat_eq_append] at enough
  have some : scan ≠ [] := ne_nil_of_ports positive (by omega)
  rcases greedyWindow_cut sec before brief with all | ⟨early, late, split, -, kept, cut⟩
  · exact last (List.append_nil scan).symm some ((by omega : n ≤ portCount scan).trans (portCount_mono all))
  · have halves : portCount scan ≤ portCount early + portCount late := split ▸ portCount_append_le
    by_cases first : n ≤ portCount early
    · exact last split (ne_nil_of_ports positive first) (first.trans (portCount_mono kept))
    · refine last (List.append_nil scan).symm some ?_
      rw [cut]
      omega

end Cut

/-! ## The rule on a run -/

namespace ThreatDetector
variable {cfg : Config} {before : List Timed} {p : Timed}

/-- A detection of this type is one of the port-scan rule. -/
theorem detectedAt_portScan_iff {src : Octets} : (inspectAll cfg before).DetectedAt p src .PORT_SCAN ↔
    p.info.srcIp = src ∧ scanFound cfg before p := by
  have guard : (!p.info.valid || p.info.srcIp.isEmpty) = !Measurement.inspected p.info := by
    simp [Measurement.inspected]
  rw [scanFound, detection, guard]
  constructor
  · rintro ⟨looked, alert, detected, rfl, type⟩
    have other {detect : ThreatDetector → Option ThreatAlert} {own : AttackType} (only : DetectsOnly p.info own detect)
        (found : detect (inspectAll cfg before) = some alert) : own = .PORT_SCAN := (only _ _ found).2.symm.trans type
    refine ⟨(detections_source detected).symm, ?_⟩
    rw [looked, if_neg (by decide)]
    simp only [detections, List.mem_append, Option.mem_toList] at detected
    rcases detected with ((((volume | syn) | scan) | brute) | dns) | exfil
    · cases other (volumeDetection_only p.info p.now) volume
    · cases other (synFloodDetection_only p.info p.now) syn
    · exact Option.isSome_iff_exists.mpr ⟨alert, scan⟩
    · cases other (bruteForceDetection_only p.info p.now) brute
    · cases other (dnsDetection_only p.info p.now) dns
    · cases other (exfilDetection_only p.info p.now) exfil
  · rintro ⟨rfl, found⟩
    split at found
    · cases found
    · rename_i looked
      obtain ⟨alert, scan⟩ := Option.isSome_iff_exists.mp found
      exact ⟨by simpa using looked, alert, by simp [detections, scan], portScanDetection_only p.info p.now _ alert scan⟩

theorem synShare_one {window : List ScanPacket} (some : window ≠ []) (only : ∀ p ∈ window, p.synOnly = true) :
    synShare window = 1 := by
  rw [synShare, List.countP_eq_length.mpr only, div_self]
  exact Nat.cast_ne_zero.mpr (List.length_pos_iff.mpr some).ne'

/-- A scan of almost twice as many ports as the threshold, within the length of a window, by a source that has sent nothing
but SYNs, unless these do not count. -/
structure WideScan (cfg : PortScanConfig) (src : Octets) (before scan : List Timed) : Prop where
  threshold : 0 < cfg.distinctPortThreshold.toNat
  share : cfg.synOnlyRatio = 0 ∨
    cfg.synOnlyRatio ≤ 1 ∧ ∀ p ∈ before ++ scan, p.scansFrom src = true → p.scanPacket.synOnly = true
  brief : (scanPackets src scan).Pairwise fun p q => secondsBetween q.now p.now < cfg.windowSec
  wide : 2 * cfg.distinctPortThreshold.toNat ≤ portCount (scanPackets src scan) + 1

/-- The rule detects it at one of its packets. -/
theorem WideScan.detected {src : Octets} {scan : List Timed} (h : WideScan cfg.portScan src before scan) :
    ∃ front p back, scan = front ++ p :: back ∧ (inspectAll cfg (before ++ front)).DetectedAt p src .PORT_SCAN := by
  obtain ⟨front, q, back, split, enough⟩ := exists_wide_window cfg.portScan.windowSec (scanPackets src before) h.threshold
    h.brief h.wide
  obtain ⟨own, rest, parts, rfl, ends⟩ := List.map_eq_append_iff.mp split
  obtain ⟨p, rest, rfl, rfl, -⟩ := List.map_eq_cons_iff.mp ends
  obtain ⟨early, late, rfl, rfl, mine⟩ := exists_of_filter parts
  obtain ⟨reached, sent⟩ := Bool.and_eq_true_iff.mp mine
  obtain rfl : p.info.srcIp = src := of_decide_eq_true sent
  have window : scanPackets p.info.srcIp (before ++ early ++ [p]) =
      scanPackets p.info.srcIp before ++ (scanPackets p.info.srcIp early ++ [p.scanPacket]) := by
    rw [scanPackets_append, scanPackets_append, scanPackets_singleton mine, List.append_assoc]
  rw [← scanPackets, ← window] at enough
  refine ⟨early, p, late, rfl, detectedAt_portScan_iff.mpr ⟨rfl, ?_⟩⟩
  refine (scanFound_iff cfg (before ++ early) p rfl).mpr ⟨reached, enough, ?_⟩
  refine h.share.imp_right ?_
  rintro ⟨ratio, synOnly⟩
  rw [synShare_one (ne_nil_of_ports h.threshold enough) ?_]
  · exact ratio
  · intro q mem
    obtain ⟨s, sent, rfl⟩ := List.mem_map.mp ((greedyWindow_suffix cfg.portScan.windowSec _).subset mem)
    obtain ⟨run, own⟩ := List.mem_filter.mp sent
    have part : before ++ early ++ [p] <+: before ++ (early ++ p :: late) := ⟨late, by simp⟩
    exact synOnly s (part.subset run) own

end ThreatDetector

/-! ## A scan on both sides of a cut -/

open ThreatDetector
variable {cfg : Config} {before : List Timed} {p : Timed}

/-- No packet of a window finds what the whole window is not. -/
theorem SharesWindow.unseen {src : Octets} {first : Timed} {late : List Timed}
    (shares : SharesWindow cfg.portScan src before first late)
    (few : portCount (scanPackets src (first :: late)) < cfg.portScan.distinctPortThreshold.toNat)
    {front back : List Timed} (split : first :: late = front ++ p :: back) :
    ¬ (inspectAll cfg (before ++ front)).DetectedAt p src .PORT_SCAN := by
  intro detected
  obtain ⟨rfl, found⟩ := detectedAt_portScan_iff.mp detected
  obtain ⟨seen, upTo, part⟩ : ∃ seen, front ++ [p] = first :: seen ∧ seen <+: late := by
    cases front with
    | nil =>
        obtain ⟨rfl, rfl⟩ := List.cons.inj split
        exact ⟨[], rfl, List.nil_prefix⟩
    | cons q front =>
        obtain ⟨rfl, rfl⟩ := List.cons.inj split
        exact ⟨front ++ [p], rfl, back, by simp⟩
  have shared : SharesWindow cfg.portScan p.info.srcIp before first seen :=
    ⟨shares.scans, shares.opens, fun q mem => shares.young q (part.subset mem)⟩
  have window : greedyWindow cfg.portScan.windowSec (scanPackets p.info.srcIp (before ++ front ++ [p])) =
      scanPackets p.info.srcIp (first :: seen) := by
    rw [List.append_assoc, upTo, shared.window]
  obtain ⟨-, many, -⟩ := (scanFound_iff cfg (before ++ front) p window).mp found
  have fewer : portCount (scanPackets p.info.srcIp (first :: seen)) ≤ portCount (scanPackets p.info.srcIp (first :: late)) := by
    obtain ⟨rest, rfl⟩ := part
    rw [← List.cons_append, scanPackets_append]
    exact portCount_mono (List.subset_append_left _ _)
  exact absurd (many.trans fewer) (not_le.mpr few)

/-- The window that `first` opens takes in `early`. For `cutter` it is too old, and the next one takes in `late`. Neither has
ports enough. -/
structure CutScan (cfg : PortScanConfig) (src : Octets) (before : List Timed) (first : Timed) (early : List Timed)
    (cutter : Timed) (late : List Timed) : Prop where
  shares : SharesWindow cfg src before first early
  cuts : cutter.scansFrom src = true ∧ cfg.windowSec ≤ secondsBetween cutter.now first.now
  young : ∀ q ∈ late, q.scansFrom src = true → secondsBetween q.now cutter.now < cfg.windowSec
  few : portCount (scanPackets src (first :: early)) < cfg.distinctPortThreshold.toNat ∧
    portCount (scanPackets src (cutter :: late)) < cfg.distinctPortThreshold.toNat

theorem CutScan.next {cfg : PortScanConfig} {src : Octets} {first cutter : Timed} {early late : List Timed}
    (h : CutScan cfg src before first early cutter late) : SharesWindow cfg src (before ++ first :: early) cutter late := by
  refine ⟨h.cuts.1, ?_, h.young⟩
  rw [scanPackets_append, scanPackets_singleton h.cuts.1, greedyWindow_snoc, h.shares.window, scanPackets,
    List.filter_cons_of_pos h.shares.scans, List.map_cons]
  exact if_pos h.cuts.2

/-- Such a scan is not detected, however short the time it takes. -/
theorem cut_scan_unseen (cfg : Config) (src : Octets) (before early late : List Timed) (first cutter : Timed)
    (h : CutScan cfg.portScan src before first early cutter late) (front back : List Timed) (p : Timed)
    (split : first :: early ++ cutter :: late = front ++ p :: back) :
    ¬ (inspectAll cfg (before ++ front)).DetectedAt p src .PORT_SCAN := by
  rcases List.append_eq_append_iff.mp split with ⟨inner, rfl, rest⟩ | ⟨inner, whole, rest⟩
  · rw [← List.append_assoc]
    exact h.next.unseen h.few.2 rest
  · cases inner with
    | nil =>
        obtain ⟨rfl, rfl⟩ := List.cons.inj rest
        rw [List.append_nil] at whole
        rw [← whole, ← List.append_nil (before ++ first :: early)]
        exact h.next.unseen h.few.2 (List.nil_append _).symm
    | cons q inner =>
        obtain ⟨rfl, -⟩ := List.cons.inj rest
        exact h.shares.unseen h.few.1 whole

/-- SYNs to `n` ports from some port on. -/
def synsFrom (port n : Nat) (now : TimePoint) : List Timed :=
  (List.range n).map fun k => mixedPacket .TCP 2 (UInt16.ofNat (port + k)) now

/-- Two ports less than twice the threshold, all within a nanosecond. -/
theorem cut_scan_unseen_nanosecond :
    portCount (scanPackets (ascii "10.0.0.1") (synsFrom 1 19 9999999999 ++ synsFrom 20 19 10000000000)) = 38 ∧
      ∀ front p back, scanFirst :: synsFrom 1 19 9999999999 ++ synsFrom 20 19 10000000000 = front ++ p :: back →
        ¬ (inspectAll {} ([] ++ front)).DetectedAt p (ascii "10.0.0.1") .PORT_SCAN := by
  have cut : CutScan {} (ascii "10.0.0.1") [] scanFirst (synsFrom 1 19 9999999999)
      (mixedPacket .TCP 2 20 10000000000) (synsFrom 21 18 10000000000) := by
    refine ⟨?_, ?_, ?_, ?_⟩
    · constructor <;> decide +kernel
    · decide +kernel
    · decide +kernel
    · decide +kernel
  refine ⟨by decide +kernel, ?_⟩
  intro front p back split
  exact cut_scan_unseen {} (ascii "10.0.0.1") [] _ _ _ _ cut front back p split

end Nte
