import NetworkThreatEngine.Detect.ThreatDetector
import NetworkThreatEngine.Lib.History

/-!
# The port-scan window

A source's profile counts the ports since the last reset, and a packet that finds the window too old
resets it. A scan is seen when its packets fall into one such window, or when the part on either
side of the reset is a scan by itself.
-/
namespace Nte
open History

/-- A SYN-only packet of the source as `PortScanDetector::inspect` receives it. -/
structure Probe where
  dstPort : UInt16
  tcpFlags : UInt8
  now : TimePoint
  synOnly : (synSet tcpFlags && !ackSet tcpFlags) = true

def distinctPorts (packets : List Probe) : Nat := (packets.map (·.dstPort)).toFinset.card

theorem distinctPorts_mono {packets more : List Probe} (h : packets ⊆ more) :
    distinctPorts packets ≤ distinctPorts more :=
  PerIpScanProfile.ports_mono (List.map_subset _ h)

/-! ## The window by itself -/

section Window
variable (cfg : PortScanConfig)

/-- `window_age >= cfg_.window_sec`. -/
def expired (start : TimePoint) (p : Probe) : Bool := secondsBetween p.now start ≥ cfg.windowSec

def nextStart (start : TimePoint) (p : Probe) : TimePoint := if expired cfg start p then p.now else start

/-- When the window under way was started, for a profile created at `created`. -/
def startAfter (created : TimePoint) (packets : List Probe) : TimePoint := run (nextStart cfg) created packets

/-- The packets since then. -/
def scanWindow (created : TimePoint) (packets : List Probe) : List Probe :=
  since (nextStart cfg) (expired cfg) created packets

end Window

/-! ## The profile counts the window -/

namespace PerIpScanProfile

def scan (cfg : PortScanConfig) (profile : PerIpScanProfile) (p : Probe) : PerIpScanProfile :=
  (profile.inspect cfg p.dstPort p.tcpFlags p.now).2

def result (cfg : PortScanConfig) (profile : PerIpScanProfile) (p : Probe) : Option PortScanResult :=
  (profile.inspect cfg p.dstPort p.tcpFlags p.now).1

/-- The profile of a source created at `created` and then given `packets`. -/
def scanAll (cfg : PortScanConfig) (created : TimePoint) (packets : List Probe) : PerIpScanProfile :=
  run (scan cfg) (create created) packets

variable {cfg : PortScanConfig} {profile : PerIpScanProfile} {start : TimePoint} {window : List Probe} {p : Probe}

/-- The profile before a packet is counted. -/
def roll (cfg : PortScanConfig) (profile : PerIpScanProfile) (p : Probe) : PerIpScanProfile :=
  if expired cfg profile.windowStart p then create p.now else profile

theorem scan_eq (cfg : PortScanConfig) (profile : PerIpScanProfile) (p : Probe) :
    profile.scan cfg p =
      { profile.roll cfg p with
        dstPorts := (profile.roll cfg p).dstPorts.insert p.dstPort
        tcpPacketCount := (profile.roll cfg p).tcpPacketCount + 1
        synOnlyCount := (profile.roll cfg p).synOnlyCount + 1 } := by
  have rolled : (if secondsBetween p.now profile.windowStart ≥ cfg.windowSec then
      { profile with dstPorts := [], tcpPacketCount := 0, synOnlyCount := 0, windowStart := p.now }
      else profile) = profile.roll cfg p := by
    simp only [roll, expired, decide_eq_true_eq, create]
  simp only [scan, inspect, rolled, p.synOnly, if_true]
  split_ifs <;> rfl

theorem result_isSome_iff (cfg : PortScanConfig) (profile : PerIpScanProfile) (p : Probe) :
    (profile.result cfg p).isSome ↔
      cfg.distinctPortThreshold ≤ UInt32.ofNat (profile.scan cfg p).dstPorts.length ∧
        ¬ (cfg.synOnlyRatio > 0 ∧ (profile.scan cfg p).tcpPacketCount > 0 ∧
          (profile.scan cfg p).synRatio < cfg.synOnlyRatio) := by
  simp only [result, scan, inspect]
  split_ifs with few gate
  all_goals simp_all

/-- The profile holds what the window says. -/
structure Counts (start : TimePoint) (window : List Probe) (profile : PerIpScanProfile) : Prop where
  windowStart : profile.windowStart = start
  nodup : profile.dstPorts.Nodup
  ports : ∀ port, port ∈ profile.dstPorts ↔ port ∈ window.map (·.dstPort)
  tcpPacketCount : profile.tcpPacketCount = window.length
  synOnlyCount : profile.synOnlyCount = window.length

theorem Counts.scan (h : Counts start window profile) (cfg : PortScanConfig) (p : Probe) :
    Counts (nextStart cfg start p) (extend (expired cfg) start window p) (profile.scan cfg p) := by
  rw [scan_eq, roll, h.windowStart, nextStart, extend]
  by_cases old : expired cfg start p
  · simp only [if_pos old]
    constructor <;> simp [create]
  · simp only [if_neg old]
    constructor
    · exact h.windowStart
    · exact h.nodup.insert
    · intro port
      simp [h.ports port, or_comm]
    · simp [h.tcpPacketCount]
    · simp [h.synOnlyCount]

theorem counts_scanAll (cfg : PortScanConfig) (created : TimePoint) (packets : List Probe) :
    Counts (startAfter cfg created packets) (scanWindow cfg created packets) (scanAll cfg created packets) := by
  induction packets using List.reverseRecOn with
  | nil => constructor <;> simp [startAfter, scanWindow, scanAll, create]
  | append_singleton packets p ih =>
      rw [startAfter, scanWindow, scanAll, run_snoc, run_snoc, since_snoc]
      exact ih.scan cfg p

theorem Counts.portCount (h : Counts start window profile) :
    (UInt32.ofNat profile.dstPorts.length).toNat = distinctPorts window := ports_toNat h.nodup h.ports

/-- Among SYN-only packets the ratio is one. -/
theorem Counts.synRatio (h : Counts start window profile) (some : window ≠ []) : profile.synRatio = 1 := by
  have positive : (window.length : ℚ) ≠ 0 := by simpa using some
  rw [PerIpScanProfile.synRatio, h.synOnlyCount, h.tcpPacketCount, div_self positive]

/-- What one call reports: whether the window up to its packet is a scan. -/
theorem Counts.result_isSome_iff (h : Counts start window profile) (cfg : PortScanConfig) (p : Probe) :
    (profile.result cfg p).isSome ↔ cfg.synOnlyRatio ≤ 1 ∧
      cfg.distinctPortThreshold.toNat ≤ distinctPorts (extend (expired cfg) start window p) := by
  have after := h.scan cfg p
  have some : extend (expired cfg) start window p ≠ [] := by
    rw [extend]
    split <;> simp
  have counted : (profile.scan cfg p).tcpPacketCount > 0 := by
    rw [after.tcpPacketCount]
    exact List.length_pos_iff.mpr some
  rw [PerIpScanProfile.result_isSome_iff, UInt32.le_iff_toNat_le, after.portCount, after.synRatio some]
  constructor
  · rintro ⟨many, gate⟩
    refine ⟨?_, many⟩
    by_contra above
    exact gate ⟨by linarith, counted, by linarith⟩
  · rintro ⟨ratio, many⟩
    refine ⟨many, ?_⟩
    rintro ⟨-, -, above⟩
    linarith

end PerIpScanProfile

/-! ## Detection within an interval -/

section Interval
variable (cfg : PortScanConfig) (created : TimePoint) (before : List Probe)

/-- Some call on the packets of `interval`, which follow those of `before`, returns a result. -/
def Detected (interval : List Probe) : Prop :=
  ∃ k : Fin interval.length,
    ((PerIpScanProfile.scanAll cfg created (before ++ interval.take k)).result cfg interval[k]).isSome

instance (interval : List Probe) : Decidable (Detected cfg created before interval) :=
  inferInstanceAs (Decidable (∃ _, _))

theorem detected_iff (interval : List Probe) :
    Detected cfg created before interval ↔ cfg.synOnlyRatio ≤ 1 ∧
      ∃ upTo, upTo <+: interval ∧ upTo ≠ [] ∧
        cfg.distinctPortThreshold.toNat ≤ distinctPorts (scanWindow cfg created (before ++ upTo)) := by
  have call (early : List Probe) (p : Probe) :
      ((PerIpScanProfile.scanAll cfg created (before ++ early)).result cfg p).isSome ↔ cfg.synOnlyRatio ≤ 1 ∧
        cfg.distinctPortThreshold.toNat ≤ distinctPorts (scanWindow cfg created (before ++ (early ++ [p]))) := by
    rw [← List.append_assoc, scanWindow, since_snoc]
    exact (PerIpScanProfile.counts_scanAll cfg created (before ++ early)).result_isSome_iff cfg p
  constructor
  · rintro ⟨k, found⟩
    obtain ⟨ratio, many⟩ := (call _ _).mp found
    refine ⟨ratio, interval.take k ++ [interval[k]], ?_, List.concat_ne_nil _ _, many⟩
    exact ⟨interval.drop (k + 1), by simp⟩
  · rintro ⟨ratio, upTo, ⟨late, rfl⟩, some, many⟩
    obtain ⟨early, p, rfl⟩ : ∃ early p, upTo = early ++ [p] :=
      ⟨upTo.dropLast, upTo.getLast some, (List.dropLast_append_getLast some).symm⟩
    refine ⟨⟨early.length, by simp⟩, ?_⟩
    simpa using (call early p).mpr ⟨ratio, many⟩

/-- Packets no older than `base`, and too close to it for any to find the window expired. -/
theorem quiet_of_recent {start base : TimePoint} (after : base ≤ start) {packets : List Probe}
    (recent : ∀ p ∈ packets, base ≤ p.now ∧ secondsBetween p.now base < cfg.windowSec) :
    Quiet (nextStart cfg) (expired cfg) start packets := by
  have started (early : List Probe) (sub : early ⊆ packets) : base ≤ run (nextStart cfg) start early := by
    induction early using List.reverseRecOn with
    | nil => exact after
    | append_singleton early q ih =>
        rw [run_snoc, nextStart]
        split
        · exact (recent q (sub (by simp))).1
        · exact ih fun p hp => sub (by simp [hp])
  rintro early p late rfl
  have young := (recent p (by simp)).2
  have close := secondsBetween_mono (t := p.now) (started early (by simp))
  simp only [expired, decide_eq_false_iff_not, ge_iff_le, not_le]
  exact close.trans_lt young

/-- The packet at which the window is reset within an interval. -/
structure ResetAt (first : Probe) (rest early : List Probe) (p : Probe) (late : List Probe) : Prop where
  split : rest = early ++ p :: late
  tooOld : expired cfg (startAfter cfg created (before ++ first :: early)) p = true

variable {cfg created before} {first p : Probe} {rest early late : List Probe}

/-- An interval shorter than the window, in the order of time. -/
structure Brief (cfg : PortScanConfig) (first : Probe) (rest : List Probe) : Prop where
  ordered : (first :: rest).Pairwise (·.now ≤ ·.now)
  short : ∀ p ∈ first :: rest, secondsBetween p.now first.now < cfg.windowSec

theorem Brief.recent (h : Brief cfg first rest) :
    ∀ p ∈ rest, first.now ≤ p.now ∧ secondsBetween p.now first.now < cfg.windowSec := by
  intro p hp
  exact ⟨List.rel_of_pairwise_cons h.ordered hp, h.short p (List.mem_cons_of_mem _ hp)⟩

theorem startAfter_snoc {packets : List Probe} (tooOld : expired cfg (startAfter cfg created packets) p = true) :
    startAfter cfg created (packets ++ [p]) = p.now := by
  rw [startAfter, run_snoc, nextStart]
  exact if_pos tooOld

section Reset
variable (brief : Brief cfg first rest) (reset : ResetAt cfg created before first rest early p late)
include brief reset

theorem ResetAt.quiet_late : Quiet (nextStart cfg) (expired cfg) p.now late := by
  have recent := brief.recent
  rw [reset.split] at recent
  apply quiet_of_recent cfg (recent p (by simp)).1
  intro q hq
  exact recent q (by simp [hq])

/-- The interval is too short for a second reset. -/
theorem ResetAt.quiet_early :
    Quiet (nextStart cfg) (expired cfg) (startAfter cfg created (before ++ [first])) early := by
  rintro early' q late' rfl
  by_contra opened
  rw [Bool.not_eq_false] at opened
  have recent := brief.recent
  rw [reset.split] at recent
  rw [startAfter, ← run_append] at opened
  have restarted := startAfter_snoc opened
  have quiet : Quiet (nextStart cfg) (expired cfg) q.now (late' ++ p :: late) := by
    apply quiet_of_recent cfg (recent q (by simp)).1
    intro r hr
    exact recent r (by simp at hr ⊢; tauto)
  have still := quiet late' p late rfl
  have again := reset.tooOld
  rw [← restarted, startAfter, ← run_append] at still
  simp only [List.append_assoc, List.cons_append, List.nil_append] at still
  rw [startAfter, still] at again
  exact absurd again (by decide)

/-- Up to the reset the window keeps growing. -/
theorem ResetAt.window_early {upTo : List Probe} (h : upTo <+: early) :
    scanWindow cfg created (before ++ first :: upTo) ⊆ scanWindow cfg created (before ++ first :: early) := by
  obtain ⟨more, rfl⟩ := h
  have quiet := reset.quiet_early brief
  have quietUpTo : Quiet (nextStart cfg) (expired cfg) (startAfter cfg created (before ++ [first])) upTo := by
    rintro a q b rfl
    exact quiet a q (b ++ more) (by simp)
  have whole := since_append quiet
  have part := since_append quietUpTo
  simp only [List.append_assoc, List.cons_append, List.nil_append] at whole part
  rw [scanWindow, scanWindow, whole, part, ← List.append_assoc]
  exact List.subset_append_left _ _

/-- From the reset on it holds exactly the packets since. -/
theorem ResetAt.window_late {upTo : List Probe} (h : upTo <+: late) :
    scanWindow cfg created (before ++ first :: early ++ p :: upTo) = p :: upTo := by
  obtain ⟨more, rfl⟩ := h
  have quiet : Quiet (nextStart cfg) (expired cfg)
      (startAfter cfg created (before ++ first :: early ++ [p])) upTo := by
    rw [startAfter_snoc reset.tooOld]
    rintro a q b rfl
    exact reset.quiet_late brief a q (b ++ more) (by simp)
  have window := since_append quiet
  have opened := reset.tooOld
  rw [startAfter] at opened
  rw [since_snoc, extend, opened] at window
  simpa [scanWindow] using window

end Reset

theorem first_mem_window : first ∈ scanWindow cfg created (before ++ [first]) := by
  rw [scanWindow, since_snoc, extend]
  split <;> simp

/-- Without a reset the window takes in the whole interval. -/
theorem window_of_quiet
    (quiet : Quiet (nextStart cfg) (expired cfg) (startAfter cfg created (before ++ [first])) rest) :
    first :: rest ⊆ scanWindow cfg created (before ++ first :: rest) := by
  have window := since_append quiet
  simp only [List.append_assoc, List.cons_append, List.nil_append] at window
  rw [scanWindow, window]
  intro q hq
  rcases List.mem_cons.mp hq with rfl | hq
  · exact List.mem_append_left _ first_mem_window
  · exact List.mem_append_right _ hq

/-- A scan packed into less than a window is seen exactly when the ratio gate can be met at all and
every reset inside the interval leaves a whole scan on one side: in the window that it closes or among
the packets from it on. -/
theorem scan_detected_iff (cfg : PortScanConfig) (created : TimePoint) (before : List Probe) (first : Probe)
    (rest : List Probe) (brief : Brief cfg first rest)
    (many : cfg.distinctPortThreshold.toNat ≤ distinctPorts (first :: rest)) :
    Detected cfg created before (first :: rest) ↔ cfg.synOnlyRatio ≤ 1 ∧
      ∀ early p late, ResetAt cfg created before first rest early p late →
        cfg.distinctPortThreshold.toNat ≤ distinctPorts (scanWindow cfg created (before ++ first :: early)) ∨
          cfg.distinctPortThreshold.toNat ≤ distinctPorts (p :: late) := by
  rw [detected_iff]
  apply and_congr_right
  intro ratio
  constructor
  · rintro ⟨upTo, ⟨more, hsplit⟩, some, enough⟩ early p late reset
    obtain ⟨xs, rfl⟩ : ∃ xs, upTo = first :: xs := by
      cases upTo with
      | nil => exact absurd rfl some
      | cons q xs => exact ⟨xs, by rw [(List.cons.inj hsplit).1]⟩
    have hrest : xs ++ more = early ++ p :: late := (List.cons.inj hsplit).2.trans reset.split
    rcases List.append_eq_append_iff.mp hrest with ⟨between, hearly, -⟩ | ⟨past, hxs, hlate⟩
    · left
      exact enough.trans (distinctPorts_mono (reset.window_early brief ⟨between, hearly.symm⟩))
    · cases past with
      | nil =>
          left
          rw [List.append_nil] at hxs
          rwa [hxs] at enough
      | cons q ys =>
          right
          obtain ⟨rfl, rfl⟩ := List.cons.inj hlate
          rw [hxs, ← List.cons_append, ← List.append_assoc, reset.window_late brief ⟨more, rfl⟩] at enough
          exact enough.trans (distinctPorts_mono (by simp))
  · intro sides
    by_cases quiet : Quiet (nextStart cfg) (expired cfg) (startAfter cfg created (before ++ [first])) rest
    · exact ⟨first :: rest, List.prefix_rfl, by simp, many.trans (distinctPorts_mono (window_of_quiet quiet))⟩
    · obtain ⟨early, p, late, split, opened⟩ : ∃ early p late, rest = early ++ p :: late ∧
          expired cfg (startAfter cfg created (before ++ first :: early)) p = true := by
        simp only [Quiet, Every, startAfter, ← run_append] at quiet
        push Not at quiet
        obtain ⟨early, p, late, split, opened⟩ := quiet
        exact ⟨early, p, late, split, by simpa [startAfter] using opened⟩
      have reset : ResetAt cfg created before first rest early p late := ⟨split, opened⟩
      rcases sides early p late reset with earlier | later
      · exact ⟨first :: early, ⟨p :: late, by rw [split]; rfl⟩, by simp, earlier⟩
      · refine ⟨first :: early ++ p :: late, by rw [split]; rfl, by simp, ?_⟩
        rwa [← List.append_assoc, reset.window_late brief List.prefix_rfl]

def Probe.syn (dstPort : UInt16) (now : TimePoint) : Probe := ⟨dstPort, Constants.TCP_FLAG_SYN, now, by decide⟩

/-- Ten ports at 9.5 s and ten more at 10.5 s. -/
def straddlingScan : List Probe :=
  (List.range 20).map fun k => .syn (UInt16.ofNat (k + 2)) (if k < 10 then 9500000000 else 10500000000)

/-- A scan of the first kind, all within the first window. -/
theorem scan_detected_iff_burst :
    let first := Probe.syn 1 0
    let rest := (List.range 19).map fun k => Probe.syn (UInt16.ofNat (k + 2)) 1000000000
    Detected {} 0 [] (first :: rest) ↔ ({} : PortScanConfig).synOnlyRatio ≤ 1 ∧
      ∀ early p late, ResetAt {} 0 [] first rest early p late →
        20 ≤ distinctPorts (scanWindow {} 0 ([] ++ first :: early)) ∨ 20 ≤ distinctPorts (p :: late) :=
  scan_detected_iff {} 0 [] _ _ ⟨by decide +kernel, by decide +kernel⟩ (by decide +kernel)

/-- Twenty ports within a second, after one packet at the start of the window: the packet at 10.5 s
resets the window, which had seen eleven ports, and it sees ten from there on. -/
theorem straddling_scan_missed :
    ∃ first rest, straddlingScan = first :: rest ∧
      ([Probe.syn 1 0] ++ first :: rest).Pairwise (·.now ≤ ·.now) ∧ Brief {} first rest ∧
      ({} : PortScanConfig).distinctPortThreshold.toNat ≤ distinctPorts (first :: rest) ∧
      ¬ Detected {} 0 [.syn 1 0] (first :: rest) :=
  ⟨_, _, rfl, by decide +kernel, ⟨by decide +kernel, by decide +kernel⟩, by decide +kernel, by decide +kernel⟩

end Interval

/-! ## The detector's profiles -/

namespace ThreatDetector
open StateRules

/-- One call of the port-scan engine, for its effect. -/
def scanStep (src : Octets) (d : ThreatDetector) (p : Probe) : ThreatDetector :=
  after (inspectPortScan src p.dstPort p.tcpFlags p.now) d

theorem scanStep_lookup (src : Octets) (d : ThreatDetector) (p : Probe) :
    (d.scanStep src p).portScan.lookup src =
      some (((d.portScan.lookup src).getD (.create p.now)).scan d.config.portScan p) := by
  apply AList.lookup_insert

/-- A source the detector does not know yet gets the profile whose runs are studied above. -/
theorem inspectPortScan_run (src : Octets) (d : ThreatDetector) (unknown : d.portScan.lookup src = none)
    (first : Probe) (rest : List Probe) (p : Probe) :
    result (inspectPortScan src p.dstPort p.tcpFlags p.now) (run (scanStep src) d (first :: rest)) =
      (PerIpScanProfile.scanAll d.config.portScan first.now (first :: rest)).result d.config.portScan p := by
  have known : ∀ packets : List Probe,
      (run (scanStep src) d (first :: packets)).config = d.config ∧
        (run (scanStep src) d (first :: packets)).portScan.lookup src =
          some (PerIpScanProfile.scanAll d.config.portScan first.now (first :: packets)) := by
    intro packets
    induction packets using List.reverseRecOn with
    | nil =>
        refine ⟨rfl, ?_⟩
        change (d.scanStep src first).portScan.lookup src = _
        rw [scanStep_lookup, unknown]
        rfl
    | append_singleton packets q ih =>
        obtain ⟨config, lookup⟩ := ih
        rw [← List.cons_append, run_snoc, PerIpScanProfile.scanAll, run_snoc]
        refine ⟨config, ?_⟩
        rw [scanStep_lookup, lookup, config]
        rfl
  obtain ⟨config, lookup⟩ := known rest
  change ((((run (scanStep src) d (first :: rest)).portScan.lookup src).getD (.create p.now)).inspect
    (run (scanStep src) d (first :: rest)).config.portScan p.dstPort p.tcpFlags p.now).1 = _
  rw [lookup, config]
  rfl

end ThreatDetector

end Nte
