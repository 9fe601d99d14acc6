import NetworkThreatEngine.Detect.ThreatDetector
import NetworkThreatEngine.Lib.KeyedStore

/-!
# Port-scan results

The window of a source is cut greedily: its first packet starts it, and the first packet that comes too
long after that starts the next one. A profile counts the packets of the window under way, and the result
for a packet is a function of them.
-/
namespace Nte
open KeyedStore StateRules

/-- A packet of one source, as `PortScanDetector::inspect` receives it. -/
structure ScanPacket where
  dstPort : UInt16
  tcpFlags : UInt8
  now : TimePoint
  deriving DecidableEq, Repr

def ScanPacket.synOnly (p : ScanPacket) : Bool := synSet p.tcpFlags && !ackSet p.tcpFlags

/-! ## Windows by themselves -/

/-- A packet joins the window, or starts the next one. -/
def greedyExtend (sec : ℚ) (window : List ScanPacket) (p : ScanPacket) : List ScanPacket :=
  match window with
  | [] => [p]
  | first :: _ => if sec ≤ secondsBetween p.now first.now then [p] else window ++ [p]

/-- The packets since the start of the current window. -/
def greedyWindow (sec : ℚ) (packets : List ScanPacket) : List ScanPacket := packets.foldl (greedyExtend sec) []

/-- The number of distinct destination ports. -/
def portCount (window : List ScanPacket) : Nat := (window.map (·.dstPort)).toFinset.card

/-- The share of SYN-only packets. -/
def synShare (window : List ScanPacket) : ℚ := window.countP (·.synOnly) / window.length

section Greedy
variable {sec : ℚ} {packets window : List ScanPacket} {p : ScanPacket}

theorem greedyWindow_snoc (sec : ℚ) (packets : List ScanPacket) (p : ScanPacket) :
    greedyWindow sec (packets ++ [p]) = greedyExtend sec (greedyWindow sec packets) p := List.foldl_concat ..

theorem greedyExtend_cases (sec : ℚ) (window : List ScanPacket) (p : ScanPacket) :
    greedyExtend sec window p = [p] ∨
      greedyExtend sec window p = window ++ [p] ∧ ∃ first, first ∈ window.head? ∧ secondsBetween p.now first.now < sec := by
  cases window with
  | nil => exact .inl rfl
  | cons first rest =>
      by_cases old : sec ≤ secondsBetween p.now first.now
      · exact .inl (if_pos old)
      · exact .inr ⟨if_neg old, first, rfl, not_le.mp old⟩

theorem mem_greedyExtend (sec : ℚ) (window : List ScanPacket) (p : ScanPacket) : p ∈ greedyExtend sec window p := by
  rcases greedyExtend_cases sec window p with new | ⟨grown, -⟩
  · simp [new]
  · simp [grown]

theorem greedyWindow_eq_nil : greedyWindow sec packets = [] ↔ packets = [] := by
  induction packets using List.reverseRecOn with
  | nil => exact iff_of_true rfl rfl
  | append_singleton packets p ih =>
      rw [greedyWindow_snoc]
      exact iff_of_false (List.ne_nil_of_mem (mem_greedyExtend _ _ _)) (by simp)

theorem greedyWindow_suffix (sec : ℚ) (packets : List ScanPacket) : greedyWindow sec packets <:+ packets := by
  induction packets using List.reverseRecOn with
  | nil => exact List.suffix_refl _
  | append_singleton packets p ih =>
      rw [greedyWindow_snoc]
      rcases greedyExtend_cases sec (greedyWindow sec packets) p with new | ⟨grown, -⟩
      · rw [new]
        exact List.suffix_append _ _
      · obtain ⟨earlier, all⟩ := ih
        rw [grown]
        exact ⟨earlier, by rw [← List.append_assoc, all]⟩

/-- No packet of the window comes too long after its first one. -/
theorem greedyWindow_young (positive : 0 < sec) {first : ScanPacket} (head : first ∈ (greedyWindow sec packets).head?) :
    ∀ p ∈ greedyWindow sec packets, secondsBetween p.now first.now < sec := by
  induction packets using List.reverseRecOn with
  | nil => cases head
  | append_singleton packets q ih =>
      rw [greedyWindow_snoc] at head ⊢
      rcases greedyExtend_cases sec (greedyWindow sec packets) q with new | ⟨grown, oldest, opened, young⟩
      · rw [new] at head ⊢
        obtain rfl : q = first := Option.some.inj head
        simpa using positive
      · rw [grown, List.head?_append, Option.mem_def.mp opened] at head
        obtain rfl : oldest = first := Option.some.inj head
        rw [grown]
        intro p mem
        rcases List.mem_append.mp mem with old | new
        · exact ih opened p old
        · rw [List.mem_singleton.mp new]
          exact young

theorem first_le {first : ScanPacket} (ordered : packets.Pairwise (·.now ≤ ·.now))
    (head : first ∈ (greedyWindow sec packets).head?) (mem : p ∈ greedyWindow sec packets) : first.now ≤ p.now := by
  have sorted := ordered.sublist (greedyWindow_suffix sec packets).sublist
  cases window : greedyWindow sec packets with
  | nil =>
      rw [window] at head
      cases head
  | cons oldest rest =>
      rw [window] at head mem sorted
      obtain rfl : oldest = first := Option.some.inj head
      rcases List.mem_cons.mp mem with rfl | later
      · exact le_refl _
      · exact List.rel_of_pairwise_cons sorted later

/-- The window spans less than its length. -/
theorem greedyWindow_span (positive : 0 < sec) (ordered : packets.Pairwise (·.now ≤ ·.now)) :
    ∀ p ∈ greedyWindow sec packets, ∀ q ∈ greedyWindow sec packets, secondsBetween q.now p.now < sec := by
  intro p hp q hq
  obtain ⟨first, head⟩ : ∃ first, first ∈ (greedyWindow sec packets).head? :=
    Option.isSome_iff_exists.mp (List.isSome_head?.mpr (List.ne_nil_of_mem hp))
  calc secondsBetween q.now p.now ≤ secondsBetween q.now first.now := secondsBetween_mono (first_le ordered head hp)
    _ < sec := greedyWindow_young positive head q hq

theorem synShare_mem (window : List ScanPacket) : 0 ≤ synShare window ∧ synShare window ≤ 1 := by
  have part : ((window.countP (·.synOnly) : ℕ) : ℚ) ≤ window.length := by exact_mod_cast List.countP_le_length
  exact ⟨by unfold synShare; positivity, div_le_one_of_le₀ part (by positivity)⟩

end Greedy

/-! ## One packet -/

namespace PerIpScanProfile

def receive (cfg : PortScanConfig) (profile : PerIpScanProfile) (p : ScanPacket) : PerIpScanProfile :=
  (profile.inspect cfg p.dstPort p.tcpFlags p.now).2

def verdict (cfg : PortScanConfig) (profile : PerIpScanProfile) (p : ScanPacket) : Option PortScanResult :=
  (profile.inspect cfg p.dstPort p.tcpFlags p.now).1

/-- An expired profile is emptied. -/
def renew (cfg : PortScanConfig) (profile : PerIpScanProfile) (now : TimePoint) : PerIpScanProfile :=
  if secondsBetween now profile.windowStart ≥ cfg.windowSec then
    { profile with dstPorts := [], tcpPacketCount := 0, synOnlyCount := 0, windowStart := now }
  else profile

/-- The profile with the packet counted. -/
def counted (cfg : PortScanConfig) (profile : PerIpScanProfile) (p : ScanPacket) : PerIpScanProfile :=
  { profile.renew cfg p.now with
    dstPorts := (profile.renew cfg p.now).dstPorts.insert p.dstPort
    tcpPacketCount := (profile.renew cfg p.now).tcpPacketCount + 1
    synOnlyCount := (profile.renew cfg p.now).synOnlyCount + if p.synOnly then 1 else 0 }

/-- The verdict on what the profile holds. -/
def judge (cfg : PortScanConfig) (profile : PerIpScanProfile) (windowAge : ℚ) : Option PortScanResult :=
  if UInt32.ofNat profile.dstPorts.length < cfg.distinctPortThreshold then none
  else if cfg.synOnlyRatio > 0 ∧ profile.tcpPacketCount > 0 ∧ profile.synRatio < cfg.synOnlyRatio then none
  else
    some { severity := if UInt32.ofNat profile.dstPorts.length ≥ cfg.distinctPortThreshold * 2 then .HIGH else .MEDIUM,
           distinctPorts := UInt32.ofNat profile.dstPorts.length,
           synRatio := if profile.tcpPacketCount > 0 then profile.synRatio else 0,
           windowSec := min windowAge cfg.windowSec }

theorem inspect_eq (cfg : PortScanConfig) (profile : PerIpScanProfile) (p : ScanPacket) :
    profile.inspect cfg p.dstPort p.tcpFlags p.now =
      (judge cfg (profile.counted cfg p) (secondsBetween p.now profile.windowStart), profile.counted cfg p) :=
  ite_pair _ _ _ _ _ _

theorem receive_eq (cfg : PortScanConfig) (profile : PerIpScanProfile) (p : ScanPacket) :
    profile.receive cfg p = profile.counted cfg p := congrArg Prod.snd (inspect_eq cfg profile p)

theorem verdict_eq (cfg : PortScanConfig) (profile : PerIpScanProfile) (p : ScanPacket) :
    profile.verdict cfg p = judge cfg (profile.receive cfg p) (secondsBetween p.now profile.windowStart) := by
  rw [receive_eq]
  exact congrArg Prod.fst (inspect_eq cfg profile p)

/-- The profile holds what the window says. -/
structure Describes (window : List ScanPacket) (profile : PerIpScanProfile) : Prop where
  nodup : profile.dstPorts.Nodup
  ports : ∀ port, port ∈ profile.dstPorts ↔ port ∈ window.map (·.dstPort)
  tcpPacketCount : profile.tcpPacketCount = window.length
  synOnlyCount : profile.synOnlyCount = window.countP (·.synOnly)
  started : ∀ first ∈ window.head?, profile.windowStart = first.now

variable {cfg : PortScanConfig} {profile : PerIpScanProfile} {window : List ScanPacket} {p : ScanPacket}

theorem describes_nil (now : TimePoint) : Describes [] (create now) := by
  constructor <;> simp [create]

/-- The packet is counted on top of a profile that has not been emptied. -/
theorem Describes.count (h : Describes window profile) (p : ScanPacket)
    (started : window = [] → profile.windowStart = p.now) :
    Describes (window ++ [p])
      { profile with
        dstPorts := profile.dstPorts.insert p.dstPort
        tcpPacketCount := profile.tcpPacketCount + 1
        synOnlyCount := profile.synOnlyCount + if p.synOnly then 1 else 0 } := by
  constructor
  · exact h.nodup.insert
  · intro port
    simp [h.ports port, or_comm]
  · simp [h.tcpPacketCount]
  · simp [h.synOnlyCount, List.countP_singleton]
  · intro first head
    rw [List.head?_append] at head
    cases window with
    | nil =>
        obtain rfl : p = first := Option.some.inj head
        exact started rfl
    | cons oldest rest => exact h.started first head

theorem Describes.receive (h : Describes window profile) (started : window = [] → profile.windowStart = p.now) :
    Describes (greedyExtend cfg.windowSec window p) (profile.receive cfg p) := by
  have renewed : Describes [p] { create p.now with
      dstPorts := (create p.now).dstPorts.insert p.dstPort
      tcpPacketCount := (create p.now).tcpPacketCount + 1
      synOnlyCount := (create p.now).synOnlyCount + if p.synOnly then 1 else 0 } :=
    (describes_nil p.now).count p fun _ => rfl
  rw [receive_eq, counted, renew]
  cases window with
  | nil =>
      by_cases old : secondsBetween p.now profile.windowStart ≥ cfg.windowSec
      · rw [if_pos old]
        exact renewed
      · rw [if_neg old]
        exact h.count p started
  | cons first rest =>
      have start : profile.windowStart = first.now := h.started first rfl
      rw [start, greedyExtend]
      by_cases old : cfg.windowSec ≤ secondsBetween p.now first.now
      · rw [if_pos old, if_pos old]
        exact renewed
      · rw [if_neg old, if_neg old]
        exact h.count p nofun

theorem Describes.ports_toNat (h : Describes window profile) :
    (UInt32.ofNat profile.dstPorts.length).toNat = portCount window := PerIpScanProfile.ports_toNat h.nodup h.ports

theorem Describes.synRatio (h : Describes window profile) : profile.synRatio = synShare window := by
  rw [PerIpScanProfile.synRatio, h.synOnlyCount, h.tcpPacketCount, synShare]

end PerIpScanProfile

theorem double_toNat {n : UInt32} (small : n.toNat < 2 ^ 31) : (n * 2).toNat = 2 * n.toNat := by
  rw [UInt32.toNat_mul, Nat.mod_eq_of_lt, Nat.mul_comm]
  · rfl
  · change n.toNat * 2 < 2 ^ 32
    omega

/-- The gate lets a window pass if it is disabled or enough of the packets are SYNs. -/
theorem gate_iff {cfg : PortScanConfig} {window : List ScanPacket} :
    ¬ (cfg.synOnlyRatio > 0 ∧ synShare window < cfg.synOnlyRatio) ↔
      cfg.synOnlyRatio = 0 ∨ cfg.synOnlyRatio ≤ synShare window := by
  have share := (synShare_mem window).1
  constructor
  · intro passes
    rcases lt_trichotomy cfg.synOnlyRatio 0 with negative | zero | positive
    · exact .inr (negative.le.trans share)
    · exact .inl zero
    · exact .inr (not_lt.mp fun less => passes ⟨positive, less⟩)
  · rintro (zero | enough) ⟨positive, less⟩
    · exact positive.ne' zero
    · exact not_lt.mpr enough less

/-- What the verdict on a window is to be. -/
structure ScanExact (cfg : PortScanConfig) (window : List ScanPacket) (verdict : Option PortScanResult) : Prop where
  found : verdict.isSome ↔ cfg.distinctPortThreshold.toNat ≤ portCount window ∧
    (cfg.synOnlyRatio = 0 ∨ cfg.synOnlyRatio ≤ synShare window)
  figures : ∀ r ∈ verdict, r.distinctPorts.toNat = portCount window ∧ r.synRatio = synShare window ∧
    (0 ≤ r.synRatio ∧ r.synRatio ≤ 1) ∧
    (r.severity = .HIGH ↔ 2 * cfg.distinctPortThreshold.toNat ≤ portCount window)

namespace PerIpScanProfile
variable {cfg : PortScanConfig} {profile : PerIpScanProfile} {p : ScanPacket} {window : List ScanPacket} {windowAge : ℚ}

theorem judge_isSome : (judge cfg profile windowAge).isSome ↔
    ¬ UInt32.ofNat profile.dstPorts.length < cfg.distinctPortThreshold ∧
      ¬ (cfg.synOnlyRatio > 0 ∧ profile.tcpPacketCount > 0 ∧ profile.synRatio < cfg.synOnlyRatio) := by
  unfold judge
  split
  · rename_i few
    exact iff_of_false Bool.false_ne_true fun h => h.1 few
  · rename_i many
    split
    · rename_i gate
      exact iff_of_false Bool.false_ne_true fun h => h.2 gate
    · rename_i passes
      exact iff_of_true rfl ⟨many, passes⟩

theorem judge_eq_some {r : PortScanResult} (h : judge cfg profile windowAge = some r) :
    r.distinctPorts = UInt32.ofNat profile.dstPorts.length ∧
      r.synRatio = (if profile.tcpPacketCount > 0 then profile.synRatio else 0) ∧
      (r.severity = .HIGH ↔ cfg.distinctPortThreshold * 2 ≤ UInt32.ofNat profile.dstPorts.length) := by
  unfold judge at h
  split at h
  · cases h
  · split at h
    · cases h
    · cases h
      refine ⟨rfl, rfl, ?_⟩
      dsimp only
      split
      · rename_i high
        exact iff_of_true rfl high
      · rename_i medium
        exact iff_of_false (fun equal => by cases equal) medium

theorem Describes.counted_pos (h : Describes window profile) (some : window ≠ []) : profile.tcpPacketCount > 0 := by
  rw [h.tcpPacketCount]
  exact List.length_pos_iff.mpr some

theorem Describes.found (h : Describes window (profile.receive cfg p)) (some : window ≠ []) :
    (profile.verdict cfg p).isSome ↔ cfg.distinctPortThreshold.toNat ≤ portCount window ∧
      (cfg.synOnlyRatio = 0 ∨ cfg.synOnlyRatio ≤ synShare window) := by
  have counted := h.counted_pos some
  rw [verdict_eq, judge_isSome, UInt32.lt_iff_toNat_lt, h.ports_toNat, h.synRatio, not_lt, ← gate_iff]
  apply and_congr_right
  intro _
  apply not_congr
  constructor
  · rintro ⟨on, -, less⟩
    exact ⟨on, less⟩
  · rintro ⟨on, less⟩
    exact ⟨on, counted, less⟩

theorem Describes.scanExact (h : Describes window (profile.receive cfg p)) (some : window ≠ [])
    (small : cfg.distinctPortThreshold.toNat < 2 ^ 31) : ScanExact cfg window (profile.verdict cfg p) := by
  refine ⟨h.found some, ?_⟩
  intro r result
  rw [verdict_eq] at result
  obtain ⟨ports, ratio, severe⟩ := judge_eq_some result
  rw [if_pos (h.counted_pos some), h.synRatio] at ratio
  rw [UInt32.le_iff_toNat_le, double_toNat small, h.ports_toNat] at severe
  refine ⟨by rw [ports, h.ports_toNat], ratio, ?_, severe⟩
  rw [ratio]
  exact synShare_mem window

end PerIpScanProfile

/-! ## All sources -/

/-- A call of `PortScanDetector::inspect`. -/
structure ScanCall where
  srcIp : Octets
  packet : ScanPacket
  deriving DecidableEq, Repr

/-- The profiles of `PortScanDetector::inspect`; a new one starts at the call's `now`. -/
def scanEngine (cfg : PortScanConfig) : Engine Octets ScanCall PerIpScanProfile (Option PortScanResult) where
  key c := c.srcIp
  create c := .create c.packet.now
  work profile c := profile.inspect cfg c.packet.dstPort c.packet.tcpFlags c.packet.now

/-- The packets of a source among the calls. -/
def packetsOf (src : Octets) (calls : List ScanCall) : List ScanPacket :=
  (calls.filter fun c => c.srcIp = src).map (·.packet)

/-- With a call counted, the profile of its source describes the current window. -/
theorem scanEngine_counts (cfg : PortScanConfig) (own : List ScanCall) (c : ScanCall) :
    PerIpScanProfile.Describes (greedyWindow cfg.windowSec ((own ++ [c]).map (·.packet)))
      ((((scanEngine cfg).own own).getD (.create c.packet.now)).receive cfg c.packet) := by
  induction own using List.reverseRecOn generalizing c with
  | nil => exact (PerIpScanProfile.describes_nil c.packet.now).receive fun _ => rfl
  | append_singleton own d ih =>
      have known := ih d
      have some : greedyWindow cfg.windowSec ((own ++ [d]).map (·.packet)) ≠ [] := by
        rw [Ne, greedyWindow_eq_nil]
        simp
      rw [List.map_append, List.map_singleton, greedyWindow_snoc, Engine.own_snoc]
      exact known.receive fun empty => absurd empty some

theorem scanEngine_exact (cfg : PortScanConfig) (small : cfg.distinctPortThreshold.toNat < 2 ^ 31)
    (calls : List ScanCall) (c : ScanCall) :
    ScanExact cfg (greedyWindow cfg.windowSec (packetsOf c.srcIp (calls ++ [c])))
      ((scanEngine cfg).result ((scanEngine cfg).run calls) c) := by
  have counts := scanEngine_counts cfg (calls.filter fun d => d.srcIp = c.srcIp) c
  have last : packetsOf c.srcIp (calls ++ [c]) = ((calls.filter fun d => d.srcIp = c.srcIp) ++ [c]).map (·.packet) := by
    rw [packetsOf, List.filter_append, List.filter_cons_of_pos (by simp), List.filter_nil]
  rw [last, Engine.result, Engine.entry_run]
  apply counts.scanExact _ small
  rw [Ne, greedyWindow_eq_nil]
  simp

/-- Whatever other sources send, a call is answered by the window its source has in time: one that spans
less than its length, with results that are exact for its packets. -/
theorem scan_result_exact (cfg : PortScanConfig) (small : cfg.distinctPortThreshold.toNat < 2 ^ 31)
    (positive : 0 < cfg.windowSec) (calls : List ScanCall) (c : ScanCall)
    (ordered : (packetsOf c.srcIp (calls ++ [c])).Pairwise (·.now ≤ ·.now)) :
    let window := greedyWindow cfg.windowSec (packetsOf c.srcIp (calls ++ [c]))
    (∀ p ∈ window, ∀ q ∈ window, secondsBetween q.now p.now < cfg.windowSec) ∧
      ScanExact cfg window ((scanEngine cfg).result ((scanEngine cfg).run calls) c) :=
  ⟨greedyWindow_span positive ordered, scanEngine_exact cfg small calls c⟩

/-- Two sources; a packet at 10 s starts the second window of the first one. -/
def scanCalls : List ScanCall :=
  [⟨ascii "10.0.0.1", ⟨22, 2, 0⟩⟩, ⟨ascii "10.0.0.2", ⟨23, 2, 1000000000⟩⟩, ⟨ascii "10.0.0.1", ⟨80, 2, 10000000000⟩⟩]

theorem scan_result_exact_second_window :
    greedyWindow 10 (packetsOf (ascii "10.0.0.1") (scanCalls ++ [⟨ascii "10.0.0.1", ⟨443, 2, 19000000000⟩⟩])) =
        [⟨80, 2, 10000000000⟩, ⟨443, 2, 19000000000⟩] ∧
      ScanExact {} (greedyWindow 10
          (packetsOf (ascii "10.0.0.1") (scanCalls ++ [⟨ascii "10.0.0.1", ⟨443, 2, 19000000000⟩⟩])))
        ((scanEngine {}).result ((scanEngine {}).run scanCalls) ⟨ascii "10.0.0.1", ⟨443, 2, 19000000000⟩⟩) :=
  ⟨by decide +kernel, (scan_result_exact {} (by decide) (by decide +kernel) scanCalls
    ⟨ascii "10.0.0.1", ⟨443, 2, 19000000000⟩⟩ (by decide +kernel)).2⟩

end Nte
