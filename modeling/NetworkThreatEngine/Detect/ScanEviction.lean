import NetworkThreatEngine.Detect.ScanResult
import NetworkThreatEngine.Lib.Sweep

/-!
# Evicting scan profiles

`evict_stale` removes profiles whose window began more than two windows ago. The next packet of such a source
empties its profile where it stands, so a new one in its place gives the same verdicts, but for the age of the
window they mention.
-/
namespace Nte
open KeyedStore Sweep

/-- Presence, severity, ports and ratio of a result. -/
def scanView (verdict : Option PortScanResult) : Option (Severity × UInt32 × ℚ) :=
  verdict.map fun r => (r.severity, r.distinctPorts, r.synRatio)

/-- A profile that `evict_stale` removes. -/
def PerIpScanProfile.isStale (cfg : PortScanConfig) (now : TimePoint) (profile : PerIpScanProfile) : Bool :=
  secondsBetween now profile.windowStart > cfg.windowSec * 2

/-- `PortScanDetector::evict_stale` when the profiles are visited in this order. -/
def evictStale (cfg : PortScanConfig) (order : List (Sigma fun _ : Octets => PerIpScanProfile))
    (profiles : AList fun _ : Octets => PerIpScanProfile) (now : TimePoint) : AList fun _ : Octets => PerIpScanProfile :=
  sweep (PerIpScanProfile.isStale cfg now) order profiles

namespace PerIpScanProfile
variable {cfg : PortScanConfig} {profile : PerIpScanProfile}

/-- The age of the window is for the one field that is not looked at. -/
theorem scanView_judge (age age' : ℚ) : scanView (judge cfg profile age) = scanView (judge cfg profile age') := by
  unfold judge
  split
  · rfl
  · split <;> rfl

theorem counted_old {p : ScanPacket} (old : cfg.windowSec ≤ secondsBetween p.now profile.windowStart) :
    profile.counted cfg p = (create p.now).counted cfg p := by
  have renewed : profile.renew cfg p.now = (create p.now).renew cfg p.now := by
    unfold renew
    rw [if_pos old]
    split <;> rfl
  unfold counted
  rw [renewed]

end PerIpScanProfile

/-- A window that is over is as good as none. -/
theorem scanEngine_renews {cfg : PortScanConfig} {profile : PerIpScanProfile} {c : ScanCall}
    (old : cfg.windowSec ≤ secondsBetween c.packet.now profile.windowStart) :
    (scanEngine cfg).Renews scanView profile c := by
  unfold Engine.Renews scanEngine
  dsimp only
  rw [PerIpScanProfile.inspect_eq, PerIpScanProfile.inspect_eq, PerIpScanProfile.counted_old old]
  exact ⟨PerIpScanProfile.scanView_judge _ _, rfl⟩

theorem evictStale_forgets {cfg : PortScanConfig} (positive : 0 < cfg.windowSec)
    {profiles : AList fun _ : Octets => PerIpScanProfile} {order : List (Sigma fun _ : Octets => PerIpScanProfile)}
    (visits : order.Perm profiles.entries) (t : TimePoint) :
    (scanEngine cfg).Forgets scanView (fun c => t ≤ c.packet.now) profiles (evictStale cfg order profiles t) := by
  intro src
  rw [evictStale, sweep_eq_spare visits]
  rcases spare_lookup_cases (PerIpScanProfile.isStale cfg t) profiles src with same | ⟨forgotten, stale⟩
  · exact .inl same
  · refine .inr ⟨forgotten, ?_⟩
    intro profile found c later _
    have idle : cfg.windowSec * 2 < secondsBetween t profile.windowStart := decide_eq_true_iff.mp (stale profile found)
    apply scanEngine_renews
    calc cfg.windowSec ≤ cfg.windowSec * 2 := by linarith
      _ ≤ secondsBetween t profile.windowStart := idle.le
      _ ≤ secondsBetween c.packet.now profile.windowStart := secondsBetween_mono_later later

/-- Whatever profiles the detector holds, its results from `t` on do not show whether it evicted stale ones at
`t`. The calls may come in any order. -/
theorem scan_eviction_unobservable (cfg : PortScanConfig) (positive : 0 < cfg.windowSec)
    (profiles : AList fun _ : Octets => PerIpScanProfile) (order : List (Sigma fun _ : Octets => PerIpScanProfile))
    (visits : order.Perm profiles.entries) (t : TimePoint) (calls : List ScanCall)
    (later : ∀ c ∈ calls, t ≤ c.packet.now) :
    (scanEngine cfg).views scanView (evictStale cfg order profiles t) calls =
      (scanEngine cfg).views scanView profiles calls :=
  (evictStale_forgets positive visits t).views_eq later

/-- A source that was heard of once, at 0 s. -/
def idleProfiles : AList fun _ : Octets => PerIpScanProfile := (scanEngine {}).run [⟨ascii "10.0.0.1", ⟨22, 2, 0⟩⟩]

/-- Its profile is evicted at 21 s, and a packet at 22 s fares the same. -/
theorem scan_eviction_unobservable_idle :
    (evictStale {} idleProfiles.entries idleProfiles 21000000000).lookup (ascii "10.0.0.1") = none ∧
      (scanEngine {}).views scanView (evictStale {} idleProfiles.entries idleProfiles 21000000000)
          [⟨ascii "10.0.0.1", ⟨80, 2, 22000000000⟩⟩] =
        (scanEngine {}).views scanView idleProfiles [⟨ascii "10.0.0.1", ⟨80, 2, 22000000000⟩⟩] := by
  refine ⟨by decide +kernel, scan_eviction_unobservable {} (by decide +kernel) _ _ (List.Perm.refl _) _ _ ?_⟩
  intro c mem
  rw [List.mem_singleton.mp mem]
  decide

end Nte
