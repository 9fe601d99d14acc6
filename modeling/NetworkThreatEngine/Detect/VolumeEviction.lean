import NetworkThreatEngine.Detect.Baseline
import NetworkThreatEngine.Lib.Sweep

/-!
# Evicting volume profiles

`evict_stale_profiles` removes profiles that have been idle for two stale intervals. A profile with a baseline would
start over with its next packet anyway; one that is still in its first window would not, and is missed.
-/
namespace Nte
open KeyedStore Sweep

/-- A profile that `evict_stale_profiles` removes. -/
def PerIpEwmaProfile.isStale (cfg : EWMAConfig) (now : TimePoint) (profile : PerIpEwmaProfile) : Bool :=
  secondsBetween now profile.lastUpdate > cfg.staleResetSec * 2

/-- A call after the eviction; a new profile starts with it. -/
def EWMACall.follows (t : TimePoint) (c : EWMACall) : Prop := t ≤ c.now ∧ c.created = c.now

instance (t : TimePoint) (c : EWMACall) : Decidable (c.follows t) :=
  inferInstanceAs (Decidable (t ≤ c.now ∧ c.created = c.now))

end Nte
