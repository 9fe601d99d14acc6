import NetworkThreatEngine.Detect.ThreatDetector
import NetworkThreatEngine.Lib.History

/-!
# The SYN-flood window

A source's window is evaluated by the first packet that finds it old enough, and the rate is taken over
its age at that packet. A burst is seen as long as it is followed soon enough.
-/
namespace Nte
open History StateRules

/-- A TCP packet of one source, as `SynFloodDetector::inspect` receives it. -/
structure SynPacket where
  tcpFlags : UInt8
  now : TimePoint
  deriving DecidableEq, Repr

def SynPacket.synOnly (p : SynPacket) : Bool := synSet p.tcpFlags && !ackSet p.tcpFlags

/-- A profile with the packets counted in its open window. -/
structure SynHistory where
  profile : PerIpSynProfile
  current : List SynPacket := []
  deriving DecidableEq, Repr

namespace PerIpSynProfile

def receive (cfg : SynFloodConfig) (profile : PerIpSynProfile) (p : SynPacket) : PerIpSynProfile :=
  (profile.inspect cfg p.tcpFlags p.now).2

def flood (cfg : SynFloodConfig) (profile : PerIpSynProfile) (p : SynPacket) : Option SynFloodResult :=
  (profile.inspect cfg p.tcpFlags p.now).1

/-- The age the window has at a packet. -/
def ageAt (profile : PerIpSynProfile) (p : SynPacket) : ℚ := secondsBetween p.now profile.windowStart

/-- The profile with its window closed by a packet. -/
def rolled (profile : PerIpSynProfile) (p : SynPacket) : PerIpSynProfile :=
  { profile.classify p.tcpFlags with synOnlyCount := 0, tcpTotalCount := 0, synAckCount := 0, windowStart := p.now }

variable {cfg : SynFloodConfig} {profile : PerIpSynProfile} {p : SynPacket}

theorem inspect_young (young : profile.ageAt p < cfg.windowSec) :
    profile.inspect cfg p.tcpFlags p.now = (none, profile.classify p.tcpFlags) := if_pos young

/-- The SYN-only share of the packets of a window. -/
def share (synOnly total : Nat) : ℚ := if total > 0 then synOnly / total else 0

/-- The verdict on a window with these counts. -/
def judge (cfg : SynFloodConfig) (synRate synRatio : ℚ) (synCount handshakes : Nat) : Option SynFloodResult :=
  if synRate < cfg.synRatePps then none
  else if synRatio < cfg.synRatio then none
  else
    some { severity := if synRate ≥ cfg.synRatePps * 5 then .CRITICAL else .HIGH,
           synRatePps := synRate, synRatio := synRatio, synCount := synCount,
           completedHandshakes := handshakes }

theorem inspect_old (old : ¬ profile.ageAt p < cfg.windowSec) :
    profile.inspect cfg p.tcpFlags p.now =
      (judge cfg ((profile.classify p.tcpFlags).synOnlyCount / profile.ageAt p)
        (share (profile.classify p.tcpFlags).synOnlyCount (profile.classify p.tcpFlags).tcpTotalCount)
        (profile.classify p.tcpFlags).synOnlyCount (profile.classify p.tcpFlags).completedHandshakes,
        profile.rolled p) :=
  (if_neg old).trans (ite_pair _ _ _ _ _ _)

/-- A result is reported with the rate and the ratio of the counts. -/
theorem judge_eq_some {synRate synRatio : ℚ} {synCount handshakes : Nat} {r : SynFloodResult}
    (h : judge cfg synRate synRatio synCount handshakes = some r) :
    r.synRatePps = synRate ∧ r.synRatio = synRatio ∧ r.synCount = synCount := by
  unfold judge at h
  split at h
  · cases h
  · split at h
    · cases h
    · cases h
      exact ⟨rfl, rfl, rfl⟩

theorem judge_isSome {synRate synRatio : ℚ} {synCount handshakes : Nat} :
    (judge cfg synRate synRatio synCount handshakes).isSome ↔ cfg.synRatePps ≤ synRate ∧ cfg.synRatio ≤ synRatio := by
  unfold judge
  rw [← not_lt, ← not_lt]
  split
  · rename_i slow
    exact iff_of_false Bool.false_ne_true fun h => h.1 slow
  · rename_i fast
    split
    · rename_i mixed
      exact iff_of_false Bool.false_ne_true fun h => h.2 mixed
    · rename_i pure
      exact iff_of_true rfl ⟨fast, pure⟩

end PerIpSynProfile

namespace SynHistory

def create (now : TimePoint) : SynHistory := { profile := .create now }

def next (cfg : SynFloodConfig) (h : SynHistory) (p : SynPacket) : SynHistory where
  profile := h.profile.receive cfg p
  current := if h.profile.ageAt p < cfg.windowSec then h.current ++ [p] else []

/-- What packets of the source make of a history. -/
def after (cfg : SynFloodConfig) (h : SynHistory) (packets : List SynPacket) : SynHistory :=
  run (next cfg) h packets

/-- The packets of the window that a packet closes, this one included. -/
def window (h : SynHistory) (p : SynPacket) : List SynPacket := h.current ++ [p]

/-- The counters of the profile are those of the open window. -/
structure Counts (h : SynHistory) : Prop where
  synOnly : h.profile.synOnlyCount = h.current.countP (·.synOnly)
  total : h.profile.tcpTotalCount = h.current.length

variable {cfg : SynFloodConfig} {h : SynHistory}

theorem classify_synOnlyCount (counts : h.Counts) (p : SynPacket) :
    (h.profile.classify p.tcpFlags).synOnlyCount = (h.window p).countP (·.synOnly) := by
  rw [window, List.countP_append, ← counts.synOnly, List.countP_singleton]
  rfl

theorem classify_tcpTotalCount (counts : h.Counts) (p : SynPacket) :
    (h.profile.classify p.tcpFlags).tcpTotalCount = (h.window p).length := by
  rw [window, List.length_append, ← counts.total]
  rfl

theorem Counts.next (counts : h.Counts) (p : SynPacket) : (h.next cfg p).Counts := by
  unfold SynHistory.next PerIpSynProfile.receive
  by_cases young : h.profile.ageAt p < cfg.windowSec
  · rw [if_pos young, PerIpSynProfile.inspect_young young]
    exact ⟨classify_synOnlyCount counts p, classify_tcpTotalCount counts p⟩
  · rw [if_neg young, PerIpSynProfile.inspect_old young]
    exact ⟨rfl, rfl⟩

theorem after_profile (cfg : SynFloodConfig) (created : TimePoint) (packets : List SynPacket) :
    ((create created).after cfg packets).profile =
      run (PerIpSynProfile.receive cfg) (.create created) packets := by
  induction packets using List.reverseRecOn with
  | nil => rfl
  | append_singleton packets p ih =>
      rw [after, run_snoc, run_snoc, ← ih]
      rfl

end SynHistory

end Nte
