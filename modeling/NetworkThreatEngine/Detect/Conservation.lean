import NetworkThreatEngine.Detect.Stores

/-!
# Rate windows partition the traffic

Three rules measure rates in windows, and each has its own way of closing one: the SYN-flood rule counts
the closing packet in the window it closes, brute force in the next one, exfiltration adds its bytes first
and starts over empty. In all three what the windows used and what is left add up to what was seen.
-/
namespace Nte
open KeyedStore ThreatDetector

/-- A window that was evaluated: what it had counted and how old it was. -/
structure Evaluation where
  amount : Nat
  age : ℚ
  deriving DecidableEq, Repr

def Evaluation.rate (e : Evaluation) : ℚ := e.amount / e.age

/-- No rule evaluates a window younger than its `least` age. -/
theorem Evaluation.aged {least age : ℚ} {amount : Nat} {w : Evaluation}
    (h : (if age < least then none else some ⟨amount, age⟩) = some w) : least ≤ w.age := by
  split at h
  · cases h
  · cases h
    exact not_lt.mp ‹_›

/-- The evaluated windows and the open one make up what was seen; none was evaluated too young. -/
structure Partitions (least : ℚ) (windows : List Evaluation) (current seen : Nat) : Prop where
  amounts : (windows.map (·.amount)).sum + current = seen
  aged : ∀ w ∈ windows, least ≤ w.age

/-- A rule that loses nothing in a step loses nothing over the packets of one key. -/
theorem Partitions.of_law {κ ι ε ρ : Type} (m : Engine κ ι ε ρ) (evaluate : ε → ι → Option Evaluation)
    (amount : ε → Nat) (weight : ι → Nat) {least : ℚ} (fresh : ∀ i, amount (m.create i) = 0)
    (aged : ∀ e i w, evaluate e i = some w → least ≤ w.age)
    (law : ∀ e i, ((evaluate e i).map (·.amount)).getD 0 + amount (m.work e i).2 = amount e + weight i) (is : List ι) :
    Partitions least (m.evaluations evaluate is) (((m.own is).map amount).getD 0) (is.map weight).sum :=
  ⟨Engine.own_conserved amount Evaluation.amount weight fresh law is, Engine.forall_evaluations aged is⟩

/-! ## SYN floods -/

namespace PerIpSynProfile

def synEvaluation (cfg : SynFloodConfig) (profile : PerIpSynProfile) (p : Timed) : Option Evaluation :=
  if profile.ageAt p.synPacket < cfg.windowSec then none
  else some ⟨(profile.classify p.info.tcpFlags).synOnlyCount, profile.ageAt p.synPacket⟩

def tcpEvaluation (cfg : SynFloodConfig) (profile : PerIpSynProfile) (p : Timed) : Option Evaluation :=
  if profile.ageAt p.synPacket < cfg.windowSec then none
  else some ⟨(profile.classify p.info.tcpFlags).tcpTotalCount, profile.ageAt p.synPacket⟩

def synWeight (p : Timed) : Nat := if p.synPacket.synOnly then 1 else 0

/-- No packet is counted as both kinds of SYN. -/
def Kinds (profile : PerIpSynProfile) : Prop := profile.synOnlyCount + profile.synAckCount ≤ profile.tcpTotalCount

/-- The lifetime counters have counted the packets. -/
structure Lifetime (own : List Timed) (profile : PerIpSynProfile) : Prop where
  syn : profile.lifetimeSynCount = (own.map synWeight).sum
  tcp : profile.lifetimeTcpCount = own.length

/-- A reported rate is that of an evaluated window, whose SYNs make up the reported share of its packets. -/
structure Reports (cfg : SynFloodConfig) (profile : PerIpSynProfile) (p : Timed) (r : SynFloodResult) : Prop where
  windows : ∃ syn tcp, profile.synEvaluation cfg p = some syn ∧ profile.tcpEvaluation cfg p = some tcp ∧
    r.synRatePps = syn.rate ∧ r.synRatio = syn.amount / tcp.amount ∧ cfg.windowSec ≤ syn.age
  share : 0 ≤ r.synRatio ∧ r.synRatio ≤ 1

variable {cfg : SynFloodConfig} {profile : PerIpSynProfile} {p : Timed}

theorem synEvaluation_conserves (profile : PerIpSynProfile) (p : Timed) :
    ((profile.synEvaluation cfg p).map (·.amount)).getD 0 + (profile.receive cfg p.synPacket).synOnlyCount =
      profile.synOnlyCount + synWeight p := by
  unfold synEvaluation receive
  by_cases young : profile.ageAt p.synPacket < cfg.windowSec
  · rw [if_pos young, inspect_young young]
    exact Nat.zero_add _
  · rw [if_neg young, inspect_old young]
    rfl

theorem tcpEvaluation_conserves (profile : PerIpSynProfile) (p : Timed) :
    ((profile.tcpEvaluation cfg p).map (·.amount)).getD 0 + (profile.receive cfg p.synPacket).tcpTotalCount =
      profile.tcpTotalCount + 1 := by
  unfold tcpEvaluation receive
  by_cases young : profile.ageAt p.synPacket < cfg.windowSec
  · rw [if_pos young, inspect_young young]
    exact Nat.zero_add _
  · rw [if_neg young, inspect_old young]
    rfl

theorem synEvaluation_aged {w : Evaluation} (h : profile.synEvaluation cfg p = some w) : cfg.windowSec ≤ w.age :=
  Evaluation.aged h

theorem tcpEvaluation_aged {w : Evaluation} (h : profile.tcpEvaluation cfg p = some w) : cfg.windowSec ≤ w.age :=
  Evaluation.aged h

theorem Kinds.classify (kinds : profile.Kinds) (tcpFlags : UInt8) : (profile.classify tcpFlags).Kinds := by
  unfold Kinds PerIpSynProfile.classify at *
  dsimp only
  cases synSet tcpFlags <;> cases ackSet tcpFlags <;> simp <;> omega

theorem Kinds.receive (kinds : profile.Kinds) (p : SynPacket) : (profile.receive cfg p).Kinds := by
  unfold PerIpSynProfile.receive
  by_cases young : profile.ageAt p < cfg.windowSec
  · rw [inspect_young young]
    exact kinds.classify p.tcpFlags
  · rw [inspect_old young]
    exact Nat.le_refl 0

/-- Closing a window leaves the lifetime counters alone. -/
theorem lifetime_receive (profile : PerIpSynProfile) (p : Timed) :
    (profile.receive cfg p.synPacket).lifetimeSynCount = profile.lifetimeSynCount + synWeight p ∧
      (profile.receive cfg p.synPacket).lifetimeTcpCount = profile.lifetimeTcpCount + 1 := by
  unfold receive
  by_cases young : profile.ageAt p.synPacket < cfg.windowSec
  · rw [inspect_young young]
    exact ⟨rfl, rfl⟩
  · rw [inspect_old young]
    exact ⟨rfl, rfl⟩

theorem Lifetime.receive {own : List Timed} (known : profile.Lifetime own) (p : Timed) :
    (profile.receive cfg p.synPacket).Lifetime (own ++ [p]) := by
  have counted := @lifetime_receive cfg profile p
  constructor
  · rw [List.map_append, List.sum_append, List.map_singleton, List.sum_singleton, ← known.syn]
    exact counted.1
  · rw [List.length_append, List.length_singleton, ← known.tcp]
    exact counted.2

theorem Kinds.reports (kinds : profile.Kinds) {r : SynFloodResult} (found : profile.flood cfg p.synPacket = some r) :
    profile.Reports cfg p r := by
  by_cases young : profile.ageAt p.synPacket < cfg.windowSec
  · rw [flood, inspect_young young] at found
    cases found
  · rw [flood, inspect_old young] at found
    obtain ⟨rate, ratio, -⟩ := judge_eq_some found
    have some : (profile.classify p.info.tcpFlags).tcpTotalCount > 0 := Nat.succ_pos _
    have part : (profile.classify p.info.tcpFlags).synOnlyCount ≤ (profile.classify p.info.tcpFlags).tcpTotalCount :=
      Nat.le_of_add_right_le (kinds.classify p.info.tcpFlags)
    have share : r.synRatio = ((profile.classify p.info.tcpFlags).synOnlyCount : ℚ) /
        (profile.classify p.info.tcpFlags).tcpTotalCount := ratio.trans (if_pos some)
    refine ⟨⟨_, _, if_neg young, if_neg young, rate, share, not_lt.mp young⟩, ?_⟩
    rw [share]
    exact ⟨by positivity, div_le_one_of_le₀ (by exact_mod_cast part) (by positivity)⟩

end PerIpSynProfile

/-- What holds of the SYN-flood rule and the packets of one source. -/
structure SynConserved (cfg : SynFloodConfig) (own : List Timed) : Prop where
  synOnly : Partitions cfg.windowSec ((synRule cfg).evaluations (PerIpSynProfile.synEvaluation cfg) own)
    ((((synRule cfg).own own).map (·.synOnlyCount)).getD 0) (own.map PerIpSynProfile.synWeight).sum
  total : Partitions cfg.windowSec ((synRule cfg).evaluations (PerIpSynProfile.tcpEvaluation cfg) own)
    ((((synRule cfg).own own).map (·.tcpTotalCount)).getD 0) own.length
  lifetime : ∀ profile ∈ (synRule cfg).own own, profile.Lifetime own
  kinds : ∀ profile ∈ (synRule cfg).own own, profile.Kinds
  reports : ∀ p r, (((synRule cfg).own own).getD (.create p.now)).flood cfg p.synPacket = some r →
    (((synRule cfg).own own).getD (.create p.now)).Reports cfg p r

theorem synRule_kinds (cfg : SynFloodConfig) (own : List Timed) (p : Timed) :
    (((synRule cfg).own own).getD (.create p.now)).Kinds := by
  apply (synRule cfg).own_invariant (fun _ profile => profile.Kinds) _ _ own p
  · intro _
    exact Nat.le_refl 0
  · intro _ q _ kinds
    exact kinds.receive q.synPacket

theorem synRule_lifetime (cfg : SynFloodConfig) (own : List Timed) (p : Timed) :
    (((synRule cfg).own own).getD (.create p.now)).Lifetime own := by
  apply (synRule cfg).own_invariant (fun own profile => profile.Lifetime own) _ _ own p
  · intro _
    exact ⟨rfl, rfl⟩
  · intro _ q _ known
    exact known.receive q

theorem synConserved (cfg : SynFloodConfig) (own : List Timed) : SynConserved cfg own where
  synOnly := Partitions.of_law (synRule cfg) _ (·.synOnlyCount) PerIpSynProfile.synWeight (fun _ => rfl)
    (fun _ _ _ => PerIpSynProfile.synEvaluation_aged) PerIpSynProfile.synEvaluation_conserves own
  total := by
    have ones : (own.map fun _ => 1).sum = own.length := by simp
    rw [← ones]
    exact Partitions.of_law (synRule cfg) _ (·.tcpTotalCount) (fun _ => 1) (fun _ => rfl)
      (fun _ _ _ => PerIpSynProfile.tcpEvaluation_aged) PerIpSynProfile.tcpEvaluation_conserves own
  lifetime := Engine.forall_own (synRule_lifetime cfg own)
  kinds := Engine.forall_own (synRule_kinds cfg own)
  reports := by
    intro p r found
    exact (synRule_kinds cfg own p).reports found

/-! ## Brute force and exfiltration -/

namespace RateWindow

/-- A port window is evaluated before the packet is counted. -/
def hitEvaluation (win : RateWindow) (now : TimePoint) : Option Evaluation :=
  if secondsBetween now win.windowStart ≥ 1 then some ⟨win.count, secondsBetween now win.windowStart⟩ else none

/-- A payload is added before its window is evaluated. -/
def addEvaluation (win : RateWindow) (bytes : Nat) (now : TimePoint) : Option Evaluation :=
  if secondsBetween now win.windowStart < 1 then none
  else some ⟨win.count + bytes, secondsBetween now win.windowStart⟩

theorem hit_rate (win : RateWindow) (now : TimePoint) : (win.hit now).1 = (win.hitEvaluation now).map (·.rate) := by
  unfold hit hitEvaluation
  dsimp only
  split <;> rfl

theorem add_rate (win : RateWindow) (bytes : Nat) (now : TimePoint) :
    (win.add bytes now).1 = (win.addEvaluation bytes now).map (·.rate) := by
  unfold add addEvaluation
  dsimp only
  split <;> rfl

theorem hitEvaluation_conserves (win : RateWindow) (now : TimePoint) :
    ((win.hitEvaluation now).map (·.amount)).getD 0 + (win.hit now).2.count = win.count + 1 := by
  unfold hit hitEvaluation
  dsimp only
  split
  · rfl
  · exact Nat.zero_add _

theorem addEvaluation_conserves (win : RateWindow) (bytes : Nat) (now : TimePoint) :
    ((win.addEvaluation bytes now).map (·.amount)).getD 0 + (win.add bytes now).2.count = win.count + bytes := by
  unfold add addEvaluation
  dsimp only
  split
  · exact Nat.zero_add _
  · rfl

theorem hitEvaluation_aged {win : RateWindow} {now : TimePoint} {w : Evaluation} (h : win.hitEvaluation now = some w) :
    1 ≤ w.age := by
  unfold hitEvaluation at h
  split at h
  · cases h
    assumption
  · cases h

theorem addEvaluation_aged {win : RateWindow} {bytes : Nat} {now : TimePoint} {w : Evaluation}
    (h : win.addEvaluation bytes now = some w) : 1 ≤ w.age := Evaluation.aged h

end RateWindow

/-- What holds of the brute-force rule and the packets of one source to one sensitive port. -/
structure HitsConserved (own : List Timed) : Prop where
  packets : Partitions 1 (hitRule.evaluations (fun win p => win.hitEvaluation p.now) own)
    (((hitRule.own own).map (·.count)).getD 0) own.length
  reports : ∀ win p, (hitRule.work win p).1 = (win.hitEvaluation p.now).map (·.rate)

/-- What holds of the exfiltration rule and the packets of one source. -/
structure ExfilConserved (own : List Timed) : Prop where
  bytes : Partitions 1 (exfilRule.evaluations (fun win p => win.addEvaluation p.info.l7PayloadLength p.now) own)
    (((exfilRule.own own).map (·.count)).getD 0) (own.map (·.info.l7PayloadLength)).sum
  reports : ∀ win p, (exfilRule.work win p).1 = (win.addEvaluation p.info.l7PayloadLength p.now).map (·.rate)

theorem hitsConserved (own : List Timed) : HitsConserved own where
  packets := by
    have ones : (own.map fun _ => 1).sum = own.length := by simp
    rw [← ones]
    exact Partitions.of_law hitRule _ (·.count) (fun _ => 1) (fun _ => rfl)
      (fun _ _ _ => RateWindow.hitEvaluation_aged) (fun win p => win.hitEvaluation_conserves p.now) own
  reports win p := win.hit_rate p.now

theorem exfilConserved (own : List Timed) : ExfilConserved own where
  bytes := Partitions.of_law exfilRule _ (·.count) (·.info.l7PayloadLength) (fun _ => rfl)
    (fun _ _ _ => RateWindow.addEvaluation_aged)
    (fun win p => win.addEvaluation_conserves p.info.l7PayloadLength p.now) own
  reports win p := win.add_rate p.info.l7PayloadLength p.now

/-- In every run each rule's entry is the one its own packets lead to, and the windows it evaluated for them,
with the open one, use up what it saw of them. -/
theorem windows_partition (cfg : Config) (packets : List Timed) (src : Octets) :
    ((inspectAll cfg packets).synFlood.lookup src = (synRule cfg.synFlood).own (packets.filter (·.tcpFrom src)) ∧
        SynConserved cfg.synFlood (packets.filter (·.tcpFrom src))) ∧
      (∀ port, ((inspectAll cfg packets).bruteForceState.lookup src).bind (·.portWindows.lookup port) =
          hitRule.own (packets.filter (·.hitsFrom cfg.bruteForce src port)) ∧
        HitsConserved (packets.filter (·.hitsFrom cfg.bruteForce src port))) ∧
      ((inspectAll cfg packets).exfilState.lookup src = exfilRule.own (packets.filter (·.carriesFrom src)) ∧
        ExfilConserved (packets.filter (·.carriesFrom src))) :=
  ⟨⟨synFlood_own cfg src packets, synConserved cfg.synFlood _⟩,
    fun port => ⟨bruteForceState_own cfg src packets port, hitsConserved _⟩,
    ⟨exfilState_own cfg src packets, exfilConserved _⟩⟩

end Nte
