import NetworkThreatEngine.Detect.Averages
import NetworkThreatEngine.Lib.Meters

/-!
# Attacks that go on

Three rules meter the packets of a source and look at the reading when a window is old enough. An attack may begin in a
window that other packets have opened, and this window dilutes it. The next one is all its own.
-/
namespace Nte
open KeyedStore StateRules Meters Windows

theorem secondsBetween_add (a b c : TimePoint) : secondsBetween c a = secondsBetween c b + secondsBetween b a := by
  unfold secondsBetween
  push_cast
  ring

theorem secondsBetween_nonneg {a b : TimePoint} (h : a ≤ b) : 0 ≤ secondsBetween b a := by
  rw [← secondsBetween_self a]
  exact secondsBetween_mono_later h

/-! ## The rules as meters -/

def synMeter (cfg : SynFloodConfig) :
    Meter (synRule cfg) secondsBetween Timed.now (fun p => PerIpSynProfile.synWeight p) cfg.windowSec where
  start profile := profile.windowStart
  amount profile := profile.synOnlyCount
  opening := 0
  young profile p young := by
    have step : ((synRule cfg).work profile p).2 = profile.classify p.synPacket.tcpFlags :=
      congrArg Prod.snd (PerIpSynProfile.inspect_young (p := p.synPacket) young)
    rw [step]
    exact ⟨rfl, Nat.cast_add _ _⟩
  old profile p old := by
    have step : ((synRule cfg).work profile p).2 = profile.rolled p.synPacket :=
      congrArg Prod.snd (PerIpSynProfile.inspect_old (p := p.synPacket) (not_lt.mpr old))
    rw [step]
    exact ⟨rfl, Nat.cast_zero⟩

/-- Among nothing but SYNs all packets of a window are SYNs, if they were or the window is new. -/
theorem synRule_pure {cfg : SynFloodConfig} {profile : PerIpSynProfile} {p : Timed} (only : p.synPacket.synOnly = true)
    (pure : profile.tcpTotalCount = profile.synOnlyCount ∨ (synMeter cfg).Reads profile p) :
    ((synRule cfg).work profile p).2.tcpTotalCount = ((synRule cfg).work profile p).2.synOnlyCount := by
  by_cases young : profile.ageAt p.synPacket < cfg.windowSec
  · have step : ((synRule cfg).work profile p).2 = profile.classify p.synPacket.tcpFlags :=
      congrArg Prod.snd (PerIpSynProfile.inspect_young young)
    rw [step]
    change profile.tcpTotalCount + 1 = profile.synOnlyCount + (if p.synPacket.synOnly = true then 1 else 0)
    rw [if_pos only, pure.resolve_right (not_le.mpr young)]
  · have step : ((synRule cfg).work profile p).2 = profile.rolled p.synPacket :=
      congrArg Prod.snd (PerIpSynProfile.inspect_old young)
    rw [step]
    rfl

/-- A rule that counts hits. -/
def hitsMeter {κ : Type} (m : Engine κ Timed RateWindow (Option ℚ)) (hits : ∀ win p, m.work win p = win.hit p.now) :
    Meter m secondsBetween Timed.now (fun _ => 1) 1 where
  start win := win.windowStart
  amount win := win.count
  opening := 1
  young win p young := by
    have step : (m.work win p).2 = { win with count := win.count + 1 } :=
      (congrArg Prod.snd (hits win p)).trans (congrArg Prod.snd (if_neg (not_le.mpr young)))
    rw [step]
    exact ⟨rfl, Nat.cast_succ _⟩
  old win p old := by
    have step : (m.work win p).2 = ⟨p.now, 1⟩ :=
      (congrArg Prod.snd (hits win p)).trans (congrArg Prod.snd (if_pos old))
    rw [step]
    exact ⟨rfl, Nat.cast_one⟩

def exfilMeter : Meter exfilRule secondsBetween Timed.now (fun p => p.info.l7PayloadLength) 1 where
  start win := win.windowStart
  amount win := win.count
  opening := 0
  young win p young := by
    have step : (exfilRule.work win p).2 = { win with count := win.count + p.info.l7PayloadLength } :=
      congrArg Prod.snd (if_pos young)
    rw [step]
    exact ⟨rfl, Nat.cast_add _ _⟩
  old win p old := by
    have step : (exfilRule.work win p).2 = ⟨p.now, 0⟩ := congrArg Prod.snd (if_neg (not_lt.mpr old))
    rw [step]
    exact ⟨rfl, Nat.cast_zero⟩

/-! ## What goes on long enough is read -/

/-- What a rule meters of a run, and what it looks for. -/
structure Metered where
  reached : Timed → Bool
  weight : Timed → ℚ
  age : ℚ
  rate : ℚ

/-- The packets keep up the rate from one to the next, for the length of two windows. -/
structure Metered.GoesOn (r : Metered) (attack : List Timed) : Prop where
  paced : (attack.filter r.reached).IsChain fun p q => r.rate * secondsBetween q.now p.now ≤ r.weight q
  long : ∃ early mid late, attack.filter r.reached = early ++ mid :: late ∧
    (∃ first ∈ early, r.age ≤ secondsBetween mid.now first.now) ∧ ∃ last ∈ late, r.age ≤ secondsBetween last.now mid.now

section Readings
variable {κ ε ρ : Type} {m : Engine κ Timed ε ρ} {r : Metered} {attack : List Timed}

theorem Metered.GoesOn.read (h : r.GoesOn attack) (M : Meter m secondsBetween Timed.now r.weight r.age) (good : ε → Prop)
    (past : List Timed) (kept : ∀ e, ∀ p ∈ attack.filter r.reached, good e ∨ M.Reads e p → good (m.work e p).2)
    (begun : ∀ p ∈ attack, M.start ((m.own past).getD (m.create p)) ≤ p.now)
    (steady : attack.Pairwise fun p q => p.now ≤ q.now) :
    ∃ front p back e, attack = front ++ p :: back ∧ r.reached p = true ∧
      (m.own (past ++ front.filter r.reached)).getD (m.create p) = e ∧ r.age ≤ secondsBetween p.now (M.start e) ∧
        good e ∧ r.rate * secondsBetween p.now (M.start e) ≤ M.reading e p := by
  obtain ⟨early, mid, late, own, ⟨first, mem, aged⟩, long⟩ := h.long
  have paced := h.paced
  have ordered := steady.filter r.reached
  rw [own] at kept paced ordered
  have earlier := (List.pairwise_append.mp ordered).2.2
  have reads : ∃ p ∈ (early ++ mid :: late).head?, M.Reads ((m.own past).getD (m.create p)) mid := by
    obtain ⟨p, early, rfl⟩ := List.exists_cons_of_ne_nil (List.ne_nil_of_mem mem)
    have begins : p ∈ attack.filter r.reached := by
      rw [own]
      exact List.mem_cons_self
    have oldest : p.now ≤ first.now := by
      rcases List.mem_cons.mp mem with rfl | later
      · exact le_refl _
      · exact (List.pairwise_cons.mp ordered).1 first (List.mem_append_left _ later)
    refine ⟨p, rfl, aged.trans (secondsBetween_mono ?_)⟩
    exact (begun p (List.mem_of_mem_filter begins)).trans oldest
  obtain ⟨front, p, back, e, split, found, read⟩ := M.exists_reading secondsBetween_add paced kept
    (fun q mem => secondsBetween_nonneg (earlier q mem mid List.mem_cons_self)) reads long
  rw [← own] at split
  obtain ⟨front, back, rfl, rfl, reached⟩ := exists_of_filter split
  exact ⟨front, p, back, e, rfl, reached, found, read⟩

/-- The same after packets of which the rule has counted all that reached it. -/
theorem Metered.GoesOn.read_after (h : r.GoesOn attack) (M : Meter m secondsBetween Timed.now r.weight r.age)
    (good : ε → Prop) (before : List Timed)
    (kept : ∀ e, ∀ p ∈ attack.filter r.reached, good e ∨ M.Reads e p → good (m.work e p).2)
    (begun : ∀ p ∈ attack, M.start ((m.own (before.filter r.reached)).getD (m.create p)) ≤ p.now)
    (steady : attack.Pairwise fun p q => p.now ≤ q.now) :
    ∃ front p back e, attack = front ++ p :: back ∧ r.reached p = true ∧
      (m.own ((before ++ front).filter r.reached)).getD (m.create p) = e ∧ r.age ≤ secondsBetween p.now (M.start e) ∧
        good e ∧ r.rate * secondsBetween p.now (M.start e) ≤ M.reading e p := by
  obtain ⟨front, p, back, e, split, reached, found, read⟩ := h.read M good (before.filter r.reached) kept begun steady
  rw [← List.filter_append] at found
  exact ⟨front, p, back, e, split, reached, found, read⟩

end Readings

/-- The window a packet finds was not opened after the packet. -/
theorem Found.start_le {weight : Timed → Nat} {own : List Timed} {p : Timed} {start : TimePoint} {amount : Nat}
    (h : Found weight own p start amount) (past : ∀ q ∈ own, q.now ≤ p.now) (clock : 0 ≤ p.now) : start ≤ p.now := by
  obtain ⟨earlier, recent, rfl, -, first | last | ⟨-, origin⟩⟩ := h
  · obtain ⟨q, head, rfl⟩ := Option.map_eq_some_iff.mp first
    rcases List.mem_append.mp (List.mem_of_mem_head? head) with mem | mem
    · exact past q (List.mem_append_right _ mem)
    · rw [List.mem_singleton.mp mem]
  · obtain ⟨q, found, rfl⟩ := Option.map_eq_some_iff.mp last
    exact past q (List.mem_append_left _ (List.mem_of_getLast? found))
  · cases origin
    exact clock

/-! ## The attacks -/

/-- What a source may do again and again. -/
inductive Attack where
  | synFlood
  | bruteForce (port : UInt16)
  | txtFlood
  | exfiltration

namespace Attack

def type : Attack → AttackType
  | .synFlood => .SYN_FLOOD
  | .bruteForce _ => .BRUTE_FORCE
  | .txtFlood => .DNS_TUNNELING
  | .exfiltration => .DATA_EXFILTRATION

def metered (cfg : Config) (src : Octets) : Attack → Metered
  | .synFlood => ⟨(·.tcpFrom src), fun p => PerIpSynProfile.synWeight p, cfg.synFlood.windowSec, cfg.synFlood.synRatePps⟩
  | .bruteForce port => ⟨(·.hitsFrom cfg.bruteForce src port), fun _ => 1, 1, cfg.bruteForce.ratePps⟩
  | .txtFlood => ⟨(·.asksTxt src), fun _ => 1, 1, cfg.dnsTunneling.txtRatePps⟩
  | .exfiltration => ⟨(·.carriesFrom src), fun p => p.info.l7PayloadLength, 1, ThreatDetector.exfilMedium⟩

/-- A flood of nothing but SYNs, or of TXT queries with short names. A long name is looked at for itself. -/
def Pure (cfg : Config) (src : Octets) (attack : List Timed) : Attack → Prop
  | .synFlood => 0 < cfg.synFlood.windowSec ∧ cfg.synFlood.synRatio ≤ 1 ∧
      ∀ p ∈ attack.filter (·.tcpFrom src), p.synPacket.synOnly = true
  | .txtFlood => ∀ p ∈ attack.filter (·.asksTxt src), Measurement.longTxt cfg p.info = false
  | _ => True

/-- The attack goes on for two windows, after anything. -/
structure Sustained (cfg : Config) (a : Attack) (src : Octets) (before attack : List Timed) : Prop where
  goesOn : (a.metered cfg src).GoesOn attack
  pure : a.Pure cfg src attack
  steady : (before ++ attack).Pairwise fun p q => p.now ≤ q.now
  clock : ∀ p ∈ attack, 0 ≤ p.now

end Attack

namespace ThreatDetector
variable {cfg : Config} {before : List Timed} {p : Timed}

theorem synFlood_detectedAt {profile : PerIpSynProfile} (reached : p.tcpFrom p.info.srcIp = true)
    (found : ((synRule cfg.synFlood).own (before.filter (·.tcpFrom p.info.srcIp))).getD (.create p.now) = profile)
    (positive : 0 < cfg.synFlood.windowSec) (old : cfg.synFlood.windowSec ≤ profile.ageAt p.synPacket)
    (pure : profile.tcpTotalCount = profile.synOnlyCount) (only : p.synPacket.synOnly = true)
    (ratio : cfg.synFlood.synRatio ≤ 1)
    (fast : cfg.synFlood.synRatePps * profile.ageAt p.synPacket ≤ profile.synOnlyCount + 1) :
    DetectedAt (inspectAll cfg before) p p.info.srcIp .SYN_FLOOD := by
  obtain ⟨tcp, -⟩ := Bool.and_eq_true_iff.mp reached
  obtain ⟨looked, tcp⟩ := Bool.and_eq_true_iff.mp tcp
  have count : (profile.classify p.synPacket.tcpFlags).synOnlyCount = profile.synOnlyCount + 1 := by
    change profile.synOnlyCount + (if p.synPacket.synOnly = true then 1 else 0) = _
    rw [if_pos only]
  have total : (profile.classify p.synPacket.tcpFlags).tcpTotalCount = profile.synOnlyCount + 1 :=
    congrArg (· + 1) pure
  have aged : 0 < profile.ageAt p.synPacket := positive.trans_le old
  have judged : ((profile.inspect cfg.synFlood p.synPacket.tcpFlags p.synPacket.now).1).isSome := by
    rw [PerIpSynProfile.inspect_old (not_lt.mpr old), PerIpSynProfile.judge_isSome, count, total,
      PerIpSynProfile.share, if_pos (Nat.succ_pos _), div_self (Nat.cast_ne_zero.mpr (Nat.succ_ne_zero _))]
    refine ⟨(le_div_iff₀ aged).mpr ?_, ratio⟩
    push_cast
    exact fast
  obtain ⟨r, judged⟩ := Option.isSome_iff_exists.mp judged
  refine ⟨looked, synFloodAlert cfg p.info r, ?_, rfl, rfl⟩
  have detected : synFloodDetection p.info p.now (inspectAll cfg before) = some (synFloodAlert cfg p.info r) := by
    rw [synFloodDetection, if_pos (beq_iff_eq.mp tcp), inspectSynFlood_own, found, inspectAll_config]
    change ((profile.inspect cfg.synFlood p.synPacket.tcpFlags p.synPacket.now).1).map _ = _
    rw [judged]
    rfl
  simp [detections, detected]

/-- A reading that keeps up the rate is not below it. -/
theorem filter_reading {least amount span : ℚ} (old : 1 ≤ span) (fast : least * span ≤ amount) :
    (some (amount / span)).filter (· ≥ least) = some (amount / span) := by
  have enough : least ≤ amount / span := (le_div_iff₀ (one_pos.trans_le old)).mpr fast
  exact Option.filter_some_pos (by simpa using enough)

theorem bruteForce_detectedAt {win : RateWindow} (reached : p.hitsFrom cfg.bruteForce p.info.srcIp p.info.dstPort = true)
    (found : (hitRule.own (before.filter (·.hitsFrom cfg.bruteForce p.info.srcIp p.info.dstPort))).getD ⟨p.now, 0⟩ = win)
    (old : 1 ≤ secondsBetween p.now win.windowStart)
    (fast : cfg.bruteForce.ratePps * secondsBetween p.now win.windowStart ≤ win.count) :
    DetectedAt (inspectAll cfg before) p p.info.srcIp .BRUTE_FORCE := by
  obtain ⟨sensitive, -⟩ := Bool.and_eq_true_iff.mp reached
  obtain ⟨sensitive, -⟩ := Bool.and_eq_true_iff.mp sensitive
  obtain ⟨looked, watched⟩ := Bool.and_eq_true_iff.mp sensitive
  obtain ⟨port, watched⟩ := Bool.and_eq_true_iff.mp watched
  have hit : (hitRule.work win p).1 = some (win.count / secondsBetween p.now win.windowStart) :=
    congrArg Prod.fst (if_pos old)
  have detected : bruteForceDetection p.info p.now (inspectAll cfg before) =
      some (bruteForceAlert cfg p.info (win.count / secondsBetween p.now win.windowStart)) := by
    rw [bruteForceDetection, inspectAll_config, if_pos ⟨bne_iff_ne.mp port, watched⟩, hitPortWindow_own, found, hit,
      filter_reading old fast]
    rfl
  refine ⟨looked, bruteForceAlert cfg p.info (win.count / secondsBetween p.now win.windowStart), ?_, rfl, rfl⟩
  simp [detections, detected]

/-- A TXT query with a short name leaves it to the rate. -/
theorem dnsDetection_short {d : ThreatDetector} (query : Measurement.txt p.info = true)
    (short : Measurement.longTxt d.config p.info = false) :
    dnsDetection p.info p.now d = ((result (hitTxtWindow p.info.srcIp p.now) d).filter
      (· ≥ d.config.dnsTunneling.txtRatePps)).map (txtRateAlert d.config p.info) := by
  obtain ⟨dns, here, txt⟩ := (Option.any_eq_true _ _).mp query
  have name : longName d.config.dnsTunneling dns.queryName = false := by
    simpa [Measurement.longTxt, here, txt] using short
  have none : longNameDetection p.info d = none := by
    rw [longNameDetection, here, Option.filter_some_neg (by simp [name])]
    rfl
  have rate : txtRateDetection p.info p.now d = ((result (hitTxtWindow p.info.srcIp p.now) d).filter
      (· ≥ d.config.dnsTunneling.txtRatePps)).map (txtRateAlert d.config p.info) := by
    rw [txtRateDetection, if_pos ⟨query, by simp [none]⟩]
  rw [dnsDetection, none, Option.none_or, rate, ite_self]

/-- TXT queries with short names are all counted, whatever was counted of those before. -/
theorem dnsTxtState_short (cfg : Config) (src : Octets) (before attack : List Timed)
    (short : ∀ p ∈ attack.filter (·.asksTxt src), Measurement.longTxt cfg p.info = false) :
    ∃ own, own.Sublist (before.filter (·.asksTxt src)) ∧ ∀ front, front <+: attack →
      (inspectAll cfg (before ++ front)).dnsTxtState.lookup src = txtRule.own (own ++ front.filter (·.asksTxt src)) := by
  obtain ⟨own, asked, seen⟩ := dnsTxtState_own cfg before src
  refine ⟨own, asked, ?_⟩
  intro front part
  induction front using List.reverseRecOn with
  | nil => rwa [List.append_nil, List.filter_nil, List.append_nil]
  | append_singleton front p ih =>
      have entry := dnsTxtState_entry src (inspectAll cfg (before ++ front)) p
      rw [ih ((List.prefix_append _ _).trans part), inspectAll_config] at entry
      rw [← List.append_assoc, inspectAll_snoc, entry, List.filter_append, ← List.append_assoc]
      by_cases query : p.asksTxt src = true
      · have name := short p (List.mem_filter.mpr ⟨part.subset (by simp), query⟩)
        rw [if_pos (by simpa [Timed.asksTxt, Measurement.countsTxt, name] using query), List.filter_cons_of_pos query,
          List.filter_nil, Engine.own_snoc]
        rfl
      · have skipped : ¬ (Measurement.inspected p.info && Measurement.countsTxt cfg p.info
            ((inspectAll cfg (before ++ front)).isSuppressed p.info.srcIp .DNS_TUNNELING p.now) && p.comesFrom src) =
              true := by
          intro counted
          simp only [Measurement.countsTxt, Bool.and_eq_true] at counted
          exact query (by rw [Timed.asksTxt, counted.1.1, counted.1.2.1, counted.2]; rfl)
        rw [if_neg skipped, List.filter_cons_of_neg query, List.filter_nil, List.append_nil]

theorem txt_detectedAt {win : RateWindow} (query : p.asksTxt p.info.srcIp = true)
    (short : Measurement.longTxt cfg p.info = false)
    (found : ((inspectAll cfg before).dnsTxtState.lookup p.info.srcIp).getD ⟨0, 0⟩ = win)
    (old : 1 ≤ secondsBetween p.now win.windowStart)
    (fast : cfg.dnsTunneling.txtRatePps * secondsBetween p.now win.windowStart ≤ win.count) :
    DetectedAt (inspectAll cfg before) p p.info.srcIp .DNS_TUNNELING := by
  obtain ⟨query, -⟩ := Bool.and_eq_true_iff.mp query
  obtain ⟨looked, query⟩ := Bool.and_eq_true_iff.mp query
  have hit : result (hitTxtWindow p.info.srcIp p.now) (inspectAll cfg before) =
      some (win.count / secondsBetween p.now win.windowStart) := by
    rw [hitTxtWindow, result_onEntry]
    change ((((inspectAll cfg before).dnsTxtState.lookup p.info.srcIp).getD ⟨0, 0⟩).hit p.now).1 = _
    rw [found]
    exact congrArg Prod.fst (if_pos old)
  have detected : dnsDetection p.info p.now (inspectAll cfg before) =
      some (txtRateAlert cfg p.info (win.count / secondsBetween p.now win.windowStart)) := by
    rw [dnsDetection_short query (by rwa [inspectAll_config]), inspectAll_config, hit,
      filter_reading old fast]
    rfl
  refine ⟨looked, txtRateAlert cfg p.info (win.count / secondsBetween p.now win.windowStart), ?_, rfl, rfl⟩
  simp [detections, detected]

theorem exfil_detectedAt {win : RateWindow} (reached : p.carriesFrom p.info.srcIp = true)
    (found : (exfilRule.own (before.filter (·.carriesFrom p.info.srcIp))).getD ⟨0, 0⟩ = win)
    (old : 1 ≤ secondsBetween p.now win.windowStart)
    (fast : exfilMedium * secondsBetween p.now win.windowStart ≤ (win.count + p.info.l7PayloadLength : Nat)) :
    DetectedAt (inspectAll cfg before) p p.info.srcIp .DATA_EXFILTRATION := by
  obtain ⟨carrying, -⟩ := Bool.and_eq_true_iff.mp reached
  obtain ⟨looked, carrying⟩ := Bool.and_eq_true_iff.mp carrying
  have read : (exfilRule.work win p).1 =
      some ((win.count + p.info.l7PayloadLength : Nat) / secondsBetween p.now win.windowStart) :=
    congrArg Prod.fst (if_neg (not_lt.mpr old))
  have detected : exfilDetection p.info p.now (inspectAll cfg before) =
      some (exfilAlert p.info ((win.count + p.info.l7PayloadLength : Nat) / secondsBetween p.now win.windowStart)) := by
    rw [exfilDetection, if_pos (of_decide_eq_true carrying), addExfil_own, found, read,
      filter_reading old fast]
    rfl
  refine ⟨looked, exfilAlert p.info ((win.count + p.info.l7PayloadLength : Nat) / secondsBetween p.now win.windowStart),
    ?_, rfl, rfl⟩
  simp [detections, detected]

end ThreatDetector

/-- Whatever the source sent before. -/
theorem Attack.Sustained.detected {cfg : Config} {a : Attack} {src : Octets} {before attack : List Timed}
    (h : a.Sustained cfg src before attack) :
    ∃ front p back, attack = front ++ p :: back ∧
      (ThreatDetector.inspectAll cfg (before ++ front)).DetectedAt p src a.type := by
  obtain ⟨-, ordered, past⟩ := List.pairwise_append.mp h.steady
  have earlier {reached : Timed → Bool} {p : Timed} (mem : p ∈ attack) : ∀ q ∈ before.filter reached, q.now ≤ p.now :=
    fun q own => past q (List.mem_of_mem_filter own) p mem
  cases a with
  | synFlood =>
      obtain ⟨positive, ratio, only⟩ := h.pure
      obtain ⟨front, p, back, profile, rfl, reached, found, old, pure, fast⟩ := h.goesOn.read_after (synMeter cfg.synFlood)
        (fun profile => profile.tcpTotalCount = profile.synOnlyCount) before
        (fun profile p mem => synRule_pure (only p mem))
        (fun p mem => (syn_found _ p cfg.synFlood).start_le (earlier mem) (h.clock p mem)) ordered
      obtain rfl : p.info.srcIp = src := of_decide_eq_true (Bool.and_eq_true_iff.mp reached).2
      have syn : p.synPacket.synOnly = true := only p (List.mem_filter.mpr ⟨by simp, reached⟩)
      refine ⟨front, p, back, rfl, ThreatDetector.synFlood_detectedAt reached found positive old pure syn ratio ?_⟩
      have weight : PerIpSynProfile.synWeight p = 1 := if_pos syn
      have reading : (synMeter cfg.synFlood).reading profile p = profile.synOnlyCount + 1 := by
        change (profile.synOnlyCount : ℚ) + (PerIpSynProfile.synWeight p : ℚ) - 0 = _
        rw [weight, Nat.cast_one, sub_zero]
      exact fast.trans_eq reading
  | bruteForce port =>
      obtain ⟨front, p, back, win, rfl, reached, found, old, -, fast⟩ := h.goesOn.read_after
        (hitsMeter hitRule fun _ _ => rfl) (fun _ => True) before
        (fun _ _ _ _ => trivial) (fun p mem => (hit_found _ p).start_le (earlier mem) (h.clock p mem)) ordered
      obtain ⟨sensitive, same⟩ := Bool.and_eq_true_iff.mp reached
      obtain rfl : p.info.srcIp = src := of_decide_eq_true (Bool.and_eq_true_iff.mp sensitive).2
      obtain rfl : p.info.dstPort = port := of_decide_eq_true same
      exact ⟨front, p, back, rfl, ThreatDetector.bruteForce_detectedAt reached found old
        (fast.trans_eq (add_sub_cancel_right _ _))⟩
  | txtFlood =>
      obtain ⟨own, asked, counted⟩ := ThreatDetector.dnsTxtState_short cfg src before attack h.pure
      obtain ⟨front, p, back, win, rfl, query, found, old, -, fast⟩ := h.goesOn.read
        (hitsMeter txtRule fun _ _ => rfl) (fun _ => True) own (fun _ _ _ _ => trivial)
        (fun p mem => (txt_found _ p).start_le (fun q seen => earlier mem q (asked.subset seen)) (h.clock p mem)) ordered
      have short := h.pure p (List.mem_filter.mpr ⟨by simp, query⟩)
      obtain rfl : p.info.srcIp = src := of_decide_eq_true (Bool.and_eq_true_iff.mp query).2
      refine ⟨front, p, back, rfl, ThreatDetector.txt_detectedAt query short ?_ old (fast.trans_eq (add_sub_cancel_right _ _))⟩
      rw [counted front (List.prefix_append _ _)]
      exact found
  | exfiltration =>
      obtain ⟨front, p, back, win, rfl, reached, found, old, -, fast⟩ := h.goesOn.read_after exfilMeter (fun _ => True) before
        (fun _ _ _ _ => trivial) (fun p mem => (exfil_found _ p).start_le (earlier mem) (h.clock p mem)) ordered
      obtain rfl : p.info.srcIp = src := of_decide_eq_true (Bool.and_eq_true_iff.mp reached).2
      refine ⟨front, p, back, rfl, ThreatDetector.exfil_detectedAt reached found old (fast.trans_eq ?_)⟩
      change (win.count : ℚ) + (p.info.l7PayloadLength : ℚ) - 0 = _
      rw [sub_zero, Nat.cast_add]

end Nte
