import NetworkThreatEngine.Detect.Attempts

/-!
# The suppression contract

Over whole runs: alerts of one source and type keep their distance, a detection is withheld
only close behind such an alert, and the counter counts what was handed on.
-/
namespace Nte
open StateRules

namespace ThreatDetector

/-! ## What an inspection can do to the alerts -/

/-- The two detectors agree on everything alerts depend on, stores apart. -/
structure SameAlerts (d e : ThreatDetector) : Prop where
  config : e.config = d.config
  suppression : e.suppression = d.suppression
  total : e.totalAlertsFired = d.totalAlertsFired
  delivered : e.delivered = d.delivered

/-- Writing the store leaves the alerts alone. -/
def Field.Quiet {ε : Type} (field : Field ε) : Prop := ∀ d store, SameAlerts d (field.write d store)

theorem ewmaField_quiet : ewmaField.Quiet := fun _ _ => ⟨rfl, rfl, rfl, rfl⟩
theorem synFloodField_quiet : synFloodField.Quiet := fun _ _ => ⟨rfl, rfl, rfl, rfl⟩
theorem portScanField_quiet : portScanField.Quiet := fun _ _ => ⟨rfl, rfl, rfl, rfl⟩
theorem bruteForceField_quiet : bruteForceField.Quiet := fun _ _ => ⟨rfl, rfl, rfl, rfl⟩
theorem dnsTxtField_quiet : dnsTxtField.Quiet := fun _ _ => ⟨rfl, rfl, rfl, rfl⟩
theorem exfilField_quiet : exfilField.Quiet := fun _ _ => ⟨rfl, rfl, rfl, rfl⟩

theorem SameAlerts.lastFired {d e : ThreatDetector} (h : SameAlerts d e) (src : Octets) (type : AttackType) :
    e.lastFired src type = d.lastFired src type := by
  rw [ThreatDetector.lastFired, h.suppression, ThreatDetector.lastFired]

theorem SameAlerts.isSuppressed {d e : ThreatDetector} (h : SameAlerts d e) (src : Octets)
    (type : AttackType) (now : TimePoint) : e.isSuppressed src type now = d.isSuppressed src type now := by
  rw [isSuppressed_eq, isSuppressed_eq, h.lastFired, h.config]

section Keeps
variable {R : ThreatDetector → ThreatDetector → Prop} {now : TimePoint}

/-- A stage keeps what quiet changes and unsuppressed alerts keep. -/
theorem Attempts.keeps (trans : ∀ {d e f}, R d e → R e f → R d f)
    (quiet : ∀ d e, SameAlerts d e → R d e)
    (fires : ∀ d alert, d.isSuppressed alert.srcIp alert.attackType now = false → R d (d.fired alert now))
    {ε : Type} {field : Field ε} (hquiet : field.Quiet) {detect : ThreatDetector → Option ThreatAlert}
    {x : StateM ThreatDetector Unit} (hx : Attempts field detect now x) : Keeps R x := by
  intro d
  obtain ⟨store, hstore⟩ := hx d
  rw [hstore]
  refine trans (quiet d _ (hquiet d store)) ?_
  cases detect d with
  | none => exact quiet _ _ ⟨rfl, rfl, rfl, rfl⟩
  | some alert =>
      rw [attempt]
      split
      · exact quiet _ _ ⟨rfl, rfl, rfl, rfl⟩
      · exact fires _ _ (Bool.not_eq_true _ ▸ ‹_›)

theorem inspect_keeps (trans : ∀ {d e f}, R d e → R e f → R d f)
    (quiet : ∀ d e, SameAlerts d e → R d e)
    (fires : ∀ d alert, d.isSuppressed alert.srcIp alert.attackType now = false → R d (d.fired alert now))
    (info : PacketInfo) : Keeps R (inspect info now) := by
  refine Keeps.ite (fun d => quiet d d ⟨rfl, rfl, rfl, rfl⟩) ?_
  have volume : Keeps R (inspectVolume info now) :=
    Attempts.keeps (R := R) trans quiet fires ewmaField_quiet (inspectVolume_attempts info now)
  have syn : Keeps R (inspectSyn info now) :=
    Attempts.keeps (R := R) trans quiet fires synFloodField_quiet (inspectSyn_attempts info now)
  have scan : Keeps R (inspectScan info now) :=
    Attempts.keeps (R := R) trans quiet fires portScanField_quiet (inspectScan_attempts info now)
  have brute : Keeps R (inspectBruteForce info now) :=
    Attempts.keeps (R := R) trans quiet fires bruteForceField_quiet (inspectBruteForce_attempts info now)
  have dns : Keeps R (inspectDns info now) :=
    Attempts.keeps (R := R) trans quiet fires dnsTxtField_quiet (inspectDns_attempts info now)
  have exfil : Keeps R (inspectExfil info now) :=
    Attempts.keeps (R := R) trans quiet fires exfilField_quiet (inspectExfil_attempts info now)
  exact volume.bind trans fun _ => syn.bind trans fun _ => scan.bind trans fun _ =>
    brute.bind trans fun _ => dns.bind trans fun _ => exfil

end Keeps

/-! ## The suppression table is the history -/

/-- The table holds the time of the last alert of every source and type; the counter counts. -/
structure Recorded (d : ThreatDetector) : Prop where
  last : ∀ src type, d.lastFired src type =
    (d.delivered.filter fun f => f.alert.srcIp = src ∧ f.alert.attackType = type).getLast?.map Fired.at_
  total : d.totalAlertsFired = UInt64.ofNat d.delivered.length

theorem Recorded.sameAlerts {d e : ThreatDetector} (hd : d.Recorded) (h : SameAlerts d e) : e.Recorded where
  last := by
    intro src type
    rw [h.lastFired, h.delivered]
    exact hd.last src type
  total := by rw [h.total, h.delivered, hd.total]

theorem Recorded.fired {d : ThreatDetector} (hd : d.Recorded) (alert : ThreatAlert) (now : TimePoint) :
    (d.fired alert now).Recorded where
  last := by
    intro src type
    have hdel : (d.fired alert now).delivered = d.delivered ++ [⟨alert, now⟩] := rfl
    rw [lastFired_fired, hdel, List.filter_append]
    by_cases key : src = alert.srcIp ∧ type = alert.attackType
    · rw [if_pos key, List.filter_cons_of_pos (by simp [key.1, key.2]), List.filter_nil,
        List.getLast?_concat]
      rfl
    · rw [if_neg key, List.filter_cons_of_neg, List.filter_nil, List.append_nil]
      · exact hd.last src type
      · simp only [decide_eq_true_eq]
        exact fun h => key ⟨h.1.symm, h.2.symm⟩
  total := by
    have hdel : (d.fired alert now).delivered = d.delivered ++ [⟨alert, now⟩] := rfl
    have htotal : (d.fired alert now).totalAlertsFired = d.totalAlertsFired + 1 := rfl
    rw [htotal, hdel, hd.total, List.length_append, UInt64.ofNat_add]
    rfl

theorem inspectAll_recorded (cfg : Config) (packets : List Timed) : (inspectAll cfg packets).Recorded := by
  refine runAll_invariant Recorded (fun p d hd => ?_) packets ⟨fun _ _ => rfl, rfl⟩
  exact inspect_keeps (R := fun d e => d.Recorded → e.Recorded) (fun h₁ h₂ hd => h₂ (h₁ hd))
    (fun _ _ h hd => hd.sameAlerts h) (fun _ alert _ hd => hd.fired alert p.now) p.info d hd

theorem inspect_config (info : PacketInfo) (now : TimePoint) (d : ThreatDetector) :
    (after (inspect info now) d).config = d.config :=
  inspect_keeps (R := fun d e => e.config = d.config) (fun h₁ h₂ => h₂.trans h₁) (fun _ _ h => h.config)
    (fun _ _ _ => rfl) info d

/-- A suppressed alert has a predecessor that is too recent. -/
theorem Recorded.exists_recent {d : ThreatDetector} (hd : d.Recorded) {src : Octets} {type : AttackType}
    {now : TimePoint} (h : d.isSuppressed src type now = true) :
    ∃ f ∈ d.delivered, f.alert.srcIp = src ∧ f.alert.attackType = type ∧
      secondsBetween now f.at_ < d.config.delivery.alertSuppressionSec := by
  rw [isSuppressed_eq, hd.last src type, Option.any_map] at h
  obtain ⟨f, hf, hrecent⟩ := (Option.any_eq_true _ _).mp h
  obtain ⟨hmem, hkey⟩ := List.mem_filter.mp (List.mem_of_getLast? hf)
  simp only [decide_eq_true_eq] at hkey
  exact ⟨f, hmem, hkey.1, hkey.2, by simpa using hrecent⟩

/-! ## Spacing -/

/-- Alerts of one source and type are at least the configured interval apart. -/
def Spaced (d : ThreatDetector) : Prop :=
  d.delivered.Pairwise fun f g => f.alert.srcIp = g.alert.srcIp → f.alert.attackType = g.alert.attackType →
    d.config.delivery.alertSuppressionSec ≤ secondsBetween g.at_ f.at_

/-- The history of a run whose inspections took place in order, up to `clock`. -/
structure Paced (clock : TimePoint) (d : ThreatDetector) : Prop extends d.Recorded where
  past : ∀ f ∈ d.delivered, f.at_ ≤ clock
  ordered : d.delivered.Pairwise fun f g => f.at_ ≤ g.at_
  spaced : d.Spaced

theorem Paced.advance {clock now : TimePoint} {d : ThreatDetector} (hd : d.Paced clock) (h : clock ≤ now) :
    d.Paced now :=
  { hd with past := fun f hf => (hd.past f hf).trans h }

theorem Paced.sameAlerts {clock : TimePoint} {d e : ThreatDetector} (hd : d.Paced clock)
    (h : SameAlerts d e) : e.Paced clock where
  toRecorded := hd.toRecorded.sameAlerts h
  past := by
    rw [h.delivered]
    exact hd.past
  ordered := by
    rw [h.delivered]
    exact hd.ordered
  spaced := by
    rw [Spaced, h.delivered, h.config]
    exact hd.spaced

theorem le_getLast {l : List Fired} (ordered : l.Pairwise fun f g => f.at_ ≤ g.at_) {f g : Fired}
    (hf : f ∈ l) (hg : l.getLast? = some g) : f.at_ ≤ g.at_ := by
  obtain ⟨front, rfl⟩ := List.getLast?_eq_some_iff.mp hg
  rcases List.mem_append.mp hf with hfront | hlast
  · exact (List.pairwise_append.mp ordered).2.2 f hfront g (List.mem_singleton_self g)
  · rw [List.mem_singleton.mp hlast]

/-- An alert that is not suppressed keeps its distance from every earlier one of its kind. -/
theorem Paced.distance {now : TimePoint} {d : ThreatDetector} (hd : d.Paced now) {alert : ThreatAlert}
    (free : d.isSuppressed alert.srcIp alert.attackType now = false) {f : Fired} (hf : f ∈ d.delivered)
    (hsrc : f.alert.srcIp = alert.srcIp) (htype : f.alert.attackType = alert.attackType) :
    d.config.delivery.alertSuppressionSec ≤ secondsBetween now f.at_ := by
  have hmem : f ∈ d.delivered.filter fun g =>
      g.alert.srcIp = alert.srcIp ∧ g.alert.attackType = alert.attackType :=
    List.mem_filter.mpr ⟨hf, by simp [hsrc, htype]⟩
  obtain ⟨last, hlast⟩ := Option.ne_none_iff_exists'.mp
    (fun hnone => List.ne_nil_of_mem hmem (List.getLast?_eq_none_iff.mp hnone))
  rw [isSuppressed_eq, hd.last, hlast] at free
  have far : d.config.delivery.alertSuppressionSec ≤ secondsBetween now last.at_ := by simpa using free
  exact far.trans (secondsBetween_mono (le_getLast (hd.ordered.filter _) hmem hlast))

theorem Paced.fired {now : TimePoint} {d : ThreatDetector} (hd : d.Paced now) (alert : ThreatAlert)
    (free : d.isSuppressed alert.srcIp alert.attackType now = false) : (d.fired alert now).Paced now where
  toRecorded := hd.toRecorded.fired alert now
  past := by
    intro f hf
    rcases List.mem_append.mp hf with hf | hf
    · exact hd.past f hf
    · rw [List.mem_singleton.mp hf]
  ordered := by
    refine List.pairwise_append.mpr ⟨hd.ordered, List.pairwise_singleton _ _, ?_⟩
    intro f hf g hg
    rw [List.mem_singleton.mp hg]
    exact hd.past f hf
  spaced := by
    refine List.pairwise_append.mpr ⟨hd.spaced, List.pairwise_singleton _ _, ?_⟩
    intro f hf g hg hsrc htype
    rw [List.mem_singleton.mp hg] at hsrc htype ⊢
    exact hd.distance free hf hsrc htype

theorem inspect_paced {now : TimePoint} {d : ThreatDetector} (hd : d.Paced now) (info : PacketInfo) :
    (after (inspect info now) d).Paced now :=
  inspect_keeps (R := fun d e => d.Paced now → e.Paced now) (fun h₁ h₂ hd => h₂ (h₁ hd))
    (fun _ _ h hd => hd.sameAlerts h) (fun _ alert free hd => hd.fired alert free) info d hd

theorem runAll_paced {packets : List Timed} (ordered : packets.Pairwise fun p q => p.now ≤ q.now)
    {clock : TimePoint} {d : ThreatDetector} (hd : d.Paced clock) (start : ∀ p ∈ packets, clock ≤ p.now) :
    ∃ clock', (runAll (fun p : Timed => inspect p.info p.now) d packets).Paced clock' := by
  induction packets generalizing clock d with
  | nil => exact ⟨clock, hd⟩
  | cons p packets ih =>
      rw [List.pairwise_cons] at ordered
      exact ih ordered.2 (inspect_paced (hd.advance (start p List.mem_cons_self)) p.info) ordered.1

theorem inspectAll_spaced (cfg : Config) {packets : List Timed}
    (ordered : packets.Pairwise fun p q => p.now ≤ q.now) : (inspectAll cfg packets).Spaced := by
  cases packets with
  | nil => exact List.Pairwise.nil
  | cons p packets =>
      have fresh : ({ config := cfg } : ThreatDetector).Paced p.now :=
        ⟨⟨fun _ _ => rfl, rfl⟩, fun _ hf => absurd hf List.not_mem_nil, List.Pairwise.nil, List.Pairwise.nil⟩
      have start : ∀ q ∈ p :: packets, p.now ≤ q.now := by
        intro q hq
        rcases List.mem_cons.mp hq with rfl | hq
        · exact le_rfl
        · exact (List.pairwise_cons.mp ordered).1 q hq
      obtain ⟨clock, hpaced⟩ := runAll_paced ordered fresh start
      exact hpaced.spaced

/-! ## Withheld detections -/

/-- The store the rules for a type of alert read. -/
def SameStore : AttackType → ThreatDetector → ThreatDetector → Prop
  | .UNKNOWN, _, _ => True
  | .VOLUME_ANOMALY, d, e => e.ewma = d.ewma
  | .SYN_FLOOD, d, e => e.synFlood = d.synFlood
  | .PORT_SCAN, d, e => e.portScan = d.portScan
  | .BRUTE_FORCE, d, e => e.bruteForceState = d.bruteForceState
  | .DNS_TUNNELING, d, e => e.dnsTxtState = d.dnsTxtState
  | .DATA_EXFILTRATION, d, e => e.exfilState = d.exfilState

/-- Nothing has happened that the rules for `type` could notice; the history may have grown. -/
structure Untouched (type : AttackType) (d e : ThreatDetector) : Prop where
  config : e.config = d.config
  store : SameStore type d e
  last : ∀ src, e.lastFired src type = d.lastFired src type
  history : d.delivered <+: e.delivered

theorem SameStore.trans {type : AttackType} {d e f : ThreatDetector} (h₁ : SameStore type d e)
    (h₂ : SameStore type e f) : SameStore type d f := by
  cases type with
  | UNKNOWN => trivial
  | VOLUME_ANOMALY => exact Eq.trans h₂ h₁
  | SYN_FLOOD => exact Eq.trans h₂ h₁
  | PORT_SCAN => exact Eq.trans h₂ h₁
  | BRUTE_FORCE => exact Eq.trans h₂ h₁
  | DNS_TUNNELING => exact Eq.trans h₂ h₁
  | DATA_EXFILTRATION => exact Eq.trans h₂ h₁

theorem Untouched.refl (type : AttackType) (d : ThreatDetector) : Untouched type d d where
  config := rfl
  store := by cases type <;> trivial
  last := fun _ => rfl
  history := List.prefix_rfl

theorem Untouched.trans {type : AttackType} {d e f : ThreatDetector} (h₁ : Untouched type d e)
    (h₂ : Untouched type e f) : Untouched type d f where
  config := h₂.config.trans h₁.config
  store := h₁.store.trans h₂.store
  last := fun src => (h₂.last src).trans (h₁.last src)
  history := h₁.history.trans h₂.history

theorem Untouched.isSuppressed {type : AttackType} {d e : ThreatDetector} (h : Untouched type d e)
    (src : Octets) (now : TimePoint) : e.isSuppressed src type now = d.isSuppressed src type now := by
  rw [isSuppressed_eq, isSuppressed_eq, h.last, h.config]

theorem Untouched.fired {type : AttackType} (d : ThreatDetector) {alert : ThreatAlert} (now : TimePoint)
    (other : alert.attackType ≠ type) : Untouched type d (d.fired alert now) where
  config := rfl
  store := by cases type <;> trivial
  last := by
    intro src
    rw [lastFired_fired, if_neg fun h => other h.2.symm]
  history := List.prefix_append _ _

/-- A stage's alerts are about the packet's source and of the stage's type. -/
def DetectsOnly (info : PacketInfo) (type : AttackType) (detect : ThreatDetector → Option ThreatAlert) : Prop :=
  ∀ d alert, detect d = some alert → alert.srcIp = info.srcIp ∧ alert.attackType = type

/-- A stage goes unnoticed by the rules for other types. -/
theorem Attempts.untouched {ε : Type} {field : Field ε} {detect : ThreatDetector → Option ThreatAlert}
    {now : TimePoint} {x : StateM ThreatDetector Unit} (hx : Attempts field detect now x)
    (hquiet : field.Quiet) {info : PacketInfo} {own type : AttackType} (only : DetectsOnly info own detect)
    (hstore : ∀ d store, SameStore type d (field.write d store)) (other : own ≠ type) :
    Keeps (Untouched type) x := by
  intro d
  obtain ⟨store, hafter⟩ := hx d
  have written : Untouched type d (field.write d store) :=
    ⟨(hquiet d store).config, hstore d store, fun src => (hquiet d store).lastFired src type,
      (hquiet d store).delivered ▸ List.prefix_rfl⟩
  rw [hafter]
  cases hdetect : detect d with
  | none => exact written
  | some alert =>
      rw [attempt]
      split
      · exact written
      · exact written.trans (Untouched.fired _ now ((only d alert hdetect).2 ▸ other))

/-- The detection's alert is fired in the inspection that leads from `d` to `e`, or one of its kind
is too recent. -/
def Answered (now : TimePoint) (d e : ThreatDetector) (alert : ThreatAlert) : Prop :=
  (∃ new, e.delivered = d.delivered ++ new ∧ ⟨alert, now⟩ ∈ new) ∨
    ∃ f ∈ d.delivered, f.alert.srcIp = alert.srcIp ∧ f.alert.attackType = alert.attackType ∧
      secondsBetween now f.at_ < d.config.delivery.alertSuppressionSec

/-- The stage answers what it detects: `d` is the state before the inspection, `p` before the stage,
`e` after the inspection. -/
theorem Attempts.answered {ε : Type} {field : Field ε} {detect : ThreatDetector → Option ThreatAlert}
    {now : TimePoint} {x : StateM ThreatDetector Unit} (hx : Attempts field detect now x)
    (hquiet : field.Quiet) {info : PacketInfo} {own : AttackType} (only : DetectsOnly info own detect)
    (stable : ∀ {d p}, Untouched own d p → detect p = detect d) {d p e : ThreatDetector} (hd : d.Recorded)
    (hp : Untouched own d p) (he : (after x p).delivered <+: e.delivered) {alert : ThreatAlert}
    (h : detect d = some alert) : Answered now d e alert := by
  obtain ⟨store, hafter⟩ := hx p
  obtain ⟨hsrc, htype⟩ := only d alert h
  have same : (field.write p store).isSuppressed alert.srcIp alert.attackType now =
      d.isSuppressed alert.srcIp alert.attackType now := by
    rw [(hquiet p store).isSuppressed, htype, hp.isSuppressed]
  rw [hafter, stable hp, h, attempt, same] at he
  cases hsup : d.isSuppressed alert.srcIp alert.attackType now with
  | true => exact .inr (hd.exists_recent hsup)
  | false =>
      rw [hsup, if_neg (by decide)] at he
      obtain ⟨before, hbefore⟩ := hp.history
      obtain ⟨later, hlater⟩ := he
      refine .inl ⟨before ++ [⟨alert, now⟩] ++ later, ?_, by simp⟩
      have hfired : ((field.write p store).fired alert now).delivered =
          (field.write p store).delivered ++ [⟨alert, now⟩] := rfl
      rw [← hlater, hfired, (hquiet p store).delivered, ← hbefore]
      simp only [List.append_assoc]

theorem result_onEntry {ε β : Type} (field : Field ε) (src : Octets) (f : Config → Option ε → β × ε)
    (d : ThreatDetector) :
    result (onEntry field src f) d = (f d.config ((field.read d).lookup src)).1 := rfl

section Rules
variable (info : PacketInfo) (now : TimePoint)

theorem volumeDetection_only : DetectsOnly info .VOLUME_ANOMALY (volumeDetection info now) := by
  intro d alert h
  obtain ⟨r, -, rfl⟩ := Option.map_eq_some_iff.mp h
  exact ⟨rfl, rfl⟩

theorem synFloodDetection_only : DetectsOnly info .SYN_FLOOD (synFloodDetection info now) := by
  intro d alert h
  unfold synFloodDetection at h
  split at h
  · obtain ⟨r, -, rfl⟩ := Option.map_eq_some_iff.mp h
    exact ⟨rfl, rfl⟩
  · cases h

theorem portScanDetection_only : DetectsOnly info .PORT_SCAN (portScanDetection info now) := by
  intro d alert h
  unfold portScanDetection at h
  split at h
  · obtain ⟨r, -, rfl⟩ := Option.map_eq_some_iff.mp h
    exact ⟨rfl, rfl⟩
  · cases h

theorem bruteForceDetection_only : DetectsOnly info .BRUTE_FORCE (bruteForceDetection info now) := by
  intro d alert h
  unfold bruteForceDetection at h
  split at h
  · obtain ⟨r, -, rfl⟩ := Option.map_eq_some_iff.mp h
    exact ⟨rfl, rfl⟩
  · cases h

theorem longNameDetection_only : DetectsOnly info .DNS_TUNNELING (longNameDetection info) := by
  intro d alert h
  obtain ⟨r, -, rfl⟩ := Option.map_eq_some_iff.mp h
  exact ⟨rfl, rfl⟩

theorem txtRateDetection_only : DetectsOnly info .DNS_TUNNELING (txtRateDetection info now) := by
  intro d alert h
  unfold txtRateDetection at h
  split at h
  · obtain ⟨r, -, rfl⟩ := Option.map_eq_some_iff.mp h
    exact ⟨rfl, rfl⟩
  · cases h

theorem dnsDetection_only : DetectsOnly info .DNS_TUNNELING (dnsDetection info now) := by
  intro d alert h
  unfold dnsDetection at h
  split at h
  · exact txtRateDetection_only info now d alert h
  · rcases Option.or_eq_some_iff.mp h with hlong | ⟨-, htxt⟩
    · exact longNameDetection_only info d alert hlong
    · exact txtRateDetection_only info now d alert htxt

theorem exfilDetection_only : DetectsOnly info .DATA_EXFILTRATION (exfilDetection info now) := by
  intro d alert h
  unfold exfilDetection at h
  split at h
  · obtain ⟨r, -, rfl⟩ := Option.map_eq_some_iff.mp h
    exact ⟨rfl, rfl⟩
  · cases h

section Unnoticed
variable {type : AttackType}

theorem inspectVolume_untouched (other : .VOLUME_ANOMALY ≠ type) :
    Keeps (Untouched type) (inspectVolume info now) :=
  (inspectVolume_attempts info now).untouched ewmaField_quiet (volumeDetection_only info now)
    (fun _ _ => by cases type <;> trivial) other

theorem inspectSyn_untouched (other : .SYN_FLOOD ≠ type) : Keeps (Untouched type) (inspectSyn info now) :=
  (inspectSyn_attempts info now).untouched synFloodField_quiet (synFloodDetection_only info now)
    (fun _ _ => by cases type <;> trivial) other

theorem inspectScan_untouched (other : .PORT_SCAN ≠ type) : Keeps (Untouched type) (inspectScan info now) :=
  (inspectScan_attempts info now).untouched portScanField_quiet (portScanDetection_only info now)
    (fun _ _ => by cases type <;> trivial) other

theorem inspectBruteForce_untouched (other : .BRUTE_FORCE ≠ type) :
    Keeps (Untouched type) (inspectBruteForce info now) :=
  (inspectBruteForce_attempts info now).untouched bruteForceField_quiet (bruteForceDetection_only info now)
    (fun _ _ => by cases type <;> trivial) other

theorem inspectDns_untouched (other : .DNS_TUNNELING ≠ type) : Keeps (Untouched type) (inspectDns info now) :=
  (inspectDns_attempts info now).untouched dnsTxtField_quiet (dnsDetection_only info now)
    (fun _ _ => by cases type <;> trivial) other

theorem inspectExfil_untouched (other : .DATA_EXFILTRATION ≠ type) :
    Keeps (Untouched type) (inspectExfil info now) :=
  (inspectExfil_attempts info now).untouched exfilField_quiet (exfilDetection_only info now)
    (fun _ _ => by cases type <;> trivial) other

end Unnoticed

variable {info now} {d p : ThreatDetector}

theorem volumeDetection_stable (h : Untouched .VOLUME_ANOMALY d p) :
    volumeDetection info now p = volumeDetection info now d := by
  have hstore : ewmaField.read p = ewmaField.read d := h.store
  rw [volumeDetection, volumeDetection, updateEwma, result_onEntry, result_onEntry, hstore, h.config]

theorem synFloodDetection_stable (h : Untouched .SYN_FLOOD d p) :
    synFloodDetection info now p = synFloodDetection info now d := by
  have hstore : synFloodField.read p = synFloodField.read d := h.store
  rw [synFloodDetection, synFloodDetection, inspectSynFlood, result_onEntry, result_onEntry, hstore, h.config]

theorem portScanDetection_stable (h : Untouched .PORT_SCAN d p) :
    portScanDetection info now p = portScanDetection info now d := by
  have hstore : portScanField.read p = portScanField.read d := h.store
  rw [portScanDetection, portScanDetection, inspectPortScan, result_onEntry, result_onEntry, hstore, h.config]

theorem bruteForceDetection_stable (h : Untouched .BRUTE_FORCE d p) :
    bruteForceDetection info now p = bruteForceDetection info now d := by
  have hstore : bruteForceField.read p = bruteForceField.read d := h.store
  rw [bruteForceDetection, bruteForceDetection, hitPortWindow, result_onEntry, result_onEntry, hstore,
    h.config]

theorem dnsDetection_stable (h : Untouched .DNS_TUNNELING d p) :
    dnsDetection info now p = dnsDetection info now d := by
  have hstore : dnsTxtField.read p = dnsTxtField.read d := h.store
  have htxt : txtRateDetection info now p = txtRateDetection info now d := by
    rw [txtRateDetection, txtRateDetection, longNameDetection, longNameDetection, hitTxtWindow,
      result_onEntry, result_onEntry, hstore, h.config, h.isSuppressed]
  rw [dnsDetection, dnsDetection, htxt, longNameDetection, longNameDetection, h.config, h.isSuppressed]

theorem exfilDetection_stable (h : Untouched .DATA_EXFILTRATION d p) :
    exfilDetection info now p = exfilDetection info now d := by
  have hstore : exfilField.read p = exfilField.read d := h.store
  rw [exfilDetection, exfilDetection, addExfil, result_onEntry, result_onEntry, hstore]

end Rules

/-! ## The contract -/

/-- The rules, in the order an inspection applies them. -/
inductive Rule where
  | volume | synFlood | portScan | bruteForce | longName | txtRate | exfiltration
  deriving DecidableEq, Repr

/-- The alert a rule detects a packet to call for, given the state before its inspection. -/
def detection (info : PacketInfo) (now : TimePoint) (d : ThreatDetector) (rule : Rule) : Option ThreatAlert :=
  if !info.valid || info.srcIp.isEmpty then none
  else
    match rule with
    | .volume => volumeDetection info now d
    | .synFlood => synFloodDetection info now d
    | .portScan => portScanDetection info now d
    | .bruteForce => bruteForceDetection info now d
    | .longName => longNameDetection info d
    | .txtRate => txtRateDetection info now d
    | .exfiltration => exfilDetection info now d

/-- The states an inspection goes through. -/
theorem after_inspect {info : PacketInfo} (h : (!info.valid || info.srcIp.isEmpty) = false)
    (now : TimePoint) (d : ThreatDetector) :
    after (inspect info now) d = after (inspectExfil info now) (after (inspectDns info now)
      (after (inspectBruteForce info now) (after (inspectScan info now) (after (inspectSyn info now)
        (after (inspectVolume info now) d))))) := by
  rw [inspect, if_neg (by rw [h]; decide)]
  rfl

section Dns
variable {d : ThreatDetector} {info : PacketInfo} {now : TimePoint} {alert : ThreatAlert}
  (audible : d.isSuppressed info.srcIp .DNS_TUNNELING now = false)
include audible

theorem dnsDetection_of_longName (h : longNameDetection info d = some alert) :
    dnsDetection info now d = some alert := by
  rw [dnsDetection, audible, if_neg (by decide), h]
  rfl

/-- The TXT rule is reached if there is no long name. -/
theorem dnsDetection_of_txtRate (h : txtRateDetection info now d = some alert) :
    dnsDetection info now d = some alert := by
  have short : longNameDetection info d = none := by
    have reached := h
    rw [txtRateDetection, audible] at reached
    cases long : longNameDetection info d with
    | none => rfl
    | some other =>
        rw [long, if_neg (by simp)] at reached
        cases reached
  rw [dnsDetection, audible, if_neg (by decide), short]
  exact h

end Dns

/-- A detection is answered: by its alert, or by a recent alert of its source and type. -/
theorem inspect_answers {d : ThreatDetector} (hd : d.Recorded) {info : PacketInfo} {now : TimePoint}
    {rule : Rule} {alert : ThreatAlert} (h : detection info now d rule = some alert) :
    Answered now d (after (inspect info now) d) alert := by
  unfold detection at h
  cases hskip : !info.valid || info.srcIp.isEmpty with
  | true =>
      rw [hskip, if_pos rfl] at h
      cases h
  | false =>
      rw [hskip, if_neg (by decide)] at h
      rw [after_inspect hskip]
      -- the states between the stages, and what each stage leaves untouched
      generalize h1 : after (inspectVolume info now) d = d1
      generalize h2 : after (inspectSyn info now) d1 = d2
      generalize h3 : after (inspectScan info now) d2 = d3
      generalize h4 : after (inspectBruteForce info now) d3 = d4
      generalize h5 : after (inspectDns info now) d4 = d5
      generalize h6 : after (inspectExfil info now) d5 = d6
      have u1 type (o : .VOLUME_ANOMALY ≠ type) : Untouched type d d1 := h1 ▸ inspectVolume_untouched info now o d
      have u2 type (o : .SYN_FLOOD ≠ type) : Untouched type d1 d2 := h2 ▸ inspectSyn_untouched info now o d1
      have u3 type (o : .PORT_SCAN ≠ type) : Untouched type d2 d3 := h3 ▸ inspectScan_untouched info now o d2
      have u4 type (o : .BRUTE_FORCE ≠ type) : Untouched type d3 d4 := h4 ▸ inspectBruteForce_untouched info now o d3
      have u5 type (o : .DNS_TUNNELING ≠ type) : Untouched type d4 d5 := h5 ▸ inspectDns_untouched info now o d4
      have u6 type (o : .DATA_EXFILTRATION ≠ type) : Untouched type d5 d6 := h6 ▸ inspectExfil_untouched info now o d5
      -- no alert has the type `UNKNOWN`: from any stage on, the history grows
      have g6 := (u6 .UNKNOWN (by decide)).history
      have g5 := (u5 .UNKNOWN (by decide)).history.trans g6
      have g4 := (u4 .UNKNOWN (by decide)).history.trans g5
      have g3 := (u3 .UNKNOWN (by decide)).history.trans g4
      have g2 := (u2 .UNKNOWN (by decide)).history.trans g3
      have hdns {alert : ThreatAlert} (h : dnsDetection info now d = some alert) : Answered now d d6 alert := by
        have reach : Untouched .DNS_TUNNELING d d4 :=
          (((u1 _ (by decide)).trans (u2 _ (by decide))).trans (u3 _ (by decide))).trans (u4 _ (by decide))
        exact (inspectDns_attempts info now).answered dnsTxtField_quiet (dnsDetection_only info now)
          dnsDetection_stable hd reach (h5 ▸ g6) h
      cases rule with
      | volume =>
          exact (inspectVolume_attempts info now).answered ewmaField_quiet (volumeDetection_only info now)
            volumeDetection_stable hd (Untouched.refl _ d) (h1 ▸ g2) h
      | synFlood =>
          exact (inspectSyn_attempts info now).answered synFloodField_quiet (synFloodDetection_only info now)
            synFloodDetection_stable hd (u1 _ (by decide)) (h2 ▸ g3) h
      | portScan =>
          exact (inspectScan_attempts info now).answered portScanField_quiet (portScanDetection_only info now)
            portScanDetection_stable hd ((u1 _ (by decide)).trans (u2 _ (by decide))) (h3 ▸ g4) h
      | bruteForce =>
          have reach : Untouched .BRUTE_FORCE d d3 :=
            ((u1 _ (by decide)).trans (u2 _ (by decide))).trans (u3 _ (by decide))
          exact (inspectBruteForce_attempts info now).answered bruteForceField_quiet
            (bruteForceDetection_only info now) bruteForceDetection_stable hd reach (h4 ▸ g5) h
      | longName =>
          obtain ⟨hsrc, htype⟩ := longNameDetection_only info d alert h
          cases hsup : d.isSuppressed info.srcIp .DNS_TUNNELING now with
          | true => exact .inr (hd.exists_recent (hsrc ▸ htype ▸ hsup))
          | false => exact hdns (dnsDetection_of_longName hsup h)
      | txtRate =>
          obtain ⟨hsrc, htype⟩ := txtRateDetection_only info now d alert h
          cases hsup : d.isSuppressed info.srcIp .DNS_TUNNELING now with
          | true => exact .inr (hd.exists_recent (hsrc ▸ htype ▸ hsup))
          | false => exact hdns (dnsDetection_of_txtRate hsup h)
      | exfiltration =>
          have reach : Untouched .DATA_EXFILTRATION d d5 :=
            ((((u1 _ (by decide)).trans (u2 _ (by decide))).trans (u3 _ (by decide))).trans
              (u4 _ (by decide))).trans (u5 _ (by decide))
          exact (inspectExfil_attempts info now).answered exfilField_quiet (exfilDetection_only info now)
            exfilDetection_stable hd reach (h6 ▸ List.prefix_rfl) h

theorem inspectAll_config (cfg : Config) (packets : List Timed) : (inspectAll cfg packets).config = cfg :=
  runAll_invariant (fun d => d.config = cfg) (fun p d h => (inspect_config p.info p.now d).trans h) packets rfl

/-- The contract for a run: alerts of one source and type are far enough apart, whatever a rule
detects in a next packet is fired or follows such an alert too closely, and the counter counts the
alerts handed to delivery. -/
structure SuppressionContract (cfg : Config) (packets : List Timed) : Prop where
  spaced : (inspectAll cfg packets).delivered.Pairwise fun f g =>
    f.alert.srcIp = g.alert.srcIp → f.alert.attackType = g.alert.attackType →
      cfg.delivery.alertSuppressionSec ≤ secondsBetween g.at_ f.at_
  answered : ∀ info now rule alert, detection info now (inspectAll cfg packets) rule = some alert →
    (∃ new, (inspectAll cfg (packets ++ [⟨info, now⟩])).delivered =
        (inspectAll cfg packets).delivered ++ new ∧ ⟨alert, now⟩ ∈ new) ∨
      ∃ f ∈ (inspectAll cfg packets).delivered, f.alert.srcIp = alert.srcIp ∧
        f.alert.attackType = alert.attackType ∧ secondsBetween now f.at_ < cfg.delivery.alertSuppressionSec
  counted : (inspectAll cfg packets).totalAlertsFired =
    UInt64.ofNat (inspectAll cfg packets).delivered.length

theorem suppression_contract (cfg : Config) (packets : List Timed)
    (ordered : packets.Pairwise fun p q => p.now ≤ q.now) : SuppressionContract cfg packets := by
  have hcfg := inspectAll_config cfg packets
  have hrec := inspectAll_recorded cfg packets
  refine ⟨?_, ?_, hrec.total⟩
  · have hspaced := inspectAll_spaced cfg ordered
    rw [Spaced, hcfg] at hspaced
    exact hspaced
  · intro info now rule alert h
    have hanswer := inspect_answers hrec h
    rw [Answered, hcfg] at hanswer
    rw [inspectAll, runAll_append]
    exact hanswer

/-- A query for a name of a hundred bytes from 10.0.0.1. -/
def longQuery : PacketInfo :=
  { valid := true, srcIp := ascii "10.0.0.1", dns := some { queryName := List.replicate 100 97 } }

/-- Three long queries, at 0, 1 and 6 seconds: the second one is withheld. -/
theorem suppression_contract_queries :
    (inspectAll {} [⟨longQuery, 0⟩, ⟨longQuery, 1000000000⟩, ⟨longQuery, 6000000000⟩]).delivered.length = 2 ∧
      SuppressionContract {} [⟨longQuery, 0⟩, ⟨longQuery, 1000000000⟩, ⟨longQuery, 6000000000⟩] :=
  ⟨by decide +kernel, suppression_contract {} _ (by decide)⟩

end ThreatDetector

end Nte
