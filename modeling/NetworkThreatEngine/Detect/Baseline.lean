import NetworkThreatEngine.Detect.ThreatDetector
import NetworkThreatEngine.Lib.KeyedStore
import NetworkThreatEngine.Lib.MovingAverage

/-!
# The volume baseline

What a volume profile stands for: the packets of the open window, and the windows closed since the last
seeding, whose rates the baseline averages. The engine keeps a profile for each source.
-/
namespace Nte
open KeyedStore MovingAverage

/-- A packet of one source, as `EWMAEngine::update` receives it. -/
structure Arrival where
  packetBytes : Nat
  now : TimePoint
  deriving DecidableEq, Repr

/-- A measurement window that has been closed. -/
structure VolumeWindow where
  start : TimePoint
  stop : TimePoint
  packets : List Arrival
  deriving DecidableEq, Repr

namespace VolumeWindow

def bytes (w : VolumeWindow) : Nat := (w.packets.map (·.packetBytes)).sum
def age (w : VolumeWindow) : ℚ := secondsBetween w.stop w.start
def pps (w : VolumeWindow) : ℚ := w.packets.length / w.age
def bps (w : VolumeWindow) : ℚ := w.bytes / w.age

end VolumeWindow

/-- A profile with the packets counted in its open window and the windows closed since it was seeded. -/
structure VolumeHistory where
  profile : PerIpEwmaProfile
  current : List Arrival := []
  closed : List VolumeWindow := []
  deriving DecidableEq, Repr

namespace PerIpEwmaProfile

/-- The test that starts a profile over. -/
def stale (cfg : EWMAConfig) (profile : PerIpEwmaProfile) (now : TimePoint) : Bool :=
  !profile.coldStart && secondsBetween now profile.lastUpdate > cfg.staleResetSec

def receive (cfg : EWMAConfig) (profile : PerIpEwmaProfile) (a : Arrival) : PerIpEwmaProfile :=
  (profile.update cfg a.packetBytes a.now).2

def anomaly (cfg : EWMAConfig) (profile : PerIpEwmaProfile) (a : Arrival) : Option EWMAResult :=
  (profile.update cfg a.packetBytes a.now).1

/-- The age of the window a packet is counted in. -/
def ageAt (cfg : EWMAConfig) (profile : PerIpEwmaProfile) (now : TimePoint) : ℚ :=
  secondsBetween now (profile.resetStale cfg now).windowStart

end PerIpEwmaProfile

namespace VolumeHistory

def create (now : TimePoint) : VolumeHistory := { profile := .create now }

/-- A stale profile forgets its open window and its baseline. -/
def reset (cfg : EWMAConfig) (h : VolumeHistory) (now : TimePoint) : VolumeHistory :=
  if h.profile.stale cfg now then { profile := h.profile.resetStale cfg now } else h

def next (cfg : EWMAConfig) (h : VolumeHistory) (a : Arrival) : VolumeHistory :=
  let kept := h.reset cfg a.now
  let profile := h.profile.receive cfg a
  if h.profile.ageAt cfg a.now < cfg.minWindowSec then { kept with profile, current := kept.current ++ [a] }
  else ⟨profile, [], kept.closed ++ [⟨kept.profile.windowStart, a.now, kept.current ++ [a]⟩]⟩

/-- The figures of the profile are those of the packets and windows it stands for. -/
structure Tracks (cfg : EWMAConfig) (h : VolumeHistory) : Prop where
  packets : h.profile.windowPackets = h.current.length
  bytes : h.profile.windowBytes = (h.current.map (·.packetBytes)).sum
  cold : h.profile.coldStart = true ↔ h.closed = []
  pps : h.profile.ewmaPps = average cfg.alpha (h.closed.map (·.pps))
  bps : h.profile.ewmaBps = average cfg.alpha (h.closed.map (·.bps))

end VolumeHistory

/-! ## One packet -/

namespace PerIpEwmaProfile
variable {cfg : EWMAConfig} {profile : PerIpEwmaProfile} {a : Arrival}

/-- The profile with the packet counted. -/
def counted (cfg : EWMAConfig) (profile : PerIpEwmaProfile) (a : Arrival) : PerIpEwmaProfile :=
  { profile.resetStale cfg a.now with
    lastUpdate := a.now
    windowPackets := (profile.resetStale cfg a.now).windowPackets + 1
    windowBytes := (profile.resetStale cfg a.now).windowBytes + a.packetBytes }

/-- The profile with the window closed. -/
def rolled (cfg : EWMAConfig) (profile : PerIpEwmaProfile) (a : Arrival) : PerIpEwmaProfile :=
  { profile.counted cfg a with windowPackets := 0, windowBytes := 0, windowStart := a.now }

def instPps (cfg : EWMAConfig) (profile : PerIpEwmaProfile) (a : Arrival) : ℚ :=
  (profile.counted cfg a).windowPackets / profile.ageAt cfg a.now

def instBps (cfg : EWMAConfig) (profile : PerIpEwmaProfile) (a : Arrival) : ℚ :=
  (profile.counted cfg a).windowBytes / profile.ageAt cfg a.now

theorem update_young (young : profile.ageAt cfg a.now < cfg.minWindowSec) :
    profile.update cfg a.packetBytes a.now = (none, profile.counted cfg a) := if_pos young

/-- The first window since the start or a reset seeds the baseline. -/
theorem update_seeds (old : ¬ profile.ageAt cfg a.now < cfg.minWindowSec)
    (cold : (profile.resetStale cfg a.now).coldStart = true) :
    profile.update cfg a.packetBytes a.now =
      (none, { profile.rolled cfg a with
        ewmaPps := profile.instPps cfg a, ewmaBps := profile.instBps cfg a, coldStart := false }) :=
  (if_neg old).trans (if_pos cold)

theorem update_scores (old : ¬ profile.ageAt cfg a.now < cfg.minWindowSec)
    (warm : (profile.resetStale cfg a.now).coldStart = false) :
    profile.update cfg a.packetBytes a.now =
      (score cfg (profile.instPps cfg a) (profile.instBps cfg a) (profile.resetStale cfg a.now).ewmaPps,
        { profile.rolled cfg a with
          ewmaPps := blend cfg.alpha (profile.resetStale cfg a.now).ewmaPps (profile.instPps cfg a)
          ewmaBps := blend cfg.alpha (profile.resetStale cfg a.now).ewmaBps (profile.instBps cfg a) }) := by
  refine (if_neg old).trans ((if_neg ?_).trans rfl)
  change ¬ (profile.resetStale cfg a.now).coldStart = true
  rw [warm]
  exact Bool.false_ne_true

theorem resetStale_of_stale {now : TimePoint} (h : profile.stale cfg now = true) :
    profile.resetStale cfg now =
      { profile with
        ewmaPps := 0, ewmaBps := 0, windowPackets := 0, windowBytes := 0, windowStart := now, coldStart := true } :=
  if_pos h

theorem resetStale_of_fresh {now : TimePoint} (h : profile.stale cfg now = false) :
    profile.resetStale cfg now = profile := by
  refine if_neg ?_
  change ¬ profile.stale cfg now = true
  rw [h]
  exact Bool.false_ne_true

/-- Without a baseline there is nothing to compare with. -/
theorem anomaly_of_cold (cold : (profile.resetStale cfg a.now).coldStart = true) : profile.anomaly cfg a = none := by
  unfold anomaly
  by_cases young : profile.ageAt cfg a.now < cfg.minWindowSec
  · rw [update_young young]
  · rw [update_seeds young cold]

end PerIpEwmaProfile

namespace VolumeHistory
variable {cfg : EWMAConfig} {h : VolumeHistory}

theorem reset_profile (h : VolumeHistory) (now : TimePoint) :
    (h.reset cfg now).profile = h.profile.resetStale cfg now := by
  unfold reset
  split
  · rfl
  · rename_i fresh
    exact (PerIpEwmaProfile.resetStale_of_fresh (Bool.eq_false_iff.mpr fresh)).symm

theorem Tracks.reset (tracks : h.Tracks cfg) (now : TimePoint) : (h.reset cfg now).Tracks cfg := by
  unfold VolumeHistory.reset
  split
  · rename_i stale
    constructor <;> rw [PerIpEwmaProfile.resetStale_of_stale stale] <;> simp [average]
  · exact tracks

theorem next_profile (h : VolumeHistory) (a : Arrival) : (h.next cfg a).profile = h.profile.receive cfg a := by
  unfold next
  dsimp only
  split <;> rfl

theorem Tracks.next (tracks : h.Tracks cfg) (a : Arrival) : (h.next cfg a).Tracks cfg := by
  have kept := tracks.reset a.now
  have packets : (h.profile.counted cfg a).windowPackets = ((h.reset cfg a.now).current ++ [a]).length := by
    rw [List.length_append, ← kept.packets, reset_profile]
    rfl
  have bytes : (h.profile.counted cfg a).windowBytes =
      (((h.reset cfg a.now).current ++ [a]).map (·.packetBytes)).sum := by
    rw [List.map_append, List.sum_append, ← kept.bytes, reset_profile]
    simp [PerIpEwmaProfile.counted]
  have cold := kept.cold
  have pps := kept.pps
  have bps := kept.bps
  rw [reset_profile] at cold pps bps
  unfold VolumeHistory.next PerIpEwmaProfile.receive
  dsimp only
  by_cases young : h.profile.ageAt cfg a.now < cfg.minWindowSec
  · rw [if_pos young, PerIpEwmaProfile.update_young young]
    exact ⟨packets, bytes, cold, pps, bps⟩
  · rw [if_neg young]
    have rate : h.profile.instPps cfg a =
        (VolumeWindow.mk (h.reset cfg a.now).profile.windowStart a.now ((h.reset cfg a.now).current ++ [a])).pps := by
      rw [PerIpEwmaProfile.instPps, packets, reset_profile]
      rfl
    have volume : h.profile.instBps cfg a =
        (VolumeWindow.mk (h.reset cfg a.now).profile.windowStart a.now ((h.reset cfg a.now).current ++ [a])).bps := by
      rw [PerIpEwmaProfile.instBps, bytes, reset_profile]
      rfl
    cases state : (h.profile.resetStale cfg a.now).coldStart with
    | true =>
        rw [PerIpEwmaProfile.update_seeds young state, cold.mp state]
        exact ⟨rfl, rfl, by simp, rate, volume⟩
    | false =>
        have some : (h.reset cfg a.now).closed ≠ [] := by
          intro none
          rw [cold.mpr none] at state
          cases state
        rw [PerIpEwmaProfile.update_scores young state]
        refine ⟨rfl, rfl, ?_, ?_, ?_⟩
        · exact iff_of_false (by rw [PerIpEwmaProfile.rolled, PerIpEwmaProfile.counted, state]; decide) (by simp)
        · rw [List.map_append, List.map_singleton, average_snoc _ (by simpa using some), ← pps, rate]
        · rw [List.map_append, List.map_singleton, average_snoc _ (by simpa using some), ← bps, volume]

theorem tracks_create (cfg : EWMAConfig) (now : TimePoint) : (create now).Tracks cfg := by
  constructor <;> simp [create, PerIpEwmaProfile.create, average]

end VolumeHistory

/-! ## Scores -/

structure EWMAConfig.Valid (cfg : EWMAConfig) : Prop where
  alpha : 0 < cfg.alpha ∧ cfg.alpha < 1
  ppsFloor : 0 < cfg.ppsFloor
  medium : 0 < cfg.mediumMultiplier
  high : cfg.mediumMultiplier ≤ cfg.highMultiplier
  minWindow : 0 < cfg.minWindowSec

section Scores
variable {cfg : EWMAConfig} {instPps instBps prevPps : ℚ}

theorem EWMAConfig.Valid.divisor_pos (valid : cfg.Valid) (prevPps : ℚ) : 0 < max prevPps cfg.ppsFloor :=
  lt_max_of_lt_right valid.ppsFloor

theorem score_eq_none (valid : cfg.Valid) (small : instPps < cfg.mediumMultiplier * max prevPps cfg.ppsFloor) :
    PerIpEwmaProfile.score cfg instPps instBps prevPps = none := by
  have medium : instPps / max prevPps cfg.ppsFloor < cfg.mediumMultiplier :=
    (div_lt_iff₀ (valid.divisor_pos prevPps)).mpr small
  have high := medium.trans_le valid.high
  unfold PerIpEwmaProfile.score
  rw [if_neg (not_le.mpr high), if_neg (not_le.mpr medium)]

theorem score_eq_some (valid : cfg.Valid) (large : cfg.mediumMultiplier * max prevPps cfg.ppsFloor ≤ instPps) :
    ∃ r, PerIpEwmaProfile.score cfg instPps instBps prevPps = some r ∧
      (cfg.highMultiplier * max prevPps cfg.ppsFloor ≤ instPps → r.severity = .HIGH) := by
  have medium : cfg.mediumMultiplier ≤ instPps / max prevPps cfg.ppsFloor :=
    (le_div_iff₀ (valid.divisor_pos prevPps)).mpr large
  unfold PerIpEwmaProfile.score
  by_cases high : cfg.highMultiplier ≤ instPps / max prevPps cfg.ppsFloor
  · rw [if_pos high]
    exact ⟨_, rfl, fun _ => rfl⟩
  · rw [if_neg high, if_pos medium]
    refine ⟨_, rfl, fun larger => ?_⟩
    exact absurd ((le_div_iff₀ (valid.divisor_pos prevPps)).mpr larger) high

end Scores

/-! ## The range of the baseline -/

namespace VolumeHistory

/-- The rates of the windows closed since the last seeding, the seed included. -/
def rates (h : VolumeHistory) : List ℚ := h.closed.map (·.pps)

/-- Out of cold start the baseline lies between the least and the greatest of the rates. -/
def InRange (h : VolumeHistory) : Prop :=
  ∀ lo hi, IsLeast {r | r ∈ h.rates} lo → IsGreatest {r | r ∈ h.rates} hi →
    h.profile.coldStart = false → lo ≤ h.profile.ewmaPps ∧ h.profile.ewmaPps ≤ hi

/-- The packet closes a window whose rate is compared with the baseline of the windows before. -/
structure Closes (cfg : EWMAConfig) (h : VolumeHistory) (a : Arrival) : Prop where
  warm : h.profile.coldStart = false
  fresh : h.profile.stale cfg a.now = false
  old : ¬ h.profile.ageAt cfg a.now < cfg.minWindowSec

/-- What the range of the rates says about the window that the packet closes. -/
def Scores (cfg : EWMAConfig) (h : VolumeHistory) (a : Arrival) : Prop :=
  ∀ lo hi, IsLeast {r | r ∈ h.rates} lo → IsGreatest {r | r ∈ h.rates} hi → h.Closes cfg a →
    (h.profile.instPps cfg a < cfg.mediumMultiplier * max lo cfg.ppsFloor → h.profile.anomaly cfg a = none) ∧
      (cfg.mediumMultiplier * max hi cfg.ppsFloor ≤ h.profile.instPps cfg a →
        ∃ r, h.profile.anomaly cfg a = some r ∧
          (cfg.highMultiplier * max hi cfg.ppsFloor ≤ h.profile.instPps cfg a → r.severity = .HIGH))

/-- What an evaluation divides by is not zero: the age of the window and the floored baseline. -/
def Divides (cfg : EWMAConfig) (h : VolumeHistory) (a : Arrival) : Prop :=
  ¬ h.profile.ageAt cfg a.now < cfg.minWindowSec →
    h.profile.ageAt cfg a.now ≠ 0 ∧ max (h.profile.resetStale cfg a.now).ewmaPps cfg.ppsFloor ≠ 0

variable {cfg : EWMAConfig} {h : VolumeHistory}

theorem Tracks.inRange (tracks : h.Tracks cfg) (valid : cfg.Valid) : h.InRange := by
  intro lo hi least greatest warm
  have some : h.rates ≠ [] := List.ne_nil_of_mem least.1
  rw [tracks.pps]
  apply average_mem_Icc valid.alpha.1.le valid.alpha.2.le some
  intro rate member
  exact ⟨least.2 member, greatest.2 member⟩

theorem Tracks.scores (tracks : h.Tracks cfg) (valid : cfg.Valid) (a : Arrival) : h.Scores cfg a := by
  intro lo hi least greatest closes
  obtain ⟨low, high⟩ := tracks.inRange valid lo hi least greatest closes.warm
  have kept := PerIpEwmaProfile.resetStale_of_fresh closes.fresh
  have scored : h.profile.anomaly cfg a =
      PerIpEwmaProfile.score cfg (h.profile.instPps cfg a) (h.profile.instBps cfg a) h.profile.ewmaPps := by
    rw [PerIpEwmaProfile.anomaly, PerIpEwmaProfile.update_scores closes.old (by rw [kept]; exact closes.warm), kept]
  rw [scored]
  have positive := valid.medium
  have positive' := valid.medium.trans_le valid.high
  constructor
  · intro small
    apply score_eq_none valid
    calc h.profile.instPps cfg a < cfg.mediumMultiplier * max lo cfg.ppsFloor := small
      _ ≤ cfg.mediumMultiplier * max h.profile.ewmaPps cfg.ppsFloor := by gcongr
  · intro large
    have floored : cfg.mediumMultiplier * max h.profile.ewmaPps cfg.ppsFloor ≤ h.profile.instPps cfg a :=
      calc cfg.mediumMultiplier * max h.profile.ewmaPps cfg.ppsFloor
          ≤ cfg.mediumMultiplier * max hi cfg.ppsFloor := by gcongr
        _ ≤ h.profile.instPps cfg a := large
    obtain ⟨r, result, severe⟩ := score_eq_some valid floored
    refine ⟨r, result, fun larger => severe ?_⟩
    calc cfg.highMultiplier * max h.profile.ewmaPps cfg.ppsFloor
        ≤ cfg.highMultiplier * max hi cfg.ppsFloor := by gcongr
      _ ≤ h.profile.instPps cfg a := larger

theorem divides (valid : cfg.Valid) (h : VolumeHistory) (a : Arrival) : h.Divides cfg a := by
  intro old
  constructor
  · intro zero
    rw [zero] at old
    exact old valid.minWindow
  · exact (valid.divisor_pos _).ne'

end VolumeHistory

/-! ## All sources -/

/-- A call of `EWMAEngine::update`. A new profile reads the clock by itself. -/
structure EWMACall where
  srcIp : Octets
  packetBytes : Nat
  now : TimePoint
  created : TimePoint
  deriving DecidableEq, Repr

def EWMACall.arrival (c : EWMACall) : Arrival := ⟨c.packetBytes, c.now⟩

/-- The profiles of `EWMAEngine::update`. -/
def ewmaEngine (cfg : EWMAConfig) : Engine Octets EWMACall PerIpEwmaProfile (Option EWMAResult) where
  key c := c.srcIp
  create c := .create c.created
  work profile c := profile.update cfg c.packetBytes c.now

/-- The same engine with what each profile stands for. -/
def ewmaHistories (cfg : EWMAConfig) : Engine Octets EWMACall VolumeHistory (Option EWMAResult) where
  key c := c.srcIp
  create c := .create c.created
  work h c := (h.profile.anomaly cfg c.arrival, h.next cfg c.arrival)

section Calls
variable (cfg : EWMAConfig) (calls : List EWMACall)

/-- What the profile that a call works on stands for. -/
def historyAt (c : EWMACall) : VolumeHistory := (ewmaHistories cfg).entry ((ewmaHistories cfg).run calls) c

theorem historyAt_profile (c : EWMACall) :
    (historyAt cfg calls c).profile = (ewmaEngine cfg).entry ((ewmaEngine cfg).run calls) c := by
  symm
  apply Engine.entry_map (ewmaEngine cfg) VolumeHistory.profile
  · rfl
  · intro c
    rfl
  · intro h c
    exact VolumeHistory.next_profile h c.arrival

theorem historyAt_tracks (c : EWMACall) : (historyAt cfg calls c).Tracks cfg := by
  rw [historyAt, Engine.entry_run]
  apply (ewmaHistories cfg).own_invariant fun _ h => h.Tracks cfg
  · intro c
    exact VolumeHistory.tracks_create cfg c.created
  · intro _ d _ tracks
    exact tracks.next d.arrival

/-- Whatever was called before, the baseline a call finds lies in the range of its source's rates; and if
the call closes a window, that is scored by this range. Nothing is divided by zero. -/
theorem ewma_sound (valid : cfg.Valid) (c : EWMACall) :
    (historyAt cfg calls c).profile = (ewmaEngine cfg).entry ((ewmaEngine cfg).run calls) c ∧
      (historyAt cfg calls c).Tracks cfg ∧ (historyAt cfg calls c).InRange ∧
      (historyAt cfg calls c).Scores cfg c.arrival ∧ (historyAt cfg calls c).Divides cfg c.arrival := by
  have tracks := historyAt_tracks cfg calls c
  exact ⟨historyAt_profile cfg calls c, tracks, tracks.inRange valid, tracks.scores valid c.arrival,
    VolumeHistory.divides valid _ c.arrival⟩

end Calls

/-- Two windows with a packet a second after the first one, and eight packets in the third second. -/
def volumeBurst : List EWMACall :=
  [0, 1000000000, 2000000000].map (⟨ascii "10.0.0.1", 60, ·, 0⟩) ++
    List.replicate 8 ⟨ascii "10.0.0.1", 60, 2500000000, 0⟩

theorem ewma_sound_burst :
    (historyAt {} volumeBurst ⟨ascii "10.0.0.1", 60, 3000000000, 0⟩).rates = [2, 1] ∧
      (historyAt {} volumeBurst ⟨ascii "10.0.0.1", 60, 3000000000, 0⟩).Scores {} ⟨60, 3000000000⟩ := by
  have valid : ({} : EWMAConfig).Valid := by constructor <;> norm_num
  exact ⟨by decide +kernel, (ewma_sound {} volumeBurst valid ⟨ascii "10.0.0.1", 60, 3000000000, 0⟩).2.2.2.1⟩

end Nte
