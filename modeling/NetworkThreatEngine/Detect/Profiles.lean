import NetworkThreatEngine.Detect.Alert

/-!
# Per-source profiles

The window bookkeeping of the volume, SYN-flood and port-scan engines for one source. Each
function takes the source's profile and returns the engine's verdict with the profile afterwards.
-/
namespace Nte
open Constants

/-! ## Traffic volume -/

structure PerIpEwmaProfile where
  ewmaPps : ℚ := 0
  ewmaBps : ℚ := 0
  windowPackets : Nat := 0
  windowBytes : Nat := 0
  windowStart : TimePoint
  coldStart : Bool := true
  lastUpdate : TimePoint
  deriving DecidableEq, Repr

/-- A profile created when the clock reads `now`. -/
def PerIpEwmaProfile.create (now : TimePoint) : PerIpEwmaProfile := { windowStart := now, lastUpdate := now }

structure EWMAResult where
  severity : Severity
  observedPps : ℚ
  baselinePps : ℚ
  ratio : ℚ
  observedBps : ℚ
  deriving DecidableEq, Repr

namespace PerIpEwmaProfile

/-- A profile silent for too long starts over. -/
def resetStale (cfg : EWMAConfig) (profile : PerIpEwmaProfile) (now : TimePoint) : PerIpEwmaProfile :=
  if !profile.coldStart && secondsBetween now profile.lastUpdate > cfg.staleResetSec then
    { profile with
      ewmaPps := 0, ewmaBps := 0, windowPackets := 0, windowBytes := 0, windowStart := now,
      coldStart := true }
  else profile

def score (cfg : EWMAConfig) (instPps instBps prevPps : ℚ) : Option EWMAResult :=
  let ratio := instPps / max prevPps cfg.ppsFloor
  if ratio ≥ cfg.highMultiplier then some ⟨.HIGH, instPps, prevPps, ratio, instBps⟩
  else if ratio ≥ cfg.mediumMultiplier then some ⟨.MEDIUM, instPps, prevPps, ratio, instBps⟩
  else none

/-- `EWMAEngine::update` on the source's profile. -/
def update (cfg : EWMAConfig) (profile : PerIpEwmaProfile) (packetBytes : Nat) (now : TimePoint) :
    Option EWMAResult × PerIpEwmaProfile :=
  let profile := profile.resetStale cfg now
  let profile := { profile with
    lastUpdate := now, windowPackets := profile.windowPackets + 1,
    windowBytes := profile.windowBytes + packetBytes }
  let windowAge := secondsBetween now profile.windowStart
  if windowAge < cfg.minWindowSec then (none, profile)
  else
    let instPps := profile.windowPackets / windowAge
    let instBps := profile.windowBytes / windowAge
    let rolled := { profile with windowPackets := 0, windowBytes := 0, windowStart := now }
    if profile.coldStart then
      (none, { rolled with ewmaPps := instPps, ewmaBps := instBps, coldStart := false })
    else
      (score cfg instPps instBps profile.ewmaPps,
        { rolled with
          ewmaPps := cfg.alpha * instPps + (1 - cfg.alpha) * profile.ewmaPps,
          ewmaBps := cfg.alpha * instBps + (1 - cfg.alpha) * profile.ewmaBps })

end PerIpEwmaProfile

/-! ## SYN floods -/

structure PerIpSynProfile where
  synOnlyCount : Nat := 0
  tcpTotalCount : Nat := 0
  synAckCount : Nat := 0
  windowStart : TimePoint
  lifetimeSynCount : Nat := 0
  lifetimeTcpCount : Nat := 0
  completedHandshakes : Nat := 0
  deriving DecidableEq, Repr

def PerIpSynProfile.create (now : TimePoint) : PerIpSynProfile := { windowStart := now }

structure SynFloodResult where
  severity : Severity
  synRatePps : ℚ
  synRatio : ℚ
  synCount : Nat
  completedHandshakes : Nat
  deriving DecidableEq, Repr

namespace PerIpSynProfile

def classify (profile : PerIpSynProfile) (tcpFlags : UInt8) : PerIpSynProfile :=
  let only := if synSet tcpFlags && !ackSet tcpFlags then 1 else 0
  let both := if synSet tcpFlags && ackSet tcpFlags then 1 else 0
  { profile with
    tcpTotalCount := profile.tcpTotalCount + 1, lifetimeTcpCount := profile.lifetimeTcpCount + 1,
    synOnlyCount := profile.synOnlyCount + only, lifetimeSynCount := profile.lifetimeSynCount + only,
    synAckCount := profile.synAckCount + both,
    completedHandshakes := profile.completedHandshakes + both }

/-- `SynFloodDetector::inspect` on the source's profile. -/
def inspect (cfg : SynFloodConfig) (profile : PerIpSynProfile) (tcpFlags : UInt8) (now : TimePoint) :
    Option SynFloodResult × PerIpSynProfile :=
  let profile := profile.classify tcpFlags
  let windowAge := secondsBetween now profile.windowStart
  if windowAge < cfg.windowSec then (none, profile)
  else
    let synRate := profile.synOnlyCount / windowAge
    let synRatio : ℚ :=
      if profile.tcpTotalCount > 0 then profile.synOnlyCount / profile.tcpTotalCount else 0
    let rolled := { profile with synOnlyCount := 0, tcpTotalCount := 0, synAckCount := 0, windowStart := now }
    if synRate < cfg.synRatePps then (none, rolled)
    else if synRatio < cfg.synRatio then (none, rolled)
    else
      (some { severity := if synRate ≥ cfg.synRatePps * 5 then .CRITICAL else .HIGH,
              synRatePps := synRate, synRatio := synRatio, synCount := profile.synOnlyCount,
              completedHandshakes := profile.completedHandshakes }, rolled)

end PerIpSynProfile

/-! ## Port scans -/

structure PerIpScanProfile where
  dstPorts : List UInt16 := []
  tcpPacketCount : Nat := 0
  synOnlyCount : Nat := 0
  windowStart : TimePoint
  deriving DecidableEq, Repr

def PerIpScanProfile.create (now : TimePoint) : PerIpScanProfile := { windowStart := now }

structure PortScanResult where
  severity : Severity
  distinctPorts : UInt32
  synRatio : ℚ
  windowSec : ℚ
  deriving DecidableEq, Repr

namespace PerIpScanProfile

def synRatio (profile : PerIpScanProfile) : ℚ := profile.synOnlyCount / profile.tcpPacketCount

/-- `PortScanDetector::inspect` on the source's profile. Doubling the threshold wraps at 32 bits. -/
def inspect (cfg : PortScanConfig) (profile : PerIpScanProfile) (dstPort : UInt16) (tcpFlags : UInt8)
    (now : TimePoint) : Option PortScanResult × PerIpScanProfile :=
  let windowAge := secondsBetween now profile.windowStart
  let profile := if windowAge ≥ cfg.windowSec then
      { profile with dstPorts := [], tcpPacketCount := 0, synOnlyCount := 0, windowStart := now }
    else profile
  let profile := { profile with
    dstPorts := profile.dstPorts.insert dstPort, tcpPacketCount := profile.tcpPacketCount + 1,
    synOnlyCount := profile.synOnlyCount + if synSet tcpFlags && !ackSet tcpFlags then 1 else 0 }
  let portCount := UInt32.ofNat profile.dstPorts.length
  if portCount < cfg.distinctPortThreshold then (none, profile)
  else if cfg.synOnlyRatio > 0 ∧ profile.tcpPacketCount > 0 ∧ profile.synRatio < cfg.synOnlyRatio then
    (none, profile)
  else
    (some { severity := if portCount ≥ cfg.distinctPortThreshold * 2 then .HIGH else .MEDIUM,
            distinctPorts := portCount,
            synRatio := if profile.tcpPacketCount > 0 then profile.synRatio else 0,
            windowSec := min windowAge cfg.windowSec }, profile)

theorem ports_mono {seen more : List UInt16} (h : seen ⊆ more) : seen.toFinset.card ≤ more.toFinset.card := by
  apply Finset.card_le_card
  intro port mem
  rw [List.mem_toFinset] at mem ⊢
  exact h mem

/-- A profile that has each port seen once has as many as were seen. -/
theorem ports_toNat {profile : PerIpScanProfile} {seen : List UInt16} (nodup : profile.dstPorts.Nodup)
    (ports : ∀ port, port ∈ profile.dstPorts ↔ port ∈ seen) :
    (UInt32.ofNat profile.dstPorts.length).toNat = seen.toFinset.card := by
  have length : profile.dstPorts.length = seen.toFinset.card := by
    rw [← List.toFinset_card_of_nodup nodup]
    congr 1
    ext port
    simpa using ports port
  -- there are fewer ports than a 32-bit counter can hold
  have few := (nodup.map UInt16.toFin_injective).length_le_card
  rw [List.length_map, Fintype.card_fin] at few
  rw [UInt32.toNat_ofNat', ← length, Nat.mod_eq_of_lt]
  exact few.trans_lt (by decide)

end PerIpScanProfile

/-! ## One-second rate windows

Brute force (a `PortWindow` for each port) and TXT queries share the shape of their bookkeeping. -/

structure RateWindow where
  windowStart : TimePoint
  count : Nat
  deriving DecidableEq, Repr

/-- A window a second old or older yields its rate and starts over with this packet. -/
def RateWindow.hit (win : RateWindow) (now : TimePoint) : Option ℚ × RateWindow :=
  let age := secondsBetween now win.windowStart
  if age ≥ 1 then (some (win.count / age), ⟨now, 1⟩)
  else (none, { win with count := win.count + 1 })

/-- The exfiltration window adds the payload first and starts over empty. -/
def RateWindow.add (win : RateWindow) (bytes : Nat) (now : TimePoint) : Option ℚ × RateWindow :=
  let win := { win with count := win.count + bytes }
  let age := secondsBetween now win.windowStart
  if age < 1 then (none, win) else (some (win.count / age), ⟨now, 0⟩)

end Nte
