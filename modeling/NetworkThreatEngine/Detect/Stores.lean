import NetworkThreatEngine.Detect.Measurement
import NetworkThreatEngine.Detect.ScanResult
import NetworkThreatEngine.Detect.SynWindow

/-!
# What reaches the stores

An inspection hands a packet to the rules it concerns. Seen from one store and one source, it is a packet
for the source's entry or it is nothing.
-/
namespace Nte
open StateRules KeyedStore

namespace Timed

def isTcp (p : Timed) : Bool := Measurement.inspected p.info && p.info.l4Proto == .TCP
def isScanned (p : Timed) : Bool := Measurement.inspected p.info && p.info.dstPort != 0
def isCarrying (p : Timed) : Bool := Measurement.inspected p.info && decide (p.info.l7PayloadLength > 0)

def isSensitive (cfg : BruteForceConfig) (p : Timed) : Bool :=
  Measurement.inspected p.info && (p.info.dstPort != 0 && ThreatDetector.isSensitivePort cfg p.info.dstPort)

def comesFrom (src : Octets) (p : Timed) : Bool := decide (p.info.srcIp = src)

def tcpFrom (src : Octets) (p : Timed) : Bool := p.isTcp && p.comesFrom src
def scansFrom (src : Octets) (p : Timed) : Bool := p.isScanned && p.comesFrom src
def carriesFrom (src : Octets) (p : Timed) : Bool := p.isCarrying && p.comesFrom src
def sensitiveFrom (cfg : BruteForceConfig) (src : Octets) (p : Timed) : Bool := p.isSensitive cfg && p.comesFrom src

def synPacket (p : Timed) : SynPacket := ⟨p.info.tcpFlags, p.now⟩

/-- The port-scan rule gets no flags of packets that are not TCP. -/
def scanPacket (p : Timed) : ScanPacket :=
  ⟨p.info.dstPort, if p.info.l4Proto = .TCP then p.info.tcpFlags else 0, p.now⟩

end Timed

namespace Measurement
variable (cfg : Config) (info : PacketInfo) (now : TimePoint) (m : Measurement) (suppressed : Bool)

/-! Each rule works on a store of its own. -/

theorem syn_eq : m.syn cfg info now = { m with synFlood := (m.syn cfg info now).synFlood } := by
  unfold syn
  split <;> rfl

theorem scan_eq : m.scan cfg info now = { m with portScan := (m.scan cfg info now).portScan } := by
  unfold scan
  split <;> rfl

theorem bruteForce_eq :
    m.bruteForce cfg info now = { m with bruteForceState := (m.bruteForce cfg info now).bruteForceState } := by
  unfold bruteForce
  split <;> rfl

theorem dns_eq :
    m.dns cfg info now suppressed = { m with dnsTxtState := (m.dns cfg info now suppressed).dnsTxtState } := by
  unfold dns
  split <;> rfl

theorem exfil_eq : m.exfil info now = { m with exfilState := (m.exfil info now).exfilState } := by
  unfold exfil
  split <;> rfl

theorem observe_synFlood (looked : inspected info = true) :
    (m.observe cfg info now suppressed).synFlood = (m.syn cfg info now).synFlood := by
  rw [observe, if_pos looked, exfil_eq, dns_eq, bruteForce_eq, scan_eq]
  unfold syn
  split <;> rfl

theorem observe_portScan (looked : inspected info = true) :
    (m.observe cfg info now suppressed).portScan = (m.scan cfg info now).portScan := by
  rw [observe, if_pos looked, exfil_eq, dns_eq, bruteForce_eq, syn_eq]
  unfold scan
  split <;> rfl

theorem observe_bruteForceState (looked : inspected info = true) :
    (m.observe cfg info now suppressed).bruteForceState = (m.bruteForce cfg info now).bruteForceState := by
  rw [observe, if_pos looked, exfil_eq, dns_eq, scan_eq, syn_eq]
  unfold bruteForce
  split <;> rfl

theorem observe_exfilState (looked : inspected info = true) :
    (m.observe cfg info now suppressed).exfilState = (m.exfil info now).exfilState := by
  rw [observe, if_pos looked, dns_eq, bruteForce_eq, scan_eq, syn_eq]
  unfold exfil
  split <;> rfl

end Measurement

/-- An entry worked on under one key, seen from another. -/
theorem lookup_insert_if {κ ε : Type} [DecidableEq κ] (store : AList fun _ : κ => ε) (reached : Bool) (k k' : κ)
    (e : κ → ε) : (if reached then store.insert k (e k) else store).lookup k' =
      if (reached && decide (k = k')) = true then some (e k') else store.lookup k' := by
  cases reached with
  | false => rfl
  | true =>
      by_cases same : k = k'
      · subst same
        rw [if_pos rfl, if_pos (by simp), AList.lookup_insert]
      · rw [if_pos rfl, if_neg (by simpa using same), AList.lookup_insert_ne (Ne.symm same)]

namespace ThreatDetector
variable (d : ThreatDetector) (p : Timed) (src : Octets)

theorem measured_of_skipped (skipped : Measurement.inspected p.info = false) :
    (after (inspect p.info p.now) d).measured = d.measured := by
  rw [inspect_measured, Measurement.observe, skipped]
  rfl

/-- What an inspection makes of one source's entry in the store that a rule works on. -/
theorem entry_after {ε : Type} (store : Measurement → Store ε) (reached : Bool) (work : Octets → ε)
    (measured : Measurement.inspected p.info = true →
      store (after (inspect p.info p.now) d).measured =
        if reached then (store d.measured).insert p.info.srcIp (work p.info.srcIp) else store d.measured) :
    (store (after (inspect p.info p.now) d).measured).lookup src =
      if (Measurement.inspected p.info && reached && p.comesFrom src) = true then some (work src)
      else (store d.measured).lookup src := by
  have all : store (after (inspect p.info p.now) d).measured =
      if Measurement.inspected p.info && reached then (store d.measured).insert p.info.srcIp (work p.info.srcIp)
      else store d.measured := by
    cases looked : Measurement.inspected p.info with
    | false =>
        rw [measured_of_skipped d p looked]
        rfl
    | true => exact measured looked
  rw [all, lookup_insert_if, Timed.comesFrom]

theorem synFlood_after : (after (inspect p.info p.now) d).synFlood.lookup src =
    if p.tcpFrom src then
      some (((d.synFlood.lookup src).getD (.create p.now)).receive d.config.synFlood p.synPacket)
    else d.synFlood.lookup src := by
  apply entry_after d p src (·.synFlood) (p.info.l4Proto == .TCP) fun src =>
    ((d.synFlood.lookup src).getD (.create p.now)).receive d.config.synFlood p.synPacket
  intro looked
  rw [inspect_measured, Measurement.observe_synFlood _ _ _ _ _ looked, Measurement.syn]
  by_cases tcp : p.info.l4Proto = .TCP
  · rw [if_pos tcp, if_pos (by simpa using tcp)]
    rfl
  · rw [if_neg tcp, if_neg (by simpa using tcp)]

theorem portScan_after : (after (inspect p.info p.now) d).portScan.lookup src =
    if p.scansFrom src then
      some (((d.portScan.lookup src).getD (.create p.now)).receive d.config.portScan p.scanPacket)
    else d.portScan.lookup src := by
  apply entry_after d p src (·.portScan) (p.info.dstPort != 0) fun src =>
    ((d.portScan.lookup src).getD (.create p.now)).receive d.config.portScan p.scanPacket
  intro looked
  rw [inspect_measured, Measurement.observe_portScan _ _ _ _ _ looked, Measurement.scan]
  by_cases port : p.info.dstPort ≠ 0
  · have reached : (p.info.dstPort != 0) = true := bne_iff_ne.mpr port
    rw [if_pos port, if_pos reached]
    rfl
  · have other : ¬ (p.info.dstPort != 0) = true := fun reached => port (bne_iff_ne.mp reached)
    rw [if_neg port, if_neg other]

theorem bruteForceState_after : (after (inspect p.info p.now) d).bruteForceState.lookup src =
    if p.sensitiveFrom d.config.bruteForce src then
      some (((d.bruteForceState.lookup src).getD {}).hit p.info.dstPort p.now).2
    else d.bruteForceState.lookup src := by
  apply entry_after d p src (·.bruteForceState)
    (p.info.dstPort != 0 && isSensitivePort d.config.bruteForce p.info.dstPort) fun src =>
      (((d.bruteForceState.lookup src).getD {}).hit p.info.dstPort p.now).2
  intro looked
  rw [inspect_measured, Measurement.observe_bruteForceState _ _ _ _ _ looked, Measurement.bruteForce]
  by_cases watched : p.info.dstPort ≠ 0 ∧ isSensitivePort d.config.bruteForce p.info.dstPort = true
  · rw [if_pos watched, if_pos (by simpa using watched)]
    rfl
  · rw [if_neg watched, if_neg (by simpa using watched)]

theorem exfilState_after : (after (inspect p.info p.now) d).exfilState.lookup src =
    if p.carriesFrom src then
      some (((d.exfilState.lookup src).getD ⟨0, 0⟩).add p.info.l7PayloadLength p.now).2
    else d.exfilState.lookup src := by
  apply entry_after d p src (·.exfilState) (decide (p.info.l7PayloadLength > 0)) fun src =>
    (((d.exfilState.lookup src).getD ⟨0, 0⟩).add p.info.l7PayloadLength p.now).2
  intro looked
  rw [inspect_measured, Measurement.observe_exfilState _ _ _ _ _ looked, Measurement.exfil]
  by_cases payload : p.info.l7PayloadLength > 0
  · rw [if_pos payload, if_pos (by simpa using payload)]
    rfl
  · rw [if_neg payload, if_neg (by simpa using payload)]

end ThreatDetector

/-! ## Entries over whole runs -/

/-- The SYN-flood rule on the packets of one source. -/
def synRule (cfg : SynFloodConfig) : Engine Octets Timed PerIpSynProfile (Option SynFloodResult) where
  key p := p.info.srcIp
  create p := .create p.now
  work profile p := profile.inspect cfg p.info.tcpFlags p.now

/-- The brute-force rule on the packets of one source to one port. -/
def hitRule : Engine (Octets × UInt16) Timed RateWindow (Option ℚ) where
  key p := (p.info.srcIp, p.info.dstPort)
  create p := ⟨p.now, 0⟩
  work win p := win.hit p.now

/-- The exfiltration rule on the packets of one source. A new window starts at the clock's epoch. -/
def exfilRule : Engine Octets Timed RateWindow (Option ℚ) where
  key p := p.info.srcIp
  create _ := ⟨0, 0⟩
  work win p := win.add p.info.l7PayloadLength p.now

/-- The packets of the source to the port, if the port is a sensitive one. -/
def Timed.hitsFrom (cfg : BruteForceConfig) (src : Octets) (port : UInt16) (p : Timed) : Bool :=
  p.sensitiveFrom cfg src && decide (p.info.dstPort = port)

namespace ThreatDetector
variable (cfg : Config) (src : Octets) (packets : List Timed)

/-- An entry that each packet reaching it works on is what the rule makes of these packets. -/
theorem view_own {κ ε ρ : Type} (m : Engine κ Timed ε ρ) (view : ThreatDetector → Option ε) (reached : Timed → Bool)
    (fresh : view { config := cfg } = none)
    (step : ∀ d p, d.config = cfg → view (after (inspect p.info p.now) d) =
      if reached p then some (m.work ((view d).getD (m.create p)) p).2 else view d) :
    view (inspectAll cfg packets) = m.own (packets.filter reached) := by
  induction packets using List.reverseRecOn with
  | nil => exact fresh
  | append_singleton packets p ih =>
      rw [inspectAll_snoc, step _ _ (inspectAll_config cfg packets), ih, List.filter_append]
      split
      · rename_i here
        rw [List.filter_cons_of_pos here, List.filter_nil, Engine.own_snoc]
      · rename_i other
        rw [List.filter_cons_of_neg other, List.filter_nil, List.append_nil]

theorem synFlood_own : (inspectAll cfg packets).synFlood.lookup src =
    (synRule cfg.synFlood).own (packets.filter (·.tcpFrom src)) := by
  apply view_own cfg packets (synRule cfg.synFlood) (·.synFlood.lookup src) (·.tcpFrom src)
  · rfl
  · intro d p config
    rw [synFlood_after, config]
    rfl

theorem bruteForceState_own (port : UInt16) :
    ((inspectAll cfg packets).bruteForceState.lookup src).bind (·.portWindows.lookup port) =
      hitRule.own (packets.filter (·.hitsFrom cfg.bruteForce src port)) := by
  apply view_own cfg packets hitRule (fun d => (d.bruteForceState.lookup src).bind (·.portWindows.lookup port))
    (·.hitsFrom cfg.bruteForce src port)
  · rfl
  · intro d p config
    rw [bruteForceState_after, config, Timed.hitsFrom]
    by_cases sensitive : p.sensitiveFrom cfg.bruteForce src = true
    · rw [if_pos sensitive, sensitive, Option.bind_some]
      by_cases same : p.info.dstPort = port
      · rw [if_pos (by simpa using same), PerIpBruteForceState.hit, ← same]
        dsimp only
        rw [AList.lookup_insert]
        cases d.bruteForceState.lookup src <;> rfl
      · rw [if_neg (by simpa using same), PerIpBruteForceState.hit]
        dsimp only
        rw [AList.lookup_insert_ne (Ne.symm same)]
        cases d.bruteForceState.lookup src <;> rfl
    · rw [if_neg sensitive, if_neg (by simp [sensitive])]

theorem exfilState_own : (inspectAll cfg packets).exfilState.lookup src =
    exfilRule.own (packets.filter (·.carriesFrom src)) := by
  apply view_own cfg packets exfilRule (·.exfilState.lookup src) (·.carriesFrom src)
  · rfl
  · intro d p config
    rw [exfilState_after]
    rfl

/-- The profile of a source is what the port-scan engine makes of its packets. -/
theorem portScan_own :
    (inspectAll cfg packets).portScan.lookup src =
      (scanEngine cfg.portScan).own
        ((packets.filter (·.scansFrom src)).map fun p => ⟨src, p.scanPacket⟩) := by
  rw [← Engine.own_comap]
  apply view_own cfg packets ((scanEngine cfg.portScan).comap fun p : Timed => ⟨src, p.scanPacket⟩)
    (·.portScan.lookup src) (·.scansFrom src)
  · rfl
  · intro d p config
    rw [portScan_after, config]
    rfl

end ThreatDetector

end Nte
