import NetworkThreatEngine.Detect.Profiles
import NetworkThreatEngine.Lib.StateRules

/-!
# The threat detector

The detector keeps one store for each rule, keyed by source address, and the times of the last
alerts. A profile or window that is created in a call reads the clock at that call. What reaches
`delivery_fire_alert` is kept in the order of the calls.
-/
namespace Nte
open StateRules Constants

/-- An `unordered_map` keyed by source address. -/
abbrev Store (ε : Type) := AList fun _ : Octets => ε

structure PerIpSuppressionState where
  lastFired : AList (fun _ : AttackType => TimePoint) := ∅

def PerIpSuppressionState.isSuppressed (s : PerIpSuppressionState) (type : AttackType) (sec : ℚ)
    (now : TimePoint) : Bool :=
  match s.lastFired.lookup type with
  | none => false
  | some last => secondsBetween now last < sec

def PerIpSuppressionState.record (s : PerIpSuppressionState) (type : AttackType) (now : TimePoint) :
    PerIpSuppressionState :=
  { lastFired := s.lastFired.insert type now }

structure PerIpBruteForceState where
  portWindows : AList (fun _ : UInt16 => RateWindow) := ∅

/-- The rate of a port window that came to its end, and the state with the window after this packet. -/
def PerIpBruteForceState.hit (s : PerIpBruteForceState) (port : UInt16) (now : TimePoint) :
    Option ℚ × PerIpBruteForceState :=
  let (rate, win) := ((s.portWindows.lookup port).getD ⟨now, 0⟩).hit now
  (rate, { portWindows := s.portWindows.insert port win })

structure ThreatDetector where
  config : Config
  ewma : Store PerIpEwmaProfile := ∅
  portScan : Store PerIpScanProfile := ∅
  synFlood : Store PerIpSynProfile := ∅
  suppression : Store PerIpSuppressionState := ∅
  bruteForceState : Store PerIpBruteForceState := ∅
  exfilState : Store RateWindow := ∅
  dnsTxtState : Store RateWindow := ∅
  totalAlertsFired : UInt64 := 0
  delivered : List Fired := []

namespace ThreatDetector

/-- One store of the detector: how it is read and replaced. -/
structure Field (ε : Type) where
  read : ThreatDetector → Store ε
  write : ThreatDetector → Store ε → ThreatDetector

def ewmaField : Field PerIpEwmaProfile := ⟨ewma, fun d s => { d with ewma := s }⟩
def portScanField : Field PerIpScanProfile := ⟨portScan, fun d s => { d with portScan := s }⟩
def synFloodField : Field PerIpSynProfile := ⟨synFlood, fun d s => { d with synFlood := s }⟩
def bruteForceField : Field PerIpBruteForceState := ⟨bruteForceState, fun d s => { d with bruteForceState := s }⟩
def exfilField : Field RateWindow := ⟨exfilState, fun d s => { d with exfilState := s }⟩
def dnsTxtField : Field RateWindow := ⟨dnsTxtState, fun d s => { d with dnsTxtState := s }⟩

/-- Works on the entry of one source, which is created when there is none. -/
def onEntry {ε β : Type} (field : Field ε) (src : Octets) (f : Config → Option ε → β × ε) :
    StateM ThreatDetector β :=
  modifyGet fun d =>
    let (b, entry) := f d.config ((field.read d).lookup src)
    (b, field.write d ((field.read d).insert src entry))

def updateEwma (src : Octets) (packetBytes : Nat) (now : TimePoint) :
    StateM ThreatDetector (Option EWMAResult) :=
  onEntry ewmaField src fun cfg p => (p.getD (.create now)).update cfg.ewma packetBytes now

def inspectSynFlood (src : Octets) (tcpFlags : UInt8) (now : TimePoint) :
    StateM ThreatDetector (Option SynFloodResult) :=
  onEntry synFloodField src fun cfg p => (p.getD (.create now)).inspect cfg.synFlood tcpFlags now

def inspectPortScan (src : Octets) (dstPort : UInt16) (tcpFlags : UInt8) (now : TimePoint) :
    StateM ThreatDetector (Option PortScanResult) :=
  onEntry portScanField src fun cfg p => (p.getD (.create now)).inspect cfg.portScan dstPort tcpFlags now

def hitPortWindow (src : Octets) (dstPort : UInt16) (now : TimePoint) : StateM ThreatDetector (Option ℚ) :=
  onEntry bruteForceField src fun _ s => (s.getD {}).hit dstPort now

/-- A new pair of window start and count is value-initialised: the clock's epoch and zero. -/
def hitTxtWindow (src : Octets) (now : TimePoint) : StateM ThreatDetector (Option ℚ) :=
  onEntry dnsTxtField src fun _ w => (w.getD ⟨0, 0⟩).hit now

def addExfil (src : Octets) (bytes : Nat) (now : TimePoint) : StateM ThreatDetector (Option ℚ) :=
  onEntry exfilField src fun _ w => (w.getD ⟨0, 0⟩).add bytes now

/-! ## Suppression and firing -/

def isSuppressed (d : ThreatDetector) (src : Octets) (type : AttackType) (now : TimePoint) : Bool :=
  match d.suppression.lookup src with
  | none => false
  | some s => s.isSuppressed type d.config.delivery.alertSuppressionSec now

def recordSuppression (d : ThreatDetector) (src : Octets) (type : AttackType) (now : TimePoint) :
    ThreatDetector :=
  { d with suppression := d.suppression.insert src (((d.suppression.lookup src).getD {}).record type now) }

def deliveryFireAlert (d : ThreatDetector) (alert : ThreatAlert) (now : TimePoint) : ThreatDetector :=
  { d with delivered := d.delivered ++ [⟨alert, now⟩] }

def fired (d : ThreatDetector) (alert : ThreatAlert) (now : TimePoint) : ThreatDetector :=
  let d := d.recordSuppression alert.srcIp alert.attackType now
  { d with totalAlertsFired := d.totalAlertsFired + 1 }.deliveryFireAlert alert now

def fire (alert : ThreatAlert) (now : TimePoint) : StateM ThreatDetector Unit :=
  modify fun d => d.fired alert now

/-- `if (is_suppressed(…)) return;` before the rest of a handler. -/
def unlessSuppressed (src : Octets) (type : AttackType) (now : TimePoint)
    (rest : Config → StateM ThreatDetector Unit) : StateM ThreatDetector Unit := do
  let suppressed ← query (isSuppressed · src type now)
  let cfg ← query config
  if suppressed then pure () else rest cfg

/-! ## The alerts of the rules -/

def volumeAlert (cfg : Config) (info : PacketInfo) (r : EWMAResult) : ThreatAlert :=
  { ThreatAlert.about info .VOLUME_ANOMALY r.severity (ascii "Traffic spike: " ++ fixedPoint 1 r.observedPps ++
      ascii " pps vs baseline " ++ fixedPoint 1 r.baselinePps ++ ascii " pps (" ++ fixedPoint 1 r.ratio ++
      ascii "x)") with
    observedValue := r.observedPps
    baselineValue := r.baselinePps
    thresholdValue := r.baselinePps * cfg.ewma.mediumMultiplier }

def synFloodAlert (cfg : Config) (info : PacketInfo) (r : SynFloodResult) : ThreatAlert :=
  { ThreatAlert.about info .SYN_FLOOD r.severity (ascii "SYN flood: " ++ fixedPoint 1 r.synRatePps ++
      ascii " pps, ratio=" ++ fixedPoint 1 (r.synRatio * 100) ++ ascii "%, handshakes=" ++
      Numeral.numeral 10 r.completedHandshakes) with
    observedValue := r.synRatePps
    thresholdValue := cfg.synFlood.synRatePps }

def portScanAlert (cfg : Config) (info : PacketInfo) (r : PortScanResult) : ThreatAlert :=
  { ThreatAlert.about info .PORT_SCAN r.severity (ascii "Port scan: " ++
      Numeral.numeral 10 r.distinctPorts.toNat ++ ascii " ports in " ++ fixedPoint 1 r.windowSec ++
      ascii "s, SYN ratio=" ++ fixedPoint 1 (r.synRatio * 100) ++ ascii "%") with
    observedValue := r.distinctPorts.toNat
    thresholdValue := cfg.portScan.distinctPortThreshold.toNat }

def portToServiceName (port : UInt16) : Octets :=
  if port = 22 then ascii "SSH"
  else if port = 23 then ascii "Telnet"
  else if port = 21 then ascii "FTP"
  else if port = 25 then ascii "SMTP"
  else if port = 110 then ascii "POP3"
  else if port = 143 then ascii "IMAP"
  else if port = 3389 then ascii "RDP"
  else if port = 5900 then ascii "VNC"
  else ascii "PORT"

def bruteForceAlert (cfg : Config) (info : PacketInfo) (rate : ℚ) : ThreatAlert :=
  { ThreatAlert.about info .BRUTE_FORCE (if rate ≥ cfg.bruteForce.ratePps * 3 then .CRITICAL else .HIGH)
      (ascii "Brute force on " ++ portToServiceName info.dstPort ++ ascii " port=" ++
        Numeral.numeral 10 info.dstPort.toNat ++ ascii " rate=" ++ fixedPoint 1 rate ++ ascii " pps") with
    observedValue := rate
    thresholdValue := cfg.bruteForce.ratePps }

/-- The length of the longest label: the scan visits every byte and the end of the name. -/
def maxLabel (qname : Octets) : Nat :=
  let scan (acc : Nat × Nat) (i : Nat) : Nat × Nat :=
    if i = qname.length || qname.getD i 0 == 46 then (max acc.1 (i - acc.2), i + 1) else acc
  ((List.range (qname.length + 1)).foldl scan (0, 0)).1

def longNameAlert (info : PacketInfo) (qname : Octets) : ThreatAlert :=
  { ThreatAlert.about info .DNS_TUNNELING .HIGH (ascii "Suspicious DNS: len=" ++
      Numeral.numeral 10 qname.length ++ ascii " max_label=" ++ Numeral.numeral 10 (maxLabel qname) ++
      ascii " q=" ++ qname) with
    observedValue := qname.length }

def txtRateAlert (cfg : Config) (info : PacketInfo) (rate : ℚ) : ThreatAlert :=
  { ThreatAlert.about info .DNS_TUNNELING .HIGH (ascii "High DNS TXT rate: " ++ fixedPoint 1 rate ++
      ascii " TXT/s") with
    observedValue := rate
    thresholdValue := cfg.dnsTunneling.txtRatePps }

def exfilMedium : ℚ := 5000000
def exfilHigh : ℚ := 20000000

def exfilAlert (info : PacketInfo) (bps : ℚ) : ThreatAlert :=
  { ThreatAlert.about info .DATA_EXFILTRATION (if bps ≥ exfilHigh then .HIGH else .MEDIUM)
      (ascii "Outbound " ++ fixedPoint 2 (bps / 1000000) ++ ascii " MB/s") with
    observedValue := bps
    thresholdValue := exfilMedium }

/-! ## The handlers -/

def handleEwmaAnomaly (info : PacketInfo) (r : EWMAResult) (now : TimePoint) : StateM ThreatDetector Unit :=
  unlessSuppressed info.srcIp .VOLUME_ANOMALY now fun cfg => fire (volumeAlert cfg info r) now

def handleSynFlood (info : PacketInfo) (r : SynFloodResult) (now : TimePoint) : StateM ThreatDetector Unit :=
  unlessSuppressed info.srcIp .SYN_FLOOD now fun cfg => fire (synFloodAlert cfg info r) now

def handlePortScan (info : PacketInfo) (r : PortScanResult) (now : TimePoint) : StateM ThreatDetector Unit :=
  unlessSuppressed info.srcIp .PORT_SCAN now fun cfg => fire (portScanAlert cfg info r) now

def checkBruteForce (info : PacketInfo) (now : TimePoint) : StateM ThreatDetector Unit := do
  match ← hitPortWindow info.srcIp info.dstPort now with
  | some rate =>
      let cfg ← query config
      if rate ≥ cfg.bruteForce.ratePps then
        unlessSuppressed info.srcIp .BRUTE_FORCE now fun cfg => fire (bruteForceAlert cfg info rate) now
      else pure ()
  | none => pure ()

def longName (cfg : DnsTunnelingConfig) (qname : Octets) : Bool :=
  qname.length ≥ cfg.maxFqdnLength || maxLabel qname ≥ cfg.maxLabelLength

def checkTxtRate (info : PacketInfo) (now : TimePoint) : StateM ThreatDetector Unit := do
  match ← hitTxtWindow info.srcIp now with
  | some rate =>
      let cfg ← query config
      if rate ≥ cfg.dnsTunneling.txtRatePps then
        unlessSuppressed info.srcIp .DNS_TUNNELING now fun cfg => fire (txtRateAlert cfg info rate) now
      else pure ()
  | none => pure ()

/-- A long name that raises its alert ends the check; otherwise TXT queries are counted. -/
def checkDnsTunneling (info : PacketInfo) (dns : DnsInfo) (now : TimePoint) : StateM ThreatDetector Unit := do
  let cfg ← query config
  let suppressed ← query (isSuppressed · info.srcIp .DNS_TUNNELING now)
  if longName cfg.dnsTunneling dns.queryName && !suppressed then fire (longNameAlert info dns.queryName) now
  else if dns.queryType = DNS_QTYPE_TXT then checkTxtRate info now
  else pure ()

def checkDataExfiltration (info : PacketInfo) (now : TimePoint) : StateM ThreatDetector Unit := do
  match ← addExfil info.srcIp info.l7PayloadLength now with
  | some bps =>
      if bps ≥ exfilMedium then
        unlessSuppressed info.srcIp .DATA_EXFILTRATION now fun _ => fire (exfilAlert info bps) now
      else pure ()
  | none => pure ()

def isSensitivePort (cfg : BruteForceConfig) (port : UInt16) : Bool := cfg.sensitivePorts.any (· == port)

def inspectVolume (info : PacketInfo) (now : TimePoint) : StateM ThreatDetector Unit := do
  match ← updateEwma info.srcIp info.ipTotalLength.toNat now with
  | some r => handleEwmaAnomaly info r now
  | none => pure ()

def inspectSyn (info : PacketInfo) (now : TimePoint) : StateM ThreatDetector Unit := do
  if info.l4Proto = .TCP then
    match ← inspectSynFlood info.srcIp info.tcpFlags now with
    | some r => handleSynFlood info r now
    | none => pure ()
  else pure ()

def inspectScan (info : PacketInfo) (now : TimePoint) : StateM ThreatDetector Unit := do
  if info.dstPort ≠ 0 then
    match ← inspectPortScan info.srcIp info.dstPort (if info.l4Proto = .TCP then info.tcpFlags else 0) now with
    | some r => handlePortScan info r now
    | none => pure ()
  else pure ()

def inspectBruteForce (info : PacketInfo) (now : TimePoint) : StateM ThreatDetector Unit := do
  let cfg ← query config
  if info.dstPort ≠ 0 ∧ isSensitivePort cfg.bruteForce info.dstPort then checkBruteForce info now
  else pure ()

def inspectDns (info : PacketInfo) (now : TimePoint) : StateM ThreatDetector Unit :=
  match info.dns with
  | some dns => checkDnsTunneling info dns now
  | none => pure ()

def inspectExfil (info : PacketInfo) (now : TimePoint) : StateM ThreatDetector Unit :=
  if info.l7PayloadLength > 0 then checkDataExfiltration info now else pure ()

/-- The flow record the caller passes is not looked at. -/
def inspect (info : PacketInfo) (now : TimePoint) : StateM ThreatDetector Unit := do
  if !info.valid || info.srcIp.isEmpty then pure ()
  else
    inspectVolume info now
    inspectSyn info now
    inspectScan info now
    inspectBruteForce info now
    inspectDns info now
    inspectExfil info now

end ThreatDetector

/-- A packet and the reading of the clock when it is inspected. -/
structure Timed where
  info : PacketInfo
  now : TimePoint
  deriving DecidableEq, Repr

/-- A fresh detector given a sequence of packets. -/
def ThreatDetector.inspectAll (cfg : Config) (packets : List Timed) : ThreatDetector :=
  runAll (fun p : Timed => inspect p.info p.now) { config := cfg } packets

end Nte
