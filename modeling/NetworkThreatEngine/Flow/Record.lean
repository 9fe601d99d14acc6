import NetworkThreatEngine.Flow.Key

/-!
# Flow records

The accounting of one flow: counters for each direction, the TCP state machine, the scan and SYN
windows and the last application-layer values.
-/
namespace Nte
open Constants

inductive TcpState where
  | INIT | SYN_SENT | SYN_RECEIVED | ESTABLISHED | FIN_WAIT | CLOSED
  deriving DecidableEq, Repr

inductive FlowDirection where
  | LO_TO_HI | HI_TO_LO
  deriving DecidableEq, Repr

structure FlowRecord where
  key : FlowKey
  firstSeen : TimePoint
  lastSeen : TimePoint
  totalPackets : UInt64 := 0
  totalBytes : UInt64 := 0
  loToHiPackets : UInt64 := 0
  loToHiBytes : UInt64 := 0
  hiToLoPackets : UInt64 := 0
  hiToLoBytes : UInt64 := 0
  tcpState : TcpState := .INIT
  tcpFlagsSeen : UInt8 := 0
  synCount : UInt64 := 0
  synAckCount : UInt64 := 0
  ackCount : UInt64 := 0
  finCount : UInt64 := 0
  rstCount : UInt64 := 0
  pshCount : UInt64 := 0
  completedHandshakes : UInt32 := 0
  dstPortsContacted : List UInt16 := []
  scanWindowStart : TimePoint
  synWindowCount : UInt64 := 0
  synWindowStart : TimePoint
  l7Proto : L7Protocol := .NONE
  lastDnsQuery : Octets := []
  lastDnsQtype : UInt16 := 0
  lastHttpHost : Octets := []
  lastHttpMethod : Octets := []
  lastTlsSni : Octets := []
  deriving DecidableEq, Repr

namespace FlowRecord

/-- The record constructed for a key when the clock reads `now`. -/
def create (key : FlowKey) (now : TimePoint) : FlowRecord :=
  { key, firstSeen := now, lastSeen := now, scanWindowStart := now, synWindowStart := now }

/-! ## The TCP state machine -/

def finSet (flags : UInt8) : Bool := flags &&& TCP_FLAG_FIN != 0
def rstSet (flags : UInt8) : Bool := flags &&& TCP_FLAG_RST != 0
def pshSet (flags : UInt8) : Bool := flags &&& TCP_FLAG_PSH != 0

/-- The flag accumulator and the counters for each flag. -/
def countFlags (record : FlowRecord) (flags : UInt8) : FlowRecord :=
  let syn := synSet flags
  let ack := ackSet flags
  { record with
    tcpFlagsSeen := record.tcpFlagsSeen ||| flags
    synCount := if syn && !ack then record.synCount + 1 else record.synCount
    synAckCount := if syn && ack then record.synAckCount + 1 else record.synAckCount
    ackCount := if !syn && ack then record.ackCount + 1 else record.ackCount
    finCount := if finSet flags then record.finCount + 1 else record.finCount
    rstCount := if rstSet flags then record.rstCount + 1 else record.rstCount
    pshCount := if pshSet flags then record.pshCount + 1 else record.pshCount }

/-- The transition of a packet without RST. A SYN on a closed connection reopens it. -/
def transition (record : FlowRecord) (syn ack fin : Bool) : FlowRecord :=
  match record.tcpState with
  | .INIT => if syn && !ack then { record with tcpState := .SYN_SENT } else record
  | .SYN_SENT => if syn && ack then { record with tcpState := .SYN_RECEIVED } else record
  | .SYN_RECEIVED =>
      if !syn && ack then
        { record with tcpState := .ESTABLISHED, completedHandshakes := record.completedHandshakes + 1 }
      else record
  | .ESTABLISHED => if fin then { record with tcpState := .FIN_WAIT } else record
  | .FIN_WAIT => if fin && ack then { record with tcpState := .CLOSED } else record
  | .CLOSED =>
      if syn && !ack then
        { record with
          tcpState := .SYN_SENT, synCount := 1, synAckCount := 0, ackCount := 0, finCount := 0,
          rstCount := 0 }
      else record

/-- Whether the state changed, and the record afterwards. The direction is not looked at. -/
def advanceTcpState (record : FlowRecord) (flags : UInt8) (_direction : FlowDirection) : Bool × FlowRecord :=
  let counted := record.countFlags flags
  let moved :=
    if rstSet flags then { counted with tcpState := .CLOSED }
    else counted.transition (synSet flags) (ackSet flags) (finSet flags)
  (moved.tcpState != record.tcpState, moved)

/-! ## A packet of the flow -/

/-- Packet and byte counters. -/
def account (record : FlowRecord) (bytes : UInt64) (direction : FlowDirection) : FlowRecord :=
  let record := { record with
    totalPackets := record.totalPackets + 1, totalBytes := record.totalBytes + bytes }
  match direction with
  | .LO_TO_HI =>
      { record with
        loToHiPackets := record.loToHiPackets + 1, loToHiBytes := record.loToHiBytes + bytes }
  | .HI_TO_LO =>
      { record with
        hiToLoPackets := record.hiToLoPackets + 1, hiToLoBytes := record.hiToLoBytes + bytes }

/-- The port-scan set, emptied every ten seconds. -/
def contactPort (record : FlowRecord) (port : UInt16) (now : TimePoint) : FlowRecord :=
  let record := if secondsBetween now record.scanWindowStart ≥ 10 then
      { record with dstPortsContacted := [], scanWindowStart := now }
    else record
  { record with dstPortsContacted := record.dstPortsContacted.insert port }

/-- The SYN window of a second. -/
def countSyn (record : FlowRecord) (now : TimePoint) : FlowRecord :=
  let record := if secondsBetween now record.synWindowStart ≥ 1 then
      { record with synWindowCount := 0, synWindowStart := now }
    else record
  { record with synWindowCount := record.synWindowCount + 1 }

def updateTcp (record : FlowRecord) (info : PacketInfo) (direction : FlowDirection) (now : TimePoint) :
    FlowRecord :=
  let record := (record.advanceTcpState info.tcpFlags direction).2
  let record := if direction = .LO_TO_HI ∧ info.dstPort ≠ 0 then record.contactPort info.dstPort now else record
  if synSet info.tcpFlags && !ackSet info.tcpFlags then record.countSyn now else record

def updateDns (record : FlowRecord) : Option DnsInfo → FlowRecord
  | some dns => { record with lastDnsQuery := dns.queryName, lastDnsQtype := dns.queryType }
  | none => record

def updateHttp (record : FlowRecord) : Option HttpInfo → FlowRecord
  | some http => { record with lastHttpHost := http.host, lastHttpMethod := http.method }
  | none => record

def updateTls (record : FlowRecord) : Option TlsInfo → FlowRecord
  | some tls => { record with lastTlsSni := tls.sni }
  | none => record

/-- What the packet says about the application layer. -/
def updateL7 (record : FlowRecord) (info : PacketInfo) : FlowRecord :=
  let record := if info.l7Proto ≠ .NONE then { record with l7Proto := info.l7Proto } else record
  ((record.updateDns info.dns).updateHttp info.http).updateTls info.tls

/-- `FlowTracker::update_record`. -/
def updateRecord (record : FlowRecord) (info : PacketInfo) (direction : FlowDirection) (now : TimePoint) :
    FlowRecord :=
  let record := { record with lastSeen := now }.account (UInt64.ofNat info.capturedLength) direction
  let record := if info.l4Proto = .TCP then record.updateTcp info direction now else record
  record.updateL7 info

end FlowRecord

end Nte
