import NetworkThreatEngine.Dissector.Extractors
import NetworkThreatEngine.Dissector.Format
import NetworkThreatEngine.Dissector.Wire

/-!
# The frame dissector

`dissect_packet`, cut at its layers. Each layer receives the captured bytes, their number, its
own offset and the partly filled `PacketInfo`; an early `return info` is an `ok` result.
-/
namespace Nte
open ByteReader ByteReader.Outcome Constants

def PacketInfo.truncate (info : PacketInfo) : PacketInfo := { info with truncated := true }

def PacketInfo.withTcp (info : PacketInfo) (tcp : WireTCP) : PacketInfo :=
  { info with
    l4Proto := .TCP, srcPort := tcp.srcPort, dstPort := tcp.dstPort, tcpSeq := tcp.seqNumber,
    tcpAck := tcp.ackNumber, tcpFlags := tcp.flags, tcpWindow := tcp.windowSize }

def PacketInfo.withUdp (info : PacketInfo) (udp : WireUDP) : PacketInfo :=
  { info with l4Proto := .UDP, srcPort := udp.srcPort, dstPort := udp.dstPort }

def PacketInfo.withPayload (info : PacketInfo) (off length : Nat) : PacketInfo :=
  { info with l7Payload := some off, l7PayloadLength := length }

/-- `info.dst_port == port || info.src_port == port`. -/
def PacketInfo.usesPort (info : PacketInfo) (port : UInt16) : Bool :=
  info.dstPort == port || info.srcPort == port

/-! ## IPv4 -/

def dissectIpv4TcpPayload (payload : Octets) (l7Len : Nat) (info : PacketInfo) : Outcome PacketInfo :=
  if info.usesPort PORT_DNS then extractDns payload l7Len info
  else if info.usesPort PORT_HTTPS then extractTls payload l7Len info
  else if info.usesPort PORT_HTTP then extractHttp payload l7Len info
  else extractHttp payload l7Len info

def dissectIpv4Tcp (data : Octets) (len l4Offset l4Len : Nat) (info : PacketInfo) :
    Outcome PacketInfo :=
  if l4Len < sizeofTCP then .ok info.truncate
  else do
    let tcp ← readTCP data l4Offset
    let tcpHdr := tcp.headerBytes
    if tcpHdr < sizeofTCP || l4Len < tcpHdr then .ok info.truncate
    else do
      let info := info.withTcp tcp
      let l7Offset := l4Offset + tcpHdr
      let l7Len ← sub len l7Offset
      if l7Len > 0 then
        dissectIpv4TcpPayload (data.drop l7Offset) l7Len (info.withPayload l7Offset l7Len)
      else .ok info

def dissectIpv4Udp (data : Octets) (len l4Offset l4Len : Nat) (info : PacketInfo) :
    Outcome PacketInfo :=
  if l4Len < sizeofUDP then .ok info.truncate
  else do
    let udp ← readUDP data l4Offset
    let info := info.withUdp udp
    let l7Offset := l4Offset + sizeofUDP
    let l7Len ← sub len l7Offset
    if l7Len > 0 then
      let info := info.withPayload l7Offset l7Len
      if info.usesPort PORT_DNS then extractDns (data.drop l7Offset) l7Len info else .ok info
    else .ok info

def PacketInfo.withIpv4 (info : PacketInfo) (ip : WireIPv4) : PacketInfo :=
  { info with
    l3Proto := .IPv4, ipProtoNum := ip.protocol, ttlOrHopLimit := ip.ttl,
    ipTotalLength := ip.totalLength, ipFragmented := ip.moreFragments || ip.fragmentOffset > 0,
    srcIp := formatIpv4 ip.srcAddr, dstIp := formatIpv4 ip.dstAddr, valid := true }

def dissectIpv4L4 (data : Octets) (len l4Offset : Nat) (ip : WireIPv4) (info : PacketInfo) :
    Outcome PacketInfo := do
  let l4Len ← sub len l4Offset
  if ip.protocol = IPPROTO_TCP_NUM then dissectIpv4Tcp data len l4Offset l4Len info
  else if ip.protocol = IPPROTO_UDP_NUM then dissectIpv4Udp data len l4Offset l4Len info
  else if ip.protocol = IPPROTO_ICMP_V4 then .ok { info with l4Proto := .ICMP }
  else .ok { info with l4Proto := .OTHER }

def dissectIpv4 (data : Octets) (len l3Offset : Nat) (info : PacketInfo) : Outcome PacketInfo :=
  if len < l3Offset + sizeofIPv4 then .ok info.truncate
  else do
    let ip ← readIPv4 data l3Offset
    if ip.version ≠ 4 then .ok info
    else
      let ihl := ip.ihlBytes
      if ihl < sizeofIPv4 || len < l3Offset + ihl then .ok info.truncate
      else dissectIpv4L4 data len (l3Offset + ihl) ip (info.withIpv4 ip)

/-! ## IPv6 -/

def dissectIpv6TcpPayload (payload : Octets) (l7Len : Nat) (info : PacketInfo) : Outcome PacketInfo :=
  if info.usesPort PORT_HTTPS then extractTls payload l7Len info
  else if info.usesPort PORT_HTTP then extractHttp payload l7Len info
  else .ok info

def dissectIpv6Tcp (data : Octets) (len l4Offset l4Len : Nat) (info : PacketInfo) :
    Outcome PacketInfo := do
  let tcp ← readTCP data l4Offset
  let tcpHdr := tcp.headerBytes
  if tcpHdr ≥ sizeofTCP && l4Len ≥ tcpHdr then do
    let info := info.withTcp tcp
    let l7Offset := l4Offset + tcpHdr
    let l7Len ← sub len l7Offset
    if l7Len > 0 then
      dissectIpv6TcpPayload (data.drop l7Offset) l7Len (info.withPayload l7Offset l7Len)
    else .ok info
  else .ok info

def dissectIpv6Udp (data : Octets) (len l4Offset : Nat) (info : PacketInfo) :
    Outcome PacketInfo := do
  let udp ← readUDP data l4Offset
  let info := info.withUdp udp
  let l7Offset := l4Offset + sizeofUDP
  let l7Len ← sub len l7Offset
  if l7Len > 0 && info.usesPort PORT_DNS then
    extractDns (data.drop l7Offset) l7Len (info.withPayload l7Offset l7Len)
  else .ok info

def PacketInfo.withIpv6 (info : PacketInfo) (ip6 : WireIPv6) : PacketInfo :=
  { info with
    l3Proto := .IPv6, ipProtoNum := ip6.nextHeader, ttlOrHopLimit := ip6.hopLimit,
    ipTotalLength := UInt16.ofNat (ip6.payloadLength.toNat + sizeofIPv6),
    srcIp := formatIpv6 ip6.srcAddr, dstIp := formatIpv6 ip6.dstAddr, valid := true }

def dissectIpv6L4 (data : Octets) (len l4Offset : Nat) (ip6 : WireIPv6) (info : PacketInfo) :
    Outcome PacketInfo := do
  let l4Len ← sub len l4Offset
  if ip6.nextHeader = IPPROTO_TCP_NUM ∧ l4Len ≥ sizeofTCP then
    dissectIpv6Tcp data len l4Offset l4Len info
  else if ip6.nextHeader = IPPROTO_UDP_NUM ∧ l4Len ≥ sizeofUDP then
    dissectIpv6Udp data len l4Offset info
  else if ip6.nextHeader = IPPROTO_ICMPV6 then .ok { info with l4Proto := .ICMP }
  else .ok info

def dissectIpv6 (data : Octets) (len l3Offset : Nat) (info : PacketInfo) : Outcome PacketInfo :=
  if len < l3Offset + sizeofIPv6 then .ok info.truncate
  else do
    let ip6 ← readIPv6 data l3Offset
    if ip6.version ≠ 6 then .ok info
    else dissectIpv6L4 data len (l3Offset + sizeofIPv6) ip6 (info.withIpv6 ip6)

/-! ## Link layer -/

def dissectL3 (data : Octets) (len l3Offset : Nat) (info : PacketInfo) : Outcome PacketInfo :=
  if info.etherType = ETHERTYPE_IPV4 then dissectIpv4 data len l3Offset info
  else if info.etherType = ETHERTYPE_IPV6 then dissectIpv6 data len l3Offset info
  else if info.etherType = ETHERTYPE_ARP then .ok { info with l3Proto := .ARP, valid := true }
  else .ok info

def PacketInfo.withEthernet (info : PacketInfo) (eth : WireEthernet) : PacketInfo :=
  { info with
    dstMac := eth.dstMac, srcMac := eth.srcMac, etherType := eth.etherType, hasEthernet := true }

def dissectEthernet (data : Octets) (len : Nat) (info : PacketInfo) : Outcome PacketInfo :=
  if len < sizeofEthernet then .ok info.truncate
  else do
    let eth ← readEthernet data 0
    let info := info.withEthernet eth
    let l3Offset := sizeofEthernet
    if info.etherType = ETHERTYPE_VLAN then
      if len < l3Offset + 4 then .ok info.truncate
      else do
        let innerType ← be16 data (l3Offset + 2)
        dissectL3 data len (l3Offset + 4) { info with etherType := innerType }
    else dissectL3 data len l3Offset info

/-- The metadata every result carries. -/
def CapturedPacket.blankInfo (raw : CapturedPacket) : PacketInfo :=
  { timestampUs := raw.timestampUs, capturedLength := raw.capturedLength,
    originalLength := raw.originalLength }

/-- An empty data vector has a null data pointer. -/
def dissectPacket (raw : CapturedPacket) : Outcome PacketInfo :=
  if raw.data.isEmpty || raw.capturedLength = 0 then .ok raw.blankInfo
  else dissectEthernet raw.data raw.capturedLength raw.blankInfo

end Nte
