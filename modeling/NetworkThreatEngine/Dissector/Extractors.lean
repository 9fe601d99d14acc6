import NetworkThreatEngine.Lib.ByteReader
import NetworkThreatEngine.Packet

/-!
# Application-layer extractors

`extract_dns`, `extract_http` and `extract_tls` over a payload pointer and a length. An early
`return` that leaves the packet untouched is `reject`. Loops carry fuel, and running out of it
is a `fault`, so that safety includes termination.
-/
namespace Nte
open ByteReader ByteReader.Outcome

/-! ## DNS -/

/-- The QNAME loop: `hopsLeft` counts down from `DNS_MAX_LABEL_HOPS`. The result is the offset
behind the last byte consumed and the name decoded so far. -/
def dnsLabels (payload : Octets) (len : Nat) : Nat → Nat → Octets → Outcome (Nat × Octets)
  | 0, offset, name => .ok (offset, name)
  | hopsLeft + 1, offset, name =>
      if offset < len then do
        let labelLen ← byteAt payload offset
        if labelLen = 0 then return (offset + 1, name)
        else if labelLen &&& 0xC0 = 0xC0 then .reject
        else if offset + 1 + labelLen.toNat > len then .reject
        else do
          let label ← slice payload (offset + 1) labelLen.toNat
          let sep := if name.isEmpty then [] else ascii "."
          dnsLabels payload len hopsLeft (offset + 1 + labelLen.toNat) (name ++ sep ++ label)
      else .ok (offset, name)

def decodeDns (payload : Octets) (len : Nat) : Outcome DnsInfo :=
  if len < Constants.DNS_HEADER_SIZE + 5 then .reject
  else do
    let flags ← byteAt payload 2
    let qdcount ← be16 payload 4
    if qdcount = 0 then .reject
    else do
      let (offset, name) ←
        dnsLabels payload len Constants.DNS_MAX_LABEL_HOPS Constants.DNS_HEADER_SIZE []
      if name.isEmpty || offset + 2 > len then .reject
      else do
        let qtype ← be16 payload offset
        return { queryName := name, queryType := qtype, isResponse := flags &&& 0x80 != 0 }

def extractDns (payload : Octets) (len : Nat) (info : PacketInfo) : Outcome PacketInfo :=
  match decodeDns payload len with
  | .ok dns => .ok { info with dns := some dns, l7Proto := .DNS }
  | .reject => .ok info
  | .fault => .fault

/-! ## HTTP -/

def kMethods : List Octets :=
  [ascii "GET ", ascii "POST ", ascii "PUT ", ascii "DELETE ", ascii "HEAD ", ascii "OPTIONS ",
   ascii "PATCH ", ascii "CONNECT ", ascii "TRACE "]

def kHost : Octets := ascii "Host: "

/-- `memcmp(payload + pos, text, strlen(text)) == 0`. -/
def matchesAt (payload : Octets) (pos : Nat) (text : Octets) : Outcome Bool := do
  let bytes ← slice payload pos text.length
  return bytes == text

/-- The first method the payload starts with, without its trailing space; empty if none. -/
def findMethod (payload : Octets) (len : Nat) : List Octets → Outcome Octets
  | [] => .ok []
  | m :: ms =>
      if len ≥ m.length then do
        if ← matchesAt payload 0 m then return m.take (m.length - 1) else findMethod payload len ms
      else findMethod payload len ms

/-- `payload[pos] == '\r' && payload[pos + 1] == '\n'`. -/
def crlfAt (payload : Octets) (pos : Nat) : Outcome Bool := do
  let c ← byteAt payload pos
  if c = 13 then do
    let d ← byteAt payload (pos + 1)
    return d == 10
  else return false

def moreUri (payload : Octets) (len pos : Nat) : Outcome Bool :=
  if pos < len then do
    let c ← byteAt payload pos
    return c != 32
  else .ok false

def moreLine (payload : Octets) (len pos : Nat) : Outcome Bool :=
  if pos + 1 < len then do
    let t ← crlfAt payload pos
    return !t
  else .ok false

/-- `while (pos + 1 < len && !(payload[pos] == '\r' && payload[pos + 1] == '\n')) ++pos;` -/
def findLineEnd (payload : Octets) (len pos : Nat) : Outcome Nat :=
  scan (moreLine payload len) (len + 1) pos

/-- `len - pos >= kHostLen && memcmp(payload + pos, kHost, kHostLen) == 0`. -/
def hostAt (payload : Octets) (len pos : Nat) : Outcome Bool := do
  let rest ← sub len pos
  if rest ≥ kHost.length then matchesAt payload pos kHost else .ok false

/-- The header loop. Every line skipped moves `pos` on, so `len` iterations are enough. -/
def findHost (payload : Octets) (len : Nat) : Nat → Nat → Outcome Octets
  | 0, _ => .fault
  | fuel + 1, pos =>
      if pos + 1 < len then do
        if ← crlfAt payload pos then return []
        else do
          if ← hostAt payload len pos then do
            let valStart := pos + kHost.length
            let valEnd ← findLineEnd payload len valStart
            let size ← sub valEnd valStart
            slice payload valStart size
          else do
            let eol ← findLineEnd payload len pos
            findHost payload len fuel (eol + 2)
      else .ok []

def decodeHttp (payload : Octets) (len : Nat) : Outcome HttpInfo :=
  if len < 16 then .reject
  else do
    let method ← findMethod payload len kMethods
    if method.isEmpty then .reject
    else do
      let methodLen := method.length + 1
      let uriEnd ← scan (moreUri payload len) (len + 1) methodLen
      let uriSize ← sub uriEnd methodLen
      let uri ← slice payload methodLen uriSize
      let eol ← findLineEnd payload len 0
      let host ← findHost payload len (len + 1) (eol + 2)
      return { method, host, uri }

def extractHttp (payload : Octets) (len : Nat) (info : PacketInfo) : Outcome PacketInfo :=
  match decodeHttp payload len with
  | .ok http => .ok { info with http := some http, l7Proto := .HTTP }
  | .reject => .ok info
  | .fault => .fault

/-! ## TLS -/

/-- The walk over the names of one `server_name` extension. -/
def sniNames (payload : Octets) (recordVersion : UInt16) (sniEnd : Nat) :
    Nat → Nat → Outcome TlsInfo
  | 0, _ => .fault
  | fuel + 1, sniOffset =>
      if sniOffset + 3 ≤ sniEnd then do
        let nameType ← byteAt payload sniOffset
        let nameLen ← be16 payload (sniOffset + 1)
        if sniOffset + 3 + nameLen.toNat > sniEnd then .reject
        else if nameType = 0 then do
          let sni ← slice payload (sniOffset + 3) nameLen.toNat
          return { sni, recordVersion }
        else sniNames payload recordVersion sniEnd fuel (sniOffset + 3 + nameLen.toNat)
      else .reject

/-- The walk over the extensions up to the first one of type `server_name`. -/
def tlsExtensions (payload : Octets) (recordVersion : UInt16) (extEnd : Nat) :
    Nat → Nat → Outcome TlsInfo
  | 0, _ => .fault
  | fuel + 1, offset =>
      if offset + 4 ≤ extEnd then do
        let extType ← be16 payload offset
        let extLen ← be16 payload (offset + 2)
        if offset + 4 + extLen.toNat > extEnd then .reject
        else if extType = Constants.TLS_EXTENSION_SNI then
          if offset + 4 + 2 > extEnd then .reject
          else do
            let sniListLen ← be16 payload (offset + 4)
            let sniEnd := offset + 4 + 2 + sniListLen.toNat
            if sniEnd > extEnd then .reject
            else sniNames payload recordVersion sniEnd (sniEnd + 1) (offset + 4 + 2)
        else tlsExtensions payload recordVersion extEnd fuel (offset + 4 + extLen.toNat)
      else .reject

/-- From the session id on: three length-prefixed vectors, then the extensions block. -/
def tlsHelloBody (payload : Octets) (len : Nat) (recordVersion : UInt16) (hsEnd offset : Nat) :
    Outcome TlsInfo :=
  if offset + 1 > len then .reject
  else do
    let sessionIdLen ← byteAt payload offset
    let offset := offset + 1
    if offset + sessionIdLen.toNat > len then .reject
    else
      let offset := offset + sessionIdLen.toNat
      if offset + 2 > len then .reject
      else do
        let csLen ← be16 payload offset
        let offset := offset + 2
        if offset + csLen.toNat > len then .reject
        else
          let offset := offset + csLen.toNat
          if offset + 1 > len then .reject
          else do
            let compLen ← byteAt payload offset
            let offset := offset + 1
            if offset + compLen.toNat > len then .reject
            else
              let offset := offset + compLen.toNat
              if offset + 2 > len then .reject
              else do
                let extTotal ← be16 payload offset
                let offset := offset + 2
                let extEnd := offset + extTotal.toNat
                if extEnd > len || extEnd > hsEnd then .reject
                else tlsExtensions payload recordVersion extEnd (extEnd + 1) offset

def decodeTls (payload : Octets) (len : Nat) : Outcome TlsInfo :=
  if len < 43 then .reject
  else do
    let contentType ← byteAt payload 0
    if contentType ≠ Constants.TLS_CONTENT_HANDSHAKE then .reject
    else do
      let recordVersion ← be16 payload 1
      let recordLen ← be16 payload 3
      if 5 + recordLen.toNat > len then .reject
      else do
        let handshakeType ← byteAt payload 5
        if handshakeType ≠ Constants.TLS_HANDSHAKE_CLIENT_HELLO then .reject
        else do
          let h ← byteAt payload 6
          let m ← byteAt payload 7
          let l ← byteAt payload 8
          let hsLen := (h.toNat <<< 16) ||| (m.toNat <<< 8) ||| l.toNat
          let offset := 9
          let hsEnd := offset + hsLen
          if hsEnd > len then .reject
          else if offset + 34 > len then .reject
          else tlsHelloBody payload len recordVersion hsEnd (offset + 34)

def extractTls (payload : Octets) (len : Nat) (info : PacketInfo) : Outcome PacketInfo :=
  match decodeTls payload len with
  | .ok tls => .ok { info with tls := some tls, l7Proto := .TLS }
  | .reject => .ok info
  | .fault => .fault

/-! ## What an extractor sets -/

/-- A field that was empty is filled with what the decoder returned. -/
theorem decoded_of_set {α : Type} {x : Outcome α} {result : Outcome PacketInfo} {info after : PacketInfo} {value : α}
    (set : α → PacketInfo) (field : PacketInfo → Option α) (ok : ∀ a, x = .ok a → result = .ok (set a))
    (reject : x = .reject → result = .ok info) (fault : x = .fault → result = .fault)
    (sets : ∀ a, field (set a) = some a) (unset : field info = none) (extracted : result = .ok after)
    (reported : field after = some value) : x = .ok value := by
  cases x with
  | ok found =>
      obtain rfl := Outcome.ok.inj ((ok found rfl).symm.trans extracted)
      rw [Option.some.inj ((sets found).symm.trans reported)]
  | reject =>
      obtain rfl := Outcome.ok.inj ((reject rfl).symm.trans extracted)
      cases unset.symm.trans reported
  | fault => cases (fault rfl).symm.trans extracted

theorem extractDns_sets {payload : Octets} {len : Nat} {info after : PacketInfo} {dns : DnsInfo}
    (unset : info.dns = none) (extracted : extractDns payload len info = .ok after) (sets : after.dns = some dns) :
    decodeDns payload len = .ok dns :=
  decoded_of_set (fun dns => { info with dns := some dns, l7Proto := .DNS }) (·.dns)
    (fun _ h => by rw [extractDns, h]) (fun h => by rw [extractDns, h]) (fun h => by rw [extractDns, h])
    (fun _ => rfl) unset extracted sets

theorem extractHttp_sets {payload : Octets} {len : Nat} {info after : PacketInfo} {http : HttpInfo}
    (unset : info.http = none) (extracted : extractHttp payload len info = .ok after) (sets : after.http = some http) :
    decodeHttp payload len = .ok http :=
  decoded_of_set (fun http => { info with http := some http, l7Proto := .HTTP }) (·.http)
    (fun _ h => by rw [extractHttp, h]) (fun h => by rw [extractHttp, h]) (fun h => by rw [extractHttp, h])
    (fun _ => rfl) unset extracted sets

theorem extractTls_sets {payload : Octets} {len : Nat} {info after : PacketInfo} {tls : TlsInfo}
    (unset : info.tls = none) (extracted : extractTls payload len info = .ok after) (sets : after.tls = some tls) :
    decodeTls payload len = .ok tls :=
  decoded_of_set (fun tls => { info with tls := some tls, l7Proto := .TLS }) (·.tls)
    (fun _ h => by rw [extractTls, h]) (fun h => by rw [extractTls, h]) (fun h => by rw [extractTls, h])
    (fun _ => rfl) unset extracted sets

end Nte
