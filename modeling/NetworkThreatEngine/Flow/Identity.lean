import NetworkThreatEngine.Flow.AddressText
import NetworkThreatEngine.Flow.Tracker

/-!
# Flow identity

From the wire bytes through the text and back to 128 bits: which packets share a flow record.
-/
namespace Nte
open ByteReader ByteReader.Outcome FlowTracker

/-- A valid packet with an IP header. -/
def Capture.IsIp (c : Capture) : Prop :=
  (dissect c).valid = true ∧ ((dissect c).l3Proto = .IPv4 ∨ (dissect c).l3Proto = .IPv6)

instance (c : Capture) : Decidable c.IsIp := inferInstanceAs (Decidable (_ ∧ _))

/-- An address in the one space of 128 bits: an IPv4 address `a.b.c.d` is `::ffff:a.b.c.d`. -/
def mappedForm (proto : L3Protocol) (addr : Octets) : Octets :=
  if proto = .IPv4 then List.replicate 10 0 ++ [0xFF, 0xFF] ++ addr else addr

/-- The unordered pair of endpoints, with the addresses as they are on the wire. -/
def Capture.endpoints (c : Capture) : Sym2 (Octets × UInt16) :=
  s((c.srcAddr, (dissect c).srcPort), (c.dstAddr, (dissect c).dstPort))

/-- The same pair with every address in 128 bits. -/
def Capture.mappedEndpoints (c : Capture) : Sym2 (Octets × UInt16) :=
  c.endpoints.map (Prod.map (mappedForm (dissect c).l3Proto) id)

theorem mappedForm_injective (proto : L3Protocol) : Function.Injective (mappedForm proto) := by
  intro a b h
  unfold mappedForm at h
  split at h
  · exact List.append_cancel_left h
  · exact h

/-- For packets of one version the mapping makes no difference. -/
theorem mappedEndpoints_eq_iff {p q : Capture} (same : (dissect p).l3Proto = (dissect q).l3Proto) :
    p.mappedEndpoints = q.mappedEndpoints ↔ p.endpoints = q.endpoints := by
  unfold Capture.mappedEndpoints
  rw [same]
  exact (Sym2.map.injective ((mappedForm_injective _).prodMap Function.injective_id)).eq_iff

/-- The tracker's two addresses are the wire addresses in 128 bits. -/
theorem addresses_dissect {c : Capture} (h : c.IsIp) :
    ∃ srcAddr dstAddr, addresses (dissect c) = some (srcAddr, dstAddr) ∧
      srcAddr.val = mappedForm (dissect c).l3Proto c.srcAddr ∧
      dstAddr.val = mappedForm (dissect c).l3Proto c.dstAddr := by
  obtain ⟨valid, v4 | v6⟩ := h
  · obtain ⟨src, dst, srcText, dstText, srcBytes, dstBytes⟩ := exists_ipv4Addresses v4
    rw [v4, srcBytes, dstBytes]
    refine ⟨ipv4ToAddr128 src, ipv4ToAddr128 dst, ?_, rfl, rfl⟩
    rw [addresses, valid, v4, srcText, dstText, makeAddr128_formatIpv4, makeAddr128_formatIpv4]
    rfl
  · obtain ⟨src, dst, srcText, dstText, srcBytes, dstBytes⟩ := exists_ipv6Addresses v6
    rw [v6, srcBytes, dstBytes]
    refine ⟨src, dst, ?_, rfl, rfl⟩
    rw [addresses, valid, v6, srcText, dstText]
    exact congrArg some (Prod.ext (makeAddr128_formatIpv6 src) (makeAddr128_formatIpv6 dst))

/-- A packet updates under the key made of its protocol and its endpoints in 128 bits. -/
theorem update_dissect {c : Capture} (h : c.IsIp) :
    ∃ (srcAddr dstAddr : Addr128) (direction : FlowDirection),
      (∀ t now created, FlowTracker.update t (dissect c) now created =
        t.updateKey (.make srcAddr dstAddr (dissect c).srcPort (dissect c).dstPort (dissect c).ipProtoNum)
          (dissect c) direction now created) ∧
      s((srcAddr, (dissect c).srcPort), (dstAddr, (dissect c).dstPort)).map (Prod.map Subtype.val id) =
        c.mappedEndpoints := by
  obtain ⟨srcAddr, dstAddr, haddr, hsrc, hdst⟩ := addresses_dissect h
  refine ⟨srcAddr, dstAddr, directionOf srcAddr dstAddr, ?_, ?_⟩
  · intro t now created
    rw [FlowTracker.update, haddr]
  · rw [Capture.mappedEndpoints, Capture.endpoints]
    simp [hsrc, hdst]

/-- Two packets with no eviction between them are accounted to the same record exactly when they
agree in the protocol number and in the unordered pair of endpoints, addresses taken in 128 bits; for
packets of one IP version these are the endpoints on the wire. -/
theorem flow_identity (cfg : Config) (t : FlowTracker) (reach : (FlowTracker.machine cfg).Reachable t)
    (p q : Capture) (hp : p.IsIp) (hq : q.IsIp) (nowP createdP nowQ createdQ : TimePoint)
    (between : List UpdateCall) (roomP : t.tableSize < t.config.maxFlows)
    (roomQ : ((t.step (.update ⟨dissect p, nowP, createdP⟩)).updates between).tableSize <
      ((t.step (.update ⟨dissect p, nowP, createdP⟩)).updates between).config.maxFlows) :
    ∃ i j, (t.update (dissect p) nowP createdP).1 = some i ∧
      (((t.step (.update ⟨dissect p, nowP, createdP⟩)).updates between).update (dissect q) nowQ createdQ).1 =
        some j ∧
      (i = j ↔ (dissect p).ipProtoNum = (dissect q).ipProtoNum ∧ p.mappedEndpoints = q.mappedEndpoints) ∧
      ((dissect p).l3Proto = (dissect q).l3Proto →
        (i = j ↔ (dissect p).ipProtoNum = (dissect q).ipProtoNum ∧ p.endpoints = q.endpoints)) := by
  obtain ⟨srcP, dstP, directionP, updateP, endpointsP⟩ := update_dissect hp
  obtain ⟨srcQ, dstQ, directionQ, updateQ, endpointsQ⟩ := update_dissect hq
  have stepP : t.step (.update ⟨dissect p, nowP, createdP⟩) = _ := congrArg Prod.snd (updateP t nowP createdP)
  rw [stepP] at roomQ ⊢
  rw [updateP, updateQ]
  obtain ⟨i, j, hi, hj, hij⟩ := updateKey_sameNode (reachable_nodesDistinct reach) _
    (.make srcQ dstQ (dissect q).srcPort (dissect q).dstPort (dissect q).ipProtoNum) (dissect p) (dissect q)
    directionP directionQ nowP createdP nowQ createdQ between roomP roomQ
  have mapped : i = j ↔
      (dissect p).ipProtoNum = (dissect q).ipProtoNum ∧ p.mappedEndpoints = q.mappedEndpoints := by
    have injective : Function.Injective (Prod.map Subtype.val id : FlowKey.Endpoint → Octets × UInt16) :=
      Subtype.val_injective.prodMap Function.injective_id
    rw [hij, FlowKey.make_eq_iff, ← endpointsP, ← endpointsQ, (Sym2.map.injective injective).eq_iff]
  exact ⟨i, j, hi, hj, mapped, fun same => by rw [mapped, mappedEndpoints_eq_iff same]⟩

/-! ## IPv4-mapped addresses

One UDP datagram from 10.0.0.1 port 5000 to 10.0.0.2 port 5001, once over IPv4 and once over IPv6
between the mapped addresses. -/

def udpOverIpv4 : Capture := .ofFrame (List.replicate 12 0 ++
  [0x08, 0x00, 0x45, 0, 0, 28, 0, 0, 0, 0, 64, 17, 0, 0, 10, 0, 0, 1, 10, 0, 0, 2] ++
  [0x13, 0x88, 0x13, 0x89, 0, 8, 0, 0]) 42 0

def udpOverIpv6 : Capture := .ofFrame (List.replicate 12 0 ++
  [0x86, 0xDD, 0x60, 0, 0, 0, 0, 8, 17, 64] ++
  List.replicate 10 0 ++ [0xFF, 0xFF, 10, 0, 0, 1] ++ List.replicate 10 0 ++ [0xFF, 0xFF, 10, 0, 0, 2] ++
  [0x13, 0x88, 0x13, 0x89, 0, 8, 0, 0]) 62 0

/-- Packets of different IP versions share a record. -/
theorem flow_identity_versions :
    udpOverIpv4.IsIp ∧ udpOverIpv6.IsIp ∧ (dissect udpOverIpv4).l3Proto ≠ (dissect udpOverIpv6).l3Proto ∧
      ((FlowTracker.ofConfig {}).update (dissect udpOverIpv4) 0 0).1 = some 0 ∧
      (((FlowTracker.ofConfig {}).step (.update ⟨dissect udpOverIpv4, 0, 0⟩)).update
        (dissect udpOverIpv6) 0 0).1 = some 0 := by
  decide +kernel

/-- The same datagram twice: one record. -/
theorem flow_identity_repeated :
    ∃ i j, ((FlowTracker.ofConfig {}).update (dissect udpOverIpv4) 0 0).1 = some i ∧
      (((FlowTracker.ofConfig {}).step (.update ⟨dissect udpOverIpv4, 0, 0⟩)).update
        (dissect udpOverIpv4) 0 0).1 = some j ∧ i = j := by
  have h : udpOverIpv4.IsIp := by decide +kernel
  obtain ⟨i, j, hi, hj, hij, -⟩ := flow_identity {} (.ofConfig {}) ⟨[], rfl⟩ udpOverIpv4 udpOverIpv4 h h
    0 0 0 0 [] (by decide) (by decide +kernel)
  exact ⟨i, j, hi, hj, hij.mpr ⟨rfl, rfl⟩⟩

end Nte
