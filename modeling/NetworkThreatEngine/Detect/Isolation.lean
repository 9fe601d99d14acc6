import NetworkThreatEngine.Detect.ThreatDetector
import NetworkThreatEngine.Flow.Identity

/-!
# Sources do not interfere

Every handler works on the entries of its packet's source. What the detector keeps about one
source, the alerts it fired for it included, is therefore what this source's packets alone
would have left behind.
-/
namespace Nte
open StateRules

/-- What the detector keeps about one source. -/
structure SourceView where
  config : Config
  ewma : Option PerIpEwmaProfile
  portScan : Option PerIpScanProfile
  synFlood : Option PerIpSynProfile
  suppression : Option PerIpSuppressionState
  bruteForce : Option PerIpBruteForceState
  exfil : Option RateWindow
  dnsTxt : Option RateWindow
  delivered : List Fired

namespace ThreatDetector

def view (d : ThreatDetector) (src : Octets) : SourceView where
  config := d.config
  ewma := d.ewma.lookup src
  portScan := d.portScan.lookup src
  synFlood := d.synFlood.lookup src
  suppression := d.suppression.lookup src
  bruteForce := d.bruteForceState.lookup src
  exfil := d.exfilState.lookup src
  dnsTxt := d.dnsTxtState.lookup src
  delivered := d.delivered.filter fun f => f.alert.srcIp = src

/-! ## Stores -/

/-- The part of a source's view that a store provides. -/
structure Slot {ε : Type} (field : Field ε) where
  get : SourceView → Option ε
  put : SourceView → Option ε → SourceView
  get_view : ∀ d src, get (d.view src) = (field.read d).lookup src
  view_write : ∀ d store src, (field.write d store).view src = put (d.view src) (store.lookup src)
  put_get : ∀ v, put v (get v) = v

def ewmaSlot : Slot ewmaField :=
  ⟨SourceView.ewma, fun v e => { v with ewma := e }, fun _ _ => rfl, fun _ _ _ => rfl, fun _ => rfl⟩

def portScanSlot : Slot portScanField :=
  ⟨SourceView.portScan, fun v e => { v with portScan := e }, fun _ _ => rfl, fun _ _ _ => rfl, fun _ => rfl⟩

def synFloodSlot : Slot synFloodField :=
  ⟨SourceView.synFlood, fun v e => { v with synFlood := e }, fun _ _ => rfl, fun _ _ _ => rfl, fun _ => rfl⟩

def bruteForceSlot : Slot bruteForceField :=
  ⟨SourceView.bruteForce, fun v e => { v with bruteForce := e }, fun _ _ => rfl, fun _ _ _ => rfl,
    fun _ => rfl⟩

def exfilSlot : Slot exfilField :=
  ⟨SourceView.exfil, fun v e => { v with exfil := e }, fun _ _ => rfl, fun _ _ _ => rfl, fun _ => rfl⟩

def dnsTxtSlot : Slot dnsTxtField :=
  ⟨SourceView.dnsTxt, fun v e => { v with dnsTxt := e }, fun _ _ => rfl, fun _ _ _ => rfl, fun _ => rfl⟩

theorem onEntry_local {ε β : Type} {field : Field ε} (slot : Slot field) (src : Octets)
    (f : Config → Option ε → β × ε) : Local view src (onEntry field src f) where
  frame := by
    intro d j hj
    change (field.write d _).view j = d.view j
    rw [slot.view_write, AList.lookup_insert_ne hj, ← slot.get_view, slot.put_get]
  result := by
    intro d e h
    have hcfg : d.config = e.config := congrArg SourceView.config h
    have hentry := congrArg slot.get h
    rw [slot.get_view, slot.get_view] at hentry
    change (f d.config _).1 = (f e.config _).1
    rw [hcfg, hentry]
  effect := by
    intro d e h
    have hcfg : d.config = e.config := congrArg SourceView.config h
    have hentry := congrArg slot.get h
    rw [slot.get_view, slot.get_view] at hentry
    change (field.write d _).view src = (field.write e _).view src
    rw [slot.view_write, slot.view_write, AList.lookup_insert, AList.lookup_insert, h, hcfg, hentry]

/-! ## Firing -/

theorem config_local (src : Octets) : Local view src (query config) :=
  Local.query fun _ _ h => congrArg SourceView.config h

theorem isSuppressed_local (src : Octets) (type : AttackType) (now : TimePoint) :
    Local view src (query (isSuppressed · src type now)) := by
  refine Local.query fun d e h => ?_
  have hcfg : d.config = e.config := congrArg SourceView.config h
  have hsup : d.suppression.lookup src = e.suppression.lookup src := congrArg SourceView.suppression h
  rw [isSuppressed, isSuppressed, hcfg, hsup]

theorem fire_local (alert : ThreatAlert) (now : TimePoint) : Local view alert.srcIp (fire alert now) where
  frame := by
    intro d j hj
    have hsup : (d.suppression.insert alert.srcIp
        (((d.suppression.lookup alert.srcIp).getD {}).record alert.attackType now)).lookup j =
          d.suppression.lookup j := AList.lookup_insert_ne hj
    have hdel : (d.delivered ++ [(⟨alert, now⟩ : Fired)]).filter (fun f => f.alert.srcIp = j) =
        d.delivered.filter fun f => f.alert.srcIp = j := by
      rw [List.filter_append, List.filter_cons_of_neg (by simpa using fun h => hj h.symm), List.filter_nil,
        List.append_nil]
    change SourceView.mk _ _ _ _ _ _ _ _ _ = _
    rw [view, SourceView.mk.injEq]
    exact ⟨rfl, rfl, rfl, rfl, hsup, rfl, rfl, rfl, hdel⟩
  result := fun _ _ _ => rfl
  effect := by
    intro d e h
    rw [view, view, SourceView.mk.injEq] at h
    obtain ⟨hcfg, hewma, hscan, hsyn, hsup, hbrute, hexfil, htxt, hdel⟩ := h
    change SourceView.mk _ _ _ _ _ _ _ _ _ = SourceView.mk _ _ _ _ _ _ _ _ _
    rw [SourceView.mk.injEq]
    refine ⟨hcfg, hewma, hscan, hsyn, ?_, hbrute, hexfil, htxt, ?_⟩
    · change (AList.insert _ _ d.suppression).lookup _ = (AList.insert _ _ e.suppression).lookup _
      rw [AList.lookup_insert, AList.lookup_insert, hsup]
    · change (d.delivered ++ [_]).filter _ = (e.delivered ++ [_]).filter _
      rw [List.filter_append, List.filter_append, hdel]

theorem unlessSuppressed_local {src : Octets} {rest : Config → StateM ThreatDetector Unit}
    (hrest : ∀ cfg, Local view src (rest cfg)) (type : AttackType) (now : TimePoint) :
    Local view src (unlessSuppressed src type now rest) := by
  refine (isSuppressed_local src type now).bind fun suppressed => ?_
  refine (config_local src).bind fun cfg => ?_
  exact Local.ite (Local.pure ()) (hrest cfg)

/-! ## The handlers -/

section Handlers
variable (info : PacketInfo) (now : TimePoint)

theorem inspectVolume_local : Local view info.srcIp (inspectVolume info now) := by
  refine (onEntry_local ewmaSlot _ _).bind fun r => ?_
  cases r with
  | none => exact Local.pure ()
  | some r => exact unlessSuppressed_local (fun cfg => fire_local (volumeAlert cfg info r) now) _ now

theorem inspectSyn_local : Local view info.srcIp (inspectSyn info now) := by
  refine Local.ite ((onEntry_local synFloodSlot _ _).bind fun r => ?_) (Local.pure ())
  cases r with
  | none => exact Local.pure ()
  | some r => exact unlessSuppressed_local (fun cfg => fire_local (synFloodAlert cfg info r) now) _ now

theorem inspectScan_local : Local view info.srcIp (inspectScan info now) := by
  refine Local.ite ((onEntry_local portScanSlot _ _).bind fun r => ?_) (Local.pure ())
  cases r with
  | none => exact Local.pure ()
  | some r => exact unlessSuppressed_local (fun cfg => fire_local (portScanAlert cfg info r) now) _ now

theorem inspectBruteForce_local : Local view info.srcIp (inspectBruteForce info now) := by
  refine (config_local _).bind fun cfg => ?_
  refine Local.ite ((onEntry_local bruteForceSlot _ _).bind fun rate => ?_) (Local.pure ())
  cases rate with
  | none => exact Local.pure ()
  | some rate =>
      refine (config_local _).bind fun cfg => ?_
      refine Local.ite ?_ (Local.pure ())
      exact unlessSuppressed_local (fun cfg => fire_local (bruteForceAlert cfg info rate) now) _ now

theorem checkTxtRate_local : Local view info.srcIp (checkTxtRate info now) := by
  refine (onEntry_local dnsTxtSlot _ _).bind fun rate => ?_
  cases rate with
  | none => exact Local.pure ()
  | some rate =>
      refine (config_local _).bind fun cfg => ?_
      refine Local.ite ?_ (Local.pure ())
      exact unlessSuppressed_local (fun cfg => fire_local (txtRateAlert cfg info rate) now) _ now

theorem inspectDns_local : Local view info.srcIp (inspectDns info now) := by
  unfold inspectDns
  cases info.dns with
  | none => exact Local.pure ()
  | some dns =>
      refine (config_local _).bind fun cfg => ?_
      refine (isSuppressed_local _ _ _).bind fun suppressed => ?_
      exact Local.ite (fire_local (longNameAlert info dns.queryName) now)
        (Local.ite (checkTxtRate_local info now) (Local.pure ()))

theorem inspectExfil_local : Local view info.srcIp (inspectExfil info now) := by
  refine Local.ite ((onEntry_local exfilSlot _ _).bind fun bps => ?_) (Local.pure ())
  cases bps with
  | none => exact Local.pure ()
  | some bps =>
      refine Local.ite ?_ (Local.pure ())
      exact unlessSuppressed_local (fun _ => fire_local (exfilAlert info bps) now) _ now

theorem inspect_local : Local view info.srcIp (inspect info now) := by
  refine Local.ite (Local.pure ()) ?_
  refine (inspectVolume_local info now).bind fun _ => ?_
  refine (inspectSyn_local info now).bind fun _ => ?_
  refine (inspectScan_local info now).bind fun _ => ?_
  refine (inspectBruteForce_local info now).bind fun _ => ?_
  refine (inspectDns_local info now).bind fun _ => ?_
  exact inspectExfil_local info now

end Handlers

/-! ## Whole runs -/

theorem inspectAll_view (cfg : Config) (packets : List Timed) (src : Octets) :
    (inspectAll cfg packets).view src =
      (inspectAll cfg (packets.filter fun p => p.info.srcIp = src)).view src :=
  runAll_isolated (fun p : Timed => p.info.srcIp) (fun p => inspect_local p.info p.now) src packets rfl

/-- A run over one source's packets fires for no other source. -/
theorem delivered_own (cfg : Config) (packets : List Timed) (src : Octets) {f : Fired}
    (hf : f ∈ (inspectAll cfg (packets.filter fun p => p.info.srcIp = src)).delivered) :
    f.alert.srcIp = src := by
  by_contra hne
  have hview := inspectAll_view cfg (packets.filter fun p => p.info.srcIp = src) f.alert.srcIp
  have hnone : (packets.filter fun p => p.info.srcIp = src).filter (fun p => p.info.srcIp = f.alert.srcIp) =
      [] := by
    rw [List.filter_filter, List.filter_eq_nil_iff]
    intro p _ hp
    simp only [Bool.and_eq_true, decide_eq_true_eq] at hp
    exact hne (hp.1.symm.trans hp.2)
  rw [hnone] at hview
  have hdelivered := congrArg SourceView.delivered hview
  have hmem : f ∈ (inspectAll cfg (packets.filter fun p => p.info.srcIp = src)).delivered.filter
      fun g => g.alert.srcIp = f.alert.srcIp :=
    List.mem_filter.mpr ⟨hf, by simp⟩
  rw [show (inspectAll cfg _).delivered.filter _ = [] from hdelivered] at hmem
  cases hmem

/-- The alerts fired for a source are those its own packets fire in a fresh detector. -/
theorem alerts_isolated (cfg : Config) (packets : List Timed) (src : Octets) :
    ((inspectAll cfg packets).delivered.filter fun f => f.alert.srcIp = src) =
      (inspectAll cfg (packets.filter fun p => p.info.srcIp = src)).delivered := by
  have hview := congrArg SourceView.delivered (inspectAll_view cfg packets src)
  refine hview.trans ?_
  rw [view, List.filter_eq_self]
  intro f hf
  simpa using delivered_own cfg packets src hf

end ThreatDetector

/-! ## Sources on the wire -/

/-- An inspection leaves what the detector keeps about any other address, of either family, as it was. -/
theorem inspect_otherAddress {p q : Capture} (hp : (dissect p).l3Proto = .IPv4 ∨ (dissect p).l3Proto = .IPv6)
    (hq : (dissect q).l3Proto = .IPv4 ∨ (dissect q).l3Proto = .IPv6)
    (other : ((dissect p).l3Proto, p.srcAddr) ≠ ((dissect q).l3Proto, q.srcAddr)) (d : ThreatDetector)
    (now : TimePoint) :
    (after (ThreatDetector.inspect (dissect p) now) d).view (dissect q).srcIp = d.view (dissect q).srcIp := by
  refine (ThreatDetector.inspect_local (dissect p) now).frame d _ fun same => other ?_
  obtain ⟨family, bytes⟩ := (srcIp_eq_iff hp hq).mp same.symm
  exact Prod.ext family bytes

/-- Both round trips through the text, what is left out of it, and that no two addresses share one: what the
detector keeps about one address is untouched by packets from another. -/
theorem address_text_lossless :
    (∀ addr : UInt32, makeAddr128FromIpv4String (formatIpv4 addr) = ipv4ToAddr128 addr) ∧
      (∀ addr : Addr128, makeAddr128FromIpv6String (formatIpv6 addr.val) = addr) ∧
      (∀ addr : Addr128, ∃ run, IsElision ((ipv6Groups addr.val).map (· == 0)) run ∧
        formatIpv6 addr.val = groupText (ipv6Groups addr.val) run ∧
        ∀ i j, Separators.PairAt colon (formatIpv6 addr.val) i → Separators.PairAt colon (formatIpv6 addr.val) j →
          i = j) ∧
      (∀ (addr : UInt32) (addr6 : Addr128), formatIpv4 addr ≠ formatIpv6 addr6.val) ∧
      ∀ p q : Capture, ((dissect p).l3Proto = .IPv4 ∨ (dissect p).l3Proto = .IPv6) →
        ((dissect q).l3Proto = .IPv4 ∨ (dissect q).l3Proto = .IPv6) →
        ((dissect p).l3Proto, p.srcAddr) ≠ ((dissect q).l3Proto, q.srcAddr) →
        (dissect p).srcIp ≠ (dissect q).srcIp ∧ ∀ (d : ThreatDetector) (now : TimePoint),
          (after (ThreatDetector.inspect (dissect p) now) d).view (dissect q).srcIp = d.view (dissect q).srcIp := by
  refine ⟨makeAddr128_formatIpv4, makeAddr128_formatIpv6, fun addr => ?_,
    fun addr addr6 => formatIpv4_ne_formatIpv6 addr addr6.val, fun p q hp hq other => ⟨fun same => other ?_, ?_⟩⟩
  · exact ⟨_, elidedRun_isElision _, formatIpv6_text addr.val, fun i j => pairAt_unique⟩
  · obtain ⟨family, bytes⟩ := (srcIp_eq_iff hp hq).mp same
    exact Prod.ext family bytes
  · exact inspect_otherAddress hp hq other

/-- One address of 128 bits, written in two ways: the flows meet and the entries do not. -/
theorem address_text_lossless_versions :
    (dissect udpOverIpv4).srcIp ≠ (dissect udpOverIpv6).srcIp ∧ ∀ (d : ThreatDetector) (now : TimePoint),
      (after (ThreatDetector.inspect (dissect udpOverIpv4) now) d).view (dissect udpOverIpv6).srcIp =
        d.view (dissect udpOverIpv6).srcIp := by
  obtain ⟨-, -, -, -, apart⟩ := address_text_lossless
  exact apart udpOverIpv4 udpOverIpv6 (.inl (by decide +kernel)) (.inr (by decide +kernel)) (by decide +kernel)

end Nte
