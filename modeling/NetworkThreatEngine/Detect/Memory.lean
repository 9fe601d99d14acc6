import NetworkThreatEngine.Detect.Averages

/-!
# What the detector remembers

No code that runs ever erases an entry of the detector's stores. Each store has exactly one entry for every source that
has reached its rule since the start, so that the number of addresses on the wire is the number of entries.
-/
namespace Nte
open StateRules KeyedStore

/-- The sources of the packets that reach a rule, each of them once. -/
def senders (reached : Timed → Bool) (packets : List Timed) : List Octets :=
  ((packets.filter reached).map (·.info.srcIp)).dedup

theorem mem_senders {reached : Timed → Bool} {packets : List Timed} {src : Octets} :
    src ∈ senders reached packets ↔ ∃ p ∈ packets, reached p = true ∧ p.comesFrom src = true := by
  simp only [senders, List.mem_dedup, List.mem_map, List.mem_filter, Timed.comesFrom, decide_eq_true_eq, and_assoc]

/-- A TXT query whose name is short enough for the rule to go on to the rate. -/
def Timed.asksShort (cfg : Config) (p : Timed) : Bool :=
  Measurement.inspected p.info && (Measurement.txt p.info && !Measurement.longTxt cfg p.info)

def Timed.asks (p : Timed) : Bool := Measurement.inspected p.info && Measurement.txt p.info

namespace ThreatDetector
variable {cfg : Config} {packets : List Timed}

theorem mem_of_lookup_if {ε : Type} {store store' : Store ε} {src : Octets} {reached : Bool} {e : ε}
    (entry : store'.lookup src = if reached then some e else store.lookup src) :
    src ∈ store' ↔ reached = true ∨ src ∈ store := by
  rw [← AList.lookup_isSome, entry, ← AList.lookup_isSome]
  cases reached <;> simp

section Stores
variable {ε : Type} {store : ThreatDetector → Store ε} {reached : Timed → Bool}

/-- What each inspection enters is there after the run. -/
theorem senders_subset (step : ∀ d p src, d.config = cfg → (reached p && p.comesFrom src) = true ∨ src ∈ store d →
      src ∈ store (after (inspect p.info p.now) d)) :
    senders reached packets ⊆ (store (inspectAll cfg packets)).keys := by
  intro src sender
  rw [← AList.mem_keys]
  rw [mem_senders] at sender
  induction packets using List.reverseRecOn with
  | nil =>
      obtain ⟨p, mem, -⟩ := sender
      cases mem
  | append_singleton packets p ih =>
      rw [inspectAll_snoc]
      apply step _ _ _ (inspectAll_config cfg packets)
      obtain ⟨q, mem, reached⟩ := sender
      rcases List.mem_append.mp mem with old | new
      · exact .inr (ih ⟨q, old, reached⟩)
      · rw [List.mem_singleton.mp new] at reached
        exact .inl (Bool.and_eq_true_iff.mpr reached)

/-- What is there after the run has been entered by an inspection. -/
theorem subset_senders (fresh : store { config := cfg } = ∅)
    (step : ∀ d p src, d.config = cfg → src ∈ store (after (inspect p.info p.now) d) →
      (reached p && p.comesFrom src) = true ∨ src ∈ store d) :
    (store (inspectAll cfg packets)).keys ⊆ senders reached packets := by
  intro src known
  rw [← AList.mem_keys] at known
  rw [mem_senders]
  induction packets using List.reverseRecOn with
  | nil =>
      have empty : src ∈ store { config := cfg } := known
      rw [fresh] at empty
      exact absurd empty (AList.notMem_empty src)
  | append_singleton packets p ih =>
      rw [inspectAll_snoc] at known
      rcases step _ _ _ (inspectAll_config cfg packets) known with new | old
      · exact ⟨p, by simp, Bool.and_eq_true_iff.mp new⟩
      · obtain ⟨q, mem, reached⟩ := ih old
        exact ⟨q, List.mem_append_left _ mem, reached⟩

theorem keys_senders (fresh : store { config := cfg } = ∅)
    (step : ∀ d p src, d.config = cfg → (src ∈ store (after (inspect p.info p.now) d) ↔
      (reached p && p.comesFrom src) = true ∨ src ∈ store d)) :
    (store (inspectAll cfg packets)).keys.Perm (senders reached packets) := by
  have all : (store (inspectAll cfg packets)).keys ⊆ senders reached packets :=
    subset_senders fresh fun d p src config => (step d p src config).mp
  have only : senders reached packets ⊆ (store (inspectAll cfg packets)).keys :=
    senders_subset fun d p src config => (step d p src config).mpr
  refine (List.perm_ext_iff_of_nodup (AList.keys_nodup _) (List.nodup_dedup _)).mpr fun src => ?_
  exact ⟨fun mem => all mem, fun mem => only mem⟩

end Stores

/-- The sources that alerts have been fired for. -/
def alerted (d : ThreatDetector) : List Octets := (d.delivered.map fun f => f.alert.srcIp).dedup

theorem inspectAll_suppression (cfg : Config) (packets : List Timed) (src : Octets) :
    src ∈ (inspectAll cfg packets).suppression ↔ src ∈ (inspectAll cfg packets).alerted := by
  refine runAll_invariant (fun d : ThreatDetector => src ∈ d.suppression ↔ src ∈ d.alerted) (fun p d known => ?_) packets
    (by simp [alerted])
  refine inspect_keeps (R := fun d e => (src ∈ d.suppression ↔ src ∈ d.alerted) → (src ∈ e.suppression ↔ src ∈ e.alerted))
    (fun h₁ h₂ known => h₂ (h₁ known)) ?_ ?_ p.info d known
  · intro d e same known
    rw [alerted, same.suppression, same.delivered]
    exact known
  · intro d alert free known
    have delivered : (d.fired alert p.now).delivered = d.delivered ++ [⟨alert, p.now⟩] := rfl
    have entry : src ∈ (d.fired alert p.now).suppression ↔ src = alert.srcIp ∨ src ∈ d.suppression := AList.mem_insert d.suppression
    rw [entry, known, alerted, alerted, delivered, List.mem_dedup, List.mem_dedup, List.map_append, List.mem_append]
    simp only [List.map_singleton, List.mem_singleton]
    exact or_comm

/-- What the detector holds after a run, store by store. -/
structure Remembers (cfg : Config) (packets : List Timed) : Prop where
  ewma : (inspectAll cfg packets).ewma.keys.Perm (senders (fun p => Measurement.inspected p.info) packets)
  synFlood : (inspectAll cfg packets).synFlood.keys.Perm (senders Timed.isTcp packets)
  portScan : (inspectAll cfg packets).portScan.keys.Perm (senders Timed.isScanned packets)
  bruteForce : (inspectAll cfg packets).bruteForceState.keys.Perm (senders (Timed.isSensitive cfg.bruteForce) packets)
  dnsTxt : senders (Timed.asksShort cfg) packets ⊆ (inspectAll cfg packets).dnsTxtState.keys ∧
    (inspectAll cfg packets).dnsTxtState.keys ⊆ senders Timed.asks packets
  exfil : (inspectAll cfg packets).exfilState.keys.Perm (senders Timed.isCarrying packets)
  suppression : (inspectAll cfg packets).suppression.keys.Perm (inspectAll cfg packets).alerted

/-- Over every run, in each store: an entry for each source that has reached the rule, and none is ever gone. The store
for TXT queries leaves out the queries that an alert on their long names has spared the count. -/
theorem detector_remembers (cfg : Config) (packets : List Timed) : Remembers cfg packets where
  ewma := keys_senders rfl fun d p src _ => mem_of_lookup_if (ewma_after src d p)
  synFlood := keys_senders rfl fun d p src _ => mem_of_lookup_if (synFlood_after d p src)
  portScan := keys_senders rfl fun d p src _ => mem_of_lookup_if (portScan_after d p src)
  bruteForce := keys_senders rfl fun d p src config => by
    rw [← config]
    exact mem_of_lookup_if (bruteForceState_after d p src)
  dnsTxt := by
    refine ⟨senders_subset fun d p src config => ?_, subset_senders rfl fun d p src config => ?_⟩
    · rw [mem_of_lookup_if (dnsTxtState_entry src d p), config]
      refine Or.imp_left ?_
      simp only [Timed.asksShort, Measurement.countsTxt, Bool.and_eq_true, Bool.or_eq_true]
      rintro ⟨⟨looked, txt, short⟩, own⟩
      exact ⟨⟨looked, txt, .inl short⟩, own⟩
    · rw [mem_of_lookup_if (dnsTxtState_entry src d p), config]
      refine Or.imp_left ?_
      simp only [Timed.asks, Measurement.countsTxt, Bool.and_eq_true]
      rintro ⟨⟨looked, txt, -⟩, own⟩
      exact ⟨⟨looked, txt⟩, own⟩
  exfil := keys_senders rfl fun d p src _ => mem_of_lookup_if (exfilState_after d p src)
  suppression := (List.perm_ext_iff_of_nodup (AList.keys_nodup _) (List.nodup_dedup _)).mpr fun src =>
    AList.mem_keys.symm.trans (inspectAll_suppression cfg packets src)

end ThreatDetector

end Nte
