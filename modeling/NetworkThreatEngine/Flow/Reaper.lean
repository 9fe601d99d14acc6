import NetworkThreatEngine.Flow.Heard
import NetworkThreatEngine.Lib.Sweep

/-!
# The reaper

The loop of `evict_expired_flows` visits the nodes in the order of the hash table, which is not known. It
removes exactly the flows that have expired, and none that a packet was accounted to lately.
-/
namespace Nte
open Transition Constants Sweep

namespace FlowTracker

/-! ## The loop -/

abbrev Entry := Sigma fun _ : FlowKey => FlowNode

/-- A visit, with the local counter `evicted`. -/
def reap (now : TimePoint) (s : FlowTracker × UInt64) (entry : Entry) : FlowTracker × UInt64 :=
  if expired s.1.config now entry.2.record then
    ({ s.1 with table := s.1.table.erase entry.1, activeFlowCount := s.1.activeFlowCount - 1 }, s.2 + 1)
  else s

/-- `evict_expired_flows` when the nodes are visited in this order. -/
def evictInOrder (t : FlowTracker) (now : TimePoint) (order : List Entry) : FlowTracker :=
  let s := order.foldl (reap now) (t, 0)
  if s.2 > 0 then { s.1 with totalFlowsEvicted := s.1.totalFlowsEvicted + s.2 } else s.1

/-- The number of expired flows. -/
def expiredCount (t : FlowTracker) (now : TimePoint) : Nat :=
  t.table.entries.countP fun entry => expired t.config now entry.2.record

/-- After visits in this order the expired nodes are gone, and each has moved both counters by one. -/
theorem foldl_reap (t : FlowTracker) (now : TimePoint) (order : List Entry) :
    order.foldl (reap now) (t, 0) =
      ({ t with
          table := sweep (fun node => expired t.config now node.record) order t.table
          activeFlowCount := t.activeFlowCount -
            UInt64.ofNat (order.countP fun entry => expired t.config now entry.2.record) },
        UInt64.ofNat (order.countP fun entry => expired t.config now entry.2.record)) := by
  induction order using List.reverseRecOn with
  | nil =>
      refine Prod.ext ?_ rfl
      change t = { t with activeFlowCount := t.activeFlowCount - 0 }
      rw [UInt64.sub_zero]
  | append_singleton order last ih =>
      rw [List.foldl_concat, ih, reap, sweep_snoc, List.countP_append, List.countP_singleton]
      cases gone : expired t.config now last.2.record with
      | false =>
          rw [if_neg Bool.false_ne_true, if_neg Bool.false_ne_true, if_neg Bool.false_ne_true, Nat.add_zero]
      | true =>
          rw [if_pos rfl, if_pos rfl, if_pos rfl, UInt64.ofNat_add, ← sub_sub]
          rfl

theorem tableSize_evicted (t : FlowTracker) (now : TimePoint) :
    (t.evictExpiredFlows now).tableSize + t.expiredCount now = t.tableSize :=
  spare_length (fun node : FlowNode => expired t.config now node.record) t.table

/-- Whatever the order of the visits. -/
theorem evictInOrder_eq {t : FlowTracker} {now : TimePoint} {order : List Entry} (visits : order.Perm t.table.entries) :
    t.evictInOrder now order = t.evictExpiredFlows now := by
  have count : t.table.entries.length - (without t.table (expired t.config now)).entries.length = t.expiredCount now :=
    Nat.sub_eq_of_eq_add' (t.tableSize_evicted now).symm
  rw [evictInOrder, foldl_reap, sweep_eq_spare visits, visits.countP_eq, evictExpiredFlows, count]
  dsimp only
  split
  · rfl
  · rename_i none
    have zero : UInt64.ofNat (t.expiredCount now) = 0 := by
      rw [← UInt64.le_zero_iff]
      exact UInt64.not_lt.mp none
    rw [expiredCount] at zero
    rw [expiredCount, zero, UInt64.add_zero]
    rfl

/-! ## Exactness -/

/-- TCP flows by their own timeout or, once closed, after five seconds; other flows by theirs. -/
def Expired (cfg : FlowTrackerConfig) (now : TimePoint) (record : FlowRecord) : Prop :=
  if record.key.protocol = IPPROTO_TCP_NUM then
    cfg.tcpFlowTimeoutSec < secondsBetween now record.lastSeen ∨
      record.tcpState = .CLOSED ∧ 5 < secondsBetween now record.lastSeen
  else cfg.udpFlowTimeoutSec < secondsBetween now record.lastSeen

theorem expired_iff {cfg : FlowTrackerConfig} {now : TimePoint} {record : FlowRecord} :
    expired cfg now record = true ↔ Expired cfg now record := by
  unfold expired Expired
  dsimp only
  split
  · rw [Bool.or_eq_true, Bool.and_eq_true, beq_iff_eq, decide_eq_true_eq, decide_eq_true_eq, or_comm]
  · exact decide_eq_true_iff

/-- What a pass of the reaper is to do. -/
structure Reaped (now : TimePoint) (t t' : FlowTracker) : Prop where
  present : ∀ key node, t'.table.lookup key = some node ↔
    t.table.lookup key = some node ∧ ¬ Expired t.config now node.record
  removed : t'.tableSize + t.expiredCount now = t.tableSize
  active : t'.activeFlowCount = t.activeFlowCount - UInt64.ofNat (t.expiredCount now)
  evicted : t'.totalFlowsEvicted = t.totalFlowsEvicted + UInt64.ofNat (t.expiredCount now)
  others : t'.config = t.config ∧ t'.totalFlowsCreated = t.totalFlowsCreated
  unwrapped : t.expiredCount now ≤ t.activeFlowCount.toNat →
    t'.activeFlowCount.toNat + t.expiredCount now = t.activeFlowCount.toNat

theorem active_evicted (t : FlowTracker) (now : TimePoint) :
    (t.evictExpiredFlows now).activeFlowCount = t.activeFlowCount - UInt64.ofNat (t.expiredCount now) := by
  rw [← Nat.sub_eq_of_eq_add' (t.tableSize_evicted now).symm]
  rfl

theorem reaped_evict (t : FlowTracker) (now : TimePoint) : Reaped now t (t.evictExpiredFlows now) where
  present := by
    intro key node
    rw [← expired_iff, Bool.not_eq_true]
    exact @spare_lookup FlowKey FlowNode _ (fun node => expired t.config now node.record) t.table key node
  removed := t.tableSize_evicted now
  active := t.active_evicted now
  evicted := by
    rw [← Nat.sub_eq_of_eq_add' (t.tableSize_evicted now).symm]
    rfl
  others := ⟨rfl, rfl⟩
  unwrapped := by
    intro fits
    have count : (UInt64.ofNat (t.expiredCount now)).toNat = t.expiredCount now :=
      UInt64.toNat_ofNat_of_lt' (fits.trans_lt t.activeFlowCount.toNat_lt)
    have below : UInt64.ofNat (t.expiredCount now) ≤ t.activeFlowCount := by
      rw [UInt64.le_iff_toNat_le, count]
      exact fits
    rw [t.active_evicted now, UInt64.toNat_sub_of_le _ _ below, count, Nat.sub_add_cancel fits]

/-! ## Flows with recent packets -/

def timeoutOf (cfg : FlowTrackerConfig) (key : FlowKey) : ℚ :=
  if key.protocol = IPPROTO_TCP_NUM then cfg.tcpFlowTimeoutSec else cfg.udpFlowTimeoutSec

/-- A flow with a packet from `p` outlives every pass of the reaper in the five seconds after `p` and within its
timeout. -/
def KeepsRecent (t : FlowTracker) (key : FlowKey) (p : TimePoint) : Prop :=
  ∀ now order node, order.Perm t.table.entries → t.table.lookup key = some node →
    secondsBetween now p ≤ min 5 (timeoutOf t.config node.record.key) →
    (t.evictInOrder now order).table.lookup key = some node

theorem not_expired {cfg : FlowTrackerConfig} {now : TimePoint} {record : FlowRecord}
    (recent : secondsBetween now record.lastSeen ≤ min 5 (timeoutOf cfg record.key)) : ¬ Expired cfg now record := by
  obtain ⟨short, timeout⟩ := le_min_iff.mp recent
  unfold Expired
  unfold timeoutOf at timeout
  split at timeout
  · rename_i tcp
    rw [if_pos tcp]
    rintro (long | ⟨-, long⟩)
    · exact absurd long timeout.not_gt
    · exact absurd long short.not_gt
  · rename_i other
    rw [if_neg other]
    exact timeout.not_gt

end FlowTracker

namespace SharedTable
open FlowTracker

/-- If the flow is in the table, it was last seen at this time or later. -/
def SeenSince (s : SharedTable) (key : FlowKey) (p : TimePoint) : Prop :=
  ∀ node, s.tracker.table.lookup key = some node → p ≤ node.record.lastSeen

variable {s s' : SharedTable} {a : TableStep} {key : FlowKey} {p : TimePoint}

theorem SeenSince.keepsRecent (h : s.SeenSince key p) : s.tracker.KeepsRecent key p := by
  intro now order node visits found recent
  rw [evictInOrder_eq visits, ((reaped_evict s.tracker now).present key node)]
  exact ⟨found, not_expired ((secondsBetween_mono (h node found)).trans recent)⟩

theorem seenSince_heard (hears : s.heard a = some (key, p)) (hnext : s.next a = some s') : s'.SeenSince key p := by
  intro node found
  rcases next_lastSeen hnext found with ⟨-, silent⟩ | later
  · exact absurd hears (silent p)
  · exact (Prod.mk.inj (Option.some.inj (hears.symm.trans later))).2.le

theorem SeenSince.next (h : s.SeenSince key p) (packets : ∀ packet ∈ s.heard a, packet.1 = key → p ≤ packet.2)
    (hnext : s.next a = some s') : s'.SeenSince key p := by
  intro node found
  rcases next_lastSeen hnext found with ⟨old, -⟩ | hears
  · exact h node old
  · exact packets (key, node.record.lastSeen) hears rfl

end SharedTable

namespace CallerTable
variable {s s' : CallerTable} {a : TableStep} {key : FlowKey} {p : TimePoint}

/-- What is known after a packet of the flow that was read at `p`. -/
structure After (key : FlowKey) (p : TimePoint) (s : CallerTable) : Prop where
  timely : s.Timely
  since : s.table.SeenSince key p
  clock : p ≤ s.clock
  waited : ∀ call ∈ s.table.waiting, p ≤ call.now

theorem after_heard (timely : s.Timely) (hears : s.table.heard a = some (key, p)) (hnext : s.next a = some s') :
    s'.After key p := by
  obtain ⟨-, table, -⟩ := next_iff.mp hnext
  refine ⟨timely.next hnext, SharedTable.seenSince_heard hears table, timely.heard_le hnext (key, p) hears, ?_⟩
  rcases next_waiting timely.single hnext with ended | ⟨quiet, -⟩
  · rw [ended]
    exact fun call mem => absurd mem List.not_mem_nil
  · rw [quiet] at hears
    cases hears

theorem After.next (h : s.After key p) (hnext : s.next a = some s') : s'.After key p := by
  obtain ⟨⟨-, later⟩, table, -⟩ := next_iff.mp hnext
  refine ⟨h.timely.next hnext, h.since.next ?_ table, h.clock.trans (clock_le hnext), ?_⟩
  · rintro ⟨key', now⟩ hears -
    rcases SharedTable.heard_from hears with ⟨reads, -⟩ | ⟨call, waits, rfl⟩
    · exact h.clock.trans (later now reads)
    · exact h.waited call waits
  · rcases next_waiting h.timely.single hnext with ended | ⟨-, waits | ⟨call, begun, reads⟩⟩
    · rw [ended]
      exact fun call mem => absurd mem List.not_mem_nil
    · rw [waits]
      exact h.waited
    · rw [begun]
      intro call' mem
      obtain rfl := List.mem_singleton.mp mem
      exact h.clock.trans (later call'.now reads)

end CallerTable

/-- A pass of the reaper removes exactly the flows that have expired, whatever the table and the order in which
it is visited. So with its one caller the tracker never loses a flow with a recent packet; nor does it with
several callers, unless a packet read earlier is accounted later. -/
theorem reaping_exact :
    (∀ (t : FlowTracker) now order, order.Perm t.table.entries → FlowTracker.Reaped now t (t.evictInOrder now order)) ∧
      (∀ cfg epoch (s s₁ s₂ : CallerTable) a as key p, (CallerTable.machine cfg epoch).Reachable s →
        s.next a = some s₁ → s.table.heard a = some (key, p) → (CallerTable.machine cfg epoch).run s₁ as = some s₂ →
        s₂.table.tracker.KeepsRecent key p) ∧
      ∀ cfg (s s₁ s₂ : SharedTable) a as key p, s.next a = some s₁ → s.heard a = some (key, p) →
        (SharedTable.machine cfg).run s₁ as = some s₂ →
        (SharedTable.machine cfg).Guarded (fun s b => ∀ packet ∈ s.heard b, packet.1 = key → p ≤ packet.2) s₁ as →
        s₂.tracker.KeepsRecent key p := by
  refine ⟨?_, ?_, ?_⟩
  · intro t now order visits
    rw [FlowTracker.evictInOrder_eq visits]
    exact t.reaped_evict now
  · intro cfg epoch s s₁ s₂ a as key p reach hnext hears hrun
    have timely : s.Timely := reach.invariant _ CallerTable.Timely (CallerTable.timely_start cfg epoch)
      fun _ _ _ h hnext => h.next hnext
    have after := (CallerTable.machine cfg epoch).run_invariant (CallerTable.After key p)
      (fun _ _ _ h hnext => h.next hnext) (CallerTable.after_heard timely hears hnext) hrun
    exact after.since.keepsRecent
  · intro cfg s s₁ s₂ a as key p hnext hears hrun inOrder
    have since := (SharedTable.machine cfg).guarded_run _ (fun s => s.SeenSince key p)
      (fun _ _ _ h packets hnext => h.next packets hnext) (SharedTable.seenSince_heard hears hnext) inOrder hrun
    exact since.keepsRecent

/-- A quiet TCP flow is still there after five seconds and gone after two minutes. -/
theorem reaping_exact_quiet :
    ∃ (s : CallerTable) (node : FlowNode),
      (CallerTable.machine {} 0).run (.start {} 0) ([.read SharedTable.sampleInfo 0] ++ [.write 0 0]) = some s ∧
        s.table.tracker.table.lookup SharedTable.sampleKey = some node ∧
        (s.table.tracker.evictInOrder 5000000000 s.table.tracker.table.entries).table.lookup SharedTable.sampleKey =
          some node ∧
        (s.table.tracker.evictInOrder 121000000000 s.table.tracker.table.entries).table.lookup SharedTable.sampleKey =
          none := by
  have facts : (((CallerTable.machine {} 0).run (.start {} 0) [.read SharedTable.sampleInfo 0]).bind fun s =>
      (s.next (.write 0 0)).bind fun s₁ => (s₁.table.tracker.table.lookup SharedTable.sampleKey).map fun node =>
        (s.table.heard (.write 0 0), FlowTracker.timeoutOf s₁.table.tracker.config node.record.key,
          FlowTracker.expired s₁.table.tracker.config 121000000000 node.record)) =
      some (some (SharedTable.sampleKey, 0), 120, true) := by decide +kernel
  obtain ⟨s, hrun, later⟩ := Option.bind_eq_some_iff.mp facts
  obtain ⟨s₁, hnext, later⟩ := Option.bind_eq_some_iff.mp later
  obtain ⟨node, found, same⟩ := Option.map_eq_some_iff.mp later
  rw [Prod.mk.injEq, Prod.mk.injEq] at same
  obtain ⟨hears, timeout, gone⟩ := same
  refine ⟨s₁, node, ?_, found, ?_, ?_⟩
  · rw [Machine.run_append, hrun]
    exact (CallerTable.machine {} 0).run_cons.mpr ⟨s₁, hnext, rfl⟩
  · refine reaping_exact.2.1 {} 0 s s₁ s₁ (.write 0 0) [] SharedTable.sampleKey 0 ⟨_, hrun⟩ hnext hears rfl
      5000000000 _ node (.refl _) found ?_
    rw [timeout]
    norm_num [secondsBetween]
  · have exactly := reaping_exact.1 s₁.table.tracker 121000000000 s₁.table.tracker.table.entries (.refl _)
    rw [Option.eq_none_iff_forall_ne_some]
    intro node' kept
    obtain ⟨same, fresh⟩ := (exactly.present SharedTable.sampleKey node').mp kept
    obtain rfl := Option.some.inj (same.symm.trans found)
    exact fresh (FlowTracker.expired_iff.mp gone)

end Nte
