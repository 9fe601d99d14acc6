import NetworkThreatEngine.Flow.Linear
import NetworkThreatEngine.Flow.Reaper
import NetworkThreatEngine.Lib.Lives

/-!
# What the records are made of

Every packet that `update` accounts goes to one record, and every record is what its own packets make of it. A flow
gets a second record only when the reaper has found the first one expired.
-/
namespace Nte
open Transition Lives

/-- A packet the tracker looks at, with the key and the direction its addresses give it. -/
structure KeyedPacket where
  info : PacketInfo
  now : TimePoint
  key : FlowKey
  direction : FlowDirection
  keyed : FlowTracker.keyed info = some (key, direction)

namespace FlowTracker

/-- The node of a key that is in the table. -/
def liveNode (t : FlowTracker) (key : FlowKey) : Option Nat := (t.table.lookup key).map (·.id)

/-- The record of a flow that was constructed at `created` and has been given these packets. -/
def recordAfter (key : FlowKey) (created : TimePoint) (packets : List KeyedPacket) : FlowRecord :=
  packets.foldl (fun record q => record.updateRecord q.info q.direction q.now) (.create key created)

/-- The packets of a node, and a pass of the reaper that found the record they make expired. -/
def FoundExpired (cfg : Config) (log : List (Nat × KeyedPacket)) (passes : List TimePoint) (id : Nat) : Prop :=
  ∃ now ∈ passes, ∃ key created, (∀ q ∈ inputsOf log id, q.key = key) ∧
    Expired cfg.flowTracker now (recordAfter key created (inputsOf log id))

/-- The log of the packets accounted so far, each with its node, against the table. -/
structure Recorded (cfg : Config) (t : FlowTracker) (log : List (Nat × KeyedPacket)) (passes : List TimePoint) :
    Prop where
  config : t.config = cfg.flowTracker
  kept : Kept KeyedPacket.key log t.liveNode t.nodesMade (FoundExpired cfg log passes)
  records : ∀ key node, t.table.lookup key = some node →
    ∃ created, node.record = recordAfter key created (inputsOf log node.id)

theorem liveNode_some {t : FlowTracker} {key : FlowKey} {node : FlowNode} (found : t.table.lookup key = some node) :
    t.liveNode key = some node.id := by
  rw [liveNode, found, Option.map_some]

theorem recordAfter_snoc (key : FlowKey) (created : TimePoint) (packets : List KeyedPacket) (q : KeyedPacket) :
    recordAfter key created (packets ++ [q]) =
      (recordAfter key created packets).updateRecord q.info q.direction q.now := List.foldl_concat ..

/-- Packets of other nodes change nothing about a node that was found expired. -/
theorem FoundExpired.snoc {cfg : Config} {log : List (Nat × KeyedPacket)} {passes : List TimePoint} {life id : Nat}
    (q : KeyedPacket) (other : life ≠ id) (h : FoundExpired cfg log passes life) :
    FoundExpired cfg (log ++ [(id, q)]) passes life := by
  unfold FoundExpired
  rw [inputsOf_snoc, if_neg other.symm]
  exact h

section Steps
variable {cfg : Config} {t : FlowTracker} {log : List (Nat × KeyedPacket)} {passes : List TimePoint}
  (h : Recorded cfg t log passes)
include h

theorem Recorded.updateNode (q : KeyedPacket) {node : FlowNode} (found : t.table.lookup q.key = some node) :
    Recorded cfg (t.updateNode q.key node q.info q.direction q.now) (log ++ [(node.id, q)]) passes where
  config := h.config
  kept := by
    have live : (t.updateNode q.key node q.info q.direction q.now).liveNode = t.liveNode := by
      funext key
      unfold liveNode FlowTracker.updateNode
      by_cases same : key = q.key
      · subst same
        rw [AList.lookup_insert, found]
        rfl
      · rw [AList.lookup_insert_ne same]
    rw [live]
    exact h.kept.take (liveNode_some found) fun _ other => FoundExpired.snoc q other
  records := by
    intro key node' lookup
    rcases lookup_insert_cases lookup with ⟨rfl, rfl⟩ | ⟨other, old⟩
    · obtain ⟨created, made⟩ := h.records q.key node found
      refine ⟨created, ?_⟩
      rw [inputsOf_snoc, if_pos rfl, recordAfter_snoc, ← made]
    · obtain ⟨created, made⟩ := h.records key node' old
      refine ⟨created, ?_⟩
      have apart : node.id ≠ node'.id := by
        intro same
        refine other (h.kept.apart (liveNode_some old) ?_)
        rw [← same]
        exact liveNode_some found
      rw [inputsOf_snoc, if_neg apart, made]

theorem Recorded.insertNode (q : KeyedPacket) (created : TimePoint) (absent : t.table.lookup q.key = none) :
    Recorded cfg (t.insertNode q.key q.info q.direction q.now created) (log ++ [(t.nodesMade, q)]) passes where
  config := h.config
  kept := by
    refine h.kept.start ?_ ?_ ?_ fun _ other => FoundExpired.snoc q other
    · rw [liveNode, absent]
      rfl
    · unfold liveNode FlowTracker.insertNode
      rw [AList.lookup_insert]
      rfl
    · intro key other
      unfold liveNode FlowTracker.insertNode
      rw [AList.lookup_insert_ne other]
  records := by
    intro key node lookup
    rcases lookup_insert_cases lookup with ⟨rfl, rfl⟩ | ⟨other, old⟩
    · refine ⟨created, ?_⟩
      have new : inputsOf log t.nodesMade = [] := inputsOf_eq_nil fun e mem => (h.kept.logged e mem).ne
      rw [inputsOf_snoc, if_pos rfl, new]
      rfl
    · obtain ⟨made, record⟩ := h.records key node old
      refine ⟨made, ?_⟩
      rw [inputsOf_snoc, if_neg (h.kept.begun key node.id (liveNode_some old)).1.ne', record]

theorem Recorded.evict (now : TimePoint) : Recorded cfg (t.evictExpiredFlows now) log (passes ++ [now]) where
  config := h.config
  kept := by
    refine h.kept.drop ?_ ?_ ?_
    · intro key life live
      obtain ⟨node, found, rfl⟩ := Option.map_eq_some_iff.mp live
      exact liveNode_some (hasNode_without found)
    · intro key life live
      obtain ⟨node, found, rfl⟩ := Option.map_eq_some_iff.mp live
      by_cases gone : Expired t.config now node.record
      · obtain ⟨created, record⟩ := h.records key node found
        refine .inr ⟨now, List.mem_append_right _ (List.mem_singleton_self now), key, created, ?_, ?_⟩
        · intro q mem
          exact h.kept.held key node.id live (node.id, q) (mem_inputsOf.mp mem) rfl
        · rw [← record, ← h.config]
          exact gone
      · exact .inl (liveNode_some (((t.reaped_evict now).present key node).mpr ⟨found, gone⟩))
    · rintro life ⟨time, mem, expired⟩
      exact ⟨time, List.mem_append_left _ mem, expired⟩
  records := fun key node lookup => h.records key node (hasNode_without lookup)

/-- A packet is put into the log with the node that the call returns, if it returns one. -/
theorem Recorded.update (call : UpdateCall) :
    ∃ more : List (Nat × KeyedPacket), Recorded cfg (t.step (.update call)) (log ++ more) passes ∧
      more.map Prod.fst = (t.update call.info call.now call.created).1.toList ∧
      (more.map fun e => (e.2.info, e.2.now)).Sublist [(call.info, call.now)] := by
  rw [step]
  cases packet : keyed call.info with
  | none =>
      rw [t.update_of_unkeyed packet]
      refine ⟨[], ?_, rfl, List.nil_sublist _⟩
      rw [List.append_nil]
      exact h
  | some both =>
      obtain ⟨key, direction⟩ := both
      let q : KeyedPacket := ⟨call.info, call.now, key, direction, packet⟩
      rw [t.update_of_keyed packet]
      rcases t.updateKey_cases key call.info direction call.now call.created with ⟨node, found, heq⟩ | ⟨-, -, heq⟩ |
        ⟨absent, -, heq⟩ <;> rw [heq]
      · exact ⟨[(node.id, q)], h.updateNode q found, rfl, List.Sublist.refl _⟩
      · refine ⟨[], ?_, rfl, List.nil_sublist _⟩
        rw [List.append_nil]
        exact h
      · exact ⟨[(t.nodesMade, q)], h.insertNode q call.created absent, rfl, List.Sublist.refl _⟩

end Steps

/-- A pass of the reaper. -/
def passOf : Step → Option TimePoint
  | .update _ => none
  | .evict now => some now

theorem recorded_start (cfg : Config) : Recorded cfg (.ofConfig cfg) [] [] where
  config := rfl
  kept := kept_start _ (fun _ => rfl) _ _
  records := by rintro key node ⟨⟩

/-- The log only grows: an accounted packet stays with its node. -/
theorem Recorded.run {cfg : Config} {t : FlowTracker} {log : List (Nat × KeyedPacket)} {passes : List TimePoint}
    (h : Recorded cfg t log passes) (steps : List Step) :
    ∃ more : List (Nat × KeyedPacket),
      Recorded cfg (steps.foldl step t) (log ++ more) (passes ++ steps.filterMap passOf) ∧
        more.map Prod.fst = t.returnsOf steps ∧
        (more.map fun e => (e.2.info, e.2.now)).Sublist (steps.filterMap calledWith) := by
  induction steps using List.reverseRecOn with
  | nil =>
      refine ⟨[], ?_, rfl, List.Sublist.refl _⟩
      rw [List.append_nil, List.filterMap_nil, List.append_nil]
      exact h
  | append_singleton steps s ih =>
      obtain ⟨more, recorded, returned, calls⟩ := ih
      rw [List.foldl_concat, List.filterMap_append, List.filterMap_append, returnsOf_append]
      cases s with
      | evict now =>
          refine ⟨more, ?_, ?_, ?_⟩
          · rw [List.filterMap_cons_some (rfl : passOf (.evict now) = some now), List.filterMap_nil, ← List.append_assoc]
            exact recorded.evict now
          · rw [returned]
            exact (List.append_nil _).symm
          · exact calls.trans (List.sublist_append_left _ _)
      | update call =>
          obtain ⟨last, next, result, called⟩ := recorded.update call
          refine ⟨more ++ last, ?_, ?_, ?_⟩
          · rw [List.filterMap_cons_none (rfl : passOf (.update call) = none), List.filterMap_nil, List.append_nil,
              ← List.append_assoc]
            exact next
          · rw [List.map_append, returned, result]
            exact congrArg (_ ++ ·) (List.append_nil _).symm
          · rw [List.map_append]
            exact calls.append called

end FlowTracker

namespace SharedTable
open FlowTracker

/-- A pass of the reaper. -/
def passAt : TableStep → Option TimePoint
  | .evict now => some now
  | _ => none

theorem ends_passes (s : SharedTable) (a : TableStep) : (s.ends a).filterMap passOf = (passAt a).toList := by
  cases a with
  | read info now =>
      rw [ends]
      split
      · rfl
      · split <;> rfl
  | write caller created =>
      rw [ends]
      split <;> rfl
  | evict now => rfl

theorem sequential_passes {cfg : Config} {s s' : SharedTable} {as : List TableStep}
    (hrun : (machine cfg).run s as = some s') : (s.sequential as).filterMap passOf = as.filterMap passAt := by
  induction as generalizing s with
  | nil => rfl
  | cons a as ih =>
      obtain ⟨s₁, hnext, hrest⟩ := (Machine.run_cons _).mp hrun
      have next : s.next a = some s₁ := hnext
      have rest := ih hrest
      rw [sequential, next, Option.map_some, Option.getD_some, List.filterMap_append, rest, ends_passes,
        List.filterMap_cons]
      cases passAt a <;> rfl

/-- What the callers have been told, what they wait for, and what the table holds, of the packets in the log. -/
structure Partitioned (cfg : Config) (as : List TableStep) (s : SharedTable) (log : List (Nat × KeyedPacket)) :
    Prop where
  returned : log.map Prod.fst = s.returned
  calls : ((log.map fun e => (e.2.info, e.2.now)) ++ s.pending).Subperm (as.filterMap issued)
  waits : s.WaitsKeyed
  recorded : Recorded cfg s.tracker log (as.filterMap passAt)

theorem partitioned_start (cfg : Config) : Partitioned cfg [] (start cfg) [] where
  returned := rfl
  calls := List.Subperm.refl _
  waits := by rintro call ⟨⟩
  recorded := recorded_start cfg

theorem Partitioned.run {cfg : Config} {as bs : List TableStep} {s s' : SharedTable} {log : List (Nat × KeyedPacket)}
    (h : Partitioned cfg as s log) (hrun : (machine cfg).run s bs = some s') :
    ∃ later, Partitioned cfg (as ++ bs) s' (log ++ later) := by
  have performs := run_performs h.waits hrun
  obtain ⟨later, recorded, returned, calls⟩ := h.recorded.run (s.sequential bs)
  refine ⟨later, ?_, ?_, performs.keyed, ?_⟩
  · rw [performs.returned, List.map_append, h.returned, returned]
  · rw [List.map_append, List.filterMap_append, List.append_assoc]
    have ended := (calls.append_right s'.pending).subperm.trans performs.calls.symm.subperm
    have whole := (List.subperm_append_left (log.map fun e => (e.2.info, e.2.now))).mpr ended
    rw [← List.append_assoc _ s.pending] at whole
    exact whole.trans ((List.subperm_append_right _).mpr h.calls)
  · rw [performs.tracker, List.filterMap_append, ← sequential_passes hrun]
    exact recorded

/-- However callers and the reaper interleave: the accounted packets are shared out among the records for good, the
packets of a flow go to its records in turn, each record in the table is made of its own packets, and each record that
is no longer there was found expired. -/
theorem packets_partitioned (cfg : Config) (as : List TableStep) (s : SharedTable)
    (hrun : (machine cfg).run (machine cfg).start as = some s) :
    ∃ log, Partitioned cfg as s log ∧ ∀ bs s', (machine cfg).run s bs = some s' →
      ∃ later, Partitioned cfg (as ++ bs) s' (log ++ later) := by
  obtain ⟨log, partitioned⟩ := (partitioned_start cfg).run hrun
  exact ⟨log, partitioned, fun _ _ more => Partitioned.run partitioned more⟩

/-- A flow that is silent for a quarter of an hour goes on in a second record. -/
def silentSteps : List TableStep :=
  [.read sampleInfo 0, .write 0 0, .evict 900000000000, .read sampleInfo 900000000000, .write 0 900000000000]

theorem packets_partitioned_silent : ∃ s, (machine {}).run (machine {}).start silentSteps = some s ∧
    s.returned = [0, 1] ∧ ∃ log, Partitioned {} silentSteps s log ∧ ∀ bs s', (machine {}).run s bs = some s' →
      ∃ later, Partitioned {} (silentSteps ++ bs) s' (log ++ later) := by
  have ends : ((machine {}).run (machine {}).start silentSteps).map (·.returned) = some [0, 1] := by decide +kernel
  obtain ⟨s, hrun, returned⟩ := Option.map_eq_some_iff.mp ends
  exact ⟨s, hrun, returned, packets_partitioned {} silentSteps s hrun⟩

end SharedTable

end Nte
