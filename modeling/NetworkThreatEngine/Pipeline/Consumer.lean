import NetworkThreatEngine.Detect.ThreatDetector
import NetworkThreatEngine.Flow.Tracker
import NetworkThreatEngine.Pipeline.Capture

/-!
# The consumer thread

`consumer_thread_func` between the ring buffer and the analysis layers, with producers pushing and
signal handlers at work. Each load, store and call is a step of its own. The lists of packets handed
to the tracker and to the detector are kept for the statements; no code reads them.
-/
namespace Nte
open Transition StateRules

/-- Where the consumer stands; `testing` is the load of `g_shutdown_flag` that ends an iteration. -/
inductive ConsumerAt where
  | popping
  | dissecting (packet : Capture)
  | tracking (info : PacketInfo)
  | inspecting (info : PacketInfo)
  | counting
  | testing
  | done
  deriving DecidableEq

/-- `handlers` counts the signal handlers between their store to `g_shutdown_flag` and their call of
`shutdown`. -/
structure PipelineState where
  session : Session Capture
  tracker : FlowTracker
  detector : ThreatDetector
  consumer : ConsumerAt := .popping
  packetsProcessed : UInt64 := 0
  shutdownFlag : Bool := false
  handlers : Nat := 0
  tracked : List PacketInfo := []
  inspected : List PacketInfo := []

inductive PipelineStep where
  | push (packet : Capture)
  | raiseFlag
  | shutdown
  | pop
  | dissect
  | track (now created : TimePoint)
  | inspect (now : TimePoint)
  | count
  | test
  deriving DecidableEq

namespace PipelineState

def fresh (cfg : Config) : PipelineState :=
  { session := .fresh cfg.ringBuffer, tracker := .ofConfig cfg, detector := { config := cfg } }

/-- A valid packet goes to the tracker. -/
def trackPacket (s : PipelineState) (info : PacketInfo) (now created : TimePoint) : PipelineState :=
  if info.valid then
    { s with
      tracker := (s.tracker.update info now created).2, tracked := s.tracked ++ [info],
      consumer := .inspecting info }
  else { s with consumer := .inspecting info }

/-- A valid packet goes to the detector. -/
def inspectPacket (s : PipelineState) (info : PacketInfo) (now : TimePoint) : PipelineState :=
  if info.valid then
    { s with
      detector := after (ThreatDetector.inspect info now) s.detector, inspected := s.inspected ++ [info],
      consumer := .counting }
  else { s with consumer := .counting }

section Fields
variable (s : PipelineState) (info : PacketInfo) (now created : TimePoint)

@[simp] theorem trackPacket_session : (s.trackPacket info now created).session = s.session := by
  unfold trackPacket
  split <;> rfl

@[simp] theorem trackPacket_shutdownFlag :
    (s.trackPacket info now created).shutdownFlag = s.shutdownFlag := by
  unfold trackPacket
  split <;> rfl

@[simp] theorem trackPacket_consumer : (s.trackPacket info now created).consumer = .inspecting info := by
  unfold trackPacket
  split <;> rfl

@[simp] theorem inspectPacket_session : (s.inspectPacket info now).session = s.session := by
  unfold inspectPacket
  split <;> rfl

@[simp] theorem inspectPacket_shutdownFlag : (s.inspectPacket info now).shutdownFlag = s.shutdownFlag := by
  unfold inspectPacket
  split <;> rfl

@[simp] theorem inspectPacket_consumer : (s.inspectPacket info now).consumer = .counting := by
  unfold inspectPacket
  split <;> rfl

end Fields

/-- `while (pop(pkt))`: a `false` return ends the loop. -/
def popPacket (s : PipelineState) : Option PipelineState :=
  match s.session.ring.pop with
  | some (some packet, ring) =>
      some { s with session := ⟨ring, s.session.log ++ [.popped (some packet)]⟩, consumer := .dissecting packet }
  | some (none, ring) =>
      some { s with session := ⟨ring, s.session.log ++ [.popped none]⟩, consumer := .done }
  | none => none

def next (s : PipelineState) : PipelineStep → Option PipelineState
  | .push packet => (s.session.next (.push packet)).map fun session => { s with session }
  | .raiseFlag => some { s with shutdownFlag := true, handlers := s.handlers + 1 }
  | .shutdown =>
      if s.handlers = 0 then none
      else (s.session.next .shutdown).map fun session => { s with session, handlers := s.handlers - 1 }
  | .pop =>
      match s.consumer with
      | .popping => s.popPacket
      | _ => none
  | .dissect =>
      match s.consumer with
      | .dissecting packet => some { s with consumer := .tracking (dissect packet) }
      | _ => none
  | .track now created =>
      match s.consumer with
      | .tracking info => some (s.trackPacket info now created)
      | _ => none
  | .inspect now =>
      match s.consumer with
      | .inspecting info => some (s.inspectPacket info now)
      | _ => none
  | .count =>
      match s.consumer with
      | .counting => some { s with packetsProcessed := s.packetsProcessed + 1, consumer := .testing }
      | _ => none
  | .test =>
      match s.consumer with
      | .testing => some { s with consumer := if s.shutdownFlag then .done else .popping }
      | _ => none

def machine (cfg : Config) : Machine PipelineState PipelineStep := ⟨fresh cfg, next⟩

/-! ## Packets accepted before the shutdown -/

/-- The packets whose push returned `true` before `shutdown` was first called. -/
def acceptedBefore (log : List (RingReturn Capture)) : List Capture := acceptedIn (log.takeWhile (· ≠ .shutdown))

theorem acceptedBefore_isPrefix (log : List (RingReturn Capture)) : acceptedBefore log <+: acceptedIn log :=
  (List.takeWhile_prefix _).filterMap _

theorem takeWhile_eq_self {log : List (RingReturn Capture)} (h : .shutdown ∉ log) :
    log.takeWhile (· ≠ .shutdown) = log := by
  refine List.takeWhile_eq_self_iff.mpr fun r hr => ?_
  simp only [ne_eq, decide_eq_true_eq]
  rintro rfl
  exact h hr

theorem acceptedBefore_eq {log : List (RingReturn Capture)} (h : .shutdown ∉ log) :
    acceptedBefore log = acceptedIn log := congrArg acceptedIn (takeWhile_eq_self h)

/-- Once `shutdown` has been called nothing is added. -/
theorem acceptedBefore_append {log : List (RingReturn Capture)} (h : .shutdown ∈ log) (r : RingReturn Capture) :
    acceptedBefore (log ++ [r]) = acceptedBefore log := by
  refine congrArg acceptedIn ?_
  induction log with
  | nil => cases h
  | cons e log ih =>
      by_cases he : e = .shutdown
      · subst he
        rfl
      · have later : .shutdown ∈ log := (List.mem_cons.mp h).resolve_left (Ne.symm he)
        simpa [he] using ih later

/-- Until then every accepted packet is. -/
theorem acceptedBefore_append_not {log : List (RingReturn Capture)} (h : .shutdown ∉ log) (r : RingReturn Capture) :
    acceptedBefore (log ++ [r]) = acceptedIn (log ++ [r]) := by
  by_cases hr : r = .shutdown
  · subst hr
    have all : (log ++ [RingReturn.shutdown]).takeWhile (· ≠ RingReturn.shutdown) = log := by
      rw [List.takeWhile_append_of_pos (List.takeWhile_eq_self_iff.mp (takeWhile_eq_self h))]
      simp
    rw [acceptedBefore, all, acceptedIn_shutdown]
  · refine acceptedBefore_eq ?_
    simp [h, Ne.symm hr]

/-! ## What a step does -/

/-- `pop` hands over the oldest packet, or ends the loop when the buffer is empty and shut down. -/
theorem popPacket_cases {s s' : PipelineState} (h : s.popPacket = some s') :
    (∃ packet rest, s.session.ring.queue = packet :: rest ∧
        s' = { s with
          session := ⟨{ s.session.ring with queue := rest, poppedCount := s.session.ring.poppedCount + 1 },
            s.session.log ++ [RingReturn.popped (some packet)]⟩
          consumer := .dissecting packet }) ∨
      (s.session.ring.queue = [] ∧ s.session.ring.shutdownFlag = true ∧
        s' = { s with
          session := ⟨s.session.ring, s.session.log ++ [RingReturn.popped none]⟩
          consumer := .done }) := by
  unfold popPacket at h
  cases popped : s.session.ring.pop with
  | none =>
      rw [popped] at h
      cases h
  | some result =>
      rw [popped] at h
      rcases RingBuffer.pop_cases popped with ⟨packet, rest, hq, rfl⟩ | ⟨hq, hf, rfl⟩
      · cases h
        exact .inl ⟨packet, rest, hq, rfl⟩
      · cases h
        exact .inr ⟨hq, hf, rfl⟩

theorem popPacket_session {s s' : PipelineState} (h : s.popPacket = some s') :
    s.session.next .pop = some s'.session := by
  unfold popPacket at h
  split at h
  · rename_i packet ring hpop
    cases h
    rw [Session.next, hpop]
  · rename_i ring hpop
    cases h
    rw [Session.next, hpop]
  · cases h

/-- The outcomes of every step. -/
theorem next_cases {s s' : PipelineState} {a : PipelineStep} (h : s.next a = some s') :
    (∃ packet session, a = .push packet ∧ s.session.next (.push packet) = some session ∧
        s' = { s with session }) ∨
      (a = .raiseFlag ∧ s' = { s with shutdownFlag := true, handlers := s.handlers + 1 }) ∨
      (∃ session, a = .shutdown ∧ s.handlers ≠ 0 ∧ s.session.next .shutdown = some session ∧
        s' = { s with session, handlers := s.handlers - 1 }) ∨
      (a = .pop ∧ s.consumer = .popping ∧ s.popPacket = some s') ∨
      (∃ packet, a = .dissect ∧ s.consumer = .dissecting packet ∧
        s' = { s with consumer := .tracking (dissect packet) }) ∨
      (∃ info now created, a = .track now created ∧ s.consumer = .tracking info ∧
        s' = s.trackPacket info now created) ∨
      (∃ info now, a = .inspect now ∧ s.consumer = .inspecting info ∧ s' = s.inspectPacket info now) ∨
      (a = .count ∧ s.consumer = .counting ∧
        s' = { s with packetsProcessed := s.packetsProcessed + 1, consumer := .testing }) ∨
      (a = .test ∧ s.consumer = .testing ∧
        s' = { s with consumer := if s.shutdownFlag then .done else .popping }) := by
  cases a with
  | push packet =>
      rw [next] at h
      obtain ⟨session, hs, rfl⟩ := Option.map_eq_some_iff.mp h
      exact .inl ⟨packet, session, rfl, hs, rfl⟩
  | raiseFlag =>
      cases h
      exact .inr (.inl ⟨rfl, rfl⟩)
  | shutdown =>
      rw [next] at h
      by_cases idle : s.handlers = 0
      · rw [if_pos idle] at h
        cases h
      · rw [if_neg idle] at h
        obtain ⟨session, hs, rfl⟩ := Option.map_eq_some_iff.mp h
        exact .inr (.inr (.inl ⟨session, rfl, idle, hs, rfl⟩))
  | pop =>
      rw [next] at h
      split at h
      · exact .inr (.inr (.inr (.inl ⟨rfl, ‹_›, h⟩)))
      · cases h
  | dissect =>
      rw [next] at h
      split at h
      · cases h
        exact .inr (.inr (.inr (.inr (.inl ⟨_, rfl, ‹_›, rfl⟩))))
      · cases h
  | track now created =>
      rw [next] at h
      split at h
      · cases h
        exact .inr (.inr (.inr (.inr (.inr (.inl ⟨_, now, created, rfl, ‹_›, rfl⟩)))))
      · cases h
  | inspect now =>
      rw [next] at h
      split at h
      · cases h
        exact .inr (.inr (.inr (.inr (.inr (.inr (.inl ⟨_, now, rfl, ‹_›, rfl⟩))))))
      · cases h
  | count =>
      rw [next] at h
      split at h
      · cases h
        exact .inr (.inr (.inr (.inr (.inr (.inr (.inr (.inl ⟨rfl, ‹_›, rfl⟩)))))))
      · cases h
  | test =>
      rw [next] at h
      split at h
      · cases h
        exact .inr (.inr (.inr (.inr (.inr (.inr (.inr (.inr ⟨rfl, ‹_›, rfl⟩)))))))
      · cases h

/-! ## What every run keeps -/

/-- The dissected packets the analysis layers are to be given. -/
def analysed (packets : List Capture) : List PacketInfo := (packets.map dissect).filter (·.valid)

/-- What the tracker has not been given yet of the packet the consumer works on. -/
def untracked : ConsumerAt → List PacketInfo
  | .dissecting packet => analysed [packet]
  | .tracking info => [info].filter (·.valid)
  | _ => []

/-- What the detector has not been given yet. -/
def uninspected : ConsumerAt → List PacketInfo
  | .inspecting info => [info].filter (·.valid)
  | c => untracked c

/-- The packets in the consumer's hands: popped, and not past the test that ends the iteration. -/
def held : ConsumerAt → Nat
  | .popping => 0
  | .done => 0
  | _ => 1

/-- The signal flag goes up before `shutdown` and before the consumer leaves, and the analysis layers
have been given what was popped up to the packet under way. -/
structure Known (s : PipelineState) : Prop where
  kept : s.session.Kept
  called : .shutdown ∈ s.session.log → s.session.ring.shutdownFlag = true
  raised : .shutdown ∈ s.session.log ∨ s.handlers ≠ 0 → s.shutdownFlag = true
  holding : held s.consumer ≤ (poppedIn s.session.log).length
  ended : s.consumer = .done → s.shutdownFlag = true
  tracked : analysed (poppedIn s.session.log) = s.tracked ++ untracked s.consumer
  inspected : analysed (poppedIn s.session.log) = s.inspected ++ uninspected s.consumer

theorem analysed_append (before after : List Capture) :
    analysed (before ++ after) = analysed before ++ analysed after := by
  simp [analysed]

/-- A push adds its outcome to the log and leaves the flag alone. -/
theorem next_push_log {s s' : Session Capture} {packet : Capture} (h : s.next (.push packet) = some s') :
    (∃ accepted, s'.log = s.log ++ [.pushed packet accepted]) ∧ s'.ring.shutdownFlag = s.ring.shutdownFlag := by
  cases h
  exact ⟨⟨_, rfl⟩, s.ring.push_shutdownFlag packet⟩

theorem trackPacket_known {s : PipelineState} {info : PacketInfo} (hs : s.Known) (at_ : s.consumer = .tracking info)
    (now created : TimePoint) : (s.trackPacket info now created).Known := by
  obtain ⟨kept, called, raised, holding, -, tracked, inspected⟩ := hs
  rw [at_] at holding tracked inspected
  unfold trackPacket
  cases valid : info.valid with
  | true =>
      refine ⟨kept, called, raised, holding, nofun, ?_, ?_⟩
      · simpa [untracked, valid] using tracked
      · simpa [untracked, uninspected, valid] using inspected
  | false =>
      refine ⟨kept, called, raised, holding, nofun, ?_, ?_⟩
      · simpa [untracked, valid] using tracked
      · simpa [untracked, uninspected, valid] using inspected

theorem inspectPacket_known {s : PipelineState} {info : PacketInfo} (hs : s.Known)
    (at_ : s.consumer = .inspecting info) (now : TimePoint) : (s.inspectPacket info now).Known := by
  obtain ⟨kept, called, raised, holding, -, tracked, inspected⟩ := hs
  rw [at_] at holding tracked inspected
  unfold inspectPacket
  cases valid : info.valid with
  | true =>
      refine ⟨kept, called, raised, holding, nofun, ?_, ?_⟩
      · simpa [untracked] using tracked
      · simpa [untracked, uninspected, valid] using inspected
  | false =>
      refine ⟨kept, called, raised, holding, nofun, ?_, ?_⟩
      · simpa [untracked] using tracked
      · simpa [untracked, uninspected, valid] using inspected

theorem popPacket_known {s s' : PipelineState} (hs : s.Known) (at_ : s.consumer = .popping)
    (h : s.popPacket = some s') : s'.Known := by
  obtain ⟨kept, called, raised, holding, -, tracked, inspected⟩ := hs
  have kept' := Session.next_kept kept (popPacket_session h)
  rw [at_] at tracked inspected
  simp only [untracked, uninspected, List.append_nil] at tracked inspected
  rcases popPacket_cases h with ⟨packet, rest, -, rfl⟩ | ⟨-, hf, rfl⟩
  · refine ⟨kept', ?_, ?_, ?_, nofun, ?_, ?_⟩
    · simpa using called
    · simpa using raised
    · simp [held]
    · rw [poppedIn_popped, analysed_append, tracked]
      rfl
    · rw [poppedIn_popped, analysed_append, inspected]
      rfl
  · refine ⟨kept', fun _ => hf, ?_, Nat.zero_le _, fun _ => raised (.inl (kept.flag hf)), ?_, ?_⟩
    · simpa using raised
    · simpa [untracked] using tracked
    · simpa [untracked, uninspected] using inspected

theorem next_known {s s' : PipelineState} {a : PipelineStep} (hs : s.Known) (h : s.next a = some s') :
    s'.Known := by
  rcases next_cases h with ⟨packet, session, -, hnext, rfl⟩ | ⟨-, rfl⟩ | ⟨session, -, busy, hnext, rfl⟩ |
    ⟨-, at_, hpop⟩ | ⟨packet, -, at_, rfl⟩ | ⟨info, now, created, -, at_, rfl⟩ | ⟨info, now, -, at_, rfl⟩ |
    ⟨-, at_, rfl⟩ | ⟨-, at_, rfl⟩
  · obtain ⟨kept, called, raised, holding, ended, tracked, inspected⟩ := hs
    obtain ⟨⟨accepted, hlog⟩, hflag⟩ := next_push_log hnext
    refine ⟨Session.next_kept kept hnext, ?_, ?_, ?_, ended, ?_, ?_⟩
    · simpa [hlog, hflag] using called
    · simpa [hlog] using raised
    · simpa [hlog] using holding
    · simpa [hlog] using tracked
    · simpa [hlog] using inspected
  · exact ⟨hs.kept, hs.called, fun _ => rfl, hs.holding, fun _ => rfl, hs.tracked, hs.inspected⟩
  · obtain ⟨kept, called, raised, holding, ended, tracked, inspected⟩ := hs
    have hkept := Session.next_kept kept hnext
    cases hnext
    refine ⟨hkept, fun _ => rfl, fun _ => raised (.inr busy), ?_, ended, ?_, ?_⟩
    · simpa using holding
    · simpa using tracked
    · simpa using inspected
  · exact popPacket_known hs at_ hpop
  · obtain ⟨kept, called, raised, holding, -, tracked, inspected⟩ := hs
    rw [at_] at holding tracked inspected
    exact ⟨kept, called, raised, holding, nofun, tracked, inspected⟩
  · exact trackPacket_known hs at_ now created
  · exact inspectPacket_known hs at_ now
  · obtain ⟨kept, called, raised, holding, -, tracked, inspected⟩ := hs
    rw [at_] at holding tracked inspected
    exact ⟨kept, called, raised, holding, nofun, tracked, inspected⟩
  · obtain ⟨kept, called, raised, -, -, tracked, inspected⟩ := hs
    rw [at_] at tracked inspected
    cases flag : s.shutdownFlag with
    | true => exact ⟨kept, called, fun _ => rfl, Nat.zero_le _, fun _ => rfl, tracked, inspected⟩
    | false =>
        refine ⟨kept, called, ?_, Nat.zero_le _, nofun, tracked, inspected⟩
        intro h
        exact flag.symm.trans (raised h)

theorem fresh_known (cfg : Config) : (fresh cfg).Known where
  kept := Session.fresh_kept cfg.ringBuffer
  called := nofun
  holding := Nat.zero_le _
  raised := by
    rintro (h | h)
    · cases h
    · exact absurd rfl h
  ended := nofun
  tracked := rfl
  inspected := rfl

end PipelineState

end Nte
