import NetworkThreatEngine.Pipeline.Consumer

/-!
# Draining at shutdown

The test of `g_shutdown_flag` ends the consumer's loop after one more packet, however many are
queued. The queue is drained exactly in the runs that keep the pipeline all but empty from the store
to that flag until the call of `shutdown`.
-/
namespace Nte
namespace PipelineState

/-- When the consumer has returned: every packet accepted before `shutdown` was called has been popped
and, if valid, handed to the tracker and the detector, and what is queued was accepted later. -/
structure Drained (s : PipelineState) : Prop where
  popped : acceptedBefore s.session.log <+: poppedIn s.session.log
  tracked : analysed (acceptedBefore s.session.log) <+: s.tracked
  inspected : analysed (acceptedBefore s.session.log) <+: s.inspected
  queued : ∃ later, acceptedIn s.session.log = acceptedBefore s.session.log ++ later ++ s.session.ring.queue

/-- When a handler stores `g_shutdown_flag` at most one packet is queued or in the consumer's hands,
and from then until `shutdown` a packet is accepted only while the consumer waits at an empty queue. -/
def SignalWhenIdle (s : PipelineState) : PipelineStep → Prop
  | .raiseFlag => s.shutdownFlag = true ∨ s.session.ring.queue.length + held s.consumer ≤ 1
  | .push _ =>
      s.shutdownFlag = false ∨ s.session.ring.shutdownFlag = true ∨
        s.session.ring.maxCapacity ≤ s.session.ring.queue.length ∨
        (s.session.ring.queue = [] ∧ s.consumer = .popping)
  | _ => True

/-! ## Packets not finished -/

/-- The packets accepted before `shutdown` that have not passed the test ending their iteration. -/
def unfinished (s : PipelineState) : Nat :=
  (acceptedBefore s.session.log).length - ((poppedIn s.session.log).length - held s.consumer)

/-- After the signal at most one packet is left to finish, and none when the consumer has returned. -/
def Safe (s : PipelineState) : Prop :=
  s.shutdownFlag = true → s.unfinished ≤ 1 ∧ (s.consumer = .done → s.unfinished = 0)

/-- Only an accepted push adds to what was accepted before the shutdown. -/
theorem acceptedBefore_of_entered {log : List (RingReturn Capture)} {r : RingReturn Capture} (h : r.entered = none) :
    acceptedBefore (log ++ [r]) = acceptedBefore log := by
  by_cases called : .shutdown ∈ log
  · exact acceptedBefore_append called r
  · rw [acceptedBefore_append_not called, acceptedBefore_eq called]
    simp [acceptedIn, h]

theorem Known.lengths {s : PipelineState} (hs : s.Known) :
    (poppedIn s.session.log).length + s.session.ring.queue.length = (acceptedIn s.session.log).length := by
  rw [← hs.kept.fifo, List.length_append]

theorem Known.before_le {s : PipelineState} (hs : s.Known) :
    (acceptedBefore s.session.log).length ≤ (poppedIn s.session.log).length + s.session.ring.queue.length := by
  rw [hs.lengths]
  exact (acceptedBefore_isPrefix s.session.log).length_le

/-- Before `shutdown` these are the packets queued or in the consumer's hands. -/
theorem Known.unfinished_open {s : PipelineState} (hs : s.Known) (h : .shutdown ∉ s.session.log) :
    s.unfinished = s.session.ring.queue.length + held s.consumer := by
  have lengths := hs.lengths
  have holding := hs.holding
  rw [unfinished, acceptedBefore_eq h]
  omega

theorem unfinished_congr {s s' : PipelineState} (before : acceptedBefore s'.session.log = acceptedBefore s.session.log)
    (after : (poppedIn s'.session.log).length - held s'.consumer =
      (poppedIn s.session.log).length - held s.consumer) : s'.unfinished = s.unfinished := by
  rw [unfinished, unfinished, before, after]

theorem held_eq_zero {c : ConsumerAt} (left : c ≠ .done) : held c = 0 ↔ c = .popping := by
  cases c with
  | done => exact absurd rfl left
  | popping => exact iff_of_true rfl rfl
  | _ => exact iff_of_false Nat.one_ne_zero nofun

/-- A push that is accepted before `shutdown`. -/
theorem Known.unfinished_accepted {s : PipelineState} (hs : s.Known) (open_ : .shutdown ∉ s.session.log)
    (ring : RingBuffer Capture) (packet : Capture) :
    unfinished { s with session := ⟨ring, s.session.log ++ [.pushed packet true]⟩ } = s.unfinished + 1 := by
  have lengths := hs.lengths
  have holding := hs.holding
  rw [hs.unfinished_open open_, unfinished, acceptedBefore_append_not open_, acceptedIn_pushed, poppedIn_pushed,
    List.length_append, ← lengths, List.length_singleton]
  dsimp only
  omega

/-- What the condition asks of such a push. -/
theorem Known.signalWhenIdle_push {s : PipelineState} (hs : s.Known) (open_ : .shutdown ∉ s.session.log)
    (room : s.session.ring.queue.length < s.session.ring.maxCapacity) (packet : Capture) :
    SignalWhenIdle s (.push packet) ↔ s.shutdownFlag = false ∨ (s.unfinished = 0 ∧ s.consumer ≠ .done) := by
  have lowered : s.session.ring.shutdownFlag ≠ true := fun raised => open_ (hs.kept.flag raised)
  rw [hs.unfinished_open open_, Nat.add_eq_zero_iff, List.length_eq_zero_iff]
  constructor
  · rintro (off | raised | full | ⟨empty, waiting⟩)
    · exact .inl off
    · exact absurd raised lowered
    · omega
    · refine .inr ⟨⟨empty, ?_⟩, ?_⟩
      · rw [waiting]
        rfl
      · rw [waiting]
        nofun
  · rintro (off | ⟨⟨empty, idle⟩, running⟩)
    · exact .inl off
    · exact .inr (.inr (.inr ⟨empty, (held_eq_zero running).mp idle⟩))

/-- Working on the packet in hand finishes nothing and ends nothing. -/
theorem unfinished_working (s s' : PipelineState) (session : s'.session = s.session) (busy : held s.consumer = 1)
    (busy' : held s'.consumer = 1) :
    s'.unfinished = s.unfinished ∧ (s'.consumer = .done ↔ s.consumer = .done) := by
  have running {c : ConsumerAt} (h : held c = 1) : c ≠ .done := by
    rintro rfl
    exact absurd h (by decide)
  refine ⟨unfinished_congr (by rw [session]) ?_, iff_of_false (running busy') (running busy)⟩
  rw [session, busy, busy']

/-- The test that ends an iteration finishes the packet in hand. -/
theorem Known.unfinished_test {s : PipelineState} (hs : s.Known) (at_ : s.consumer = .testing) :
    unfinished { s with consumer := if s.shutdownFlag then .done else .popping } = s.unfinished - 1 := by
  have holding := hs.holding
  have free : held (if s.shutdownFlag then .done else .popping) = 0 := by
    split <;> rfl
  rw [at_] at holding
  rw [unfinished, unfinished, at_, free]
  simp only [held] at holding ⊢
  omega

/-- How a step changes the flag, the packets not finished and whether the consumer has returned, and
what the condition asks of it. -/
theorem next_effect {s s' : PipelineState} {a : PipelineStep} (hs : s.Known) (h : s.next a = some s') :
    (s'.shutdownFlag = s.shutdownFlag ∧ s'.unfinished = s.unfinished ∧
        (s'.consumer = .done ↔ s.consumer = .done) ∧ SignalWhenIdle s a) ∨
      (s'.shutdownFlag = s.shutdownFlag ∧ s'.unfinished = s.unfinished + 1 ∧
        (s'.consumer = .done ↔ s.consumer = .done) ∧
        (SignalWhenIdle s a ↔ s.shutdownFlag = false ∨ (s.unfinished = 0 ∧ s.consumer ≠ .done))) ∨
      (s.shutdownFlag = false ∧ s'.shutdownFlag = true ∧ s'.unfinished = s.unfinished ∧
        s'.consumer ≠ .done ∧ (SignalWhenIdle s a ↔ s.unfinished ≤ 1)) ∨
      (s.shutdownFlag = true ∧ s.consumer ≠ .done ∧ s.unfinished = 0 ∧ s'.unfinished = 0 ∧ SignalWhenIdle s a) ∨
      (s'.shutdownFlag = s.shutdownFlag ∧ s.consumer ≠ .done ∧ s'.unfinished = s.unfinished - 1 ∧
        (s'.consumer = .done ↔ s.shutdownFlag = true) ∧ SignalWhenIdle s a) := by
  rcases next_cases h with ⟨packet, session, rfl, hnext, rfl⟩ | ⟨rfl, rfl⟩ | ⟨session, rfl, -, hnext, rfl⟩ |
    ⟨rfl, at_, hpop⟩ | ⟨packet, rfl, at_, rfl⟩ | ⟨info, now, created, rfl, at_, rfl⟩ | ⟨info, now, rfl, at_, rfl⟩ |
    ⟨rfl, at_, rfl⟩ | ⟨rfl, at_, rfl⟩
  · rcases Session.next_cases hnext with ⟨_, ⟨⟩, full, rfl⟩ | ⟨_, ⟨⟩, room, rfl⟩ | ⟨_, _, ⟨⟩, -⟩ | ⟨⟨⟩, -⟩ | ⟨⟨⟩, -⟩
    · refine .inl ⟨rfl, unfinished_congr (acceptedBefore_of_entered rfl) ?_, Iff.rfl, .inr (.inr (.inl full))⟩
      rw [poppedIn_pushed]
    · by_cases called : .shutdown ∈ s.session.log
      · refine .inl ⟨rfl, unfinished_congr (acceptedBefore_append called _) ?_, Iff.rfl, .inr (.inl (hs.called called))⟩
        rw [poppedIn_pushed]
      · refine .inr (.inl ⟨rfl, hs.unfinished_accepted called _ _, Iff.rfl, ?_⟩)
        exact hs.signalWhenIdle_push called room packet
  · cases flag : s.shutdownFlag with
    | true => exact .inl ⟨rfl, rfl, Iff.rfl, .inl flag⟩
    | false =>
        have running : s.consumer ≠ .done := by
          intro left
          exact absurd (flag.symm.trans (hs.ended left)) (by decide)
        have open_ : .shutdown ∉ s.session.log := by
          intro called
          exact absurd (flag.symm.trans (hs.raised (.inl called))) (by decide)
        refine .inr (.inr (.inl ⟨rfl, rfl, rfl, running, ?_⟩))
        rw [hs.unfinished_open open_]
        simp [SignalWhenIdle, flag]
  · cases hnext
    refine .inl ⟨rfl, unfinished_congr (acceptedBefore_of_entered rfl) ?_, Iff.rfl, trivial⟩
    rw [poppedIn_shutdown]
  · rcases popPacket_cases hpop with ⟨packet, rest, -, rfl⟩ | ⟨empty, flag, rfl⟩
    · refine .inl ⟨rfl, unfinished_congr (acceptedBefore_of_entered rfl) ?_, ?_, trivial⟩
      · rw [poppedIn_popped, at_, List.length_append]
        rfl
      · rw [at_]
        simp
    · have before := hs.before_le
      rw [empty, List.length_nil] at before
      have none_left : s.unfinished = 0 := by
        rw [unfinished, at_]
        exact Nat.sub_eq_zero_of_le before
      refine .inr (.inr (.inr (.inl ⟨hs.raised (.inl (hs.kept.flag flag)), ?_, none_left, ?_, trivial⟩)))
      · rw [at_]
        intro left
        cases left
      · rw [← none_left]
        refine unfinished_congr (acceptedBefore_of_entered rfl) ?_
        rw [poppedIn_empty, at_]
        rfl
  · have busy : held s.consumer = 1 := by rw [at_]; rfl
    obtain ⟨count, left⟩ := unfinished_working s { s with consumer := .tracking (dissect packet) } rfl busy rfl
    exact .inl ⟨rfl, count, left, trivial⟩
  · have busy : held s.consumer = 1 := by rw [at_]; rfl
    obtain ⟨count, left⟩ := unfinished_working s _ (trackPacket_session s info now created) busy (by simp [held])
    exact .inl ⟨trackPacket_shutdownFlag .., count, left, trivial⟩
  · have busy : held s.consumer = 1 := by rw [at_]; rfl
    obtain ⟨count, left⟩ := unfinished_working s _ (inspectPacket_session s info now) busy (by simp [held])
    exact .inl ⟨inspectPacket_shutdownFlag .., count, left, trivial⟩
  · have busy : held s.consumer = 1 := by rw [at_]; rfl
    obtain ⟨count, left⟩ := unfinished_working s
      { s with packetsProcessed := s.packetsProcessed + 1, consumer := .testing } rfl busy rfl
    exact .inl ⟨rfl, count, left, trivial⟩
  · refine .inr (.inr (.inr (.inr ⟨rfl, ?_, ?_, ?_, trivial⟩)))
    · rw [at_]
      intro left
      cases left
    · exact hs.unfinished_test at_
    · cases s.shutdownFlag <;> simp

theorem next_sharp {s s' : PipelineState} {a : PipelineStep} (hs : s.Known) (safe : s.Safe)
    (h : s.next a = some s') : s'.Safe ↔ SignalWhenIdle s a := by
  unfold Safe at *
  rcases next_effect hs h with ⟨flag, count, left, ok⟩ | ⟨flag, count, left, ok⟩ | ⟨off, on, count, left, ok⟩ |
    ⟨on, left, count, count', ok⟩ | ⟨flag, left, count, left', ok⟩
  · rw [flag, count, left]
    exact iff_of_true safe ok
  · rw [ok, flag, count, left]
    grind
  · rw [ok, on, count]
    grind
  · grind
  · grind

theorem next_doomed {s s' : PipelineState} {a : PipelineStep} (hs : s.Known) (lost : ¬ s.Safe)
    (h : s.next a = some s') : ¬ s'.Safe := by
  unfold Safe at *
  rcases next_effect hs h with ⟨flag, count, left, -⟩ | ⟨flag, count, left, -⟩ | ⟨off, -, -, -, -⟩ |
    ⟨on, left, count, -, -⟩ | ⟨flag, left, count, left', -⟩
  · rwa [flag, count, left]
  · rw [flag, count, left]
    grind
  · grind
  · grind
  · grind

/-- With the consumer gone, nothing unfinished is what draining means. -/
theorem Known.drained_iff {s : PipelineState} (hs : s.Known) (left : s.consumer = .done) :
    s.Safe ↔ s.Drained := by
  have total : poppedIn s.session.log ++ s.session.ring.queue = acceptedIn s.session.log := hs.kept.fifo
  have before : acceptedBefore s.session.log <+: acceptedIn s.session.log := acceptedBefore_isPrefix _
  have finished : s.unfinished = (acceptedBefore s.session.log).length - (poppedIn s.session.log).length := by
    rw [unfinished, left]
    rfl
  have tracked := hs.tracked
  have inspected := hs.inspected
  simp only [left, untracked, uninspected, List.append_nil] at tracked inspected
  constructor
  · intro safe
    have none_left := (safe (hs.ended left)).2 left
    have popped : acceptedBefore s.session.log <+: poppedIn s.session.log :=
      List.prefix_of_prefix_length_le before ⟨_, total⟩ (by omega)
    obtain ⟨later, hlater⟩ := popped
    refine ⟨⟨later, hlater⟩, ?_, ?_, ⟨later, ?_⟩⟩
    · rw [← tracked, ← hlater, analysed_append]
      exact List.prefix_append _ _
    · rw [← inspected, ← hlater, analysed_append]
      exact List.prefix_append _ _
    · rw [hlater, total]
  · intro drained _
    have short := drained.popped.length_le
    omega

/-- When the consumer has returned, the packets accepted before the shutdown are all processed exactly
if the signal found the pipeline idle. -/
theorem shutdown_drains_iff (cfg : Config) (as : List PipelineStep) (s : PipelineState)
    (hrun : (machine cfg).run (machine cfg).start as = some s) (left : s.consumer = .done) :
    (machine cfg).Guarded SignalWhenIdle (machine cfg).start as ↔ s.Drained := by
  have known : s.Known := (machine cfg).run_invariant Known (fun _ _ _ hs h => next_known hs h) (fresh_known cfg) hrun
  rw [← known.drained_iff left]
  exact (machine cfg).guarded_iff_safe SignalWhenIdle Known Safe (fun _ _ _ hs h => next_known hs h)
    (fun _ _ _ hs safe h => next_sharp hs safe h) (fun _ _ _ hs lost h => next_doomed hs lost h)
    (fresh_known cfg) nofun hrun

/-- A signal with nothing under way: the consumer finds the buffer empty and shut down. -/
theorem shutdown_drains_idle :
    (machine {}).Guarded SignalWhenIdle (machine {}).start [.raiseFlag, .shutdown, .pop] ↔
      Drained { fresh {} with
        session := ⟨{ maxCapacity := 10000, shutdownFlag := true }, [.shutdown, .popped none]⟩
        consumer := .done
        shutdownFlag := true } :=
  shutdown_drains_iff {} [.raiseFlag, .shutdown, .pop] _ rfl rfl

/-! ## Packets left behind -/

/-- An ARP request of 10.0.0.1 for 10.0.0.2. -/
def arpRequest : Capture := .ofFrame (List.replicate 6 0xFF ++ [2, 0, 0, 0, 0, 1, 0x08, 0x06] ++
  [0, 1, 8, 0, 6, 4, 0, 1, 2, 0, 0, 0, 0, 1, 10, 0, 0, 1, 0, 0, 0, 0, 0, 0, 10, 0, 0, 2]) 42 0

/-- Two packets are queued when the signal arrives. -/
def signalRun : List PipelineStep :=
  [.push arpRequest, .push arpRequest, .raiseFlag, .shutdown, .pop, .dissect, .track 0 0, .inspect 0, .count,
   .test]

/-- The consumer returns after the first of them. -/
theorem shutdown_leaves_packets :
    ∃ s, (machine {}).run (machine {}).start signalRun = some s ∧ s.consumer = .done ∧
      s.session.ring.queue = [arpRequest] ∧ ¬ s.Drained := by
  refine ⟨_, rfl, rfl, rfl, ?_⟩
  intro drained
  exact absurd drained.popped.length_le (by decide)

end PipelineState

end Nte
