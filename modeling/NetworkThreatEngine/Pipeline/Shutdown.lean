import NetworkThreatEngine.Detect.Verdicts
import NetworkThreatEngine.Lib.Budgets
import NetworkThreatEngine.Pipeline.Engine

/-!
# The end of the shutdown

From the moment a signal has raised the flag, the threads have a bounded number of steps left, frames that still arrive
and further signals apart, and one of them can always take the next step until `main` prints the summary.
-/
namespace Nte
open Transition StateRules

namespace Engine

/-! ## What is left to do -/

/-- The consumer's steps with the flag up. -/
def consumerLeft : ConsumerAt → Nat
  | .popping => 6
  | .dissecting _ => 5
  | .tracking _ => 4
  | .inspecting _ => 3
  | .counting => 2
  | .testing => 1
  | .done => 0

/-- The inspections still to come with the flag up. -/
def inspectionsLeft : ConsumerAt → Nat
  | .counting => 0
  | .testing => 0
  | .done => 0
  | _ => 1

/-- The pops still to come with the flag up. -/
def popsLeft : ConsumerAt → Nat
  | .popping => 1
  | _ => 0

/-- The writer's steps but for the alerts in its queue: the round it is in, and the drain. -/
def writerLeft (running : Bool) : WriterAt → Nat
  | .testing => if running then 4 else 2
  | .waiting => 3
  | .persisting _ => 6
  | .displaying _ => 5
  | .draining => 1
  | .done => 0

def mainLeft : MainAt → StopAt → Nat
  | .joiningConsumer, _ => 7
  | .stoppingCapture, _ => 6
  | .stoppingReaper, _ => 5
  | .stoppingDelivery, .notCalled => 4
  | .stoppingDelivery, .joining => 3
  | .stoppingDelivery, .closing => 2
  | .stoppingDelivery, .returned => 1
  | .summary, _ => 0

def callbackLeft : Callback → Nat
  | .count _ => 3
  | .push _ => 2
  | .countDrop => 1

/-- An alert takes a round of the writer, and one call to get into its queue; an inspection has six alerts at most. -/
def left (e : Engine) : Nat :=
  consumerLeft e.pipeline.consumer + 5 * (e.outbox.length + 6 * inspectionsLeft e.pipeline.consumer) +
    (4 * e.delivery.alertQueue.length + writerLeft e.delivery.running e.delivery.writer) +
    (mainLeft e.main e.delivery.stopping + (e.underWay.map callbackLeft).sum + e.pipeline.handlers)

/-- The steps of the threads. Frames and signals come from outside, and the reaper's passes with the time. -/
def own : EngineStep → Bool
  | .arrive _ => false
  | .pipeline .raiseFlag => false
  | .evict _ => false
  | _ => true

/-- What comes from outside makes work for a callback or a signal handler. -/
def gain : EngineStep → Nat
  | .arrive _ => 3
  | .pipeline .raiseFlag => 1
  | _ => 0

def pops : EngineStep → Bool
  | .pipeline .pop => true
  | _ => false

/-! ## Each step against the work left -/

theorem firedSince_inspected (d : ThreatDetector) (info : PacketInfo) (now : TimePoint) :
    (firedSince d (after (ThreatDetector.inspect info now) d)).length ≤ 6 := by
  have few := (ThreatDetector.verdicts_types info now d).length_le
  rw [List.length_map] at few
  rw [firedSince, (ThreatDetector.inspect_fires info now d).delivered, List.drop_left, List.length_map]
  exact few

/-- The consumer's step, and the alerts it brings. -/
theorem pipeline_left {p p' : PipelineState} {a : PipelineStep} (up : p.shutdownFlag = true) (h : p.next a = some p')
    (consumer : ∀ packet, a ≠ .push packet) :
    p'.shutdownFlag = true ∧
      consumerLeft p'.consumer + 5 * ((firedSince p.detector p'.detector).length + 6 * inspectionsLeft p'.consumer) +
        p'.handlers + (own (.pipeline a)).toNat ≤
          consumerLeft p.consumer + 5 * (6 * inspectionsLeft p.consumer) + p.handlers + gain (.pipeline a) ∧
      popsLeft p'.consumer + (pops (.pipeline a)).toNat ≤ popsLeft p.consumer := by
  have none_fired {d : ThreatDetector} : (firedSince d d).length = 0 := by rw [firedSince_self, List.length_nil]
  rcases PipelineState.next_cases h with ⟨packet, session, rfl, -, rfl⟩ | ⟨rfl, rfl⟩ | ⟨session, rfl, busy, -, rfl⟩ |
    ⟨rfl, at_, hpop⟩ | ⟨packet, rfl, at_, rfl⟩ | ⟨info, now, created, rfl, at_, rfl⟩ | ⟨info, now, rfl, at_, rfl⟩ |
    ⟨rfl, at_, rfl⟩ | ⟨rfl, at_, rfl⟩
  · exact absurd rfl (consumer packet)
  · refine ⟨rfl, ?_, le_refl _⟩
    simp only [none_fired, own, gain, Bool.toNat_false]
    omega
  · refine ⟨up, ?_, le_refl _⟩
    simp only [none_fired, own, gain, Bool.toNat_true]
    omega
  · rw [at_]
    rcases PipelineState.popPacket_cases hpop with ⟨packet, rest, -, rfl⟩ | ⟨-, -, rfl⟩
    · refine ⟨up, ?_, le_refl _⟩
      simp only [none_fired, own, gain, consumerLeft, inspectionsLeft, Bool.toNat_true]
      omega
    · refine ⟨up, ?_, le_refl _⟩
      simp only [none_fired, own, gain, consumerLeft, inspectionsLeft, Bool.toNat_true]
      omega
  · rw [at_]
    refine ⟨up, ?_, le_refl _⟩
    simp only [none_fired, own, gain, consumerLeft, inspectionsLeft, Bool.toNat_true]
    omega
  · have same : (p.trackPacket info now created).detector = p.detector ∧
        (p.trackPacket info now created).handlers = p.handlers := by
      unfold PipelineState.trackPacket
      split <;> exact ⟨rfl, rfl⟩
    rw [at_, PipelineState.trackPacket_consumer, PipelineState.trackPacket_shutdownFlag, same.1, same.2]
    refine ⟨up, ?_, le_refl _⟩
    simp only [none_fired, own, gain, consumerLeft, inspectionsLeft, Bool.toNat_true]
    omega
  · have same : (p.inspectPacket info now).handlers = p.handlers := by
      unfold PipelineState.inspectPacket
      split <;> rfl
    have few : (firedSince p.detector (p.inspectPacket info now).detector).length ≤ 6 := by
      unfold PipelineState.inspectPacket
      split
      · exact firedSince_inspected p.detector info now
      · rw [none_fired]
        exact Nat.zero_le 6
    rw [at_, PipelineState.inspectPacket_consumer, PipelineState.inspectPacket_shutdownFlag, same]
    refine ⟨up, ?_, le_refl _⟩
    simp only [own, gain, consumerLeft, inspectionsLeft, Bool.toNat_true]
    omega
  · rw [at_]
    refine ⟨up, ?_, le_refl _⟩
    simp only [none_fired, own, gain, consumerLeft, inspectionsLeft, Bool.toNat_true]
    omega
  · rw [at_]
    simp only [up, if_true]
    refine ⟨trivial, ?_, le_refl _⟩
    simp only [none_fired, own, gain, consumerLeft, inspectionsLeft, Bool.toNat_true]
    omega

theorem writer_left {d d' : DeliveryLayer} {stepDone : Bool} (h : d.writerLoop stepDone = some d') :
    4 * d'.alertQueue.length + writerLeft d'.running d'.writer + 1 ≤
      4 * d.alertQueue.length + writerLeft d.running d.writer := by
  rw [DeliveryLayer.writerLoop] at h
  cases at_ : d.writer with
  | testing =>
      simp only [at_, Option.some.injEq] at h
      subst h
      cases up : d.running <;> simp [writerLeft]
  | waiting =>
      simp only [at_] at h
      cases queue : d.alertQueue with
      | cons alert rest =>
          simp only [queue, Option.some.injEq] at h
          subst h
          simp only [writerLeft, List.length_cons]
          omega
      | nil =>
          simp only [queue] at h
          split at h
          · cases h
          · rename_i down
            cases h
            simp [writerLeft, down]
  | persisting alert =>
      simp only [at_, Option.some.injEq] at h
      rw [DeliveryLayer.persistAlert_eq] at h
      subst h
      simp only [writerLeft]
      omega
  | displaying alert =>
      simp only [at_, Option.some.injEq] at h
      subst h
      have most : writerLeft d.running .testing ≤ 4 := by
        cases d.running <;> decide
      exact Nat.add_le_add_left (Nat.succ_le_succ most) _
  | draining =>
      simp only [at_] at h
      cases queue : d.alertQueue with
      | cons alert rest =>
          simp only [queue, Option.some.injEq] at h
          rw [DeliveryLayer.persistAlert_eq] at h
          subst h
          simp only [writerLeft, at_, List.length_cons]
          omega
      | nil =>
          simp only [queue, Option.some.injEq] at h
          subst h
          simp [writerLeft]
  | done => simp [at_] at h

theorem callback_left {c c' : CaptureState} {callback : Callback} (h : c.next (.callback callback) = some c') :
    (c'.underWay.map callbackLeft).sum + 1 ≤ (c.underWay.map callbackLeft).sum := by
  by_cases mem : callback ∈ c.underWay
  · have others := List.sum_map_erase callbackLeft mem
    rw [CaptureState.next, if_pos mem] at h
    cases callback with
    | count packet =>
        cases h
        simp only [List.map_append, List.sum_append, List.map_singleton, List.sum_singleton, callbackLeft] at others ⊢
        omega
    | push packet =>
        dsimp only at h
        split at h
        · cases h
          simp only [callbackLeft] at others ⊢
          omega
        · cases h
          simp only [List.map_append, List.sum_append, List.map_singleton, List.sum_singleton, callbackLeft] at others ⊢
          omega
    | countDrop =>
        cases h
        simp only [callbackLeft] at others ⊢
        omega
  · rw [CaptureState.next, if_neg mem] at h
    cases h

/-- What `main` does next behind the joins. -/
theorem main_left {e e' : Engine} (h : e.mainStep = some e') :
    e'.pipeline = e.pipeline ∧ e'.outbox = e.outbox ∧ e'.underWay = e.underWay ∧
      4 * e'.delivery.alertQueue.length + writerLeft e'.delivery.running e'.delivery.writer +
          mainLeft e'.main e'.delivery.stopping + 1 ≤
        4 * e.delivery.alertQueue.length + writerLeft e.delivery.running e.delivery.writer +
          mainLeft e.main e.delivery.stopping := by
  have lowered {w : WriterAt} (running : Bool) : writerLeft false w ≤ writerLeft running w := by
    cases w <;> cases running <;> simp [writerLeft]
  rw [mainStep] at h
  cases at_ : e.main with
  | joiningConsumer =>
      simp only [at_] at h
      split at h <;> cases h
      exact ⟨rfl, rfl, rfl, le_refl _⟩
  | stoppingCapture =>
      simp only [at_] at h
      split at h <;> cases h
      exact ⟨rfl, rfl, rfl, le_refl _⟩
  | stoppingReaper =>
      simp only [at_] at h
      cases h
      refine ⟨rfl, rfl, rfl, ?_⟩
      cases e.delivery.stopping <;> simp [mainLeft]
  | stoppingDelivery =>
      simp only [at_] at h
      cases called : e.delivery.stopping with
      | notCalled =>
          simp only [called] at h
          obtain ⟨d, hd, rfl⟩ := Option.map_eq_some_iff.mp h
          simp only [DeliveryLayer.next, called] at hd
          split at hd <;> cases hd
          · have less := lowered (w := e.delivery.writer) e.delivery.running
            refine ⟨rfl, rfl, rfl, ?_⟩
            simp only [at_, mainLeft]
            omega
          · refine ⟨rfl, rfl, rfl, ?_⟩
            simp [at_, mainLeft]
      | joining =>
          simp only [called] at h
          obtain ⟨d, hd, rfl⟩ := Option.map_eq_some_iff.mp h
          rw [DeliveryLayer.next] at hd
          split at hd <;> cases hd
          refine ⟨rfl, rfl, rfl, ?_⟩
          simp [at_, mainLeft]
      | closing =>
          simp only [called] at h
          obtain ⟨d, hd, rfl⟩ := Option.map_eq_some_iff.mp h
          rw [DeliveryLayer.next, if_pos called] at hd
          cases hd
          refine ⟨rfl, rfl, rfl, ?_⟩
          simp [at_, mainLeft]
      | returned =>
          simp only [called] at h
          cases h
          exact ⟨rfl, rfl, rfl, by simp [mainLeft]⟩
  | summary => simp [at_] at h

/-- Every step of the threads brings the end nearer, and the flag stays up. -/
theorem next_left {e e' : Engine} {a : EngineStep} (up : e.pipeline.shutdownFlag = true) (h : e.next a = some e') :
    e'.pipeline.shutdownFlag = true ∧ e'.left + (own a).toNat ≤ e.left + gain a ∧
      popsLeft e'.pipeline.consumer + (pops a).toNat ≤ popsLeft e.pipeline.consumer := by
  cases a with
  | arrive frame =>
      rw [Engine.next] at h
      split at h <;> cases h
      refine ⟨up, ?_, le_refl _⟩
      simp only [left, captureView, own, gain, List.map_append, List.sum_append, List.map_singleton, List.sum_singleton,
        callbackLeft, Bool.toNat_false]
      omega
  | callback callback =>
      obtain ⟨c, hc, rfl⟩ := Option.map_eq_some_iff.mp h
      have less := callback_left hc
      refine ⟨up, ?_, le_refl _⟩
      simp only [left, captureView, own, gain, Bool.toNat_true] at less ⊢
      omega
  | pipeline a =>
      rw [Engine.next, pipelineStep] at h
      split at h
      · rename_i allowed
        obtain ⟨p, hp, rfl⟩ := Option.map_eq_some_iff.mp h
        have consumer : ∀ packet, a ≠ .push packet := by
          rintro packet rfl
          cases allowed
        obtain ⟨flag, less, popped⟩ := pipeline_left up hp consumer
        refine ⟨flag, ?_, popped⟩
        simp only [left, List.length_append]
        omega
      · cases h
  | enqueue =>
      rw [Engine.next, Engine.enqueue] at h
      split at h
      · rename_i alert rest full
        obtain ⟨d, hd, rfl⟩ := Option.map_eq_some_iff.mp h
        rw [DeliveryLayer.enqueue_next hd]
        refine ⟨up, ?_, le_refl _⟩
        simp only [left, full, own, gain, List.length_cons, List.length_append, List.length_nil, Bool.toNat_true]
        omega
      · cases h
  | evict now =>
      rw [Engine.next] at h
      split at h <;> cases h
      exact ⟨up, le_refl _, le_refl _⟩
  | write stepDone =>
      obtain ⟨d, hd, rfl⟩ := Option.map_eq_some_iff.mp h
      have less := writer_left hd
      have same := (DeliveryLayer.writerLoop_frame hd).2
      refine ⟨up, ?_, le_refl _⟩
      simp only [left, same, own, gain, Bool.toNat_true]
      omega
  | main =>
      obtain ⟨pipeline, outbox, underWay, less⟩ := main_left h
      rw [pipeline]
      refine ⟨up, ?_, le_refl _⟩
      simp only [left, pipeline, outbox, underWay, own, gain, Bool.toNat_true]
      omega

theorem left_le (e : Engine) :
    e.left ≤ 49 + 5 * e.outbox.length + 4 * e.delivery.alertQueue.length + 3 * e.underWay.length +
      e.pipeline.handlers := by
  have consumer : consumerLeft e.pipeline.consumer + 30 * inspectionsLeft e.pipeline.consumer ≤ 36 := by
    cases e.pipeline.consumer <;> simp [consumerLeft, inspectionsLeft]
  have writer : writerLeft e.delivery.running e.delivery.writer ≤ 6 := by
    cases e.delivery.writer <;> cases e.delivery.running <;> simp [writerLeft]
  have main : mainLeft e.main e.delivery.stopping ≤ 7 := by
    cases e.main <;> cases e.delivery.stopping <;> decide
  have callbacks : (e.underWay.map callbackLeft).sum ≤ (e.underWay.map callbackLeft).length • 3 := by
    refine List.sum_le_card_nsmul _ 3 ?_
    intro steps mem
    obtain ⟨c, -, rfl⟩ := List.mem_map.mp mem
    cases c <;> simp [callbackLeft]
  rw [List.length_map, smul_eq_mul] at callbacks
  unfold left
  omega

/-! ## The next step -/

/-- Behind a raised flag there is a handler at work, or the buffer has been shut down. -/
def Signalled (p : PipelineState) : Prop :=
  p.shutdownFlag = true → p.handlers ≠ 0 ∨ p.session.ring.shutdownFlag = true

theorem signalled_next {p p' : PipelineState} {a : PipelineStep} (hp : Signalled p) (h : p.next a = some p') :
    Signalled p' := by
  unfold Signalled at hp ⊢
  rcases PipelineState.next_cases h with ⟨packet, session, -, hnext, rfl⟩ | ⟨-, rfl⟩ | ⟨session, -, -, hnext, rfl⟩ |
    ⟨-, -, hpop⟩ | ⟨packet, -, -, rfl⟩ | ⟨info, now, created, -, -, rfl⟩ | ⟨info, now, -, -, rfl⟩ |
    ⟨-, -, rfl⟩ | ⟨-, -, rfl⟩
  · dsimp only
    rw [(PipelineState.next_push_log hnext).2]
    exact hp
  · exact fun _ => .inl (Nat.succ_ne_zero _)
  · cases hnext
    exact fun _ => .inr rfl
  · rcases PipelineState.popPacket_cases hpop with ⟨packet, rest, -, rfl⟩ | ⟨-, -, rfl⟩ <;> exact hp
  · exact hp
  · unfold PipelineState.trackPacket
    split <;> exact hp
  · unfold PipelineState.inspectPacket
    split <;> exact hp
  · exact hp
  · exact hp

theorem signalled_engine {e e' : Engine} {a : EngineStep} (signalled : Signalled e.pipeline)
    (hnext : e.next a = some e') : Signalled e'.pipeline := by
  rcases next_pipeline hnext with same | ⟨b, hb⟩ | ⟨now, swept⟩
  · rw [same]
    exact signalled
  · exact signalled_next signalled hb
  · rw [swept]
    exact signalled

/-- What the rest of a run relies on once the flag is up. -/
structure Going (cfg : Config) (e : Engine) : Prop where
  wired : e.Wired cfg
  signalled : Signalled e.pipeline
  up : e.pipeline.shutdownFlag = true

theorem Going.next {cfg : Config} {e e' : Engine} {a : EngineStep} (h : e.Going cfg) (hnext : e.next a = some e') :
    e'.Going cfg :=
  ⟨h.wired.next hnext, signalled_engine h.signalled hnext, (next_left h.up hnext).1⟩

/-- As long as the summary has not been reached, a thread can go on. -/
theorem Going.progress {cfg : Config} {e : Engine} (h : e.Going cfg) (busy : e.main ≠ .summary) :
    ∃ a, own a = true ∧ (e.next a).isSome = true := by
  have consumer {b : PipelineStep} (mine : own (.pipeline b) = true) (allowed : e.allows b = true)
      (enabled : (e.pipeline.next b).isSome = true) : ∃ a, own a = true ∧ (e.next a).isSome = true := by
    refine ⟨.pipeline b, mine, ?_⟩
    rw [Engine.next, pipelineStep, if_pos allowed, Option.isSome_map]
    exact enabled
  have main (enabled : e.mainStep.isSome = true) : ∃ a, own a = true ∧ (e.next a).isSome = true := ⟨.main, rfl, enabled⟩
  cases at_ : e.main with
  | joiningConsumer =>
      cases where_ : e.pipeline.consumer with
      | popping =>
          rcases h.signalled h.up with handler | shut
          · refine consumer (b := .shutdown) rfl rfl ?_
            rw [PipelineState.next, if_neg handler]
            rfl
          · refine consumer (b := .pop) rfl rfl ?_
            have ready : e.pipeline.session.ring.ready = true := by
              rw [RingBuffer.ready, shut, Bool.or_true]
            simp only [PipelineState.next, where_, PipelineState.popPacket, RingBuffer.pop, ready, if_true]
            split <;> first | rfl | cases ‹_›
      | dissecting packet => exact consumer (b := .dissect) rfl rfl (by simp [PipelineState.next, where_])
      | tracking info => exact consumer (b := .track 0 0) rfl rfl (by simp [PipelineState.next, where_])
      | inspecting info => exact consumer (b := .inspect 0) rfl rfl (by simp [PipelineState.next, where_])
      | counting =>
          cases waiting : e.outbox with
          | nil =>
              refine consumer (b := .count) rfl ?_ (by simp [PipelineState.next, where_])
              rw [allows, waiting]
              rfl
          | cons alert rest =>
              have running := h.wired.staged.called.mp (h.wired.phased.uncalled (by rw [at_]; rfl))
              have free : e.delivery.writer ≠ .draining := by
                intro draining
                rw [h.wired.staged.drains draining] at running
                cases running
              refine ⟨.enqueue, rfl, ?_⟩
              simp [Engine.next, Engine.enqueue, waiting, DeliveryLayer.next, free]
      | testing => exact consumer (b := .test) rfl rfl (by simp [PipelineState.next, where_])
      | done => exact main (by simp [Engine.mainStep, at_, where_])
  | stoppingCapture =>
      cases under : e.underWay with
      | nil => exact main (by simp [Engine.mainStep, at_, under])
      | cons c others =>
          refine ⟨.callback c, rfl, ?_⟩
          have mem : c ∈ e.captureView.underWay := by
            rw [captureView, under]
            exact List.mem_cons_self
          rw [Engine.next, captureStep, Option.isSome_map, CaptureState.next, if_pos mem]
          cases c with
          | count packet => rfl
          | push packet =>
              dsimp only
              split <;> rfl
          | countDrop => rfl
  | stoppingReaper => exact main (by simp [Engine.mainStep, at_])
  | stoppingDelivery =>
      cases called : e.delivery.stopping with
      | notCalled =>
          refine main ?_
          simp only [Engine.mainStep, at_, called, Engine.deliver, DeliveryLayer.next, Option.isSome_map]
          split <;> rfl
      | joining =>
          by_cases ended : e.delivery.writer = .done
          · exact main (by simp [Engine.mainStep, at_, called, Engine.deliver, DeliveryLayer.next, ended])
          · have down : e.delivery.running = false := by
              cases running : e.delivery.running with
              | false => rfl
              | true =>
                  rw [h.wired.staged.called.mpr running] at called
                  cases called
            refine ⟨.write true, rfl, ?_⟩
            rw [Engine.next, Engine.deliver, Option.isSome_map, DeliveryLayer.next, DeliveryLayer.writerLoop]
            cases writer : e.delivery.writer with
            | done => exact absurd writer ended
            | waiting => cases e.delivery.alertQueue <;> simp [down]
            | draining => cases e.delivery.alertQueue <;> rfl
            | _ => rfl
      | closing => exact main (by simp [Engine.mainStep, at_, called, Engine.deliver, DeliveryLayer.next])
      | returned => exact main (by simp [Engine.mainStep, at_, called])
  | summary => exact absurd at_ busy

theorem gain_own {a : EngineStep} (mine : own a = true) : gain a = 0 := by
  cases a with
  | arrive frame => cases mine
  | pipeline b => cases b <;> first | rfl | cases mine
  | _ => rfl

/-- And that brings the end nearer. -/
theorem Going.advance {cfg : Config} {e : Engine} (h : e.Going cfg) (busy : e.main ≠ .summary) :
    ∃ a e', own a = true ∧ e.next a = some e' ∧ e'.Going cfg ∧ e'.left < e.left := by
  obtain ⟨a, mine, enabled⟩ := h.progress busy
  obtain ⟨e', hnext⟩ := Option.isSome_iff_exists.mp enabled
  obtain ⟨-, less, -⟩ := next_left h.up hnext
  rw [mine, gain_own mine] at less
  exact ⟨a, e', mine, hnext, h.next hnext, less⟩

/-! ## The end -/

def arrives : EngineStep → Bool
  | .arrive _ => true
  | _ => false

def signals : EngineStep → Bool
  | .pipeline .raiseFlag => true
  | _ => false

/-- What a raised flag means for every way in which the threads go on from here: few steps, one more packet at most,
and nothing in the way of the summary. -/
structure Ending (cfg : Config) (e : Engine) : Prop where
  bounded : ∀ as e', (machine cfg).run e as = some e' →
    as.countP own ≤ 49 + 5 * e.outbox.length + 4 * e.delivery.alertQueue.length + 3 * e.underWay.length +
      e.pipeline.handlers + (3 * as.countP arrives + as.countP signals)
  packet : ∀ as e', (machine cfg).run e as = some e' → as.countP pops ≤ 1
  progress : ∀ as e', (machine cfg).run e as = some e' → e'.main ≠ .summary →
    ∃ a, own a = true ∧ (e'.next a).isSome = true
  ends : ∃ as e', (∀ a ∈ as, own a = true) ∧ (machine cfg).run e as = some e' ∧ e'.main = .summary

end Engine

end Nte
