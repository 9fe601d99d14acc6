import NetworkThreatEngine.Detect.Alert
import NetworkThreatEngine.Dissector.Safety
import NetworkThreatEngine.Lib.ConditionVariable
import NetworkThreatEngine.Pipeline.RingBuffer

/-!
# The two condition variables

`PacketRingBuffer::pop` and `DeliveryLayer::writer_loop` wait on a condition variable whose flag
`shutdown` and `stop` raise without taking the mutex.
-/
namespace Nte
open ConditionVariable

/-! ## The ring buffer -/

/-- A consumer calling `pop` again and again, producers, and `shutdown` calls. A push notifies only
when it was accepted. -/
def ringMonitor (cfg : RingBufferConfig) : Monitor (RingBuffer Capture) Capture where
  start := .ofConfig cfg
  ready := RingBuffer.ready
  again := fun _ => true
  body := fun r => r.take.2
  produce := fun r packet => ((r.push packet).2, (r.push packet).1)
  mayStop := fun _ => true
  raise := RingBuffer.shutdown
  flagged := RingBuffer.shutdownFlag
  flagged_ready := by
    intro r h
    rw [RingBuffer.ready, h, Bool.or_true]
  flagged_raise := fun _ => rfl
  flagged_body := fun r h => r.take_shutdownFlag.trans h
  flagged_produce := fun r packet h => (r.push_shutdownFlag packet).trans h

/-! ## The delivery layer -/

/-- What the writer waits for: an alert, or the end of `running_`. -/
structure AlertQueue where
  alertQueue : List ThreatAlert := []
  running : Bool := true
  deriving DecidableEq, Repr

namespace AlertQueue

def ready (q : AlertQueue) : Bool := !q.alertQueue.isEmpty || !q.running

/-- The writer takes the front alert when there is one. -/
def takeFront (q : AlertQueue) : AlertQueue := { q with alertQueue := q.alertQueue.tail }

def enqueue (q : AlertQueue) (alert : ThreatAlert) : AlertQueue := { q with alertQueue := q.alertQueue ++ [alert] }

end AlertQueue

/-- The writer loops while `running_`; `stop` returns at once when it is not. -/
def deliveryMonitor : Monitor AlertQueue ThreatAlert where
  start := {}
  ready := AlertQueue.ready
  again := AlertQueue.running
  body := AlertQueue.takeFront
  produce := fun q alert => (q.enqueue alert, true)
  mayStop := AlertQueue.running
  raise := fun q => { q with running := false }
  flagged := fun q => !q.running
  flagged_ready := by
    intro q h
    rw [AlertQueue.ready, h, Bool.or_true]
  flagged_raise := fun _ => rfl
  flagged_body := fun _ h => h
  flagged_produce := fun _ _ h => h

/-! ## Lost wake-ups -/

/-- With the notification between the failed test and the parking, both waiters stay parked. -/
theorem wakeups_lost :
    (∃ s, (ringMonitor {}).machine.run (ringMonitor {}).machine.start Monitor.lostRun = some s ∧
        (ringMonitor {}).Lost s) ∧
      ∃ s, deliveryMonitor.machine.run deliveryMonitor.machine.start Monitor.lostRun = some s ∧
        deliveryMonitor.Lost s :=
  ⟨(ringMonitor {}).lostRun_lost rfl rfl rfl, deliveryMonitor.lostRun_lost rfl rfl rfl⟩

/-- In every run that keeps the notification out of that window no wake-up is lost. -/
theorem wakeups_kept (cfg : RingBufferConfig) :
    (∀ as s, (ringMonitor cfg).machine.Guarded Monitor.OutsideWindow (ringMonitor cfg).machine.start as →
        (ringMonitor cfg).machine.run (ringMonitor cfg).machine.start as = some s →
          ¬ (ringMonitor cfg).Lost s) ∧
      ∀ as s, deliveryMonitor.machine.Guarded Monitor.OutsideWindow deliveryMonitor.machine.start as →
        deliveryMonitor.machine.run deliveryMonitor.machine.start as = some s → ¬ deliveryMonitor.Lost s :=
  ⟨fun _ _ => (ringMonitor cfg).not_lost, fun _ _ => deliveryMonitor.not_lost⟩

end Nte
