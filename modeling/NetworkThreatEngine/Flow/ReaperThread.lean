import NetworkThreatEngine.Flow.Reaper
import NetworkThreatEngine.Lib.PeriodicWorker

/-!
# The thread of the reaper

`start_reaper`, `reaper_loop` and `stop_reaper`. `stop_reaper` is called at the shutdown and once more by the
destructor. Its notification may come too early for the wait, which then ends with the interval.
-/
namespace Nte
open Transition PeriodicWorker

namespace FlowTracker

/-- A pass reads the clock; the other threads call `update`. -/
def reaperJob (cfg : Config) : Job FlowTracker TimePoint UpdateCall where
  start := .ofConfig cfg
  work := evictExpiredFlows
  other := fun t call => t.step (.update call)

/-- The reaper lives as long as its flag is up. Once `stop_reaper` has lowered it, the reaper makes at most the pass
that it has begun, never waits for good, and can be joined; from then on updates alone change the table and no flow
goes away. -/
structure ReaperStops (cfg : Config) (s : State FlowTracker) : Prop where
  alive : s.flag = true → s.worker ≠ .done
  stopping : s.flag = false → (reaperJob cfg).Stopping s
  joined : s.joinable = false → ∀ as s', (reaperJob cfg).machine.run s as = some s' →
    as.countP Job.ofWorker = 0 ∧ s'.data = s.data.updates (as.filterMap Job.eventOf) ∧
      ∀ key id, s.data.HasNode key id → s'.data.HasNode key id

theorem reaper_stops (cfg : Config) (s : State FlowTracker) (reach : (reaperJob cfg).machine.Reachable s) :
    ReaperStops cfg s := by
  have sound := (reaperJob cfg).reachable_sound reach
  refine ⟨?_, (reaperJob cfg).stopping, ?_⟩
  · intro up gone
    rw [sound.gone gone] at up
    cases up
  · intro joined as s' hrun
    obtain ⟨-, idle, data⟩ := (reaperJob cfg).run_joined sound joined hrun
    refine ⟨idle, data, ?_⟩
    intro key id node
    rw [data]
    exact node.updates _

/-- The notification falls between the test of the wait and the parking. -/
def missedNotification : List (PeriodicWorker.Step TimePoint UpdateCall) := [.advance, .advance, .advance, .stop, .notify, .advance]

theorem reaper_stops_parked :
    ∃ s, (reaperJob {}).machine.run (reaperJob {}).machine.start missedNotification = some s ∧ s.worker = .parked ∧
      s.stopper = .joining ∧ (reaperJob {}).Stopping s := by
  have runs : (reaperJob {}).machine.run (reaperJob {}).machine.start missedNotification =
      some { data := .ofConfig {}, flag := false, worker := .parked, stopper := .joining } := rfl
  exact ⟨_, runs, rfl, rfl, (reaper_stops {} _ ⟨missedNotification, runs⟩).stopping rfl⟩

end FlowTracker

end Nte
