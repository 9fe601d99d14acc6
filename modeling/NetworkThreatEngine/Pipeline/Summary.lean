import NetworkThreatEngine.Flow.Accounting
import NetworkThreatEngine.Pipeline.DropRate
import NetworkThreatEngine.Pipeline.Engine

/-!
# The session summary

What `collect_stats` reads and `print_session_summary` prints when `main` has joined the threads.
-/
namespace Nte
open Transition

namespace Engine

/-- A step of the engine is at most one call of the ring buffer. -/
theorem next_session {e e' : Engine} {a : EngineStep} (h : e.next a = some e') :
    e'.pipeline.session = e.pipeline.session ∨
      ∃ call, e.pipeline.session.next call = some e'.pipeline.session := by
  rcases next_pipeline h with same | ⟨b, hb⟩ | ⟨now, swept⟩
  · exact .inl (congrArg PipelineState.session same)
  · by_cases push : ∃ packet, b = .push packet
    · obtain ⟨packet, rfl⟩ := push
      rw [PipelineState.next] at hb
      obtain ⟨session, called, pushed⟩ := Option.map_eq_some_iff.mp hb
      exact .inr ⟨.push packet, by rw [called, ← pushed]⟩
    · rcases session_next hb (fun packet same => push ⟨packet, same⟩) with same | ⟨call, -, called⟩
      · exact .inl same
      · exact .inr ⟨call, called⟩
  · refine .inl ?_
    rw [swept]

theorem reachable_session {cfg : Config} {e : Engine} (reach : (machine cfg).Reachable e) :
    e.pipeline.session.Counted := by
  refine Machine.Reachable.invariant _ (fun e : Engine => e.pipeline.session.Counted) reach ⟨rfl, rfl⟩ ?_
  intro e a e' counted hnext
  rcases next_session hnext with same | ⟨call, called⟩
  · rw [same]
    exact counted
  · exact counted.next called

end Engine

end Nte
