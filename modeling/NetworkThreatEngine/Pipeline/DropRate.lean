import NetworkThreatEngine.Pipeline.RingBuffer

/-!
# The drop rate

`drop_rate_percent` divides the pushes that were dropped by the pushes that were not: `pushed_count_` is
incremented past the check for room only.
-/
namespace Nte
open Transition

/-- In exact arithmetic; the counters are read as 64-bit integers. -/
def RingBuffer.dropRatePercent {α : Type} (r : RingBuffer α) : ℚ :=
  if r.pushedCount = 0 then 0 else (r.droppedCount.toNat : ℚ) / r.pushedCount.toNat * 100

/-- The calls of `push`. -/
def pushesIn {α : Type} (log : List (RingReturn α)) : Nat := (acceptedIn log).length + refusedIn log

namespace Session
variable {α : Type}

/-- The share of the calls of `push` that dropped their packet. -/
def dropShare (s : Session α) : ℚ := if pushesIn s.log = 0 then 0 else 100 * refusedIn s.log / pushesIn s.log

/-- The figure is this share: a percentage that shows every drop. -/
structure RateExact (s : Session α) : Prop where
  share : s.ring.dropRatePercent = s.dropShare
  bounds : 0 ≤ s.ring.dropRatePercent ∧ s.ring.dropRatePercent ≤ 100
  shows : 0 < refusedIn s.log → 0 < s.ring.dropRatePercent

/-- A push finds room in the queue. -/
def HasRoom (s : Session α) : RingCall α → Prop
  | .push _ => s.ring.queue.length < s.ring.maxCapacity
  | _ => True

instance (s : Session α) : (call : RingCall α) → Decidable (s.HasRoom call)
  | .push _ => inferInstanceAs (Decidable (s.ring.queue.length < s.ring.maxCapacity))
  | .pop => isTrue trivial
  | .shutdown => isTrue trivial

/-- The counters count the pushes that returned `true` and those that returned `false`. -/
structure Counted (s : Session α) : Prop where
  pushed : s.ring.pushedCount = UInt64.ofNat (acceptedIn s.log).length
  dropped : s.ring.droppedCount = UInt64.ofNat (refusedIn s.log)

theorem Counted.next {s s' : Session α} {call : RingCall α} (h : s.Counted) (hnext : s.next call = some s') :
    s'.Counted := by
  obtain ⟨pushed, dropped⟩ := h
  rcases next_cases hnext with ⟨packet, -, -, rfl⟩ | ⟨packet, -, -, rfl⟩ | ⟨packet, rest, -, -, rfl⟩ |
    ⟨-, -, -, rfl⟩ | ⟨-, rfl⟩
  · refine ⟨?_, ?_⟩
    · rw [acceptedIn_refused]
      exact pushed
    · rw [refusedIn_refused, UInt64.ofNat_add, ← dropped]
      rfl
  · refine ⟨?_, ?_⟩
    · rw [acceptedIn_pushed, List.length_append, UInt64.ofNat_add, ← pushed]
      rfl
    · rw [refusedIn_pushed]
      exact dropped
  · exact ⟨by rwa [acceptedIn_popped], by rwa [refusedIn_popped]⟩
  · exact ⟨by rwa [acceptedIn_popped], by rwa [refusedIn_popped]⟩
  · exact ⟨by rwa [acceptedIn_shutdown], by rwa [refusedIn_shutdown]⟩

/-- What a session has counted so far when no push has been dropped. -/
structure Undropped (s : Session α) : Prop extends s.Counted where
  none : refusedIn s.log = 0

theorem Undropped.rateExact {s : Session α} (h : s.Undropped) : s.RateExact := by
  have rate : s.ring.dropRatePercent = 0 := by
    rw [RingBuffer.dropRatePercent, h.dropped, h.none]
    simp
  constructor
  · rw [rate, dropShare, h.none]
    simp
  · rw [rate]
    norm_num
  · intro some
    exact absurd h.none some.ne'

theorem Undropped.next {s s' : Session α} {call : RingCall α} (h : s.Undropped) (room : s.HasRoom call)
    (hnext : s.next call = some s') : s'.Undropped := by
  refine ⟨h.toCounted.next hnext, ?_⟩
  rcases next_cases hnext with ⟨packet, rfl, full, rfl⟩ | ⟨packet, -, -, rfl⟩ | ⟨packet, rest, -, -, rfl⟩ |
    ⟨-, -, -, rfl⟩ | ⟨-, rfl⟩
  · exact absurd room (Nat.not_lt_of_le full)
  · rw [refusedIn_pushed, h.none]
  · rw [refusedIn_popped, h.none]
  · rw [refusedIn_popped, h.none]
  · rw [refusedIn_shutdown, h.none]

/-- At the first drop the figure is too high, or 0. -/
theorem Undropped.first_drop {s s' : Session α} {call : RingCall α} (h : s.Undropped) (full : ¬ s.HasRoom call)
    (hnext : s.next call = some s') : ¬ s'.RateExact := by
  intro right
  have counted := h.toCounted.next hnext
  obtain ⟨refused, accepted⟩ : refusedIn s'.log = 1 ∧ acceptedIn s'.log = acceptedIn s.log := by
    rcases next_cases hnext with ⟨packet, rfl, -, rfl⟩ | ⟨packet, rfl, room, rfl⟩ | ⟨packet, rest, rfl, -, rfl⟩ |
      ⟨rfl, -, -, rfl⟩ | ⟨rfl, rfl⟩
    · rw [refusedIn_refused, acceptedIn_refused, h.none]
      exact ⟨rfl, rfl⟩
    · exact absurd room full
    · exact absurd trivial full
    · exact absurd trivial full
    · exact absurd trivial full
  have pushes : pushesIn s'.log = (acceptedIn s.log).length + 1 := by
    rw [pushesIn, refused, accepted]
  have shown := right.shows (by rw [refused]; exact Nat.one_pos)
  have share := right.share
  rw [RingBuffer.dropRatePercent] at share shown
  split at shown
  · exact lt_irrefl _ shown
  · rename_i some
    -- the denominator is the number of accepted pushes, or less once the counter has wrapped
    have few : s'.ring.pushedCount.toNat ≤ (acceptedIn s.log).length := by
      rw [counted.pushed, accepted, UInt64.toNat_ofNat']
      exact Nat.mod_le _ _
    have positive : (0 : ℚ) < s'.ring.pushedCount.toNat := by
      rw [Nat.cast_pos, Nat.pos_iff_ne_zero]
      exact fun zero => some (UInt64.toNat_inj.mp zero)
    have one : (UInt64.ofNat 1).toNat = 1 := rfl
    have below : 100 * ((1 : ℕ) : ℚ) / ((acceptedIn s.log).length + 1 : ℕ) <
        ((1 : ℕ) : ℚ) / s'.ring.pushedCount.toNat * 100 := by
      rw [div_mul_eq_mul_div, mul_comm]
      exact div_lt_div_of_pos_left (by norm_num) positive (by exact_mod_cast Nat.lt_succ_of_le few)
    rw [if_neg some, dropShare, pushes, if_neg (Nat.succ_ne_zero _), counted.dropped, refused, one] at share
    exact below.ne share.symm

theorem undropped_fresh (cfg : RingBufferConfig) : (fresh cfg : Session α).Undropped := ⟨⟨rfl, rfl⟩, rfl⟩

/-- The figure is a percentage in every state of a run exactly when the run drops no packet. -/
theorem drop_rate_iff (cfg : RingBufferConfig) (calls : List (RingCall α)) (s : Session α)
    (hrun : (machine cfg).run (fresh cfg) calls = some s) :
    (machine cfg).Always RateExact (fresh cfg) calls ↔ (machine cfg).Guarded HasRoom (fresh cfg) calls :=
  ((machine cfg).guarded_iff_always HasRoom Undropped RateExact (fun _ h => h.rateExact)
    (fun _ _ _ h room hnext => h.next room hnext) (fun _ _ _ h full hnext => h.first_drop full hnext)
    (undropped_fresh cfg) hrun).symm

/-- A consumer that keeps up. -/
theorem drop_rate_iff_drained :
    ∃ s : Session Nat, (machine ⟨1⟩).run (fresh ⟨1⟩) [.push 0, .pop, .push 1] = some s ∧
      (machine ⟨1⟩).Always RateExact (fresh ⟨1⟩) [.push 0, .pop, .push 1] := by
  refine ⟨_, rfl, ?_⟩
  rw [drop_rate_iff ⟨1⟩ [.push 0, .pop, .push 1] _ rfl]
  decide

/-- A queue of one packet that nobody empties. -/
def saturated : Session Nat :=
  ⟨{ maxCapacity := 1, queue := [0], pushedCount := 1, droppedCount := 2 },
    [.pushed 0 true, .pushed 1 false, .pushed 2 false]⟩

/-- Of three packets two are dropped, and the figure is 200 %. -/
theorem drop_rate_over_hundred :
    (machine ⟨1⟩).run (fresh ⟨1⟩) [.push 0, .push 1, .push 2] = some saturated ∧
      saturated.ring.dropRatePercent = 200 ∧ saturated.dropShare = 200 / 3 ∧ ¬ saturated.RateExact := by
  have rate : saturated.ring.dropRatePercent = 200 := by decide +kernel
  refine ⟨rfl, rate, by decide +kernel, ?_⟩
  intro right
  have bound := right.bounds.2
  rw [rate] at bound
  norm_num at bound

end Session

end Nte
