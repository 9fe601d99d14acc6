import NetworkThreatEngine.Lib.Budgets

/-!
# A thread that works at intervals

While a flag is up, the worker waits on a condition variable until the flag is down or an interval has passed, and
works once if it finds the flag still up. The stopper lowers the flag without the mutex, notifies, and joins; it may
stop the worker again. A notification can be lost as with any wait, but here the interval passes all the same.
-/
namespace PeriodicWorker
open Transition

/-- Where the worker is: at the test of its loop, taking the mutex, testing under it, about to park, parked, taking the
mutex after its time is up, at the test behind the wait, at work, or gone. -/
inductive Worker where
  | looping
  | locking
  | testing
  | parking
  | parked
  | expired
  | leaving
  | working
  | done
  deriving DecidableEq, Repr

inductive Stopper where
  | idle
  | lowered
  | joining
  deriving DecidableEq, Repr

structure State (δ : Type) where
  data : δ
  flag : Bool := true
  worker : Worker := .looping
  stopper : Stopper := .idle
  joinable : Bool := true

/-- `advance` is a step of the worker that depends on the flag alone; `other` is what other threads do to the data. -/
inductive Step (ι ε : Type) where
  | advance
  | wake
  | timeout
  | work (input : ι)
  | stop
  | notify
  | join
  | other (event : ε)
  deriving DecidableEq, Repr

def Worker.notified : Worker → Worker
  | parked => locking
  | w => w

/-- The worker's next step, unless it waits or works. -/
def Worker.advance (flag : Bool) : Worker → Option Worker
  | looping => some (if flag then locking else done)
  | locking => some testing
  | testing => some (if flag then parking else leaving)
  | parking => some parked
  | expired => some leaving
  | leaving => some (if flag then working else done)
  | parked | working | done => none

/-- What the worker does to the data, and what others do. -/
structure Job (δ ι ε : Type) where
  start : δ
  work : δ → ι → δ
  other : δ → ε → δ

namespace Job
variable {δ ι ε : Type} (j : Job δ ι ε)

def next (s : State δ) : Step ι ε → Option (State δ)
  | .advance => (s.worker.advance s.flag).map fun worker => { s with worker }
  | .wake => if s.worker = .parked then some { s with worker := .locking } else none
  | .timeout => if s.worker = .parked then some { s with worker := .expired } else none
  | .work input =>
      if s.worker = .working then some { s with data := j.work s.data input, worker := .looping } else none
  | .stop => if s.stopper = .idle then some { s with flag := false, stopper := .lowered } else none
  | .notify =>
      if s.stopper = .lowered then some { s with worker := s.worker.notified, stopper := .joining } else none
  | .join =>
      if s.stopper = .joining ∧ (s.joinable → s.worker = .done) then
        some { s with stopper := .idle, joinable := false }
      else none
  | .other event => some { s with data := j.other s.data event }

def machine : Machine (State δ) (Step ι ε) := ⟨{ data := j.start }, j.next⟩

/-! ## Invariant -/

/-- The worker is gone only when the flag is down; a stopper has lowered it; who has joined has seen the worker go. -/
structure Sound (s : State δ) : Prop where
  gone : s.worker = .done → s.flag = false
  stopping : s.stopper ≠ .idle → s.flag = false
  joined : s.joinable = false → s.worker = .done

theorem notified_eq_done {w : Worker} : w.notified = .done ↔ w = .done := by
  cases w <;> decide

theorem sound_start : Sound j.machine.start := ⟨nofun, fun busy => absurd rfl busy, nofun⟩

theorem advance_done {flag : Bool} {w w' : Worker} (h : w.advance flag = some w') (ends : w' = .done) : flag = false := by
  subst ends
  cases flag with
  | false => rfl
  | true => cases w <;> cases h

theorem advance_ne_done {flag : Bool} {w w' : Worker} (h : w.advance flag = some w') : w ≠ .done := by
  rintro rfl
  cases h

theorem Sound.next {s s' : State δ} {a : Step ι ε} (h : Sound s) (hnext : j.next s a = some s') : Sound s' := by
  cases a with
  | advance =>
      obtain ⟨worker, moved, rfl⟩ := Option.map_eq_some_iff.mp hnext
      exact ⟨advance_done moved, h.stopping, fun joined => absurd (h.joined joined) (advance_ne_done moved)⟩
  | wake =>
      obtain ⟨parked, rfl⟩ := Option.ite_some_none_eq_some.mp hnext
      refine ⟨nofun, h.stopping, fun joined => ?_⟩
      rw [h.joined joined] at parked
      cases parked
  | timeout =>
      obtain ⟨parked, rfl⟩ := Option.ite_some_none_eq_some.mp hnext
      refine ⟨nofun, h.stopping, fun joined => ?_⟩
      rw [h.joined joined] at parked
      cases parked
  | work input =>
      obtain ⟨working, rfl⟩ := Option.ite_some_none_eq_some.mp hnext
      refine ⟨nofun, h.stopping, fun joined => ?_⟩
      rw [h.joined joined] at working
      cases working
  | stop =>
      obtain ⟨-, rfl⟩ := Option.ite_some_none_eq_some.mp hnext
      exact ⟨fun _ => rfl, fun _ => rfl, h.joined⟩
  | notify =>
      obtain ⟨lowered, rfl⟩ := Option.ite_some_none_eq_some.mp hnext
      have down := h.stopping (by rw [lowered]; decide)
      exact ⟨fun _ => down, fun _ => down, fun joined => notified_eq_done.mpr (h.joined joined)⟩
  | join =>
      obtain ⟨⟨-, gone⟩, rfl⟩ := Option.ite_some_none_eq_some.mp hnext
      refine ⟨h.gone, fun busy => absurd rfl busy, fun _ => ?_⟩
      cases joinable : s.joinable with
      | true => exact gone joinable
      | false => exact h.joined joinable
  | other event =>
      obtain rfl := Option.some.inj hnext
      exact ⟨h.gone, h.stopping, h.joined⟩

theorem reachable_sound {s : State δ} (reach : j.machine.Reachable s) : Sound s :=
  reach.invariant _ Sound j.sound_start fun _ _ _ h hnext => h.next j hnext

/-! ## With the flag down -/

/-- How many steps the worker has left. -/
def left : Worker → Nat
  | .done => 0
  | .looping | .leaving => 1
  | .working | .testing | .expired => 2
  | .locking => 3
  | .parked => 4
  | .parking => 5

def ofWorker : Step ι ε → Bool
  | .advance | .wake | .timeout | .work _ => true
  | _ => false

def isWork : Step ι ε → Bool
  | .work _ => true
  | _ => false

/-- Work under way. -/
def atWork (w : Worker) : Nat := if w = .working then 1 else 0

theorem left_le (w : Worker) : left w ≤ 5 := by
  cases w <;> decide

theorem notified_left (w : Worker) : left w.notified ≤ left w ∧ atWork w.notified = atWork w := by
  cases w <;> decide

theorem advance_left {w w' : Worker} (h : w.advance false = some w') : left w' + 1 ≤ left w ∧ atWork w' ≤ atWork w := by
  cases w <;> cases h <;> decide

/-- Each step of the worker brings it nearer to its end, and only work under way is still done. -/
theorem next_left {s s' : State δ} {a : Step ι ε} (down : s.flag = false) (hnext : j.next s a = some s') :
    s'.flag = false ∧ left s'.worker + (ofWorker a).toNat ≤ left s.worker ∧
      atWork s'.worker + (isWork a).toNat ≤ atWork s.worker := by
  cases a with
  | advance =>
      obtain ⟨worker, moved, rfl⟩ := Option.map_eq_some_iff.mp hnext
      rw [down] at moved
      exact ⟨down, advance_left moved⟩
  | wake =>
      obtain ⟨parked, rfl⟩ := Option.ite_some_none_eq_some.mp hnext
      rw [parked]
      exact ⟨down, Nat.le_refl 4, Nat.le_refl 0⟩
  | timeout =>
      obtain ⟨parked, rfl⟩ := Option.ite_some_none_eq_some.mp hnext
      rw [parked]
      exact ⟨down, Nat.le_succ 3, Nat.le_refl 0⟩
  | work input =>
      obtain ⟨working, rfl⟩ := Option.ite_some_none_eq_some.mp hnext
      rw [working]
      exact ⟨down, Nat.le_refl 2, Nat.le_refl 1⟩
  | stop =>
      obtain ⟨-, rfl⟩ := Option.ite_some_none_eq_some.mp hnext
      exact ⟨rfl, le_refl _, le_refl _⟩
  | notify =>
      obtain ⟨-, rfl⟩ := Option.ite_some_none_eq_some.mp hnext
      obtain ⟨less, same⟩ := notified_left s.worker
      exact ⟨down, less, same.le⟩
  | join =>
      obtain ⟨-, rfl⟩ := Option.ite_some_none_eq_some.mp hnext
      exact ⟨down, le_refl _, le_refl _⟩
  | other event =>
      obtain rfl := Option.some.inj hnext
      exact ⟨down, le_refl _, le_refl _⟩

/-- What is left to the worker once the flag is down: a few steps, of which one may be work begun before, and it can
always take the next one until it is gone. Then the stopper can join. -/
structure Stopping (s : State δ) : Prop where
  bounded : ∀ as s', j.machine.run s as = some s' → as.countP ofWorker ≤ 5 ∧ as.countP isWork ≤ atWork s.worker
  progress : s.worker ≠ .done → ∀ input, ∃ a, ofWorker a = true ∧ (isWork a = true → a = .work input) ∧
    (j.next s a).isSome = true
  joins : s.stopper = .joining → s.worker = .done → (j.next s .join).isSome = true

theorem stopping {s : State δ} (down : s.flag = false) : j.Stopping s where
  bounded := by
    intro as s' hrun
    have steps := j.machine.run_bounded (fun s => left s.worker) ofWorker (fun s => s.flag = false)
      (fun s a s' down hnext => ⟨(j.next_left down hnext).1, (j.next_left down hnext).2.1⟩) down hrun
    have work := j.machine.run_bounded (fun s => atWork s.worker) isWork (fun s => s.flag = false)
      (fun s a s' down hnext => ⟨(j.next_left down hnext).1, (j.next_left down hnext).2.2⟩) down hrun
    exact ⟨steps.trans (left_le s.worker), work⟩
  progress := by
    intro busy input
    have moves {w : Worker} (h : s.worker.advance s.flag = some w) : ∃ a : Step ι ε, ofWorker a = true ∧
        (isWork a = true → a = .work input) ∧ (j.next s a).isSome = true := by
      refine ⟨.advance, rfl, nofun, ?_⟩
      rw [Job.next, h]
      rfl
    cases at_ : s.worker with
    | done => exact absurd at_ busy
    | parked =>
        refine ⟨.timeout, rfl, nofun, ?_⟩
        rw [Job.next, if_pos at_]
        rfl
    | working =>
        refine ⟨.work input, rfl, fun _ => rfl, ?_⟩
        rw [Job.next, if_pos at_]
        rfl
    | looping => exact moves (by rw [at_]; rfl)
    | locking => exact moves (by rw [at_]; rfl)
    | testing => exact moves (by rw [at_]; rfl)
    | parking => exact moves (by rw [at_]; rfl)
    | expired => exact moves (by rw [at_]; rfl)
    | leaving => exact moves (by rw [at_]; rfl)
  joins := by
    intro joining gone
    rw [Job.next, if_pos ⟨joining, fun _ => gone⟩]
    rfl

/-! ## After the join -/

def eventOf : Step ι ε → Option ε
  | .other event => some event
  | _ => none

/-- The data is left to the others. -/
theorem run_joined {s s' : State δ} {as : List (Step ι ε)} (h : Sound s) (joined : s.joinable = false)
    (hrun : j.machine.run s as = some s') :
    s'.joinable = false ∧ as.countP ofWorker = 0 ∧ s'.data = (as.filterMap eventOf).foldl j.other s.data := by
  induction as generalizing s with
  | nil =>
      cases hrun
      exact ⟨joined, rfl, rfl⟩
  | cons a as ih =>
      obtain ⟨s₁, hnext, hrest⟩ := j.machine.run_cons.mp hrun
      have hnext : j.next s a = some s₁ := hnext
      have sound := h.next j hnext
      have gone := h.joined joined
      cases a with
      | advance =>
          obtain ⟨worker, moved, -⟩ := Option.map_eq_some_iff.mp hnext
          exact absurd gone (advance_ne_done moved)
      | wake =>
          obtain ⟨parked, -⟩ := Option.ite_some_none_eq_some.mp hnext
          rw [gone] at parked
          cases parked
      | timeout =>
          obtain ⟨parked, -⟩ := Option.ite_some_none_eq_some.mp hnext
          rw [gone] at parked
          cases parked
      | work input =>
          obtain ⟨working, -⟩ := Option.ite_some_none_eq_some.mp hnext
          rw [gone] at working
          cases working
      | stop =>
          obtain ⟨-, rfl⟩ := Option.ite_some_none_eq_some.mp hnext
          have rest := ih sound joined hrest
          exact rest
      | notify =>
          obtain ⟨-, rfl⟩ := Option.ite_some_none_eq_some.mp hnext
          have rest := ih sound joined hrest
          exact rest
      | join =>
          obtain ⟨-, rfl⟩ := Option.ite_some_none_eq_some.mp hnext
          have rest := ih sound rfl hrest
          exact rest
      | other event =>
          obtain rfl := Option.some.inj hnext
          have rest := ih sound joined hrest
          exact rest

end Job

end PeriodicWorker
