import NetworkThreatEngine.Lib.Transition

/-!
# Waiting on a condition variable

One thread waits, in a loop of its own, until a predicate of the shared data holds; others produce
under the mutex and notify one; a stopper raises a flag and notifies all. The flag is raised
without the mutex, as an atomic store: the wait's test and its parking are two steps, and the
notification may fall between them. Then nothing wakes the waiter again.
-/
namespace ConditionVariable
open Transition

/-- A monitor with one waiter, with the laws its flag obeys: it is never lowered, and whoever tests
the predicate sees it. -/
structure Monitor (δ ι : Type) where
  start : δ
  /-- The predicate the waiter waits for. -/
  ready : δ → Bool
  /-- The test the waiter's loop makes before it takes the mutex. -/
  again : δ → Bool
  /-- What the waiter does to the data once the predicate holds. -/
  body : δ → δ
  /-- A producer's critical section, and whether it notifies. -/
  produce : δ → ι → δ × Bool
  /-- The test a stopper makes first. -/
  mayStop : δ → Bool
  raise : δ → δ
  flagged : δ → Bool
  flagged_ready : ∀ d, flagged d = true → ready d = true
  flagged_raise : ∀ d, flagged (raise d) = true
  flagged_body : ∀ d, flagged d = true → flagged (body d) = true
  flagged_produce : ∀ d i, flagged d = true → flagged (produce d i).1 = true

/-- Where the waiter is. It holds the mutex while it tests, decides to park, or works. -/
inductive Waiter where
  | outside
  | locking
  | testing
  | parking
  | parked
  | inside
  deriving DecidableEq, Repr

def Waiter.holdsMutex : Waiter → Bool
  | testing | parking | inside => true
  | outside | locking | parked => false

/-- A notification makes a parked waiter compete for the mutex and test again. -/
def Waiter.wake : Waiter → Waiter
  | parked => locking
  | w => w

/-- The counts are of calls under way: producers that still have to notify, stoppers that have made
their test, and stoppers that have raised the flag and still have to notify. -/
structure State (δ : Type) where
  data : δ
  waiter : Waiter := .outside
  notifying : Nat := 0
  stopping : Nat := 0
  raised : Nat := 0
  notified : Bool := false
  deriving DecidableEq, Repr

inductive Step (ι : Type) where
  | enter
  | lock
  | test
  | park
  | spurious
  | leave
  | produce (item : ι)
  | notifyOne
  | stop
  | raise
  | notifyAll
  deriving DecidableEq, Repr

namespace Monitor
variable {δ ι : Type} (m : Monitor δ ι)

def next (s : State δ) : Step ι → Option (State δ)
  | .enter => if s.waiter = .outside ∧ m.again s.data then some { s with waiter := .locking } else none
  | .lock => if s.waiter = .locking then some { s with waiter := .testing } else none
  | .test =>
      if s.waiter = .testing then
        some { s with waiter := if m.ready s.data then .inside else .parking }
      else none
  | .park => if s.waiter = .parking then some { s with waiter := .parked } else none
  | .spurious => if s.waiter = .parked then some { s with waiter := .locking } else none
  | .leave =>
      if s.waiter = .inside then some { s with data := m.body s.data, waiter := .outside } else none
  | .produce item =>
      if s.waiter.holdsMutex then none
      else
        let (data, notifies) := m.produce s.data item
        some { s with data, notifying := s.notifying + if notifies then 1 else 0 }
  | .notifyOne =>
      if s.notifying > 0 then some { s with notifying := s.notifying - 1, waiter := s.waiter.wake } else none
  | .stop => if m.mayStop s.data then some { s with stopping := s.stopping + 1 } else none
  | .raise =>
      if s.stopping > 0 then
        some { s with stopping := s.stopping - 1, raised := s.raised + 1, data := m.raise s.data }
      else none
  | .notifyAll =>
      if s.raised > 0 then
        some { s with raised := s.raised - 1, notified := true, waiter := s.waiter.wake }
      else none

def machine : Machine (State δ) (Step ι) := ⟨{ data := m.start }, m.next⟩

/-- The flag is up, the notification is over, no producer has one to give, and the waiter is parked. -/
structure Lost (s : State δ) : Prop where
  flagged : m.flagged s.data = true
  notified : s.notified = true
  completed : s.raised = 0
  quiet : s.notifying = 0
  parked : s.waiter = .parked

/-- No stopper notifies between the waiter's failed test and its parking. -/
def OutsideWindow (s : State δ) (a : Step ι) : Prop := a = .notifyAll → s.waiter ≠ .parking

/-- What holds on runs outside the window: the flag is up from the first raise on, and after the
first notification the waiter is neither parked nor about to park. -/
structure Sound (s : State δ) : Prop where
  raised : s.raised > 0 → m.flagged s.data = true
  notified : s.notified = true → m.flagged s.data = true ∧ s.waiter ≠ .parking ∧ s.waiter ≠ .parked

theorem wake_ne_parked (w : Waiter) : w.wake ≠ .parked := by
  cases w <;> decide

theorem wake_ne_parking {w : Waiter} (h : w ≠ .parking) : w.wake ≠ .parking := by
  cases w with
  | parking => exact absurd rfl h
  | outside => decide
  | locking => decide
  | testing => decide
  | parked => decide
  | inside => decide

theorem next_sound {s s' : State δ} {a : Step ι} (hs : m.Sound s) (window : OutsideWindow s a)
    (h : m.next s a = some s') : m.Sound s' := by
  obtain ⟨raised, notified⟩ := hs
  cases a with
  | enter =>
      obtain ⟨-, rfl⟩ := Option.ite_some_none_eq_some.mp h
      exact ⟨raised, fun hn => ⟨(notified hn).1, nofun, nofun⟩⟩
  | lock =>
      obtain ⟨-, rfl⟩ := Option.ite_some_none_eq_some.mp h
      exact ⟨raised, fun hn => ⟨(notified hn).1, nofun, nofun⟩⟩
  | test =>
      obtain ⟨-, rfl⟩ := Option.ite_some_none_eq_some.mp h
      refine ⟨raised, fun hn => ⟨(notified hn).1, ?_⟩⟩
      dsimp only
      rw [m.flagged_ready _ (notified hn).1, if_pos rfl]
      exact ⟨nofun, nofun⟩
  | park =>
      obtain ⟨hw, rfl⟩ := Option.ite_some_none_eq_some.mp h
      exact ⟨raised, fun hn => absurd hw (notified hn).2.1⟩
  | spurious =>
      obtain ⟨-, rfl⟩ := Option.ite_some_none_eq_some.mp h
      exact ⟨raised, fun hn => ⟨(notified hn).1, nofun, nofun⟩⟩
  | leave =>
      obtain ⟨-, rfl⟩ := Option.ite_some_none_eq_some.mp h
      exact ⟨fun hr => m.flagged_body _ (raised hr),
        fun hn => ⟨m.flagged_body _ (notified hn).1, nofun, nofun⟩⟩
  | produce item =>
      obtain ⟨-, hnext⟩ := Option.ite_none_left_eq_some.mp h
      cases hnext
      exact ⟨fun hr => m.flagged_produce _ _ (raised hr),
        fun hn => ⟨m.flagged_produce _ _ (notified hn).1, (notified hn).2⟩⟩
  | notifyOne =>
      obtain ⟨-, rfl⟩ := Option.ite_some_none_eq_some.mp h
      exact ⟨raised, fun hn => ⟨(notified hn).1, wake_ne_parking (notified hn).2.1, wake_ne_parked _⟩⟩
  | stop =>
      obtain ⟨-, rfl⟩ := Option.ite_some_none_eq_some.mp h
      exact ⟨raised, notified⟩
  | raise =>
      obtain ⟨-, rfl⟩ := Option.ite_some_none_eq_some.mp h
      exact ⟨fun _ => m.flagged_raise _, fun hn => ⟨m.flagged_raise _, (notified hn).2⟩⟩
  | notifyAll =>
      obtain ⟨hr, rfl⟩ := Option.ite_some_none_eq_some.mp h
      exact ⟨fun _ => raised hr, fun _ => ⟨raised hr, wake_ne_parking (window rfl), wake_ne_parked _⟩⟩

theorem start_sound : m.Sound { data := m.start } := ⟨nofun, nofun⟩

theorem run_sound {as : List (Step ι)} {s : State δ}
    (window : m.machine.Guarded OutsideWindow m.machine.start as)
    (hrun : m.machine.run m.machine.start as = some s) : m.Sound s :=
  m.machine.guarded_run OutsideWindow m.Sound (fun _ _ _ hs hw h => m.next_sound hs hw h) m.start_sound
    window hrun

/-- Outside the window no wake-up is lost. -/
theorem not_lost {as : List (Step ι)} {s : State δ}
    (window : m.machine.Guarded OutsideWindow m.machine.start as)
    (hrun : m.machine.run m.machine.start as = some s) : ¬ m.Lost s := by
  intro lost
  exact ((m.run_sound window hrun).notified lost.notified).2.2 lost.parked

/-- Inside it one is, whenever a waiter finds nothing to do before a stopper comes along. -/
def lostRun : List (Step ι) := [.enter, .lock, .test, .stop, .raise, .notifyAll, .park]

theorem lostRun_lost (again : m.again m.start = true) (idle : m.ready m.start = false)
    (may : m.mayStop m.start = true) :
    ∃ s, m.machine.run m.machine.start lostRun = some s ∧ m.Lost s := by
  refine ⟨{ data := m.raise m.start, waiter := .parked, notified := true }, ?_, ?_⟩
  · simp [lostRun, Machine.run, machine, next, again, idle, may, Waiter.wake]
  · exact ⟨m.flagged_raise _, rfl, rfl, rfl, rfl⟩

end Monitor

end ConditionVariable
