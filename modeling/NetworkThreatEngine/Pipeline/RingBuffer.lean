import NetworkThreatEngine.Config
import NetworkThreatEngine.Lib.Transition

/-!
# The packet ring buffer

The queue between the capture thread and the consumer. A critical section is one step. The
telemetry counters are 64-bit and wrap; a session also keeps the order in which calls returned,
which no code reads.
-/
namespace Nte
open Transition

structure RingBuffer (α : Type) where
  maxCapacity : Nat
  queue : List α := []
  shutdownFlag : Bool := false
  pushedCount : UInt64 := 0
  poppedCount : UInt64 := 0
  droppedCount : UInt64 := 0
  deriving DecidableEq, Repr

namespace RingBuffer
variable {α : Type}

def ofConfig (cfg : RingBufferConfig) : RingBuffer α := { maxCapacity := cfg.maxCapacity }

/-- The result, and the buffer afterwards. -/
def push (r : RingBuffer α) (packet : α) : Bool × RingBuffer α :=
  if r.queue.length ≥ r.maxCapacity then (false, { r with droppedCount := r.droppedCount + 1 })
  else (true, { r with queue := r.queue ++ [packet], pushedCount := r.pushedCount + 1 })

/-- The predicate `pop` waits for. -/
def ready (r : RingBuffer α) : Bool := !r.queue.isEmpty || r.shutdownFlag

/-- `pop` behind its wait: `none` is a `false` return. -/
def take (r : RingBuffer α) : Option α × RingBuffer α :=
  match r.queue with
  | [] => (none, r)
  | packet :: rest => (some packet, { r with queue := rest, poppedCount := r.poppedCount + 1 })

/-- A call that has to go on waiting has no result. -/
def pop (r : RingBuffer α) : Option (Option α × RingBuffer α) := if r.ready then some r.take else none

def shutdown (r : RingBuffer α) : RingBuffer α := { r with shutdownFlag := true }

theorem take_shutdownFlag (r : RingBuffer α) : r.take.2.shutdownFlag = r.shutdownFlag := by
  unfold take
  split <;> rfl

theorem push_shutdownFlag (r : RingBuffer α) (packet : α) :
    (r.push packet).2.shutdownFlag = r.shutdownFlag := by
  unfold push
  split <;> rfl

/-- A push finds the buffer full, or it appends its packet. -/
theorem push_cases (r : RingBuffer α) (packet : α) :
    (r.maxCapacity ≤ r.queue.length ∧ r.push packet = (false, { r with droppedCount := r.droppedCount + 1 })) ∨
      (r.queue.length < r.maxCapacity ∧
        r.push packet = (true, { r with queue := r.queue ++ [packet], pushedCount := r.pushedCount + 1 })) := by
  unfold push
  split
  · rename_i full
    exact .inl ⟨full, rfl⟩
  · rename_i room
    exact .inr ⟨Nat.lt_of_not_le room, rfl⟩

/-- A pop that returns has the oldest packet, or has found the buffer empty and shut down. -/
theorem pop_cases {r : RingBuffer α} {result : Option α × RingBuffer α} (h : r.pop = some result) :
    (∃ packet rest, r.queue = packet :: rest ∧
        result = (some packet, { r with queue := rest, poppedCount := r.poppedCount + 1 })) ∨
      (r.queue = [] ∧ r.shutdownFlag = true ∧ result = (none, r)) := by
  unfold pop at h
  split at h
  · rename_i awake
    obtain rfl := Option.some.inj h
    rw [take]
    cases hq : r.queue with
    | cons packet rest => exact .inl ⟨packet, rest, rfl, rfl⟩
    | nil =>
        rw [ready, hq] at awake
        exact .inr ⟨rfl, awake, rfl⟩
  · cases h

end RingBuffer

/-! ## Sessions -/

inductive RingCall (α : Type) where
  | push (packet : α)
  | pop
  | shutdown
  deriving DecidableEq, Repr

/-- How a call returned. -/
inductive RingReturn (α : Type) where
  | pushed (packet : α) (accepted : Bool)
  | popped (packet : Option α)
  | shutdown
  deriving DecidableEq, Repr

/-- A buffer, and the calls that returned so far, oldest first. -/
structure Session (α : Type) where
  ring : RingBuffer α
  log : List (RingReturn α) := []
  deriving DecidableEq, Repr

namespace Session
variable {α : Type}

def fresh (cfg : RingBufferConfig) : Session α := { ring := .ofConfig cfg }

def next (s : Session α) : RingCall α → Option (Session α)
  | .push packet =>
      let (accepted, ring) := s.ring.push packet
      some { ring, log := s.log ++ [.pushed packet accepted] }
  | .pop =>
      match s.ring.pop with
      | some (out, ring) => some { ring, log := s.log ++ [.popped out] }
      | none => none
  | .shutdown => some { ring := s.ring.shutdown, log := s.log ++ [.shutdown] }

/-- Any number of threads calling in any order. -/
def machine (cfg : RingBufferConfig) : Machine (Session α) (RingCall α) := ⟨fresh cfg, next⟩

end Session

/-- The packet a call put into the queue. -/
def RingReturn.entered {α : Type} : RingReturn α → Option α
  | pushed packet true => some packet
  | _ => none

/-- The packet a call took out of the queue. -/
def RingReturn.left {α : Type} : RingReturn α → Option α
  | popped out => out
  | _ => none

def RingReturn.refusal {α : Type} : RingReturn α → Bool
  | pushed _ false => true
  | _ => false

/-- The packets whose push returned `true`, in order. -/
def acceptedIn {α : Type} (log : List (RingReturn α)) : List α := log.filterMap RingReturn.entered

/-- The packets that were popped, in order. -/
def poppedIn {α : Type} (log : List (RingReturn α)) : List α := log.filterMap RingReturn.left

/-- The number of pushes that returned `false`. -/
def refusedIn {α : Type} (log : List (RingReturn α)) : Nat := log.countP RingReturn.refusal

section Log
variable {α : Type} (log : List (RingReturn α)) (packet : α)

@[simp] theorem acceptedIn_pushed :
    acceptedIn (log ++ [.pushed packet true]) = acceptedIn log ++ [packet] := by
  simp [acceptedIn, RingReturn.entered]

@[simp] theorem acceptedIn_refused : acceptedIn (log ++ [.pushed packet false]) = acceptedIn log := by
  simp [acceptedIn, RingReturn.entered]

@[simp] theorem acceptedIn_popped (out : Option α) : acceptedIn (log ++ [.popped out]) = acceptedIn log := by
  simp [acceptedIn, RingReturn.entered]

@[simp] theorem acceptedIn_shutdown : acceptedIn (log ++ [.shutdown]) = acceptedIn log := by
  simp [acceptedIn, RingReturn.entered]

@[simp] theorem poppedIn_pushed (b : Bool) : poppedIn (log ++ [.pushed packet b]) = poppedIn log := by
  simp [poppedIn, RingReturn.left]

@[simp] theorem poppedIn_popped : poppedIn (log ++ [.popped (some packet)]) = poppedIn log ++ [packet] := by
  simp [poppedIn, RingReturn.left]

@[simp] theorem poppedIn_empty : poppedIn (log ++ [.popped none]) = poppedIn log := by
  simp [poppedIn, RingReturn.left]

@[simp] theorem poppedIn_shutdown : poppedIn (log ++ [.shutdown]) = poppedIn log := by
  simp [poppedIn, RingReturn.left]

@[simp] theorem refusedIn_pushed : refusedIn (log ++ [.pushed packet true]) = refusedIn log := by
  simp [refusedIn, RingReturn.refusal]

@[simp] theorem refusedIn_refused : refusedIn (log ++ [.pushed packet false]) = refusedIn log + 1 := by
  simp [refusedIn, RingReturn.refusal]

@[simp] theorem refusedIn_popped (out : Option α) : refusedIn (log ++ [.popped out]) = refusedIn log := by
  simp [refusedIn, RingReturn.refusal]

@[simp] theorem refusedIn_shutdown : refusedIn (log ++ [.shutdown]) = refusedIn log := by
  simp [refusedIn, RingReturn.refusal]

end Log

/-! ## The law -/

/-- Every `false` from `pop` came after a shutdown request and when all accepted packets had left. -/
def FalsePopsJustified {α : Type} (log : List (RingReturn α)) : Prop :=
  ∀ before after, log = before ++ .popped none :: after →
    .shutdown ∈ before ∧ poppedIn before = acceptedIn before

structure Session.Lossless {α : Type} (s : Session α) : Prop where
  counts : s.ring.pushedCount = s.ring.poppedCount + UInt64.ofNat s.ring.queue.length
  bounded : s.ring.queue.length ≤ s.ring.maxCapacity
  drops : s.ring.droppedCount = UInt64.ofNat (refusedIn s.log)
  fifo : poppedIn s.log ++ s.ring.queue = acceptedIn s.log
  falsePops : FalsePopsJustified s.log

/-- What a run keeps: the law, and that a raised flag was requested. -/
structure Session.Kept {α : Type} (s : Session α) : Prop extends s.Lossless where
  flag : s.ring.shutdownFlag = true → .shutdown ∈ s.log

theorem falsePopsJustified_concat {α : Type} {log : List (RingReturn α)} {r : RingReturn α}
    (h : FalsePopsJustified log)
    (hr : r = .popped none → .shutdown ∈ log ∧ poppedIn log = acceptedIn log) :
    FalsePopsJustified (log ++ [r]) := by
  intro before after heq
  rcases List.eq_nil_or_concat after with rfl | ⟨after, last, rfl⟩
  · obtain ⟨rfl, hlast⟩ := List.append_inj' heq rfl
    cases hlast
    exact hr rfl
  · rw [List.concat_eq_append, ← List.cons_append, ← List.append_assoc] at heq
    exact h before after (List.append_inj' heq rfl).1

namespace Session
variable {α : Type}

theorem fresh_kept (cfg : RingBufferConfig) : (fresh cfg : Session α).Kept where
  counts := rfl
  bounded := Nat.zero_le _
  drops := rfl
  fifo := rfl
  falsePops := by
    intro before after heq
    cases before <;> cases heq
  flag := by
    intro h
    cases h

/-- What a call can do to the buffer. -/
theorem next_cases {s s' : Session α} {call : RingCall α} (h : s.next call = some s') :
    (∃ packet, call = .push packet ∧ s.ring.maxCapacity ≤ s.ring.queue.length ∧
        s' = ⟨{ s.ring with droppedCount := s.ring.droppedCount + 1 }, s.log ++ [RingReturn.pushed packet false]⟩) ∨
      (∃ packet, call = .push packet ∧ s.ring.queue.length < s.ring.maxCapacity ∧
        s' = ⟨{ s.ring with queue := s.ring.queue ++ [packet], pushedCount := s.ring.pushedCount + 1 },
          s.log ++ [RingReturn.pushed packet true]⟩) ∨
      (∃ packet rest, call = .pop ∧ s.ring.queue = packet :: rest ∧
        s' = ⟨{ s.ring with queue := rest, poppedCount := s.ring.poppedCount + 1 },
          s.log ++ [RingReturn.popped (some packet)]⟩) ∨
      (call = .pop ∧ s.ring.queue = [] ∧ s.ring.shutdownFlag = true ∧
        s' = ⟨s.ring, s.log ++ [RingReturn.popped none]⟩) ∨
      (call = .shutdown ∧ s' = ⟨s.ring.shutdown, s.log ++ [RingReturn.shutdown]⟩) := by
  cases call with
  | push packet =>
      rw [next] at h
      rcases s.ring.push_cases packet with ⟨full, heq⟩ | ⟨room, heq⟩
      · rw [heq] at h
        cases h
        exact .inl ⟨packet, rfl, full, rfl⟩
      · rw [heq] at h
        cases h
        exact .inr (.inl ⟨packet, rfl, room, rfl⟩)
  | pop =>
      rw [next] at h
      cases popped : s.ring.pop with
      | none =>
          rw [popped] at h
          cases h
      | some result =>
          rw [popped] at h
          obtain rfl := Option.some.inj h
          rcases RingBuffer.pop_cases popped with ⟨packet, rest, hq, rfl⟩ | ⟨hq, hf, rfl⟩
          · exact .inr (.inr (.inl ⟨packet, rest, rfl, hq, rfl⟩))
          · exact .inr (.inr (.inr (.inl ⟨rfl, hq, hf, rfl⟩)))
  | shutdown =>
      cases h
      exact .inr (.inr (.inr (.inr ⟨rfl, rfl⟩)))

theorem next_kept {s s' : Session α} {call : RingCall α} (hs : s.Kept) (h : s.next call = some s') :
    s'.Kept := by
  obtain ⟨⟨counts, bounded, drops, fifo, falsePops⟩, flag⟩ := hs
  rcases next_cases h with ⟨packet, -, full, rfl⟩ | ⟨packet, -, room, rfl⟩ | ⟨packet, rest, -, hq, rfl⟩ |
    ⟨-, hq, hf, rfl⟩ | ⟨-, rfl⟩
  · refine ⟨⟨counts, bounded, ?_, ?_, falsePopsJustified_concat falsePops nofun⟩, ?_⟩
    · rw [refusedIn_refused, UInt64.ofNat_add, ← drops]
      rfl
    · rw [poppedIn_pushed, acceptedIn_refused]
      exact fifo
    · exact fun hf => List.mem_append_left _ (flag hf)
  · refine ⟨⟨?_, ?_, ?_, ?_, falsePopsJustified_concat falsePops nofun⟩, ?_⟩
    · rw [List.length_append, UInt64.ofNat_add, ← UInt64.add_assoc, ← counts]
      rfl
    · rw [List.length_append]
      exact room
    · rw [refusedIn_pushed]
      exact drops
    · rw [poppedIn_pushed, acceptedIn_pushed, ← List.append_assoc, fifo]
    · exact fun hf => List.mem_append_left _ (flag hf)
  · refine ⟨⟨?_, ?_, ?_, ?_, falsePopsJustified_concat falsePops nofun⟩, ?_⟩
    · rw [hq, List.length_cons, UInt64.ofNat_add] at counts
      rw [counts, UInt64.add_assoc, UInt64.add_comm (UInt64.ofNat rest.length)]
      rfl
    · rw [hq, List.length_cons] at bounded
      exact Nat.le_of_succ_le bounded
    · rw [refusedIn_popped]
      exact drops
    · rw [poppedIn_popped, acceptedIn_popped, List.append_assoc, List.singleton_append, ← hq]
      exact fifo
    · exact fun hf => List.mem_append_left _ (flag hf)
  · have drained : poppedIn s.log = acceptedIn s.log := by
      rw [← fifo, hq, List.append_nil]
    refine ⟨⟨counts, bounded, ?_, ?_, falsePopsJustified_concat falsePops fun _ => ⟨flag hf, drained⟩⟩, ?_⟩
    · rw [refusedIn_popped]
      exact drops
    · rw [poppedIn_empty, acceptedIn_popped]
      exact fifo
    · exact fun hf => List.mem_append_left _ (flag hf)
  · refine ⟨⟨counts, bounded, ?_, ?_, falsePopsJustified_concat falsePops nofun⟩, ?_⟩
    · rw [refusedIn_shutdown]
      exact drops
    · rw [poppedIn_shutdown, acceptedIn_shutdown]
      exact fifo
    · exact fun _ => List.mem_append_right _ (List.mem_singleton_self _)

theorem reachable_kept {cfg : RingBufferConfig} {s : Session α} (h : (machine cfg).Reachable s) : s.Kept :=
  Machine.Reachable.invariant _ Kept h (fresh_kept cfg) fun _ _ _ hs hnext => next_kept hs hnext

end Session

end Nte
