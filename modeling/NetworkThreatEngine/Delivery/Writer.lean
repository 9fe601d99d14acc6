import NetworkThreatEngine.Detect.Alert
import NetworkThreatEngine.Lib.Transition

/-!
# The alert writer

`enqueue_alert`, `writer_loop` and `stop` of a started delivery layer, interleaved. The rows inserted into
the database, the alerts enqueued and those the main loop is done with are kept for the statements.
-/
namespace Nte
open Transition

/-- Where `writer_loop` stands; `draining` is the loop after the main one, under the queue's lock. -/
inductive WriterAt where
  | testing
  | waiting
  | persisting (alert : ThreatAlert)
  | displaying (alert : ThreatAlert)
  | draining
  | done
  deriving DecidableEq

inductive StopAt where
  | notCalled
  | joining
  | closing
  | returned
  deriving DecidableEq

structure DeliveryLayer where
  alertQueue : List ThreatAlert := []
  running : Bool := true
  database : Bool := true
  displayRing : List ThreatAlert := []
  totalPersisted : UInt64 := 0
  writer : WriterAt := .testing
  stopping : StopAt := .notCalled
  persisted : List ThreatAlert := []
  enqueued : List ThreatAlert := []
  handled : List ThreatAlert := []

/-- `write` is the writer's next step, with what `sqlite3_step` makes of an insert: whether it returns
`SQLITE_DONE`. -/
inductive DeliveryStep where
  | enqueue (alert : ThreatAlert)
  | write (stepDone : Bool)
  | stop
  | join
  | close
  deriving DecidableEq

namespace DeliveryLayer

def DISPLAY_RING_SIZE : Nat := 50

/-- `while (size() > DISPLAY_RING_SIZE) pop_front()`. -/
def trimRing : List ThreatAlert → List ThreatAlert
  | [] => []
  | alert :: rest => if (alert :: rest).length > DISPLAY_RING_SIZE then trimRing rest else alert :: rest

def persistAlert (d : DeliveryLayer) (alert : ThreatAlert) (stepDone : Bool) : DeliveryLayer :=
  if !d.database then d
  else if stepDone then
    { d with persisted := d.persisted ++ [alert], totalPersisted := d.totalPersisted + 1 }
  else d

def display (d : DeliveryLayer) (alert : ThreatAlert) : DeliveryLayer :=
  { d with displayRing := trimRing (d.displayRing ++ [alert]), handled := d.handled ++ [alert] }

def writerLoop (d : DeliveryLayer) (stepDone : Bool) : Option DeliveryLayer :=
  match d.writer with
  | .testing => some { d with writer := if d.running then .waiting else .draining }
  | .waiting =>
      match d.alertQueue with
      | alert :: rest => some { d with alertQueue := rest, writer := .persisting alert }
      | [] => if d.running then none else some { d with writer := .testing }
  | .persisting alert => some { d.persistAlert alert stepDone with writer := .displaying alert }
  | .displaying alert => some { d.display alert with writer := .testing }
  | .draining =>
      match d.alertQueue with
      | alert :: rest => some { d.persistAlert alert stepDone with alertQueue := rest }
      | [] => some { d with writer := .done }
  | .done => none

def next (d : DeliveryLayer) : DeliveryStep → Option DeliveryLayer
  | .enqueue alert =>
      if d.writer = .draining then none
      else some { d with alertQueue := d.alertQueue ++ [alert], enqueued := d.enqueued ++ [alert] }
  | .write stepDone => d.writerLoop stepDone
  | .stop =>
      match d.stopping with
      | .notCalled =>
          if d.running then some { d with running := false, stopping := .joining }
          else some { d with stopping := .returned }
      | _ => none
  | .join => if d.stopping = .joining ∧ d.writer = .done then some { d with stopping := .closing } else none
  | .close => if d.stopping = .closing then some { d with database := false, stopping := .returned } else none

/-- `start` has opened the database, set the flag and started the writer. -/
def machine : Machine DeliveryLayer DeliveryStep := ⟨{}, next⟩

/-! ## The display ring -/

theorem trimRing_eq (ring : List ThreatAlert) : trimRing ring = ring.rtake DISPLAY_RING_SIZE := by
  induction ring with
  | nil => rfl
  | cons alert rest ih =>
      rw [trimRing]
      split
      · rename_i long
        have shift : (alert :: rest).length - DISPLAY_RING_SIZE = rest.length - DISPLAY_RING_SIZE + 1 := by
          rw [List.length_cons] at long ⊢
          omega
        rw [ih, List.rtake, List.rtake, shift, List.drop_succ_cons]
      · rename_i short
        rw [List.rtake, Nat.sub_eq_zero_of_le (Nat.le_of_not_lt short), List.drop_zero]

/-- Pushing and trimming keeps the last alerts. -/
theorem trimRing_snoc (handled : List ThreatAlert) (alert : ThreatAlert) :
    trimRing (handled.rtake DISPLAY_RING_SIZE ++ [alert]) = (handled ++ [alert]).rtake DISPLAY_RING_SIZE := by
  rw [trimRing_eq, DISPLAY_RING_SIZE, List.rtake_concat_succ, List.rtake_concat_succ]
  simp [List.rtake_eq_reverse_take_reverse, List.take_take]

/-! ## Invariants -/

/-- The alert the writer has taken from the queue and not persisted. -/
def inFlight (d : DeliveryLayer) : List ThreatAlert :=
  match d.writer with
  | .persisting alert => [alert]
  | _ => []

/-- The alerts persisted so far, those the main loop is done with taken apart. -/
def Shown (d : DeliveryLayer) : Prop :=
  match d.writer with
  | .displaying alert => d.persisted = d.handled ++ [alert]
  | .draining => d.handled <+: d.persisted
  | .done => d.handled <+: d.persisted
  | _ => d.persisted = d.handled

structure Consistent (d : DeliveryLayer) : Prop where
  conserved : d.persisted ++ d.inFlight ++ d.alertQueue = d.enqueued
  total : d.totalPersisted = UInt64.ofNat d.persisted.length
  ring : d.displayRing = d.handled.rtake DISPLAY_RING_SIZE
  shown : d.Shown
  called : d.stopping = .notCalled ↔ d.running = true
  drains : d.writer = .draining → d.running = false
  left : d.writer = .done → d.running = false ∧ d.alertQueue = []
  opened : d.stopping = .notCalled ∨ d.stopping = .joining → d.database = true
  closing : d.stopping = .closing ∨ d.stopping = .returned → d.writer = .done

/-- Every insert succeeds, and nothing is enqueued once `stop` has been called. -/
def Orderly (d : DeliveryLayer) : DeliveryStep → Prop
  | .enqueue _ => d.stopping = .notCalled
  | .write stepDone => stepDone = true
  | _ => True

instance (d : DeliveryLayer) : (a : DeliveryStep) → Decidable (d.Orderly a)
  | .enqueue _ => inferInstanceAs (Decidable (d.stopping = .notCalled))
  | .write stepDone => inferInstanceAs (Decidable (stepDone = true))
  | .stop => isTrue trivial
  | .join => isTrue trivial
  | .close => isTrue trivial

/-! ## What a step keeps -/

section Steps
variable {d d' : DeliveryLayer} (h : d.Consistent)
include h

/-- The database is open as long as the writer has not returned. -/
theorem Consistent.database (busy : d.writer ≠ .done) : d.database = true := by
  refine h.opened ?_
  cases hs : d.stopping with
  | notCalled => exact .inl rfl
  | joining => exact .inr rfl
  | closing => exact absurd (h.closing (.inl hs)) busy
  | returned => exact absurd (h.closing (.inr hs)) busy

/-- Before the writer returns, `stop` is not past the join. -/
theorem Consistent.early {w : WriterAt} (busy : d.writer ≠ .done) :
    d.stopping = .closing ∨ d.stopping = .returned → w = .done := fun late => absurd (h.closing late) busy

theorem Consistent.persistAlert (busy : d.writer ≠ .done) (alert : ThreatAlert) :
    d.persistAlert alert true =
      { d with persisted := d.persisted ++ [alert], totalPersisted := d.totalPersisted + 1 } := by
  simp [DeliveryLayer.persistAlert, h.database busy]

theorem Consistent.total_snoc (alert : ThreatAlert) :
    d.totalPersisted + 1 = UInt64.ofNat (d.persisted ++ [alert]).length := by
  rw [h.total, List.length_append, UInt64.ofNat_add]
  rfl

theorem Consistent.enqueue {alert : ThreatAlert} (before : d.stopping = .notCalled)
    (hnext : d.next (.enqueue alert) = some d') : d'.Consistent := by
  have up := h.called.mp before
  rw [next] at hnext
  split at hnext
  · cases hnext
  · cases hnext
    refine ⟨?_, h.total, h.ring, h.shown, h.called, h.drains, ?_, h.opened, h.closing⟩
    · rw [← h.conserved]
      exact (List.append_assoc ..).symm
    · intro left
      have down := (h.left left).1
      rw [up] at down
      cases down

theorem Consistent.stop (hnext : d.next .stop = some d') : d'.Consistent := by
  rw [next] at hnext
  cases hs : d.stopping with
  | notCalled =>
      have up := h.called.mp hs
      simp only [hs, up, if_true, Option.some.injEq] at hnext
      subst hnext
      refine ⟨h.conserved, h.total, h.ring, h.shown, ?_, fun _ => rfl, fun left => ⟨rfl, (h.left left).2⟩,
        fun _ => h.opened (.inl hs), ?_⟩
      · simp
      · simp
  | joining | closing | returned =>
      simp [hs] at hnext

theorem Consistent.join (hnext : d.next .join = some d') : d'.Consistent := by
  rw [next] at hnext
  split at hnext
  · rename_i ready
    cases hnext
    have down := (h.left ready.2).1
    refine ⟨h.conserved, h.total, h.ring, h.shown, ?_, h.drains, h.left, ?_, fun _ => ready.2⟩
    · simp [down]
    · simp
  · cases hnext

theorem Consistent.close (hnext : d.next .close = some d') : d'.Consistent := by
  rw [next] at hnext
  split at hnext
  · rename_i closing
    cases hnext
    have returned := h.closing (.inl closing)
    have down := (h.left returned).1
    refine ⟨h.conserved, h.total, h.ring, h.shown, ?_, h.drains, h.left, ?_, fun _ => returned⟩
    · simp [down]
    · simp
  · cases hnext

theorem Consistent.write (hnext : d.next (.write true) = some d') : d'.Consistent := by
  rw [next, writerLoop] at hnext
  have conserved := h.conserved
  have hshown := h.shown
  cases hw : d.writer with
  | testing =>
      simp only [inFlight, Shown, hw] at conserved hshown
      simp only [hw, Option.some.injEq] at hnext
      subst hnext
      cases up : d.running with
      | true =>
          exact ⟨conserved, h.total, h.ring, hshown, by simpa [up] using h.called, nofun, nofun, h.opened,
            h.early (by simp [hw])⟩
      | false =>
          exact ⟨conserved, h.total, h.ring, hshown ▸ List.prefix_rfl, by simpa [up] using h.called, fun _ => rfl, nofun,
            h.opened, h.early (by simp [hw])⟩
  | waiting =>
      simp only [inFlight, Shown, hw] at conserved hshown
      simp only [hw] at hnext
      cases hq : d.alertQueue with
      | cons alert rest =>
          simp only [hq, Option.some.injEq] at hnext
          subst hnext
          refine ⟨?_, h.total, h.ring, hshown, h.called, nofun, nofun, h.opened,
            h.early (by simp [hw])⟩
          simpa [inFlight, hq] using conserved
      | nil =>
          simp only [hq] at hnext
          split at hnext
          · cases hnext
          · cases hnext
            refine ⟨?_, h.total, h.ring, hshown, h.called, nofun, nofun, h.opened,
              h.early (by simp [hw])⟩
            simpa [inFlight, hq] using conserved
  | persisting alert =>
      simp only [inFlight, Shown, hw] at conserved hshown
      simp only [hw, Option.some.injEq] at hnext
      rw [h.persistAlert (by simp [hw])] at hnext
      subst hnext
      refine ⟨?_, h.total_snoc alert, h.ring, congrArg (· ++ [alert]) hshown, h.called, nofun, nofun, h.opened,
        h.early (by simp [hw])⟩
      simpa [inFlight] using conserved
  | displaying alert =>
      simp only [inFlight, Shown, hw] at conserved hshown
      simp only [hw, Option.some.injEq] at hnext
      subst hnext
      refine ⟨conserved, h.total, ?_, hshown, h.called, nofun, nofun, h.opened,
        h.early (by simp [hw])⟩
      change trimRing (d.displayRing ++ [alert]) = _
      rw [h.ring]
      exact trimRing_snoc d.handled alert
  | draining =>
      simp only [inFlight, Shown, hw] at conserved hshown
      simp only [hw] at hnext
      have down := h.drains hw
      cases hq : d.alertQueue with
      | cons alert rest =>
          simp only [hq, Option.some.injEq] at hnext
          rw [h.persistAlert (by simp [hw])] at hnext
          subst hnext
          refine ⟨?_, h.total_snoc alert, h.ring, ?_, h.called, fun _ => down, ?_, h.opened,
            h.early (by simp [hw])⟩
          · simpa [inFlight, hw, hq] using conserved
          · simpa [Shown, hw] using hshown.trans (List.prefix_append d.persisted [alert])
          · simp [hw]
      | nil =>
          simp only [hq, Option.some.injEq] at hnext
          subst hnext
          refine ⟨?_, h.total, h.ring, hshown, h.called, nofun, fun _ => ⟨down, rfl⟩, h.opened, fun _ => rfl⟩
          simpa [inFlight, hq] using conserved
  | done =>
      simp [hw] at hnext

end Steps

theorem Consistent.next {d d' : DeliveryLayer} {a : DeliveryStep} (h : d.Consistent) (ok : d.Orderly a)
    (hnext : d.next a = some d') : d'.Consistent := by
  cases a with
  | enqueue alert => exact h.enqueue ok hnext
  | write stepDone =>
      obtain rfl : stepDone = true := ok
      exact h.write hnext
  | stop => exact h.stop hnext
  | join => exact h.join hnext
  | close => exact h.close hnext

theorem consistent_start : machine.start.Consistent where
  conserved := rfl
  total := rfl
  ring := rfl
  shown := rfl
  called := by decide
  drains := nofun
  left := nofun
  opened := fun _ => rfl
  closing := nofun

end DeliveryLayer

end Nte
