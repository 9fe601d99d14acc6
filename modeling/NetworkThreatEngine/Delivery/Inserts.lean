import NetworkThreatEngine.Delivery.Writer

/-!
# Inserts that fail

Whatever `sqlite3_step` makes of an insert, and whenever alerts are enqueued: an alert whose insert fails is
not tried again, and all others are stored once and in their order.
-/
namespace Nte
open Transition

namespace DeliveryLayer

/-- The alerts the writer has tried to insert, with what came of it. -/
abbrev Attempt := ThreatAlert × Bool

def succeeded (attempts : List Attempt) : List ThreatAlert := (attempts.filter Prod.snd).map Prod.fst

/-- What the display has been given of the alerts that were tried. -/
def Displayed (d : DeliveryLayer) (tried : List ThreatAlert) : Prop :=
  match d.writer with
  | .displaying alert => tried = d.handled ++ [alert]
  | .draining => d.handled <+: tried
  | .done => d.handled <+: tried
  | _ => tried = d.handled

/-- Every alert enqueued has been tried, is being tried or is still queued. -/
structure Attempted (d : DeliveryLayer) (attempts : List Attempt) : Prop where
  conserved : attempts.map Prod.fst ++ d.inFlight ++ d.alertQueue = d.enqueued
  persisted : d.persisted = succeeded attempts
  total : d.totalPersisted = UInt64.ofNat d.persisted.length
  ring : d.displayRing = d.handled.rtake DISPLAY_RING_SIZE
  displayed : d.Displayed (attempts.map Prod.fst)

theorem succeeded_snoc (attempts : List Attempt) (alert : ThreatAlert) (stored : Bool) :
    succeeded (attempts ++ [(alert, stored)]) = succeeded attempts ++ if stored then [alert] else [] := by
  cases stored <;> simp [succeeded]

theorem persistAlert_persisted (d : DeliveryLayer) (alert : ThreatAlert) (stepDone : Bool) :
    (d.persistAlert alert stepDone).persisted = d.persisted ++ if d.database && stepDone then [alert] else [] := by
  unfold persistAlert
  cases d.database <;> cases stepDone <;> simp

theorem persistAlert_totalPersisted {d : DeliveryLayer} (total : d.totalPersisted = UInt64.ofNat d.persisted.length)
    (alert : ThreatAlert) (stepDone : Bool) :
    (d.persistAlert alert stepDone).totalPersisted =
      UInt64.ofNat (d.persistAlert alert stepDone).persisted.length := by
  unfold persistAlert
  split
  · exact total
  · split
    · rw [List.length_append, UInt64.ofNat_add, ← total]
      rfl
    · exact total

/-- An insert changes what is stored and nothing else. -/
theorem persistAlert_eq (d : DeliveryLayer) (alert : ThreatAlert) (stepDone : Bool) :
    d.persistAlert alert stepDone =
      { d with
        persisted := (d.persistAlert alert stepDone).persisted
        totalPersisted := (d.persistAlert alert stepDone).totalPersisted } := by
  unfold persistAlert
  split
  · rfl
  · split <;> rfl

section Steps
variable {d d' : DeliveryLayer} {attempts : List Attempt} (h : d.Attempted attempts)
include h

/-- The insert of an alert is one attempt more. -/
theorem Attempted.insert (alert : ThreatAlert) (stepDone : Bool) {writer : WriterAt} {alertQueue : List ThreatAlert}
    (conserved : (attempts.map Prod.fst ++ [alert]) ++ alertQueue = d.enqueued) (idle : ∀ a, writer ≠ .persisting a)
    (displayed : { d with writer }.Displayed (attempts.map Prod.fst ++ [alert])) :
    { d with
      writer, alertQueue
      persisted := (d.persistAlert alert stepDone).persisted
      totalPersisted := (d.persistAlert alert stepDone).totalPersisted }.Attempted
      (attempts ++ [(alert, d.database && stepDone)]) := by
  have tried : (attempts ++ [(alert, d.database && stepDone)]).map Prod.fst = attempts.map Prod.fst ++ [alert] := by
    rw [List.map_append]
    rfl
  have total := persistAlert_totalPersisted h.total alert stepDone
  have persisted := d.persistAlert_persisted alert stepDone
  rw [h.persisted, ← succeeded_snoc] at persisted
  refine ⟨?_, persisted, total, h.ring, ?_⟩
  · rw [tried]
    cases writer with
    | persisting a => exact absurd rfl (idle a)
    | _ => rwa [inFlight, List.append_nil]
  · rw [tried]
    exact displayed

theorem Attempted.write {stepDone : Bool} (hnext : d.writerLoop stepDone = some d') :
    ∃ attempts', attempts <+: attempts' ∧ d'.Attempted attempts' := by
  rw [writerLoop] at hnext
  have conserved := h.conserved
  have displayed := h.displayed
  cases hw : d.writer with
  | testing =>
      simp only [inFlight, Displayed, hw] at conserved displayed
      simp only [hw, Option.some.injEq] at hnext
      subst hnext
      refine ⟨attempts, List.prefix_rfl, ?_⟩
      cases d.running with
      | true => exact ⟨conserved, h.persisted, h.total, h.ring, displayed⟩
      | false => exact ⟨conserved, h.persisted, h.total, h.ring, displayed ▸ List.prefix_rfl⟩
  | waiting =>
      simp only [inFlight, Displayed, hw] at conserved displayed
      simp only [hw] at hnext
      refine ⟨attempts, List.prefix_rfl, ?_⟩
      cases hq : d.alertQueue with
      | cons alert rest =>
          simp only [hq, Option.some.injEq] at hnext
          subst hnext
          refine ⟨?_, h.persisted, h.total, h.ring, displayed⟩
          simpa [inFlight, hq] using conserved
      | nil =>
          simp only [hq] at hnext
          split at hnext
          · cases hnext
          · cases hnext
            refine ⟨?_, h.persisted, h.total, h.ring, displayed⟩
            simpa [inFlight, hq] using conserved
  | persisting alert =>
      simp only [inFlight, Displayed, hw] at conserved displayed
      simp only [hw, Option.some.injEq] at hnext
      subst hnext
      refine ⟨attempts ++ [(alert, d.database && stepDone)], List.prefix_append _ _, ?_⟩
      rw [persistAlert_eq]
      exact h.insert alert stepDone conserved (by simp) (congrArg (· ++ [alert]) displayed)
  | displaying alert =>
      simp only [inFlight, Displayed, hw] at conserved displayed
      simp only [hw, Option.some.injEq] at hnext
      subst hnext
      refine ⟨attempts, List.prefix_rfl, conserved, h.persisted, h.total, ?_, displayed⟩
      change trimRing (d.displayRing ++ [alert]) = _
      rw [h.ring]
      exact trimRing_snoc d.handled alert
  | draining =>
      simp only [inFlight, Displayed, hw] at conserved displayed
      simp only [hw] at hnext
      cases hq : d.alertQueue with
      | cons alert rest =>
          simp only [hq, Option.some.injEq] at hnext
          subst hnext
          refine ⟨attempts ++ [(alert, d.database && stepDone)], List.prefix_append _ _, ?_⟩
          rw [persistAlert_eq]
          refine h.insert alert stepDone ?_ ?_ ?_
          · simpa [hq] using conserved
          · rw [hw]
            simp
          · unfold Displayed
            rw [hw]
            exact displayed.trans (List.prefix_append _ _)
      | nil =>
          simp only [hq, Option.some.injEq] at hnext
          subst hnext
          refine ⟨attempts, List.prefix_rfl, ?_, h.persisted, h.total, h.ring, displayed⟩
          simpa [inFlight, hq] using conserved
  | done =>
      simp [hw] at hnext

/-- What `stop` and the threads' flags do is not seen by the alerts. -/
theorem Attempted.switched (running database : Bool) (stopping : StopAt) :
    { d with running, database, stopping }.Attempted attempts :=
  ⟨h.conserved, h.persisted, h.total, h.ring, h.displayed⟩

end Steps

theorem Attempted.next {d d' : DeliveryLayer} {attempts : List Attempt} {a : DeliveryStep} (h : d.Attempted attempts)
    (hnext : d.next a = some d') : ∃ attempts', attempts <+: attempts' ∧ d'.Attempted attempts' := by
  cases a with
  | enqueue alert =>
      rw [DeliveryLayer.next] at hnext
      split at hnext
      · cases hnext
      · cases hnext
        refine ⟨attempts, List.prefix_rfl, ?_, h.persisted, h.total, h.ring, h.displayed⟩
        rw [← h.conserved]
        exact (List.append_assoc ..).symm
  | write stepDone => exact h.write hnext
  | stop =>
      rw [DeliveryLayer.next] at hnext
      split at hnext
      · split at hnext <;> cases hnext <;> exact ⟨attempts, List.prefix_rfl, h.switched _ _ _⟩
      · cases hnext
  | join =>
      rw [DeliveryLayer.next] at hnext
      split at hnext
      · cases hnext
        exact ⟨attempts, List.prefix_rfl, h.switched _ _ _⟩
      · cases hnext
  | close =>
      rw [DeliveryLayer.next] at hnext
      split at hnext
      · cases hnext
        exact ⟨attempts, List.prefix_rfl, h.switched _ _ _⟩
      · cases hnext

theorem Attempted.run {d d' : DeliveryLayer} {attempts : List Attempt} {as : List DeliveryStep}
    (h : d.Attempted attempts) (hrun : machine.run d as = some d') :
    ∃ attempts', attempts <+: attempts' ∧ d'.Attempted attempts' := by
  induction as generalizing d attempts with
  | nil =>
      cases hrun
      exact ⟨attempts, List.prefix_rfl, h⟩
  | cons a as ih =>
      obtain ⟨d₁, hnext, hrest⟩ := machine.run_cons.mp hrun
      obtain ⟨attempts₁, before, h₁⟩ := h.next hnext
      obtain ⟨attempts₂, later, h₂⟩ := ih h₁ hrest
      exact ⟨attempts₂, before.trans later, h₂⟩

theorem attempted_start : machine.start.Attempted [] := ⟨rfl, rfl, rfl, rfl, rfl⟩

theorem Attempted.handled {d : DeliveryLayer} {attempts : List Attempt} (h : d.Attempted attempts) :
    d.handled <+: attempts.map Prod.fst := by
  have displayed := h.displayed
  unfold Displayed at displayed
  split at displayed
  · rw [displayed]
    exact List.prefix_append _ _
  · exact displayed
  · exact displayed
  · rw [displayed]

theorem Attempted.sublist {d : DeliveryLayer} {attempts : List Attempt} (h : d.Attempted attempts) :
    d.persisted.Sublist d.enqueued := by
  rw [h.persisted, ← h.conserved, List.append_assoc]
  exact (List.filter_sublist.map _).trans (List.sublist_append_left _ _)

theorem writerLoop_frame {d d' : DeliveryLayer} {stepDone : Bool} (hnext : d.writerLoop stepDone = some d') :
    d'.enqueued = d.enqueued ∧ d'.stopping = d.stopping := by
  rw [writerLoop] at hnext
  split at hnext
  · cases hnext
    exact ⟨rfl, rfl⟩
  · split at hnext
    · cases hnext
      exact ⟨rfl, rfl⟩
    · split at hnext
      · cases hnext
      · cases hnext
        exact ⟨rfl, rfl⟩
  · rw [persistAlert_eq] at hnext
    cases hnext
    exact ⟨rfl, rfl⟩
  · cases hnext
    exact ⟨rfl, rfl⟩
  · split at hnext
    · rw [persistAlert_eq] at hnext
      cases hnext
      exact ⟨rfl, rfl⟩
    · cases hnext
      exact ⟨rfl, rfl⟩
  · cases hnext

theorem next_enqueued {d d' : DeliveryLayer} {a : DeliveryStep} (quiet : ∀ alert, a ≠ .enqueue alert)
    (hnext : d.next a = some d') : d'.enqueued = d.enqueued := by
  cases a with
  | enqueue alert => exact absurd rfl (quiet alert)
  | write stepDone => exact (writerLoop_frame hnext).1
  | stop =>
      rw [DeliveryLayer.next] at hnext
      split at hnext
      · split at hnext <;> cases hnext <;> rfl
      · cases hnext
  | join =>
      rw [DeliveryLayer.next] at hnext
      split at hnext <;> cases hnext
      rfl
  | close =>
      rw [DeliveryLayer.next] at hnext
      split at hnext <;> cases hnext
      rfl

theorem enqueue_next {d d' : DeliveryLayer} {alert : ThreatAlert} (hnext : d.next (.enqueue alert) = some d') :
    d' = { d with alertQueue := d.alertQueue ++ [alert], enqueued := d.enqueued ++ [alert] } := by
  rw [DeliveryLayer.next] at hnext
  split at hnext <;> cases hnext
  rfl

/-! ## The stop of the layer -/

/-- How far `stop` and the writer have come. -/
structure Staged (d : DeliveryLayer) : Prop where
  called : d.stopping = .notCalled ↔ d.running = true
  drains : d.writer = .draining → d.running = false
  left : d.writer = .done → d.running = false ∧ d.alertQueue = []
  ended : d.stopping = .closing ∨ d.stopping = .returned → d.writer = .done

theorem staged_start : machine.start.Staged := ⟨by decide, nofun, nofun, nofun⟩

/-- The writer has not returned, so `stop` is not past the join. -/
theorem Staged.early {d : DeliveryLayer} (h : d.Staged) (busy : d.writer ≠ .done) {writer : WriterAt} :
    d.stopping = .closing ∨ d.stopping = .returned → writer = .done := fun late => absurd (h.ended late) busy

theorem Staged.write {d d' : DeliveryLayer} {stepDone : Bool} (h : d.Staged) (hnext : d.writerLoop stepDone = some d') :
    d'.Staged := by
  rw [writerLoop] at hnext
  cases hw : d.writer with
  | testing =>
      simp only [hw, Option.some.injEq] at hnext
      subst hnext
      cases up : d.running with
      | true => exact ⟨by simpa [up] using h.called, by simp, by simp, h.early (by simp [hw])⟩
      | false => exact ⟨by simpa [up] using h.called, fun _ => rfl, by simp, h.early (by simp [hw])⟩
  | waiting =>
      simp only [hw] at hnext
      cases hq : d.alertQueue with
      | cons alert rest =>
          simp only [hq, Option.some.injEq] at hnext
          subst hnext
          exact ⟨h.called, by simp, by simp, h.early (by simp [hw])⟩
      | nil =>
          simp only [hq] at hnext
          split at hnext
          · cases hnext
          · cases hnext
            exact ⟨h.called, by simp, by simp, h.early (by simp [hw])⟩
  | persisting alert =>
      simp only [hw, Option.some.injEq] at hnext
      rw [persistAlert_eq] at hnext
      subst hnext
      exact ⟨h.called, by simp, by simp, h.early (by simp [hw])⟩
  | displaying alert =>
      simp only [hw, Option.some.injEq] at hnext
      subst hnext
      exact ⟨h.called, by simp, by simp, h.early (by simp [hw])⟩
  | draining =>
      simp only [hw] at hnext
      have down := h.drains hw
      cases hq : d.alertQueue with
      | cons alert rest =>
          simp only [hq, Option.some.injEq] at hnext
          rw [persistAlert_eq] at hnext
          subst hnext
          refine ⟨h.called, fun _ => down, ?_, h.early (by simp [hw])⟩
          simp [hw]
      | nil =>
          simp only [hq, Option.some.injEq] at hnext
          subst hnext
          exact ⟨h.called, by simp, fun _ => ⟨down, rfl⟩, fun _ => rfl⟩
  | done =>
      simp [hw] at hnext

theorem Staged.next {d d' : DeliveryLayer} {a : DeliveryStep} (h : d.Staged)
    (early : ∀ alert, a = .enqueue alert → d.stopping = .notCalled) (hnext : d.next a = some d') : d'.Staged := by
  cases a with
  | enqueue alert =>
      have up := h.called.mp (early alert rfl)
      rw [DeliveryLayer.next] at hnext
      split at hnext
      · cases hnext
      · cases hnext
        refine ⟨h.called, h.drains, ?_, h.ended⟩
        intro left
        rw [(h.left left).1] at up
        cases up
  | write stepDone => exact h.write hnext
  | stop =>
      rw [DeliveryLayer.next] at hnext
      cases hs : d.stopping with
      | notCalled =>
          have up := h.called.mp hs
          simp only [hs, up, if_true, Option.some.injEq] at hnext
          subst hnext
          refine ⟨by simp, fun _ => rfl, fun left => ⟨rfl, (h.left left).2⟩, ?_⟩
          rintro (late | late) <;> cases late
      | joining | closing | returned =>
          simp [hs] at hnext
  | join =>
      rw [DeliveryLayer.next] at hnext
      split at hnext
      · rename_i ready
        cases hnext
        have down := (h.left ready.2).1
        exact ⟨by simp [down], h.drains, h.left, fun _ => ready.2⟩
      · cases hnext
  | close =>
      rw [DeliveryLayer.next] at hnext
      split at hnext
      · rename_i closing
        cases hnext
        have returned := h.ended (.inl closing)
        have down := (h.left returned).1
        exact ⟨by simp [down], h.drains, h.left, fun _ => returned⟩
      · cases hnext

/-- Once `stop` has returned every alert has been tried. -/
theorem Staged.tried {d : DeliveryLayer} {attempts : List Attempt} (h : d.Staged) (tried : d.Attempted attempts)
    (returned : d.stopping = .returned) : attempts.map Prod.fst = d.enqueued := by
  have ended := h.ended (.inr returned)
  have conserved := tried.conserved
  rw [inFlight, ended, (h.left ended).2] at conserved
  simpa using conserved

end DeliveryLayer

end Nte
