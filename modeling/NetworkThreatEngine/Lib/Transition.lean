import Mathlib

/-!
# Labelled machines

A machine has a start state and, for every state and label, at most one next state; a label
that has none is not enabled. Threads interleave by taking turns at naming the label. The rules
below turn what one step preserves into what a whole run preserves.
-/
namespace Transition

structure Machine (σ ℓ : Type) where
  start : σ
  next : σ → ℓ → Option σ

namespace Machine
variable {σ ℓ τ κ : Type} (m : Machine σ ℓ)

def run : σ → List ℓ → Option σ
  | s, [] => some s
  | s, a :: as => (m.next s a).bind (run · as)

/-- Every step of the run is taken in a state where `ok` holds of it. -/
def Guarded (ok : σ → ℓ → Prop) : σ → List ℓ → Prop
  | _, [] => True
  | s, a :: as => ok s a ∧ ∀ s', m.next s a = some s' → Guarded ok s' as

instance Guarded.decidable (ok : σ → ℓ → Prop) [∀ s a, Decidable (ok s a)] :
    (s : σ) → (as : List ℓ) → Decidable (m.Guarded ok s as)
  | _, [] => isTrue trivial
  | s, a :: as =>
      match h : m.next s a with
      | none => decidable_of_iff (ok s a) (by simp [Guarded, h])
      | some s' =>
          have := Guarded.decidable ok s' as
          decidable_of_iff (ok s a ∧ m.Guarded ok s' as) (by simp [Guarded, h])

def Reachable (s : σ) : Prop := ∃ as, m.run m.start as = some s

theorem run_cons {s s' : σ} {a : ℓ} {as : List ℓ} :
    m.run s (a :: as) = some s' ↔ ∃ s₁, m.next s a = some s₁ ∧ m.run s₁ as = some s' := by
  simp [run, Option.bind_eq_some_iff]

theorem run_append (s : σ) (as bs : List ℓ) : m.run s (as ++ bs) = (m.run s as).bind (m.run · bs) := by
  induction as generalizing s with
  | nil => rfl
  | cons a as ih =>
      simp only [List.cons_append, run, Option.bind_assoc]
      congr 1
      funext s₁
      exact ih s₁

/-- The rule for guarded runs: the guard may be used at every step. -/
theorem guarded_run (ok : σ → ℓ → Prop) (inv : σ → Prop)
    (step : ∀ s a s', inv s → ok s a → m.next s a = some s' → inv s') {s s' : σ} {as : List ℓ}
    (start : inv s) (guarded : m.Guarded ok s as) (hrun : m.run s as = some s') : inv s' := by
  induction as generalizing s with
  | nil =>
      cases hrun
      exact start
  | cons a as ih =>
      obtain ⟨s₁, hnext, hrest⟩ := m.run_cons.mp hrun
      exact ih (step s a s₁ start guarded.1 hnext) (guarded.2 s₁ hnext) hrest

theorem guarded_true (s : σ) (as : List ℓ) : m.Guarded (fun _ _ => True) s as := by
  induction as generalizing s with
  | nil => trivial
  | cons a as ih => exact ⟨trivial, fun s' _ => ih s'⟩

theorem guarded_of_forall {ok : ℓ → Prop} {as : List ℓ} (all : ∀ a ∈ as, ok a) (s : σ) :
    m.Guarded (fun _ => ok) s as := by
  induction as generalizing s with
  | nil => trivial
  | cons a as ih => exact ⟨all a List.mem_cons_self, fun s' _ => ih (fun b mem => all b (List.mem_cons_of_mem a mem)) s'⟩

/-- What holds at the start and is preserved by every step holds in every state a run reaches. -/
theorem run_invariant (inv : σ → Prop) (step : ∀ s a s', inv s → m.next s a = some s' → inv s')
    {s s' : σ} {as : List ℓ} (start : inv s) (hrun : m.run s as = some s') : inv s' :=
  m.guarded_run (fun _ _ => True) inv (fun s a s' hs _ => step s a s' hs) start (m.guarded_true s as) hrun

/-- The rule for a guard that is sharp: out of a safe state exactly the guarded steps lead to safe
states, and no step leads back to safety. A run is then guarded at every step exactly when it ends in
a safe state. -/
theorem guarded_iff_safe (ok : σ → ℓ → Prop) (inv safe : σ → Prop)
    (keep : ∀ s a s', inv s → m.next s a = some s' → inv s')
    (sharp : ∀ s a s', inv s → safe s → m.next s a = some s' → (safe s' ↔ ok s a))
    (doomed : ∀ s a s', inv s → ¬ safe s → m.next s a = some s' → ¬ safe s')
    {s s' : σ} {as : List ℓ} (known : inv s) (start : safe s) (hrun : m.run s as = some s') :
    m.Guarded ok s as ↔ safe s' := by
  induction as generalizing s with
  | nil =>
      cases hrun
      exact iff_of_true trivial start
  | cons a as ih =>
      obtain ⟨s₁, hnext, hrest⟩ := m.run_cons.mp hrun
      have known₁ := keep s a s₁ known hnext
      by_cases good : ok s a
      · rw [← ih known₁ ((sharp s a s₁ known start hnext).mpr good) hrest]
        constructor
        · rintro ⟨-, rest⟩
          exact rest s₁ hnext
        · intro rest
          refine ⟨good, fun s₂ hnext₂ => ?_⟩
          obtain rfl : s₁ = s₂ := Option.some.inj (hnext.symm.trans hnext₂)
          exact rest
      · have lost : ¬ safe s₁ := fun h => good ((sharp s a s₁ known start hnext).mp h)
        have stays := m.run_invariant (fun s => inv s ∧ ¬ safe s)
          (fun s a s' hs hnext => ⟨keep s a s' hs.1 hnext, doomed s a s' hs.1 hs.2 hnext⟩) ⟨known₁, lost⟩ hrest
        exact iff_of_false (fun h => good h.1) stays.2

/-- All states of a run, the first and the last included. -/
def Always (safe : σ → Prop) (s : σ) (as : List ℓ) : Prop :=
  ∀ bs t, bs <+: as → m.run s bs = some t → safe t

theorem always_cons {safe : σ → Prop} {s s₁ : σ} {a : ℓ} {as : List ℓ} (hnext : m.next s a = some s₁) :
    m.Always safe s (a :: as) ↔ safe s ∧ m.Always safe s₁ as := by
  constructor
  · intro always
    refine ⟨always [] s List.nil_prefix rfl, ?_⟩
    intro bs t before hrun
    exact always (a :: bs) t (List.cons_prefix_cons.mpr ⟨rfl, before⟩) (m.run_cons.mpr ⟨s₁, hnext, hrun⟩)
  · rintro ⟨first, rest⟩ bs t before hrun
    rcases List.prefix_cons_iff.mp before with rfl | ⟨bs, rfl, initial⟩
    · cases hrun
      exact first
    · obtain ⟨s₂, hnext₂, hrun⟩ := m.run_cons.mp hrun
      obtain rfl : s₁ = s₂ := Option.some.inj (hnext.symm.trans hnext₂)
      exact rest bs t initial hrun

/-- The rule for a guard whose steps keep what makes states safe, while any other step leads to an unsafe
state, later repaired or not. A run is then guarded at every step exactly when all its states are safe. -/
theorem guarded_iff_always (ok : σ → ℓ → Prop) (inv safe : σ → Prop) (sound : ∀ s, inv s → safe s)
    (good : ∀ s a s', inv s → ok s a → m.next s a = some s' → inv s')
    (bad : ∀ s a s', inv s → ¬ ok s a → m.next s a = some s' → ¬ safe s')
    {s s' : σ} {as : List ℓ} (start : inv s) (hrun : m.run s as = some s') :
    m.Guarded ok s as ↔ m.Always safe s as := by
  induction as generalizing s with
  | nil =>
      refine iff_of_true trivial ?_
      intro bs t before hrun
      obtain rfl := List.prefix_nil.mp before
      cases hrun
      exact sound s start
  | cons a as ih =>
      obtain ⟨s₁, hnext, hrest⟩ := m.run_cons.mp hrun
      rw [m.always_cons hnext]
      by_cases guard : ok s a
      · rw [← ih (good s a s₁ start guard hnext) hrest]
        constructor
        · exact fun guarded => ⟨sound s start, guarded.2 s₁ hnext⟩
        · rintro ⟨-, rest⟩
          refine ⟨guard, fun s₂ hnext₂ => ?_⟩
          obtain rfl : s₁ = s₂ := Option.some.inj (hnext.symm.trans hnext₂)
          exact rest
      · refine iff_of_false (fun guarded => guard guarded.1) ?_
        rintro ⟨-, rest⟩
        exact bad s a s₁ start guard hnext (rest [] s₁ List.nil_prefix rfl)

theorem Reachable.invariant (inv : σ → Prop) {s : σ} (reach : m.Reachable s) (start : inv m.start)
    (step : ∀ s a s', inv s → m.next s a = some s' → inv s') : inv s := by
  obtain ⟨as, hrun⟩ := reach
  exact m.run_invariant inv step start hrun

/-- Every step of `m` is, seen through `view`, a run of `m'`: then so is every run of `m`. -/
theorem Reachable.simulation {m : Machine σ ℓ} {m' : Machine τ κ} (view : σ → τ)
    (start : view m.start = m'.start)
    (step : ∀ s a s', m.next s a = some s' → ∃ bs, m'.run (view s) bs = some (view s'))
    {s : σ} (reach : m.Reachable s) : m'.Reachable (view s) := by
  refine Reachable.invariant m (fun s => m'.Reachable (view s)) reach ⟨[], ?_⟩ ?_
  · rw [start]
    rfl
  · intro s a s' ⟨bs, hbs⟩ hnext
    obtain ⟨cs, hcs⟩ := step s a s' hnext
    refine ⟨bs ++ cs, ?_⟩
    rw [run_append, hbs]
    exact hcs

end Machine

end Transition
