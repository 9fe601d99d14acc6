import NetworkThreatEngine.Lib.Transition

/-!
# Budgets

Steps of a run that each use up some of a measure are few, unless other steps bring new measure in. If moreover such a
step can be taken in every state that is not a goal, then these steps alone lead to a goal.
-/
namespace Transition.Machine
variable {σ ℓ : Type} (m : Machine σ ℓ)

/-- The rule for costs and gains: a run spends what the measure has at its start, and what the run gains. -/
theorem run_budget (measure : σ → Nat) (cost gain : ℓ → Nat) (inv : σ → Prop)
    (step : ∀ s a s', inv s → m.next s a = some s' → inv s' ∧ measure s' + cost a ≤ measure s + gain a)
    {s s' : σ} {as : List ℓ} (start : inv s) (hrun : m.run s as = some s') :
    inv s' ∧ measure s' + (as.map cost).sum ≤ measure s + (as.map gain).sum := by
  induction as generalizing s with
  | nil =>
      cases hrun
      exact ⟨start, le_refl _⟩
  | cons a as ih =>
      obtain ⟨s₁, hnext, hrest⟩ := m.run_cons.mp hrun
      obtain ⟨next, paid⟩ := step s a s₁ start hnext
      obtain ⟨last, rest⟩ := ih next hrest
      refine ⟨last, ?_⟩
      rw [List.map_cons, List.map_cons, List.sum_cons, List.sum_cons]
      omega

theorem sum_map_one (mine : ℓ → Bool) (as : List ℓ) : (as.map fun a => (mine a).toNat).sum = as.countP mine := by
  induction as with
  | nil => rfl
  | cons a as ih =>
      rw [List.map_cons, List.sum_cons, ih, List.countP_cons]
      cases mine a
      · exact Nat.zero_add _
      · exact Nat.add_comm _ _

/-- The rule for steps that use up a measure: there are no more of them in a run than the measure has at its start. -/
theorem run_bounded (measure : σ → Nat) (mine : ℓ → Bool) (inv : σ → Prop)
    (step : ∀ s a s', inv s → m.next s a = some s' → inv s' ∧ measure s' + (mine a).toNat ≤ measure s)
    {s s' : σ} {as : List ℓ} (start : inv s) (hrun : m.run s as = some s') : as.countP mine ≤ measure s := by
  obtain ⟨-, paid⟩ := m.run_budget measure (fun a => (mine a).toNat) (fun _ => 0) inv step start hrun
  rw [sum_map_one, List.map_const', List.sum_replicate, smul_zero] at paid
  omega

end Transition.Machine
