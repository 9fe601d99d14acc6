import Mathlib

/-!
# Exponentially weighted averages

The first sample seeds the average and every later one is blended in with a fixed weight. The average
stays between any bounds of its samples, and samples that keep to a range draw it there at a geometric rate.
-/
namespace MovingAverage
variable {K : Type} [Field K]

def blend (α average sample : K) : K := α * sample + (1 - α) * average

def average (α : K) : List K → K
  | [] => 0
  | seed :: samples => samples.foldl (blend α) seed

@[simp] theorem average_singleton (α x : K) : average α [x] = x := rfl

theorem average_snoc (α : K) {samples : List K} (some : samples ≠ []) (x : K) :
    average α (samples ++ [x]) = blend α (average α samples) x := by
  cases samples with
  | nil => exact absurd rfl some
  | cons seed samples => exact List.foldl_concat ..

theorem average_append (α : K) {samples : List K} (some : samples ≠ []) (more : List K) :
    average α (samples ++ more) = more.foldl (blend α) (average α samples) := by
  cases samples with
  | nil => exact absurd rfl some
  | cons seed samples => exact List.foldl_append

/-- Where an average ends up after `n` samples of one value. -/
def approach (α average sample : K) (n : Nat) : K := sample - (sample - average) * (1 - α) ^ n

theorem one_sub_blend (α a sample bound : K) :
    bound - blend α a sample = (1 - α) * (bound - a) - α * (sample - bound) := by
  unfold blend
  ring

variable [LinearOrder K] [IsStrictOrderedRing K] {α : K}

theorem blend_mem_Icc (low : 0 ≤ α) (high : α ≤ 1) {lo hi a x : K} (ha : a ∈ Set.Icc lo hi)
    (hx : x ∈ Set.Icc lo hi) : blend α a x ∈ Set.Icc lo hi :=
  convex_Icc (𝕜 := K) lo hi hx ha low (sub_nonneg.mpr high) (add_sub_cancel α 1)

theorem average_mem_Icc (low : 0 ≤ α) (high : α ≤ 1) {lo hi : K} {samples : List K} (some : samples ≠ [])
    (inside : ∀ x ∈ samples, x ∈ Set.Icc lo hi) : average α samples ∈ Set.Icc lo hi := by
  induction samples using List.reverseRecOn with
  | nil => exact absurd rfl some
  | append_singleton samples x ih =>
      have hx := inside x (by simp)
      by_cases alone : samples = []
      · subst alone
        exact hx
      · rw [average_snoc α alone]
        exact blend_mem_Icc low high (ih alone fun y hy => inside y (by simp [hy])) hx

/-- Samples above a bound pull the average at least as far up as the bound itself would. -/
theorem approach_le_foldl (low : 0 ≤ α) (high : α ≤ 1) {lo a : K} {samples : List K} (above : ∀ x ∈ samples, lo ≤ x) :
    approach α a lo samples.length ≤ samples.foldl (blend α) a := by
  induction samples generalizing a with
  | nil => simp [approach]
  | cons x samples ih =>
      have rest := ih (a := blend α a x) fun y mem => above y (List.mem_cons_of_mem x mem)
      have first := above x List.mem_cons_self
      have weight : 0 ≤ (1 - α) ^ samples.length := pow_nonneg (sub_nonneg.mpr high) _
      have shrinks : lo - blend α a x ≤ (1 - α) * (lo - a) := by
        rw [one_sub_blend]
        exact sub_le_self _ (mul_nonneg low (sub_nonneg.mpr first))
      refine le_trans ?_ rest
      unfold approach
      rw [List.length_cons]
      apply sub_le_sub_left
      calc (lo - blend α a x) * (1 - α) ^ samples.length ≤ (1 - α) * (lo - a) * (1 - α) ^ samples.length := by gcongr
        _ = (lo - a) * (1 - α) ^ (samples.length + 1) := by ring

theorem foldl_le_approach (low : 0 ≤ α) (high : α ≤ 1) {hi a : K} {samples : List K} (below : ∀ x ∈ samples, x ≤ hi) :
    samples.foldl (blend α) a ≤ approach α a hi samples.length := by
  induction samples generalizing a with
  | nil => simp [approach]
  | cons x samples ih =>
      have rest := ih (a := blend α a x) fun y mem => below y (List.mem_cons_of_mem x mem)
      have first := below x List.mem_cons_self
      have weight : 0 ≤ (1 - α) ^ samples.length := pow_nonneg (sub_nonneg.mpr high) _
      have shrinks : (1 - α) * (hi - a) ≤ hi - blend α a x := by
        rw [one_sub_blend]
        exact le_sub_self_iff _ |>.mpr (mul_nonpos_of_nonneg_of_nonpos low (sub_nonpos.mpr first))
      refine rest.trans ?_
      unfold approach
      rw [List.length_cons]
      apply sub_le_sub_left
      calc (hi - a) * (1 - α) ^ (samples.length + 1) = (1 - α) * (hi - a) * (1 - α) ^ samples.length := by ring
        _ ≤ (hi - blend α a x) * (1 - α) ^ samples.length := by gcongr

end MovingAverage
