import Mathlib

/-!
# Histories

The run of a step function on a list of inputs, with the inputs since the last one that opened a
period. Facts about runs and histories are proved at the last input.
-/
namespace History

section Runs
variable {σ ι : Type} (step : σ → ι → σ) (opens : σ → ι → Bool) (s : σ)

def run (is : List ι) : σ := is.foldl step s

/-- What an input makes of the history: it opens a period or is added to the one under way. -/
def extend (t : σ) (history : List ι) (i : ι) : List ι := if opens t i then [i] else history ++ [i]

/-- The inputs from the last one on that opened a period; all of them if none did. -/
def since (is : List ι) : List ι := (is.foldl (fun (t, history) i => (step t i, extend opens t history i)) (s, [])).2

@[simp] theorem run_nil : run step s [] = s := rfl
@[simp] theorem since_nil : since step opens s [] = [] := rfl

theorem run_snoc (is : List ι) (i : ι) : run step s (is ++ [i]) = step (run step s is) i := List.foldl_concat ..

theorem foldl_fst (is : List ι) :
    (is.foldl (fun (t, history) i => (step t i, extend opens t history i)) (s, [])).1 = run step s is := by
  induction is using List.reverseRecOn with
  | nil => rfl
  | append_singleton is i ih => rw [List.foldl_concat, run_snoc, ← ih]

theorem since_snoc (is : List ι) (i : ι) :
    since step opens s (is ++ [i]) = extend opens (run step s is) (since step opens s is) i := by
  rw [since, List.foldl_concat, ← foldl_fst step opens s is]
  rfl

theorem run_append (is js : List ι) : run step s (is ++ js) = run step (run step s is) js := List.foldl_append

/-! ## Every step of a run -/

/-- Each input meets `ok` in the state and with the history it finds. -/
def Every (ok : σ → List ι → ι → Prop) (is : List ι) : Prop :=
  ∀ before i after, is = before ++ i :: after → ok (run step s before) (since step opens s before) i

variable {step opens s} {ok goal : σ → List ι → ι → Prop} {is : List ι}

theorem every_nil : Every step opens s ok [] := by
  intro before i after h
  simp at h

theorem every_snoc {i : ι} :
    Every step opens s ok (is ++ [i]) ↔
      Every step opens s ok is ∧ ok (run step s is) (since step opens s is) i := by
  constructor
  · intro every
    refine ⟨?_, every is i [] rfl⟩
    rintro before j after rfl
    exact every before j (after ++ [i]) (by simp)
  · rintro ⟨every, last⟩ before j after h
    rcases List.eq_nil_or_concat after with rfl | ⟨after', k, rfl⟩
    · obtain ⟨rfl, hj⟩ := List.append_inj' h rfl
      obtain rfl : i = j := by simpa using hj
      exact last
    · refine every before j after' ?_
      rw [List.concat_eq_append, ← List.cons_append, ← List.append_assoc] at h
      exact (List.append_inj' h rfl).1

theorem every_congr (same : ∀ t history i, ok t history i ↔ goal t history i) :
    Every step opens s ok is ↔ Every step opens s goal is := by
  constructor
  · intro every before i after h
    exact (same _ _ i).mp (every before i after h)
  · intro every before i after h
    exact (same _ _ i).mpr (every before i after h)

/-- What the start has and every good step keeps, every run of good steps ends with. -/
theorem Every.invariant (inv : σ → List ι → Prop) (start : inv s [])
    (keep : ∀ t history i, inv t history → ok t history i → inv (step t i) (extend opens t history i))
    (every : Every step opens s ok is) : inv (run step s is) (since step opens s is) := by
  induction is using List.reverseRecOn with
  | nil => exact start
  | append_singleton is i ih =>
      obtain ⟨every, last⟩ := every_snoc.mp every
      rw [run_snoc, since_snoc]
      exact keep _ _ i (ih every) last

/-- The same for a property of steps that follows from the invariant. -/
theorem Every.imp (inv : σ → List ι → Prop) (start : inv s [])
    (keep : ∀ t history i, inv t history → ok t history i → inv (step t i) (extend opens t history i))
    (follows : ∀ t history i, inv t history → ok t history i → goal t history i)
    (every : Every step opens s ok is) : Every step opens s goal is := by
  induction is using List.reverseRecOn with
  | nil => exact every_nil
  | append_singleton is i ih =>
      obtain ⟨every, last⟩ := every_snoc.mp every
      exact every_snoc.mpr ⟨ih every, follows _ _ i (every.invariant inv start keep) last⟩

/-- A property of states and histories that exactly the good steps preserve holds all along a run
exactly when all its steps are good. -/
theorem every_iff_forall (good : σ → List ι → Prop) (start : good s [])
    (sharp : ∀ t history i, good t history → (good (step t i) (extend opens t history i) ↔ ok t history i)) :
    Every step opens s ok is ↔
      ∀ before, before <+: is → good (run step s before) (since step opens s before) := by
  constructor
  · rintro every before ⟨after, rfl⟩
    have early : Every step opens s ok before := by
      rintro first i rest rfl
      exact every first i (rest ++ after) (by simp)
    exact early.invariant good start fun t history i known hok => (sharp t history i known).mpr hok
  · rintro all before i after rfl
    have known := all before (List.prefix_append _ _)
    have next := all (before ++ [i]) (by simp)
    rw [run_snoc, since_snoc] at next
    exact (sharp _ _ i known).mp next

/-- No input opens a period. -/
def Quiet (step : σ → ι → σ) (opens : σ → ι → Bool) (s : σ) (is : List ι) : Prop :=
  Every step opens s (fun t _ i => opens t i = false) is

/-- Inputs that open no period are added to the one under way. -/
theorem since_append {js : List ι} (quiet : Quiet step opens (run step s is) js) :
    since step opens s (is ++ js) = since step opens s is ++ js := by
  induction js using List.reverseRecOn with
  | nil => simp
  | append_singleton js i ih =>
      obtain ⟨quiet, last⟩ := every_snoc.mp quiet
      rw [← List.append_assoc, since_snoc, run_append, extend, last, ih quiet]
      simp

end Runs

/-! ## Outputs and what they use up -/

section Outputs
variable {σ ι α : Type} (step : σ → ι → σ) (out : σ → ι → Option α) (s : σ)

/-- The outputs along a run, in order. -/
def outputs (is : List ι) : List α := (is.foldl (fun (t, os) i => (step t i, os ++ (out t i).toList)) (s, [])).2

@[simp] theorem outputs_nil : outputs step out s [] = [] := rfl

theorem outputs_snoc (is : List ι) (i : ι) :
    outputs step out s (is ++ [i]) = outputs step out s is ++ (out (run step s is) i).toList := by
  have state : (is.foldl (fun (t, os) i => (step t i, os ++ (out t i).toList)) (s, [])).1 = run step s is := by
    induction is using List.reverseRecOn with
    | nil => rfl
    | append_singleton is i ih => rw [List.foldl_concat, run_snoc, ← ih]
  rw [outputs, List.foldl_concat, ← state]
  rfl

variable {step out s} {is : List ι}

theorem forall_outputs {good : α → Prop} (sound : ∀ t i a, out t i = some a → good a) :
    ∀ a ∈ outputs step out s is, good a := by
  induction is using List.reverseRecOn with
  | nil =>
      intro a mem
      cases mem
  | append_singleton is i ih =>
      intro a mem
      rw [outputs_snoc] at mem
      rcases List.mem_append.mp mem with old | new
      · exact ih a old
      · exact sound _ i a (Option.mem_toList.mp new)

variable {M : Type} [AddCommMonoid M]

/-- If every step passes on what it takes in or keeps it, nothing is lost along a run. -/
theorem conserved (held : σ → M) (used : α → M) (weight : ι → M)
    (law : ∀ t i, ((out t i).map used).getD 0 + held (step t i) = held t + weight i) :
    ((outputs step out s is).map used).sum + held (run step s is) = held s + (is.map weight).sum := by
  induction is using List.reverseRecOn with
  | nil => simp
  | append_singleton is i ih =>
      have single : (((out (run step s is) i).toList).map used).sum = ((out (run step s is) i).map used).getD 0 := by
        cases out (run step s is) i <;> simp
      rw [outputs_snoc, run_snoc, List.map_append, List.sum_append, single, add_assoc, law, ← add_assoc, ih,
        List.map_append, List.sum_append, List.map_singleton, List.sum_singleton, add_assoc]

end Outputs

end History
