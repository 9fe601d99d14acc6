import Mathlib

/-!
# Windows over a sequence of inputs

A counter with the time at which it was opened. It is cut anew from time to time, by an input that is counted
before the cut or behind it; in any case it has counted the last inputs, and its time is that of the first of
them or of the one before.
-/
namespace Windows
variable {ι τ : Type} (time : ι → τ) (weight : ι → Nat) (origin : Option τ)

/-- The time opens the recent inputs: the first of them did it, or the last one before. The first window of all may
have been opened at the origin. -/
def Opens (earlier recent : List ι) (start : τ) : Prop :=
  start ∈ recent.head?.map time ∨ start ∈ earlier.getLast?.map time ∨ earlier = [] ∧ start ∈ origin

/-- What an input finds: a window open since `start` that has counted `amount`. -/
def Open (is : List ι) (i : ι) (start : τ) (amount : Nat) : Prop :=
  ∃ earlier recent, is = earlier ++ recent ∧ (recent.map weight).sum = amount ∧
    Opens time origin earlier (recent ++ [i]) start

variable {time weight origin} {is : List ι} {i j : ι} {start : τ} {amount : Nat}

theorem Open.create : Open time weight origin [] i (time i) 0 := ⟨[], [], rfl, rfl, .inl rfl⟩

theorem Open.atOrigin (h : start ∈ origin) : Open time weight origin [] i start 0 :=
  ⟨[], [], rfl, rfl, .inr (.inr ⟨rfl, h⟩)⟩

theorem Opens.more {earlier recent : List ι} (h : Opens time origin earlier recent start) (some : recent ≠ []) :
    Opens time origin earlier (recent ++ [j]) start := by
  refine h.imp_left ?_
  rw [List.head?_append_of_ne_nil _ some]
  exact id

theorem Open.count (h : Open time weight origin is i start amount) (j : ι) :
    Open time weight origin (is ++ [i]) j start (amount + weight i) := by
  obtain ⟨earlier, recent, rfl, rfl, opens⟩ := h
  refine ⟨earlier, recent ++ [i], List.append_assoc .., by simp, opens.more (by simp)⟩

/-- The input that cuts the window was its last one. -/
theorem Open.restart (is : List ι) (i j : ι) : Open time weight origin (is ++ [i]) j (time i) 0 :=
  ⟨is ++ [i], [], (List.append_nil _).symm, rfl, .inr (.inl (by simp))⟩

/-- The input that cuts the window is the first one of the next. -/
theorem Open.restart_counting (is : List ι) (i j : ι) : Open time weight origin (is ++ [i]) j (time i) (weight i) :=
  ⟨is, [i], rfl, by simp, .inl (by simp)⟩

/-- Where an input of the chosen ones stands among all. -/
theorem exists_of_filter {chosen : ι → Bool} {front back : List ι} (split : is.filter chosen = front ++ i :: back) :
    ∃ before behind, is = before ++ i :: behind ∧ before.filter chosen = front ∧ chosen i = true := by
  obtain ⟨l₁, l₂, rfl, first, second⟩ := List.filter_eq_append_iff.mp split
  obtain ⟨skipped, behind, rfl, none, found, -⟩ := List.filter_eq_cons_iff.mp second
  refine ⟨l₁ ++ skipped, behind, (List.append_assoc ..).symm, ?_, found⟩
  rw [List.filter_append, first, List.filter_eq_nil_iff.mpr none, List.append_nil]

/-! ## Windows that roll on -/

/-- The window is cut anew by the first input for which it was opened too long ago. -/
def roll (time : ι → τ) (old : τ → τ → Prop) [DecidableRel old] (window : τ × List ι) (i : ι) : τ × List ι :=
  if old window.1 (time i) then (time i, [i]) else (window.1, window.2 ++ [i])

/-- The window holds the last inputs, none of them too late for it. It was opened by the first of these, or it is the
first window and was opened at the origin. -/
structure Rolled (time : ι → τ) (old : τ → τ → Prop) (origin : τ) (is : List ι) (window : τ × List ι) : Prop where
  last : window.2 <:+ is
  opened : window.2.head?.map time = some window.1 ∨ window.2 = is ∧ window.1 = origin
  young : ∀ i ∈ window.2, ¬ old window.1 (time i)

section Rolling
variable {old : τ → τ → Prop} {origin : τ} {window : τ × List ι}

theorem rolled_start : Rolled time old origin [] (origin, []) := ⟨List.suffix_rfl, .inr ⟨rfl, rfl⟩, by simp⟩

theorem Rolled.roll [DecidableRel old] (h : Rolled time old origin is window) (fresh : ∀ t, ¬ old t t) (i : ι) :
    Rolled time old origin (is ++ [i]) (roll time old window i) := by
  unfold Windows.roll
  split
  · refine ⟨List.suffix_append _ _, .inl rfl, ?_⟩
    intro j mem
    rw [List.mem_singleton.mp mem]
    exact fresh (time i)
  · rename_i young
    obtain ⟨earlier, rfl⟩ := h.last
    refine ⟨⟨earlier, by simp⟩, ?_, ?_⟩
    · rcases h.opened with first | ⟨all, begun⟩
      · refine .inl ?_
        rw [List.head?_append, Option.map_or, first]
        rfl
      · refine .inr ⟨?_, begun⟩
        rw [← all]
    · intro j mem
      rcases List.mem_append.mp mem with before | now
      · exact h.young j before
      · rw [List.mem_singleton.mp now]
        exact young

end Rolling

/-! ## Inputs that keep their distance -/

/-- Behind `first`, times at least `gap` apart and up to `last` are few. -/
theorem length_mul_le {gap first last : ℚ} {times : List ℚ} (inside : first ≤ last) (spaced : times.Pairwise (· + gap ≤ ·))
    (behind : ∀ t ∈ times, first + gap ≤ t) (upTo : ∀ t ∈ times, t ≤ last) : times.length * gap ≤ last - first := by
  induction times generalizing first with
  | nil =>
      rw [List.length_nil, Nat.cast_zero, zero_mul]
      exact sub_nonneg.mpr inside
  | cons t times ih =>
      rw [List.pairwise_cons] at spaced
      have rest := ih (upTo t List.mem_cons_self) spaced.2 spaced.1 fun u mem => upTo u (List.mem_cons_of_mem t mem)
      have first := behind t List.mem_cons_self
      rw [List.length_cons, Nat.cast_add, Nat.cast_one]
      linarith

/-- As many as fit into an interval. -/
theorem length_le_of_spaced {gap first last : ℚ} (positive : 0 < gap) (inside : first ≤ last) {times : List ℚ}
    (spaced : times.Pairwise (· + gap ≤ ·)) (within : ∀ t ∈ times, first ≤ t ∧ t ≤ last) :
    (times.length : ℚ) ≤ (last - first) / gap + 1 := by
  cases times with
  | nil =>
      rw [List.length_nil, Nat.cast_zero]
      have width : 0 ≤ last - first := sub_nonneg.mpr inside
      positivity
  | cons t times =>
      rw [List.pairwise_cons] at spaced
      obtain ⟨after, before⟩ := within t List.mem_cons_self
      have rest := length_mul_le before spaced.2 spaced.1 fun u mem => (within u (List.mem_cons_of_mem t mem)).2
      rw [List.length_cons, Nat.cast_add, Nat.cast_one, add_le_add_iff_right, le_div_iff₀ positive]
      linarith

end Windows
