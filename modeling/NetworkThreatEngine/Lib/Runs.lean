import Mathlib

/-!
# Runs of flags

Runs of set flags in a list, the longest of them, and the first of the longest. The rules follow a scan from the
left: what one more flag adds to the runs that were there.
-/
namespace Runs

/-- `len` flags are set from `start` on. -/
def IsRun (flags : List Bool) (start len : Nat) : Prop := ∀ i < len, flags[start + i]? = some true

/-- No run is longer, and no run of this length starts earlier. -/
structure LeftmostLongest (flags : List Bool) (start len : Nat) : Prop where
  run : IsRun flags start len
  longest : ∀ start' len', IsRun flags start' len' → len' ≤ len
  leftmost : ∀ start', IsRun flags start' len → start ≤ start'

/-- The longest run that reaches the end. -/
structure Ending (flags : List Bool) (len : Nat) : Prop where
  inside : len ≤ flags.length
  run : IsRun flags (flags.length - len) len
  longest : ∀ start len', start + len' = flags.length → IsRun flags start len' → len' ≤ len

section Rules
variable {flags : List Bool} {start len ending : Nat}

theorem IsRun.inside (run : IsRun flags start len) (some : 0 < len) : start + len ≤ flags.length := by
  obtain ⟨last, -⟩ := List.getElem?_eq_some_iff.mp (run (len - 1) (by omega))
  omega

theorem IsRun.append (run : IsRun flags start len) (more : List Bool) : IsRun (flags ++ more) start len := by
  intro i inside
  obtain ⟨place, set⟩ := List.getElem?_eq_some_iff.mp (run i inside)
  rw [List.getElem?_append_left place]
  exact run i inside

theorem IsRun.of_append {more : List Bool} (run : IsRun (flags ++ more) start len)
    (before : start + len ≤ flags.length) : IsRun flags start len := by
  intro i inside
  have set := run i inside
  rwa [List.getElem?_append_left (by omega)] at set

theorem IsRun.take (run : IsRun flags start len) {shorter : Nat} (le : shorter ≤ len) : IsRun flags start shorter :=
  fun i inside => run i (Nat.lt_of_lt_of_le inside le)

/-- A cleared flag at the end is in no run. -/
theorem isRun_append_false (some : 0 < len) : IsRun (flags ++ [false]) start len ↔ IsRun flags start len := by
  refine ⟨fun run => ?_, fun run => run.append [false]⟩
  have inside := run.inside some
  rw [List.length_append, List.length_singleton] at inside
  refine run.of_append (Nat.le_of_not_lt fun past => ?_)
  have last := run (len - 1) (by omega)
  have place : start + (len - 1) = flags.length := by omega
  rw [place, List.getElem?_concat_length] at last
  cases last

/-- A set flag prolongs the runs at the end. -/
theorem Ending.isRun_append_true (longest : Ending flags ending) (some : 0 < len) :
    IsRun (flags ++ [true]) start len ↔
      IsRun flags start len ∨ start + len = flags.length + 1 ∧ len ≤ ending + 1 := by
  constructor
  · intro run
    have inside := run.inside some
    rw [List.length_append, List.length_singleton] at inside
    by_cases before : start + len ≤ flags.length
    · exact .inl (run.of_append before)
    · have shorter : IsRun flags start (len - 1) := (run.take (Nat.sub_le len 1)).of_append (by omega)
      have bound := longest.longest start (len - 1) (by omega) shorter
      exact .inr ⟨by omega, by omega⟩
  · rintro (run | ⟨reach, bound⟩)
    · exact run.append [true]
    · intro i inside
      by_cases last : start + i = flags.length
      · rw [last, List.getElem?_concat_length]
      · have set := longest.run (ending - (flags.length - start) + i) (by omega)
        have place : flags.length - ending + (ending - (flags.length - start) + i) = start + i := by
          have fits := longest.inside
          omega
        rw [place] at set
        rw [List.getElem?_append_left (by omega), set]

theorem isRun_zero : IsRun flags start 0 := fun _ none => absurd none (Nat.not_lt_zero _)

theorem ending_nil : Ending [] 0 := by
  refine ⟨le_rfl, isRun_zero, fun start len reach _ => ?_⟩
  rw [List.length_nil] at reach
  omega

theorem ending_append_false : Ending (flags ++ [false]) 0 := by
  refine ⟨Nat.zero_le _, isRun_zero, fun start len reach run => ?_⟩
  by_contra some
  have inside := ((isRun_append_false (by omega)).mp run).inside (by omega)
  rw [List.length_append, List.length_singleton] at reach
  omega

theorem Ending.append_true (longest : Ending flags ending) : Ending (flags ++ [true]) (ending + 1) := by
  have fits := longest.inside
  have size : (flags ++ [true]).length = flags.length + 1 := by rw [List.length_append, List.length_singleton]
  refine ⟨by omega, ?_, fun start len reach run => ?_⟩
  · rw [longest.isRun_append_true (Nat.succ_pos ending)]
    exact .inr ⟨by omega, le_rfl⟩
  · by_contra more
    rcases (longest.isRun_append_true (by omega)).mp run with within | ⟨-, bound⟩
    · have inside := within.inside (by omega)
      omega
    · omega

/-! ## The first of the longest runs -/

theorem leftmostLongest_nil : LeftmostLongest [] 0 0 := by
  refine ⟨isRun_zero, fun start len run => ?_, fun _ _ => Nat.zero_le _⟩
  by_contra some
  have inside := run.inside (by omega)
  rw [List.length_nil] at inside
  omega

theorem LeftmostLongest.append_false (best : LeftmostLongest flags start len) :
    LeftmostLongest (flags ++ [false]) start len := by
  refine ⟨best.run.append [false], fun start' len' run => ?_, fun start' run => ?_⟩
  · rcases Nat.eq_zero_or_pos len' with rfl | some
    · exact Nat.zero_le len
    · exact best.longest start' len' ((isRun_append_false some).mp run)
  · rcases Nat.eq_zero_or_pos len with rfl | some
    · exact best.leftmost start' isRun_zero
    · exact best.leftmost start' ((isRun_append_false some).mp run)

/-- The run at the end becomes the longest. -/
theorem LeftmostLongest.append_true_longer (best : LeftmostLongest flags start len) (longest : Ending flags ending)
    (longer : len < ending + 1) : LeftmostLongest (flags ++ [true]) (flags.length - ending) (ending + 1) := by
  have fits := longest.inside
  refine ⟨?_, fun start' len' run => ?_, fun start' run => ?_⟩
  · rw [longest.isRun_append_true (Nat.succ_pos ending)]
    exact .inr ⟨by omega, le_rfl⟩
  · rcases Nat.eq_zero_or_pos len' with rfl | some
    · exact Nat.zero_le _
    · rcases (longest.isRun_append_true some).mp run with within | ⟨-, bound⟩
      · exact (best.longest start' len' within).trans longer.le
      · exact bound
  · rcases (longest.isRun_append_true (Nat.succ_pos ending)).mp run with within | ⟨reach, -⟩
    · have bound := best.longest start' _ within
      omega
    · omega

/-- A run that is as long only now starts later. -/
theorem LeftmostLongest.append_true_kept (best : LeftmostLongest flags start len) (longest : Ending flags ending)
    (kept : ending + 1 ≤ len) : LeftmostLongest (flags ++ [true]) start len := by
  have some : 0 < len := by omega
  refine ⟨best.run.append [true], fun start' len' run => ?_, fun start' run => ?_⟩
  · rcases Nat.eq_zero_or_pos len' with rfl | some'
    · exact Nat.zero_le len
    · rcases (longest.isRun_append_true some').mp run with within | ⟨-, bound⟩
      · exact best.longest start' len' within
      · exact bound.trans kept
  · rcases (longest.isRun_append_true some).mp run with within | ⟨reach, bound⟩
    · exact best.leftmost start' within
    · have inside := best.run.inside some
      omega

end Rules

end Runs
