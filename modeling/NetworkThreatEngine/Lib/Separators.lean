import Mathlib

/-!
# Parts joined by a separator

A list of parts is joined by a separator and split at it again. The parts come back when none of them holds
the separator; here is what comes back in general, and what the longest piece says about the longest part.
-/
namespace Separators
variable {α : Type}

/-- The length of the longest part. -/
def longest (parts : List (List α)) : Nat := (parts.map List.length).foldr max 0

section Longest
variable {part : List α} {parts others : List (List α)} {n : Nat}

@[simp] theorem longest_nil : longest ([] : List (List α)) = 0 := rfl
@[simp] theorem longest_cons : longest (part :: parts) = max part.length (longest parts) := rfl

theorem longest_append : longest (parts ++ others) = max (longest parts) (longest others) := by
  induction parts with
  | nil => exact (Nat.zero_max _).symm
  | cons part parts ih => rw [List.cons_append, longest_cons, longest_cons, ih, max_assoc]

theorem length_le_longest (mem : part ∈ parts) : part.length ≤ longest parts := by
  obtain ⟨before, behind, rfl⟩ := List.append_of_mem mem
  rw [longest_append, longest_cons]
  exact (le_max_left _ _).trans (le_max_right _ _)

theorem longest_le (bound : ∀ part ∈ parts, part.length ≤ n) : longest parts ≤ n := by
  induction parts with
  | nil => exact Nat.zero_le n
  | cons part parts ih =>
      rw [List.forall_mem_cons] at bound
      exact max_le bound.1 (ih bound.2)

theorem exists_longest (some : parts ≠ []) : ∃ part ∈ parts, part.length = longest parts := by
  induction parts with
  | nil => exact absurd rfl some
  | cons part parts ih =>
      rw [longest_cons]
      rcases le_total (longest parts) part.length with first | later
      · exact ⟨part, List.mem_cons_self, (max_eq_left first).symm⟩
      · cases parts with
        | nil => exact ⟨part, List.mem_cons_self, (max_eq_left (Nat.zero_le _)).symm⟩
        | cons next parts =>
            obtain ⟨found, mem, same⟩ := ih (List.cons_ne_nil _ _)
            exact ⟨found, List.mem_cons_of_mem _ mem, same.trans (max_eq_right later).symm⟩

end Longest

/-- A separator between any two parts. -/
theorem length_intercalate (sep : α) {parts : List (List α)} (some : parts ≠ []) :
    ([sep].intercalate parts).length + 1 = (parts.map List.length).sum + parts.length := by
  induction parts with
  | nil => exact absurd rfl some
  | cons part parts ih =>
      cases parts with
      | nil => simp
      | cons next parts =>
          have rest := ih (List.cons_ne_nil _ _)
          rw [List.intercalate_cons_cons, List.length_append, List.length_append, List.length_singleton, List.map_cons,
            List.sum_cons, List.length_cons]
          omega

section Split
variable [DecidableEq α] {sep : α} {part piece : List α} {parts : List (List α)}

/-- Splitting the joined parts gives the pieces of each part in turn. -/
theorem splitOn_intercalate_pieces (some : parts ≠ []) :
    ([sep].intercalate parts).splitOn sep = parts.flatMap (List.splitOn sep) := by
  induction parts with
  | nil => exact absurd rfl some
  | cons part parts ih =>
      cases parts with
      | nil => rw [List.intercalate_singleton, List.flatMap_cons, List.flatMap_nil, List.append_nil]
      | cons next parts =>
          rw [List.intercalate_cons_cons, List.append_assoc, List.singleton_append, List.splitOn_append_cons_self,
            ih (List.cons_ne_nil _ _)]
          exact List.flatMap_cons.symm

theorem length_le_of_mem_splitOn (mem : piece ∈ part.splitOn sep) : piece.length ≤ part.length := by
  induction part generalizing piece with
  | nil =>
      rw [List.splitOn_nil, List.mem_singleton] at mem
      rw [mem]
  | cons c part ih =>
      rw [List.splitOn_cons_eq_if_modifyHead] at mem
      split at mem
      · rcases List.mem_cons.mp mem with rfl | mem
        · exact Nat.zero_le _
        · exact Nat.le_succ_of_le (ih mem)
      · obtain ⟨first, pieces, split⟩ := List.exists_cons_of_ne_nil (List.splitOn_ne_nil sep part)
        rw [split, List.modifyHead_cons] at mem
        rcases List.mem_cons.mp mem with rfl | mem
        · exact Nat.succ_le_succ (ih (split ▸ List.mem_cons_self))
        · exact Nat.le_succ_of_le (ih (split ▸ List.mem_cons_of_mem _ mem))

/-- Every piece of a part that holds the separator is shorter than the part. -/
theorem length_lt_of_mem_splitOn (cut : sep ∈ part) (mem : piece ∈ part.splitOn sep) : piece.length < part.length := by
  obtain ⟨before, behind, rfl⟩ := List.append_of_mem cut
  rw [List.splitOn_append_cons_self, List.mem_append] at mem
  rw [List.length_append, List.length_cons]
  rcases mem with left | right
  · have short := length_le_of_mem_splitOn left
    omega
  · have short := length_le_of_mem_splitOn right
    omega

/-- The longest piece is as long as the longest part exactly if a longest part is in one piece. -/
theorem longest_pieces_iff (some : parts ≠ []) :
    longest (parts.flatMap (List.splitOn sep)) = longest parts ↔
      ∃ part ∈ parts, part.length = longest parts ∧ sep ∉ part := by
  constructor
  · intro same
    have pieces : parts.flatMap (List.splitOn sep) ≠ [] := by
      obtain ⟨part, rest, rfl⟩ := List.exists_cons_of_ne_nil some
      rw [List.flatMap_cons]
      exact List.append_ne_nil_of_left_ne_nil (List.splitOn_ne_nil sep part) _
    obtain ⟨piece, mem, greatest⟩ := exists_longest pieces
    obtain ⟨part, listed, cut⟩ := List.mem_flatMap.mp mem
    have fits := length_le_longest listed
    have short := length_le_of_mem_splitOn cut
    refine ⟨part, listed, by omega, fun inside => ?_⟩
    have strict := length_lt_of_mem_splitOn inside cut
    omega
  · rintro ⟨part, listed, greatest, whole⟩
    apply le_antisymm
    · refine longest_le fun piece mem => ?_
      obtain ⟨other, listed', cut⟩ := List.mem_flatMap.mp mem
      exact (length_le_of_mem_splitOn cut).trans (length_le_longest listed')
    · rw [← greatest]
      refine length_le_longest (List.mem_flatMap.mpr ⟨part, listed, ?_⟩)
      rw [List.splitOn_eq_singleton whole]
      exact List.mem_cons_self

end Split

/-! ## Two separators in a row -/

def PairAt (sep : α) (text : List α) (i : Nat) : Prop := text[i]? = some sep ∧ text[i + 1]? = some sep

/-- The separators of the text stand between other things. -/
structure Tight (sep : α) (text : List α) : Prop where
  head : text.head? ≠ some sep
  last : text.getLast? ≠ some sep
  apart : ∀ i, ¬ PairAt sep text i

section Pairs
variable {sep x : α} {text before behind : List α} {i : Nat}

theorem pairAt_cons : PairAt sep (x :: text) i ↔
    i = 0 ∧ x = sep ∧ text.head? = some sep ∨ ∃ j, i = j + 1 ∧ PairAt sep text j := by
  cases i with
  | zero => simp [PairAt, List.head?_eq_getElem?]
  | succ i => simp [PairAt]

theorem pairAt_behind (j : Nat) : PairAt sep (before ++ behind) (before.length + j) ↔ PairAt sep behind j := by
  rw [PairAt, PairAt, List.getElem?_append_right (by omega), List.getElem?_append_right (by omega), Nat.add_assoc,
    Nat.add_sub_cancel_left, Nat.add_sub_cancel_left]

/-- A pair is in one of two texts or at their boundary. -/
theorem PairAt.of_append (pair : PairAt sep (before ++ behind) i) :
    PairAt sep before i ∨ before.getLast? = some sep ∧ behind.head? = some sep ∨
      ∃ j, i = before.length + j ∧ PairAt sep behind j := by
  rcases Nat.lt_trichotomy (i + 1) before.length with inside | boundary | past
  · obtain ⟨first, second⟩ := pair
    rw [List.getElem?_append_left (by omega)] at first second
    exact .inl ⟨first, second⟩
  · obtain ⟨first, second⟩ := pair
    rw [List.getElem?_append_left (by omega)] at first
    rw [List.getElem?_append_right (by omega), boundary, Nat.sub_self, ← List.head?_eq_getElem?] at second
    rw [List.getLast?_eq_getElem?, ← boundary, Nat.add_sub_cancel]
    exact .inr (.inl ⟨first, second⟩)
  · obtain ⟨j, rfl⟩ := Nat.exists_eq_add_of_le (Nat.le_of_lt_succ past)
    exact .inr (.inr ⟨j, rfl, (pairAt_behind j).mp pair⟩)

theorem tight_nil : Tight sep [] := ⟨by simp, by simp, fun i pair => by simp [PairAt] at pair⟩

theorem tight_of_notMem (none : sep ∉ text) : Tight sep text := by
  refine ⟨fun head => none (List.mem_of_mem_head? head), fun last => none (List.mem_of_mem_getLast? last), ?_⟩
  rintro i ⟨here, -⟩
  exact none (List.mem_of_getElem? here)

/-- One separator between two texts. -/
theorem Tight.join (left : Tight sep before) (right : Tight sep behind) (some : before ≠ []) (some' : behind ≠ []) :
    Tight sep (before ++ sep :: behind) := by
  refine ⟨?_, ?_, fun i pair => ?_⟩
  · rw [List.head?_append_of_ne_nil _ some]
    exact left.head
  · rw [List.getLast?_append_of_ne_nil _ (List.cons_ne_nil _ _), List.getLast?_cons_of_ne_nil some']
    exact right.last
  · rcases pair.of_append with inside | ⟨last, -⟩ | ⟨j, rfl, inside⟩
    · exact left.apart i inside
    · exact left.last last
    · rcases pairAt_cons.mp inside with ⟨-, -, head⟩ | ⟨k, -, inside⟩
      · exact right.head head
      · exact right.apart k inside

theorem intercalate_ne_nil {parts : List (List α)} (some : parts ≠ []) (nonempty : ∀ part ∈ parts, part ≠ []) :
    [sep].intercalate parts ≠ [] := by
  intro none
  obtain ⟨part, rest, rfl⟩ := List.exists_cons_of_ne_nil some
  have filled := nonempty part List.mem_cons_self
  cases rest with
  | nil => exact filled ((List.intercalate_singleton).symm.trans none)
  | cons next parts =>
      rw [List.intercalate_cons_cons, List.append_assoc] at none
      exact filled (List.append_eq_nil_iff.mp none).1

theorem tight_intercalate {parts : List (List α)} (nonempty : ∀ part ∈ parts, part ≠ [])
    (clean : ∀ part ∈ parts, sep ∉ part) : Tight sep ([sep].intercalate parts) := by
  induction parts with
  | nil => exact tight_nil
  | cons part parts ih =>
      rw [List.forall_mem_cons] at nonempty clean
      cases parts with
      | nil =>
          rw [List.intercalate_singleton]
          exact tight_of_notMem clean.1
      | cons next parts =>
          rw [List.intercalate_cons_cons, List.append_assoc, List.singleton_append]
          exact (tight_of_notMem clean.1).join (ih nonempty.2 clean.2) nonempty.1
            (intercalate_ne_nil (List.cons_ne_nil _ _) nonempty.2)

/-- Between two such texts, a doubled separator is the only pair. -/
theorem Tight.pairAt_iff (left : Tight sep before) (right : Tight sep behind) :
    PairAt sep (before ++ [sep, sep] ++ behind) i ↔ i = before.length := by
  rw [List.append_assoc]
  constructor
  · intro pair
    rcases pair.of_append with inside | ⟨last, -⟩ | ⟨j, rfl, inside⟩
    · exact absurd inside (left.apart i)
    · exact absurd last left.last
    · rcases pairAt_cons.mp inside with ⟨rfl, -, -⟩ | ⟨k, -, inside⟩
      · rfl
      · rcases pairAt_cons.mp inside with ⟨-, -, head⟩ | ⟨m, -, inside⟩
        · exact absurd head right.head
        · exact absurd inside (right.apart m)
  · rintro rfl
    exact (pairAt_behind 0).mpr ⟨rfl, rfl⟩

end Pairs

end Separators
