import Mathlib

/-!
# Lines ended by CR LF

A text is cut at each CR LF, from the left. The last piece is what stands behind the last of them, a line
that is not ended.
-/
namespace Lines

def crlf : List UInt8 := [13, 10]

/-- The lines of a text; there is always a last one, which may be empty. -/
def lines : List UInt8 → List (List UInt8)
  | [] => [[]]
  | [c] => [[c]]
  | c :: d :: rest => if c = 13 ∧ d = 10 then [] :: lines rest else (lines (d :: rest)).modifyHead (c :: ·)

variable {c : UInt8} {line rest s : List UInt8}

/-- No line end starts at the first byte: the byte belongs to the line of those behind it. -/
theorem lines_cons (s : List UInt8) (some : s ≠ []) (inside : ¬ crlf <+: c :: s) :
    lines (c :: s) = (lines s).modifyHead (c :: ·) := by
  cases s with
  | nil => exact absurd rfl some
  | cons d rest =>
      refine if_neg fun here => inside ?_
      rw [here.1, here.2]
      exact List.prefix_append crlf rest

/-- A line end among the bytes behind the first one is a line end of the whole. -/
theorem not_infix_tail (inside : ¬ crlf <:+: c :: s) : ¬ crlf <+: c :: s ∧ ¬ crlf <:+: s :=
  ⟨fun here => inside here.isInfix, fun later => inside (later.trans (List.suffix_cons c s).isInfix)⟩

/-- A line that is not ended is the only one. -/
theorem lines_open (inside : ¬ crlf <:+: s) : lines s = [s] := by
  induction s with
  | nil => rfl
  | cons c s ih =>
      have apart := not_infix_tail inside
      cases s with
      | nil => rfl
      | cons d rest =>
          rw [lines_cons _ (List.cons_ne_nil d rest) apart.1, ih apart.2]
          rfl

/-- The first line end is where the line stops, whatever stands behind. -/
theorem not_prefix_line (inside : ¬ crlf <:+: c :: line) : ¬ crlf <+: c :: (line ++ crlf ++ rest) := by
  cases line with
  | nil =>
      intro here
      have second := (List.cons_prefix_cons.mp (List.cons_prefix_cons.mp here).2).1
      exact absurd second (by decide)
  | cons d line =>
      intro here
      obtain ⟨rfl, tail⟩ := List.cons_prefix_cons.mp here
      obtain ⟨rfl, -⟩ := List.cons_prefix_cons.mp tail
      exact inside (List.prefix_append crlf line).isInfix

theorem lines_ended (inside : ¬ crlf <:+: line) : lines (line ++ crlf ++ rest) = line :: lines rest := by
  induction line with
  | nil => rfl
  | cons c line ih =>
      have apart := not_infix_tail inside
      rw [List.cons_append, List.cons_append, lines_cons _ (by simp [crlf]) (not_prefix_line inside), ih apart.2]
      rfl

/-- A text is one line that is not ended, or a line, its end and another text. -/
theorem ended_or_open (s : List UInt8) :
    (∃ line rest, s = line ++ crlf ++ rest ∧ ¬ crlf <:+: line) ∨ ¬ crlf <:+: s := by
  induction s with
  | nil => exact .inr (by decide)
  | cons c s ih =>
      by_cases here : crlf <+: c :: s
      · obtain ⟨rest, split⟩ := here
        exact .inl ⟨[], rest, split.symm, by decide⟩
      · rcases ih with ⟨line, rest, rfl, inside⟩ | inside
        · refine .inl ⟨c :: line, rest, rfl, fun found => ?_⟩
          rcases List.infix_cons_iff.mp found with first | later
          · refine here (first.trans ?_)
            rw [List.append_assoc]
            exact List.prefix_append (c :: line) _
          · exact inside later
        · refine .inr fun found => ?_
          rcases List.infix_cons_iff.mp found with first | later
          · exact here first
          · exact inside later

/-- Ended lines are what they were before, whatever stands behind them. -/
theorem lines_block (block : List (List UInt8)) (whole : ∀ line ∈ block, ¬ crlf <:+: line) :
    lines (block.flatMap (· ++ crlf) ++ rest) = block ++ lines rest := by
  induction block with
  | nil => rfl
  | cons line block ih =>
      rw [List.forall_mem_cons] at whole
      rw [List.flatMap_cons, List.append_assoc, lines_ended whole.1, ih whole.2, List.cons_append]

/-- A byte that is in no line end keeps what stands around it apart. -/
theorem not_infix_around (notCr : c ≠ 13) (notLf : c ≠ 10) (left : ¬ crlf <:+: line) (right : ¬ crlf <:+: rest) :
    ¬ crlf <:+: line ++ c :: rest := by
  induction line with
  | nil =>
      intro found
      rcases List.infix_cons_iff.mp found with first | later
      · exact notCr (List.cons_prefix_cons.mp first).1.symm
      · exact right later
  | cons d line ih =>
      have apart := not_infix_tail left
      intro found
      rcases List.infix_cons_iff.mp found with first | later
      · obtain ⟨rfl, tail⟩ := List.cons_prefix_cons.mp first
        cases line with
        | nil => exact notLf (List.cons_prefix_cons.mp tail).1.symm
        | cons e line =>
            obtain ⟨rfl, -⟩ := List.cons_prefix_cons.mp tail
            exact apart.1 (List.prefix_append crlf line)
      · exact ih apart.2 later

end Lines
