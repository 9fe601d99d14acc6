import NetworkThreatEngine.Lib.KeyedStore

/-!
# Rate meters

An entry weighs its inputs from the time at which it was opened. The first input that finds it old enough reads it and
opens it anew. Inputs that keep up a pace are read at no less than their pace, once an entry has been opened and read
among them.
-/
namespace Meters
open KeyedStore
variable {κ ι ε ρ τ : Type}

/-- What an input that reads the entry leaves in it is its `opening`: nothing, if the input was counted in the reading. -/
structure Meter (m : Engine κ ι ε ρ) (span : τ → τ → ℚ) (time : ι → τ) (weight : ι → ℚ) (age : ℚ) where
  start : ε → τ
  amount : ε → ℚ
  opening : ℚ
  young : ∀ e i, span (time i) (start e) < age →
    start (m.work e i).2 = start e ∧ amount (m.work e i).2 = amount e + weight i
  old : ∀ e i, age ≤ span (time i) (start e) → start (m.work e i).2 = time i ∧ amount (m.work e i).2 = opening

/-- What inputs leave of an entry. -/
def leaves (m : Engine κ ι ε ρ) (e : ε) (is : List ι) : ε := is.foldl (fun e i => (m.work e i).2) e

theorem own_append_cons (m : Engine κ ι ε ρ) (before : List ι) (i : ι) (is : List ι) :
    m.own (before ++ i :: is) = some (leaves m ((m.own before).getD (m.create i)) (i :: is)) := by
  induction is using List.reverseRecOn with
  | nil => exact m.own_snoc before i
  | append_singleton is j ih =>
      rw [← List.cons_append, ← List.append_assoc, Engine.own_snoc, ih, leaves, leaves, List.foldl_concat]
      rfl

/-- The entry that an input of a run finds, from the one that the first of the run finds. -/
theorem found_in_run (m : Engine κ ι ε ρ) (before : List ι) {first i : ι} {rest front back : List ι}
    (split : first :: rest = front ++ i :: back) :
    (m.own (before ++ front)).getD (m.create i) = leaves m ((m.own before).getD (m.create first)) front := by
  cases front with
  | nil =>
      obtain ⟨rfl, -⟩ := List.cons.inj split
      rw [List.append_nil]
      rfl
  | cons j front =>
      obtain ⟨rfl, -⟩ := List.cons.inj split
      rw [own_append_cons]
      rfl

namespace Meter
variable {m : Engine κ ι ε ρ} {span : τ → τ → ℚ} {time : ι → τ} {weight : ι → ℚ} {age : ℚ}
variable (M : Meter m span time weight age)

/-- The input reads the entry. -/
def Reads (e : ε) (i : ι) : Prop := age ≤ span (time i) (M.start e)

/-- What it reads: it is part of that itself, if it does not open the next window. -/
def reading (e : ε) (i : ι) : ℚ := M.amount e + weight i - M.opening

/-- An input weighs enough for the time since another one. -/
def Pace (span : τ → τ → ℚ) (time : ι → τ) (weight : ι → ℚ) (rate : ℚ) (i j : ι) : Prop :=
  rate * span (time j) (time i) ≤ weight j

/-- Up to its last input an entry has been kept to the pace. -/
def Paid (rate : ℚ) (e : ε) (last : ι) : Prop := rate * span (time last) (M.start e) + M.opening ≤ M.amount e

/-- A reading among the inputs that is no less than the rate, of an entry in good order. -/
def ReadIn (rate : ℚ) (good : ε → Prop) (e : ε) (is : List ι) : Prop :=
  ∃ front i back, is = front ++ i :: back ∧ M.Reads (leaves m e front) i ∧ good (leaves m e front) ∧
    rate * span (time i) (M.start (leaves m e front)) ≤ M.reading (leaves m e front) i

variable {M} {rate : ℚ} {good : ε → Prop} {e : ε} {i last : ι} {is : List ι}

theorem ReadIn.cons (h : M.ReadIn rate good (m.work e i).2 is) : M.ReadIn rate good e (i :: is) := by
  obtain ⟨front, j, back, rfl, found⟩ := h
  exact ⟨i :: front, j, back, rfl, found⟩

variable (additive : ∀ a b c, span c a = span c b + span b a)
include additive

theorem Paid.reading (paid : M.Paid rate e last) (pace : Pace span time weight rate last i) :
    rate * span (time i) (M.start e) ≤ M.reading e i := by
  unfold Paid at paid
  unfold Pace at pace
  rw [Meter.reading, additive (M.start e) (time last), mul_add]
  linarith

theorem Paid.young (paid : M.Paid rate e last) (pace : Pace span time weight rate last i)
    (young : ¬ M.Reads e i) : M.Paid rate (m.work e i).2 i := by
  obtain ⟨start, amount⟩ := M.young e i (not_le.mp young)
  have read := paid.reading additive pace
  rw [Meter.reading] at read
  rw [Paid, start, amount]
  linarith

theorem paid_of_reads (reads : M.Reads e i) : M.Paid rate (m.work e i).2 i := by
  obtain ⟨start, amount⟩ := M.old e i reads
  have none : span (time i) (time i) = 0 := by linarith [additive (time i) (time i) (time i)]
  rw [Paid, start, amount, none, mul_zero, zero_add]

/-- Once the entry has been kept to the pace, the next input that finds it old enough reads no less. -/
theorem Paid.readIn (paid : M.Paid rate e last) (fine : good e)
    (paced : (last :: is).IsChain (Pace span time weight rate))
    (kept : ∀ e, ∀ i ∈ is, good e → good (m.work e i).2) (due : ∃ i ∈ is, M.Reads e i) : M.ReadIn rate good e is := by
  induction is generalizing e last with
  | nil => simp at due
  | cons i is ih =>
      rw [List.isChain_cons_cons] at paced
      by_cases reads : M.Reads e i
      · exact ⟨[], i, is, rfl, reads, fine, paid.reading additive paced.1⟩
      · obtain ⟨j, mem, late⟩ := due
        obtain ⟨start, -⟩ := M.young e i (not_le.mp reads)
        refine (ih (paid.young additive paced.1 reads) (kept e i List.mem_cons_self fine) paced.2 ?_ ⟨j, ?_, ?_⟩).cons
        · exact fun e j mem => kept e j (List.mem_cons_of_mem i mem)
        · rcases List.mem_cons.mp mem with rfl | later
          · exact absurd late reads
          · exact later
        · rw [Reads, start]
          exact late

/-- The same from an input on that reads the entry. -/
theorem readIn_of_reads (reads : M.Reads e i) (paced : (i :: is).IsChain (Pace span time weight rate))
    (kept : ∀ e, ∀ j ∈ i :: is, good e ∨ M.Reads e j → good (m.work e j).2)
    (long : ∃ j ∈ is, age ≤ span (time j) (time i)) : M.ReadIn rate good e (i :: is) := by
  obtain ⟨j, mem, late⟩ := long
  obtain ⟨start, -⟩ := M.old e i reads
  refine (Paid.readIn additive (paid_of_reads additive reads) (kept e i List.mem_cons_self (.inr reads)) paced ?_
    ⟨j, mem, ?_⟩).cons
  · exact fun e j mem fine => kept e j (List.mem_cons_of_mem i mem) (.inl fine)
  · rw [Reads, start]
    exact late

/-- Inputs in the order of time: one finds the entry old enough, and another one comes as long after it. -/
theorem readIn_of_long {early late : List ι} (paced : (early ++ i :: late).IsChain (Pace span time weight rate))
    (kept : ∀ e, ∀ j ∈ early ++ i :: late, good e ∨ M.Reads e j → good (m.work e j).2)
    (ordered : ∀ j ∈ early, 0 ≤ span (time i) (time j)) (reads : M.Reads e i)
    (long : ∃ j ∈ late, age ≤ span (time j) (time i)) : M.ReadIn rate good e (early ++ i :: late) := by
  induction early generalizing e with
  | nil => exact readIn_of_reads additive reads paced kept long
  | cons k early ih =>
      by_cases first : M.Reads e k
      · refine readIn_of_reads additive first paced kept ?_
        obtain ⟨j, mem, late⟩ := long
        refine ⟨j, by simp [mem], ?_⟩
        rw [additive (time k) (time i) (time j)]
        exact late.trans (le_add_of_nonneg_right (ordered k List.mem_cons_self))
      · obtain ⟨start, -⟩ := M.young e k (not_le.mp first)
        refine (ih paced.of_cons ?_ ?_ ?_).cons
        · exact fun e j mem => kept e j (List.mem_cons_of_mem k mem)
        · exact fun j mem => ordered j (List.mem_cons_of_mem k mem)
        · rw [Reads, start]
          exact reads

/-- The same of the entry that an engine keeps of its inputs, whatever came before. -/
theorem exists_reading {before early late : List ι}
    (paced : (early ++ i :: late).IsChain (Pace span time weight rate))
    (kept : ∀ e, ∀ j ∈ early ++ i :: late, good e ∨ M.Reads e j → good (m.work e j).2)
    (ordered : ∀ j ∈ early, 0 ≤ span (time i) (time j))
    (reads : ∃ first ∈ (early ++ i :: late).head?, M.Reads ((m.own before).getD (m.create first)) i)
    (long : ∃ j ∈ late, age ≤ span (time j) (time i)) :
    ∃ front j back e, early ++ i :: late = front ++ j :: back ∧ (m.own (before ++ front)).getD (m.create j) = e ∧
      M.Reads e j ∧ good e ∧ rate * span (time j) (M.start e) ≤ M.reading e j := by
  obtain ⟨first, head, reads⟩ := reads
  obtain ⟨rest, inputs⟩ := List.head?_eq_some_iff.mp head
  obtain ⟨front, j, back, split, found⟩ := readIn_of_long additive paced kept ordered reads long
  refine ⟨front, j, back, _, split, ?_, found⟩
  rw [inputs] at split
  exact found_in_run m before split

end Meter

end Meters
