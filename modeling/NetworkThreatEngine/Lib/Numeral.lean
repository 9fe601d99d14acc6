import Mathlib

/-!
# Positional numerals as text

Printing a natural number in a base of at most sixteen with lower-case digits and no
leading zero, and reading a run of digits back.
-/
namespace Numeral

def digitChar (d : Nat) : UInt8 := UInt8.ofNat (if d < 10 then 48 + d else 87 + d)

def digitValue (c : UInt8) : Option Nat :=
  if 48 ≤ c ∧ c ≤ 57 then some (c.toNat - 48)
  else if 97 ≤ c ∧ c ≤ 102 then some (c.toNat - 87)
  else if 65 ≤ c ∧ c ≤ 70 then some (c.toNat - 55)
  else none

def isDigit (b : Nat) (c : UInt8) : Bool := (digitValue c).any (· < b)

def numeral (b n : Nat) : List UInt8 :=
  if n = 0 then [digitChar 0] else (Nat.digits b n).reverse.map digitChar

def value (b : Nat) (text : List UInt8) : Nat :=
  text.foldl (fun acc c => acc * b + (digitValue c).getD 0) 0

theorem digitValue_digitChar : ∀ d < 16, digitValue (digitChar d) = some d := by decide

theorem isDigit_digitChar {b d : Nat} (hd : d < b) (hb : b ≤ 16) : isDigit b (digitChar d) = true := by
  simp [isDigit, digitValue_digitChar d (by omega), hd]

theorem isDigit_iff {b : Nat} {c : UInt8} : isDigit b c = true ↔ ∃ d, digitValue c = some d ∧ d < b := by
  cases h : digitValue c with
  | none => simp [isDigit, h]
  | some d => simp [isDigit, h]

theorem numeral_ne_nil (b n : Nat) : numeral b n ≠ [] := by
  unfold numeral
  split
  · simp
  · rename_i h
    simpa [Nat.digits_eq_nil_iff_eq_zero] using h

theorem numeral_isDigit {b n : Nat} (hb : 1 < b) (hb' : b ≤ 16) {c : UInt8} (hc : c ∈ numeral b n) :
    isDigit b c = true := by
  unfold numeral at hc
  split at hc
  · rw [List.mem_singleton] at hc
    subst hc
    exact isDigit_digitChar (by omega) hb'
  · obtain ⟨d, hd, rfl⟩ := List.mem_map.mp hc
    exact isDigit_digitChar (Nat.digits_lt_base hb (List.mem_reverse.mp hd)) hb'

/-- Reading a printed numeral gives the number back. -/
theorem value_numeral {b : Nat} (hb : 1 < b) (hb' : b ≤ 16) (n : Nat) :
    value b (numeral b n) = n := by
  unfold numeral
  split
  · rename_i h
    simp [value, h, digitValue_digitChar 0 (by omega)]
  · have fold : ∀ ds : List Nat, (∀ d ∈ ds, d < 16) →
        ds.foldr (fun d acc => acc * b + (digitValue (digitChar d)).getD 0) 0 = Nat.ofDigits b ds := by
      intro ds hds
      induction ds with
      | nil => rfl
      | cons d ds ih =>
          rw [List.foldr_cons, ih (fun x hx => hds x (List.mem_cons_of_mem d hx)), Nat.ofDigits_cons,
            digitValue_digitChar d (hds d List.mem_cons_self)]
          simp [Nat.mul_comm, Nat.add_comm]
    rw [value, List.foldl_map, List.foldl_reverse, fold, Nat.ofDigits_digits]
    intro d hd
    exact Nat.lt_of_lt_of_le (Nat.digits_lt_base hb hd) hb'

theorem numeral_length_le {b n k : Nat} (hb : 1 < b) (hk : 0 < k) (hn : n < b ^ k) :
    (numeral b n).length ≤ k := by
  unfold numeral
  split
  · exact hk
  · simpa using (Nat.digits_length_le_iff hb n).mpr hn

/-! ## Reading the leading run of digits -/

def leadingDigits (b : Nat) (text : List UInt8) : List UInt8 := text.takeWhile (isDigit b)

theorem leadingDigits_numeral_append {b : Nat} (hb : 1 < b) (hb' : b ≤ 16) (n : Nat)
    (rest : List UInt8) (stop : ∀ c ∈ rest.head?, isDigit b c = false) :
    leadingDigits b (numeral b n ++ rest) = numeral b n := by
  have digits : ∀ c ∈ numeral b n, isDigit b c = true := fun c hc => numeral_isDigit hb hb' hc
  rw [leadingDigits, List.takeWhile_append_of_pos digits]
  cases rest with
  | nil => simp
  | cons c rest => simp [stop c rfl]

end Numeral
