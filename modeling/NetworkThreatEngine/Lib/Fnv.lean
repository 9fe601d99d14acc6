import Mathlib

/-!
# FNV-1a

The 64-bit hash takes a byte at a time and can be run backwards, so that hashes that are equal before or behind a run of
bytes differ only in it. Two runs of up to five bytes never meet: the prime is `2 ^ 40 + 435`, and in base 435 the
differences of the bytes are too small to carry a multiple of `2 ^ 40`.
-/
namespace Fnv

def OFFSET : UInt64 := 14695981039346656037

def PRIME : UInt64 := 1099511628211

def mix (hash : UInt64) (byte : UInt8) : UInt64 := (hash ^^^ byte.toUInt64) * PRIME

def mixBytes (hash : UInt64) (bytes : List UInt8) : UInt64 := bytes.foldl mix hash

example : mixBytes OFFSET [97] = 0xAF63DC4C8601EC8C := by decide

theorem mixBytes_append (hash : UInt64) (bytes more : List UInt8) :
    mixBytes hash (bytes ++ more) = mixBytes (mixBytes hash bytes) more := List.foldl_append

/-! ## Backwards -/

theorem mul_PRIME_cancel {x y : UInt64} (same : x * PRIME = y * PRIME) : x = y := by
  have inverse : PRIME * 14886173955864302971 = 1 := by decide
  calc x = x * PRIME * 14886173955864302971 := by rw [UInt64.mul_assoc, inverse, UInt64.mul_one]
    _ = y * PRIME * 14886173955864302971 := by rw [same]
    _ = y := by rw [UInt64.mul_assoc, inverse, UInt64.mul_one]

theorem mix_right_cancel {x y : UInt64} {byte : UInt8} (same : mix x byte = mix y byte) : x = y :=
  (UInt64.xor_left_inj byte.toUInt64).mp (mul_PRIME_cancel same)

theorem mixBytes_right_cancel {x y : UInt64} {bytes : List UInt8} (same : mixBytes x bytes = mixBytes y bytes) :
    x = y := by
  induction bytes generalizing x y with
  | nil => exact same
  | cons byte bytes ih => exact mix_right_cancel (ih same)

/-! ## Differences -/

theorem xor_byte_div (hash : UInt64) (byte : UInt8) : (hash ^^^ byte.toUInt64).toNat / 256 = hash.toNat / 256 := by
  have low : byte.toNat >>> 8 = 0 := by
    rw [Nat.shiftRight_eq_div_pow]
    exact Nat.div_eq_of_lt byte.toNat_lt
  have high : (hash.toNat ^^^ byte.toNat) >>> 8 = hash.toNat >>> 8 := by
    rw [Nat.shiftRight_xor_distrib, low, Nat.xor_zero]
  simpa only [UInt64.toNat_xor, UInt8.toNat_toUInt64, Nat.shiftRight_eq_div_pow] using high

theorem mul_PRIME_toNat (x : UInt64) :
    ((x * PRIME).toNat : ℤ) = (2 ^ 40 + 435) * x.toNat - 2 ^ 64 * (x.toNat * 1099511628211 / 2 ^ 64 : ℕ) := by
  have product : (x * PRIME).toNat = x.toNat * 1099511628211 % 2 ^ 64 := UInt64.toNat_mul x PRIME
  omega

def difference (x y : UInt64) : ℤ := x.toNat - y.toNat

theorem difference_first (hash : UInt64) (a b : UInt8) :
    |difference (hash ^^^ a.toUInt64) (hash ^^^ b.toUInt64)| ≤ 255 := by
  have left := xor_byte_div hash a
  have right := xor_byte_div hash b
  rw [difference, abs_le]
  omega

/-- From one byte to the next a difference grows by the prime, but for what the bytes change. -/
theorem difference_step (x y : UInt64) (a b : UInt8) :
    ∃ e m : ℤ, |e| ≤ 510 ∧ difference (x * PRIME ^^^ a.toUInt64) (y * PRIME ^^^ b.toUInt64) =
      (2 ^ 40 + 435) * difference x y + e + m * 2 ^ 64 := by
  have left := xor_byte_div (x * PRIME) a
  have right := xor_byte_div (y * PRIME) b
  have mulX := mul_PRIME_toNat x
  have mulY := mul_PRIME_toNat y
  refine ⟨difference (x * PRIME ^^^ a.toUInt64) (x * PRIME) - difference (y * PRIME ^^^ b.toUInt64) (y * PRIME),
    (y.toNat * 1099511628211 / 2 ^ 64 : ℕ) - (x.toNat * 1099511628211 / 2 ^ 64 : ℕ), ?_, ?_⟩
  · rw [abs_le]
    unfold difference
    omega
  · unfold difference
    linarith

/-- States that a last byte makes equal differed by less than a byte. -/
theorem difference_last {x y : UInt64} {a b : UInt8} (same : x * PRIME ^^^ a.toUInt64 = y * PRIME ^^^ b.toUInt64) :
    ∃ f m : ℤ, |f| ≤ 255 ∧ (2 ^ 40 + 435) * difference x y + f + m * 2 ^ 64 = 0 := by
  have left := xor_byte_div (x * PRIME) a
  have right := xor_byte_div (y * PRIME) b
  rw [same] at left
  have mulX := mul_PRIME_toNat x
  have mulY := mul_PRIME_toNat y
  refine ⟨difference (y * PRIME) (x * PRIME),
    (y.toNat * 1099511628211 / 2 ^ 64 : ℕ) - (x.toNat * 1099511628211 / 2 ^ 64 : ℕ), ?_, ?_⟩
  · rw [difference, abs_le]
    omega
  · unfold difference
    linarith

/-! ## Five bytes -/

/-- A digit at a place where the places below amount to at most `rest`: `t` chooses between the three there can be. -/
def digit (total place rest : ℤ) (t : Fin 3) : ℤ := (total + rest) / place - t

theorem exists_digit {total place rest c : ℤ} (positive : 0 < place) (few : 4 * rest < 5 * place)
    (small : |total - place * c| ≤ rest) : ∃ t, c = digit total place rest t := by
  obtain ⟨below, above⟩ := abs_le.mp small
  have most : c ≤ (total + rest) / place := (Int.le_ediv_iff_mul_le positive).mpr (by linarith)
  have least : (total + rest) / place < c + 3 := (Int.ediv_lt_iff_lt_mul positive).mpr (by linarith)
  refine ⟨⟨((total + rest) / place - c).toNat, by omega⟩, ?_⟩
  unfold digit
  dsimp only
  omega

/-- The ways to write a small multiple `k` of `2 ^ 40` in base 435: where the terms with `2 ^ 40` agree with `k`, the
leading digit is zero. -/
theorem leading_digit : ∀ i : Fin 17, ∀ t t' t'' : Fin 3,
    let k : ℤ := i - 8
    let d := digit (k * 2 ^ 40) (435 ^ 4) 42077225730 t
    let e := digit (k * 2 ^ 40 - 435 ^ 4 * d) (435 ^ 3) 96726855 t'
    let e' := digit (k * 2 ^ 40 - 435 ^ 4 * d - 435 ^ 3 * e) (435 ^ 2) 222105 t''
    let e'' := (510 - (4 * 435 ^ 3 * d + 3 * 435 ^ 2 * e + 2 * 435 * e' + k)) % 2 ^ 24 - 510
    |k * 2 ^ 40 - 435 ^ 4 * d - 435 ^ 3 * e - 435 ^ 2 * e' - 435 * e''| ≤ 255 → d = 0 := by decide +kernel

theorem difference_zero {d e e' e'' f m : ℤ} (hd : |d| ≤ 255) (he : |e| ≤ 510) (he' : |e'| ≤ 510) (he'' : |e''| ≤ 510)
    (hf : |f| ≤ 255) (meet : (2 ^ 40 + 435) * ((2 ^ 40 + 435) * ((2 ^ 40 + 435) * ((2 ^ 40 + 435) * d + e) + e') + e'') + f =
      m * 2 ^ 64) : d = 0 := by
  rw [abs_le] at hd he he' he'' hf
  obtain ⟨k, low⟩ : ∃ k, 435 ^ 4 * d + 435 ^ 3 * e + 435 ^ 2 * e' + 435 * e'' + f = k * 2 ^ 40 := by
    refine ⟨(435 ^ 4 * d + 435 ^ 3 * e + 435 ^ 2 * e' + 435 * e'' + f) / 2 ^ 40, ?_⟩
    omega
  obtain ⟨n, high⟩ : ∃ n, 4 * 435 ^ 3 * d + 3 * 435 ^ 2 * e + 2 * 435 * e' + e'' + k = n * 2 ^ 24 := by
    refine ⟨(4 * 435 ^ 3 * d + 3 * 435 ^ 2 * e + 2 * 435 * e' + e'' + k) / 2 ^ 24, ?_⟩
    omega
  clear meet
  have range : -8 ≤ k ∧ k ≤ 8 := by omega
  obtain ⟨t, first⟩ : ∃ t, d = digit (k * 2 ^ 40) (435 ^ 4) 42077225730 t :=
    exists_digit (by norm_num) (by norm_num) (abs_le.mpr (by omega))
  obtain ⟨t', second⟩ : ∃ t, e = digit (k * 2 ^ 40 - 435 ^ 4 * d) (435 ^ 3) 96726855 t :=
    exists_digit (by norm_num) (by norm_num) (abs_le.mpr (by omega))
  obtain ⟨t'', third⟩ : ∃ t, e' = digit (k * 2 ^ 40 - 435 ^ 4 * d - 435 ^ 3 * e) (435 ^ 2) 222105 t :=
    exists_digit (by norm_num) (by norm_num) (abs_le.mpr (by omega))
  have fourth : e'' = (510 - (4 * 435 ^ 3 * d + 3 * 435 ^ 2 * e + 2 * 435 * e' + k)) % 2 ^ 24 - 510 := by omega
  have index : (((k + 8).toNat : ℕ) : ℤ) - 8 = k := by omega
  have zero := leading_digit ⟨(k + 8).toNat, by omega⟩ t t' t''
  dsimp only at zero
  rw [index, ← first, ← second, ← third, ← fourth] at zero
  exact zero (abs_le.mpr (by omega))

/-- The first bytes of runs of five bytes that have the same hash are equal. -/
theorem mixBytes_five {hash : UInt64} {a a₁ a₂ a₃ a₄ b b₁ b₂ b₃ b₄ : UInt8}
    (same : mixBytes hash [a, a₁, a₂, a₃, a₄] = mixBytes hash [b, b₁, b₂, b₃, b₄]) : a = b := by
  let x := hash ^^^ a.toUInt64
  let y := hash ^^^ b.toUInt64
  let x₁ := x * PRIME ^^^ a₁.toUInt64
  let y₁ := y * PRIME ^^^ b₁.toUInt64
  let x₂ := x₁ * PRIME ^^^ a₂.toUInt64
  let y₂ := y₁ * PRIME ^^^ b₂.toUInt64
  obtain ⟨e, m, he, second⟩ : ∃ e m : ℤ, |e| ≤ 510 ∧ difference x₁ y₁ = _ := difference_step x y a₁ b₁
  obtain ⟨e', m', he', third⟩ : ∃ e m : ℤ, |e| ≤ 510 ∧ difference x₂ y₂ = _ := difference_step x₁ y₁ a₂ b₂
  let x₃ := x₂ * PRIME ^^^ a₃.toUInt64
  let y₃ := y₂ * PRIME ^^^ b₃.toUInt64
  have met : x₃ * PRIME ^^^ a₄.toUInt64 = y₃ * PRIME ^^^ b₄.toUInt64 := mul_PRIME_cancel same
  obtain ⟨e'', m'', he'', fourth⟩ : ∃ e m : ℤ, |e| ≤ 510 ∧ difference x₃ y₃ = _ := difference_step x₂ y₂ a₃ b₃
  obtain ⟨f, n, hf, last⟩ := difference_last met
  rw [fourth, third, second] at last
  have first : |difference x y| ≤ 255 := difference_first hash a b
  have zero := difference_zero
    (m := -((2 ^ 40 + 435) ^ 3 * m + (2 ^ 40 + 435) ^ 2 * m' + (2 ^ 40 + 435) * m'' + n)) first he he' he'' hf
    (by linear_combination last)
  have states : x = y := by
    rw [difference] at zero
    exact UInt64.toNat_inj.mp (by omega)
  exact UInt8.toUInt64_inj.mp ((UInt64.xor_right_inj hash).mp states)

theorem length_padded (bytes : List UInt8) (short : bytes.length ≤ 4) :
    (bytes ++ List.replicate (4 - bytes.length) 0).length = 4 := by
  rw [List.length_append, List.length_replicate]
  omega

theorem mixBytes_left_cancel {hash : UInt64} {as bs : List UInt8} (long : as.length = bs.length) (short : as.length ≤ 5)
    (same : mixBytes hash as = mixBytes hash bs) : as = bs := by
  induction as generalizing hash bs with
  | nil => exact (List.length_eq_zero_iff.mp long.symm).symm
  | cons a as ih =>
      cases bs with
      | nil => cases long
      | cons b bs =>
          rw [List.length_cons, List.length_cons, Nat.add_right_cancel_iff] at long
          rw [List.length_cons] at short
          -- zeros behind both runs make them five bytes long
          obtain ⟨a₁, a₂, a₃, a₄, zeros⟩ := List.length_eq_four.mp (length_padded as (by omega))
          obtain ⟨b₁, b₂, b₃, b₄, zeros'⟩ := List.length_eq_four.mp (length_padded bs (by omega))
          have padded : mixBytes hash (a :: (as ++ List.replicate (4 - as.length) 0)) =
              mixBytes hash (b :: (bs ++ List.replicate (4 - bs.length) 0)) := by
            rw [← List.cons_append, ← List.cons_append, mixBytes_append, mixBytes_append, same, long]
          rw [zeros, zeros'] at padded
          obtain rfl := mixBytes_five padded
          rw [ih long (by omega) same]

/-- Runs of up to five bytes between the same bytes never have the same hash. -/
theorem mixBytes_middle_cancel {hash : UInt64} {before behind as bs : List UInt8} (long : as.length = bs.length)
    (short : as.length ≤ 5)
    (same : mixBytes hash (before ++ as ++ behind) = mixBytes hash (before ++ bs ++ behind)) : as = bs := by
  rw [mixBytes_append, mixBytes_append hash (before ++ bs)] at same
  have reached := mixBytes_right_cancel same
  rw [mixBytes_append, mixBytes_append] at reached
  exact mixBytes_left_cancel long short reached

end Fnv
