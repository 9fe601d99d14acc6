import Mathlib

/-!
# Bounded reads of a byte buffer

A parser over a buffer ends in one of three ways: it returns a value, it turns the
input down, or it touches something outside its bounds. The third way is `fault`;
reads, slices and unsigned subtractions produce it exactly when they leave their
range, and a loop produces it when its fuel runs out. A parser is safe when `fault`
is not among its outcomes.
-/
namespace ByteReader

inductive Outcome (α : Type) where
  | ok (value : α)
  | reject
  | fault
  deriving DecidableEq, Repr

namespace Outcome
variable {α β : Type}

def bind (x : Outcome α) (f : α → Outcome β) : Outcome β :=
  match x with
  | .ok a => f a
  | .reject => .reject
  | .fault => .fault

instance : Monad Outcome where
  pure := .ok
  bind := bind

@[simp] theorem pure_eq (a : α) : (pure a : Outcome α) = .ok a := rfl
@[simp] theorem ok_bind (a : α) (f : α → Outcome β) : (Outcome.ok a >>= f) = f a := rfl
@[simp] theorem reject_bind (f : α → Outcome β) :
    ((Outcome.reject : Outcome α) >>= f) = .reject := rfl
@[simp] theorem fault_bind (f : α → Outcome β) :
    ((Outcome.fault : Outcome α) >>= f) = .fault := rfl

theorem bind_eq_ok {x : Outcome α} {f : α → Outcome β} {b : β} :
    (x >>= f) = .ok b ↔ ∃ a, x = .ok a ∧ f a = .ok b := by
  cases x with
  | ok a => simp
  | reject => simp
  | fault => simp

/-- No access, subtraction or loop of the computation left its bounds. -/
def Safe (x : Outcome α) : Prop := x ≠ .fault

@[simp] theorem safe_ok (a : α) : Safe (.ok a) := by simp [Safe]
@[simp] theorem safe_reject : Safe (.reject : Outcome α) := by simp [Safe]
@[simp] theorem not_safe_fault : ¬ Safe (.fault : Outcome α) := by simp [Safe]

/-- The rule for sequencing: the continuation has to be safe only at values that arise. -/
theorem Safe.bind {x : Outcome α} {f : α → Outcome β} (hx : Safe x)
    (hf : ∀ a, x = .ok a → Safe (f a)) : Safe (x >>= f) := by
  cases x with
  | ok a => exact hf a rfl
  | reject => exact safe_reject
  | fault => exact absurd rfl hx

theorem Safe.ite {c : Prop} [Decidable c] {x y : Outcome α} (hx : c → Safe x) (hy : ¬ c → Safe y) :
    Safe (if c then x else y) := by
  split
  · exact hx ‹_›
  · exact hy ‹_›

/-- The computation ends with a value. -/
def Returns (x : Outcome α) : Prop := ∃ a, x = .ok a

@[simp] theorem returns_ok (a : α) : Returns (.ok a) := ⟨a, rfl⟩

theorem Returns.safe {x : Outcome α} (h : Returns x) : Safe x := by
  obtain ⟨a, rfl⟩ := h
  exact safe_ok a

theorem Returns.bind {x : Outcome α} {f : α → Outcome β} (hx : Returns x)
    (hf : ∀ a, Returns (f a)) : Returns (x >>= f) := by
  obtain ⟨a, rfl⟩ := hx
  exact hf a

theorem Returns.ite {c : Prop} [Decidable c] {x y : Outcome α} (hx : c → Returns x)
    (hy : ¬ c → Returns y) : Returns (if c then x else y) := by
  split
  · exact hx ‹_›
  · exact hy ‹_›

/-- Whatever value the computation ends with satisfies `P`. -/
def Ensures (x : Outcome α) (P : α → Prop) : Prop := ∀ a, x = .ok a → P a

theorem ensures_ok {a : α} {P : α → Prop} (h : P a) : Ensures (.ok a) P := by
  rintro _ ⟨⟩
  exact h

theorem Ensures.bind {x : Outcome α} {f : α → Outcome β} {P : β → Prop}
    (hf : ∀ a, x = .ok a → Ensures (f a) P) : Ensures (x >>= f) P := by
  intro b hb
  obtain ⟨a, ha, hab⟩ := bind_eq_ok.mp hb
  exact hf a ha b hab

theorem Ensures.ite {c : Prop} [Decidable c] {x y : Outcome α} {P : α → Prop} (hx : c → Ensures x P)
    (hy : ¬ c → Ensures y P) : Ensures (if c then x else y) P := by
  split
  · exact hx ‹_›
  · exact hy ‹_›

theorem Ensures.mono {x : Outcome α} {P Q : α → Prop} (hx : Ensures x P) (h : ∀ a, P a → Q a) :
    Ensures x Q := fun a ha => h a (hx a ha)

end Outcome

open Outcome

/-! ## Reads -/

/-- One byte; `fault` outside the buffer. -/
def byteAt (b : List UInt8) (i : Nat) : Outcome UInt8 :=
  match b[i]? with
  | some c => .ok c
  | none => .fault

/-- A copy of `n` bytes from `off`; `fault` when any of them is outside the buffer. -/
def slice (b : List UInt8) (off n : Nat) : Outcome (List UInt8) :=
  if off + n ≤ b.length then .ok ((b.drop off).take n) else .fault

/-- Unsigned subtraction; `fault` where the machine's would wrap around. -/
def sub (m n : Nat) : Outcome Nat := if n ≤ m then .ok (m - n) else .fault

theorem byteAt_of_lt {b : List UInt8} {i : Nat} (h : i < b.length) : byteAt b i = .ok b[i] := by
  simp [byteAt, List.getElem?_eq_getElem h]

theorem byteAt_ok_lt {b : List UInt8} {i : Nat} {c : UInt8} (h : byteAt b i = .ok c) :
    i < b.length := by
  by_contra hi
  simp [byteAt, List.getElem?_eq_none (Nat.le_of_not_lt hi)] at h

theorem byteAt_safe {b : List UInt8} {i : Nat} (h : i < b.length) : Safe (byteAt b i) := by
  simp [byteAt_of_lt h]

theorem slice_of_le {b : List UInt8} {off n : Nat} (h : off + n ≤ b.length) :
    slice b off n = .ok ((b.drop off).take n) := if_pos h

/-- A slice taken has the length asked for. -/
theorem slice_ok {b bytes : List UInt8} {off n : Nat} (h : slice b off n = .ok bytes) :
    bytes = (b.drop off).take n ∧ bytes.length = n := by
  unfold slice at h
  split at h
  · rename_i inside
    cases h
    refine ⟨rfl, ?_⟩
    rw [List.length_take, List.length_drop]
    omega
  · cases h

theorem slice_inside {b bytes : List UInt8} {off n : Nat} (h : slice b off n = .ok bytes) :
    off + n ≤ b.length := by
  by_contra outside
  rw [slice, if_neg outside] at h
  cases h

theorem slice_safe {b : List UInt8} {off n : Nat} (h : off + n ≤ b.length) :
    Safe (slice b off n) := by
  simp [slice_of_le h]

@[simp] theorem sub_of_le {m n : Nat} (h : n ≤ m) : sub m n = .ok (m - n) := if_pos h

/-- A read past a prefix of known length sees only what follows the prefix. -/
@[simp] theorem byteAt_append_add (pre b : List UInt8) (i : Nat) :
    byteAt (pre ++ b) (pre.length + i) = byteAt b i := by
  rw [byteAt, byteAt, List.getElem?_append_right (Nat.le_add_right _ _), Nat.add_sub_cancel_left]

@[simp] theorem byteAt_cons_zero (c : UInt8) (b : List UInt8) : byteAt (c :: b) 0 = .ok c := rfl
@[simp] theorem byteAt_cons_succ (c : UInt8) (b : List UInt8) (i : Nat) :
    byteAt (c :: b) (i + 1) = byteAt b i := rfl

/-! ## Big-endian words -/

def word16 (h l : UInt8) : UInt16 := UInt16.ofNat ((h.toNat <<< 8) ||| l.toNat)

def word32 (a b c d : UInt8) : UInt32 :=
  UInt32.ofNat ((a.toNat <<< 24) ||| (b.toNat <<< 16) ||| (c.toNat <<< 8) ||| d.toNat)

def put16 (w : UInt16) : List UInt8 := [UInt8.ofNat (w.toNat >>> 8), w.toUInt8]

def put32 (w : UInt32) : List UInt8 :=
  [UInt8.ofNat (w.toNat >>> 24), UInt8.ofNat (w.toNat >>> 16),
   UInt8.ofNat (w.toNat >>> 8), w.toUInt8]

def be16 (b : List UInt8) (i : Nat) : Outcome UInt16 := do
  let h ← byteAt b i
  let l ← byteAt b (i + 1)
  return word16 h l

def be32 (b : List UInt8) (i : Nat) : Outcome UInt32 := do
  let w ← byteAt b i
  let x ← byteAt b (i + 1)
  let y ← byteAt b (i + 2)
  let z ← byteAt b (i + 3)
  return word32 w x y z

/-- A byte below a shifted part is added to it. -/
theorem shiftLeft_or_byte (a : Nat) (b : UInt8) : (a <<< 8) ||| b.toNat = a * 256 + b.toNat := by
  have hb : b.toNat < 2 ^ 8 := b.toNat_lt
  rw [← Nat.shiftLeft_add_eq_or_of_lt hb, Nat.shiftLeft_eq]

theorem word16_toNat (h l : UInt8) : (word16 h l).toNat = h.toNat * 256 + l.toNat := by
  have hh := h.toNat_lt
  have hl := l.toNat_lt
  rw [word16, shiftLeft_or_byte, UInt16.toNat_ofNat']
  omega

theorem word32_toNat (a b c d : UInt8) :
    (word32 a b c d).toNat = ((a.toNat * 256 + b.toNat) * 256 + c.toNat) * 256 + d.toNat := by
  have ha := a.toNat_lt
  have hb := b.toNat_lt
  have hc := c.toNat_lt
  have hd := d.toNat_lt
  have nested : (a.toNat <<< 24) ||| (b.toNat <<< 16) ||| (c.toNat <<< 8) ||| d.toNat =
      ((((a.toNat <<< 8) ||| b.toNat) <<< 8) ||| c.toNat) <<< 8 ||| d.toNat := by
    simp only [Nat.shiftLeft_or_distrib, ← Nat.shiftLeft_add]
  rw [word32, nested, shiftLeft_or_byte, shiftLeft_or_byte, shiftLeft_or_byte, UInt32.toNat_ofNat']
  omega

@[simp] theorem word16_put16 (w : UInt16) :
    word16 (UInt8.ofNat (w.toNat >>> 8)) w.toUInt8 = w := by
  apply UInt16.toNat_inj.mp
  have hw := w.toNat_lt
  simp only [word16_toNat, UInt8.toNat_ofNat', UInt16.toNat_toUInt8, Nat.shiftRight_eq_div_pow]
  omega

@[simp] theorem word32_put32 (w : UInt32) :
    word32 (UInt8.ofNat (w.toNat >>> 24)) (UInt8.ofNat (w.toNat >>> 16))
      (UInt8.ofNat (w.toNat >>> 8)) w.toUInt8 = w := by
  apply UInt32.toNat_inj.mp
  have hw := w.toNat_lt
  simp only [word32_toNat, UInt8.toNat_ofNat', UInt32.toNat_toUInt8, Nat.shiftRight_eq_div_pow]
  omega

theorem put32_injective : Function.Injective put32 := by
  intro v w same
  simp only [put32, List.cons.injEq, and_true] at same
  obtain ⟨first, second, third, fourth⟩ := same
  rw [← word32_put32 v, first, second, third, fourth, word32_put32]

@[simp] theorem put16_word16 (h l : UInt8) : put16 (word16 h l) = [h, l] := by
  have hh := h.toNat_lt
  have hl := l.toNat_lt
  have high : UInt8.ofNat ((word16 h l).toNat >>> 8) = h := by
    apply UInt8.toNat_inj.mp
    rw [word16_toNat, UInt8.toNat_ofNat', Nat.shiftRight_eq_div_pow]
    omega
  have low : (word16 h l).toUInt8 = l := by
    apply UInt8.toNat_inj.mp
    rw [UInt16.toNat_toUInt8, word16_toNat]
    omega
  rw [put16, high, low]

theorem word16_inj {h l h' l' : UInt8} (same : word16 h l = word16 h' l') : h = h' ∧ l = l' := by
  have bytes := congrArg put16 same
  rw [put16_word16, put16_word16] at bytes
  simpa using bytes

@[simp] theorem put32_word32 (a b c d : UInt8) : put32 (word32 a b c d) = [a, b, c, d] := by
  have ha := a.toNat_lt
  have hb := b.toNat_lt
  have hc := c.toNat_lt
  have hd := d.toNat_lt
  have byte (k : Nat) (x : UInt8) (h : (word32 a b c d).toNat >>> k % 256 = x.toNat) :
      UInt8.ofNat ((word32 a b c d).toNat >>> k) = x := by
    apply UInt8.toNat_inj.mp
    rw [UInt8.toNat_ofNat', h]
  have low : (word32 a b c d).toUInt8 = d := by
    apply UInt8.toNat_inj.mp
    rw [UInt32.toNat_toUInt8, word32_toNat]
    omega
  rw [put32, low, byte 24 a, byte 16 b, byte 8 c]
  all_goals
    rw [word32_toNat, Nat.shiftRight_eq_div_pow]
    omega

theorem be16_of_lt {b : List UInt8} {i : Nat} (h : i + 1 < b.length) :
    be16 b i = .ok (word16 b[i] b[i + 1]) := by
  simp [be16, byteAt_of_lt h, byteAt_of_lt (Nat.lt_of_succ_lt h)]

/-- A word read is the two bytes there. -/
theorem be16_eq_ok {b : List UInt8} {i : Nat} {w : UInt16} (h : be16 b i = .ok w) :
    ∃ high low, byteAt b i = .ok high ∧ byteAt b (i + 1) = .ok low ∧ word16 high low = w := by
  obtain ⟨high, first, h⟩ := bind_eq_ok.mp h
  obtain ⟨low, second, h⟩ := bind_eq_ok.mp h
  exact ⟨high, low, first, second, Outcome.ok.inj h⟩

theorem be16_ok_lt {b : List UInt8} {i : Nat} {w : UInt16} (h : be16 b i = .ok w) : i + 1 < b.length := by
  obtain ⟨_, _, -, low, -⟩ := be16_eq_ok h
  exact byteAt_ok_lt low

theorem be16_returns {b : List UInt8} {i : Nat} (h : i + 1 < b.length) : Returns (be16 b i) :=
  ⟨_, be16_of_lt h⟩

theorem be16_safe {b : List UInt8} {i : Nat} (h : i + 1 < b.length) : Safe (be16 b i) := by
  simp [be16_of_lt h]

theorem be32_of_lt {b : List UInt8} {i : Nat} (h : i + 3 < b.length) :
    be32 b i = .ok (word32 b[i] b[i + 1] b[i + 2] b[i + 3]) := by
  simp [be32, byteAt_of_lt h, byteAt_of_lt (show i < b.length by omega),
    byteAt_of_lt (show i + 1 < b.length by omega), byteAt_of_lt (show i + 2 < b.length by omega)]

/-- A word read is the four bytes there. -/
theorem put32_of_be32 {b : List UInt8} {i : Nat} {w : UInt32} (h : be32 b i = .ok w) :
    put32 w = (b.drop i).take 4 := by
  obtain ⟨x₀, h₀, h⟩ := bind_eq_ok.mp h
  obtain ⟨x₁, h₁, h⟩ := bind_eq_ok.mp h
  obtain ⟨x₂, h₂, h⟩ := bind_eq_ok.mp h
  obtain ⟨x₃, h₃, h⟩ := bind_eq_ok.mp h
  have inside := byteAt_ok_lt h₃
  rw [byteAt_of_lt (by omega)] at h₀ h₁ h₂ h₃
  cases h₀
  cases h₁
  cases h₂
  cases h₃
  obtain rfl : word32 b[i] b[i + 1] b[i + 2] b[i + 3] = w := Outcome.ok.inj h
  rw [put32_word32, List.drop_eq_getElem_cons (by omega), List.drop_eq_getElem_cons (by omega),
    List.drop_eq_getElem_cons (by omega), List.drop_eq_getElem_cons (by omega)]
  rfl

theorem be32_ok_lt {b : List UInt8} {i : Nat} {w : UInt32} (h : be32 b i = .ok w) : i + 3 < b.length := by
  obtain ⟨_, -, h⟩ := bind_eq_ok.mp h
  obtain ⟨_, -, h⟩ := bind_eq_ok.mp h
  obtain ⟨_, -, h⟩ := bind_eq_ok.mp h
  obtain ⟨_, last, -⟩ := bind_eq_ok.mp h
  exact byteAt_ok_lt last

@[simp] theorem be16_append_add (pre b : List UInt8) (i : Nat) :
    be16 (pre ++ b) (pre.length + i) = be16 b i := by
  simp only [be16, Nat.add_assoc, byteAt_append_add]

@[simp] theorem be32_append_add (pre b : List UInt8) (i : Nat) :
    be32 (pre ++ b) (pre.length + i) = be32 b i := by
  simp only [be32, Nat.add_assoc, byteAt_append_add]

@[simp] theorem slice_append_add (pre b : List UInt8) (i n : Nat) :
    slice (pre ++ b) (pre.length + i) n = slice b i n := by
  simp only [slice, List.length_append, Nat.add_assoc, Nat.add_le_add_iff_left,
    List.drop_length_add_append]

/-! ## Reads in front of a suffix -/

section Front
variable {a : List UInt8} (b : List UInt8) {i n : Nat}

theorem byteAt_append_left (h : i < a.length) : byteAt (a ++ b) i = byteAt a i := by
  rw [byteAt, byteAt, List.getElem?_append_left h]

theorem be16_append_left (h : i + 1 < a.length) : be16 (a ++ b) i = be16 a i := by
  rw [be16, be16, byteAt_append_left b h, byteAt_append_left b (Nat.lt_of_succ_lt h)]

theorem be32_append_left (h : i + 3 < a.length) : be32 (a ++ b) i = be32 a i := by
  simp (disch := omega) only [be32, byteAt_append_left]

theorem slice_append_left (h : i + n ≤ a.length) : slice (a ++ b) i n = slice a i n := by
  have inside : i + n ≤ (a ++ b).length := by
    rw [List.length_append]
    omega
  rw [slice_of_le inside, slice_of_le h, List.drop_append_of_le_length (by omega),
    List.take_append_of_le_length (by rw [List.length_drop]; omega)]

end Front

/-- Three bytes, most significant first. -/
def word24 (h m l : UInt8) : Nat := (h.toNat <<< 16) ||| (m.toNat <<< 8) ||| l.toNat

def be24 (b : List UInt8) (i : Nat) : Outcome Nat := do
  let h ← byteAt b i
  let m ← byteAt b (i + 1)
  let l ← byteAt b (i + 2)
  return word24 h m l

theorem word24_eq (h m l : UInt8) : word24 h m l = (h.toNat * 256 + m.toNat) * 256 + l.toNat := by
  have nested : word24 h m l = (((h.toNat <<< 8) ||| m.toNat) <<< 8) ||| l.toNat := by
    simp only [word24, Nat.shiftLeft_or_distrib, ← Nat.shiftLeft_add]
  rw [nested, shiftLeft_or_byte, shiftLeft_or_byte]

/-! ## Bytes in place -/

/-- The bytes stand in the buffer from `off` on. -/
def Holds (b : List UInt8) (off : Nat) (bytes : List UInt8) : Prop :=
  ∃ before behind, b = before ++ bytes ++ behind ∧ before.length = off

section Holds
variable {b xs ys : List UInt8} {off : Nat} {c : UInt8}

theorem holds_prefix (xs ys : List UInt8) : Holds (xs ++ ys) 0 xs := ⟨[], ys, rfl, rfl⟩

theorem Holds.left (h : Holds b off (xs ++ ys)) : Holds b off xs := by
  obtain ⟨before, behind, rfl, rfl⟩ := h
  exact ⟨before, ys ++ behind, by simp only [List.append_assoc], rfl⟩

theorem Holds.right (h : Holds b off (xs ++ ys)) : Holds b (off + xs.length) ys := by
  obtain ⟨before, behind, rfl, rfl⟩ := h
  exact ⟨before ++ xs, behind, by simp only [List.append_assoc], List.length_append⟩

theorem Holds.tail (h : Holds b off (c :: xs)) : Holds b (off + 1) xs := by
  rw [← List.singleton_append] at h
  exact h.right

theorem Holds.inside (h : Holds b off xs) : off + xs.length ≤ b.length := by
  obtain ⟨before, behind, rfl, rfl⟩ := h
  simp only [List.length_append]
  omega

theorem byteAt_of_holds (h : Holds b off (c :: xs)) : byteAt b off = .ok c := by
  obtain ⟨before, behind, rfl, rfl⟩ := h
  rw [List.append_assoc]
  exact byteAt_append_add before _ 0

theorem slice_of_holds (h : Holds b off xs) : slice b off xs.length = .ok xs := by
  obtain ⟨before, behind, rfl, rfl⟩ := h
  rw [List.append_assoc]
  refine (slice_append_add before _ 0 _).trans ?_
  rw [slice_of_le (by simp), List.drop_zero, List.take_left]

theorem be16_of_holds {w : UInt16} (h : Holds b off (put16 w ++ xs)) : be16 b off = .ok w := by
  have high := byteAt_of_holds h
  have low := byteAt_of_holds h.tail
  rw [be16, high, ok_bind, low, ok_bind, word16_put16]
  rfl

theorem Holds.append (here : Holds b off xs) (next : Holds b (off + xs.length) ys) : Holds b off (xs ++ ys) := by
  obtain ⟨before, behind, rfl, rfl⟩ := here
  obtain ⟨before', behind', split, size⟩ := next
  rw [List.append_assoc before' ys behind'] at split
  have parts := List.append_inj split (by rw [List.length_append, size])
  exact ⟨before, behind', by rw [parts.2]; simp only [List.append_assoc], rfl⟩

theorem holds_of_slice {n : Nat} (h : slice b off n = .ok xs) : Holds b off xs := by
  have inside := slice_inside h
  obtain ⟨rfl, -⟩ := slice_ok h
  exact ⟨b.take off, (b.drop off).drop n, by rw [List.append_assoc, List.take_append_drop, List.take_append_drop],
    List.length_take_of_le (by omega)⟩

theorem holds_nil (inside : off ≤ b.length) : Holds b off [] := holds_of_slice (slice_of_le (n := 0) inside)

theorem holds_of_byteAt (h : byteAt b off = .ok c) : Holds b off [c] := by
  have inside := byteAt_ok_lt h
  rw [byteAt_of_lt inside] at h
  cases h
  have taken : slice b off 1 = .ok [b[off]] := by
    rw [slice_of_le inside, List.drop_eq_getElem_cons inside]
    rfl
  exact holds_of_slice taken

/-- Bytes of one length held at one place are the same bytes. -/
theorem Holds.eq_of_length (hx : Holds b off xs) (hy : Holds b off ys) (size : xs.length = ys.length) : xs = ys := by
  have taken := slice_of_holds hx
  rw [size, slice_of_holds hy] at taken
  exact (Outcome.ok.inj taken).symm

theorem holds_of_be32 {w : UInt32} (h : be32 b off = .ok w) : Holds b off (put32 w) := by
  rw [put32_of_be32 h]
  exact holds_of_slice (slice_of_le (be32_ok_lt h))

theorem holds_of_be16 {w : UInt16} (h : be16 b off = .ok w) : Holds b off (put16 w) := by
  obtain ⟨high, low, first, second, rfl⟩ := be16_eq_ok h
  rw [put16_word16]
  exact (holds_of_byteAt first).append (holds_of_byteAt second)

/-- What is held at the front. -/
theorem Holds.front (h : Holds b 0 xs) : ∃ rest, b = xs ++ rest := by
  obtain ⟨before, behind, rfl, none⟩ := h
  rw [List.length_eq_zero_iff.mp none]
  exact ⟨behind, rfl⟩

/-- A header of `n` bytes with a fixed part is that part and its options. -/
theorem Holds.options {fixed : List UInt8} {n : Nat} (h : Holds b 0 fixed) (least : fixed.length ≤ n)
    (inside : n ≤ b.length) : ∃ options rest, b = fixed ++ options ++ rest ∧ n = fixed.length + options.length := by
  obtain ⟨behind, rfl⟩ := h.front
  rw [List.length_append] at inside
  refine ⟨behind.take (n - fixed.length), behind.drop (n - fixed.length), ?_, ?_⟩
  · rw [List.append_assoc, List.take_append_drop]
  · rw [List.length_take_of_le (by omega)]
    omega

end Holds

/-! ## Length-prefixed vectors -/

def put24 (n : Nat) : List UInt8 := [UInt8.ofNat (n >>> 16), UInt8.ofNat (n >>> 8), UInt8.ofNat n]

def vec8 (bytes : List UInt8) : List UInt8 := UInt8.ofNat bytes.length :: bytes
def vec16 (bytes : List UInt8) : List UInt8 := put16 (UInt16.ofNat bytes.length) ++ bytes
def vec24 (bytes : List UInt8) : List UInt8 := put24 bytes.length ++ bytes

@[simp] theorem length_put16 (w : UInt16) : (put16 w).length = 2 := rfl
@[simp] theorem length_put24 (n : Nat) : (put24 n).length = 3 := rfl
@[simp] theorem length_vec8 (bytes : List UInt8) : (vec8 bytes).length = 1 + bytes.length := Nat.add_comm ..
@[simp] theorem length_vec16 (bytes : List UInt8) : (vec16 bytes).length = 2 + bytes.length := List.length_append
@[simp] theorem length_vec24 (bytes : List UInt8) : (vec24 bytes).length = 3 + bytes.length := List.length_append

theorem word24_put24 {n : Nat} (fits : n < 2 ^ 24) :
    word24 (UInt8.ofNat (n >>> 16)) (UInt8.ofNat (n >>> 8)) (UInt8.ofNat n) = n := by
  simp only [word24_eq, UInt8.toNat_ofNat', Nat.shiftRight_eq_div_pow]
  omega

section Vectors
variable {b bytes : List UInt8} {off : Nat}

/-- A vector's length is read and its bytes are behind it. -/
theorem vec8_of_holds (h : Holds b off (vec8 bytes)) (fits : bytes.length < 2 ^ 8) :
    ∃ n, byteAt b off = .ok n ∧ n.toNat = bytes.length ∧ Holds b (off + 1) bytes :=
  ⟨_, byteAt_of_holds h, by rw [UInt8.toNat_ofNat']; exact Nat.mod_eq_of_lt fits, h.tail⟩

theorem vec16_of_holds (h : Holds b off (vec16 bytes)) (fits : bytes.length < 2 ^ 16) :
    ∃ n, be16 b off = .ok n ∧ n.toNat = bytes.length ∧ Holds b (off + 2) bytes :=
  ⟨_, be16_of_holds h, by rw [UInt16.toNat_ofNat']; exact Nat.mod_eq_of_lt fits, h.right⟩

theorem vec24_of_holds (h : Holds b off (vec24 bytes)) (fits : bytes.length < 2 ^ 24) :
    ∃ x y z, byteAt b off = .ok x ∧ byteAt b (off + 1) = .ok y ∧
      byteAt b (off + 2) = .ok z ∧ word24 x y z = bytes.length ∧ Holds b (off + 3) bytes :=
  ⟨_, _, _, byteAt_of_holds h, byteAt_of_holds h.tail, byteAt_of_holds h.tail.tail, word24_put24 fits, h.right⟩

/-- Vectors one behind the other. -/
def seq8 (items : List (List UInt8)) : List UInt8 := (items.map vec8).flatten

@[simp] theorem seq8_nil : seq8 [] = [] := rfl
@[simp] theorem seq8_cons (item : List UInt8) (items : List (List UInt8)) :
    seq8 (item :: items) = vec8 item ++ seq8 items := rfl

theorem seq8_append (items others : List (List UInt8)) : seq8 (items ++ others) = seq8 items ++ seq8 others := by
  rw [seq8, List.map_append, List.flatten_append, ← seq8, ← seq8]

theorem length_seq8 (items : List (List UInt8)) :
    (seq8 items).length = (items.map List.length).sum + items.length := by
  induction items with
  | nil => rfl
  | cons item items ih =>
      rw [seq8_cons, List.length_append, length_vec8, ih, List.map_cons, List.sum_cons, List.length_cons]
      omega

theorem length_seq8_ge {items : List (List UInt8)} (sized : ∀ item ∈ items, 0 < item.length) :
    2 * items.length ≤ (seq8 items).length := by
  induction items with
  | nil => exact Nat.le_refl 0
  | cons item items ih =>
      rw [List.forall_mem_cons] at sized
      have rest := ih sized.2
      have first := sized.1
      rw [seq8_cons, List.length_append, length_vec8, List.length_cons]
      omega

variable {x y : List UInt8} {xs ys : List (List UInt8)}

theorem vec8_unique (hx : Holds b off (vec8 x)) (hy : Holds b off (vec8 y)) (fitsX : x.length < 2 ^ 8)
    (fitsY : y.length < 2 ^ 8) : x = y := by
  obtain ⟨n, length, size, body⟩ := vec8_of_holds hx fitsX
  obtain ⟨m, length', size', body'⟩ := vec8_of_holds hy fitsY
  obtain rfl := Outcome.ok.inj (length.symm.trans length')
  have taken := slice_of_holds body
  rw [← size, size'] at taken
  exact Outcome.ok.inj (taken.symm.trans (slice_of_holds body'))

/-- Two sequences held at one place agree as far as both go. -/
theorem seq8_comparable (hx : Holds b off (seq8 xs)) (hy : Holds b off (seq8 ys))
    (fitsX : ∀ x ∈ xs, x.length < 2 ^ 8) (fitsY : ∀ y ∈ ys, y.length < 2 ^ 8) : xs <+: ys ∨ ys <+: xs := by
  induction xs generalizing off ys with
  | nil => exact .inl List.nil_prefix
  | cons x xs ih =>
      cases ys with
      | nil => exact .inr List.nil_prefix
      | cons y ys =>
          rw [List.forall_mem_cons] at fitsX fitsY
          obtain rfl := vec8_unique hx.left hy.left fitsX.1 fitsY.1
          rcases ih hx.right hy.right fitsX.2 fitsY.2 with shorter | longer
          · exact .inl (List.cons_prefix_cons.mpr ⟨rfl, shorter⟩)
          · exact .inr (List.cons_prefix_cons.mpr ⟨rfl, longer⟩)

end Vectors

/-! ## Scanning loops -/

/-- `while (more i) ++i;` with one unit of fuel for each test. -/
def scan (more : Nat → Outcome Bool) : Nat → Nat → Outcome Nat
  | 0, _ => .fault
  | fuel + 1, i => do
      if ← more i then scan more fuel (i + 1) else return i

/-- A loop test that is always defined and false from `bound` on. -/
structure Bounded (more : Nat → Outcome Bool) (bound : Nat) : Prop where
  defined : ∀ i, ∃ t, more i = .ok t
  stops : ∀ i, bound ≤ i → more i = .ok false

/-- With enough fuel a bounded scan ends at the first index whose test fails. -/
theorem scan_spec {more : Nat → Outcome Bool} {bound : Nat} (hm : Bounded more bound)
    (fuel i : Nat) (hf : bound < fuel + i) (hpos : 0 < fuel) :
    ∃ j, scan more fuel i = .ok j ∧ i ≤ j ∧ j ≤ max i bound ∧ more j = .ok false ∧
      ∀ k, i ≤ k → k < j → more k = .ok true := by
  induction fuel generalizing i with
  | zero => omega
  | succ fuel ih =>
      obtain ⟨t, ht⟩ := hm.defined i
      cases t with
      | false =>
          refine ⟨i, by simp [scan, ht], le_rfl, le_max_left _ _, ht, ?_⟩
          intro k hik hki
          omega
      | true =>
          have hib : i < bound := by
            by_contra hge
            rw [hm.stops i (Nat.le_of_not_lt hge)] at ht
            simp at ht
          obtain ⟨j, hj, hij, hjb, hstop, hrun⟩ := ih (i + 1) (by omega) (by omega)
          refine ⟨j, by simp [scan, ht, hj], by omega, by omega, hstop, ?_⟩
          intro k hik hkj
          rcases Nat.eq_or_lt_of_le hik with rfl | hlt
          · exact ht
          · exact hrun k hlt hkj

/-- The bytes a scan passes when its test looks at what is left of the buffer. -/
def passed (test : List UInt8 → Bool) : List UInt8 → Nat
  | [] => 0
  | c :: s => if test (c :: s) then passed test s + 1 else 0

theorem scan_passed {more : Nat → Outcome Bool} {test : List UInt8 → Bool} {b pre s : List UInt8} {fuel : Nat}
    (look : ∀ pre s, b = pre ++ s → more pre.length = .ok (test s)) (stops : test [] = false)
    (split : b = pre ++ s) (enough : s.length < fuel) :
    scan more fuel pre.length = .ok (pre.length + passed test s) := by
  induction s generalizing pre fuel with
  | nil =>
      obtain ⟨spare, rfl⟩ := Nat.exists_eq_add_of_lt enough
      rw [scan, look pre [] split, ok_bind, stops]
      rfl
  | cons c s ih =>
      obtain ⟨spare, rfl⟩ := Nat.exists_eq_add_of_lt enough
      rw [scan, look pre (c :: s) split, ok_bind, passed]
      cases test (c :: s) with
      | false => rfl
      | true =>
          rw [List.append_cons] at split
          have next := ih split (show s.length < (c :: s).length + spare by rw [List.length_cons]; omega)
          rw [List.length_append, List.length_singleton, Nat.add_assoc pre.length, Nat.add_comm 1 (passed test s)] at next
          exact next

end ByteReader
