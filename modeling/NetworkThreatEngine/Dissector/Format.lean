import NetworkThreatEngine.Lib.ByteReader
import NetworkThreatEngine.Lib.Numeral
import NetworkThreatEngine.Lib.Runs
import NetworkThreatEngine.Packet

/-!
# Textual addresses

`format_ipv4` and `format_ipv6` as the dissector computes them, and the shape of the text they
produce: dotted decimal, and eight hexadecimal groups of which at most one run of zeros is elided.
-/
namespace Nte
open Numeral Runs

def dot : UInt8 := 46
def colon : UInt8 := 58

def ipv4Octet (hostOrderAddr : UInt32) (shift : Nat) : Nat := (hostOrderAddr.toNat >>> shift) &&& 0xFF

def formatIpv4 (hostOrderAddr : UInt32) : Octets :=
  numeral 10 (ipv4Octet hostOrderAddr 24) ++ dot :: (numeral 10 (ipv4Octet hostOrderAddr 16) ++
    dot :: (numeral 10 (ipv4Octet hostOrderAddr 8) ++ dot :: numeral 10 (ipv4Octet hostOrderAddr 0)))

theorem ipv4Octet_eq (addr : UInt32) (shift : Nat) :
    ipv4Octet addr shift = (UInt8.ofNat (addr.toNat >>> shift)).toNat := by
  rw [ipv4Octet, UInt8.toNat_ofNat', show (0xFF : Nat) = 2 ^ 8 - 1 from rfl, Nat.and_two_pow_sub_one_eq_mod]

/-! ## IPv6 -/

/-- The eight 16-bit groups of an address. -/
def ipv6Groups (addr : Octets) : List UInt16 :=
  (List.range 8).map fun i => ByteReader.word16 (addr.getD (i * 2) 0) (addr.getD (i * 2 + 1) 0)

/-- Locals of the search for the longest run of zero groups. -/
structure ZeroRun where
  bestStart : Int := -1
  bestLen : Int := 0
  curStart : Int := -1
  curLen : Int := 0
  deriving DecidableEq, Repr

def ZeroRun.visit (r : ZeroRun) (i : Nat) (isZero : Bool) : ZeroRun :=
  if isZero then
    let curStart := if r.curStart = -1 then (i : Int) else r.curStart
    let curLen := r.curLen + 1
    if curLen > r.bestLen then { bestLen := curLen, bestStart := curStart, curStart, curLen }
    else { r with curStart, curLen }
  else { r with curStart := -1, curLen := 0 }

def findZeroRun (isZero : List Bool) : ZeroRun :=
  isZero.zipIdx.foldl (fun r gi => r.visit gi.2 gi.1) {}

/-- A run of fewer than two groups is not compressed. -/
def compressedRun (isZero : List Bool) : Int × Int :=
  let r := findZeroRun isZero
  (if r.bestLen < 2 then -1 else r.bestStart, r.bestLen)

/-- The printing loop from group `i` on. Every iteration consumes a group, so eight units of fuel
run it to its end. -/
def printGroups (groups : List UInt16) (bestStart bestLen : Int) : Nat → Nat → Octets
  | 0, _ => []
  | fuel + 1, i =>
      if i < 8 then
        if (i : Int) = bestStart then
          let next := i + bestLen.toNat
          if next ≥ 8 then [colon, colon]
          else [colon, colon] ++ numeral 16 (groups.getD next 0).toNat ++
            printGroups groups bestStart bestLen fuel (next + 1)
        else
          (if i ≠ 0 ∧ ¬ ((i : Int) = bestStart + bestLen ∧ bestStart = 0) then [colon] else []) ++
            numeral 16 (groups.getD i 0).toNat ++ printGroups groups bestStart bestLen fuel (i + 1)
      else []

def formatIpv6 (addr : Octets) : Octets :=
  let groups := ipv6Groups addr
  let run := compressedRun (groups.map (· == 0))
  printGroups groups run.1 run.2 8 0

/-! ## The text in closed form -/

def joinGroups (groups : List UInt16) : Octets :=
  [colon].intercalate (groups.map fun g => numeral 16 g.toNat)

/-- All groups, or those before and those after an elided run. -/
def groupText (groups : List UInt16) : Option (Nat × Nat) → Octets
  | none => joinGroups groups
  | some (start, len) =>
      joinGroups (groups.take start) ++ [colon, colon] ++ joinGroups (groups.drop (start + len))

/-- The run the search settles on, when it is long enough to be elided. -/
def elidedRun (isZero : List Bool) : Option (Nat × Nat) :=
  if (findZeroRun isZero).bestLen < 2 then none
  else some ((findZeroRun isZero).bestStart.toNat, (findZeroRun isZero).bestLen.toNat)

/-- The elided run lies inside the address, has at least two groups and covers zeros only. -/
def RunOk (isZero : List Bool) : Option (Nat × Nat) → Prop
  | none => True
  | some (start, len) => 2 ≤ len ∧ start + len ≤ 8 ∧ ∀ i < len, isZero[start + i]? = some true

instance (isZero : List Bool) (run : Option (Nat × Nat)) : Decidable (RunOk isZero run) := by
  cases run with
  | none => exact inferInstanceAs (Decidable True)
  | some p => exact inferInstanceAs (Decidable (_ ∧ _ ∧ _))

/-- What the search has found when it has seen these groups. -/
structure ZeroRun.Found (isZero : List Bool) (r : ZeroRun) : Prop where
  current : ∃ n : Nat, Ending isZero n ∧ r.curLen = n ∧
    r.curStart = if n = 0 then -1 else ((isZero.length - n : Nat) : Int)
  best : ∃ start len : Nat, LeftmostLongest isZero start len ∧ r.bestLen = len ∧
    r.bestStart = if len = 0 then -1 else (start : Int)

theorem ZeroRun.Found.visit_zero {isZero : List Bool} {r : ZeroRun} (found : r.Found isZero) :
    (r.visit isZero.length true).Found (isZero ++ [true]) := by
  obtain ⟨⟨n, ending, curLen, curStart⟩, start, len, best, bestLen, bestStart⟩ := found
  have size : (isZero ++ [true]).length - (n + 1) = isZero.length - n := by
    rw [List.length_append, List.length_singleton]
    omega
  have here : (if r.curStart = -1 then (isZero.length : Int) else r.curStart) = ((isZero.length - n : Nat) : Int) := by
    rw [curStart]
    by_cases none : n = 0
    · rw [if_pos none, if_pos rfl, none, Nat.sub_zero]
    · rw [if_neg none, if_neg (by omega)]
  have current : ∃ m : Nat, Ending (isZero ++ [true]) m ∧ r.curLen + 1 = m ∧
      ((isZero.length - n : Nat) : Int) = if m = 0 then -1 else (((isZero ++ [true]).length - m : Nat) : Int) :=
    ⟨n + 1, ending.append_true, by omega, by rw [if_neg (Nat.succ_ne_zero n), size]⟩
  rw [visit, if_pos rfl]
  dsimp only
  rw [here]
  split
  · rename_i longer
    refine ⟨current, isZero.length - n, n + 1, best.append_true_longer ending (by omega), by dsimp only; omega, ?_⟩
    rw [if_neg (Nat.succ_ne_zero n)]
  · rename_i shorter
    exact ⟨current, start, len, best.append_true_kept ending (by omega), bestLen, bestStart⟩

theorem ZeroRun.Found.visit_other {isZero : List Bool} {r : ZeroRun} (found : r.Found isZero) :
    (r.visit isZero.length false).Found (isZero ++ [false]) := by
  obtain ⟨-, start, len, best, bestLen, bestStart⟩ := found
  exact ⟨⟨0, ending_append_false, rfl, rfl⟩, start, len, best.append_false, bestLen, bestStart⟩

theorem findZeroRun_append (isZero : List Bool) (flag : Bool) :
    findZeroRun (isZero ++ [flag]) = (findZeroRun isZero).visit isZero.length flag := by
  rw [findZeroRun, List.zipIdx_append, List.foldl_append, Nat.zero_add]
  rfl

/-- The search finds the leftmost of the longest runs. -/
theorem findZeroRun_found (isZero : List Bool) : (findZeroRun isZero).Found isZero := by
  induction isZero using List.reverseRecOn with
  | nil => exact ⟨⟨0, ending_nil, rfl, rfl⟩, 0, 0, leftmostLongest_nil, rfl, rfl⟩
  | append_singleton isZero flag found =>
      rw [findZeroRun_append]
      cases flag with
      | true => exact found.visit_zero
      | false => exact found.visit_other

theorem bestStart_nonneg {isZero : List Bool} (long : 2 ≤ (findZeroRun isZero).bestLen) :
    0 ≤ (findZeroRun isZero).bestStart := by
  obtain ⟨-, start, len, -, bestLen, bestStart⟩ := findZeroRun_found isZero
  rw [bestStart, if_neg (by omega)]
  exact Int.natCast_nonneg start

/-- What may be elided: the leftmost of the longest runs, if it has two groups. -/
def IsElision (isZero : List Bool) : Option (Nat × Nat) → Prop
  | none => ∀ start len, IsRun isZero start len → len < 2
  | some (start, len) => 2 ≤ len ∧ LeftmostLongest isZero start len

theorem elidedRun_isElision (isZero : List Bool) : IsElision isZero (elidedRun isZero) := by
  obtain ⟨-, start, len, best, bestLen, bestStart⟩ := findZeroRun_found isZero
  by_cases short : (findZeroRun isZero).bestLen < 2
  · rw [elidedRun, if_pos short]
    intro start' len' run
    have bound := best.longest start' len' run
    omega
  · rw [elidedRun, if_neg short, bestLen, bestStart, if_neg (by omega)]
    exact ⟨by omega, best⟩

theorem IsElision.runOk {isZero : List Bool} (eight : isZero.length = 8) {run : Option (Nat × Nat)}
    (elision : IsElision isZero run) : RunOk isZero run := by
  cases run with
  | none => trivial
  | some run =>
      obtain ⟨two, best⟩ := elision
      exact ⟨two, eight ▸ best.run.inside (by omega), best.run⟩

theorem ipv6Groups_eight (addr : Octets) :
    ∃ a b c d e f g h, ipv6Groups addr = [a, b, c, d, e, f, g, h] :=
  ⟨_, _, _, _, _, _, _, _, rfl⟩

@[simp] theorem ipv6Groups_length (addr : Octets) : (ipv6Groups addr).length = 8 := by
  simp [ipv6Groups]

theorem elidedRun_ok (addr : Octets) :
    RunOk ((ipv6Groups addr).map (· == 0)) (elidedRun ((ipv6Groups addr).map (· == 0))) :=
  (elidedRun_isElision _).runOk (by rw [List.length_map, ipv6Groups_length])

theorem printGroups_none (groups : List UInt16) (hg : groups.length = 8) (bestLen : Int) :
    printGroups groups (-1) bestLen 8 0 = joinGroups groups := by
  match groups, hg with
  | [a, b, c, d, e, f, g, h], _ => simp [printGroups, joinGroups, List.intercalate]

/-- A run of two or more groups starts at one of seven places and has one of seven lengths. -/
theorem printGroups_some (groups : List UInt16) (hg : groups.length = 8) (start len : Nat)
    (hl : 2 ≤ len) (hr : start + len ≤ 8) :
    printGroups groups start len 8 0 = groupText groups (some (start, len)) := by
  match groups, hg with
  | [a, b, c, d, e, f, g, h], _ =>
      have hs : start ≤ 6 := by omega
      have hlen : len ≤ 8 := by omega
      interval_cases start <;> interval_cases len <;>
        first
        | omega
        | simp [printGroups, groupText, joinGroups, List.intercalate]

theorem formatIpv6_text (addr : Octets) :
    formatIpv6 addr =
      groupText (ipv6Groups addr) (elidedRun ((ipv6Groups addr).map (· == 0))) := by
  have eight := ipv6Groups_length addr
  have ok := elidedRun_ok addr
  rw [formatIpv6, compressedRun]
  dsimp only
  generalize (ipv6Groups addr).map (· == 0) = isZero at ok ⊢
  by_cases short : (findZeroRun isZero).bestLen < 2
  · rw [elidedRun, if_pos short, if_pos short]
    exact printGroups_none _ eight _
  · have start := bestStart_nonneg (Int.not_lt.mp short)
    rw [elidedRun, if_neg short] at ok ⊢
    obtain ⟨two, inside, -⟩ := ok
    rw [if_neg short, ← printGroups_some _ eight _ _ two inside, Int.toNat_of_nonneg start,
      Int.toNat_of_nonneg (by omega)]

end Nte
