import NetworkThreatEngine.Lib.ByteReader
import NetworkThreatEngine.Lib.Numeral

/-!
# Reading textual addresses

The C library's `sscanf` with `%u` fields and `inet_pton` for IPv6. The texts that `printf` and a
stream in hexadecimal produce are read back as the numbers they were made from.
-/
namespace InetText
open ByteReader Numeral

def dot : UInt8 := 46
def colon : UInt8 := 58

/-- `c_str()`: the text up to its first zero byte. -/
def cString (text : List UInt8) : List UInt8 := text.takeWhile (· != 0)

theorem cString_eq {text : List UInt8} (h : 0 ∉ text) : cString text = text := by
  refine List.takeWhile_eq_self_iff.mpr fun c hc => ?_
  simp only [bne_iff_ne, ne_eq]
  rintro rfl
  exact h hc

/-! ## `%u` -/

def isSpace (c : UInt8) : Bool := c == 32 || (9 ≤ c && c ≤ 13)

/-- A `%u` field: blanks, a sign and decimal digits. The number is read as an `unsigned long`, which
saturates, and stored in 32 bits. -/
def scanUnsigned (text : List UInt8) : Option (UInt32 × List UInt8) :=
  let text := text.dropWhile isSpace
  let negative := text.head? == some 45
  let text := if text.head? == some 45 || text.head? == some 43 then text.tail else text
  let digits := leadingDigits 10 text
  let number := value 10 digits
  if digits.isEmpty then none
  else
    some (UInt32.ofNat (if number ≥ 2 ^ 64 then 2 ^ 64 - 1 else if negative then 2 ^ 64 - number else number),
      text.drop digits.length)

/-- `n` fields `%u` with a dot between two of them. Fields that are not reached stay zero. -/
def scanFields : Nat → List UInt8 → List UInt32
  | 0, _ => []
  | n + 1, text =>
      match scanUnsigned text with
      | none => List.replicate (n + 1) 0
      | some (field, rest) =>
          field :: if rest.head? == some dot then scanFields n rest.tail else List.replicate n 0

theorem numeral_append_head (n : Nat) (rest : List UInt8) :
    ∃ c, (numeral 10 n ++ rest).head? = some c ∧ isDigit 10 c = true := by
  cases h : numeral 10 n with
  | nil => exact absurd h (numeral_ne_nil 10 n)
  | cons c cs => exact ⟨c, rfl, numeral_isDigit (by decide) (by decide) (h ▸ List.mem_cons_self)⟩

theorem decimal_not_blank : ∀ c : UInt8, isDigit 10 c = true → isSpace c = false ∧ c ≠ 45 ∧ c ≠ 43 := by
  decide +kernel

theorem scanUnsigned_numeral {n : Nat} (hn : n < 2 ^ 32) (rest : List UInt8)
    (stop : ∀ c ∈ rest.head?, isDigit 10 c = false) :
    scanUnsigned (numeral 10 n ++ rest) = some (UInt32.ofNat n, rest) := by
  obtain ⟨c, hc, digit⟩ := numeral_append_head n rest
  obtain ⟨blank, minus, plus⟩ := decimal_not_blank c digit
  have skip : (numeral 10 n ++ rest).dropWhile isSpace = numeral 10 n ++ rest := by
    cases h : numeral 10 n ++ rest with
    | nil => rfl
    | cons d ds =>
        rw [h] at hc
        obtain rfl : d = c := Option.some.inj hc
        exact List.dropWhile_cons_of_neg (by simp [blank])
  have small : ¬ 18446744073709551616 ≤ n := by omega
  have digits := leadingDigits_numeral_append (by decide : 1 < 10) (by decide) n rest stop
  have number := value_numeral (by decide : 1 < 10) (by decide) n
  simp [scanUnsigned, skip, hc, minus, plus, digits, number, if_neg small, numeral_ne_nil]

/-! ## `inet_pton` for IPv4 -/

/-- A field of a dotted quad: at most 255, and no zero in front of another digit. -/
def quadField (text : List UInt8) : Option UInt8 :=
  if text.isEmpty ∨ ¬ text.all (isDigit 10) ∨ (text.head? = some 48 ∧ text.length ≠ 1) ∨ value 10 text > 255 then none
  else some (UInt8.ofNat (value 10 text))

def inetPton4 (text : List UInt8) : Option (List UInt8) :=
  if (text.splitOn dot).length = 4 then (text.splitOn dot).mapM quadField else none

/-! ## `inet_pton` for IPv6 -/

/-- Locals of the scan: the bytes stored so far, where the `::` was, and the group being read. -/
structure Scan where
  stored : List UInt8 := []
  elision : Option Nat := none
  val : Nat := 0
  digitsSeen : Nat := 0
  deriving DecidableEq, Repr

def Scan.store (s : Scan) : Option Scan :=
  if s.stored.length + 2 ≤ 16 then
    some { s with stored := s.stored ++ put16 (UInt16.ofNat s.val), val := 0, digitsSeen := 0 }
  else none

/-- The scanning loop. `token` is the text from the current group on: a dotted quad may stand
there. -/
def scanGroups : List UInt8 → List UInt8 → Scan → Option Scan
  | _, [], s => some s
  | token, c :: text, s =>
      match digitValue c with
      | some d =>
          if s.digitsSeen = 4 then none
          else scanGroups token text { s with val := s.val * 16 + d, digitsSeen := s.digitsSeen + 1 }
      | none =>
          if c = colon then
            if s.digitsSeen = 0 then
              if s.elision.isSome then none
              else scanGroups text text { s with elision := some s.stored.length }
            else if text.isEmpty then none
            else s.store.bind (scanGroups text text ·)
          else if c = dot ∧ s.stored.length + 4 ≤ 16 then
            (inetPton4 token).map fun quad => { s with stored := s.stored ++ quad, val := 0, digitsSeen := 0 }
          else none

/-- The last group is stored, and the bytes behind the `::` move to the end. -/
def Scan.close (s : Scan) : Option (List UInt8) :=
  (if s.digitsSeen > 0 then s.store else some s).bind fun s =>
    match s.elision with
    | some start =>
        if s.stored.length = 16 then none
        else some (s.stored.take start ++ List.replicate (16 - s.stored.length) 0 ++ s.stored.drop start)
    | none => if s.stored.length = 16 then some s.stored else none

/-- A leading colon has to be the first of two. -/
def inetPton6 (text : List UInt8) : Option (List UInt8) :=
  match cString text with
  | [] => none
  | c :: rest =>
      if c = colon then
        if rest.head? = some colon then (scanGroups rest rest {}).bind Scan.close else none
      else (scanGroups (c :: rest) (c :: rest) {}).bind Scan.close

/-! ## Groups in hexadecimal -/

def groupsText (groups : List UInt16) : List UInt8 :=
  [colon].intercalate (groups.map fun g => numeral 16 g.toNat)

def groupsBytes (groups : List UInt16) : List UInt8 := groups.flatMap put16

theorem groupsText_cons (g h : UInt16) (groups : List UInt16) :
    groupsText (g :: h :: groups) = numeral 16 g.toNat ++ colon :: groupsText (h :: groups) := by
  simp [groupsText, List.intercalate]

theorem groupsText_ne_nil (g : UInt16) (groups : List UInt16) : groupsText (g :: groups) ≠ [] := by
  cases groups with
  | nil => simpa [groupsText, List.intercalate] using numeral_ne_nil 16 g.toNat
  | cons h groups => simp [groupsText_cons]

theorem groupsBytes_length (groups : List UInt16) : (groupsBytes groups).length = 2 * groups.length := by
  induction groups with
  | nil => rfl
  | cons g groups ih =>
      simp only [groupsBytes, List.flatMap_cons, List.length_append, List.length_cons] at ih ⊢
      rw [ih]
      simp [put16]
      omega

theorem scanGroups_digits (token ds rest : List UInt8) (s : Scan) (hds : ∀ c ∈ ds, isDigit 16 c = true)
    (room : s.digitsSeen + ds.length ≤ 4) :
    scanGroups token (ds ++ rest) s = scanGroups token rest
      { s with val := ds.foldl (fun acc c => acc * 16 + (digitValue c).getD 0) s.val,
               digitsSeen := s.digitsSeen + ds.length } := by
  induction ds generalizing s with
  | nil => rfl
  | cons c ds ih =>
      obtain ⟨d, hd, -⟩ := isDigit_iff.mp (hds c List.mem_cons_self)
      rw [List.length_cons] at room
      rw [List.cons_append, scanGroups, hd]
      dsimp only
      rw [if_neg (by omega), ih _ (fun x hx => hds x (List.mem_cons_of_mem c hx)) (by dsimp only; omega)]
      simp [hd, Nat.add_comm 1, Nat.add_assoc]

/-- A group printed in hexadecimal is read as that group. -/
theorem scanGroups_numeral (token rest : List UInt8) (s : Scan) (g : UInt16) (fresh : s.digitsSeen = 0)
    (zero : s.val = 0) :
    scanGroups token (numeral 16 g.toNat ++ rest) s = scanGroups token rest
      { s with val := g.toNat, digitsSeen := (numeral 16 g.toNat).length } := by
  have fits : (numeral 16 g.toNat).length ≤ 4 := numeral_length_le (by decide) (by decide) g.toNat_lt
  have digits : ∀ c ∈ numeral 16 g.toNat, isDigit 16 c = true :=
    fun c hc => numeral_isDigit (by decide) (by decide) hc
  rw [scanGroups_digits token _ rest s digits (by omega), fresh, zero, Nat.zero_add]
  congr 2
  exact value_numeral (by decide) (by decide) g.toNat

theorem colon_not_digit : digitValue colon = none := by decide

/-- A group, its colon, and more text behind it. -/
theorem scanGroups_group (token rest : List UInt8) (s : Scan) (g : UInt16) (fresh : s.digitsSeen = 0)
    (zero : s.val = 0) (room : s.stored.length + 2 ≤ 16) (more : rest ≠ []) :
    scanGroups token (numeral 16 g.toNat ++ colon :: rest) s =
      scanGroups rest rest { s with stored := s.stored ++ put16 g } := by
  have some_digit : (numeral 16 g.toNat).length ≠ 0 := by simp [numeral_ne_nil]
  have nonempty : rest.isEmpty = false := by simp [more]
  rw [scanGroups_numeral token _ s g fresh zero, scanGroups, colon_not_digit]
  dsimp only
  rw [if_pos rfl, if_neg some_digit, nonempty, Scan.store]
  simp [room, fresh, zero]

theorem scanGroups_elision (token rest : List UInt8) (s : Scan) (fresh : s.digitsSeen = 0)
    (first : s.elision = none) :
    scanGroups token (colon :: rest) s =
      scanGroups rest rest { s with elision := some s.stored.length } := by
  rw [scanGroups, colon_not_digit]
  dsimp only
  rw [if_pos rfl, if_pos fresh, first]
  rfl

/-- All groups up to the end of the text. -/
theorem scanGroups_last (groups : List UInt16) (token : List UInt8) (s : Scan) (fresh : s.digitsSeen = 0)
    (zero : s.val = 0) (room : s.stored.length + 2 * groups.length ≤ 16) :
    (scanGroups token (groupsText groups) s).bind Scan.close =
      Scan.close { s with stored := s.stored ++ groupsBytes groups } := by
  induction groups generalizing token s with
  | nil =>
      change s.close = _
      simp [groupsBytes]
  | cons g groups ih =>
      rw [List.length_cons] at room
      have stored : s.stored.length + 2 ≤ 16 := by omega
      cases groups with
      | nil =>
          have some_digit : 0 < (numeral 16 g.toNat).length := List.length_pos_iff.mpr (numeral_ne_nil _ _)
          have single : groupsText [g] = numeral 16 g.toNat ++ [] := by simp [groupsText]
          rw [single, scanGroups_numeral token [] s g fresh zero]
          simp [scanGroups, Scan.close, Scan.store, some_digit, stored, fresh, groupsBytes]
      | cons h groups =>
          rw [List.length_cons] at room
          have longer : (s.stored ++ put16 g).length = s.stored.length + 2 := by simp [put16]
          rw [groupsText_cons, scanGroups_group token _ s g fresh zero stored (groupsText_ne_nil h groups),
            ih _ { s with stored := s.stored ++ put16 g } fresh zero
              (by rw [List.length_cons]; dsimp only; omega)]
          simp [groupsBytes]

/-- Groups up to the first `::`. -/
theorem scanGroups_upto_elision (g : UInt16) (groups : List UInt16) (token rest : List UInt8) (s : Scan)
    (fresh : s.digitsSeen = 0) (zero : s.val = 0) (first : s.elision = none)
    (room : s.stored.length + 2 * (groups.length + 1) ≤ 16) :
    scanGroups token (groupsText (g :: groups) ++ colon :: colon :: rest) s =
      scanGroups rest rest { s with
        stored := s.stored ++ groupsBytes (g :: groups),
        elision := some (s.stored ++ groupsBytes (g :: groups)).length } := by
  have stored : s.stored.length + 2 ≤ 16 := by omega
  induction groups generalizing token s g with
  | nil =>
      have single : groupsText [g] = numeral 16 g.toNat := by simp [groupsText]
      rw [single, scanGroups_group token _ s g fresh zero stored (List.cons_ne_nil _ _),
        scanGroups_elision _ rest { s with stored := s.stored ++ put16 g } fresh first]
      simp [groupsBytes]
  | cons h groups ih =>
      rw [List.length_cons] at room
      have longer : (s.stored ++ put16 g).length = s.stored.length + 2 := by simp [put16]
      rw [groupsText_cons, List.append_assoc, List.cons_append,
        scanGroups_group token _ s g fresh zero stored (by simp [groupsText_ne_nil]),
        ih h _ { s with stored := s.stored ++ put16 g } fresh zero first (by dsimp only; omega) (by dsimp only; omega)]
      simp [groupsBytes]

/-! ## What is printed is read back -/

theorem zero_notMem_numeral (n : Nat) : (0 : UInt8) ∉ numeral 16 n := by
  intro h
  have digit := numeral_isDigit (by decide : 1 < 16) (by decide) h
  exact absurd digit (by decide)

theorem zero_notMem_groupsText (groups : List UInt16) : 0 ∉ groupsText groups := by
  induction groups with
  | nil => simp [groupsText]
  | cons g groups ih =>
      cases groups with
      | nil => simpa [groupsText] using zero_notMem_numeral g.toNat
      | cons h groups =>
          rw [groupsText_cons, List.mem_append, List.mem_cons]
          rintro (hg | hc | hrest)
          · exact zero_notMem_numeral g.toNat hg
          · exact absurd hc (by decide)
          · exact ih hrest

/-- A text of groups does not begin with a colon. -/
theorem groupsText_head (g : UInt16) (groups : List UInt16) (rest : List UInt8) :
    ∃ c cs, groupsText (g :: groups) ++ rest = c :: cs ∧ c ≠ colon := by
  have split : ∃ tail, groupsText (g :: groups) = numeral 16 g.toNat ++ tail := by
    cases groups with
    | nil => exact ⟨[], by simp [groupsText]⟩
    | cons h groups => exact ⟨_, groupsText_cons g h groups⟩
  obtain ⟨tail, hsplit⟩ := split
  cases hn : numeral 16 g.toNat with
  | nil => exact absurd hn (numeral_ne_nil 16 g.toNat)
  | cons c cs =>
      refine ⟨c, cs ++ tail ++ rest, by rw [hsplit, hn]; simp, ?_⟩
      rintro rfl
      have digit := numeral_isDigit (by decide : 1 < 16) (by decide) (hn ▸ List.mem_cons_self : colon ∈ numeral 16 g.toNat)
      exact absurd digit (by decide)

theorem inetPton6_of_head {text : List UInt8} {c : UInt8} {cs : List UInt8} (h : text = c :: cs)
    (hc : c ≠ colon) (clean : 0 ∉ text) : inetPton6 text = (scanGroups text text {}).bind Scan.close := by
  subst h
  rw [inetPton6, cString_eq clean]
  exact if_neg hc

/-- Eight groups without an elision. -/
theorem inetPton6_groups {groups : List UInt16} (h : groups.length = 8) :
    inetPton6 (groupsText groups) = some (groupsBytes groups) := by
  cases groups with
  | nil => cases h
  | cons g groups =>
      obtain ⟨c, cs, hhead, hc⟩ := groupsText_head g groups []
      rw [List.append_nil] at hhead
      rw [inetPton6_of_head hhead hc (zero_notMem_groupsText _), scanGroups_last _ _ {} rfl rfl (by simp [h])]
      simp [Scan.close, groupsBytes_length, h]

/-- Fewer than eight groups around an elision, which stands for the zero bytes that are missing. -/
theorem inetPton6_elided {before after : List UInt16} (h : before.length + after.length < 8) :
    inetPton6 (groupsText before ++ colon :: colon :: groupsText after) =
      some (groupsBytes before ++ List.replicate (16 - 2 * (before.length + after.length)) 0 ++
        groupsBytes after) := by
  have clean : 0 ∉ groupsText before ++ colon :: colon :: groupsText after := by
    simp [zero_notMem_groupsText, colon]
  have close : (Scan.mk (groupsBytes before ++ groupsBytes after) (some (groupsBytes before).length) 0 0).close =
      some (groupsBytes before ++ List.replicate (16 - 2 * (before.length + after.length)) 0 ++
        groupsBytes after) := by
    have short : 2 * before.length + 2 * after.length ≠ 16 := by omega
    simp [Scan.close, groupsBytes_length, short, Nat.mul_add]
  rw [← close]
  cases before with
  | nil =>
      have skipped : inetPton6 (colon :: colon :: groupsText after) =
          (scanGroups (colon :: groupsText after) (colon :: groupsText after) {}).bind Scan.close := by
        rw [inetPton6, cString_eq (by simpa [groupsText] using clean)]
        rfl
      have nothing : groupsText [] = [] := rfl
      rw [List.length_nil, Nat.zero_add] at h
      rw [nothing, List.nil_append, skipped, scanGroups_elision _ _ {} rfl rfl]
      exact scanGroups_last after _ { elision := some 0 } rfl rfl (by dsimp only [List.length_nil]; omega)
  | cons g before =>
      rw [List.length_cons] at h
      obtain ⟨c, cs, hhead, hc⟩ := groupsText_head g before (colon :: colon :: groupsText after)
      rw [inetPton6_of_head hhead hc clean,
        scanGroups_upto_elision g before _ _ {} rfl rfl rfl (by simp; omega),
        scanGroups_last _ _ _ rfl rfl (by simp [groupsBytes_length]; omega)]
      simp

end InetText
