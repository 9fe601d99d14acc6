import NetworkThreatEngine.Dissector.Safety
import NetworkThreatEngine.Lib.Lines

/-!
# Lines of an HTTP request

The extractor scans the payload three times, each with its own way to stop: for the end of the URI at a
space, for the header lines at a CR LF, for the host's value at a CR LF that has to fit. What the three scans
return is said here in terms of the payload's lines.
-/
namespace Nte
open ByteReader ByteReader.Outcome Lines

/-! ## The header lines -/

/-- The first header line in front of the blank one that starts with "Host: ", and the lines behind it. -/
def hostLine : List Octets → Option (Octets × List Octets)
  | [] => none
  | line :: behind =>
      if line = [] then none else if kHost <+: line then some (line, behind) else hostLine behind

def hostValue (line : Octets) : Octets := line.drop kHost.length

/-- What the header loop returns: the last byte of a line that is not ended is left out. -/
def hostRead : Option (Octets × List Octets) → Octets
  | none => []
  | some (line, []) => (hostValue line).dropLast
  | some (line, _ :: _) => hostValue line

/-! ## Tests at a position -/

section Tests
variable {payload pre s line rest text : Octets} {fuel : Nat}

theorem matchesAt_append (pre : Octets) (fits : text.length ≤ s.length) :
    matchesAt (pre ++ s) pre.length text = .ok (decide (text <+: s)) := by
  have taken : slice (pre ++ s) pre.length text.length = .ok (s.take text.length) :=
    (slice_append_add pre s 0 text.length).trans (slice_of_le (by omega))
  rw [matchesAt, taken, ok_bind, pure_eq, Outcome.ok.injEq, Bool.eq_iff_iff, beq_iff_eq, decide_eq_true_iff,
    List.prefix_iff_eq_take]
  exact eq_comm

theorem not_prefix_of_short (short : s.length < text.length) : ¬ text <+: s := by
  intro h
  exact absurd h.length_le (Nat.not_le.mpr short)

theorem hostAt_append (pre s : Octets) :
    hostAt (pre ++ s) (pre ++ s).length pre.length = .ok (decide (kHost <+: s)) := by
  have left : sub (pre ++ s).length pre.length = .ok s.length := by
    rw [sub_of_le (by simp), List.length_append, Nat.add_sub_cancel_left]
  rw [hostAt, left, ok_bind]
  split
  · rename_i fits
    exact matchesAt_append pre fits
  · rename_i short
    rw [decide_eq_false (not_prefix_of_short (Nat.lt_of_not_le short))]

theorem crlfAt_append (pre : Octets) (two : 2 ≤ s.length) :
    crlfAt (pre ++ s) pre.length = .ok (decide (crlf <+: s)) := by
  match s, two with
  | c :: d :: rest, _ =>
      have first : byteAt (pre ++ c :: d :: rest) pre.length = .ok c := byteAt_append_add pre _ 0
      have second : byteAt (pre ++ c :: d :: rest) (pre.length + 1) = .ok d := byteAt_append_add pre _ 1
      rw [crlfAt, first, ok_bind, second, ok_bind, pure_eq]
      split
      · rename_i cr
        subst cr
        simp [crlf, eq_comm, beq_eq_decide]
      · rename_i other
        simp [crlf, Ne.symm other]

theorem moreLine_append (pre s : Octets) :
    moreLine (pre ++ s) (pre ++ s).length pre.length = .ok (decide (2 ≤ s.length ∧ ¬ crlf <+: s)) := by
  rw [moreLine]
  split
  · rename_i inside
    have two : 2 ≤ s.length := by
      rw [List.length_append] at inside
      omega
    rw [crlfAt_append pre two, ok_bind, pure_eq]
    simp [two]
  · rename_i past
    have short : ¬ 2 ≤ s.length := by
      rw [List.length_append] at past
      omega
    simp [short]

theorem moreUri_append (pre s : Octets) :
    moreUri (pre ++ s) (pre ++ s).length pre.length = .ok (s.head?.any (· != 32)) := by
  cases s with
  | nil => exact if_neg (by simp)
  | cons c rest =>
      have first : byteAt (pre ++ c :: rest) pre.length = .ok c := byteAt_append_add pre _ 0
      rw [moreUri, if_pos (by simp), first]
      rfl

/-! ## Where the scans stop -/

theorem scan_uri (split : payload = pre ++ s) (enough : s.length < fuel) :
    scan (moreUri payload payload.length) fuel pre.length =
      .ok (pre.length + (s.takeWhile (· != 32)).length) := by
  have look (pre s : Octets) (split : payload = pre ++ s) :
      moreUri payload payload.length pre.length = .ok (s.head?.any (· != 32)) := split ▸ moreUri_append pre s
  have counted : passed (fun s => s.head?.any (· != 32)) s = (s.takeWhile (· != 32)).length := by
    clear split enough
    induction s with
    | nil => rfl
    | cons c s ih =>
        rw [passed, List.takeWhile_cons, ih]
        cases more : c != 32 with
        | false => simp [more]
        | true => simp [more]
  rw [scan_passed look rfl split enough, counted]

/-- The line scan goes on while two bytes are left that are no line end. -/
def lineGoesOn (s : Octets) : Bool := decide (2 ≤ s.length ∧ ¬ crlf <+: s)

theorem scan_line (split : payload = pre ++ s) (enough : s.length < fuel) :
    scan (moreLine payload payload.length) fuel pre.length = .ok (pre.length + passed lineGoesOn s) := by
  have look (pre s : Octets) (split : payload = pre ++ s) :
      moreLine payload payload.length pre.length = .ok (lineGoesOn s) := split ▸ moreLine_append pre s
  exact scan_passed look rfl split enough

theorem passed_ended (whole : ¬ crlf <:+: line) : passed lineGoesOn (line ++ crlf ++ rest) = line.length := by
  induction line with
  | nil => simp [passed, lineGoesOn, crlf]
  | cons c line ih =>
      have more : lineGoesOn (c :: (line ++ crlf ++ rest)) = true :=
        decide_eq_true ⟨by simp [crlf]; omega, not_prefix_line whole⟩
      rw [List.cons_append, List.cons_append, passed, if_pos more, ih (not_infix_tail whole).2, List.length_cons]

theorem passed_open (whole : ¬ crlf <:+: s) : passed lineGoesOn s = s.length - 1 := by
  induction s with
  | nil => rfl
  | cons c s ih =>
      have apart := not_infix_tail whole
      cases s with
      | nil => rfl
      | cons d s =>
          have more : lineGoesOn (c :: d :: s) = true := decide_eq_true ⟨by simp, apart.1⟩
          rw [passed, if_pos more, ih apart.2]
          simp

theorem findLineEnd_eq (pre s : Octets) :
    findLineEnd (pre ++ s) (pre ++ s).length pre.length = .ok (pre.length + passed lineGoesOn s) :=
  scan_line rfl (by simp only [List.length_append]; omega)

end Tests

/-! ## The header loop -/

section Headers
variable {text line rest value : Octets} {headers : List Octets}

/-- Whether a text starts with one that has no CR in it is decided by its first line. -/
theorem prefix_line (clean : 13 ∉ text) : text <+: line ++ crlf ++ rest ↔ text <+: line := by
  constructor
  · intro starts
    rw [List.append_assoc] at starts
    rcases Nat.lt_or_ge line.length text.length with short | long
    · have first : line ++ [13] <+: line ++ (crlf ++ rest) := ⟨10 :: rest, by simp [crlf]⟩
      have inside := List.prefix_of_prefix_length_le first starts (by simpa using short)
      exact absurd (inside.subset (by simp : (13 : UInt8) ∈ line ++ [13])) clean
    · exact List.prefix_of_prefix_length_le starts (List.prefix_append line _) long
  · intro starts
    rw [List.append_assoc]
    exact starts.trans (List.prefix_append line _)

theorem host_clean : 13 ∉ kHost := by decide

theorem not_crlf_right {xs ys : Octets} (whole : ¬ crlf <:+: xs ++ ys) : ¬ crlf <:+: ys :=
  fun found => whole (found.trans (List.suffix_append xs ys).isInfix)

theorem lines_cons_lines (s : Octets) : ∃ first others, lines s = first :: others := by
  rcases ended_or_open s with ⟨line, rest, rfl, whole⟩ | whole
  · exact ⟨line, lines rest, lines_ended whole⟩
  · exact ⟨s, [], lines_open whole⟩

theorem hostLine_host (full : line ≠ []) (host : kHost <+: line) : hostLine (line :: headers) = some (line, headers) := by
  rw [hostLine, if_neg full, if_pos host]

theorem hostLine_other (full : line ≠ []) (other : ¬ kHost <+: line) :
    hostLine (line :: headers) = hostLine headers := by
  rw [hostLine, if_neg full, if_neg other]

theorem hostValue_host : hostValue (kHost ++ value) = value := List.drop_left

/-- The value of a host line is read up to where the scan behind "Host: " stops. -/
theorem read_value (pre : Octets) {n : Nat} (stop : passed lineGoesOn value = n) (fits : n ≤ value.length) :
    (do
      let valEnd ← findLineEnd (pre ++ (kHost ++ value)) (pre ++ (kHost ++ value)).length (pre.length + kHost.length)
      let size ← sub valEnd (pre.length + kHost.length)
      slice (pre ++ (kHost ++ value)) (pre.length + kHost.length) size) = .ok (value.take n) := by
  have found := findLineEnd_eq (pre ++ kHost) value
  have start : (pre ++ kHost).length = pre.length + kHost.length := List.length_append
  rw [stop, start, List.append_assoc] at found
  have taken : slice (pre ++ (kHost ++ value)) (pre.length + kHost.length) n = .ok (value.take n) := by
    rw [← List.length_append, ← List.append_assoc]
    exact (slice_append_add (pre ++ kHost) value 0 n).trans (slice_of_le (by omega))
  rw [found, ok_bind, sub_of_le (Nat.le_add_right _ _), ok_bind, Nat.add_sub_cancel_left, taken]

theorem findHost_past {payload : Octets} {len fuel pos : Nat} (past : len ≤ pos + 1) :
    findHost payload len (fuel + 1) pos = .ok [] := if_neg (Nat.not_lt.mpr past)

/-- The last line, when nothing ends it. -/
theorem findHost_open {pre s : Octets} {fuel : Nat} (whole : ¬ crlf <:+: s) (enough : s.length < fuel + 1) :
    findHost (pre ++ s) (pre ++ s).length (fuel + 1) pre.length = .ok (hostRead (hostLine [s])) := by
  by_cases two : 2 ≤ s.length
  · have inside : pre.length + 1 < (pre ++ s).length := by
      rw [List.length_append]
      omega
    have plain : ¬ crlf <+: s := fun starts => whole starts.isInfix
    have full : s ≠ [] := List.length_pos_iff.mp (by omega)
    rw [findHost, if_pos inside, crlfAt_append pre two, ok_bind, decide_eq_false plain, if_neg (by decide),
      hostAt_append, ok_bind]
    by_cases host : kHost <+: s
    · rw [decide_eq_true host, if_pos rfl, hostLine_host full host]
      obtain ⟨value, rfl⟩ := host
      have read := read_value pre (passed_open (not_crlf_right whole)) (Nat.sub_le _ _)
      rw [← List.dropLast_eq_take] at read
      exact read.trans (congrArg (fun value => Outcome.ok value.dropLast) hostValue_host.symm)
    · obtain ⟨spare, rfl⟩ := Nat.exists_eq_add_of_lt (show 0 < fuel by omega)
      rw [decide_eq_false host, if_neg (by decide), findLineEnd_eq, passed_open whole, ok_bind,
        hostLine_other full host]
      exact findHost_past (by rw [List.length_append]; omega)
  · have other : hostLine [s] = none := by
      have short : ¬ kHost <+: s := not_prefix_of_short (show s.length < 6 by omega)
      rw [hostLine, if_neg short, hostLine, ite_self]
    rw [other]
    exact findHost_past (by rw [List.length_append]; omega)

/-- The loop looks at one header line after the other, from any line start on. -/
theorem findHost_lines {pre s : Octets} {fuel : Nat} (enough : s.length < fuel) :
    findHost (pre ++ s) (pre ++ s).length fuel pre.length = .ok (hostRead (hostLine (lines s))) := by
  induction fuel generalizing pre s with
  | zero => omega
  | succ fuel ih =>
      rcases ended_or_open s with ⟨line, rest, rfl, whole⟩ | whole
      · have two : 2 ≤ (line ++ crlf ++ rest).length := by simp [crlf]; omega
        have inside : pre.length + 1 < (pre ++ (line ++ crlf ++ rest)).length := by
          rw [List.length_append]
          omega
        rw [findHost, if_pos inside, crlfAt_append pre two, ok_bind, lines_ended whole]
        cases line with
        | nil => rfl
        | cons c line =>
            have plain : ¬ crlf <+: c :: line ++ crlf ++ rest := not_prefix_line whole
            rw [decide_eq_false plain, if_neg (by decide), hostAt_append, ok_bind]
            by_cases host : kHost <+: c :: line
            · obtain ⟨first, others, split⟩ := lines_cons_lines rest
              rw [decide_eq_true ((prefix_line host_clean).mpr host), if_pos rfl, hostLine_host (List.cons_ne_nil c line) host,
                split]
              obtain ⟨value, same⟩ := host
              rw [← same] at whole ⊢
              have stop : passed lineGoesOn (value ++ crlf ++ rest) = value.length := passed_ended (not_crlf_right whole)
              have read := read_value pre stop (by simp)
              simp only [List.append_assoc, List.take_left] at read ⊢
              exact read.trans (congrArg Outcome.ok hostValue_host.symm)
            · rw [decide_eq_false (fun starts => host ((prefix_line host_clean).mp starts)), if_neg (by decide),
                findLineEnd_eq, passed_ended whole, ok_bind, hostLine_other (List.cons_ne_nil c line) host]
              have next := @ih (pre ++ (c :: line ++ crlf)) rest (by simp [crlf] at enough; omega)
              have start : (pre ++ (c :: line ++ crlf)).length = pre.length + (c :: line).length + 2 := by
                rw [List.length_append, List.length_append, ← Nat.add_assoc]
                rfl
              rw [start, List.append_assoc] at next
              exact next
      · rw [lines_open whole]
        exact findHost_open whole enough

end Headers

/-! ## The whole extractor -/

/-- The first supported method the payload starts with, its space included. -/
def methodOf (payload : Octets) : Option Octets := kMethods.find? fun m => decide (m <+: payload)

def uriRead (payload method : Octets) : Octets := (payload.drop method.length).takeWhile (· != 32)

theorem findMethod_eq (payload : Octets) (methods : List Octets) :
    findMethod payload payload.length methods =
      .ok (match methods.find? fun m => decide (m <+: payload) with
        | some m => m.take (m.length - 1)
        | none => []) := by
  induction methods with
  | nil => rfl
  | cons m methods ih =>
      rw [findMethod]
      by_cases fits : payload.length ≥ m.length
      · have tested : matchesAt payload 0 m = .ok (decide (m <+: payload)) := matchesAt_append [] fits
        rw [if_pos fits, tested, ok_bind, List.find?_cons]
        by_cases here : m <+: payload
        · rw [decide_eq_true here]
          rfl
        · rw [decide_eq_false here, ih]
          rfl
      · rw [if_neg fits, List.find?_cons, decide_eq_false (not_prefix_of_short (Nat.lt_of_not_le fits)), ih]

theorem methodOf_mem {payload m : Octets} (found : methodOf payload = some m) : m ∈ kMethods :=
  List.mem_of_find?_eq_some found

theorem methodOf_starts {payload m : Octets} (found : methodOf payload = some m) : m <+: payload := by
  have tested := List.find?_some (p := fun m => decide (m <+: payload)) found
  exact of_decide_eq_true tested

/-- Every supported method is a name and the only space behind it. -/
theorem kMethods_shape : ∀ m ∈ kMethods, (m.take (m.length - 1)).isEmpty = false ∧
    (m.take (m.length - 1)).length + 1 = m.length ∧ m.count 32 = 1 ∧ 13 ∉ m := by decide

/-- All that is reported, in terms of the payload's lines. -/
theorem decodeHttp_eq (payload : Octets) :
    decodeHttp payload payload.length =
      if payload.length < 16 then .reject
      else match methodOf payload with
        | none => .reject
        | some m => .ok { method := m.take (m.length - 1), uri := uriRead payload m,
                          host := hostRead (hostLine (lines payload).tail) } := by
  rw [decodeHttp]
  split
  · rfl
  rw [findMethod_eq, ok_bind, ← methodOf]
  cases found : methodOf payload with
  | none => rfl
  | some m =>
      obtain ⟨named, size, -, -⟩ := kMethods_shape m (methodOf_mem found)
      obtain ⟨behind, rfl⟩ := methodOf_starts found
      have uri : uriRead (m ++ behind) m = behind.takeWhile (· != 32) := by rw [uriRead, List.drop_left]
      have taken : slice (m ++ behind) m.length (behind.takeWhile (· != 32)).length =
          .ok (behind.takeWhile (· != 32)) := by
        refine (slice_append_add m behind 0 _).trans ?_
        rw [slice_of_le (by simpa using (List.takeWhile_prefix _).length_le)]
        exact congrArg Outcome.ok ((List.prefix_iff_eq_take.mp (List.takeWhile_prefix _)).symm)
      have host : findHost (m ++ behind) (m ++ behind).length ((m ++ behind).length + 1)
          (passed lineGoesOn (m ++ behind) + 2) = .ok (hostRead (hostLine (lines (m ++ behind)).tail)) := by
        rcases ended_or_open (m ++ behind) with ⟨line, rest, split, whole⟩ | whole
        · rw [split, passed_ended whole, lines_ended whole]
          have start : (line ++ crlf).length = line.length + 2 := List.length_append
          rw [← start]
          exact findHost_lines (by simp only [List.length_append]; omega)
        · rw [passed_open whole, lines_open whole]
          exact findHost_past (by omega)
      have eol := findLineEnd_eq [] (m ++ behind)
      rw [List.nil_append, List.length_nil, Nat.zero_add] at eol
      dsimp only
      rw [named, if_neg (by decide), size, scan_uri rfl (by simp only [List.length_append]; omega), ok_bind,
        sub_of_le (Nat.le_add_right _ _), ok_bind, Nat.add_sub_cancel_left, taken, ok_bind, eol, ok_bind, host, uri]
      rfl

end Nte
