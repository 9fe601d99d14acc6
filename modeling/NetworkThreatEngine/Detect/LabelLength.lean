import NetworkThreatEngine.Detect.ThreatDetector
import NetworkThreatEngine.Dissector.Names
import NetworkThreatEngine.Lib.Separators

/-!
# Label lengths seen by the tunnelling rule

The dissector joins the labels of a question by dots and the detector measures what stands between dots. A
label is any bytes, and one with a dot in it is measured in pieces.
-/
namespace Nte
open ByteReader Separators ThreatDetector

/-! ## The scan measures pieces -/

/-- One round of the scan over a name's bytes: the longest piece so far and where the current one starts. -/
def labelScan (qname : Octets) (acc : Nat × Nat) (i : Nat) : Nat × Nat :=
  if i = qname.length || qname.getD i 0 == 46 then (max acc.1 (i - acc.2), i + 1) else acc

section Scan
variable {qname before piece : Octets} {c : UInt8} {rest : Octets} {found : Nat}

theorem labelScan_end (split : qname = before ++ piece) :
    labelScan qname (found, before.length) (before.length + piece.length) =
      (max found piece.length, before.length + piece.length + 1) := by
  subst split
  simp [labelScan]

theorem labelScan_inside (split : qname = before ++ piece ++ c :: rest) :
    labelScan qname (found, before.length) (before.length + piece.length) =
      if c = 46 then (max found piece.length, before.length + piece.length + 1) else (found, before.length) := by
  subst split
  simp [labelScan]

/-- From the start of a piece on: the rest of the scan takes in that piece and those behind it. -/
theorem foldl_labelScan (split : qname = before ++ piece ++ rest) (whole : 46 ∉ piece) :
    ((List.range' (before.length + piece.length) (rest.length + 1)).foldl (labelScan qname)
      (found, before.length)).1 = max found (longest ((piece ++ rest).splitOn 46)) := by
  induction rest generalizing before piece found with
  | nil =>
      rw [List.append_nil] at split
      rw [List.append_nil, List.splitOn_eq_singleton whole, List.length_nil, List.range'_succ, List.foldl_cons,
        labelScan_end split, List.range'_zero, List.foldl_nil, longest_cons, longest_nil, Nat.max_zero]
  | cons c rest ih =>
      rw [List.length_cons, List.range'_succ, List.foldl_cons, labelScan_inside split]
      split
      · rename_i dot
        subst dot
        have next : qname = (before ++ piece ++ [46]) ++ [] ++ rest := by simp [split]
        have tail := @ih _ _ (max found piece.length) next List.not_mem_nil
        simp only [List.length_append, List.length_singleton, List.length_nil, Nat.add_zero, List.nil_append] at tail
        rw [tail, List.splitOn_append_cons_self_of_not_mem whole, longest_cons, max_assoc]
      · rename_i other
        have next : qname = before ++ (piece ++ [c]) ++ rest := by simp [split]
        have tail := @ih _ _ found next (by simp [whole, Ne.symm other])
        rw [List.length_append, List.length_singleton, ← Nat.add_assoc, List.append_assoc, List.singleton_append] at tail
        exact tail

end Scan

/-- What the rule calls the longest label is the longest piece between dots. -/
theorem maxLabel_eq (qname : Octets) : maxLabel qname = longest (qname.splitOn 46) := by
  have split : qname = [] ++ [] ++ qname := rfl
  have scanned := @foldl_labelScan qname [] [] qname 0 split List.not_mem_nil
  rw [Nat.zero_max] at scanned
  rw [maxLabel, List.range_eq_range']
  exact scanned

/-! ## Measuring a reported name -/

section Reported
variable {payload : Octets} {dns : DnsInfo} {labels : List Octets}

theorem QueryFound.measured (found : QueryFound payload dns labels) :
    maxLabel dns.queryName = longest (labels.flatMap (List.splitOn 46)) := by
  rw [maxLabel_eq, found.name]
  exact congrArg longest (splitOn_intercalate_pieces found.labelled)

theorem QueryFound.length_name (found : QueryFound payload dns labels) :
    dns.queryName.length = (labels.map List.length).sum + labels.length - 1 := by
  have joined := length_intercalate (46 : UInt8) found.labelled
  have name : dns.queryName = [46].intercalate labels := found.name
  rw [name]
  omega

end Reported

/-- The length of a reported name is that of its labels and the dots between them; the longest label is
measured right exactly if a longest one holds no dot. -/
theorem dns_label_measure_iff (payload : Octets) (info after : PacketInfo) (dns : DnsInfo) (unset : info.dns = none)
    (extracted : extractDns payload payload.length info = .ok after) (sets : after.dns = some dns) :
    ∃ labels, LabelRun payload labels ∧ (∀ labels', LabelRun payload labels' → labels' = labels) ∧
      dns.queryName = (ascii ".").intercalate labels ∧
      ((maxLabel dns.queryName = longest labels ∧
          dns.queryName.length = (labels.map List.length).sum + labels.length - 1) ↔
        ∃ label ∈ labels, label.length = longest labels ∧ 46 ∉ label) := by
  obtain ⟨labels, found⟩ := decodeDns_found (extractDns_sets unset extracted sets)
  refine ⟨labels, found.run, fun labels' other => found.run.unique other, found.name, ?_⟩
  rw [found.measured, ← longest_pieces_iff found.labelled]
  exact and_iff_left found.length_name

theorem dns_label_measure_iff_short :
    extractDns shortQuery shortQuery.length {} =
        .ok { ({} : PacketInfo) with dns := some ⟨[97], 1, false⟩, l7Proto := .DNS } ∧
      ∃ labels, LabelRun shortQuery labels ∧ (∀ labels', LabelRun shortQuery labels' → labels' = labels) ∧
        [97] = (ascii ".").intercalate labels ∧
        ((maxLabel [97] = longest labels ∧
            ([97] : Octets).length = (labels.map List.length).sum + labels.length - 1) ↔
          ∃ label ∈ labels, label.length = longest labels ∧ 46 ∉ label) := by
  have extracted : extractDns shortQuery shortQuery.length {} =
      .ok { ({} : PacketInfo) with dns := some ⟨[97], 1, false⟩, l7Proto := .DNS } := by decide +kernel
  exact ⟨extracted, dns_label_measure_iff shortQuery {} _ ⟨[97], 1, false⟩ rfl extracted rfl⟩

/-- A label of 43 bytes, above the default limit of 40, whose middle byte is a dot. -/
def dottedLabel : Octets := List.replicate 21 97 ++ ascii "." ++ List.replicate 21 98

def dottedQuery : Octets := dnsQuery [dottedLabel] [0, 0, 16, 0, 1]

/-- The only label has 43 bytes and the rule measures 21, below its limit. -/
theorem dotted_label_passes :
    extractDns dottedQuery dottedQuery.length {} =
        .ok { ({} : PacketInfo) with dns := some ⟨dottedLabel, 16, false⟩, l7Proto := .DNS } ∧
      LabelRun dottedQuery [dottedLabel] ∧ longest [dottedLabel] = 43 ∧ maxLabel dottedLabel = 21 ∧
      longName {} dottedLabel = false := by
  have run : LabelRun dottedQuery [dottedLabel] :=
    dnsQuery_run (by decide +kernel) (by decide) (.inr (by decide +kernel))
  exact ⟨by decide +kernel, run, by decide +kernel, by decide +kernel, by decide +kernel⟩

end Nte
