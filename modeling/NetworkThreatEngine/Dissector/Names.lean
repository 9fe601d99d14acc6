import NetworkThreatEngine.Dissector.Extractors

/-!
# Names of DNS questions

A question's name is a sequence of labels behind their length bytes, ended by a zero byte; the two high bits
of a length byte are zero. `extract_dns` returns on one of the other three values of these bits, and stops
at the hop limit as it does at the zero byte.
-/
namespace Nte
open ByteReader ByteReader.Outcome Constants

/-- A well-formed question and the fields that report it. -/
structure Question (payload : Octets) (dns : DnsInfo) (labels : List Octets) : Prop where
  labelled : labels ≠ []
  sized : ∀ label ∈ labels, 1 ≤ label.length ∧ label.length ≤ 63
  held : Holds payload DNS_HEADER_SIZE (seq8 labels ++ [0])
  name : dns.queryName = (ascii ".").intercalate labels
  type : be16 payload (DNS_HEADER_SIZE + (seq8 labels).length + 1) = .ok dns.queryType

/-- The labels in front of the first zero length byte, but no more than the hop limit. -/
structure LabelRun (payload : Octets) (labels : List Octets) : Prop where
  sized : ∀ label ∈ labels, 0 < label.length ∧ label.length < 2 ^ 8
  held : Holds payload DNS_HEADER_SIZE (seq8 labels)
  within : labels.length ≤ DNS_MAX_LABEL_HOPS
  ends : labels.length = DNS_MAX_LABEL_HOPS ∨
    byteAt payload (DNS_HEADER_SIZE + (seq8 labels).length) = .ok 0

/-! ## The bytes determine the labels -/

section Run
variable {payload : Octets} {labels labels' : List Octets} {dns : DnsInfo}

/-- Where another label follows there is no zero byte. -/
theorem not_rooted {label : Octets} {rest : List Octets} {off : Nat}
    (held : Holds payload off (seq8 (labels ++ label :: rest))) (size : 0 < label.length ∧ label.length < 2 ^ 8) :
    byteAt payload (off + (seq8 labels).length) ≠ .ok 0 := by
  intro rooted
  rw [seq8_append] at held
  obtain ⟨n, length, same, -⟩ := vec8_of_holds held.right.left size.2
  rw [← Outcome.ok.inj (rooted.symm.trans length)] at same
  exact absurd same.symm (Nat.pos_iff_ne_zero.mp size.1)

theorem LabelRun.of_prefix (run : LabelRun payload labels) (run' : LabelRun payload labels')
    (shorter : labels <+: labels') : labels' = labels := by
  obtain ⟨rest, rfl⟩ := shorter
  cases rest with
  | nil => exact List.append_nil _
  | cons label rest =>
      have within := run'.within
      rw [List.length_append, List.length_cons] at within
      rcases run.ends with limit | rooted
      · omega
      · exact absurd rooted (not_rooted run'.held (run'.sized label (by simp)))

theorem LabelRun.fits (run : LabelRun payload labels) : ∀ label ∈ labels, label.length < 2 ^ 8 :=
  fun label mem => (run.sized label mem).2

theorem LabelRun.unique (run : LabelRun payload labels) (run' : LabelRun payload labels') : labels' = labels := by
  rcases seq8_comparable run.held run'.held run.fits run'.fits with shorter | longer
  · exact run.of_prefix run' shorter
  · exact (run'.of_prefix run longer).symm

theorem Question.fits (question : Question payload dns labels) : ∀ label ∈ labels, label.length < 2 ^ 8 := by
  intro label mem
  have size := question.sized label mem
  omega

theorem Question.rooted (question : Question payload dns labels) :
    byteAt payload (DNS_HEADER_SIZE + (seq8 labels).length) = .ok 0 := byteAt_of_holds question.held.right

end Run

/-! ## What the loop decodes -/

/-- One round's change of the name. -/
def appendLabel (name label : Octets) : Octets := name ++ (if name.isEmpty then [] else ascii ".") ++ label

theorem intercalate_append_cons (sep name label : Octets) (labels : List Octets) :
    sep.intercalate ((name ++ sep ++ label) :: labels) = name ++ sep ++ sep.intercalate (label :: labels) := by
  cases labels with
  | nil => simp only [List.intercalate_singleton]
  | cons next labels => simp only [List.intercalate_cons_cons, List.append_assoc]

theorem foldl_appendLabel {name : Octets} (named : name ≠ []) (labels : List Octets) :
    labels.foldl appendLabel name = (ascii ".").intercalate (name :: labels) := by
  induction labels generalizing name with
  | nil => exact List.intercalate_singleton.symm
  | cons label labels ih =>
      have separated : appendLabel name label = name ++ ascii "." ++ label := by
        rw [appendLabel, if_neg (by rwa [List.isEmpty_iff])]
      rw [List.foldl_cons, separated, ih (by simp [named]), intercalate_append_cons, List.intercalate_cons_cons]

/-- The loop's name is the labels joined by dots. -/
theorem joined {labels : List Octets} (sized : ∀ label ∈ labels, 0 < label.length) :
    labels.foldl appendLabel [] = (ascii ".").intercalate labels := by
  cases labels with
  | nil => rfl
  | cons label labels =>
      have first : appendLabel [] label = label := rfl
      rw [List.foldl_cons, first]
      exact foldl_appendLabel (List.length_pos_iff.mp (sized label List.mem_cons_self)) labels

/-- How the loop ends: at the zero byte, at the hop limit, or at the end of the payload. -/
inductive LoopEnd (payload : Octets) (hops stop next : Nat) (labels : List Octets) : Prop where
  | root (before : labels.length < hops) (zero : byteAt payload stop = .ok 0) (behind : next = stop + 1)
  | limit (reached : labels.length = hops) (here : next = stop)
  | outside (past : payload.length ≤ next)

structure NameRead (payload : Octets) (hops offset next : Nat) (name result : Octets) (labels : List Octets) :
    Prop where
  sized : ∀ label ∈ labels, 0 < label.length ∧ label.length < 2 ^ 8
  held : Holds payload offset (seq8 labels)
  joins : result = labels.foldl appendLabel name
  ends : LoopEnd payload hops (offset + (seq8 labels).length) next labels

theorem NameRead.nil {payload name : Octets} {hops offset next : Nat} (inside : offset ≤ payload.length)
    (ends : LoopEnd payload hops offset next []) : NameRead payload hops offset next name name [] :=
  ⟨List.forall_mem_nil _, holds_nil inside, rfl, ends⟩

theorem LoopEnd.cons {payload label : Octets} {hops stop next : Nat} {labels : List Octets}
    (ends : LoopEnd payload hops stop next labels) : LoopEnd payload (hops + 1) stop next (label :: labels) := by
  cases ends with
  | root before zero behind => exact .root (Nat.succ_lt_succ before) zero behind
  | limit reached here => exact .limit (congrArg Nat.succ reached) here
  | outside past => exact .outside past

/-- A label in front of what the rest of the loop reads. -/
theorem NameRead.cons {payload name result label : Octets} {hops offset next : Nat} {labels : List Octets}
    (size : 0 < label.length ∧ label.length < 2 ^ 8) (here : Holds payload offset (vec8 label))
    (rest : NameRead payload hops (offset + 1 + label.length) next (appendLabel name label) result labels) :
    NameRead payload (hops + 1) offset next name result (label :: labels) := by
  have length : offset + (vec8 label).length = offset + 1 + label.length := by
    rw [length_vec8, Nat.add_assoc]
  refine ⟨List.forall_mem_cons.mpr ⟨size, rest.sized⟩, here.append ?_, rest.joins, ?_⟩
  · rw [length]
    exact rest.held
  · rw [seq8_cons, List.length_append, ← Nat.add_assoc, length]
    exact rest.ends.cons

theorem dnsLabels_read {payload : Octets} {hops offset next : Nat} {name result : Octets}
    (inside : offset ≤ payload.length)
    (h : dnsLabels payload payload.length hops offset name = .ok (next, result)) :
    ∃ labels, NameRead payload hops offset next name result labels := by
  induction hops generalizing offset name with
  | zero =>
      cases h
      exact ⟨[], .nil inside (.limit rfl rfl)⟩
  | succ hops ih =>
      rw [dnsLabels] at h
      split at h
      · obtain ⟨labelLen, length, h⟩ := bind_eq_ok.mp h
        split at h
        · rename_i zero
          cases h
          rw [zero] at length
          exact ⟨[], .nil inside (.root (Nat.succ_pos hops) length rfl)⟩
        · rename_i nonzero
          split at h
          · cases h
          · split at h
            · cases h
            · rename_i fits
              obtain ⟨label, bytes, h⟩ := bind_eq_ok.mp h
              have size := (slice_ok bytes).2
              rw [← size] at h fits
              obtain ⟨labels, rest⟩ := ih (Nat.le_of_not_gt fits) h
              have positive : labelLen.toNat ≠ 0 := fun empty => nonzero (UInt8.toNat_inj.mp empty)
              have small := labelLen.toNat_lt
              have here : Holds payload offset (vec8 label) := by
                rw [vec8, size, UInt8.ofNat_toNat]
                exact (holds_of_byteAt length).append (holds_of_slice bytes)
              exact ⟨label :: labels, .cons (by omega) here rest⟩
      · rename_i past
        cases h
        exact ⟨[], .nil inside (.outside (Nat.le_of_not_gt past))⟩

/-! ## What is reported -/

/-- What holds of a payload whose question is reported. -/
structure QueryFound (payload : Octets) (dns : DnsInfo) (labels : List Octets) : Prop where
  sized : ∀ label ∈ labels, 0 < label.length ∧ label.length < 2 ^ 8
  labelled : labels ≠ []
  held : Holds payload DNS_HEADER_SIZE (seq8 labels)
  name : dns.queryName = (ascii ".").intercalate labels
  type : (labels.length < DNS_MAX_LABEL_HOPS ∧
      byteAt payload (DNS_HEADER_SIZE + (seq8 labels).length) = .ok 0 ∧
      be16 payload (DNS_HEADER_SIZE + (seq8 labels).length + 1) = .ok dns.queryType) ∨
    (labels.length = DNS_MAX_LABEL_HOPS ∧
      be16 payload (DNS_HEADER_SIZE + (seq8 labels).length) = .ok dns.queryType)

theorem decodeDns_found {payload : Octets} {dns : DnsInfo} (h : decodeDns payload payload.length = .ok dns) :
    ∃ labels, QueryFound payload dns labels := by
  unfold decodeDns at h
  split at h
  · cases h
  · rename_i long
    obtain ⟨flags, -, h⟩ := bind_eq_ok.mp h
    obtain ⟨qdcount, -, h⟩ := bind_eq_ok.mp h
    split at h
    · cases h
    · obtain ⟨⟨next, name⟩, walked, h⟩ := bind_eq_ok.mp h
      dsimp only at h
      split at h
      · cases h
      · rename_i passed
        obtain ⟨qtype, type, h⟩ := bind_eq_ok.mp h
        cases h
        obtain ⟨labels, read⟩ := dnsLabels_read (by omega) walked
        have labelled : labels ≠ [] := by
          rintro rfl
          have empty : name = [] := read.joins
          simp [empty] at passed
        refine ⟨labels, read.sized, labelled, read.held,
          read.joins.trans (joined fun label mem => (read.sized label mem).1), ?_⟩
        cases read.ends with
        | root before zero behind => exact .inl ⟨before, zero, behind ▸ type⟩
        | limit reached here => exact .inr ⟨reached, here ▸ type⟩
        | outside past =>
            have within := be16_ok_lt type
            omega

section Found
variable {payload : Octets} {dns : DnsInfo} {labels labels' : List Octets}

theorem QueryFound.run (h : QueryFound payload dns labels) : LabelRun payload labels := by
  refine ⟨h.sized, h.held, ?_, ?_⟩
  · rcases h.type with ⟨before, -, -⟩ | ⟨reached, -⟩
    · exact Nat.le_of_lt before
    · exact Nat.le_of_eq reached
  · rcases h.type with ⟨-, zero, -⟩ | ⟨reached, -⟩
    · exact .inr zero
    · exact .inl reached

theorem intercalate_append (sep : Octets) {shown : List Octets} (some : shown ≠ []) (label : Octets)
    (rest : List Octets) :
    sep.intercalate (shown ++ label :: rest) = sep.intercalate shown ++ sep ++ sep.intercalate (label :: rest) := by
  induction shown with
  | nil => exact absurd rfl some
  | cons first shown ih =>
      cases shown with
      | nil => simp only [List.singleton_append, List.intercalate_cons_cons, List.intercalate_singleton]
      | cons second shown =>
          have longer := ih (List.cons_ne_nil _ _)
          simp only [List.cons_append] at longer
          simp only [List.cons_append, List.intercalate_cons_cons, longer, List.append_assoc]

/-- A name that reports these labels reports no others behind them. -/
theorem same_name {rest : List Octets} (labelled : labels ≠ [])
    (same : (ascii ".").intercalate (labels ++ rest) = (ascii ".").intercalate labels) : rest = [] := by
  cases rest with
  | nil => rfl
  | cons label rest =>
      rw [intercalate_append _ labelled, List.append_assoc, List.append_right_eq_self] at same
      exact absurd same (by simp [ascii])

/-- The labels of a well-formed question are the labels the loop passes. -/
theorem QueryFound.labels_eq (h : QueryFound payload dns labels) (question : Question payload dns labels') :
    labels' = labels := by
  rcases seq8_comparable h.held question.held.left h.run.fits question.fits with ⟨rest, rfl⟩ | ⟨rest, rfl⟩
  · have same := question.name.symm.trans h.name
    rw [same_name h.labelled same, List.append_nil]
  · cases rest with
    | nil => rw [List.append_nil]
    | cons label rest => exact absurd question.rooted (not_rooted h.held (h.sized label (by simp)))

/-- At the hop limit the type is read from where the zero byte should be, one byte too early. -/
theorem zeros_of_shifted {stop : Nat} {type : UInt16} (zero : byteAt payload stop = .ok 0)
    (early : be16 payload stop = .ok type) (right : be16 payload (stop + 1) = .ok type) :
    Holds payload stop [0, 0, 0] := by
  obtain ⟨first, second, hfirst, hsecond, rfl⟩ := be16_eq_ok early
  obtain ⟨second', third, hsecond', hthird, same⟩ := be16_eq_ok right
  obtain rfl := Outcome.ok.inj (zero.symm.trans hfirst)
  obtain rfl := Outcome.ok.inj (hsecond.symm.trans hsecond')
  obtain ⟨rfl, rfl⟩ := word16_inj same
  exact (holds_of_byteAt zero).append ((holds_of_byteAt hsecond).append (holds_of_byteAt hthird))

theorem shifted_of_zeros {stop : Nat} {type : UInt16} (zeros : Holds payload stop [0, 0, 0])
    (early : be16 payload stop = .ok type) : be16 payload (stop + 1) = .ok type := by
  have here : Holds payload stop (put16 0 ++ [0]) := zeros
  have behind : Holds payload (stop + 1) (put16 0 ++ []) := zeros.tail
  rw [← Outcome.ok.inj ((be16_of_holds here).symm.trans early)]
  exact be16_of_holds behind

theorem QueryFound.question_iff (h : QueryFound payload dns labels) :
    (∃ named, Question payload dns named) ↔
      (∀ label ∈ labels, label.length ≤ 63) ∧
        (labels.length < DNS_MAX_LABEL_HOPS ∨
          Holds payload (DNS_HEADER_SIZE + (seq8 labels).length) [0, 0, 0]) := by
  constructor
  · rintro ⟨named, question⟩
    obtain rfl := h.labels_eq question
    refine ⟨fun label mem => (question.sized label mem).2, ?_⟩
    rcases h.type with ⟨before, -, -⟩ | ⟨-, early⟩
    · exact .inl before
    · exact .inr (zeros_of_shifted question.rooted early question.type)
  · rintro ⟨short, ended⟩
    have sized : ∀ label ∈ labels, 1 ≤ label.length ∧ label.length ≤ 63 :=
      fun label mem => ⟨(h.sized label mem).1, short label mem⟩
    rcases h.type with ⟨-, zero, type⟩ | ⟨reached, early⟩
    · exact ⟨labels, h.labelled, sized, h.held.append (holds_of_byteAt zero), h.name, type⟩
    · rcases ended with before | zeros
      · omega
      · have root : Holds payload (DNS_HEADER_SIZE + (seq8 labels).length) ([0] ++ [0, 0]) := zeros
        exact ⟨labels, h.labelled, sized, h.held.append root.left, h.name, shifted_of_zeros zeros early⟩

end Found

/-- When a question is reported, it is the well-formed one the payload holds exactly if no label the loop
passes is too long and the zero byte comes before the hop limit. (At the limit the type is read from the
zero byte on, which makes no difference when two more zero bytes follow.) -/
theorem dns_sound_iff (payload : Octets) (info after : PacketInfo) (dns : DnsInfo) (unset : info.dns = none)
    (extracted : extractDns payload payload.length info = .ok after) (sets : after.dns = some dns) :
    ∃ labels, LabelRun payload labels ∧ (∀ labels', LabelRun payload labels' → labels' = labels) ∧
      ((∃ named, Question payload dns named) ↔
        (∀ label ∈ labels, label.length ≤ 63) ∧
          (labels.length < DNS_MAX_LABEL_HOPS ∨
            Holds payload (DNS_HEADER_SIZE + (seq8 labels).length) [0, 0, 0])) := by
  obtain ⟨labels, found⟩ := decodeDns_found (extractDns_sets unset extracted sets)
  exact ⟨labels, found.run, fun labels' other => found.run.unique other, found.question_iff⟩

/-! ## Three payloads -/

/-- A header that announces one question, and what follows it. -/
def dnsQuery (labels : List Octets) (behind : Octets) : Octets :=
  [0, 0, 1, 0, 0, 1, 0, 0, 0, 0, 0, 0] ++ seq8 labels ++ behind

/-- Type A for "a". -/
def shortQuery : Octets := dnsQuery [[97]] [0, 0, 1, 0, 1]

/-- One label of 64 bytes, which no length byte with two zero high bits announces. -/
def longLabel : Octets := dnsQuery [List.replicate 64 97] [0, 0, 1, 0, 1]

/-- One label more than the hop limit. -/
def manyLabels : Octets := dnsQuery (List.replicate 128 [97]) (vec8 [97] ++ [0, 0, 1, 0, 1])

theorem dns_sound_iff_short :
    extractDns shortQuery shortQuery.length {} =
        .ok { ({} : PacketInfo) with dns := some ⟨[97], 1, false⟩, l7Proto := .DNS } ∧
      ∃ labels, LabelRun shortQuery labels ∧ (∀ labels', LabelRun shortQuery labels' → labels' = labels) ∧
        ((∃ named, Question shortQuery ⟨[97], 1, false⟩ named) ↔
          (∀ label ∈ labels, label.length ≤ 63) ∧
            (labels.length < DNS_MAX_LABEL_HOPS ∨
              Holds shortQuery (DNS_HEADER_SIZE + (seq8 labels).length) [0, 0, 0])) := by
  have extracted : extractDns shortQuery shortQuery.length {} =
      .ok { ({} : PacketInfo) with dns := some ⟨[97], 1, false⟩, l7Proto := .DNS } := by decide +kernel
  exact ⟨extracted, dns_sound_iff shortQuery {} _ ⟨[97], 1, false⟩ rfl extracted rfl⟩

theorem LabelRun.not_question {payload : Octets} {labels : List Octets} {dns : DnsInfo}
    (run : LabelRun payload labels) (decoded : decodeDns payload payload.length = .ok dns)
    (broken : ¬ ((∀ label ∈ labels, label.length ≤ 63) ∧
      (labels.length < DNS_MAX_LABEL_HOPS ∨ Holds payload (DNS_HEADER_SIZE + (seq8 labels).length) [0, 0, 0]))) :
    ¬ ∃ named, Question payload dns named := by
  obtain ⟨labels', found⟩ := decodeDns_found decoded
  obtain rfl : labels = labels' := found.run.unique run
  exact fun question => broken (found.question_iff.mp question)

theorem dnsQuery_run {labels : List Octets} {behind : Octets}
    (sized : ∀ label ∈ labels, 0 < label.length ∧ label.length < 2 ^ 8)
    (within : labels.length ≤ DNS_MAX_LABEL_HOPS)
    (ends : labels.length = DNS_MAX_LABEL_HOPS ∨
      byteAt (dnsQuery labels behind) (DNS_HEADER_SIZE + (seq8 labels).length) = .ok 0) :
    LabelRun (dnsQuery labels behind) labels :=
  ⟨sized, ⟨[0, 0, 1, 0, 0, 1, 0, 0, 0, 0, 0, 0], behind, rfl, rfl⟩, within, ends⟩

/-- A label of 64 bytes is reported, and so is a name cut at the hop limit, with a type made of the next
label's length byte and its only letter. -/
theorem malformed_names_reported :
    (extractDns longLabel longLabel.length {} =
        .ok { ({} : PacketInfo) with dns := some ⟨List.replicate 64 97, 1, false⟩, l7Proto := .DNS } ∧
      ¬ ∃ named, Question longLabel ⟨List.replicate 64 97, 1, false⟩ named) ∧
    (extractDns manyLabels manyLabels.length {} =
        .ok { ({} : PacketInfo) with
          dns := some ⟨(ascii ".").intercalate (List.replicate 128 [97]), 0x161, false⟩, l7Proto := .DNS } ∧
      ¬ ∃ named, Question manyLabels ⟨(ascii ".").intercalate (List.replicate 128 [97]), 0x161, false⟩ named) := by
  constructor
  · have run : LabelRun longLabel [List.replicate 64 97] := dnsQuery_run (by simp) (by decide) (.inr (by decide +kernel))
    have reported : extractDns longLabel longLabel.length {} =
        .ok { ({} : PacketInfo) with dns := some ⟨List.replicate 64 97, 1, false⟩, l7Proto := .DNS } := by
      decide +kernel
    refine ⟨reported, run.not_question (extractDns_sets rfl reported rfl) ?_⟩
    rintro ⟨short, -⟩
    have size : (List.replicate 64 (97 : UInt8)).length ≤ 63 := short _ List.mem_cons_self
    rw [List.length_replicate] at size
    exact absurd size (by decide)
  · have run : LabelRun manyLabels (List.replicate 128 [97]) :=
      dnsQuery_run (by simp) (Nat.le_of_eq List.length_replicate) (.inl List.length_replicate)
    have reported : extractDns manyLabels manyLabels.length {} =
        .ok { ({} : PacketInfo) with
          dns := some ⟨(ascii ".").intercalate (List.replicate 128 [97]), 0x161, false⟩, l7Proto := .DNS } := by
      decide +kernel
    refine ⟨reported, run.not_question (extractDns_sets rfl reported rfl) ?_⟩
    rintro ⟨-, before | zeros⟩
    · rw [List.length_replicate] at before
      exact Nat.lt_irrefl _ before
    · exact absurd (byteAt_of_holds zeros) (by decide +kernel)

end Nte
