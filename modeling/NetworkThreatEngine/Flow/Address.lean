import NetworkThreatEngine.Dissector.Format
import NetworkThreatEngine.Lib.InetText

/-!
# Addresses of 128 bits

The flow tracker parses the textual addresses of a packet back to bytes. Both parsers give back the
address the dissector formatted.
-/
namespace Nte
open ByteReader Numeral InetText

/-- IPv4-mapped or native IPv6, most significant byte first. -/
abbrev Addr128 := { bytes : Octets // bytes.length = 16 }

def Addr128.zero : Addr128 := ⟨List.replicate 16 0, rfl⟩

/-- The mapped form `::ffff:a.b.c.d`. -/
def ipv4ToAddr128 (hostOrderAddr : UInt32) : Addr128 :=
  ⟨List.replicate 10 0 ++ [0xFF, 0xFF] ++ put32 hostOrderAddr, rfl⟩

def makeAddr128FromIpv4String (ip : Octets) : Addr128 :=
  let fields := scanFields 4 ip
  ipv4ToAddr128 (fields.getD 0 0 <<< 24 ||| fields.getD 1 0 <<< 16 ||| fields.getD 2 0 <<< 8 ||| fields.getD 3 0)

/-- All zeros when `inet_pton` turns the text down. -/
def makeAddr128FromIpv6String (ip : Octets) : Addr128 :=
  match inetPton6 ip with
  | some bytes => if h : bytes.length = 16 then ⟨bytes, h⟩ else .zero
  | none => .zero

/-! ## IPv4 -/

theorem scanFields_numeral {n : Nat} (hn : n < 2 ^ 32) (fields : Nat) (rest : Octets) :
    scanFields (fields + 1) (numeral 10 n ++ dot :: rest) = UInt32.ofNat n :: scanFields fields rest := by
  have stop : ∀ c ∈ (dot :: rest).head?, isDigit 10 c = false := by
    intro c hc
    obtain rfl : dot = c := Option.some.inj hc
    decide
  rw [scanFields, scanUnsigned_numeral hn _ stop]
  rfl

theorem scanFields_last {n : Nat} (hn : n < 2 ^ 32) : scanFields 1 (numeral 10 n) = [UInt32.ofNat n] := by
  have h := scanUnsigned_numeral hn [] (by rintro c ⟨⟩)
  rw [List.append_nil] at h
  rw [scanFields, h]
  rfl

/-- Four fields of a byte each, shifted into place, are the word of these bytes. -/
theorem fields_word32 (a b c d : UInt8) :
    UInt32.ofNat a.toNat <<< 24 ||| UInt32.ofNat b.toNat <<< 16 ||| UInt32.ofNat c.toNat <<< 8 |||
      UInt32.ofNat d.toNat = word32 a b c d := by
  have shifted (x : UInt8) (k : Nat) (hk : k ≤ 24) : x.toNat <<< k < 2 ^ 32 := by
    have hx : x.toNat < 2 ^ 8 := x.toNat_lt
    rw [Nat.shiftLeft_eq]
    calc x.toNat * 2 ^ k < 2 ^ 8 * 2 ^ k := Nat.mul_lt_mul_of_pos_right hx (by positivity)
      _ ≤ 2 ^ 8 * 2 ^ 24 := Nat.mul_le_mul_left _ (Nat.pow_le_pow_right (by decide) hk)
  have field (x : UInt8) : (UInt32.ofNat x.toNat).toNat = x.toNat :=
    UInt32.toNat_ofNat_of_lt' (Nat.lt_trans x.toNat_lt (by decide))
  have whole : (a.toNat <<< 24) ||| (b.toNat <<< 16) ||| (c.toNat <<< 8) ||| d.toNat < 2 ^ 32 :=
    Nat.or_lt_two_pow (Nat.or_lt_two_pow (Nat.or_lt_two_pow (shifted a 24 le_rfl) (shifted b 16 (by decide)))
      (shifted c 8 (by decide))) (Nat.lt_trans d.toNat_lt (by decide))
  apply UInt32.toNat_inj.mp
  rw [word32, UInt32.toNat_ofNat_of_lt' whole]
  simp only [UInt32.toNat_or, UInt32.toNat_shiftLeft, field]
  change a.toNat <<< 24 % 2 ^ 32 ||| b.toNat <<< 16 % 2 ^ 32 ||| c.toNat <<< 8 % 2 ^ 32 ||| d.toNat = _
  rw [Nat.mod_eq_of_lt (shifted a 24 le_rfl), Nat.mod_eq_of_lt (shifted b 16 (by decide)),
    Nat.mod_eq_of_lt (shifted c 8 (by decide))]

theorem makeAddr128_formatIpv4 (addr : UInt32) :
    makeAddr128FromIpv4String (formatIpv4 addr) = ipv4ToAddr128 addr := by
  have small (shift : Nat) : (UInt8.ofNat (addr.toNat >>> shift)).toNat < 2 ^ 32 :=
    Nat.lt_trans (UInt8.toNat_lt _) (by decide)
  have fields : scanFields 4 (formatIpv4 addr) = (put32 addr).map fun b => UInt32.ofNat b.toNat := by
    simp only [formatIpv4, ipv4Octet_eq]
    rw [scanFields_numeral (small 24), scanFields_numeral (small 16), scanFields_numeral (small 8),
      scanFields_last (small 0)]
    rfl
  rw [makeAddr128FromIpv4String, fields]
  simp only [put32, List.map_cons, List.getD_cons_zero, List.getD_cons_succ]
  rw [fields_word32, word32_put32]

/-! ## IPv6 -/

theorem joinGroups_eq (groups : List UInt16) : joinGroups groups = groupsText groups := rfl

theorem groupsBytes_append (before after : List UInt16) :
    groupsBytes (before ++ after) = groupsBytes before ++ groupsBytes after := List.flatMap_append

theorem groupsBytes_zeros (n : Nat) : groupsBytes (List.replicate n 0) = List.replicate (2 * n) 0 := by
  induction n with
  | zero => rfl
  | succ n ih =>
      rw [List.replicate_succ, Nat.mul_succ, List.replicate_succ, List.replicate_succ, ← ih]
      rfl

theorem groupsBytes_ipv6Groups (addr : Addr128) : groupsBytes (ipv6Groups addr.val) = addr.val := by
  obtain ⟨bytes, h⟩ := addr
  match bytes, h with
  | [a, b, c, d, e, f, g, h, i, j, k, l, m, n, o, p], _ => simp [ipv6Groups, groupsBytes, List.range_succ]

/-- The groups around an elided run determine all groups. -/
theorem groups_elided {groups : List UInt16} (h8 : groups.length = 8) {start len : Nat}
    (ok : RunOk (groups.map (· == 0)) (some (start, len))) :
    groups = groups.take start ++ List.replicate len 0 ++ groups.drop (start + len) := by
  obtain ⟨-, inside, zeros⟩ := ok
  have run : (groups.drop start).take len = List.replicate len 0 := by
    refine List.ext_getElem (by simp; omega) fun i _ hi => ?_
    rw [List.length_replicate] at hi
    have zero := zeros i hi
    rw [List.getElem?_map, List.getElem?_eq_getElem (by omega), Option.map_some] at zero
    simpa using zero
  calc groups = groups.take start ++ groups.drop start := (List.take_append_drop start groups).symm
    _ = groups.take start ++ ((groups.drop start).take len ++ (groups.drop start).drop len) :=
        congrArg (groups.take start ++ ·) (List.take_append_drop len (groups.drop start)).symm
    _ = groups.take start ++ List.replicate len 0 ++ groups.drop (start + len) := by
        rw [run, List.drop_drop, List.append_assoc]

theorem inetPton6_formatIpv6 (addr : Addr128) : inetPton6 (formatIpv6 addr.val) = some addr.val := by
  have h8 := ipv6Groups_length addr.val
  have ok := elidedRun_ok addr.val
  have bytes := groupsBytes_ipv6Groups addr
  rw [formatIpv6_text]
  generalize ipv6Groups addr.val = groups at *
  cases hrun : elidedRun (groups.map (· == 0)) with
  | none =>
      rw [groupText, joinGroups_eq, inetPton6_groups h8, bytes]
  | some run =>
      obtain ⟨start, len⟩ := run
      rw [hrun] at ok
      have whole := groups_elided h8 ok
      obtain ⟨two, inside, -⟩ := ok
      have before : (groups.take start).length = start := by rw [List.length_take]; omega
      have after : (groups.drop (start + len)).length = 8 - (start + len) := by rw [List.length_drop, h8]
      have gap : 16 - 2 * (start + (8 - (start + len))) = 2 * len := by omega
      have text : groupText groups (some (start, len)) = groupsText (groups.take start) ++
          InetText.colon :: InetText.colon :: groupsText (groups.drop (start + len)) := by
        simp [groupText, joinGroups_eq, colon, InetText.colon]
      rw [text, inetPton6_elided (by omega), before, after, gap, ← groupsBytes_zeros, ← groupsBytes_append,
        ← groupsBytes_append, ← whole, bytes]

theorem makeAddr128_formatIpv6 (addr : Addr128) :
    makeAddr128FromIpv6String (formatIpv6 addr.val) = addr := by
  rw [makeAddr128FromIpv6String, inetPton6_formatIpv6]
  exact dif_pos addr.property

end Nte
