import NetworkThreatEngine.Dissector.Extractors

/-!
# ClientHello messages

A ClientHello in a single TLS record, laid out with lengths that fit their fields. Whatever follows it,
`extract_tls` reports the first host name of its first server-name extension.
-/
namespace Nte
open ByteReader ByteReader.Outcome Constants

/-! ## Messages -/

/-- An entry of a server name list; type 0 is a host name. -/
structure ServerName where
  nameType : UInt8
  name : Octets
  fits : name.length < 2 ^ 16

def ServerName.encode (n : ServerName) : Octets := n.nameType :: vec16 n.name

def encodeNames (names : List ServerName) : Octets := (names.map (·.encode)).flatten

/-- An extension of any type with any body. -/
structure TlsExtension where
  extType : UInt16
  body : Octets
  fits : body.length < 2 ^ 16

def TlsExtension.encode (e : TlsExtension) : Octets := put16 e.extType ++ vec16 e.body

def TlsExtension.isSni (e : TlsExtension) : Bool := e.extType = TLS_EXTENSION_SNI

def encodeExtensions (extensions : List TlsExtension) : Octets := (extensions.map (·.encode)).flatten

structure HelloFields where
  recordVersion : UInt16
  version : UInt16
  random : Octets
  sessionId : Octets
  cipherSuites : Octets
  compressionMethods : Octets
  extensions : List TlsExtension

/-- From the session id on. -/
def HelloFields.vectors (h : HelloFields) : Octets :=
  vec8 h.sessionId ++ (vec16 h.cipherSuites ++ (vec8 h.compressionMethods ++ vec16 (encodeExtensions h.extensions)))

def HelloFields.body (h : HelloFields) : Octets := put16 h.version ++ (h.random ++ h.vectors)

/-- A ClientHello whose parts fit their length fields. -/
structure ClientHello extends HelloFields where
  randomSize : random.length = 32
  sessionIdFits : sessionId.length < 2 ^ 8
  cipherSuitesFit : cipherSuites.length < 2 ^ 16
  compressionMethodsFit : compressionMethods.length < 2 ^ 8
  extensionsFit : (encodeExtensions extensions).length < 2 ^ 16
  recordFits : 4 + toHelloFields.body.length < 2 ^ 16

namespace ClientHello

def encode (h : ClientHello) : Octets :=
  TLS_CONTENT_HANDSHAKE :: (put16 h.recordVersion ++ vec16 (TLS_HANDSHAKE_CLIENT_HELLO :: vec24 h.body))

end ClientHello

/-- The first host name of a list. -/
def hostName (names : List ServerName) : Option Octets := (names.find? fun n => n.nameType = 0).map (·.name)

/-- What is made of a host name. -/
def report (recordVersion : UInt16) : Option Octets → Outcome TlsInfo
  | some sni => .ok { sni, recordVersion }
  | none => .reject

/-! ## The walks -/

/-- Items that take up room are no more than the bytes of all. -/
theorem length_le_flatten {items : List Octets} (some : ∀ item ∈ items, 0 < item.length) :
    items.length ≤ items.flatten.length := by
  induction items with
  | nil => exact Nat.le_refl 0
  | cons item items ih =>
      have first := some item (by simp)
      have rest := ih fun other mem => some other (by simp [mem])
      rw [List.length_cons, List.flatten_cons, List.length_append]
      omega

theorem length_encodeNames (names : List ServerName) : names.length ≤ (encodeNames names).length := by
  rw [← List.length_map ServerName.encode]
  apply length_le_flatten
  intro item mem
  obtain ⟨n, -, rfl⟩ := List.mem_map.mp mem
  exact Nat.succ_pos _

theorem length_encodeExtensions (extensions : List TlsExtension) :
    extensions.length ≤ (encodeExtensions extensions).length := by
  rw [← List.length_map TlsExtension.encode]
  apply length_le_flatten
  intro item mem
  obtain ⟨e, -, rfl⟩ := List.mem_map.mp mem
  exact Nat.succ_pos _

theorem sniNames_encode {payload : Octets} (version : UInt16) (names : List ServerName) (offset fuel : Nat)
    (holds : Holds payload offset (encodeNames names)) (fueled : names.length < fuel) :
    sniNames payload version (offset + (encodeNames names).length) fuel offset = report version (hostName names) := by
  induction names generalizing offset fuel with
  | nil =>
      obtain ⟨fuel, rfl⟩ := Nat.exists_eq_add_one_of_ne_zero (Nat.ne_of_gt fueled)
      rw [sniNames, if_neg (by simp [encodeNames])]
      rfl
  | cons n names ih =>
      obtain ⟨fuel, rfl⟩ := Nat.exists_eq_add_one_of_ne_zero (Nat.ne_of_gt (Nat.zero_lt_of_lt fueled))
      have split : encodeNames (n :: names) = n.nameType :: (vec16 n.name ++ encodeNames names) := rfl
      have total : (encodeNames (n :: names)).length = 3 + n.name.length + (encodeNames names).length := by
        rw [split, List.length_cons, List.length_append, length_vec16]
        omega
      rw [split] at holds
      have type := byteAt_of_holds holds
      obtain ⟨nameLen, len, value, bytes⟩ := vec16_of_holds holds.tail.left n.fits
      have later : Holds payload (offset + 3 + nameLen.toNat) (encodeNames names) := by
        have right := holds.tail.right
        rw [length_vec16] at right
        rw [value]
        convert right using 1
        omega
      have inside : ¬ offset + 3 + nameLen.toNat > offset + (encodeNames (n :: names)).length := by omega
      rw [sniNames, if_pos (by omega), type, ok_bind, len, ok_bind, if_neg inside, hostName, List.find?_cons]
      by_cases host : n.nameType = 0
      · have name : slice payload (offset + 3) nameLen.toNat = .ok n.name := by
          rw [value]
          exact slice_of_holds bytes
        rw [if_pos host, name, host]
        rfl
      · have stop : offset + (encodeNames (n :: names)).length =
            offset + 3 + nameLen.toNat + (encodeNames names).length := by omega
        rw [if_neg host, stop, ih _ _ later (Nat.lt_of_succ_lt_succ fueled), decide_eq_false host]
        rfl

theorem length_encodeExtension (e : TlsExtension) : e.encode.length = 4 + e.body.length := by
  rw [TlsExtension.encode, List.length_append, length_put16, length_vec16]
  omega

/-- Extensions of other types are passed over. -/
theorem tlsExtensions_skip {payload : Octets} (version : UInt16) {extEnd : Nat} (others : List TlsExtension)
    (fuel offset : Nat) (holds : Holds payload offset (encodeExtensions others))
    (inside : offset + (encodeExtensions others).length ≤ extEnd) (other : ∀ e ∈ others, e.isSni = false) :
    tlsExtensions payload version extEnd (others.length + fuel) offset =
      tlsExtensions payload version extEnd fuel (offset + (encodeExtensions others).length) := by
  induction others generalizing offset with
  | nil =>
      rw [List.length_nil, Nat.zero_add]
      rfl
  | cons e others ih =>
      have split : encodeExtensions (e :: others) = e.encode ++ encodeExtensions others := rfl
      rw [split, List.length_append, length_encodeExtension] at inside
      rw [split] at holds ⊢
      have type := be16_of_holds holds.left
      obtain ⟨extLen, len, size, -⟩ := vec16_of_holds holds.left.right e.fits
      rw [length_put16] at len
      have later := holds.right
      have next : offset + 4 + extLen.toNat = offset + e.encode.length := by
        rw [length_encodeExtension]
        omega
      have isOther : e.extType ≠ TLS_EXTENSION_SNI := of_decide_eq_false (other e (by simp))
      rw [List.length_cons, Nat.add_right_comm, tlsExtensions, if_pos (by omega), type, ok_bind, len, ok_bind,
        if_neg (by omega), if_neg isOther, next, List.length_append, ← Nat.add_assoc]
      apply ih _ later
      · rw [length_encodeExtension]
        omega
      · intro other' mem
        exact other other' (by simp [mem])

/-- At the end of the block there is nothing to report. -/
theorem tlsExtensions_end (payload : Octets) (version : UInt16) (extEnd fuel : Nat) :
    tlsExtensions payload version extEnd (fuel + 1) extEnd = .reject := by
  rw [tlsExtensions, if_neg (by omega)]

/-- A server-name extension ends the walk with its list. -/
theorem tlsExtensions_sni {payload : Octets} (version : UInt16) {extEnd : Nat} (e : TlsExtension)
    (names : List ServerName) (rest : Octets) (fuel offset : Nat) (sni : e.isSni = true)
    (body : e.body = vec16 (encodeNames names) ++ rest) (holds : Holds payload offset e.encode)
    (inside : offset + e.encode.length ≤ extEnd) :
    tlsExtensions payload version extEnd (fuel + 1) offset = report version (hostName names) := by
  have fits := e.fits
  have size : e.body.length = 2 + (encodeNames names).length + rest.length := by
    rw [body, List.length_append, length_vec16]
  rw [length_encodeExtension] at inside
  have type := be16_of_holds holds
  obtain ⟨extLen, len, value, bytes⟩ := vec16_of_holds holds.right e.fits
  rw [length_put16] at len bytes
  rw [body] at bytes
  obtain ⟨listLen, count, listSize, list⟩ := vec16_of_holds bytes.left (by omega)
  have isSni : e.extType = TLS_EXTENSION_SNI := of_decide_eq_true sni
  have stop : offset + 4 + 2 + listLen.toNat = offset + 4 + 2 + (encodeNames names).length := by rw [listSize]
  have fueled := length_encodeNames names
  rw [tlsExtensions, if_pos (by omega), type, ok_bind, len, ok_bind, if_neg (by omega), if_pos isSni,
    if_neg (by omega), count, ok_bind]
  dsimp only
  rw [if_neg (by omega), stop]
  exact sniNames_encode version names (offset + 4 + 2) _ list (by omega)

/-! ## The message -/

/-- The extensions block is found. -/
theorem tlsHelloBody_encode {payload : Octets} (version : UInt16) (h : ClientHello) (offset : Nat)
    (holds : Holds payload offset h.vectors) :
    ∃ extBlock extEnd, extEnd = extBlock + (encodeExtensions h.extensions).length ∧
      Holds payload extBlock (encodeExtensions h.extensions) ∧
      tlsHelloBody payload payload.length version (offset + h.vectors.length) offset =
        tlsExtensions payload version extEnd (extEnd + 1) extBlock := by
  have inside := holds.inside
  have total : h.vectors.length = 1 + h.sessionId.length + (2 + h.cipherSuites.length +
      (1 + h.compressionMethods.length + (2 + (encodeExtensions h.extensions).length))) := by
    simp only [HelloFields.vectors, List.length_append, length_vec8, length_vec16]
  have suites := holds.right
  have methods := suites.right
  have extensions := methods.right
  obtain ⟨sessionIdLen, hsid, sidSize, -⟩ := vec8_of_holds holds.left h.sessionIdFits
  rw [length_vec8, ← sidSize, ← Nat.add_assoc] at suites methods extensions
  obtain ⟨csLen, hcs, csSize, -⟩ := vec16_of_holds suites.left h.cipherSuitesFit
  rw [length_vec16, ← csSize, ← Nat.add_assoc] at methods extensions
  obtain ⟨compLen, hcomp, compSize, -⟩ := vec8_of_holds methods.left h.compressionMethodsFit
  rw [length_vec8, ← compSize, ← Nat.add_assoc] at extensions
  obtain ⟨extTotal, htotal, extSize, bytes⟩ := vec16_of_holds extensions h.extensionsFit
  have blockInside : ¬ (decide (offset + 1 + sessionIdLen.toNat + 2 + csLen.toNat + 1 + compLen.toNat + 2 +
      extTotal.toNat > payload.length) || decide (offset + 1 + sessionIdLen.toNat + 2 + csLen.toNat + 1 +
        compLen.toNat + 2 + extTotal.toNat > offset + h.vectors.length)) = true := by
    simp only [Bool.or_eq_true, decide_eq_true_eq, not_or, Nat.not_lt]
    omega
  refine ⟨_, _, rfl, bytes, ?_⟩
  rw [tlsHelloBody, if_neg (by omega), hsid, ok_bind]
  dsimp only
  rw [if_neg (by omega), if_neg (by omega), hcs, ok_bind, if_neg (by omega), if_neg (by omega), hcomp, ok_bind,
    if_neg (by omega), if_neg (by omega), htotal, ok_bind, if_neg blockInside, extSize]

theorem decodeTls_encode (h : ClientHello) (trailing : Octets) :
    ∃ extBlock extEnd, extEnd = extBlock + (encodeExtensions h.extensions).length ∧
      Holds (h.encode ++ trailing) extBlock (encodeExtensions h.extensions) ∧
      decodeTls (h.encode ++ trailing) (h.encode ++ trailing).length =
        tlsExtensions (h.encode ++ trailing) h.recordVersion extEnd (extEnd + 1) extBlock := by
  have holds : Holds (h.encode ++ trailing) 0 h.encode := holds_prefix h.encode trailing
  have inside := holds.inside
  generalize h.encode ++ trailing = payload at holds inside ⊢
  have bodySize : h.body.length = 34 + h.vectors.length := by
    simp only [HelloFields.body, List.length_append, length_put16, h.randomSize]
    omega
  have vectorsSize : 6 ≤ h.vectors.length := by
    simp only [HelloFields.vectors, List.length_append, length_vec8, length_vec16]
    omega
  have fits := h.recordFits
  have messageSize : (TLS_HANDSHAKE_CLIENT_HELLO :: vec24 h.body).length = 4 + h.body.length := by
    rw [List.length_cons, length_vec24]
    omega
  have encodeSize : h.encode.length = 9 + h.body.length := by
    rw [ClientHello.encode, List.length_cons, List.length_append, length_put16, length_vec16, messageSize]
    omega
  rw [ClientHello.encode] at holds
  have contentType := byteAt_of_holds holds
  have version : be16 payload 1 = .ok h.recordVersion := be16_of_holds holds.tail
  have record : Holds payload 3 (vec16 (TLS_HANDSHAKE_CLIENT_HELLO :: vec24 h.body)) := holds.tail.right
  obtain ⟨recordLen, hrecord, recordSize, message⟩ := vec16_of_holds record (by rw [messageSize]; exact fits)
  have handshakeType : byteAt payload 5 = .ok TLS_HANDSHAKE_CLIENT_HELLO := byteAt_of_holds message
  have inner : Holds payload 6 (vec24 h.body) := message.tail
  obtain ⟨x, y, z, hx, hy, hz, hsSize, body⟩ := vec24_of_holds inner (by omega)
  replace hy : byteAt payload 7 = .ok y := hy
  replace hz : byteAt payload 8 = .ok z := hz
  have vectors : Holds payload 43 h.vectors := by
    have right := body.right.right
    rw [h.randomSize] at right
    exact right
  have hsEnd : 9 + ((x.toNat <<< 16) ||| (y.toNat <<< 8) ||| z.toNat) = 43 + h.vectors.length := by
    have size : (x.toNat <<< 16) ||| (y.toNat <<< 8) ||| z.toNat = h.body.length := hsSize
    omega
  rw [messageSize] at recordSize
  rw [decodeTls, if_neg (by omega), contentType, ok_bind, if_neg (by decide), version, ok_bind, hrecord, ok_bind,
    if_neg (by omega), handshakeType, ok_bind, if_neg (by decide), hx, ok_bind, hy, ok_bind, hz, ok_bind]
  dsimp only
  rw [hsEnd, if_neg (by omega), if_neg (by omega)]
  exact tlsHelloBody_encode h.recordVersion h 43 vectors

/-- `extract_tls` on an encoded message, whatever follows it: without a server-name extension the packet is
left as it is; with one whose list has a host name, the first such name is reported with the record version. -/
theorem extractTls_encode (h : ClientHello) (trailing : Octets) (info : PacketInfo) :
    (h.extensions.find? (·.isSni) = none →
        extractTls (h.encode ++ trailing) (h.encode ++ trailing).length info = .ok info) ∧
      ∀ e names rest sni, h.extensions.find? (·.isSni) = some e → e.body = vec16 (encodeNames names) ++ rest →
        hostName names = some sni →
          extractTls (h.encode ++ trailing) (h.encode ++ trailing).length info =
            .ok { info with tls := some { sni, recordVersion := h.recordVersion }, l7Proto := .TLS } := by
  obtain ⟨extBlock, extEnd, stop, holds, decoded⟩ := decodeTls_encode h trailing
  have room := length_encodeExtensions h.extensions
  rw [extractTls, decoded]
  generalize h.encode ++ trailing = payload at holds ⊢
  constructor
  · intro none
    have other : ∀ e ∈ h.extensions, e.isSni = false := by
      intro e mem
      exact Bool.eq_false_iff.mpr (List.find?_eq_none.mp none e mem)
    obtain ⟨fuel, fueled⟩ : ∃ fuel, extEnd + 1 = h.extensions.length + (fuel + 1) :=
      ⟨extEnd - h.extensions.length, by omega⟩
    rw [fueled, tlsExtensions_skip h.recordVersion h.extensions _ _ holds stop.ge other, ← stop, tlsExtensions_end]
  · intro e names rest sni found body host
    obtain ⟨isSni, before, behind, split, other⟩ := List.find?_eq_some_iff_append.mp found
    have parts : encodeExtensions h.extensions =
        encodeExtensions before ++ (e.encode ++ encodeExtensions behind) := by
      rw [split]
      simp [encodeExtensions]
    rw [parts] at holds stop
    rw [List.length_append, List.length_append] at stop
    have short := length_encodeExtensions before
    obtain ⟨fuel, fueled⟩ : ∃ fuel, extEnd + 1 = before.length + (fuel + 1) :=
      ⟨extEnd - before.length, by omega⟩
    have others : ∀ e ∈ before, e.isSni = false := by
      intro e mem
      simpa using other e mem
    rw [fueled, tlsExtensions_skip h.recordVersion before _ _ holds.left (by omega) others,
      tlsExtensions_sni h.recordVersion e names rest fuel _ isSni body holds.right.left (by omega), host]
    rfl

/-- A list with a name of type 1 before the host name. -/
def twoNames : List ServerName := [⟨1, ascii "x", by decide⟩, ⟨0, ascii "a.example", by decide⟩]

def sniHello : ClientHello where
  recordVersion := 0x301
  version := 0x303
  random := List.replicate 32 7
  sessionId := [1, 2]
  cipherSuites := [0x13, 1, 0x13, 2]
  compressionMethods := [0]
  extensions := [⟨10, [0, 2, 0, 29], by decide⟩, ⟨0, vec16 (encodeNames twoNames), by decide +kernel⟩]
  randomSize := rfl
  sessionIdFits := by decide
  cipherSuitesFit := by decide
  compressionMethodsFit := by decide
  extensionsFit := by decide +kernel
  recordFits := by decide +kernel

theorem extractTls_encode_sni :
    extractTls (sniHello.encode ++ [1, 2, 3]) (sniHello.encode ++ [1, 2, 3]).length {} =
      .ok { ({} : PacketInfo) with tls := some ⟨ascii "a.example", 0x301⟩, l7Proto := .TLS } :=
  (extractTls_encode sniHello [1, 2, 3] {}).2 ⟨0, vec16 (encodeNames twoNames), by decide +kernel⟩ twoNames []
    (ascii "a.example") rfl (List.append_nil _).symm rfl

end Nte
