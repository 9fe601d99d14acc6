import NetworkThreatEngine.Dissector.Extractors

/-!
# Where a server name comes from

A ClientHello nests seven lengths: record, handshake message, extensions block, extension, name list,
name, and the vectors before the block. `extract_tls` compares each with an outer one, but not always with
the next.
-/
namespace Nte
open ByteReader ByteReader.Outcome Constants Relation

/-- Where a ClientHello says its parts are; offsets count from the start of the record. -/
structure HelloLayout where
  recordLen : UInt16
  hsLen : Nat
  extBlock : Nat
  extTotal : UInt16
  ext : Nat
  extLen : UInt16
  listLen : UInt16
  name : Nat
  nameLen : UInt16
  deriving DecidableEq, Repr

/-- From an extension of another type to the next one. -/
def NextExtension (payload : Octets) (offset next : Nat) : Prop :=
  ∃ extType extLen, be16 payload offset = .ok extType ∧ extType ≠ TLS_EXTENSION_SNI ∧
    be16 payload (offset + 2) = .ok extLen ∧ next = offset + 4 + extLen.toNat

/-- From a name of another type to the next one. -/
def NextName (payload : Octets) (offset next : Nat) : Prop :=
  ∃ nameType nameLen, byteAt payload offset = .ok nameType ∧ nameType ≠ 0 ∧
    be16 payload (offset + 1) = .ok nameLen ∧ next = offset + 3 + nameLen.toNat

/-- The extensions block is behind the three vectors that follow version and random. -/
def BlockAt (payload : Octets) (extTotal : UInt16) (extBlock : Nat) : Prop :=
  ∃ sessionIdLen csLen compLen, byteAt payload 43 = .ok sessionIdLen ∧
    be16 payload (44 + sessionIdLen.toNat) = .ok csLen ∧
    byteAt payload (44 + sessionIdLen.toNat + 2 + csLen.toNat) = .ok compLen ∧
    be16 payload (44 + sessionIdLen.toNat + 2 + csLen.toNat + 1 + compLen.toNat) = .ok extTotal ∧
    extBlock = 44 + sessionIdLen.toNat + 2 + csLen.toNat + 1 + compLen.toNat + 2

/-- The bytes say so: the first extension of type 0 and the first name of type 0 in it. -/
structure LaidOut (payload : Octets) (l : HelloLayout) : Prop where
  recordLen : be16 payload 3 = .ok l.recordLen
  hsLen : be24 payload 6 = .ok l.hsLen
  block : BlockAt payload l.extTotal l.extBlock
  ext : ReflTransGen (NextExtension payload) l.extBlock l.ext
  extType : be16 payload l.ext = .ok TLS_EXTENSION_SNI
  extLen : be16 payload (l.ext + 2) = .ok l.extLen
  listLen : be16 payload (l.ext + 4) = .ok l.listLen
  name : ReflTransGen (NextName payload) (l.ext + 6) l.name
  nameType : byteAt payload l.name = .ok 0
  nameLen : be16 payload (l.name + 1) = .ok l.nameLen

/-- Each part lies inside the next larger one. -/
structure Nested (l : HelloLayout) : Prop where
  name : l.ext + 6 ≤ l.name ∧ l.name + 3 + l.nameLen.toNat ≤ l.ext + 6 + l.listLen.toNat
  list : l.ext + 6 + l.listLen.toNat ≤ l.ext + 4 + l.extLen.toNat
  ext : l.extBlock ≤ l.ext ∧ l.ext + 4 + l.extLen.toNat ≤ l.extBlock + l.extTotal.toNat
  block : 9 ≤ l.extBlock ∧ l.extBlock + l.extTotal.toNat ≤ 9 + l.hsLen
  handshake : 9 + l.hsLen ≤ 5 + l.recordLen.toNat

/-! ## The bytes determine the layout -/

theorem nextExtension_unique (payload : Octets) : Relator.RightUnique (NextExtension payload) := by
  rintro offset next next' ⟨_, extLen, -, -, len, rfl⟩ ⟨_, extLen', -, -, len', rfl⟩
  rw [Outcome.ok.inj (len.symm.trans len')]

theorem nextName_unique (payload : Octets) : Relator.RightUnique (NextName payload) := by
  rintro offset next next' ⟨_, nameLen, -, -, len, rfl⟩ ⟨_, nameLen', -, -, len', rfl⟩
  rw [Outcome.ok.inj (len.symm.trans len')]

/-- Where a walk without choices ends it cannot have gone on. -/
theorem walk_end_unique {α : Type} {step : α → α → Prop} (unique : Relator.RightUnique step) {a b c : α}
    (toB : ReflTransGen step a b) (toC : ReflTransGen step a c) (endB : ∀ d, ¬ step b d) (endC : ∀ d, ¬ step c d) :
    b = c := by
  rcases ReflTransGen.total_of_right_unique unique toB toC with on | on
  · rcases ReflTransGen.cases_head on with same | ⟨d, first, -⟩
    · exact same
    · exact absurd first (endB d)
  · rcases ReflTransGen.cases_head on with same | ⟨d, first, -⟩
    · exact same.symm
    · exact absurd first (endC d)

theorem blockAt_unique {payload : Octets} {total total' : UInt16} {block block' : Nat}
    (h : BlockAt payload total block) (h' : BlockAt payload total' block') : total = total' ∧ block = block' := by
  obtain ⟨sid, cs, comp, hsid, hcs, hcomp, htotal, rfl⟩ := h
  obtain ⟨sid', cs', comp', hsid', hcs', hcomp', htotal', rfl⟩ := h'
  obtain rfl := Outcome.ok.inj (hsid.symm.trans hsid')
  obtain rfl := Outcome.ok.inj (hcs.symm.trans hcs')
  obtain rfl := Outcome.ok.inj (hcomp.symm.trans hcomp')
  exact ⟨Outcome.ok.inj (htotal.symm.trans htotal'), rfl⟩

theorem LaidOut.unique {payload : Octets} {l l' : HelloLayout} (h : LaidOut payload l) (h' : LaidOut payload l') :
    l = l' := by
  obtain ⟨recordLen, hsLen, extBlock, extTotal, ext, extLen, listLen, name, nameLen⟩ := l
  obtain ⟨recordLen', hsLen', extBlock', extTotal', ext', extLen', listLen', name', nameLen'⟩ := l'
  obtain rfl : recordLen = recordLen' := Outcome.ok.inj (h.recordLen.symm.trans h'.recordLen)
  obtain rfl : hsLen = hsLen' := Outcome.ok.inj (h.hsLen.symm.trans h'.hsLen)
  obtain ⟨rfl, rfl⟩ : extTotal = extTotal' ∧ extBlock = extBlock' := blockAt_unique h.block h'.block
  have stops {i : Nat} (type : be16 payload i = .ok TLS_EXTENSION_SNI) (j : Nat) : ¬ NextExtension payload i j := by
    rintro ⟨_, _, other, ne, -, -⟩
    exact ne (Outcome.ok.inj (other.symm.trans type))
  obtain rfl : ext = ext' :=
    walk_end_unique (nextExtension_unique payload) h.ext h'.ext (stops h.extType) (stops h'.extType)
  have halts {i : Nat} (type : byteAt payload i = .ok 0) (j : Nat) : ¬ NextName payload i j := by
    rintro ⟨_, _, other, ne, -, -⟩
    exact ne (Outcome.ok.inj (other.symm.trans type))
  obtain rfl : name = name' :=
    walk_end_unique (nextName_unique payload) h.name h'.name (halts h.nameType) (halts h'.nameType)
  obtain rfl : extLen = extLen' := Outcome.ok.inj (h.extLen.symm.trans h'.extLen)
  obtain rfl : listLen = listLen' := Outcome.ok.inj (h.listLen.symm.trans h'.listLen)
  obtain rfl : nameLen = nameLen' := Outcome.ok.inj (h.nameLen.symm.trans h'.nameLen)
  rfl

/-! ## What the walk establishes -/

/-- A name of type 0 that a walk from `start` finds before `sniEnd`. -/
structure NameFound (payload : Octets) (sniEnd start : Nat) (name : Nat) (nameLen : UInt16) (sni : Octets) : Prop where
  walk : ReflTransGen (NextName payload) start name
  typed : byteAt payload name = .ok 0
  sized : be16 payload (name + 1) = .ok nameLen
  inside : start ≤ name ∧ name + 3 + nameLen.toNat ≤ sniEnd
  bytes : slice payload (name + 3) nameLen.toNat = .ok sni

theorem sniNames_found {payload : Octets} {version : UInt16} {sniEnd fuel offset : Nat} {tls : TlsInfo}
    (h : sniNames payload version sniEnd fuel offset = .ok tls) :
    ∃ name nameLen, NameFound payload sniEnd offset name nameLen tls.sni := by
  induction fuel generalizing offset with
  | zero => cases h
  | succ fuel ih =>
      rw [sniNames] at h
      split at h
      · obtain ⟨nameType, type, h⟩ := bind_eq_ok.mp h
        obtain ⟨nameLen, len, h⟩ := bind_eq_ok.mp h
        split at h
        · cases h
        · rename_i inside
          split at h
          · rename_i host
            obtain ⟨sni, bytes, h⟩ := bind_eq_ok.mp h
            cases h
            rw [host] at type
            exact ⟨offset, nameLen, .refl, type, len, ⟨Nat.le_refl _, Nat.le_of_not_gt inside⟩, bytes⟩
          · rename_i other
            obtain ⟨name, nameLen', found⟩ := ih h
            have first : NextName payload offset (offset + 3 + nameLen.toNat) := ⟨_, _, type, other, len, rfl⟩
            have forward := found.inside.1
            exact ⟨name, nameLen', .head first found.walk, found.typed, found.sized,
              ⟨by omega, found.inside.2⟩, found.bytes⟩
      · cases h

/-- An extension of type 0 that a walk from `start` finds before `extEnd`, with a name in its list. -/
structure ExtensionFound (payload : Octets) (extEnd start : Nat) (l : HelloLayout) (sni : Octets) : Prop where
  walk : ReflTransGen (NextExtension payload) start l.ext
  extType : be16 payload l.ext = .ok TLS_EXTENSION_SNI
  extLen : be16 payload (l.ext + 2) = .ok l.extLen
  listLen : be16 payload (l.ext + 4) = .ok l.listLen
  inside : start ≤ l.ext ∧ l.ext + 4 + l.extLen.toNat ≤ extEnd
  name : NameFound payload (l.ext + 6 + l.listLen.toNat) (l.ext + 6) l.name l.nameLen sni

theorem tlsExtensions_found {payload : Octets} {version : UInt16} {extEnd fuel offset : Nat} {tls : TlsInfo}
    (h : tlsExtensions payload version extEnd fuel offset = .ok tls) (l : HelloLayout) :
    ∃ ext extLen listLen name nameLen, ExtensionFound payload extEnd offset
      { l with ext, extLen, listLen, name, nameLen } tls.sni := by
  induction fuel generalizing offset with
  | zero => cases h
  | succ fuel ih =>
      rw [tlsExtensions] at h
      split at h
      · obtain ⟨extType, type, h⟩ := bind_eq_ok.mp h
        obtain ⟨extLen, len, h⟩ := bind_eq_ok.mp h
        split at h
        · cases h
        · rename_i inside
          split at h
          · rename_i sni
            rw [sni] at type
            split at h
            · cases h
            · obtain ⟨listLen, list, h⟩ := bind_eq_ok.mp h
              dsimp only at h
              split at h
              · cases h
              · obtain ⟨name, nameLen, found⟩ := sniNames_found h
                exact ⟨offset, extLen, listLen, name, nameLen, .refl, type, len, list,
                  ⟨Nat.le_refl _, Nat.le_of_not_gt inside⟩, found⟩
          · rename_i other
            obtain ⟨ext, extLen', listLen, name, nameLen, found⟩ := ih h
            have first : NextExtension payload offset (offset + 4 + extLen.toNat) := ⟨_, _, type, other, len, rfl⟩
            have forward : offset + 4 + extLen.toNat ≤ ext := found.inside.1
            exact ⟨ext, extLen', listLen, name, nameLen, .head first found.walk, found.extType, found.extLen,
              found.listLen, ⟨by dsimp only; omega, found.inside.2⟩, found.name⟩
      · cases h

theorem tlsHelloBody_found {payload : Octets} {len : Nat} {version : UInt16} {hsEnd : Nat} {tls : TlsInfo}
    (h : tlsHelloBody payload len version hsEnd 43 = .ok tls) :
    ∃ extTotal extBlock, BlockAt payload extTotal extBlock ∧ extBlock + extTotal.toNat ≤ hsEnd ∧
      tlsExtensions payload version (extBlock + extTotal.toNat) (extBlock + extTotal.toNat + 1) extBlock = .ok tls := by
  unfold tlsHelloBody at h
  split at h
  · cases h
  · obtain ⟨sessionIdLen, hsid, h⟩ := bind_eq_ok.mp h
    dsimp only at h
    split at h
    · cases h
    · split at h
      · cases h
      · obtain ⟨csLen, hcs, h⟩ := bind_eq_ok.mp h
        split at h
        · cases h
        · split at h
          · cases h
          · obtain ⟨compLen, hcomp, h⟩ := bind_eq_ok.mp h
            split at h
            · cases h
            · split at h
              · cases h
              · obtain ⟨extTotal, htotal, h⟩ := bind_eq_ok.mp h
                split at h
                · cases h
                · rename_i inside
                  simp only [Bool.or_eq_true, decide_eq_true_eq, not_or, Nat.not_lt] at inside
                  exact ⟨extTotal, _, ⟨_, _, _, hsid, hcs, hcomp, htotal, rfl⟩, inside.2, h⟩

/-- What holds of a ClientHello whose server name is reported. -/
structure HelloFound (payload : Octets) (l : HelloLayout) (sni : Octets) : Prop where
  recordLen : be16 payload 3 = .ok l.recordLen
  hsLen : be24 payload 6 = .ok l.hsLen
  block : BlockAt payload l.extTotal l.extBlock
  inside : l.extBlock + l.extTotal.toNat ≤ 9 + l.hsLen
  extension : ExtensionFound payload (l.extBlock + l.extTotal.toNat) l.extBlock l sni

theorem decodeTls_found {payload : Octets} {len : Nat} {tls : TlsInfo} (h : decodeTls payload len = .ok tls) :
    ∃ l, HelloFound payload l tls.sni := by
  unfold decodeTls at h
  split at h
  · cases h
  · obtain ⟨contentType, -, h⟩ := bind_eq_ok.mp h
    split at h
    · cases h
    · obtain ⟨recordVersion, -, h⟩ := bind_eq_ok.mp h
      obtain ⟨recordLen, hrecord, h⟩ := bind_eq_ok.mp h
      split at h
      · cases h
      · obtain ⟨handshakeType, -, h⟩ := bind_eq_ok.mp h
        split at h
        · cases h
        · obtain ⟨high, hhigh, h⟩ := bind_eq_ok.mp h
          obtain ⟨mid, hmid, h⟩ := bind_eq_ok.mp h
          obtain ⟨low, hlow, h⟩ := bind_eq_ok.mp h
          dsimp only at h
          split at h
          · cases h
          · obtain ⟨extTotal, extBlock, block, inside, h⟩ := tlsHelloBody_found h
            obtain ⟨ext, extLen, listLen, name, nameLen, found⟩ :=
              tlsExtensions_found h ⟨recordLen, word24 high mid low, extBlock, extTotal, 0, 0, 0, 0, 0⟩
            have hsLen : be24 payload 6 = .ok (word24 high mid low) := by
              rw [be24, hhigh, ok_bind, hmid, ok_bind, hlow]
              rfl
            exact ⟨⟨recordLen, word24 high mid low, extBlock, extTotal, ext, extLen, listLen, name, nameLen⟩,
              hrecord, hsLen, block, inside, found⟩

theorem BlockAt.behind_handshake {payload : Octets} {extTotal : UInt16} {extBlock : Nat}
    (block : BlockAt payload extTotal extBlock) : 9 ≤ extBlock := by
  obtain ⟨_, _, _, -, -, -, -, rfl⟩ := block
  omega

theorem HelloFound.laidOut {payload : Octets} {l : HelloLayout} {sni : Octets} (h : HelloFound payload l sni) :
    LaidOut payload l where
  recordLen := h.recordLen
  hsLen := h.hsLen
  block := h.block
  ext := h.extension.walk
  extType := h.extension.extType
  extLen := h.extension.extLen
  listLen := h.extension.listLen
  name := h.extension.name.walk
  nameType := h.extension.name.typed
  nameLen := h.extension.name.sized

/-- Two of the lengths are not compared with the next larger one. -/
theorem HelloFound.nested_iff {payload : Octets} {l : HelloLayout} {sni : Octets} (h : HelloFound payload l sni) :
    Nested l ↔ 2 + l.listLen.toNat ≤ l.extLen.toNat ∧ 4 + l.hsLen ≤ l.recordLen.toNat := by
  constructor
  · intro nested
    have list := nested.list
    have handshake := nested.handshake
    omega
  · rintro ⟨list, handshake⟩
    exact ⟨h.extension.name.inside, by omega, h.extension.inside, ⟨h.block.behind_handshake, h.inside⟩, by omega⟩

/-- When a server name is reported, the bytes say where it is in one way only, and its parts are nested
exactly if the list fits its extension and the handshake message its record. -/
theorem sni_nested_iff (payload : Octets) (info after : PacketInfo) (tls : TlsInfo) (unset : info.tls = none)
    (extracted : extractTls payload payload.length info = .ok after) (sets : after.tls = some tls) :
    ∃ l, LaidOut payload l ∧ (∀ l', LaidOut payload l' → l' = l) ∧
      slice payload (l.name + 3) l.nameLen.toNat = .ok tls.sni ∧
      (Nested l ↔ 2 + l.listLen.toNat ≤ l.extLen.toNat ∧ 4 + l.hsLen ≤ l.recordLen.toNat) := by
  obtain ⟨l, found⟩ := decodeTls_found (extractTls_sets unset extracted sets)
  exact ⟨l, found.laidOut, fun l' other => other.unique found.laidOut, found.extension.name.bytes, found.nested_iff⟩

/-! ## Two messages -/

/-- A ClientHello with no session id, cipher suites or compression methods, and these extensions. -/
def plainHello (extensions : Octets) : Octets :=
  [0x16, 3, 1] ++ put16 (UInt16.ofNat (44 + extensions.length)) ++
    [1, 0] ++ put16 (UInt16.ofNat (40 + extensions.length)) ++ [3, 3] ++ List.replicate 32 0 ++
    [0, 0, 0, 0] ++ put16 (UInt16.ofNat extensions.length) ++ extensions

/-- The server name "a". -/
def namedHello : Octets := plainHello [0, 0, 0, 6, 0, 4, 0, 0, 1, 97]

/-- Three extensions without a body, of the types 0, 4 and 0x161. -/
def emptyExtensions : Octets := plainHello [0, 0, 0, 0, 0, 4, 0, 0, 1, 0x61, 0, 0]

theorem sni_nested_iff_named :
    extractTls namedHello namedHello.length {} =
        .ok { ({} : PacketInfo) with tls := some ⟨[97], 0x301⟩, l7Proto := .TLS } ∧
      ∃ l, LaidOut namedHello l ∧ (∀ l', LaidOut namedHello l' → l' = l) ∧
        slice namedHello (l.name + 3) l.nameLen.toNat = .ok [97] ∧
        (Nested l ↔ 2 + l.listLen.toNat ≤ l.extLen.toNat ∧ 4 + l.hsLen ≤ l.recordLen.toNat) := by
  have extracted : extractTls namedHello namedHello.length {} =
      .ok { ({} : PacketInfo) with tls := some ⟨[97], 0x301⟩, l7Proto := .TLS } := by decide +kernel
  exact ⟨extracted, sni_nested_iff namedHello {} _ ⟨[97], 0x301⟩ rfl extracted rfl⟩

/-- A name is reported although the extension is empty: its list starts with the type of the second one and
its name is half of the type of the third. -/
theorem sni_from_other_extensions :
    ∃ l, LaidOut emptyExtensions l ∧
      extractTls emptyExtensions emptyExtensions.length {} =
        .ok { ({} : PacketInfo) with tls := some ⟨[97], 0x301⟩, l7Proto := .TLS } ∧
      l.extLen = 0 ∧ ¬ Nested l := by
  refine ⟨⟨56, 52, 49, 12, 49, 0, 4, 55, 1⟩, ?_, by decide +kernel, rfl, ?_⟩
  · constructor
    · decide +kernel
    · decide +kernel
    · exact ⟨0, 0, 0, by decide +kernel⟩
    · exact .refl
    · decide +kernel
    · decide +kernel
    · decide +kernel
    · exact .refl
    · decide +kernel
    · decide +kernel
  · intro nested
    exact absurd nested.list (by decide)

end Nte
