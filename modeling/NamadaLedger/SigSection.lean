import NamadaLedger.Device

/-!
# Hashing a signature section

`crypto_hashSigSection` is the chaining primitive of the signing protocol: the unsigned form of a
section is what gets signed, and its `0x03`-prefixed signed form is what is folded into the next
level. It feeds SHA-256, in order, the optional prefix, the hash count and the hash bytes, the
signer discriminant, the signer (`PubKeys`: the key count and the tagged keys; `Address`: the
address bytes) and the signature count with the indexed signatures.

The key and signature bytes are not length-prefixed: two loops walk the entries with a
`uint32_t` position, reading each entry's tag to learn its length, and the byte count they end on
is what gets hashed. `walkPubKeys` and `walkSignatures` are those loops.

The main result, `cryptoHashSigSection_of_layout`, says what the function computes when the buffers hold
well-formed entries: it fails exactly on an unknown discriminant or key tag, and otherwise hashes
the fields back to back, the walked ranges being exactly the encoded entries. The layout
(`SectionLayout`) includes the 32-bit bounds the code's `uint32_t` counts need: the hash byte
count `HASH_LEN * hashesLen` is computed modulo `2 ^ 32`, so with `2 ^ 27` hashes none of the hash
bytes is hashed (`manyHashesSection_hashesUnhashed`).
-/

namespace NamadaLedger

/-! ## Key kinds -/

/-- A tag of `signing_key_type_e`. -/
def isKeyTag (tag : UInt8) : Bool := tag == keyEd25519 || tag == keySecp256k1

/-- The length of a public key of the given tag. -/
def pubKeySize (tag : UInt8) : Nat :=
  if tag = keyEd25519 then pkLen25519 else compressedSecp256k1PkLen

/-- The length of a signature of the given tag. -/
def signatureSize (tag : UInt8) : Nat :=
  if tag = keyEd25519 then ed25519SignatureSize else sigSecp256k1Len

/-! ## The two walking loops -/

/-- The loop of the `PubKeys` case from position `pos`, for `n` more entries: read the tag at
`pos++`, reject an unknown tag, skip the key. The position is a `uint32_t`. -/
def walkPubKeys (p : List UInt8) : Nat → Nat → Except ZxErr Nat
  | 0, pos => .ok pos
  | n + 1, pos =>
    let tag := p.getD pos 0
    if isKeyTag tag then walkPubKeys p n ((pos + 1 + pubKeySize tag) % 2 ^ 32)
    else .error .unknown

/-- The loop over the indexed signatures from position `pos`, for `n` more entries: skip the
index byte, read the tag, reject an unknown tag, skip the signature. -/
def walkSignatures (p : List UInt8) : Nat → Nat → Except ZxErr Nat
  | 0, pos => .ok pos
  | n + 1, pos =>
    let tag := p.getD ((pos + 1) % 2 ^ 32) 0
    if isKeyTag tag then walkSignatures p n ((pos + 2 + signatureSize tag) % 2 ^ 32)
    else .error .unknown

/-! ## `crypto_hashSigSection` -/

/-- `cx_sha256_update` of a byte count the loops ended on: skipped when it is zero. -/
def hashWalked (d : Device) (c : List UInt8) (p : List UInt8) (pos : Nat) :
    Except ZxErr (List UInt8) :=
  if pos > 0 then d.sha256Update c (readBytes p 0 pos) else pure c

/-- The `switch` on the signer discriminant. -/
def hashSigner (d : Device) (s : SignatureSection) (c : List UInt8) : Except ZxErr (List UInt8) :=
  if s.signerDiscriminant = signerPubKeys then do
    let c ← d.sha256Update c (le32 s.pubKeysLen)
    let pos ← walkPubKeys s.pubKeys.ptr s.pubKeysLen 0
    hashWalked d c s.pubKeys.ptr pos
  else if s.signerDiscriminant = signerAddress then
    d.sha256Update c (readBytes s.addressBytes.ptr 0 s.addressBytes.len)
  else .error .invalidCryptoSettings

/-- The signature count and the walked indexed signatures. -/
def hashSignatures (d : Device) (s : SignatureSection) (c : List UInt8) :
    Except ZxErr (List UInt8) := do
  let c ← d.sha256Update c (le32 s.signaturesLen)
  let pos ← walkSignatures s.indexedSignatures.ptr s.signaturesLen 0
  hashWalked d c s.indexedSignatures.ptr pos

/-- The optional prefix, hashed only when the pointer is not `NULL`. -/
def hashPrefix (d : Device) : Option (List UInt8) → Except ZxErr (List UInt8)
  | some p => d.sha256Update [] p
  | none => pure []

/-- `crypto_hashSigSection(signature_section, prefix, prefixLen, output, outputLen)`: the digest
written to `output`. `HASH_LEN * hashesLen` is computed in 32 bits. -/
def cryptoHashSigSection (d : Device) (s : SignatureSection) (pre : Option (List UInt8))
    (outputLen : Nat) : Except ZxErr (List UInt8) :=
  if outputLen < cxSha256Size then .error .invalidCryptoSettings else do
    let c ← hashPrefix d pre
    let c ← d.sha256Update c (le32 s.hashes.hashesLen)
    let c ← d.sha256Update c
      (readBytes s.hashes.hashes.ptr 0 (hashLen * s.hashes.hashesLen % 2 ^ 32))
    let c ← d.sha256Update c [s.signerDiscriminant]
    let c ← hashSigner d s c
    let c ← hashSignatures d s c
    d.sha256Final c

/-! ## Well-formed entries

A key entry is a tag byte and a key; an indexed signature is an index byte, a tag byte and a
signature. An entry is well formed when a known tag is followed by exactly as many bytes as that
tag says; after an unknown tag the length does not matter, since the walk stops there. -/

/-- The bytes of a list of key entries `(tag, key)`, back to back. -/
def encodeKeys : List (UInt8 × List UInt8) → List UInt8
  | [] => []
  | (t, k) :: es => t :: k ++ encodeKeys es

/-- The bytes of a list of indexed signatures `(index, tag, signature)`, back to back. -/
def encodeSignatures : List (UInt8 × UInt8 × List UInt8) → List UInt8
  | [] => []
  | (i, t, sig) :: es => i :: t :: sig ++ encodeSignatures es

/-- Each known tag is followed by a key of its length. -/
def KeysWellFormed (keys : List (UInt8 × List UInt8)) : Prop :=
  ∀ e ∈ keys, isKeyTag e.1 → e.2.length = pubKeySize e.1

/-- Each known tag is followed by a signature of its length. -/
def SignaturesWellFormed (sigs : List (UInt8 × UInt8 × List UInt8)) : Prop :=
  ∀ e ∈ sigs, isKeyTag e.2.1 → e.2.2.length = signatureSize e.2.1

/-- The byte just after a prefix. -/
theorem getD_length_append (a l : List UInt8) (x : UInt8) : (a ++ x :: l).getD a.length 0 = x := by
  rw [List.getD_eq_getElem?_getD, List.getElem?_append_right le_rfl, Nat.sub_self,
    List.getElem?_cons_zero, Option.getD_some]

/-- The walk over well-formed key entries placed after `a`: the position after the last entry,
or an error when some tag is unknown. -/
theorem walkPubKeys_encodeKeys (rest : List UInt8) :
    ∀ (keys : List (UInt8 × List UInt8)) (a : List UInt8), KeysWellFormed keys →
      (a ++ encodeKeys keys).length < 2 ^ 32 →
      walkPubKeys (a ++ encodeKeys keys ++ rest) keys.length a.length =
        if keys.all (fun e => isKeyTag e.1) then .ok (a ++ encodeKeys keys).length
        else .error .unknown
  | [], a, _, _ => by simp [walkPubKeys, encodeKeys]
  | (t, k) :: es, a, hwf, hlen => by
    have hsplit : a ++ encodeKeys ((t, k) :: es) = a ++ t :: k ++ encodeKeys es := by
      rw [encodeKeys, List.append_assoc]
    have htag : (a ++ t :: k ++ encodeKeys es ++ rest).getD a.length 0 = t := by
      simp only [List.append_assoc, List.cons_append]
      exact getD_length_append a (k ++ (encodeKeys es ++ rest)) t
    rw [hsplit] at hlen ⊢
    rw [List.length_cons, walkPubKeys]
    simp only [htag, List.all_cons]
    by_cases ht : isKeyTag t
    · have hk : k.length = pubKeySize t := hwf (t, k) (List.mem_cons_self _ _) ht
      have hpos : (a.length + 1 + pubKeySize t) % 2 ^ 32 = (a ++ t :: k).length := by
        simp only [List.length_append, List.length_cons] at hlen ⊢
        rw [Nat.mod_eq_of_lt (by omega)]; omega
      rw [if_pos ht, hpos]; simp only [ht, Bool.true_and]
      exact walkPubKeys_encodeKeys rest es (a ++ t :: k) (fun e he => hwf e (List.mem_cons_of_mem _ he))
        hlen
    · simp [ht]

/-- The walk over well-formed indexed signatures placed after `a`. -/
theorem walkSignatures_encodeSignatures (rest : List UInt8) :
    ∀ (sigs : List (UInt8 × UInt8 × List UInt8)) (a : List UInt8), SignaturesWellFormed sigs →
      (a ++ encodeSignatures sigs).length < 2 ^ 32 →
      walkSignatures (a ++ encodeSignatures sigs ++ rest) sigs.length a.length =
        if sigs.all (fun e => isKeyTag e.2.1) then .ok (a ++ encodeSignatures sigs).length
        else .error .unknown
  | [], a, _, _ => by simp [walkSignatures, encodeSignatures]
  | (i, t, sig) :: es, a, hwf, hlen => by
    have hsplit : a ++ encodeSignatures ((i, t, sig) :: es) =
        a ++ i :: t :: sig ++ encodeSignatures es := by
      rw [encodeSignatures, List.append_assoc]
    rw [hsplit] at hlen ⊢
    have htag : (a ++ i :: t :: sig ++ encodeSignatures es ++ rest).getD
        ((a.length + 1) % 2 ^ 32) 0 = t := by
      rw [Nat.mod_eq_of_lt (by simp only [List.length_append, List.length_cons] at hlen; omega)]
      have h := getD_length_append (a ++ [i]) (sig ++ (encodeSignatures es ++ rest)) t
      simpa only [List.append_assoc, List.cons_append, List.singleton_append, List.length_append,
        List.length_singleton] using h
    rw [List.length_cons, walkSignatures]
    simp only [htag, List.all_cons]
    by_cases ht : isKeyTag t
    · have hk : sig.length = signatureSize t := hwf (i, t, sig) (List.mem_cons_self _ _) ht
      have hpos : (a.length + 2 + signatureSize t) % 2 ^ 32 = (a ++ i :: t :: sig).length := by
        simp only [List.length_append, List.length_cons] at hlen ⊢
        rw [Nat.mod_eq_of_lt (by omega)]; omega
      rw [if_pos ht, hpos]; simp only [ht, Bool.true_and]
      exact walkSignatures_encodeSignatures rest es (a ++ i :: t :: sig)
        (fun e he => hwf e (List.mem_cons_of_mem _ he)) hlen
    · simp [ht]

/-- The walk from the start of a buffer that begins with well-formed key entries. -/
theorem walkPubKeys_of_prefix {keys : List (UInt8 × List UInt8)} {p : List UInt8}
    (hwf : KeysWellFormed keys) (hpre : encodeKeys keys <+: p)
    (hlt : (encodeKeys keys).length < 2 ^ 32) :
    walkPubKeys p keys.length 0 =
      if keys.all (fun e => isKeyTag e.1) then .ok (encodeKeys keys).length else .error .unknown := by
  obtain ⟨rest, rfl⟩ := hpre
  have h := walkPubKeys_encodeKeys rest keys [] hwf (by rwa [List.nil_append])
  rwa [List.nil_append, List.length_nil] at h

/-- The walk from the start of a buffer that begins with well-formed indexed signatures. -/
theorem walkSignatures_of_prefix {sigs : List (UInt8 × UInt8 × List UInt8)} {p : List UInt8}
    (hwf : SignaturesWellFormed sigs) (hpre : encodeSignatures sigs <+: p)
    (hlt : (encodeSignatures sigs).length < 2 ^ 32) :
    walkSignatures p sigs.length 0 =
      if sigs.all (fun e => isKeyTag e.2.1) then .ok (encodeSignatures sigs).length
      else .error .unknown := by
  obtain ⟨rest, rfl⟩ := hpre
  have h := walkSignatures_encodeSignatures rest sigs [] hwf (by rwa [List.nil_append])
  rwa [List.nil_append, List.length_nil] at h

/-- A prefix read back from the start of a buffer. -/
theorem readBytes_of_prefix {l p : List UInt8} (h : l <+: p) : readBytes p 0 l.length = l := by
  obtain ⟨rest, rfl⟩ := h
  rw [readBytes_zero_eq_take (by simp), List.take_left]

/-! ## What `crypto_hashSigSection` computes -/

/-- The buffers of `s` hold the given entries: for a `PubKeys` signer, its first `pubKeysLen` key
entries are `keys`, and its first `signaturesLen` indexed signatures are `sigs`, all well formed.
The hashed ranges fit in the 32-bit arithmetic of the code, as every buffer of the device does. -/
structure SectionLayout (s : SignatureSection) (keys : List (UInt8 × List UInt8))
    (sigs : List (UInt8 × UInt8 × List UInt8)) : Prop where
  keys : s.signerDiscriminant = signerPubKeys →
    keys.length = s.pubKeysLen ∧ KeysWellFormed keys ∧ encodeKeys keys <+: s.pubKeys.ptr ∧
      (encodeKeys keys).length < 2 ^ 32
  sigs_length : sigs.length = s.signaturesLen
  sigs_wf : SignaturesWellFormed sigs
  sigs_prefix : encodeSignatures sigs <+: s.indexedSignatures.ptr
  sigs_lt : (encodeSignatures sigs).length < 2 ^ 32
  hashes_lt : hashLen * s.hashes.hashesLen < 2 ^ 32

/-- The signer is `PubKeys` with known key tags, or `Address`. -/
def signerValid (s : SignatureSection) (keys : List (UInt8 × List UInt8)) : Bool :=
  if s.signerDiscriminant = signerPubKeys then keys.all (fun e => isKeyTag e.1)
  else s.signerDiscriminant == signerAddress

theorem signerDiscriminant_of_signerValid {s : SignatureSection} {keys : List (UInt8 × List UInt8)}
    (h : signerValid s keys) :
    s.signerDiscriminant = signerPubKeys ∨ s.signerDiscriminant = signerAddress := by
  unfold signerValid at h
  by_cases hp : s.signerDiscriminant = signerPubKeys
  · exact .inl hp
  · rw [if_neg hp] at h
    exact .inr (beq_iff_eq.mp h)

theorem signerDiscriminant_ne_of_not_signerValid {s : SignatureSection}
    {keys : List (UInt8 × List UInt8)} (h : ¬ signerValid s keys) :
    s.signerDiscriminant ≠ signerAddress := by
  intro ha
  have hp : s.signerDiscriminant ≠ signerPubKeys := by rw [ha]; decide
  rw [signerValid, if_neg hp, ha, beq_self_eq_true] at h
  exact h rfl

/-- What is hashed for the signer: the key count and the keys, or the address bytes. -/
def signerBytes (s : SignatureSection) (keys : List (UInt8 × List UInt8)) : List UInt8 :=
  if s.signerDiscriminant = signerPubKeys then le32 s.pubKeysLen ++ encodeKeys keys
  else readBytes s.addressBytes.ptr 0 s.addressBytes.len

/-- The message SHA-256 is run over: the fields of the section back to back. -/
def sigSectionPreimage (s : SignatureSection) (pre : Option (List UInt8))
    (keys : List (UInt8 × List UInt8)) (sigs : List (UInt8 × UInt8 × List UInt8)) : List UInt8 :=
  pre.getD [] ++ le32 s.hashes.hashesLen ++ readBytes s.hashes.hashes.ptr 0 (hashLen * s.hashes.hashesLen) ++
    [s.signerDiscriminant] ++ signerBytes s keys ++ le32 s.signaturesLen ++ encodeSignatures sigs

/-- The signer and every walked tag are known: a `PubKeys` or `Address` signer, known key tags
for `PubKeys`, and known signature tags. -/
def SectionValid (s : SignatureSection) (keys : List (UInt8 × List UInt8))
    (sigs : List (UInt8 × UInt8 × List UInt8)) : Prop :=
  (s.signerDiscriminant = signerPubKeys ∨ s.signerDiscriminant = signerAddress) ∧
    (s.signerDiscriminant = signerPubKeys → keys.all (fun e => isKeyTag e.1)) ∧
    sigs.all (fun e => isKeyTag e.2.1)

theorem signerValid_and_iff {s : SignatureSection} {keys : List (UInt8 × List UInt8)}
    {sigs : List (UInt8 × UInt8 × List UInt8)} :
    (signerValid s keys && sigs.all (fun e => isKeyTag e.2.1)) = true ↔ SectionValid s keys sigs := by
  unfold signerValid SectionValid
  by_cases hp : s.signerDiscriminant = signerPubKeys
  · simp only [hp, if_true, Bool.and_eq_true, true_or, forall_const, true_and]
  · simp only [hp, if_false, Bool.and_eq_true, beq_iff_eq, false_or, false_implies, true_and]

/-- What `crypto_hashSigSection` checks of a section, read off its buffers: the signer is
`PubKeys` and the key walk reads only known tags, or the signer is `Address`; and the signature
walk reads only known tags. -/
def HashableSection (s : SignatureSection) : Prop :=
  ((s.signerDiscriminant = signerPubKeys ∧
      ∃ pos, walkPubKeys s.pubKeys.ptr s.pubKeysLen 0 = .ok pos) ∨
    s.signerDiscriminant = signerAddress) ∧
  ∃ pos, walkSignatures s.indexedSignatures.ptr s.signaturesLen 0 = .ok pos

section Reliable

variable {d : Device} (hd : d.Reliable)
include hd

theorem hashWalked_of_reliable (c p : List UInt8) (pos : Nat) :
    hashWalked d c p pos = .ok (c ++ readBytes p 0 pos) := by
  unfold hashWalked; split
  · simp [hd]
  · simp_all [pure, Except.pure]

theorem hashPrefix_of_reliable (pre : Option (List UInt8)) :
    hashPrefix d pre = .ok (pre.getD []) := by
  cases pre <;> simp [hashPrefix, hd, pure, Except.pure]

theorem hashSigner_eq {s : SignatureSection} {keys : List (UInt8 × List UInt8)}
    {sigs : List (UInt8 × UInt8 × List UInt8)} (hl : SectionLayout s keys sigs) (c : List UInt8) :
    hashSigner d s c =
      if signerValid s keys then .ok (c ++ signerBytes s keys)
      else .error (if s.signerDiscriminant = signerPubKeys then .unknown else .invalidCryptoSettings) := by
  unfold hashSigner signerValid signerBytes
  by_cases hp : s.signerDiscriminant = signerPubKeys
  · obtain ⟨hlen, hwf, hpre, hlt⟩ := hl.keys hp
    rw [← hlen, walkPubKeys_of_prefix hwf hpre hlt]
    by_cases hk : keys.all (fun e => isKeyTag e.1) <;>
      simp [hp, hk, hd, bind, Except.bind, hashWalked_of_reliable hd, readBytes_of_prefix hpre]
  · by_cases ha : s.signerDiscriminant = signerAddress <;> simp_all

theorem hashSignatures_eq {s : SignatureSection} {keys : List (UInt8 × List UInt8)}
    {sigs : List (UInt8 × UInt8 × List UInt8)} (hl : SectionLayout s keys sigs) (c : List UInt8) :
    hashSignatures d s c =
      if sigs.all (fun e => isKeyTag e.2.1) then .ok (c ++ le32 s.signaturesLen ++ encodeSignatures sigs)
      else .error .unknown := by
  unfold hashSignatures
  rw [← hl.sigs_length, walkSignatures_of_prefix hl.sigs_wf hl.sigs_prefix hl.sigs_lt]
  by_cases hk : sigs.all (fun e => isKeyTag e.2.1) <;>
    simp [hk, hd, bind, Except.bind, hashWalked_of_reliable hd, readBytes_of_prefix hl.sigs_prefix]

/-- `crypto_hashSigSection` on a section whose buffers hold well-formed entries: it fails exactly
when the signer discriminant is unknown or a walked tag is, and otherwise returns the SHA-256 of
the fields back to back, the walked ranges being exactly the encoded entries. -/
theorem cryptoHashSigSection_of_layout {s : SignatureSection} {keys : List (UInt8 × List UInt8)}
    {sigs : List (UInt8 × UInt8 × List UInt8)} (hl : SectionLayout s keys sigs)
    (pre : Option (List UInt8)) :
    cryptoHashSigSection d s pre hashLen =
      if signerValid s keys && sigs.all (fun e => isKeyTag e.2.1) then
        .ok (d.sha256 (sigSectionPreimage s pre keys sigs))
      else .error (if s.signerDiscriminant = signerPubKeys ∨ s.signerDiscriminant = signerAddress
        then .unknown else .invalidCryptoSettings) := by
  have hhash : hashLen * s.hashes.hashesLen % 2 ^ 32 = hashLen * s.hashes.hashesLen :=
    Nat.mod_eq_of_lt hl.hashes_lt
  rw [cryptoHashSigSection, if_neg (by decide)]
  simp only [hashPrefix_of_reliable hd, hhash, Device.sha256Update_of_reliable hd,
    hashSigner_eq hd hl, bind, Except.bind]
  by_cases hv : signerValid s keys
  · have hdisc := signerDiscriminant_of_signerValid hv
    simp only [signerPubKeys, signerAddress] at hdisc
    by_cases hs : sigs.all (fun e => isKeyTag e.2.1) <;>
      simp [hv, hs, hdisc, hd, hashSignatures_eq hd hl, sigSectionPreimage]
  · have hdisc := signerDiscriminant_ne_of_not_signerValid hv
    simp only [signerAddress] at hdisc
    simp [hv, hdisc]

/-- Over well-formed buffers, `crypto_hashSigSection` fails exactly when the signer or a walked
tag is unknown, and otherwise returns the SHA-256 of the section's fields back to back. -/
theorem cryptoHashSigSection_spec {s : SignatureSection} {keys : List (UInt8 × List UInt8)}
    {sigs : List (UInt8 × UInt8 × List UInt8)} (hl : SectionLayout s keys sigs)
    (pre : Option (List UInt8)) :
    ((∃ e, cryptoHashSigSection d s pre hashLen = .error e) ↔ ¬ SectionValid s keys sigs) ∧
      (SectionValid s keys sigs →
        cryptoHashSigSection d s pre hashLen = .ok (d.sha256 (sigSectionPreimage s pre keys sigs))) := by
  rw [cryptoHashSigSection_of_layout hd hl pre, ← signerValid_and_iff]
  by_cases hv : (signerValid s keys && sigs.all (fun e => isKeyTag e.2.1)) = true <;> simp [hv]

/-- A section whose signer and walked tags are known is hashed, whatever its buffers hold
beyond the walked entries: the digest is SHA-256 of some message. -/
theorem cryptoHashSigSection_of_hashable {s : SignatureSection} (h : HashableSection s)
    (pre : Option (List UInt8)) : ∃ m, cryptoHashSigSection d s pre hashLen = .ok (d.sha256 m) := by
  obtain ⟨hsigner, pos, hpos⟩ := h
  rw [cryptoHashSigSection, if_neg (by decide)]
  rcases hsigner with ⟨hp, kpos, hkpos⟩ | ha
  · simp [hashPrefix_of_reliable hd, hashSigner, hp, hkpos, hashSignatures, hpos,
      hashWalked_of_reliable hd, hd, bind, Except.bind]
  · simp [hashPrefix_of_reliable hd, hashSigner, ha, hashSignatures, hpos,
      hashWalked_of_reliable hd, hd, bind, Except.bind]

end Reliable

/-- A section signed by one ed25519 key, with no hash and no signature. -/
def sampleSection : SignatureSection where
  idx := 4
  hashes := ⟨⟨[], 0⟩, 0⟩
  signerDiscriminant := signerPubKeys
  pubKeysLen := 1
  pubKeys := Bytes.ofList (encodeKeys [(keyEd25519, List.replicate 32 5)])
  addressBytes := ⟨[], 0⟩
  signaturesLen := 0
  indexedSignatures := ⟨[], 0⟩

theorem sampleSection_layout :
    SectionLayout sampleSection [(keyEd25519, List.replicate 32 5)] [] where
  keys := fun _ => ⟨rfl, by simp [KeysWellFormed, isKeyTag, pubKeySize], List.prefix_refl _,
    by simp [encodeKeys]⟩
  sigs_length := rfl
  sigs_wf := by simp [SignaturesWellFormed]
  sigs_prefix := List.nil_prefix
  sigs_lt := by simp [encodeSignatures]
  hashes_lt := by simp [sampleSection]

/-! ## Entries of both kinds -/

/-- A key of each kind: an ed25519 key (32 bytes) and a compressed secp256k1 key (33 bytes). -/
def mixedKeys : List (UInt8 × List UInt8) :=
  [(keyEd25519, List.replicate 32 5), (keySecp256k1, List.replicate 33 6)]

/-- A signature of each kind: an ed25519 signature (64 bytes) at index 0 and a secp256k1
signature (65 bytes) at index 1. -/
def mixedSigs : List (UInt8 × UInt8 × List UInt8) :=
  [(0, keyEd25519, List.replicate 64 7), (1, keySecp256k1, List.replicate 65 8)]

/-- A `PubKeys` section over two hashes, with the keys of `mixedKeys` and the signatures of
`mixedSigs` in its buffers, each buffer holding two more bytes past the walked entries. -/
def mixedSection : SignatureSection where
  idx := 4
  hashes := ⟨Bytes.ofList (List.replicate 32 1 ++ List.replicate 32 2), 2⟩
  signerDiscriminant := signerPubKeys
  pubKeysLen := 2
  pubKeys := Bytes.ofList (encodeKeys mixedKeys ++ [0xEE, 0xEE])
  addressBytes := ⟨[], 0⟩
  signaturesLen := 2
  indexedSignatures := Bytes.ofList (encodeSignatures mixedSigs ++ [0xEE, 0xEE])

theorem mixedSection_layout : SectionLayout mixedSection mixedKeys mixedSigs where
  keys := fun _ => ⟨rfl, by unfold KeysWellFormed; decide, ⟨[0xEE, 0xEE], rfl⟩, by decide⟩
  sigs_length := rfl
  sigs_wf := by unfold SignaturesWellFormed; decide
  sigs_prefix := ⟨[0xEE, 0xEE], rfl⟩
  sigs_lt := by
    simp only [mixedSigs, encodeSignatures, List.length_cons, List.length_append,
      List.length_replicate, List.length_nil]
    decide
  hashes_lt := by decide

theorem mixedSection_hashed :
    sampleDevice.Reliable ∧ SectionLayout mixedSection mixedKeys mixedSigs ∧
      ((∃ e, cryptoHashSigSection sampleDevice mixedSection (some [0x03]) hashLen = .error e) ↔
        ¬ SectionValid mixedSection mixedKeys mixedSigs) ∧
      (SectionValid mixedSection mixedKeys mixedSigs →
        cryptoHashSigSection sampleDevice mixedSection (some [0x03]) hashLen =
          .ok (sampleDevice.sha256 (sigSectionPreimage mixedSection (some [0x03]) mixedKeys
            mixedSigs))) :=
  ⟨sampleDevice_reliable, mixedSection_layout,
    cryptoHashSigSection_spec sampleDevice_reliable mixedSection_layout (some [0x03])⟩

/-! ## A hash count whose byte count wraps -/

/-- A device whose digest is the first 32 bytes of the message, padded with zeros: it tells
apart messages that differ in their first 32 bytes. -/
def prefixDevice : Device :=
  { sampleDevice with
    sha256 := fun m => (m ++ List.replicate 32 0).take 32
    length_sha256 := fun m => by
      simp only [List.length_take, List.length_append, List.length_replicate, cxSha256Size]
      omega }

theorem prefixDevice_reliable : prefixDevice.Reliable where
  deriveBip32 := rfl
  initPrivateKey := fun _ => rfl
  initPublicKey := rfl
  generatePair := fun _ => rfl
  eddsaSign := fun _ _ => rfl
  sha256Update := fun _ _ => rfl
  sha256Final := fun _ => rfl
  hashSection := fun _ _ => ⟨_, rfl⟩

/-- An `Address` section with no key and no signature that declares `2^27` hashes and holds 32
bytes of them: `HASH_LEN * 2^27 = 2^32`, which the code's 32-bit product wraps to zero. -/
def manyHashesSection : SignatureSection where
  idx := 4
  hashes := ⟨Bytes.ofList (List.replicate 32 0xAB), 2 ^ 27⟩
  signerDiscriminant := signerAddress
  pubKeysLen := 0
  pubKeys := ⟨[], 0⟩
  addressBytes := ⟨[], 0⟩
  signaturesLen := 0
  indexedSignatures := ⟨[], 0⟩

/-- Without the bound `HASH_LEN * hashesLen < 2^32` the digest is not that of the section's
fields: `manyHashesSection` has a known signer and no entry to walk, and on a device whose
primitives all succeed its digest is not SHA-256 of the count, the `32 * 2^27` hash bytes and
the rest, since the code hashes no hash byte at all. -/
theorem manyHashesSection_hashesUnhashed :
    prefixDevice.Reliable ∧ SectionValid manyHashesSection [] [] ∧
      cryptoHashSigSection prefixDevice manyHashesSection none hashLen ≠
        .ok (prefixDevice.sha256 (sigSectionPreimage manyHashesSection none [] [])) :=
  -- the fifth byte of the digest: the discriminant in the code's message, a hash byte in the other
  ⟨prefixDevice_reliable, ⟨.inr rfl, nofun, rfl⟩, fun h => absurd
    (congrArg (fun r : Except ZxErr (List UInt8) => match r with
      | .ok l => l.getD 4 0
      | .error _ => 0) h) (by decide)⟩

end NamadaLedger
