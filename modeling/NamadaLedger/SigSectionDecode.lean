import NamadaLedger.Responses

/-!
# The hashed form of a signature section, read back

A signature over the digest of `crypto_hashSigSection` binds the section only if no section with
other contents feeds SHA-256 the same bytes. This module reads the preimage `sigSectionPreimage`
back, given the length of an address:

* `readLe32`, `readKey`, `readSignature` and `readMany` — one reader per kind of field, each
  reading back its encoding followed by anything;
* `decodeSigSection_preimage` — the whole preimage reads back as the hashed contents of the
  section (`SignatureSection.view`): the hash bytes, the signer and the indexed signatures;
* `cryptoHashSigSection_binds` — two well-formed sections whose addresses have one length, and
  whose contents differ, get one digest only when their two different preimages collide under
  SHA-256;
* the address bytes are hashed with no length: sections whose addresses differ in length can
  feed SHA-256 the same bytes (`cryptoHashSigSection_addressCollision`), so the binding rests on
  the parser fixing that length.
-/

namespace NamadaLedger

/-! ## The contents a digest commits to -/

/-- The signer as the preimage carries it: the key entries, or the address bytes. -/
inductive SignerView
  | pubKeys (keys : List (UInt8 × List UInt8))
  | address (bytes : List UInt8)
  deriving Repr, DecidableEq

/-- What the preimage of a section says: the hash bytes, the signer and the indexed
signatures. -/
structure SectionView where
  hashes : List UInt8
  signer : SignerView
  signatures : List (UInt8 × UInt8 × List UInt8)
  deriving Repr, DecidableEq

/-- The contents of `s` that `crypto_hashSigSection` hashes, its buffers holding the key entries
`keys` and the indexed signatures `sigs`. -/
def SignatureSection.view (s : SignatureSection) (keys : List (UInt8 × List UInt8))
    (sigs : List (UInt8 × UInt8 × List UInt8)) : SectionView where
  hashes := readBytes s.hashes.hashes.ptr 0 (hashLen * s.hashes.hashesLen)
  signer := if s.signerDiscriminant = signerPubKeys then .pubKeys keys
    else .address (readBytes s.addressBytes.ptr 0 s.addressBytes.len)
  signatures := sigs

/-! ## Readers -/

section Readers

/-- The signer discriminant: one byte. -/
def readDiscriminant : List UInt8 → Option (UInt8 × List UInt8)
  | b :: bs => some (b, bs)
  | [] => none

/-- A `uint32_t` in the device's memory order. -/
def readLe32 (bs : List UInt8) : Option (Nat × List UInt8) :=
  (readFixed 4 bs).map fun (w, r) => (leValue w, r)

/-- A key entry: a known tag, then a key of that tag's length. -/
def readKey : List UInt8 → Option ((UInt8 × List UInt8) × List UInt8)
  | t :: bs => if isKeyTag t then (readFixed (pubKeySize t) bs).map fun (k, r) => ((t, k), r)
    else none
  | [] => none

/-- An indexed signature: the index, a known tag, then a signature of that tag's length. -/
def readSignature : List UInt8 → Option ((UInt8 × UInt8 × List UInt8) × List UInt8)
  | i :: t :: bs =>
    if isKeyTag t then (readFixed (signatureSize t) bs).map fun (sig, r) => ((i, t, sig), r)
    else none
  | _ => none

/-- `n` entries, one after the other. -/
def readMany {α : Type} (read : List UInt8 → Option (α × List UInt8)) :
    Nat → List UInt8 → Option (List α × List UInt8)
  | 0, bs => some ([], bs)
  | n + 1, bs => do
    let (e, bs) ← read bs
    let (es, bs) ← readMany read n bs
    pure (e :: es, bs)

theorem readDiscriminant_cons (b : UInt8) (bs : List UInt8) :
    readDiscriminant (b :: bs) = some (b, bs) := rfl

theorem readLe32_append {n : Nat} (h : n < 2 ^ 32) (rest : List UInt8) :
    readLe32 (le32 n ++ rest) = some (n, rest) := by
  rw [readLe32, readFixed_append (length_le32 n), Option.map_some']
  simp only [leValue_le32, Nat.mod_eq_of_lt h]

theorem readKey_cons {t : UInt8} {k : List UInt8} (ht : isKeyTag t) (hk : k.length = pubKeySize t)
    (rest : List UInt8) : readKey (t :: (k ++ rest)) = some ((t, k), rest) := by
  rw [readKey, if_pos ht, readFixed_append hk, Option.map_some']

theorem readSignature_cons {i t : UInt8} {sig : List UInt8} (ht : isKeyTag t)
    (hs : sig.length = signatureSize t) (rest : List UInt8) :
    readSignature (i :: t :: (sig ++ rest)) = some ((i, t, sig), rest) := by
  rw [readSignature, if_pos ht, readFixed_append hs, Option.map_some']

theorem readMany_succ_of_read {α : Type} {read : List UInt8 → Option (α × List UInt8)}
    {n : Nat} {bs r r' : List UInt8} {e : α} {es : List α} (h1 : read bs = some (e, r))
    (h2 : readMany read n r = some (es, r')) : readMany read (n + 1) bs = some (e :: es, r') := by
  simp only [readMany, h1, h2, Option.bind_eq_bind, Option.some_bind, Option.pure_def]

/-- Well-formed key entries with known tags read back, whatever follows them. -/
theorem readMany_encodeKeys : ∀ {keys : List (UInt8 × List UInt8)}, KeysWellFormed keys →
    keys.all (fun e => isKeyTag e.1) → ∀ rest,
      readMany readKey keys.length (encodeKeys keys ++ rest) = some (keys, rest)
  | [], _, _, _ => rfl
  | (t, k) :: es, hwf, ht, rest => by
    rw [List.all_cons, Bool.and_eq_true] at ht
    simp only [encodeKeys, List.cons_append, List.append_assoc, List.length_cons]
    exact readMany_succ_of_read
      (readKey_cons ht.1 (hwf (t, k) (List.mem_cons_self _ _) ht.1) _)
      (readMany_encodeKeys (fun e he => hwf e (List.mem_cons_of_mem _ he)) ht.2 rest)

/-- Well-formed indexed signatures with known tags read back, whatever follows them. -/
theorem readMany_encodeSignatures : ∀ {sigs : List (UInt8 × UInt8 × List UInt8)},
    SignaturesWellFormed sigs → sigs.all (fun e => isKeyTag e.2.1) → ∀ rest,
      readMany readSignature sigs.length (encodeSignatures sigs ++ rest) = some (sigs, rest)
  | [], _, _, _ => rfl
  | (i, t, sig) :: es, hwf, ht, rest => by
    rw [List.all_cons, Bool.and_eq_true] at ht
    simp only [encodeSignatures, List.cons_append, List.append_assoc, List.length_cons]
    exact readMany_succ_of_read
      (readSignature_cons ht.1 (hwf (i, t, sig) (List.mem_cons_self _ _) ht.1) _)
      (readMany_encodeSignatures (fun e he => hwf e (List.mem_cons_of_mem _ he)) ht.2 rest)

/-- Each key entry takes at least its tag byte. -/
theorem length_le_length_encodeKeys :
    ∀ keys : List (UInt8 × List UInt8), keys.length ≤ (encodeKeys keys).length
  | [] => le_rfl
  | (t, k) :: es => by
    have := length_le_length_encodeKeys es
    simp only [encodeKeys, List.length_cons, List.cons_append, List.length_append]
    omega

/-- Each indexed signature takes at least its index and tag bytes. -/
theorem length_le_length_encodeSignatures :
    ∀ sigs : List (UInt8 × UInt8 × List UInt8), sigs.length ≤ (encodeSignatures sigs).length
  | [] => le_rfl
  | (i, t, sig) :: es => by
    have := length_le_length_encodeSignatures es
    simp only [encodeSignatures, List.length_cons, List.cons_append, List.length_append]
    omega

end Readers

/-! ## The preimage, read back -/

/-- The signer after its discriminant: for `PubKeys` the key count and the key entries, for
`Address` the `addressLen` address bytes. -/
def readSigner (addressLen : Nat) (disc : UInt8) (bs : List UInt8) :
    Option (SignerView × List UInt8) :=
  if disc = signerPubKeys then do
    let (n, bs) ← readLe32 bs
    let (keys, bs) ← readMany readKey n bs
    pure (.pubKeys keys, bs)
  else if disc = signerAddress then (readFixed addressLen bs).map fun (a, r) => (.address a, r)
  else none

/-- The reading of a preimage after its prefix: the hash count and the hash bytes, the signer
discriminant and the signer, the signature count and the indexed signatures, and nothing more. -/
def decodeSigSection (addressLen : Nat) (bs : List UInt8) : Option SectionView := do
  let (n, bs) ← readLe32 bs
  let (hashes, bs) ← readFixed (hashLen * n) bs
  let (disc, bs) ← readDiscriminant bs
  let (signer, bs) ← readSigner addressLen disc bs
  let (m, bs) ← readLe32 bs
  let (sigs, bs) ← readMany readSignature m bs
  if bs = [] then some ⟨hashes, signer, sigs⟩ else none

section Layout

variable {s : SignatureSection} {keys : List (UInt8 × List UInt8)}
  {sigs : List (UInt8 × UInt8 × List UInt8)} {addressLen : Nat}

theorem readSigner_signerBytes (hl : SectionLayout s keys sigs) (hv : SectionValid s keys sigs)
    (ha : s.signerDiscriminant = signerAddress → s.addressBytes.len = addressLen)
    (rest : List UInt8) :
    readSigner addressLen s.signerDiscriminant (signerBytes s keys ++ rest) =
      some ((s.view keys sigs).signer, rest) := by
  by_cases hp : s.signerDiscriminant = signerPubKeys
  · obtain ⟨hlen, hwf, -, hlt⟩ := hl.keys hp
    have hn : s.pubKeysLen < 2 ^ 32 := hlen ▸ (length_le_length_encodeKeys keys).trans_lt hlt
    have hkeys := readMany_encodeKeys hwf (hv.2.1 hp) rest
    rw [hlen] at hkeys
    simp only [readSigner, if_pos hp, signerBytes, SignatureSection.view, List.append_assoc,
      readLe32_append hn, hkeys, Option.bind_eq_bind, Option.some_bind, Option.pure_def]
  · have hadr := hv.1.resolve_left hp
    rw [readSigner, if_neg hp, if_pos hadr, signerBytes, if_neg hp,
      readFixed_append (by rw [length_readBytes, ha hadr]), Option.map_some']
    simp only [SignatureSection.view, if_neg hp]

/-- A well-formed, valid section's preimage reads back as its hashed contents, when its address,
if it has one, is `addressLen` bytes long. -/
theorem decodeSigSection_preimage (hl : SectionLayout s keys sigs) (hv : SectionValid s keys sigs)
    (ha : s.signerDiscriminant = signerAddress → s.addressBytes.len = addressLen) :
    decodeSigSection addressLen (sigSectionPreimage s none keys sigs) =
      some (s.view keys sigs) := by
  have hn : s.hashes.hashesLen < 2 ^ 32 := by
    have := hl.hashes_lt; simp only [hashLen] at this; omega
  have hm : s.signaturesLen < 2 ^ 32 :=
    hl.sigs_length ▸ (length_le_length_encodeSignatures sigs).trans_lt hl.sigs_lt
  have hsigs := readMany_encodeSignatures hl.sigs_wf hv.2.2 []
  rw [List.append_nil, hl.sigs_length] at hsigs
  simp only [decodeSigSection, sigSectionPreimage, Option.getD_none, List.nil_append,
    List.append_assoc, List.singleton_append, List.cons_append, readLe32_append hn,
    readFixed_append (length_readBytes _ _ _), readDiscriminant_cons,
    readSigner_signerBytes hl hv ha,
    readLe32_append hm, hsigs, Option.bind_eq_bind, Option.some_bind, if_true]
  rfl

/-- The prefix comes first and is left as it is. -/
theorem sigSectionPreimage_eq_append (pre : Option (List UInt8)) :
    sigSectionPreimage s pre keys sigs = pre.getD [] ++ sigSectionPreimage s none keys sigs := by
  simp only [sigSectionPreimage, Option.getD_none, List.nil_append, List.append_assoc]

/-- Under one prefix, two well-formed, valid sections with addresses of one length feed SHA-256
the same bytes only if their hashed contents are the same. -/
theorem view_eq_of_sigSectionPreimage_eq {s' : SignatureSection}
    {keys' : List (UInt8 × List UInt8)} {sigs' : List (UInt8 × UInt8 × List UInt8)}
    (hl : SectionLayout s keys sigs) (hl' : SectionLayout s' keys' sigs')
    (hv : SectionValid s keys sigs) (hv' : SectionValid s' keys' sigs')
    (ha : s.signerDiscriminant = signerAddress → s.addressBytes.len = addressLen)
    (ha' : s'.signerDiscriminant = signerAddress → s'.addressBytes.len = addressLen)
    {pre : Option (List UInt8)}
    (h : sigSectionPreimage s pre keys sigs = sigSectionPreimage s' pre keys' sigs') :
    s.view keys sigs = s'.view keys' sigs' := by
  rw [sigSectionPreimage_eq_append, sigSectionPreimage_eq_append pre] at h
  have hdec := decodeSigSection_preimage hl hv ha
  rw [List.append_cancel_left h, decodeSigSection_preimage hl' hv' ha'] at hdec
  exact (Option.some.inj hdec).symm

/-- On a reliable device, two well-formed, valid sections whose addresses have one length get one
digest under one prefix only if their hashed contents are the same, or their preimages differ and
collide under SHA-256. -/
theorem cryptoHashSigSection_binds {d : Device} (hd : d.Reliable) {s' : SignatureSection}
    {keys' : List (UInt8 × List UInt8)} {sigs' : List (UInt8 × UInt8 × List UInt8)}
    (hl : SectionLayout s keys sigs) (hl' : SectionLayout s' keys' sigs')
    (hv : SectionValid s keys sigs) (hv' : SectionValid s' keys' sigs')
    (ha : s.signerDiscriminant = signerAddress → s.addressBytes.len = addressLen)
    (ha' : s'.signerDiscriminant = signerAddress → s'.addressBytes.len = addressLen)
    (pre : Option (List UInt8))
    (h : cryptoHashSigSection d s pre hashLen = cryptoHashSigSection d s' pre hashLen) :
    s.view keys sigs = s'.view keys' sigs' ∨
      (sigSectionPreimage s pre keys sigs ≠ sigSectionPreimage s' pre keys' sigs' ∧
        d.sha256 (sigSectionPreimage s pre keys sigs) =
          d.sha256 (sigSectionPreimage s' pre keys' sigs')) := by
  rw [cryptoHashSigSection_of_layout hd hl, if_pos (signerValid_and_iff.mpr hv),
    cryptoHashSigSection_of_layout hd hl', if_pos (signerValid_and_iff.mpr hv')] at h
  by_cases hP : sigSectionPreimage s pre keys sigs = sigSectionPreimage s' pre keys' sigs'
  · exact .inl (view_eq_of_sigSectionPreimage_eq hl hl' hv hv' ha ha' hP)
  · exact .inr ⟨hP, Except.ok.inj h⟩

end Layout

/-- `mixedSection` with its two hashes listed the other way round: other hashed contents, and a
preimage of the same length. -/
def swappedSection : SignatureSection :=
  { mixedSection with hashes := ⟨Bytes.ofList (List.replicate 32 2 ++ List.replicate 32 1), 2⟩ }

theorem swappedSection_layout : SectionLayout swappedSection mixedKeys mixedSigs :=
  { mixedSection_layout with hashes_lt := by simp [swappedSection] }

/-- `sampleDevice` hashes a message to its length, so the two sections get one digest; their
preimages differ from their sixth byte, the first hash byte, on. -/
theorem swappedSection_binds :
    sampleDevice.Reliable ∧ SectionLayout mixedSection mixedKeys mixedSigs ∧
      SectionLayout swappedSection mixedKeys mixedSigs ∧
      SectionValid mixedSection mixedKeys mixedSigs ∧
      SectionValid swappedSection mixedKeys mixedSigs ∧
      (mixedSection.signerDiscriminant = signerAddress → mixedSection.addressBytes.len = 21) ∧
      (swappedSection.signerDiscriminant = signerAddress → swappedSection.addressBytes.len = 21) ∧
      cryptoHashSigSection sampleDevice mixedSection (some [0x03]) hashLen =
        cryptoHashSigSection sampleDevice swappedSection (some [0x03]) hashLen ∧
      (mixedSection.view mixedKeys mixedSigs = swappedSection.view mixedKeys mixedSigs ∨
        (sigSectionPreimage mixedSection (some [0x03]) mixedKeys mixedSigs ≠
            sigSectionPreimage swappedSection (some [0x03]) mixedKeys mixedSigs ∧
          sampleDevice.sha256 (sigSectionPreimage mixedSection (some [0x03]) mixedKeys mixedSigs) =
            sampleDevice.sha256
              (sigSectionPreimage swappedSection (some [0x03]) mixedKeys mixedSigs))) := by
  have hv : SectionValid mixedSection mixedKeys mixedSigs := ⟨.inl rfl, fun _ => rfl, rfl⟩
  have hv' : SectionValid swappedSection mixedKeys mixedSigs := hv
  have ha : mixedSection.signerDiscriminant = signerAddress → mixedSection.addressBytes.len = 21 :=
    fun h => absurd h (by decide)
  have ha' :
      swappedSection.signerDiscriminant = signerAddress → swappedSection.addressBytes.len = 21 :=
    ha
  have hsb : signerBytes swappedSection mixedKeys = signerBytes mixedSection mixedKeys := rfl
  have hn : swappedSection.hashes.hashesLen = mixedSection.hashes.hashesLen := rfl
  have hlen : (sigSectionPreimage mixedSection (some [0x03]) mixedKeys mixedSigs).length =
      (sigSectionPreimage swappedSection (some [0x03]) mixedKeys mixedSigs).length := by
    simp only [sigSectionPreimage, List.length_append, length_readBytes, length_le32,
      List.length_singleton, hsb, hn]
  have h : cryptoHashSigSection sampleDevice mixedSection (some [0x03]) hashLen =
      cryptoHashSigSection sampleDevice swappedSection (some [0x03]) hashLen := by
    rw [cryptoHashSigSection_of_layout sampleDevice_reliable mixedSection_layout,
      if_pos (signerValid_and_iff.mpr hv),
      cryptoHashSigSection_of_layout sampleDevice_reliable swappedSection_layout,
      if_pos (signerValid_and_iff.mpr hv')]
    exact congrArg (fun m : Nat =>
      (.ok (List.replicate 32 (UInt8.ofNat m)) : Except ZxErr (List UInt8))) hlen
  exact ⟨sampleDevice_reliable, mixedSection_layout, swappedSection_layout, hv, hv', ha, ha', h,
    cryptoHashSigSection_binds sampleDevice_reliable mixedSection_layout swappedSection_layout hv
      hv' ha ha' (some [0x03]) h⟩

/-! ## Addresses of two lengths -/

/-- An `Address` section with a 21-byte address and one ed25519 signature of zeros. -/
def shortAddressSection : SignatureSection where
  idx := 4
  hashes := ⟨⟨[], 0⟩, 0⟩
  signerDiscriminant := signerAddress
  pubKeysLen := 0
  pubKeys := ⟨[], 0⟩
  addressBytes := Bytes.ofList (List.replicate 21 1)
  signaturesLen := 1
  indexedSignatures := Bytes.ofList (encodeSignatures [(0, keyEd25519, List.replicate 64 0)])

/-- An `Address` section with no signature, whose address is the bytes that follow the address of
`shortAddressSection` in its preimage, up to its last four. -/
def longAddressSection : SignatureSection :=
  { shortAddressSection with
    addressBytes := Bytes.ofList (List.replicate 21 1 ++ le32 1 ++ [0, keyEd25519] ++
      List.replicate 60 0)
    signaturesLen := 0
    indexedSignatures := ⟨[], 0⟩ }

theorem shortAddressSection_layout :
    SectionLayout shortAddressSection [] [(0, keyEd25519, List.replicate 64 0)] where
  keys := fun h => absurd h (by decide)
  sigs_length := rfl
  sigs_wf := by simp [SignaturesWellFormed, isKeyTag, signatureSize]
  sigs_prefix := List.prefix_refl _
  sigs_lt := by simp [encodeSignatures]
  hashes_lt := by simp [shortAddressSection]

theorem longAddressSection_layout : SectionLayout longAddressSection [] [] where
  keys := fun h => absurd h (by decide)
  sigs_length := rfl
  sigs_wf := by simp [SignaturesWellFormed]
  sigs_prefix := List.nil_prefix
  sigs_lt := by simp [encodeSignatures]
  hashes_lt := by simp [longAddressSection, shortAddressSection]

/-- The address bytes are hashed with no length: on every reliable device and under every
prefix, a section with a 21-byte address and one signature and a section with an 87-byte address
and none, both well formed, get the same digest, though their hashed contents differ. -/
theorem cryptoHashSigSection_addressCollision {d : Device} (hd : d.Reliable)
    (pre : Option (List UInt8)) :
    SectionLayout shortAddressSection [] [(0, keyEd25519, List.replicate 64 0)] ∧
      SectionLayout longAddressSection [] [] ∧
      (∃ h, cryptoHashSigSection d shortAddressSection pre hashLen = .ok h ∧
        cryptoHashSigSection d longAddressSection pre hashLen = .ok h) ∧
      shortAddressSection.view [] [(0, keyEd25519, List.replicate 64 0)] ≠
        longAddressSection.view [] [] := by
  have hP : sigSectionPreimage shortAddressSection pre [] [(0, keyEd25519, List.replicate 64 0)] =
      sigSectionPreimage longAddressSection pre [] [] := by
    -- the last four zero bytes of the signature read as a signature count of zero
    have hsig : List.replicate 64 (0 : UInt8) = List.replicate 60 0 ++ le32 0 :=
      List.replicate_add 60 4 0
    simp only [sigSectionPreimage, signerBytes, shortAddressSection, longAddressSection,
      Bytes.ofList, readBytes_self, encodeSignatures, hsig, List.append_assoc, List.cons_append,
      List.nil_append, List.append_nil, signerAddress, signerPubKeys,
      if_neg (show (0 : UInt8) ≠ 1 by decide)]
  refine ⟨shortAddressSection_layout, longAddressSection_layout,
    ⟨d.sha256
        (sigSectionPreimage shortAddressSection pre [] [(0, keyEd25519, List.replicate 64 0)]),
      ?_, ?_⟩, fun h => List.cons_ne_nil _ _ (congrArg SectionView.signatures h)⟩
  · rw [cryptoHashSigSection_of_layout hd shortAddressSection_layout, if_pos (by decide)]
  · rw [cryptoHashSigSection_of_layout hd longAddressSection_layout, if_pos (by decide), ← hP]

end NamadaLedger
