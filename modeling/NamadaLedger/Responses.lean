import NamadaLedger.Address
import NamadaLedger.SignRun

/-!
# Reading the responses back

The host reads what `crypto_fillAddress` and `crypto_sign` leave in its buffer field by field:
fixed-size fields, a key or a signature after its tag, and texts or index lists after a one-byte
count. This module gives that reading (`parseAddressResponse`, `parseSignResponse`), built from
three readers, and proves that the responses the code writes are read back:

* `readFixed` / `readTagged` / `readCounted` — each with a completeness lemma (the field, followed
  by anything, is read back) and a soundness lemma (`*_eq_some`: what is read was such a field);
* `parseAddressResponse_eq_some` — the address response is unambiguous: the reading accepts a
  buffer exactly when it starts with the `addressResponse` of a 32-byte key and two texts shorter
  than 256 bytes, and returns those three;
* `parseSignResponse_signResponse` — a response with the spec's field sizes is read back, and
  `cryptoSignRun_parseSignResponse` — on a reliable device, within the ten hash slots and in a
  buffer that holds the response, the host reads back the spec's output from what `crypto_sign`
  wrote: the count bytes of the two index lists do not wrap.
-/

namespace NamadaLedger

/-! ## Readers -/

section Readers

/-- The next `n` bytes and what follows them, if there are `n`. -/
def readFixed (n : Nat) (bs : List UInt8) : Option (List UInt8 × List UInt8) :=
  if n ≤ bs.length then some (bs.take n, bs.drop n) else none

/-- The tag `key_ed25519`, then `n` bytes. -/
def readTagged (n : Nat) : List UInt8 → Option (List UInt8 × List UInt8)
  | t :: bs => if t = keyEd25519 then readFixed n bs else none
  | [] => none

/-- A one-byte count, then that many bytes. -/
def readCounted : List UInt8 → Option (List UInt8 × List UInt8)
  | c :: bs => readFixed c.toNat bs
  | [] => none

variable {n : Nat} {xs bs rest : List UInt8}

theorem readFixed_append (h : xs.length = n) (rest : List UInt8) :
    readFixed n (xs ++ rest) = some (xs, rest) := by
  subst h
  rw [readFixed, if_pos (by simp), List.take_left, List.drop_left]

theorem readFixed_eq_some : readFixed n bs = some (xs, rest) ↔ xs.length = n ∧ bs = xs ++ rest := by
  constructor
  · intro h
    unfold readFixed at h
    split at h
    · cases h; exact ⟨List.length_take_of_le ‹_›, (List.take_append_drop n bs).symm⟩
    · cases h
  · rintro ⟨h, rfl⟩
    exact readFixed_append h rest

theorem readTagged_append (h : xs.length = n) (rest : List UInt8) :
    readTagged n (keyEd25519 :: (xs ++ rest)) = some (xs, rest) := by
  rw [readTagged, if_pos rfl, readFixed_append h]

theorem readTagged_eq_some :
    readTagged n bs = some (xs, rest) ↔ xs.length = n ∧ bs = keyEd25519 :: (xs ++ rest) := by
  constructor
  · intro h
    cases bs with
    | nil => cases h
    | cons t bs =>
      rw [readTagged] at h
      split at h
      next ht =>
        obtain ⟨hl, rfl⟩ := readFixed_eq_some.mp h
        exact ⟨hl, by rw [ht]⟩
      next => cases h
  · rintro ⟨h, rfl⟩
    exact readTagged_append h rest

/-- A count byte reads back the length of a text shorter than 256 bytes. -/
theorem toNat_ofNat_length (h : xs.length < 256) : (UInt8.ofNat xs.length).toNat = xs.length := by
  rw [toNat_uint8_ofNat]; omega

theorem readCounted_cons (h : xs.length < 256) (rest : List UInt8) :
    readCounted (UInt8.ofNat xs.length :: (xs ++ rest)) = some (xs, rest) := by
  rw [readCounted, toNat_ofNat_length h, readFixed_append rfl]

theorem readCounted_eq_some :
    readCounted bs = some (xs, rest) ↔ xs.length < 256 ∧ bs = lengthPrefixed xs ++ rest := by
  constructor
  · intro h
    cases bs with
    | nil => cases h
    | cons c bs =>
      obtain ⟨hl, rfl⟩ := readFixed_eq_some.mp h
      have hc : c.toNat < 256 := c.val.isLt
      refine ⟨by omega, ?_⟩
      rw [lengthPrefixed, List.cons_append]
      congr 1
      exact UInt8.toNat.inj (by rw [toNat_ofNat_length (by omega), hl])
  · rintro ⟨h, rfl⟩
    exact readCounted_cons h rest

end Readers

/-! ## The address response -/

section Address

/-- The host's reading of a `crypto_fillAddress` response: the tagged key, then the key's text
and the address's text, each after its length byte. -/
def parseAddressResponse (bs : List UInt8) : Option (List UInt8 × List UInt8 × List UInt8) := do
  let (pk, bs) ← readTagged pkLen25519 bs
  let (keyText, bs) ← readCounted bs
  let (addressText, _) ← readCounted bs
  pure (pk, keyText, addressText)

/-- The address response is unambiguous: the host's reading accepts a buffer exactly when it
starts with the response of a 32-byte key and two texts shorter than 256 bytes, and returns
those three. -/
theorem parseAddressResponse_eq_some {bs pk keyText addressText : List UInt8} :
    parseAddressResponse bs = some (pk, keyText, addressText) ↔
      pk.length = pkLen25519 ∧ keyText.length < 256 ∧ addressText.length < 256 ∧
        ∃ rest, bs = addressResponse pk keyText addressText ++ rest := by
  constructor
  · intro h
    simp only [parseAddressResponse, Option.bind_eq_bind, Option.bind_eq_some, Prod.exists,
      Option.pure_def, Option.some.injEq, Prod.mk.injEq] at h
    obtain ⟨_, _, h1, _, _, h2, _, rest, h3, rfl, rfl, rfl⟩ := h
    obtain ⟨hpk, rfl⟩ := readTagged_eq_some.mp h1
    obtain ⟨hkey, rfl⟩ := readCounted_eq_some.mp h2
    obtain ⟨haddr, rfl⟩ := readCounted_eq_some.mp h3
    exact ⟨hpk, hkey, haddr, rest, by simp only [addressResponse, List.cons_append, List.append_assoc]⟩
  · rintro ⟨hpk, hkey, haddr, rest, rfl⟩
    simp only [addressResponse, lengthPrefixed, List.cons_append, List.append_assoc]
    simp only [parseAddressResponse, readTagged_append hpk, readCounted_cons hkey,
      readCounted_cons haddr, Option.bind_eq_bind, Option.some_bind, Option.pure_def]

variable (d : Device) (codec : AddressCodec)

/-- Whenever a request for an address returns, the host reads back, from the length it answers,
the device's key and the texts the two encoders gave. -/
theorem cryptoFillAddress_parseAddressResponse {kind : UInt8} {b b' : Buffer} {n : Nat}
    (h : cryptoFillAddress d codec kind b = .ok n b') :
    ∃ pk keyText addressText, devicePublicKey d = some pk ∧
      codec.encodeRawPubkey (keyEd25519 :: pk) (b.bytes.length - pkLen25519PlusTag) =
        .ok keyText ∧
      codec.encodeAddress pk ((b.bytes.length - pkLen25519PlusTag - keyText.length - 1) % 2 ^ 16) =
        .ok addressText ∧
      parseAddressResponse (b'.bytes.take n) = some (pk, keyText, addressText) := by
  obtain ⟨-, pk, keyText, addressText, hpk, -, htext, haddr, hn, -, hbytes⟩ :=
    cryptoFillAddress_eq_ok d codec h
  obtain ⟨-, hkey⟩ := codec.fits_encodeRawPubkey _ _ _ htext
  obtain ⟨-, haddr256⟩ := codec.fits_encodeAddress _ _ _ haddr
  refine ⟨pk, keyText, addressText, hpk, htext, haddr, parseAddressResponse_eq_some.mpr
    ⟨length_of_devicePublicKey hpk, hkey, haddr256, [], ?_⟩⟩
  rw [hbytes, hn, List.take_left, List.append_nil]

theorem sampleAddress_readBack :
    cryptoFillAddress sampleDevice sampleCodec keyEd25519 ⟨List.replicate 60 9, 0⟩ =
      .ok 42 ⟨addressResponse (compressPoint (List.replicate 65 7)) [1, 2, 3] [4, 5, 6, 7] ++
        List.replicate 18 0, 60⟩ ∧
    ∃ pk keyText addressText, devicePublicKey sampleDevice = some pk ∧
      sampleCodec.encodeRawPubkey (keyEd25519 :: pk) (60 - pkLen25519PlusTag) = .ok keyText ∧
      sampleCodec.encodeAddress pk ((60 - pkLen25519PlusTag - keyText.length - 1) % 2 ^ 16) =
        .ok addressText ∧
      parseAddressResponse ((addressResponse (compressPoint (List.replicate 65 7)) [1, 2, 3]
        [4, 5, 6, 7] ++ List.replicate 18 0).take 42) = some (pk, keyText, addressText) :=
  have h : cryptoFillAddress sampleDevice sampleCodec keyEd25519 ⟨List.replicate 60 9, 0⟩ =
      .ok 42 ⟨addressResponse (compressPoint (List.replicate 65 7)) [1, 2, 3] [4, 5, 6, 7] ++
        List.replicate 18 0, 60⟩ := by rfl
  ⟨h, cryptoFillAddress_parseAddressResponse sampleDevice sampleCodec h⟩

end Address

/-! ## The signing response -/

section Sign

/-- The host's reading of a `crypto_sign` response: the tagged key, the salt, the tagged raw
signature, a salt-sized gap, the tagged wrapper signature, then each index list after its
count. -/
def parseSignResponse (bs : List UInt8) : Option SignOutput := do
  let (pubKey, bs) ← readTagged pkLen25519 bs
  let (_, bs) ← readFixed saltLen bs
  let (rawSig, bs) ← readTagged ed25519SignatureSize bs
  let (_, bs) ← readFixed saltLen bs
  let (wrapperSig, bs) ← readTagged ed25519SignatureSize bs
  let (rawIndices, bs) ← readCounted bs
  let (finalIndices, _) ← readCounted bs
  pure ⟨pubKey, rawSig, wrapperSig, rawIndices, finalIndices⟩

/-- The field sizes of a response the host can read back. -/
structure SignOutput.Readable (o : SignOutput) : Prop where
  pubKey : o.pubKey.length = pkLen25519
  rawSig : o.rawSig.length = ed25519SignatureSize
  wrapperSig : o.wrapperSig.length = ed25519SignatureSize
  rawIndices : o.rawIndices.length < 256
  finalIndices : o.finalIndices.length < 256

/-- A response of readable sizes, followed by anything, is read back. -/
theorem parseSignResponse_signResponse {o : SignOutput} (h : o.Readable) (rest : List UInt8) :
    parseSignResponse (signResponse o ++ rest) = some o := by
  simp only [signResponse, List.cons_append, List.append_assoc]
  simp only [parseSignResponse, readTagged_append h.pubKey, readTagged_append h.rawSig,
    readTagged_append h.wrapperSig, readFixed_append (List.length_replicate saltLen 0),
    readCounted_cons h.rawIndices, readCounted_cons h.finalIndices, Option.bind_eq_bind,
    Option.some_bind, Option.pure_def]

/-- On a reliable device whose accepted prior sections are valid, with at most
`MAX_SIGNATURE_HASHES` hashes and a buffer that holds the response, `crypto_sign` returns and the
host reads the spec's output back from its buffer. -/
theorem cryptoSignRun_parseSignResponse {d : Device} {tx : ParserTx} {output : List UInt8}
    (hd : d.Reliable) (hprior : PriorsValid d tx)
    (hcount : accumulatedCount d tx ≤ maxSignatureHashes)
    (hmin : minimumBufferSize ≤ output.length) (hlen : responseLength d tx ≤ output.length) :
    ∃ o s, signSpec d tx = .ok o ∧ cryptoSignRun d tx output = .ok () s ∧
      parseSignResponse s.output.bytes = some o := by
  obtain ⟨s, hrun, -, -, -, -, hcontent⟩ :=
    cryptoSignRun_of_reliable hd hmin hprior (by simp at hcount ⊢; omega)
  obtain ⟨o, ho, hbytes⟩ := hcontent hcount hlen
  obtain ⟨o', ho', h1, h2, h3, h4, h5⟩ := signSpec_ok hd hprior
  obtain rfl : o = o' := Except.ok.inj (ho.symm.trans ho')
  have hraw := length_rawEntries_le d tx
  refine ⟨o, s, ho, hrun, ?_⟩
  rw [hbytes]
  exact parseSignResponse_signResponse ⟨h1, h2, h3, by simp at hcount; omega,
    by simp at hcount; omega⟩ _

theorem proposalTx_readBack :
    sampleDevice.Reliable ∧ PriorsValid sampleDevice (proposalTx 1) ∧
      accumulatedCount sampleDevice (proposalTx 1) ≤ maxSignatureHashes ∧
      minimumBufferSize ≤ (List.replicate 240 (0 : UInt8)).length ∧
      responseLength sampleDevice (proposalTx 1) ≤ (List.replicate 240 (0 : UInt8)).length ∧
      ∃ o s, signSpec sampleDevice (proposalTx 1) = .ok o ∧
        cryptoSignRun sampleDevice (proposalTx 1) (List.replicate 240 0) = .ok () s ∧
        parseSignResponse s.output.bytes = some o := by
  obtain ⟨h3, h4, h5⟩ := proposalTx_one_fits
  exact ⟨sampleDevice_reliable, priorsValid_proposalTx 1, h3, h4, h5,
    cryptoSignRun_parseSignResponse sampleDevice_reliable (priorsValid_proposalTx 1) h3 h4 h5⟩

end Sign

end NamadaLedger
