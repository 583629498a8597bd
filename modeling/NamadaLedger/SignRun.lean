import NamadaLedger.SignSpec

/-!
# A run of `crypto_sign`, phase by phase

One lemma per phase of the model (`Sign`), each giving the memory the phase leaves from the
memory it starts on, on a reliable device; over them, `cryptoSignRun_of_reliable` follows a
whole run and relates it to the spec (`SignSpec`):

* the run succeeds, and its counters and stores reach as far as the final hash list needs,
  however long it is;
* within the ten slots and a buffer that holds the response, the buffer is the spec's
  `signResponse` followed by zeros.

The digests `crypto_hashSigSection` computes over `crypto_sign`'s own sections are the spec's
`sectionDigest` of the held entries (`sha256_preimage_unsigned`, `sha256_preimage_signed`).

The contract, `cryptoSign_eq_signResponse`, asks of each accepted prior section what
`crypto_hashSigSection` needs to return (`HashableSection`): a known signer and known tags
wherever it walks. Known key tags alone are not enough: `badSignerTx`, whose one accepted section
walks only known tags but names signer 7, makes every run fail (`badSignerTx_signFails`).
-/

namespace NamadaLedger

/-! ## `crypto_sign`'s own sections -/

theorem ownSection_layout_unsigned (s : SignState) (b : Bool)
    (h : hashLen * s.sigHashesLen < 2 ^ 32) : SectionLayout (ownSection s 0 0 b) [] [] where
  keys := fun _ => ⟨rfl, by simp [KeysWellFormed], List.nil_prefix, by simp [encodeKeys]⟩
  sigs_length := rfl
  sigs_wf := by simp [SignaturesWellFormed]
  sigs_prefix := List.nil_prefix
  sigs_lt := by simp [encodeSignatures]
  hashes_lt := h

theorem sha256_preimage_unsigned (d : Device) {s : SignState} {es : List HashEntry} (hs : Holds s es)
    (hsig : s.sigHashesLen = es.length) (b : Bool) :
    d.sha256 (sigSectionPreimage (ownSection s 0 0 b) none [] []) =
      sectionDigest d [] (es.map (·.1)) [] [] := by
  have := hs.read_hashes
  simp only [sigSectionPreimage, sectionDigest, ownSection, signerBytes, hsig, this]
  simp [encodeKeys, encodeSignatures]

theorem cryptoHashSigSection_unsigned {d : Device} (hd : d.Reliable) (s : SignState) (b : Bool) (h : hashLen * s.sigHashesLen < 2 ^ 32) :
    cryptoHashSigSection d (ownSection s 0 0 b) none hashLen =
      .ok (d.sha256 (sigSectionPreimage (ownSection s 0 0 b) none [] [])) := by
  rw [cryptoHashSigSection_of_layout hd (ownSection_layout_unsigned s b h)]
  simp [signerValid, ownSection]

theorem signRawSection_of_reliable {d : Device} (hd : d.Reliable) {s : SignState} {es : List HashEntry} {a sig : List UInt8} {L : Nat}
    (hs : Holds s es) (hlt : es.length < maxSignatureHashes) (hout : s.output = padded a L)
    (ha : a.length = pkLen25519PlusTag) (hL : minimumBufferSize ≤ L)
    (hsig : deviceSign d (sectionDigest d [] (es.map (·.1)) [] []) = some sig) :
    signRawSection d s = .ok (UInt8.ofNat es.length, es.map (·.2))
      { s with sigHashesLen := s.hashesLen
               hashesBuffer := s.hashesBuffer.write (s.hashesLen * hashLen)
                 (sectionDigest d [] (es.map (·.1)) [] [])
               output := padded (a ++ List.replicate (saltLen + 1) 0 ++ sig) L } := by
  have hn := hs.hashesLen_eq
  have hlt' : es.length < 10 := hlt
  have hsigl := length_of_deviceSign hsig
  simp at hL ha hsigl
  have hdig : cryptoHashSigSection d (ownSection { s with sigHashesLen := s.hashesLen } 0 0 false)
      none hashLen = .ok (sectionDigest d [] (es.map (·.1)) [] []) := by
    rw [cryptoHashSigSection_unsigned hd _ _ (by simp [hn]; omega),
      @sha256_preimage_unsigned d { s with sigHashesLen := s.hashesLen } _
        (hs.of_buffers rfl rfl rfl) hn]
  have hread : readBytes (overwrite s.hashesBuffer.bytes (s.hashesLen * hashLen)
      (sectionDigest d [] (es.map (·.1)) [] [])) (s.hashesLen * hashLen) hashLen =
      sectionDigest d [] (es.map (·.1)) [] [] := by
    have := @readBytes_overwrite_self s.hashesBuffer.bytes
      (sectionDigest d [] (es.map (·.1)) [] []) (s.hashesLen * hashLen) (by simp [hs.length_hashesBuffer, hn]; omega)
    simpa using this
  have hpad : (padded a L).write (rawOffset + 1) sig =
      padded (a ++ List.replicate (saltLen + 1) 0 ++ sig) L := by
    have := @padded_write a sig L (saltLen + 1) (by simp [ha, hsigl]; omega)
    simpa [ha] using this
  simp only [signRawSection, estate_bind_apply, estate_modify_apply, estate_get_apply, hdig,
    fromExcept_ok, storeHash_apply, onOutput_apply, estate_pure_apply, Buffer.read, Buffer.write_bytes, hread]
  rw [cryptoSignEd25519_of_deviceSign (List.ne_nil_of_length_pos (by simp)) hsig, hout, hpad]
  have hidx : readBytes s.indicesBuffer.bytes 0 es.length = es.map (·.2) := hs.read_indices
  simp [hn, hidx, UInt8.toNat_ofNat_of_lt (show es.length < 256 by omega)]

theorem signSetup_apply {d : Device} {output pk : List UInt8} (hmin : minimumBufferSize ≤ output.length)
    (hpk : devicePublicKey d = some pk) :
    signSetup d output.length (SignState.init output) =
      .ok () { SignState.init output with output := padded (keyEd25519 :: pk) output.length } := by
  have hpkl := length_of_devicePublicKey hpk
  simp at hmin hpkl
  have hpad := @padded_write [] pk output.length 1 (by simp; omega)
  simp only [List.length_nil, Nat.zero_add, List.nil_append] at hpad
  simp [signSetup, Nat.not_lt.mpr hmin, cryptoExtractPublicKeyEd25519, hpk, SignState.init,
    write_zero_eq_padded (by omega : 0 < output.length), hpad]

theorem hashRawHeader_of_reliable {d : Device} (hd : d.Reliable) (tx : ParserTx) {s : SignState} (h0 : s.hashesLen = 0) :
    hashRawHeader d tx s = .ok () { s.append (rawHeaderHash d tx, 255) with sigHashesLen := s.sigHashesLen } := by
  simp only [hashRawHeader, estate_bind_apply, storeIndex_apply, cryptoHashRawHeader_of_reliable hd, fromExcept_ok, storeHash_apply, estate_modify_apply]
  simp [SignState.append, h0, rawHeaderHash]

theorem addCodeData_apply {d : Device} {tx : ParserTx} {hc hdt : List UInt8}
    (hcode : d.hashSection .code tx.transaction.sections.code = .ok hc)
    (hdata : d.hashSection .data tx.transaction.sections.data = .ok hdt) (s : SignState) :
    addCodeData d tx s = .ok () ((s.append (hc, tx.transaction.sections.code.idx)).append
      (hdt, tx.transaction.sections.data.idx)) := by
  simp only [addCodeData, estate_bind_apply, estate_get_apply, storeIndex_apply, hcode, hdata,
    fromExcept_ok, storeHash_apply, bumpHashesLen_apply]
  simp [SignState.append, Nat.add_assoc, Nat.add_mul]

theorem addMemo_apply {d : Device} {tx : ParserTx} {ms : List HashEntry}
    (hm : memoEntries d tx.transaction.header.memoSection = .ok ms) (s : SignState) :
    addMemo d tx s = .ok () (s.appendAll ms) := by
  unfold addMemo
  cases hmemo : tx.transaction.header.memoSection with
  | none =>
    simp only [hmemo, memoEntries, pure, Except.pure, Except.ok.injEq] at hm
    subst hm; rfl
  | some memo =>
    rw [hmemo] at hm
    cases hh : d.hashSection .extraData memo with
    | error e => simp [memoEntries, hh, bind, Except.bind] at hm
    | ok h =>
      simp only [memoEntries, hh, bind, Except.bind, pure, Except.pure, Except.ok.injEq] at hm
      subst hm
      simp only [estate_bind_apply, estate_get_apply, storeIndex_apply, hh, fromExcept_ok,
        storeHash_apply, bumpHashesLen_apply]
      simp [SignState.append]

theorem setFeeHeader_of_reliable {d : Device} (hd : d.Reliable) (tx : ParserTx) (s : SignState) :
    setFeeHeader d tx s = .ok ()
      { s with hashesBuffer := s.hashesBuffer.write 0 (feeHeaderHash d tx),
               indicesBuffer := s.indicesBuffer.write 0 [0] } := by
  simp only [setFeeHeader, estate_bind_apply, cryptoHashFeeHeader_of_reliable hd, fromExcept_ok,
    storeHash_apply, storeIndex_apply]
  simp [feeHeaderHash]

/-- The signed raw section names the device key after its tag, and carries the raw signature
after the last salt byte (its index) and its tag. -/
theorem ownSection_layout_signed {s : SignState} {pk sig rest : List UInt8}
    (hout : s.output.bytes = keyEd25519 :: pk ++ List.replicate (saltLen + 1) 0 ++ sig ++ rest)
    (hpk : pk.length = pkLen25519) (hsig : sig.length = ed25519SignatureSize)
    (h : hashLen * s.sigHashesLen < 2 ^ 32) :
    SectionLayout (ownSection s 1 1 true) [(keyEd25519, pk)] [(0, keyEd25519, sig)] where
  keys := fun _ => ⟨rfl, by simp [KeysWellFormed, hpk, pubKeySize, isKeyTag],
    ⟨List.replicate (saltLen + 1) 0 ++ sig ++ rest, by simp [ownSection, hout, encodeKeys]⟩,
    by simp [encodeKeys, hpk]⟩
  sigs_length := rfl
  sigs_wf := by simp [SignaturesWellFormed, hsig, signatureSize, isKeyTag]
  sigs_prefix := ⟨rest, by
    simp [ownSection, hout, encodeSignatures, List.drop_append_eq_append_drop, hpk]⟩
  sigs_lt := by simp [encodeSignatures, hsig]
  hashes_lt := h

theorem sha256_preimage_signed (d : Device) {s : SignState} {es : List HashEntry}
    {pk sig : List UInt8} (hs : Holds s es) (hsig : s.sigHashesLen = es.length) :
    d.sha256 (sigSectionPreimage (ownSection s 1 1 true) (some [0x03]) [(keyEd25519, pk)]
      [(0, keyEd25519, sig)]) =
      sectionDigest d [0x03] (es.map (·.1)) [(keyEd25519, pk)] [(0, keyEd25519, sig)] := by
  have := hs.read_hashes
  simp only [sigSectionPreimage, sectionDigest, ownSection, signerBytes, hsig, this]
  simp

theorem addSignedRaw_of_reliable {d : Device} (hd : d.Reliable) (tx : ParserTx) {s : SignState}
    {es : List HashEntry} {pk sig rest : List UInt8} (hs : Holds s es)
    (hsig : s.sigHashesLen = es.length)
    (hout : s.output.bytes = keyEd25519 :: pk ++ List.replicate (saltLen + 1) 0 ++ sig ++ rest)
    (hpk : pk.length = pkLen25519) (hsl : sig.length = ed25519SignatureSize) :
    addSignedRaw d tx s = .ok () (s.append (sectionDigest d [0x03] (es.map (·.1))
      [(keyEd25519, pk)] [(0, keyEd25519, sig)], UInt8.ofNat (tx.transaction.sections.sectionLen + 1))) := by
  have hlt : hashLen * s.sigHashesLen < 2 ^ 32 := by
    have := hs.length_le; simp [hsig] at this ⊢; omega
  have hdig : cryptoHashSigSection d (ownSection s 1 1 true) (some [0x03]) hashLen =
      .ok (sectionDigest d [0x03] (es.map (·.1)) [(keyEd25519, pk)] [(0, keyEd25519, sig)]) := by
    rw [cryptoHashSigSection_of_layout hd (ownSection_layout_signed hout hpk hsl hlt),
      sha256_preimage_signed d hs hsig]
    simp [signerValid, ownSection, isKeyTag]
  simp only [addSignedRaw, estate_bind_apply, estate_get_apply, hdig, fromExcept_ok,
    storeHash_apply, storeIndex_apply, bumpHashesLen_apply]
  simp [SignState.append]

theorem signWrapperSection_of_reliable {d : Device} (hd : d.Reliable) {s : SignState}
    {a wsig : List UInt8} {L : Nat} (hlt : hashLen * s.sigHashesLen < 2 ^ 32)
    (hout : s.output = padded a L) (ha : a.length = rawOffset + 1 + ed25519SignatureSize)
    (hL : minimumBufferSize ≤ L)
    (hw : deviceSign d (d.sha256 (sigSectionPreimage (ownSection s 0 0 true) none [] [])) =
      some wsig) :
    signWrapperSection d s =
      .ok () { s with output := padded (a ++ List.replicate (saltLen + 1) 0 ++ wsig) L } := by
  have hwl := length_of_deviceSign hw
  simp at hL ha hwl
  have hpad : (padded a L).write (wrapperOffset + 1) wsig =
      padded (a ++ List.replicate (saltLen + 1) 0 ++ wsig) L := by
    have := @padded_write a wsig L (saltLen + 1)
      (by simp [ha, hwl]; omega)
    simpa [ha] using this
  simp only [signWrapperSection, estate_bind_apply, estate_get_apply,
    cryptoHashSigSection_unsigned hd s true hlt, fromExcept_ok, onOutput_apply]
  rw [cryptoSignEd25519_of_deviceSign (List.ne_nil_of_length_pos (by simp [d.length_sha256])) hw,
    hout, hpad]

/-- From the signed raw section to the last prior section: the section entries of the spec are
appended, whatever their number. -/
theorem signSections_of_reliable {d : Device} (hd : d.Reliable) {tx : ParserTx} {s : SignState}
    {pk sig rest : List UInt8} {es : List HashEntry} (hs : Holds s (rawEntries d tx))
    (hsig : s.sigHashesLen = (rawEntries d tx).length)
    (hout : s.output.bytes = keyEd25519 :: pk ++ List.replicate (saltLen + 1) 0 ++ sig ++ rest)
    (hpk : pk.length = pkLen25519) (hsl : sig.length = ed25519SignatureSize)
    (hes : sectionEntries d tx pk sig = .ok es) :
    signSections d tx s = .ok () (s.appendAll es) := by
  obtain ⟨hc, hdt, ms, ps, hcode, hdata, hm, hps, rfl⟩ := sectionEntries_eq_ok hes
  have hz : SlotZero s (rawHeaderHash d tx) := hs.slotZero (by simp [hsig, rawEntries])
  rw [signSections, estate_bind_ok (addSignedRaw_of_reliable hd tx hs hsig hout hpk hsl),
    estate_bind_ok (addCodeData_apply hcode hdata _), estate_bind_ok (addMemo_apply hm _),
    signPriors_of_ok _ _ ps (((hz.append _).append _).append _ |>.appendAll ms) hps]
  simp [SignState.appendAll_append]

/-! ## The origin lists -/

/-- The two origin lists after the wrapper signature, on a buffer that holds the response up to
them and has room for the lists. -/
theorem writeIndices_padded {s : SignState} {a ri : List UInt8} {L : Nat} {r : UInt8}
    (hout : s.output = padded a L) (ha : a.length = indicesOffset) (hri : ri.length = r.toNat)
    (hfit : indicesOffset + 2 + r.toNat + s.hashesLen ≤ L) :
    writeIndices r ri s = .ok () { s with output := padded (a ++ [r] ++ ri ++
      [UInt8.ofNat s.hashesLen] ++ s.indicesBuffer.read 0 s.hashesLen) L } := by
  simp at hfit
  simp only [writeIndices, hout]
  rw [padded_write_at ha.symm (by simp [ha]; omega),
    padded_write_at (by simp [ha]) (by simp [ha, hri]; omega),
    padded_write_at (by simp [ha, hri]; omega) (by simp [ha, hri]; omega),
    padded_write_at (by simp [ha, hri]; omega) (by simp [ha, hri, Buffer.read]; omega)]

/-- How far the stores of the two origin lists reach. -/
theorem writeIndices_reach {s : SignState} {L : Nat} (hreach : s.output.reach = L) (r : UInt8)
    {ri : List UInt8} (hri : ri.length = r.toNat) (hr : 0 < r.toNat) (hn : 0 < s.hashesLen) :
    (writeIndices r ri s).state.output.reach =
      max L (indicesOffset + 2 + r.toNat + s.hashesLen) := by
  have hri' : ri ≠ [] := List.ne_nil_of_length_pos (by omega)
  have hfi : readBytes s.indicesBuffer.bytes 0 s.hashesLen ≠ [] :=
    List.ne_nil_of_length_pos (by simp; omega)
  simp only [writeIndices, result_state_ok, Buffer.read, Buffer.reach_write_of_ne hri',
    Buffer.reach_write_of_ne hfi,
    Buffer.reach_write_of_ne (List.cons_ne_nil _ []), hreach, hri, List.length_singleton,
    length_readBytes]
  omega

/-! ## A whole run -/

section Reliable

variable {d : Device} (hd : d.Reliable)
include hd

/-- The raw phase from the zeroed buffer holding the key: the raw list is held, the copied count
is its length, and the raw signature follows the salt. -/
theorem signRaw_of_reliable (tx : ParserTx) {s : SignState} {a rs : List UInt8} {L : Nat}
    (hs : Holds s []) (hout : s.output = padded a L)
    (ha : a.length = pkLen25519PlusTag) (hL : minimumBufferSize ≤ L)
    (hrs : deviceSign d (sectionDigest d [] ((rawEntries d tx).map (·.1)) [] []) = some rs) :
    ∃ s', signRaw d tx s = .ok (UInt8.ofNat (rawEntries d tx).length, (rawEntries d tx).map (·.2)) s' ∧
      Holds s' (rawEntries d tx) ∧ s'.sigHashesLen = (rawEntries d tx).length ∧
      s'.output = padded (a ++ List.replicate (saltLen + 1) 0 ++ rs) L ∧
      ∀ n, (rawEntries d tx).length + 1 ≤ n → s.hashesBuffer.reach ≤ hashLen * n →
        s.indicesBuffer.reach ≤ n → s'.hashesBuffer.reach ≤ hashLen * n ∧ s'.indicesBuffer.reach ≤ n := by
  have hraw3 := length_rawEntries_le d tx
  set s2 := { s.append (rawHeaderHash d tx, 255) with sigHashesLen := s.sigHashesLen }
  have h2 : hashRawHeader d tx s = .ok () s2 := hashRawHeader_of_reliable hd tx hs.hashesLen_eq
  set s3 := { s2.appendAll (txnHashes tx) with sigHashesLen := s2.sigHashesLen }
  have h3 : cryptoAddTxnHashes tx s2 = .ok () s3 := cryptoAddTxnHashes_apply tx s2
  have hH3 : Holds s3 (rawEntries d tx) := by
    have h : Holds s2 [(rawHeaderHash d tx, 255)] :=
      (hs.append (by simp) (show (rawHeaderHash d tx, (255 : UInt8)).1.length = hashLen by simp)).of_buffers
        rfl rfl rfl
    have h' : Holds s3 ([(rawHeaderHash d tx, 255)] ++ txnHashes tx) :=
      (h.appendAll (by simp [rawEntries] at hraw3 ⊢; omega)
        (fun e he => length_txnHashes_entry he)).of_buffers rfl rfl rfl
    simpa [rawEntries] using h'
  have h4 := signRawSection_of_reliable hd hH3 (by simp; omega) (by simp [s3, s2, hout]) ha hL hrs
  refine ⟨{ s3 with sigHashesLen := s3.hashesLen,
                    hashesBuffer := s3.hashesBuffer.write (s3.hashesLen * hashLen)
                      (sectionDigest d [] ((rawEntries d tx).map (·.1)) [] []),
                    output := padded (a ++ List.replicate (saltLen + 1) 0 ++ rs) L },
    by simp only [signRaw, estate_bind_ok h2, estate_bind_ok h3, h4],
    (hH3.scratch _).of_buffers rfl rfl rfl, hH3.hashesLen_eq, rfl, fun n hn hh hi => ?_⟩
  -- the parked digest is the last store into `hashes_buffer`, one slot past the raw list
  have h0 : s.hashesLen = 0 := hs.hashesLen_eq
  have hraw : (rawEntries d tx).length = (txnHashes tx).length + 1 := by simp [rawEntries]
  have hs2 : s2.hashesBuffer.reach ≤ hashLen * n := by
    show (s.hashesBuffer.write (s.hashesLen * hashLen) (rawHeaderHash d tx)).reach ≤ _
    rw [Buffer.reach_write_of_ne (List.ne_nil_of_length_pos (by simp)), length_rawHeaderHash, h0]
    exact max_le hh (by simp only [hashLen]; omega)
  have h3' := SignState.reach_appendAll_le s2 (fun e (he : e ∈ txnHashes tx) => length_txnHashes_entry he) hs2
    (max_le hi (by rw [h0, List.length_singleton]; omega)) (show s.hashesLen + 1 + _ ≤ n by omega)
  refine ⟨?_, h3'.2⟩
  show (s3.hashesBuffer.write (s3.hashesLen * hashLen) _).reach ≤ _
  rw [Buffer.reach_write_of_ne (List.ne_nil_of_length_pos (by simp [sectionDigest, d.length_sha256])),
    hH3.hashesLen_eq]
  exact max_le h3'.1 (by simp only [sectionDigest, d.length_sha256, hashLen, cxSha256Size]; omega)

/-- The wrapper phase: the fee header over entry #0, and the wrapper signature over the digest
of the unsigned wrapper section after the raw signature's gap. -/
theorem signWrapper_of_reliable (tx : ParserTx) {s : SignState} {a : List UInt8} {L : Nat}
    (hlt : hashLen * s.sigHashesLen < 2 ^ 32) (hout : s.output = padded a L)
    (ha : a.length = rawOffset + 1 + ed25519SignatureSize) (hL : minimumBufferSize ≤ L) :
    ∃ ws, deviceSign d (d.sha256 (sigSectionPreimage (ownSection
        { s with hashesBuffer := s.hashesBuffer.write 0 (feeHeaderHash d tx),
                 indicesBuffer := s.indicesBuffer.write 0 [0] } 0 0 true) none [] [])) = some ws ∧
      signWrapper d tx s = .ok ()
        { s with hashesBuffer := s.hashesBuffer.write 0 (feeHeaderHash d tx),
                 indicesBuffer := s.indicesBuffer.write 0 [0],
                 output := padded (a ++ List.replicate (saltLen + 1) 0 ++ ws) L } := by
  obtain ⟨ws, hws, -⟩ := deviceSign_of_reliable hd _
  exact ⟨ws, hws, by simp only [signWrapper, estate_bind_ok (setFeeHeader_of_reliable hd tx s),
    @signWrapperSection_of_reliable d hd
      { s with hashesBuffer := s.hashesBuffer.write 0 (feeHeaderHash d tx),
               indicesBuffer := s.indicesBuffer.write 0 [0] } _ _ _ hlt hout ha hL hws]⟩

/-- A prior section the loop accepts and whose digest fails ends the sections phase with its
error, the caller's buffer untouched. -/
theorem signSections_of_prior_error {tx : ParserTx} {s : SignState} {pk sig rest : List UInt8}
    {e : ZxErr} (hs : Holds s (rawEntries d tx)) (hsig : s.sigHashesLen = (rawEntries d tx).length)
    (hout : s.output.bytes = keyEd25519 :: pk ++ List.replicate (saltLen + 1) 0 ++ sig ++ rest)
    (hpk : pk.length = pkLen25519) (hsl : sig.length = ed25519SignatureSize)
    (he : priorEntries d (rawHeaderHash d tx) tx.transaction.sections.signatures = .error e) :
    ∃ s', signSections d tx s = .error e s' ∧ s'.output = s.output := by
  obtain ⟨hc, hcode⟩ := hd.hashSection .code tx.transaction.sections.code
  obtain ⟨hdt, hdata⟩ := hd.hashSection .data tx.transaction.sections.data
  obtain ⟨ms, hm, -, -⟩ := memoEntries_of_reliable hd tx.transaction.header.memoSection
  have hz : SlotZero s (rawHeaderHash d tx) := hs.slotZero (by simp [hsig, rawEntries])
  obtain ⟨s', herr, hout'⟩ := signPriors_of_error _ _ e
    (((hz.append _).append _).append _ |>.appendAll ms) he
  exact ⟨s', by rw [signSections, estate_bind_ok (addSignedRaw_of_reliable hd tx hs hsig hout hpk hsl),
    estate_bind_ok (addCodeData_apply hcode hdata _), estate_bind_ok (addMemo_apply hm _), herr],
    by simpa using hout'⟩

/-- A run on a reliable device with a buffer of the minimum size reaches the signed raw
section with the key and the raw signature in the buffer and the raw list held. -/
theorem cryptoSignRun_after_raw (tx : ParserTx) {output : List UInt8}
    (hmin : minimumBufferSize ≤ output.length) :
    ∃ pk rs s, devicePublicKey d = some pk ∧
      deviceSign d (sectionDigest d [] ((rawEntries d tx).map (·.1)) [] []) = some rs ∧
      Holds s (rawEntries d tx) ∧ s.sigHashesLen = (rawEntries d tx).length ∧
      s.output = padded (keyEd25519 :: pk ++ List.replicate (saltLen + 1) 0 ++ rs) output.length ∧
      (∀ n, (rawEntries d tx).length + 1 ≤ n →
        s.hashesBuffer.reach ≤ hashLen * n ∧ s.indicesBuffer.reach ≤ n) ∧
      cryptoSignRun d tx output = (do
        signSections d tx
        signWrapper d tx
        writeIndices (UInt8.ofNat (rawEntries d tx).length)
          ((rawEntries d tx).map fun e : HashEntry => e.2)) s := by
  obtain ⟨pk, hpk, hpkl⟩ := devicePublicKey_of_reliable hd
  obtain ⟨rs, hrs, -⟩ := deviceSign_of_reliable hd
    (sectionDigest d [] ((rawEntries d tx).map (·.1)) [] [])
  have h1 := signSetup_apply hmin hpk
  obtain ⟨s, h4, hH, hsig, hout, hreach⟩ := signRaw_of_reliable hd tx
    ((Holds.init output).of_buffers rfl rfl rfl :
      Holds { SignState.init output with output := padded (keyEd25519 :: pk) output.length } []) rfl (by simp [hpkl]) hmin hrs
  exact ⟨pk, rs, s, hpk, hrs, hH, hsig, hout,
    fun n hn => hreach n hn (Nat.zero_le _) (Nat.zero_le _),
    by simp only [cryptoSignRun, cryptoSign, estate_run_apply, estate_bind_ok h1, estate_bind_ok h4]⟩

/-- A run whose accepted prior section fails to hash ends with that error, and leaves the key and
the raw signature in the caller's buffer. -/
theorem cryptoSignRun_of_prior_error (tx : ParserTx) {output : List UInt8}
    (hmin : minimumBufferSize ≤ output.length) {e : ZxErr}
    (he : priorEntries d (rawHeaderHash d tx) tx.transaction.sections.signatures = .error e) :
    ∃ pk rs s, devicePublicKey d = some pk ∧
      deviceSign d (sectionDigest d [] ((rawEntries d tx).map (·.1)) [] []) = some rs ∧
      cryptoSignRun d tx output = .error e s ∧
      s.output = padded (keyEd25519 :: pk ++ List.replicate (saltLen + 1) 0 ++ rs) output.length := by
  obtain ⟨pk, rs, s, hpk, hrs, hH, hsig, hout, -, hrun⟩ := cryptoSignRun_after_raw hd tx hmin
  obtain ⟨s', herr, hout'⟩ := signSections_of_prior_error hd hH hsig (by rw [hout]; rfl)
    (length_of_devicePublicKey hpk) (length_of_deviceSign hrs) he
  exact ⟨pk, rs, s', hpk, hrs, by rw [hrun, estate_bind_error herr], hout'.trans hout⟩

/-- A run on a reliable device whose accepted prior sections are valid succeeds; the counters
and the stores into the two local arrays reach exactly as far as the final list is long, into
arrays of the ten slots they were declared with, and the stores into the caller's buffer as far
as the response is long, whatever their number. Within the ten slots and a buffer that holds the
response, the buffer holds the spec's response and zeros. -/
theorem cryptoSignRun_stores_of_reliable {tx : ParserTx} {output : List UInt8}
    (hmin : minimumBufferSize ≤ output.length) (hprior : PriorsValid d tx)
    (hcount : hashLen * accumulatedCount d tx < 2 ^ 32) :
    ∃ s, cryptoSignRun d tx output = .ok () s ∧ s.hashesLen = accumulatedCount d tx ∧
      s.hashesBuffer.reach = hashLen * accumulatedCount d tx ∧
      s.indicesBuffer.reach = accumulatedCount d tx ∧
      s.hashesBuffer.bytes.length = maxSignatureHashes * hashLen ∧
      s.indicesBuffer.bytes.length = maxSignatureHashes ∧
      s.output.reach = max output.length (responseLength d tx) ∧
      (accumulatedCount d tx ≤ maxSignatureHashes → responseLength d tx ≤ output.length →
        ∃ o, signSpec d tx = .ok o ∧
          s.output.bytes =
            signResponse o ++ List.replicate (output.length - responseLength d tx) 0) := by
  obtain ⟨pk, rs, s4, hpk, hrs, hH4, hsig4, hout4, hup4, hrun⟩ := cryptoSignRun_after_raw hd tx hmin
  have hpkl := length_of_devicePublicKey hpk
  have hrsl := length_of_deviceSign hrs
  obtain ⟨es, hes, hesl, hesw⟩ := sectionEntries_of_reliable hd hprior pk rs
  have hraw3 := length_rawEntries_le d tx
  have hacc := three_le_accumulatedCount d tx
  set L := output.length
  set raw := rawEntries d tx with hrawdef
  set A1 := keyEd25519 :: pk ++ List.replicate (saltLen + 1) 0 ++ rs
  -- `signSections`: the entries after the raw list
  have h5 : signSections d tx s4 = .ok () (s4.appendAll es) :=
    signSections_of_reliable hd hH4 hsig4
      (show s4.output.bytes = A1 ++ List.replicate (L - A1.length) 0 by rw [hout4]; rfl) hpkl hrsl hes
  have hn5 : (s4.appendAll es).hashesLen = accumulatedCount d tx := by
    rw [SignState.appendAll_hashesLen, hH4.hashesLen_eq, hesl]
  have hsig5 : (s4.appendAll es).sigHashesLen = accumulatedCount d tx := by
    rw [SignState.appendAll_sigHashesLen, hsig4, hesl]
  -- `signWrapper`: the fee header over hash #0 and the wrapper signature
  obtain ⟨ws, hws, hwrap⟩ := signWrapper_of_reliable hd tx
    (show hashLen * (s4.appendAll es).sigHashesLen < 2 ^ 32 by rw [hsig5]; exact hcount) (by rw [SignState.appendAll_output, hout4])
    (by simp [A1, hpkl, hrsl]) hmin
  set s6 := { s4.appendAll es with hashesBuffer := (s4.appendAll es).hashesBuffer.write 0 (feeHeaderHash d tx),
                                   indicesBuffer := (s4.appendAll es).indicesBuffer.write 0 [0] }
  set A2 := A1 ++ List.replicate (saltLen + 1) 0 ++ ws
  set s7 := { s6 with output := padded A2 L }
  -- the two origin lists end the run
  set r : UInt8 := UInt8.ofNat raw.length
  have hr : r.toNat = raw.length := UInt8.toNat_ofNat_of_lt (show raw.length < 256 by omega)
  have hrun' : cryptoSignRun d tx output = writeIndices r (raw.map (·.2)) s7 := by
    rw [hrun]; simp only [estate_bind_ok h5, estate_bind_ok hwrap]
  have hreach5 := SignState.reach_appendAll s4
    (List.ne_nil_of_length_pos (by omega)) hesw
  rw [hH4.hashesLen_eq, hesl] at hreach5
  -- no store goes past the last appended slot
  have hup5 := (hup4 (accumulatedCount d tx) (by omega)).elim fun hu1 hu2 =>
    SignState.reach_appendAll_le s4 hesw hu1 hu2 (by rw [hH4.hashesLen_eq, hesl])
  have hlen5 := SignState.length_appendAll s4 es
  refine ⟨(writeIndices r (raw.map (·.2)) s7).state, by rw [hrun']; rfl, hn5, ?_, ?_, ?_, ?_, ?_, ?_⟩
  · refine le_antisymm ?_ (hreach5.1.trans (Buffer.reach_le_write _ _ _))
    show ((s4.appendAll es).hashesBuffer.write 0 (feeHeaderHash d tx)).reach ≤ _
    rw [Buffer.reach_write_of_ne (List.ne_nil_of_length_pos (by simp [hashLen])), length_feeHeaderHash]
    exact max_le hup5.1 (by simp only [hashLen]; omega)
  · refine le_antisymm ?_ (hreach5.2.trans (Buffer.reach_le_write _ _ _))
    show ((s4.appendAll es).indicesBuffer.write 0 [0]).reach ≤ _
    rw [Buffer.reach_write_of_ne (List.cons_ne_nil _ _)]
    exact max_le hup5.2 (by simp only [List.length_singleton]; omega)
  · exact (Buffer.length_write _ _ _).trans (hlen5.1.trans hH4.length_hashesBuffer)
  · exact (Buffer.length_write _ _ _).trans (hlen5.2.trans hH4.length_indicesBuffer)
  · rw [@writeIndices_reach s7 _ rfl r _ (by simp [hr]) (by rw [hr]; simp [raw, rawEntries])
      (by show 0 < (s4.appendAll es).hashesLen; omega), hr]
    show max L (indicesOffset + 2 + raw.length + (s4.appendAll es).hashesLen) = _
    rw [hn5]; rfl
  · intro hle hfit
    -- within the ten slots the accumulator holds the final list
    set final : List HashEntry := (feeHeaderHash d tx, 0) :: txnHashes tx ++ es
    have hfinal : final.length = accumulatedCount d tx := by
      simp [final, ← hesl, raw, rawEntries]; omega
    have hH6 : Holds s6 final := by
      have h := hH4.appendAll (by omega) hesw
      have hsplit : raw ++ es = (rawHeaderHash d tx, 255) :: (txnHashes tx ++ es) := by
        simp [raw, rawEntries]
      rw [hsplit] at h
      exact (h.setHead (show (feeHeaderHash d tx, (0 : UInt8)).1.length = hashLen by simp)).of_buffers rfl rfl rfl
    rw [sha256_preimage_unsigned d hH6 (by rw [hfinal]; exact hsig5) true] at hws
    have hidx : s7.indicesBuffer.read 0 s7.hashesLen = final.map (·.2) := by
      show s6.indicesBuffer.read 0 s6.hashesLen = _
      rw [hH6.hashesLen_eq]; exact hH6.read_indices
    refine ⟨⟨pk, rs, ws, raw.map (·.2), final.map (·.2)⟩, ?_, ?_⟩
    · simp only [final, List.map_cons, List.map_append, List.cons_append] at hws
      simp [signSpec, orUnknown, hpk, hrs, hes, hws, raw, final, bind, Except.bind, pure,
        Except.pure]
    · have hn7 : s7.hashesLen = accumulatedCount d tx := hn5
      rw [writeIndices_padded rfl (by simp [A2, A1, hpkl, hrsl, length_of_deviceSign hws])
        (by simp [hr]) (by rw [hr, hn7]; exact hfit), result_state_ok, hidx, hn7]
      have hlen : (A2 ++ [r] ++ raw.map (·.2) ++ [UInt8.ofNat (accumulatedCount d tx)] ++
          final.map (·.2)).length = responseLength d tx := by
        simp only [A2, A1, List.length_append, List.length_cons, List.length_replicate,
          List.length_map, List.length_singleton, hpkl, hrsl, length_of_deviceSign hws, hfinal,
          responseLength, indicesOffset, wrapperOffset, rawOffset, pkLen25519PlusTag, saltLen,
          sigLen25519PlusTag, List.length_nil, pkLen25519, ed25519SignatureSize, ← hrawdef]
        omega
      simp only [padded, hlen, signResponse_eq, List.length_map, hfinal]

/-- A run on a reliable device whose accepted prior sections are valid succeeds; the counters
and the stores into the two local arrays reach as far as the final list is long, and the stores
into the caller's buffer as far as the response is long, whatever their number. Within the ten
slots and a buffer that holds the response, the buffer holds the spec's response and zeros. -/
theorem cryptoSignRun_of_reliable {tx : ParserTx} {output : List UInt8}
    (hmin : minimumBufferSize ≤ output.length) (hprior : PriorsValid d tx)
    (hcount : hashLen * accumulatedCount d tx < 2 ^ 32) :
    ∃ s, cryptoSignRun d tx output = .ok () s ∧ s.hashesLen = accumulatedCount d tx ∧
      hashLen * accumulatedCount d tx ≤ s.hashesBuffer.reach ∧
      accumulatedCount d tx ≤ s.indicesBuffer.reach ∧
      s.output.reach = max output.length (responseLength d tx) ∧
      (accumulatedCount d tx ≤ maxSignatureHashes → responseLength d tx ≤ output.length →
        ∃ o, signSpec d tx = .ok o ∧
          s.output.bytes =
            signResponse o ++ List.replicate (output.length - responseLength d tx) 0) := by
  obtain ⟨s, hrun, hn, hh, hi, -, -, ho, hc⟩ := cryptoSignRun_stores_of_reliable hd hmin hprior hcount
  exact ⟨s, hrun, hn, hh.ge, hi.ge, ho, hc⟩

end Reliable

/-! ## Sample transactions -/

/-- A transaction with no type-specific hash, no memo and no prior section. -/
def sampleTx : ParserTx where
  typeTx := .other
  transaction :=
    { header := ⟨[1, 2, 3], [4, 5], none⟩
      sections := { code := ⟨1, [7]⟩, data := ⟨2, [8]⟩, sectionLen := 2, signatures := [],
                    maspTx := default, maspBuilder := default } }

/-- A governance proposal with wasm code, so that two hashes follow the raw header hash, a memo,
and `n` prior sections that list no hash, so that the loop accepts them all. -/
def proposalTx (n : Nat) : ParserTx where
  typeTx := .initProposal (List.replicate 32 0x11) 5 .defaultWithWasm (List.replicate 32 0x12) 6
  transaction :=
    { header := ⟨[1, 2, 3], [4, 5], some ⟨3, [9]⟩⟩
      sections := { code := ⟨1, [7]⟩, data := ⟨2, [8]⟩, sectionLen := 7,
                    signatures := List.replicate n sampleSection,
                    maspTx := default, maspBuilder := default } }

theorem length_rawEntries_proposalTx (n : Nat) :
    (rawEntries sampleDevice (proposalTx n)).length = 3 := rfl

theorem accumulatedCount_proposalTx (n : Nat) :
    accumulatedCount sampleDevice (proposalTx n) = 7 + n := by
  have hrec : recognized (rawHeaderHash sampleDevice (proposalTx n)) sampleSection = true := rfl
  have hsigs : (proposalTx n).transaction.sections.signatures = List.replicate n sampleSection :=
    rfl
  have hmemo : (proposalTx n).transaction.header.memoSection.toList.length = 1 := rfl
  rw [accumulatedCount, acceptedCount, length_rawEntries_proposalTx, hsigs, hmemo,
    List.filter_replicate, if_pos hrec, List.length_replicate]

theorem priorsValid_proposalTx (n : Nat) : PriorsValid sampleDevice (proposalTx n) := by
  intro prev hprev _
  obtain rfl := List.eq_of_mem_replicate hprev
  exact ⟨.inl ⟨rfl, _, rfl⟩, _, rfl⟩

theorem responseLength_proposalTx (n : Nat) :
    responseLength sampleDevice (proposalTx n) = minimumBufferSize + n := by
  rw [responseLength, length_rawEntries_proposalTx, accumulatedCount_proposalTx]
  simp only [indicesOffset, wrapperOffset, rawOffset, pkLen25519PlusTag, saltLen,
    sigLen25519PlusTag, minimumBufferSize]
  omega

/-- With one prior section the proposal needs eight hashes and a response of 240 bytes. -/
theorem proposalTx_one_fits :
    accumulatedCount sampleDevice (proposalTx 1) ≤ maxSignatureHashes ∧
      minimumBufferSize ≤ (List.replicate 240 (0 : UInt8)).length ∧
      responseLength sampleDevice (proposalTx 1) ≤ (List.replicate 240 (0 : UInt8)).length := by
  rw [accumulatedCount_proposalTx, responseLength_proposalTx, List.length_replicate]
  decide

/-- A transaction whose one prior section lists no hash, so that the loop accepts it, and names
an unknown signer, so that its digest fails. -/
def badSignerTx : ParserTx :=
  { sampleTx with
    transaction := { sampleTx.transaction with
      sections := { sampleTx.transaction.sections with
        signatures := [{ sampleSection with signerDiscriminant := 7 }] } } }

theorem priorEntries_badSignerTx :
    priorEntries sampleDevice (rawHeaderHash sampleDevice badSignerTx)
      badSignerTx.transaction.sections.signatures = .error .invalidCryptoSettings := rfl

theorem minimumBufferSize_le_replicate :
    minimumBufferSize ≤ (List.replicate minimumBufferSize (0 : UInt8)).length := by
  rw [List.length_replicate]

/-! ## The contract -/

/-- `crypto_sign` on a reliable device, with at most `MAX_SIGNATURE_HASHES` hashes to accumulate
and a buffer that holds the whole response, returns `zxerr_ok` when every prior section it
accepts has a known signer and known tags wherever `crypto_hashSigSection` walks; its buffer then
holds exactly the spec's response followed by zeros, and every store stayed inside it. -/
theorem cryptoSign_eq_signResponse {d : Device} {tx : ParserTx} {output : List UInt8}
    (hd : d.Reliable) (hprior : PriorsValid d tx)
    (hcount : accumulatedCount d tx ≤ maxSignatureHashes)
    (hmin : minimumBufferSize ≤ output.length) (hlen : responseLength d tx ≤ output.length) :
    ∃ o s, signSpec d tx = .ok o ∧ cryptoSignRun d tx output = .ok () s ∧
      s.output.bytes = signResponse o ++ List.replicate (output.length - responseLength d tx) 0 ∧
      s.output.InBounds := by
  obtain ⟨s, hrun, -, -, -, hreach, hcontent⟩ :=
    cryptoSignRun_of_reliable hd hmin hprior (by simp at hcount ⊢; omega)
  obtain ⟨o, ho, hbytes⟩ := hcontent hcount hlen
  obtain ⟨o', ho', h1, h2, h3, h4, h5⟩ := signSpec_ok hd hprior
  obtain rfl : o = o' := by rw [ho] at ho'; exact Except.ok.inj ho'
  refine ⟨o, s, ho, hrun, hbytes, ?_⟩
  rw [Buffer.InBounds, hreach, hbytes, List.length_append, List.length_replicate,
    length_signResponse h1 h2 h3 h4 h5]
  omega

theorem proposalTx_signed :
    sampleDevice.Reliable ∧ PriorsValid sampleDevice (proposalTx 1) ∧
      accumulatedCount sampleDevice (proposalTx 1) ≤ maxSignatureHashes ∧
      minimumBufferSize ≤ (List.replicate 240 (0 : UInt8)).length ∧
      responseLength sampleDevice (proposalTx 1) ≤ (List.replicate 240 (0 : UInt8)).length ∧
      ∃ o s, signSpec sampleDevice (proposalTx 1) = .ok o ∧
        cryptoSignRun sampleDevice (proposalTx 1) (List.replicate 240 0) = .ok () s ∧
        s.output.bytes = signResponse o ++ List.replicate
          ((List.replicate 240 (0 : UInt8)).length - responseLength sampleDevice (proposalTx 1)) 0 ∧
        s.output.InBounds := by
  obtain ⟨h3, h4, h5⟩ := proposalTx_one_fits
  exact ⟨sampleDevice_reliable, priorsValid_proposalTx 1, h3, h4, h5,
    cryptoSign_eq_signResponse sampleDevice_reliable (priorsValid_proposalTx 1) h3 h4 h5⟩

/-- A known signer is needed, beyond valid key tags: the one prior section of `badSignerTx` is
accepted, its key walk and signature walk read only known tags, and the transaction needs five
hashes and a response of 235 bytes; yet on a reliable device, over a buffer of
`minimumBufferSize` bytes, `crypto_sign` fails, since the section's signer discriminant is
neither `PubKeys` nor `Address`. -/
theorem badSignerTx_signFails :
    sampleDevice.Reliable ∧ accumulatedCount sampleDevice badSignerTx ≤ maxSignatureHashes ∧
      responseLength sampleDevice badSignerTx ≤ minimumBufferSize ∧
      (∀ prev ∈ badSignerTx.transaction.sections.signatures,
        recognized (rawHeaderHash sampleDevice badSignerTx) prev = true ∧
          prev.signerDiscriminant = 7 ∧
          walkPubKeys prev.pubKeys.ptr prev.pubKeysLen 0 = .ok (1 + pkLen25519) ∧
          walkSignatures prev.indexedSignatures.ptr prev.signaturesLen 0 = .ok 0) ∧
      ∃ e s, cryptoSignRun sampleDevice badSignerTx (List.replicate minimumBufferSize 0) =
        .error e s := by
  obtain ⟨-, -, s, -, -, hrun, -⟩ := cryptoSignRun_of_prior_error sampleDevice_reliable
    badSignerTx minimumBufferSize_le_replicate priorEntries_badSignerTx
  refine ⟨sampleDevice_reliable, by decide, by decide, ?_, _, s, hrun⟩
  intro prev hprev
  obtain rfl := List.mem_singleton.mp hprev
  exact ⟨rfl, rfl, rfl, rfl⟩

end NamadaLedger
