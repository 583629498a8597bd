import NamadaLedger.CallerBuffer

/-!
# What `crypto_sign` does not check

Three limits of the code, each stated for every input and then shown on a transaction that
reaches it:

* the loop over prior signature sections compares the first hash a section lists with hash #0
  of the accumulator and nothing else (`priorAccepted_congr`): a section listing only hashes the
  accumulator holds, but not the raw header hash first, is skipped (`codeRefTx_prior_skipped`);
* nothing bounds the number of hashes by `MAX_SIGNATURE_HASHES`: a governance proposal with
  wasm code, a memo and four accepted prior sections needs eleven, and the run stores them past
  the end of `hashes_buffer` and `indices_buffer` (`proposalTx_overruns_hashes`);
* `minimumBufferSize` leaves room for ten origin indices in all, while the two lists can hold
  more: with one accepted prior section the same proposal's response is a byte longer than a
  buffer of that size (`proposalTx_overruns_output`).

The last section says exactly when the stores stay inside: the two local arrays iff at most
`MAX_SIGNATURE_HASHES` hashes accumulate, the caller's buffer iff it holds the response
(`cryptoSignRun_inBounds_iff`).
-/

namespace NamadaLedger

/-! ## The prior-section filter -/

/-- The loop reads only the first hash a prior section lists: two sections that list as many
hashes, with the same first one, are accepted alike, whatever else they list. -/
theorem priorAccepted_congr {prev prev' : SignatureSection} (s : SignState)
    (hn : prev.hashes.hashesLen = prev'.hashes.hashesLen)
    (hfirst : readBytes prev.hashes.hashes.ptr 0 hashLen =
      readBytes prev'.hashes.hashes.ptr 0 hashLen) :
    priorAccepted prev s = priorAccepted prev' s := by
  simp only [priorAccepted_eq, firstHashMatches, hn, hfirst]

/-- A section signed by an address over one hash: that of code section `1` on `sampleDevice`. -/
def codeRefSection : SignatureSection where
  idx := 4
  hashes := ⟨Bytes.ofList (List.replicate 32 1), 1⟩
  signerDiscriminant := signerAddress
  pubKeysLen := 0
  pubKeys := ⟨[], 0⟩
  addressBytes := ⟨[], 0⟩
  signaturesLen := 0
  indexedSignatures := ⟨[], 0⟩

/-- `sampleTx` with `codeRefSection` as its prior section. -/
def codeRefTx : ParserTx :=
  { sampleTx with
    transaction := { sampleTx.transaction with
      sections := { sampleTx.transaction.sections with signatures := [codeRefSection] } } }

/-- The only hash `codeRefSection` lists is the hash of the transaction's code section, which the
run accumulates before the loop; the loop still skips the section, since that hash is not the raw
header hash: the run accumulates the raw list, the signed raw section, code and data, and nothing
more. -/
theorem codeRefTx_prior_skipped :
    codeRefSection.hashes.hashesLen = 1 ∧
      sampleDevice.hashSection .code codeRefTx.transaction.sections.code =
        .ok (readBytes codeRefSection.hashes.hashes.ptr 0 hashLen) ∧
      ∃ s, cryptoSignRun sampleDevice codeRefTx (List.replicate 240 0) = .ok () s ∧
        s.hashesLen = (rawEntries sampleDevice codeRefTx).length + 3 := by
  have hprior : PriorsValid sampleDevice codeRefTx := by
    intro prev hprev hrec
    simp only [codeRefTx, List.mem_singleton] at hprev
    subst hprev
    exact absurd hrec (by decide)
  obtain ⟨s, hrun, hn, -⟩ := cryptoSignRun_of_reliable sampleDevice_reliable
    (show minimumBufferSize ≤ (List.replicate 240 (0 : UInt8)).length by
      rw [List.length_replicate]; decide) hprior (by decide)
  exact ⟨rfl, rfl, s, hrun, by rw [hn]; decide⟩

/-! ## Counts beyond the fixed buffers -/

/-- Every run on `proposalTx n`, with at most the four prior sections the spec allows, succeeds
with `7 + n` hashes: its stores into the two local arrays reach that many slots, and those into
the caller's buffer `239 + n` bytes. -/
theorem proposalTx_run {n : Nat} (hn : n ≤ 4) {L : Nat} (hL : minimumBufferSize ≤ L) :
    ∃ s, cryptoSignRun sampleDevice (proposalTx n) (List.replicate L 0) = .ok () s ∧
      s.hashesLen = 7 + n ∧ hashLen * (7 + n) ≤ s.hashesBuffer.reach ∧
      7 + n ≤ s.indicesBuffer.reach ∧ s.output.reach = max L (minimumBufferSize + n) := by
  have hcount := accumulatedCount_proposalTx n
  obtain ⟨s, hrun, hs, hh, hi, ho, -⟩ := cryptoSignRun_of_reliable sampleDevice_reliable
    (show minimumBufferSize ≤ (List.replicate L (0 : UInt8)).length by
      rw [List.length_replicate]; exact hL) (priorsValid_proposalTx n)
    (by rw [hcount]; simp only [hashLen]; omega)
  refine ⟨s, hrun, hs.trans hcount, hcount ▸ hh, hcount ▸ hi, ?_⟩
  rw [ho, List.length_replicate, responseLength_proposalTx]

/-- Four accepted prior sections make eleven hashes: the run succeeds with
`section_hashes.hashesLen = 11`, and stores past the ten slots of `hashes_buffer` and
`indices_buffer`. -/
theorem proposalTx_overruns_hashes :
    ∃ s, cryptoSignRun sampleDevice (proposalTx 4) (List.replicate 243 0) = .ok () s ∧
      s.hashesLen = 11 ∧ maxSignatureHashes * hashLen < s.hashesBuffer.reach ∧
      maxSignatureHashes < s.indicesBuffer.reach := by
  obtain ⟨s, hrun, hn, hh, hi, -⟩ := @proposalTx_run 4 (le_refl 4) 243 (by decide)
  exact ⟨s, hrun, hn, by simp only [maxSignatureHashes, hashLen] at hh ⊢; omega,
    by simp only [maxSignatureHashes]; omega⟩

/-- One accepted prior section makes a response of 240 bytes: over a buffer of
`minimumBufferSize = 239` bytes the run succeeds, and its last store, the last origin index,
lands past the end. -/
theorem proposalTx_overruns_output :
    ∃ s, cryptoSignRun sampleDevice (proposalTx 1) (List.replicate minimumBufferSize 0) =
      .ok () s ∧ s.output.bytes.length = minimumBufferSize ∧
      s.output.reach = minimumBufferSize + 1 := by
  obtain ⟨s, hrun, -, -, -, ho⟩ := @proposalTx_run 1 (by decide) minimumBufferSize (le_refl _)
  have hlen := length_output_cryptoSignRun sampleDevice (proposalTx 1)
    (List.replicate minimumBufferSize 0)
  rw [hrun, List.length_replicate] at hlen
  exact ⟨s, hrun, hlen, by rw [ho]; decide⟩

/-! ## Exactly when the stores stay inside -/

/-- On a reliable device with valid accepted prior sections, every run succeeds, and its stores
stay inside `hashes_buffer` and inside `indices_buffer` exactly when at most
`MAX_SIGNATURE_HASHES` hashes accumulate, and inside the caller's buffer exactly when the
response fits in it: the two overruns above are the only ways out. -/
theorem cryptoSignRun_inBounds_iff {d : Device} {tx : ParserTx} {output : List UInt8}
    (hd : d.Reliable) (hmin : minimumBufferSize ≤ output.length) (hprior : PriorsValid d tx)
    (hcount : hashLen * accumulatedCount d tx < 2 ^ 32) :
    ∃ s, cryptoSignRun d tx output = .ok () s ∧
      (s.hashesBuffer.InBounds ↔ accumulatedCount d tx ≤ maxSignatureHashes) ∧
      (s.indicesBuffer.InBounds ↔ accumulatedCount d tx ≤ maxSignatureHashes) ∧
      (s.output.InBounds ↔ responseLength d tx ≤ output.length) := by
  obtain ⟨s, hrun, -, hh, hi, hhl, hil, ho, -⟩ :=
    cryptoSignRun_stores_of_reliable hd hmin hprior hcount
  have hol := length_output_cryptoSignRun d tx output
  rw [hrun, result_state_ok] at hol
  refine ⟨s, hrun, ?_, ?_, ?_⟩
  · rw [Buffer.InBounds, hh, hhl]
    simp only [hashLen, maxSignatureHashes]; omega
  · rw [Buffer.InBounds, hi, hil]
  · rw [Buffer.InBounds, ho, hol]
    exact max_le_iff.trans (and_iff_right le_rfl)

theorem proposalTx_inBounds :
    sampleDevice.Reliable ∧ minimumBufferSize ≤ (List.replicate 243 (0 : UInt8)).length ∧
      PriorsValid sampleDevice (proposalTx 4) ∧
      hashLen * accumulatedCount sampleDevice (proposalTx 4) < 2 ^ 32 ∧
      ∃ s, cryptoSignRun sampleDevice (proposalTx 4) (List.replicate 243 0) = .ok () s ∧
        (s.hashesBuffer.InBounds ↔
          accumulatedCount sampleDevice (proposalTx 4) ≤ maxSignatureHashes) ∧
        (s.indicesBuffer.InBounds ↔
          accumulatedCount sampleDevice (proposalTx 4) ≤ maxSignatureHashes) ∧
        (s.output.InBounds ↔
          responseLength sampleDevice (proposalTx 4) ≤ (List.replicate 243 (0 : UInt8)).length) := by
  have hmin : minimumBufferSize ≤ (List.replicate 243 (0 : UInt8)).length := by
    rw [List.length_replicate]; decide
  have hcount : hashLen * accumulatedCount sampleDevice (proposalTx 4) < 2 ^ 32 := by
    rw [accumulatedCount_proposalTx]; decide
  exact ⟨sampleDevice_reliable, hmin, priorsValid_proposalTx 4, hcount,
    cryptoSignRun_inBounds_iff sampleDevice_reliable hmin (priorsValid_proposalTx 4) hcount⟩

end NamadaLedger
