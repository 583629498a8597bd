import NamadaLedger.Device
import NamadaLedger.MaspCheckLimits

/-!
# Signing the shielded spends

`crypto_sign_masp` derives the Sapling keys, runs `crypto_check_masp`, signs every spend of the
builder with RedJubjub and appends each signature to a store in flash, from which the host then
takes them one by one (`crypto_extract_spend_signature`). This module models that path:

* `SpendSignatureStore` — the store (modelled from the spec): the signatures in order, the
  extraction cursor and the capacity;
* `hStar`, `signSaplingSpend` — one spend's signature. The statuses of
  `randomized_secret_from_seed`, of the first `scalar_multiplication`, of `cx_rng_no_throw` and
  of `from_bytes_wide` are not looked at, so a failure there leaves the zeros the buffer was
  initialised with (`orZeros`);
* `cryptoSignSpendsSapling`, `computeKeys`, `cryptoComputeSaplingSeed`, `cryptoSignMasp`,
  `cryptoExtractSpendSignature`.

What a run does to the store is said once per step (`signSpend_eq_ok`, `signSpend_error_store`)
and then for whole loops and whole calls:

* on every path a call only appends to the store, the signatures of spends `0, 1, …` in order,
  and appends nothing unless the keys were derived and the check passed (`cryptoSignMasp_store`);
* a call that returns has appended one signature per builder spend (`cryptoSignMasp_eq_ok`);
* a call that fails has appended the signatures of the spends before the one that failed, fewer
  than the builder has spends, and the store is not rolled back (`cryptoSignMasp_appendOnly`):
  with two honest spends and room for one signature, the call fails with
  `zxerr_invalid_crypto_settings` and the first spend's signature stays in the store
  (`twoSpendTx_store_full`), for the host to take (`cryptoExtractSpendSignature_extend`);
* failures of `signature_hash`, `randomized_secret_from_seed` and `cx_rng_no_throw` are not
  noticed: the loop runs as if they had returned zeros
  (`cryptoSignSpendsSapling_zeroingUnchecked`), and in an environment where they fail at every
  call it signs each spend of `twoSpendTx` with 64 zero bytes (`uncheckedMaspEnv_signs_zeros`).
-/

namespace NamadaLedger

/-! ## The spend-signature store -/

/-- Modelled from the spec: the flash store of spend signatures (`nvdata.h`): the signatures
appended so far, in order, how many the host has extracted, and how many it can hold. -/
structure SpendSignatureStore where
  signatures : List (List UInt8)
  extracted : Nat
  capacity : Nat
  deriving Repr, DecidableEq

namespace SpendSignatureStore

/-- The store with `sigs` appended after its signatures. -/
def extend (st : SpendSignatureStore) (sigs : List (List UInt8)) : SpendSignatureStore :=
  { st with signatures := st.signatures ++ sigs }

@[simp] theorem extend_nil (st : SpendSignatureStore) : st.extend [] = st := by
  simp [extend]

@[simp] theorem extend_extend (st : SpendSignatureStore) (a b : List (List UInt8)) :
    (st.extend a).extend b = st.extend (a ++ b) := by
  simp [extend]

@[simp] theorem extend_signatures (st : SpendSignatureStore) (sigs : List (List UInt8)) :
    (st.extend sigs).signatures = st.signatures ++ sigs := rfl

@[simp] theorem extend_extracted (st : SpendSignatureStore) (sigs : List (List UInt8)) :
    (st.extend sigs).extracted = st.extracted := rfl

@[simp] theorem extend_capacity (st : SpendSignatureStore) (sigs : List (List UInt8)) :
    (st.extend sigs).capacity = st.capacity := rfl

/-- Modelled from the spec: `spend_signatures_append(signature)`: the signature goes after the
others, or the call fails when the store is full. -/
def append (st : SpendSignatureStore) (sig : List UInt8) : Except ZxErr SpendSignatureStore :=
  if st.signatures.length < st.capacity then .ok (st.extend [sig]) else .error .unknown

/-- Modelled from the spec: `spend_signatures_more_extract()`: a signature is left to extract. -/
def moreExtract (st : SpendSignatureStore) : Bool := st.extracted < st.signatures.length

/-- Modelled from the spec: `get_next_spend_signature(buffer)`: the first signature not yet
extracted, and the cursor moved past it. -/
def nextSignature (st : SpendSignatureStore) : List UInt8 × SpendSignatureStore :=
  (st.signatures.getD st.extracted [], { st with extracted := st.extracted + 1 })

end SpendSignatureStore

/-- What the signing path changes: the spend-signature store, the number of `cx_rng_no_throw`
calls made so far (call `n` draws `env.rng n`), and the caller's output buffer. -/
structure MaspSignState where
  store : SpendSignatureStore
  rngCalls : Nat
  output : Buffer
  deriving Repr, DecidableEq

/-- A program of the signing path. -/
abbrev MaspSignM := EStateM ZxErr MaspSignState

/-! ## One spend's signature -/

section Signing

variable (env : MaspEnv)

/-- `h_star(a, a_len, b, b_len, output)`: the BLAKE2b-512 of `a ‖ b`, personalised with
`SIGNING_REDJUBJUB`, reduced to a scalar by `from_bytes_wide`, whose status is not looked at. -/
def hStar (a b : List UInt8) : Except ParserError (List UInt8) := do
  let hash ← env.blake2bRedJubjub a b
  pure (orZeros keyLength (env.fromBytesWide hash))

/-- `cx_rng_no_throw(rng, RNG_LEN)`: the index of this call among all calls. -/
def cxRng : MaspSignM Nat := fun s => .ok s.rngCalls { s with rngCalls := s.rngCalls + 1 }

/-- `sign_sapling_spend(keys, alpha, sign_hash, signature)`: the RedJubjub signature
`rbar ‖ sbar` of `rk ‖ sign_hash` under the key randomized by `alpha`. -/
def signSaplingSpend (keys : SaplingKeys) (alpha signHash : List UInt8) :
    MaspSignM (List UInt8) := do
  let rsk := orZeros keyLength (env.randomizedSecretFromSeed keys.ask alpha)
  let rk := orZeros keyLength (env.scalarMultiplication rsk .spendingKey)
  let dataToBeSigned := readBytes rk 0 keyLength ++ readBytes signHash 0 hashLen
  let n ← cxRng
  let rng := orZeros rngLen (env.rng n)
  let r ← liftExcept (checkParserOk (hStar env rng dataToBeSigned))
  let rbar ← liftExcept (checkParserOk (env.scalarMultiplication r .spendingKey))
  let s ← liftExcept (checkParserOk (hStar env rbar dataToBeSigned))
  let sbar ← liftExcept (checkParserOk (env.computeSbar s r rsk))
  pure (readBytes rbar 0 hashLen ++ readBytes sbar 0 hashLen)

/-- `CHECK_ZXERR(spend_signatures_append(signature))`. -/
def spendSignaturesAppend (signature : List UInt8) : MaspSignM Unit := fun s =>
  match s.store.append signature with
  | .ok st => .ok () { s with store := st }
  | .error e => .error e s

/-- One iteration of `crypto_sign_spends_sapling`: spend `i` signed with the `alpha` kept for it,
and the signature appended to the store. -/
def signSpend (keys : SaplingKeys) (signHash : List UInt8) (i : Nat) : MaspSignM Unit := do
  let signature ← signSaplingSpend env keys (env.spendItem i).alpha signHash
  spendSignaturesAppend signature

/-- The sighash `crypto_sign_spends_sapling` signs: `signature_hash` into a zeroed buffer whose
status is not looked at. -/
def signHashOf (tx : ParserTx) : List UInt8 := orZeros hashLen (env.signatureHash tx)

/-- `crypto_sign_spends_sapling(txObj, keys)`: nothing when the bundle has no shielded spend;
otherwise one signature for each builder spend, all over the one sighash. -/
def cryptoSignSpendsSapling (tx : ParserTx) (keys : SaplingKeys) : MaspSignM Unit :=
  if tx.transaction.sections.maspTx.data.saplingBundle.nShieldedSpends = 0 then pure ()
  else forLoop (signSpend env keys (signHashOf env tx)) 0
    tx.transaction.sections.maspBuilder.builder.saplingBuilder.nSpends

end Signing

/-! ## `crypto_sign_masp` -/

section SignMasp

variable (env : MaspEnv)

/-- `crypto_computeSaplingSeed(spendingKey)`: the first `KEY_LENGTH` bytes of the derived private
key data, or `zxerr_unknown` when the derivation fails. -/
def cryptoComputeSaplingSeed : Except ZxErr (List UInt8) :=
  match env.deriveSaplingSeed with
  | some k => .ok (readBytes k 0 keyLength)
  | none => .error .unknown

/-- `computeKeys(&keys)`: the keys derived from `keys.spendingKey`, the diversifier from
`keys.diversifierStartIndex`. -/
def computeKeys (keys : SaplingKeys) : Except ZxErr SaplingKeys := do
  let ask ← checkParserOk (env.convertKey keys.spendingKey .ask)
  let nsk ← checkParserOk (env.convertKey keys.spendingKey .nsk)
  let ovk ← checkParserOk (env.convertKey keys.spendingKey .ovk)
  let dk ← checkParserOk (env.convertKey keys.spendingKey .dk)
  let ak ← checkParserOk (env.generateKey ask .spendingKey)
  let nk ← checkParserOk (env.generateKey nsk .proofGenerationKey)
  let ivk ← checkParserOk (env.computeIVK ak nk)
  let diversifier ← checkParserOk (env.computeDiversifier dk keys.diversifierStartIndex)
  let address ← checkParserOk (env.computePkd ivk diversifier)
  pure { keys with ask, nsk, ovk, dk, ak, nk, ivk, diversifier, address }

/-- The status of `crypto_check_masp(txObj, &keys)`; the accesses it logs are not part of the
signing state. -/
def checkMaspStatus (cfg : MaspConfig) (tx : ParserTx) (keys : SaplingKeys) : Except ZxErr Unit :=
  match cryptoCheckMasp env cfg tx keys [] with
  | .ok _ _ => .ok ()
  | .error e _ => .error e

/-- `computeKeys(&keys) != zxerr_ok || crypto_check_masp(txObj, &keys) != zxerr_ok ||
crypto_sign_spends_sapling(txObj, &keys) != zxerr_ok`: the three in turn, until one fails. -/
def deriveCheckSign (cfg : MaspConfig) (tx : ParserTx) (keys : SaplingKeys) : MaspSignM Unit := do
  let keys ← liftExcept (computeKeys env keys)
  liftExcept (checkMaspStatus env cfg tx keys)
  cryptoSignSpendsSapling env tx keys

/-- `crypto_hash_messagebuffer(buffer, bufferLen, txdata, txdataLen)`: the SHA-256 of the host's
transaction buffer into the output. -/
def cryptoHashMessagebuffer (d : Device) (txdata : List UInt8) : MaspSignM Unit := fun s =>
  if s.output.bytes.length < cxSha256Size then .error .unknown s
  else .ok () { s with output := s.output.write 0 (d.sha256 txdata) }

/-- `crypto_sign_masp(txObj, output, outputLen)`; `txBuffer` is the host's transaction buffer
(`tx_get_buffer()`). The keys start as `keys_t keys = {0}` (`default`) with the spending key of
`computeMasterFromSeed`; any failure of the derivation, the check or the signing becomes
`zxerr_invalid_crypto_settings`. -/
def cryptoSignMasp (d : Device) (cfg : MaspConfig) (tx : ParserTx) (txBuffer : List UInt8) :
    MaspSignM Unit := do
  let s ← get
  if s.output.bytes.length < ed25519SignatureSize then throw .unknown
  else
    let saplingSeed ← liftExcept (cryptoComputeSaplingSeed env)
    let spendingKey ← liftExcept (checkParserOk (env.computeMasterFromSeed saplingSeed))
    EStateM.adaptExcept (fun _ => .invalidCryptoSettings)
      (deriveCheckSign env cfg tx { (default : SaplingKeys) with spendingKey })
    cryptoHashMessagebuffer d txBuffer

end SignMasp

/-- `crypto_extract_spend_signature(buffer, bufferLen, cmdResponseLen)`: the next signature of
the store into the host's buffer, cleared first; the response length is `SIGNATURE_SIZE`. -/
def cryptoExtractSpendSignature :
    EStateM ZxErr (SpendSignatureStore × Buffer) Nat := fun (st, buffer) =>
  if !st.moreExtract then .error .unknown (st, buffer)
  else
    let (signature, st') := st.nextSignature
    .ok spendSignatureSize
      (st', (buffer.write 0 (List.replicate buffer.bytes.length 0)).write 0 signature)

/-! ## One spend at a time -/

section Steps

variable (env : MaspEnv) {keys : SaplingKeys} {signHash sig : List UInt8} {i : Nat}
  {s t : MaspSignState}

/-- `sign_sapling_spend` draws one random value and changes nothing else, on either path. -/
theorem signSaplingSpend_state (keys : SaplingKeys) (alpha signHash : List UInt8)
    (s : MaspSignState) :
    (signSaplingSpend env keys alpha signHash s).state = { s with rngCalls := s.rngCalls + 1 } :=
  estate_bind_state_of_keeps (fun _ => show Keeps id _ from
    (keeps_liftExcept _).bind fun _ => (keeps_liftExcept _).bind fun _ =>
      (keeps_liftExcept _).bind fun _ => (keeps_liftExcept _).bind fun _ => keeps_pure _) s

theorem signSaplingSpend_store {alpha : List UInt8} {t : MaspSignState}
    (h : signSaplingSpend env keys alpha signHash s = .ok sig t) : t.store = s.store := by
  have hs := signSaplingSpend_state env keys alpha signHash s
  rw [h] at hs
  rw [show t = _ from hs]

theorem spendSignaturesAppend_of_lt (h : s.store.signatures.length < s.store.capacity) :
    spendSignaturesAppend sig s = .ok () { s with store := s.store.extend [sig] } := by
  simp [spendSignaturesAppend, SpendSignatureStore.append, h]

theorem spendSignaturesAppend_of_le (h : s.store.capacity ≤ s.store.signatures.length) :
    spendSignaturesAppend sig s = .error .unknown s := by
  simp [spendSignaturesAppend, SpendSignatureStore.append, Nat.not_lt.mpr h]

theorem keepsOutput_signSpend (keys : SaplingKeys) (signHash : List UInt8) (i : Nat) :
    Keeps MaspSignState.output (signSpend env keys signHash i) :=
  Keeps.bind (fun s => by rw [signSaplingSpend_state]) fun _ s => by
    unfold spendSignaturesAppend; split <;> rfl

/-- A spend iteration that returns appended the signature `sign_sapling_spend` returned. -/
theorem signSpend_eq_ok {u : Unit} (h : signSpend env keys signHash i s = .ok u t) :
    ∃ sig, (∃ s s', signSaplingSpend env keys (env.spendItem i).alpha signHash s = .ok sig s') ∧
      t.store = s.store.extend [sig] := by
  obtain ⟨sig, s1, h1, h2⟩ := estate_bind_eq_ok h
  refine ⟨sig, ⟨s, s1, h1⟩, ?_⟩
  rw [← signSaplingSpend_store env h1]
  by_cases hroom : s1.store.signatures.length < s1.store.capacity
  · rw [spendSignaturesAppend_of_lt hroom] at h2; cases h2; rfl
  · rw [spendSignaturesAppend_of_le (Nat.not_lt.mp hroom)] at h2; cases h2

/-- A spend iteration that fails appended nothing. -/
theorem signSpend_error_store {e : ZxErr} (h : signSpend env keys signHash i s = .error e t) :
    t.store = s.store := by
  cases h1 : signSaplingSpend env keys (env.spendItem i).alpha signHash s with
  | ok sig s1 =>
    rw [signSpend, estate_bind_ok h1] at h
    rw [← signSaplingSpend_store env h1]
    by_cases hroom : s1.store.signatures.length < s1.store.capacity
    · rw [spendSignaturesAppend_of_lt hroom] at h; cases h
    · rw [spendSignaturesAppend_of_le (Nat.not_lt.mp hroom)] at h; cases h; rfl
  | error e' s1 =>
    rw [signSpend, estate_bind_error h1] at h
    cases h
    have hs := signSaplingSpend_state env keys (env.spendItem i).alpha signHash s
    rw [h1] at hs
    rw [show t = _ from hs]

end Steps

/-! ## The signing loop -/

section Loop

variable (env : MaspEnv) (keys : SaplingKeys) (signHash : List UInt8)

/-- `sigs` are, in order, signatures `sign_sapling_spend` returned for spends `i`, `i + 1`, …
over `signHash`, each with the `alpha` kept for its spend. -/
def SignedSpends : Nat → List (List UInt8) → Prop
  | _, [] => True
  | i, sig :: sigs =>
    (∃ s s', signSaplingSpend env keys (env.spendItem i).alpha signHash s = .ok sig s') ∧
      SignedSpends (i + 1) sigs

/-- On every path the loop leaves the store as it found it followed by signatures of spends
`i, i + 1, …`, at most one per iteration. -/
theorem forLoop_signSpend_store (i r : Nat) (s : MaspSignState) :
    ∃ sigs, (forLoop (signSpend env keys signHash) i r s).state.store = s.store.extend sigs ∧
      sigs.length ≤ r ∧ SignedSpends env keys signHash i sigs := by
  induction r generalizing i s with
  | zero => exact ⟨[], by simp, le_rfl, trivial⟩
  | succ r ih =>
    rw [forLoop_succ, estate_bind_apply]
    cases h : signSpend env keys signHash i s with
    | ok _ t =>
      obtain ⟨sig, hsig, ht⟩ := signSpend_eq_ok env h
      obtain ⟨sigs, h1, h2, h3⟩ := ih (i + 1) t
      exact ⟨sig :: sigs, by rw [h1, ht, SpendSignatureStore.extend_extend]; rfl,
        by simp only [List.length_cons]; omega, hsig, h3⟩
    | error e t => exact ⟨[], by simp [signSpend_error_store env h], Nat.zero_le _, trivial⟩

/-- A loop that returns appended one signature per iteration, in spend order. -/
theorem forLoop_signSpend_eq_ok {i r : Nat} {s t : MaspSignState}
    (h : forLoop (signSpend env keys signHash) i r s = .ok () t) :
    ∃ sigs, t.store = s.store.extend sigs ∧ sigs.length = r ∧
      SignedSpends env keys signHash i sigs := by
  induction r generalizing i s with
  | zero => rw [forLoop_zero] at h; cases h; exact ⟨[], by simp, rfl, trivial⟩
  | succ r ih =>
    obtain ⟨s1, h1, h2⟩ := forLoop_succ_eq_ok _ h
    obtain ⟨sig, hsig, hs1⟩ := signSpend_eq_ok env h1
    obtain ⟨sigs, h3, h4, h5⟩ := ih h2
    exact ⟨sig :: sigs, by rw [h3, hs1, SpendSignatureStore.extend_extend]; rfl,
      by simp [h4], hsig, h5⟩

/-- A loop that fails appended the signatures of the iterations before the one that failed:
fewer than it had to run. -/
theorem forLoop_signSpend_error {i r : Nat} {s t : MaspSignState} {e : ZxErr}
    (h : forLoop (signSpend env keys signHash) i r s = .error e t) :
    ∃ sigs, t.store = s.store.extend sigs ∧ sigs.length < r ∧
      SignedSpends env keys signHash i sigs := by
  induction r generalizing i s with
  | zero => rw [forLoop_zero] at h; cases h
  | succ r ih =>
    rw [forLoop_succ, estate_bind_apply] at h
    cases h1 : signSpend env keys signHash i s with
    | ok _ s1 =>
      rw [h1] at h
      obtain ⟨sig, hsig, hs1⟩ := signSpend_eq_ok env h1
      obtain ⟨sigs, h2, h3, h4⟩ := ih h
      exact ⟨sig :: sigs, by rw [h2, hs1, SpendSignatureStore.extend_extend]; rfl,
        by simp only [List.length_cons]; omega, hsig, h4⟩
    | error _ s1 =>
      rw [h1] at h
      cases h
      exact ⟨[], by simp [signSpend_error_store env h1], Nat.succ_pos r, trivial⟩

/-- When every signature can be computed, the loop signs spends until the store is full: with
room for `k` more signatures it appends `min r k` of them, and fails with the store's error when
`k < r`. -/
theorem forLoop_signSpend_of_signs
    (hsign : ∀ j t, ∃ sig t', signSaplingSpend env keys (env.spendItem j).alpha signHash t =
      .ok sig t') (i r : Nat) (s : MaspSignState) :
    ∃ sigs t, forLoop (signSpend env keys signHash) i r s =
        (if r ≤ s.store.capacity - s.store.signatures.length then .ok () t else .error .unknown t) ∧
      t.store = s.store.extend sigs ∧
      sigs.length = min r (s.store.capacity - s.store.signatures.length) ∧
      SignedSpends env keys signHash i sigs := by
  induction r generalizing i s with
  | zero => exact ⟨[], s, by simp, by simp, by simp, trivial⟩
  | succ r ih =>
    obtain ⟨sig, t0, hs⟩ := hsign i s
    have ht0 := signSaplingSpend_store env hs
    by_cases hroom : s.store.signatures.length < s.store.capacity
    · have hstep : signSpend env keys signHash i s =
          .ok () { t0 with store := s.store.extend [sig] } := by
        rw [signSpend, estate_bind_ok hs, spendSignaturesAppend_of_lt (by rwa [ht0]), ht0]
      obtain ⟨sigs, t, h1, h2, h3, h4⟩ := ih (i + 1) { t0 with store := s.store.extend [sig] }
      simp only [SpendSignatureStore.extend_capacity, SpendSignatureStore.extend_signatures,
        List.length_append, List.length_singleton] at h1 h3
      refine ⟨sig :: sigs, t, ?_, by rw [h2, SpendSignatureStore.extend_extend]; rfl,
        by simp only [List.length_cons, h3]; omega, ⟨_, _, hs⟩, h4⟩
      rw [forLoop_succ, estate_bind_ok hstep, h1]
      by_cases hr : r + 1 ≤ s.store.capacity - s.store.signatures.length
      · rw [if_pos (by omega), if_pos hr]
      · rw [if_neg (by omega), if_neg hr]
    · have hstep : signSpend env keys signHash i s = .error .unknown t0 := by
        rw [signSpend, estate_bind_ok hs, spendSignaturesAppend_of_le (by rw [ht0]; omega)]
      refine ⟨[], t0, ?_, by simp [ht0], by simp; omega, trivial⟩
      rw [forLoop_succ, estate_bind_error hstep, if_neg (by omega)]

end Loop

/-! ## Two honest spends -/

/-- A spend description under `sampleMaspConfig`: a zero extended full viewing key, diversifier
and asset identifier, and the value. -/
def spendDescription (value : Nat) : List UInt8 := List.replicate (169 + 11 + 32) 0 ++ le64 value

/-- Reading a spend description, wherever it sits in the builder buffer, gives back its (zero)
asset identifier and its value, and moves past it. -/
theorem readSpendNote_spendDescription {buf pre post : List UInt8} {value len off : Nat}
    (hb : buf = pre ++ spendDescription value ++ post) (hoff : pre.length = off)
    (hlen : off + 220 ≤ len) :
    readSpendNote sampleMaspConfig ⟨buf, len, off⟩ =
      .ok (List.replicate 32 0, value % 2 ^ 64) ⟨buf, len, off + 220⟩ := by
  subst hb hoff
  have hbuf : pre ++ spendDescription value ++ post =
      pre ++ (List.replicate 212 0 ++ (le64 value ++ post)) := by
    simp only [spendDescription, List.append_assoc]
  have hid : readBytes (pre ++ spendDescription value ++ post) (pre.length + 180) 32 =
      List.replicate 32 0 := by
    rw [hbuf, readBytes_append_right,
      readBytes_append_left (by rw [List.length_replicate]), readBytes_replicate (by omega)]
  have hval : readBytes (pre ++ spendDescription value ++ post) (pre.length + 212) 8 =
      le64 value := by
    rw [hbuf, readBytes_append_right, readBytes_append_of_le (le_of_eq (List.length_replicate _ _)),
      readBytes_append_left (le_of_eq (by rw [List.length_replicate, length_le64])),
      List.length_replicate, ← length_le64 value, readBytes_self]
  simp (disch := first | omega | (simp only [sampleMaspConfig]; omega)) only [readSpendNote,
    sampleMaspConfig, estate_bind_apply, Nat.add_assoc, Nat.reduceAdd, ctxCheckAndAdvance_ok,
    readBytesSize_ok, readUint64_ok, hid, hval, leValue_le64, estate_pure_apply]

/-- Bundle record `i` of a spend of value `value` under `sampleMaspEnv`: the commitment of the
value with blinding factor `i`, a zero nullifier, and `rk`, which `sampleMaspEnv` takes to be the
spend's `alpha`. -/
def spendRecord (i value : Nat) : List UInt8 :=
  (UInt8.ofNat value :: List.replicate 31 (UInt8.ofNat (i + 1))) ++ List.replicate 32 0 ++
    List.replicate 32 (UInt8.ofNat (i + 101))

/-- Two spends of value 5, and a bundle holding their records. -/
def twoSpendTx : ParserTx :=
  shieldedTx ⟨2, Bytes.ofList (spendRecord 0 5 ++ spendRecord 1 5), 0, ⟨[], 0⟩, 0, ⟨[], 0⟩⟩
    ⟨2, Bytes.ofList (spendDescription 5 ++ spendDescription 5), 0, ⟨[], 0⟩, 0, ⟨[], 0⟩⟩
    ⟨0, ⟨[], 0⟩⟩

/-- The commitments and randomized keys the bundle of `twoSpendTx` holds at `96 * j` and
`96 * j + 64`. -/
theorem twoSpendTx_bundle_fields :
    readBytes (spendRecord 0 5 ++ spendRecord 1 5) 0 32 = 5 :: List.replicate 31 1 ∧
      readBytes (spendRecord 0 5 ++ spendRecord 1 5) 64 32 = List.replicate 32 101 ∧
      readBytes (spendRecord 0 5 ++ spendRecord 1 5) 96 32 = 5 :: List.replicate 31 2 ∧
      readBytes (spendRecord 0 5 ++ spendRecord 1 5) 160 32 = List.replicate 32 102 := by
  have hblen : (spendRecord 0 5 ++ spendRecord 1 5).length = 192 := by
    simp only [spendRecord, List.length_append, List.length_cons, List.length_replicate]
  refine ⟨?_, ?_, ?_, ?_⟩ <;> rw [readBytes_eq_take_drop (by omega)] <;> rfl

/-- Both spends of `twoSpendTx` are honest, whatever the keys. -/
theorem twoSpendTx_spendMatches (keys : SaplingKeys) {j : Nat} (hj : j < 2) :
    SpendMatches sampleMaspEnv sampleMaspConfig keys (spendDescription 5 ++ spendDescription 5)
      (spendDescription 5 ++ spendDescription 5).length (spendRecord 0 5 ++ spendRecord 1 5)
      (spendRecord 0 5 ++ spendRecord 1 5).length j := by
  have hlen : (spendDescription 5 ++ spendDescription 5).length = 440 := by
    simp only [spendDescription, List.length_append, List.length_replicate, length_le64]
  have hblen : (spendRecord 0 5 ++ spendRecord 1 5).length = 192 := by
    simp only [spendRecord, List.length_append, List.length_cons, List.length_replicate]
  obtain ⟨hcv0, hrk0, hcv1, hrk1⟩ := twoSpendTx_bundle_fields
  obtain rfl | rfl : j = 0 ∨ j = 1 := by omega
  · exact ⟨_, _, _, _, _, rfl,
      @readSpendNote_spendDescription _ [] _ 5 _ _ (by rw [List.nil_append]) rfl (by rw [hlen]; decide),
      by rw [hblen]; decide, rfl, hcv0.symm, rfl, hrk0.symm⟩
  · exact ⟨_, _, _, _, _, rfl,
      @readSpendNote_spendDescription _ (spendDescription 5) [] 5 _ _ (by rw [List.append_nil])
        (by rw [spendDescription, List.length_append, List.length_replicate, length_le64]; rfl)
        (by rw [hlen]; decide),
      by rw [hblen]; decide, rfl, hcv1.symm, rfl, hrk1.symm⟩

/-- The keys `sampleMaspEnv` derives: every key is the spending key, 32 bytes of 9. -/
def sampleSaplingKeys : SaplingKeys :=
  { spendingKey := List.replicate 32 9, ask := List.replicate 32 9, nsk := List.replicate 32 9,
    ovk := List.replicate 32 9, dk := List.replicate 32 9, ak := List.replicate 32 9,
    nk := List.replicate 32 9, ivk := List.replicate 32 9, diversifier := List.replicate 11 9,
    address := List.replicate 32 9, diversifierStartIndex := [] }

/-! ## Whole calls -/

section Calls

variable (env : MaspEnv) (d : Device) (cfg : MaspConfig) (tx : ParserTx) (txBuffer : List UInt8)

/-- The keys `crypto_sign_masp` signs with: the seed was derived, the spending key computed from
it, the keys derived from that, and the check passed with them. -/
def KeysChecked (keys : SaplingKeys) : Prop :=
  ∃ seed spendingKey, cryptoComputeSaplingSeed env = .ok seed ∧
    checkParserOk (env.computeMasterFromSeed seed) = .ok spendingKey ∧
    computeKeys env { (default : SaplingKeys) with spendingKey } = .ok keys ∧
    checkMaspStatus env cfg tx keys = .ok ()

/-- `crypto_sign_masp` derives `sampleSaplingKeys` and the check accepts `twoSpendTx` with them. -/
theorem twoSpendTx_keysChecked :
    KeysChecked sampleMaspEnv sampleMaspConfig twoSpendTx sampleSaplingKeys := by
  obtain ⟨log, hlog⟩ := @cryptoCheckMasp_ok_of_spends_match sampleMaspEnv sampleMaspConfig
    twoSpendTx sampleSaplingKeys rfl rfl rfl rfl rfl
    (fun j hj => twoSpendTx_spendMatches sampleSaplingKeys hj) []
  exact ⟨_, _, rfl, rfl, rfl, by rw [checkMaspStatus, hlog]⟩

/-- Once the output is large enough and the keys are derived and checked, `crypto_sign_masp` is
the signing loop, its failure turned into `zxerr_invalid_crypto_settings`, and then the hash of
the host's buffer. -/
theorem cryptoSignMasp_of_keys {keys : SaplingKeys} {s : MaspSignState}
    (hout : ed25519SignatureSize ≤ s.output.bytes.length) (hk : KeysChecked env cfg tx keys) :
    cryptoSignMasp env d cfg tx txBuffer s =
      (EStateM.adaptExcept (fun _ => ZxErr.invalidCryptoSettings)
        (cryptoSignSpendsSapling env tx keys) >>= fun _ => cryptoHashMessagebuffer d txBuffer) s := by
  obtain ⟨seed, sk, hseed, hsk, hkeys, hchk⟩ := hk
  have hsign : deriveCheckSign env cfg tx { (default : SaplingKeys) with spendingKey := sk } =
      cryptoSignSpendsSapling env tx keys := by
    funext t; simp [deriveCheckSign, liftExcept, hkeys, hchk]
  simp only [cryptoSignMasp, estate_bind_apply, estate_get_apply, if_neg (Nat.not_lt.mpr hout),
    liftExcept, hseed, hsk, hsign]

/-- Everything `crypto_sign_masp` can do: fail before signing, leaving the state as it was, or
sign with keys that were derived and checked. -/
theorem cryptoSignMasp_cases (s : MaspSignState) :
    (∃ e, cryptoSignMasp env d cfg tx txBuffer s = .error e s) ∨
    ∃ keys, KeysChecked env cfg tx keys ∧ ed25519SignatureSize ≤ s.output.bytes.length ∧
      cryptoSignMasp env d cfg tx txBuffer s =
        (EStateM.adaptExcept (fun _ => ZxErr.invalidCryptoSettings)
          (cryptoSignSpendsSapling env tx keys) >>= fun _ => cryptoHashMessagebuffer d txBuffer) s := by
  by_cases hout : s.output.bytes.length < ed25519SignatureSize
  · exact .inl ⟨.unknown, by
      simp only [cryptoSignMasp, estate_bind_apply, estate_get_apply, if_pos hout]; rfl⟩
  cases hseed : cryptoComputeSaplingSeed env with
  | error e => exact .inl ⟨e, by
      simp only [cryptoSignMasp, estate_bind_apply, estate_get_apply, if_neg hout, liftExcept, hseed]⟩
  | ok seed =>
  cases hsk : checkParserOk (env.computeMasterFromSeed seed) with
  | error e => exact .inl ⟨e, by
      simp only [cryptoSignMasp, estate_bind_apply, estate_get_apply, if_neg hout, liftExcept, hseed,
        hsk]⟩
  | ok sk =>
  cases hkeys : computeKeys env { (default : SaplingKeys) with spendingKey := sk } with
  | error e => exact .inl ⟨.invalidCryptoSettings, by
      simp only [cryptoSignMasp, estate_bind_apply, estate_get_apply, if_neg hout, liftExcept, hseed,
        hsk, deriveCheckSign, EStateM.adaptExcept, hkeys]⟩
  | ok keys =>
  cases hchk : checkMaspStatus env cfg tx keys with
  | error e => exact .inl ⟨.invalidCryptoSettings, by
      simp only [cryptoSignMasp, estate_bind_apply, estate_get_apply, if_neg hout, liftExcept, hseed,
        hsk, deriveCheckSign, EStateM.adaptExcept, hkeys, hchk]⟩
  | ok u =>
    have hk : KeysChecked env cfg tx keys := ⟨seed, sk, hseed, hsk, hkeys, hchk⟩
    exact .inr ⟨keys, hk, Nat.not_lt.mp hout,
      cryptoSignMasp_of_keys env d cfg tx txBuffer (Nat.not_lt.mp hout) hk⟩

/-- On every path the spend loop of `crypto_sign_spends_sapling` only appends, at most one
signature per builder spend, in spend order over the one sighash. -/
theorem cryptoSignSpendsSapling_store (keys : SaplingKeys) (s : MaspSignState) :
    ∃ sigs, (cryptoSignSpendsSapling env tx keys s).state.store = s.store.extend sigs ∧
      sigs.length ≤ tx.transaction.sections.maspBuilder.builder.saplingBuilder.nSpends ∧
      SignedSpends env keys (signHashOf env tx) 0 sigs := by
  unfold cryptoSignSpendsSapling
  split
  · exact ⟨[], by simp, Nat.zero_le _, trivial⟩
  · exact forLoop_signSpend_store env keys _ 0 _ s

theorem keepsOutput_cryptoSignSpendsSapling (keys : SaplingKeys) :
    Keeps MaspSignState.output (cryptoSignSpendsSapling env tx keys) := by
  unfold cryptoSignSpendsSapling
  split
  · exact keeps_pure _
  · exact keeps_forLoop _ (keepsOutput_signSpend env keys _) _ _

/-- The hash of the host's buffer returns once the output holds a digest. -/
theorem cryptoHashMessagebuffer_ok {s : MaspSignState} (h : cxSha256Size ≤ s.output.bytes.length) :
    cryptoHashMessagebuffer d txBuffer s =
      .ok () { s with output := s.output.write 0 (d.sha256 txBuffer) } := by
  rw [cryptoHashMessagebuffer, if_neg (Nat.not_lt.mpr h)]

theorem keepsStore_cryptoHashMessagebuffer :
    Keeps MaspSignState.store (cryptoHashMessagebuffer d txBuffer) := fun s => by
  unfold cryptoHashMessagebuffer; split <;> rfl

/-- On every path `crypto_sign_masp` leaves the store as it found it followed by signatures of
spends `0, 1, …` in order, at most one per builder spend, and appends nothing unless the keys
were derived and the check passed with them. -/
theorem cryptoSignMasp_store (s : MaspSignState) :
    ∃ sigs, (cryptoSignMasp env d cfg tx txBuffer s).state.store = s.store.extend sigs ∧
      (sigs = [] ∨ ∃ keys, KeysChecked env cfg tx keys ∧
        sigs.length ≤ tx.transaction.sections.maspBuilder.builder.saplingBuilder.nSpends ∧
        SignedSpends env keys (signHashOf env tx) 0 sigs) := by
  rcases cryptoSignMasp_cases env d cfg tx txBuffer s with ⟨e, he⟩ | ⟨keys, hk, -, he⟩
  · exact ⟨[], by simp [he], .inl rfl⟩
  · obtain ⟨sigs, h1, h2, h3⟩ := cryptoSignSpendsSapling_store env tx keys s
    refine ⟨sigs, ?_, .inr ⟨keys, hk, h2, h3⟩⟩
    rw [he, keeps_bind_state (fun _ => keepsStore_cryptoHashMessagebuffer d txBuffer),
      adaptExcept_state, h1]

/-- A check that passed saw as many builder spends as bundle spends. -/
theorem checkMaspStatus_spend_counts {keys : SaplingKeys} {u : Unit}
    (h : checkMaspStatus env cfg tx keys = .ok u) :
    tx.transaction.sections.maspBuilder.builder.saplingBuilder.nSpends =
      tx.transaction.sections.maspTx.data.saplingBundle.nShieldedSpends := by
  unfold checkMaspStatus at h
  split at h
  · exact cryptoCheckMasp_spend_counts env cfg ‹_›
  · cases h

/-- When the store has room for every builder spend, a call whose keys are derived and checked
and whose signatures can all be computed returns. -/
theorem cryptoSignMasp_ok_of_room {keys : SaplingKeys} {s : MaspSignState}
    (hout : ed25519SignatureSize ≤ s.output.bytes.length) (hk : KeysChecked env cfg tx keys)
    (hsign : ∀ j t, ∃ sig t',
      signSaplingSpend env keys (env.spendItem j).alpha (signHashOf env tx) t = .ok sig t')
    (hroom : tx.transaction.sections.maspBuilder.builder.saplingBuilder.nSpends ≤
      s.store.capacity - s.store.signatures.length) :
    ∃ t, cryptoSignMasp env d cfg tx txBuffer s = .ok () t := by
  obtain ⟨t1, h1⟩ : ∃ t1, cryptoSignSpendsSapling env tx keys s = .ok () t1 := by
    unfold cryptoSignSpendsSapling
    split
    · exact ⟨s, rfl⟩
    · obtain ⟨-, t1, hloop, -⟩ := forLoop_signSpend_of_signs env keys _ hsign 0
        tx.transaction.sections.maspBuilder.builder.saplingBuilder.nSpends s
      rw [if_pos hroom] at hloop
      exact ⟨t1, hloop⟩
  have ht1 : t1.output = s.output := by
    have := keepsOutput_cryptoSignSpendsSapling env tx keys s
    rwa [h1] at this
  exact ⟨_, by rw [cryptoSignMasp_of_keys env d cfg tx txBuffer hout hk,
    estate_bind_ok (adaptExcept_ok _ h1),
    cryptoHashMessagebuffer_ok d txBuffer (by rw [ht1]; simp at hout ⊢; omega)]⟩

theorem cryptoSignMasp_ok_signedAll {s t : MaspSignState} {u : Unit}
    (h : cryptoSignMasp env d cfg tx txBuffer s = .ok u t) :
    ∃ keys sigs, KeysChecked env cfg tx keys ∧ t.store = s.store.extend sigs ∧
      sigs.length = tx.transaction.sections.maspBuilder.builder.saplingBuilder.nSpends ∧
      SignedSpends env keys (signHashOf env tx) 0 sigs := by
  rcases cryptoSignMasp_cases env d cfg tx txBuffer s with ⟨e, he⟩ | ⟨keys, hk, -, he⟩
  · rw [he] at h; cases h
  rw [he] at h
  obtain ⟨_, t1, h1, h2⟩ := estate_bind_eq_ok h
  have ht : t.store = t1.store := by
    have := keepsStore_cryptoHashMessagebuffer d txBuffer t1
    rwa [h2] at this
  have hsign := adaptExcept_eq_ok h1
  refine ⟨keys, ?_⟩
  unfold cryptoSignSpendsSapling at hsign
  split at hsign
  · next hz =>
    cases hsign
    have ⟨_, _, _, _, _, hchk⟩ := hk
    exact ⟨[], hk, by simp [ht], by simp [checkMaspStatus_spend_counts env cfg tx hchk, hz], trivial⟩
  · obtain ⟨sigs, h3, h4, h5⟩ := forLoop_signSpend_eq_ok env keys _ hsign
    exact ⟨sigs, hk, ht.trans h3, h4, h5⟩

/-- A call that returns signed every builder spend: the store is the old one followed by one
signature per builder spend, in spend order over the one sighash, with keys that were derived
and checked. -/
theorem cryptoSignMasp_eq_ok {s t : MaspSignState} {u : Unit}
    (h : cryptoSignMasp env d cfg tx txBuffer s = .ok u t) :
    ∃ keys sigs, KeysChecked env cfg tx keys ∧ t.store = s.store.extend sigs ∧
      sigs.length = tx.transaction.sections.maspBuilder.builder.saplingBuilder.nSpends ∧
      SignedSpends env keys (signHashOf env tx) 0 sigs :=
  cryptoSignMasp_ok_signedAll env d cfg tx txBuffer h

/-- A state whose store has room for two signatures. -/
def twoSlotState : MaspSignState := ⟨⟨[], 0, 2⟩, 0, Buffer.fresh 64⟩

/-- `crypto_sign_masp` on `twoSpendTx` with room for both signatures returns, having appended
them. -/
theorem twoSpendTx_signed :
    ∃ t, cryptoSignMasp sampleMaspEnv sampleDevice sampleMaspConfig twoSpendTx [] twoSlotState =
        .ok () t ∧
      ∃ keys sigs, KeysChecked sampleMaspEnv sampleMaspConfig twoSpendTx keys ∧
        t.store = twoSlotState.store.extend sigs ∧
        sigs.length = twoSpendTx.transaction.sections.maspBuilder.builder.saplingBuilder.nSpends ∧
        SignedSpends sampleMaspEnv keys (signHashOf sampleMaspEnv twoSpendTx) 0 sigs := by
  obtain ⟨t, hrun⟩ := cryptoSignMasp_ok_of_room sampleMaspEnv sampleDevice sampleMaspConfig
    twoSpendTx [] (show ed25519SignatureSize ≤ twoSlotState.output.bytes.length by decide)
    twoSpendTx_keysChecked (fun _ _ => ⟨_, _, rfl⟩) (by decide)
  exact ⟨t, hrun, cryptoSignMasp_eq_ok sampleMaspEnv sampleDevice sampleMaspConfig twoSpendTx [] hrun⟩

/-- When the store has room for fewer signatures than the builder has spends, a call whose keys
are derived and checked and whose signatures can all be computed fails with
`zxerr_invalid_crypto_settings`, and the signatures it appended until the store was full stay in
it, after the ones that were there. -/
theorem cryptoSignMasp_error_of_full {keys : SaplingKeys} {s : MaspSignState}
    (hout : ed25519SignatureSize ≤ s.output.bytes.length) (hk : KeysChecked env cfg tx keys)
    (hspends : tx.transaction.sections.maspTx.data.saplingBundle.nShieldedSpends ≠ 0)
    (hsign : ∀ j t, ∃ sig t',
      signSaplingSpend env keys (env.spendItem j).alpha (signHashOf env tx) t = .ok sig t')
    (hroom : s.store.capacity - s.store.signatures.length <
      tx.transaction.sections.maspBuilder.builder.saplingBuilder.nSpends) :
    ∃ sigs t, cryptoSignMasp env d cfg tx txBuffer s = .error .invalidCryptoSettings t ∧
      t.store = s.store.extend sigs ∧ sigs.length = s.store.capacity - s.store.signatures.length ∧
      SignedSpends env keys (signHashOf env tx) 0 sigs := by
  obtain ⟨sigs, t, hloop, h1, h2, h3⟩ := forLoop_signSpend_of_signs env keys _ hsign 0
    tx.transaction.sections.maspBuilder.builder.saplingBuilder.nSpends s
  rw [if_neg (by omega)] at hloop
  have hfail : cryptoSignSpendsSapling env tx keys s = .error .unknown t := by
    rw [cryptoSignSpendsSapling, if_neg hspends, hloop]
  exact ⟨sigs, t, by rw [cryptoSignMasp_of_keys env d cfg tx txBuffer hout hk,
    estate_bind_error (adaptExcept_error _ hfail)], h1, by omega, h3⟩

/-- A call that fails leaves the store as it found it followed by the signatures of the spends
before the one that failed: none unless the keys were derived and checked, and fewer than the
builder has spends. The hash of the host's buffer cannot fail once signing has begun, since the
loop leaves the output of at least `ED25519_SIGNATURE_SIZE` bytes as it was. -/
theorem cryptoSignMasp_error_store {s t : MaspSignState} {e : ZxErr}
    (h : cryptoSignMasp env d cfg tx txBuffer s = .error e t) :
    ∃ sigs, t.store = s.store.extend sigs ∧
      (sigs = [] ∨ ∃ keys, KeysChecked env cfg tx keys ∧
        sigs.length < tx.transaction.sections.maspBuilder.builder.saplingBuilder.nSpends ∧
        SignedSpends env keys (signHashOf env tx) 0 sigs) := by
  rcases cryptoSignMasp_cases env d cfg tx txBuffer s with ⟨_, he⟩ | ⟨keys, hk, hout, he⟩
  · rw [he] at h
    cases h
    exact ⟨[], by simp, .inl rfl⟩
  rw [he] at h
  cases h1 : cryptoSignSpendsSapling env tx keys s with
  | ok _ t1 =>
    have ht1 : t1.output = s.output := by
      have := keepsOutput_cryptoSignSpendsSapling env tx keys s
      rwa [h1] at this
    rw [estate_bind_ok (adaptExcept_ok _ h1),
      cryptoHashMessagebuffer_ok d txBuffer (by rw [ht1]; simp at hout ⊢; omega)] at h
    cases h
  | error _ t1 =>
    rw [estate_bind_error (adaptExcept_error _ h1)] at h
    cases h
    unfold cryptoSignSpendsSapling at h1
    split at h1
    · cases h1
    · obtain ⟨sigs, h2, h3, h4⟩ := forLoop_signSpend_error env keys _ h1
      exact ⟨sigs, h2, .inr ⟨keys, hk, h3, h4⟩⟩

/-- The store is append-only: a call that returns leaves it followed by one signature per
builder spend, and a call that fails leaves it followed by the signatures of the spends it
signed before failing, which stay there for `crypto_extract_spend_signature`. Either way
signatures are appended only with keys that were derived and checked, in spend order over the
one sighash. -/
theorem cryptoSignMasp_appendOnly (s : MaspSignState) :
    (∀ u t, cryptoSignMasp env d cfg tx txBuffer s = .ok u t →
      ∃ keys sigs, KeysChecked env cfg tx keys ∧ t.store = s.store.extend sigs ∧
        sigs.length = tx.transaction.sections.maspBuilder.builder.saplingBuilder.nSpends ∧
        SignedSpends env keys (signHashOf env tx) 0 sigs) ∧
    (∀ e t, cryptoSignMasp env d cfg tx txBuffer s = .error e t →
      ∃ sigs, t.store = s.store.extend sigs ∧
        (sigs = [] ∨ ∃ keys, KeysChecked env cfg tx keys ∧
          sigs.length < tx.transaction.sections.maspBuilder.builder.saplingBuilder.nSpends ∧
          SignedSpends env keys (signHashOf env tx) 0 sigs)) :=
  ⟨fun _ _ => cryptoSignMasp_ok_signedAll env d cfg tx txBuffer,
    fun _ _ => cryptoSignMasp_error_store env d cfg tx txBuffer⟩

/-- The state before the call: an empty store with room for one signature, and a 64-byte output. -/
def oneSlotState : MaspSignState := ⟨⟨[], 0, 1⟩, 0, Buffer.fresh 64⟩

/-- `crypto_sign_masp` on `twoSpendTx` with room for one signature: the keys are derived and the
check passes, and the call fails with `zxerr_invalid_crypto_settings`, leaving the signature of
spend 0 in the store, which is no longer the store it started from. -/
theorem twoSpendTx_store_full :
    KeysChecked sampleMaspEnv sampleMaspConfig twoSpendTx sampleSaplingKeys ∧
      ∃ sig t, cryptoSignMasp sampleMaspEnv sampleDevice sampleMaspConfig twoSpendTx []
          oneSlotState = .error .invalidCryptoSettings t ∧
        t.store = oneSlotState.store.extend [sig] ∧ t.store ≠ oneSlotState.store ∧
        SignedSpends sampleMaspEnv sampleSaplingKeys (signHashOf sampleMaspEnv twoSpendTx) 0
          [sig] := by
  obtain ⟨sigs, t, hrun, hstore, hlen, hsigned⟩ := cryptoSignMasp_error_of_full sampleMaspEnv
    sampleDevice sampleMaspConfig twoSpendTx []
    (show ed25519SignatureSize ≤ oneSlotState.output.bytes.length by decide)
    twoSpendTx_keysChecked (by decide) (fun _ _ => ⟨_, _, rfl⟩) (by decide)
  obtain ⟨sig, rfl⟩ := List.length_eq_one.mp hlen
  exact ⟨twoSpendTx_keysChecked, sig, t, hrun, hstore,
    fun h => List.cons_ne_nil sig [] (congrArg SpendSignatureStore.signatures (hstore.symm.trans h)),
    hsigned⟩

end Calls

/-! ## Extraction -/

/-- After signatures were appended to a store whose signatures had all been taken, the host takes
the first of them: its buffer is cleared and receives it. -/
theorem cryptoExtractSpendSignature_extend {st : SpendSignatureStore} {sig : List UInt8}
    {sigs : List (List UInt8)} (h : st.extracted = st.signatures.length) (buffer : Buffer) :
    cryptoExtractSpendSignature (st.extend (sig :: sigs), buffer) =
      .ok spendSignatureSize ({ st.extend (sig :: sigs) with extracted := st.extracted + 1 },
        (buffer.write 0 (List.replicate buffer.bytes.length 0)).write 0 sig) := by
  have hmore : (st.extend (sig :: sigs)).moreExtract = true := by
    simp [SpendSignatureStore.moreExtract, h]
  simp only [cryptoExtractSpendSignature, hmore, Bool.not_true, Bool.false_eq_true, if_false,
    SpendSignatureStore.nextSignature, SpendSignatureStore.extend_signatures,
    SpendSignatureStore.extend_extracted, h, List.getD_eq_getElem?_getD,
    List.getElem?_append_right le_rfl, Nat.sub_self, List.getElem?_cons_zero, Option.getD_some]

/-! ## Statuses the signing path does not look at -/

/-- `env` with the failures of `signature_hash`, `randomized_secret_from_seed` and
`cx_rng_no_throw`, whose statuses the signing path does not look at, replaced by the zeros their
output buffers start with. -/
def MaspEnv.zeroingUnchecked (env : MaspEnv) : MaspEnv :=
  { env with
    signatureHash := fun tx => .ok (orZeros hashLen (env.signatureHash tx))
    randomizedSecretFromSeed := fun a b => .ok (orZeros keyLength (env.randomizedSecretFromSeed a b))
    rng := fun n => .ok (orZeros rngLen (env.rng n)) }

@[simp] theorem orZeros_ok (n : Nat) (b : List UInt8) : orZeros n (.ok b) = b := rfl

/-- Failures of `signature_hash`, `randomized_secret_from_seed` and `cx_rng_no_throw` go unnoticed:
`crypto_sign_spends_sapling` runs, for every transaction, keys and state, exactly as if each
failed primitive had returned the zeros its buffer was initialised with, so that it appends
signatures whose sighash, randomized key or nonce seed is zero. -/
theorem cryptoSignSpendsSapling_zeroingUnchecked (env : MaspEnv) (tx : ParserTx)
    (keys : SaplingKeys) :
    cryptoSignSpendsSapling env tx keys = cryptoSignSpendsSapling env.zeroingUnchecked tx keys := by
  have hsig : signSaplingSpend env = signSaplingSpend env.zeroingUnchecked := by
    funext keys alpha signHash s
    simp [signSaplingSpend, MaspEnv.zeroingUnchecked, hStar]
  simp only [cryptoSignSpendsSapling, signSpend, signHashOf, hsig]
  rfl

/-- `sampleMaspEnv` where `signature_hash`, `randomized_secret_from_seed` and `cx_rng_no_throw`
fail at every call, and where the hash of `h_star` keeps the first 64 bytes of its input, so that
a signature shows what it was computed from. -/
def uncheckedMaspEnv : MaspEnv :=
  { sampleMaspEnv with
    signatureHash := fun _ => .error .primitiveFailed
    randomizedSecretFromSeed := fun _ _ => .error .primitiveFailed
    rng := fun _ => .error .primitiveFailed
    blake2bRedJubjub := fun a b => .ok ((a ++ b).take 64) }

/-- In `uncheckedMaspEnv` a spend is signed with 64 zero bytes, whatever the keys, `alpha`,
sighash and state: `rsk`, `rk` and the RNG buffer stay zero, and the nonce `r` and `s` are the
first 32 bytes of hashes that start with zeros. -/
theorem uncheckedMaspEnv_signSaplingSpend (keys : SaplingKeys) (alpha signHash : List UInt8)
    (t : MaspSignState) :
    signSaplingSpend uncheckedMaspEnv keys alpha signHash t =
      .ok (List.replicate 64 0) { t with rngCalls := t.rngCalls + 1 } := by
  have hz : ∀ {m : Nat} (l : List UInt8), 32 ≤ m →
      ((List.replicate m (0 : UInt8) ++ l).take 64).take 32 = List.replicate 32 0 := fun l h => by
    rw [List.take_take, Nat.min_eq_left (by norm_num), List.take_append_of_le_length (by simpa using h),
      List.take_replicate, Nat.min_eq_left h]
  have hread : readBytes (List.replicate 32 (0 : UInt8)) 0 32 = List.replicate 32 0 :=
    readBytes_replicate (le_of_eq (Nat.zero_add 32)) 0
  simp only [signSaplingSpend, uncheckedMaspEnv, sampleMaspEnv, cxRng, liftExcept, hStar, orZeros,
    checkParserOk, keyLength, rngLen, hashLen, bind, EStateM.bind, Except.bind, pure, EStateM.pure,
    Except.pure, hread, hz _ (by norm_num : 32 ≤ 64), hz _ (le_refl 32), ← List.replicate_add]

/-- Although `signature_hash`, `randomized_secret_from_seed` and `cx_rng_no_throw` fail at every
call, `crypto_sign_spends_sapling` returns `zxerr_ok` on `twoSpendTx` with any keys, and appends
for each spend the signature computed from the zeroed buffers: the nonce `r` comes from the zero
RNG buffer and the message `rk ‖ sighash` is all zeros, so each signature is 64 zero bytes. -/
theorem uncheckedMaspEnv_signs_zeros (keys : SaplingKeys) :
    (∀ n, uncheckedMaspEnv.rng n = .error .primitiveFailed) ∧
      (∀ ask alpha, uncheckedMaspEnv.randomizedSecretFromSeed ask alpha = .error .primitiveFailed) ∧
      uncheckedMaspEnv.signatureHash twoSpendTx = .error .primitiveFailed ∧
      cryptoSignSpendsSapling uncheckedMaspEnv twoSpendTx keys twoSlotState =
        .ok () { twoSlotState with
          store := twoSlotState.store.extend [List.replicate 64 0, List.replicate 64 0]
          rngCalls := 2 } := by
  have hstep : ∀ i (t : MaspSignState), t.store.signatures.length < t.store.capacity →
      signSpend uncheckedMaspEnv keys (signHashOf uncheckedMaspEnv twoSpendTx) i t =
        .ok () { t with rngCalls := t.rngCalls + 1, store := t.store.extend [List.replicate 64 0] } :=
    fun i t h => by
      rw [signSpend, estate_bind_ok (uncheckedMaspEnv_signSaplingSpend _ _ _ t),
        spendSignaturesAppend_of_lt
          (show ({ t with rngCalls := t.rngCalls + 1 } : MaspSignState).store.signatures.length <
            t.store.capacity from h)]
  refine ⟨fun _ => rfl, fun _ _ => rfl, rfl, ?_⟩
  rw [cryptoSignSpendsSapling, if_neg (by decide)]
  show forLoop _ 0 2 twoSlotState = _
  rw [forLoop_succ, estate_bind_ok (hstep 0 _ (by decide)),
    forLoop_succ, estate_bind_ok (hstep 1 _ (by decide))]
  rfl


end NamadaLedger
