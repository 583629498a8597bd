import NamadaLedger.Randomness
import NamadaLedger.MaspKeys

/-!
# The shielded side of the device across calls

The host drives shielded signing through three entry points of `crypto.c`, called one at a time
and in any order: `crypto_computeRandomness` fills the device's randomness lists,
`crypto_sign_masp` checks a transaction against them and appends one signature per spend to the
spend-signature store, and `crypto_extract_spend_signature` hands those signatures out, one per
call. The two stores are in flash and outlive each call.

* `MaspDevice` — what outlives a call: the two stores and the counters of the random generators;
* `MaspCall`, `MaspReply`, `deviceStep`, `deviceRun` — a call, what the host gets back, and a run
  of calls from a device state.

What each call does to the two stores is said once (`deviceStep_computeRandomness`,
`deviceStep_signMasp`, `deviceStep_extract_more`, `deviceStep_extract_none`), and over every run:

* `deviceRun_fifo` — the spend-signature store is a queue: the signatures the host extracts,
  followed by those still pending, are the ones pending at the start followed by those the
  signing calls appended, so none is lost, duplicated or reordered;
* `deviceRun_provenance` — every signature the host extracts was computed on the device by
  `sign_sapling_spend`, for a spend of a transaction `crypto_check_masp` accepted with keys the
  device derived, under the randomizer the device held for that spend. It is one instance of
  `deviceRun_invariant`, which carries any `SignatureInvariant` of the stored signatures over a
  run; `SignedForSpend` is another, which also bounds the spend by the builder's count;
* `deviceRun_randomness` — the randomness lists hold what they held, followed by the items of the
  successful `crypto_computeRandomness` calls, each as the host received it;
* `deviceRun_signsWithExportedKeys` — every signature the host extracts was made with the keys
  `crypto_fillMASP` exports;
* `deviceRun_withinCapacity` — no flash store ever holds more than its capacity.

The laws are shown at work on `twoSpendRun`, from a fresh device: two spend requests, a signing
call on `twoSpendTx` and two extractions, which hand the host both signatures
(`twoSpendRun_received`).
-/

namespace NamadaLedger

/-- What the shielded code keeps between calls: the randomness lists and the spend-signature
store in flash, and how many draws each random generator has made. -/
structure MaspDevice where
  rand : RandStore
  signatures : SpendSignatureStore
  trngCalls : Nat
  cxRngCalls : Nat
  rngCalls : Nat
  deriving Repr, DecidableEq

/-- A call of the host, with the buffer it passes. -/
inductive MaspCall
  | computeRandomness (type : Option DescKind) (out : Buffer)
  | signMasp (tx : ParserTx) (txBuffer : List UInt8) (output : Buffer)
  | extractSpendSignature (buffer : Buffer)

/-- What the host gets back from a call: its status and its buffer. -/
inductive MaspReply
  | randomness (status : Except ZxErr Nat) (out : Buffer)
  | signed (status : Except ZxErr Unit) (output : Buffer)
  | extracted (status : Except ZxErr Nat) (buffer : Buffer)

/-! ## Calls and runs -/

section Run

variable (env : MaspEnv) (src : RandomSource) (d : Device) (cfg : MaspConfig)

/-- One call from the device state `st`: the entry point run on the flash stores and the
generators' counters, with the host's buffer. `crypto_sign_masp` reads the randomness the store
holds. -/
def deviceStep (st : MaspDevice) : MaspCall → MaspReply × MaspDevice
  | .computeRandomness type out =>
    let r := cryptoComputeRandomness env src cfg type ⟨st.rand, st.trngCalls, st.cxRngCalls, out⟩
    (.randomness r.value r.state.out,
      { st with rand := r.state.store, trngCalls := r.state.trngCalls,
                cxRngCalls := r.state.rngCalls })
  | .signMasp tx txBuffer output =>
    let r := cryptoSignMasp (env.withRandStore st.rand) d cfg tx txBuffer
      ⟨st.signatures, st.rngCalls, output⟩
    (.signed r.value r.state.output,
      { st with signatures := r.state.store, rngCalls := r.state.rngCalls })
  | .extractSpendSignature buffer =>
    let r := cryptoExtractSpendSignature (st.signatures, buffer)
    (.extracted r.value r.state.2, { st with signatures := r.state.1 })

/-- A run of calls from `st`: the replies, in order, and the device state after the last. -/
def deviceRun (st : MaspDevice) : List MaspCall → List MaspReply × MaspDevice
  | [] => ([], st)
  | c :: cs =>
    let step := deviceStep env src d cfg st c
    let rest := deviceRun step.2 cs
    (step.1 :: rest.1, rest.2)

end Run

/-- The signature a reply hands to the host: the first `SIGNATURE_SIZE` bytes of the buffer of
a successful extraction. -/
def MaspReply.received : MaspReply → List (List UInt8)
  | .extracted (.ok _) buffer => [buffer.read 0 spendSignatureSize]
  | _ => []

/-- The signatures of the store not yet handed out. -/
def SpendSignatureStore.pending (st : SpendSignatureStore) : List (List UInt8) :=
  st.signatures.drop st.extracted

/-- The store is consistent: its cursor is within its signatures, and every signature is
`SIGNATURE_SIZE` bytes, as `sign_sapling_spend` writes them. -/
structure SpendSignatureStore.WellFormed (st : SpendSignatureStore) : Prop where
  extracted_le : st.extracted ≤ st.signatures.length
  length_eq : ∀ sig ∈ st.signatures, sig.length = spendSignatureSize

/-- The host passes extraction a buffer that holds a signature. -/
def MaspCall.BufferFits : MaspCall → Prop
  | .extractSpendSignature buffer => spendSignatureSize ≤ buffer.bytes.length
  | _ => True

instance MaspCall.decidableBufferFits : (c : MaspCall) → Decidable c.BufferFits
  | .computeRandomness _ _ => isTrue trivial
  | .signMasp _ _ _ => isTrue trivial
  | .extractSpendSignature buffer =>
    inferInstanceAs (Decidable (spendSignatureSize ≤ buffer.bytes.length))

/-- What a call records in the randomness lists, read off the reply the host received: the item
of a successful `crypto_computeRandomness`, and nothing for any other call. -/
def recordReply (st : RandStore) : MaspCall → MaspReply → RandStore
  | .computeRandomness (some k) _, .randomness (.ok _) out => st.record k out
  | _, _ => st

/-- What the calls of a run record, one reply after the other. -/
def recordReplies : RandStore → List MaspCall → List MaspReply → RandStore
  | st, c :: cs, r :: rs => recordReplies (recordReply st c r) cs rs
  | st, _, _ => st

/-- A call records at most one item after the others. -/
theorem spends_prefix_recordReply (st : RandStore) (c : MaspCall) (r : MaspReply) :
    st.spends <+: (recordReply st c r).spends := by
  unfold recordReply
  split
  · next k _ _ _ => cases k <;> simp [RandStore.record]
  · exact List.prefix_refl _

/-- `sig` was computed on the device for a spend it checked: `sign_sapling_spend` returned it for
spend `i` of a transaction `tx` that `crypto_check_masp` accepted with keys the device derived,
reading the randomness store `r`, with the randomizer `r` holds for spend `i`; the device's spend
list `spends` extends the one of `r`. -/
def SignedOnDevice (env : MaspEnv) (cfg : MaspConfig) (spends : List SpendItem)
    (sig : List UInt8) : Prop :=
  ∃ r tx keys i, r.spends <+: spends ∧ KeysChecked (env.withRandStore r) cfg tx keys ∧
    ∃ s s', signSaplingSpend env keys (r.spends.getD i ⟨[], []⟩).alpha (signHashOf env tx) s =
      .ok sig s'

theorem SignedOnDevice.mono {env : MaspEnv} {cfg : MaspConfig} {spends spends' : List SpendItem}
    {sig : List UInt8} (h : SignedOnDevice env cfg spends sig) (hp : spends <+: spends') :
    SignedOnDevice env cfg spends' sig :=
  let ⟨r, tx, keys, i, hr, hk, hsig⟩ := h
  ⟨r, tx, keys, i, hr.trans hp, hk, hsig⟩

/-- `sig` was computed on the device as in `SignedOnDevice`, for spend `i` of the transaction's
builder: `i` is below its spend count. -/
def SignedForSpend (env : MaspEnv) (cfg : MaspConfig) (spends : List SpendItem)
    (sig : List UInt8) : Prop :=
  ∃ r tx keys i, i < tx.transaction.sections.maspBuilder.builder.saplingBuilder.nSpends ∧
    r.spends <+: spends ∧ KeysChecked (env.withRandStore r) cfg tx keys ∧
    ∃ s s', signSaplingSpend env keys (r.spends.getD i ⟨[], []⟩).alpha (signHashOf env tx) s =
      .ok sig s'

theorem SignedForSpend.mono {env : MaspEnv} {cfg : MaspConfig} {spends spends' : List SpendItem}
    {sig : List UInt8} (h : SignedForSpend env cfg spends sig) (hp : spends <+: spends') :
    SignedForSpend env cfg spends' sig :=
  let ⟨r, tx, keys, i, hi, hr, hk, hsig⟩ := h
  ⟨r, tx, keys, i, hi, hr.trans hp, hk, hsig⟩

theorem SignedForSpend.signedOnDevice {env : MaspEnv} {cfg : MaspConfig}
    {spends : List SpendItem} {sig : List UInt8} (h : SignedForSpend env cfg spends sig) :
    SignedOnDevice env cfg spends sig :=
  let ⟨r, tx, keys, i, _, hr, hk, hsig⟩ := h
  ⟨r, tx, keys, i, hr, hk, hsig⟩

/-- A property of a stored signature, relative to the device's spend list, that a longer spend
list keeps and that every signature computed on the device for a spend of a checked transaction
has. -/
structure SignatureInvariant (env : MaspEnv) (cfg : MaspConfig)
    (Q : List SpendItem → List UInt8 → Prop) : Prop where
  mono : ∀ {spends spends' : List SpendItem} {sig : List UInt8}, Q spends sig →
    spends <+: spends' → Q spends' sig
  of_signedForSpend : ∀ {spends : List SpendItem} {sig : List UInt8},
    SignedForSpend env cfg spends sig → Q spends sig

theorem signedOnDevice_invariant (env : MaspEnv) (cfg : MaspConfig) :
    SignatureInvariant env cfg (SignedOnDevice env cfg) :=
  ⟨SignedOnDevice.mono, SignedForSpend.signedOnDevice⟩

theorem signedForSpend_invariant (env : MaspEnv) (cfg : MaspConfig) :
    SignatureInvariant env cfg (SignedForSpend env cfg) :=
  ⟨SignedForSpend.mono, id⟩

/-! ## What a signing call appends -/

/-- A signature `sign_sapling_spend` returns is `SIGNATURE_SIZE` bytes, `rbar ‖ sbar`. -/
theorem signSaplingSpend_length {env : MaspEnv} {keys : SaplingKeys}
    {alpha signHash sig : List UInt8} {s s' : MaspSignState}
    (h : signSaplingSpend env keys alpha signHash s = .ok sig s') :
    sig.length = spendSignatureSize := by
  unfold signSaplingSpend at h
  obtain ⟨_, _, -, h⟩ := estate_bind_eq_ok h
  obtain ⟨_, _, -, h⟩ := estate_bind_eq_ok h
  obtain ⟨_, _, -, h⟩ := estate_bind_eq_ok h
  obtain ⟨_, _, -, h⟩ := estate_bind_eq_ok h
  obtain ⟨_, _, -, h⟩ := estate_bind_eq_ok h
  cases h
  simp

/-- Each signature of a list signed spend after spend from spend `i` is one `sign_sapling_spend`
returned for one of the spends the list covers. -/
theorem SignedSpends.mem {env : MaspEnv} {keys : SaplingKeys} {signHash : List UInt8} :
    ∀ {i : Nat} {sigs : List (List UInt8)}, SignedSpends env keys signHash i sigs →
      ∀ sig ∈ sigs, ∃ j, j < i + sigs.length ∧ ∃ s s',
        signSaplingSpend env keys (env.spendItem j).alpha signHash s = .ok sig s'
  | _, [], _, _, h => nomatch h
  | i, _ :: _, ⟨hsig, hrest⟩, _, h => by
    rcases List.mem_cons.mp h with rfl | h
    · exact ⟨i, by simp, hsig⟩
    · obtain ⟨j, hj, hs⟩ := SignedSpends.mem hrest _ h
      exact ⟨j, by simp only [List.length_cons] at hj ⊢; omega, hs⟩

/-- On every path `crypto_sign_masp` appends to the store, and only signatures that
`sign_sapling_spend` returned for a spend of the transaction's builder, with keys derived and
checked. -/
theorem cryptoSignMasp_appends (env : MaspEnv) (d : Device) (cfg : MaspConfig) (tx : ParserTx)
    (txBuffer : List UInt8) (s : MaspSignState) :
    ∃ sigs, (cryptoSignMasp env d cfg tx txBuffer s).state.store = s.store.extend sigs ∧
      ∀ sig ∈ sigs, ∃ keys, KeysChecked env cfg tx keys ∧ ∃ j,
        j < tx.transaction.sections.maspBuilder.builder.saplingBuilder.nSpends ∧ ∃ t t',
          signSaplingSpend env keys (env.spendItem j).alpha (signHashOf env tx) t = .ok sig t' := by
  rcases cryptoSignMasp_cases env d cfg tx txBuffer s with ⟨e, he⟩ | ⟨keys, hk, -, he⟩
  · exact ⟨[], by simp [he], by simp⟩
  · obtain ⟨sigs, h1, h2, h3⟩ := cryptoSignSpendsSapling_store env tx keys s
    refine ⟨sigs, ?_, fun sig hsig => ?_⟩
    · rw [he, keeps_bind_state (fun _ => keepsStore_cryptoHashMessagebuffer d txBuffer),
        adaptExcept_state, h1]
    · obtain ⟨j, hj, hs⟩ := SignedSpends.mem h3 sig hsig
      exact ⟨keys, hk, j, by omega, hs⟩


/-! ## Room in the flash stores -/

/-- The spend-signature store holds no more signatures than it has room for. -/
def SpendSignatureStore.WithinCapacity (st : SpendSignatureStore) : Prop :=
  st.signatures.length ≤ st.capacity

/-- No flash store of the device holds more than it has room for. -/
structure MaspDevice.WithinCapacity (st : MaspDevice) : Prop where
  rand : st.rand.WithinCapacity
  signatures : st.signatures.WithinCapacity

/-- How many items each flash store of the device can hold: spends, outputs, converts and
signatures. -/
def MaspDevice.capacities (st : MaspDevice) : Nat × Nat × Nat × Nat :=
  (st.rand.spendCapacity, st.rand.outputCapacity, st.rand.convertCapacity,
    st.signatures.capacity)

/-- A spend iteration appends only to a store with room for the signature. -/
theorem preserves_capacity_signSpend (env : MaspEnv) (keys : SaplingKeys)
    (signHash : List UInt8) (i : Nat) :
    Preserves (fun s : MaspSignState => s.store.WithinCapacity) (signSpend env keys signHash i) :=
  .bind (fun s hs => by rw [signSaplingSpend_state]; exact hs) fun _ s hs => by
    by_cases hroom : s.store.signatures.length < s.store.capacity
    · rw [spendSignaturesAppend_of_lt hroom]
      simp only [EStateM.Result.state, SpendSignatureStore.WithinCapacity,
        SpendSignatureStore.extend_signatures, SpendSignatureStore.extend_capacity,
        List.length_append, List.length_singleton]
      omega
    · rw [spendSignaturesAppend_of_le (Nat.not_lt.mp hroom)]; exact hs

/-- On every path `crypto_sign_masp` keeps the spend-signature store within its capacity. -/
theorem preserves_capacity_cryptoSignMasp (env : MaspEnv) (d : Device) (cfg : MaspConfig)
    (tx : ParserTx) (txBuffer : List UInt8) :
    Preserves (fun s : MaspSignState => s.store.WithinCapacity)
      (cryptoSignMasp env d cfg tx txBuffer) := fun s hs => by
  rcases cryptoSignMasp_cases env d cfg tx txBuffer s with ⟨e, he⟩ | ⟨keys, -, -, he⟩
  · rw [he]; exact hs
  · rw [he, keeps_bind_state (fun _ => keepsStore_cryptoHashMessagebuffer d txBuffer),
      adaptExcept_state]
    unfold cryptoSignSpendsSapling
    split
    · exact hs
    · exact preserves_forLoop _ (fun j => preserves_capacity_signSpend env keys _ j) _ _ s hs

/-! ## The keys the device signs with -/

/-- The keys `crypto_sign_masp` signs with are the device's, whatever randomness it reads: the
keys `crypto_fillMASP` exports. -/
theorem KeysChecked.deviceSaplingKeys_eq {env : MaspEnv} {cfg : MaspConfig} {tx : ParserTx}
    {keys : SaplingKeys} {r : RandStore} (h : KeysChecked (env.withRandStore r) cfg tx keys) :
    deviceSaplingKeys env = .ok keys := by
  obtain ⟨seed, spendingKey, hseed, hsk, hkeys, -⟩ := h
  change cryptoComputeSaplingSeed env = .ok seed at hseed
  change checkParserOk (env.computeMasterFromSeed seed) = .ok spendingKey at hsk
  change computeKeys env { (default : SaplingKeys) with spendingKey } = .ok keys at hkeys
  simp only [deviceSaplingKeys, hseed, hsk, hkeys, bind, Except.bind]

/-- A signature computed on the device was made by `sign_sapling_spend` with the device's
keys. -/
theorem SignedOnDevice.signedWithDeviceKeys {env : MaspEnv} {cfg : MaspConfig}
    {spends : List SpendItem} {sig : List UInt8} (h : SignedOnDevice env cfg spends sig) :
    ∃ keys, deviceSaplingKeys env = .ok keys ∧
      ∃ alpha signHash s s', signSaplingSpend env keys alpha signHash s = .ok sig s' :=
  let ⟨_, _, keys, _, _, hk, s, s', hsig⟩ := h
  ⟨keys, hk.deviceSaplingKeys_eq, _, _, s, s', hsig⟩

/-! ## One call -/

section Step

variable (env : MaspEnv) (src : RandomSource) (d : Device) (cfg : MaspConfig) (st : MaspDevice)

/-- `crypto_computeRandomness` leaves the spend-signature store alone, hands out no signature,
and records in the randomness lists what its reply says. -/
theorem deviceStep_computeRandomness (type : Option DescKind) (out : Buffer) :
    let p := deviceStep env src d cfg st (.computeRandomness type out)
    p.2.signatures = st.signatures ∧ p.1.received = [] ∧
      p.2.rand = recordReply st.rand (.computeRandomness type out) p.1 := by
  intro p
  refine ⟨rfl, ?_, ?_⟩
  · simp only [p, deviceStep]; cases cryptoComputeRandomness env src cfg type _ <;> rfl
  · simp only [p, deviceStep]
    cases h : cryptoComputeRandomness env src cfg type ⟨st.rand, st.trngCalls, st.cxRngCalls, out⟩ with
    | ok n s' =>
      obtain ⟨k, rfl, -, -, hstore, -⟩ := cryptoComputeRandomness_eq_ok env src cfg h
      exact hstore
    | error e s' =>
      have hstore := cryptoComputeRandomness_error_store env src cfg h
      cases type with
      | none => exact hstore
      | some k => exact hstore

/-- Built without `APP_TESTING`, a spend request into a buffer of `2 * RANDOM_LEN` bytes or more,
with room in the spend list, records the scalars `from_bytes_wide` reduces from the next two
draws, and leaves the spend-signature store alone. -/
theorem deviceStep_computeRandomness_spend (happ : cfg.appTesting = false) (out : Buffer)
    (hlen : 2 * randomLen ≤ out.bytes.length) (hroom : st.rand.HasRoom .spend) {a b : List UInt8}
    (ha : env.fromBytesWide (readBytes (src.trng st.trngCalls) 0 64) = .ok a)
    (hb : env.fromBytesWide (readBytes (src.trng (st.trngCalls + 1)) 0 64) = .ok b) :
    (deviceStep env src d cfg st (.computeRandomness (some .spend) out)).2 =
      { st with
        rand := { st.rand with
          spends := st.rand.spends ++ [⟨readBytes a 0 randomLen, readBytes b 0 randomLen⟩] }
        trngCalls := st.trngCalls + 2 } := by
  rw [deviceStep, @cryptoComputeRandomness_spend_ok env src cfg
    ⟨st.rand, st.trngCalls, st.cxRngCalls, out⟩ happ hlen hroom _ _ ha hb]
  rfl

/-- `crypto_sign_masp` leaves the randomness lists alone, hands out no signature, and appends to
the spend-signature store signatures of `SIGNATURE_SIZE` bytes computed on the device for spends
it checked. -/
theorem deviceStep_signMasp (tx : ParserTx) (txBuffer : List UInt8) (output : Buffer) :
    let p := deviceStep env src d cfg st (.signMasp tx txBuffer output)
    p.2.rand = st.rand ∧ p.1.received = [] ∧ ∃ sigs, p.2.signatures = st.signatures.extend sigs ∧
      ∀ sig ∈ sigs, sig.length = spendSignatureSize ∧ SignedForSpend env cfg st.rand.spends sig := by
  intro p
  obtain ⟨sigs, hstore, hsigs⟩ := cryptoSignMasp_appends (env.withRandStore st.rand) d cfg tx
    txBuffer ⟨st.signatures, st.rngCalls, output⟩
  refine ⟨rfl, ?_, sigs, hstore, fun sig hsig => ?_⟩
  · simp only [p, deviceStep]; cases cryptoSignMasp _ d cfg tx txBuffer _ <;> rfl
  · obtain ⟨keys, hk, j, hj, t, t', h⟩ := hsigs sig hsig
    exact ⟨signSaplingSpend_length h, st.rand, tx, keys, j, hj, List.prefix_refl _, hk, t, t', h⟩

/-- An extraction with a signature left hands out the first one not yet extracted, in the
cleared buffer, and moves the cursor past it. -/
theorem deviceStep_extract_more (buffer : Buffer) (h : st.signatures.moreExtract = true) :
    deviceStep env src d cfg st (.extractSpendSignature buffer) =
      (.extracted (.ok spendSignatureSize)
        ((buffer.write 0 (List.replicate buffer.bytes.length 0)).write 0
          (st.signatures.signatures.getD st.signatures.extracted [])),
        { st with signatures := { st.signatures with extracted := st.signatures.extracted + 1 } }) := by
  simp only [deviceStep, cryptoExtractSpendSignature, h, Bool.not_true, Bool.false_eq_true, if_false,
    SpendSignatureStore.nextSignature]
  rfl

/-- An extraction with no signature left fails and changes nothing. -/
theorem deviceStep_extract_none (buffer : Buffer) (h : st.signatures.moreExtract = false) :
    deviceStep env src d cfg st (.extractSpendSignature buffer) =
      (.extracted (.error .unknown) buffer, st) := by
  simp only [deviceStep, cryptoExtractSpendSignature, h, Bool.not_false, if_true]
  rfl

/-- Every call records in the randomness lists what its reply says, and nothing else. -/
theorem deviceStep_rand (c : MaspCall) :
    (deviceStep env src d cfg st c).2.rand = recordReply st.rand c (deviceStep env src d cfg st c).1 := by
  cases c with
  | computeRandomness type out => exact (deviceStep_computeRandomness env src d cfg st type out).2.2
  | signMasp tx txBuffer output => exact (deviceStep_signMasp env src d cfg st tx txBuffer output).1
  | extractSpendSignature buffer =>
    cases hm : st.signatures.moreExtract
    · rw [deviceStep_extract_none env src d cfg st buffer hm]; rfl
    · rw [deviceStep_extract_more env src d cfg st buffer hm]; rfl

/-- The signature handed out in a buffer that holds it is the one read from the store. -/
theorem read_extracted {buffer : Buffer} {sig : List UInt8}
    (hfit : spendSignatureSize ≤ buffer.bytes.length) (hsig : sig.length = spendSignatureSize) :
    ((buffer.write 0 (List.replicate buffer.bytes.length 0)).write 0 sig).read 0 spendSignatureSize =
      sig := by
  rw [Buffer.read, cleared_write_bytes (by omega), ← hsig, readBytes_append_prefix]

/-- One call keeps the store consistent, and the queue law holds for it: what was pending,
followed by what the call appended, is what it handed out followed by what is pending after
it. -/
theorem deviceStep_fifo {c : MaspCall} (hwf : st.signatures.WellFormed) (hfit : c.BufferFits) :
    let p := deviceStep env src d cfg st c
    ∃ appended, p.2.signatures.signatures = st.signatures.signatures ++ appended ∧
      st.signatures.pending ++ appended = p.1.received ++ p.2.signatures.pending ∧
      p.2.signatures.WellFormed := by
  intro p
  cases c with
  | computeRandomness type out =>
    obtain ⟨h1, h2, -⟩ := deviceStep_computeRandomness env src d cfg st type out
    exact ⟨[], by rw [h1, List.append_nil], by rw [h1, h2, List.append_nil, List.nil_append],
      h1 ▸ hwf⟩
  | signMasp tx txBuffer output =>
    obtain ⟨-, h2, sigs, h3, hsigs⟩ := deviceStep_signMasp env src d cfg st tx txBuffer output
    refine ⟨sigs, by rw [h3]; rfl, ?_, ?_⟩
    · rw [h2, h3, List.nil_append]
      simp only [SpendSignatureStore.pending, SpendSignatureStore.extend_signatures,
        SpendSignatureStore.extend_extracted, List.drop_append_of_le_length hwf.extracted_le]
    · rw [h3]
      refine ⟨?_, fun sig h => ?_⟩
      · simp only [SpendSignatureStore.extend_signatures, SpendSignatureStore.extend_extracted,
          List.length_append]
        exact le_trans hwf.extracted_le (Nat.le_add_right _ _)
      · rcases List.mem_append.mp (by simpa using h) with h | h
        · exact hwf.length_eq sig h
        · exact (hsigs sig h).1
  | extractSpendSignature buffer =>
    cases hm : st.signatures.moreExtract with
    | true =>
      have hlt : st.signatures.extracted < st.signatures.signatures.length := by
        simpa [SpendSignatureStore.moreExtract] using hm
      simp only [p, deviceStep_extract_more env src d cfg st buffer hm]
      refine ⟨[], by rw [List.append_nil], ?_, ⟨hlt, hwf.length_eq⟩⟩
      rw [List.getD_eq_getElem _ _ hlt]
      simp only [MaspReply.received, SpendSignatureStore.pending, List.append_nil,
        read_extracted hfit (hwf.length_eq _ (List.getElem_mem hlt)), List.singleton_append]
      exact List.drop_eq_getElem_cons hlt
    | false =>
      simp only [p, deviceStep_extract_none env src d cfg st buffer hm]
      exact ⟨[], by rw [List.append_nil], by simp [MaspReply.received], hwf⟩

/-- One call keeps a signature invariant of every stored signature, and hands out only
signatures that have it. -/
theorem deviceStep_invariant {Q : List SpendItem → List UInt8 → Prop}
    (hQ : SignatureInvariant env cfg Q) {c : MaspCall} (hwf : st.signatures.WellFormed)
    (hfit : c.BufferFits) (hinv : ∀ sig ∈ st.signatures.signatures, Q st.rand.spends sig) :
    let p := deviceStep env src d cfg st c
    (∀ sig ∈ p.2.signatures.signatures, Q p.2.rand.spends sig) ∧
      ∀ sig ∈ p.1.received, Q p.2.rand.spends sig := by
  intro p
  have hpre : st.rand.spends <+: p.2.rand.spends := by
    rw [deviceStep_rand]; exact spends_prefix_recordReply _ _ _
  cases c with
  | computeRandomness type out =>
    obtain ⟨h1, h2, -⟩ := deviceStep_computeRandomness env src d cfg st type out
    refine ⟨fun sig h => hQ.mono (hinv sig (h1 ▸ h)) hpre, ?_⟩
    rw [h2]; exact fun _ h => nomatch h
  | signMasp tx txBuffer output =>
    obtain ⟨h1, h2, sigs, h3, hsigs⟩ := deviceStep_signMasp env src d cfg st tx txBuffer output
    refine ⟨fun sig h => ?_, by rw [h2]; exact fun _ h => nomatch h⟩
    rw [h1]
    rw [h3, SpendSignatureStore.extend_signatures] at h
    rcases List.mem_append.mp h with h | h
    · exact hinv sig h
    · exact hQ.of_signedForSpend (hsigs sig h).2
  | extractSpendSignature buffer =>
    cases hm : st.signatures.moreExtract with
    | true =>
      have hlt : st.signatures.extracted < st.signatures.signatures.length := by
        simpa [SpendSignatureStore.moreExtract] using hm
      simp only [p, deviceStep_extract_more env src d cfg st buffer hm]
      refine ⟨hinv, fun sig h => ?_⟩
      rw [List.getD_eq_getElem _ _ hlt, MaspReply.received,
        read_extracted hfit (hwf.length_eq _ (List.getElem_mem hlt)), List.mem_singleton] at h
      exact h ▸ hinv _ (List.getElem_mem hlt)
    | false =>
      simp only [p, deviceStep_extract_none env src d cfg st buffer hm]
      exact ⟨hinv, fun _ h => nomatch h⟩

/-- One call keeps the capacities of the flash stores, and keeps each store within its
capacity. -/
theorem deviceStep_withinCapacity (c : MaspCall) (h : st.WithinCapacity) :
    (deviceStep env src d cfg st c).2.capacities = st.capacities ∧
      (deviceStep env src d cfg st c).2.WithinCapacity := by
  cases c with
  | computeRandomness type out =>
    simp only [deviceStep]
    cases hr : cryptoComputeRandomness env src cfg type
        ⟨st.rand, st.trngCalls, st.cxRngCalls, out⟩ with
    | ok n s' =>
      obtain ⟨k, -, -, hroom, hstore, -⟩ := cryptoComputeRandomness_eq_ok env src cfg hr
      obtain ⟨h1, h2, h3⟩ := RandStore.record_capacities st.rand k s'.out
      refine ⟨?_, ⟨?_, h.signatures⟩⟩
      · simp only [MaspDevice.capacities, EStateM.Result.state, hstore, h1, h2, h3]
      · simp only [EStateM.Result.state, hstore]; exact h.rand.record hroom _
    | error e s' =>
      have hstore := cryptoComputeRandomness_error_store env src cfg hr
      simp only [EStateM.Result.state, hstore]
      exact ⟨rfl, h.rand, h.signatures⟩
  | signMasp tx txBuffer output =>
    obtain ⟨hrand, -, sigs, hsig, -⟩ := deviceStep_signMasp env src d cfg st tx txBuffer output
    refine ⟨?_, ⟨hrand ▸ h.rand, preserves_capacity_cryptoSignMasp (env.withRandStore st.rand) d
      cfg tx txBuffer ⟨st.signatures, st.rngCalls, output⟩ h.signatures⟩⟩
    simp only [MaspDevice.capacities, hrand, hsig, SpendSignatureStore.extend_capacity]
  | extractSpendSignature buffer =>
    cases hm : st.signatures.moreExtract
    · rw [deviceStep_extract_none env src d cfg st buffer hm]; exact ⟨rfl, h⟩
    · rw [deviceStep_extract_more env src d cfg st buffer hm]; exact ⟨rfl, h.rand, h.signatures⟩

end Step

/-! ## Whole runs -/

/-- A generator whose draws are all empty. -/
def emptySource : RandomSource := ⟨fun _ => [], fun _ => []⟩

/-- A device with empty randomness lists of four items each and no signatures. -/
def freshMaspDevice : MaspDevice := ⟨⟨[], [], [], 4, 4, 4⟩, ⟨[], 0, 4⟩, 0, 0, 0⟩

/-- The same device holding two signatures not yet extracted. -/
def twoPendingDevice : MaspDevice :=
  { freshMaspDevice with signatures := ⟨[List.replicate 64 1, List.replicate 64 2], 0, 4⟩ }

/-- Two extractions into 64-byte buffers. -/
def twoExtractions : List MaspCall :=
  [.extractSpendSignature ⟨List.replicate 64 0, 0⟩, .extractSpendSignature ⟨List.replicate 64 0, 0⟩]

theorem freshMaspDevice_wellFormed : freshMaspDevice.signatures.WellFormed := ⟨by decide, by decide⟩

/-- A generator whose draws `2 i` and `2 i + 1` reduce to the `rcv` and `alpha` that
`sampleMaspEnv` keeps for spend `i`. -/
def spendSource : RandomSource :=
  ⟨fun n => List.replicate 64 (UInt8.ofNat (if n % 2 = 0 then n / 2 + 1 else n / 2 + 101)),
    fun _ => []⟩

theorem fromBytesWide_spendSource (n : Nat) :
    sampleMaspEnv.fromBytesWide (readBytes (spendSource.trng n) 0 64) =
      .ok (List.replicate 32 (UInt8.ofNat (if n % 2 = 0 then n / 2 + 1 else n / 2 + 101))) := by
  show Except.ok (List.take 32 (readBytes (List.replicate 64 _) 0 64)) = _
  rw [readBytes_replicate (le_of_eq (Nat.zero_add 64)), List.take_replicate]
  rfl

/-- The randomness of two spends, a signing call on `twoSpendTx`, and two extractions, each with
a 64-byte buffer. -/
def twoSpendRun : List MaspCall :=
  [.computeRandomness (some .spend) (Buffer.fresh 64),
    .computeRandomness (some .spend) (Buffer.fresh 64),
    .signMasp twoSpendTx [] (Buffer.fresh 64),
    .extractSpendSignature (Buffer.fresh 64), .extractSpendSignature (Buffer.fresh 64)]

theorem twoSpendRun_fits : ∀ c ∈ twoSpendRun, c.BufferFits := by decide

/-- The randomness lists once the two spend requests of `twoSpendRun` have returned. -/
def twoSpendRandStore : RandStore :=
  ⟨[sampleMaspEnv.spendItem 0, sampleMaspEnv.spendItem 1], [], [], 4, 4, 4⟩

/-- The device once the two spend requests of `twoSpendRun` have returned. -/
def twoSpendDevice : MaspDevice := { freshMaspDevice with rand := twoSpendRandStore, trngCalls := 4 }

/-- With the randomness the two requests recorded, the check accepts `twoSpendTx`. -/
theorem twoSpendTx_keysChecked_withRandStore :
    KeysChecked (sampleMaspEnv.withRandStore twoSpendRandStore) sampleMaspConfig twoSpendTx
      sampleSaplingKeys := by
  obtain ⟨log, hlog⟩ := @cryptoCheckMasp_ok_of_spends_match
    (sampleMaspEnv.withRandStore twoSpendRandStore) sampleMaspConfig twoSpendTx sampleSaplingKeys
    rfl rfl rfl rfl rfl
    (fun j hj => (twoSpendTx_spendMatches sampleSaplingKeys hj).withRandStore (by
      obtain rfl | rfl : j = 0 ∨ j = 1 := by change j < 2 at hj; omega
      all_goals rfl)) []
  exact ⟨_, _, rfl, rfl, rfl, by rw [checkMaspStatus, hlog]⟩

/-- `twoSpendRun` hands the host two signatures: the requests record the randomness of both
spends, the signing call appends a signature for each, and the extractions take them. -/
theorem twoSpendRun_received :
    ((deviceRun sampleMaspEnv spendSource sampleDevice sampleMaspConfig freshMaspDevice
      twoSpendRun).1.map MaspReply.received).flatten.length = 2 := by
  have e1 : (deviceStep sampleMaspEnv spendSource sampleDevice sampleMaspConfig freshMaspDevice
      (.computeRandomness (some .spend) (Buffer.fresh 64))).2 =
      { freshMaspDevice with
        rand := ⟨[sampleMaspEnv.spendItem 0], [], [], 4, 4, 4⟩, trngCalls := 2 } := by
    rw [deviceStep_computeRandomness_spend sampleMaspEnv spendSource sampleDevice sampleMaspConfig
      freshMaspDevice rfl (Buffer.fresh 64) (by decide) (show 0 < 4 by decide)
      (fromBytesWide_spendSource 0) (fromBytesWide_spendSource 1)]
    simp (disch := decide) only [readBytes_replicate]
    rfl
  have e2 : (deviceStep sampleMaspEnv spendSource sampleDevice sampleMaspConfig
      { freshMaspDevice with
        rand := ⟨[sampleMaspEnv.spendItem 0], [], [], 4, 4, 4⟩, trngCalls := 2 }
      (.computeRandomness (some .spend) (Buffer.fresh 64))).2 = twoSpendDevice := by
    rw [deviceStep_computeRandomness_spend sampleMaspEnv spendSource sampleDevice sampleMaspConfig
      { freshMaspDevice with
        rand := ⟨[sampleMaspEnv.spendItem 0], [], [], 4, 4, 4⟩, trngCalls := 2 }
      rfl (Buffer.fresh 64) (by decide) (show 1 < 4 by decide)
      (fromBytesWide_spendSource 2) (fromBytesWide_spendSource 3)]
    simp (disch := decide) only [readBytes_replicate]
    rfl
  obtain ⟨t, hrun⟩ := cryptoSignMasp_ok_of_room (sampleMaspEnv.withRandStore twoSpendDevice.rand)
    sampleDevice sampleMaspConfig twoSpendTx []
    (show ed25519SignatureSize ≤ (⟨twoSpendDevice.signatures, twoSpendDevice.rngCalls,
      Buffer.fresh 64⟩ : MaspSignState).output.bytes.length by decide)
    twoSpendTx_keysChecked_withRandStore (fun _ _ => ⟨_, _, rfl⟩) (by decide)
  obtain ⟨-, sigs, -, hstore, hlen, -⟩ := cryptoSignMasp_ok_signedAll _ _ _ _ _ hrun
  have e3 : (deviceStep sampleMaspEnv spendSource sampleDevice sampleMaspConfig twoSpendDevice
      (.signMasp twoSpendTx [] (Buffer.fresh 64))).2 =
      { twoSpendDevice with signatures := t.store, rngCalls := t.rngCalls } := by
    simp only [deviceStep, hrun, result_state_ok]
  -- the signing call leaves two signatures, none extracted yet
  have hsigs : t.store.extracted = 0 ∧ t.store.signatures.length = 2 := by
    rw [hstore, SpendSignatureStore.extend_signatures, List.length_append, hlen]
    exact ⟨rfl, rfl⟩
  have hm1 : t.store.moreExtract = true := by simp [SpendSignatureStore.moreExtract, hsigs]
  have hm2 : ({ t.store with extracted := t.store.extracted + 1 }).moreExtract = true := by
    simp [SpendSignatureStore.moreExtract, hsigs]
  simp only [twoSpendRun, deviceRun, e1, e2, e3, deviceStep_extract_more _ _ _ _
    { twoSpendDevice with signatures := t.store, rngCalls := t.rngCalls } _ hm1]
  rw [deviceStep_extract_more _ _ _ _ _ _ hm2]
  rfl

section Runs

variable (env : MaspEnv) (src : RandomSource) (d : Device) (cfg : MaspConfig)

theorem spends_prefix_deviceRun (st : MaspDevice) (cs : List MaspCall) :
    st.rand.spends <+: (deviceRun env src d cfg st cs).2.rand.spends := by
  induction cs generalizing st with
  | nil => exact List.prefix_refl _
  | cons c cs ih =>
    have h := deviceStep_rand env src d cfg st c
    exact (h ▸ spends_prefix_recordReply st.rand c _).trans (ih _)

/-- Over every run of calls, from a consistent spend-signature store and with extraction buffers
that hold a signature, the store is a queue: the signatures the host extracted, followed by those
still pending, are those pending at the start followed by those the signing calls appended. None
is lost, duplicated or reordered, and the store stays consistent. -/
theorem deviceRun_fifo (st : MaspDevice) (cs : List MaspCall) (hwf : st.signatures.WellFormed)
    (hfit : ∀ c ∈ cs, c.BufferFits) :
    let p := deviceRun env src d cfg st cs
    ∃ appended, p.2.signatures.signatures = st.signatures.signatures ++ appended ∧
      st.signatures.pending ++ appended =
        (p.1.map MaspReply.received).flatten ++ p.2.signatures.pending ∧
      p.2.signatures.WellFormed := by
  induction cs generalizing st with
  | nil => exact ⟨[], by simp [deviceRun], by simp [deviceRun], hwf⟩
  | cons c cs ih =>
    obtain ⟨a1, h1, h2, hwf1⟩ :=
      deviceStep_fifo env src d cfg st hwf (hfit c (List.mem_cons_self _ _))
    obtain ⟨a2, h3, h4, hwf2⟩ :=
      ih (deviceStep env src d cfg st c).2 hwf1 fun c' hc => hfit c' (List.mem_cons_of_mem _ hc)
    refine ⟨a1 ++ a2, ?_, ?_, hwf2⟩
    · simp only [deviceRun]; rw [h3, h1, List.append_assoc]
    · simp only [deviceRun, List.map_cons, List.flatten_cons]
      rw [← List.append_assoc, h2, List.append_assoc, h4, List.append_assoc]

theorem twoPending_extracted_inOrder :
    twoPendingDevice.signatures.WellFormed ∧ (∀ c ∈ twoExtractions, c.BufferFits) ∧
      ∃ appended,
        (deviceRun sampleMaspEnv emptySource sampleDevice sampleMaspConfig twoPendingDevice
          twoExtractions).2.signatures.signatures =
            twoPendingDevice.signatures.signatures ++ appended ∧
        twoPendingDevice.signatures.pending ++ appended =
          ((deviceRun sampleMaspEnv emptySource sampleDevice sampleMaspConfig twoPendingDevice
            twoExtractions).1.map MaspReply.received).flatten ++
          (deviceRun sampleMaspEnv emptySource sampleDevice sampleMaspConfig twoPendingDevice
            twoExtractions).2.signatures.pending ∧
        (deviceRun sampleMaspEnv emptySource sampleDevice sampleMaspConfig twoPendingDevice
          twoExtractions).2.signatures.WellFormed :=
  have hwf : twoPendingDevice.signatures.WellFormed := ⟨by decide, by decide⟩
  have hfit : ∀ c ∈ twoExtractions, c.BufferFits := by decide
  ⟨hwf, hfit, deviceRun_fifo sampleMaspEnv emptySource sampleDevice sampleMaspConfig
    twoPendingDevice twoExtractions hwf hfit⟩

/-- The run form of `deviceStep_invariant`, by induction on the calls, with the store kept
consistent by `deviceStep_fifo`. -/
theorem deviceRun_invariant {Q : List SpendItem → List UInt8 → Prop}
    (hQ : SignatureInvariant env cfg Q) (st : MaspDevice) (cs : List MaspCall)
    (hwf : st.signatures.WellFormed) (hfit : ∀ c ∈ cs, c.BufferFits)
    (hinv : ∀ sig ∈ st.signatures.signatures, Q st.rand.spends sig) :
    let p := deviceRun env src d cfg st cs
    ∀ sig ∈ (p.1.map MaspReply.received).flatten, Q p.2.rand.spends sig := by
  induction cs generalizing st with
  | nil => simp [deviceRun]
  | cons c cs ih =>
    have hc := hfit c (List.mem_cons_self _ _)
    obtain ⟨hinv1, hrec⟩ := deviceStep_invariant env src d cfg st hQ hwf hc hinv
    obtain ⟨-, -, -, hwf1⟩ := deviceStep_fifo env src d cfg st hwf hc
    have hrest := ih (deviceStep env src d cfg st c).2 hwf1
      (fun c' hc' => hfit c' (List.mem_cons_of_mem _ hc')) hinv1
    intro p sig hsig
    simp only [p, deviceRun, List.map_cons, List.flatten_cons, List.mem_append] at hsig ⊢
    rcases hsig with h | h
    · exact hQ.mono (hrec sig h) (spends_prefix_deviceRun env src d cfg _ cs)
    · exact hrest sig h

/-- Over every run of calls, the randomness lists hold what they held, followed by the item of
each successful `crypto_computeRandomness`, in the order of the calls, each as the host received
it in its buffer; failed calls and the other entry points record nothing. -/
theorem deviceRun_randomness (st : MaspDevice) (cs : List MaspCall) :
    (deviceRun env src d cfg st cs).2.rand =
      recordReplies st.rand cs (deviceRun env src d cfg st cs).1 := by
  induction cs generalizing st with
  | nil => rfl
  | cons c cs ih =>
    simp only [deviceRun, recordReplies]
    rw [← deviceStep_rand, ih]

/-- Over every run of calls, from a consistent store whose signatures were computed on the
device, and with extraction buffers that hold a signature: every signature the host extracts was
made by `sign_sapling_spend` with the keys `crypto_fillMASP` exports. The device derives them,
and a request for any kind of key, in a buffer that holds `3 * KEY_LENGTH` bytes and the kind's
response, answers that response. -/
theorem deviceRun_signsWithExportedKeys (st : MaspDevice) (cs : List MaspCall)
    (hwf : st.signatures.WellFormed) (hfit : ∀ c ∈ cs, c.BufferFits)
    (hinv : ∀ sig ∈ st.signatures.signatures, SignedOnDevice env cfg st.rand.spends sig) :
    ∀ sig ∈ ((deviceRun env src d cfg st cs).1.map MaspReply.received).flatten,
      ∃ keys, (∃ alpha signHash s s', signSaplingSpend env keys alpha signHash s = .ok sig s') ∧
        ∀ (k : KeyKind) (b : Buffer), 3 * keyLength ≤ b.bytes.length →
          (k.response keys).length ≤ b.bytes.length →
          ∃ b', cryptoFillMASP env (some k) b = .ok (k.response keys).length b' ∧
            b'.bytes = k.response keys ++
              List.replicate (b.bytes.length - (k.response keys).length) 0 := by
  intro sig hsig
  obtain ⟨keys, hkeys, hsigned⟩ :=
    (deviceRun_invariant env src d cfg (signedOnDevice_invariant env cfg) st cs hwf hfit hinv sig
      hsig).signedWithDeviceKeys
  exact ⟨keys, hsigned, fun k _ h3 hroom => cryptoFillMASP_of_keys env hkeys k h3 hroom⟩

theorem freshDevice_extracted_withExportedKeys :
    freshMaspDevice.signatures.WellFormed ∧ (∀ c ∈ twoSpendRun, c.BufferFits) ∧
      (∀ sig ∈ freshMaspDevice.signatures.signatures,
        SignedOnDevice sampleMaspEnv sampleMaspConfig freshMaspDevice.rand.spends sig) ∧
      ((deviceRun sampleMaspEnv spendSource sampleDevice sampleMaspConfig freshMaspDevice
        twoSpendRun).1.map MaspReply.received).flatten.length = 2 ∧
      ∀ sig ∈ ((deviceRun sampleMaspEnv spendSource sampleDevice sampleMaspConfig
          freshMaspDevice twoSpendRun).1.map MaspReply.received).flatten,
        ∃ keys, (∃ alpha signHash s s',
            signSaplingSpend sampleMaspEnv keys alpha signHash s = .ok sig s') ∧
          ∀ (k : KeyKind) (b : Buffer), 3 * keyLength ≤ b.bytes.length →
            (k.response keys).length ≤ b.bytes.length →
            ∃ b', cryptoFillMASP sampleMaspEnv (some k) b = .ok (k.response keys).length b' ∧
              b'.bytes = k.response keys ++
                List.replicate (b.bytes.length - (k.response keys).length) 0 :=
  ⟨freshMaspDevice_wellFormed, twoSpendRun_fits, nofun, twoSpendRun_received,
    deviceRun_signsWithExportedKeys sampleMaspEnv spendSource sampleDevice sampleMaspConfig
      freshMaspDevice twoSpendRun freshMaspDevice_wellFormed twoSpendRun_fits
      nofun⟩

/-- Over every run of calls, from a device whose flash stores are within their capacities, the
capacities never change and no store ever holds more than its capacity: every append, to a
randomness list or to the spend-signature store, is made only where there is room. -/
theorem deviceRun_withinCapacity (st : MaspDevice) (cs : List MaspCall)
    (h : st.WithinCapacity) :
    (deviceRun env src d cfg st cs).2.capacities = st.capacities ∧
      (deviceRun env src d cfg st cs).2.WithinCapacity := by
  induction cs generalizing st with
  | nil => exact ⟨rfl, h⟩
  | cons c cs ih =>
    obtain ⟨h1, h2⟩ := deviceStep_withinCapacity env src d cfg st c h
    obtain ⟨h3, h4⟩ := ih _ h2
    exact ⟨h3.trans h1, h4⟩

end Runs

end NamadaLedger
