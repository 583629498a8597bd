import NamadaLedger.SignRun

/-!
# The caller's buffer on the error paths of `crypto_sign`

`crypto_sign` zeroes the caller's buffer once, before its first store, and never again: a
`CHECK_ZXERR` returns at once and leaves what earlier steps wrote. This module follows the buffer
along every path of a run, on any device:

* `Keeps SignState.output` — a step that stores nothing into the caller's buffer, on either
  path; every phase from the raw header hash to the last prior section is one, apart from the raw
  signature;
* the phases that store into the buffer keep, on both paths or on the error path only, what their
  signatures keep (`Preserves` / `PreservesOnError` of `NamadaLedger.Monad`);
* `ZeroOutsideKeyAndRawSig` — the buffer reads zero outside the public key `output[1, 33)` and
  the raw signature `output[66, 130)`: the size check and `MEMZERO` establish it, the raw
  signature keeps it, and every later step keeps it on the error path.

A failed run therefore leaves at most the public key and the raw signature behind
(`cryptoSign_error_zero_outside_key_and_rawSig`), and a run whose accepted prior section fails to
hash leaves both (`badSignerTx_leaves_key_and_rawSig`). What the buffer held before the call is
never read, nor returned: past the size check the whole run depends on the buffer only through
its length (`cryptoSignRun_eq_of_length`).
-/

namespace NamadaLedger

/-! ## Steps that store nothing into the caller's buffer -/

section Frame

variable {α : Type}

theorem keepsOutput_fromExcept (x : Except ZxErr α) : Keeps SignState.output (fromExcept x) :=
  fun _ => by cases x <;> rfl

theorem keepsOutput_modify {g : SignState → SignState} (h : ∀ s, (g s).output = s.output) :
    Keeps SignState.output (modify g : SignM PUnit) := h

theorem keepsOutput_storeHash (slot : Nat) (h : List UInt8) :
    Keeps SignState.output (storeHash slot h) := fun _ => rfl

theorem keepsOutput_storeIndex (slot : Nat) (idx : UInt8) :
    Keeps SignState.output (storeIndex slot idx) := fun _ => rfl

theorem keepsOutput_bumpHashesLen (n : Nat) (both : Bool) :
    Keeps SignState.output (bumpHashesLen n both) := fun _ => rfl

end Frame

/-- The buffer a step on the caller's buffer leaves, on either path. -/
@[simp] theorem onOutput_state (m : EStateM ZxErr Buffer Unit) (s : SignState) :
    (onOutput m s).state.output = (m s.output).state := by
  rw [onOutput_apply]; cases m s.output <;> rfl

theorem onOutput_error {m : EStateM ZxErr Buffer Unit} {s s' : SignState} {e : ZxErr}
    (h : onOutput m s = .error e s') : m s.output = .error e s'.output := by
  rw [onOutput_apply] at h
  cases hm : m s.output with
  | ok a b => simp [hm] at h
  | error e' b =>
    simp only [hm, EStateM.Result.error.injEq] at h
    obtain ⟨rfl, rfl⟩ := h
    rfl

/-- `crypto_sign_ed25519` leaves the buffer as it was, zeroes the `n` bytes at `off`, or writes
the device's signature there. -/
theorem cryptoSignEd25519_state (d : Device) (off n : Nat) (msg : List UInt8) (out : Buffer) :
    (cryptoSignEd25519 d off n msg out).state = out ∨
      (cryptoSignEd25519 d off n msg out).state = out.write off (List.replicate n 0) ∨
      ∃ sig, deviceSign d msg = some sig ∧
        (cryptoSignEd25519 d off n msg out).state = out.write off sig := by
  unfold cryptoSignEd25519
  split
  · exact .inl rfl
  · cases deviceSign d msg with
    | none => exact .inr (.inl rfl)
    | some sig => exact .inr (.inr ⟨sig, rfl, rfl⟩)

/-- A failed `crypto_sign_ed25519` leaves the buffer as it was or zeroes the `n` bytes at
`off`. -/
theorem cryptoSignEd25519_error {d : Device} {off n : Nat} {msg : List UInt8} {out out' : Buffer}
    {e : ZxErr} (h : cryptoSignEd25519 d off n msg out = .error e out') :
    out' = out ∨ out' = out.write off (List.replicate n 0) := by
  unfold cryptoSignEd25519 at h
  split at h
  · cases h; exact .inl rfl
  · cases hs : deviceSign d msg with
    | none => simp only [hs, EStateM.Result.error.injEq] at h; exact .inr h.2.symm
    | some sig => simp [hs] at h

section Phases

variable (d : Device) (tx : ParserTx)

theorem keepsOutput_hashRawHeader : Keeps SignState.output (hashRawHeader d tx) :=
  .bind (keepsOutput_storeIndex _ _) fun _ => .bind (keepsOutput_fromExcept _) fun _ =>
    .bind (keepsOutput_storeHash _ _) fun _ => keepsOutput_modify fun _ => rfl

theorem keepsOutput_cryptoAddTxnHashes : Keeps SignState.output (cryptoAddTxnHashes tx) :=
  fun s => by rw [cryptoAddTxnHashes_apply]; simp

theorem keepsOutput_addSignedRaw : Keeps SignState.output (addSignedRaw d tx) :=
  .bind keeps_get fun _ => .bind (keepsOutput_fromExcept _) fun _ =>
    .bind (keepsOutput_storeHash _ _) fun _ => .bind (keepsOutput_storeIndex _ _) fun _ =>
      keepsOutput_bumpHashesLen _ _

theorem keepsOutput_addCodeData : Keeps SignState.output (addCodeData d tx) :=
  .bind keeps_get fun _ => .bind (keepsOutput_storeIndex _ _) fun _ =>
    .bind (keepsOutput_storeIndex _ _) fun _ => .bind (keepsOutput_fromExcept _) fun _ =>
      .bind (keepsOutput_storeHash _ _) fun _ => .bind (keepsOutput_fromExcept _) fun _ =>
        .bind (keepsOutput_storeHash _ _) fun _ => keepsOutput_bumpHashesLen _ _

theorem keepsOutput_addMemo : Keeps SignState.output (addMemo d tx) := by
  unfold addMemo
  split
  · exact .bind keeps_get fun _ => .bind (keepsOutput_storeIndex _ _) fun _ =>
      .bind (keepsOutput_fromExcept _) fun _ => .bind (keepsOutput_storeHash _ _) fun _ =>
        keepsOutput_bumpHashesLen _ _
  · exact keeps_pure ()

theorem keepsOutput_signPrior (prev : SignatureSection) :
    Keeps SignState.output (signPrior d prev) := fun s => by
  rw [signPrior_apply]
  split
  · split <;> rfl
  · rfl

theorem keepsOutput_signPriors : ∀ secs, Keeps SignState.output (signPriors d secs)
  | [] => keeps_pure ()
  | prev :: rest => .bind (keepsOutput_signPrior d prev) fun _ => keepsOutput_signPriors rest

/-- From the signed raw section to the last prior section nothing is stored into the caller's
buffer. -/
theorem keepsOutput_signSections : Keeps SignState.output (signSections d tx) :=
  .bind (keepsOutput_addSignedRaw d tx) fun _ => .bind (keepsOutput_addCodeData d tx) fun _ =>
    .bind (keepsOutput_addMemo d tx) fun _ => keepsOutput_signPriors d _

theorem keepsOutput_setFeeHeader : Keeps SignState.output (setFeeHeader d tx) :=
  .bind (keepsOutput_fromExcept _) fun _ => .bind (keepsOutput_storeHash _ _) fun _ =>
    keepsOutput_storeIndex _ _

end Phases

/-! ## The phases that store into the caller's buffer

Each is stated for any property of the buffer that its stores keep. -/

section Signing

variable (d : Device) {P : Buffer → Prop}

/-- The raw section keeps what its signature keeps. -/
theorem preserves_signRawSection
    (hsign : ∀ msg, Preserves (fun s => P s.output)
      (onOutput (cryptoSignEd25519 d (rawOffset + 1) ed25519SignatureSize msg))) :
    Preserves (fun s => P s.output) (signRawSection d) :=
  .bind (keepsOutput_modify fun _ => rfl).preserves fun _ => .bind keeps_get.preserves fun _ =>
    .bind (keepsOutput_fromExcept _).preserves fun _ =>
      .bind (keepsOutput_storeHash _ _).preserves fun _ => .bind keeps_get.preserves fun _ =>
        .bind (hsign _) fun _ => .bind keeps_get.preserves fun _ => (keeps_pure _).preserves

theorem preserves_signRaw (tx : ParserTx)
    (hsign : ∀ msg, Preserves (fun s => P s.output)
      (onOutput (cryptoSignEd25519 d (rawOffset + 1) ed25519SignatureSize msg))) :
    Preserves (fun s => P s.output) (signRaw d tx) :=
  .bind (keepsOutput_hashRawHeader d tx).preserves fun _ =>
    .bind (keepsOutput_cryptoAddTxnHashes tx).preserves fun _ => preserves_signRawSection d hsign

/-- The wrapper phase keeps what its signature keeps. -/
theorem preserves_signWrapper (tx : ParserTx)
    (hsign : ∀ msg, Preserves (fun s => P s.output)
      (onOutput (cryptoSignEd25519 d (wrapperOffset + 1) ed25519SignatureSize msg))) :
    Preserves (fun s => P s.output) (signWrapper d tx) :=
  .bind (keepsOutput_setFeeHeader d tx).preserves fun _ =>
    .bind keeps_get.preserves fun _ => .bind (keepsOutput_fromExcept _).preserves fun _ => hsign _

/-- The wrapper phase keeps on its error path what its signature keeps there. -/
theorem preservesOnError_signWrapper (tx : ParserTx)
    (hsign : ∀ msg, PreservesOnError (fun s => P s.output)
      (onOutput (cryptoSignEd25519 d (wrapperOffset + 1) ed25519SignatureSize msg))) :
    PreservesOnError (fun s => P s.output) (signWrapper d tx) :=
  .bind (keepsOutput_setFeeHeader d tx).preserves fun _ =>
    .bind keeps_get.preserves fun _ => .bind (keepsOutput_fromExcept _).preserves fun _ => hsign _

end Signing

/-! ## The caller's buffer keeps its length -/

/-- A step on the caller's buffer that only stores into it. -/
def StoresOnly (m : EStateM ZxErr Buffer Unit) : Prop :=
  ∀ out, (m out).state.bytes.length = out.bytes.length

/-- The buffer is `L` bytes long. -/
def LengthIs (L : Nat) (b : Buffer) : Prop := b.bytes.length = L

theorem StoresOnly.preserves {m : EStateM ZxErr Buffer Unit} (h : StoresOnly m) (L : Nat) :
    Preserves (fun s => LengthIs L s.output) (onOutput m) := fun s hs =>
  show LengthIs L (onOutput m s).state.output by rw [LengthIs, onOutput_state, h]; exact hs

theorem storesOnly_write (off : Nat) (bs : List UInt8) :
    StoresOnly fun out => .ok () (out.write off bs) := fun out => Buffer.length_write out off bs

theorem storesOnly_cryptoSignEd25519 (d : Device) (off n : Nat) (msg : List UInt8) :
    StoresOnly (cryptoSignEd25519 d off n msg) := fun out => by
  rcases cryptoSignEd25519_state d off n msg out with h | h | ⟨_, _, h⟩ <;> rw [h] <;> simp

theorem storesOnly_cryptoExtractPublicKeyEd25519 (d : Device) (off n : Nat) :
    StoresOnly (cryptoExtractPublicKeyEd25519 d off n) := fun out => by
  unfold cryptoExtractPublicKeyEd25519
  split
  · rfl
  · cases devicePublicKey d <;> simp

section Length

variable (d : Device) (tx : ParserTx) (L : Nat)

theorem preserves_length_signSetup (n : Nat) :
    Preserves (fun s => LengthIs L s.output) (signSetup d n) := by
  have hstores : Preserves (fun s => LengthIs L s.output) (do
      onOutput fun out => .ok () (out.write 0 (List.replicate n 0))
      onOutput (cryptoExtractPublicKeyEd25519 d 1 pkLen25519)) :=
    .bind ((storesOnly_write 0 _).preserves L) fun _ =>
      (storesOnly_cryptoExtractPublicKeyEd25519 d 1 _).preserves L
  unfold signSetup
  split
  · exact .bind (keeps_throw _).preserves fun _ => hstores
  · exact .bind (keeps_pure _).preserves fun _ => hstores

theorem preserves_length_writeIndices (r : UInt8) (ri : List UInt8) :
    Preserves (fun s => LengthIs L s.output) (writeIndices r ri) := fun s hs => by
  simpa [writeIndices, LengthIs] using hs

/-- No step changes the length of the caller's buffer. -/
theorem preserves_length_cryptoSign (n : Nat) :
    Preserves (fun s => LengthIs L s.output) (cryptoSign d tx n) :=
  .bind (preserves_length_signSetup d L n) fun _ =>
    .bind (preserves_signRaw d tx fun _ => (storesOnly_cryptoSignEd25519 d _ _ _).preserves L)
      fun r => .bind (keepsOutput_signSections d tx).preserves fun _ =>
        .bind (preserves_signWrapper d tx fun _ => (storesOnly_cryptoSignEd25519 d _ _ _).preserves L)
          fun _ => preserves_length_writeIndices L r.1 r.2

/-- A run leaves the caller's buffer as long as it was: every store into it is cut at its end,
and `reach` records how far it went. -/
theorem length_output_cryptoSignRun (output : List UInt8) :
    (cryptoSignRun d tx output).state.output.bytes.length = output.length :=
  preserves_length_cryptoSign d tx output.length output.length (SignState.init output) rfl

end Length

/-! ## Zero outside the key and the raw signature -/

/-- The bytes a failed run may leave: the public key at `output + 1` and the raw signature at
`raw + 1`. -/
def keyOrRawSig (i : Nat) : Prop :=
  (1 ≤ i ∧ i < 1 + pkLen25519) ∨ (rawOffset + 1 ≤ i ∧ i < rawOffset + 1 + ed25519SignatureSize)

instance : DecidablePred keyOrRawSig := fun _ => inferInstanceAs (Decidable (_ ∨ _))

/-- The buffer reads zero outside the public key and the raw signature. -/
def ZeroOutsideKeyAndRawSig (b : Buffer) : Prop := ∀ i, ¬ keyOrRawSig i → b.bytes.getD i 0 = 0

namespace ZeroOutsideKeyAndRawSig

variable {b : Buffer}

/-- A store of zeros keeps the buffer zero outside the key and the raw signature. -/
theorem write_zeros (h : ZeroOutsideKeyAndRawSig b) (off n : Nat) :
    ZeroOutsideKeyAndRawSig (b.write off (List.replicate n 0)) := by
  intro i hi
  rcases getD_overwrite_eq_or b.bytes off (List.replicate n 0) i with h' | ⟨-, -, h'⟩
  · rw [Buffer.write_bytes, h']; exact h i hi
  · rw [Buffer.write_bytes, h']; simp

/-- A store that stays within the key and the raw signature keeps the buffer zero outside them. -/
theorem write_inside (h : ZeroOutsideKeyAndRawSig b) {off : Nat} {bs : List UInt8}
    (hin : ∀ i, off ≤ i → i < off + bs.length → keyOrRawSig i) :
    ZeroOutsideKeyAndRawSig (b.write off bs) := by
  intro i hi
  rcases getD_overwrite_eq_or b.bytes off bs i with h' | ⟨hlo, hhi, -⟩
  · rw [Buffer.write_bytes, h']; exact h i hi
  · exact absurd (hin i hlo hhi) hi

end ZeroOutsideKeyAndRawSig

section Device

variable (d : Device)

/-- The size check and `MEMZERO` clear the whole buffer, and the public key, or the zeros that
replace it, go to `output[1, 33)`: on either path the buffer is zero outside the key. -/
theorem zeroOutside_signSetup {output : List UInt8} (hmin : minimumBufferSize ≤ output.length) :
    ZeroOutsideKeyAndRawSig (signSetup d output.length (SignState.init output)).state.output := by
  have hzero : ZeroOutsideKeyAndRawSig ((⟨output, 0⟩ : Buffer).write 0
      (List.replicate output.length 0)) := by
    rw [write_zero_eq_padded (by simp at hmin; omega)]
    intro i _
    simp [padded]
  have hpos : ¬ output.length < minimumBufferSize := Nat.not_lt.mpr hmin
  simp only [signSetup, hpos, if_false, SignState.init, estate_bind_apply, onOutput_apply,
    cryptoExtractPublicKeyEd25519, pkLen25519, lt_irrefl]
  cases hpk : devicePublicKey d with
  | none => exact hzero.write_zeros 1 32
  | some pk =>
    refine hzero.write_inside fun i hlo hhi => .inl ⟨hlo, ?_⟩
    rw [length_of_devicePublicKey hpk] at hhi
    exact hhi

/-- A signature into the key or the raw signature, or the zeros that replace it, keep the buffer
zero outside them. -/
theorem preserves_sign_inside {off : Nat} {msg : List UInt8}
    (hin : ∀ i, off ≤ i → i < off + ed25519SignatureSize → keyOrRawSig i) :
    Preserves (fun s => ZeroOutsideKeyAndRawSig s.output)
      (onOutput (cryptoSignEd25519 d off ed25519SignatureSize msg)) := by
  intro s hs
  rw [onOutput_state]
  rcases cryptoSignEd25519_state d off ed25519SignatureSize msg s.output with h | h | ⟨sig, hsig, h⟩
  · rw [h]; exact hs
  · rw [h]; exact hs.write_zeros _ _
  · rw [h]
    refine hs.write_inside fun i hlo hhi => hin i hlo ?_
    rwa [length_of_deviceSign hsig] at hhi

/-- A failed signing leaves only zeros, wherever it was to write. -/
theorem preservesOnError_sign (off : Nat) (msg : List UInt8) :
    PreservesOnError (fun s => ZeroOutsideKeyAndRawSig s.output)
      (onOutput (cryptoSignEd25519 d off ed25519SignatureSize msg)) := by
  intro s e s' hs he
  rcases cryptoSignEd25519_error (onOutput_error he) with h | h
  · rw [h]; exact hs
  · rw [h]; exact hs.write_zeros _ _

/-- After the size check, every failure leaves the buffer zero outside the key and the raw
signature: the two index lists, the only stores after the wrapper signature, never fail. -/
theorem preservesOnError_after_setup (tx : ParserTx) (r : UInt8 × List UInt8) :
    PreservesOnError (fun s => ZeroOutsideKeyAndRawSig s.output) (do
      signSections d tx
      signWrapper d tx
      writeIndices r.1 r.2) :=
  .bind (keepsOutput_signSections d tx).preserves fun _ =>
    (preservesOnError_signWrapper d tx fun _ => preservesOnError_sign d _ _).bind_of_ok
      fun _ _ => ⟨_, _, rfl⟩

end Device

/-! ## The contract -/

/-- A failed `crypto_sign`, on any device and for any transaction, over a buffer that passes the
size check, leaves it zero outside the public key `output[1, 33)` and the raw signature
`output[66, 130)`. -/
theorem cryptoSign_error_zero_outside_key_and_rawSig {d : Device} {tx : ParserTx}
    {output : List UInt8} {e : ZxErr} {s : SignState}
    (hmin : minimumBufferSize ≤ output.length) (h : cryptoSignRun d tx output = .error e s) :
    ∀ i, ¬ keyOrRawSig i → s.output.bytes.getD i 0 = 0 := by
  have h0 := zeroOutside_signSetup d hmin
  simp only [cryptoSignRun, cryptoSign, estate_run_apply] at h
  cases h1 : signSetup d output.length (SignState.init output) with
  | error e1 s1 => rw [estate_bind_error h1] at h; cases h; rwa [h1] at h0
  | ok _ s1 =>
    rw [estate_bind_ok h1] at h
    rw [h1] at h0
    exact PreservesOnError.bind
      (preserves_signRaw d tx fun _ => preserves_sign_inside d fun _ hlo hhi => .inr ⟨hlo, hhi⟩)
      (preservesOnError_after_setup d tx)
      s1 e s h0 h

/-- The run on `badSignerTx` over a buffer of `minimumBufferSize` bytes fails, and leaves the
buffer zero outside the key and the raw signature. -/
theorem badSignerTx_error_zero_outside :
    ∃ e s, minimumBufferSize ≤ (List.replicate minimumBufferSize (0 : UInt8)).length ∧
      cryptoSignRun sampleDevice badSignerTx (List.replicate minimumBufferSize 0) = .error e s ∧
      ∀ i, ¬ keyOrRawSig i → s.output.bytes.getD i 0 = 0 := by
  obtain ⟨-, -, s, -, -, hrun, -⟩ := cryptoSignRun_of_prior_error sampleDevice_reliable
    badSignerTx minimumBufferSize_le_replicate priorEntries_badSignerTx
  exact ⟨_, s, minimumBufferSize_le_replicate, hrun,
    cryptoSign_error_zero_outside_key_and_rawSig minimumBufferSize_le_replicate hrun⟩

/-- The run on `badSignerTx` fails after the raw signature, and the public key and the raw
signature stay in the buffer. -/
theorem badSignerTx_leaves_key_and_rawSig :
    ∃ e s, cryptoSignRun sampleDevice badSignerTx (List.replicate minimumBufferSize 0) =
      .error e s ∧ s.output.bytes.getD 1 0 = 7 ∧ s.output.bytes.getD 66 0 = 32 := by
  obtain ⟨pk, rs, s, hpk, hrs, hrun, hout⟩ := cryptoSignRun_of_prior_error sampleDevice_reliable
    badSignerTx minimumBufferSize_le_replicate priorEntries_badSignerTx
  have hpk' : pk = compressPoint (List.replicate 65 7) := (Option.some.inj hpk).symm
  have hrs' : rs = List.replicate 64 32 := (Option.some.inj hrs).symm
  subst hpk' hrs'
  exact ⟨_, s, hrun, by rw [hout]; decide, by rw [hout]; decide⟩

/-! ## What the buffer held before -/

section Stale

variable (d : Device) (tx : ParserTx)

/-- Past the size check the two runs clear buffers of one length to the same zeros, and the
size check passes for both. -/
theorem signSetup_congr {output output' : List UInt8} (hmin : minimumBufferSize ≤ output.length)
    (hlen : output.length = output'.length) :
    signSetup d output.length (SignState.init output) =
      signSetup d output'.length (SignState.init output') := by
  have hz : (⟨output, 0⟩ : Buffer).write 0 (List.replicate output.length 0) =
      (⟨output', 0⟩ : Buffer).write 0 (List.replicate output'.length 0) :=
    Buffer.write_zeros_congr hlen rfl
  simp only [signSetup, if_neg (Nat.not_lt.mpr hmin), if_neg (Nat.not_lt.mpr (hlen ▸ hmin)),
    estate_bind_apply, estate_pure_apply, onOutput_apply, SignState.init, hz]

/-- `crypto_sign` clears the caller's buffer before any other step: past the size check, its
result, its error and every byte it leaves in the buffer depend on the buffer only through its
length, never on what the buffer held. -/
theorem cryptoSignRun_eq_of_length {output output' : List UInt8}
    (hmin : minimumBufferSize ≤ output.length) (hlen : output.length = output'.length) :
    cryptoSignRun d tx output = cryptoSignRun d tx output' :=
  estate_bind_apply_congr (signSetup_congr d hmin hlen) _

end Stale

theorem staleOutput_unread :
    minimumBufferSize ≤ (List.replicate 240 (9 : UInt8)).length ∧
      (List.replicate 240 (9 : UInt8)).length = (List.replicate 240 (0 : UInt8)).length ∧
      cryptoSignRun sampleDevice sampleTx (List.replicate 240 9) =
        cryptoSignRun sampleDevice sampleTx (List.replicate 240 0) :=
  have hmin : minimumBufferSize ≤ (List.replicate 240 (9 : UInt8)).length := by
    rw [List.length_replicate]; decide
  have hlen : (List.replicate 240 (9 : UInt8)).length = (List.replicate 240 (0 : UInt8)).length :=
    by rw [List.length_replicate, List.length_replicate]
  ⟨hmin, hlen, cryptoSignRun_eq_of_length sampleDevice sampleTx hmin hlen⟩

end NamadaLedger
