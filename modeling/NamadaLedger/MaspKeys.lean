import NamadaLedger.MaspSign

/-!
# Exporting the Sapling keys

`crypto_fillMASP` answers the host's request for the device's shielded keys. It clears the
buffer, has `crypto_generateSaplingKeys` derive the keys from the device seed and `copyKeys` copy
the requested ones into the buffer, `KEY_LENGTH` bytes each, and sets the response length by a
`switch` of its own on the kind.

* `KeyKind`, `copyKeys`, `cryptoGenerateSaplingKeys`, `cryptoFillMASP` — the code;
* `deviceSaplingKeys` — the keys of the device: the seed, the spending key computed from it and
  what `computeKeys` derives from that, the chain `crypto_sign_masp` runs as well;
* `KeyKind.keys`, `KeyKind.response` — what each kind exports, in order.

What a call does is said once per function (`copyKeys_some`, `cryptoGenerateSaplingKeys_of_le`,
`cryptoFillMASP_apply`), and from that:

* `cryptoFillMASP_ok_iff` — a call returns exactly when the device derives its keys, the kind is
  one of the three and the buffer holds both `3 * KEY_LENGTH` bytes and the response; it then
  answers the response's length, and the buffer holds the response followed by zeros;
* `cryptoFillMASP_error_zeros` — on every failing path the buffer holds only zeros: no key, and
  nothing the buffer held before, is left in it by a call that fails;
* `cryptoFillMASP_ne_outOfBounds` — `crypto_fillMASP` never returns `zxerr_out_of_bounds`: the
  `default` branch of its `switch` is dead, since `copyKeys` has already rejected the kind.
-/

namespace NamadaLedger

/-- `key_kind_e`: the keys the host can ask for. A value outside the enum, which the `default`
branches handle, is `none` of `Option KeyKind`. -/
inductive KeyKind
  | publicAddress
  | viewKeys
  | proofGenerationKey
  deriving Repr, DecidableEq

/-! ## The code -/

section Export

variable (env : MaspEnv)

/-- `copyKeys(saplingKeys, requestedKeys, output, outputLen)`: the requested keys, `KEY_LENGTH`
bytes each, into the output, or `zxerr_buffer_too_small` when it cannot hold them. -/
def copyKeys (keys : SaplingKeys) (requestedKeys : Option KeyKind) : EStateM ZxErr Buffer Unit :=
  fun output =>
    match requestedKeys with
    | some .publicAddress =>
      if output.bytes.length < keyLength then .error .bufferTooSmall output
      else .ok () (output.write 0 (readBytes keys.address 0 keyLength))
    | some .viewKeys =>
      if output.bytes.length < 4 * keyLength then .error .bufferTooSmall output
      else .ok () ((((output.write 0 (readBytes keys.ak 0 keyLength)).write keyLength
        (readBytes keys.nk 0 keyLength)).write (2 * keyLength) (readBytes keys.ovk 0 keyLength)).write
        (3 * keyLength) (readBytes keys.ivk 0 keyLength))
    | some .proofGenerationKey =>
      if output.bytes.length < 2 * keyLength then .error .bufferTooSmall output
      else .ok () ((output.write 0 (readBytes keys.ak 0 keyLength)).write keyLength
        (readBytes keys.nsk 0 keyLength))
    | none => .error .invalidCryptoSettings output

/-- `crypto_generateSaplingKeys(output, outputLen, requestedKey)`: a buffer of at least
`3 * KEY_LENGTH` bytes is cleared, the keys are derived from the device seed (`keys_t saplingKeys =
{0}` with the spending key of `computeMasterFromSeed`), and the requested ones copied out. -/
def cryptoGenerateSaplingKeys (requestedKey : Option KeyKind) : EStateM ZxErr Buffer Unit := do
  let output ← get
  if output.bytes.length < 3 * keyLength then throw .bufferTooSmall
  else
    modify fun output => output.write 0 (List.replicate output.bytes.length 0)
    let sk ← liftExcept (cryptoComputeSaplingSeed env)
    let spendingKey ← liftExcept (checkParserOk (env.computeMasterFromSeed sk))
    let keys ← liftExcept (computeKeys env { (default : SaplingKeys) with spendingKey })
    copyKeys keys requestedKey

/-- `crypto_fillMASP(buffer, bufferLen, cmdResponseLen, requestedKey)`: the buffer cleared, the
keys generated into it, and the response length of the requested kind, or
`zxerr_out_of_bounds` for a kind outside the enum. -/
def cryptoFillMASP (requestedKey : Option KeyKind) : EStateM ZxErr Buffer Nat := do
  modify fun buffer => buffer.write 0 (List.replicate buffer.bytes.length 0)
  cryptoGenerateSaplingKeys env requestedKey
  match requestedKey with
  | some .publicAddress => pure keyLength
  | some .viewKeys => pure (4 * keyLength)
  | some .proofGenerationKey => pure (2 * keyLength)
  | none => throw .outOfBounds

/-- The Sapling keys of the device: the seed of `crypto_computeSaplingSeed`, the spending key
`computeMasterFromSeed` computes from it, and the keys `computeKeys` derives from that, every
other field zero. `crypto_generateSaplingKeys` and `crypto_sign_masp` both run this chain. -/
def deviceSaplingKeys : Except ZxErr SaplingKeys := do
  let sk ← cryptoComputeSaplingSeed env
  let spendingKey ← checkParserOk (env.computeMasterFromSeed sk)
  computeKeys env { (default : SaplingKeys) with spendingKey }

end Export

/-! ## What each kind exports -/

/-- The keys of each kind, in the order `copyKeys` stores them. -/
def KeyKind.keys : KeyKind → SaplingKeys → List (List UInt8)
  | .publicAddress, keys => [keys.address]
  | .viewKeys, keys => [keys.ak, keys.nk, keys.ovk, keys.ivk]
  | .proofGenerationKey, keys => [keys.ak, keys.nsk]

/-- The response for a kind: the `KEY_LENGTH` bytes of each of its keys, back to back. -/
def KeyKind.response (k : KeyKind) (keys : SaplingKeys) : List UInt8 :=
  ((k.keys keys).map fun key => readBytes key 0 keyLength).flatten

theorem KeyKind.length_response (k : KeyKind) (keys : SaplingKeys) :
    (k.response keys).length = keyLength * (k.keys keys).length := by
  cases k <;> simp [KeyKind.response, KeyKind.keys]

/-! ## One function at a time -/

section Steps

variable (env : MaspEnv)

/-- `copyKeys` for a kind of the enum: the kind's response from the start of the output, when
the output holds it. -/
theorem copyKeys_some (keys : SaplingKeys) (k : KeyKind) (output : Buffer) :
    copyKeys keys (some k) output =
      if output.bytes.length < (k.response keys).length then .error .bufferTooSmall output
      else .ok () (output.write 0 (k.response keys)) := by
  rw [KeyKind.length_response]
  cases k with
  | publicAddress => simp [copyKeys, KeyKind.response, KeyKind.keys]
  | viewKeys =>
    simp only [copyKeys]
    rw [Buffer.write_write_of_eq _ (by simp), Buffer.write_write_of_eq _ (by simp),
      Buffer.write_write_of_eq _ (by simp)]
    simp [KeyKind.response, KeyKind.keys]
  | proofGenerationKey =>
    simp only [copyKeys]
    rw [Buffer.write_write_of_eq _ (by simp)]
    simp [KeyKind.response, KeyKind.keys]

theorem copyKeys_none (keys : SaplingKeys) (output : Buffer) :
    copyKeys keys none output = .error .invalidCryptoSettings output := rfl

theorem cryptoGenerateSaplingKeys_of_lt {kind : Option KeyKind} {output : Buffer}
    (h : output.bytes.length < 3 * keyLength) :
    cryptoGenerateSaplingKeys env kind output = .error .bufferTooSmall output := by
  simp only [cryptoGenerateSaplingKeys, estate_bind_apply, estate_get_apply, if_pos h]; rfl

/-- With `3 * KEY_LENGTH` bytes, `crypto_generateSaplingKeys` clears the output and copies the
device's keys into it, or fails with the derivation's error. -/
theorem cryptoGenerateSaplingKeys_of_le (kind : Option KeyKind) {output : Buffer}
    (h : 3 * keyLength ≤ output.bytes.length) :
    cryptoGenerateSaplingKeys env kind output =
      (liftExcept (deviceSaplingKeys env) >>= fun keys => copyKeys keys kind)
        (output.write 0 (List.replicate output.bytes.length 0)) := by
  simp only [cryptoGenerateSaplingKeys, deviceSaplingKeys, liftExcept_bind, bind_assoc]
  simp only [estate_bind_apply, estate_get_apply, if_neg (Nat.not_lt.mpr h), estate_modify_apply]

/-- `crypto_fillMASP` is the key generation over the cleared buffer, then its `switch`. -/
theorem cryptoFillMASP_apply (kind : Option KeyKind) (b : Buffer) :
    cryptoFillMASP env kind b =
      (cryptoGenerateSaplingKeys env kind >>= fun _ =>
        match kind with
        | some .publicAddress => pure keyLength
        | some .viewKeys => pure (4 * keyLength)
        | some .proofGenerationKey => pure (2 * keyLength)
        | none => throw .outOfBounds) (b.write 0 (List.replicate b.bytes.length 0)) := rfl

/-- The `switch` of `crypto_fillMASP` answers the length of the kind's response. -/
theorem fillMASP_switch (k : KeyKind) (keys : SaplingKeys) (s : Buffer) :
    (match some k with
      | some .publicAddress => pure keyLength
      | some .viewKeys => pure (4 * keyLength)
      | some .proofGenerationKey => pure (2 * keyLength)
      | none => throw .outOfBounds : EStateM ZxErr Buffer Nat) s =
      .ok (k.response keys).length s := by
  cases k <;> simp [KeyKind.length_response, KeyKind.keys]

/-- Everything `crypto_fillMASP` does, in terms of the device's keys: each path ends with the
cleared buffer, or with the response stored at its start. -/
theorem cryptoFillMASP_eq (kind : Option KeyKind) (b : Buffer) :
    cryptoFillMASP env kind b =
      let z := b.write 0 (List.replicate b.bytes.length 0)
      if b.bytes.length < 3 * keyLength then .error .bufferTooSmall z
      else match deviceSaplingKeys env, kind with
        | .error e, _ => .error e z
        | .ok _, none => .error .invalidCryptoSettings z
        | .ok keys, some k =>
          if b.bytes.length < (k.response keys).length then .error .bufferTooSmall z
          else .ok (k.response keys).length (z.write 0 (k.response keys)) := by
  have hz : (b.write 0 (List.replicate b.bytes.length 0)).bytes.length = b.bytes.length :=
    Buffer.length_write _ _ _
  rw [cryptoFillMASP_apply, estate_bind_apply]
  by_cases hlen : b.bytes.length < 3 * keyLength
  · rw [cryptoGenerateSaplingKeys_of_lt env (by rwa [hz]), if_pos hlen]
  rw [cryptoGenerateSaplingKeys_of_le env kind (by rw [hz]; omega), Buffer.write_zeros_idem,
    if_neg hlen]
  cases deviceSaplingKeys env with
  | error e => rfl
  | ok keys =>
    cases kind with
    | none => rfl
    | some k =>
      simp only [liftExcept, estate_bind_apply, copyKeys_some, hz]
      by_cases hfit : b.bytes.length < (k.response keys).length
      · simp only [if_pos hfit]
      · simp only [if_neg hfit]
        exact fillMASP_switch k keys _

end Steps

/-! ## What a call can do -/

section Results

variable (env : MaspEnv)

/-- Once the device derives its keys, a request for a kind of key, in a buffer that holds both
`3 * KEY_LENGTH` bytes and the kind's response, answers the response followed by zeros. -/
theorem cryptoFillMASP_of_keys {keys : SaplingKeys} (hkeys : deviceSaplingKeys env = .ok keys)
    (k : KeyKind) {b : Buffer} (h3 : 3 * keyLength ≤ b.bytes.length)
    (hfit : (k.response keys).length ≤ b.bytes.length) :
    ∃ b', cryptoFillMASP env (some k) b = .ok (k.response keys).length b' ∧
      b'.bytes = k.response keys ++ List.replicate (b.bytes.length - (k.response keys).length) 0 := by
  rw [cryptoFillMASP_eq]
  simp only [if_neg (Nat.not_lt.mpr h3), hkeys, if_neg (Nat.not_lt.mpr hfit)]
  refine ⟨_, rfl, ?_⟩
  rw [Buffer.write_bytes, Buffer.write_zeros_bytes, overwrite_replicate (by omega)]
  simp

/-- A call returns exactly when the device derives its keys, the kind is one of the enum's and
the buffer holds `3 * KEY_LENGTH` bytes and the kind's response: it then answers the response's
length, and the buffer holds the response followed by zeros. -/
theorem cryptoFillMASP_ok_iff (kind : Option KeyKind) (b : Buffer) (n : Nat)
    (bytes : List UInt8) :
    (∃ b', cryptoFillMASP env kind b = .ok n b' ∧ b'.bytes = bytes) ↔
      ∃ k keys, kind = some k ∧ deviceSaplingKeys env = .ok keys ∧
        3 * keyLength ≤ b.bytes.length ∧ (k.response keys).length ≤ b.bytes.length ∧
        n = (k.response keys).length ∧
        bytes = k.response keys ++ List.replicate (b.bytes.length - n) 0 := by
  constructor
  · rintro ⟨b', h, rfl⟩
    rw [cryptoFillMASP_eq] at h
    dsimp only at h
    split at h
    · cases h
    next hlen =>
    split at h
    · cases h
    · cases h
    next keys k hkeys =>
    split at h
    · cases h
    next hfit =>
    cases h
    refine ⟨k, keys, rfl, hkeys, by omega, by omega, rfl, ?_⟩
    rw [Buffer.write_bytes, Buffer.write_zeros_bytes, overwrite_replicate (by omega)]
    simp
  · rintro ⟨k, keys, rfl, hkeys, h3, hfit, rfl, rfl⟩
    exact cryptoFillMASP_of_keys env hkeys k h3 hfit

/-- On every failing path `crypto_fillMASP` leaves its buffer cleared: no key, and nothing the
buffer held before, is in it after a call that fails. -/
theorem cryptoFillMASP_error_zeros {kind : Option KeyKind} {b b' : Buffer} {e : ZxErr}
    (h : cryptoFillMASP env kind b = .error e b') :
    b'.bytes = List.replicate b.bytes.length 0 := by
  rw [cryptoFillMASP_eq] at h
  split at h
  · cases h; exact Buffer.write_zeros_bytes b
  · split at h
    · cases h; exact Buffer.write_zeros_bytes b
    · cases h; exact Buffer.write_zeros_bytes b
    · split at h
      · cases h; exact Buffer.write_zeros_bytes b
      · cases h

/-- Under `sampleMaspEnv` the view keys are derived, and a 100-byte buffer, which passes the
`3 * KEY_LENGTH` check, is too small for their 128 bytes: the call fails with the buffer
cleared. -/
theorem viewKeys_shortBuffer_cleared :
    cryptoFillMASP sampleMaspEnv (some .viewKeys) ⟨List.replicate 100 5, 0⟩ =
        .error .bufferTooSmall ⟨List.replicate 100 0, 100⟩ ∧
      (List.replicate 100 0 : List UInt8) =
        List.replicate (List.replicate 100 (5 : UInt8)).length 0 :=
  have h : cryptoFillMASP sampleMaspEnv (some .viewKeys) ⟨List.replicate 100 5, 0⟩ =
      .error .bufferTooSmall ⟨List.replicate 100 0, 100⟩ := by rfl
  ⟨h, cryptoFillMASP_error_zeros sampleMaspEnv h⟩

/-- Every error `x` can return is `zxerr_unknown`. -/
def OnlyUnknown {α : Type} (x : Except ZxErr α) : Prop := ∀ e, x = .error e → e = .unknown

theorem OnlyUnknown.bind {α β : Type} {x : Except ZxErr α} {f : α → Except ZxErr β}
    (hx : OnlyUnknown x) (hf : ∀ a, OnlyUnknown (f a)) : OnlyUnknown (x >>= f) := by
  intro e h
  cases x with
  | error e' => cases h; exact hx _ rfl
  | ok a => exact hf a e h

theorem onlyUnknown_checkParserOk {α : Type} (x : Except ParserError α) :
    OnlyUnknown (checkParserOk x) := by
  intro e h; cases x <;> cases h; rfl

/-- The derivation of the device's keys fails only with `zxerr_unknown`. -/
theorem onlyUnknown_deviceSaplingKeys : OnlyUnknown (deviceSaplingKeys env) := by
  have hseed : OnlyUnknown (cryptoComputeSaplingSeed env) := by
    intro e h; unfold cryptoComputeSaplingSeed at h; split at h <;> cases h; rfl
  refine hseed.bind fun _ => (onlyUnknown_checkParserOk _).bind fun _ => ?_
  unfold computeKeys
  repeat (refine (onlyUnknown_checkParserOk _).bind fun _ => ?_)
  intro e h; cases h

/-- `crypto_fillMASP` never returns `zxerr_out_of_bounds`: a kind outside the enum is rejected by
`copyKeys` with `zxerr_invalid_crypto_settings` (or the call fails earlier), so the `default`
branch of its own `switch` is never reached. -/
theorem cryptoFillMASP_ne_outOfBounds (kind : Option KeyKind) (b b' : Buffer) :
    cryptoFillMASP env kind b ≠ .error .outOfBounds b' := by
  intro h
  rw [cryptoFillMASP_eq] at h
  split at h
  · cases h
  · split at h
    · next e hkeys => cases h; cases onlyUnknown_deviceSaplingKeys env _ hkeys
    · cases h
    · split at h <;> cases h

end Results

end NamadaLedger
