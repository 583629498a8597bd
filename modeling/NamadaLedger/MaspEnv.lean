import NamadaLedger.Types

/-!
# The collaborators of the shielded (MASP) code

The MASP half of `crypto.c` calls code that is not among the sources: the parser's context
macros and readers (`parser_impl_common.h`), the builder walk and the device-held randomness
(`parser_impl_masp.h`, `nvdata.h`), the Jubjub and BLAKE2b primitives (`rslib.h`, `blake2.h`),
the spend-signature store and the host's transaction buffer (`tx.h`). This module gives each the
interface the modelled functions use:

* `ParserError` — the codes of `parser_error_t` the checks and primitives return;
* `MaspConfig` — the record sizes the checks step by, and the `APP_TESTING` build flag;
* `SaplingKeys` — `keys_t`;
* `MaspEnv` — the primitives, as total functions of their inputs, each fallible where the C
  function returns a status.

A primitive whose status the code ignores is read through `orZeros`: its output buffer keeps
the zeros it was initialised with when the primitive fails.
-/

namespace NamadaLedger

/-- The codes of `parser_error_t` that the MASP code returns or propagates; `parser_ok` is the
success side of `Except`. -/
inductive ParserError
  | unexpectedError
  | unexpectedBufferEnd
  | invalidNumberOfSpends
  | invalidNumberOfOutputs
  | invalidCv
  | invalidRk
  | noData
  | primitiveFailed
  deriving Repr, DecidableEq

/-- The three kinds of shielded description. -/
inductive DescKind
  | spend
  | output
  | convert
  deriving Repr, DecidableEq

/-- The sizes the checks step by and the `APP_TESTING` flag. They are set in headers that are not
among the sources, so they are parameters of the model. -/
structure MaspConfig where
  /-- `SHIELDED_SPENDS_LEN`, `SHIELDED_OUTPUTS_LEN`, `SHIELDED_CONVERTS_LEN`: the bundle's
  fixed record sizes. -/
  shieldedSpendsLen : Nat
  shieldedOutputsLen : Nat
  shieldedConvertsLen : Nat
  cvLen : Nat
  nullifierLen : Nat
  rkLen : Nat
  extendedFvkLen : Nat
  diversifierLen : Nat
  paymentAddrLen : Nat
  identifierLen : Nat
  tagLen : Nat
  assetIdLen : Nat
  int128Len : Nat
  /-- Built with `APP_TESTING`: `checkSpends` skips the `rk` comparison. -/
  appTesting : Bool
  deriving Repr, DecidableEq

/-- `keys_t`: the spending key and the keys `computeKeys` derives from it. -/
structure SaplingKeys where
  spendingKey : List UInt8
  ask : List UInt8
  nsk : List UInt8
  ovk : List UInt8
  dk : List UInt8
  ak : List UInt8
  nk : List UInt8
  ivk : List UInt8
  diversifier : List UInt8
  address : List UInt8
  diversifierStartIndex : List UInt8
  deriving Repr, DecidableEq, Inhabited

/-- `spend_item_t`: the blinding factor and the randomizer kept for a spend. -/
structure SpendItem where
  rcv : List UInt8
  alpha : List UInt8
  deriving Repr, DecidableEq

/-- The modifiers of `convertKey`. -/
inductive KeyModifier
  | ask
  | nsk
  | ovk
  | dk
  deriving Repr, DecidableEq

/-- The Jubjub generators the code multiplies by. -/
inductive Generator
  | spendingKey
  | proofGenerationKey
  deriving Repr, DecidableEq

/-- The collaborators of the MASP code. -/
structure MaspEnv where
  /-- Modelled from the spec: the device-held store of randomness, `{rcv, alpha}` for spends and
  `rcv` for outputs and converts, indexed by generation order
  (`*list_retrieve_rand_item(i)`). -/
  spendItem : Nat → SpendItem
  outputRcv : Nat → List UInt8
  convertRcv : Nat → List UInt8
  /-- Modelled from the spec: `getNext*Description(ctx, i)` places a builder context over
  `buffer` (of length `bufferLen`) at the start of its `i`-th description: the offset, given as
  `nextDescription kind buffer bufferLen i`. -/
  nextDescription : DescKind → List UInt8 → Nat → Nat → Except ParserError Nat
  /-- `computeValueCommitment(value, rcv, identifier, cv)`. -/
  computeValueCommitment : Nat → List UInt8 → List UInt8 → Except ParserError (List UInt8)
  /-- `computeRk(keys, alpha, rk)`. -/
  computeRk : SaplingKeys → List UInt8 → Except ParserError (List UInt8)
  /-- `os_derive_bip32_with_seed_no_throw(HDW_NORMAL, ...)`: the private key data. -/
  deriveSaplingSeed : Option (List UInt8)
  /-- `computeMasterFromSeed(seed, spendingKey)`. -/
  computeMasterFromSeed : List UInt8 → Except ParserError (List UInt8)
  /-- `convertKey(spendingKey, modifier, out, true)`. -/
  convertKey : List UInt8 → KeyModifier → Except ParserError (List UInt8)
  /-- `generate_key(key, generator, out)`. -/
  generateKey : List UInt8 → Generator → Except ParserError (List UInt8)
  /-- `computeIVK(ak, nk, ivk)`. -/
  computeIVK : List UInt8 → List UInt8 → Except ParserError (List UInt8)
  /-- `computeDiversifier(dk, start, diversifier)`. -/
  computeDiversifier : List UInt8 → List UInt8 → Except ParserError (List UInt8)
  /-- `computePkd(ivk, diversifier, address)`. -/
  computePkd : List UInt8 → List UInt8 → Except ParserError (List UInt8)
  /-- `signature_hash(txObj, sign_hash)`: the transaction's sighash. -/
  signatureHash : ParserTx → Except ParserError (List UInt8)
  /-- `randomized_secret_from_seed(ask, alpha, rsk)`. -/
  randomizedSecretFromSeed : List UInt8 → List UInt8 → Except ParserError (List UInt8)
  /-- `scalar_multiplication(scalar, generator, out)`. -/
  scalarMultiplication : List UInt8 → Generator → Except ParserError (List UInt8)
  /-- `cx_rng_no_throw(rng, RNG_LEN)` at its `n`-th call. -/
  rng : Nat → Except ParserError (List UInt8)
  /-- The BLAKE2b-512 of `h_star`, personalised with `SIGNING_REDJUBJUB`, over `a ‖ b`;
  `ASSERT_CX_OK` makes a failed step an error. -/
  blake2bRedJubjub : List UInt8 → List UInt8 → Except ParserError (List UInt8)
  /-- `from_bytes_wide(hash, out)`: a 64-byte hash reduced to a scalar. -/
  fromBytesWide : List UInt8 → Except ParserError (List UInt8)
  /-- `compute_sbar(s, r, rsk, sbar)`. -/
  computeSbar : List UInt8 → List UInt8 → List UInt8 → Except ParserError (List UInt8)

/-- `KEY_LENGTH`, `HASH_LEN` of the MASP code, `RNG_LEN` and the size of a spend signature. -/
@[simp] def keyLength : Nat := 32
@[simp] def rngLen : Nat := 64
@[simp] def spendSignatureSize : Nat := 64

/-- The output buffer of a primitive whose status is ignored: its result, or the `n` zeros it
was initialised with when it failed. -/
def orZeros (n : Nat) : Except ParserError (List UInt8) → List UInt8
  | .ok b => b
  | .error _ => List.replicate n 0

/-- `CHECK_PARSER_OK`: a parser error becomes `zxerr_unknown`. -/
def checkParserOk {α : Type} : Except ParserError α → Except ZxErr α
  | .ok a => .ok a
  | .error _ => .error .unknown

end NamadaLedger
