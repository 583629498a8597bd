import NamadaLedger.Monad

/-!
# The data the signing code reads

`crypto.c` consumes a transaction that an external parser has already split into typed sections
(`parser_tx_t` of `parser_txdef.h`, which is not among the sources). This module gives the parts
of that record the modelled functions read, under the C field paths, and the constants of the
device headers they use.

* the lengths of the response layout and of the two key kinds;
* `ZxErr`, the error half of `zxerr_t` (success is the `ok` side of `Except`/`EStateM`);
* `Section`, `Header`, `SignatureSection` — the plain sections, the header and the prior
  signature sections `crypto_sign` hashes;
* the MASP part: the builder's descriptions, the bundle's serialized descriptions and the
  output-index stream the three MASP checks compare.
-/

namespace NamadaLedger

/-! ## Constants

`MAX_SIGNATURE_HASHES` and `DISCRIMINANT_HEADER` are defined in `crypto.c`. The others come
from headers that are not among the sources; their values are those of the response layout of
the spec (a 1-byte tag and a 32-byte ed25519 key, a 32-byte salt, 64-byte ed25519 signatures) and
of the two key kinds (a compressed secp256k1 key is one byte longer than an ed25519 key, and its
signature one byte longer than an ed25519 signature). -/

@[simp] def hashLen : Nat := 32
@[simp] def cxSha256Size : Nat := 32
@[simp] def pkLen25519 : Nat := 32
@[simp] def pkLen25519PlusTag : Nat := 33
@[simp] def skLen25519 : Nat := 32
@[simp] def saltLen : Nat := 32
@[simp] def ed25519SignatureSize : Nat := 64
@[simp] def sigLen25519PlusTag : Nat := 65
@[simp] def compressedSecp256k1PkLen : Nat := 33
@[simp] def sigSecp256k1Len : Nat := 65
@[simp] def maxSignatureHashes : Nat := 10
@[simp] def discriminantHeader : UInt8 := 0x06

/-- `signing_key_type_e`: the 1-byte key-kind tags. `key_ed25519` is the zero byte: `crypto_sign`
never writes the tag bytes of its response, and relies on the zeroed buffer reading as
`key_ed25519` when it hashes its own signed section. -/
@[simp] def keyEd25519 : UInt8 := 0
@[simp] def keySecp256k1 : UInt8 := 1

/-- `signer_discriminant_e`, the byte that says how a signature section names its signer; the
values are those of the transaction's encoding of the signer (`Address` first). -/
@[simp] def signerAddress : UInt8 := 0
@[simp] def signerPubKeys : UInt8 := 1

/-- The error codes of `zxerr_t`. `zxerr_ok` is the success side of the result. -/
inductive ZxErr
  | unknown
  | noData
  | invalidCryptoSettings
  | bufferTooSmall
  | outOfBounds
  deriving Repr, DecidableEq

/-! ## Sections and the header -/

/-- A `bytes_t`: a pointer and a length. `ptr` is the memory the pointer reaches (the buffer
proper is its first `len` bytes; what follows is whatever lies after it). -/
structure Bytes where
  ptr : List UInt8
  len : Nat
  deriving Repr, DecidableEq, Inhabited

/-- The `bytes_t` of a list that is exactly the buffer. -/
def Bytes.ofList (l : List UInt8) : Bytes := ⟨l, l.length⟩

/-- A `section_t`: its index in the transaction and its content, which only the section
hashers of `crypto_helper` read. -/
structure Section where
  idx : UInt8
  bytes : List UInt8
  deriving Repr, DecidableEq

/-- `header_t`: the raw header bytes, the fee-header (extension) bytes and the optional memo. -/
structure Header where
  bytes : List UInt8
  extBytes : List UInt8
  memoSection : Option Section
  deriving Repr, DecidableEq

/-- `concatenated_hashes_t` as `crypto_hashSigSection` reads it: the hash bytes and their count. -/
structure ConcatenatedHashes where
  hashes : Bytes
  hashesLen : Nat
  deriving Repr, DecidableEq

/-- `signature_section_t`. The salt is not hashed by `crypto_hashSigSection` and is left out. -/
structure SignatureSection where
  idx : UInt8
  hashes : ConcatenatedHashes
  signerDiscriminant : UInt8
  pubKeysLen : Nat
  pubKeys : Bytes
  addressBytes : Bytes
  signaturesLen : Nat
  indexedSignatures : Bytes
  deriving Repr, DecidableEq

/-! ## Transaction types -/

/-- The proposal kinds `crypto_addTxnHashes` tells apart: only `DefaultWithWasm` carries code. -/
inductive ProposalType
  | defaultWithWasm
  | other
  deriving Repr, DecidableEq

/-- `typeTx` with the union member it selects. `other` stands for every transaction type without
extra hashed sections. A `*_sechash` is the memory its pointer reaches; the code copies
`HASH_LEN` bytes from it. -/
inductive TxType
  | initAccount (vpTypeSechash : List UInt8) (vpTypeSecidx : UInt8)
  | updateVP (vpTypeSechash : List UInt8) (vpTypeSecidx : UInt8)
  | initProposal (contentSechash : List UInt8) (contentSecidx : UInt8)
      (proposalType : ProposalType) (proposalCodeSechash : List UInt8) (proposalCodeSecidx : UInt8)
  | other
  deriving Repr, DecidableEq

/-! ## The shielded (MASP) part -/

/-- `sapling_builder`: the builder's descriptions, as an untrusted host supplies them. -/
structure SaplingBuilder where
  nSpends : Nat
  spends : Bytes
  nOutputs : Nat
  outputs : Bytes
  nConverts : Nat
  converts : Bytes
  deriving Repr, DecidableEq, Inhabited

/-- `maspBuilder.builder`. -/
structure Builder where
  saplingBuilder : SaplingBuilder
  deriving Repr, DecidableEq, Inhabited

/-- `maspBuilder.metadata`: the stream of `uint64_t` output indices. -/
structure MaspMetadata where
  nOutputsIndices : Nat
  outputsIndices : Bytes
  deriving Repr, DecidableEq, Inhabited

/-- `maspBuilder`. -/
structure MaspBuilder where
  builder : Builder
  metadata : MaspMetadata
  deriving Repr, DecidableEq, Inhabited

/-- `sapling_bundle`: the serialized shielded descriptions of the transaction. -/
structure SaplingBundle where
  nShieldedSpends : Nat
  shieldedSpends : Bytes
  nShieldedOutputs : Nat
  shieldedOutputs : Bytes
  nShieldedConverts : Nat
  shieldedConverts : Bytes
  deriving Repr, DecidableEq, Inhabited

/-- `maspTx.data`. -/
structure MaspTxData where
  saplingBundle : SaplingBundle
  deriving Repr, DecidableEq, Inhabited

/-- `maspTx`. -/
structure MaspTx where
  data : MaspTxData
  deriving Repr, DecidableEq, Inhabited

/-! ## The parsed transaction -/

/-- `transaction.sections`: code, data, the section count, the prior signature sections and the
shielded part. -/
structure Sections where
  code : Section
  data : Section
  sectionLen : Nat
  signatures : List SignatureSection
  maspTx : MaspTx
  maspBuilder : MaspBuilder
  deriving Repr, DecidableEq

/-- `transaction`. -/
structure Transaction where
  header : Header
  sections : Sections
  deriving Repr, DecidableEq

/-- `parser_tx_t`. -/
structure ParserTx where
  typeTx : TxType
  transaction : Transaction
  deriving Repr, DecidableEq

end NamadaLedger
