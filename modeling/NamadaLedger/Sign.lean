import NamadaLedger.SigSection

/-!
# `crypto_sign`, as the code runs it

`crypto_sign` builds the response `tag ‖ pubkey | salt | tag ‖ raw signature | salt-sized gap |
tag ‖ wrapper signature | raw indices | final indices` in the caller's buffer. Between the two
signatures it accumulates section hashes in a local array `hashes_buffer` and their origin
indices in `indices_buffer`, with two counters: `section_hashes.hashesLen` and the copy
`signature_section.hashes.hashesLen` made when the raw signature section is set up.

The model is an `EStateM` program over `SignState`, the caller's buffer and the two local arrays,
so that what an early `CHECK_ZXERR` return leaves in the caller's buffer is part of the result.
It is split into the phases of the C function:

* `signSetup` — the size check, `MEMZERO` of the response and the public key;
* `signRaw` — the raw header hash, the type-specific hashes, the unsigned raw section and the raw
  signature; it returns the raw index list;
* `signSections` — the signed raw section, code, data, memo and the prior signature sections
  that pass the recognition loop (`priorAccepted`);
* `signWrapper` — the fee header over hash #0, the unsigned wrapper section and its signature;
* `writeIndices` — the two index lists after the wrapper signature.

No store checks its position against `MAX_SIGNATURE_HASHES`; the buffers record how far the
stores reached.
-/

namespace NamadaLedger

/-- The memory `crypto_sign` works on. -/
structure SignState where
  /-- The caller's `output` buffer. -/
  output : Buffer
  /-- `hashes_buffer[MAX_SIGNATURE_HASHES * HASH_LEN]`. -/
  hashesBuffer : Buffer
  /-- `indices_buffer[MAX_SIGNATURE_HASHES]`. -/
  indicesBuffer : Buffer
  /-- `section_hashes.hashesLen`. -/
  hashesLen : Nat
  /-- `signature_section.hashes.hashesLen`. -/
  sigHashesLen : Nat
  deriving Repr, DecidableEq

/-- The state on entry: the caller's buffer as it is, and the two zeroed local arrays. -/
def SignState.init (output : List UInt8) : SignState :=
  ⟨⟨output, 0⟩, Buffer.fresh (maxSignatureHashes * hashLen), Buffer.fresh maxSignatureHashes, 0, 0⟩

/-- A C function over `crypto_sign`'s memory: an error return keeps the memory as it was left. -/
abbrev SignM := EStateM ZxErr SignState

/-! ## Elementary steps -/

/-- Run a function on the caller's buffer. -/
def onOutput (m : EStateM ZxErr Buffer Unit) : SignM Unit := fun s =>
  match m s.output with
  | .ok a b => .ok a { s with output := b }
  | .error e b => .error e { s with output := b }

/-- Return a result or the error of a function that writes into no buffer it does not own. -/
def fromExcept {α : Type} (x : Except ZxErr α) : SignM α := fun s =>
  match x with
  | .ok a => .ok a s
  | .error e => .error e s

/-- `MEMCPY(hashes.ptr + slot * HASH_LEN, h, HASH_LEN)` (or the digest written there). -/
def storeHash (slot : Nat) (h : List UInt8) : SignM Unit := fun s =>
  .ok () { s with hashesBuffer := s.hashesBuffer.write (slot * hashLen) h }

/-- `indices.ptr[slot] = idx`. -/
def storeIndex (slot : Nat) (idx : UInt8) : SignM Unit := fun s =>
  .ok () { s with indicesBuffer := s.indicesBuffer.write slot [idx] }

/-- `section_hashes.hashesLen += n`, and the same on the copy once it exists. -/
def bumpHashesLen (n : Nat) (both : Bool) : SignM Unit := fun s =>
  .ok () { s with hashesLen := s.hashesLen + n,
                  sigHashesLen := if both then s.sigHashesLen + n else s.sigHashesLen }

/-- Append a hash and its origin to the raw accumulator (the step of `crypto_addTxnHashes`). -/
def appendRaw (h : List UInt8) (idx : UInt8) : SignM Unit := do
  let s ← get
  storeHash s.hashesLen (readBytes h 0 hashLen)
  storeIndex s.hashesLen idx
  bumpHashesLen 1 false

/-- `crypto_addTxnHashes`: the hashes of the sections the transaction type adds. -/
def cryptoAddTxnHashes (tx : ParserTx) : SignM Unit :=
  match tx.typeTx with
  | .initAccount h i => appendRaw h i
  | .updateVP h i => appendRaw h i
  | .initProposal ch ci pt pch pci => do
    appendRaw ch ci
    if pt = .defaultWithWasm then appendRaw pch pci
  | .other => pure ()

/-! ## The signature sections `crypto_sign` builds itself -/

/-- Offset of the raw signature's tag byte: after the tagged key and the salt. -/
@[simp] def rawOffset : Nat := pkLen25519PlusTag + saltLen

/-- Offset of the wrapper signature's tag byte: after the raw signature and a salt-sized gap. -/
@[simp] def wrapperOffset : Nat := rawOffset + saltLen + sigLen25519PlusTag

/-- Offset of the index lists: after the wrapper signature. -/
@[simp] def indicesOffset : Nat := wrapperOffset + sigLen25519PlusTag

/-- `signature_section` over the current memory: signer `PubKeys` pointing at the response's
tagged key, hashes `hashes_buffer` with the copied count, and the given key and signature counts.
`indexedSignatures` is `{NULL, 0}` until the raw signature is affixed, and from then on the byte
before the raw signature (the last salt byte) with the tagged signature. -/
def ownSection (s : SignState) (pubKeysLen signaturesLen : Nat) (affixed : Bool) :
    SignatureSection where
  idx := 0
  hashes := ⟨⟨s.hashesBuffer.bytes, maxSignatureHashes * hashLen⟩, s.sigHashesLen⟩
  signerDiscriminant := signerPubKeys
  pubKeysLen := pubKeysLen
  pubKeys := ⟨s.output.bytes, pkLen25519PlusTag⟩
  addressBytes := ⟨[], 0⟩
  signaturesLen := signaturesLen
  indexedSignatures :=
    if affixed then ⟨s.output.bytes.drop (rawOffset - 1), 1 + sigLen25519PlusTag⟩ else ⟨[], 0⟩

/-! ## The phases -/

/-- `minimumBufferSize`: the fixed blocks, the two count bytes and ten index bytes. -/
@[simp] def minimumBufferSize : Nat :=
  pkLen25519PlusTag + 2 * saltLen + 2 * sigLen25519PlusTag + 2 + 10

/-- The size check, `MEMZERO(output, outputLen)` and the public key at `output + 1`. -/
def signSetup (d : Device) (outputLen : Nat) : SignM Unit := do
  if outputLen < minimumBufferSize then throw .unknown
  onOutput fun out => .ok () (out.write 0 (List.replicate outputLen 0))
  onOutput (cryptoExtractPublicKeyEd25519 d 1 pkLen25519)

/-- The raw header hash as hash #0, with the sentinel origin `255`; the count starts at one. -/
def hashRawHeader (d : Device) (tx : ParserTx) : SignM Unit := do
  storeIndex 0 255
  let h ← fromExcept (cryptoHashRawHeader d tx.transaction.header hashLen)
  storeHash 0 h
  modify fun s => { s with hashesLen := 1 }

/-- `signature_section.hashes = section_hashes` (the count is copied), the unsigned raw section's
digest parked after the last hash, and the raw signature over it. Returns `raw_indices_len` and
`raw_indices_buffer`. -/
def signRawSection (d : Device) : SignM (UInt8 × List UInt8) := do
  modify fun s => { s with sigHashesLen := s.hashesLen }
  let s ← get
  let h ← fromExcept (cryptoHashSigSection d (ownSection s 0 0 false) none hashLen)
  storeHash s.hashesLen h
  let s ← get
  onOutput (cryptoSignEd25519 d (rawOffset + 1) ed25519SignatureSize
    (s.hashesBuffer.read (s.hashesLen * hashLen) hashLen))
  let s ← get
  let rawIndicesLen : UInt8 := UInt8.ofNat s.hashesLen
  pure (rawIndicesLen, s.indicesBuffer.read 0 rawIndicesLen.toNat)

/-- From the raw header hash to the raw signature. -/
def signRaw (d : Device) (tx : ParserTx) : SignM (UInt8 × List UInt8) := do
  hashRawHeader d tx
  cryptoAddTxnHashes tx
  signRawSection d

/-- The comparison of the recognition loop, `memcmp(prev_sig->hashes.hashes.ptr,
signature_section.hashes.hashes.ptr, HASH_LEN)`, at iteration `(j, k)`: neither pointer is
offset by `j` or `k`. -/
def loopCompare (prev : SignatureSection) (buf : List UInt8) (_j _k : Nat) : Bool :=
  readBytes prev.hashes.hashes.ptr 0 hashLen == readBytes buf 0 hashLen

/-- The `k` loop from `k` with `r` iterations left: the `k` it breaks at, or where it ends. -/
def kLoop (prev : SignatureSection) (buf : List UInt8) (j : Nat) : Nat → Nat → Nat
  | k, 0 => k
  | k, r + 1 => if loopCompare prev buf j k then k else kLoop prev buf j (k + 1) r

/-- The `j` loop from `j` with `r` iterations left, over an accumulator of `n` hashes: it breaks
when the `k` loop runs to its end. -/
def jLoop (prev : SignatureSection) (buf : List UInt8) (n : Nat) : Nat → Nat → Nat
  | j, 0 => j
  | j, r + 1 => if kLoop prev buf j 0 n = n then j else jLoop prev buf n (j + 1) r

/-- The recognition loop accepts `prev` when the `j` loop runs to its end. -/
def priorAccepted (prev : SignatureSection) (s : SignState) : Bool :=
  jLoop prev s.hashesBuffer.bytes s.sigHashesLen 0 prev.hashes.hashesLen == prev.hashes.hashesLen

/-- One prior signature section: skipped unless accepted; otherwise its `0x03`-prefixed digest and
its index are appended. -/
def signPrior (d : Device) (prev : SignatureSection) : SignM Unit := do
  let s ← get
  if priorAccepted prev s then
    let h ← fromExcept (cryptoHashSigSection d prev (some [0x03]) hashLen)
    storeHash s.hashesLen h
    storeIndex s.hashesLen prev.idx
    bumpHashesLen 1 true

/-- The loop over `sections.signatures`. -/
def signPriors (d : Device) : List SignatureSection → SignM Unit
  | [] => pure ()
  | prev :: rest => do signPrior d prev; signPriors d rest

/-- The raw section signed: its `0x03`-prefixed digest over the parked one, with the origin
`sectionLen + 1`. -/
def addSignedRaw (d : Device) (tx : ParserTx) : SignM Unit := do
  let s ← get
  let h ← fromExcept (cryptoHashSigSection d (ownSection s 1 1 true) (some [0x03]) hashLen)
  storeHash s.hashesLen h
  storeIndex s.hashesLen (UInt8.ofNat (tx.transaction.sections.sectionLen + 1 + 0))
  bumpHashesLen 1 true

/-- Code and data: the indices are stored before the hashes are computed. -/
def addCodeData (d : Device) (tx : ParserTx) : SignM Unit := do
  let s ← get
  let code := tx.transaction.sections.code
  let data := tx.transaction.sections.data
  storeIndex s.hashesLen code.idx
  storeIndex (s.hashesLen + 1) data.idx
  let h ← fromExcept (d.hashSection .code code)
  storeHash s.hashesLen h
  let h ← fromExcept (d.hashSection .data data)
  storeHash (s.hashesLen + 1) h
  bumpHashesLen 2 true

/-- The memo section, when the header has one. -/
def addMemo (d : Device) (tx : ParserTx) : SignM Unit :=
  match tx.transaction.header.memoSection with
  | some memo => do
    let s ← get
    storeIndex s.hashesLen memo.idx
    let h ← fromExcept (d.hashSection .extraData memo)
    storeHash s.hashesLen h
    bumpHashesLen 1 true
  | none => pure ()

/-- From the signed raw section to the last accepted prior section. -/
def signSections (d : Device) (tx : ParserTx) : SignM Unit := do
  addSignedRaw d tx
  addCodeData d tx
  addMemo d tx
  signPriors d tx.transaction.sections.signatures

/-- The fee header hash over hash #0, with origin `0`. -/
def setFeeHeader (d : Device) (tx : ParserTx) : SignM Unit := do
  let h ← fromExcept (cryptoHashFeeHeader d tx.transaction.header hashLen)
  storeHash 0 h
  storeIndex 0 0

/-- The unsigned wrapper section and the wrapper signature over its digest. -/
def signWrapperSection (d : Device) : SignM Unit := do
  let s ← get
  let h ← fromExcept (cryptoHashSigSection d (ownSection s 0 0 true) none hashLen)
  onOutput (cryptoSignEd25519 d (wrapperOffset + 1) ed25519SignatureSize h)

/-- The fee header over hash #0, the unsigned wrapper section and the wrapper signature. -/
def signWrapper (d : Device) (tx : ParserTx) : SignM Unit := do
  setFeeHeader d tx
  signWrapperSection d

/-- The count and the bytes of the raw index list, then those of the final one. -/
def writeIndices (rawIndicesLen : UInt8) (rawIndices : List UInt8) : SignM Unit := fun s =>
  let at0 := indicesOffset
  let at1 := at0 + 1 + rawIndicesLen.toNat
  .ok () { s with output :=
    (((s.output.write at0 [rawIndicesLen]).write (at0 + 1) rawIndices).write at1
      [UInt8.ofNat s.hashesLen]).write (at1 + 1) (s.indicesBuffer.read 0 s.hashesLen) }

/-- `crypto_sign(txObj, output, outputLen)`. -/
def cryptoSign (d : Device) (tx : ParserTx) (outputLen : Nat) : SignM Unit := do
  signSetup d outputLen
  let (rawIndicesLen, rawIndices) ← signRaw d tx
  signSections d tx
  signWrapper d tx
  writeIndices rawIndicesLen rawIndices

/-- `crypto_sign` on a caller's buffer: its length is `outputLen`. -/
def cryptoSignRun (d : Device) (tx : ParserTx) (output : List UInt8) :
    EStateM.Result ZxErr SignState Unit :=
  (cryptoSign d tx output.length).run (SignState.init output)

end NamadaLedger
