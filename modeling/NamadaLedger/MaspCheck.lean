import NamadaLedger.MaspEnv

/-!
# The MASP checks

`crypto_check_masp` compares what an untrusted builder describes with the bundle the device is
asked to sign: for each spend, output and convert it recomputes the value commitment `cv` from
the builder's description and the device-held blinding factor, and compares it with the record
of the bundle; for spends it also compares the randomized key `rk`. This module models the three
loops and their driver as the code runs them:

* `ParserContext` and its readers `CTX_CHECK_AND_ADVANCE`, `readBytesSize`, `readUint64`,
  `readByte` (modelled from the spec: a read stays within the buffer or fails), each a program
  over one context; `readSpendNote` / `readOutputNote` / `readConvertNote` are the consecutive
  reads each loop makes from a builder description;
* `CheckState` — the builder, bundle and index-stream contexts of one check, and a log of what
  the check compared in the bundle and which device-held items it retrieved; `onCtx` runs a
  reader on one of the contexts;
* `checkSpend` / `checkOutput` / `checkConvert` — one iteration each, statement by statement;
* `checkSpends` / `checkOutputs` / `checkConverts` / `cryptoCheckMasp`.

The record offsets are computed as the code computes them: `SHIELDED_*_LEN * i` in 32-bit
arithmetic for a loop counter, and `SHIELDED_OUTPUTS_LEN * indice` in 64-bit arithmetic for an
index read from the stream. The convert loop does not reset the bundle context between
iterations; the spend and output loops do.
-/

namespace NamadaLedger

/-! ## Parser contexts and their readers -/

/-- `parser_context_t`: a buffer, its length and the read position. -/
structure ParserContext where
  buffer : List UInt8
  bufferLen : Nat
  offset : Nat
  deriving Repr, DecidableEq

/-- A context at the start of a `bytes_t`. -/
def ParserContext.ofBytes (b : Bytes) : ParserContext := ⟨b.ptr, b.len, 0⟩

/-- A reader over one parser context. -/
abbrev ParserM := EStateM ParserError ParserContext

/-- Modelled from the spec: `CTX_CHECK_AND_ADVANCE(ctx, n)` moves the read position `n` bytes
on, and fails with `parser_unexpected_buffer_end` when that would pass the end of the buffer. -/
def ctxCheckAndAdvance (n : Nat) : ParserM Unit := fun c =>
  if c.bufferLen < c.offset + n then .error .unexpectedBufferEnd c
  else .ok () { c with offset := c.offset + n }

/-- Modelled from the spec: `readBytesSize(ctx, out, n)` reads the next `n` bytes. -/
def readBytesSize (n : Nat) : ParserM (List UInt8) := do
  let c ← get
  ctxCheckAndAdvance n
  pure (readBytes c.buffer c.offset n)

/-- Modelled from the spec: `readUint64(ctx, &v)` reads the next 8 bytes, little-endian. -/
def readUint64 : ParserM Nat := do
  let bs ← readBytesSize 8
  pure (leValue bs)

/-- Modelled from the spec: `readByte(ctx, &b)` reads the next byte. -/
def readByte : ParserM UInt8 := do
  let bs ← readBytesSize 1
  pure (bs.getD 0 0)

/-- `ctx->offset = 0`. -/
def resetOffset : ParserM Unit := modify fun c => { c with offset := 0 }

/-- `getNext*Description(ctx, i)`: the context moves to the start of the builder's `i`-th
description of a kind. -/
def getNextDescription (env : MaspEnv) (kind : DescKind) (i : Nat) : ParserM Unit := fun c =>
  match env.nextDescription kind c.buffer c.bufferLen i with
  | .ok off => .ok () { c with offset := off }
  | .error e => .error e c

/-- The fields `checkSpends` reads from a spend description: past the extended full viewing key
and the diversifier, the asset identifier and the value. -/
def readSpendNote (cfg : MaspConfig) : ParserM (List UInt8 × Nat) := do
  ctxCheckAndAdvance (cfg.extendedFvkLen + cfg.diversifierLen)
  let identifier ← readBytesSize cfg.identifierLen
  let value ← readUint64
  pure (identifier, value)

/-- The fields `checkOutputs` reads from an output description: `has_ovk`, then past the `ovk`
when it is present, the diversifier and the payment address, the asset identifier and the
value. -/
def readOutputNote (cfg : MaspConfig) : ParserM (List UInt8 × Nat) := do
  let hasOvk ← readByte
  ctxCheckAndAdvance ((if hasOvk ≠ 0 then 32 else 0) + cfg.diversifierLen + cfg.paymentAddrLen)
  let identifier ← readBytesSize cfg.identifierLen
  let value ← readUint64
  pure (identifier, value)

/-- The fields `checkConverts` reads from a convert description: past the tag, the asset
identifier; then past the asset id, the 128-bit amount and a `uint64_t`, the value. -/
def readConvertNote (cfg : MaspConfig) : ParserM (List UInt8 × Nat) := do
  ctxCheckAndAdvance cfg.tagLen
  let identifier ← readBytesSize cfg.identifierLen
  ctxCheckAndAdvance (cfg.assetIdLen + cfg.int128Len + 8)
  let value ← readUint64
  pure (identifier, value)

/-! ## The state of a check -/

/-- What a check reads besides its contexts' cursors: a `MEMCMP` of `len` bytes at offset `off`
of the bundle buffer of a kind, or the device-held item `index` of a kind. -/
inductive Access
  | compare (kind : DescKind) (off len : Nat)
  | item (kind : DescKind) (index : Nat)
  deriving Repr, DecidableEq

/-- The three contexts of a check. -/
inductive Ctx
  | builder
  | bundle
  | indices
  deriving Repr, DecidableEq

/-- The memory of a check: its contexts, and what it has compared and retrieved so far. -/
structure CheckState where
  builder : ParserContext
  bundle : ParserContext
  indices : ParserContext
  log : List Access
  deriving Repr, DecidableEq

namespace CheckState

/-- The context `c`. -/
def ctx (s : CheckState) : Ctx → ParserContext
  | .builder => s.builder
  | .bundle => s.bundle
  | .indices => s.indices

/-- The state with the context `c` replaced. -/
def setCtx (s : CheckState) : Ctx → ParserContext → CheckState
  | .builder, p => { s with builder := p }
  | .bundle, p => { s with bundle := p }
  | .indices, p => { s with indices := p }

variable (s : CheckState) (p : ParserContext)

@[simp] theorem log_setCtx (c : Ctx) : (s.setCtx c p).log = s.log := by cases c <;> rfl

@[simp] theorem ctx_builder : s.ctx .builder = s.builder := rfl
@[simp] theorem ctx_bundle : s.ctx .bundle = s.bundle := rfl
@[simp] theorem ctx_indices : s.ctx .indices = s.indices := rfl

@[simp] theorem builder_setCtx_builder : (s.setCtx .builder p).builder = p := rfl
@[simp] theorem builder_setCtx_bundle : (s.setCtx .bundle p).builder = s.builder := rfl
@[simp] theorem builder_setCtx_indices : (s.setCtx .indices p).builder = s.builder := rfl
@[simp] theorem bundle_setCtx_builder : (s.setCtx .builder p).bundle = s.bundle := rfl
@[simp] theorem bundle_setCtx_bundle : (s.setCtx .bundle p).bundle = p := rfl
@[simp] theorem bundle_setCtx_indices : (s.setCtx .indices p).bundle = s.bundle := rfl
@[simp] theorem indices_setCtx_builder : (s.setCtx .builder p).indices = s.indices := rfl
@[simp] theorem indices_setCtx_bundle : (s.setCtx .bundle p).indices = s.indices := rfl
@[simp] theorem indices_setCtx_indices : (s.setCtx .indices p).indices = p := rfl

end CheckState

/-- A check: the state of its contexts and log, and the parser error that ends it. -/
abbrev CheckM := EStateM ParserError CheckState

/-- A reader run on the context `c` of a check; the others and the log are untouched. -/
def onCtx {α : Type} (c : Ctx) (m : ParserM α) : CheckM α := fun s =>
  match m (s.ctx c) with
  | .ok a p => .ok a (s.setCtx c p)
  | .error e p => .error e (s.setCtx c p)

/-- `if (MEMCMP(x, ctx->buffer + ctx->offset, n) != 0) return e;` on the bundle context, the
comparison recorded in the log. -/
def bundleCompare (kind : DescKind) (x : List UInt8) (n : Nat) (e : ParserError) :
    CheckM Unit := fun s =>
  let s' := { s with log := s.log ++ [.compare kind s.bundle.offset n] }
  if readBytes x 0 n = readBytes s.bundle.buffer s.bundle.offset n then .ok () s' else .error e s'

/-- `*list_retrieve_rand_item(i)`, recorded in the log. -/
def retrieveItem (kind : DescKind) (i : Nat) : CheckM Unit :=
  modify fun s => { s with log := s.log ++ [.item kind i] }

/-! ## The three loops -/

section Checks

variable (env : MaspEnv) (cfg : MaspConfig)

/-- One iteration of `checkSpends`: the commitment and the randomized key of spend `i` against
bundle record `i`. -/
def checkSpend (keys : SaplingKeys) (i : Nat) : CheckM Unit := do
  onCtx .builder (getNextDescription env .spend i)
  onCtx .bundle (ctxCheckAndAdvance (cfg.shieldedSpendsLen * i % 2 ^ 32))
  retrieveItem .spend i
  let item := env.spendItem i
  let note ← onCtx .builder (readSpendNote cfg)
  let cv ← liftExcept (env.computeValueCommitment note.2 item.rcv note.1)
  bundleCompare .spend cv cfg.cvLen .invalidCv
  let rk ← liftExcept (env.computeRk keys item.alpha)
  onCtx .bundle (ctxCheckAndAdvance (cfg.cvLen + cfg.nullifierLen))
  (if cfg.appTesting then pure () else bundleCompare .spend rk cfg.rkLen .invalidRk)
  onCtx .builder resetOffset
  onCtx .bundle resetOffset

/-- `checkSpends`: the builder's spend count against the bundle's, then each spend. -/
def checkSpends (tx : ParserTx) (keys : SaplingKeys) : CheckM Unit :=
  let builder := tx.transaction.sections.maspBuilder.builder.saplingBuilder
  let bundle := tx.transaction.sections.maspTx.data.saplingBundle
  if builder.nSpends ≠ bundle.nShieldedSpends then throw .invalidNumberOfSpends
  else forLoop (checkSpend env cfg keys) 0 builder.nSpends

/-- One iteration of `checkOutputs`: the next index `indice` of the stream locates the bundle
record and the blinding factor; the description is the builder's `i`-th. -/
def checkOutput (i : Nat) : CheckM Unit := do
  onCtx .builder (getNextDescription env .output i)
  let indice ← onCtx .indices readUint64
  onCtx .bundle (ctxCheckAndAdvance (cfg.shieldedOutputsLen * indice % 2 ^ 64))
  retrieveItem .output indice
  let note ← onCtx .builder (readOutputNote cfg)
  let cv ← liftExcept (env.computeValueCommitment note.2 (env.outputRcv indice) note.1)
  bundleCompare .output cv cfg.cvLen .invalidCv
  onCtx .builder resetOffset
  onCtx .bundle resetOffset

/-- `checkOutputs`: the builder's output count against the index count, then one iteration per
index. -/
def checkOutputs (tx : ParserTx) : CheckM Unit :=
  let builder := tx.transaction.sections.maspBuilder.builder.saplingBuilder
  let metadata := tx.transaction.sections.maspBuilder.metadata
  if builder.nOutputs ≠ metadata.nOutputsIndices then throw .invalidNumberOfOutputs
  else forLoop (checkOutput env cfg) 0 metadata.nOutputsIndices

/-- One iteration of `checkConverts`. Only the builder context is reset at its end. -/
def checkConvert (i : Nat) : CheckM Unit := do
  onCtx .builder (getNextDescription env .convert i)
  onCtx .bundle (ctxCheckAndAdvance (cfg.shieldedConvertsLen * i % 2 ^ 32))
  retrieveItem .convert i
  let note ← onCtx .builder (readConvertNote cfg)
  let cv ← liftExcept (env.computeValueCommitment note.2 (env.convertRcv i) note.1)
  bundleCompare .convert cv cfg.cvLen .invalidCv
  onCtx .builder resetOffset

/-- `checkConverts`: the builder's convert count against the bundle's, then each convert. -/
def checkConverts (tx : ParserTx) : CheckM Unit :=
  let builder := tx.transaction.sections.maspBuilder.builder.saplingBuilder
  let bundle := tx.transaction.sections.maspTx.data.saplingBundle
  if builder.nConverts ≠ bundle.nShieldedConverts then throw .invalidNumberOfOutputs
  else forLoop (checkConvert env cfg) 0 builder.nConverts

/-! ## `crypto_check_masp` -/

/-- A check over fresh contexts on `builder`, `bundle` and `indices`, continuing the log;
`CHECK_PARSER_OK` turns its error into `zxerr_unknown`. -/
def runCheck (builder bundle indices : Bytes) (m : CheckM Unit) :
    EStateM ZxErr (List Access) Unit := fun log =>
  match m ⟨.ofBytes builder, .ofBytes bundle, .ofBytes indices, log⟩ with
  | .ok _ s => .ok () s.log
  | .error _ s => .error .unknown s.log

/-- `crypto_check_masp(txObj, keys)`: spends, then outputs, then converts. -/
def cryptoCheckMasp (tx : ParserTx) (keys : SaplingKeys) : EStateM ZxErr (List Access) Unit := do
  let builder := tx.transaction.sections.maspBuilder.builder.saplingBuilder
  let bundle := tx.transaction.sections.maspTx.data.saplingBundle
  let metadata := tx.transaction.sections.maspBuilder.metadata
  runCheck builder.spends bundle.shieldedSpends ⟨[], 0⟩ (checkSpends env cfg tx keys)
  runCheck builder.outputs bundle.shieldedOutputs metadata.outputsIndices (checkOutputs env cfg tx)
  runCheck builder.converts bundle.shieldedConverts ⟨[], 0⟩ (checkConverts env cfg tx)

end Checks

end NamadaLedger
