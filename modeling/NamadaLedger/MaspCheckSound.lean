import NamadaLedger.MaspDevice


/-!
# What a passing check certifies

`crypto_check_masp` is what stands between an untrusted builder and the spend signatures: the
device signs only a transaction it accepts. This module says what an acceptance means,
description by description, and proves that the code's check is exactly that statement when the
app is not built with `APP_TESTING`:

* `OutputMatches` / `ConvertMatches`, beside `SpendMatches`: description `i` is found and read,
  and the bundle record the iteration looks up carries its value commitment. An output's record
  is the one the `i`-th index of the stream names (`outputIndex`); a convert's lies at
  `convertEnd`, the running sum of the convert loop's moves;
* `BundleMatches` — the counts the code compares agree, and every description matches. The
  bundle's output count is not among them: the code never reads it;
* the readers keep their context's buffer (`keeps_*`), so an inversion names the builder
  context a note read leaves (`exists_offset_of_keeps`);
* `checkSpend_eq_ok` / `checkOutput_eq_ok` / `checkConvert_matches` — one inversion lemma per
  iteration; `checkConvert_ok` — the forward lemma of a convert iteration;
* `forLoop_*` — by induction on the count, each loop returns exactly when every one of its
  descriptions matches;
* `cryptoCheckMasp_iff_bundleMatches`; across calls, `deviceRun_bundleMatches`: every spend
  signature the device hands out signs the sighash of a transaction whose builder matches its
  bundle, and `deviceRun_rkInBundle`: the randomizer it was made with gives the randomized key
  the bundle holds for its spend, so the signature is bound to that spend's record.
-/

namespace NamadaLedger

/-! ## What a pass means -/

section Matches

variable (env : MaspEnv) (cfg : MaspConfig)

/-- The index the `i`-th output iteration reads from the stream `indices`: its `i`-th
little-endian `uint64_t`, since the stream's context is never reset. -/
def outputIndex (indices : List UInt8) (i : Nat) : Nat := leValue (readBytes indices (8 * i) 8)

/-- Output `i` of a transaction whose builder outputs are `buf` (of length `len`), whose index
stream is `indices` and whose bundle outputs are `bundle` is honest: its description is found
and read, its index is in the stream, and the bundle record that index names carries the value
commitment of the description under the blinding factor of that index. -/
def OutputMatches (buf : List UInt8) (len : Nat) (indices : List UInt8) (indicesLen : Nat)
    (bundle : List UInt8) (bundleLen i : Nat) : Prop :=
  ∃ off e cv, ∃ note : List UInt8 × Nat,
    env.nextDescription .output buf len i = .ok off ∧
    8 * i + 8 ≤ indicesLen ∧
    readOutputNote cfg ⟨buf, len, off⟩ = .ok note ⟨buf, len, e⟩ ∧
    cfg.shieldedOutputsLen * outputIndex indices i % 2 ^ 64 ≤ bundleLen ∧
    env.computeValueCommitment note.2 (env.outputRcv (outputIndex indices i)) note.1 = .ok cv ∧
    readBytes cv 0 cfg.cvLen =
      readBytes bundle (cfg.shieldedOutputsLen * outputIndex indices i % 2 ^ 64) cfg.cvLen

/-- Convert `j` is honest: its description is found and read, and the bundle holds its value
commitment where the convert loop reaches on its `j`-th iteration, `convertEnd cfg 0 0 (j + 1)`. -/
def ConvertMatches (buf : List UInt8) (len : Nat) (bundle : List UInt8) (bundleLen j : Nat) :
    Prop :=
  ∃ off e cv, ∃ note : List UInt8 × Nat,
    env.nextDescription .convert buf len j = .ok off ∧
    readConvertNote cfg ⟨buf, len, off⟩ = .ok note ⟨buf, len, e⟩ ∧
    convertEnd cfg 0 0 (j + 1) ≤ bundleLen ∧
    env.computeValueCommitment note.2 (env.convertRcv j) note.1 = .ok cv ∧
    readBytes cv 0 cfg.cvLen = readBytes bundle (convertEnd cfg 0 0 (j + 1)) cfg.cvLen

/-- What `crypto_check_masp` certifies of a builder, its output indices and a bundle: the
counts it compares agree, and each spend, output and convert it walks matches. -/
structure BundleMatches (keys : SaplingKeys) (builder : SaplingBuilder) (metadata : MaspMetadata)
    (bundle : SaplingBundle) : Prop where
  spends_count : builder.nSpends = bundle.nShieldedSpends
  spends : ∀ j < builder.nSpends, SpendMatches env cfg keys builder.spends.ptr builder.spends.len
    bundle.shieldedSpends.ptr bundle.shieldedSpends.len j
  outputs_count : builder.nOutputs = metadata.nOutputsIndices
  outputs : ∀ i < metadata.nOutputsIndices, OutputMatches env cfg builder.outputs.ptr
    builder.outputs.len metadata.outputsIndices.ptr metadata.outputsIndices.len
    bundle.shieldedOutputs.ptr bundle.shieldedOutputs.len i
  converts_count : builder.nConverts = bundle.nShieldedConverts
  converts : ∀ j < builder.nConverts, ConvertMatches env cfg builder.converts.ptr
    builder.converts.len bundle.shieldedConverts.ptr bundle.shieldedConverts.len j

end Matches

/-! ## Readers keep their buffer -/

section Buffers

/-- The buffer of a context and its length: what no reader changes. -/
def ParserContext.contents (c : ParserContext) : List UInt8 × Nat := (c.buffer, c.bufferLen)

theorem keeps_ctxCheckAndAdvance (n : Nat) : Keeps ParserContext.contents (ctxCheckAndAdvance n) :=
  fun c => by unfold ctxCheckAndAdvance; split <;> rfl

theorem keeps_readBytesSize (n : Nat) : Keeps ParserContext.contents (readBytesSize n) :=
  keeps_get.bind fun _ => (keeps_ctxCheckAndAdvance n).bind fun _ => keeps_pure _

theorem keeps_readUint64 : Keeps ParserContext.contents readUint64 :=
  (keeps_readBytesSize 8).bind fun _ => keeps_pure _

theorem keeps_readByte : Keeps ParserContext.contents readByte :=
  (keeps_readBytesSize 1).bind fun _ => keeps_pure _

variable (cfg : MaspConfig)

theorem keeps_readSpendNote : Keeps ParserContext.contents (readSpendNote cfg) :=
  (keeps_ctxCheckAndAdvance _).bind fun _ => (keeps_readBytesSize _).bind fun _ =>
    keeps_readUint64.bind fun _ => keeps_pure _

theorem keeps_readOutputNote : Keeps ParserContext.contents (readOutputNote cfg) :=
  keeps_readByte.bind fun _ => (keeps_ctxCheckAndAdvance _).bind fun _ =>
    (keeps_readBytesSize _).bind fun _ => keeps_readUint64.bind fun _ => keeps_pure _

theorem keeps_readConvertNote : Keeps ParserContext.contents (readConvertNote cfg) :=
  (keeps_ctxCheckAndAdvance _).bind fun _ => (keeps_readBytesSize _).bind fun _ =>
    (keeps_ctxCheckAndAdvance _).bind fun _ => keeps_readUint64.bind fun _ => keeps_pure _

/-- A reader that keeps the contents and returns leaves a context over the same buffer. -/
theorem exists_offset_of_keeps {α : Type} {m : ParserM α} (hm : Keeps ParserContext.contents m)
    {buf : List UInt8} {len o : Nat} {a : α} {c' : ParserContext}
    (h : m ⟨buf, len, o⟩ = .ok a c') : ∃ e, c' = ⟨buf, len, e⟩ := by
  have hc := hm ⟨buf, len, o⟩
  rw [h] at hc
  cases c'; cases hc; exact ⟨_, rfl⟩

end Buffers

/-! ## Inverting the steps -/

section Inversion

variable {c c' : ParserContext} {n : Nat}

theorem readBytesSize_eq_ok {bs : List UInt8} (h : readBytesSize n c = .ok bs c') :
    c.offset + n ≤ c.bufferLen ∧ bs = readBytes c.buffer c.offset n ∧
      c' = { c with offset := c.offset + n } := by
  obtain ⟨_, _, h1, h⟩ := estate_bind_eq_ok h
  cases h1
  obtain ⟨_, _, h2, h⟩ := estate_bind_eq_ok h
  obtain ⟨hle, rfl⟩ := ctxCheckAndAdvance_eq_ok h2
  cases h
  exact ⟨hle, rfl, rfl⟩

theorem readUint64_eq_ok {v : Nat} (h : readUint64 c = .ok v c') :
    c.offset + 8 ≤ c.bufferLen ∧ v = leValue (readBytes c.buffer c.offset 8) ∧
      c' = { c with offset := c.offset + 8 } := by
  obtain ⟨_, _, h1, h2⟩ := estate_bind_eq_ok h
  obtain ⟨hle, rfl, rfl⟩ := readBytesSize_eq_ok h1
  injection h2 with hv hc
  exact ⟨hle, hv.symm, hc.symm⟩

theorem getNextDescription_eq_ok {env : MaspEnv} {kind : DescKind} {i : Nat} {u : Unit}
    (h : getNextDescription env kind i c = .ok u c') :
    ∃ off, env.nextDescription kind c.buffer c.bufferLen i = .ok off ∧
      c' = { c with offset := off } := by
  unfold getNextDescription at h
  split at h
  · cases h; exact ⟨_, ‹_›, rfl⟩
  · cases h

variable {α β : Type} {s s'' : CheckState} {b : β}

theorem onCtx_bind_eq_ok {ctx : Ctx} {m : ParserM α} {k : α → CheckM β}
    (h : (onCtx ctx m >>= k) s = .ok b s'') :
    ∃ a p, m (s.ctx ctx) = .ok a p ∧ k a (s.setCtx ctx p) = .ok b s'' := by
  obtain ⟨a, _, h1, h⟩ := estate_bind_eq_ok h
  obtain ⟨p, hm, rfl⟩ := onCtx_eq_ok h1
  exact ⟨a, p, hm, h⟩

theorem liftExcept_bind_eq_ok {x : Except ParserError α} {k : α → CheckM β}
    (h : (liftExcept x >>= k) s = .ok b s'') : ∃ a, x = .ok a ∧ k a s = .ok b s'' := by
  obtain ⟨a, _, h1, h2⟩ := estate_bind_eq_ok h
  obtain ⟨hx, rfl⟩ := liftExcept_eq_ok h1
  exact ⟨a, hx, h2⟩

/-- A comparison that returns found the bytes equal. -/
theorem bundleCompare_matches {kind : DescKind} {x : List UInt8} {e : ParserError} {u : Unit}
    (h : bundleCompare kind x n e s = .ok u s'') :
    readBytes x 0 n = readBytes s.bundle.buffer s.bundle.offset n ∧
      s'' = { s with log := s.log ++ [.compare kind s.bundle.offset n] } := by
  unfold bundleCompare at h
  split at h
  · cases h; exact ⟨‹_›, rfl⟩
  · cases h

/-- The guard in front of each loop: the two counts agree. -/
theorem eq_ok_of_count_guard {a a' : Nat} {e : ParserError} {m : CheckM Unit} {u : Unit}
    (h : (if a ≠ a' then throw e else m) s = .ok u s'') : a = a' ∧ m s = .ok u s'' := by
  by_cases ha : a = a'
  · rw [if_neg (not_not.mpr ha)] at h; exact ⟨ha, h⟩
  · rw [if_pos ha] at h; exact absurd h estate_throw_ne_ok

end Inversion

/-! ## One iteration -/

section Iterations

variable (env : MaspEnv) (cfg : MaspConfig) (keys : SaplingKeys) {i o : Nat}
  {buf bundle : List UInt8} {len bundleLen : Nat} {idx : ParserContext} {log : List Access}
  {s' : CheckState}

/-- A spend iteration that returns, started with the bundle context at its start, found spend
`i` honest; it leaves both contexts reset. -/
theorem checkSpend_eq_ok (happ : cfg.appTesting = false)
    (h : checkSpend env cfg keys i ⟨⟨buf, len, o⟩, ⟨bundle, bundleLen, 0⟩, idx, log⟩ = .ok () s') :
    SpendMatches env cfg keys buf len bundle bundleLen i ∧
      ∃ log', s' = ⟨⟨buf, len, 0⟩, ⟨bundle, bundleLen, 0⟩, idx, log'⟩ := by
  obtain ⟨_, _, hp, h⟩ := onCtx_bind_eq_ok h
  obtain ⟨off, hdesc, rfl⟩ := getNextDescription_eq_ok hp
  obtain ⟨_, _, hp, h⟩ := onCtx_bind_eq_ok h
  obtain ⟨-, rfl⟩ := ctxCheckAndAdvance_eq_ok hp
  rw [estate_bind_ok (retrieveItem_apply _ _ _)] at h
  obtain ⟨note, _, hnote, h⟩ := onCtx_bind_eq_ok h
  obtain ⟨e, rfl⟩ := exists_offset_of_keeps (keeps_readSpendNote cfg) hnote
  obtain ⟨cv, hcv, h⟩ := liftExcept_bind_eq_ok h
  obtain ⟨_, _, h1, h⟩ := estate_bind_eq_ok h
  obtain ⟨hcmp, rfl⟩ := bundleCompare_matches h1
  obtain ⟨rk, hrk, h⟩ := liftExcept_bind_eq_ok h
  obtain ⟨_, _, hp, h⟩ := onCtx_bind_eq_ok h
  obtain ⟨hrec, rfl⟩ := ctxCheckAndAdvance_eq_ok hp
  obtain ⟨_, _, h1, h⟩ := estate_bind_eq_ok h
  rw [happ, if_neg Bool.false_ne_true] at h1
  obtain ⟨hcmprk, rfl⟩ := bundleCompare_matches h1
  cases h
  exact ⟨⟨off, e, cv, rk, note, hdesc, hnote, by simpa using hrec, hcv, by simpa using hcmp, hrk,
    by simpa using hcmprk⟩, _, rfl⟩

/-- An output iteration that returns, started on the `i`-th index of the stream, found output
`i` honest; it leaves the builder and bundle contexts reset and the stream on the next index. -/
theorem checkOutput_eq_ok {ind : List UInt8} {indLen : Nat}
    (h : checkOutput env cfg i ⟨⟨buf, len, o⟩, ⟨bundle, bundleLen, 0⟩, ⟨ind, indLen, 8 * i⟩, log⟩ =
      .ok () s') :
    OutputMatches env cfg buf len ind indLen bundle bundleLen i ∧
      ∃ log', s' = ⟨⟨buf, len, 0⟩, ⟨bundle, bundleLen, 0⟩, ⟨ind, indLen, 8 * (i + 1)⟩, log'⟩ := by
  obtain ⟨_, _, hp, h⟩ := onCtx_bind_eq_ok h
  obtain ⟨off, hdesc, rfl⟩ := getNextDescription_eq_ok hp
  obtain ⟨_, _, hp, h⟩ := onCtx_bind_eq_ok h
  obtain ⟨hidx, hk, rfl⟩ := readUint64_eq_ok hp
  replace hk : _ = outputIndex ind i := hk
  obtain ⟨_, _, hp, h⟩ := onCtx_bind_eq_ok h
  obtain ⟨hrec, rfl⟩ := ctxCheckAndAdvance_eq_ok hp
  rw [estate_bind_ok (retrieveItem_apply _ _ _)] at h
  obtain ⟨note, _, hnote, h⟩ := onCtx_bind_eq_ok h
  obtain ⟨e, rfl⟩ := exists_offset_of_keeps (keeps_readOutputNote cfg) hnote
  obtain ⟨cv, hcv, h⟩ := liftExcept_bind_eq_ok h
  obtain ⟨_, _, h1, h⟩ := estate_bind_eq_ok h
  obtain ⟨hcmp, rfl⟩ := bundleCompare_matches h1
  cases h
  rw [hk] at hrec hcv hcmp
  exact ⟨⟨off, e, cv, note, hdesc, hidx, hnote, by simpa using hrec, hcv, by simpa using hcmp⟩,
    _, rfl⟩

theorem convertEnd_succ (o i r : Nat) :
    convertEnd cfg o i (r + 1) = convertEnd cfg o i r + cfg.shieldedConvertsLen * (i + r) % 2 ^ 32 := by
  rw [convertEnd_eq_sum, convertEnd_eq_sum, Finset.sum_range_succ, Nat.add_assoc]

/-- A convert iteration that returns, started where the loop's first `i` moves lead, found
convert `i` honest; it leaves the builder context reset and the bundle context one move on. -/
theorem checkConvert_matches
    (h : checkConvert env cfg i ⟨⟨buf, len, o⟩, ⟨bundle, bundleLen, convertEnd cfg 0 0 i⟩, idx, log⟩ =
      .ok () s') :
    ConvertMatches env cfg buf len bundle bundleLen i ∧
      ∃ log', s' = ⟨⟨buf, len, 0⟩, ⟨bundle, bundleLen, convertEnd cfg 0 0 (i + 1)⟩, idx, log'⟩ := by
  have hend := convertEnd_succ cfg 0 0 i
  rw [Nat.zero_add] at hend
  obtain ⟨_, _, hp, h⟩ := onCtx_bind_eq_ok h
  obtain ⟨off, hdesc, rfl⟩ := getNextDescription_eq_ok hp
  obtain ⟨_, _, hp, h⟩ := onCtx_bind_eq_ok h
  obtain ⟨hrec, rfl⟩ := ctxCheckAndAdvance_eq_ok hp
  rw [estate_bind_ok (retrieveItem_apply _ _ _)] at h
  obtain ⟨note, _, hnote, h⟩ := onCtx_bind_eq_ok h
  obtain ⟨e, rfl⟩ := exists_offset_of_keeps (keeps_readConvertNote cfg) hnote
  obtain ⟨cv, hcv, h⟩ := liftExcept_bind_eq_ok h
  obtain ⟨_, _, h1, h⟩ := estate_bind_eq_ok h
  obtain ⟨hcmp, rfl⟩ := bundleCompare_matches h1
  cases h
  refine ⟨⟨off, e, cv, note, hdesc, hnote, ?_, hcv, ?_⟩, _, by rw [hend]; rfl⟩
  · rw [hend]; exact hrec
  · rw [hend]; exact hcmp

/-- A convert iteration whose convert is honest returns, the bundle context one move on. -/
theorem checkConvert_ok (hm : ConvertMatches env cfg buf len bundle bundleLen i) :
    checkConvert env cfg i ⟨⟨buf, len, o⟩, ⟨bundle, bundleLen, convertEnd cfg 0 0 i⟩, idx, log⟩ =
      .ok () ⟨⟨buf, len, 0⟩, ⟨bundle, bundleLen, convertEnd cfg 0 0 (i + 1)⟩, idx,
        log ++ [.item .convert i, .compare .convert (convertEnd cfg 0 0 (i + 1)) cfg.cvLen]⟩ := by
  obtain ⟨off, e, cv, note, hdesc, hnote, hrec, hcv, hcmp⟩ := hm
  have hend := convertEnd_succ cfg 0 0 i
  rw [Nat.zero_add] at hend
  rw [hend] at hrec hcmp ⊢
  simp [checkConvert, onCtx, @getNextDescription_ok ⟨buf, len, o⟩ env .convert i off hdesc,
    @ctxCheckAndAdvance_ok ⟨bundle, bundleLen, convertEnd cfg 0 0 i⟩ _ hrec, hnote, hcv, liftExcept,
    bundleCompare_ok, hcmp, -Nat.reducePow]
  rfl

end Iterations

/-! ## The loops -/

section Loops

variable (env : MaspEnv) (cfg : MaspConfig) (keys : SaplingKeys) {o : Nat}
  {buf bundle : List UInt8} {len bundleLen : Nat} {idx : ParserContext} {log : List Access}
  {s' : CheckState}

theorem forLoop_checkSpend_eq_ok (happ : cfg.appTesting = false) {i r : Nat}
    (h : forLoop (checkSpend env cfg keys) i r ⟨⟨buf, len, o⟩, ⟨bundle, bundleLen, 0⟩, idx, log⟩ =
      .ok () s') :
    ∀ j, i ≤ j → j < i + r → SpendMatches env cfg keys buf len bundle bundleLen j := by
  induction r generalizing i o log with
  | zero => intro j hj hj'; omega
  | succ r ih =>
    obtain ⟨_, h1, h⟩ := forLoop_succ_eq_ok _ h
    obtain ⟨hi, _, rfl⟩ := checkSpend_eq_ok env cfg keys happ h1
    intro j hj hj'
    rcases Nat.eq_or_lt_of_le hj with rfl | hlt
    · exact hi
    · exact ih h j hlt (by omega)

theorem forLoop_checkOutput_eq_ok {ind : List UInt8} {indLen i r : Nat}
    (h : forLoop (checkOutput env cfg) i r
      ⟨⟨buf, len, o⟩, ⟨bundle, bundleLen, 0⟩, ⟨ind, indLen, 8 * i⟩, log⟩ = .ok () s') :
    ∀ j, i ≤ j → j < i + r → OutputMatches env cfg buf len ind indLen bundle bundleLen j := by
  induction r generalizing i o log with
  | zero => intro j hj hj'; omega
  | succ r ih =>
    obtain ⟨_, h1, h⟩ := forLoop_succ_eq_ok _ h
    obtain ⟨hi, _, rfl⟩ := checkOutput_eq_ok env cfg h1
    intro j hj hj'
    rcases Nat.eq_or_lt_of_le hj with rfl | hlt
    · exact hi
    · exact ih h j hlt (by omega)

/-- Honest outputs pass the output loop. -/
theorem forLoop_checkOutput_ok {ind : List UInt8} {indLen : Nat} (i r : Nat)
    (h : ∀ j, i ≤ j → j < i + r → OutputMatches env cfg buf len ind indLen bundle bundleLen j)
    (log : List Access) :
    ∃ s', forLoop (checkOutput env cfg) i r
      ⟨⟨buf, len, 0⟩, ⟨bundle, bundleLen, 0⟩, ⟨ind, indLen, 8 * i⟩, log⟩ = .ok () s' := by
  induction r generalizing i log with
  | zero => exact ⟨_, rfl⟩
  | succ r ih =>
    obtain ⟨off, e, cv, note, hdesc, hidx, hnote, hrec, hcv, hcmp⟩ := h i le_rfl (by omega)
    have hstep := @checkOutput_ok env cfg i off (outputIndex ind i)
      ⟨⟨buf, len, 0⟩, ⟨bundle, bundleLen, 0⟩, ⟨ind, indLen, 8 * i⟩, log⟩ note ⟨buf, len, e⟩ cv
      hdesc hidx rfl (by rwa [Nat.zero_add]) hnote hcv (by rwa [Nat.zero_add])
    obtain ⟨s', hrest⟩ := ih (i + 1) (fun j hj hj' => h j (by omega) (by omega)) _
    exact ⟨s', (estate_bind_ok hstep _).trans hrest⟩

theorem forLoop_checkConvert_matches {i r : Nat}
    (h : forLoop (checkConvert env cfg) i r
      ⟨⟨buf, len, o⟩, ⟨bundle, bundleLen, convertEnd cfg 0 0 i⟩, idx, log⟩ = .ok () s') :
    ∀ j, i ≤ j → j < i + r → ConvertMatches env cfg buf len bundle bundleLen j := by
  induction r generalizing i o log with
  | zero => intro j hj hj'; omega
  | succ r ih =>
    obtain ⟨_, h1, h⟩ := forLoop_succ_eq_ok _ h
    obtain ⟨hi, _, rfl⟩ := checkConvert_matches env cfg h1
    intro j hj hj'
    rcases Nat.eq_or_lt_of_le hj with rfl | hlt
    · exact hi
    · exact ih h j hlt (by omega)

/-- Honest converts pass the convert loop. -/
theorem forLoop_checkConvert_ok (i r : Nat)
    (h : ∀ j, i ≤ j → j < i + r → ConvertMatches env cfg buf len bundle bundleLen j)
    (log : List Access) :
    ∃ s', forLoop (checkConvert env cfg) i r
      ⟨⟨buf, len, 0⟩, ⟨bundle, bundleLen, convertEnd cfg 0 0 i⟩, idx, log⟩ = .ok () s' := by
  induction r generalizing i log with
  | zero => exact ⟨_, rfl⟩
  | succ r ih =>
    obtain ⟨s', hrest⟩ := ih (i + 1) (fun j hj hj' => h j (by omega) (by omega)) _
    exact ⟨s', (estate_bind_ok (checkConvert_ok env cfg (h i le_rfl (by omega))) _).trans hrest⟩

end Loops

/-! ## The check -/

section Check

variable (env : MaspEnv) (cfg : MaspConfig) {tx : ParserTx} {keys : SaplingKeys}

/-- A check that returns, built without `APP_TESTING`, certifies the builder against the
bundle. -/
theorem bundleMatches_of_cryptoCheckMasp (happ : cfg.appTesting = false) {log log' : List Access}
    {u : Unit} (h : cryptoCheckMasp env cfg tx keys log = .ok u log') :
    BundleMatches env cfg keys tx.transaction.sections.maspBuilder.builder.saplingBuilder
      tx.transaction.sections.maspBuilder.metadata tx.transaction.sections.maspTx.data.saplingBundle := by
  obtain ⟨_, _, h1, h⟩ := estate_bind_eq_ok h
  obtain ⟨_, _, h2, h3⟩ := estate_bind_eq_ok h
  obtain ⟨_, h1, -⟩ := runCheck_eq_ok h1
  obtain ⟨_, h2, -⟩ := runCheck_eq_ok h2
  obtain ⟨_, h3, -⟩ := runCheck_eq_ok h3
  obtain ⟨hs, h1⟩ := eq_ok_of_count_guard h1
  obtain ⟨ho, h2⟩ := eq_ok_of_count_guard h2
  obtain ⟨hc, h3⟩ := eq_ok_of_count_guard h3
  exact ⟨hs, fun j hj => forLoop_checkSpend_eq_ok env cfg keys happ h1 j (Nat.zero_le _) (by omega),
    ho, fun j hj => forLoop_checkOutput_eq_ok env cfg h2 j (Nat.zero_le _) (by omega),
    hc, fun j hj => forLoop_checkConvert_matches env cfg h3 j (Nat.zero_le _) (by omega)⟩

/-- A builder that matches its bundle passes the check, with or without `APP_TESTING`. -/
theorem cryptoCheckMasp_of_bundleMatches
    (hm : BundleMatches env cfg keys tx.transaction.sections.maspBuilder.builder.saplingBuilder
      tx.transaction.sections.maspBuilder.metadata tx.transaction.sections.maspTx.data.saplingBundle)
    (log : List Access) : ∃ log', cryptoCheckMasp env cfg tx keys log = .ok () log' := by
  obtain ⟨log1, h1⟩ := @forLoop_checkSpend_ok env cfg keys _ _ _ _ (.ofBytes ⟨[], 0⟩) 0
    tx.transaction.sections.maspBuilder.builder.saplingBuilder.nSpends
    (fun j _ hj => hm.spends j (by omega)) log
  obtain ⟨s2, h2⟩ := forLoop_checkOutput_ok env cfg 0
    tx.transaction.sections.maspBuilder.metadata.nOutputsIndices
    (fun j _ hj => hm.outputs j (by omega)) log1
  obtain ⟨s3, h3⟩ := @forLoop_checkConvert_ok env cfg _ _ _ _ (.ofBytes ⟨[], 0⟩) 0
    tx.transaction.sections.maspBuilder.builder.saplingBuilder.nConverts
    (fun j _ hj => hm.converts j (by omega)) s2.log
  refine ⟨s3.log, ?_⟩
  rw [cryptoCheckMasp,
    estate_bind_ok (runCheck_ok (by rw [checkSpends_of_eq env cfg keys hm.spends_count]; exact h1)),
    estate_bind_ok (runCheck_ok (by rw [checkOutputs_of_eq env cfg hm.outputs_count]; exact h2)),
    runCheck_ok (by rw [checkConverts_of_eq env cfg hm.converts_count]; exact h3)]

/-- Built without `APP_TESTING`, `crypto_check_masp` returns exactly when the builder matches
the bundle: the counts it compares agree, and every spend's commitment and randomized key and
every output's and convert's commitment are where the code looks for them. -/
theorem cryptoCheckMasp_iff_bundleMatches (happ : cfg.appTesting = false) (tx : ParserTx)
    (keys : SaplingKeys) (log : List Access) :
    (∃ log', cryptoCheckMasp env cfg tx keys log = .ok () log') ↔
      BundleMatches env cfg keys tx.transaction.sections.maspBuilder.builder.saplingBuilder
        tx.transaction.sections.maspBuilder.metadata tx.transaction.sections.maspTx.data.saplingBundle :=
  ⟨fun ⟨_, h⟩ => bundleMatches_of_cryptoCheckMasp env cfg happ h,
    fun hm => cryptoCheckMasp_of_bundleMatches env cfg hm log⟩

/-- The status `crypto_sign_masp` tests is the check's. -/
theorem cryptoCheckMasp_of_status (h : checkMaspStatus env cfg tx keys = .ok ()) :
    ∃ log', cryptoCheckMasp env cfg tx keys [] = .ok () log' := by
  unfold checkMaspStatus at h
  split at h
  next log' heq => exact ⟨log', heq⟩
  next => cases h

theorem twoSpendTx_bundleMatches :
    sampleMaspConfig.appTesting = false ∧
      (∃ log', cryptoCheckMasp sampleMaspEnv sampleMaspConfig twoSpendTx sampleSaplingKeys [] =
        .ok () log') ∧
      BundleMatches sampleMaspEnv sampleMaspConfig sampleSaplingKeys
        twoSpendTx.transaction.sections.maspBuilder.builder.saplingBuilder
        twoSpendTx.transaction.sections.maspBuilder.metadata
        twoSpendTx.transaction.sections.maspTx.data.saplingBundle := by
  obtain ⟨_, _, _, _, _, hchk⟩ := twoSpendTx_keysChecked
  have hc := cryptoCheckMasp_of_status sampleMaspEnv sampleMaspConfig hchk
  exact ⟨rfl, hc, (cryptoCheckMasp_iff_bundleMatches sampleMaspEnv sampleMaspConfig rfl twoSpendTx
    sampleSaplingKeys []).mp hc⟩

end Check

/-! ## Across calls -/

section Device

variable (env : MaspEnv) (src : RandomSource) (d : Device) (cfg : MaspConfig)

/-- Built without `APP_TESTING`, over every run of calls from a consistent store whose signatures
were computed on the device for spends of the transactions they sign, and with extraction buffers
that hold a signature: every spend signature the host extracts was made by `sign_sapling_spend`
with the device's keys and a randomizer `alpha` whose randomized key `rk` is the one the bundle
holds in the record of spend `i`, in the transaction whose sighash it signs. -/
theorem deviceRun_rkInBundle (happ : cfg.appTesting = false) (st : MaspDevice)
    (cs : List MaspCall) (hwf : st.signatures.WellFormed) (hfit : ∀ c ∈ cs, c.BufferFits)
    (hinv : ∀ sig ∈ st.signatures.signatures, SignedForSpend env cfg st.rand.spends sig) :
    ∀ sig ∈ ((deviceRun env src d cfg st cs).1.map MaspReply.received).flatten,
      ∃ tx keys i alpha rk, i < tx.transaction.sections.maspTx.data.saplingBundle.nShieldedSpends ∧
        deviceSaplingKeys env = .ok keys ∧
        (∃ s s', signSaplingSpend env keys alpha (signHashOf env tx) s = .ok sig s') ∧
        env.computeRk keys alpha = .ok rk ∧
        readBytes rk 0 cfg.rkLen =
          readBytes tx.transaction.sections.maspTx.data.saplingBundle.shieldedSpends.ptr
            (cfg.shieldedSpendsLen * i % 2 ^ 32 + (cfg.cvLen + cfg.nullifierLen)) cfg.rkLen := by
  intro sig hsig
  obtain ⟨r, tx, keys, i, hi, -, hk, hsigned⟩ :=
    deviceRun_invariant env src d cfg (signedForSpend_invariant env cfg) st cs hwf hfit hinv sig hsig
  have hkeys := hk.deviceSaplingKeys_eq
  obtain ⟨_, _, _, _, _, hchk⟩ := hk
  obtain ⟨_, hc⟩ := cryptoCheckMasp_of_status _ cfg hchk
  have hm := bundleMatches_of_cryptoCheckMasp _ cfg happ hc
  obtain ⟨_, _, _, rk, _, -, -, -, -, -, hrk, hcmp⟩ := hm.spends i hi
  exact ⟨tx, keys, i, _, rk, hm.spends_count ▸ hi, hkeys, hsigned, hrk, hcmp⟩

theorem freshDevice_extracted_rkInBundle :
    sampleMaspConfig.appTesting = false ∧ freshMaspDevice.signatures.WellFormed ∧
      (∀ c ∈ twoSpendRun, c.BufferFits) ∧
      (∀ sig ∈ freshMaspDevice.signatures.signatures,
        SignedForSpend sampleMaspEnv sampleMaspConfig freshMaspDevice.rand.spends sig) ∧
      ((deviceRun sampleMaspEnv spendSource sampleDevice sampleMaspConfig freshMaspDevice
        twoSpendRun).1.map MaspReply.received).flatten.length = 2 ∧
      ∀ sig ∈ ((deviceRun sampleMaspEnv spendSource sampleDevice sampleMaspConfig
          freshMaspDevice twoSpendRun).1.map MaspReply.received).flatten,
        ∃ tx keys i alpha rk,
          i < tx.transaction.sections.maspTx.data.saplingBundle.nShieldedSpends ∧
          deviceSaplingKeys sampleMaspEnv = .ok keys ∧
          (∃ s s', signSaplingSpend sampleMaspEnv keys alpha (signHashOf sampleMaspEnv tx) s =
            .ok sig s') ∧
          sampleMaspEnv.computeRk keys alpha = .ok rk ∧
          readBytes rk 0 sampleMaspConfig.rkLen =
            readBytes tx.transaction.sections.maspTx.data.saplingBundle.shieldedSpends.ptr
              (sampleMaspConfig.shieldedSpendsLen * i % 2 ^ 32 +
                (sampleMaspConfig.cvLen + sampleMaspConfig.nullifierLen)) sampleMaspConfig.rkLen :=
  ⟨rfl, freshMaspDevice_wellFormed, twoSpendRun_fits, nofun, twoSpendRun_received,
    deviceRun_rkInBundle sampleMaspEnv spendSource sampleDevice sampleMaspConfig rfl
      freshMaspDevice twoSpendRun freshMaspDevice_wellFormed twoSpendRun_fits
      nofun⟩

end Device

end NamadaLedger
