import Mathlib.Algebra.BigOperators.Intervals
import Mathlib.Algebra.BigOperators.Ring
import NamadaLedger.MaspCheck

/-!
# The steps of a check

Each reader of a parser context and each step of a check gets a forward lemma (`*_ok`: within
bounds it returns what is at the offset) and an inversion lemma (`*_eq_ok`: a return tells what
the step found). An iteration of a loop is taken apart with `estate_bind_eq_ok` into these steps
and never unfolded further; a loop, by induction on its count:

* the readers move the offset of their context and keep its buffer; `onCtx` leaves the other
  contexts and the log alone;
* `checkConvert_eq_ok` — a convert iteration that returns has moved the bundle context on by
  `SHIELDED_CONVERTS_LEN * i` and logged its item and its comparison at the offset reached, and
  `forLoop_checkConvert_eq_ok` — so a run of the loop that returns compared record `i` at the
  running sum `convertEnd` of those moves, not at `SHIELDED_CONVERTS_LEN * i`;
* `checkOutput_ok` / `checkOutput_state` — an output iteration whose reads succeed logs the
  item `indice` read from the stream and a comparison at `SHIELDED_OUTPUTS_LEN * indice`
  (mod `2^64`), and returns when that record carries the commitment;
* `runCheck` and `cryptoCheckMasp` on counts of zero.
-/

namespace NamadaLedger

/-! ## Readers -/

section Readers

variable {c c' : ParserContext} {n : Nat}

theorem ctxCheckAndAdvance_ok (h : c.offset + n ≤ c.bufferLen) :
    ctxCheckAndAdvance n c = .ok () { c with offset := c.offset + n } :=
  if_neg (Nat.not_lt.mpr h)

theorem ctxCheckAndAdvance_eq_ok {u : Unit} (h : ctxCheckAndAdvance n c = .ok u c') :
    c.offset + n ≤ c.bufferLen ∧ c' = { c with offset := c.offset + n } := by
  unfold ctxCheckAndAdvance at h
  split at h
  · cases h
  · cases h; exact ⟨by omega, rfl⟩

theorem readBytesSize_ok (h : c.offset + n ≤ c.bufferLen) :
    readBytesSize n c =
      .ok (readBytes c.buffer c.offset n) { c with offset := c.offset + n } := by
  rw [readBytesSize, estate_bind_apply, estate_get_apply]
  simp only [estate_bind_apply, ctxCheckAndAdvance_ok h, estate_pure_apply]

theorem readUint64_ok (h : c.offset + 8 ≤ c.bufferLen) :
    readUint64 c =
      .ok (leValue (readBytes c.buffer c.offset 8)) { c with offset := c.offset + 8 } := by
  rw [readUint64, estate_bind_ok (readBytesSize_ok h)]; rfl

theorem readByte_ok (h : c.offset + 1 ≤ c.bufferLen) :
    readByte c = .ok (c.buffer.getD c.offset 0) { c with offset := c.offset + 1 } := by
  rw [readByte, estate_bind_ok (readBytesSize_ok h)]; rfl

@[simp] theorem resetOffset_apply (c : ParserContext) :
    resetOffset c = .ok () { c with offset := 0 } := rfl

theorem getNextDescription_ok {env : MaspEnv} {kind : DescKind} {i off : Nat}
    (h : env.nextDescription kind c.buffer c.bufferLen i = .ok off) :
    getNextDescription env kind i c = .ok () { c with offset := off } := by
  simp only [getNextDescription, h]

end Readers

/-! ## The steps of a check -/

section Steps

variable {α : Type} {c : Ctx} {m : ParserM α} {s s' : CheckState} {a : α}

theorem onCtx_ok {p : ParserContext} (h : m (s.ctx c) = .ok a p) :
    onCtx c m s = .ok a (s.setCtx c p) := by
  simp only [onCtx, h]

theorem onCtx_eq_ok (h : onCtx c m s = .ok a s') :
    ∃ p, m (s.ctx c) = .ok a p ∧ s' = s.setCtx c p := by
  unfold onCtx at h
  cases hm : m (s.ctx c) with
  | ok a' p => rw [hm] at h; cases h; exact ⟨p, rfl, rfl⟩
  | error e p => rw [hm] at h; cases h

@[simp] theorem onCtx_state (c : Ctx) (m : ParserM α) (s : CheckState) :
    (onCtx c m s).state = s.setCtx c (m (s.ctx c)).state := by
  unfold onCtx; cases m (s.ctx c) <;> rfl

@[simp] theorem retrieveItem_apply (kind : DescKind) (i : Nat) (s : CheckState) :
    retrieveItem kind i s = .ok () { s with log := s.log ++ [.item kind i] } := rfl

variable {kind : DescKind} {x : List UInt8} {n : Nat} {e : ParserError}

@[simp] theorem bundleCompare_state (kind : DescKind) (x : List UInt8) (n : Nat)
    (e : ParserError) (s : CheckState) :
    (bundleCompare kind x n e s).state =
      { s with log := s.log ++ [.compare kind s.bundle.offset n] } := by
  unfold bundleCompare; split <;> rfl

theorem bundleCompare_ok (h : readBytes x 0 n = readBytes s.bundle.buffer s.bundle.offset n) :
    bundleCompare kind x n e s =
      .ok () { s with log := s.log ++ [.compare kind s.bundle.offset n] } :=
  if_pos h

theorem bundleCompare_error (h : readBytes x 0 n ≠ readBytes s.bundle.buffer s.bundle.offset n) :
    bundleCompare kind x n e s =
      .error e { s with log := s.log ++ [.compare kind s.bundle.offset n] } :=
  if_neg h

theorem bundleCompare_eq_ok {u : Unit} (h : bundleCompare kind x n e s = .ok u s') :
    s' = { s with log := s.log ++ [.compare kind s.bundle.offset n] } := by
  unfold bundleCompare at h; split at h <;> cases h; rfl

end Steps

/-! ## The convert loop

The bundle context of the convert loop is never reset, so iteration `i` starts where iteration
`i - 1` stopped and moves on by `SHIELDED_CONVERTS_LEN * i`: record `i` is looked up at the sum of
those moves. -/

section Converts

variable (cfg : MaspConfig)

/-- The bundle offset that the convert iterations `i, …, i + r - 1` reach from `o`. -/
def convertEnd (o i : Nat) : Nat → Nat
  | 0 => o
  | r + 1 => convertEnd (o + cfg.shieldedConvertsLen * i % 2 ^ 32) (i + 1) r

/-- What those iterations log: for each, its item and the comparison at the offset it
reached. -/
def convertTrace (o i : Nat) : Nat → List Access
  | 0 => []
  | r + 1 =>
    .item .convert i :: .compare .convert (o + cfg.shieldedConvertsLen * i % 2 ^ 32) cfg.cvLen ::
      convertTrace (o + cfg.shieldedConvertsLen * i % 2 ^ 32) (i + 1) r

theorem convertEnd_eq_sum (o i r : Nat) :
    convertEnd cfg o i r = o + ∑ j in Finset.range r, cfg.shieldedConvertsLen * (i + j) % 2 ^ 32 := by
  induction r generalizing o i with
  | zero => rfl
  | succ r ih =>
    rw [convertEnd, ih, Finset.sum_range_succ']
    simp only [Nat.add_zero, Nat.add_assoc, Nat.add_comm 1, Nat.add_left_comm _ 1]
    omega

/-- Without wrap-around, the convert iterations `0, …, n - 1` reach
`SHIELDED_CONVERTS_LEN * (0 + 1 + … + (n - 1))`. -/
theorem convertEnd_zero_of_lt {n : Nat} (h : cfg.shieldedConvertsLen * n < 2 ^ 32) :
    convertEnd cfg 0 0 n * 2 = cfg.shieldedConvertsLen * (n * (n - 1)) := by
  have hsum : ∑ j in Finset.range n, cfg.shieldedConvertsLen * (0 + j) % 2 ^ 32 =
      cfg.shieldedConvertsLen * ∑ j in Finset.range n, j := by
    rw [Finset.mul_sum]
    refine Finset.sum_congr rfl fun j hj => ?_
    rw [Nat.zero_add]
    exact Nat.mod_eq_of_lt
      (lt_of_le_of_lt (Nat.mul_le_mul_left _ (Finset.mem_range.mp hj).le) h)
  rw [convertEnd_eq_sum, hsum, Nat.zero_add, Nat.mul_assoc, Finset.sum_range_id_mul_two]

variable (env : MaspEnv) {i : Nat} {s s' : CheckState}

/-- A convert iteration that returns found room for its move in the bundle buffer, moved the
bundle context on by `SHIELDED_CONVERTS_LEN * i` (mod `2^32`), and logged its item and the
comparison at the offset reached. -/
theorem checkConvert_eq_ok (h : checkConvert env cfg i s = .ok () s') :
    s.bundle.offset + cfg.shieldedConvertsLen * i % 2 ^ 32 ≤ s.bundle.bufferLen ∧
      s'.bundle = { s.bundle with offset := s.bundle.offset + cfg.shieldedConvertsLen * i % 2 ^ 32 } ∧
      s'.log = s.log ++ [.item .convert i,
        .compare .convert (s.bundle.offset + cfg.shieldedConvertsLen * i % 2 ^ 32) cfg.cvLen] := by
  obtain ⟨_, s1, h1, h⟩ := estate_bind_eq_ok h
  obtain ⟨_, s2, h2, h⟩ := estate_bind_eq_ok h
  obtain ⟨_, s3, h3, h⟩ := estate_bind_eq_ok h
  obtain ⟨_, s4, h4, h⟩ := estate_bind_eq_ok h
  obtain ⟨_, s5, h5, h⟩ := estate_bind_eq_ok h
  obtain ⟨_, s6, h6, h⟩ := estate_bind_eq_ok h
  obtain ⟨_, -, rfl⟩ := onCtx_eq_ok h1
  obtain ⟨_, hp2, rfl⟩ := onCtx_eq_ok h2
  obtain ⟨hle, rfl⟩ := ctxCheckAndAdvance_eq_ok hp2
  cases h3
  obtain ⟨_, -, rfl⟩ := onCtx_eq_ok h4
  obtain ⟨-, rfl⟩ := liftExcept_eq_ok h5
  obtain rfl := bundleCompare_eq_ok h6
  obtain ⟨_, -, rfl⟩ := onCtx_eq_ok h
  exact ⟨hle, rfl, by simp⟩

/-- A run of the convert iterations `i, …, i + r - 1` that returns stayed within the bundle
buffer, left the bundle context at `convertEnd`, and logged `convertTrace`. -/
theorem forLoop_checkConvert_eq_ok {r : Nat} (ho : s.bundle.offset ≤ s.bundle.bufferLen)
    (h : forLoop (checkConvert env cfg) i r s = .ok () s') :
    convertEnd cfg s.bundle.offset i r ≤ s.bundle.bufferLen ∧
      s'.bundle = { s.bundle with offset := convertEnd cfg s.bundle.offset i r } ∧
      s'.log = s.log ++ convertTrace cfg s.bundle.offset i r := by
  induction r generalizing i s with
  | zero =>
    cases h
    exact ⟨ho, rfl, by simp [convertTrace]⟩
  | succ r ih =>
    obtain ⟨s1, h1, h⟩ := forLoop_succ_eq_ok _ h
    obtain ⟨hle, hb, hlog⟩ := checkConvert_eq_ok cfg env h1
    have ho1 : s1.bundle.offset ≤ s1.bundle.bufferLen := by rw [hb]; exact hle
    obtain ⟨hend, hb', hlog'⟩ := ih ho1 h
    rw [hb] at hend hb' hlog'
    exact ⟨hend, by rw [hb']; rfl, by rw [hlog', hlog]; simp [convertTrace]⟩

theorem checkConverts_eq_ok {tx : ParserTx} {u : Unit} (h : checkConverts env cfg tx s = .ok u s') :
    forLoop (checkConvert env cfg) 0
      tx.transaction.sections.maspBuilder.builder.saplingBuilder.nConverts s = .ok () s' := by
  unfold checkConverts at h
  split at h
  · cases h
  · exact h

end Converts

/-! ## The output loop

An output iteration reads its index `indice` from the stream and looks up both the bundle record
and the blinding factor with it; the only bound on `indice` is that
`SHIELDED_OUTPUTS_LEN * indice`, taken mod `2^64`, fits in the bundle buffer. -/

section Outputs

variable (env : MaspEnv) (cfg : MaspConfig) {i off k : Nat} {s : CheckState}
  {note : List UInt8 × Nat} {b' : ParserContext} {cv : List UInt8}

/-- An output iteration whose reads succeed, up to the commitment, logs the item `indice` read
from the stream and the comparison at `SHIELDED_OUTPUTS_LEN * indice` (mod `2^64`) from the
bundle offset it started at, whether or not the record carries the commitment. -/
theorem checkOutput_state
    (hdesc : env.nextDescription .output s.builder.buffer s.builder.bufferLen i = .ok off)
    (hidx : s.indices.offset + 8 ≤ s.indices.bufferLen)
    (hk : leValue (readBytes s.indices.buffer s.indices.offset 8) = k)
    (hrec : s.bundle.offset + cfg.shieldedOutputsLen * k % 2 ^ 64 ≤ s.bundle.bufferLen)
    (hnote : readOutputNote cfg ⟨s.builder.buffer, s.builder.bufferLen, off⟩ = .ok note b')
    (hcv : env.computeValueCommitment note.2 (env.outputRcv k) note.1 = .ok cv) :
    (checkOutput env cfg i s).state.log = s.log ++ [.item .output k,
      .compare .output (s.bundle.offset + cfg.shieldedOutputsLen * k % 2 ^ 64) cfg.cvLen] := by
  by_cases hcmp : readBytes cv 0 cfg.cvLen = readBytes s.bundle.buffer
    (s.bundle.offset + cfg.shieldedOutputsLen * k % 2 ^ 64) cfg.cvLen <;>
  simp [checkOutput, onCtx, getNextDescription_ok hdesc, readUint64_ok hidx, hk,
    ctxCheckAndAdvance_ok hrec, hnote, hcv, liftExcept, bundleCompare_ok, bundleCompare_error, hcmp,
    -Nat.reducePow]

/-- An output iteration whose reads succeed and whose record carries the commitment returns,
with the builder and bundle contexts reset and the stream moved on by one index. -/
theorem checkOutput_ok
    (hdesc : env.nextDescription .output s.builder.buffer s.builder.bufferLen i = .ok off)
    (hidx : s.indices.offset + 8 ≤ s.indices.bufferLen)
    (hk : leValue (readBytes s.indices.buffer s.indices.offset 8) = k)
    (hrec : s.bundle.offset + cfg.shieldedOutputsLen * k % 2 ^ 64 ≤ s.bundle.bufferLen)
    (hnote : readOutputNote cfg ⟨s.builder.buffer, s.builder.bufferLen, off⟩ = .ok note b')
    (hcv : env.computeValueCommitment note.2 (env.outputRcv k) note.1 = .ok cv)
    (hcmp : readBytes cv 0 cfg.cvLen = readBytes s.bundle.buffer
      (s.bundle.offset + cfg.shieldedOutputsLen * k % 2 ^ 64) cfg.cvLen) :
    checkOutput env cfg i s = .ok ()
      ⟨{ b' with offset := 0 }, { s.bundle with offset := 0 },
        { s.indices with offset := s.indices.offset + 8 }, s.log ++ [.item .output k,
          .compare .output (s.bundle.offset + cfg.shieldedOutputsLen * k % 2 ^ 64) cfg.cvLen]⟩ := by
  simp [checkOutput, onCtx, getNextDescription_ok hdesc, readUint64_ok hidx, hk,
    ctxCheckAndAdvance_ok hrec, hnote, hcv, liftExcept, bundleCompare_ok, hcmp, -Nat.reducePow]
  rfl

end Outputs

/-! ## The spend loop -/

section Spends

variable (env : MaspEnv) (cfg : MaspConfig) (keys : SaplingKeys) {i off : Nat} {s : CheckState}
  {note : List UInt8 × Nat} {b' : ParserContext} {cv rk : List UInt8}

/-- A spend iteration whose reads succeed and whose bundle record `i` carries the commitment and,
unless built with `APP_TESTING`, the randomized key, returns with the builder and bundle contexts
reset. -/
theorem checkSpend_ok
    (hdesc : env.nextDescription .spend s.builder.buffer s.builder.bufferLen i = .ok off)
    (hrec : s.bundle.offset + cfg.shieldedSpendsLen * i % 2 ^ 32 + (cfg.cvLen + cfg.nullifierLen) ≤
      s.bundle.bufferLen)
    (hnote : readSpendNote cfg ⟨s.builder.buffer, s.builder.bufferLen, off⟩ = .ok note b')
    (hcv : env.computeValueCommitment note.2 (env.spendItem i).rcv note.1 = .ok cv)
    (hcmp : readBytes cv 0 cfg.cvLen = readBytes s.bundle.buffer
      (s.bundle.offset + cfg.shieldedSpendsLen * i % 2 ^ 32) cfg.cvLen)
    (hrk : env.computeRk keys (env.spendItem i).alpha = .ok rk)
    (hcmprk : readBytes rk 0 cfg.rkLen = readBytes s.bundle.buffer
      (s.bundle.offset + cfg.shieldedSpendsLen * i % 2 ^ 32 + (cfg.cvLen + cfg.nullifierLen)) cfg.rkLen) :
    checkSpend env cfg keys i s = .ok ()
      ⟨{ b' with offset := 0 }, { s.bundle with offset := 0 }, s.indices,
        s.log ++ [.item .spend i, .compare .spend (s.bundle.offset + cfg.shieldedSpendsLen * i % 2 ^ 32) cfg.cvLen] ++
          (if cfg.appTesting then [] else [.compare .spend
            (s.bundle.offset + cfg.shieldedSpendsLen * i % 2 ^ 32 + (cfg.cvLen + cfg.nullifierLen)) cfg.rkLen])⟩ := by
  have hrec1 : s.bundle.offset + cfg.shieldedSpendsLen * i % 2 ^ 32 ≤ s.bundle.bufferLen := by omega
  cases hT : cfg.appTesting <;>
  simp [checkSpend, onCtx, getNextDescription_ok hdesc, ctxCheckAndAdvance_ok hrec1,
    ctxCheckAndAdvance_ok, hrec, hnote, hcv, hrk, liftExcept, bundleCompare_ok, hcmp, hcmprk, hT,
    -Nat.reducePow] <;>
  rfl

/-- Spend `j` of a transaction whose builder spends are `buf` (of length `len`) and whose bundle
spends are `bundle` (of length `bundleLen`) is honest: its description is found and read, and
bundle record `j` carries its value commitment and randomized key. -/
def SpendMatches (buf : List UInt8) (len : Nat) (bundle : List UInt8) (bundleLen j : Nat) : Prop :=
  ∃ off e cv rk, ∃ note : List UInt8 × Nat,
    env.nextDescription .spend buf len j = .ok off ∧
    readSpendNote cfg ⟨buf, len, off⟩ = .ok note ⟨buf, len, e⟩ ∧
    cfg.shieldedSpendsLen * j % 2 ^ 32 + (cfg.cvLen + cfg.nullifierLen) ≤ bundleLen ∧
    env.computeValueCommitment note.2 (env.spendItem j).rcv note.1 = .ok cv ∧
    readBytes cv 0 cfg.cvLen = readBytes bundle (cfg.shieldedSpendsLen * j % 2 ^ 32) cfg.cvLen ∧
    env.computeRk keys (env.spendItem j).alpha = .ok rk ∧
    readBytes rk 0 cfg.rkLen = readBytes bundle
      (cfg.shieldedSpendsLen * j % 2 ^ 32 + (cfg.cvLen + cfg.nullifierLen)) cfg.rkLen

/-- Honest spends pass the spend loop: each iteration resets both contexts, so record `j` is
looked up at `SHIELDED_SPENDS_LEN * j` whatever came before. -/
theorem forLoop_checkSpend_ok {buf bundle : List UInt8} {len bundleLen : Nat} {idx : ParserContext}
    (i r : Nat) (h : ∀ j, i ≤ j → j < i + r → SpendMatches env cfg keys buf len bundle bundleLen j)
    (log : List Access) :
    ∃ log', forLoop (checkSpend env cfg keys) i r ⟨⟨buf, len, 0⟩, ⟨bundle, bundleLen, 0⟩, idx, log⟩ =
      .ok () ⟨⟨buf, len, 0⟩, ⟨bundle, bundleLen, 0⟩, idx, log'⟩ := by
  induction r generalizing i log with
  | zero => exact ⟨log, rfl⟩
  | succ r ih =>
    obtain ⟨off, e, cv, rk, note, hdesc, hnote, hrec, hcv, hcmp, hrk, hcmprk⟩ :=
      h i le_rfl (by omega)
    have hstep := @checkSpend_ok env cfg keys i off ⟨⟨buf, len, 0⟩, ⟨bundle, bundleLen, 0⟩, idx, log⟩
      note ⟨buf, len, e⟩ cv rk hdesc (by rwa [Nat.zero_add]) hnote hcv (by rwa [Nat.zero_add]) hrk
      (by rwa [Nat.zero_add])
    obtain ⟨log', hrest⟩ := ih (i + 1) (fun j hj hj' => h j (by omega) (by omega)) _
    exact ⟨log', (estate_bind_ok hstep _).trans hrest⟩

end Spends

/-! ## The loops when the counts agree -/

section Counts

variable (env : MaspEnv) (cfg : MaspConfig) {tx : ParserTx}

theorem checkSpends_of_eq (keys : SaplingKeys)
    (h : tx.transaction.sections.maspBuilder.builder.saplingBuilder.nSpends =
      tx.transaction.sections.maspTx.data.saplingBundle.nShieldedSpends) :
    checkSpends env cfg tx keys = forLoop (checkSpend env cfg keys) 0
      tx.transaction.sections.maspBuilder.builder.saplingBuilder.nSpends :=
  if_neg (not_not.mpr h)

theorem checkOutputs_of_eq
    (h : tx.transaction.sections.maspBuilder.builder.saplingBuilder.nOutputs =
      tx.transaction.sections.maspBuilder.metadata.nOutputsIndices) :
    checkOutputs env cfg tx = forLoop (checkOutput env cfg) 0
      tx.transaction.sections.maspBuilder.metadata.nOutputsIndices :=
  if_neg (not_not.mpr h)

theorem checkConverts_of_eq
    (h : tx.transaction.sections.maspBuilder.builder.saplingBuilder.nConverts =
      tx.transaction.sections.maspTx.data.saplingBundle.nShieldedConverts) :
    checkConverts env cfg tx = forLoop (checkConvert env cfg) 0
      tx.transaction.sections.maspBuilder.builder.saplingBuilder.nConverts :=
  if_neg (not_not.mpr h)

end Counts

/-! ## The driver -/

section Driver

variable {b1 b2 b3 : Bytes} {m : CheckM Unit} {log log' : List Access}

theorem runCheck_ok {u : Unit} {s : CheckState}
    (h : m ⟨.ofBytes b1, .ofBytes b2, .ofBytes b3, log⟩ = .ok u s) :
    runCheck b1 b2 b3 m log = .ok () s.log := by
  simp only [runCheck, h]

theorem runCheck_eq_ok {u : Unit} (h : runCheck b1 b2 b3 m log = .ok u log') :
    ∃ s, m ⟨.ofBytes b1, .ofBytes b2, .ofBytes b3, log⟩ = .ok () s ∧ log' = s.log := by
  unfold runCheck at h
  cases hm : m ⟨.ofBytes b1, .ofBytes b2, .ofBytes b3, log⟩ with
  | ok _ s => rw [hm] at h; cases h; exact ⟨s, rfl, rfl⟩
  | error _ _ => rw [hm] at h; cases h

@[simp] theorem runCheck_state (b1 b2 b3 : Bytes) (m : CheckM Unit) (log : List Access) :
    (runCheck b1 b2 b3 m log).state = (m ⟨.ofBytes b1, .ofBytes b2, .ofBytes b3, log⟩).state.log := by
  unfold runCheck; cases m ⟨.ofBytes b1, .ofBytes b2, .ofBytes b3, log⟩ <;> rfl

variable (env : MaspEnv) (cfg : MaspConfig)

/-- With no spend on either side, the spend check returns at once. -/
theorem runCheck_checkSpends_zero {tx : ParserTx} (keys : SaplingKeys)
    (h0 : tx.transaction.sections.maspBuilder.builder.saplingBuilder.nSpends = 0)
    (h1 : tx.transaction.sections.maspTx.data.saplingBundle.nShieldedSpends = 0) :
    runCheck b1 b2 b3 (checkSpends env cfg tx keys) log = .ok () log :=
  runCheck_ok (by rw [checkSpends_of_eq env cfg keys (h0.trans h1.symm), h0]; rfl)

/-- With no convert on either side, the convert check returns at once. -/
theorem runCheck_checkConverts_zero {tx : ParserTx}
    (h0 : tx.transaction.sections.maspBuilder.builder.saplingBuilder.nConverts = 0)
    (h1 : tx.transaction.sections.maspTx.data.saplingBundle.nShieldedConverts = 0) :
    runCheck b1 b2 b3 (checkConverts env cfg tx) log = .ok () log :=
  runCheck_ok (by rw [checkConverts_of_eq env cfg (h0.trans h1.symm), h0]; rfl)

section OutputsOnly

variable {tx : ParserTx} (keys : SaplingKeys)
  (hs0 : tx.transaction.sections.maspBuilder.builder.saplingBuilder.nSpends = 0)
  (hs1 : tx.transaction.sections.maspTx.data.saplingBundle.nShieldedSpends = 0)
  (hc0 : tx.transaction.sections.maspBuilder.builder.saplingBuilder.nConverts = 0)
  (hc1 : tx.transaction.sections.maspTx.data.saplingBundle.nShieldedConverts = 0)
include hs0 hs1 hc0 hc1

/-- With no spend and no convert, a check ends with the log of its output loop, on either
path. -/
theorem cryptoCheckMasp_state_of_outputs_only (log : List Access) :
    (cryptoCheckMasp env cfg tx keys log).state =
      (checkOutputs env cfg tx ⟨.ofBytes tx.transaction.sections.maspBuilder.builder.saplingBuilder.outputs,
        .ofBytes tx.transaction.sections.maspTx.data.saplingBundle.shieldedOutputs,
        .ofBytes tx.transaction.sections.maspBuilder.metadata.outputsIndices, log⟩).state.log := by
  rw [cryptoCheckMasp, estate_bind_ok (runCheck_checkSpends_zero env cfg keys hs0 hs1)]
  rw [estate_bind_state_of_keeps (fun _ l => by rw [runCheck_checkConverts_zero env cfg hc0 hc1]; rfl),
    runCheck_state]

/-- With no spend and no convert, a check returns when its output loop returns. -/
theorem cryptoCheckMasp_of_outputs_only {log : List Access} {s : CheckState}
    (h : checkOutputs env cfg tx ⟨.ofBytes tx.transaction.sections.maspBuilder.builder.saplingBuilder.outputs,
        .ofBytes tx.transaction.sections.maspTx.data.saplingBundle.shieldedOutputs,
        .ofBytes tx.transaction.sections.maspBuilder.metadata.outputsIndices, log⟩ = .ok () s) :
    cryptoCheckMasp env cfg tx keys log = .ok () s.log := by
  rw [cryptoCheckMasp, estate_bind_ok (runCheck_checkSpends_zero env cfg keys hs0 hs1),
    estate_bind_ok (runCheck_ok h), runCheck_checkConverts_zero env cfg hc0 hc1]

end OutputsOnly

/-- With only honest spends, no output and no convert, a check returns. -/
theorem cryptoCheckMasp_ok_of_spends_match {tx : ParserTx} (keys : SaplingKeys)
    (hn : tx.transaction.sections.maspBuilder.builder.saplingBuilder.nSpends =
      tx.transaction.sections.maspTx.data.saplingBundle.nShieldedSpends)
    (ho0 : tx.transaction.sections.maspBuilder.builder.saplingBuilder.nOutputs = 0)
    (ho1 : tx.transaction.sections.maspBuilder.metadata.nOutputsIndices = 0)
    (hc0 : tx.transaction.sections.maspBuilder.builder.saplingBuilder.nConverts = 0)
    (hc1 : tx.transaction.sections.maspTx.data.saplingBundle.nShieldedConverts = 0)
    (h : ∀ j < tx.transaction.sections.maspBuilder.builder.saplingBuilder.nSpends,
      SpendMatches env cfg keys tx.transaction.sections.maspBuilder.builder.saplingBuilder.spends.ptr
        tx.transaction.sections.maspBuilder.builder.saplingBuilder.spends.len
        tx.transaction.sections.maspTx.data.saplingBundle.shieldedSpends.ptr
        tx.transaction.sections.maspTx.data.saplingBundle.shieldedSpends.len j)
    (log : List Access) :
    ∃ log', cryptoCheckMasp env cfg tx keys log = .ok () log' := by
  obtain ⟨log1, h1⟩ := @forLoop_checkSpend_ok env cfg keys _ _ _ _ (.ofBytes ⟨[], 0⟩) 0
    tx.transaction.sections.maspBuilder.builder.saplingBuilder.nSpends
    (fun j _ hj => h j (by omega)) log
  have hout : runCheck tx.transaction.sections.maspBuilder.builder.saplingBuilder.outputs
      tx.transaction.sections.maspTx.data.saplingBundle.shieldedOutputs
      tx.transaction.sections.maspBuilder.metadata.outputsIndices (checkOutputs env cfg tx) log1 =
      .ok () log1 :=
    runCheck_ok (by rw [checkOutputs_of_eq env cfg (ho0.trans ho1.symm), ho1]; rfl)
  refine ⟨log1, ?_⟩
  rw [cryptoCheckMasp, estate_bind_ok (runCheck_ok (by rw [checkSpends_of_eq env cfg keys hn]; exact h1)),
    estate_bind_ok hout, runCheck_checkConverts_zero env cfg hc0 hc1]

/-- A check that returns found the builder and the bundle to hold as many spends. -/
theorem cryptoCheckMasp_spend_counts {tx : ParserTx} {keys : SaplingKeys} {u : Unit}
    (h : cryptoCheckMasp env cfg tx keys log = .ok u log') :
    tx.transaction.sections.maspBuilder.builder.saplingBuilder.nSpends =
      tx.transaction.sections.maspTx.data.saplingBundle.nShieldedSpends := by
  obtain ⟨_, _, h, -⟩ := estate_bind_eq_ok h
  obtain ⟨_, h, -⟩ := runCheck_eq_ok h
  by_contra hne
  unfold checkSpends at h
  rw [if_pos hne] at h
  exact estate_throw_ne_ok h

/-- A check that returns returned from each of its three loops, the last on fresh contexts over
the convert buffers. -/
theorem cryptoCheckMasp_eq_ok {tx : ParserTx} {keys : SaplingKeys} {u : Unit}
    (h : cryptoCheckMasp env cfg tx keys log = .ok u log') :
    ∃ l, runCheck tx.transaction.sections.maspBuilder.builder.saplingBuilder.converts
      tx.transaction.sections.maspTx.data.saplingBundle.shieldedConverts ⟨[], 0⟩
      (checkConverts env cfg tx) l = .ok () log' := by
  obtain ⟨_, _, -, h⟩ := estate_bind_eq_ok h
  obtain ⟨_, l, -, h⟩ := estate_bind_eq_ok h
  exact ⟨l, h⟩

/-- The convert loop compares record `i` at `SHIELDED_CONVERTS_LEN * (0 + 1 + … + i)`, so four
or more converts need more than one record of bundle bytes per convert: a transaction whose
convert buffer holds exactly one record per convert, as an honest bundle's does, is rejected,
whatever its records carry. -/
theorem cryptoCheckMasp_rejects_four_converts {tx : ParserTx} {keys : SaplingKeys}
    (hL : 0 < cfg.shieldedConvertsLen)
    (hn : 4 ≤ tx.transaction.sections.maspBuilder.builder.saplingBuilder.nConverts)
    (hlen : tx.transaction.sections.maspTx.data.saplingBundle.shieldedConverts.len =
      tx.transaction.sections.maspBuilder.builder.saplingBuilder.nConverts * cfg.shieldedConvertsLen)
    (hsmall : tx.transaction.sections.maspTx.data.saplingBundle.shieldedConverts.len < 2 ^ 32) :
    ∃ e log', cryptoCheckMasp env cfg tx keys log = .error e log' := by
  cases hrun : cryptoCheckMasp env cfg tx keys log with
  | error e log' => exact ⟨e, log', rfl⟩
  | ok _ _ =>
    exfalso
    obtain ⟨_, hconv⟩ := cryptoCheckMasp_eq_ok env cfg hrun
    obtain ⟨s, hs, -⟩ := runCheck_eq_ok hconv
    obtain ⟨hend, -, -⟩ :=
      forLoop_checkConvert_eq_ok cfg env (Nat.zero_le _) (checkConverts_eq_ok cfg env hs)
    generalize tx.transaction.sections.maspBuilder.builder.saplingBuilder.nConverts = n at *
    change convertEnd cfg 0 0 n ≤ tx.transaction.sections.maspTx.data.saplingBundle.shieldedConverts.len at hend
    rw [hlen] at hend hsmall
    have hsum := convertEnd_zero_of_lt cfg (by rw [Nat.mul_comm]; exact hsmall)
    have h1 : cfg.shieldedConvertsLen * (n * (n - 1)) ≤ cfg.shieldedConvertsLen * (n * 2) :=
      calc cfg.shieldedConvertsLen * (n * (n - 1)) = convertEnd cfg 0 0 n * 2 := hsum.symm
        _ ≤ n * cfg.shieldedConvertsLen * 2 := Nat.mul_le_mul_right 2 hend
        _ = cfg.shieldedConvertsLen * (n * 2) := by ring
    have h2 := Nat.le_of_mul_le_mul_left (Nat.le_of_mul_le_mul_left h1 hL) (by omega : 0 < n)
    omega

end Driver

end NamadaLedger
