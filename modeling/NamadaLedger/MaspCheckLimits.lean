import NamadaLedger.MaspCheckSteps

/-!
# What `crypto_check_masp` does not check

The checks compare what they look up, but three things decide where they look that nothing
bounds. Each is stated for every input where it can be, and then run on a transaction:

* `crypto_check_masp` never reads the bundle's shielded-output count
  (`cryptoCheckMasp_withShieldedOutputCount`), and the output loop takes its bundle record and its
  blinding factor from the index stream, which nothing requires to be a permutation: a stream
  `[0, 0]` has record 0 checked twice and record 1 never (`dupTx_passes`);
* the index is bounded only by `SHIELDED_OUTPUTS_LEN * indice mod 2^64` fitting in the bundle
  buffer: index `n_outputs` makes the check read the commitment past the end of the buffer and
  retrieve an item beyond the builder's count, and index `2^62` wraps around to record 0
  (`outputIndexTx_reads_past_bundle`);
* the convert loop moves the bundle context on without resetting it, so that four or more
  honest converts are rejected (`fourConvertTx_rejected`, from
  `cryptoCheckMasp_rejects_four_converts`).
-/

namespace NamadaLedger

/-! ## A configuration, an environment and transactions -/

/-- The record sizes of the MASP wire format: a shielded spend is its `cv`, nullifier and `rk`,
a shielded output 788 bytes, a shielded convert its `cv`; `APP_TESTING` is off. -/
def sampleMaspConfig : MaspConfig where
  shieldedSpendsLen := 96
  shieldedOutputsLen := 788
  shieldedConvertsLen := 32
  cvLen := 32
  nullifierLen := 32
  rkLen := 32
  extendedFvkLen := 169
  diversifierLen := 11
  paymentAddrLen := 32
  identifierLen := 32
  tagLen := 1
  assetIdLen := 32
  int128Len := 16
  appTesting := false

/-- The length of a builder description of each kind under `sampleMaspConfig` (an output
without `ovk`). -/
def sampleDescriptionLen : DescKind → Nat
  | .spend => 169 + 11 + 32 + 8
  | .output => 1 + 11 + 32 + 32 + 8
  | .convert => 1 + 32 + 32 + 16 + 8 + 8

/-- Primitives that never fail: the builder's descriptions of a kind follow one another, the
commitment of a value is its low byte followed by the blinding factor, and the `i`-th
blinding factor is 32 bytes of `i + 1`. -/
def sampleMaspEnv : MaspEnv where
  spendItem i := ⟨List.replicate 32 (UInt8.ofNat (i + 1)),
    List.replicate 32 (UInt8.ofNat (i + 101))⟩
  outputRcv i := List.replicate 32 (UInt8.ofNat (i + 1))
  convertRcv i := List.replicate 32 (UInt8.ofNat (i + 1))
  nextDescription kind _ _ i := .ok (i * sampleDescriptionLen kind)
  computeValueCommitment value rcv _ := .ok (UInt8.ofNat value :: rcv.take 31)
  computeRk _ alpha := .ok alpha
  deriveSaplingSeed := some (List.replicate 64 9)
  computeMasterFromSeed seed := .ok (seed.take 32)
  convertKey sk _ := .ok sk
  generateKey k _ := .ok k
  computeIVK ak _ := .ok ak
  computeDiversifier dk _ := .ok (dk.take 11)
  computePkd ivk _ := .ok ivk
  signatureHash _ := .ok (List.replicate 32 7)
  randomizedSecretFromSeed _ alpha := .ok alpha
  scalarMultiplication x _ := .ok x
  rng n := .ok (List.replicate 64 (UInt8.ofNat n))
  blake2bRedJubjub a b := .ok (List.replicate 64 (UInt8.ofNat (a.length + b.length)))
  fromBytesWide h := .ok (h.take 32)
  computeSbar s _ _ := .ok s

/-- An output description under `sampleMaspConfig`: `has_ovk = 0`, a zero diversifier,
payment address and asset identifier, and the value. -/
def outputDescription (value : Nat) : List UInt8 := List.replicate (1 + 11 + 32 + 32) 0 ++ le64 value

/-- Reading an output description, wherever it sits in the builder buffer, gives back its
(zero) asset identifier and its value, and moves past it. -/
theorem readOutputNote_outputDescription {buf pre post : List UInt8} {value len off : Nat}
    (hb : buf = pre ++ outputDescription value ++ post) (hoff : pre.length = off)
    (hlen : off + 84 ≤ len) :
    readOutputNote sampleMaspConfig ⟨buf, len, off⟩ =
      .ok (List.replicate 32 0, value % 2 ^ 64) ⟨buf, len, off + 84⟩ := by
  subst hb hoff
  have hbuf : pre ++ outputDescription value ++ post =
      pre ++ (List.replicate 76 0 ++ (le64 value ++ post)) := by
    simp only [outputDescription, List.append_assoc]
  have hovk : (pre ++ outputDescription value ++ post).getD pre.length 0 = 0 := by
    rw [hbuf, List.getD_append_right _ _ _ _ le_rfl, Nat.sub_self]; rfl
  have hid : readBytes (pre ++ outputDescription value ++ post) (pre.length + 44) 32 =
      List.replicate 32 0 := by
    rw [hbuf, readBytes_append_right, readBytes_append_left (by simp),
      readBytes_replicate (by norm_num)]
  have hval : readBytes (pre ++ outputDescription value ++ post) (pre.length + 76) 8 =
      le64 value := by
    rw [hbuf, readBytes_append_right, readBytes_append_of_le (by simp),
      readBytes_append_left (by simp), List.length_replicate, ← length_le64 value, readBytes_self]
  simp (disch := first | omega | (simp only [sampleMaspConfig]; omega)) only [readOutputNote,
    sampleMaspConfig, estate_bind_apply, readByte_ok, hovk, ne_eq, not_true_eq_false, if_false,
    Nat.zero_add, Nat.add_assoc, Nat.reduceAdd, ctxCheckAndAdvance_ok, readBytesSize_ok,
    readUint64_ok, hid, hval, leValue_le64, estate_pure_apply]

/-- A transaction with the given bundle, builder and output-index stream. -/
def shieldedTx (bundle : SaplingBundle) (builder : SaplingBuilder) (metadata : MaspMetadata) :
    ParserTx where
  typeTx := .other
  transaction :=
    { header := ⟨[1, 2, 3], [4, 5], none⟩
      sections := { code := ⟨1, [7]⟩, data := ⟨2, [8]⟩, sectionLen := 2, signatures := [],
                    maspTx := ⟨⟨bundle⟩⟩, maspBuilder := ⟨⟨builder⟩, metadata⟩ } }

/-! ## Indices beyond the records -/

/-- One output of value 5, whose index in the stream is `indice`, and a bundle holding one
output record. -/
def outputIndexTx (indice : Nat) : ParserTx :=
  shieldedTx ⟨0, ⟨[], 0⟩, 1, Bytes.ofList (List.replicate 788 0), 0, ⟨[], 0⟩⟩
    ⟨0, ⟨[], 0⟩, 1, Bytes.ofList (outputDescription 5), 0, ⟨[], 0⟩⟩
    ⟨1, Bytes.ofList (le64 indice)⟩

/-- Whatever index the stream holds, as long as `SHIELDED_OUTPUTS_LEN * indice mod 2^64` fits in
the record, the check retrieves item `indice` and compares the commitment at that offset. -/
theorem outputIndexTx_log {indice : Nat} (hi : indice < 2 ^ 64)
    (hrec : sampleMaspConfig.shieldedOutputsLen * indice % 2 ^ 64 ≤ 788) :
    (cryptoCheckMasp sampleMaspEnv sampleMaspConfig (outputIndexTx indice) default []).state =
      [.item .output indice,
        .compare .output (sampleMaspConfig.shieldedOutputsLen * indice % 2 ^ 64) sampleMaspConfig.cvLen] := by
  have hk : leValue (readBytes (le64 indice) 0 8) = indice := by
    rw [readBytes_le64, leValue_le64, Nat.mod_eq_of_lt hi]
  have hnote := @readOutputNote_outputDescription (outputDescription 5) [] [] 5
    (outputDescription 5).length 0 (by rw [List.nil_append, List.append_nil]) rfl
    (by rw [outputDescription, List.length_append, List.length_replicate, length_le64])
  have hout := @checkOutput_state sampleMaspEnv sampleMaspConfig 0 0 indice
    ⟨.ofBytes (Bytes.ofList (outputDescription 5)), .ofBytes (Bytes.ofList (List.replicate 788 0)),
      .ofBytes (Bytes.ofList (le64 indice)), []⟩ _ _ _ rfl (by show 0 + 8 ≤ 8; decide) hk
    (by show 0 + _ ≤ (List.replicate 788 (0 : UInt8)).length
        rw [List.length_replicate, Nat.zero_add]; exact hrec) hnote rfl
  rw [cryptoCheckMasp_state_of_outputs_only sampleMaspEnv sampleMaspConfig default rfl rfl rfl rfl,
    checkOutputs_of_eq sampleMaspEnv sampleMaspConfig rfl,
    show (outputIndexTx indice).transaction.sections.maspBuilder.metadata.nOutputsIndices = 1 from rfl,
    forLoop_one_state]
  exact hout.trans (by show [] ++ [_, Access.compare _ (0 + _) _] = _; rw [List.nil_append, Nat.zero_add])

/-- The output count is 1 and the bundle buffer holds one record of 788 bytes. Index `1`, the
output count, makes the check retrieve item 1 and compare the commitment at `[788, 820)`, past the
end of the buffer; index `2^62` makes `SHIELDED_OUTPUTS_LEN * indice` wrap around to 0, so that
record 0 is compared against item `2^62`. -/
theorem outputIndexTx_reads_past_bundle :
    (outputIndexTx 1).transaction.sections.maspBuilder.builder.saplingBuilder.nOutputs = 1 ∧
      (outputIndexTx 1).transaction.sections.maspTx.data.saplingBundle.shieldedOutputs.len = 788 ∧
      (cryptoCheckMasp sampleMaspEnv sampleMaspConfig (outputIndexTx 1) default []).state =
        [.item .output 1, .compare .output 788 32] ∧
      (cryptoCheckMasp sampleMaspEnv sampleMaspConfig (outputIndexTx (2 ^ 62)) default []).state =
        [.item .output (2 ^ 62), .compare .output 0 32] :=
  ⟨rfl, List.length_replicate _ _, outputIndexTx_log (by decide) (by decide),
    outputIndexTx_log (by decide) (by decide)⟩

/-! ## Indices that repeat -/

/-- The commitment `sampleMaspEnv` computes for value 5 and blinding factor 0. -/
def dupCommitment : List UInt8 := 5 :: List.replicate 31 1

/-- Two outputs of value 5 and the index stream `[0, 0]`; the bundle declares two outputs, its
record 0 carries the commitment of output 0 and its record 1 is zeros. -/
def dupTx : ParserTx :=
  shieldedTx ⟨0, ⟨[], 0⟩, 2, Bytes.ofList (dupCommitment ++ List.replicate (756 + 788) 0), 0, ⟨[], 0⟩⟩
    ⟨0, ⟨[], 0⟩, 2, Bytes.ofList (outputDescription 5 ++ outputDescription 5), 0, ⟨[], 0⟩⟩
    ⟨2, Bytes.ofList (le64 0 ++ le64 0)⟩

/-- What the output loop on `dupTx` logs in `i` iterations. -/
def dupLog : Nat → List Access
  | 0 => []
  | i + 1 => dupLog i ++ [.item .output 0, .compare .output 0 32]

/-- The state of the output loop on `dupTx` after `i` iterations. -/
def dupState (i : Nat) : CheckState :=
  ⟨.ofBytes (Bytes.ofList (outputDescription 5 ++ outputDescription 5)),
    .ofBytes (Bytes.ofList (dupCommitment ++ List.replicate (756 + 788) 0)),
    ⟨le64 0 ++ le64 0, (le64 0 ++ le64 0).length, 8 * i⟩, dupLog i⟩

/-- Each of the two iterations reads index 0 and compares record 0. -/
theorem dupState_step {i : Nat} (hi : i < 2) :
    checkOutput sampleMaspEnv sampleMaspConfig i (dupState i) = .ok () (dupState (i + 1)) := by
  have hk : leValue (readBytes (le64 0 ++ le64 0) (8 * i) 8) = 0 := by
    obtain rfl | rfl : i = 0 ∨ i = 1 := by omega
    · rw [Nat.mul_zero, readBytes_append_left (by decide), readBytes_le64, leValue_le64,
        Nat.zero_mod]
    · rw [Nat.mul_one, readBytes_append_of_le (by decide), length_le64, Nat.sub_self,
        readBytes_le64, leValue_le64, Nat.zero_mod]
  have hdesc : ∃ pre post, outputDescription 5 ++ outputDescription 5 =
      pre ++ outputDescription 5 ++ post ∧ pre.length = i * sampleDescriptionLen .output := by
    obtain rfl | rfl : i = 0 ∨ i = 1 := by omega
    · exact ⟨[], outputDescription 5, rfl, rfl⟩
    · exact ⟨outputDescription 5, [], by rw [List.append_nil], by
        rw [outputDescription, List.length_append, List.length_replicate, length_le64]; rfl⟩
  obtain ⟨pre, post, hb, hpre⟩ := hdesc
  have hlen : (outputDescription 5 ++ outputDescription 5).length = 168 := by
    rw [outputDescription, List.length_append, List.length_append, List.length_replicate,
      length_le64]
  have hcmp : readBytes (dupCommitment ++ List.replicate (756 + 788) 0) 0 32 = dupCommitment := by
    rw [readBytes_append_left (by decide)]; decide
  exact @checkOutput_ok sampleMaspEnv sampleMaspConfig i _ 0 (dupState i) _ _ _ rfl
    (by show 8 * i + 8 ≤ (le64 0 ++ le64 0).length; rw [List.length_append, length_le64]; omega)
    hk (Nat.zero_le _)
    (readOutputNote_outputDescription hb hpre (by show _ ≤ (outputDescription 5 ++ outputDescription 5).length; rw [hlen]; simp only [sampleDescriptionLen]; omega))
    rfl (by show _ = readBytes (dupCommitment ++ List.replicate (756 + 788) 0) 0 32; rw [hcmp]; decide)

/-- The bundle of `dupTx` declares two outputs, and the check returns after comparing record 0
twice, against blinding factor 0 both times: record 1 is never looked at, and the index stream
`[0, 0]` is not a permutation of `[0, 2)`. -/
theorem dupTx_passes :
    dupTx.transaction.sections.maspTx.data.saplingBundle.nShieldedOutputs = 2 ∧
      cryptoCheckMasp sampleMaspEnv sampleMaspConfig dupTx default [] =
        .ok () [.item .output 0, .compare .output 0 32, .item .output 0, .compare .output 0 32] := by
  have hloop : forLoop (checkOutput sampleMaspEnv sampleMaspConfig) 0 2 (dupState 0) =
      .ok () (dupState 2) := by
    rw [forLoop_succ, estate_bind_ok (dupState_step (by decide)), forLoop_succ,
      estate_bind_ok (dupState_step (by decide))]
    rfl
  exact ⟨rfl, cryptoCheckMasp_of_outputs_only sampleMaspEnv sampleMaspConfig default rfl rfl rfl rfl
    (by rw [@checkOutputs_of_eq sampleMaspEnv sampleMaspConfig dupTx rfl]; exact hloop)⟩

/-- The transaction with its bundle's shielded-output count replaced by `n`. -/
def withShieldedOutputCount (tx : ParserTx) (n : Nat) : ParserTx :=
  { tx with transaction := { tx.transaction with sections := { tx.transaction.sections with
      maspTx := ⟨⟨{ tx.transaction.sections.maspTx.data.saplingBundle with nShieldedOutputs := n }⟩⟩ } } }

/-- `crypto_check_masp` never reads the bundle's shielded-output count: whatever it is, the
check runs alike, so a bundle may declare more outputs than the builder describes. -/
theorem cryptoCheckMasp_withShieldedOutputCount (env : MaspEnv) (cfg : MaspConfig) (tx : ParserTx)
    (keys : SaplingKeys) (n : Nat) :
    cryptoCheckMasp env cfg (withShieldedOutputCount tx n) keys = cryptoCheckMasp env cfg tx keys :=
  rfl

/-! ## Converts past the third -/

/-- A convert description under `sampleMaspConfig`: a zero tag, asset identifier, asset id,
amount and `uint64_t`, and the value. -/
def convertDescription (value : Nat) : List UInt8 :=
  List.replicate (1 + 32 + 32 + 16 + 8) 0 ++ le64 value

/-- The record of a convert in the bundle: the commitment `sampleMaspEnv` computes for the
value and blinding factor `i`. -/
def convertRecord (i value : Nat) : List UInt8 := UInt8.ofNat value :: List.replicate 31 (UInt8.ofNat (i + 1))

/-- Four converts of values 1 to 4, and a bundle whose record `i` sits at `32 * i` and carries
the commitment of convert `i`. -/
def fourConvertTx : ParserTx :=
  shieldedTx ⟨0, ⟨[], 0⟩, 0, ⟨[], 0⟩, 4,
      Bytes.ofList (convertRecord 0 1 ++ convertRecord 1 2 ++ convertRecord 2 3 ++ convertRecord 3 4)⟩
    ⟨0, ⟨[], 0⟩, 0, ⟨[], 0⟩, 4, Bytes.ofList
      (convertDescription 1 ++ convertDescription 2 ++ convertDescription 3 ++ convertDescription 4)⟩
    ⟨0, ⟨[], 0⟩⟩

/-- The honest four-convert transaction is rejected. -/
theorem fourConvertTx_rejected :
    0 < sampleMaspConfig.shieldedConvertsLen ∧
      4 ≤ fourConvertTx.transaction.sections.maspBuilder.builder.saplingBuilder.nConverts ∧
      fourConvertTx.transaction.sections.maspTx.data.saplingBundle.shieldedConverts.len =
        fourConvertTx.transaction.sections.maspBuilder.builder.saplingBuilder.nConverts *
          sampleMaspConfig.shieldedConvertsLen ∧
      fourConvertTx.transaction.sections.maspTx.data.saplingBundle.shieldedConverts.len < 2 ^ 32 ∧
      ∃ e log', cryptoCheckMasp sampleMaspEnv sampleMaspConfig fourConvertTx default [] =
        .error e log' := by
  have hlen : fourConvertTx.transaction.sections.maspTx.data.saplingBundle.shieldedConverts.len =
      128 := rfl
  have h1 : 0 < sampleMaspConfig.shieldedConvertsLen := by decide
  have h2 : 4 ≤ fourConvertTx.transaction.sections.maspBuilder.builder.saplingBuilder.nConverts :=
    le_refl 4
  have h3 : fourConvertTx.transaction.sections.maspTx.data.saplingBundle.shieldedConverts.len =
      fourConvertTx.transaction.sections.maspBuilder.builder.saplingBuilder.nConverts *
        sampleMaspConfig.shieldedConvertsLen := hlen
  have h4 : fourConvertTx.transaction.sections.maspTx.data.saplingBundle.shieldedConverts.len <
      2 ^ 32 := by rw [hlen]; decide
  exact ⟨h1, h2, h3, h4, cryptoCheckMasp_rejects_four_converts sampleMaspEnv sampleMaspConfig h1 h2 h3 h4⟩

end NamadaLedger
