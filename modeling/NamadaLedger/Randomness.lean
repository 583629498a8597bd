import NamadaLedger.MaspSign

/-!
# Generating the randomness of a shielded transaction

Before a shielded transaction is signed, the host asks the device for the randomness of each of
its descriptions. `crypto_computeRandomness` draws the blinding factor `rcv` of a spend, an
output or a convert, with the randomizer `alpha` of a spend or the note seed `rseed` of an
output; it returns them in the host's buffer and records them in the device's flash lists, where
the checks and the signing of `crypto_sign_masp` later read them by index.

* `RandStore` (modelled from the spec) — the three flash lists and their appends;
* `MaspEnv.withRandStore` — the collaborators of the check and the signing, with the randomness
  read from a store;
* `RandomSource` — the device's random generator, as the sequence of its draws;
* `randomFr`, `cryptoComputeRandomness` — the code, with the fixed vectors of an `APP_TESTING`
  build;
* `RandStore.record` — what a call records, read off the buffer it returns.

What a call does to the store is said once for each path: a call that returns has recorded one
item of its kind, in a list that had room for it, the one it returned in the buffer, followed
there only by zeros (`cryptoComputeRandomness_eq_ok`); a call that fails has recorded nothing
(`cryptoComputeRandomness_error_store`).
-/

namespace NamadaLedger

/-- `RANDOM_LEN`: the bytes of one random scalar. -/
@[simp] def randomLen : Nat := 32

/-- `output_item_t`: the blinding factor and the note seed kept for an output. -/
structure OutputItem where
  rcv : List UInt8
  rseed : List UInt8
  deriving Repr, DecidableEq

/-- Modelled from the spec: the flash lists of `nvdata.h`, each in generation order, and how many
items each can hold. -/
structure RandStore where
  spends : List SpendItem
  outputs : List OutputItem
  converts : List (List UInt8)
  spendCapacity : Nat
  outputCapacity : Nat
  convertCapacity : Nat
  deriving Repr, DecidableEq

/-- Modelled from the spec: an append to a bounded flash list: the item goes after the others,
or the call fails when the list is full. -/
def appendBounded {α : Type} (l : List α) (capacity : Nat) (x : α) : Except ZxErr (List α) :=
  if l.length < capacity then .ok (l ++ [x]) else .error .unknown

namespace RandStore

/-- Modelled from the spec: `spend_append_rand_item(rcv, alpha)`. -/
def spendAppendRandItem (st : RandStore) (rcv alpha : List UInt8) : Except ZxErr RandStore := do
  let spends ← appendBounded st.spends st.spendCapacity ⟨rcv, alpha⟩
  pure { st with spends }

/-- Modelled from the spec: `output_append_rand_item(rcv, rseed)`. -/
def outputAppendRandItem (st : RandStore) (rcv rseed : List UInt8) : Except ZxErr RandStore := do
  let outputs ← appendBounded st.outputs st.outputCapacity ⟨rcv, rseed⟩
  pure { st with outputs }

/-- Modelled from the spec: `convert_append_rand_item(rcv)`. -/
def convertAppendRandItem (st : RandStore) (rcv : List UInt8) : Except ZxErr RandStore := do
  let converts ← appendBounded st.converts st.convertCapacity rcv
  pure { st with converts }

/-- The item a successful call for `kind` records, read from the buffer it returns: a spend's
`rcv` and `alpha`, an output's `rcv` and `rseed`, or a convert's `rcv`, `RANDOM_LEN` bytes
each. -/
def record (st : RandStore) (kind : DescKind) (reply : Buffer) : RandStore :=
  match kind with
  | .spend => { st with spends := st.spends ++ [⟨reply.read 0 randomLen, reply.read randomLen randomLen⟩] }
  | .output =>
    { st with outputs := st.outputs ++ [⟨reply.read 0 randomLen, reply.read randomLen randomLen⟩] }
  | .convert => { st with converts := st.converts ++ [reply.read 0 randomLen] }

/-- The flash list of kind `k` has room for one more item. -/
def HasRoom (st : RandStore) : DescKind → Prop
  | .spend => st.spends.length < st.spendCapacity
  | .output => st.outputs.length < st.outputCapacity
  | .convert => st.converts.length < st.convertCapacity

/-- No flash list holds more items than it has room for. -/
structure WithinCapacity (st : RandStore) : Prop where
  spends_le : st.spends.length ≤ st.spendCapacity
  outputs_le : st.outputs.length ≤ st.outputCapacity
  converts_le : st.converts.length ≤ st.convertCapacity

/-- Recording an item keeps the capacities. -/
theorem record_capacities (st : RandStore) (k : DescKind) (reply : Buffer) :
    (st.record k reply).spendCapacity = st.spendCapacity ∧
      (st.record k reply).outputCapacity = st.outputCapacity ∧
      (st.record k reply).convertCapacity = st.convertCapacity := by
  cases k <;> exact ⟨rfl, rfl, rfl⟩

/-- An item recorded in a list with room for it keeps every list within its capacity. -/
theorem WithinCapacity.record {st : RandStore} {k : DescKind} (h : st.WithinCapacity)
    (hroom : st.HasRoom k) (reply : Buffer) : (st.record k reply).WithinCapacity := by
  obtain ⟨h1, h2, h3⟩ := h
  cases k <;> simp only [HasRoom] at hroom <;> constructor <;> simp [RandStore.record] <;> omega

end RandStore

/-- The collaborators `env` with the randomness read from the store `st` by index
(`*list_retrieve_rand_item(i)`); modelled from the spec, an index past the items generated reads
an empty item. -/
def MaspEnv.withRandStore (env : MaspEnv) (st : RandStore) : MaspEnv :=
  { env with
    spendItem := fun i => st.spends.getD i ⟨[], []⟩
    outputRcv := fun i => (st.outputs.getD i ⟨[], []⟩).rcv
    convertRcv := fun i => st.converts.getD i [] }

/-- The check of a spend reads the randomness only through `spendItem`: a store holding the item
`env` keeps for spend `j` lets spend `j` match as it does under `env`. -/
theorem SpendMatches.withRandStore {env : MaspEnv} {cfg : MaspConfig} {keys : SaplingKeys}
    {buf bundle : List UInt8} {len bundleLen j : Nat} {r : RandStore}
    (h : r.spends.getD j ⟨[], []⟩ = env.spendItem j)
    (hm : SpendMatches env cfg keys buf len bundle bundleLen j) :
    SpendMatches (env.withRandStore r) cfg keys buf len bundle bundleLen j := by
  unfold SpendMatches at hm ⊢
  simp only [MaspEnv.withRandStore, h]
  exact hm

/-- The bytes of a reply for each kind: two scalars for a spend or an output, one for a
convert. -/
def DescKind.randomnessLen : DescKind → Nat
  | .spend => 2 * randomLen
  | .output => 2 * randomLen
  | .convert => randomLen

/-- Modelled from the spec: the device's random generator, as the sequence of its draws: the
bytes of the `n`-th call of `cx_trng_get_random_data`, and of the `n`-th call of `cx_rng`. -/
structure RandomSource where
  trng : Nat → List UInt8
  rng : Nat → List UInt8

/-- What `crypto_computeRandomness` changes: the flash lists, the number of draws of each kind
so far, and the host's buffer. -/
structure RandState where
  store : RandStore
  trngCalls : Nat
  rngCalls : Nat
  out : Buffer
  deriving Repr, DecidableEq

/-- A program of the randomness path. -/
abbrev RandM := EStateM ZxErr RandState

/-! ## The vectors of an `APP_TESTING` build -/

/-- `spend_tmp_rnd`: the `rcv` of every spend. -/
def spendTmpRnd : List UInt8 :=
  [0x59, 0x63, 0x82, 0x91, 0xee, 0xab, 0xca, 0x62, 0x53, 0x50, 0xd7, 0xb9, 0x64, 0x1d, 0xf8, 0xf5,
    0x7a, 0x81, 0x6e, 0xa9, 0xa5, 0x6c, 0xdb, 0x21, 0x7b, 0x6c, 0xc3, 0x32, 0xb0, 0x40, 0xf1, 0x0a]

/-- `spend_tmp_rnd2`: the `alpha` of every spend. -/
def spendTmpRnd2 : List UInt8 :=
  [0x0a, 0x10, 0xc1, 0xcd, 0xbd, 0x97, 0xb0, 0xbb, 0x38, 0xd3, 0x52, 0x58, 0x5a, 0xf1, 0x0d, 0x1f,
    0xdf, 0xfa, 0xcf, 0xc3, 0x54, 0xb9, 0xd0, 0x29, 0x1c, 0x7c, 0x10, 0xaa, 0x4d, 0x23, 0x93, 0x03]

/-- `out_tmp_rnd`: the `rcv` of every output. -/
def outTmpRnd : List UInt8 :=
  [0x04, 0x56, 0xf7, 0x74, 0xac, 0x0f, 0x67, 0x12, 0x68, 0xf0, 0x3b, 0x82, 0xbf, 0x9a, 0x77, 0x4d,
    0x39, 0x26, 0xb6, 0xc4, 0x43, 0x1e, 0x09, 0x9f, 0xf5, 0x5f, 0xee, 0x62, 0xa2, 0x9a, 0xf4, 0x09]

/-- `out_tmp_rnd2`: the `rseed` of every output. -/
def outTmpRnd2 : List UInt8 :=
  [0x57, 0x04, 0x17, 0x50, 0x42, 0xb2, 0x4c, 0x3d, 0x51, 0xe8, 0x0e, 0xeb, 0x4c, 0xfb, 0xff, 0xe2,
    0xfc, 0x05, 0x61, 0x91, 0x61, 0x2b, 0x50, 0xca, 0xa9, 0x78, 0x24, 0xa2, 0x76, 0xd9, 0xe4, 0x0b]

@[simp] theorem length_spendTmpRnd : spendTmpRnd.length = randomLen := rfl
@[simp] theorem length_spendTmpRnd2 : spendTmpRnd2.length = randomLen := rfl
@[simp] theorem length_outTmpRnd : outTmpRnd.length = randomLen := rfl
@[simp] theorem length_outTmpRnd2 : outTmpRnd2.length = randomLen := rfl

/-! ## The code -/

section Code

variable (env : MaspEnv) (src : RandomSource) (cfg : MaspConfig)

/-- `cx_trng_get_random_data(rnd_data, 64)` into `uint8_t rnd_data[64]`. -/
def trngGetRandomData : RandM (List UInt8) := fun s =>
  .ok (readBytes (src.trng s.trngCalls) 0 64) { s with trngCalls := s.trngCalls + 1 }

/-- `cx_rng(tmp_rnd2, RANDOM_LEN)` into `uint8_t tmp_rnd2[RANDOM_LEN]`. -/
def cxRngRandom : RandM (List UInt8) := fun s =>
  .ok (readBytes (src.rng s.rngCalls) 0 randomLen) { s with rngCalls := s.rngCalls + 1 }

/-- `random_fr(buffer, bufferLen)`: 64 random bytes reduced to a scalar by `from_bytes_wide`; the
`RANDOM_LEN` bytes it leaves in the caller's array. -/
def randomFr (bufferLen : Nat) : RandM (List UInt8) := do
  if bufferLen < 32 then throw .unknown
  else
    let rndData ← trngGetRandomData src
    let r ← liftExcept (checkParserOk (env.fromBytesWide rndData))
    pure (readBytes r 0 randomLen)

/-- `MEMCPY(out + off, bytes, len)`. -/
def writeOut (off : Nat) (bytes : List UInt8) : RandM Unit :=
  modify fun s => { s with out := s.out.write off bytes }

/-- `CHECK_ZXERR(*_append_rand_item(...))`. -/
def appendRandItem (f : RandStore → Except ZxErr RandStore) : RandM Unit := fun s =>
  match f s.store with
  | .ok st => .ok () { s with store := st }
  | .error e => .error e s

/-- `case spend:` of `crypto_computeRandomness`: the spend's `rcv` and `alpha`, into the buffer
and the spend list. -/
def spendRandomness : RandM Nat := do
  if cfg.appTesting then
    writeOut 0 spendTmpRnd
    writeOut randomLen spendTmpRnd2
    appendRandItem fun st => st.spendAppendRandItem spendTmpRnd spendTmpRnd2
  else
    let tmpRnd ← randomFr env src randomLen
    writeOut 0 tmpRnd
    let tmpRnd2 ← randomFr env src randomLen
    writeOut randomLen tmpRnd2
    appendRandItem fun st => st.spendAppendRandItem tmpRnd tmpRnd2
  pure (2 * randomLen)

/-- `case output:` of `crypto_computeRandomness`: the output's `rcv` and `rseed`, the second
drawn by `cx_rng`, into the buffer and the output list. -/
def outputRandomness : RandM Nat := do
  if cfg.appTesting then
    writeOut 0 outTmpRnd
    writeOut randomLen outTmpRnd2
    appendRandItem fun st => st.outputAppendRandItem outTmpRnd outTmpRnd2
  else
    let tmpRnd ← randomFr env src randomLen
    writeOut 0 tmpRnd
    let tmpRnd2 ← cxRngRandom src
    writeOut randomLen tmpRnd2
    appendRandItem fun st => st.outputAppendRandItem tmpRnd tmpRnd2
  pure (2 * randomLen)

/-- `case convert:` of `crypto_computeRandomness`: the convert's `rcv`, into the buffer and the
convert list; an `APP_TESTING` build draws it too. -/
def convertRandomness : RandM Nat := do
  let tmpRnd ← randomFr env src randomLen
  writeOut 0 tmpRnd
  appendRandItem fun st => st.convertAppendRandItem tmpRnd
  pure randomLen

/-- `crypto_computeRandomness(type, out, outLen, replyLen)`: a buffer of at least
`2 * RANDOM_LEN` bytes is cleared and receives the randomness of the requested kind, which is
recorded in the flash list of that kind; the reply length is returned. -/
def cryptoComputeRandomness (type : Option DescKind) : RandM Nat := do
  let s ← get
  if s.out.bytes.length < 2 * randomLen then throw .unknown
  else
    modify fun s => { s with out := s.out.write 0 (List.replicate s.out.bytes.length 0) }
    match type with
    | some .spend => spendRandomness env src cfg
    | some .output => outputRandomness env src cfg
    | some .convert => convertRandomness env src
    | none => throw .unknown

end Code

/-! ## One step at a time -/

section Steps

variable (env : MaspEnv) (src : RandomSource) (cfg : MaspConfig) {s s' : RandState}

@[simp] theorem writeOut_apply (off : Nat) (bytes : List UInt8) (s : RandState) :
    writeOut off bytes s = .ok () { s with out := s.out.write off bytes } := rfl

@[simp] theorem cxRngRandom_apply (s : RandState) :
    cxRngRandom src s =
      .ok (readBytes (src.rng s.rngCalls) 0 randomLen) { s with rngCalls := s.rngCalls + 1 } := rfl

/-- An append that succeeds found room in the list and put the item after the others. -/
theorem appendBounded_bind_eq_ok {α β : Type} {l : List α} {c : Nat} {x : α} {f : List α → β}
    {b : β} (h : (appendBounded l c x >>= fun l' => pure (f l')) = .ok b) :
    l.length < c ∧ b = f (l ++ [x]) := by
  unfold appendBounded at h
  split at h <;> cases h
  exact ⟨‹_›, rfl⟩

theorem appendRandItem_eq_ok {f : RandStore → Except ZxErr RandStore} {u : Unit}
    (h : appendRandItem f s = .ok u s') : ∃ st, f s.store = .ok st ∧ s' = { s with store := st } := by
  unfold appendRandItem at h
  split at h
  · next st hst => cases h; exact ⟨st, hst, rfl⟩
  · cases h

/-- An append that fails leaves the state as it was. -/
theorem preservesOnError_appendRandItem (P : RandState → Prop)
    (f : RandStore → Except ZxErr RandStore) : PreservesOnError P (appendRandItem f) := by
  intro s e s' hs h
  unfold appendRandItem at h
  split at h
  · cases h
  · cases h; exact hs

/-- `random_fr` into a `RANDOM_LEN`-byte array draws once and changes nothing else, on either
path. -/
theorem randomFr_state (s : RandState) :
    (randomFr env src randomLen s).state = { s with trngCalls := s.trngCalls + 1 } := by
  simp only [randomFr, if_neg (by decide : ¬ randomLen < 32)]
  exact estate_bind_state_of_keeps
    (fun _ => show Keeps id _ from (keeps_liftExcept _).bind fun _ => keeps_pure _) s

theorem randomFr_eq_ok {r : List UInt8} (h : randomFr env src randomLen s = .ok r s') :
    r.length = randomLen ∧ s' = { s with trngCalls := s.trngCalls + 1 } := by
  have hs := randomFr_state env src s
  rw [h] at hs
  simp only [randomFr, if_neg (by decide : ¬ randomLen < 32)] at h
  obtain ⟨_, _, -, h⟩ := estate_bind_eq_ok h
  obtain ⟨_, _, -, h⟩ := estate_bind_eq_ok h
  cases h
  exact ⟨length_readBytes _ _ _, hs⟩

theorem keepsStore_randomFr : Keeps RandState.store (randomFr env src randomLen) := fun s => by
  rw [randomFr_state]

/-- A spend's case that returns stored two scalars in the buffer and appended them to the spend
list, which had room for them. -/
theorem spendRandomness_eq_ok {n : Nat} (h : spendRandomness env src cfg s = .ok n s') :
    n = 2 * randomLen ∧ ∃ a b, a.length = randomLen ∧ b.length = randomLen ∧
      s'.out = (s.out.write 0 a).write randomLen b ∧ s.store.HasRoom .spend ∧
      s'.store = { s.store with spends := s.store.spends ++ [⟨a, b⟩] } := by
  unfold spendRandomness at h
  dsimp only at h
  split at h
  · rw [estate_bind_ok (writeOut_apply _ _ _), estate_bind_ok (writeOut_apply _ _ _)] at h
    obtain ⟨_, t, ht, h⟩ := estate_bind_eq_ok h
    cases h
    obtain ⟨_, hst, rfl⟩ := appendRandItem_eq_ok ht
    exact ⟨rfl, _, _, length_spendTmpRnd, length_spendTmpRnd2, rfl, appendBounded_bind_eq_ok hst⟩
  · obtain ⟨a, s1, h1, h⟩ := estate_bind_eq_ok h
    obtain ⟨ha, rfl⟩ := randomFr_eq_ok env src h1
    rw [estate_bind_ok (writeOut_apply _ _ _)] at h
    obtain ⟨b, s2, h2, h⟩ := estate_bind_eq_ok h
    obtain ⟨hb, rfl⟩ := randomFr_eq_ok env src h2
    rw [estate_bind_ok (writeOut_apply _ _ _)] at h
    obtain ⟨_, t, ht, h⟩ := estate_bind_eq_ok h
    cases h
    obtain ⟨_, hst, rfl⟩ := appendRandItem_eq_ok ht
    exact ⟨rfl, a, b, ha, hb, rfl, appendBounded_bind_eq_ok hst⟩

/-- An output's case that returns stored two scalars in the buffer and appended them to the
output list, which had room for them. -/
theorem outputRandomness_eq_ok {n : Nat} (h : outputRandomness env src cfg s = .ok n s') :
    n = 2 * randomLen ∧ ∃ a b, a.length = randomLen ∧ b.length = randomLen ∧
      s'.out = (s.out.write 0 a).write randomLen b ∧ s.store.HasRoom .output ∧
      s'.store = { s.store with outputs := s.store.outputs ++ [⟨a, b⟩] } := by
  unfold outputRandomness at h
  dsimp only at h
  split at h
  · rw [estate_bind_ok (writeOut_apply _ _ _), estate_bind_ok (writeOut_apply _ _ _)] at h
    obtain ⟨_, t, ht, h⟩ := estate_bind_eq_ok h
    cases h
    obtain ⟨_, hst, rfl⟩ := appendRandItem_eq_ok ht
    exact ⟨rfl, _, _, length_outTmpRnd, length_outTmpRnd2, rfl, appendBounded_bind_eq_ok hst⟩
  · obtain ⟨a, s1, h1, h⟩ := estate_bind_eq_ok h
    obtain ⟨ha, rfl⟩ := randomFr_eq_ok env src h1
    rw [estate_bind_ok (writeOut_apply _ _ _), estate_bind_ok (cxRngRandom_apply _ _),
      estate_bind_ok (writeOut_apply _ _ _)] at h
    obtain ⟨_, t, ht, h⟩ := estate_bind_eq_ok h
    cases h
    obtain ⟨_, hst, rfl⟩ := appendRandItem_eq_ok ht
    exact ⟨rfl, a, _, ha, length_readBytes _ _ _, rfl, appendBounded_bind_eq_ok hst⟩

/-- A convert's case that returns stored one scalar in the buffer and appended it to the
convert list, which had room for it. -/
theorem convertRandomness_eq_ok {n : Nat} (h : convertRandomness env src s = .ok n s') :
    n = randomLen ∧ ∃ a, a.length = randomLen ∧ s'.out = s.out.write 0 a ∧
      s.store.HasRoom .convert ∧
      s'.store = { s.store with converts := s.store.converts ++ [a] } := by
  unfold convertRandomness at h
  obtain ⟨a, s1, h1, h⟩ := estate_bind_eq_ok h
  obtain ⟨ha, rfl⟩ := randomFr_eq_ok env src h1
  rw [estate_bind_ok (writeOut_apply _ _ _)] at h
  obtain ⟨_, t, ht, h⟩ := estate_bind_eq_ok h
  cases h
  obtain ⟨_, hst, rfl⟩ := appendRandItem_eq_ok ht
  exact ⟨rfl, a, ha, rfl, appendBounded_bind_eq_ok hst⟩

/-- Scalars stored from the start of a cleared buffer that holds them are followed by zeros. -/
theorem cleared_write_bytes {o : Buffer} {x : List UInt8} (hx : x.length ≤ o.bytes.length) :
    ((o.write 0 (List.replicate o.bytes.length 0)).write 0 x).bytes =
      x ++ List.replicate (o.bytes.length - x.length) 0 := by
  rw [Buffer.write_bytes, Buffer.write_zeros_bytes, overwrite_replicate (by simpa using hx)]
  simp

/-- Two scalars stored back to back in a cleared buffer read back, followed by zeros. -/
theorem cleared_write_two {o : Buffer} {a b : List UInt8} (ha : a.length = randomLen)
    (hb : b.length = randomLen) (hlen : 2 * randomLen ≤ o.bytes.length) :
    let r := ((o.write 0 (List.replicate o.bytes.length 0)).write 0 a).write randomLen b
    r.read 0 randomLen = a ∧ r.read randomLen randomLen = b ∧
      r.bytes = r.read 0 (2 * randomLen) ++ List.replicate (o.bytes.length - 2 * randomLen) 0 := by
  intro r
  have hab : (a ++ b).length = 2 * randomLen := by rw [List.length_append, ha, hb]; omega
  have hr : r.bytes = a ++ (b ++ List.replicate (o.bytes.length - 2 * randomLen) 0) := by
    simp only [r]
    rw [Buffer.write_write_of_eq b (by rw [ha]; rfl), cleared_write_bytes (by omega), hab,
      List.append_assoc]
  simp only [Buffer.read, hr]
  refine ⟨by rw [← ha, readBytes_append_prefix], ?_, ?_⟩
  · rw [readBytes_append_of_le (by omega), ha, Nat.sub_self, ← hb, readBytes_append_prefix]
  · rw [← List.append_assoc, ← hab, readBytes_append_prefix]

/-- One scalar stored in a cleared buffer reads back, followed by zeros. -/
theorem cleared_write_one {o : Buffer} {a : List UInt8} (ha : a.length = randomLen)
    (hlen : randomLen ≤ o.bytes.length) :
    let r := (o.write 0 (List.replicate o.bytes.length 0)).write 0 a
    r.read 0 randomLen = a ∧
      r.bytes = r.read 0 randomLen ++ List.replicate (o.bytes.length - randomLen) 0 := by
  intro r
  have hr : r.bytes = a ++ List.replicate (o.bytes.length - randomLen) 0 := by
    simp only [r]; rw [cleared_write_bytes (by omega), ha]
  have hread : r.read 0 randomLen = a := by
    simp only [Buffer.read, hr]; rw [← ha, readBytes_append_prefix]
  exact ⟨hread, by rw [hread, hr]⟩

end Steps

/-! ## What a call does to the store -/

section Calls

variable (env : MaspEnv) (src : RandomSource) (cfg : MaspConfig) {s s' : RandState}

/-- A call that returns recorded one item of the requested kind, the one it returns in the
buffer: the buffer holds the item's bytes, as many as the reply length, followed by zeros, and the
flash list of that kind, which had room for it, has that item appended; the other lists are
unchanged. -/
theorem cryptoComputeRandomness_eq_ok {type : Option DescKind} {n : Nat}
    (h : cryptoComputeRandomness env src cfg type s = .ok n s') :
    ∃ k, type = some k ∧ n = k.randomnessLen ∧ s.store.HasRoom k ∧
      s'.store = s.store.record k s'.out ∧
      s'.out.bytes = s'.out.read 0 n ++ List.replicate (s.out.bytes.length - n) 0 := by
  unfold cryptoComputeRandomness at h
  obtain ⟨_, _, hget, h⟩ := estate_bind_eq_ok h
  cases hget
  split at h
  · cases h
  next hlen =>
  rw [estate_bind_ok (estate_modify_apply _ _)] at h
  match type, h with
  | some .spend, h =>
    obtain ⟨rfl, a, b, ha, hb, hout, hroom, hstore⟩ := spendRandomness_eq_ok env src cfg h
    obtain ⟨h1, h2, h3⟩ := cleared_write_two ha hb (Nat.not_lt.mp hlen)
    rw [← hout] at h1 h2 h3
    exact ⟨.spend, rfl, rfl, hroom, by rw [hstore, RandStore.record, h1, h2], h3⟩
  | some .output, h =>
    obtain ⟨rfl, a, b, ha, hb, hout, hroom, hstore⟩ := outputRandomness_eq_ok env src cfg h
    obtain ⟨h1, h2, h3⟩ := cleared_write_two ha hb (Nat.not_lt.mp hlen)
    rw [← hout] at h1 h2 h3
    exact ⟨.output, rfl, rfl, hroom, by rw [hstore, RandStore.record, h1, h2], h3⟩
  | some .convert, h =>
    obtain ⟨rfl, a, ha, hout, hroom, hstore⟩ := convertRandomness_eq_ok env src h
    obtain ⟨h1, h2⟩ := @cleared_write_one s.out a ha (by simp at hlen ⊢; omega)
    rw [← hout] at h1 h2
    exact ⟨.convert, rfl, rfl, hroom, by rw [hstore, RandStore.record, h1], h2⟩
  | none, h => cases h

/-- A call that fails recorded nothing: whichever draw, conversion or append failed, the flash
lists are as they were. -/
theorem cryptoComputeRandomness_error_store {type : Option DescKind} {e : ZxErr}
    (h : cryptoComputeRandomness env src cfg type s = .error e s') : s'.store = s.store := by
  have hout {off : Nat} {bytes : List UInt8} :
      Preserves (fun t : RandState => t.store = s.store) (writeOut off bytes) := fun _ h => h
  have hrng : Preserves (fun t : RandState => t.store = s.store) (cxRngRandom src) :=
    fun _ h => h
  have hfr : Preserves (fun t : RandState => t.store = s.store) (randomFr env src randomLen) :=
    fun t ht => (keepsStore_randomFr env src t).trans ht
  have happ (f : RandStore → Except ZxErr RandStore) (n : Nat) :
      PreservesOnError (fun t : RandState => t.store = s.store)
        (appendRandItem f >>= fun _ => (pure n : RandM Nat)) :=
    (preservesOnError_appendRandItem _ f).bind_of_ok fun _ t => ⟨n, t, rfl⟩
  suffices hp : PreservesOnError (fun t : RandState => t.store = s.store)
      (cryptoComputeRandomness env src cfg type) from hp s e s' rfl h
  refine PreservesOnError.bind (fun _ h => h) fun _ => ?_
  split
  · exact Preserves.onError fun _ h => h
  refine PreservesOnError.bind (fun _ h => h) fun _ => ?_
  split
  · unfold spendRandomness
    split
    · exact .bind hout fun _ => .bind hout fun _ => happ _ _
    · exact .bind hfr fun _ => .bind hout fun _ => .bind hfr fun _ => .bind hout fun _ => happ _ _
  · unfold outputRandomness
    split
    · exact .bind hout fun _ => .bind hout fun _ => happ _ _
    · exact .bind hfr fun _ => .bind hout fun _ => .bind hrng fun _ => .bind hout fun _ => happ _ _
  · exact .bind hfr fun _ => .bind hout fun _ => happ _ _
  · exact Preserves.onError fun _ h => h

/-- Built without `APP_TESTING`, a spend request into a buffer of `2 * RANDOM_LEN` bytes or more,
with room in the spend list, returns when `from_bytes_wide` reduces the next two TRNG draws: the
buffer is cleared and receives the two scalars, which are recorded as the spend's `rcv` and
`alpha`, and two draws were made. -/
theorem cryptoComputeRandomness_spend_ok (happ : cfg.appTesting = false)
    (hlen : 2 * randomLen ≤ s.out.bytes.length) (hroom : s.store.HasRoom .spend)
    {a b : List UInt8}
    (ha : env.fromBytesWide (readBytes (src.trng s.trngCalls) 0 64) = .ok a)
    (hb : env.fromBytesWide (readBytes (src.trng (s.trngCalls + 1)) 0 64) = .ok b) :
    cryptoComputeRandomness env src cfg (some .spend) s =
      .ok (2 * randomLen)
        { store := { s.store with spends := s.store.spends ++
            [⟨readBytes a 0 randomLen, readBytes b 0 randomLen⟩] }
          trngCalls := s.trngCalls + 2
          rngCalls := s.rngCalls
          out := ((s.out.write 0 (List.replicate s.out.bytes.length 0)).write 0
            (readBytes a 0 randomLen)).write randomLen (readBytes b 0 randomLen) } := by
  simp only [cryptoComputeRandomness, spendRandomness, randomFr, trngGetRandomData, happ,
    estate_bind_apply, estate_get_apply, estate_modify_apply, estate_pure_apply,
    if_neg (Nat.not_lt.mpr hlen), if_neg (by decide : ¬ randomLen < 32), liftExcept, checkParserOk,
    ha, hb, writeOut_apply, Bool.false_eq_true, if_false, appendRandItem,
    RandStore.spendAppendRandItem, appendBounded,
    if_pos (show s.store.spends.length < s.store.spendCapacity from hroom)]
  rfl

end Calls

end NamadaLedger
