import NamadaLedger.Sign

/-!
# What each step of `crypto_sign` does

One lemma per step of the model of `Sign`, so that later proofs never unfold a phase twice.

* the elementary stores as state updates;
* `SignState.append` — what appending a hash and its origin index does to the memory; the
  type-specific hashes, the signed raw section, code, data, memo and every accepted prior section
  are appended this way;
* the recognition loop: `priorAccepted_eq` computes the two nested loops, whose comparison reads
  the first hash of the prior section and hash #0 of the accumulator at every iteration;
* `signPriors_of_ok` and `signPriors_of_error` — the whole loop over the prior sections, against
  `priorEntries`, the list of entries the accepted sections contribute.
-/

namespace NamadaLedger

/-! ## The elementary steps -/

@[simp] theorem storeHash_apply (slot : Nat) (h : List UInt8) (s : SignState) :
    storeHash slot h s = .ok () { s with hashesBuffer := s.hashesBuffer.write (slot * hashLen) h } :=
  rfl

@[simp] theorem storeIndex_apply (slot : Nat) (idx : UInt8) (s : SignState) :
    storeIndex slot idx s = .ok () { s with indicesBuffer := s.indicesBuffer.write slot [idx] } := rfl

@[simp] theorem bumpHashesLen_apply (n : Nat) (both : Bool) (s : SignState) :
    bumpHashesLen n both s = .ok ()
      { s with hashesLen := s.hashesLen + n
               sigHashesLen := if both then s.sigHashesLen + n else s.sigHashesLen } := rfl

@[simp] theorem fromExcept_ok {α : Type} (a : α) (s : SignState) :
    fromExcept (.ok a) s = .ok a s := rfl

@[simp] theorem fromExcept_error {α : Type} (e : ZxErr) (s : SignState) :
    (fromExcept (.error e : Except ZxErr α)) s = .error e s := rfl

@[simp] theorem onOutput_apply (m : EStateM ZxErr Buffer Unit) (s : SignState) :
    onOutput m s = match m s.output with
      | .ok a b => .ok a { s with output := b }
      | .error e b => .error e { s with output := b } := rfl

/-! ## Appending to the accumulator -/

/-- An accumulated hash with the index of the section it comes from. -/
abbrev HashEntry := List UInt8 × UInt8

/-- Append a hash and its origin index at slot `section_hashes.hashesLen`; both counters
advance. -/
def SignState.append (s : SignState) (e : HashEntry) : SignState :=
  { s with hashesBuffer := s.hashesBuffer.write (s.hashesLen * hashLen) e.1
           indicesBuffer := s.indicesBuffer.write s.hashesLen [e.2]
           hashesLen := s.hashesLen + 1
           sigHashesLen := s.sigHashesLen + 1 }

/-- Append entries in order. -/
def SignState.appendAll (s : SignState) (es : List HashEntry) : SignState :=
  es.foldl SignState.append s

@[simp] theorem SignState.append_output (s : SignState) (e : HashEntry) :
    (s.append e).output = s.output := rfl

@[simp] theorem SignState.appendAll_nil (s : SignState) : s.appendAll [] = s := rfl

@[simp] theorem SignState.appendAll_cons (s : SignState) (e : HashEntry) (es : List HashEntry) :
    s.appendAll (e :: es) = (s.append e).appendAll es := rfl

theorem SignState.appendAll_append (s : SignState) (es fs : List HashEntry) :
    s.appendAll (es ++ fs) = (s.appendAll es).appendAll fs := List.foldl_append _ _ _ _

@[simp] theorem SignState.appendAll_output (s : SignState) (es : List HashEntry) :
    (s.appendAll es).output = s.output := by
  induction es generalizing s <;> simp [*]

@[simp] theorem SignState.appendAll_hashesLen (s : SignState) (es : List HashEntry) :
    (s.appendAll es).hashesLen = s.hashesLen + es.length := by
  induction es generalizing s with
  | nil => rfl
  | cons e es ih => simp [ih, SignState.append]; omega

@[simp] theorem SignState.appendAll_sigHashesLen (s : SignState) (es : List HashEntry) :
    (s.appendAll es).sigHashesLen = s.sigHashesLen + es.length := by
  induction es generalizing s with
  | nil => rfl
  | cons e es ih => simp [ih, SignState.append]; omega

/-- The step of `crypto_addTxnHashes`: an append that leaves the copied counter alone. -/
theorem appendRaw_apply (h : List UInt8) (idx : UInt8) (s : SignState) :
    appendRaw h idx s = .ok () { s.append (readBytes h 0 hashLen, idx) with
      sigHashesLen := s.sigHashesLen } := rfl

/-- The hashes `crypto_addTxnHashes` appends for the transaction type, with their indices. -/
def txnHashes (tx : ParserTx) : List HashEntry :=
  match tx.typeTx with
  | .initAccount h i => [(readBytes h 0 hashLen, i)]
  | .updateVP h i => [(readBytes h 0 hashLen, i)]
  | .initProposal ch ci pt pch pci =>
    (readBytes ch 0 hashLen, ci) ::
      if pt = .defaultWithWasm then [(readBytes pch 0 hashLen, pci)] else []
  | .other => []

theorem length_txnHashes_le (tx : ParserTx) : (txnHashes tx).length ≤ 2 := by
  unfold txnHashes; split <;> (try split) <;> simp

theorem length_txnHashes_entry {tx : ParserTx} {e : HashEntry} (he : e ∈ txnHashes tx) :
    e.1.length = hashLen := by
  unfold txnHashes at he
  split at he <;> (try split at he) <;> simp at he <;> rcases he with rfl | rfl <;> simp

/-- `crypto_addTxnHashes` appends `txnHashes`; only `section_hashes.hashesLen` advances. -/
theorem cryptoAddTxnHashes_apply (tx : ParserTx) (s : SignState) :
    cryptoAddTxnHashes tx s =
      .ok () { s.appendAll (txnHashes tx) with sigHashesLen := s.sigHashesLen } := by
  unfold cryptoAddTxnHashes txnHashes
  cases tx.typeTx with
  | initProposal ch ci pt pch pci =>
    by_cases hpt : pt = .defaultWithWasm <;> simp [hpt, appendRaw_apply, SignState.append]
  | _ => rfl

/-! ## The recognition loop

The nested loops compare `prev_sig->hashes.hashes.ptr` with `signature_section.hashes.hashes.ptr`
at every `(j, k)`: always the first hash listed by the prior section against hash #0 of the
accumulator. -/

/-- The comparison every iteration of the recognition loop makes. -/
def firstHashMatches (prev : SignatureSection) (buf : List UInt8) : Bool :=
  readBytes prev.hashes.hashes.ptr 0 hashLen == readBytes buf 0 hashLen

theorem loopCompare_eq (prev : SignatureSection) (buf : List UInt8) (j k : Nat) :
    loopCompare prev buf j k = firstHashMatches prev buf := rfl

theorem kLoop_eq (prev : SignatureSection) (buf : List UInt8) (j : Nat) :
    ∀ k r, kLoop prev buf j k r = if firstHashMatches prev buf && 0 < r then k else k + r
  | k, 0 => by simp [kLoop]
  | k, r + 1 => by
    rw [kLoop, loopCompare_eq, kLoop_eq prev buf j (k + 1) r]
    by_cases hc : firstHashMatches prev buf <;> simp [hc]; omega

theorem jLoop_eq (prev : SignatureSection) (buf : List UInt8) (n : Nat) :
    ∀ j r, jLoop prev buf n j r = if 0 < n && firstHashMatches prev buf then j + r else j
  | j, 0 => by simp [jLoop]
  | j, r + 1 => by
    rw [jLoop, kLoop_eq, jLoop_eq prev buf n (j + 1) r]
    by_cases hc : firstHashMatches prev buf
    · rcases Nat.eq_zero_or_pos n with hn | hn
      · simp [hc, hn]
      · simp [hc, hn, hn.ne]; omega
    · simp [hc]

/-- The loop accepts a prior section that lists no hash, or whose first listed hash is hash #0. -/
theorem priorAccepted_eq (prev : SignatureSection) (s : SignState) :
    priorAccepted prev s = (prev.hashes.hashesLen == 0 ||
      (0 < s.sigHashesLen && firstHashMatches prev s.hashesBuffer.bytes)) := by
  rw [priorAccepted, jLoop_eq]
  rcases Nat.eq_zero_or_pos prev.hashes.hashesLen with h0 | h0
  · simp [h0]
  · by_cases hs : 0 < s.sigHashesLen <;>
      cases firstHashMatches prev s.hashesBuffer.bytes <;> simp [hs, h0.ne, h0.ne']

/-- What the recognition loop tests, against the first accumulated hash `first`: the section lists
no hash, or the first hash it lists is `first`. -/
def recognized (first : List UInt8) (prev : SignatureSection) : Bool :=
  prev.hashes.hashesLen == 0 || readBytes prev.hashes.hashes.ptr 0 hashLen == first

/-- The entries the prior sections contribute, in order: the `0x03`-prefixed digest and the index
of each section the loop accepts, or the error of the first accepted section whose digest
fails. -/
def priorEntries (d : Device) (first : List UInt8) :
    List SignatureSection → Except ZxErr (List HashEntry)
  | [] => .ok []
  | prev :: rest =>
    if recognized first prev then
      match cryptoHashSigSection d prev (some [0x03]) hashLen with
      | .ok h =>
        match priorEntries d first rest with
        | .ok es => .ok ((h, prev.idx) :: es)
        | .error e => .error e
      | .error e => .error e
    else priorEntries d first rest

/-- Hash #0 of the accumulator is `first` and both counters are positive, as when the loop over
the prior sections runs. -/
structure SlotZero (s : SignState) (first : List UInt8) : Prop where
  first_eq : readBytes s.hashesBuffer.bytes 0 hashLen = first
  hashesLen_pos : 0 < s.hashesLen
  sigHashesLen_pos : 0 < s.sigHashesLen

theorem SlotZero.append {s : SignState} {first : List UInt8} (h : SlotZero s first)
    (e : HashEntry) : SlotZero (s.append e) first where
  first_eq := by
    rw [← h.first_eq]
    exact readBytes_overwrite_of_le (by simp; have := h.hashesLen_pos; omega) _ _
  hashesLen_pos := Nat.succ_pos _
  sigHashesLen_pos := Nat.succ_pos _

theorem SlotZero.appendAll {s : SignState} {first : List UInt8} (h : SlotZero s first)
    (es : List HashEntry) : SlotZero (s.appendAll es) first := by
  induction es generalizing s with
  | nil => exact h
  | cons e es ih => exact ih (h.append e)

theorem SlotZero.priorAccepted_eq {s : SignState} {first : List UInt8} (h : SlotZero s first)
    (prev : SignatureSection) : priorAccepted prev s = recognized first prev := by
  simp only [NamadaLedger.priorAccepted_eq, recognized, firstHashMatches, h.first_eq,
    h.sigHashesLen_pos, decide_True, Bool.true_and]

/-- One prior section: appended when accepted and its digest succeeds. -/
theorem signPrior_apply (d : Device) (prev : SignatureSection) (s : SignState) :
    signPrior d prev s =
      if priorAccepted prev s then
        match cryptoHashSigSection d prev (some [0x03]) hashLen with
        | .ok h => .ok () (s.append (h, prev.idx))
        | .error e => .error e s
      else .ok () s := by
  unfold signPrior
  by_cases ha : priorAccepted prev s
  · cases hh : cryptoHashSigSection d prev (some [0x03]) hashLen <;> simp [ha, hh, SignState.append]
  · simp [ha]

/-- The loop over the prior sections appends `priorEntries`. -/
theorem signPriors_of_ok {d : Device} {first : List UInt8} :
    ∀ (secs : List SignatureSection) (s : SignState) (ps : List HashEntry), SlotZero s first →
      priorEntries d first secs = .ok ps → signPriors d secs s = .ok () (s.appendAll ps)
  | [], s, ps, _, h => by cases h; rfl
  | prev :: rest, s, ps, hz, h => by
    rw [priorEntries] at h
    simp only [signPriors, estate_bind_apply, signPrior_apply, hz.priorAccepted_eq]
    split at h
    · rename_i hr
      split at h
      · rename_i hd hh
        split at h
        · rename_i es hes
          cases h
          simp [hr, hh, signPriors_of_ok rest _ es (hz.append _) hes]
        · cases h
      · cases h
    · rename_i hr
      simpa [hr] using signPriors_of_ok rest s ps hz h

/-- A failing prior section ends the loop with its error; the caller's buffer is untouched. -/
theorem signPriors_of_error {d : Device} {first : List UInt8} :
    ∀ (secs : List SignatureSection) (s : SignState) (e : ZxErr), SlotZero s first →
      priorEntries d first secs = .error e →
      ∃ s', signPriors d secs s = .error e s' ∧ s'.output = s.output
  | [], s, e, _, h => by cases h
  | prev :: rest, s, e, hz, h => by
    rw [priorEntries] at h
    simp only [signPriors, estate_bind_apply, signPrior_apply, hz.priorAccepted_eq]
    split at h
    · rename_i hr
      split at h
      · rename_i hd hh
        split at h
        · cases h
        · rename_i e' hes
          cases h
          obtain ⟨s', h1, h2⟩ := signPriors_of_error rest _ e (hz.append (hd, prev.idx)) hes
          exact ⟨s', by simp [hr, hh, h1], by simpa using h2⟩
      · rename_i e' hh
        cases h
        exact ⟨s, by simp [hr, hh], rfl⟩
    · rename_i hr
      simpa [hr] using signPriors_of_error rest s e hz h

end NamadaLedger
