import NamadaLedger.Accumulator

/-!
# What `crypto_sign` is for

The response the signing protocol promises, computed from the transaction and the device alone,
with no buffer, slot or counter: two hash lists and the two signatures over them.

* the *raw* list: the raw header hash (origin `255`) and the hashes the transaction type adds;
  its unsigned `PubKeys` section, with no key and no signature, is signed by the device;
* the *final* list: the raw list, the raw section signed (`0x03`-prefixed, with the device key
  and the raw signature), code, data, memo and the prior signature sections the code accepts;
  its hash #0 is replaced by the fee header hash (origin `0`), and its unsigned section is signed
  again;
* `signResponse` lays the two signatures and the two origin lists out in the response.

`signSpec` fails only where a prior section's digest fails, or a device call does.
`signSpec_ok` gives the sizes: a response of `responseLength` bytes, `accumulatedCount` of
them in the final origin list.
-/

namespace NamadaLedger

/-- A device call that reports its failure as `zxerr_unknown`, as every `CHECK_CX_OK` does. -/
def orUnknown {α : Type} : Option α → Except ZxErr α
  | some a => .ok a
  | none => .error .unknown

/-- SHA-256 of the discriminant, the raw header and a zero sub-discriminant. -/
def rawHeaderHash (d : Device) (tx : ParserTx) : List UInt8 :=
  d.sha256 (discriminantHeader :: tx.transaction.header.bytes ++ [0x00])

/-- SHA-256 of the discriminant and the header's extension (fee) bytes. -/
def feeHeaderHash (d : Device) (tx : ParserTx) : List UInt8 :=
  d.sha256 (discriminantHeader :: tx.transaction.header.extBytes)

/-- The raw hash list: the raw header hash with the sentinel origin `255`, then the hashes the
transaction type adds. -/
def rawEntries (d : Device) (tx : ParserTx) : List HashEntry :=
  (rawHeaderHash d tx, 255) :: txnHashes tx

/-- The digest of a `PubKeys` signature section with hash list `hs`, tagged keys `keys` and
indexed signatures `sigs`, under the prefix `pre`: each count in four little-endian bytes before
its items. -/
def sectionDigest (d : Device) (pre : List UInt8) (hs : List (List UInt8))
    (keys : List (UInt8 × List UInt8)) (sigs : List (UInt8 × UInt8 × List UInt8)) : List UInt8 :=
  d.sha256 (pre ++ le32 hs.length ++ hs.flatten ++ [signerPubKeys] ++ le32 keys.length ++
    encodeKeys keys ++ le32 sigs.length ++ encodeSignatures sigs)

/-- The memo's entry, when the header has a memo section. -/
def memoEntries (d : Device) : Option Section → Except ZxErr (List HashEntry)
  | some memo => do
    let h ← d.hashSection .extraData memo
    pure [(h, memo.idx)]
  | none => pure []

/-- The entries after the raw list: the raw section signed with the device key `pk` and the raw
signature `rawSig` (at signature index `0`), code, data, memo, and the accepted prior sections. -/
def sectionEntries (d : Device) (tx : ParserTx) (pk rawSig : List UInt8) :
    Except ZxErr (List HashEntry) := do
  let secs := tx.transaction.sections
  let signed := sectionDigest d [0x03] ((rawEntries d tx).map (·.1)) [(keyEd25519, pk)]
    [(0, keyEd25519, rawSig)]
  let code ← d.hashSection .code secs.code
  let data ← d.hashSection .data secs.data
  let memo ← memoEntries d tx.transaction.header.memoSection
  let priors ← priorEntries d (rawHeaderHash d tx) secs.signatures
  pure ((signed, UInt8.ofNat (secs.sectionLen + 1)) :: (code, secs.code.idx) ::
    (data, secs.data.idx) :: memo ++ priors)

/-- The fields of a successful response. -/
structure SignOutput where
  pubKey : List UInt8
  rawSig : List UInt8
  wrapperSig : List UInt8
  rawIndices : List UInt8
  finalIndices : List UInt8
  deriving Repr, DecidableEq

/-- The response the protocol promises for `tx`, with the prior sections taken as the code takes
them: `priorEntries` keeps a section when `recognized`, the code's test of its first listed hash
against the raw header hash, accepts it, not by the spec's rule that every hash a section lists
be among those accumulated (§4.3, step 9). -/
def signSpec (d : Device) (tx : ParserTx) : Except ZxErr SignOutput := do
  let pk ← orUnknown (devicePublicKey d)
  let raw := rawEntries d tx
  let rawSig ← orUnknown (deviceSign d (sectionDigest d [] (raw.map (·.1)) [] []))
  let es ← sectionEntries d tx pk rawSig
  let final := (feeHeaderHash d tx, 0) :: txnHashes tx ++ es
  let wrapperSig ← orUnknown (deviceSign d (sectionDigest d [] (final.map (·.1)) [] []))
  pure ⟨pk, rawSig, wrapperSig, raw.map (·.2), final.map (·.2)⟩

/-- The bytes of the response: tagged key, salt, tagged raw signature, a salt-sized gap, tagged
wrapper signature, then each origin list after its one-byte count. The salt is the caller's
business and reads as zero. -/
def signResponse (o : SignOutput) : List UInt8 :=
  keyEd25519 :: o.pubKey ++ List.replicate saltLen 0 ++ keyEd25519 :: o.rawSig ++
    List.replicate saltLen 0 ++ keyEd25519 :: o.wrapperSig ++
    UInt8.ofNat o.rawIndices.length :: o.rawIndices ++
    UInt8.ofNat o.finalIndices.length :: o.finalIndices

/-- What a successful `sectionEntries` is made of. -/
theorem sectionEntries_eq_ok {d : Device} {tx : ParserTx} {pk rawSig : List UInt8}
    {es : List HashEntry} (h : sectionEntries d tx pk rawSig = .ok es) :
    ∃ hc hdt ms ps, d.hashSection .code tx.transaction.sections.code = .ok hc ∧
      d.hashSection .data tx.transaction.sections.data = .ok hdt ∧
      memoEntries d tx.transaction.header.memoSection = .ok ms ∧
      priorEntries d (rawHeaderHash d tx) tx.transaction.sections.signatures = .ok ps ∧
      es = (sectionDigest d [0x03] ((rawEntries d tx).map (·.1)) [(keyEd25519, pk)]
        [(0, keyEd25519, rawSig)], UInt8.ofNat (tx.transaction.sections.sectionLen + 1)) ::
        (hc, tx.transaction.sections.code.idx) :: (hdt, tx.transaction.sections.data.idx) ::
        ms ++ ps := by
  unfold sectionEntries at h
  cases hc : d.hashSection .code tx.transaction.sections.code <;>
    cases hdt : d.hashSection .data tx.transaction.sections.data <;>
    cases hm : memoEntries d tx.transaction.header.memoSection <;>
    cases hp : priorEntries d (rawHeaderHash d tx) tx.transaction.sections.signatures <;>
    simp_all [bind, Except.bind, pure, Except.pure]

/-! ## Sizes -/

/-- How many prior sections the code accepts. -/
def acceptedCount (d : Device) (tx : ParserTx) : Nat :=
  (tx.transaction.sections.signatures.filter (recognized (rawHeaderHash d tx))).length

/-- How many hashes the final list holds. -/
def accumulatedCount (d : Device) (tx : ParserTx) : Nat :=
  (rawEntries d tx).length + 3 + tx.transaction.header.memoSection.toList.length +
    acceptedCount d tx

/-- How many bytes the response takes. -/
def responseLength (d : Device) (tx : ParserTx) : Nat :=
  indicesOffset + 2 + (rawEntries d tx).length + accumulatedCount d tx

/-- Every prior section the code accepts passes what `crypto_hashSigSection` checks: a known
signer, and known tags wherever its two walks read one. -/
def PriorsValid (d : Device) (tx : ParserTx) : Prop :=
  ∀ prev ∈ tx.transaction.sections.signatures, recognized (rawHeaderHash d tx) prev →
    HashableSection prev

theorem length_rawEntries_le (d : Device) (tx : ParserTx) : (rawEntries d tx).length ≤ 3 := by
  simpa [rawEntries] using length_txnHashes_le tx

theorem three_le_accumulatedCount (d : Device) (tx : ParserTx) :
    (rawEntries d tx).length + 3 ≤ accumulatedCount d tx := by
  unfold accumulatedCount; omega

/-! ## The spec on a reliable device -/

@[simp] theorem length_rawHeaderHash (d : Device) (tx : ParserTx) :
    (rawHeaderHash d tx).length = hashLen :=
  d.length_sha256 _

@[simp] theorem length_feeHeaderHash (d : Device) (tx : ParserTx) :
    (feeHeaderHash d tx).length = hashLen :=
  d.length_sha256 _

@[simp] theorem length_sectionDigest (d : Device) (pre : List UInt8) (hs : List (List UInt8))
    (keys : List (UInt8 × List UInt8)) (sigs : List (UInt8 × UInt8 × List UInt8)) :
    (sectionDigest d pre hs keys sigs).length = hashLen :=
  d.length_sha256 _

section Reliable

variable {d : Device} (hd : d.Reliable)
include hd

/-- Accepted prior sections that pass the checks of `crypto_hashSigSection` hash without error:
one entry per accepted section, each a 32-byte digest. -/
theorem priorEntries_of_valid {first : List UInt8} :
    ∀ secs : List SignatureSection, (∀ prev ∈ secs, recognized first prev → HashableSection prev) →
      ∃ ps, priorEntries d first secs = .ok ps ∧
        ps.length = (secs.filter (recognized first)).length ∧ ∀ e ∈ ps, e.1.length = hashLen
  | [], _ => ⟨[], rfl, rfl, by simp⟩
  | prev :: rest, hv => by
    obtain ⟨ps, hps, hlen, hwidth⟩ :=
      priorEntries_of_valid rest (fun p hp => hv p (List.mem_cons_of_mem _ hp))
    by_cases hr : recognized first prev
    · obtain ⟨m, hm⟩ :=
        cryptoHashSigSection_of_hashable hd (hv prev (List.mem_cons_self _ _) hr) (some [0x03])
      refine ⟨(d.sha256 m, prev.idx) :: ps, by rw [priorEntries, if_pos hr, hm, hps],
        by simp [hr, hlen], ?_⟩
      · intro e he
        rcases List.mem_cons.mp he with rfl | he
        · exact d.length_sha256 _
        · exact hwidth e he
    · exact ⟨ps, by simp [priorEntries, hr, hps], by simp [hr, hlen], hwidth⟩

theorem memoEntries_of_reliable (memo : Option Section) :
    ∃ ms, memoEntries d memo = .ok ms ∧ ms.length = memo.toList.length ∧
      ∀ e ∈ ms, e.1.length = hashLen := by
  cases memo with
  | none => exact ⟨[], rfl, rfl, by simp⟩
  | some memo =>
    obtain ⟨h, hh⟩ := hd.hashSection .extraData memo
    exact ⟨[(h, memo.idx)], by simp [memoEntries, hh, bind, Except.bind, pure, Except.pure], rfl,
      by simpa using d.length_hashSection _ _ _ hh⟩

/-- The entries after the raw list exist on a reliable device with valid accepted prior
sections, and complete the raw list to `accumulatedCount` 32-byte hashes. -/
theorem sectionEntries_of_reliable {tx : ParserTx} (hprior : PriorsValid d tx)
    (pk rawSig : List UInt8) :
    ∃ es, sectionEntries d tx pk rawSig = .ok es ∧
      (rawEntries d tx).length + es.length = accumulatedCount d tx ∧
      ∀ e ∈ es, e.1.length = hashLen := by
  obtain ⟨hc, hhc⟩ := hd.hashSection .code tx.transaction.sections.code
  obtain ⟨hdt, hhdt⟩ := hd.hashSection .data tx.transaction.sections.data
  obtain ⟨ms, hms, hmsl, hmw⟩ := memoEntries_of_reliable hd tx.transaction.header.memoSection
  obtain ⟨ps, hps, hlen, hpw⟩ := priorEntries_of_valid hd _ hprior
  refine ⟨(sectionDigest d [0x03] ((rawEntries d tx).map (·.1)) [(keyEd25519, pk)]
      [(0, keyEd25519, rawSig)], UInt8.ofNat (tx.transaction.sections.sectionLen + 1)) ::
      (hc, tx.transaction.sections.code.idx) :: (hdt, tx.transaction.sections.data.idx) :: ms ++ ps,
    by simp [sectionEntries, hhc, hhdt, hms, hps, bind, Except.bind, pure, Except.pure],
    by simp [accumulatedCount, acceptedCount, hmsl, hlen]; omega, ?_⟩
  intro e he
  simp only [List.cons_append, List.mem_cons, List.mem_append] at he
  rcases he with rfl | rfl | rfl | he | he
  · exact d.length_sha256 _
  · exact d.length_hashSection _ _ _ hhc
  · exact d.length_hashSection _ _ _ hhdt
  · exact hmw e he
  · exact hpw e he

/-- On a reliable device with valid accepted prior sections the spec gives a response: a 32-byte
key, two 64-byte signatures, and origin lists as long as the two hash lists. -/
theorem signSpec_ok {tx : ParserTx} (hprior : PriorsValid d tx) :
    ∃ o, signSpec d tx = .ok o ∧ o.pubKey.length = pkLen25519 ∧
      o.rawSig.length = ed25519SignatureSize ∧ o.wrapperSig.length = ed25519SignatureSize ∧
      o.rawIndices.length = (rawEntries d tx).length ∧
      o.finalIndices.length = accumulatedCount d tx := by
  obtain ⟨pk, hpk, hpkl⟩ := devicePublicKey_of_reliable hd
  obtain ⟨rs, hrs, hrsl⟩ := deviceSign_of_reliable hd
    (sectionDigest d [] ((rawEntries d tx).map (·.1)) [] [])
  obtain ⟨es, hes, hesl, -⟩ := sectionEntries_of_reliable hd hprior pk rs
  obtain ⟨ws, hws, hwsl⟩ := deviceSign_of_reliable hd
    (sectionDigest d [] (((feeHeaderHash d tx, 0) :: txnHashes tx ++ es).map (·.1)) [] [])
  simp only [List.map_cons, List.map_append, List.cons_append] at hws
  refine ⟨⟨pk, rs, ws, (rawEntries d tx).map (·.2),
    ((feeHeaderHash d tx, 0) :: txnHashes tx ++ es).map (·.2)⟩,
    by simp [signSpec, orUnknown, hpk, hrs, hes, hws, bind, Except.bind, pure, Except.pure],
    hpkl, hrsl, hwsl, by simp, ?_⟩
  simp [rawEntries] at hesl ⊢; omega

end Reliable

/-- The response with each tag merged into the zeros before it, as the buffer holds it. -/
theorem signResponse_eq (o : SignOutput) :
    signResponse o = keyEd25519 :: o.pubKey ++ List.replicate (saltLen + 1) 0 ++ o.rawSig ++
      List.replicate (saltLen + 1) 0 ++ o.wrapperSig ++ [UInt8.ofNat o.rawIndices.length] ++
      o.rawIndices ++ [UInt8.ofNat o.finalIndices.length] ++ o.finalIndices := by
  simp [signResponse, List.replicate_succ']

/-- The response is `responseLength` bytes long. -/
theorem length_signResponse {d : Device} {tx : ParserTx} {o : SignOutput}
    (hpk : o.pubKey.length = pkLen25519) (hraw : o.rawSig.length = ed25519SignatureSize)
    (hw : o.wrapperSig.length = ed25519SignatureSize)
    (hri : o.rawIndices.length = (rawEntries d tx).length)
    (hfi : o.finalIndices.length = accumulatedCount d tx) :
    (signResponse o).length = responseLength d tx := by
  simp only [signResponse, responseLength, List.length_append, List.length_cons,
    List.length_replicate, hpk, hraw, hw, hri, hfi, indicesOffset, wrapperOffset, rawOffset]
  simp; omega

end NamadaLedger
