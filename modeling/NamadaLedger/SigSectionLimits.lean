import NamadaLedger.SigSection

/-!
# What `crypto_hashSigSection` does not bound

`crypto_hashSigSection` takes its byte counts from the section's declared counts alone: the hash
bytes are `HASH_LEN * hashesLen`, and the two walks step through the key and signature buffers
by the tags they read, for as many entries as declared. No count is compared with a buffer's
length, and the walks' `uint32_t` positions wrap.

* `walkPubKeys_of_zeros`, `walkSignatures_of_zeros` — over memory of zeros every tag reads as
  ed25519, so a walk of `n` entries ends at `33 * n` (keys) or `66 * n` (signatures) modulo
  `2^32`;
* `cryptoHashSigSection_of_zeros` — so, on a reliable device, a `PubKeys` section whose key and
  signature pointers reach only zeros is hashed whatever its counts and its buffers' lengths,
  over the byte counts of its declared entries modulo `2^32`;
* `wrapSection` — a section whose three buffers are empty and which declares one hash,
  `130150525` keys and one signature: it is hashed over 32 hash bytes, `33 * 130150525 mod 2^32
  = 29` key bytes and 66 signature bytes, all read past the ends of the buffers
  (`wrapSection_hashed`).
-/

namespace NamadaLedger

/-- Memory holding only zeros reads as zero everywhere, past its end included. -/
theorem getD_of_zeros {p : List UInt8} (hp : ∀ x ∈ p, x = 0) (i : Nat) : p.getD i 0 = 0 := by
  rw [List.getD_eq_getElem?_getD]
  cases h : p[i]? with
  | none => rfl
  | some x => exact hp x (List.getElem?_mem h)

@[simp] theorem isKeyTag_zero : isKeyTag 0 = true := rfl

@[simp] theorem pubKeySize_zero : pubKeySize 0 = 32 := rfl

@[simp] theorem signatureSize_zero : signatureSize 0 = 64 := rfl

/-! ## Walks over memory of zeros -/

section Zeros

variable {p : List UInt8} (hp : ∀ x ∈ p, x = 0)
include hp

/-- Over memory of zeros every key tag reads as ed25519: each entry moves the position by 33,
modulo `2^32`. -/
theorem walkPubKeys_of_zeros (n : Nat) {pos : Nat} (hpos : pos < 2 ^ 32) :
    walkPubKeys p n pos = .ok ((pos + 33 * n) % 2 ^ 32) := by
  induction n generalizing pos with
  | zero => rw [walkPubKeys, Nat.mul_zero, Nat.add_zero, Nat.mod_eq_of_lt hpos]
  | succ n ih =>
    simp only [walkPubKeys, getD_of_zeros hp, isKeyTag_zero, pubKeySize_zero, if_true]
    rw [ih (Nat.mod_lt _ (by norm_num))]
    congr 1
    omega

/-- Over memory of zeros every signature tag reads as ed25519: each entry moves the position by
66, modulo `2^32`. -/
theorem walkSignatures_of_zeros (n : Nat) {pos : Nat} (hpos : pos < 2 ^ 32) :
    walkSignatures p n pos = .ok ((pos + 66 * n) % 2 ^ 32) := by
  induction n generalizing pos with
  | zero => rw [walkSignatures, Nat.mul_zero, Nat.add_zero, Nat.mod_eq_of_lt hpos]
  | succ n ih =>
    simp only [walkSignatures, getD_of_zeros hp, isKeyTag_zero, signatureSize_zero, if_true]
    rw [ih (Nat.mod_lt _ (by norm_num))]
    congr 1
    omega

end Zeros

/-! ## Hashing a section over memory of zeros -/

/-- On a reliable device, a `PubKeys` section whose key and signature pointers reach only zeros
is hashed whatever its counts and whatever its buffers' lengths: over `HASH_LEN * hashesLen`
hash bytes, `33 * pubKeysLen` key bytes and `66 * signaturesLen` signature bytes, each counted
modulo `2^32`, with no count compared with a buffer's `len`. -/
theorem cryptoHashSigSection_of_zeros {d : Device} (hd : d.Reliable) {s : SignatureSection}
    (hsigner : s.signerDiscriminant = signerPubKeys) (hkeys : ∀ x ∈ s.pubKeys.ptr, x = 0)
    (hsigs : ∀ x ∈ s.indexedSignatures.ptr, x = 0) (pre : Option (List UInt8)) :
    cryptoHashSigSection d s pre hashLen =
      .ok (d.sha256 (pre.getD [] ++ le32 s.hashes.hashesLen ++
        readBytes s.hashes.hashes.ptr 0 (hashLen * s.hashes.hashesLen % 2 ^ 32) ++
        [s.signerDiscriminant] ++ le32 s.pubKeysLen ++
        readBytes s.pubKeys.ptr 0 (33 * s.pubKeysLen % 2 ^ 32) ++ le32 s.signaturesLen ++
        readBytes s.indexedSignatures.ptr 0 (66 * s.signaturesLen % 2 ^ 32))) := by
  have hwk := walkPubKeys_of_zeros hkeys s.pubKeysLen (show 0 < 2 ^ 32 by norm_num)
  have hws := walkSignatures_of_zeros hsigs s.signaturesLen (show 0 < 2 ^ 32 by norm_num)
  rw [Nat.zero_add] at hwk hws
  rw [cryptoHashSigSection, if_neg (by decide)]
  simp only [hashPrefix_of_reliable hd, Device.sha256Update_of_reliable hd, hashSigner, hsigner,
    if_true, hwk, hashSignatures, hws, hashWalked_of_reliable hd, Device.sha256Final_of_reliable hd,
    bind, Except.bind, List.append_assoc]

/-- A `PubKeys` section whose hash, key and signature buffers are empty, over memory of zeros,
declaring one hash, `130150525` keys and one signature. -/
def wrapSection : SignatureSection where
  idx := 4
  hashes := ⟨⟨List.replicate 32 0, 0⟩, 1⟩
  signerDiscriminant := signerPubKeys
  pubKeysLen := 130150525
  pubKeys := ⟨List.replicate (2 ^ 32) 0, 0⟩
  addressBytes := ⟨[], 0⟩
  signaturesLen := 1
  indexedSignatures := ⟨List.replicate 66 0, 0⟩

/-- `wrapSection` is hashed, though each of its buffers is empty: over 32 hash bytes, 66
signature bytes, and `33 * 130150525 mod 2^32 = 29` key bytes, the key walk's position having
wrapped. -/
theorem wrapSection_hashed :
    sampleDevice.Reliable ∧ wrapSection.signerDiscriminant = signerPubKeys ∧
      (∀ x ∈ wrapSection.pubKeys.ptr, x = 0) ∧ (∀ x ∈ wrapSection.indexedSignatures.ptr, x = 0) ∧
      cryptoHashSigSection sampleDevice wrapSection none hashLen =
        .ok (sampleDevice.sha256 ((none : Option (List UInt8)).getD [] ++
          le32 wrapSection.hashes.hashesLen ++
          readBytes wrapSection.hashes.hashes.ptr 0 (hashLen * wrapSection.hashes.hashesLen % 2 ^ 32) ++
          [wrapSection.signerDiscriminant] ++ le32 wrapSection.pubKeysLen ++
          readBytes wrapSection.pubKeys.ptr 0 (33 * wrapSection.pubKeysLen % 2 ^ 32) ++
          le32 wrapSection.signaturesLen ++
          readBytes wrapSection.indexedSignatures.ptr 0 (66 * wrapSection.signaturesLen % 2 ^ 32))) :=
  have hkeys : ∀ x ∈ wrapSection.pubKeys.ptr, x = 0 := fun _ => List.eq_of_mem_replicate
  have hsigs : ∀ x ∈ wrapSection.indexedSignatures.ptr, x = 0 := fun _ => List.eq_of_mem_replicate
  ⟨sampleDevice_reliable, rfl, hkeys, hsigs,
    cryptoHashSigSection_of_zeros sampleDevice_reliable rfl hkeys hsigs none⟩

/-- The key walk of `wrapSection` ends at 29: its `130150525` entries span more than `2^32`
bytes. -/
example : 33 * wrapSection.pubKeysLen % 2 ^ 32 = 29 ∧ 2 ^ 32 < 33 * wrapSection.pubKeysLen := by
  decide

end NamadaLedger
