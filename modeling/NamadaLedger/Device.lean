import NamadaLedger.Types

/-!
# The host crypto engine

Key derivation, ed25519 and SHA-256 are the device's, and the section hashers live in
`crypto_helper`; none of them is among the sources. They enter the model as the fields of a
`Device`, each call of which may fail, with the output lengths the code relies on as laws. Over
them this module gives the functions of `crypto.c` that only wrap the engine:

* `cryptoExtractPublicKeyEd25519` and `cryptoSignEd25519` — they write into a caller's buffer,
  so they are `EStateM` programs over that `Buffer`: on failure they zero the range they own and
  return `zxerr_unknown`;
* `cryptoHashFeeHeader` and `cryptoHashRawHeader` — SHA-256 over the discriminant, the header
  bytes and (raw header only) a zero sub-discriminant.

`Device.Reliable` says that every call succeeds; the spec lemmas at the end give what the
wrappers compute then.
-/

namespace NamadaLedger

/-- The kinds of plain section `crypto_helper` hashes: `crypto_hashCodeSection`,
`crypto_hashDataSection` and `crypto_hashExtraDataSection`. -/
inductive SectionKind
  | code
  | data
  | extraData
  deriving Repr, DecidableEq

/-- The host crypto engine as `crypto.c` calls it. SHA-256 is used incrementally: a context is the
message absorbed so far, and each `cx_sha256_update` / `cx_sha256_final` may fail. -/
structure Device where
  /-- `os_derive_bip32_with_seed_no_throw` on the global `hdPath`: the private key data. -/
  deriveBip32 : Option (List UInt8)
  /-- `cx_ecfp_init_private_key_no_throw` on the first `SK_LEN_25519` bytes. -/
  initPrivateKey : List UInt8 → Option (List UInt8)
  /-- Whether `cx_ecfp_init_public_key_no_throw` succeeds. -/
  initPublicKey : Bool
  /-- `cx_ecfp_generate_pair_no_throw`: the public point `W = 04 ‖ x ‖ y`, big-endian. -/
  generatePair : List UInt8 → Option (List UInt8)
  /-- `cx_eddsa_sign_no_throw` (SHA-512) with a private key over a message. -/
  eddsaSign : List UInt8 → List UInt8 → Option (List UInt8)
  /-- Whether `cx_sha256_update` succeeds on a context that has absorbed the first argument. -/
  sha256UpdateOk : List UInt8 → List UInt8 → Bool
  /-- Whether `cx_sha256_final` succeeds on a context that has absorbed the argument. -/
  sha256FinalOk : List UInt8 → Bool
  /-- SHA-256. -/
  sha256 : List UInt8 → List UInt8
  /-- The section hashers of `crypto_helper`. -/
  hashSection : SectionKind → Section → Except ZxErr (List UInt8)
  length_eddsaSign : ∀ sk m s, eddsaSign sk m = some s → s.length = ed25519SignatureSize
  length_sha256 : ∀ m, (sha256 m).length = cxSha256Size
  length_hashSection : ∀ k s h, hashSection k s = .ok h → h.length = hashLen

namespace Device

variable (d : Device)

/-- `CHECK_CX_OK(cx_sha256_update(&sha256, chunk, len))` on a context that has absorbed `ctx`.
`CHECK_CX_OK` (an SDK macro, not among the sources) returns `zxerr_unknown` on failure, as the
file's own `CHECK_PARSER_OK`, written on its pattern, does. -/
def sha256Update (ctx chunk : List UInt8) : Except ZxErr (List UInt8) :=
  if d.sha256UpdateOk ctx chunk then .ok (ctx ++ chunk) else .error .unknown

/-- `CHECK_CX_OK(cx_sha256_final(&sha256, output))`: the digest of what was absorbed. -/
def sha256Final (ctx : List UInt8) : Except ZxErr (List UInt8) :=
  if d.sha256FinalOk ctx then .ok (d.sha256 ctx) else .error .unknown

/-- Every call into the engine succeeds. -/
structure Reliable : Prop where
  deriveBip32 : d.deriveBip32.isSome
  initPrivateKey : ∀ k, (d.initPrivateKey k).isSome
  initPublicKey : d.initPublicKey = true
  generatePair : ∀ sk, (d.generatePair sk).isSome
  eddsaSign : ∀ sk m, (d.eddsaSign sk m).isSome
  sha256Update : ∀ c m, d.sha256UpdateOk c m = true
  sha256Final : ∀ c, d.sha256FinalOk c = true
  hashSection : ∀ k s, ∃ h, d.hashSection k s = .ok h

variable {d}

@[simp] theorem sha256Update_of_reliable (hd : d.Reliable) (ctx chunk : List UInt8) :
    d.sha256Update ctx chunk = .ok (ctx ++ chunk) := by
  simp [sha256Update, hd.sha256Update]

@[simp] theorem sha256Final_of_reliable (hd : d.Reliable) (ctx : List UInt8) :
    d.sha256Final ctx = .ok (d.sha256 ctx) := by
  simp [sha256Final, hd.sha256Final]

end Device

/-- A device whose every call succeeds with fixed bytes: the key derivation returns ones, the
public point is all sevens, a signature is 64 copies of the message length, SHA-256 32 copies
of it, and a section hash 32 copies of the section index. The theorems' hypotheses are met on
it. -/
def sampleDevice : Device where
  deriveBip32 := some (List.replicate 32 1)
  initPrivateKey := some
  initPublicKey := true
  generatePair := fun _ => some (List.replicate 65 7)
  eddsaSign := fun _ m => some (List.replicate 64 (UInt8.ofNat m.length))
  sha256UpdateOk := fun _ _ => true
  sha256FinalOk := fun _ => true
  sha256 := fun m => List.replicate 32 (UInt8.ofNat m.length)
  hashSection := fun _ s => .ok (List.replicate 32 s.idx)
  length_eddsaSign := by rintro _ _ _ ⟨⟩; simp
  length_sha256 := by simp
  length_hashSection := by rintro _ _ _ ⟨⟩; simp

theorem sampleDevice_reliable : sampleDevice.Reliable where
  deriveBip32 := rfl
  initPrivateKey := fun _ => rfl
  initPublicKey := rfl
  generatePair := fun _ => rfl
  eddsaSign := fun _ _ => rfl
  sha256Update := fun _ _ => rfl
  sha256Final := fun _ => rfl
  hashSection := fun _ _ => ⟨_, rfl⟩

/-! ## Key derivation and ed25519 -/

/-- The compressed ed25519 key of the point `W`: `y` in little-endian order with the parity of `x`
in the top bit, as the loop and the `|= 0x80` of `crypto_extractPublicKey_ed25519` build it. -/
def compressPoint (w : List UInt8) : List UInt8 :=
  let y := (List.range pkLen25519).map fun i => w.getD (64 - i) 0
  if w.getD pkLen25519 0 &&& 1 ≠ 0 then y.set 31 (y.getD 31 0 ||| 0x80) else y

@[simp] theorem length_compressPoint (w : List UInt8) : (compressPoint w).length = pkLen25519 := by
  unfold compressPoint; split <;> simp

/-- The device public key, when every primitive of its derivation succeeds. -/
def devicePublicKey (d : Device) : Option (List UInt8) := do
  let privateKeyData ← d.deriveBip32
  let sk ← d.initPrivateKey (privateKeyData.take skLen25519)
  if d.initPublicKey then compressPoint <$> d.generatePair sk else none

/-- The device's ed25519 signature of `message`, when derivation and signing succeed. -/
def deviceSign (d : Device) (message : List UInt8) : Option (List UInt8) := do
  let privateKeyData ← d.deriveBip32
  let sk ← d.initPrivateKey (privateKeyData.take skLen25519)
  d.eddsaSign sk message

theorem length_of_devicePublicKey {d : Device} {pk : List UInt8}
    (h : devicePublicKey d = some pk) : pk.length = pkLen25519 := by
  simp only [devicePublicKey, bind, Option.bind_eq_some] at h
  obtain ⟨_, _, _, _, h⟩ := h
  split at h
  · obtain ⟨_, _, rfl⟩ := Option.map_eq_some'.mp h; simp
  · cases h

theorem length_of_deviceSign {d : Device} {m sig : List UInt8} (h : deviceSign d m = some sig) :
    sig.length = ed25519SignatureSize := by
  simp only [deviceSign, bind, Option.bind_eq_some] at h
  obtain ⟨_, _, _, _, h⟩ := h
  exact d.length_eddsaSign _ _ _ h

/-- `crypto_extractPublicKey_ed25519(output + off, pubKeyLen)`: the 32-byte key is written at
`off`; on a failed primitive the `pubKeyLen` bytes at `off` are zeroed. -/
def cryptoExtractPublicKeyEd25519 (d : Device) (off pubKeyLen : Nat) : EStateM ZxErr Buffer Unit :=
  fun out =>
    if pubKeyLen < pkLen25519 then .error .invalidCryptoSettings out
    else match devicePublicKey d with
      | some pk => .ok () (out.write off pk)
      | none => .error .unknown (out.write off (List.replicate pubKeyLen 0))

/-- `crypto_sign_ed25519(output + off, outputLen, message, messageLen)`: the 64-byte signature is
written at `off`; on a failed primitive the `outputLen` bytes at `off` are zeroed. -/
def cryptoSignEd25519 (d : Device) (off outputLen : Nat) (message : List UInt8) :
    EStateM ZxErr Buffer Unit :=
  fun out =>
    if outputLen < ed25519SignatureSize ∨ message.length = 0 then .error .unknown out
    else match deviceSign d message with
      | some sig => .ok () (out.write off sig)
      | none => .error .unknown (out.write off (List.replicate outputLen 0))

/-- A signature the device gives is written at `off`. -/
theorem cryptoSignEd25519_of_deviceSign {d : Device} {m sig : List UInt8} (hm : m ≠ [])
    (h : deviceSign d m = some sig) (off : Nat) (out : Buffer) :
    cryptoSignEd25519 d off ed25519SignatureSize m out = .ok () (out.write off sig) := by
  simp [cryptoSignEd25519, hm, h]

/-! ## Header hashes -/

/-- `crypto_hashFeeHeader`: SHA-256 of `DISCRIMINANT_HEADER` and the header's extension bytes. -/
def cryptoHashFeeHeader (d : Device) (header : Header) (outputLen : Nat) :
    Except ZxErr (List UInt8) :=
  if outputLen < cxSha256Size then .error .invalidCryptoSettings else do
    let c ← d.sha256Update [] [discriminantHeader]
    let c ← d.sha256Update c header.extBytes
    d.sha256Final c

/-- `crypto_hashRawHeader`: SHA-256 of `DISCRIMINANT_HEADER`, the raw header bytes and a zero
sub-discriminant. -/
def cryptoHashRawHeader (d : Device) (header : Header) (outputLen : Nat) :
    Except ZxErr (List UInt8) :=
  if outputLen < cxSha256Size then .error .invalidCryptoSettings else do
    let c ← d.sha256Update [] [discriminantHeader]
    let c ← d.sha256Update c header.bytes
    let c ← d.sha256Update c [0x00]
    d.sha256Final c

/-! ## What the wrappers compute on a reliable device -/

section Reliable

variable {d : Device} (hd : d.Reliable)
include hd

theorem devicePublicKey_of_reliable : ∃ pk, devicePublicKey d = some pk ∧ pk.length = 32 := by
  obtain ⟨k, hk⟩ := Option.isSome_iff_exists.mp hd.deriveBip32
  obtain ⟨sk, hsk⟩ := Option.isSome_iff_exists.mp (hd.initPrivateKey (k.take 32))
  obtain ⟨w, hw⟩ := Option.isSome_iff_exists.mp (hd.generatePair sk)
  exact ⟨compressPoint w, by simp [devicePublicKey, hk, hsk, hw, hd.initPublicKey], by simp⟩

theorem deviceSign_of_reliable (m : List UInt8) :
    ∃ sig, deviceSign d m = some sig ∧ sig.length = 64 := by
  obtain ⟨k, hk⟩ := Option.isSome_iff_exists.mp hd.deriveBip32
  obtain ⟨sk, hsk⟩ := Option.isSome_iff_exists.mp (hd.initPrivateKey (k.take 32))
  obtain ⟨sig, hs⟩ := Option.isSome_iff_exists.mp (hd.eddsaSign sk m)
  exact ⟨sig, by simp [deviceSign, hk, hsk, hs], d.length_eddsaSign _ _ _ hs⟩

theorem cryptoHashFeeHeader_of_reliable (header : Header) :
    cryptoHashFeeHeader d header hashLen = .ok (d.sha256 (discriminantHeader :: header.extBytes)) := by
  simp [cryptoHashFeeHeader, hd, bind, Except.bind]

theorem cryptoHashRawHeader_of_reliable (header : Header) :
    cryptoHashRawHeader d header hashLen =
      .ok (d.sha256 (discriminantHeader :: header.bytes ++ [0x00])) := by
  simp [cryptoHashRawHeader, hd, bind, Except.bind]

end Reliable

end NamadaLedger
