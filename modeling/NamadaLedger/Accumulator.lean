import NamadaLedger.SignSteps

/-!
# The accumulator and the response buffer, abstractly

`crypto_sign` keeps its hash list in two fixed arrays and a counter. Within capacity the three
hold an abstract list of entries `(hash, origin index)`; `Holds s es` says so, slot by slot, and
the lemmas here say how every kind of store the code makes moves that list:

* `Holds.append`, `Holds.appendAll` — an appended entry, within the ten slots;
* `Holds.scratch` — a digest parked in the next free slot (the unsigned raw section's) is not
  part of the list;
* `Holds.setHead` — the fee header written over hash #0.

The caller's buffer is described the same way: `padded a len` holds the response prefix `a`
and zeros up to `len`, and a store just past the prefix extends it (`padded_write`).
-/

namespace NamadaLedger

/-! ## Slots of a fixed width -/

/-- The first `xs.length` slots of width `w` of `p` hold `xs`, one each. -/
structure SlotsHold (p : List UInt8) (w : Nat) (xs : List (List UInt8)) : Prop where
  width : ∀ x ∈ xs, x.length = w
  read : readBytes p 0 (w * xs.length) = xs.flatten

namespace SlotsHold

variable {p : List UInt8} {w : Nat} {xs : List (List UInt8)}

theorem nil (p : List UInt8) (w : Nat) : SlotsHold p w [] := ⟨by simp, by simp⟩

/-- A store into the next slot adds it to the held ones. -/
theorem write (h : SlotsHold p w xs) {x : List UInt8} (hx : x.length = w)
    (hfit : w * (xs.length + 1) ≤ p.length) :
    SlotsHold (overwrite p (w * xs.length) x) w (xs ++ [x]) where
  width := by
    intro y hy
    rcases List.mem_append.mp hy with hy | hy
    · exact h.width y hy
    · simp_all
  read := by
    have hoff : w * (xs ++ [x]).length = w * xs.length + x.length := by
      simp [hx, Nat.mul_succ]
    rw [hoff, readBytes_overwrite_append (by rw [hx, ← Nat.mul_succ]; exact hfit), h.read]
    simp

/-- A store past the held slots leaves them. -/
theorem write_past (h : SlotsHold p w xs) {off : Nat} (hoff : w * xs.length ≤ off)
    (x : List UInt8) : SlotsHold (overwrite p off x) w xs :=
  ⟨h.width, by rw [readBytes_overwrite_of_le (by simpa using hoff), h.read]⟩

/-- A store into slot 0 replaces the first held slot. -/
theorem write_head {y : List UInt8} (h : SlotsHold p w (y :: xs)) {x : List UInt8}
    (hx : x.length = w) (hfit : w ≤ p.length) : SlotsHold (overwrite p 0 x) w (x :: xs) where
  width := by
    intro z hz
    rcases List.mem_cons.mp hz with rfl | hz
    · exact hx
    · exact h.width z (List.mem_cons_of_mem _ hz)
  read := by
    have hy : y.length = w := h.width y (List.mem_cons_self _ _)
    -- the held slots after slot 0 are unchanged, and read the same before and after
    have hrest : readBytes p w (w * xs.length) = xs.flatten := by
      have := h.read
      rw [List.length_cons, Nat.mul_succ, Nat.add_comm, readBytes_add, Nat.zero_add,
        List.flatten_cons] at this
      exact (List.append_inj this (by simp [hy])).2
    have hhead : readBytes (overwrite p 0 x) 0 w = x := by
      simpa [hx] using @readBytes_overwrite_append p x 0
        (by simpa [hx] using hfit)
    rw [List.length_cons, Nat.mul_succ, Nat.add_comm, readBytes_add, Nat.zero_add, hhead,
      @readBytes_overwrite_of_ge w _ _ _ (by simp [hx]), hrest]
    simp

end SlotsHold

/-! ## The accumulator -/

/-- The accumulator of `s` holds the entries `es`: their hashes in the slots of
`hashes_buffer`, their indices in `indices_buffer`, counted by `section_hashes.hashesLen`,
within the capacity of both arrays. -/
structure Holds (s : SignState) (es : List HashEntry) : Prop where
  hashes : SlotsHold s.hashesBuffer.bytes hashLen (es.map (·.1))
  indices : SlotsHold s.indicesBuffer.bytes 1 (es.map fun e => [e.2])
  hashesLen_eq : s.hashesLen = es.length
  length_le : es.length ≤ maxSignatureHashes
  length_hashesBuffer : s.hashesBuffer.bytes.length = maxSignatureHashes * hashLen
  length_indicesBuffer : s.indicesBuffer.bytes.length = maxSignatureHashes

namespace Holds

variable {s : SignState} {es : List HashEntry}

theorem init (output : List UInt8) : Holds (SignState.init output) [] :=
  ⟨SlotsHold.nil _ _, SlotsHold.nil _ _, rfl, Nat.zero_le _, List.length_replicate _ _,
    List.length_replicate _ _⟩

/-- What the accumulator holds is a matter of the two arrays and the count alone. -/
theorem of_buffers {t : SignState} (h : Holds s es) (hh : t.hashesBuffer = s.hashesBuffer)
    (hi : t.indicesBuffer = s.indicesBuffer) (hn : t.hashesLen = s.hashesLen) : Holds t es := by
  obtain ⟨h1, h2, h3, h4, h5, h6⟩ := h
  exact ⟨hh ▸ h1, hi ▸ h2, hn ▸ h3, h4, hh ▸ h5, hi ▸ h6⟩

/-- An entry appended within capacity is held. -/
theorem append (h : Holds s es) (hlt : es.length < maxSignatureHashes) {e : HashEntry}
    (he : e.1.length = hashLen) : Holds (s.append e) (es ++ [e]) where
  hashes := by
    have hlt : es.length < 10 := hlt
    have := h.hashes.write he (by simp [h.length_hashesBuffer]; omega)
    simpa [SignState.append, h.hashesLen_eq, Nat.mul_comm] using this
  indices := by
    have hlt : es.length < 10 := hlt
    have := h.indices.write (show [e.2].length = 1 from rfl) (by simp [h.length_indicesBuffer]; omega)
    simpa [SignState.append, h.hashesLen_eq] using this
  hashesLen_eq := by simp [SignState.append, h.hashesLen_eq]
  length_le := by rw [List.length_append, List.length_singleton]; exact hlt
  length_hashesBuffer := by simp [SignState.append, h.length_hashesBuffer]
  length_indicesBuffer := by simp [SignState.append, h.length_indicesBuffer]

/-- Entries appended within capacity are held. -/
theorem appendAll {ps : List HashEntry} (h : Holds s es)
    (hle : es.length + ps.length ≤ maxSignatureHashes) (hps : ∀ e ∈ ps, e.1.length = hashLen) :
    Holds (s.appendAll ps) (es ++ ps) := by
  induction ps generalizing s es with
  | nil => simpa using h
  | cons e ps ih =>
    rw [SignState.appendAll_cons, ← List.singleton_append, ← List.append_assoc]
    exact ih (h.append (by simp at hle ⊢; omega) (hps e (List.mem_cons_self _ _)))
      (by simp at hle ⊢; omega) (fun e he => hps e (List.mem_cons_of_mem _ he))

/-- A digest parked in the next free slot is not part of the held entries. -/
theorem scratch (h : Holds s es) (x : List UInt8) :
    Holds { s with hashesBuffer := s.hashesBuffer.write (s.hashesLen * hashLen) x } es :=
  { h with
    hashes := h.hashes.write_past (by simp [h.hashesLen_eq, Nat.mul_comm]) x
    length_hashesBuffer := by simp [h.length_hashesBuffer] }

/-- A store over hash #0 and index #0 replaces the first entry. -/
theorem setHead {e e' : HashEntry} (h : Holds s (e :: es)) (he' : e'.1.length = hashLen) :
    Holds { s with hashesBuffer := s.hashesBuffer.write 0 e'.1,
                   indicesBuffer := s.indicesBuffer.write 0 [e'.2] } (e' :: es) where
  hashes := by
    simpa using h.hashes.write_head he' (by simp [h.length_hashesBuffer])
  indices := by
    simpa using h.indices.write_head (show [e'.2].length = 1 from rfl) (by simp [h.length_indicesBuffer])
  hashesLen_eq := by simpa using h.hashesLen_eq
  length_le := by simpa using h.length_le
  length_hashesBuffer := by simp [h.length_hashesBuffer]
  length_indicesBuffer := by simp [h.length_indicesBuffer]

/-- The held hashes, read back from the start of `hashes_buffer`. -/
theorem read_hashes (h : Holds s es) :
    readBytes s.hashesBuffer.bytes 0 (hashLen * es.length) = (es.map (·.1)).flatten := by
  simpa using h.hashes.read

/-- The held indices, read back from the start of `indices_buffer`. -/
theorem read_indices (h : Holds s es) : s.indicesBuffer.read 0 es.length = es.map (·.2) := by
  have := h.indices.read
  simp only [List.length_map, Nat.one_mul] at this
  rw [Buffer.read, this]
  clear this h
  induction es <;> simp [*]

/-- Hash #0 is the first held entry's. -/
theorem slotZero {e : HashEntry} (h : Holds s (e :: es)) (hsig : 0 < s.sigHashesLen) :
    SlotZero s e.1 where
  first_eq := by
    have := h.read_hashes
    rw [List.length_cons, Nat.mul_succ, Nat.add_comm, readBytes_add] at this
    exact (List.append_inj this (by simp [h.hashes.width e.1 (by simp)])).1
  hashesLen_pos := by simp [h.hashesLen_eq]
  sigHashesLen_pos := hsig

end Holds

/-- Appended entries reach the slots they fill, in both arrays. -/
theorem SignState.reach_appendAll (s : SignState) :
    ∀ {es : List HashEntry}, es ≠ [] → (∀ e ∈ es, e.1.length = hashLen) →
      hashLen * (s.hashesLen + es.length) ≤ (s.appendAll es).hashesBuffer.reach ∧
        s.hashesLen + es.length ≤ (s.appendAll es).indicesBuffer.reach
  | [e], _, hw => by
    have he : e.1 ≠ [] := List.ne_nil_of_length_pos (by simp [hw e (by simp)])
    simp only [SignState.appendAll_cons, SignState.appendAll_nil, SignState.append,
      Buffer.reach_write_of_ne he, Buffer.reach_write_of_ne (List.cons_ne_nil e.2 []),
      hw e (List.mem_singleton_self e), List.length_singleton, hashLen]
    constructor <;> omega
  | e :: e' :: rest, _, hw => by
    have ih := SignState.reach_appendAll (s.append e) (List.cons_ne_nil e' rest)
      (fun x hx => hw x (List.mem_cons_of_mem _ hx))
    have hlen : (s.append e).hashesLen = s.hashesLen + 1 := rfl
    simp only [hlen, List.length_cons, hashLen] at ih
    rw [SignState.appendAll_cons]
    simp only [List.length_cons, hashLen]
    constructor <;> omega

/-- Appended entries reach no further than the slots they fill: within `n` slots when the
arrays were and the entries fit. -/
theorem SignState.reach_appendAll_le (s : SignState) {n : Nat} :
    ∀ {es : List HashEntry}, (∀ e ∈ es, e.1.length = hashLen) →
      s.hashesBuffer.reach ≤ hashLen * n → s.indicesBuffer.reach ≤ n → s.hashesLen + es.length ≤ n →
      (s.appendAll es).hashesBuffer.reach ≤ hashLen * n ∧ (s.appendAll es).indicesBuffer.reach ≤ n
  | [], _, hh, hi, _ => ⟨hh, hi⟩
  | e :: es, hw, hh, hi, hn => by
    have hl := hw e (List.mem_cons_self _ _)
    rw [List.length_cons] at hn
    refine SignState.reach_appendAll_le (s.append e) (fun x hx => hw x (List.mem_cons_of_mem _ hx))
      ?_ (max_le hi (by rw [List.length_singleton]; omega)) (show s.hashesLen + 1 + es.length ≤ n by omega)
    rw [SignState.append, Buffer.reach_write_of_ne (List.ne_nil_of_length_pos (by simp [hl])), hl]
    exact max_le hh (by simp only [hashLen]; omega)

/-- Appending never resizes the two arrays. -/
theorem SignState.length_appendAll (s : SignState) : ∀ es : List HashEntry,
    (s.appendAll es).hashesBuffer.bytes.length = s.hashesBuffer.bytes.length ∧
      (s.appendAll es).indicesBuffer.bytes.length = s.indicesBuffer.bytes.length
  | [] => ⟨rfl, rfl⟩
  | e :: es => by
    obtain ⟨h1, h2⟩ := SignState.length_appendAll (s.append e) es
    exact ⟨h1.trans (Buffer.length_write _ _ _), h2.trans (Buffer.length_write _ _ _)⟩

/-! ## The response buffer -/

/-- The caller's buffer of `len` bytes holding `a` followed by zeros, every store so far inside
it. -/
def padded (a : List UInt8) (len : Nat) : Buffer := ⟨a ++ List.replicate (len - a.length) 0, len⟩

/-- A store that starts `g` bytes past the held prefix and ends inside the buffer extends the
prefix by `g` zeros and the stored bytes. -/
theorem padded_write {a bs : List UInt8} {len g : Nat} (h : a.length + g + bs.length ≤ len) :
    (padded a len).write (a.length + g) bs = padded (a ++ List.replicate g 0 ++ bs) len := by
  simp only [padded, Buffer.write, overwrite_append_right, Buffer.mk.injEq]
  constructor
  · rw [overwrite_replicate (by omega)]
    simp only [List.append_assoc, List.length_append, List.length_replicate]
    congr 4; omega
  · split <;> omega

/-- A store right after the held prefix extends it. -/
theorem padded_write_at {a bs : List UInt8} {len off : Nat} (hoff : off = a.length)
    (h : a.length + bs.length ≤ len) : (padded a len).write off bs = padded (a ++ bs) len := by
  simpa [hoff] using @padded_write a bs len 0 (by simpa using h)

/-- `MEMZERO(output, outputLen)` over the caller's buffer, before any store. -/
theorem write_zero_eq_padded {output : List UInt8} (h : 0 < output.length) :
    (⟨output, 0⟩ : Buffer).write 0 (List.replicate output.length 0) = padded [] output.length := by
  have hz : overwrite output 0 (List.replicate output.length 0) = List.replicate output.length 0 := by
    rw [overwrite_zero (by simp)]; simp
  simp [Buffer.write, padded, hz, h.ne']

end NamadaLedger
