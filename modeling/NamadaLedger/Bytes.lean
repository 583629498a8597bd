import Mathlib.Tactic.NormNum
import Mathlib.Tactic.Ring
import Mathlib.Tactic.Use
import Mathlib.Data.List.GetD
import Mathlib.Data.List.Basic

/-!
# Bytes, buffers and little-endian words

`crypto.c` works on raw memory: it hashes byte ranges starting at a pointer, stores digests and
signatures at fixed offsets of the caller's response buffer, and walks length-prefixed entries
with a `uint32_t` position. This module fixes the vocabulary the rest of the model uses for that.

* `readBytes p off n` — the `n` bytes a pointer `p` sees from `off` on. A list stands for the
  memory reachable from the pointer; past its end memory reads as zero, so a read that runs off a
  buffer is still a total function of the model.
* `overwrite` and `Buffer` — stores into a fixed-size C array. A `Buffer` also records `reach`,
  one past the highest position a store has touched, so that a store past the end of the array
  (a memory-safety violation in C) is visible in the model instead of being silently dropped.
* `le32` — the four bytes a little-endian device stores for a `uint32_t`.
-/

namespace NamadaLedger

/-! ## Reading memory -/

/-- The `n` bytes at `p + off`; memory past the end of `p` reads as zero. -/
def readBytes (p : List UInt8) (off : Nat) : Nat → List UInt8
  | 0 => []
  | n + 1 => p.getD off 0 :: readBytes p (off + 1) n

@[simp] theorem readBytes_zero (p : List UInt8) (off : Nat) : readBytes p off 0 = [] := rfl

@[simp] theorem length_readBytes (p : List UInt8) (off n : Nat) :
    (readBytes p off n).length = n := by
  induction n generalizing off <;> simp [readBytes, *]

/-- Inside the list, a read is a slice. -/
theorem readBytes_eq_take_drop {p : List UInt8} {off n : Nat} (h : off + n ≤ p.length) :
    readBytes p off n = (p.drop off).take n := by
  induction n generalizing off with
  | zero => rfl
  | succ n ih =>
    have hlt : off < p.length := by omega
    rw [readBytes, ih (by omega), List.getD_eq_getElem _ _ hlt,
      List.drop_eq_getElem_cons hlt, List.take_succ_cons]

/-- A read from the start of a list, inside it, is a prefix. -/
theorem readBytes_zero_eq_take {p : List UInt8} {n : Nat} (h : n ≤ p.length) :
    readBytes p 0 n = p.take n := by
  rw [readBytes_eq_take_drop (by omega), List.drop_zero]

/-- Reading the whole of a list gives it back. -/
@[simp] theorem readBytes_self (p : List UInt8) : readBytes p 0 p.length = p := by
  rw [readBytes_zero_eq_take le_rfl, List.take_length]

/-- A read of `n + m` bytes is the read of `n` followed by the read of `m`. -/
theorem readBytes_add (p : List UInt8) (off n m : Nat) :
    readBytes p off (n + m) = readBytes p off n ++ readBytes p (off + n) m := by
  induction n generalizing off with
  | zero => simp
  | succ n ih =>
    rw [Nat.add_right_comm, readBytes, ih, readBytes, List.cons_append]
    simp only [Nat.add_assoc, Nat.add_comm 1 n]

/-- Reading past a prefix reads the rest. -/
theorem readBytes_append_right (a b : List UInt8) (off n : Nat) :
    readBytes (a ++ b) (a.length + off) n = readBytes b off n := by
  induction n generalizing off with
  | zero => rfl
  | succ n ih =>
    simp only [readBytes, List.getD_eq_getElem?_getD, List.getElem?_append_right (by omega : a.length ≤ a.length + off),
      Nat.add_sub_cancel_left, ← ih, Nat.add_assoc]

/-- Reading past a prefix, from any offset past it, reads the rest. -/
theorem readBytes_append_of_le {a : List UInt8} {off : Nat} (h : a.length ≤ off)
    (b : List UInt8) (n : Nat) : readBytes (a ++ b) off n = readBytes b (off - a.length) n := by
  obtain ⟨k, rfl⟩ := Nat.exists_eq_add_of_le h
  rw [readBytes_append_right, Nat.add_sub_cancel_left]

/-- A read inside a prefix reads the prefix. -/
theorem readBytes_append_left {a : List UInt8} {off n : Nat} (h : off + n ≤ a.length)
    (b : List UInt8) : readBytes (a ++ b) off n = readBytes a off n := by
  rw [readBytes_eq_take_drop (by rw [List.length_append]; omega), readBytes_eq_take_drop h,
    List.drop_append_of_le_length (by omega), List.take_append_of_le_length (by simp; omega)]

/-- A read from the start, as long as a prefix, reads the prefix. -/
theorem readBytes_append_prefix (a b : List UInt8) : readBytes (a ++ b) 0 a.length = a := by
  rw [readBytes_append_left (by omega), readBytes_self]

/-- A read inside a run of one byte reads that byte. -/
theorem readBytes_replicate {m off n : Nat} (h : off + n ≤ m) (x : UInt8) :
    readBytes (List.replicate m x) off n = List.replicate n x := by
  rw [readBytes_eq_take_drop (by rw [List.length_replicate]; exact h), List.drop_replicate,
    List.take_replicate, Nat.min_eq_left (by omega)]

/-! ## Little-endian words -/

/-- The four bytes of a `uint32_t` in the device's (little-endian) memory order. -/
def le32 (n : Nat) : List UInt8 :=
  [n, n / 2 ^ 8, n / 2 ^ 16, n / 2 ^ 24].map UInt8.ofNat

@[simp] theorem length_le32 (n : Nat) : (le32 n).length = 4 := rfl

/-- The eight bytes of a `uint64_t` in the device's memory order. -/
def le64 (n : Nat) : List UInt8 := le32 n ++ le32 (n / 2 ^ 32)

@[simp] theorem length_le64 (n : Nat) : (le64 n).length = 8 := rfl

@[simp] theorem readBytes_le64 (n : Nat) : readBytes (le64 n) 0 8 = le64 n := readBytes_self _

/-- The value of little-endian bytes, as `readUint64` assembles a `uint64_t`. -/
def leValue : List UInt8 → Nat
  | [] => 0
  | b :: bs => b.toNat + 2 ^ 8 * leValue bs

theorem toNat_uint8_ofNat (n : Nat) : (UInt8.ofNat n).toNat = n % 256 := rfl

theorem leValue_append (a b : List UInt8) :
    leValue (a ++ b) = leValue a + 2 ^ (8 * a.length) * leValue b := by
  induction a with
  | nil => simp [leValue]
  | cons x a ih => rw [List.cons_append, leValue, leValue, ih, List.length_cons]; ring

theorem leValue_le32 (n : Nat) : leValue (le32 n) = n % 2 ^ 32 := by
  simp only [le32, List.map, leValue, toNat_uint8_ofNat]
  omega

/-- Reading back a stored `uint64_t` gives its value. -/
theorem leValue_le64 (n : Nat) : leValue (le64 n) = n % 2 ^ 64 := by
  rw [le64, leValue_append, leValue_le32, leValue_le32, length_le32]
  omega

/-! ## Stores into a buffer -/

/-- `p` with `bs` stored from position `off` on. The list is a fixed-size C array: stores past
its end are lost here, and `Buffer.reach` records that they happened. -/
def overwrite : List UInt8 → Nat → List UInt8 → List UInt8
  | _ :: p, 0, b :: bs => b :: overwrite p 0 bs
  | x :: p, off + 1, bs => x :: overwrite p off bs
  | p, _, _ => p

@[simp] theorem length_overwrite (p : List UInt8) (off : Nat) (bs : List UInt8) :
    (overwrite p off bs).length = p.length := by
  induction p generalizing off bs with
  | nil => rfl
  | cons x p ih => cases off <;> cases bs <;> simp only [overwrite, List.length_cons, ih]

@[simp] theorem overwrite_nil (p : List UInt8) (off : Nat) : overwrite p off [] = p := by
  induction p generalizing off with
  | nil => simp [overwrite]
  | cons x p ih => cases off <;> simp [overwrite, ih]

/-- A store past a prefix leaves the prefix alone. -/
theorem overwrite_append_right (a b : List UInt8) (off : Nat) (bs : List UInt8) :
    overwrite (a ++ b) (a.length + off) bs = a ++ overwrite b off bs := by
  induction a with
  | nil => simp
  | cons x a ih =>
    rw [List.length_cons, Nat.add_right_comm, List.cons_append, overwrite, ih, List.cons_append]

/-- A store at the start of a list that fits replaces a prefix of it. -/
theorem overwrite_zero {p bs : List UInt8} (h : bs.length ≤ p.length) :
    overwrite p 0 bs = bs ++ p.drop bs.length := by
  induction bs generalizing p with
  | nil => simp
  | cons b bs ih =>
    cases p with
    | nil => simp at h
    | cons x p => simp [overwrite, ih (by simpa using h)]

/-- A store that fits, written as the three parts of the array it touches. -/
theorem overwrite_eq {p bs : List UInt8} {off : Nat} (h : off + bs.length ≤ p.length) :
    overwrite p off bs = p.take off ++ bs ++ p.drop (off + bs.length) := by
  have hlen : (p.take off).length = off := List.length_take_of_le (by omega)
  have key := overwrite_append_right (p.take off) (p.drop off) 0 bs
  rw [List.take_append_drop, Nat.add_zero, hlen, overwrite_zero (by simp; omega),
    List.drop_drop] at key
  rw [key, List.append_assoc]

/-- A store into a run of zeros. -/
theorem overwrite_replicate {g m : Nat} {bs : List UInt8} (h : g + bs.length ≤ m) :
    overwrite (List.replicate m 0) g bs =
      List.replicate g 0 ++ bs ++ List.replicate (m - (g + bs.length)) 0 := by
  rw [overwrite_eq (by simpa using h), List.take_replicate, List.drop_replicate,
    Nat.min_eq_left (by omega)]

/-- A store just past a prefix, into the run of zeros that follows it. -/
theorem overwrite_append_zeros {a bs : List UInt8} {m : Nat} (h : bs.length ≤ m) :
    overwrite (a ++ List.replicate m 0) a.length bs =
      a ++ bs ++ List.replicate (m - bs.length) 0 := by
  have key := overwrite_append_right a (List.replicate m 0) 0 bs
  rw [Nat.add_zero] at key
  rw [key, overwrite_replicate (by simpa using h), List.append_assoc]
  simp

/-- The bytes before a store are unchanged. -/
theorem take_overwrite (p : List UInt8) (off : Nat) (bs : List UInt8) :
    (overwrite p off bs).take off = p.take off := by
  induction p generalizing off bs with
  | nil => simp [overwrite]
  | cons x p ih =>
    cases off with
    | zero => simp
    | succ off => cases bs <;> simp [overwrite, ih]

/-- A store leaves the bytes before it unchanged, past the end of the list too. -/
theorem getD_overwrite_of_lt {i off : Nat} (h : i < off) (p bs : List UInt8) :
    (overwrite p off bs).getD i 0 = p.getD i 0 := by
  induction p generalizing off i with
  | nil => rfl
  | cons x p ih =>
    cases off with
    | zero => omega
    | succ off =>
      cases i with
      | zero => rfl
      | succ i => exact ih (Nat.lt_of_succ_lt_succ h)

/-- A read that ends before a store is not affected by it. -/
theorem readBytes_overwrite_of_le {k n off : Nat} (h : k + n ≤ off) (p bs : List UInt8) :
    readBytes (overwrite p off bs) k n = readBytes p k n := by
  induction n generalizing k with
  | zero => rfl
  | succ n ih =>
    rw [readBytes, readBytes, getD_overwrite_of_lt (by omega), ih (by omega)]

/-- A store leaves the bytes after it unchanged. -/
theorem getD_overwrite_of_ge {i off : Nat} {bs : List UInt8} (h : off + bs.length ≤ i)
    (p : List UInt8) : (overwrite p off bs).getD i 0 = p.getD i 0 := by
  induction p generalizing off i bs with
  | nil => rfl
  | cons x p ih =>
    match off, bs, i with
    | 0, [], _ => rfl
    | 0, _ :: _, 0 => simp at h
    | 0, _ :: bs, i + 1 =>
      exact ih (show 0 + bs.length ≤ i by simp only [List.length_cons] at h; omega)
    | off + 1, _, 0 => omega
    | off + 1, _, i + 1 => exact ih (by omega)

/-- Inside the list, a store sets the bytes it covers. -/
theorem getD_overwrite_of_mem {i off : Nat} {bs : List UInt8} (hoff : off ≤ i)
    (hend : i < off + bs.length) (p : List UInt8) (hp : i < p.length) :
    (overwrite p off bs).getD i 0 = bs.getD (i - off) 0 := by
  induction p generalizing off i bs with
  | nil => simp at hp
  | cons x p ih =>
    simp only [List.length_cons] at hp
    match off, bs, i with
    | 0, [], _ => simp at hend
    | 0, _ :: _, 0 => rfl
    | 0, _ :: bs, i + 1 =>
      exact ih (Nat.zero_le i) (show i < 0 + bs.length by simp only [List.length_cons] at hend; omega)
        (by omega)
    | off + 1, _, 0 => omega
    | off + 1, _, i + 1 =>
      rw [Nat.add_sub_add_right]
      exact ih (by omega) (by omega) (by omega)

/-- Each byte after a store is the one that was there, or the stored one. -/
theorem getD_overwrite_eq_or (p : List UInt8) (off : Nat) (bs : List UInt8) (i : Nat) :
    (overwrite p off bs).getD i 0 = p.getD i 0 ∨
      off ≤ i ∧ i < off + bs.length ∧ (overwrite p off bs).getD i 0 = bs.getD (i - off) 0 := by
  by_cases hlo : i < off
  · exact .inl (getD_overwrite_of_lt hlo _ _)
  by_cases hhi : off + bs.length ≤ i
  · exact .inl (getD_overwrite_of_ge hhi _)
  by_cases hp : i < p.length
  · exact .inr ⟨by omega, by omega, getD_overwrite_of_mem (by omega) (by omega) _ hp⟩
  · left
    rw [List.getD_eq_default _ _ (by simp; omega), List.getD_eq_default _ _ (by omega)]

/-- A read that starts after a store is not affected by it. -/
theorem readBytes_overwrite_of_ge {k n off : Nat} {bs : List UInt8} (h : off + bs.length ≤ k)
    (p : List UInt8) : readBytes (overwrite p off bs) k n = readBytes p k n := by
  induction n generalizing k with
  | zero => rfl
  | succ n ih => rw [readBytes, readBytes, getD_overwrite_of_ge h, ih (by omega)]

/-- A store that fits, read back with everything before it. -/
theorem readBytes_overwrite_append {p bs : List UInt8} {off : Nat}
    (h : off + bs.length ≤ p.length) :
    readBytes (overwrite p off bs) 0 (off + bs.length) = readBytes p 0 off ++ bs := by
  have hoff : (p.take off).length = off := List.length_take_of_le (by omega)
  rw [readBytes_zero_eq_take (by simpa using h), overwrite_eq h, readBytes_zero_eq_take (by omega),
    List.append_assoc, List.take_append_eq_append_take, List.take_of_length_le (by omega), hoff,
    Nat.add_sub_cancel_left, List.take_append_of_le_length le_rfl, List.take_length]

/-- A store that fits reads back. -/
theorem readBytes_overwrite_self {p bs : List UInt8} {off : Nat} (h : off + bs.length ≤ p.length) :
    readBytes (overwrite p off bs) off bs.length = bs := by
  have hoff : (p.take off).length = off := List.length_take_of_le (by omega)
  rw [readBytes_eq_take_drop (by simpa using h), overwrite_eq h, List.append_assoc,
    List.drop_left' hoff, List.take_left]

/-- Two stores back to back are one store of their concatenation. -/
theorem overwrite_overwrite_append (p : List UInt8) (off : Nat) (a b : List UInt8) :
    overwrite (overwrite p off a) (off + a.length) b = overwrite p off (a ++ b) := by
  induction p generalizing off a with
  | nil => rfl
  | cons x p ih =>
    match off, a with
    | 0, [] => rfl
    | 0, c :: a => exact congrArg (c :: ·) (ih 0 a)
    | off + 1, a =>
      rw [Nat.add_right_comm]
      exact congrArg (x :: ·) (ih off a)

/-- A fixed-size C array together with the extent of the stores made into it. `reach` is one past
the highest position any non-empty store has touched; the stores stayed inside the array exactly
when `reach ≤ bytes.length`. -/
structure Buffer where
  bytes : List UInt8
  reach : Nat
  deriving Repr, DecidableEq

namespace Buffer

/-- A zero-initialised local array (`uint8_t buf[n] = {0}`): nothing stored yet. -/
def fresh (n : Nat) : Buffer := ⟨List.replicate n 0, 0⟩

/-- A store of `bs` at `off` (a `MEMCPY`, or a `MEMZERO` when `bs` is a run of zeros). -/
def write (b : Buffer) (off : Nat) (bs : List UInt8) : Buffer :=
  ⟨overwrite b.bytes off bs, if bs = [] then b.reach else max b.reach (off + bs.length)⟩

/-- The `n` bytes at `off`. -/
def read (b : Buffer) (off n : Nat) : List UInt8 := readBytes b.bytes off n

/-- Every store so far stayed inside the array. -/
def InBounds (b : Buffer) : Prop := b.reach ≤ b.bytes.length

instance (b : Buffer) : Decidable b.InBounds := inferInstanceAs (Decidable (_ ≤ _))

@[simp] theorem fresh_bytes (n : Nat) : (fresh n).bytes = List.replicate n 0 := rfl
@[simp] theorem fresh_reach (n : Nat) : (fresh n).reach = 0 := rfl
@[simp] theorem write_bytes (b : Buffer) (off : Nat) (bs : List UInt8) :
    (b.write off bs).bytes = overwrite b.bytes off bs := rfl

@[simp] theorem length_write (b : Buffer) (off : Nat) (bs : List UInt8) :
    (b.write off bs).bytes.length = b.bytes.length := by simp

/-- A store stays in bounds exactly when the buffer was in bounds and the store fits. -/
theorem inBounds_write {b : Buffer} {off : Nat} {bs : List UInt8} (hbs : bs ≠ []) :
    (b.write off bs).InBounds ↔ b.InBounds ∧ off + bs.length ≤ b.bytes.length := by
  simp [InBounds, write, hbs]

theorem reach_write_of_ne {b : Buffer} {off : Nat} {bs : List UInt8} (hbs : bs ≠ []) :
    (b.write off bs).reach = max b.reach (off + bs.length) := by
  simp [write, hbs]

/-- Two stores back to back are one store of their concatenation. -/
theorem write_write_append (b : Buffer) (off : Nat) (x y : List UInt8) :
    (b.write off x).write (off + x.length) y = b.write off (x ++ y) := by
  unfold write
  congr 1
  · exact overwrite_overwrite_append _ _ _ _
  · by_cases hx : x = [] <;> by_cases hy : y = [] <;>
      simp only [hx, hy, if_true, if_false, List.append_eq_nil, and_true, and_false,
        List.length_append, List.length_nil] <;> omega

/-- A store right after another, at `m = off + x.length`, extends it. -/
theorem write_write_of_eq {b : Buffer} {off m : Nat} {x : List UInt8} (y : List UInt8)
    (h : m = off + x.length) : (b.write off x).write m y = b.write off (x ++ y) :=
  h ▸ write_write_append b off x y

/-- `MEMZERO(buffer, bufferLen)` over the whole array. -/
@[simp] theorem write_zeros_bytes (b : Buffer) :
    (b.write 0 (List.replicate b.bytes.length 0)).bytes = List.replicate b.bytes.length 0 := by
  rw [write_bytes, overwrite_zero (by simp), List.length_replicate, List.drop_length,
    List.append_nil]

/-- Clearing a cleared buffer changes nothing. -/
theorem write_zeros_idem (b : Buffer) :
    (b.write 0 (List.replicate b.bytes.length 0)).write 0
      (List.replicate (b.write 0 (List.replicate b.bytes.length 0)).bytes.length 0) =
      b.write 0 (List.replicate b.bytes.length 0) := by
  rw [length_write]
  by_cases h : b.bytes.length = 0
  · simp [write, h]
  · have hz : List.replicate b.bytes.length (0 : UInt8) ≠ [] := by simpa using h
    have hb : overwrite b.bytes 0 (List.replicate b.bytes.length 0) =
        List.replicate b.bytes.length 0 := write_zeros_bytes b
    simp only [write, if_neg hz, Buffer.mk.injEq, List.length_replicate, hb]
    refine ⟨?_, by omega⟩
    rw [overwrite_zero le_rfl, List.length_replicate, List.drop_replicate, Nat.sub_self,
      List.replicate_zero, List.append_nil]

/-- `MEMZERO` over the whole array forgets what the array held: what is left is its length and
how far earlier stores went. -/
theorem write_zeros_congr {b b' : Buffer} (hlen : b.bytes.length = b'.bytes.length)
    (hreach : b.reach = b'.reach) :
    b.write 0 (List.replicate b.bytes.length 0) = b'.write 0 (List.replicate b'.bytes.length 0) := by
  have h := write_zeros_bytes b
  have h' := write_zeros_bytes b'
  rw [write_bytes] at h h'
  simp only [write, Buffer.mk.injEq]
  rw [h, h', hlen, hreach]
  exact ⟨rfl, rfl⟩

/-- A store that fits keeps a buffer in bounds exactly when it was. -/
theorem inBounds_write_of_fits {b : Buffer} {off : Nat} {bs : List UInt8}
    (hfit : off + bs.length ≤ b.bytes.length) : (b.write off bs).InBounds ↔ b.InBounds := by
  by_cases hbs : bs = []
  · subst hbs; simp [write, InBounds]
  · rw [inBounds_write hbs]; exact ⟨And.left, fun h => ⟨h, hfit⟩⟩

/-- The extent of the stores only grows. -/
theorem reach_le_write (b : Buffer) (off : Nat) (bs : List UInt8) :
    b.reach ≤ (b.write off bs).reach := by
  unfold write; split <;> simp

end Buffer

end NamadaLedger
