import FreshVpn.LibraryBytes
import Mathlib.Data.List.AList

/-! Streams of bytes, as a writer fills them and a reader takes them apart: numbers with their most significant byte
first, and byte strings after their length. -/

namespace Stream

open Bytes

def putNumber : ℕ → ℕ → List UInt8
  | 0, _ => []
  | n + 1, v => putNumber n (v / 256) ++ [UInt8.ofNat v]

@[simp] theorem length_putNumber (n v : ℕ) : (putNumber n v).length = n := by
  induction n generalizing v with
  | zero => rfl
  | succ n ih => rw [putNumber, List.length_append, ih, List.length_singleton]

theorem value_putNumber (n v : ℕ) : value (putNumber n v) = v % 256 ^ n := by
  induction n generalizing v with
  | zero => rw [pow_zero, Nat.mod_one]; rfl
  | succ n ih =>
    have hbyte : value [UInt8.ofNat v] = v % 256 := by
      rw [value_cons, value_nil, List.length_nil, UInt8.toNat_ofNat']
      omega
    calc value (putNumber n (v / 256) ++ [UInt8.ofNat v])
        = v / 256 % 256 ^ n * 256 + v % 256 := by rw [value_append, ih, hbyte, List.length_singleton, pow_one]
      _ = v % (256 * 256 ^ n) := by rw [Nat.mod_mul, Nat.add_comm, Nat.mul_comm]
      _ = v % 256 ^ (n + 1) := by rw [pow_succ']

def getNumber (n : ℕ) (s : List UInt8) : ℕ × List UInt8 := (if n ≤ s.length then value (s.take n) else 0, s.drop n)

theorem getNumber_putNumber {n v : ℕ} (h : v < 256 ^ n) (s : List UInt8) :
    getNumber n (putNumber n v ++ s) = (v, s) := by
  have hlen : n ≤ (putNumber n v ++ s).length := by
    rw [List.length_append, length_putNumber]
    exact Nat.le_add_right n s.length
  rw [getNumber, if_pos hlen, List.take_left' (length_putNumber n v), List.drop_left' (length_putNumber n v),
    value_putNumber, Nat.mod_eq_of_lt h]

/-- The bytes after their length. -/
def putBytes (bytes : List UInt8) : List UInt8 := putNumber 4 bytes.length ++ bytes

/-- The bytes whose length comes first; the length `0xffffffff` stands for no bytes. -/
def getBytes (s : List UInt8) : List UInt8 × List UInt8 :=
  let (length, rest) := getNumber 4 s
  if length = 0xffffffff then ([], rest)
  else if length ≤ rest.length then (rest.take length, rest.drop length)
  else ([], [])

theorem getBytes_putBytes {bytes : List UInt8} (h : bytes.length < 0xffffffff) (s : List UInt8) :
    getBytes (putBytes bytes ++ s) = (bytes, s) := by
  have hlength : getNumber 4 (putBytes bytes ++ s) = (bytes.length, bytes ++ s) := by
    exact getNumber_putNumber (lt_trans h (by norm_num)) (bytes ++ s)
  have hle : bytes.length ≤ (bytes ++ s).length := by
    rw [List.length_append]
    exact Nat.le_add_right _ _
  rw [getBytes, hlength]
  dsimp only
  rw [if_neg h.ne, if_pos hle, List.take_left, List.drop_left]

/-! ### Pieces -/

section
variable {α : Type*}

/-- The piece with number `i` of those of length `k`. -/
def piece (k : ℕ) (data : List α) (i : ℕ) : List α := (data.drop (k * i)).take k

theorem length_piece_le (k : ℕ) (data : List α) (i : ℕ) : (piece k data i).length ≤ k := List.length_take_le _ _

theorem flatMap_piece (k : ℕ) (data : List α) (n : ℕ) : (List.range n).flatMap (piece k data) = data.take (k * n) := by
  induction n with
  | zero => rw [Nat.mul_zero, List.take_zero]; rfl
  | succ n ih =>
    rw [List.range_succ, List.flatMap_append, ih, List.flatMap_singleton, Nat.mul_succ, List.take_add]
    rfl

theorem length_entries_eq_iff {pieces : AList fun _ : ℕ => α} {n : ℕ} (h : ∀ i ∈ pieces, i < n) :
    pieces.entries.length = n ↔ ∀ i < n, i ∈ pieces := by
  have hlength : pieces.entries.length = pieces.keys.length := by
    rw [AList.keys, List.keys, List.length_map]
  have hsub : pieces.keys ⊆ List.range n := fun i hi => List.mem_range.mpr (h i hi)
  rw [hlength]
  constructor
  · intro hcount i hi
    have hperm := (pieces.keys_nodup.subperm hsub).perm_of_length_le (by rw [hcount, List.length_range])
    exact hperm.symm.subset (List.mem_range.mpr hi)
  · intro hall
    have hperm := (List.perm_ext_iff_of_nodup pieces.keys_nodup List.nodup_range).mpr
      fun i => ⟨fun hi => hsub hi, fun hi => hall i (List.mem_range.mp hi)⟩
    rw [hperm.length_eq, List.length_range]

end

end Stream
