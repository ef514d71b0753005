import Mathlib.Data.List.Basic
import Mathlib.Algebra.Group.Nat.Defs
import Mathlib.Data.Nat.Notation

/-! The URL alphabet of base64 without padding. The decoder reads six bits at a time and gives out a byte whenever
eight have come together; characters outside the alphabet are skipped. Decoding undoes encoding. -/

namespace Base64

def alphabet : List Char := "ABCDEFGHIJKLMNOPQRSTUVWXYZabcdefghijklmnopqrstuvwxyz0123456789-_".toList

def digit (v : ℕ) : Char := alphabet.getD v 'A'

def index (c : Char) : Option ℕ := alphabet.idxOf? c

/-- Three bytes make four characters; the last group may be shorter. -/
def encode : List UInt8 → List Char
  | [] => []
  | [a] => [digit (a.toNat / 4), digit (a.toNat % 4 * 16)]
  | [a, b] => [digit (a.toNat / 4), digit (a.toNat % 4 * 16 + b.toNat / 16), digit (b.toNat % 16 * 4)]
  | a :: b :: c :: rest =>
    digit (a.toNat / 4) :: digit (a.toNat % 4 * 16 + b.toNat / 16) :: digit (b.toNat % 16 * 4 + c.toNat / 64) ::
      digit (c.toNat % 64) :: encode rest

/-- The bytes of the characters, after `bits` bits with the value `buffer` that have not made a byte yet. -/
def decodeFrom (buffer bits : ℕ) : List Char → List UInt8
  | [] => []
  | c :: rest =>
    match index c with
    | none => decodeFrom buffer bits rest
    | some v =>
      if 8 ≤ bits + 6 then
        UInt8.ofNat ((buffer * 64 + v) / 2 ^ (bits - 2)) ::
          decodeFrom ((buffer * 64 + v) % 2 ^ (bits - 2)) (bits - 2) rest
      else decodeFrom (buffer * 64 + v) (bits + 6) rest

def decode (text : List Char) : List UInt8 := decodeFrom 0 0 text

theorem index_digit {v : ℕ} (h : v < 64) : index (digit v) = some v := by
  have hall : ∀ i : Fin 64, index (digit i) = some i.val := by decide +kernel
  exact hall ⟨v, h⟩

theorem decodeFrom_digit_of_lt {bits v : ℕ} (hbits : bits < 2) (h : v < 64) (buffer : ℕ) (rest : List Char) :
    decodeFrom buffer bits (digit v :: rest) = decodeFrom (buffer * 64 + v) (bits + 6) rest := by
  rw [decodeFrom, index_digit h]
  exact if_neg (by omega)

theorem decodeFrom_digit {bits v : ℕ} (hbits : 2 ≤ bits) (h : v < 64) (buffer : ℕ) (rest : List Char) :
    decodeFrom buffer bits (digit v :: rest) = UInt8.ofNat ((buffer * 64 + v) / 2 ^ (bits - 2)) ::
      decodeFrom ((buffer * 64 + v) % 2 ^ (bits - 2)) (bits - 2) rest := by
  rw [decodeFrom, index_digit h]
  exact if_pos (by omega)

theorem ofNat_eq {n : ℕ} {b : UInt8} (h : n = b.toNat) : UInt8.ofNat n = b := by
  rw [h, UInt8.ofNat_toNat]

theorem decodeFrom_first (a : UInt8) {high : ℕ} (h : high < 16) (rest : List Char) :
    decodeFrom 0 0 (digit (a.toNat / 4) :: digit (a.toNat % 4 * 16 + high) :: rest) =
      a :: decodeFrom high 4 rest := by
  have ha := a.toNat_lt
  rw [decodeFrom_digit_of_lt (by omega) (by omega), decodeFrom_digit (by omega) (by omega)]
  have hbyte : ((0 * 64 + a.toNat / 4) * 64 + (a.toNat % 4 * 16 + high)) / 2 ^ (0 + 6 - 2) = a.toNat := by omega
  have hrest : ((0 * 64 + a.toNat / 4) * 64 + (a.toNat % 4 * 16 + high)) % 2 ^ (0 + 6 - 2) = high := by omega
  rw [hrest, ofNat_eq hbyte]

theorem decodeFrom_second (b : UInt8) {high : ℕ} (h : high < 4) (rest : List Char) :
    decodeFrom (b.toNat / 16) 4 (digit (b.toNat % 16 * 4 + high) :: rest) = b :: decodeFrom high 2 rest := by
  rw [decodeFrom_digit (by omega) (by omega)]
  have hbyte : (b.toNat / 16 * 64 + (b.toNat % 16 * 4 + high)) / 2 ^ (4 - 2) = b.toNat := by omega
  have hrest : (b.toNat / 16 * 64 + (b.toNat % 16 * 4 + high)) % 2 ^ (4 - 2) = high := by omega
  rw [hrest, ofNat_eq hbyte]

theorem decodeFrom_third (c : UInt8) (rest : List Char) :
    decodeFrom (c.toNat / 64) 2 (digit (c.toNat % 64) :: rest) = c :: decodeFrom 0 0 rest := by
  rw [decodeFrom_digit (by omega) (by omega)]
  have hbyte : (c.toNat / 64 * 64 + c.toNat % 64) / 2 ^ (2 - 2) = c.toNat := by omega
  have hrest : (c.toNat / 64 * 64 + c.toNat % 64) % 2 ^ (2 - 2) = 0 := by omega
  rw [hrest, ofNat_eq hbyte]

theorem decode_encode (bytes : List UInt8) : decode (encode bytes) = bytes := by
  induction bytes using encode.induct with
  | case1 => rfl
  | case2 a => exact decodeFrom_first a (by omega : 0 < 16) []
  | case3 a b =>
    have hb := b.toNat_lt
    rw [decode, encode, decodeFrom_first a (by omega)]
    exact congrArg (a :: ·) (decodeFrom_second b (by omega : 0 < 4) [])
  | case4 a b c rest ih =>
    have hb := b.toNat_lt
    have hc := c.toNat_lt
    rw [decode, encode, decodeFrom_first a (by omega), decodeFrom_second b (by omega), decodeFrom_third]
    exact congrArg (fun tail => a :: b :: c :: tail) ih

theorem digit_mem_alphabet (v : ℕ) : digit v ∈ alphabet := by
  rw [digit, List.getD_eq_getElem?_getD]
  cases h : alphabet[v]? with
  | none => decide
  | some c => exact List.mem_of_getElem? h

theorem mem_alphabet_of_mem_encode {bytes : List UInt8} {c : Char} (h : c ∈ encode bytes) : c ∈ alphabet := by
  induction bytes using encode.induct with
  | case1 => cases h
  | case2 a =>
    simp only [encode, List.mem_cons, List.not_mem_nil, or_false] at h
    rcases h with rfl | rfl <;> exact digit_mem_alphabet _
  | case3 a b =>
    simp only [encode, List.mem_cons, List.not_mem_nil, or_false] at h
    rcases h with rfl | rfl | rfl <;> exact digit_mem_alphabet _
  | case4 a b d rest ih =>
    simp only [encode, List.mem_cons] at h
    rcases h with rfl | rfl | rfl | rfl | h
    · exact digit_mem_alphabet _
    · exact digit_mem_alphabet _
    · exact digit_mem_alphabet _
    · exact digit_mem_alphabet _
    · exact ih h

/-- The text filled up to whole groups of four characters. -/
def encodePadded (bytes : List UInt8) : List Char := encode bytes ++ List.replicate ((3 - bytes.length % 3) % 3) '='

theorem decodeFrom_append_padding (text : List Char) (n buffer bits : ℕ) :
    decodeFrom buffer bits (text ++ List.replicate n '=') = decodeFrom buffer bits text := by
  induction text generalizing buffer bits with
  | nil =>
    induction n with
    | zero => rfl
    | succ n ih => exact ih
  | cons c text ih =>
    rw [List.cons_append, decodeFrom, decodeFrom]
    cases index c with
    | none => exact ih buffer bits
    | some v => simp only [ih]

theorem decode_encodePadded (bytes : List UInt8) : decode (encodePadded bytes) = bytes := by
  rw [decode, encodePadded, decodeFrom_append_padding]
  exact decode_encode bytes

end Base64
