import Mathlib.Data.List.Basic
import Mathlib.Data.Nat.Notation

/-! UTF-16. A character is one code unit, or a high and a low surrogate; a surrogate without its partner is read as
the replacement character. Reading the units of a text gives the text. -/

namespace Utf16

def units (c : Char) : List ℕ :=
  if c.toNat < 0x10000 then [c.toNat]
  else [0xd800 + (c.toNat - 0x10000) / 0x400, 0xdc00 + (c.toNat - 0x10000) % 0x400]

def encode (text : List Char) : List ℕ := text.flatMap units

def isHigh (u : ℕ) : Bool := 0xd800 ≤ u && u < 0xdc00

def isLow (u : ℕ) : Bool := 0xdc00 ≤ u && u < 0xe000

/-- The character of a unit that is not in a pair. -/
def single (u : ℕ) : Char := if isHigh u || isLow u then Char.ofNat 0xfffd else Char.ofNat u

def pair (high low : ℕ) : Char := Char.ofNat (0x10000 + (high - 0xd800) * 0x400 + (low - 0xdc00))

def decode : List ℕ → List Char
  | [] => []
  | [u] => [single u]
  | u :: v :: rest => if isHigh u && isLow v then pair u v :: decode rest else single u :: decode (v :: rest)

theorem toNat_valid (c : Char) : c.toNat < 0xd800 ∨ 0xdfff < c.toNat ∧ c.toNat < 0x110000 := c.valid

theorem toNat_ofNat {n : ℕ} (h : n < 0xd800) : (Char.ofNat n).toNat = n := by
  have hvalid : n.isValidChar := Or.inl h
  rw [Char.ofNat, dif_pos hvalid]
  rfl

theorem units_lt {c : Char} {u : ℕ} (h : u ∈ units c) : u < 0x10000 := by
  have hvalid := toNat_valid c
  rw [units] at h
  split_ifs at h with hsingle
  · rw [List.mem_singleton.mp h]
    exact hsingle
  · rw [List.mem_pair] at h
    rcases h with h | h <;> omega

theorem decode_cons_of_not_isHigh {u : ℕ} (h : isHigh u = false) (rest : List ℕ) :
    decode (u :: rest) = single u :: decode rest := by
  cases rest with
  | nil => rfl
  | cons v rest => rw [decode, h, Bool.false_and, if_neg Bool.false_ne_true]

theorem decode_units_append (c : Char) (rest : List ℕ) : decode (units c ++ rest) = c :: decode rest := by
  have hvalid := toNat_valid c
  rw [units]
  split_ifs with hsingle
  · have hhigh : isHigh c.toNat = false := by simp [isHigh]; omega
    have hlow : isLow c.toNat = false := by simp [isLow]; omega
    rw [List.singleton_append, decode_cons_of_not_isHigh hhigh, single, hhigh, hlow, Bool.or_false,
      if_neg Bool.false_ne_true, Char.ofNat_toNat]
  · have hhigh : isHigh (0xd800 + (c.toNat - 0x10000) / 0x400) = true := by simp [isHigh]; omega
    have hlow : isLow (0xdc00 + (c.toNat - 0x10000) % 0x400) = true := by simp [isLow]; omega
    have hvalue : 0x10000 + (0xd800 + (c.toNat - 0x10000) / 0x400 - 0xd800) * 0x400 +
        (0xdc00 + (c.toNat - 0x10000) % 0x400 - 0xdc00) = c.toNat := by omega
    rw [List.cons_append, List.singleton_append, decode, hhigh, hlow, Bool.and_true, if_pos rfl, pair, hvalue,
      Char.ofNat_toNat]

theorem decode_encode (text : List Char) : decode (encode text) = text := by
  induction text with
  | nil => rfl
  | cons c text ih =>
    change decode (units c ++ encode text) = _
    rw [decode_units_append, ih]

end Utf16
