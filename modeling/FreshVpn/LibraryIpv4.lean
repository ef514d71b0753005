import Mathlib.Algebra.Group.Nat.Defs
import Mathlib.Data.Nat.Notation

/-! Addresses of 32 bits as they are written: four decimal numbers between dots, with or without the length of a
network behind a slash. What is written is read back, so that texts may stand for addresses in both directions. -/

namespace Decimal

def render (n : ℕ) : List Char := Nat.toDigits 10 n

def read (text : List Char) : Option ℕ :=
  if text ≠ [] ∧ text.all Char.isDigit then some (Nat.ofDigitChars 10 text 0) else none

theorem isDigit_of_mem_render {n : ℕ} {c : Char} (h : c ∈ render n) : c.isDigit = true :=
  Nat.isDigit_of_mem_toDigits (by decide) (by decide) h

theorem not_mem_render {c : Char} (hc : c.isDigit = false) (n : ℕ) : c ∉ render n := by
  intro h
  rw [isDigit_of_mem_render h] at hc
  cases hc

theorem render_ne_nil (n : ℕ) : render n ≠ [] := Nat.toDigits_ne_nil

theorem read_render (n : ℕ) : read (render n) = some n := by
  have hdigits : (render n).all Char.isDigit = true := List.all_eq_true.mpr fun c => isDigit_of_mem_render
  rw [read, if_pos ⟨render_ne_nil n, hdigits⟩]
  exact congrArg some Nat.ofDigitChars_ten_toDigits

end Decimal

namespace Ipv4

def octets (a : BitVec 32) : List ℕ :=
  [a.toNat / 2 ^ 24, a.toNat / 2 ^ 16 % 256, a.toNat / 2 ^ 8 % 256, a.toNat % 256]

def ofOctets (w x y z : ℕ) : BitVec 32 := BitVec.ofNat 32 (w * 2 ^ 24 + x * 2 ^ 16 + y * 2 ^ 8 + z)

def chars (a : BitVec 32) : List Char := ['.'].intercalate ((octets a).map Decimal.render)

def read (text : List Char) : Option (BitVec 32) :=
  match (text.splitOn '.').map Decimal.read with
  | [some w, some x, some y, some z] =>
    if w < 256 ∧ x < 256 ∧ y < 256 ∧ z < 256 then some (ofOctets w x y z) else none
  | _ => none

theorem octets_lt {a : BitVec 32} {n : ℕ} (h : n ∈ octets a) : n < 256 := by
  simp only [octets, List.mem_cons, List.not_mem_nil, or_false] at h
  omega

section
variable (a : BitVec 32)

theorem ofOctets_octets :
    ofOctets (a.toNat / 2 ^ 24) (a.toNat / 2 ^ 16 % 256) (a.toNat / 2 ^ 8 % 256) (a.toNat % 256) = a := by
  apply BitVec.eq_of_toNat_eq
  rw [ofOctets, BitVec.toNat_ofNat]
  omega

theorem splitOn_chars : (chars a).splitOn '.' = (octets a).map Decimal.render := by
  apply List.splitOn_intercalate
  · intro text htext
    obtain ⟨n, -, rfl⟩ := List.mem_map.mp htext
    exact Decimal.not_mem_render (by decide) n
  · simp [octets]

/-- **What is written is read back.** -/
theorem read_chars : read (chars a) = some a := by
  have hoctets : ((chars a).splitOn '.').map Decimal.read = (octets a).map some := by
    rw [splitOn_chars, List.map_map]
    exact List.map_congr_left fun n _ => Decimal.read_render n
  have hlt := @octets_lt a
  rw [read, hoctets]
  simp only [octets, List.map_cons, List.map_nil, List.mem_cons, List.not_mem_nil, or_false] at hlt ⊢
  rw [if_pos ⟨hlt (by simp), hlt (by simp), hlt (by simp), hlt (by simp)⟩, ofOctets_octets]

theorem chars_eq :
    chars a = Decimal.render (a.toNat / 2 ^ 24) ++ '.' :: (Decimal.render (a.toNat / 2 ^ 16 % 256) ++
      '.' :: (Decimal.render (a.toNat / 2 ^ 8 % 256) ++ '.' :: Decimal.render (a.toNat % 256))) := by
  simp [chars, octets, List.intercalate]

theorem length_chars_le : (chars a).length ≤ 15 := by
  have hlength : ∀ n < 256, (Decimal.render n).length ≤ 3 := by decide +kernel
  have hfirst := hlength (a.toNat / 2 ^ 24) (by omega)
  have hsecond := hlength (a.toNat / 2 ^ 16 % 256) (by omega)
  have hthird := hlength (a.toNat / 2 ^ 8 % 256) (by omega)
  have hfourth := hlength (a.toNat % 256) (by omega)
  rw [chars_eq]
  simp only [List.length_append, List.length_cons]
  omega

end

theorem mem_chars {a : BitVec 32} {c : Char} (h : c ∈ chars a) : c.isDigit = true ∨ c = '.' := by
  simp only [chars_eq, List.mem_append, List.mem_cons] at h
  rcases h with h | h | h | h | h | h | h
  · exact Or.inl (Decimal.isDigit_of_mem_render h)
  · exact Or.inr h
  · exact Or.inl (Decimal.isDigit_of_mem_render h)
  · exact Or.inr h
  · exact Or.inl (Decimal.isDigit_of_mem_render h)
  · exact Or.inr h
  · exact Or.inl (Decimal.isDigit_of_mem_render h)

theorem not_mem_chars {c : Char} (hc : c.isDigit = false) (hdot : c ≠ '.') (a : BitVec 32) : c ∉ chars a := by
  intro h
  rcases mem_chars h with h | h
  · rw [h] at hc
    cases hc
  · exact hdot h

end Ipv4

/-- The addresses of `w` bits that share the first `length` bits of `address`. -/
structure Network (w : ℕ) where
  address : BitVec w
  length : ℕ
  deriving DecidableEq, Repr

namespace Network

variable {w : ℕ}

def contains (n : Network w) (a : BitVec w) : Bool := a >>> (w - n.length) == n.address >>> (w - n.length)

def host (a : BitVec w) : Network w := ⟨a, w⟩

theorem host_contains (a b : BitVec w) : (host a).contains b = true ↔ b = a := by
  simp [contains, host]

end Network

namespace Ipv4

/-- An address, or a range of addresses with its length. -/
structure Range where
  address : BitVec 32
  length : Option (Fin 33)
  deriving DecidableEq, Repr

namespace Range

def chars (range : Range) : List Char :=
  ['/'].intercalate (Ipv4.chars range.address :: (range.length.map fun n => Decimal.render n).toList)

def text (range : Range) : String := String.ofList range.chars

theorem text_address (a : BitVec 32) : text ⟨a, none⟩ = String.ofList (Ipv4.chars a) := by
  simp [text, chars, List.intercalate]

def network (range : Range) : Network 32 := ⟨range.address, (range.length.map Fin.val).getD 32⟩

def readLength (text : List Char) : Option (Fin 33) :=
  (Decimal.read text).bind fun n => if h : n < 33 then some ⟨n, h⟩ else none

def read (text : List Char) : Option Range :=
  match text.splitOn '/' with
  | [address] => (Ipv4.read address).map fun a => ⟨a, none⟩
  | [address, length] => (Ipv4.read address).bind fun a => (readLength length).map fun n => ⟨a, some n⟩
  | _ => none

theorem readLength_render (n : Fin 33) : readLength (Decimal.render n) = some n := by
  rw [readLength, Decimal.read_render]
  exact dif_pos n.isLt

theorem splitOn_chars (range : Range) :
    range.chars.splitOn '/' = Ipv4.chars range.address :: (range.length.map fun n => Decimal.render n).toList := by
  apply List.splitOn_intercalate
  · intro text htext
    rcases List.mem_cons.mp htext with rfl | htext
    · exact not_mem_chars (by decide) (by decide) range.address
    · obtain ⟨n, -, rfl⟩ := Option.map_eq_some_iff.mp (Option.mem_toList.mp htext)
      exact Decimal.not_mem_render (by decide) n
  · exact List.cons_ne_nil _ _

/-- **A range that is written is read back.** -/
theorem read_chars (range : Range) : read range.chars = some range := by
  rw [read, splitOn_chars]
  obtain ⟨address, length⟩ := range
  cases length with
  | none =>
    change (Ipv4.read (Ipv4.chars address)).map _ = _
    rw [Ipv4.read_chars]
    rfl
  | some n =>
    change (Ipv4.read (Ipv4.chars address)).bind (fun a => (readLength (Decimal.render n)).map _) = _
    rw [Ipv4.read_chars, readLength_render]
    rfl

theorem read_text (range : Range) : read range.text.toList = some range := by
  rw [text, String.toList_ofList, read_chars]

end Range

end Ipv4
