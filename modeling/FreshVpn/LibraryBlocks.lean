import Mathlib.Algebra.GroupWithZero.Divisibility
import Mathlib.Algebra.Order.Ring.Nat
import Mathlib.Data.List.Basic
import Mathlib.Tactic.ByContra

/-! Aligned blocks of numbers. The block of order `k` at `a` is the numbers from `a` to `a + 2 ^ k - 1`, where `2 ^ k`
divides `a`. -/

namespace Blocks

/-- `k` is the order of the largest block at `lo`, among those of order at most `width`, that ends by `hi`. -/
structure Largest (width lo hi k : ℕ) : Prop where
  le : k ≤ width
  aligned : 2 ^ k ∣ lo
  fits : lo + 2 ^ k ≤ hi + 1
  largest : ∀ j ≤ width, 2 ^ j ∣ lo → lo + 2 ^ j ≤ hi + 1 → j ≤ k

/-- The blocks, as their starts and orders, into which the numbers from `lo` to `hi` are decomposed. -/
inductive Decomposes (width hi : ℕ) : ℕ → List (ℕ × ℕ) → Prop
  | done {lo : ℕ} (h : hi < lo) : Decomposes width hi lo []
  | block {lo k : ℕ} {rest : List (ℕ × ℕ)} (h : Largest width lo hi k) (hrest : Decomposes width hi (lo + 2 ^ k) rest) :
      Decomposes width hi lo ((lo, k) :: rest)

/-- The numbers of a block. -/
def Mem (x : ℕ) (block : ℕ × ℕ) : Prop := block.1 ≤ x ∧ x < block.1 + 2 ^ block.2

theorem add_le_of_dvd {d a b : ℕ} (ha : d ∣ a) (hb : d ∣ b) (h : a < b) : a + d ≤ b := by
  obtain ⟨m, rfl⟩ := ha
  obtain ⟨n, rfl⟩ := hb
  have hmn : m + 1 ≤ n := Nat.lt_of_mul_lt_mul_left h
  calc d * m + d = d * (m + 1) := (Nat.mul_succ d m).symm
    _ ≤ d * n := Nat.mul_le_mul_left d hmn

theorem end_le_of_le {a b j k : ℕ} (ha : 2 ^ k ∣ a) (hb : 2 ^ j ∣ b) (hjk : j ≤ k) (h : b < a + 2 ^ k) :
    b + 2 ^ j ≤ a + 2 ^ k :=
  add_le_of_dvd hb (Nat.dvd_add ((pow_dvd_pow 2 hjk).trans ha) (pow_dvd_pow 2 hjk)) h

/-- A block that starts in the largest one ends by its end. -/
theorem Largest.end_le {width lo hi k : ℕ} (h : Largest width lo hi k) {a j : ℕ} (hj : j ≤ width) (haligned : 2 ^ j ∣ a)
    (hlo : lo ≤ a) (hhi : a + 2 ^ j ≤ hi + 1) (hstart : a < lo + 2 ^ k) : a + 2 ^ j ≤ lo + 2 ^ k := by
  have hjk : j ≤ k := by
    by_contra hgt
    -- A block of a higher order that starts in the largest one starts where it does.
    have hsame : a = lo := by
      by_contra hne
      have hstep := add_le_of_dvd h.aligned ((pow_dvd_pow 2 (by omega)).trans haligned)
        (lt_of_le_of_ne hlo (Ne.symm hne))
      omega
    rw [hsame] at haligned hhi
    exact hgt (h.largest j hj haligned hhi)
  exact end_le_of_le h.aligned haligned hjk hstart

namespace Decomposes

variable {width hi lo : ℕ} {blocks : List (ℕ × ℕ)}

section
variable (h : Decomposes width hi lo blocks)
include h

theorem aligned : ∀ b ∈ blocks, b.2 ≤ width ∧ 2 ^ b.2 ∣ b.1 := by
  induction h with
  | done h => intro b hb; cases hb
  | block hlargest hrest ih =>
    intro b hb
    rcases List.mem_cons.mp hb with rfl | hb
    · exact ⟨hlargest.le, hlargest.aligned⟩
    · exact ih b hb

theorem lo_le : ∀ b ∈ blocks, lo ≤ b.1 := by
  induction h with
  | done h => intro b hb; cases hb
  | block hlargest hrest ih =>
    intro b hb
    rcases List.mem_cons.mp hb with rfl | hb
    · exact le_refl _
    · exact (Nat.le_add_right _ _).trans (ih b hb)

theorem mem_iff (x : ℕ) : (∃ b ∈ blocks, Mem x b) ↔ lo ≤ x ∧ x ≤ hi := by
  induction h with
  | done h =>
    constructor
    · rintro ⟨b, hb, -⟩
      cases hb
    · intro hx
      omega
  | @block lo k rest hlargest hrest ih =>
    have hfits := hlargest.fits
    have hpos : 0 < 2 ^ k := Nat.two_pow_pos k
    have hhead : Mem x (lo, k) ↔ lo ≤ x ∧ x < lo + 2 ^ k := Iff.rfl
    rw [List.exists_mem_cons_iff, ih, hhead]
    omega

theorem pairwise : blocks.Pairwise fun b c => b.1 + 2 ^ b.2 ≤ c.1 := by
  induction h with
  | done h => exact List.Pairwise.nil
  | block hlargest hrest ih => exact List.pairwise_cons.mpr ⟨hrest.lo_le, ih⟩

theorem maximal {a j : ℕ} (hj : j ≤ width) (haligned : 2 ^ j ∣ a) (hlo : lo ≤ a) (hhi : a + 2 ^ j ≤ hi + 1) :
    ∃ b ∈ blocks, b.1 ≤ a ∧ a + 2 ^ j ≤ b.1 + 2 ^ b.2 := by
  induction h with
  | done h =>
    have hpos : 0 < 2 ^ j := Nat.two_pow_pos j
    omega
  | @block lo k rest hlargest hrest ih =>
    by_cases hnext : lo + 2 ^ k ≤ a
    · obtain ⟨b, hb, hin⟩ := ih hnext
      exact ⟨b, List.mem_cons_of_mem _ hb, hin⟩
    · exact ⟨(lo, k), List.mem_cons_self, hlo, hlargest.end_le hj haligned hlo hhi (not_le.mp hnext)⟩

end

end Decomposes

end Blocks
