import Mathlib.Data.Nat.Digits.Lemmas
import Mathlib.Tactic.Ring
import Mathlib.Tactic.NormNum

/-! Numbers written as bytes. `low` reads a list of bytes from its least significant one on, the direction in which
carries run, and `value` from the most significant one on, the order in which addresses are written. -/

namespace Bytes

def low (bytes : List UInt8) : ℕ := Nat.ofDigits 256 (bytes.map UInt8.toNat)

def value (bytes : List UInt8) : ℕ := low bytes.reverse

@[simp] theorem low_nil : low [] = 0 := rfl

@[simp] theorem low_cons (b : UInt8) (bytes : List UInt8) : low (b :: bytes) = b.toNat + 256 * low bytes := by
  unfold low
  rw [List.map_cons, Nat.ofDigits_cons]

variable (bytes : List UInt8)

theorem low_lt : low bytes < 256 ^ bytes.length := by
  have hdigits : ∀ d ∈ bytes.map UInt8.toNat, d < 256 := by
    intro d hd
    obtain ⟨b, -, rfl⟩ := List.mem_map.mp hd
    exact b.toNat_lt
  have hlt := Nat.ofDigits_lt_base_pow_length (by norm_num) hdigits
  rwa [List.length_map] at hlt

theorem low_append (as bs : List UInt8) : low (as ++ bs) = low as + 256 ^ as.length * low bs := by
  unfold low
  rw [List.map_append, Nat.ofDigits_append, List.length_map]

theorem value_reverse : value bytes.reverse = low bytes := by
  rw [value, List.reverse_reverse]

theorem value_lt : value bytes < 256 ^ bytes.length := by
  have hlt := low_lt bytes.reverse
  rwa [List.length_reverse] at hlt

theorem value_append (as bs : List UInt8) : value (as ++ bs) = value as * 256 ^ bs.length + value bs := by
  unfold value
  rw [List.reverse_append, low_append, List.length_reverse]
  ring

theorem value_append_div (as bs : List UInt8) : value (as ++ bs) / 256 ^ bs.length = value as := by
  rw [value_append, Nat.add_comm, Nat.add_mul_div_right _ _ (by positivity), Nat.div_eq_of_lt (value_lt bs),
    Nat.zero_add]

@[simp] theorem value_nil : value [] = 0 := rfl

theorem value_cons (b : UInt8) (bytes : List UInt8) :
    value (b :: bytes) = b.toNat * 256 ^ bytes.length + value bytes := by
  have h := value_append [b] bytes
  simpa [value] using h

theorem value_replicate_zero (n : ℕ) : value (List.replicate n 0) = 0 := by
  induction n with
  | zero => rfl
  | succ n ih => simp [List.replicate_succ, value_cons, ih]

theorem value_replicate_max (n : ℕ) : value (List.replicate n 255) + 1 = 256 ^ n := by
  induction n with
  | zero => rfl
  | succ n ih =>
    have hmax : (255 : UInt8).toNat = 255 := rfl
    rw [List.replicate_succ, value_cons, List.length_replicate, hmax, add_assoc, ih]
    ring

theorem value_cons_lt_value_cons {a b : UInt8} {as bs : List UInt8} (hlen : as.length = bs.length)
    (h : a.toNat < b.toNat) : value (a :: as) < value (b :: bs) := by
  calc value (a :: as) = a.toNat * 256 ^ as.length + value as := value_cons a as
    _ < a.toNat * 256 ^ as.length + 256 ^ as.length := Nat.add_lt_add_left (value_lt as) _
    _ = (a.toNat + 1) * 256 ^ bs.length := by rw [hlen]; ring
    _ ≤ b.toNat * 256 ^ bs.length := Nat.mul_le_mul_right _ h
    _ ≤ value (b :: bs) := by rw [value_cons]; exact Nat.le_add_right _ _

theorem value_inj {as bs : List UInt8} (hlen : as.length = bs.length) (h : value as = value bs) : as = bs := by
  induction as generalizing bs with
  | nil => exact (List.length_eq_zero_iff.mp hlen.symm).symm
  | cons a as ih =>
    obtain _ | ⟨b, bs⟩ := bs
    · cases hlen
    · have hlen' : as.length = bs.length := Nat.succ.inj hlen
      rcases Nat.lt_trichotomy a.toNat b.toNat with hlt | heq | hgt
      · exact absurd h (value_cons_lt_value_cons hlen' hlt).ne
      · obtain rfl := UInt8.toNat_inj.mp heq
        rw [value_cons, value_cons, hlen', Nat.add_left_cancel_iff] at h
        rw [ih hlen' h]
      · exact absurd h (value_cons_lt_value_cons hlen'.symm hgt).ne'

theorem exists_value_eq {n v : ℕ} (h : v < 256 ^ n) : ∃ bytes : List UInt8, bytes.length = n ∧ value bytes = v := by
  induction n generalizing v with
  | zero => exact ⟨[], rfl, (Nat.lt_one_iff.mp h).symm⟩
  | succ n ih =>
    obtain ⟨bytes, hlen, hvalue⟩ := ih (v := v / 256) (Nat.div_lt_of_lt_mul (by rwa [pow_succ'] at h))
    refine ⟨bytes ++ [UInt8.ofNat (v % 256)], by simp [hlen], ?_⟩
    have hbyte : (UInt8.ofNat (v % 256)).toNat = v % 256 := by simp
    rw [value_append, hvalue, value_cons, hbyte]
    simp only [List.length_singleton, List.length_nil, pow_one, pow_zero, mul_one, value_nil]
    omega

theorem value_eq_zero_iff : value bytes = 0 ↔ ∀ b ∈ bytes, b = 0 := by
  constructor
  · intro h
    have hzero : bytes = List.replicate bytes.length 0 :=
      value_inj List.length_replicate.symm (h.trans (value_replicate_zero _).symm)
    exact (List.eq_replicate_iff.mp hzero).2
  · intro h
    rw [List.eq_replicate_iff.mpr ⟨rfl, h⟩, value_replicate_zero]

theorem value_eq_max_iff : value bytes + 1 = 256 ^ bytes.length ↔ ∀ b ∈ bytes, b = 255 := by
  constructor
  · intro h
    have hmax : bytes = List.replicate bytes.length 255 := by
      refine value_inj List.length_replicate.symm ?_
      have hreplicate := value_replicate_max bytes.length
      omega
    exact (List.eq_replicate_iff.mp hmax).2
  · intro h
    have hbytes : bytes = List.replicate bytes.length 255 := List.eq_replicate_iff.mpr ⟨rfl, h⟩
    rw [hbytes, List.length_replicate, value_replicate_max]

end Bytes
