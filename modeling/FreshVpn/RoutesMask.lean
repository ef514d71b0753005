import FreshVpn.RoutesAddress

/-! Networks and the arithmetic of their masks. A mask of `m` bits leaves `maxMask - m` bits of the host, and the loops
over the bytes clear these bits, set them, or count how many of them are zero. -/

namespace FreshVpn

open Bytes

structure InetNetwork where
  address : IpAddress
  mask : ℕ
deriving DecidableEq

/-- `countTrailingZeroBits` of a byte. -/
def countTrailingZeroBits (b : UInt8) : ℕ := ((List.range 8).find? fun i => b.toNat.testBit i).getD 8

/-- A byte of ones above `bits` zeros: `(0xffu shl bits).toUByte()`. -/
def byteMask (bits : ℕ) : UInt8 := UInt8.ofNat (0xff <<< bits)

namespace IpRange

/-- The first and the last address of a network. -/
def fromMask (inetAddress : IpAddress) (mask : ℕ) : IpAddress × IpAddress :=
  let lastByte := mask / 8
  if lastByte < inetAddress.size then
    let bits := byteMask (8 - mask % 8)
    ((inetAddress.set lastByte (inetAddress.get lastByte &&& bits)).fill 0 (lastByte + 1),
      (inetAddress.set lastByte (inetAddress.get lastByte ||| ~~~bits)).fill 0xff (lastByte + 1))
  else (inetAddress, inetAddress)

def possibleMaxMaskLoop (mask : ℕ) : List UInt8 → ℕ
  | [] => mask
  | b :: rest =>
    let lastZeroBits := countTrailingZeroBits b
    if lastZeroBits ≠ 8 then mask - lastZeroBits else possibleMaxMaskLoop (mask - lastZeroBits) rest

/-- The shortest mask of a network that starts at the address. -/
def getPossibleMaxMask (ip : IpAddress) : ℕ := possibleMaxMaskLoop ip.maxMask ip.address.reverse

/-- The loop of `getLastIpForMask`, over the bytes from the last one on. -/
def lastIpLoop (remainingBits : ℕ) : List UInt8 → List UInt8
  | [] => []
  | b :: rest =>
    if remainingBits > 0 then
      (if remainingBits > 8 then b ||| 0xff else b ||| ~~~byteMask remainingBits) ::
        lastIpLoop (remainingBits - 8) rest
    else b :: rest

theorem length_lastIpLoop (remainingBits : ℕ) (bytes : List UInt8) :
    (lastIpLoop remainingBits bytes).length = bytes.length := by
  induction bytes generalizing remainingBits with
  | nil => rfl
  | cons b rest ih =>
    unfold lastIpLoop
    split_ifs <;> simp [ih]

/-- The last address of the network of that mask around the address. -/
def getLastIpForMask (ip : IpAddress) (mask : ℕ) : IpAddress :=
  if ip.maxMask - mask = 0 then ip
  else ⟨(lastIpLoop (ip.maxMask - mask) ip.address.reverse).reverse, by
    simpa [length_lastIpLoop] using ip.size_eq⟩

/-! ### Bytes and masks -/

private theorem byte_table : ∀ b < 256, ∀ k < 9,
    (UInt8.ofNat b &&& byteMask k).toNat = b / 2 ^ k * 2 ^ k ∧
      (UInt8.ofNat b ||| ~~~byteMask k).toNat = b / 2 ^ k * 2 ^ k + (2 ^ k - 1) ∧
      (2 ^ k ∣ b ↔ k ≤ countTrailingZeroBits (UInt8.ofNat b)) := by
  decide +kernel

variable (b : UInt8) (ip : IpAddress) {k : ℕ} (mask : ℕ)

theorem toNat_and_byteMask (hk : k ≤ 8) : (b &&& byteMask k).toNat = b.toNat / 2 ^ k * 2 ^ k := by
  have h := (byte_table b.toNat b.toNat_lt k (by omega)).1
  rwa [UInt8.ofNat_toNat] at h

theorem toNat_or_byteMask (hk : k ≤ 8) : (b ||| ~~~byteMask k).toNat = b.toNat / 2 ^ k * 2 ^ k + (2 ^ k - 1) := by
  have h := (byte_table b.toNat b.toNat_lt k (by omega)).2.1
  rwa [UInt8.ofNat_toNat] at h

theorem dvd_toNat_iff (hk : k ≤ 8) : 2 ^ k ∣ b.toNat ↔ k ≤ countTrailingZeroBits b := by
  have h := (byte_table b.toNat b.toNat_lt k (by omega)).2.2
  rwa [UInt8.ofNat_toNat] at h

theorem toNat_or_max : (b ||| 0xff).toNat = 255 := by
  have h := toNat_or_byteMask b (le_refl 8)
  have hlt := b.toNat_lt
  rw [Nat.div_eq_of_lt (by omega)] at h
  exact h

theorem clear_last_byte (high b : ℕ) (hk : k ≤ 8) :
    (b + 256 * high) / 2 ^ k * 2 ^ k = b / 2 ^ k * 2 ^ k + 256 * high := by
  have hsplit : 256 = 2 ^ k * 2 ^ (8 - k) := by
    rw [← pow_add, Nat.add_sub_cancel' hk]
    rfl
  rw [hsplit, mul_assoc, Nat.add_mul_div_left _ _ (Nat.two_pow_pos k)]
  ring

theorem clear_more_bytes (high : ℕ) {b : ℕ} (hb : b < 256) :
    (b + 256 * high) / 2 ^ (k + 8) * 2 ^ (k + 8) = 256 * (high / 2 ^ k * 2 ^ k) := by
  have hdiv : (b + 256 * high) / 2 ^ (k + 8) = high / 2 ^ k := by
    rw [pow_add, Nat.mul_comm (2 ^ k), ← Nat.div_div_eq_div_mul, Nat.add_mul_div_left _ _ (Nat.two_pow_pos 8),
      Nat.div_eq_of_lt hb, Nat.zero_add]
  rw [hdiv, pow_add]
  ring

/-! ### Setting the bits of the host -/

theorem lastIpLoop_zero (bytes : List UInt8) : lastIpLoop 0 bytes = bytes := by
  cases bytes with
  | nil => rfl
  | cons b rest => exact if_neg (lt_irrefl 0)

theorem low_lastIpLoop {remainingBits : ℕ} {bytes : List UInt8} (h : remainingBits ≤ 8 * bytes.length) :
    low (lastIpLoop remainingBits bytes) = low bytes / 2 ^ remainingBits * 2 ^ remainingBits +
      (2 ^ remainingBits - 1) := by
  induction bytes generalizing remainingBits with
  | nil =>
    obtain rfl : remainingBits = 0 := by simpa using h
    rfl
  | cons b rest ih =>
    rcases Nat.eq_zero_or_pos remainingBits with rfl | hpos
    · rw [lastIpLoop_zero]
      simp
    · unfold lastIpLoop
      rw [if_pos hpos]
      by_cases hmore : remainingBits > 8
      · obtain ⟨k, rfl⟩ : ∃ k, remainingBits = k + 8 := ⟨remainingBits - 8, by omega⟩
        rw [List.length_cons] at h
        have hpow : 0 < 2 ^ k := Nat.two_pow_pos k
        rw [if_pos hmore, low_cons, low_cons, toNat_or_max, clear_more_bytes _ b.toNat_lt, Nat.add_sub_cancel,
          ih (by omega), pow_add]
        omega
      · have hlast : remainingBits - 8 = 0 := by omega
        rw [if_neg hmore, hlast, lastIpLoop_zero, low_cons, low_cons, toNat_or_byteMask b (by omega),
          clear_last_byte _ _ (by omega)]
        omega

theorem getLastIpForMask_size : (getLastIpForMask ip mask).size = ip.size := by
  unfold getLastIpForMask
  split_ifs
  · rfl
  · simp [IpAddress.size, length_lastIpLoop]

theorem getLastIpForMask_value :
    (getLastIpForMask ip mask).value =
      ip.value / 2 ^ (ip.maxMask - mask) * 2 ^ (ip.maxMask - mask) + (2 ^ (ip.maxMask - mask) - 1) := by
  unfold getLastIpForMask
  split_ifs with hall
  · rw [hall]
    simp
  · have hbits : ip.maxMask - mask ≤ 8 * ip.address.reverse.length := by
      rw [List.length_reverse, IpAddress.maxMask, IpAddress.size]
      omega
    rw [IpAddress.value, value_reverse, low_lastIpLoop hbits]
    rfl

/-! ### Counting the zero bits -/

theorem countTrailingZeroBits_le : countTrailingZeroBits b ≤ 8 := by
  unfold countTrailingZeroBits
  cases hfind : (List.range 8).find? fun i => b.toNat.testBit i with
  | none => exact le_refl 8
  | some i => exact (List.mem_range.mp (List.mem_of_find?_eq_some hfind)).le

theorem possibleMaxMaskLoop_spec (bytes : List UInt8) :
    ∃ zeros ≤ 8 * bytes.length, possibleMaxMaskLoop mask bytes = mask - zeros ∧
      ∀ k ≤ 8 * bytes.length, 2 ^ k ∣ low bytes ↔ k ≤ zeros := by
  induction bytes generalizing mask with
  | nil =>
    refine ⟨0, le_refl 0, rfl, fun k hk => ?_⟩
    obtain rfl : k = 0 := Nat.le_zero.mp hk
    simp
  | cons b rest ih =>
    have hle := countTrailingZeroBits_le b
    have hbyte : ∀ k ≤ 8, 2 ^ k ∣ low (b :: rest) ↔ k ≤ countTrailingZeroBits b := by
      intro k hk
      have hhigh : 2 ^ k ∣ 256 * low rest := (pow_dvd_pow 2 hk).trans (Nat.dvd_mul_right _ _)
      rw [low_cons, Nat.dvd_add_left hhigh, dvd_toNat_iff b hk]
    unfold possibleMaxMaskLoop
    rw [List.length_cons]
    by_cases hzero : countTrailingZeroBits b = 8
    · -- The whole byte is zero, and the count goes on with the byte before.
      obtain ⟨zeros, hzeros, hmask, hdvd⟩ := ih (mask - 8)
      have hb : b.toNat = 0 := by
        have hdvd8 : 2 ^ 8 ∣ b.toNat := (dvd_toNat_iff b (le_refl 8)).mpr hzero.ge
        exact Nat.eq_zero_of_dvd_of_lt hdvd8 b.toNat_lt
      refine ⟨8 + zeros, by omega, ?_, fun k hk => ?_⟩
      · rw [hzero, if_neg (not_not.mpr rfl), hmask, Nat.sub_sub]
      · by_cases hk8 : k ≤ 8
        · rw [hbyte k hk8, hzero]
          omega
        · obtain ⟨j, rfl⟩ : ∃ j, k = 8 + j := ⟨k - 8, by omega⟩
          rw [low_cons, hb, Nat.zero_add, pow_add, show (2 : ℕ) ^ 8 = 256 from rfl,
            Nat.mul_dvd_mul_iff_left (by norm_num), hdvd j (by omega)]
          omega
    · refine ⟨countTrailingZeroBits b, by omega, if_pos hzero, fun k hk => ?_⟩
      by_cases hk8 : k ≤ 8
      · exact hbyte k hk8
      · refine ⟨fun hdvd => ?_, fun hk' => by omega⟩
        have h8 := (hbyte 8 (le_refl 8)).mp ((pow_dvd_pow 2 (by omega)).trans hdvd)
        omega

theorem getPossibleMaxMask_spec :
    getPossibleMaxMask ip ≤ ip.maxMask ∧
      ∀ k ≤ ip.maxMask, 2 ^ k ∣ ip.value ↔ k ≤ ip.maxMask - getPossibleMaxMask ip := by
  obtain ⟨zeros, hzeros, hmask, hdvd⟩ := possibleMaxMaskLoop_spec ip.maxMask ip.address.reverse
  have hlen : 8 * ip.address.reverse.length = ip.maxMask := by
    rw [List.length_reverse, IpAddress.maxMask, IpAddress.size, Nat.mul_comm]
  rw [hlen] at hzeros hdvd
  unfold getPossibleMaxMask
  rw [hmask, Nat.sub_sub_self hzeros]
  exact ⟨Nat.sub_le _ _, hdvd⟩

/-! ### The bounds of a network -/

theorem value_around (before after : List UInt8) (b : UInt8) :
    Bytes.value (before ++ b :: after) =
      (b.toNat + 256 * Bytes.value before) * 256 ^ after.length + Bytes.value after := by
  rw [value_append, value_cons, List.length_cons]
  ring

theorem fill_set_address {ip : IpAddress} {i : ℕ} (h : i < ip.size) (b c : UInt8) :
    ((ip.set i b).fill c (i + 1)).address =
      ip.address.take i ++ b :: List.replicate (ip.address.drop (i + 1)).length c := by
  have hset : ip.address.set i b = ip.address.take i ++ b :: ip.address.drop (i + 1) :=
    List.set_eq_take_append_cons_drop.trans (if_pos h)
  have htake : (ip.address.take i).length = i := List.length_take_of_le h.le
  simp only [IpAddress.fill, IpAddress.set, IpAddress.size, List.length_set, List.length_drop]
  rw [hset, List.take_append, htake, List.take_of_length_le (by omega), Nat.add_sub_cancel_left]
  simp

theorem address_around {ip : IpAddress} {i : ℕ} (h : i < ip.size) :
    ip.address = ip.address.take i ++ ip.get i :: ip.address.drop (i + 1) := by
  have hlt : i < ip.address.length := h
  have hget : ip.get i = ip.address[i] := by
    simp [IpAddress.get, hlt]
  rw [hget, List.cons_getElem_drop_succ, List.take_append_drop]

theorem clear_bits {x after p : ℕ} (hafter : after < 256 ^ p) :
    (x * 256 ^ p + after) / 2 ^ (k + 8 * p) * 2 ^ (k + 8 * p) = x / 2 ^ k * 2 ^ k * 256 ^ p := by
  have hpow : 2 ^ (k + 8 * p) = 256 ^ p * 2 ^ k := by
    rw [pow_add, pow_mul, Nat.mul_comm]
    rfl
  rw [hpow, ← Nat.div_div_eq_div_mul, Nat.mul_comm x, Nat.mul_add_div (Nat.pow_pos (by norm_num)),
    Nat.div_eq_of_lt hafter, Nat.add_zero]
  ring

theorem set_bits (x y : ℕ) {p : ℕ} (hk : 0 < k) (hp : 0 < p) :
    (x + (k - 1) + y) * p + (p - 1) = (x + y) * p + (k * p - 1) := by
  obtain ⟨k, rfl⟩ := Nat.exists_eq_add_of_lt hk
  obtain ⟨p, rfl⟩ := Nat.exists_eq_add_of_lt hp
  have hprod : (0 + k + 1) * (0 + p + 1) - 1 = k * (p + 1) + p := by
    rw [Nat.sub_eq_iff_eq_add (Nat.mul_pos (by omega) (by omega))]
    ring
  rw [hprod, Nat.add_sub_cancel, Nat.add_sub_cancel]
  ring

theorem fromMask_spec :
    ((fromMask ip mask).1.size = ip.size ∧ (fromMask ip mask).2.size = ip.size) ∧
      (fromMask ip mask).1.value = ip.value / 2 ^ (ip.maxMask - mask) * 2 ^ (ip.maxMask - mask) ∧
      (fromMask ip mask).2.value =
        ip.value / 2 ^ (ip.maxMask - mask) * 2 ^ (ip.maxMask - mask) + (2 ^ (ip.maxMask - mask) - 1) := by
  unfold fromMask
  dsimp only
  split_ifs with hbyte
  · generalize hp : (ip.address.drop (mask / 8 + 1)).length = p
    have hsizes : mask / 8 + 1 + p = ip.size := by
      rw [← hp, List.length_drop]
      change mask / 8 < ip.address.length at hbyte
      change _ = ip.address.length
      omega
    have hbits : ip.maxMask - mask = 8 - mask % 8 + 8 * p := by
      unfold IpAddress.maxMask
      omega
    have hk : 8 - mask % 8 ≤ 8 := Nat.sub_le _ _
    have hvalue : ip.value = ((ip.get (mask / 8)).toNat + 256 * Bytes.value (ip.address.take (mask / 8))) * 256 ^ p +
        Bytes.value (ip.address.drop (mask / 8 + 1)) := by
      rw [← hp, ← value_around, ← address_around hbyte]
      rfl
    have hafter : Bytes.value (ip.address.drop (mask / 8 + 1)) < 256 ^ p := hp ▸ value_lt _
    refine ⟨⟨by simp, by simp⟩, ?_, ?_⟩
    · rw [hvalue, hbits, clear_bits hafter, IpAddress.value, fill_set_address hbyte, value_around, hp,
        value_replicate_zero, toNat_and_byteMask _ hk, clear_last_byte _ _ hk, List.length_replicate, Nat.add_zero]
    · rw [hvalue, hbits, clear_bits hafter, IpAddress.value, fill_set_address hbyte, value_around, hp,
        toNat_or_byteMask _ hk, clear_last_byte _ _ hk, List.length_replicate]
      have hfill : Bytes.value (List.replicate p 255) = 256 ^ p - 1 := Nat.eq_sub_of_add_eq (value_replicate_max p)
      have hpow : 2 ^ (8 - mask % 8 + 8 * p) = 2 ^ (8 - mask % 8) * 256 ^ p := by
        rw [pow_add, pow_mul]
        rfl
      rw [hfill, hpow]
      exact set_bits _ _ (Nat.two_pow_pos _) (Nat.pow_pos (by norm_num))
  · have hall : ip.maxMask - mask = 0 := by
      unfold IpAddress.maxMask
      omega
    rw [hall]
    simp

end IpRange

end FreshVpn
