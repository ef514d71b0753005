import Mathlib.Data.List.GetD
import FreshVpn.RoutesAddress

/-! Prefixes of addresses and the test whether one contains another: the whole bytes are compared first, and then
what is left of the last one. A prefix stands for the block of addresses that share its first bits. -/

namespace FreshVpn

open Bytes

/-- The families that a table of the system is asked for by. -/
inductive AddressFamily where
  | unspec
  | inet
  | inet6
deriving DecidableEq

def IpAddress.family (ip : IpAddress) : AddressFamily := if ip.size = 4 then .inet else .inet6

/-- `AF_UNSPEC` asks for both families. -/
def AddressFamily.covers (family other : AddressFamily) : Bool := family = .unspec || other = family

/-- `IP_ADDRESS_PREFIX`. -/
structure IpPrefix where
  address : IpAddress
  length : ℕ
  length_le : length ≤ address.maxMask
deriving DecidableEq

def IpPrefix.family (p : IpPrefix) : AddressFamily := p.address.family

theorem IpPrefix.family_ne_unspec (p : IpPrefix) : p.family ≠ .unspec := by
  unfold family IpAddress.family
  split_ifs <;> decide

/-- The addresses that share their first `length` bits with the prefix. -/
def IpPrefix.block (p : IpPrefix) : Set IpAddress :=
  {ip | ip.size = p.address.size ∧
    ip.value / 2 ^ (p.address.maxMask - p.length) = p.address.value / 2 ^ (p.address.maxMask - p.length)}

/-- Prefix comparison of addresses in network order. -/
def prefixcmp (a b : List UInt8) (bits : ℕ) : ℤ :=
  let bytes := bits / 8
  let diff := if 0 < bytes then IpAddress.compareBytes (a.take bytes) (b.take bytes) else 0
  if diff ≠ 0 then diff
  else if bits % 8 ≠ 0 then
    ((a.getD bytes 0).toNat >>> (8 - bits % 8) : ℕ) - ((b.getD bytes 0).toNat >>> (8 - bits % 8) : ℕ)
  else 0

def routeContainsDest (route dest : IpPrefix) : Bool :=
  if route.family ≠ dest.family then false
  else if dest.length < route.length then false
  else prefixcmp route.address.address dest.address.address route.length = 0

/-! ### The comparison -/

theorem value_div_pow (as : List UInt8) {bits : ℕ} (hbits : bits ≤ as.length * 8) :
    value as / 2 ^ (as.length * 8 - bits) =
      value (as.take (bits / 8)) * 2 ^ (bits % 8) + (as.getD (bits / 8) 0).toNat / 2 ^ (8 - bits % 8) := by
  rcases Nat.lt_or_ge (bits / 8) as.length with hlt | hge
  · -- The bits end inside a byte of the list: the bytes after it are cut off, and then the rest of the byte is.
    have hsplit : (as.take (bits / 8) ++ [as[bits / 8]]) ++ as.drop (bits / 8 + 1) = as := by
      rw [List.append_assoc, List.singleton_append, ← List.drop_eq_getElem_cons hlt, List.take_append_drop]
    have hcut : value as / 256 ^ (as.length - (bits / 8 + 1)) =
        value (as.take (bits / 8)) * 256 + (as[bits / 8]).toNat := by
      have hdiv := value_append_div (as.take (bits / 8) ++ [as[bits / 8]]) (as.drop (bits / 8 + 1))
      rw [hsplit, List.length_drop, value_append] at hdiv
      simpa [value_cons] using hdiv
    have hexp : as.length * 8 - bits = 8 * (as.length - (bits / 8 + 1)) + (8 - bits % 8) := by omega
    have hbyte : 256 = 2 ^ (bits % 8) * 2 ^ (8 - bits % 8) := by
      rw [← pow_add, show bits % 8 + (8 - bits % 8) = 8 by omega]
      norm_num
    calc value as / 2 ^ (as.length * 8 - bits)
        = value as / 256 ^ (as.length - (bits / 8 + 1)) / 2 ^ (8 - bits % 8) := by
          rw [hexp, pow_add, pow_mul, ← Nat.div_div_eq_div_mul, show (2 : ℕ) ^ 8 = 256 from rfl]
      _ = ((as[bits / 8]).toNat + value (as.take (bits / 8)) * 2 ^ (bits % 8) * 2 ^ (8 - bits % 8)) /
            2 ^ (8 - bits % 8) := by
          rw [hcut, mul_assoc, ← hbyte, Nat.add_comm]
      _ = value (as.take (bits / 8)) * 2 ^ (bits % 8) + (as.getD (bits / 8) 0).toNat / 2 ^ (8 - bits % 8) := by
          rw [Nat.add_mul_div_right _ _ (by positivity), Nat.add_comm, List.getD_eq_getElem _ _ hlt]
  · obtain rfl : bits = as.length * 8 := by omega
    rw [Nat.sub_self, pow_zero, Nat.div_one, Nat.mul_div_cancel _ (by norm_num), List.take_length,
      Nat.mul_mod_left, pow_zero, mul_one, List.getD_eq_default _ _ (le_refl _)]
    rfl

theorem prefixcmp_eq_zero_iff_bytes {as bs : List UInt8} (hlen : as.length = bs.length) (bits : ℕ) :
    prefixcmp as bs bits = 0 ↔
      as.take (bits / 8) = bs.take (bits / 8) ∧
        (as.getD (bits / 8) 0).toNat / 2 ^ (8 - bits % 8) = (bs.getD (bits / 8) 0).toNat / 2 ^ (8 - bits % 8) := by
  have htake : (as.take (bits / 8)).length = (bs.take (bits / 8)).length := by
    rw [List.length_take, List.length_take, hlen]
  have hdiff : (if 0 < bits / 8 then IpAddress.compareBytes (as.take (bits / 8)) (bs.take (bits / 8)) else 0) = 0 ↔
      as.take (bits / 8) = bs.take (bits / 8) := by
    split_ifs with hbytes
    · rcases IpAddress.compareBytes_cases htake with ⟨hne, hlt⟩ | ⟨heq, h⟩ | ⟨hne, hlt⟩
      · exact iff_of_false (by omega) fun h => by rw [h] at hlt; exact lt_irrefl _ hlt
      · exact iff_of_true heq h
      · exact iff_of_false (by omega) fun h => by rw [h] at hlt; exact lt_irrefl _ hlt
    · rw [Nat.eq_zero_of_not_pos hbytes]
      simp
  unfold prefixcmp
  dsimp only
  generalize (if 0 < bits / 8 then IpAddress.compareBytes (as.take (bits / 8)) (bs.take (bits / 8)) else 0) = diff
    at hdiff ⊢
  split_ifs with hne hrest
  · exact iff_of_false hne fun h => hne (hdiff.mpr h.1)
  · rw [sub_eq_zero, Nat.cast_inj, Nat.shiftRight_eq_div_pow, Nat.shiftRight_eq_div_pow]
    exact ⟨fun h => ⟨hdiff.mp (not_not.mp hne), h⟩, fun h => h.2⟩
  · -- With whole bytes only, the byte after them does not count.
    have hwhole : ∀ b : UInt8, b.toNat / 2 ^ (8 - bits % 8) = 0 := by
      intro b
      rw [not_not.mp hrest]
      exact Nat.div_eq_of_lt b.toNat_lt
    rw [hwhole, hwhole]
    exact iff_of_true rfl ⟨hdiff.mp (not_not.mp hne), rfl⟩

/-- **The comparison finds no difference exactly if the first bits of the two numbers agree.** -/
theorem prefixcmp_eq_zero_iff {as bs : List UInt8} (hlen : as.length = bs.length) {bits : ℕ}
    (hbits : bits ≤ as.length * 8) :
    prefixcmp as bs bits = 0 ↔
      value as / 2 ^ (as.length * 8 - bits) = value bs / 2 ^ (as.length * 8 - bits) := by
  have hbyte : ∀ b : UInt8, b.toNat / 2 ^ (8 - bits % 8) < 2 ^ (bits % 8) := by
    intro b
    rw [Nat.div_lt_iff_lt_mul (by positivity), ← pow_add, show bits % 8 + (8 - bits % 8) = 8 by omega]
    exact b.toNat_lt
  have hquot : ∀ (n : ℕ) (b : UInt8), (n * 2 ^ (bits % 8) + b.toNat / 2 ^ (8 - bits % 8)) / 2 ^ (bits % 8) = n := by
    intro n b
    rw [Nat.add_comm, Nat.add_mul_div_right _ _ (by positivity), Nat.div_eq_of_lt (hbyte b), Nat.zero_add]
  have htake : (as.take (bits / 8)).length = (bs.take (bits / 8)).length := by
    rw [List.length_take, List.length_take, hlen]
  rw [prefixcmp_eq_zero_iff_bytes hlen, value_div_pow as hbits, hlen, value_div_pow bs (hlen ▸ hbits)]
  constructor
  · rintro ⟨hbytes, hlast⟩
    rw [hbytes, hlast]
  · intro h
    have hlast := congrArg (· % 2 ^ (bits % 8)) h
    have hbytes := congrArg (· / 2 ^ (bits % 8)) h
    simp only [Nat.mul_add_mod_self_right, Nat.mod_eq_of_lt (hbyte _)] at hlast
    simp only [hquot] at hbytes
    exact ⟨value_inj htake hbytes, hlast⟩

/-! ### Blocks -/

theorem IpAddress.family_eq_iff (ip other : IpAddress) : ip.family = other.family ↔ ip.size = other.size := by
  unfold family
  rcases ip.size_cases with hsize | hsize <;> rcases other.size_cases with hother | hother <;> rw [hsize, hother] <;>
    decide

namespace IpPrefix

theorem mem_block_self (p : IpPrefix) : p.address ∈ p.block := ⟨rfl, rfl⟩

theorem exists_mem_block (p : IpPrefix) {n : ℕ} (hn : n < 2 ^ (p.address.maxMask - p.length)) :
    ∃ ip ∈ p.block, ip.value =
      p.address.value / 2 ^ (p.address.maxMask - p.length) * 2 ^ (p.address.maxMask - p.length) + n := by
  set weight := 2 ^ (p.address.maxMask - p.length) with hweight
  have hlt : p.address.value / weight * weight + n < 256 ^ p.address.size := by
    have hvalue := p.address.value_lt
    have hmask : (2 : ℕ) ^ p.address.maxMask = weight * 2 ^ p.length := by
      rw [hweight, ← pow_add, Nat.sub_add_cancel p.length_le]
    have hquot : p.address.value / weight < 2 ^ p.length := by
      rw [Nat.div_lt_iff_lt_mul (by positivity), mul_comm, ← hmask]
      exact hvalue
    calc p.address.value / weight * weight + n
        < p.address.value / weight * weight + weight := by omega
      _ = (p.address.value / weight + 1) * weight := by ring
      _ ≤ 2 ^ p.length * weight := Nat.mul_le_mul_right _ hquot
      _ = 256 ^ p.address.size := by
          rw [mul_comm, ← hmask, IpAddress.maxMask, mul_comm, pow_mul]
          norm_num
  obtain ⟨bytes, hlen, hbytes⟩ := exists_value_eq hlt
  refine ⟨⟨bytes, hlen ▸ p.address.size_eq⟩, ⟨hlen, ?_⟩, hbytes⟩
  show value bytes / weight = _
  rw [hbytes, Nat.add_comm, Nat.add_mul_div_right _ _ (by positivity), Nat.div_eq_of_lt hn, Nat.zero_add]

theorem length_le_of_block_subset {route dest : IpPrefix} (h : dest.block ⊆ route.block) :
    route.length ≤ dest.length := by
  by_contra hlt
  have hsize : dest.address.size = route.address.size := (h dest.mem_block_self).1
  have hmask : dest.address.maxMask = route.address.maxMask := congrArg (· * 8) hsize
  have hle := route.length_le
  -- Two addresses of the smaller block differ in the first bit that only the other one fixes.
  obtain ⟨low, hlow, hlowValue⟩ := dest.exists_mem_block (n := 0) (by positivity)
  obtain ⟨high, hhigh, hhighValue⟩ := dest.exists_mem_block (n := 2 ^ (route.address.maxMask - route.length))
    (Nat.pow_lt_pow_right (by norm_num) (by omega))
  have hsame := (h hhigh).2.trans (h hlow).2.symm
  rw [hhighValue, hlowValue, Nat.add_zero, Nat.add_div_right _ (by positivity)] at hsame
  omega

end IpPrefix

/-- **The test finds exactly the routes whose block holds the whole block of the destination**, whatever the lengths. -/
theorem routeContainsDest_iff (route dest : IpPrefix) :
    routeContainsDest route dest = true ↔ dest.block ⊆ route.block := by
  unfold routeContainsDest
  split_ifs with hfamily hlength
  · refine iff_of_false not_false fun h => hfamily ?_
    exact (IpAddress.family_eq_iff _ _).mpr (h dest.mem_block_self).1.symm
  · exact iff_of_false not_false fun h => absurd (IpPrefix.length_le_of_block_subset h) (by omega)
  · have hsize : route.address.size = dest.address.size := (IpAddress.family_eq_iff _ _).mp (not_not.mp hfamily)
    have hmask : route.address.maxMask = dest.address.maxMask := congrArg (· * 8) hsize
    rw [decide_eq_true_iff, prefixcmp_eq_zero_iff hsize route.length_le]
    constructor
    · rintro h ip ⟨hip, hbits⟩
      refine ⟨hip.trans hsize.symm, ?_⟩
      -- The bits of the route are the first ones of the bits of the destination.
      have hexp : route.address.maxMask - route.length =
          dest.address.maxMask - dest.length + (dest.length - route.length) := by
        have hle := dest.length_le
        omega
      calc ip.value / 2 ^ (route.address.maxMask - route.length)
          = ip.value / 2 ^ (dest.address.maxMask - dest.length) / 2 ^ (dest.length - route.length) := by
            rw [hexp, pow_add, Nat.div_div_eq_div_mul]
        _ = dest.address.value / 2 ^ (route.address.maxMask - route.length) := by
            rw [hbits, hexp, pow_add, Nat.div_div_eq_div_mul]
        _ = route.address.value / 2 ^ (route.address.maxMask - route.length) := h.symm
    · intro h
      exact (h dest.mem_block_self).2.symm

theorem IpPrefix.block_eq_iff {route dest : IpPrefix} (h : dest.block ⊆ route.block) :
    route.block = dest.block ↔ route.length = dest.length := by
  have hsize : dest.address.size = route.address.size := (h dest.mem_block_self).1
  have hmask : dest.address.maxMask = route.address.maxMask := congrArg (· * 8) hsize
  constructor
  · intro heq
    exact le_antisymm (length_le_of_block_subset h) (length_le_of_block_subset heq.le)
  · intro hlength
    refine Set.Subset.antisymm (fun ip hip => ?_) h
    have hself := (h dest.mem_block_self).2
    refine ⟨hip.1.trans hsize.symm, ?_⟩
    rw [hmask, ← hlength, hself]
    exact hip.2

end FreshVpn
