import FreshVpn.RoutesRangeSet
import FreshVpn.LibraryBlocks

/-! The networks that a range is written as: from its start on, the largest network that starts there and still ends in
the range. -/

namespace FreshVpn

open Blocks IpAddress

namespace IpAddress

/-- The addresses of `::ffff:0:0/96`. -/
def isIpv4Mapped (ip : IpAddress) : Bool :=
  ip.size = 16 && ip.address.take 12 = [0, 0, 0, 0, 0, 0, 0, 0, 0, 0, 0xff, 0xff]

/-- `InetAddress.getByName` of the printed address: an IPv4-mapped address comes back as the IPv4 address, any other
as itself. -/
def reparse (ip : IpAddress) : IpAddress :=
  if h : ip.isIpv4Mapped = true then
    ⟨ip.address.drop 12, Or.inl (by
      have hsize := (Bool.and_eq_true_iff.mp h).1
      rw [List.length_drop, show ip.address.length = 16 from of_decide_eq_true hsize])⟩
  else ip

theorem reparse_of_not_mapped {ip : IpAddress} (h : ip.isIpv4Mapped = false) : ip.reparse = ip :=
  dif_neg (by rw [h]; exact Bool.false_ne_true)

theorem reparse_size_of_mapped {ip : IpAddress} (h : ip.isIpv4Mapped = true) : ip.reparse.size = 4 := by
  have hsize : ip.address.length = 16 := of_decide_eq_true (Bool.and_eq_true_iff.mp h).1
  unfold reparse
  rw [dif_pos h, size, List.length_drop, hsize]

theorem isIpv4Mapped_iff (ip : IpAddress) : ip.isIpv4Mapped = true ↔ ip.size = 16 ∧ ip.value / 2 ^ 32 = 0xffff := by
  rw [isIpv4Mapped, Bool.and_eq_true, decide_eq_true_eq, decide_eq_true_eq, and_congr_right_iff]
  intro hsize
  have hlen : ip.address.length = 16 := hsize
  have hdrop : (ip.address.drop 12).length = 4 := by rw [List.length_drop, hlen]
  have hlow := Bytes.value_lt (ip.address.drop 12)
  have hvalue : ip.value = Bytes.value (ip.address.take 12) * 256 ^ 4 + Bytes.value (ip.address.drop 12) := by
    rw [← hdrop, ← Bytes.value_append, List.take_append_drop]
    rfl
  have hhigh : ip.value / 2 ^ 32 = Bytes.value (ip.address.take 12) := by
    rw [hdrop] at hlow
    omega
  rw [hhigh]
  constructor
  · intro htake
    rw [htake]
    rfl
  · intro htake
    refine Bytes.value_inj ?_ htake
    rw [List.length_take, hlen]
    rfl

end IpAddress

namespace IpRange

/-- The inner loop of `subnets`: the mask is lengthened until the network ends by `last`. -/
def fitMask (currentIp last : IpAddress) : ℕ → ℕ → ℕ
  | 0, mask => mask
  | fuel + 1, mask =>
    if last < getLastIpForMask currentIp mask then fitMask currentIp last fuel (mask + 1) else mask

/-- The outer loop of `subnets`. Every turn uses up an address at least, so that as many turns as there are addresses
are enough. -/
def subnetsLoop (last : IpAddress) : ℕ → IpAddress → Except RangeException (List InetNetwork)
  | 0, _ => .ok []
  | fuel + 1, currentIp =>
    if currentIp ≤ last then
      let mask := fitMask currentIp last currentIp.maxMask (getPossibleMaxMask currentIp)
      let lastIp := getLastIpForMask currentIp mask
      let subnet : InetNetwork := ⟨currentIp.reparse, mask⟩
      if lastIp.isMaxIp then .ok [subnet]
      else do
        let next ← lastIp.inc
        let rest ← subnetsLoop last fuel next
        pure (subnet :: rest)
    else .ok []

def subnets (range : IpRange) : Except RangeException (List InetNetwork) :=
  subnetsLoop range.last (range.last.value + 1 - range.start.value) range.start

/-! ### The largest network -/

theorem getLastIpForMask_maxMask (ip : IpAddress) : getLastIpForMask ip ip.maxMask = ip :=
  if_pos (Nat.sub_self _)

variable {currentIp last : IpAddress}

theorem fitMask_spec (h : currentIp.point ≤ last.point) {fuel mask : ℕ} (hmask : mask ≤ currentIp.maxMask)
    (hfuel : currentIp.maxMask - mask ≤ fuel) :
    let fit := fitMask currentIp last fuel mask
    mask ≤ fit ∧ fit ≤ currentIp.maxMask ∧ (getLastIpForMask currentIp fit).point ≤ last.point ∧
      ∀ shorter, mask ≤ shorter → shorter < fit → last.point < (getLastIpForMask currentIp shorter).point := by
  induction fuel generalizing mask with
  | zero =>
    obtain rfl : mask = currentIp.maxMask := by omega
    refine ⟨le_refl _, le_refl _, ?_, fun shorter hle hlt => ?_⟩
    · rw [fitMask, getLastIpForMask_maxMask]
      exact h
    · rw [fitMask] at hlt
      omega
  | succ fuel ih =>
    unfold fitMask
    split_ifs with hlong
    · rw [lt_iff] at hlong
      have hne : mask ≠ currentIp.maxMask := by
        rintro rfl
        rw [getLastIpForMask_maxMask] at hlong
        omega
      have hnext : mask + 1 ≤ currentIp.maxMask := by omega
      obtain ⟨hle, hmax, hfits, hshorter⟩ := ih hnext (by omega)
      refine ⟨by omega, hmax, hfits, fun shorter hge hlt => ?_⟩
      rcases Nat.eq_or_lt_of_le hge with rfl | hgt
      · exact hlong
      · exact hshorter shorter hgt hlt
    · rw [not_lt, le_iff] at hlong
      exact ⟨le_refl _, hmask, hlong, fun shorter hge hlt => by omega⟩

theorem getLastIpForMask_of_dvd {ip : IpAddress} {k : ℕ} (hk : k ≤ ip.maxMask) (h : 2 ^ k ∣ ip.value) :
    (getLastIpForMask ip (ip.maxMask - k)).value + 1 = ip.value + 2 ^ k := by
  rw [getLastIpForMask_value, Nat.sub_sub_self hk, Nat.div_mul_cancel h]
  omega

theorem fitMask_largest (hsize : currentIp.size = last.size) (h : currentIp.point ≤ last.point) :
    let mask := fitMask currentIp last currentIp.maxMask (getPossibleMaxMask currentIp)
    mask ≤ currentIp.maxMask ∧ Largest last.maxMask currentIp.value last.value (currentIp.maxMask - mask) ∧
      (getLastIpForMask currentIp mask).value + 1 = currentIp.value + 2 ^ (currentIp.maxMask - mask) := by
  obtain ⟨hpossible, hzeros⟩ := getPossibleMaxMask_spec currentIp
  obtain ⟨hge, hle, hfits, hshorter⟩ := fitMask_spec h hpossible (Nat.sub_le _ _)
  generalize fitMask currentIp last currentIp.maxMask (getPossibleMaxMask currentIp) = mask at hge hle hfits hshorter ⊢
  have hwidth : last.maxMask = currentIp.maxMask := by rw [maxMask, maxMask, hsize]
  have haligned : 2 ^ (currentIp.maxMask - mask) ∣ currentIp.value :=
    (hzeros _ (Nat.sub_le _ _)).mpr (by omega)
  have hend := getLastIpForMask_of_dvd (Nat.sub_le _ _) haligned
  rw [Nat.sub_sub_self hle] at hend
  have hlast : ∀ mask, ((getLastIpForMask currentIp mask).point : ℤ) - last.point =
      (getLastIpForMask currentIp mask).value - last.value :=
    fun mask => point_of_size_eq ((getLastIpForMask_size currentIp mask).trans hsize)
  refine ⟨hle, ⟨by omega, haligned, ?_, fun j hj hdvd hfit => ?_⟩, hend⟩
  · have hpoints := hlast mask
    omega
  · by_contra hgt
    rw [hwidth] at hj
    have hzero := (hzeros j hj).mp hdvd
    have hlong := hshorter (currentIp.maxMask - j) (by omega) (by omega)
    have hpoints := hlast (currentIp.maxMask - j)
    have hend' := getLastIpForMask_of_dvd hj hdvd
    omega

/-! ### The networks of a range -/

/-- The network of a block, as it is made from the text of its first address. -/
def network (block : IpAddress × ℕ) : InetNetwork := ⟨block.1.reparse, block.1.maxMask - block.2⟩

theorem subnetsLoop_spec {fuel : ℕ} (hsize : currentIp.size = last.size)
    (hfuel : last.value + 1 - currentIp.value ≤ fuel) :
    ∃ blocks : List (IpAddress × ℕ), subnetsLoop last fuel currentIp = .ok (blocks.map network) ∧
      (∀ block ∈ blocks, block.1.size = last.size) ∧
      Decomposes last.maxMask last.value currentIp.value (blocks.map fun block => (block.1.value, block.2)) := by
  have hpoints := point_of_size_eq hsize
  induction fuel generalizing currentIp with
  | zero => exact ⟨[], rfl, fun block hblock => absurd hblock List.not_mem_nil, .done (by omega)⟩
  | succ fuel ih =>
    unfold subnetsLoop
    by_cases hle : currentIp ≤ last
    · rw [if_pos hle]
      rw [le_iff] at hle
      obtain ⟨hmask, hlargest, hend⟩ := fitMask_largest hsize hle
      dsimp only
      generalize fitMask currentIp last currentIp.maxMask (getPossibleMaxMask currentIp) = mask
        at hmask hlargest hend ⊢
      have hnetwork : network (currentIp, currentIp.maxMask - mask) = ⟨currentIp.reparse, mask⟩ := by
        rw [network, Nat.sub_sub_self hmask]
      rw [← hnetwork]
      by_cases hmax : (getLastIpForMask currentIp mask).isMaxIp = true
      · rw [if_pos hmax]
        refine ⟨[(currentIp, currentIp.maxMask - mask)], rfl, ?_, .block hlargest (.done ?_)⟩
        · simpa using hsize
        · rw [isMaxIp_iff, maxMask, getLastIpForMask_size, hsize] at hmax
          have hlt := last.value_lt
          exact lt_of_lt_of_eq hlt (hmax.symm.trans hend)
      · rw [if_neg hmax]
        obtain ⟨next, hinc, hnextSize, hnextValue⟩ := inc_of_not_max (Bool.not_eq_true _ ▸ hmax)
        have hnext : next.size = last.size := hnextSize.trans ((getLastIpForMask_size _ _).trans hsize)
        have hpos : 0 < 2 ^ (currentIp.maxMask - mask) := Nat.two_pow_pos _
        obtain ⟨blocks, hloop, hsizes, hrest⟩ := ih hnext (by omega) (point_of_size_eq hnext)
        refine ⟨(currentIp, currentIp.maxMask - mask) :: blocks, ?_, ?_, .block hlargest ?_⟩
        · rw [hinc]
          change (subnetsLoop last fuel next).bind _ = _
          rw [hloop]
          rfl
        · exact List.forall_mem_cons.mpr ⟨hsize, hsizes⟩
        · rw [← hend, ← hnextValue]
          exact hrest
    · rw [if_neg hle]
      rw [le_iff] at hle
      exact ⟨[], rfl, fun block hblock => absurd hblock List.not_mem_nil, .done (by omega)⟩

theorem subnets_spec (range : IpRange) :
    ∃ blocks : List (IpAddress × ℕ), range.subnets = .ok (blocks.map network) ∧
      (∀ block ∈ blocks, block.1.size = range.last.size) ∧
      Decomposes range.last.maxMask range.last.value range.start.value
        (blocks.map fun block => (block.1.value, block.2)) :=
  subnetsLoop_spec range.sameSize (le_refl _)

end IpRange

end FreshVpn
