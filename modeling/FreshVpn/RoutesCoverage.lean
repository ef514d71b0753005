import FreshVpn.RoutesBuilder

/-! What routes mean, and what the folding of excluded routes does to it. A list of included and excluded networks,
taken in order, leaves a set of addresses. -/

namespace FreshVpn

open Blocks Span IpAddress IpRange

/-- The address agrees with the network on the bits of the mask. -/
def InetNetwork.Contains (n : InetNetwork) (ip : IpAddress) : Prop :=
  ip.size = n.address.size ∧
    ip.value / 2 ^ (n.address.maxMask - n.mask) = n.address.value / 2 ^ (n.address.maxMask - n.mask)

instance (n : InetNetwork) (ip : IpAddress) : Decidable (n.Contains ip) := inferInstanceAs (Decidable (_ ∧ _))

def InetNetwork.addressSet (n : InetNetwork) : Set IpAddress := {ip | n.Contains ip}

def leftBy (left : Set IpAddress) (routes : List Route) : Set IpAddress :=
  routes.foldl (fun left route =>
    if route.included then left ∪ route.inetNetwork.addressSet else left \ route.inetNetwork.addressSet) left

/-- The loopback addresses of both families. -/
def loopback : Set IpAddress := InetNetwork.ipv4Loopback.addressSet ∪ InetNetwork.ipv6Loopback.addressSet

/-! ### The ranges of the fold -/

namespace IpRange

theorem mem_interval_iff (v a : ℕ) {d : ℕ} (hd : 0 < d) :
    (a / d * d ≤ v ∧ v ≤ a / d * d + (d - 1)) ↔ v / d = a / d := by
  rw [Nat.div_eq_iff hd]
  omega

theorem size_eq_of_mem {range : IpRange} {ip : IpAddress} (h : ip.point ∈ range.span.points) :
    ip.size = range.last.size := by
  have hlo : range.start.point ≤ ip.point := h.1
  have hhi : ip.point ≤ range.last.point := h.2
  have hle := size_le_of_point_le (Nat.le_succ_of_le hlo)
  have hge := size_le_of_point_le (Nat.le_succ_of_le hhi)
  have hsame := range.sameSize
  omega

theorem mem_points_iff (range : IpRange) (ip : IpAddress) :
    ip.point ∈ range.span.points ↔
      ip.size = range.last.size ∧ range.start.value ≤ ip.value ∧ ip.value ≤ range.last.value := by
  have hiff : ip.size = range.last.size →
      (ip.point ∈ range.span.points ↔ range.start.value ≤ ip.value ∧ ip.value ≤ range.last.value) := by
    intro hsize
    have hlast := point_of_size_eq hsize
    have hstart := point_of_size_eq (hsize.trans range.sameSize.symm)
    change range.start.point ≤ ip.point ∧ ip.point ≤ range.last.point ↔ _
    omega
  constructor
  · intro h
    have hsize := size_eq_of_mem h
    exact ⟨hsize, (hiff hsize).mp h⟩
  · rintro ⟨hsize, hvalues⟩
    exact (hiff hsize).mpr hvalues

def addressSet (range : IpRange) : Set IpAddress := {ip | range.start ≤ ip ∧ ip ≤ range.last}

theorem mem_addressSet (range : IpRange) (ip : IpAddress) : ip ∈ range.addressSet ↔ ip.point ∈ range.span.points :=
  and_congr (le_iff _ _) (le_iff _ _)

theorem addressSet_ofNetwork {n : InetNetwork} {range : IpRange} (h : ofNetwork n = .ok range) :
    range.addressSet = n.addressSet := by
  ext ip
  obtain ⟨range', hrange', hstart, hlast⟩ := ofNetwork_spec n
  rw [h] at hrange'
  cases hrange'
  obtain ⟨⟨-, hsize⟩, hstartValue, hlastValue⟩ := fromMask_spec n.address n.mask
  rw [mem_addressSet, mem_points_iff, hstart, hlast, hsize, hstartValue, hlastValue,
    mem_interval_iff _ _ (Nat.two_pow_pos _)]
  rfl

end IpRange

/-- The ranges stand for the set of addresses. -/
structure Represents (ranges : List IpRange) (left : Set IpAddress) : Prop where
  separated : Separated (ranges.map span)
  covers : ∀ ip : IpAddress, ip.point ∈ covered (ranges.map span) ↔ ip ∈ left

namespace Represents

variable {ranges : List IpRange} {left : Set IpAddress}

theorem empty : Represents [] ∅ := ⟨List.Pairwise.nil, fun ip => by simp⟩

section
variable (h : Represents ranges left) {range : IpRange} {set : Set IpAddress}
include h

theorem add (hset : range.addressSet = set) :
    ∃ ranges', IpRangeSet.add ranges range = .ok ranges' ∧ Represents ranges' (left ∪ set) := by
  obtain ⟨ranges', hadd, hspans⟩ := IpRangeSet.add_spec ranges range
  obtain ⟨hsep, hcovered⟩ := addTo_spec isTop range.span h.separated
  refine ⟨ranges', hadd, hspans ▸ hsep, fun ip => ?_⟩
  rw [hspans, hcovered, Set.mem_union, h.covers, ← mem_addressSet, hset, Set.mem_union]

theorem remove (hset : range.addressSet = set) :
    ∃ ranges', IpRangeSet.remove ranges range = .ok ranges' ∧ Represents ranges' (left \ set) := by
  obtain ⟨ranges', hremove, hspans⟩ := IpRangeSet.remove_spec ranges range
  obtain ⟨hsep, hcovered⟩ := removeFrom_spec range.span h.separated
  refine ⟨ranges', hremove, hspans ▸ hsep, fun ip => ?_⟩
  rw [hspans, hcovered, Set.mem_sdiff, h.covers, ← mem_addressSet, hset, Set.mem_sdiff]

theorem applyRoute (route : Route) :
    ∃ ranges', IpRangeSet.applyRoute ranges route = .ok ranges' ∧ Represents ranges' (leftBy left [route]) := by
  obtain ⟨range, hrange, -⟩ := ofNetwork_spec route.inetNetwork
  obtain ⟨network, included⟩ := route
  unfold IpRangeSet.applyRoute
  rw [hrange]
  cases included with
  | true => exact h.add (addressSet_ofNetwork hrange)
  | false => exact h.remove (addressSet_ofNetwork hrange)

theorem applyRoutes (routes : List Route) :
    ∃ ranges', routes.foldlM IpRangeSet.applyRoute ranges = .ok ranges' ∧ Represents ranges' (leftBy left routes) := by
  induction routes generalizing ranges left with
  | nil => exact ⟨ranges, rfl, h⟩
  | cons route rest ih =>
    obtain ⟨ranges', hroute, hrep⟩ := h.applyRoute route
    rw [List.foldlM_cons, hroute]
    exact ih hrep

end

end Represents

theorem leftRanges_spec (routes : List Route) :
    ∃ ranges, Builder.leftRanges routes = .ok ranges ∧ Represents ranges (leftBy ∅ routes \ loopback) := by
  obtain ⟨ranges, hranges, hrep⟩ := Represents.empty.applyRoutes routes
  obtain ⟨ipv4, hipv4, -⟩ := ofNetwork_spec .ipv4Loopback
  obtain ⟨ipv6, hipv6, -⟩ := ofNetwork_spec .ipv6Loopback
  obtain ⟨ranges', hranges', hrep'⟩ := hrep.remove (addressSet_ofNetwork hipv4)
  obtain ⟨ranges'', hranges'', hrep''⟩ := hrep'.remove (addressSet_ofNetwork hipv6)
  rw [Set.sdiff_sdiff] at hrep''
  unfold Builder.leftRanges
  rw [hranges, hipv4, hipv6]
  refine ⟨ranges'', ?_, hrep''⟩
  change (IpRangeSet.remove ranges ipv4).bind _ = _
  rw [hranges']
  exact hranges''

/-! ### The blocks that the ranges are written as -/

def Holds (block : IpAddress × ℕ) (ip : IpAddress) : Prop :=
  ip.size = block.1.size ∧ block.1.value ≤ ip.value ∧ ip.value < block.1.value + 2 ^ block.2

/-- The blocks cover the ranges, one block for each address, and are as large as they can be. -/
structure Written (ranges : List IpRange) (blocks : List (IpAddress × ℕ)) : Prop where
  covers : ∀ ip : IpAddress, (∃ block ∈ blocks, Holds block ip) ↔ ip.point ∈ covered (ranges.map span)
  aligned : ∀ block ∈ blocks, block.2 ≤ block.1.maxMask ∧ 2 ^ block.2 ∣ block.1.value
  disjoint : blocks.Pairwise fun block other => ∀ ip, ¬ (Holds block ip ∧ Holds other ip)
  maximal : ∀ range ∈ ranges, ∀ a j, j ≤ range.last.maxMask → 2 ^ j ∣ a → range.start.value ≤ a →
    a + 2 ^ j ≤ range.last.value + 1 →
      ∃ block ∈ blocks, block.1.size = range.last.size ∧ block.1.value ≤ a ∧ a + 2 ^ j ≤ block.1.value + 2 ^ block.2

theorem holds_iff_mem {block : IpAddress × ℕ} {ip : IpAddress} (hsize : ip.size = block.1.size) :
    Holds block ip ↔ Mem ip.value (block.1.value, block.2) := by
  unfold Holds
  rw [and_iff_right hsize]
  rfl

variable {blocks : List (IpAddress × ℕ)} {ranges : List IpRange}

theorem written_of_decomposes {range : IpRange} (hsizes : ∀ block ∈ blocks, block.1.size = range.last.size)
    (hdecomposes : Decomposes range.last.maxMask range.last.value range.start.value
      (blocks.map fun block => (block.1.value, block.2))) : Written [range] blocks := by
  refine ⟨?_, ?_, ?_, ?_⟩
  · intro ip
    have hmem := hdecomposes.mem_iff ip.value
    rw [List.map_singleton, covered_cons, covered_nil, Set.union_empty, range.mem_points_iff, ← hmem]
    constructor
    · rintro ⟨block, hblock, hholds⟩
      have hsize := hholds.1.trans (hsizes block hblock)
      exact ⟨hsize, _, List.mem_map_of_mem hblock, (holds_iff_mem hholds.1).mp hholds⟩
    · rintro ⟨hsize, _, hblock', hmem'⟩
      obtain ⟨block, hblock, rfl⟩ := List.mem_map.mp hblock'
      exact ⟨block, hblock, (holds_iff_mem (hsize.trans (hsizes block hblock).symm)).mpr hmem'⟩
  · intro block hblock
    obtain ⟨hle, hdvd⟩ := hdecomposes.aligned _ (List.mem_map_of_mem hblock)
    refine ⟨?_, hdvd⟩
    rw [maxMask, hsizes block hblock]
    exact hle
  · refine (List.pairwise_map.mp hdecomposes.pairwise).imp ?_
    rintro block other hbefore ip ⟨hholds, hholds'⟩
    exact (hholds.2.2.trans_le hbefore).not_ge hholds'.2.1
  · intro range' hrange' a j hj hdvd hlo hhi
    obtain rfl := List.mem_singleton.mp hrange'
    obtain ⟨_, hblock', hin⟩ := hdecomposes.maximal hj hdvd hlo hhi
    obtain ⟨block, hblock, rfl⟩ := List.mem_map.mp hblock'
    exact ⟨block, hblock, hsizes block hblock, hin⟩

theorem Written.append {others : List IpRange} {otherBlocks : List (IpAddress × ℕ)} (h : Written ranges blocks)
    (h' : Written others otherBlocks) (hapart : ∀ x ∈ covered (ranges.map span), x ∉ covered (others.map span)) :
    Written (ranges ++ others) (blocks ++ otherBlocks) := by
  refine ⟨fun ip => ?_, fun block hblock => ?_, ?_, fun range hrange a j hj hdvd hlo hhi => ?_⟩
  · rw [List.map_append, covered_append, Set.mem_union, ← h.covers, ← h'.covers]
    simp only [List.mem_append, or_and_right, exists_or]
  · rcases List.mem_append.mp hblock with hblock | hblock
    · exact h.aligned block hblock
    · exact h'.aligned block hblock
  · refine List.pairwise_append.mpr ⟨h.disjoint, h'.disjoint, ?_⟩
    rintro block hblock other hother ip ⟨hholds, hholds'⟩
    exact hapart ip.point ((h.covers ip).mp ⟨block, hblock, hholds⟩) ((h'.covers ip).mp ⟨other, hother, hholds'⟩)
  · rcases List.mem_append.mp hrange with hrange | hrange
    · obtain ⟨block, hblock, hin⟩ := h.maximal range hrange a j hj hdvd hlo hhi
      exact ⟨block, List.mem_append_left _ hblock, hin⟩
    · obtain ⟨block, hblock, hin⟩ := h'.maximal range hrange a j hj hdvd hlo hhi
      exact ⟨block, List.mem_append_right _ hblock, hin⟩

theorem subnets_written (hsep : Separated (ranges.map span)) :
    ∃ blocks : List (IpAddress × ℕ),
      IpRangeSet.subnets ranges = .ok (blocks.map network) ∧ Written ranges blocks := by
  induction ranges with
  | nil =>
    refine ⟨[], rfl, fun ip => by simp, ?_, List.Pairwise.nil, ?_⟩
    · intro block hblock
      exact absurd hblock List.not_mem_nil
    · intro range hrange
      exact absurd hrange List.not_mem_nil
  | cons range rest ih =>
    obtain ⟨hhead, htail⟩ := List.pairwise_cons.mp hsep
    obtain ⟨blocks, hsubnets, hsizes, hdecomposes⟩ := range.subnets_spec
    obtain ⟨others, hothers, hwritten⟩ := ih htail
    refine ⟨blocks ++ others, ?_, (written_of_decomposes hsizes hdecomposes).append hwritten ?_⟩
    · unfold IpRangeSet.subnets
      rw [hsubnets, hothers, List.map_append]
      rfl
    · rintro x ⟨s, hs, hx⟩ ⟨t, ht, hx'⟩
      obtain rfl := List.mem_singleton.mp hs
      have hnext := hhead t ht
      rw [mem_points] at hx hx'
      omega

end FreshVpn
