import FreshVpn.RoutesCoverage

/-! When the folded routes mean what the excluded ones were for. A network whose first address is IPv4-mapped
becomes an IPv4 network; the result goes wrong exactly when the mapped addresses are routed in part. -/

namespace FreshVpn

open IpRange IpAddress Builder LinkedSet

variable {left : Set IpAddress} {ip : IpAddress} {ranges : List IpRange}

open Blocks Span

/-- The routes in their order, with an included `::/0` replaced by `2000::/3` in the first place. -/
def effectiveRoutes (routes : LinkedSet Route) : LinkedSet Route :=
  if ⟨.ipv6Default, true⟩ ∈ routes.toList then
    LinkedSet.ofList (⟨.ipv6Global, true⟩ :: routes.toList.filter (· ≠ ⟨.ipv6Default, true⟩))
  else routes

/-- The routes cover the addresses of `left` that are not loopback ones, and are disjoint aligned networks, all of
them included. -/
structure Folds (left : Set IpAddress) (routes : List Route) : Prop where
  covers : ∀ ip, (∃ route ∈ routes, route.inetNetwork.Contains ip) ↔ ip ∈ left \ loopback
  disjoint : routes.Pairwise fun route other => ∀ ip,
    ¬ (route.inetNetwork.Contains ip ∧ other.inetNetwork.Contains ip)
  aligned : ∀ route ∈ routes, route.included = true ∧
    route.inetNetwork.mask ≤ route.inetNetwork.address.maxMask ∧
    2 ^ (route.inetNetwork.address.maxMask - route.inetNetwork.mask) ∣ route.inetNetwork.address.value

/-- `::fffe:0:0/95`, the smallest network around the IPv4-mapped addresses that has others in it. -/
def aroundMapped : InetNetwork := ⟨⟨[0, 0, 0, 0, 0, 0, 0, 0, 0, 0, 0xff, 0xfe, 0, 0, 0, 0], Or.inr rfl⟩, 95⟩

/-- No IPv4-mapped address is left, or all of them and their neighbours are. -/
def MappedWhole (left : Set IpAddress) : Prop :=
  (∀ ip ∈ left, ip.isIpv4Mapped = false) ∨ aroundMapped.addressSet ⊆ left

/-! ### The networks of blocks -/

variable {block : IpAddress × ℕ} {blocks : List (IpAddress × ℕ)}

theorem contains_iff_holds {n : InetNetwork} (hdvd : 2 ^ (n.address.maxMask - n.mask) ∣ n.address.value)
    (ip : IpAddress) : n.Contains ip ↔ Holds (n.address, n.address.maxMask - n.mask) ip := by
  have hpos : 0 < 2 ^ (n.address.maxMask - n.mask) := Nat.two_pow_pos _
  unfold InetNetwork.Contains Holds
  dsimp only
  rw [← mem_interval_iff _ _ hpos, Nat.div_mul_cancel hdvd]
  omega

theorem aligned_network (hmapped : block.1.isIpv4Mapped = false)
    (h : block.2 ≤ block.1.maxMask ∧ 2 ^ block.2 ∣ block.1.value) :
    (network block).mask ≤ (network block).address.maxMask ∧
      2 ^ ((network block).address.maxMask - (network block).mask) ∣ (network block).address.value := by
  dsimp only [network]
  rw [reparse_of_not_mapped hmapped, Nat.sub_sub_self h.1]
  exact ⟨Nat.sub_le _ _, h.2⟩

theorem contains_network (hmapped : block.1.isIpv4Mapped = false)
    (h : block.2 ≤ block.1.maxMask ∧ 2 ^ block.2 ∣ block.1.value) (ip : IpAddress) :
    (network block).Contains ip ↔ Holds block ip := by
  rw [contains_iff_holds (aligned_network hmapped h).2]
  dsimp only [network]
  rw [reparse_of_not_mapped hmapped, Nat.sub_sub_self h.1]

theorem holds_self (block : IpAddress × ℕ) : Holds block block.1 :=
  ⟨rfl, le_refl _, Nat.lt_add_of_pos_right (Nat.two_pow_pos _)⟩

theorem Written.eq_of_holds (h : Written ranges blocks) {other : IpAddress × ℕ} (hblock : block ∈ blocks)
    (hother : other ∈ blocks) (hholds : Holds block ip) (hholds' : Holds other ip) : block = other := by
  by_contra hne
  have hsymm : Std.Symm fun block other : IpAddress × ℕ => ∀ ip, ¬ (Holds block ip ∧ Holds other ip) :=
    ⟨fun _ _ hdisjoint ip hboth => hdisjoint ip hboth.symm⟩
  exact h.disjoint.forall hblock hother hne ip ⟨hholds, hholds'⟩

theorem mem_aroundMapped (ip : IpAddress) :
    ip ∈ aroundMapped.addressSet ↔ ip.size = 16 ∧ ip.value / 2 ^ 33 = 0x7fff := Iff.rfl

theorem around_of_holds_mapped (hdvd : 2 ^ block.2 ∣ block.1.value) (hstart : block.1.isIpv4Mapped = false)
    (hmapped : ip.isIpv4Mapped = true) (hholds : Holds block ip) :
    ∀ ip' ∈ aroundMapped.addressSet, Holds block ip' := by
  obtain ⟨start, k⟩ := block
  obtain ⟨hsize, hlo, hhi⟩ := hholds
  dsimp only at hdvd hstart hsize hlo hhi
  obtain ⟨hip, hvalue⟩ := (isIpv4Mapped_iff ip).mp hmapped
  have hbefore : start.value < 0xffff * 2 ^ 32 := by
    have hnot : ¬ (start.size = 16 ∧ start.value / 2 ^ 32 = 0xffff) := by
      rw [← isIpv4Mapped_iff, hstart]
      exact Bool.false_ne_true
    omega
  -- The block starts before the mapped addresses and reaches into them: it is larger than they are.
  have hk : 33 ≤ k := by
    by_contra hsmall
    have hend := add_le_of_dvd hdvd ((pow_dvd_pow 2 (by omega : k ≤ 32)).trans (Nat.dvd_mul_left _ _)) hbefore
    omega
  have hdvd33 : 2 ^ 33 ∣ start.value := (pow_dvd_pow 2 hk).trans hdvd
  have hend33 : 2 ^ 33 ∣ start.value + 2 ^ k := Nat.dvd_add hdvd33 (pow_dvd_pow 2 hk)
  intro ip' hip'
  obtain ⟨hsize', hvalue'⟩ := (mem_aroundMapped ip').mp hip'
  refine ⟨?_, ?_, ?_⟩
  · change ip'.size = start.size
    omega
  · change start.value ≤ ip'.value
    omega
  · change ip'.value < start.value + 2 ^ k
    omega

theorem not_loopback_of_around (h : ip ∈ aroundMapped.addressSet) : ip ∉ loopback := by
  obtain ⟨hsize, hvalue⟩ := (mem_aroundMapped ip).mp h
  rintro (hipv4 | hipv6)
  · have hsize4 : ip.size = 4 := hipv4.1
    omega
  · have hone : ip.value / 2 ^ 0 = 1 / 2 ^ 0 := hipv6.2
    omega

theorem around_of_mapped (h : ip.isIpv4Mapped = true) : ip ∈ aroundMapped.addressSet := by
  obtain ⟨hsize, hvalue⟩ := (isIpv4Mapped_iff ip).mp h
  exact (mem_aroundMapped ip).mpr ⟨hsize, by omega⟩

theorem Represents.exists_range (h : Represents ranges left) {a n : ℕ} (hn : 0 < n) (hbound : a + n ≤ 2 ^ 128)
    (hall : ∀ ip : IpAddress, ip.size = 16 → a ≤ ip.value → ip.value < a + n → ip ∈ left) :
    ∃ range ∈ ranges, range.last.size = 16 ∧ range.start.value ≤ a ∧ a + n ≤ range.last.value + 1 := by
  have hcovered : ∀ x, 2 ^ 128 + a ≤ x → x ≤ 2 ^ 128 + a + n - 1 → x ∈ covered (ranges.map span) := by
    intro x hxlo hxhi
    obtain ⟨ip, rfl⟩ := exists_point_eq (x := x) (by omega)
    rw [h.covers]
    rcases ip.point_cases with ⟨hsize, hpoint, hlt⟩ | ⟨hsize, hpoint, hlt⟩
    · omega
    · exact hall ip hsize (by omega) (by omega)
  obtain ⟨s, hs, hlo, hhi⟩ := h.separated.exists_span (2 ^ 128 + a) (2 ^ 128 + a + n - 1) (by omega) hcovered
  obtain ⟨range, hrange, rfl⟩ := List.mem_map.mp hs
  change range.start.point ≤ _ at hlo
  change _ ≤ range.last.point at hhi
  have hsame := range.sameSize
  refine ⟨range, hrange, ?_⟩
  rcases range.last.point_cases with ⟨hsize, hpoint, hlt⟩ | ⟨hsize, hpoint, hlt⟩
  · omega
  · rcases range.start.point_cases with ⟨hsize', hpoint', hlt'⟩ | ⟨hsize', hpoint', hlt'⟩
    · omega
    · omega

theorem mappedWhole_diff_loopback : MappedWhole (left \ loopback) ↔ MappedWhole left := by
  have haround : aroundMapped.addressSet ⊆ left \ loopback ↔ aroundMapped.addressSet ⊆ left :=
    ⟨fun h => h.trans Set.sdiff_subset, fun h ip hip => ⟨h hip, not_loopback_of_around hip⟩⟩
  rw [MappedWhole, MappedWhole, haround]
  refine or_congr_left ⟨fun h ip hip => ?_, fun h ip hip => h ip hip.1⟩
  by_contra hmapped
  rw [Bool.not_eq_false] at hmapped
  rw [h ip ⟨hip, not_loopback_of_around (around_of_mapped hmapped)⟩] at hmapped
  cases hmapped

theorem Written.start_not_mapped (hrep : Represents ranges left) (hwritten : Written ranges blocks)
    (hwhole : MappedWhole left) (hblock : block ∈ blocks) : block.1.isIpv4Mapped = false := by
  by_contra hmapped
  rw [Bool.not_eq_false] at hmapped
  have hleft : block.1 ∈ left :=
    (hrep.covers _).mp ((hwritten.covers _).mp ⟨block, hblock, holds_self block⟩)
  rcases hwhole with hnone | haround
  · rw [hnone block.1 hleft] at hmapped
    cases hmapped
  · obtain ⟨hsize, hvalue⟩ := (isIpv4Mapped_iff _).mp hmapped
    obtain ⟨range, hrange, hlast, hlo, hhi⟩ := hrep.exists_range (a := 0x7fff * 2 ^ 33) (n := 2 ^ 33)
      (by norm_num) (by norm_num) fun ip hip hge hlt => haround ((mem_aroundMapped ip).mpr ⟨hip, by omega⟩)
    obtain ⟨other, hother, hotherSize, hotherLo, hotherHi⟩ := hwritten.maximal range hrange (0x7fff * 2 ^ 33) 33
      (by rw [maxMask, hlast]; norm_num) (Nat.dvd_mul_left _ _) hlo hhi
    have hholds : Holds other block.1 := ⟨by omega, by omega, by omega⟩
    obtain rfl := hwritten.eq_of_holds hblock hother (holds_self block) hholds
    omega

/-! ### The routes of the builder -/

theorem replaceIpv6Default_routes (b : Builder) : b.replaceIpv6Default.routes = effectiveRoutes b.routes := by
  unfold replaceIpv6Default effectiveRoutes
  split_ifs
  · have hfilter : b.routes.toList.filter (fun r => !(r.included && decide (r.inetNetwork = InetNetwork.ipv6Default))) =
        b.routes.toList.filter (· ≠ ⟨.ipv6Default, true⟩) := by
      refine List.filter_congr fun route _ => ?_
      obtain ⟨network, included⟩ := route
      cases included <;> simp
    unfold prependRoutes removeIf
    simp only [hfilter]
    rfl
  · rfl

/-- Whether the last step of `processRoutes` drops a route. -/
def isLoopbackRoute (r : Route) : Bool :=
  r.included &&
    if r.inetNetwork.address.isIpv4 then r.inetNetwork.address.get 0 = 127
    else r.inetNetwork = InetNetwork.ipv6Loopback

/-- Below Android 13, the routes after `processRoutes` are the networks of the blocks that cover what the routes
leave, if one of them is excluded. -/
theorem processRoutes_folded {b : Builder} {sdkInt : ℕ} (hsdk : sdkInt < 33)
    (hroutes : ∃ route ∈ (effectiveRoutes b.routes).toList, route.included = false) :
    ∃ ranges blocks, Represents ranges (leftBy ∅ (effectiveRoutes b.routes).toList \ loopback) ∧
      Written ranges blocks ∧ b.processRoutes sdkInt =
        (({ b.replaceIpv6Default with routes := .empty }.addRoutes (blocks.map IpRange.network)).filterLoopback,
          none) := by
  have hany : (effectiveRoutes b.routes).toList.any (fun r => !r.included) = true := by
    obtain ⟨route, hroute, hnot⟩ := hroutes
    exact List.any_eq_true.mpr ⟨route, hroute, by rw [hnot]; rfl⟩
  obtain ⟨ranges, hranges, hrep⟩ := leftRanges_spec (effectiveRoutes b.routes).toList
  obtain ⟨blocks, hblocks, hwritten⟩ := subnets_written hrep.separated
  refine ⟨ranges, blocks, hrep, hwritten, ?_⟩
  unfold processRoutes
  dsimp only
  rw [replaceIpv6Default_routes, if_pos ⟨hsdk, hany⟩, hranges]
  dsimp only
  rw [hblocks]

theorem mem_effectiveRoutes_of_excluded {routes : LinkedSet Route} {route : Route} (hroute : route ∈ routes.toList)
    (hnot : route.included = false) : route ∈ (effectiveRoutes routes).toList := by
  rw [effectiveRoutes]
  split_ifs
  · refine mem_addAll.mpr (Or.inr (List.mem_cons_of_mem _ (List.mem_filter.mpr ⟨hroute, ?_⟩)))
    refine decide_eq_true fun heq => ?_
    rw [heq] at hnot
    cases hnot
  · exact hroute

theorem configBuild_routes {b : Builder} {sdkInt : ℕ} (hsdk : sdkInt < 33) (hincluded : b.includedAddresses = [])
    (hexcluded : b.excludedAddresses = []) (hroutes : ∃ route ∈ b.routes.toList, route.included = false) :
    ∃ ranges blocks, Represents ranges (leftBy ∅ (effectiveRoutes b.routes).toList \ loopback) ∧
      Written ranges blocks ∧ (b.configBuild sdkInt).1.routes =
        (LinkedSet.empty.addAll ((blocks.map IpRange.network).map fun n => ⟨n, true⟩)).removeIf isLoopbackRoute := by
  have hsplit : b.processSplitTunneling = .ok b := by
    unfold processSplitTunneling
    rw [hincluded, hexcluded]
    rfl
  obtain ⟨route, hroute, hnot⟩ := hroutes
  obtain ⟨ranges, blocks, hrep, hwritten, hprocess⟩ :=
    processRoutes_folded hsdk ⟨route, mem_effectiveRoutes_of_excluded hroute hnot, hnot⟩
  refine ⟨ranges, blocks, hrep, hwritten, ?_⟩
  unfold configBuild
  rw [hsplit]
  dsimp only
  rw [hprocess]
  rfl

theorem mem_ipv4Loopback (hsize : ip.size = 4) (h : ip.get 0 = 127) : ip ∈ InetNetwork.ipv4Loopback.addressSet := by
  have hlen : 0 < ip.size := by omega
  have haddress := address_around hlen
  have htail : (ip.address.drop 1).length = 3 := by
    rw [List.length_drop, show ip.address.length = 4 from hsize]
  have hlow := Bytes.value_lt (ip.address.drop 1)
  have hvalue : ip.value = 127 * 256 ^ 3 + Bytes.value (ip.address.drop 1) := by
    rw [value, haddress, h, List.take_zero, List.nil_append, Bytes.value_cons, List.drop_succ_cons,
      List.drop_zero, htail]
    rfl
  rw [htail] at hlow
  refine ⟨hsize, ?_⟩
  change ip.value / 2 ^ 24 = 127
  omega

theorem isLoopbackRoute_network (hmapped : block.1.isIpv4Mapped = false) (h : block.1 ∉ loopback) :
    isLoopbackRoute ⟨IpRange.network block, true⟩ = false := by
  unfold isLoopbackRoute network
  rw [reparse_of_not_mapped hmapped, Bool.true_and]
  split_ifs with hipv4
  · refine decide_eq_false fun hfirst => h (Or.inl ?_)
    exact mem_ipv4Loopback (of_decide_eq_true hipv4) hfirst
  · refine decide_eq_false fun heq => h (Or.inr ?_)
    have haddress : block.1 = InetNetwork.ipv6Loopback.address := congrArg InetNetwork.address heq
    rw [haddress]
    exact ⟨rfl, rfl⟩

theorem folds_of_not_mapped (hrep : Represents ranges (left \ loopback)) (hwritten : Written ranges blocks)
    (hmapped : ∀ block ∈ blocks, block.1.isIpv4Mapped = false) :
    Folds left ((LinkedSet.empty.addAll ((blocks.map IpRange.network).map fun n => ⟨n, true⟩)).removeIf
      isLoopbackRoute).toList := by
  have hcontains : ∀ block ∈ blocks, ∀ ip, (network block).Contains ip ↔ Holds block ip :=
    fun block hblock => contains_network (hmapped block hblock) (hwritten.aligned block hblock)
  have hmem : ∀ route, route ∈ ((empty.addAll ((blocks.map network).map fun n => ⟨n, true⟩)).removeIf
      isLoopbackRoute).toList ↔ ∃ block ∈ blocks, route = ⟨network block, true⟩ := by
    intro route
    rw [removeIf, List.mem_filter, mem_addAll, List.map_map, List.mem_map]
    constructor
    · rintro ⟨hempty | ⟨block, hblock, rfl⟩, -⟩
      · exact absurd hempty List.not_mem_nil
      · exact ⟨block, hblock, rfl⟩
    · rintro ⟨block, hblock, rfl⟩
      have hleft := (hrep.covers _).mp ((hwritten.covers _).mp ⟨block, hblock, holds_self block⟩)
      refine ⟨Or.inr ⟨block, hblock, rfl⟩, ?_⟩
      rw [isLoopbackRoute_network (hmapped block hblock) hleft.2]
      rfl
  refine ⟨fun ip => ?_, ?_, fun route hroute => ?_⟩
  · rw [← hrep.covers, ← hwritten.covers]
    constructor
    · rintro ⟨route, hroute, hip⟩
      obtain ⟨block, hblock, rfl⟩ := (hmem route).mp hroute
      exact ⟨block, hblock, (hcontains block hblock ip).mp hip⟩
    · rintro ⟨block, hblock, hip⟩
      exact ⟨_, (hmem _).mpr ⟨block, hblock, rfl⟩, (hcontains block hblock ip).mpr hip⟩
  · have hdisjoint : ((blocks.map network).map fun n => (⟨n, true⟩ : Route)).Pairwise fun route other => ∀ ip,
        ¬ (route.inetNetwork.Contains ip ∧ other.inetNetwork.Contains ip) := by
      rw [List.map_map, List.pairwise_map]
      refine hwritten.disjoint.imp_of_mem fun {block other} hblock hother hdisjoint ip => ?_
      rintro ⟨hip, hip'⟩
      exact hdisjoint ip ⟨(hcontains block hblock ip).mp hip, (hcontains other hother ip).mp hip'⟩
    exact hdisjoint.sublist (List.filter_sublist.trans (addAll_sublist _ _))
  · obtain ⟨block, hblock, rfl⟩ := (hmem route).mp hroute
    exact ⟨rfl, aligned_network (hmapped block hblock) (hwritten.aligned block hblock)⟩

/-- Where the networks of blocks cover what is left, the mapped addresses are left whole: a block that starts at one is
lost. -/
theorem mappedWhole_of_covers (hrep : Represents ranges left) (hwritten : Written ranges blocks)
    (hcovers : ∀ ip ∈ left, ∃ block ∈ blocks, (IpRange.network block).Contains ip) : MappedWhole left := by
  by_contra hpart
  rw [MappedWhole, not_or] at hpart
  obtain ⟨hsome, haround⟩ := hpart
  obtain ⟨ip, hip, hmapped⟩ := not_forall₂.mp hsome
  rw [Bool.not_eq_false] at hmapped
  obtain ⟨block, hblock, hholds⟩ := (hwritten.covers ip).mpr ((hrep.covers ip).mpr hip)
  have hstart : block.1.isIpv4Mapped = true := by
    by_contra hfalse
    rw [Bool.not_eq_true] at hfalse
    refine haround fun ip' hip' => ?_
    have hholds' := around_of_holds_mapped (hwritten.aligned block hblock).2 hfalse hmapped hholds ip' hip'
    exact (hrep.covers ip').mp ((hwritten.covers ip').mp ⟨block, hblock, hholds'⟩)
  obtain ⟨other, hother, hcontains⟩ := hcovers ip hip
  have hsize : ip.size = 16 := ((isIpv4Mapped_iff ip).mp hmapped).1
  cases hotherMapped : other.1.isIpv4Mapped with
  | true =>
    have hsize4 : ip.size = other.1.reparse.size := hcontains.1
    rw [reparse_size_of_mapped hotherMapped] at hsize4
    omega
  | false =>
    rw [contains_network hotherMapped (hwritten.aligned other hother)] at hcontains
    obtain rfl := hwritten.eq_of_holds hblock hother hholds hcontains
    rw [hstart] at hotherMapped
    cases hotherMapped

/-- **The folded routes.** Below Android 13, with no addresses for the split tunnel and a route that is excluded, the
routes after `configBuild` are what the routes before leave, without the loopback addresses, as disjoint included
networks, exactly if the IPv4-mapped addresses are left whole. -/
theorem configBuild_folds_iff (b : Builder) (sdkInt : ℕ) (hsdk : sdkInt < 33) (hincluded : b.includedAddresses = [])
    (hexcluded : b.excludedAddresses = []) (hroutes : ∃ route ∈ b.routes.toList, route.included = false) :
    Folds (leftBy ∅ (effectiveRoutes b.routes).toList) (b.configBuild sdkInt).1.routes.toList ↔
      MappedWhole (leftBy ∅ (effectiveRoutes b.routes).toList) := by
  obtain ⟨ranges, blocks, hrep, hwritten, hresult⟩ := configBuild_routes hsdk hincluded hexcluded hroutes
  rw [hresult]
  constructor
  · intro hfolds
    refine mappedWhole_diff_loopback.mp (mappedWhole_of_covers hrep hwritten fun ip hip => ?_)
    obtain ⟨route, hroute, hcontains⟩ := (hfolds.covers ip).mpr hip
    rw [removeIf, List.mem_filter, mem_addAll, List.map_map, List.mem_map] at hroute
    obtain ⟨hempty | ⟨block, hblock, rfl⟩, -⟩ := hroute
    · exact absurd hempty List.not_mem_nil
    · exact ⟨block, hblock, hcontains⟩
  · intro hwhole
    exact folds_of_not_mapped hrep hwritten fun block hblock =>
      hwritten.start_not_mapped hrep (mappedWhole_diff_loopback.mpr hwhole) hblock

def partlyMapped : Builder where
  addresses := [⟨⟨[10, 8, 0, 2], Or.inl rfl⟩, 32⟩]
  routes := LinkedSet.ofList [⟨aroundMapped, true⟩, ⟨⟨aroundMapped.address, 96⟩, false⟩]
  includedAddresses := []
  excludedAddresses := []
  mtu := 1420

/-- The one network left starts at `::ffff:0:0`, and its text is read as `0.0.0.0`. -/
theorem mapped_block_becomes_ipv4 :
    (partlyMapped.configBuild 30).1.routes.toList = [⟨⟨⟨[0, 0, 0, 0], Or.inl rfl⟩, 96⟩, true⟩] ∧
      (partlyMapped.configBuild 30).2 = none ∧
      ¬ Folds (leftBy ∅ (effectiveRoutes partlyMapped.routes).toList)
        (partlyMapped.configBuild 30).1.routes.toList := by
  have hroutes : (partlyMapped.configBuild 30).1.routes.toList = [⟨⟨⟨[0, 0, 0, 0], Or.inl rfl⟩, 96⟩, true⟩] := by decide
  refine ⟨hroutes, by decide, fun hfolds => ?_⟩
  -- `::ffff:0:0` itself is left, and no route covers it.
  let mapped : IpAddress := ⟨[0, 0, 0, 0, 0, 0, 0, 0, 0, 0, 0xff, 0xff, 0, 0, 0, 0], Or.inr rfl⟩
  have hleft : mapped ∈ leftBy ∅ [⟨aroundMapped, true⟩, ⟨⟨aroundMapped.address, 96⟩, false⟩] := by
    have hin : aroundMapped.Contains mapped := by decide
    have hout : ¬ (⟨aroundMapped.address, 96⟩ : InetNetwork).Contains mapped := by decide
    exact ⟨Or.inr hin, hout⟩
  have hnot : mapped ∉ loopback := not_loopback_of_around (by decide : aroundMapped.Contains mapped)
  obtain ⟨route, hroute, hcontains⟩ := (hfolds.covers mapped).mpr ⟨hleft, hnot⟩
  obtain rfl := List.mem_singleton.mp hroute
  exact absurd hcontains.1 (by decide)

def allButOne : Builder where
  addresses := [⟨⟨[10, 8, 0, 2], Or.inl rfl⟩, 32⟩]
  routes := LinkedSet.ofList
    [⟨.ipv4Default, true⟩, ⟨.ipv6Default, true⟩, ⟨⟨⟨[203, 0, 113, 7], Or.inl rfl⟩, 32⟩, false⟩]
  includedAddresses := []
  excludedAddresses := []
  mtu := 1420

/-- The global IPv6 addresses are not mapped ones. -/
theorem allButOne_folds :
    Folds (leftBy ∅ (effectiveRoutes allButOne.routes).toList) (allButOne.configBuild 30).1.routes.toList := by
  refine (configBuild_folds_iff allButOne 30 (by decide) rfl rfl (by decide)).mpr (Or.inl fun ip hip => ?_)
  rw [← Bool.not_eq_true, isIpv4Mapped_iff]
  rintro ⟨hsize, hvalue⟩
  obtain ⟨(hempty | ⟨-, hglobal⟩) | ⟨hipv4, -⟩, -⟩ := hip
  · exact hempty
  · have hvalue' : ip.value / 2 ^ 125 = 1 := hglobal
    omega
  · have hsize4 : ip.size = 4 := hipv4
    omega

end FreshVpn
