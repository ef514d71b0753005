import FreshVpn.RoutesOpenVpn

/-! Exclusions on every version of Android. -/

namespace FreshVpn

open LinkedSet OpenVpnClient IpRange

/-! ### The order of the routes -/

namespace Builder

/-- The default routes that an inclusive split tunnel takes away, whether they are included or excluded. -/
def isDefault (n : InetNetwork) : Bool := n = .ipv4Default || n = .ipv6Default || n = .ipv6Global

def splitRoutes (b : Builder) : LinkedSet Route :=
  if b.includedAddresses ≠ [] then
    .ofList ((b.includedAddresses.map fun n => ⟨n, true⟩) ++ b.routes.toList.filter fun r => !isDefault r.inetNetwork)
  else if b.excludedAddresses ≠ [] then
    .ofList (⟨.ipv4Default, true⟩ :: ⟨.ipv6Global, true⟩ :: (b.excludedAddresses.map fun n => ⟨n, false⟩) ++
      b.routes.toList)
  else b.routes

/-- The routes in the order in which they are worked through: those of the split tunnel, then those of the calls, each
where it was asked for first, with `2000::/3` in front for an included `::/0`. -/
def order (b : Builder) : List Route := (effectiveRoutes b.splitRoutes).toList

theorem processSplitTunneling_routes {b b' : Builder} (h : b.processSplitTunneling = .ok b') :
    b'.routes = b.splitRoutes := by
  unfold processSplitTunneling at h
  unfold splitRoutes
  by_cases hboth : b.includedAddresses ≠ [] ∧ b.excludedAddresses ≠ []
  · rw [if_pos hboth] at h
    cases h
  · split_ifs at h ⊢
    · cases h
      change (empty.addAll _).addAll _ = empty.addAll _
      rw [addAll, addAll, addAll, List.foldl_append]
      congr 1
      change List.filter _ (List.filter _ (List.filter _ _)) = _
      rw [List.filter_filter, List.filter_filter]
      refine List.filter_congr fun r _ => ?_
      simp [isDefault, Bool.and_comm, Bool.and_assoc]
    · cases h
      change (addAll _ _).addAll _ = empty.addAll (_ :: _ :: _ ++ _)
      rw [addAll, addAll, addAll, List.foldl_append]
      rfl
    · cases h
      rfl

end Builder

/-! ### The two ways of deciding -/

def NotIncluded (routes : List Route) (ip : IpAddress) : Prop :=
  ∀ r ∈ routes, r.included = true → ¬ r.inetNetwork.Contains ip

def ExcludedLast (routes : List Route) (ip : IpAddress) : Prop :=
  ∃ before e after, routes = before ++ e :: after ∧ e.included = false ∧ e.inetNetwork.Contains ip ∧
    NotIncluded after ip

/-- An excluded route holds the address, and the included ones that do so are not longer, and shorter if they come
after it. -/
def ExcludedLonger (routes : List Route) (ip : IpAddress) : Prop :=
  ∃ before e after, routes = before ++ e :: after ∧ e.included = false ∧ e.inetNetwork.Contains ip ∧
    (∀ r ∈ before, r.included = true → r.inetNetwork.Contains ip → r.inetNetwork.mask ≤ e.inetNetwork.mask) ∧
    ∀ r ∈ after, r.included = true → r.inetNetwork.Contains ip → r.inetNetwork.mask < e.inetNetwork.mask

variable {dnsServers : List IpAddress} {block : IpAddress × ℕ} {blocks : List (IpAddress × ℕ)} {routes : List Route}
  {ip : IpAddress}

theorem NotIncluded.append {others : List Route} :
    NotIncluded (routes ++ others) ip ↔ NotIncluded routes ip ∧ NotIncluded others ip := List.forall_mem_append

theorem excludedLast_concat (rest : List Route) (r : Route) (ip : IpAddress) :
    ExcludedLast (rest ++ [r]) ip ↔ r.included = false ∧ r.inetNetwork.Contains ip ∨
      ExcludedLast rest ip ∧ ¬ (r.included = true ∧ r.inetNetwork.Contains ip) := by
  constructor
  · rintro ⟨before, e, after, hsplit, he, hcontains, hafter⟩
    rcases List.eq_nil_or_concat after with rfl | ⟨init, last, rfl⟩
    · obtain ⟨-, hr⟩ := List.append_inj' hsplit rfl
      cases hr
      exact Or.inl ⟨he, hcontains⟩
    · rw [List.concat_eq_append, ← List.cons_append, ← List.append_assoc] at hsplit
      obtain ⟨hrest, hr⟩ := List.append_inj' hsplit rfl
      cases hr
      rw [List.concat_eq_append, NotIncluded.append] at hafter
      exact Or.inr ⟨⟨before, e, init, hrest, he, hcontains, hafter.1⟩,
        fun hr => hafter.2 r List.mem_cons_self hr.1 hr.2⟩
  · rintro (⟨hexcluded, hcontains⟩ | ⟨⟨before, e, after, rfl, he, hcontains, hafter⟩, hr⟩)
    · exact ⟨rest, r, [], rfl, hexcluded, hcontains, List.forall_mem_nil _⟩
    · refine ⟨before, e, after ++ [r], by simp, he, hcontains, NotIncluded.append.mpr ⟨hafter, ?_⟩⟩
      exact List.forall_mem_singleton.mpr fun hincluded hholds => hr ⟨hincluded, hholds⟩

/-- The fold goes by the order: the last route that holds the address decides. -/
theorem not_mem_leftBy_iff (routes : List Route) (ip : IpAddress) :
    ip ∉ leftBy ∅ routes ↔ NotIncluded routes ip ∨ ExcludedLast routes ip := by
  induction routes using List.reverseRecOn with
  | nil => exact ⟨fun _ => Or.inl (List.forall_mem_nil _), fun _ hmem => hmem⟩
  | append_singleton rest r ih =>
    have hconcat : leftBy ∅ (rest ++ [r]) = if r.included then leftBy ∅ rest ∪ r.inetNetwork.addressSet
        else leftBy ∅ rest \ r.inetNetwork.addressSet := by
      rw [leftBy, List.foldl_append]
      rfl
    have hlast : NotIncluded [r] ip ↔ ¬ (r.included = true ∧ r.inetNetwork.Contains ip) := by
      rw [NotIncluded, List.forall_mem_singleton, not_and]
    have hmem : ip ∈ r.inetNetwork.addressSet ↔ r.inetNetwork.Contains ip := Iff.rfl
    rw [hconcat, excludedLast_concat, NotIncluded.append, hlast]
    cases r.included with
    | true =>
      rw [if_pos rfl, Set.mem_union, not_or, ih, hmem]
      simp only [Bool.true_eq_false, false_and, false_or, true_and]
      rw [or_and_right]
    | false =>
      rw [if_neg Bool.false_ne_true, Set.mem_sdiff, not_and_not_right, hmem]
      simp only [Bool.false_eq_true, false_and, not_false_eq_true, and_true, true_and]
      rw [or_left_comm, ← ih, or_comm, imp_iff_not_or]

/-- The platform goes by the prefix: the longest route that holds the address decides. -/
theorem tunnelled_eq_false_iff (table : List Route) (ip : IpAddress) :
    tunnelled table ip = false ↔ NotIncluded table ip ∨ ExcludedLonger table ip := by
  constructor
  · intro h
    cases hroute : routeTo table ip with
    | none =>
      refine Or.inl fun r hr _ hcontains => ?_
      have hnot := (Filter.highest_eq_none_iff _ _ table ip).mp hroute r hr
      exact absurd hcontains (of_decide_eq_false hnot)
    | some e =>
      obtain ⟨before, after, hsplit, he, hbefore, hafter⟩ := Filter.exists_of_highest _ _ hroute
      rw [tunnelled, hroute] at h
      refine Or.inr ⟨before, e, after, hsplit, h, of_decide_eq_true he, fun r hr _ hcontains => ?_,
        fun r hr _ hcontains => ?_⟩
      · exact hbefore r hr (decide_eq_true hcontains)
      · exact hafter r hr (decide_eq_true hcontains)
  · rintro (hnone | ⟨before, e, after, rfl, he, hcontains, hbefore, hafter⟩)
    · cases hroute : routeTo table ip with
      | none =>
        rw [tunnelled, hroute]
        rfl
      | some r =>
        obtain ⟨before, after, rfl, hr, -, -⟩ := Filter.exists_of_highest _ _ hroute
        rw [tunnelled, hroute]
        refine Bool.eq_false_iff.mpr fun hincluded => ?_
        exact hnone r (List.mem_append_right _ List.mem_cons_self) hincluded (of_decide_eq_true hr)
    · have hdecides : ∃ s, routeTo (before ++ e :: after) ip = some s ∧ ¬ s.included = true ∧
          e.inetNetwork.mask ≤ s.inetNetwork.mask := by
        refine Filter.highest_of_not_outranked _ _ (decide_eq_true hcontains) ?_ ?_ ?_
        · rw [he]
          exact Bool.false_ne_true
        · exact fun r hr hincluded hholds => hbefore r hr hincluded (of_decide_eq_true hholds)
        · exact fun r hr hincluded hholds => hafter r hr hincluded (of_decide_eq_true hholds)
      obtain ⟨s, hs, hgood, -⟩ := hdecides
      rw [tunnelled, hs]
      exact Bool.eq_false_iff.mpr hgood

/-! ### What the builder makes of its routes -/

/-- `::ffff:127.0.0.0/104`, the loopback addresses in their IPv4-mapped form. -/
def mappedLoopback : InetNetwork := ⟨⟨[0, 0, 0, 0, 0, 0, 0, 0, 0, 0, 0xff, 0xff, 127, 0, 0, 0], Or.inr rfl⟩, 104⟩

theorem mem_mappedLoopback (ip : IpAddress) :
    ip ∈ mappedLoopback.addressSet ↔ ip.size = 16 ∧ ip.value / 2 ^ 24 = 0xffff7f := Iff.rfl

theorem not_accepted_of_mapped (hmapped : block.1.isIpv4Mapped = true) (hdvd : 2 ^ block.2 ∣ block.1.value) :
    (network block).accepted = false := by
  obtain ⟨hsize, hvalue⟩ := (IpAddress.isIpv4Mapped_iff _).mp hmapped
  have hk : block.2 ≤ 32 := by
    by_contra hlarge
    have hdvd33 : 2 ^ 33 ∣ block.1.value := (pow_dvd_pow 2 (by omega)).trans hdvd
    omega
  refine decide_eq_false ?_
  change ¬ block.1.maxMask - block.2 ≤ block.1.reparse.maxMask
  rw [IpAddress.maxMask, IpAddress.maxMask, hsize, IpAddress.reparse_size_of_mapped hmapped]
  omega

theorem IpAddress.value_of_mapped (h : ip.isIpv4Mapped = true) : ip.value = 0xffff * 2 ^ 32 + ip.reparse.value := by
  obtain ⟨hsize, hvalue⟩ := (isIpv4Mapped_iff ip).mp h
  have hdrop : (ip.address.drop 12).length = 4 := by
    rw [List.length_drop, show ip.address.length = 16 from hsize]
  have hlow := Bytes.value_lt (ip.address.drop 12)
  have hsplit : ip.value = Bytes.value (ip.address.take 12) * 256 ^ 4 + Bytes.value (ip.address.drop 12) := by
    rw [← hdrop, ← Bytes.value_append, List.take_append_drop]
    rfl
  have hreparse : ip.reparse.value = Bytes.value (ip.address.drop 12) := by
    rw [reparse, dif_pos h]
    rfl
  rw [hdrop] at hlow
  have hhigh : Bytes.value (ip.address.take 12) = 0xffff := by omega
  rw [hsplit, hreparse, hhigh]
  norm_num

/-- It is dropped only if the block is one of loopback addresses in their mapped form. -/
theorem holds_mappedLoopback (hmapped : block.1.isIpv4Mapped = true) (hdvd : 2 ^ block.2 ∣ block.1.value)
    (hdropped : isLoopbackRoute ⟨network block, true⟩ = true) (hholds : Holds block ip) :
    ip ∈ mappedLoopback.addressSet := by
  obtain ⟨hsize, hvalue⟩ := (IpAddress.isIpv4Mapped_iff _).mp hmapped
  have hsize4 : block.1.reparse.size = 4 := IpAddress.reparse_size_of_mapped hmapped
  have hfirst : block.1.reparse.get 0 = 127 := by
    unfold isLoopbackRoute network at hdropped
    split_ifs at hdropped with hipv4
    · exact of_decide_eq_true hdropped
    · exact absurd (decide_eq_true hsize4) hipv4
  have hloopback : block.1.reparse.value / 2 ^ 24 = 127 := (mem_ipv4Loopback hsize4 hfirst).2
  have hstart := IpAddress.value_of_mapped hmapped
  have hk : block.2 ≤ 24 := by
    by_contra hlarge
    have hdvd25 : 2 ^ 25 ∣ block.1.value := (pow_dvd_pow 2 (by omega)).trans hdvd
    omega
  have hend := Blocks.add_le_of_dvd hdvd
    ((pow_dvd_pow 2 hk).trans (Nat.dvd_mul_left (2 ^ 24) 0xffff80)) (by omega)
  obtain ⟨hipSize, hlo, hhi⟩ := hholds
  exact (mem_mappedLoopback ip).mpr ⟨hipSize.trans hsize, by omega⟩

def foldedRoutes (blocks : List (IpAddress × ℕ)) : List Route :=
  ((LinkedSet.empty.addAll ((blocks.map network).map fun n => ⟨n, true⟩)).removeIf isLoopbackRoute).toList

theorem mem_foldedRoutes {r : Route} :
    r ∈ foldedRoutes blocks ↔
      ∃ block ∈ blocks, isLoopbackRoute ⟨network block, true⟩ = false ∧ r = ⟨network block, true⟩ := by
  rw [foldedRoutes, removeIf, List.mem_filter, mem_addAll, List.map_map, List.mem_map,
    Bool.not_eq_true']
  constructor
  · rintro ⟨hempty | ⟨block, hblock, rfl⟩, hkept⟩
    · exact absurd hempty List.not_mem_nil
    · exact ⟨block, hblock, hkept, rfl⟩
  · rintro ⟨block, hblock, hkept, rfl⟩
    exact ⟨Or.inr ⟨block, hblock, rfl⟩, hkept⟩

theorem included_of_mem_foldedRoutes : ∀ r ∈ foldedRoutes blocks, r.included = true := by
  intro r hr
  obtain ⟨block, -, -, rfl⟩ := mem_foldedRoutes.mp hr
  rfl

/-- Where the folded routes are accepted, they cover what the routes leave; all that is lost are loopback addresses. -/
theorem notIncluded_foldedRoutes {ranges : List IpRange} {left : Set IpAddress}
    (hrep : Represents ranges (left \ loopback)) (hwritten : Written ranges blocks)
    (haccepted : ∀ r ∈ foldedRoutes blocks, r.inetNetwork.accepted = true) (ip : IpAddress) :
    NotIncluded (foldedRoutes blocks) ip ↔
      ip ∉ left ∨ ip ∈ loopback ∨ ip ∈ mappedLoopback.addressSet ∧ ¬ aroundMapped.addressSet ⊆ left := by
  have hleft : ∀ ip', (∃ block ∈ blocks, Holds block ip') ↔ ip' ∈ left \ loopback :=
    fun ip' => (hwritten.covers ip').trans (hrep.covers ip')
  have hmappedDropped : ∀ block ∈ blocks, block.1.isIpv4Mapped = true →
      isLoopbackRoute ⟨network block, true⟩ = true := by
    intro block hblock hmapped
    by_contra hkept
    rw [Bool.not_eq_true] at hkept
    have hrefused := not_accepted_of_mapped hmapped (hwritten.aligned block hblock).2
    rw [haccepted _ (mem_foldedRoutes.mpr ⟨block, hblock, hkept, rfl⟩)] at hrefused
    cases hrefused
  constructor
  · intro hnone
    by_contra hin
    rw [not_or, not_or, not_not] at hin
    obtain ⟨hip, hnot, hwhole⟩ := hin
    obtain ⟨block, hblock, hholds⟩ := (hleft ip).mpr ⟨hip, hnot⟩
    obtain ⟨hle, hdvd⟩ := hwritten.aligned block hblock
    cases hmapped : block.1.isIpv4Mapped with
    | false =>
      have hstart := (hleft block.1).mp ⟨block, hblock, holds_self block⟩
      exact hnone _ (mem_foldedRoutes.mpr ⟨block, hblock, isLoopbackRoute_network hmapped hstart.2, rfl⟩) rfl
        ((contains_network hmapped ⟨hle, hdvd⟩ ip).mpr hholds)
    | true =>
      have hdropped := hmappedDropped block hblock hmapped
      refine hwhole ⟨holds_mappedLoopback hmapped hdvd hdropped hholds, fun haround => ?_⟩
      rw [hwritten.start_not_mapped hrep (mappedWhole_diff_loopback.mpr (Or.inr haround)) hblock] at hmapped
      cases hmapped
  · intro hout r hr _ hcontains
    obtain ⟨block, hblock, hkept, rfl⟩ := mem_foldedRoutes.mp hr
    obtain ⟨hle, hdvd⟩ := hwritten.aligned block hblock
    have hmapped : block.1.isIpv4Mapped = false := by
      rw [← Bool.not_eq_true]
      intro hmapped
      rw [hmappedDropped block hblock hmapped] at hkept
      cases hkept
    have hholds := (contains_network hmapped ⟨hle, hdvd⟩ ip).mp hcontains
    obtain ⟨hip, hnot⟩ := (hleft ip).mp ⟨block, hblock, hholds⟩
    rcases hout with hout | hloopback | ⟨hloopback, haround⟩
    · exact hout hip
    · exact hnot hloopback
    · -- A block that is kept and holds a mapped address holds all around the mapped addresses.
      obtain ⟨hsize, hvalue⟩ := (mem_mappedLoopback ip).mp hloopback
      have hipMapped : ip.isIpv4Mapped = true := (IpAddress.isIpv4Mapped_iff ip).mpr ⟨hsize, by omega⟩
      refine haround fun ip' hip' => ?_
      exact ((hleft ip').mp ⟨block, hblock, around_of_holds_mapped hdvd hmapped hipMapped hholds ip' hip'⟩).1

namespace Builder

/-- The routes that are not dropped as loopback ones. -/
def keptRoutes (b : Builder) : List Route := b.order.filter fun r => !isLoopbackRoute r

theorem processRoutes_kept {b : Builder} {sdkInt : ℕ}
    (h : ¬ (sdkInt < 33 ∧ ∃ r ∈ (effectiveRoutes b.routes).toList, r.included = false)) :
    b.processRoutes sdkInt = (b.replaceIpv6Default.filterLoopback, none) := by
  have hany : ¬ (sdkInt < 33 ∧ (effectiveRoutes b.routes).toList.any (fun r => !r.included) = true) := by
    rintro ⟨hsdk, hany⟩
    obtain ⟨r, hr, hnot⟩ := List.any_eq_true.mp hany
    exact h ⟨hsdk, r, hr, Bool.not_eq_true' _ ▸ hnot⟩
  unfold processRoutes
  dsimp only
  rw [replaceIpv6Default_routes, if_neg hany]

theorem configBuild_cases {b b' : Builder} {sdkInt : ℕ} (h : b.configBuild sdkInt = (b', none)) :
    ((33 ≤ sdkInt ∨ ∀ r ∈ b.order, r.included = true) ∧ b'.routes.toList = b.keptRoutes) ∨
      ((sdkInt < 33 ∧ ∃ r ∈ b.order, r.included = false) ∧
        ∃ ranges blocks, Represents ranges (leftBy ∅ b.order \ loopback) ∧ Written ranges blocks ∧
          b'.routes.toList = foldedRoutes blocks) := by
  unfold configBuild at h
  cases hsplit : b.processSplitTunneling with
  | error e =>
    rw [hsplit] at h
    cases h
  | ok split =>
    rw [hsplit] at h
    dsimp only at h
    have horder : (effectiveRoutes split.routes).toList = b.order := by
      rw [processSplitTunneling_routes hsplit]
      rfl
    by_cases hfolded : sdkInt < 33 ∧ ∃ r ∈ b.order, r.included = false
    · obtain ⟨hsdk, hroutes⟩ := hfolded
      rw [← horder] at hroutes ⊢
      obtain ⟨ranges, blocks, hrep, hwritten, hprocess⟩ := processRoutes_folded hsdk hroutes
      refine Or.inr ⟨⟨hsdk, hroutes⟩, ranges, blocks, hrep, hwritten, ?_⟩
      rw [hprocess] at h
      rw [← (Prod.mk.inj h).1]
      rfl
    · refine Or.inl ⟨?_, ?_⟩
      · rw [not_and_or, not_lt, not_exists] at hfolded
        refine hfolded.imp_right fun hall r hr => ?_
        exact Bool.not_eq_false _ ▸ fun hr' => hall r ⟨hr, hr'⟩
      · rw [← horder] at hfolded
        rw [processRoutes_kept hfolded] at h
        rw [← (Prod.mk.inj h).1, keptRoutes, ← horder, ← replaceIpv6Default_routes]
        rfl

end Builder

/-! ### Exclusions on every version -/

theorem tunnelled_of_included {table : List Route} (h : ∀ r ∈ table, r.included = true) (ip : IpAddress) :
    tunnelled table ip = false ↔ NotIncluded table ip := by
  rw [tunnelled_eq_false_iff, or_iff_left]
  rintro ⟨before, e, after, rfl, he, -⟩
  rw [h e (List.mem_append_right _ List.mem_cons_self)] at he
  cases he

theorem included_of_mem_dnsRoutes {device : Device} {r : Route} (h : r ∈ dnsRoutes device dnsServers) :
    r.included = true := by
  unfold dnsRoutes at h
  split_ifs at h
  · obtain ⟨address, -, rfl⟩ := List.mem_map.mp h
    rfl
  · cases h

theorem buildVpnInterface_eq_some {device : Device} {table : List Route}
    (hkept : 33 ≤ device.sdkInt ∨ ∀ r ∈ routes, r.included = true)
    (h : buildVpnInterface device dnsServers routes = some table) :
    table = dnsRoutes device dnsServers ++ routes ∧ ∀ r ∈ routes, r.inetNetwork.accepted = true := by
  have hfilter : (routes.filter fun r => r.included || decide (33 ≤ device.sdkInt)) = routes := by
    refine List.filter_eq_self.mpr fun r hr => Bool.or_eq_true_iff.mpr ?_
    exact hkept.symm.imp (fun hincluded => hincluded r hr) decide_eq_true
  unfold buildVpnInterface at h
  rw [hfilter] at h
  obtain ⟨haccepted, htable⟩ := Option.ite_none_right_eq_some.mp h
  refine ⟨(Option.some.inj htable).symm, fun r hr => ?_⟩
  exact List.all_eq_true.mp haccepted r (List.mem_append_right _ hr)

/-- The order and the length of the routes leave the address out. From Android 13 on, an excluded route that holds it
is at least as long as the included ones that do, and longer than those that come later. Before, no included route
that holds it comes after the excluded ones; loopback addresses are never routed, in their mapped form if not all
around them is. The routes that a Samsung device adds for DNS servers hold it on no old version. -/
structure OpenVpnClient.LeavesOut (device : Device) (c : OpenVpnClient) (ip : IpAddress) : Prop where
  byLength : 33 ≤ device.sdkInt →
    let table := dnsRoutes device c.dnsServers ++ c.configBuilder.keptRoutes
    NotIncluded table ip ∨ ExcludedLonger table ip
  byOrder : device.sdkInt < 33 → (∃ r ∈ c.configBuilder.order, r.included = false) →
    NotIncluded (dnsRoutes device c.dnsServers) ip ∧
      (NotIncluded c.configBuilder.order ip ∨ ExcludedLast c.configBuilder.order ip ∨ ip ∈ loopback ∨
        ip ∈ mappedLoopback.addressSet ∧ ¬ aroundMapped.addressSet ⊆ leftBy ∅ c.configBuilder.order)
  unfolded : device.sdkInt < 33 → (∀ r ∈ c.configBuilder.order, r.included = true) →
    NotIncluded (dnsRoutes device c.dnsServers ++ c.configBuilder.keptRoutes) ip

namespace OpenVpnClient

theorem establish_eq_some {device : Device} {c : OpenVpnClient} {table : List Route}
    (h : (c.establish device).2 = some table) :
    ∃ b, c.configBuilder.configBuild device.sdkInt = (b, none) ∧
      buildVpnInterface device c.dnsServers b.routes.toList = some table := by
  unfold establish at h
  rcases hbuild : c.configBuilder.configBuild device.sdkInt with ⟨b, _ | e⟩
  · rw [hbuild] at h
    exact ⟨b, rfl, h⟩
  · rw [hbuild] at h
    cases h

/-- Any client whose interface comes up: an address is outside the tunnel if the routes leave it out. -/
theorem tunnelled_eq_false_iff_leavesOut {device : Device} {c : OpenVpnClient} {table : List Route}
    (htunnel : (c.establish device).2 = some table) (ip : IpAddress) :
    tunnelled table ip = false ↔ c.LeavesOut device ip := by
  obtain ⟨b, hbuild, hinterface⟩ := establish_eq_some htunnel
  rcases Builder.configBuild_cases hbuild with
    ⟨hkept, hroutes⟩ | ⟨⟨hsdk, hexcluded⟩, ranges, blocks, hrep, hwritten, hroutes⟩
  · rw [hroutes] at hinterface
    by_cases hnew : 33 ≤ device.sdkInt
    · obtain ⟨rfl, -⟩ := buildVpnInterface_eq_some (Or.inl hnew) hinterface
      rw [tunnelled_eq_false_iff]
      exact ⟨fun h => ⟨fun _ => h, fun hold => absurd hnew (not_le.mpr hold), fun hold => absurd hnew (not_le.mpr hold)⟩,
        fun h => h.byLength hnew⟩
    · have hall := hkept.resolve_left hnew
      have hincluded : ∀ r ∈ c.configBuilder.keptRoutes, r.included = true :=
        fun r hr => hall r (List.mem_of_mem_filter hr)
      obtain ⟨rfl, -⟩ := buildVpnInterface_eq_some (Or.inr hincluded) hinterface
      rw [tunnelled_of_included (List.forall_mem_append.mpr ⟨fun r => included_of_mem_dnsRoutes, hincluded⟩)]
      refine ⟨fun h => ⟨fun h' => absurd h' hnew, fun _ ⟨r, hr, hnot⟩ => ?_, fun _ _ => h⟩,
        fun h => h.unfolded (not_le.mp hnew) hall⟩
      rw [hall r hr] at hnot
      cases hnot
  · rw [hroutes] at hinterface
    obtain ⟨rfl, haccepted⟩ := buildVpnInterface_eq_some (Or.inr included_of_mem_foldedRoutes) hinterface
    rw [tunnelled_of_included (List.forall_mem_append.mpr
      ⟨fun r => included_of_mem_dnsRoutes, included_of_mem_foldedRoutes⟩), NotIncluded.append,
      notIncluded_foldedRoutes hrep hwritten haccepted, not_mem_leftBy_iff, or_assoc]
    refine ⟨fun h => ⟨fun hnew => absurd hsdk (not_lt.mpr hnew), fun _ _ => h, fun _ hall => ?_⟩,
      fun h => h.byOrder hsdk hexcluded⟩
    obtain ⟨r, hr, hnot⟩ := hexcluded
    rw [hall r hr] at hnot
    cases hnot

/-- **Exclusions of the OpenVPN client.** Whatever has been called, and on any version of Android: an address that lies
in an excluded network and in no included one of longer prefix is outside the tunnel that comes up exactly if the
routes, in the order in which they were asked for, leave it out. -/
theorem excluded_outside_iff (device : Device) (remoteServer : IpAddress) (split : SplitTunnel)
    (calls : List TunBuilderCall) {table : List Route}
    (htunnel : ((after remoteServer split calls).establish device).2 = some table) (ip : IpAddress) :
    (Excluded (asked remoteServer split calls) ip → tunnelled table ip = false) ↔
      (Excluded (asked remoteServer split calls) ip → (after remoteServer split calls).LeavesOut device ip) :=
  imp_congr_right fun _ => tunnelled_eq_false_iff_leavesOut htunnel ip

end OpenVpnClient

def IpAddress.ofOctets (a b c d : UInt8) : IpAddress := ⟨[a, b, c, d], Or.inl rfl⟩

def sampleServer : IpAddress := .ofOctets 203 0 113 7

/-- A session in which the server redirects the default gateway. -/
def redirectGateway : List TunBuilderCall :=
  [.new, .addAddress ⟨.ofOctets 10 8 0 2, 24⟩, .rerouteGw true false 0]

def sampleSite : InetNetwork := ⟨.ofOctets 198 51 100 0, 24⟩

/-- With an exclusive split tunnel the default route comes before the excluded server. -/
theorem server_outside_with_exclusive_split :
    ∃ table, ((OpenVpnClient.after sampleServer (.exclusive [sampleSite]) redirectGateway).establish ⟨30, false⟩).2 =
      some table ∧ tunnelled table sampleServer = false := by
  obtain ⟨table, htable⟩ := Option.isSome_iff_exists.mp (by decide +kernel :
    ((after sampleServer (.exclusive [sampleSite]) redirectGateway).establish ⟨30, false⟩).2.isSome)
  refine ⟨table, htable, (excluded_outside_iff ⟨30, false⟩ sampleServer (.exclusive [sampleSite])
    redirectGateway htable sampleServer).mpr (fun _ => ⟨?_, ?_, ?_⟩) (excluded_remoteServer _ _ _ (by decide))⟩
  · intro hnew
    exact absurd hnew (by decide)
  · intro _ _
    refine ⟨List.forall_mem_nil _, Or.inr (Or.inl ?_)⟩
    exact ⟨[⟨.ipv4Default, true⟩, ⟨.ipv6Global, true⟩, ⟨sampleSite, false⟩], ⟨.host sampleServer, false⟩, [], rfl, rfl,
      ⟨rfl, rfl⟩, List.forall_mem_nil _⟩
  · intro _ hall
    exact absurd (hall ⟨sampleSite, false⟩ (by decide)) Bool.false_ne_true

/-- Without a split tunnel it comes after, and below Android 13 the server is routed into its own tunnel. -/
theorem server_inside_below_android_13 :
    Excluded (OpenVpnClient.asked sampleServer .disable redirectGateway) sampleServer ∧
      ((OpenVpnClient.after sampleServer .disable redirectGateway).establish ⟨33, false⟩).2.map
        (fun table => tunnelled table sampleServer) = some false ∧
      ((OpenVpnClient.after sampleServer .disable redirectGateway).establish ⟨30, false⟩).2.map
        (fun table => tunnelled table sampleServer) = some true :=
  ⟨excluded_remoteServer _ _ _ (by decide), by decide, by decide⟩

end FreshVpn
