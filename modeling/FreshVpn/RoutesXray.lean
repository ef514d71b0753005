import FreshVpn.RoutesExclusion

/-! The full tunnel of the Xray protocol on Android. -/

namespace FreshVpn

open OpenVpnClient Builder InetNetwork IpAddress

/-- What of the configuration the routes depend on; a text that is blank is `none`. -/
structure XrayConnection where
  hostName : IpAddress
  dns1 : Option IpAddress
  dns2 : Option IpAddress
  mtu : Option ℕ

namespace Xray

variable {device : Device} {config : XrayConnection} {hostName : IpAddress}

/-- A new `XrayConfig.Builder`. -/
def builder : Builder := ⟨[], .empty, [], [], 1500⟩

/-- `XrayConfig.DEFAULT_IPV4_ADDRESS` -/
def defaultIpv4Address : InetNetwork := ⟨.ofOctets 10 0 42 2, 30⟩

def serverNetwork (hostName : IpAddress) : InetNetwork := ⟨hostName, 32⟩

def dnsServers (config : XrayConnection) : List IpAddress := config.dns1.toList ++ config.dns2.toList

/-- `parseConfig`, with split tunnelling off. -/
def parseConfig (config : XrayConnection) : Builder :=
  let routes := (((builder.addAddress defaultIpv4Address).addRoute .ipv4Default).addRoute .ipv6Global).excludeRoute
    (serverNetwork config.hostName)
  match config.mtu with
  | some mtu => routes.setMtu mtu
  | none => routes

def start (device : Device) (config : XrayConnection) : Option (List Route) :=
  match (parseConfig config).configBuild device.sdkInt with
  | (_, some _) => none
  | (b, none) => buildVpnInterface device (dnsServers config) b.routes.toList

theorem start_eq_establish (device : Device) (config : XrayConnection) :
    start device config = (OpenVpnClient.establish device ⟨parseConfig config, dnsServers config⟩).2 := by
  unfold start establish
  cases (parseConfig config).configBuild device.sdkInt with
  | mk b exception => cases exception <;> rfl

def routes (hostName : IpAddress) : List Route :=
  [⟨.ipv4Default, true⟩, ⟨.ipv6Global, true⟩, ⟨serverNetwork hostName, false⟩]

theorem parseConfig_routes (config : XrayConnection) : (parseConfig config).routes.toList = routes config.hostName := by
  have hadded : ((((builder.addAddress defaultIpv4Address).addRoute .ipv4Default).addRoute .ipv6Global).excludeRoute
      (serverNetwork config.hostName)).routes.toList = routes config.hostName := by
    have hbefore : (((builder.addAddress defaultIpv4Address).addRoute .ipv4Default).addRoute
        .ipv6Global).routes.toList = [⟨.ipv4Default, true⟩, ⟨.ipv6Global, true⟩] := by decide
    have hnew : (⟨serverNetwork config.hostName, false⟩ : Route) ∉
        (((builder.addAddress defaultIpv4Address).addRoute .ipv4Default).addRoute .ipv6Global).routes.toList := by
      rw [hbefore]
      simp
    rw [excludeRoute]
    rw [LinkedSet.add, dif_neg hnew]
    exact congrArg (· ++ [(⟨serverNetwork config.hostName, false⟩ : Route)]) hbefore
  unfold parseConfig
  cases config.mtu with
  | none => exact hadded
  | some mtu => exact hadded

theorem order_parseConfig (config : XrayConnection) : (parseConfig config).order = routes config.hostName := by
  have hincluded : (parseConfig config).includedAddresses = [] := by
    unfold parseConfig
    cases config.mtu <;> rfl
  have hexcluded : (parseConfig config).excludedAddresses = [] := by
    unfold parseConfig
    cases config.mtu <;> rfl
  have hnot : (⟨.ipv6Default, true⟩ : Route) ∉ (parseConfig config).routes.toList := by
    rw [parseConfig_routes, routes]
    simp [ipv6Default, ipv4Default, ipv6Global]
  rw [order, splitRoutes, if_neg (not_not.mpr hincluded), if_neg (not_not.mpr hexcluded),
    effectiveRoutes, if_neg hnot]
  exact parseConfig_routes config

/-! ### What is left outside -/

/-- The addresses that the tunnel is for. -/
def Meant (ip : IpAddress) : Prop := ipv4Default.Contains ip ∨ ipv6Global.Contains ip

/-- No address that the tunnel is for is outside, but the server's own and the loopback ones of IPv4. -/
def NoHole (hostName : IpAddress) (table : List Route) : Prop :=
  ∀ ip, Meant ip → tunnelled table ip = false → ip = hostName ∨ ipv4Loopback.Contains ip

variable {ip : IpAddress}

theorem not_notIncluded_routes (h : Meant ip) (hostName : IpAddress) : ¬ NotIncluded (routes hostName) ip := by
  intro hnone
  rcases h with hipv4 | hipv6
  · exact hnone ⟨.ipv4Default, true⟩ (by simp [routes]) rfl hipv4
  · exact hnone ⟨.ipv6Global, true⟩ (by simp [routes]) rfl hipv6

theorem eq_server_of_excluded {r : Route} (h : r ∈ routes hostName) (hexcluded : r.included = false) :
    r = ⟨serverNetwork hostName, false⟩ := by
  simp only [routes, List.mem_cons, List.not_mem_nil, or_false] at h
  rcases h with rfl | rfl | rfl
  · cases hexcluded
  · cases hexcluded
  · rfl

theorem keptRoutes_parseConfig (config : XrayConnection) :
    (parseConfig config).keptRoutes = routes config.hostName := by
  rw [keptRoutes, order_parseConfig]
  refine List.filter_eq_self.mpr fun r hr => ?_
  simp only [routes, List.mem_cons, List.not_mem_nil, or_false] at hr
  rcases hr with rfl | rfl | rfl
  · decide
  · decide
  · rfl

/-- **An address outside the tunnel is one of the excluded network**, or a loopback one. -/
theorem contains_of_outside {table : List Route} (h : start device config = some table) (hmeant : Meant ip)
    (houtside : tunnelled table ip = false) :
    (serverNetwork config.hostName).Contains ip ∨ ipv4Loopback.Contains ip := by
  rw [start_eq_establish] at h
  obtain ⟨hlength, horder, hunfolded⟩ := (tunnelled_eq_false_iff_leavesOut h ip).mp houtside
  rw [keptRoutes_parseConfig] at hlength
  rw [order_parseConfig] at horder
  by_cases hnew : 33 ≤ device.sdkInt
  · rcases hlength hnew with hnone | ⟨before, e, after, hsplit, he, hcontains, -⟩
    · exact absurd (NotIncluded.append.mp hnone).2 (not_notIncluded_routes hmeant _)
    · have hmem : e ∈ dnsRoutes device (dnsServers config) ++ routes config.hostName := by
        rw [hsplit]
        exact List.mem_append_right _ List.mem_cons_self
      rcases List.mem_append.mp hmem with hdns | hroutes
      · rw [included_of_mem_dnsRoutes hdns] at he
        cases he
      · rw [eq_server_of_excluded hroutes he] at hcontains
        exact Or.inl hcontains
  · have hserver : ∃ r ∈ routes config.hostName, r.included = false :=
      ⟨⟨serverNetwork config.hostName, false⟩, by simp [routes], rfl⟩
    rcases (horder (not_le.mp hnew) hserver).2 with hnone | ⟨before, e, after, hsplit, he, hcontains, -⟩ |
      hloopback | ⟨hmapped, -⟩
    · exact absurd hnone (not_notIncluded_routes hmeant _)
    · have hmem : e ∈ routes config.hostName := by
        rw [hsplit]
        exact List.mem_append_right _ List.mem_cons_self
      rw [eq_server_of_excluded hmem he] at hcontains
      exact Or.inl hcontains
    · rcases hloopback with hipv4 | hipv6
      · exact Or.inr hipv4
      · -- the loopback address of IPv6 is not a global one
        have hvalue : ip.value / 2 ^ 0 = 1 / 2 ^ 0 := hipv6.2
        have hsize : ip.size = 16 := hipv6.1
        rcases hmeant with ⟨hsize4, -⟩ | ⟨-, hglobal⟩
        · have hsize4' : ip.size = 4 := hsize4
          omega
        · have hglobal' : ip.value / 2 ^ 125 = 1 := hglobal
          omega
    · obtain ⟨hsize, hvalue⟩ := (mem_mappedLoopback ip).mp hmapped
      rcases hmeant with ⟨hsize4, -⟩ | ⟨-, hglobal⟩
      · have hsize4' : ip.size = 4 := hsize4
        omega
      · have hglobal' : ip.value / 2 ^ 125 = 1 := hglobal
        omega

theorem outside_of_contains {table : List Route} (h : start device config = some table)
    (hcontains : (serverNetwork config.hostName).Contains ip) (hdns : ip ∉ dnsServers config) :
    tunnelled table ip = false := by
  have hnotDns : NotIncluded (dnsRoutes device (dnsServers config)) ip := by
    intro r hr _ hip
    unfold dnsRoutes at hr
    split_ifs at hr
    · obtain ⟨address, haddress, rfl⟩ := List.mem_map.mp hr
      have heq : ip = address := by
        refine eq_of_value_eq hip.1 ?_
        have hvalue := hip.2
        rw [host, Nat.sub_self, pow_zero, Nat.div_one, Nat.div_one] at hvalue
        exact hvalue
      exact hdns (heq ▸ haddress)
    · cases hr
  rw [start_eq_establish] at h
  refine (tunnelled_eq_false_iff_leavesOut h ip).mpr ⟨fun hnew => Or.inr ?_, fun _ _ => ⟨hnotDns, ?_⟩, ?_⟩
  · rw [keptRoutes_parseConfig]
    refine ⟨dnsRoutes device (dnsServers config) ++ [⟨.ipv4Default, true⟩, ⟨.ipv6Global, true⟩],
      ⟨serverNetwork config.hostName, false⟩, [], by simp [routes], rfl, hcontains, ?_, List.forall_mem_nil _⟩
    intro r hr hincluded hip
    rcases List.mem_append.mp hr with hr | hr
    · exact absurd hip (hnotDns r hr hincluded)
    · simp only [List.mem_cons, List.not_mem_nil, or_false] at hr
      rcases hr with rfl | rfl
      · exact Nat.zero_le 32
      · exact (by decide : 3 ≤ 32)
  · refine Or.inr (Or.inl ?_)
    rw [order_parseConfig]
    exact ⟨[⟨.ipv4Default, true⟩, ⟨.ipv6Global, true⟩], ⟨serverNetwork config.hostName, false⟩, [], rfl, rfl, hcontains,
      List.forall_mem_nil _⟩
  · intro _ hall
    rw [order_parseConfig] at hall
    exact absurd (hall ⟨serverNetwork config.hostName, false⟩ (by simp [routes])) Bool.false_ne_true

/-! ### The interface is built -/

theorem start_of_processRoutes {b : Builder} (hprocess : (parseConfig config).processRoutes device.sdkInt = (b, none))
    (haddresses : b.addresses ≠ []) (hroutes : b.routes.toList ≠ []) (hmtu : b.mtu ≠ 0) :
    start device config = buildVpnInterface device (dnsServers config) b.routes.toList := by
  have hsplit : (parseConfig config).processSplitTunneling = .ok (parseConfig config) := by
    unfold parseConfig
    cases config.mtu <;> rfl
  have hvalid : b.validate = none := by
    rw [validate, if_neg haddresses, if_neg hroutes, if_neg hmtu]
    rfl
  have hbuild : (parseConfig config).configBuild device.sdkInt = (b, none) := by
    rw [configBuild, hsplit]
    dsimp only
    rw [hprocess]
    dsimp only
    rw [hvalid]
  rw [start, hbuild]

theorem addresses_parseConfig (config : XrayConnection) : (parseConfig config).addresses = [defaultIpv4Address] := by
  unfold parseConfig
  cases config.mtu <;> rfl

theorem mtu_parseConfig (h : config.mtu ≠ some 0) : (parseConfig config).mtu ≠ 0 := by
  unfold parseConfig
  cases hmtu : config.mtu with
  | none =>
    exact (by decide : (1500 : ℕ) ≠ 0)
  | some mtu =>
    intro hzero
    exact h (hmtu.trans (congrArg some hzero))

theorem buildVpnInterface_isSome {servers : List IpAddress} {routes : List Route}
    (h : ∀ r ∈ routes, r.inetNetwork.accepted = true) : (buildVpnInterface device servers routes).isSome := by
  have hall : (dnsRoutes device servers ++ routes.filter fun r => r.included || 33 ≤ device.sdkInt).all
      (fun r => r.inetNetwork.accepted) = true := by
    rw [List.all_eq_true]
    intro r hr
    rcases List.mem_append.mp hr with hr | hr
    · unfold dnsRoutes at hr
      split_ifs at hr
      · obtain ⟨address, -, rfl⟩ := List.mem_map.mp hr
        exact decide_eq_true le_rfl
      · cases hr
    · exact h r (List.mem_of_mem_filter hr)
  rw [buildVpnInterface, if_pos hall]
  rfl

theorem accepted_routes {r : Route} (h : r ∈ routes hostName) : r.inetNetwork.accepted = true := by
  simp only [routes, List.mem_cons, List.not_mem_nil, or_false] at h
  rcases h with rfl | rfl | rfl
  · decide
  · decide
  · refine decide_eq_true ?_
    change 32 ≤ hostName.size * 8
    have hsize := hostName.size_cases
    omega

theorem mem_leftBy_routes (hostName ip : IpAddress) :
    ip ∈ leftBy ∅ (routes hostName) ↔ Meant ip ∧ ¬ (serverNetwork hostName).Contains ip := by
  change ((False ∨ _) ∨ _) ∧ _ ↔ _
  rw [false_or]
  rfl

theorem mappedWhole_routes (hostName : IpAddress) : MappedWhole (leftBy ∅ (routes hostName)) := by
  refine Or.inl fun ip hip => ?_
  obtain ⟨hmeant, -⟩ := (mem_leftBy_routes hostName ip).mp hip
  rw [← Bool.not_eq_true, isIpv4Mapped_iff]
  rintro ⟨hsize, hvalue⟩
  rcases hmeant with hipv4 | hipv6
  · have hsize4 : ip.size = 4 := hipv4.1
    omega
  · have hglobal : ip.value / 2 ^ 125 = 1 := hipv6.2
    omega

theorem exists_left (hostName : IpAddress) : ∃ ip, ip ∈ leftBy ∅ (routes hostName) \ loopback := by
  by_cases hserver : (serverNetwork hostName).Contains (.ofOctets 1 1 1 1)
  · refine ⟨.ofOctets 8 8 8 8, (mem_leftBy_routes _ _).mpr ⟨Or.inl ⟨rfl, rfl⟩, fun hother => ?_⟩, ?_⟩
    · -- both addresses would be that of the server
      have hsize : hostName.size = 4 := hserver.1.symm
      have hvalues : (ofOctets 1 1 1 1).value / 2 ^ (hostName.maxMask - 32) =
          (ofOctets 8 8 8 8).value / 2 ^ (hostName.maxMask - 32) := hserver.2.trans hother.2.symm
      rw [maxMask, hsize] at hvalues
      exact absurd hvalues (by decide)
    · rintro (hipv4 | hipv6)
      · exact absurd hipv4 (by decide : ¬ ipv4Loopback.Contains (.ofOctets 8 8 8 8))
      · exact absurd hipv6 (by decide : ¬ ipv6Loopback.Contains (.ofOctets 8 8 8 8))
  · refine ⟨.ofOctets 1 1 1 1, (mem_leftBy_routes _ _).mpr ⟨Or.inl ⟨rfl, rfl⟩, hserver⟩, ?_⟩
    rintro (hipv4 | hipv6)
    · exact absurd hipv4 (by decide : ¬ ipv4Loopback.Contains (.ofOctets 1 1 1 1))
    · exact absurd hipv6 (by decide : ¬ ipv6Loopback.Contains (.ofOctets 1 1 1 1))

theorem exists_other (hsize : hostName.size = 16) (dns1 dns2 : IpAddress) :
    ∃ ip, (serverNetwork hostName).Contains ip ∧ ip ≠ hostName ∧ ip ≠ dns1 ∧ ip ≠ dns2 := by
  have hlt : hostName.value < 2 ^ 128 := by
    have hvalue := hostName.value_lt
    rwa [maxMask, hsize] at hvalue
  obtain ⟨i, hi, hother⟩ : ∃ i < 4, hostName.value / 2 ^ 96 * 2 ^ 96 + i ≠ hostName.value ∧
      hostName.value / 2 ^ 96 * 2 ^ 96 + i ≠ dns1.value ∧ hostName.value / 2 ^ 96 * 2 ^ 96 + i ≠ dns2.value := by
    generalize hostName.value / 2 ^ 96 * 2 ^ 96 = base
    by_contra hnone
    have hall : ∀ i < 4, ¬ (base + i ≠ hostName.value ∧ base + i ≠ dns1.value ∧ base + i ≠ dns2.value) :=
      fun i hi h => hnone ⟨i, hi, h⟩
    have h0 := hall 0 (by decide)
    have h1 := hall 1 (by decide)
    have h2 := hall 2 (by decide)
    have h3 := hall 3 (by decide)
    omega
  obtain ⟨bytes, hlen, hvalue⟩ := Bytes.exists_value_eq (n := 16) (v := hostName.value / 2 ^ 96 * 2 ^ 96 + i)
    (by norm_num; omega)
  have hne : ∀ other : IpAddress, hostName.value / 2 ^ 96 * 2 ^ 96 + i ≠ other.value →
      (⟨bytes, Or.inr hlen⟩ : IpAddress) ≠ other := by
    rintro other hnot rfl
    exact hnot hvalue.symm
  refine ⟨⟨bytes, Or.inr hlen⟩, ⟨hlen.trans hsize.symm, ?_⟩, hne _ hother.1, hne _ hother.2.1, hne _ hother.2.2⟩
  change Bytes.value bytes / 2 ^ (hostName.maxMask - 32) = hostName.value / 2 ^ (hostName.maxMask - 32)
  rw [maxMask, hsize, hvalue]
  omega

/-- **The full tunnel has no hole exactly if its server is an IPv4 address**, or one that the tunnel is not for. -/
theorem no_hole_iff (device : Device) (config : XrayConnection) (table : List Route)
    (h : start device config = some table) :
    NoHole config.hostName table ↔
      config.hostName.isIpv4 = true ∨ ¬ ipv6Global.Contains config.hostName := by
  constructor
  · intro hnoHole
    by_contra hnot
    rw [not_or, not_not] at hnot
    have hsize : config.hostName.size = 16 := hnot.2.1
    have hglobal : config.hostName.value / 2 ^ 125 = 1 := hnot.2.2
    obtain ⟨ip, hcontains, hne, hdns1, hdns2⟩ := exists_other hsize (config.dns1.getD config.hostName)
      (config.dns2.getD config.hostName)
    have hdns : ip ∉ dnsServers config := by
      intro hmem
      rcases List.mem_append.mp hmem with hmem | hmem
      · rw [Option.mem_toList.mp hmem] at hdns1
        exact hdns1 rfl
      · rw [Option.mem_toList.mp hmem] at hdns2
        exact hdns2 rfl
    have hipSize : ip.size = 16 := hcontains.1.trans hsize
    have hvalue : ip.value / 2 ^ 96 = config.hostName.value / 2 ^ 96 := by
      have hvalue := hcontains.2
      rwa [serverNetwork, maxMask, hsize] at hvalue
    have hmeant : Meant ip := by
      refine Or.inr ⟨hipSize, ?_⟩
      change ip.value / 2 ^ 125 = 1
      omega
    rcases hnoHole ip hmeant (outside_of_contains h hcontains hdns) with heq | hloopback
    · exact hne heq
    · have hsize4 : ip.size = 4 := hloopback.1
      omega
  · intro hhost ip hmeant houtside
    rcases contains_of_outside h hmeant houtside with hcontains | hloopback
    · refine Or.inl ?_
      have hipSize : ip.size = config.hostName.size := hcontains.1
      have hvalue : ip.value / 2 ^ (config.hostName.maxMask - 32) =
          config.hostName.value / 2 ^ (config.hostName.maxMask - 32) := hcontains.2
      rcases config.hostName.size_cases with hsize | hsize
      · -- 32 bits are the whole address
        rw [maxMask, hsize] at hvalue
        exact eq_of_value_eq hipSize (by omega)
      · have hipv4 : config.hostName.isIpv4 = false := decide_eq_false (by omega)
        refine absurd ?_ (hhost.resolve_left (by rw [hipv4]; exact Bool.false_ne_true))
        rw [maxMask, hsize] at hvalue
        refine ⟨hsize, ?_⟩
        change config.hostName.value / 2 ^ 125 = 1
        rcases hmeant with hipv4 | hglobal
        · have hsize4 : ip.size = 4 := hipv4.1
          omega
        · have hglobal' : ip.value / 2 ^ 125 = 1 := hglobal.2
          omega
    · exact Or.inr hloopback

def sampleIpv6Server : IpAddress := ⟨[0x20, 0x01, 0x0d, 0xb8, 0, 1, 0, 0, 0, 0, 0, 0, 0, 0, 0, 7], Or.inr rfl⟩

/-- Another address of the same network of 32 bits: `2001:db8:ffff::1`. -/
def sampleIpv6Neighbour : IpAddress :=
  ⟨[0x20, 0x01, 0x0d, 0xb8, 0xff, 0xff, 0, 0, 0, 0, 0, 0, 0, 0, 0, 1], Or.inr rfl⟩

theorem no_hole_for_ipv4_server : ∃ table,
    start ⟨30, false⟩ ⟨sampleServer, some (.ofOctets 1 1 1 1), none, none⟩ = some table ∧ NoHole sampleServer table := by
  obtain ⟨table, htable⟩ := Option.isSome_iff_exists.mp (by decide +kernel :
    (start ⟨30, false⟩ ⟨sampleServer, some (.ofOctets 1 1 1 1), none, none⟩).isSome)
  exact ⟨table, htable, (no_hole_iff ⟨30, false⟩ ⟨sampleServer, some (.ofOctets 1 1 1 1), none, none⟩ table htable).mpr
    (Or.inl (by decide))⟩

/-- The neighbours of an IPv6 server are outside the tunnel, before Android 13 and after. -/
theorem ipv6_server_leaves_neighbours_out :
    Meant sampleIpv6Neighbour ∧ sampleIpv6Neighbour ≠ sampleIpv6Server ∧
      ¬ ipv4Loopback.Contains sampleIpv6Neighbour ∧
      (start ⟨33, false⟩ ⟨sampleIpv6Server, none, none, none⟩).map (fun table => tunnelled table sampleIpv6Neighbour) =
        some false ∧
      (start ⟨30, false⟩ ⟨sampleIpv6Server, none, none, none⟩).map (fun table => tunnelled table sampleIpv6Neighbour) =
        some false := by
  refine ⟨Or.inr (by decide), by decide, by decide, ?_, ?_⟩
  · decide +kernel
  · decide +kernel

end Xray

end FreshVpn
