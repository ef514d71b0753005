import FreshVpn.ConnectionSites

/-! What the daemon of the desktop is told to tunnel for WireGuard. A list of allowed addresses other than the default
one comes before the split tunnel, which may be used with every list that has the two defaults. -/

namespace FreshVpn

open Daemon

/-- The addresses of a range. -/
def IPAddress.contains (p : IPAddress) (a : HostAddress) : Bool :=
  match p.address, a with
  | .ipv4 b, .ipv4 a => Network.contains ⟨b, p.prefixLength.toNat⟩ a
  | .ipv6 b, .ipv6 a => Network.contains ⟨b, p.prefixLength.toNat⟩ a
  | _, _ => false

namespace VpnConnection

open LocalSocketController NetworkUtilities KillSwitch UsersController

section
variable (qt : AddressReader)

/-- What a text denotes: an address without a length is that address alone. -/
def networkOf (text : String) : IPAddress :=
  match text.toList.splitOn '/' with
  | [address, length] => ⟨qt.hostAddress (String.ofList address), atoi length⟩
  | _ => IPAddress.ofHostAddress (qt.hostAddress text)

/-- The addresses of the ranges that are sent to the daemon. -/
def Sent (rawConfig : JsonObject) (a : HostAddress) : Prop :=
  ∃ range ∈ allowedIPAddressRanges rawConfig, ∃ p, parseRange qt range = some p ∧ p.contains a = true

/-- How Qt reads the addresses of the default ranges. -/
structure ReadsDefaults : Prop where
  ipv4 : qt.hostAddress "0.0.0.0" = .ipv4 0
  ipv6 : qt.hostAddress "::" = .ipv6 0

/-- In the one mode the sites and the DNS servers are tunnelled and nothing else; in the other one everything is, and
the server and the sites are excluded. -/
structure Honoured (settings : SplitTunnelingSettings) (config out : JsonObject) : Prop where
  only : settings.routeMode = .vpnOnlyForwardSites → ∀ a, Sent qt out a ↔
    ∃ text ∈ usableSites qt settings ++ dnsTexts config, (networkOf qt text).contains a = true
  except : settings.routeMode = .vpnAllExceptSites → (∀ a, a ≠ .null → Sent qt out a) ∧
    excludedAddresses out =
      ((wgConfig config).value "hostName").getD .null :: (usableSites qt settings).map .string

end

section
variable {qt : AddressReader} {settings : SplitTunnelingSettings} {config completed out : JsonObject} {text : String}

/-! ### Ranges -/

theorem splitOn_of_not_mem {c : Char} {text : List Char} (h : c ∉ text) : text.splitOn c = [text] := by
  have hsplit := List.splitOn_intercalate c (show ∀ part ∈ [text], c ∉ part by simpa using h) (List.cons_ne_nil _ _)
  rwa [List.intercalate_singleton] at hsplit

theorem parseRange_rangeObject (address : String) {range : ℤ} (hmin : 0 ≤ range) (hmax : range ≤ 128) (isIpv6 : Bool) :
    parseRange qt (rangeObject address range isIpv6) = some ⟨qt.hostAddress address, range⟩ := by
  have hint : Json.toInt (some (.double range)) 0 = range := by
    rw [Json.toInt, Rat.den_intCast, Rat.num_intCast, if_pos (by omega)]
  exact congrArg (fun length => some (IPAddress.mk _ length)) hint

theorem parseRange_rangeOfText (h : '/' ∉ text.toList) :
    parseRange qt (rangeOfText text) = some ⟨qt.hostAddress text, 32⟩ := by
  rw [rangeOfText, splitOn_of_not_mem h]
  exact parseRange_rangeObject text (by decide) (by decide) false

theorem networkOf_of_not_mem (h : '/' ∉ text.toList) : networkOf qt text = .ofHostAddress (qt.hostAddress text) := by
  rw [networkOf, splitOn_of_not_mem h]

theorem ipv4_of_checkIPv4Format (h : checkIPv4Format qt text = true) : ∃ a, qt.hostAddress text = .ipv4 a := by
  cases haddress : qt.hostAddress text with
  | ipv4 a => exact ⟨a, rfl⟩
  | _ => simp [checkIPv4Format, haddress] at h

theorem textToInt_eq_some {length : List Char} {n : ℤ} (h : textToInt length = some n) : atoi length = n := by
  exact Option.some.inj (Option.ite_none_right_eq_some.mp h).2

/-- A site is sent to the daemon as the network that it denotes, which is one of IPv4. -/
theorem site_sent (h : checkIpSubnetFormat qt text = true) :
    parseRange qt (rangeOfText text) = some (networkOf qt text) ∧ ∃ a, (networkOf qt text).address = .ipv4 a := by
  unfold checkIpSubnetFormat at h
  split at h
  next part hsplit =>
    obtain ⟨a, ha⟩ := ipv4_of_checkIPv4Format h
    rw [rangeOfText, networkOf, hsplit]
    rw [parseRange_rangeObject text (by decide) (by decide), ha]
    exact ⟨rfl, a, rfl⟩
  next address length hsplit =>
    obtain ⟨hlength, haddress⟩ := Bool.and_eq_true_iff.mp h
    obtain ⟨a, ha⟩ := ipv4_of_checkIPv4Format haddress
    rw [rangeOfText, networkOf, hsplit]
    cases hnumber : textToInt length with
    | none =>
      rw [hnumber] at hlength
      cases hlength
    | some subnet =>
      rw [hnumber, ← textToInt_eq_some hnumber, Option.any_some, decide_eq_true_eq] at hlength
      exact ⟨parseRange_rangeObject _ hlength.1 (by omega) false, a, ha⟩
  next => cases h

theorem contains_of_zero (a : HostAddress) (ha : a ≠ .null) :
    IPAddress.contains ⟨.ipv4 0, 0⟩ a = true ∨ IPAddress.contains ⟨.ipv6 0, 0⟩ a = true := by
  cases a with
  | null => exact absurd rfl ha
  | ipv4 b => exact Or.inl (by simp [IPAddress.contains, Network.contains, BitVec.ushiftRight_eq_zero])
  | ipv6 b => exact Or.inr (by simp [IPAddress.contains, Network.contains, BitVec.ushiftRight_eq_zero])

theorem eq_of_contains_ipv6 (hslash : '/' ∉ text.toList) {a : BitVec 128}
    (h : (networkOf qt text).contains (.ipv6 a) = true) : qt.hostAddress text = .ipv6 a := by
  rw [networkOf_of_not_mem hslash] at h
  cases haddress : qt.hostAddress text with
  | ipv6 b =>
    rw [haddress] at h
    exact congrArg HostAddress.ipv6 ((Network.host_contains b a).mp h).symm
  | _ =>
    rw [haddress] at h
    cases h

/-- Two DNS servers and sites of IPv4 cannot be three addresses of IPv6. -/
theorem not_all_named (hdns : ∀ dns ∈ dnsTexts config, '/' ∉ dns.toList) (b : BitVec 128)
    (h : ∀ k : BitVec 128, k = 0 ∨ k = 1 ∨ k = 2 → ∃ text ∈ usableSites qt settings ++ dnsTexts config,
      (networkOf qt text).contains (.ipv6 (b ^^^ k)) = true) : False := by
  have hnamed : ∀ k : BitVec 128, k = 0 ∨ k = 1 ∨ k = 2 →
      qt.hostAddress (Json.toString (config.value "dns1")) = .ipv6 (b ^^^ k) ∨
      qt.hostAddress (Json.toString (config.value "dns2")) = .ipv6 (b ^^^ k) := by
    intro k hk
    obtain ⟨text, hmem, hcontains⟩ := h k hk
    rcases List.mem_append.mp hmem with hsite | hmem
    · obtain ⟨-, a, ha⟩ := site_sent (checked_of_mem_usableSites hsite)
      simp [IPAddress.contains, ha] at hcontains
    · have heq := eq_of_contains_ipv6 (hdns text hmem) hcontains
      simp only [dnsTexts, List.mem_cons, List.not_mem_nil, or_false] at hmem
      rcases hmem with rfl | rfl
      · exact Or.inl heq
      · exact Or.inr heq
  have hinj : ∀ {first : HostAddress} {k k' : BitVec 128}, first = .ipv6 (b ^^^ k) → first = .ipv6 (b ^^^ k') → k = k' := by
    intro first k k' hk hk'
    exact (BitVec.xor_right_inj _).mp (HostAddress.ipv6.inj (hk.symm.trans hk'))
  have h0 := hnamed 0 (by simp)
  have h1 := hnamed 1 (by simp)
  have h2 := hnamed 2 (by simp)
  rcases h0 with h0 | h0 <;> rcases h1 with h1 | h1 <;> rcases h2 with h2 | h2 <;>
    first
      | exact absurd (hinj h0 h1) (by decide)
      | exact absurd (hinj h0 h2) (by decide)
      | exact absurd (hinj h1 h2) (by decide)

/-! ### What is sent -/

theorem isWireguard_withNativeOptions (h : withNativeOptions config = some completed) :
    isWireguard completed = isWireguard config := by
  rw [isWireguard, protocolName, value_withNativeOptions h (by decide)]
  rfl

theorem wgConfig_withSplitTunnel (h : isWireguard config = true) :
    wgConfig (withSplitTunnel qt settings config) = wgConfig config := by
  have hdata := dataKey_of_isWireguard h
  have hname : (withSplitTunnel qt settings config).value "protocol" = _ := value_withSplitTunnel (by decide)
  rw [wgConfig, hname, value_withSplitTunnel, wgConfig]
  rw [protocolName] at hdata
  simp only [List.mem_cons, List.not_mem_nil, or_false] at hdata
  rcases hdata with hdata | hdata <;> rw [hdata] <;> decide

theorem value_hostName (h : withNativeOptions config = some completed) :
    (wgConfig completed).value "hostName" = (wgConfig config).value "hostName" := by
  rcases withNativeOptions_cases h with rfl | ⟨hwireguard, ips, keepAlive, rfl⟩
  · rfl
  · rw [value_wgConfig_withData (isWireguard_withData hwireguard _), if_neg (by decide),
      value_wgConfig_withData hwireguard, if_neg (by decide)]

theorem isDefaultAllowedIP_iff (ips : List Json) :
    isDefaultAllowedIP ips = true ↔ ips = [.string "0.0.0.0/0", .string "::/0"] := by
  unfold isDefaultAllowedIP
  split
  next first second => simp
  next hne =>
    refine iff_of_false Bool.false_ne_true ?_
    rintro rfl
    exact hne _ _ rfl

theorem ranges_of_not_default (hwireguard : isWireguard completed = true) (hne : allowedIps completed ≠ [])
    (hdefault : isDefaultAllowedIP (allowedIps completed) = false) :
    allowedIPAddressRanges (withSplitTunnel qt settings completed) =
      (allowedIps completed).map fun ip => rangeOfText (Json.toString (some ip)) := by
  rw [allowedIPAddressRanges, wgConfig_withSplitTunnel hwireguard, ← allowedIps]
  simp [hne, hdefault]

theorem ranges_of_default (hwireguard : isWireguard completed = true)
    (hdefault : isDefaultAllowedIP (allowedIps completed) = true) :
    allowedIPAddressRanges (withSplitTunnel qt settings completed) =
      if (siteTunnel qt settings completed).1 = .vpnOnlyForwardSites then
        (siteTunnel qt settings completed).2.map rangeOfText
      else [rangeObject "0.0.0.0" 0 false, rangeObject "::" 0 true] := by
  have htype : Json.toInt ((withSplitTunnel qt settings completed).value "splitTunnelType") 0 = _ :=
    splitTunnelType_withSplitTunnel
  rw [allowedIPAddressRanges, wgConfig_withSplitTunnel hwireguard, ← allowedIps, htype, value_splitTunnelSites]
  cases (siteTunnel qt settings completed).1 <;> simp [hdefault, RouteMode.number, Json.toArray, Json.toString]

theorem siteTunnel_of_usable (henabled : settings.isSitesSplitTunnelingEnabled = true)
    (hallowed : allowSiteBasedSplitTunneling completed = true) (hsites : usableSites qt settings ≠ []) :
    siteTunnel qt settings completed = (settings.routeMode, usableSites qt settings ++
      if settings.routeMode = .vpnOnlyForwardSites then dnsTexts completed else []) := by
  simp [siteTunnel, henabled, hallowed, hsites]

/-- Where a list has the two defaults and the split tunnel is not looked at, the ranges of both are sent. -/
theorem defaults_sent (hqt : ReadsDefaults qt) (hwireguard : isWireguard completed = true)
    (hallowed : allowSiteBasedSplitTunneling completed = true)
    (hlist : isDefaultAllowedIP (allowedIps completed) = false ∨
      (siteTunnel qt settings completed).1 ≠ .vpnOnlyForwardSites) (a : HostAddress) (ha : a ≠ .null) :
    Sent qt (withSplitTunnel qt settings completed) a := by
  have hparse : ∀ isIpv6, parseRange qt (rangeObject "0.0.0.0" 0 isIpv6) = some ⟨.ipv4 0, 0⟩ ∧
      parseRange qt (rangeObject "::" 0 isIpv6) = some ⟨.ipv6 0, 0⟩ := by
    intro isIpv6
    rw [parseRange_rangeObject _ le_rfl (by decide), parseRange_rangeObject _ le_rfl (by decide), hqt.ipv4, hqt.ipv6]
    exact ⟨rfl, rfl⟩
  have hmem : ∃ isIpv6 isIpv6', rangeObject "0.0.0.0" 0 isIpv6 ∈
      allowedIPAddressRanges (withSplitTunnel qt settings completed) ∧
      rangeObject "::" 0 isIpv6' ∈ allowedIPAddressRanges (withSplitTunnel qt settings completed) := by
    cases hdefault : isDefaultAllowedIP (allowedIps completed) with
    | true =>
      rw [ranges_of_default hwireguard hdefault, if_neg (hlist.resolve_left (by simp [hdefault]))]
      exact ⟨false, true, by simp, by simp⟩
    | false =>
      have hboth : ∀ ip ∈ ["0.0.0.0/0", "::/0"], ∃ allowed ∈ allowedIps completed, Json.toString (some allowed) = ip := by
        simpa [allowSiteBasedSplitTunneling, hwireguard] using hallowed
      obtain ⟨ip, hip, htext⟩ := hboth "0.0.0.0/0" (by simp)
      obtain ⟨ip', hip', htext'⟩ := hboth "::/0" (by simp)
      rw [ranges_of_not_default hwireguard (List.ne_nil_of_mem hip) hdefault]
      refine ⟨false, false, List.mem_map.mpr ⟨ip, hip, ?_⟩, List.mem_map.mpr ⟨ip', hip', ?_⟩⟩
      · rw [htext]
        rfl
      · rw [htext']
        rfl
  obtain ⟨isIpv6, isIpv6', h4, h6⟩ := hmem
  rcases contains_of_zero a ha with hcontains | hcontains
  · exact ⟨_, h4, _, (hparse isIpv6).1, hcontains⟩
  · exact ⟨_, h6, _, (hparse isIpv6').2, hcontains⟩

/-- **The split tunnel is honoured by the desktop exactly if**, in the mode for the listed sites alone, the list of
allowed addresses is the default one in its order and no DNS server has an address of IPv6. -/
theorem split_tunnel_honoured_iff (hqt : ReadsDefaults qt)
    (h : appendSplitTunnelingConfig qt settings config = some out) (hwireguard : isWireguard config = true)
    (hallowed : (withNativeOptions config).any allowSiteBasedSplitTunneling = true)
    (henabled : settings.isSitesSplitTunnelingEnabled = true) (hsites : usableSites qt settings ≠ [])
    (hdns : ∀ dns ∈ dnsTexts config, '/' ∉ dns.toList) :
    Honoured qt settings config out ↔ (settings.routeMode = .vpnOnlyForwardSites →
      (withNativeOptions config).map allowedIps = some [.string "0.0.0.0/0", .string "::/0"] ∧
        ∀ dns ∈ dnsTexts config, ∀ a, qt.hostAddress dns ≠ .ipv6 a) := by
  obtain ⟨completed, hcompleted, rfl⟩ := Option.map_eq_some_iff.mp h
  rw [hcompleted, Option.any_some] at hallowed
  have hwireguard' := (isWireguard_withNativeOptions hcompleted).trans hwireguard
  have htunnel := siteTunnel_of_usable henabled hallowed hsites
  rw [dnsTexts_withNativeOptions hcompleted] at htunnel
  have hexcept : settings.routeMode = .vpnAllExceptSites →
      (∀ a, a ≠ .null → Sent qt (withSplitTunnel qt settings completed) a) ∧
      excludedAddresses (withSplitTunnel qt settings completed) =
        ((wgConfig config).value "hostName").getD .null :: (usableSites qt settings).map .string := by
    intro hmode
    refine ⟨defaults_sent hqt hwireguard' hallowed (Or.inr (by simp [htunnel, hmode])), ?_⟩
    have htype : Json.toInt ((withSplitTunnel qt settings completed).value "splitTunnelType") 0 = _ :=
      splitTunnelType_withSplitTunnel
    rw [excludedAddresses, wgConfig_withSplitTunnel hwireguard', value_hostName hcompleted, htype,
      value_splitTunnelSites, htunnel]
    simp [hmode, RouteMode.number, Json.toArray, Json.toString]
  rw [hcompleted, Option.map_some, Option.some.injEq, ← isDefaultAllowedIP_iff]
  constructor
  · intro honoured hmode
    have honly := honoured.only hmode
    have hdefault : isDefaultAllowedIP (allowedIps completed) = true := by
      by_contra hdefault
      have hsent := @defaults_sent qt settings completed hqt hwireguard' hallowed
        (Or.inl (Bool.eq_false_iff.mpr hdefault))
      exact not_all_named hdns 0 fun k _ => (honly _).mp (hsent _ (by simp))
    refine ⟨hdefault, fun dns hmem a ha => not_all_named hdns a fun k hk => (honly _).mp ?_⟩
    refine ⟨rangeOfText dns, ?_, _, parseRange_rangeOfText (hdns dns hmem), ?_⟩
    · rw [ranges_of_default hwireguard' hdefault, htunnel, if_pos hmode, if_pos hmode]
      exact List.mem_map_of_mem (List.mem_append_right _ hmem)
    · rw [ha]
      rcases hk with rfl | rfl | rfl <;> simp [IPAddress.contains, Network.contains, BitVec.ushiftRight_xor_distrib]
  · intro hcondition
    refine ⟨fun hmode a => ?_, hexcept⟩
    obtain ⟨hdefault, hipv4⟩ := hcondition hmode
    have hsent : ∀ text ∈ usableSites qt settings ++ dnsTexts config,
        ∃ p, parseRange qt (rangeOfText text) = some p ∧ p.contains a = (networkOf qt text).contains a := by
      intro text hmem
      rcases List.mem_append.mp hmem with hsite | hmem
      · exact ⟨_, (site_sent (checked_of_mem_usableSites hsite)).1, rfl⟩
      · refine ⟨_, parseRange_rangeOfText (hdns text hmem), ?_⟩
        rw [networkOf_of_not_mem (hdns text hmem)]
        cases haddress : qt.hostAddress text with
        | ipv4 b => rfl
        | ipv6 b => exact absurd haddress (hipv4 text hmem b)
        | null => rfl
    rw [Sent, ranges_of_default hwireguard' hdefault, htunnel, if_pos hmode, if_pos hmode]
    simp only [List.mem_map, exists_exists_and_eq_and]
    refine exists_congr fun text => and_congr_right fun hmem => ?_
    obtain ⟨p, hparse, hcontains⟩ := hsent text hmem
    simp [hparse, hcontains]

def sampleReader : AddressReader :=
  { WireguardUtilsLinux.sampleText.toAddressReader with
    hostAddress text := if text = "::" then .ipv6 0 else WireguardUtilsLinux.sampleText.hostAddress text }

def awgConfig (allowedIps : Json) : JsonObject :=
  [("awg_config_data", .object [("allowed_ips", allowedIps), ("persistent_keep_alive", .string "25")]),
    ("dns1", .string "1.1.1.1"), ("dns2", .string "8.8.8.8"), ("protocol", .string "awg")]

theorem default_list_honoured : ∃ out,
    appendSplitTunnelingConfig sampleReader (oneSite .vpnOnlyForwardSites)
      (awgConfig (.array [.string "0.0.0.0/0", .string "::/0"])) = some out ∧
    Honoured sampleReader (oneSite .vpnOnlyForwardSites)
      (awgConfig (.array [.string "0.0.0.0/0", .string "::/0"])) out := by
  have h : appendSplitTunnelingConfig sampleReader (oneSite .vpnOnlyForwardSites)
    (awgConfig (.array [.string "0.0.0.0/0", .string "::/0"])) = some _ := rfl
  have hipv4 : ∀ dns ∈ ["1.1.1.1", "8.8.8.8"], ∀ a, sampleReader.hostAddress dns ≠ .ipv6 a := by
    intro dns hdns a ha
    have hread : ∀ dns ∈ ["1.1.1.1", "8.8.8.8"], checkIPv4Format sampleReader dns = true := by decide +kernel
    obtain ⟨b, hb⟩ := ipv4_of_checkIPv4Format (hread dns hdns)
    simp [ha] at hb
  refine ⟨_, h, (split_tunnel_honoured_iff ⟨by decide +kernel, rfl⟩ h ?_ ?_ rfl ?_ ?_).mpr fun _ => ⟨rfl, hipv4⟩⟩
  all_goals decide +kernel

/-- With the same two ranges the other way round the whole of IPv4 is sent in the mode for the listed sites alone. -/
theorem reversed_list_not_honoured : ∃ out,
    appendSplitTunnelingConfig sampleReader (oneSite .vpnOnlyForwardSites)
      (awgConfig (.array [.string "::/0", .string "0.0.0.0/0"])) = some out ∧
    Sent sampleReader out (.ipv4 0x09090909) ∧
    ¬ ∃ text ∈ usableSites sampleReader (oneSite .vpnOnlyForwardSites) ++ dnsTexts (awgConfig .null),
      (networkOf sampleReader text).contains (.ipv4 0x09090909) = true := by
  refine ⟨_, rfl, ⟨rangeOfText "0.0.0.0/0", List.mem_cons_of_mem _ List.mem_cons_self, ⟨.ipv4 0, 0⟩, ?_, ?_⟩, ?_⟩
  all_goals decide +kernel

end

end VpnConnection

end FreshVpn
