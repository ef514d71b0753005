import FreshVpn.FirewallWireguard
import FreshVpn.SitesController
import FreshVpn.UsersServers

/-! The split tunnel that a connection is given (`VpnConnection::appendSplitTunnelingConfig`). For WireGuard the options
that old configurations have in their native text only are read from there, and the allowed addresses decide whether the
sites may be used. -/

namespace FreshVpn

/-! ### Texts -/

/-- The blanks that `atoi` and `QString::toInt` skip. -/
def isBlank (c : Char) : Bool := c == ' ' || (0x09 ≤ c.toNat && c.toNat ≤ 0x0d)

/-- `QString::toInt`: digits with or without a sign, between blanks. -/
def textToInt (text : List Char) : Option ℤ :=
  let number := (text.dropWhile isBlank).rdropWhile isBlank
  let digits := if number.head? = some '-' ∨ number.head? = some '+' then number.tail else number
  if digits ≠ [] ∧ digits.all Char.isDigit then some (atoi text) else none

namespace NetworkUtilities

variable (qt : AddressReader)

def checkIPv4Format (ip : String) : Bool :=
  ip ≠ "" && ip.toList.count '.' = 3 &&
    match qt.hostAddress ip with
    | .ipv4 _ => true
    | _ => false

def checkIpSubnetFormat (ip : String) : Bool :=
  match ip.toList.splitOn '/' with
  | [_] => checkIPv4Format qt ip
  | [address, length] =>
    (textToInt length).any (fun subnet => 0 ≤ subnet ∧ subnet ≤ 32) && checkIPv4Format qt (String.ofList address)
  | _ => false

end NetworkUtilities

/-! ### The code -/

def RouteMode.number : RouteMode → ℤ
  | .vpnAllSites => 0
  | .vpnOnlyForwardSites => 1
  | .vpnAllExceptSites => 2

inductive AppsRouteMode where
  | vpnAllApps | vpnOnlyForwardApps | vpnAllExceptApps

def AppsRouteMode.number : AppsRouteMode → ℤ
  | .vpnAllApps => 0
  | .vpnOnlyForwardApps => 1
  | .vpnAllExceptApps => 2

structure InstalledAppInfo where
  packageName : String
  appPath : String

/-- What `SecureAppSettingsRepository` holds about split tunnelling. -/
structure SplitTunnelingSettings where
  isSitesSplitTunnelingEnabled : Bool
  routeMode : RouteMode
  vpnSites : RouteMode → SortedMap String String
  isAppsSplitTunnelingEnabled : Bool
  appsRouteMode : AppsRouteMode
  vpnApps : AppsRouteMode → List InstalledAppInfo

namespace VpnConnection

open LocalSocketController NetworkUtilities KillSwitch UsersController

section
variable (config : JsonObject)

def protocolName : String := Json.toString (config.value "protocol")

def isWireguard : Bool := protocolName config = "awg" || protocolName config = "wireguard"

def withData (key : String) (value : Option Json) : JsonObject :=
  match value with
  | some json => config.insert (protocolName config ++ "_config_data") (.object ((wgConfig config).insert key json))
  | none => config

/-- What the first line of the native configuration that mentions an option has after " = ". Without it the code takes
an element that is not there: `none`. -/
def nativeValue (option : String) : Option (Option (List Char)) :=
  match ((Json.toString ((wgConfig config).value "config")).toList.splitOn '\n').find?
    (containsChars option.toList) with
  | some line => (splitText " = ".toList 0 line)[1]?.map some
  | none => some none

def jsonOfList (text : List Char) : Json :=
  .array ((splitText ", ".toList 0 text).map fun part => .string (String.ofList part))

def withAllowedIps : Option JsonObject :=
  match (wgConfig config).value "allowed_ips" with
  | some (.string text) => some (withData config "allowed_ips" (some (jsonOfList text.toList)))
  | none => (nativeValue config "AllowedIPs").map fun value => withData config "allowed_ips" (value.map jsonOfList)
  | _ => some config

def withPersistentKeepAlive : Option JsonObject :=
  match (wgConfig config).value "persistent_keep_alive" with
  | none => (nativeValue config "PersistentKeepalive").map fun value =>
      withData config "persistent_keep_alive" (value.map fun text => .string (String.ofList text))
  | _ => some config

/-- The block for old configurations. -/
def withNativeOptions : Option JsonObject :=
  if isWireguard config then (withAllowedIps config).bind withPersistentKeepAlive else some config

def allowedIps : List Json := Json.toArray ((wgConfig config).value "allowed_ips")

/-- Whether the sites of the split tunnel may be used. -/
def allowSiteBasedSplitTunneling : Bool :=
  !isWireguard config || ["0.0.0.0/0", "::/0"].all fun ip =>
    (allowedIps config).any fun allowed => Json.toString (some allowed) = ip

def dnsTexts : List String := [Json.toString (config.value "dns1"), Json.toString (config.value "dns2")]

end

section
variable (qt : AddressReader) (settings : SplitTunnelingSettings) (config : JsonObject)

/-- The sites that are given by an address, or have one; of equal ones the first is kept. -/
def usableSites : List String :=
  let sites := (settings.vpnSites settings.routeMode).entries.filterMap fun site =>
    if checkIpSubnetFormat qt site.1 then some site.1
    else if checkIpSubnetFormat qt site.2 then some site.2
    else none
  sites.reverse.dedup.reverse

/-- The mode and the sites that are written. The mode is reset if there are no sites, but not if they may not be
used. -/
def siteTunnel : RouteMode × List String :=
  if settings.isSitesSplitTunnelingEnabled then
    if allowSiteBasedSplitTunneling config then
      if usableSites qt settings = [] then (.vpnAllSites, [])
      else (settings.routeMode, usableSites qt settings ++
        if settings.routeMode = .vpnOnlyForwardSites then dnsTexts config else [])
    else (settings.routeMode, [])
  else (.vpnAllSites, [])

def appTunnel : AppsRouteMode × List String :=
  if settings.isAppsSplitTunnelingEnabled then
    let apps := (settings.vpnApps settings.appsRouteMode).map fun app =>
      if app.appPath = "" then app.packageName else app.appPath
    (if apps = [] then .vpnAllApps else settings.appsRouteMode, apps)
  else (.vpnAllApps, [])

def withSplitTunnel : JsonObject :=
  config
    |>.insert "splitTunnelType" (.double (siteTunnel qt settings config).1.number)
    |>.insert "splitTunnelSites" (.array ((siteTunnel qt settings config).2.map .string))
    |>.insert "appSplitTunnelType" (.double (appTunnel settings).1.number)
    |>.insert "splitTunnelApps" (.array ((appTunnel settings).2.map .string))

/-- `none` if an element is taken from a list that has it not. -/
def appendSplitTunnelingConfig : Option JsonObject :=
  (withNativeOptions config).map (withSplitTunnel qt settings)

end

/-! ### What the code writes -/

open JsonObject

section
variable {qt : AddressReader} {settings : SplitTunnelingSettings} {config config' completed out : JsonObject}
  {key key' : String}

section
variable (h : isWireguard config = true)
include h

theorem dataKey_of_isWireguard :
    protocolName config ++ "_config_data" ∈ ["awg_config_data", "wireguard_config_data"] := by
  rcases Bool.or_eq_true_iff.mp h with h | h <;> simp [of_decide_eq_true h]

theorem value_withData (hkey : key' ∉ ["awg_config_data", "wireguard_config_data"]) (value : Option Json) :
    (withData config key value).value key' = config.value key' := by
  cases value with
  | none => rfl
  | some json =>
    refine value_insert_of_ne _ (fun heq => hkey ?_) _
    rw [heq]
    exact dataKey_of_isWireguard h

theorem isWireguard_withData (value : Option Json) : isWireguard (withData config key value) = true := by
  rwa [isWireguard, protocolName, value_withData h (by decide)]

theorem value_wgConfig_withData (value : Option Json) :
    (wgConfig (withData config key value)).value key' =
      if key' = key then value.or ((wgConfig config).value key) else (wgConfig config).value key' := by
  cases value with
  | none => split_ifs with hkey <;> simp [withData, hkey]
  | some json =>
    have hdata : wgConfig (withData config key (some json)) = (wgConfig config).insert key json := by
      have hname := congrArg Json.toString (@value_withData config key "protocol" h (by decide) (some json))
      rw [wgConfig, hname]
      exact congrArg Json.toObject (value_insert_self ..)
    rw [hdata]
    split_ifs with hkey
    · rw [hkey, value_insert_self, Option.some_or]
    · exact value_insert_of_ne _ hkey _

end

theorem withAllowedIps_eq_some (h : withAllowedIps config = some config') :
    ∃ value, config' = withData config "allowed_ips" value := by
  unfold withAllowedIps at h
  split at h
  · exact ⟨_, (Option.some.inj h).symm⟩
  · obtain ⟨value, -, rfl⟩ := Option.map_eq_some_iff.mp h
    exact ⟨_, rfl⟩
  · exact ⟨none, (Option.some.inj h).symm⟩

theorem withPersistentKeepAlive_eq_some (h : withPersistentKeepAlive config = some config') :
    ∃ value, config' = withData config "persistent_keep_alive" value := by
  unfold withPersistentKeepAlive at h
  split at h
  · obtain ⟨value, -, rfl⟩ := Option.map_eq_some_iff.mp h
    exact ⟨_, rfl⟩
  · exact ⟨none, (Option.some.inj h).symm⟩

section
variable (h : withNativeOptions config = some completed)
include h

/-- The block for old configurations changes two members of the data of the protocol only. -/
theorem withNativeOptions_cases :
    completed = config ∨ isWireguard config = true ∧ ∃ ips keepAlive, completed =
      withData (withData config "allowed_ips" ips) "persistent_keep_alive" keepAlive := by
  unfold withNativeOptions at h
  split_ifs at h with hwireguard
  · obtain ⟨config', hips, hkeep⟩ := Option.bind_eq_some_iff.mp h
    obtain ⟨ips, rfl⟩ := withAllowedIps_eq_some hips
    obtain ⟨keepAlive, rfl⟩ := withPersistentKeepAlive_eq_some hkeep
    exact Or.inr ⟨hwireguard, ips, keepAlive, rfl⟩
  · exact Or.inl (Option.some.inj h).symm

theorem value_withNativeOptions (hkey : key ∉ ["awg_config_data", "wireguard_config_data"]) :
    completed.value key = config.value key := by
  rcases withNativeOptions_cases h with rfl | ⟨hwireguard, ips, keepAlive, rfl⟩
  · rfl
  · rw [value_withData (isWireguard_withData hwireguard _) hkey, value_withData hwireguard hkey]

theorem dnsTexts_withNativeOptions : dnsTexts completed = dnsTexts config := by
  rw [dnsTexts, value_withNativeOptions h (by decide), value_withNativeOptions h (by decide), dnsTexts]

end

theorem value_withSplitTunnel
    (hkey : key ∉ ["splitTunnelType", "splitTunnelSites", "appSplitTunnelType", "splitTunnelApps"]) :
    (withSplitTunnel qt settings config).value key = config.value key := by
  simp only [List.mem_cons, List.not_mem_nil, or_false, not_or] at hkey
  obtain ⟨htype, hsites, happType, happs⟩ := hkey
  rw [withSplitTunnel, value_insert_of_ne _ happs, value_insert_of_ne _ happType,
    value_insert_of_ne _ hsites, value_insert_of_ne _ htype]

theorem value_splitTunnelSites : (withSplitTunnel qt settings config).value "splitTunnelSites" =
    some (.array ((siteTunnel qt settings config).2.map .string)) := by
  rw [withSplitTunnel, value_insert_of_ne _ (by decide), value_insert_of_ne _ (by decide), value_insert_self]

theorem splitTunnelSites_withSplitTunnel :
    splitTunnelSites (withSplitTunnel qt settings config) = (siteTunnel qt settings config).2 := by
  rw [splitTunnelSites, value_splitTunnelSites]
  exact (List.map_map ..).trans (List.map_id _)

theorem splitTunnelType_withSplitTunnel :
    splitTunnelType (withSplitTunnel qt settings config) = (siteTunnel qt settings config).1.number := by
  rw [splitTunnelType, withSplitTunnel, value_insert_of_ne _ (by decide),
    value_insert_of_ne _ (by decide), value_insert_of_ne _ (by decide),
    value_insert_self]
  cases (siteTunnel qt settings config).1 <;> rfl

/-! ### The sites fit the mode -/

theorem nodup_usableSites : (usableSites qt settings).Nodup := List.nodup_reverse.mpr (List.nodup_dedup _)

theorem checked_of_mem_usableSites {site : String} (h : site ∈ usableSites qt settings) :
    checkIpSubnetFormat qt site = true := by
  rw [usableSites, List.mem_reverse, List.mem_dedup, List.mem_reverse, List.mem_filterMap] at h
  obtain ⟨entry, -, hentry⟩ := h
  split_ifs at hentry with hkey hvalue
  · rwa [← Option.some.inj hentry]
  · rwa [← Option.some.inj hentry]

variable (qt) in
/-- The mode and the sites fit together, and there are none if they are not to be used. -/
structure SelfConsistent (out : JsonObject) (used : Bool) : Prop where
  ne_nil : splitTunnelType out ≠ 0 → splitTunnelSites out ≠ []
  nodup : (splitTunnelSites out).Nodup
  subnets : ∀ site ∈ splitTunnelSites out, checkIpSubnetFormat qt site = true
  unused : used = false → splitTunnelSites out = [] ∧ splitTunnelType out = 0

theorem selfConsistent_iff {sites : List String} {mode : RouteMode} {used : Bool}
    (hsites : splitTunnelSites out = sites) (htype : splitTunnelType out = mode.number) :
    SelfConsistent qt out used ↔ (mode ≠ .vpnAllSites → sites ≠ []) ∧ sites.Nodup ∧
      (∀ site ∈ sites, checkIpSubnetFormat qt site = true) ∧ (used = false → sites = [] ∧ mode = .vpnAllSites) := by
  have hmode : splitTunnelType out = 0 ↔ mode = .vpnAllSites := by
    rw [htype]
    cases mode <;> decide
  subst hsites
  constructor
  · intro h
    exact ⟨fun hne => h.ne_nil (mt hmode.mp hne), h.nodup, h.subnets,
      fun hunused => (h.unused hunused).imp_right hmode.mp⟩
  · rintro ⟨hne, hnodup, hsubnets, hunused⟩
    exact ⟨fun htype => hne (mt hmode.mpr htype), hnodup, hsubnets, fun h => (hunused h).imp_right hmode.mpr⟩

/-- **The split tunnel of a connection is consistent exactly if** splitting is off, or the sites may not be used and the
stored mode is that of all sites, or they may and, where the DNS servers come after them, these are distinct addresses
that are not among the sites. -/
theorem split_tunnel_consistent_iff (h : appendSplitTunnelingConfig qt settings config = some out) :
    SelfConsistent qt out (settings.isSitesSplitTunnelingEnabled &&
        (withNativeOptions config).any allowSiteBasedSplitTunneling) ↔
      settings.isSitesSplitTunnelingEnabled = false ∨
      if (withNativeOptions config).any allowSiteBasedSplitTunneling then
        settings.routeMode = .vpnOnlyForwardSites → usableSites qt settings ≠ [] → (dnsTexts config).Nodup ∧
          ∀ dns ∈ dnsTexts config, checkIpSubnetFormat qt dns = true ∧ dns ∉ usableSites qt settings
      else settings.routeMode = .vpnAllSites := by
  obtain ⟨completed, hcompleted, rfl⟩ := Option.map_eq_some_iff.mp h
  rw [hcompleted, Option.any_some, ← dnsTexts_withNativeOptions hcompleted]
  rw [selfConsistent_iff splitTunnelSites_withSplitTunnel splitTunnelType_withSplitTunnel, siteTunnel]
  by_cases henabled : settings.isSitesSplitTunnelingEnabled = true
  swap
  · simp [henabled]
  by_cases hallowed : allowSiteBasedSplitTunneling completed = true
  swap
  · simp [henabled, hallowed]
  by_cases hnone : usableSites qt settings = []
  · simp [henabled, hallowed, hnone]
  have hchecked : ∀ site ∈ usableSites qt settings, checkIpSubnetFormat qt site = true :=
    fun _ => checked_of_mem_usableSites
  by_cases honly : settings.routeMode = .vpnOnlyForwardSites
  swap
  · simpa [henabled, hallowed, hnone, honly, nodup_usableSites] using hchecked
  simp only [henabled, hallowed, hnone, honly, if_true, if_false, List.nodup_append, List.mem_append]
  constructor
  · rintro ⟨-, ⟨-, hdns, hdisjoint⟩, hsubnets, -⟩
    refine Or.inr fun _ _ => ⟨hdns, fun dns hmem => ⟨hsubnets dns (Or.inr hmem), fun hsite => ?_⟩⟩
    exact hdisjoint dns hsite dns hmem rfl
  · intro h
    obtain ⟨hdns, hall⟩ := h.resolve_left (by simp) trivial hnone
    refine ⟨fun _ => by simp [hnone], ⟨nodup_usableSites, hdns, ?_⟩, ?_, by simp⟩
    · rintro site hsite _ hmem rfl
      exact (hall site hmem).2 hsite
    · rintro site (hsite | hmem)
      · exact hchecked site hsite
      · exact (hall site hmem).1

end

/-- One site with its address, and the route mode. -/
def oneSite (routeMode : RouteMode) : SplitTunnelingSettings where
  isSitesSplitTunnelingEnabled := true
  routeMode := routeMode
  vpnSites _ := ⟨[("example.com", "203.0.113.9")], List.pairwise_singleton ..⟩
  isAppsSplitTunnelingEnabled := false
  appsRouteMode := .vpnAllApps
  vpnApps _ := []

def openVpnConfig (dns2 : Option Json) : JsonObject :=
  JsonObject.insertValue [("dns1", .string "1.1.1.1"), ("protocol", .string "openvpn")] "dns2" dns2

open WireguardUtilsLinux in
theorem split_tunnel_with_both_dns : ∃ out,
    appendSplitTunnelingConfig sampleText.toAddressReader (oneSite .vpnOnlyForwardSites)
      (openVpnConfig (some (.string "8.8.8.8"))) = some out ∧
    SelfConsistent sampleText.toAddressReader out true := by
  have h : appendSplitTunnelingConfig sampleText.toAddressReader (oneSite .vpnOnlyForwardSites)
    (openVpnConfig (some (.string "8.8.8.8"))) = some _ := rfl
  exact ⟨_, h, (split_tunnel_consistent_iff h).mpr (by decide +kernel)⟩

open WireguardUtilsLinux in
/-- A WireGuard configuration that does not tunnel everything keeps the stored mode without sites, and a missing DNS
server becomes an empty site. -/
theorem split_tunnel_not_consistent :
    (∃ out, appendSplitTunnelingConfig sampleText.toAddressReader (oneSite .vpnOnlyForwardSites)
      [("awg_config_data", .object [("allowed_ips", .array [.string "10.0.0.0/8"]),
        ("persistent_keep_alive", .string "25")]), ("protocol", .string "awg")] = some out ∧
      splitTunnelType out = 1 ∧ splitTunnelSites out = []) ∧
    ∃ out, appendSplitTunnelingConfig sampleText.toAddressReader (oneSite .vpnOnlyForwardSites)
      (openVpnConfig none) = some out ∧ splitTunnelSites out = ["203.0.113.9", "1.1.1.1", ""] :=
  ⟨⟨_, rfl, by decide +kernel, by decide +kernel⟩, _, rfl, by decide +kernel⟩

end VpnConnection

end FreshVpn
