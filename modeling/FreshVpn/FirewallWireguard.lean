import Mathlib.Data.List.Sort
import FreshVpn.FirewallVerdict
import FreshVpn.DaemonLinux

/-! The kill switch of a WireGuard connection on Linux, from the configuration in the client to the firewall: the message
that the client sends to the daemon, what the daemon reads from it, and the rules that the new interface brings. -/

namespace FreshVpn

open JsonObject KillSwitch

/-- Qt's reading of addresses together with its writing of them. -/
structure AddressText extends AddressReader where
  toText : HostAddress → String

/-- `IPAddress::toString` -/
def IPAddress.toString (qt : AddressText) (p : IPAddress) : String := qt.toText p.address ++ "/" ++ p.prefixLength.repr

/-- `QJsonObject::insert` of a value that may be missing: then the member is removed. -/
def JsonObject.insertValue (object : JsonObject) (key : String) (value : Option Json) : JsonObject :=
  match value with
  | some json => object.insert key json
  | none => object.remove key

theorem JsonObject.value_insertValue_of_ne (object : JsonObject) {key key' : String} (hne : key' ≠ key)
    (json : Option Json) : (object.insertValue key json).value key' = object.value key' := by
  cases json with
  | none =>
    exact value_remove_of_ne object hne
  | some json =>
    exact value_insert_of_ne object hne json

/-- `atoi`: blanks, a sign, and the digits up to the first other character. -/
def atoi (text : List Char) : ℤ :=
  let number (digits : List Char) : ℤ := (Nat.ofDigitChars 10 (digits.takeWhile Char.isDigit) 0 : ℕ)
  match text.dropWhile fun c => c == ' ' || (0x09 ≤ c.toNat && c.toNat ≤ 0x0d) with
  | '-' :: digits => -number digits
  | '+' :: digits => number digits
  | digits => number digits

namespace LocalSocketController

def rangeObject (address : String) (range : ℤ) (isIpv6 : Bool) : Json :=
  .object [("address", .string address), ("isIpv6", .bool isIpv6), ("range", .double range)]

/-- A text with a slash is an address and a length; another one is an address. -/
def rangeOfText (ipRange : String) : Json :=
  match ipRange.toList.splitOn '/' with
  | address :: length :: _ => rangeObject (String.ofList address) (atoi length) false
  | _ => rangeObject ipRange 32 false

def isDefaultAllowedIP : List Json → Bool
  | [.string first, .string second] => first = "0.0.0.0/0" && second = "::/0"
  | _ => false

section
variable (rawConfig : JsonObject)

def wgConfig : JsonObject :=
  Json.toObject (rawConfig.value (Json.toString (rawConfig.value "protocol") ++ "_config_data"))

/-- The ranges of the message. The list of the configuration comes before the mode of split tunnelling. -/
def allowedIPAddressRanges : List Json :=
  let plainAllowedIP := Json.toArray ((wgConfig rawConfig).value "allowed_ips")
  let splitTunnelType := Json.toInt (rawConfig.value "splitTunnelType") 0
  if !isDefaultAllowedIP plainAllowedIP && !plainAllowedIP.isEmpty then
    plainAllowedIP.map fun v => rangeOfText (Json.toString (some v))
  else
    (if splitTunnelType = 0 ∨ splitTunnelType = 2 then [rangeObject "0.0.0.0" 0 false, rangeObject "::" 0 true] else []) ++
    (if splitTunnelType = 1 then
      (Json.toArray (rawConfig.value "splitTunnelSites")).map fun v => rangeOfText (Json.toString (some v))
    else [])

/-- The host is excluded, and the sites are if they are not to be tunnelled. -/
def excludedAddresses : List Json :=
  ((wgConfig rawConfig).value "hostName").getD .null ::
    (if Json.toInt (rawConfig.value "splitTunnelType") 0 = 2 then
      (Json.toArray (rawConfig.value "splitTunnelSites")).map fun v => .string (Json.toString (some v))
    else [])

/-- The message that activates a connection. -/
def activate : JsonObject :=
  let wgConfig := wgConfig rawConfig
  let dns2 := if containsText (Json.toString (rawConfig.value "dns1")) amneziaDnsIp then none
    else rawConfig.value "dns2"
  let message : JsonObject := [("type", .string "activate")]
  message
    |>.insertValue "privateKey" (wgConfig.value "client_priv_key")
    |>.insertValue "deviceIpv4Address" (wgConfig.value "client_ip")
    |>.insert "deviceIpv6Address" (.string "fd58:baa6:dead::1")
    |>.insertValue "serverPublicKey" (wgConfig.value "server_pub_key")
    |>.insertValue "serverPskKey" (wgConfig.value "psk_key")
    |>.insertValue "serverIpv4AddrIn" (wgConfig.value "hostName")
    |>.insertValue "deviceMTU" (wgConfig.value "mtu")
    |>.insert "serverPort" (.double (Json.toInt (wgConfig.value "port") 0))
    |>.insertValue "serverIpv4Gateway" (wgConfig.value "hostName")
    |>.insertValue "primaryDnsServer" (rawConfig.value "dns1")
    |>.insertValue "secondaryDnsServer" dns2
    |>.insert "allowedIPAddressRanges" (.array (allowedIPAddressRanges rawConfig))
    |>.insert "excludedAddresses" (.array (excludedAddresses rawConfig))
    |>.insert "vpnDisabledApps" (.array (Json.toArray (rawConfig.value "splitTunnelApps")))
    |>.insert "allowedDnsServers" (.array (Json.toArray (rawConfig.value "allowedDnsServers")))
    |>.insertValue "killSwitchOption" (rawConfig.value "killSwitchOption")

theorem value_excludedAddresses :
    (activate rawConfig).value "excludedAddresses" = some (.array (excludedAddresses rawConfig)) := by
  unfold activate
  rw [value_insertValue_of_ne _ (by decide), value_insert_of_ne _ (by decide),
    value_insert_of_ne _ (by decide), value_insert_self]

end

end LocalSocketController

structure ActivatedConfig extends InterfaceConfig where
  killSwitchEnabled : Bool

namespace Daemon

variable (obj : JsonObject) (name : String)

def requiredText : Option String :=
  match obj.value name with
  | some (.string text) => some text
  | _ => none

def optionalText : Option String :=
  match obj.value name with
  | none => some ""
  | some (.string text) => some text
  | some _ => none

def parseStringList : Option (List String) :=
  match obj.value name with
  | none => some []
  | some (.array elements) => elements.mapM fun i =>
    match i with
    | .string text => some text
    | _ => none
  | some _ => none

def parseHopType : Option HopType :=
  match obj.value "hopType" with
  | none => some .singleHop
  | some (.string "SingleHop") => some .singleHop
  | some (.string "MultiHopEntry") => some .multiHopEntry
  | some (.string "MultiHopExit") => some .multiHopExit
  | some _ => none

/-- An object of the list of ranges. -/
def parseRange (qt : AddressReader) : Json → Option IPAddress
  | .object ipObj =>
    match JsonObject.value ipObj "address", JsonObject.value ipObj "range", JsonObject.value ipObj "isIpv6" with
    | some (.string address), some (.double range), some (.bool _) =>
      some ⟨qt.hostAddress address, Json.toInt (some (.double range)) 0⟩
    | _, _, _ => none
  | _ => none

def parseRanges (qt : AddressReader) (obj : JsonObject) : Option (List IPAddress) :=
  match obj.value "allowedIPAddressRanges" with
  | some (.array elements) => (elements.mapM (parseRange qt)).map fun ranges =>
    ranges.insertionSort fun a b => b.prefixLength ≤ a.prefixLength
  | _ => none

/-- A text as a truth value, as `QVariant::toBool` reads it. -/
def textToBool (text : String) : Bool :=
  !(text.toList.map Char.toLower ∈ [[], ['0'], ['f', 'a', 'l', 's', 'e']])

/-- The text of a member, or the null text. -/
def nullableText : Option String :=
  match obj.value name with
  | some (.string text) => some text
  | _ => none

/-- `Daemon::parseConfig`, the fields that are read here. -/
def parseConfig (qt : AddressReader) (obj : JsonObject) : Option ActivatedConfig := do
  let privateKey ← requiredText obj "privateKey"
  let serverPublicKey ← requiredText obj "serverPublicKey"
  match obj.value "serverPort" with
  | some (.double _) =>
    if (nullableText obj "deviceIpv4Address").isNone ∧ (nullableText obj "deviceIpv6Address").isNone then none
    else if (nullableText obj "serverIpv4AddrIn").isNone ∧ (nullableText obj "serverIpv6AddrIn").isNone then none
    else do
      let primaryDnsServer ← optionalText obj "primaryDnsServer"
      let secondaryDnsServer ← optionalText obj "secondaryDnsServer"
      let hopType ← parseHopType obj
      let allowedIPAddressRanges ← parseRanges qt obj
      let excludedAddresses ← parseStringList obj "excludedAddresses"
      let _ ← parseStringList obj "vpnDisabledApps"
      let _ ← parseStringList obj "allowedDnsServers"
      some
        { hopType := hopType
          privateKey := privateKey
          deviceIpv4Address := Json.toString (obj.value "deviceIpv4Address")
          deviceIpv6Address := Json.toString (obj.value "deviceIpv6Address")
          serverIpv4Gateway := Json.toString (obj.value "serverIpv4Gateway")
          serverIpv6Gateway := Json.toString (obj.value "serverIpv6Gateway")
          serverPublicKey := serverPublicKey
          serverIpv4AddrIn := nullableText obj "serverIpv4AddrIn"
          serverIpv6AddrIn := nullableText obj "serverIpv6AddrIn"
          primaryDnsServer := primaryDnsServer
          secondaryDnsServer := secondaryDnsServer
          allowedIPAddressRanges := allowedIPAddressRanges
          excludedAddresses := excludedAddresses
          killSwitchEnabled := textToBool (Json.toString (obj.value "killSwitchOption")) }
  | _ => none

theorem excludedAddresses_of_parseConfig {qt : AddressReader} {obj : JsonObject} {config : ActivatedConfig}
    (h : parseConfig qt obj = some config) :
    parseStringList obj "excludedAddresses" = some config.excludedAddresses := by
  simp only [parseConfig, Option.bind_eq_bind, Option.bind_eq_some_iff] at h
  obtain ⟨_, -, _, -, h⟩ := h
  split at h
  · split at h
    · cases h
    · split at h
      · cases h
      · simp only [Option.bind_eq_some_iff, Option.some.injEq] at h
        obtain ⟨_, -, _, -, _, -, _, -, excluded, hexcluded, _, -, _, -, rfl⟩ := h
        exact hexcluded
  · cases h

end Daemon

namespace WireguardUtilsLinux

open LinuxFirewall

section
variable (qt : AddressText) (names : HostNames)

/-- The parameters of the firewall for a connection. Only if the default prefix is among the ranges are the excluded
addresses let through. -/
def firewallParams (config : InterfaceConfig) : FirewallParams :=
  let dnsServers := config.primaryDnsServer ::
    (if config.secondaryDnsServer = "" then [] else [config.secondaryDnsServer])
  if config.allowedIPAddressRanges.contains (IPAddress.ofString qt.toAddressReader "0.0.0.0/0") then
    { dnsServers := dnsServers, allowAddrs := config.excludedAddresses, blockAddrs := [], blockAll := true,
      allowNets := !config.excludedAddresses.isEmpty, blockNets := false }
  else
    { dnsServers := dnsServers, allowAddrs := [], blockAddrs := config.allowedIPAddressRanges.map (·.toString qt),
      blockAll := false, allowNets := false, blockNets := true }

/-- `addInterface` with the firewall: once the interface is configured, the kill switch is applied. -/
def addInterfaceAndFirewall (answers : LinuxAnswers) (config : ActivatedConfig) (s : LinuxState) (f : Firewall) :
    Bool × LinuxState × Firewall :=
  let added := addInterface answers config.toInterfaceConfig s
  (added.1, added.2,
    if added.1 && config.killSwitchEnabled then
      applyFirewallRules names (firewallParams qt config.toInterfaceConfig) f
    else f)

end

theorem excludedAddresses_of_activate {qt : AddressReader} {rawConfig : JsonObject} {config : ActivatedConfig}
    (h : Daemon.parseConfig qt (LocalSocketController.activate rawConfig) = some config) :
    ∃ rest, config.excludedAddresses =
      Json.toString ((LocalSocketController.wgConfig rawConfig).value "hostName") :: rest := by
  have hlist := Daemon.excludedAddresses_of_parseConfig h
  rw [Daemon.parseStringList, LocalSocketController.value_excludedAddresses] at hlist
  simp only [LocalSocketController.excludedAddresses, List.mapM_cons, Option.pure_def, Option.bind_eq_bind,
    Option.bind_eq_some_iff] at hlist
  obtain ⟨host, hhost, rest, -, hconfig⟩ := hlist
  refine ⟨rest, ?_⟩
  rw [← Option.some.inj hconfig]
  cases hvalue : (LocalSocketController.wgConfig rawConfig).value "hostName" with
  | none =>
    rw [hvalue] at hhost
    cases hhost
  | some json =>
    rw [hvalue] at hhost
    cases json with
    | string text =>
      rw [← Option.some.inj hhost]
      rfl
    | _ =>
      cases hhost

/-- **The server of a WireGuard connection is reachable past its own kill switch exactly if** the default prefix is
tunnelled, the server is in the local network, none of the tunnelled ranges contains it, or the packet carries a mark that
an earlier connection has left enabled. -/
theorem server_accepted_iff (strict : Bool) (calls : List (HostNames × Call)) (qt : AddressText)
    (names : HostNames) (answers : LinuxAnswers) (s : LinuxState) (rawConfig : JsonObject) (config : ActivatedConfig)
    (hconfig : Daemon.parseConfig qt.toAddressReader (LocalSocketController.activate rawConfig) = some config)
    (hkillSwitch : config.killSwitchEnabled = true) (server : BitVec 32)
    (hserver : Json.toString ((LocalSocketController.wgConfig rawConfig).value "hostName") =
      String.ofList (Ipv4.chars server))
    (hadded : (addInterface answers config.toInterfaceConfig s).1 = true) (packet : Packet 32)
    (hphysical : Physical packet) (hport : packet.dport ≠ 53) (hdestination : packet.destination = server) :
    (addInterfaceAndFirewall qt names answers config s (after strict calls).firewall).2.2.ipv4.verdict
        packet = .accept ↔
      config.allowedIPAddressRanges.contains (IPAddress.ofString qt.toAddressReader "0.0.0.0/0") = true ∨
        inLan server = true ∨ covered names (config.allowedIPAddressRanges.map (·.toString qt)) server = false ∨
        markedXrayOn (ensureInstalled (after strict calls).firewall) = true ∧
          packet.mark = xrayTrafficMark := by
  have hready := (sound_after strict calls).ensureInstalled.ensureRootAnchorPriority
  have hverdict :=
    verdict_switchAnchors hready names (firewallParams qt config.toInterfaceConfig) marks_id hphysical
  have hdns : isDns packet = false := by simp [isDns, hport]
  have hfirewall : (addInterfaceAndFirewall qt names answers config s (after strict calls).firewall).2.2 =
      applyFirewallRules names (firewallParams qt config.toInterfaceConfig) (after strict calls).firewall := by
    simp [addInterfaceAndFirewall, hadded, hkillSwitch]
  rw [hfirewall, applyFirewallRules, hverdict, hdns, if_neg Bool.false_ne_true, hdestination]
  change (if inLan server ∨ isDhcp packet ∨ markedXrayOn (ensureInstalled (after strict calls).firewall) ∧
    packet.mark = xrayTrafficMark then _ else _) = _ ↔ _
  by_cases hlan : inLan server = true
  · simp [hlan]
  have hdhcp : isDhcp packet = false := by
    rw [← Bool.not_eq_true]
    intro hdhcp
    exact hlan (hdestination ▸ inLan_of_isDhcp hdhcp)
  by_cases hmarked : markedXrayOn (ensureInstalled (after strict calls).firewall) = true ∧
      packet.mark = xrayTrafficMark
  · simp [hmarked]
  rw [if_neg (by simp [hlan, hdhcp, hmarked])]
  by_cases hdefault :
      config.allowedIPAddressRanges.contains (IPAddress.ofString qt.toAddressReader "0.0.0.0/0") = true
  · -- everything is tunnelled: the host is the first of the addresses that are let through
    obtain ⟨rest, hrest⟩ := excludedAddresses_of_activate hconfig
    have hcovered : covered names config.excludedAddresses server = true := by
      have hread : destinations names (String.ofList (Ipv4.chars server)) = [Network.host server] := by
        rw [← Ipv4.Range.text_address]
        exact destinations_text names ⟨server, none⟩
      rw [hrest, hserver, covered, List.any_cons, hread]
      simp [Network.host_contains]
    simp only [firewallParams, hdefault, if_true, hcovered]
    simp [hrest]
  · -- the ranges are blocked and nothing is let through
    simp only [firewallParams, hdefault]
    simp [hlan, hmarked]

def sampleText : AddressText where
  hostAddress text := ((Ipv4.read text.toList).map HostAddress.ipv4).getD .null
  parseSubnet
    | "::/1" => (.ipv6 0, 1)
    | "8000::/1" => (.ipv6 (1 <<< 127), 1)
    | text => ((Ipv4.Range.read text.toList).map fun range => (.ipv4 range.address, (range.network.length : ℤ))).getD
        (.null, -1)
  parseSubnet_ipv4Low := by decide
  parseSubnet_ipv4High := by decide
  parseSubnet_ipv6Low := rfl
  parseSubnet_ipv6High := rfl
  toText
    | .ipv4 a => String.ofList (Ipv4.chars a)
    | _ => ""

def sampleRawConfig (allowedIps : List Json) : JsonObject :=
  [("awg_config_data", .object [("allowed_ips", .array allowedIps), ("client_ip", .string "10.8.1.2"),
      ("client_priv_key", .string "privateKey"), ("hostName", .string "203.0.113.5"), ("port", .double 51820),
      ("server_pub_key", .string "publicKey")]),
    ("dns1", .string "1.1.1.1"), ("killSwitchOption", .string "true"), ("protocol", .string "awg")]

def serverPacket : Packet 32 := ⟨"eth0", Ipv4.ofOctets 203 0 113 5, .udp, 40000, 51820, 0⟩

def sampleVerdict (allowedIps : List Json) : Option Verdict :=
  (Daemon.parseConfig sampleText.toAddressReader
    (LocalSocketController.activate (sampleRawConfig allowedIps))).map fun config =>
      (addInterfaceAndFirewall sampleText (fun _ => []) .success config ⟨false, false, ∅, ∅⟩
        (after false []).firewall).2.2.ipv4.verdict serverPacket

theorem sampleRawConfig_isSome : (Daemon.parseConfig sampleText.toAddressReader
    (LocalSocketController.activate (sampleRawConfig []))).isSome = true := by
  decide +kernel

theorem server_reached_by_default : ∃ config,
    Daemon.parseConfig sampleText.toAddressReader (LocalSocketController.activate (sampleRawConfig [])) = some config ∧
      (addInterfaceAndFirewall sampleText (fun _ => []) .success config ⟨false, false, ∅, ∅⟩
        (after false []).firewall).2.2.ipv4.verdict serverPacket = .accept := by
  refine ⟨_, (Option.some_get sampleRawConfig_isSome).symm, ?_⟩
  refine (server_accepted_iff false [] sampleText (fun _ => []) .success ⟨false, false, ∅, ∅⟩ (sampleRawConfig []) _
    (Option.some_get sampleRawConfig_isSome).symm ?_ (Ipv4.ofOctets 203 0 113 5) ?_ rfl serverPacket ?_ ?_ rfl).mpr
    (Or.inl ?_)
  all_goals decide +kernel

theorem server_cut_off_by_the_two_halves :
    sampleVerdict [.string "0.0.0.0/1", .string "128.0.0.0/1"] = some .reject := by
  decide +kernel

end WireguardUtilsLinux

end FreshVpn
