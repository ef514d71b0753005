import FreshVpn.FirewallTable
import FreshVpn.ServersJson

/-! The anchors of `LinuxFirewall` and the kill switch that switches them. -/

namespace FreshVpn

open FilterTable

/-- The addresses that a host name has at the time. -/
abbrev HostNames := String → List (BitVec 32)

/-- The networks that `iptables` reads after `-d`. Without a text the command fails. -/
def destinations (names : HostNames) (text : String) : List (Network 32) :=
  if text = "" then []
  else match Ipv4.Range.read text.toList with
    | some range => [range.network]
    | none => (names text).map Network.host

theorem destinations_text (names : HostNames) (range : Ipv4.Range) :
    destinations names range.text = [range.network] := by
  have hread := Ipv4.Range.read_text range
  have hne : range.text ≠ "" := by
    intro h
    rw [h] at hread
    cases hread
  rw [destinations, if_neg hne, hread]

structure Firewall where
  ipv4 : FilterTable 32
  ipv6 : FilterTable 128

/-- `LinuxFirewall::IPVersion` -/
inductive IPVersion where
  | ipv4
  | ipv6
  | both
  deriving DecidableEq, Repr

namespace LinuxFirewall

/-- The mark that Xray's own sockets set. -/
def xrayTrafficMark : ℕ := 0x82

/-- The beginnings of the names of the tunnels' interfaces. -/
def tunnelNames : List String := ["amn0", "tun0", "tun2"]

variable (names : HostNames)

def getDNSRules (servers : List String) : List (Rule 32) :=
  servers.flatMap fun server => tunnelNames.flatMap fun name => [Transport.udp, .tcp].flatMap fun transport =>
    (destinations names server).map fun network =>
      { out := some name, destination := some network, transport := some transport, dport := some 53, target := .accept }

/-- One rule for each network that the texts stand for. -/
def netRules (target : Verdict) (names : HostNames) (servers : List String) : List (Rule 32) :=
  servers.flatMap fun server => (destinations names server).map fun network =>
    { destination := some network, target := target }

def getAllowRule : HostNames → List String → List (Rule 32) := netRules .accept

def getBlockRule : HostNames → List String → List (Rule 32) := netRules .reject

def lanRanges : List (Network 32) :=
  [⟨Ipv4.ofOctets 10 0 0 0, 8⟩, ⟨Ipv4.ofOctets 169 254 0 0, 16⟩, ⟨Ipv4.ofOctets 172 16 0 0, 12⟩,
    ⟨Ipv4.ofOctets 192 168 0 0, 16⟩, ⟨Ipv4.ofOctets 224 0 0 0, 4⟩, ⟨Ipv4.ofOctets 255 255 255 255, 32⟩]

def lanRanges6 : List (Network 128) := [⟨0xfc <<< 120, 7⟩, ⟨0xfe8 <<< 116, 10⟩, ⟨0xff <<< 120, 8⟩]

section
variable {w : ℕ}

def loopbackRules : List (Rule w) := [{ out := some "lo", target := .accept }]

def blockDNSRules : List (Rule w) :=
  [{ transport := some .udp, dport := some 53, target := .reject },
    { transport := some .tcp, dport := some 53, target := .reject }]

def lanRules (ranges : List (Network w)) : List (Rule w) :=
  ranges.map fun network => { destination := some network, target := .accept }

def dhcpRules (network : Network w) (sport dport : ℕ) : List (Rule w) :=
  [{ transport := some .udp, destination := some network, sport := some sport, dport := some dport, target := .accept }]

def vpnRules : List (Rule w) := tunnelNames.map fun name => { out := some name, target := .accept }

def markedXrayRules : List (Rule w) := [{ mark := some xrayTrafficMark, target := .accept }]

def blockAllRules : List (Rule w) := [{ target := .reject }]

end

/-- The anchors of the two tables in the order of their installation. -/
def anchors4 : List (Anchor × List (Rule 32)) :=
  [(.allowLoopback, loopbackRules), (.allowDNS, []), (.blockDNS, blockDNSRules), (.allowLAN, lanRules lanRanges),
    (.allowDHCP, dhcpRules (Network.host (Ipv4.ofOctets 255 255 255 255)) 68 67), (.allowVPN, vpnRules),
    (.allowMarkedXray, markedXrayRules), (.blockNets, []), (.allowNets, []), (.blockAll, blockAllRules)]

def anchors6 : List (Anchor × List (Rule 128)) :=
  [(.allowLoopback, loopbackRules), (.blockDNS, blockDNSRules), (.allowLAN, lanRules lanRanges6),
    (.allowDHCP, dhcpRules ⟨0xff <<< 120, 8⟩ 546 547), (.blockIPv6, [{ notOut := some "lo", target := .reject }]),
    (.allowVPN, vpnRules), (.allowMarkedXray, markedXrayRules), (.blockAll, blockAllRules)]

def refilled : List Anchor := [.allowDNS, .blockNets, .allowNets]

variable (s : Firewall)

def uninstall : Firewall where
  ipv4 := s.ipv4.uninstall
    [.allowLoopback, .allowPIA, .allowDNS, .blockDNS, .allowLAN, .allowDHCP, .allowVPN, .blockNets, .allowMarkedXray,
      .allowNets, .blockAll]
  ipv6 := s.ipv6.uninstall
    [.allowLoopback, .allowPIA, .blockDNS, .allowLAN, .allowDHCP, .blockIPv6, .allowVPN, .allowMarkedXray, .blockAll]

def install : Firewall where
  ipv4 := (uninstall s).ipv4.install anchors4
  ipv6 := (uninstall s).ipv6.install anchors6

def isInstalled : Bool := s.ipv4.linked

/-- The calls of the kill switch begin with this test. -/
def ensureInstalled : Firewall := if isInstalled s then s else install s

def ensureRootAnchorPriority : Firewall := ⟨s.ipv4.linkRoot, s.ipv6.linkRoot⟩

def setAnchorEnabled (ip : IPVersion) (a : Anchor) (enabled : Bool) (s : Firewall) : Firewall where
  ipv4 := if ip = .ipv6 then s.ipv4 else s.ipv4.setAnchorEnabled a enabled
  ipv6 := if ip = .ipv4 then s.ipv6 else s.ipv6.setAnchorEnabled a enabled

def updateDNSServers (servers : List String) (s : Firewall) : Firewall :=
  { s with ipv4 := s.ipv4.replaceRules .allowDNS (getDNSRules names servers) }

def updateAllowNets (servers : List String) (s : Firewall) : Firewall :=
  { s with ipv4 := s.ipv4.replaceRules .allowNets (getAllowRule names servers) }

def updateBlockNets (servers : List String) (s : Firewall) : Firewall :=
  { s with ipv4 := s.ipv4.replaceRules .blockNets (getBlockRule names servers) }

def setAnchors (settings : List (IPVersion × Anchor × Bool)) (s : Firewall) : Firewall :=
  settings.foldl (fun s e => setAnchorEnabled e.1 e.2.1 e.2.2 s) s

end LinuxFirewall

/-- `FirewallParams`, the fields that are read. -/
structure FirewallParams where
  dnsServers : List String
  allowAddrs : List String
  blockAddrs : List String
  blockAll : Bool
  allowNets : Bool
  blockNets : Bool

namespace LinuxFirewall

/-- The series of calls by which both users of the firewall set its anchors. They differ in what they do with the anchor
for marked packets. -/
def switchAnchors (names : HostNames) (params : FirewallParams) (marked : Firewall → Firewall) (s : Firewall) :
    Firewall :=
  let nets := setAnchors [(.both, .allowLoopback, true), (.both, .blockAll, params.blockAll),
    (.ipv4, .allowNets, params.allowNets)] s
  let blocks := setAnchorEnabled .ipv4 .blockNets params.blockNets (updateAllowNets names params.allowAddrs nets)
  let rest := setAnchors [(.ipv4, .allowVPN, true), (.ipv6, .blockIPv6, true), (.both, .allowDHCP, true),
    (.both, .allowLAN, true), (.ipv4, .blockDNS, true)] (marked (updateBlockNets names params.blockAddrs blocks))
  setAnchors [(.ipv4, .allowDNS, true), (.both, .allowPIA, true)] (updateDNSServers names params.dnsServers rest)

end LinuxFirewall

/-- `WireguardUtilsLinux::applyFirewallRules` -/
def WireguardUtilsLinux.applyFirewallRules (names : HostNames) (params : FirewallParams) (s : Firewall) : Firewall :=
  LinuxFirewall.switchAnchors names params id
    (LinuxFirewall.ensureRootAnchorPriority (LinuxFirewall.ensureInstalled s))

structure KillSwitch where
  firewall : Firewall
  strict : Bool
  allowedRanges : List String

namespace KillSwitch

open LinuxFirewall

def initial (strict : Bool) : KillSwitch := ⟨⟨.bare, .bare⟩, strict, []⟩

variable (s : KillSwitch)

def disableKillSwitch : KillSwitch :=
  let firewall :=
    if s.strict then
      setAnchors [(.both, .allowLoopback, true), (.both, .blockAll, true), (.ipv4, .allowNets, false),
        (.ipv4, .blockNets, false), (.both, .allowMarkedXray, false), (.ipv4, .allowVPN, false),
        (.ipv6, .blockIPv6, true), (.both, .allowDHCP, false), (.both, .allowLAN, false), (.ipv4, .blockDNS, false),
        (.ipv4, .allowDNS, false), (.both, .allowPIA, false)] s.firewall
    else
      uninstall <| setAnchors [(.both, .allowLoopback, true), (.both, .blockAll, false), (.ipv4, .allowNets, false),
        (.ipv4, .blockNets, false), (.both, .allowMarkedXray, false), (.ipv4, .allowVPN, false),
        (.ipv6, .blockIPv6, false), (.both, .allowDHCP, true), (.both, .allowLAN, true), (.ipv4, .blockDNS, false),
        (.ipv4, .allowDNS, true), (.both, .allowPIA, false)] s.firewall
  { s with firewall := firewall, allowedRanges := [] }

def disableAllTraffic : KillSwitch :=
  let firewall := setAnchors [(.both, .blockAll, true), (.both, .allowMarkedXray, false), (.both, .allowLoopback, true),
    (.ipv6, .blockIPv6, true)] (ensureInstalled s.firewall)
  { s with firewall := firewall, allowedRanges := [] }

def init : KillSwitch := if s.strict then disableAllTraffic s else s

def refresh (enabled : Bool) (s : KillSwitch) : KillSwitch :=
  if enabled then disableAllTraffic { s with strict := enabled } else disableKillSwitch { s with strict := enabled }

def resetAllowedRange (names : HostNames) (ranges : List String) (s : KillSwitch) : KillSwitch :=
  { s with
    firewall := updateAllowNets names ranges (LinuxFirewall.setAnchorEnabled .ipv4 .allowNets true s.firewall)
    allowedRanges := ranges }

def addAllowedRange (names : HostNames) (ranges : List String) (s : KillSwitch) : KillSwitch :=
  let allowed := ranges.foldl (fun allowed range =>
    if range ≠ "" ∧ range ∉ allowed then allowed ++ [range] else allowed) s.allowedRanges
  resetAllowedRange names allowed { s with allowedRanges := allowed }

/-- The address of the resolver that the client itself offers. -/
def amneziaDnsIp : String := "172.29.172.254"

variable (config : JsonObject)

/-- The resolvers that stay reachable through the tunnel. The list of the configuration is read up to the first value that
is not a text. -/
def dnsServers : List String :=
  let dns1 := Json.toString (config.value "dns1")
  [dns1] ++ (if containsText dns1 amneziaDnsIp then [] else [Json.toString (config.value "dns2")]) ++
    ["127.0.0.1", "127.0.0.53"] ++
    ((Json.toArray (config.value "allowedDnsServers")).takeWhile fun dns =>
      match dns with
      | .string _ => true
      | _ => false).map fun dns => Json.toString (some dns)

/-- `splitTunnelType` and `splitTunnelSites` of a configuration. -/
def splitTunnelType : ℤ := Json.toInt (config.value "splitTunnelType") 0

def splitTunnelSites : List String :=
  (Json.toArray (config.value "splitTunnelSites")).map fun site => Json.toString (some site)

/-- What `enableKillSwitch` asks of the firewall. The anchor for the blocked networks gets the value that is meant for
`blockAll`; the one computed for it, `splitTunnelType = 1`, is not used on Linux. -/
def firewallParams : FirewallParams :=
  let vpnServer := Json.toString (config.value "vpnServer")
  let blockAll := decide (splitTunnelType config = 0 ∨ splitTunnelType config = 2)
  { dnsServers := dnsServers config
    allowAddrs :=
      if splitTunnelType config = 0 then [vpnServer]
      else if splitTunnelType config = 2 then vpnServer :: splitTunnelSites config
      else []
    blockAddrs := if splitTunnelType config = 1 then splitTunnelSites config else []
    blockAll := blockAll
    allowNets := blockAll
    blockNets := blockAll }

def enableKillSwitch (names : HostNames) (config : JsonObject) (s : KillSwitch) : KillSwitch :=
  { s with
    firewall := switchAnchors names (firewallParams config)
      (LinuxFirewall.setAnchorEnabled .both .allowMarkedXray true) (ensureInstalled s.firewall) }

/-- What the daemon is asked to do with the firewall. -/
inductive Call where
  | init
  | refresh (enabled : Bool)
  | disableKillSwitch
  | disableAllTraffic
  | resetAllowedRange (ranges : List String)
  | addAllowedRange (ranges : List String)
  | enableKillSwitch (config : JsonObject)
  | applyFirewallRules (params : FirewallParams)

/-- One call, with the host names as they are at the time. -/
def handle : HostNames × Call → KillSwitch
  | (_, .init) => init s
  | (_, .refresh enabled) => refresh enabled s
  | (_, .disableKillSwitch) => disableKillSwitch s
  | (_, .disableAllTraffic) => disableAllTraffic s
  | (names, .resetAllowedRange ranges) => resetAllowedRange names ranges s
  | (names, .addAllowedRange ranges) => addAllowedRange names ranges s
  | (names, .enableKillSwitch config) => enableKillSwitch names config s
  | (names, .applyFirewallRules params) =>
    { s with firewall := WireguardUtilsLinux.applyFirewallRules names params s.firewall }

def after (strict : Bool) (calls : List (HostNames × Call)) : KillSwitch := calls.foldl handle (initial strict)

end KillSwitch

/-! ### The chains stay in the order of their installation -/

namespace LinuxFirewall

variable {s : Firewall}

def Ready (s : Firewall) : Prop := s.ipv4.Installed refilled anchors4

/-- If the firewall is taken to be installed, it is. -/
def Sound (s : Firewall) : Prop := isInstalled s = true → Ready s

theorem Ready.setAnchorEnabled (h : Ready s) (ip : IPVersion) (a : Anchor) (e : Bool) :
    Ready (setAnchorEnabled ip a e s) := by
  unfold Ready LinuxFirewall.setAnchorEnabled
  split
  · exact h
  · exact Installed.setAnchorEnabled h a e

theorem isInstalled_setAnchorEnabled (ip : IPVersion) (a : Anchor) (e : Bool) (s : Firewall) :
    isInstalled (setAnchorEnabled ip a e s) = isInstalled s := by
  unfold isInstalled setAnchorEnabled
  split
  · rfl
  · exact setAnchorEnabled_linked a e s.ipv4

theorem Sound.setAnchorEnabled (h : Sound s) (ip : IPVersion) (a : Anchor) (e : Bool) :
    Sound (setAnchorEnabled ip a e s) := by
  intro hinstalled
  rw [isInstalled_setAnchorEnabled] at hinstalled
  exact (h hinstalled).setAnchorEnabled ip a e

theorem Sound.setAnchors (h : Sound s) (settings : List (IPVersion × Anchor × Bool)) :
    Sound (setAnchors settings s) := by
  induction settings generalizing s with
  | nil =>
    exact h
  | cons e settings ih =>
    exact ih (h.setAnchorEnabled e.1 e.2.1 e.2.2)

theorem Sound.replaceRules (h : Sound s) {a : Anchor} (ha : a ∈ refilled) (rules : List (Rule 32)) :
    Sound { s with ipv4 := s.ipv4.replaceRules a rules } :=
  fun hinstalled => Installed.replaceRules (h hinstalled) ha rules

theorem ready_install (s : Firewall) : Ready (install s) :=
  installed_install (by decide) (uninstall s).ipv4

theorem sound_uninstall (s : Firewall) : Sound (uninstall s) := by
  intro hinstalled
  cases hinstalled

theorem Sound.ensureInstalled (h : Sound s) : Ready (ensureInstalled s) := by
  unfold LinuxFirewall.ensureInstalled
  split
  · rename_i hinstalled
    exact h hinstalled
  · exact ready_install s

theorem Ready.sound (h : Ready s) : Sound s := fun _ => h

theorem Ready.ensureRootAnchorPriority (h : Ready s) : Ready (ensureRootAnchorPriority s) := by
  have hlink : s.ipv4.linkRoot = s.ipv4 := Installed.linkRoot h
  change Installed refilled anchors4 s.ipv4.linkRoot
  rw [hlink]
  exact h

theorem Sound.switchAnchors (h : Sound s) (names : HostNames) (params : FirewallParams) {marked : Firewall → Firewall}
    (hmarked : ∀ s, Sound s → Sound (marked s)) : Sound (switchAnchors names params marked s) := by
  have hnets := (h.setAnchors [(.both, .allowLoopback, true), (.both, .blockAll, params.blockAll),
    (.ipv4, .allowNets, params.allowNets)]).replaceRules (show .allowNets ∈ refilled by decide)
      (getAllowRule names params.allowAddrs)
  have hblocks := (hnets.setAnchorEnabled .ipv4 .blockNets params.blockNets).replaceRules
    (show .blockNets ∈ refilled by decide) (getBlockRule names params.blockAddrs)
  have hrest := ((hmarked _ hblocks).setAnchors [(.ipv4, .allowVPN, true), (.ipv6, .blockIPv6, true),
    (.both, .allowDHCP, true), (.both, .allowLAN, true), (.ipv4, .blockDNS, true)]).replaceRules
      (show .allowDNS ∈ refilled by decide) (getDNSRules names params.dnsServers)
  exact hrest.setAnchors [(.ipv4, .allowDNS, true), (.both, .allowPIA, true)]

theorem Sound.applyFirewallRules (h : Sound s) (names : HostNames) (params : FirewallParams) :
    Sound (WireguardUtilsLinux.applyFirewallRules names params s) :=
  h.ensureInstalled.ensureRootAnchorPriority.sound.switchAnchors names params fun _ h => h

end LinuxFirewall

namespace KillSwitch

variable {s : KillSwitch}

open LinuxFirewall

theorem sound_disableKillSwitch (h : Sound s.firewall) : Sound (disableKillSwitch s).firewall := by
  unfold disableKillSwitch
  split
  · exact h.setAnchors _
  · exact sound_uninstall _

theorem sound_disableAllTraffic (h : Sound s.firewall) : Sound (disableAllTraffic s).firewall :=
  h.ensureInstalled.sound.setAnchors _

theorem sound_resetAllowedRange (names : HostNames) (ranges : List String) (h : Sound s.firewall) :
    Sound (resetAllowedRange names ranges s).firewall :=
  (h.setAnchorEnabled .ipv4 .allowNets true).replaceRules (by decide) _

theorem sound_handle (h : Sound s.firewall) (call : HostNames × Call) : Sound (handle s call).firewall := by
  obtain ⟨names, call⟩ := call
  cases call with
  | init =>
    change Sound (init s).firewall
    unfold init
    split
    · exact sound_disableAllTraffic h
    · exact h
  | refresh enabled =>
    change Sound (refresh enabled s).firewall
    unfold refresh
    split
    · exact sound_disableAllTraffic h
    · exact sound_disableKillSwitch h
  | disableKillSwitch =>
    exact sound_disableKillSwitch h
  | disableAllTraffic =>
    exact sound_disableAllTraffic h
  | resetAllowedRange ranges =>
    exact sound_resetAllowedRange names ranges h
  | addAllowedRange ranges =>
    exact sound_resetAllowedRange names _ h
  | enableKillSwitch config =>
    exact h.ensureInstalled.sound.switchAnchors names _ fun s hs => hs.setAnchorEnabled .both .allowMarkedXray true
  | applyFirewallRules params =>
    exact h.applyFirewallRules names params

/-- **Whatever is called, an installed firewall has its chains in their order.** -/
theorem sound_after (strict : Bool) (calls : List (HostNames × Call)) : Sound (after strict calls).firewall := by
  have hinitial : Sound (initial strict).firewall := by
    intro hinstalled
    cases hinstalled
  exact List.foldlRecOn (motive := fun s => Sound s.firewall) calls handle hinitial
    fun s hs call _ => sound_handle hs call

/-- **The first anchor decides that has something to say**, in the order of the installation and whatever has been
called. An anchor that is not refilled says what it said when it was installed. -/
theorem first_anchor_decides (strict : Bool) (calls : List (HostNames × Call)) (packet : Packet 32) :
    let t := (after strict calls).firewall.ipv4
    (t.verdict packet =
        if t.linked then ((anchors4.map Prod.fst).findSome? (t.ruling packet)).getD .accept else .accept) ∧
      ∀ e ∈ anchors4, t.linked = true → e.1 ∉ refilled → t.chain e.1 = some e.2 := by
  intro t
  have hsound := sound_after strict calls
  refine ⟨?_, fun e he hlinked hfixed => (hsound hlinked).fixed e he hfixed⟩
  split_ifs with hlinked
  · exact Installed.verdict_eq (hsound hlinked) packet
  · rw [verdict, rules, if_neg hlinked]
    rfl

end KillSwitch

end FreshVpn
