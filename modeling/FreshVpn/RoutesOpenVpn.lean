import FreshVpn.RoutesFolding
import FreshVpn.LibraryFilter

/-! The routes of the OpenVPN client on Android. The client excludes the remote server, takes the addresses of the split
tunnel, and then adds and excludes routes as the OpenVPN core calls for them. -/

namespace FreshVpn

/-! ### The client -/

def InetNetwork.host (address : IpAddress) : InetNetwork := ⟨address, address.maxMask⟩

namespace Builder

def openVpn : Builder := ⟨[], .empty, [], [], 1500⟩

def setMtu (b : Builder) (mtu : ℕ) : Builder := { b with mtu := mtu }

def addAddress (b : Builder) (addr : InetNetwork) : Builder := { b with addresses := b.addresses ++ [addr] }

def clearAddresses (b : Builder) : Builder := { b with addresses := [] }

def excludeRoute (b : Builder) (route : InetNetwork) : Builder := { b with routes := b.routes.add ⟨route, false⟩ }

end Builder

/-- What of the device the routes depend on: the version of Android, and whether the brand is `samsung`. -/
structure Device where
  sdkInt : ℕ
  samsung : Bool

/-- `splitTunnelType` with `splitTunnelSites`, in the order in which the hash set of the builder iterates them. -/
inductive SplitTunnel where
  | disable
  | inclusive (sites : List InetNetwork)
  | exclusive (sites : List InetNetwork)

namespace SplitTunnel

def configSplitTunneling (b : Builder) : SplitTunnel → Builder
  | disable => b
  | inclusive sites => { b with includedAddresses := sites }
  | exclusive sites => { b with excludedAddresses := sites }

def routes : SplitTunnel → List Route
  | disable => []
  | inclusive sites => sites.map fun site => ⟨site, true⟩
  | exclusive sites => sites.map fun site => ⟨site, false⟩

end SplitTunnel

/-- The calls of the OpenVPN core that change the builder; the address of `addRoute` is missing where the core gives
the text `remote_host`. -/
inductive TunBuilderCall where
  | new
  | setMtu (mtu : ℕ)
  | addAddress (address : InetNetwork)
  | addRoute (route : Option InetNetwork)
  | excludeRoute (route : InetNetwork)
  | addDnsServer (address : IpAddress)
  | rerouteGw (ipv4 ipv6 : Bool) (flags : ℕ)
  | establish (device : Device)

def emulatedExcludeRoutes (flags : ℕ) : Bool := flags.testBit 16

def TunBuilderCall.routes : TunBuilderCall → List Route
  | .addRoute (some route) => [⟨route, true⟩]
  | .excludeRoute route => [⟨route, false⟩]
  | .rerouteGw ipv4 ipv6 flags =>
    if emulatedExcludeRoutes flags then []
    else (if ipv4 then [⟨.ipv4Default, true⟩] else []) ++ if ipv6 then [⟨.ipv6Default, true⟩] else []
  | _ => []

structure OpenVpnClient where
  configBuilder : Builder
  dnsServers : List IpAddress

/-- `VpnService.Builder` throws for a prefix that is longer than the address. -/
def InetNetwork.accepted (n : InetNetwork) : Bool := n.mask ≤ n.address.maxMask

/-- The routes of DNS servers that are added on Samsung devices. -/
def dnsRoutes (device : Device) (dnsServers : List IpAddress) : List Route :=
  if device.samsung then dnsServers.map fun address => ⟨.host address, true⟩ else []

def buildVpnInterface (device : Device) (dnsServers : List IpAddress) (routes : List Route) : Option (List Route) :=
  let table := dnsRoutes device dnsServers ++ routes.filter fun r => r.included || 33 ≤ device.sdkInt
  if table.all fun r => r.inetNetwork.accepted then some table else none

/-- Longest prefix match; a route to the same destination replaces the one that was there. -/
def routeTo (table : List Route) (ip : IpAddress) : Option Route :=
  Filter.highest (fun r ip => decide (r.inetNetwork.Contains ip)) (fun r => r.inetNetwork.mask) table ip

/-- Whether the address is routed into the tunnel. -/
def tunnelled (table : List Route) (ip : IpAddress) : Bool := (routeTo table ip).any Route.included

namespace OpenVpnClient

def establish (device : Device) (c : OpenVpnClient) : OpenVpnClient × Option (List Route) :=
  match c.configBuilder.configBuild device.sdkInt with
  | (b, some _) => ({ c with configBuilder := b }, none)
  | (b, none) => ({ c with configBuilder := b }, buildVpnInterface device c.dnsServers b.routes.toList)

def call (c : OpenVpnClient) : TunBuilderCall → OpenVpnClient
  | .new => { c with configBuilder := c.configBuilder.clearAddresses }
  | .setMtu mtu => { c with configBuilder := c.configBuilder.setMtu mtu }
  | .addAddress address => { c with configBuilder := c.configBuilder.addAddress address }
  | .addRoute none => c
  | .addRoute (some route) => { c with configBuilder := c.configBuilder.addRoute route }
  | .excludeRoute route => { c with configBuilder := c.configBuilder.excludeRoute route }
  | .addDnsServer address => { c with dnsServers := c.dnsServers ++ [address] }
  | .rerouteGw ipv4 ipv6 flags =>
    if emulatedExcludeRoutes flags then c
    else
      let b := if ipv4 then c.configBuilder.addRoute .ipv4Default else c.configBuilder
      { c with configBuilder := if ipv6 then b.addRoute .ipv6Default else b }
  | .establish device => (c.establish device).1

variable (remoteServer : IpAddress)

/-- The client as `startVpn` leaves it to the OpenVPN core. -/
def startVpn (split : SplitTunnel) : OpenVpnClient :=
  ⟨split.configSplitTunneling (Builder.openVpn.excludeRoute (.host remoteServer)), []⟩

def after (split : SplitTunnel) (calls : List TunBuilderCall) : OpenVpnClient :=
  calls.foldl call (startVpn remoteServer split)

def asked (split : SplitTunnel) (calls : List TunBuilderCall) : List Route :=
  ⟨.host remoteServer, false⟩ :: split.routes ++ calls.flatMap TunBuilderCall.routes

end OpenVpnClient

/-- The address lies in an excluded network, and in no included one of longer prefix. -/
def Excluded (routes : List Route) (ip : IpAddress) : Prop :=
  ∃ e ∈ routes, e.included = false ∧ e.inetNetwork.Contains ip ∧
    ∀ r ∈ routes, r.included = true → r.inetNetwork.Contains ip → r.inetNetwork.mask ≤ e.inetNetwork.mask

theorem excluded_remoteServer (remoteServer : IpAddress) (split : SplitTunnel) (calls : List TunBuilderCall)
    (haccepted : ∀ r ∈ OpenVpnClient.asked remoteServer split calls, r.inetNetwork.accepted = true) :
    Excluded (OpenVpnClient.asked remoteServer split calls) remoteServer := by
  refine ⟨⟨.host remoteServer, false⟩, List.mem_cons_self, rfl, ⟨rfl, rfl⟩, fun r hr _ hcontains => ?_⟩
  have hle : r.inetNetwork.mask ≤ r.inetNetwork.address.maxMask := of_decide_eq_true (haccepted r hr)
  have hsize : remoteServer.size = r.inetNetwork.address.size := hcontains.1
  rw [IpAddress.maxMask, ← hsize] at hle
  exact hle

end FreshVpn
