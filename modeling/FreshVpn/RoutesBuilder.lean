import FreshVpn.RoutesSubnets

/-! The routes of the Android builder. -/

namespace FreshVpn

structure Route where
  inetNetwork : InetNetwork
  included : Bool
deriving DecidableEq

/-- The parts of the builder that building a configuration reads. The hash sets are in the order they are iterated. -/
structure Builder where
  addresses : List InetNetwork
  routes : LinkedSet Route
  includedAddresses : List InetNetwork
  excludedAddresses : List InetNetwork
  mtu : ℕ

inductive BuildException where
  | badConfig (message : String)
  | range (exception : RangeException)
deriving DecidableEq

namespace InetNetwork

/-- `0.0.0.0/0` -/
def ipv4Default : InetNetwork := ⟨⟨[0, 0, 0, 0], Or.inl rfl⟩, 0⟩

/-- `::/0` -/
def ipv6Default : InetNetwork := ⟨⟨List.replicate 16 0, Or.inr rfl⟩, 0⟩

/-- `2000::/3` -/
def ipv6Global : InetNetwork := ⟨⟨0x20 :: List.replicate 15 0, Or.inr rfl⟩, 3⟩

/-- `127.0.0.0/8` -/
def ipv4Loopback : InetNetwork := ⟨⟨[127, 0, 0, 0], Or.inl rfl⟩, 8⟩

/-- `::1/128` -/
def ipv6Loopback : InetNetwork := ⟨⟨List.replicate 15 0 ++ [1], Or.inr rfl⟩, 128⟩

end InetNetwork

namespace IpRangeSet

/-- One turn of the loop over the routes. -/
def applyRoute (ranges : List IpRange) (route : Route) : Except RangeException (List IpRange) := do
  let range ← IpRange.ofNetwork route.inetNetwork
  if route.included then add ranges range else remove ranges range

/-- `subnets` of the set: the networks of its ranges, in order. -/
def subnets : List IpRange → Except RangeException (List InetNetwork)
  | [] => .ok []
  | range :: rest => do
    let networks ← range.subnets
    let others ← subnets rest
    pure (networks ++ others)

end IpRangeSet

namespace Builder

variable (b : Builder)

def addRoute (route : InetNetwork) : Builder := { b with routes := b.routes.add ⟨route, true⟩ }

def addRoutes (routes : List InetNetwork) : Builder :=
  { b with routes := b.routes.addAll (routes.map fun route => ⟨route, true⟩) }

def excludeRoutes (routes : List InetNetwork) : Builder :=
  { b with routes := b.routes.addAll (routes.map fun route => ⟨route, false⟩) }

def removeRoute (route : InetNetwork) : Builder :=
  { b with routes := b.routes.removeIf fun r => r.inetNetwork = route }

/-- The routes that `block` adds come before those that were there. -/
def prependRoutes (block : Builder → Builder) : Builder :=
  let prepended := block { b with routes := .empty }
  { prepended with routes := prepended.routes.addAll b.routes.toList }

def processSplitTunneling : Except BuildException Builder :=
  if b.includedAddresses ≠ [] ∧ b.excludedAddresses ≠ [] then
    .error (.badConfig "Config contains addresses for inclusive and exclusive split tunneling at the same time")
  else if b.includedAddresses ≠ [] then
    .ok ((((b.removeRoute .ipv4Default).removeRoute .ipv6Default).removeRoute .ipv6Global).prependRoutes
      fun b' => b'.addRoutes b.includedAddresses)
  else if b.excludedAddresses ≠ [] then
    .ok (b.prependRoutes fun b' =>
      ((b'.addRoute .ipv4Default).addRoute .ipv6Global).excludeRoutes b.excludedAddresses)
  else .ok b

/-- The first step of `processRoutes`: an included `::/0` becomes `2000::/3`, in front of the other routes. -/
def replaceIpv6Default : Builder :=
  if ⟨.ipv6Default, true⟩ ∈ b.routes.toList then
    { b with routes := b.routes.removeIf fun r => r.included && r.inetNetwork = InetNetwork.ipv6Default }.prependRoutes
      fun b' => b'.addRoute .ipv6Global
  else b

/-- The last step of `processRoutes`. -/
def filterLoopback : Builder :=
  { b with routes := b.routes.removeIf fun r => r.included &&
      if r.inetNetwork.address.isIpv4 then r.inetNetwork.address.get 0 = 127 else r.inetNetwork = InetNetwork.ipv6Loopback }

/-- The ranges that the routes leave, without the loopback addresses. -/
def leftRanges (routes : List Route) : Except RangeException (List IpRange) := do
  let ranges ← routes.foldlM IpRangeSet.applyRoute []
  let ipv4 ← IpRange.ofNetwork .ipv4Loopback
  let ranges ← IpRangeSet.remove ranges ipv4
  let ipv6 ← IpRange.ofNetwork .ipv6Loopback
  IpRangeSet.remove ranges ipv6

/-- The builder after `processRoutes`, and what it has thrown. -/
def processRoutes (sdkInt : ℕ) (b : Builder) : Builder × Option RangeException :=
  let b := b.replaceIpv6Default
  if sdkInt < 33 ∧ b.routes.toList.any (fun r => !r.included) then
    match leftRanges b.routes.toList with
    | .error e => (b, some e)
    | .ok ranges =>
      let cleared := { b with routes := .empty }
      match IpRangeSet.subnets ranges with
      | .error e => (cleared, some e)
      | .ok networks => ((cleared.addRoutes networks).filterLoopback, none)
  else (b.filterLoopback, none)

def validate : Option BuildException :=
  let errorMessage :=
    (if b.addresses = [] then "VPN interface network address not specified.\n" else "") ++
    (if b.routes.toList = [] then "VPN interface route not specified.\n" else "") ++
    if b.mtu = 0 then "MTU not set.\n" else ""
  if errorMessage ≠ "" then some (.badConfig errorMessage) else none

def configBuild (sdkInt : ℕ) (b : Builder) : Builder × Option BuildException :=
  match b.processSplitTunneling with
  | .error e => (b, some e)
  | .ok b =>
    match b.processRoutes sdkInt with
    | (b, some e) => (b, some (.range e))
    | (b, none) => (b, b.validate)

end Builder

end FreshVpn
