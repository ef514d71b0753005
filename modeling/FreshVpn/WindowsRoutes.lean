import FreshVpn.LibraryKeyed
import FreshVpn.LibrarySortedMap
import FreshVpn.RoutesPrefixes

/-! The route monitor of the Windows daemon. It keeps the exclusion routes, which lead some prefixes past the tunnel
by the best route of the system, and the cloned routes, which capture the other routes of the system into the
tunnel. What the system answers is given from outside: the tables it hands out at every call, and whether it takes a
route or gives one up. -/

namespace FreshVpn

structure SocketAddress where
  address : IpAddress
  scopeId : ℕ
deriving DecidableEq

theorem inet_length : 4 = 4 ∨ 4 = 16 := Or.inl rfl

theorem inet6_length : 16 = 4 ∨ 16 = 16 := Or.inr rfl

/-- A socket address with nothing but its family set. -/
def SocketAddress.zero : AddressFamily → SocketAddress
  | .inet6 => ⟨⟨List.replicate 16 0, inet6_length⟩, 0⟩
  | _ => ⟨⟨List.replicate 4 0, inet_length⟩, 0⟩

/-- Where a route came from; the monitor writes its own as a network manager. -/
inductive RouteProtocol where
  | netmgmt
  | other (code : ℕ)
deriving DecidableEq

/-- `MIB_IPFORWARD_ROW2`. An interface LUID of zero names no interface. -/
structure ForwardRow where
  interfaceLuid : ℕ
  destinationPrefix : IpPrefix
  nextHop : SocketAddress
  metric : UInt32
  protocol : RouteProtocol
  age : ℕ
deriving DecidableEq

/-- What the system tells routes apart by. -/
structure RouteKey where
  interfaceLuid : ℕ
  destinationPrefix : IpPrefix
  nextHop : SocketAddress
deriving DecidableEq

def ForwardRow.routeKey (row : ForwardRow) : RouteKey := ⟨row.interfaceLuid, row.destinationPrefix, row.nextHop⟩

/-- A row of the system's table of interfaces. -/
structure InterfaceRow where
  interfaceLuid : ℕ
  family : AddressFamily
  connected : Bool
  metric : UInt32
deriving DecidableEq

structure RoutingTable where
  rows : List ForwardRow
  luid_ne_zero : ∀ row ∈ rows, row.interfaceLuid ≠ 0

/-- What `GetIpForwardTable2` does: it hands out a table, or it fails and leaves the pointer that it was given as it
was, which then points to whatever the memory holds. -/
inductive Fetch where
  | ok (table : RoutingTable)
  | failed (memory : List ForwardRow)

def RoutingTable.ofFamily (table : RoutingTable) (family : AddressFamily) : List ForwardRow :=
  table.rows.filter fun row => family.covers row.destinationPrefix.family

theorem RoutingTable.ofFamily_unspec (table : RoutingTable) : table.ofFamily .unspec = table.rows :=
  List.filter_eq_self.mpr fun _ _ => rfl

/-- The parts of Windows and of Qt that the monitor relies on. -/
structure WindowsHost where
  /-- `isLoopback() || isBroadcast() || isLinkLocal() || isMulticast()`. -/
  special : IpAddress → Bool
  /-- `CreateIpForwardEntry2` succeeds. -/
  accepts : RouteKey → Bool
  /-- `DeleteIpForwardEntry2` does not fail, other than by not finding the route. -/
  releases : RouteKey → Bool

namespace WindowsHost

def createIpForwardEntry2 (host : WindowsHost) (system : List RouteKey) (row : ForwardRow) : Option (List RouteKey) :=
  if host.accepts row.routeKey then some (row.routeKey :: system.filter (· ≠ row.routeKey)) else none

def deleteIpForwardEntry2 (host : WindowsHost) (system : List RouteKey) (row : ForwardRow) : List RouteKey :=
  if host.releases row.routeKey then system.filter (· ≠ row.routeKey) else system

end WindowsHost

def exclusionRouteMetric : UInt32 := 0x5e72

/-- The routes of the monitor's own creation are told by their origin and their metric. -/
def ForwardRow.isOwn (row : ForwardRow) : Bool := row.protocol = .netmgmt && row.metric = exclusionRouteMetric

/-! ### The monitor -/

/-- `WindowsRouteMonitor`, with the routes that it has written and that the system still holds. `readUnfetched` is set
once a table has been read whose fetch failed. -/
structure RouteMonitor where
  luid : ℕ
  exclusionRoutes : Keyed ForwardRow.destinationPrefix
  interfaceMetricsIpv4 : SortedMap ℕ UInt32
  interfaceMetricsIpv6 : SortedMap ℕ UInt32
  defaultRouteCapture : Bool
  clonedRoutes : Keyed ForwardRow.destinationPrefix
  system : List RouteKey
  readUnfetched : Bool

namespace RouteMonitor

def start (luid : ℕ) : RouteMonitor where
  luid := luid
  exclusionRoutes := .empty
  interfaceMetricsIpv4 := .empty
  interfaceMetricsIpv6 := .empty
  defaultRouteCapture := false
  clonedRoutes := .empty
  system := []
  readUnfetched := false

def interfaceMetrics (m : RouteMonitor) : AddressFamily → SortedMap ℕ UInt32
  | .inet => m.interfaceMetricsIpv4
  | .inet6 => m.interfaceMetricsIpv6
  | .unspec => .empty

/-- A row of the table of interfaces: one that is connected, and not the tunnel, is valid for routing. -/
def noteInterface (m : RouteMonitor) (row : InterfaceRow) : RouteMonitor :=
  if row.interfaceLuid = m.luid then m
  else if !row.connected then m
  else
    match row.family with
    | .inet => { m with interfaceMetricsIpv4 := m.interfaceMetricsIpv4.insert row.interfaceLuid row.metric }
    | .inet6 => { m with interfaceMetricsIpv6 := m.interfaceMetricsIpv6.insert row.interfaceLuid row.metric }
    | .unspec => m

/-- The interfaces of one family, or of both, are listed anew, unless their table cannot be had. -/
def updateInterfaceMetrics (m : RouteMonitor) (family : AddressFamily) :
    Option (List InterfaceRow) → RouteMonitor
  | none => m
  | some interfaces =>
    (interfaces.filter fun row => family.covers row.family).foldl noteInterface
      { m with
        interfaceMetricsIpv4 :=
          if family = .inet || family = .unspec then .empty else m.interfaceMetricsIpv4
        interfaceMetricsIpv6 :=
          if family = .inet6 || family = .unspec then .empty else m.interfaceMetricsIpv6 }

/-! ### Exclusion routes -/

/-- The variables of the loop that looks for the best route. -/
structure Search where
  nexthop : SocketAddress
  bestLuid : ℕ
  bestMatch : ℤ
  bestMetric : UInt32

def Search.start (data : ForwardRow) : Search where
  nexthop := .zero data.destinationPrefix.family
  bestLuid := 0
  bestMatch := -1
  bestMetric := 0xffffffff

/-- The metric of a route and of its interface together; a sum that wraps around counts as the largest. -/
def routeMetric (metric interfaceMetric : UInt32) : UInt32 :=
  if metric + interfaceMetric < metric then 0xffffffff else metric + interfaceMetric

def considerRow (m : RouteMonitor) (data : ForwardRow) (s : Search) (row : ForwardRow) : Search :=
  if row.interfaceLuid = m.luid then s
  else if (row.destinationPrefix.length : ℤ) < s.bestMatch then s
  else if row.protocol = data.protocol ∧ row.metric = data.metric then s
  else if !routeContainsDest row.destinationPrefix data.destinationPrefix then s
  else
    match (m.interfaceMetrics data.destinationPrefix.family).value row.interfaceLuid with
    | none => s
    | some interfaceMetric =>
      let metric := routeMetric row.metric interfaceMetric
      if row.destinationPrefix.length = s.bestMatch ∧ s.bestMetric ≤ metric then s
      else
        { nexthop := row.nextHop
          bestMatch := row.destinationPrefix.length
          bestMetric := metric
          -- The table is not written to if it has the prefix itself.
          bestLuid :=
            if row.destinationPrefix.length = data.destinationPrefix.length then 0 else row.interfaceLuid }

def search (m : RouteMonitor) (data : ForwardRow) (rows : List ForwardRow) : Search :=
  rows.foldl (m.considerRow data) (.start data)

variable (host : WindowsHost)

/-- The route of an exclusion after the search, and what the system then holds. -/
def updateExclusionRoute (m : RouteMonitor) (rows : List ForwardRow) (data : ForwardRow) : ForwardRow × List RouteKey :=
  let best := m.search data rows
  if data.interfaceLuid = best.bestLuid ∧ best.nexthop = data.nextHop then (data, m.system)
  else
    let system := if data.interfaceLuid ≠ 0 then host.deleteIpForwardEntry2 m.system data else m.system
    let data := { data with interfaceLuid := best.bestLuid, nextHop := best.nexthop }
    (data, if data.interfaceLuid ≠ 0 then (host.createIpForwardEntry2 system data).getD system else system)

/-! ### Cloned routes -/

def isRouteExcluded (m : RouteMonitor) (dest : IpPrefix) : Bool :=
  m.exclusionRoutes.items.any fun row => routeContainsDest row.destinationPrefix dest

/-- The clone of a route, directed into the tunnel. -/
def clone (m : RouteMonitor) (dest : IpPrefix) : ForwardRow where
  interfaceLuid := m.luid
  destinationPrefix := dest
  nextHop := .zero dest.family
  metric := 0
  protocol := .netmgmt
  age := 0

/-- One row of the table: the age of the clone counts the rows that it stands for. -/
def captureRow (m : RouteMonitor) (row : ForwardRow) : RouteMonitor :=
  if row.interfaceLuid = m.luid then m
  else if row.destinationPrefix.length = 0 then m
  else if row.isOwn then m
  else if m.isRouteExcluded row.destinationPrefix then m
  else if host.special row.destinationPrefix.address then m
  else
    match m.clonedRoutes.value row.destinationPrefix with
    | some data => { m with clonedRoutes := m.clonedRoutes.insert { data with age := data.age + 1 } }
    | none =>
      let data := m.clone row.destinationPrefix
      match host.createIpForwardEntry2 m.system data with
      | none => m
      | some system =>
        { m with clonedRoutes := m.clonedRoutes.insert { data with age := data.age + 1 }, system := system }

variable (family : AddressFamily)

/-- A clone after the count: one in use stays and its age is reset, and so does one of a family not looked at. -/
def sweepRow (data : ForwardRow) : Option ForwardRow :=
  if 0 < data.age then some { data with age := 0 }
  else if family ≠ .unspec ∧ data.destinationPrefix.family ≠ family then some data
  else none

theorem destinationPrefix_sweepRow {family : AddressFamily} (data kept : ForwardRow)
    (h : sweepRow family data = some kept) : kept.destinationPrefix = data.destinationPrefix := by
  unfold sweepRow at h
  split_ifs at h <;> cases h <;> rfl

/-- The clones that stand for no row any more are given up. -/
def sweep (m : RouteMonitor) : RouteMonitor :=
  { m with
    clonedRoutes := m.clonedRoutes.filterMap (sweepRow family) destinationPrefix_sweepRow
    system :=
      (m.clonedRoutes.items.filter fun data => (sweepRow family data).isNone).foldl host.deleteIpForwardEntry2
        m.system }

/-- `updateCapturedRoutes` with a table. -/
def updateCapturedRoutes (rows : List ForwardRow) (m : RouteMonitor) : RouteMonitor :=
  if !m.defaultRouteCapture then m else sweep host family (rows.foldl (captureRow host) m)

/-- `updateCapturedRoutes` without one: it fetches the table itself, and goes on when there is an error. -/
def fetchCapturedRoutes (fetch : Fetch) (m : RouteMonitor) : RouteMonitor :=
  if !m.defaultRouteCapture then m
  else
    match fetch with
    | .ok _ => m
    | .failed memory => { updateCapturedRoutes host family memory m with readUnfetched := true }

/-! ### Calls -/

/-- The row that `addExclusionRoute` sets up. -/
def exclusionRow (p : IpPrefix) : ForwardRow where
  interfaceLuid := 0
  destinationPrefix := p
  nextHop := .zero p.family
  metric := exclusionRouteMetric
  protocol := .netmgmt
  age := 0

def addExclusionRoute (p : IpPrefix) (fetch : Fetch) (interfaces : Option (List InterfaceRow))
    (m : RouteMonitor) : Bool × RouteMonitor :=
  if host.special p.address then (true, m)
  else if m.exclusionRoutes.contains p then (false, m)
  else
    match fetch with
    | .failed _ => (false, m)
    | .ok table =>
      let rows := table.ofFamily p.family
      let m := updateCapturedRoutes host p.family rows (m.updateInterfaceMetrics p.family interfaces)
      let (data, system) := updateExclusionRoute host m rows (exclusionRow p)
      (true, { m with exclusionRoutes := m.exclusionRoutes.insert data, system := system })

def deleteExclusionRoute (p : IpPrefix) (fetch : Fetch) (m : RouteMonitor) : Bool × RouteMonitor :=
  match m.exclusionRoutes.value p with
  | none => (true, m)
  | some data =>
    (true, fetchCapturedRoutes host data.destinationPrefix.family fetch
      { m with
        exclusionRoutes := m.exclusionRoutes.remove p
        system := host.deleteIpForwardEntry2 m.system data })

/-- One turn of the loop of `routeChanged` over the exclusion routes. -/
def refreshExclusion (rows : List ForwardRow) (m : RouteMonitor) (data : ForwardRow) : RouteMonitor :=
  let (data, system) := updateExclusionRoute host m rows data
  { m with exclusionRoutes := m.exclusionRoutes.insert data, system := system }

def routeChanged (fetch : Fetch) (interfaces : Option (List InterfaceRow)) (m : RouteMonitor) : RouteMonitor :=
  match fetch with
  | .failed _ => m
  | .ok table =>
    let m := updateCapturedRoutes host .unspec table.rows (m.updateInterfaceMetrics .unspec interfaces)
    m.exclusionRoutes.items.foldl (refreshExclusion host table.rows) m

/-- `flushRouteTable` on the exclusion routes. -/
def flushExclusionRoutes (m : RouteMonitor) : RouteMonitor :=
  { m with exclusionRoutes := .empty, system := m.exclusionRoutes.items.foldl host.deleteIpForwardEntry2 m.system }

/-- The clones are flushed when the capture is switched off. -/
def setDefaultRouteCapture (enable : Bool) (m : RouteMonitor) : RouteMonitor :=
  if enable then { m with defaultRouteCapture := true }
  else
    { m with
      defaultRouteCapture := false
      clonedRoutes := .empty
      system := m.clonedRoutes.items.foldl host.deleteIpForwardEntry2 m.system }

inductive Call where
  | addExclusionRoute (p : IpPrefix) (fetch : Fetch) (interfaces : Option (List InterfaceRow))
  | deleteExclusionRoute (p : IpPrefix) (fetch : Fetch)
  | routeChanged (fetch : Fetch) (interfaces : Option (List InterfaceRow))
  | flushExclusionRoutes
  | setDefaultRouteCapture (enable : Bool)

def step (m : RouteMonitor) : Call → Option RouteMonitor
  | .addExclusionRoute p fetch interfaces => some (addExclusionRoute host p fetch interfaces m).2
  | .deleteExclusionRoute p fetch => some (deleteExclusionRoute host p fetch m).2
  | .routeChanged fetch interfaces => some (routeChanged host fetch interfaces m)
  | .flushExclusionRoutes => some (flushExclusionRoutes host m)
  | .setDefaultRouteCapture enable => some (setDefaultRouteCapture host enable m)

end RouteMonitor

end FreshVpn
