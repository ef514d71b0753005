import Mathlib.Data.String.Basic
import FreshVpn.ConnectionPrepare
import FreshVpn.LibraryIpv4
import FreshVpn.LibraryRun
import FreshVpn.LibrarySortedMap

/-! The sites of the split tunnel. The controller keeps the list that is shown, and the repository keeps a map for each
route mode that the tunnel is set up from. -/

namespace FreshVpn

/-- A site, and its address; the address is empty until it is known. -/
abbrev Site := String × String

/-! ### Texts -/

/-- `QString::replace` of a text by nothing; `skip` counts what is left of the occurrence that is being removed. -/
def removeOccurrences (needle : List Char) : (skip : ℕ) → List Char → List Char
  | _, [] => []
  | skip + 1, _ :: rest => removeOccurrences needle skip rest
  | 0, c :: rest =>
    if needle.isPrefixOf (c :: rest) then removeOccurrences needle (needle.length - 1) rest
    else c :: removeOccurrences needle 0 rest

/-- `none` if the name has no parts: the source takes the first one of an empty list. -/
def normalizeHostname (hostname : String) : Option String :=
  let normalized := removeOccurrences "https://".toList 0 hostname.toList
  let normalized := removeOccurrences "http://".toList 0 normalized
  let normalized := removeOccurrences "ftp://".toList 0 normalized
  ((normalized.splitOn '/').filter (· ≠ [])).head?.map String.ofList

/-- A number up to 255, without leading zeros. -/
def isOctet (text : List Char) : Bool :=
  match Decimal.read text with
  | some n => n < 256 && Decimal.render n = text
  | none => false

def isDottedAddress (text : List Char) : Bool :=
  match text.splitOn '.' with
  | [a, b, c, d] => isOctet a && isOctet b && isOctet c && isOctet d
  | _ => false

/-- `ipAddressWithSubnetRegExp().exactMatch` -/
def isIpAddressWithSubnet (text : String) : Bool :=
  match text.toList.splitOn '/' with
  | [address] => isDottedAddress address
  | [address, length] =>
    isDottedAddress address && length ≠ [] && length.length ≤ 2 && length.all Char.isDigit
  | _ => false

def validateHostname (hostname : String) : Bool :=
  hostname ≠ "" && (hostname.toList.contains '.' || isIpAddressWithSubnet hostname)

/-! ### The repository -/

namespace SecureAppSettingsRepository

def addVpnSite (site ip : String) (sites : SortedMap String String) : SortedMap String String :=
  if (sites.value site).isSome ∧ ip = "" then sites else sites.insert site ip

def addVpnSites (new sites : SortedMap String String) : SortedMap String String :=
  new.entries.foldl (fun allSites entry =>
    if allSites.value entry.1 = some entry.2 then allSites else allSites.insert entry.1 entry.2) sites

end SecureAppSettingsRepository

open SecureAppSettingsRepository

/-! ### The controller -/

/-- The list of the controller, what is stored for each mode, and the host names that are being resolved. -/
structure IpSplitTunnelingController where
  currentRouteMode : RouteMode
  sites : List Site
  routeMode : RouteMode
  vpnSites : RouteMode → SortedMap String String
  lookups : List String

namespace IpSplitTunnelingController

variable (c : IpSplitTunnelingController)

/-- Changes what is stored for the current mode. -/
def store (f : SortedMap String String → SortedMap String String) : IpSplitTunnelingController :=
  { c with vpnSites := Function.update c.vpnSites c.currentRouteMode (f (c.vpnSites c.currentRouteMode)) }

/-- How the loop of `addSiteInternal` ends. -/
inductive Search where
  | filled (sites : List Site)
  | present
  | absent

def searchSite (hostname ip : String) : List Site → Search
  | [] => .absent
  | site :: rest =>
    if site.1 = hostname ∧ site.2 = "" ∧ ip ≠ "" then .filled ((site.1, ip) :: rest)
    else if site.1 = hostname ∧ site.2 = ip then .present
    else
      match searchSite hostname ip rest with
      | .filled sites => .filled (site :: sites)
      | .present => .present
      | .absent => .absent

def addSiteInternal (hostname ip : String) (c : IpSplitTunnelingController) : IpSplitTunnelingController × Bool :=
  if ((c.vpnSites c.currentRouteMode).value hostname).isSome ∧ ip = "" then (c, false)
  else
    match searchSite hostname ip c.sites with
    | .filled sites => ({ c with sites := sites }.store (addVpnSite hostname ip), true)
    | .present => (c, false)
    | .absent => ({ c with sites := c.sites ++ [(hostname, ip)] }.store (addVpnSite hostname ip), true)

/-- One round of the loop of `addSites`: an address that is not empty replaces the one in the list. -/
def mergeSite : List Site → Site → List Site
  | [], new => [new]
  | site :: rest, new =>
    if site.1 = new.1 then (if new.2 ≠ "" then (site.1, new.2) else site) :: rest else site :: mergeSite rest new

def addSites (new : SortedMap String String) (replaceExisting : Bool) (c : IpSplitTunnelingController) :
    IpSplitTunnelingController :=
  let sites := if replaceExisting then [] else c.sites
  let c := { c with sites := new.entries.foldl mergeSite sites }
  let c := if replaceExisting then c.store fun _ => .empty else c
  c.store (addVpnSites new)

def addSite (hostname : String) (c : IpSplitTunnelingController) : Option (IpSplitTunnelingController × Bool) := do
  let normalizedHostname ← normalizeHostname hostname
  if !validateHostname normalizedHostname then return (c, false)
  if isIpAddressWithSubnet normalizedHostname then return ((c.addSiteInternal normalizedHostname "").1, true)
  let (c, added) := c.addSiteInternal normalizedHostname ""
  if added then return ({ c with lookups := c.lookups ++ [normalizedHostname] }, true)
  return (c, false)

def removeSite (hostname : String) (c : IpSplitTunnelingController) : IpSplitTunnelingController × Bool :=
  match c.sites.findIdx? fun site => site.1 = hostname with
  | some i => ({ c with sites := c.sites.eraseIdx i }.store fun sites => sites.remove hostname, true)
  | none => (c, false)

def removeSites : IpSplitTunnelingController :=
  { c with sites := [] }.store fun _ => .empty

def fillSites : IpSplitTunnelingController :=
  { c with sites := (c.vpnSites c.currentRouteMode).entries }

def setRouteMode (routeMode : RouteMode) (c : IpSplitTunnelingController) : IpSplitTunnelingController :=
  { { c with currentRouteMode := routeMode }.fillSites with routeMode := routeMode }

/-- The loop of `processSiteAfterResolve`; `none` if no entry is changed. -/
def fillAddress (hostname ip : String) : List Site → Option (List Site)
  | [] => none
  | site :: rest =>
    if site.1 = hostname ∧ site.2 = "" then some ((site.1, ip) :: rest)
    else (fillAddress hostname ip rest).map (site :: ·)

def processSiteAfterResolve (hostname ip : String) (c : IpSplitTunnelingController) : IpSplitTunnelingController :=
  match fillAddress hostname ip c.sites with
  | some sites => { c with sites := sites }.store (addVpnSite hostname ip)
  | none => c

/-- An address that a host name has been resolved to, with its text if it is one of IPv4. -/
inductive HostAddress where
  | ipv4 (text : String)
  | other

def onHostResolved (hostname : String) (addresses : List HostAddress) (c : IpSplitTunnelingController) :
    IpSplitTunnelingController :=
  match addresses with
  | [] => c
  | .ipv4 text :: _ => c.processSiteAfterResolve hostname text
  | .other :: rest => onHostResolved hostname rest c

def sitesOfJson (elements : List Json) : Option (SortedMap String String) :=
  elements.foldlM (fun sites element => do
    let jsonObject := Json.toObject (some element)
    let normalizedHostname ← normalizeHostname (Json.toString (jsonObject.value "hostname"))
    if validateHostname normalizedHostname then
      return sites.insert normalizedHostname (Json.toString (jsonObject.value "ip"))
    else return sites) .empty

/-- `document` is what the parser makes of the data, or its error text. -/
def importSitesFromJson (document : Except String Json) (replaceExisting : Bool) (c : IpSplitTunnelingController) :
    Option (IpSplitTunnelingController × Except String Unit) :=
  match document with
  | .error errorString => some (c, .error ("Failed to parse JSON data: " ++ errorString))
  | .ok (.array elements) => do
    let sites ← sitesOfJson elements
    return (c.addSites sites replaceExisting, .ok ())
  | .ok _ => some (c, .error "The JSON data is not an array")

/-- The controller after its constructor, which ends with `fillSites`. -/
def started (routeMode : RouteMode) (vpnSites : RouteMode → SortedMap String String) (lookups : List String) :
    IpSplitTunnelingController :=
  ⟨routeMode, (vpnSites routeMode).entries, routeMode, vpnSites, lookups⟩

inductive Event where
  | addSite (hostname : String)
  | addSites (sites : SortedMap String String) (replaceExisting : Bool)
  | importSites (document : Except String Json) (replaceExisting : Bool)
  | removeSite (hostname : String)
  | removeSites
  | setRouteMode (routeMode : RouteMode)
  | hostResolved (hostname : String) (addresses : List HostAddress)

/-- An answer comes for a host name that is being resolved, whenever it was asked for. -/
def step : Event → Option IpSplitTunnelingController
  | .addSite hostname => (c.addSite hostname).map Prod.fst
  | .addSites sites replaceExisting => some (c.addSites sites replaceExisting)
  | .importSites document replaceExisting => (c.importSitesFromJson document replaceExisting).map Prod.fst
  | .removeSite hostname => some (c.removeSite hostname).1
  | .removeSites => some c.removeSites
  | .setRouteMode routeMode => some (c.setRouteMode routeMode)
  | .hostResolved hostname addresses =>
    if hostname ∈ c.lookups then
      some ({ c with lookups := c.lookups.erase hostname }.onHostResolved hostname addresses)
    else none

end IpSplitTunnelingController

end FreshVpn
