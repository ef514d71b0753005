import Mathlib.Data.Int.Notation
import Mathlib.Data.Nat.Notation

/-! What the daemon is told about a tunnel. -/

namespace FreshVpn

/-- `QHostAddress`: an address of one of the two protocols, or none. -/
inductive HostAddress where
  | null
  | ipv4 (address : BitVec 32)
  | ipv6 (address : BitVec 128)
  deriving DecidableEq, Repr

/-- How Qt reads a text as a host address, and as an address with a network length. The halves of the two address
spaces are read as what they are. -/
structure AddressReader where
  hostAddress : String → HostAddress
  parseSubnet : String → HostAddress × ℤ
  parseSubnet_ipv4Low : parseSubnet "0.0.0.0/1" = (.ipv4 0, 1)
  parseSubnet_ipv4High : parseSubnet "128.0.0.0/1" = (.ipv4 (1 <<< 31), 1)
  parseSubnet_ipv6Low : parseSubnet "::/1" = (.ipv6 0, 1)
  parseSubnet_ipv6High : parseSubnet "8000::/1" = (.ipv6 (1 <<< 127), 1)

structure IPAddress where
  address : HostAddress
  prefixLength : ℤ
  deriving DecidableEq, Repr

namespace IPAddress

/-- The length is cut to the longest one of the protocol. -/
def cut : HostAddress → ℤ → IPAddress
  | .null, length => ⟨.null, length⟩
  | .ipv4 address, length => ⟨.ipv4 address, if 32 ≤ length then 32 else length⟩
  | .ipv6 address, length => ⟨.ipv6 address, if 128 ≤ length then 128 else length⟩

/-- `IPAddress(const QString&)` -/
def ofString (qt : AddressReader) (ip : String) : IPAddress :=
  if ip.toList.contains '/' then cut (qt.parseSubnet ip).1 (qt.parseSubnet ip).2
  else cut (qt.hostAddress ip) 999999

/-- `IPAddress(const QHostAddress&)`. An address without a protocol passes an assertion only, and gets the length
of the other branch. -/
def ofHostAddress : HostAddress → IPAddress
  | .ipv4 address => ⟨.ipv4 address, 32⟩
  | address => ⟨address, 128⟩

end IPAddress

/-- `InterfaceConfig::HopType`, in the order of its values. -/
inductive HopType where
  | singleHop
  | multiHopEntry
  | multiHopExit
  deriving DecidableEq, Repr

/-- `InterfaceConfig`. The two addresses of the server may be null, which is not the same as empty. -/
structure InterfaceConfig where
  hopType : HopType
  privateKey : String
  deviceIpv4Address : String
  deviceIpv6Address : String
  serverIpv4Gateway : String
  serverIpv6Gateway : String
  serverPublicKey : String
  serverIpv4AddrIn : Option String
  serverIpv6AddrIn : Option String
  primaryDnsServer : String
  secondaryDnsServer : String
  allowedIPAddressRanges : List IPAddress
  excludedAddresses : List String

namespace InterfaceConfig

variable (qt : AddressReader) (config : InterfaceConfig)

def excludedPrefixes : List IPAddress := config.excludedAddresses.map (IPAddress.ofString qt)

/-- The prefixes that a switch away from the configuration removes. -/
def releasedPrefixes : List IPAddress :=
  config.excludedAddresses.map fun ip => IPAddress.ofHostAddress (qt.hostAddress ip)

def droppedPrefixes (last : InterfaceConfig) : List IPAddress :=
  last.allowedIPAddressRanges.filter fun p => !config.allowedIPAddressRanges.contains p

def serverIpv4 : IPAddress := IPAddress.ofString qt (config.serverIpv4AddrIn.getD "")

def serverIpv6 : IPAddress := IPAddress.ofString qt (config.serverIpv6AddrIn.getD "")

/-- The resolvers that `maybeUpdateResolvers` sets. -/
def resolvers : List HostAddress :=
  qt.hostAddress config.primaryDnsServer ::
    (if config.secondaryDnsServer = "" then [] else [qt.hostAddress config.secondaryDnsServer]) ++
    (if config.primaryDnsServer = config.serverIpv4Gateway then [qt.hostAddress config.serverIpv6Gateway] else [])

end InterfaceConfig

structure Connections where
  value : HopType → Option InterfaceConfig
  keyed : ∀ hop config, value hop = some config → config.hopType = hop

namespace Connections

def empty : Connections where
  value _ := none
  keyed hop config h := by cases h

def insert (connections : Connections) (config : InterfaceConfig) : Connections where
  value hop := if hop = config.hopType then some config else connections.value hop
  keyed hop other h := by
    by_cases hhop : hop = config.hopType
    · rw [if_pos hhop] at h
      cases h
      exact hhop.symm
    · rw [if_neg hhop] at h
      exact connections.keyed hop other h

def toList (connections : Connections) : List InterfaceConfig :=
  [HopType.singleHop, .multiHopEntry, .multiHopExit].filterMap connections.value

variable (connections : Connections)

theorem value_insert (config : InterfaceConfig) (hop : HopType) :
    (connections.insert config).value hop = if hop = config.hopType then some config else connections.value hop :=
  rfl

theorem insert_of_value {connections : Connections} {config : InterfaceConfig}
    (h : connections.value config.hopType = some config) : connections.insert config = connections := by
  obtain ⟨value, keyed⟩ := connections
  have hvalue : (fun hop => if hop = config.hopType then some config else value hop) = value := by
    funext hop
    split
    · rename_i hhop
      rw [hhop]
      exact h.symm
    · rfl
  simp only [insert, hvalue]

theorem mem_toList_iff (config : InterfaceConfig) :
    config ∈ connections.toList ↔ connections.value config.hopType = some config := by
  rw [toList, List.mem_filterMap]
  constructor
  · rintro ⟨hop, -, hvalue⟩
    rwa [connections.keyed hop config hvalue]
  · intro hvalue
    refine ⟨config.hopType, ?_, hvalue⟩
    cases config.hopType <;> decide

theorem count_flatMap_insert {α : Type*} [DecidableEq α] (config : InterfaceConfig)
    (f : InterfaceConfig → List α) (a : α) :
    ((connections.insert config).toList.flatMap f).count a +
        ((connections.value config.hopType).map fun last => (f last).count a).getD 0 =
      (connections.toList.flatMap f).count a + (f config).count a := by
  have hvalue : (connections.insert config).value =
      fun hop => if hop = config.hopType then some config else connections.value hop := rfl
  unfold toList
  rw [hvalue]
  generalize connections.value = value
  cases config.hopType <;> cases h₁ : value .singleHop <;> cases h₂ : value .multiHopEntry <;>
    cases h₃ : value .multiHopExit <;> simp [h₁, h₂, h₃] <;> omega

end Connections

end FreshVpn
