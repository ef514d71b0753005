import Mathlib.Data.List.Defs

/-! Containers, protocols and the platforms' support tables (`ContainerUtils`, `ProtocolUtils`). -/

namespace FreshVpn

inductive DockerContainer where
  | none | awg | awg2 | wireGuard | openVpn | cloak | shadowSocks | ipsec | xray | ssXray
  | torWebSite | dns | sftp | socks5Proxy | mtProxy | telemt
  deriving DecidableEq

inductive Proto where
  | unknown | openVpn | wireGuard | awg | ikev2 | xray | ssXray
  | torWebSite | dns | sftp | socks5Proxy | mtProxy | telemt
  deriving DecidableEq

inductive ServiceType where
  | none | vpn | other
  deriving DecidableEq

/-- The build targets the sources distinguish; `macosNe` is the macOS build on a network extension. -/
inductive Platform where
  | windows | ios | macosNe | macos | android | linux
  deriving DecidableEq

namespace DockerContainer

/-- `ContainerUtils::allContainers`, in the order of the enumeration. -/
def allContainers : List DockerContainer :=
  [.none, .awg, .awg2, .wireGuard, .openVpn, .cloak, .shadowSocks, .ipsec, .xray, .ssXray,
    .torWebSite, .dns, .sftp, .socks5Proxy, .mtProxy, .telemt]

def containerToString : DockerContainer → String
  | .none => "none"
  | .cloak => "amnezia-openvpn-cloak"
  | .awg => "amnezia-awg"
  | .awg2 => "amnezia-awg2"
  | .wireGuard => "amnezia-wireguard"
  | .openVpn => "amnezia-openvpn"
  | .shadowSocks => "amnezia-shadowsocks"
  | .ipsec => "amnezia-ipsec"
  | .xray => "amnezia-xray"
  | .ssXray => "amnezia-ssxray"
  | .torWebSite => "amnezia-torwebsite"
  | .dns => "amnezia-dns"
  | .sftp => "amnezia-sftp"
  | .socks5Proxy => "amnezia-socks5proxy"
  | .mtProxy => "amnezia-mtproxy"
  | .telemt => "amnezia-telemt"

def containerFromString (container : String) : DockerContainer :=
  (allContainers.find? fun c => container == containerToString c).getD .none

theorem containerFromString_containerToString (c : DockerContainer) :
    containerFromString (containerToString c) = c := by
  cases c <;> decide

def isUnsupportedContainer (c : DockerContainer) : Bool := c = .cloak || c = .shadowSocks

def defaultProtocol : DockerContainer → Proto
  | .none => .unknown
  | .openVpn => .openVpn
  | .cloak => .unknown
  | .shadowSocks => .unknown
  | .wireGuard => .wireGuard
  | .awg2 => .awg
  | .awg => .awg
  | .xray => .xray
  | .ipsec => .ikev2
  | .ssXray => .ssXray
  | .torWebSite => .torWebSite
  | .dns => .dns
  | .sftp => .sftp
  | .socks5Proxy => .socks5Proxy
  | .mtProxy => .mtProxy
  | .telemt => .telemt

def isMobileContainer : DockerContainer → Bool
  | .wireGuard | .openVpn | .awg2 | .awg | .xray | .ssXray | .mtProxy | .telemt => true
  | _ => false

def isSupportedByCurrentPlatform (platform : Platform) (c : DockerContainer) : Bool :=
  match platform with
  | .windows => true
  | .ios => c.isMobileContainer
  | .macosNe => c.isMobileContainer
  | .macos => c != .ipsec
  | .android => c.isMobileContainer
  | .linux => c != .ipsec

end DockerContainer

namespace Proto

def protoToString : Proto → String
  | .unknown => ""
  | .openVpn => "openvpn"
  | .wireGuard => "wireguard"
  | .awg => "awg"
  | .ikev2 => "ikev2"
  | .xray => "xray"
  | .ssXray => "ssxray"
  | .torWebSite => "torwebsite"
  | .dns => "dns"
  | .sftp => "sftp"
  | .socks5Proxy => "socks5proxy"
  | .mtProxy => "mtproxy"
  | .telemt => "telemt"

/-- `ProtocolUtils::key_proto_config_data`. -/
def keyProtoConfigData (p : Proto) : String := protoToString p ++ "_config_data"

def protocolService : Proto → ServiceType
  | .unknown | .ssXray => .none
  | .openVpn | .wireGuard | .awg | .ikev2 | .xray => .vpn
  | .torWebSite | .dns | .sftp | .socks5Proxy | .mtProxy | .telemt => .other

end Proto

def DockerContainer.containerService (c : DockerContainer) : ServiceType :=
  if c.isUnsupportedContainer then .vpn else c.defaultProtocol.protocolService

def DockerContainer.isAwgContainer (c : DockerContainer) : Bool := c = .awg || c = .awg2

end FreshVpn
