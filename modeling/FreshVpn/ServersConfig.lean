import Mathlib.Logic.Function.Basic
import FreshVpn.ServersJson
import FreshVpn.ServersContainers

/-! Stored server configurations: the keys the code reads, the decoders of the stored JSON, and the
classification of a JSON object into a server kind (`serverConfigUtils::configTypeFromJson`). -/

namespace FreshVpn

/-! ### Keys (`configKey`, `apiDefs::key`) -/

namespace ConfigKey

def hostName := "hostName"
def userName := "userName"
def password := "password"
def port := "port"
def dns1 := "dns1"
def dns2 := "dns2"
def description := "description"
def configVersion := "config_version"
def containers := "containers"
def container := "container"
def defaultContainer := "defaultContainer"
def vpnProto := "protocol"
def mtu := "mtu"
def isThirdPartyConfig := "isThirdPartyConfig"
def storageServerId := "storageServerId"
def apiEndpoint := "api_endpoint"
def apiConfig := "api_config"
def serviceType := "service_type"

end ConfigKey

/-! ### Kinds -/

/-- `serverConfigUtils::ConfigType`. -/
inductive ConfigType where
  | amneziaFreeV2 | amneziaFreeV3 | amneziaPremiumV1 | amneziaPremiumV2 | selfHosted | externalPremium
  | selfHostedAdmin | selfHostedUser | native | invalid
  deriving DecidableEq

namespace ConfigType

def isLegacyApiSubscription : ConfigType → Bool
  | .amneziaPremiumV1 | .amneziaFreeV2 => true
  | _ => false

def isApiV2Subscription : ConfigType → Bool
  | .amneziaPremiumV2 | .amneziaFreeV3 | .externalPremium => true
  | _ => false

end ConfigType

/-! ### Decoders -/

/-- A protocol's part of a container as stored; its fields belong to the protocol's configurator. -/
structure ProtocolConfig where
  protoType : Proto
  protoJson : JsonObject

structure ContainerConfig where
  container : DockerContainer
  protocolConfig : ProtocolConfig

namespace ContainerConfig

def fromJson (json : JsonObject) : ContainerConfig :=
  let container := DockerContainer.containerFromString (Json.toString (json.value ConfigKey.container))
  let protoType := container.defaultProtocol
  { container
    protocolConfig := { protoType, protoJson := Json.toObject (json.value protoType.protoToString) } }

def empty : ContainerConfig := { container := .none, protocolConfig := { protoType := .unknown, protoJson := [] } }

end ContainerConfig

/-- What the decoders of all server kinds read; the decoders of self-hosted users, native servers and
API subscriptions are this one, and that of administrators adds the credentials. -/
structure ServerConfig where
  description : String
  hostName : String
  containers : DockerContainer → Option ContainerConfig
  defaultContainer : DockerContainer
  dns1 : String
  dns2 : String

namespace ServerConfig

/-- Reads one element of the `containers` array; a later element of the same name replaces it. -/
def insertContainer (containers : DockerContainer → Option ContainerConfig) (value : Json) :
    DockerContainer → Option ContainerConfig :=
  let containerObj := Json.toObject (some value)
  let container :=
    DockerContainer.containerFromString (Json.toString (containerObj.value ConfigKey.container))
  Function.update containers container (some (ContainerConfig.fromJson containerObj))

def fromJson (json : JsonObject) : ServerConfig where
  description := Json.toString (json.value ConfigKey.description)
  hostName := Json.toString (json.value ConfigKey.hostName)
  containers := (Json.toArray (json.value ConfigKey.containers)).foldl insertContainer fun _ => none
  defaultContainer :=
    DockerContainer.containerFromString (Json.toString (json.value ConfigKey.defaultContainer))
  dns1 := Json.toString (json.value ConfigKey.dns1)
  dns2 := Json.toString (json.value ConfigKey.dns2)

def containerConfig (config : ServerConfig) (container : DockerContainer) : ContainerConfig :=
  (config.containers container).getD ContainerConfig.empty

end ServerConfig

structure SelfHostedAdminServerConfig extends ServerConfig where
  userName : String
  password : String
  port : Int

namespace SelfHostedAdminServerConfig

def fromJson (json : JsonObject) : SelfHostedAdminServerConfig :=
  { ServerConfig.fromJson json with
    userName := Json.toString (json.value ConfigKey.userName)
    password := Json.toString (json.value ConfigKey.password)
    port := if json.contains ConfigKey.port then Json.toInt (json.value ConfigKey.port) 0 else 0 }

def hasCredentials (config : SelfHostedAdminServerConfig) : Bool :=
  config.userName != "" && config.password != "" && 0 < config.port

end SelfHostedAdminServerConfig

/-! ### Classification -/

/-- The endpoints `FREE_V2_ENDPOINT` and `PREM_V1_ENDPOINT`, which the build sets. -/
structure ApiEndpoints where
  freeV2Endpoint : String
  premiumV1Endpoint : String

/-- The members of a container object other than its name, looked at for the third-party mark. -/
def hasThirdPartyMember (member : String × Json) : Bool :=
  if member.1 == ConfigKey.container then false
  else
    let protocolObj := Json.toObject (some member.2)
    protocolObj.contains ConfigKey.isThirdPartyConfig &&
      Json.toBool (protocolObj.value ConfigKey.isThirdPartyConfig)

def hasThirdPartyConfig (json : JsonObject) : Bool :=
  (Json.toArray (json.value ConfigKey.containers)).any fun value =>
    (Json.toObject (some value)).any hasThirdPartyMember

def gatewayConfigType (json : JsonObject) : Option ConfigType :=
  let serviceType := Json.toString ((Json.toObject (json.value ConfigKey.apiConfig)).value ConfigKey.serviceType)
  if serviceType == "amnezia-premium" then some .amneziaPremiumV2
  else if serviceType == "amnezia-free" then some .amneziaFreeV3
  else if serviceType == "external-premium" then some .externalPremium
  else none

def telegramConfigType (endpoints : ApiEndpoints) (json : JsonObject) : Option ConfigType :=
  let apiEndpointValue := Json.toString (json.value ConfigKey.apiEndpoint)
  if containsText apiEndpointValue endpoints.premiumV1Endpoint then some .amneziaPremiumV1
  else if containsText apiEndpointValue endpoints.freeV2Endpoint then some .amneziaFreeV2
  else gatewayConfigType json

/-- The kinds of servers that no API delivers. -/
def selfHostedConfigType (json : JsonObject) : ConfigType :=
  if hasThirdPartyConfig json then .native
  else if (SelfHostedAdminServerConfig.fromJson json).hasCredentials then .selfHostedAdmin
  else .selfHostedUser

def configTypeFromJson (endpoints : ApiEndpoints) (json : JsonObject) : ConfigType :=
  let configVersion := Json.toInt (json.value ConfigKey.configVersion) 0
  let fromApi :=
    if configVersion = 1 then telegramConfigType endpoints json
    else if configVersion = 2 then gatewayConfigType json
    else none
  fromApi.getD (selfHostedConfigType json)

variable (endpoints : ApiEndpoints) (json : JsonObject)

theorem gatewayConfigType_ne_invalid : gatewayConfigType json ≠ some .invalid := by
  unfold gatewayConfigType
  dsimp only
  split_ifs <;> simp

theorem telegramConfigType_ne_invalid : telegramConfigType endpoints json ≠ some .invalid := by
  unfold telegramConfigType
  dsimp only
  split_ifs
  · simp
  · simp
  · exact gatewayConfigType_ne_invalid json

theorem selfHostedConfigType_ne_invalid : selfHostedConfigType json ≠ .invalid := by
  unfold selfHostedConfigType
  split_ifs <;> simp

theorem configTypeFromJson_ne_invalid : configTypeFromJson endpoints json ≠ .invalid := by
  unfold configTypeFromJson
  intro h
  rw [Option.getD_eq_iff] at h
  rcases h with h | ⟨-, h⟩
  · split_ifs at h
    · exact telegramConfigType_ne_invalid endpoints json h
    · exact gatewayConfigType_ne_invalid json h
  · exact selfHostedConfigType_ne_invalid json h

end FreshVpn
