import FreshVpn.ConnectionStates
import FreshVpn.ServersInvariant

/-! Preparing a server for a connection: the check the interface makes before it asks for a connection
(`isConnectionSupported`) and the construction of the VPN configuration (`prepareConnection`), which the
failover also applies to its candidates. -/

namespace FreshVpn

open SecureServersRepository

inductive RouteMode where
  | vpnAllSites | vpnOnlyForwardSites | vpnAllExceptSites
  deriving DecidableEq

/-- The application settings that go into a configuration. -/
structure AppSettings where
  primaryDns : String
  secondaryDns : String
  useAmneziaDns : Bool
  isSitesSplitTunnelingEnabled : Bool
  routeMode : RouteMode

structure ConnectionSettings where
  primaryDns : String
  secondaryDns : String
  isApiConfig : Bool
  isSplitTunnelingEnabled : Bool
  routeMode : RouteMode

/-- The configurator classes `ConfiguratorBase::create` can return. -/
inductive Configurator where
  | openVpn | wireguard | awg | ikev2 | xray
  deriving DecidableEq

/-- `ConfiguratorBase::create`; `none` is the null pointer. -/
def Configurator.create : Proto → Option Configurator
  | .openVpn => some .openVpn
  | .wireGuard => some .wireguard
  | .awg => some .awg
  | .ikev2 => some .ikev2
  | .xray => some .xray
  | .ssXray => some .xray
  | _ => none

/-- What the controller runs on: the build, the stored servers, the settings, and the parts of the code
it calls into (the configurators, the parser of addresses, the check for the running service). -/
structure Client where
  platform : Platform
  endpoints : ApiEndpoints
  repository : SecureServersRepository
  wellFormed : repository.WellFormed
  appSettings : AppSettings
  checkIPv4Format : String → Bool
  processConfigWithLocalSettings : Configurator → ConnectionSettings → ProtocolConfig → ProtocolConfig
  getClientConfigJson : ProtocolConfig → JsonObject
  serviceIsRunning : Bool

namespace Client

variable (client : Client)

def isMobile : Bool := client.platform = .android || client.platform = .ios || client.platform = .macosNe

def isServiceReady : Bool := client.isMobile || client.serviceIsRunning

def defaultMtu : String := if client.isMobile then "1280" else "1376"

/-- The configuration of a server by its kind: `none` for the kinds that have none to connect with. -/
def serverConfig (serverId : String) : Option ServerConfig :=
  match client.repository.serverKind client.endpoints serverId with
  | .selfHostedAdmin =>
    (client.repository.selfHostedAdminConfig client.endpoints serverId).map (·.toServerConfig)
  | .selfHostedUser => client.repository.selfHostedUserConfig client.endpoints serverId
  | .native => client.repository.nativeConfig client.endpoints serverId
  | .amneziaPremiumV2 | .amneziaFreeV3 | .externalPremium =>
    client.repository.apiV2Config client.endpoints serverId
  | .amneziaPremiumV1 | .amneziaFreeV2 | .selfHosted | .invalid => none

def defaultContainerForServer (serverId : String) : Except ErrorCode DockerContainer :=
  match client.serverConfig serverId with
  | some config => .ok config.defaultContainer
  | none =>
    if (client.repository.serverKind client.endpoints serverId).isLegacyApiSubscription then
      .error .legacyApiV1NotSupportedError
    else .error .internalError

def isContainerSupported (container : DockerContainer) : Bool :=
  container.isSupportedByCurrentPlatform client.platform

def isConnectionSupported (serverId : String) : ErrorCode :=
  if serverId = "" then .internalError
  else if client.isServiceReady = false then .amneziaServiceNotRunning
  else if (client.repository.serverKind client.endpoints serverId).isLegacyApiSubscription then
    .legacyApiV1NotSupportedError
  else match client.defaultContainerForServer serverId with
    | .error errorCode => errorCode
    | .ok container =>
      if container = .none then .noInstalledContainersError
      else if container.isUnsupportedContainer then .legacyContainerNotSupportedError
      else if client.isContainerSupported container = false then .notSupportedOnThisPlatform
      else .noError

/-- `getDnsPair`; only an administrator's configuration looks for a DNS container on the server. -/
def getDnsPair (kind : ConfigType) (config : ServerConfig) : String × String :=
  let isOwn (dns : String) : Bool := dns != "" && client.checkIPv4Format dns
  let fallback :=
    if kind = .selfHostedAdmin && client.appSettings.useAmneziaDns && (config.containers .dns).isSome then
      "172.29.172.254"
    else client.appSettings.primaryDns
  (if isOwn config.dns1 then config.dns1 else fallback,
    if isOwn config.dns2 then config.dns2 else client.appSettings.secondaryDns)

/-- `createConnectionConfiguration`; `none` is the call through the null configurator. -/
def createConnectionConfiguration (dns : String × String) (isApiConfig : Bool) (hostName description : String)
    (configVersion : ℕ) (containerConfig : ContainerConfig) (container : DockerContainer) : Option JsonObject :=
  if container.containerService = .other then some []
  else
    let proto := container.defaultProtocol
    let settings : ConnectionSettings :=
      { primaryDns := dns.1, secondaryDns := dns.2, isApiConfig,
        isSplitTunnelingEnabled := client.appSettings.isSitesSplitTunnelingEnabled
        routeMode := client.appSettings.routeMode }
    (Configurator.create proto).map fun configurator =>
      let processedConfig :=
        client.processConfigWithLocalSettings configurator settings containerConfig.protocolConfig
      let vpnConfigData := client.getClientConfigJson processedConfig
      let vpnConfigData :=
        if (container.isAwgContainer || container = .wireGuard) &&
            Json.toString (vpnConfigData.value ConfigKey.mtu) == "" then
          vpnConfigData.insert ConfigKey.mtu (.string client.defaultMtu)
        else vpnConfigData
      [(proto.keyProtoConfigData, .object vpnConfigData), (ConfigKey.vpnProto, .string proto.protoToString),
        (ConfigKey.dns1, .string dns.1), (ConfigKey.dns2, .string dns.2), (ConfigKey.hostName, .string hostName),
        (ConfigKey.description, .string description),
        (ConfigKey.configVersion, .double configVersion)].foldl
          (fun (vpnConfiguration : JsonObject) (member : String × Json) =>
            vpnConfiguration.insert member.1 member.2) []

end Client

/-- What preparing a server ends with. -/
inductive Prepared where
  | failed (error : ErrorCode)
  /-- The process dies in a call through a null configurator. -/
  | nullConfigurator
  | ready (container : DockerContainer) (vpnConfiguration : JsonObject)

def Client.prepareConnection (client : Client) (serverId : String) : Prepared :=
  let kind := client.repository.serverKind client.endpoints serverId
  match client.serverConfig serverId with
  | none => .failed .internalError
  | some config =>
    let container := config.defaultContainer
    let isApiConfig := kind.isApiV2Subscription
    let configVersion := if isApiConfig then 2 else 0
    match client.createConnectionConfiguration (client.getDnsPair kind config) isApiConfig config.hostName
        config.description configVersion (config.containerConfig container) container with
    | none => .nullConfigurator
    | some vpnConfiguration => .ready container vpnConfiguration

/-! ### Which servers can be prepared, and which are supported -/

namespace Client

variable (client : Client)

theorem createConnectionConfiguration_eq_none_iff (dns : String × String) (isApiConfig : Bool)
    (hostName description : String) (configVersion : ℕ) (containerConfig : ContainerConfig)
    (container : DockerContainer) :
    client.createConnectionConfiguration dns isApiConfig hostName description configVersion containerConfig
        container = none ↔
      container = .none ∨ container.isUnsupportedContainer := by
  unfold createConnectionConfiguration
  cases container <;>
    simp [DockerContainer.containerService, DockerContainer.isUnsupportedContainer,
      DockerContainer.defaultProtocol, Proto.protocolService, Configurator.create]

variable {serverId : String}

theorem prepareConnection_of_serverConfig_eq_none (h : client.serverConfig serverId = none) :
    client.prepareConnection serverId = .failed .internalError := by
  unfold prepareConnection
  rw [h]

theorem prepareConnection_eq_nullConfigurator_iff (serverId : String) :
    client.prepareConnection serverId = .nullConfigurator ↔
      ∃ config, client.serverConfig serverId = some config ∧
        (config.defaultContainer = .none ∨ config.defaultContainer.isUnsupportedContainer) := by
  unfold prepareConnection
  cases hconfig : client.serverConfig serverId with
  | none => simp
  | some config =>
    simp only [Option.some.injEq, exists_eq_left']
    rw [← createConnectionConfiguration_eq_none_iff client]
    split
    · rename_i hnone
      exact iff_of_true rfl hnone
    · rename_i vpnConfiguration hsome
      simp [hsome]

/-- The interface's check, apart from whether the service is running. -/
def isSupportedApartFromService (serverId : String) : Prop :=
  { client with serviceIsRunning := true }.isConnectionSupported serverId = .noError

instance (serverId : String) : Decidable (client.isSupportedApartFromService serverId) :=
  inferInstanceAs (Decidable (_ = _))

theorem serverConfig_eq_none_of_legacy
    (h : (client.repository.serverKind client.endpoints serverId).isLegacyApiSubscription) :
    client.serverConfig serverId = none := by
  unfold serverConfig
  cases hkind : client.repository.serverKind client.endpoints serverId <;>
    simp_all [ConfigType.isLegacyApiSubscription]

theorem isSupportedApartFromService_iff (hid : serverId ≠ "") :
    client.isSupportedApartFromService serverId ↔
      ∃ config, client.serverConfig serverId = some config ∧ config.defaultContainer ≠ .none ∧
        config.defaultContainer.isUnsupportedContainer = false ∧
        client.isContainerSupported config.defaultContainer = true := by
  have hready : ({ client with serviceIsRunning := true } : Client).isServiceReady = true := by
    simp [isServiceReady]
  unfold isSupportedApartFromService isConnectionSupported
  rw [if_neg hid, hready]
  cases hlegacy : (client.repository.serverKind client.endpoints serverId).isLegacyApiSubscription with
  | true =>
    have hnone := client.serverConfig_eq_none_of_legacy hlegacy
    simp [hnone]
  | false =>
    have hdefault : ({ client with serviceIsRunning := true } : Client).defaultContainerForServer serverId =
        client.defaultContainerForServer serverId := rfl
    rw [hdefault, defaultContainerForServer]
    cases hconfig : client.serverConfig serverId with
    | none => simp [hlegacy]
    | some config =>
      simp only [Option.some.injEq, exists_eq_left', Bool.true_eq_false, Bool.false_eq_true, if_false]
      split_ifs <;> simp_all [isContainerSupported]

/-! ### Clients to evaluate -/

def sharedServer (hostName container : String) : JsonObject :=
  [(ConfigKey.defaultContainer, .string container), (ConfigKey.hostName, .string hostName)]

def afterCalls (platform : Platform) (calls : List Call) : Client where
  platform := platform
  endpoints := ⟨"free.example", "premium.example"⟩
  repository :=
    (create UuidSource.longest ⟨"free.example", "premium.example"⟩ ⟨[], "", 0⟩ 0).runCalls
      UuidSource.longest ⟨"free.example", "premium.example"⟩ calls
  wellFormed := reached_wellFormed _ _ _ _ _
  appSettings :=
    { primaryDns := "1.1.1.1", secondaryDns := "1.0.0.1", useAmneziaDns := false,
      isSitesSplitTunnelingEnabled := false, routeMode := .vpnAllSites }
  checkIPv4Format := fun _ => false
  processConfigWithLocalSettings := fun _ _ protocolConfig => protocolConfig
  getClientConfigJson := fun protocolConfig => protocolConfig.protoJson
  serviceIsRunning := true

end Client

end FreshVpn
