import FreshVpn.ServersXray

/-! The decoded models of containers and servers (`ContainerConfig`, `SelfHostedAdminServerConfig` and its siblings,
`ApiV2ServerConfig`), with their encoders. -/

namespace FreshVpn

open FieldTable JsonObject

/-! ### Protocols -/

/-- `ProtocolConfig`, with the protocol's part decoded. -/
inductive ProtocolModel where
  | tabled (config : TabledConfig)
  | xray (config : XrayProtocolConfig)

/-- The alternative of `ProtocolConfig::Variant` a protocol is decoded into, if it is not Xray's. -/
def Proto.variant : Proto → Option ProtocolVariant
  | .awg => some .awg
  | .wireGuard => some .wireGuard
  | .openVpn => some .openVpn
  | .sftp => some .sftp
  | .socks5Proxy => some .socks5Proxy
  | .ikev2 => some .ikev2
  | .torWebSite => some .tor
  | .dns => some .dns
  | .mtProxy => some .mtProxy
  | .telemt => some .telemt
  | .xray | .ssXray | .unknown => none

namespace ProtocolModel

variable (text : JsonText)

/-- A container without a known protocol is decoded as an empty AmneziaWG configuration. -/
def fromJson (json : JsonObject) (type : Proto) : ProtocolModel :=
  match type.variant with
  | some variant => .tabled (TabledConfig.fromJson text variant json)
  | none =>
    if type = .xray ∨ type = .ssXray then .xray (XrayProtocolConfig.fromJson text json)
    else .tabled (TabledConfig.empty text .awg)

def toJson : ProtocolModel → JsonObject
  | .tabled c => c.toJson text
  | .xray c => c.toJson text

def clientFields : ProtocolModel → Option FieldTable
  | .tabled c => c.variant.clientFields
  | .xray _ => some XrayClientConfig.fields

def clientConfig : ProtocolModel → Option Record
  | .tabled c => c.clientConfig
  | .xray c => c.clientConfig

def isThirdPartyConfig : ProtocolModel → Bool
  | .tabled c => c.variant.clientFields.isSome && (c.serverConfig ConfigKey.isThirdPartyConfig).asFlag
  | .xray c => (c.serverConfig.members ConfigKey.isThirdPartyConfig).asFlag

def nativeConfig (m : ProtocolModel) : String := (m.clientConfig.map XrayClientConfig.nativeConfig).getD ""

def setNativeConfig (m : ProtocolModel) (config : String) : ProtocolModel :=
  let set (client : Record) : Record := Function.update client ConfigKey.config (.text config)
  match m with
  | .tabled c => .tabled { c with clientConfig := c.clientConfig.map set }
  | .xray c => .xray { c with clientConfig := c.clientConfig.map set }

def getClientConfigJson (m : ProtocolModel) : JsonObject :=
  match m.clientFields, m.clientConfig with
  | some fields, some client => fields.toJson client
  | _, _ => []

/-- What a connection hands to the protocol: every configurator rewrites the native configuration, each in its
way (`processConfigWithLocalSettings`), and passes the client configuration on. -/
def handed (process : String → String) (m : ProtocolModel) : JsonObject :=
  (m.setNativeConfig (process m.nativeConfig)).getClientConfigJson

/-- The model is one that a decoder of this protocol returns, or such a model with an edited client. -/
def Readable (type : Proto) : ProtocolModel → Prop
  | .tabled c => (type.variant = some c.variant ∧ c.Settled) ∨ (type = .unknown ∧ c = TabledConfig.empty text .awg)
  | .xray c => (type = .xray ∨ type = .ssXray) ∧
      ∀ client, c.clientConfig = some client → ∃ s, XrayClientConfig.ofLastConfig text s = some client

theorem readable_fromJson (json : JsonObject) (type : Proto) : Readable text type (fromJson text json type) := by
  unfold fromJson
  cases hvariant : type.variant with
  | some variant => exact Or.inl ⟨hvariant, TabledConfig.settled_fromJson text variant json⟩
  | none =>
    split_ifs with htype
    · refine ⟨htype, fun client hclient => ?_⟩
      rw [(XrayProtocolConfig.fromJson_spec text json).1] at hclient
      exact ⟨_, hclient⟩
    · refine Or.inr ⟨?_, rfl⟩
      revert hvariant htype
      cases type <;> decide

/-- Storing the model and reading it back does not change what is handed over. -/
def Kept : ProtocolModel → Prop
  | .tabled _ => True
  | .xray c => ∀ client, c.clientConfig = some client → XrayClientConfig.Kept text client

/-- The client configuration with the native part rewritten. -/
def handedClient (process : String → String) : Option FieldTable → Option Record → JsonObject
  | some fields, some client =>
    fields.toJson (Function.update client ConfigKey.config (.text (process (XrayClientConfig.nativeConfig client))))
  | _, _ => []

variable (process : String → String)

theorem handed_eq (m : ProtocolModel) : m.handed process = handedClient process m.clientFields m.clientConfig := by
  cases m with
  | tabled c =>
    unfold handed getClientConfigJson setNativeConfig nativeConfig clientFields clientConfig
    dsimp only
    cases c.variant.clientFields <;> cases c.clientConfig <;> rfl
  | xray c =>
    unfold handed getClientConfigJson setNativeConfig nativeConfig clientFields clientConfig
    dsimp only
    cases c.clientConfig <;> rfl

variable {fields : FieldTable}

theorem handedClient_eq_of_alike {client client' : Record}
    (hnative : XrayClientConfig.nativeConfig client' = XrayClientConfig.nativeConfig client)
    (halike : fields.Alike client' client) :
    handedClient process (some fields) (some client') = handedClient process (some fields) (some client) := by
  unfold handedClient
  dsimp only
  rw [hnative]
  exact (halike.update _ _).toJson_eq

theorem handedClient_eq_of_rel (hconfig : (ConfigKey.config, FieldKind.text) ∈ fields.entries)
    {client client' : Option Record} (hrel : Option.Rel fields.Alike client' client) :
    handedClient process (some fields) client' = handedClient process (some fields) client := by
  cases hrel with
  | none => rfl
  | some halike => exact handedClient_eq_of_alike process (halike.asText_eq hconfig) halike

theorem alike_of_handedClient_eq {process : String → String} {client client' : Record}
    (hnative : XrayClientConfig.nativeConfig client' = XrayClientConfig.nativeConfig client)
    (hconfig : (ConfigKey.config, FieldKind.text) ∈ fields.entries)
    (h : handedClient process (some fields) (some client') = handedClient process (some fields) (some client)) :
    fields.Alike client' client := by
  intro entry hmem
  by_cases heq : entry.1 = ConfigKey.config
  · have hentry : entry = (ConfigKey.config, FieldKind.text) :=
      List.inj_on_of_nodup_map fields.distinct hmem hconfig heq
    subst hentry
    change (if XrayClientConfig.nativeConfig client' = "" then none else some (Json.string _)) =
      (if XrayClientConfig.nativeConfig client = "" then none else some (Json.string _))
    rw [hnative]
    exact congrArg _ (congrArg _ (congrArg _ hnative))
  · have hvalue := congrArg (fun json : JsonObject => json.value entry.1) h
    simp only [handedClient] at hvalue
    rw [value_toJson hmem, value_toJson hmem, Function.update_of_ne heq,
      Function.update_of_ne heq] at hvalue
    exact hvalue

/-- **The round trip of a protocol.** What is handed over after storing and reading back is what was handed
over before, exactly if the model is kept. -/
theorem Readable.handed_fromJson_toJson {type : Proto} {m : ProtocolModel} (h : Readable text type m)
    (process : String → String) :
    (fromJson text (m.toJson text) type).handed process = m.handed process ↔ m.Kept text := by
  cases m with
  | tabled c =>
    refine iff_of_true ?_ trivial
    rcases h with ⟨hvariant, hsettled⟩ | ⟨rfl, rfl⟩
    · have hrel := (hsettled.fromJson_toJson text).2
      rw [fromJson, hvariant, handed_eq, handed_eq]
      change handedClient process c.variant.clientFields _ = handedClient process c.variant.clientFields _
      cases hfields : c.variant.clientFields with
      | none => rfl
      | some fields =>
        exact handedClient_eq_of_rel process (ProtocolVariant.clientFields_spec hfields).2.2 (hrel fields hfields)
    · rfl
  | xray c =>
    obtain ⟨htype, hread⟩ := h
    have hfrom : fromJson text (toJson text (.xray c)) type =
        .xray (XrayProtocolConfig.fromJson text (c.toJson text)) := by
      rcases htype with rfl | rfl <;> rfl
    rw [hfrom, handed_eq, handed_eq]
    change handedClient process (some XrayClientConfig.fields)
      (XrayProtocolConfig.fromJson text (c.toJson text)).clientConfig =
        handedClient process (some XrayClientConfig.fields) c.clientConfig ↔ _
    rw [XrayProtocolConfig.clientConfig_fromJson_toJson]
    cases hclient : c.clientConfig with
    | none =>
      refine iff_of_true rfl fun client hsome => ?_
      rw [hclient] at hsome
      cases hsome
    | some client =>
      obtain ⟨s, hs⟩ := hread client hclient
      obtain ⟨client', hread', hnative, halike⟩ := XrayClientConfig.ofLastConfig_toLastConfig text hs
      rw [Option.bind_some, hread']
      have hkept : Kept text (.xray c) ↔ XrayClientConfig.Kept text client := by
        constructor
        · exact fun hkept => hkept client hclient
        · intro hkept client₁ hclient₁
          rw [hclient, Option.some.injEq] at hclient₁
          exact hclient₁ ▸ hkept
      rw [hkept, ← halike]
      exact ⟨alike_of_handedClient_eq hnative List.mem_cons_self, handedClient_eq_of_alike process hnative⟩

theorem value_isThirdPartyConfig_toJson (m : ProtocolModel) :
    (m.toJson text).value ConfigKey.isThirdPartyConfig =
      if m.isThirdPartyConfig then some (.bool true) else none := by
  have hflag : ∀ v : FieldValue, FieldKind.write (.flag false) v = if v.asFlag then some (.bool true) else none := by
    intro v
    change (if v.asFlag = false then none else some (Json.bool v.asFlag)) = _
    cases v.asFlag <;> rfl
  cases m with
  | xray c => exact (XrayProtocolConfig.value_isThirdPartyConfig_toJson text c).trans (hflag _)
  | tabled c =>
    refine (TabledConfig.value_toJson text c (by decide)).trans ?_
    unfold isThirdPartyConfig
    by_cases hclient : c.variant.clientFields.isSome = true
    · have hmem : (ConfigKey.isThirdPartyConfig, FieldKind.flag false) ∈ c.variant.serverFields.entries := by
        revert hclient
        cases c.variant <;> simp [ProtocolVariant.clientFields, ProtocolVariant.serverFields,
          AwgServerConfig.fields, WireGuardServerConfig.fields, OpenVpnServerConfig.fields,
          Ikev2ServerConfig.fields, ConfigKey.isThirdPartyConfig]
      rw [value_toJson hmem, hflag]
      simp only [hclient, Bool.true_and]
    · have hmem : ConfigKey.isThirdPartyConfig ∉ c.variant.serverFields.entries.map Prod.fst := by
        revert hclient
        cases c.variant <;> decide +kernel
      rw [value_toJson_of_not_mem hmem]
      simp only [hclient, Bool.false_and, Bool.false_eq_true, if_false]

end ProtocolModel

/-! ### Containers -/

structure ContainerModel where
  container : DockerContainer
  protocolConfig : ProtocolModel

namespace ContainerModel

variable (text : JsonText)

def ofStored (c : ContainerConfig) : ContainerModel where
  container := c.container
  protocolConfig := ProtocolModel.fromJson text c.protocolConfig.protoJson c.protocolConfig.protoType

def fromJson (json : JsonObject) : ContainerModel := ofStored text (ContainerConfig.fromJson json)

def toJson (c : ContainerModel) : JsonObject :=
  JsonObject.insert [(ConfigKey.container, .string c.container.containerToString)]
    c.container.defaultProtocol.protoToString (.object (c.protocolConfig.toJson text))

theorem protoToString_ne_container (type : Proto) : type.protoToString ≠ ConfigKey.container := by
  cases type <;> decide

theorem fromJson_toJson (c : ContainerModel) :
    fromJson text (c.toJson text) =
      ⟨c.container, ProtocolModel.fromJson text (c.protocolConfig.toJson text) c.container.defaultProtocol⟩ := by
  have hname : (c.toJson text).value ConfigKey.container = some (.string c.container.containerToString) :=
    value_insert_of_ne _ (protoToString_ne_container _).symm _
  have hproto : (c.toJson text).value c.container.defaultProtocol.protoToString =
      some (.object (c.protocolConfig.toJson text)) := value_insert_self ..
  unfold fromJson ofStored ContainerConfig.fromJson
  dsimp only
  rw [hname, Json.toString, DockerContainer.containerFromString_containerToString, hproto, Json.toObject]

theorem any_hasThirdPartyMember_toJson (c : ContainerModel) :
    (c.toJson text).any hasThirdPartyMember = c.protocolConfig.isThirdPartyConfig := by
  have hmark : hasThirdPartyMember (c.container.defaultProtocol.protoToString,
      .object (c.protocolConfig.toJson text)) = c.protocolConfig.isThirdPartyConfig := by
    have hne : (c.container.defaultProtocol.protoToString == ConfigKey.container) = false :=
      beq_false_of_ne (protoToString_ne_container _)
    unfold hasThirdPartyMember contains
    dsimp only [Json.toObject]
    rw [hne, ProtocolModel.value_isThirdPartyConfig_toJson]
    cases c.protocolConfig.isThirdPartyConfig <;> rfl
  rw [Bool.eq_iff_iff, List.any_eq_true]
  constructor
  · rintro ⟨member, hmem, hmember⟩
    rcases mem_insert hmem with rfl | hmem
    · rw [← hmark]
      exact hmember
    · rw [List.mem_singleton.mp hmem] at hmember
      exact absurd hmember Bool.false_ne_true
  · intro h
    have hvalue : (c.toJson text).value c.container.defaultProtocol.protoToString =
        some (.object (c.protocolConfig.toJson text)) := value_insert_self ..
    exact ⟨_, mem_of_value_eq_some hvalue, hmark.trans h⟩

end ContainerModel

/-! ### Servers -/

structure ServerModel where
  description : String
  displayName : String
  hostName : String
  containers : DockerContainer → Option ContainerModel
  defaultContainer : DockerContainer
  dns1 : String
  dns2 : String

namespace ServerModel

variable (text : JsonText)

/-- `SelfHostedUserServerConfig::fromJson` and `NativeServerConfig::fromJson`. -/
def fromJson (json : JsonObject) : ServerModel :=
  let config := ServerConfig.fromJson json
  { description := config.description
    displayName := if config.description = "" then config.hostName else config.description
    hostName := config.hostName
    containers := fun container => (config.containers container).map (ContainerModel.ofStored text)
    defaultContainer := config.defaultContainer
    dns1 := config.dns1
    dns2 := config.dns2 }

/-- The display name is not stored. -/
def fields : FieldTable where
  entries :=
    [("description", .text), ("hostName", .text), ("containers", .array), ("defaultContainer", .text),
      ("dns1", .text), ("dns2", .text)]
  distinct := by decide +kernel

variable (m : ServerModel)

/-- The containers in the order of the enumeration, in which `QMap` keeps them. -/
def containersArray : List Json :=
  DockerContainer.allContainers.filterMap fun container =>
    (m.containers container).map fun c => .object (c.toJson text)

def members : Record
  | "description" => .text m.description
  | "hostName" => .text m.hostName
  | "containers" => .array (m.containersArray text)
  | "defaultContainer" =>
    .text (if m.defaultContainer = .none then "" else m.defaultContainer.containerToString)
  | "dns1" => .text m.dns1
  | "dns2" => .text m.dns2
  | _ => .text ""

def toJson : JsonObject := fields.toJson (m.members text)

def updateContainerConfig (container : DockerContainer) (config : ContainerModel) : ServerModel :=
  { m with containers := Function.update m.containers container (some config) }

end ServerModel

structure SelfHostedAdminModel extends ServerModel where
  userName : String
  password : String
  port : Int

namespace SelfHostedAdminModel

variable (text : JsonText)

def fromJson (json : JsonObject) : SelfHostedAdminModel :=
  let config := SelfHostedAdminServerConfig.fromJson json
  { ServerModel.fromJson text json with
    userName := config.userName, password := config.password, port := config.port }

def fields : FieldTable where
  entries :=
    ServerModel.fields.entries ++ [("userName", .text), ("password", .text), ("port", .positive)]
  distinct := by decide +kernel

def members (m : SelfHostedAdminModel) : Record
  | "userName" => .text m.userName
  | "password" => .text m.password
  | "port" => .number m.port
  | key => m.toServerModel.members text key

def toJson (m : SelfHostedAdminModel) : JsonObject := fields.toJson (m.members text)

end SelfHostedAdminModel

def Subscription.fields : FieldTable where
  entries := [("end_date", .text)]
  distinct := by decide +kernel

def ServiceInfo.fields : FieldTable where
  entries :=
    [("is_ad_visible", .flagAlways false), ("is_renewal_available", .flagAlways false), ("ad_header", .text),
      ("ad_description", .text), ("ad_endpoint", .text)]
  distinct := by decide +kernel

def PublicKeyInfo.fields : FieldTable where
  entries := [("expires_at", .text)]
  distinct := by decide +kernel

def AuthData.fields : FieldTable where
  entries := [("api_key", .text)]
  distinct := by decide +kernel

/-- `ApiConfig`; the nested records are decoded apart from the other members. -/
structure ApiConfig where
  plain : Record
  subscription : Record
  serviceInfo : Record
  publicKey : Record

namespace ApiConfig

def fields : FieldTable where
  entries :=
    [("service_type", .text), ("service_protocol", .text), ("user_country_code", .text),
      ("server_country_code", .text), ("server_country_name", .text), ("vpn_key", .text), ("subscription", .object),
      ("active_device_count", .positive), ("max_device_count", .positive), ("issued_configs", .positive),
      ("available_countries", .array), ("supported_protocols", .array), ("service_info", .object),
      ("public_key", .object), ("stack_type", .text), ("cli_version", .text), ("is_test_purchase", .flag false),
      ("is_in_app_purchase", .flag false), ("subscription_expired_by_server", .flag false)]
  distinct := by decide +kernel

def fromJson (json : JsonObject) : ApiConfig where
  plain := fields.fromJson json
  subscription := Subscription.fields.fromJson (Json.toObject (json.value "subscription"))
  serviceInfo := ServiceInfo.fields.fromJson (Json.toObject (json.value "service_info"))
  publicKey := PublicKeyInfo.fields.fromJson (Json.toObject (json.value "public_key"))

def members (c : ApiConfig) : Record
  | "subscription" => .object (Subscription.fields.toJson c.subscription)
  | "service_info" => .object (ServiceInfo.fields.toJson c.serviceInfo)
  | "public_key" => .object (PublicKeyInfo.fields.toJson c.publicKey)
  | key => c.plain key

def toJson (c : ApiConfig) : JsonObject := fields.toJson c.members

end ApiConfig

structure ApiV2Model extends ServerModel where
  name : String
  nameOverriddenByUser : Bool
  crc : Int
  configVersion : Int
  apiConfig : ApiConfig
  authData : Record

namespace ApiV2Model

variable (text : JsonText)

def fromJson (json : JsonObject) : ApiV2Model :=
  let model := ServerModel.fromJson text json
  let name := Json.toString (json.value "name")
  { model with
    displayName := if name = "" then model.description else name
    name
    nameOverriddenByUser := Json.toBoolOr false (json.value "nameOverriddenByUser")
    crc := Json.toInt (json.value "crc") 0
    configVersion := Json.toInt (json.value ConfigKey.configVersion) 2
    apiConfig := ApiConfig.fromJson (Json.toObject (json.value ConfigKey.apiConfig))
    authData := AuthData.fields.fromJson (Json.toObject (json.value "auth_data")) }

def fields : FieldTable where
  entries :=
    [("name", .text), ("nameOverriddenByUser", .flag false), ("description", .text), ("config_version", .number 2),
      ("hostName", .text), ("containers", .array), ("defaultContainer", .text), ("dns1", .text), ("dns2", .text),
      ("crc", .positive), ("api_config", .object), ("auth_data", .object)]
  distinct := by decide +kernel

def members (m : ApiV2Model) : Record
  | "name" => .text m.name
  | "nameOverriddenByUser" => .flag m.nameOverriddenByUser
  | "config_version" => .number m.configVersion
  | "crc" => .number m.crc
  | "api_config" => .object m.apiConfig.toJson
  | "auth_data" => .object (AuthData.fields.toJson m.authData)
  | key => m.toServerModel.members text key

def toJson (m : ApiV2Model) : JsonObject := fields.toJson (m.members text)

end ApiV2Model

end FreshVpn
