import FreshVpn.GatewayController
import FreshVpn.LibraryBase64
import FreshVpn.ServersEdit
import FreshVpn.ServersRestart

/-! Subscriptions (`SubscriptionController`): a server of the gateway is refreshed from a reply, or its device is
deactivated. -/

namespace FreshVpn

open SecureServersRepository

/-! ### Texts -/

/-- `QString::replace`, on the characters; `skip` counts what is left of the occurrence that is being replaced. -/
def replaceChars (before after : List Char) : (skip : ℕ) → List Char → List Char
  | _, [] => []
  | skip + 1, _ :: rest => replaceChars before after skip rest
  | 0, c :: rest =>
    if before.isPrefixOf (c :: rest) then after ++ replaceChars before after (before.length - 1) rest
    else c :: replaceChars before after 0 rest

def replaceText (text before after : String) : String :=
  String.ofList (replaceChars before.toList after.toList 0 text.toList)

theorem replaceChars_of_not_mem {before after chars : List Char} {d : Char} (hbefore : d ∈ before)
    (hchars : d ∉ chars) : replaceChars before after 0 chars = chars := by
  induction chars with
  | nil => rfl
  | cons c rest ih =>
    have hnot : before.isPrefixOf (c :: rest) = false := by
      rw [Bool.eq_false_iff, ne_eq, List.isPrefixOf_iff_prefix]
      exact fun h => hchars (h.subset hbefore)
    rw [replaceChars, hnot, if_neg Bool.false_ne_true, ih fun h => hchars (List.mem_cons_of_mem _ h)]

theorem replaceChars_append_of_skip (before after : List Char) (chars rest : List Char) :
    replaceChars before after chars.length (chars ++ rest) = replaceChars before after 0 rest := by
  induction chars with
  | nil => rfl
  | cons c chars ih => exact ih

theorem replaceChars_append {before : List Char} (h : before ≠ []) (after rest : List Char) :
    replaceChars before after 0 (before ++ rest) = after ++ replaceChars before after 0 rest := by
  cases before with
  | nil => exact absurd rfl h
  | cons c before =>
    have hfront : (c :: before).isPrefixOf (c :: (before ++ rest)) = true :=
      List.isPrefixOf_iff_prefix.mpr (List.prefix_append (c :: before) rest)
    rw [List.cons_append, replaceChars, if_pos hfront]
    exact congrArg (after ++ ·) (replaceChars_append_of_skip (c :: before) after before rest)

/-- Assigning a member of another object; one that is missing there is removed. -/
def JsonObject.copyMember (source : JsonObject) (object : JsonObject) (key : String) : JsonObject :=
  match source.value key with
  | some value => object.insert key value
  | none => object.remove key

/-! ### Models -/

def ApiConfig.set (config : ApiConfig) (key : String) (value : FieldValue) : ApiConfig :=
  { config with plain := Function.update config.plain key value }

namespace ApiV2Model

variable (config : ApiV2Model)

def serviceType : String := (config.apiConfig.plain "service_type").asText

def serviceProtocol : String := (config.apiConfig.plain "service_protocol").asText

def isPremium : Bool := config.serviceType = "amnezia-premium"

def isExternalPremium : Bool := config.serviceType = "external-premium"

def isInAppPurchase : Bool := (config.apiConfig.plain "is_in_app_purchase").asFlag

/-- `expiredApiV2.apiConfig.subscriptionExpiredByServer = true`. -/
def markExpired : ApiV2Model :=
  { config with apiConfig := config.apiConfig.set "subscription_expired_by_server" (.flag true) }

def clearContainers : ApiV2Model := { config with containers := fun _ => none }

/-- What a refreshed server takes over from the old one. -/
def keepOwn (old new : ApiV2Model) : ApiV2Model :=
  let apiConfig := new.apiConfig.set "vpn_key" (old.apiConfig.plain "vpn_key")
    |>.set "is_test_purchase" (old.apiConfig.plain "is_test_purchase")
    |>.set "is_in_app_purchase" (old.apiConfig.plain "is_in_app_purchase")
    |>.set "subscription_expired_by_server" (.flag false)
  let new := { new with apiConfig, authData := old.authData, crc := old.crc }
  if old.nameOverriddenByUser then
    { new with name := old.name, displayName := old.displayName, nameOverriddenByUser := true }
  else new

end ApiV2Model

/-! ### The controller -/

namespace SubscriptionController

open GatewayController

variable (env : GatewayEnvironment) (text : JsonText) (endpoints : ApiEndpoints)

/-- The parameters of AmneziaWG that are copied from the client's part. -/
def copiedKeys : List String :=
  ["Jc", "Jmin", "Jmax", "S1", "S2", "H1", "H2", "H3", "H4", "S3", "S4", "I1", "I2", "I3", "I4", "I5"]

/-- The configuration with the parameters of the first container completed; `none` if there is no container. -/
def completeAwg (newServerConfig : JsonObject) : Option JsonObject :=
  match Json.toArray (newServerConfig.value ConfigKey.containers) with
  | [] => none
  | first :: rest =>
    let container := Json.toObject (some first)
    let serverProtocolConfig := Json.toObject (container.value "awg")
    let clientProtocolConfig :=
      env.fromJson (env.toUtf8 (Json.toString (serverProtocolConfig.value ConfigKey.lastConfig)))
    let serverProtocolConfig := copiedKeys.foldl clientProtocolConfig.copyMember serverProtocolConfig
    some (newServerConfig.insert ConfigKey.containers
      (.array (.object (container.insert "awg" (.object serverProtocolConfig)) :: rest)))

def extractServerConfigJsonFromResponse (apiResponseBody : List UInt8) (protocol wireGuardClientPrivKey : String) :
    Except ErrorCode JsonObject :=
  let data := replaceText (Json.toString ((env.fromJson apiResponseBody).value ConfigKey.config)) "vpn://" ""
  let ba := Base64.decode data.toList
  if ba = [] then .error .apiConfigEmptyError
  else
    let ba := if env.qUncompress ba ≠ [] then env.qUncompress ba else ba
    let configStr := env.fromUtf8 ba
    if protocol = "awg" then
      let configStr := replaceText configStr "$WIREGUARD_CLIENT_PRIVATE_KEY" wireGuardClientPrivKey
      match completeAwg env (env.fromJson (env.toUtf8 configStr)) with
      | none => .error .apiConfigEmptyError
      | some newServerConfig =>
        .ok (env.fromJson (env.toUtf8 (env.fromUtf8 (env.toJson newServerConfig))))
    else .ok (env.fromJson (env.toUtf8 configStr))

def updateApiConfigInJson (serverConfigJson : JsonObject) (serviceType serviceProtocol userCountryCode : String)
    (apiResponseBody : List UInt8) : JsonObject :=
  let apiConfig := Json.toObject (serverConfigJson.value ConfigKey.apiConfig)
    |>.insert "service_type" (.string serviceType)
    |>.insert "service_protocol" (.string serviceProtocol)
    |>.insert "user_country_code" (.string userCountryCode)
  let apiConfig :=
    if Json.toInt (serverConfigJson.value ConfigKey.configVersion) 0 = 2 then
      let responseObj := env.fromJson apiResponseBody
      let apiConfig :=
        if responseObj.contains "supported_protocols" then
          apiConfig.insert "supported_protocols" (.array (Json.toArray (responseObj.value "supported_protocols")))
        else apiConfig
      if responseObj.contains "service_info" then
        apiConfig.insert "service_info" (.object (Json.toObject (responseObj.value "service_info")))
      else apiConfig
    else apiConfig
  serverConfigJson.insert ConfigKey.apiConfig (.object apiConfig)

def apiV2Config (r : SecureServersRepository) (serverId : String) : Option ApiV2Model :=
  r.configOfKind endpoints ConfigType.isApiV2Subscription (ApiV2Model.fromJson text) serverId

def store (r : SecureServersRepository) (serverId : String) (config : ApiV2Model) : SecureServersRepository :=
  r.editServer endpoints serverId (config.toJson text) (configTypeFromJson endpoints (config.toJson text))

/-- The server that a reply makes of the stored one. -/
def refreshed (apiV2 : ApiV2Model) (wireGuardClientPrivKey : String) (responseBody : List UInt8) :
    Except ErrorCode ApiV2Model := do
  let serviceProtocol := apiV2.serviceProtocol
  let serverConfigJson ←
    extractServerConfigJsonFromResponse env responseBody serviceProtocol wireGuardClientPrivKey
  let serverConfigJson := updateApiConfigInJson env serverConfigJson apiV2.serviceType serviceProtocol
    (apiV2.apiConfig.plain "user_country_code").asText responseBody
  if Json.toInt (serverConfigJson.value ConfigKey.configVersion) 0 ≠ 2 then throw .internalError
  return apiV2.keepOwn (ApiV2Model.fromJson text serverConfigJson)

def updateServiceFromGateway (r : SecureServersRepository) (serverId wireGuardClientPrivKey : String)
    (exchange : ℕ → Exchange) : ErrorCode × SecureServersRepository :=
  match apiV2Config text endpoints r serverId with
  | none => (.internalError, r)
  | some apiV2 =>
    let (errorCode, responseBody) := executeRequest env exchange
    if errorCode ≠ .noError then
      (errorCode,
        if errorCode = .apiSubscriptionExpiredError ∧ apiV2.isInAppPurchase = false then
          store text endpoints r serverId apiV2.markExpired
        else r)
    else match refreshed env text apiV2 wireGuardClientPrivKey responseBody with
      | .error errorCode => (errorCode, r)
      | .ok newApiV2 => (.noError, store text endpoints r serverId newApiV2)

def deactivateDevice (r : SecureServersRepository) (serverId : String) (exchange : ℕ → Exchange) :
    ErrorCode × SecureServersRepository :=
  match apiV2Config text endpoints r serverId with
  | none => (.noError, r)
  | some apiV2 =>
    if apiV2.isPremium = false ∧ apiV2.isExternalPremium = false then (.noError, r)
    else
      let errorCode := (executeRequest env exchange).1
      if errorCode ≠ .noError ∧ errorCode ≠ .apiNotFoundError then (errorCode, r)
      else (.noError, store text endpoints r serverId apiV2.clearContainers)

/-! ### What is stored -/

variable {r : SecureServersRepository}

theorem exists_json_of_apiV2Config {serverId : String} {apiV2 : ApiV2Model}
    (h : apiV2Config text endpoints r serverId = some apiV2) :
    ∃ json, r.serverJsonById serverId = some json ∧
      (configTypeFromJson endpoints (withoutStorageServerId json)).isApiV2Subscription = true ∧
      apiV2 = ApiV2Model.fromJson text (withoutStorageServerId json) := by
  rw [apiV2Config, configOfKind] at h
  cases hjson : r.serverJsonById serverId with
  | none =>
    rw [hjson] at h
    cases h
  | some json =>
    rw [hjson] at h
    dsimp only at h
    split_ifs at h with hkind
    cases h
    exact ⟨json, rfl, hkind, rfl⟩

theorem withoutStorageServerId_toJson_apiV2 (config : ApiV2Model) :
    withoutStorageServerId (config.toJson text) = config.toJson text :=
  StoredServer.withoutStorageServerId_toJson text (.apiV2 config)

theorem store_spec (hr : r.WellFormed) {serverId : String} {json : JsonObject}
    (hjson : r.serverJsonById serverId = some json) (config : ApiV2Model) :
    (store text endpoints r serverId config).serverJsonById =
        Function.update r.serverJsonById serverId (some (embedStorageServerId serverId (config.toJson text))) ∧
      (store text endpoints r serverId config).orderedServerIds = r.orderedServerIds ∧
      (store text endpoints r serverId config).defaultServerId = r.defaultServerId := by
  have hindex : r.indexOfServerId serverId ≠ none := by
    rw [indexOfServerId, ne_eq, List.idxOf?_eq_none_iff, not_not]
    exact hr.mem_of_json hjson
  have hstripped := withoutStorageServerId_toJson_apiV2 text config
  have hinserted : WellFormed
      ((r.removeJson serverId).insertJson serverId (embedStorageServerId serverId (config.toJson text))) := by
    have hreplaced : Consistent
        ((r.removeJson serverId).insertJson serverId (embedStorageServerId serverId (config.toJson text))) :=
      hr.toConsistent.replace serverId (config.toJson text) (hr.mem_of_json hjson) hstripped
        (Function.update_idem ..) rfl
    exact { hreplaced with default_mem := hr.default_mem, default_empty := hr.default_empty }
  rw [store, editServer,
    if_neg (not_or.mpr ⟨hindex, configTypeFromJson_ne_invalid endpoints _⟩), hjson]
  dsimp only
  rw [hstripped, if_neg (not_not.mpr rfl)]
  refine ⟨Function.update_idem .., rfl, ?_⟩
  exact WellFormed.persistDefaultServerFields_default
    { hinserted.toConsistent.congr rfl rfl with default_mem := hr.default_mem, default_empty := hr.default_empty }

end SubscriptionController

end FreshVpn
