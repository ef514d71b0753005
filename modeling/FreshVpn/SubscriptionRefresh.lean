import FreshVpn.SubscriptionReplies

/-! What a refresh keeps (`SubscriptionController::updateServiceFromGateway`). The new server is decoded from whatever
the reply holds, takes over what belongs to the user, is encoded, and is stored in place of the old one. -/

namespace FreshVpn

open GatewayController SubscriptionController FieldTable StoredServer JsonObject ApiV2Model SecureServersRepository ServerEdit

namespace ApiV2Model

/-! ### What is taken over -/

variable (old new : ApiV2Model)

theorem keepOwn_apiConfig :
    (old.keepOwn new).apiConfig =
      (((new.apiConfig.set "vpn_key" (old.apiConfig.plain "vpn_key")).set "is_test_purchase"
        (old.apiConfig.plain "is_test_purchase")).set "is_in_app_purchase"
        (old.apiConfig.plain "is_in_app_purchase")).set "subscription_expired_by_server" (.flag false) := by
  rw [keepOwn]
  split_ifs <;> rfl

theorem keepOwn_authData : (old.keepOwn new).authData = old.authData := by
  rw [keepOwn]
  split_ifs <;> rfl

theorem keepOwn_crc : (old.keepOwn new).crc = old.crc := by
  rw [keepOwn]
  split_ifs <;> rfl

theorem keepOwn_configVersion : (old.keepOwn new).configVersion = new.configVersion := by
  rw [keepOwn]
  split_ifs <;> rfl

theorem keepOwn_name {old : ApiV2Model} (h : old.nameOverriddenByUser = true) (new : ApiV2Model) :
    (old.keepOwn new).name = old.name ∧ (old.keepOwn new).nameOverriddenByUser = true := by
  rw [keepOwn, h, if_pos rfl]
  exact ⟨rfl, rfl⟩

/-- The members of the API's configuration that are the user's. -/
def ownKeys : List String := ["vpn_key", "is_test_purchase", "is_in_app_purchase"]

theorem keepOwn_plain {key : String} (hkey : key ∈ ownKeys) :
    (old.keepOwn new).apiConfig.plain key = old.apiConfig.plain key := by
  rw [keepOwn_apiConfig]
  simp only [ownKeys, List.mem_cons, List.not_mem_nil, or_false] at hkey
  rcases hkey with rfl | rfl | rfl <;> simp [ApiConfig.set]

theorem keepOwn_serviceType :
    (old.keepOwn new).apiConfig.plain "service_type" = new.apiConfig.plain "service_type" := by
  rw [keepOwn_apiConfig]
  simp [ApiConfig.set]

/-! ### Encoding and decoding -/

variable (text : JsonText) (config : ApiV2Model)

theorem apiConfig_fromJson_toJson :
    (fromJson text (config.toJson text)).apiConfig = ApiConfig.fromJson config.apiConfig.toJson := by
  have hmem : (ConfigKey.apiConfig, FieldKind.object) ∈ fields.entries := by simp [fields, ConfigKey.apiConfig]
  change ApiConfig.fromJson (Json.toObject ((fields.toJson (config.members text)).value ConfigKey.apiConfig)) = _
  rw [value_toJson hmem]
  exact congrArg ApiConfig.fromJson (toObject_write_object config.apiConfig.toJson)

theorem authData_fromJson_toJson :
    (fromJson text (config.toJson text)).authData =
      AuthData.fields.fromJson (AuthData.fields.toJson config.authData) := by
  have hmem : ("auth_data", FieldKind.object) ∈ fields.entries := by simp [fields]
  change AuthData.fields.fromJson (Json.toObject ((fields.toJson (config.members text)).value "auth_data")) = _
  rw [value_toJson hmem]
  exact congrArg AuthData.fields.fromJson (toObject_write_object _)

theorem name_fromJson_toJson : (fromJson text (config.toJson text)).name = config.name := by
  have hmem : ("name", FieldKind.text) ∈ fields.entries := by simp [fields]
  change Json.toString ((fields.toJson (config.members text)).value "name") = _
  rw [value_toJson hmem]
  exact ServerModel.toString_write_text _

theorem nameOverriddenByUser_fromJson_toJson :
    (fromJson text (config.toJson text)).nameOverriddenByUser = config.nameOverriddenByUser := by
  have hmem : ("nameOverriddenByUser", FieldKind.flag false) ∈ fields.entries := by simp [fields]
  change Json.toBoolOr false ((fields.toJson (config.members text)).value "nameOverriddenByUser") = _
  rw [value_toJson hmem]
  change Json.toBoolOr false (if config.nameOverriddenByUser = false then none else _) = _
  split_ifs with hnot
  · exact hnot.symm
  · rfl

theorem crc_fromJson_toJson {config : ApiV2Model} (hcrc : 0 ≤ config.crc ∧ config.crc ≤ 2147483647) :
    (fromJson text (config.toJson text)).crc = config.crc := by
  have hmem : ("crc", FieldKind.positive) ∈ fields.entries := by simp [fields]
  change Json.toInt ((fields.toJson (config.members text)).value "crc") 0 = _
  rw [value_toJson hmem]
  change Json.toInt (FieldKind.write .positive (.number config.crc)) 0 = _
  rcases hcrc.1.eq_or_lt with hzero | hpos
  · rw [← hzero]
    rfl
  · exact toInt_write_positive hpos hcrc.2

/-- What belongs to the user of a subscription. -/
structure KeepsOwn (old new : ApiV2Model) : Prop where
  plain : ∀ key ∈ ownKeys, new.apiConfig.plain key = old.apiConfig.plain key
  authData : new.authData = old.authData
  crc : 0 ≤ old.crc → new.crc = old.crc
  name : old.nameOverriddenByUser = true → new.name = old.name ∧ new.nameOverriddenByUser = true

/-- **What a stored refresh keeps.** A decoded server takes its own part over into whatever the reply holds, and this
part is still there when the result is stored and decoded. -/
theorem keepsOwn_fromJson_toJson (json : JsonObject) (new : ApiV2Model) :
    (fromJson text json).KeepsOwn (fromJson text (((fromJson text json).keepOwn new).toJson text)) := by
  set old := fromJson text json with hold
  refine ⟨fun key hkey => ?_, ?_, fun hcrc => ?_, fun hname => ?_⟩
  · have hmember : (old.keepOwn new).apiConfig.members key = old.apiConfig.plain key := by
      rw [← keepOwn_plain old new hkey]
      simp only [ownKeys, List.mem_cons, List.not_mem_nil, or_false] at hkey
      rcases hkey with rfl | rfl | rfl <;> rfl
    obtain ⟨kind, hmem, hexact⟩ : ∃ kind, (key, kind) ∈ ApiConfig.fields.entries ∧ kind.isExact = true := by
      simp only [ownKeys, List.mem_cons, List.not_mem_nil, or_false] at hkey
      rcases hkey with rfl | rfl | rfl
      · exact ⟨.text, by simp [ApiConfig.fields], rfl⟩
      · exact ⟨.flag false, by simp [ApiConfig.fields], rfl⟩
      · exact ⟨.flag false, by simp [ApiConfig.fields], rfl⟩
    have hread : old.apiConfig.plain key =
        kind.read ((Json.toObject (json.value ConfigKey.apiConfig)).value key) :=
      fromJson_of_mem hmem _
    rw [apiConfig_fromJson_toJson]
    change ApiConfig.fields.fromJson (ApiConfig.fields.toJson (old.keepOwn new).apiConfig.members) key = _
    rw [fromJson_toJson_of_mem hmem (by rw [hmember, hread, FieldKind.read_write_read hexact]), hmember]
  · rw [authData_fromJson_toJson, keepOwn_authData]
    funext key
    by_cases hkey : key ∈ AuthData.fields.entries.map Prod.fst
    · obtain ⟨⟨key, kind⟩, hmem, rfl⟩ := List.mem_map.mp hkey
      refine fromJson_toJson_of_mem hmem ?_
      have hkind : kind.isExact = true := by
        rw [AuthData.fields, List.mem_singleton, Prod.mk.injEq] at hmem
        rw [hmem.2]
        rfl
      rw [show old.authData key = _ from fromJson_of_mem hmem _, FieldKind.read_write_read hkind]
    · rw [fromJson_of_not_mem hkey]
      exact (fromJson_of_not_mem hkey _).symm
  · have hrange : old.crc ≤ 2147483647 := (Json.toInt_range (by decide) _).2
    rw [crc_fromJson_toJson text (by rw [keepOwn_crc]; exact ⟨hcrc, hrange⟩), keepOwn_crc]
  · rw [name_fromJson_toJson, nameOverriddenByUser_fromJson_toJson]
    exact keepOwn_name hname new

end ApiV2Model

namespace SubscriptionController

variable {env : GatewayEnvironment} {text : JsonText} {endpoints : ApiEndpoints}

theorem serviceType_updateApiConfigInJson (serverConfigJson : JsonObject) (serviceType serviceProtocol : String)
    (userCountryCode : String) (body : List UInt8) :
    (ApiV2Model.fromJson text (updateApiConfigInJson env serverConfigJson serviceType serviceProtocol userCountryCode
      body)).apiConfig.plain "service_type" = .text serviceType := by
  have hmem : ("service_type", FieldKind.text) ∈ ApiConfig.fields.entries := by simp [ApiConfig.fields]
  change ApiConfig.fields.fromJson (Json.toObject (value _ ConfigKey.apiConfig)) "service_type" = _
  rw [fromJson_of_mem hmem, updateApiConfigInJson, value_insert_self, Json.toObject]
  dsimp only
  -- The protocol, the country and the parts of a reply of version 2 are other members.
  split_ifs <;> simp [value_insert_self, value_insert_of_ne, FieldKind.read, Json.toString]

variable {apiV2 : ApiV2Model} {key : String} {body : List UInt8} {config : ApiV2Model}

theorem refreshed_spec (h : refreshed env text apiV2 key body = .ok config) :
    ∃ new, config = apiV2.keepOwn new ∧ new.apiConfig.plain "service_type" = .text apiV2.serviceType ∧
      new.configVersion = 2 := by
  rw [refreshed] at h
  cases hextract : extractServerConfigJsonFromResponse env body apiV2.serviceProtocol key with
  | error code =>
    rw [hextract] at h
    cases h
  | ok serverConfigJson =>
    rw [hextract] at h
    change (if _ then Except.error _ else Except.ok _) = _ at h
    split_ifs at h with hversion
    cases h
    refine ⟨_, rfl, serviceType_updateApiConfigInJson .., ?_⟩
    exact toInt_eq_of_ne (not_not.mp hversion) (by decide) 2

theorem refreshed_error_ne_noError {code : ErrorCode} (h : refreshed env text apiV2 key body = .error code) :
    code ≠ .noError := by
  rw [refreshed] at h
  cases hextract : extractServerConfigJsonFromResponse env body apiV2.serviceProtocol key with
  | error extractCode =>
    rw [hextract] at h
    cases h
    rw [extractServerConfigJsonFromResponse] at hextract
    dsimp only at hextract
    split_ifs at hextract with hempty hawg hcompressed
    · cases hextract
      decide
    all_goals
      split at hextract
      · cases hextract
        decide
      · cases hextract
  | ok serverConfigJson =>
    rw [hextract] at h
    change (if _ then Except.error _ else Except.ok _) = _ at h
    split_ifs at h
    cases h
    decide

theorem ofKind_refreshed {kind : ConfigType} (hkind : StoredServer.OfKind endpoints kind (.apiV2 apiV2))
    (h : refreshed env text apiV2 key body = .ok config) : StoredServer.OfKind endpoints kind (.apiV2 config) := by
  obtain ⟨new, rfl, hservice, hversion⟩ := refreshed_spec h
  refine ⟨?_, Or.inl ((apiV2.keepOwn_configVersion new).trans hversion)⟩
  rw [← hkind.1, ConfigKey.serviceType, keepOwn_serviceType, hservice]
  rfl

theorem ofKind_of_isApiV2Subscription {json : JsonObject}
    (h : (configTypeFromJson endpoints json).isApiV2Subscription = true) :
    StoredServer.OfKind endpoints (configTypeFromJson endpoints json) (.apiV2 (ApiV2Model.fromJson text json)) := by
  have hread : fromJson text (configTypeFromJson endpoints json) json =
      some (.apiV2 (fromJson text json)) := by
    revert h
    cases configTypeFromJson endpoints json <;> first | exact fun h => absurd h Bool.false_ne_true | exact fun _ => rfl
  exact ofKind_fromJson hread

theorem updateServiceFromGateway_cases (env : GatewayEnvironment) (text : JsonText) (endpoints : ApiEndpoints)
    (r : SecureServersRepository) (serverId key : String) (exchange : ℕ → Exchange) :
    let result := updateServiceFromGateway env text endpoints r serverId key exchange
    (result.1 ≠ .noError ∧ (result.1 ≠ .apiSubscriptionExpiredError → result.2 = r)) ∨
      ∃ apiV2 config, apiV2Config text endpoints r serverId = some apiV2 ∧
        refreshed env text apiV2 key (executeRequest env exchange).2 = .ok config ∧
        result = (.noError, store text endpoints r serverId config) := by
  intro result
  have hresult : result = updateServiceFromGateway env text endpoints r serverId key exchange := rfl
  rw [updateServiceFromGateway] at hresult
  cases hapi : apiV2Config text endpoints r serverId with
  | none =>
    rw [hapi] at hresult
    rw [hresult]
    exact Or.inl ⟨by simp, fun _ => rfl⟩
  | some apiV2 =>
    rw [hapi] at hresult
    dsimp only at hresult
    split_ifs at hresult with herror hexpired
    · rw [hresult]
      exact Or.inl ⟨herror, fun hne => absurd hexpired.1 hne⟩
    · rw [hresult]
      exact Or.inl ⟨herror, fun _ => rfl⟩
    · cases hrefreshed : refreshed env text apiV2 key (executeRequest env exchange).2 with
      | error code =>
        rw [hrefreshed] at hresult
        rw [hresult]
        exact Or.inl ⟨refreshed_error_ne_noError hrefreshed, fun _ => rfl⟩
      | ok config =>
        rw [hrefreshed] at hresult
        exact Or.inr ⟨apiV2, config, rfl, hrefreshed, hresult⟩

/-- **A refresh.** If it fails, and not because the subscription has expired, the repository is as it was. If it
succeeds, the repository holds what the reply was made into, under the same id; the other servers, the order and the
default are as they were; and the server, decoded again, is of its kind and has kept what belongs to the user. -/
theorem refresh_changes_only_server (env : GatewayEnvironment) (text : JsonText) (uuids : UuidSource)
    (endpoints : ApiEndpoints) (settings : Settings) (uuidsDrawn : ℕ) (calls : List SecureServersRepository.Call)
    (serverId wireGuardClientPrivKey : String) (exchange : ℕ → Exchange) :
    let r := (create uuids endpoints settings uuidsDrawn).runCalls uuids endpoints calls
    let result := updateServiceFromGateway env text endpoints r serverId wireGuardClientPrivKey exchange
    (result.1 ≠ .noError → result.1 ≠ .apiSubscriptionExpiredError → result.2 = r) ∧
      (result.1 = .noError → ∃ old config new, apiV2Config text endpoints r serverId = some old ∧
        refreshed env text old wireGuardClientPrivKey (executeRequest env exchange).2 = .ok config ∧
        result.2.serverJsonById serverId = some (embedStorageServerId serverId (config.toJson text)) ∧
        (∀ id ≠ serverId, result.2.serverJsonById id = r.serverJsonById id) ∧
        result.2.orderedServerIds = r.orderedServerIds ∧ result.2.defaultServerId = r.defaultServerId ∧
        result.2.serverKind endpoints serverId = r.serverKind endpoints serverId ∧
        apiV2Config text endpoints result.2 serverId = some new ∧ old.KeepsOwn new) := by
  intro r result
  have hr : r.WellFormed := reached_wellFormed uuids endpoints settings uuidsDrawn calls
  rcases updateServiceFromGateway_cases env text endpoints r serverId wireGuardClientPrivKey exchange with
    ⟨herror, hkept⟩ | ⟨old, config, hold, hrefreshed, hresult⟩
  · exact ⟨fun _ => hkept, fun h => absurd h herror⟩
  · obtain ⟨json, hjson, hapi, rfl⟩ := exists_json_of_apiV2Config text endpoints hold
    have hstored : result.2 = store text endpoints r serverId config := congrArg Prod.snd hresult
    obtain ⟨hmap, horder, hdefault⟩ := store_spec text endpoints hr hjson config
    rw [← hstored] at hmap horder hdefault
    have hhere : result.2.serverJsonById serverId = some (embedStorageServerId serverId (config.toJson text)) := by
      rw [hmap, Function.update_self]
    have hstripped := withoutStorageServerId_toJson_apiV2 text config
    have hkind : configTypeFromJson endpoints (config.toJson text) =
        configTypeFromJson endpoints (withoutStorageServerId json) := by
      rw [← hstripped]
      exact configTypeFromJson_toJson_apiV2
        (ofKind_refreshed (ofKind_of_isApiV2Subscription hapi) hrefreshed)
    obtain ⟨new, rfl, -⟩ := refreshed_spec hrefreshed
    refine ⟨fun h => absurd (congrArg Prod.fst hresult) h, fun _ => ⟨_, _, _, hold, hrefreshed, hhere, ?_, horder,
      hdefault, ?_, ?_, keepsOwn_fromJson_toJson text (withoutStorageServerId json) new⟩⟩
    · intro id hid
      rw [hmap, Function.update_of_ne hid]
    · rw [serverKind, serverKind, hhere, hjson]
      dsimp only
      rw [withoutStorageServerId_embedStorageServerId, hstripped, hkind]
    · rw [apiV2Config, configOfKind, hhere]
      dsimp only
      rw [withoutStorageServerId_embedStorageServerId, hstripped, hkind, hapi, if_pos rfl]

/-! ### A refreshed server -/

def replyBody : List UInt8 := SubscriptionCall.asciiBytes "\x7b\"config\":\"vpn://eyJjb25maWdfdmVyc2lvbiI6Mn0=\"\x7d"

/-- What the configuration of the reply is the Base64 text of. -/
def replyConfig : List UInt8 := SubscriptionCall.asciiBytes "\x7b\"config_version\":2\x7d"

/-- An environment whose cipher adds a tag of zeros, and that reads this reply. -/
def sealedEnvironment : GatewayEnvironment where
  aesGcmOpen ctAndTag _ _ :=
    if ctAndTag.drop (ctAndTag.length - kGcmTagLen) = List.replicate kGcmTagLen 0 then
      some (ctAndTag.take (ctAndTag.length - kGcmTagLen))
    else none
  fromJson body :=
    if body = replyBody then [("config", .string "vpn://eyJjb25maWdfdmVyc2lvbiI6Mn0=")]
    else if body = replyConfig then [("config_version", .double 2)]
    else []
  toJson _ := []
  fromUtf8 bytes := String.ofList (bytes.map fun b => Char.ofNat b.toNat)
  toUtf8 := SubscriptionCall.asciiBytes
  qUncompress _ := []

def sealedExchange (_attempt : ℕ) : Exchange where
  prepareError := .noError
  key := List.replicate 32 7
  reply := { sslErrors := false, error := .noError, httpStatusCode := 200,
             body := List.replicate kNonceLen 0 ++ replyBody ++ List.replicate kGcmTagLen 0 }

def renamedServer (crc : ℚ) : JsonObject :=
  [("api_config", .object [("service_type", .string "amnezia-premium"), ("vpn_key", .string "vpn://k")]),
    ("auth_data", .object [("api_key", .string "a")]), ("config_version", .double 2), ("crc", .double crc),
    ("name", .string "mine"), ("nameOverriddenByUser", .bool true)]

/-- The renamed server is refreshed and keeps its name. -/
theorem refresh_keeps_name :
    let r := repositoryWith (renamedServer 7) .amneziaPremiumV2
    let result := updateServiceFromGateway sealedEnvironment .tokens buildEndpoints r "s" "k" sealedExchange
    result.1 = .noError ∧ ∃ old new, apiV2Config .tokens buildEndpoints r "s" = some old ∧
      apiV2Config .tokens buildEndpoints result.2 "s" = some new ∧ old.KeepsOwn new := by
  intro r result
  have hsuccess : result.1 = .noError := by decide +kernel
  obtain ⟨old, config, new, hold, -, -, -, -, -, -, hnew, hkeeps⟩ :=
    (refresh_changes_only_server sealedEnvironment .tokens .longest buildEndpoints ⟨[], "", 0⟩ 0
      [.addServer "s" (renamedServer 7) .amneziaPremiumV2] "s" "k" sealedExchange).2 hsuccess
  exact ⟨hsuccess, old, new, hold, hnew, hkeeps⟩

/-- A negative checksum is not written, so it is zero after the refresh. -/
theorem refresh_loses_negative_checksum :
    let r := repositoryWith (renamedServer (-5)) .amneziaPremiumV2
    let result := updateServiceFromGateway sealedEnvironment .tokens buildEndpoints r "s" "k" sealedExchange
    let crc (r : SecureServersRepository) := (apiV2Config .tokens buildEndpoints r "s").map crc
    result.1 = .noError ∧ crc r = some (-5) ∧ crc result.2 = some 0 := by
  decide +kernel

end SubscriptionController

end FreshVpn
