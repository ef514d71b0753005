import FreshVpn.XrayReality

/-! The profile of this device after a change of the settings. A call that appends no client generates the
configuration for the first client in the inbound; the profile that is stored plays no part in it. -/

namespace FreshVpn

namespace XrayConfigurator

variable {server : XrayServer} {srv : XrayServerConfig} {answers : XrayAnswers}
  {errorCode : ErrorCode} {appendNewClient : Bool}

/-! ### Calls that succeed -/

theorem readRealityKeyFiles_error (h : readRealityKeyFiles server answers = .error errorCode) :
    errorCode ≠ .noError := by
  rcases readRealityKeyFiles_cases server answers with hfailed | ⟨hok, -⟩
  · cases hfailed.symm.trans h
    decide
  · cases hok.symm.trans h

theorem prefetchedKeys_error (h : prefetchedKeys server answers srv = .error errorCode) : errorCode ≠ .noError := by
  unfold prefetchedKeys at h
  split_ifs at h
  exact readRealityKeyFiles_error h

theorem updatedClients_error {uuid : String} {clients : List Json}
    (h : updatedClients srv appendNewClient uuid clients = .error errorCode) : errorCode ≠ .noError := by
  unfold updatedClients at h
  split_ifs at h
  cases clients with
  | nil =>
    cases h
    decide
  | cons first others =>
    dsimp only at h
    split_ifs at h
    cases h
    decide

theorem updatedServerConfig_error {uuid : String} {serverConfig : JsonObject}
    (h : updatedServerConfig srv appendNewClient uuid serverConfig = .error errorCode) : errorCode ≠ .noError := by
  unfold updatedServerConfig updatedInbound at h
  split_ifs at h
  · cases h
    decide
  split at h
  next =>
    cases h
    decide
  next first others hcons =>
    split_ifs at h
    · cases h
      decide
    dsimp only at h
    split at h
    next error hinbound =>
      cases h
      split at hinbound
      next error' hclients =>
        cases hinbound
        exact updatedClients_error hclients
      next => cases hinbound
    next => cases h

theorem preparedConfig_error (h : preparedConfig server answers srv appendNewClient = .error errorCode) :
    errorCode ≠ .noError := by
  unfold preparedConfig at h
  split_ifs at h with hread
  · cases h
    exact hread
  cases hjson : server.serverJson with
  | none =>
    rw [hjson] at h
    cases h
    decide
  | some serverConfig =>
    rw [hjson] at h
    exact updatedServerConfig_error h

theorem buildClientProtocolConfig_error {text : JsonText} {hostName : String} {clientId : String}
    {prefetched : String × String}
    (h : buildClientProtocolConfig text hostName server answers srv clientId prefetched = .error errorCode) :
    errorCode ≠ .noError := by
  cases hkeys : clientKeys server answers srv prefetched with
  | error errorCode' =>
    rw [buildClientProtocolConfig, hkeys] at h
    cases h
    unfold clientKeys at hkeys
    split_ifs at hkeys
    exact readRealityKeyFiles_error hkeys
  | ok keys =>
    rw [buildClientProtocolConfig_of_keys hkeys] at h
    cases h

theorem built_of_noError {text : JsonText} {hostName : String} {c : XrayProtocolConfig}
    (hown : (c.serverConfig.members ConfigKey.isThirdPartyConfig).asFlag = false)
    (hsuccess : (applyServerSettingsToRemote text hostName server answers (some c) appendNewClient).errorCode =
      .noError) :
    ∃ clientId publicKey shortId,
      Writes c.serverConfig appendNewClient answers.uuid clientId server
        (applyServerSettingsToRemote text hostName server answers (some c) appendNewClient).server ∧
      (applyServerSettingsToRemote text hostName server answers (some c) appendNewClient).protocolConfig =
        some (built c.serverConfig (text.compact (clientJson hostName c.serverConfig clientId publicKey shortId))
          clientId) := by
  unfold applyServerSettingsToRemote at hsuccess ⊢
  dsimp only at hsuccess ⊢
  rw [if_neg (Bool.eq_false_iff.mp hown)] at hsuccess ⊢
  cases hkeys : prefetchedKeys server answers c.serverConfig with
  | error errorCode =>
    rw [hkeys] at hsuccess
    exact absurd hsuccess (prefetchedKeys_error hkeys)
  | ok keys =>
    rw [hkeys] at hsuccess
    cases hprepared : preparedConfig server answers c.serverConfig appendNewClient with
    | error errorCode =>
      rw [hprepared] at hsuccess
      exact absurd hsuccess (preparedConfig_error hprepared)
    | ok prepared =>
      obtain ⟨serverConfig', clientId⟩ := prepared
      have hwrites := writes_of_preparedConfig hprepared
      rw [hprepared] at hsuccess
      dsimp only at hsuccess ⊢
      by_cases hupload : answers.upload ≠ .noError
      · rw [if_pos hupload] at hsuccess
        exact absurd hsuccess hupload
      rw [if_neg hupload] at hsuccess ⊢
      by_cases hrestart : answers.restart ≠ .noError
      · rw [if_pos hrestart] at hsuccess
        exact absurd hsuccess hrestart
      rw [if_neg hrestart] at hsuccess ⊢
      cases hbuild : buildClientProtocolConfig text hostName { server with serverJson := some serverConfig' }
          answers c.serverConfig clientId keys with
      | error errorCode =>
        rw [hbuild] at hsuccess
        exact absurd hsuccess (buildClientProtocolConfig_error hbuild)
      | ok updated =>
        obtain ⟨publicKey, shortId, -, rfl⟩ := buildClientProtocolConfig_eq_ok hbuild
        exact ⟨clientId, publicKey, shortId, hwrites, rfl⟩

end XrayConfigurator

/-! ### The first client -/

open XrayConfigurator

def XrayServer.clientIds (server : XrayServer) : List String :=
  match server.serverJson with
  | none => []
  | some serverConfig =>
    (clientsOf (firstInbound serverConfig)).map fun client => Json.toString (client.value "id")

namespace XrayConfigurator

theorem value_settings_inboundWithSettings (srv : XrayServerConfig) (inbound : JsonObject) :
    (inboundWithSettings srv inbound).value "settings" = inbound.value "settings" := by
  unfold inboundWithSettings
  split_ifs
  · rw [JsonObject.value_insert_of_ne _ (by decide)]
  · rw [JsonObject.value_insert_of_ne _ (by decide), JsonObject.value_insert_of_ne _ (by decide)]

variable {srv : XrayServerConfig} {uuid clientId : String} {inbound inbound' : JsonObject}

theorem clientIds_of_updatedInbound (h : updatedInbound srv appendNewClient uuid inbound = .ok (inbound', clientId)) :
    ((clientsOf inbound').map fun client => Json.toString (client.value "id")) =
      ((clientsOf inbound).map fun client => Json.toString (client.value "id")) ++
        if appendNewClient then [uuid] else [] := by
  unfold updatedInbound at h
  split_ifs at h
  dsimp only at h
  rw [value_settings_inboundWithSettings] at h
  split at h
  next => cases h
  next clients clientId' hclients =>
    cases h
    rw [clientsOf_insert, clientsOf]
    cases appendNewClient with
    | true =>
      cases hclients
      simp [JsonObject.value_insertText_of_ne, Json.toString]
    | false =>
      generalize Json.toArray _ = list at hclients ⊢
      cases list with
      | nil => cases hclients
      | cons first others =>
        simp only [updatedClients, Bool.false_eq_true, if_false] at hclients
        split_ifs at hclients
        cases hclients
        simp [value_id_withFlow]

theorem head_of_updatedInbound (h : updatedInbound srv false uuid inbound = .ok (inbound', clientId)) :
    ((clientsOf inbound).map fun client => Json.toString (client.value "id")).head? = some clientId := by
  obtain ⟨-, entry, hentry, hid, -⟩ := updatedInbound_eq_ok h
  have hfirst : (clientsOf inbound').head? = some entry := hentry
  have hids := clientIds_of_updatedInbound h
  rw [if_neg Bool.false_ne_true, List.append_nil] at hids
  rw [← hids, List.head?_map, hfirst, Option.map_some, hid]

theorem Writes.head_clientIds {server server' : XrayServer}
    (h : Writes srv false uuid clientId server server') : server.clientIds.head? = some clientId := by
  obtain ⟨serverConfig, serverConfig', hjson, hupdated, -⟩ := h
  rw [XrayServer.clientIds, hjson]
  exact head_of_updatedInbound (updatedServerConfig_eq_ok hupdated)

/-! ### The identity of the profile -/

/-- The id of the user in the first outbound of a native configuration. -/
def outboundId (document : JsonObject) : Option String :=
  (outboundUser (firstOutbound document)).map fun user => Json.toString (user.value "id")

theorem outboundId_clientJson (hostName : String) (srv : XrayServerConfig) (clientId publicKey shortId : String) :
    outboundId (clientJson hostName srv clientId publicKey shortId) = some clientId := by
  rw [outboundId, firstOutbound_clientJson, outboundUser_clientOutbound, Option.map_some, value_id_userObject]
  rfl

/-- The profile is for the client with the id: this is the id that it stores, and the id in its native
configuration. -/
def IsFor (text : JsonText) (clientId : String) (c : XrayProtocolConfig) : Prop :=
  c.clientId = clientId ∧ ∃ document, c.nativeConfig = text.compact document ∧ outboundId document = some clientId

theorem isFor_built (text : JsonText) (hostName : String) (srv : XrayServerConfig)
    (clientId publicKey shortId clientId' : String) :
    IsFor text clientId' (built srv (text.compact (clientJson hostName srv clientId publicKey shortId)) clientId) ↔
      clientId = clientId' := by
  constructor
  · intro h
    exact h.1
  · rintro rfl
    exact ⟨rfl, _, rfl, outboundId_clientJson hostName srv clientId publicKey shortId⟩

end XrayConfigurator

def sharedServer : XrayServer :=
  (applyServerSettingsToRemote .tokens "203.0.113.7" newServer (.success newClientId)
    (some ⟨newServerSettings, none, false⟩) true).server

def serverWithoutClients : XrayServer :=
  ⟨some [("inbounds", .array [.object [("settings", .object [])]])], "P\n", "5a\n"⟩

def changedSettings : XrayServerConfig := newServerSettings.setMember "site" "www.example.com"

namespace XrayConfigurator

end XrayConfigurator

end FreshVpn
