import FreshVpn.XrayIdentity

/-! The two sides of an Xray configuration. -/

namespace FreshVpn

open JsonObject Json XrayStream

namespace JsonObject

theorem value_insertText_self (object : JsonObject) (key value : String) :
    (object.insertText key value).value key = if value = "" then object.value key else some (.string value) := by
  unfold insertText
  split_ifs
  · rfl
  · rw [value_insert_self]

theorem value_insertText_of_ne (object : JsonObject) {key key' : String} (hne : key' ≠ key) (value : String) :
    (object.insertText key value).value key' = object.value key' := by
  unfold insertText
  split_ifs
  · rfl
  · rw [value_insert_of_ne _ hne]

theorem value_remove_self (object : JsonObject) (key : String) : (object.remove key).value key = none := by
  rw [← Option.not_isSome_iff_eq_none, ← mem_keys_iff]
  intro hmem
  obtain ⟨member, hmember, hkey⟩ := List.mem_map.mp hmem
  have hne := (List.mem_filter.mp hmember).2
  rw [hkey, bne_self_eq_false] at hne
  cases hne

end JsonObject

namespace XrayConfigurator

/-! ### Reading the configurations -/

def firstInbound (serverConfig : JsonObject) : JsonObject := (firstObject serverConfig "inbounds").getD []

def realityOf (bound : JsonObject) : JsonObject :=
  toObject ((toObject (bound.value "streamSettings")).value "realitySettings")

def clientsOf (inbound : JsonObject) : List JsonObject :=
  (toArray ((toObject (inbound.value "settings")).value "clients")).map fun v => toObject (some v)

def writtenClient (appendNewClient : Bool) (inbound : JsonObject) : Option JsonObject :=
  if appendNewClient then (clientsOf inbound).getLast? else (clientsOf inbound).head?

/-- The user of the first outbound of a client. -/
def outboundUser (outbound : JsonObject) : Option JsonObject := do
  let vnextEntry ← firstObject (toObject (outbound.value "settings")) "vnext"
  firstObject vnextEntry "users"

/-! ### The server's side -/

variable {srv : XrayServerConfig} {appendNewClient : Bool} {uuid clientId : String}

/-- What an optional flow is written as. -/
def flowMember (flow : String) : Option Json := if flow = "" then none else some (.string flow)

theorem value_flow_withFlow (flow : String) (client : JsonObject) :
    (withFlow flow client).value "flow" = flowMember flow := by
  unfold withFlow flowMember
  split_ifs
  · rw [value_remove_self]
  · rw [value_insert_self]

theorem value_id_withFlow (flow : String) (client : JsonObject) :
    (withFlow flow client).value "id" = client.value "id" := by
  unfold withFlow
  split_ifs
  · rw [value_remove_of_ne _ (by decide)]
  · rw [value_insert_of_ne _ (by decide)]

theorem updatedClients_written {clients clients' : List Json}
    (h : updatedClients srv appendNewClient uuid clients = .ok (clients', clientId)) :
    ∃ entry : JsonObject,
      (if appendNewClient then (clients'.map fun v => toObject (some v)).getLast?
        else (clients'.map fun v => toObject (some v)).head?) = some entry ∧
      Json.toString (entry.value "id") = clientId ∧ entry.value "flow" = flowMember (flowValue srv) := by
  cases appendNewClient with
  | true =>
    cases h
    refine ⟨(insert [] "id" (.string uuid)).insertText "flow" (flowValue srv), ?_, ?_, ?_⟩
    · rw [if_pos rfl, List.map_append, List.map_singleton, List.getLast?_concat]
      rfl
    · rw [value_insertText_of_ne _ (by decide), value_insert_self]
      rfl
    · rw [value_insertText_self, value_insert_of_ne _ (by decide)]
      rfl
  | false =>
    cases clients with
    | nil => cases h
    | cons first others =>
      unfold updatedClients at h
      rw [if_neg Bool.false_ne_true] at h
      dsimp only at h
      split_ifs at h
      cases h
      refine ⟨withFlow (flowValue srv) (toObject (some first)), rfl, ?_, value_flow_withFlow _ _⟩
      rw [value_id_withFlow]

theorem realityOf_merged (hreality : srv.member "xray_security" = "reality") (existing : JsonObject) :
    toObject ((mergeStreamSettingsForServerInbound srv existing).value "realitySettings") =
      mergeRealitySettings srv (XrayStream.realitySettings srv)
        (toObject (existing.value "realitySettings")) := by
  rw [mergeStreamSettingsForServerInbound, if_neg (not_not.mpr hreality), value_insert_self,
    value_realitySettings, if_pos hreality]
  rfl

theorem realityOf_not_merged (hreality : srv.member "xray_security" ≠ "reality") (existing : JsonObject) :
    toObject ((mergeStreamSettingsForServerInbound srv existing).value "realitySettings") = [] := by
  rw [mergeStreamSettingsForServerInbound, if_pos hreality, value_realitySettings, if_neg hreality]
  rfl

theorem value_streamSettings_inboundWithSettings (srv : XrayServerConfig) (inbound : JsonObject) :
    (inboundWithSettings srv inbound).value "streamSettings" =
      some (.object (mergeStreamSettingsForServerInbound srv (toObject (inbound.value "streamSettings")))) := by
  unfold inboundWithSettings
  split_ifs
  · rw [value_insert_self]
  · rw [value_insert_of_ne _ (by decide), value_insert_self]

theorem clientsOf_insert (inbound settings : JsonObject) (clients : List Json) :
    clientsOf (inbound.insert "settings" (.object (settings.insert "clients" (.array clients)))) =
      clients.map fun v => toObject (some v) := by
  have hsettings : toObject ((inbound.insert "settings" (.object (settings.insert "clients"
      (.array clients)))).value "settings") = settings.insert "clients" (.array clients) := by
    rw [value_insert_self]
    rfl
  rw [clientsOf, hsettings, value_insert_self]
  rfl

variable {inbound inbound' serverConfig' : JsonObject}

theorem updatedInbound_eq_ok (h : updatedInbound srv appendNewClient uuid inbound = .ok (inbound', clientId)) :
    (toObject (inbound'.value "streamSettings") =
      mergeStreamSettingsForServerInbound srv (toObject (inbound.value "streamSettings"))) ∧
      ∃ entry, writtenClient appendNewClient inbound' = some entry ∧ Json.toString (entry.value "id") = clientId ∧
        entry.value "flow" = flowMember (flowValue srv) := by
  unfold updatedInbound at h
  split_ifs at h with hsettings
  dsimp only at h
  split at h
  next error herror => cases h
  next clients clientId' hclients =>
    cases h
    obtain ⟨entry, hentry, hid, hflow⟩ := updatedClients_written hclients
    refine ⟨?_, entry, ?_, hid, hflow⟩
    · rw [value_insert_of_ne _ (by decide), value_streamSettings_inboundWithSettings]
      rfl
    · rw [writtenClient, clientsOf_insert]
      exact hentry

theorem updatedServerConfig_eq_ok {serverConfig : JsonObject}
    (h : updatedServerConfig srv appendNewClient uuid serverConfig = .ok (serverConfig', clientId)) :
    updatedInbound srv appendNewClient uuid (firstInbound serverConfig) =
      .ok (firstInbound serverConfig', clientId) := by
  unfold updatedServerConfig at h
  split_ifs at h with hinbounds
  split at h
  next hnil => cases h
  next first others hcons =>
    split at h
    next error herror => cases h
    next inbound clientId' hinbound =>
      cases h
      have hbefore : firstInbound serverConfig = toObject (some first) := by
        rw [firstInbound, firstObject, hcons]
        rfl
      have hafter : firstInbound (serverConfig.insert "inbounds" (.array (.object inbound :: others))) = inbound := by
        rw [firstInbound, firstObject, value_insert_self]
        rfl
      rw [hbefore, hafter, hinbound]

theorem value_insert_if_missing {p : Prop} [Decidable p] (object : JsonObject) {key other : String}
    (hne : other ≠ key) (json : Json) :
    (if p then object else object.insert key json).value other = object.value other := by
  split_ifs
  · rfl
  · rw [value_insert_of_ne _ hne]

theorem value_serverNames_merged (srv : XrayServerConfig) (newRs oldRs : JsonObject) :
    (mergeRealitySettings srv newRs oldRs).value "serverNames" =
      some (.array [.string (orDefault (srv.member "xray_sni")
        (orDefault (srv.member "site") "www.googletagmanager.com"))]) := by
  unfold mergeRealitySettings
  rw [value_insert_if_missing _ (by decide), value_insert_self]

/-! ### The client's side -/

def firstOutbound (document : JsonObject) : JsonObject := (firstObject document "outbounds").getD []

theorem firstOutbound_clientJson (hostName : String) (srv : XrayServerConfig) (clientId publicKey shortId : String) :
    firstOutbound (clientJson hostName srv clientId publicKey shortId) =
      clientOutbound hostName srv clientId publicKey shortId := by
  rfl

theorem outboundUser_clientOutbound (hostName : String) (srv : XrayServerConfig)
    (clientId publicKey shortId : String) :
    outboundUser (clientOutbound hostName srv clientId publicKey shortId) = some (userObject srv clientId) := by
  have husers : firstObject (vnextEntry hostName srv clientId) "users" = some (userObject srv clientId) := by
    rfl
  exact husers

theorem value_flow_userObject (srv : XrayServerConfig) (clientId : String) :
    (userObject srv clientId).value "flow" = flowMember (srv.member "xray_flow") := by
  rw [userObject, value_insertText_self, value_insert_of_ne _ (by decide),
    value_insert_of_ne _ (by decide)]
  rfl

theorem value_id_userObject (srv : XrayServerConfig) (clientId : String) :
    (userObject srv clientId).value "id" = some (.string clientId) := by
  rw [userObject, value_insertText_of_ne _ (by decide), value_insert_of_ne _ (by decide),
    value_insert_self]

theorem realityOf_clientOutbound (hreality : srv.member "xray_security" = "reality")
    (hostName clientId publicKey shortId : String) :
    realityOf (clientOutbound hostName srv clientId publicKey shortId) =
      ((XrayStream.realitySettings srv).insert "publicKey" (.string publicKey)
        |>.insert "shortId" (.string shortId) |>.insert "spiderX" (.string "")) := by
  change toObject ((outboundStream srv publicKey shortId).value "realitySettings") = _
  rw [outboundStream, if_pos hreality, value_insert_self, value_realitySettings, if_pos hreality]
  rfl

theorem value_serverName_clientOutbound (hreality : srv.member "xray_security" = "reality")
    (hostName clientId publicKey shortId : String) :
    (realityOf (clientOutbound hostName srv clientId publicKey shortId)).value "serverName" =
      some (.string (orDefault (srv.member "xray_sni") "cdn.example.com")) := by
  rw [realityOf_clientOutbound hreality, value_insert_of_ne _ (by decide),
    value_insert_of_ne _ (by decide), value_insert_of_ne _ (by decide),
    realitySettings, value_insert_self]

/-! ### Agreement -/

/-- The user of the client's outbound is the client that the call has written, both have the same flow or none, and
with reality the name that the client asks for is one of the server's. -/
def Agrees (srv : XrayServerConfig) (appendNewClient : Bool) (inbound outbound : JsonObject) : Prop :=
  ∃ entry user, writtenClient appendNewClient inbound = some entry ∧ outboundUser outbound = some user ∧
    Json.toString (user.value "id") = Json.toString (entry.value "id") ∧
    user.value "flow" = entry.value "flow" ∧
    (srv.member "xray_security" = "reality" → ∃ name, (realityOf outbound).value "serverName" = some (.string name) ∧
      Json.string name ∈ toArray ((realityOf inbound).value "serverNames"))

theorem flowMember_inj {flow flow' : String} : flowMember flow = flowMember flow' ↔ flow = flow' := by
  unfold flowMember
  constructor
  · intro h
    split_ifs at h with hflow hflow'
    · rw [hflow, hflow']
    · cases h
      rfl
  · rintro rfl
    rfl

theorem flowValue_eq_iff (srv : XrayServerConfig) :
    srv.member "xray_flow" = flowValue srv ↔
      (srv.member "xray_security" = "reality" → srv.member "xray_flow" ≠ "") := by
  unfold flowValue
  split_ifs with h
  · rw [h.1]
    exact iff_of_false (by decide) fun himp => himp h.2 rfl
  · exact iff_of_true rfl fun hreality hflow => h ⟨hflow, hreality⟩

theorem orDefault_eq_iff (sni site : String) :
    orDefault sni "cdn.example.com" = orDefault sni (orDefault site "www.googletagmanager.com") ↔
      sni ≠ "" ∨ site = "cdn.example.com" := by
  unfold orDefault
  by_cases hsni : sni = ""
  · rw [if_pos hsni, if_pos hsni]
    by_cases hsite : site = ""
    · rw [if_pos hsite, hsite, hsni]
      decide
    · rw [if_neg hsite, eq_comm]
      exact ⟨Or.inr, fun h => h.resolve_left (not_not.mpr hsni)⟩
  · rw [if_neg hsni, if_neg hsni]
    exact iff_of_true rfl (Or.inl hsni)

/-- The two sides agree on what is written for a client, exactly if reality finds a flow and a name. -/
theorem agrees_iff (h : updatedInbound srv appendNewClient uuid inbound = .ok (inbound', clientId))
    (hostName publicKey shortId : String) :
    Agrees srv appendNewClient inbound' (clientOutbound hostName srv clientId publicKey shortId) ↔
      (srv.member "xray_security" = "reality" → srv.member "xray_flow" ≠ "" ∧
        (srv.member "xray_sni" ≠ "" ∨ srv.member "site" = "cdn.example.com")) := by
  obtain ⟨hstream, entry, hentry, hid, hflow⟩ := updatedInbound_eq_ok h
  have huser := outboundUser_clientOutbound hostName srv clientId publicKey shortId
  have hflows : (userObject srv clientId).value "flow" = entry.value "flow" ↔
      (srv.member "xray_security" = "reality" → srv.member "xray_flow" ≠ "") := by
    rw [value_flow_userObject, hflow, flowMember_inj, flowValue_eq_iff]
  have hnames : srv.member "xray_security" = "reality" →
      ((∃ name, (realityOf (clientOutbound hostName srv clientId publicKey shortId)).value "serverName" =
          some (.string name) ∧ string name ∈ toArray ((realityOf inbound').value "serverNames")) ↔
        srv.member "xray_sni" ≠ "" ∨ srv.member "site" = "cdn.example.com") := by
    intro hreality
    rw [value_serverName_clientOutbound hreality, realityOf, hstream, realityOf_merged hreality,
      value_serverNames_merged, ← orDefault_eq_iff]
    simp [toArray]
  constructor
  · rintro ⟨entry', user', hentry', huser', -, hflow', hname'⟩ hreality
    cases hentry.symm.trans hentry'
    cases huser.symm.trans huser'
    exact ⟨hflows.mp hflow' hreality, (hnames hreality).mp (hname' hreality)⟩
  · intro hcond
    refine ⟨entry, userObject srv clientId, hentry, huser, ?_, ?_, fun hreality => ?_⟩
    · rw [value_id_userObject, hid]
      rfl
    · exact hflows.mpr fun hreality => (hcond hreality).1
    · exact (hnames hreality).mpr (hcond hreality).2

/-! ### Calls -/

def Writes (srv : XrayServerConfig) (appendNewClient : Bool) (uuid clientId : String) (server server' : XrayServer) :
    Prop :=
  ∃ serverConfig serverConfig', server.serverJson = some serverConfig ∧
    updatedServerConfig srv appendNewClient uuid serverConfig = .ok (serverConfig', clientId) ∧
    server' = { server with serverJson := some serverConfig' }

theorem writes_of_preparedConfig {server : XrayServer} {answers : XrayAnswers}
    (h : preparedConfig server answers srv appendNewClient = .ok (serverConfig', clientId)) :
    Writes srv appendNewClient answers.uuid clientId server { server with serverJson := some serverConfig' } := by
  unfold preparedConfig at h
  split_ifs at h with hread
  cases hjson : server.serverJson with
  | none =>
    rw [hjson] at h
    cases h
  | some serverConfig =>
    rw [hjson] at h
    exact ⟨serverConfig, serverConfig', hjson, h, rfl⟩

variable {text : JsonText} {hostName : String} {server : XrayServer} {answers : XrayAnswers} {c : XrayProtocolConfig}
  {appendNewClient : Bool}

/-- What a call does: it leaves the server as it is, and gives back an id only for a third-party configuration; or it
writes the settings for the client whose id it may give back. -/
theorem applyServerSettingsToRemote_cases (text : JsonText) (hostName : String) (server : XrayServer)
    (answers : XrayAnswers) (c : XrayProtocolConfig) (appendNewClient : Bool) :
    ((applyServerSettingsToRemote text hostName server answers (some c) appendNewClient).server = server ∧
      ((c.serverConfig.members ConfigKey.isThirdPartyConfig).asFlag = true ∨
        (applyServerSettingsToRemote text hostName server answers (some c) appendNewClient).outClientId = none)) ∨
    ∃ clientId, Writes c.serverConfig appendNewClient answers.uuid clientId server
        (applyServerSettingsToRemote text hostName server answers (some c) appendNewClient).server ∧
      ∀ outClientId, (applyServerSettingsToRemote text hostName server answers (some c) appendNewClient).outClientId =
        some outClientId → outClientId = clientId := by
  unfold applyServerSettingsToRemote
  dsimp only
  by_cases hthird : (c.serverConfig.members ConfigKey.isThirdPartyConfig).asFlag = true
  · rw [if_pos hthird]
    exact Or.inl ⟨rfl, Or.inl hthird⟩
  rw [if_neg hthird]
  cases prefetchedKeys server answers c.serverConfig with
  | error errorCode => exact Or.inl ⟨rfl, Or.inr rfl⟩
  | ok keys =>
    cases hprepared : preparedConfig server answers c.serverConfig appendNewClient with
    | error errorCode => exact Or.inl ⟨rfl, Or.inr rfl⟩
    | ok prepared =>
      obtain ⟨serverConfig', clientId⟩ := prepared
      have hwrites := writes_of_preparedConfig hprepared
      dsimp only
      split_ifs with hupload hrestart
      · exact Or.inl ⟨rfl, Or.inr rfl⟩
      · exact Or.inr ⟨clientId, hwrites, fun outClientId hout => by cases hout⟩
      · refine Or.inr ⟨clientId, ?_⟩
        cases buildClientProtocolConfig text hostName { server with serverJson := some serverConfig' } answers
            c.serverConfig clientId keys with
        | error | ok => exact ⟨hwrites, fun outClientId hout => (Option.some.inj hout).symm⟩

theorem writes_of_outClientId (hown : (c.serverConfig.members ConfigKey.isThirdPartyConfig).asFlag = false)
    (hid : (applyServerSettingsToRemote text hostName server answers (some c) appendNewClient).outClientId =
      some clientId) :
    Writes c.serverConfig appendNewClient answers.uuid clientId server
      (applyServerSettingsToRemote text hostName server answers (some c) appendNewClient).server := by
  rcases applyServerSettingsToRemote_cases text hostName server answers c appendNewClient with
    ⟨-, hthird | hnone⟩ | ⟨clientId', hwrites, hout⟩
  · rw [hown] at hthird
    cases hthird
  · rw [hid] at hnone
    cases hnone
  · rw [hout clientId hid]
    exact hwrites

end XrayConfigurator

def newServer : XrayServer where
  serverJson := some
    [("inbounds", .array [.object [("port", .int 443), ("protocol", .string "vless"),
        ("settings", .object [("clients", .array [.object [("flow", .string "xtls-rprx-vision"),
          ("id", .string "2b9e1c55-3d0f-4c8e-8b57-c1f0a6d4e733")]]), ("decryption", .string "none")]),
        ("streamSettings", .object [("network", .string "tcp"),
          ("realitySettings", .object [("dest", .string "www.googletagmanager.com:443"), ("privateKey", .string "K"),
            ("serverNames", .array [.string "www.googletagmanager.com"]), ("shortIds", .array [.string "5a"])]),
          ("security", .string "reality")])]]),
      ("log", .object [("loglevel", .string "error")]),
      ("outbounds", .array [.object [("protocol", .string "freedom")]])]
  publicKeyFile := "P\n"
  shortIdFile := "5a\n"

namespace XrayConfigurator

/-- **Client and server agree.** After a call that gives back the id of a client, the configuration generated for this
client agrees with the inbound of the server, exactly if with reality the settings have a flow, and a server name or
the default of the client as the site. -/
theorem client_and_server_agree_iff (text : JsonText) (hostName : String) (server : XrayServer)
    (answers : XrayAnswers) (c : XrayProtocolConfig) (appendNewClient : Bool) (clientId publicKey shortId : String)
    (hown : (c.serverConfig.members ConfigKey.isThirdPartyConfig).asFlag = false)
    (hid : (applyServerSettingsToRemote text hostName server answers (some c) appendNewClient).outClientId =
      some clientId) :
    ∃ serverConfig, (applyServerSettingsToRemote text hostName server answers (some c) appendNewClient).server.serverJson =
        some serverConfig ∧
      (Agrees c.serverConfig appendNewClient (firstInbound serverConfig)
          (firstOutbound (clientJson hostName c.serverConfig clientId publicKey shortId)) ↔
        (c.serverConfig.member "xray_security" = "reality" → c.serverConfig.member "xray_flow" ≠ "" ∧
          (c.serverConfig.member "xray_sni" ≠ "" ∨ c.serverConfig.member "site" = "cdn.example.com"))) := by
  obtain ⟨serverConfig, serverConfig', -, hupdated, hserver⟩ := writes_of_outClientId hown hid
  refine ⟨serverConfig', ?_, ?_⟩
  · rw [hserver]
  · exact agrees_iff (updatedServerConfig_eq_ok hupdated) hostName publicKey shortId

theorem new_client_agrees :
    ∃ serverConfig, (applyServerSettingsToRemote .tokens "203.0.113.7" newServer (.success newClientId)
        (some ⟨newServerSettings, none, false⟩) true).server.serverJson = some serverConfig ∧
      Agrees newServerSettings true (firstInbound serverConfig)
        (firstOutbound (clientJson "203.0.113.7" newServerSettings newClientId "P" "5a")) := by
  obtain ⟨serverConfig, hserver, hagrees⟩ := client_and_server_agree_iff .tokens "203.0.113.7" newServer
    (.success newClientId) ⟨newServerSettings, none, false⟩ true newClientId "P" "5a" (by decide) (by decide +kernel)
  exact ⟨serverConfig, hserver, hagrees.mpr fun _ => ⟨by decide +kernel, Or.inl (by decide +kernel)⟩⟩

/-- A new client of a server with reality that has no flow in its settings has none, although the server wants one for
it; and without a server name it asks for a name that the server does not have. -/
theorem new_client_disagrees :
    (∃ serverConfig, (applyServerSettingsToRemote .tokens "203.0.113.7" newServer (.success newClientId)
        (some ⟨newServerSettings.setMember "xray_flow" "", none, false⟩) true).server.serverJson = some serverConfig ∧
      ¬ Agrees (newServerSettings.setMember "xray_flow" "") true (firstInbound serverConfig) (firstOutbound
        (clientJson "203.0.113.7" (newServerSettings.setMember "xray_flow" "") newClientId "P" "5a"))) ∧
    ∃ serverConfig, (applyServerSettingsToRemote .tokens "203.0.113.7" newServer (.success newClientId)
        (some ⟨newServerSettings.setMember "xray_sni" "", none, false⟩) true).server.serverJson = some serverConfig ∧
      ¬ Agrees (newServerSettings.setMember "xray_sni" "") true (firstInbound serverConfig) (firstOutbound
        (clientJson "203.0.113.7" (newServerSettings.setMember "xray_sni" "") newClientId "P" "5a")) := by
  have hdisagrees : ∀ srv : XrayServerConfig, (srv.members ConfigKey.isThirdPartyConfig).asFlag = false →
      (applyServerSettingsToRemote .tokens "203.0.113.7" newServer (.success newClientId) (some ⟨srv, none, false⟩)
        true).outClientId = some newClientId → srv.member "xray_security" = "reality" →
      ¬ (srv.member "xray_flow" ≠ "" ∧ (srv.member "xray_sni" ≠ "" ∨ srv.member "site" = "cdn.example.com")) →
      ∃ serverConfig, (applyServerSettingsToRemote .tokens "203.0.113.7" newServer (.success newClientId)
          (some ⟨srv, none, false⟩) true).server.serverJson = some serverConfig ∧
        ¬ Agrees srv true (firstInbound serverConfig)
          (firstOutbound (clientJson "203.0.113.7" srv newClientId "P" "5a")) := by
    intro srv hown hid hreality hcond
    obtain ⟨serverConfig, serverConfig', -, hupdated, hserver⟩ := writes_of_outClientId hown hid
    refine ⟨serverConfig', by rw [hserver], ?_⟩
    rw [firstOutbound_clientJson, agrees_iff (updatedServerConfig_eq_ok hupdated)]
    exact fun himp => hcond (himp hreality)
  exact ⟨hdisagrees _ (by decide +kernel) (by decide +kernel) (by decide +kernel) (by decide +kernel),
    hdisagrees _ (by decide +kernel) (by decide +kernel) (by decide +kernel) (by decide +kernel)⟩

end XrayConfigurator

end FreshVpn
