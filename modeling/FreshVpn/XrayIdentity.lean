import FreshVpn.XrayConfigurator

/-! The identity of an Xray client over a restart. A generated client is saved as its native configuration alone, and
the decoder looks for an id only in the other form. -/

namespace FreshVpn

open XrayClientConfig JsonObject XrayProtocolConfig XrayConfigurator JsonText

namespace XrayProtocolConfig

variable {client : Record} {parsed : JsonObject} {c : XrayProtocolConfig}

/-- A text of the client configuration; empty if there is none. -/
def clientText (c : XrayProtocolConfig) (key : String) : String :=
  match c.clientConfig with
  | none => ""
  | some client => (client key).asText

def clientId (c : XrayProtocolConfig) : String := c.clientText "clientId"

def localPort (c : XrayProtocolConfig) : String := c.clientText "local_port"

def nativeConfig (c : XrayProtocolConfig) : String := c.clientText ConfigKey.config

def restarted (text : JsonText) (c : XrayProtocolConfig) : XrayProtocolConfig := fromJson text (c.toJson text)

/-- The id, the local port and the native configuration are the same after a restart. -/
def KeepsIdentity (text : JsonText) (c : XrayProtocolConfig) : Prop :=
  (c.restarted text).clientId = c.clientId ∧ (c.restarted text).localPort = c.localPort ∧
    (c.restarted text).nativeConfig = c.nativeConfig

/-! ### The native form -/

theorem clientText_of_some (h : c.clientConfig = some client) (key : String) :
    c.clientText key = (client key).asText := by
  rw [clientText, h]

section
variable (text : JsonText) (hclient : c.clientConfig = some client)
  (hparse : text.parse (XrayClientConfig.nativeConfig client) = some parsed) (hnative : isNative parsed = true)
include hclient hparse hnative

theorem clientConfig_restarted :
    (c.restarted text).clientConfig = some (ofNative (XrayClientConfig.nativeConfig client) parsed) := by
  rw [restarted, clientConfig_fromJson_toJson, hclient, Option.bind_some,
    ofLastConfig_toLastConfig_of_native text hparse hnative]

theorem restarted_of_native :
    (c.restarted text).clientId = "" ∧ (c.restarted text).localPort = localPortOf parsed ∧
      (c.restarted text).nativeConfig = c.nativeConfig := by
  have hrestarted := clientConfig_restarted text hclient hparse hnative
  refine ⟨?_, ?_, ?_⟩
  · rw [clientId, clientText_of_some hrestarted]
    rfl
  · rw [localPort, clientText_of_some hrestarted]
    rfl
  · rw [nativeConfig, nativeConfig, clientText_of_some hrestarted, clientText_of_some hclient]
    rfl

theorem keepsIdentity_iff_of_native : c.KeepsIdentity text ↔ c.clientId = "" ∧ c.localPort = localPortOf parsed := by
  obtain ⟨hid, hport, hconfig⟩ := restarted_of_native text hclient hparse hnative
  rw [KeepsIdentity, hid, hport]
  constructor
  · rintro ⟨hid', hport', -⟩
    exact ⟨hid'.symm, hport'.symm⟩
  · rintro ⟨hid', hport'⟩
    exact ⟨hid'.symm, hport'.symm, hconfig⟩

end

end XrayProtocolConfig

/-! ### What the configurator generates -/

namespace XrayConfigurator

theorem isNative_clientJson (hostName : String) (srv : XrayServerConfig) (clientId publicKey shortId : String) :
    isNative (clientJson hostName srv clientId publicKey shortId) = true := rfl

variable {text : JsonText} {hostName : String} {server : XrayServer} {answers : XrayAnswers} {srv : XrayServerConfig}
  {clientId : String} {prefetched : String × String} {c : XrayProtocolConfig}

/-- `QJsonDocument` reads a document back as it was written. -/
def ReadsBack (text : JsonText) (object : JsonObject) : Prop := text.parse (text.compact object) = some object

def built (srv : XrayServerConfig) (config clientId : String) : XrayProtocolConfig :=
  ⟨srv, some (clientConfig config clientId), false⟩

theorem clientId_built (srv : XrayServerConfig) (config clientId : String) :
    (built srv config clientId).clientId = clientId := rfl

theorem localPort_built (srv : XrayServerConfig) (config clientId : String) :
    (built srv config clientId).localPort = "10808" := rfl

theorem buildClientProtocolConfig_of_keys {publicKey shortId : String}
    (h : clientKeys server answers srv prefetched = .ok (publicKey, shortId)) :
    buildClientProtocolConfig text hostName server answers srv clientId prefetched =
      .ok (built srv (text.compact (clientJson hostName srv clientId publicKey shortId)) clientId) := by
  rw [buildClientProtocolConfig, h]
  rfl

theorem buildClientProtocolConfig_eq_ok
    (h : buildClientProtocolConfig text hostName server answers srv clientId prefetched = .ok c) :
    ∃ publicKey shortId, clientKeys server answers srv prefetched = .ok (publicKey, shortId) ∧
      c = built srv (text.compact (clientJson hostName srv clientId publicKey shortId)) clientId := by
  cases hkeys : clientKeys server answers srv prefetched with
  | error errorCode =>
    rw [buildClientProtocolConfig, hkeys] at h
    cases h
  | ok keys =>
    rw [buildClientProtocolConfig_of_keys hkeys] at h
    cases h
    exact ⟨keys.1, keys.2, rfl, rfl⟩

theorem restarted_built (text : JsonText) (srv : XrayServerConfig) {config : String} (clientId : String)
    {parsed : JsonObject} (hparse : text.parse config = some parsed)
    (hnative : isNative parsed = true) :
    ((built srv config clientId).restarted text).clientId = "" ∧
      ((built srv config clientId).restarted text).localPort = localPortOf parsed ∧
      ((built srv config clientId).restarted text).nativeConfig = (built srv config clientId).nativeConfig :=
  restarted_of_native text rfl hparse hnative

theorem restarted_of_built
    (hread : ∀ keys, clientKeys server answers srv prefetched = .ok keys →
      ReadsBack text (clientJson hostName srv clientId keys.1 keys.2))
    (h : buildClientProtocolConfig text hostName server answers srv clientId prefetched = .ok c) :
    c.clientId = clientId ∧ c.localPort = "10808" ∧ (c.restarted text).clientId = "" ∧
      (c.restarted text).localPort = "0" ∧ (c.restarted text).nativeConfig = c.nativeConfig := by
  obtain ⟨publicKey, shortId, hkeys, rfl⟩ := buildClientProtocolConfig_eq_ok h
  obtain ⟨hid, hport, hconfig⟩ := restarted_built text srv clientId (hread (publicKey, shortId) hkeys)
    (isNative_clientJson hostName srv clientId publicKey shortId)
  exact ⟨clientId_built _ _ _, localPort_built _ _ _, hid, hport, hconfig⟩

end XrayConfigurator

/-! ### Revocation -/

namespace UsersController

def clientIndexById (clientId : String) (clientsTable : List Json) : Option ℕ :=
  clientsTable.findIdx? fun value =>
    match value with
    | .object obj => JsonObject.contains obj "clientId" && Json.toString (JsonObject.value obj "clientId") = clientId
    | _ => false

/-- `revokeClient` with a configuration: the row to revoke, none if nothing is done. -/
def revokedRow (c : XrayProtocolConfig) (clientsTable : List Json) : Option ℕ :=
  clientIndexById c.clientId clientsTable

end UsersController

/-- `isRevokeBlockedDuringActiveConnection`, while the configuration is connected with. -/
def isRevokeBlocked (connected : XrayProtocolConfig) (clientId : String) : Bool :=
  clientId ≠ "" && connected.clientId ≠ "" && (connected.clientId = clientId || containsText connected.clientId clientId)

namespace XrayConfigurator

variable {text : JsonText} {hostName : String} {server : XrayServer} {answers : XrayAnswers} {srv : XrayServerConfig}
  {clientId : String} {prefetched : String × String} {c : XrayProtocolConfig}

/-- After a restart the client that is in use can be revoked, and revoking by the configuration looks for an id that
is empty. -/
theorem revocation_after_restart
    (hread : ∀ keys, clientKeys server answers srv prefetched = .ok keys →
      ReadsBack text (clientJson hostName srv clientId keys.1 keys.2))
    (h : buildClientProtocolConfig text hostName server answers srv clientId prefetched = .ok c) (hid : clientId ≠ "")
    (clientsTable : List Json) :
    isRevokeBlocked c clientId = true ∧ isRevokeBlocked (c.restarted text) clientId = false ∧
      UsersController.revokedRow c clientsTable = UsersController.clientIndexById clientId clientsTable ∧
      UsersController.revokedRow (c.restarted text) clientsTable =
        UsersController.clientIndexById "" clientsTable := by
  obtain ⟨hbefore, -, hafter, -, -⟩ := restarted_of_built hread h
  rw [isRevokeBlocked, isRevokeBlocked, UsersController.revokedRow, UsersController.revokedRow, hbefore, hafter]
  refine ⟨?_, ?_, rfl, rfl⟩
  · simp [hid]
  · simp

end XrayConfigurator

/-! ### A new client -/

/-- A document format that knows one more document with a log, by its text after the first brace. -/
def JsonText.withDocument (rest : String) (object : JsonObject) : JsonText where
  parse t := if t = "\x7b" ++ rest then some object else tokens.parse t
  compact o :=
    match o.value "log" with
    | some (.object _) => "\x7b" ++ rest
    | _ => tokens.compact o
  parse_empty := by
    have hne : "" ≠ "\x7b" ++ rest := by
      intro h
      have hlist := congrArg String.toList h
      rw [String.toList_append] at hlist
      cases hlist
    rw [if_neg hne, tokens.parse_empty]
  parse_compact o hflat := by
    have hne : tokens.compact o ≠ "\x7b" ++ rest := by
      intro h
      have hlist := congrArg String.toList h
      rw [tokens, String.toList_ofList, String.toList_append] at hlist
      exact absurd (List.cons.inj hlist).1 (by decide)
    obtain ⟨o', hparse, hvalue⟩ := tokens.parse_compact o hflat
    refine ⟨o', ?_, hvalue⟩
    split
    next members hlog => exact absurd (hflat _ (JsonObject.mem_of_value_eq_some hlog)) id
    next => rw [if_neg hne, hparse]

theorem JsonText.compact_withDocument (rest : String) (object : JsonObject) {o members : JsonObject}
    (hlog : o.value "log" = some (.object members)) : (withDocument rest object).compact o = "\x7b" ++ rest := by
  change (match o.value "log" with
    | some (.object _) => "\x7b" ++ rest
    | _ => tokens.compact o) = "\x7b" ++ rest
  rw [hlog]

theorem JsonText.parse_withDocument (rest : String) (object : JsonObject) :
    (withDocument rest object).parse ("\x7b" ++ rest) = some object := if_pos rfl

theorem XrayConfigurator.value_log_clientJson (hostName : String) (srv : XrayServerConfig)
    (clientId publicKey shortId : String) :
    (clientJson hostName srv clientId publicKey shortId).value "log" =
      some (.object [("loglevel", .string "error")]) := by
  rw [clientJson, value_insert_of_ne _ (by decide), value_insert_of_ne _ (by decide),
    value_insert_self]

def newServerSettings : XrayServerConfig :=
  .fromJson [("port", .string "443"), ("site", .string "www.googletagmanager.com"),
    ("xray_flow", .string "xtls-rprx-vision"), ("xray_security", .string "reality"),
    ("xray_sni", .string "www.googletagmanager.com"), ("xray_transport", .string "raw")]

def newClientText : String :=
  "\"inbounds\":[\x7b\"listen\":\"127.0.0.1\",\"port\":\"10808\",\"protocol\":\"socks\"," ++
  "\"settings\":\x7b\"udp\":true\x7d\x7d],\"log\":\x7b\"loglevel\":\"error\"\x7d," ++
  "\"outbounds\":[\x7b\"protocol\":\"vless\",\"settings\":\x7b\"vnext\":[\x7b\"address\":\"203.0.113.7\"," ++
  "\"port\":443,\"users\":[\x7b\"encryption\":\"none\",\"flow\":\"xtls-rprx-vision\"," ++
  "\"id\":\"0f4c7d0e-6a54-4f0b-9a3e-7a4f8d1c2b11\"\x7d]\x7d]\x7d,\"streamSettings\":\x7b\"network\":\"tcp\"," ++
  "\"realitySettings\":\x7b\"fingerprint\":\"chrome\",\"publicKey\":\"P\"," ++
  "\"serverName\":\"www.googletagmanager.com\",\"shortId\":\"5a\",\"spiderX\":\"\"\x7d," ++
  "\"security\":\"reality\"\x7d\x7d]\x7d"

def newClientId : String := "0f4c7d0e-6a54-4f0b-9a3e-7a4f8d1c2b11"

def newClientJson : JsonObject := clientJson "203.0.113.7" newServerSettings newClientId "P" "5a"

def newClientFormat : JsonText := .withDocument newClientText newClientJson

theorem compact_newClientFormat : newClientFormat.compact newClientJson = "\x7b" ++ newClientText :=
  compact_withDocument _ _ (value_log_clientJson _ _ _ _ _)

def XrayAnswers.success (uuid : String) : XrayAnswers :=
  ⟨fun _ => false, fun _ => false, .noError, .noError, .noError, uuid⟩

def newClient : XrayProtocolConfig := built newServerSettings ("\x7b" ++ newClientText) newClientId

theorem clientKeys_newClient (server : XrayServer) :
    clientKeys server (.success newClientId) newServerSettings ("P", "5a") = .ok ("P", "5a") :=
  if_neg (by decide)

theorem buildClientProtocolConfig_newClient (server : XrayServer) :
    buildClientProtocolConfig newClientFormat "203.0.113.7" server (.success newClientId)
      newServerSettings newClientId ("P", "5a") = .ok newClient := by
  rw [buildClientProtocolConfig_of_keys (clientKeys_newClient server), ← newClientJson,
    compact_newClientFormat, newClient]

theorem readsBack_newClient (server : XrayServer) (keys : String × String)
    (hkeys : clientKeys server (.success newClientId) newServerSettings ("P", "5a") = .ok keys) :
    ReadsBack newClientFormat
      (clientJson "203.0.113.7" newServerSettings newClientId keys.1 keys.2) := by
  cases (clientKeys_newClient server).symm.trans hkeys
  rw [← newClientJson, ReadsBack, compact_newClientFormat]
  exact parse_withDocument newClientText newClientJson

/-! ### The identity over a restart -/

/-- **The identity of an Xray client after a restart.** A client whose native configuration is saved alone keeps its
identity exactly if it has no id and its local port is the number in the first inbound. No client that the
configurator generates does: the id is gone and the port is 0. -/
theorem XrayProtocolConfig.identity_survives_iff (text : JsonText) :
    (∀ (c : XrayProtocolConfig) (client : Record) (parsed : JsonObject), c.clientConfig = some client →
      text.parse (XrayClientConfig.nativeConfig client) = some parsed → isNative parsed = true →
      (c.KeepsIdentity text ↔ c.clientId = "" ∧ c.localPort = localPortOf parsed)) ∧
    ∀ (hostName : String) (server : XrayServer) (answers : XrayAnswers) (srv : XrayServerConfig) (clientId : String)
      (prefetched : String × String) (c : XrayProtocolConfig),
      (∀ keys, clientKeys server answers srv prefetched = .ok keys →
        ReadsBack text (clientJson hostName srv clientId keys.1 keys.2)) →
      buildClientProtocolConfig text hostName server answers srv clientId prefetched = .ok c →
      c.clientId = clientId ∧ (c.restarted text).clientId = "" ∧ ¬ c.KeepsIdentity text := by
  refine ⟨fun c client parsed hclient hparse hnative => keepsIdentity_iff_of_native text hclient hparse hnative, ?_⟩
  intro hostName server answers srv clientId prefetched c hread hbuilt
  obtain ⟨hid, hport, hid', hport', -⟩ := restarted_of_built hread hbuilt
  refine ⟨hid, hid', fun hkeeps => ?_⟩
  have hsame := hkeeps.2.1
  rw [hport, hport'] at hsame
  exact absurd hsame (by decide)

def importedClient : XrayProtocolConfig :=
  ⟨newServerSettings, some (ofNative (tokens.compact [("outbounds", .array [])])
    [("outbounds", .array [])]), false⟩

theorem imported_client_keeps_identity :
    importedClient.KeepsIdentity .tokens ∧ ¬ newClient.KeepsIdentity newClientFormat := by
  refine ⟨((identity_survives_iff .tokens).1 importedClient _ [("outbounds", .array [])] rfl
    rfl (by decide)).mpr ⟨rfl, rfl⟩, ?_⟩
  exact ((identity_survives_iff newClientFormat).2 "203.0.113.7" ⟨none, "P\n", "5a\n"⟩
    (.success newClientId) newServerSettings newClientId ("P", "5a") newClient (readsBack_newClient _)
    (buildClientProtocolConfig_newClient _)).2.2

/-- A new client loses its id and its port in a restart. -/
theorem new_client_loses_identity :
    newClient.clientId = newClientId ∧ newClient.localPort = "10808" ∧
      buildClientProtocolConfig newClientFormat "203.0.113.7" ⟨none, "P\n", "5a\n"⟩
        (.success newClientId) newServerSettings newClientId ("P", "5a") = .ok newClient ∧
      (newClient.restarted newClientFormat).clientId = "" ∧ (newClient.restarted newClientFormat).localPort = "0" := by
  have hbuilt := buildClientProtocolConfig_newClient ⟨none, "P\n", "5a\n"⟩
  obtain ⟨hid, hport, hid', hport', -⟩ := restarted_of_built (readsBack_newClient _) hbuilt
  exact ⟨hid, hport, hbuilt, hid', hport'⟩

end FreshVpn
