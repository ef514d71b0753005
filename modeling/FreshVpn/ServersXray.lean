import FreshVpn.ServersProtocols

/-! The Xray model (`XrayProtocolConfig`). Its client configuration is stored in one of two forms: the native
configuration of the core as it is, or a document with the native configuration in one of its members. -/

namespace FreshVpn

open Json (toObject toArray)
open JsonObject Function ConfigKey FieldKind FieldTable

/-- `QString::contains(needle, Qt::CaseInsensitive)`, for a needle of ASCII characters. -/
def containsTextInsensitive (text needle : String) : Bool := containsText text.toLower needle.toLower

def numberText (i : Int) : String := i.repr

/-- The first element of an array member, as an object. -/
def firstObject (json : JsonObject) (key : String) : Option JsonObject :=
  (toArray (json.value key)).head?.map fun value => toObject (some value)

/-! ### Fields -/

def XrayXPaddingConfig.fields : FieldTable where
  entries :=
    [("xpadding_bytes_min", .text), ("xpadding_bytes_max", .text), ("xpadding_obfs_mode", .flagAlways true),
      ("xpadding_key", .textOr "www.googletagmanager.com"), ("xpadding_header", .text),
      ("xpadding_placement", .textOr "Cookie"), ("xpadding_method", .textOr "Repeat-x")]
  distinct := by decide +kernel

/-- `XrayXPaddingConfig{}`, whose key is empty. -/
def XrayXPaddingConfig.empty : Record := Function.update (fields.fromJson []) "xpadding_key" (.text "")

def XrayXmuxConfig.fields : FieldTable where
  entries :=
    [("xmux_enabled", .flagAlways true), ("xmux_max_concurrency_min", .textOr "0"),
      ("xmux_max_concurrency_max", .textOr "0"), ("xmux_max_connections_min", .textOr "0"),
      ("xmux_max_connections_max", .textOr "0"), ("xmux_c_max_reuse_times_min", .textOr "0"),
      ("xmux_c_max_reuse_times_max", .textOr "0"), ("xmux_h_max_request_times_min", .textOr "0"),
      ("xmux_h_max_request_times_max", .textOr "0"), ("xmux_h_max_reusable_secs_min", .textOr "0"),
      ("xmux_h_max_reusable_secs_max", .textOr "0"), ("xmux_h_keep_alive_period", .text)]
  distinct := by decide +kernel

def XrayXmuxConfig.empty : Record := fields.fromJson []

structure XrayXhttpConfig where
  members : Record
  xPadding : Record
  xmux : Record

namespace XrayXhttpConfig

def fields : FieldTable where
  entries :=
    [("xhttp_mode", .text), ("xhttp_host", .text), ("xhttp_path", .text), ("xhttp_headers_template", .text),
      ("xhttp_uplink_method", .text), ("xhttp_disable_grpc", .flagAlways false),
      ("xhttp_disable_sse", .flagAlways false), ("xhttp_session_placement", .text), ("xhttp_session_key", .text),
      ("xhttp_seq_placement", .text), ("xhttp_seq_key", .text), ("xhttp_uplink_data_placement", .text),
      ("xhttp_uplink_data_key", .text), ("xhttp_uplink_chunk_size", .text), ("xhttp_sc_max_buffered_posts", .text),
      ("xhttp_sc_max_each_post_bytes_min", .text), ("xhttp_sc_max_each_post_bytes_max", .text),
      ("xhttp_sc_min_posts_interval_ms_min", .text), ("xhttp_sc_min_posts_interval_ms_max", .text),
      ("xhttp_sc_stream_up_server_secs_min", .text), ("xhttp_sc_stream_up_server_secs_max", .text)]
  distinct := by decide +kernel

/-- `XrayXhttpConfig{}`. -/
def empty : XrayXhttpConfig where
  members
    | "xhttp_mode" => .text "Auto"
    | "xhttp_host" => .text "www.googletagmanager.com"
    | "xhttp_headers_template" => .text "HTTP"
    | "xhttp_uplink_method" => .text "POST"
    | "xhttp_disable_grpc" => .flag true
    | "xhttp_disable_sse" => .flag true
    | "xhttp_session_placement" => .text "Path"
    | "xhttp_session_key" => .text "Path"
    | "xhttp_seq_placement" => .text "Path"
    | "xhttp_uplink_data_placement" => .text "Body"
    | "xhttp_uplink_chunk_size" => .text "0"
    | "xhttp_sc_max_each_post_bytes_min" => .text "1"
    | "xhttp_sc_max_each_post_bytes_max" => .text "100"
    | "xhttp_sc_min_posts_interval_ms_min" => .text "100"
    | "xhttp_sc_min_posts_interval_ms_max" => .text "800"
    | "xhttp_sc_stream_up_server_secs_min" => .text "1"
    | "xhttp_sc_stream_up_server_secs_max" => .text "100"
    | _ => .text ""
  xPadding := XrayXPaddingConfig.empty
  xmux := XrayXmuxConfig.empty

def toJson (c : XrayXhttpConfig) : JsonObject :=
  ((fields.toJson c.members).insert "xPadding" (.object (XrayXPaddingConfig.fields.toJson c.xPadding))).insert
    "xmux" (.object (XrayXmuxConfig.fields.toJson c.xmux))

/-- Starts from `clearedXhttpConfig`, in which every member is empty or false. -/
def fromJson (json : JsonObject) : XrayXhttpConfig where
  members := fields.fromJson json
  xPadding :=
    if json.contains "xPadding" then XrayXPaddingConfig.fields.fromJson (toObject (json.value "xPadding"))
    else XrayXPaddingConfig.empty
  xmux :=
    if json.contains "xmux" then XrayXmuxConfig.fields.fromJson (toObject (json.value "xmux"))
    else XrayXmuxConfig.empty

end XrayXhttpConfig

def XrayMkcpConfig.fields : FieldTable where
  entries :=
    [("mkcp_tti", .text), ("mkcp_uplink_capacity", .text), ("mkcp_downlink_capacity", .text),
      ("mkcp_read_buffer_size", .text), ("mkcp_write_buffer_size", .text), ("mkcp_congestion", .flagPresent true)]
  distinct := by decide +kernel

/-- `XrayMkcpConfig{}`, which reading an empty object also gives. -/
def XrayMkcpConfig.empty : Record := fields.fromJson []

structure XrayServerConfig where
  members : Record
  xhttp : XrayXhttpConfig
  mkcp : Record

namespace XrayServerConfig

def fields : FieldTable where
  entries :=
    [("port", .text), ("transport_proto", .text), ("subnet_address", .text), ("site", .text),
      ("isThirdPartyConfig", .flag false), ("xray_security", .text), ("xray_flow", .text),
      ("xray_fingerprint", .text), ("xray_sni", .text), ("xray_alpn", .text), ("xray_transport", .text)]
  distinct := by decide +kernel

/-- An old user-agent text in the place of a fingerprint is replaced by the default. -/
def fingerprintOf (fingerprint : String) : String :=
  if containsTextInsensitive fingerprint "Mozilla/5.0" then "chrome" else fingerprint

def toJson (c : XrayServerConfig) : JsonObject :=
  let obj := fields.toJson c.members
  let xhttpObj := c.xhttp.toJson
  let obj := if xhttpObj = [] then obj else obj.insert "xhttp" (.object xhttpObj)
  let mkcpObj := XrayMkcpConfig.fields.toJson c.mkcp
  if mkcpObj = [] then obj else obj.insert "mkcp" (.object mkcpObj)

def fromJson (json : JsonObject) : XrayServerConfig where
  members :=
    let members := fields.fromJson json
    Function.update members "xray_fingerprint" (.text (fingerprintOf (members "xray_fingerprint").asText))
  xhttp :=
    let xhttpJson := toObject (json.value "xhttp")
    if xhttpJson = [] then XrayXhttpConfig.empty else XrayXhttpConfig.fromJson xhttpJson
  mkcp :=
    let mkcpJson := toObject (json.value "mkcp")
    if mkcpJson = [] then XrayMkcpConfig.empty else XrayMkcpConfig.fields.fromJson mkcpJson

def member (c : XrayServerConfig) (key : String) : String := (c.members key).asText

def setMember (c : XrayServerConfig) (key value : String) : XrayServerConfig :=
  { c with members := Function.update c.members key (.text value) }

end XrayServerConfig

/-! ### Hydration from the native configuration -/

namespace XrayServerConfig

def hydrateEndpoint (outbound : JsonObject) (srv : XrayServerConfig) : XrayServerConfig :=
  match firstObject (toObject (outbound.value "settings")) "vnext" with
  | none => srv
  | some vnextEntry =>
    let srv :=
      if vnextEntry.contains "port" then
        srv.setMember "port" (numberText (Json.toInt (vnextEntry.value "port") 0))
      else srv
    match firstObject vnextEntry "users" with
    | none => srv
    | some user => srv.setMember "xray_flow" (Json.toString (user.value "flow"))

variable (streamSettings : JsonObject) (srv : XrayServerConfig)

def hydrateTransport : XrayServerConfig :=
  let networkVal := Json.toStringOr "tcp" (streamSettings.value "network")
  let srv := srv.setMember "xray_transport"
    (if networkVal = "xhttp" then "xhttp" else if networkVal = "kcp" then "mkcp" else "raw")
  if streamSettings.contains "security" then
    srv.setMember "xray_security" (Json.toString (streamSettings.value "security"))
  else srv

def hydrateReality : XrayServerConfig :=
  if srv.member "xray_security" = "reality" then
    let rs := toObject (streamSettings.value "realitySettings")
    let srv := srv.setMember "xray_sni" (Json.toString (rs.value "serverName"))
    let srv := if srv.member "xray_sni" = "" then srv else srv.setMember "site" (srv.member "xray_sni")
    let fp := Json.toString (rs.value "fingerprint")
    if fp = "" then srv else srv.setMember "xray_fingerprint" (fingerprintOf fp)
  else srv

def hydrateTls : XrayServerConfig :=
  if srv.member "xray_security" = "tls" then
    let tls := toObject (streamSettings.value "tlsSettings")
    let srv := srv.setMember "xray_sni" (Json.toString (tls.value "serverName"))
    let fp := Json.toString (tls.value "fingerprint")
    let srv := if fp = "" then srv else srv.setMember "xray_fingerprint" fp
    let alpnList := (toArray (tls.value "alpn")).map fun value => Json.toString (some value)
    if alpnList = [] then srv else srv.setMember "xray_alpn" (",".intercalate alpnList)
  else srv

def xhttpModeText (mode : String) : String :=
  if mode = "auto" then "Auto"
  else if mode = "packet-up" then "Packet-up"
  else if mode = "stream-up" then "Stream-up"
  else if mode = "stream-one" then "Stream-one"
  else mode

def hydrateXhttp : XrayServerConfig :=
  if srv.member "xray_transport" = "xhttp" then
    let xhttpObj := toObject (streamSettings.value "xhttpSettings")
    let copied (json : JsonObject) (entry : String × String) : JsonObject :=
      if xhttpObj.contains entry.1 then json.insert entry.2 (.string (Json.toString (xhttpObj.value entry.1)))
      else json
    let mode := Json.toString (xhttpObj.value "mode")
    let xhttpJson : JsonObject := if mode = "" then [] else [("xhttp_mode", .string (xhttpModeText mode))]
    let xhttpJson :=
      [("host", "xhttp_host"), ("path", "xhttp_path"), ("uplinkHTTPMethod", "xhttp_uplink_method")].foldl copied
        xhttpJson
    let noGrpc := Json.toBoolOr true (xhttpObj.value "noGRPCHeader")
    let noSse := Json.toBoolOr true (xhttpObj.value "noSSEHeader")
    let xhttpJson := (xhttpJson.insert "xhttp_disable_grpc" (.bool noGrpc)).insert "xhttp_disable_sse" (.bool noSse)
    { srv with xhttp := XrayXhttpConfig.fromJson xhttpJson }
  else srv

def hydrateMkcp : XrayServerConfig :=
  if srv.member "xray_transport" = "mkcp" then
    let kcpObj := toObject (streamSettings.value "kcpSettings")
    let copied (mk : Record) (entry : String × String) : Record :=
      if kcpObj.contains entry.1 then
        Function.update mk entry.2 (.text (numberText (Json.toInt (kcpObj.value entry.1) 0)))
      else mk
    let mk :=
      [("tti", "mkcp_tti"), ("uplinkCapacity", "mkcp_uplink_capacity"),
        ("downlinkCapacity", "mkcp_downlink_capacity"), ("readBufferSize", "mkcp_read_buffer_size"),
        ("writeBufferSize", "mkcp_write_buffer_size")].foldl copied
        XrayMkcpConfig.empty
    let mk :=
      if kcpObj.contains "congestion" then
        Function.update mk "mkcp_congestion" (.flag (Json.toBoolOr true (kcpObj.value "congestion")))
      else mk
    { srv with mkcp := mk }
  else srv

end XrayServerConfig

structure XrayProtocolConfig where
  serverConfig : XrayServerConfig
  clientConfig : Option Record
  needsClientHydration : Bool

namespace XrayClientConfig

def fields : FieldTable where
  entries := [("config", .text), ("local_port", .text), ("clientId", .text)]
  distinct := by decide +kernel

def nativeConfig (client : Record) : String := (client config).asText

variable (text : JsonText)

/-- The id of the first user of the first server, which stands in for a missing `clientId`. -/
def idOf (nativeConfig : String) : String :=
  let user := do
    let configObj ← text.parse nativeConfig
    let outbound ← firstObject configObj "outbounds"
    let vnextObj ← firstObject (toObject (outbound.value "settings")) "vnext"
    firstObject vnextObj "users"
  match user with
  | none => ""
  | some user => Json.toString (user.value "id")

def fromJson (json : JsonObject) : Record :=
  let c := fields.fromJson json
  if (c "clientId").asText = "" ∧ nativeConfig c ≠ "" then
    Function.update c "clientId" (.text (idOf text (nativeConfig c)))
  else c

def isNative (parsed : JsonObject) : Bool := parsed.contains "outbounds" && !parsed.contains config

def localPortOf (parsed : JsonObject) : String :=
  match firstObject parsed "inbounds" with
  | none => ""
  | some inbound => if inbound.contains "port" then numberText (Json.toInt (inbound.value "port") 0) else ""

/-- The client of a native configuration; no id is looked for in it. -/
def ofNative (lastConfigStr : String) (parsed : JsonObject) : Record
  | "config" => .text lastConfigStr
  | "local_port" => .text (localPortOf parsed)
  | _ => .text ""

def toLastConfig (client : Record) : String :=
  if (text.parse (nativeConfig client)).any isNative then nativeConfig client
  else text.compact (fields.toJson client)

def ofLastConfig (lastConfigStr : String) : Option Record :=
  if lastConfigStr = "" then none
  else (text.parse lastConfigStr).map fun parsed =>
    if isNative parsed then ofNative lastConfigStr parsed else fromJson text parsed

end XrayClientConfig

namespace XrayProtocolConfig

variable (text : JsonText)

/-- `none` if there is nothing to hydrate from. -/
def hydrateServerConfigFromClientNative (c : XrayProtocolConfig) : Option XrayProtocolConfig := do
  let client ← c.clientConfig
  let root ← text.parse (XrayClientConfig.nativeConfig client)
  let outbound ← firstObject root "outbounds"
  let streamSettings := toObject (outbound.value "streamSettings")
  if streamSettings = [] then none
  else
    some { c with
      serverConfig := c.serverConfig.hydrateEndpoint outbound |>.hydrateTransport streamSettings
        |>.hydrateReality streamSettings |>.hydrateTls streamSettings |>.hydrateXhttp streamSettings
        |>.hydrateMkcp streamSettings
      needsClientHydration := false }

def toJson (c : XrayProtocolConfig) : JsonObject :=
  let obj := c.serverConfig.toJson
  match c.clientConfig with
  | none => obj
  | some client => obj.insert lastConfig (.string (XrayClientConfig.toLastConfig text client))

def fromJson (json : JsonObject) : XrayProtocolConfig :=
  let serverConfig := XrayServerConfig.fromJson json
  let clientConfig := XrayClientConfig.ofLastConfig text (Json.toString (json.value lastConfig))
  let needsClientHydration :=
    clientConfig.isSome &&
      (!json.contains "xray_transport" || (serverConfig.members isThirdPartyConfig).asFlag)
  let c : XrayProtocolConfig := { serverConfig, clientConfig, needsClientHydration }
  if needsClientHydration then (c.hydrateServerConfigFromClientNative text).getD c else c

end XrayProtocolConfig

/-! ### Storing and reading back -/

namespace XrayServerConfig

theorem value_toJson (c : XrayServerConfig) {key : String} (hxhttp : key ≠ "xhttp") (hmkcp : key ≠ "mkcp") :
    c.toJson.value key = (fields.toJson c.members).value key := by
  unfold toJson
  dsimp only
  split_ifs
  · rfl
  · rw [value_insert_of_ne _ hxhttp]
  · rw [value_insert_of_ne _ hmkcp]
  · rw [value_insert_of_ne _ hmkcp, value_insert_of_ne _ hxhttp]

/-- The step `f` does not touch the mark of a third-party configuration. -/
def KeepsMark (f : XrayServerConfig → XrayServerConfig) : Prop :=
  ∀ srv, (f srv).members isThirdPartyConfig = srv.members isThirdPartyConfig

theorem setMember_isThirdPartyConfig (srv : XrayServerConfig) {key : String}
    (hne : isThirdPartyConfig ≠ key) (value : String) :
    (srv.setMember key value).members isThirdPartyConfig = srv.members isThirdPartyConfig :=
  update_of_ne hne _ _

theorem keepsMark_hydrateEndpoint (outbound : JsonObject) : KeepsMark (hydrateEndpoint outbound) := by
  intro srv
  unfold hydrateEndpoint
  split
  · rfl
  · dsimp only
    split <;> split_ifs <;> simp (disch := decide) only [setMember_isThirdPartyConfig]

variable (streamSettings : JsonObject)

theorem keepsMark_hydrateTransport : KeepsMark (hydrateTransport streamSettings) := by
  intro srv
  unfold hydrateTransport
  split_ifs <;> simp (disch := decide) only [setMember_isThirdPartyConfig]

theorem keepsMark_hydrateReality : KeepsMark (hydrateReality streamSettings) := by
  intro srv
  unfold hydrateReality
  dsimp only
  split_ifs <;> simp (disch := decide) only [setMember_isThirdPartyConfig]

theorem keepsMark_hydrateTls : KeepsMark (hydrateTls streamSettings) := by
  intro srv
  unfold hydrateTls
  dsimp only
  split_ifs <;> simp (disch := decide) only [setMember_isThirdPartyConfig]

theorem keepsMark_hydrateXhttp : KeepsMark (hydrateXhttp streamSettings) := by
  intro srv
  unfold hydrateXhttp
  split_ifs <;> rfl

theorem keepsMark_hydrateMkcp : KeepsMark (hydrateMkcp streamSettings) := by
  intro srv
  unfold hydrateMkcp
  split_ifs <;> rfl

end XrayServerConfig

namespace XrayProtocolConfig

variable (text : JsonText)

theorem hydrateServerConfigFromClientNative_spec {c c' : XrayProtocolConfig}
    (h : c.hydrateServerConfigFromClientNative text = some c') :
    c'.clientConfig = c.clientConfig ∧
      c'.serverConfig.members isThirdPartyConfig = c.serverConfig.members isThirdPartyConfig := by
  obtain ⟨client, -, h⟩ := Option.bind_eq_some_iff.mp h
  obtain ⟨root, -, h⟩ := Option.bind_eq_some_iff.mp h
  obtain ⟨outbound, -, h⟩ := Option.bind_eq_some_iff.mp h
  dsimp only at h
  split_ifs at h
  cases h
  refine ⟨rfl, ?_⟩
  rw [XrayServerConfig.keepsMark_hydrateMkcp, XrayServerConfig.keepsMark_hydrateXhttp,
    XrayServerConfig.keepsMark_hydrateTls, XrayServerConfig.keepsMark_hydrateReality,
    XrayServerConfig.keepsMark_hydrateTransport, XrayServerConfig.keepsMark_hydrateEndpoint]

theorem fromJson_spec (json : JsonObject) :
    (fromJson text json).clientConfig =
        XrayClientConfig.ofLastConfig text (Json.toString (json.value lastConfig)) ∧
      ((fromJson text json).serverConfig.members isThirdPartyConfig).asFlag =
        Json.toBoolOr false (json.value isThirdPartyConfig) := by
  have hmark : ((XrayServerConfig.fromJson json).members isThirdPartyConfig).asFlag =
      Json.toBoolOr false (json.value isThirdPartyConfig) := by
    unfold XrayServerConfig.fromJson
    dsimp only
    rfl
  unfold fromJson
  dsimp only
  split_ifs with hneeds
  · generalize hc : XrayProtocolConfig.mk _ _ _ = c
    cases hhydrate : c.hydrateServerConfigFromClientNative text with
    | none =>
      rw [Option.getD_none, ← hc]
      exact ⟨rfl, hmark⟩
    | some c' =>
      obtain ⟨hclient, hserver⟩ := hydrateServerConfigFromClientNative_spec text hhydrate
      rw [Option.getD_some, hclient, hserver, ← hc]
      exact ⟨rfl, hmark⟩
  · exact ⟨rfl, hmark⟩

theorem value_isThirdPartyConfig_toJson (c : XrayProtocolConfig) :
    (c.toJson text).value isThirdPartyConfig =
      FieldKind.write (.flag false) (c.serverConfig.members isThirdPartyConfig) := by
  have hmem : (isThirdPartyConfig, flag false) ∈ XrayServerConfig.fields.entries := by
    simp [XrayServerConfig.fields, isThirdPartyConfig]
  have hserver := c.serverConfig.value_toJson (show isThirdPartyConfig ≠ "xhttp" by decide) (by decide)
  rw [value_toJson hmem] at hserver
  unfold toJson
  split
  · exact hserver
  · rw [value_insert_of_ne _ (by decide)]
    exact hserver

theorem clientConfig_fromJson_toJson (c : XrayProtocolConfig) :
    (fromJson text (c.toJson text)).clientConfig =
      c.clientConfig.bind fun client =>
        XrayClientConfig.ofLastConfig text (XrayClientConfig.toLastConfig text client) := by
  rw [(fromJson_spec text _).1]
  unfold toJson
  split
  next hclient =>
    rw [hclient, c.serverConfig.value_toJson (by decide) (by decide),
      value_toJson_of_not_mem (by decide +kernel)]
    rfl
  next client hclient =>
    rw [hclient, value_insert_self]
    rfl

end XrayProtocolConfig

namespace XrayClientConfig

variable {client : Record} (text : JsonText)

/-- Storing the client loses neither its port nor its id: a native configuration is stored as it is, and must
give the port back by itself. -/
def Kept (client : Record) : Prop :=
  ∀ parsed, text.parse (nativeConfig client) = some parsed → isNative parsed = true →
    (client "local_port").asText = localPortOf parsed ∧ (client "clientId").asText = ""

/-- The id is given unless the native configuration has none. -/
def HasId (client : Record) : Prop :=
  (client "clientId").asText = "" → nativeConfig client ≠ "" → idOf text (nativeConfig client) = ""

variable {lastConfigStr : String} {parsed : JsonObject}

theorem ofLastConfig_spec (h : ofLastConfig text lastConfigStr = some client) :
    (∃ parsed, text.parse (nativeConfig client) = some parsed ∧ isNative parsed = true) ∨ HasId text client := by
  unfold ofLastConfig at h
  split_ifs at h
  obtain ⟨parsed, hparse, rfl⟩ := Option.map_eq_some_iff.mp h
  by_cases hnative : isNative parsed = true
  · rw [if_pos hnative]
    exact Or.inl ⟨parsed, hparse, hnative⟩
  · refine Or.inr ?_
    unfold fromJson
    dsimp only
    split_ifs with hid
    · intro hempty _
      exact hempty
    · exact fun hempty hne => absurd ⟨hempty, hne⟩ hid

theorem ofLastConfig_toLastConfig_of_native (hparse : text.parse (nativeConfig client) = some parsed)
    (hnative : isNative parsed = true) :
    ofLastConfig text (toLastConfig text client) = some (ofNative (nativeConfig client) parsed) := by
  have hne : nativeConfig client ≠ "" := by
    intro hempty
    rw [hempty, text.parse_empty] at hparse
    cases hparse
  have hany : (text.parse (nativeConfig client)).any isNative = true := by
    rw [hparse]
    exact hnative
  rw [toLastConfig, if_pos hany, ofLastConfig, if_neg hne, hparse, Option.map_some, if_pos hnative]

theorem ofLastConfig_toLastConfig_of_not_native
    (hnot : ¬ ∃ parsed, text.parse (nativeConfig client) = some parsed ∧ isNative parsed = true)
    (hid : HasId text client) :
    ∃ client', ofLastConfig text (toLastConfig text client) = some client' ∧ fields.Alike client' client := by
  have hany : (text.parse (nativeConfig client)).any isNative = false := by
    rw [Bool.eq_false_iff]
    exact fun h => hnot ((Option.any_eq_true _ _).mp h)
  have hsettled : fields.Settled client := by
    intro entry hmem
    simp only [fields, List.mem_cons, List.not_mem_nil, or_false] at hmem
    rcases hmem with rfl | rfl | rfl <;> exact settled_text _
  obtain ⟨document, hparse, hvalue⟩ :=
    text.parse_compact (fields.toJson client) (isFlat_toJson (List.all_eq_true.mp rfl) client)
  have hne : text.compact (fields.toJson client) ≠ "" := by
    intro hempty
    rw [hempty, text.parse_empty] at hparse
    cases hparse
  have hdocument : isNative document = false := by
    have hnone : document.value "outbounds" = none :=
      (hvalue "outbounds").trans (value_toJson_of_not_mem (by decide) client)
    rw [isNative, contains, hnone]
    rfl
  have halike : fields.Alike (fields.fromJson document) client :=
    hsettled.write_fromJson fun entry _ => hvalue entry.1
  have hconfig : nativeConfig (fields.fromJson document) = nativeConfig client :=
    halike.asText_eq List.mem_cons_self
  have hclientId : (fields.fromJson document "clientId").asText = (client "clientId").asText :=
    halike.asText_eq (List.mem_cons_of_mem _ (List.mem_cons_of_mem _ List.mem_cons_self))
  refine ⟨fromJson text document, ?_, ?_⟩
  · rw [toLastConfig, hany, if_neg Bool.false_ne_true, ofLastConfig, if_neg hne, hparse, Option.map_some, hdocument,
      if_neg Bool.false_ne_true]
  · unfold fromJson
    dsimp only
    split_ifs with hlookup
    · -- The id is looked up once more, and there is still none.
      rw [hconfig] at hlookup ⊢
      rw [hclientId] at hlookup
      rw [hid hlookup.1 hlookup.2]
      intro entry hmem
      by_cases heq : entry.1 = "clientId"
      · have hentry : entry = ("clientId", .text) :=
          List.inj_on_of_nodup_map fields.distinct hmem
            (List.mem_cons_of_mem _ (List.mem_cons_of_mem _ List.mem_cons_self)) heq
        rw [hentry, update_self]
        exact (if_pos hlookup.1).symm
      · rw [update_of_ne heq]
        exact halike entry hmem
    · exact halike

theorem ofNative_alike_iff :
    fields.Alike (ofNative (nativeConfig client) parsed) client ↔
      (client "local_port").asText = localPortOf parsed ∧ (client "clientId").asText = "" := by
  constructor
  · intro h
    exact ⟨(h.asText_eq (List.mem_cons_of_mem _ List.mem_cons_self)).symm,
      (h.asText_eq (List.mem_cons_of_mem _ (List.mem_cons_of_mem _ List.mem_cons_self))).symm⟩
  · rintro ⟨hport, hid⟩ entry hmem
    simp only [fields, List.mem_cons, List.not_mem_nil, or_false] at hmem
    rcases hmem with rfl | rfl | rfl
    · rfl
    · change write .text (.text (localPortOf parsed)) = write .text (client "local_port")
      rw [← hport]
      rfl
    · exact (if_pos hid).symm

/-- **The round trip of an Xray client.** It is kept exactly if the native configuration, when it is stored as
it is, says as much as the client did. -/
theorem ofLastConfig_toLastConfig (h : ofLastConfig text lastConfigStr = some client) :
    ∃ client', ofLastConfig text (toLastConfig text client) = some client' ∧
      nativeConfig client' = nativeConfig client ∧ (fields.Alike client' client ↔ Kept text client) := by
  by_cases hnative : ∃ parsed, text.parse (nativeConfig client) = some parsed ∧ isNative parsed = true
  · obtain ⟨parsed, hparse, hnative⟩ := hnative
    refine ⟨_, ofLastConfig_toLastConfig_of_native text hparse hnative, rfl, ofNative_alike_iff.trans ?_⟩
    constructor
    · intro hkept parsed' hparse' _
      rw [hparse, Option.some.injEq] at hparse'
      exact hparse' ▸ hkept
    · exact fun hkept => hkept parsed hparse hnative
  · have hid := (ofLastConfig_spec text h).resolve_left hnative
    obtain ⟨client', hread, halike⟩ := ofLastConfig_toLastConfig_of_not_native text hnative hid
    refine ⟨client', hread, halike.asText_eq List.mem_cons_self, fun _ => ?_, fun _ => halike⟩
    exact fun parsed hparse hparsed => absurd ⟨parsed, hparse, hparsed⟩ hnative

end XrayClientConfig

end FreshVpn
