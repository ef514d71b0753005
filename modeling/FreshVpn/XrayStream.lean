import FreshVpn.LibraryIpv4
import FreshVpn.ServersXray

/-! The stream settings of Xray, which the configurator generates from the settings of a server for the inbound of the
server and for the outbound of a client alike. -/

namespace FreshVpn

open JsonObject

/-- `QString::compare(other, Qt::CaseInsensitive) == 0`, for a text of ASCII characters. -/
def equalsInsensitive (text other : String) : Bool := text.toLower = other.toLower

/-- `QString::toInt` and `QString::toLongLong`: 0 if the text is not a number of the type. -/
def numberOf (bits : ℕ) (text : String) : ℤ :=
  let number : ℤ :=
    match (trimmed text).toList with
    | '-' :: digits => -((Decimal.read digits).getD 0 : ℕ)
    | '+' :: digits => ((Decimal.read digits).getD 0 : ℕ)
    | digits => ((Decimal.read digits).getD 0 : ℕ)
  if -2 ^ (bits - 1) ≤ number ∧ number < 2 ^ (bits - 1) then number else 0

def toInt (text : String) : ℤ := numberOf 32 text

def toLongLong (text : String) : ℤ := numberOf 64 text

def orDefault (value defaultValue : String) : String := if value = "" then defaultValue else value

def Json.int (value : ℤ) : Json := .double value

def Json.range (low high : ℤ) : Json := .object [("from", .int low), ("to", .int high)]

/-- `if (!value.isEmpty()) object[key] = value` -/
def JsonObject.insertText (object : JsonObject) (key value : String) : JsonObject :=
  if value = "" then object else object.insert key (.string value)

namespace XrayStream

def normalizeXhttpMode (m : String) : String :=
  let t := trimmed m
  if t = "" || equalsInsensitive t "Auto" then "auto"
  else if equalsInsensitive t "Packet-up" then "packet-up"
  else if equalsInsensitive t "Stream-up" then "stream-up"
  else if equalsInsensitive t "Stream-one" then "stream-one"
  else t.toLower

def normalizeSessionSeqPlacement (p : String) : String :=
  if p = "" || equalsInsensitive p "None" then "" else p.toLower

def normalizeUplinkDataPlacement (p : String) : String :=
  if p = "" || equalsInsensitive p "Body" then "body"
  else if equalsInsensitive p "Auto" then "auto"
  -- A query cannot carry the payload; the closest mode that can.
  else if equalsInsensitive p "Query" then "header"
  else p.toLower

def normalizeXPaddingPlacement (p : String) : String :=
  let t := trimmed p
  if t = "" then "cookie"
  else if equalsInsensitive t "Body" then "queryInHeader"
  else if containsTextInsensitive t "queryInHeader" || equalsInsensitive t "Query in header" then "queryInHeader"
  else t.toLower

def normalizeXPaddingMethod (m : String) : String :=
  let t := trimmed m
  if t = "" || equalsInsensitive t "Repeat-x" then "repeat-x"
  else if equalsInsensitive t "Tokenish" then "tokenish"
  else if equalsInsensitive t "Random" || equalsInsensitive t "Zero" then "repeat-x"
  else t.toLower

def putIntRangeIfAny (obj : JsonObject) (key minV maxV fallbackMin fallbackMax : String) : JsonObject :=
  if minV = "" && maxV = "" then obj
  else obj.insert key (.range (toInt (orDefault minV fallbackMin)) (toInt (orDefault maxV fallbackMax)))

def addMuxRange (mux : JsonObject) (key a b : String) : JsonObject := putIntRangeIfAny mux key a b "0" "0"

/-- The members for the padding of the `xhttpSettings`. -/
def putXPadding (pad : Record) (xo : JsonObject) : JsonObject :=
  let value (key : String) : String := (pad key).asText
  let obfsMode := (pad "xpadding_obfs_mode").asFlag
  let xo := xo.insert "xPaddingObfsMode" (.bool obfsMode)
  if obfsMode then
    let bytesMin := value "xpadding_bytes_min"
    let bytesMax := value "xpadding_bytes_max"
    let xo :=
      if bytesMin = "" && bytesMax = "" then xo
      else xo.insert "xPaddingBytes" (.range (if bytesMin = "" then 1 else toInt bytesMin)
        (if bytesMax = "" then (if bytesMin = "" then 256 else toInt bytesMin) else toInt bytesMax))
    xo.insert "xPaddingKey" (.string (orDefault (value "xpadding_key") "x_padding"))
      |>.insert "xPaddingHeader" (.string (orDefault (value "xpadding_header") "X-Padding"))
      |>.insert "xPaddingPlacement"
        (.string (normalizeXPaddingPlacement (orDefault (value "xpadding_placement") "Cookie")))
      |>.insert "xPaddingMethod" (.string (normalizeXPaddingMethod (orDefault (value "xpadding_method") "Repeat-x")))
  else xo

/-- The member for multiplexing, left out if it is disabled or would be empty. -/
def putXmux (xmux : Record) (xo : JsonObject) : JsonObject :=
  let value (key : String) : String := (xmux key).asText
  if (xmux "xmux_enabled").asFlag then
    let mux := addMuxRange [] "maxConcurrency" (value "xmux_max_concurrency_min") (value "xmux_max_concurrency_max")
    let mux := addMuxRange mux "maxConnections" (value "xmux_max_connections_min") (value "xmux_max_connections_max")
    let mux := addMuxRange mux "cMaxReuseTimes" (value "xmux_c_max_reuse_times_min")
      (value "xmux_c_max_reuse_times_max")
    let mux := addMuxRange mux "hMaxRequestTimes" (value "xmux_h_max_request_times_min")
      (value "xmux_h_max_request_times_max")
    let mux := addMuxRange mux "hMaxReusableSecs" (value "xmux_h_max_reusable_secs_min")
      (value "xmux_h_max_reusable_secs_max")
    let mux :=
      if value "xmux_h_keep_alive_period" = "" then mux
      else mux.insert "hKeepAlivePeriod" (.int (toLongLong (value "xmux_h_keep_alive_period")))
    if mux = [] then xo else xo.insert "xmux" (.object mux)
  else xo

def xhttpSettings (xhttp : XrayXhttpConfig) : JsonObject :=
  let value (key : String) : String := (xhttp.members key).asText
  let hostEff := orDefault (value "xhttp_host") "www.googletagmanager.com"
  let xo := JsonObject.insert [] "host" (.string hostEff)
  let xo := xo.insertText "path" (value "xhttp_path")
  let xo := xo.insert "mode" (.string (normalizeXhttpMode (value "xhttp_mode")))
  let xo :=
    if equalsInsensitive (value "xhttp_headers_template") "HTTP" then
      xo.insert "headers" (.object [("Host", .string hostEff)])
    else xo
  let xo := xo.insert "uplinkHTTPMethod" (.string (orDefault (value "xhttp_uplink_method") "POST").toUpper)
  let xo := xo.insert "noGRPCHeader" (.bool (xhttp.members "xhttp_disable_grpc").asFlag)
  let xo := xo.insert "noSSEHeader" (.bool (xhttp.members "xhttp_disable_sse").asFlag)
  let xo := xo.insertText "sessionPlacement" (normalizeSessionSeqPlacement (value "xhttp_session_placement"))
  let xo := xo.insertText "seqPlacement" (normalizeSessionSeqPlacement (value "xhttp_seq_placement"))
  let xo := xo.insertText "sessionKey" (value "xhttp_session_key")
  let xo := xo.insertText "seqKey" (value "xhttp_seq_key")
  let xo := xo.insert "uplinkDataPlacement"
    (.string (normalizeUplinkDataPlacement (value "xhttp_uplink_data_placement")))
  let xo := xo.insertText "uplinkDataKey" (value "xhttp_uplink_data_key")
  let ucs := orDefault (value "xhttp_uplink_chunk_size") "0"
  let xo := if ucs ≠ "" && ucs ≠ "0" then xo.insert "uplinkChunkSize" (.range (toInt ucs) (toInt ucs)) else xo
  let xo :=
    if value "xhttp_sc_max_buffered_posts" = "" then xo
    else xo.insert "scMaxBufferedPosts" (.int (toLongLong (value "xhttp_sc_max_buffered_posts")))
  let xo := putIntRangeIfAny xo "scMaxEachPostBytes" (value "xhttp_sc_max_each_post_bytes_min")
    (value "xhttp_sc_max_each_post_bytes_max") "1" "100"
  let xo := putIntRangeIfAny xo "scMinPostsIntervalMs" (value "xhttp_sc_min_posts_interval_ms_min")
    (value "xhttp_sc_min_posts_interval_ms_max") "100" "800"
  let xo := putIntRangeIfAny xo "scStreamUpServerSecs" (value "xhttp_sc_stream_up_server_secs_min")
    (value "xhttp_sc_stream_up_server_secs_max") "1" "100"
  putXmux xhttp.xmux (putXPadding xhttp.xPadding xo)

def kcpSettings (mkcp : Record) : JsonObject :=
  let number (key defaultValue : String) : Json := .int (toInt (orDefault (mkcp key).asText defaultValue))
  JsonObject.insert [] "tti" (number "mkcp_tti" "50")
    |>.insert "uplinkCapacity" (number "mkcp_uplink_capacity" "5")
    |>.insert "downlinkCapacity" (number "mkcp_downlink_capacity" "20")
    |>.insert "readBufferSize" (number "mkcp_read_buffer_size" "2")
    |>.insert "writeBufferSize" (number "mkcp_write_buffer_size" "2")
    |>.insert "congestion" (.bool (mkcp "mkcp_congestion").asFlag)

variable (srv : XrayServerConfig)

def tlsSettings : JsonObject :=
  let alpnEff := orDefault (srv.member "xray_alpn") "HTTP/2"
  let alpnArray := ((alpnEff.toList.splitOn ',').map fun part => trimmed (String.ofList part)).filter (· ≠ "")
  let tls := JsonObject.insert [] "serverName" (.string (orDefault (srv.member "xray_sni") "cdn.example.com"))
  let tls := if alpnArray = [] then tls else tls.insert "alpn" (.array (alpnArray.map Json.string))
  tls.insert "fingerprint" (.string (orDefault (srv.member "xray_fingerprint") "chrome"))

def realitySettings : JsonObject :=
  JsonObject.insert [] "fingerprint" (.string (orDefault (srv.member "xray_fingerprint") "chrome"))
    |>.insert "serverName" (.string (orDefault (srv.member "xray_sni") "cdn.example.com"))

/-- The id that the function is also given is not used. -/
def buildStreamSettings : JsonObject :=
  let security := srv.member "xray_security"
  let transport := srv.member "xray_transport"
  let networkValue := if transport = "xhttp" then "xhttp" else if transport = "mkcp" then "kcp" else "tcp"
  let streamSettings := JsonObject.insert [] "network" (.string networkValue)
  let streamSettings := streamSettings.insert "security" (.string security)
  let streamSettings :=
    if security = "tls" then streamSettings.insert "tlsSettings" (.object (tlsSettings srv)) else streamSettings
  let streamSettings :=
    if security = "reality" then streamSettings.insert "realitySettings" (.object (realitySettings srv))
    else streamSettings
  let streamSettings :=
    if transport = "xhttp" then streamSettings.insert "xhttpSettings" (.object (xhttpSettings srv.xhttp))
    else streamSettings
  if transport = "mkcp" then streamSettings.insert "kcpSettings" (.object (kcpSettings srv.mkcp)) else streamSettings

theorem value_ite_insert_of_ne {p : Prop} [Decidable p] (object : JsonObject) {key other : String} (hne : other ≠ key)
    (json : Json) : (if p then object.insert key json else object).value other = object.value other := by
  split_ifs
  · rw [value_insert_of_ne _ hne]
  · rfl

theorem value_realitySettings (srv : XrayServerConfig) :
    (buildStreamSettings srv).value "realitySettings" =
      if srv.member "xray_security" = "reality" then some (.object (realitySettings srv)) else none := by
  unfold buildStreamSettings
  rw [value_ite_insert_of_ne _ (by decide), value_ite_insert_of_ne _ (by decide)]
  by_cases hreality : srv.member "xray_security" = "reality"
  · rw [if_pos hreality, if_pos hreality, value_insert_self]
  · rw [if_neg hreality, if_neg hreality, value_ite_insert_of_ne _ (by decide),
      value_insert_of_ne _ (by decide), value_insert_of_ne _ (by decide)]
    rfl

end XrayStream

end FreshVpn
