import FreshVpn.ConnectionStates
import FreshVpn.XrayStream

/-! The configurator of Xray servers. -/

namespace FreshVpn

open Json (toObject toArray)
open JsonObject

/-- The files in the container that the configurator works with. `serverJson` is what `QJsonDocument::fromJson` makes
of `server.json`, `none` if it is no object. -/
structure XrayServer where
  serverJson : Option JsonObject
  publicKeyFile : String
  shortIdFile : String

/-- What the SSH session and the random generator answer in one call: which attempts to read a key file fail, the
results of reading and of writing the configuration and of the restart, and a new UUID. -/
structure XrayAnswers where
  publicKeyFails : ℕ → Bool
  shortIdFails : ℕ → Bool
  readConfig : ErrorCode
  upload : ErrorCode
  restart : ErrorCode
  uuid : String

namespace XrayConfigurator

/-! ### The server -/

/-- The content of a key file without line breaks. -/
def keyText (content : String) : String := String.ofList (content.toList.filter fun c => c ≠ '\n' && c ≠ '\r')

/-- Up to three attempts, of which `left` are left. -/
def readKeyFile (content : String) (fails : ℕ → Bool) : (left : ℕ) → Except ErrorCode String
  | 0 => .error .xrayRealityKeysReadFailed
  | left + 1 =>
    let out := keyText content
    if !fails (2 - left) && out ≠ "" then .ok out else readKeyFile content fails left

def readRealityKeyFiles (server : XrayServer) (answers : XrayAnswers) : Except ErrorCode (String × String) := do
  let outPublicKey ← readKeyFile server.publicKeyFile answers.publicKeyFails 3
  let outShortId ← readKeyFile server.shortIdFile answers.shortIdFails 3
  return (outPublicKey, outShortId)

variable (srv : XrayServerConfig)

/-- The reality settings of the inbound: the old ones if there are any, with the new names. -/
def mergeRealitySettings (newRs oldRs : JsonObject) : JsonObject :=
  let merged := if oldRs = [] then newRs else oldRs
  let siteEff := orDefault (srv.member "site") "www.googletagmanager.com"
  let sniEff := orDefault (srv.member "xray_sni") siteEff
  let merged :=
    match newRs.value "fingerprint" with
    | some fingerprint => merged.insert "fingerprint" fingerprint
    | none => merged
  let merged := merged.insert "serverNames" (.array [.string sniEff])
  if merged.contains "dest" then merged else merged.insert "dest" (.string (siteEff ++ ":443"))

def mergeStreamSettingsForServerInbound (existingStreamSettings : JsonObject) : JsonObject :=
  let streamSettings := XrayStream.buildStreamSettings srv
  if srv.member "xray_security" ≠ "reality" then streamSettings
  else
    streamSettings.insert "realitySettings" (.object (mergeRealitySettings srv
      (toObject (streamSettings.value "realitySettings"))
      (toObject (existingStreamSettings.value "realitySettings"))))

/-- The flow that is written for clients on the server. -/
def flowValue : String :=
  if srv.member "xray_flow" = "" ∧ srv.member "xray_security" = "reality" then "xtls-rprx-vision"
  else srv.member "xray_flow"

def withFlow (flow : String) (client : JsonObject) : JsonObject :=
  if flow = "" then client.remove "flow" else client.insert "flow" (.string flow)

/-- The clients of the inbound and the id of the client that the configuration is for: a new one at the end, or the
first one. -/
def updatedClients (appendNewClient : Bool) (uuid : String) (clients : List Json) :
    Except ErrorCode (List Json × String) :=
  if appendNewClient then
    let clientEntry := insert [] "id" (.string uuid)
    let clientEntry := clientEntry.insertText "flow" (flowValue srv)
    .ok (clients ++ [.object clientEntry], uuid)
  else
    match clients with
    | [] => .error .xrayServerNoVlessClients
    | first :: _ =>
      let clientId := Json.toString ((toObject (some first)).value "id")
      if clientId = "" then .error .xrayServerNoVlessClients
      else .ok (clients.map fun v => .object (withFlow (flowValue srv) (toObject (some v))), clientId)

/-- The inbound with the stream settings and the port. -/
def inboundWithSettings (inbound : JsonObject) : JsonObject :=
  let existingStream := toObject (inbound.value "streamSettings")
  let inbound := inbound.insert "streamSettings" (.object (mergeStreamSettingsForServerInbound srv existingStream))
  if srv.member "port" = "" then inbound else inbound.insert "port" (.int (toInt (srv.member "port")))

def updatedInbound (appendNewClient : Bool) (uuid : String) (inbound : JsonObject) :
    Except ErrorCode (JsonObject × String) :=
  if !inbound.contains "settings" then .error .xrayServerConfigInvalid
  else
    let inbound := inboundWithSettings srv inbound
    let settings := toObject (inbound.value "settings")
    match updatedClients srv appendNewClient uuid (toArray (settings.value "clients")) with
    | .error error => .error error
    | .ok (clients, clientId) =>
      .ok (inbound.insert "settings" (.object (settings.insert "clients" (.array clients))), clientId)

def updatedServerConfig (appendNewClient : Bool) (uuid : String) (serverConfig : JsonObject) :
    Except ErrorCode (JsonObject × String) :=
  if !serverConfig.contains "inbounds" then .error .xrayServerConfigInvalid
  else
    match toArray (serverConfig.value "inbounds") with
    | [] => .error .xrayServerConfigInvalid
    | first :: others =>
      match updatedInbound srv appendNewClient uuid (toObject (some first)) with
      | .error error => .error error
      | .ok (inbound, clientId) =>
        .ok (serverConfig.insert "inbounds" (.array (.object inbound :: others)), clientId)

/-! ### The client -/

def userObject (clientId : String) : JsonObject :=
  let userObj := insert [] "id" (.string clientId)
  let userObj := userObj.insert "encryption" (.string "none")
  userObj.insertText "flow" (srv.member "xray_flow")

def outboundStream (xrayPublicKey xrayShortId : String) : JsonObject :=
  let streamObj := XrayStream.buildStreamSettings srv
  if srv.member "xray_security" = "reality" then
    let rs := toObject (streamObj.value "realitySettings")
    streamObj.insert "realitySettings" (.object (rs.insert "publicKey" (.string xrayPublicKey)
      |>.insert "shortId" (.string xrayShortId) |>.insert "spiderX" (.string "")))
  else streamObj

def vnextEntry (hostName : String) (srv : XrayServerConfig) (clientId : String) : JsonObject :=
  insert [] "address" (.string hostName)
    |>.insert "port" (.int (toInt (orDefault (srv.member "port") "443")))
    |>.insert "users" (.array [.object (userObject srv clientId)])

def clientOutbound (hostName : String) (srv : XrayServerConfig) (clientId xrayPublicKey xrayShortId : String) :
    JsonObject :=
  let outbound := insert [] "protocol" (.string "vless")
  let outbound := outbound.insert "settings" (.object [("vnext", .array [.object (vnextEntry hostName srv clientId)])])
  outbound.insert "streamSettings" (.object (outboundStream srv xrayPublicKey xrayShortId))

/-- The port of the inbound is a text, as the constant for it is. -/
def clientInbound : JsonObject :=
  insert [] "listen" (.string "127.0.0.1")
    |>.insert "port" (.string "10808")
    |>.insert "protocol" (.string "socks")
    |>.insert "settings" (.object [("udp", .bool true)])

/-- The native configuration of a client, before it is made a text. -/
def clientJson (hostName : String) (srv : XrayServerConfig) (clientId xrayPublicKey xrayShortId : String) :
    JsonObject :=
  insert [] "log" (.object [("loglevel", .string "error")])
    |>.insert "inbounds" (.array [.object clientInbound])
    |>.insert "outbounds" (.array [.object (clientOutbound hostName srv clientId xrayPublicKey xrayShortId)])

/-- The client of a native configuration that has just been generated. -/
def clientConfig (config clientId : String) : Record
  | "config" => .text config
  | "local_port" => .text "10808"
  | "clientId" => .text clientId
  | _ => .text ""

/-- The keys are read again if they have not been read yet. -/
def clientKeys (server : XrayServer) (answers : XrayAnswers) (srv : XrayServerConfig)
    (prefetched : String × String) : Except ErrorCode (String × String) :=
  if srv.member "xray_security" = "reality" ∧ (prefetched.1 = "" ∨ prefetched.2 = "") then
    readRealityKeyFiles server answers
  else .ok prefetched

def buildClientProtocolConfig (text : JsonText) (hostName : String) (server : XrayServer) (answers : XrayAnswers)
    (srv : XrayServerConfig) (clientId : String) (prefetched : String × String) :
    Except ErrorCode XrayProtocolConfig := do
  let (xrayPublicKey, xrayShortId) ← clientKeys server answers srv prefetched
  let config := text.compact (clientJson hostName srv clientId xrayPublicKey xrayShortId)
  return ⟨srv, some (clientConfig config clientId), false⟩

/-! ### The calls -/

/-- The code that a call returns, the server after it, and the values it has given back: `outClientId`, and the
configuration of the container. -/
structure Applied where
  errorCode : ErrorCode
  server : XrayServer
  outClientId : Option String
  protocolConfig : Option XrayProtocolConfig

/-- The keys that the first part of the call reads. -/
def prefetchedKeys (server : XrayServer) (answers : XrayAnswers) (srv : XrayServerConfig) :
    Except ErrorCode (String × String) :=
  if srv.member "xray_security" = "reality" then readRealityKeyFiles server answers else .ok ("", "")

/-- The configuration of the server with the settings, unless something fails before it is uploaded. -/
def preparedConfig (server : XrayServer) (answers : XrayAnswers) (srv : XrayServerConfig) (appendNewClient : Bool) :
    Except ErrorCode (JsonObject × String) :=
  if answers.readConfig ≠ .noError then .error answers.readConfig
  else
    match server.serverJson with
    | none => .error .xrayServerConfigInvalid
    | some serverConfig => updatedServerConfig srv appendNewClient answers.uuid serverConfig

def applyServerSettingsToRemote (text : JsonText) (hostName : String) (server : XrayServer) (answers : XrayAnswers)
    (protocolConfig : Option XrayProtocolConfig) (appendNewClient : Bool) : Applied :=
  let stopped (errorCode : ErrorCode) : Applied := ⟨errorCode, server, none, protocolConfig⟩
  match protocolConfig with
  | none => stopped .internalError
  | some xrayCfg =>
    let srv := xrayCfg.serverConfig
    if (srv.members ConfigKey.isThirdPartyConfig).asFlag then
      ⟨.noError, server, xrayCfg.clientConfig.map fun client => (client "clientId").asText, protocolConfig⟩
    else
      match prefetchedKeys server answers srv with
      | .error errorCode => stopped errorCode
      | .ok keys =>
        match preparedConfig server answers srv appendNewClient with
        | .error errorCode => stopped errorCode
        | .ok (serverConfig, clientId) =>
          if answers.upload ≠ .noError then stopped answers.upload
          else
            -- From here on the new configuration is on the server, whatever follows.
            let uploaded := { server with serverJson := some serverConfig }
            if answers.restart ≠ .noError then ⟨answers.restart, uploaded, none, protocolConfig⟩
            else
              match buildClientProtocolConfig text hostName uploaded answers srv clientId keys with
              | .error errorCode => ⟨errorCode, uploaded, some clientId, protocolConfig⟩
              | .ok updated => ⟨.noError, uploaded, some clientId, some updated⟩

/-- A new client; the second part reads the keys once more. -/
def createConfig (text : JsonText) (hostName : String) (server : XrayServer) (answers later : XrayAnswers)
    (protocolConfig : Option XrayProtocolConfig) : XrayServer × Except ErrorCode XrayProtocolConfig :=
  match protocolConfig with
  | none => (server, .error .internalError)
  | some xrayCfg =>
    let srv := xrayCfg.serverConfig
    if (srv.members ConfigKey.isThirdPartyConfig).asFlag && xrayCfg.clientConfig.isSome then (server, .ok xrayCfg)
    else
      let applied := applyServerSettingsToRemote text hostName server answers protocolConfig true
      if applied.errorCode ≠ .noError then (applied.server, .error applied.errorCode)
      else
        match applied.outClientId with
        | none | some "" => (applied.server, .error .internalError)
        | some clientId =>
          (applied.server, buildClientProtocolConfig text hostName applied.server later srv clientId ("", ""))

end XrayConfigurator

end FreshVpn
