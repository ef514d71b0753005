import FreshVpn.ServersModels
import FreshVpn.UsersServers

/-! The update of the settings of a container on the server (`InstallController::updateServerConfig`). The profile of
this device is cleared and its client is revoked on the way, and then the new configuration is stored. -/

namespace FreshVpn

/-! ### Settings that are compared -/

mutual

/-- `operator==` of `QJsonValue`. -/
def Json.same : Json → Json → Bool
  | .null, .null => true
  | .bool value, .bool other => value = other
  | .double value, .double other => value = other
  | .string value, .string other => value = other
  | .array elements, .array others => Json.sameElements elements others
  | .object members, .object others => Json.sameMembers members others
  | _, _ => false

def Json.sameElements : List Json → List Json → Bool
  | [], [] => true
  | element :: elements, other :: others => Json.same element other && Json.sameElements elements others
  | _, _ => false

def Json.sameMembers : List (String × Json) → List (String × Json) → Bool
  | [], [] => true
  | (key, value) :: members, (key', value') :: others =>
    key = key' && Json.same value value' && Json.sameMembers members others
  | _, _ => false

end

def sameTexts (keys : List String) (record other : Record) : Bool :=
  keys.all fun key => (record key).asText = (other key).asText

def AwgServerConfig.hasEqualServerSettings (config other : Record) : Bool :=
  sameTexts ["subnet_address", "port", "Jc", "Jmin", "Jmax", "S1", "S2", "H1", "H2", "H3", "H4", "I1", "I2", "I3", "I4",
    "I5"] config other &&
  ((config "protocol_version").asText ≠ "2" || sameTexts ["S3", "S4"] config other)

def WireGuardServerConfig.hasEqualServerSettings (config other : Record) : Bool :=
  sameTexts ["subnet_address", "port"] config other

/-- The additional commands of the client are not compared. -/
def OpenVpnServerConfig.hasEqualServerSettings (config other : Record) : Bool :=
  sameTexts ["subnet_address", "port", "transport_proto", "cipher", "hash", "additional_server_config"] config other &&
  ["ncp_disable", "tls_auth"].all fun key => (config key).asFlag = (other key).asFlag

def XrayServerConfig.hasEqualServerSettings (config other : XrayServerConfig) : Bool :=
  sameTexts ["port", "site", "xray_security", "xray_flow", "xray_transport", "xray_fingerprint", "xray_sni", "xray_alpn"]
    config.members other.members &&
  Json.sameMembers config.xhttp.toJson other.xhttp.toJson &&
  Json.sameMembers (XrayMkcpConfig.fields.toJson config.mkcp) (XrayMkcpConfig.fields.toJson other.mkcp)

/-- `ProtocolConfig::clientId` -/
def ProtocolModel.clientId : ProtocolModel → String
  | .tabled c =>
    if c.variant.clientFields.isSome then c.clientConfig.elim "" fun client => (client "clientId").asText else ""
  | .xray c => c.clientId

/-! ### The page of the OpenVPN settings -/

structure OpenVpnConfigModel where
  protocolConfig : TabledConfig
  originalProtocolConfig : TabledConfig

namespace OpenVpnConfigModel

def orDefaultAt (key value : String) (record : Record) : Record :=
  if (record key).asText = "" then Function.update record key (.text value) else record

def applyDefaultsToServerConfig (container : DockerContainer) (config : Record) : Record :=
  orDefaultAt "hash" "SHA512" (orDefaultAt "cipher" "AES-256-GCM"
    (orDefaultAt "transport_proto" (if container = .openVpn then "udp" else "tcp")
      (orDefaultAt "port" "1194" (orDefaultAt "subnet_address" "10.8.0.0" config))))

/-- A flag that is not set becomes the default, which is true, if there are additional commands of the client. -/
def applyDefaultsToClientConfig (serverConfig client : Record) : Record :=
  if !(client "block_outside_dns").asFlag && (serverConfig "additional_client_config").asText ≠ "" then
    Function.update client "block_outside_dns" (.flag true)
  else client

def updateModel (container : DockerContainer) (protocolConfig : TabledConfig) : OpenVpnConfigModel :=
  let serverConfig := applyDefaultsToServerConfig container protocolConfig.serverConfig
  let client := protocolConfig.clientConfig.getD (OpenVpnClientConfig.fields.fromJson [])
  let protocolConfig :=
    { protocolConfig with
      serverConfig := serverConfig
      clientConfig := some (applyDefaultsToClientConfig serverConfig client) }
  ⟨protocolConfig, protocolConfig⟩

def setData (key : String) (value : FieldValue) (page : OpenVpnConfigModel) : OpenVpnConfigModel :=
  { page with
    protocolConfig :=
      { page.protocolConfig with serverConfig := Function.update page.protocolConfig.serverConfig key value } }

def getProtocolConfig (page : OpenVpnConfigModel) : TabledConfig :=
  if OpenVpnServerConfig.hasEqualServerSettings page.protocolConfig.serverConfig
      page.originalProtocolConfig.serverConfig then page.protocolConfig
  else { page.protocolConfig with clientConfig := none }

end OpenVpnConfigModel

/-! ### The server of a container -/

/-- The clients for which `ls pki/issued` shows a certificate; a name is never empty, as hidden files are not shown. -/
structure IssuedCertificates where
  clientIds : List String
  named : "" ∉ clientIds

namespace IssuedCertificates

/-- `easyrsa revoke` takes the certificate away from the issued ones. -/
def revoke (clientId : String) (issued : IssuedCertificates) : IssuedCertificates where
  clientIds := issued.clientIds.filter fun other => other ≠ clientId
  named := fun hmem => issued.named (List.mem_of_mem_filter hmem)

end IssuedCertificates

inductive ContainerServer where
  | vpn (server : VpnServer)
  | openVpn (issued : IssuedCertificates)
  | other

namespace ContainerServer

open UsersController

/-- For a container of another kind `revokeClient` returns an error. -/
def service : ClientService ContainerServer where
  clientIds
    | .vpn server => VpnServer.service.clientIds server
    | .openVpn issued => .ok issued.clientIds
    | .other => .ok []
  revoke clientId
    | .vpn server => (VpnServer.service.revoke clientId server).map .vpn
    | .openVpn issued => .ok (.openVpn (issued.revoke clientId))
    | .other => .error .internalError

theorem emptyIds_openVpn (issued : IssuedCertificates) : emptyIds service (.openVpn issued) = 0 :=
  List.count_eq_zero.mpr issued.named

theorem revoke_vpn {clientId : String} {server : VpnServer} {server' : ContainerServer}
    (h : service.revoke clientId (.vpn server) = .ok server') :
    ∃ vpnServer, VpnServer.service.revoke clientId server = .ok vpnServer ∧ server' = .vpn vpnServer := by
  change (VpnServer.service.revoke clientId server).map _ = _ at h
  cases hrevoke : VpnServer.service.revoke clientId server with
  | error error =>
    rw [hrevoke] at h
    cases h
  | ok vpnServer =>
    rw [hrevoke] at h
    cases h
    exact ⟨vpnServer, rfl, rfl⟩

theorem lawful_service : Lawful service where
  clientIds_error := by
    intro server error h
    cases server with
    | vpn server => exact VpnServer.lawful_service.clientIds_error h
    | openVpn issued => cases h
    | other => cases h
  revoke_error := by
    intro clientId server error h
    cases server with
    | vpn server =>
      change (VpnServer.service.revoke clientId server).map _ = _ at h
      cases hrevoke : VpnServer.service.revoke clientId server with
      | error error' =>
        rw [hrevoke] at h
        cases h
        exact VpnServer.lawful_service.revoke_error hrevoke
      | ok vpnServer =>
        rw [hrevoke] at h
        cases h
    | openVpn issued => cases h
    | other =>
      cases h
      decide
  emptyIds_le := by
    intro clientId server server' h
    cases server with
    | vpn server =>
      obtain ⟨vpnServer, hrevoke, rfl⟩ := revoke_vpn h
      exact VpnServer.lawful_service.emptyIds_le hrevoke
    | openVpn issued =>
      cases h
      rw [emptyIds_openVpn, emptyIds_openVpn]
    | other => cases h
  emptyIds_lt := by
    intro server server' h hpos
    cases server with
    | vpn server =>
      obtain ⟨vpnServer, hrevoke, rfl⟩ := revoke_vpn h
      exact VpnServer.lawful_service.emptyIds_lt hrevoke hpos
    | openVpn issued =>
      rw [emptyIds_openVpn] at hpos
      exact absurd hpos (Nat.lt_irrefl 0)
    | other => cases h

end ContainerServer

namespace InstallController

open UsersController

/-! ### The update -/

/-- A container of a VPN; the other services have no clients. -/
structure VpnContainer where
  container : DockerContainer
  isVpn : container.containerService = .vpn

/-- Only AmneziaWG and WireGuard are left alone if their settings are the same. -/
def isUpdateDockerContainerRequired (container : VpnContainer) (oldConfig newConfig : ProtocolModel) : Bool :=
  match container.container, oldConfig, newConfig with
  | .awg, .tabled ⟨.awg, old, _⟩, .tabled ⟨.awg, new, _⟩ => !AwgServerConfig.hasEqualServerSettings old new
  | .awg2, .tabled ⟨.awg, old, _⟩, .tabled ⟨.awg, new, _⟩ => !AwgServerConfig.hasEqualServerSettings old new
  | .wireGuard, .tabled ⟨.wireGuard, old, _⟩, .tabled ⟨.wireGuard, new, _⟩ =>
    !WireGuardServerConfig.hasEqualServerSettings old new
  | _, _, _ => true

def xrayServerSettingsChanged (container : VpnContainer) (oldConfig newConfig : ProtocolModel) : Bool :=
  match oldConfig, newConfig with
  | .xray old, .xray new =>
    (container.container = .xray || container.container = .ssXray) &&
      !old.serverConfig.hasEqualServerSettings new.serverConfig
  | _, _ => false

/-- What is on the server of the container once it has been configured and started: the files of the clients, and what the
SSH session answers to the configurator of Xray. -/
structure Remote where
  wireguardConfig : List Char
  issued : IssuedCertificates
  xrayServer : XrayServer
  xrayDefaultUuid : String
  xrayAnswers : XrayAnswers
  clientsTableFile : Json

def Remote.server (remote : Remote) (container : VpnContainer) : ContainerServer :=
  match container.container with
  | .awg | .awg2 | .wireGuard => .vpn (.wireGuard remote.wireguardConfig)
  | .openVpn => .openVpn remote.issued
  | .xray => .vpn (.xray remote.xrayDefaultUuid (remote.xrayServer.serverJson.getD []))
  | _ => .other

/-- The synchronisation of the inbound with changed settings, which replaces the client of the new configuration. -/
def syncInbound (text : JsonText) (hostName : String) (container : VpnContainer) (oldConfig newConfig : ProtocolModel)
    (remote : Remote) : Remote × ProtocolModel × ErrorCode :=
  match newConfig with
  | .xray new =>
    if xrayServerSettingsChanged container oldConfig newConfig && !newConfig.isThirdPartyConfig then
      let applied := XrayConfigurator.applyServerSettingsToRemote text hostName remote.xrayServer remote.xrayAnswers
        (some new) false
      ({ remote with xrayServer := applied.server }, .xray (applied.protocolConfig.getD new), applied.errorCode)
    else (remote, newConfig, .noError)
  | .tabled _ => (remote, newConfig, .noError)

/-- The containers that `InstallUiController::updateServerConfig` updates on a worker thread. -/
def asyncUpdate (container : VpnContainer) : Bool := container.container = .xray || container.container = .ssXray

/-- `updateServerConfig` as the settings pages call it, with the signals it raises: the state of the clients afterwards,
with the client id of the profile that is stored, and the code. `stored` is the configuration in the repository, and
`configured` the result of configuring and starting the container. On a worker thread `clientRevocationRequested` is
delivered after the new configuration has been stored; otherwise the handler has returned before. -/
def updateServerConfig (text : JsonText) (hostName : String) (container : VpnContainer)
    (stored oldConfig newConfig : ProtocolModel) (configured : ErrorCode) (remote : Remote) (depth : ℕ) :
    Option (Users ContainerServer × ErrorCode) :=
  let before : Users ContainerServer := ⟨remote.server container, remote.clientsTableFile, [], stored.clientId, []⟩
  if !isUpdateDockerContainerRequired container oldConfig newConfig then
    some ({ before with profile := newConfig.clientId }, .noError)
  else if configured ≠ .noError then some (before, configured)
  else
    let (remote, newConfig, errorCode) := syncInbound text hostName container oldConfig newConfig remote
    let synced := { before with server := remote.server container }
    if errorCode ≠ .noError then some (synced, errorCode)
    else if asyncUpdate container then
      (revokeClientOf ContainerServer.service (clearCachedProfile ContainerServer.service depth) stored.clientId
        { synced with profile := newConfig.clientId }).map fun s => (s, .noError)
    else
      (clearCachedProfile ContainerServer.service depth synced).map fun s =>
        ({ s with profile := newConfig.clientId }, .noError)

/-! ### The profile afterwards -/

def ProfileUsable (s : Users ContainerServer) : Prop :=
  s.profile = "" ∨ ∀ row ∈ s.revoked, rowClientId row ≠ s.profile

/-- A client with the id has a row in the table that is read, and the server can revoke it. -/
def canRevoke (clientId : String) (container : VpnContainer) (remote : Remote) : Bool :=
  match updatedTable ContainerServer.service ⟨remote.server container, remote.clientsTableFile, [], "", []⟩ with
  | .error _ => false
  | .ok clientsTable =>
    isClientExists clientId clientsTable &&
      (ContainerServer.service.revoke clientId (remote.server container)).toOption.isSome

/-- The container is updated on a worker thread or need not be updated; or the new configuration has no client, or
another one than the stored profile, or the client cannot be revoked. -/
def KeepsOff (container : VpnContainer) (stored oldConfig newConfig : ProtocolModel) (remote : Remote) : Prop :=
  asyncUpdate container = true ∨ isUpdateDockerContainerRequired container oldConfig newConfig = false ∨
    newConfig.clientId = "" ∨ newConfig.clientId ≠ stored.clientId ∨
    canRevoke stored.clientId container remote = false

variable {container : VpnContainer}

theorem canRevoke_eq_false_iff {clientId : String} {remote : Remote} :
    canRevoke clientId container remote = false ↔
      Quiet ContainerServer.service ⟨remote.server container, remote.clientsTableFile, [], clientId, []⟩ := by
  rw [← not_iff_not, not_quiet_iff, exists_revokes_iff, Bool.not_eq_false, canRevoke]
  cases updatedTable ContainerServer.service ⟨remote.server container, remote.clientsTableFile, [], "", []⟩ with
  | error error => simp
  | ok clientsTable =>
    cases ContainerServer.service.revoke clientId (remote.server container) with
    | error | ok => simp [Except.toOption]

theorem exists_finishes_queued (clientId : String) (s : Users ContainerServer) (hs : s.revoked = []) :
    ∃ s', Finishes (fun depth => revokeClientOf ContainerServer.service
        (clearCachedProfile ContainerServer.service depth) clientId s) s' ∧ ProfileUsable s' := by
  by_cases hrevokes : ∃ s₁, Revokes ContainerServer.service clientId s s₁
  · obtain ⟨s₁, hrevokes⟩ := hrevokes
    obtain ⟨s', ⟨bound, hbound⟩, hcleared, -⟩ := exists_finishes ContainerServer.lawful_service s₁
    refine ⟨s', ⟨bound, fun depth hdepth => ?_⟩, .inl hcleared⟩
    calc revokeClientOf ContainerServer.service (clearCachedProfile ContainerServer.service depth) clientId s
        = clearCachedProfile ContainerServer.service depth s₁ := revokeClientOf_of_revokes _ hrevokes
      _ = some s' := hbound depth hdepth
  · obtain ⟨clientsTable, file, -, hcall⟩ :=
      revokeClientOf_of_not_revokes ContainerServer.lawful_service (not_exists.mp hrevokes)
    refine ⟨_, ⟨0, fun depth _ => hcall _⟩, .inr ?_⟩
    intro row hrow
    rw [hs] at hrow
    exact absurd hrow List.not_mem_nil

theorem exists_finishes_direct (container : VpnContainer) (remote : Remote) (profile clientId : String) :
    ∃ s', Finishes (fun depth => clearCachedProfile ContainerServer.service depth
        ⟨remote.server container, remote.clientsTableFile, [], profile, []⟩) s' ∧
      (ProfileUsable { s' with profile := clientId } ↔
        clientId = "" ∨ clientId ≠ profile ∨ canRevoke profile container remote = false) := by
  obtain ⟨s', hfinishes, -, hcases⟩ := exists_finishes ContainerServer.lawful_service
    ⟨remote.server container, remote.clientsTableFile, [], profile, []⟩
  refine ⟨s', hfinishes, ?_⟩
  rw [canRevoke_eq_false_iff]
  rcases hcases with ⟨⟨client, rows, hclient, hrevoked, hunnamed⟩, hloud⟩ | ⟨hquiet, -, hrevoked, -⟩
  · have hid := rowClientId_of_hasClientId hclient
    constructor
    · rintro (hempty | hnone)
      · exact .inl hempty
      · have hne : rowClientId client ≠ clientId := hnone client (by rw [hrevoked]; exact List.mem_cons_self)
        exact .inr (.inl fun heq => hne (hid.trans heq.symm))
    · rintro (hempty | hne | hquiet)
      · exact .inl hempty
      · by_cases hempty : clientId = ""
        · exact .inl hempty
        · refine .inr fun row hrow => ?_
          rw [hrevoked] at hrow
          rcases List.mem_cons.mp hrow with rfl | hrow
          · exact fun heq => hne (heq.symm.trans hid)
          · exact fun heq => hempty (heq.symm.trans (rowClientId_of_hasClientId (hunnamed row hrow)))
      · exact absurd hquiet hloud
  · refine iff_of_true (.inr fun row hrow => ?_) (.inr (.inr hquiet))
    rw [hrevoked] at hrow
    exact absurd hrow List.not_mem_nil

theorem syncInbound_of_direct (text : JsonText) (hostName : String) (hdirect : asyncUpdate container = false)
    (oldConfig newConfig : ProtocolModel) (remote : Remote) :
    syncInbound text hostName container oldConfig newConfig remote = (remote, newConfig, .noError) := by
  have hunchanged : xrayServerSettingsChanged container oldConfig newConfig = false := by
    unfold xrayServerSettingsChanged
    split
    · rw [show (container.container = .xray || container.container = .ssXray) = false from hdirect, Bool.false_and]
    · rfl
  cases newConfig with
  | tabled config => rfl
  | xray config => rw [syncInbound, hunchanged, Bool.false_and, if_neg Bool.false_ne_true]

section Update

variable {text : JsonText} {hostName : String} {container : VpnContainer} {stored oldConfig newConfig : ProtocolModel}
  {configured : ErrorCode} {remote : Remote}

theorem updateServerConfig_of_not_required
    (hrequired : isUpdateDockerContainerRequired container oldConfig newConfig = false) (depth : ℕ) :
    updateServerConfig text hostName container stored oldConfig newConfig configured remote depth =
      some (⟨remote.server container, remote.clientsTableFile, [], newConfig.clientId, []⟩, .noError) := by
  rw [updateServerConfig, hrequired]
  rfl

section
variable (hrequired : isUpdateDockerContainerRequired container oldConfig newConfig = true)
include hrequired

theorem updateServerConfig_of_not_configured (hconfigured : configured ≠ .noError) (depth : ℕ) :
    updateServerConfig text hostName container stored oldConfig newConfig configured remote depth =
      some (⟨remote.server container, remote.clientsTableFile, [], stored.clientId, []⟩, configured) := by
  rw [updateServerConfig, hrequired]
  exact if_pos hconfigured

theorem updateServerConfig_of_direct (hdirect : asyncUpdate container = false) (depth : ℕ) :
    updateServerConfig text hostName container stored oldConfig newConfig .noError remote depth =
      (clearCachedProfile ContainerServer.service depth
        ⟨remote.server container, remote.clientsTableFile, [], stored.clientId, []⟩).map fun s =>
          ({ s with profile := newConfig.clientId }, .noError) := by
  rw [updateServerConfig, hrequired, syncInbound_of_direct text hostName hdirect, hdirect]
  rfl

theorem updateServerConfig_of_async (hasync : asyncUpdate container = true) {remote' : Remote}
    {newConfig' : ProtocolModel} {errorCode : ErrorCode}
    (hsync : syncInbound text hostName container oldConfig newConfig remote = (remote', newConfig', errorCode))
    (depth : ℕ) :
    updateServerConfig text hostName container stored oldConfig newConfig .noError remote depth =
      if errorCode ≠ .noError then
        some (⟨remote'.server container, remote.clientsTableFile, [], stored.clientId, []⟩, errorCode)
      else
        (revokeClientOf ContainerServer.service (clearCachedProfile ContainerServer.service depth) stored.clientId
          ⟨remote'.server container, remote.clientsTableFile, [], newConfig'.clientId, []⟩).map fun s =>
            (s, .noError) := by
  rw [updateServerConfig, hrequired, hsync, hasync]
  rfl

end

end Update

/-- **The profile after an update**: it is usable if and only if the update did not both revoke the client of the stored
profile and store this profile again. -/
theorem profile_usable_iff (text : JsonText) (hostName : String) (container : VpnContainer)
    (stored oldConfig newConfig : ProtocolModel) (configured : ErrorCode) (remote : Remote) :
    ∃ s errorCode,
      Finishes (updateServerConfig text hostName container stored oldConfig newConfig configured remote)
        (s, errorCode) ∧
      (errorCode = .noError → (ProfileUsable s ↔ KeepsOff container stored oldConfig newConfig remote)) := by
  cases hrequired : isUpdateDockerContainerRequired container oldConfig newConfig with
  | false =>
    refine ⟨_, _, ⟨0, fun depth _ => updateServerConfig_of_not_required hrequired depth⟩, fun _ => ?_⟩
    exact iff_of_true (.inr (List.forall_mem_nil _)) (.inr (.inl hrequired))
  | true =>
    by_cases hconfigured : configured = .noError
    · subst hconfigured
      cases hasync : asyncUpdate container with
      | false =>
        obtain ⟨s', hfinishes, husable⟩ :=
          exists_finishes_direct container remote stored.clientId newConfig.clientId
        refine ⟨{ s' with profile := newConfig.clientId }, .noError, ?_, fun _ => ?_⟩
        · rw [funext (updateServerConfig_of_direct hrequired hasync)]
          exact hfinishes.map _
        · rw [husable, KeepsOff, hasync, hrequired]
          simp
      | true =>
        obtain ⟨remote', newConfig', errorCode, hsync⟩ :
          ∃ remote' newConfig' errorCode, syncInbound text hostName container oldConfig newConfig remote =
            (remote', newConfig', errorCode) := ⟨_, _, _, rfl⟩
        by_cases herror : errorCode = .noError
        · obtain ⟨s', hfinishes, husable⟩ := exists_finishes_queued stored.clientId
            ⟨remote'.server container, remote.clientsTableFile, [], newConfig'.clientId, []⟩ rfl
          refine ⟨s', .noError, ?_, fun _ => iff_of_true husable (.inl hasync)⟩
          rw [funext (updateServerConfig_of_async hrequired hasync hsync)]
          simp only [if_neg (not_not.mpr herror)]
          exact hfinishes.map _
        · exact ⟨_, _, ⟨0, fun depth _ => (updateServerConfig_of_async hrequired hasync hsync depth).trans
            (if_pos herror)⟩, fun h => absurd h herror⟩
    · exact ⟨_, _, ⟨0, fun depth _ => updateServerConfig_of_not_configured hrequired hconfigured depth⟩,
        fun h => absurd h hconfigured⟩

def openVpnSettings : Record
  | "port" => .text "1194"
  | "transport_proto" => .text "udp"
  | "subnet_address" => .text "10.8.0.0"
  | "cipher" => .text "AES-256-GCM"
  | "hash" => .text "SHA512"
  | "ncp_disable" => .flag false
  | "tls_auth" => .flag true
  | _ => .text ""

def openVpnProfile : Record
  | "clientId" => .text "s7dbv2g9k1xw"
  | "config" => .text "client\ndev tun\n"
  | "block_outside_dns" => .flag true
  | _ => .text ""

def openVpnStored : TabledConfig := ⟨.openVpn, openVpnSettings, some openVpnProfile⟩

def openVpnEdited : TabledConfig :=
  ((OpenVpnConfigModel.updateModel .openVpn openVpnStored).setData "additional_client_config"
    (.text "mssfix 1300")).getProtocolConfig

def openVpnRemote : Remote where
  wireguardConfig := []
  issued := ⟨["s7dbv2g9k1xw"], by decide⟩
  xrayServer := ⟨none, "", ""⟩
  xrayDefaultUuid := ""
  xrayAnswers := .success ""
  clientsTableFile := .array [clientRow "s7dbv2g9k1xw" none]

/-- The certificate is revoked, and the profile with it is stored again. -/
theorem openVpn_profile_revoked_and_stored :
    ∃ s, Finishes (updateServerConfig JsonText.tokens "203.0.113.7" ⟨.openVpn, by decide⟩ (.tabled openVpnStored)
        (.tabled openVpnStored) (.tabled openVpnEdited) .noError openVpnRemote) (s, .noError) ∧
      s.profile = "s7dbv2g9k1xw" ∧ ¬ ProfileUsable s := by
  have hrevoke : canRevoke "s7dbv2g9k1xw" ⟨.openVpn, by decide⟩ openVpnRemote = true := by decide +kernel
  obtain ⟨s', hfinishes, husable⟩ :=
    exists_finishes_direct ⟨.openVpn, by decide⟩ openVpnRemote "s7dbv2g9k1xw" "s7dbv2g9k1xw"
  refine ⟨{ s' with profile := "s7dbv2g9k1xw" }, ?_, rfl, ?_⟩
  · exact hfinishes.map _
  · rw [husable, hrevoke]
    decide

end InstallController

end FreshVpn

