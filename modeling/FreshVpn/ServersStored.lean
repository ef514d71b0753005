import FreshVpn.ServersReencode
import FreshVpn.ServersInvariant

/-! A stored server, decoded by its kind: what it is classified as once it has been stored again, and what a
connection is then built from. -/

namespace FreshVpn

open ConfigKey JsonObject FieldTable Json

inductive StoredServer where
  | selfHostedAdmin (config : SelfHostedAdminModel)
  | selfHostedUser (config : ServerModel)
  | native (config : ServerModel)
  | apiV2 (config : ApiV2Model)

namespace StoredServer

variable (text : JsonText)

def model : StoredServer → ServerModel
  | .selfHostedAdmin config => config.toServerModel
  | .selfHostedUser config | .native config => config
  | .apiV2 config => config.toServerModel

def fromJson (kind : ConfigType) (json : JsonObject) : Option StoredServer :=
  match kind with
  | .selfHostedAdmin => some (.selfHostedAdmin (SelfHostedAdminModel.fromJson text json))
  | .selfHostedUser => some (.selfHostedUser (ServerModel.fromJson text json))
  | .native => some (.native (ServerModel.fromJson text json))
  | .amneziaPremiumV2 | .amneziaFreeV3 | .externalPremium => some (.apiV2 (ApiV2Model.fromJson text json))
  | _ => none

def toJson : StoredServer → JsonObject
  | .selfHostedAdmin config => config.toJson text
  | .selfHostedUser config | .native config => config.toJson text
  | .apiV2 config => config.toJson text

/-! ### Encoding -/

theorem encodes_toJson (s : StoredServer) : s.model.Encodes text (withoutStorageServerId (s.toJson text)) := by
  intro entry hentry
  have hkey : entry.1 ≠ storageServerId := by
    revert entry
    decide +kernel
  refine (value_remove_of_ne _ hkey).trans ?_
  cases s with
  | selfHostedUser config | native config => exact value_toJson hentry _
  | selfHostedAdmin config =>
    have hmem : entry ∈ SelfHostedAdminModel.fields.entries := List.mem_append_left _ hentry
    refine (value_toJson hmem (config.members text)).trans ?_
    simp only [ServerModel.fields, List.mem_cons, List.not_mem_nil, or_false] at hentry
    rcases hentry with rfl | rfl | rfl | rfl | rfl | rfl <;> rfl
  | apiV2 config =>
    have hmem : entry ∈ ApiV2Model.fields.entries := by
      simp only [ServerModel.fields, List.mem_cons, List.not_mem_nil, or_false] at hentry
      rcases hentry with rfl | rfl | rfl | rfl | rfl | rfl <;> simp [ApiV2Model.fields]
    refine (value_toJson hmem (config.members text)).trans ?_
    simp only [ServerModel.fields, List.mem_cons, List.not_mem_nil, or_false] at hentry
    rcases hentry with rfl | rfl | rfl | rfl | rfl | rfl <;> rfl

theorem withoutStorageServerId_toJson (s : StoredServer) : withoutStorageServerId (s.toJson text) = s.toJson text := by
  have hadmin : storageServerId ∉ SelfHostedAdminModel.fields.entries.map Prod.fst := by decide +kernel
  have hserver : storageServerId ∉ ServerModel.fields.entries.map Prod.fst := by decide +kernel
  have hapi : storageServerId ∉ ApiV2Model.fields.entries.map Prod.fst := by decide +kernel
  refine remove_eq_self ?_
  cases s with
  | selfHostedAdmin config => exact value_toJson_of_not_mem hadmin _
  | selfHostedUser config | native config => exact value_toJson_of_not_mem hserver _
  | apiV2 config => exact value_toJson_of_not_mem hapi _

theorem value_toJson_apiV2 (config : ApiV2Model) (key : String) (kind : FieldKind)
    (hmem : (key, kind) ∈ ApiV2Model.fields.entries) (hkey : key ≠ storageServerId) :
    (withoutStorageServerId (config.toJson text)).value key = kind.write (config.members text key) :=
  (value_remove_of_ne _ hkey).trans (value_toJson hmem _)

theorem value_toJson_selfHostedAdmin (config : SelfHostedAdminModel) (key : String) (kind : FieldKind)
    (hmem : (key, kind) ∈ SelfHostedAdminModel.fields.entries) (hkey : key ≠ storageServerId) :
    (withoutStorageServerId (config.toJson text)).value key = kind.write (config.members text key) :=
  (value_remove_of_ne _ hkey).trans (value_toJson hmem _)

theorem toObject_write_object (members : JsonObject) :
    Json.toObject (FieldKind.write .object (.object members)) = members := by
  change toObject (if members = [] then none else some (.object members)) = members
  split_ifs with hnil
  · exact hnil.symm
  · rfl

theorem toInt_write_positive {i : Int} (hpos : 0 < i) (hle : i ≤ 2147483647) :
    Json.toInt (FieldKind.write .positive (.number i)) 0 = i := by
  have hwrite : FieldKind.write .positive (.number i) = some (.double i) := if_pos hpos
  rw [hwrite, toInt_double ⟨by omega, hle⟩]

theorem port_fromJson (json : JsonObject) :
    (SelfHostedAdminServerConfig.fromJson json).port = Json.toInt (json.value port) 0 := by
  change (if (json.value port).isSome = true then _ else _) = _
  cases json.value port <;> rfl

theorem credentials_toJson_selfHostedAdmin (config : SelfHostedAdminModel)
    (hport : 0 < config.port ∧ config.port ≤ 2147483647) :
    let read := SelfHostedAdminServerConfig.fromJson (withoutStorageServerId (config.toJson text))
    read.userName = config.userName ∧ read.password = config.password ∧ read.port = config.port := by
  refine ⟨?_, ?_, ?_⟩
  · change toString ((withoutStorageServerId (config.toJson text)).value "userName") = _
    rw [value_toJson_selfHostedAdmin text config _ .text (by simp [SelfHostedAdminModel.fields]) (by decide)]
    exact ServerModel.toString_write_text _
  · change toString ((withoutStorageServerId (config.toJson text)).value "password") = _
    rw [value_toJson_selfHostedAdmin text config _ .text (by simp [SelfHostedAdminModel.fields]) (by decide)]
    exact ServerModel.toString_write_text _
  · rw [port_fromJson, port, value_toJson_selfHostedAdmin text config _ .positive
      (by simp [SelfHostedAdminModel.fields]) (by decide)]
    exact toInt_write_positive hport.1 hport.2

end StoredServer

/-! ### Kinds -/

/-- The kind of a subscription by its service. -/
def serviceConfigType (serviceType : String) : Option ConfigType :=
  if serviceType == "amnezia-premium" then some .amneziaPremiumV2
  else if serviceType == "amnezia-free" then some .amneziaFreeV3
  else if serviceType == "external-premium" then some .externalPremium
  else none

theorem gatewayConfigType_eq (json : JsonObject) :
    gatewayConfigType json = serviceConfigType
      (Json.toString ((Json.toObject (json.value apiConfig)).value serviceType)) := rfl

theorem isApiV2Subscription_of_serviceConfigType {serviceType : String} {kind : ConfigType}
    (h : serviceConfigType serviceType = some kind) : kind.isApiV2Subscription = true := by
  unfold serviceConfigType at h
  split_ifs at h <;> cases h <;> rfl

theorem configTypeFromJson_cases (endpoints : ApiEndpoints) (json : JsonObject) :
    configTypeFromJson endpoints json = selfHostedConfigType json ∨
      (gatewayConfigType json = some (configTypeFromJson endpoints json) ∧
        (Json.toInt (json.value configVersion) 0 = 2 ∨
          Json.toInt (json.value configVersion) 0 = 1 ∧ endpoints.premiumV1Endpoint ≠ "" ∧
            endpoints.freeV2Endpoint ≠ "")) ∨
      (configTypeFromJson endpoints json).isLegacyApiSubscription = true := by
  have hempty : ∀ s, containsText s "" = true := by
    intro s
    unfold containsText
    cases s.toList <;> rfl
  unfold configTypeFromJson
  dsimp only
  split_ifs with htelegram hgateway
  · unfold telegramConfigType
    dsimp only
    split_ifs with hpremium hfree
    · exact Or.inr (Or.inr rfl)
    · exact Or.inr (Or.inr rfl)
    · cases hkind : gatewayConfigType json with
      | none => exact Or.inl rfl
      | some kind =>
        refine Or.inr (Or.inl ⟨rfl, Or.inr ⟨htelegram, fun heq => ?_, fun heq => ?_⟩⟩)
        · rw [heq] at hpremium
          exact hpremium (hempty _)
        · rw [heq] at hfree
          exact hfree (hempty _)
  · cases hkind : gatewayConfigType json with
    | none => exact Or.inl rfl
    | some kind => exact Or.inr (Or.inl ⟨rfl, Or.inl hgateway⟩)
  · exact Or.inl rfl

namespace StoredServer

variable (text : JsonText)

/-- What the decoder of a kind returns for an object of this kind. A native server's mark is not part of it:
the decoder may have missed it. -/
def OfKind (endpoints : ApiEndpoints) (kind : ConfigType) : StoredServer → Prop
  | .selfHostedAdmin config => kind = .selfHostedAdmin ∧ ¬ config.IsThirdParty ∧
      config.userName ≠ "" ∧ config.password ≠ "" ∧ 0 < config.port ∧ config.port ≤ 2147483647
  | .selfHostedUser config => kind = .selfHostedUser ∧ ¬ config.IsThirdParty
  | .native _ => kind = .native
  | .apiV2 config => serviceConfigType (config.apiConfig.plain serviceType).asText = some kind ∧
      (config.configVersion = 2 ∨
        config.configVersion = 1 ∧ endpoints.premiumV1Endpoint ≠ "" ∧ endpoints.freeV2Endpoint ≠ "")

theorem toInt_eq_of_ne {value : Option Json} {default i : Int} (h : Json.toInt value default = i) (hne : i ≠ default)
    (default' : Int) : Json.toInt value default' = i := by
  unfold toInt at h ⊢
  split at h
  · split_ifs at h ⊢
    · exact h
    · exact absurd h.symm hne
  · exact absurd h.symm hne

variable {text} {endpoints : ApiEndpoints}

theorem ofKind_fromJson {json : JsonObject} {s : StoredServer}
    (h : fromJson text (configTypeFromJson endpoints json) json = some s) :
    s.OfKind endpoints (configTypeFromJson endpoints json) := by
  rcases configTypeFromJson_cases endpoints json with hkind | ⟨hservice, hversion⟩ | hlegacy
  · rw [hkind] at h ⊢
    unfold selfHostedConfigType at h ⊢
    split_ifs at h ⊢ with hmark hcredentials
    · cases h
      rfl
    · cases h
      have hports := toInt_range (show -2147483648 ≤ (0 : Int) ∧ (0 : Int) ≤ 2147483647 by decide)
        (json.value port)
      simp only [SelfHostedAdminServerConfig.hasCredentials, Bool.and_eq_true, bne_iff_ne, ne_eq,
        decide_eq_true_eq] at hcredentials
      refine ⟨rfl, fun hthird => hmark ?_, hcredentials.1.1, hcredentials.1.2, hcredentials.2, ?_⟩
      · exact hasThirdPartyConfig_of_keepsThirdPartyConfig ((ServerModel.isThirdParty_fromJson json).mp hthird)
      · exact (port_fromJson json).trans_le hports.2
    · cases h
      refine ⟨rfl, fun hthird => hmark ?_⟩
      exact hasThirdPartyConfig_of_keepsThirdPartyConfig ((ServerModel.isThirdParty_fromJson json).mp hthird)
  · generalize configTypeFromJson endpoints json = kind at h hservice ⊢
    rw [gatewayConfigType_eq] at hservice
    have hapi := isApiV2Subscription_of_serviceConfigType hservice
    have hs : s = .apiV2 (ApiV2Model.fromJson text json) := by
      cases kind <;> first | exact absurd hapi Bool.false_ne_true | exact (Option.some.inj h).symm
    subst hs
    refine ⟨?_, ?_⟩
    · rw [← hservice]
      change serviceConfigType (ApiConfig.fields.fromJson _ "service_type").asText = _
      rw [fromJson_of_mem (show ("service_type", .text) ∈ ApiConfig.fields.entries by simp [ApiConfig.fields])]
      rfl
    · exact hversion.imp (fun h => toInt_eq_of_ne h (by decide) _)
        (fun h => ⟨toInt_eq_of_ne h.1 (by decide) _, h.2⟩)
  · generalize configTypeFromJson endpoints json = kind at h hlegacy
    cases kind <;> first | exact absurd hlegacy Bool.false_ne_true | cases h

theorem configTypeFromJson_toJson_of_selfHosted (endpoints : ApiEndpoints) (table : FieldTable)
    (hkey : configVersion ∉ table.entries.map Prod.fst) (record : Record) :
    configTypeFromJson endpoints (withoutStorageServerId (table.toJson record)) =
      selfHostedConfigType (withoutStorageServerId (table.toJson record)) := by
  have hversion : (withoutStorageServerId (table.toJson record)).value configVersion = none :=
    (value_remove_of_ne _ (by decide)).trans (value_toJson_of_not_mem hkey record)
  unfold configTypeFromJson
  rw [hversion]
  rfl

theorem configTypeFromJson_toJson_serverModel (endpoints : ApiEndpoints) (config : ServerModel) :
    configTypeFromJson endpoints (withoutStorageServerId (config.toJson text)) =
      if hasThirdPartyConfig (withoutStorageServerId (config.toJson text)) then .native else .selfHostedUser := by
  have huser : (withoutStorageServerId (config.toJson text)).value userName = none :=
    (value_remove_of_ne _ (by decide)).trans (value_toJson_of_not_mem (by decide +kernel) _)
  have hcredentials : (SelfHostedAdminServerConfig.fromJson
      (withoutStorageServerId (config.toJson text))).hasCredentials = false := by
    unfold SelfHostedAdminServerConfig.hasCredentials SelfHostedAdminServerConfig.fromJson
    dsimp only
    rw [huser]
    rfl
  refine (configTypeFromJson_toJson_of_selfHosted endpoints ServerModel.fields (by decide +kernel) _).trans ?_
  change selfHostedConfigType (withoutStorageServerId (config.toJson text)) = _
  rw [selfHostedConfigType, hcredentials, if_neg Bool.false_ne_true]

theorem configTypeFromJson_toJson_selfHostedAdmin (endpoints : ApiEndpoints) {config : SelfHostedAdminModel}
    (huser : config.userName ≠ "") (hpassword : config.password ≠ "")
    (hport : 0 < config.port ∧ config.port ≤ 2147483647) :
    configTypeFromJson endpoints (withoutStorageServerId (config.toJson text)) =
      if hasThirdPartyConfig (withoutStorageServerId (config.toJson text)) then .native else .selfHostedAdmin := by
  obtain ⟨hreadUser, hreadPassword, hreadPort⟩ := credentials_toJson_selfHostedAdmin text config hport
  have hcredentials : (SelfHostedAdminServerConfig.fromJson
      (withoutStorageServerId (config.toJson text))).hasCredentials = true := by
    rw [SelfHostedAdminServerConfig.hasCredentials, hreadUser, hreadPassword, hreadPort]
    simp [huser, hpassword, hport.1]
  refine (configTypeFromJson_toJson_of_selfHosted endpoints SelfHostedAdminModel.fields
    (by decide +kernel) _).trans ?_
  change selfHostedConfigType (withoutStorageServerId (config.toJson text)) = _
  rw [selfHostedConfigType, hcredentials, if_pos rfl]

theorem configTypeFromJson_toJson_apiV2 {kind : ConfigType} {config : ApiV2Model}
    (h : OfKind endpoints kind (.apiV2 config)) :
    configTypeFromJson endpoints (withoutStorageServerId (config.toJson text)) = kind := by
  obtain ⟨hservice, hversion⟩ := h
  have hread : toInt ((withoutStorageServerId (config.toJson text)).value configVersion) 0 =
      config.configVersion := by
    have hrange : -2147483648 ≤ config.configVersion ∧ config.configVersion ≤ 2147483647 := by omega
    rw [value_toJson_apiV2 text config _ (.number 2) (by simp [ApiV2Model.fields, configVersion])
      (by decide)]
    exact toInt_double hrange 0
  have hgateway : gatewayConfigType (withoutStorageServerId (config.toJson text)) = some kind := by
    have hapi : toObject ((withoutStorageServerId (config.toJson text)).value apiConfig) =
        config.apiConfig.toJson := by
      rw [value_toJson_apiV2 text config _ .object (by simp [ApiV2Model.fields, apiConfig])
        (by decide)]
      exact toObject_write_object _
    rw [gatewayConfigType_eq, hapi, ← hservice]
    have hmem : (serviceType, FieldKind.text) ∈ ApiConfig.fields.entries := by
      simp [ApiConfig.fields, serviceType]
    refine congrArg serviceConfigType ((congrArg toString (value_toJson hmem _)).trans ?_)
    exact ServerModel.toString_write_text _
  have hendpoint : toString ((withoutStorageServerId (config.toJson text)).value apiEndpoint) = "" := by
    rw [withoutStorageServerId, value_remove_of_ne _ (by decide)]
    exact congrArg toString (value_toJson_of_not_mem (by decide +kernel) _)
  have hmissing : ∀ endpoint : String, endpoint ≠ "" → containsText "" endpoint = false := by
    intro endpoint hne
    unfold containsText
    cases hchars : endpoint.toList with
    | nil => exact absurd (String.toList_eq_nil_iff.mp hchars) hne
    | cons c rest => rfl
  unfold configTypeFromJson
  dsimp only
  rw [hread]
  rcases hversion with h2 | ⟨h1, hpremium, hfree⟩
  · rw [h2, if_neg (by decide), if_pos rfl, hgateway]
    rfl
  · rw [h1, if_pos rfl, telegramConfigType, hendpoint]
    rw [hmissing _ hpremium, hmissing _ hfree, if_neg Bool.false_ne_true, if_neg Bool.false_ne_true, hgateway]
    rfl

/-- **The kind of a server that is stored again.** It is the same unless the server was native and its decoder
has missed the mark. -/
theorem OfKind.configTypeFromJson_toJson (text : JsonText) {kind : ConfigType} {s : StoredServer}
    (h : s.OfKind endpoints kind) :
    configTypeFromJson endpoints (withoutStorageServerId (s.toJson text)) = kind ↔
      (kind = .native → s.model.IsThirdParty) := by
  have hmark := (s.encodes_toJson text).hasThirdPartyConfig_iff
  cases s with
  | native config =>
    cases h
    refine Iff.trans ?_ (hmark.trans ⟨fun hthird _ => hthird, fun hthird => hthird rfl⟩)
    change configTypeFromJson endpoints (withoutStorageServerId (config.toJson text)) = _ ↔
      hasThirdPartyConfig (withoutStorageServerId (config.toJson text)) = true
    rw [configTypeFromJson_toJson_serverModel]
    split_ifs with hthird <;> simp [hthird]
  | selfHostedUser config =>
    obtain ⟨rfl, hnot⟩ := h
    refine iff_of_true ?_ fun heq => by cases heq
    exact (configTypeFromJson_toJson_serverModel endpoints config).trans
      (if_neg fun hthird => hnot (hmark.mp hthird))
  | selfHostedAdmin config =>
    obtain ⟨rfl, hnot, huser, hpassword, hport⟩ := h
    refine iff_of_true ?_ fun heq => by cases heq
    exact (configTypeFromJson_toJson_selfHostedAdmin endpoints huser hpassword hport).trans
      (if_neg fun hthird => hnot (hmark.mp hthird))
  | apiV2 config =>
    refine iff_of_true (configTypeFromJson_toJson_apiV2 h) fun heq => ?_
    have hapi := isApiV2Subscription_of_serviceConfigType h.1
    rw [heq] at hapi
    cases hapi

end StoredServer

/-! ### What a connection is built from -/

/-- What a server is administered with, or its subscription is known by. -/
inductive Account where
  | none
  | ssh (userName password : String) (port : Int)
  | api (apiKey description : String) (configVersion : Int)

structure ServerParts where
  name : String
  hostName : String
  dns1 : String
  dns2 : String
  defaultContainer : DockerContainer
  account : Account
  /-- What each container hands to its protocol. -/
  containers : DockerContainer → Option JsonObject

namespace StoredServer

def name : StoredServer → String
  | .selfHostedAdmin config => config.description
  | .selfHostedUser config | .native config => config.description
  | .apiV2 config => config.name

def account : StoredServer → Account
  | .selfHostedAdmin config => .ssh config.userName config.password config.port
  | .selfHostedUser _ | .native _ => .none
  | .apiV2 config => .api (config.authData "api_key").asText config.description config.configVersion

def parts (process : DockerContainer → String → String) (s : StoredServer) : ServerParts where
  name := s.name
  hostName := s.model.hostName
  dns1 := s.model.dns1
  dns2 := s.model.dns2
  defaultContainer := s.model.defaultContainer
  account := s.account
  containers container := (s.model.containers container).map fun c => c.protocolConfig.handed (process container)

variable {text : JsonText}

theorem account_toJson_apiV2 (text : JsonText) (config : ApiV2Model)
    (hversion : -2147483648 ≤ config.configVersion ∧ config.configVersion ≤ 2147483647) :
    let read := ApiV2Model.fromJson text (withoutStorageServerId (config.toJson text))
    read.name = config.name ∧ (read.authData "api_key").asText = (config.authData "api_key").asText ∧
      read.configVersion = config.configVersion := by
  refine ⟨?_, ?_, ?_⟩
  · change toString ((withoutStorageServerId (config.toJson text)).value "name") = _
    rw [value_toJson_apiV2 text config _ .text (by simp [ApiV2Model.fields]) (by decide)]
    exact ServerModel.toString_write_text _
  · change (AuthData.fields.fromJson (toObject ((withoutStorageServerId (config.toJson text)).value "auth_data"))
      "api_key").asText = _
    rw [value_toJson_apiV2 text config _ .object (by simp [ApiV2Model.fields]) (by decide)]
    change (AuthData.fields.fromJson (toObject (FieldKind.write .object
      (.object (AuthData.fields.toJson config.authData)))) "api_key").asText = _
    have hmem : ("api_key", FieldKind.text) ∈ AuthData.fields.entries := by simp [AuthData.fields]
    rw [toObject_write_object, fromJson_of_mem hmem, value_toJson hmem]
    exact ServerModel.toString_write_text _
  · change toInt ((withoutStorageServerId (config.toJson text)).value "config_version") 2 = _
    rw [value_toJson_apiV2 text config _ (.number 2) (by simp [ApiV2Model.fields]) (by decide)]
    exact toInt_double hversion 2

/-- **A stored server read back.** All parts are the same but for the containers, each of which is read from
what it was encoded as. -/
theorem OfKind.fromJson_toJson {endpoints : ApiEndpoints} {kind : ConfigType} {s : StoredServer}
    (h : s.OfKind endpoints kind) (hread : s.model.Readable text) :
    ∃ s', fromJson text kind (withoutStorageServerId (s.toJson text)) = some s' ∧
      (∀ process, { s'.parts process with containers := (s.parts process).containers } = s.parts process) ∧
      ∀ container, s'.model.containers container =
        (s.model.containers container).map fun c => ContainerModel.fromJson text (c.toJson text) := by
  obtain ⟨hdescription, hhostName, hdefault, hdns1, hdns2, hcontainers⟩ := (s.encodes_toJson text).fromJson_eq hread
  -- It remains to name the decoded server and to compare its name and its account.
  suffices hs' : ∃ s', fromJson text kind (withoutStorageServerId (s.toJson text)) = some s' ∧
      s'.name = s.name ∧ s'.account = s.account ∧
      { s'.model with displayName := "" } =
        { ServerModel.fromJson text (withoutStorageServerId (s.toJson text)) with displayName := "" } by
    obtain ⟨s', hfrom, hname, haccount, hmodel⟩ := hs'
    simp only [ServerModel.mk.injEq] at hmodel
    obtain ⟨-, -, hhostName', hcontainers', hdefault', hdns1', hdns2'⟩ := hmodel
    refine ⟨s', hfrom, fun process => ?_, fun container => ?_⟩
    · simp only [parts, ServerParts.mk.injEq]
      exact ⟨hname, hhostName'.trans hhostName, hdns1'.trans hdns1, hdns2'.trans hdns2, hdefault'.trans hdefault,
        haccount, trivial⟩
    · rw [hcontainers']
      exact hcontainers container
  cases s with
  | native config =>
    cases h
    exact ⟨_, rfl, hdescription, rfl, rfl⟩
  | selfHostedUser config =>
    obtain ⟨rfl, -⟩ := h
    exact ⟨_, rfl, hdescription, rfl, rfl⟩
  | selfHostedAdmin config =>
    obtain ⟨rfl, -, -, -, hport⟩ := h
    obtain ⟨huser, hpassword, hport⟩ := credentials_toJson_selfHostedAdmin text config hport
    refine ⟨_, rfl, hdescription, ?_, rfl⟩
    change Account.ssh _ _ _ = Account.ssh _ _ _
    rw [Account.ssh.injEq]
    exact ⟨huser, hpassword, hport⟩
  | apiV2 config =>
    have hapi := isApiV2Subscription_of_serviceConfigType h.1
    have hfrom : fromJson text kind (withoutStorageServerId (toJson text (.apiV2 config))) =
        some (.apiV2 (ApiV2Model.fromJson text (withoutStorageServerId (toJson text (.apiV2 config))))) := by
      cases kind <;> first | exact absurd hapi Bool.false_ne_true | rfl
    obtain ⟨hname, hkey, hversion⟩ := account_toJson_apiV2 text config (by have := h.2; omega)
    refine ⟨_, hfrom, hname, ?_, rfl⟩
    change Account.api _ _ _ = Account.api _ _ _
    rw [Account.api.injEq]
    exact ⟨hkey, hdescription, hversion⟩

def Kept (text : JsonText) (s : StoredServer) : Prop :=
  ∀ container c, s.model.containers container = some c → c.protocolConfig.Kept text

theorem handed_reread {m : ServerModel} (hread : m.Readable text) (process : String → String)
    (container : DockerContainer) :
    ((m.containers container).map fun c => ContainerModel.fromJson text (c.toJson text)).map
          (fun c => c.protocolConfig.handed process) =
        (m.containers container).map (fun c => c.protocolConfig.handed process) ↔
      ∀ c, m.containers container = some c → c.protocolConfig.Kept text := by
  cases hc : m.containers container with
  | none => simp
  | some c =>
    obtain ⟨hcontainer, hreadable⟩ := hread container c hc
    rw [← hcontainer] at hreadable
    rw [Option.map_some, Option.map_some, Option.map_some, Option.some.injEq, ContainerModel.fromJson_toJson,
      hreadable.handed_fromJson_toJson]
    simp

end StoredServer

end FreshVpn
