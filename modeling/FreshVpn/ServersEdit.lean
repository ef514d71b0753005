import FreshVpn.ServersStored

/-! Editing one setting of a stored server (`ServersController::renameServer` and its siblings): the server is
decoded by its kind, the setting is changed in the decoded model, and the encoded model replaces the stored JSON,
which the repository refuses if it is not of the same kind. -/

namespace FreshVpn

open Function ServerModel SecureServersRepository

/-! ### Edits of a decoded server -/

namespace ContainerModel

/-- The client configuration, if the protocol's part is an AmneziaWG one (`as<AwgProtocolConfig>`). -/
def awgClient (c : ContainerModel) : Option Record :=
  match c.protocolConfig with
  | .tabled config => if config.variant = .awg then config.clientConfig else none
  | .xray _ => none

/-- `awg->clientConfig->mtu = mtu`. -/
def setAwgMtu (mtu : String) (c : ContainerModel) : Option ContainerModel :=
  match c.protocolConfig with
  | .tabled config =>
    if config.variant = .awg then
      config.clientConfig.map fun client =>
        let client' := Function.update client ConfigKey.mtu (.text mtu)
        { c with protocolConfig := .tabled { config with clientConfig := some client' } }
    else none
  | .xray _ => none

end ContainerModel

/-- The first AmneziaWG container of the map, `none` if there is none. -/
def firstAwgContainer {α : Type} (containers : DockerContainer → Option α) : DockerContainer :=
  (DockerContainer.allContainers.find? fun container =>
    (containers container).isSome && container.isAwgContainer).getD .none

namespace StoredServer

def isApi : StoredServer → Bool
  | .apiV2 _ => true
  | _ => false

def rename (name : String) : StoredServer → StoredServer
  | .selfHostedAdmin config => .selfHostedAdmin { config with description := name, displayName := name }
  | .selfHostedUser config => .selfHostedUser { config with description := name, displayName := name }
  | .native config => .native { config with description := name, displayName := name }
  | .apiV2 config => .apiV2 { config with name := name, displayName := name, nameOverriddenByUser := true }

/-- Edits what the models of all kinds have. -/
def mapModel (edit : ServerModel → ServerModel) : StoredServer → StoredServer
  | .selfHostedAdmin config => .selfHostedAdmin { config with toServerModel := edit config.toServerModel }
  | .selfHostedUser config => .selfHostedUser (edit config)
  | .native config => .native (edit config)
  | .apiV2 config => .apiV2 { config with toServerModel := edit config.toServerModel }

end StoredServer

/-! ### The controller -/

namespace SecureServersRepository

variable (text : JsonText) (endpoints : ApiEndpoints)

/-- The decoders by kind; a legacy subscription has none that an edit uses. -/
def storedServer (r : SecureServersRepository) (serverId : String) : Option StoredServer :=
  match r.serverKind endpoints serverId with
  | .selfHostedAdmin =>
    (r.configOfKind endpoints (· = .selfHostedAdmin) (SelfHostedAdminModel.fromJson text) serverId).map
      .selfHostedAdmin
  | .selfHostedUser =>
    (r.configOfKind endpoints (· = .selfHostedUser) (fromJson text) serverId).map .selfHostedUser
  | .native => (r.configOfKind endpoints (· = .native) (fromJson text) serverId).map .native
  | .amneziaPremiumV2 | .amneziaFreeV3 | .externalPremium =>
    (r.configOfKind endpoints ConfigType.isApiV2Subscription (ApiV2Model.fromJson text) serverId).map .apiV2
  | _ => none

/-- `editServer(serverId, cfg->toJson(), kind)`. -/
def storeServer (r : SecureServersRepository) (serverId : String) (s : StoredServer) : SecureServersRepository :=
  r.editServer endpoints serverId (s.toJson text) (r.serverKind endpoints serverId)

end SecureServersRepository

namespace ServersController

variable (text : JsonText) (endpoints : ApiEndpoints) (r : SecureServersRepository) (serverId : String)

def renameServer (name : String) : Bool × SecureServersRepository :=
  match r.storedServer text endpoints serverId with
  | none => (false, r)
  | some s => (true, r.storeServer text endpoints serverId (s.rename name))

def serverDns : String × String :=
  match r.storedServer text endpoints serverId with
  | none => ("", "")
  | some s => if s.isApi then ("", "") else (s.model.dns1, s.model.dns2)

def setServerDns (dns1 dns2 : String) : Bool × SecureServersRepository :=
  match r.storedServer text endpoints serverId with
  | none => (false, r)
  | some s =>
    if s.isApi then (false, r)
    else
      let r' := r.storeServer text endpoints serverId (s.mapModel fun m => { m with dns1 := dns1, dns2 := dns2 })
      (serverDns text endpoints r' serverId = (dns1, dns2), r')

def getServerContainersMap : DockerContainer → Option ContainerModel :=
  match r.storedServer text endpoints serverId with
  | none => fun _ => none
  | some s => s.model.containers

def awgContainerOf : DockerContainer := firstAwgContainer (getServerContainersMap text endpoints r serverId)

def serverMtu : String :=
  let container := awgContainerOf text endpoints r serverId
  if container = .none then ""
  else match (getServerContainersMap text endpoints r serverId container).bind ContainerModel.awgClient with
    | none => ""
    | some client => (client ConfigKey.mtu).asText

def setServerMtu (mtu : String) : Bool × SecureServersRepository :=
  let container := awgContainerOf text endpoints r serverId
  if container = .none then (false, r)
  else match (getServerContainersMap text endpoints r serverId container).bind (ContainerModel.setAwgMtu mtu) with
    | none => (false, r)
    | some cc =>
      match r.storedServer text endpoints serverId with
      | none => (false, r)
      | some s =>
        if s.isApi then (false, r)
        else
          let r' := r.storeServer text endpoints serverId (s.mapModel fun m => m.updateContainerConfig container cc)
          (serverMtu text endpoints r' serverId = mtu, r')

def setDefaultContainer (container : DockerContainer) : SecureServersRepository :=
  match r.storedServer text endpoints serverId with
  | none => r
  | some s => r.storeServer text endpoints serverId (s.mapModel fun m => { m with defaultContainer := container })

end ServersController

/-! ### Storing an edited server -/

namespace SecureServersRepository

variable {r : SecureServersRepository} {serverId : String} {text : JsonText} {endpoints : ApiEndpoints}

theorem storedServer_eq (r : SecureServersRepository) (serverId : String) :
    r.storedServer text endpoints serverId = (r.serverJsonById serverId).bind fun json =>
      StoredServer.fromJson text (configTypeFromJson endpoints (withoutStorageServerId json))
        (withoutStorageServerId json) := by
  unfold storedServer serverKind configOfKind
  cases r.serverJsonById serverId with
  | none => rfl
  | some json =>
    rw [Option.bind_some]
    dsimp only
    generalize configTypeFromJson endpoints (withoutStorageServerId json) = kind
    cases kind <;> rfl

theorem Consistent.serverJsonById_editServer (h : Consistent r) (endpoints : ApiEndpoints) {oldJson : JsonObject}
    (hold : r.serverJsonById serverId = some oldJson) (serverJson : JsonObject) :
    (r.editServer endpoints serverId serverJson (r.serverKind endpoints serverId)).serverJsonById =
      if configTypeFromJson endpoints (withoutStorageServerId serverJson) = r.serverKind endpoints serverId then
        Function.update r.serverJsonById serverId
          (some (embedStorageServerId serverId (withoutStorageServerId serverJson)))
      else r.serverJsonById := by
  have hkind : r.serverKind endpoints serverId = configTypeFromJson endpoints (withoutStorageServerId oldJson) := by
    rw [serverKind, hold]
  have hvalid : r.serverKind endpoints serverId ≠ .invalid := hkind ▸ configTypeFromJson_ne_invalid endpoints _
  have hindex : r.indexOfServerId serverId ≠ none := by
    rw [indexOfServerId, ne_eq, List.idxOf?_eq_none_iff, not_not]
    exact h.mem_of_json hold
  unfold editServer
  rw [if_neg (not_or.mpr ⟨hindex, hvalid⟩), hold]
  dsimp only
  split_ifs with hrefused hback
  · -- The old entry is put back.
    change update (update r.serverJsonById serverId none) serverId _ = _
    rw [update_idem, ← h.stored serverId oldJson hold, ← hold, update_eq_self]
  · exact absurd ⟨configTypeFromJson_ne_invalid _ _, rfl⟩ hback
  · exact update_idem ..
  · exact absurd ‹_› hrefused

theorem Consistent.storedServer_storeServer (h : Consistent r)
    {s s' : StoredServer} (hs : r.storedServer text endpoints serverId = some s)
    (hkind : s'.OfKind endpoints (r.serverKind endpoints serverId)) :
    let r' := r.storeServer text endpoints serverId s'
    (∀ id, id ≠ serverId → r'.serverJsonById id = r.serverJsonById id) ∧
      ((r.serverKind endpoints serverId = .native → s'.model.IsThirdParty) →
        r'.storedServer text endpoints serverId =
          StoredServer.fromJson text (r.serverKind endpoints serverId) (withoutStorageServerId (s'.toJson text))) ∧
      (¬ (r.serverKind endpoints serverId = .native → s'.model.IsThirdParty) →
        r'.storedServer text endpoints serverId = some s) := by
  rw [storedServer_eq] at hs
  obtain ⟨oldJson, hold, hs⟩ := Option.bind_eq_some_iff.mp hs
  have hmap := h.serverJsonById_editServer endpoints hold (s'.toJson text)
  change (r.storeServer text endpoints serverId s').serverJsonById = _ at hmap
  have haccept := hkind.configTypeFromJson_toJson text
  refine ⟨fun id hne => ?_, fun hthird => ?_, fun hthird => ?_⟩
  · rw [hmap]
    split_ifs
    · exact update_of_ne hne _ _
    · rfl
  · rw [storedServer_eq, hmap, if_pos (haccept.mpr hthird), update_self, Option.bind_some,
      withoutStorageServerId_embedStorageServerId, withoutStorageServerId_withoutStorageServerId, haccept.mpr hthird]
  · rw [storedServer_eq, hmap, if_neg fun hsame => hthird (haccept.mp hsame), hold, Option.bind_some]
    exact hs

theorem storedServer_spec {s : StoredServer} (hs : r.storedServer text endpoints serverId = some s) :
    s.OfKind endpoints (r.serverKind endpoints serverId) ∧ s.model.Readable text ∧
      ∃ json, r.serverJsonById serverId = some json ∧
        (s.model.IsThirdParty ↔ keepsThirdPartyConfig (withoutStorageServerId json) = true) := by
  rw [storedServer_eq] at hs
  obtain ⟨json, hjson, hs⟩ := Option.bind_eq_some_iff.mp hs
  have hcontainers : s.model.containers = (fromJson text (withoutStorageServerId json)).containers := by
    revert hs
    generalize configTypeFromJson endpoints (withoutStorageServerId json) = kind
    intro hs
    cases kind <;> cases hs <;> rfl
  refine ⟨?_, ?_, json, hjson, ?_⟩
  · rw [serverKind, hjson]
    exact StoredServer.ofKind_fromJson hs
  · unfold Readable
    rw [hcontainers]
    exact readable_fromJson text _
  · unfold IsThirdParty
    rw [hcontainers]
    exact isThirdParty_fromJson _

end SecureServersRepository

/-! ### The four edits -/

/-- The edits of one setting. -/
inductive ServerEdit where
  | renameServer (name : String)
  | setServerDns (dns1 dns2 : String)
  | setDefaultContainer (container : DockerContainer)
  | setServerMtu (mtu : String)

namespace ServerEdit

variable (text : JsonText) (endpoints : ApiEndpoints)

def apply (r : SecureServersRepository) (serverId : String) : ServerEdit → SecureServersRepository
  | .renameServer name => (ServersController.renameServer text endpoints r serverId name).2
  | .setServerDns dns1 dns2 => (ServersController.setServerDns text endpoints r serverId dns1 dns2).2
  | .setDefaultContainer container => ServersController.setDefaultContainer text endpoints r serverId container
  | .setServerMtu mtu => (ServersController.setServerMtu text endpoints r serverId mtu).2

/-- The model that the edit stores, if it stores one. -/
def edited (s : StoredServer) : ServerEdit → Option StoredServer
  | .renameServer name => some (s.rename name)
  | .setServerDns dns1 dns2 =>
    if s.isApi then none else some (s.mapModel fun m => { m with dns1 := dns1, dns2 := dns2 })
  | .setDefaultContainer container => some (s.mapModel fun m => { m with defaultContainer := container })
  | .setServerMtu mtu =>
    let container := firstAwgContainer s.model.containers
    if container = .none ∨ s.isApi then none
    else ((s.model.containers container).bind (ContainerModel.setAwgMtu mtu)).map fun cc =>
      s.mapModel fun m => m.updateContainerConfig container cc

theorem apply_eq (r : SecureServersRepository) (serverId : String) (edit : ServerEdit) :
    edit.apply text endpoints r serverId =
      match (r.storedServer text endpoints serverId).bind edit.edited with
      | none => r
      | some s' => r.storeServer text endpoints serverId s' := by
  cases hs : r.storedServer text endpoints serverId with
  | none =>
    rw [Option.bind_none]
    cases edit with
    | renameServer name => simp only [apply, ServersController.renameServer, hs]
    | setServerDns dns1 dns2 => simp only [apply, ServersController.setServerDns, hs]
    | setDefaultContainer container => simp only [apply, ServersController.setDefaultContainer, hs]
    | setServerMtu mtu =>
      simp only [apply, ServersController.setServerMtu, ServersController.getServerContainersMap, hs,
        Option.bind_none]
      split_ifs <;> rfl
  | some s =>
    rw [Option.bind_some]
    cases edit with
    | renameServer name => simp only [apply, ServersController.renameServer, hs, edited]
    | setServerDns dns1 dns2 =>
      simp only [apply, ServersController.setServerDns, hs, edited]
      split_ifs <;> rfl
    | setDefaultContainer container => simp only [apply, ServersController.setDefaultContainer, hs, edited]
    | setServerMtu mtu =>
      simp only [apply, ServersController.setServerMtu, ServersController.awgContainerOf,
        ServersController.getServerContainersMap, hs, edited]
      generalize firstAwgContainer s.model.containers = container
      by_cases hnone : container = .none
      · simp only [hnone, true_or, if_true]
      · cases hcc : (s.model.containers container).bind (ContainerModel.setAwgMtu mtu) with
        | none => simp [hnone]
        | some cc => cases hapi : s.isApi <;> simp [hnone]

end ServerEdit

namespace StoredServer

@[simp] theorem model_mapModel (edit : ServerModel → ServerModel) (s : StoredServer) :
    (s.mapModel edit).model = edit s.model := by
  cases s <;> rfl

variable {endpoints : ApiEndpoints}

theorem ofKind_mapModel {kind : ConfigType} {s : StoredServer} {edit : ServerModel → ServerModel}
    (hthird : (edit s.model).IsThirdParty ↔ s.model.IsThirdParty) (h : s.OfKind endpoints kind) :
    (s.mapModel edit).OfKind endpoints kind := by
  cases s with
  | selfHostedAdmin config => exact ⟨h.1, fun hmark => h.2.1 (hthird.mp hmark), h.2.2⟩
  | selfHostedUser config => exact ⟨h.1, fun hmark => h.2 (hthird.mp hmark)⟩
  | native config => exact h
  | apiV2 config => exact h

theorem ofKind_rename {kind : ConfigType} {s : StoredServer} (name : String) (h : s.OfKind endpoints kind) :
    (s.rename name).OfKind endpoints kind := by
  cases s <;> exact h

end StoredServer

/-! ### What an edit keeps -/

theorem firstAwgContainer_map {α β : Type} (containers : DockerContainer → Option α) (f : DockerContainer → α → β) :
    firstAwgContainer (fun container => (containers container).map (f container)) = firstAwgContainer containers := by
  unfold firstAwgContainer
  simp only [Option.isSome_map]

namespace ServerEdit

def undone (before after : ServerParts) : ServerEdit → ServerParts
  | .renameServer _ => { after with name := before.name, containers := before.containers }
  | .setServerDns _ _ => { after with dns1 := before.dns1, dns2 := before.dns2, containers := before.containers }
  | .setDefaultContainer _ =>
    { after with defaultContainer := before.defaultContainer, containers := before.containers }
  | .setServerMtu _ => { after with containers := before.containers }

/-- The containers hand over the same; the edited one may do so with another MTU. -/
def SameHanded (before after : DockerContainer → Option JsonObject) : ServerEdit → Prop
  | .setServerMtu _ => ∀ container,
    (container ≠ firstAwgContainer before → after container = before container) ∧
      Option.Rel (fun json json' => ∀ key, key ≠ ConfigKey.mtu → json.value key = json'.value key)
        (after container) (before container)
  | _ => ∀ container, after container = before container

/-- All but the edited setting is the same. -/
def SameRest (edit : ServerEdit) (before after : ServerParts) : Prop :=
  edit.undone before after = before ∧ edit.SameHanded before.containers after.containers

def rereadHanded (text : JsonText) (process : DockerContainer → String → String) (s : StoredServer)
    (container : DockerContainer) : Option JsonObject :=
  ((s.model.containers container).map fun c => ContainerModel.fromJson text (c.toJson text)).map fun c =>
    c.protocolConfig.handed (process container)

variable {text : JsonText} {s s' : StoredServer}

/-- An edit that leaves the containers as they are. -/
theorem spec_of_containers_eq (hread : s.model.Readable text) (s' : StoredServer)
    (hsame : s'.model.containers = s.model.containers) :
    s'.model.Readable text ∧ (s'.model.IsThirdParty ↔ s.model.IsThirdParty) ∧
      ∀ process, (∀ container, rereadHanded text process s' container = (s.parts process).containers container) ↔
        s.Kept text := by
  unfold Readable IsThirdParty rereadHanded
  rw [hsame]
  exact ⟨hread, Iff.rfl, fun process => forall_congr' fun container =>
    StoredServer.handed_reread hread (process container) container⟩

/-- The edit of the MTU replaces one container. -/
structure ReplacesContainer (text : JsonText) (s s' : StoredServer) (container : DockerContainer)
    (c cc : ContainerModel) : Prop where
  old : s.model.containers container = some c
  new : s'.model.containers = Function.update s.model.containers container (some cc)
  name : cc.container = c.container
  mark : cc.protocolConfig.isThirdPartyConfig = c.protocolConfig.isThirdPartyConfig
  kept : c.protocolConfig.Kept text ∧ cc.protocolConfig.Kept text
  readable : ∀ type, ProtocolModel.Readable text type c.protocolConfig →
    ProtocolModel.Readable text type cc.protocolConfig
  handed : ∀ process key, key ≠ ConfigKey.mtu →
    (cc.protocolConfig.handed process).value key = (c.protocolConfig.handed process).value key

theorem replacesContainer_of_setAwgMtu {container : DockerContainer} {c cc : ContainerModel} {mtu : String}
    (h : c.setAwgMtu mtu = some cc) (hold : s.model.containers container = some c)
    (hnew : s'.model.containers = Function.update s.model.containers container (some cc)) :
    ReplacesContainer text s s' container c cc := by
  obtain ⟨container, config | config⟩ := c
  · unfold ContainerModel.setAwgMtu at h
    dsimp only at h
    split_ifs at h with hvariant
    obtain ⟨client, hclient, rfl⟩ := Option.map_eq_some_iff.mp h
    obtain ⟨variant, server, clientConfig⟩ := config
    subst hvariant hclient
    refine ⟨hold, hnew, rfl, rfl, ⟨trivial, trivial⟩, fun type hread => ?_, fun process key hkey => ?_⟩
    · rcases hread with ⟨htype, hsettled⟩ | ⟨-, hempty⟩
      · refine Or.inl ⟨htype, hsettled.server, fun fields client' hfields hclient' => ?_⟩
        cases hfields
        cases hclient'
        exact (hsettled.client _ client rfl rfl).update_text (by simp [AwgClientConfig.fields, ConfigKey.mtu]) mtu
      · cases congrArg TabledConfig.clientConfig hempty
    · rw [ProtocolModel.handed_eq, ProtocolModel.handed_eq]
      refine AwgClientConfig.fields.value_toJson_congr ?_
      have hnative : XrayClientConfig.nativeConfig (update client ConfigKey.mtu (.text mtu)) =
          XrayClientConfig.nativeConfig client := by
        rfl
      rw [hnative]
      by_cases hconfig : key = ConfigKey.config
      · rw [hconfig, update_self, update_self]
      · rw [update_of_ne hconfig, update_of_ne hconfig, update_of_ne hkey]
  · cases h

namespace ReplacesContainer

variable {container : DockerContainer} {c cc : ContainerModel} (h : ReplacesContainer text s s' container c cc)
include h

theorem isThirdParty_iff : s'.model.IsThirdParty ↔ s.model.IsThirdParty := by
  unfold IsThirdParty
  rw [h.new]
  constructor
  · rintro ⟨container', c', hc', hmark⟩
    by_cases heq : container' = container
    · rw [heq, update_self, Option.some.injEq] at hc'
      exact ⟨container, c, h.old, h.mark.symm.trans (hc' ▸ hmark)⟩
    · rw [update_of_ne heq] at hc'
      exact ⟨container', c', hc', hmark⟩
  · rintro ⟨container', c', hc', hmark⟩
    by_cases heq : container' = container
    · rw [heq, h.old, Option.some.injEq] at hc'
      exact ⟨container, cc, update_self .., h.mark.trans (hc' ▸ hmark)⟩
    · exact ⟨container', c', (update_of_ne heq _ _).trans hc', hmark⟩

theorem model_readable (hread : s.model.Readable text) : s'.model.Readable text := by
  intro container' c' hc'
  rw [h.new] at hc'
  by_cases heq : container' = container
  · rw [heq, update_self, Option.some.injEq] at hc'
    obtain ⟨hname, hreadable⟩ := hread container c h.old
    rw [heq, ← hc']
    exact ⟨h.name.trans hname, h.readable _ hreadable⟩
  · rw [update_of_ne heq] at hc'
    exact hread container' c' hc'

theorem sameHanded_iff (hread : s.model.Readable text) (process : DockerContainer → String → String) :
    (∀ container', (container' ≠ container →
        rereadHanded text process s' container' = (s.parts process).containers container') ∧
      Option.Rel (fun json json' => ∀ key, key ≠ ConfigKey.mtu → json.value key = json'.value key)
        (rereadHanded text process s' container') ((s.parts process).containers container')) ↔ s.Kept text := by
  have hread' := h.model_readable hread
  have hother : ∀ container', container' ≠ container →
      s'.model.containers container' = s.model.containers container' := by
    intro container' hne
    rw [h.new, update_of_ne hne]
  have hhanded : ∀ container', container' ≠ container →
      (rereadHanded text process s' container' = (s.parts process).containers container' ↔
        ∀ c', s.model.containers container' = some c' → c'.protocolConfig.Kept text) := by
    intro container' hne
    have hiff := StoredServer.handed_reread hread' (process container') container'
    rw [hother container' hne] at hiff
    unfold rereadHanded
    rw [hother container' hne]
    exact hiff
  constructor
  · intro hsame container' c' hc'
    by_cases heq : container' = container
    · rw [heq, h.old, Option.some.injEq] at hc'
      exact hc' ▸ h.kept.1
    · exact (hhanded container' heq).mp ((hsame container').1 heq) c' hc'
  · intro hkept container'
    by_cases heq : container' = container
    · refine ⟨fun hne => absurd heq hne, ?_⟩
      subst heq
      have hnew : s'.model.containers container' = some cc := by rw [h.new, update_self]
      have hreread : rereadHanded text process s' container' =
          some (cc.protocolConfig.handed (process container')) := by
        have hiff := StoredServer.handed_reread hread' (process container') container'
        unfold rereadHanded
        rw [hiff.mpr (by rw [hnew]; rintro c' ⟨rfl⟩; exact h.kept.2), hnew, Option.map_some]
      have hbefore : (s.parts process).containers container' = some (c.protocolConfig.handed (process container')) :=
        congrArg (Option.map _) h.old
      rw [hreread, hbefore]
      exact Option.Rel.some fun key hkey => h.handed _ key hkey
    · have hequal := (hhanded container' heq).mpr (hkept container')
      refine ⟨fun _ => hequal, ?_⟩
      rw [hequal]
      cases (s.parts process).containers container' with
      | none => exact Option.Rel.none
      | some json => exact Option.Rel.some fun _ _ => rfl

end ReplacesContainer

theorem edited_spec {edit : ServerEdit} (h : edit.edited s = some s') (hread : s.model.Readable text) :
    (∀ endpoints kind, s.OfKind endpoints kind → s'.OfKind endpoints kind) ∧
      s'.model.Readable text ∧ (s'.model.IsThirdParty ↔ s.model.IsThirdParty) ∧
      (∀ process, edit.undone (s.parts process) (s'.parts process) = s.parts process) ∧
      ∀ process, edit.SameHanded (s.parts process).containers (rereadHanded text process s') ↔ s.Kept text := by
  cases edit with
  | renameServer name =>
    cases h
    obtain ⟨hread', hthird, hhanded⟩ := spec_of_containers_eq hread (s.rename name) (by cases s <;> rfl)
    exact ⟨fun _ _ => StoredServer.ofKind_rename name, hread', hthird, fun process => by cases s <;> rfl, hhanded⟩
  | setServerDns dns1 dns2 =>
    unfold edited at h
    split_ifs at h
    cases h
    obtain ⟨hread', hthird, hhanded⟩ := spec_of_containers_eq hread
      (s.mapModel fun m => { m with dns1 := dns1, dns2 := dns2 }) (by cases s <;> rfl)
    exact ⟨fun _ _ => StoredServer.ofKind_mapModel Iff.rfl, hread', hthird, fun process => by cases s <;> rfl, hhanded⟩
  | setDefaultContainer container =>
    cases h
    obtain ⟨hread', hthird, hhanded⟩ := spec_of_containers_eq hread
      (s.mapModel fun m => { m with defaultContainer := container }) (by cases s <;> rfl)
    exact ⟨fun _ _ => StoredServer.ofKind_mapModel Iff.rfl, hread', hthird, fun process => by cases s <;> rfl, hhanded⟩
  | setServerMtu mtu =>
    unfold edited at h
    dsimp only at h
    split_ifs at h
    obtain ⟨cc, hcc, rfl⟩ := Option.map_eq_some_iff.mp h
    obtain ⟨c, hc, hset⟩ := Option.bind_eq_some_iff.mp hcc
    have hreplaces : ReplacesContainer text s
        (s.mapModel fun m => m.updateContainerConfig (firstAwgContainer s.model.containers) cc)
        (firstAwgContainer s.model.containers) c cc :=
      replacesContainer_of_setAwgMtu hset hc (by rw [StoredServer.model_mapModel]; rfl)
    have hthird := hreplaces.isThirdParty_iff
    refine ⟨fun _ _ => StoredServer.ofKind_mapModel ?_, hreplaces.model_readable hread, hthird,
      fun process => ?_, fun process => ?_⟩
    · rw [StoredServer.model_mapModel] at hthird
      exact hthird
    · cases s <;> rfl
    · have hfirst : firstAwgContainer (s.parts process).containers = firstAwgContainer s.model.containers :=
        firstAwgContainer_map s.model.containers fun container c => c.protocolConfig.handed (process container)
      unfold SameHanded
      rw [hfirst]
      exact hreplaces.sameHanded_iff hread process

theorem sameRest_refl (edit : ServerEdit) (parts : ServerParts) : edit.SameRest parts parts := by
  have hrel : ∀ json : Option JsonObject,
      Option.Rel (fun json json' => ∀ key, key ≠ ConfigKey.mtu → json.value key = json'.value key) json json := by
    intro json
    cases json with
    | none => exact Option.Rel.none
    | some json => exact Option.Rel.some fun _ _ => rfl
  cases edit with
  | renameServer _ | setServerDns _ _ | setDefaultContainer _ => exact ⟨rfl, fun _ => rfl⟩
  | setServerMtu _ => exact ⟨rfl, fun _ => ⟨fun _ => rfl, hrel _⟩⟩

theorem undone_containers (edit : ServerEdit) (before after : ServerParts)
    (containers : DockerContainer → Option JsonObject) :
    edit.undone before { after with containers := containers } = edit.undone before after := by
  cases edit <;> rfl

def KeepsRest (text : JsonText) (endpoints : ApiEndpoints) (edit : ServerEdit) (r r' : SecureServersRepository)
    (serverId : String) : Prop :=
  (∀ id, id ≠ serverId → r'.serverJsonById id = r.serverJsonById id) ∧
    (r.storedServer text endpoints serverId = none → r'.serverJsonById serverId = r.serverJsonById serverId) ∧
    ∀ s, r.storedServer text endpoints serverId = some s →
      ∃ s', r'.storedServer text endpoints serverId = some s' ∧
        ∀ process, edit.SameRest (s.parts process) (s'.parts process)

theorem keepsRest_refl (text : JsonText) (endpoints : ApiEndpoints) (edit : ServerEdit) (r : SecureServersRepository)
    (serverId : String) : edit.KeepsRest text endpoints r r serverId :=
  ⟨fun _ _ => rfl, fun _ => rfl, fun s hs => ⟨s, hs, fun _ => edit.sameRest_refl _⟩⟩

theorem keepsRest_storeServer_iff {endpoints : ApiEndpoints} {r : SecureServersRepository}
    (hr : Consistent r) {serverId : String} {edit : ServerEdit}
    (hs : r.storedServer text endpoints serverId = some s) (hedit : edit.edited s = some s') :
    edit.KeepsRest text endpoints r (r.storeServer text endpoints serverId s') serverId ↔
      ((r.serverKind endpoints serverId = .native → s.model.IsThirdParty) → s.Kept text) := by
  obtain ⟨hkind, hread, -⟩ := storedServer_spec hs
  obtain ⟨hofKind, hread', hthird, hundone, hhanded⟩ := edited_spec hedit hread
  obtain ⟨hother, haccepted, hrefused⟩ := hr.storedServer_storeServer hs (hofKind _ _ hkind)
  rw [hthird] at haccepted hrefused
  by_cases haccept : r.serverKind endpoints serverId = .native → s.model.IsThirdParty
  · obtain ⟨s'', hfrom, hparts, hcontainers⟩ := (hofKind _ _ hkind).fromJson_toJson hread'
    have hstored := (haccepted haccept).trans hfrom
    have hrest : ∀ process, edit.SameRest (s.parts process) (s''.parts process) ↔ s.Kept text := by
      intro process
      have hreread : (s''.parts process).containers = rereadHanded text process s' :=
        funext fun container => congrArg (Option.map _) (hcontainers container)
      have hplain : edit.undone (s.parts process) (s''.parts process) = s.parts process := by
        rw [← edit.undone_containers _ _ (s'.parts process).containers, hparts process, hundone process]
      unfold SameRest
      rw [hreread, ← hhanded process]
      exact and_iff_right hplain
    constructor
    · rintro ⟨-, -, hkeeps⟩ -
      obtain ⟨t, ht, hsame⟩ := hkeeps s hs
      rw [hstored, Option.some.injEq] at ht
      exact (hrest fun _ config => config).mp (ht ▸ hsame _)
    · intro hkept
      refine ⟨hother, fun hnone => ?_, fun t ht => ⟨s'', hstored, fun process => ?_⟩⟩
      · rw [hs] at hnone
        cases hnone
      · rw [hs, Option.some.injEq] at ht
        exact ht ▸ (hrest process).mpr (hkept haccept)
  · refine iff_of_true ⟨hother, fun hnone => ?_, fun t ht => ?_⟩ fun h => absurd h haccept
    · rw [hs] at hnone
      cases hnone
    · rw [hs] at ht
      exact ⟨t, (hrefused haccept).trans ht, fun process => edit.sameRest_refl _⟩

/-- **Editing one setting keeps the rest.** In every reachable repository, an edit leaves everything but the
edited setting as it was, exactly if it stores nothing, is refused, or no container of the server is an Xray one
whose client was read from a document around a native configuration that says less than the document. -/
theorem edit_keeps_rest_iff (text : JsonText) (uuids : UuidSource) (endpoints : ApiEndpoints) (settings : Settings)
    (uuidsDrawn : ℕ) (calls : List Call) (edit : ServerEdit) (serverId : String) :
    let r := (create uuids endpoints settings uuidsDrawn).runCalls uuids endpoints calls
    edit.KeepsRest text endpoints r (edit.apply text endpoints r serverId) serverId ↔
      ∀ s, r.storedServer text endpoints serverId = some s → (edit.edited s).isSome →
        (r.serverKind endpoints serverId = .native → s.model.IsThirdParty) → s.Kept text := by
  intro r
  have hr : WellFormed r :=
    reached_wellFormed uuids endpoints settings uuidsDrawn calls
  rw [apply_eq]
  cases hs : r.storedServer text endpoints serverId with
  | none =>
    refine iff_of_true (keepsRest_refl text endpoints edit r serverId) fun s hnone => ?_
    cases hnone
  | some s =>
    rw [Option.bind_some]
    cases hedit : edit.edited s with
    | none =>
      refine iff_of_true (keepsRest_refl text endpoints edit r serverId) fun t ht hsome => ?_
      cases ht
      rw [hedit] at hsome
      cases hsome
    | some s' =>
      refine (keepsRest_storeServer_iff hr.toConsistent hs hedit).trans ⟨fun h t ht _ => ?_, fun h => ?_⟩
      · cases ht
        exact h
      · exact h s rfl (Option.isSome_iff_exists.mpr ⟨s', hedit⟩)

def bareXrayConfig : String := JsonText.tokens.compact [("outbounds", .array [])]

def wrappedXrayServer : JsonObject :=
  [("containers", .array [.object [("container", .string "amnezia-xray"), ("xray", .object [("last_config",
    .string (JsonText.tokens.compact [("clientId", .string "x"), ("config", .string bareXrayConfig)]))])]])]

def buildEndpoints : ApiEndpoints := { freeV2Endpoint := "f", premiumV1Endpoint := "p" }

def repositoryWith (serverJson : JsonObject) (kind : ConfigType) : SecureServersRepository :=
  (create .longest buildEndpoints ⟨[], "", 0⟩ 0).runCalls .longest buildEndpoints
    [.addServer "s" serverJson kind]

def handedClientId (r : SecureServersRepository) : Option String := do
  let s ← r.storedServer .tokens buildEndpoints "s"
  let json ← (s.parts fun _ config => config).containers .xray
  pure (Json.toString (json.value "clientId"))

/-- Renaming the server loses the id of its client. -/
theorem rename_loses_client_id :
    let r := repositoryWith wrappedXrayServer .selfHostedUser
    handedClientId r = some "x" ∧
      handedClientId ((renameServer "b").apply .tokens buildEndpoints r "s") = some "" := by
  decide +kernel

end ServerEdit

/-! ### Kinds and names -/

theorem StoredServer.name_rename (s : StoredServer) (name : String) : (s.rename name).name = name := by
  cases s <;> rfl

theorem ServersController.name_renameServer {text : JsonText} {endpoints : ApiEndpoints} {r : SecureServersRepository}
    (hr : Consistent r) {serverId : String} {s : StoredServer}
    (hs : r.storedServer text endpoints serverId = some s) (name : String) :
    ((renameServer text endpoints r serverId name).2.storedServer text endpoints serverId).map StoredServer.name =
        some name ↔
      (r.serverKind endpoints serverId = .native → s.model.IsThirdParty) ∨ s.name = name := by
  obtain ⟨hkind, hread, -⟩ := storedServer_spec hs
  obtain ⟨hofKind, hread', hthird, -, -⟩ :=
    ServerEdit.edited_spec (show (ServerEdit.renameServer name).edited s = some (s.rename name) from rfl) hread
  obtain ⟨-, haccepted, hrefused⟩ := hr.storedServer_storeServer hs (hofKind _ _ hkind)
  rw [hthird] at haccepted hrefused
  have hrepository : (renameServer text endpoints r serverId name).2 =
      r.storeServer text endpoints serverId (s.rename name) := by
    rw [renameServer, hs]
  rw [hrepository]
  by_cases haccept : r.serverKind endpoints serverId = .native → s.model.IsThirdParty
  · obtain ⟨s', hfrom, hparts, -⟩ := (hofKind _ _ hkind).fromJson_toJson hread'
    refine iff_of_true ?_ (Or.inl haccept)
    have hname : s'.name = (s.rename name).name := congrArg ServerParts.name (hparts fun _ config => config)
    rw [haccepted haccept, hfrom, Option.map_some, hname, s.name_rename]
  · rw [hrefused haccept, Option.map_some, Option.some.injEq]
    exact (or_iff_right haccept).symm

/-- **The kind of a server, and its new name.** A server decoded and encoded again is of the kind that it was,
exactly if it was not native or its third-party mark is where a decoder reads it; and a rename that reports
success has stored the name exactly in this case, or if it was the name already. -/
theorem rename_stores_name_iff (text : JsonText) (uuids : UuidSource) (endpoints : ApiEndpoints) (settings : Settings)
    (uuidsDrawn : ℕ) (calls : List Call) :
    let r := (create uuids endpoints settings uuidsDrawn).runCalls uuids endpoints calls
    (∀ json s, StoredServer.fromJson text (configTypeFromJson endpoints json) json = some s →
      (configTypeFromJson endpoints (s.toJson text) = configTypeFromJson endpoints json ↔
        (configTypeFromJson endpoints json = .native → keepsThirdPartyConfig json = true))) ∧
      ∀ serverId name, (ServersController.renameServer text endpoints r serverId name).1 = true →
        (((ServersController.renameServer text endpoints r serverId name).2.storedServer text endpoints
            serverId).map StoredServer.name = some name ↔
          (∀ json, r.serverJsonById serverId = some json → r.serverKind endpoints serverId = .native →
            keepsThirdPartyConfig (withoutStorageServerId json) = true) ∨
          (r.storedServer text endpoints serverId).map StoredServer.name = some name) := by
  intro r
  have hr : WellFormed r :=
    reached_wellFormed uuids endpoints settings uuidsDrawn calls
  refine ⟨fun json s hs => ?_, fun serverId name hsuccess => ?_⟩
  · have hkind := (StoredServer.ofKind_fromJson hs).configTypeFromJson_toJson text
    rw [StoredServer.withoutStorageServerId_toJson] at hkind
    refine hkind.trans (imp_congr_right fun hnative => ?_)
    rw [hnative] at hs
    cases hs
    exact isThirdParty_fromJson json
  · cases hs : r.storedServer text endpoints serverId with
    | none =>
      rw [ServersController.renameServer, hs] at hsuccess
      cases hsuccess
    | some s =>
      obtain ⟨-, -, json, hjson, hmark⟩ := storedServer_spec hs
      refine (ServersController.name_renameServer hr.toConsistent hs name).trans (or_congr ?_ ?_)
      · rw [hmark]
        refine ⟨fun h json' hjson' => ?_, fun h => h json hjson⟩
        rw [hjson, Option.some.injEq] at hjson'
        exact hjson' ▸ h
      · rw [Option.map_some, Option.some.injEq]

/-- A share of an OpenVPN over Cloak server, whose decoder knows no protocol. -/
def markedCloakServer : JsonObject :=
  [("containers", .array [.object [("container", .string "amnezia-openvpn-cloak"),
    ("openvpn", .object [("isThirdPartyConfig", .bool true)])]])]

/-- The share is native, what is stored for it is not, and the reported rename has not happened. -/
theorem rename_of_cloak_server_is_lost :
    let r := ServerEdit.repositoryWith markedCloakServer .native
    let renamed := ServersController.renameServer .tokens ServerEdit.buildEndpoints r "s" "b"
    r.serverKind ServerEdit.buildEndpoints "s" = .native ∧
      (r.storedServer .tokens ServerEdit.buildEndpoints "s").map
        (fun s => configTypeFromJson ServerEdit.buildEndpoints (s.toJson .tokens)) = some .selfHostedUser ∧
      renamed.1 = true ∧
      (renamed.2.storedServer .tokens ServerEdit.buildEndpoints "s").map StoredServer.name = some "" := by
  decide +kernel

/-- A share of a plain server is renamed. -/
theorem rename_of_host_is_stored :
    let r := ServerEdit.repositoryWith [("hostName", .string "h")] .selfHostedUser
    ((ServersController.renameServer .tokens ServerEdit.buildEndpoints r "s" "b").2.storedServer .tokens
      ServerEdit.buildEndpoints "s").map StoredServer.name = some "b" := by
  refine ((rename_stores_name_iff .tokens .longest ServerEdit.buildEndpoints ⟨[], "", 0⟩ 0
    [.addServer "s" [("hostName", .string "h")] .selfHostedUser]).2 "s" "b" (by decide +kernel)).mpr (Or.inl ?_)
  have hkind : (ServerEdit.repositoryWith [("hostName", .string "h")] .selfHostedUser).serverKind
      ServerEdit.buildEndpoints "s" = .selfHostedUser := by decide +kernel
  intro json _ hnative
  cases hkind.symm.trans hnative

end FreshVpn
