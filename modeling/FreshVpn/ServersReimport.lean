import FreshVpn.ServersImport
import FreshVpn.ServersStored

/-! Importing the entries of a subscription (`ImportController::importConfigs`), and importing them again. -/

namespace FreshVpn

open ConfigKey SelfHostedAdminServerConfig JsonObject

namespace ImportController

section Import

variable (uuids : UuidSource) (endpoints : ApiEndpoints) (qChecksum : JsonObject → ℕ)

def importConfigs (r : SecureServersRepository) (configs : List JsonObject) : SecureServersRepository × ImportSignal :=
  let (r, added) := configs.foldl (fun (state : SecureServersRepository × ℕ) config =>
    let (r, isAdded) := addServerFromConfig uuids endpoints qChecksum state.1 config
    (r, if isAdded then state.2 + 1 else state.2)) (r, 0)
  (r, if 0 < added then .importFinished else .importErrorOccurred .importInvalidConfigError false)

def addEntry (r : SecureServersRepository) (config : JsonObject) : SecureServersRepository :=
  (addServerFromConfig uuids endpoints qChecksum r config).1

theorem importConfigs_fst (r : SecureServersRepository) (configs : List JsonObject) :
    (importConfigs uuids endpoints qChecksum r configs).1 = configs.foldl (addEntry uuids endpoints qChecksum) r := by
  have hfold : ∀ (state : SecureServersRepository × ℕ),
      (configs.foldl (fun (state : SecureServersRepository × ℕ) config =>
        let (r, isAdded) := addServerFromConfig uuids endpoints qChecksum state.1 config
        (r, if isAdded then state.2 + 1 else state.2)) state).1 =
          configs.foldl (addEntry uuids endpoints qChecksum) state.1 := by
    induction configs with
    | nil => exact fun state => rfl
    | cons config configs ih => exact fun state => ih _
  exact hfold (r, 0)

end Import

/-! ### Entries -/

variable (config : JsonObject)

/-- An entry that is imported as a server of its own. -/
def isServerEntry : Bool :=
  (ServerCredentials.fromConfig config).isValid || config.contains containers

/-- An entry that is imported as a subscription of the gateway. -/
def isGatewayEntry : Bool := !isServerEntry config && config.contains configVersion

def hostOf : String := Json.toString (config.value hostName)

def crcOf : Int := Json.toInt (config.value "crc") 0

/-- The members that the kind depends on. -/
def kindKeys : List String :=
  [configVersion, apiEndpoint, apiConfig, containers, userName,
    password, port]

theorem configTypeFromJson_congr (endpoints : ApiEndpoints) {json json' : JsonObject}
    (h : ∀ key ∈ kindKeys, json'.value key = json.value key) :
    configTypeFromJson endpoints json' = configTypeFromJson endpoints json := by
  have hversion := h configVersion (by decide)
  have hendpoint := h apiEndpoint (by decide)
  have hapi := h apiConfig (by decide)
  have hcontainers := h containers (by decide)
  have huser := h userName (by decide)
  have hpassword := h password (by decide)
  have hport := h port (by decide)
  have hcredentials : (fromJson json').hasCredentials =
      (fromJson json).hasCredentials := by
    show (Json.toString (json'.value userName) != "" &&
      Json.toString (json'.value password) != "" &&
      decide (0 < if json'.contains port then Json.toInt (json'.value port) 0 else 0)) = _
    rw [contains, huser, hpassword, hport]
    rfl
  have hgateway : gatewayConfigType json' = gatewayConfigType json := by
    rw [gatewayConfigType, gatewayConfigType, hapi]
  have htelegram : telegramConfigType endpoints json' = telegramConfigType endpoints json := by
    rw [telegramConfigType, telegramConfigType, hendpoint, hgateway]
  have hthirdParty : hasThirdPartyConfig json' = hasThirdPartyConfig json := by
    rw [hasThirdPartyConfig, hasThirdPartyConfig, hcontainers]
  have hselfHosted : selfHostedConfigType json' = selfHostedConfigType json := by
    rw [selfHostedConfigType, selfHostedConfigType, hthirdParty, hcredentials]
  rw [configTypeFromJson, configTypeFromJson, hversion, htelegram, hgateway, hselfHosted]

theorem configTypeFromJson_withoutStorageServerId (endpoints : ApiEndpoints) (json : JsonObject) :
    configTypeFromJson endpoints (withoutStorageServerId json) = configTypeFromJson endpoints json := by
  apply configTypeFromJson_congr
  intro key hkey
  apply value_remove_of_ne
  rintro rfl
  revert hkey
  decide

theorem configTypeFromJson_insert (endpoints : ApiEndpoints) (json : JsonObject) {key : String}
    (hkey : key ∉ kindKeys) (value : Json) :
    configTypeFromJson endpoints (json.insert key value) = configTypeFromJson endpoints json := by
  apply configTypeFromJson_congr
  intro other hother
  apply value_insert_of_ne
  rintro rfl
  exact hkey hother

/-! ### What a repository recognises -/

section Recognise

variable {config : JsonObject} (uuids : UuidSource) (endpoints : ApiEndpoints)

def anyServer (r : SecureServersRepository) (fits : JsonObject → Bool) : Bool :=
  r.orderedServerIds.any fun id => (r.serverJsonById id).any fun json => fits (withoutStorageServerId json)

def isNativeAt (host : String) (json : JsonObject) : Bool :=
  configTypeFromJson endpoints json = .native && hostOf json = host

def isSubscriptionWith (crc : ℕ) (json : JsonObject) : Bool :=
  (configTypeFromJson endpoints json).isApiV2Subscription && crcOf json % 65536 = crc

section
variable (r : SecureServersRepository)

theorem any_configOfKind {α : Type} (kinds : ConfigType → Bool) (fromJson : JsonObject → α) (p : α → Bool) :
    (r.orderedServerIds.any fun id => (r.configOfKind endpoints kinds fromJson id).any p) =
      anyServer r fun json => kinds (configTypeFromJson endpoints json) && p (fromJson json) := by
  congr 1
  funext id
  rw [SecureServersRepository.configOfKind]
  cases r.serverJsonById id with
  | none => rfl
  | some json =>
    cases hkind : kinds (configTypeFromJson endpoints (withoutStorageServerId json)) with
    | false => simp [hkind]
    | true => simp [hkind]

theorem hasNativeServerWithHost_eq (host : String) :
    hasNativeServerWithHost endpoints r host = anyServer r (isNativeAt endpoints host) := by
  rw [hasNativeServerWithHost]
  simp only [SecureServersRepository.nativeConfig]
  rw [any_configOfKind]
  rfl

theorem hasServerWithCrc_eq (crc : ℕ) :
    hasServerWithCrc endpoints r crc = anyServer r (isSubscriptionWith endpoints crc) := by
  rw [hasServerWithCrc, any_configOfKind]
  rfl

end

variable {r : SecureServersRepository}

theorem addConfig_spec (hr : r.WellFormed) (config : JsonObject) :
    (addConfig uuids endpoints r config).WellFormed ∧
      ∃ id, id ∉ r.orderedServerIds ∧
        (addConfig uuids endpoints r config).orderedServerIds = r.orderedServerIds ++ [id] ∧
        (addConfig uuids endpoints r config).serverJsonById =
          Function.update r.serverJsonById id (some (embedStorageServerId id (withoutStorageServerId config))) := by
  refine ⟨SecureServersRepository.addServer_wellFormed uuids endpoints hr _ _ _, ?_⟩
  unfold addConfig SecureServersRepository.addServer
  generalize hid : r.normalizedOrGeneratedServerId uuids "" = idAndState
  obtain ⟨id, r'⟩ := idAndState
  obtain ⟨hnew, -, n, rfl⟩ := SecureServersRepository.normalizedOrGeneratedServerId_spec uuids hr.toConsistent _ hid
  have habsent : ¬ (({ r with uuidsDrawn := n } : SecureServersRepository).contains id = true ∨
      configTypeFromJson endpoints config = .invalid) := by
    rintro (hcontains | hinvalid)
    · exact hnew ((hr.mem_iff id).mpr hcontains)
    · exact configTypeFromJson_ne_invalid endpoints config hinvalid
  dsimp only
  rw [if_neg habsent, if_neg (not_not.mpr (configTypeFromJson_withoutStorageServerId endpoints config))]
  exact ⟨id, hnew, rfl, rfl⟩

theorem anyServer_addConfig (hr : r.WellFormed) (config : JsonObject) (fits : JsonObject → Bool) :
    anyServer (addConfig uuids endpoints r config) fits =
      (anyServer r fits || fits (withoutStorageServerId config)) := by
  obtain ⟨-, id, hnew, hids, hjson⟩ := addConfig_spec uuids endpoints hr config
  have hold : (r.orderedServerIds.any fun other => (Function.update r.serverJsonById id
      (some (embedStorageServerId id (withoutStorageServerId config))) other).any fun json =>
        fits (withoutStorageServerId json)) = anyServer r fits := by
    rw [anyServer, Bool.eq_iff_iff, List.any_eq_true, List.any_eq_true]
    refine exists_congr fun other => and_congr_right fun hother => ?_
    have hne : other ≠ id := fun heq => hnew (heq ▸ hother)
    rw [Function.update_of_ne hne]
  rw [anyServer, hids, hjson, List.any_append, hold, List.any_cons, List.any_nil, Bool.or_false, Function.update_self]
  simp

theorem hasThirdPartyConfig_of_native (h : configTypeFromJson endpoints config = .native) :
    hasThirdPartyConfig config = true := by
  rcases configTypeFromJson_cases endpoints config with hself | ⟨hgateway, -⟩ | hlegacy
  · rw [h, selfHostedConfigType] at hself
    split_ifs at hself with hthirdParty hadmin
    exact hthirdParty
  · rw [gatewayConfigType_eq, h] at hgateway
    cases isApiV2Subscription_of_serviceConfigType hgateway
  · rw [h] at hlegacy
    cases hlegacy

theorem isServerEntry_of_native (h : configTypeFromJson endpoints config = .native) : isServerEntry config = true := by
  have hcontainers : config.contains containers = true := by
    have hthirdParty := hasThirdPartyConfig_of_native endpoints h
    rw [contains]
    cases hvalue : config.value containers with
    | none =>
      rw [hasThirdPartyConfig, hvalue] at hthirdParty
      cases hthirdParty
    | some value => rfl
  rw [isServerEntry, hcontainers, Bool.or_true]

theorem value_configToAdd (config : JsonObject) {key : String} (hkey : key ≠ defaultContainer) :
    (configToAdd config).value key = config.value key := by
  rw [configToAdd]
  split_ifs
  · exact value_insert_of_ne _ hkey _
  · rfl

theorem configTypeFromJson_configToAdd (config : JsonObject) :
    configTypeFromJson endpoints (configToAdd config) = configTypeFromJson endpoints config := by
  apply configTypeFromJson_congr
  intro key hkey
  apply value_configToAdd
  rintro rfl
  revert hkey
  decide

theorem isNativeAt_configToAdd (host : String) (config : JsonObject) :
    isNativeAt endpoints host (withoutStorageServerId (configToAdd config)) = isNativeAt endpoints host config := by
  rw [isNativeAt, configTypeFromJson_withoutStorageServerId, configTypeFromJson_configToAdd, hostOf,
    withoutStorageServerId, value_remove_of_ne _ (by decide), value_configToAdd _ (by decide)]
  rfl

theorem isSubscriptionWith_configToAdd (crc : ℕ) (config : JsonObject) :
    isSubscriptionWith endpoints crc (withoutStorageServerId (configToAdd config)) =
      isSubscriptionWith endpoints crc config := by
  rw [isSubscriptionWith, configTypeFromJson_withoutStorageServerId, configTypeFromJson_configToAdd, crcOf,
    withoutStorageServerId, value_remove_of_ne _ (by decide), value_configToAdd _ (by decide)]
  rfl

theorem configTypeFromJson_configWithCrc (qChecksum : JsonObject → ℕ) (config : JsonObject) :
    configTypeFromJson endpoints (withoutStorageServerId (configWithCrc qChecksum config)) =
      configTypeFromJson endpoints config := by
  rw [configTypeFromJson_withoutStorageServerId, configWithCrc, configTypeFromJson_insert endpoints _ (by decide)]

theorem isSubscriptionWith_configWithCrc {qChecksum : JsonObject → ℕ} (hcrc : qChecksum config < 65536) (crc : ℕ) :
    isSubscriptionWith endpoints crc (withoutStorageServerId (configWithCrc qChecksum config)) =
      ((configTypeFromJson endpoints config).isApiV2Subscription && qChecksum config = crc) := by
  have hstored : crcOf (withoutStorageServerId (configWithCrc qChecksum config)) = qChecksum config := by
    rw [crcOf, withoutStorageServerId, value_remove_of_ne _ (by decide), configWithCrc,
      value_insert_self]
    exact Json.toInt_double (i := (qChecksum config : Int)) (by omega) 0
  rw [isSubscriptionWith, configTypeFromJson_configWithCrc, hstored]
  congr 2
  rw [eq_iff_iff]
  omega

end Recognise

/-! ### One entry -/

section Entries

variable {r : SecureServersRepository} (uuids : UuidSource) (endpoints : ApiEndpoints) (qChecksum : JsonObject → ℕ)

/-- The entry is not recognised, and is added. -/
def accepts (r : SecureServersRepository) (config : JsonObject) : Bool :=
  if isServerEntry config then !(hostOf config != "" && hasNativeServerWithHost endpoints r (hostOf config))
  else config.contains configVersion && !hasServerWithCrc endpoints r (qChecksum config)

def entryToAdd (config : JsonObject) : JsonObject :=
  if isServerEntry config then configToAdd config else configWithCrc qChecksum config

theorem addEntry_eq (r : SecureServersRepository) (config : JsonObject) :
    addEntry uuids endpoints qChecksum r config =
      if accepts endpoints qChecksum r config then addConfig uuids endpoints r (entryToAdd qChecksum config)
      else r := by
  have hserver : isServerEntry config =
      ((ServerCredentials.fromConfig config).isValid || config.contains containers) := rfl
  rw [addEntry, addServerFromConfig, accepts, entryToAdd, ← hserver]
  cases isServerEntry config with
  | true =>
    show (if (hostOf config != "" && hasNativeServerWithHost endpoints r (hostOf config)) = true then (r, true)
      else (addConfig uuids endpoints r (configToAdd config), true)).1 = _
    cases (hostOf config != "" && hasNativeServerWithHost endpoints r (hostOf config)) <;> rfl
  | false =>
    cases config.contains configVersion with
    | false => rfl
    | true => cases hasServerWithCrc endpoints r (qChecksum config) <;> rfl

section
variable (hr : r.WellFormed)
include hr

theorem addEntry_wellFormed (config : JsonObject) : (addEntry uuids endpoints qChecksum r config).WellFormed := by
  rw [addEntry_eq]
  split_ifs
  · exact (addConfig_spec uuids endpoints hr _).1
  · exact hr

theorem length_addEntry (config : JsonObject) :
    (addEntry uuids endpoints qChecksum r config).orderedServerIds.length =
      r.orderedServerIds.length + if accepts endpoints qChecksum r config then 1 else 0 := by
  rw [addEntry_eq]
  split_ifs
  · obtain ⟨-, id, -, hids, -⟩ := addConfig_spec uuids endpoints hr (entryToAdd qChecksum config)
    rw [hids, List.length_append, List.length_singleton]
  · rfl

theorem length_le_foldl (configs : List JsonObject) :
    r.orderedServerIds.length ≤ (configs.foldl (addEntry uuids endpoints qChecksum) r).orderedServerIds.length := by
  induction configs generalizing r with
  | nil => exact Nat.le_refl _
  | cons config configs ih =>
    have hstep := length_addEntry uuids endpoints qChecksum hr config
    have hrest := ih (addEntry_wellFormed uuids endpoints qChecksum hr config)
    rw [List.foldl_cons]
    omega

theorem foldl_addEntry_same_iff (configs : List JsonObject) :
    (configs.foldl (addEntry uuids endpoints qChecksum) r).orderedServerIds = r.orderedServerIds ↔
      ∀ config ∈ configs, accepts endpoints qChecksum r config = false := by
  induction configs with
  | nil => exact iff_of_true rfl (List.forall_mem_nil _)
  | cons config configs ih =>
    rw [List.foldl_cons, List.forall_mem_cons]
    cases haccepts : accepts endpoints qChecksum r config with
    | false =>
      rw [addEntry_eq, haccepts, if_neg Bool.false_ne_true, ih]
      exact (and_iff_right rfl).symm
    | true =>
      refine iff_of_false (fun hsame => ?_) fun h => Bool.false_ne_true h.1.symm
      have hstep := length_addEntry uuids endpoints qChecksum hr config
      have hrest := length_le_foldl uuids endpoints qChecksum
        (addEntry_wellFormed uuids endpoints qChecksum hr config) configs
      rw [hsame, hstep, haccepts] at hrest
      exact absurd hrest (by simp)

end

theorem foldl_addEntry_of_recognised {configs : List JsonObject}
    (h : ∀ config ∈ configs, accepts endpoints qChecksum r config = false) :
    configs.foldl (addEntry uuids endpoints qChecksum) r = r := by
  induction configs with
  | nil => rfl
  | cons config configs ih =>
    rw [List.forall_mem_cons] at h
    rw [List.foldl_cons, addEntry_eq, h.1, if_neg Bool.false_ne_true]
    exact ih h.2

/-! ### What is recognised after a list -/

/-- A native server of the repository has the host, or an entry of the list is one. -/
def KnownHost (r : SecureServersRepository) (configs : List JsonObject) (host : String) : Prop :=
  hasNativeServerWithHost endpoints r host = true ∨ ∃ config ∈ configs, isNativeAt endpoints host config = true

/-- The entry becomes a subscription that the checksum finds: the checksum is the one it gets. -/
def isGatewayWith (crc : ℕ) (config : JsonObject) : Bool :=
  isGatewayEntry config && (configTypeFromJson endpoints config).isApiV2Subscription && qChecksum config = crc

/-- A subscription of the repository has the checksum, or an entry of the gateway gets it, or an entry that brings
containers has it already and is not taken for a server that precedes it. -/
def KnownCrc (r : SecureServersRepository) (configs : List JsonObject) (crc : ℕ) : Prop :=
  hasServerWithCrc endpoints r crc = true ∨
    (∃ config ∈ configs, isGatewayWith endpoints qChecksum crc config = true) ∨
    ∃ before config after, configs = before ++ config :: after ∧ isServerEntry config = true ∧
      isSubscriptionWith endpoints crc config = true ∧
      (hostOf config = "" ∨ ¬ KnownHost endpoints r before (hostOf config))

theorem hasNative_addEntry (hr : r.WellFormed) (config : JsonObject) (host : String) :
    hasNativeServerWithHost endpoints (addEntry uuids endpoints qChecksum r config) host = true ↔
      hasNativeServerWithHost endpoints r host = true ∨ isNativeAt endpoints host config = true := by
  have hkind : isNativeAt endpoints host config = true →
      isServerEntry config = true ∧ hostOf config = host := by
    intro h
    rw [isNativeAt, Bool.and_eq_true, decide_eq_true_iff, decide_eq_true_iff] at h
    exact ⟨isServerEntry_of_native endpoints h.1, h.2⟩
  rw [addEntry_eq]
  cases haccepts : accepts endpoints qChecksum r config with
  | true =>
    rw [if_pos rfl, hasNativeServerWithHost_eq, hasNativeServerWithHost_eq, anyServer_addConfig uuids endpoints hr,
      Bool.or_eq_true, entryToAdd]
    refine or_congr_right ?_
    cases hserver : isServerEntry config with
    | true => rw [if_pos rfl, isNativeAt_configToAdd]
    | false =>
      have hnot : ¬ isNativeAt endpoints host config = true :=
        fun h => Bool.false_ne_true (hserver ▸ (hkind h).1)
      refine iff_of_false (fun h => ?_) hnot
      rw [if_neg Bool.false_ne_true, isNativeAt, configTypeFromJson_configWithCrc, Bool.and_eq_true,
        decide_eq_true_iff] at h
      exact Bool.false_ne_true (hserver ▸ isServerEntry_of_native endpoints h.1)
  | false =>
    refine (or_iff_left_of_imp fun h => ?_).symm
    obtain ⟨hserver, rfl⟩ := hkind h
    rw [accepts, if_pos hserver, Bool.not_eq_false', Bool.and_eq_true] at haccepts
    exact haccepts.2

theorem knownHost_cons (hr : r.WellFormed) (config : JsonObject) (configs : List JsonObject) (host : String) :
    KnownHost endpoints (addEntry uuids endpoints qChecksum r config) configs host ↔
      KnownHost endpoints r (config :: configs) host := by
  rw [KnownHost, KnownHost, hasNative_addEntry uuids endpoints qChecksum hr, or_assoc]
  refine or_congr_right ?_
  simp only [List.mem_cons, exists_eq_or_imp]

theorem hasNative_foldl (hr : r.WellFormed) (configs : List JsonObject) (host : String) :
    hasNativeServerWithHost endpoints (configs.foldl (addEntry uuids endpoints qChecksum) r) host = true ↔
      KnownHost endpoints r configs host := by
  induction configs generalizing r with
  | nil => exact (or_iff_left fun ⟨_, hmem, _⟩ => List.not_mem_nil hmem).symm
  | cons config configs ih =>
    rw [List.foldl_cons, ih (addEntry_wellFormed uuids endpoints qChecksum hr config),
      knownHost_cons uuids endpoints qChecksum hr]

section Checksum

variable {r : SecureServersRepository} (hcrc : ∀ config, qChecksum config < 65536)

include hcrc

theorem hasCrc_addEntry (hr : r.WellFormed) (config : JsonObject) (crc : ℕ) :
    hasServerWithCrc endpoints (addEntry uuids endpoints qChecksum r config) crc = true ↔
      hasServerWithCrc endpoints r crc = true ∨ isGatewayWith endpoints qChecksum crc config = true ∨
        isServerEntry config = true ∧ isSubscriptionWith endpoints crc config = true ∧
          (hostOf config = "" ∨ ¬ hasNativeServerWithHost endpoints r (hostOf config) = true) := by
  have hadded (config' : JsonObject) : hasServerWithCrc endpoints (addConfig uuids endpoints r config') crc =
      (hasServerWithCrc endpoints r crc || isSubscriptionWith endpoints crc (withoutStorageServerId config')) := by
    rw [hasServerWithCrc_eq, hasServerWithCrc_eq, anyServer_addConfig uuids endpoints hr]
  rw [addEntry_eq, accepts, entryToAdd, isGatewayWith, isGatewayEntry]
  cases hserver : isServerEntry config with
  | true =>
    have hnew : (hostOf config = "" ∨ ¬ hasNativeServerWithHost endpoints r (hostOf config) = true) ↔
        (!(hostOf config != "" && hasNativeServerWithHost endpoints r (hostOf config))) = true := by
      simp
    rw [hnew]
    cases !(hostOf config != "" && hasNativeServerWithHost endpoints r (hostOf config)) with
    | true => simp [hadded, isSubscriptionWith_configToAdd]
    | false => simp
  | false =>
    cases hversion : config.contains configVersion with
    | false => simp
    | true =>
      cases hfound : hasServerWithCrc endpoints r (qChecksum config) with
      | false => simp [hadded, isSubscriptionWith_configWithCrc endpoints (hcrc config)]
      | true =>
        simp only [Bool.not_true, Bool.and_false, Bool.false_eq_true, ↓reduceIte, Bool.not_false, Bool.and_self,
          Bool.true_and, false_and, or_false]
        refine (or_iff_left_of_imp fun h => ?_).symm
        rw [Bool.and_eq_true, decide_eq_true_iff] at h
        rw [← h.2, hfound]

theorem knownCrc_cons (hr : r.WellFormed) (config : JsonObject) (configs : List JsonObject) (crc : ℕ) :
    KnownCrc endpoints qChecksum (addEntry uuids endpoints qChecksum r config) configs crc ↔
      KnownCrc endpoints qChecksum r (config :: configs) crc := by
  have hnil (host : String) : KnownHost endpoints r [] host ↔ hasNativeServerWithHost endpoints r host = true :=
    or_iff_left fun ⟨_, hmem, _⟩ => List.not_mem_nil hmem
  rw [KnownCrc, hasCrc_addEntry uuids endpoints qChecksum hcrc hr]
  simp only [knownHost_cons uuids endpoints qChecksum hr]
  constructor
  · rintro ((hrepository | hgateway | ⟨hserver, hwith, hhost⟩) | ⟨other, hmem, hgateway⟩ |
      ⟨before, other, after, rfl, hother⟩)
    · exact Or.inl hrepository
    · exact Or.inr (Or.inl ⟨config, List.mem_cons_self, hgateway⟩)
    · exact Or.inr (Or.inr ⟨[], config, configs, rfl, hserver, hwith, by rwa [hnil]⟩)
    · exact Or.inr (Or.inl ⟨other, List.mem_cons_of_mem _ hmem, hgateway⟩)
    · exact Or.inr (Or.inr ⟨config :: before, other, after, rfl, hother⟩)
  · rintro (hrepository | ⟨other, hmem, hgateway⟩ | ⟨before, other, after, hsplit, hserver, hwith, hhost⟩)
    · exact Or.inl (Or.inl hrepository)
    · rcases List.mem_cons.mp hmem with rfl | hmem
      · exact Or.inl (Or.inr (Or.inl hgateway))
      · exact Or.inr (Or.inl ⟨other, hmem, hgateway⟩)
    · cases before with
      | nil =>
        obtain ⟨rfl, rfl⟩ := List.cons.inj hsplit
        rw [hnil] at hhost
        exact Or.inl (Or.inr (Or.inr ⟨hserver, hwith, hhost⟩))
      | cons first before =>
        obtain ⟨rfl, rfl⟩ := List.cons.inj hsplit
        exact Or.inr (Or.inr ⟨before, other, after, rfl, hserver, hwith, hhost⟩)

theorem hasCrc_foldl (hr : r.WellFormed) (configs : List JsonObject) (crc : ℕ) :
    hasServerWithCrc endpoints (configs.foldl (addEntry uuids endpoints qChecksum) r) crc = true ↔
      KnownCrc endpoints qChecksum r configs crc := by
  induction configs generalizing r with
  | nil =>
    refine (or_iff_left ?_).symm
    rintro (⟨_, hmem, _⟩ | ⟨before, _, after, hsplit, _⟩)
    · exact List.not_mem_nil hmem
    · exact List.append_ne_nil_of_right_ne_nil before (List.cons_ne_nil _ _) hsplit.symm
  | cons config configs ih =>
    rw [List.foldl_cons, ih (addEntry_wellFormed uuids endpoints qChecksum hr config),
      knownCrc_cons uuids endpoints qChecksum hcrc hr]

end Checksum

/-- The entry is recognised once the list is imported: its host is that of a native server which the repository had or
the list brings, or, for an entry of the gateway, its checksum is that of such a subscription. -/
def Recognised (r : SecureServersRepository) (configs : List JsonObject) (config : JsonObject) : Prop :=
  (isServerEntry config = true → hostOf config ≠ "" ∧ KnownHost endpoints r configs (hostOf config)) ∧
    (isGatewayEntry config = true → KnownCrc endpoints qChecksum r configs (qChecksum config))

theorem accepts_foldl_eq_false_iff (hcrc : ∀ config, qChecksum config < 65536)
    (hr : r.WellFormed) (configs : List JsonObject) (config : JsonObject) :
    accepts endpoints qChecksum (configs.foldl (addEntry uuids endpoints qChecksum) r) config = false ↔
      Recognised endpoints qChecksum r configs config := by
  have hhost := hasNative_foldl uuids endpoints qChecksum hr configs (hostOf config)
  have hchecksum := hasCrc_foldl uuids endpoints qChecksum hcrc hr configs (qChecksum config)
  rw [accepts, Recognised, ← hhost, ← hchecksum, isGatewayEntry]
  cases isServerEntry config with
  | true => simp
  | false => simp

end Entries

/-- **Importing a list a second time.** In every repository that calls can reach, for every list of entries, the servers,
their order and the default are after the second import what they were after the first if and only if the first leaves
every entry of the list recognised. -/
theorem reimport_idempotent_iff (uuids : UuidSource) (endpoints : ApiEndpoints) (qChecksum : JsonObject → Fin 65536)
    (settings : Settings) (uuidsDrawn : ℕ) (calls : List SecureServersRepository.Call) (configs : List JsonObject) :
    let crc (config : JsonObject) : ℕ := qChecksum config
    let r := (SecureServersRepository.create uuids endpoints settings uuidsDrawn).runCalls uuids endpoints calls
    let once := (importConfigs uuids endpoints crc r configs).1
    let twice := (importConfigs uuids endpoints crc once configs).1
    (twice.orderedServerIds = once.orderedServerIds ∧ twice.serverJsonById = once.serverJsonById ∧
        twice.defaultServerId = once.defaultServerId) ↔
      ∀ config ∈ configs, Recognised endpoints crc r configs config := by
  intro crc r once twice
  have hr : r.WellFormed := SecureServersRepository.reached_wellFormed uuids endpoints settings uuidsDrawn calls
  have hcrc (config : JsonObject) : crc config < 65536 := (qChecksum config).isLt
  have honce : once = configs.foldl (addEntry uuids endpoints crc) r := importConfigs_fst uuids endpoints crc r configs
  have htwice : twice = configs.foldl (addEntry uuids endpoints crc) once := by
    rw [← importConfigs_fst uuids endpoints crc once configs]
  have honceWell : once.WellFormed := by
    rw [honce]
    exact List.foldlRecOn (motive := SecureServersRepository.WellFormed) configs _ hr
      fun _ h config _ => addEntry_wellFormed uuids endpoints crc h config
  have hrecognised : (∀ config ∈ configs, accepts endpoints crc once config = false) ↔
      ∀ config ∈ configs, Recognised endpoints crc r configs config := by
    refine forall₂_congr fun config _ => ?_
    rw [honce]
    exact accepts_foldl_eq_false_iff uuids endpoints crc hcrc hr configs config
  rw [← hrecognised]
  constructor
  · rintro ⟨hids, -, -⟩
    rw [htwice] at hids
    exact (foldl_addEntry_same_iff uuids endpoints crc honceWell configs).mp hids
  · intro h
    have hsame : twice = once := htwice.trans (foldl_addEntry_of_recognised uuids endpoints crc h)
    rw [hsame]
    exact ⟨rfl, rfl, rfl⟩

def sharedServer (host : String) : JsonObject :=
  [("containers", .array [.object [("container", .string "amnezia-awg"), ("awg", .object [("port", .string "51820")])]]),
    ("defaultContainer", .string "amnezia-awg"), ("hostName", .string host)]

/-- Two share links, imported into the empty repository once and twice. -/
theorem shared_servers_imported_twice :
    let r := SecureServersRepository.create .longest importEndpoints ⟨[], "", 0⟩ 0
    let configs := [sharedServer "192.0.2.1", sharedServer "192.0.2.2"]
    let once := (importConfigs .longest importEndpoints (fun _ => 0) r configs).1
    let twice := (importConfigs .longest importEndpoints (fun _ => 0) once configs).1
    once.orderedServerIds.length = 2 ∧ twice.orderedServerIds.length = 4 ∧
      (twice.orderedServerIds.filter fun id => (twice.serverJsonById id).any fun json =>
        hostOf json = "192.0.2.1").length = 2 := by
  decide +kernel

end ImportController

end FreshVpn
