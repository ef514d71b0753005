import FreshVpn.ServersInvariant

/-! Importing a server (`ImportController::importConfig`, `addServerFromConfig`), and the container that an
imported server is connected with by default. -/

namespace FreshVpn

open ConfigKey JsonObject

/-- The credentials of an administrator, as both paths read them. -/
structure ServerCredentials where
  hostName : String
  userName : String
  secretData : String
  port : Int

namespace ServerCredentials

def fromConfig (config : JsonObject) : ServerCredentials where
  hostName := Json.toString (config.value ConfigKey.hostName)
  userName := Json.toString (config.value ConfigKey.userName)
  secretData := Json.toString (config.value ConfigKey.password)
  port := Json.toInt (config.value ConfigKey.port) 0

def isValid (c : ServerCredentials) : Bool :=
  c.hostName != "" && c.userName != "" && c.secretData != "" && 0 < c.port

end ServerCredentials

inductive ImportError where
  | apiConfigAlreadyAdded
  | importInvalidConfigError
  deriving DecidableEq

inductive ImportSignal where
  | importFinished
  | importErrorOccurred (error : ImportError) (goToPageHome : Bool)
  deriving DecidableEq

namespace ImportController

def containerName (value : Json) : String :=
  Json.toString ((Json.toObject (some value)).value ConfigKey.container)

def isAwgElement (value : Json) : Bool :=
  (DockerContainer.containerFromString (containerName value)).isAwgContainer

/-- The configuration that is added: AmneziaWG becomes the default if the bundle provides it. -/
def configToAdd (config : JsonObject) : JsonObject :=
  if (Json.toArray (config.value ConfigKey.containers)).any isAwgElement then
    config.insert ConfigKey.defaultContainer (.string "amnezia-awg")
  else config

variable (uuids : UuidSource) (endpoints : ApiEndpoints) (qChecksum : JsonObject → ℕ) (r : SecureServersRepository)

/-- Adds under a generated id, with the kind that the configuration has. -/
def addConfig (config : JsonObject) : SecureServersRepository :=
  (r.addServer uuids endpoints "" config (configTypeFromJson endpoints config)).2

/-- Some subscription has this checksum; `static_cast<quint16>` is the remainder. -/
def hasServerWithCrc (crc : ℕ) : Bool :=
  r.orderedServerIds.any fun id =>
    (r.configOfKind endpoints ConfigType.isApiV2Subscription (fun json => Json.toInt (json.value "crc") 0) id).any
      fun stored : Int => stored % 65536 = crc

def configWithCrc (config : JsonObject) : JsonObject := config.insert "crc" (.double (qChecksum config))

def importConfig (config : JsonObject) : SecureServersRepository × ImportSignal :=
  if (ServerCredentials.fromConfig config).isValid || config.contains ConfigKey.containers then
    (addConfig uuids endpoints r (configToAdd config), .importFinished)
  else if config.contains ConfigKey.configVersion then
    if hasServerWithCrc endpoints r (qChecksum config) then (r, .importErrorOccurred .apiConfigAlreadyAdded true)
    else (addConfig uuids endpoints r (configWithCrc qChecksum config), .importFinished)
  else (r, .importErrorOccurred .importInvalidConfigError false)

def hasNativeServerWithHost (host : String) : Bool :=
  r.orderedServerIds.any fun id => (r.nativeConfig endpoints id).any fun config => config.hostName = host

/-- One entry of a subscription; a duplicate is reported as added. -/
def addServerFromConfig (config : JsonObject) : SecureServersRepository × Bool :=
  if (ServerCredentials.fromConfig config).isValid || config.contains ConfigKey.containers then
    let newHost := Json.toString (config.value ConfigKey.hostName)
    if newHost != "" && hasNativeServerWithHost endpoints r newHost then (r, true)
    else (addConfig uuids endpoints r (configToAdd config), true)
  else if config.contains ConfigKey.configVersion then
    if hasServerWithCrc endpoints r (qChecksum config) then (r, false)
    else (addConfig uuids endpoints r (configWithCrc qChecksum config), true)
  else (r, false)

/-- The two ways in which a configuration is imported. -/
inductive Path where
  | importConfig
  | addServerFromConfig

def Path.run (path : Path) (r : SecureServersRepository) (config : JsonObject) : SecureServersRepository :=
  match path with
  | .importConfig => (ImportController.importConfig uuids endpoints qChecksum r config).1
  | .addServerFromConfig => (ImportController.addServerFromConfig uuids endpoints qChecksum r config).1

/-! ### What is stored -/

def containerNames (json : JsonObject) : List String :=
  (Json.toArray (json.value ConfigKey.containers)).filterMap fun value =>
    match (Json.toObject (some value)).value ConfigKey.container with
    | some (.string name) => some name
    | _ => none

def isAwgName (name : String) : Bool := (DockerContainer.containerFromString name).isAwgContainer

def DefaultListed (json : JsonObject) : Prop :=
  ∃ name ∈ containerNames json, json.value ConfigKey.defaultContainer = some (.string name)

/-- The default is a listed container, and an AmneziaWG one if there is such a container. -/
def ConnectableByDefault (json : JsonObject) : Prop :=
  DefaultListed json ∧ ((∃ name ∈ containerNames json, isAwgName name = true) →
    ∃ name ∈ containerNames json, json.value ConfigKey.defaultContainer = some (.string name) ∧ isAwgName name = true)

theorem mem_containerNames {json : JsonObject} {name : String} :
    name ∈ containerNames json ↔ ∃ value ∈ Json.toArray (json.value ConfigKey.containers),
      (Json.toObject (some value)).value ConfigKey.container = some (.string name) := by
  unfold containerNames
  rw [List.mem_filterMap]
  refine exists_congr fun value => and_congr_right fun _ => ?_
  split
  · rename_i name' hname
    rw [hname, Option.some.injEq, Option.some.injEq, Json.string.injEq]
  · rename_i hnot
    refine ⟨fun h => ?_, fun h => absurd h (hnot name)⟩
    cases h

theorem any_isAwgElement_iff (config : JsonObject) :
    (Json.toArray (config.value ConfigKey.containers)).any isAwgElement = true ↔
      ∃ name ∈ containerNames config, isAwgName name = true := by
  have hempty : isAwgName "" = false := by decide
  rw [List.any_eq_true]
  constructor
  · rintro ⟨value, hvalue, hawg⟩
    unfold isAwgElement containerName at hawg
    cases hname : (Json.toObject (some value)).value container with
    | none =>
      rw [hname] at hawg
      cases hempty.symm.trans hawg
    | some json =>
      rw [hname] at hawg
      cases json with
      | string name => exact ⟨name, mem_containerNames.mpr ⟨value, hvalue, hname⟩, hawg⟩
      | null | bool _ | double _ | array _ | object _ => cases hempty.symm.trans hawg
  · rintro ⟨name, hmem, hawg⟩
    obtain ⟨value, hvalue, hname⟩ := mem_containerNames.mp hmem
    refine ⟨value, hvalue, ?_⟩
    rw [isAwgElement, containerName, hname]
    exact hawg

theorem containerNames_congr {json json' : JsonObject}
    (h : json'.value ConfigKey.containers = json.value ConfigKey.containers) :
    containerNames json' = containerNames json := by
  unfold containerNames
  rw [h]

variable {config : JsonObject}

theorem connectableByDefault_configToAdd_iff
    (hown : config.contains ConfigKey.defaultContainer = true → DefaultListed config) :
    ConnectableByDefault (configToAdd config) ↔
      "amnezia-awg" ∈ containerNames config ∨
        (¬ ∃ name ∈ containerNames config, isAwgName name = true) ∧
          config.contains ConfigKey.defaultContainer = true := by
  unfold configToAdd
  split_ifs with hawg
  · -- The default is overwritten whichever generation has been found.
    rw [any_isAwgElement_iff] at hawg
    have hnames : containerNames (config.insert defaultContainer (.string "amnezia-awg")) =
        containerNames config := containerNames_congr (value_insert_of_ne _ (by decide) _)
    unfold ConnectableByDefault DefaultListed
    rw [hnames, value_insert_self]
    constructor
    · rintro ⟨⟨name, hmem, hname⟩, -⟩
      cases hname
      exact Or.inl hmem
    · rintro (hmem | ⟨hnone, -⟩)
      · exact ⟨⟨_, hmem, rfl⟩, fun _ => ⟨_, hmem, rfl, by decide⟩⟩
      · exact absurd hawg hnone
  · rw [any_isAwgElement_iff] at hawg
    constructor
    · rintro ⟨⟨name, hmem, hname⟩, -⟩
      refine Or.inr ⟨hawg, ?_⟩
      rw [contains, hname]
      rfl
    · rintro (hmem | ⟨-, hgiven⟩)
      · exact absurd ⟨_, hmem, by decide⟩ hawg
      · exact ⟨hown hgiven, fun hsome => absurd hsome hawg⟩

theorem stored_of_addConfig {r : SecureServersRepository} (hr : SecureServersRepository.Consistent r) {id : String}
    (hnew : id ∉ r.orderedServerIds) (hadded : id ∈ (addConfig uuids endpoints r config).orderedServerIds) :
    (addConfig uuids endpoints r config).serverJsonById id =
      some (embedStorageServerId id (withoutStorageServerId config)) := by
  unfold addConfig SecureServersRepository.addServer at hadded ⊢
  generalize hid : r.normalizedOrGeneratedServerId uuids "" = idAndState at hadded ⊢
  obtain ⟨id', r'⟩ := idAndState
  obtain ⟨-, -, n, rfl⟩ := SecureServersRepository.normalizedOrGeneratedServerId_spec uuids hr _ hid
  dsimp only at hadded ⊢
  split_ifs at hadded ⊢
  · exact absurd hadded hnew
  · exact absurd hadded hnew
  all_goals
    have heq : id = id' := List.mem_singleton.mp ((List.mem_append.mp hadded).resolve_left hnew)
    rw [heq]
    exact Function.update_self ..

theorem run_of_containers (hcontainers : config.contains ConfigKey.containers = true) (path : Path)
    (r : SecureServersRepository) :
    path.run uuids endpoints qChecksum r config = r ∨
      path.run uuids endpoints qChecksum r config = addConfig uuids endpoints r (configToAdd config) := by
  have htaken : ((ServerCredentials.fromConfig config).isValid || config.contains containers) = true := by
    rw [hcontainers, Bool.or_true]
  cases path with
  | importConfig =>
    unfold Path.run importConfig
    dsimp only
    rw [if_pos htaken]
    exact Or.inr rfl
  | addServerFromConfig =>
    unfold Path.run addServerFromConfig
    dsimp only
    split_ifs
    · exact Or.inl rfl
    · exact Or.inr rfl

theorem connectableByDefault_embed_iff (id : String) (json : JsonObject) :
    ConnectableByDefault (embedStorageServerId id (withoutStorageServerId json)) ↔ ConnectableByDefault json := by
  have hvalue : ∀ key, key ≠ storageServerId →
      (embedStorageServerId id (withoutStorageServerId json)).value key = json.value key := by
    intro key hne
    rw [embedStorageServerId, value_insert_of_ne _ hne, withoutStorageServerId,
      value_remove_of_ne _ hne]
  unfold ConnectableByDefault DefaultListed
  rw [containerNames_congr (hvalue containers (by decide)),
    hvalue defaultContainer (by decide)]

/-- **Imported servers and their default container.** For a configuration that lists containers, and whose own
default is one of them if it is given, what either import path stores has a listed default, an AmneziaWG one if
there is any, exactly if the list names the first generation of AmneziaWG, or names none and a default was given. -/
theorem imported_connectable_iff (uuids : UuidSource) (endpoints : ApiEndpoints) (qChecksum : JsonObject → ℕ)
    (settings : Settings) (uuidsDrawn : ℕ) (calls : List SecureServersRepository.Call) (path : Path)
    (config : JsonObject) (hlisted : Json.toArray (config.value ConfigKey.containers) ≠ [])
    (hown : config.contains ConfigKey.defaultContainer = true → DefaultListed config) :
    let r := (SecureServersRepository.create uuids endpoints settings uuidsDrawn).runCalls uuids endpoints calls
    let r' := path.run uuids endpoints qChecksum r config
    ∀ id stored, id ∈ r'.orderedServerIds → id ∉ r.orderedServerIds → r'.serverJsonById id = some stored →
      (ConnectableByDefault stored ↔
        "amnezia-awg" ∈ containerNames config ∨
          (¬ ∃ name ∈ containerNames config, isAwgName name = true) ∧
            config.contains defaultContainer = true) := by
  intro r r' id stored hadded hnew hstored
  have hr : SecureServersRepository.WellFormed r :=
    SecureServersRepository.reached_wellFormed uuids endpoints settings uuidsDrawn calls
  have hcontainers : config.contains containers = true := by
    rw [contains]
    cases hvalue : config.value containers with
    | none =>
      rw [hvalue] at hlisted
      exact absurd rfl hlisted
    | some json => rfl
  have hr' : r' = addConfig uuids endpoints r (configToAdd config) := by
    refine (run_of_containers uuids endpoints qChecksum hcontainers path r).resolve_left fun hsame => ?_
    exact hnew (hsame ▸ hadded)
  rw [hr'] at hadded hstored
  rw [stored_of_addConfig uuids endpoints hr.toConsistent hnew hadded, Option.some.injEq] at hstored
  rw [← hstored, connectableByDefault_embed_iff, connectableByDefault_configToAdd_iff hown]

def bundleOf (name : String) : JsonObject :=
  [("containers", .array [.object [("container", .string name)]]), ("defaultContainer", .string name)]

def importEndpoints : ApiEndpoints := { freeV2Endpoint := "f", premiumV1Endpoint := "p" }

def importBundle (path : Path) (name : String) : SecureServersRepository :=
  path.run .longest importEndpoints (fun _ => 0) (SecureServersRepository.create .longest importEndpoints ⟨[], "", 0⟩ 0)
    (bundleOf name)

def namesAndDefault (r : SecureServersRepository) : Option (List String × String) :=
  (r.serverJsonById "u").map fun stored =>
    (containerNames stored, Json.toString (stored.value ConfigKey.defaultContainer))

/-- The stored default is not the container of the bundle, on either path. -/
theorem second_generation_gets_absent_default :
    namesAndDefault (importBundle .importConfig "amnezia-awg2") = some (["amnezia-awg2"], "amnezia-awg") ∧
      namesAndDefault (importBundle .addServerFromConfig "amnezia-awg2") = some (["amnezia-awg2"], "amnezia-awg") := by
  decide +kernel

theorem first_generation_is_connectable :
    ∃ stored, (importBundle .importConfig "amnezia-awg").serverJsonById "u" = some stored ∧
      ConnectableByDefault stored := by
  have hsome : ((importBundle .importConfig "amnezia-awg").serverJsonById "u").isSome = true := by decide +kernel
  obtain ⟨stored, hstored⟩ := Option.isSome_iff_exists.mp hsome
  have hlisted : "amnezia-awg" ∈ containerNames (bundleOf "amnezia-awg") := by decide +kernel
  refine ⟨stored, hstored, (imported_connectable_iff .longest importEndpoints (fun _ => 0) ⟨[], "", 0⟩ 0 []
    .importConfig (bundleOf "amnezia-awg") (List.cons_ne_nil _ _) (fun _ => ⟨_, hlisted, rfl⟩) "u" stored ?_ ?_
    hstored).mpr (Or.inl hlisted)⟩
  · decide +kernel
  · exact List.not_mem_nil

end ImportController

end FreshVpn
