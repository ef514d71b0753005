import FreshVpn.ServersConfig

/-! The repository of servers (`SecureServersRepository`): the JSON of every server by id, the order of the ids, the
default server, and the settings they are persisted in. The persisted list is kept as the JSON array it encodes. -/

namespace FreshVpn

/-- The settings the repository reads and writes. -/
structure Settings where
  /-- `Servers/serversList`. -/
  serversList : List Json
  /-- `Servers/defaultServerId`. -/
  defaultServerId : String
  /-- `Servers/defaultServerIndex`, written by older versions only. -/
  defaultServerIndex : Int

/-- `QUuid::createUuid`, as a function of the number of earlier draws and of the ids in use. -/
structure UuidSource where
  createUuid : ℕ → List String → String
  fresh : ∀ n ids, createUuid n ids ∉ ids
  nonempty : ∀ n ids, createUuid n ids ≠ ""
  noSpaces : ∀ n ids, trimmed (createUuid n ids) = createUuid n ids

/-- A source that draws a name longer than every id in use. -/
def UuidSource.longest : UuidSource where
  createUuid n ids := String.ofList (List.replicate (n + 1 + (ids.map String.toList).flatten.length) 'u')
  fresh n ids hmem := by
    have hle := (List.sublist_flatten_of_mem (List.mem_map_of_mem (f := String.toList) hmem)).length_le
    rw [String.toList_ofList, List.length_replicate] at hle
    omega
  nonempty n ids heq := by
    have hlen := congrArg String.length heq
    rw [String.length_ofList, List.length_replicate, String.length_empty] at hlen
    omega
  noSpaces n ids := by
    have hu : ∀ m, (List.replicate (m + 1) 'u').dropWhile isSpace = List.replicate (m + 1) 'u' := fun m => by
      rw [List.replicate_succ, List.dropWhile_cons_of_neg (by decide)]
    rw [Nat.add_right_comm, trimmed, String.toList_ofList, hu, List.rdropWhile, List.reverse_replicate, hu,
      List.reverse_replicate]

inductive RepositorySignal where
  | serverAdded (serverId : String)
  | serverEdited (serverId : String)
  | serverRemoved (serverId : String) (removedIndex : ℕ)
  | defaultServerChanged (serverId : String)
  deriving DecidableEq

structure SecureServersRepository where
  serverJsonById : String → Option JsonObject
  orderedServerIds : List String
  defaultServerId : String
  settings : Settings
  uuidsDrawn : ℕ
  emitted : List RepositorySignal

def readStorageServerId (json : JsonObject) : String :=
  trimmed (Json.toString (json.value ConfigKey.storageServerId))

def withoutStorageServerId (json : JsonObject) : JsonObject := json.remove ConfigKey.storageServerId

def embedStorageServerId (serverId : String) (payloadSansId : JsonObject) : JsonObject :=
  payloadSansId.insert ConfigKey.storageServerId (.string serverId)

variable (serverId : String) (json : JsonObject)

@[simp] theorem withoutStorageServerId_embedStorageServerId :
    withoutStorageServerId (embedStorageServerId serverId json) = withoutStorageServerId json :=
  JsonObject.remove_insert_self ..

@[simp] theorem withoutStorageServerId_withoutStorageServerId :
    withoutStorageServerId (withoutStorageServerId json) = withoutStorageServerId json :=
  JsonObject.remove_remove ..

@[simp] theorem value_embedStorageServerId :
    (embedStorageServerId serverId json).value ConfigKey.storageServerId = some (.string serverId) :=
  JsonObject.value_insert_self ..

@[simp] theorem readStorageServerId_embedStorageServerId :
    readStorageServerId (embedStorageServerId serverId json) = trimmed serverId := by
  rw [readStorageServerId, value_embedStorageServerId, Json.toString]

namespace SecureServersRepository

variable (r : SecureServersRepository)

def contains (serverId : String) : Bool := (r.serverJsonById serverId).isSome

def indexOfServerId (serverId : String) : Option ℕ := r.orderedServerIds.idxOf? serverId

def defaultServerIndex : ℕ :=
  if r.orderedServerIds = [] then 0 else (r.indexOfServerId r.defaultServerId).getD 0

def serverKind (endpoints : ApiEndpoints) (serverId : String) : ConfigType :=
  match r.serverJsonById serverId with
  | none => .invalid
  | some json => configTypeFromJson endpoints (withoutStorageServerId json)

/-- The decoders by kind (`selfHostedAdminConfig` and its siblings): absent unless the stored JSON
still classifies into one of the `kinds`. -/
def configOfKind {α : Type} (endpoints : ApiEndpoints) (kinds : ConfigType → Bool)
    (fromJson : JsonObject → α) (serverId : String) : Option α :=
  match r.serverJsonById serverId with
  | none => none
  | some json =>
    let strippedJson := withoutStorageServerId json
    if kinds (configTypeFromJson endpoints strippedJson) then some (fromJson strippedJson) else none

def selfHostedAdminConfig (endpoints : ApiEndpoints) : String → Option SelfHostedAdminServerConfig :=
  r.configOfKind endpoints (· = .selfHostedAdmin) SelfHostedAdminServerConfig.fromJson

def selfHostedUserConfig (endpoints : ApiEndpoints) : String → Option ServerConfig :=
  r.configOfKind endpoints (· = .selfHostedUser) ServerConfig.fromJson

def nativeConfig (endpoints : ApiEndpoints) : String → Option ServerConfig :=
  r.configOfKind endpoints (· = .native) ServerConfig.fromJson

def apiV2Config (endpoints : ApiEndpoints) : String → Option ServerConfig :=
  r.configOfKind endpoints ConfigType.isApiV2Subscription ServerConfig.fromJson

def emit (signal : RepositorySignal) : SecureServersRepository :=
  { r with emitted := r.emitted ++ [signal] }

def clearServerStateMaps : SecureServersRepository :=
  { r with serverJsonById := fun _ => none, orderedServerIds := [] }

def insertJson (serverId : String) (json : JsonObject) : SecureServersRepository :=
  { r with serverJsonById := Function.update r.serverJsonById serverId (some json) }

def removeJson (serverId : String) : SecureServersRepository :=
  { r with serverJsonById := Function.update r.serverJsonById serverId none }

/-- The trimmed candidate if it is usable, else a generated id, with the repository after the draw. -/
def normalizedOrGeneratedServerId (uuids : UuidSource) (r : SecureServersRepository) (candidateId : String) :
    String × SecureServersRepository :=
  if trimmed candidateId ≠ "" ∧ r.contains (trimmed candidateId) = false then (trimmed candidateId, r)
  else (uuids.createUuid r.uuidsDrawn r.orderedServerIds, { r with uuidsDrawn := r.uuidsDrawn + 1 })

def updateDefaultServerFromStorage : SecureServersRepository :=
  let storedDefaultId := r.settings.defaultServerId
  let storedDefaultIndex := r.settings.defaultServerIndex
  if storedDefaultId ≠ "" ∧ r.contains storedDefaultId then { r with defaultServerId := storedDefaultId }
  else if 0 ≤ storedDefaultIndex ∧ storedDefaultIndex < r.orderedServerIds.length then
    { r with defaultServerId := r.orderedServerIds.getD storedDefaultIndex.toNat "" }
  else if r.orderedServerIds ≠ [] then { r with defaultServerId := r.orderedServerIds.headD "" }
  else { r with defaultServerId := "" }

def persistDefaultServerFields : SecureServersRepository :=
  let defaultServerId :=
    if r.orderedServerIds = [] then ""
    else if r.defaultServerId ∉ r.orderedServerIds then r.orderedServerIds.headD ""
    else r.defaultServerId
  { r with defaultServerId, settings := { r.settings with defaultServerId } }

/-- What the load path compares to drop a server imported twice: its kind and its host, if it has one.
The source joins the two into the text `kind|host`. -/
def hostKey (kind : ConfigType) (strippedJson : JsonObject) : Option (ConfigType × String) :=
  let host := trimmed (Json.toString (strippedJson.value ConfigKey.hostName))
  if host = "" then none else some (kind, host)

/-- The body of the load loop; the second component is `seenHostKeys`. -/
def loadEntry (uuids : UuidSource) (endpoints : ApiEndpoints)
    (state : SecureServersRepository × List (ConfigType × String)) (value : Json) :
    SecureServersRepository × List (ConfigType × String) :=
  let (r, seenHostKeys) := state
  let json := Json.toObject (some value)
  let (serverId, r) := r.normalizedOrGeneratedServerId uuids (readStorageServerId json)
  let strippedJson := withoutStorageServerId json
  let kind := configTypeFromJson endpoints strippedJson
  if r.contains serverId ∨ kind = .invalid then (r, seenHostKeys)
  else
    let r' := { r.insertJson serverId (embedStorageServerId serverId strippedJson) with
      orderedServerIds := r.orderedServerIds ++ [serverId] }
    match hostKey kind strippedJson with
    | none => (r', seenHostKeys)
    | some key => if key ∈ seenHostKeys then (r, seenHostKeys) else (r', seenHostKeys ++ [key])

def loadFromStorage (uuids : UuidSource) (endpoints : ApiEndpoints) (r : SecureServersRepository) :
    SecureServersRepository :=
  (r.settings.serversList.foldl (loadEntry uuids endpoints) (r.clearServerStateMaps, [])).1
    |>.updateDefaultServerFromStorage

/-- The array `syncToStorage` writes. -/
def serversArray : List Json :=
  r.orderedServerIds.filterMap fun serverId => (r.serverJsonById serverId).map Json.object

def syncToStorage : SecureServersRepository :=
  persistDefaultServerFields { r with settings := { r.settings with serversList := r.serversArray } }

def create (uuids : UuidSource) (endpoints : ApiEndpoints) (settings : Settings) (uuidsDrawn : ℕ) :
    SecureServersRepository :=
  persistDefaultServerFields <| loadFromStorage uuids endpoints
    { serverJsonById := fun _ => none, orderedServerIds := [], defaultServerId := "", settings, uuidsDrawn,
      emitted := [] }

def invalidateCache (uuids : UuidSource) (endpoints : ApiEndpoints) (r : SecureServersRepository) :
    SecureServersRepository :=
  r.loadFromStorage uuids endpoints

def clearServers : SecureServersRepository :=
  syncToStorage { r.clearServerStateMaps with defaultServerId := "" }

def addServer (uuids : UuidSource) (endpoints : ApiEndpoints) (r : SecureServersRepository)
    (serverId : String) (serverJson : JsonObject) (kind : ConfigType) : String × SecureServersRepository :=
  let (id, r) := r.normalizedOrGeneratedServerId uuids serverId
  let strippedJson := withoutStorageServerId serverJson
  if r.contains id ∨ kind = .invalid then (id, r)
  else if configTypeFromJson endpoints strippedJson ≠ kind then (id, r)
  else
    let r := { r.insertJson id (embedStorageServerId id strippedJson) with
      orderedServerIds := r.orderedServerIds ++ [id]
      defaultServerId := if r.defaultServerId = "" then id else r.defaultServerId }
    (id, r.syncToStorage.emit (.serverAdded id))

/-- The entry is taken out before the replacement is validated, and put back if it is refused. -/
def editServer (endpoints : ApiEndpoints) (r : SecureServersRepository) (serverId : String)
    (serverJson : JsonObject) (kind : ConfigType) : SecureServersRepository :=
  if r.indexOfServerId serverId = none ∨ kind = .invalid then r
  else match r.serverJsonById serverId with
    | none => r
    | some oldJson =>
      let oldKind := configTypeFromJson endpoints (withoutStorageServerId oldJson)
      let r := r.removeJson serverId
      let strippedNew := withoutStorageServerId serverJson
      if configTypeFromJson endpoints strippedNew ≠ kind then
        let strippedOld := withoutStorageServerId oldJson
        if oldKind ≠ .invalid ∧ configTypeFromJson endpoints strippedOld = oldKind then
          r.insertJson serverId (embedStorageServerId serverId strippedOld)
        else r
      else
        (r.insertJson serverId (embedStorageServerId serverId strippedNew)).syncToStorage.emit
          (.serverEdited serverId)

/-- The default server after the id at `removedIndex` has been taken out, leaving `ids`. -/
def defaultAfterRemoval (serverId : String) (removedIndex : ℕ) (ids : List String) : String :=
  if ids = [] then ""
  else if r.defaultServerId = serverId then ids.getD (min removedIndex (ids.length - 1)) ""
  else if r.defaultServerId ∉ ids then ids.headD ""
  else r.defaultServerId

def removeServer (serverId : String) : SecureServersRepository :=
  match r.indexOfServerId serverId with
  | none => r
  | some removedIndex =>
    if r.contains serverId = false then r
    else
      let ids := r.orderedServerIds.eraseIdx removedIndex
      let r' := { r.removeJson serverId with
        orderedServerIds := ids
        defaultServerId := r.defaultAfterRemoval serverId removedIndex ids }
      let r' :=
        if r.defaultServerId ≠ r'.defaultServerId ∨ r.defaultServerIndex ≠ r'.defaultServerIndex then
          r'.emit (.defaultServerChanged r'.defaultServerId)
        else r'
      r'.syncToStorage.emit (.serverRemoved serverId removedIndex)

def setDefaultServer (serverId : String) : SecureServersRepository :=
  if r.orderedServerIds = [] then r
  else if r.contains serverId = false then r
  else if r.indexOfServerId serverId = none then r
  else if r.defaultServerId = serverId then r
  else
    let r := { r with defaultServerId := serverId }.persistDefaultServerFields
    r.emit (.defaultServerChanged r.defaultServerId)

end SecureServersRepository

end FreshVpn
