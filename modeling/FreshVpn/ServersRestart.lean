import FreshVpn.LibraryKeepFirst
import FreshVpn.ServersInvariant

/-! What a restart keeps. -/

namespace FreshVpn.SecureServersRepository

open KeepFirst

/-! ### The settings follow the repository -/

structure Persisted (r : SecureServersRepository) : Prop where
  serversList : r.settings.serversList = r.serversArray
  defaultServerId : r.settings.defaultServerId = r.defaultServerId

variable {r : SecureServersRepository}

theorem persistDefaultServerFields_persisted (h : r.settings.serversList = r.serversArray) :
    Persisted r.persistDefaultServerFields :=
  ⟨h, rfl⟩

theorem syncToStorage_persisted (r : SecureServersRepository) : Persisted r.syncToStorage :=
  persistDefaultServerFields_persisted rfl

theorem Persisted.emit (h : Persisted r) (signal : RepositorySignal) : Persisted (r.emit signal) :=
  ⟨h.serversList, h.defaultServerId⟩

section Operations

variable {r : SecureServersRepository} (uuids : UuidSource) (endpoints : ApiEndpoints)

theorem create_persisted {settings : Settings} (hempty : settings.serversList = []) (uuidsDrawn : ℕ) :
    Persisted (create uuids endpoints settings uuidsDrawn) := by
  apply persistDefaultServerFields_persisted
  unfold loadFromStorage
  rw [hempty, List.foldl_nil]
  unfold updateDefaultServerFromStorage
  dsimp only
  split_ifs <;> exact hempty

theorem addServer_persisted (h : Persisted r) (hwf : WellFormed r) (serverId : String) (serverJson : JsonObject)
    (kind : ConfigType) : Persisted (r.addServer uuids endpoints serverId serverJson kind).2 := by
  unfold addServer
  generalize hid : r.normalizedOrGeneratedServerId uuids serverId = idAndState
  obtain ⟨id, r'⟩ := idAndState
  obtain ⟨-, -, n, rfl⟩ := normalizedOrGeneratedServerId_spec uuids hwf.toConsistent _ hid
  dsimp only
  split_ifs
  · exact ⟨h.serversList, h.defaultServerId⟩
  · exact ⟨h.serversList, h.defaultServerId⟩
  all_goals exact (syncToStorage_persisted _).emit _

theorem editServer_persisted (h : Persisted r) (hwf : WellFormed r) (serverId : String) (serverJson : JsonObject)
    (kind : ConfigType) : Persisted (r.editServer endpoints serverId serverJson kind) := by
  unfold editServer
  split_ifs
  · exact h
  · split
    · exact h
    · rename_i oldJson hold
      dsimp only
      split_ifs with hrefused hback
      · -- The refused edit put the very JSON back that it had taken out.
        have hsame : (r.removeJson serverId).insertJson serverId
            (embedStorageServerId serverId (withoutStorageServerId oldJson)) = r := by
          rw [← hwf.stored serverId oldJson hold]
          simp only [removeJson, insertJson, Function.update_idem]
          rw [← hold, Function.update_eq_self]
        rw [hsame]
        exact h
      · exact absurd ⟨configTypeFromJson_ne_invalid _ _, rfl⟩ hback
      · exact (syncToStorage_persisted _).emit _

theorem removeServer_persisted (h : Persisted r) (serverId : String) : Persisted (r.removeServer serverId) := by
  unfold removeServer
  split
  · exact h
  · split_ifs
    · exact h
    all_goals exact (syncToStorage_persisted _).emit _

theorem setDefaultServer_persisted (h : Persisted r) (serverId : String) : Persisted (r.setDefaultServer serverId) := by
  unfold setDefaultServer
  split_ifs
  · exact h
  · exact h
  · exact h
  · exact h
  · refine Persisted.emit (persistDefaultServerFields_persisted ?_) _
    exact h.serversList

def Call.IsUpdate : Call → Prop
  | .addServer .. | .editServer .. | .removeServer .. | .setDefaultServer .. => True
  | .clearServers | .invalidateCache => False

theorem runCalls_persisted (h : Persisted r) (hwf : WellFormed r)
    {calls : List Call} (hcalls : ∀ c ∈ calls, c.IsUpdate) : Persisted (r.runCalls uuids endpoints calls) := by
  induction calls generalizing r with
  | nil =>
    exact h
  | cons c calls ih =>
    rw [List.forall_mem_cons] at hcalls
    refine ih ?_ (call_wellFormed uuids endpoints hwf c) hcalls.2
    cases c with
    | addServer serverId serverJson kind =>
      exact addServer_persisted uuids endpoints h hwf serverId serverJson kind
    | editServer serverId serverJson kind => exact editServer_persisted endpoints h hwf serverId serverJson kind
    | removeServer serverId => exact removeServer_persisted h serverId
    | setDefaultServer serverId => exact setDefaultServer_persisted h serverId
    | clearServers => exact hcalls.1.elim
    | invalidateCache => exact hcalls.1.elim

end Operations

/-! ### Reading the settings back -/

/-- The host key of a stored server: its kind and its trimmed host, if it has one. -/
def serverHostKey (endpoints : ApiEndpoints) (r : SecureServersRepository) (id : String) :
    Option (ConfigType × String) :=
  (r.serverJsonById id).bind fun json =>
    hostKey (configTypeFromJson endpoints (withoutStorageServerId json)) (withoutStorageServerId json)

def appendFrom (source r : SecureServersRepository) (id : String) : SecureServersRepository :=
  { r with
    serverJsonById := Function.update r.serverJsonById id (source.serverJsonById id)
    orderedServerIds := r.orderedServerIds ++ [id] }

section Reload

variable {r : SecureServersRepository} (uuids : UuidSource) (endpoints : ApiEndpoints)
  {source : SecureServersRepository}

theorem loadEntry_stored (hsource : WellFormed source) {id : String} {json : JsonObject}
    (hjson : source.serverJsonById id = some json) (hnew : r.contains id = false) (seen : List (ConfigType × String)) :
    loadEntry uuids endpoints (r, seen) (.object json) =
      if ∃ key ∈ seen, source.serverHostKey endpoints id = some key then (r, seen)
      else (source.appendFrom r id, seen ++ (source.serverHostKey endpoints id).toList) := by
  obtain ⟨hne, htrim⟩ := hsource.named id (hsource.mem_of_json hjson)
  have hembed := hsource.stored id json hjson
  have hread : readStorageServerId json = id := by
    rw [hembed, readStorageServerId_embedStorageServerId, htrim]
  have hid : r.normalizedOrGeneratedServerId uuids (readStorageServerId json) = (id, r) := by
    rw [hread, normalizedOrGeneratedServerId, htrim, if_pos ⟨hne, hnew⟩]
  have hkey : source.serverHostKey endpoints id =
      hostKey (configTypeFromJson endpoints (withoutStorageServerId json)) (withoutStorageServerId json) := by
    rw [serverHostKey, hjson, Option.bind_some]
  have happend : source.appendFrom r id =
      { r.insertJson id (embedStorageServerId id (withoutStorageServerId json)) with
        orderedServerIds := r.orderedServerIds ++ [id] } := by
    rw [appendFrom, hjson, ← hembed]
    rfl
  have hkind := configTypeFromJson_ne_invalid endpoints (withoutStorageServerId json)
  unfold loadEntry
  simp only [Json.toObject, hid, hnew, hkind, or_self, Bool.false_eq_true, if_false, ← hkey, ← happend]
  cases source.serverHostKey endpoints id with
  | none => simp
  | some key => simp

theorem foldl_loadEntry (hsource : WellFormed source) {ids : List String} (r : SecureServersRepository)
    (seen : List (ConfigType × String)) (hids : ∀ id ∈ ids, id ∈ source.orderedServerIds)
    (hnodup : (r.orderedServerIds ++ ids).Nodup)
    (hjson : ∀ id, r.serverJsonById id = if id ∈ r.orderedServerIds then source.serverJsonById id else none) :
    let kept := r.orderedServerIds ++ keepFirst (source.serverHostKey endpoints) seen ids
    ((ids.filterMap fun id => (source.serverJsonById id).map Json.object).foldl
        (loadEntry uuids endpoints) (r, seen)).1 =
      { r with
        serverJsonById := fun id => if id ∈ kept then source.serverJsonById id else none
        orderedServerIds := kept } := by
  induction ids generalizing r seen with
  | nil =>
    simp only [List.filterMap_nil, List.foldl_nil, keepFirst, List.append_nil]
    rw [← funext hjson]
  | cons id ids ih =>
    rw [List.forall_mem_cons] at hids
    obtain ⟨json, hid⟩ := hsource.exists_json hids.1
    have hnotin : id ∉ r.orderedServerIds := fun hmem =>
      List.disjoint_of_nodup_append hnodup hmem List.mem_cons_self
    have hnew : r.contains id = false := by
      rw [contains, hjson, if_neg hnotin, Option.isSome_none]
    rw [List.filterMap_cons, hid, Option.map_some, List.foldl_cons,
      loadEntry_stored uuids endpoints hsource hid hnew]
    unfold keepFirst
    split_ifs with hseen
    · exact ih r seen hids.2 (hnodup.sublist (by simp)) hjson
    · -- The server is appended; the accumulated list and map grow together.
      have happend := ih (source.appendFrom r id) (seen ++ (source.serverHostKey endpoints id).toList) hids.2
        (by simpa [appendFrom] using hnodup) (fun id' => ?_)
      · simpa [appendFrom] using happend
      · by_cases heq : id' = id
        · simp [appendFrom, heq]
        · simp [appendFrom, heq, hjson]

def fallbackDefault (storedDefaultIndex : Int) (ids : List String) : String :=
  if 0 ≤ storedDefaultIndex ∧ storedDefaultIndex < ids.length then ids.getD storedDefaultIndex.toNat ""
  else ids.headD ""

theorem updateDefaultServerFromStorage_eq (h : Consistent r) :
    r.updateDefaultServerFromStorage =
      { r with
        defaultServerId :=
          if r.settings.defaultServerId ∈ r.orderedServerIds then r.settings.defaultServerId
          else fallbackDefault r.settings.defaultServerIndex r.orderedServerIds } := by
  have hstored : (r.settings.defaultServerId ≠ "" ∧ r.contains r.settings.defaultServerId) ↔
      r.settings.defaultServerId ∈ r.orderedServerIds :=
    ⟨fun hc => (h.mem_iff _).mpr hc.2, fun hmem => ⟨(h.named _ hmem).1, (h.mem_iff _).mp hmem⟩⟩
  unfold updateDefaultServerFromStorage fallbackDefault
  dsimp only
  simp only [hstored]
  split_ifs with hmem hindex hne
  · rfl
  · rfl
  · rfl
  · rw [not_not.mp hne]
    rfl

theorem WellFormed.persistDefaultServerFields_default (h : WellFormed r) :
    r.persistDefaultServerFields.defaultServerId = r.defaultServerId := by
  simp only [persistDefaultServerFields]
  split_ifs with hnil hmem
  · exact (h.default_empty hnil).symm
  · rfl
  · exact absurd (h.default_mem hnil) hmem

theorem create_of_persisted (hwf : WellFormed r) (hp : Persisted r) (uuidsDrawn : ℕ) :
    let kept := keepFirst (r.serverHostKey endpoints) [] r.orderedServerIds
    let restarted := create uuids endpoints r.settings uuidsDrawn
    restarted.orderedServerIds = kept ∧
      (∀ id, restarted.serverJsonById id = if id ∈ kept then r.serverJsonById id else none) ∧
      restarted.defaultServerId =
        if r.defaultServerId ∈ kept then r.defaultServerId
        else fallbackDefault r.settings.defaultServerIndex kept := by
  intro kept restarted
  let fresh : SecureServersRepository :=
    { serverJsonById := fun _ => none, orderedServerIds := [], defaultServerId := "", settings := r.settings,
      uuidsDrawn, emitted := [] }
  have hload : fresh.loadFromStorage uuids endpoints = updateDefaultServerFromStorage
      { fresh with
        serverJsonById := fun id => if id ∈ kept then r.serverJsonById id else none
        orderedServerIds := kept } := by
    have hfold := foldl_loadEntry uuids endpoints hwf fresh.clearServerStateMaps [] (fun id hid => hid)
      hwf.nodup (fun id => (if_neg List.not_mem_nil).symm)
    unfold loadFromStorage
    rw [hp.serversList, serversArray, hfold]
    rfl
  have hloaded := loadFromStorage_wellFormed uuids endpoints fresh
  have hcons : Consistent { fresh with
      serverJsonById := fun id => if id ∈ kept then r.serverJsonById id else none
      orderedServerIds := kept } := by
    rw [hload] at hloaded
    refine hloaded.toConsistent.congr ?_ ?_ <;>
      · unfold updateDefaultServerFromStorage
        dsimp only
        split_ifs <;> rfl
  rw [updateDefaultServerFromStorage_eq hcons] at hload
  rw [hload] at hloaded
  have hrestarted : restarted = persistDefaultServerFields (fresh.loadFromStorage uuids endpoints) := rfl
  rw [hrestarted, hload]
  refine ⟨rfl, fun id => rfl, ?_⟩
  rw [hloaded.persistDefaultServerFields_default, ← hp.defaultServerId]

end Reload

/-- Two servers of the same kind on the same (non-empty, trimmed) host. -/
def SameHost (endpoints : ApiEndpoints) (r : SecureServersRepository) (id other : String) : Prop :=
  ∃ key, r.serverHostKey endpoints id = some key ∧ r.serverHostKey endpoints other = some key

/-- **What a restart keeps.** Of the servers that any sequence of updates has left in a repository that
started without servers, a repository constructed from the persisted settings has, in the same order and
with the same JSON, those that no earlier server of the same kind and host precedes, and no others. Its
default server is the same if it is one of them, and else the one the load path falls back to. -/
theorem restart_keeps_first_of_each_host (uuids : UuidSource) (endpoints : ApiEndpoints) (settings : Settings)
    (uuidsDrawn : ℕ) (calls : List Call) (hempty : settings.serversList = []) (hcalls : ∀ c ∈ calls, c.IsUpdate) :
    let r := (create uuids endpoints settings uuidsDrawn).runCalls uuids endpoints calls
    let restarted := create uuids endpoints r.settings r.uuidsDrawn
    restarted.orderedServerIds.Sublist r.orderedServerIds ∧
      (∀ id, id ∈ restarted.orderedServerIds ↔
        ∃ before after, r.orderedServerIds = before ++ id :: after ∧
          ∀ other ∈ before, ¬ r.SameHost endpoints id other) ∧
      (∀ id, restarted.serverJsonById id =
        if id ∈ restarted.orderedServerIds then r.serverJsonById id else none) ∧
      restarted.defaultServerId =
        if r.defaultServerId ∈ restarted.orderedServerIds then r.defaultServerId
        else fallbackDefault r.settings.defaultServerIndex restarted.orderedServerIds := by
  intro r restarted
  have hcreate := create_wellFormed uuids endpoints settings uuidsDrawn
  have hwf : WellFormed r := runCalls_wellFormed uuids endpoints hcreate calls
  have hp : Persisted r :=
    runCalls_persisted uuids endpoints (create_persisted uuids endpoints hempty uuidsDrawn) hcreate hcalls
  obtain ⟨hids, hjson, hdefault⟩ := create_of_persisted uuids endpoints hwf hp r.uuidsDrawn
  rw [hids]
  refine ⟨keepFirst_sublist _ _ _, fun id => ?_, hjson, hdefault⟩
  rw [mem_keepFirst_iff]
  simp only [List.not_mem_nil, not_false_eq_true, true_and, SameHost, not_exists, not_and]
  constructor
  · rintro ⟨before, after, heq, hkey⟩
    exact ⟨before, after, heq, fun other hother key hid => hkey key hid other hother⟩
  · rintro ⟨before, after, heq, hkey⟩
    exact ⟨before, after, heq, fun key hid other hother => hkey other hother key hid⟩

def sharedServerJson : JsonObject := [(ConfigKey.hostName, .string "h")]

def addedTwice : SecureServersRepository :=
  (create UuidSource.longest ⟨"free", "premium"⟩ ⟨[], "", 0⟩ 0).runCalls UuidSource.longest ⟨"free", "premium"⟩
    [.addServer "a" sharedServerJson .selfHostedUser, .addServer "b" sharedServerJson .selfHostedUser]

/-- Both servers are in the list, and the restarted client has only the first. -/
theorem restart_drops_second_of_same_host :
    addedTwice.orderedServerIds = ["a", "b"] ∧
      (create UuidSource.longest ⟨"free", "premium"⟩ addedTwice.settings addedTwice.uuidsDrawn).orderedServerIds =
        ["a"] := by
  decide

theorem restart_keeps_first_of_added_twice :
    (create UuidSource.longest ⟨"free", "premium"⟩ addedTwice.settings addedTwice.uuidsDrawn).orderedServerIds.Sublist
      ["a", "b"] :=
  (restart_keeps_first_of_each_host UuidSource.longest ⟨"free", "premium"⟩ ⟨[], "", 0⟩ 0
    [.addServer "a" sharedServerJson .selfHostedUser, .addServer "b" sharedServerJson .selfHostedUser] rfl
    (by simp [Call.IsUpdate])).1

end FreshVpn.SecureServersRepository
