import Mathlib.Data.List.GetD
import Mathlib.Data.List.Nodup
import FreshVpn.ServersRepository

/-! The invariant of the server repository: the id list and the JSON map agree, every stored JSON carries its own id,
and the default server is one of the list. -/

namespace FreshVpn.SecureServersRepository

open Function

variable {id : String} {r r' : SecureServersRepository}

/-- The part of the invariant that does not speak of the default server. -/
structure Consistent (r : SecureServersRepository) : Prop where
  nodup : r.orderedServerIds.Nodup
  mem_iff : ∀ id, id ∈ r.orderedServerIds ↔ r.contains id = true
  stored : ∀ id json, r.serverJsonById id = some json →
    json = embedStorageServerId id (withoutStorageServerId json)
  named : ∀ id ∈ r.orderedServerIds, id ≠ "" ∧ trimmed id = id

structure WellFormed (r : SecureServersRepository) : Prop extends Consistent r where
  default_mem : r.orderedServerIds ≠ [] → r.defaultServerId ∈ r.orderedServerIds
  default_empty : r.orderedServerIds = [] → r.defaultServerId = ""

theorem Consistent.congr (h : Consistent r) (hmap : r'.serverJsonById = r.serverJsonById)
    (hids : r'.orderedServerIds = r.orderedServerIds) : Consistent r' := by
  refine ⟨hids ▸ h.nodup, fun id => ?_, fun id json hjson => ?_, fun id hid => ?_⟩
  · rw [hids, contains, hmap]
    exact h.mem_iff id
  · rw [hmap] at hjson
    exact h.stored id json hjson
  · rw [hids] at hid
    exact h.named id hid

theorem Consistent.mem_of_json (h : Consistent r) {json : JsonObject} (hjson : r.serverJsonById id = some json) :
    id ∈ r.orderedServerIds := by
  rw [h.mem_iff, contains, hjson, Option.isSome_some]

theorem Consistent.exists_json (h : Consistent r) (hid : id ∈ r.orderedServerIds) :
    ∃ json, r.serverJsonById id = some json := by
  rw [h.mem_iff, contains, Option.isSome_iff_exists] at hid
  exact hid

theorem WellFormed.default_eq_empty_iff (h : WellFormed r) : r.defaultServerId = "" ↔ r.orderedServerIds = [] := by
  refine ⟨fun hd => ?_, h.default_empty⟩
  by_contra hne
  exact (h.named _ (h.default_mem hne)).1 hd

/-! ### The steps on the two containers -/

theorem clearServerStateMaps_consistent (r : SecureServersRepository) : Consistent r.clearServerStateMaps := by
  refine ⟨List.nodup_nil, fun id => ?_, fun id json hjson => ?_, fun id hid => ?_⟩
  · simp [clearServerStateMaps, contains]
  · cases hjson
  · cases hid

/-- The entry of one id changes, and the list of ids with it. -/
theorem Consistent.of_update (h : Consistent r) {entry : Option JsonObject}
    (hmap : r'.serverJsonById = update r.serverJsonById id entry)
    (hentry : ∀ json ∈ entry, json = embedStorageServerId id (withoutStorageServerId json))
    (hnodup : r'.orderedServerIds.Nodup) (hself : id ∈ r'.orderedServerIds ↔ entry.isSome = true)
    (hname : id ∈ r'.orderedServerIds → id ≠ "" ∧ trimmed id = id)
    (hothers : ∀ id' ≠ id, (id' ∈ r'.orderedServerIds ↔ id' ∈ r.orderedServerIds)) : Consistent r' := by
  refine ⟨hnodup, fun id' => ?_, fun id' json hjson => ?_, fun id' hid' => ?_⟩
  all_goals by_cases heq : id' = id
  · rw [heq, hself, contains, hmap, update_self]
  · rw [hothers id' heq, contains, hmap, update_of_ne heq]
    exact h.mem_iff id'
  · rw [hmap, heq, update_self] at hjson
    exact heq ▸ hentry json hjson
  · rw [hmap, update_of_ne heq] at hjson
    exact h.stored id' json hjson
  · exact heq ▸ hname (heq ▸ hid')
  · exact h.named id' ((hothers id' heq).mp hid')

section
variable (h : Consistent r) (id : String) (strippedJson : JsonObject)
include h

theorem Consistent.append (hnew : id ∉ r.orderedServerIds) (hname : id ≠ "" ∧ trimmed id = id)
    (hstripped : withoutStorageServerId strippedJson = strippedJson)
    (hmap : r'.serverJsonById = update r.serverJsonById id (some (embedStorageServerId id strippedJson)))
    (hids : r'.orderedServerIds = r.orderedServerIds ++ [id]) : Consistent r' := by
  refine h.of_update hmap (by simp [hstripped]) ?_ (by simp [hids]) (fun _ => hname) fun id' hne => by simp [hids, hne]
  rw [hids]
  exact List.Nodup.append h.nodup (List.nodup_singleton id) (by simpa using hnew)

theorem Consistent.replace (hid : id ∈ r.orderedServerIds)
    (hstripped : withoutStorageServerId strippedJson = strippedJson)
    (hmap : r'.serverJsonById = update r.serverJsonById id (some (embedStorageServerId id strippedJson)))
    (hids : r'.orderedServerIds = r.orderedServerIds) : Consistent r' :=
  h.of_update hmap (by simp [hstripped]) (hids ▸ h.nodup) (by simp [hids, hid]) (fun _ => h.named id hid)
    fun id' _ => by rw [hids]

theorem Consistent.erase (hmap : r'.serverJsonById = update r.serverJsonById id none)
    (hids : r'.orderedServerIds = r.orderedServerIds.erase id) : Consistent r' := by
  have hmem : ∀ id', id' ∈ r'.orderedServerIds ↔ id' ≠ id ∧ id' ∈ r.orderedServerIds := fun id' => by
    rw [hids, h.nodup.mem_erase_iff]
  refine h.of_update hmap (by simp) (hids ▸ h.nodup.erase id) (by simp [hmem]) (fun hid => ?_) fun id' hne => ?_
  · exact absurd rfl ((hmem id).mp hid).1
  · rw [hmem, and_iff_right hne]

end

/-! ### Ids and the default server -/

theorem normalizedOrGeneratedServerId_spec (uuids : UuidSource) (h : Consistent r) (candidateId : String)
    (heq : r.normalizedOrGeneratedServerId uuids candidateId = (id, r')) :
    id ∉ r.orderedServerIds ∧ (id ≠ "" ∧ trimmed id = id) ∧ ∃ n, r' = { r with uuidsDrawn := n } := by
  unfold normalizedOrGeneratedServerId at heq
  split_ifs at heq with hc
  · obtain ⟨rfl, rfl⟩ := heq
    refine ⟨fun hmem => ?_, ⟨hc.1, trimmed_trimmed candidateId⟩, r.uuidsDrawn, rfl⟩
    rw [h.mem_iff, hc.2] at hmem
    cases hmem
  · obtain ⟨rfl, rfl⟩ := heq
    exact ⟨uuids.fresh _ _, ⟨uuids.nonempty _ _, uuids.noSpaces _ _⟩, _, rfl⟩

theorem headD_mem {ids : List String} (h : ids ≠ []) : ids.headD "" ∈ ids := by
  cases ids with
  | nil => exact absurd rfl h
  | cons id rest => exact List.mem_cons_self

theorem getD_mem {ids : List String} {i : ℕ} (h : i < ids.length) : ids.getD i "" ∈ ids := by
  rw [List.getD_eq_getElem _ _ h]
  exact List.getElem_mem h

theorem persistDefaultServerFields_wellFormed (h : Consistent r) : WellFormed r.persistDefaultServerFields := by
  refine { h.congr rfl rfl with default_mem := fun hne => ?_, default_empty := fun hnil => ?_ }
  · change r.orderedServerIds ≠ [] at hne
    change (if r.orderedServerIds = [] then ""
      else if r.defaultServerId ∉ r.orderedServerIds then r.orderedServerIds.headD ""
      else r.defaultServerId) ∈ r.orderedServerIds
    rw [if_neg hne]
    split_ifs with hmem
    · exact hmem
    · exact headD_mem hne
  · exact if_pos hnil

theorem syncToStorage_wellFormed (h : Consistent r) : WellFormed r.syncToStorage :=
  persistDefaultServerFields_wellFormed (h.congr rfl rfl)

theorem updateDefaultServerFromStorage_wellFormed (h : Consistent r) : WellFormed r.updateDefaultServerFromStorage := by
  unfold updateDefaultServerFromStorage
  dsimp only
  split_ifs with hid hindex hne
  · have hmem := (h.mem_iff _).mpr hid.2
    exact { h.congr rfl rfl with
      default_mem := fun _ => hmem, default_empty := fun hnil => absurd hmem (by simp_all) }
  · have hlt : r.settings.defaultServerIndex.toNat < r.orderedServerIds.length := by omega
    exact { h.congr rfl rfl with
      default_mem := fun _ => getD_mem hlt
      default_empty := fun hnil => absurd hlt (by simp_all) }
  · exact { h.congr rfl rfl with
      default_mem := fun _ => headD_mem hne, default_empty := fun hnil => absurd hnil hne }
  · exact { h.congr rfl rfl with
      default_mem := fun hne' => absurd (not_not.mp hne) hne', default_empty := fun _ => rfl }

theorem WellFormed.emit (h : WellFormed r) (signal : RepositorySignal) : WellFormed (r.emit signal) :=
  { h.toConsistent.congr rfl rfl with default_mem := h.default_mem, default_empty := h.default_empty }

/-! ### The operations -/

section Operations

variable {r : SecureServersRepository} (uuids : UuidSource) (endpoints : ApiEndpoints)

theorem loadEntry_consistent {state : SecureServersRepository × List (ConfigType × String)}
    (h : Consistent state.1) (value : Json) : Consistent (loadEntry uuids endpoints state value).1 := by
  obtain ⟨r, seenHostKeys⟩ := state
  unfold loadEntry
  dsimp only
  generalize hid : r.normalizedOrGeneratedServerId uuids _ = idAndState
  obtain ⟨id, r'⟩ := idAndState
  obtain ⟨hnew, hname, n, rfl⟩ := normalizedOrGeneratedServerId_spec uuids h _ hid
  have hskip : Consistent { r with uuidsDrawn := n } := h.congr rfl rfl
  have hkeep : Consistent { r with
      uuidsDrawn := n
      serverJsonById := update r.serverJsonById id
        (some (embedStorageServerId id (withoutStorageServerId (Json.toObject (some value)))))
      orderedServerIds := r.orderedServerIds ++ [id] } :=
    hskip.append id (withoutStorageServerId (Json.toObject (some value))) hnew hname (by simp) rfl rfl
  split_ifs
  · exact hskip
  · split
    · exact hkeep
    · split_ifs
      · exact hskip
      · exact hkeep

theorem foldl_loadEntry_consistent (r : SecureServersRepository) (entries : List Json) :
    Consistent (entries.foldl (loadEntry uuids endpoints) (r.clearServerStateMaps, [])).1 := by
  refine List.foldlRecOn
    (motive := fun state : SecureServersRepository × List (ConfigType × String) => Consistent state.1) _ _
    (clearServerStateMaps_consistent r) fun state h value _ => ?_
  exact loadEntry_consistent uuids endpoints h value

theorem loadFromStorage_wellFormed (r : SecureServersRepository) : WellFormed (r.loadFromStorage uuids endpoints) :=
  updateDefaultServerFromStorage_wellFormed (foldl_loadEntry_consistent uuids endpoints r _)

theorem create_wellFormed (settings : Settings) (uuidsDrawn : ℕ) :
    WellFormed (create uuids endpoints settings uuidsDrawn) :=
  persistDefaultServerFields_wellFormed (loadFromStorage_wellFormed uuids endpoints _).toConsistent

theorem clearServers_wellFormed (r : SecureServersRepository) : WellFormed r.clearServers :=
  syncToStorage_wellFormed ((clearServerStateMaps_consistent r).congr rfl rfl)

theorem addServer_wellFormed (h : WellFormed r) (serverId : String) (serverJson : JsonObject) (kind : ConfigType) :
    WellFormed (r.addServer uuids endpoints serverId serverJson kind).2 := by
  unfold addServer
  generalize hid : r.normalizedOrGeneratedServerId uuids serverId = idAndState
  obtain ⟨id, r'⟩ := idAndState
  obtain ⟨hnew, hname, n, rfl⟩ := normalizedOrGeneratedServerId_spec uuids h.toConsistent _ hid
  have hskip : WellFormed { r with uuidsDrawn := n } :=
    { h.toConsistent.congr rfl rfl with default_mem := h.default_mem, default_empty := h.default_empty }
  dsimp only
  split_ifs
  · exact hskip
  · exact hskip
  all_goals
    refine (syncToStorage_wellFormed ?_).emit _
    exact h.toConsistent.append id (withoutStorageServerId serverJson) hnew hname (by simp) rfl rfl

theorem editServer_wellFormed (h : WellFormed r) (serverId : String) (serverJson : JsonObject) (kind : ConfigType) :
    WellFormed (r.editServer endpoints serverId serverJson kind) := by
  unfold editServer
  split_ifs
  · exact h
  · split
    · exact h
    · rename_i oldJson hold
      have hmem := h.mem_of_json hold
      dsimp only
      split_ifs with hrefused hback
      · -- A refused replacement is undone: the old JSON classifies as it did a moment ago.
        have hcons : Consistent ((r.removeJson serverId).insertJson serverId
            (embedStorageServerId serverId (withoutStorageServerId oldJson))) :=
          h.toConsistent.replace serverId (withoutStorageServerId oldJson) hmem (by simp)
            (update_idem ..) rfl
        exact { hcons with default_mem := h.default_mem, default_empty := h.default_empty }
      · exact absurd ⟨configTypeFromJson_ne_invalid _ _, rfl⟩ hback
      · refine (syncToStorage_wellFormed ?_).emit _
        exact h.toConsistent.replace serverId (withoutStorageServerId serverJson) hmem (by simp)
          (update_idem ..) rfl

theorem eraseIdx_of_idxOf?_eq_some {ids : List String} {serverId : String} {i : ℕ}
    (h : ids.idxOf? serverId = some i) : ids.eraseIdx i = ids.erase serverId := by
  rw [List.erase_eq_eraseIdx, h]

theorem removeServer_wellFormed (h : WellFormed r) (serverId : String) : WellFormed (r.removeServer serverId) := by
  unfold removeServer
  split
  · exact h
  · rename_i removedIndex hindex
    dsimp only
    split_ifs
    · exact h
    all_goals
      refine (syncToStorage_wellFormed ?_).emit _
      exact h.toConsistent.erase serverId rfl (eraseIdx_of_idxOf?_eq_some hindex)

theorem setDefaultServer_wellFormed (h : WellFormed r) (serverId : String) :
    WellFormed (r.setDefaultServer serverId) := by
  unfold setDefaultServer
  split_ifs
  · exact h
  · exact h
  · exact h
  · exact h
  · refine WellFormed.emit (persistDefaultServerFields_wellFormed ?_) _
    exact h.toConsistent.congr rfl rfl

/-- The calls the rest of the client makes. -/
inductive Call where
  | addServer (serverId : String) (serverJson : JsonObject) (kind : ConfigType)
  | editServer (serverId : String) (serverJson : JsonObject) (kind : ConfigType)
  | removeServer (serverId : String)
  | setDefaultServer (serverId : String)
  | clearServers
  | invalidateCache

def call (r : SecureServersRepository) : Call → SecureServersRepository
  | .addServer serverId serverJson kind => (r.addServer uuids endpoints serverId serverJson kind).2
  | .editServer serverId serverJson kind => r.editServer endpoints serverId serverJson kind
  | .removeServer serverId => r.removeServer serverId
  | .setDefaultServer serverId => r.setDefaultServer serverId
  | .clearServers => r.clearServers
  | .invalidateCache => r.invalidateCache uuids endpoints

def runCalls (r : SecureServersRepository) (calls : List Call) : SecureServersRepository :=
  calls.foldl (call uuids endpoints) r

theorem call_wellFormed (h : WellFormed r) (c : Call) : WellFormed (r.call uuids endpoints c) := by
  cases c with
  | addServer serverId serverJson kind => exact addServer_wellFormed uuids endpoints h serverId serverJson kind
  | editServer serverId serverJson kind => exact editServer_wellFormed endpoints h serverId serverJson kind
  | removeServer serverId => exact removeServer_wellFormed h serverId
  | setDefaultServer serverId => exact setDefaultServer_wellFormed h serverId
  | clearServers => exact clearServers_wellFormed r
  | invalidateCache => exact loadFromStorage_wellFormed uuids endpoints r

theorem runCalls_wellFormed (h : WellFormed r) (calls : List Call) : WellFormed (r.runCalls uuids endpoints calls) :=
  List.foldlRecOn (motive := WellFormed) calls _ h fun _ h c _ => call_wellFormed uuids endpoints h c

theorem reached_wellFormed (settings : Settings) (uuidsDrawn : ℕ) (calls : List Call) :
    WellFormed ((create uuids endpoints settings uuidsDrawn).runCalls uuids endpoints calls) :=
  runCalls_wellFormed uuids endpoints (create_wellFormed uuids endpoints settings uuidsDrawn) calls

end Operations

/-! ### What the rest of the client relies on -/

theorem WellFormed.embedded (h : WellFormed r) {json : JsonObject} (hjson : r.serverJsonById id = some json) :
    json.value ConfigKey.storageServerId = some (.string id) := by
  rw [h.stored id json hjson, value_embedStorageServerId]

theorem WellFormed.serverKind_ne_invalid (h : WellFormed r) (endpoints : ApiEndpoints) (hid : id ∈ r.orderedServerIds) :
    r.serverKind endpoints id ≠ .invalid := by
  obtain ⟨json, hjson⟩ := h.exists_json hid
  unfold serverKind
  rw [hjson]
  exact configTypeFromJson_ne_invalid endpoints _

theorem WellFormed.removeServer_default (h : WellFormed r) {serverId : String} (hne : serverId ≠ r.defaultServerId) :
    (r.removeServer serverId).defaultServerId = r.defaultServerId := by
  unfold removeServer
  split
  · rfl
  · rename_i removedIndex hindex
    dsimp only
    split_ifs with hcontains
    · rfl
    all_goals
      -- The default id is still in the shortened list, so no fallback applies.
      have hids : r.orderedServerIds ≠ [] := by
        intro hnil
        rw [indexOfServerId, hnil] at hindex
        cases hindex
      have hkept : r.defaultServerId ∈ r.orderedServerIds.eraseIdx removedIndex := by
        rw [eraseIdx_of_idxOf?_eq_some hindex, h.nodup.mem_erase_iff]
        exact ⟨hne.symm, h.default_mem hids⟩
      have hafter : r.defaultAfterRemoval serverId removedIndex (r.orderedServerIds.eraseIdx removedIndex) =
          r.defaultServerId := by
        unfold defaultAfterRemoval
        rw [if_neg (List.ne_nil_of_mem hkept), if_neg hne.symm, if_neg (not_not.mpr hkept)]
      simp only [syncToStorage, persistDefaultServerFields, SecureServersRepository.emit, removeJson, hafter,
        if_neg (List.ne_nil_of_mem hkept), if_neg (not_not.mpr hkept)]

/-- **The repository invariant.** After any sequence of calls on a repository loaded from any settings,
the ordered ids are distinct and are the keys of the JSON map, every stored JSON carries its own id and
has a kind, the default id is empty exactly for the empty list and one of the list otherwise, and removing
another server than the default one does not move the default. -/
theorem repository_invariant (uuids : UuidSource) (endpoints : ApiEndpoints) (settings : Settings)
    (uuidsDrawn : ℕ) (calls : List Call) :
    let r := (create uuids endpoints settings uuidsDrawn).runCalls uuids endpoints calls
    r.orderedServerIds.Nodup ∧
      (∀ id, id ∈ r.orderedServerIds ↔ (r.serverJsonById id).isSome) ∧
      (∀ id json, r.serverJsonById id = some json →
        json.value ConfigKey.storageServerId = some (.string id) ∧ r.serverKind endpoints id ≠ .invalid) ∧
      (r.defaultServerId = "" ↔ r.orderedServerIds = []) ∧
      (r.orderedServerIds ≠ [] → r.defaultServerId ∈ r.orderedServerIds) ∧
      ∀ id, id ≠ r.defaultServerId → (r.removeServer id).defaultServerId = r.defaultServerId := by
  intro r
  have h : WellFormed r := reached_wellFormed uuids endpoints settings uuidsDrawn calls
  refine ⟨h.nodup, h.mem_iff, fun id json hjson => ⟨h.embedded hjson, ?_⟩, h.default_eq_empty_iff,
    h.default_mem, fun id hne => h.removeServer_default hne⟩
  exact h.serverKind_ne_invalid endpoints (h.mem_of_json hjson)

end FreshVpn.SecureServersRepository
