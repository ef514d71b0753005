import FreshVpn.ServersRestart

/-! The default server across a restart, for any persisted list. -/

namespace FreshVpn.SecureServersRepository

variable {uuids : UuidSource}

open KeepFirst

/-! ### The entries a load keeps -/

/-- The id an entry of the persisted list carries. -/
def storedServerId (entry : Json) : String := readStorageServerId (Json.toObject (some entry))

/-- The configuration in an entry of the persisted list. -/
def storedConfig (entry : Json) : JsonObject := withoutStorageServerId (Json.toObject (some entry))

def entryHostKey (endpoints : ApiEndpoints) (entry : Json) : Option (ConfigType × String) :=
  hostKey (configTypeFromJson endpoints (storedConfig entry)) (storedConfig entry)

/-- The entries of a persisted list that become servers, in their order. -/
def keptEntries (endpoints : ApiEndpoints) (serversList : List Json) : List Json :=
  keepFirst (entryHostKey endpoints) [] serversList

def configs (r : SecureServersRepository) : List (Option JsonObject) :=
  r.orderedServerIds.map fun id => (r.serverJsonById id).map withoutStorageServerId

/-- The candidate at position `i` is an id, and no candidate before it is the same. -/
def UsableId (candidates : List String) (i : ℕ) : Prop :=
  candidates.getD i "" ≠ "" ∧ candidates.getD i "" ∉ candidates.take i

instance (candidates : List String) (i : ℕ) : Decidable (UsableId candidates i) := instDecidableAnd

/-- The ids a load gives to entries with these candidate ids, when it draws from the generator from the
`start`th draw on and stops before the `stop`th. -/
structure NamesFrom (uuids : UuidSource) (start stop : ℕ) (candidates ids : List String) : Prop where
  start_le : start ≤ stop
  length_eq : ids.length = candidates.length
  stored : ∀ i < candidates.length, UsableId candidates i → ids.getD i "" = candidates.getD i ""
  drawn : ∀ i < candidates.length, ¬ UsableId candidates i →
    ∃ m used, start ≤ m ∧ m < stop ∧ ids.getD i "" = uuids.createUuid m used

variable {start stop : ℕ} {candidates : List String} (storedDefaultIndex : Int) {c : String} {ids : List String}

theorem usableId_idxOf (hne : c ≠ "") (hmem : c ∈ candidates) : UsableId candidates (candidates.idxOf c) := by
  have hlt := List.idxOf_lt_length_iff.mpr hmem
  have hget : candidates.getD (candidates.idxOf c) "" = c := by
    rw [List.getD_eq_getElem _ _ hlt, List.getElem_idxOf]
  refine ⟨hget.symm ▸ hne, ?_⟩
  rw [hget, List.mem_take_iff_idxOf_lt hmem]
  exact lt_irrefl _

theorem NamesFrom.mem_iff (h : NamesFrom uuids start stop candidates ids) (hne : c ≠ "")
    (hnew : ∀ m used, start ≤ m → uuids.createUuid m used ≠ c) : c ∈ ids ↔ c ∈ candidates := by
  constructor
  · intro hmem
    obtain ⟨i, hi, rfl⟩ := List.mem_iff_getElem.mp hmem
    have hlt : i < candidates.length := h.length_eq ▸ hi
    rw [← List.getD_eq_getElem _ "" hi] at hnew ⊢
    by_cases husable : UsableId candidates i
    · rw [h.stored i hlt husable]
      exact getD_mem hlt
    · obtain ⟨m, used, hm, -, heq⟩ := h.drawn i hlt husable
      exact absurd heq.symm (hnew m used hm)
  · intro hmem
    have hlt := List.idxOf_lt_length_iff.mpr hmem
    have heq := h.stored _ hlt (usableId_idxOf hne hmem)
    rw [List.getD_eq_getElem candidates _ hlt, List.getElem_idxOf] at heq
    rw [← heq]
    exact getD_mem (h.length_eq ▸ hlt)

theorem usableId_append (c : String) {i : ℕ} (hi : i < candidates.length) :
    UsableId (candidates ++ [c]) i ↔ UsableId candidates i := by
  unfold UsableId
  rw [List.getD_append _ _ _ _ hi, List.take_append_of_le_length hi.le]

theorem usableId_append_length (candidates : List String) (c : String) :
    UsableId (candidates ++ [c]) candidates.length ↔ c ≠ "" ∧ c ∉ candidates := by
  unfold UsableId
  rw [List.getD_append_right _ _ _ _ le_rfl, Nat.sub_self, List.getD_cons_zero, List.take_left]

theorem NamesFrom.append {stop' : ℕ} (h : NamesFrom uuids start stop candidates ids) (hstop : stop ≤ stop')
    {id : String} (hstored : c ≠ "" ∧ c ∉ candidates → id = c)
    (hdrawn : ¬ (c ≠ "" ∧ c ∉ candidates) → ∃ m used, start ≤ m ∧ m < stop' ∧ id = uuids.createUuid m used) :
    NamesFrom uuids start stop' (candidates ++ [c]) (ids ++ [id]) := by
  have hlast : (ids ++ [id]).getD candidates.length "" = id := by
    rw [← h.length_eq, List.getD_append_right _ _ _ _ le_rfl, Nat.sub_self, List.getD_cons_zero]
  have hids : ∀ i < candidates.length, (ids ++ [id]).getD i "" = ids.getD i "" := fun i hi =>
    List.getD_append _ _ _ _ (h.length_eq ▸ hi)
  refine ⟨h.start_le.trans hstop, by simp [h.length_eq], fun i hi husable => ?_, fun i hi husable => ?_⟩
  · rw [List.length_append, List.length_singleton, Nat.lt_succ_iff_lt_or_eq] at hi
    rcases hi with hi | rfl
    · rw [hids i hi, List.getD_append _ _ _ _ hi]
      exact h.stored i hi ((usableId_append c hi).mp husable)
    · rw [hlast, List.getD_append_right _ _ _ _ le_rfl, Nat.sub_self, List.getD_cons_zero]
      exact hstored ((usableId_append_length candidates c).mp husable)
  · rw [List.length_append, List.length_singleton, Nat.lt_succ_iff_lt_or_eq] at hi
    rcases hi with hi | rfl
    · obtain ⟨m, used, hm, hlt, heq⟩ := h.drawn i hi fun hu => husable ((usableId_append c hi).mpr hu)
      exact ⟨m, used, hm, hlt.trans_le hstop, (hids i hi).trans heq⟩
    · obtain ⟨m, used, hm, hlt, heq⟩ := hdrawn fun hc => husable ((usableId_append_length candidates c).mpr hc)
      exact ⟨m, used, hm, hlt, hlast.trans heq⟩

/-! ### The load loop on any list -/

section Load

variable {r : SecureServersRepository} (uuids : UuidSource) (endpoints : ApiEndpoints)

theorem normalizedOrGeneratedServerId_cases (h : Consistent r) (candidateId : String) :
    (trimmed candidateId ≠ "" ∧ trimmed candidateId ∉ r.orderedServerIds ∧
      r.normalizedOrGeneratedServerId uuids candidateId = (trimmed candidateId, r)) ∨
    (¬ (trimmed candidateId ≠ "" ∧ trimmed candidateId ∉ r.orderedServerIds) ∧
      r.normalizedOrGeneratedServerId uuids candidateId =
        (uuids.createUuid r.uuidsDrawn r.orderedServerIds, { r with uuidsDrawn := r.uuidsDrawn + 1 })) := by
  have hcontains : r.contains (trimmed candidateId) = false ↔ trimmed candidateId ∉ r.orderedServerIds := by
    rw [h.mem_iff, Bool.not_eq_true]
  unfold normalizedOrGeneratedServerId
  simp only [hcontains]
  split_ifs with hc
  · exact Or.inl ⟨hc.1, hc.2, rfl⟩
  · exact Or.inr ⟨hc, rfl⟩

theorem loadEntry_eq (h : Consistent r) (seen : List (ConfigType × String)) (entry : Json) {id : String} {n : ℕ}
    (hid : r.normalizedOrGeneratedServerId uuids (storedServerId entry) = (id, { r with uuidsDrawn := n })) :
    loadEntry uuids endpoints (r, seen) entry =
      if ∃ key ∈ seen, entryHostKey endpoints entry = some key then ({ r with uuidsDrawn := n }, seen)
      else
        ({ r with
            uuidsDrawn := n
            serverJsonById :=
              Function.update r.serverJsonById id (some (embedStorageServerId id (storedConfig entry)))
            orderedServerIds := r.orderedServerIds ++ [id] },
          seen ++ (entryHostKey endpoints entry).toList) := by
  obtain ⟨hnew, -, -⟩ := normalizedOrGeneratedServerId_spec uuids h _ hid
  have hcontains : contains { r with uuidsDrawn := n } id = false := by
    rw [h.mem_iff, Bool.not_eq_true] at hnew
    exact hnew
  have hkind := configTypeFromJson_ne_invalid endpoints (storedConfig entry)
  have hkey : entryHostKey endpoints entry =
      hostKey (configTypeFromJson endpoints (storedConfig entry)) (storedConfig entry) := rfl
  unfold storedServerId at hid
  unfold storedConfig at hkind hkey ⊢
  unfold loadEntry
  simp only [hid, hcontains, hkind, or_self, Bool.false_eq_true, if_false, ← hkey, insertJson]
  cases entryHostKey endpoints entry with
  | none => simp
  | some key => simp

/-- The servers a load has made of the entries `kept`, drawing ids from the `start`th draw on. -/
structure LoadedFrom (start : ℕ) (kept : List Json) (r : SecureServersRepository) : Prop
    extends Consistent r where
  names : NamesFrom uuids start r.uuidsDrawn (kept.map storedServerId) r.orderedServerIds
  configs_eq : r.configs = kept.map fun entry => some (storedConfig entry)

variable {start : ℕ} {kept : List Json}

section
variable (h : LoadedFrom uuids start kept r)
include h

theorem LoadedFrom.of_draws {n : ℕ} (hn : r.uuidsDrawn ≤ n) : LoadedFrom uuids start kept { r with uuidsDrawn := n } :=
  { h.toConsistent.congr rfl rfl with
    names := ⟨h.names.start_le.trans hn, h.names.length_eq, h.names.stored, fun i hi husable => by
      obtain ⟨m, used, hm, hlt, heq⟩ := h.names.drawn i hi husable
      exact ⟨m, used, hm, hlt.trans_le hn, heq⟩⟩
    configs_eq := h.configs_eq }

theorem loadEntry_loaded (seen : List (ConfigType × String)) {entry : Json}
    (hunused : ∀ m used, start ≤ m → uuids.createUuid m used ≠ storedServerId entry) :
    ∃ r', r'.settings = r.settings ∧
      if ∃ key ∈ seen, entryHostKey endpoints entry = some key then
        loadEntry uuids endpoints (r, seen) entry = (r', seen) ∧ LoadedFrom uuids start kept r'
      else
        loadEntry uuids endpoints (r, seen) entry = (r', seen ++ (entryHostKey endpoints entry).toList) ∧
          LoadedFrom uuids start (kept ++ [entry]) r' := by
  have htrim : trimmed (storedServerId entry) = storedServerId entry := trimmed_trimmed _
  have hcandidate : storedServerId entry ≠ "" →
      (storedServerId entry ∈ r.orderedServerIds ↔ storedServerId entry ∈ kept.map storedServerId) :=
    fun hne => h.names.mem_iff hne hunused
  -- What the id generator does, whether the entry is then kept or not.
  obtain ⟨id, n, hid, hn, hstored, hdrawn⟩ : ∃ id n,
      r.normalizedOrGeneratedServerId uuids (storedServerId entry) = (id, { r with uuidsDrawn := n }) ∧
      r.uuidsDrawn ≤ n ∧
      (storedServerId entry ≠ "" ∧ storedServerId entry ∉ kept.map storedServerId → id = storedServerId entry) ∧
      (¬ (storedServerId entry ≠ "" ∧ storedServerId entry ∉ kept.map storedServerId) →
        ∃ m used, start ≤ m ∧ m < n ∧ id = uuids.createUuid m used) := by
    rcases normalizedOrGeneratedServerId_cases uuids h.toConsistent (storedServerId entry) with
      ⟨hne, hnotin, heq⟩ | ⟨hnot, heq⟩
    · rw [htrim] at hne hnotin heq
      rw [hcandidate hne] at hnotin
      exact ⟨_, r.uuidsDrawn, heq, le_rfl, fun _ => rfl, fun hnot => absurd ⟨hne, hnotin⟩ hnot⟩
    · rw [htrim] at hnot
      refine ⟨_, r.uuidsDrawn + 1, heq, Nat.le_succ _, fun hc => absurd ⟨hc.1, ?_⟩ hnot, fun _ =>
        ⟨r.uuidsDrawn, r.orderedServerIds, h.names.start_le, Nat.lt_succ_self _, rfl⟩⟩
      rw [hcandidate hc.1]
      exact hc.2
  have hconsistent : Consistent (loadEntry uuids endpoints (r, seen) entry).1 :=
    loadEntry_consistent uuids endpoints h.toConsistent entry
  obtain ⟨hnew, -, -⟩ := normalizedOrGeneratedServerId_spec uuids h.toConsistent _ hid
  rw [loadEntry_eq uuids endpoints h.toConsistent seen entry hid] at hconsistent ⊢
  split_ifs at hconsistent ⊢ with hseen
  · exact ⟨{ r with uuidsDrawn := n }, rfl, rfl, h.of_draws uuids hn⟩
  · refine ⟨{ r with uuidsDrawn := n, serverJsonById := _, orderedServerIds := _ }, rfl, rfl,
      { hconsistent with names := ?_, configs_eq := ?_ }⟩
    · rw [List.map_append, List.map_singleton]
      exact h.names.append hn hstored hdrawn
    · have hkept : ∀ id' ∈ r.orderedServerIds,
          (Function.update r.serverJsonById id (some (embedStorageServerId id (storedConfig entry))) id').map
            withoutStorageServerId = (r.serverJsonById id').map withoutStorageServerId := by
        intro id' hid'
        have hne : id' ≠ id := fun heq => hnew (heq ▸ hid')
        rw [Function.update_of_ne hne]
      rw [List.map_append, ← h.configs_eq]
      unfold configs
      rw [List.map_append, List.map_congr_left hkept]
      simp [storedConfig]

theorem foldl_loadEntry_loaded (seen : List (ConfigType × String)) {entries : List Json}
    (hunused : ∀ entry ∈ entries, ∀ m used, start ≤ m → uuids.createUuid m used ≠ storedServerId entry) :
    let r' := (entries.foldl (loadEntry uuids endpoints) (r, seen)).1
    r'.settings = r.settings ∧
      LoadedFrom uuids start (kept ++ keepFirst (entryHostKey endpoints) seen entries) r' := by
  induction entries generalizing r seen kept with
  | nil =>
    simpa only [List.foldl_nil, keepFirst, List.append_nil, true_and] using h
  | cons entry entries ih =>
    rw [List.forall_mem_cons] at hunused
    obtain ⟨r', hsettings, hstep⟩ := loadEntry_loaded uuids endpoints h seen hunused.1
    unfold keepFirst
    split_ifs at hstep ⊢ with hseen
    · obtain ⟨heq, hloaded⟩ := hstep
      rw [List.foldl_cons, heq, ← hsettings]
      exact ih hloaded seen hunused.2
    · obtain ⟨heq, hloaded⟩ := hstep
      rw [List.foldl_cons, heq, ← hsettings, List.append_cons]
      exact ih hloaded _ hunused.2

end

theorem loadFromStorage_loaded (r : SecureServersRepository)
    (hunused : ∀ entry ∈ r.settings.serversList, ∀ m used, r.uuidsDrawn ≤ m →
      uuids.createUuid m used ≠ storedServerId entry) :
    let r' := r.loadFromStorage uuids endpoints
    LoadedFrom uuids r.uuidsDrawn (keptEntries endpoints r.settings.serversList) r' ∧
      r'.settings = r.settings ∧
      r'.defaultServerId =
        if r.settings.defaultServerId ∈ r'.orderedServerIds then r.settings.defaultServerId
        else fallbackDefault r.settings.defaultServerIndex r'.orderedServerIds := by
  have hcleared : LoadedFrom uuids r.uuidsDrawn [] r.clearServerStateMaps :=
    { clearServerStateMaps_consistent r with
      names := ⟨le_rfl, rfl, fun i hi => absurd hi (Nat.not_lt_zero i), fun i hi => absurd hi (Nat.not_lt_zero i)⟩
      configs_eq := rfl }
  have hfold := foldl_loadEntry_loaded uuids endpoints hcleared [] hunused
  intro r'
  have hr' : r' = updateDefaultServerFromStorage
      (r.settings.serversList.foldl (loadEntry uuids endpoints) (r.clearServerStateMaps, [])).1 := rfl
  generalize (r.settings.serversList.foldl (loadEntry uuids endpoints) (r.clearServerStateMaps, [])).1 = loaded
    at hfold hr'
  obtain ⟨hsettings, hloaded⟩ := hfold
  change loaded.settings = r.settings at hsettings
  rw [hr', updateDefaultServerFromStorage_eq hloaded.toConsistent]
  refine ⟨{ hloaded.toConsistent.congr rfl rfl with names := hloaded.names, configs_eq := hloaded.configs_eq },
    hsettings, ?_⟩
  rw [hsettings]

theorem WellFormed.persistDefaultServerFields_eq (h : WellFormed r) :
    r.persistDefaultServerFields =
      { r with settings := { r.settings with defaultServerId := r.defaultServerId } } := by
  have hdefault := h.persistDefaultServerFields_default
  unfold persistDefaultServerFields at hdefault ⊢
  dsimp only at hdefault ⊢
  rw [hdefault]

theorem create_loaded (settings : Settings) (start : ℕ)
    (hunused : ∀ entry ∈ settings.serversList, ∀ m used, start ≤ m → uuids.createUuid m used ≠ storedServerId entry) :
    let r := create uuids endpoints settings start
    LoadedFrom uuids start (keptEntries endpoints settings.serversList) r ∧
      r.settings = { settings with defaultServerId := r.defaultServerId } ∧
      r.defaultServerId =
        if settings.defaultServerId ∈ r.orderedServerIds then settings.defaultServerId
        else fallbackDefault settings.defaultServerIndex r.orderedServerIds := by
  let fresh : SecureServersRepository :=
    { serverJsonById := fun _ => none, orderedServerIds := [], defaultServerId := "", settings,
      uuidsDrawn := start, emitted := [] }
  obtain ⟨hloaded, hsettings, hdefault⟩ := loadFromStorage_loaded uuids endpoints fresh hunused
  have hcreate : create uuids endpoints settings start =
      persistDefaultServerFields (fresh.loadFromStorage uuids endpoints) := rfl
  rw [(loadFromStorage_wellFormed uuids endpoints fresh).persistDefaultServerFields_eq, hsettings] at hcreate
  rw [hcreate]
  exact ⟨{ hloaded.toConsistent.congr rfl rfl with names := hloaded.names, configs_eq := hloaded.configs_eq },
    rfl, hdefault⟩

end Load

/-! ### The default server after a restart -/

/-- What `QUuid::createUuid` promises from the `start`th draw on: it draws no id twice, and none that the
list carries already. -/
structure NeverRepeats (uuids : UuidSource) (start : ℕ) (serversList : List Json) : Prop where
  distinct : ∀ m m' used used', start ≤ m → m < m' → uuids.createUuid m used ≠ uuids.createUuid m' used'
  unused : ∀ entry ∈ serversList, ∀ m used, start ≤ m → uuids.createUuid m used ≠ storedServerId entry

def fallbackIndex (storedDefaultIndex : Int) (servers : ℕ) : ℕ :=
  if 0 ≤ storedDefaultIndex ∧ storedDefaultIndex < servers then storedDefaultIndex.toNat else 0

theorem fallbackDefault_eq_getD (ids : List String) :
    fallbackDefault storedDefaultIndex ids = ids.getD (fallbackIndex storedDefaultIndex ids.length) "" := by
  unfold fallbackDefault fallbackIndex
  split_ifs
  · rfl
  · cases ids <;> rfl

theorem fallbackIndex_lt {servers : ℕ} (h : 0 < servers) : fallbackIndex storedDefaultIndex servers < servers := by
  unfold fallbackIndex
  split_ifs with hindex
  · omega
  · exact h

theorem getD_inj_of_nodup (h : ids.Nodup) {i j : ℕ} (hi : i < ids.length) (hj : j < ids.length) :
    ids.getD i "" = ids.getD j "" ↔ i = j := by
  rw [List.getD_eq_getElem _ _ hi, List.getD_eq_getElem _ _ hj]
  exact h.getElem_inj_iff

theorem setDefaultServer_of_mem {r : SecureServersRepository} (h : WellFormed r)
    (hpersisted : r.settings.defaultServerId = r.defaultServerId) {serverId : String}
    (hmem : serverId ∈ r.orderedServerIds) :
    (r.setDefaultServer serverId).settings = { r.settings with defaultServerId := serverId } ∧
      (r.setDefaultServer serverId).uuidsDrawn = r.uuidsDrawn := by
  have hne : r.orderedServerIds ≠ [] := List.ne_nil_of_mem hmem
  have hindex : ¬ r.indexOfServerId serverId = none := by
    rw [indexOfServerId, List.idxOf?_eq_none_iff]
    exact not_not.mpr hmem
  have hcontains := (h.mem_iff _).mp hmem
  unfold setDefaultServer
  simp only [hne, hindex, hcontains, if_false, Bool.true_eq_false]
  split_ifs with hdefault
  · rw [← hdefault, ← hpersisted]
    exact ⟨rfl, rfl⟩
  · simp only [SecureServersRepository.emit, persistDefaultServerFields, if_neg hne, hmem, not_true_eq_false,
      if_false, and_self]

/-- The load path finds a chosen server again by the id its entry carries, or, if the entry carries no id
of its own, at the position it falls back to. -/
theorem default_after_load_iff {stop' : ℕ} {ids' : List String} (hids : NamesFrom uuids start stop candidates ids)
    (hids' : NamesFrom uuids stop stop' candidates ids') (hnodup : ids'.Nodup)
    (hdistinct : ∀ m m' used used', start ≤ m → m < m' → uuids.createUuid m used ≠ uuids.createUuid m' used')
    (hunused : ∀ c ∈ candidates, ∀ m used, start ≤ m → uuids.createUuid m used ≠ c) {i : ℕ}
    (hi : i < candidates.length) (storedDefaultIndex : Int) :
    (if ids.getD i "" ∈ ids' then ids.getD i "" else fallbackDefault storedDefaultIndex ids') = ids'.getD i "" ↔
      UsableId candidates i ∨ fallbackIndex storedDefaultIndex candidates.length = i := by
  have hi' : i < ids'.length := hids'.length_eq ▸ hi
  by_cases husable : UsableId candidates i
  · -- Both loads give the id the entry carries.
    have hsame : ids.getD i "" = ids'.getD i "" := by
      rw [hids.stored i hi husable, hids'.stored i hi husable]
    rw [hsame, if_pos (getD_mem hi')]
    exact iff_of_true rfl (Or.inl husable)
  · obtain ⟨m, used, hm, hlt, heq⟩ := hids.drawn i hi husable
    have hgone : ids.getD i "" ∉ ids' := by
      intro hmem
      obtain ⟨j, hj, hget⟩ := List.mem_iff_getElem.mp hmem
      have hj' : j < candidates.length := hids'.length_eq ▸ hj
      rw [← List.getD_eq_getElem _ "" hj, heq] at hget
      by_cases hother : UsableId candidates j
      · rw [hids'.stored j hj' hother] at hget
        exact hunused _ (getD_mem hj') m used hm hget.symm
      · obtain ⟨m', used', hm', -, heq'⟩ := hids'.drawn j hj' hother
        rw [heq'] at hget
        exact hdistinct m m' used used' hm (hlt.trans_le hm') hget.symm
    have hfallback : fallbackIndex storedDefaultIndex candidates.length < ids'.length := by
      rw [hids'.length_eq]
      exact fallbackIndex_lt _ (Nat.zero_lt_of_lt hi)
    rw [if_neg hgone, fallbackDefault_eq_getD, hids'.length_eq, getD_inj_of_nodup hnodup hfallback hi',
      or_iff_right husable]

/-- **The default server across a restart.** Whatever list is stored, a repository constructed from it and
one constructed after a server was chosen have the same configurations at the same positions. The chosen
server, at position `i`, is the default of the second exactly if its entry carries an id that no entry
before it carries, or `i` is the position the load path falls back to. -/
theorem default_survives_restart_iff (uuids : UuidSource) (endpoints : ApiEndpoints) (settings : Settings)
    (uuidsDrawn : ℕ) (hunique : NeverRepeats uuids uuidsDrawn settings.serversList) (i : ℕ)
    (hi : i < (create uuids endpoints settings uuidsDrawn).orderedServerIds.length) :
    let r := create uuids endpoints settings uuidsDrawn
    let chosen := r.setDefaultServer (r.orderedServerIds.getD i "")
    let restarted := create uuids endpoints chosen.settings chosen.uuidsDrawn
    let kept := keptEntries endpoints settings.serversList
    restarted.configs = r.configs ∧
      (restarted.defaultServerId = restarted.orderedServerIds.getD i "" ↔
        UsableId (kept.map storedServerId) i ∨ fallbackIndex settings.defaultServerIndex kept.length = i) := by
  intro r chosen restarted kept
  obtain ⟨hloaded, hsettings, -⟩ := create_loaded uuids endpoints settings uuidsDrawn hunique.unused
  have hwf : WellFormed r := create_wellFormed uuids endpoints settings uuidsDrawn
  have hpersisted : r.settings.defaultServerId = r.defaultServerId := by
    rw [hsettings]
  obtain ⟨hchosen, hdrawn⟩ := setDefaultServer_of_mem hwf hpersisted (getD_mem hi)
  have hlist : chosen.settings = { settings with defaultServerId := r.orderedServerIds.getD i "" } := by
    rw [hchosen, hsettings]
  have hstop : chosen.uuidsDrawn = r.uuidsDrawn := hdrawn
  have hrestarted : restarted =
      create uuids endpoints { settings with defaultServerId := r.orderedServerIds.getD i "" } r.uuidsDrawn := by
    rw [← hlist, ← hstop]
  obtain ⟨hloaded', -, hdefault⟩ := create_loaded uuids endpoints
    { settings with defaultServerId := r.orderedServerIds.getD i "" } r.uuidsDrawn
    fun entry hentry m used hm => hunique.unused entry hentry m used (hloaded.names.start_le.trans hm)
  rw [← hrestarted] at hloaded' hdefault
  have hkept : i < (kept.map storedServerId).length := hloaded.names.length_eq ▸ hi
  refine ⟨hloaded'.configs_eq.trans hloaded.configs_eq.symm, ?_⟩
  rw [hdefault, ← List.length_map storedServerId]
  refine default_after_load_iff hloaded.names hloaded'.names hloaded'.nodup hunique.distinct ?_ hkept _
  intro c hc m used hm
  obtain ⟨entry, hentry, rfl⟩ := List.mem_map.mp hc
  exact hunique.unused entry ((keepFirst_sublist _ _ _).mem hentry) m used hm

theorem trimmed_ofList_of_noSpaces {chars : List Char} (h : ∀ c ∈ chars, isSpace c = false) :
    trimmed (String.ofList chars) = String.ofList chars := by
  have hfront : chars.dropWhile isSpace = chars := List.dropWhile_eq_self_iff.mpr fun hl => by
    rw [h _ (List.getElem_mem hl)]
    exact Bool.false_ne_true
  have hback : chars.rdropWhile isSpace = chars := List.rdropWhile_eq_self_iff.mpr fun hl => by
    rw [h _ (List.getLast_mem hl)]
    exact Bool.false_ne_true
  rw [trimmed, String.toList_ofList, hfront, hback]

/-- A source that numbers its draws and pads each beyond the ids in use. -/
def numberedUuids : UuidSource where
  createUuid n ids :=
    String.ofList ('u' :: (List.replicate n 'u' ++ List.replicate (ids.map String.toList).flatten.length 'v'))
  fresh n ids hmem := by
    have hle := (List.sublist_flatten_of_mem (List.mem_map_of_mem (f := String.toList) hmem)).length_le
    rw [String.toList_ofList, List.length_cons, List.length_append, List.length_replicate,
      List.length_replicate] at hle
    omega
  nonempty n ids heq := by
    have hlen := congrArg String.length heq
    rw [String.length_ofList, List.length_cons, String.length_empty] at hlen
    omega
  noSpaces n ids := by
    apply trimmed_ofList_of_noSpaces
    intro c hc
    rw [List.mem_cons, List.mem_append, List.mem_replicate, List.mem_replicate] at hc
    rcases hc with rfl | ⟨-, rfl⟩ | ⟨-, rfl⟩ <;> decide

theorem numberedUuids_neverRepeats {serversList : List Json}
    (h : ∀ entry ∈ serversList, (storedServerId entry).toList.head? ≠ some 'u') (start : ℕ) :
    NeverRepeats numberedUuids start serversList := by
  refine ⟨fun m m' used used' _ hlt heq => ?_, fun entry hentry m used _ heq => h entry hentry ?_⟩
  · have hcount := congrArg (fun s : String => s.toList.count 'u') heq
    simp [numberedUuids, List.count_append, List.count_replicate] at hcount
    omega
  · rw [← heq]
    simp [numberedUuids]

def oldAndNewEntry : List Json :=
  [.object [(ConfigKey.hostName, .string "h1")],
    .object [(ConfigKey.hostName, .string "h2"), (ConfigKey.storageServerId, .string "b")]]

def twoOldEntries : List Json :=
  [.object [(ConfigKey.hostName, .string "h1")], .object [(ConfigKey.hostName, .string "h2")]]

theorem default_survives_restart_with_id :
    let r := create numberedUuids ⟨"free", "premium"⟩ ⟨oldAndNewEntry, "", 0⟩ 0
    let chosen := r.setDefaultServer (r.orderedServerIds.getD 1 "")
    let restarted := create numberedUuids ⟨"free", "premium"⟩ chosen.settings chosen.uuidsDrawn
    restarted.defaultServerId = restarted.orderedServerIds.getD 1 "" :=
  ((default_survives_restart_iff numberedUuids ⟨"free", "premium"⟩ ⟨oldAndNewEntry, "", 0⟩ 0
    (numberedUuids_neverRepeats (by decide) 0) 1 (by decide)).2).mpr (Or.inl (by decide))

/-- The second of two servers without ids is chosen, and the restarted client has the first as default. -/
theorem chosen_default_without_id_is_lost :
    let r := create numberedUuids ⟨"free", "premium"⟩ ⟨twoOldEntries, "", 0⟩ 0
    let chosen := r.setDefaultServer (r.orderedServerIds.getD 1 "")
    let restarted := create numberedUuids ⟨"free", "premium"⟩ chosen.settings chosen.uuidsDrawn
    chosen.defaultServerId = chosen.orderedServerIds.getD 1 "" ∧
      restarted.defaultServerId = restarted.orderedServerIds.getD 0 "" ∧
      restarted.orderedServerIds.getD 0 "" ≠ restarted.orderedServerIds.getD 1 "" := by
  decide

end FreshVpn.SecureServersRepository
