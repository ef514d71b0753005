import FreshVpn.SettingsContent
import FreshVpn.SettingsReset

/-! Backup and restore. The backup lists the settings of one client, the restore writes them one by one
over those of another; a setting that the backup does not mention stays as it was. -/

namespace FreshVpn

open JsonObject Function SecureQSettings SecureServersRepository UuidSource

/-- Two values that `QVariant`'s conversions read alike. -/
structure Qt.Alike (qt : Qt) (v w : Variant) : Prop where
  toBool : qt.toBool v = qt.toBool w
  toInt : qt.toInt v = qt.toInt w
  toString : qt.toString v = qt.toString w
  toByteArray : qt.toByteArray v = qt.toByteArray w
  toStructured : qt.toStructured v = qt.toStructured w

theorem Qt.Alike.refl (qt : Qt) (v : Variant) : qt.Alike v v := ⟨rfl, rfl, rfl, rfl, rfl⟩

theorem Qt.exists_not_alike (qt : Qt) (v : Variant) : ∃ w, ¬ qt.Alike v w := by
  refine ⟨.string (qt.toString v ++ "x"), fun h => ?_⟩
  have hlen := congrArg String.length h.toString
  rw [qt.toString_string, String.length_append] at hlen
  have hone : "x".length = 1 := rfl
  omega

theorem Qt.alike_getD_iff (qt : Qt) (a b : Option Variant) :
    (∀ defaultValue, qt.Alike (a.getD defaultValue) (b.getD defaultValue)) ↔
      (a = none ∧ b = none) ∨ ∃ v w, a = some v ∧ b = some w ∧ qt.Alike v w := by
  constructor
  · intro h
    cases a with
    | none =>
      cases b with
      | none => exact Or.inl ⟨rfl, rfl⟩
      | some w =>
        obtain ⟨d, hd⟩ := qt.exists_not_alike w
        have hw := h d
        exact absurd ⟨hw.toBool.symm, hw.toInt.symm, hw.toString.symm, hw.toByteArray.symm,
          hw.toStructured.symm⟩ hd
    | some v =>
      cases b with
      | none =>
        obtain ⟨d, hd⟩ := qt.exists_not_alike v
        exact absurd (h d) hd
      | some w => exact Or.inr ⟨v, w, rfl, rfl, h .invalid⟩
  · rintro (⟨rfl, rfl⟩ | ⟨v, w, rfl, rfl, hvw⟩) defaultValue
    · exact Qt.Alike.refl qt defaultValue
    · exact hvw

theorem SmallEnvironment.alike_toVariant_fromVariant (v : Variant) :
    SmallEnvironment.qt.Alike (SmallEnvironment.qt.toVariant (SmallEnvironment.qt.fromVariant v)) v := by
  cases v with
  | invalid | bool | int | string | other => exact Qt.Alike.refl _ _
  | byteArray bytes =>
    refine ⟨rfl, rfl, rfl, ?_, rfl⟩
    change (SmallEnvironment.text bytes).toList.map (fun c => UInt8.ofNat c.toNat) = bytes
    rw [SmallEnvironment.text, String.toList_ofList, List.map_map]
    refine List.map_id'' (fun byte => ?_) bytes
    have hvalid : byte.toNat.isValidChar := Or.inl (by have := byte.toNat_lt; omega)
    change UInt8.ofNat (Char.ofNat byte.toNat).toNat = byte
    rw [Char.ofNat, dif_pos hvalid]
    exact UInt8.ofNat_toNat

namespace SecureQSettings

variable {s : SecureQSettings} {qt : Qt} {env : SettingsEnvironment qt}

/-! ### The server settings as a view of the map -/

/-- What the server repository reads of a map of settings. -/
def serversView (qt : Qt) (content : String → Option Variant) : Settings where
  serversList := qt.documentArray (qt.toByteArray ((content "Servers/serversList").getD (.byteArray [])))
  defaultServerId := qt.toString ((content "Servers/defaultServerId").getD (.string ""))
  defaultServerIndex := qt.toInt ((content "Servers/defaultServerIndex").getD (.int 0))

theorem Coherent.serversSettings (hh : Healthy env) (h : Coherent env s) :
    (s.serversSettings env).1 = serversView qt (s.content env) ∧ Coherent env (s.serversSettings env).2 ∧
      (s.serversSettings env).2.content env = s.content env := by
  obtain ⟨hlist, h₁, hsame₁⟩ := h.value hh "Servers/serversList" (.byteArray [])
  obtain ⟨hid, h₂, hsame₂⟩ := h₁.value hh "Servers/defaultServerId" (.string "")
  obtain ⟨hindex, h₃, hsame₃⟩ := h₂.value hh "Servers/defaultServerIndex" (.int 0)
  refine ⟨?_, h₃, hsame₃.trans (hsame₂.trans hsame₁)⟩
  rw [hsame₁] at hid
  rw [hsame₂, hsame₁] at hindex
  unfold serversView
  rw [← hlist, ← hid, ← hindex]
  rfl

theorem Coherent.nextStart (hh : Healthy env) (h : Coherent env s) (uuids : UuidSource)
    (endpoints : ApiEndpoints) (uuidsDrawn : ℕ) :
    s.nextStart env uuids endpoints uuidsDrawn =
      SecureServersRepository.create uuids endpoints (serversView qt (s.content env)) uuidsDrawn := by
  obtain ⟨hstart, hother⟩ := h.start hh
  have hview : serversView qt ((s.start env).content env) = serversView qt (s.content env) := by
    unfold serversView
    rw [hother _ (by decide), hother _ (by decide), hother _ (by decide)]
  have hread := (hstart.serversSettings hh).1
  rw [hview] at hread
  rw [← hread]
  rfl

/-! ### The backup -/

theorem foldl_backupEntry (hh : Healthy env) (h : Coherent env s) (cfg : JsonObject) (keys : List String) :
    let result := keys.foldl (backupEntry env) (cfg, s)
    Coherent env result.2 ∧ result.2.content env = s.content env ∧
      ∀ key, result.1.value key =
        if key ∈ keys then some (qt.fromVariant ((s.content env key).getD .invalid)) else cfg.value key := by
  induction keys generalizing cfg s with
  | nil =>
    exact ⟨h, rfl, fun key => (if_neg List.not_mem_nil).symm⟩
  | cons key keys ih =>
    obtain ⟨hvalue, hs, hsame⟩ := h.value hh key .invalid
    have hrest := ih hs (cfg.insert key (qt.fromVariant (s.value env key .invalid).1))
    intro result
    refine ⟨hrest.1, hrest.2.1.trans hsame, fun key' => ?_⟩
    have hkey' := hrest.2.2 key'
    change result.1.value key' = _ at hkey'
    rw [hkey', hsame, hvalue]
    by_cases hmem : key' ∈ keys
    · rw [if_pos hmem, if_pos (List.mem_cons_of_mem key hmem)]
    · rw [if_neg hmem]
      by_cases heq : key' = key
      · subst heq
        rw [value_insert_self, if_pos List.mem_cons_self]
      · rw [value_insert_of_ne _ heq, if_neg (by simp [heq, hmem])]

theorem Coherent.backupAppConfig (hh : Healthy env) (h : Coherent env s) :
    Coherent env (s.backupAppConfig env).2 ∧ (s.backupAppConfig env).2.content env = s.content env ∧
      ∀ key, (s.backupAppConfig env).1.value key =
        if needToBackup key then (s.content env key).map qt.fromVariant else none := by
  obtain ⟨hs, hsame, hvalue⟩ := foldl_backupEntry hh h [] (s.settings.keys.filter needToBackup)
  refine ⟨hs, hsame, fun key => (hvalue key).trans ?_⟩
  have hmem : key ∈ s.settings.keys.filter needToBackup ↔ needToBackup key = true ∧ s.content env key ≠ none := by
    rw [List.mem_filter, ← AList.mem_keys, ← AList.lookup_isSome, content, Option.ne_none_iff_isSome,
      Option.isSome_map, and_comm]
  by_cases hneed : needToBackup key = true
  · rw [if_pos hneed]
    cases hcontent : s.content env key with
    | none =>
      rw [if_neg fun hin => (hmem.mp hin).2 hcontent, Option.map_none]
      rfl
    | some v =>
      rw [if_pos (hmem.mpr ⟨hneed, hcontent ▸ Option.some_ne_none v⟩), Option.getD_some, Option.map_some]
  · rw [if_neg hneed, if_neg fun hin => hneed (hmem.mp hin).1]
    rfl

/-! ### The restore of the store -/

theorem encryptedPart_memberVariant (qt : Qt) (member : Option Json) :
    encryptedPart (memberVariant qt member) = none := by
  cases member with
  | none => rfl
  | some json =>
    unfold memberVariant encryptedPart
    split
    · rename_i bytes hbytes
      exact absurd hbytes (qt.toVariant_ne_byteArray json bytes)
    · rfl

def restoredContent (qt : Qt) (cfg : JsonObject) (content : String → Option Variant) (key : String) : Option Variant :=
  if key = "Conf/installationUuid" then content key
  else if (cfg.value key).isSome then some (memberVariant qt (cfg.value key)) else content key

theorem foldl_restoreEntry (hh : Healthy env) (h : Coherent env s) (cfg : JsonObject) (keys : List String) :
    Coherent env (keys.foldl (restoreEntry env cfg) s) ∧
      ∀ key, (keys.foldl (restoreEntry env cfg) s).content env key =
        if key ≠ "Conf/installationUuid" ∧ key ∈ keys then some (memberVariant qt (cfg.value key))
        else s.content env key := by
  induction keys generalizing s with
  | nil =>
    exact ⟨h, fun key => (if_neg fun hc => List.not_mem_nil hc.2).symm⟩
  | cons key keys ih =>
    rw [List.foldl_cons, restoreEntry]
    split_ifs with hid
    · obtain ⟨hs, hcontent⟩ := ih h
      refine ⟨hs, fun key' => (hcontent key').trans ?_⟩
      have hiff : (key' ≠ "Conf/installationUuid" ∧ key' ∈ keys) ↔
          key' ≠ "Conf/installationUuid" ∧ key' ∈ key :: keys := by
        rw [List.mem_cons]
        refine and_congr_right fun hne => (or_iff_right fun heq => hne (heq.trans hid)).symm
      simp only [hiff]
    · obtain ⟨hs, hwrite⟩ := h.setValue hh key _ (Or.inl (encryptedPart_memberVariant qt (cfg.value key)))
      obtain ⟨hs', hcontent⟩ := ih hs
      refine ⟨hs', fun key' => (hcontent key').trans ?_⟩
      rw [hwrite]
      by_cases heq : key' = key
      · subst heq
        rw [update_self, ite_self, if_pos ⟨hid, List.mem_cons_self⟩]
      · rw [update_of_ne heq]
        simp only [List.mem_cons, heq, false_or]

theorem Coherent.restoreAppConfig (hh : Healthy env) (h : Coherent env s) {cfg : JsonObject} (hne : cfg ≠ []) :
    ∃ s', s.restoreAppConfig env cfg = some s' ∧ Coherent env s' ∧
      s'.content env = restoredContent qt cfg (s.content env) := by
  obtain ⟨hs, hcontent⟩ := foldl_restoreEntry hh h cfg (cfg.map Prod.fst)
  refine ⟨_, if_neg hne, hs, funext fun key => (hcontent key).trans ?_⟩
  unfold restoredContent
  simp only [mem_keys_iff]
  by_cases hid : key = "Conf/installationUuid"
  · rw [if_neg fun hc => hc.1 hid, if_pos hid]
  · rw [if_neg hid]
    simp only [ne_eq, hid, not_false_eq_true, true_and]

end SecureQSettings

/-! ### The servers in memory -/

namespace SecureServersRepository

/-- The same servers, in the same order, and the same default server. -/
structure SameServers (r r' : SecureServersRepository) : Prop where
  orderedServerIds : r.orderedServerIds = r'.orderedServerIds
  serverJsonById : r.serverJsonById = r'.serverJsonById
  defaultServerId : r.defaultServerId = r'.defaultServerId

/-- The repository with another default server and other emitted signals. -/
def withOther (id : String) (emitted : List RepositorySignal) (r : SecureServersRepository) : SecureServersRepository :=
  { r with defaultServerId := id, emitted }

variable (uuids : UuidSource)
  (endpoints : ApiEndpoints) (id : String) (emitted : List RepositorySignal) (r : SecureServersRepository)
  (seen : List (ConfigType × String))

theorem normalizedOrGeneratedServerId_withOther (candidateId : String) :
    (r.withOther id emitted).normalizedOrGeneratedServerId uuids candidateId =
      ((r.normalizedOrGeneratedServerId uuids candidateId).1,
        (r.normalizedOrGeneratedServerId uuids candidateId).2.withOther id emitted) := by
  have hcontains : ∀ serverId, (r.withOther id emitted).contains serverId = r.contains serverId := fun _ => rfl
  unfold normalizedOrGeneratedServerId
  rw [hcontains]
  split_ifs <;> rfl

theorem loadEntry_withOther (entry : Json) :
    loadEntry uuids endpoints (r.withOther id emitted, seen) entry =
      ((loadEntry uuids endpoints (r, seen) entry).1.withOther id emitted,
        (loadEntry uuids endpoints (r, seen) entry).2) := by
  unfold loadEntry
  dsimp only
  rw [normalizedOrGeneratedServerId_withOther]
  generalize r.normalizedOrGeneratedServerId uuids _ = idAndState
  obtain ⟨serverId, r'⟩ := idAndState
  have hcontains : (r'.withOther id emitted).contains serverId = r'.contains serverId := rfl
  rw [hcontains]
  split_ifs
  · rfl
  · cases hostKey _ _ with
    | none => rfl
    | some key =>
      dsimp only
      split_ifs <;> rfl

theorem foldl_loadEntry_withOther (entries : List Json) :
    (entries.foldl (loadEntry uuids endpoints) (r.withOther id emitted, seen)).1 =
      (entries.foldl (loadEntry uuids endpoints) (r, seen)).1.withOther id emitted := by
  induction entries generalizing r seen with
  | nil =>
    rfl
  | cons entry entries ih =>
    rw [List.foldl_cons, List.foldl_cons, loadEntry_withOther]
    generalize loadEntry uuids endpoints (r, seen) entry = state
    obtain ⟨r', seen'⟩ := state
    exact ih r' seen'

theorem invalidateCache_sameServers :
    SameServers (r.invalidateCache uuids endpoints) (create uuids endpoints r.settings r.uuidsDrawn) := by
  let fresh : SecureServersRepository :=
    { serverJsonById := fun _ => none, orderedServerIds := [], defaultServerId := "", settings := r.settings,
      uuidsDrawn := r.uuidsDrawn, emitted := [] }
  have hload : fresh.loadFromStorage uuids endpoints =
      { r.loadFromStorage uuids endpoints with emitted := [] } := by
    have hfold := foldl_loadEntry_withOther uuids endpoints "" [] r.clearServerStateMaps [] r.settings.serversList
    have hfresh : fresh.clearServerStateMaps = r.clearServerStateMaps.withOther "" [] := rfl
    unfold loadFromStorage
    rw [hfresh, show fresh.settings = r.settings from rfl, hfold]
    have hloaded := foldl_loadEntry_consistent uuids endpoints r r.settings.serversList
    generalize (r.settings.serversList.foldl (loadEntry uuids endpoints) (r.clearServerStateMaps, [])).1 = loaded
      at hloaded ⊢
    have hother : Consistent (loaded.withOther "" []) := hloaded.congr rfl rfl
    rw [updateDefaultServerFromStorage_eq hloaded, updateDefaultServerFromStorage_eq hother]
    rfl
  have hcreate : create uuids endpoints r.settings r.uuidsDrawn =
      persistDefaultServerFields (fresh.loadFromStorage uuids endpoints) := rfl
  rw [(loadFromStorage_wellFormed uuids endpoints fresh).persistDefaultServerFields_eq, hload] at hcreate
  rw [hcreate]
  exact ⟨rfl, rfl, rfl⟩

end SecureServersRepository

namespace SettingsController

variable {c : SettingsController} {key : String} {data : JsonObject} {keys : List String}

open SecureQSettings

variable {qt : Qt} {env : SettingsEnvironment qt}

/-! ### The backup of the controller -/

/-- The members of a backup made of the map `content`. Four settings are there whether they are set or not. -/
def backupMember (env : SettingsEnvironment qt) (autostart : Bool) (content : String → Option Variant)
    (key : String) : Option Json :=
  if key = "Conf/useAmneziaDns" then some (.bool (qt.toBool ((content key).getD (.bool true))))
  else if key = "Conf/strictKillSwitchEnabled" then some (.bool (qt.toBool ((content key).getD (.bool false))))
  else if key = "Conf/killSwitchEnabled" then some (.bool (qt.toBool ((content key).getD (.bool true))))
  else if key = "Conf/autoStart" then some (.bool autostart)
  else if key = "AppPlatform" then some (.string env.platform.getPlatformName)
  else if needToBackup key then (content key).map qt.fromVariant else none

theorem value_insert (object : JsonObject) (key key' : String) (json : Json) :
    (object.insert key json).value key' = if key' = key then some json else object.value key' := by
  split_ifs with heq
  · subst heq
    exact value_insert_self ..
  · exact value_insert_of_ne object heq json

theorem value_backupAppConfig (hh : Healthy env) (h : Coherent env c.settings) (key : String) :
    (c.backupAppConfig env).1.value key = backupMember env c.autostart (c.settings.content env) key := by
  obtain ⟨h₁, hsame₁, hvalue⟩ := h.backupAppConfig hh
  obtain ⟨hkill, h₂, hsame₂⟩ := h₁.value hh "Conf/killSwitchEnabled" (.bool true)
  obtain ⟨hstrict, h₃, hsame₃⟩ := h₂.value hh "Conf/strictKillSwitchEnabled" (.bool false)
  obtain ⟨hdns, -, -⟩ := h₃.value hh "Conf/useAmneziaDns" (.bool true)
  rw [hsame₁] at hkill
  rw [hsame₂, hsame₁] at hstrict
  rw [hsame₃, hsame₂, hsame₁] at hdns
  unfold backupAppConfig isKillSwitchEnabled isStrictKillSwitchEnabled useAmneziaDns flag
  rw [value_insert, value_insert, value_insert, value_insert, value_insert, hkill, hstrict, hdns, hvalue]
  unfold backupMember
  split_ifs with h₁ h₂ h₃
  · rw [h₁]
  · rw [h₂]
  · rw [h₃]
  all_goals rfl

/-! ### What the restore writes besides the backup -/

/-- The settings that the branches for single platforms write during a restore. -/
def platformKeys (env : SettingsEnvironment qt) (data : JsonObject) : List String :=
  (if env.platform.togglesAutoStart ∧ Json.toBool (data.value "Conf/autoStart") = false then
    ["Conf/startMinimized"] else []) ++
  (if env.platform.hasAppSplitTunneling then
    ["Conf/appsRouteMode", "Conf/appsSplitTunnelingEnabled",
      "Conf/" ++ appsRouteModeString (restoredAppsRouteMode env data)] else []) ++
  (if env.platform.isMobile then
    ["Conf/autoConnect", "Conf/startMinimized", "Conf/killSwitchEnabled", "Conf/strictKillSwitchEnabled"] else [])

/-- From `c` to `c'` only these settings are written, and the servers in memory stay. -/
structure WritesOnly (env : SettingsEnvironment qt) (keys : List String) (c c' : SettingsController) : Prop where
  coherent : Coherent env c'.settings
  content_eq : ∀ key ∉ keys, c'.settings.content env key = c.settings.content env key
  servers_eq : c'.serversRepository = c.serversRepository

theorem WritesOnly.refl (h : Coherent env c.settings) (keys : List String) : WritesOnly env keys c c :=
  ⟨h, fun _ _ => rfl, rfl⟩

theorem WritesOnly.trans {c' c'' : SettingsController} (h : WritesOnly env keys c c')
    (h' : WritesOnly env keys c' c'') : WritesOnly env keys c c'' :=
  ⟨h'.coherent, fun key hkey => (h'.content_eq key hkey).trans (h.content_eq key hkey),
    h'.servers_eq.trans h.servers_eq⟩

section
variable (hh : Healthy env) (h : Coherent env c.settings)
include hh h

theorem writesOnly_setValue (value : Variant) (hplain : encryptedPart value = none) (hkey : key ∈ keys) :
    WritesOnly env keys c (c.onSettings (SecureQSettings.setValue env key value)) := by
  obtain ⟨hs, hcontent⟩ := h.setValue hh key value (Or.inl hplain)
  refine ⟨hs, fun key' hkey' => ?_, rfl⟩
  have hne : key' ≠ key := fun heq => hkey' (heq ▸ hkey)
  exact (congrFun hcontent key').trans (update_of_ne hne _ _)

theorem writesOnly_setAppsRouteMode (routeMode : Int) (hkey : "Conf/appsRouteMode" ∈ keys) :
    WritesOnly env keys c (c.onSettings (SecureQSettings.setAppsRouteMode env routeMode)) := by
  obtain ⟨-, hread, hsame⟩ := h.value hh ("Conf/" ++ appsRouteModeString routeMode) .invalid
  have hwrite := writesOnly_setValue hh
    (c := c.onSettings fun s => (s.value env ("Conf/" ++ appsRouteModeString routeMode) .invalid).2) hread
    (.int routeMode) rfl hkey
  exact ⟨hwrite.coherent, fun key hkey => (hwrite.content_eq key hkey).trans (congrFun hsame key), rfl⟩

theorem writesOnly_restoreAutoStart (data : JsonObject) :
    WritesOnly env (platformKeys env data) c (c.restoreAutoStart env data) := by
  unfold restoreAutoStart toggleAutoStart
  split_ifs with htoggles hstart
  · exact ⟨h, fun _ _ => rfl, rfl⟩
  · have hkey : "Conf/startMinimized" ∈ platformKeys env data := by
      unfold platformKeys
      rw [if_pos ⟨htoggles, Bool.not_eq_true _ ▸ hstart⟩]
      exact List.mem_append_left _ (List.mem_append_left _ List.mem_cons_self)
    have hwrite := writesOnly_setValue hh h (.bool false) rfl hkey
    exact ⟨hwrite.coherent, hwrite.content_eq, rfl⟩
  · exact WritesOnly.refl h _

theorem writesOnly_restoreAppSplitTunneling (data : JsonObject) :
    WritesOnly env (platformKeys env data) c (c.restoreAppSplitTunneling env data) := by
  unfold restoreAppSplitTunneling
  by_cases happs : env.platform.hasAppSplitTunneling = true
  · have hsub : ["Conf/appsRouteMode", "Conf/appsSplitTunnelingEnabled",
        "Conf/" ++ appsRouteModeString (restoredAppsRouteMode env data)] ⊆ platformKeys env data := by
      intro key hkey
      unfold platformKeys
      rw [if_pos happs]
      exact List.mem_append_left _ (List.mem_append_right _ hkey)
    rw [if_pos happs]
    dsimp only
    have hmode := hsub List.mem_cons_self
    have htoggle := hsub (List.mem_cons_of_mem _ List.mem_cons_self)
    have hlist := hsub (List.mem_cons_of_mem _ (List.mem_cons_of_mem _ List.mem_cons_self))
    have h₁ := writesOnly_setAppsRouteMode hh h (Json.toInt (data.value "Conf/appsRouteMode") 0) hmode
    generalize c.onSettings (setAppsRouteMode env _) = c₁ at h₁ ⊢
    have h₂ : WritesOnly env (platformKeys env data) c
        (if env.platform = .windows then c₁.onSettings (setAppsRouteMode env 2) else c₁) := by
      split_ifs
      · exact h₁.trans (writesOnly_setAppsRouteMode hh h₁.coherent 2 hmode)
      · exact h₁
    generalize (if env.platform = .windows then _ else c₁) = c₂ at h₂ ⊢
    have h₃ : WritesOnly env (platformKeys env data) c
        (if data.contains "AppPlatform" ∧ Json.toString (data.value "AppPlatform") ≠ env.platform.getPlatformName
          then c₂.onSettings (clearAppsList env (restoredAppsRouteMode env data)) else c₂) := by
      split_ifs
      · exact h₂.trans (writesOnly_setValue hh h₂.coherent _ rfl hlist)
      · exact h₂
    exact h₃.trans (writesOnly_setValue hh h₃.coherent _ rfl htoggle)
  · rw [if_neg happs]
    exact WritesOnly.refl h _

theorem writesOnly_restoreMobileDefaults (data : JsonObject) :
    WritesOnly env (platformKeys env data) c (c.restoreMobileDefaults env) := by
  unfold restoreMobileDefaults
  split_ifs with hmobile
  · have hsub : ∀ key ∈ ["Conf/autoConnect", "Conf/startMinimized", "Conf/killSwitchEnabled",
        "Conf/strictKillSwitchEnabled"], key ∈ platformKeys env data := by
      intro key hkey
      unfold platformKeys
      rw [if_pos hmobile]
      exact List.mem_append_right _ hkey
    have h₁ := writesOnly_setValue hh h (.bool false) rfl (hsub "Conf/autoConnect" (by decide))
    have h₂ := writesOnly_setValue hh h₁.coherent (.bool false) rfl (hsub "Conf/startMinimized" (by decide))
    have h₃ := writesOnly_setValue hh h₂.coherent (.bool false) rfl
      (hsub "Conf/killSwitchEnabled" (by decide))
    have h₄ := writesOnly_setValue hh h₃.coherent (.bool false) rfl
      (hsub "Conf/strictKillSwitchEnabled" (by decide))
    exact ((h₁.trans h₂).trans h₃).trans h₄
  · exact WritesOnly.refl h _

end

/-- The settings that every restore writes anew after the members of the backup. -/
def siteMember (qt : Qt) (data : JsonObject) (key : String) : Option Variant :=
  if key = "Conf/sitesSplitTunnelingEnabled" then some (.bool (restoredFlag qt data key))
  else if key = "Conf/routeMode" then some (.int (Json.toInt (data.value key) 0))
  else none

section
variable (hh : Healthy env) (h : Coherent env c.settings)
include hh h

theorem restoreSiteSplitTunneling_spec (data : JsonObject) :
    Coherent env (c.restoreSiteSplitTunneling env data).settings ∧
      (∀ key, (c.restoreSiteSplitTunneling env data).settings.content env key =
        (siteMember qt data key).or (c.settings.content env key)) ∧
      (c.restoreSiteSplitTunneling env data).serversRepository = c.serversRepository := by
  obtain ⟨-, h₁, hsame₁⟩ :=
    h.value hh ("Conf/" ++ routeModeString (Json.toInt (data.value "Conf/routeMode") 0)) .invalid
  obtain ⟨h₂, hcontent₂⟩ := h₁.setValue hh "Conf/routeMode"
    (.int (Json.toInt (data.value "Conf/routeMode") 0)) (Or.inl rfl)
  obtain ⟨h₃, hcontent₃⟩ := h₂.setValue hh "Conf/sitesSplitTunnelingEnabled"
    (.bool (restoredFlag qt data "Conf/sitesSplitTunnelingEnabled")) (Or.inl rfl)
  refine ⟨h₃, fun key => (congrFun hcontent₃ key).trans ?_, rfl⟩
  rw [hcontent₂, hsame₁]
  unfold siteMember
  by_cases hsites : key = "Conf/sitesSplitTunnelingEnabled"
  · rw [hsites, update_self, if_pos rfl, Option.some_or]
  · rw [update_of_ne hsites, if_neg hsites]
    by_cases hmode : key = "Conf/routeMode"
    · rw [hmode, update_self, if_pos rfl, Option.some_or]
    · rw [update_of_ne hmode, if_neg hmode, Option.none_or]

theorem invalidateServers_spec (uuids : UuidSource) (endpoints : ApiEndpoints) :
    let c' := c.invalidateServers env uuids endpoints
    Coherent env c'.settings ∧ c'.settings.content env = c.settings.content env ∧
      c'.serversRepository = { c.serversRepository with
        settings := serversView qt (c.settings.content env) }.invalidateCache uuids endpoints := by
  obtain ⟨hview, hs, hsame⟩ := h.serversSettings hh
  rw [← hview]
  exact ⟨hs, hsame, rfl⟩

theorem restoreAppConfigFromData_spec (uuids : UuidSource) (endpoints : ApiEndpoints) (hne : data ≠ []) :
    ∃ c', c.restoreAppConfigFromData env uuids endpoints data = some c' ∧ Coherent env c'.settings ∧
      (∀ key ∉ platformKeys env data, c'.settings.content env key =
        (siteMember qt data key).or (restoredContent qt data (c.settings.content env) key)) ∧
      c'.serversRepository = ({ c.serversRepository with
        settings := serversView qt (restoredContent qt data (c.settings.content env)) }).invalidateCache uuids
          endpoints := by
  obtain ⟨s, hrestore, hs, hcontent⟩ := h.restoreAppConfig hh hne
  unfold restoreAppConfigFromData
  rw [hrestore, Option.map_some]
  obtain ⟨hinvalidate, hmap, hservers⟩ := invalidateServers_spec (c := { c with settings := s }) hh hs uuids endpoints
  rw [hcontent] at hmap hservers
  have hauto := writesOnly_restoreAutoStart hh hinvalidate data
  have happs := writesOnly_restoreAppSplitTunneling hh hauto.coherent data
  obtain ⟨hsite, hsiteContent, hsiteServers⟩ := restoreSiteSplitTunneling_spec hh happs.coherent data
  have hmobile := writesOnly_restoreMobileDefaults hh hsite data
  refine ⟨_, rfl, hmobile.coherent, fun key hkey => ?_, ?_⟩
  · rw [hmobile.content_eq key hkey, hsiteContent, happs.content_eq key hkey, hauto.content_eq key hkey, hmap]
  · rw [hmobile.servers_eq, hsiteServers, happs.servers_eq, hauto.servers_eq, hservers]

end

theorem startsWithText_of_mem_platformKeys (h : key ∈ platformKeys env data) : startsWithText key "Conf/" = true := by
  have hconf : ∀ mode : String, startsWithText ("Conf/" ++ mode) "Conf/" = true := by
    intro mode
    rw [startsWithText, String.toList_append, List.isPrefixOf_iff_prefix]
    exact List.prefix_append _ _
  unfold platformKeys at h
  rw [List.mem_append, List.mem_append] at h
  rcases h with (h | h) | h
  · split_ifs at h
    · rw [List.mem_singleton] at h
      rw [h]
      decide
    · cases h
  · split_ifs at h
    · simp only [List.mem_cons, List.not_mem_nil, or_false] at h
      rcases h with rfl | rfl | rfl
      · decide
      · decide
      · exact hconf _
    · cases h
  · split_ifs at h
    · simp only [List.mem_cons, List.not_mem_nil, or_false] at h
      rcases h with rfl | rfl | rfl | rfl <;> decide
    · cases h

theorem serversKey_spec (env : SettingsEnvironment qt) (data : JsonObject)
    (h : key ∈ ["Servers/serversList", "Servers/defaultServerId", "Servers/defaultServerIndex"]) :
    needToBackup key = true ∧ key ∉ platformKeys env data ∧ siteMember qt data key = none := by
  have hkey : needToBackup key = true ∧ startsWithText key "Conf/" = false ∧ siteMember qt data key = none := by
    simp only [List.mem_cons, List.not_mem_nil, or_false] at h
    rcases h with rfl | rfl | rfl <;> exact ⟨by decide, by decide, rfl⟩
  refine ⟨hkey.1, fun hmem => ?_, hkey.2.2⟩
  rw [startsWithText_of_mem_platformKeys hmem] at hkey
  exact Bool.false_ne_true hkey.2.1.symm

/-! ### When a restore restores -/

/-- The settings a restore writes whatever the backed-up store holds: the two of split tunnelling by site, and
the four that every backup has. -/
def fixedMember (qt : Qt) (data : JsonObject) (key : String) : Option Variant :=
  (siteMember qt data key).or
    (if key ∈ ["Conf/autoStart", "Conf/killSwitchEnabled", "Conf/strictKillSwitchEnabled", "Conf/useAmneziaDns"]
      then some (memberVariant qt (data.value key)) else none)

/-- The restore gives back what the store `content` held under the key: a setting it always writes was set
and reads alike, any other one is not set in `other` unless it was set. -/
def GivesBack (qt : Qt) (data : JsonObject) (content other : String → Option Variant) (key : String) : Prop :=
  match fixedMember qt data key with
  | some w => ∃ v, content key = some v ∧ qt.Alike w v
  | none => content key = none → other key = none

variable {content other : String → Option Variant}

theorem restored_eq (env : SettingsEnvironment qt) {autostart : Bool}
    (hdata : ∀ key, data.value key = backupMember env autostart content key) (hneed : needToBackup key = true) :
    (siteMember qt data key).or (restoredContent qt data other key) =
      (fixedMember qt data key).or
        (((content key).map fun v => qt.toVariant (qt.fromVariant v)).or (other key)) := by
  have hid : key ≠ "Conf/installationUuid" := by
    rintro rfl
    exact absurd hneed (by decide)
  have hplatform : key ≠ "AppPlatform" := by
    rintro rfl
    exact absurd hneed (by decide)
  unfold fixedMember restoredContent
  rw [if_neg hid, Option.or_assoc]
  congr 1
  have hvalue := hdata key
  unfold backupMember at hvalue
  by_cases hfixed : key ∈ ["Conf/autoStart", "Conf/killSwitchEnabled", "Conf/strictKillSwitchEnabled",
      "Conf/useAmneziaDns"]
  · have hsome : (data.value key).isSome := by
      simp only [List.mem_cons, List.not_mem_nil, or_false] at hfixed
      rw [hvalue]
      rcases hfixed with rfl | rfl | rfl | rfl <;> rfl
    rw [if_pos hsome, if_pos hfixed, Option.some_or]
  · simp only [List.mem_cons, List.not_mem_nil, or_false, not_or] at hfixed
    have hnotin : key ∉ ["Conf/autoStart", "Conf/killSwitchEnabled", "Conf/strictKillSwitchEnabled",
        "Conf/useAmneziaDns"] := by
      simpa using hfixed
    rw [if_neg hfixed.2.2.2, if_neg hfixed.2.2.1, if_neg hfixed.2.1, if_neg hfixed.1, if_neg hplatform,
      if_pos hneed] at hvalue
    rw [if_neg hnotin, Option.none_or, hvalue]
    cases content key with
    | none => rfl
    | some v => rfl

theorem alike_restored_iff (restored : String → Option Variant)
    (hrestored : restored key = (fixedMember qt data key).or
      (((content key).map fun v => qt.toVariant (qt.fromVariant v)).or (other key)))
    (hlossless : ∀ v, content key = some v → qt.Alike (qt.toVariant (qt.fromVariant v)) v) :
    (∀ defaultValue, qt.Alike ((restored key).getD defaultValue) ((content key).getD defaultValue)) ↔
      GivesBack qt data content other key := by
  rw [Qt.alike_getD_iff, hrestored, GivesBack]
  cases hfixed : fixedMember qt data key with
  | some w =>
    constructor
    · rintro (⟨hnone, -⟩ | ⟨v, w', hv, hw', halike⟩)
      · cases hnone
      · cases hv
        exact ⟨w', hw', halike⟩
    · rintro ⟨v, hv, halike⟩
      exact Or.inr ⟨w, v, rfl, hv, halike⟩
  | none =>
    cases hcontent : content key with
    | none =>
      constructor
      · rintro (⟨hnone, -⟩ | ⟨_, _, _, hw, _⟩) _
        · exact hnone
        · cases hw
      · intro h
        exact Or.inl ⟨h rfl, rfl⟩
    | some v =>
      constructor
      · rintro _ hnone
        cases hnone
      · intro _
        exact Or.inr ⟨_, v, rfl, rfl, hlossless v hcontent⟩

theorem serversView_eq {content' : String → Option Variant}
    (h : ∀ key ∈ ["Servers/serversList", "Servers/defaultServerId", "Servers/defaultServerIndex"],
      ∀ defaultValue, qt.Alike ((content key).getD defaultValue) ((content' key).getD defaultValue)) :
    serversView qt content = serversView qt content' := by
  unfold serversView
  rw [(h "Servers/serversList" (by decide) _).toByteArray, (h "Servers/defaultServerId" (by decide) _).toString,
    (h "Servers/defaultServerIndex" (by decide) _).toInt]

theorem onFile_coherent (env : SettingsEnvironment qt) {settings : AList fun _ : String => Variant}
    (hplain : ∀ entry ∈ settings.entries, encryptedPart entry.2 = none) (r : SecureServersRepository) :
    Coherent env (onFile settings r).settings := by
  refine ⟨fun _ => Or.inl rfl, fun key stored hlookup hpart => ?_, fun _ _ hv => ?_⟩
  · exact absurd (hplain ⟨key, stored⟩ (AList.mem_lookup_iff.mp hlookup)) hpart
  · cases hv

def completeFile : AList fun _ : String => Variant :=
  [("Servers/serversList", .byteArray [104]), ("Conf/routeMode", .int 2),
    ("Conf/sitesSplitTunnelingEnabled", .bool true), ("Conf/autoStart", .bool false),
    ("Conf/killSwitchEnabled", .bool true), ("Conf/strictKillSwitchEnabled", .bool false),
    ("Conf/useAmneziaDns", .bool true)].foldl (fun file (key, v) => AList.insert key v file) ∅

end SettingsController

end FreshVpn
