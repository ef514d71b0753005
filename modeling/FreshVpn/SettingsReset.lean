import FreshVpn.SettingsController
import FreshVpn.SettingsKeychain

/-! What is left of the servers after the settings have been reset. -/

namespace FreshVpn

open SecureQSettings UuidSource

namespace SecureQSettings

variable {qt : Qt} {env : SettingsEnvironment qt}

/-! ### A key that is not in the file -/

variable {key : String} {s : SecureQSettings}

theorem lookup_setValue_of_ne {key' : String} (hne : key' ≠ key) (value : Variant) (s : SecureQSettings) :
    (s.setValue env key value).settings.lookup key' = s.settings.lookup key' := by
  obtain ⟨s', hfetched, hnothing | ⟨stored, encryptions, hwritten⟩⟩ := setValue_cases env key value s
  · rw [hnothing, hfetched.settings_eq]
  · rw [hwritten, ← hfetched.settings_eq]
    exact AList.lookup_insert_ne hne

theorem lookup_value (key key' : String) (defaultValue : Variant) (s : SecureQSettings) :
    (s.value env key defaultValue).2.settings.lookup key' = s.settings.lookup key' := by
  rw [(value_frame env key defaultValue s).1]

theorem lookup_clearAppSettings (env : SettingsEnvironment qt) (hne : key ≠ "Conf/installationUuid")
    (s : SecureQSettings) : (s.clearAppSettings env).settings.lookup key = none :=
  (lookup_setValue_of_ne hne _ _).trans (AList.lookup_empty key)

theorem lookup_start_eq_none (env : SettingsEnvironment qt) (hkey : key ∈ encryptedKeys)
    (h : s.settings.lookup key = none) : (s.start env).settings.lookup key = none ∧ (s.start env).cache key = none := by
  have hnone : s.settings.keys.filter (· ∈ encryptedKeys) = [] := by
    rcases filter_encryptedKeys s with hnil | ⟨key', hkey', hone⟩
    · exact hnil
    · have hmem : key' ∈ s.settings.keys.filter (· ∈ encryptedKeys) := hone ▸ List.mem_cons_self
      have hsame : key' = key := (List.mem_singleton.mp hkey').trans (List.mem_singleton.mp hkey).symm
      have hin : key' ∈ s.settings := (List.mem_filter.mp hmem).1
      rw [AList.lookup_eq_none, ← hsame] at h
      exact absurd hin h
  have hne : key ≠ "Conf/encrypted" := fun heq => absurd (heq ▸ hkey) (by decide)
  unfold start
  dsimp only
  rw [hnone, List.foldl_nil]
  split_ifs
  · exact ⟨(AList.lookup_insert_ne hne).trans h, rfl⟩
  · exact ⟨h, rfl⟩

theorem serversList_serversSettings_of_missing (env : SettingsEnvironment qt)
    (hlookup : s.settings.lookup "Servers/serversList" = none) (hcache : s.cache "Servers/serversList" = none) :
    (s.serversSettings env).1.serversList = [] := by
  have hvalue : s.value env "Servers/serversList" (.byteArray []) = (.byteArray [], s) := by
    unfold value
    rw [hcache, hlookup]
  unfold serversSettings
  rw [hvalue]
  dsimp only
  rw [qt.toByteArray_byteArray, qt.documentArray_nil]

end SecureQSettings

namespace SecureServersRepository

theorem orderedServerIds_create_of_empty (uuids : UuidSource) (endpoints : ApiEndpoints) {settings : Settings}
    (h : settings.serversList = []) (uuidsDrawn : ℕ) :
    (create uuids endpoints settings uuidsDrawn).orderedServerIds = [] := by
  have hloaded := create_loaded uuids endpoints settings uuidsDrawn (by simp [h])
  rw [← List.length_eq_zero_iff, hloaded.1.names.length_eq, keptEntries, h]
  rfl

theorem WellFormed.eq_of_no_servers {r r' : SecureServersRepository} (h : WellFormed r) (h' : WellFormed r')
    (hids : r.orderedServerIds = []) (hids' : r'.orderedServerIds = []) :
    r.serverJsonById = r'.serverJsonById ∧ r.defaultServerId = r'.defaultServerId := by
  have hnone : ∀ {r : SecureServersRepository}, WellFormed r → r.orderedServerIds = [] →
      ∀ id, r.serverJsonById id = none := by
    intro r h hids id
    have hnot : id ∉ r.orderedServerIds := hids ▸ List.not_mem_nil
    rw [h.mem_iff, contains, Option.not_isSome_iff_eq_none] at hnot
    exact hnot
  refine ⟨funext fun id => ?_, ?_⟩
  · rw [hnone h hids id, hnone h' hids' id]
  · rw [h.default_empty hids, h'.default_empty hids']

end SecureServersRepository

namespace SettingsController

open SecureServersRepository

variable {qt : Qt} {env : SettingsEnvironment qt}

def writeAll (env : SettingsEnvironment qt) (writes : List (String × Variant)) (c : SettingsController) :
    SettingsController :=
  writes.foldl (fun c write => c.onSettings (SecureQSettings.setValue env write.1 write.2)) c

theorem lookup_writeAll {key : String} {writes : List (String × Variant)} (h : ∀ write ∈ writes, key ≠ write.1)
    (c : SettingsController) :
    (c.writeAll env writes).settings.settings.lookup key = c.settings.settings.lookup key := by
  induction writes generalizing c with
  | nil =>
    rfl
  | cons write writes ih =>
    rw [List.forall_mem_cons] at h
    unfold writeAll at ih ⊢
    rw [List.foldl_cons, ih h.2]
    exact lookup_setValue_of_ne h.1 write.2 c.settings

theorem lookup_serversList_reset (c : SettingsController) :
    (c.resetSettingsKeepServers env).settings.settings.lookup "Servers/serversList" = none := by
  have hclear := lookup_clearAppSettings env
    (show "Servers/serversList" ≠ "Conf/installationUuid" by decide) c.settings
  unfold resetSettingsKeepServers toggleAutoStart onSettings setStartMinimized
    toggleAppsSplitTunneling setAppsRouteMode
    toggleSitesSplitTunneling setRouteMode setFlag
  simp only [Bool.false_eq_true, if_false]
  repeat rw [lookup_setValue_of_ne (by decide)]
  rw [lookup_value]
  repeat rw [lookup_setValue_of_ne (by decide)]
  rw [lookup_value]
  exact hclear

/-- **Resetting the settings keeps the servers only if there are none.** For every client, with or without
settings written after the reset, the repository of the next start has the ids, the JSON and the default
server that a start without the reset would have given exactly if that start would have given no servers. -/
theorem reset_keeps_servers_iff (qt : Qt) (env : SettingsEnvironment qt) (uuids : UuidSource)
    (endpoints : ApiEndpoints) (c : SettingsController) (writes : List (String × Variant))
    (hwrites : ∀ write ∈ writes, startsWithText write.1 "Servers/" = false) (uuidsDrawn : ℕ) :
    let expected := c.settings.nextStart env uuids endpoints uuidsDrawn
    let restarted :=
      ((c.resetSettingsKeepServers env).writeAll env writes).settings.nextStart env uuids endpoints uuidsDrawn
    (restarted.orderedServerIds = expected.orderedServerIds ∧
        restarted.serverJsonById = expected.serverJsonById ∧
        restarted.defaultServerId = expected.defaultServerId) ↔
      expected.orderedServerIds = [] := by
  intro expected restarted
  have hkey : "Servers/serversList" ∈ encryptedKeys := by decide
  have hne : ∀ write ∈ writes, "Servers/serversList" ≠ write.1 := by
    intro write hwrite heq
    have hstarts := hwrites write hwrite
    rw [← heq] at hstarts
    exact absurd hstarts (by decide)
  have hreset : ((c.resetSettingsKeepServers env).writeAll env writes).settings.settings.lookup
      "Servers/serversList" = none := by
    rw [lookup_writeAll hne, lookup_serversList_reset]
  obtain ⟨hlookup, hcache⟩ := lookup_start_eq_none env hkey hreset
  have hlist := serversList_serversSettings_of_missing env hlookup hcache
  have hnone : restarted.orderedServerIds = [] := orderedServerIds_create_of_empty uuids endpoints hlist uuidsDrawn
  constructor
  · rintro ⟨hids, -, -⟩
    rw [← hids, hnone]
  · intro hempty
    refine ⟨hnone.trans hempty.symm, ?_⟩
    exact (create_wellFormed uuids endpoints _ uuidsDrawn).eq_of_no_servers
      (create_wellFormed uuids endpoints _ uuidsDrawn) hnone hempty

/-- A client on this file, whatever its repository. -/
def onFile (settings : AList fun _ : String => Variant) (serversRepository : SecureServersRepository) :
    SettingsController where
  settings := (SecureQSettings.installed settings fun _ => []).store
  serversRepository
  autostart := false

theorem reset_of_new_installation :
    let env := SmallEnvironment.environment .linux (fun _ => false) (fun _ => false)
    let c := onFile ∅ (create longest ⟨"free", "premium"⟩ ⟨[], "", 0⟩ 0)
    (((c.resetSettingsKeepServers env).writeAll env [("Conf/appLanguage", .string "en_US")]).settings.nextStart env
      longest ⟨"free", "premium"⟩ 0).orderedServerIds = [] :=
  ((reset_keeps_servers_iff SmallEnvironment.qt (SmallEnvironment.environment .linux (fun _ => false) fun _ => false)
    longest ⟨"free", "premium"⟩
    (onFile ∅ (create longest ⟨"free", "premium"⟩ ⟨[], "", 0⟩ 0))
    [("Conf/appLanguage", .string "en_US")] (by decide) 0).mpr (by decide)).1

/-- One server is stored; after the reset the next start has none, and without it it would have had it. -/
theorem reset_loses_servers :
    let env := SmallEnvironment.environment .linux (fun _ => false) (fun _ => false)
    let c := onFile (AList.singleton "Servers/serversList" (.byteArray [104]))
      (create longest ⟨"free", "premium"⟩ ⟨SmallEnvironment.qt.documentArray [104], "", 0⟩ 0)
    (c.settings.nextStart env longest ⟨"free", "premium"⟩ 0).orderedServerIds.length = 1 ∧
      (c.resetSettingsKeepServers env).serversRepository.orderedServerIds.length = 1 ∧
      ((c.resetSettingsKeepServers env).settings.nextStart env longest ⟨"free", "premium"⟩
        0).orderedServerIds = [] := by
  decide

end SettingsController

end FreshVpn
