import FreshVpn.SettingsKeychain

/-! The store as a map from keys to values. While the keychain and the cipher work, reading and writing
settings is reading and writing this map, whatever is encrypted, cached or already loaded. -/

namespace FreshVpn.SecureQSettings

open Function

variable {s : SecureQSettings} {key key' : String} {qt : Qt} {env : SettingsEnvironment qt}

/-- The keychain and the cipher work. -/
structure Healthy (env : SettingsEnvironment qt) : Prop where
  reads : ∀ n, env.keychainReadFails n = false
  encryptions : ∀ n, env.encryptionThrows n = false

theorem Healthy.readsSucceed (h : Healthy env) (start stop : ℕ) : ReadsSucceed env start stop :=
  fun n _ _ => h.reads n

/-- A stored value as the secrets of the keychain decode it. -/
def decode (env : SettingsEnvironment qt) (keychain : SecTag → List UInt8) (stored : Variant) : Variant :=
  match encryptedPart stored with
  | none => stored
  | some bytes =>
    qt.readStream ((env.decryptAesBlockCipher bytes (keychain .settingsKeyTag) (keychain .settingsIvTag)).getD [])

variable {stored : Variant} {s' : SecureQSettings}

theorem decode_of_plain (h : encryptedPart stored = none) (keychain : SecTag → List UInt8) :
    decode env keychain stored = stored := by
  rw [decode, h]

theorem decode_of_encrypted {bytes : List UInt8} (h : encryptedPart stored = some bytes)
    (keychain : SecTag → List UInt8) :
    decode env keychain stored = qt.readStream
      ((env.decryptAesBlockCipher bytes (keychain .settingsKeyTag) (keychain .settingsIvTag)).getD []) := by
  rw [decode, h]

theorem decode_encrypted (keychain : SecTag → List UInt8) (v : Variant) :
    decode env keychain (.byteArray (magicString ++ env.encryptAesBlockCipher (qt.writeStream v)
      (keychain .settingsKeyTag) (keychain .settingsIvTag))) = v := by
  rw [decode_of_encrypted (encryptedPart_magicString_append _), env.decrypt_encrypt, Option.getD_some,
    qt.readStream_writeStream]

/-- The values of the file, by key. -/
def content (env : SettingsEnvironment qt) (s : SecureQSettings) (key : String) : Option Variant :=
  (s.settings.lookup key).map (decode env s.keychain)

/-- The copies of a process agree with the file and the keychain, and what is marked as encrypted can be
decrypted. -/
structure Coherent (env : SettingsEnvironment qt) (s : SecureQSettings) : Prop where
  agree : SecretsAgree s
  secrets : ∀ key stored, s.settings.lookup key = some stored → encryptedPart stored ≠ none →
    ∀ tag, s.keychain tag ≠ []
  cached : ∀ key v, s.cache key = some v → s.content env key = some v

theorem Coherent.fetched (hh : Healthy env) (h : Coherent env s) (hfetched : Fetched env s s') :
    Coherent env s' ∧ s'.content env = s.content env := by
  have hkept : ∀ tag, s.keychain tag ≠ [] → s'.keychain tag = s.keychain tag :=
    hfetched.kept (hh.readsSucceed _ _)
  have hcontent : s'.content env = s.content env := by
    funext key
    unfold content
    rw [hfetched.settings_eq]
    cases hlookup : s.settings.lookup key with
    | none => rfl
    | some stored =>
      rw [Option.map_some, Option.map_some]
      cases hpart : encryptedPart stored with
      | none => rw [decode_of_plain hpart, decode_of_plain hpart]
      | some bytes =>
        have hsecrets := h.secrets key stored hlookup (hpart ▸ Option.some_ne_none _)
        rw [show s'.keychain = s.keychain from funext fun tag => hkept tag (hsecrets tag)]
  refine ⟨⟨hfetched.agree h.agree, fun key stored hlookup hpart tag => ?_, fun key v hv => ?_⟩, hcontent⟩
  · have hsecret := h.secrets key stored (hfetched.settings_eq ▸ hlookup) hpart tag
    rw [hkept tag hsecret]
    exact hsecret
  · rw [hcontent]
    exact h.cached key v (hfetched.cache_eq ▸ hv)

theorem Coherent.insertCache (h : Coherent env s) {value : Variant} (hvalue : s.content env key = some value) :
    Coherent env (s.insertCache key value) := by
  refine ⟨h.agree, h.secrets, fun key' v hv => ?_⟩
  change update s.cache key (some value) key' = some v at hv
  change s.content env key' = some v
  by_cases heq : key' = key
  · subst heq
    rw [update_self] at hv
    rw [hvalue, hv]
  · rw [update_of_ne heq] at hv
    exact h.cached key' v hv

theorem keysAvailable_of_healthy (hh : Healthy env) (s : SecureQSettings) :
    ∃ s', s.keysAvailable env = (true, s') ∧ Fetched env s s' ∧ ∀ tag, s'.loaded tag ≠ [] := by
  obtain ⟨hfetched, hheld, hread⟩ := keysAvailable_spec env s
  have htrue := hread (hh.readsSucceed _ _)
  exact ⟨_, Prod.ext htrue rfl, hfetched, hheld htrue⟩

theorem Coherent.value (hh : Healthy env) (h : Coherent env s) (key : String) (defaultValue : Variant) :
    (s.value env key defaultValue).1 = (s.content env key).getD defaultValue ∧
      Coherent env (s.value env key defaultValue).2 ∧
      (s.value env key defaultValue).2.content env = s.content env := by
  unfold SecureQSettings.value
  cases hcache : s.cache key with
  | some cached =>
    refine ⟨?_, h, rfl⟩
    rw [h.cached key cached hcache, Option.getD_some]
  | none =>
    cases hlookup : s.settings.lookup key with
    | none =>
      refine ⟨?_, h, rfl⟩
      rw [content, hlookup, Option.map_none, Option.getD_none]
    | some stored =>
      have hcontent : s.content env key = some (decode env s.keychain stored) := by
        rw [content, hlookup, Option.map_some]
      cases hpart : encryptedPart stored with
      | none =>
        simp only [hpart]
        rw [decode_of_plain hpart] at hcontent
        refine ⟨?_, h.insertCache hcontent, rfl⟩
        rw [hcontent, Option.getD_some]
      | some bytes =>
        simp only [hpart]
        obtain ⟨s', havailable, hfetched, hloaded⟩ := keysAvailable_of_healthy hh s
        obtain ⟨hs', hsame⟩ := h.fetched hh hfetched
        unfold SecureQSettings.decryptValue
        rw [havailable]
        dsimp only
        rw [if_pos rfl, decryptText_of_loaded hloaded]
        have hvalue : s'.content env key = some (qt.readStream ((env.decryptAesBlockCipher bytes
            (s'.loaded .settingsKeyTag) (s'.loaded .settingsIvTag)).getD [])) := by
          rw [content, hfetched.settings_eq, hlookup, Option.map_some, decode_of_encrypted hpart,
            hs'.agree.eq hloaded]
        refine ⟨?_, hs'.insertCache hvalue, hsame⟩
        rw [← hsame, hvalue, Option.getD_some]

theorem Coherent.write (h : Coherent env s) {value : Variant} (hsettings : s'.settings = s.settings.insert key stored)
    (hkeychain : s'.keychain = s.keychain) (hloaded : s'.loaded = s.loaded)
    (hcache : s'.cache = Function.update s.cache key (some value)) (hdecode : decode env s.keychain stored = value)
    (hsecrets : encryptedPart stored ≠ none → ∀ tag, s.keychain tag ≠ []) :
    Coherent env s' ∧ s'.content env = Function.update (s.content env) key (some value) := by
  have hcontent : s'.content env = update (s.content env) key (some value) := by
    funext key'
    unfold content
    rw [hsettings, hkeychain]
    by_cases heq : key' = key
    · subst heq
      rw [AList.lookup_insert, Option.map_some, hdecode, update_self]
    · rw [AList.lookup_insert_ne heq, update_of_ne heq]
  refine ⟨⟨fun tag => ?_, fun key' stored' hlookup hpart => ?_, fun key' v hv => ?_⟩, hcontent⟩
  · rw [hkeychain, hloaded]
    exact h.agree tag
  · rw [hkeychain]
    rw [hsettings] at hlookup
    by_cases heq : key' = key
    · subst heq
      rw [AList.lookup_insert, Option.some.injEq] at hlookup
      exact hsecrets (hlookup ▸ hpart)
    · rw [AList.lookup_insert_ne heq] at hlookup
      exact h.secrets key' stored' hlookup hpart
  · rw [hcontent]
    rw [hcache] at hv
    by_cases heq : key' = key
    · subst heq
      rw [update_self] at hv ⊢
      exact hv
    · rw [update_of_ne heq] at hv ⊢
      exact h.cached key' v hv

/-- Writing a setting is updating the map. A value that goes to the file as it is must not look encrypted. -/
theorem Coherent.setValue (hh : Healthy env) (h : Coherent env s) (key : String) (value : Variant)
    (hplain : encryptedPart value = none ∨ (env.encryptionRequired = true ∧ key ∈ encryptedKeys)) :
    Coherent env (s.setValue env key value) ∧
      (s.setValue env key value).content env = Function.update (s.content env) key (some value) := by
  unfold SecureQSettings.setValue SecureQSettings.encryptValue
  split_ifs with henc
  · obtain ⟨s', havailable, hfetched, hloaded⟩ := keysAvailable_of_healthy hh s
    obtain ⟨hs', hsame⟩ := h.fetched hh hfetched
    have hsecrets := hs'.agree.eq hloaded
    rw [havailable]
    dsimp only
    rw [if_pos rfl, encryptText_of_loaded hloaded, hh.encryptions, if_neg Bool.false_ne_true, ← hsame]
    refine hs'.write rfl rfl rfl rfl ?_ fun _ tag => ?_
    · rw [hsecrets]
      exact decode_encrypted s'.keychain value
    · rw [← hsecrets]
      exact hloaded tag
  · have hpart := hplain.resolve_right henc
    exact h.write rfl rfl rfl rfl (decode_of_plain hpart _) fun hne => absurd hpart hne

theorem Coherent.convert (hh : Healthy env) (h : Coherent env s) (henc : env.encryptionRequired = true)
    (hkey : key ∈ encryptedKeys) (hin : key ∈ s.settings) :
    Coherent env (s.convert env key) ∧ (s.convert env key).content env = s.content env := by
  obtain ⟨stored, hlookup⟩ := Option.isSome_iff_exists.mp (AList.lookup_isSome.mpr hin)
  obtain ⟨hvalue, hread, hsame⟩ := h.value hh key .invalid
  obtain ⟨hwritten, hupdate⟩ := hread.setValue hh key (s.value env key .invalid).1
    (Or.inr ⟨henc, hkey⟩)
  refine ⟨hwritten, hupdate.trans ?_⟩
  have hcontent : s.content env key = some (s.value env key .invalid).1 := by
    rw [hvalue, content, hlookup, Option.map_some, Option.getD_some]
  rw [hsame, ← hcontent, update_eq_self]

theorem cache_value_of_ne (hne : key' ≠ key) (defaultValue : Variant) (s : SecureQSettings) :
    (s.value env key defaultValue).2.cache key' = s.cache key' := by
  unfold SecureQSettings.value
  split
  · rfl
  · split
    · rfl
    · split
      · exact update_of_ne hne _ _
      · rename_i bytes _
        obtain ⟨s', hfetched, hnothing | ⟨value, hread⟩⟩ := decryptValue_cases env key bytes s
        · rw [hnothing, hfetched.cache_eq]
        · rw [hread, ← hfetched.cache_eq]
          exact update_of_ne hne _ _

theorem cache_setValue_of_ne (hne : key' ≠ key) (value : Variant) (s : SecureQSettings) :
    (s.setValue env key value).cache key' = s.cache key' := by
  obtain ⟨s', hfetched, hnothing | ⟨stored, encryptions, hwritten⟩⟩ := setValue_cases env key value s
  · rw [hnothing, hfetched.cache_eq]
  · rw [hwritten, ← hfetched.cache_eq]
    exact update_of_ne hne _ _

theorem cache_convert_of_ne (hne : key' ≠ key) (s : SecureQSettings) : (s.convert env key).cache key' = s.cache key' :=
  (cache_setValue_of_ne hne (s.value env key .invalid).1 (s.value env key .invalid).2).trans
    (cache_value_of_ne hne .invalid s)

theorem Coherent.markConverted (h : Coherent env s) (hcache : s.cache "Conf/encrypted" = none) :
    Coherent env (s.writeFile "Conf/encrypted" (.bool true)) ∧
      ∀ key ≠ "Conf/encrypted",
        (s.writeFile "Conf/encrypted" (.bool true)).content env key = s.content env key := by
  have hlookup : ∀ key ≠ "Conf/encrypted",
      (s.settings.insert "Conf/encrypted" (.bool true)).lookup key = s.settings.lookup key := fun key hne =>
    AList.lookup_insert_ne hne
  have hother : ∀ key ≠ "Conf/encrypted",
      (s.writeFile "Conf/encrypted" (.bool true)).content env key = s.content env key := by
    intro key hne
    unfold content SecureQSettings.writeFile
    rw [hlookup key hne]
  refine ⟨⟨h.agree, fun key stored hstored hpart => ?_, fun key v hv => ?_⟩, hother⟩
  · change (s.settings.insert "Conf/encrypted" (.bool true)).lookup key = some stored at hstored
    by_cases heq : key = "Conf/encrypted"
    · rw [heq, AList.lookup_insert, Option.some.injEq] at hstored
      exact absurd (hstored ▸ rfl) hpart
    · rw [hlookup key heq] at hstored
      exact h.secrets key stored hstored hpart
  · change s.cache key = some v at hv
    have hne : key ≠ "Conf/encrypted" := by
      rintro rfl
      rw [hcache] at hv
      cases hv
    rw [hother key hne]
    exact h.cached key v hv

theorem Coherent.start (hh : Healthy env) (h : Coherent env s) :
    Coherent env (s.start env) ∧
      ∀ key ≠ "Conf/encrypted", (s.start env).content env key = s.content env key := by
  have hfresh : Coherent env { s with cache := fun _ => none, loaded := fun _ => [] } := by
    refine ⟨fun _ => Or.inl rfl, h.secrets, fun key v hv => ?_⟩
    cases hv
  unfold SecureQSettings.start
  dsimp only
  split_ifs with hconvert
  · rcases filter_encryptedKeys s with hnone | ⟨key, hkey, hone⟩
    · rw [hnone, List.foldl_nil]
      exact hfresh.markConverted rfl
    · have hin : key ∈ s.settings :=
        (List.mem_filter.mp (hone ▸ List.mem_cons_self : key ∈ s.settings.keys.filter (· ∈ encryptedKeys))).1
      obtain ⟨hconverted, hsame⟩ := hfresh.convert hh hconvert.1 hkey hin
      have hne : "Conf/encrypted" ≠ key := fun heq => absurd (heq ▸ hkey) (by decide)
      rw [hone, List.foldl_cons, List.foldl_nil]
      obtain ⟨hmarked, hother⟩ := hconverted.markConverted (cache_convert_of_ne hne _)
      exact ⟨hmarked, fun key' hne' => (hother key' hne').trans (congrFun hsame key')⟩
  · exact ⟨hfresh, fun _ _ => rfl⟩

end FreshVpn.SecureQSettings
