import Mathlib.Order.Basic
import FreshVpn.LibraryRun
import FreshVpn.SettingsStore

/-! The encrypted settings under faults of the keychain and of the cipher. -/

namespace FreshVpn.SecureQSettings

open Function SmallEnvironment

variable {key : String} {s : SecureQSettings} {t : Tracked}

open Run

variable {qt : Qt} {env : SettingsEnvironment qt}

/-! ### Fetching the key and the IV -/

/-- What the process holds of the keychain is what the keychain holds. -/
def SecretsAgree (s : SecureQSettings) : Prop := ∀ tag, s.loaded tag = [] ∨ s.loaded tag = s.keychain tag

def ReadsSucceed (env : SettingsEnvironment qt) (start stop : ℕ) : Prop :=
  ∀ n, start ≤ n → n < stop → env.keychainReadFails n = false

theorem ReadsSucceed.mono {start stop start' stop' : ℕ} (h : ReadsSucceed env start stop) (hstart : start ≤ start')
    (hstop : stop' ≤ stop) : ReadsSucceed env start' stop' := fun n hn hlt =>
  h n (hstart.trans hn) (hlt.trans_le hstop)

/-- What fetching the secrets may change, from `s` to `s'`. -/
structure Fetched (env : SettingsEnvironment qt) (s s' : SecureQSettings) : Prop where
  settings_eq : s'.settings = s.settings
  cache_eq : s'.cache = s.cache
  encryptions_eq : s'.encryptions = s.encryptions
  reads_le : s.keychainReads ≤ s'.keychainReads
  agree : SecretsAgree s → SecretsAgree s'
  kept : ReadsSucceed env s.keychainReads s'.keychainReads →
    ∀ tag, s.keychain tag ≠ [] → s'.keychain tag = s.keychain tag
  loaded : ∀ tag, s.loaded tag ≠ [] → s'.loaded tag = s.loaded tag

theorem Fetched.refl (s : SecureQSettings) : Fetched env s s :=
  ⟨rfl, rfl, rfl, le_rfl, id, fun _ _ _ => rfl, fun _ _ => rfl⟩

variable {s' : SecureQSettings} {v : Variant} {s'' : SecureQSettings}

theorem Fetched.trans (h : Fetched env s s') (h' : Fetched env s' s'') : Fetched env s s'' := by
  refine ⟨h'.settings_eq.trans h.settings_eq, h'.cache_eq.trans h.cache_eq,
    h'.encryptions_eq.trans h.encryptions_eq, h.reads_le.trans h'.reads_le, fun hs => h'.agree (h.agree hs),
    fun hreads tag hne => ?_, fun tag hne => ?_⟩
  · have hfirst := h.kept (hreads.mono le_rfl h'.reads_le) tag hne
    rw [← hfirst] at hne
    exact (h'.kept (hreads.mono h.reads_le le_rfl) tag hne).trans hfirst
  · have hfirst := h.loaded tag hne
    rw [← hfirst] at hne
    exact (h'.loaded tag hne).trans hfirst

@[simp] theorem getEnc_of_loaded {tag : SecTag} (h : s.loaded tag ≠ []) : s.getEnc env tag = (s.loaded tag, s) := by
  rw [getEnc, if_pos h]

theorem createSecTag_eq (tag : SecTag) (s : SecureQSettings) :
    s.createSecTag env tag =
      let key := env.generatePrivateSalt s.saltsDrawn
      let data := if env.keychainReadFails s.keychainReads then [] else key
      (data, { s with
        keychain := update s.keychain tag key
        loaded := update s.loaded tag data
        saltsDrawn := s.saltsDrawn + 1
        keychainReads := s.keychainReads + 1 }) := by
  have hne := env.generatePrivateSalt_ne_nil s.saltsDrawn
  unfold createSecTag drawSalt setSecTag getSecTag setLoaded
  dsimp only
  cases env.keychainReadFails s.keychainReads with
  | true => simp [hne]
  | false => simp

theorem getEnc_of_not_loaded {tag : SecTag} (h : s.loaded tag = []) :
    s.getEnc env tag =
      if env.keychainReadFails s.keychainReads = false ∧ s.keychain tag ≠ [] then
        (s.keychain tag, { s with
          loaded := Function.update s.loaded tag (s.keychain tag), keychainReads := s.keychainReads + 1 })
      else createSecTag env tag { s with keychainReads := s.keychainReads + 1 } := by
  have hsame : update s.loaded tag [] = s.loaded := by
    rw [← h, update_eq_self]
  unfold getEnc getSecTag setLoaded
  rw [if_neg (not_not.mpr h)]
  cases env.keychainReadFails s.keychainReads with
  | true => simp [hsame]
  | false =>
    by_cases hempty : s.keychain tag = []
    · simp [hempty, hsame]
    · simp [hempty]

theorem SecretsAgree.update (h : SecretsAgree s) (tag : SecTag) {key data : List UInt8}
    (hkeychain : s'.keychain = Function.update s.keychain tag key)
    (hloaded : s'.loaded = Function.update s.loaded tag data) (hdata : data = [] ∨ data = key) : SecretsAgree s' := by
  intro tag'
  rw [hkeychain, hloaded]
  by_cases heq : tag' = tag
  · subst heq
    simpa only [update_self] using hdata
  · simpa only [update_of_ne heq] using h tag'

theorem getEnc_spec (env : SettingsEnvironment qt) (tag : SecTag) (s : SecureQSettings) :
    Fetched env s (s.getEnc env tag).2 ∧
      ((s.getEnc env tag).1 = [] ∨ (s.getEnc env tag).2.loaded tag = (s.getEnc env tag).1) ∧
      (ReadsSucceed env s.keychainReads (s.getEnc env tag).2.keychainReads → (s.getEnc env tag).1 ≠ []) := by
  by_cases hloaded : s.loaded tag = []
  · have hother : ∀ tag' data, s.loaded tag' ≠ [] →
        update s.loaded tag data tag' = s.loaded tag' := by
      intro tag' data hne
      have htag : tag' ≠ tag := fun heq => hne (heq ▸ hloaded)
      exact update_of_ne htag data s.loaded
    rw [getEnc_of_not_loaded hloaded]
    split_ifs with hread
    · refine ⟨⟨rfl, rfl, rfl, Nat.le_succ _, fun hs => ?_, fun _ _ _ => rfl, fun tag' => hother tag' _⟩,
        Or.inr (update_self ..), fun _ => hread.2⟩
      exact hs.update tag (update_eq_self ..).symm rfl (Or.inr rfl)
    · rw [createSecTag_eq]
      refine ⟨⟨rfl, rfl, rfl, (Nat.le_succ _).trans (Nat.le_succ _), fun hs => ?_, fun hreads tag' hne => ?_,
        fun tag' => hother tag' _⟩, Or.inr (update_self ..), fun hreads => ?_⟩
      · refine hs.update tag rfl rfl ?_
        split_ifs
        · exact Or.inl rfl
        · exact Or.inr rfl
      · -- The read succeeded, so it was this entry that was empty.
        have hok := hreads s.keychainReads le_rfl (Nat.lt_succ_of_lt (Nat.lt_succ_self _))
        have hempty : s.keychain tag = [] := not_not.mp fun hne => hread ⟨hok, hne⟩
        have htag : tag' ≠ tag := fun heq => hne (heq ▸ hempty)
        exact update_of_ne htag _ _
      · rw [hreads (s.keychainReads + 1) (Nat.le_succ _) (Nat.lt_succ_self _)]
        exact env.generatePrivateSalt_ne_nil _
  · rw [getEnc_of_loaded hloaded]
    exact ⟨Fetched.refl s, Or.inr rfl, fun _ => hloaded⟩

theorem keysAvailable_spec (env : SettingsEnvironment qt) (s : SecureQSettings) :
    Fetched env s (s.keysAvailable env).2 ∧
      ((s.keysAvailable env).1 = true → ∀ tag, (s.keysAvailable env).2.loaded tag ≠ []) ∧
      (ReadsSucceed env s.keychainReads (s.keysAvailable env).2.keychainReads → (s.keysAvailable env).1 = true) := by
  obtain ⟨hkey, hkeyHeld, hkeyRead⟩ := getEnc_spec env .settingsKeyTag s
  unfold keysAvailable getEncKey getEncIv
  generalize s.getEnc env .settingsKeyTag = keyAndState at hkey hkeyHeld hkeyRead
  obtain ⟨key, s₁⟩ := keyAndState
  dsimp only at hkey hkeyHeld hkeyRead ⊢
  split_ifs with hempty
  · exact ⟨hkey, fun h => h.elim, fun hreads => absurd hempty (hkeyRead hreads)⟩
  · obtain ⟨hiv, hivHeld, hivRead⟩ := getEnc_spec env .settingsIvTag s₁
    generalize s₁.getEnc env .settingsIvTag = ivAndState at hiv hivHeld hivRead
    obtain ⟨iv, s₂⟩ := ivAndState
    have hheld : s₁.loaded .settingsKeyTag ≠ [] := by
      rw [hkeyHeld.resolve_left hempty]
      exact hempty
    refine ⟨hkey.trans hiv, fun havailable tag => ?_, fun hreads => ?_⟩
    · rw [bne_iff_ne] at havailable
      cases tag with
      | settingsKeyTag =>
        rw [hiv.loaded _ hheld]
        exact hheld
      | settingsIvTag =>
        rw [hivHeld.resolve_left havailable]
        exact havailable
    · rw [bne_iff_ne]
      exact hivRead (hreads.mono hkey.reads_le le_rfl)

/-! ### What is stored -/

def HoldsEncrypted (s : SecureQSettings) : Prop :=
  ∃ key ∈ encryptedKeys, ∃ stored, s.settings.lookup key = some stored ∧ encryptedPart stored ≠ none

/-- The file has `v` under the key: as it is, or encrypted with the secrets that are in the keychain. -/
def Stores (env : SettingsEnvironment qt) (s : SecureQSettings) (key : String) (v : Variant) : Prop :=
  (s.settings.lookup key = some v ∧ encryptedPart v = none) ∨
    (s.settings.lookup key = some (.byteArray (magicString ++ env.encryptAesBlockCipher (qt.writeStream v)
        (s.keychain .settingsKeyTag) (s.keychain .settingsIvTag))) ∧
      ∀ tag, s.keychain tag ≠ [])

/-- Fetching the secrets keeps what is stored, unless a read fails while something encrypted is stored. -/
theorem Stores.fetched (h : Stores env s key v) (hkey : key ∈ encryptedKeys) (hfetched : Fetched env s s')
    (hreads : HoldsEncrypted s → ReadsSucceed env s.keychainReads s'.keychainReads) : Stores env s' key v := by
  rcases h with ⟨hplain, hpart⟩ | ⟨hencrypted, hsecrets⟩
  · exact Or.inl ⟨hfetched.settings_eq ▸ hplain, hpart⟩
  · have hholds : HoldsEncrypted s := by
      refine ⟨key, hkey, _, hencrypted, ?_⟩
      exact Option.some_ne_none _
    have hkept : ∀ tag, s'.keychain tag = s.keychain tag := fun tag =>
      hfetched.kept (hreads hholds) tag (hsecrets tag)
    refine Or.inr ⟨?_, fun tag => (hkept tag).symm ▸ hsecrets tag⟩
    rw [hfetched.settings_eq, hkept, hkept]
    exact hencrypted

theorem Stores.congr (h : Stores env s key v) (hlookup : s'.settings.lookup key = s.settings.lookup key)
    (hkeychain : s'.keychain = s.keychain) : Stores env s' key v := by
  unfold Stores
  rw [hlookup, hkeychain]
  exact h

/-- What the client has asked the store to keep, beside the store. -/
structure Tracked where
  store : SecureQSettings
  /-- The last value whose `setValue` took effect, by key. -/
  written : String → Option Variant

structure Faithful (env : SettingsEnvironment qt) (t : Tracked) : Prop where
  agree : SecretsAgree t.store
  stored : ∀ key ∈ encryptedKeys, ∀ v, t.written key = some v → Stores env t.store key v
  cached : ∀ key ∈ encryptedKeys, ∀ v, t.written key = some v →
    t.store.cache key = none ∨ t.store.cache key = some v

theorem Faithful.fetched (h : Faithful env t) (hfetched : Fetched env t.store s')
    (hreads : HoldsEncrypted t.store → ReadsSucceed env t.store.keychainReads s'.keychainReads) :
    Faithful env { t with store := s' } :=
  ⟨hfetched.agree h.agree, fun key hkey v hv => (h.stored key hkey v hv).fetched hkey hfetched hreads,
    fun key hkey v hv => hfetched.cache_eq ▸ h.cached key hkey v hv⟩

theorem Faithful.insertCache (h : Faithful env t) {value : Variant}
    (hvalue : key ∈ encryptedKeys → ∀ v, t.written key = some v → value = v) :
    Faithful env { t with store := t.store.insertCache key value } := by
  refine ⟨h.agree, fun key' hkey' v hv => (h.stored key' hkey' v hv).congr rfl rfl, fun key' hkey' v hv => ?_⟩
  change update t.store.cache key (some value) key' = none ∨
    update t.store.cache key (some value) key' = some v
  by_cases heq : key' = key
  · subst heq
    rw [update_self, hvalue hkey' v hv]
    exact Or.inr rfl
  · rw [update_of_ne heq]
    exact h.cached key' hkey' v hv

/-! ### The accesses -/

@[simp] theorem decryptText_of_loaded (h : ∀ tag, s.loaded tag ≠ []) (value : List UInt8) :
    s.decryptText env value =
      ((env.decryptAesBlockCipher value (s.loaded .settingsKeyTag) (s.loaded .settingsIvTag)).getD [], s) := by
  simp only [decryptText, getEncKey, getEncIv, getEnc_of_loaded (h _)]

@[simp] theorem encryptText_of_loaded (h : ∀ tag, s.loaded tag ≠ []) (value : List UInt8) :
    s.encryptText env value =
      (if env.encryptionThrows s.encryptions then []
        else env.encryptAesBlockCipher value (s.loaded .settingsKeyTag) (s.loaded .settingsIvTag),
        { s with encryptions := s.encryptions + 1 }) := by
  simp only [encryptText, getEncKey, getEncIv, getEnc_of_loaded (h _)]

theorem decryptValue_cases (env : SettingsEnvironment qt) (key : String) (bytes : List UInt8) (s : SecureQSettings) :
    ∃ s', Fetched env s s' ∧ (s.decryptValue env key bytes = (.invalid, s') ∨
      ∃ value, s.decryptValue env key bytes = (value, s'.insertCache key value)) := by
  obtain ⟨hfetched, hheld, -⟩ := keysAvailable_spec env s
  unfold decryptValue
  generalize s.keysAvailable env = availableAndState at hfetched hheld ⊢
  obtain ⟨available, s'⟩ := availableAndState
  dsimp only at hfetched hheld ⊢
  refine ⟨s', hfetched, ?_⟩
  cases available with
  | false => exact Or.inl rfl
  | true =>
    rw [if_pos rfl, decryptText_of_loaded (hheld rfl)]
    exact Or.inr ⟨_, rfl⟩

theorem setValue_cases (env : SettingsEnvironment qt) (key : String) (value : Variant) (s : SecureQSettings) :
    ∃ s', Fetched env s s' ∧ (s.setValue env key value = s' ∨
      ∃ stored encryptions, s.setValue env key value =
        ({ s' with encryptions := encryptions }.writeFile key stored).insertCache key value) := by
  obtain ⟨hfetched, hheld, -⟩ := keysAvailable_spec env s
  unfold setValue encryptValue
  split_ifs
  · generalize s.keysAvailable env = availableAndState at hfetched hheld ⊢
    obtain ⟨available, s'⟩ := availableAndState
    dsimp only at hfetched hheld ⊢
    refine ⟨s', hfetched, ?_⟩
    cases available with
    | false => exact Or.inl rfl
    | true =>
      rw [if_pos rfl, encryptText_of_loaded (hheld rfl)]
      exact Or.inr ⟨_, _, rfl⟩
  · exact ⟨s, Fetched.refl s, Or.inr ⟨value, s.encryptions, rfl⟩⟩

theorem SecretsAgree.eq (h : SecretsAgree s) (hloaded : ∀ tag, s.loaded tag ≠ []) : s.loaded = s.keychain :=
  funext fun tag => (h tag).resolve_left (hloaded tag)

theorem Faithful.decryptValue (h : Faithful env t) {stored : Variant} {encryptedValue : List UInt8}
    (hlookup : t.store.settings.lookup key = some stored) (hpart : encryptedPart stored = some encryptedValue)
    (hreads : HoldsEncrypted t.store →
      ReadsSucceed env t.store.keychainReads (t.store.decryptValue env key encryptedValue).2.keychainReads) :
    Faithful env { t with store := (t.store.decryptValue env key encryptedValue).2 } ∧
      (key ∈ encryptedKeys → ∀ v, t.written key = some v →
        (t.store.decryptValue env key encryptedValue).1 = v) := by
  obtain ⟨hfetched, hheld, hread⟩ := keysAvailable_spec env t.store
  have hholds : key ∈ encryptedKeys → HoldsEncrypted t.store := fun hkey =>
    ⟨key, hkey, stored, hlookup, hpart ▸ Option.some_ne_none _⟩
  unfold SecureQSettings.decryptValue at hreads ⊢
  generalize t.store.keysAvailable env = availableAndState at hfetched hheld hread hreads ⊢
  obtain ⟨available, s⟩ := availableAndState
  dsimp only at hfetched hheld hread hreads ⊢
  cases available with
  | false =>
    refine ⟨h.fetched hfetched hreads, fun hkey => ?_⟩
    exact absurd (hread (hreads (hholds hkey))) Bool.false_ne_true
  | true =>
    have hloaded := hheld rfl
    rw [if_pos rfl, decryptText_of_loaded hloaded] at hreads ⊢
    have hs := h.fetched hfetched hreads
    have hvalue : key ∈ encryptedKeys → ∀ v, t.written key = some v →
        qt.readStream ((env.decryptAesBlockCipher encryptedValue (s.loaded .settingsKeyTag)
          (s.loaded .settingsIvTag)).getD []) = v := by
      intro hkey v hv
      rcases hs.stored key hkey v hv with ⟨hplain, hnone⟩ | ⟨hencrypted, -⟩
      · rw [hfetched.settings_eq, hlookup, Option.some.injEq] at hplain
        rw [← hplain, hpart] at hnone
        cases hnone
      · rw [hfetched.settings_eq, hlookup, Option.some.injEq] at hencrypted
        rw [hencrypted, encryptedPart_magicString_append, Option.some.injEq] at hpart
        rw [← hpart, hs.agree.eq hloaded, env.decrypt_encrypt, Option.getD_some, qt.readStream_writeStream]
    exact ⟨hs.insertCache hvalue, hvalue⟩

/-- Reading a value keeps the store faithful, and returns what was written, unless a keychain read fails
while something encrypted is stored. -/
theorem Faithful.value (h : Faithful env t) (key : String) (defaultValue : Variant)
    (hreads : HoldsEncrypted t.store →
      ReadsSucceed env t.store.keychainReads (t.store.value env key defaultValue).2.keychainReads) :
    Faithful env { t with store := (t.store.value env key defaultValue).2 } ∧
      (key ∈ encryptedKeys → ∀ v, t.written key = some v → (t.store.value env key defaultValue).1 = v) := by
  unfold SecureQSettings.value at hreads ⊢
  cases hcache : t.store.cache key with
  | some cached =>
    refine ⟨h, fun hkey v hv => ?_⟩
    rcases h.cached key hkey v hv with hnone | hsome
    · rw [hcache] at hnone
      cases hnone
    · rw [hcache] at hsome
      exact Option.some.inj hsome
  | none =>
    cases hlookup : t.store.settings.lookup key with
    | none =>
      refine ⟨h, fun hkey v hv => ?_⟩
      rcases h.stored key hkey v hv with ⟨hplain, -⟩ | ⟨hencrypted, -⟩
      · rw [hlookup] at hplain
        cases hplain
      · rw [hlookup] at hencrypted
        cases hencrypted
    | some stored =>
      cases hpart : encryptedPart stored with
      | none =>
        have hvalue : key ∈ encryptedKeys → ∀ v, t.written key = some v → stored = v := by
          intro hkey v hv
          rcases h.stored key hkey v hv with ⟨hplain, -⟩ | ⟨hencrypted, -⟩
          · rw [hlookup] at hplain
            exact Option.some.inj hplain
          · rw [hlookup, Option.some.injEq] at hencrypted
            rw [hencrypted, encryptedPart_magicString_append] at hpart
            cases hpart
        simp only [hpart]
        exact ⟨h.insertCache hvalue, hvalue⟩
      | some encryptedValue =>
        simp only [hcache, hlookup, hpart] at hreads ⊢
        exact h.decryptValue hlookup hpart hreads

/-- Reads of the keychain are only added, and a keychain that has both entries keeps them unless one
fails. -/
structure Steady (env : SettingsEnvironment qt) (s s' : SecureQSettings) : Prop where
  reads_le : s.keychainReads ≤ s'.keychainReads
  keychain_eq : ReadsSucceed env s.keychainReads s'.keychainReads → (∀ tag, s.keychain tag ≠ []) →
    s'.keychain = s.keychain

theorem Steady.refl (s : SecureQSettings) : Steady env s s := ⟨le_rfl, fun _ _ => rfl⟩

theorem Steady.trans (h : Steady env s s') (h' : Steady env s' s'') : Steady env s s'' := by
  refine ⟨h.reads_le.trans h'.reads_le, fun hreads hne => ?_⟩
  have hfirst := h.keychain_eq (hreads.mono le_rfl h'.reads_le) hne
  rw [← hfirst] at hne
  exact (h'.keychain_eq (hreads.mono h.reads_le le_rfl) hne).trans hfirst

theorem Fetched.steady (h : Fetched env s s') : Steady env s s' :=
  ⟨h.reads_le, fun hreads hne => funext fun tag => h.kept hreads tag (hne tag)⟩

theorem decryptValue_frame (key : String) (bytes : List UInt8) (s : SecureQSettings) :
    (s.decryptValue env key bytes).2.settings = s.settings ∧
      (s.decryptValue env key bytes).2.encryptions = s.encryptions ∧
      Steady env s (s.decryptValue env key bytes).2 := by
  obtain ⟨s', hfetched, hnothing | ⟨value, hread⟩⟩ := decryptValue_cases env key bytes s
  · rw [hnothing]
    exact ⟨hfetched.settings_eq, hfetched.encryptions_eq, hfetched.steady⟩
  · rw [hread]
    exact ⟨hfetched.settings_eq, hfetched.encryptions_eq, hfetched.steady.reads_le, hfetched.steady.keychain_eq⟩

theorem value_frame (env : SettingsEnvironment qt) (key : String) (defaultValue : Variant) (s : SecureQSettings) :
    (s.value env key defaultValue).2.settings = s.settings ∧
      (s.value env key defaultValue).2.encryptions = s.encryptions ∧
      Steady env s (s.value env key defaultValue).2 := by
  unfold SecureQSettings.value
  split
  · exact ⟨rfl, rfl, Steady.refl s⟩
  · split
    · exact ⟨rfl, rfl, Steady.refl s⟩
    · split
      · exact ⟨rfl, rfl, le_rfl, fun _ _ => rfl⟩
      · exact decryptValue_frame key _ s

theorem setValue_steady (env : SettingsEnvironment qt) (key : String) (value : Variant) (s : SecureQSettings) :
    Steady env s (s.setValue env key value) := by
  obtain ⟨s', hfetched, hnothing | ⟨stored, encryptions, hwritten⟩⟩ := setValue_cases env key value s
  · rw [hnothing]
    exact hfetched.steady
  · rw [hwritten]
    exact ⟨hfetched.steady.reads_le, hfetched.steady.keychain_eq⟩

theorem convert_steady (key : String) (s : SecureQSettings) : Steady env s (s.convert env key) :=
  (value_frame env key .invalid s).2.2.trans (setValue_steady env key _ _)

/-- No encryption of those numbered from `start` to before `stop` throws. -/
def EncryptionsSucceed (env : SettingsEnvironment qt) (start stop : ℕ) : Prop :=
  ∀ n, start ≤ n → n < stop → env.encryptionThrows n = false

/-- `setValue` gets past the checks of the key and the IV, and the encryption does not throw. -/
def tookEffect (env : SettingsEnvironment qt) (key : String) (s : SecureQSettings) : Bool :=
  if env.encryptionRequired ∧ key ∈ encryptedKeys then
    let (available, s) := s.keysAvailable env
    available && !env.encryptionThrows s.encryptions
  else true

theorem Faithful.encryptValue (h : Faithful env t) (value : Variant)
    (hreads : HoldsEncrypted t.store →
      ReadsSucceed env t.store.keychainReads (t.store.encryptValue env key value).keychainReads)
    (hthrows : EncryptionsSucceed env t.store.encryptions (t.store.encryptValue env key value).encryptions) :
    ((t.store.keysAvailable env).1 = false ∧ Faithful env { t with store := t.store.encryptValue env key value }) ∨
      ((t.store.keysAvailable env).1 = true ∧
        env.encryptionThrows (t.store.keysAvailable env).2.encryptions = false ∧
        ∀ written : String → Option Variant, (∀ key' ≠ key, written key' = t.written key') →
          (∀ v, written key = some v → v = value) →
          Faithful env { store := t.store.encryptValue env key value, written }) := by
  obtain ⟨hfetched, hheld, -⟩ := keysAvailable_spec env t.store
  unfold SecureQSettings.encryptValue at hreads hthrows ⊢
  generalize t.store.keysAvailable env = availableAndState at hfetched hheld hreads hthrows ⊢
  obtain ⟨available, s⟩ := availableAndState
  dsimp only at hfetched hheld hreads hthrows ⊢
  cases available with
  | false => exact Or.inl ⟨rfl, h.fetched hfetched hreads⟩
  | true =>
    have hloaded := hheld rfl
    rw [if_pos rfl, encryptText_of_loaded hloaded] at hreads hthrows ⊢
    have hs := h.fetched hfetched hreads
    have hok : env.encryptionThrows s.encryptions = false := by
      refine hthrows s.encryptions hfetched.encryptions_eq.ge ?_
      exact Nat.lt_succ_self _
    refine Or.inr ⟨rfl, hok, fun written hother hvalue => ?_⟩
    rw [hok, if_neg Bool.false_ne_true]
    refine ⟨hs.agree, fun key' hkey' v hv => ?_, fun key' hkey' v hv => ?_⟩
    · by_cases heq : key' = key
      · subst heq
        have hv := hvalue v hv
        subst hv
        refine Or.inr ⟨?_, fun tag => ?_⟩
        · change (s.settings.insert key' _).lookup key' = _
          rw [AList.lookup_insert, hs.agree.eq hloaded]
          rfl
        · rw [← hs.agree.eq hloaded]
          exact hloaded tag
      · refine (hs.stored key' hkey' v (hother key' heq ▸ hv)).congr ?_ rfl
        exact AList.lookup_insert_ne heq
    · change update s.cache key (some value) key' = none ∨
        update s.cache key (some value) key' = some v
      by_cases heq : key' = key
      · subst heq
        rw [update_self, hvalue v hv]
        exact Or.inr rfl
      · rw [update_of_ne heq]
        exact hs.cached key' hkey' v (hother key' heq ▸ hv)

theorem Faithful.writeFile (h : Faithful env t) (hkey : key ∉ encryptedKeys) (value : Variant)
    (hsettings : s'.settings = t.store.settings.insert key value) (hkeychain : s'.keychain = t.store.keychain)
    (hloaded : s'.loaded = t.store.loaded) (hcache : ∀ key' ≠ key, s'.cache key' = t.store.cache key')
    {written : String → Option Variant} (hwritten : ∀ key' ≠ key, written key' = t.written key') :
    Faithful env { store := s', written } := by
  have hne : ∀ key' ∈ encryptedKeys, key' ≠ key := fun key' hkey' heq => hkey (heq ▸ hkey')
  refine ⟨fun tag => ?_, fun key' hkey' v hv => ?_, fun key' hkey' v hv => ?_⟩
  · rw [hkeychain, hloaded]
    exact h.agree tag
  · refine (h.stored key' hkey' v (hwritten key' (hne key' hkey') ▸ hv)).congr ?_ hkeychain
    rw [hsettings]
    exact AList.lookup_insert_ne (hne key' hkey')
  · rw [hcache key' (hne key' hkey')]
    exact h.cached key' hkey' v (hwritten key' (hne key' hkey') ▸ hv)

theorem Faithful.convert (h : Faithful env t) (henc : env.encryptionRequired = true) (hkey : key ∈ encryptedKeys)
    (hreads : HoldsEncrypted t.store → ReadsSucceed env t.store.keychainReads (t.store.convert env key).keychainReads)
    (hthrows : EncryptionsSucceed env t.store.encryptions (t.store.convert env key).encryptions) :
    Faithful env { t with store := t.store.convert env key } := by
  obtain ⟨hsettings, hencryptions, hsteady⟩ := value_frame env key .invalid t.store
  have hwrite := setValue_steady env key (t.store.value env key .invalid).1
    (t.store.value env key .invalid).2
  obtain ⟨hread, hvalue⟩ := h.value key .invalid fun hholds => (hreads hholds).mono le_rfl hwrite.reads_le
  have hset : t.store.convert env key =
      (t.store.value env key .invalid).2.encryptValue env key (t.store.value env key .invalid).1 :=
    if_pos ⟨henc, hkey⟩
  rw [hset] at hreads hthrows ⊢
  have hholds : HoldsEncrypted (t.store.value env key .invalid).2 → HoldsEncrypted t.store := by
    rintro ⟨key', hkey', stored, hlookup, hpart⟩
    exact ⟨key', hkey', stored, hsettings ▸ hlookup, hpart⟩
  rcases hread.encryptValue (t.store.value env key .invalid).1
      (fun hh => (hreads (hholds hh)).mono hsteady.reads_le le_rfl) (hencryptions.symm ▸ hthrows) with
    ⟨-, hkept⟩ | ⟨-, -, hwritten⟩
  · exact hkept
  · exact hwritten t.written (fun _ _ => rfl) fun v hv => (hvalue hkey v hv).symm

theorem filter_encryptedKeys (s : SecureQSettings) :
    s.settings.keys.filter (· ∈ encryptedKeys) = [] ∨
      ∃ key ∈ encryptedKeys, s.settings.keys.filter (· ∈ encryptedKeys) = [key] := by
  have hnodup := s.settings.keys_nodup.filter (· ∈ encryptedKeys)
  have hmem : ∀ key ∈ s.settings.keys.filter (· ∈ encryptedKeys), key ∈ encryptedKeys := fun key hkey =>
    of_decide_eq_true (List.mem_filter.mp hkey).2
  have hone : ∀ key ∈ encryptedKeys, key = "Servers/serversList" := fun key hkey => List.mem_singleton.mp hkey
  generalize s.settings.keys.filter (· ∈ encryptedKeys) = keys at hnodup hmem
  match keys with
  | [] => exact Or.inl rfl
  | [key] => exact Or.inr ⟨key, hmem key List.mem_cons_self, rfl⟩
  | key :: key' :: rest =>
    have hsame : key = key' := by
      rw [hone key (hmem key List.mem_cons_self),
        hone key' (hmem key' (List.mem_cons_of_mem key List.mem_cons_self))]
    exact absurd (hsame ▸ List.mem_cons_self) (List.nodup_cons.mp hnodup).1

theorem Faithful.start (h : Faithful env t)
    (hreads : HoldsEncrypted t.store → ReadsSucceed env t.store.keychainReads (t.store.start env).keychainReads)
    (hthrows : EncryptionsSucceed env t.store.encryptions (t.store.start env).encryptions) :
    Faithful env { t with store := t.store.start env } := by
  have hfresh : Faithful env { t with
      store := { t.store with cache := fun _ => none, loaded := fun _ => [] } } :=
    ⟨fun _ => Or.inl rfl, fun key hkey v hv => (h.stored key hkey v hv).congr rfl rfl, fun _ _ _ _ => Or.inl rfl⟩
  have hconf : "Conf/encrypted" ∉ encryptedKeys := by decide
  unfold SecureQSettings.start at hreads hthrows ⊢
  dsimp only at hreads hthrows ⊢
  split_ifs at hreads hthrows ⊢ with hconvert
  · rcases filter_encryptedKeys { t.store with cache := fun _ => none, loaded := fun _ => [] } with
      hnone | ⟨key, hkey, hone⟩
    · rw [hnone, List.foldl_nil]
      refine hfresh.writeFile hconf (.bool true) ?_ ?_ ?_ ?_ ?_ <;> intros <;> rfl
    · rw [hone, List.foldl_cons, List.foldl_nil] at hreads hthrows ⊢
      have hconverted := hfresh.convert hconvert.1 hkey hreads hthrows
      refine hconverted.writeFile hconf (.bool true) ?_ ?_ ?_ ?_ ?_ <;> intros <;> rfl
  · exact hfresh

theorem start_steady (s : SecureQSettings) : Steady env s (s.start env) := by
  have hfresh : Steady env s { s with cache := fun _ => none, loaded := fun _ => [] } := ⟨le_rfl, fun _ _ => rfl⟩
  unfold SecureQSettings.start
  dsimp only
  split_ifs
  · have hconvert := List.foldlRecOn (s.settings.keys.filter (· ∈ encryptedKeys)) (convert env)
      (motive := fun s' => Steady env s s') hfresh fun s' hs' key _ => hs'.trans (convert_steady key s')
    exact ⟨hconvert.reads_le, hconvert.keychain_eq⟩
  · exact hfresh

/-! ### Runs -/

/-- What the client does with the store; `start` is a new process. -/
inductive Access where
  | start
  | value (key : String) (defaultValue : Variant)
  | setValue (key : String) (value : Variant)

def access (env : SettingsEnvironment qt) (t : Tracked) : Access → Tracked
  | .start => { t with store := t.store.start env }
  | .value key defaultValue => { t with store := (t.store.value env key defaultValue).2 }
  | .setValue key value =>
    { store := t.store.setValue env key value
      written :=
        if t.store.tookEffect env key then Function.update t.written key (some value) else t.written }

/-- No encryption throws during the access, and no keychain read fails during it if something encrypted
is stored. -/
def Undisturbed (env : SettingsEnvironment qt) (t : Tracked) (a : Access) : Prop :=
  (HoldsEncrypted t.store →
      ReadsSucceed env t.store.keychainReads (access env t a).store.keychainReads) ∧
    EncryptionsSucceed env t.store.encryptions (access env t a).store.encryptions

theorem access_steady (t : Tracked) (a : Access) : Steady env t.store (access env t a).store := by
  cases a with
  | start => exact start_steady t.store
  | value key defaultValue => exact (value_frame env key defaultValue t.store).2.2
  | setValue key value => exact setValue_steady env key value t.store

theorem access_faithful (henc : env.encryptionRequired = true) (h : Faithful env t) {a : Access}
    (hok : Undisturbed env t a) : Faithful env (access env t a) := by
  obtain ⟨hreads, hthrows⟩ := hok
  cases a with
  | start => exact h.start hreads hthrows
  | value key defaultValue => exact (h.value key defaultValue hreads).1
  | setValue key value =>
    change HoldsEncrypted t.store →
      ReadsSucceed env t.store.keychainReads (t.store.setValue env key value).keychainReads at hreads
    change EncryptionsSucceed env t.store.encryptions (t.store.setValue env key value).encryptions at hthrows
    unfold access
    dsimp only
    by_cases hkey : key ∈ encryptedKeys
    · have hstore : t.store.setValue env key value = t.store.encryptValue env key value := if_pos ⟨henc, hkey⟩
      have htook : t.store.tookEffect env key = ((t.store.keysAvailable env).1 &&
          !env.encryptionThrows (t.store.keysAvailable env).2.encryptions) := if_pos ⟨henc, hkey⟩
      rw [hstore] at hreads hthrows ⊢
      rw [htook]
      rcases h.encryptValue value hreads hthrows with ⟨havailable, hkept⟩ | ⟨havailable, hthrow, hwritten⟩
      · rw [havailable, Bool.false_and, if_neg Bool.false_ne_true]
        exact hkept
      · rw [havailable, hthrow, Bool.not_false, Bool.and_self, if_pos rfl]
        refine hwritten _ (fun key' hne => update_of_ne hne _ _) fun v hv => ?_
        rw [update_self] at hv
        exact (Option.some.inj hv).symm
    · have hplain : ¬ (env.encryptionRequired = true ∧ key ∈ encryptedKeys) := fun hc => hkey hc.2
      have htook : t.store.tookEffect env key = true := if_neg hplain
      rw [setValue, if_neg hplain, htook, if_pos rfl]
      refine h.writeFile hkey value ?_ ?_ ?_ (fun key' hne => ?_) fun key' hne => update_of_ne hne _ _
      · rfl
      · rfl
      · rfl
      · exact update_of_ne hne _ _

/-- The file and the keychain before any process; what the file has in plain text counts as written. -/
def installed (settings : AList fun _ : String => Variant) (keychain : SecTag → List UInt8) : Tracked where
  store :=
    { settings, keychain, cache := fun _ => none, loaded := fun _ => [], saltsDrawn := 0, keychainReads := 0,
      encryptions := 0 }
  written key := (settings.lookup key).filter fun v => encryptedPart v = none

theorem installed_faithful (settings : AList fun _ : String => Variant) (keychain : SecTag → List UInt8) :
    Faithful env (installed settings keychain) := by
  refine ⟨fun _ => Or.inl rfl, fun key _ v hv => Or.inl ?_, fun _ _ _ _ => Or.inl rfl⟩
  rw [installed, Option.filter_eq_some_iff] at hv
  exact ⟨hv.1, of_decide_eq_true hv.2⟩

/-- An encrypted value that is still readable needs both entries of the keychain. -/
theorem Faithful.keychain_ne_nil (h : Faithful env t) (hkey : key ∈ encryptedKeys) (hv : t.written key = some v)
    (hholds : HoldsEncrypted t.store) (tag : SecTag) : t.store.keychain tag ≠ [] := by
  rcases h.stored key hkey v hv with ⟨hplain, hnone⟩ | ⟨-, hsecrets⟩
  · obtain ⟨key', hkey', stored, hlookup, hpart⟩ := hholds
    rw [List.mem_singleton.mp hkey', ← List.mem_singleton.mp hkey, hplain, Option.some.injEq] at hlookup
    exact absurd (hlookup ▸ hnone) hpart
  · exact hsecrets tag

/-- **What survives the faults.** With encryption required, take any run of process starts, reads and writes
from any installed file and keychain in which no encryption throws and no keychain read fails while something
encrypted is stored. In every state reached, reading an encrypted key returns the last value written to it,
as long as the keychain reads of that call succeed, and no undisturbed access replaces the secrets under
which something is stored. -/
theorem written_survives_undisturbed_run (qt : Qt) (env : SettingsEnvironment qt)
    (henc : env.encryptionRequired = true)
    (settings : AList fun _ : String => Variant) (keychain : SecTag → List UInt8) (accesses : List Access)
    (t : Tracked) (hrun : run (fun t a => some (access env t a)) (installed settings keychain) accesses = some t)
    (hmeets : Meets (fun t a => some (access env t a)) (Undisturbed env) (installed settings keychain) accesses)
    (key : String) (hkey : key ∈ encryptedKeys) (v : Variant) (hv : t.written key = some v) :
    (∀ defaultValue,
      ReadsSucceed env t.store.keychainReads (t.store.value env key defaultValue).2.keychainReads →
        (t.store.value env key defaultValue).1 = v) ∧
      (HoldsEncrypted t.store → ∀ a, Undisturbed env t a →
        (access env t a).store.keychain = t.store.keychain) := by
  have hfaithful : Faithful env t := by
    refine run_invariant_of_meets (fun s a s' hs hok hstep => ?_) (installed_faithful settings keychain) hmeets hrun
    cases hstep
    exact access_faithful henc hs hok
  refine ⟨fun defaultValue hreads => ?_, fun hholds a hok => ?_⟩
  · exact (hfaithful.value key defaultValue fun _ => hreads).2 hkey v hv
  · exact (access_steady t a).keychain_eq (hok.1 hholds) (hfaithful.keychain_ne_nil hkey hv hholds)

theorem meets_of_no_faults (hreads : ∀ n, env.keychainReadFails n = false)
    (hthrows : ∀ n, env.encryptionThrows n = false) (t : Tracked) (accesses : List Access) :
    Meets (fun t a => some (access env t a)) (Undisturbed env) t accesses := by
  induction accesses generalizing t with
  | nil =>
    trivial
  | cons a accesses ih =>
    exact ⟨⟨fun _ n _ _ => hreads n, fun n _ _ => hthrows n⟩, fun s _ => ih s⟩

def writtenAndRestarted (env : SettingsEnvironment qt) : Tracked :=
  [.start, .setValue "Servers/serversList" (.byteArray [91, 93]), .start].foldl (access env)
    (installed ∅ fun _ => [])

theorem written_survives_restart :
    let env := environment .macos (fun _ => false) (fun _ => false)
    ((writtenAndRestarted env).store.value env "Servers/serversList" .invalid).1 = .byteArray [91, 93] :=
  let env := environment .macos (fun _ => false) (fun _ => false)
  (written_survives_undisturbed_run qt env rfl ∅ (fun _ => [])
    [.start, .setValue "Servers/serversList" (.byteArray [91, 93]), .start] (writtenAndRestarted env) rfl
    (meets_of_no_faults (fun _ => rfl) (fun _ => rfl) _ _) "Servers/serversList" (by decide) (.byteArray [91, 93])
    (by decide)).1 .invalid fun _ _ _ => rfl

/-- One failed read of the key in the second process: the list written in the first is gone in the third,
where every read succeeds. -/
theorem failed_keychain_read_loses_list :
    let env := environment .macos (fun n => n == 4) (fun _ => false)
    let first := writtenAndRestarted env
    let third := [.value "Servers/serversList" .invalid, .start].foldl (access env) first
    first.store.keychainReads = 4 ∧ third.store.keychainReads = 7 ∧
      third.written "Servers/serversList" = some (.byteArray [91, 93]) ∧
      (third.store.value env "Servers/serversList" .invalid).1 = .invalid := by
  decide

end FreshVpn.SecureQSettings
