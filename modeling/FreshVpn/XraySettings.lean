import Mathlib.Data.String.Basic
import FreshVpn.InstallUpdate
import FreshVpn.XrayProfile

/-! The settings of an Xray server on their two ways: into the stored configuration and back, after which the settings
page compares them, and into the first inbound of the server. -/

namespace FreshVpn

open JsonObject

/-! ### Settings that are stored and read back -/

mutual

theorem Json.same_self : ∀ json : Json, Json.same json json = true
  | .null => rfl
  | .bool _ => by simp [Json.same]
  | .double _ => by simp [Json.same]
  | .string _ => by simp [Json.same]
  | .array elements => Json.sameElements_self elements
  | .object members => Json.sameMembers_self members

theorem Json.sameElements_self : ∀ elements : List Json, Json.sameElements elements elements = true
  | [] => rfl
  | element :: elements => by simp [Json.sameElements, Json.same_self element, Json.sameElements_self elements]

theorem Json.sameMembers_self : ∀ members : List (String × Json), Json.sameMembers members members = true
  | [] => rfl
  | (_, value) :: members => by simp [Json.sameMembers, Json.same_self value, Json.sameMembers_self members]

end

/-- A field of Xray's settings that is read back as it was written: a text with a default must not be empty. -/
def FieldKind.isFilled : FieldKind → FieldValue → Bool
  | .textOr _, v => v.asText ≠ ""
  | .text, _ | .flag _, _ | .flagAlways _, _ | .flagPresent _, _ => true
  | _, _ => false

theorem FieldKind.settled_of_filled {kind : FieldKind} {v : FieldValue} (hfilled : kind.isFilled v = true) :
    kind.field.Settled v := by
  cases kind with
  | text => exact settled_text v
  | textOr defaultValue =>
    have hne := of_decide_eq_true hfilled
    exact settled_of_some (if_neg hne) (if_neg hne)
  | flag defaultValue => exact settled_flag defaultValue v.asFlag
  | flagAlways | flagPresent => rfl
  | _ => cases hfilled

namespace FieldTable

variable {table : FieldTable} {record : Record}

def Filled (table : FieldTable) (record : Record) : Prop :=
  ∀ entry ∈ table.entries, entry.2.isFilled (record entry.1) = true

instance : Decidable (table.Filled record) := List.decidableBAll ..

theorem Filled.alike (h : table.Filled record) {json : JsonObject}
    (hsame : ∀ entry ∈ table.entries, json.value entry.1 = (table.toJson record).value entry.1) :
    table.Alike (table.fromJson json) record :=
  Settled.write_fromJson (fun entry hmem => FieldKind.settled_of_filled (h entry hmem)) hsame

end FieldTable

namespace XrayXhttpConfig

/-- No text of the nested settings is empty that would be read back as a default. -/
structure Filled (c : XrayXhttpConfig) : Prop where
  xPadding : XrayXPaddingConfig.fields.Filled c.xPadding
  xmux : XrayXmuxConfig.fields.Filled c.xmux

variable {c : XrayXhttpConfig}

theorem value_xmux_toJson : c.toJson.value "xmux" = some (.object (XrayXmuxConfig.fields.toJson c.xmux)) :=
  value_insert_self ..

theorem value_xPadding_toJson :
    c.toJson.value "xPadding" = some (.object (XrayXPaddingConfig.fields.toJson c.xPadding)) := by
  rw [toJson, value_insert_of_ne _ (by decide), value_insert_self]

theorem toJson_ne_nil : c.toJson ≠ [] := by
  intro hnil
  have h := value_xmux_toJson (c := c)
  rw [hnil] at h
  cases h

theorem Filled.toJson_fromJson (h : c.Filled) : (fromJson c.toJson).toJson = c.toJson := by
  have hmembers : fields.Alike (fromJson c.toJson).members c.members := by
    refine FieldTable.Filled.alike (by simp [FieldTable.Filled, fields, FieldKind.isFilled]) fun entry hmem => ?_
    have hne : entry.1 ≠ "xmux" ∧ entry.1 ≠ "xPadding" := by
      revert entry
      decide
    rw [toJson, value_insert_of_ne _ hne.1, value_insert_of_ne _ hne.2]
  have hpadding : XrayXPaddingConfig.fields.Alike (fromJson c.toJson).xPadding c.xPadding := by
    simp only [fromJson, contains, value_xPadding_toJson, Option.isSome_some, if_true]
    exact h.xPadding.alike fun _ _ => rfl
  have hxmux : XrayXmuxConfig.fields.Alike (fromJson c.toJson).xmux c.xmux := by
    simp only [fromJson, contains, value_xmux_toJson, Option.isSome_some, if_true]
    exact h.xmux.alike fun _ _ => rfl
  rw [toJson, hmembers.toJson_eq, hpadding.toJson_eq, hxmux.toJson_eq]
  rfl

end XrayXhttpConfig

namespace XrayServerConfig

variable (c : XrayServerConfig)

theorem mkcp_toJson_ne_nil : XrayMkcpConfig.fields.toJson c.mkcp ≠ [] := by
  intro hnil
  have hmem : ("mkcp_congestion", .flagPresent true) ∈ XrayMkcpConfig.fields.entries := by simp [XrayMkcpConfig.fields]
  have h := FieldTable.value_toJson hmem c.mkcp
  rw [hnil] at h
  cases h

theorem toJson_eq : c.toJson = ((fields.toJson c.members).insert "xhttp" (.object c.xhttp.toJson)).insert "mkcp"
    (.object (XrayMkcpConfig.fields.toJson c.mkcp)) := by
  simp only [toJson, if_neg c.mkcp_toJson_ne_nil, if_neg XrayXhttpConfig.toJson_ne_nil]

theorem xhttp_fromJson_toJson : (fromJson c.toJson).xhttp = XrayXhttpConfig.fromJson c.xhttp.toJson := by
  have hvalue : Json.toObject (c.toJson.value "xhttp") = c.xhttp.toJson := by
    rw [toJson_eq, value_insert_of_ne _ (by decide), value_insert_self]
    rfl
  simp only [fromJson, hvalue, if_neg XrayXhttpConfig.toJson_ne_nil]

theorem mkcp_fromJson_toJson : XrayMkcpConfig.fields.Alike (fromJson c.toJson).mkcp c.mkcp := by
  have hvalue : Json.toObject (c.toJson.value "mkcp") = XrayMkcpConfig.fields.toJson c.mkcp := by
    rw [toJson_eq, value_insert_self]
    rfl
  simp only [fromJson, hvalue, if_neg c.mkcp_toJson_ne_nil]
  exact FieldTable.Filled.alike (by simp [FieldTable.Filled, XrayMkcpConfig.fields, FieldKind.isFilled])
    fun _ _ => rfl

theorem members_fromJson_toJson : fields.Alike (fields.fromJson c.toJson) c.members := by
  refine FieldTable.Filled.alike (by simp [FieldTable.Filled, fields, FieldKind.isFilled]) fun entry hmem => ?_
  have hne : entry.1 ≠ "xhttp" ∧ entry.1 ≠ "mkcp" := by
    revert entry
    decide
  exact c.value_toJson hne.1 hne.2

theorem member_fromJson_toJson {key : String} (hmem : (key, .text) ∈ fields.entries) :
    ((fromJson c.toJson).members key).asText =
      if key = "xray_fingerprint" then fingerprintOf (c.member key) else (c.members key).asText := by
  have htext := c.members_fromJson_toJson.asText_eq hmem
  unfold fromJson
  dsimp only
  split_ifs with hkey
  · subst hkey
    rw [Function.update_self, htext]
    rfl
  · rw [Function.update_of_ne hkey, htext]

theorem fingerprintOf_eq_iff (fingerprint : String) :
    fingerprintOf fingerprint = fingerprint ↔ containsTextInsensitive fingerprint "Mozilla/5.0" = false := by
  unfold fingerprintOf
  split_ifs with hold
  · rw [hold]
    refine iff_of_false (fun heq => ?_) (by decide)
    rw [← heq] at hold
    revert hold
    decide +kernel
  · exact iff_of_true rfl (Bool.eq_false_iff.mpr hold)

def pageSettings (fingerprint xPaddingKey : String) : XrayServerConfig where
  members
    | "port" => .text "443"
    | "xray_fingerprint" => .text fingerprint
    | _ => .text ""
  xhttp :=
    { XrayXhttpConfig.empty with
      xPadding := Function.update XrayXPaddingConfig.empty "xpadding_key" (.text xPaddingKey) }
  mkcp := XrayMkcpConfig.empty

/-- **Saved settings are read back as saved.** If no text of the nested settings is empty that would be read as a
default, the settings read back are equal to those that were saved, except that a user agent in the place of the
fingerprint is replaced. -/
theorem saved_settings_read_back (hfilled : c.xhttp.Filled) :
    (fromJson c.toJson).hasEqualServerSettings c = true ↔
      containsTextInsensitive (c.member "xray_fingerprint") "Mozilla/5.0" = false := by
  have hxhttp : (fromJson c.toJson).xhttp.toJson = c.xhttp.toJson := by
    rw [xhttp_fromJson_toJson, hfilled.toJson_fromJson]
  rw [hasEqualServerSettings, hxhttp, c.mkcp_fromJson_toJson.toJson_eq, Json.sameMembers_self, Json.sameMembers_self,
    Bool.and_true, Bool.and_true, ← fingerprintOf_eq_iff, sameTexts, List.all_eq_true]
  constructor
  · intro h
    have hfingerprint := h "xray_fingerprint" (by simp)
    rwa [decide_eq_true_eq, c.member_fromJson_toJson (by simp [fields]), if_pos rfl] at hfingerprint
  · intro hfingerprint key hkey
    have hmem : (key, FieldKind.text) ∈ fields.entries := by
      simp only [List.mem_cons, List.not_mem_nil, or_false] at hkey
      rcases hkey with rfl | rfl | rfl | rfl | rfl | rfl | rfl | rfl <;> simp [fields]
    rw [decide_eq_true_eq, c.member_fromJson_toJson hmem]
    split_ifs with heq
    · rw [heq]
      exact hfingerprint
    · rfl

theorem page_settings_read_back :
    (fromJson (pageSettings "chrome" "k").toJson).hasEqualServerSettings (pageSettings "chrome" "k") = true :=
  (saved_settings_read_back _ ⟨by decide +kernel, by decide +kernel⟩).mpr (by decide +kernel)

/-- A user agent is replaced, and an empty key of the padding becomes the default one. -/
theorem page_settings_changed :
    (pageSettings "mozilla/5.0 (X11)" "k").xhttp.Filled ∧
    (fromJson (pageSettings "mozilla/5.0 (X11)" "k").toJson).hasEqualServerSettings
      (pageSettings "mozilla/5.0 (X11)" "k") = false ∧
    (fromJson (pageSettings "chrome" "").toJson).hasEqualServerSettings (pageSettings "chrome" "") = false :=
  ⟨⟨by decide +kernel, by decide +kernel⟩, by decide +kernel, by decide +kernel⟩

end XrayServerConfig

/-! ### Settings that are written to the server -/

namespace JsonObject

variable {object : JsonObject} {key key' : String} {json json' : Json}

section
variable {k : String} (v : Json) (rest : JsonObject) (json : Json)

theorem insert_cons_self : insert ((key, v) :: rest) key json = (key, json) :: rest := by
  rw [insert, if_pos rfl]

theorem insert_cons_of_lt (h : key < k) : insert ((k, v) :: rest) key json = (key, json) :: (k, v) :: rest := by
  rw [insert, if_neg h.ne, if_pos h]

theorem insert_cons_of_gt (h : k < key) : insert ((k, v) :: rest) key json = (k, v) :: insert rest key json := by
  rw [insert, if_neg h.ne', if_neg h.not_gt]

end

theorem insert_insert_self (object : JsonObject) (key : String) (json json' : Json) :
    (object.insert key json).insert key json' = object.insert key json' := by
  induction object with
  | nil => exact insert_cons_self ..
  | cons member rest ih =>
    obtain ⟨k, v⟩ := member
    rcases lt_trichotomy key k with hlt | rfl | hgt
    · simp only [insert_cons_of_lt _ _ _ hlt, insert_cons_self]
    · simp only [insert_cons_self]
    · simp only [insert_cons_of_gt _ _ _ hgt, ih]

theorem insert_comm_of_lt (object : JsonObject) (hlt : key < key') (json json' : Json) :
    (object.insert key json).insert key' json' = (object.insert key' json').insert key json := by
  induction object with
  | nil =>
    rw [insert, insert, insert_cons_of_gt _ _ _ hlt, insert_cons_of_lt _ _ _ hlt]
    rfl
  | cons member rest ih =>
    obtain ⟨k, v⟩ := member
    rcases lt_trichotomy key k with hk | rfl | hk
    · rw [insert_cons_of_lt _ _ _ hk, insert_cons_of_gt _ _ _ hlt]
      rcases lt_trichotomy key' k with hk' | rfl | hk'
      · rw [insert_cons_of_lt _ _ _ hk', insert_cons_of_lt _ _ _ hlt]
      · rw [insert_cons_self, insert_cons_of_lt _ _ _ hk]
      · rw [insert_cons_of_gt _ _ _ hk', insert_cons_of_lt _ _ _ hk]
    · rw [insert_cons_self, insert_cons_of_gt _ _ _ hlt, insert_cons_of_gt _ _ _ hlt, insert_cons_self]
    · have hk' := hk.trans hlt
      rw [insert_cons_of_gt _ _ _ hk, insert_cons_of_gt _ _ _ hk', insert_cons_of_gt _ _ _ hk',
        insert_cons_of_gt _ _ _ hk, ih]

/-- Inserting the member changes nothing. -/
def Holds (object : JsonObject) (key : String) (json : Json) : Prop := object.insert key json = object

theorem holds_insert_self (object : JsonObject) (key : String) (json : Json) :
    (object.insert key json).Holds key json :=
  insert_insert_self object key json json

theorem Holds.insert (h : object.Holds key json) (hne : key ≠ key') (json' : Json) :
    (object.insert key' json').Holds key json := by
  rw [Holds]
  rcases lt_or_gt_of_ne hne with hlt | hgt
  · rw [← insert_comm_of_lt object hlt, h]
  · rw [insert_comm_of_lt object hgt, h]

end JsonObject

namespace XrayConfigurator

variable {srv : XrayServerConfig} {uuid clientId : String}

theorem withFlow_withFlow (flow : String) (client : JsonObject) :
    withFlow flow (withFlow flow client) = withFlow flow client := by
  unfold withFlow
  split_ifs
  · exact remove_remove client "flow"
  · exact insert_insert_self client "flow" _ _

theorem mergeRealitySettings_holds (srv : XrayServerConfig) (newRs oldRs : JsonObject) :
    (∀ fingerprint, newRs.value "fingerprint" = some fingerprint →
      (mergeRealitySettings srv newRs oldRs).Holds "fingerprint" fingerprint) ∧
    (mergeRealitySettings srv newRs oldRs).Holds "serverNames" (.array [.string (orDefault (srv.member "xray_sni")
      (orDefault (srv.member "site") "www.googletagmanager.com"))]) ∧
    (mergeRealitySettings srv newRs oldRs).contains "dest" = true := by
  unfold mergeRealitySettings
  dsimp only
  generalize (if oldRs = [] then newRs else oldRs) = merged
  split_ifs with hdest
  · refine ⟨fun fingerprint hvalue => ?_, holds_insert_self .., hdest⟩
    rw [hvalue]
    exact (holds_insert_self ..).insert (by decide) _
  · refine ⟨fun fingerprint hvalue => ?_, (holds_insert_self ..).insert (by decide) _, ?_⟩
    · rw [hvalue]
      exact ((holds_insert_self ..).insert (by decide) _).insert (by decide) _
    · rw [contains, value_insert_self]
      rfl

theorem mergeRealitySettings_idem (srv : XrayServerConfig) (newRs oldRs : JsonObject) :
    mergeRealitySettings srv newRs (mergeRealitySettings srv newRs oldRs) = mergeRealitySettings srv newRs oldRs := by
  obtain ⟨hfingerprint, hnames, hdest⟩ := mergeRealitySettings_holds srv newRs oldRs
  generalize mergeRealitySettings srv newRs oldRs = merged at hfingerprint hnames hdest ⊢
  have hne : merged ≠ [] := by
    rintro rfl
    cases hdest
  have hnames : merged.insert "serverNames" _ = merged := hnames
  unfold mergeRealitySettings
  cases hvalue : newRs.value "fingerprint" with
  | none => simp only [if_neg hne, hnames, hdest, if_true]
  | some fingerprint =>
    have hinsert : merged.insert "fingerprint" fingerprint = merged := hfingerprint fingerprint hvalue
    simp only [if_neg hne, hinsert, hnames, hdest, if_true]

theorem mergeStreamSettings_idem (srv : XrayServerConfig) (existing : JsonObject) :
    mergeStreamSettingsForServerInbound srv (mergeStreamSettingsForServerInbound srv existing) =
      mergeStreamSettingsForServerInbound srv existing := by
  by_cases hreality : srv.member "xray_security" = "reality"
  · have hvalue := realityOf_merged hreality existing
    unfold mergeStreamSettingsForServerInbound at hvalue ⊢
    rw [if_neg (not_not.mpr hreality)] at hvalue ⊢
    rw [if_neg (not_not.mpr hreality), hvalue, XrayStream.value_realitySettings, if_pos hreality]
    exact congrArg _ (congrArg _ (mergeRealitySettings_idem ..))
  · unfold mergeStreamSettingsForServerInbound
    rw [if_pos hreality, if_pos hreality]

variable {appendNewClient : Bool} {inbound inbound' : JsonObject}

/-- What a call writes into the inbound is there afterwards. -/
theorem inboundWithSettings_self (settings : Json) :
    inboundWithSettings srv ((inboundWithSettings srv inbound).insert "settings" settings) =
      (inboundWithSettings srv inbound).insert "settings" settings := by
  have hstream : Json.toObject (((inboundWithSettings srv inbound).insert "settings" settings).value "streamSettings") =
      mergeStreamSettingsForServerInbound srv (Json.toObject (inbound.value "streamSettings")) := by
    rw [value_insert_of_ne _ (by decide), value_streamSettings_inboundWithSettings]
    rfl
  rw [inboundWithSettings, hstream, mergeStreamSettings_idem]
  unfold inboundWithSettings
  split_ifs with hport
  · exact (holds_insert_self ..).insert (by decide) _
  · rw [((holds_insert_self ..).insert (by decide) _ |>.insert (by decide) _ :
      (insert _ "settings" settings).Holds "streamSettings" _)]
    exact (holds_insert_self ..).insert (by decide) _

theorem updatedClients_again {clients clients' : List Json} (uuid' : String)
    (h : updatedClients srv false uuid clients = .ok (clients', clientId)) :
    updatedClients srv false uuid' clients' = .ok (clients', clientId) := by
  cases clients with
  | nil => cases h
  | cons first others =>
    simp only [updatedClients, Bool.false_eq_true, if_false] at h
    split_ifs at h with hid
    cases h
    simp [updatedClients, value_id_withFlow, hid, withFlow_withFlow]

theorem updatedInbound_again (uuid' : String) (h : updatedInbound srv false uuid inbound = .ok (inbound', clientId)) :
    updatedInbound srv false uuid' inbound' = .ok (inbound', clientId) := by
  unfold updatedInbound at h
  split_ifs at h
  dsimp only at h
  split at h
  next => cases h
  next clients clientId' hclients =>
    cases h
    simp only [updatedInbound, inboundWithSettings_self, contains, value_insert_self,
      Option.isSome_some, Bool.not_true, Bool.false_eq_true, if_false, Json.toObject_object, Json.toArray_array,
      updatedClients_again uuid' hclients, insert_insert_self]

theorem updatedServerConfig_again {serverConfig serverConfig' : JsonObject} (uuid' : String)
    (h : updatedServerConfig srv false uuid serverConfig = .ok (serverConfig', clientId)) :
    updatedServerConfig srv false uuid' serverConfig' = .ok (serverConfig', clientId) := by
  unfold updatedServerConfig at h
  split_ifs at h
  split at h
  next => cases h
  next first others hcons =>
    split at h
    next => cases h
    next inbound clientId' hinbound =>
      cases h
      simp only [updatedServerConfig, contains, value_insert_self, Option.isSome_some,
        Bool.not_true, Bool.false_eq_true, if_false, Json.toObject_object, Json.toArray_array,
        updatedInbound_again uuid' hinbound, insert_insert_self]

/-- The clients that a call leaves, and what it leaves as it is. -/
structure Updates (added : List String) (server server' : XrayServer) : Prop where
  clientIds : server'.clientIds = server.clientIds ++ added
  others : ∃ serverConfig serverConfig', server.serverJson = some serverConfig ∧
    server'.serverJson = some serverConfig' ∧
    (Json.toArray (serverConfig'.value "inbounds")).tail = (Json.toArray (serverConfig.value "inbounds")).tail ∧
    ∀ key, key ≠ "inbounds" → serverConfig'.value key = serverConfig.value key

variable {server server' : XrayServer} {c : XrayProtocolConfig}

theorem Writes.updates (h : Writes srv appendNewClient uuid clientId server server') :
    Updates (if appendNewClient then [uuid] else []) server server' := by
  obtain ⟨serverConfig, serverConfig', hjson, hupdated, rfl⟩ := h
  refine ⟨?_, serverConfig, serverConfig', hjson, rfl, ?_⟩
  · rw [XrayServer.clientIds, XrayServer.clientIds, hjson]
    exact clientIds_of_updatedInbound (updatedServerConfig_eq_ok hupdated)
  · unfold updatedServerConfig at hupdated
    split_ifs at hupdated
    split at hupdated
    next => cases hupdated
    next first others hcons =>
      split at hupdated
      next => cases hupdated
      next inbound clientId' hinbound =>
        cases hupdated
        refine ⟨?_, fun key hkey => value_insert_of_ne _ hkey _⟩
        rw [value_insert_self, hcons]
        rfl

/-- A second call with the same settings leaves the server as the first one has left it. -/
theorem Writes.again {text : JsonText} (h : Writes c.serverConfig false uuid clientId server server')
    (hostName : String) (answers : XrayAnswers) :
    (applyServerSettingsToRemote text hostName server' answers (some c) false).server = server' := by
  obtain ⟨serverConfig, serverConfig', -, hupdated, rfl⟩ := h
  rcases applyServerSettingsToRemote_cases text hostName { server with serverJson := some serverConfig' } answers c
    false with ⟨hsame, -⟩ | ⟨clientId', ⟨_, serverConfig'', hjson, hagain, hserver⟩, -⟩
  · exact hsame
  · cases hjson
    rw [updatedServerConfig_again answers.uuid hupdated] at hagain
    cases hagain
    exact hserver

/-- What a call has done that has written the settings. -/
theorem Writes.kept (h : Writes c.serverConfig appendNewClient uuid clientId server server') (text : JsonText) :
    Updates (if appendNewClient then [uuid] else []) server server' ∧
      (appendNewClient = false → ∀ hostName answers,
        (applyServerSettingsToRemote text hostName server' answers (some c) false).server = server') := by
  refine ⟨h.updates, ?_⟩
  rintro rfl
  exact h.again

/-- **A change of the settings keeps the clients.** A call leaves the server as it is, which it does only if it fails
or the settings are those of a third party; or it keeps the ids of the clients in their order, and adds one if it is
to append one, keeps the other inbounds and the other sections, and, if it appends no client, a second call with the
same settings changes nothing. -/
theorem settings_keep_clients (text : JsonText) (hostName : String) (server : XrayServer) (answers : XrayAnswers)
    (c : XrayProtocolConfig) (appendNewClient : Bool) :
    let applied := applyServerSettingsToRemote text hostName server answers (some c) appendNewClient
    (applied.server = server ∧
      ((c.serverConfig.members ConfigKey.isThirdPartyConfig).asFlag = true ∨ applied.errorCode ≠ .noError)) ∨
    (Updates (if appendNewClient then [answers.uuid] else []) server applied.server ∧
      (appendNewClient = false → ∀ hostName' answers',
        (applyServerSettingsToRemote text hostName' applied.server answers' (some c) false).server =
          applied.server)) := by
  intro applied
  rcases applyServerSettingsToRemote_cases text hostName server answers c appendNewClient with
    ⟨hsame, -⟩ | ⟨clientId, hwrites, -⟩
  · by_cases hthird : (c.serverConfig.members ConfigKey.isThirdPartyConfig).asFlag = true
    · exact Or.inl ⟨hsame, Or.inl hthird⟩
    by_cases hsuccess : applied.errorCode = .noError
    · obtain ⟨clientId, -, -, hwrites, -⟩ := built_of_noError (Bool.eq_false_iff.mpr hthird) hsuccess
      exact Or.inr (hwrites.kept text)
    · exact Or.inl ⟨hsame, Or.inr hsuccess⟩
  · exact Or.inr (hwrites.kept text)

/-- A new client is not added for the settings of a third party, although the call succeeds. -/
theorem third_party_client_not_added : let settings : XrayServerConfig :=
      { newServerSettings with members := Function.update newServerSettings.members "isThirdPartyConfig" (.flag true) }
    let applied := applyServerSettingsToRemote .tokens "203.0.113.7" newServer (.success newClientId)
      (some ⟨settings, none, false⟩) true
    applied.errorCode = .noError ∧ applied.server.clientIds = newServer.clientIds := by
  decide +kernel

end XrayConfigurator

end FreshVpn
