import FreshVpn.JsonDocument
import FreshVpn.LibraryStream
import FreshVpn.SubscriptionRefresh

/-! The key of a subscription (`apiUtils::getPremiumV2VpnKey`, `SubscriptionController::prepareVpnKeyExport`). -/

namespace FreshVpn

open Run QJsonDocument Json ConfigKey ServerEdit

/-! ### The text of a key -/

namespace ApiUtils

def configSignature : List UInt8 := [0, 0, 0, 0xff]

/-- One `QChar` of `escapeUnicode`: four hexadecimal digits, or the character itself. -/
def escapeUnit (u : ℕ) : List Char :=
  if u < 0x20 ∨ 0x7e < u then
    ['\\', 'u', hexDigit (u / 4096), hexDigit (u / 256 % 16), hexDigit (u / 16 % 16), hexDigit (u % 16)]
  else [Char.ofNat u]

def escapeChars (input : List Char) : List Char := (Utf16.encode input).flatMap escapeUnit

def escapeUnicode (input : String) : String := String.ofList (escapeChars input.toList)

/-- What a key says about its server. -/
structure KeyFields where
  name : String
  description : String
  configVersion : Int
  serviceType : String
  serviceProtocol : String
  userCountryCode : String
  apiKey : String

/-- `static_cast<int>(value.toDouble())`. -/
def toDoubleAsInt : Option Json → Int
  | some (.double q) => q.num.tdiv q.den
  | _ => 0

def KeyFields.fromJson (serverConfigObject : JsonObject) : KeyFields :=
  let apiConfig := Json.toObject (serverConfigObject.value ConfigKey.apiConfig)
  let authData := Json.toObject (serverConfigObject.value "auth_data")
  { name := Json.toString (serverConfigObject.value "name")
    description := Json.toString (serverConfigObject.value "description")
    configVersion := toDoubleAsInt (serverConfigObject.value ConfigKey.configVersion)
    serviceType := Json.toString (apiConfig.value ConfigKey.serviceType)
    serviceProtocol := Json.toString (apiConfig.value "service_protocol")
    userCountryCode := Json.toString (apiConfig.value "user_country_code")
    apiKey := Json.toString (authData.value "api_key") }

def KeyFields.vpnKeyStr (fields : KeyFields) : String :=
  "\x7b" ++
  ("\"name\": \"" ++ fields.name ++ "\", ") ++
  ("\"description\": \"" ++ fields.description ++ "\", ") ++
  ("\"config_version\": " ++ toString fields.configVersion ++ ", ") ++
  "\"api_config\": \x7b" ++
  ("\"service_type\": \"" ++ fields.serviceType ++ "\", ") ++
  ("\"service_protocol\": \"" ++ fields.serviceProtocol ++ "\", ") ++
  ("\"user_country_code\": \"" ++ fields.userCountryCode ++ "\"") ++
  "\x7d, " ++
  "\"auth_data\": \x7b" ++
  ("\"api_key\": \"" ++ fields.apiKey ++ "\"") ++
  "\x7d" ++
  "\x7d"

end ApiUtils

/-- What Qt does with the bytes of a key. Texts in ASCII are their own bytes, and compression loses nothing: the length
in front of the compressed data is a hint. -/
structure KeyEnvironment where
  toUtf8 : String → List UInt8
  fromUtf8 : List UInt8 → String
  qCompress : List UInt8 → List UInt8
  qUncompress : List UInt8 → List UInt8
  fromUtf8_nil : fromUtf8 [] = ""
  fromUtf8_toUtf8 : ∀ text : String, (∀ c ∈ text.toList, c.toNat < 0x80) → fromUtf8 (toUtf8 text) = text
  qUncompress_signed : ∀ data, qUncompress (ApiUtils.configSignature ++ (qCompress data).drop 4) = data

namespace ApiUtils

variable (env : KeyEnvironment)

/-- The text of a key, packed. -/
def packKey (vpnKeyStr : String) : String :=
  let vpnKeyCompressed := (env.qCompress (env.toUtf8 (escapeUnicode vpnKeyStr))).drop 4
  "vpn://" ++ String.ofList (Base64.encodePadded (configSignature ++ vpnKeyCompressed))

def getPremiumV2VpnKey (endpoints : ApiEndpoints) (serverConfigObject : JsonObject) : String :=
  let configType := configTypeFromJson endpoints serverConfigObject
  if configType ≠ .amneziaPremiumV2 ∧ configType ≠ .externalPremium then ""
  else packKey env (KeyFields.fromJson serverConfigObject).vpnKeyStr

end ApiUtils

def ImportController.unpackKey (env : KeyEnvironment) (data : String) : String :=
  let config := replaceText data "vpn://" ""
  let ba := Base64.decode config.toList
  let ba := if env.qUncompress ba ≠ [] then env.qUncompress ba else ba
  env.fromUtf8 ba

/-- `QJsonDocument::fromJson(config.toUtf8())` of this text. -/
def ImportController.decodeKey (env : KeyEnvironment) (data : String) : Option Json :=
  fromJson (env.fromUtf8 (env.toUtf8 (unpackKey env data))).toList

namespace SubscriptionController

variable (env : KeyEnvironment) (text : JsonText) (endpoints : ApiEndpoints)

def storedKey (apiV2 : ApiV2Model) : String := (apiV2.apiConfig.plain "vpn_key").asText

def vpnKey (apiV2 : ApiV2Model) : String :=
  if storedKey apiV2 ≠ "" then storedKey apiV2 else ApiUtils.getPremiumV2VpnKey env endpoints (apiV2.toJson text)

def prepareVpnKeyExport (r : SecureServersRepository) (serverId : String) :
    ErrorCode × String × SecureServersRepository :=
  match apiV2Config text endpoints r serverId with
  | none => (.apiConfigEmptyError, "", r)
  | some apiV2 =>
    if vpnKey env text endpoints apiV2 = "" then
      let key := ApiUtils.getPremiumV2VpnKey env endpoints (apiV2.toJson text)
      if key = "" then (.apiConfigEmptyError, key, r)
      else (.noError, key,
        store text endpoints r serverId { apiV2 with apiConfig := apiV2.apiConfig.set "vpn_key" (.text key) })
    else (.noError, vpnKey env text endpoints apiV2, r)

end SubscriptionController

/-! ### Reading the text -/

namespace ApiUtils

theorem escapeChars_append (l l' : List Char) : escapeChars (l ++ l') = escapeChars l ++ escapeChars l' := by
  simp [escapeChars, Utf16.encode]

theorem toNat_lt_of_mem_escapeChars {input : List Char} {c : Char} (h : c ∈ escapeChars input) : c.toNat < 0x80 := by
  obtain ⟨u, hu, hc⟩ := List.mem_flatMap.mp h
  obtain ⟨d, -, hunit⟩ := List.mem_flatMap.mp hu
  have hlt := Utf16.units_lt hunit
  have hdigit : ∀ d : Fin 16, (hexDigit d).toNat < 0x80 := by decide +kernel
  rw [escapeUnit] at hc
  split_ifs at hc with hrange
  · simp only [List.mem_cons, List.not_mem_nil, or_false] at hc
    rcases hc with rfl | rfl | rfl | rfl | rfl | rfl
    · decide
    · decide
    · exact hdigit ⟨u / 4096, by omega⟩
    · exact hdigit ⟨u / 256 % 16, by omega⟩
    · exact hdigit ⟨u / 16 % 16, by omega⟩
    · exact hdigit ⟨u % 16, by omega⟩
  · rw [List.mem_singleton.mp hc, Utf16.toNat_ofNat (by omega)]
    omega

/-- A text that the escaping rule takes care of: without quotation marks and backslashes. -/
def Plain (text : String) : Prop := '"' ∉ text.toList ∧ '\\' ∉ text.toList

instance (text : String) : Decidable (Plain text) := inferInstanceAs (Decidable (_ ∧ _))

theorem transduce_escapeUnit {u : ℕ} (hlt : u < 0x10000) (hquote : u ≠ 34) (hbackslash : u ≠ 92) (units : List ℕ) :
    transduce scan (.string units) (escapeUnit u) = some ([], .string (units ++ [u])) := by
  rw [escapeUnit]
  split_ifs with hrange
  · exact transduce_hex hlt units
  · have htoNat : (Char.ofNat u).toNat = u := Utf16.toNat_ofNat (by omega)
    have hunits : Utf16.units (Char.ofNat u) = [u] := by rw [Utf16.units, htoNat, if_pos hlt]
    rw [← hunits]
    apply transduce_plain
    · rintro heq
      rw [heq] at htoNat
      exact hquote htoNat.symm
    · rintro heq
      rw [heq] at htoNat
      exact hbackslash htoNat.symm

theorem transduce_escapeUnits {us : List ℕ} (h : ∀ u ∈ us, u < 0x10000 ∧ u ≠ 34 ∧ u ≠ 92) (units : List ℕ) :
    transduce scan (.string units) (us.flatMap escapeUnit) = some ([], .string (units ++ us)) := by
  induction us generalizing units with
  | nil => rw [List.append_nil, List.flatMap_nil, transduce]
  | cons u us ih =>
    obtain ⟨hlt, hquote, hbackslash⟩ := h u List.mem_cons_self
    have hrest := ih (fun v hv => h v (List.mem_cons_of_mem _ hv)) (units ++ [u])
    rw [List.append_assoc, List.singleton_append] at hrest
    exact transduce_append (transduce_escapeUnit hlt hquote hbackslash units) hrest

theorem units_ne {c : Char} {n : ℕ} (hn : n < 0xd800) (hc : c.toNat ≠ n) : n ∉ Utf16.units c := by
  rw [Utf16.units]
  split_ifs
  · rw [List.mem_singleton]
    exact hc.symm
  · rw [List.mem_pair]
    omega

/-- The escaped text is read with these tokens, from one mode to another. -/
def Reads (text : String) (mode : Mode) (tokens : List Token) (mode' : Mode) : Prop :=
  transduce scan mode (escapeChars text.toList) = some (tokens, mode')

instance (text : String) (mode : Mode) (tokens : List Token) (mode' : Mode) :
    Decidable (Reads text mode tokens mode') :=
  inferInstanceAs (Decidable (_ = _))

variable (env : KeyEnvironment) {fields : KeyFields} {opening text : String} {tokens : List Token}

theorem Reads.append {text' : String} {mode mode' mode'' : Mode} {tokens' : List Token}
    (h : Reads text mode tokens mode') (h' : Reads text' mode' tokens' mode'') :
    Reads (text ++ text') mode (tokens ++ tokens') mode'' := by
  rw [Reads, String.toList_append, escapeChars_append]
  exact transduce_append h h'

/-- **A plain text** in a string is read as it is, whatever control characters and characters outside ASCII it holds. -/
theorem reads_plain (h : Plain text) : Reads text (.string []) [] (.string (Utf16.encode text.toList)) := by
  have hunits : ∀ u ∈ Utf16.encode text.toList, u < 0x10000 ∧ u ≠ 34 ∧ u ≠ 92 := by
    intro u hu
    obtain ⟨c, hc, hunit⟩ := List.mem_flatMap.mp hu
    refine ⟨Utf16.units_lt hunit, ?_, ?_⟩
    · rintro rfl
      refine units_ne (by decide) (fun hnat => h.1 ?_) hunit
      rwa [← Char.ofNat_toNat c, hnat] at hc
    · rintro rfl
      refine units_ne (by decide) (fun hnat => h.2 ?_) hunit
      rwa [← Char.ofNat_toNat c, hnat] at hc
  have hread := transduce_escapeUnits hunits []
  rwa [List.nil_append] at hread

theorem reads_quote (text : String) : Reads "\"" (.string (Utf16.encode text.toList)) [.string text] .between := by
  have hread := transduce_quote text.toList
  rw [String.ofList_toList] at hread
  exact hread

theorem Reads.member {value : String} (h : Reads opening .between tokens (.string [])) (hvalue : Plain value) :
    Reads (opening ++ value ++ "\"") .between (tokens ++ [.string value]) .between := by
  have hread := (h.append (reads_plain hvalue)).append (reads_quote value)
  rwa [List.append_nil] at hread

theorem Reads.memberThen {value : String} (h : Reads opening .between tokens (.string [])) (hvalue : Plain value) :
    Reads (opening ++ value ++ "\", ") .between (tokens ++ [.string value, .comma]) .between := by
  have hcomma : Reads ", " .between [.comma] .between := by decide +kernel
  have hread := (h.member hvalue).append hcomma
  rw [List.append_assoc, String.append_assoc] at hread
  exact hread

def KeyFields.toObject (fields : KeyFields) : JsonObject :=
  let apiConfig := JsonObject.insert [] "service_type" (.string fields.serviceType)
    |>.insert "service_protocol" (.string fields.serviceProtocol)
    |>.insert "user_country_code" (.string fields.userCountryCode)
  JsonObject.insert [] "name" (.string fields.name)
    |>.insert "description" (.string fields.description)
    |>.insert "config_version" (.double fields.configVersion)
    |>.insert "api_config" (.object apiConfig)
    |>.insert "auth_data" (.object (JsonObject.insert [] "api_key" (.string fields.apiKey)))

def KeyFields.IsPlain (fields : KeyFields) : Prop :=
  Plain fields.name ∧ Plain fields.description ∧ Plain fields.serviceType ∧ Plain fields.serviceProtocol ∧
    Plain fields.userCountryCode ∧ Plain fields.apiKey

instance (fields : KeyFields) : Decidable fields.IsPlain := inferInstanceAs (Decidable (_ ∧ _))

theorem reads_configVersion {version : Int} (h : version = 1 ∨ version = 2) :
    Reads ("\"config_version\": " ++ toString version ++ ", ") .between
      [.string "config_version", .colon, .number version, .comma] .between := by
  rcases h with rfl | rfl <;> decide +kernel

theorem fromUtf8_toUtf8_escapeUnicode (text : String) :
    env.fromUtf8 (env.toUtf8 (escapeUnicode text)) = escapeUnicode text := by
  apply env.fromUtf8_toUtf8
  intro c hc
  rw [escapeUnicode, String.toList_ofList] at hc
  exact toNat_lt_of_mem_escapeChars hc

theorem unpackKey_packKey (h : escapeUnicode text ≠ "") :
    ImportController.unpackKey env (packKey env text) = escapeUnicode text := by
  have hcolon (bytes : List UInt8) : ':' ∉ Base64.encodePadded bytes := by
    intro hmem
    rcases List.mem_append.mp hmem with hmem | hmem
    · exact absurd (Base64.mem_alphabet_of_mem_encode hmem) (by decide)
    · exact absurd (List.eq_of_mem_replicate hmem) (by decide)
  have hreplace (chars : List Char) (hchars : ':' ∉ chars) :
      replaceText ("vpn://" ++ String.ofList chars) "vpn://" "" = String.ofList chars := by
    have htoList : ("vpn://" ++ String.ofList chars).toList = "vpn://".toList ++ chars :=
      String.toList_append.trans (congrArg _ String.toList_ofList)
    rw [replaceText, htoList, replaceChars_append (by decide), replaceChars_of_not_mem (d := ':') (by decide) hchars]
    rfl
  have hbytes : env.toUtf8 (escapeUnicode text) ≠ [] := by
    intro hnil
    have hread := fromUtf8_toUtf8_escapeUnicode env text
    rw [hnil, env.fromUtf8_nil] at hread
    exact h hread.symm
  rw [ImportController.unpackKey, packKey, hreplace _ (hcolon _), String.toList_ofList, Base64.decode_encodePadded,
    env.qUncompress_signed, if_pos hbytes,
    fromUtf8_toUtf8_escapeUnicode]

theorem decodeKey_packKey_eq (h : escapeUnicode text ≠ "") :
    ImportController.decodeKey env (packKey env text) = fromJson (escapeChars text.toList) := by
  rw [ImportController.decodeKey, unpackKey_packKey env h, fromUtf8_toUtf8_escapeUnicode, escapeUnicode,
    String.toList_ofList]

section
variable (h : fields.IsPlain) (hversion : fields.configVersion = 1 ∨ fields.configVersion = 2)
include h hversion

theorem reads_vpnKeyStr :
    Reads fields.vpnKeyStr .between
      [.openObject, .string "name", .colon, .string fields.name, .comma,
        .string "description", .colon, .string fields.description, .comma,
        .string "config_version", .colon, .number fields.configVersion, .comma,
        .string "api_config", .colon, .openObject, .string "service_type", .colon, .string fields.serviceType, .comma,
        .string "service_protocol", .colon, .string fields.serviceProtocol, .comma,
        .string "user_country_code", .colon, .string fields.userCountryCode, .closeObject, .comma,
        .string "auth_data", .colon, .openObject, .string "api_key", .colon, .string fields.apiKey,
        .closeObject, .closeObject] .between := by
  obtain ⟨hname, hdescription, htype, hprotocol, hcountry, hkey⟩ := h
  have hopen : Reads "\x7b" .between [.openObject] .between := by decide +kernel
  have hclose : Reads "\x7d" .between [.closeObject] .between := by decide +kernel
  have hnameKey : Reads "\"name\": \"" .between [.string "name", .colon] (.string []) := by decide +kernel
  have hdescriptionKey : Reads "\"description\": \"" .between [.string "description", .colon] (.string []) := by
    decide +kernel
  have hapiConfig : Reads "\"api_config\": \x7b" .between [.string "api_config", .colon, .openObject] .between := by
    decide +kernel
  have htypeKey : Reads "\"service_type\": \"" .between [.string "service_type", .colon] (.string []) := by
    decide +kernel
  have hprotocolKey : Reads "\"service_protocol\": \"" .between [.string "service_protocol", .colon]
      (.string []) := by decide +kernel
  have hcountryKey : Reads "\"user_country_code\": \"" .between [.string "user_country_code", .colon]
      (.string []) := by decide +kernel
  have hnext : Reads "\x7d, " .between [.closeObject, .comma] .between := by decide +kernel
  have hauthData : Reads "\"auth_data\": \x7b" .between [.string "auth_data", .colon, .openObject] .between := by
    decide +kernel
  have hkeyKey : Reads "\"api_key\": \"" .between [.string "api_key", .colon] (.string []) := by decide +kernel
  exact hopen.append (hnameKey.memberThen hname) |>.append (hdescriptionKey.memberThen hdescription)
    |>.append (reads_configVersion hversion) |>.append hapiConfig |>.append (htypeKey.memberThen htype)
    |>.append (hprotocolKey.memberThen hprotocol) |>.append (hcountryKey.member hcountry) |>.append hnext
    |>.append hauthData |>.append (hkeyKey.member hkey) |>.append hclose |>.append hclose

theorem fromJson_vpnKeyStr : fromJson (escapeChars fields.vpnKeyStr.toList) = some (.object fields.toObject) := by
  have hread := reads_vpnKeyStr h hversion
  rw [Reads] at hread
  rw [fromJson, hread]
  rfl

/-- **A packed key** with plain fields is the object of its fields. -/
theorem decodeKey_packKey :
    ImportController.decodeKey env (packKey env fields.vpnKeyStr) = some (.object fields.toObject) := by
  have hread := fromJson_vpnKeyStr h hversion
  rw [decodeKey_packKey_eq env, hread]
  intro hempty
  have hchars : escapeChars fields.vpnKeyStr.toList = [] := by
    rw [← String.toList_ofList (l := escapeChars fields.vpnKeyStr.toList)]
    exact congrArg String.toList hempty
  rw [hchars] at hread
  cases hread

end

/-- What a server's own key says. -/
def KeyFields.ofServer (server : ApiV2Model) : KeyFields where
  name := server.name
  description := server.description
  configVersion := server.configVersion
  serviceType := server.serviceType
  serviceProtocol := server.serviceProtocol
  userCountryCode := (server.apiConfig.plain "user_country_code").asText
  apiKey := (server.authData "api_key").asText

theorem fromJson_toJson_eq_ofServer (text : JsonText) (server : ApiV2Model) :
    KeyFields.fromJson (server.toJson text) = .ofServer server := by
  have htop (key : String) (kind : FieldKind) (hmem : (key, kind) ∈ ApiV2Model.fields.entries) :
      (server.toJson text).value key = kind.write (server.members text key) := FieldTable.value_toJson hmem _
  have hapi : toObject ((server.toJson text).value apiConfig) = server.apiConfig.toJson := by
    rw [apiConfig, htop _ .object (by simp [ApiV2Model.fields])]
    exact StoredServer.toObject_write_object _
  have hauth : toObject ((server.toJson text).value "auth_data") = AuthData.fields.toJson server.authData := by
    rw [htop _ .object (by simp [ApiV2Model.fields])]
    exact StoredServer.toObject_write_object _
  have hplain {key : String} (hmem : (key, .text) ∈ ApiConfig.fields.entries) :
      toString (server.apiConfig.toJson.value key) = (server.apiConfig.members key).asText :=
    (congrArg toString (FieldTable.value_toJson hmem _)).trans (ServerModel.toString_write_text _)
  rw [KeyFields.fromJson, hapi, hauth, KeyFields.ofServer, KeyFields.mk.injEq]
  refine ⟨?_, ?_, ?_, ?_, ?_, ?_, ?_⟩
  · exact ApiV2Model.name_fromJson_toJson text server
  · rw [htop _ .text (by simp [ApiV2Model.fields])]
    exact ServerModel.toString_write_text _
  · rw [configVersion, htop _ (.number 2) (by simp [ApiV2Model.fields])]
    change (server.configVersion : ℚ).num.tdiv (server.configVersion : ℚ).den = _
    rw [Rat.num_intCast, Rat.den_intCast]
    exact Int.tdiv_one _
  · exact hplain (by simp [ApiConfig.fields, serviceType])
  · exact hplain (by simp [ApiConfig.fields])
  · exact hplain (by simp [ApiConfig.fields])
  · have hmem : ("api_key", FieldKind.text) ∈ AuthData.fields.entries := by simp [AuthData.fields]
    exact (congrArg toString (FieldTable.value_toJson hmem _)).trans (ServerModel.toString_write_text _)

end ApiUtils

namespace SubscriptionController

open ApiUtils

variable {endpoints : ApiEndpoints} {server : ApiV2Model}

section
variable (env : KeyEnvironment)

theorem getPremiumV2VpnKey_toJson (text : JsonText) {kind : ConfigType}
    (hkind : StoredServer.OfKind endpoints kind (.apiV2 server))
    (hpremium : server.isPremium = true ∨ server.isExternalPremium = true) :
    getPremiumV2VpnKey env endpoints (server.toJson text) = packKey env (KeyFields.ofServer server).vpnKeyStr := by
  have hpaid : kind = .amneziaPremiumV2 ∨ kind = .externalPremium := by
    have hservice : serviceConfigType server.serviceType = some kind := hkind.1
    rcases hpremium with h | h
    · rw [ApiV2Model.isPremium, decide_eq_true_eq] at h
      rw [h] at hservice
      exact Or.inl (Option.some.inj hservice).symm
    · rw [ApiV2Model.isExternalPremium, decide_eq_true_eq] at h
      rw [h] at hservice
      exact Or.inr (Option.some.inj hservice).symm
  have htype : configTypeFromJson endpoints (server.toJson text) = kind := by
    rw [← withoutStorageServerId_toJson_apiV2 text server]
    exact StoredServer.configTypeFromJson_toJson_apiV2 hkind
  rw [getPremiumV2VpnKey, htype, fromJson_toJson_eq_ofServer]
  rcases hpaid with rfl | rfl <;> rfl

theorem packKey_ne_empty (text : String) : packKey env text ≠ "" := by
  intro h
  have hlength := congrArg String.length h
  rw [packKey, String.length_append] at hlength
  change 6 + _ = 0 at hlength
  omega

theorem vpnKey_of_not_stored (text : JsonText) {kind : ConfigType}
    (hkind : StoredServer.OfKind endpoints kind (.apiV2 server))
    (hpremium : server.isPremium = true ∨ server.isExternalPremium = true) (hstored : storedKey server = "") :
    vpnKey env text endpoints server = packKey env (KeyFields.ofServer server).vpnKeyStr := by
  rw [vpnKey, if_neg (not_not.mpr hstored), getPremiumV2VpnKey_toJson env text hkind hpremium]

theorem prepareVpnKeyExport_eq {text : JsonText} {r : SecureServersRepository} {serverId : String} {key : String}
    (hserver : apiV2Config text endpoints r serverId = some server) (hkey : vpnKey env text endpoints server = key)
    (hne : key ≠ "") : prepareVpnKeyExport env text endpoints r serverId = (.noError, key, r) := by
  rw [prepareVpnKeyExport, hserver]
  dsimp only
  rw [hkey, if_neg hne]

end

/-- **The exported key.** A paid server that has a stored key exports it as it is. The key of another one, if its texts
hold no quotation mark and no backslash, is read by the import as the object of exactly the fields of the server. -/
theorem exported_key_spec (env : KeyEnvironment) (text : JsonText) (uuids : UuidSource) (endpoints : ApiEndpoints)
    (settings : Settings) (uuidsDrawn : ℕ) (calls : List SecureServersRepository.Call) (serverId : String)
    (server : ApiV2Model) :
    let r := (SecureServersRepository.create uuids endpoints settings uuidsDrawn).runCalls uuids endpoints calls
    apiV2Config text endpoints r serverId = some server →
      (server.isPremium = true ∨ server.isExternalPremium = true) →
      ∃ key, prepareVpnKeyExport env text endpoints r serverId = (.noError, key, r) ∧
        (storedKey server ≠ "" → key = storedKey server) ∧
        (storedKey server = "" → (KeyFields.ofServer server).IsPlain →
          ImportController.decodeKey env key = some (.object (KeyFields.ofServer server).toObject)) := by
  intro r hserver hpremium
  obtain ⟨json, -, hapi, rfl⟩ := exists_json_of_apiV2Config text endpoints hserver
  set server := ApiV2Model.fromJson text (withoutStorageServerId json)
  have hkind : StoredServer.OfKind endpoints (configTypeFromJson endpoints (withoutStorageServerId json))
      (.apiV2 server) := ofKind_of_isApiV2Subscription hapi
  by_cases hstored : storedKey server = ""
  · have hkey := vpnKey_of_not_stored env text hkind hpremium hstored
    have hversion : server.configVersion = 1 ∨ server.configVersion = 2 := by
      rcases hkind.2 with h | ⟨h, -⟩
      · exact Or.inr h
      · exact Or.inl h
    have hexport := prepareVpnKeyExport_eq env hserver hkey (packKey_ne_empty env _)
    refine ⟨_, hexport, fun hne => absurd hstored hne, fun _ hplain => ?_⟩
    exact decodeKey_packKey env hplain hversion
  · have hkey : vpnKey env text endpoints server = storedKey server := by rw [vpnKey, if_pos hstored]
    exact ⟨_, prepareVpnKeyExport_eq env hserver hkey hstored, fun _ => rfl, fun hempty => absurd hempty hstored⟩

/-! ### Two keys -/

/-- Bytes in ASCII, and a compression that only puts the length in front. -/
def asciiEnvironment : KeyEnvironment where
  toUtf8 := SubscriptionCall.asciiBytes
  fromUtf8 bytes := String.ofList (bytes.map fun b => Char.ofNat b.toNat)
  qCompress data := Stream.putNumber 4 data.length ++ data
  qUncompress bytes := bytes.drop 4
  fromUtf8_nil := rfl
  fromUtf8_toUtf8 text h := by
    rw [SubscriptionCall.asciiBytes, List.map_map]
    have hchars : text.toList.map ((fun b : UInt8 => Char.ofNat b.toNat) ∘ fun c => UInt8.ofNat c.toNat) =
        text.toList := by
      refine (List.map_congr_left fun c hc => ?_).trans (List.map_id _)
      have hc := h c hc
      have hbyte : (UInt8.ofNat c.toNat).toNat = c.toNat := UInt8.toNat_ofNat_of_lt' (hc.trans (by decide))
      rw [Function.comp_apply, hbyte, Char.ofNat_toNat, id]
    rw [hchars, String.ofList_toList]
  qUncompress_signed data := by
    rw [List.drop_left' (Stream.length_putNumber 4 _)]
    rfl

def paidServer (name vpnKey : String) : JsonObject :=
  [("api_config", .object [("service_type", .string "amnezia-premium"), ("service_protocol", .string "awg"),
      ("vpn_key", .string vpnKey)]),
    ("auth_data", .object [("api_key", .string "a")]), ("config_version", .double 2), ("name", .string name)]

def exportedName (name vpnKey : String) : Option String :=
  let r := ServerEdit.repositoryWith (paidServer name vpnKey) .amneziaPremiumV2
  (ImportController.decodeKey asciiEnvironment (prepareVpnKeyExport asciiEnvironment .tokens ServerEdit.buildEndpoints r
    "s").2.1).map fun json => Json.toString ((Json.toObject (some json)).value "name")

/-- A name with a line break and characters outside ASCII comes back. -/
theorem exported_key_of_plain_name :
    let r := repositoryWith (paidServer "Мой\n😀" "") .amneziaPremiumV2
    ∃ server key, apiV2Config .tokens buildEndpoints r "s" = some server ∧
      prepareVpnKeyExport asciiEnvironment .tokens buildEndpoints r "s" = (.noError, key, r) ∧
      ImportController.decodeKey asciiEnvironment key = some (.object (KeyFields.ofServer server).toObject) := by
  intro r
  have hserver : apiV2Config .tokens buildEndpoints r "s" =
      some (ApiV2Model.fromJson .tokens (paidServer "Мой\n😀" "")) := rfl
  obtain ⟨key, hexport, -, hdecode⟩ := exported_key_spec asciiEnvironment .tokens .longest buildEndpoints
    ⟨[], "", 0⟩ 0 [.addServer "s" (paidServer "Мой\n😀" "") .amneziaPremiumV2] "s" _ hserver
    (by decide +kernel)
  exact ⟨_, key, hserver, hexport, hdecode (by decide +kernel) (by decide +kernel)⟩

/-- A renamed server exports its stored key with the old name, and a quotation mark in the name of a server without one
makes a key that is no JSON text. -/
theorem exported_key_has_other_name :
    exportedName "new" (packKey asciiEnvironment
      (KeyFields.mk "old" "" 2 "amnezia-premium" "awg" "" "a").vpnKeyStr) = some "old" ∧
    exportedName "a \"b\"" "" = none := by
  refine ⟨?_, ?_⟩
  · have hstored (key : String) (hne : key ≠ "") : exportedName "new" key =
        (ImportController.decodeKey asciiEnvironment key).map fun json =>
          toString ((toObject (some json)).value "name") := by
      have hkey : vpnKey asciiEnvironment .tokens buildEndpoints
          (ApiV2Model.fromJson .tokens (paidServer "new" key)) = key := if_pos hne
      rw [exportedName, prepareVpnKeyExport_eq asciiEnvironment rfl hkey hne]
    rw [hstored _ (packKey_ne_empty _ _), decodeKey_packKey _ (by decide +kernel) (Or.inr rfl)]
    rfl
  · have hkind : StoredServer.OfKind buildEndpoints .amneziaPremiumV2
        (.apiV2 (ApiV2Model.fromJson .tokens (paidServer "a \"b\"" ""))) := ⟨rfl, Or.inl rfl⟩
    have hkey := vpnKey_of_not_stored asciiEnvironment .tokens hkind (by decide +kernel) (by decide +kernel)
    rw [exportedName, prepareVpnKeyExport_eq asciiEnvironment rfl hkey (packKey_ne_empty _ _), decodeKey_packKey_eq]
    · decide +kernel
    · decide +kernel

end SubscriptionController

end FreshVpn
