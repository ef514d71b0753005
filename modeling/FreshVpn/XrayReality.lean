import FreshVpn.LibraryRun
import FreshVpn.XrayAgreement

/-! The keys of reality over a sequence of calls. -/

namespace FreshVpn

namespace XrayConfigurator

/-! ### The keys for clients -/

/-- A key file is read, or the last attempt has failed. -/
theorem readKeyFile_cases (content : String) (fails : ℕ → Bool) (left : ℕ) :
    readKeyFile content fails left = .error .xrayRealityKeysReadFailed ∨
      (readKeyFile content fails left = .ok (keyText content) ∧ keyText content ≠ "") := by
  induction left with
  | zero => exact Or.inl rfl
  | succ left ih =>
    unfold readKeyFile
    dsimp only
    split_ifs with hread
    · rw [Bool.and_eq_true, decide_eq_true_eq] at hread
      exact Or.inr ⟨rfl, hread.2⟩
    · exact ih

variable {server : XrayServer} {answers : XrayAnswers}

theorem readRealityKeyFiles_cases (server : XrayServer) (answers : XrayAnswers) :
    readRealityKeyFiles server answers = .error .xrayRealityKeysReadFailed ∨
      (readRealityKeyFiles server answers = .ok (keyText server.publicKeyFile, keyText server.shortIdFile) ∧
        keyText server.publicKeyFile ≠ "" ∧ keyText server.shortIdFile ≠ "") := by
  unfold readRealityKeyFiles
  rcases readKeyFile_cases server.publicKeyFile answers.publicKeyFails 3 with hpublic | ⟨hpublic, hne⟩
  · rw [hpublic]
    exact Or.inl rfl
  · rcases readKeyFile_cases server.shortIdFile answers.shortIdFails 3 with hshort | ⟨hshort, hne'⟩
    · rw [hpublic, hshort]
      exact Or.inl rfl
    · rw [hpublic, hshort]
      exact Or.inr ⟨rfl, hne, hne'⟩

/-- With reality, a call that gives back an id gives back the configuration of this client with the keys of the
files. -/
theorem protocolConfig_of_outClientId {text : JsonText} {hostName : String} {c : XrayProtocolConfig}
    {appendNewClient : Bool} {clientId : String}
    (hown : (c.serverConfig.members ConfigKey.isThirdPartyConfig).asFlag = false)
    (hreality : c.serverConfig.member "xray_security" = "reality")
    (hid : (applyServerSettingsToRemote text hostName server answers (some c) appendNewClient).outClientId =
      some clientId) :
    (applyServerSettingsToRemote text hostName server answers (some c) appendNewClient).protocolConfig =
      some (built c.serverConfig (text.compact (clientJson hostName c.serverConfig clientId
        (keyText server.publicKeyFile) (keyText server.shortIdFile))) clientId) := by
  unfold applyServerSettingsToRemote at hid ⊢
  dsimp only at hid ⊢
  rw [if_neg (Bool.eq_false_iff.mp hown)] at hid ⊢
  cases hkeys : prefetchedKeys server answers c.serverConfig with
  | error errorCode =>
    rw [hkeys] at hid
    cases hid
  | ok keys =>
    rw [hkeys] at hid
    have hread : readRealityKeyFiles server answers = .ok keys := by
      rw [prefetchedKeys, if_pos hreality] at hkeys
      exact hkeys
    rcases readRealityKeyFiles_cases server answers with hfailed | ⟨hfiles, hpublic, hshort⟩
    · cases hfailed.symm.trans hread
    cases hfiles.symm.trans hread
    cases hprepared : preparedConfig server answers c.serverConfig appendNewClient with
    | error errorCode =>
      rw [hprepared] at hid
      cases hid
    | ok prepared =>
      obtain ⟨serverConfig', clientId'⟩ := prepared
      rw [hprepared] at hid
      dsimp only at hid ⊢
      have hclientKeys : clientKeys { server with serverJson := some serverConfig' } answers c.serverConfig _ =
          .ok (keyText server.publicKeyFile, keyText server.shortIdFile) :=
        if_neg fun h => h.2.elim hpublic hshort
      rw [buildClientProtocolConfig_of_keys hclientKeys] at hid ⊢
      split_ifs at hid ⊢
      cases hid
      rfl

end XrayConfigurator

/-! ### The keys on the server -/

def XrayServer.reality (server : XrayServer) : JsonObject :=
  match server.serverJson with
  | none => []
  | some serverConfig => XrayConfigurator.realityOf (XrayConfigurator.firstInbound serverConfig)

def XrayServer.HasKeys (privateKey shortIds : Json) (server : XrayServer) : Prop :=
  server.reality.value "privateKey" = some privateKey ∧ server.reality.value "shortIds" = some shortIds

theorem XrayServer.HasKeys.reality_ne_nil {privateKey shortIds : Json} {server : XrayServer}
    (h : server.HasKeys privateKey shortIds) : server.reality ≠ [] := by
  intro hnil
  have hkey := h.1
  rw [hnil] at hkey
  cases hkey

namespace XrayConfigurator

variable {srv : XrayServerConfig} {appendNewClient : Bool}

theorem value_mergeRealitySettings {newRs oldRs : JsonObject} (hold : oldRs ≠ []) {key : String}
    (hfingerprint : key ≠ "fingerprint") (hnames : key ≠ "serverNames") (hdest : key ≠ "dest") :
    (mergeRealitySettings srv newRs oldRs).value key = oldRs.value key := by
  unfold mergeRealitySettings
  rw [value_insert_if_missing _ hdest, JsonObject.value_insert_of_ne _ hnames, if_neg hold]
  split
  · rw [JsonObject.value_insert_of_ne _ hfingerprint]
  · rfl

variable {server server' : XrayServer}

theorem reality_of_writes {uuid clientId : String} (h : Writes srv appendNewClient uuid clientId server server') :
    server'.reality =
      if srv.member "xray_security" = "reality" then
        mergeRealitySettings srv (XrayStream.realitySettings srv) server.reality
      else [] := by
  obtain ⟨serverConfig, serverConfig', hjson, hupdated, rfl⟩ := h
  obtain ⟨hstream, -⟩ := updatedInbound_eq_ok (updatedServerConfig_eq_ok hupdated)
  have hbefore : server.reality = realityOf (firstInbound serverConfig) := by
    rw [XrayServer.reality, hjson]
  change realityOf (firstInbound serverConfig') = _
  rw [hbefore, realityOf, hstream]
  split_ifs with hreality
  · rw [realityOf_merged hreality, realityOf]
  · rw [realityOf_not_merged hreality]

theorem Writes.files {uuid clientId : String} (h : Writes srv appendNewClient uuid clientId server server') :
    server'.publicKeyFile = server.publicKeyFile ∧ server'.shortIdFile = server.shortIdFile := by
  obtain ⟨serverConfig, serverConfig', -, -, rfl⟩ := h
  exact ⟨rfl, rfl⟩

end XrayConfigurator

/-! ### Sequences of calls -/

structure XrayCall where
  hostName : String
  protocolConfig : XrayProtocolConfig
  appendNewClient : Bool
  answers : XrayAnswers

namespace XrayCall

open XrayConfigurator

def srv (call : XrayCall) : XrayServerConfig := call.protocolConfig.serverConfig

def UsesReality (call : XrayCall) : Prop := call.srv.member "xray_security" = "reality"

instance (call : XrayCall) : Decidable call.UsesReality := inferInstanceAs (Decidable (_ = _))

def applied (text : JsonText) (server : XrayServer) (call : XrayCall) : Applied :=
  applyServerSettingsToRemote text call.hostName server call.answers (some call.protocolConfig) call.appendNewClient

def step (text : JsonText) (server : XrayServer) (call : XrayCall) : Option XrayServer :=
  some (call.applied text server).server

def FindsReality (server : XrayServer) (call : XrayCall) : Prop := call.UsesReality → server.reality ≠ []

/-- The key files are those of the start, and the inbound has the keys or no reality settings. -/
structure Guarded (start : XrayServer) (privateKey shortIds : Json) (server : XrayServer) : Prop where
  publicKeyFile : server.publicKeyFile = start.publicKeyFile
  shortIdFile : server.shortIdFile = start.shortIdFile
  keys : server.reality ≠ [] → server.HasKeys privateKey shortIds

theorem guarded_step {text : JsonText} {start : XrayServer} {privateKey shortIds : Json} (server : XrayServer)
    (call : XrayCall) (next : XrayServer) (h : Guarded start privateKey shortIds server)
    (hfinds : FindsReality server call) (hstep : step text server call = some next) :
    Guarded start privateKey shortIds next ∧ (call.UsesReality → next.HasKeys privateKey shortIds) := by
  cases hstep
  rcases applyServerSettingsToRemote_cases text call.hostName server call.answers call.protocolConfig
    call.appendNewClient with ⟨hsame, -⟩ | ⟨clientId, hwrites, -⟩
  · rw [applied, hsame]
    exact ⟨h, fun huses => h.keys (hfinds huses)⟩
  · have hkept : call.UsesReality → (call.applied text server).server.HasKeys privateKey shortIds := by
      intro huses
      have hreality : (call.applied text server).server.reality = _ := (reality_of_writes hwrites).trans (if_pos huses)
      rw [XrayServer.HasKeys, hreality, value_mergeRealitySettings (hfinds huses) (by decide) (by decide) (by decide),
        value_mergeRealitySettings (hfinds huses) (by decide) (by decide) (by decide)]
      exact h.keys (hfinds huses)
    refine ⟨⟨?_, ?_, fun hne => ?_⟩, hkept⟩
    · exact hwrites.files.1.trans h.publicKeyFile
    · exact hwrites.files.2.trans h.shortIdFile
    · by_cases huses : call.UsesReality
      · exact hkept huses
      · exact absurd ((reality_of_writes hwrites).trans (if_neg huses)) hne

theorem guarded_run {text : JsonText} {start : XrayServer} {privateKey shortIds : Json}
    (hstart : start.HasKeys privateKey shortIds) {calls : List XrayCall} {server : XrayServer}
    (hmeets : Run.Meets (step text) FindsReality start calls) (hrun : Run.run (step text) start calls = some server) :
    Guarded start privateKey shortIds server :=
  Run.run_invariant_of_meets (fun s call t hs hfinds hstep => (guarded_step s call t hs hfinds hstep).1)
    ⟨rfl, rfl, fun _ => hstart⟩ hmeets hrun

def withSecurity (security : String) : XrayCall :=
  ⟨"203.0.113.7", ⟨newServerSettings.setMember "xray_security" security, none, false⟩, false, .success newClientId⟩

theorem hasKeys_newServer : newServer.HasKeys (.string "K") (.array [.string "5a"]) := ⟨rfl, rfl⟩

/-- **The keys of reality survive.** In every sequence of calls from a server with keys in which each call with reality
finds reality settings in the inbound, the inbound has the same private key and short ids after each call with
reality, and what such a call hands to a client has the keys of the files that were there from the start. -/
theorem reality_keys_survive (text : JsonText) {start : XrayServer} {privateKey shortIds : Json}
    (hstart : start.HasKeys privateKey shortIds) {calls : List XrayCall} {call : XrayCall} {server next : XrayServer}
    (hmeets : Run.Meets (step text) FindsReality start (calls ++ [call]))
    (hrun : Run.run (step text) start calls = some server) (hstep : step text server call = some next)
    (huses : call.UsesReality) :
    next.HasKeys privateKey shortIds ∧
      ∀ clientId, (call.srv.members ConfigKey.isThirdPartyConfig).asFlag = false →
        (call.applied text server).outClientId = some clientId →
        (call.applied text server).protocolConfig = some (built call.srv (text.compact (clientJson call.hostName
          call.srv clientId (keyText start.publicKeyFile) (keyText start.shortIdFile))) clientId) := by
  obtain ⟨hbefore, hlast⟩ := Run.meets_concat.mp hmeets
  have hguarded := guarded_run hstart hbefore hrun
  refine ⟨(guarded_step server call next hguarded (hlast server hrun) hstep).2 huses, fun clientId hown hid => ?_⟩
  rw [← hguarded.publicKeyFile, ← hguarded.shortIdFile]
  exact protocolConfig_of_outClientId hown huses hid

theorem reality_keys_survive_two_calls :
    ∃ server next, Run.run (step .tokens) newServer [withSecurity "reality"] = some server ∧
      step .tokens server (withSecurity "reality") = some next ∧
      next.HasKeys (.string "K") (.array [.string "5a"]) := by
  have hfirst : (((withSecurity "reality").applied .tokens newServer).server.reality).isEmpty = false := by
    decide +kernel
  have hmeets : Run.Meets (step .tokens) FindsReality newServer ([withSecurity "reality"] ++ [withSecurity "reality"]) := by
    refine ⟨fun _ => hasKeys_newServer.reality_ne_nil, ?_⟩
    rintro server ⟨⟩
    refine ⟨fun _ hnil => ?_, fun _ _ => trivial⟩
    rw [hnil] at hfirst
    cases hfirst
  exact ⟨_, _, rfl, rfl, (reality_keys_survive .tokens hasKeys_newServer hmeets rfl rfl (by decide +kernel)).1⟩

/-- A call with TLS, and then one with reality again: the inbound has no private key. -/
theorem reality_keys_lost_after_tls :
    ∃ server, Run.run (step .tokens) newServer [withSecurity "tls", withSecurity "reality"] = some server ∧
      (withSecurity "reality").UsesReality ∧ server.reality.contains "privateKey" = false ∧
      ¬ server.HasKeys (.string "K") (.array [.string "5a"]) := by
  have hlost : ((Run.run (step .tokens) newServer [withSecurity "tls", withSecurity "reality"]).map fun server =>
      server.reality.contains "privateKey") = some false := by
    decide +kernel
  obtain ⟨server, hrun, hprivate⟩ := Option.map_eq_some_iff.mp hlost
  refine ⟨server, hrun, by decide +kernel, hprivate, fun hkeys => ?_⟩
  rw [JsonObject.contains, hkeys.1] at hprivate
  cases hprivate

end XrayCall

end FreshVpn
