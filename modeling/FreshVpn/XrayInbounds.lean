import FreshVpn.LibraryFirstMatch
import FreshVpn.XrayStream

/-! The passwords of the local SOCKS proxies. Before Xray is started, the desktop client and the Android client each
give the first SOCKS inbound of a configuration a free port and an account. -/

namespace FreshVpn

open Json (toObject toArray)
open FirstMatch

/-! ### Inbounds -/

/-- What a client connects to the local proxy with. -/
structure InboundCredentials where
  username : String
  password : String
  port : ℤ

namespace Inbounds

def inboundsOf (xrayConfig : JsonObject) : List Json := toArray (xrayConfig.value "inbounds")

def isSocks (inbound : Json) : Bool :=
  equalsInsensitive (Json.toString ((toObject (some inbound)).value "protocol")) "socks"

def settingsOf (inbound : JsonObject) : JsonObject := toObject (inbound.value "settings")

def accountsOf (inbound : JsonObject) : List Json := toArray ((settingsOf inbound).value "accounts")

/-- A member of an account, as Xray reads it: no text is an empty one. -/
def accountText (account : Json) (key : String) : String := Json.toString ((toObject (some account)).value key)

def newAccount (user pass : String) : Json :=
  .object (JsonObject.insert [] "user" (.string user) |>.insert "pass" (.string pass))

/-! ### The desktop client -/

def defaultPort : ℤ := 10808

def indexOfSocksInbound (inbounds : List Json) : Option ℕ := inbounds.findIdx? isSocks

def getInboundCredentials (xrayConfig : JsonObject) : InboundCredentials :=
  match indexOfSocksInbound (inboundsOf xrayConfig) with
  | none => ⟨"", "", defaultPort⟩
  | some socksIdx =>
    let inbound := toObject (inboundsOf xrayConfig)[socksIdx]?
    let port := Json.toInt (inbound.value "port") defaultPort
    match accountsOf inbound with
    | [] => ⟨"", "", port⟩
    | account :: _ => ⟨accountText account "user", accountText account "pass", port⟩

def firstAccount (inbound : JsonObject) : String × String :=
  match accountsOf inbound with
  | [] => ("", "")
  | account :: _ => (accountText account "user", accountText account "pass")

/-- The settings of the inbound with the credentials that are used: those of the first account, or the fresh ones. -/
def patchedSettings (user pass : String) (inbound : JsonObject) : JsonObject × String × String :=
  let settings := settingsOf inbound
  let (username, password) := firstAccount inbound
  if username = "" ∨ password = "" then
    ((settings.insert "accounts" (.array [newAccount user pass])).insert "auth" (.string "password"), user, pass)
  else (settings.insert "auth" (.string "password"), username, password)

/-- `freePort` is the port that the system gives, and `user` and `pass` are the random texts. The result is `none` if an
exception is thrown. -/
def ensureInboundAuth (freePort : Option ℤ) (user pass : String) (xrayConfig : JsonObject) :
    Option (JsonObject × InboundCredentials) :=
  let inbounds := inboundsOf xrayConfig
  match indexOfSocksInbound inbounds with
  | none => some (xrayConfig, getInboundCredentials xrayConfig)
  | some socksIdx =>
    match freePort with
    | none => none
    | some port =>
      let inbound := (toObject inbounds[socksIdx]?).insert "port" (.int port)
      let (settings, username, password) := patchedSettings user pass inbound
      let inbound := inbound.insert "settings" (.object settings)
      some (xrayConfig.insert "inbounds" (.array (inbounds.set socksIdx (.object inbound))),
        ⟨username, password, port⟩)

end Inbounds

/-! ### The Android client -/

/-- The texts of `org.json` for values that are not texts: they are not empty, and none of them is the name of a
protocol. -/
structure JavaText where
  valueOf : Json → String
  valueOf_ne_empty : ∀ json, valueOf json ≠ ""
  valueOf_ne_socks : ∀ json, equalsInsensitive (valueOf json) "socks" = false

/-- `JSONObject.optString` -/
def JavaText.optString (java : JavaText) (object : JsonObject) (key : String) : String :=
  match object.value key with
  | none => ""
  | some (.string value) => value
  | some json => java.valueOf json

namespace AndroidXray

open Inbounds

variable (java : JavaText)

/-- An inbound that is an object with the protocol. -/
def isSocksInbound (inbound : Json) : Bool :=
  match inbound with
  | .object o => equalsInsensitive (java.optString o "protocol") "socks"
  | _ => false

def findSocksInboundIndex (inbounds : List Json) : Option ℕ := inbounds.findIdx? (isSocksInbound java)

/-- The first account if it has a user and a password; an exception is thrown if it is no object. -/
def keptAccount (inbound : JsonObject) : Option (Option JsonObject) :=
  match accountsOf inbound with
  | [] => some none
  | .object account :: _ =>
    some (if java.optString account "user" ≠ "" ∧ java.optString account "pass" ≠ "" then some account else none)
  | _ :: _ => none

/-- The settings with the account that is kept, or with a fresh one. -/
def patchedSettings (user pass : String) (account : Option JsonObject) (settings : JsonObject) : JsonObject :=
  let settings := settings.insert "auth" (.string "password")
  match account with
  | some _ => settings
  | none => settings.insert "accounts" (.array [newAccount user pass])

def ensureInboundAuth (freePort : Option ℤ) (user pass : String) (xrayConfig : JsonObject) : Option JsonObject :=
  match xrayConfig.value "inbounds" with
  | some (.array inbounds) =>
    match findSocksInboundIndex java inbounds with
    | none => some xrayConfig
    | some socksIdx => do
      let port ← freePort
      let inbound := (toObject inbounds[socksIdx]?).insert "port" (.int port)
      let account ← keptAccount java inbound
      let inbound := inbound.insert "settings" (.object (patchedSettings user pass account (settingsOf inbound)))
      some (xrayConfig.insert "inbounds" (.array (inbounds.set socksIdx (.object inbound))))
  | _ => some xrayConfig

/-- The part of `parseConfig` about the proxy: the credentials that the tunnel uses, `none` if an exception is thrown. -/
def parseConfig (xrayConfig : JsonObject) : Option InboundCredentials :=
  match xrayConfig.value "inbounds" with
  | some (.array inbounds) => do
    let socksIdx ← findSocksInboundIndex java inbounds
    let socksConfig := toObject inbounds[socksIdx]?
    let port ← portOf socksConfig
    match accountsOf socksConfig with
    | [] => some ⟨"", "", port⟩
    | .object account :: _ => some ⟨java.optString account "user", java.optString account "pass", port⟩
    | _ :: _ => none
  | _ => none
where
  /-- `getInt`, for a number. -/
  portOf (socksConfig : JsonObject) : Option ℤ :=
    match socksConfig.value "port" with
    | some (.double q) => some q.num
    | _ => none

end AndroidXray

/-! ### What both have to achieve -/

namespace Inbounds

def RequiresPassword (inbound : Json) : Prop :=
  Json.toString ((settingsOf (toObject (some inbound))).value "auth") = "password" ∧
    ∃ account ∈ accountsOf (toObject (some inbound)),
      accountText account "user" ≠ "" ∧ accountText account "pass" ≠ ""

/-- The SOCKS inbound listens on the port, and has the account. -/
def Accepts (creds : InboundCredentials) (inbound : Json) : Prop :=
  isSocks inbound = true ∧ (toObject (some inbound)).value "port" = some (.int creds.port) ∧
    Json.toString ((settingsOf (toObject (some inbound))).value "auth") = "password" ∧
    ∃ account ∈ accountsOf (toObject (some inbound)),
      accountText account "user" = creds.username ∧ accountText account "pass" = creds.password

/-- A SOCKS inbound in which only the port and the credentials have been set. -/
structure Patched (inbound inbound' : Json) : Prop where
  isSocks : isSocks inbound = true
  members : ∀ key, key ≠ "port" → key ≠ "settings" →
    (toObject (some inbound')).value key = (toObject (some inbound)).value key
  settings : ∀ key, key ≠ "auth" → key ≠ "accounts" →
    (settingsOf (toObject (some inbound'))).value key = (settingsOf (toObject (some inbound))).value key

/-- The contract of the step before the start: `creds` is what the client uses, `none` if it does not start. -/
structure Contract (xrayConfig xrayConfig' : JsonObject) (creds : Option InboundCredentials) : Prop where
  requiresPassword : ∀ inbound ∈ inboundsOf xrayConfig', isSocks inbound = true → RequiresPassword inbound
  accepts : ∀ c ∈ creds, ∃ inbound ∈ inboundsOf xrayConfig', Accepts c inbound
  members : ∀ key, key ≠ "inbounds" → xrayConfig'.value key = xrayConfig.value key
  inbounds : List.Forall₂ (fun inbound inbound' => inbound' = inbound ∨ Patched inbound inbound')
    (inboundsOf xrayConfig) (inboundsOf xrayConfig')

/-- The SOCKS inbounds after the first one. -/
def otherSocksInbounds (xrayConfig : JsonObject) : List Json := ((inboundsOf xrayConfig).filter isSocks).tail

/-! ### The patched configuration -/

theorem Patched.isSocks_right {inbound inbound' : Json} (h : Patched inbound inbound') :
    Inbounds.isSocks inbound' = true := by
  rw [← h.isSocks, Inbounds.isSocks, Inbounds.isSocks, h.members "protocol" (by decide) (by decide)]

theorem inboundsOf_insert (xrayConfig : JsonObject) (inbounds : List Json) :
    inboundsOf (xrayConfig.insert "inbounds" (.array inbounds)) = inbounds := by
  rw [inboundsOf, JsonObject.value_insert_self]
  rfl

theorem forall₂_self {r : Json → Json → Prop} (hrefl : ∀ inbound, r inbound inbound) (inbounds : List Json) :
    List.Forall₂ r inbounds inbounds := by
  induction inbounds with
  | nil => exact .nil
  | cons inbound rest ih => exact .cons (hrefl inbound) ih

variable {xrayConfig : JsonObject}

theorem contract_iff {before after : List Json} {found found' : Json} {creds : Option InboundCredentials}
    (hinbounds : inboundsOf xrayConfig = before ++ found :: after)
    (hbefore : ∀ inbound ∈ before, isSocks inbound = false) (hpatched : Patched found found') :
    Contract xrayConfig (xrayConfig.insert "inbounds" (.array (before ++ found' :: after))) creds ↔
      RequiresPassword found' ∧ (∀ inbound ∈ otherSocksInbounds xrayConfig, RequiresPassword inbound) ∧
        ∀ c ∈ creds, Accepts c found' ∨ ∃ inbound ∈ otherSocksInbounds xrayConfig, Accepts c inbound := by
  have hothers : otherSocksInbounds xrayConfig = after.filter isSocks := by
    rw [otherSocksInbounds, hinbounds, filter_append_cons after hbefore hpatched.isSocks, List.tail_cons]
  rw [hothers]
  constructor
  · intro h
    have hrequires := h.requiresPassword
    have haccepts := h.accepts
    rw [inboundsOf_insert] at hrequires haccepts
    refine ⟨hrequires found' (by simp) hpatched.isSocks_right, fun inbound hmem => ?_, fun c hc => ?_⟩
    · obtain ⟨hafter, hsocks⟩ := List.mem_filter.mp hmem
      exact hrequires inbound (by simp [hafter]) hsocks
    · obtain ⟨inbound, hmem, haccept⟩ := haccepts c hc
      rcases List.mem_append.mp hmem with hmem | hmem
      · exact absurd haccept.1 (Bool.eq_false_iff.mp (hbefore inbound hmem))
      · rcases List.mem_cons.mp hmem with rfl | hmem
        · exact Or.inl haccept
        · exact Or.inr ⟨inbound, List.mem_filter.mpr ⟨hmem, haccept.1⟩, haccept⟩
  · rintro ⟨hfound, hafter, haccepts⟩
    refine ⟨?_, ?_, fun key hkey => JsonObject.value_insert_of_ne _ hkey _, ?_⟩
    · rw [inboundsOf_insert]
      intro inbound hmem hsocks
      rcases List.mem_append.mp hmem with hmem | hmem
      · exact absurd hsocks (Bool.eq_false_iff.mp (hbefore inbound hmem))
      · rcases List.mem_cons.mp hmem with rfl | hmem
        · exact hfound
        · exact hafter inbound (List.mem_filter.mpr ⟨hmem, hsocks⟩)
    · rw [inboundsOf_insert]
      intro c hc
      rcases haccepts c hc with haccept | ⟨inbound, hmem, haccept⟩
      · exact ⟨found', by simp, haccept⟩
      · exact ⟨inbound, by simp [(List.mem_filter.mp hmem).1], haccept⟩
    · rw [inboundsOf_insert, hinbounds]
      exact List.rel_append (forall₂_self (fun _ => Or.inl rfl) before)
        (.cons (Or.inr hpatched) (forall₂_self (fun _ => Or.inl rfl) after))

theorem contract_of_no_socks (hnone : ∀ inbound ∈ inboundsOf xrayConfig, isSocks inbound = false)
    (creds : Option InboundCredentials) : Contract xrayConfig xrayConfig creds ↔ creds = none := by
  constructor
  · intro h
    cases creds with
    | none => rfl
    | some c =>
      obtain ⟨inbound, hmem, haccept⟩ := h.accepts c rfl
      exact absurd haccept.1 (Bool.eq_false_iff.mp (hnone inbound hmem))
  · rintro rfl
    refine ⟨fun inbound hmem hsocks => absurd hsocks (Bool.eq_false_iff.mp (hnone inbound hmem)), ?_, fun _ _ => rfl,
      forall₂_self (fun _ => Or.inl rfl) _⟩
    rintro c ⟨⟩

end Inbounds

end FreshVpn
