import FreshVpn.XrayInbounds

/-! When the SOCKS inbounds of a configuration ask for a password. -/

namespace FreshVpn

open Json (toObject toArray)
open FirstMatch JsonObject AndroidXray

namespace Inbounds

variable {user pass : String}

/-! ### The patched inbound -/

def withPortAndSettings (inbound : JsonObject) (port : ℤ) (settings : JsonObject) : JsonObject :=
  (inbound.insert "port" (.int port)).insert "settings" (.object settings)

variable (inbound : JsonObject)

@[simp] theorem settingsOf_insert_port (json : Json) :
    settingsOf (inbound.insert "port" json) = settingsOf inbound := by
  rw [settingsOf, value_insert_of_ne _ (by decide), settingsOf]

@[simp] theorem accountsOf_insert_port (json : Json) :
    accountsOf (inbound.insert "port" json) = accountsOf inbound := by
  simp [accountsOf]

section
variable (port : ℤ) (settings : JsonObject)

@[simp] theorem settingsOf_withPortAndSettings : settingsOf (withPortAndSettings inbound port settings) = settings := by
  rw [settingsOf, withPortAndSettings, value_insert_self]
  rfl

@[simp] theorem accountsOf_withPortAndSettings :
    accountsOf (withPortAndSettings inbound port settings) = toArray (settings.value "accounts") := by
  simp [accountsOf]

@[simp] theorem value_port_withPortAndSettings :
    (withPortAndSettings inbound port settings).value "port" = some (.int port) := by
  rw [withPortAndSettings, value_insert_of_ne _ (by decide), value_insert_self]

end

@[simp] theorem toObject_some_object (o : JsonObject) : toObject (some (.object o)) = o := rfl

theorem accountText_newAccount (user pass : String) :
    accountText (newAccount user pass) "user" = user ∧ accountText (newAccount user pass) "pass" = pass := by
  simp [accountText, newAccount, value_insert_of_ne, Json.toString]

/-- The first SOCKS inbound has been given the port and the settings, which ask for a password and are the old ones but
for the accounts. -/
structure FirstPatched (xrayConfig xrayConfig' : JsonObject) (found : Json) (port : ℤ) (settings : JsonObject) :
    Prop where
  isSocks : isSocks found = true
  split : ∃ before after, inboundsOf xrayConfig = before ++ found :: after ∧
    (∀ inbound ∈ before, Inbounds.isSocks inbound = false) ∧
    xrayConfig' = xrayConfig.insert "inbounds" (.array
      (before ++ .object (withPortAndSettings (toObject (some found)) port settings) :: after))
  auth : settings.value "auth" = some (.string "password")
  others : ∀ key, key ≠ "auth" → key ≠ "accounts" →
    settings.value key = (settingsOf (toObject (some found))).value key

namespace FirstPatched

variable {xrayConfig xrayConfig' settings : JsonObject} {found : Json} {port : ℤ} {username password : String}
  (h : FirstPatched xrayConfig xrayConfig' found port settings)

include h

theorem patched : Patched found (.object (withPortAndSettings (toObject (some found)) port settings)) := by
  refine ⟨h.isSocks, fun key hport hkey => ?_, fun key hauth haccounts => ?_⟩
  · rw [toObject_some_object, withPortAndSettings, value_insert_of_ne _ hkey,
      value_insert_of_ne _ hport]
  · rw [toObject_some_object, settingsOf_withPortAndSettings, h.others key hauth haccounts]

theorem head : ((inboundsOf xrayConfig).filter Inbounds.isSocks).head? = some found := by
  obtain ⟨before, after, hinbounds, hbefore, -⟩ := h.split
  rw [hinbounds, filter_append_cons after hbefore h.isSocks, List.head?_cons]

theorem contract_iff (username password : String) :
    Contract xrayConfig xrayConfig' (some ⟨username, password, port⟩) ↔
      (∃ account ∈ toArray (settings.value "accounts"),
        accountText account "user" ≠ "" ∧ accountText account "pass" ≠ "") ∧
      (∀ inbound ∈ otherSocksInbounds xrayConfig, RequiresPassword inbound) ∧
      ((∃ account ∈ toArray (settings.value "accounts"),
          accountText account "user" = username ∧ accountText account "pass" = password) ∨
        ∃ inbound ∈ otherSocksInbounds xrayConfig, Accepts ⟨username, password, port⟩ inbound) := by
  obtain ⟨before, after, hinbounds, hbefore, rfl⟩ := h.split
  rw [Inbounds.contract_iff hinbounds hbefore h.patched]
  have hpassword : Json.toString (some (.string "password")) = "password" := rfl
  simp [RequiresPassword, Accepts, h.auth, h.patched.isSocks_right, hpassword]

theorem contract_iff_of_account (husername : username ≠ "") (hpassword : password ≠ "")
    (haccount : ∃ account ∈ toArray (settings.value "accounts"),
      accountText account "user" = username ∧ accountText account "pass" = password) :
    Contract xrayConfig xrayConfig' (some ⟨username, password, port⟩) ↔
      ∀ inbound ∈ otherSocksInbounds xrayConfig, RequiresPassword inbound := by
  obtain ⟨account, hmem, rfl, rfl⟩ := haccount
  rw [h.contract_iff]
  exact ⟨fun hall => hall.2.1, fun hothers =>
    ⟨⟨account, hmem, husername, hpassword⟩, hothers, Or.inl ⟨account, hmem, rfl, rfl⟩⟩⟩

end FirstPatched

/-! ### The desktop client -/

@[simp] theorem patchedSettings_insert_port (user pass : String) (inbound : JsonObject) (json : Json) :
    patchedSettings user pass (inbound.insert "port" json) = patchedSettings user pass inbound := by
  simp [patchedSettings, firstAccount]

theorem patchedSettings_spec (user pass : String) (inbound : JsonObject) :
    (patchedSettings user pass inbound).1.value "auth" = some (.string "password") ∧
      (∀ key, key ≠ "auth" → key ≠ "accounts" →
        (patchedSettings user pass inbound).1.value key = (settingsOf inbound).value key) ∧
      (user ≠ "" → pass ≠ "" →
        (patchedSettings user pass inbound).2.1 ≠ "" ∧ (patchedSettings user pass inbound).2.2 ≠ "") ∧
      ∃ account ∈ toArray ((patchedSettings user pass inbound).1.value "accounts"),
        accountText account "user" = (patchedSettings user pass inbound).2.1 ∧
        accountText account "pass" = (patchedSettings user pass inbound).2.2 := by
  unfold patchedSettings
  dsimp only
  by_cases hfresh : (firstAccount inbound).1 = "" ∨ (firstAccount inbound).2 = ""
  · rw [if_pos hfresh]
    refine ⟨value_insert_self _ _ _, fun key hauth haccounts => ?_, fun huser hpass => ⟨huser, hpass⟩,
      newAccount user pass, ?_, accountText_newAccount user pass⟩
    · rw [value_insert_of_ne _ hauth, value_insert_of_ne _ haccounts]
    · rw [value_insert_of_ne _ (by decide), value_insert_self]
      exact List.mem_singleton_self _
  · rw [if_neg hfresh]
    obtain ⟨huser, hpass⟩ := not_or.mp hfresh
    refine ⟨value_insert_self _ _ _, fun key hauth _ => value_insert_of_ne _ hauth _,
      fun _ _ => ⟨huser, hpass⟩, ?_⟩
    rw [value_insert_of_ne _ (by decide)]
    change ∃ account ∈ accountsOf inbound, _
    unfold firstAccount at huser ⊢
    cases haccounts : accountsOf inbound with
    | nil =>
      rw [haccounts] at huser
      exact absurd rfl huser
    | cons account others => exact ⟨account, List.mem_cons_self, rfl, rfl⟩

variable {freePort : Option ℤ} {xrayConfig xrayConfig' : JsonObject} {creds : InboundCredentials}

theorem ensureInboundAuth_cases (h : ensureInboundAuth freePort user pass xrayConfig = some (xrayConfig', creds)) :
    ((∀ inbound ∈ inboundsOf xrayConfig, isSocks inbound = false) ∧ xrayConfig' = xrayConfig) ∨
    ∃ port found, FirstPatched xrayConfig xrayConfig' found port
        (patchedSettings user pass (toObject (some found))).1 ∧
      creds = ⟨(patchedSettings user pass (toObject (some found))).2.1,
        (patchedSettings user pass (toObject (some found))).2.2, port⟩ := by
  unfold ensureInboundAuth at h
  dsimp only at h
  cases hindex : indexOfSocksInbound (inboundsOf xrayConfig) with
  | none =>
    rw [hindex] at h
    cases h
    exact Or.inl ⟨List.findIdx?_eq_none_iff.mp hindex, rfl⟩
  | some socksIdx =>
    rw [hindex] at h
    cases freePort with
    | none => cases h
    | some port =>
      obtain ⟨before, found, after, hinbounds, rfl, hfound, hbefore⟩ := split_of_findIdx? hindex
      dsimp only at h
      rw [hinbounds, getElem?_append_cons, set_append_cons, patchedSettings_insert_port] at h
      cases h
      have hspec := patchedSettings_spec user pass (toObject (some found))
      exact Or.inr ⟨port, found, ⟨hfound, ⟨before, after, hinbounds, hbefore, rfl⟩, hspec.1, hspec.2.1⟩, rfl⟩

theorem ensureInboundAuth_eq_some (port : ℤ) (user pass : String) (xrayConfig : JsonObject) :
    ∃ xrayConfig' creds, ensureInboundAuth (some port) user pass xrayConfig = some (xrayConfig', creds) := by
  unfold ensureInboundAuth
  dsimp only
  split
  next => exact ⟨_, _, rfl⟩
  next => exact ⟨_, _, rfl⟩

theorem contract_desktop_iff (huser : user ≠ "") (hpass : pass ≠ "")
    (h : ensureInboundAuth freePort user pass xrayConfig = some (xrayConfig', creds)) :
    Contract xrayConfig xrayConfig' (some creds) ↔
      (∃ inbound ∈ inboundsOf xrayConfig, isSocks inbound = true) ∧
        ∀ inbound ∈ otherSocksInbounds xrayConfig, RequiresPassword inbound := by
  rcases ensureInboundAuth_cases h with ⟨hnone, rfl⟩ | ⟨port, found, hpatched, rfl⟩
  · rw [contract_of_no_socks hnone]
    refine iff_of_false (by simp) ?_
    rintro ⟨⟨inbound, hmem, hsocks⟩, -⟩
    exact absurd hsocks (Bool.eq_false_iff.mp (hnone inbound hmem))
  · obtain ⟨-, -, hne, haccount⟩ := patchedSettings_spec user pass (toObject (some found))
    rw [hpatched.contract_iff_of_account (hne huser hpass).1 (hne huser hpass).2 haccount, and_iff_right]
    exact ⟨found, (List.mem_filter.mp (List.mem_of_head? hpatched.head)).1, hpatched.isSocks⟩

end Inbounds

/-! ### The Android client -/

namespace AndroidXray

open Inbounds

variable {user pass : String} {java : JavaText}

theorem isSocksInbound_eq (java : JavaText) : isSocksInbound java = isSocks := by
  have hempty : equalsInsensitive "" "socks" = false := by decide +kernel
  funext inbound
  cases inbound with
  | object o =>
    change equalsInsensitive (java.optString o "protocol") "socks" =
      equalsInsensitive (Json.toString (value o "protocol")) "socks"
    unfold JavaText.optString Json.toString
    cases value o "protocol" with
    | none => rfl
    | some json =>
      cases json with
      | string text => rfl
      | null | bool _ | double _ | array _ | object _ => exact (java.valueOf_ne_socks _).trans hempty.symm
  | null | bool _ | double _ | string _ | array _ => exact hempty.symm

theorem value_patchedSettings (user pass : String) (account : Option JsonObject) (settings : JsonObject) :
    (patchedSettings user pass account settings).value "auth" = some (.string "password") ∧
      ∀ key, key ≠ "auth" → key ≠ "accounts" →
        (patchedSettings user pass account settings).value key = settings.value key := by
  cases account with
  | none =>
    refine ⟨?_, fun key hauth haccounts => ?_⟩
    · exact (value_insert_of_ne _ (by decide) _).trans (value_insert_self _ _ _)
    · exact (value_insert_of_ne _ haccounts _).trans (value_insert_of_ne _ hauth _)
  | some account => exact ⟨value_insert_self _ _ _, fun key hauth _ => value_insert_of_ne _ hauth _⟩

theorem accounts_patchedSettings (user pass : String) (account : Option JsonObject) (inbound : JsonObject) :
    toArray ((patchedSettings user pass account (settingsOf inbound)).value "accounts") =
      if account.isSome then accountsOf inbound else [newAccount user pass] := by
  cases account with
  | none => exact congrArg toArray (value_insert_self _ _ _)
  | some account => exact congrArg toArray (value_insert_of_ne _ (by decide) _)

variable {freePort : Option ℤ} {xrayConfig xrayConfig' : JsonObject}

theorem ensureInboundAuth_cases (h : ensureInboundAuth java freePort user pass xrayConfig = some xrayConfig') :
    ((∀ inbound ∈ inboundsOf xrayConfig, isSocks inbound = false) ∧ xrayConfig' = xrayConfig) ∨
    ∃ port found account, freePort = some port ∧ keptAccount java (toObject (some found)) = some account ∧
      FirstPatched xrayConfig xrayConfig' found port
        (patchedSettings user pass account (settingsOf (toObject (some found)))) := by
  unfold ensureInboundAuth at h
  split at h
  next inbounds hvalue =>
    have hinbounds : inboundsOf xrayConfig = inbounds := congrArg toArray hvalue
    split at h
    next hindex =>
      cases h
      rw [findSocksInboundIndex, isSocksInbound_eq] at hindex
      exact Or.inl ⟨hinbounds ▸ List.findIdx?_eq_none_iff.mp hindex, rfl⟩
    next socksIdx hindex =>
      rw [findSocksInboundIndex, isSocksInbound_eq] at hindex
      obtain ⟨before, found, after, rfl, rfl, hfound, hbefore⟩ := split_of_findIdx? hindex
      obtain ⟨port, rfl, hbind⟩ := Option.bind_eq_some_iff.mp h
      obtain ⟨account, haccount, hset⟩ := Option.bind_eq_some_iff.mp hbind
      rw [getElem?_append_cons, keptAccount, accountsOf_insert_port] at haccount
      dsimp only at hset
      rw [getElem?_append_cons, set_append_cons, settingsOf_insert_port] at hset
      cases hset
      have hspec := value_patchedSettings user pass account (settingsOf (toObject (some found)))
      exact Or.inr ⟨port, found, account, rfl, haccount, hfound, ⟨before, after, hinbounds, hbefore, rfl⟩, hspec.1,
        hspec.2⟩
  next hvalue =>
    cases h
    refine Or.inl ⟨fun inbound hmem => ?_, rfl⟩
    unfold inboundsOf toArray at hmem
    split at hmem
    next inbounds hinbounds => exact absurd hinbounds (hvalue inbounds)
    next => exact absurd hmem List.not_mem_nil

theorem parseConfig_of_no_socks (hnone : ∀ inbound ∈ inboundsOf xrayConfig, isSocks inbound = false) :
    parseConfig java xrayConfig = none := by
  unfold parseConfig
  split
  next inbounds hvalue =>
    have hinbounds : inboundsOf xrayConfig = inbounds := congrArg toArray hvalue
    have hindex : findSocksInboundIndex java inbounds = none := by
      rw [findSocksInboundIndex, isSocksInbound_eq]
      exact List.findIdx?_eq_none_iff.mpr (hinbounds ▸ hnone)
    rw [hindex]
    rfl
  next => rfl

theorem keptAccount_eq_some {inbound account : JsonObject} (h : keptAccount java inbound = some (some account)) :
    (∃ others, accountsOf inbound = .object account :: others) ∧ java.optString account "user" ≠ "" ∧
      java.optString account "pass" ≠ "" := by
  unfold keptAccount at h
  split at h
  next => cases h
  next account' others haccounts =>
    by_cases hne : java.optString account' "user" ≠ "" ∧ java.optString account' "pass" ≠ ""
    · rw [if_pos hne] at h
      cases h
      exact ⟨⟨others, haccounts⟩, hne⟩
    · rw [if_neg hne] at h
      cases h
  next => cases h

/-- What the tunnel uses: the account that was kept, or the fresh one. -/
def usedCredentials (java : JavaText) (user pass : String) (port : ℤ) : Option JsonObject → InboundCredentials
  | some account => ⟨java.optString account "user", java.optString account "pass", port⟩
  | none => ⟨user, pass, port⟩

theorem parseConfig_of_patched {port : ℤ} {found : Json} {account : Option JsonObject}
    (haccount : keptAccount java (toObject (some found)) = some account)
    (h : FirstPatched xrayConfig xrayConfig' found port
      (patchedSettings user pass account (settingsOf (toObject (some found))))) :
    parseConfig java xrayConfig' = some (usedCredentials java user pass port account) := by
  obtain ⟨before, after, -, hbefore, rfl⟩ := h.split
  rw [parseConfig, value_insert_self]
  dsimp only
  rw [findSocksInboundIndex, isSocksInbound_eq, findIdx?_append_cons after hbefore h.patched.isSocks_right,
    Option.bind_eq_bind, Option.bind_some, getElem?_append_cons]
  simp only [toObject_some_object, parseConfig.portOf, value_port_withPortAndSettings, accountsOf_withPortAndSettings,
    accounts_patchedSettings]
  cases account with
  | none => rfl
  | some account =>
    obtain ⟨⟨others, haccounts⟩, -⟩ := keptAccount_eq_some haccount
    rw [if_pos Option.isSome_some, haccounts]
    rfl

/-- The account that the tunnel uses is one of the first SOCKS inbound. It reads the first account of it with the texts
of `org.json`, which gives a text to members that are none. -/
def UsesAccount (java : JavaText) (freePort : Option ℤ) (xrayConfig : JsonObject) : Prop :=
  ∀ inbound ∈ ((inboundsOf xrayConfig).filter isSocks).head?, ∀ account,
    keptAccount java (toObject (some inbound)) = some (some account) →
    (∃ other ∈ accountsOf (toObject (some inbound)),
      accountText other "user" = java.optString account "user" ∧
      accountText other "pass" = java.optString account "pass") ∨
    -- Another inbound that is on the new port already may have the account.
    ((∃ other ∈ accountsOf (toObject (some inbound)),
      accountText other "user" ≠ "" ∧ accountText other "pass" ≠ "") ∧
      ∃ port ∈ freePort, ∃ other ∈ otherSocksInbounds xrayConfig,
        Accepts ⟨java.optString account "user", java.optString account "pass", port⟩ other)

theorem contract_android_iff (huser : user ≠ "") (hpass : pass ≠ "")
    (h : ensureInboundAuth java freePort user pass xrayConfig = some xrayConfig') :
    Contract xrayConfig xrayConfig' (parseConfig java xrayConfig') ↔
      (∀ inbound ∈ otherSocksInbounds xrayConfig, RequiresPassword inbound) ∧
        UsesAccount java freePort xrayConfig := by
  rcases ensureInboundAuth_cases h with ⟨hnone, rfl⟩ | ⟨port, found, account, rfl, haccount, hpatched⟩
  · have hfilter : (inboundsOf xrayConfig').filter isSocks = [] :=
      List.filter_eq_nil_iff.mpr fun inbound hmem => Bool.eq_false_iff.mp (hnone inbound hmem)
    rw [contract_of_no_socks hnone, otherSocksInbounds, UsesAccount, hfilter]
    refine iff_of_true (parseConfig_of_no_socks hnone) ⟨fun inbound hmem => absurd hmem List.not_mem_nil, ?_⟩
    rintro inbound ⟨⟩
  · have haccounts := accounts_patchedSettings user pass account (toObject (some found))
    have hmem : ∀ inbound, inbound ∈ some found ↔ inbound = found := fun inbound => Option.mem_some.trans eq_comm
    simp only [parseConfig_of_patched haccount hpatched, UsesAccount, hpatched.head, hmem, forall_eq, haccount]
    cases account with
    | none =>
      rw [usedCredentials, hpatched.contract_iff_of_account huser hpass]
      · simp
      · rw [haccounts]
        exact ⟨newAccount user pass, List.mem_singleton_self _, accountText_newAccount user pass⟩
    | some account =>
      obtain ⟨-, huser', hpass'⟩ := keptAccount_eq_some haccount
      rw [usedCredentials, hpatched.contract_iff, haccounts, if_pos Option.isSome_some]
      -- An account with the texts of the kept one has a user and a password.
      have hused : (∃ other ∈ accountsOf (toObject (some found)),
          accountText other "user" = java.optString account "user" ∧
          accountText other "pass" = java.optString account "pass") →
          ∃ other ∈ accountsOf (toObject (some found)),
            accountText other "user" ≠ "" ∧ accountText other "pass" ≠ "" := by
        rintro ⟨other, hother, hname, hword⟩
        exact ⟨other, hother, hname ▸ huser', hword ▸ hpass'⟩
      simp only [Option.some.injEq, forall_eq', Option.mem_some_iff, exists_eq_left']
      constructor
      · rintro ⟨hrequires, hothers, haccept⟩
        exact ⟨hothers, haccept.imp_right fun haccept => ⟨hrequires, haccept⟩⟩
      · rintro ⟨hothers, haccount | ⟨hrequires, haccept⟩⟩
        · exact ⟨hused haccount, hothers, Or.inl haccount⟩
        · exact ⟨hrequires, hothers, Or.inr haccept⟩

end AndroidXray

/-! ### Both clients -/

/-- The texts of constants; numbers, arrays and objects are not told apart. -/
def JavaText.constants : JavaText where
  valueOf
    | .null => "null"
    | .bool true => "true"
    | .bool false => "false"
    | _ => "0"
  valueOf_ne_empty json := by
    split
    all_goals decide
  valueOf_ne_socks json := by
    split
    all_goals decide +kernel

def openInbound (protocol : String) (port : ℤ) : Json :=
  .object [("listen", .string "127.0.0.1"), ("port", .int port), ("protocol", .string protocol),
    ("settings", .object [("auth", .string "noauth"), ("udp", .bool true)])]

def nullAccountInbound : Json :=
  .object [("port", .int 10808), ("protocol", .string "socks"),
    ("settings", .object [("accounts", .array [.object [("pass", .null), ("user", .null)]])])]

def configWith (inbounds : List Json) : JsonObject := [("inbounds", .array inbounds)]

open Inbounds

/-- **The passwords of the SOCKS inbounds.** With random texts that are not empty, the desktop client achieves the
contract exactly if the configuration has a SOCKS inbound and all of them after the first one ask for a password
already. The Android client achieves it exactly if all of them after the first one do and the account that the tunnel
uses is one of the inbound. -/
theorem socks_inbounds_require_password_iff (java : JavaText) (freePort : Option ℤ) (user pass : String)
    (huser : user ≠ "") (hpass : pass ≠ "") (xrayConfig : JsonObject) :
    (∀ xrayConfig' creds, Inbounds.ensureInboundAuth freePort user pass xrayConfig = some (xrayConfig', creds) →
      (Contract xrayConfig xrayConfig' (some creds) ↔
        (∃ inbound ∈ inboundsOf xrayConfig, isSocks inbound = true) ∧
          ∀ inbound ∈ otherSocksInbounds xrayConfig, RequiresPassword inbound)) ∧
    ∀ xrayConfig', ensureInboundAuth java freePort user pass xrayConfig = some xrayConfig' →
      (Contract xrayConfig xrayConfig' (parseConfig java xrayConfig') ↔
        (∀ inbound ∈ otherSocksInbounds xrayConfig, RequiresPassword inbound) ∧
          UsesAccount java freePort xrayConfig) :=
  ⟨fun _ _ h => contract_desktop_iff huser hpass h, fun _ h => contract_android_iff huser hpass h⟩

/-- A configuration with one SOCKS inbound, after an inbound for HTTP. -/
theorem only_socks_inbound_requires_password :
    (∃ xrayConfig' creds, Inbounds.ensureInboundAuth (some 50000) "u" "p"
        (configWith [openInbound "http" 8080, openInbound "socks" 10808]) = some (xrayConfig', creds) ∧
      Contract (configWith [openInbound "http" 8080, openInbound "socks" 10808]) xrayConfig' (some creds)) ∧
    ∃ xrayConfig', ensureInboundAuth .constants (some 50000) "u" "p"
        (configWith [openInbound "http" 8080, openInbound "socks" 10808]) = some xrayConfig' ∧
      Contract (configWith [openInbound "http" 8080, openInbound "socks" 10808]) xrayConfig'
        (parseConfig .constants xrayConfig') := by
  have hfilter : (inboundsOf (configWith [openInbound "http" 8080, openInbound "socks" 10808])).filter isSocks =
      [openInbound "socks" 10808] := by
    change List.filter isSocks [openInbound "http" 8080, openInbound "socks" 10808] = _
    rw [List.filter_cons_of_neg (by decide +kernel), List.filter_cons_of_pos (by decide +kernel), List.filter_nil]
  have hothers : otherSocksInbounds (configWith [openInbound "http" 8080, openInbound "socks" 10808]) = [] := by
    rw [otherSocksInbounds, hfilter, List.tail_cons]
  have hboth := socks_inbounds_require_password_iff .constants (some 50000) "u" "p" (by decide) (by decide)
    (configWith [openInbound "http" 8080, openInbound "socks" 10808])
  rw [hothers] at hboth
  refine ⟨?_, ?_⟩
  · obtain ⟨xrayConfig', creds, hstep⟩ := ensureInboundAuth_eq_some 50000 "u" "p"
      (configWith [openInbound "http" 8080, openInbound "socks" 10808])
    refine ⟨xrayConfig', creds, hstep, (hboth.1 _ _ hstep).mpr ⟨⟨openInbound "socks" 10808, ?_, by decide +kernel⟩, ?_⟩⟩
    · exact List.mem_cons_of_mem _ List.mem_cons_self
    · exact fun inbound hmem => absurd hmem List.not_mem_nil
  · obtain ⟨xrayConfig', hstep⟩ := Option.isSome_iff_exists.mp (show (ensureInboundAuth .constants
      (some 50000) "u" "p" (configWith [openInbound "http" 8080, openInbound "socks" 10808])).isSome from
        by decide +kernel)
    refine ⟨xrayConfig', hstep, (hboth.2 _ hstep).mpr ⟨fun inbound hmem => absurd hmem List.not_mem_nil, ?_⟩⟩
    rw [UsesAccount, hfilter]
    rintro inbound ⟨⟩ account haccount
    cases haccount

/-- Of two SOCKS inbounds without a password, the second one stays without. Without a SOCKS inbound the desktop client
connects to a port on which nothing listens, and the Android client takes an account without a user for one. -/
theorem second_socks_inbound_stays_open :
    (∃ xrayConfig' creds, Inbounds.ensureInboundAuth (some 50000) "u" "p"
        (configWith [openInbound "socks" 10808, openInbound "socks" 10809]) = some (xrayConfig', creds) ∧
      ¬ Contract (configWith [openInbound "socks" 10808, openInbound "socks" 10809]) xrayConfig' (some creds)) ∧
    (∃ xrayConfig', ensureInboundAuth .constants (some 50000) "u" "p"
        (configWith [openInbound "socks" 10808, openInbound "socks" 10809]) = some xrayConfig' ∧
      ¬ Contract (configWith [openInbound "socks" 10808, openInbound "socks" 10809]) xrayConfig'
        (parseConfig .constants xrayConfig')) ∧
    (∃ xrayConfig' creds, Inbounds.ensureInboundAuth (some 50000) "u" "p"
        (configWith [openInbound "http" 8080]) = some (xrayConfig', creds) ∧
      ¬ Contract (configWith [openInbound "http" 8080]) xrayConfig' (some creds)) ∧
    ∃ xrayConfig', ensureInboundAuth .constants (some 50000) "u" "p"
        (configWith [nullAccountInbound]) = some xrayConfig' ∧
      ¬ Contract (configWith [nullAccountInbound]) xrayConfig' (parseConfig .constants xrayConfig') := by
  have hsocks : isSocks (openInbound "socks" 10809) = true := by decide +kernel
  have hother : openInbound "socks" 10809 ∈
      otherSocksInbounds (configWith [openInbound "socks" 10808, openInbound "socks" 10809]) := by
    have hfilter : (inboundsOf (configWith [openInbound "socks" 10808, openInbound "socks" 10809])).filter isSocks =
        [openInbound "socks" 10808, openInbound "socks" 10809] := by
      rw [inboundsOf, configWith]
      change List.filter isSocks [_, _] = _
      rw [List.filter_cons_of_pos (by decide +kernel), List.filter_cons_of_pos hsocks, List.filter_nil]
    rw [otherSocksInbounds, hfilter]
    exact List.mem_singleton_self _
  have hopen : ¬ RequiresPassword (openInbound "socks" 10809) := fun h => absurd h.1 (by decide +kernel)
  refine ⟨?_, ?_, ?_, ?_⟩
  · obtain ⟨xrayConfig', creds, hstep⟩ := ensureInboundAuth_eq_some 50000 "u" "p"
      (configWith [openInbound "socks" 10808, openInbound "socks" 10809])
    refine ⟨xrayConfig', creds, hstep, fun hcontract => hopen ?_⟩
    exact ((contract_desktop_iff (by decide) (by decide) hstep).mp hcontract).2 _ hother
  · obtain ⟨xrayConfig', hstep⟩ := Option.isSome_iff_exists.mp (show (ensureInboundAuth .constants
      (some 50000) "u" "p" (configWith [openInbound "socks" 10808, openInbound "socks" 10809])).isSome from
        by decide +kernel)
    refine ⟨xrayConfig', hstep, fun hcontract => hopen ?_⟩
    exact ((contract_android_iff (by decide) (by decide) hstep).mp hcontract).1 _ hother
  · obtain ⟨xrayConfig', creds, hstep⟩ := ensureInboundAuth_eq_some 50000 "u" "p" (configWith [openInbound "http" 8080])
    refine ⟨xrayConfig', creds, hstep, fun hcontract => ?_⟩
    obtain ⟨⟨inbound, hmem, hinbound⟩, -⟩ := (contract_desktop_iff (by decide) (by decide) hstep).mp hcontract
    cases List.mem_singleton.mp hmem
    exact absurd hinbound (by decide +kernel)
  · obtain ⟨xrayConfig', hstep⟩ := Option.isSome_iff_exists.mp (show (ensureInboundAuth .constants
      (some 50000) "u" "p" (configWith [nullAccountInbound])).isSome from by decide +kernel)
    refine ⟨xrayConfig', hstep, fun hcontract => ?_⟩
    have huses := ((contract_android_iff (by decide) (by decide) hstep).mp hcontract).2
    have hhead : ((inboundsOf (configWith [nullAccountInbound])).filter isSocks).head? = some nullAccountInbound := by
      change (List.filter isSocks [nullAccountInbound]).head? = _
      rw [List.filter_cons_of_pos (by decide +kernel), List.head?_cons]
    rcases huses nullAccountInbound hhead [("pass", .null), ("user", .null)] rfl with
      ⟨other, hmem, hname, -⟩ | ⟨⟨other, hmem, hname, -⟩, -⟩
    · cases List.mem_singleton.mp hmem
      exact absurd hname (by decide)
    · cases List.mem_singleton.mp hmem
      exact absurd rfl hname

end FreshVpn
