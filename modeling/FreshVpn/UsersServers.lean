import Mathlib.Data.Multiset.ZeroCons
import FreshVpn.UsersRevocation
import FreshVpn.WireguardSections

/-! The servers that clients are revoked on. For WireGuard and AmneziaWG the clients are sections of a text, and the
client is looked for as a text within them; for Xray they are the elements of an array with an id. -/

namespace FreshVpn

open Json (toObject toArray)
open Lines

namespace UsersController

/-! ### WireGuard and AmneziaWG -/

/-- `QString::split` at a separator; `skip` characters of an occurrence are still to be passed over. -/
def splitText (separator : List Char) : ℕ → List Char → List (List Char)
  | _, [] => [[]]
  | skip + 1, _ :: rest => splitText separator skip rest
  | 0, c :: rest =>
    if separator.isPrefixOf (c :: rest) then [] :: splitText separator (separator.length - 1) rest
    else (splitText separator 0 rest).modifyHead (c :: ·)

/-- The keys that `getWireGuardClients` reads. -/
def wireguardKeys (config : List Char) : List String :=
  ((config.splitOn '\n').filter fun line => line ≠ []).filterMap fun line =>
    let configPair := (splitText " = ".toList 0 line).filter fun part => part ≠ []
    if configPair.head? = some "PublicKey".toList then configPair.getLast?.map String.ofList else none

def configSections (config : List Char) : List (List Char) := (config.splitOn '[').filter fun part => part ≠ []

/-- What `revokeWireGuard` makes of the configuration. -/
def removeSection (clientId : String) (config : List Char) : List Char :=
  let parts :=
    match (configSections config).find? fun part => containsChars clientId.toList part with
    | some part => (configSections config).erase part
    | none => configSections config
  '[' :: ['['].intercalate parts

/-! ### Xray -/

/-- The clients of the first inbound, with the checks of `getXrayClients` and `revokeXray`. A text that is no object
stands as the empty object, with which the first check fails. -/
def inboundClients (configObj : JsonObject) : Except ErrorCode (List Json) :=
  if !configObj.contains "inbounds" then .error .internalError
  else
    match toArray (configObj.value "inbounds") with
    | [] => .error .internalError
    | first :: _ =>
      let inbound := toObject (some first)
      if !inbound.contains "settings" then .error .internalError
      else
        let settings := toObject (inbound.value "settings")
        if !settings.contains "clients" then .error .internalError
        else .ok (toArray (settings.value "clients"))

/-- The configuration with other clients in the first inbound. -/
def withClients (configObj : JsonObject) (clients : List Json) : JsonObject :=
  match toArray (configObj.value "inbounds") with
  | [] => configObj
  | first :: others =>
    let inbound := toObject (some first)
    let settings := (toObject (inbound.value "settings")).insert "clients" (.array clients)
    configObj.insert "inbounds" (.array (.object (inbound.insert "settings" (.object settings)) :: others))

def entryId (client : Json) : Option String :=
  let clientObj := toObject (some client)
  if clientObj.contains "id" then some (Json.toString (clientObj.value "id")) else none

def hasEntryId (clientId : String) (client : Json) : Bool := entryId client = some clientId

/-- The ids that `getXrayClients` makes rows for. -/
def xrayIds (xrayDefaultUuid : String) (clients : List Json) : List String :=
  (clients.filterMap entryId).filter fun clientId => clientId ≠ xrayDefaultUuid

/-- What `revokeXray` makes of the configuration. -/
def removeClient (clientId : String) (configObj : JsonObject) : Except ErrorCode JsonObject :=
  match inboundClients configObj with
  | .error error => .error error
  | .ok [] => .error .internalError
  | .ok clients => .ok (withClients configObj (clients.eraseP (hasEntryId clientId)))

end UsersController

/-- The configuration of a container whose clients can be revoked; for Xray also the id in its file of the default
client, for which no row is made. -/
inductive VpnServer where
  | wireGuard (config : List Char)
  | xray (xrayDefaultUuid : String) (configObj : JsonObject)

namespace VpnServer

open UsersController

def service : ClientService VpnServer where
  clientIds
    | .wireGuard config => .ok (wireguardKeys config)
    | .xray xrayDefaultUuid configObj => (inboundClients configObj).map (xrayIds xrayDefaultUuid)
  revoke clientId
    | .wireGuard config => .ok (.wireGuard (removeSection clientId config))
    | .xray xrayDefaultUuid configObj => (removeClient clientId configObj).map (.xray xrayDefaultUuid)

end VpnServer

namespace UsersController

variable {clients : List Json} {clientId : String}

/-! ### Sections that leave -/

variable {part : List Char} {configObj' : JsonObject}

def leadText (config : List Char) : List Char := config.takeWhile fun c => c ≠ '['

/-- The sections of a configuration: what stands behind a bracket. -/
def sectionsOf (config : List Char) : List (List Char) := (config.splitOn '[').tail.filter fun part => part ≠ []

/-- A section is that of the peer with the key. -/
def IsPeer (clientId : String) (part : List Char) : Prop :=
  "Peer]".toList <+: part ∧ "PublicKey = ".toList ++ clientId.toList ∈ part.splitOn '\n'

instance (clientId : String) (part : List Char) : Decidable (IsPeer clientId part) :=
  inferInstanceAs (Decidable (_ ∧ _))

def OnlyPeerLeaves (clientId : String) (config config' : List Char) : Prop :=
  leadText config' = leadText config ∧
    ∃ before part after, sectionsOf config = before ++ part :: after ∧ IsPeer clientId part ∧
      sectionsOf config' = before ++ after

/-- The configuration begins with a section, and the first section in which the id occurs is that of the peer. -/
def FirstIsPeer (clientId : String) (config : List Char) : Prop :=
  config.head? = some '[' ∧
    ∃ part ∈ (configSections config).find? fun part => containsChars clientId.toList part, IsPeer clientId part

theorem configSections_of_bracket (rest : List Char) : configSections ('[' :: rest) = sectionsOf ('[' :: rest) := by
  rfl

theorem sectionsOf_intercalate {parts : List (List Char)} (h : ∀ part ∈ parts, '[' ∉ part ∧ part ≠ []) :
    sectionsOf ('[' :: ['['].intercalate parts) = parts := by
  by_cases hparts : parts = []
  · subst hparts
    decide
  · rw [sectionsOf, cons_intercalate '[' hparts, splitOn_sections fun part hpart => (h part hpart).1, List.tail_cons,
      List.filter_eq_self]
    exact fun part hpart => decide_eq_true (h part hpart).2

variable {config : List Char} {configObj : JsonObject}

theorem mem_configSections (h : part ∈ configSections config) : '[' ∉ part ∧ part ≠ [] := by
  obtain ⟨hsplit, hne⟩ := List.mem_filter.mp h
  refine ⟨fun hmem => ?_, of_decide_eq_true hne⟩
  simpa using Lines.forall_of_mem_splitOnP hsplit _ hmem

theorem sectionsOf_removeSection {before after : List (List Char)}
    (hsections : configSections config = before ++ part :: after) (hpart : containsChars clientId.toList part = true)
    (hbefore : ∀ other ∈ before, containsChars clientId.toList other = false) :
    sectionsOf (removeSection clientId config) = before ++ after := by
  have hfind : (configSections config).find? (fun part => containsChars clientId.toList part) = some part := by
    rw [List.find?_eq_some_iff_append]
    exact ⟨hpart, before, after, hsections, fun other hother => by rw [hbefore other hother]; rfl⟩
  have hnotMem : part ∉ before := fun hmem => Bool.false_ne_true ((hbefore part hmem).symm.trans hpart)
  have herase : (configSections config).erase part = before ++ after := by
    rw [hsections, List.erase_append_right _ hnotMem, List.erase_cons_head]
  rw [removeSection, hfind]
  dsimp only
  rw [herase]
  apply sectionsOf_intercalate
  intro other hother
  have hmem : other ∈ configSections config := by
    rw [hsections]
    simp only [List.mem_append, List.mem_cons] at hother ⊢
    tauto
  exact mem_configSections hmem

theorem sectionsOf_removeSection_of_none
    (h : (configSections config).find? (fun part => containsChars clientId.toList part) = none) :
    sectionsOf (removeSection clientId config) = configSections config := by
  rw [removeSection, h]
  exact sectionsOf_intercalate fun part hpart => mem_configSections hpart

theorem leadText_eq_nil_iff (h : sectionsOf config ≠ []) : leadText config = [] ↔ config.head? = some '[' := by
  cases config with
  | nil => exact absurd rfl h
  | cons c rest => simp [leadText]

theorem eq_of_append_cons_eq {α : Type*} {before after before' after' : List α} {a b : α}
    (hlists : before ++ a :: after = before' ++ b :: after') (hrest : before ++ after = before' ++ after') : a = b := by
  have hleft : (before ++ a :: after).Perm (a :: (before ++ after)) := List.perm_middle
  have hright : (before' ++ b :: after').Perm (b :: (before' ++ after')) := List.perm_middle
  rw [← hlists, ← hrest] at hright
  have heq : a ::ₘ (↑(before ++ after) : Multiset α) = b ::ₘ ↑(before ++ after) :=
    Multiset.coe_eq_coe.mpr (hleft.symm.trans hright)
  exact (Multiset.cons_inj_left _).mp heq

theorem onlyPeerLeaves_iff (clientId : String) (config : List Char) :
    OnlyPeerLeaves clientId config (removeSection clientId config) ↔ FirstIsPeer clientId config := by
  constructor
  · rintro ⟨hlead, before, part, after, hsections, hpeer, hrest⟩
    have hbracket : config.head? = some '[' := by
      rw [← leadText_eq_nil_iff (by rw [hsections]; simp), ← hlead]
      rfl
    have hsame : configSections config = sectionsOf config := by
      obtain ⟨rest, rfl⟩ := List.head?_eq_some_iff.mp hbracket
      exact configSections_of_bracket rest
    refine ⟨hbracket, ?_⟩
    cases hfind : (configSections config).find? fun part => containsChars clientId.toList part with
    | none =>
      rw [sectionsOf_removeSection_of_none hfind, hsame, hsections] at hrest
      have hlength := congrArg List.length hrest
      simp at hlength
    | some found =>
      obtain ⟨hfound, before', after', hsplit, hbefore⟩ := List.find?_eq_some_iff_append.mp hfind
      rw [sectionsOf_removeSection hsplit hfound fun other hother => by simpa using hbefore other hother] at hrest
      have heq : part = found :=
        eq_of_append_cons_eq (hsections.symm.trans (hsame.symm.trans hsplit)) hrest.symm
      exact ⟨found, rfl, heq ▸ hpeer⟩
  · rintro ⟨hbracket, part, hfind, hpeer⟩
    obtain ⟨hpart, before, after, hsplit, hbefore⟩ := List.find?_eq_some_iff_append.mp hfind
    obtain ⟨rest, rfl⟩ := List.head?_eq_some_iff.mp hbracket
    refine ⟨rfl, before, part, after, ?_, hpeer, ?_⟩
    · rw [← configSections_of_bracket, hsplit]
    · exact sectionsOf_removeSection hsplit hpart fun other hother => by simpa using hbefore other hother

theorem empty_not_mem_wireguardKeys (config : List Char) : "" ∉ wireguardKeys config := by
  intro hmem
  obtain ⟨line, -, hline⟩ := List.mem_filterMap.mp hmem
  dsimp only at hline
  split_ifs at hline
  obtain ⟨part, hpart, hempty⟩ := Option.map_eq_some_iff.mp hline
  have hne : part ≠ [] := of_decide_eq_true (List.mem_filter.mp (List.mem_of_getLast? hpart)).2
  apply hne
  rw [← String.toList_ofList (l := part), hempty]
  rfl

/-! ### Entries that leave -/

def OnlyEntryLeaves (clientId : String) (configObj configObj' : JsonObject) : Prop :=
  ∃ before client after, inboundClients configObj = .ok (before ++ client :: after) ∧ hasEntryId clientId client = true ∧
    configObj' = withClients configObj (before ++ after)

/-- An entry of the first inbound has the id. -/
def HasEntry (clientId : String) (configObj : JsonObject) : Prop :=
  ∃ clients client, inboundClients configObj = .ok clients ∧ client ∈ clients ∧ hasEntryId clientId client = true

theorem inboundClients_withClients (h : inboundClients configObj = .ok clients) (others : List Json) :
    inboundClients (withClients configObj others) = .ok others := by
  unfold inboundClients at h
  split_ifs at h with hcontains
  cases hinbounds : toArray (configObj.value "inbounds") with
  | nil =>
    rw [hinbounds] at h
    cases h
  | cons first rest =>
    rw [withClients, hinbounds]
    rw [inboundClients, JsonObject.contains, JsonObject.value_insert_self]
    simp [JsonObject.contains]

theorem removeClient_of_clients (clientId : String) (h : inboundClients configObj = .ok clients) (hne : clients ≠ []) :
    removeClient clientId configObj =
      .ok (withClients configObj (clients.eraseP (hasEntryId clientId))) := by
  cases clients with
  | nil => exact absurd rfl hne
  | cons client clients => rw [removeClient, h]

theorem clients_of_removeClient (h : removeClient clientId configObj = .ok configObj') :
    ∃ clients, inboundClients configObj = .ok clients ∧ clients ≠ [] ∧
      configObj' = withClients configObj (clients.eraseP (hasEntryId clientId)) := by
  cases hclients : inboundClients configObj with
  | error error =>
    rw [removeClient, hclients] at h
    cases h
  | ok clients =>
    by_cases hne : clients = []
    · rw [removeClient, hclients, hne] at h
      cases h
    · rw [removeClient_of_clients clientId hclients hne] at h
      cases h
      exact ⟨clients, rfl, hne, rfl⟩

theorem onlyEntryLeaves_iff (h : removeClient clientId configObj = .ok configObj') :
    OnlyEntryLeaves clientId configObj configObj' ↔ HasEntry clientId configObj := by
  obtain ⟨clients, hclients, -, rfl⟩ := clients_of_removeClient h
  constructor
  · rintro ⟨before, client, after, hsplit, hclient, -⟩
    exact ⟨_, client, hsplit, List.mem_append_right _ List.mem_cons_self, hclient⟩
  · rintro ⟨clients', client, hsame, hmem, hclient⟩
    cases hclients.symm.trans hsame
    obtain ⟨client', before, after, -, hclient', rfl, herase⟩ := List.exists_of_eraseP hmem hclient
    exact ⟨before, client', after, hclients, hclient', by rw [herase]⟩

theorem xrayIds_sublist (xrayDefaultUuid clientId : String) (clients : List Json) :
    (xrayIds xrayDefaultUuid (clients.eraseP (hasEntryId clientId))).Sublist (xrayIds xrayDefaultUuid clients) :=
  (List.eraseP_sublist.filterMap _).filter _

theorem count_xrayIds_lt {xrayDefaultUuid : String} (h : 0 < (xrayIds xrayDefaultUuid clients).count "") :
    (xrayIds xrayDefaultUuid (clients.eraseP (hasEntryId ""))).count "" < (xrayIds xrayDefaultUuid clients).count "" := by
  obtain ⟨hids, hdefault⟩ := List.mem_filter.mp (List.count_pos_iff.mp h)
  obtain ⟨client, hmem, hclient⟩ := List.mem_filterMap.mp hids
  obtain ⟨client', before, after, -, hclient', rfl, herase⟩ :=
    List.exists_of_eraseP hmem (show hasEntryId "" client = true from decide_eq_true hclient)
  have hentry : entryId client' = some "" := of_decide_eq_true hclient'
  rw [herase, xrayIds, xrayIds, List.filterMap_append, List.filterMap_append, List.filterMap_cons_some hentry,
    List.filter_append, List.filter_append, List.filter_cons, if_pos hdefault, List.count_append, List.count_append,
    List.count_cons_self]
  omega

end UsersController

namespace VpnServer

variable {configObj : JsonObject}

open UsersController

/-! ### Both kinds of servers -/

theorem emptyIds_wireGuard (config : List Char) : emptyIds service (.wireGuard config) = 0 :=
  List.count_eq_zero.mpr (empty_not_mem_wireguardKeys config)

theorem emptyIds_xray (xrayDefaultUuid : String) {clients : List Json} (h : inboundClients configObj = .ok clients) :
    emptyIds service (.xray xrayDefaultUuid configObj) = (xrayIds xrayDefaultUuid clients).count "" := by
  show (((inboundClients configObj).map (xrayIds xrayDefaultUuid)).toOption.getD []).count "" = _
  rw [h]
  rfl

variable {clientId : String} {server : VpnServer}

theorem clients_of_revoke_xray {xrayDefaultUuid : String}
    (h : service.revoke clientId (.xray xrayDefaultUuid configObj) = .ok server) :
    ∃ clients, inboundClients configObj = .ok clients ∧ clients ≠ [] ∧
      server = .xray xrayDefaultUuid (withClients configObj (clients.eraseP (hasEntryId clientId))) := by
  change (removeClient clientId configObj).map _ = _ at h
  cases hremove : removeClient clientId configObj with
  | error error =>
    rw [hremove] at h
    cases h
  | ok configObj' =>
    rw [hremove] at h
    cases h
    obtain ⟨clients, hclients, hne, rfl⟩ := clients_of_removeClient hremove
    exact ⟨clients, hclients, hne, rfl⟩

theorem inboundClients_error {error : ErrorCode} (h : inboundClients configObj = .error error) :
    error = .internalError := by
  unfold inboundClients at h
  split_ifs at h
  · cases h
    rfl
  · split at h
    · cases h
      rfl
    · dsimp only at h
      split_ifs at h
      · cases h
        rfl
      · cases h
        rfl

theorem lawful_service : Lawful service where
  clientIds_error := by
    intro server error h
    cases server with
    | wireGuard config => cases h
    | xray xrayDefaultUuid configObj =>
      change (inboundClients configObj).map _ = _ at h
      cases hclients : inboundClients configObj with
      | error error' =>
        rw [hclients] at h
        cases h
        rw [inboundClients_error hclients]
        decide
      | ok clients =>
        rw [hclients] at h
        cases h
  revoke_error := by
    intro clientId server error h
    cases server with
    | wireGuard config => cases h
    | xray xrayDefaultUuid configObj =>
      change (removeClient clientId configObj).map _ = _ at h
      rw [removeClient] at h
      split at h
      next error' hclients =>
        cases h
        rw [inboundClients_error hclients]
        decide
      next =>
        cases h
        decide
      next => cases h
  emptyIds_le := by
    intro clientId server server' h
    cases server with
    | wireGuard config =>
      cases h
      rw [emptyIds_wireGuard, emptyIds_wireGuard]
    | xray xrayDefaultUuid configObj =>
      obtain ⟨clients, hclients, -, rfl⟩ := clients_of_revoke_xray h
      rw [emptyIds_xray _ hclients, emptyIds_xray _ (inboundClients_withClients hclients _)]
      exact (xrayIds_sublist xrayDefaultUuid clientId clients).count_le ""
  emptyIds_lt := by
    intro server server' h hpos
    cases server with
    | wireGuard config =>
      rw [emptyIds_wireGuard] at hpos
      exact absurd hpos (Nat.lt_irrefl 0)
    | xray xrayDefaultUuid configObj =>
      obtain ⟨clients, hclients, -, rfl⟩ := clients_of_revoke_xray h
      rw [emptyIds_xray _ hclients] at hpos ⊢
      rw [emptyIds_xray _ (inboundClients_withClients hclients _)]
      exact count_xrayIds_lt hpos

def without (clientId : String) (server : VpnServer) : VpnServer :=
  match service.revoke clientId server with
  | .ok server' => server'
  | .error _ => server

/-- Exactly the entry of the client leaves the configuration. -/
def OnlyClientLeaves (clientId : String) : VpnServer → VpnServer → Prop
  | .wireGuard config, .wireGuard config' => OnlyPeerLeaves clientId config config'
  | .xray xrayDefaultUuid configObj, .xray xrayDefaultUuid' configObj' =>
    xrayDefaultUuid' = xrayDefaultUuid ∧ OnlyEntryLeaves clientId configObj configObj'
  | _, _ => False

def FindsEntry (clientId : String) : VpnServer → Prop
  | .wireGuard config => FirstIsPeer clientId config
  | .xray _ configObj => HasEntry clientId configObj

theorem onlyClientLeaves_iff {server' : VpnServer} (h : service.revoke clientId server = .ok server') :
    OnlyClientLeaves clientId server server' ↔ FindsEntry clientId server := by
  cases server with
  | wireGuard config =>
    cases h
    exact onlyPeerLeaves_iff clientId config
  | xray xrayDefaultUuid configObj =>
    obtain ⟨clients, hclients, hne, rfl⟩ := clients_of_revoke_xray h
    exact (and_iff_right rfl).trans (onlyEntryLeaves_iff (removeClient_of_clients clientId hclients hne))

theorem revoke_of_findsEntry (h : FindsEntry clientId server) :
    ∃ server', service.revoke clientId server = .ok server' := by
  cases server with
  | wireGuard config => exact ⟨_, rfl⟩
  | xray xrayDefaultUuid configObj =>
    obtain ⟨clients, client, hclients, hmem, -⟩ := h
    refine ⟨.xray xrayDefaultUuid (withClients configObj (clients.eraseP (hasEntryId clientId))), ?_⟩
    show (removeClient clientId configObj).map _ = _
    rw [removeClient_of_clients clientId hclients (List.ne_nil_of_mem hmem)]
    rfl

end VpnServer

end FreshVpn

