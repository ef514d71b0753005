import FreshVpn.UsersServers

/-! What the revocation of one client does in all. -/

namespace FreshVpn

open UsersController VpnServer FirstMatch

/-- What the user can ask for: to revoke the client of a row, or to clear the profile of this device. -/
inductive RevocationRequest where
  | revokeClient (index : ℕ)
  | clearCachedProfile

namespace RevocationRequest

variable {row : Json} {s : Users VpnServer} {rows : List Json} {request : RevocationRequest}

def perform (depth : ℕ) (s : Users VpnServer) : RevocationRequest → Option (Users VpnServer)
  | .revokeClient index => UsersController.revokeClient service depth index s
  | .clearCachedProfile => UsersController.clearCachedProfile service depth s

/-- A row of a table, and the other rows. -/
def rowAt (clientsTable : List Json) (index : ℕ) : Option (Json × List Json) :=
  clientsTable[index]?.map fun row => (row, clientsTable.eraseIdx index)

def requested (s : Users VpnServer) : RevocationRequest → Option (Json × List Json)
  | .revokeClient index => rowAt s.clientsTable index
  | .clearCachedProfile =>
    match updatedTable service s with
    | .error _ => none
    | .ok clientsTable => (clientIndexById s.profile clientsTable).bind (rowAt clientsTable)

def Exact (s : Users VpnServer) (request : RevocationRequest) (s' : Users VpnServer) : Prop :=
  ∃ row rows, request.requested s = some (row, rows) ∧ s'.revoked = s.revoked ++ [row] ∧
    rows <+: fileRows s'.clientsTableFile ∧ OnlyClientLeaves (rowClientId row) s.server s'.server

/-! ### When a request is exact -/

/-- The id that is looked for after the client has been revoked. -/
def nextId (s : Users VpnServer) (clientId : String) : RevocationRequest → Option String
  | .revokeClient _ => if isAdminConfig clientId s.profile then some s.profile else none
  | .clearCachedProfile => some ""

/-- There is a client with the id to be revoked: a row, or, if there are no rows, an entry on the server. On an Xray
server no client is revoked if there is no entry at all. -/
def follows (clientId : String) (rows : List Json) (server : VpnServer) : Bool :=
  (if rows.isEmpty then ((service.clientIds server).toOption.getD []).contains clientId
    else isClientExists clientId rows) &&
  (service.revoke clientId server).toOption.isSome

/-- The entry that is found for the id of the row is that of the client, and no client is left that the next call would
revoke too. -/
def Alone (s : Users VpnServer) (request : RevocationRequest) : Prop :=
  ∃ row rows, request.requested s = some (row, rows) ∧ FindsEntry (rowClientId row) s.server ∧
    ∀ clientId ∈ request.nextId s (rowClientId row),
      follows clientId rows (s.server.without (rowClientId row)) = false

theorem quiet_iff (server : VpnServer) (rows revoked : List Json) (profile : String) :
    Quiet service ⟨server, .array rows, rows, profile, revoked⟩ ↔ follows profile rows server = false := by
  rw [← not_iff_not, not_quiet_iff, exists_revokes_iff, Bool.not_eq_false, follows, Bool.and_eq_true]
  have hrevoke : (∃ server', service.revoke profile server = .ok server') ↔
      (service.revoke profile server).toOption.isSome = true := by
    cases service.revoke profile server with
    | error | ok => simp [Except.toOption]
  rw [← hrevoke]
  cases rows with
  | nil =>
    cases hids : service.clientIds server with
    | error error => simp [updatedTable, Json.toArray, hids, Except.toOption]
    | ok clientIds =>
      have hempty : isClientExists profile [] = false := List.any_nil
      simp [updatedTable, Json.toArray, Json.toObject, migration, hids, Except.toOption,
        isClientExists_appendClients, hempty]
  | cons row rows => simp [updatedTable, Json.toArray]

theorem requested_of_split {before after : List Json} {client : Json}
    (htable : updatedTable service s = .ok (before ++ client :: after))
    (hclient : hasClientId s.profile client = true) (hbefore : ∀ row ∈ before, hasClientId s.profile row = false) :
    RevocationRequest.clearCachedProfile.requested s = some (client, before ++ after) := by
  rw [requested, htable]
  dsimp only
  rw [clientIndexById_eq, findIdx?_append_cons _ hbefore hclient, Option.bind_some, rowAt,
    getElem?_append_cons, eraseIdx_append_cons]
  rfl

theorem split_of_requested (h : RevocationRequest.clearCachedProfile.requested s = some (row, rows)) :
    ∃ before after, updatedTable service s = .ok (before ++ row :: after) ∧
      hasClientId s.profile row = true ∧ ∀ other ∈ before, hasClientId s.profile other = false := by
  cases htable : updatedTable service s with
  | error error =>
    rw [requested, htable] at h
    cases h
  | ok clientsTable =>
    rw [requested, htable] at h
    obtain ⟨index, hindex, hrow⟩ := Option.bind_eq_some_iff.mp h
    obtain ⟨before, client, after, rfl, rfl, hclient, hbefore⟩ := split_of_findIdx? hindex
    rw [rowAt, getElem?_append_cons] at hrow
    cases hrow
    exact ⟨before, after, rfl, hclient, hbefore⟩

theorem without_of_revoke {clientId : String} {server server' : VpnServer}
    (h : service.revoke clientId server = .ok server') : server.without clientId = server' := by
  rw [without, h]

variable {s' : Users VpnServer}

section
variable (hrequested : request.requested s = some (row, rows))
include hrequested

theorem exact_iff_of_revoked (hserver : service.revoke (rowClientId row) s.server = .ok s'.server)
    (hrevoked : s'.revoked = s.revoked ++ [row]) (hrest : rows <+: fileRows s'.clientsTableFile) :
    Exact s request s' ↔ FindsEntry (rowClientId row) s.server := by
  rw [← onlyClientLeaves_iff hserver]
  constructor
  · rintro ⟨row', rows', hrequested', -, -, hleaves⟩
    cases hrequested.symm.trans hrequested'
    exact hleaves
  · intro hleaves
    exact ⟨row, rows, hrequested, hrevoked, hrest, hleaves⟩

theorem exact_iff_of_cleared {server : VpnServer} {profile : String}
    (hserver : service.revoke (rowClientId row) s.server = .ok server)
    (hfinishes : Finishes (UsersController.clearCachedProfile service ·
      ⟨server, .array rows, rows, profile, s.revoked ++ [row]⟩) s') :
    Exact s request s' ↔
      FindsEntry (rowClientId row) s.server ∧
        follows profile rows (s.server.without (rowClientId row)) = false := by
  obtain ⟨s'', hfinishes', -, hcases⟩ := exists_finishes lawful_service
    ⟨server, .array rows, rows, profile, s.revoked ++ [row]⟩
  cases hfinishes.eq hfinishes'
  rw [without_of_revoke hserver, ← quiet_iff server rows (s.revoked ++ [row])]
  rcases hcases with ⟨⟨client, others, -, hmore, -⟩, hnot⟩ | ⟨hquiet, hsame, hrevoked, hrest⟩
  · refine iff_of_false ?_ fun h => hnot h.2
    rintro ⟨row', rows', -, hrevoked, -⟩
    have hlength := congrArg List.length (hrevoked.symm.trans hmore)
    simp at hlength
  · rw [fileRows_array] at hrest
    rw [exact_iff_of_revoked hrequested (hserver.trans (congrArg Except.ok hsame.symm)) hrevoked hrest]
    exact (and_iff_left hquiet).symm

theorem alone_iff :
    Alone s request ↔ FindsEntry (rowClientId row) s.server ∧
      ∀ clientId ∈ request.nextId s (rowClientId row),
        follows clientId rows (s.server.without (rowClientId row)) = false := by
  constructor
  · rintro ⟨row', rows', hrequested', hentry, hfollows⟩
    cases hrequested.symm.trans hrequested'
    exact ⟨hentry, hfollows⟩
  · rintro ⟨hentry, hfollows⟩
    exact ⟨row, rows, hrequested, hentry, hfollows⟩

end

theorem not_exact_of_revoked_eq (h : s'.revoked = s.revoked) : ¬ Exact s request s' := by
  rintro ⟨row, rows, -, hrevoked, -⟩
  have hlength := congrArg List.length (h.symm.trans hrevoked)
  simp at hlength

theorem not_alone_of_error {error : ErrorCode} (hrequested : request.requested s = some (row, rows))
    (hserver : service.revoke (rowClientId row) s.server = .error error) : ¬ Alone s request := by
  rw [alone_iff hrequested]
  rintro ⟨hentry, -⟩
  obtain ⟨server', hok⟩ := revoke_of_findsEntry hentry
  cases hserver.symm.trans hok

theorem clearCachedProfile_exact_iff (s : Users VpnServer) :
    ∃ s', Finishes (fun depth => perform depth s .clearCachedProfile) s' ∧
      (Exact s .clearCachedProfile s' ↔ Alone s .clearCachedProfile) := by
  by_cases hquiet : Quiet service s
  · obtain ⟨s', hfinishes, -, -, hrevoked, -⟩ := finishes_of_not_revokes lawful_service hquiet
    refine ⟨s', hfinishes, iff_of_false (not_exact_of_revoked_eq hrevoked) ?_⟩
    rintro ⟨row, rows, hrequested, hentry, -⟩
    obtain ⟨before, after, htable, hclient, hbefore⟩ := split_of_requested hrequested
    rw [rowClientId_of_hasClientId hclient] at hentry
    obtain ⟨server, hserver⟩ := revoke_of_findsEntry hentry
    exact hquiet _ (.intro htable hclient hbefore hserver)
  · obtain ⟨s₁, hrevokes⟩ := not_quiet_iff.mp hquiet
    cases hrevokes with
    | @intro before after client server htable hclient hbefore hserver =>
      have hrequested : RevocationRequest.clearCachedProfile.requested s = some (client, before ++ after) :=
        requested_of_split htable hclient hbefore
      have hclientServer : service.revoke (rowClientId client) s.server = .ok server := by
        rw [rowClientId_of_hasClientId hclient]
        exact hserver
      obtain ⟨s', hfinishes, -⟩ := exists_finishes lawful_service
        ⟨server, .array (before ++ after), before ++ after, "", s.revoked ++ [client]⟩
      refine ⟨s', finishes_of_revokes (.intro htable hclient hbefore hserver) hfinishes, ?_⟩
      rw [exact_iff_of_cleared hrequested hclientServer hfinishes, alone_iff hrequested]
      simp [nextId]

theorem revokeClient_exact_iff (s : Users VpnServer) (index : ℕ) :
    ∃ s', Finishes (fun depth => perform depth s (.revokeClient index)) s' ∧
      (Exact s (.revokeClient index) s' ↔ Alone s (.revokeClient index)) := by
  cases hrow : s.clientsTable[index]? with
  | none =>
    have hcall : ∀ depth, perform depth s (.revokeClient index) = some s := by
      intro depth
      rw [perform, UsersController.revokeClient, hrow]
    have hrequested : (RevocationRequest.revokeClient index).requested s = none := by
      rw [requested, rowAt, hrow]
      rfl
    refine ⟨s, ⟨0, fun depth _ => hcall depth⟩, iff_of_false (not_exact_of_revoked_eq rfl) ?_⟩
    rintro ⟨row, rows, hsome, -⟩
    cases hrequested.symm.trans hsome
  | some row =>
    have hrequested : (RevocationRequest.revokeClient index).requested s = some (row, s.clientsTable.eraseIdx index) := by
      rw [requested, rowAt, hrow]
      rfl
    cases hserver : service.revoke (rowClientId row) s.server with
    | error error =>
      have hcall : ∀ depth, perform depth s (.revokeClient index) = some s := by
        intro depth
        rw [perform, UsersController.revokeClient, hrow]
        rw [revokeRow_of_error hrow hserver]
        exact if_pos (lawful_service.revoke_error hserver)
      exact ⟨s, ⟨0, fun depth _ => hcall depth⟩,
        iff_of_false (not_exact_of_revoked_eq rfl) (not_alone_of_error hrequested hserver)⟩
    | ok server =>
      have hcall : ∀ depth, perform depth s (.revokeClient index) =
          if isAdminConfig (rowClientId row) s.profile then
            UsersController.clearCachedProfile service depth
              ⟨server, .array (s.clientsTable.eraseIdx index), s.clientsTable.eraseIdx index, s.profile,
                s.revoked ++ [row]⟩
          else
            some ⟨server, .array (s.clientsTable.eraseIdx index), s.clientsTable.eraseIdx index, s.profile,
              s.revoked ++ [row]⟩ := by
        intro depth
        rw [perform, UsersController.revokeClient, hrow]
        rw [revokeRow_of_ok hrow hserver]
        exact if_neg (not_not.mpr rfl)
      simp only [hcall]
      by_cases hadmin : isAdminConfig (rowClientId row) s.profile = true
      · obtain ⟨s', hfinishes, -⟩ := exists_finishes lawful_service
          ⟨server, .array (s.clientsTable.eraseIdx index), s.clientsTable.eraseIdx index, s.profile,
            s.revoked ++ [row]⟩
        refine ⟨s', ?_, ?_⟩
        · simpa only [if_pos hadmin] using hfinishes
        · rw [exact_iff_of_cleared hrequested hserver hfinishes, alone_iff hrequested]
          simp [nextId, hadmin]
      · refine ⟨_, ⟨0, fun depth _ => if_neg hadmin⟩, ?_⟩
        rw [exact_iff_of_revoked hrequested hserver rfl (by rw [fileRows_array]), alone_iff hrequested]
        simp [nextId, hadmin]

end RevocationRequest

/-! ### All requests -/

/-- **A revocation finishes**, and it is exact if and only if the entry that is found for the id is that of the client and
no client is left that the calls revoke too. -/
theorem RevocationRequest.revocation_exact_iff (s : Users VpnServer) (request : RevocationRequest) :
    ∃ s', Finishes (fun depth => request.perform depth s) s' ∧ (request.Exact s s' ↔ request.Alone s) := by
  cases request with
  | revokeClient index => exact revokeClient_exact_iff s index
  | clearCachedProfile => exact clearCachedProfile_exact_iff s

def singlePeerKey : String := "xTIBA5rboUvnH4htodjb6e697QjLERt1NAB4mZqp8Dg="

def singlePeerConfig : List Char :=
  "[Interface]\nPrivateKey = yAnz5TF+lXXJte14tji3zlMNq+hd2rYUIgJBgB3fBmk=\nListenPort = 51820\n\n".toList ++
    ("[Peer]\nPublicKey = ".toList ++ singlePeerKey.toList ++ "\nAllowedIPs = 10.8.1.1/32\n\n".toList)

def unnamedRow : Users VpnServer where
  server := .wireGuard singlePeerConfig
  clientsTableFile := .array [clientRow singlePeerKey none, clientRow "" none]
  clientsTable := []
  profile := singlePeerKey
  revoked := []

/-- The second row leaves too, and the section of the interface with it. -/
theorem RevocationRequest.interface_leaves_with_unnamed_row :
    ∃ s', Finishes (fun depth => RevocationRequest.clearCachedProfile.perform depth unnamedRow) s' ∧
      s'.revoked = [clientRow singlePeerKey none, clientRow "" none] ∧ s'.server = .wireGuard ['['] ∧
      ¬ RevocationRequest.clearCachedProfile.Exact unnamedRow s' := by
  have hfirst : Revokes service singlePeerKey { unnamedRow with profile := "" }
      ⟨.wireGuard (removeSection singlePeerKey singlePeerConfig), .array ([] ++ [clientRow "" none]),
        [] ++ [clientRow "" none], "", [clientRow singlePeerKey none]⟩ :=
    .intro rfl (by rw [hasClientId_clientRow]; exact decide_eq_true rfl) (List.forall_mem_nil _) rfl
  have hsecond : Revokes service ""
      ⟨.wireGuard (removeSection singlePeerKey singlePeerConfig), .array [clientRow "" none], [clientRow "" none], "",
        [clientRow singlePeerKey none]⟩
      ⟨.wireGuard ['['], .array ([] ++ []), [] ++ [], "", [clientRow singlePeerKey none] ++ [clientRow "" none]⟩ := by
    have hserver : removeSection "" (removeSection singlePeerKey singlePeerConfig) = ['['] := by decide +kernel
    refine .intro rfl (by rw [hasClientId_clientRow]; exact decide_eq_true rfl) (List.forall_mem_nil _) ?_
    exact congrArg (fun config => Except.ok (wireGuard config)) hserver
  have hthird : Quiet service
      ⟨.wireGuard ['['], .array [], [], "", [clientRow singlePeerKey none, clientRow "" none]⟩ :=
    (RevocationRequest.quiet_iff _ _ _ _).mpr (by decide +kernel)
  obtain ⟨s', hfinishes, -, hserver, hrevoked, -⟩ := finishes_of_not_revokes lawful_service hthird
  refine ⟨s', finishes_of_revokes hfirst (finishes_of_revokes hsecond hfinishes), hrevoked, hserver, ?_⟩
  rintro ⟨row, rows, -, hsingle, -⟩
  have hlength := congrArg List.length (hrevoked.symm.trans hsingle)
  cases hlength

end FreshVpn

