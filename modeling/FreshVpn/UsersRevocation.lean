import FreshVpn.LibraryFirstMatch
import FreshVpn.XrayIdentity

/-! The revocation of a client of a container. A row leaves the table of clients and the client leaves the
configuration of the server; then the profile of this device may be cleared, which asks for the revocation of the
client it was for. The calls are nested in each other; here the depth is bounded, and a bound that is large enough
is shown to exist. -/

namespace FreshVpn

open Json (toObject toArray)
open FirstMatch

/-- What the users controller does with the server of a container: it reads the ids of the clients from the server, and
takes a client out. -/
structure ClientService (σ : Type) where
  clientIds : σ → Except ErrorCode (List String)
  revoke : String → σ → Except ErrorCode σ

/-- The state the calls work on: the server, the file with the table of clients, the table in memory
(`m_clientsTable`), and the client id of the profile that is stored for the container. `revoked` collects the rows that
have left the table. Of a row the calls read only the id. -/
structure Users (σ : Type) where
  server : σ
  clientsTableFile : Json
  clientsTable : List Json
  profile : String
  revoked : List Json

namespace UsersController

variable {clientId : String}

/-! ### The table of clients -/

/-- The test that `isClientExists` and `clientIndexById` make on a row. -/
def hasClientId (clientId : String) (value : Json) : Bool :=
  match value with
  | .object obj => JsonObject.contains obj "clientId" && Json.toString (JsonObject.value obj "clientId") = clientId
  | _ => false

def isClientExists (clientId : String) (clientsTable : List Json) : Bool := clientsTable.any (hasClientId clientId)

def rowClientId (row : Json) : String := Json.toString ((toObject (some row)).value "clientId")

def clientRow (clientId : String) (clientName : Option Json) : Json :=
  .object [("clientId", .string clientId),
    ("userData", .object (clientName.elim [] fun name => [("clientName", name)]))]

def migration (clientsTableObj : JsonObject) : List Json :=
  clientsTableObj.map fun member => clientRow member.1 ((toObject (some member.2)).value "clientName")

/-- The end of `getOpenVpnClients`, `getWireGuardClients` and `getXrayClients`: a row for each id that has none. -/
def appendClients : List String → ℕ → List Json → List Json
  | [], _, clientsTable => clientsTable
  | clientId :: clientIds, count, clientsTable =>
    if isClientExists clientId clientsTable then appendClients clientIds count clientsTable
    else
      appendClients clientIds (count + 1)
        (clientsTable ++ [clientRow clientId (some (.string ("Client " ++ Nat.repr count)))])

section Calls

variable {σ : Type} (service : ClientService σ)

/-! ### The calls -/

/-- A table without rows is made from the old format and from the server. -/
def updateClients (s : Users σ) : Users σ × ErrorCode :=
  match toArray (some s.clientsTableFile) with
  | [] =>
    let clientsTable := migration (toObject (some s.clientsTableFile))
    match service.clientIds s.server with
    | .error error => ({ s with clientsTable := clientsTable }, error)
    | .ok clientIds =>
      let clientsTable := appendClients clientIds 0 clientsTable
      ({ s with clientsTable := clientsTable, clientsTableFile := .array clientsTable }, .noError)
  | row :: rows => ({ s with clientsTable := row :: rows }, .noError)

/-- `revokeOpenVpn`, `revokeWireGuard` and `revokeXray`: the client leaves the server and the row leaves the table. -/
def revokeRow (row : ℕ) (s : Users σ) : Users σ × ErrorCode :=
  match s.clientsTable[row]? with
  | none => (s, .internalError)
  | some client =>
    match service.revoke (rowClientId client) s.server with
    | .error error => (s, error)
    | .ok server =>
      let clientsTable := s.clientsTable.eraseIdx row
      ({ s with
          server := server
          clientsTable := clientsTable
          clientsTableFile := .array clientsTable
          revoked := s.revoked ++ [client] }, .noError)

/-- `revokeClient` with a configuration, of which it reads the client id. The handler of `adminConfigRevoked` is a
parameter, as the signal is connected elsewhere. -/
def revokeClientOf (adminConfigRevoked : Users σ → Option (Users σ)) (clientId : String) (s : Users σ) :
    Option (Users σ) :=
  let (s, errorCode) := updateClients service s
  if errorCode ≠ .noError then some s
  else
    match clientIndexById clientId s.clientsTable with
    | none => some s
    | some row =>
      let (s, errorCode) := revokeRow service row s
      if errorCode ≠ .noError then some s else adminConfigRevoked s

/-- `InstallController::clearCachedProfile`, with what `CoreSignalHandlers` connects: `clientRevocationRequested` calls
`revokeClient`, and `adminConfigRevoked` calls this function again. `none` if the calls are nested deeper than the bound. -/
def clearCachedProfile : ℕ → Users σ → Option (Users σ)
  | 0, _ => none
  | depth + 1, s => revokeClientOf service (clearCachedProfile depth) s.profile { s with profile := "" }

/-- The test of `revokeClient` with a row: is the profile of this device the one that has been revoked? -/
def isAdminConfig (clientId containerClientId : String) : Bool :=
  clientId ≠ "" && containerClientId ≠ "" && containsText containerClientId clientId

/-- `revokeClient` with the index of a row. -/
def revokeClient (depth index : ℕ) (s : Users σ) : Option (Users σ) :=
  match s.clientsTable[index]? with
  | none => some s
  | some client =>
    let (s, errorCode) := revokeRow service index s
    if errorCode ≠ .noError then some s
    else if isAdminConfig (rowClientId client) s.profile then clearCachedProfile service depth s
    else some s

end Calls

/-! ### Rows and ids -/

theorem clientIndexById_eq (clientId : String) (clientsTable : List Json) :
    clientIndexById clientId clientsTable = clientsTable.findIdx? (hasClientId clientId) := rfl

theorem rowClientId_of_hasClientId {row : Json} (h : hasClientId clientId row = true) : rowClientId row = clientId := by
  cases row with
  | object members =>
    simp only [hasClientId, Bool.and_eq_true, decide_eq_true_eq] at h
    exact h.2
  | null | bool | double | string | array => cases h

theorem hasClientId_clientRow (clientId other : String) (clientName : Option Json) :
    hasClientId clientId (clientRow other clientName) = decide (other = clientId) := by
  simp [hasClientId, clientRow, JsonObject.contains, JsonObject.value, Json.toString]

theorem isClientExists_append (clientId other : String) (clientsTable : List Json) (clientName : Option Json) :
    isClientExists clientId (clientsTable ++ [clientRow other clientName]) =
      (isClientExists clientId clientsTable || decide (other = clientId)) := by
  rw [isClientExists, List.any_append, List.any_cons, List.any_nil, Bool.or_false, hasClientId_clientRow]
  rfl

variable {clientsTable : List Json}

theorem clientIndexById_eq_none_iff :
    clientIndexById clientId clientsTable = none ↔ isClientExists clientId clientsTable = false := by
  rw [clientIndexById_eq, List.findIdx?_eq_none_iff, isClientExists, List.any_eq_false]
  exact forall₂_congr fun row _ => Bool.eq_false_iff

theorem isClientExists_appendClients (clientId : String) (clientIds : List String) (count : ℕ)
    (clientsTable : List Json) :
    isClientExists clientId (appendClients clientIds count clientsTable) =
      (isClientExists clientId clientsTable || clientIds.contains clientId) := by
  induction clientIds generalizing count clientsTable with
  | nil => rw [appendClients, List.contains_nil, Bool.or_false]
  | cons other rest ih =>
    rw [appendClients, List.contains_cons]
    split_ifs with hexists
    · rw [ih]
      by_cases heq : clientId = other
      · rw [heq, hexists, Bool.true_or, Bool.true_or]
      · rw [beq_false_of_ne heq, Bool.false_or]
    · rw [ih, isClientExists_append, Bool.or_assoc]
      congr 2
      rw [Bool.eq_iff_iff, decide_eq_true_iff, beq_iff_eq]
      exact eq_comm

theorem countP_of_not_exists (h : isClientExists clientId clientsTable = false) :
    clientsTable.countP (hasClientId clientId) = 0 :=
  List.countP_eq_zero.mpr (List.any_eq_false.mp h)

theorem countP_appendClients_le (clientId : String) (clientIds : List String) (count : ℕ) (clientsTable : List Json) :
    (appendClients clientIds count clientsTable).countP (hasClientId clientId) ≤
      max (clientsTable.countP (hasClientId clientId)) 1 := by
  induction clientIds generalizing count clientsTable with
  | nil => exact le_max_left _ _
  | cons other rest ih =>
    rw [appendClients]
    split_ifs with hexists
    · exact ih count clientsTable
    · refine (ih _ _).trans (max_le ?_ (le_max_right _ _))
      rw [List.countP_append, List.countP_singleton, hasClientId_clientRow]
      by_cases heq : other = clientId
      · subst heq
        rw [countP_of_not_exists (Bool.eq_false_iff.mpr hexists), decide_eq_true rfl, if_pos rfl]
        exact le_max_right _ _
      · rw [decide_eq_false heq, if_neg Bool.false_ne_true]
        exact le_max_left _ _

theorem prefix_appendClients (clientIds : List String) (count : ℕ) (clientsTable : List Json) :
    clientsTable <+: appendClients clientIds count clientsTable := by
  induction clientIds generalizing count clientsTable with
  | nil => exact List.prefix_rfl
  | cons other rest ih =>
    rw [appendClients]
    split_ifs
    · exact ih count clientsTable
    · exact (List.prefix_append _ _).trans (ih _ _)

/-! ### One call of `updateClients` or of `revokeRow` -/

/-- The rows of a file, in the new format or in the old one. -/
def fileRows (clientsTableFile : Json) : List Json :=
  match toArray (some clientsTableFile) with
  | [] => migration (toObject (some clientsTableFile))
  | row :: rows => row :: rows

theorem fileRows_array (rows : List Json) : fileRows (.array rows) = rows := by
  cases rows with
  | nil => rfl
  | cons row rows => rfl

section Calls

variable {error : ErrorCode} {σ : Type} (service : ClientService σ)

def updatedTable (s : Users σ) : Except ErrorCode (List Json) :=
  match toArray (some s.clientsTableFile) with
  | [] =>
    match service.clientIds s.server with
    | .error error => .error error
    | .ok clientIds => .ok (appendClients clientIds 0 (migration (toObject (some s.clientsTableFile))))
  | row :: rows => .ok (row :: rows)

def emptyIds (server : σ) : ℕ := ((service.clientIds server).toOption.getD []).count ""

/-- What is used of a service: an error is no success, and the clients with an empty id do not become more by a
revocation, and become fewer if the empty id is revoked. -/
structure Lawful : Prop where
  clientIds_error : ∀ {server : σ} {error}, service.clientIds server = .error error → error ≠ .noError
  revoke_error : ∀ {clientId} {server : σ} {error}, service.revoke clientId server = .error error → error ≠ .noError
  emptyIds_le : ∀ {clientId} {server server' : σ}, service.revoke clientId server = .ok server' →
    emptyIds service server' ≤ emptyIds service server
  emptyIds_lt : ∀ {server server' : σ}, service.revoke "" server = .ok server' → 0 < emptyIds service server →
    emptyIds service server' < emptyIds service server

variable {service} {s s' : Users σ} {clientId : String} {clientsTable : List Json}

theorem updateClients_of_ok (h : updatedTable service s = .ok clientsTable) :
    ∃ file, updateClients service s = ({ s with clientsTable := clientsTable, clientsTableFile := file }, .noError) ∧
      fileRows s.clientsTableFile <+: fileRows file := by
  unfold updatedTable at h
  unfold updateClients fileRows
  split at h
  · split at h
    · cases h
    · cases h
      refine ⟨_, rfl, ?_⟩
      show _ <+: fileRows (.array _)
      rw [fileRows_array]
      exact prefix_appendClients _ _ _
  · next row rows hrows =>
      cases h
      refine ⟨s.clientsTableFile, rfl, ?_⟩
      simp only [hrows, List.prefix_rfl]

theorem updateClients_of_error (h : updatedTable service s = .error error) :
    ∃ clientsTable, updateClients service s = ({ s with clientsTable := clientsTable }, error) := by
  unfold updatedTable at h
  unfold updateClients
  split at h
  · split at h
    · cases h
      exact ⟨_, rfl⟩
    · cases h
  · cases h

theorem updatedTable_error (hlawful : Lawful service) (h : updatedTable service s = .error error) :
    error ≠ .noError := by
  unfold updatedTable at h
  split at h
  · split at h
    · next herror =>
        cases h
        exact hlawful.clientIds_error herror
    · cases h
  · cases h

theorem revokeRow_of_ok {row : ℕ} {client : Json} {server : σ} (hclient : s.clientsTable[row]? = some client)
    (hserver : service.revoke (rowClientId client) s.server = .ok server) :
    revokeRow service row s =
      (⟨server, .array (s.clientsTable.eraseIdx row), s.clientsTable.eraseIdx row, s.profile, s.revoked ++ [client]⟩,
        .noError) := by
  rw [revokeRow, hclient]
  dsimp only
  rw [hserver]

theorem revokeRow_of_error {row : ℕ} {client : Json} (hclient : s.clientsTable[row]? = some client)
    (hserver : service.revoke (rowClientId client) s.server = .error error) : revokeRow service row s = (s, error) := by
  rw [revokeRow, hclient]
  dsimp only
  rw [hserver]

/-- One round of the calls: the table that is read has a row with the id, and its client is revoked. -/
inductive Revokes (service : ClientService σ) (clientId : String) (s : Users σ) : Users σ → Prop
  | intro {before after : List Json} {client : Json} {server : σ}
      (htable : updatedTable service s = .ok (before ++ client :: after)) (hclient : hasClientId clientId client = true)
      (hbefore : ∀ row ∈ before, hasClientId clientId row = false)
      (hserver : service.revoke clientId s.server = .ok server) :
      Revokes service clientId s ⟨server, .array (before ++ after), before ++ after, s.profile, s.revoked ++ [client]⟩

theorem Revokes.row (h : Revokes service clientId s s') :
    ∃ client, hasClientId clientId client = true ∧ s'.profile = s.profile ∧ s'.revoked = s.revoked ++ [client] := by
  cases h with
  | intro htable hclient hbefore hserver => exact ⟨_, hclient, rfl, rfl⟩

theorem revokeClientOf_of_revokes (adminConfigRevoked : Users σ → Option (Users σ))
    (h : Revokes service clientId s s') :
    revokeClientOf service adminConfigRevoked clientId s = adminConfigRevoked s' := by
  cases h with
  | intro htable hclient hbefore hserver =>
    obtain ⟨file, hupdate, -⟩ := updateClients_of_ok htable
    rw [revokeClientOf, hupdate]
    dsimp only
    rw [if_neg (not_not.mpr rfl), clientIndexById_eq, findIdx?_append_cons _ hbefore hclient]
    dsimp only
    rw [revokeRow_of_ok (getElem?_append_cons _ _ _) (rowClientId_of_hasClientId hclient ▸ hserver)]
    rw [if_neg (not_not.mpr rfl), eraseIdx_append_cons]

theorem revokeClientOf_of_not_revokes (hlawful : Lawful service) (h : ∀ s', ¬ Revokes service clientId s s') :
    ∃ clientsTable file, fileRows s.clientsTableFile <+: fileRows file ∧
      ∀ adminConfigRevoked, revokeClientOf service adminConfigRevoked clientId s =
        some { s with clientsTable := clientsTable, clientsTableFile := file } := by
  cases htable : updatedTable service s with
  | error error =>
    obtain ⟨clientsTable, hupdate⟩ := updateClients_of_error htable
    refine ⟨clientsTable, s.clientsTableFile, List.prefix_rfl, fun adminConfigRevoked => ?_⟩
    rw [revokeClientOf, hupdate]
    exact if_pos (updatedTable_error hlawful htable)
  | ok clientsTable =>
    obtain ⟨file, hupdate, hrest⟩ := updateClients_of_ok htable
    refine ⟨clientsTable, file, hrest, fun adminConfigRevoked => ?_⟩
    rw [revokeClientOf, hupdate]
    dsimp only
    cases hindex : clientIndexById clientId clientsTable with
    | none => rfl
    | some row =>
      obtain ⟨before, client, after, rfl, rfl, hclient, hbefore⟩ := split_of_findIdx? hindex
      cases hserver : service.revoke clientId s.server with
      | error error =>
        dsimp only
        rw [revokeRow_of_error (getElem?_append_cons before client after)
          (rowClientId_of_hasClientId hclient ▸ hserver)]
        exact if_pos (hlawful.revoke_error hserver)
      | ok server => exact absurd (.intro htable hclient hbefore hserver) (h _)

/-! ### The calls finish -/

theorem updatedTable_cases (h : updatedTable service s = .ok clientsTable) :
    clientsTable = fileRows s.clientsTableFile ∨
      ∃ clientIds, service.clientIds s.server = .ok clientIds ∧
        clientsTable = appendClients clientIds 0 (fileRows s.clientsTableFile) := by
  unfold updatedTable at h
  unfold fileRows
  split at h
  · split at h
    · cases h
    · next clientIds hids =>
        cases h
        exact .inr ⟨clientIds, hids, rfl⟩
  · cases h
    exact .inl rfl

variable (service) in
def unnamed (s : Users σ) : ℕ := (fileRows s.clientsTableFile).countP (hasClientId "") + emptyIds service s.server

theorem unnamed_lt_of_revokes (hlawful : Lawful service) (h : Revokes service "" s s') :
    unnamed service s' < unnamed service s := by
  cases h with
  | @intro before after client server htable hclient hbefore hserver =>
    have hcount : (before ++ client :: after).countP (hasClientId "") =
        (before ++ after).countP (hasClientId "") + 1 := by
      rw [List.countP_append, List.countP_append, List.countP_cons_of_pos hclient, Nat.add_assoc]
    have hle := hlawful.emptyIds_le hserver
    unfold unnamed
    dsimp only
    rw [fileRows_array]
    rcases updatedTable_cases htable with hrows | ⟨clientIds, hids, hrows⟩
    · rw [← hrows, hcount]
      omega
    · have hbound := countP_appendClients_le "" clientIds 0 (fileRows s.clientsTableFile)
      rw [← hrows, hcount] at hbound
      cases hexists : isClientExists "" (fileRows s.clientsTableFile) with
      | true =>
        have hpos : 0 < (fileRows s.clientsTableFile).countP (hasClientId "") :=
          List.countP_pos_iff.mpr (List.any_eq_true.mp hexists)
        omega
      | false =>
        -- The row has come from the server, so a client with an empty id leaves it.
        have hmem : isClientExists "" (before ++ client :: after) = true :=
          List.any_eq_true.mpr ⟨client, List.mem_append_right _ List.mem_cons_self, hclient⟩
        rw [hrows, isClientExists_appendClients, hexists, Bool.false_or, List.contains_iff_mem] at hmem
        have hpos : 0 < emptyIds service s.server := by
          rw [emptyIds, hids]
          exact List.count_pos_iff.mpr hmem
        have hlt := hlawful.emptyIds_lt hserver hpos
        omega

/-- The calls end with this result, however deep they may be nested beyond a bound. -/
def Finishes {α : Type} (call : ℕ → Option α) (result : α) : Prop :=
  ∃ bound, ∀ depth, bound ≤ depth → call depth = some result

theorem Finishes.eq {α : Type} {call : ℕ → Option α} {r₁ r₂ : α} (h₁ : Finishes call r₁) (h₂ : Finishes call r₂) :
    r₁ = r₂ := by
  obtain ⟨bound₁, h₁⟩ := h₁
  obtain ⟨bound₂, h₂⟩ := h₂
  exact Option.some.inj ((h₁ _ (le_max_left _ _)).symm.trans (h₂ _ (le_max_right bound₁ bound₂)))

theorem Finishes.map {α β : Type} {call : ℕ → Option α} {result : α} (h : Finishes call result) (f : α → β) :
    Finishes (fun depth => (call depth).map f) (f result) := by
  obtain ⟨bound, hbound⟩ := h
  refine ⟨bound, fun depth hdepth => ?_⟩
  show (call depth).map f = some (f result)
  rw [hbound depth hdepth, Option.map_some]

theorem finishes_of_revokes {s₁ : Users σ} (hrevokes : Revokes service s.profile { s with profile := "" } s₁)
    (hfinishes : Finishes (clearCachedProfile service · s₁) s') : Finishes (clearCachedProfile service · s) s' := by
  obtain ⟨bound, hbound⟩ := hfinishes
  refine ⟨bound + 1, fun depth hdepth => ?_⟩
  cases depth with
  | zero => exact absurd hdepth (Nat.not_succ_le_zero bound)
  | succ depth =>
    calc clearCachedProfile service (depth + 1) s
        = clearCachedProfile service depth s₁ := revokeClientOf_of_revokes _ hrevokes
      _ = some s' := hbound depth (Nat.le_of_succ_le_succ hdepth)

theorem finishes_of_not_revokes (hlawful : Lawful service)
    (h : ∀ s₁, ¬ Revokes service s.profile { s with profile := "" } s₁) :
    ∃ s', Finishes (clearCachedProfile service · s) s' ∧ s'.profile = "" ∧ s'.server = s.server ∧
      s'.revoked = s.revoked ∧ fileRows s.clientsTableFile <+: fileRows s'.clientsTableFile := by
  obtain ⟨clientsTable, file, hrest, hcall⟩ := revokeClientOf_of_not_revokes hlawful h
  refine ⟨{ s with profile := "", clientsTable := clientsTable, clientsTableFile := file },
    ⟨1, fun depth hdepth => ?_⟩, rfl, rfl, rfl, hrest⟩
  cases depth with
  | zero => exact absurd hdepth (Nat.not_succ_le_zero 0)
  | succ depth => exact hcall _

/-- Once the profile is cleared, the rows with an empty id leave one after the other. -/
theorem exists_finishes_of_cleared (hlawful : Lawful service) {bound : ℕ} (hcleared : s.profile = "")
    (hbound : unnamed service s < bound) :
    ∃ s' rows, Finishes (clearCachedProfile service · s) s' ∧ s'.profile = "" ∧ s'.revoked = s.revoked ++ rows ∧
      ∀ row ∈ rows, hasClientId "" row = true := by
  induction bound generalizing s with
  | zero => exact absurd hbound (Nat.not_lt_zero _)
  | succ bound ih =>
    have hsame : ({ s with profile := "" } : Users σ) = s := by rw [← hcleared]
    by_cases hrevokes : ∃ s₁, Revokes service s.profile { s with profile := "" } s₁
    · obtain ⟨s₁, hrevokes⟩ := hrevokes
      have hround : Revokes service "" s s₁ := by rwa [hsame, hcleared] at hrevokes
      have hlt := unnamed_lt_of_revokes hlawful hround
      obtain ⟨client, hclient, hprofile, hrevoked⟩ := hround.row
      obtain ⟨s', rows, hfinishes, hcleared', hrows, hunnamed⟩ := ih (hprofile.trans hcleared) (by omega)
      refine ⟨s', client :: rows, finishes_of_revokes hrevokes hfinishes, hcleared', ?_, ?_⟩
      · rw [hrows, hrevoked, List.append_assoc, List.singleton_append]
      · exact List.forall_mem_cons.mpr ⟨hclient, hunnamed⟩
    · obtain ⟨s', hfinishes, hcleared', -, hrevoked, -⟩ :=
        finishes_of_not_revokes hlawful (not_exists.mp hrevokes)
      exact ⟨s', [], hfinishes, hcleared', by rw [hrevoked, List.append_nil], List.forall_mem_nil _⟩

variable (service) in
/-- Clearing the profile revokes no client. -/
def Quiet (s : Users σ) : Prop := ∀ s₁, ¬ Revokes service s.profile { s with profile := "" } s₁

theorem not_quiet_iff : ¬ Quiet service s ↔ ∃ s₁, Revokes service s.profile { s with profile := "" } s₁ :=
  not_forall_not

/-- **The calls finish**, from every state. If the client of the profile is revoked, its row is the first that leaves,
and those that follow have an empty id; otherwise the server and all rows stay. -/
theorem exists_finishes (hlawful : Lawful service) (s : Users σ) :
    ∃ s', Finishes (clearCachedProfile service · s) s' ∧ s'.profile = "" ∧
      ((∃ client rows, hasClientId s.profile client = true ∧ s'.revoked = s.revoked ++ client :: rows ∧
          ∀ row ∈ rows, hasClientId "" row = true) ∧ ¬ Quiet service s ∨
        Quiet service s ∧ s'.server = s.server ∧ s'.revoked = s.revoked ∧
          fileRows s.clientsTableFile <+: fileRows s'.clientsTableFile) := by
  by_cases hquiet : Quiet service s
  · obtain ⟨s', hfinishes, hcleared, hrest⟩ := finishes_of_not_revokes hlawful hquiet
    exact ⟨s', hfinishes, hcleared, .inr ⟨hquiet, hrest⟩⟩
  · obtain ⟨s₁, hrevokes⟩ := not_quiet_iff.mp hquiet
    obtain ⟨client, hclient, hprofile, hrevoked⟩ := hrevokes.row
    obtain ⟨s', rows, hfinishes, hcleared, hrows, hunnamed⟩ :=
      exists_finishes_of_cleared hlawful hprofile (Nat.lt_succ_self (unnamed service s₁))
    refine ⟨s', finishes_of_revokes hrevokes hfinishes, hcleared,
      .inl ⟨⟨client, rows, hclient, ?_, hunnamed⟩, hquiet⟩⟩
    rw [hrows, hrevoked, List.append_assoc, List.singleton_append]

theorem exists_revokes_iff :
    (∃ s', Revokes service clientId s s') ↔
      ∃ clientsTable, updatedTable service s = .ok clientsTable ∧ isClientExists clientId clientsTable = true ∧
        ∃ server, service.revoke clientId s.server = .ok server := by
  constructor
  · rintro ⟨s', h⟩
    cases h with
    | intro htable hclient hbefore hserver =>
      refine ⟨_, htable, ?_, _, hserver⟩
      exact List.any_eq_true.mpr ⟨_, List.mem_append_right _ List.mem_cons_self, hclient⟩
  · rintro ⟨clientsTable, htable, hexists, server, hserver⟩
    cases hindex : clientIndexById clientId clientsTable with
    | none =>
      rw [clientIndexById_eq_none_iff.mp hindex] at hexists
      cases hexists
    | some row =>
      obtain ⟨before, client, after, rfl, -, hclient, hbefore⟩ := split_of_findIdx? hindex
      exact ⟨_, .intro htable hclient hbefore hserver⟩

end Calls

end UsersController

end FreshVpn
