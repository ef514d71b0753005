import FreshVpn.LibraryRun
import FreshVpn.ConnectionPrepare

/-! The failover of `ConnectionController`: the queue of servers a request may try, and what the states and
errors reported by the VPN thread do to it. The handlers return the controller after the call and the
signals emitted, in order; `none` is a call through a null configurator. -/

namespace FreshVpn

structure ConnectionController where
  failoverQueue : List String
  failoverIndex : Int
  failoverActive : Bool
  wasConnecting : Bool
  switching : Bool
  lastProtocolError : ErrorCode
  /-- Whether the timer `m_failoverBudget` is running. -/
  failoverBudget : Bool

inductive ControllerSignal where
  | connectionStateChanged (state : ConnectionState)
  | switchedToBackup (serverId : String)
  | openConnectionRequested (serverId : String) (container : DockerContainer) (vpnConfiguration : JsonObject)

namespace ConnectionController

variable {signals : List ControllerSignal} {client : Client} (c : ConnectionController)

def initial : ConnectionController where
  failoverQueue := []
  failoverIndex := -1
  failoverActive := false
  wasConnecting := false
  switching := false
  lastProtocolError := .noError
  failoverBudget := false

def kMaxAttempts : ℕ := 3

def appendCandidates (requestedServerId : String) : List String → List String → List String
  | [], failoverQueue => failoverQueue
  | id :: rest, failoverQueue =>
    if id = requestedServerId then appendCandidates requestedServerId rest failoverQueue
    else if kMaxAttempts ≤ failoverQueue.length then failoverQueue
    else appendCandidates requestedServerId rest (failoverQueue ++ [id])

def startFailover (client : Client) (c : ConnectionController) (requestedServerId : String) : ConnectionController :=
  let failoverQueue :=
    appendCandidates requestedServerId client.repository.orderedServerIds [requestedServerId]
  { failoverQueue
    failoverIndex := 0
    failoverActive := 1 < failoverQueue.length
    wasConnecting := false
    switching := false
    lastProtocolError := .noError
    failoverBudget := if 1 < failoverQueue.length then true else c.failoverBudget }

/-- The loop of `tryNextCandidate` over the entries after the index; the flag says whether one of them
was launched. -/
def tryCandidates (client : Client) :
    List String → ConnectionController → Option (ConnectionController × Bool × List ControllerSignal)
  | [], c => some (c, false, [])
  | next :: rest, c =>
    let c := { c with failoverIndex := c.failoverIndex + 1, switching := true }
    match client.prepareConnection next with
    | .nullConfigurator => none
    | .ready container vpnConfiguration =>
      some (c, true, [.openConnectionRequested next container vpnConfiguration])
    | .failed _ => tryCandidates client rest { c with switching := false }

/-- The entries of the queue after the current one. -/
def remaining : List String := c.failoverQueue.drop (c.failoverIndex + 1).toNat

def tryNextCandidate (client : Client) (c : ConnectionController) :
    Option (ConnectionController × Bool × List ControllerSignal) :=
  if c.failoverActive = false then some (c, false, []) else tryCandidates client c.remaining c

def finishFailover : ConnectionController :=
  { c with
    failoverBudget := false, failoverActive := false, failoverIndex := -1, switching := false,
    failoverQueue := [] }

/-- `fromProtocol` is what `VpnConnection::lastError` returns. -/
def lastConnectionError (fromProtocol : ErrorCode) : ErrorCode :=
  if (fromProtocol = .noError ∨ fromProtocol = .internalError) ∧ c.lastProtocolError ≠ .noError then
    c.lastProtocolError
  else fromProtocol

/-- The announcement made when the connection came up on another server than the chosen one. -/
def backupNotice : List ControllerSignal :=
  if c.failoverActive ∧ 0 < c.failoverIndex ∧ c.failoverIndex < c.failoverQueue.length then
    [.switchedToBackup (c.failoverQueue.getD c.failoverIndex.toNat "")]
  else []

def giveUp (state : ConnectionState) : ConnectionController × List ControllerSignal :=
  ({ c with wasConnecting := false }.finishFailover, [.connectionStateChanged state])

/-- Whether a state counts as a failed attempt: an error, or a disconnection while connecting. -/
def isFailure (state : ConnectionState) : Bool :=
  state = .error || (state = .disconnected && c.wasConnecting)

def handleConnectionState (client : Client) (c : ConnectionController) (state : ConnectionState)
    (fromProtocol : ErrorCode) : Option (ConnectionController × List ControllerSignal) :=
  if state = .connecting ∨ state = .reconnecting then
    some ({ c with switching := false, wasConnecting := true }, [.connectionStateChanged state])
  else if c.switching ∧ (state = .disconnected ∨ state = .error) then
    -- The tail of an attempt that has been written off already.
    some (c, [])
  else if state = .connected then
    some ({ c with wasConnecting := false }.finishFailover, c.backupNotice ++ [.connectionStateChanged state])
  else if c.isFailure state ∧ (c.lastConnectionError fromProtocol).isSubscriptionError then
    some (c.giveUp state)
  else if c.isFailure state then
    match c.tryNextCandidate client with
    | none => none
    | some (c', true, signals) => some (c', signals ++ [.connectionStateChanged .connecting])
    | some (c', false, signals) => some ((c'.giveUp state).1, signals ++ (c'.giveUp state).2)
  else some (c.giveUp state)

def handleProtocolError (error : ErrorCode) : ConnectionController :=
  { c with lastProtocolError := error }

/-- The timer `m_failoverBudget` fires; `none` if it is not running. -/
def budgetTimeout : Option ConnectionController :=
  if c.failoverBudget then some { c with failoverBudget := false, failoverActive := false } else none

def launchConnection (client : Client) (serverId : String) : Option (ErrorCode × List ControllerSignal) :=
  match client.prepareConnection serverId with
  | .nullConfigurator => none
  | .failed error => some (error, [])
  | .ready container vpnConfiguration =>
    some (.noError, [.openConnectionRequested serverId container vpnConfiguration])

def openConnection (client : Client) (c : ConnectionController) (serverId : String) :
    Option (ConnectionController × ErrorCode × List ControllerSignal) :=
  (launchConnection client serverId).map fun (error, signals) => (c.startFailover client serverId, error, signals)

variable {c} {c' : ConnectionController}

/-! ### The queue -/

/-- The servers other than the requested one that its queue holds. -/
def backups (client : Client) (requestedServerId : String) : List String :=
  (client.repository.orderedServerIds.filter (· ≠ requestedServerId)).take (kMaxAttempts - 1)

theorem appendCandidates_eq (requestedServerId : String) (ids failoverQueue : List String) :
    appendCandidates requestedServerId ids failoverQueue =
      failoverQueue ++ (ids.filter (· ≠ requestedServerId)).take (kMaxAttempts - failoverQueue.length) := by
  induction ids generalizing failoverQueue with
  | nil =>
    simp [appendCandidates]
  | cons id ids ih =>
    unfold appendCandidates
    by_cases hid : id = requestedServerId
    · rw [if_pos hid, ih, List.filter_cons_of_neg (by simpa using hid)]
    · rw [if_neg hid, List.filter_cons_of_pos (by simpa using hid)]
      by_cases hfull : kMaxAttempts ≤ failoverQueue.length
      · rw [if_pos hfull, Nat.sub_eq_zero_of_le hfull, List.take_zero, List.append_nil]
      · have hlen : kMaxAttempts - failoverQueue.length = kMaxAttempts - (failoverQueue ++ [id]).length + 1 := by
          rw [List.length_append, List.length_singleton]
          omega
        rw [if_neg hfull, ih, hlen, List.take_succ_cons, List.append_assoc]
        rfl

@[simp] theorem startFailover_failoverQueue (client : Client) (c : ConnectionController) (serverId : String) :
    (c.startFailover client serverId).failoverQueue = serverId :: backups client serverId :=
  appendCandidates_eq serverId client.repository.orderedServerIds [serverId]

variable (client) (serverId : String)

theorem backups_sublist : (backups client serverId).Sublist client.repository.orderedServerIds :=
  (List.take_sublist _ _).trans List.filter_sublist

theorem not_mem_backups : serverId ∉ backups client serverId := by
  intro hmem
  simpa using List.of_mem_filter (List.mem_of_mem_take hmem)

theorem queue_nodup : (serverId :: backups client serverId).Nodup :=
  List.nodup_cons.mpr
    ⟨not_mem_backups client serverId, client.wellFormed.nodup.sublist (backups_sublist client serverId)⟩

theorem queue_length_le : (serverId :: backups client serverId).length ≤ kMaxAttempts := by
  have htake : (backups client serverId).length ≤ kMaxAttempts - 1 := List.length_take_le _ _
  have hmax : kMaxAttempts = 3 := rfl
  rw [List.length_cons]
  omega

variable {client}

/-! ### What the loop over the candidates and the handler of states can do -/

structure Launches (client : Client) (candidates skipped : List String) (next : String)
    (container : DockerContainer) (vpnConfiguration : JsonObject) : Prop where
  split : ∃ later, candidates = skipped ++ next :: later
  skipped_fail : ∀ id ∈ skipped, ∃ error, client.prepareConnection id = .failed error
  next_ready : client.prepareConnection next = .ready container vpnConfiguration

variable {candidates : List String}

theorem tryCandidates_cases {isLaunched : Bool}
    (h : tryCandidates client candidates c = some (c', isLaunched, signals)) :
    (∃ skipped next container vpnConfiguration,
        Launches client candidates skipped next container vpnConfiguration ∧ isLaunched = true ∧
        c' = { c with failoverIndex := c.failoverIndex + skipped.length + 1, switching := true } ∧
        signals = [.openConnectionRequested next container vpnConfiguration]) ∨
      ((∀ id ∈ candidates, ∃ error, client.prepareConnection id = .failed error) ∧ isLaunched = false ∧
        (∃ failoverIndex switching, c' = { c with failoverIndex, switching }) ∧ signals = []) := by
  induction candidates generalizing c with
  | nil =>
    cases h
    exact Or.inr ⟨by simp, rfl, ⟨_, _, rfl⟩, rfl⟩
  | cons next rest ih =>
    unfold tryCandidates at h
    split at h
    · cases h
    · rename_i container vpnConfiguration hready
      cases h
      exact Or.inl ⟨[], next, container, vpnConfiguration, ⟨⟨rest, rfl⟩, by simp, hready⟩, rfl, by simp, rfl⟩
    · rename_i error hfailed
      rcases ih h with ⟨skipped, next', container, vpnConfiguration, hl, rfl, rfl, rfl⟩ | ⟨hall, rfl, ⟨i, b, rfl⟩, rfl⟩
      · obtain ⟨⟨later, rfl⟩, hskipped, hready⟩ := hl
        refine Or.inl ⟨next :: skipped, next', container, vpnConfiguration, ⟨⟨later, rfl⟩, ?_, hready⟩, rfl, ?_, rfl⟩
        · exact List.forall_mem_cons.mpr ⟨⟨error, hfailed⟩, hskipped⟩
        · rw [List.length_cons]
          congr 1
          dsimp only
          omega
      · exact Or.inr ⟨List.forall_mem_cons.mpr ⟨⟨error, hfailed⟩, hall⟩, rfl, ⟨i, b, rfl⟩, rfl⟩

theorem tryCandidates_of_launches {skipped : List String} {next : String} {container : DockerContainer}
    {vpnConfiguration : JsonObject} (h : Launches client candidates skipped next container vpnConfiguration)
    (c : ConnectionController) :
    tryCandidates client candidates c =
      some ({ c with failoverIndex := c.failoverIndex + skipped.length + 1, switching := true }, true,
        [.openConnectionRequested next container vpnConfiguration]) := by
  obtain ⟨⟨later, rfl⟩, hskipped, hready⟩ := h
  induction skipped generalizing c with
  | nil =>
    simp [tryCandidates, hready]
  | cons id skipped ih =>
    rw [List.forall_mem_cons] at hskipped
    obtain ⟨⟨error, hfailed⟩, hskipped⟩ := hskipped
    rw [List.cons_append, tryCandidates]
    simp only [hfailed]
    rw [ih _ hskipped, List.length_cons]
    congr 3
    dsimp only
    omega

def idle (c : ConnectionController) : ConnectionController := { c with wasConnecting := false }.finishFailover

/-- The ways the handler of states can go. -/
inductive Handled (client : Client) (c : ConnectionController) (state : ConnectionState)
    (fromProtocol : ErrorCode) : ConnectionController → List ControllerSignal → Prop
  | announced (hstate : state = .connecting ∨ state = .reconnecting) :
      Handled client c state fromProtocol { c with switching := false, wasConnecting := true }
        [.connectionStateChanged state]
  | tail (hswitching : c.switching = true) (hstate : state = .disconnected ∨ state = .error) :
      Handled client c state fromProtocol c []
  | connected (hstate : state = .connected) :
      Handled client c state fromProtocol c.idle (c.backupNotice ++ [.connectionStateChanged state])
  | switched (hswitching : c.switching = false) (hfailure : c.isFailure state = true)
      (hcode : (c.lastConnectionError fromProtocol).isSubscriptionError = false)
      (hactive : c.failoverActive = true) (skipped : List String) (next : String)
      (container : DockerContainer) (vpnConfiguration : JsonObject)
      (hlaunches : Launches client c.remaining skipped next container vpnConfiguration) :
      Handled client c state fromProtocol
        { c with failoverIndex := c.failoverIndex + skipped.length + 1, switching := true }
        [.openConnectionRequested next container vpnConfiguration, .connectionStateChanged .connecting]
  | ended (hstate : state ≠ .connecting ∧ state ≠ .reconnecting ∧ state ≠ .connected)
      (hswitching : c.switching = true → state ≠ .disconnected ∧ state ≠ .error)
      (hfailure : c.isFailure state = true → (c.lastConnectionError fromProtocol).isSubscriptionError = true ∨
        c.failoverActive = false ∨ ∀ id ∈ c.remaining, ∃ error, client.prepareConnection id = .failed error) :
      Handled client c state fromProtocol c.idle [.connectionStateChanged state]

theorem tryNextCandidate_of_active (h : c.failoverActive = true) :
    c.tryNextCandidate client = tryCandidates client c.remaining c :=
  if_neg (by simp [h])

theorem tryNextCandidate_cases {isLaunched : Bool} (h : c.tryNextCandidate client = some (c', isLaunched, signals)) :
    (c.failoverActive = true ∧ ∃ skipped next container vpnConfiguration,
        Launches client c.remaining skipped next container vpnConfiguration ∧ isLaunched = true ∧
        c' = { c with failoverIndex := c.failoverIndex + skipped.length + 1, switching := true } ∧
        signals = [.openConnectionRequested next container vpnConfiguration]) ∨
      ((c.failoverActive = false ∨ ∀ id ∈ c.remaining, ∃ error, client.prepareConnection id = .failed error) ∧
        isLaunched = false ∧ c'.idle = c.idle ∧ signals = []) := by
  unfold tryNextCandidate at h
  split_ifs at h with hactive
  · cases h
    exact Or.inr ⟨Or.inl hactive, rfl, rfl, rfl⟩
  · rcases tryCandidates_cases h with hlaunch | ⟨hall, rfl, ⟨i, b, rfl⟩, rfl⟩
    · exact Or.inl ⟨Bool.not_eq_false _ ▸ hactive, hlaunch⟩
    · exact Or.inr ⟨Or.inr hall, rfl, rfl, rfl⟩

theorem handled_of_eq_some {state : ConnectionState} {fromProtocol : ErrorCode}
    (h : c.handleConnectionState client state fromProtocol = some (c', signals)) :
    Handled client c state fromProtocol c' signals := by
  unfold handleConnectionState at h
  split_ifs at h with hann htail hconn hsub hfail
  · cases h
    exact .announced hann
  · cases h
    exact .tail htail.1 htail.2
  · cases h
    exact .connected hconn
  all_goals
    have hstate : state ≠ .connecting ∧ state ≠ .reconnecting ∧ state ≠ .connected :=
      ⟨fun h => hann (Or.inl h), fun h => hann (Or.inr h), hconn⟩
    have hswitching : c.switching = true → state ≠ .disconnected ∧ state ≠ .error :=
      fun hs => ⟨fun h => htail ⟨hs, Or.inl h⟩, fun h => htail ⟨hs, Or.inr h⟩⟩
  · cases h
    exact .ended hstate hswitching fun _ => Or.inl hsub.2
  · have hcode : (c.lastConnectionError fromProtocol).isSubscriptionError = false := by
      rw [Bool.eq_false_iff]
      exact fun hcode => hsub ⟨hfail, hcode⟩
    split at h
    · cases h
    · rename_i c₁ signals₁ htry
      cases h
      rcases tryNextCandidate_cases htry with ⟨hactive, skipped, next, container, json, hl, -, rfl, rfl⟩ | ⟨-, hf, -⟩
      · refine .switched ?_ hfail hcode hactive skipped next container json hl
        rw [Bool.eq_false_iff]
        intro hs
        have := hswitching hs
        simp [isFailure, this.1, this.2] at hfail
      · cases hf
    · rename_i c₁ signals₁ htry
      cases h
      rcases tryNextCandidate_cases htry with ⟨-, skipped, next, container, json, -, hf, -⟩ | ⟨hover, -, hidle, rfl⟩
      · cases hf
      · have hgive : (c₁.giveUp state).1 = c.idle := hidle
        rw [hgive]
        exact .ended hstate hswitching fun _ => Or.inr hover
  · cases h
    exact .ended hstate hswitching fun hf => absurd hf hfail

namespace Handled

variable {client : Client} {c c' : ConnectionController} {state : ConnectionState} {fromProtocol : ErrorCode}
  {signals : List ControllerSignal}

section
variable (h : Handled client c state fromProtocol c' signals)
include h

theorem of_announced (hstate : state = .connecting ∨ state = .reconnecting) :
    c' = { c with switching := false, wasConnecting := true } ∧ signals = [.connectionStateChanged state] := by
  cases h with
  | announced _ => exact ⟨rfl, rfl⟩
  | tail _ htail => rcases hstate with rfl | rfl <;> simp at htail
  | connected hconnected => rcases hstate with rfl | rfl <;> cases hconnected
  | switched _ hfailure => rcases hstate with rfl | rfl <;> simp [isFailure] at hfailure
  | ended hends => rcases hstate with rfl | rfl <;> simp at hends

theorem of_switching (hswitching : c.switching = true) (hstate : state = .error ∨ state = .disconnected) :
    c' = c ∧ signals = [] := by
  cases h with
  | announced hannounced => rcases hstate with rfl | rfl <;> simp at hannounced
  | tail _ _ => exact ⟨rfl, rfl⟩
  | connected hconnected => rcases hstate with rfl | rfl <;> cases hconnected
  | switched hnot =>
    rw [hswitching] at hnot
    cases hnot
  | ended _ hnot =>
    obtain ⟨hdisconnected, herror⟩ := hnot hswitching
    rcases hstate with rfl | rfl
    · exact absurd rfl herror
    · exact absurd rfl hdisconnected

/-- A state that is no announcement, no tail and no success: the next candidate is launched, if the state is a
failure that allows it, or the failover ends. -/
theorem of_not_switching (hswitching : c.switching = false) (hstate : state = .error ∨ state = .disconnected) :
    (c.isFailure state = true ∧ c.failoverActive = true ∧ ∃ skipped next container vpnConfiguration,
        Launches client c.remaining skipped next container vpnConfiguration ∧
        c' = { c with failoverIndex := c.failoverIndex + skipped.length + 1, switching := true } ∧
        signals = [.openConnectionRequested next container vpnConfiguration, .connectionStateChanged .connecting]) ∨
      (c' = c.idle ∧ signals = [.connectionStateChanged state] ∧
        (c.isFailure state = true → (c.lastConnectionError fromProtocol).isSubscriptionError = true ∨
          c.failoverActive = false ∨ ∀ id ∈ c.remaining, ∃ error, client.prepareConnection id = .failed error)) := by
  cases h with
  | announced hannounced => rcases hstate with rfl | rfl <;> simp at hannounced
  | tail hnot =>
    rw [hswitching] at hnot
    cases hnot
  | connected hconnected => rcases hstate with rfl | rfl <;> cases hconnected
  | switched _ hfailure _ hactive skipped next container json hlaunches =>
    exact Or.inl ⟨hfailure, hactive, skipped, next, container, json, hlaunches, rfl, rfl⟩
  | ended _ _ hfailures => exact Or.inr ⟨rfl, rfl, hfailures⟩

end

end Handled

/-! ### Which candidates are handled as they should be -/

/-- A candidate is prepared without a crash, launched only if it is supported, and else skipped. -/
def HandlesCandidate (client : Client) (id : String) : Prop :=
  client.prepareConnection id ≠ .nullConfigurator ∧
    ∀ c : ConnectionController, c.failoverActive = true → 0 ≤ c.failoverIndex → c.remaining.head? = some id →
      (∀ c' signals container vpnConfiguration, c.tryNextCandidate client = some (c', true, signals) →
        .openConnectionRequested id container vpnConfiguration ∈ signals → client.isSupportedApartFromService id) ∧
      (¬ client.isSupportedApartFromService id → c.tryNextCandidate client =
        { c with failoverIndex := c.failoverIndex + 1, switching := false }.tryNextCandidate client)

theorem exists_remaining_eq_cons (id : String) :
    ∃ c : ConnectionController, c.failoverActive = true ∧ 0 ≤ c.failoverIndex ∧ c.remaining = [id] :=
  ⟨{ initial with failoverQueue := ["", id], failoverIndex := 0, failoverActive := true }, rfl, Int.le_refl 0, rfl⟩

theorem remaining_of_next (hindex : 0 ≤ c.failoverIndex) {id : String} {later : List String}
    (h : c.remaining = id :: later) :
    { c with failoverIndex := c.failoverIndex + 1, switching := false }.remaining = later := by
  have hnat : (c.failoverIndex + 1 + 1).toNat = (c.failoverIndex + 1).toNat + 1 := by omega
  unfold remaining at h ⊢
  rw [hnat, ← List.drop_drop, h]
  rfl

/-- **Candidates.** The failover handles a stored server as it should exactly if the server has no
configuration to connect with (a legacy subscription, which is skipped), or its default container has a
protocol and runs on the platform. Otherwise it crashes on it or launches an unsupported server. -/
theorem handlesCandidate_iff (client : Client) (id : String) (hid : id ∈ client.repository.orderedServerIds) :
    HandlesCandidate client id ↔
      ∀ container, client.defaultContainerForServer id = .ok container →
        container ≠ .none ∧ container.isUnsupportedContainer = false ∧
          client.isContainerSupported container = true := by
  have hne : id ≠ "" := (client.wellFormed.named id hid).1
  unfold Client.defaultContainerForServer
  cases hconfig : client.serverConfig id with
  | none =>
    -- No configuration: preparing fails, and the loop goes on with the next entry.
    have hfailed := client.prepareConnection_of_serverConfig_eq_none hconfig
    refine iff_of_true ⟨by simp [hfailed], fun c hactive hindex hhead => ?_⟩ (by dsimp only; split_ifs <;> simp)
    obtain ⟨later, hlater⟩ := List.head?_eq_some_iff.mp hhead
    have hstep : c.tryNextCandidate client =
        { c with failoverIndex := c.failoverIndex + 1, switching := false }.tryNextCandidate client := by
      unfold tryNextCandidate
      rw [remaining_of_next hindex hlater, hlater, tryCandidates]
      simp [hactive, hfailed]
    refine ⟨fun c' signals container json htry hopen => ?_, fun _ => hstep⟩
    rcases tryNextCandidate_cases htry with ⟨-, skipped, next, container', json', hl, -, -, rfl⟩ | ⟨-, hf, -⟩
    · have hready := hl.next_ready
      cases List.mem_singleton.mp hopen
      rw [hfailed] at hready
      cases hready
    · cases hf
  | some config =>
    have hsupported := client.isSupportedApartFromService_iff hne
    rw [hconfig] at hsupported
    simp only [Option.some.injEq, exists_eq_left'] at hsupported
    constructor
    · rintro ⟨hnull, hhandles⟩ container hcontainer
      cases hcontainer
      -- The server is not one of those that crash, so it is launched, hence supported.
      obtain ⟨c, hactive, hindex, hremaining⟩ := exists_remaining_eq_cons id
      have hcase := hhandles c hactive hindex (by rw [hremaining, List.head?_cons])
      rw [← hsupported]
      cases hprepared : client.prepareConnection id with
      | nullConfigurator => exact absurd hprepared hnull
      | failed error =>
        unfold Client.prepareConnection at hprepared
        rw [hconfig] at hprepared
        dsimp only at hprepared
        split at hprepared <;> cases hprepared
      | ready container' json =>
        have hlaunches : Launches client c.remaining [] id container' json :=
          ⟨⟨[], hremaining⟩, by simp, hprepared⟩
        have htry := tryCandidates_of_launches hlaunches c
        rw [← tryNextCandidate_of_active hactive] at htry
        exact hcase.1 _ _ container' json htry List.mem_cons_self
    · intro hcontainer
      have hok := hcontainer config.defaultContainer rfl
      refine ⟨fun hnull => ?_, fun c _ _ _ => ⟨fun _ _ _ _ _ _ => hsupported.mpr hok, fun hnot => ?_⟩⟩
      · rw [client.prepareConnection_eq_nullConfigurator_iff, hconfig] at hnull
        obtain ⟨config', heq, hbad⟩ := hnull
        cases heq
        rcases hbad with hnone | hlegacy
        · exact hok.1 hnone
        · rw [hok.2.1] at hlegacy
          cases hlegacy
      · exact absurd (hsupported.mpr hok) hnot

def clientWithEmptyServer : Client :=
  Client.afterCalls .linux
    [.addServer "a" (Client.sharedServer "h1" "amnezia-awg") .selfHostedUser,
      .addServer "b" (Client.sharedServer "h2" "none") .selfHostedUser]

/-- The backup of `a` is `b`, and preparing `b` calls through a null configurator. -/
theorem not_handlesCandidate_emptyServer :
    backups clientWithEmptyServer "a" = ["b"] ∧
      clientWithEmptyServer.prepareConnection "b" = .nullConfigurator ∧
      ¬ HandlesCandidate clientWithEmptyServer "b" := by
  have hnull : clientWithEmptyServer.prepareConnection "b" = .nullConfigurator := by
    rw [Client.prepareConnection_eq_nullConfigurator_iff]
    have hcontainer : (clientWithEmptyServer.serverConfig "b").map (·.defaultContainer) = some .none := by
      decide
    obtain ⟨config, hconfig, hnone⟩ := Option.map_eq_some_iff.mp hcontainer
    exact ⟨config, hconfig, Or.inl hnone⟩
  exact ⟨by decide, hnull, fun h => h.1 hnull⟩

theorem handlesCandidate_iff_a :
    "a" ∈ clientWithEmptyServer.repository.orderedServerIds ∧ HandlesCandidate clientWithEmptyServer "a" := by
  have hmem : "a" ∈ clientWithEmptyServer.repository.orderedServerIds := by decide
  refine ⟨hmem, (handlesCandidate_iff clientWithEmptyServer "a" hmem).mpr fun container h => ?_⟩
  cases h
  decide

end ConnectionController

end FreshVpn
