import FreshVpn.ConnectionFailover
import FreshVpn.ConnectionUi
import FreshVpn.InstallUpdate

/-! The check that keeps the client in use from being revoked. -/

namespace FreshVpn

open SecureServersRepository ConnectionController

/-- The controllers, and the server and the container that were launched last. -/
structure RevokeRun where
  client : Client
  controller : ConnectionController := .initial
  ui : ConnectionUiController := {}
  launched : Option (String × DockerContainer) := none

/-- A call of the interface, a state, an error or the end of the budget that the controller handles, or a change of the
stored servers and settings. -/
inductive RevokeEvent where
  | openConnection
  | connectionState (state : ConnectionState) (fromProtocol : ErrorCode)
  | protocolError (error : ErrorCode)
  | budgetTimeout
  | stored (client : Client)

namespace RevokeRun

/-- The interface and the VPN thread take a signal of the controller. -/
def take (s : RevokeRun) : ControllerSignal → RevokeRun
  | .connectionStateChanged state => { s with ui := (s.ui.onConnectionStateChanged state).1 }
  | .openConnectionRequested serverId container _ => { s with launched := some (serverId, container) }
  | .switchedToBackup _ => s

def step (s : RevokeRun) : RevokeEvent → Option RevokeRun
  | .openConnection =>
    if s.client.repository.defaultServerId = "" then some s
    else (s.controller.openConnection s.client s.client.repository.defaultServerId).map fun (controller, _, signals) =>
      signals.foldl take { s with controller }
  | .connectionState state fromProtocol =>
    (s.controller.handleConnectionState s.client state fromProtocol).map fun (controller, signals) =>
      signals.foldl take { s with controller }
  | .protocolError error => some { s with controller := s.controller.handleProtocolError error }
  | .budgetTimeout => s.controller.budgetTimeout.map fun controller => { s with controller }
  | .stored client => some { s with client }

def isActive (s : RevokeRun) : Bool := s.ui.isConnected || s.ui.isConnectionInProgress

/-- A legacy subscription has a default container too, but no configuration of an administrator. -/
def getDefaultContainer (client : Client) (serverId : String) : DockerContainer :=
  (client.serverConfig serverId).elim .none ServerConfig.defaultContainer

variable (text : JsonText)

def storedClientId (client : Client) (serverId : String) (container : DockerContainer) : String :=
  (client.repository.selfHostedAdminConfig client.endpoints serverId).elim "" fun config =>
    (ContainerModel.ofStored text (config.containerConfig container)).protocolConfig.clientId

def isRevokeBlockedDuringActiveConnection (s : RevokeRun) (serverId : String) (container : DockerContainer)
    (clientId : String) : Bool :=
  if clientId = "" ∨ s.isActive = false then false
  else if s.client.repository.defaultServerId ≠ serverId then false
  else if getDefaultContainer s.client serverId ≠ container then false
  else
    let connectionClientId := storedClientId text s.client serverId container
    if connectionClientId = "" then false
    else connectionClientId = clientId || containsText connectionClientId clientId

/-- The client of the server that was launched last. -/
def InUse (s : RevokeRun) (serverId : String) (container : DockerContainer) (clientId : String) : Prop :=
  s.launched = some (serverId, container) ∧ clientId ≠ "" ∧ storedClientId text s.client serverId container = clientId

/-! ### The default server -/

def target (client : Client) : Option (String × DockerContainer) :=
  (client.serverConfig client.repository.defaultServerId).map fun config =>
    (client.repository.defaultServerId, config.defaultContainer)

/-- Nothing was launched but the default server with its default container. -/
def OnTarget (s : RevokeRun) : Prop := s.launched = none ∨ s.launched = target s.client

/-- The steps after which the check is still right: states are reported while the server that was launched last is the
default one, no failure finds another server to launch, and during a connection the default server stays. -/
def Steady (s : RevokeRun) : RevokeEvent → Prop
  | .connectionState state _ =>
    s.OnTarget ∧ (s.controller.isFailure state = true → s.controller.failoverActive = true →
      ∀ id ∈ s.controller.remaining, ∃ error, s.client.prepareConnection id = .failed error)
  | .stored client => s.isActive = true → target client = target s.client
  | _ => True

variable {container : DockerContainer} {signals : List ControllerSignal}

theorem target_of_ready {client : Client} {vpnConfiguration : JsonObject}
    (h : client.prepareConnection client.repository.defaultServerId = .ready container vpnConfiguration) :
    target client = some (client.repository.defaultServerId, container) := by
  unfold Client.prepareConnection at h
  unfold target
  cases hconfig : client.serverConfig client.repository.defaultServerId with
  | none => simp [hconfig] at h
  | some config =>
    simp only [hconfig] at h
    split at h
    · cases h
    · cases h
      rfl

theorem foldl_take_of_states
    (h : ∀ signal ∈ signals, ∀ id container json, signal ≠ .openConnectionRequested id container json) (s : RevokeRun) :
    (signals.foldl take s).launched = s.launched ∧ (signals.foldl take s).client = s.client := by
  induction signals generalizing s with
  | nil => exact ⟨rfl, rfl⟩
  | cons signal signals ih =>
    rw [List.forall_mem_cons] at h
    obtain ⟨hlaunched, hclient⟩ := ih h.2 (s.take signal)
    rw [List.foldl_cons, hlaunched, hclient]
    cases signal with
    | connectionStateChanged | switchedToBackup => exact ⟨rfl, rfl⟩
    | openConnectionRequested id container json => exact absurd rfl (h.1 id container json)

variable {s t : RevokeRun}

theorem launches_nothing {state : ConnectionState} {fromProtocol : ErrorCode} {controller : ConnectionController}
    (hsteady : s.Steady (.connectionState state fromProtocol))
    (h : s.controller.handleConnectionState s.client state fromProtocol = some (controller, signals)) :
    ∀ signal ∈ signals, ∀ id container json, signal ≠ .openConnectionRequested id container json := by
  cases handled_of_eq_some h with
  | announced | tail | ended => simp
  | connected hstate =>
    unfold backupNotice
    split_ifs <;> simp
  | switched hswitching hfailure hcode hactive skipped next container json hlaunches =>
    obtain ⟨later, hsplit⟩ := hlaunches.split
    obtain ⟨error, hfailed⟩ := hsteady.2 hfailure hactive next (by simp [hsplit])
    exact absurd (hfailed.symm.trans hlaunches.next_ready) nofun

theorem onTarget_step (h : s.isActive = true → s.OnTarget) {event : RevokeEvent} (hsteady : s.Steady event)
    (hstep : s.step event = some t) : t.isActive = true → t.OnTarget := by
  intro hactive
  cases event with
  | openConnection =>
    simp only [step] at hstep
    split_ifs at hstep with hid
    · cases hstep
      exact h hactive
    · obtain ⟨⟨controller, error, signals⟩, hopen, rfl⟩ := Option.map_eq_some_iff.mp hstep
      obtain ⟨⟨error', signals'⟩, hlaunch, heq⟩ := Option.map_eq_some_iff.mp hopen
      cases heq
      unfold launchConnection at hlaunch
      split at hlaunch
      · cases hlaunch
      · cases hlaunch
        exact h hactive
      · rename_i container json hready
        cases hlaunch
        exact Or.inr (target_of_ready hready).symm
  | connectionState state fromProtocol =>
    obtain ⟨⟨controller, signals⟩, hhandle, rfl⟩ := Option.map_eq_some_iff.mp hstep
    obtain ⟨hlaunched, hclient⟩ := foldl_take_of_states (launches_nothing hsteady hhandle) { s with controller }
    have hbefore := hsteady.1
    unfold OnTarget at hbefore ⊢
    rwa [hlaunched, hclient]
  | protocolError error =>
    cases hstep
    exact h hactive
  | budgetTimeout =>
    obtain ⟨controller, -, rfl⟩ := Option.map_eq_some_iff.mp hstep
    exact h hactive
  | stored client =>
    cases hstep
    have hbefore := h hactive
    unfold OnTarget at hbefore ⊢
    rwa [hsteady hactive]

/-! ### The check -/

theorem serverConfig_isSome {client : Client} {serverId : String}
    (h : storedClientId text client serverId container ≠ "") :
    ∃ config, client.serverConfig serverId = some config := by
  unfold storedClientId at h
  cases hadmin : client.repository.selfHostedAdminConfig client.endpoints serverId with
  | none => simp [hadmin] at h
  | some config =>
    refine ⟨config.toServerConfig, ?_⟩
    have hkind : client.repository.serverKind client.endpoints serverId = .selfHostedAdmin := by
      unfold selfHostedAdminConfig configOfKind at hadmin
      unfold serverKind
      split at hadmin
      · cases hadmin
      · dsimp only at hadmin
        split_ifs at hadmin with hkind
        exact of_decide_eq_true hkind
    rw [Client.serverConfig, hkind]
    simp [hadmin]

theorem isRevokeBlocked_iff (s : RevokeRun) (serverId : String) (container : DockerContainer) (clientId : String) :
    isRevokeBlockedDuringActiveConnection text s serverId container clientId = true ↔
      s.isActive = true ∧ target s.client = some (serverId, container) ∧ clientId ≠ "" ∧
        storedClientId text s.client serverId container ≠ "" ∧
        (storedClientId text s.client serverId container = clientId ∨
          containsText (storedClientId text s.client serverId container) clientId = true) := by
  have htarget : storedClientId text s.client serverId container ≠ "" →
      (target s.client = some (serverId, container) ↔
        s.client.repository.defaultServerId = serverId ∧ getDefaultContainer s.client serverId = container) := by
    intro hstored
    obtain ⟨config, hconfig⟩ := serverConfig_isSome text hstored
    unfold target getDefaultContainer
    constructor
    · intro h
      obtain ⟨default, hdefault, heq⟩ := Option.map_eq_some_iff.mp h
      cases heq
      exact ⟨rfl, by simp [hdefault]⟩
    · rintro ⟨rfl, rfl⟩
      simp [hconfig]
  unfold isRevokeBlockedDuringActiveConnection
  by_cases hstored : storedClientId text s.client serverId container = ""
  · simp [hstored]
  · split_ifs with hidle hserver hcontainer
    · rcases hidle with hid | hactive
      · simp [hid]
      · simp [hactive]
    all_goals simp_all

/-- **The client in use cannot be revoked.** Let a run be steady, and a connection be up or in progress after it. A
request is blocked just when it is for the client that the server launched last has stored, except that every part of
the id of this client is taken for it: the two agree on a request if and only if its id is no proper part. -/
theorem blocked_iff_inUse {client : Client} {events : List RevokeEvent}
    (hrun : Run.run step { client } events = some s) (hsteady : Run.Meets step Steady { client } events)
    (hactive : s.isActive = true) {last : String × DockerContainer} (hlaunched : s.launched = some last)
    (serverId : String) (container : DockerContainer) (clientId : String) :
    (isRevokeBlockedDuringActiveConnection text s serverId container clientId = true ↔
        s.InUse text serverId container clientId) ↔
      (last = (serverId, container) → clientId ≠ "" → storedClientId text s.client serverId container ≠ "" →
        containsText (storedClientId text s.client serverId container) clientId = true →
        storedClientId text s.client serverId container = clientId) := by
  have htarget : target s.client = some last := by
    have hinvariant := Run.run_invariant_of_meets (I := fun s : RevokeRun => s.isActive = true → s.OnTarget)
      (fun _ _ _ h hok hstep => onTarget_step h hok hstep) (fun _ => Or.inl rfl) hsteady hrun
    rcases hinvariant hactive with hnone | hon
    · rw [hlaunched] at hnone
      cases hnone
    · rw [← hon, hlaunched]
  rw [isRevokeBlocked_iff, htarget, InUse, hlaunched, Option.some.injEq]
  constructor
  · intro h hlast hid hstored hpart
    exact (h.mp ⟨hactive, hlast, hid, hstored, Or.inr hpart⟩).2.2
  · intro h
    constructor
    · rintro ⟨-, hlast, hid, hstored, heq | hpart⟩
      · exact ⟨hlast, hid, heq⟩
      · exact ⟨hlast, hid, h hlast hid hstored hpart⟩
    · rintro ⟨hlast, hid, heq⟩
      exact ⟨hactive, hlast, hid, heq ▸ hid, Or.inl heq⟩

def adminServer (hostName clientId : String) : JsonObject :=
  [("containers", .array [.object [
      ("awg", .object [("last_config", .string (JsonText.tokens.compact [("clientId", .string clientId)]))]),
      ("container", .string "amnezia-awg")]]),
    ("defaultContainer", .string "amnezia-awg"), ("hostName", .string hostName), ("password", .string "p"),
    ("port", .double 22), ("userName", .string "root")]

def administrator : Client :=
  Client.afterCalls .linux
    [.addServer "a" (adminServer "h1" "key-a") .selfHostedAdmin,
      .addServer "b" (adminServer "h2" "key-b") .selfHostedAdmin]

theorem default_client_blocked :
    ∃ s, Run.run step { client := administrator } [.openConnection, .connectionState .connecting .noError] = some s ∧
      (isRevokeBlockedDuringActiveConnection .tokens s "a" .awg "key-a" = true ↔ s.InUse .tokens "a" .awg "key-a") := by
  have hopened : (step { client := administrator } .openConnection).map
      (fun s => (s.launched, target s.client)) = some (some ("a", .awg), some ("a", .awg)) := by decide +kernel
  have hsummary : (Run.run step { client := administrator } [.openConnection,
      .connectionState .connecting .noError]).map (fun s => (s.isActive, s.launched,
        storedClientId .tokens s.client "a" .awg)) = some (true, some ("a", .awg), "key-a") := by decide +kernel
  obtain ⟨s, hrun, heq⟩ := Option.map_eq_some_iff.mp hsummary
  simp only [Prod.mk.injEq] at heq
  refine ⟨s, hrun, (blocked_iff_inUse .tokens hrun ⟨trivial, fun t ht => ?_⟩ heq.1 heq.2.1 "a" .awg "key-a").mpr
    fun _ _ _ _ => heq.2.2⟩
  rw [ht, Option.map_some, Option.some.injEq, Prod.mk.injEq] at hopened
  exact ⟨⟨Or.inr (hopened.1.trans hopened.2.symm), nofun⟩, fun _ _ => trivial⟩

/-- The default server fails, and the connection comes up through the other one. Its client can be revoked, and the one
of the default server cannot, and neither can a client with a part of its id. -/
theorem backup_client_not_blocked :
    ∃ s, Run.run step { client := administrator } [.openConnection, .connectionState .connecting .noError,
        .connectionState .error .noError, .connectionState .connecting .noError,
        .connectionState .connected .noError] = some s ∧
      s.isActive = true ∧ s.InUse .tokens "b" .awg "key-b" ∧
      isRevokeBlockedDuringActiveConnection .tokens s "b" .awg "key-b" = false ∧
      isRevokeBlockedDuringActiveConnection .tokens s "a" .awg "key-a" = true ∧
      isRevokeBlockedDuringActiveConnection .tokens s "a" .awg "key" = true := by
  have hsummary : (Run.run step { client := administrator } [.openConnection, .connectionState .connecting .noError,
      .connectionState .error .noError, .connectionState .connecting .noError,
      .connectionState .connected .noError]).map (fun s => (s.isActive, s.launched,
        storedClientId .tokens s.client "b" .awg,
        isRevokeBlockedDuringActiveConnection .tokens s "b" .awg "key-b",
        isRevokeBlockedDuringActiveConnection .tokens s "a" .awg "key-a",
        isRevokeBlockedDuringActiveConnection .tokens s "a" .awg "key")) =
      some (true, some ("b", .awg), "key-b", false, true, true) := by decide +kernel
  obtain ⟨s, hrun, heq⟩ := Option.map_eq_some_iff.mp hsummary
  simp only [Prod.mk.injEq] at heq
  obtain ⟨hactive, hlaunched, hstored, hb, ha, hpart⟩ := heq
  exact ⟨s, hrun, hactive, ⟨hlaunched, by decide, hstored⟩, hb, ha, hpart⟩

end RevokeRun

end FreshVpn
