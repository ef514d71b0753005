import FreshVpn.ConnectionAttempt

/-! A request and what an observer of the two queues sees of it: which attempts were reported as failed, whether the
connection has come up, whether the budget has run out, whether a failure was put down to the subscription, and
which servers were launched. -/

namespace FreshVpn

open ConnectionController

def Command.server : Command → Option String
  | .connectToVpn serverId _ _ => some serverId
  | _ => none

namespace System

/-- The signal is a state that the controller handles as a failure. -/
def takesForFailure (s : System) (signal : VpnSignal) : Bool :=
  match signal.kind with
  | .connectionStateChanged state => !s.controller.switching && s.controller.isFailure state
  | .vpnProtocolError _ => false

/-- The error that the controller would report now. -/
def reportedError (client : Client) (s : System) : ErrorCode :=
  s.controller.lastConnectionError (s.vpn.lastError client.platform)

end System

structure Observed where
  system : System
  /-- The number of attempts made before the request. -/
  base : ℕ
  /-- The attempts of the request that the controller has been told have failed, in order. -/
  failed : List ℕ
  connected : Bool
  budgetFired : Bool
  subscription : Bool
  /-- The servers launched for the request, in order. -/
  launched : List String

namespace Observed

/-- The servers requested by the commands that are new in `s'`. -/
def newServers (s s' : System) : List String := (s'.commands.drop s.commands.length).filterMap Command.server

def start (client : Client) (s : System) (serverId : String) : Option Observed :=
  (s.openConnection client serverId).map fun s' =>
    { system := s', base := s.attempts, failed := [], connected := false, budgetFired := false,
      subscription := false, launched := newServers s s' }

/-- What the observer notes when a signal has been delivered. -/
def noteDelivery (client : Client) (r : Observed) (signal : VpnSignal) (s' : System) : Observed :=
  { r with
    system := s'
    failed :=
      if signal.isFailure ∧ r.base < signal.attempt ∧ signal.attempt ∉ r.failed then r.failed ++ [signal.attempt]
      else r.failed
    connected := r.connected || signal.kind = .connectionStateChanged .connected
    subscription :=
      r.subscription || r.system.takesForFailure signal && (r.system.reportedError client).isSubscriptionError
    launched := r.launched ++ newServers r.system s' }

def note (client : Client) (r : Observed) (action : Action) (s' : System) : Observed :=
  match action, r.system.signals with
  | .deliver, signal :: _ => r.noteDelivery client signal s'
  | .budgetTimeout, _ => { r with system := s', budgetFired := true }
  | _, _ => { r with system := s' }

def step (client : Client) (r : Observed) (action : Action) : Option Observed :=
  (r.system.step client action).map (r.note client action)

theorem run_system (client : Client) (r : Observed) (actions : List Action) :
    (Run.run (step client) r actions).map (·.system) = Run.run (System.step client) r.system actions := by
  induction actions generalizing r with
  | nil =>
    rfl
  | cons action actions ih =>
    rw [Run.run, Run.run, step]
    cases hstep : r.system.step client action with
    | none =>
      rfl
    | some s' =>
      rw [Option.map_some, Option.bind_some, Option.bind_some, ih]
      congr 1
      unfold note
      split <;> rfl

variable {client : Client} {r : Observed}

theorem start_eq {s : System} {serverId : String} {container : DockerContainer} {json : JsonObject}
    (hcommands : s.commands = []) (hready : client.prepareConnection serverId = .ready container json)
    (h : start client s serverId = some r) :
    r = { system := { s with
            controller := s.controller.startFailover client serverId
            commands := [.connectToVpn serverId container json] },
          base := s.attempts, failed := [], connected := false, budgetFired := false, subscription := false,
          launched := [serverId] } := by
  have hopen : s.openConnection client serverId = some { s with
      controller := s.controller.startFailover client serverId
      commands := [.connectToVpn serverId container json] } := by
    unfold System.openConnection ConnectionController.openConnection launchConnection
    rw [hready, hcommands]
    rfl
  unfold start at h
  rw [hopen, Option.map_some, Option.some.injEq] at h
  rw [← h, newServers, hcommands]
  rfl

/-- What the observer has seen stays seen. -/
structure Extends (r r' : Observed) : Prop where
  base : r'.base = r.base
  failed : r.failed <+: r'.failed
  connected : r.connected = true → r'.connected = true
  budgetFired : r.budgetFired = true → r'.budgetFired = true
  subscription : r.subscription = true → r'.subscription = true
  launched : r.launched <+: r'.launched

theorem extends_noteDelivery (client : Client) (r : Observed) (signal : VpnSignal) (s' : System) :
    Extends r (r.noteDelivery client signal s') := by
  refine ⟨rfl, ?_, fun hc => by simp [noteDelivery, hc], id, fun hs => by simp [noteDelivery, hs],
    List.prefix_append _ _⟩
  unfold noteDelivery
  split_ifs
  · exact List.prefix_append _ _
  · exact List.prefix_rfl

theorem extends_of_step {r' : Observed} {action : Action} (h : r.step client action = some r') : Extends r r' := by
  obtain ⟨s', -, rfl⟩ := Option.map_eq_some_iff.mp h
  unfold note
  split
  · exact extends_noteDelivery ..
  · exact ⟨rfl, List.prefix_rfl, id, fun _ => rfl, id, List.prefix_rfl⟩
  · exact ⟨rfl, List.prefix_rfl, id, id, id, List.prefix_rfl⟩

theorem deliver_cases {r' : Observed} (h : r.step client .deliver = some r') :
    ∃ attempt kind rest s', r.system.signals = ⟨attempt, kind⟩ :: rest ∧
      r' = r.noteDelivery client ⟨attempt, kind⟩ s' ∧
      ((∃ error, kind = .vpnProtocolError error ∧
          s' = { r.system with controller := r.system.controller.handleProtocolError error, signals := rest }) ∨
        ∃ state c signals, kind = .connectionStateChanged state ∧
          Handled client r.system.controller state (r.system.vpn.lastError client.platform) c signals ∧
          s' = { r.system with
            controller := c, signals := rest,
            commands := r.system.commands ++ signals.flatMap System.commandsOf }) := by
  obtain ⟨s', hstep, rfl⟩ := Option.map_eq_some_iff.mp h
  obtain ⟨attempt, kind, rest, hsignals, hcases⟩ := System.deliver_cases hstep
  refine ⟨attempt, kind, rest, s', hsignals, ?_, hcases⟩
  unfold note
  rw [hsignals]

end Observed

end FreshVpn
