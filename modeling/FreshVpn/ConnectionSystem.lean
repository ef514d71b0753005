import FreshVpn.ConnectionProtocol
import FreshVpn.ConnectionRequest

/-! The controller, the interface and `VpnConnection` together. `VpnConnection` lives on a thread of its own:
requests reach it as queued commands, and its states and errors come back as queued signals. One action is one turn
of the event loop of either thread. Attempts are numbered, and every signal carries the number of its attempt, `0`
for states the interface asked for; the numbers and the log of errors are there for the statements about runs. -/

namespace FreshVpn

inductive Command where
  | connectToVpn (serverId : String) (container : DockerContainer) (vpnConfiguration : JsonObject)
  | disconnectFromVpn
  | setConnectionState (state : ConnectionState)

inductive VpnSignalKind where
  | connectionStateChanged (state : ConnectionState)
  | vpnProtocolError (error : ErrorCode)
  deriving DecidableEq

structure VpnSignal where
  attempt : ℕ
  kind : VpnSignalKind
  deriving DecidableEq

/-- A state that the controller may take for a failed attempt. -/
def VpnSignal.isFailure (signal : VpnSignal) : Bool :=
  signal.kind = .connectionStateChanged .error || signal.kind = .connectionStateChanged .disconnected

def VpnSignal.isError (signal : VpnSignal) : Bool :=
  match signal.kind with
  | .vpnProtocolError _ => true
  | .connectionStateChanged _ => false

/-- Nothing that a new attempt would report: a failure or an error. -/
def VpnSignal.isTail (signal : VpnSignal) : Bool := signal.isFailure || signal.isError

structure VpnConnection where
  connectionState : ConnectionState
  vpnProtocol : Option VpnProtocol
  /-- The attempt that `vpnProtocol` belongs to. -/
  attempt : ℕ
  /-- Android: handlers of `disconnectFromVpn` that still wait for the service to report the end. -/
  disconnectHandlers : ℕ
  /-- The errors recorded by the object of an attempt or returned by its `start`. -/
  errorLog : List (ℕ × ErrorCode)

/-- What the surroundings answer while a command is executed: to `start`, to the two hang-ups of an IKEv2
object that is stopped and deleted, and the memory a new object is placed in. -/
structure Answers where
  start : VpnProtocol.StartAnswers
  hungUp : Bool
  hungUpAgain : Bool
  uninitialised : ErrorCode

def Client.isDesktop (client : Client) : Bool := !client.isMobile

namespace VpnConnection

open Emit

def initial : VpnConnection where
  connectionState := .disconnected
  vpnProtocol := none
  attempt := 0
  disconnectHandlers := 0
  errorLog := []

variable (v : VpnConnection)

def setConnectionState (attempt : ℕ) (state : ConnectionState) : VpnConnection × List VpnSignal :=
  if state = .disconnected ∧ v.connectionState = .reconnecting then quietly v
  else emit { v with connectionState := state } ⟨attempt, .connectionStateChanged state⟩

/-- The connections made to an object's signals; the one of `protocolError` is cut before an object is stopped
for the next attempt. -/
def relayOne (attempt : ℕ) (forwardsErrors : Bool) (v : VpnConnection) :
    ProtocolSignal → VpnConnection × List VpnSignal
  | .connectionStateChanged state => v.setConnectionState attempt state
  | .protocolError error => if forwardsErrors then emit v ⟨attempt, .vpnProtocolError error⟩ else quietly v
  | .errorLogged error => quietly { v with errorLog := v.errorLog ++ [(attempt, error)] }

def relay (attempt : ℕ) (forwardsErrors : Bool) (v : VpnConnection) :
    List ProtocolSignal → VpnConnection × List VpnSignal
  | [] => quietly v
  | signal :: rest => andThen (v.relayOne attempt forwardsErrors signal) (relay attempt forwardsErrors · rest)

/-- `stop` on the object, then its deletion, whose destructor stops it once more. -/
def stopAndDelete (answers : Answers) (forwardsErrors : Bool) : VpnConnection × List VpnSignal :=
  match v.vpnProtocol with
  | none => quietly v
  | some p =>
    let stopped := p.stop answers.hungUp
    andThen (v.relay v.attempt forwardsErrors stopped.2) fun v =>
      { v with vpnProtocol := none }.relay v.attempt forwardsErrors (stopped.1.stop answers.hungUpAgain).2

/-- `start` of the object, and what its result does. -/
def startProtocol (attempt : ℕ) (p : VpnProtocol) (answers : Answers) : VpnConnection × List VpnSignal :=
  let started := p.start answers.start
  andThen ({ v with vpnProtocol := some started.1.1, attempt }.relay attempt true started.1.2) fun v =>
    if started.2 = .noError then quietly v
    else
      andThen ({ v with errorLog := v.errorLog ++ [(attempt, started.2)] }.setConnectionState attempt .error) fun v =>
        emit v ⟨attempt, .vpnProtocolError started.2⟩

/-- `connectToVpn` on the desktop platforms, as attempt number `attempt`. -/
def connectOnDesktop (platform : Platform) (attempt : ℕ) (container : DockerContainer)
    (answers : Answers) : VpnConnection × List VpnSignal :=
  andThen (v.setConnectionState attempt .connecting) fun v =>
    andThen (v.stopAndDelete answers false) fun v =>
      match VpnProtocol.factory platform container with
      | none => { v with vpnProtocol := none, attempt }.setConnectionState attempt .error
      | some protocolClass => v.startProtocol attempt (.create protocolClass answers.uninitialised) answers

/-- `connectToVpn`: Android replaces its object without stopping it, iOS and the network extension have none. -/
def connectToVpn (client : Client) (attempt : ℕ) (container : DockerContainer)
    (answers : Answers) : VpnConnection × List VpnSignal :=
  match client.platform with
  | .windows | .macos | .linux => v.connectOnDesktop client.platform attempt container answers
  | .android =>
    andThen (v.setConnectionState attempt .connecting) fun v =>
      v.startProtocol attempt (.create .android answers.uninitialised) answers
  | .ios | .macosNe => andThen (v.setConnectionState attempt .connecting) fun v => quietly { v with attempt }

def disconnectFromVpn (client : Client) (answers : Answers) : VpnConnection × List VpnSignal :=
  match v.vpnProtocol with
  | none => v.setConnectionState 0 .disconnected
  | some p =>
    andThen (v.setConnectionState 0 .disconnecting) fun v =>
      if client.platform = .android then
        andThen ({ v with disconnectHandlers := v.disconnectHandlers + 1 }.relay v.attempt true (p.stop true).2)
          fun v => quietly { v with vpnProtocol := none }
      else v.stopAndDelete answers true

/-- The handler of a change of network or of the wake-up of the system. -/
def reconnectToVpn (answers : Answers) : VpnConnection × List VpnSignal :=
  match v.vpnProtocol with
  | none => quietly v
  | some p =>
    if v.connectionState ≠ .connected then quietly v
    else
      andThen (v.setConnectionState v.attempt .reconnecting) fun v =>
        let stopped := p.stop answers.hungUp
        andThen ({ v with vpnProtocol := some stopped.1 }.relay v.attempt true stopped.2) fun v =>
          v.startProtocol v.attempt stopped.1 answers

def lastError (platform : Platform) : ErrorCode :=
  if platform = .android then .androidError
  else match v.vpnProtocol with
    | none => .internalError
    | some p => p.lastError

def protocolEvent (event : VpnProtocol.ProtocolEvent) : Option (VpnConnection × List VpnSignal) :=
  v.vpnProtocol.bind fun p =>
    (p.handle event).map fun (p', signals) => { v with vpnProtocol := some p' }.relay v.attempt true signals

end VpnConnection

/-- The state of the two threads and of the queues between them. -/
structure System where
  controller : ConnectionController
  vpn : VpnConnection
  /-- Requests on their way to `VpnConnection`. -/
  commands : List Command
  /-- Signals on their way to the controller. -/
  signals : List VpnSignal
  /-- The number of attempts made so far. -/
  attempts : ℕ

/-- One turn of the event loop of either thread. -/
inductive Action where
  -- The user
  | openConnection (serverId : String)
  | closeConnection
  -- The interface asks for a state (`setConnectionState`), for instance while it validates a configuration
  | setConnectionState (state : ConnectionState)
  -- The controller's thread
  | deliver
  | budgetTimeout
  -- The thread of `VpnConnection`
  | execute (answers : Answers)
  | protocolEvent (event : VpnProtocol.ProtocolEvent)
  | networkChanged (answers : Answers)
  | androidDisconnected
  | appleState (state : ConnectionState)

namespace System

/-- What a signal of the controller puts into the queue of commands: the request for an attempt, and the
interface's answer to a reported error, which is to ask for the state `Disconnected`. -/
def commandsOf : ControllerSignal → List Command
  | .openConnectionRequested serverId container vpnConfiguration => [.connectToVpn serverId container vpnConfiguration]
  | .connectionStateChanged .error => [.setConnectionState .disconnected]
  | .connectionStateChanged .unknown => [.setConnectionState .disconnected]
  | _ => []

/-- The interface's answer to an error of `openConnection`. -/
def commandsOfBlocked (error : ErrorCode) : List Command :=
  if error = .noError ∨ error = .legacyApiV1NotSupportedError ∨ error = .noInstalledContainersError then []
  else [.setConnectionState .disconnected]

def openConnection (client : Client) (s : System) (serverId : String) : Option System :=
  (s.controller.openConnection client serverId).map fun (controller, error, signals) =>
    { s with controller, commands := s.commands ++ signals.flatMap commandsOf ++ commandsOfBlocked error }

def deliver (client : Client) (s : System) : Option System :=
  match s.signals with
  | [] => none
  | ⟨_, .connectionStateChanged state⟩ :: rest =>
    (s.controller.handleConnectionState client state (s.vpn.lastError client.platform)).map
      fun (controller, signals) =>
        { s with controller, signals := rest, commands := s.commands ++ signals.flatMap commandsOf }
  | ⟨_, .vpnProtocolError error⟩ :: rest =>
    some { s with controller := s.controller.handleProtocolError error, signals := rest }

/-- The state after a turn of the thread of `VpnConnection`. -/
def emitted (s : System) (x : VpnConnection × List VpnSignal) : System :=
  { s with vpn := x.1, signals := s.signals ++ x.2 }

def execute (client : Client) (s : System) (answers : Answers) : Option System :=
  match s.commands with
  | [] => none
  | .connectToVpn _ container _ :: rest =>
    some ({ s with commands := rest, attempts := s.attempts + 1 }.emitted
      (s.vpn.connectToVpn client (s.attempts + 1) container answers))
  | .disconnectFromVpn :: rest =>
    some ({ s with commands := rest }.emitted (s.vpn.disconnectFromVpn client answers))
  | .setConnectionState state :: rest =>
    some ({ s with commands := rest }.emitted (s.vpn.setConnectionState 0 state))

def step (client : Client) (s : System) : Action → Option System
  | .openConnection serverId => s.openConnection client serverId
  | .closeConnection => some { s with commands := s.commands ++ [.disconnectFromVpn] }
  | .setConnectionState state => some { s with commands := s.commands ++ [.setConnectionState state] }
  | .deliver => s.deliver client
  | .budgetTimeout => s.controller.budgetTimeout.map fun controller => { s with controller }
  | .execute answers => s.execute client answers
  | .protocolEvent event => (s.vpn.protocolEvent event).map s.emitted
  | .networkChanged answers => if client.isDesktop then some (s.emitted (s.vpn.reconnectToVpn answers)) else none
  | .androidDisconnected =>
    if s.vpn.disconnectHandlers = 0 then none
    else
      some (s.emitted ({ s.vpn with disconnectHandlers := s.vpn.disconnectHandlers - 1 }.setConnectionState 0
        .disconnected))
  | .appleState state =>
    if client.platform = .ios ∨ client.platform = .macosNe then
      some (s.emitted (s.vpn.setConnectionState s.vpn.attempt state))
    else none

def initial : System where
  controller := .initial
  vpn := .initial
  commands := []
  signals := []
  attempts := 0

def goodAnswers : Answers where
  start := ⟨.started, .started, .started, .started⟩
  hungUp := true
  hungUpAgain := true
  uninitialised := .noError

/-- The answers of surroundings in which the backend of no class can be reached. -/
def unreachableAnswers : Answers where
  start := ⟨.noProcess, .noController, .noService, .noProcess⟩
  hungUp := true
  hungUpAgain := true
  uninitialised := .noError

/-! ### What a turn of the controller's thread can do -/

theorem deliver_cases {client : Client} {s s' : System} (h : s.deliver client = some s') :
    ∃ attempt kind rest, s.signals = ⟨attempt, kind⟩ :: rest ∧
      ((∃ error, kind = .vpnProtocolError error ∧
          s' = { s with controller := s.controller.handleProtocolError error, signals := rest }) ∨
        ∃ state c signals, kind = .connectionStateChanged state ∧
          ConnectionController.Handled client s.controller state (s.vpn.lastError client.platform) c signals ∧
          s' = { s with controller := c, signals := rest, commands := s.commands ++ signals.flatMap commandsOf }) := by
  unfold deliver at h
  split at h
  · cases h
  · rename_i attempt state rest hsignals
    obtain ⟨⟨c, signals⟩, hhandle, heq⟩ := Option.map_eq_some_iff.mp h
    cases heq
    exact ⟨attempt, _, rest, hsignals, Or.inr
      ⟨state, c, signals, rfl, ConnectionController.handled_of_eq_some hhandle, rfl⟩⟩
  · rename_i attempt error rest hsignals
    cases h
    exact ⟨attempt, _, rest, hsignals, Or.inl ⟨error, rfl, rfl⟩⟩

theorem budgetTimeout_cases {client : Client} {s s' : System} (h : s.step client .budgetTimeout = some s') :
    s' = { s with controller := { s.controller with failoverBudget := false, failoverActive := false } } := by
  obtain ⟨c, htimeout, rfl⟩ := Option.map_eq_some_iff.mp h
  unfold ConnectionController.budgetTimeout at htimeout
  split_ifs at htimeout
  cases htimeout
  rfl

end System

end FreshVpn
