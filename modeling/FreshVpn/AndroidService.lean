import Mathlib.Data.List.Basic
import Mathlib.Logic.Function.Basic

/-! The VPN service of the Android client with the coroutines it launches, for the process that WireGuard and
AmneziaWG share. Requests to connect, disconnect and reconnect each launch a job, and a status job watches for the
first handshake; their steps are interleaved in any order. A cancelled job ends at the next point where it may be
suspended, and an exception in a job runs the handler of the scope. -/

namespace FreshVpn

inductive ProtocolState where
  | connected
  | connecting
  | disconnected
  | disconnecting
  | reconnecting
  | unknown
  deriving DecidableEq, Repr

/-- The members of `VpnProto` that run in `AwgService`. Each of them has one protocol object, and both objects are of the
class `Wireguard`. -/
inductive AwgProto where
  | wireguard
  | awg
  deriving DecidableEq, Repr

/-- Where a job is. The jobs of `connectToVpn` and `reconnect` share the end of `Wireguard.start`. -/
inductive Phase where
  | connectLaunched
  | connectJoining (disconnection : ℕ)
  | connectJoined
  | connectProtocol
  | starting (o : AwgProto)
  | reconnectLaunched
  | rebuilding (o : AwgProto)
  | establishing (o : AwgProto)
  | protecting (o : AwgProto)
  | disconnectLaunched
  | disconnectJoining (connection : ℕ)
  | disconnectJoined
  | disconnectProtocol
  | stopping
  | awaiting
  | completed
  deriving DecidableEq, Repr

/-- A phase in which a job may be suspended, or has not begun. -/
def Phase.suspended : Phase → Bool
  | .connectLaunched | .connectJoining _ | .reconnectLaunched => true
  | .disconnectLaunched | .disconnectJoining _ | .awaiting => true
  | _ => false

structure Job where
  phase : Phase
  cancelled : Bool
  deriving DecidableEq, Repr

/-- A status job: the object whose tunnel it watches, and whether it is about to report a connection or the lack of a
tunnel. -/
structure Watcher where
  object : AwgProto
  report : Option Bool
  deriving DecidableEq, Repr

/-- A tunnel is turned on or off by a protocol object. -/
inductive TunnelEvent where
  | turnOn (o : AwgProto)
  | turnOff (o : AwgProto)
  deriving DecidableEq, Repr

/-- The service. `running` and `configured` are the fields `tunnelHandle` and `config` of the protocol objects; the tunnel
events are recorded. -/
structure AmneziaVpnService where
  protocolState : ProtocolState
  vpnProto : Option AwgProto
  connectionJob : Option ℕ
  disconnectionJob : Option ℕ
  jobs : List Job
  watchers : List Watcher
  running : AwgProto → Bool
  configured : AwgProto → Bool
  events : List TunnelEvent

namespace AmneziaVpnService

def initial : AmneziaVpnService := ⟨.unknown, none, none, none, [], [], fun _ => false, fun _ => false, []⟩

def launch (phase : Phase) (s : AmneziaVpnService) : AmneziaVpnService := { s with jobs := s.jobs ++ [⟨phase, false⟩] }

variable (i : ℕ)

def enter (phase : Phase) (s : AmneziaVpnService) : AmneziaVpnService :=
  { s with jobs := s.jobs.modify i fun job => { job with phase := phase } }

/-- `Job.cancel`, if there is a job. -/
def cancel (i : Option ℕ) (s : AmneziaVpnService) : AmneziaVpnService :=
  match i with
  | none => s
  | some i => { s with jobs := s.jobs.modify i fun job => { job with cancelled := true } }

def isCompleted (s : AmneziaVpnService) : Bool :=
  match s.jobs[i]? with
  | some job => job.phase == .completed
  | none => true

def turnOn (o : AwgProto) (s : AmneziaVpnService) : AmneziaVpnService :=
  { s with running := Function.update s.running o true, events := s.events ++ [.turnOn o] }

def turnOff (o : AwgProto) (s : AmneziaVpnService) : AmneziaVpnService :=
  { s with running := Function.update s.running o false, events := s.events ++ [.turnOff o] }

def connectionExceptionHandler (s : AmneziaVpnService) : AmneziaVpnService :=
  let cancelled := cancel s.disconnectionJob (cancel s.connectionJob (enter i .completed s))
  { cancelled with connectionJob := none, disconnectionJob := none, protocolState := .disconnected }

/-- `connectToVpn`. The request has no protocol if the configuration cannot be read. -/
def connectToVpn (request : Option AwgProto) (permission : Bool) (s : AmneziaVpnService) : AmneziaVpnService :=
  if s.protocolState = .connected ∨ s.protocolState = .connecting then s
  else match request with
    | none => { s with protocolState := .disconnected }
    | some o =>
      if permission then
        { launch .connectLaunched s with
          vpnProto := some o, protocolState := .connecting, connectionJob := some s.jobs.length }
      else { s with vpnProto := some o, protocolState := .disconnected }

variable (s : AmneziaVpnService)

def disconnect : AmneziaVpnService :=
  if s.protocolState = .unknown ∨ s.protocolState = .disconnected ∨ s.protocolState = .disconnecting then s
  else { launch .disconnectLaunched s with protocolState := .disconnecting, disconnectionJob := some s.jobs.length }

def reconnect : AmneziaVpnService :=
  if s.protocolState = .connected then
    { launch .reconnectLaunched s with protocolState := .reconnecting, connectionJob := some s.jobs.length }
  else s

/-- The next step of a job that has not been cancelled at a point of suspension. `answer` is whether the calls out of the
step go well; a failure is an exception, or the end of the time for which a job waits. -/
def proceed (phase : Phase) (answer : Bool) (s : AmneziaVpnService) : Option AmneziaVpnService :=
  match phase with
  | .connectLaunched =>
    match s.disconnectionJob with
    | none => some (enter i .connectJoined s)
    | some j => some (enter i (.connectJoining j) s)
  | .connectJoining j => if isCompleted j s then some (enter i .connectJoined s) else none
  | .connectJoined => some (enter i .connectProtocol { s with disconnectionJob := none })
  | .connectProtocol =>
    match s.vpnProto with
    | none => some (enter i .completed s)
    | some o => some (enter i (.starting o) s)
  | .starting o =>
    -- a tunnel that is up already is left alone, and its configuration is replaced
    if !answer then some (connectionExceptionHandler i s)
    else if s.running o then some (enter i .completed { s with configured := Function.update s.configured o true })
    else some (enter i (.establishing o) s)
  | .reconnectLaunched =>
    match s.vpnProto with
    | none => some (enter i .completed s)
    | some o => some (enter i (.rebuilding o) s)
  | .rebuilding o =>
    -- building the interface may throw while the old tunnel is still up
    if !answer || !s.configured o then some (connectionExceptionHandler i s)
    else some (enter i (.establishing o) (if s.running o then turnOff o s else s))
  | .establishing o =>
    if answer then some (enter i (.protecting o) (turnOn o s)) else some (connectionExceptionHandler i s)
  | .protecting o =>
    if answer then
      some (enter i .completed
        { s with watchers := s.watchers ++ [⟨o, none⟩], configured := Function.update s.configured o true })
    else some (connectionExceptionHandler i (turnOff o s))
  | .disconnectLaunched =>
    match s.connectionJob with
    | none => some (enter i .disconnectJoined s)
    | some j => some (enter i (.disconnectJoining j) (cancel (some j) s))
  | .disconnectJoining j => if isCompleted j s then some (enter i .disconnectJoined s) else none
  | .disconnectJoined => some (enter i .disconnectProtocol { s with connectionJob := none })
  | .disconnectProtocol =>
    match s.vpnProto with
    | none => some (enter i .awaiting s)
    | some o => if s.running o then some (enter i .stopping (turnOff o s)) else some (enter i .awaiting s)
  | .stopping => some (enter i .awaiting { s with protocolState := .disconnected })
  | .awaiting => if s.protocolState = .disconnected ∨ !answer then some (enter i .completed s) else none
  | .completed => none

/-- A step of a job. -/
def runJob (answer : Bool) (s : AmneziaVpnService) : Option AmneziaVpnService :=
  match s.jobs[i]? with
  | none => none
  | some job =>
    if job.cancelled && job.phase.suspended then some (enter i .completed s) else proceed i job.phase answer s

def runWatcher (answer : Bool) (s : AmneziaVpnService) : Option AmneziaVpnService :=
  match s.watchers[i]? with
  | none => none
  | some ⟨o, none⟩ =>
    if !s.running o then some { s with watchers := s.watchers.set i ⟨o, some false⟩ }
    else if answer then some { s with watchers := s.watchers.set i ⟨o, some true⟩ }
    else some s
  | some ⟨_, some report⟩ =>
    some { s with
      protocolState := if report then .connected else .disconnected, watchers := s.watchers.eraseIdx i }

/-- What happens next: a request on the main thread, or a step of a job. -/
inductive Action where
  | connect (request : Option AwgProto) (permission : Bool)
  | disconnect
  | reconnect
  | job (i : ℕ) (answer : Bool)
  | watcher (i : ℕ) (answer : Bool)
  deriving DecidableEq, Repr

def step : Action → Option AmneziaVpnService
  | .connect request permission => some (connectToVpn request permission s)
  | .disconnect => some (disconnect s)
  | .reconnect => some (reconnect s)
  | .job i answer => runJob i answer s
  | .watcher i answer => runWatcher i answer s

/-- No job of a request is pending. -/
def Quiet : Prop := ∀ job ∈ s.jobs, job.phase = .completed

instance (s : AmneziaVpnService) : Decidable s.Quiet := inferInstanceAs (Decidable (∀ job ∈ s.jobs, _))

def AllStopped : Prop :=
  ∀ o, s.running o = false ∧ s.events.count (.turnOff o) = s.events.count (.turnOn o)

end AmneziaVpnService

end FreshVpn
