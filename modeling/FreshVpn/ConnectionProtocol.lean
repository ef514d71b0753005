import FreshVpn.LibraryEmit
import FreshVpn.ConnectionStates
import FreshVpn.ServersContainers

/-! The protocol objects (`VpnProtocol` and its subclasses): what `start`, `stop` and the events of each
backend do to the state of the object, and the signals they emit on the way. What the operating system, the
service and the network answer is part of the call or of the event. -/

namespace FreshVpn

open Emit

/-- The subclasses of `VpnProtocol`. -/
inductive ProtocolClass where
  | openVpn | wireguard | xray | ikev2 | android
  deriving DecidableEq

inductive ProtocolSignal where
  | connectionStateChanged (state : ConnectionState)
  | protocolError (error : ErrorCode)
  /-- Not a signal: the line `setLastError` writes to the log. -/
  | errorLogged (error : ErrorCode)
  deriving DecidableEq

structure VpnProtocol where
  protocolClass : ProtocolClass
  connectionState : ConnectionState
  lastError : ErrorCode
  /-- Whether `m_timeoutTimer` is running. -/
  timeoutTimer : Bool
  /-- WireGuard: `m_failureReported`. -/
  failureReported : Bool
  /-- WireGuard: `m_probeRunning`; the deadline of the probe runs exactly as long. -/
  probeRunning : Bool
  /-- OpenVPN: whether the management server listens. -/
  managementServer : Bool
  /-- OpenVPN: whether the process has connected to it; closing the server leaves this connection open. -/
  managementSocket : Bool
  /-- OpenVPN, Xray: whether the process that `finished` is connected to may still end. -/
  processRunning : Bool
  /-- Xray: `m_tun2socksRetryCount`. -/
  tun2socksRetryCount : ℕ
  /-- Xray: retries that wait for their delay. -/
  retriesPending : ℕ
  deriving DecidableEq

namespace VpnProtocol

/-- A constructed object; the constructor leaves `m_lastError` as it finds the memory. -/
def create (protocolClass : ProtocolClass) (uninitialised : ErrorCode) : VpnProtocol where
  protocolClass := protocolClass
  connectionState := .unknown
  lastError := uninitialised
  timeoutTimer := false
  failureReported := false
  probeRunning := false
  managementServer := false
  managementSocket := false
  processRunning := false
  tun2socksRetryCount := 0
  retriesPending := 0

/-- `VpnProtocol::factory`; `none` is the null pointer. -/
def factory (platform : Platform) (container : DockerContainer) : Option ProtocolClass :=
  match platform, container with
  | .windows, .ipsec => some .ikev2
  | .windows, .openVpn | .macos, .openVpn | .linux, .openVpn => some .openVpn
  | .windows, .wireGuard | .macos, .wireGuard | .linux, .wireGuard => some .wireguard
  | .windows, .awg2 | .macos, .awg2 | .linux, .awg2 => some .wireguard
  | .windows, .awg | .macos, .awg | .linux, .awg => some .wireguard
  | .windows, .xray | .macos, .xray | .linux, .xray => some .xray
  | .windows, .ssXray | .macos, .ssXray | .linux, .ssXray => some .xray
  | _, _ => none

/-! ### The base class -/

variable (p : VpnProtocol)

/-- The timer after a change to `state`. -/
def timerAfter : ConnectionState → Bool
  | .connecting | .reconnecting => true
  | .connected | .disconnected | .error => false
  | _ => p.timeoutTimer

def setConnectionState (state : ConnectionState) : VpnProtocol × List ProtocolSignal :=
  if p.connectionState = state then quietly p
  else if p.connectionState = .disconnected ∧ state = .disconnecting then quietly p
  else emit { p with connectionState := state, timeoutTimer := p.timerAfter state } (.connectionStateChanged state)

def setLastError (error : ErrorCode) : VpnProtocol × List ProtocolSignal :=
  andThen (if error = .noError then quietly { p with lastError := error }
    else { p with lastError := error }.setConnectionState .error) fun p => emit p (.errorLogged error)

/-! ### Stopping -/

def cancelTrafficProbe : VpnProtocol := { p with probeRunning := false }

/-- WireGuard: the handler of the local controller's `disconnected`, which `deactivate` also emits. -/
def onDaemonDisconnected : VpnProtocol × List ProtocolSignal :=
  p.cancelTrafficProbe.setConnectionState .disconnected

/-- OpenVPN: the process is told to end and the management server closed, but not the connection it has accepted. -/
def cleanupResources : VpnProtocol := { p with managementServer := false }

/-- `stop`; `hungUp` is the answer of `RasHangUp` to the IKEv2 object. -/
def stop (hungUp : Bool) : VpnProtocol × List ProtocolSignal :=
  match p.protocolClass with
  | .wireguard => p.cancelTrafficProbe.onDaemonDisconnected
  | .openVpn =>
    let wasActive := p.connectionState = .preparing ∨ p.connectionState = .connecting ∨
      p.connectionState = .connected ∨ p.connectionState = .reconnecting
    andThen (if wasActive then p.setConnectionState .disconnecting else quietly p) fun p =>
      let p := p.cleanupResources
      if wasActive ∨ p.connectionState = .disconnecting then p.setConnectionState .disconnected else quietly p
  | .xray => { p with processRunning := false }.setConnectionState .disconnected
  | .ikev2 =>
    andThen (p.setConnectionState .disconnecting) fun p =>
      p.setConnectionState (if hungUp then .disconnected else .error)
  | .android => p.setConnectionState .disconnecting

/-- WireGuard: the end of an attempt, reported once. -/
def failConnection (error : ErrorCode) : VpnProtocol × List ProtocolSignal :=
  if p.failureReported then quietly p
  else
    andThen ({ p with failureReported := true }.cancelTrafficProbe.setLastError error) fun p =>
      andThen (emit p (.protocolError error)) onDaemonDisconnected

/-- `onTimeout`: first the error, then the stop. -/
def onTimeout (hungUp : Bool) : VpnProtocol × List ProtocolSignal :=
  andThen ({ p with timeoutTimer := false }.setLastError .vpnTunnelDidNotComeUpError) fun p =>
    andThen (emit p (.protocolError .vpnTunnelDidNotComeUpError)) fun p =>
      (if p.protocolClass = .wireguard then p.cancelTrafficProbe else p).stop hungUp

/-! ### Starting -/

inductive OpenVpnStart where
  | configMissing | killSwitchRefused | managementServerFailed | noProcess | started
  deriving DecidableEq

inductive WireguardStart where
  | noController | hostUnresolved | started
  deriving DecidableEq

inductive XrayStart where
  | inboundAuthFailed | configEmpty | noService | xrayFailed | tun2socksUnavailable | started
  deriving DecidableEq

inductive Ikev2Start where
  | noProcess | started
  deriving DecidableEq

/-- What the surroundings answer to a call of `start`, for each class. -/
structure StartAnswers where
  openVpn : OpenVpnStart
  wireguard : WireguardStart
  xray : XrayStart
  ikev2 : Ikev2Start

def startOpenVpn : OpenVpnStart → (VpnProtocol × List ProtocolSignal) × ErrorCode
  | .configMissing => (p.cleanupResources.setLastError .openVpnConfigMissing, .openVpnConfigMissing)
  | .killSwitchRefused => (quietly p.cleanupResources, .amneziaServiceConnectionFailed)
  | .managementServerFailed =>
    (p.cleanupResources.setLastError .openVpnManagementServerError, .openVpnManagementServerError)
  | .noProcess =>
    (andThen ({ p with managementServer := true }.setConnectionState .connecting) fun p =>
      p.setLastError .amneziaServiceConnectionFailed, .amneziaServiceConnectionFailed)
  | .started =>
    (andThen ({ p with managementServer := true }.setConnectionState .connecting) fun p =>
      quietly { p with processRunning := true }, .noError)

def startWireguard (answer : WireguardStart) : (VpnProtocol × List ProtocolSignal) × ErrorCode :=
  let connecting := { p with failureReported := false }.setConnectionState .connecting
  match answer with
  | .noController =>
    (andThen connecting (failConnection · .amneziaServiceConnectionFailed), .amneziaServiceConnectionFailed)
  | .hostUnresolved => (andThen connecting (failConnection · .addressPoolError), .addressPoolError)
  | .started => (connecting, .noError)

/-- The error of a start that ends early, which the object does not record. -/
def XrayStart.error : XrayStart → ErrorCode
  | .inboundAuthFailed => .internalError
  | .configEmpty => .xrayExecutableCrashed
  | .noService => .amneziaServiceConnectionFailed
  | .xrayFailed => .xrayExecutableCrashed
  | .tun2socksUnavailable => .amneziaServiceConnectionFailed
  | .started => .noError

def startXray (answer : XrayStart) : (VpnProtocol × List ProtocolSignal) × ErrorCode :=
  (andThen (p.setConnectionState .connecting) fun p =>
    quietly (if answer = .started then { p with processRunning := true } else p), answer.error)

def startIkev2 : Ikev2Start → (VpnProtocol × List ProtocolSignal) × ErrorCode
  | .noProcess =>
    (andThen (p.setConnectionState .connecting) fun p => p.setLastError .amneziaServiceConnectionFailed,
      .amneziaServiceConnectionFailed)
  | .started => (p.setConnectionState .connecting, .noError)

/-- `start`: the object and its signals, and the error returned. -/
def start (answers : StartAnswers) : (VpnProtocol × List ProtocolSignal) × ErrorCode :=
  match p.protocolClass with
  | .openVpn => p.startOpenVpn answers.openVpn
  | .wireguard => p.startWireguard answers.wireguard
  | .xray => p.startXray answers.xray
  | .ikev2 => p.startIkev2 answers.ikev2
  | .android => (quietly p, .noError)

/-! ### Events of the backends -/

inductive ProtocolEvent where
  | timeout (hungUp : Bool)
  -- WireGuard: the local controller and the traffic probe
  | daemonConnected | daemonDisconnected | backendFailure | probeSucceeded | probeDeadline
  -- OpenVPN: the management interface and its lines, and the end of the process
  | managementAccepted | managementConnected | managementExiting | managementReconnecting
  | managementFatal (adaptersInUse : Bool)
  | openVpnFinished
  -- Xray: the tunnel is up (with the result of the routing), the end of tun2socks, a retry of it
  | stackUp (routing : ErrorCode) | tun2socksFinished (resourceBusy : Bool) | tun2socksRetry (available : Bool)
  -- IKEv2: states of the RAS connection
  | rasPreparing | rasAuthFailed | rasPasswordExpired | rasConnected | rasDisconnected
  -- Android: a state of the service
  | androidState (state : ConnectionState)
  deriving DecidableEq

def maxTun2SocksRetries : ℕ := 5

/-- Xray gives an attempt up by stopping first and recording the error afterwards. -/
def stopAndFail (error : ErrorCode) : VpnProtocol × List ProtocolSignal :=
  andThen (p.stop true) fun p => p.setLastError error

/-- One event of the object; `none` if it cannot happen to it. -/
def handle (event : ProtocolEvent) : Option (VpnProtocol × List ProtocolSignal) :=
  match p.protocolClass, event with
  | _, .timeout hungUp => if p.timeoutTimer then some (p.onTimeout hungUp) else none
  | .wireguard, .daemonConnected =>
    some (quietly (if p.probeRunning then p else { p with probeRunning := true, timeoutTimer := false }))
  | .wireguard, .daemonDisconnected => some p.onDaemonDisconnected
  | .wireguard, .backendFailure => some (p.failConnection .amneziaServiceConnectionFailed)
  | .wireguard, .probeSucceeded =>
    if p.probeRunning then some (p.cancelTrafficProbe.setConnectionState .connected) else none
  | .wireguard, .probeDeadline =>
    if p.probeRunning then some (p.failConnection .vpnTunnelDidNotComeUpError) else none
  | .openVpn, .managementAccepted =>
    if p.managementServer then some (quietly { p with managementServer := false, managementSocket := true }) else none
  | .openVpn, .managementConnected =>
    if p.managementSocket then some ({ p with timeoutTimer := false }.setConnectionState .connected) else none
  | .openVpn, .managementExiting => if p.managementSocket then some (p.setConnectionState .disconnecting) else none
  | .openVpn, .managementReconnecting => if p.managementSocket then some (p.setConnectionState .reconnecting) else none
  | .openVpn, .managementFatal adaptersInUse =>
    if p.managementSocket then
      some (emit p (.protocolError (if adaptersInUse then .openVpnAdaptersInUseError else .openVpnUnknownError)))
    else none
  | .openVpn, .openVpnFinished =>
    if p.processRunning then some ({ p with processRunning := false }.setConnectionState .disconnected) else none
  | .xray, .stackUp routing =>
    if p.processRunning then
      some (if routing = .noError then p.setConnectionState .connected else p.stopAndFail routing)
    else none
  | .xray, .tun2socksFinished resourceBusy =>
    if p.processRunning = false then none
    else if resourceBusy ∧ p.tun2socksRetryCount < maxTun2SocksRetries then
      some (quietly { p with
        processRunning := false
        tun2socksRetryCount := p.tun2socksRetryCount + 1
        retriesPending := p.retriesPending + 1 })
    else some ({ p with tun2socksRetryCount := 0 }.stopAndFail .tun2SockExecutableCrashed)
  | .xray, .tun2socksRetry available =>
    if p.retriesPending = 0 then none
    else
      let p := { p with retriesPending := p.retriesPending - 1 }
      if available then some (quietly { p with processRunning := true })
      else some (p.stopAndFail .amneziaServiceConnectionFailed)
  | .ikev2, .rasPreparing => some (p.setConnectionState .preparing)
  | .ikev2, .rasAuthFailed => some (p.setConnectionState .disconnected)
  | .ikev2, .rasPasswordExpired => some (p.setConnectionState .error)
  | .ikev2, .rasConnected => some (p.setConnectionState .connected)
  | .ikev2, .rasDisconnected => some (p.setConnectionState .disconnected)
  | .android, .androidState state => some (p.setConnectionState state)
  | _, _ => none

end VpnProtocol

end FreshVpn
