import Mathlib.Data.Finset.Basic
import FreshVpn.DaemonActivation

/-! The daemon's platform on Linux: `WireguardUtilsLinux` with its tunnel process and its route monitor. The routes
in the kernel are two sets, those through the tunnel and those that keep an address out of it; messages to the
kernel are taken to succeed. -/

namespace FreshVpn

open Procedure

structure LinuxState where
  tunnelRunning : Bool
  rtmonitor : Bool
  tunnelRoutes : Finset IPAddress
  exclusionRoutes : Finset IPAddress
  deriving DecidableEq

/-- How the requests of one call end that neither the daemon nor the route monitor decides. -/
structure LinuxAnswers where
  tunnelStarted : Bool
  interfaceConfigured : Bool
  interfaceIPsAdded : Bool
  mtuSetAndUp : Bool
  peerUpdated : Bool
  peerDeleted : Bool
  resolversUpdated : Bool
  resolversRestored : Bool

def LinuxAnswers.success : LinuxAnswers := ⟨true, true, true, true, true, true, true, true⟩

namespace LinuxRouteMonitor

variable (p : IPAddress)

/-- A prefix without an address is not sent. -/
def rtmSendRoute (change : LinuxState → LinuxState) : Procedure LinuxState :=
  fun s => if p.address = .null then (false, s) else (true, change s)

def insertRoute : Procedure LinuxState :=
  rtmSendRoute p fun s => { s with tunnelRoutes := insert p s.tunnelRoutes }

def deleteRoute : Procedure LinuxState :=
  rtmSendRoute p fun s => { s with tunnelRoutes := s.tunnelRoutes.erase p }

def addExclusionRoute : Procedure LinuxState :=
  rtmSendRoute p fun s => { s with exclusionRoutes := insert p s.exclusionRoutes }

def deleteExclusionRoute : Procedure LinuxState :=
  rtmSendRoute p fun s => { s with exclusionRoutes := s.exclusionRoutes.erase p }

end LinuxRouteMonitor

namespace WireguardUtilsLinux

/-- Without a route monitor a request for a route fails. -/
def monitored (request : Procedure LinuxState) : Procedure LinuxState :=
  fun s => if s.rtmonitor then request s else (false, s)

section
variable (qt : AddressReader) (answers : LinuxAnswers)

/-- A tunnel process that does not start is killed; one that starts stays even if it cannot be configured. -/
def addInterface (_ : InterfaceConfig) : Procedure LinuxState := fun s =>
  if s.tunnelRunning then (false, s)
  else if answers.tunnelStarted then (answers.interfaceConfigured, { s with tunnelRunning := true, rtmonitor := true })
  else (false, s)

/-- The routes through the interface disappear with it. -/
def deleteInterface : Procedure LinuxState := fun s =>
  if s.tunnelRunning then (true, { s with rtmonitor := false, tunnelRunning := false, tunnelRoutes := ∅ })
  else (false, { s with rtmonitor := false })

/-- The request for both addresses of a server, except for the exit of a multihop connection. -/
def forServer (request : IPAddress → Procedure LinuxState) (config : InterfaceConfig) (s : LinuxState) : LinuxState :=
  if config.hopType ≠ .multiHopExit ∧ s.rtmonitor then
    each request [config.serverIpv4 qt, config.serverIpv6 qt] s
  else s

def updatePeer (config : InterfaceConfig) : Procedure LinuxState := fun s =>
  if config.serverIpv4AddrIn.isNone ∧ config.serverIpv6AddrIn.isNone then (false, s)
  else (answers.peerUpdated, forServer qt LinuxRouteMonitor.addExclusionRoute config s)

def deletePeer (config : InterfaceConfig) : Procedure LinuxState := fun s =>
  (answers.peerDeleted, forServer qt LinuxRouteMonitor.deleteExclusionRoute config s)

def halves : HostAddress → List IPAddress
  | .ipv4 _ => [IPAddress.ofString qt "0.0.0.0/1", IPAddress.ofString qt "128.0.0.0/1"]
  | .ipv6 _ => [IPAddress.ofString qt "::/1", IPAddress.ofString qt "8000::/1"]
  | .null => []

/-- The request for the halves of a default prefix, the second only if the first succeeds. -/
def forHalves (request : IPAddress → Procedure LinuxState) (address : HostAddress) : Procedure LinuxState :=
  if address = .null then fun s => (false, s) else untilFailure request (halves qt address)

def updateRoutePrefix (p : IPAddress) : Procedure LinuxState := monitored <|
  if 0 < p.prefixLength then LinuxRouteMonitor.insertRoute p
  else forHalves qt LinuxRouteMonitor.insertRoute p.address

/-- A prefix with a length is inserted here too. -/
def deleteRoutePrefix (p : IPAddress) : Procedure LinuxState := monitored <|
  if 0 < p.prefixLength then LinuxRouteMonitor.insertRoute p
  else forHalves qt LinuxRouteMonitor.deleteRoute p.address

end

end WireguardUtilsLinux

theorem WireguardUtilsLinux.addInterface_cases (answers : LinuxAnswers) (config : InterfaceConfig) {s : LinuxState}
    (hrunning : s.tunnelRunning = false) :
    addInterface answers config s = (false, s) ∨
      ∃ configured, addInterface answers config s =
        (configured, { s with tunnelRunning := true, rtmonitor := true }) := by
  unfold addInterface
  rw [hrunning, if_neg Bool.false_ne_true]
  split
  · exact Or.inr ⟨_, rfl⟩
  · exact Or.inl rfl

/-! ### What a request does not touch -/

variable {β : Type*} {part : LinuxState → β}

theorem keeps_rtmSendRoute {change : LinuxState → LinuxState} (h : ∀ s, part (change s) = part s) (p : IPAddress) :
    (LinuxRouteMonitor.rtmSendRoute p change).Keeps part := by
  intro s
  unfold LinuxRouteMonitor.rtmSendRoute
  split
  · rfl
  · exact h s

theorem WireguardUtilsLinux.keeps_monitored {request : Procedure LinuxState} (h : request.Keeps part) :
    (monitored request).Keeps part := by
  intro s
  unfold monitored
  split
  · exact h s
  · rfl

theorem WireguardUtilsLinux.forServer_keeps {request : IPAddress → Procedure LinuxState}
    (h : ∀ p, (request p).Keeps part) (qt : AddressReader) (config : InterfaceConfig) (s : LinuxState) :
    part (forServer qt request config s) = part s := by
  unfold forServer
  split
  · exact each_keeps h _ s
  · rfl

theorem WireguardUtilsLinux.keeps_updatePeer (h : ∀ p, (LinuxRouteMonitor.addExclusionRoute p).Keeps part)
    (qt : AddressReader) (answers : LinuxAnswers) (config : InterfaceConfig) :
    (updatePeer qt answers config).Keeps part := by
  intro s
  unfold updatePeer
  split
  · rfl
  · exact forServer_keeps h qt config s

namespace LinuxDaemon

open WireguardUtilsLinux

/-- The platform on Linux. Between two calls the tunnel process may come to its end. -/
def platform (qt : AddressReader) (answers : LinuxAnswers) : DaemonPlatform LinuxState where
  prepareActivation _ s := s
  interfaceExists s := s.tunnelRunning
  addInterface := addInterface answers
  deleteInterface := deleteInterface
  supportIPUtils := true
  addInterfaceIPs _ s := (answers.interfaceIPsAdded, s)
  setMTUAndUp _ s := (answers.mtuSetAndUp, s)
  updatePeer := updatePeer qt answers
  deletePeer := deletePeer qt answers
  updateRoutePrefix := updateRoutePrefix qt
  deleteRoutePrefix := deleteRoutePrefix qt
  addExclusionRoute p := monitored (LinuxRouteMonitor.addExclusionRoute p)
  deleteExclusionRoute p := monitored (LinuxRouteMonitor.deleteExclusionRoute p)
  updateResolvers _ s := (answers.resolversUpdated, s)
  restoreResolvers s := (answers.resolversRestored, s)
  run _ _ s := (true, s)
  elapse s := { s with tunnelRunning := false, tunnelRoutes := ∅ }

def start : Daemon LinuxState := Daemon.initial ⟨false, false, ∅, ∅⟩

end LinuxDaemon

end FreshVpn
