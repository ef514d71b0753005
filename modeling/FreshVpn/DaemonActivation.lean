import FreshVpn.DaemonConfig
import FreshVpn.LibraryCounts
import FreshVpn.LibraryProcedure
import FreshVpn.LibraryRun

/-! `Daemon`: how a tunnel is brought up, moved to another server and taken down. The daemon keeps the connections
and counts the excluded prefixes; everything else it asks of the platform, which may refuse. -/

namespace FreshVpn

open Procedure

/-- `Daemon::Op` -/
inductive Op where
  | up
  | down
  | switch
  deriving DecidableEq, Repr

/-- What the daemon asks of the platform: `WireguardUtils`, `IPUtils`, `DnsUtils`, and the functions of the daemon
that a platform overrides. -/
structure DaemonPlatform (P : Type*) where
  prepareActivation : InterfaceConfig → P → P
  interfaceExists : P → Bool
  addInterface : InterfaceConfig → Procedure P
  deleteInterface : Procedure P
  supportIPUtils : Bool
  addInterfaceIPs : InterfaceConfig → Procedure P
  setMTUAndUp : InterfaceConfig → Procedure P
  updatePeer : InterfaceConfig → Procedure P
  deletePeer : InterfaceConfig → Procedure P
  updateRoutePrefix : IPAddress → Procedure P
  deleteRoutePrefix : IPAddress → Procedure P
  addExclusionRoute : IPAddress → Procedure P
  deleteExclusionRoute : IPAddress → Procedure P
  updateResolvers : List HostAddress → Procedure P
  restoreResolvers : Procedure P
  run : Op → InterfaceConfig → Procedure P
  /-- What happens on the platform between two calls of the daemon. -/
  elapse : P → P

/-- What the daemon keeps. The last three fields record its history for the statements about it: the prefixes that
the platform refused to exclude, those that were to be removed from the table without being in it, and the number
of activations that counted their exclusions but were neither recorded as a connection nor cleaned up. -/
structure Books where
  connections : Connections
  excludedAddrSet : Counts IPAddress
  refused : List IPAddress
  strays : List IPAddress
  unrecorded : ℕ

structure Daemon (P : Type*) extends Books where
  platform : P

namespace Daemon

variable {P E : Type*}

def initial (platform : P) : Daemon P where
  connections := .empty
  excludedAddrSet := .empty
  refused := []
  strays := []
  unrecorded := 0
  platform := platform

def onPlatform (request : Procedure P) : Procedure (Daemon P) :=
  fun d => ((request d.platform).1, { d with platform := (request d.platform).2 })

section
variable (wg : DaemonPlatform P) (qt : AddressReader) (config : InterfaceConfig)

def maybeUpdateResolvers : Procedure (Daemon P) :=
  if config.hopType = .multiHopExit ∨ config.hopType = .singleHop then
    onPlatform (wg.updateResolvers (config.resolvers qt))
  else done

def addExclusionRoute (p : IPAddress) : Procedure (Daemon P) := fun d =>
  if 0 < d.excludedAddrSet.count p then (true, { d with excludedAddrSet := d.excludedAddrSet.take p })
  else
    let added := onPlatform (wg.addExclusionRoute p) d
    if added.1 then (true, { added.2 with excludedAddrSet := d.excludedAddrSet.take p })
    else (false, { added.2 with refused := p :: d.refused })

/-- The table has to contain the prefix, which is asserted only. -/
def delExclusionRoute (p : IPAddress) : Procedure (Daemon P) := fun d =>
  if 1 < d.excludedAddrSet.count p then (true, { d with excludedAddrSet := d.excludedAddrSet.release p })
  else
    onPlatform (wg.deleteExclusionRoute p)
      { d with
        excludedAddrSet := d.excludedAddrSet.release p
        strays := if 0 < d.excludedAddrSet.count p then d.strays else p :: d.strays }

def excludeAll (d : Daemon P) : Daemon P :=
  each (addExclusionRoute wg) (config.excludedPrefixes qt) { d with unrecorded := d.unrecorded + 1 }

def record (d : Daemon P) : Daemon P :=
  { d with connections := d.connections.insert config, unrecorded := d.unrecorded - 1 }

def updateRoutes : Procedure (Daemon P) :=
  untilFailure (fun p => onPlatform (wg.updateRoutePrefix p)) config.allowedIPAddressRanges

/-! ### Activation -/

def createInterface : Procedure (Daemon P) := fun d =>
  if wg.interfaceExists d.platform then (true, d) else onPlatform (wg.addInterface config) d

def bringUp : Procedure (Daemon P) :=
  (onPlatform (perform (wg.prepareActivation config))).andThen <|
  (createInterface wg config).andThen <|
  if wg.supportIPUtils then (onPlatform (wg.addInterfaceIPs config)).andThen (onPlatform (wg.setMTUAndUp config))
  else done

/-- What `activate` does after the exclusions are added. -/
def connect : Procedure (Daemon P) :=
  (onPlatform (wg.updatePeer config)).andThen <|
  (maybeUpdateResolvers wg qt config).andThen <|
  (updateRoutes wg config).andThen <|
  onPlatform (wg.run .up config)

/-- `activate` when there is no connection for the type of hop. -/
def activateNew : Procedure (Daemon P) :=
  (bringUp wg config).andThen <|
  (perform (excludeAll wg qt config)).andThen <|
  (connect wg qt config).andThen <|
  perform (record config)

/-! ### Switching to another server -/

def supportServerSwitching (current config : InterfaceConfig) : Bool :=
  current.privateKey == config.privateKey &&
  current.deviceIpv4Address == config.deviceIpv4Address &&
  current.deviceIpv6Address == config.deviceIpv6Address &&
  current.serverIpv4Gateway == config.serverIpv4Gateway &&
  current.serverIpv6Gateway == config.serverIpv6Gateway

/-- The routes of the new peer are added, up to the first that fails, and those of the old one removed. -/
def replaceRoutes (config last : InterfaceConfig) (d : Daemon P) : Daemon P :=
  let updated := (updateRoutes wg config d).2
  let released := each (delExclusionRoute wg) (last.releasedPrefixes qt) updated
  each (fun p => onPlatform (wg.deleteRoutePrefix p)) (config.droppedPrefixes last) released

/-- The old peer is removed if it is another one. -/
def dropPeer (config last : InterfaceConfig) : Procedure (Daemon P) :=
  if config.serverPublicKey ≠ last.serverPublicKey then onPlatform (wg.deletePeer last) else done

def switchServer (config last : InterfaceConfig) : Procedure (Daemon P) :=
  (perform (excludeAll wg qt config)).andThen <|
  (onPlatform (wg.updatePeer config)).andThen <|
  (perform (replaceRoutes wg qt config last)).andThen <|
  (dropPeer wg config last).andThen <|
  perform (record config)

/-- `activate` when the connection can be moved to another server. -/
def activateSwitched (config last : InterfaceConfig) : Procedure (Daemon P) :=
  (switchServer wg qt config last).andThen <|
  (onPlatform wg.restoreResolvers).andThen <|
  (maybeUpdateResolvers wg qt config).andThen <|
  (onPlatform (wg.run .switch config)).andThen <|
  perform fun d => { d with connections := d.connections.insert config }

/-! ### Deactivation -/

def announceDown : Procedure (Daemon P) := fun d =>
  match d.connections.toList.head? with
  | some config => onPlatform (wg.run .down config) d
  | none => (true, d)

def removeConnection : Procedure (Daemon P) := fun d =>
  onPlatform (wg.deletePeer config)
    (each (fun p => onPlatform (wg.deleteRoutePrefix p)) config.allowedIPAddressRanges d)

def forget (d : Daemon P) : Daemon P :=
  { d with connections := .empty, excludedAddrSet := .empty, unrecorded := 0 }

def cleanUp : Procedure (Daemon P) := fun d =>
  let restored := (onPlatform wg.restoreResolvers d).2
  let removed := each (removeConnection wg) d.connections.toList restored
  let routed := each (fun p => onPlatform (wg.deleteExclusionRoute p)) d.excludedAddrSet.entries.keys removed
  onPlatform wg.deleteInterface routed.forget

def deactivate : Procedure (Daemon P) := (announceDown wg).andThen (cleanUp wg)

/-- The call of `activate` after the deactivation finds no connection. -/
def activate : Procedure (Daemon P) := fun d =>
  match d.connections.value config.hopType with
  | some current =>
    if supportServerSwitching current config then activateSwitched wg qt config current d
    else (deactivate wg).andThen (activateNew wg qt config) d
  | none => activateNew wg qt config d

end

/-! ### What a call does not touch -/

theorem keeps_onPlatform {β : Type*} {part : P → β} {request : Procedure P} (h : request.Keeps part) :
    (onPlatform request).Keeps fun d => part d.platform := fun d => h d.platform

theorem keeps_books (request : Procedure P) : (onPlatform request).Keeps toBooks := fun _ => rfl

theorem keeps_addExclusionRoute {β : Type*} {part : P → β} {wg : DaemonPlatform P}
    (h : ∀ p, (wg.addExclusionRoute p).Keeps part) (p : IPAddress) :
    (addExclusionRoute wg p).Keeps fun d => part d.platform := by
  intro d
  unfold addExclusionRoute
  split
  · rfl
  · dsimp only
    split
    · exact h p d.platform
    · exact h p d.platform

theorem keeps_delExclusionRoute {β : Type*} {part : P → β} {wg : DaemonPlatform P}
    (h : ∀ p, (wg.deleteExclusionRoute p).Keeps part) (p : IPAddress) :
    (delExclusionRoute wg p).Keeps fun d => part d.platform := by
  intro d
  unfold delExclusionRoute
  split
  · rfl
  · exact h p d.platform

theorem keeps_maybeUpdateResolvers {β : Type*} {part : Daemon P → β} {wg : DaemonPlatform P}
    (h : ∀ resolvers, (onPlatform (wg.updateResolvers resolvers)).Keeps part) (qt : AddressReader)
    (config : InterfaceConfig) : (maybeUpdateResolvers wg qt config).Keeps part := by
  unfold maybeUpdateResolvers
  split
  · exact h _
  · exact keeps_done _

/-! ### Runs -/

/-- A call of the daemon, or a change of the platform between two calls. Each comes with the answers that the
platform gives during it. -/
inductive Call (E : Type*) where
  | activate (config : InterfaceConfig) (answers : E)
  | deactivate (answers : E)
  | elapse (answers : E)

/-- The state after a call, with what the last call has returned. -/
def step (platform : E → DaemonPlatform P) (qt : AddressReader) (s : Bool × Daemon P) :
    Call E → Option (Bool × Daemon P)
  | .activate config answers => some (activate (platform answers) qt config s.2)
  | .deactivate answers => some (deactivate (platform answers) s.2)
  | .elapse answers => some (s.1, { s.2 with platform := (platform answers).elapse s.2.platform })

end Daemon

end FreshVpn
