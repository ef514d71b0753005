import FreshVpn.ServersDefault
import FreshVpn.SettingsStore

/-! The settings controller and the part of `SecureAppSettingsRepository` and of the split-tunnelling controllers it
drives: resetting the settings, and backing them up to and restoring them from a JSON object. -/

namespace FreshVpn

open SecureQSettings

/-! ### Texts -/

def startsWithText (text start : String) : Bool := start.toList.isPrefixOf text.toList

/-- `QString::toLower() == "true"`. -/
def lowersToTrue (text : String) : Bool := text.toList.map Char.toLower == "true".toList

/-- `QString::remove(0, 1)` and `QString::chop(1)`. -/
def withoutEnds (text : String) : String := String.ofList text.toList.tail.dropLast

namespace SecureQSettings

section

variable {qt : Qt} (env : SettingsEnvironment qt)

/-! ### The server repository on the store -/

variable (s : SecureQSettings)

/-- What the load path of the server repository reads. -/
def serversSettings : Settings × SecureQSettings :=
  let (serversList, s) := s.value env "Servers/serversList" (.byteArray [])
  let (defaultServerId, s) := s.value env "Servers/defaultServerId" (.string "")
  let (defaultServerIndex, s) := s.value env "Servers/defaultServerIndex" (.int 0)
  ({ serversList := qt.documentArray (qt.toByteArray serversList)
     defaultServerId := qt.toString defaultServerId
     defaultServerIndex := qt.toInt defaultServerIndex }, s)

/-- The constructor of the server repository. -/
def openRepository (uuids : UuidSource) (endpoints : ApiEndpoints) (uuidsDrawn : ℕ) (s : SecureQSettings) :
    SecureServersRepository × SecureQSettings :=
  let (settings, s) := s.serversSettings env
  let repository := SecureServersRepository.create uuids endpoints settings uuidsDrawn
  (repository, s.setValue env "Servers/defaultServerId" (.string repository.defaultServerId))

/-- The server repository of the next start of the client. -/
def nextStart (uuids : UuidSource) (endpoints : ApiEndpoints) (uuidsDrawn : ℕ) (s : SecureQSettings) :
    SecureServersRepository :=
  ((s.start env).openRepository env uuids endpoints uuidsDrawn).1

/-! ### The settings the controller writes and reads -/

/-- The setters of `SecureAppSettingsRepository` for switches. -/
def setFlag (key : String) (enabled : Bool) (s : SecureQSettings) : SecureQSettings :=
  s.setValue env key (.bool enabled)

def setAutoConnect : Bool → SecureQSettings → SecureQSettings := setFlag env "Conf/autoConnect"

def setStartMinimized : Bool → SecureQSettings → SecureQSettings := setFlag env "Conf/startMinimized"

def setKillSwitchEnabled : Bool → SecureQSettings → SecureQSettings := setFlag env "Conf/killSwitchEnabled"

def setStrictKillSwitchEnabled : Bool → SecureQSettings → SecureQSettings :=
  setFlag env "Conf/strictKillSwitchEnabled"

/-- `IpSplitTunnelingController::toggleSplitTunneling`. -/
def toggleSitesSplitTunneling : Bool → SecureQSettings → SecureQSettings :=
  setFlag env "Conf/sitesSplitTunnelingEnabled"

/-- `AppSplitTunnelingController::toggleSplitTunneling`. -/
def toggleAppsSplitTunneling : Bool → SecureQSettings → SecureQSettings :=
  setFlag env "Conf/appsSplitTunnelingEnabled"

/-- The getters of `SecureAppSettingsRepository` for switches. -/
def flag (key : String) (defaultValue : Bool) (s : SecureQSettings) : Bool × SecureQSettings :=
  let (value, s) := s.value env key (.bool defaultValue)
  (qt.toBool value, s)

def isKillSwitchEnabled : SecureQSettings → Bool × SecureQSettings := flag env "Conf/killSwitchEnabled" true

def isStrictKillSwitchEnabled : SecureQSettings → Bool × SecureQSettings :=
  flag env "Conf/strictKillSwitchEnabled" false

def useAmneziaDns : SecureQSettings → Bool × SecureQSettings := flag env "Conf/useAmneziaDns" true

def routeModeString : Int → String
  | 0 => "AllSites"
  | 1 => "ForwardSites"
  | 2 => "ExceptSites"
  | _ => ""

def appsRouteModeString : Int → String
  | 0 => "AllApps"
  | 1 => "ForwardApps"
  | 2 => "ExceptApps"
  | _ => ""

/-- `IpSplitTunnelingController::setRouteMode`: the sites of the mode are read before it is stored. -/
def setRouteMode (routeMode : Int) (s : SecureQSettings) : SecureQSettings :=
  (s.value env ("Conf/" ++ routeModeString routeMode) .invalid).2.setValue env "Conf/routeMode" (.int routeMode)

/-- `AppSplitTunnelingController::setRouteMode`. -/
def setAppsRouteMode (routeMode : Int) (s : SecureQSettings) : SecureQSettings :=
  (s.value env ("Conf/" ++ appsRouteModeString routeMode) .invalid).2.setValue env "Conf/appsRouteMode"
    (.int routeMode)

/-- `AppSplitTunnelingController::clearAppsList`, in the mode that was set last. -/
def clearAppsList (routeMode : Int) (s : SecureQSettings) : SecureQSettings :=
  s.setValue env ("Conf/" ++ appsRouteModeString routeMode) (.other "[]")

/-- `getInstallationUuid(false)`. -/
def getInstallationUuid : String × SecureQSettings :=
  let (value, s) := s.value env "Conf/installationUuid" (.string "")
  let uuid := qt.toString value
  if '\x7b' ∈ uuid.toList ∧ '\x7d' ∈ uuid.toList then
    (withoutEnds uuid, s.setValue env "Conf/installationUuid" (.string (withoutEnds uuid)))
  else (uuid, s)

/-- `SecureAppSettingsRepository::clearSettings`. -/
def clearAppSettings : SecureQSettings :=
  let (uuid, s) := s.getInstallationUuid env
  s.clearSettings.setValue env "Conf/installationUuid" (.string uuid)

/-! ### Backup and restore of the store -/

def fieldsToBackup : List String := ["Conf/", "Servers/"]

def needToBackup (key : String) : Bool :=
  if key = "Conf/installationUuid" then false else fieldsToBackup.any (startsWithText key)

def backupEntry (state : JsonObject × SecureQSettings) (key : String) : JsonObject × SecureQSettings :=
  let (value, s) := state.2.value env key .invalid
  (state.1.insert key (qt.fromVariant value), s)

def backupAppConfig : JsonObject × SecureQSettings :=
  (s.settings.keys.filter needToBackup).foldl (backupEntry env) ([], s)

/-- `QJsonValue::toVariant`; a member that is not there gives an invalid `QVariant`. -/
def memberVariant (qt : Qt) : Option Json → Variant
  | none => .invalid
  | some json => qt.toVariant json

def restoreEntry (cfg : JsonObject) (s : SecureQSettings) (key : String) : SecureQSettings :=
  if key = "Conf/installationUuid" then s else s.setValue env key (memberVariant qt (cfg.value key))

/-- `none` if the object is empty. -/
def restoreAppConfig (cfg : JsonObject) (s : SecureQSettings) : Option SecureQSettings :=
  if cfg = [] then none else some ((cfg.map Prod.fst).foldl (restoreEntry env cfg) s)

end

end SecureQSettings

/-! ### The controller -/

namespace Platform

def getPlatformName : Platform → String
  | .windows => "Windows"
  | .android => "Android"
  | .linux => "Linux"
  | .macos | .macosNe => "MacOS"
  | .ios => "iOS"

/-- `Q_OS_WINDOWS || Q_OS_LINUX || Q_OS_MACX`; Qt defines `Q_OS_LINUX` on Android too. -/
def togglesAutoStart (platform : Platform) : Bool := platform != .ios

/-- `Q_OS_WINDOWS || Q_OS_ANDROID`. -/
def hasAppSplitTunneling (platform : Platform) : Bool := platform = .windows || platform = .android

/-- `Q_OS_ANDROID || Q_OS_IOS`. -/
def isMobile (platform : Platform) : Bool := platform = .android || platform = .ios

end Platform

structure SettingsController where
  settings : SecureQSettings
  serversRepository : SecureServersRepository
  /-- `Autostart::isAutostart`. -/
  autostart : Bool

namespace SettingsController

section

variable {qt : Qt} (env : SettingsEnvironment qt)

def onSettings (f : SecureQSettings → SecureQSettings) (c : SettingsController) : SettingsController :=
  { c with settings := f c.settings }

def toggleAutoStart (enable : Bool) (c : SettingsController) : SettingsController :=
  { c with
    autostart := enable
    settings := if enable then c.settings else c.settings.setStartMinimized env false }

variable (newConfigData : JsonObject) (c : SettingsController)

def resetSettingsKeepServers : SettingsController :=
  c.onSettings (clearAppSettings env)
    |>.onSettings (setRouteMode env 1)
    |>.onSettings (toggleSitesSplitTunneling env false)
    |>.onSettings (setAppsRouteMode env 2)
    |>.onSettings (toggleAppsSplitTunneling env false)
    |>.toggleAutoStart env false

/-- The backup, as the object its text encodes. -/
def backupAppConfig : JsonObject × SettingsController :=
  let (config, s) := c.settings.backupAppConfig env
  let (killSwitch, s) := s.isKillSwitchEnabled env
  let (strictKillSwitch, s) := s.isStrictKillSwitchEnabled env
  let (amneziaDns, s) := s.useAmneziaDns env
  (config
    |>.insert "AppPlatform" (.string env.platform.getPlatformName)
    |>.insert "Conf/autoStart" (.bool c.autostart)
    |>.insert "Conf/killSwitchEnabled" (.bool killSwitch)
    |>.insert "Conf/strictKillSwitchEnabled" (.bool strictKillSwitch)
    |>.insert "Conf/useAmneziaDns" (.bool amneziaDns), { c with settings := s })

/-- `m_serversRepository->invalidateCache()`. -/
def invalidateServers (uuids : UuidSource) (endpoints : ApiEndpoints) (c : SettingsController) : SettingsController :=
  let (settings, s) := c.settings.serversSettings env
  { c with
    settings := s
    serversRepository := { c.serversRepository with settings }.invalidateCache uuids endpoints }

def restoreAutoStart : SettingsController :=
  if env.platform.togglesAutoStart then
    c.toggleAutoStart env (Json.toBool (newConfigData.value "Conf/autoStart"))
  else c

/-- A switch as the restored data gives it. -/
def restoredFlag (qt : Qt) (newConfigData : JsonObject) (key : String) : Bool :=
  lowersToTrue (qt.toString (memberVariant qt (newConfigData.value key)))

/-- The mode of split tunnelling by application that the restore leaves. -/
def restoredAppsRouteMode : Int :=
  if env.platform = .windows then 2 else Json.toInt (newConfigData.value "Conf/appsRouteMode") 0

def restoreAppSplitTunneling : SettingsController :=
  if env.platform.hasAppSplitTunneling then
    let c := c.onSettings
      (setAppsRouteMode env (Json.toInt (newConfigData.value "Conf/appsRouteMode") 0))
    let c := if env.platform = .windows then c.onSettings (setAppsRouteMode env 2) else c
    let c :=
      if newConfigData.contains "AppPlatform" ∧
          Json.toString (newConfigData.value "AppPlatform") ≠ env.platform.getPlatformName then
        c.onSettings (clearAppsList env (restoredAppsRouteMode env newConfigData))
      else c
    c.onSettings (toggleAppsSplitTunneling env
      (restoredFlag qt newConfigData "Conf/appsSplitTunnelingEnabled"))
  else c

def restoreSiteSplitTunneling : SettingsController :=
  c.onSettings (setRouteMode env (Json.toInt (newConfigData.value "Conf/routeMode") 0))
    |>.onSettings (toggleSitesSplitTunneling env
      (restoredFlag qt newConfigData "Conf/sitesSplitTunnelingEnabled"))

def restoreMobileDefaults : SettingsController :=
  if env.platform.isMobile then
    c.onSettings (setAutoConnect env false)
      |>.onSettings (setStartMinimized env false)
      |>.onSettings (setKillSwitchEnabled env false)
      |>.onSettings (setStrictKillSwitchEnabled env false)
  else c

/-- `none` is `RestoreBackupInvalidError`. -/
def restoreAppConfigFromData (uuids : UuidSource) (endpoints : ApiEndpoints) (data : JsonObject)
    (c : SettingsController) : Option SettingsController :=
  (c.settings.restoreAppConfig env data).map fun s =>
    { c with settings := s }.invalidateServers env uuids endpoints
      |>.restoreAutoStart env data
      |>.restoreAppSplitTunneling env data
      |>.restoreSiteSplitTunneling env data
      |>.restoreMobileDefaults env

end

end SettingsController

end FreshVpn
