import FreshVpn.ServersDefault
import FreshVpn.SettingsBackup
import FreshVpn.ConnectionCancel
import FreshVpn.ConnectionReopen
import FreshVpn.ConnectionCause
import FreshVpn.RoutesExclusion
import FreshVpn.ServersEdit
import FreshVpn.ServersImport
import FreshVpn.DaemonRoutes
import FreshVpn.DaemonReachable
import FreshVpn.FirewallWireguard
import FreshVpn.AndroidTunnels
import FreshVpn.ImportComplete
import FreshVpn.WireguardAddresses
import FreshVpn.XrayReality
import FreshVpn.XrayProfile
import FreshVpn.XrayPasswords
import FreshVpn.SitesAgreement
import FreshVpn.UsersExactness
import FreshVpn.InstallUpdate
import FreshVpn.ServersReimport
import FreshVpn.ConnectionTunnel
import FreshVpn.GatewayController
import FreshVpn.SubscriptionController
import FreshVpn.SubscriptionReplies
import FreshVpn.SubscriptionRefresh
import FreshVpn.LibraryUtf16
import FreshVpn.JsonDocument
import FreshVpn.SubscriptionKey
import FreshVpn.FirewallRanges
import FreshVpn.FirewallStrict
import FreshVpn.RoutesXray
import FreshVpn.AndroidDisconnect
import FreshVpn.LibraryKeyed
import FreshVpn.LibrarySelection
import FreshVpn.RoutesPrefixes
import FreshVpn.WindowsRoutes
import FreshVpn.WindowsExclusion
import FreshVpn.WindowsCapture
import FreshVpn.MacosSocket
import FreshVpn.RoutesNormalForm
import FreshVpn.ConnectionUi
import FreshVpn.ConnectionRevoke
import FreshVpn.XraySettings
import FreshVpn.ConnectionSites
import FreshVpn.ConnectionAllowed
import FreshVpn.SettingsCopies
import FreshVpn.ImportNested
