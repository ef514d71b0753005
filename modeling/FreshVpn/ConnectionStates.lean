import Mathlib.Data.List.Defs

/-! The states of a connection and the error codes (`Vpn::ConnectionState`, `amnezia::ErrorCode`). -/

namespace FreshVpn

inductive ConnectionState where
  | unknown | disconnected | preparing | connecting | connected | disconnecting | reconnecting | error
  deriving DecidableEq

inductive ErrorCode where
  -- General errors
  | noError | unknownError | internalError | notImplementedError | amneziaServiceNotRunning
  | notSupportedOnThisPlatform
  -- Server errors
  | serverCheckFailed | serverPortAlreadyAllocatedError | serverContainerMissingError | serverDockerFailedError
  | serverCancelInstallation | serverUserNotInSudo | serverPacketManagerError
  | serverSudoPackageIsNotPreinstalled | serverUserDirectoryNotAccessible | serverUserNotAllowedInSudoers
  | serverUserPasswordRequired | serverDockerOnCgroupsV2 | serverCgroupMountpoint | dockerPullRateLimit
  | serverLinuxKernelTooOld | xrayServerConfigInvalid | xrayServerNoVlessClients | xrayRealityKeysReadFailed
  | serverContainerRuntimeNotSupported | containerRuntimeServiceNotRunning
  -- Ssh errors
  | sshRequestDeniedError | sshInterruptedError | sshInternalError | sshPrivateKeyError
  | sshPrivateKeyFormatError | sshTimeoutError | sshScpFailureError
  -- Local and distribution errors
  | openVpnConfigMissing | openVpnManagementServerError | openVpnExecutableMissing
  | amneziaServiceConnectionFailed | executableMissing | xrayExecutableMissing | tun2SockExecutableMissing
  -- VPN errors
  | openVpnAdaptersInUseError | openVpnUnknownError | openVpnTapAdapterError | addressPoolError
  | vpnTunnelDidNotComeUpError
  -- Errors of third-party utilities
  | openSslFailed | xrayExecutableCrashed | tun2SockExecutableCrashed
  -- Import and install errors
  | importInvalidConfigError | importOpenConfigError | noInstalledContainersError
  | importBackupFileUseRestoreInstead | restoreBackupInvalidError | legacyApiV1NotSupportedError
  | legacyContainerNotSupportedError
  -- Android errors
  | androidError
  -- Api errors
  | apiConfigDownloadError | apiConfigAlreadyAdded | apiConfigEmptyError | apiConfigTimeoutError
  | apiConfigSslError | apiMissingAgwPublicKey | apiConfigDecryptionError | apiServicesMissingError
  | apiConfigLimitError | apiNotFoundError | apiMigrationError | apiUpdateRequestError
  | apiSubscriptionExpiredError | apiPurchaseError | apiSubscriptionNotActiveError
  | apiNoPurchasedSubscriptionsError | apiTrialAlreadyUsedError | apiCaptchaRequiredError
  | apiCaptchaInvalidError | apiCaptchaRefreshError | apiRateLimitError
  -- File errors
  | openError | readError | permissionsError | unspecifiedError | fatalError | abortError
  deriving DecidableEq

namespace ErrorCode

def value : ErrorCode → ℕ
  | noError => 0
  | unknownError => 100
  | internalError => 101
  | notImplementedError => 102
  | amneziaServiceNotRunning => 103
  | notSupportedOnThisPlatform => 104
  | serverCheckFailed => 200
  | serverPortAlreadyAllocatedError => 201
  | serverContainerMissingError => 202
  | serverDockerFailedError => 203
  | serverCancelInstallation => 204
  | serverUserNotInSudo => 205
  | serverPacketManagerError => 206
  | serverSudoPackageIsNotPreinstalled => 207
  | serverUserDirectoryNotAccessible => 208
  | serverUserNotAllowedInSudoers => 209
  | serverUserPasswordRequired => 210
  | serverDockerOnCgroupsV2 => 211
  | serverCgroupMountpoint => 212
  | dockerPullRateLimit => 213
  | serverLinuxKernelTooOld => 214
  | xrayServerConfigInvalid => 215
  | xrayServerNoVlessClients => 216
  | xrayRealityKeysReadFailed => 217
  | serverContainerRuntimeNotSupported => 218
  | containerRuntimeServiceNotRunning => 219
  | sshRequestDeniedError => 300
  | sshInterruptedError => 301
  | sshInternalError => 302
  | sshPrivateKeyError => 303
  | sshPrivateKeyFormatError => 304
  | sshTimeoutError => 305
  | sshScpFailureError => 400
  | openVpnConfigMissing => 500
  | openVpnManagementServerError => 501
  | openVpnExecutableMissing => 600
  | amneziaServiceConnectionFailed => 603
  | executableMissing => 604
  | xrayExecutableMissing => 605
  | tun2SockExecutableMissing => 606
  | openVpnAdaptersInUseError => 700
  | openVpnUnknownError => 701
  | openVpnTapAdapterError => 702
  | addressPoolError => 703
  | vpnTunnelDidNotComeUpError => 704
  | openSslFailed => 800
  | xrayExecutableCrashed => 803
  | tun2SockExecutableCrashed => 804
  | importInvalidConfigError => 900
  | importOpenConfigError => 901
  | noInstalledContainersError => 902
  | importBackupFileUseRestoreInstead => 903
  | restoreBackupInvalidError => 904
  | legacyApiV1NotSupportedError => 905
  | legacyContainerNotSupportedError => 906
  | androidError => 1000
  | apiConfigDownloadError => 1100
  | apiConfigAlreadyAdded => 1101
  | apiConfigEmptyError => 1102
  | apiConfigTimeoutError => 1103
  | apiConfigSslError => 1104
  | apiMissingAgwPublicKey => 1105
  | apiConfigDecryptionError => 1106
  | apiServicesMissingError => 1107
  | apiConfigLimitError => 1108
  | apiNotFoundError => 1109
  | apiMigrationError => 1110
  | apiUpdateRequestError => 1111
  | apiSubscriptionExpiredError => 1112
  | apiPurchaseError => 1113
  | apiSubscriptionNotActiveError => 1114
  | apiNoPurchasedSubscriptionsError => 1115
  | apiTrialAlreadyUsedError => 1116
  | apiCaptchaRequiredError => 1117
  | apiCaptchaInvalidError => 1118
  | apiCaptchaRefreshError => 1119
  | apiRateLimitError => 1120
  | openError => 1200
  | readError => 1201
  | permissionsError => 1202
  | unspecifiedError => 1203
  | fatalError => 1204
  | abortError => 1205

/-- The codes of the subscription and of the service's API. -/
def isSubscriptionError (code : ErrorCode) : Bool := 1100 ≤ code.value && code.value < 1200

end ErrorCode

end FreshVpn
