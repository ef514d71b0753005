import FreshVpn.ConnectionStates
import FreshVpn.ServersXray

/-! Requests to the gateway (`GatewayController::post`). The body of a reply is sealed with AES-GCM; a body that cannot
be opened is kept as it is. -/

namespace FreshVpn

/-- `QNetworkReply::NetworkError`, as far as its values are told apart. -/
inductive NetworkError where
  | noError | operationCanceledError | timeoutError | operationNotImplementedError
  | other (code : ℕ)
  deriving DecidableEq

structure NetworkReply where
  /-- Whether there were TLS errors. -/
  sslErrors : Bool
  error : NetworkError
  httpStatusCode : Int
  body : List UInt8

/-- What Qt and OpenSSL do with bytes and texts. -/
structure GatewayEnvironment where
  /-- The plain text of a ciphertext with its tag, for a key and a nonce. -/
  aesGcmOpen : List UInt8 → List UInt8 → List UInt8 → Option (List UInt8)
  /-- The object of `QJsonDocument::fromJson`, empty if there is none. -/
  fromJson : List UInt8 → JsonObject
  /-- `QJsonDocument::toJson`. -/
  toJson : JsonObject → List UInt8
  fromUtf8 : List UInt8 → String
  toUtf8 : String → List UInt8
  qUncompress : List UInt8 → List UInt8

/-! ### Errors of a reply -/

namespace ApiUtils

def unprocessableSubscriptionMessage := "Failed to retrieve subscription information. Is it activated?"

def trialAlreadyUsedMessage := "trial subscription already used"

def apiErrorMessageFromJson (json : JsonObject) : String := trimmed (Json.toString (json.value "message"))

/-- The error that the body of a reply speaks of; an object without a status, and no object at all, speak of none. -/
def errorInBody (json : JsonObject) : ErrorCode :=
  let httpStatusFromBody := Json.toInt (json.value "http_status") (-1)
  let message := apiErrorMessageFromJson json
  if httpStatusFromBody = 429 then .apiRateLimitError
  else if httpStatusFromBody = 409 then
    if containsTextInsensitive message trialAlreadyUsedMessage then .apiTrialAlreadyUsedError else .apiConfigLimitError
  else if httpStatusFromBody = 404 then .apiNotFoundError
  else if httpStatusFromBody = 408 then .apiConfigTimeoutError
  else if httpStatusFromBody = 501 then .apiUpdateRequestError
  else if httpStatusFromBody = 422 then
    if message = unprocessableSubscriptionMessage then .apiSubscriptionExpiredError else .apiConfigDownloadError
  else if httpStatusFromBody = 402 then
    if containsTextInsensitive message "refresh_captcha" then .apiCaptchaRefreshError
    else if containsTextInsensitive message "invalid_captcha" then .apiCaptchaInvalidError
    else if json.contains "captcha_id" || json.contains "captcha_image" ||
        message.toLower = "rate_limit_exceeded" || containsTextInsensitive message "rate_limit_exceeded" then
      .apiCaptchaRequiredError
    else .apiSubscriptionNotActiveError
  else if 300 ≤ httpStatusFromBody then .apiConfigDownloadError
  else .noError

/-- The status code of the reply is passed, and not looked at. -/
def checkNetworkReplyErrors (sslErrors : Bool) (replyError : NetworkError) (_httpStatusCode : Int)
    (responseBody : JsonObject) : ErrorCode :=
  if sslErrors then .apiConfigSslError
  else if replyError = .operationCanceledError ∨ replyError = .timeoutError then .apiConfigTimeoutError
  else if replyError = .operationNotImplementedError then .apiUpdateRequestError
  else if errorInBody responseBody ≠ .noError then errorInBody responseBody
  else if replyError = .noError then .noError
  else .apiConfigDownloadError

end ApiUtils

/-! ### Requests -/

namespace GatewayController

variable (env : GatewayEnvironment)

structure Exchange where
  prepareError : ErrorCode
  key : List UInt8
  reply : NetworkReply

def kNonceLen : ℕ := 12

def kGcmTagLen : ℕ := 16

/-- The body, opened if that is possible, and whether it was. -/
def tryDecryptResponseBody (encryptedResponseBody key : List UInt8) : List UInt8 × Bool :=
  if encryptedResponseBody.length < kNonceLen + kGcmTagLen then (encryptedResponseBody, false)
  else match env.aesGcmOpen (encryptedResponseBody.drop kNonceLen) key (encryptedResponseBody.take kNonceLen) with
    | some decryptedBody => (decryptedBody, true)
    | none => (encryptedResponseBody, false)

def Exchange.decryption (x : Exchange) : List UInt8 × Bool := tryDecryptResponseBody env x.reply.body x.key

/-- The error code, and the body that is handed back. -/
def post (x : Exchange) : ErrorCode × List UInt8 :=
  if x.prepareError ≠ .noError then (x.prepareError, [])
  else
    let responseBody := (x.decryption env).1
    let errorCode := ApiUtils.checkNetworkReplyErrors x.reply.sslErrors x.reply.error x.reply.httpStatusCode
      (env.fromJson responseBody)
    if errorCode ≠ .noError then (errorCode, responseBody)
    else if (x.decryption env).2 = false then (.apiConfigDecryptionError, responseBody)
    else (.noError, responseBody)

/-- The errors after which a request is tried once more. -/
def isTransient (errorCode : ErrorCode) : Bool :=
  errorCode = .apiConfigTimeoutError || errorCode = .apiConfigDownloadError || errorCode = .apiConfigSslError

def maxAttempts : ℕ := 2

/-- The attempts from number `attempt` on, of which `left` may follow it. -/
def attemptsFrom (exchange : ℕ → Exchange) (attempt : ℕ) : ℕ → ErrorCode × List UInt8
  | 0 => post env (exchange attempt)
  | left + 1 =>
    if isTransient (post env (exchange attempt)).1 then attemptsFrom exchange (attempt + 1) left
    else post env (exchange attempt)

/-- `SubscriptionController::executeRequest`. -/
def executeRequest (exchange : ℕ → Exchange) : ErrorCode × List UInt8 := attemptsFrom env exchange 1 (maxAttempts - 1)

/-! ### Bodies that cannot be opened -/

/-- The error that a reply is given whose body cannot be opened. -/
def Exchange.unopenedError (x : Exchange) : ErrorCode :=
  if x.prepareError ≠ .noError then x.prepareError
  else
    let errorCode := ApiUtils.checkNetworkReplyErrors x.reply.sslErrors x.reply.error x.reply.httpStatusCode
      (env.fromJson x.reply.body)
    if errorCode ≠ .noError then errorCode else .apiConfigDecryptionError

/-- The error of the first attempt that is not tried again, or of the last one. -/
def claimedFrom (exchange : ℕ → Exchange) (attempt : ℕ) : ℕ → ErrorCode
  | 0 => (exchange attempt).unopenedError env
  | left + 1 =>
    if isTransient ((exchange attempt).unopenedError env) then claimedFrom exchange (attempt + 1) left
    else (exchange attempt).unopenedError env

/-- The error that replies claim which cannot be opened. -/
def claimedError (exchange : ℕ → Exchange) : ErrorCode := claimedFrom env exchange 1 (maxAttempts - 1)

variable {env}

theorem decryption_of_unopened {x : Exchange} (h : (x.decryption env).2 = false) :
    (x.decryption env).1 = x.reply.body := by
  rw [Exchange.decryption, tryDecryptResponseBody] at h ⊢
  split_ifs at h ⊢ with hshort
  · rfl
  · cases hopen : env.aesGcmOpen (x.reply.body.drop kNonceLen) x.key (x.reply.body.take kNonceLen) with
    | some decryptedBody =>
      rw [hopen] at h
      cases h
    | none => rfl

theorem post_of_unopened {x : Exchange} (h : (x.decryption env).2 = false) : (post env x).1 = x.unopenedError env := by
  rw [post, Exchange.unopenedError, decryption_of_unopened h, h]
  dsimp only
  rw [if_pos rfl]
  split_ifs <;> rfl

theorem unopenedError_ne_noError (x : Exchange) : x.unopenedError env ≠ .noError := by
  rw [Exchange.unopenedError]
  dsimp only
  split_ifs with hprepare herror
  · exact hprepare
  · exact herror
  · decide

variable {exchange : ℕ → Exchange}

theorem attemptsFrom_of_unopened (h : ∀ n, ((exchange n).decryption env).2 = false) (attempt left : ℕ) :
    (attemptsFrom env exchange attempt left).1 = claimedFrom env exchange attempt left := by
  induction left generalizing attempt with
  | zero => exact post_of_unopened (h attempt)
  | succ left ih =>
    rw [attemptsFrom, claimedFrom, post_of_unopened (h attempt)]
    split_ifs
    · exact ih (attempt + 1)
    · exact post_of_unopened (h attempt)

theorem executeRequest_of_unopened (h : ∀ n, ((exchange n).decryption env).2 = false) :
    (executeRequest env exchange).1 = claimedError env exchange :=
  attemptsFrom_of_unopened h 1 (maxAttempts - 1)

theorem claimedError_ne_noError (exchange : ℕ → Exchange) : claimedError env exchange ≠ .noError := by
  have hfrom (attempt left : ℕ) : claimedFrom env exchange attempt left ≠ .noError := by
    induction left generalizing attempt with
    | zero => exact unopenedError_ne_noError _
    | succ left ih =>
      rw [claimedFrom]
      split_ifs
      · exact ih (attempt + 1)
      · exact unopenedError_ne_noError _
  exact hfrom 1 (maxAttempts - 1)

end GatewayController

end FreshVpn
