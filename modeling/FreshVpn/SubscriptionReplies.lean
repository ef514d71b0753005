import FreshVpn.SubscriptionController

/-! Replies of the gateway that cannot be opened under the key of the request. -/

namespace FreshVpn

open GatewayController SubscriptionController SecureServersRepository

/-- The calls that a reply of the gateway decides. -/
inductive SubscriptionCall where
  | updateServiceFromGateway (wireGuardClientPrivKey : String)
  | deactivateDevice

/-- Two runs of a request in which no body can be opened. -/
structure UnopenedReplies (env : GatewayEnvironment) where
  exchange : ℕ → Exchange
  body : ℕ → List UInt8
  body' : ℕ → List UInt8
  unopened : ∀ n, (tryDecryptResponseBody env (body n) (exchange n).key).2 = false
  unopened' : ∀ n, (tryDecryptResponseBody env (body' n) (exchange n).key).2 = false

def GatewayController.Exchange.withBody (x : Exchange) (body : List UInt8) : Exchange :=
  { x with reply := { x.reply with body := body } }

namespace UnopenedReplies

variable {env : GatewayEnvironment} (replies : UnopenedReplies env)

def first (n : ℕ) : Exchange := (replies.exchange n).withBody (replies.body n)

def second (n : ℕ) : Exchange := (replies.exchange n).withBody (replies.body' n)

end UnopenedReplies

namespace SubscriptionCall

variable {r : SecureServersRepository} {call : SubscriptionCall} {serverId : String}
  (env : GatewayEnvironment) (text : JsonText) (endpoints : ApiEndpoints)

def run (r : SecureServersRepository) (serverId : String) (exchange : ℕ → Exchange) :
    SubscriptionCall → ErrorCode × SecureServersRepository
  | .updateServiceFromGateway wireGuardClientPrivKey =>
    SubscriptionController.updateServiceFromGateway env text endpoints r serverId wireGuardClientPrivKey exchange
  | .deactivateDevice => SubscriptionController.deactivateDevice env text endpoints r serverId exchange

/-- The repository is as it was. -/
def Unchanged (r r' : SecureServersRepository) : Prop :=
  r'.serverJsonById = r.serverJsonById ∧ r'.orderedServerIds = r.orderedServerIds ∧
    r'.defaultServerId = r.defaultServerId

def asks (r : SecureServersRepository) (serverId : String) (call : SubscriptionCall) : Option ApiV2Model :=
  (apiV2Config text endpoints r serverId).filter fun apiV2 => match call with
    | .updateServiceFromGateway _ => true
    | .deactivateDevice => apiV2.isPremium || apiV2.isExternalPremium

def stores (apiV2 : ApiV2Model) (errorCode : ErrorCode) : SubscriptionCall → Option ApiV2Model
  | .updateServiceFromGateway _ =>
    if errorCode = .apiSubscriptionExpiredError ∧ apiV2.isInAppPurchase = false then some apiV2.markExpired else none
  | .deactivateDevice => if errorCode = .apiNotFoundError then some apiV2.clearContainers else none

/-- What the call returns for an error of the request. -/
def returned (errorCode : ErrorCode) : SubscriptionCall → ErrorCode
  | .updateServiceFromGateway _ => errorCode
  | .deactivateDevice => if errorCode = .apiNotFoundError then .noError else errorCode

/-- The replies claim the same error, and the server is already stored as the call stores it on this error. -/
def HarmlessClaim (r : SecureServersRepository) (serverId : String) (call : SubscriptionCall)
    (replies : UnopenedReplies env) : Prop :=
  ∀ apiV2 ∈ call.asks text endpoints r serverId,
    claimedError env replies.first = claimedError env replies.second ∧
      ∀ stored ∈ call.stores apiV2 (claimedError env replies.first),
        r.serverJsonById serverId = some (embedStorageServerId serverId (stored.toJson text))

variable {env text endpoints}

theorem run_of_not_asks (env : GatewayEnvironment) (h : call.asks text endpoints r serverId = none)
    (exchange exchange' : ℕ → Exchange) :
    run env text endpoints r serverId exchange call = run env text endpoints r serverId exchange' call ∧
      (run env text endpoints r serverId exchange call).2 = r := by
  cases call with
  | updateServiceFromGateway key =>
    have hnone : apiV2Config text endpoints r serverId = none := by
      rw [asks, Option.filter_eq_none_iff] at h
      exact Option.eq_none_iff_forall_ne_some.mpr fun apiV2 hapi => h apiV2 hapi rfl
    simp only [run, SubscriptionController.updateServiceFromGateway, hnone, and_self]
  | deactivateDevice =>
    rw [asks, Option.filter_eq_none_iff] at h
    simp only [run, SubscriptionController.deactivateDevice]
    cases hapi : apiV2Config text endpoints r serverId with
    | none => exact ⟨rfl, rfl⟩
    | some apiV2 =>
      have hfree : apiV2.isPremium = false ∧ apiV2.isExternalPremium = false := by
        simpa using h apiV2 hapi
      simp only [hfree, and_self, if_true]

theorem run_of_unopened {apiV2 : ApiV2Model} (hasks : call.asks text endpoints r serverId = some apiV2)
    {exchange : ℕ → Exchange} (h : ∀ n, ((exchange n).decryption env).2 = false) :
    run env text endpoints r serverId exchange call =
      (call.returned (claimedError env exchange),
        (call.stores apiV2 (claimedError env exchange)).elim r (store text endpoints r serverId)) := by
  have herror := executeRequest_of_unopened h
  have hne : claimedError env exchange ≠ .noError := claimedError_ne_noError exchange
  obtain ⟨hapi, hpaid⟩ := Option.filter_eq_some_iff.mp hasks
  cases call with
  | updateServiceFromGateway key =>
    simp only [run, SubscriptionController.updateServiceFromGateway, hapi, herror, ne_eq, hne, not_false_eq_true,
      if_true, returned, stores]
    split_ifs <;> rfl
  | deactivateDevice =>
    have hpaid' : ¬ (apiV2.isPremium = false ∧ apiV2.isExternalPremium = false) := by
      rintro ⟨hpremium, hexternal⟩
      rw [hpremium, hexternal] at hpaid
      cases hpaid
    simp only [run, SubscriptionController.deactivateDevice, hapi, if_neg hpaid', herror, ne_eq, hne,
      not_false_eq_true, true_and, returned, stores]
    by_cases hfound : claimedError env exchange = .apiNotFoundError
    · simp [hfound]
    · simp [hfound]

theorem returned_inj {e e' : ErrorCode} (he : e ≠ .noError) (he' : e' ≠ .noError) :
    call.returned e = call.returned e' ↔ e = e' := by
  refine ⟨fun h => ?_, fun h => by rw [h]⟩
  cases call with
  | updateServiceFromGateway key => exact h
  | deactivateDevice =>
    simp only [returned] at h
    split_ifs at h with hfound hfound' hfound'
    · rw [hfound, hfound']
    · exact absurd h.symm he'
    · exact absurd h he
    · exact h

theorem unchanged_elim_store_iff (hr : r.WellFormed)
    {json : JsonObject} (hjson : r.serverJsonById serverId = some json) (config : Option ApiV2Model) :
    Unchanged r (config.elim r (store text endpoints r serverId)) ↔
      ∀ stored ∈ config, r.serverJsonById serverId = some (embedStorageServerId serverId (stored.toJson text)) := by
  cases config with
  | none => exact iff_of_true ⟨rfl, rfl, rfl⟩ fun stored h => nomatch h
  | some config =>
    obtain ⟨hmap, horder, hdefault⟩ := store_spec text endpoints hr hjson config
    rw [Option.elim_some, Unchanged, hmap, Function.update_eq_self_iff]
    refine ⟨fun h stored hstored => ?_, fun h => ⟨(h config rfl).symm, horder, hdefault⟩⟩
    cases hstored
    exact h.1.symm

def asciiBytes (text : String) : List UInt8 := text.toList.map fun c => UInt8.ofNat c.toNat

def expiredBody : List UInt8 := asciiBytes
  "\x7b\"http_status\":422,\"message\":\"Failed to retrieve subscription information. Is it activated?\"\x7d"

def notFoundBody : List UInt8 := asciiBytes "\x7b\"http_status\":404\x7d"

/-- An environment that reads these two bodies and opens none. -/
def forgedEnvironment : GatewayEnvironment where
  aesGcmOpen _ _ _ := none
  fromJson body :=
    if body = expiredBody then
      [("http_status", .double 422), ("message", .string ApiUtils.unprocessableSubscriptionMessage)]
    else if body = notFoundBody then [("http_status", .double 404)]
    else []
  toJson _ := []
  fromUtf8 bytes := String.ofList (bytes.map fun b => Char.ofNat b.toNat)
  toUtf8 := asciiBytes
  qUncompress bytes := bytes

def forgedReplies (body : List UInt8) : UnopenedReplies forgedEnvironment where
  exchange _ := { prepareError := .noError, key := List.replicate 32 7,
                  reply := { sslErrors := false, error := .noError, httpStatusCode := 200, body := [] } }
  body _ := body
  body' _ := []
  unopened _ := by
    rw [tryDecryptResponseBody]
    split_ifs <;> rfl
  unopened' _ := rfl

def premiumServer : JsonObject :=
  [("api_config", .object [("service_type", .string "amnezia-premium"), ("service_protocol", .string "awg")]),
    ("config_version", .double 2),
    ("containers", .array [.object [("container", .string "amnezia-awg"), ("awg", .object [])]])]

end SubscriptionCall

end FreshVpn
