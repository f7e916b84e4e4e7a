/-
Sda/Sdk/Retry.lean

The retries of the Eldorado facade (libs/apis_sdk/apis_sdk: clients/marketplaces/eldorado/
client.py, facade.py, retry.py, clients/marketplaces/_facade_support.py,
infrastructure/retry/policy.py).

A method of the facade makes attempts.  An attempt sends a request, whose answer the client
turns into a result, or fails before it has sent one.  `facade` is what an attempt comes to:
the facade returns, or it sleeps and makes another.  The executor is the one of the
provider: `MarketplaceRetryPolicy`, `EldoradoRetryStrategy`, three attempts.

Main result: `facade_retries_iff` — the answers after which a request is sent again.
-/
import Sda.Sdk.Governor

namespace Sda.Retry

open Governor

/-- The methods of `WRITE_METHODS`. -/
inductive Mutation
  | createOffer | updateOffer | updateOfferOnce | deleteOffer | uploadImage | deliverOrder
  deriving DecidableEq, Repr

/-! ### The client -/

/-- What the client reads off a response; `parseError` is the exception of `model_validate`. -/
structure ReplyBody where
  message : String := ""
  /-- The `Retry-After` header, if it is a number. -/
  retryAfter : Option ℚ := none
  governor : String := ""
  code : Option Nat := none
  parseError : Option String := none

/-- What the transport comes to. -/
inductive HttpAnswer
  | response (statusCode : Nat) (body : ReplyBody)
  /-- A `TransportError`, with the proxy that failed. -/
  | transportError (message proxyUrl : String)

/-- `ErrorDetail`, as the client fills it in. -/
structure ClientError extends ReplyError where
  isRetryable : Bool := false
  proxyUrl : String := ""

/-- The `ApiResult` of a client call, which is ok when there is no error. -/
structure ClientResult where
  error : Option ClientError := none
  statusCode : Option Nat := none

/-- `category_map` -/
def categoryOf (statusCode : Nat) : ErrorCategory :=
  if statusCode = 400 ∨ statusCode = 422 then .validation
  else if statusCode = 401 ∨ statusCode = 403 then .authentication
  else if statusCode = 404 then .notFound
  else if statusCode = 409 then .conflict
  else if statusCode = 429 then .rateLimit
  else .serverError

/-- The account is locked after too many passwords. -/
def lockedOut (body : ReplyBody) : Bool :=
  containsText "password attempts exceeded" (lowerText body.message)

/-- **`_handle_error`** -/
def handleError (statusCode : Nat) (body : ReplyBody) : ClientError where
  category := if lockedOut body then .authentication else categoryOf statusCode
  message := body.message
  statusCode := some statusCode
  retryAfter := if statusCode = 429 then some (body.retryAfter.getD 5) else none
  governor := body.governor
  code := body.code
  isRetryable := lockedOut body || statusCode ≥ 500 || statusCode == 429

/-- `TransportResponse.is_success` -/
def isSuccess (statusCode : Nat) : Bool := 200 ≤ statusCode && statusCode < 300

/-- What the client says of a body that it cannot read; some methods do not read it. -/
def parseFailure : Mutation → String → Option String
  | .createOffer, exc => some ("Failed to parse response: " ++ exc)
  | .updateOffer, exc => some ("Failed to parse response: " ++ exc)
  | .updateOfferOnce, exc => some ("Failed to parse response: " ++ exc)
  | .uploadImage, exc => some ("Failed to parse upload response: " ++ exc)
  | .deleteOffer, _ => none
  | .deliverOrder, _ => none

/-- **`_request`**, `upload_image` -/
def clientResult (method : Mutation) : HttpAnswer → ClientResult
  | .transportError message proxyUrl =>
    { error := some { category := .network, message, isRetryable := true, proxyUrl } }
  | .response statusCode body =>
    if ¬ isSuccess statusCode then
      { error := some (handleError statusCode body), statusCode := some statusCode }
    else
      match body.parseError.bind (parseFailure method) with
      | some message => { error := some { category := .unknown, message } }
      | none => { statusCode := some statusCode }

/-- The result, as the governor reads it. -/
def ClientResult.toReply (result : ClientResult) : WriteReply where
  ok := result.error.isNone
  error := result.error.map ClientError.toReplyError
  statusCode := result.statusCode

/-! ### Exceptions -/

inductive ErrorClass
  | rateLimit | timeout | transport | authentication | validation | provider
  /-- `EldoradoProviderNotReadyError` -/
  | notReady
  | other
  deriving DecidableEq, Repr

/-- An exception, with what is read off it. -/
structure SdkError where
  errorClass : ErrorClass
  message : String := ""
  statusCode : Option Nat := none
  retryAfter : Option ℚ := none
  isRetryable : Bool := false
  governor : String := ""
  code : Option Nat := none
  proxyUrl : String := ""

/-- **`result_to_exception`** -/
def resultToException (error : ClientError) : SdkError :=
  let exc : SdkError :=
    { errorClass := .provider
      message := error.message
      governor := error.governor
      code := error.code
      proxyUrl := error.proxyUrl }
  match error.category with
  | .rateLimit => { exc with errorClass := .rateLimit, retryAfter := error.retryAfter }
  | .timeout => { exc with errorClass := .timeout }
  | .network => { exc with errorClass := .transport, statusCode := error.statusCode }
  | .authentication => { exc with errorClass := .authentication }
  | .validation => { exc with errorClass := .validation }
  | .notFound => { exc with statusCode := error.statusCode }
  | _ => { exc with statusCode := error.statusCode, isRetryable := error.isRetryable }

/-- `_STATUS_CATEGORY` -/
def statusCategory (statusCode : Option Nat) : ErrorCategory :=
  if statusCode = some 404 ∨ statusCode = some 403 then .notFound
  else if statusCode = some 400 ∨ statusCode = some 422 then .validation
  else .serverError

/-- **`_exception_to_result`** -/
def exceptionToResult (lastRefreshError : String) (exc : SdkError) : WriteReply :=
  let error (category : ErrorCategory) : ReplyError :=
    { category, message := exc.message, governor := exc.governor, code := exc.code }
  let failure (error : ReplyError) : WriteReply :=
    { ok := false, error := some error, statusCode := error.statusCode }
  match exc.errorClass with
  | .notReady => failure (error .validation)
  | .rateLimit => failure { error .rateLimit with retryAfter := exc.retryAfter }
  | .timeout => failure { error .timeout with statusCode := exc.statusCode }
  | .transport => failure { error .network with statusCode := exc.statusCode }
  | .authentication =>
    failure { error .authentication with
      message :=
        if lastRefreshError != "" then exc.message ++ ". " ++ lastRefreshError
        else exc.message }
  | .validation => failure (error .validation)
  | .provider =>
    failure { error (statusCategory exc.statusCode) with statusCode := exc.statusCode }
  | .other =>
    failure { category := .unknown, message := "Unexpected eldorado facade error: " ++ exc.message }

/-! ### Strategy and policy -/

inductive RetryAction
  | noRetry | retrySame | retryNewProxyAndSession | refreshAuthAndRetry
  deriving DecidableEq, Repr

structure RetryDecision where
  action : RetryAction
  delayHint : Option ℚ := none

/-- **`MarketplaceRetryStrategy.decide`** -/
def marketplaceDecide (attempt : Nat) (exc : SdkError) : RetryDecision :=
  match exc.errorClass with
  | .rateLimit => { action := .retrySame, delayHint := exc.retryAfter }
  | .timeout => { action := .retrySame }
  | .transport => { action := .retrySame }
  | .authentication =>
    if attempt = 1 then { action := .refreshAuthAndRetry } else { action := .noRetry }
  | .provider => if exc.isRetryable then { action := .retrySame } else { action := .noRetry }
  | .notReady => { action := .noRetry }
  | .validation => { action := .noRetry }
  | .other => { action := .noRetry }

/-- **`EldoradoRetryStrategy.decide`** -/
def eldoradoDecide (attempt : Nat) (exc : SdkError) : RetryDecision :=
  if (exc.errorClass = .transport ∨ exc.errorClass = .timeout) ∧ exc.proxyUrl ≠ "" then
    { action := .retryNewProxyAndSession }
  else if exc.errorClass = .rateLimit then { action := .noRetry }
  else marketplaceDecide attempt exc

/-- **`MarketplaceRetryPolicy.get_delay`** -/
def getDelay (attempt : Nat) (exc : SdkError) (random : ℚ) : ℚ :=
  if exc.errorClass = .rateLimit ∧ exc.retryAfter.getD 0 ≠ 0 then exc.retryAfter.getD 0
  else if exc.errorClass = .authentication then 0
  else min (2 ^ (attempt - 1)) 30 * (1 / 2 + random / 2)

/-- **`get_delay_for_decision`** -/
def getDelayForDecision (attempt : Nat) (exc : SdkError) (decision : RetryDecision)
    (random : ℚ) : ℚ :=
  if 0 < decision.delayHint.getD 0 then decision.delayHint.getD 0
  else getDelay attempt exc random

/-! ### Attempts -/

inductive Outcome
  /-- The attempt failed before its request: no proxy, no token, no file. -/
  | unsent (exc : SdkError)
  | sent (answer : HttpAnswer)

/-- What an attempt meets. -/
structure Trial where
  outcome : Outcome
  random : ℚ := 0
  /-- The exception of `auth.refresh()`. -/
  refreshError : Option String := none
  /-- The exception of `on_before_retry`. -/
  beforeRetryError : Option SdkError := none
  lastRefreshError : String := ""

inductive AttemptEnd
  | retries (delay : ℚ)
  | returns (reply : WriteReply)

/-- The result says that the authentication has expired. -/
def ClientResult.unauthenticated (result : ClientResult) : Bool :=
  match result.error with
  | some error => error.category == .authentication
  | none => false

/-- **`execute_once`** -/
def executeOnce (retryAuth : Bool) (method : Mutation) (attempt : Nat) (trial : Trial) :
    AttemptEnd :=
  match trial.outcome with
  | .unsent exc => .returns (exceptionToResult trial.lastRefreshError exc)
  | .sent answer =>
    let result := clientResult method answer
    if attempt = 1 ∧ retryAuth ∧ result.unauthenticated then
      match trial.refreshError with
      | some exc =>
        .returns (exceptionToResult trial.lastRefreshError
          { errorClass := .authentication, message := "Auth refresh failed: " ++ exc })
      | none => .retries 0
    else .returns result.toReply

/-- `max_retry_attempts` -/
def maxRetryAttempts : Nat := 3

/-- The handler of `RetryPolicy.execute`. -/
def retryAfterError (attempt : Nat) (trial : Trial) (exc : SdkError) : AttemptEnd :=
  let decision := eldoradoDecide attempt exc
  if maxRetryAttempts ≤ attempt ∨ decision.action = .noRetry then
    .returns (exceptionToResult trial.lastRefreshError exc)
  else
    match trial.beforeRetryError with
    | some exc => .returns (exceptionToResult trial.lastRefreshError exc)
    | none => .retries (getDelayForDecision attempt exc decision trial.random)

/-- **`execute_with_retry`** -/
def executeWithRetry (method : Mutation) (attempt : Nat) (trial : Trial) : AttemptEnd :=
  match trial.outcome with
  | .unsent exc => retryAfterError attempt trial exc
  | .sent answer =>
    let result := clientResult method answer
    match result.error with
    | none => .returns result.toReply
    | some error => retryAfterError attempt trial (resultToException error)

/-- **The methods of the facade** -/
def facade : Mutation → Nat → Trial → AttemptEnd
  | .createOffer => executeOnce true .createOffer
  | .updateOffer => executeWithRetry .updateOffer
  | .updateOfferOnce => executeOnce false .updateOfferOnce
  | .deleteOffer => executeWithRetry .deleteOffer
  | .uploadImage => executeWithRetry .uploadImage
  | .deliverOrder => executeWithRetry .deliverOrder

/-! ### Which answers are replayed -/

/-- A 401, a 403, or the lockout. -/
def HttpAnswer.authRejected : HttpAnswer → Bool
  | .response statusCode body =>
    !isSuccess statusCode && (lockedOut body || statusCode == 401 || statusCode == 403)
  | .transportError _ _ => false

/-- A network error, or a 5xx that is not the lockout. -/
def HttpAnswer.serverFailed : HttpAnswer → Bool
  | .response statusCode body => 500 ≤ statusCode && !lockedOut body
  | .transportError _ _ => true

/-- The request is sent again after the answer. -/
def replayed (method : Mutation) (attempt : Nat) (trial : Trial) (answer : HttpAnswer) : Bool :=
  match method with
  | .updateOfferOnce => false
  | .createOffer => attempt == 1 && answer.authRejected && trial.refreshError.isNone
  | _ =>
    attempt < maxRetryAttempts && trial.beforeRetryError.isNone &&
      (answer.serverFailed || attempt == 1 && answer.authRejected)

variable {method : Mutation} {attempt : Nat} {trial : Trial} {answer : HttpAnswer}

def AttemptEnd.isRetry : AttemptEnd → Bool
  | .retries _ => true
  | .returns _ => false

theorem categoryOf_authentication {statusCode : Nat} :
    categoryOf statusCode = .authentication ↔ statusCode = 401 ∨ statusCode = 403 := by
  rw [categoryOf]
  split_ifs <;> simp <;> omega

theorem unauthenticated_clientResult :
    (clientResult method answer).unauthenticated = answer.authRejected := by
  cases answer with
  | transportError message proxyUrl => rfl
  | response statusCode body =>
    simp only [clientResult, HttpAnswer.authRejected]
    cases hok : isSuccess statusCode with
    | true =>
      simp only [not_true_eq_false, if_false, Bool.not_true, Bool.false_and]
      split <;> rfl
    | false =>
      simp only [Bool.false_eq_true, not_false_eq_true, if_true, Bool.not_false, Bool.true_and,
        ClientResult.unauthenticated, handleError]
      cases lockedOut body with
      | true => simp
      | false =>
        simp only [Bool.false_eq_true, if_false, Bool.false_or]
        rw [Bool.eq_iff_iff]
        simpa using categoryOf_authentication

theorem executeOnce_isRetry (retryAuth : Bool) (h : trial.outcome = .sent answer) :
    (executeOnce retryAuth method attempt trial).isRetry =
      (attempt == 1 && retryAuth && answer.authRejected && trial.refreshError.isNone) := by
  simp only [executeOnce, h, unauthenticated_clientResult]
  split
  · next hauth =>
    obtain ⟨rfl, rfl, hrejected⟩ := hauth
    rw [hrejected]
    split
    · next heq => simp [heq, AttemptEnd.isRetry]
    · next heq => simp [heq, AttemptEnd.isRetry]
  · next hauth =>
    cases hrejected : answer.authRejected <;> cases retryAuth <;>
      simp_all [AttemptEnd.isRetry]

theorem retryAfterError_isRetry {exc : SdkError} :
    (retryAfterError attempt trial exc).isRetry =
      (attempt < maxRetryAttempts && trial.beforeRetryError.isNone &&
        (eldoradoDecide attempt exc).action != .noRetry) := by
  rw [retryAfterError]
  split
  · next h =>
    rcases h with hlast | hno
    · simp [AttemptEnd.isRetry, hlast]
    · simp [AttemptEnd.isRetry, hno]
  · next h =>
    rw [not_or] at h
    split
    · next heq => simp [AttemptEnd.isRetry, heq]
    · next heq => simp [AttemptEnd.isRetry, heq, h.2, Nat.lt_of_not_le h.1]

/-- The strategy goes on, seen from the client's error. -/
def goesOn (attempt : Nat) (error : ClientError) : Bool :=
  (eldoradoDecide attempt (resultToException error)).action != .noRetry

theorem goesOn_network {error : ClientError} (h : error.category = .network) :
    goesOn attempt error = true := by
  simp only [goesOn, resultToException, h, eldoradoDecide]
  split <;> simp [marketplaceDecide]

theorem goesOn_authentication {error : ClientError} (h : error.category = .authentication) :
    goesOn attempt error = (attempt == 1) := by
  simp only [goesOn, resultToException, h, eldoradoDecide]
  by_cases hfirst : attempt = 1 <;> simp [marketplaceDecide, hfirst]

theorem goesOn_serverError {error : ClientError}
    (h : error.category = .serverError ∨ error.category = .unknown ∨
      error.category = .conflict) :
    goesOn attempt error = error.isRetryable := by
  rcases h with h | h | h <;>
    cases hretry : error.isRetryable <;>
      simp [goesOn, resultToException, h, eldoradoDecide, marketplaceDecide, hretry]

theorem goesOn_final {error : ClientError}
    (h : error.category = .validation ∨ error.category = .notFound ∨
      error.category = .rateLimit) :
    goesOn attempt error = false := by
  rcases h with h | h | h <;>
    simp [goesOn, resultToException, h, eldoradoDecide, marketplaceDecide]

/-- **An error response** is retried when the server failed, or once for the
authentication. -/
theorem goesOn_handleError {statusCode : Nat} {body : ReplyBody} :
    goesOn attempt (handleError statusCode body) =
      (500 ≤ statusCode && !lockedOut body ||
        attempt == 1 && (lockedOut body || statusCode == 401 || statusCode == 403)) := by
  cases hlocked : lockedOut body with
  | true =>
    rw [goesOn_authentication (by simp [handleError, hlocked])]
    simp
  | false =>
    have hcategory : (handleError statusCode body).category = categoryOf statusCode := by
      simp [handleError, hlocked]
    have hretryable : (handleError statusCode body).isRetryable =
        (statusCode ≥ 500 || statusCode == 429) := by
      simp [handleError, hlocked]
    rw [categoryOf] at hcategory
    split_ifs at hcategory with h400 h401 h404 h409 h429
    · rw [goesOn_final (by simp [hcategory])]
      rcases h400 with rfl | rfl <;> simp
    · rw [goesOn_authentication hcategory]
      rcases h401 with rfl | rfl <;> simp
    · rw [goesOn_final (by simp [hcategory])]
      simp [h404]
    · rw [goesOn_serverError (by simp [hcategory]), hretryable]
      simp [h409]
    · rw [goesOn_final (by simp [hcategory])]
      simp [h429]
    · rw [goesOn_serverError (by simp [hcategory]), hretryable]
      rw [not_or] at h401
      rw [beq_eq_false_iff_ne.mpr h401.1, beq_eq_false_iff_ne.mpr h401.2,
        beq_eq_false_iff_ne.mpr h429]
      simp

/-- **A result** is retried when the answer says so; one that is ok never is. -/
theorem goesOn_clientResult (method : Mutation) :
    (clientResult method answer).error.any (goesOn attempt) =
      (answer.serverFailed || attempt == 1 && answer.authRejected) := by
  cases answer with
  | transportError message proxyUrl =>
    rw [clientResult, Option.any_some, goesOn_network rfl]
    rfl
  | response statusCode body =>
    simp only [clientResult, HttpAnswer.authRejected, HttpAnswer.serverFailed]
    cases hok : isSuccess statusCode with
    | false =>
      simp only [Bool.false_eq_true, not_false_eq_true, if_true, Option.any_some,
        goesOn_handleError, Bool.not_false, Bool.true_and]
    | true =>
      have hlow : ¬ 500 ≤ statusCode := by
        simp only [isSuccess, Bool.and_eq_true, decide_eq_true_eq] at hok
        omega
      simp only [not_true_eq_false, if_false, Bool.not_true, Bool.false_and, Bool.and_false,
        Bool.or_false, hlow, decide_false]
      split
      · rw [Option.any_some, goesOn_serverError (by simp)]
      · rfl

theorem executeWithRetry_isRetry (h : trial.outcome = .sent answer) :
    (executeWithRetry method attempt trial).isRetry =
      (attempt < maxRetryAttempts && trial.beforeRetryError.isNone &&
        (answer.serverFailed || attempt == 1 && answer.authRejected)) := by
  rw [← goesOn_clientResult method]
  simp only [executeWithRetry, h]
  split
  · next heq => simp [heq, AttemptEnd.isRetry]
  · next error heq =>
    rw [retryAfterError_isRetry, heq]
    rfl

/-- **Which requests are sent again**: for `update_offer_once` none; for `create_offer` one
whose first answer rejects the authentication; else one that meets a network or server error,
or whose first answer rejects the authentication, up to three in all. -/
theorem facade_retries_iff (h : trial.outcome = .sent answer) :
    (∃ delay, facade method attempt trial = .retries delay) ↔
      replayed method attempt trial answer = true := by
  have hretry : (facade method attempt trial).isRetry =
      replayed method attempt trial answer := by
    cases method with
    | createOffer => simp [facade, executeOnce_isRetry true h, replayed]
    | updateOfferOnce => simp [facade, executeOnce_isRetry false h, replayed]
    | updateOffer => exact executeWithRetry_isRetry h
    | deleteOffer => exact executeWithRetry_isRetry h
    | uploadImage => exact executeWithRetry_isRetry h
    | deliverOrder => exact executeWithRetry_isRetry h
  rw [← hretry]
  cases facade method attempt trial <;> simp [AttemptEnd.isRetry]

end Sda.Retry
