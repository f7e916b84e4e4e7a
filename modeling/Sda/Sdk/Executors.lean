/-
Sda/Sdk/Executors.lean

The two executors of a marketplace facade and the category they report
(libs/apis_sdk/apis_sdk/clients/marketplaces/_facade_support.py, core/result.py, core/exceptions.py,
`RetryPolicy.execute` of infrastructure/retry/policy.py).

`execute_once` hands the client's result on.  `execute_with_retry` raises a failing result, so that the
policy can catch it, and makes a result again of the exception that it ends with.  The exceptions do
not carry all of a result: some classes have no status code, and the category of a `ProviderError` is
guessed from its status code.  So the two agree where the way through the exception loses nothing
(`roundTrip_visible_iff`); an exception of the call itself is converted once in both.

An attempt is numbered, and the call may answer each in its own way; `executeWithRetry_ends` says that
the answer to one of the attempts decides.  Refreshing the authentication in between does not
otherwise show in a result.

Main results: `executors_agree_iff` — when the two executors report the same; `http_agree_iff` — for
which HTTP statuses they do.
-/
import Sda.Sdk.Json
import Sda.Sdk.Result
import Sda.Sdk.Retry

namespace Sda.Executors

/-! ### Results and exceptions -/

/-- `ErrorDetail` -/
structure ErrorDetail where
  category : ErrorCategory
  message : String
  statusCode : Option Int := none
  provider : Option String := none
  retryAfter : Option ℚ := none
  isRetryable : Bool := false
  details : Fields := []

/-- `ApiResult` -/
structure ApiResult (α : Type*) where
  ok : Bool
  data : Option α := none
  error : Option ErrorDetail := none
  statusCode : Option Int := none

variable {α : Type*}

/-- `a or b` of two status codes. -/
def orStatus (a b : Option Int) : Option Int := if a = none ∨ a = some 0 then b else a

/-- **`ApiResult.failure`** -/
def failure (error : ErrorDetail) (statusCode : Option Int) : ApiResult α :=
  { ok := false, error := some error, statusCode := orStatus statusCode error.statusCode }

/-- **`ApiResult.from_error`** -/
def fromError (error : ErrorDetail) : ApiResult α := failure error error.statusCode

/-- What every `SdkError` has. -/
structure Raised where
  message : String
  provider : Option String := none
  details : Fields := []

/-- The exceptions of the SDK, each with its own attributes, and all others. -/
inductive Exc
  | rateLimit (e : Raised) (retryAfter : Option ℚ)
  | timeout (e : Raised) (timeoutSeconds : Option ℚ)
  | transport (e : Raised) (statusCode : Option Int)
  | authentication (e : Raised) (isTokenExpired : Bool)
  | validation (e : Raised)
  | provider (e : Raised) (statusCode : Option Int) (isRetryable : Bool)
  /-- `EldoradoProviderNotReadyError`, a `ProviderError` with a hook of its own. -/
  | notReady (e : Raised)
  | other (message : String)

/-- `error.provider or fallback_provider` -/
def orProvider (provider : Option String) (fallbackProvider : String) : String :=
  match provider with
  | none | some "" => fallbackProvider
  | some provider => provider

/-- **`result_to_exception`** -/
def resultToException (fallbackProvider : String) (result : ApiResult α) : Exc :=
  match result.error with
  | none => .provider
      { message := fallbackProvider ++ " operation failed without error details."
        provider := some fallbackProvider } result.statusCode false
  | some error =>
    let e : Raised :=
      { message := error.message
        provider := some (orProvider error.provider fallbackProvider)
        details := error.details }
    match error.category with
    | .rateLimit => .rateLimit e error.retryAfter
    | .timeout => .timeout e error.retryAfter
    | .network => .transport e error.statusCode
    | .authentication => .authentication e false
    | .validation => .validation e
    | .notFound => .provider e error.statusCode false
    | .conflict | .serverError | .unknown => .provider e error.statusCode error.isRetryable

/-- `_STATUS_CATEGORY` -/
def statusCategory : List (Int × ErrorCategory) :=
  [(404, .notFound), (403, .notFound), (400, .validation), (422, .validation)]

/-- The category of a `ProviderError`. -/
def providerCategory (statusCode : Option Int) : ErrorCategory :=
  match statusCode with
  | none => .serverError
  | some code => (statusCategory.lookup code).getD .serverError

/-- **`exception_to_result`** -/
def exceptionToResult (fallbackProvider : String) : Exc → ApiResult α
  | .rateLimit e retryAfter => fromError
      { category := .rateLimit, message := e.message, provider := e.provider, retryAfter,
        isRetryable := true, details := e.details }
  | .timeout e _ => fromError
      { category := .timeout, message := e.message, provider := e.provider, isRetryable := true,
        details := e.details }
  | .transport e statusCode => fromError
      { category := .network, message := e.message, provider := e.provider, statusCode,
        isRetryable := true, details := e.details }
  | .authentication e _ => fromError
      { category := .authentication, message := e.message, provider := e.provider,
        details := e.details }
  | .validation e => fromError
      { category := .validation, message := e.message, provider := e.provider, details := e.details }
  | .provider e statusCode isRetryable => fromError
      { category := providerCategory statusCode, message := e.message, provider := e.provider,
        statusCode, isRetryable, details := e.details }
  | .notReady e => fromError
      { category := .serverError, message := e.message, provider := e.provider,
        details := e.details }
  | .other message => fromError
      { category := .unknown,
        message := "Unexpected " ++ fallbackProvider ++ " facade error: " ++ message,
        provider := some fallbackProvider }

/-! ### FacadeExecutor -/

/-- A `RetryPolicy` with its strategy: whether to go on after an attempt failed. -/
structure Policy where
  shouldRetry : Nat → Exc → Bool

/-- `FacadeExecutor` -/
structure FacadeExecutor where
  providerName : String
  retry : Option Policy := none
  maxRetryAttempts : Nat := 3
  /-- `_eldorado_exception_hook`, the only hook there is, is installed. -/
  exceptionHook : Bool := false
  /-- `auth.last_refresh_error` when the executor gives up. -/
  lastRefreshError : String := ""

/-- What one attempt comes to: the operation, with the proxy it is given, returns or raises. -/
inductive Outcome (α : Type*)
  | returned (result : ApiResult α)
  | raised (exc : Exc)

/-- **`_eldorado_exception_hook`** -/
def eldoradoExceptionHook : Exc → Option (ApiResult α)
  | .notReady e => some (fromError
      { category := .validation, message := e.message, provider := e.provider,
        details := e.details })
  | _ => none

variable (f : FacadeExecutor)

/-- An authentication error tells why the last refresh failed. -/
def enriched : Exc → Exc
  | .authentication e isTokenExpired =>
    if f.lastRefreshError = "" then .authentication e isTokenExpired
    else .authentication
      { message := e.message ++ ". " ++ f.lastRefreshError
        provider := e.provider
        details := e.details.set "refresh_error" (.str f.lastRefreshError.toList) } isTokenExpired
  | exc => exc

/-- **`_exception_to_result`** -/
def toResult (exc : Exc) : ApiResult α :=
  match if f.exceptionHook = true then eldoradoExceptionHook exc else none with
  | some hooked => hooked
  | none => exceptionToResult f.providerName (enriched f exc)

/-- `wrapped`: a failing result is raised. -/
def wrapped : Outcome α → Except Exc (ApiResult α)
  | .raised exc => .error exc
  | .returned result =>
    if result.ok = true then .ok result else .error (resultToException f.providerName result)

/-- **`RetryPolicy.execute`** from an attempt on, with so many left after it. -/
def execute (policy : Policy) (operation : Nat → Except Exc (ApiResult α)) :
    Nat → Nat → Except Exc (ApiResult α)
  | 0, attempt => operation attempt
  | left + 1, attempt =>
    match operation attempt with
    | .ok result => .ok result
    | .error exc =>
      if policy.shouldRetry attempt exc = true then execute policy operation left (attempt + 1)
      else .error exc

/-- **`execute_with_retry`** -/
def executeWithRetry (operation : Nat → Outcome α) : ApiResult α :=
  match f.retry with
  | none =>
    match operation 1 with
    | .returned result => result
    | .raised exc => toResult f exc
  | some policy =>
    match execute policy (fun attempt => wrapped f (operation attempt))
        (max 1 f.maxRetryAttempts - 1) 1 with
    | .ok result => result
    | .error exc => toResult f exc

/-- `not result.ok and result.error and result.error.category == AUTHENTICATION` -/
def authRejected (result : ApiResult α) : Bool :=
  !result.ok && result.error.any (·.category == .authentication)

/-- **`execute_once`**; `refreshError` is what `auth.refresh()` raises. -/
def executeOnce (retryAuth : Bool) (refreshError : Option String) (operation : Nat → Outcome α) :
    ApiResult α :=
  match operation 1 with
  | .raised exc => toResult f exc
  | .returned result =>
    if retryAuth = true ∧ authRejected result = true then
      match refreshError with
      | some exc => toResult f (.authentication
          { message := "Auth refresh failed: " ++ exc, provider := some f.providerName } false)
      | none =>
        match operation 2 with
        | .raised exc => toResult f exc
        | .returned result => result
    else result

/-! ### What a caller sees -/

/-- The category and both status codes. -/
def visible (result : ApiResult α) : Option ErrorCategory × Option Int × Option Int :=
  (result.error.map (·.category), result.error.bind (·.statusCode), result.statusCode)

theorem visible_fromError (error : ErrorDetail) : visible (fromError error : ApiResult α) =
    (some error.category, error.statusCode, error.statusCode) := by
  unfold visible fromError failure orStatus
  rw [ite_self]
  rfl

/-- The way of a failing result through an exception. -/
def roundTrip (result : ApiResult α) : ApiResult α :=
  toResult f (resultToException f.providerName result)

/-- What an exception keeps of a failing result. -/
def RoundTrips (result : ApiResult α) : Prop :=
  ∃ error, result.error = some error ∧
    match error.category with
    | .rateLimit | .timeout | .authentication | .validation =>
      error.statusCode = none ∧ result.statusCode = none
    | .network => result.statusCode = error.statusCode
    | .notFound =>
      (error.statusCode = some 404 ∨ error.statusCode = some 403) ∧
        result.statusCode = error.statusCode
    | .serverError =>
      error.statusCode ∉ [some 404, some 403, some 400, some 422] ∧
        result.statusCode = error.statusCode
    | .conflict | .unknown => False

/-- The category and the status code an exception is reported with. -/
def Exc.reported : Exc → ErrorCategory × Option Int
  | .rateLimit _ _ => (.rateLimit, none)
  | .timeout _ _ => (.timeout, none)
  | .transport _ statusCode => (.network, statusCode)
  | .authentication _ _ => (.authentication, none)
  | .validation _ => (.validation, none)
  | .provider _ statusCode _ => (providerCategory statusCode, statusCode)
  | .notReady _ => (.validation, none)
  | .other _ => (.unknown, none)

variable {f} {result : ApiResult α}

/-- It is an authentication error still. -/
theorem enriched_authentication (e : Raised) (isTokenExpired : Bool) :
    ∃ e', enriched f (.authentication e isTokenExpired) = .authentication e' isTokenExpired := by
  by_cases hrefresh : f.lastRefreshError = ""
  · exact ⟨e, if_pos hrefresh⟩
  · exact ⟨_, if_neg hrefresh⟩

theorem visible_toResult {exc : Exc} (h : ∀ e, exc ≠ .notReady e) :
    visible (toResult f exc : ApiResult α) =
      (some exc.reported.1, exc.reported.2, exc.reported.2) := by
  have hhook : (eldoradoExceptionHook exc : Option (ApiResult α)) = none := by
    cases exc with
    | notReady e => exact absurd rfl (h e)
    | _ => rfl
  unfold toResult
  rw [hhook, ite_self]
  show visible (exceptionToResult f.providerName (enriched f exc)) = _
  cases exc with
  | authentication e isTokenExpired =>
    obtain ⟨e', he'⟩ := enriched_authentication (f := f) e isTokenExpired
    rw [he']
    exact visible_fromError _
  | notReady e => exact absurd rfl (h e)
  | _ => exact visible_fromError _

theorem resultToException_ne_notReady (provider : String) (result : ApiResult α) (e : Raised) :
    resultToException provider result ≠ .notReady e := by
  unfold resultToException
  intro h
  split at h
  · cases h
  · next error _ =>
    revert h
    cases error.category <;> exact nofun

/-- What is left of a result. -/
theorem visible_roundTrip (result : ApiResult α) : visible (roundTrip f result) =
    (some (resultToException f.providerName result).reported.1,
      (resultToException f.providerName result).reported.2,
      (resultToException f.providerName result).reported.2) :=
  visible_toResult (resultToException_ne_notReady f.providerName result)

theorem providerCategory_eq (statusCode : Option Int) : providerCategory statusCode =
    if statusCode = some 404 ∨ statusCode = some 403 then .notFound
    else if statusCode = some 400 ∨ statusCode = some 422 then .validation
    else .serverError := by
  cases statusCode with
  | none => rfl
  | some code =>
    simp only [providerCategory, statusCategory, List.lookup_cons, Option.some.injEq]
    by_cases h404 : code = 404
    · simp [h404]
    by_cases h403 : code = 403
    · simp [h403]
    by_cases h400 : code = 400
    · simp [h400]
    by_cases h422 : code = 422
    · simp [h422]
    simp [beq_eq_false_iff_ne.mpr, h404, h403, h400, h422]

theorem providerCategory_eq_notFound {statusCode : Option Int} :
    providerCategory statusCode = .notFound ↔ statusCode = some 404 ∨ statusCode = some 403 := by
  rw [providerCategory_eq]
  split_ifs with hnotFound hvalidation
  · exact iff_of_true rfl hnotFound
  · exact iff_of_false nofun hnotFound
  · exact iff_of_false nofun hnotFound

theorem providerCategory_eq_serverError {statusCode : Option Int} :
    providerCategory statusCode = .serverError ↔
      statusCode ∉ [some 404, some 403, some 400, some 422] := by
  rw [providerCategory_eq]
  split_ifs with hnotFound hvalidation
  · rcases hnotFound with rfl | rfl <;> simp
  · rcases hvalidation with rfl | rfl <;> simp
  · rw [not_or] at hnotFound hvalidation
    simp [hnotFound, hvalidation]

theorem providerCategory_ne (statusCode : Option Int) :
    providerCategory statusCode ≠ .conflict ∧ providerCategory statusCode ≠ .unknown := by
  rw [providerCategory_eq]
  split_ifs <;> exact ⟨nofun, nofun⟩

/-- **A failing result and what comes back of it look the same where the exception keeps all of
it.** -/
theorem roundTrip_visible_iff (result : ApiResult α) :
    visible (roundTrip f result) = visible result ↔ RoundTrips result := by
  rw [visible_roundTrip]
  unfold RoundTrips visible resultToException
  cases herror : result.error with
  | none => simp
  | some error =>
    simp only [Option.map_some, Option.bind_some, Option.some.injEq, Prod.mk.injEq,
      exists_eq_left']
    cases hcategory : error.category with
    | rateLimit | timeout | authentication | validation =>
      simp only [Exc.reported, true_and]
      exact and_congr eq_comm eq_comm
    | network =>
      simp only [Exc.reported, true_and]
      exact eq_comm
    | notFound =>
      simp only [Exc.reported, true_and, providerCategory_eq_notFound]
      exact and_congr_right fun _ => eq_comm
    | serverError =>
      simp only [Exc.reported, true_and, providerCategory_eq_serverError]
      exact and_congr_right fun _ => eq_comm
    | conflict =>
      exact iff_of_false (fun h => (providerCategory_ne error.statusCode).1 h.1) id
    | unknown =>
      exact iff_of_false (fun h => (providerCategory_ne error.statusCode).2 h.1) id

/-! ### The executors on a call -/

/-- The loop ends with what one of its attempts came to. -/
theorem policyExecute_ends (policy : Policy) (operation : Nat → Except Exc (ApiResult α))
    (left attempt : Nat) : ∃ k, attempt ≤ k ∧ k ≤ attempt + left ∧
      execute policy operation left attempt = operation k := by
  induction left generalizing attempt with
  | zero => exact ⟨attempt, le_rfl, le_rfl, rfl⟩
  | succ left ih =>
    have hhere : ∃ k, attempt ≤ k ∧ k ≤ attempt + (left + 1) ∧ operation attempt = operation k :=
      ⟨attempt, le_rfl, Nat.le_add_right _ _, rfl⟩
    unfold execute
    cases hoperation : operation attempt with
    | ok result =>
      rw [hoperation] at hhere
      exact hhere
    | error exc =>
      show ∃ k, _ ∧ _ ∧ (if policy.shouldRetry attempt exc = true then _ else _) = _
      by_cases hretry : policy.shouldRetry attempt exc = true
      · rw [if_pos hretry]
        obtain ⟨k, hlow, hhigh, hends⟩ := ih (attempt + 1)
        exact ⟨k, by omega, by omega, hends⟩
      · rw [if_neg hretry]
        rw [hoperation] at hhere
        exact hhere

/-- What a policy makes of the outcome it ends with. -/
def settle (f : FacadeExecutor) : Outcome α → ApiResult α
  | .raised exc => toResult f exc
  | .returned result => if result.ok = true then result else roundTrip f result

/-- **With a policy the answer to one of the attempts decides.** -/
theorem executeWithRetry_ends {policy : Policy} (hpolicy : f.retry = some policy)
    (operation : Nat → Outcome α) : ∃ k, 1 ≤ k ∧ k ≤ max 1 f.maxRetryAttempts ∧
      executeWithRetry f operation = settle f (operation k) := by
  obtain ⟨k, hlow, hhigh, hends⟩ := policyExecute_ends policy
    (fun attempt => wrapped f (operation attempt)) (max 1 f.maxRetryAttempts - 1) 1
  refine ⟨k, hlow, by omega, ?_⟩
  unfold executeWithRetry
  rw [hpolicy]
  show (match execute policy (fun attempt => wrapped f (operation attempt))
      (max 1 f.maxRetryAttempts - 1) 1 with
    | .ok result => result
    | .error exc => toResult f exc) = _
  rw [hends]
  cases operation k with
  | raised exc => rfl
  | returned result =>
    unfold wrapped settle
    by_cases hok : result.ok = true
    · simp only [if_pos hok]
    · simp only [if_neg hok]
      rfl

/-- The authentication is refreshed and that fails. -/
def RefreshFails (retryAuth : Bool) (refreshError : Option String) (result : ApiResult α) : Prop :=
  retryAuth = true ∧ authRejected result = true ∧ refreshError ≠ none

/-- When both executors report an outcome in the same way. -/
def Agrees (f : FacadeExecutor) (retryAuth : Bool) (refreshError : Option String) :
    Outcome α → Prop
  | .raised _ => True
  | .returned result => result.ok = true ∨
      (RefreshFails retryAuth refreshError result ∧ (f.retry = none →
        visible result = (some .authentication, none, none))) ∨
      (¬RefreshFails retryAuth refreshError result ∧ (f.retry ≠ none → RoundTrips result))

variable {retryAuth : Bool} {refreshError : Option String}

theorem executeOnce_refreshFails (h : RefreshFails retryAuth refreshError result) :
    visible (executeOnce f retryAuth refreshError fun _ => .returned result) =
      (some .authentication, none, none) := by
  obtain ⟨hretry, hrejected, hfails⟩ := h
  obtain ⟨exc, rfl⟩ := Option.ne_none_iff_exists'.mp hfails
  unfold executeOnce
  show visible (if retryAuth = true ∧ authRejected result = true then _ else _) = _
  rw [if_pos ⟨hretry, hrejected⟩]
  exact visible_toResult (fun e => nofun)

/-- Otherwise the result is handed on, be it the second. -/
theorem executeOnce_result (h : ¬RefreshFails retryAuth refreshError result) :
    executeOnce f retryAuth refreshError (fun _ => .returned result) = result := by
  unfold executeOnce
  show (if retryAuth = true ∧ authRejected result = true then _ else _) = _
  by_cases hauth : retryAuth = true ∧ authRejected result = true
  · rw [if_pos hauth]
    cases refreshError with
    | none => rfl
    | some exc => exact absurd ⟨hauth.1, hauth.2, Option.some_ne_none exc⟩ h
  · rw [if_neg hauth]

/-- A rejected authentication comes back as one, without its status code. -/
theorem visible_roundTrip_authRejected (h : authRejected result = true) :
    visible (roundTrip f result) = (some .authentication, none, none) := by
  rw [visible_roundTrip]
  unfold authRejected at h
  unfold resultToException
  cases herror : result.error with
  | none =>
    rw [herror] at h
    simp at h
  | some error =>
    rw [herror] at h
    have hcategory : error.category = .authentication := by simpa using And.right (by simpa using h)
    simp [hcategory, Exc.reported]

theorem executeWithRetry_const (f : FacadeExecutor) (result : ApiResult α) :
    executeWithRetry f (fun _ => .returned result) =
      if f.retry = none ∨ result.ok = true then result else roundTrip f result := by
  cases hpolicy : f.retry with
  | none =>
    unfold executeWithRetry
    rw [hpolicy, if_pos (Or.inl rfl)]
  | some policy =>
    obtain ⟨k, -, -, hends⟩ := executeWithRetry_ends hpolicy fun _ => Outcome.returned result
    rw [hends]
    unfold settle
    simp

/-- **When the two executors report a call in the same way.** -/
theorem executors_agree_iff (f : FacadeExecutor) (retryAuth : Bool) (refreshError : Option String)
    (outcome : Outcome α) :
    visible (executeWithRetry f fun _ => outcome) =
        visible (executeOnce f retryAuth refreshError fun _ => outcome) ↔
      Agrees f retryAuth refreshError outcome := by
  cases outcome with
  | raised exc =>
    apply iff_of_true _ trivial
    cases hpolicy : f.retry with
    | none =>
      unfold executeWithRetry
      rw [hpolicy]
      rfl
    | some policy =>
      obtain ⟨k, -, -, hends⟩ := executeWithRetry_ends hpolicy fun _ => (Outcome.raised exc : Outcome α)
      rw [hends]
      rfl
  | returned result =>
    rw [executeWithRetry_const]
    unfold Agrees
    by_cases hrefresh : RefreshFails retryAuth refreshError result
    · have hok : ¬result.ok = true := by
        intro hok
        have := hrefresh.2.1
        unfold authRejected at this
        rw [hok] at this
        exact absurd this Bool.false_ne_true
      rw [executeOnce_refreshFails hrefresh]
      by_cases hpolicy : f.retry = none
      · simp [hpolicy, hok, hrefresh]
      · simp [hpolicy, hok, hrefresh, visible_roundTrip_authRejected hrefresh.2.1]
    · rw [executeOnce_result hrefresh]
      by_cases hdirect : f.retry = none ∨ result.ok = true
      · rw [if_pos hdirect]
        rcases hdirect with hpolicy | hok
        · simp [hpolicy, hrefresh]
        · simp [hok]
      · rw [if_neg hdirect, roundTrip_visible_iff]
        rw [not_or] at hdirect
        simp [hdirect, hrefresh]

/-! ### HTTP answers -/

/-- What the Eldorado client makes of an error response. -/
def httpResult (statusCode : Nat) (body : Retry.ReplyBody) : ApiResult α :=
  let error := Retry.handleError statusCode body
  failure
    { category := error.category
      message := error.message
      statusCode := some statusCode
      retryAfter := error.retryAfter
      isRetryable := error.isRetryable } (some statusCode)

theorem roundTrips_httpResult (statusCode : Nat) (body : Retry.ReplyBody) :
    RoundTrips (httpResult statusCode body : ApiResult α) ↔
      Retry.lockedOut body = false ∧ statusCode ∉ [400, 401, 403, 409, 422, 429] := by
  have hstatus : (httpResult statusCode body : ApiResult α).statusCode = some (statusCode : Int) := by
    show orStatus (some (statusCode : Int)) (some (statusCode : Int)) = _
    unfold orStatus
    rw [ite_self]
  unfold RoundTrips
  rw [hstatus]
  show (∃ error, some _ = some error ∧ _) ↔ _
  simp only [Option.some.injEq, exists_eq_left']
  show (match (Retry.handleError statusCode body).category with
    | .rateLimit | .timeout | .authentication | .validation => _ | .network => _ | .notFound => _
    | .serverError => _ | .conflict | .unknown => _) ↔ _
  have hcategory : (Retry.handleError statusCode body).category =
    if Retry.lockedOut body then .authentication else Retry.categoryOf statusCode := rfl
  rw [hcategory]
  cases hlocked : Retry.lockedOut body with
  | true => simp
  | false =>
    rw [if_neg Bool.false_ne_true, Retry.categoryOf]
    split_ifs with h400 h401 h404 h409 h429
    · rcases h400 with rfl | rfl <;> simp
    · rcases h401 with rfl | rfl <;> simp
    · simp [h404]
    · simp [h409]
    · simp [h429]
    · rw [not_or] at h400 h401
      simp [h400, h401, h409, h429]
      omega

/-- **The HTTP statuses that both executors report alike**, where the authentication can be refreshed:
of the error statuses all but 400, 401, 403, 409, 422 and 429. -/
theorem http_agree_iff (f : FacadeExecutor) (hretry : f.retry ≠ none) (retryAuth : Bool)
    (statusCode : Nat) (body : Retry.ReplyBody) :
    visible (executeWithRetry f fun _ => .returned (httpResult statusCode body : ApiResult α)) =
        visible (executeOnce f retryAuth none fun _ => .returned
          (httpResult statusCode body : ApiResult α)) ↔
      Retry.lockedOut body = false ∧ statusCode ∉ [400, 401, 403, 409, 422, 429] := by
  have hrefresh : ¬RefreshFails retryAuth none (httpResult statusCode body : ApiResult α) :=
    fun h => h.2.2 rfl
  have hdirect : ¬(f.retry = none ∨ (httpResult statusCode body : ApiResult α).ok = true) := by
    rintro (hnone | hok)
    · exact hretry hnone
    · exact absurd hok Bool.false_ne_true
  rw [executeOnce_result hrefresh, executeWithRetry_const, if_neg hdirect, roundTrip_visible_iff]
  exact roundTrips_httpResult statusCode body

/-- A facade whose policy never retries. -/
def eldorado : FacadeExecutor :=
  { providerName := "eldorado"
    retry := some { shouldRetry := fun _ _ => false }
    exceptionHook := true }

/-- A conflict is one where the call is made once, and a server error where it may be retried. -/
theorem conflict_changes :
    visible (executeWithRetry eldorado fun _ => .returned (httpResult 409 {} : ApiResult Unit)) =
        (some .serverError, some 409, some 409) ∧
      visible (executeOnce eldorado true none fun _ => .returned
          (httpResult 409 {} : ApiResult Unit)) = (some .conflict, some 409, some 409) := by
  decide

end Sda.Executors
