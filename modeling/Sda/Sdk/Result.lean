/-
Sda/Sdk/Result.lean

The result wrapper of the SDK (libs/apis_sdk/apis_sdk/core) and what a
marketplace may have done behind it.

A client call returns an `ApiResult` or raises.  For a *write* that is not
the whole story: a call that fails may still have been carried out.
`WriteAnswer` keeps the two apart.  The services only ever see
`WriteAnswer.result`; `mayHaveWritten` is what happened at the marketplace,
and only statements of properties look at it.
-/
import Sda.Pool.Models

namespace Sda

inductive ErrorCategory
  | validation | authentication | rateLimit | notFound | conflict | serverError | network
  | timeout | unknown
  deriving DecidableEq, Repr

/-- The value of a category. -/
def ErrorCategory.text : ErrorCategory → String
  | .validation => "validation"
  | .authentication => "authentication"
  | .rateLimit => "rate_limit"
  | .notFound => "not_found"
  | .conflict => "conflict"
  | .serverError => "server_error"
  | .network => "network"
  | .timeout => "timeout"
  | .unknown => "unknown"

/-- The keys of `ErrorDetail.details` the services look at. -/
structure ErrorDetails where
  governor : Bool := false
  code : Option Nat := none
  delegationOutcome : String := ""
  noWriteProof : String := ""
  errorCode : String := ""
  requestId : String := ""
  /-- `offerId`, `offer_id` or `remote_offer_id`. -/
  offerId : String := ""
  messages : List String := []
  deriving DecidableEq, Repr

/-- `ErrorDetail`; `text` is `str(error)`, its dataclass representation. -/
structure ErrorDetail where
  category : ErrorCategory
  message : String
  statusCode : Option Nat := none
  isRetryable : Bool := false
  details : ErrorDetails := {}
  text : String := ""
  deriving DecidableEq, Repr

/-- `ApiResult`: data when `ok`, an error otherwise. -/
inductive ApiResult (α : Type)
  | success (data : α) (statusCode : Option Nat := none)
  | failure (error : ErrorDetail) (statusCode : Option Nat := none)
  deriving DecidableEq, Repr

def ApiResult.ok {α : Type} : ApiResult α → Bool
  | .success _ _ => true
  | .failure _ _ => false

/-- What a write call came to. -/
inductive WriteAnswer (α : Type)
  | success (data : α)
  /-- The marketplace, or a check in front of it, refused: nothing was written. -/
  | refused (error : ErrorDetail)
  /-- The call failed, but the marketplace may have carried the write out:
  a timeout, a lost response, a server error. -/
  | uncertain (error : ErrorDetail)
  /-- The client raised; the write may have been carried out. -/
  | raised (exc : PyError)
  deriving DecidableEq, Repr

namespace WriteAnswer

variable {α : Type}

/-- What the service sees. -/
def result : WriteAnswer α → Except PyError (ApiResult α)
  | .success data => .ok (.success data)
  | .refused e => .ok (.failure e e.statusCode)
  | .uncertain e => .ok (.failure e e.statusCode)
  | .raised exc => .error exc

/-- May the marketplace have accepted the request? -/
def mayHaveWritten : WriteAnswer α → Bool
  | .refused _ => false
  | _ => true

/-- A failing answer means that nothing was written. -/
def failsClean : WriteAnswer α → Bool
  | .uncertain _ => false
  | _ => true

end WriteAnswer

end Sda
