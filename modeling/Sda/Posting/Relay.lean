/-
Sda/Posting/Relay.lean

The PlayerAuctions relay (services/stock/pa_relay_poster.py) and the string
classifiers of its errors (services/stock/consumer.py,
services/pool/replenisher.py).

One row is one HTTP request.  `RelayReply` lists what can become of it; the
flag of a failing reply says whether PlayerAuctions created the offer all the
same.  `postRow` is what `PARelayPoster.post_batch` reports for the row: an
offer id, or an error text in which the kind of failure can only be guessed
from substrings.
-/
import Sda.Lib.Text

namespace Sda

/-- What becomes of one posted row. -/
inductive RelayReply
  /-- Building or encrypting the payload raised; nothing was sent. -/
  | prepareError (message : String)
  | timeout (written : Bool)
  /-- The body is not JSON. -/
  | nonJson (httpStatus : Nat) (written : Bool)
  | connection (message : String) (written : Bool)
  /-- The body is JSON but reading it raised. -/
  | malformed (message : String) (written : Bool)
  /-- `ok` is set in the body. -/
  | ok (offerId : String)
  /-- `ok` is not set. -/
  | error (status : Nat) (requestId detail : String) (written : Bool)
  deriving DecidableEq, Repr

/-- Did the relay create the offer? -/
def RelayReply.written : RelayReply → Bool
  | .prepareError _ => false
  | .timeout w => w
  | .nonJson _ w => w
  | .connection _ w => w
  | .malformed _ w => w
  | .ok _ => true
  | .error _ _ _ w => w

/-- `_format_relay_error`. -/
def formatRelayError (status : Nat) (requestId detail : String) : String :=
  "PA relay upstream error (upstream_status=" ++ natText status ++
    (if requestId = "" then "" else ", request_id=" ++ requestId) ++ "): " ++
    (if stripText detail = "" then "empty upstream response body" else stripText detail)

/-- `_post_one`, and the row's entry in the result of `post_batch`: the offer
id (`successful`) or the error (`failed`). -/
def postRow : RelayReply → Except String String
  | .prepareError m => .error m
  | .timeout _ => .error "PA relay timeout"
  | .nonJson status _ => .error (formatRelayError status "" "")
  | .connection m _ => .error ("PA relay connection error: " ++ m)
  | .malformed m _ => .error m
  | .ok offerId => if offerId = "" then .error "Unknown PA relay error" else .ok offerId
  | .error status requestId detail _ => .error (formatRelayError status requestId detail)

/-- `_is_pa_relay_authorization_error` of the replenisher. -/
def isPaRelayAuthorizationError (error : String) : Bool :=
  containsText "unauthorized" (lowerText error) ||
    containsText "upstream_status=401" (lowerText error)

/-- `_is_relay_authorization_failure` of the consumer. -/
def isRelayAuthorizationFailure (error : String) : Bool :=
  containsText "upstream_status=401" (lowerText error)

/-- `_is_pa_relay_transient_session_error`. -/
def isPaRelayTransientSessionError (error : String) : Bool :=
  containsText "upstream_status=1" (lowerText error) &&
    containsText "web address" (lowerText error)

/-- `_is_pa_relay_uncertain_outcome`. -/
def isPaRelayUncertainOutcome (error : String) : Bool :=
  containsText "timeout" (lowerText error) ||
    containsText "upstream_status=502" (lowerText error) ||
    containsText "upstream_status=503" (lowerText error) ||
    containsText "upstream_status=504" (lowerText error)

/-- A failing reply means that no offer was created. -/
def RelayReply.failsClean (r : RelayReply) : Bool :=
  match postRow r with
  | .ok _ => true
  | .error _ => !r.written

end Sda
