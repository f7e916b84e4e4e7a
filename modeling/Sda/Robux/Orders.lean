/-
Sda/Robux/Orders.lean

The RbxCrate orders of a batch (tools/models.py, tools/services/robuxcrate.py).

An order is sent with a create call, reconciled while its state is UNKNOWN, and polled while
it is QUEUED; staff refresh and cancel single orders.  Each of these functions makes one
call and writes its own copy of the row.  Here they are functions from that copy and the
provider's answer to the row that is saved: `none` where nothing is saved, an exception
where the answer makes the code or the database raise.

Left out: `rbxcrate_response` and the times, which nothing here reads.
-/
import Sda.Lib.Text
import Sda.Sdk.Result

namespace Sda.Robux

/-! ### Rows -/

/-- `RobuxCrateOrder.Status`. -/
inductive OrderStatus
  | pending | queued | completed | error | cancelled | unknown
  deriving DecidableEq, Repr

/-- `status in RobuxCrateOrder.FINAL_STATUSES`. -/
def OrderStatus.isFinal : OrderStatus → Bool
  | .completed | .error | .cancelled => true
  | .pending | .queued | .unknown => false

/-- `RobuxCrateOrder`. -/
structure Order where
  status : OrderStatus := .pending
  rawProviderStatus : String := ""
  errorMessage : String := ""
  deriving DecidableEq, Repr

/-- `RobuxCrateBatch.Status`. -/
inductive BatchStatus
  | pending | queued | processing | completed | error | cancelled
  deriving DecidableEq, Repr

/-- `status in _NON_FINAL_BATCH_STATUSES`. -/
def BatchStatus.isNonFinal : BatchStatus → Bool
  | .pending | .queued | .processing => true
  | .completed | .error | .cancelled => false

/-- An entry of `place_candidates`. -/
structure Place where
  placeId : Nat
  name : String := ""
  deriving DecidableEq, Repr

/-- The place of a batch and the candidates of the auto-place mode. -/
structure Places where
  autoPlace : Bool := false
  candidates : List Place := []
  attemptIndex : Nat := 0
  placeId : Nat := 0
  placeName : String := ""
  deriving DecidableEq, Repr

/-! ### Provider statuses -/

/-- `_STATUS_MAP`. -/
def statusMap : List (String × OrderStatus) :=
  [("queued", .queued), ("in_progress", .queued), ("inprogress", .queued),
    ("completed", .completed), ("done", .completed), ("error", .error), ("failed", .error),
    ("cancelled", .cancelled), ("canceled", .cancelled)]

/-- **`map_provider_status`** -/
def mapProviderStatus (raw : String) : OrderStatus :=
  (statusMap.lookup (stripText (lowerText raw))).getD .unknown

/-- A value of a response body. -/
inductive Field
  | null
  | text (s : String)
  /-- A number, an array, …: its `str` and whether it is truthy. -/
  | other (str : String) (truthy : Bool)
  deriving DecidableEq, Repr

def Field.truthy : Field → Bool
  | .null => false
  | .text s => s != ""
  | .other _ truthy => truthy

/-- A response body: an object with the two keys that are read, or some other value. -/
inductive Body
  | object (status error : Option Field)
  | other (truthy : Bool)
  deriving DecidableEq, Repr

/-- What a call of the client comes to: it raises, or returns a result. -/
abbrev Answer := Except PyError (ApiResult Body)

/-- `data = result.data or {}` and then `data.get('status', '')`. -/
def Body.status : Body → Except PyError Field
  | .object status _ => .ok (status.getD (.text ""))
  | .other true => .error (.other "object has no attribute 'get'")
  | .other false => .ok (.text "")

/-- `data.get('error', '') or ''`. -/
def Body.errorText : Body → String
  | .object _ (some (.text s)) => s
  | .object _ (some (.other str true)) => str
  | _ => ""

/-- `map_provider_status(raw) if raw else default`. -/
def Field.mapped (raw : Field) (default : OrderStatus) : Except PyError OrderStatus :=
  match raw with
  | .text s => .ok (if s = "" then default else mapProviderStatus s)
  | .other _ true => .error (.other "object has no attribute 'lower'")
  | .other _ false | .null => .ok default

/-- The column `raw_provider_status`: at most 50 characters, and not null. -/
def Field.column (raw : Field) : Except PyError String :=
  match raw with
  | .null => .error .integrityError
  | .text s | .other s _ =>
    if s.length ≤ 50 then .ok s else .error (.other "Data too long for column")

/-- The row after a body has been read into it. -/
def Order.read (o : Order) (default : OrderStatus) (body : Body) : Except PyError Order := do
  let raw ← body.status
  let status ← raw.mapped default
  let rawProviderStatus ← raw.column
  return { o with status, rawProviderStatus }

/-! ### The calls -/

/-- **`_is_uncertain_error`**: the category is one of `_UNCERTAIN_CATEGORIES`. -/
def isUncertainError (e : ErrorDetail) : Bool :=
  match e.category with
  | .network | .timeout | .unknown | .serverError => true
  | .validation | .authentication | .rateLimit | .notFound | .conflict => false

/-- **`_advance_to_next_place`**: the place of the batch and the order, to be sent again. -/
def advanceToNextPlace (places : Places) (e : ErrorDetail) : Option (Places × Order) :=
  match places.candidates[places.attemptIndex + 1]? with
  | none => none
  | some next =>
    some ({ places with
        attemptIndex := places.attemptIndex + 1
        placeId := next.placeId
        placeName := next.name },
      { status := .pending
        rawProviderStatus := ""
        errorMessage := "Place " ++ natText places.placeId ++ " had no gamepass (" ++ e.message
          ++ ") — retrying with place " ++ natText next.placeId ++ " ("
          ++ natText (places.attemptIndex + 2) ++ "/" ++ natText places.candidates.length ++ ")" })

/-- **`_send_order`** -/
def sendOrder (places : Places) (o : Order) : Answer → Except PyError (Places × Order)
  | .error _ => .ok (places, { o with
      status := .unknown
      errorMessage := "Unexpected error — status uncertain, will reconcile" })
  | .ok (.success body _) => do
    let o ← o.read .queued body
    return (places, { o with errorMessage := "" })
  | .ok (.failure e _) =>
    if isUncertainError e then
      .ok (places, { o with status := .unknown, errorMessage := "Uncertain: " ++ e.message })
    else
      let advanced :=
        if places.autoPlace && e.category = .notFound then advanceToNextPlace places e else none
      .ok (advanced.getD (places, { o with status := .error, errorMessage := e.message }))

/-- **`_check_order_status`** -/
def checkOrderStatus (o : Order) : Answer → Except PyError (Option Order)
  | .error _ => .ok none
  | .ok (.success body _) => do
    let read ← o.read o.status body
    return some { read with errorMessage := body.errorText }
  | .ok (.failure _ _) => .ok (some o)

/-- **`_reconcile_order`** -/
def reconcileOrder (o : Order) : Answer → Except PyError (Option Order)
  | .error _ => .ok none
  | .ok (.success body _) => do
    let read ← o.read .unknown body
    return some { read with errorMessage := body.errorText }
  | .ok (.failure e _) =>
    if isUncertainError e then .ok none
    else .ok (some { o with
      status := .error
      errorMessage := "Order not found at provider after network error" })

/-- **`refresh_order_status`**, up to the update of the batch. -/
def refreshOrderStatus (o : Order) : Answer → Except PyError (Option Order)
  | .error _ => .ok none
  | .ok (.success body _) => do
    let read ← o.read o.status body
    return some { read with errorMessage := body.errorText }
  | .ok (.failure e _) => .ok (some { o with errorMessage := e.message })

/-- **`cancel_order`**, up to the update of the batch. -/
def cancelOrder (o : Order) : Answer → Option Order
  | .ok (.success _ _) =>
    if o.status.isFinal then none else some { o with status := .cancelled, errorMessage := "" }
  | _ => none

end Sda.Robux
