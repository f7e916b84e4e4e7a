/-
Sda/Renewal/Payload.lean

The unchanged PUT of an Eldorado renewal (sync/services/eldorado/renewal_payload.py), made by the
editor's builder `build_eldorado_full_update_payload` (posting/services/offer_editor.py).

A snapshot is checked field by field; `publicChecks` lists the checks in the order of the source,
each with the reason of its refusal.  The payload is then built, converted for the wire and compared
with what was expected.  `ofInt` is `float` of an int, none beyond the range of a double.
-/
import Sda.Sdk.DeliveryDetails

namespace Sda.RenewalPayload

open DeliveryDetails
open Templates (Binary64 Python)

variable (py : Python) (shown : Json → Option (List Char)) (ofInt : Int → Option Binary64)

/-! ### The editor's builder -/

/-- The changes of an edit. -/
structure Changes where
  title : Option Json := none
  description : Option Json := none
  price : Option Json := none

/-- `float(value)`; none if it raises. -/
def floatOf : Json → Option Binary64
  | .bool b => ofInt b.toNat
  | .int n => ofInt n
  | .float x => some x
  | .str text => py.floatOf text
  | _ => none

/-- **`_editor_attribute`** -/
def editorAttribute (attr : Fields) : Json :=
  let value := attr.get "value"
  let id := attr.getOr "id" (.str [])
  if Json.eqv (attr.get "type") (.str "Numeric".toList) = true ∨ value.isNumber = true then
    .dict [("id", id), ("type", .str "Numeric".toList), ("value", value)]
  else
    .dict [("id", id), ("type", .str "Select".toList),
      ("value", match value with
        | .dict v => Fields.getOr v "id" (.str [])
        | value => value.orElse (.str []))]

/-- `str(trade_envs[0]['id'])`, or None. -/
def tradeEnvironmentId (raw : Fields) : Option Json :=
  match (raw.get "tradeEnvironmentValues").orElse (.list []) with
  | .list [] => some .null
  | .list (.dict env :: _) =>
    if (Fields.get env "id").isNull = true then some .null
    else (strOf py shown (Fields.get env "id")).map .str
  | _ => none

/-- The attributes of the offer. -/
def offerAttributes (raw : Fields) : Option (List Json) :=
  match (raw.get "attributes").orElse (.list []) with
  | .list attrs => attrs.mapM fun attr => attr.fields?.map editorAttribute
  | _ => none

/-- **`build_eldorado_full_update_payload`**; none if it raises. -/
def buildEldoradoFullUpdatePayload (raw : Fields) (accountSecretDetails : List (List Char))
    (changes : Changes) : Option Fields :=
  match ((raw.get "pricePerUnit").orElse (.dict [])).fields? with
  | none => none
  | some price =>
    match floatOf py ofInt (changes.price.getD (price.getOr "amount" (.int 0))),
        tradeEnvironmentId py shown raw, offerAttributes raw,
        strOf py shown (raw.getOr "gameId" (.str [])) with
    | some amount, some tradeEnvId, some attributes, some gameId =>
      some [
        ("details", .dict [
          ("pricing", .dict [
            ("quantity", if accountSecretDetails = [] then raw.getOr "quantity" (.int 1)
              else .int accountSecretDetails.length),
            ("minQuantity", raw.getOr "minQuantity" (.int 1)),
            ("pricePerUnit", .dict [("amount", .float amount),
              ("currency", price.getOr "currency" (.str "USD".toList))]),
            ("volumeDiscounts", (raw.get "volumeDiscounts").orElse (.list []))]),
          ("offerTitle", changes.title.getD (raw.getOr "offerTitle" (.str []))),
          ("description", changes.description.getD (raw.getOr "description" (.str []))),
          ("guaranteedDeliveryTime",
            raw.getOr "guaranteedDeliveryTime" (.str "Instant".toList)),
          ("hasOriginalEmail", (raw.get "hasOriginalEmail").orElse (.bool false)),
          ("mainOfferImage", (raw.get "mainOfferImage").orElse (.dict [])),
          ("offerImages", (raw.get "offerImages").orElse (.list []))]),
        ("augmentedGame", .dict [
          ("gameId", .str gameId),
          ("category", raw.getOr "category" (.str "Account".toList)),
          ("tradeEnvironmentId", tradeEnvId),
          ("offerAttributes", .list attributes),
          ("attributeIdsCsv", .null)]),
        ("accountSecretDetails", .list (accountSecretDetails.map .str))]
    | _, _, _, _ => none

/-! ### The snapshot -/

/-- The reasons of a refusal. -/
inductive Refusal
  | publicSnapshotInvalid
  | publicFieldsMissing
  | publicFieldsUnrepresentable
  | publicFieldsInvalid
  | deliveryDetailsUnreadable
  | deliveryQuantityMismatch
  | payloadNotFaithful
  deriving DecidableEq

/-- The text of the `ValueError`. -/
def Refusal.message : Refusal → String
  | .publicSnapshotInvalid => "renewal_public_snapshot_invalid"
  | .publicFieldsMissing => "renewal_public_fields_missing"
  | .publicFieldsUnrepresentable => "renewal_public_fields_unrepresentable"
  | .publicFieldsInvalid => "renewal_public_fields_invalid"
  | .deliveryDetailsUnreadable => "renewal_delivery_details_unreadable"
  | .deliveryQuantityMismatch => "renewal_delivery_quantity_mismatch"
  | .payloadNotFaithful => "renewal_payload_not_faithful"

/-- `_REQUIRED_PUBLIC_FIELDS` -/
def requiredPublicFields : List String :=
  ["gameId", "category", "offerTitle", "description", "guaranteedDeliveryTime", "quantity",
    "minQuantity", "pricePerUnit", "volumeDiscounts", "hasOriginalEmail", "mainOfferImage",
    "offerImages", "tradeEnvironmentValues", "attributes"]

/-- `_READ_ONLY_FIELDS` -/
def readOnlyFields : List String :=
  ["id", "userId", "gameCategoryTitle", "offerState", "expireDate", "offerVersion",
    "pricePerUnitWithDiscount", "pricePerUnitInUSD", "discountPercentage", "accountsDetails",
    "accountDeliveryDetails"]

/-- `_IMAGE_FIELDS` -/
def imageFields : List String := ["smallImage", "largeImage", "originalSizeImage"]

/-- `_nonblank` -/
def nonblank : Json → Bool
  | .str text => stripChars text != []
  | _ => false

/-- `_identifier` -/
def identifier : Json → Bool
  | .int n => 0 ≤ n
  | value => nonblank value

/-- `_image` -/
def image : Json → Bool
  | .dict d => d.isEmpty ||
      (Fields.within d imageFields && imageFields.all fun key =>
        Fields.has d key && (Fields.get d key).isStr)
  | _ => false

/-- A check, and the reason to refuse if it fails. -/
abbrev Check := Bool × Refusal

/-- The reason of the first check that fails. -/
def firstRefusal : List Check → Option Refusal
  | [] => none
  | (ok, reason) :: checks => if ok = true then firstRefusal checks else some reason

/-- `type(value) is int and value >= 1` -/
def positiveInt : Json → Bool
  | .int n => 1 ≤ n
  | _ => false

/-- A double above zero. -/
def positiveFloat : Binary64 → Bool
  | .finite false mantissa _ => mantissa != 0
  | _ => false

/-- `math.isfinite`, False where it overflows. -/
def isFinite : Json → Bool
  | .float (.finite _ _ _) => true
  | .int n => (ofInt n).isSome
  | _ => false

/-- The checks of the price. -/
def priceChecks (price : Json) : List Check :=
  let d := price.fields?.getD []
  let amount := Fields.get d "amount"
  [(price.fields?.isSome && Fields.has d "amount" && Fields.has d "currency",
      .publicFieldsMissing),
    (Fields.within d ["amount", "currency"], .publicFieldsUnrepresentable),
    (amount.isNumber && nonblank (Fields.get d "currency"), .publicFieldsInvalid),
    ((floatOf py ofInt amount).any fun x =>
      positiveFloat x && Json.eqv (.float x) amount, .publicFieldsInvalid)]

/-- The checks of the trade environments. -/
def tradeEnvironmentChecks (envs : Json) : List Check :=
  let env := (envs.items?.getD []).headD .null
  let d := env.fields?.getD []
  (envs.isNull || envs.items?.isSome, .publicFieldsInvalid) ::
    if envs.truthy = true then
      [((envs.items?.getD []).length == 1, .publicFieldsUnrepresentable),
        (env.fields?.isSome && identifier (Fields.get d "id"), .publicFieldsInvalid),
        (Fields.within d ["id", "name", "value"], .publicFieldsUnrepresentable)]
    else []

/-- The kind of an attribute: its type, or what its value shows. -/
def attributeKind (attr : Fields) : Json :=
  attr.getOr "type"
    (.str (if (attr.get "value").isNumber = true then "Numeric" else "Select").toList)

/-- The checks of the value of an attribute. -/
def attributeValueChecks (kind value : Json) : List Check :=
  if Json.eqv kind (.str "Numeric".toList) = true then
    [(value.isNumber, .publicFieldsInvalid), (isFinite ofInt value, .publicFieldsInvalid)]
  else
    match value with
    | .dict v =>
      [(identifier (Fields.get v "id"), .publicFieldsInvalid),
        (Fields.within v ["id", "name", "value"], .publicFieldsUnrepresentable)]
    | value => [(nonblank value, .publicFieldsInvalid)]

/-- The checks of an attribute. -/
def attributeChecks (attr : Json) : List Check :=
  let d := attr.fields?.getD []
  let value := Fields.get d "value"
  let kind := attributeKind d
  [(attr.fields?.isSome && Fields.has d "id" && Fields.has d "value" &&
      identifier (Fields.get d "id"), .publicFieldsInvalid),
    (Fields.within d ["id", "type", "value", "name"], .publicFieldsUnrepresentable),
    (Json.eqv kind (.str "Numeric".toList) ||
      (Json.eqv kind (.str "Select".toList) && !value.isNumber), .publicFieldsUnrepresentable)] ++
  attributeValueChecks ofInt kind value

/-- The checks of `_validated_public_snapshot`, in their order. -/
def publicChecks (live : Fields) : List Check :=
  [(requiredPublicFields.all live.has, .publicFieldsMissing),
    (live.within (requiredPublicFields ++ readOnlyFields ++ ["tags"]),
      .publicFieldsUnrepresentable),
    (nonblank (live.get "offerTitle") && nonblank (live.get "guaranteedDeliveryTime") &&
      nonblank (live.get "category") && identifier (live.get "gameId"), .publicFieldsInvalid),
    ((live.get "description").isNull || (live.get "description").isStr, .publicFieldsInvalid),
    (positiveInt (live.get "quantity") && positiveInt (live.get "minQuantity"),
      .publicFieldsInvalid)] ++
  priceChecks py ofInt (live.get "pricePerUnit") ++
  [(match live.get "hasOriginalEmail" with
      | .null => true
      | .bool _ => true
      | _ => false, .publicFieldsInvalid),
    ((live.get "mainOfferImage").isNull || image (live.get "mainOfferImage"),
      .publicFieldsInvalid),
    ((live.get "offerImages").isNull || (live.get "offerImages").items?.any fun images =>
      images.all fun i => image i && i.truthy, .publicFieldsInvalid),
    ((live.get "volumeDiscounts").isNull || (live.get "volumeDiscounts").items?.any fun items =>
      items.all fun item => item.fields?.isSome, .publicFieldsInvalid)] ++
  tradeEnvironmentChecks (live.get "tradeEnvironmentValues") ++
  [((live.get "attributes").isNull || (live.get "attributes").items?.isSome,
      .publicFieldsInvalid)] ++
  ((live.get "attributes").items?.getD []).flatMap (attributeChecks ofInt) ++
  [(!live.has "tags" || (live.get "tags").items?.any fun tags => tags.all Json.isStr,
      .publicFieldsInvalid)]

/-- **`_validated_public_snapshot`** -/
def validatedPublicSnapshot (live : Json) : Except Refusal Fields :=
  match live with
  | .dict live =>
    match firstRefusal (publicChecks py ofInt live) with
    | some reason => .error reason
    | none =>
      .ok (if (Fields.get live "description").isNull = true then
        Fields.set live "description" (.str []) else live)
  | _ => .error .publicSnapshotInvalid

/-! ### The payload -/

/-- An attribute as it is expected. -/
def expectedAttribute (attr : Json) : Json :=
  let d := attr.fields?.getD []
  .dict [("id", Fields.get d "id"), ("type", attributeKind d),
    ("value", match Fields.get d "value" with
      | .dict v => Fields.get v "id"
      | value => value)]

/-- `expected_details` -/
def expectedDetails (raw : Fields) : Json :=
  .dict ([
    ("pricing", .dict [
      ("quantity", raw.get "quantity"), ("minQuantity", raw.get "minQuantity"),
      ("pricePerUnit", raw.get "pricePerUnit"),
      ("volumeDiscounts", (raw.get "volumeDiscounts").orElse .null)]),
    ("offerTitle", raw.get "offerTitle"), ("description", raw.get "description"),
    ("guaranteedDeliveryTime", raw.get "guaranteedDeliveryTime"),
    ("hasOriginalEmail", (raw.get "hasOriginalEmail").orElse (.bool false)),
    ("mainOfferImage", (raw.get "mainOfferImage").orElse (.dict [])),
    ("offerImages", (raw.get "offerImages").orElse (.list []))] ++
    match raw.lookup "tags" with
    | some tags => [("tags", tags)]
    | none => [])

/-- `str(envs[0]['id']) if envs else None` -/
def expectedEnvironmentId (raw : Fields) : Option Json :=
  match (raw.get "tradeEnvironmentValues").items?.getD [] with
  | [] => some .null
  | env :: _ => (strOf py shown (Fields.get (env.fields?.getD []) "id")).map Json.str

/-- `expected_game`; none if an identifier has no text. -/
def expectedGame (raw : Fields) : Option Json :=
  match strOf py shown (raw.get "gameId"), expectedEnvironmentId py shown raw with
  | some gameId, some envId =>
    some (.dict [("gameId", .str gameId), ("category", raw.get "category"),
      ("tradeEnvironmentId", envId),
      ("offerAttributes",
        .list (((raw.get "attributes").items?.getD []).map expectedAttribute)),
      ("attributeIdsCsv", .null)])
  | _, _ => none

/-- What the `try` of `build_renewal_payload` makes; none if something in it raises. -/
def buildWire (raw : Fields) (delivery : List Json) : Option Json :=
  match buildEldoradoFullUpdatePayload py shown ofInt raw [] {} with
  | none => none
  | some payload =>
    let payload := payload.set "accountDeliveryDetails" (.list delivery)
    match raw.lookup "tags" with
    | none => toWirePayload py shown (.dict payload)
    | some tags =>
      match (payload.get "details").fields? with
      | none => none
      | some details =>
        toWirePayload py shown (.dict (payload.set "details" (.dict (details.set "tags" tags))))

/-- **`build_renewal_payload`** -/
def buildRenewalPayload (live : Json) (credentialsResponse : Option CredentialsResponse) :
    Except Refusal Fields :=
  match validatedPublicSnapshot py ofInt live with
  | .error reason => .error reason
  | .ok raw =>
    match preservedDeliveryDetails py credentialsResponse with
    | none => .error .deliveryDetailsUnreadable
    | some delivery =>
      if Json.eqv (.int delivery.length) (raw.get "quantity") = false then
        .error .deliveryQuantityMismatch
      else
        match buildWire py shown ofInt raw delivery, expectedGame py shown raw with
        | some (.dict wire), some game =>
          if Json.eqv (Fields.get wire "details") (expectedDetails raw) = true ∧
              Json.eqv (Fields.get wire "augmentedGame") game = true ∧
              Json.eqv (Fields.get wire "accountDeliveryDetails") (.list delivery) = true ∧
              Fields.has wire "accountSecretDetails" = false then
            .ok wire
          else .error .payloadNotFaithful
        | _, _ => .error .payloadNotFaithful

end Sda.RenewalPayload
