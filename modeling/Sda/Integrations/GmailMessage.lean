/-
Sda/Integrations/GmailMessage.lean

The signed messages of PlayerAuctions orders: what the receiver takes for a message
(`parse_payload`), the text that is signed (`canonical_payload_json`) and the checks of a request.

The tables of the interpreter, the reading of UUIDs and the hash are parameters: `Platform`.

Main result: `signed_text_exact` — the signed text of a request that passes the checks belongs to
one timestamp and one payload, however the payload's texts are chosen.
-/
import Sda.Lib.Codes
import Sda.Posting.TrackingCode
import Sda.Sdk.Json

namespace Sda.GmailEvents

open Posting.TrackingCode (Unicode alnum strip upper)

/-- What the interpreter brings: its tables, `str.isdigit`, `str.lower`, `uuid.UUID`, `str` of a
UUID, and `hmac.new(secret, message, sha256).hexdigest()`. -/
structure Platform where
  unicode : Unicode
  python : Templates.Python
  isDigit : Char → Bool
  lower : List Char → List Char
  uuid : List Char → Option Nat
  uuidText : Nat → List Char
  hmac : List Char → List Char → List Char
  /-- No sign of a point is a digit. -/
  point : python.digit '.' = none
  /-- The text of a UUID is one of its texts. -/
  uuid_uuidText : ∀ x n, uuid x = some n → uuid (uuidText n) = some n

/-- `observedAt` is an int, and `True` is one. -/
inductive Observed
  | int (n : Nat)
  | true
  deriving DecidableEq

def Observed.ms : Observed → Nat
  | .int n => n
  | .true => 1

/-- A message that `parse_payload` accepts; its source is always `SOURCE`. -/
structure Payload where
  eventId : List Char
  orderId : List Char
  code : List Char
  market : Option (List Char)
  automaticDelivery : Option Bool
  observedAt : Observed
  deriving DecidableEq

def source : List Char := "codetracker-pa-gmail".toList

def signatureVersion : List Char := "v1".toList

def maxAgeMs : Nat := 10 * 60 * 1000

/-- `_CODE_RE.fullmatch` -/
def isCode (x : List Char) : Bool :=
  match x with
  | '#' :: rest =>
    decide (6 ≤ rest.length) && decide (rest.length ≤ 8) &&
      rest.all fun c => c.isUpper || c.isDigit
  | _ => false

def fieldNames : List String :=
  ["eventId", "source", "orderId", "code", "market", "automaticDelivery", "observedAt"]

/-! ### `parse_payload` -/

section Parse

variable (pf : Platform)

/-- `str(value)`, where that may be a UUID. -/
def idText : Json → Option (List Char)
  | .str text => some text
  | .int n => some (Templates.signOf n ++ Templates.digitsOf n)
  | _ => none

/-- `str(value)`, where that may be a code. -/
def codeText : Json → List Char
  | .str text => text
  | _ => []

def parseEventId (v : Json) : Except String (List Char) :=
  match idText v with
  | none => .error "invalid event ID"
  | some text => if (pf.uuid text).isSome then .ok text else .error "invalid event ID"

def parseSource (v : Json) : Except String Unit :=
  match v with
  | .str text => if text = source then .ok () else .error "invalid event source"
  | _ => .error "invalid event source"

def parseOrderId (v : Json) : Except String (List Char) :=
  match v with
  | .str text =>
    if text ≠ [] ∧ text.all pf.isDigit ∧ text.length ≤ 128 then .ok text
    else .error "invalid order ID"
  | _ => .error "invalid order ID"

def parseCode (v : Json) : Except String (List Char) :=
  if isCode (upper pf.unicode (strip (codeText v))) then
    .ok (upper pf.unicode (strip (codeText v)))
  else .error "invalid tracking code"

def parseMarket (v : Json) : Except String (Option (List Char)) :=
  match v with
  | .null => .ok none
  | .str text => if text.length ≤ 160 then .ok (some (strip text)) else .error "invalid market"
  | _ => .error "invalid market"

def parseDelivery (v : Json) : Except String (Option Bool) :=
  match v with
  | .null => .ok none
  | .bool b => .ok (some b)
  | _ => .error "invalid delivery type"

def parseObserved (v : Json) : Except String Observed :=
  match v with
  | .int n => if 0 < n then .ok (.int n.toNat) else .error "invalid observed time"
  | .bool true => .ok .true
  | _ => .error "invalid observed time"

/-- **`parse_payload`**, of what the body decodes to, if it does. -/
def parsePayload (body : Option Json) : Except String Payload :=
  match body with
  | none => .error "invalid JSON body"
  | some (.dict d) => do
    if Fields.within d fieldNames = false ∨ fieldNames.all (Fields.has d) = false then
      .error "unexpected event fields"
    let eventId ← parseEventId pf (Fields.get d "eventId")
    parseSource (Fields.get d "source")
    let orderId ← parseOrderId pf (Fields.get d "orderId")
    let code ← parseCode pf (Fields.get d "code")
    let market ← parseMarket (Fields.get d "market")
    let automaticDelivery ← parseDelivery (Fields.get d "automaticDelivery")
    let observedAt ← parseObserved (Fields.get d "observedAt")
    return { eventId, orderId, code, market, automaticDelivery, observedAt }
  | some _ => .error "JSON object required"

end Parse

/-! ### The signed text -/

open JsonText

/-- A key of an object, with its colon. -/
def member (key : String) : List Char := quote key.toList ++ [':']

def observedText : Observed → List Char
  | .int n => number n
  | .true => ['t', 'r', 'u', 'e']

/-- **`canonical_payload_json`** -/
def canonicalPayloadJson (p : Payload) : List Char :=
  '{' :: (member "eventId" ++ quote p.eventId ++
    (',' :: member "source" ++ quote source ++
    (',' :: member "orderId" ++ quote p.orderId ++
    (',' :: member "code" ++ quote p.code ++
    (',' :: member "market" ++ optText p.market ++
    (',' :: member "automaticDelivery" ++ optBool p.automaticDelivery ++
    (',' :: member "observedAt" ++ observedText p.observedAt ++ ['}'])))))))

/-- What is signed. -/
def signedText (timestamp : List Char) (p : Payload) : List Char :=
  signatureVersion ++ '.' :: (timestamp ++ '.' :: canonicalPayloadJson p)

theorem observedText_injective {a b : Observed} (h : observedText a = observedText b) : a = b := by
  -- a number begins with a digit
  have hne : ∀ n, number n ≠ ['t', 'r', 'u', 'e'] := by
    intro n hn
    have hdigit : 't'.isDigit = true :=
      isDigit_of_mem_number (n := n) (by rw [hn]; exact List.mem_cons_self ..)
    exact absurd hdigit (by decide)
  cases a with
  | int m =>
    cases b with
    | int n => exact congrArg Observed.int (number_injective h)
    | true => exact absurd h (hne m)
  | true =>
    cases b with
    | int n => exact absurd h.symm (hne n)
    | true => rfl

/-- The canonical text says all of a payload. -/
theorem canonicalPayloadJson_injective {p q : Payload}
    (h : canonicalPayloadJson p = canonicalPayloadJson q) : p = q := by
  unfold canonicalPayloadJson at h
  simp only [List.append_assoc, List.cons_append, List.cons.injEq, true_and,
    List.append_cancel_left_eq] at h
  obtain ⟨hid, h⟩ := quote_unambiguous _ _ _ _ h
  simp only [List.cons.injEq, true_and, List.append_cancel_left_eq] at h
  obtain ⟨horder, h⟩ := quote_unambiguous _ _ _ _ h
  simp only [List.cons.injEq, true_and, List.append_cancel_left_eq] at h
  obtain ⟨hcode, h⟩ := quote_unambiguous _ _ _ _ h
  simp only [List.cons.injEq, true_and, List.append_cancel_left_eq] at h
  obtain ⟨hmarket, h⟩ := optText_unambiguous _ _ _ _ h
  simp only [List.cons.injEq, true_and, List.append_cancel_left_eq] at h
  obtain ⟨hdelivery, h⟩ := optBool_unambiguous _ _ _ _ h
  simp only [List.cons.injEq, true_and, List.append_cancel_left_eq] at h
  have hobserved : p.observedAt = q.observedAt :=
    observedText_injective (List.append_cancel_right h)
  cases p
  cases q
  simp only [Payload.mk.injEq]
  exact ⟨hid, horder, hcode, hmarket, hdelivery, hobserved⟩

/-! ### The checks of a request -/

/-- A request: its body decoded, its headers, and the time in milliseconds. -/
structure Request where
  body : Option Json
  eventIdHeader : List Char
  timestampHeader : List Char
  signatureHeader : List Char
  now : Int

def Request.timestamp (r : Request) : List Char := strip r.timestampHeader

inductive Rejection
  | badRequest (error : String)
  | unauthorized (error : String)
  | raised
  deriving DecidableEq

variable (pf : Platform) (secret : List Char)

/-- **`signature_is_valid`**; nothing if `compare_digest` raises, which compares ASCII only. -/
def signatureIsValid (p : Payload) (timestamp supplied : List Char) : Option Bool :=
  if secret = [] ∨ supplied = [] ∨ timestamp = [] then some false
  else if (pf.lower (strip supplied)).all (·.toNat < 128) = false then none
  else some (pf.hmac secret (signedText timestamp p) = pf.lower (strip supplied))

/-- The checks of `pa_gmail_order_event`, in their order. -/
def authenticate (r : Request) : Except Rejection Payload :=
  match parsePayload pf r.body with
  | .error error => .error (.badRequest error)
  | .ok p =>
    if strip r.eventIdHeader ≠ p.eventId then .error (.badRequest "event ID mismatch")
    else
      match Templates.intOf pf.python r.timestamp with
      | .error _ => .error (.badRequest "invalid event timestamp")
      | .ok timestamp =>
        if maxAgeMs < (r.now - timestamp).natAbs then
          .error (.unauthorized "stale event timestamp")
        else
          match signatureIsValid pf secret p r.timestamp (strip r.signatureHeader) with
          | none => .error .raised
          | some false => .error (.unauthorized "invalid signature")
          | some true => .ok p

/-- What a request that passes has shown. -/
structure Authentic (r : Request) (p : Payload) : Prop where
  parsed : parsePayload pf r.body = .ok p
  eventId : strip r.eventIdHeader = p.eventId
  fresh : ∃ timestamp, Templates.intOf pf.python r.timestamp = .ok timestamp ∧
    (r.now - timestamp).natAbs ≤ maxAgeMs
  secret_ne : secret ≠ []
  signed : pf.hmac secret (signedText r.timestamp p) = pf.lower (strip (strip r.signatureHeader))

variable {pf secret}

theorem authenticate_ok {r : Request} {p : Payload} (h : authenticate pf secret r = .ok p) :
    Authentic pf secret r p := by
  unfold authenticate at h
  cases hparse : parsePayload pf r.body with
  | error e =>
    rw [hparse] at h
    cases h
  | ok q =>
    simp only [hparse] at h
    split at h
    · cases h
    · next hid =>
      cases hint : Templates.intOf pf.python r.timestamp with
      | error e =>
        rw [hint] at h
        cases h
      | ok timestamp =>
        simp only [hint] at h
        split at h
        · cases h
        · next hage =>
          cases hsig : signatureIsValid pf secret q r.timestamp (strip r.signatureHeader) with
          | none =>
            rw [hsig] at h
            cases h
          | some b =>
            rw [hsig] at h
            cases b with
            | false => cases h
            | true =>
              cases h
              unfold signatureIsValid at hsig
              split at hsig
              · cases hsig
              · next hgiven =>
                split at hsig
                · cases hsig
                · exact ⟨hparse, not_not.mp hid, ⟨timestamp, hint, Nat.le_of_not_lt hage⟩,
                    fun hnil => hgiven (Or.inl hnil),
                    of_decide_eq_true (Option.some.inj hsig)⟩

/-! ### No point in a number -/

theorem mem_dropWhile {p : Char → Bool} {c : Char} {x : List Char} (hp : p c = false)
    (h : c ∈ x) : c ∈ x.dropWhile p := by
  rw [← List.takeWhile_append_dropWhile (p := p) (l := x)] at h
  rcases List.mem_append.mp h with htake | hdrop
  · rw [List.mem_takeWhile_imp htake] at hp
    cases hp
  · exact hdrop

theorem mem_rdropWhile {p : Char → Bool} {c : Char} {x : List Char} (hp : p c = false)
    (h : c ∈ x) : c ∈ x.rdropWhile p := by
  unfold List.rdropWhile
  exact List.mem_reverse.mpr (mem_dropWhile hp (List.mem_reverse.mpr h))

theorem mem_literalSign {c : Char} {x : List Char} (hminus : c ≠ '-') (hplus : c ≠ '+')
    (h : c ∈ x) : c ∈ (Templates.literalSign x).2 := by
  unfold Templates.literalSign
  split
  · exact List.mem_of_ne_of_mem hminus h
  · exact List.mem_of_ne_of_mem hplus h
  · exact h

theorem point_not_mem_literal {after : Bool} {x : List Char} {digits : List Nat}
    (h : Templates.literalDigits pf.python after x = some digits) : '.' ∉ x := by
  induction x generalizing after digits with
  | nil => exact List.not_mem_nil
  | cons c x ih =>
    unfold Templates.literalDigits at h
    intro hmem
    rcases List.mem_cons.mp hmem with hc | hx
    · subst hc
      rw [if_neg (by decide), pf.point] at h
      cases h
    · split at h
      · split at h
        · exact ih h hx
        · cases h
      · obtain ⟨d, -, hrest⟩ := Option.bind_eq_some_iff.mp h
        obtain ⟨ds, hds, -⟩ := Option.map_eq_some_iff.mp hrest
        exact ih hds hx

theorem point_not_mem_of_int {x : List Char} {n : Int}
    (h : Templates.intOf pf.python x = .ok n) : '.' ∉ x := by
  intro hmem
  have hspace : Templates.isIntSpace '.' = false := by decide
  have hliteral := mem_literalSign (by decide) (by decide)
    (mem_rdropWhile hspace (mem_dropWhile hspace hmem))
  unfold Templates.intOf at h
  cases hdigits : Templates.literalDigits pf.python false (Templates.literalSign
      ((x.dropWhile Templates.isIntSpace).rdropWhile Templates.isIntSpace)).2 with
  | none =>
    simp only [hdigits] at h
    cases h
  | some digits => exact point_not_mem_literal hdigits hliteral

/-- **The signature is of one message.**  A request that passes carries the hash of a text
from which its timestamp and its payload can be told: of two requests that pass, the texts are
the same only if the timestamps and the payloads are. -/
theorem signed_text_exact {r r' : Request} {p p' : Payload}
    (h : authenticate pf secret r = .ok p) (h' : authenticate pf secret r' = .ok p') :
    pf.hmac secret (signedText r.timestamp p) = pf.lower (strip (strip r.signatureHeader)) ∧
      (signedText r.timestamp p = signedText r'.timestamp p' →
        r.timestamp = r'.timestamp ∧ p = p') := by
  have hauth := authenticate_ok h
  have hauth' := authenticate_ok h'
  refine ⟨hauth.signed, fun heq => ?_⟩
  obtain ⟨n, hint, -⟩ := hauth.fresh
  obtain ⟨n', hint', -⟩ := hauth'.fresh
  have hbehind : r.timestamp ++ '.' :: canonicalPayloadJson p =
      r'.timestamp ++ '.' :: canonicalPayloadJson p' :=
    (List.cons.inj (List.append_cancel_left heq)).2
  obtain ⟨htime, hpayload⟩ :=
    stopped_inj (point_not_mem_of_int hint) (point_not_mem_of_int hint') hbehind
  exact ⟨htime, canonicalPayloadJson_injective hpayload⟩

/-- The tables of ASCII, and a hash that knows one message under the secret `s`. -/
def asciiPlatform : Platform where
  unicode := Posting.TrackingCode.asciiTable
  python :=
    { maxDigits := some 4300
      digit := fun c => if c.isDigit then some (c.toNat - 48) else none
      upper := fun x => x.map Char.toUpper
      lower := fun x => x.map Char.toLower
      quote := fun x => x
      floatOf := fun _ => none
      floatText := fun _ => []
      floatGrouped := fun _ => []
      maxDigits_ge := Templates.freshLimit_ge }
  isDigit := Char.isDigit
  lower x := x.map Char.toLower
  uuid x :=
    if x = "11111111-2222-3333-4444-555555555555".toList then
      some 0x11111111222233334444555555555555
    else none
  uuidText _ := "11111111-2222-3333-4444-555555555555".toList
  hmac _ _ := "372cce718fee6a39260761323638abd1205863c2882cb070f95d917b4c7f1139".toList
  point := rfl
  uuid_uuidText x n h := by
    split at h
    · exact h
    · cases h

/-- Order 7, sold with its delivery. -/
def order7 : Payload where
  eventId := "11111111-2222-3333-4444-555555555555".toList
  orderId := ['7']
  code := "#ABC123".toList
  market := none
  automaticDelivery := some true
  observedAt := .int 5

def request7 : Request where
  body := some (.dict [("eventId", .str order7.eventId), ("source", .str source),
    ("orderId", .str ['7']), ("code", .str "#abc123 ".toList), ("market", .null),
    ("automaticDelivery", .bool true), ("observedAt", .int 5)])
  eventIdHeader := order7.eventId
  timestampHeader := ['9']
  signatureHeader := "372cce718fee6a39260761323638abd1205863c2882cb070f95d917b4c7f1139".toList
  now := 10

theorem authentic7 : authenticate asciiPlatform ['s'] request7 = .ok order7 := by decide +kernel

theorem signed_text_exact_order7 : asciiPlatform.hmac ['s'] (signedText ['9'] order7) =
    "372cce718fee6a39260761323638abd1205863c2882cb070f95d917b4c7f1139".toList :=
  (signed_text_exact authentic7 authentic7).1

end Sda.GmailEvents
