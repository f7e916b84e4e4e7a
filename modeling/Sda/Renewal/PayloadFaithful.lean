/-
Sda/Renewal/PayloadFaithful.lean

The renewal payload carries the accepted snapshot.

What the checks of a snapshot establish is collected in `Accepted`.  From it the editor's attributes
are the expected ones (`editorAttribute_eq`), so is its trade environment, and the rest of the
payload differs from the expectation only in the price, where an int has become the double of the
same value.  So the comparison at the end of `build_renewal_payload` never refuses.  The one thing
that can go wrong is an identifier without a text: an int with more digits than the interpreter
writes.

Main results: `accepted_of_validated`; `buildWire_eq` — the payload; `renewal_payload_faithful`.
-/
import Sda.Renewal.Payload
import Sda.Templates.Soundness

namespace Sda.RenewalPayload

open DeliveryDetails
open Templates (Binary64 Python)

variable {py : Python} {shown : Json → Option (List Char)} {ofInt : Int → Option Binary64}

/-! ### What the checks establish -/

theorem firstRefusal_eq_none_iff {checks : List Check} :
    firstRefusal checks = none ↔ ∀ c ∈ checks, c.1 = true := by
  induction checks with
  | nil => exact iff_of_true rfl fun _ h => nomatch h
  | cons c checks ih =>
    obtain ⟨ok, reason⟩ := c
    unfold firstRefusal
    cases ok with
    | true => simp [ih]
    | false => simp

/-- **An accepted attribute.** -/
structure AcceptedAttribute (attr : Fields) : Prop where
  id : attr.has "id" = true
  kind : attributeKind attr = .str "Numeric".toList ∧ (attr.get "value").isNumber = true ∨
    attributeKind attr = .str "Select".toList ∧ (attr.get "value").isNumber = false
  select : attributeKind attr = .str "Select".toList →
    (∃ v, attr.get "value" = .dict v ∧ Fields.has v "id" = true) ∨
      ∃ text, attr.get "value" = .str text ∧ text ≠ []

/-- **An accepted snapshot**, as far as the payload depends on it. -/
structure Accepted (py : Python) (ofInt : Int → Option Binary64) (live : Fields) : Prop where
  required : ∀ key ∈ requiredPublicFields, live.has key = true
  description : live.get "description" = .null ∨ ∃ text, live.get "description" = .str text
  price : ∃ price amount, live.get "pricePerUnit" = .dict price ∧
    Fields.within price ["amount", "currency"] = true ∧ Fields.has price "amount" = true ∧
    Fields.has price "currency" = true ∧ floatOf py ofInt (Fields.get price "amount") = some amount ∧
    Json.eqv (.float amount) (Fields.get price "amount") = true
  discounts : live.get "volumeDiscounts" = .null ∨ ∃ items, live.get "volumeDiscounts" = .list items
  environments : (live.get "tradeEnvironmentValues").truthy = false ∨
    ∃ env, live.get "tradeEnvironmentValues" = .list [.dict env] ∧
      identifier (Fields.get env "id") = true
  environmentsList : live.get "tradeEnvironmentValues" = .null ∨
    ∃ envs, live.get "tradeEnvironmentValues" = .list envs
  attributesList : live.get "attributes" = .null ∨ ∃ attrs, live.get "attributes" = .list attrs
  attributes : ∀ attr ∈ (live.get "attributes").items?.getD [],
    ∃ d, attr = .dict d ∧ AcceptedAttribute d

variable {live raw : Fields}

theorem eq_str_of_eqv {a : Json} {text : List Char} (h : Json.eqv a (.str text) = true) :
    a = .str text := by
  cases a with
  | str text' =>
    have : text' = text := by simpa [Json.eqv, Json.same, Json.numberEq, Json.number] using h
    rw [this]
  | _ => simp [Json.eqv, Json.same, Json.numberEq, Json.number] at h

theorem has_of_get {d : Fields} {key : String} (h : d.get key ≠ .null) : d.has key = true := by
  unfold Fields.get at h
  unfold Fields.has
  cases hlookup : d.lookup key with
  | some v => rfl
  | none =>
    rw [hlookup] at h
    exact absurd rfl h

theorem getOr_of_has {d : Fields} {key : String} (h : d.has key = true) (default : Json) :
    d.getOr key default = d.get key := by
  unfold Fields.has at h
  unfold Fields.getOr Fields.get
  cases hlookup : d.lookup key with
  | some v => rfl
  | none =>
    rw [hlookup] at h
    cases h

theorem fields?_eq_some {a : Json} (h : a.fields?.isSome = true) :
    a = .dict (a.fields?.getD []) := by
  cases a with
  | dict d => rfl
  | _ => cases h

theorem list_of_items? {a : Json} (h : a.isNull = true ∨ a.items?.isSome = true) :
    a = .null ∨ ∃ items, a = .list items := by
  cases a with
  | null => exact Or.inl rfl
  | list items => exact Or.inr ⟨items, rfl⟩
  | _ => rcases h with h | h <;> cases h

theorem identifier_ne_null {a : Json} (h : identifier a = true) : a ≠ .null := by
  rintro rfl
  cases h

theorem accepted_attribute {attr : Json} (h : ∀ c ∈ attributeChecks ofInt attr, c.1 = true) :
    ∃ d, attr = .dict d ∧ AcceptedAttribute d := by
  unfold attributeChecks at h
  dsimp only at h
  simp only [List.forall_mem_append, List.forall_mem_cons, Bool.and_eq_true, Bool.or_eq_true,
    Bool.not_eq_true'] at h
  obtain ⟨⟨⟨⟨⟨hdict, hid⟩, -⟩, -⟩, -, hkind, -⟩, hvalues⟩ := h
  refine ⟨_, fields?_eq_some hdict, hid, ?_, ?_⟩
  · rcases hkind with hnumeric | ⟨hselect, hnumber⟩
    · refine Or.inl ⟨eq_str_of_eqv hnumeric, ?_⟩
      unfold attributeValueChecks at hvalues
      rw [if_pos hnumeric] at hvalues
      exact (List.forall_mem_cons.mp hvalues).1
    · exact Or.inr ⟨eq_str_of_eqv hselect, hnumber⟩
  · intro hselect
    unfold attributeValueChecks at hvalues
    rw [hselect, if_neg (by decide +kernel)] at hvalues
    cases hvalue : Fields.get (attr.fields?.getD []) "value" with
    | dict v =>
      rw [hvalue] at hvalues
      have hidentifier := (List.forall_mem_cons.mp hvalues).1
      exact Or.inl ⟨v, rfl, has_of_get (identifier_ne_null hidentifier)⟩
    | str text =>
      rw [hvalue] at hvalues
      have hnonblank : (stripChars text != []) = true := (List.forall_mem_cons.mp hvalues).1
      refine Or.inr ⟨text, rfl, ?_⟩
      rintro rfl
      cases hnonblank
    | null | bool b | int n | float x | list items =>
      rw [hvalue] at hvalues
      cases (List.forall_mem_cons.mp hvalues).1

/-- **What an accepted snapshot is.** -/
theorem accepted_of_validated (h : validatedPublicSnapshot py ofInt (.dict live) = .ok raw) :
    Accepted py ofInt live ∧ raw = if (live.get "description").isNull = true then
      live.set "description" (.str []) else live := by
  unfold validatedPublicSnapshot at h
  dsimp only at h
  split at h
  · cases h
  · next hchecks =>
    refine ⟨?_, (Except.ok.inj h).symm⟩
    have hall := firstRefusal_eq_none_iff.mp hchecks
    unfold publicChecks priceChecks tradeEnvironmentChecks at hall
    dsimp only at hall
    simp only [List.forall_mem_append, List.forall_mem_cons, Bool.and_eq_true, Bool.or_eq_true]
      at hall
    obtain ⟨⟨⟨⟨⟨⟨⟨hrequired, -, -, hdescription, -⟩, ⟨⟨hprice, hhasAmount⟩, hhasCurrency⟩, hpriceKeys, -, hamount, -⟩,
      -, -, -, hdiscounts, -⟩, henvList, henv⟩, hattrList, -⟩, hattrs⟩, -⟩ := hall
    constructor
    case required => exact List.all_eq_true.mp hrequired
    case description =>
      cases hvalue : live.get "description" with
      | null => exact Or.inl rfl
      | str text => exact Or.inr ⟨text, rfl⟩
      | bool b | int n | float x | list items | dict d =>
        rw [hvalue] at hdescription
        rcases hdescription with h | h <;> cases h
    case price =>
      cases hfloat : floatOf py ofInt
          (Fields.get ((live.get "pricePerUnit").fields?.getD []) "amount") with
      | none =>
        rw [hfloat] at hamount
        cases hamount
      | some amount =>
        rw [hfloat] at hamount
        refine ⟨_, amount, fields?_eq_some hprice, hpriceKeys, hhasAmount, hhasCurrency, hfloat, ?_⟩
        exact (Bool.and_eq_true_iff.mp hamount).2
    case discounts =>
      apply list_of_items?
      apply hdiscounts.imp_right
      intro hitems
      cases hlist : (live.get "volumeDiscounts").items? with
      | none =>
        rw [hlist] at hitems
        cases hitems
      | some items => rfl
    case environmentsList => exact list_of_items? henvList
    case environments =>
      cases htruthy : (live.get "tradeEnvironmentValues").truthy with
      | false => exact Or.inl rfl
      | true =>
        rw [if_pos htruthy] at henv
        simp only [List.forall_mem_cons, Bool.and_eq_true, beq_iff_eq] at henv
        obtain ⟨hone, ⟨henvDict, hidentifier⟩, -⟩ := henv
        rcases list_of_items? henvList with hnull | ⟨envs, henvs⟩
        · rw [hnull] at htruthy
          cases htruthy
        · rw [henvs] at hone henvDict hidentifier
          obtain ⟨env, rfl⟩ := List.length_eq_one_iff.mp hone
          refine Or.inr ⟨env.fields?.getD [], ?_, hidentifier⟩
          rw [henvs]
          exact congrArg (fun e => Json.list [e]) (fields?_eq_some henvDict)
    case attributesList => exact list_of_items? hattrList
    case attributes =>
      intro attr hattr
      apply accepted_attribute
      exact fun c hc => hattrs c (List.mem_flatMap.mpr ⟨attr, hattr, hc⟩)

/-- A new description leaves the rest as it was. -/
theorem Accepted.set_description (h : Accepted py ofInt live) (text : List Char) :
    Accepted py ofInt (live.set "description" (.str text)) := by
  have hget : ∀ key ≠ "description",
      (live.set "description" (.str text)).get key = live.get key := by
    intro key hkey
    rw [Fields.get_set, if_neg hkey]
  constructor
  case required =>
    intro key hkey
    unfold Fields.has
    rw [Fields.lookup_set]
    split
    · rfl
    · exact h.required key hkey
  case description => exact Or.inr ⟨text, by rw [Fields.get_set, if_pos rfl]⟩
  case price =>
    rw [hget _ (by decide)]
    exact h.price
  case discounts =>
    rw [hget _ (by decide)]
    exact h.discounts
  case environments =>
    rw [hget _ (by decide)]
    exact h.environments
  case environmentsList =>
    rw [hget _ (by decide)]
    exact h.environmentsList
  case attributesList =>
    rw [hget _ (by decide)]
    exact h.attributesList
  case attributes =>
    rw [hget _ (by decide)]
    exact h.attributes

/-! ### The parts of the payload -/

/-- **An attribute** is sent as it is expected. -/
theorem editorAttribute_eq {attr : Fields} (h : AcceptedAttribute attr) :
    editorAttribute attr = expectedAttribute (.dict attr) := by
  have hid := getOr_of_has h.id (.str [])
  unfold editorAttribute expectedAttribute
  dsimp only
  have hfields : (Json.dict attr).fields?.getD [] = attr := rfl
  rw [hfields, hid]
  rcases h.kind with ⟨hkind, hnumber⟩ | ⟨hkind, hnumber⟩
  · rw [if_pos (Or.inr hnumber), hkind]
    cases hvalue : attr.get "value" with
    | dict v =>
      rw [hvalue] at hnumber
      cases hnumber
    | _ => rfl
  · -- the type is not Numeric, whether it is there or not
    have htype : ¬Json.eqv (attr.get "type") (.str "Numeric".toList) = true := by
      intro hnumeric
      have heq := eq_str_of_eqv hnumeric
      have hhas : attr.has "type" = true := has_of_get (by rw [heq]; nofun)
      unfold attributeKind at hkind
      rw [getOr_of_has hhas, heq] at hkind
      exact absurd (Json.str.inj hkind) (by decide)
    rw [if_neg (by rintro (h | h); exacts [htype h, by rw [hnumber] at h; cases h]), hkind]
    rcases h.select hkind with ⟨v, hvalue, hv⟩ | ⟨text, hvalue, htext⟩
    · rw [hvalue]
      dsimp only
      rw [getOr_of_has hv]
    · have htruthy : (Json.str text).truthy = true := by simpa [Json.truthy] using htext
      rw [hvalue]
      dsimp only
      unfold Json.orElse
      rw [if_pos htruthy]

theorem orElse_list (items : List Json) : (Json.list items).orElse (.list []) = .list items := by
  cases items with
  | nil => rfl
  | cons item items => rfl

theorem mapM_eq_some_map {α β : Type} {f : α → Option β} {g : α → β} {xs : List α}
    (h : ∀ x ∈ xs, f x = some (g x)) : xs.mapM f = some (xs.map g) := by
  induction xs with
  | nil => rfl
  | cons x xs ih =>
    rw [List.mapM_cons, h x List.mem_cons_self, ih fun y hy => h y (List.mem_cons_of_mem x hy)]
    rfl

theorem offerAttributes_eq (h : Accepted py ofInt raw) :
    offerAttributes raw = some (((raw.get "attributes").items?.getD []).map expectedAttribute) := by
  have hattributes := h.attributes
  unfold offerAttributes
  rcases h.attributesList with hnull | ⟨attrs, hattrs⟩
  · rw [hnull]
    rfl
  · rw [hattrs] at hattributes ⊢
    rw [orElse_list]
    apply mapM_eq_some_map
    intro attr hattr
    obtain ⟨d, rfl, hd⟩ := hattributes attr hattr
    exact congrArg some (editorAttribute_eq hd)

theorem tradeEnvironmentId_eq (h : Accepted py ofInt raw) :
    tradeEnvironmentId py shown raw = expectedEnvironmentId py shown raw := by
  unfold tradeEnvironmentId expectedEnvironmentId
  rcases h.environments with hfalsy | ⟨env, henv, hid⟩
  · rcases h.environmentsList with hnull | ⟨envs, henvs⟩
    · rw [hnull]
      rfl
    · rw [henvs] at hfalsy ⊢
      obtain rfl : envs = [] := by simpa [Json.truthy] using hfalsy
      rfl
  · have hnull : (Fields.get env "id").isNull = false := by
      cases hvalue : Fields.get env "id" with
      | null => exact absurd hvalue (identifier_ne_null hid)
      | _ => rfl
    rw [henv, orElse_list]
    dsimp only
    rw [if_neg (by rw [hnull]; exact Bool.false_ne_true)]
    rfl

/-- The details of a payload with this price and these discounts. -/
def detailsWith (raw : Fields) (price discounts : Json) : Fields :=
  [("pricing", .dict [("quantity", raw.get "quantity"), ("minQuantity", raw.get "minQuantity"),
      ("pricePerUnit", price), ("volumeDiscounts", discounts)]),
    ("offerTitle", raw.get "offerTitle"), ("description", raw.get "description"),
    ("guaranteedDeliveryTime", raw.get "guaranteedDeliveryTime"),
    ("hasOriginalEmail", (raw.get "hasOriginalEmail").orElse (.bool false)),
    ("mainOfferImage", (raw.get "mainOfferImage").orElse (.dict [])),
    ("offerImages", (raw.get "offerImages").orElse (.list []))]

/-- The tags of a snapshot, if it has any. -/
def tagsOf (raw : Fields) : Fields :=
  match raw.lookup "tags" with
  | some tags => [("tags", tags)]
  | none => []

/-- **What the builder makes** of an accepted snapshot with printable identifiers. -/
theorem buildEldoradoFullUpdatePayload_eq (h : Accepted py ofInt raw) {price : Fields}
    {amount : Binary64} (hprice : raw.get "pricePerUnit" = .dict price)
    (hamountHas : Fields.has price "amount" = true)
    (hcurrency : Fields.has price "currency" = true)
    (hamount : floatOf py ofInt (Fields.get price "amount") = some amount) :
    buildEldoradoFullUpdatePayload py shown ofInt raw [] {} =
      (expectedGame py shown raw).map fun game =>
        [("details", .dict (detailsWith raw
            (.dict [("amount", .float amount), ("currency", Fields.get price "currency")])
            ((raw.get "volumeDiscounts").orElse (.list [])))),
          ("augmentedGame", game), ("accountSecretDetails", .list [])] := by
  have hrequired : ∀ key ∈ requiredPublicFields, ∀ default,
      raw.getOr key default = raw.get key :=
    fun key hkey default => getOr_of_has (h.required key hkey) default
  have hprice' : ((raw.get "pricePerUnit").orElse (.dict [])).fields? = some price := by
    rw [hprice]
    cases price with
    | nil => cases hamountHas
    | cons kv price => rfl
  unfold buildEldoradoFullUpdatePayload expectedGame detailsWith
  rw [hprice']
  dsimp only
  rw [show Option.getD none (Fields.getOr price "amount" (.int 0)) = Fields.get price "amount" from
    getOr_of_has hamountHas _, hamount, tradeEnvironmentId_eq h, offerAttributes_eq h,
    hrequired "gameId" (by decide), hrequired "quantity" (by decide),
    hrequired "minQuantity" (by decide), hrequired "offerTitle" (by decide),
    hrequired "description" (by decide), hrequired "guaranteedDeliveryTime" (by decide),
    hrequired "category" (by decide), getOr_of_has hcurrency]
  cases expectedEnvironmentId py shown raw with
  | none => cases strOf py shown (raw.get "gameId") <;> rfl
  | some envId => cases strOf py shown (raw.get "gameId") <;> rfl

/-! ### The wire -/

/-- The wire has null for no discounts. -/
theorem nullDiscounts_eq (h : Accepted py ofInt raw) (price game delivery : Json) :
    nullDiscounts [("details", .dict (detailsWith raw price
        ((raw.get "volumeDiscounts").orElse (.list [])) ++ tagsOf raw)),
        ("augmentedGame", game), ("accountSecretDetails", .list []),
        ("accountDeliveryDetails", delivery)] =
      [("details", .dict (detailsWith raw price ((raw.get "volumeDiscounts").orElse .null) ++
        tagsOf raw)), ("augmentedGame", game), ("accountSecretDetails", .list []),
        ("accountDeliveryDetails", delivery)] := by
  unfold tagsOf
  rcases h.discounts with hnull | ⟨items, hitems⟩
  · rw [hnull]
    cases raw.lookup "tags" with
    | none => rfl
    | some tags => rfl
  · rw [hitems]
    cases items with
    | nil =>
      cases raw.lookup "tags" with
      | none => rfl
      | some tags => rfl
    | cons item items =>
      cases raw.lookup "tags" with
      | none => rfl
      | some tags => rfl

/-- **The wire** of an accepted snapshot. -/
theorem buildWire_eq (h : Accepted py ofInt raw) {price : Fields} {amount : Binary64}
    (hprice : raw.get "pricePerUnit" = .dict price)
    (hamountHas : Fields.has price "amount" = true)
    (hcurrency : Fields.has price "currency" = true)
    (hamount : floatOf py ofInt (Fields.get price "amount") = some amount)
    (delivery : List Json) :
    buildWire py shown ofInt raw delivery = (expectedGame py shown raw).map fun game =>
      .dict [("details", .dict (detailsWith raw
          (.dict [("amount", .float amount), ("currency", Fields.get price "currency")])
          ((raw.get "volumeDiscounts").orElse .null) ++ tagsOf raw)),
        ("augmentedGame", game), ("accountDeliveryDetails", .list delivery)] := by
  unfold buildWire
  rw [buildEldoradoFullUpdatePayload_eq h hprice hamountHas hcurrency hamount]
  cases expectedGame py shown raw with
  | none => rfl
  | some game =>
    have hnull := nullDiscounts_eq h (.dict [("amount", .float amount),
      ("currency", Fields.get price "currency")]) game (.list delivery)
    have hwire : ∀ payload, nullDiscounts payload = [("details", .dict (detailsWith raw
          (.dict [("amount", .float amount), ("currency", Fields.get price "currency")])
          ((raw.get "volumeDiscounts").orElse .null) ++ tagsOf raw)),
          ("augmentedGame", game), ("accountSecretDetails", .list []),
          ("accountDeliveryDetails", .list delivery)] →
        toWirePayload py shown (.dict payload) = some (.dict [("details", .dict (detailsWith raw
          (.dict [("amount", .float amount), ("currency", Fields.get price "currency")])
          ((raw.get "volumeDiscounts").orElse .null) ++ tagsOf raw)),
          ("augmentedGame", game), ("accountDeliveryDetails", .list delivery)]) := by
      intro payload hpayload
      rw [toWirePayload_of_details (by rw [hpayload]; rfl) (by rw [hpayload]; rfl), hpayload]
      rfl
    cases htags : raw.lookup "tags" with
    | none =>
      apply hwire
      rw [← hnull]
      unfold tagsOf
      rw [htags]
      rfl
    | some tags =>
      apply hwire
      rw [← hnull]
      unfold tagsOf
      rw [htags]
      rfl

/-! ### The comparison -/

/-- The price is the same one, as a double. -/
theorem price_eqv {price : Fields} {amount : Binary64}
    (hwithin : Fields.within price ["amount", "currency"] = true)
    (hamountHas : Fields.has price "amount" = true)
    (hcurrency : Fields.has price "currency" = true)
    (hamount : Json.eqv (.float amount) (Fields.get price "amount") = true) :
    Json.eqv (.dict [("amount", .float amount), ("currency", Fields.get price "currency")])
      (.dict price) = true := by
  have hlookup : ∀ key, Fields.has price key = true →
      price.lookup key = some (Fields.get price key) := by
    intro key hkey
    unfold Fields.has at hkey
    unfold Fields.get
    cases hvalue : price.lookup key with
    | some v => rfl
    | none =>
      rw [hvalue] at hkey
      cases hkey
  apply Json.eqv_dict
  · apply Json.eqvFields_cons (hlookup "amount" hamountHas) hamount
    apply Json.eqvFields_cons (hlookup "currency" hcurrency) (Json.eqv_self _)
    exact Json.eqvFields_nil price
  · exact hwithin

/-- **The details** are the expected ones. -/
theorem details_eqv {price : Json} (hprice : Json.eqv price (raw.get "pricePerUnit") = true) :
    Json.eqv (.dict (detailsWith raw price ((raw.get "volumeDiscounts").orElse .null) ++
      tagsOf raw)) (expectedDetails raw) = true := by
  have hpricing : Json.eqv
      (.dict [("quantity", raw.get "quantity"), ("minQuantity", raw.get "minQuantity"),
        ("pricePerUnit", price), ("volumeDiscounts", (raw.get "volumeDiscounts").orElse .null)])
      (.dict [("quantity", raw.get "quantity"), ("minQuantity", raw.get "minQuantity"),
        ("pricePerUnit", raw.get "pricePerUnit"),
        ("volumeDiscounts", (raw.get "volumeDiscounts").orElse .null)]) = true := by
    apply Json.eqv_dict
    · apply Json.eqvFields_cons rfl (Json.eqv_self _)
      apply Json.eqvFields_cons rfl (Json.eqv_self _)
      apply Json.eqvFields_cons rfl hprice
      apply Json.eqvFields_cons rfl (Json.eqv_self _)
      exact Json.eqvFields_nil _
    · rfl
  unfold expectedDetails tagsOf
  apply Json.eqv_dict
  · apply Json.eqvFields_cons rfl hpricing
    apply Json.eqvFields_cons rfl (Json.eqv_self _)
    apply Json.eqvFields_cons rfl (Json.eqv_self _)
    apply Json.eqvFields_cons rfl (Json.eqv_self _)
    apply Json.eqvFields_cons rfl (Json.eqv_self _)
    apply Json.eqvFields_cons rfl (Json.eqv_self _)
    apply Json.eqvFields_cons rfl (Json.eqv_self _)
    cases raw.lookup "tags" with
    | none => exact Json.eqvFields_nil _
    | some tags =>
      apply Json.eqvFields_cons rfl (Json.eqv_self _)
      exact Json.eqvFields_nil _
  · cases raw.lookup "tags" with
    | none => rfl
    | some tags => rfl

/-- **What `build_renewal_payload` returns** for an accepted snapshot and a readable list of the
right length. -/
theorem buildRenewalPayload_eq (shown : Json → Option (List Char)) {live : Json}
    {response : Option CredentialsResponse} {delivery : List Json} (hlive : validatedPublicSnapshot py ofInt live = .ok raw)
    (hraw : Accepted py ofInt raw) (hdelivery : preservedDeliveryDetails py response = some delivery)
    (hcount : raw.get "quantity" = .int delivery.length) :
    ∃ price, Json.eqv price (raw.get "pricePerUnit") = true ∧
      buildRenewalPayload py shown ofInt live response =
        match expectedGame py shown raw with
        | some game => .ok [("details", .dict (detailsWith raw price
              ((raw.get "volumeDiscounts").orElse .null) ++ tagsOf raw)),
            ("augmentedGame", game), ("accountDeliveryDetails", .list delivery)]
        | none => .error .payloadNotFaithful := by
  obtain ⟨price, amount, hprice, hwithin, hamountHas, hcurrency, hfloat, hamount⟩ := hraw.price
  have hsame := price_eqv hwithin hamountHas hcurrency hamount
  rw [← hprice] at hsame
  refine ⟨_, hsame, ?_⟩
  unfold buildRenewalPayload
  rw [hlive]
  dsimp only
  rw [hdelivery]
  dsimp only
  rw [hcount, if_neg (by rw [Json.eqv_self]; exact Bool.noConfusion),
    buildWire_eq hraw hprice hamountHas hcurrency hfloat]
  cases hgame : expectedGame py shown raw with
  | none => rfl
  | some game =>
    dsimp only [Option.map_some]
    rw [if_pos]
    exact ⟨details_eqv hsame, Json.eqv_self _, Json.eqv_self _, rfl⟩

/-! ### The public fields -/

/-- The identifiers that are sent as texts have one. -/
def Printable (py : Python) (shown : Json → Option (List Char)) (live : Fields) : Prop :=
  (strOf py shown (live.get "gameId")).isSome = true ∧
    ∀ env ∈ (live.get "tradeEnvironmentValues").items?.getD [],
      (strOf py shown (env.at_ ["id"])).isSome = true

/-- An attribute as it is sent: its identifier, its kind, and its value, of a selected one the
identifier. -/
structure SameAttribute (attr sent : Json) : Prop where
  id : sent.at_ ["id"] = attr.at_ ["id"]
  type : sent.at_ ["type"] = attributeKind (attr.fields?.getD [])
  value : sent.at_ ["value"] = match attr.at_ ["value"] with
    | .dict v => Fields.get v "id"
    | value => value

/-- **The public fields of a snapshot in a payload**: each as it is, null content in its canonical
empty form, and the identifiers of the game and of the environment as texts. -/
structure Carried (py : Python) (shown : Json → Option (List Char)) (live payload : Fields) :
    Prop where
  offerTitle : (Json.dict payload).at_ ["details", "offerTitle"] = live.get "offerTitle"
  description : (Json.dict payload).at_ ["details", "description"] =
    (live.get "description").orElse (.str [])
  guaranteedDeliveryTime : (Json.dict payload).at_ ["details", "guaranteedDeliveryTime"] =
    live.get "guaranteedDeliveryTime"
  hasOriginalEmail : (Json.dict payload).at_ ["details", "hasOriginalEmail"] =
    (live.get "hasOriginalEmail").orElse (.bool false)
  mainOfferImage : (Json.dict payload).at_ ["details", "mainOfferImage"] =
    (live.get "mainOfferImage").orElse (.dict [])
  offerImages : (Json.dict payload).at_ ["details", "offerImages"] =
    (live.get "offerImages").orElse (.list [])
  tags : ((payload.get "details").fields?.bind fun d => d.lookup "tags") = live.lookup "tags"
  quantity : (Json.dict payload).at_ ["details", "pricing", "quantity"] = live.get "quantity"
  minQuantity : (Json.dict payload).at_ ["details", "pricing", "minQuantity"] =
    live.get "minQuantity"
  pricePerUnit : Json.eqv ((Json.dict payload).at_ ["details", "pricing", "pricePerUnit"])
    (live.get "pricePerUnit") = true
  volumeDiscounts : (Json.dict payload).at_ ["details", "pricing", "volumeDiscounts"] =
    (live.get "volumeDiscounts").orElse .null
  gameId : ∃ text, strOf py shown (live.get "gameId") = some text ∧
    (Json.dict payload).at_ ["augmentedGame", "gameId"] = .str text
  category : (Json.dict payload).at_ ["augmentedGame", "category"] = live.get "category"
  tradeEnvironment : match (live.get "tradeEnvironmentValues").items?.getD [] with
    | [] => (Json.dict payload).at_ ["augmentedGame", "tradeEnvironmentId"] = .null
    | env :: _ => ∃ text, strOf py shown (env.at_ ["id"]) = some text ∧
        (Json.dict payload).at_ ["augmentedGame", "tradeEnvironmentId"] = .str text
  attributes : ∃ sent, (Json.dict payload).at_ ["augmentedGame", "offerAttributes"] = .list sent ∧
    List.Forall₂ SameAttribute ((live.get "attributes").items?.getD []) sent

theorem at_id (a : Json) : a.at_ ["id"] = Fields.get (a.fields?.getD []) "id" := by
  cases a <;> rfl

theorem at_value (a : Json) : a.at_ ["value"] = Fields.get (a.fields?.getD []) "value" := by
  cases a <;> rfl

theorem sameAttribute_expected (attr : Json) : SameAttribute attr (expectedAttribute attr) where
  id := (at_id attr).symm
  type := rfl
  value := by
    rw [at_value attr]
    rfl

/-- The game of a snapshot with printable identifiers. -/
theorem expectedGame_isSome_iff (h : Accepted py ofInt raw) :
    (expectedGame py shown raw).isSome = true ↔ Printable py shown raw := by
  have hone : (expectedEnvironmentId py shown raw).isSome = true ↔
      ∀ env ∈ (raw.get "tradeEnvironmentValues").items?.getD [],
        (strOf py shown (env.at_ ["id"])).isSome = true := by
    unfold expectedEnvironmentId
    rcases h.environments with hfalsy | ⟨env, henv, -⟩
    · rcases h.environmentsList with hnull | ⟨envs, henvs⟩
      · rw [hnull]
        simp [Json.items?]
      · rw [henvs] at hfalsy ⊢
        obtain rfl : envs = [] := by simpa [Json.truthy] using hfalsy
        simp [Json.items?]
    · rw [henv]
      show ((strOf py shown (Fields.get env "id")).map Json.str).isSome = true ↔
        ∀ e ∈ [Json.dict env], (strOf py shown (e.at_ ["id"])).isSome = true
      rw [List.forall_mem_singleton, Option.isSome_map]
      rfl
  unfold Printable
  rw [← hone]
  unfold expectedGame
  cases strOf py shown (raw.get "gameId") with
  | none => simp
  | some gameId =>
    cases expectedEnvironmentId py shown raw with
    | none => simp
    | some envId => simp

theorem printable_set_description (text : List Char) :
    Printable py shown (live.set "description" (.str text)) ↔ Printable py shown live := by
  unfold Printable
  rw [Fields.get_set, Fields.get_set, if_neg (by decide), if_neg (by decide)]

/-- **The payload of an accepted snapshot** carries its public fields. -/
theorem carried_of_game (hlive : raw = live ∧ live.get "description" ≠ .null ∨
      raw = live.set "description" (.str []) ∧ live.get "description" = .null) (hraw : Accepted py ofInt raw) {price game : Json}
    (hprice : Json.eqv price (raw.get "pricePerUnit") = true)
    (hgame : expectedGame py shown raw = some game) (delivery : List Json) :
    Carried py shown live [("details", .dict (detailsWith raw price
      ((raw.get "volumeDiscounts").orElse .null) ++ tagsOf raw)), ("augmentedGame", game),
      ("accountDeliveryDetails", .list delivery)] := by
  have hlookup : ∀ key ≠ "description", raw.lookup key = live.lookup key := by
    intro key hkey
    rcases hlive with ⟨rfl, -⟩ | ⟨rfl, -⟩
    · rfl
    · rw [Fields.lookup_set, if_neg hkey]
  have hget : ∀ key ≠ "description", raw.get key = live.get key :=
    fun key hkey => congrArg (Option.getD · Json.null) (hlookup key hkey)
  have hdescription : raw.get "description" = (live.get "description").orElse (.str []) := by
    rcases hlive with ⟨rfl, hnull⟩ | ⟨rfl, hnull⟩
    · obtain ⟨text, htext⟩ := hraw.description.resolve_left hnull
      rw [htext]
      cases text <;> rfl
    · rw [hnull, Fields.get_set, if_pos rfl]
      rfl
  unfold expectedGame at hgame
  cases hgameId : strOf py shown (raw.get "gameId") with
  | none =>
    rw [hgameId] at hgame
    cases hgame
  | some gameId =>
    cases henvId : expectedEnvironmentId py shown raw with
    | none =>
      rw [hgameId, henvId] at hgame
      cases hgame
    | some envId =>
      rw [hgameId, henvId] at hgame
      cases hgame
      constructor
      case offerTitle => exact hget "offerTitle" (by decide)
      case description => exact hdescription
      case guaranteedDeliveryTime => exact hget "guaranteedDeliveryTime" (by decide)
      case hasOriginalEmail =>
        exact congrArg (Json.orElse · _) (hget "hasOriginalEmail" (by decide))
      case mainOfferImage => exact congrArg (Json.orElse · _) (hget "mainOfferImage" (by decide))
      case offerImages => exact congrArg (Json.orElse · _) (hget "offerImages" (by decide))
      case tags =>
        rw [← hlookup "tags" (by decide)]
        unfold tagsOf
        cases raw.lookup "tags" with
        | none => rfl
        | some tags => rfl
      case quantity => exact hget "quantity" (by decide)
      case minQuantity => exact hget "minQuantity" (by decide)
      case pricePerUnit =>
        rw [← hget "pricePerUnit" (by decide)]
        exact hprice
      case volumeDiscounts =>
        exact congrArg (Json.orElse · _) (hget "volumeDiscounts" (by decide))
      case gameId =>
        rw [← hget "gameId" (by decide)]
        exact ⟨gameId, hgameId, rfl⟩
      case category => exact hget "category" (by decide)
      case tradeEnvironment =>
        rw [← hget "tradeEnvironmentValues" (by decide)]
        unfold expectedEnvironmentId at henvId
        cases henvs : (raw.get "tradeEnvironmentValues").items?.getD [] with
        | nil =>
          rw [henvs] at henvId
          exact (Option.some.inj henvId).symm
        | cons env envs =>
          rw [henvs] at henvId
          obtain ⟨text, htext, rfl⟩ := Option.map_eq_some_iff.mp henvId
          exact ⟨text, by rw [at_id]; exact htext, rfl⟩
      case attributes =>
        rw [← hget "attributes" (by decide)]
        refine ⟨_, rfl, ?_⟩
        rw [List.forall₂_map_right_iff]
        exact List.forall₂_same.mpr fun attr _ => sameAttribute_expected attr

/-- **The renewal payload is faithful**: for every accepted snapshot and every readable delivery list
of as many entries as the offer has, the payload is built exactly if the identifiers have texts, and
it carries the delivery list and the public fields. -/
theorem renewal_payload_faithful (py : Python) (shown : Json → Option (List Char))
    (ofInt : Int → Option Binary64) (live raw : Fields) (response : CredentialsResponse)
    (delivery : List Json) (hlive : validatedPublicSnapshot py ofInt (.dict live) = .ok raw)
    (hdelivery : preservedDeliveryDetails py (some response) = some delivery)
    (hcount : live.get "quantity" = .int delivery.length) :
    (Printable py shown live → ∃ payload,
      buildRenewalPayload py shown ofInt (.dict live) (some response) = .ok payload ∧
        payload.get "accountDeliveryDetails" = .list delivery ∧
        payload.has "accountSecretDetails" = false ∧ Carried py shown live payload ∧
        List.Forall₂ (fun entry detail => entry.structuredDetails ≠ .null →
          detail = entry.structuredDetails) response.entries delivery) ∧
      (¬Printable py shown live →
        buildRenewalPayload py shown ofInt (.dict live) (some response) =
          .error .payloadNotFaithful) := by
  obtain ⟨haccepted, hraw⟩ := accepted_of_validated hlive
  -- the snapshot that is built from has a text for a description that was null
  have hcases : raw = live ∧ live.get "description" ≠ .null ∨
      raw = live.set "description" (.str []) ∧ live.get "description" = .null := by
    cases hnull : (live.get "description").isNull with
    | true =>
      rw [if_pos hnull] at hraw
      refine Or.inr ⟨hraw, ?_⟩
      rcases haccepted.description with h | ⟨text, h⟩
      · exact h
      · rw [h] at hnull
        cases hnull
    | false =>
      rw [if_neg (by rw [hnull]; exact Bool.false_ne_true)] at hraw
      refine Or.inl ⟨hraw, ?_⟩
      intro h
      rw [h] at hnull
      cases hnull
  have hraw_accepted : Accepted py ofInt raw := by
    rcases hcases with ⟨rfl, -⟩ | ⟨rfl, -⟩
    · exact haccepted
    · exact haccepted.set_description []
  have hprintable : Printable py shown raw ↔ Printable py shown live := by
    rcases hcases with ⟨rfl, -⟩ | ⟨rfl, -⟩
    · rfl
    · exact printable_set_description []
  have hcount_raw : raw.get "quantity" = .int delivery.length := by
    rcases hcases with ⟨rfl, -⟩ | ⟨rfl, -⟩
    · exact hcount
    · rw [Fields.get_set, if_neg (by decide)]
      exact hcount
  obtain ⟨price, hprice, hbuild⟩ :=
    buildRenewalPayload_eq shown hlive hraw_accepted hdelivery hcount_raw
  rw [← hprintable, ← expectedGame_isSome_iff hraw_accepted, hbuild]
  cases hgame : expectedGame py shown raw with
  | some game =>
    refine ⟨fun _ => ⟨_, rfl, rfl, rfl, ?_, preserved_structured hdelivery⟩, fun h => absurd rfl h⟩
    exact carried_of_game hcases hraw_accepted hprice hgame delivery
  | none => exact ⟨fun h => absurd h (by decide), fun _ => rfl⟩

/-- A snapshot with this description. -/
def sampleSnapshot (description : Json) : Fields :=
  [("gameId", .int 106), ("category", .str "Account".toList),
    ("offerTitle", .str "Live title".toList), ("description", description),
    ("guaranteedDeliveryTime", .str "Instant".toList), ("quantity", .int 1),
    ("minQuantity", .int 1),
    ("pricePerUnit", .dict [("currency", .str "USD".toList), ("amount", .int 12)]),
    ("volumeDiscounts", .null), ("hasOriginalEmail", .bool true), ("mainOfferImage", .dict []),
    ("offerImages", .list []),
    ("tradeEnvironmentValues", .list [.dict [("id", .int 2), ("name", .str "PC".toList)]]),
    ("attributes", .list [
      .dict [("id", .str "platform".toList), ("value", .dict [("id", .str "pc".toList)])],
      .dict [("id", .str "level".toList), ("type", .str "Numeric".toList), ("value", .int 25)]]),
    ("tags", .list [.str "keep".toList]), ("offerState", .str "Paused".toList)]

/-- A structured delivery entry. -/
def sampleDetail : Json :=
  .dict [("accountDetails", .dict [("accountLogin", .str "user".toList),
    ("accountPassword", .str "secret".toList)]), ("mfaDetails", .dict [("code", .int 7)])]

/-- The response with that entry. -/
def sampleResponse : CredentialsResponse where
  modelFieldsSet := some ["accountsDetails"]
  accountsDetails := [{ structuredDetails := sampleDetail }]

/-- Small ints as doubles. -/
def smallDouble (n : Int) : Option Binary64 :=
  if n.natAbs < 2 ^ 53 then some (.finite (n < 0) n.natAbs 0) else none

/-- A null description becomes the empty text. -/
theorem renewal_payload_faithful_fails :
    ¬∀ (live raw : Fields) (response : CredentialsResponse) (delivery : List Json),
      validatedPublicSnapshot Templates.asciiPython smallDouble (.dict live) = .ok raw →
        preservedDeliveryDetails Templates.asciiPython (some response) = some delivery →
        live.get "quantity" = .int delivery.length →
        ∃ payload, buildRenewalPayload Templates.asciiPython (fun _ => none) smallDouble
            (.dict live) (some response) = .ok payload ∧
          payload.get "accountDeliveryDetails" = .list delivery ∧
          (Json.dict payload).at_ ["details", "description"] = live.get "description" := by
  intro h
  obtain ⟨payload, hpayload, -, hdescription⟩ :=
    h (sampleSnapshot .null) _ sampleResponse [sampleDetail] rfl rfl rfl
  have hread : (buildRenewalPayload Templates.asciiPython (fun _ => none) smallDouble
      (.dict (sampleSnapshot .null)) (some sampleResponse)).toOption.map (fun payload =>
        ((Json.dict payload).at_ ["details", "description"]).isNull) = some false := by
    decide +kernel
  rw [hpayload] at hread
  have hnull : ((Json.dict payload).at_ ["details", "description"]).isNull = false :=
    Option.some.inj hread
  rw [hdescription] at hnull
  cases hnull

theorem renewal_payload_faithful_sample :
    ∃ payload, buildRenewalPayload Templates.asciiPython (fun _ => none) smallDouble
        (.dict (sampleSnapshot (.str "Text".toList))) (some sampleResponse) = .ok payload ∧
      payload.get "accountDeliveryDetails" = .list [sampleDetail] := by
  have hprintable : Printable Templates.asciiPython (fun _ => none)
      (sampleSnapshot (.str "Text".toList)) := by
    refine ⟨by decide +kernel, ?_⟩
    intro env henv
    obtain rfl : env = .dict [("id", .int 2), ("name", .str "PC".toList)] :=
      List.mem_singleton.mp henv
    decide +kernel
  obtain ⟨payload, hpayload, hdelivery, -⟩ :=
    (renewal_payload_faithful Templates.asciiPython (fun _ => none) smallDouble
      (sampleSnapshot (.str "Text".toList)) _ sampleResponse [sampleDetail] rfl rfl rfl).1
      hprintable
  exact ⟨payload, hpayload, hdelivery⟩

end Sda.RenewalPayload
