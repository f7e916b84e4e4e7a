/-
Sda/Templates/Soundness.lean

Which accepted templates render on every context.

Validation reads a template as the parser does: it knows the spelling of a modifier and of its
argument, not whether there is such a modifier, or whether `limit` can read the argument.  So a
template is sound exactly if every placeholder is, for every value that reaches it:

* `isOk_chain_iff` — which values pass a chain of modifiers;
* `validation_sound_iff` — an accepted template renders on every context exactly if it is sound;
* `validation_unsound` — `limit:abc` and an unknown modifier are accepted, and raise.
-/
import Sda.Templates.Renderer

namespace Sda.Templates

variable {py : Python}

/-! ### What a chain asks of a value -/

/-- The registry has the modifier. -/
def Modifier.Registered (py : Python) (m : Modifier) : Prop :=
  ((modifierRegistry py).lookup m.name).isSome = true

/-- The items that are left of a list where the chain ends or makes a text of it, none if a limit
comes first whose argument is no int. -/
def itemsLeft (py : Python) : List Modifier → List Value → Option (List Value)
  | [], items => some items
  | m :: modifiers, items =>
      if m.name = "limit".toList then
        match limitOf py m.arg with
        | .ok n => itemsLeft py modifiers (sliceTo items (min n 100))
        | .error _ => none
      else if m.name = "default".toList ∧ items ≠ [] then itemsLeft py modifiers items
      else some items

/-- What is written of a value has a text. -/
def Written (py : Python) (modifiers : List Modifier) : Value → Prop
  | .list items => ∃ left, itemsLeft py modifiers items = some left ∧ allWritable py left = true
  | v => v.writable py = true

/-- A value passes a chain of modifiers. -/
structure Passes (py : Python) (modifiers : List Modifier) (v : Value) : Prop where
  registered : ∀ m ∈ modifiers, m.Registered py
  written : Written py modifiers v

/-! ### One modifier -/

/-- A modifier that makes a text of every value. -/
structure Writes (py : Python) (handler : Handler) : Prop where
  isOk : ∀ v arg, (handler v arg).isOk = v.writable py
  text : ∀ v arg w, handler v arg = .ok w → ∃ t, w = .str t

theorem isOk_textOrEmpty (v : Value) : (textOrEmpty py v).isOk = v.writable py := by
  cases v with
  | none => rfl
  | bool b | int n | float x | str text | list items | obj text quoted zero =>
    unfold textOrEmpty
    exact isOk_strValue _

theorem isOk_strItems (items : List Value) : (strItems py items).isOk = allWritable py items := by
  induction items with
  | nil => rfl
  | cons v items ih =>
    cases v with
    | none => exact ih
    | bool b | int n | float x | str text | list l | obj text quoted zero =>
      unfold strItems
      rw [isOk_bind₂, isOk_strValue, ih]
      rfl

/-- What is made of a text that may be missing is a text. -/
theorem text_of_bind {ε α : Type} {x : Except ε α} {f : α → List Char} {w : Value}
    (h : (do let a ← x
             Except.ok (Value.str (f a))) = .ok w) : ∃ t, w = .str t := by
  obtain ⟨a, -, ha⟩ := except_bind_ok.mp h
  cases ha
  exact ⟨_, rfl⟩

theorem writes_modJoin : Writes py (modJoin py) where
  isOk v arg := by
    cases v with
    | list items =>
      show (do let texts ← strItems py items
               Except.ok (Value.str (joinChars (joinSeparator arg) texts))).isOk = _
      rw [isOk_bind_ok, isOk_strItems]
      rfl
    | none | bool b | int n | float x | str text | obj text quoted zero =>
      exact (isOk_bind_ok _ _).trans (isOk_textOrEmpty _)
  text v arg w h := by
    cases v with
    | list items | none | bool b | int n | float x | str text | obj text quoted zero =>
      exact text_of_bind h

theorem writes_modCase (change : List Char → List Char) : Writes py (modCase py change) where
  isOk v arg := by
    cases v with
    | none => rfl
    | list items | bool b | int n | float x | str text | obj text quoted zero =>
      exact (isOk_bind_ok _ _).trans (isOk_strValue _)
  text v arg w h := by
    cases v with
    | none =>
      cases h
      exact ⟨_, rfl⟩
    | list items | bool b | int n | float x | str text | obj text quoted zero =>
      exact text_of_bind h

theorem writes_modNumber : Writes py (modNumber py) where
  isOk v arg := by
    cases v with
    | int n => exact (isOk_bind_ok _ _).trans (isOk_intGrouped n)
    | float x => rfl
    | none | list items | bool b | str text | obj text quoted zero =>
      exact (isOk_bind_ok _ _).trans (isOk_textOrEmpty _)
  text v arg w h := by
    cases v with
    | float x =>
      cases h
      exact ⟨_, rfl⟩
    | int n | none | list items | bool b | str text | obj text quoted zero =>
      exact text_of_bind h

/-- A limit on digits lets 0 be written. -/
theorem not_refuses_zero : py.refuses (digitsOf 0).length = false := by
  have hlength : (digitsOf 0).length = 1 := by decide
  unfold Python.refuses
  cases hmax : py.maxDigits with
  | none => rfl
  | some limit =>
    have hlimit := py.maxDigits_ge limit hmax
    rw [hlength]
    exact decide_eq_false (by omega)

theorem writable_of_not_truthy {v : Value} (h : modifierTruthy v = false) :
    v.writable py = true := by
  cases v with
  | int n =>
    have hn : n = 0 := by
      simpa [modifierTruthy, Value.equalsZero] using h
    subst hn
    unfold Value.writable
    rw [not_refuses_zero]
    rfl
  | list items =>
    cases items with
    | nil => rfl
    | cons v items => cases h
  | none | bool b | float x | str text | obj text quoted zero => rfl

theorem writes_modAffix (affix : List Char → List Char → List Char) :
    Writes py (modAffix py affix) where
  isOk v arg := by
    unfold modAffix
    cases htruthy : modifierTruthy v with
    | false =>
      rw [if_neg Bool.false_ne_true, writable_of_not_truthy htruthy]
      rfl
    | true =>
      rw [if_pos rfl]
      exact (isOk_bind_ok _ _).trans (isOk_formatValue _)
  text v arg w h := by
    unfold modAffix at h
    cases htruthy : modifierTruthy v with
    | false =>
      rw [htruthy, if_neg Bool.false_ne_true] at h
      cases h
      exact ⟨_, rfl⟩
    | true =>
      rw [htruthy, if_pos rfl] at h
      exact text_of_bind h

/-- The registry: `limit`, `default`, and modifiers that make a text. -/
theorem registry_cases {name : List Char} {handler : Handler}
    (h : (modifierRegistry py).lookup name = some handler) :
    (name = "limit".toList ∧ handler = modLimit py) ∨
      (name = "default".toList ∧ handler = modDefault) ∨
      (name ≠ "limit".toList ∧ name ≠ "default".toList ∧ Writes py handler) := by
  have hmem : (name, handler) ∈ modifierRegistry py := by
    obtain ⟨l, r, heq, -⟩ := List.lookup_eq_some_iff.mp h
    rw [heq]
    exact List.mem_append_right _ List.mem_cons_self
  unfold modifierRegistry at hmem
  simp only [List.mem_cons, Prod.mk.injEq, List.not_mem_nil, or_false] at hmem
  rcases hmem with ⟨rfl, rfl⟩ | ⟨rfl, rfl⟩ | ⟨rfl, rfl⟩ | ⟨rfl, rfl⟩ | ⟨rfl, rfl⟩ | ⟨rfl, rfl⟩ |
    ⟨rfl, rfl⟩ | ⟨rfl, rfl⟩
  · exact Or.inl ⟨rfl, rfl⟩
  · exact Or.inr (Or.inr ⟨by decide, by decide, writes_modJoin⟩)
  · exact Or.inr (Or.inr ⟨by decide, by decide, writes_modCase _⟩)
  · exact Or.inr (Or.inr ⟨by decide, by decide, writes_modCase _⟩)
  · exact Or.inr (Or.inl ⟨rfl, rfl⟩)
  · exact Or.inr (Or.inr ⟨by decide, by decide, writes_modAffix _⟩)
  · exact Or.inr (Or.inr ⟨by decide, by decide, writes_modAffix _⟩)
  · exact Or.inr (Or.inr ⟨by decide, by decide, writes_modNumber⟩)

/-! ### A chain of modifiers -/

/-- What one modifier does to what is asked of a value: where it raises, the value is not written,
and else what it hands on is written exactly if the value is. -/
structure StepsTo (py : Python) (m : Modifier) (handler : Handler) : Prop where
  error : ∀ modifiers v e, handler v m.arg = .error e → ¬Written py (m :: modifiers) v
  ok : ∀ modifiers v w, handler v m.arg = .ok w →
    (Written py (m :: modifiers) v ↔ Written py modifiers w)

theorem written_list {modifiers modifiers' : List Modifier} {items items' : List Value}
    (h : itemsLeft py modifiers items = itemsLeft py modifiers' items') :
    Written py modifiers (.list items) ↔ Written py modifiers' (.list items') := by
  show (∃ left, itemsLeft py modifiers items = some left ∧ _) ↔ _
  rw [h]
  exact Iff.rfl

/-- What is left as it is, or is no list any more. -/
theorem written_nil (modifiers : List Modifier) {items : List Value}
    (h : itemsLeft py modifiers items = some items) :
    Written py modifiers (.list items) ↔ allWritable py items = true := by
  show (∃ left, itemsLeft py modifiers items = some left ∧ allWritable py left = true) ↔ _
  rw [h]
  exact ⟨fun ⟨left, heq, hall⟩ => by cases heq; exact hall, fun hall => ⟨items, rfl, hall⟩⟩

theorem stepsTo_limit {m : Modifier} (hname : m.name = "limit".toList) :
    StepsTo py m (modLimit py) := by
  have hleft : ∀ modifiers items, itemsLeft py (m :: modifiers) items =
      match limitOf py m.arg with
      | .ok n => itemsLeft py modifiers (sliceTo items (min n 100))
      | .error _ => none := by
    intro modifiers items
    show (if m.name = "limit".toList then _ else _) = _
    rw [if_pos hname]
  constructor
  · intro modifiers v e h
    cases v with
    | list items =>
      unfold modLimit at h
      cases hn : limitOf py m.arg with
      | ok n =>
        rw [hn] at h
        cases h
      | error e' =>
        rintro ⟨left, heq, -⟩
        rw [hleft, hn] at heq
        cases heq
    | none | bool b | int n | float x | str text | obj text quoted zero => cases h
  · intro modifiers v w h
    cases v with
    | list items =>
      unfold modLimit at h
      cases hn : limitOf py m.arg with
      | error e =>
        rw [hn] at h
        cases h
      | ok n =>
        rw [hn] at h
        cases h
        apply written_list
        rw [hleft, hn]
    | none | bool b | int n | float x | str text | obj text quoted zero =>
      cases h
      exact Iff.rfl

theorem stepsTo_default {m : Modifier} (hname : m.name = "default".toList) :
    StepsTo py m modDefault := by
  have hleft : ∀ modifiers items, itemsLeft py (m :: modifiers) items =
      if items ≠ [] then itemsLeft py modifiers items else some items := by
    intro modifiers items
    show (if m.name = "limit".toList then _ else
      if m.name = "default".toList ∧ items ≠ [] then _ else some items) = _
    rw [if_neg (by rw [hname]; decide)]
    exact if_congr (and_iff_right hname) rfl rfl
  constructor
  · intro modifiers v e h
    unfold modDefault at h
    split at h <;> cases h
  · intro modifiers v w h
    cases v with
    | none =>
      cases h
      exact Iff.rfl
    | str text =>
      cases text <;> (cases h; exact Iff.rfl)
    | list items =>
      cases items with
      | nil =>
        cases h
        rw [written_nil _ (hleft modifiers [])]
        exact Iff.rfl
      | cons v items =>
        cases h
        apply written_list
        rw [hleft, if_pos (List.cons_ne_nil _ _)]
    | bool b | int n | float x | obj text quoted zero =>
      cases h
      exact Iff.rfl

theorem Writes.stepsTo {m : Modifier} {handler : Handler} (h : Writes py handler)
    (hlimit : m.name ≠ "limit".toList) (hdefault : m.name ≠ "default".toList) :
    StepsTo py m handler := by
  have hwritten : ∀ modifiers v, Written py (m :: modifiers) v ↔ v.writable py = true := by
    intro modifiers v
    cases v with
    | list items =>
      apply written_nil
      show (if m.name = "limit".toList then _ else if _ then _ else some items) = some items
      rw [if_neg hlimit, if_neg fun hboth => hdefault hboth.1]
    | none | bool b | int n | float x | str text | obj text quoted zero => exact Iff.rfl
  constructor
  · intro modifiers v e happly hv
    have hok := h.isOk v m.arg
    rw [happly, (hwritten modifiers v).mp hv] at hok
    cases hok
  · intro modifiers v w happly
    have hok := h.isOk v m.arg
    rw [happly] at hok
    obtain ⟨t, rfl⟩ := h.text _ _ _ happly
    exact iff_of_true ((hwritten modifiers v).mpr hok.symm) rfl

theorem stepsTo_of_lookup {m : Modifier} {handler : Handler}
    (h : (modifierRegistry py).lookup m.name = some handler) : StepsTo py m handler := by
  rcases registry_cases h with ⟨hname, rfl⟩ | ⟨hname, rfl⟩ | ⟨hlimit, hdefault, hwrites⟩
  · exact stepsTo_limit hname
  · exact stepsTo_default hname
  · exact hwrites.stepsTo hlimit hdefault

/-- **Which values pass a chain**: it ends in a text exactly for those. -/
theorem isOk_chain_iff (modifiers : List Modifier) (v : Value) :
    (do let w ← applyModifierChain py v modifiers
        formatValue py w).isOk = true ↔ Passes py modifiers v := by
  induction modifiers generalizing v with
  | nil =>
    show (formatValue py v).isOk = true ↔ _
    rw [isOk_formatValue]
    have hwritten : Written py [] v ↔ v.writable py = true := by
      cases v with
      | list items => exact written_nil [] rfl
      | none | bool b | int n | float x | str text | obj text quoted zero => exact Iff.rfl
    exact ⟨fun h => ⟨nofun, hwritten.mpr h⟩, fun h => hwritten.mp h.written⟩
  | cons m modifiers ih =>
    unfold applyModifierChain applySingle
    cases hlookup : (modifierRegistry py).lookup m.name with
    | none =>
      refine iff_of_false nofun fun h => ?_
      have hm : ((modifierRegistry py).lookup m.name).isSome = true :=
        h.registered m List.mem_cons_self
      rw [hlookup] at hm
      cases hm
    | some handler =>
      have hm : m.Registered py := by
        show ((modifierRegistry py).lookup m.name).isSome = true
        rw [hlookup]
        rfl
      have hstep := stepsTo_of_lookup hlookup
      show (do let w ← (do let w ← handler v m.arg
                           applyModifierChain py w modifiers)
               formatValue py w).isOk = true ↔ _
      cases happly : handler v m.arg with
      | error e => exact iff_of_false nofun fun h => hstep.error modifiers v e happly h.written
      | ok w =>
        refine (ih w).trans ⟨fun h => ?_, fun h => ?_⟩
        · exact ⟨List.forall_mem_cons.mpr ⟨hm, h.registered⟩,
            (hstep.ok modifiers v w happly).mpr h.written⟩
        · exact ⟨(List.forall_mem_cons.mp h.registered).2,
            (hstep.ok modifiers v w happly).mp h.written⟩

/-! ### Conditions -/

/-- A condition has an answer for a value: it only asks for truth, it compares two numbers, or the
value has a text to compare. -/
def Condition.Answers (py : Python) (cond : Condition) (v : Value) : Prop :=
  cond.operator = .truthy ∨
    ((tryNumeric py v).isSome = true ∧ (cond.value.bind (numericText py)).isSome = true) ∨
    v.writable py = true

theorem isOk_compareField (cond : Condition) (v : Value) :
    (compareField py cond v).isOk = true ↔
      ((tryNumeric py v).isSome = true ∧ (cond.value.bind (numericText py)).isSome = true) ∨
        v.writable py = true := by
  unfold compareField
  cases tryNumeric py v with
  | none =>
    rw [or_iff_right (fun h => nomatch h.1)]
    show (do let text ← strValue py v
             Except.ok ((compareText text _).holds _)).isOk = true ↔ _
    rw [isOk_bind_ok, isOk_strValue]
  | some a =>
    cases cond.value.bind (numericText py) with
    | none =>
      rw [or_iff_right (fun h => nomatch h.2)]
      show (do let text ← strValue py v
               Except.ok ((compareText text _).holds _)).isOk = true ↔ _
      rw [isOk_bind_ok, isOk_strValue]
    | some b => exact iff_of_true rfl (Or.inl ⟨rfl, rfl⟩)

theorem isOk_evaluateCondition (cond : Condition) (field : Option Value) :
    (evaluateCondition py cond field).isOk = true ↔ cond.Answers py (field.getD .none) := by
  unfold evaluateCondition Condition.Answers
  generalize field.getD .none = v
  by_cases htruthy : cond.operator = .truthy
  · exact iff_of_true (by rw [if_pos htruthy]; rfl) (Or.inl htruthy)
  · rw [if_neg htruthy, or_iff_right htruthy]
    cases v with
    | none => exact iff_of_true rfl (Or.inr rfl)
    | bool b | int n | float x | str text | list items | obj text quoted zero =>
      exact isOk_compareField cond _

/-! ### Nodes -/

/-- The contexts with values of one class. -/
def Context.Within (Allowed : Value → Prop) (ctx : Context) : Prop :=
  ∀ name v, ctx name = some v → Allowed v

/-- A value reaches the field `name` in a branch of a block: with some value of the condition's
field the branch is taken, and that value is this one where the field is the same. -/
structure Reaches (py : Python) (Allowed : Value → Prop) (cond : Condition) (taken : Bool)
    (name : List Char) (v : Value) : Prop where
  allowed : Allowed v
  selected : ∃ field, (∀ w, field = some w → Allowed w) ∧
    evaluateCondition py cond field = .ok taken ∧ (name = cond.fieldName → field = some v)

/-- Every value that reaches a placeholder passes its modifiers. -/
def Leaf.Sound (py : Python) (reaches : List Char → Value → Prop) : Leaf → Prop
  | .text _ => True
  | .placeholder p => ∀ v, reaches p.fieldName v → Passes py p.modifiers v

/-- The placeholders are sound, and the condition of a block has an answer for every value. -/
def Node.Sound (py : Python) (Allowed : Value → Prop) : Node → Prop
  | .leaf l => l.Sound py fun _ v => Allowed v
  | .ifBlock cond ifBody elseBody =>
      (∀ v, Allowed v → cond.Answers py v) ∧
        (∀ leaf ∈ ifBody, leaf.Sound py (Reaches py Allowed cond true)) ∧
        ∀ leaf ∈ elseBody, leaf.Sound py (Reaches py Allowed cond false)

theorem Leaf.Sound.mono {leaf : Leaf} {reaches reaches' : List Char → Value → Prop}
    (h : leaf.Sound py reaches) (hsub : ∀ name v, reaches' name v → reaches name v) :
    leaf.Sound py reaches' := by
  cases leaf with
  | text text => trivial
  | placeholder p => exact fun v hv => h v (hsub _ _ hv)

/-- On one context, a leaf is reached by the value of its field. -/
theorem isOk_renderLeaf (ctx : Context) (leaf : Leaf) :
    (renderLeaf py false ctx leaf).isOk = true ↔
      leaf.Sound py fun name v => ctx name = some v := by
  cases leaf with
  | text text => exact iff_of_true rfl trivial
  | placeholder p =>
    show (resolvePlaceholder py false ctx p).isOk = true ↔
      ∀ v, ctx p.fieldName = some v → Passes py p.modifiers v
    unfold resolvePlaceholder
    cases ctx p.fieldName with
    | none => exact iff_of_true rfl nofun
    | some value =>
      refine (isOk_chain_iff p.modifiers value).trans ⟨fun h v hv => ?_, fun h => h value rfl⟩
      cases hv
      exact h

theorem isOk_renderLeaves (ctx : Context) (leaves : List Leaf) :
    (renderLeaves py false ctx leaves).isOk = true ↔
      ∀ leaf ∈ leaves, leaf.Sound py fun name v => ctx name = some v := by
  induction leaves with
  | nil => exact iff_of_true rfl nofun
  | cons leaf leaves ih =>
    unfold renderLeaves
    rw [isOk_bind₂, Bool.and_eq_true, isOk_renderLeaf, ih, List.forall_mem_cons]

theorem isOk_renderNodes (ctx : Context) (nodes : List Node) :
    (renderNodes py false ctx nodes).isOk = true ↔
      ∀ node ∈ nodes, (renderNode py false ctx node).isOk = true := by
  induction nodes with
  | nil => exact iff_of_true rfl nofun
  | cons node nodes ih =>
    unfold renderNodes
    rw [isOk_bind₂, Bool.and_eq_true, ih, List.forall_mem_cons]

/-- The context in which the condition's field has this value, and every other field that one. -/
def contextOf (cond : Condition) (field : Option Value) (v : Value) : Context :=
  fun name => if name = cond.fieldName then field else some v

theorem within_contextOf {Allowed : Value → Prop} (cond : Condition) {field : Option Value}
    {v : Value} (hfield : ∀ w, field = some w → Allowed w) (hv : Allowed v) :
    (contextOf cond field v).Within Allowed := by
  intro name w hw
  unfold contextOf at hw
  split at hw
  · exact hfield w hw
  · cases hw
    exact hv

theorem within_const {Allowed : Value → Prop} {v : Value} (hv : Allowed v) :
    Context.Within Allowed fun _ => some v := by
  intro name w hw
  cases hw
  exact hv

theorem isOk_renderBlock (cond : Condition) (ifBody elseBody : List Leaf) (ctx : Context) :
    (renderNode py false ctx (.ifBlock cond ifBody elseBody)).isOk = true ↔
      ∃ taken, evaluateCondition py cond (ctx cond.fieldName) = .ok taken ∧
        ∀ leaf ∈ (if taken then ifBody else elseBody),
          leaf.Sound py fun name v => ctx name = some v := by
  refine isOk_bind_iff.trans (exists_congr fun taken => and_congr_right fun _ => ?_)
  exact isOk_renderLeaves ctx _

/-- What renders on every context is sound for the values that reach it: there is a context on
which they do. -/
theorem sound_of_renders {Allowed : Value → Prop} {cond : Condition} {ifBody elseBody : List Leaf}
    (h : ∀ ctx : Context, ctx.Within Allowed →
      (renderNode py false ctx (.ifBlock cond ifBody elseBody)).isOk = true)
    (taken : Bool) {leaf : Leaf} (hleaf : leaf ∈ (if taken then ifBody else elseBody)) :
    leaf.Sound py (Reaches py Allowed cond taken) := by
  cases leaf with
  | text text => trivial
  | placeholder p =>
    rintro v ⟨hv, field, hallowed, htaken, hfield⟩
    obtain ⟨taken', htaken', hall⟩ := (isOk_renderBlock cond ifBody elseBody _).mp
      (h (contextOf cond field v) (within_contextOf cond hallowed hv))
    have hcond : contextOf cond field v cond.fieldName = field := if_pos rfl
    rw [hcond, htaken] at htaken'
    cases htaken'
    have hsound : ∀ w, contextOf cond field v p.fieldName = some w →
        Passes py p.modifiers w := hall _ hleaf
    apply hsound v
    unfold contextOf
    split
    · next hsame => exact hfield hsame
    · rfl

/-- **A node renders on every context** exactly if it is sound. -/
theorem isOk_renderNode_iff (Allowed : Value → Prop) (node : Node) :
    (∀ ctx : Context, ctx.Within Allowed → (renderNode py false ctx node).isOk = true) ↔
      node.Sound py Allowed := by
  cases node with
  | leaf leaf =>
    constructor
    · intro h
      cases leaf with
      | text text => trivial
      | placeholder p =>
        intro v hv
        exact (isOk_renderLeaf (fun _ => some v) (.placeholder p)).mp (h _ (within_const hv)) v rfl
    · intro h ctx hctx
      have hsound : leaf.Sound py fun _ v => Allowed v := h
      exact (isOk_renderLeaf ctx leaf).mpr (hsound.mono hctx)
  | ifBlock cond ifBody elseBody =>
    constructor
    · intro h
      refine ⟨fun v hv => ?_, fun leaf hleaf => ?_, fun leaf hleaf => ?_⟩
      · obtain ⟨taken, htaken, -⟩ :=
          (isOk_renderBlock cond ifBody elseBody fun _ => some v).mp (h _ (within_const hv))
        apply (isOk_evaluateCondition cond (some v)).mp
        rw [htaken]
        rfl
      · exact sound_of_renders h true hleaf
      · exact sound_of_renders h false hleaf
    · rintro ⟨hanswers, hif, helse⟩ ctx hctx
      apply (isOk_renderBlock cond ifBody elseBody ctx).mpr
      have hok : (evaluateCondition py cond (ctx cond.fieldName)).isOk = true := by
        apply (isOk_evaluateCondition cond _).mpr
        cases hfield : ctx cond.fieldName with
        | none => exact Or.inr (Or.inr rfl)
        | some v => exact hanswers v (hctx _ _ hfield)
      cases htaken : evaluateCondition py cond (ctx cond.fieldName) with
      | error e =>
        rw [htaken] at hok
        cases hok
      | ok taken =>
        have hsub : ∀ name v, ctx name = some v → Reaches py Allowed cond taken name v :=
          fun name v hv => ⟨hctx name v hv, ctx cond.fieldName, fun w hw => hctx _ w hw, htaken,
            fun hname => hname ▸ hv⟩
        refine ⟨taken, rfl, fun leaf hleaf => ?_⟩
        cases taken with
        | true => exact (hif leaf hleaf).mono hsub
        | false => exact (helse leaf hleaf).mono hsub

/-! ### Templates -/

/-- An accepted template is not empty, and has a tree. -/
theorem parse_of_accepted {body templateType : List Char}
    {availableFields : Option (List (List Char))} {maxLength : Nat} {warnings : List (List Char)}
    (h : validateTemplate body templateType availableFields maxLength = .ok warnings) :
    body ≠ [] ∧ ∃ nodes, parse body = .ok nodes := by
  unfold validateTemplate validateTemplateBody at h
  by_cases hstrip : stripChars body = []
  · rw [if_pos hstrip] at h
    cases h
  constructor
  · rintro rfl
    exact hstrip rfl
  · cases hparse : parse body with
    | ok nodes => exact ⟨nodes, rfl⟩
    | error e =>
      rw [hparse] at h
      split_ifs at h

/-- A template that is not empty renders if its nodes do. -/
theorem isOk_render {template : List Char} {nodes : List Node} (htemplate : template ≠ [])
    (hparse : parse template = .ok nodes) {o : RenderOptions} (ho : o.separator ≠ [])
    (ctx : Context) :
    (render py false o template ctx).isOk = (renderNodes py false ctx nodes).isOk := by
  unfold render
  rw [if_neg htemplate, hparse]
  dsimp only
  cases renderNodes py false ctx nodes with
  | error e => rfl
  | ok rendered =>
    dsimp only
    unfold assembleSegments
    rw [if_neg ho]
    split <;> rfl

/-- A template renders on every context of a class exactly if its nodes are sound for it. -/
theorem renders_iff_sound (Allowed : Value → Prop) {template : List Char} {nodes : List Node}
    (htemplate : template ≠ []) (hparse : parse template = .ok nodes) :
    (∀ (o : RenderOptions) (ctx : Context), o.separator ≠ [] → ctx.Within Allowed →
        (render py false o template ctx).isOk = true) ↔
      ∀ node ∈ nodes, node.Sound py Allowed := by
  constructor
  · intro hrenders node hnode
    apply (isOk_renderNode_iff Allowed node).mp
    intro ctx hctx
    have hok := hrenders {} ctx (by decide) hctx
    rw [isOk_render htemplate hparse (by decide)] at hok
    exact (isOk_renderNodes ctx nodes).mp hok node hnode
  · intro hsound o ctx ho hctx
    rw [isOk_render htemplate hparse ho]
    apply (isOk_renderNodes ctx nodes).mpr
    intro node hnode
    exact (isOk_renderNode_iff Allowed node).mpr (hsound node hnode) ctx hctx

/-- **When validation is sound.**  Of the contexts with values of any class, say with any values
at all, an accepted template renders on every one, with every budget and separator, exactly if all
its nodes are sound. -/
theorem validation_sound_iff (py : Python) (Allowed : Value → Prop)
    {body templateType : List Char} {availableFields : Option (List (List Char))}
    {maxLength : Nat} {warnings : List (List Char)}
    (h : validateTemplate body templateType availableFields maxLength = .ok warnings) :
    ∃ nodes, parse body = .ok nodes ∧
      ((∀ (o : RenderOptions) (ctx : Context), o.separator ≠ [] → ctx.Within Allowed →
          (render py false o body ctx).isOk = true) ↔
        ∀ node ∈ nodes, node.Sound py Allowed) := by
  obtain ⟨hbody, nodes, hparse⟩ := parse_of_accepted h
  exact ⟨nodes, hparse, renders_iff_sound Allowed hbody hparse⟩

/-- An interpreter with the limit of a fresh process, whose tables know ASCII and no floats. -/
def asciiPython : Python where
  maxDigits := some 4300
  digit c := if c.isDigit then some (c.toNat - '0'.toNat) else none
  upper text := text.map Char.toUpper
  lower text := text.map Char.toLower
  quote text := Char.ofNat 39 :: text ++ [Char.ofNat 39]
  floatOf _ := none
  floatText _ := []
  floatGrouped _ := []
  maxDigits_ge := freshLimit_ge

theorem validation_sound_at_upper : ∃ nodes, parse "\x7brank | upper\x7d".toList = .ok nodes ∧
    ((∀ (o : RenderOptions) (ctx : Context), o.separator ≠ [] →
        ctx.Within (fun v => v.writable asciiPython = true) →
        (render asciiPython false o "\x7brank | upper\x7d".toList ctx).isOk = true) ↔
      ∀ node ∈ nodes, node.Sound asciiPython fun v => v.writable asciiPython = true) :=
  validation_sound_iff asciiPython _
    (show validateTemplate "\x7brank | upper\x7d".toList "title".toList none defaultMaxLength =
      .ok [] by decide)

/-- Validation accepts an argument that is no int, and a modifier that there is not; with one item
in the list, rendering raises. -/
theorem validation_unsound :
    (validateTemplate "\x7bitems | limit:abc\x7d".toList "title".toList none defaultMaxLength =
        .ok [] ∧
      render asciiPython false {} "\x7bitems | limit:abc\x7d".toList
          (fun _ => some (.list [.str "Axe".toList])) =
        .error (.raised (.intLiteral "abc".toList))) ∧
    validateTemplate "\x7bitems | nosuch\x7d".toList "title".toList none defaultMaxLength =
        .ok [] ∧
      render asciiPython false {} "\x7bitems | nosuch\x7d".toList
          (fun _ => some (.list [.str "Axe".toList])) =
        .error (.raised (.unknownModifier "nosuch".toList)) := by
  decide +kernel

end Sda.Templates
