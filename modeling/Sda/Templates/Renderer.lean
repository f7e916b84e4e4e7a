/-
Sda/Templates/Renderer.lean

The modifiers, the renderer and the validation of content templates.

A pipe chain hands the value of a field from modifier to modifier, in its own type; the renderer
makes a text of what comes out.  Of a list, `limit` makes a shorter list and `default` may make a
text; every other modifier makes a text of it.
-/
import Sda.Templates.Parser
import Sda.Templates.Value

namespace Sda.Templates

/-! ### Modifiers -/

/-- `value == 0`, as Python compares: a bool counts as a number. -/
def Value.equalsZero : Value → Bool
  | .bool b => !b
  | .int n => n == 0
  | .float x => x.isZero
  | .obj _ _ zero => zero
  | _ => false

/-- `modifiers._is_truthy` -/
def modifierTruthy : Value → Bool
  | .none => false
  | .str [] => false
  | .list [] => false
  | v => !v.equalsZero

/-- A modifier: the value and the argument, and the value it hands on. -/
abbrev Handler := Value → Option (List Char) → Except Raised Value

/-- `int(arg) if arg else 10` -/
def limitOf (py : Python) (arg : Option (List Char)) : Except Raised Int :=
  match arg with
  | some (c :: cs) => intOf py (c :: cs)
  | _ => .ok 10

def modLimit (py : Python) : Handler := fun value arg =>
  match value with
  | .list items => do
      let n ← limitOf py arg
      .ok (.list (sliceTo items (min n 100)))
  | v => .ok v

def joinAliases : List (List Char × List Char) :=
  [("pipe".toList, " | ".toList), ("comma".toList, ", ".toList), ("dash".toList, " - ".toList),
    ("hash".toList, " # ".toList), ("space".toList, [' ']), ("newline".toList, ['\n'])]

def joinSeparator : Option (List Char) → List Char
  | none => ", ".toList
  | some arg => (joinAliases.lookup (stripChars arg)).getD arg

/-- `str(value) if value is not None else ""` -/
def textOrEmpty (py : Python) : Value → Except Raised (List Char)
  | .none => .ok []
  | v => strValue py v

/-- The texts of the items that are not None. -/
def strItems (py : Python) : List Value → Except Raised (List (List Char))
  | [] => .ok []
  | .none :: items => strItems py items
  | v :: items => do
      let text ← strValue py v
      let texts ← strItems py items
      .ok (text :: texts)

def modJoin (py : Python) : Handler := fun value arg =>
  match value with
  | .list items => do
      let texts ← strItems py items
      .ok (.str (joinChars (joinSeparator arg) texts))
  | v => do
      let text ← textOrEmpty py v
      .ok (.str text)

/-- Both letter cases: a text of the value, changed; nothing of None. -/
def modCase (py : Python) (change : List Char → List Char) : Handler := fun value _ =>
  match value with
  | .none => .ok (.str [])
  | v => do
      let text ← strValue py v
      .ok (.str (change text))

def modUpper (py : Python) : Handler := modCase py py.upper

def modLower (py : Python) : Handler := modCase py py.lower

def modDefault : Handler := fun value arg =>
  match value with
  | .none | .str [] | .list [] => .ok (.str (arg.getD []))
  | v => .ok v

/-- Both affixes: nothing around a value that is not truthy. -/
def modAffix (py : Python) (affix : List Char → List Char → List Char) : Handler :=
  fun value arg =>
    if modifierTruthy value then do
      let text ← formatValue py value
      .ok (.str (affix (arg.getD []) text))
    else
      .ok (.str [])

def modPrefix (py : Python) : Handler := modAffix py fun arg text => arg ++ text

def modSuffix (py : Python) : Handler := modAffix py fun arg text => text ++ arg

def modNumber (py : Python) : Handler := fun value _ =>
  match value with
  | .int n => do
      let text ← intGrouped py n
      .ok (.str text)
  | .float x => .ok (.str (py.floatGrouped x))
  | v => do
      let text ← textOrEmpty py v
      .ok (.str text)

def modifierRegistry (py : Python) : List (List Char × Handler) :=
  [("limit".toList, modLimit py), ("join".toList, modJoin py), ("upper".toList, modUpper py),
    ("lower".toList, modLower py), ("default".toList, modDefault),
    ("prefix".toList, modPrefix py), ("suffix".toList, modSuffix py),
    ("number".toList, modNumber py)]

def applySingle (py : Python) (value : Value) (m : Modifier) : Except Raised Value :=
  match (modifierRegistry py).lookup m.name with
  | none => .error (.unknownModifier m.name)
  | some handler => handler value m.arg

def applyModifierChain (py : Python) : Value → List Modifier → Except Raised Value
  | value, [] => .ok value
  | value, m :: modifiers => do
      let value' ← applySingle py value m
      applyModifierChain py value' modifiers

/-! ### Conditions -/

/-- `renderer._is_truthy` -/
def isTruthy : Value → Bool
  | .none => false
  | .str text => !text.isEmpty
  | .bool b => b
  | .int n => n != 0
  | .float x => !x.isZero
  | .list items => !items.isEmpty
  | .obj _ _ _ => true

inductive Numeric
  | int (n : Int)
  | float (x : Binary64)

/-- `_try_numeric` of a text. -/
def numericText (py : Python) (text : List Char) : Option Numeric :=
  match intOf py text with
  | .ok n => some (.int n)
  | .error _ => (py.floatOf text).map .float

/-- `_try_numeric` -/
def tryNumeric (py : Python) : Value → Option Numeric
  | .int n => some (.int n)
  | .float x => some (.float x)
  | .str text => numericText py text
  | _ => none

/-- Where a number is on the line with two ends; NaN is nowhere. -/
def Numeric.point : Numeric → Option (WithBot (WithTop ℚ))
  | .int n => some ((n : ℚ) : WithTop ℚ)
  | .float .nan => none
  | .float (.inf true) => some ⊥
  | .float (.inf false) => some (⊤ : WithTop ℚ)
  | .float (.finite negative mantissa exponent) =>
      some ((((if negative then -1 else 1) * mantissa * 2 ^ exponent : ℚ)) : WithTop ℚ)

/-- How two values compare; all false if they do not. -/
structure Compared where
  less : Bool := false
  equal : Bool := false
  greater : Bool := false

def compareText (a b : List Char) : Compared := ⟨decide (a < b), decide (a = b), decide (b < a)⟩

def compareNumeric (a b : Numeric) : Compared :=
  match a.point, b.point with
  | some x, some y => ⟨decide (x < y), decide (x = y), decide (y < x)⟩
  | _, _ => {}

/-- `_compare` -/
def Compared.holds (c : Compared) : Operator → Bool
  | .gt => c.greater
  | .ge => c.greater || c.equal
  | .lt => c.less
  | .le => c.less || c.equal
  | .eq => c.equal
  | .ne => !c.equal
  | .truthy => false

/-- The comparison of `_evaluate_condition`: of numbers if both sides are, else of texts. -/
def compareField (py : Python) (cond : Condition) (value : Value) : Except Raised Bool :=
  match tryNumeric py value, cond.value.bind (numericText py) with
  | some a, some b => .ok ((compareNumeric a b).holds cond.operator)
  | _, _ => do
      let text ← strValue py value
      .ok ((compareText text (cond.value.getD [])).holds cond.operator)

/-- `_evaluate_condition` on the value of the condition's field, none where it is missing. -/
def evaluateCondition (py : Python) (cond : Condition) (field : Option Value) :
    Except Raised Bool :=
  let value := field.getD .none
  if cond.operator = .truthy then .ok (isTruthy value)
  else
    match value with
    | .none => .ok (cond.operator == .ne)
    | v => compareField py cond v

/-! ### The renderer -/

/-- The fields of an account, by name. -/
abbrev Context := List Char → Option Value

/-- `_resolve_placeholder` -/
def resolvePlaceholder (py : Python) (strict : Bool) (ctx : Context) (p : Placeholder) :
    Except Raised (List Char) :=
  match ctx p.fieldName with
  | none => if strict then .error (.missingField p.fieldName) else .ok []
  | some value => do
      let value' ← applyModifierChain py value p.modifiers
      formatValue py value'

def renderLeaf (py : Python) (strict : Bool) (ctx : Context) :
    Leaf → Except Raised (List Char)
  | .text text => .ok text
  | .placeholder p => resolvePlaceholder py strict ctx p

/-- `_render_nodes` on a body. -/
def renderLeaves (py : Python) (strict : Bool) (ctx : Context) :
    List Leaf → Except Raised (List Char)
  | [] => .ok []
  | leaf :: leaves => do
      let text ← renderLeaf py strict ctx leaf
      let rest ← renderLeaves py strict ctx leaves
      .ok (text ++ rest)

def renderNode (py : Python) (strict : Bool) (ctx : Context) :
    Node → Except Raised (List Char)
  | .leaf leaf => renderLeaf py strict ctx leaf
  | .ifBlock cond ifBody elseBody => do
      let taken ← evaluateCondition py cond (ctx cond.fieldName)
      renderLeaves py strict ctx (if taken then ifBody else elseBody)

/-- `_render_nodes` -/
def renderNodes (py : Python) (strict : Bool) (ctx : Context) :
    List Node → Except Raised (List Char)
  | [] => .ok []
  | node :: nodes => do
      let text ← renderNode py strict ctx node
      let rest ← renderNodes py strict ctx nodes
      .ok (text ++ rest)

/-- The segments kept within a budget, from the left, with the length built so far. -/
def fitSegments (separator : List Char) (budget : Int) :
    Int → Bool → List (List Char) → List (List Char)
  | _, _, [] => []
  | current, built, segment :: segments =>
      let addition : Int := segment.length + if built then separator.length else 0
      if current + addition > budget then []
      else segment :: fitSegments separator budget (current + addition) true segments

/-- `_fill_left_to_right` -/
def fillLeftToRight (segments : List (List Char)) (maxLength : Int) (separator : List Char) :
    List Char :=
  joinChars separator (fitSegments separator maxLength 0 false segments)

/-- `_assemble_segments` -/
def assembleSegments (rendered : List Char) (maxLength : Int) (separator : List Char)
    (pinLast : Int) : Except Raised (List Char) :=
  if separator = [] then .error .emptySeparator
  else
    let segments := ((splitChars separator rendered).map stripChars).filter (· ≠ [])
    .ok <|
      if segments = [] then []
      else if pinLast ≤ 0 ∨ pinLast ≥ segments.length then
        fillLeftToRight segments maxLength separator
      else
        let tail := segments.drop (segments.length - pinLast.toNat)
        let body := segments.take (segments.length - pinLast.toNat)
        let tailCost : Int := (tail.map List.length).sum + separator.length * tail.length
        let remaining := maxLength - tailCost
        if remaining ≤ 0 then fillLeftToRight segments maxLength separator
        else joinChars separator (fitSegments separator remaining 0 false body ++ tail)

/-- The options of `render`. -/
structure RenderOptions where
  maxLength : Int := 0
  separator : List Char := " | ".toList
  pinLast : Int := 0

/-- What `render` raises. -/
inductive RenderError
  | template (e : ParseError)
  | raised (e : Raised)
deriving DecidableEq

/-- `SimpleTemplateRenderer.render`; the parser's cache does not show. -/
def render (py : Python) (strict : Bool) (o : RenderOptions) (template : List Char)
    (ctx : Context) : Except RenderError (List Char) :=
  if template = [] then .ok []
  else
    match parse template with
    | .error e => .error (.template e)
    | .ok nodes =>
        match renderNodes py strict ctx nodes with
        | .error e => .error (.raised e)
        | .ok rendered =>
            if o.maxLength > 0 then
              (assembleSegments rendered o.maxLength o.separator o.pinLast).mapError .raised
            else
              .ok rendered

/-! ### Validation -/

local instance lawfulBEq_name : LawfulBEq (List Char) := inferInstance

/-- `seen`, in the order of the fields. -/
def addField (seen : List (List Char)) (name : List Char) : List (List Char) :=
  if name ∈ seen then seen else seen ++ [name]

def collectLeaf (seen : List (List Char)) : Leaf → List (List Char)
  | .text _ => seen
  | .placeholder p => addField seen p.fieldName

/-- `_collect_fields` -/
def collectNode (seen : List (List Char)) : Node → List (List Char)
  | .leaf leaf => collectLeaf seen leaf
  | .ifBlock cond ifBody elseBody =>
      elseBody.foldl collectLeaf (ifBody.foldl collectLeaf (addField seen cond.fieldName))

/-- `extract_fields` -/
def extractFields (nodes : List Node) : List (List Char) := nodes.foldl collectNode []

/-- What `TemplateValidationError` is raised for. -/
inductive ValidationError
  | emptyBody
  | tooLong (length maxLength : Nat)
  | titleLines
  | template (e : ParseError)
deriving DecidableEq

def ValidationError.message (quote : List Char → List Char) : ValidationError → List Char
  | emptyBody => "Template body cannot be empty".toList
  | tooLong length maxLength =>
      "Template body exceeds maximum length (".toList ++ (natText length).toList ++
        " > ".toList ++ (natText maxLength).toList ++ [')']
  | titleLines => "Title templates must be a single line".toList
  | template e => e.message quote

/-- The warnings of a tree. -/
def unknownFields (nodes : List Node) : Option (List (List Char)) → List (List Char)
  | none => []
  | some available =>
      ((extractFields nodes).filter (· ∉ available)).map ("Unknown field: ".toList ++ ·)

/-- `validate_template_body` -/
def validateTemplateBody (body : List Char) (availableFields : Option (List (List Char))) :
    Except ValidationError (List (List Char)) :=
  if stripChars body = [] then .error .emptyBody
  else
    match parse body with
    | .error e => .error (.template e)
    | .ok nodes => .ok (unknownFields nodes availableFields)

/-- `validate_template`: the warnings of a template that is accepted. -/
def validateTemplate (body templateType : List Char)
    (availableFields : Option (List (List Char))) (maxLength : Nat) :
    Except ValidationError (List (List Char)) :=
  if stripChars body = [] then .error .emptyBody
  else if body.length > maxLength then .error (.tooLong body.length maxLength)
  else if templateType = "title".toList ∧ '\n' ∈ stripChars body then .error .titleLines
  else validateTemplateBody body availableFields

/-- The limit of `validate_template` where the caller gives none. -/
def defaultMaxLength : Nat := 10000

end Sda.Templates
