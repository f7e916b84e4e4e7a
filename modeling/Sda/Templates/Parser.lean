/-
Sda/Templates/Parser.lean

The parser of content templates: from a text to its syntax tree.

The parser reads one character after the other.  Its state is what the scanner and its calls hold
at that character: the position, whether it is in text or in a tag, the nodes so far, and the if
block that is open.  A block is never inside a block (the parser raises), so the tree has leaves,
and blocks of leaves.
-/
import Sda.Lib.Chars

namespace Sda.Templates

/-! ### The syntax tree -/

/-- A modifier of a pipe chain: `limit:3`, `upper`. -/
structure Modifier where
  name : List Char
  arg : Option (List Char) := none
deriving DecidableEq

structure Placeholder where
  fieldName : List Char
  modifiers : List Modifier := []
deriving DecidableEq

inductive Operator
  | truthy | gt | ge | lt | le | eq | ne
deriving DecidableEq

/-- The condition of a block; a truthy check has no value. -/
structure Condition where
  fieldName : List Char
  operator : Operator
  value : Option (List Char) := none
deriving DecidableEq

/-- What may stand inside a block. -/
inductive Leaf
  | text (text : List Char)
  | placeholder (p : Placeholder)
deriving DecidableEq

inductive Node
  | leaf (leaf : Leaf)
  | ifBlock (condition : Condition) (ifBody elseBody : List Leaf)
deriving DecidableEq

/-! ### Errors -/

/-- What `TemplateParseError` is raised for, with its position. -/
inductive ParseError
  | nestedBraces (pos : Nat)
  | unclosedBrace (pos : Nat)
  | elseOutside (pos : Nat)
  | endifOutside (pos : Nat)
  | unclosedIf
  | unclosedElse
  | nestedIf (pos : Nat)
  | tooManyIfs (pos : Nat)
  | emptyCondition (pos : Nat)
  | placeholderSyntax (text : List Char) (pos : Nat)
  | emptyModifier (pos : Nat)
  | modifierName (name : List Char) (pos : Nat)
  | modifierArg (arg : List Char) (pos : Nat)
deriving DecidableEq

def maxIfBlocks : Nat := 50

def positionText (pos : Nat) : List Char := " (position ".toList ++ (natText pos).toList ++ [')']

/-- The message, with the text Python quotes a text to as an argument. -/
def ParseError.message (quote : List Char → List Char) : ParseError → List Char
  | nestedBraces pos => "Nested braces are not supported".toList ++ positionText pos
  | unclosedBrace pos => "Unclosed brace in template".toList ++ positionText pos
  | elseOutside pos =>
      "Unexpected \x7b#else\x7d outside of \x7b#if\x7d block".toList ++ positionText pos
  | endifOutside pos =>
      "Unexpected \x7b/if\x7d without matching \x7b#if\x7d".toList ++ positionText pos
  | unclosedIf => "Unclosed \x7b#if\x7d block".toList
  | unclosedElse =>
      "Unclosed \x7b#if\x7d block (missing \x7b/if\x7d after \x7b#else\x7d)".toList
  | nestedIf pos => "Nested \x7b#if\x7d blocks are not supported".toList ++ positionText pos
  | tooManyIfs pos =>
      "Too many \x7b#if\x7d blocks (max ".toList ++ (natText maxIfBlocks).toList ++ [')'] ++
        positionText pos
  | emptyCondition pos => "Empty \x7b#if\x7d condition".toList ++ positionText pos
  | placeholderSyntax text pos =>
      "Invalid placeholder syntax: \x7b".toList ++ text ++
        "\x7d — use \x7b\x7bfield_name\x7d\x7d with letters, digits, and underscores only".toList ++
        positionText pos
  | emptyModifier pos => "Empty modifier in pipe chain".toList ++ positionText pos
  | modifierName name pos =>
      "Invalid modifier name: ".toList ++ quote name ++ positionText pos
  | modifierArg arg pos =>
      "Invalid modifier argument: ".toList ++ quote arg ++ positionText pos

/-! ### Names and arguments -/

/-- All characters are of the class, up to the end: `$` also matches before a last newline. -/
def allToEnd (p : Char → Bool) (s : List Char) : Bool :=
  s.all p || (s.getLast? == some '\n' && s.dropLast.all p)

def isAsciiLetter (c : Char) : Bool := c.isAlpha || c == '_'

/-- `[a-zA-Z_][a-zA-Z0-9_]*$` -/
def nameMatches : List Char → Bool
  | [] => false
  | c :: cs => isAsciiLetter c && allToEnd (fun c => c.isAlphanum || c == '_') cs

/-- `[a-zA-Z0-9_ /,.:;!?\-]*$` -/
def argMatches (arg : List Char) : Bool :=
  allToEnd (fun c => c.isAlphanum || "_ /,.:;!?-".toList.contains c) arg

def validateFieldName (name : List Char) (pos : Nat) : Except ParseError Unit :=
  if name = [] ∨ nameMatches name = false then .error (.placeholderSyntax name pos) else .ok ()

def validateModifierName (name : List Char) (pos : Nat) : Except ParseError Unit :=
  if name = [] ∨ nameMatches name = false then .error (.modifierName name pos) else .ok ()

def validateModifierArg (arg : List Char) (pos : Nat) : Except ParseError Unit :=
  if argMatches arg = false then .error (.modifierArg arg pos) else .ok ()

/-! ### Tags -/

/-- The comparison operators, longest first. -/
def comparisonOps : List (Operator × List Char) :=
  [(.ge, ">=".toList), (.le, "<=".toList), (.ne, "!=".toList), (.gt, ">".toList),
    (.lt, "<".toList), (.eq, "=".toList)]

/-- The loop of `_parse_condition`: the first operator found between blanks, or at the end. -/
def parseConditionWith (raw : List Char) (pos : Nat) :
    List (Operator × List Char) → Except ParseError Condition
  | [] => do
      let fieldName := stripChars raw
      validateFieldName fieldName pos
      .ok ⟨fieldName, .truthy, none⟩
  | (operator, op) :: ops =>
      match findChars (' ' :: op ++ [' ']) raw, rfindChars (' ' :: op) raw with
      | some i, _ => do
          let fieldName := stripChars (raw.take i)
          let value := stripChars (raw.drop (i + op.length + 2))
          validateFieldName fieldName pos
          .ok ⟨fieldName, operator, some value⟩
      | none, some i =>
          if op.isSuffixOf raw then do
            -- an operator with nothing behind it
            let fieldName := stripChars (raw.take i)
            validateFieldName fieldName pos
            .ok ⟨fieldName, operator, some []⟩
          else
            parseConditionWith raw pos ops
      | none, none => parseConditionWith raw pos ops

/-- `_parse_condition`: `field`, `field > 5000`. -/
def parseCondition (raw : List Char) (pos : Nat) : Except ParseError Condition :=
  if raw = [] then .error (.emptyCondition pos) else parseConditionWith raw pos comparisonOps

/-- `_parse_modifier`: `limit:3`, `upper`.  The argument keeps its blanks. -/
def parseModifier (raw : List Char) (pos : Nat) : Except ParseError Modifier :=
  match findChars [':'] raw with
  | none => do
      let name := stripChars raw
      validateModifierName name pos
      .ok ⟨name, none⟩
  | some i => do
      let name := stripChars (raw.take i)
      let arg := raw.drop (i + 1)
      validateModifierName name pos
      validateModifierArg arg pos
      .ok ⟨name, some arg⟩

def parseModifiers (pos : Nat) : List (List Char) → Except ParseError (List Modifier)
  | [] => .ok []
  | part :: parts =>
      if stripChars part = [] then .error (.emptyModifier pos)
      else do
        let modifier ← parseModifier part pos
        let modifiers ← parseModifiers pos parts
        .ok (modifier :: modifiers)

def pipe : List Char := " | ".toList

/-- `_parse_placeholder`: `field`, `field | mod:arg | mod2`. -/
def parsePlaceholder (content : List Char) (pos : Nat) : Except ParseError Placeholder :=
  let parts := splitChars pipe content
  let fieldPart := parts.headD []
  let fieldName := stripChars fieldPart
  if fieldPart ≠ fieldName ∧ containsChars pipe content = false then
    .error (.placeholderSyntax content pos)
  else do
    validateFieldName fieldName pos
    let modifiers ← parseModifiers pos parts.tail
    .ok ⟨fieldName, modifiers⟩

/-! ### The scanner -/

/-- Text is collected up to the next brace, the content of a tag up to its closing brace. -/
inductive Mode
  | text (read : List Char)
  | tag (start : Nat) (read : List Char)

/-- The block that is open: its bodies so far, no else-body before its else. -/
structure Block where
  condition : Condition
  ifBody : List Leaf := []
  elseBody : Option (List Leaf) := none

/-- The parser in front of a character. -/
structure Parser where
  pos : Nat := 0
  mode : Mode := .text []
  ifBlockCount : Nat := 0
  nodes : List Node := []
  block : Option Block := none

/-- `nodes.append(leaf)`, in the list of nodes that is being read. -/
def Parser.append (s : Parser) (leaf : Leaf) : Parser :=
  match s.block with
  | none => { s with nodes := s.nodes ++ [.leaf leaf] }
  | some b =>
      match b.elseBody with
      | none => { s with block := some { b with ifBody := b.ifBody ++ [leaf] } }
      | some body => { s with block := some { b with elseBody := some (body ++ [leaf]) } }

/-- The collected text becomes a node, unless there is none. -/
def Parser.flush (s : Parser) (read : List Char) : Parser :=
  if read = [] then s else s.append (.text read)

/-- `_parse_if_block`, up to its first body. -/
def Parser.openIf (s : Parser) (content : List Char) (start : Nat) :
    Except ParseError Parser :=
  if s.block.isSome then .error (.nestedIf start)
  else if s.ifBlockCount + 1 > maxIfBlocks then .error (.tooManyIfs start)
  else do
    let condition ← parseCondition (stripChars (content.drop 3)) start
    .ok { s with ifBlockCount := s.ifBlockCount + 1, block := some { condition := condition } }

/-- The else tag ends the if-body.  In an else-body it ends the body as well, and the block is
not closed. -/
def Parser.openElse (s : Parser) (start : Nat) : Except ParseError Parser :=
  match s.block with
  | none => .error (.elseOutside start)
  | some b =>
      match b.elseBody with
      | none => .ok { s with block := some { b with elseBody := some [] } }
      | some _ => .error .unclosedElse

/-- The end tag closes the block. -/
def Parser.closeIf (s : Parser) (start : Nat) : Except ParseError Parser :=
  match s.block with
  | none => .error (.endifOutside start)
  | some b =>
      .ok { s with
        nodes := s.nodes ++ [.ifBlock b.condition b.ifBody (b.elseBody.getD [])],
        block := none }

/-- A tag has been read. -/
def Parser.readTag (s : Parser) (content : List Char) (start : Nat) :
    Except ParseError Parser :=
  if "#if ".toList.isPrefixOf content ∨ content = "#if".toList then s.openIf content start
  else if content = "#else".toList then s.openElse start
  else if content = "/if".toList then s.closeIf start
  else do
    let placeholder ← parsePlaceholder content start
    .ok (s.append (.placeholder placeholder))

/-- One character of the source. -/
def Parser.step (s : Parser) (c : Char) : Except ParseError Parser :=
  match s.mode with
  | .text read =>
      if c = '\x7b' then
        .ok { s.flush read with pos := s.pos + 1, mode := .tag s.pos [] }
      else
        .ok { s with pos := s.pos + 1, mode := .text (read ++ [c]) }
  | .tag start read =>
      if c = '\x7b' then .error (.nestedBraces s.pos)
      else if c = '\x7d' then do
        let s' ← s.readTag read start
        .ok { s' with pos := s.pos + 1, mode := .text [] }
      else
        .ok { s with pos := s.pos + 1, mode := .tag start (read ++ [c]) }

/-- The end of the source. -/
def Parser.finish (s : Parser) : Except ParseError (List Node) :=
  match s.mode with
  | .tag start _ => .error (.unclosedBrace start)
  | .text read =>
      match s.block with
      | some _ => .error .unclosedIf
      | none => .ok (s.flush read).nodes

/-- `parse`: the tree of a template. -/
def parse (template : List Char) : Except ParseError (List Node) := do
  let s ← template.foldlM Parser.step {}
  s.finish

end Sda.Templates
