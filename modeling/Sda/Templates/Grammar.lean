/-
Sda/Templates/Grammar.lean

The grammar of content templates, as trees that keep every character of their source.

A syntax tree of the parser forgets the blanks inside the tags and whether an empty else branch has a
tag.  A spelled tree has them: `print` writes the source again, and `placeholder`, `condition`,
`nodes` read the syntax tree off it.  What may be written is the validity of a spelled tree; it speaks
of names, blanks and braces, and of the parser only in the priority of the comparison operators.

Tags are read here, both ways: `SpelledPlaceholder.Valid.parsePlaceholder_print` and
`exists_of_parsePlaceholder`, `SpelledCondition.parseCondition_print` and `exists_of_parseCondition`;
the scanner that finds them is in the next module.

A condition that ends with its operator has no value.  The parser takes a condition for such a one
also if the operator stands in it before, between a blank and something else, and then the text in
between is `lost`; the grammar that the parser was written for has no such text (`Documented`).
-/
import Sda.Lib.Prog
import Sda.Lib.Scan
import Sda.Lib.Words
import Sda.Templates.Parser

namespace Sda.Templates

/-! ### Names, blanks, braces -/

/-- A field or modifier name. -/
def IsName : List Char → Prop
  | [] => False
  | c :: cs => isAsciiLetter c = true ∧ ∀ d ∈ cs, d.isAlphanum = true ∨ d = '_'

/-- A tag ends at its first closing brace, and has no opening brace. -/
def NoBrace (s : List Char) : Prop := '\x7b' ∉ s ∧ '\x7d' ∉ s

/-! ### Placeholders -/

/-- A modifier with the blanks around its name. -/
structure SpelledModifier where
  front : List Char := []
  name : List Char
  back : List Char := []
  arg : Option (List Char) := none

namespace SpelledModifier

def print (m : SpelledModifier) : List Char :=
  m.front ++ m.name ++ m.back ++
    match m.arg with
    | none => []
    | some arg => ':' :: arg

def modifier (m : SpelledModifier) : Modifier := ⟨m.name, m.arg⟩

structure Valid (m : SpelledModifier) : Prop where
  front : Blanks m.front
  name : IsName m.name
  back : Blanks m.back
  arg : ∀ arg, m.arg = some arg → argMatches arg = true

end SpelledModifier

/-- The content of a placeholder tag. -/
structure SpelledPlaceholder where
  front : List Char := []
  name : List Char
  back : List Char := []
  modifiers : List SpelledModifier := []

namespace SpelledPlaceholder

def print (p : SpelledPlaceholder) : List Char :=
  joinChars pipe ((p.front ++ p.name ++ p.back) :: p.modifiers.map SpelledModifier.print)

def placeholder (p : SpelledPlaceholder) : Placeholder :=
  ⟨p.name, p.modifiers.map SpelledModifier.modifier⟩

structure Valid (p : SpelledPlaceholder) : Prop where
  front : Blanks p.front
  name : IsName p.name
  back : Blanks p.back
  modifiers : ∀ m ∈ p.modifiers, m.Valid
  /-- A field alone has no blanks. -/
  alone : p.modifiers = [] → p.front = [] ∧ p.back = []

end SpelledPlaceholder

/-! ### Conditions -/

/-- A condition, without the blanks around it. -/
inductive SpelledCondition
  /-- `field` -/
  | truthy (name : List Char)
  /-- `field > value` -/
  | compare (name gap : List Char) (op : Operator × List Char) (front value : List Char)
  /-- `field >`, and what the parser loses. -/
  | bare (name gap : List Char) (op : Operator × List Char) (lost : List Char)

/-- The parser finds the operator in the condition. -/
def Found (op raw : List Char) : Prop :=
  ' ' :: op ++ [' '] <:+: raw ∨ ' ' :: op <:+: raw ∧ op <:+ raw

/-- It is the first that the parser finds, in the order of `_COMPARISON_OPS`. -/
def Chosen (op : Operator × List Char) (raw : List Char) : Prop :=
  ∃ before after, comparisonOps = before ++ op :: after ∧ ∀ o ∈ before, ¬Found o.2 raw

namespace SpelledCondition

def print : SpelledCondition → List Char
  | .truthy name => name
  | .compare name gap op front value =>
    name ++ gap ++ (' ' :: op.2 ++ [' '] ++ (front ++ value))
  | .bare name gap op lost => name ++ gap ++ ' ' :: (op.2 ++ lost)

def condition : SpelledCondition → Condition
  | .truthy name => ⟨name, .truthy, none⟩
  | .compare name _ op _ value => ⟨name, op.1, some value⟩
  | .bare name _ op _ => ⟨name, op.1, some []⟩

def Valid : SpelledCondition → Prop
  | .truthy name => IsName name
  | .compare name gap op front value => IsName name ∧ Blanks gap ∧
      Chosen op (print (.compare name gap op front value)) ∧
      Blanks front ∧ Trimmed value ∧ value ≠ [] ∧ NoBrace value
  | .bare name gap op lost => IsName name ∧ Blanks gap ∧
      Chosen op (print (.bare name gap op lost)) ∧
      op.2 <:+ op.2 ++ lost ∧ ¬ ' ' :: op.2 <:+: op.2 ++ lost ∧
      ¬ ' ' :: op.2 ++ [' '] <:+: print (.bare name gap op lost) ∧ NoBrace lost

/-- Nothing is lost. -/
def Documented : SpelledCondition → Prop
  | .bare _ _ _ lost => lost = []
  | .truthy _ | .compare _ _ _ _ _ => True

end SpelledCondition

/-! ### Bodies, blocks, templates -/

/-- Text that becomes a node, unless there is none. -/
def textLeaves (text : List Char) : List Leaf := if text = [] then [] else [.text text]

/-- Text and placeholders in turn; the texts may be empty. -/
structure Body where
  items : List (List Char × SpelledPlaceholder) := []
  tail : List Char := []

/-- A tag with its braces. -/
def tag (content : List Char) : List Char := '\x7b' :: (content ++ ['\x7d'])

namespace Body

def printItem (item : List Char × SpelledPlaceholder) : List Char := item.1 ++ tag item.2.print

def itemLeaves (item : List Char × SpelledPlaceholder) : List Leaf :=
  textLeaves item.1 ++ [.placeholder item.2.placeholder]

def print (b : Body) : List Char := b.items.flatMap printItem ++ b.tail

def leaves (b : Body) : List Leaf := b.items.flatMap itemLeaves ++ textLeaves b.tail

structure Valid (b : Body) : Prop where
  items : ∀ item ∈ b.items, '\x7b' ∉ item.1 ∧ item.2.Valid
  tail : '\x7b' ∉ b.tail

/-- One more text and placeholder in front. -/
def cons (text : List Char) (p : SpelledPlaceholder) (b : Body) : Body :=
  { b with items := (text, p) :: b.items }

end Body

/-- An if block. -/
structure SpelledBlock where
  front : List Char
  condition : SpelledCondition
  back : List Char
  ifBody : Body
  elseBody : Option Body

namespace SpelledBlock

def content (b : SpelledBlock) : List Char :=
  "#if ".toList ++ (b.front ++ b.condition.print ++ b.back)

/-- The else tag and what is behind it. -/
def printElse : Option Body → List Char
  | none => []
  | some body => tag "#else".toList ++ body.print

def print (b : SpelledBlock) : List Char :=
  tag b.content ++ b.ifBody.print ++ printElse b.elseBody ++ tag "/if".toList

def elseLeaves (body : Option Body) : List Leaf := (body.map Body.leaves).getD []

def node (b : SpelledBlock) : Node :=
  .ifBlock b.condition.condition b.ifBody.leaves (elseLeaves b.elseBody)

structure Valid (b : SpelledBlock) : Prop where
  front : Blanks b.front
  condition : b.condition.Valid
  back : Blanks b.back
  ifBody : b.ifBody.Valid
  elseBody : ∀ body, b.elseBody = some body → body.Valid

end SpelledBlock

/-- A template: its blocks, each with what stands in front of it, and what stands behind the last. -/
structure Template where
  blocks : List (Body × SpelledBlock) := []
  last : Body := {}

namespace Template

def printBlock (b : Body × SpelledBlock) : List Char := b.1.print ++ b.2.print

def blockNodes (b : Body × SpelledBlock) : List Node := b.1.leaves.map .leaf ++ [b.2.node]

def print (t : Template) : List Char := t.blocks.flatMap printBlock ++ t.last.print

def nodes (t : Template) : List Node := t.blocks.flatMap blockNodes ++ t.last.leaves.map .leaf

/-- What the parser accepts. -/
structure Accepted (t : Template) : Prop where
  blocks : ∀ b ∈ t.blocks, b.1.Valid ∧ b.2.Valid
  last : t.last.Valid
  count : t.blocks.length ≤ maxIfBlocks

/-- What it was written for. -/
structure Documented (t : Template) : Prop where
  accepted : t.Accepted
  conditions : ∀ b ∈ t.blocks, b.2.condition.Documented

end Template

/-! ### Names in texts -/

theorem IsName.ne_nil {name : List Char} (h : IsName name) : name ≠ [] := by
  rintro rfl
  exact h

/-- A property of letters, digits and the underscore. -/
theorem IsName.forall_mem {name : List Char} (h : IsName name) {p : Char → Prop}
    (halphanum : ∀ c, c.isAlphanum = true → p c) (hunderscore : p '_') : ∀ c ∈ name, p c := by
  cases name with
  | nil => exact nofun
  | cons c cs =>
    obtain ⟨hfirst, hrest⟩ := h
    intro d hd
    rcases List.mem_cons.mp hd with rfl | hd
    · unfold isAsciiLetter at hfirst
      rcases Bool.or_eq_true_iff.mp hfirst with halpha | hunder
      · apply halphanum
        unfold Char.isAlphanum
        rw [halpha]
        rfl
      · rw [beq_iff_eq.mp hunder]
        exact hunderscore
    · rcases hrest d hd with hd | rfl
      · exact halphanum d hd
      · exact hunderscore

theorem IsName.not_mem {name : List Char} (h : IsName name) {x : Char}
    (hx : x.isAlphanum = false ∧ x ≠ '_') : x ∉ name := by
  intro hmem
  have hall := h.forall_mem (p := fun c => c ≠ x)
    (by rintro c hc rfl; rw [hx.1] at hc; cases hc) hx.2.symm
  exact hall x hmem rfl

theorem IsName.no_blank {name : List Char} (h : IsName name) : ∀ c ∈ name, isSpaceChar c = false :=
  h.forall_mem (fun _ => isSpaceChar_of_isAlphanum) (by decide)

theorem trimmed_of_no_blank {s : List Char} (h : ∀ c ∈ s, isSpaceChar c = false) : Trimmed s := by
  constructor
  · cases hhead : s.head? with
    | none => rfl
    | some c => exact h c (List.mem_of_mem_head? hhead)
  · cases hlast : s.getLast? with
    | none => rfl
    | some c => exact h c (List.mem_of_mem_getLast? hlast)

theorem IsName.trimmed {name : List Char} (h : IsName name) : Trimmed name :=
  trimmed_of_no_blank h.no_blank

/-- On a stripped text the pattern of the names has no line feed to spare. -/
theorem nameMatches_iff {name : List Char} (h : Trimmed name) :
    nameMatches name = true ↔ IsName name := by
  cases name with
  | nil => exact iff_of_false Bool.false_ne_true id
  | cons c cs =>
    have hend : cs.getLast? ≠ some '\n' := by
      intro hlast
      have hback := h.back
      rw [List.getLast?_cons_of_ne_nil (by rintro rfl; cases hlast), hlast] at hback
      cases hback
    have hlast : (cs.getLast? == some '\n') = false := beq_eq_false_iff_ne.mpr hend
    show (isAsciiLetter c && (cs.all (fun c => c.isAlphanum || c == '_') ||
      (cs.getLast? == some '\n' && cs.dropLast.all fun c => c.isAlphanum || c == '_'))) = true ↔
        isAsciiLetter c = true ∧ ∀ d ∈ cs, d.isAlphanum = true ∨ d = '_'
    rw [hlast]
    simp

theorem validateFieldName_eq_ok {name : List Char} (h : Trimmed name) {pos : Nat} :
    validateFieldName name pos = .ok () ↔ IsName name := by
  rw [← nameMatches_iff h]
  unfold validateFieldName
  cases name with
  | nil => simp [nameMatches]
  | cons c cs => cases nameMatches (c :: cs) <;> simp

theorem validateModifierName_eq_ok {name : List Char} (h : Trimmed name) {pos : Nat} :
    validateModifierName name pos = .ok () ↔ IsName name := by
  rw [← nameMatches_iff h]
  unfold validateModifierName
  cases name with
  | nil => simp [nameMatches]
  | cons c cs => cases nameMatches (c :: cs) <;> simp

theorem validateModifierArg_eq_ok {arg : List Char} {pos : Nat} :
    validateModifierArg arg pos = .ok () ↔ argMatches arg = true := by
  unfold validateModifierArg
  cases argMatches arg <;> simp

/-- The characters of an argument. -/
theorem argMatches_not_mem {arg : List Char} (h : argMatches arg = true) {x : Char}
    (hx : x.isAlphanum = false ∧ "_ /,.:;!?-".toList.contains x = false ∧ x ≠ '\n') : x ∉ arg := by
  intro hmem
  unfold argMatches allToEnd at h
  rcases Bool.or_eq_true_iff.mp h with hall | hline
  · have := List.all_eq_true.mp hall x hmem
    rw [hx.1, hx.2.1] at this
    cases this
  · obtain ⟨hlast, hall⟩ := Bool.and_eq_true_iff.mp hline
    obtain ⟨body, rfl⟩ := List.getLast?_eq_some_iff.mp (beq_iff_eq.mp hlast)
    rw [List.dropLast_concat] at hall
    rcases List.mem_append.mp hmem with hmem | hmem
    · have := List.all_eq_true.mp hall x hmem
      rw [hx.1, hx.2.1] at this
      cases this
    · exact hx.2.2 (List.mem_singleton.mp hmem)

/-! ### Modifiers -/

namespace SpelledModifier

variable {m : SpelledModifier}

/-- What is in front of the argument. -/
theorem Valid.not_mem_head (h : m.Valid) {x : Char}
    (hx : x.isAlphanum = false ∧ x ≠ '_' ∧ isSpaceChar x = false) :
    x ∉ m.front ++ m.name ++ m.back := by
  have hfront := Blanks.not_mem h.front hx.2.2
  have hname := h.name.not_mem ⟨hx.1, hx.2.1⟩
  have hback := Blanks.not_mem h.back hx.2.2
  simp [hfront, hname, hback]

theorem Valid.not_mem_print (h : m.Valid) {x : Char}
    (hx : x.isAlphanum = false ∧ x ≠ '_' ∧ isSpaceChar x = false)
    (harg : "_ /,.:;!?-".toList.contains x = false ∧ x ≠ '\n' ∧ x ≠ ':') : x ∉ m.print := by
  have hhead := h.not_mem_head hx
  have hvalid := h.arg
  unfold print
  cases hm : m.arg with
  | none =>
    rw [List.append_nil]
    exact hhead
  | some arg =>
    have := argMatches_not_mem (hvalid arg hm) ⟨hx.1, harg.1, harg.2.1⟩
    rw [List.mem_append, List.mem_cons, not_or, not_or]
    exact ⟨hhead, harg.2.2, this⟩

theorem Valid.stripChars_head (h : m.Valid) :
    stripChars (m.front ++ m.name ++ m.back) = m.name :=
  stripChars_between h.front h.name.trimmed h.name.ne_nil h.back

/-- There is something in it. -/
theorem Valid.stripChars_print_ne_nil (h : m.Valid) : stripChars m.print ≠ [] := by
  intro hnil
  obtain ⟨x, y, hx, hy, hsplit, -⟩ := stripChars_split m.print
  rw [hnil, List.append_nil] at hsplit
  obtain ⟨c, hc⟩ := List.exists_mem_of_ne_nil m.name h.name.ne_nil
  have hmem : c ∈ m.print := by
    unfold print
    simp [hc]
  rw [hsplit] at hmem
  have hblank : isSpaceChar c = true := (List.mem_append.mp hmem).elim (hx c) (hy c)
  rw [h.name.no_blank c hc] at hblank
  cases hblank

/-- **The parser reads back what a modifier prints.** -/
theorem Valid.parseModifier_print (h : m.Valid) (pos : Nat) :
    parseModifier m.print pos = .ok m.modifier := by
  have hcolon : ':' ∉ m.front ++ m.name ++ m.back := h.not_mem_head (by decide)
  have hname : validateModifierName m.name pos = .ok () :=
    (validateModifierName_eq_ok h.name.trimmed).mpr h.name
  have hvalid := h.arg
  unfold parseModifier print modifier
  cases hm : m.arg with
  | none =>
    have hnone : findChars [':'] (m.front ++ m.name ++ m.back) = none :=
      findChars_single_eq_none_iff.mpr hcolon
    simp only [List.append_nil]
    rw [hnone]
    simp only [h.stripChars_head, hname]
    rfl
  | some arg =>
    have harg : validateModifierArg arg pos = .ok () := validateModifierArg_eq_ok.mpr (hvalid arg hm)
    rw [findChars_single hcolon]
    have htake : (m.front ++ m.name ++ m.back ++ ':' :: arg).take
      (m.front ++ m.name ++ m.back).length = m.front ++ m.name ++ m.back := List.take_left' rfl
    have hdrop : (m.front ++ m.name ++ m.back ++ ':' :: arg).drop
        ((m.front ++ m.name ++ m.back).length + 1) = arg := by
      rw [List.drop_append]
      simp
    simp only [htake, hdrop, h.stripChars_head, hname, harg]
    rfl

/-- **What the parser takes for a modifier is the print of one.** -/
theorem exists_of_parseModifier {raw : List Char} {pos : Nat} {modifier : Modifier}
    (h : parseModifier raw pos = .ok modifier) :
    ∃ m : SpelledModifier, m.Valid ∧ m.print = raw ∧ m.modifier = modifier := by
  unfold parseModifier at h
  cases hcolon : findChars [':'] raw with
  | none =>
    rw [hcolon] at h
    obtain ⟨front, back, hfront, hback, hsplit, htrimmed⟩ := stripChars_split raw
    obtain ⟨⟨⟩, hname, heq⟩ := except_bind_ok.mp h
    obtain rfl := Except.ok.inj heq
    refine ⟨{ front, name := stripChars raw, back }, ⟨hfront, ?_, hback, nofun⟩, ?_, rfl⟩
    · exact (validateModifierName_eq_ok htrimmed).mp hname
    · show front ++ stripChars raw ++ back ++ [] = raw
      rw [List.append_nil, ← hsplit]
  | some i =>
    rw [hcolon] at h
    obtain ⟨front, back, hfront, hback, hsplit, htrimmed⟩ := stripChars_split (raw.take i)
    obtain ⟨⟨⟩, hname, h⟩ := except_bind_ok.mp h
    obtain ⟨⟨⟩, harg, heq⟩ := except_bind_ok.mp h
    obtain rfl := Except.ok.inj heq
    refine ⟨{ front, name := stripChars (raw.take i), back, arg := some (raw.drop (i + 1)) },
      ⟨hfront, ?_, hback, ?_⟩, ?_, rfl⟩
    · exact (validateModifierName_eq_ok htrimmed).mp hname
    · rintro arg ⟨⟩
      exact validateModifierArg_eq_ok.mp harg
    · have hraw := findChars_some hcolon
      show front ++ stripChars (raw.take i) ++ back ++ ':' :: raw.drop (i + 1) = raw
      rw [← hsplit]
      conv_rhs => rw [hraw]
      simp

end SpelledModifier

/-! ### Placeholders, read -/

theorem parseModifiers_print {modifiers : List SpelledModifier} (h : ∀ m ∈ modifiers, m.Valid)
    (pos : Nat) : parseModifiers pos (modifiers.map SpelledModifier.print) =
      .ok (modifiers.map SpelledModifier.modifier) := by
  induction modifiers with
  | nil => rfl
  | cons m modifiers ih =>
    have hm : m.Valid := h m List.mem_cons_self
    rw [List.map_cons, parseModifiers, if_neg hm.stripChars_print_ne_nil, hm.parseModifier_print,
      ih fun m hm => h m (List.mem_cons_of_mem _ hm)]
    rfl

theorem exists_of_parseModifiers {parts : List (List Char)} {pos : Nat} {modifiers : List Modifier}
    (h : parseModifiers pos parts = .ok modifiers) : ∃ ms : List SpelledModifier,
      (∀ m ∈ ms, m.Valid) ∧ ms.map SpelledModifier.print = parts ∧
        ms.map SpelledModifier.modifier = modifiers := by
  induction parts generalizing modifiers with
  | nil =>
    obtain rfl := Except.ok.inj h
    exact ⟨[], nofun, rfl, rfl⟩
  | cons part parts ih =>
    rw [parseModifiers] at h
    by_cases hblank : stripChars part = []
    · rw [if_pos hblank] at h
      cases h
    rw [if_neg hblank] at h
    obtain ⟨modifier, hmodifier, h⟩ := except_bind_ok.mp h
    obtain ⟨rest, hrest, heq⟩ := except_bind_ok.mp h
    obtain rfl := Except.ok.inj heq
    obtain ⟨m, hm, hprint, rfl⟩ := SpelledModifier.exists_of_parseModifier hmodifier
    obtain ⟨ms, hms, hprints, rfl⟩ := ih hrest
    refine ⟨m :: ms, ?_, ?_, rfl⟩
    · intro n hn
      rcases List.mem_cons.mp hn with rfl | hn
      · exact hm
      · exact hms n hn
    · rw [List.map_cons, hprint, hprints]

theorem pipe_ne_nil : pipe ≠ [] := List.cons_ne_nil _ _

/-- Splitting is on blanks and a bar, which no part has. -/
theorem splitChars_pipe {parts : List (List Char)} (hne : parts ≠ []) (h : ∀ p ∈ parts, '|' ∉ p) :
    splitChars pipe (joinChars pipe parts) = parts :=
  splitChars_joinChars (by decide) hne h

namespace SpelledPlaceholder

variable {p : SpelledPlaceholder}

/-- The part in front of the modifiers. -/
theorem Valid.not_mem_field (h : p.Valid) {x : Char}
    (hx : x.isAlphanum = false ∧ x ≠ '_' ∧ isSpaceChar x = false) :
    x ∉ p.front ++ p.name ++ p.back := by
  have hfront := Blanks.not_mem h.front hx.2.2
  have hname := h.name.not_mem ⟨hx.1, hx.2.1⟩
  have hback := Blanks.not_mem h.back hx.2.2
  simp [hfront, hname, hback]

theorem Valid.stripChars_field (h : p.Valid) :
    stripChars (p.front ++ p.name ++ p.back) = p.name :=
  stripChars_between h.front h.name.trimmed h.name.ne_nil h.back

/-- Its parts are had back. -/
theorem Valid.splitChars_print (h : p.Valid) : splitChars pipe p.print =
    (p.front ++ p.name ++ p.back) :: p.modifiers.map SpelledModifier.print := by
  apply splitChars_pipe (List.cons_ne_nil _ _)
  intro part hpart
  rcases List.mem_cons.mp hpart with rfl | hpart
  · exact h.not_mem_field (by decide)
  · obtain ⟨m, hm, rfl⟩ := List.mem_map.mp hpart
    exact (h.modifiers m hm).not_mem_print (by decide) (by decide)

/-- The parser on the parts of a tag. -/
theorem parsePlaceholder_eq {content field : List Char} {parts : List (List Char)}
    (h : splitChars pipe content = field :: parts) (pos : Nat) : parsePlaceholder content pos =
      if field ≠ stripChars field ∧ containsChars pipe content = false then
        .error (.placeholderSyntax content pos)
      else
        validateFieldName (stripChars field) pos >>= fun _ =>
          parseModifiers pos parts >>= fun modifiers => .ok ⟨stripChars field, modifiers⟩ := by
  unfold parsePlaceholder
  rw [h]
  rfl

/-- **The parser reads back what a placeholder prints.** -/
theorem Valid.parsePlaceholder_print (h : p.Valid) (pos : Nat) :
    parsePlaceholder p.print pos = .ok p.placeholder := by
  have hname : validateFieldName p.name pos = .ok () :=
    (validateFieldName_eq_ok h.name.trimmed).mpr h.name
  have hblanks : ¬(p.front ++ p.name ++ p.back ≠ p.name ∧ containsChars pipe p.print = false) := by
    rintro ⟨hne, hpipe⟩
    apply hne
    have hnot : ¬pipe <:+: p.print := by
      rw [← containsChars_iff, hpipe]
      exact Bool.false_ne_true
    have hsingle := (splitCharsFrom_eq_singleton_iff [] p.print pipe_ne_nil).mpr hnot
    have hsplit : (splitChars pipe p.print).tail = [] := hsingle
    rw [h.splitChars_print, List.tail_cons, List.map_eq_nil_iff] at hsplit
    obtain ⟨hfront, hback⟩ := h.alone hsplit
    rw [hfront, hback]
    simp
  rw [parsePlaceholder_eq h.splitChars_print, h.stripChars_field, if_neg hblanks, hname]
  show (parseModifiers pos (p.modifiers.map SpelledModifier.print) >>= fun modifiers => _) = _
  rw [parseModifiers_print h.modifiers]
  rfl

/-- **What the parser takes for a placeholder is the print of one.** -/
theorem exists_of_parsePlaceholder {content : List Char} {pos : Nat} {placeholder : Placeholder}
    (h : parsePlaceholder content pos = .ok placeholder) :
    ∃ p : SpelledPlaceholder, p.Valid ∧ p.print = content ∧ p.placeholder = placeholder := by
  have hjoin : joinChars pipe (splitChars pipe content) = content :=
    joinChars_splitChars pipe_ne_nil content
  obtain ⟨field, parts, hparts⟩ := List.exists_cons_of_ne_nil (splitCharsFrom_ne_nil pipe [] content)
  have hsplit : splitChars pipe content = field :: parts := hparts
  rw [parsePlaceholder_eq hsplit] at h
  rw [hsplit] at hjoin
  by_cases hblanks : field ≠ stripChars field ∧ containsChars pipe content = false
  · rw [if_pos hblanks] at h
    cases h
  rw [if_neg hblanks] at h
  obtain ⟨⟨⟩, hname, h⟩ := except_bind_ok.mp h
  obtain ⟨modifiers, hmodifiers, heq⟩ := except_bind_ok.mp h
  obtain rfl := Except.ok.inj heq
  obtain ⟨ms, hms, hprints, rfl⟩ := exists_of_parseModifiers hmodifiers
  obtain ⟨front, back, hfront, hback, hfield, htrimmed⟩ := stripChars_split field
  have hvalid : IsName (stripChars field) := (validateFieldName_eq_ok htrimmed).mp hname
  by_cases halone : ms = []
  · -- without modifiers the field is its name
    subst halone
    obtain rfl : parts = [] := hprints.symm
    have hnot : ¬pipe <:+: content :=
      (splitCharsFrom_eq_singleton_iff [] content pipe_ne_nil).mp (by rw [hparts]; rfl)
    have hcontains : containsChars pipe content = false := by
      rw [Bool.eq_false_iff, ne_eq, containsChars_iff]
      exact hnot
    have hplain : field = stripChars field := by
      by_contra hne
      exact hblanks ⟨hne, hcontains⟩
    refine ⟨{ name := stripChars field }, ⟨nofun, hvalid, nofun, nofun, fun _ => ⟨rfl, rfl⟩⟩, ?_, rfl⟩
    show joinChars pipe [[] ++ stripChars field ++ []] = content
    rw [List.nil_append, List.append_nil, ← hplain, hjoin]
  · refine ⟨{ front, name := stripChars field, back, modifiers := ms },
      ⟨hfront, hvalid, hback, hms, fun h => absurd h halone⟩, ?_, rfl⟩
    show joinChars pipe ((front ++ stripChars field ++ back) :: ms.map SpelledModifier.print) = content
    rw [← hfield, hprints, hjoin]

end SpelledPlaceholder

/-! ### Conditions, read -/

variable {raw : List Char} {pos : Nat}

/-- An operator that is not found is passed over. -/
theorem parseConditionWith_skip {op : Operator × List Char} (h : ¬Found op.2 raw)
    (ops : List (Operator × List Char)) :
    parseConditionWith raw pos (op :: ops) = parseConditionWith raw pos ops := by
  unfold Found at h
  rw [not_or, not_and] at h
  have hbetween : findChars (' ' :: op.2 ++ [' ']) raw = none := findChars_eq_none_iff.mpr h.1
  rw [parseConditionWith, hbetween]
  cases hlast : rfindChars (' ' :: op.2) raw with
  | none => rfl
  | some i =>
    have hfound : ' ' :: op.2 <:+: raw := by
      by_contra hnot
      rw [rfindChars_eq_none_iff.mpr hnot] at hlast
      cases hlast
    have hsuffix : ¬op.2.isSuffixOf raw = true := by
      rw [List.isSuffixOf_iff_suffix]
      exact h.2 hfound
    show (if op.2.isSuffixOf raw = true then _ else _) = _
    rw [if_neg hsuffix]

theorem parseConditionWith_append {before : List (Operator × List Char)}
    (h : ∀ o ∈ before, ¬Found o.2 raw) (ops : List (Operator × List Char)) :
    parseConditionWith raw pos (before ++ ops) = parseConditionWith raw pos ops := by
  induction before with
  | nil => rfl
  | cons o before ih =>
    rw [List.cons_append, parseConditionWith_skip (h o List.mem_cons_self),
      ih fun o' ho' => h o' (List.mem_cons_of_mem o ho')]

/-- The parser goes on with the operator it finds. -/
theorem parseCondition_chosen {op : Operator × List Char} (h : Chosen op raw) (hne : raw ≠ []) :
    ∃ after, parseCondition raw pos = parseConditionWith raw pos (op :: after) := by
  obtain ⟨before, after, hops, hnone⟩ := h
  refine ⟨after, ?_⟩
  unfold parseCondition
  rw [if_neg hne, hops, parseConditionWith_append hnone]

/-- The operator stands between blanks. -/
theorem parseConditionWith_between {op : Operator × List Char} {i : Nat}
    (h : findChars (' ' :: op.2 ++ [' ']) raw = some i) (ops : List (Operator × List Char)) :
    parseConditionWith raw pos (op :: ops) =
      validateFieldName (stripChars (raw.take i)) pos >>= fun _ =>
        .ok ⟨stripChars (raw.take i), op.1, some (stripChars (raw.drop (i + op.2.length + 2)))⟩ := by
  rw [parseConditionWith, h]

/-- The operator stands behind a blank, and at the end. -/
theorem parseConditionWith_end {op : Operator × List Char} {i : Nat}
    (hbetween : ¬ ' ' :: op.2 ++ [' '] <:+: raw) (h : rfindChars (' ' :: op.2) raw = some i)
    (hend : op.2 <:+ raw) (ops : List (Operator × List Char)) :
    parseConditionWith raw pos (op :: ops) =
      validateFieldName (stripChars (raw.take i)) pos >>= fun _ =>
        .ok ⟨stripChars (raw.take i), op.1, some []⟩ := by
  rw [parseConditionWith, findChars_eq_none_iff.mpr hbetween, h]
  show (if op.2.isSuffixOf raw = true then _ else _) = _
  rw [if_pos (List.isSuffixOf_iff_suffix.mpr hend)]

/-- An operator begins with a character that no name has, and has no blank. -/
structure IsOp (op : List Char) : Prop where
  exists_cons : ∃ b rest, op = b :: rest ∧ b.isAlphanum = false ∧ b ≠ '_' ∧ isSpaceChar b = false
  no_blank : ∀ c ∈ op, isSpaceChar c = false

theorem isOp_of_mem {op : Operator × List Char} (h : op ∈ comparisonOps) : IsOp op.2 := by
  unfold comparisonOps at h
  simp only [List.mem_cons, List.not_mem_nil, or_false] at h
  rcases h with rfl | rfl | rfl | rfl | rfl | rfl
  all_goals
    exact ⟨⟨_, _, rfl, by decide, by decide, by decide⟩, List.forall_iff_forall_mem.mp (by decide)⟩

theorem Chosen.isOp {op : Operator × List Char} (h : Chosen op raw) : IsOp op.2 := by
  obtain ⟨before, after, hops, -⟩ := h
  apply isOp_of_mem
  rw [hops]
  exact List.mem_append_right before List.mem_cons_self

namespace SpelledCondition

/-- **The parser reads back what a condition prints.** -/
theorem parseCondition_print {c : SpelledCondition} (h : c.Valid) (pos : Nat) :
    parseCondition c.print pos = .ok c.condition := by
  cases c with
  | truthy name =>
    have hname : IsName name := h
    have hnone : ∀ o ∈ comparisonOps, ¬Found o.2 name := by
      have hblank : ' ' ∉ name := fun hmem => absurd (hname.no_blank ' ' hmem) (by decide)
      rintro o - (hfound | ⟨hfound, -⟩)
      · exact hblank (hfound.subset List.mem_cons_self)
      · exact hblank (hfound.subset List.mem_cons_self)
    have hvalid : validateFieldName name pos = .ok () :=
      (validateFieldName_eq_ok hname.trimmed).mpr hname
    show parseCondition name pos = _
    unfold parseCondition
    rw [if_neg hname.ne_nil, ← List.append_nil comparisonOps, parseConditionWith_append hnone,
      parseConditionWith, hname.trimmed.stripChars, hvalid]
    rfl
  | compare name gap op front value =>
    obtain ⟨hname, hgap, hchosen, hfront, htrimmed, hne, -⟩ := h
    obtain ⟨after, hafter⟩ := parseCondition_chosen hchosen (by simp [print])
    obtain ⟨b, rest, hop, hb⟩ := hchosen.isOp.exists_cons
    have hmem : b ∉ name ++ gap := by
      rw [List.mem_append, not_or]
      exact ⟨hname.not_mem ⟨hb.1, hb.2.1⟩, Blanks.not_mem hgap hb.2.2⟩
    have hblank : ' ' ≠ b := by
      rintro rfl
      exact absurd hb.2.2 (by decide)
    have hfind : findChars (' ' :: op.2 ++ [' ']) (print (.compare name gap op front value)) =
        some (name ++ gap).length := by
      show findChars _ (name ++ gap ++ (' ' :: op.2 ++ [' '] ++ (front ++ value))) = _
      rw [hop]
      exact findChars_append hmem hblank
    have htake : (print (.compare name gap op front value)).take (name ++ gap).length =
      name ++ gap := List.take_left' rfl
    have hdrop : (print (.compare name gap op front value)).drop
        ((name ++ gap).length + op.2.length + 2) = front ++ value := by
      show (name ++ gap ++ (' ' :: op.2 ++ [' '] ++ (front ++ value))).drop _ = _
      rw [← List.append_assoc]
      apply List.drop_left'
      simp
      omega
    have hfield : stripChars (name ++ gap) = name :=
      stripChars_between (x := []) nofun hname.trimmed hname.ne_nil hgap
    have hvalue : stripChars (front ++ value) = value := by
      have := stripChars_between hfront htrimmed hne (y := []) nofun
      rwa [List.append_nil] at this
    have hvalid : validateFieldName name pos = .ok () :=
      (validateFieldName_eq_ok hname.trimmed).mpr hname
    rw [hafter, parseConditionWith_between hfind, htake, hdrop, hfield, hvalue, hvalid]
    rfl
  | bare name gap op lost =>
    obtain ⟨hname, hgap, hchosen, hend, hlast, hbetween, -⟩ := h
    obtain ⟨after, hafter⟩ := parseCondition_chosen hchosen (by simp [print])
    have hfind : rfindChars (' ' :: op.2) (print (.bare name gap op lost)) =
      some (name ++ gap).length := rfindChars_append hlast
    have hsuffix : op.2 <:+ print (.bare name gap op lost) := by
      apply hend.trans
      exact (List.suffix_cons ' ' _).trans (List.suffix_append _ _)
    have htake : (print (.bare name gap op lost)).take (name ++ gap).length = name ++ gap :=
      List.take_left' rfl
    have hfield : stripChars (name ++ gap) = name :=
      stripChars_between (x := []) nofun hname.trimmed hname.ne_nil hgap
    have hvalid : validateFieldName name pos = .ok () :=
      (validateFieldName_eq_ok hname.trimmed).mpr hname
    rw [hafter, parseConditionWith_end hbetween hfind hsuffix, htake, hfield, hvalid]
    rfl

/-- In front of the operator are the name and blanks. -/
theorem exists_gap {x y : List Char} (htrimmed : Trimmed (x ++ y)) (hname : IsName (stripChars x)) :
    ∃ gap, Blanks gap ∧ x = stripChars x ++ gap := by
  obtain ⟨front, gap, hfront, hgap, hsplit, -⟩ := stripChars_split x
  cases front with
  | nil => exact ⟨gap, hgap, hsplit⟩
  | cons c front =>
    have hhead : (x ++ y).head? = some c := by
      rw [hsplit]
      rfl
    have hblank := htrimmed.front
    rw [hhead, Option.any_some, hfront c List.mem_cons_self] at hblank
    cases hblank

/-- Behind a blank are blanks and the value. -/
theorem exists_value {x y : List Char} (htrimmed : Trimmed (x ++ ' ' :: y)) :
    ∃ front, Blanks front ∧ y = front ++ stripChars y ∧ Trimmed (stripChars y) ∧
      stripChars y ≠ [] := by
  obtain ⟨front, back, hfront, hback, hsplit, hvalue⟩ := stripChars_split y
  have hlast : ∀ z, ∀ c, isSpaceChar c = true → x ++ ' ' :: y ≠ z ++ [c] := by
    intro z c hc heq
    have hback := htrimmed.back
    rw [heq, List.getLast?_concat, Option.any_some, hc] at hback
    cases hback
  have hnil : back = [] := by
    rcases List.eq_nil_or_concat back with hnil | ⟨init, c, hconcat⟩
    · exact hnil
    · exfalso
      rw [List.concat_eq_append] at hconcat
      apply hlast (x ++ ' ' :: (front ++ stripChars y ++ init)) c
      · exact hback c (by rw [hconcat]; simp)
      · conv_lhs => rw [hsplit, hconcat]
        simp
  refine ⟨front, hfront, by simpa [hnil] using hsplit, hvalue, ?_⟩
  intro hempty
  have hy : y = front := by
    rw [hnil, hempty] at hsplit
    simpa using hsplit
  rcases List.eq_nil_or_concat front with hfrontnil | ⟨init, c, hconcat⟩
  · apply hlast x ' ' (by decide)
    rw [hy, hfrontnil]
  · rw [List.concat_eq_append] at hconcat
    apply hlast (x ++ ' ' :: init) c
    · exact hfront c (by rw [hconcat]; simp)
    · rw [hy, hconcat]
      simp

/-- What the operators behind some others make of a condition. -/
theorem exists_of_parseConditionWith {raw : List Char} (htrimmed : Trimmed raw) (hbrace : NoBrace raw)
    {before ops : List (Operator × List Char)} (hops : comparisonOps = before ++ ops)
    (hnone : ∀ o ∈ before, ¬Found o.2 raw) {pos : Nat} {condition : Condition}
    (h : parseConditionWith raw pos ops = .ok condition) :
    ∃ c : SpelledCondition, c.Valid ∧ c.print = raw ∧ c.condition = condition := by
  induction ops generalizing before with
  | nil =>
    rw [parseConditionWith, htrimmed.stripChars] at h
    obtain ⟨⟨⟩, hname, heq⟩ := except_bind_ok.mp h
    obtain rfl := Except.ok.inj heq
    exact ⟨.truthy raw, (validateFieldName_eq_ok htrimmed).mp hname, rfl, rfl⟩
  | cons op ops ih =>
    have hchosen : Chosen op raw := ⟨before, ops, hops, hnone⟩
    have hop : IsOp op.2 := hchosen.isOp
    cases hbetween : findChars (' ' :: op.2 ++ [' ']) raw with
    | some i =>
      rw [parseConditionWith_between hbetween] at h
      obtain ⟨⟨⟩, hvalid, heq⟩ := except_bind_ok.mp h
      obtain rfl := Except.ok.inj heq
      have hraw := findChars_some hbetween
      have hdrop : raw.drop (i + (' ' :: op.2 ++ [' ']).length) = raw.drop (i + op.2.length + 2) := by
        congr 1
        simp
        omega
      rw [hdrop] at hraw
      have hname : IsName (stripChars (raw.take i)) := by
        obtain ⟨x, y, -, -, -, hfield⟩ := stripChars_split (raw.take i)
        exact (validateFieldName_eq_ok hfield).mp hvalid
      obtain ⟨gap, hgap, hfield⟩ := exists_gap
        (x := raw.take i) (y := raw.drop i) (by rw [List.take_append_drop]; exact htrimmed) hname
      obtain ⟨front, hfront, hrest, hvalue, hne⟩ := exists_value
        (x := raw.take i ++ ' ' :: op.2) (y := raw.drop (i + op.2.length + 2)) (by
          have : raw.take i ++ ' ' :: op.2 ++ ' ' :: raw.drop (i + op.2.length + 2) = raw := by
            conv_rhs => rw [hraw]
            simp
          rw [this]
          exact htrimmed)
      have hprint : print (.compare (stripChars (raw.take i)) gap op front
          (stripChars (raw.drop (i + op.2.length + 2)))) = raw := by
        show stripChars (raw.take i) ++ gap ++ (' ' :: op.2 ++ [' '] ++ (front ++ _)) = raw
        rw [← hfield, ← hrest, ← List.append_assoc]
        exact hraw.symm
      refine ⟨.compare (stripChars (raw.take i)) gap op front
        (stripChars (raw.drop (i + op.2.length + 2))),
        ⟨hname, hgap, hprint.symm ▸ hchosen, hfront, hvalue, hne, ?_⟩, hprint, rfl⟩
      have hsub : stripChars (raw.drop (i + op.2.length + 2)) ⊆ raw := by
        intro c hc
        rw [← hprint]
        show c ∈ stripChars (raw.take i) ++ gap ++ (' ' :: op.2 ++ [' '] ++ (front ++ _))
        simp [hc]
      exact ⟨fun hmem => hbrace.1 (hsub hmem), fun hmem => hbrace.2 (hsub hmem)⟩
    | none =>
      have hnot : ¬ ' ' :: op.2 ++ [' '] <:+: raw := findChars_eq_none_iff.mp hbetween
      by_cases hfound : Found op.2 raw
      · rcases hfound with hfound | ⟨hfound, hend⟩
        · exact absurd hfound hnot
        obtain ⟨i, hi⟩ : ∃ i, rfindChars (' ' :: op.2) raw = some i := by
          cases hlast : rfindChars (' ' :: op.2) raw with
          | none => exact absurd hfound (rfindChars_eq_none_iff.mp hlast)
          | some i => exact ⟨i, rfl⟩
        rw [parseConditionWith_end hnot hi hend] at h
        obtain ⟨⟨⟩, hvalid, heq⟩ := except_bind_ok.mp h
        obtain rfl := Except.ok.inj heq
        obtain ⟨hraw, hlast⟩ := rfindChars_some (List.cons_ne_nil _ _) hi
        generalize hlost : raw.drop (i + (' ' :: op.2).length) = lost at hraw
        have hsplit : raw = raw.take i ++ ' ' :: (op.2 ++ lost) := by
          conv_lhs => rw [hraw]
          simp
        have hi : (raw.take i).length = i := by
          have hlength := congrArg List.length hsplit
          rw [List.length_append, List.length_cons, List.length_take] at hlength
          rw [List.length_take]
          omega
        have hdrop : raw.drop (i + 1) = op.2 ++ lost := by
          conv_lhs => rw [hsplit]
          rw [List.drop_append, hi]
          simp [hi]
        rw [hdrop] at hlast
        have hname : IsName (stripChars (raw.take i)) := by
          obtain ⟨x, y, -, -, -, hfield⟩ := stripChars_split (raw.take i)
          exact (validateFieldName_eq_ok hfield).mp hvalid
        obtain ⟨gap, hgap, hfield⟩ := exists_gap (x := raw.take i) (y := ' ' :: (op.2 ++ lost))
          (by rw [← hsplit]; exact htrimmed) hname
        have hprint : print (.bare (stripChars (raw.take i)) gap op lost) = raw := by
          show stripChars (raw.take i) ++ gap ++ ' ' :: (op.2 ++ lost) = raw
          rw [← hfield, ← hsplit]
        have hsuffix : op.2 <:+ op.2 ++ lost := by
          have hback : op.2 ++ lost <:+ raw := by
            rw [← hdrop]
            exact List.drop_suffix _ _
          exact List.suffix_of_suffix_length_le hend hback (by simp)
        have hsub : lost ⊆ raw := by
          rw [← hlost]
          exact List.drop_subset _ _
        exact ⟨.bare (stripChars (raw.take i)) gap op lost, ⟨hname, hgap, hprint.symm ▸ hchosen,
          hsuffix, hlast, hprint.symm ▸ hnot, fun hmem => hbrace.1 (hsub hmem),
          fun hmem => hbrace.2 (hsub hmem)⟩, hprint, rfl⟩
      · rw [parseConditionWith_skip hfound] at h
        have hnext : comparisonOps = before ++ [op] ++ ops := by
          rw [hops]
          simp
        apply ih hnext _ h
        intro o ho
        rcases List.mem_append.mp ho with ho | ho
        · exact hnone o ho
        · rw [List.mem_singleton.mp ho]
          exact hfound

/-- **What the parser takes for a condition is the print of one.** -/
theorem exists_of_parseCondition {raw : List Char} (htrimmed : Trimmed raw) (hbrace : NoBrace raw)
    {pos : Nat} {condition : Condition} (h : parseCondition raw pos = .ok condition) :
    ∃ c : SpelledCondition, c.Valid ∧ c.print = raw ∧ c.condition = condition := by
  unfold parseCondition at h
  by_cases hnil : raw = []
  · rw [if_pos hnil] at h
    cases h
  · rw [if_neg hnil] at h
    exact exists_of_parseConditionWith htrimmed hbrace (List.nil_append _).symm nofun h

end SpelledCondition

/-! ### Characters of a tag -/

theorem mem_joinChars {sep : List Char} {parts : List (List Char)} {c : Char}
    (h : c ∈ joinChars sep parts) : c ∈ sep ∨ ∃ p ∈ parts, c ∈ p := by
  unfold joinChars at h
  induction parts with
  | nil => cases h
  | cons p parts ih =>
    rcases eq_or_ne parts [] with rfl | hne
    · rw [List.intercalate_singleton] at h
      exact Or.inr ⟨p, List.mem_cons_self, h⟩
    · rw [List.intercalate_cons_of_ne_nil hne, List.mem_append, List.mem_append] at h
      rcases h with (h | h) | h
      · exact Or.inr ⟨p, List.mem_cons_self, h⟩
      · exact Or.inl h
      · rcases ih h with h | ⟨q, hq, hc⟩
        · exact Or.inl h
        · exact Or.inr ⟨q, List.mem_cons_of_mem p hq, hc⟩

theorem SpelledPlaceholder.Valid.not_mem_print {p : SpelledPlaceholder} (h : p.Valid) {x : Char}
    (hx : x.isAlphanum = false ∧ x ≠ '_' ∧ isSpaceChar x = false)
    (harg : "_ /,.:;!?-".toList.contains x = false ∧ x ≠ '\n' ∧ x ≠ ':') (hpipe : x ∉ pipe) :
    x ∉ p.print := by
  intro hmem
  rcases mem_joinChars hmem with hsep | ⟨part, hpart, hmem⟩
  · exact hpipe hsep
  · rcases List.mem_cons.mp hpart with rfl | hpart
    · exact h.not_mem_field hx hmem
    · obtain ⟨m, hm, rfl⟩ := List.mem_map.mp hpart
      exact (h.modifiers m hm).not_mem_print hx harg hmem

theorem SpelledPlaceholder.Valid.noBrace {p : SpelledPlaceholder} (h : p.Valid) :
    NoBrace p.print :=
  ⟨h.not_mem_print (by decide) (by decide) (by decide),
    h.not_mem_print (by decide) (by decide) (by decide)⟩

/-- A placeholder is none of the other tags. -/
theorem SpelledPlaceholder.Valid.print_ne {p : SpelledPlaceholder} (h : p.Valid) :
    ¬("#if ".toList.isPrefixOf p.print ∨ p.print = "#if".toList) ∧ p.print ≠ "#else".toList ∧
      p.print ≠ "/if".toList := by
  have hsharp : '#' ∉ p.print := h.not_mem_print (by decide) (by decide) (by decide)
  refine ⟨?_, ?_, ?_⟩
  · rintro (hif | hif)
    · exact hsharp ((List.isPrefixOf_iff_prefix.mp hif).subset (by decide))
    · exact hsharp (by rw [hif]; decide)
  · intro helse
    exact hsharp (by rw [helse]; decide)
  · intro hendif
    have hread := h.parsePlaceholder_print 0
    have hrefused : parsePlaceholder "/if".toList 0 =
      .error (.placeholderSyntax "/if".toList 0) := by decide
    rw [hendif, hrefused] at hread
    cases hread

theorem noBrace_append {x y : List Char} (hx : NoBrace x) (hy : NoBrace y) : NoBrace (x ++ y) := by
  unfold NoBrace at *
  simp only [List.mem_append, not_or]
  exact ⟨⟨hx.1, hy.1⟩, hx.2, hy.2⟩

theorem Blanks.noBrace {gap : List Char} (h : Blanks gap) : NoBrace gap :=
  ⟨Sda.Blanks.not_mem h (by decide), Sda.Blanks.not_mem h (by decide)⟩

theorem IsName.noBrace {name : List Char} (h : IsName name) : NoBrace name :=
  ⟨h.not_mem (by decide), h.not_mem (by decide)⟩

theorem Chosen.noBrace {op : Operator × List Char} {raw : List Char} (h : Chosen op raw) :
    NoBrace op.2 := by
  obtain ⟨before, after, hops, -⟩ := h
  have hmem : op ∈ comparisonOps := by
    rw [hops]
    exact List.mem_append_right before List.mem_cons_self
  unfold comparisonOps at hmem
  simp only [List.mem_cons, List.not_mem_nil, or_false] at hmem
  rcases hmem with rfl | rfl | rfl | rfl | rfl | rfl <;> exact ⟨by decide, by decide⟩

namespace SpelledCondition

variable {c : SpelledCondition}

theorem noBrace_print (h : c.Valid) : NoBrace c.print := by
  have hblank : NoBrace [' '] := ⟨by decide, by decide⟩
  cases c with
  | truthy name => exact IsName.noBrace h
  | compare name gap op front value =>
    obtain ⟨hname, hgap, hchosen, hfront, -, -, hvalue⟩ := h
    show NoBrace (name ++ gap ++ ([' '] ++ op.2 ++ [' '] ++ (front ++ value)))
    exact noBrace_append (noBrace_append hname.noBrace (Blanks.noBrace hgap))
      (noBrace_append (noBrace_append (noBrace_append hblank hchosen.noBrace) hblank)
        (noBrace_append (Blanks.noBrace hfront) hvalue))
  | bare name gap op lost =>
    obtain ⟨hname, hgap, hchosen, -, -, -, hlost⟩ := h
    show NoBrace (name ++ gap ++ ([' '] ++ (op.2 ++ lost)))
    exact noBrace_append (noBrace_append hname.noBrace (Blanks.noBrace hgap))
      (noBrace_append hblank (noBrace_append hchosen.noBrace hlost))

/-- A text that begins with a name and ends with no blank. -/
theorem trimmed_of_name {name rest : List Char} (hname : IsName name) {last : List Char}
    (hne : last ≠ []) (hlast : Trimmed last) (hsuffix : last <:+ name ++ rest) :
    Trimmed (name ++ rest) := by
  constructor
  · rw [List.head?_append_of_ne_nil _ hname.ne_nil]
    exact hname.trimmed.front
  · obtain ⟨front, hfront⟩ := hsuffix
    rw [← hfront, List.getLast?_append_of_ne_nil _ hne]
    exact hlast.back

theorem trimmed_print (h : c.Valid) : Trimmed c.print := by
  cases c with
  | truthy name => exact IsName.trimmed h
  | compare name gap op front value =>
    obtain ⟨hname, hgap, hchosen, hfront, hvalue, hne, -⟩ := h
    show Trimmed (name ++ gap ++ (' ' :: op.2 ++ [' '] ++ (front ++ value)))
    rw [List.append_assoc]
    apply trimmed_of_name hname hne hvalue
    exact ⟨name ++ (gap ++ (' ' :: op.2 ++ [' '] ++ front)), by simp⟩
  | bare name gap op lost =>
    obtain ⟨hname, hgap, hchosen, hend, -, -, -⟩ := h
    obtain ⟨b, rest, hop, -⟩ := hchosen.isOp.exists_cons
    show Trimmed (name ++ gap ++ ' ' :: (op.2 ++ lost))
    rw [List.append_assoc]
    have hne : op.2 ≠ [] := by
      rw [hop]
      exact List.cons_ne_nil _ _
    apply trimmed_of_name hname hne (trimmed_of_no_blank hchosen.isOp.no_blank)
    apply hend.trans
    exact ((List.suffix_cons ' ' _).trans (List.suffix_append _ _)).trans (List.suffix_append _ _)

theorem print_ne_nil (h : c.Valid) : c.print ≠ [] := by
  cases c with
  | truthy name => exact IsName.ne_nil h
  | compare name gap op front value => simp [print]
  | bare name gap op lost => simp [print]

end SpelledCondition

namespace SpelledBlock

variable {b : SpelledBlock}

theorem Valid.noBrace (h : b.Valid) : NoBrace b.content := by
  have hif : NoBrace "#if ".toList := ⟨by decide, by decide⟩
  exact noBrace_append hif (noBrace_append (noBrace_append (Blanks.noBrace h.front)
    (SpelledCondition.noBrace_print h.condition)) (Blanks.noBrace h.back))

/-- The condition is what the parser strips the tag down to. -/
theorem Valid.stripChars_content (h : b.Valid) :
    stripChars (b.content.drop 3) = b.condition.print := by
  have hfront : Blanks (' ' :: b.front) := by
    intro c hc
    rcases List.mem_cons.mp hc with rfl | hc
    · decide
    · exact h.front c hc
  have hdrop : b.content.drop 3 = ' ' :: b.front ++ b.condition.print ++ b.back := by
    show ' ' :: (b.front ++ b.condition.print ++ b.back) = _
    simp
  rw [hdrop]
  exact stripChars_between hfront (SpelledCondition.trimmed_print h.condition)
    (SpelledCondition.print_ne_nil h.condition) h.back

end SpelledBlock

end Sda.Templates
