/-
Sda/Templates/ParserExact.lean

The parser of content templates accepts exactly the templates of its grammar, and its tree is theirs.

The scanner is read tag by tag: from a text it goes on to the next tag (`finishes_tag`), and a tag changes
the list of nodes that is open (`appendAll`).  One way, what a spelled template prints drives the
scanner to its nodes, block after block (`finishes_print`).  The other way the source is taken apart at
its first tag (`finishes_cases`, `readTag_cases`), and what is behind it belongs to the same template;
which parts of a block are still to come is a statement for each state of the block (`Continues`).

Main results: `parse_eq_ok_iff` — what the parser accepts; `parse_exact` — that this is the documented
grammar, but for conditions that lose a text; `parse_forgets` — that blanks are forgotten.
-/
import Sda.Templates.Grammar

namespace Sda.Templates

/-! ### Reading on -/

/-- The scanner over a part of the source. -/
def run (s : Parser) (source : List Char) : Except ParseError Parser := source.foldlM Parser.step s

/-- The rest of the source, and its end. -/
def finishes (s : Parser) (source : List Char) : Except ParseError (List Node) :=
  run s source >>= Parser.finish

theorem parse_eq (template : List Char) : parse template = finishes {} template := rfl

theorem run_append (s : Parser) (x y : List Char) : run s (x ++ y) = run s x >>= fun s' => run s' y :=
  List.foldlM_append

theorem finishes_append {s s' : Parser} {x : List Char} (h : run s x = .ok s') (y : List Char) :
    finishes s (x ++ y) = finishes s' y := by
  unfold finishes
  rw [run_append, h]
  rfl

variable {s : Parser}

theorem run_cons (s : Parser) (c : Char) (x : List Char) :
    run s (c :: x) = s.step c >>= fun s' => run s' x := List.foldlM_cons

theorem finishes_nil (s : Parser) : finishes s [] = s.finish := rfl

theorem finishes_cons {s' : Parser} {c : Char} (h : s.step c = .ok s') (x : List Char) :
    finishes s (c :: x) = finishes s' x := by
  unfold finishes
  rw [run_cons, h]
  rfl

/-- The scanner at another place. -/
def Parser.place (s : Parser) (pos : Nat) (mode : Mode) : Parser := { s with pos, mode }

@[simp] theorem place_pos (pos : Nat) (mode : Mode) : (s.place pos mode).pos = pos := rfl

@[simp] theorem place_mode (pos : Nat) (mode : Mode) : (s.place pos mode).mode = mode := rfl

@[simp] theorem place_nodes (pos : Nat) (mode : Mode) : (s.place pos mode).nodes = s.nodes := rfl

@[simp] theorem place_block (pos : Nat) (mode : Mode) : (s.place pos mode).block = s.block := rfl

@[simp] theorem place_ifBlockCount (pos : Nat) (mode : Mode) :
    (s.place pos mode).ifBlockCount = s.ifBlockCount := rfl

@[simp] theorem place_place (pos pos' : Nat) (mode mode' : Mode) :
    (s.place pos mode).place pos' mode' = s.place pos' mode' := rfl

theorem place_self (s : Parser) : s.place s.pos s.mode = s := rfl

/-- Text is collected. -/
theorem run_text {read text : List Char} (hs : s.mode = .text read) (h : '\x7b' ∉ text) :
    run s text = .ok (s.place (s.pos + text.length) (.text (read ++ text))) := by
  induction text generalizing s read with
  | nil =>
    rw [List.append_nil, ← hs]
    rfl
  | cons c text ih =>
    have hc : c ≠ '\x7b' := fun hc => h (hc ▸ List.mem_cons_self)
    have hstep : s.step c = .ok (s.place (s.pos + 1) (.text (read ++ [c]))) := by
      unfold Parser.step
      rw [hs]
      exact if_neg hc
    rw [run_cons, hstep]
    show run (s.place (s.pos + 1) (.text (read ++ [c]))) text = _
    rw [ih (place_mode _ _) fun hmem => h (List.mem_cons_of_mem c hmem)]
    simp [Nat.add_assoc, Nat.add_comm 1]

/-- So is the content of a tag. -/
theorem run_content {start : Nat} {read content : List Char} (hs : s.mode = .tag start read)
    (h : NoBrace content) :
    run s content = .ok (s.place (s.pos + content.length) (.tag start (read ++ content))) := by
  induction content generalizing s read with
  | nil =>
    rw [List.append_nil, ← hs]
    rfl
  | cons c content ih =>
    have hopen : c ≠ '\x7b' := fun hc => h.1 (hc ▸ List.mem_cons_self)
    have hclose : c ≠ '\x7d' := fun hc => h.2 (hc ▸ List.mem_cons_self)
    have hstep : s.step c = .ok (s.place (s.pos + 1) (.tag start (read ++ [c]))) := by
      unfold Parser.step
      rw [hs]
      show (if c = '\x7b' then _ else if c = '\x7d' then _ else _) = _
      rw [if_neg hopen, if_neg hclose]
      rfl
    rw [run_cons, hstep]
    show run (s.place (s.pos + 1) (.tag start (read ++ [c]))) content = _
    rw [ih (place_mode _ _) ⟨fun hmem => h.1 (List.mem_cons_of_mem c hmem),
      fun hmem => h.2 (List.mem_cons_of_mem c hmem)⟩]
    simp [Nat.add_assoc, Nat.add_comm 1]

theorem step_open {read : List Char} (hs : s.mode = .text read) :
    s.step '\x7b' = .ok ((s.flush read).place (s.pos + 1) (.tag s.pos [])) := by
  unfold Parser.step
  rw [hs]
  exact if_pos rfl

theorem step_close {start : Nat} {content : List Char} (hs : s.mode = .tag start content) :
    s.step '\x7d' = s.readTag content start >>= fun s' => .ok (s'.place (s.pos + 1) (.text [])) := by
  unfold Parser.step
  rw [hs]
  rfl

/-- **A tag.**  The text in front of it becomes a node, the tag is read, and text begins again. -/
theorem finishes_tag {read content : List Char} (hs : s.mode = .text read) (h : NoBrace content)
    (rest : List Char) : finishes s (tag content ++ rest) =
      ((s.flush read).place (s.pos + 1 + content.length) (.tag s.pos content)).readTag content s.pos
        >>= fun s' => finishes (s'.place (s.pos + 1 + content.length + 1) (.text [])) rest := by
  have htag : tag content ++ rest = '\x7b' :: (content ++ '\x7d' :: rest) := by
    unfold tag
    simp
  have hcontent := run_content (place_mode (s := s.flush read) (s.pos + 1) (.tag s.pos [])) h
  rw [place_pos, place_place, List.nil_append] at hcontent
  rw [htag, finishes_cons (step_open hs), finishes_append hcontent]
  generalize hu : (s.flush read).place (s.pos + 1 + content.length) (.tag s.pos content) = u
  have hclose := step_close (s := u) (show u.mode = .tag s.pos content by rw [← hu]; rfl)
  have hpos : u.pos = s.pos + 1 + content.length := by rw [← hu]; rfl
  rw [← hpos]
  cases hread : u.readTag content s.pos with
  | ok s' =>
    rw [hread] at hclose
    exact finishes_cons hclose rest
  | error e =>
    rw [hread] at hclose
    unfold finishes
    rw [run_cons, hclose]
    rfl

/-! ### The open list of nodes -/

def Parser.appendAll (s : Parser) (leaves : List Leaf) : Parser := leaves.foldl Parser.append s

theorem flush_eq (s : Parser) (read : List Char) : s.flush read = s.appendAll (textLeaves read) := by
  unfold Parser.flush textLeaves
  by_cases h : read = []
  · rw [if_pos h, if_pos h]
    rfl
  · rw [if_neg h, if_neg h]
    rfl

theorem appendAll_append (s : Parser) (x y : List Leaf) :
    s.appendAll (x ++ y) = (s.appendAll x).appendAll y := List.foldl_append

/-- Its place does not matter to it. -/
theorem place_append (s : Parser) (pos : Nat) (mode : Mode) (leaf : Leaf) :
    (s.place pos mode).append leaf = (s.append leaf).place pos mode := by
  unfold Parser.append
  rw [place_block]
  cases s.block with
  | none => rfl
  | some b =>
    dsimp only
    cases b.elseBody <;> rfl

@[simp] theorem place_appendAll (s : Parser) (pos : Nat) (mode : Mode) (leaves : List Leaf) :
    (s.place pos mode).appendAll leaves = (s.appendAll leaves).place pos mode := by
  induction leaves generalizing s with
  | nil => rfl
  | cons leaf leaves ih =>
    show ((s.place pos mode).append leaf).appendAll leaves = _
    rw [place_append, ih]
    rfl

theorem appendAll_none (h : s.block = none) (leaves : List Leaf) :
    s.appendAll leaves = { s with nodes := s.nodes ++ leaves.map .leaf } := by
  induction leaves generalizing s with
  | nil => simp [Parser.appendAll]
  | cons leaf leaves ih =>
    have happend : s.append leaf = { s with nodes := s.nodes ++ [.leaf leaf] } := by
      unfold Parser.append
      rw [h]
    have hblock : (s.append leaf).block = none := by rw [happend, h]
    show (s.append leaf).appendAll leaves = _
    rw [ih hblock, happend]
    simp

theorem appendAll_if {b : Block} (h : s.block = some b) (hbody : b.elseBody = none)
    (leaves : List Leaf) : s.appendAll leaves =
      { s with block := some { b with ifBody := b.ifBody ++ leaves } } := by
  induction leaves generalizing s b with
  | nil => simp [Parser.appendAll, ← h]
  | cons leaf leaves ih =>
    have happend : s.append leaf =
        { s with block := some { b with ifBody := b.ifBody ++ [leaf] } } := by
      unfold Parser.append
      rw [h]
      dsimp only
      rw [hbody]
    have hblock : (s.append leaf).block = some { b with ifBody := b.ifBody ++ [leaf] } := by
      rw [happend]
    show (s.append leaf).appendAll leaves = _
    rw [ih hblock hbody, happend]
    simp

theorem appendAll_else {b : Block} {body : List Leaf} (h : s.block = some b)
    (hbody : b.elseBody = some body) (leaves : List Leaf) : s.appendAll leaves =
      { s with block := some { b with elseBody := some (body ++ leaves) } } := by
  induction leaves generalizing s b body with
  | nil => simp [Parser.appendAll, ← h, ← hbody]
  | cons leaf leaves ih =>
    have happend : s.append leaf =
        { s with block := some { b with elseBody := some (body ++ [leaf]) } } := by
      unfold Parser.append
      rw [h]
      dsimp only
      rw [hbody]
    have hblock : (s.append leaf).block = some { b with elseBody := some (body ++ [leaf]) } := by
      rw [happend]
    show (s.append leaf).appendAll leaves = _
    rw [ih hblock rfl, happend]
    simp

theorem block_eq_none {leaves : List Leaf} (h : (s.appendAll leaves).block = none) :
    s.block = none := by
  cases hblock : s.block with
  | none => rfl
  | some b =>
    cases hbody : b.elseBody with
    | none =>
      rw [appendAll_if hblock hbody] at h
      cases h
    | some body =>
      rw [appendAll_else hblock hbody] at h
      cases h

/-! ### What is printed is read -/

/-- A placeholder tag. -/
theorem readTag_placeholder {p : SpelledPlaceholder} (hp : p.Valid) (s : Parser) (start : Nat) :
    s.readTag p.print start = .ok (s.append (.placeholder p.placeholder)) := by
  obtain ⟨hif, helse, hendif⟩ := hp.print_ne
  unfold Parser.readTag
  rw [if_neg hif, if_neg helse, if_neg hendif, hp.parsePlaceholder_print]
  rfl

/-- A text and a placeholder in front. -/
theorem finishes_item {text : List Char} {p : SpelledPlaceholder} (hs : s.mode = .text [])
    (htext : '\x7b' ∉ text) (hp : p.Valid) (rest : List Char) : ∃ pos,
      finishes s (Body.printItem (text, p) ++ rest) =
        finishes ((s.appendAll (Body.itemLeaves (text, p))).place pos (.text [])) rest := by
  have hread := run_text hs htext
  have hleaves : s.appendAll (Body.itemLeaves (text, p)) =
      (s.appendAll (textLeaves text)).append (.placeholder p.placeholder) := by
    unfold Body.itemLeaves
    rw [appendAll_append]
    rfl
  refine ⟨s.pos + text.length + 1 + p.print.length + 1, ?_⟩
  show finishes s (text ++ tag p.print ++ rest) = _
  rw [List.append_assoc, finishes_append hread, finishes_tag (place_mode _ _) hp.noBrace,
    readTag_placeholder hp, flush_eq, hleaves]
  show finishes (Parser.place (Parser.append _ _) _ _) rest = _
  rw [List.nil_append, place_appendAll, place_append, place_append, place_place, place_place]
  rfl

theorem finishes_items {items : List (List Char × SpelledPlaceholder)} (hs : s.mode = .text [])
    (h : ∀ item ∈ items, '\x7b' ∉ item.1 ∧ item.2.Valid) (rest : List Char) : ∃ pos,
      finishes s (items.flatMap Body.printItem ++ rest) =
        finishes ((s.appendAll (items.flatMap Body.itemLeaves)).place pos (.text [])) rest := by
  induction items generalizing s with
  | nil =>
    refine ⟨s.pos, ?_⟩
    show finishes s rest = finishes (s.place s.pos (.text [])) rest
    rw [← hs, place_self]
  | cons item items ih =>
    obtain ⟨text, p⟩ := item
    obtain ⟨htext, hp⟩ := h (text, p) List.mem_cons_self
    obtain ⟨pos, hitem⟩ := finishes_item hs htext hp (items.flatMap Body.printItem ++ rest)
    obtain ⟨pos', hitems⟩ := ih (place_mode (s := s.appendAll (Body.itemLeaves (text, p))) pos _)
      fun item hitem => h item (List.mem_cons_of_mem _ hitem)
    refine ⟨pos', ?_⟩
    rw [List.flatMap_cons, List.append_assoc, hitem, hitems, place_appendAll, place_place,
      List.flatMap_cons, appendAll_append]

theorem leaves_eq (b : Body) :
    b.leaves = b.items.flatMap Body.itemLeaves ++ textLeaves b.tail := rfl

/-- A body, up to its last text. -/
theorem finishes_body {b : Body} (hs : s.mode = .text []) (hb : b.Valid) (rest : List Char) :
    ∃ pos, finishes s (b.print ++ rest) =
      finishes ((s.appendAll (b.items.flatMap Body.itemLeaves)).place pos (.text b.tail)) rest := by
  obtain ⟨pos, hitems⟩ := finishes_items hs hb.items (b.tail ++ rest)
  have htail := run_text
    (place_mode (s := s.appendAll (b.items.flatMap Body.itemLeaves)) pos (.text [])) hb.tail
  refine ⟨pos + b.tail.length, ?_⟩
  unfold Body.print
  rw [List.append_assoc, hitems, finishes_append htail]
  rfl

/-- A body, and the tag behind it. -/
theorem finishes_body_tag {b : Body} (hs : s.mode = .text []) (hb : b.Valid) {content : List Char}
    (h : NoBrace content) (rest : List Char) : ∃ pos start, ∀ s',
      ((s.appendAll b.leaves).place pos (.tag start content)).readTag content start = .ok s' →
      finishes s (b.print ++ (tag content ++ rest)) =
        finishes (s'.place (pos + 1) (.text [])) rest := by
  obtain ⟨pos, hbody⟩ := finishes_body hs hb (tag content ++ rest)
  refine ⟨pos + 1 + content.length, pos, fun s' hread => ?_⟩
  rw [hbody, finishes_tag (place_mode _ _) h, flush_eq, place_appendAll, place_place, place_pos,
    ← appendAll_append, ← leaves_eq, hread]
  rfl

/-- A body at the end. -/
theorem finishes_last {b : Body} (hs : s.mode = .text []) (hblock : s.block = none) (hb : b.Valid) :
    finishes s b.print = .ok (s.nodes ++ b.leaves.map .leaf) := by
  obtain ⟨pos, hbody⟩ := finishes_body hs hb []
  rw [List.append_nil] at hbody
  have hopen : (s.appendAll (b.items.flatMap Body.itemLeaves)).block = none := by
    rw [appendAll_none hblock]
    exact hblock
  rw [hbody, finishes_nil]
  unfold Parser.finish
  rw [place_block, hopen]
  show Except.ok (Parser.flush _ b.tail).nodes = _
  rw [flush_eq, place_appendAll, place_nodes, ← appendAll_append, ← leaves_eq,
    appendAll_none hblock]

/-! ### Blocks -/

/-- The tag that opens a block. -/
theorem readTag_open {b : SpelledBlock} (hb : b.Valid) (hblock : s.block = none)
    (hcount : s.ifBlockCount + 1 ≤ maxIfBlocks) (start : Nat) : s.readTag b.content start =
      .ok { s with
        ifBlockCount := s.ifBlockCount + 1
        block := some { condition := b.condition.condition } } := by
  have hif : "#if ".toList.isPrefixOf b.content = true ∨ b.content = "#if".toList :=
    Or.inl (List.isPrefixOf_iff_prefix.mpr (List.prefix_append _ _))
  unfold Parser.readTag
  rw [if_pos hif]
  unfold Parser.openIf
  rw [if_neg (by rw [hblock]; exact Bool.false_ne_true), if_neg (by omega), hb.stripChars_content,
    SpelledCondition.parseCondition_print hb.condition]
  rfl

theorem readTag_else {b : Block} (hblock : s.block = some b) (hbody : b.elseBody = none)
    (start : Nat) : s.readTag "#else".toList start =
      .ok { s with block := some { b with elseBody := some [] } } := by
  unfold Parser.readTag
  rw [if_neg (by decide), if_pos rfl]
  unfold Parser.openElse
  rw [hblock]
  dsimp only
  rw [hbody]

theorem readTag_close {b : Block} (hblock : s.block = some b) (start : Nat) :
    s.readTag "/if".toList start =
      .ok { s with
        nodes := s.nodes ++ [.ifBlock b.condition b.ifBody (b.elseBody.getD [])]
        block := none } := by
  unfold Parser.readTag
  rw [if_neg (by decide), if_neg (by decide), if_pos rfl]
  unfold Parser.closeIf
  rw [hblock]

/-- The beginning of a block, with what stands in front of it. -/
theorem finishes_open {before : Body} {b : SpelledBlock} (hs : s.mode = .text [])
    (hblock : s.block = none) (hbefore : before.Valid) (hb : b.Valid)
    (hcount : s.ifBlockCount + 1 ≤ maxIfBlocks) (rest : List Char) : ∃ u : Parser,
      u.mode = .text [] ∧ u.block = some { condition := b.condition.condition } ∧
      u.ifBlockCount = s.ifBlockCount + 1 ∧ u.nodes = s.nodes ++ before.leaves.map .leaf ∧
      finishes s (before.print ++ (tag b.content ++ rest)) = finishes u rest := by
  obtain ⟨pos, start, htag⟩ := finishes_body_tag hs hbefore hb.noBrace rest
  rw [appendAll_none hblock] at htag
  have hread := readTag_open
    (s := Parser.place { s with nodes := s.nodes ++ before.leaves.map .leaf } pos
      (.tag start b.content)) hb hblock hcount start
  refine ⟨_, ?_, ?_, ?_, ?_, htag _ hread⟩ <;> rfl

/-- The if body of a block, and its else tag. -/
theorem finishes_else {body : Body} {b : Block} (hs : s.mode = .text []) (hblock : s.block = some b)
    (hnone : b.elseBody = none) (hbody : body.Valid) (rest : List Char) : ∃ u : Parser,
      u.mode = .text [] ∧
      u.block = some { b with ifBody := b.ifBody ++ body.leaves, elseBody := some [] } ∧
      u.ifBlockCount = s.ifBlockCount ∧ u.nodes = s.nodes ∧
      finishes s (body.print ++ (tag "#else".toList ++ rest)) = finishes u rest := by
  have helse : NoBrace "#else".toList := ⟨by decide, by decide⟩
  obtain ⟨pos, start, htag⟩ := finishes_body_tag hs hbody helse rest
  rw [appendAll_if hblock hnone] at htag
  have hread := readTag_else
    (s := Parser.place { s with block := some { b with ifBody := b.ifBody ++ body.leaves } } pos
      (.tag start "#else".toList))
    (b := { b with ifBody := b.ifBody ++ body.leaves }) rfl hnone start
  refine ⟨_, ?_, ?_, ?_, ?_, htag _ hread⟩ <;> rfl

/-- The last body of a block, and its end tag. -/
theorem finishes_close {body : Body} {b : Block} (hs : s.mode = .text []) (hblock : s.block = some b)
    (hbody : body.Valid) (rest : List Char) : ∃ u : Parser, u.mode = .text [] ∧ u.block = none ∧
      u.ifBlockCount = s.ifBlockCount ∧
      u.nodes = s.nodes ++ [match b.elseBody with
        | none => .ifBlock b.condition (b.ifBody ++ body.leaves) []
        | some done => .ifBlock b.condition b.ifBody (done ++ body.leaves)] ∧
      finishes s (body.print ++ (tag "/if".toList ++ rest)) = finishes u rest := by
  have hend : NoBrace "/if".toList := ⟨by decide, by decide⟩
  obtain ⟨pos, start, htag⟩ := finishes_body_tag hs hbody hend rest
  cases hnone : b.elseBody with
  | none =>
    rw [appendAll_if hblock hnone] at htag
    have hread := readTag_close
      (s := Parser.place { s with block := some { b with ifBody := b.ifBody ++ body.leaves } } pos
        (.tag start "/if".toList))
      (b := { b with ifBody := b.ifBody ++ body.leaves }) rfl start
    refine ⟨_, ?_, ?_, ?_, ?_, htag _ hread⟩
    · rfl
    · rfl
    · rfl
    show s.nodes ++ [Node.ifBlock b.condition (b.ifBody ++ body.leaves) (b.elseBody.getD [])] = _
    rw [hnone]
    rfl
  | some done =>
    rw [appendAll_else hblock hnone] at htag
    have hread := readTag_close
      (s := Parser.place { s with block := some { b with elseBody := some (done ++ body.leaves) } }
        pos (.tag start "/if".toList))
      (b := { b with elseBody := some (done ++ body.leaves) }) rfl start
    refine ⟨_, ?_, ?_, ?_, ?_, htag _ hread⟩ <;> rfl

/-- A whole block, with what stands in front of it. -/
theorem finishes_block {before : Body} {b : SpelledBlock} (hs : s.mode = .text [])
    (hblock : s.block = none) (hbefore : before.Valid) (hb : b.Valid)
    (hcount : s.ifBlockCount + 1 ≤ maxIfBlocks) (rest : List Char) : ∃ u : Parser,
      u.mode = .text [] ∧ u.block = none ∧ u.ifBlockCount = s.ifBlockCount + 1 ∧
      u.nodes = s.nodes ++ Template.blockNodes (before, b) ∧
      finishes s (Template.printBlock (before, b) ++ rest) = finishes u rest := by
  obtain ⟨front, condition, back, ifBody, elseBody⟩ := b
  cases elseBody with
  | none =>
    obtain ⟨u, humode, hublock, hucount, hunodes, hopen⟩ := finishes_open hs hblock hbefore hb hcount
      (ifBody.print ++ (tag "/if".toList ++ rest))
    obtain ⟨v, hvmode, hvblock, hvcount, hvnodes, hclose⟩ :=
      finishes_close humode hublock hb.ifBody rest
    refine ⟨v, hvmode, hvblock, hvcount.trans hucount, ?_, ?_⟩
    · rw [hvnodes, hunodes, List.append_assoc]
      rfl
    · rw [← hclose, ← hopen]
      congr 1
      simp [Template.printBlock, SpelledBlock.print, SpelledBlock.printElse]
  | some body =>
    obtain ⟨u, humode, hublock, hucount, hunodes, hopen⟩ := finishes_open hs hblock hbefore hb hcount
      (ifBody.print ++ (tag "#else".toList ++ (body.print ++ (tag "/if".toList ++ rest))))
    obtain ⟨v, hvmode, hvblock, hvcount, hvnodes, helse⟩ := finishes_else humode hublock rfl
      hb.ifBody (body.print ++ (tag "/if".toList ++ rest))
    obtain ⟨w, hwmode, hwblock, hwcount, hwnodes, hclose⟩ :=
      finishes_close hvmode hvblock (hb.elseBody body rfl) rest
    refine ⟨w, hwmode, hwblock, hwcount.trans (hvcount.trans hucount), ?_, ?_⟩
    · rw [hwnodes, hvnodes, hunodes, List.append_assoc]
      rfl
    · rw [← hclose, ← helse, ← hopen]
      congr 1
      simp [Template.printBlock, SpelledBlock.print, SpelledBlock.printElse]

/-- **What a template prints is read as its nodes.** -/
theorem finishes_print {blocks : List (Body × SpelledBlock)} {last : Body} (hs : s.mode = .text [])
    (hblock : s.block = none) (hblocks : ∀ b ∈ blocks, b.1.Valid ∧ b.2.Valid) (hlast : last.Valid)
    (hcount : s.ifBlockCount + blocks.length ≤ maxIfBlocks) :
    finishes s (Template.print { blocks, last }) = .ok (s.nodes ++ Template.nodes { blocks, last }) := by
  induction blocks generalizing s with
  | nil => exact finishes_last hs hblock hlast
  | cons b blocks ih =>
    obtain ⟨hbefore, hb⟩ := hblocks b List.mem_cons_self
    rw [List.length_cons] at hcount
    obtain ⟨s', hs', hblock', hcount', hnodes, hstep⟩ := finishes_block hs hblock hbefore hb
      (by omega) (Template.print { blocks, last })
    have hprint : Template.print { blocks := b :: blocks, last } =
        Template.printBlock b ++ Template.print { blocks, last } := by
      unfold Template.print
      rw [List.flatMap_cons, List.append_assoc]
    rw [hprint, hstep, ih hs' hblock' (fun c hc => hblocks c (List.mem_cons_of_mem b hc)) (by omega),
      hnodes]
    unfold Template.nodes
    rw [List.flatMap_cons, List.append_assoc, List.append_assoc]

/-! ### What is read is printed -/

/-- Everything up to the first of some characters. -/
theorem exists_first {p : Char → Prop} [DecidablePred p] {source : List Char}
    (h : ∃ c ∈ source, p c) :
    ∃ x c y, source = x ++ c :: y ∧ p c ∧ ∀ d ∈ x, ¬p d := by
  induction source with
  | nil =>
    obtain ⟨c, hc, -⟩ := h
    cases hc
  | cons c source ih =>
    by_cases hc : p c
    · exact ⟨[], c, source, rfl, hc, nofun⟩
    · obtain ⟨d, hd, hp⟩ := h
      rcases List.mem_cons.mp hd with rfl | hd
      · exact absurd hp hc
      · obtain ⟨x, e, y, rfl, he, hx⟩ := ih ⟨d, hd, hp⟩
        refine ⟨c :: x, e, y, rfl, he, fun f hf => ?_⟩
        rcases List.mem_cons.mp hf with rfl | hf
        · exact hc
        · exact hx f hf

/-- A tag that is accepted is closed, and has no brace inside. -/
theorem exists_close {start : Nat} {source : List Char} {nodes : List Node}
    (hs : s.mode = .tag start []) (h : finishes s source = .ok nodes) :
    ∃ content rest, source = content ++ '\x7d' :: rest ∧ NoBrace content := by
  by_cases hbrace : ∃ c ∈ source, c = '\x7b' ∨ c = '\x7d'
  · obtain ⟨content, c, rest, rfl, hc, hcontent⟩ := exists_first hbrace
    have hno : NoBrace content :=
      ⟨fun hmem => hcontent _ hmem (Or.inl rfl), fun hmem => hcontent _ hmem (Or.inr rfl)⟩
    rcases hc with rfl | rfl
    · -- a brace in a brace
      exfalso
      have hread := run_content hs hno
      generalize hu : s.place (s.pos + content.length) (.tag start ([] ++ content)) = u at hread
      have hmode : u.mode = .tag start ([] ++ content) := by rw [← hu]; rfl
      have hstep : u.step '\x7b' = .error (.nestedBraces u.pos) := by
        unfold Parser.step
        rw [hmode]
        exact if_pos rfl
      rw [finishes_append hread] at h
      unfold finishes at h
      rw [run_cons, hstep] at h
      cases h
    · exact ⟨content, rest, rfl, hno⟩
  · exfalso
    have hno : NoBrace source :=
      ⟨fun hmem => hbrace ⟨_, hmem, Or.inl rfl⟩, fun hmem => hbrace ⟨_, hmem, Or.inr rfl⟩⟩
    have hread := finishes_append (run_content hs hno) []
    rw [List.append_nil] at hread
    rw [hread] at h
    cases h

/-- **The first tag of an accepted source**, if it has one. -/
theorem finishes_cases {source : List Char} {nodes : List Node} (hs : s.mode = .text [])
    (h : finishes s source = .ok nodes) :
    ('\x7b' ∉ source ∧ s.block = none ∧ nodes = s.nodes ++ (textLeaves source).map .leaf) ∨
    ∃ text content rest pos pos' start s', source = text ++ (tag content ++ rest) ∧
      '\x7b' ∉ text ∧ NoBrace content ∧
      ((s.appendAll (textLeaves text)).place pos (.tag start content)).readTag content start =
        .ok s' ∧
      finishes (s'.place pos' (.text [])) rest = .ok nodes := by
  by_cases hbrace : ∃ c ∈ source, c = '\x7b'
  · right
    obtain ⟨text, c, rest, rfl, rfl, htext⟩ := exists_first hbrace
    have hno : '\x7b' ∉ text := fun hmem => htext _ hmem rfl
    have hread := run_text hs hno
    rw [List.nil_append] at hread
    rw [finishes_append hread] at h
    have hopen := h
    rw [finishes_cons (step_open (place_mode _ _))] at hopen
    obtain ⟨content, rest, rfl, hcontent⟩ := exists_close (place_mode _ _) hopen
    have htag : '\x7b' :: (content ++ '\x7d' :: rest) = tag content ++ rest := by
      unfold tag
      simp
    rw [htag] at h ⊢
    rw [finishes_tag (place_mode _ _) hcontent, flush_eq, place_appendAll, place_place] at h
    obtain ⟨s', htagged, hrest⟩ := except_bind_ok.mp h
    exact ⟨text, content, rest, _, _, _, s', rfl, hno, hcontent, htagged, hrest⟩
  · left
    have hno : '\x7b' ∉ source := fun hmem => hbrace ⟨_, hmem, rfl⟩
    have hread := finishes_append (run_text hs hno) []
    rw [List.append_nil, List.nil_append, finishes_nil] at hread
    rw [hread] at h
    unfold Parser.finish at h
    rw [place_mode] at h
    rw [place_block] at h
    dsimp only at h
    cases hblock : s.block with
    | some b =>
      rw [hblock] at h
      cases h
    | none =>
      rw [hblock, flush_eq, place_appendAll, appendAll_none hblock] at h
      exact ⟨hno, rfl, (Except.ok.inj h).symm⟩

/-- What is accepted for the tag of an if block. -/
def Parser.Opens (s : Parser) (content : List Char) (s' : Parser) : Prop :=
  s.block = none ∧ s.ifBlockCount + 1 ≤ maxIfBlocks ∧
  ∃ (front : List Char) (condition : SpelledCondition) (back : List Char),
    Blanks front ∧ condition.Valid ∧ Blanks back ∧
    content = "#if ".toList ++ (front ++ condition.print ++ back) ∧
    s' = { s with
      ifBlockCount := s.ifBlockCount + 1
      block := some { condition := condition.condition } }

theorem openIf_cases {content : List Char} (hcontent : NoBrace content)
    (hif : "#if ".toList.isPrefixOf content = true ∨ content = "#if".toList) {start : Nat}
    {s' : Parser} (h : s.openIf content start = .ok s') :
    s.Opens content s' := by
  unfold Parser.openIf at h
  by_cases hblock : s.block.isSome = true
  · rw [if_pos hblock] at h
    cases h
  by_cases hcount : s.ifBlockCount + 1 > maxIfBlocks
  · rw [if_neg hblock, if_pos hcount] at h
    cases h
  rw [if_neg hblock, if_neg hcount] at h
  obtain ⟨condition, hcondition, heq⟩ := except_bind_ok.mp h
  obtain rfl := Except.ok.inj heq
  refine ⟨Option.not_isSome_iff_eq_none.mp hblock, not_lt.mp hcount, ?_⟩
  -- `{#if}` has no condition
  obtain ⟨rest, rfl⟩ : ∃ rest, content = "#if ".toList ++ rest := by
    rcases hif with hif | rfl
    · obtain ⟨rest, hrest⟩ := List.isPrefixOf_iff_prefix.mp hif
      exact ⟨rest, hrest.symm⟩
    · cases hcondition
  obtain ⟨x, back, hx, hback, hsplit, htrimmed⟩ := stripChars_split (' ' :: rest)
  have hdrop : ("#if ".toList ++ rest).drop 3 = ' ' :: rest := rfl
  rw [hdrop] at hcondition
  generalize stripChars (' ' :: rest) = raw at hcondition hsplit htrimmed
  have hne : raw ≠ [] := by
    rintro rfl
    cases hcondition
  cases x with
  | nil =>
    obtain ⟨c, raw, rfl⟩ := List.exists_cons_of_ne_nil hne
    rw [List.nil_append, List.cons_append, List.cons.injEq] at hsplit
    have hfront := htrimmed.front
    rw [List.head?_cons, ← hsplit.1] at hfront
    cases hfront
  | cons c front =>
    rw [List.cons_append, List.cons_append, List.cons.injEq] at hsplit
    obtain ⟨rfl, rfl⟩ := hsplit
    have hbrace : NoBrace raw :=
      ⟨fun hmem => hcontent.1 (by simp [hmem]), fun hmem => hcontent.2 (by simp [hmem])⟩
    obtain ⟨c, hc, rfl, rfl⟩ :=
      SpelledCondition.exists_of_parseCondition htrimmed hbrace hcondition
    exact ⟨front, c, back, fun d hd => hx d (List.mem_cons_of_mem _ hd), hc, hback, rfl, rfl⟩

/-- **The tags that are accepted**, and what they do. -/
theorem readTag_cases {content : List Char} (hcontent : NoBrace content) {start : Nat}
    {s' : Parser} (h : s.readTag content start = .ok s') :
    s.Opens content s' ∨
    (content = "#else".toList ∧ ∃ b, s.block = some b ∧ b.elseBody = none ∧
      s' = { s with block := some { b with elseBody := some [] } }) ∨
    (content = "/if".toList ∧ ∃ b, s.block = some b ∧
      s' = { s with
        nodes := s.nodes ++ [.ifBlock b.condition b.ifBody (b.elseBody.getD [])]
        block := none }) ∨
    ∃ p : SpelledPlaceholder, p.Valid ∧ p.print = content ∧
      s' = s.append (.placeholder p.placeholder) := by
  unfold Parser.readTag at h
  by_cases hif : "#if ".toList.isPrefixOf content = true ∨ content = "#if".toList
  · rw [if_pos hif] at h
    exact Or.inl (openIf_cases hcontent hif h)
  rw [if_neg hif] at h
  by_cases helse : content = "#else".toList
  · rw [if_pos helse] at h
    unfold Parser.openElse at h
    cases hblock : s.block with
    | none =>
      rw [hblock] at h
      cases h
    | some b =>
      rw [hblock] at h
      change (match b.elseBody with | none => _ | some _ => _) = _ at h
      cases hbody : b.elseBody with
      | none =>
        rw [hbody] at h
        exact Or.inr (Or.inl ⟨helse, b, rfl, hbody, (Except.ok.inj h).symm⟩)
      | some body =>
        rw [hbody] at h
        cases h
  rw [if_neg helse] at h
  by_cases hendif : content = "/if".toList
  · rw [if_pos hendif] at h
    unfold Parser.closeIf at h
    cases hblock : s.block with
    | none =>
      rw [hblock] at h
      cases h
    | some b =>
      rw [hblock] at h
      exact Or.inr (Or.inr (Or.inl ⟨hendif, b, rfl, (Except.ok.inj h).symm⟩))
  rw [if_neg hendif] at h
  obtain ⟨placeholder, hplaceholder, heq⟩ := except_bind_ok.mp h
  obtain ⟨p, hp, hprint, rfl⟩ := SpelledPlaceholder.exists_of_parsePlaceholder hplaceholder
  exact Or.inr (Or.inr (Or.inr ⟨p, hp, hprint, (Except.ok.inj heq).symm⟩))

/-! ### What is still to come -/

/-- Blocks and text that are valid behind a number of blocks. -/
structure Template.Within (t : Template) (count : Nat) : Prop where
  blocks : ∀ b ∈ t.blocks, b.1.Valid ∧ b.2.Valid
  last : t.last.Valid
  count : count + t.blocks.length ≤ maxIfBlocks

/-- One more text and placeholder in front. -/
def Template.cons (text : List Char) (p : SpelledPlaceholder) (t : Template) : Template :=
  match t.blocks with
  | [] => { t with last := t.last.cons text p }
  | b :: blocks => { t with blocks := (b.1.cons text p, b.2) :: blocks }

/-- The source goes on as a template does, in or behind a block. -/
def Continues (s : Parser) (source : List Char) (nodes : List Node) : Prop :=
  match s.block with
  | none => ∃ t : Template, t.Within s.ifBlockCount ∧ t.print = source ∧
      s.nodes ++ t.nodes = nodes
  | some ⟨condition, ifBody, none⟩ => ∃ (body : Body) (elseBody : Option Body) (t : Template),
      body.Valid ∧ (∀ b, elseBody = some b → b.Valid) ∧ t.Within s.ifBlockCount ∧
      body.print ++ SpelledBlock.printElse elseBody ++ tag "/if".toList ++ t.print = source ∧
      s.nodes ++ Node.ifBlock condition (ifBody ++ body.leaves)
        (SpelledBlock.elseLeaves elseBody) :: t.nodes = nodes
  | some ⟨condition, ifBody, some elseBody⟩ => ∃ (body : Body) (t : Template),
      body.Valid ∧ t.Within s.ifBlockCount ∧
      body.print ++ tag "/if".toList ++ t.print = source ∧
      s.nodes ++ Node.ifBlock condition ifBody (elseBody ++ body.leaves) :: t.nodes = nodes

/-- A body with nothing but text. -/
theorem valid_text {text : List Char} (h : '\x7b' ∉ text) : ({ tail := text } : Body).Valid :=
  ⟨nofun, h⟩

theorem Body.Valid.cons {b : Body} (hb : b.Valid) {text : List Char} {p : SpelledPlaceholder}
    (htext : '\x7b' ∉ text) (hp : p.Valid) : (b.cons text p).Valid := by
  refine ⟨fun item hitem => ?_, hb.tail⟩
  rcases List.mem_cons.mp hitem with rfl | hitem
  · exact ⟨htext, hp⟩
  · exact hb.items item hitem

theorem Body.print_cons (b : Body) (text : List Char) (p : SpelledPlaceholder) :
    (b.cons text p).print = Body.printItem (text, p) ++ b.print := by
  unfold Body.print Body.cons
  rw [List.flatMap_cons, List.append_assoc]

theorem Body.leaves_cons (b : Body) (text : List Char) (p : SpelledPlaceholder) :
    (b.cons text p).leaves = Body.itemLeaves (text, p) ++ b.leaves := by
  unfold Body.leaves Body.cons
  rw [List.flatMap_cons, List.append_assoc]

theorem Template.Within.cons {t : Template} {count : Nat} (ht : t.Within count) {text : List Char}
    {p : SpelledPlaceholder} (htext : '\x7b' ∉ text) (hp : p.Valid) :
    (t.cons text p).Within count := by
  obtain ⟨blocks, last⟩ := t
  obtain ⟨hblocks, hlast, hcount⟩ := ht
  cases blocks with
  | nil => exact ⟨nofun, hlast.cons htext hp, hcount⟩
  | cons b blocks =>
    refine ⟨fun c hc => ?_, hlast, hcount⟩
    obtain ⟨hbefore, hb⟩ := hblocks b List.mem_cons_self
    rcases List.mem_cons.mp hc with rfl | hc
    · exact ⟨hbefore.cons htext hp, hb⟩
    · exact hblocks c (List.mem_cons_of_mem b hc)

theorem Template.print_cons (t : Template) (text : List Char) (p : SpelledPlaceholder) :
    (t.cons text p).print = Body.printItem (text, p) ++ t.print := by
  obtain ⟨blocks, last⟩ := t
  cases blocks with
  | nil => exact Body.print_cons last text p
  | cons b blocks =>
    show (b.1.cons text p).print ++ b.2.print ++ _ ++ last.print =
      _ ++ (b.1.print ++ b.2.print ++ _ ++ last.print)
    rw [Body.print_cons]
    simp

theorem Template.nodes_cons (t : Template) (text : List Char) (p : SpelledPlaceholder) :
    (t.cons text p).nodes = (Body.itemLeaves (text, p)).map .leaf ++ t.nodes := by
  obtain ⟨blocks, last⟩ := t
  cases blocks with
  | nil =>
    show (last.cons text p).leaves.map Node.leaf = _ ++ last.leaves.map Node.leaf
    rw [Body.leaves_cons, List.map_append]
  | cons b blocks =>
    show (b.1.cons text p).leaves.map Node.leaf ++ [b.2.node] ++ _ ++ _ =
      _ ++ (b.1.leaves.map Node.leaf ++ [b.2.node] ++ _ ++ _)
    rw [Body.leaves_cons, List.map_append]
    simp [Template.cons]

variable {source : List Char} {nodes : List Node}

/-- A text and a placeholder in front of what is still to come. -/
theorem Continues.item {text : List Char} {p : SpelledPlaceholder} (htext : '\x7b' ∉ text)
    (hp : p.Valid) (h : Continues (s.appendAll (Body.itemLeaves (text, p))) source nodes) :
    Continues s (Body.printItem (text, p) ++ source) nodes := by
  cases hblock : s.block with
  | none =>
    rw [appendAll_none hblock] at h
    unfold Continues at h ⊢
    rw [hblock] at h ⊢
    obtain ⟨t, ht, rfl, hnodes⟩ := h
    refine ⟨t.cons text p, ht.cons htext hp, t.print_cons text p, ?_⟩
    rw [← hnodes, t.nodes_cons]
    simp
  | some b =>
    obtain ⟨condition, ifBody, elseBody⟩ := b
    cases elseBody with
    | none =>
      rw [appendAll_if hblock rfl] at h
      unfold Continues at h ⊢
      rw [hblock]
      obtain ⟨body, elseBody, t, hbody, helse, ht, rfl, hnodes⟩ := h
      refine ⟨body.cons text p, elseBody, t, hbody.cons htext hp, helse, ht, ?_, ?_⟩
      · rw [body.print_cons]
        simp
      · rw [← hnodes, body.leaves_cons, List.append_assoc]
    | some done =>
      rw [appendAll_else hblock rfl] at h
      unfold Continues at h ⊢
      rw [hblock]
      obtain ⟨body, t, hbody, ht, rfl, hnodes⟩ := h
      refine ⟨body.cons text p, t, hbody.cons htext hp, ht, ?_, ?_⟩
      · rw [body.print_cons]
        simp
      · rw [← hnodes, body.leaves_cons, List.append_assoc]

/-- The tag of an if block. -/
theorem Continues.open {text content : List Char} {pos : Nat} {mode : Mode} {s' : Parser}
    (htext : '\x7b' ∉ text)
    (hopen : ((s.appendAll (textLeaves text)).place pos mode).Opens content s')
    (h : Continues s' source nodes) :
    Continues s (text ++ (tag content ++ source)) nodes := by
  obtain ⟨hblock, -, front, condition, back, hfront, hcondition, hback, rfl, rfl⟩ := hopen
  have hnone : s.block = none := block_eq_none hblock
  rw [appendAll_none hnone] at h
  unfold Continues at h ⊢
  rw [hnone]
  obtain ⟨body, elseBody, t, hbody, helse, ht, rfl, hnodes⟩ := h
  refine ⟨{ t with blocks := ({ tail := text }, ⟨front, condition, back, body, elseBody⟩) ::
    t.blocks }, ⟨?_, ht.last, ?_⟩, ?_, ?_⟩
  · intro b hb
    rcases List.mem_cons.mp hb with rfl | hb
    · exact ⟨valid_text htext, hfront, hcondition, hback, hbody, helse⟩
    · exact ht.blocks b hb
  · have := ht.count
    rw [List.length_cons]
    show s.ifBlockCount + _ ≤ _
    change s.ifBlockCount + 1 + _ ≤ _ at this
    omega
  · unfold Template.print Template.printBlock SpelledBlock.print Body.print SpelledBlock.content
    simp
  · rw [← hnodes]
    unfold Template.nodes Template.blockNodes SpelledBlock.node
    simp [leaves_eq]

/-- The else tag. -/
theorem Continues.else {text : List Char} {b : Block} (htext : '\x7b' ∉ text)
    (hblock : (s.appendAll (textLeaves text)).block = some b) (hnone : b.elseBody = none)
    (h : Continues { s.appendAll (textLeaves text) with
      block := some { b with elseBody := some [] } } source nodes) :
    Continues s (text ++ (tag "#else".toList ++ source)) nodes := by
  cases hs : s.block with
  | none =>
    rw [appendAll_none hs] at hblock
    rw [show s.block = some b from hblock] at hs
    cases hs
  | some c =>
    obtain ⟨condition, ifBody, elseBody⟩ := c
    cases elseBody with
    | some done =>
      rw [appendAll_else hs rfl] at hblock
      obtain rfl := Option.some.inj hblock
      cases hnone
    | none =>
      rw [appendAll_if hs rfl] at hblock h
      obtain rfl := Option.some.inj hblock
      obtain ⟨body, t, hbody, ht, rfl, hnodes⟩ := h
      unfold Continues
      rw [hs]
      refine ⟨{ tail := text }, some body, t, valid_text htext, ?_, ht, ?_, ?_⟩
      · rintro _ ⟨⟩
        exact hbody
      · simp [Body.print, SpelledBlock.printElse]
      · rw [← hnodes]
        rfl

/-- The end tag. -/
theorem Continues.close {text : List Char} {b : Block} (htext : '\x7b' ∉ text)
    (hblock : (s.appendAll (textLeaves text)).block = some b)
    (h : Continues { s.appendAll (textLeaves text) with
      nodes := (s.appendAll (textLeaves text)).nodes ++
        [.ifBlock b.condition b.ifBody (b.elseBody.getD [])]
      block := none } source nodes) :
    Continues s (text ++ (tag "/if".toList ++ source)) nodes := by
  cases hs : s.block with
  | none =>
    rw [appendAll_none hs] at hblock
    rw [show s.block = some b from hblock] at hs
    cases hs
  | some c =>
    obtain ⟨condition, ifBody, elseBody⟩ := c
    obtain ⟨t, ht, rfl, hnodes⟩ := h
    unfold Continues
    rw [hs]
    cases elseBody with
    | some done =>
      rw [appendAll_else hs rfl] at hblock hnodes ht
      obtain rfl := Option.some.inj hblock
      refine ⟨{ tail := text }, t, valid_text htext, ht, ?_, ?_⟩
      · simp [Body.print]
      · rw [← hnodes]
        simp [leaves_eq]
    | none =>
      rw [appendAll_if hs rfl] at hblock hnodes ht
      obtain rfl := Option.some.inj hblock
      refine ⟨{ tail := text }, none, t, valid_text htext, nofun, ht, ?_, ?_⟩
      · simp [Body.print, SpelledBlock.printElse]
      · rw [← hnodes]
        simp [leaves_eq, SpelledBlock.elseLeaves]

theorem appendAll_ifBlockCount (leaves : List Leaf) :
    (s.appendAll leaves).ifBlockCount = s.ifBlockCount := by
  cases hs : s.block with
  | none => rw [appendAll_none hs]
  | some b =>
    cases hbody : b.elseBody with
    | none => rw [appendAll_if hs hbody]
    | some body => rw [appendAll_else hs hbody]

/-- **What is accepted is the print of what is still to come.** -/
theorem continues_of_finishes (hs : s.mode = .text []) (hcount : s.ifBlockCount ≤ maxIfBlocks)
    (h : finishes s source = .ok nodes) : Continues s source nodes := by
  -- on the length of the source: every case takes one tag from it
  induction hlength : source.length using Nat.strong_induction_on generalizing s source with
  | _ n ih =>
    subst hlength
    obtain ⟨hsource, hblock, rfl⟩ | ⟨text, content, rest, pos, pos', start, s', rfl, htext,
      hcontent, hread, hrest⟩ := finishes_cases hs h
    · unfold Continues
      rw [hblock]
      refine ⟨{ last := { tail := source } }, ⟨nofun, valid_text hsource, hcount⟩, ?_, ?_⟩
      · simp [Template.print, Body.print]
      · simp [Template.nodes, leaves_eq]
    · have hcontinues : s'.ifBlockCount ≤ maxIfBlocks → Continues s' rest nodes := fun hs' =>
        ih rest.length (by simp [tag]; omega) (s := s'.place pos' (.text [])) rfl hs' hrest rfl
      have happend := appendAll_ifBlockCount (s := s) (textLeaves text)
      rcases readTag_cases hcontent hread with hopen | ⟨rfl, b, hblock, hbody, rfl⟩ |
        ⟨rfl, b, hblock, rfl⟩ | ⟨p, hp, rfl, rfl⟩
      · have hs' : s'.ifBlockCount ≤ maxIfBlocks := by
          obtain ⟨-, hs', -, -, -, -, -, -, -, rfl⟩ := hopen
          exact hs'
        exact Continues.open htext hopen (hcontinues hs')
      · exact Continues.else htext hblock hbody (hcontinues (happend.trans_le hcount))
      · exact Continues.close htext hblock (hcontinues (happend.trans_le hcount))
      · have hitem : s.appendAll (Body.itemLeaves (text, p)) =
            (s.appendAll (textLeaves text)).append (.placeholder p.placeholder) :=
          appendAll_append s (textLeaves text) [.placeholder p.placeholder]
        rw [place_append, ← hitem] at hcontinues
        rw [← List.append_assoc]
        refine Continues.item htext hp (hcontinues ?_)
        exact (appendAll_ifBlockCount _).trans_le hcount

/-! ### The grammar of the parser -/

/-- **The parser accepts what its grammar prints**, and makes the tree of it. -/
theorem parse_eq_ok_iff {template : List Char} {nodes : List Node} :
    parse template = .ok nodes ↔ ∃ t : Template, t.Accepted ∧ t.print = template ∧
      t.nodes = nodes := by
  rw [parse_eq]
  constructor
  · intro h
    obtain ⟨t, ht, hprint, hnodes⟩ := continues_of_finishes rfl (Nat.zero_le _) h
    exact ⟨t, ⟨ht.blocks, ht.last, by simpa using ht.count⟩, hprint, hnodes⟩
  · rintro ⟨⟨blocks, last⟩, ht, rfl, rfl⟩
    exact finishes_print rfl rfl ht.blocks ht.last (by simpa using ht.count)

/-- A condition of the source ends with its operator, which stands in it before: the text in between
is in no node. -/
def LosesText (source : List Char) : Prop :=
  ∃ t : Template, t.Accepted ∧ ¬t.Documented ∧ t.print = source

/-- **The parser is exact.**  What the documented grammar prints is read as its nodes, and what is
read is the print of a documented template, character for character, unless a text is lost. -/
theorem parse_exact :
    (∀ t : Template, t.Documented → parse t.print = .ok t.nodes) ∧
    ∀ (source : List Char) (nodes : List Node), parse source = .ok nodes →
      (∃ t : Template, t.Documented ∧ t.print = source ∧ t.nodes = nodes) ∨ LosesText source := by
  constructor
  · intro t ht
    exact parse_eq_ok_iff.mpr ⟨t, ht.accepted, rfl, rfl⟩
  · intro source nodes h
    obtain ⟨t, ht, hprint, hnodes⟩ := parse_eq_ok_iff.mp h
    by_cases hdocumented : t.Documented
    · exact Or.inl ⟨t, hdocumented, hprint, hnodes⟩
    · exact Or.inr ⟨t, ht, hdocumented, hprint⟩

/-- A blank more in a pipe chain is in no node, so the nodes do not tell the source. -/
theorem parse_forgets : ¬∃ print : List Node → List Char, ∀ source nodes,
    parse source = .ok nodes → print nodes = source := by
  rintro ⟨print, h⟩
  let nodes : List Node := [.leaf (.placeholder ⟨"a".toList, [⟨"upper".toList, none⟩]⟩)]
  have hplain := h "\x7ba | upper\x7d".toList nodes (by decide)
  have hblank := h "\x7ba |  upper\x7d".toList nodes (by decide)
  rw [hplain] at hblank
  revert hblank
  decide

/-- What stands between the two operators is lost. -/
example : parse "\x7b#if level >5>\x7dx\x7b/if\x7d".toList =
    .ok [.ifBlock ⟨"level".toList, .gt, some []⟩ [.text "x".toList] []] := by decide

end Sda.Templates
