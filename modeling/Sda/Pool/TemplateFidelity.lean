/-
Sda/Pool/TemplateFidelity.lean

Whether the credentials of a product come out of a template as they are.

`intended` is what a template says: every line that ends in its only placeholder has the value of
the placeholder in its place, as it is, and no such line is left out unless the value is empty.
`renderString` reads the text with the values in it: a doubled brace of a value becomes a single
one, and a line of a value that looks like a label without a value is dropped.  Both make the text
shorter, and so does the stripping of the finished text; so a text comes out as intended only if
nothing of it was touched.

Main results: `renderString_eq_intended_iff` — one text; `credential_template_faithful_iff` — what
is sent to each marketplace carries the values of the product exactly if every value that is
written into a template is `Kept` there.
-/
import Sda.Pool.Formatter

namespace Sda.Formatter

variable {context : List Char → Option (List Char)}

/-! ### Line by line -/

/-- The pattern of the placeholders reads no line break. -/
theorem blind_newline : placeholder.Blind '\n' := ⟨trivial, rfl, rfl, rfl, rfl, rfl⟩

/-- Behind which character a text stands does not matter, if it is no brace. -/
theorem sub_behind {rep : List Char → List Char} (b b' : Option Char)
    (h : b.any (· == '{') = b'.any (· == '{')) (x : List Char) :
    placeholder.sub rep b 0 x = placeholder.sub rep b' 0 x := by
  cases x with
  | nil => rfl
  | cons c x =>
    have hgo : placeholder.go (b, c :: x) = placeholder.go (b', c :: x) := by
      show (if b.any _ = true then [] else [(b, c :: x)]).flatMap _ =
        (if b'.any _ = true then [] else [(b', c :: x)]).flatMap _
      rw [h]
      split <;> rfl
    have hfirst : placeholder.first b (c :: x) = placeholder.first b' (c :: x) := by
      unfold Re.first
      rw [hgo]
    rw [Re.sub, Re.sub, hfirst]

theorem sub_newline (rep : List Char → List Char) (x y : List Char) :
    placeholder.sub rep none 0 (x ++ '\n' :: y) =
      placeholder.sub rep none 0 x ++ '\n' :: placeholder.sub rep none 0 y := by
  rw [Re.sub_append blind_newline y (Nat.zero_le _)]
  rw [sub_behind (some '\n') none rfl]

theorem replaceDouble_cons_newline {b : Char} (hb : b ≠ '\n') (y : List Char) :
    replaceDouble b ('\n' :: y) = '\n' :: replaceDouble b y := by
  cases y with
  | nil => rfl
  | cons d y => exact if_neg fun h => hb h.1.symm

theorem replaceDouble_newline {b : Char} (hb : b ≠ '\n') (x y : List Char) :
    replaceDouble b (x ++ '\n' :: y) = replaceDouble b x ++ '\n' :: replaceDouble b y := by
  induction x using replaceDouble.induct b with
  | case1 c d s hcd ih =>
    show replaceDouble b (c :: d :: (s ++ '\n' :: y)) = replaceDouble b (c :: d :: s) ++ _
    simp [replaceDouble, hcd, ih]
  | case2 c d s hcd ih =>
    show replaceDouble b (c :: d :: (s ++ '\n' :: y)) = replaceDouble b (c :: d :: s) ++ _
    simp only [replaceDouble, if_neg hcd]
    exact congrArg (c :: ·) ih
  | case3 s hs =>
    match s, hs with
    | [], _ => exact replaceDouble_cons_newline hb y
    | [c], _ =>
      show (if c = b ∧ '\n' = b then _ else c :: replaceDouble b ('\n' :: y)) = _
      rw [if_neg fun h => hb h.2.symm, replaceDouble_cons_newline hb]
      rfl
    | c :: d :: s, hs => exact absurd rfl (hs c d s)

theorem unescape_newline (x y : List Char) :
    unescape (x ++ '\n' :: y) = unescape x ++ '\n' :: unescape y := by
  unfold unescape
  rw [replaceDouble_newline (by decide), replaceDouble_newline (by decide)]

/-- What becomes of one line of a template. -/
def renderLine (context : List Char → Option (List Char)) (line : List Char) : List (List Char) :=
  (lines (unescape (placeholder.sub (replacer context) none 0 line))).filter
    fun l => !isEmptyValueLine l

/-- The lines of a template do not know of each other. -/
theorem renderString_eq (t : List Char) :
    renderString context t = unlines ((lines t).flatMap (renderLine context)) := by
  set result := fun l => unescape (placeholder.sub (replacer context) none 0 l) with hresult
  have hmap : (lines t).map result ≠ [] := by simpa using lines_ne_nil t
  have hbreak : ∀ x y, result (x ++ '\n' :: y) = result x ++ '\n' :: result y := by
    intro x y
    rw [hresult]
    simp only [sub_newline, unescape_newline]
  have hlines : result t = unlines ((lines t).map result) := by
    rw [← map_unlines hbreak (lines_ne_nil t), unlines_lines]
  show unlines ((lines (result t)).filter _) = _
  rw [hlines, lines_unlines hmap, List.flatMap_map, List.filter_flatMap]
  rfl

/-! ### Escaped braces -/

theorem shrinks_replaceDouble (b : Char) (s : List Char) : Shrinks (replaceDouble b s) s := by
  induction s using replaceDouble.induct b with
  | case1 c d s hcd ih =>
    have hlength := ih.length_le
    right
    simp only [replaceDouble, if_pos hcd, List.length_cons]
    omega
  | case2 c d s hcd ih =>
    simp only [replaceDouble, if_neg hcd]
    exact (Shrinks.refl [c]).append ih
  | case3 s hs =>
    rw [replaceDouble]
    · exact Shrinks.refl s
    · exact hs

/-- Only a doubled brace is touched. -/
theorem replaceDouble_eq_iff (b : Char) (s : List Char) :
    replaceDouble b s = s ↔ ¬[b, b] <:+: s := by
  induction s using replaceDouble.induct b with
  | case1 c d s hcd ih =>
    have hinside : [b, b] <:+: c :: d :: s := by
      rw [hcd.1, hcd.2]
      exact List.infix_append [] [b, b] s
    have hshort : replaceDouble b (c :: d :: s) ≠ c :: d :: s := by
      intro h
      have hlength := congrArg List.length h
      have := (shrinks_replaceDouble b s).length_le
      simp only [replaceDouble, if_pos hcd, List.length_cons] at hlength
      omega
    simp [hinside, hshort]
  | case2 c d s hcd ih =>
    have hfront : ¬[b, b] <+: c :: d :: s := by
      intro h
      obtain ⟨hc, h⟩ := List.cons_prefix_cons.mp h
      obtain ⟨hd, -⟩ := List.cons_prefix_cons.mp h
      exact hcd ⟨hc.symm, hd.symm⟩
    rw [List.infix_cons_iff, or_iff_right hfront, ← ih]
    simp only [replaceDouble, if_neg hcd, List.cons.injEq, true_and]
  | case3 s hs =>
    have hlength : s.length < 2 := by
      match s, hs with
      | [], _ | [_], _ => simp
      | c :: d :: s, hs => exact absurd rfl (hs c d s)
    rw [replaceDouble]
    · simp only [true_iff]
      intro h
      have := h.length_le
      simp only [List.length_cons, List.length_nil] at this
      omega
    · exact hs

theorem shrinks_unescape (s : List Char) : Shrinks (unescape s) s :=
  (shrinks_replaceDouble '}' _).trans (shrinks_replaceDouble '{' s)

theorem unescape_eq_iff (s : List Char) :
    unescape s = s ↔ ¬['{', '{'] <:+: s ∧ ¬['}', '}'] <:+: s := by
  have hstep := Shrinks.trans_eq_iff (shrinks_replaceDouble '}' (replaceDouble '{' s))
    (shrinks_replaceDouble '{' s)
  rw [← replaceDouble_eq_iff, ← replaceDouble_eq_iff]
  show replaceDouble '}' (replaceDouble '{' s) = s ↔ _
  rw [hstep]
  constructor
  · rintro ⟨hclose, hopen⟩
    rw [hopen] at hclose
    exact ⟨hopen, hclose⟩
  · rintro ⟨hopen, hclose⟩
    rw [hopen]
    exact ⟨hclose, rfl⟩

/-! ### A line with one placeholder, at its end -/

/-- `[a-zA-Z_][a-zA-Z0-9_]*` -/
def isKey : List Char → Bool
  | [] => false
  | c :: w => keyStart c && w.all keyChar

/-- The placeholder of a key. -/
def hole (key : List Char) : List Char := '{' :: (key ++ ['}'])

/-- What stands before the placeholder at the end of a line without other braces, and its key. -/
def fieldLine (line : List Char) : Option (List Char × List Char) :=
  let head := line.takeWhile (· != '{')
  let key := (line.dropWhile (· != '{')).tail.dropLast
  if '}' ∉ head ∧ isKey key = true ∧ line = head ++ hole key then some (head, key) else none

/-- A line of that kind. -/
structure IsField (head key : List Char) : Prop where
  noOpen : '{' ∉ head
  noClose : '}' ∉ head
  key : isKey key = true

variable {head key line v : List Char}

theorem isField_of_fieldLine (h : fieldLine line = some (head, key)) :
    IsField head key ∧ line = head ++ hole key := by
  unfold fieldLine at h
  dsimp only at h
  split at h
  · next hcond =>
    obtain ⟨hhead, hkey⟩ := Prod.mk.inj (Option.some.inj h)
    rw [hhead, hkey] at hcond
    refine ⟨⟨?_, hcond.1, hcond.2.1⟩, hcond.2.2⟩
    intro hmem
    rw [← hhead] at hmem
    simpa using List.mem_takeWhile_imp hmem
  · cases h

/-- The placeholder is read to its end. -/
theorem first_hole (hkey : isKey key = true) {b : Option Char} (hb : b.any (· == '{') = false) :
    placeholder.first b (hole key) = some (hole key).length := by
  match key, hkey with
  | c :: w, hkey =>
    obtain ⟨hc, hw⟩ := Bool.and_eq_true_iff.mp hkey
    obtain ⟨rest, hstar⟩ := Re.go_star_chars (y := ['}']) (List.all_eq_true.mp hw) rfl (some c)
    have hgo : ∃ more, placeholder.go (b, hole (c :: w)) = (some '}', []) :: more := by
      have hlength : (w ++ ['}']).length = w.length + 1 := by simp
      have hstar' : Re.goStar (Re.go (.chars keyChar)) (w.length + 1) (some c, w ++ ['}']) =
          (Re.last (some c) w, ['}']) :: rest := by
        rw [← hlength]
        exact hstar
      simp [placeholder, Re.go, hole, hb, hc, hstar']
    obtain ⟨more, hgo⟩ := hgo
    unfold Re.first
    rw [hgo]
    exact if_pos (Nat.succ_pos _)

theorem first_other {b : Option Char} {c : Char} (hc : c ≠ '{') (x : List Char) :
    placeholder.first b (c :: x) = none := by
  have hgo : placeholder.go (b, c :: x) = [] := by
    have hno : (c == '{') = false := beq_false_of_ne hc
    show (if b.any _ = true then [] else [(b, c :: x)]).flatMap _ = []
    split
    · rfl
    · show (if (c == '{') = true then _ else []).flatMap _ ++ [] = []
      rw [hno]
      rfl
  unfold Re.first
  rw [hgo]

/-- **A field line** gets the value in the place of the placeholder. -/
theorem sub_field (h : IsField head key) {b : Option Char} (hb : b.any (· == '{') = false) :
    placeholder.sub (replacer context) b 0 (head ++ hole key) = head ++ (context key).getD [] := by
  obtain ⟨hopen, hclose, hkey⟩ := h
  induction head generalizing b with
  | nil =>
    have hrep : replacer context (hole key) = (context key).getD [] := by
      simp [replacer, hole]
    have hall : ∀ (k : Nat) (x : List Char) (b : Option Char), x.length ≤ k →
        placeholder.sub (replacer context) b k x = [] := by
      intro k x
      induction x generalizing k with
      | nil => exact fun _ _ => rfl
      | cons c x ih =>
        intro b hk
        cases k with
        | zero => cases hk
        | succ k => exact ih k (some c) (Nat.le_of_succ_le_succ hk)
    have hfirst : placeholder.first b ('{' :: (key ++ ['}'])) = some (hole key).length :=
      first_hole hkey hb
    rw [List.nil_append, hole, Re.sub, hfirst]
    show replacer context ((hole key).take (hole key).length) ++
      placeholder.sub (replacer context) _ _ (key ++ ['}']) = _
    rw [List.take_length, hrep, hall _ _ _ (by simp [hole])]
    simp
  | cons c head ih =>
    have hc : c ≠ '{' := fun hc => hopen (hc ▸ List.mem_cons_self)
    have hhead := ih (b := some c) (beq_false_of_ne hc)
      (fun hmem => hopen (List.mem_cons_of_mem c hmem))
      (fun hmem => hclose (List.mem_cons_of_mem c hmem))
    rw [List.cons_append, Re.sub, first_other hc]
    show c :: placeholder.sub (replacer context) (some c) 0 (head ++ hole key) = _
    rw [hhead]
    rfl

/-! ### What a template says -/

/-- The value for a key, empty if there is none. -/
def valueOf (context : List Char → Option (List Char)) (key : List Char) : List Char :=
  (context key).getD []

/-- A field line with its value as it is; what other lines become, and a line without a value, is
left to the code. -/
def intendedLine (context : List Char → Option (List Char)) (line : List Char) :
    List (List Char) :=
  match fieldLine line with
  | some (head, key) =>
    if valueOf context key = [] then renderLine context line
    else lines (head ++ valueOf context key)
  | none => renderLine context line

/-- The text that a template says. -/
def intended (context : List Char → Option (List Char)) (t : List Char) : List Char :=
  unlines ((lines t).flatMap (intendedLine context))

/-- A value that comes out as it is behind this text: no brace of it is doubled, and none of its
lines looks like a label without a value. -/
structure Kept (head value : List Char) : Prop where
  noOpen : ¬['{', '{'] <:+: value
  noClose : ¬['}', '}'] <:+: value
  noLabel : ∀ line ∈ lines (head ++ value), isEmptyValueLine line = false

/-- All values of the field lines of a template are kept. -/
def TextKept (context : List Char → Option (List Char)) (t : List Char) : Prop :=
  ∀ line ∈ lines t, ∀ head key, fieldLine line = some (head, key) →
    valueOf context key ≠ [] → Kept head (valueOf context key)

theorem infix_append_iff {b : Char} (hb : b ∉ head) :
    [b, b] <:+: head ++ v ↔ [b, b] <:+: v := by
  induction head with
  | nil => rfl
  | cons c head ih =>
    have hfront : ¬[b, b] <+: c :: (head ++ v) := by
      intro h
      exact hb ((List.cons_prefix_cons.mp h).1 ▸ List.mem_cons_self)
    rw [List.cons_append, List.infix_cons_iff, or_iff_right hfront]
    exact ih fun hmem => hb (List.mem_cons_of_mem c hmem)

theorem renderLine_field (h : IsField head key) :
    renderLine context (head ++ hole key) =
      (lines (unescape (head ++ valueOf context key))).filter fun l => !isEmptyValueLine l := by
  unfold renderLine
  rw [sub_field h rfl]
  rfl

theorem lighter_renderLine_field (h : IsField head key) :
    Lighter (renderLine context (head ++ hole key)) (lines (head ++ valueOf context key)) := by
  rw [renderLine_field h]
  exact (lighter_filter _ _).trans (shrinks_unescape _).lines

theorem renderLine_eq_iff (h : IsField head key) :
    renderLine context (head ++ hole key) = lines (head ++ valueOf context key) ↔
      Kept head (valueOf context key) := by
  have hstep := (lighter_filter (fun l => !isEmptyValueLine l)
    (lines (unescape (head ++ valueOf context key)))).trans_eq_iff
    (shrinks_unescape (head ++ valueOf context key)).lines
  rw [renderLine_field h, hstep, lines_inj, List.filter_eq_self]
  constructor
  · rintro ⟨hlabel, hbraces⟩
    rw [hbraces] at hlabel
    rw [unescape_eq_iff, infix_append_iff h.noOpen, infix_append_iff h.noClose] at hbraces
    exact ⟨hbraces.1, hbraces.2, fun line hline => by simpa using hlabel line hline⟩
  · intro hkept
    have hbraces : unescape (head ++ valueOf context key) = head ++ valueOf context key := by
      rw [unescape_eq_iff, infix_append_iff h.noOpen, infix_append_iff h.noClose]
      exact ⟨hkept.noOpen, hkept.noClose⟩
    rw [hbraces]
    exact ⟨fun line hline => by simp [hkept.noLabel line hline], rfl⟩

theorem intendedLine_field (h : fieldLine line = some (head, key))
    (hv : valueOf context key ≠ []) :
    intendedLine context line = lines (head ++ valueOf context key) := by
  unfold intendedLine
  rw [h]
  exact if_neg hv

/-- Where a line is not what the code makes of it, it is a field line with a value. -/
theorem intendedLine_cases (context : List Char → Option (List Char)) (line : List Char) :
    intendedLine context line = renderLine context line ∨
      ∃ head key, fieldLine line = some (head, key) ∧ valueOf context key ≠ [] := by
  cases hline : fieldLine line with
  | none =>
    left
    unfold intendedLine
    rw [hline]
  | some field =>
    obtain ⟨head, key⟩ := field
    rcases eq_or_ne (valueOf context key) [] with hv | hv
    · left
      unfold intendedLine
      rw [hline]
      exact if_pos hv
    · exact Or.inr ⟨head, key, rfl, hv⟩

theorem lighter_renderLine (line : List Char) :
    Lighter (renderLine context line) (intendedLine context line) := by
  rcases intendedLine_cases context line with h | ⟨head, key, hline, hv⟩
  · exact Or.inl h.symm
  · obtain ⟨hfield, heq⟩ := isField_of_fieldLine hline
    rw [intendedLine_field hline hv, heq]
    exact lighter_renderLine_field hfield

theorem renderLine_eq_intendedLine_iff (line : List Char) :
    renderLine context line = intendedLine context line ↔
      ∀ head key, fieldLine line = some (head, key) →
        valueOf context key ≠ [] → Kept head (valueOf context key) := by
  constructor
  · intro h head key hline hv
    obtain ⟨hfield, heq⟩ := isField_of_fieldLine hline
    rw [intendedLine_field hline hv, heq] at h
    exact (renderLine_eq_iff hfield).mp h
  · intro h
    rcases intendedLine_cases context line with hline | ⟨head, key, hline, hv⟩
    · exact hline.symm
    · obtain ⟨hfield, heq⟩ := isField_of_fieldLine hline
      rw [intendedLine_field hline hv]
      subst heq
      exact (renderLine_eq_iff hfield).mpr (h head key hline hv)

/-- A text that is lost altogether was more than one empty line. -/
theorem flatMap_ne_blank (t : List Char) (h : (lines t).flatMap (renderLine context) = []) :
    (lines t).flatMap (intendedLine context) ≠ [[]] := by
  intro hblank
  by_cases hall : ∀ line ∈ lines t, intendedLine context line = renderLine context line
  · rw [List.flatMap_congr hall, h] at hblank
    cases hblank
  · obtain ⟨line, hmem, hline⟩ := not_forall₂.mp hall
    rcases intendedLine_cases context line with heq | ⟨head, key, hfield, hv⟩
    · exact hline heq
    · have hweight := weight_le_flatMap (f := intendedLine context) hmem
      rw [hblank, intendedLine_field hfield hv, weight_lines, List.length_append] at hweight
      have hpos := List.length_pos_iff.mpr hv
      have : weight [[]] = 1 := rfl
      omega

theorem shrinks_renderString (t : List Char) :
    Shrinks (renderString context t) (intended context t) := by
  rw [renderString_eq]
  exact (lighter_flatMap fun line _ => lighter_renderLine line).shrinks (flatMap_ne_blank t)

/-- **A text comes out as its template says** exactly if all its values are kept. -/
theorem renderString_eq_intended_iff (t : List Char) :
    renderString context t = intended context t ↔ TextKept context t := by
  rw [renderString_eq]
  unfold intended
  rw [(lighter_flatMap fun line _ => lighter_renderLine line).unlines_eq_iff (flatMap_ne_blank t),
    flatMap_eq_iff fun line _ => lighter_renderLine line]
  exact forall₂_congr fun line _ => renderLine_eq_intendedLine_iff line

/-! ### What is handed to a marketplace -/

/-- The text of a value that is one. -/
def Entry.texts : Entry → List (List Char)
  | .text t => [t]
  | .other _ _ => []

/-- The texts of a template that the delivery text is made of. -/
def Content.deliveryTexts : Content → List (List Char)
  | .text t => [t]
  | .dict entries =>
    match lookup entries instructionKey with
    | some v => v.texts
    | none => entries.flatMap fun e => e.2.texts

/-- The same of the template for a marketplace, if there is one. -/
def CredentialSpec.deliveryTexts (spec : CredentialSpec) (marketplace : Marketplace) :
    List (List Char) :=
  match spec.used marketplace with
  | some template => template.deliveryTexts
  | none => []

theorem lookup_map (f : List Char → List Char) (entries : List (List Char × Entry))
    (k : List Char) :
    lookup (entries.map fun e => (e.1, e.2.map f)) k = (lookup entries k).map (Entry.map f) := by
  unfold lookup
  rw [List.find?_map, Option.map_map, Option.map_map]
  rfl

variable {f g : List Char → List Char}

theorem instruction_map_some {entries : List (List Char × Entry)} {v : Entry}
    (h : lookup entries instructionKey = some v) (f : List Char → List Char) :
    ((Content.dict entries).map f).instruction = v.map f := by
  show (lookup (entries.map _) _).getD _ = _
  rw [lookup_map, h]
  rfl

theorem instruction_map_none {entries : List (List Char × Entry)}
    (h : lookup entries instructionKey = none) (f : List Char → List Char) :
    ((Content.dict entries).map f).instruction =
      .text (unlines (entries.map fun e => (e.2.map f).shown)) := by
  show (lookup (entries.map _) _).getD _ = _
  rw [lookup_map, h]
  show Entry.text (unlines ((entries.map _).map _)) = _
  rw [List.map_map]
  rfl

theorem Entry.map_eq_iff (v : Entry) : v.map f = v.map g ↔ ∀ t ∈ v.texts, f t = g t := by
  cases v <;> simp [Entry.map, Entry.texts]

theorem Entry.shown_map_eq_iff (v : Entry) :
    (v.map f).shown = (v.map g).shown ↔ ∀ t ∈ v.texts, f t = g t := by
  cases v <;> simp [Entry.map, Entry.texts, Entry.shown]

theorem Entry.shownOr_map_eq_iff (v : Entry) :
    (v.map f).shownOr = (v.map g).shownOr ↔ ∀ t ∈ v.texts, f t = g t := by
  cases v <;> simp [Entry.map, Entry.texts, Entry.shownOr]

theorem Entry.shrinks_shown (h : ∀ t, Shrinks (f t) (g t)) (v : Entry) :
    Shrinks (v.map f).shown (v.map g).shown := by
  cases v with
  | text t => exact h t
  | other shown truthy => exact Shrinks.refl shown

theorem Entry.shrinks_shownOr (h : ∀ t, Shrinks (f t) (g t)) (v : Entry) :
    Shrinks (v.map f).shownOr (v.map g).shownOr := by
  cases v with
  | text t => exact h t
  | other shown truthy => exact Shrinks.refl _

/-- **The delivery text** of a template is the same under two rewritings only if all its texts
are. -/
theorem instruction_eq_iff (h : ∀ t, Shrinks (f t) (g t)) (c : Content) :
    (c.map f).instruction = (c.map g).instruction ↔ ∀ t ∈ c.deliveryTexts, f t = g t := by
  cases c with
  | text t => exact Entry.map_eq_iff (.text t)
  | dict entries =>
    unfold Content.deliveryTexts
    dsimp only
    cases hlookup : lookup entries instructionKey with
    | some v =>
      rw [instruction_map_some hlookup, instruction_map_some hlookup]
      exact v.map_eq_iff
    | none =>
      rw [instruction_map_none hlookup, instruction_map_none hlookup, Entry.text.injEq,
        unlines_map_eq_iff fun e _ => e.2.shrinks_shown h]
      simp only [Entry.shown_map_eq_iff, List.mem_flatMap]
      exact ⟨fun hall t ⟨e, he, ht⟩ => hall e he t ht, fun hall e he t ht => hall t ⟨e, he, ht⟩⟩

theorem instruction_shownOr_eq_iff (h : ∀ t, Shrinks (f t) (g t)) (c : Content) :
    (c.map f).instruction.shownOr = (c.map g).instruction.shownOr ↔
      ∀ t ∈ c.deliveryTexts, f t = g t := by
  rw [← instruction_eq_iff h]
  refine ⟨?_, congrArg Entry.shownOr⟩
  intro heq
  cases c with
  | text t => exact congrArg Entry.text heq
  | dict entries =>
    cases hlookup : lookup entries instructionKey with
    | some v =>
      rw [instruction_map_some hlookup, instruction_map_some hlookup] at heq ⊢
      rw [v.map_eq_iff, ← v.shownOr_map_eq_iff]
      exact heq
    | none =>
      rw [instruction_map_none hlookup, instruction_map_none hlookup] at heq ⊢
      exact congrArg Entry.text heq

theorem instruction_shrinks (h : ∀ t, Shrinks (f t) (g t)) (c : Content) :
    Shrinks (c.map f).instruction.shownOr (c.map g).instruction.shownOr := by
  cases c with
  | text t => exact h t
  | dict entries =>
    cases hlookup : lookup entries instructionKey with
    | some v =>
      rw [instruction_map_some hlookup, instruction_map_some hlookup]
      exact v.shrinks_shownOr h
    | none =>
      rw [instruction_map_none hlookup, instruction_map_none hlookup]
      exact shrinks_unlines fun e _ => e.2.shrinks_shown h

variable (product : OwnedProduct) (spec : CredentialSpec)

/-- The delivery text with some rendering of a text. -/
def deliveryWith (render : List Char → List Char) (marketplace : Marketplace) : Entry :=
  (formatWith render product spec marketplace).instruction

/-- The delivery text that the spec says. -/
def deliveryText (marketplace : Marketplace) : Entry :=
  deliveryWith product spec (intended (buildCredentialRenderContext product spec)) marketplace

/-- All values that are written into the delivery text are kept. -/
def DeliveryKept (marketplace : Marketplace) : Prop :=
  ∀ t ∈ spec.deliveryTexts marketplace, TextKept (buildCredentialRenderContext product spec) t

variable {product spec} {marketplace : Marketplace}

theorem deliveryWith_eq_iff (h : ∀ t, Shrinks (f t) (g t)) :
    deliveryWith product spec f marketplace = deliveryWith product spec g marketplace ↔
      ∀ t ∈ spec.deliveryTexts marketplace, f t = g t := by
  unfold deliveryWith formatWith CredentialSpec.deliveryTexts
  cases spec.used marketplace with
  | none => exact iff_of_true rfl fun _ ht => nomatch ht
  | some c =>
    cases c with
    | text t =>
      show Entry.text (f t ++ _) = Entry.text (g t ++ _) ↔ ∀ t' ∈ [t], f t' = g t'
      rw [Entry.text.injEq, List.append_left_inj, List.forall_mem_singleton]
    | dict entries => exact instruction_eq_iff h (.dict entries)

theorem deliveryWith_shownOr_eq_iff (h : ∀ t, Shrinks (f t) (g t)) :
    (deliveryWith product spec f marketplace).shownOr =
        (deliveryWith product spec g marketplace).shownOr ↔
      ∀ t ∈ spec.deliveryTexts marketplace, f t = g t := by
  unfold deliveryWith formatWith CredentialSpec.deliveryTexts
  cases spec.used marketplace with
  | none => exact iff_of_true rfl fun _ ht => nomatch ht
  | some c =>
    cases c with
    | text t =>
      show f t ++ _ = g t ++ _ ↔ ∀ t' ∈ [t], f t' = g t'
      rw [List.append_left_inj, List.forall_mem_singleton]
    | dict entries => exact instruction_shownOr_eq_iff h (.dict entries)

theorem deliveryWith_shrinks (h : ∀ t, Shrinks (f t) (g t)) :
    Shrinks (deliveryWith product spec f marketplace).shownOr
      (deliveryWith product spec g marketplace).shownOr := by
  unfold deliveryWith formatWith
  cases spec.used marketplace with
  | none => exact Shrinks.refl _
  | some c =>
    cases c with
    | text t => exact (h t).append (Shrinks.refl _)
    | dict entries => exact instruction_shrinks h (.dict entries)

/-- What the code renders. -/
def renderedText (product : OwnedProduct) (spec : CredentialSpec) (marketplace : Marketplace) :
    Entry :=
  deliveryWith product spec (renderString (buildCredentialRenderContext product spec)) marketplace

theorem renderedText_shownOr_eq_iff :
    (renderedText product spec marketplace).shownOr =
        (deliveryText product spec marketplace).shownOr ↔
      DeliveryKept product spec marketplace :=
  (deliveryWith_shownOr_eq_iff shrinks_renderString).trans
    (forall₂_congr fun t _ => renderString_eq_intended_iff t)

theorem renderedText_eq_iff :
    renderedText product spec marketplace = deliveryText product spec marketplace ↔
      DeliveryKept product spec marketplace :=
  (deliveryWith_eq_iff shrinks_renderString).trans
    (forall₂_congr fun t _ => renderString_eq_intended_iff t)

/-! ### Eldorado -/

/-- White space at the beginning. -/
def startsBlank (x : List Char) : Bool := x.head?.any isSpaceChar

/-- What Eldorado's text gets behind the rendered one. -/
def bundleTail (product : OwnedProduct) (rendered : List Char) : List Char :=
  if addsBundle product rendered = true then
    if rendered = [] then toEldoradoAccountSecret product
    else "\n\n".toList ++ (toEldoradoAccountSecret product).rdropWhile isSpaceChar
  else []

theorem joinChars_head {p : Char → Bool} {sep : List Char} {bs : List (List Char)}
    (h : ∀ b ∈ bs, b.head?.any p = true) (hbs : bs ≠ []) :
    (joinChars sep bs).head?.any p = true := by
  match bs, hbs with
  | b :: bs, _ =>
    have hb := h b List.mem_cons_self
    have hjoin : ∃ rest, joinChars sep (b :: bs) = b ++ rest := by
      cases bs with
      | nil => exact ⟨[], by simp [joinChars]⟩
      | cons b' bs => exact ⟨sep ++ joinChars sep (b' :: bs), by simp [joinChars]⟩
    obtain ⟨rest, hjoin⟩ := hjoin
    match b, hb with
    | c :: b, hb =>
      rw [hjoin]
      exact hb

/-- The canonical bundle begins with a header. -/
theorem toEldoradoAccountSecret_head (h : toEldoradoAccountSecret product ≠ []) :
    (toEldoradoAccountSecret product).head?.any (fun c => !isSpaceChar c) = true := by
  unfold toEldoradoAccountSecret at h ⊢
  apply joinChars_head
  · exact fun s hs => CredentialBundle.head_of_mem_secretSections hs
  · intro hnil
    exact h (congrArg (joinChars "\n\n".toList) hnil)

theorem eldoradoText_eq_iff {x y : List Char} (h : Shrinks x y) :
    eldoradoText product x = y ++ bundleTail product x ↔
      x = y ∧ (addsBundle product x = true → startsBlank x = false) := by
  unfold eldoradoText bundleTail
  cases hadds : addsBundle product x with
  | false => simp
  | true =>
    rw [if_pos rfl, if_pos rfl]
    rcases eq_or_ne x [] with rfl | hx
    · rw [if_pos rfl, if_pos rfl]
      simp [startsBlank, eq_comm]
    · rw [if_neg hx, if_neg hx]
      have hsecret : toEldoradoAccountSecret product ≠ [] := by
        intro hnil
        rw [addsBundle, hnil] at hadds
        cases hadds
      have hbreak := (shrinks_dropWhile isSpaceChar (x ++ "\n\n".toList)).trans_eq_iff
        (h.append (Shrinks.refl "\n\n".toList))
      rw [stripChars_append _ (toEldoradoAccountSecret_head hsecret), ← List.append_assoc y,
        List.append_left_inj, hbreak, List.append_left_inj, dropWhile_eq_iff_head,
        List.head?_append_of_ne_nil _ hx]
      simp [startsBlank, and_comm]

/-! ### PlayerAuctions -/

/-- What the instruction gets behind its text. -/
def recoveryTail (normalizedInstruction recoveryEmail : List Char) : List Char :=
  let note := "Recovery Email: ".toList ++ stripChars recoveryEmail
  if stripChars recoveryEmail = [] then []
  else if (recoveryMention.search none normalizedInstruction).isSome then []
  else if normalizedInstruction = [] then note else '\n' :: note

theorem stripChars_head (x : List Char) : (stripChars x).head?.any isSpaceChar = false := by
  rw [← dropWhile_eq_iff_head]
  exact dropWhile_rdropWhile isSpaceChar x

theorem appendPlayerauctionsRecoveryEmail_eq (instruction recoveryEmail : List Char) :
    appendPlayerauctionsRecoveryEmail instruction recoveryEmail =
      stripChars instruction ++ recoveryTail (stripChars instruction) recoveryEmail := by
  unfold appendPlayerauctionsRecoveryEmail recoveryTail
  dsimp only
  split_ifs with hemail hmention hinstruction
  · exact (List.append_nil _).symm
  · exact (List.append_nil _).symm
  all_goals
    have hnote : ("Recovery Email: ".toList ++ stripChars recoveryEmail).rdropWhile isSpaceChar =
        "Recovery Email: ".toList ++ stripChars recoveryEmail := by
      apply List.rdropWhile_eq_self_iff.mpr
      intro hne
      rw [List.getLast_append_of_ne_nil hne hemail]
      have hlast : (stripChars recoveryEmail).rdropWhile isSpaceChar = stripChars recoveryEmail :=
        List.rdropWhile_idempotent isSpaceChar _
      exact List.rdropWhile_eq_self_iff.mp hlast hemail
    rw [← List.singleton_append, ← List.append_assoc, stripChars_append _ rfl, hnote]
  · rw [hinstruction]
    rfl
  · have hhead : (stripChars instruction ++ ['\n']).dropWhile isSpaceChar =
        stripChars instruction ++ ['\n'] := by
      rw [dropWhile_eq_iff_head, List.head?_append_of_ne_nil _ hinstruction]
      exact stripChars_head instruction
    rw [hhead, List.append_assoc]

theorem instruction_append_eq_iff {x y email : List Char} (h : Shrinks x y) :
    appendPlayerauctionsRecoveryEmail x email = y ++ recoveryTail (stripChars x) email ↔
      x = y ∧ stripChars y = y := by
  rw [appendPlayerauctionsRecoveryEmail_eq, List.append_left_inj,
    (shrinks_stripChars x).trans_eq_iff h]
  constructor
  · rintro ⟨hstrip, rfl⟩
    exact ⟨rfl, hstrip⟩
  · rintro ⟨rfl, hstrip⟩
    exact ⟨hstrip, rfl⟩

/-- The instruction with some rendering of a text: the entry of a dictionary, or the delivery
text. -/
def paInstructionWith (product : OwnedProduct) (spec : CredentialSpec)
    (render : List Char → List Char) : List Char :=
  match spec.template .playerauctions with
  | some (.dict paTemplate) =>
    ((lookup (paTemplate.map fun e => (e.1, e.2.map render)) instructionKey).getD
      (.text [])).shownOr
  | _ => (deliveryWith product spec render .playerauctions).shownOr

/-- The texts of the instruction. -/
def CredentialSpec.instructionTexts (spec : CredentialSpec) : List (List Char) :=
  match spec.template .playerauctions with
  | some (.dict paTemplate) => ((lookup paTemplate instructionKey).map Entry.texts).getD []
  | _ => spec.deliveryTexts .playerauctions

theorem paInstructionWith_shrinks (h : ∀ t, Shrinks (f t) (g t)) :
    Shrinks (paInstructionWith product spec f) (paInstructionWith product spec g) := by
  unfold paInstructionWith
  split
  · rw [lookup_map, lookup_map]
    cases lookup _ instructionKey with
    | none => exact Shrinks.refl []
    | some v => exact v.shrinks_shownOr h
  · exact deliveryWith_shrinks h

theorem paInstructionWith_eq_iff (h : ∀ t, Shrinks (f t) (g t)) :
    paInstructionWith product spec f = paInstructionWith product spec g ↔
      ∀ t ∈ spec.instructionTexts, f t = g t := by
  unfold paInstructionWith CredentialSpec.instructionTexts
  split
  · rw [lookup_map, lookup_map]
    cases lookup _ instructionKey with
    | none => exact iff_of_true rfl fun _ ht => nomatch ht
    | some v => exact v.shownOr_map_eq_iff
  · exact deliveryWith_shownOr_eq_iff h

/-- The instruction that the spec says. -/
def paInstruction (product : OwnedProduct) (spec : CredentialSpec) : List Char :=
  paInstructionWith product spec (intended (buildCredentialRenderContext product spec))

/-- What the code renders for the instruction. -/
def renderedInstruction (product : OwnedProduct) (spec : CredentialSpec) : List Char :=
  paInstructionWith product spec (renderString (buildCredentialRenderContext product spec))

theorem renderedInstruction_eq_iff :
    renderedInstruction product spec = paInstruction product spec ↔
      ∀ t ∈ spec.instructionTexts, TextKept (buildCredentialRenderContext product spec) t :=
  (paInstructionWith_eq_iff shrinks_renderString).trans
    (forall₂_congr fun t _ => renderString_eq_intended_iff t)

/-- The key that stands for a credential at PlayerAuctions: the template of the entry is its
placeholder, or without a dictionary it is the key of the role.  It is not the key of the backup
codes. -/
def IsPaKey (spec : CredentialSpec) (entry : String) (role : Role) (key : List Char) : Prop :=
  buildReverseRoleMap spec.fields key = some role ∧ key ≠ backupCodesKey ∧
    match spec.template .playerauctions with
    | some (.dict paTemplate) =>
      isKey key = true ∧ lookup paTemplate entry.toList = some (.text (hole key))
    | _ => buildFieldRoleMap spec.fields role = some key

theorem valueOf_role {role : Role} (hrole : buildReverseRoleMap spec.fields key = some role)
    (hkey : key ≠ backupCodesKey) (hv : product.column role = some v) :
    valueOf (buildCredentialRenderContext product spec) key = v := by
  unfold valueOf buildCredentialRenderContext
  rw [if_neg fun h => hkey h.1, hrole, Option.map_some, hv]
  rfl

/-- A template that is nothing but a placeholder. -/
theorem renderString_hole_iff (hkey : isKey key = true) :
    renderString context (hole key) = valueOf context key ↔ Kept [] (valueOf context key) := by
  have hfield : IsField [] key := ⟨List.not_mem_nil, List.not_mem_nil, hkey⟩
  have hbreak : '\n' ∉ hole key := by
    match key, hkey with
    | c :: w, hkey =>
      obtain ⟨hc, hw⟩ := Bool.and_eq_true_iff.mp hkey
      intro hmem
      have hmem' : '\n' = '{' ∨ '\n' = c ∨ '\n' ∈ w ∨ '\n' = '}' := by
        simpa [hole] using hmem
      rcases hmem' with h | h | h | h
      · exact absurd h (by decide)
      · rw [← h] at hc
        cases hc
      · have := List.all_eq_true.mp hw _ h
        cases this
      · exact absurd h (by decide)
  have hline : renderString context (hole key) = unlines (renderLine context ([] ++ hole key)) := by
    rw [renderString_eq, lines_single hbreak, List.flatMap_singleton]
    rfl
  have hblank : renderLine context ([] ++ hole key) = [] →
      lines ([] ++ valueOf context key) ≠ [[]] := by
    intro hnil hlines
    have hv : [] ++ valueOf context key = [] := by
      rw [← unlines_lines ([] ++ valueOf context key), hlines]
      rfl
    rw [renderLine_field hfield, hv] at hnil
    cases hnil
  have hvalue : valueOf context key = unlines (lines ([] ++ valueOf context key)) := by simp
  rw [hline]
  conv_lhs => rw [hvalue]
  rw [(lighter_renderLine_field hfield).unlines_eq_iff hblank, renderLine_eq_iff hfield]

/-- The credential of an entry and a role, as it is sent to PlayerAuctions. -/
def paCredential (product : OwnedProduct) (spec : CredentialSpec) (entry fallback : String)
    (role : Role) : Entry :=
  match spec.template .playerauctions with
  | some (.dict paTemplate) =>
    (lookup (paTemplate.map fun e =>
      (e.1, e.2.map (renderString (buildCredentialRenderContext product spec)))) entry.toList).getD
      (.text [])
  | _ => .text (valueOf (buildCredentialRenderContext product spec)
      ((buildFieldRoleMap spec.fields role).getD fallback.toList))

/-- A credential arrives as it is, unless a dictionary renders it and it is not kept. -/
theorem paCredential_eq_iff {entry fallback : String} {role : Role}
    (h : IsPaKey spec entry role key) (hv : product.column role = some v) :
    paCredential product spec entry fallback role = .text v ↔
      ∀ paTemplate, spec.template .playerauctions = some (.dict paTemplate) → Kept [] v := by
  obtain ⟨hrole, hsystem, hkey⟩ := h
  have hvalue := valueOf_role hrole hsystem hv
  unfold paCredential
  split
  · next paTemplate htemplate =>
    rw [htemplate] at hkey
    have hiff : renderString (buildCredentialRenderContext product spec) (hole key) =
        valueOf (buildCredentialRenderContext product spec) key ↔ _ :=
      renderString_hole_iff hkey.1
    rw [lookup_map, hkey.2]
    show Entry.text (renderString _ (hole key)) = .text v ↔ _
    rw [Entry.text.injEq, ← hvalue, hiff]
    exact ⟨fun hkept _ _ => hkept, fun hkept => hkept paTemplate htemplate⟩
  · next htemplate =>
    have hmap : buildFieldRoleMap spec.fields role = some key := by
      split at hkey
      · next paTemplate htemplate' => exact absurd htemplate' (htemplate paTemplate)
      · exact hkey
    rw [hmap, Option.getD_some, hvalue]
    exact iff_of_true rfl fun paTemplate htemplate' => absurd htemplate' (htemplate paTemplate)

/-! ### What is sent, and when it is what the spec says -/

section Sent

variable (legacy : OwnedProduct → Marketplace → List Char) (product : OwnedProduct)
  (spec : CredentialSpec) (autoDelivery : AutoDelivery) (productSpec : Option CredentialSpec)

/-- What is sent for the product of a spec: the delivery texts are those that the spec says, with
what the marketplace adds behind them, and PlayerAuctions gets the login and the password. -/
structure Faithful : Prop where
  eldorado : formatCredentialForMarketplace legacy product .eldorado (some spec) =
    .text ((deliveryText product spec .eldorado).shownOr ++
      bundleTail product (renderedText product spec .eldorado).shownOr)
  gameboost : formatCredentialForMarketplace legacy product .gameboost (some spec) =
    deliveryText product spec .gameboost
  login : ∀ key, IsPaKey spec "loginName" .login key →
    let d := applyPaAutoDeliveryCredentials legacy autoDelivery product productSpec (some spec)
    d.loginName = .text product.login ∧ d.retypeLoginName = .text product.login
  password : ∀ key, IsPaKey spec "password" .password key →
    let d := applyPaAutoDeliveryCredentials legacy autoDelivery product productSpec (some spec)
    d.password = .text product.password ∧ d.retypePassword = .text product.password
  instruction :
    (applyPaAutoDeliveryCredentials legacy autoDelivery product productSpec
        (some spec)).instruction =
      paInstruction product spec ++
        recoveryTail (stripChars (renderedInstruction product spec)) product.securityEmail

/-- **The condition**: every value that is written into a template is kept, and a text that is
stripped has no white space at its ends. -/
structure Clean : Prop where
  eldorado : DeliveryKept product spec .eldorado
  eldoradoStart : addsBundle product (deliveryText product spec .eldorado).shownOr = true →
    startsBlank (deliveryText product spec .eldorado).shownOr = false
  gameboost : DeliveryKept product spec .gameboost
  login : ∀ key paTemplate, spec.template .playerauctions = some (.dict paTemplate) →
    IsPaKey spec "loginName" .login key → Kept [] product.login
  password : ∀ key paTemplate, spec.template .playerauctions = some (.dict paTemplate) →
    IsPaKey spec "password" .password key → Kept [] product.password
  instruction : ∀ t ∈ spec.instructionTexts,
    TextKept (buildCredentialRenderContext product spec) t
  instructionEnds : stripChars (paInstruction product spec) = paInstruction product spec

theorem eldorado_iff :
    formatCredentialForMarketplace legacy product .eldorado (some spec) =
        .text ((deliveryText product spec .eldorado).shownOr ++
          bundleTail product (renderedText product spec .eldorado).shownOr) ↔
      DeliveryKept product spec .eldorado ∧
        (addsBundle product (deliveryText product spec .eldorado).shownOr = true →
          startsBlank (deliveryText product spec .eldorado).shownOr = false) := by
  have hshrinks : Shrinks (renderedText product spec .eldorado).shownOr
      (deliveryText product spec .eldorado).shownOr :=
    deliveryWith_shrinks shrinks_renderString
  show Entry.text (eldoradoText product (renderedText product spec .eldorado).shownOr) = _ ↔ _
  rw [Entry.text.injEq, eldoradoText_eq_iff hshrinks, ← renderedText_shownOr_eq_iff]
  apply and_congr_right
  intro heq
  rw [heq]

theorem sent_credentials :
    (applyPaAutoDeliveryCredentials legacy autoDelivery product productSpec (some spec)).loginName =
        paCredential product spec "loginName" "login" .login ∧
      (applyPaAutoDeliveryCredentials legacy autoDelivery product productSpec
          (some spec)).retypeLoginName = paCredential product spec "loginName" "login" .login ∧
      (applyPaAutoDeliveryCredentials legacy autoDelivery product productSpec
          (some spec)).password = paCredential product spec "password" "password" .password ∧
      (applyPaAutoDeliveryCredentials legacy autoDelivery product productSpec
          (some spec)).retypePassword = paCredential product spec "password" "password" .password ∧
      (applyPaAutoDeliveryCredentials legacy autoDelivery product productSpec
          (some spec)).instruction =
        appendPlayerauctionsRecoveryEmail (renderedInstruction product spec)
          product.securityEmail := by
  unfold applyPaAutoDeliveryCredentials paCredential renderedInstruction paInstructionWith
  dsimp only
  cases spec.template .playerauctions with
  | none => exact ⟨rfl, rfl, rfl, rfl, rfl⟩
  | some c => cases c <;> exact ⟨rfl, rfl, rfl, rfl, rfl⟩

/-- **Credentials come out of the templates as they are** exactly under this condition. -/
theorem credential_template_faithful_iff :
    Faithful legacy product spec autoDelivery productSpec ↔ Clean product spec := by
  obtain ⟨hlogin, hretypeLogin, hpassword, hretypePassword, hinstruction⟩ :=
    sent_credentials legacy product spec autoDelivery productSpec
  have hshrinks : Shrinks (renderedInstruction product spec) (paInstruction product spec) :=
    paInstructionWith_shrinks shrinks_renderString
  constructor
  · intro h
    obtain ⟨hkept, hstart⟩ := (eldorado_iff legacy product spec).mp h.eldorado
    have hsent := h.instruction
    rw [hinstruction, instruction_append_eq_iff hshrinks, renderedInstruction_eq_iff] at hsent
    refine ⟨hkept, hstart, renderedText_eq_iff.mp h.gameboost, ?_, ?_, hsent.1, hsent.2⟩
    · intro key paTemplate htemplate hkey
      have := (h.login key hkey).1
      rw [hlogin] at this
      exact (paCredential_eq_iff hkey rfl).mp this paTemplate htemplate
    · intro key paTemplate htemplate hkey
      have := (h.password key hkey).1
      rw [hpassword] at this
      exact (paCredential_eq_iff hkey rfl).mp this paTemplate htemplate
  · intro h
    refine ⟨?_, renderedText_eq_iff.mpr h.gameboost, ?_, ?_, ?_⟩
    · exact (eldorado_iff legacy product spec).mpr ⟨h.eldorado, h.eldoradoStart⟩
    · intro key hkey
      have hsent : paCredential product spec "loginName" "login" .login = .text product.login :=
        (paCredential_eq_iff hkey rfl).mpr fun paTemplate htemplate =>
          h.login key paTemplate htemplate hkey
      exact ⟨hlogin.trans hsent, hretypeLogin.trans hsent⟩
    · intro key hkey
      have hsent : paCredential product spec "password" "password" .password =
          .text product.password :=
        (paCredential_eq_iff hkey rfl).mpr fun paTemplate htemplate =>
          h.password key paTemplate htemplate hkey
      exact ⟨hpassword.trans hsent, hretypePassword.trans hsent⟩
    · rw [hinstruction, instruction_append_eq_iff hshrinks, renderedInstruction_eq_iff]
      exact ⟨h.instruction, h.instructionEnds⟩

end Sent

/-- A product whose password ends in its only colon. -/
def colonProduct : OwnedProduct := { login := "user".toList, password := "hunter2:".toList }

/-- With the generic preset its password is not sent to PlayerAuctions at all. -/
theorem credential_template_faithful_fails :
    ¬Faithful (fun _ _ => []) colonProduct genericSpec {} none := by
  intro h
  have hkey : IsPaKey genericSpec "password" .password "password".toList :=
    ⟨by decide, by decide, by decide, by decide⟩
  have hsent := (h.password _ hkey).1
  have hlost : (applyPaAutoDeliveryCredentials (fun _ _ => []) {} colonProduct none
      (some genericSpec)).password = .text [] := by decide +kernel
  rw [hlost] at hsent
  exact absurd hsent (by decide)

/-- Every line of a preset is a field line, of a field of the preset. -/
theorem preset_lines : (credentialPresets.all fun p =>
    [Marketplace.eldorado, .gameboost].all fun m => (p.2.deliveryTexts m).all fun t =>
      (lines t).all fun line =>
        (fieldLine line).any fun l => (buildReverseRoleMap p.2.fields l.2).isSome) = true := by
  decide +kernel

end Sda.Formatter
