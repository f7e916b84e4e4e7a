/-
Sda/Lib/Capture.lean

Regular expressions with groups.

A pattern is a list of pieces, one after the other; a piece is a regular expression, whose text may
be kept as a group.  `captures` tries the ends of the first piece in the order of a backtracking
matcher and takes the first one behind which the rest of the pieces matches.

Main results: `captures_sound` — a match cuts the text into the texts of the pieces, and the groups
are those of the kept pieces; `searchFrom_sound` — a match that is found lies in the text;
`searchFrom_blocked` — there is none if the first piece cannot match.
-/
import Sda.Lib.Regex

namespace Sda.Pattern

/-- A part of a pattern. -/
structure Piece where
  re : Re
  keep : Bool := false

namespace Piece

/-- A part that is not kept. -/
def skip (r : Re) : Piece := { re := r }

/-- A group. -/
def group (r : Re) : Piece := { re := r, keep := true }

end Piece

/-- What lies between two places of one text. -/
def between (i j : Place) : List Char := i.2.take (i.2.length - j.2.length)

/-- The groups of the first match that starts here, and where it ends. -/
def captures : List Piece → Place → Option (List (List Char) × Place)
  | [], i => some ([], i)
  | p :: ps, i =>
    (p.re.go i).findSome? fun j => (captures ps j).map fun m =>
      (if p.keep = true then between i j :: m.1 else m.1, m.2)

/-- The groups of `re.match`. -/
def matchGroups (ps : List Piece) (x : List Char) : Option (List (List Char)) :=
  (captures ps (none, x)).map (·.1)

/-- A match that a search finds: how many characters it passes, the groups, and what follows. -/
structure Hit where
  start : Nat
  groups : List (List Char)
  after : Place

/-- `re.search`, of the text from here on. -/
def searchFrom (ps : List Piece) : Option Char → List Char → Option Hit
  | b, [] => (captures ps (b, [])).map fun m => ⟨0, m.1, m.2⟩
  | b, c :: x =>
    match captures ps (b, c :: x) with
    | some m => some ⟨0, m.1, m.2⟩
    | none => (searchFrom ps (some c) x).map fun f => { f with start := f.start + 1 }

/-- `re.search` -/
def search (ps : List Piece) (x : List Char) : Option Hit := searchFrom ps none x

/-- `re.finditer`, of patterns that read a character: where each match starts and ends, and its
groups. -/
def findAll (ps : List Piece) : Nat → Nat → Place → List (Nat × Nat × List (List Char))
  | 0, _, _ => []
  | n + 1, at_, i =>
    match searchFrom ps i.1 i.2 with
    | some f =>
      let stop := at_ + (i.2.length - f.after.2.length)
      (at_ + f.start, stop, f.groups) :: findAll ps n stop f.after
    | none => []

/-! ### What a match is made of -/

/-- The pieces that a match is cut into. -/
inductive Cut : List Piece → Place → List (List Char) → Place → Prop
  | nil (i : Place) : Cut [] i [] i
  | cons {p : Piece} {ps : List Piece} {i j k : Place} {gs : List (List Char)} :
      j ∈ p.re.go i → Cut ps j gs k →
        Cut (p :: ps) i (if p.keep = true then between i j :: gs else gs) k

/-- **A match** is a cut of the text, piece by piece. -/
theorem captures_sound {ps : List Piece} {i k : Place} {gs : List (List Char)}
    (h : captures ps i = some (gs, k)) : Cut ps i gs k := by
  induction ps generalizing i gs with
  | nil =>
    cases h
    exact Cut.nil _
  | cons p ps ih =>
    obtain ⟨j, hj, hm⟩ := List.exists_of_findSome?_eq_some h
    obtain ⟨⟨gs', k'⟩, hcaptures, heq⟩ := Option.map_eq_some_iff.mp hm
    cases heq
    exact Cut.cons hj (ih hcaptures)

theorem searchFrom_sound {ps : List Piece} {b : Option Char} {x : List Char} {f : Hit}
    (h : searchFrom ps b x = some f) :
    ∃ b', f.start ≤ x.length ∧ Cut ps (b', x.drop f.start) f.groups f.after := by
  induction x generalizing b f with
  | nil =>
    obtain ⟨⟨gs, k⟩, hcaptures, rfl⟩ := Option.map_eq_some_iff.mp h
    exact ⟨b, le_refl _, captures_sound hcaptures⟩
  | cons c x ih =>
    unfold searchFrom at h
    split at h
    · next m hcaptures =>
      cases h
      exact ⟨b, Nat.zero_le _, captures_sound hcaptures⟩
    · obtain ⟨f', hfound, rfl⟩ := Option.map_eq_some_iff.mp h
      obtain ⟨b', hle, hcut⟩ := ih hfound
      exact ⟨b', Nat.succ_le_succ hle, hcut⟩

/-! ### A text the first piece cannot match -/

theorem captures_blocked {A : Char → Prop} {p : Piece} (h : p.re.Blocked A) (ps : List Piece)
    {i : Place} (hi : ∀ c ∈ i.2, A c) : captures (p :: ps) i = none := by
  show (p.re.go i).findSome? _ = none
  rw [Re.go_blocked h hi]
  rfl

theorem searchFrom_blocked {A : Char → Prop} {p : Piece} (h : p.re.Blocked A) (ps : List Piece)
    {b : Option Char} {x : List Char} (hx : ∀ c ∈ x, A c) : searchFrom (p :: ps) b x = none := by
  induction x generalizing b with
  | nil =>
    unfold searchFrom
    rw [captures_blocked h ps hx]
    rfl
  | cons c x ih =>
    unfold searchFrom
    rw [captures_blocked h ps hx, ih fun d hd => hx d (List.mem_cons_of_mem c hd)]
    rfl

end Sda.Pattern
