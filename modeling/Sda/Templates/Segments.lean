/-
Sda/Templates/Segments.lean

Which segments of a rendered text survive a limit on its length.

The length of joined segments is counted segment by segment (`cost`): each one costs its length,
and a separator unless it is the first.  Filling from the left takes the longest beginning that fits
(`prefix_fitSegments`).  The pinned segments are reserved with a separator for each, one more than
they need when they stand alone; so where they fit with less than that, the fill from the left
takes over and drops them.

Main results: `fitSegments_cost` and `prefix_fitSegments` — the fill keeps within its budget and
stops no earlier than it must; `assembled_iff` — when the promise to the pinned segments is kept.
-/
import Mathlib.Tactic.Ring
import Sda.Templates.Renderer

namespace Sda.Templates

variable {separator : List Char}

/-! ### The cost of segments -/

/-- What a segment adds, behind others or as the first. -/
def addition (separator : List Char) (built : Bool) (segment : List Char) : Int :=
  segment.length + if built then separator.length else 0

/-- What segments add. -/
def cost (separator : List Char) : Bool → List (List Char) → Int
  | _, [] => 0
  | built, segment :: segments => addition separator built segment + cost separator true segments

theorem cost_nil (built : Bool) : cost separator built [] = 0 := rfl

theorem cost_cons (built : Bool) (segment : List Char) (segments : List (List Char)) :
    cost separator built (segment :: segments) =
      addition separator built segment + cost separator true segments := rfl

theorem addition_nonneg (separator : List Char) (built : Bool) (segment : List Char) :
    0 ≤ addition separator built segment := by
  unfold addition
  split <;> omega

@[simp] theorem addition_true (segment : List Char) :
    addition separator true segment = segment.length + separator.length := rfl

@[simp] theorem addition_false (segment : List Char) :
    addition separator false segment = segment.length := Int.add_zero _

theorem cost_nonneg (separator : List Char) (built : Bool) (segments : List (List Char)) :
    0 ≤ cost separator built segments := by
  induction segments generalizing built with
  | nil => exact le_refl 0
  | cons segment segments ih =>
    have := ih true
    have := addition_nonneg separator built segment
    rw [cost_cons]
    omega

theorem cost_true (separator : List Char) {segments : List (List Char)} (h : segments ≠ []) :
    cost separator true segments = cost separator false segments + separator.length := by
  cases segments with
  | nil => exact absurd rfl h
  | cons segment segments =>
    simp only [cost_cons, addition_true, addition_false]
    omega

theorem cost_append {built : Bool} {xs : List (List Char)} (ys : List (List Char)) (h : xs ≠ []) :
    cost separator built (xs ++ ys) = cost separator built xs + cost separator true ys := by
  induction xs generalizing built with
  | nil => exact absurd rfl h
  | cons x xs ih =>
    rw [List.cons_append, cost_cons, cost_cons]
    rcases eq_or_ne xs [] with rfl | hxs
    · simp [cost_nil]
    · rw [ih hxs]
      omega

/-- What is reserved for the pinned segments: a separator for each. -/
theorem cost_true_eq (segments : List (List Char)) : cost separator true segments =
    (segments.map List.length).sum + separator.length * segments.length := by
  induction segments with
  | nil => simp [cost_nil]
  | cons segment segments ih =>
    rw [cost_cons, ih]
    simp only [addition_true, List.map_cons, List.sum_cons, List.length_cons]
    push_cast
    ring

theorem length_joinChars (segments : List (List Char)) :
    ((joinChars separator segments).length : Int) = cost separator false segments := by
  induction segments with
  | nil => rfl
  | cons segment segments ih =>
    rcases eq_or_ne segments [] with rfl | hne
    · simp [joinChars, cost_nil, cost_cons]
    · have hjoin : joinChars separator (segment :: segments) =
          segment ++ separator ++ joinChars separator segments := List.intercalate_cons_of_ne_nil hne
      rw [hjoin, cost_cons, cost_true separator hne, ← ih]
      simp only [List.length_append, addition_false]
      push_cast
      ring

/-! ### Filling from the left -/

theorem fitSegments_cons (budget current : Int) (built : Bool) (segment : List Char)
    (segments : List (List Char)) :
    fitSegments separator budget current built (segment :: segments) =
      if current + addition separator built segment > budget then []
      else segment ::
        fitSegments separator budget (current + addition separator built segment) true segments := rfl

theorem fitSegments_isPrefix (budget current : Int) (built : Bool) (segments : List (List Char)) :
    fitSegments separator budget current built segments <+: segments := by
  induction segments generalizing current built with
  | nil => exact List.prefix_refl []
  | cons segment segments ih =>
    rw [fitSegments_cons]
    split
    · exact List.nil_prefix
    · exact (List.prefix_cons_inj segment).mpr (ih _ true)

/-- **The fill keeps within its budget.** -/
theorem fitSegments_cost (separator : List Char) {budget current : Int} (h : current ≤ budget) (built : Bool)
    (segments : List (List Char)) :
    current + cost separator built (fitSegments separator budget current built segments) ≤ budget := by
  induction segments generalizing current built with
  | nil => simpa [fitSegments, cost_nil] using h
  | cons segment segments ih =>
    rw [fitSegments_cons]
    split
    · simpa [cost_nil] using h
    · next hfits =>
      rw [cost_cons]
      have := ih (Int.not_lt.mp hfits) true
      omega

/-- **The fill stops no earlier than it must**: it takes every beginning that fits. -/
theorem prefix_fitSegments {budget current : Int} {built : Bool} {p segments : List (List Char)}
    (hp : p <+: segments) (hfits : current + cost separator built p ≤ budget) :
    p <+: fitSegments separator budget current built segments := by
  induction segments generalizing current built p with
  | nil =>
    rw [List.prefix_nil.mp hp]
    exact List.nil_prefix
  | cons segment segments ih =>
    rcases List.prefix_cons_iff.mp hp with rfl | ⟨q, rfl, hq⟩
    · exact List.nil_prefix
    · rw [cost_cons] at hfits
      have hrest := cost_nonneg separator true q
      rw [fitSegments_cons, if_neg (by omega), List.prefix_cons_inj]
      exact ih hq (by omega)

/-! ### The promise -/

/-- The segments of a text that are not empty. -/
def segmentsOf (separator rendered : List Char) : List (List Char) :=
  ((splitChars separator rendered).map stripChars).filter (· ≠ [])

/-- The last segments, and those in front of them. -/
def pinned (segments : List (List Char)) (pinLast : Int) : List (List Char) :=
  segments.drop (segments.length - pinLast.toNat)

def bodyOf (segments : List (List Char)) (pinLast : Int) : List (List Char) :=
  segments.take (segments.length - pinLast.toNat)

/-- **What `_assemble_segments` promises**: whole segments in their order, within the limit, and the
pinned ones behind a beginning of the others whenever they fit. -/
def Assembled (segments : List (List Char)) (maxLength : Int) (separator : List Char)
    (pinLast : Int) (text : List Char) : Prop :=
  (text.length : Int) ≤ maxLength ∧
    ∃ kept, text = joinChars separator kept ∧
      (kept <+: segments ∨ ∃ p, p <+: bodyOf segments pinLast ∧ kept = p ++ pinned segments pinLast) ∧
      (((joinChars separator (pinned segments pinLast)).length : Int) ≤ maxLength →
        ∃ p, p <+: bodyOf segments pinLast ∧ kept = p ++ pinned segments pinLast)

/-- When it keeps the promise: the pinned segments are none or all, or they do not fit, or they fit
with a separator in front and one character more, or the first segments read the same. -/
def PinRespected (segments : List (List Char)) (maxLength : Int) (separator : List Char)
    (pinLast : Int) : Prop :=
  pinLast ≤ 0 ∨ segments.length ≤ pinLast ∨
    maxLength < (joinChars separator (pinned segments pinLast)).length ∨
    ((joinChars separator (pinned segments pinLast)).length : Int) + separator.length < maxLength ∨
    ∃ p, p <+: segments ∧ joinChars separator p = joinChars separator (pinned segments pinLast)

theorem segment_ne_nil {rendered segment : List Char} (h : segment ∈ segmentsOf separator rendered) :
    segment ≠ [] := by
  simpa using (List.mem_filter.mp h).2

/-- Segments that are not empty have a cost. -/
theorem cost_pos (separator : List Char) {segments : List (List Char)} (hne : segments ≠ [])
    (h : ∀ segment ∈ segments, segment ≠ []) : 0 < cost separator false segments := by
  cases segments with
  | nil => exact absurd rfl hne
  | cons segment segments =>
    have hsegment := List.length_pos_of_ne_nil (h segment List.mem_cons_self)
    have := cost_nonneg separator true segments
    rw [cost_cons, addition_false]
    omega

/-- Filling from the left keeps the promise to all segments, and to none. -/
theorem fillLeftToRight_assembled {segments : List (List Char)} {maxLength pinLast : Int}
    (hmax : 0 ≤ maxLength) (hpin : pinLast ≤ 0 ∨ segments.length ≤ pinLast) :
    Assembled segments maxLength separator pinLast
      (fillLeftToRight segments maxLength separator) := by
  have hfront : fitSegments separator maxLength 0 false segments <+: segments :=
    fitSegments_isPrefix maxLength 0 false segments
  refine ⟨?_, _, rfl, Or.inl hfront, ?_⟩
  · have hcost := fitSegments_cost separator hmax false segments
    unfold fillLeftToRight
    rw [length_joinChars]
    omega
  · intro hfits
    rcases hpin with hpin | hpin
    · have hzero : pinLast.toNat = 0 := by omega
      have hnone : pinned segments pinLast = [] := by
        unfold pinned
        rw [hzero, Nat.sub_zero, List.drop_length]
      refine ⟨fitSegments separator maxLength 0 false segments, ?_, ?_⟩
      · unfold bodyOf
        rw [hzero, Nat.sub_zero, List.take_length]
        exact hfront
      · rw [hnone, List.append_nil]
    · have hall : segments.length - pinLast.toNat = 0 := by omega
      have hpinned : pinned segments pinLast = segments := by
        unfold pinned
        rw [hall, List.drop_zero]
      rw [hpinned, length_joinChars] at hfits
      have hwhole : segments <+: fitSegments separator maxLength 0 false segments :=
        prefix_fitSegments (List.prefix_refl segments) (by omega)
      refine ⟨[], List.nil_prefix, ?_⟩
      rw [hpinned, List.nil_append]
      exact hfront.eq_of_length (le_antisymm hfront.length_le hwhole.length_le)

/-- With a separator to spare, the pinned segments stand behind a beginning of the others. -/
theorem fitSegments_pinned_assembled {segments : List (List Char)} {maxLength pinLast : Int}
    (hpinned : pinned segments pinLast ≠ [])
    (hroom : cost separator true (pinned segments pinLast) ≤ maxLength) :
    Assembled segments maxLength separator pinLast (joinChars separator
      (fitSegments separator (maxLength - cost separator true (pinned segments pinLast)) 0 false
        (bodyOf segments pinLast) ++ pinned segments pinLast)) := by
  have hspare : 0 ≤ maxLength - cost separator true (pinned segments pinLast) := by omega
  have hfront : fitSegments separator (maxLength - cost separator true (pinned segments pinLast)) 0
      false (bodyOf segments pinLast) <+: bodyOf segments pinLast :=
    fitSegments_isPrefix _ 0 false _
  have hcost := fitSegments_cost separator hspare false (bodyOf segments pinLast)
  generalize fitSegments separator _ 0 false (bodyOf segments pinLast) = built at hfront hcost ⊢
  refine ⟨?_, _, rfl, Or.inr ⟨built, hfront, rfl⟩, fun _ => ⟨built, hfront, rfl⟩⟩
  rw [length_joinChars]
  rcases eq_or_ne built [] with rfl | hbuilt
  · have hless := cost_true separator hpinned
    rw [List.nil_append]
    omega
  · rw [cost_append _ hbuilt]
    omega

/-- **Where the pinned segments fit with no separator to spare**, the fill from the left keeps them
only if the first segments read the same. -/
theorem fillLeftToRight_assembled_iff {rendered : List Char} {maxLength pinLast : Int}
    (hmax : 0 ≤ maxLength)
    (hfits : ((joinChars separator (pinned (segmentsOf separator rendered) pinLast)).length : Int) ≤
      maxLength)
    (hpinned : pinned (segmentsOf separator rendered) pinLast ≠ [])
    (hroom : maxLength ≤ cost separator true (pinned (segmentsOf separator rendered) pinLast)) :
    Assembled (segmentsOf separator rendered) maxLength separator pinLast
        (fillLeftToRight (segmentsOf separator rendered) maxLength separator) ↔
      ∃ p, p <+: segmentsOf separator rendered ∧
        joinChars separator p = joinChars separator (pinned (segmentsOf separator rendered) pinLast) := by
  have hne : ∀ segment ∈ segmentsOf separator rendered, segment ≠ [] := fun _ => segment_ne_nil
  generalize segmentsOf separator rendered = segments at *
  have hfront : fitSegments separator maxLength 0 false segments <+: segments :=
    fitSegments_isPrefix maxLength 0 false segments
  have hcost := fitSegments_cost separator hmax false segments
  have hless := cost_true separator hpinned
  rw [length_joinChars] at hfits
  -- a segment in front of the pinned ones would not fit
  have halone : ∀ p, p <+: bodyOf segments pinLast →
      cost separator false (p ++ pinned segments pinLast) ≤ maxLength → p = [] := by
    intro p hp hle
    by_contra hpne
    have hpos := cost_pos separator hpne fun segment hsegment =>
      hne segment (List.mem_of_mem_take (hp.subset hsegment))
    rw [cost_append _ hpne] at hle
    omega
  unfold fillLeftToRight
  constructor
  · rintro ⟨hlength, kept, hkept, -, htail⟩
    rw [length_joinChars] at htail
    obtain ⟨p, hp, rfl⟩ := htail hfits
    rw [hkept, length_joinChars] at hlength
    obtain rfl := halone p hp hlength
    exact ⟨_, hfront, hkept⟩
  · rintro ⟨p, hp, hsame⟩
    have hpcost : cost separator false p = cost separator false (pinned segments pinLast) := by
      rw [← length_joinChars, ← length_joinChars, hsame]
    have hpne : p ≠ [] := by
      rintro rfl
      have hpos := cost_pos separator hpinned fun segment hsegment =>
        hne segment (List.mem_of_mem_drop hsegment)
      rw [← hpcost] at hpos
      exact lt_irrefl _ hpos
    -- the fill takes these segments, and there is no room for one more
    have hfill : fitSegments separator maxLength 0 false segments = p := by
      have hbegins : p <+: fitSegments separator maxLength 0 false segments :=
        prefix_fitSegments hp (by omega)
      obtain ⟨rest, hrest⟩ := hbegins
      rcases eq_or_ne rest [] with rfl | hrestNe
      · rw [← hrest, List.append_nil]
      · have hmem : ∀ segment ∈ rest, segment ≠ [] := fun segment hsegment =>
          hne segment (hfront.subset (hrest ▸ List.mem_append_right p hsegment))
        have hpos := cost_pos separator hrestNe hmem
        have hmore := cost_true separator hrestNe
        rw [← hrest, cost_append _ hpne] at hcost
        omega
    rw [hfill]
    refine ⟨?_, pinned segments pinLast, hsame, Or.inr ⟨[], List.nil_prefix, rfl⟩,
      fun _ => ⟨[], List.nil_prefix, rfl⟩⟩
    rw [length_joinChars]
    omega

/-- The text that is assembled, with the costs in the place of the sums. -/
theorem assembleSegments_eq (rendered : List Char) (maxLength pinLast : Int)
    (hseparator : separator ≠ []) :
    assembleSegments rendered maxLength separator pinLast = .ok (
      if pinLast ≤ 0 ∨ ((segmentsOf separator rendered).length : Int) ≤ pinLast ∨
          maxLength ≤ cost separator true (pinned (segmentsOf separator rendered) pinLast) then
        fillLeftToRight (segmentsOf separator rendered) maxLength separator
      else joinChars separator
        (fitSegments separator
            (maxLength - cost separator true (pinned (segmentsOf separator rendered) pinLast)) 0 false
            (bodyOf (segmentsOf separator rendered) pinLast) ++
          pinned (segmentsOf separator rendered) pinLast)) := by
  unfold assembleSegments
  rw [if_neg hseparator]
  refine congrArg Except.ok ?_
  have htailCost : cost separator true (pinned (segmentsOf separator rendered) pinLast) = _ :=
    cost_true_eq (pinned (segmentsOf separator rendered) pinLast)
  show (if segmentsOf separator rendered = [] then []
    else if pinLast ≤ 0 ∨ pinLast ≥ (segmentsOf separator rendered).length then
      fillLeftToRight (segmentsOf separator rendered) maxLength separator
    else if maxLength - (((pinned (segmentsOf separator rendered) pinLast).map List.length).sum +
        separator.length * (pinned (segmentsOf separator rendered) pinLast).length) ≤ 0 then
      fillLeftToRight (segmentsOf separator rendered) maxLength separator
    else joinChars separator (fitSegments separator (maxLength -
        (((pinned (segmentsOf separator rendered) pinLast).map List.length).sum +
          separator.length * (pinned (segmentsOf separator rendered) pinLast).length)) 0 false
        (bodyOf (segmentsOf separator rendered) pinLast) ++
      pinned (segmentsOf separator rendered) pinLast)) = _
  rw [← htailCost]
  generalize segmentsOf separator rendered = segments
  by_cases hsegments : segments = []
  · have hpin : pinLast ≤ 0 ∨ (segments.length : Int) ≤ pinLast ∨
        maxLength ≤ cost separator true (pinned segments pinLast) := by
      rw [hsegments, List.length_nil]
      omega
    rw [if_pos hsegments, if_pos hpin, hsegments]
    rfl
  rw [if_neg hsegments]
  by_cases hpin : pinLast ≤ 0 ∨ (segments.length : Int) ≤ pinLast
  · rw [if_pos hpin, if_pos (or_assoc.mp (Or.inl hpin))]
  rw [if_neg hpin]
  by_cases hroom : maxLength ≤ cost separator true (pinned segments pinLast)
  · rw [if_pos (by omega), if_pos (Or.inr (Or.inr hroom))]
  · rw [if_neg (by omega), if_neg (by omega)]

/-- **Segment assembly keeps its promise exactly if** there is a separator to split by, the limit is
not negative and the pinned segments are respected. -/
theorem assembled_iff (rendered : List Char) (maxLength : Int) (separator : List Char)
    (pinLast : Int) :
    (∃ text, assembleSegments rendered maxLength separator pinLast = .ok text ∧
      Assembled (segmentsOf separator rendered) maxLength separator pinLast text) ↔
      separator ≠ [] ∧ 0 ≤ maxLength ∧
        PinRespected (segmentsOf separator rendered) maxLength separator pinLast := by
  by_cases hseparator : separator = []
  · have herror : assembleSegments rendered maxLength separator pinLast = .error .emptySeparator :=
      if_pos hseparator
    rw [herror]
    exact iff_of_false (fun h => nomatch h.choose_spec.1) fun h => h.1 hseparator
  rw [assembleSegments_eq _ _ _ hseparator]
  simp only [Except.ok.injEq, exists_eq_left', ne_eq, hseparator, not_false_eq_true, true_and]
  by_cases hmax : 0 ≤ maxLength
  swap
  · exact iff_of_false (fun h => hmax (le_trans (Int.natCast_nonneg _) h.1)) fun h => hmax h.1
  rw [and_iff_right hmax]
  unfold PinRespected
  by_cases hpin : pinLast ≤ 0 ∨ ((segmentsOf separator rendered).length : Int) ≤ pinLast
  · rw [if_pos (or_assoc.mp (Or.inl hpin))]
    exact iff_of_true (fillLeftToRight_assembled hmax hpin) (or_assoc.mp (Or.inl hpin))
  have hpinned : pinned (segmentsOf separator rendered) pinLast ≠ [] := by
    unfold pinned
    rw [Ne, List.drop_eq_nil_iff]
    omega
  have hless := cost_true separator hpinned
  simp only [← or_assoc, hpin, false_or]
  by_cases hroom : maxLength ≤ cost separator true (pinned (segmentsOf separator rendered) pinLast)
  · rw [if_pos hroom]
    by_cases hfits : ((joinChars separator
        (pinned (segmentsOf separator rendered) pinLast)).length : Int) ≤ maxLength
    · rw [fillLeftToRight_assembled_iff hmax hfits hpinned hroom]
      rw [length_joinChars] at hfits ⊢
      constructor
      · exact Or.inr
      · rintro ((hover | hspare) | hsame)
        · omega
        · omega
        · exact hsame
    · refine iff_of_true ?_ (Or.inl (Or.inl (by omega)))
      have hcost := fitSegments_cost separator hmax false
        (segmentsOf separator rendered)
      refine ⟨?_, _, rfl, Or.inl (fitSegments_isPrefix _ _ _ _), fun h => absurd h hfits⟩
      unfold fillLeftToRight
      rw [length_joinChars]
      omega
  · rw [if_neg hroom]
    refine iff_of_true (fitSegments_pinned_assembled hpinned (by omega)) (Or.inl (Or.inr ?_))
    rw [length_joinChars]
    omega

/-- With room for the pinned segment, and for a separator, but no more: it is dropped. -/
theorem pinned_dropped : ∃ text,
    assembleSegments "PC | 2500 V".toList 9 " | ".toList 1 = .ok text ∧
      ((joinChars " | ".toList (pinned (segmentsOf " | ".toList "PC | 2500 V".toList) 1)).length : Int)
        ≤ 9 ∧
      ¬Assembled (segmentsOf " | ".toList "PC | 2500 V".toList) 9 " | ".toList 1 text := by
  have hsegments : segmentsOf " | ".toList "PC | 2500 V".toList = ["PC".toList, "2500 V".toList] := by
    decide +kernel
  have hpinned : pinned ["PC".toList, "2500 V".toList] 1 = ["2500 V".toList] := by decide +kernel
  have hbody : bodyOf ["PC".toList, "2500 V".toList] 1 = ["PC".toList] := by decide +kernel
  refine ⟨"PC".toList, by decide +kernel, by decide +kernel, ?_⟩
  rw [hsegments]
  unfold Assembled
  rw [hpinned, hbody]
  rintro ⟨-, kept, hkept, -, htail⟩
  obtain ⟨p, hp, rfl⟩ := htail (by decide +kernel)
  rcases List.prefix_cons_iff.mp hp with rfl | ⟨q, rfl, hq⟩
  · revert hkept
    decide +kernel
  · rw [List.prefix_nil.mp hq] at hkept
    revert hkept
    decide +kernel

end Sda.Templates
