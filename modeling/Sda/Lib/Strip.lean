/-
Sda/Lib/Strip.lean

Texts that `strip` and `lower` leave as they are.

`strip` leaves a text that begins and ends with no blank (`Trimmed`), and `lower` one without upper
case (`Lowered`).  Both hold of a stripped and lowered text, and of such texts put together with a
separator between them (`trimmed_intercalate`, `lowered_intercalate`).
-/
import Sda.Lib.Scan

namespace Sda

/-! ### Stripping -/

theorem stripText_eq_stripChars (s : String) :
    stripText s = String.ofList (stripChars s.toList) := rfl

/-- A text without white space at its ends is left. -/
theorem stripText_of_trimmed {s : String} (h : Trimmed s.toList) : stripText s = s := by
  rw [stripText_eq_stripChars, h.stripChars, String.ofList_toList]

theorem trimmed_stripText (s : String) : Trimmed (stripText s).toList := by
  rw [stripText_eq_stripChars, String.toList_ofList]
  obtain ⟨-, -, -, -, -, htrimmed⟩ := stripChars_split s.toList
  exact htrimmed

/-! ### Lower case -/

/-- No character is upper case. -/
def Lowered (x : List Char) : Prop :=
  ∀ c ∈ x, c.toLower = c

theorem toNat_toLower (c : Char) :
    c.toLower.toNat = if 65 ≤ c.toNat ∧ c.toNat ≤ 90 then c.toNat + 32 else c.toNat := by
  have hval : (c.val ≥ 'A'.val ∧ c.val ≤ 'Z'.val) ↔ 65 ≤ c.toNat ∧ c.toNat ≤ 90 := by
    rw [ge_iff_le, UInt32.le_iff_toNat_le, UInt32.le_iff_toNat_le]
    exact Iff.rfl
  unfold Char.toLower
  split
  · next h =>
    rw [if_pos (hval.mp h)]
    have hsmall := (hval.mp h).2
    show (c.val + 32).toNat = c.val.toNat + 32
    rw [UInt32.toNat_add]
    apply Nat.mod_eq_of_lt
    show c.toNat + 32 < 2 ^ 32
    omega
  · next h => rw [if_neg fun hrange => h (hval.mpr hrange)]

theorem toLower_toLower (c : Char) : c.toLower.toLower = c.toLower := by
  apply Char.ext
  apply UInt32.toNat_inj.mp
  show c.toLower.toLower.toNat = c.toLower.toNat
  rw [toNat_toLower c.toLower, toNat_toLower c]
  by_cases hupper : 65 ≤ c.toNat ∧ c.toNat ≤ 90
  · rw [if_pos hupper, if_neg (by omega)]
  · rw [if_neg hupper, if_neg hupper]

/-- Lower case is white space where upper case is, nowhere. -/
theorem isSpaceChar_toLower (c : Char) : isSpaceChar c.toLower = isSpaceChar c := by
  by_cases hupper : 65 ≤ c.toNat ∧ c.toNat ≤ 90
  · have hlower := toNat_toLower c
    rw [if_pos hupper] at hlower
    have hfar : ∀ d : Char, 65 ≤ d.toNat → d.toNat ≤ 122 → isSpaceChar d = false := by
      intro d hlow hhigh
      unfold isSpaceChar
      simp only [Bool.or_eq_false_iff, Bool.and_eq_false_iff, decide_eq_false_iff_not,
        beq_eq_false_iff_ne]
      omega
    rw [hfar c (by omega) (by omega), hfar c.toLower (by omega) (by omega)]
  · have hsame : c.toLower = c := by
      apply Char.ext
      apply UInt32.toNat_inj.mp
      show c.toLower.toNat = c.toNat
      rw [toNat_toLower, if_neg hupper]
    rw [hsame]

theorem lowered_map (x : List Char) : Lowered (x.map Char.toLower) := by
  intro c hc
  obtain ⟨d, -, rfl⟩ := List.mem_map.mp hc
  exact toLower_toLower d

theorem lowered_lowerText (s : String) : Lowered (lowerText s).toList := by
  unfold lowerText
  rw [String.toList_ofList]
  exact lowered_map _

/-- A text without upper case is left. -/
theorem lowerText_of_lowered {s : String} (h : Lowered s.toList) : lowerText s = s := by
  unfold lowerText
  rw [List.map_congr_left (g := id) h, List.map_id, String.ofList_toList]

/-- Lower case keeps the ends. -/
theorem Trimmed.lowerText {s : String} (h : Trimmed s.toList) : Trimmed (lowerText s).toList := by
  have hsame : (fun c : Char => isSpaceChar c.toLower) = isSpaceChar := funext isSpaceChar_toLower
  unfold Sda.lowerText
  rw [String.toList_ofList]
  constructor
  · rw [List.head?_map, Option.any_map, hsame]
    exact h.front
  · rw [List.getLast?_map, Option.any_map, hsame]
    exact h.back

/-! ### Joining -/

variable {ws : List (List Char)}

theorem intercalate_ne_nil {sep : List Char} (h : ∀ w ∈ ws, w ≠ []) (hne : ws ≠ []) :
    sep.intercalate ws ≠ [] := by
  rcases ws with - | ⟨w, - | ⟨v, ws⟩⟩
  · exact absurd rfl hne
  · rw [List.intercalate_singleton]
    exact h w (List.mem_cons_self ..)
  · have hw : w ≠ [] := h w (List.mem_cons_self ..)
    rw [List.intercalate_cons_cons]
    simp [hw]

/-- The ends of a joined text are ends of its parts. -/
theorem trimmed_intercalate {sep : List Char} (htrimmed : ∀ w ∈ ws, Trimmed w)
    (h : ∀ w ∈ ws, w ≠ []) : Trimmed (sep.intercalate ws) := by
  induction ws with
  | nil => exact ⟨rfl, rfl⟩
  | cons w ws ih =>
    rcases ws with - | ⟨v, ws⟩
    · rw [List.intercalate_singleton]
      exact htrimmed w (List.mem_cons_self ..)
    · have hrest : sep.intercalate (v :: ws) ≠ [] :=
        intercalate_ne_nil (fun u hu => h u (List.mem_cons_of_mem _ hu)) (List.cons_ne_nil _ _)
      have htail := ih (fun u hu => htrimmed u (List.mem_cons_of_mem _ hu))
        fun u hu => h u (List.mem_cons_of_mem _ hu)
      rw [List.intercalate_cons_cons, List.append_assoc]
      constructor
      · rw [List.head?_append_of_ne_nil _ (h w (List.mem_cons_self ..))]
        exact (htrimmed w (List.mem_cons_self ..)).front
      · rw [List.getLast?_append_of_ne_nil _ (List.append_ne_nil_of_right_ne_nil _ hrest),
          List.getLast?_append_of_ne_nil _ hrest]
        exact htail.back

theorem lowered_intercalate {sep : Char} (hsep : sep.toLower = sep) (h : ∀ w ∈ ws, Lowered w) :
    Lowered ([sep].intercalate ws) := by
  induction ws with
  | nil => exact fun c hc => absurd hc List.not_mem_nil
  | cons w ws ih =>
    rcases ws with - | ⟨v, ws⟩
    · rw [List.intercalate_singleton]
      exact h w (List.mem_cons_self ..)
    · rw [List.intercalate_cons_cons, List.append_assoc]
      intro c hc
      rcases List.mem_append.mp hc with hc | hc
      · exact h w (List.mem_cons_self ..) c hc
      rcases List.mem_append.mp hc with hc | hc
      · rw [List.mem_singleton.mp hc]
        exact hsep
      · exact ih (fun u hu => h u (List.mem_cons_of_mem _ hu)) c hc

end Sda
