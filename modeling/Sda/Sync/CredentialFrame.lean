/-
Sda/Sync/CredentialFrame.lean

What the labelled pass of the credential parser leaves alone.

A field that has a value keeps it: every assignment of the pass is made to an empty field.  So what
the first lines of a text give is not changed by the lines behind them, whatever these are; they can
only make the call fail.

Main results: `labeledStep_keeps` — one step; `labeledLoop_keeps` — the whole pass;
`postProcess_keeps` — the clean-up, of a login and a password that are no bogus values.
-/
import Sda.Sync.ParserTotality

namespace Sda.Sync.CredentialText

open ParsedCredentials (get_set)

variable {t : Tables}

/-! ### Fields that are kept -/

/-- Every field of the first that has a value has it in the second. -/
def Keeps (r r' : ParsedCredentials) : Prop := ∀ f, r.get f ≠ [] → r'.get f = r.get f

variable {r r' r'' : ParsedCredentials} {f : CredentialField} {label value : List Char}

theorem Keeps.refl (r : ParsedCredentials) : Keeps r r := fun _ _ => rfl

theorem Keeps.trans (h : Keeps r r') (h' : Keeps r' r'') : Keeps r r'' := by
  intro f hf
  have hkept : r'.get f = r.get f := h f hf
  rw [h' f (by rw [hkept]; exact hf), hkept]

/-- An empty field may be set. -/
theorem keeps_set (h : r.get f = []) : Keeps r (r.set f value) := by
  intro g hg
  rw [get_set, if_neg]
  rintro rfl
  exact hg h

theorem keeps_fillField : Keeps r (fillField r f value) := by
  unfold fillField
  split
  · next h => exact keeps_set h
  · exact Keeps.refl r

theorem assignLabeled_keeps (h : assignLabeled t label value r = some r') : Keeps r r' := by
  unfold assignLabeled at h
  dsimp only at h
  split at h
  · cases h
  · split at h
    · cases h
    · split at h
      · cases h
      · split at h
        · cases h
        · next f hfield =>
          split at h
          · split at h
            · cases h
              exact keeps_fillField.trans keeps_fillField
            · cases h
              exact keeps_fillField
          · cases h
            exact keeps_fillField

/-- Whether a value is assigned does not depend on the fields. -/
theorem assignLabeled_eq_none (h : assignLabeled t label value r = none) (r' : ParsedCredentials) :
    assignLabeled t label value r' = none := by
  unfold assignLabeled at h ⊢
  dsimp only at h ⊢
  by_cases hvalue : value = []
  · rw [if_pos hvalue]
  · rw [if_neg hvalue] at h ⊢
    by_cases hdash : withoutDash value = []
    · rw [if_pos hdash]
    · rw [if_neg hdash] at h ⊢
      by_cases hlabel : isLabelText t (withoutDash value) = true
      · rw [if_pos hlabel]
      · rw [if_neg hlabel] at h ⊢
        -- with a field for the label something is assigned
        cases hfield : fieldOf t label with
        | none => rfl
        | some f =>
          rw [hfield] at h
          dsimp only at h
          split at h
          · split at h <;> cases h
          · cases h

theorem keeps_getD_assignLabeled : Keeps r ((assignLabeled t label value r).getD r) := by
  cases h : assignLabeled t label value r with
  | none => exact Keeps.refl r
  | some r' => exact assignLabeled_keeps h

theorem parseSectionPair_keeps {header pairLine : List Char} :
    Keeps r (parseSectionPair t header pairLine r) := by
  unfold parseSectionPair
  dsimp only
  split
  · exact Keeps.refl r
  · split
    · next label value hcolon =>
      split
      · exact keeps_getD_assignLabeled
      · -- the login first, then the password
        have hlogin : ∀ f, Keeps r (if stripChars label = [] then r
            else fillField r f (stripChars label)) := by
          intro f
          split
          · exact Keeps.refl r
          · exact keeps_fillField
        split
        · exact hlogin _
        · exact (hlogin _).trans keeps_fillField
    · exact keeps_fillField

theorem loginFromPrefix_keeps {ws os : List (List Char)} {starts : List Nat} (h : r.login = []) :
    Keeps r (loginFromPrefix t ws os r starts) := by
  induction starts with
  | nil => exact Keeps.refl r
  | cons start starts ih =>
    unfold loginFromPrefix
    dsimp only
    split_ifs
    · exact Keeps.refl r
    · exact Keeps.refl r
    · exact keeps_set (f := .login) h
    · exact ih

theorem extractLoginFromPasswordLabel_keeps (h : r.login = []) :
    Keeps r (extractLoginFromPasswordLabel t label r) := by
  unfold extractLoginFromPasswordLabel
  dsimp only
  split
  · exact Keeps.refl r
  · exact loginFromPrefix_keeps h

/-! ### The labelled pass -/

/-- The second state keeps the fields of the first, and that one was found. -/
def Pass.KeptBy (p p' : Pass) : Prop :=
  Keeps p.result p'.result ∧ (p.foundAny = true → p'.foundAny = true)

variable {p p' p'' : Pass} {raw line : List Char} {rest rest' : List (List Char)}

theorem Pass.KeptBy.refl (p : Pass) : p.KeptBy p := ⟨Keeps.refl _, id⟩

theorem Pass.KeptBy.trans (h : p.KeptBy p') (h' : p'.KeptBy p'') : p.KeptBy p'' :=
  ⟨h.1.trans h'.1, h'.2 ∘ h.2⟩

/-- Setting the fields to ones that keep them. -/
theorem Pass.keptBy_found (h : Keeps p.result r) : p.KeptBy (p.found r) := ⟨h, fun _ => rfl⟩

theorem Pass.keptBy_first : p.KeptBy (p.first line) := ⟨Keeps.refl _, id⟩

theorem Pass.keptBy_assignAll {pairs : List (List Char × List Char)} :
    p.KeptBy (p.assignAll t pairs) := by
  induction pairs generalizing p with
  | nil => exact Pass.KeptBy.refl p
  | cons pair pairs ih =>
    obtain ⟨label, value⟩ := pair
    unfold Pass.assignAll
    split
    · next result hassign => exact (Pass.keptBy_found (assignLabeled_keeps hassign)).trans ih
    · exact ih

theorem securityStep_keeps {hit : Pattern.Hit} : p.KeptBy (securityStep line hit p) := by
  unfold securityStep
  dsimp only
  split
  · exact (Pass.keptBy_found keeps_fillField).trans Pass.keptBy_first
  · exact Pass.keptBy_found keeps_fillField

theorem headerStep_keeps {name : List Char} : p.KeptBy (headerStep t name rest p).1 := by
  unfold headerStep
  split
  · exact Pass.KeptBy.refl p
  · exact Pass.keptBy_found parseSectionPair_keeps

theorem arrowStep_keeps (h : arrowStep t line rest p = .ok (.done p' rest')) : p.KeptBy p' := by
  unfold arrowStep at h
  split at h
  · cases h
  · split at h
    · cases h
    · cases h
      exact Pass.keptBy_assignAll
    · dsimp only at h
      split at h
      · next result hassign =>
        cases h
        exact Pass.keptBy_found (assignLabeled_keeps hassign)
      · cases h

theorem emptyValueStep_keeps : p.KeptBy (emptyValueStep t line label value rest p).1 := by
  unfold emptyValueStep
  dsimp only
  split
  · split_ifs with hempty hcolon
    · exact Pass.keptBy_found (keeps_set hempty.2)
    · exact Pass.keptBy_found parseSectionPair_keeps
    · exact Pass.keptBy_first
  · split_ifs
    · exact Pass.keptBy_found parseSectionPair_keeps
    · exact Pass.keptBy_first

theorem labelStep_keeps : p.KeptBy (labelStep t line label value rest p).1 := by
  unfold labelStep
  split
  · exact Pass.keptBy_found parseSectionPair_keeps
  · split
    · next result hassign =>
      apply Pass.keptBy_found
      apply (assignLabeled_keeps hassign).trans
      split
      · next hlogin => exact extractLoginFromPasswordLabel_keeps hlogin
      · exact Keeps.refl result
    · exact emptyValueStep_keeps

theorem colonStep_keeps (h : colonStep t line label value rest p = .ok (p', rest')) :
    p.KeptBy p' := by
  have hlabel : ∀ c, labelStep t line label value rest p = c → p.KeptBy c.1 := by
    rintro c rfl
    exact labelStep_keeps
  unfold colonStep at h
  split at h
  · cases h
    exact Pass.keptBy_first
  · split at h
    · cases h
    · split at h
      · cases h
        exact Pass.keptBy_assignAll
      · exact hlabel _ (Except.ok.inj h)
    · exact hlabel _ (Except.ok.inj h)

theorem bareStep_keeps : p.KeptBy (bareStep t line rest p).1 := by
  unfold bareStep
  split
  · split
    · next result hassign => exact Pass.keptBy_found (assignLabeled_keeps hassign)
    · exact Pass.KeptBy.refl p
  · dsimp only
    split
    · next f hfield =>
      -- the bare label takes the next line only for an empty field
      obtain ⟨-, htest⟩ := Option.filter_eq_some_iff.mp hfield
      have hempty : p.result.get f = [] := by simp_all
      exact Pass.keptBy_found (keeps_set hempty)
    · split_ifs with hurl hdomain hfirst
      · exact Pass.keptBy_found (keeps_set hurl.2)
      · exact Pass.keptBy_found (keeps_set hdomain.2)
      · split
        · split
          · exact Pass.keptBy_first.trans (Pass.keptBy_found keeps_getD_assignLabeled)
          · exact Pass.keptBy_first
        · exact Pass.keptBy_first
      · split
        · split
          · exact Pass.keptBy_first.trans (Pass.keptBy_found keeps_getD_assignLabeled)
          · exact Pass.keptBy_first
        · exact ⟨Keeps.refl _, id⟩

/-- **One step** keeps the fields that have a value. -/
theorem labeledStep_keeps (h : labeledStep t raw rest p = .ok (p', rest')) : p.KeptBy p' := by
  unfold labeledStep at h
  dsimp only at h
  split at h
  · cases h
    exact Pass.KeptBy.refl p
  · cases h
    exact ⟨Keeps.refl _, id⟩
  · cases h
    exact ⟨Keeps.refl _, id⟩
  · cases h
    exact securityStep_keeps
  · next name hkind =>
    have hstep := congrArg Prod.fst (Except.ok.inj h)
    rw [← show _ = p' from hstep]
    exact headerStep_keeps
  · split at h
    · cases h
    · next harrow =>
      cases h
      exact arrowStep_keeps harrow
    · split at h
      · exact colonStep_keeps h
      · have hstep := congrArg Prod.fst (Except.ok.inj h)
        rw [← show _ = p' from hstep]
        exact bareStep_keeps

/-! ### What a step looks at -/

theorem arrowStep_goOn (h : arrowStep t line rest p = .ok (.goOn rest')) (p' : Pass) :
    arrowStep t line rest p' = .ok (.goOn rest') := by
  unfold arrowStep at h ⊢
  split at h
  · exact h
  · split at h
    · cases h
    · cases h
    · next hpairs =>
      dsimp only at h ⊢
      split at h
      · cases h
      · next hnone =>
        rw [assignLabeled_eq_none hnone p'.result]
        exact h

theorem lineKind_plain (h : lineKind t line p = .plain) : lineKind t line {} = .plain := by
  unfold lineKind at h ⊢
  by_cases hblank : line = []
  · rw [if_pos hblank] at h
    cases h
  · rw [if_neg hblank] at h ⊢
    by_cases hskip : p.skipNextLine = true
    · rw [if_pos hskip] at h
      cases h
    · rw [if_neg hskip] at h
      show (if false = true then LineKind.skipped else _) = LineKind.plain
      rw [if_neg Bool.false_ne_true]
      exact h

/-- Whether a line is handed to the colon split depends on the state only by the flag that skips a
line. -/
theorem splits_initial (h : Splits t raw rest p) : Splits t raw rest {} := by
  obtain ⟨hkind, ⟨rest', harrow⟩, hcolon⟩ := h
  exact ⟨lineKind_plain hkind, ⟨rest', arrowStep_goOn harrow {}⟩, hcolon⟩

/-! ### Runs of the pass -/

/-- **The whole pass** keeps them. -/
theorem labeledLoop_keeps {n : Nat} {lines : List (List Char)}
    (h : labeledLoop t n lines p = .ok p') : p.KeptBy p' := by
  induction n generalizing lines p with
  | zero =>
    cases lines <;> cases h <;> exact Pass.KeptBy.refl _
  | succ n ih =>
    cases lines with
    | nil =>
      cases h
      exact Pass.KeptBy.refl _
    | cons raw rest =>
      unfold labeledLoop at h
      split at h
      · cases h
      · next hstep => exact (labeledStep_keeps hstep).trans (ih h)

/-- The end of the pass has nothing to do if there is a login and a password. -/
theorem finishLabeled_eq (hlogin : p.result.login ≠ []) (hpassword : p.result.password ≠ []) :
    finishLabeled t p = p.result := by
  have huse : ¬(p.foundAny = true ∧ p.result.login = [] ∧ p.firstUnlabeled.getD [] ≠ []) :=
    fun h => hlogin h.2.1
  unfold finishLabeled
  dsimp only
  rw [if_neg huse, if_neg fun h => hpassword h.2]

/-! ### The clean-up -/

/-- A field after a pass over all the fields. -/
theorem get_foldl_set (g : CredentialField → List Char → List Char) {fs : List CredentialField}
    (hfs : fs.Nodup) (r : ParsedCredentials) (f : CredentialField) :
    (fs.foldl (fun r f => r.set f (g f (r.get f))) r).get f =
      if f ∈ fs then g f (r.get f) else r.get f := by
  induction fs generalizing r with
  | nil => rfl
  | cons k fs ih =>
    obtain ⟨hk, hfs⟩ := List.nodup_cons.mp hfs
    rw [List.foldl_cons, ih hfs, get_set]
    by_cases hf : f = k
    · subst hf
      simp [hk]
    · simp [hf]

theorem get_allFields (g : CredentialField → List Char → List Char) (r : ParsedCredentials)
    (f : CredentialField) :
    (allFields.foldl (fun r f => r.set f (g f (r.get f))) r).get f = g f (r.get f) := by
  rw [get_foldl_set g (by decide), if_pos (by cases f <;> decide)]

theorem get_stripFieldArtifacts : (stripFieldArtifacts r).get f = withoutArtifact (r.get f) :=
  get_allFields (fun _ => withoutArtifact) r f

theorem get_clearBogusValues :
    (clearBogusValues t r).get f = if isBogus t f (r.get f) = true then [] else r.get f := by
  have hset : (fun (r : ParsedCredentials) f =>
      if r.get f ≠ [] ∧ isBogus t f (r.get f) = true then r.set f [] else r) =
      fun r f => r.set f (if isBogus t f (r.get f) = true then [] else r.get f) := by
    funext r f
    have hself : r.set f (r.get f) = r := by cases f <;> rfl
    split_ifs with h h' h'
    · rfl
    · exact absurd h.2 h'
    · have hnil : r.get f = [] := by
        by_contra hne
        exact h ⟨hne, h'⟩
      rw [← hnil, hself]
    · exact hself.symm
  unfold clearBogusValues
  rw [hset]
  exact get_allFields (fun f v => if isBogus t f v = true then [] else v) r f

/-- **The clean-up** leaves a login and a password that are no bogus values. -/
theorem postProcess_keeps
    (h : ∀ f, f = .login ∨ f = .password → r.get f ≠ [] ∧ withoutArtifact (r.get f) = r.get f ∧
      isBogus t f (r.get f) = false) :
    (postProcess t r).login = r.login ∧ (postProcess t r).password = r.password := by
  have hclean : ∀ f, f = .login ∨ f = .password →
      (clearBogusValues t (stripFieldArtifacts r)).get f = r.get f := by
    intro f hf
    obtain ⟨-, hartifact, hbogus⟩ := h f hf
    rw [get_clearBogusValues, get_stripFieldArtifacts, hartifact, hbogus]
    rfl
  have hlogin := hclean .login (Or.inl rfl)
  have hpassword := hclean .password (Or.inr rfl)
  have hlogin_ne := (h .login (Or.inl rfl)).1
  have hpassword_ne := (h .password (Or.inr rfl)).1
  generalize hcleaned : clearBogusValues t (stripFieldArtifacts r) = cleaned at hlogin hpassword
  rw [← hlogin] at hlogin_ne
  rw [← hpassword] at hpassword_ne
  unfold postProcess
  rw [hcleaned]
  dsimp only
  rw [if_neg (show cleaned.login ≠ [] from hlogin_ne)]
  -- the address is set from the login, which changes neither of the two
  have hemail : ∀ c : ParsedCredentials, c = cleaned ∨ c = cleaned.set .email cleaned.login →
      c.login = r.login ∧ c.password = r.password := by
    rintro c (rfl | rfl)
    · exact ⟨hlogin, hpassword⟩
    · exact ⟨hlogin, hpassword⟩
  split_ifs with h₁ h₂ h₂
  · exact absurd h₂.1 hpassword_ne
  · exact hemail _ (Or.inr rfl)
  · exact absurd h₂.1 hpassword_ne
  · exact hemail _ (Or.inl rfl)

end Sda.Sync.CredentialText
