/-
RealmAdmin.Proofs.Text.Glob — which texts a pattern matches.

`Matches` says it part by part, without a row. A row holds what a pattern answers for
every end of a text; without its first answer it is the row of the text without its
first character (`globRow_cons`). So the first answers follow from one another as
`Matches` has it, and `globMatches_iff` says that they agree with it.

A pattern without wildcards matches itself alone. With wildcards it still matches
itself, unless there is a line feed in it.

That wildcards stand for no line feed shows in texts of several lines only. In a text
of one line they stand for anything (`globMatches_iff_fits`).
-/
import RealmAdmin.Text.Glob

namespace RealmAdmin.Text

/-! ## What a pattern means -/

/-- The texts that a pattern matches. -/
inductive Matches : List Char → List Char → Prop
  | done : Matches [] []
  | run {pattern rest : List Char} (skipped : List Char) (hskipped : '\n' ∉ skipped)
      (h : Matches pattern rest) : Matches ('*' :: pattern) (skipped ++ rest)
  | single {pattern rest : List Char} {c : Char} (hc : c ≠ '\n') (h : Matches pattern rest) :
      Matches ('?' :: pattern) (c :: rest)
  | plain {pattern rest : List Char} {c : Char} (hrun : c ≠ '*') (hsingle : c ≠ '?')
      (h : Matches pattern rest) : Matches (c :: pattern) (c :: rest)

variable {pattern text : List Char} {c d : Char}

theorem matches_nil : Matches [] text ↔ text = [] := by
  constructor
  · intro h
    cases h
    rfl
  · rintro rfl
    exact .done

theorem matches_run_nil : Matches ('*' :: pattern) [] ↔ Matches pattern [] := by
  constructor
  · intro h
    generalize htext : ([] : List Char) = text at h
    cases h with
    | run skipped hskipped h =>
      obtain ⟨rfl, rfl⟩ := List.append_eq_nil_iff.mp htext.symm
      exact h
    | plain hrun _ _ => exact absurd rfl hrun
  · exact .run [] List.not_mem_nil

/-- A run is over, or takes one more character. -/
theorem matches_run_cons : Matches ('*' :: pattern) (c :: text) ↔
    Matches pattern (c :: text) ∨ c ≠ '\n' ∧ Matches ('*' :: pattern) text := by
  constructor
  · intro h
    generalize htext : c :: text = whole at h
    cases h with
    | run skipped hskipped h =>
      cases skipped with
      | nil =>
        rw [List.nil_append] at htext
        exact .inl (htext ▸ h)
      | cons c' skipped =>
        obtain ⟨rfl, rfl⟩ := List.cons.inj htext
        obtain ⟨hc, hskipped⟩ := not_or.mp (mt List.mem_cons.mpr hskipped)
        exact .inr ⟨Ne.symm hc, .run skipped hskipped h⟩
    | plain hrun _ _ => exact absurd rfl hrun
  · rintro (h | ⟨hc, h⟩)
    · exact .run [] List.not_mem_nil h
    · cases h with
      | run skipped hskipped h =>
        exact .run (c :: skipped) (by simp [Ne.symm hc, hskipped]) h
      | plain hrun _ _ => exact absurd rfl hrun

theorem matches_single_cons :
    Matches ('?' :: pattern) (c :: text) ↔ c ≠ '\n' ∧ Matches pattern text := by
  constructor
  · intro h
    cases h with
    | single hc h => exact ⟨hc, h⟩
    | plain _ hsingle _ => exact absurd rfl hsingle
  · rintro ⟨hc, h⟩
    exact .single hc h

theorem matches_plain_cons (hrun : c ≠ '*') (hsingle : c ≠ '?') :
    Matches (c :: pattern) (d :: text) ↔ d = c ∧ Matches pattern text := by
  constructor
  · intro h
    generalize htext : d :: text = whole at h
    cases h with
    | run => exact absurd rfl hrun
    | single => exact absurd rfl hsingle
    | plain _ _ h =>
      obtain ⟨rfl, rfl⟩ := List.cons.inj htext
      exact ⟨rfl, h⟩
  · rintro ⟨rfl, h⟩
    exact .plain hrun hsingle h

/-- Only a run can stand for nothing. -/
theorem not_matches_cons_nil (hrun : c ≠ '*') : ¬ Matches (c :: pattern) [] := by
  intro h
  generalize htext : ([] : List Char) = text at h
  cases h with
  | run => exact absurd rfl hrun
  | single => cases htext
  | plain => cases htext

/-! ## Rows -/

theorem globRow_nil (pattern : List Char) : ∃ here, globRow [] pattern = [here] := by
  induction pattern with
  | nil => exact ⟨true, rfl⟩
  | cons c pattern ih =>
    obtain ⟨here, hrow⟩ := ih
    simp only [globRow, hrow]
    split
    · exact ⟨here, rfl⟩
    split
    · exact ⟨false, rfl⟩
    · exact ⟨false, rfl⟩

/-- Without its first answer, a row is the one of the text without its first character. -/
theorem globRow_cons (c : Char) (text pattern : List Char) :
    ∃ here, globRow (c :: text) pattern = here :: globRow text pattern := by
  induction pattern with
  | nil => exact ⟨false, rfl⟩
  | cons d pattern ih =>
    obtain ⟨here, hrow⟩ := ih
    simp only [globRow, hrow]
    split
    · exact ⟨_, rfl⟩
    split
    · exact ⟨_, rfl⟩
    · exact ⟨_, rfl⟩

/-- The first answer of a row is right. -/
theorem headD_globRow (pattern text : List Char) :
    (globRow text pattern).headD false = true ↔ Matches pattern text := by
  induction pattern generalizing text with
  | nil => cases text <;> simp [globRow, matches_nil]
  | cons c pattern ih =>
    by_cases hrun : c = '*'
    · subst hrun
      induction text with
      | nil =>
        obtain ⟨here, hrow⟩ := globRow_nil pattern
        have hsame : globRow [] ('*' :: pattern) = globRow [] pattern := by
          rw [globRow, hrow]
          rfl
        rw [hsame, ih, matches_run_nil]
      | cons d text ih' =>
        obtain ⟨here, hrow⟩ := globRow_cons d text pattern
        have hhead : (globRow (d :: text) ('*' :: pattern)).headD false =
            (here || isWild d && (globRow text ('*' :: pattern)).headD false) := by
          simp [globRow, hrow, runRow]
        have hhere := ih (d :: text)
        rw [hrow, List.headD_cons] at hhere
        rw [hhead, matches_run_cons, ← hhere, ← ih']
        simp [isWild]
    · cases text with
      | nil =>
        simp [globRow, hrun, singleRow, not_matches_cons_nil hrun]
      | cons d text =>
        obtain ⟨here, hrow⟩ := globRow_cons d text pattern
        by_cases hsingle : c = '?'
        · subst hsingle
          rw [matches_single_cons, ← ih]
          simp [globRow, hrow, singleRow, isWild]
        · rw [matches_plain_cons hrun hsingle, ← ih]
          simp [globRow, hrun, hsingle, hrow, singleRow]

/-- **What patterns match** is what they mean. -/
theorem globMatches_iff (pattern text : String) :
    globMatches pattern text = true ↔ Matches pattern.toList text.toList :=
  headD_globRow _ _

/-! ## Patterns as texts -/

/-- A pattern in which every character stands for itself. -/
def IsPlain (pattern : String) : Prop := '*' ∉ pattern.toList ∧ '?' ∉ pattern.toList

instance (pattern : String) : Decidable (IsPlain pattern) :=
  inferInstanceAs (Decidable (_ ∧ _))

theorem matches_of_plain (hrun : '*' ∉ pattern) (hsingle : '?' ∉ pattern) :
    Matches pattern text ↔ text = pattern := by
  induction pattern generalizing text with
  | nil => exact matches_nil
  | cons c pattern ih =>
    obtain ⟨hc, hrun⟩ := not_or.mp (mt List.mem_cons.mpr hrun)
    obtain ⟨hc', hsingle⟩ := not_or.mp (mt List.mem_cons.mpr hsingle)
    cases text with
    | nil => simp [not_matches_cons_nil (Ne.symm hc)]
    | cons d text =>
      rw [matches_plain_cons (Ne.symm hc) (Ne.symm hc'), ih hrun hsingle, List.cons_eq_cons]

/-- A pattern without wildcards matches itself alone. -/
theorem globMatches_of_isPlain {pattern text : String} (h : IsPlain pattern) :
    globMatches pattern text = true ↔ text = pattern := by
  rw [globMatches_iff, matches_of_plain h.1 h.2, String.toList_inj]

/-- A text of one line matches itself. -/
theorem matches_self (hlines : '\n' ∉ pattern) : Matches pattern pattern := by
  induction pattern with
  | nil => exact .done
  | cons c pattern ih =>
    obtain ⟨hc, hrest⟩ := not_or.mp (mt List.mem_cons.mpr hlines)
    by_cases hrun : c = '*'
    · subst hrun
      exact .run ['*'] (by decide) (ih hrest)
    by_cases hsingle : c = '?'
    · subst hsingle
      exact .single (Ne.symm hc) (ih hrest)
    · exact .plain hrun hsingle (ih hrest)

/-! ## Texts of one line -/

/-- The texts that a pattern fits: `*` stands for any run of characters, `?` for any
single character, and every other character for itself. -/
inductive Fits : List Char → List Char → Prop
  | done : Fits [] []
  | run {pattern rest : List Char} (skipped : List Char) (h : Fits pattern rest) :
      Fits ('*' :: pattern) (skipped ++ rest)
  | single {pattern rest : List Char} (c : Char) (h : Fits pattern rest) :
      Fits ('?' :: pattern) (c :: rest)
  | plain {pattern rest : List Char} {c : Char} (hrun : c ≠ '*') (hsingle : c ≠ '?')
      (h : Fits pattern rest) : Fits (c :: pattern) (c :: rest)

theorem Matches.fits (h : Matches pattern text) : Fits pattern text := by
  induction h with
  | done => exact .done
  | run skipped _ _ ih => exact .run skipped ih
  | single _ _ ih => exact .single _ ih
  | plain hrun hsingle _ ih => exact .plain hrun hsingle ih

theorem Fits.matches (h : Fits pattern text) (hline : '\n' ∉ text) : Matches pattern text := by
  induction h with
  | done => exact .done
  | run skipped _ ih =>
    obtain ⟨hskipped, hrest⟩ := not_or.mp (mt List.mem_append.mpr hline)
    exact .run skipped hskipped (ih hrest)
  | single c _ ih =>
    obtain ⟨hc, hrest⟩ := not_or.mp (mt List.mem_cons.mpr hline)
    exact .single (Ne.symm hc) (ih hrest)
  | plain hrun hsingle _ ih =>
    obtain ⟨-, hrest⟩ := not_or.mp (mt List.mem_cons.mpr hline)
    exact .plain hrun hsingle (ih hrest)

/-- **What patterns match in one line** is all that they fit. -/
theorem globMatches_iff_fits {pattern text : String} (hline : '\n' ∉ text.toList) :
    globMatches pattern text = true ↔ Fits pattern.toList text.toList :=
  (globMatches_iff pattern text).trans ⟨Matches.fits, fun h => h.matches hline⟩

end RealmAdmin.Text
