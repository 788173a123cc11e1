/-
RealmAdmin.Proofs.Name.Grammar — which texts are names, and whose.

A text is read as a row of glyphs: characters that stand for themselves, and
characters behind a backslash. Only a backslash with nothing behind it keeps a
text from being such a row (`spelling_cases`). `IsNameRow` says which rows are
names, in terms of where their separators are, and `nameOf` which name a row is:
the pieces that its separators leave, unescaped. The reader works through a text
once and keeps its pieces as it goes; `readPieces_spelling` says that it ends with
the pieces of the row, or with nothing if a separator follows the `@`.

`parse_grammar` puts the two together: what is read is the name of a row, and
every other text is malformed.
-/
import RealmAdmin.Proofs.Name.RoundTrip

namespace RealmAdmin.Name

/-! ## Glyphs -/

/-- What a text is made of: characters that stand for themselves, and characters
behind a backslash. -/
inductive Glyph where
  | plain (c : Char) (h : c ≠ '\\')
  | escaped (c : Char)
  deriving DecidableEq

namespace Glyph

/-- The separator of components. -/
def slash : Glyph := .plain '/' (by decide)

/-- The separator that starts the realm. -/
def atSign : Glyph := .plain '@' (by decide)

/-- The glyph as it is written. -/
def written : Glyph → List Char
  | .plain c _ => [c]
  | .escaped c => ['\\', c]

/-- The character that the glyph stands for, unless it separates. -/
def meaning : Glyph → Char
  | .plain c _ => c
  | .escaped c => unescape c

/-- Different glyphs that stand for themselves are different characters. -/
theorem ne_of_plain {c d : Char} {hc : c ≠ '\\'} {hd : d ≠ '\\'}
    (h : plain c hc ≠ plain d hd) : c ≠ d := by
  rintro rfl
  exact h rfl

end Glyph

/-- A row of glyphs as it is written. -/
def spelling (row : List Glyph) : List Char := row.flatMap Glyph.written

/-- Every text is a row of glyphs, unless it ends in a backslash that is left over. -/
theorem spelling_cases : ∀ text : List Char,
    ∃ row, text = spelling row ∨ text = spelling row ++ ['\\']
  | [] => ⟨[], .inl rfl⟩
  | [c] => by
    by_cases hescape : c = '\\'
    · exact ⟨[], .inr (by rw [hescape]; rfl)⟩
    · exact ⟨[.plain c hescape], .inl rfl⟩
  | c :: d :: rest => by
    by_cases hescape : c = '\\'
    · obtain ⟨row, h⟩ := spelling_cases rest
      subst hescape
      exact ⟨.escaped d :: row, h.imp (congrArg ('\\' :: d :: ·)) (congrArg ('\\' :: d :: ·))⟩
    · obtain ⟨row, h⟩ := spelling_cases (d :: rest)
      exact ⟨.plain c hescape :: row, h.imp (congrArg (c :: ·)) (congrArg (c :: ·))⟩

/-! ## Rows that are names -/

/-- The text that glyphs stand for which separate nothing. -/
def meanings (piece : List Glyph) : List Char := piece.map Glyph.meaning

/-- The glyphs after the first `@`. -/
def realmGlyphs (row : List Glyph) : List Glyph := (row.dropWhile (· ≠ .atSign)).tail

/-- The text after the first `@`, if there is one. -/
def realmPiece? (row : List Glyph) : Option (List Char) :=
  if .atSign ∈ row then some (meanings (realmGlyphs row)) else none

/-- The texts between the separators before the first `@`. -/
def componentPieces (row : List Glyph) : List (List Char) :=
  ((row.takeWhile (· ≠ .atSign)).splitOn .slash).map meanings

/-- The name that a row makes; without an `@` it is in the default realm. -/
def nameOf (row : List Glyph) (defaultRealm : String) : Name :=
  ⟨(componentPieces row).map String.ofList,
    ((realmPiece? row).map String.ofList).getD defaultRealm⟩

/-- Whether a row is a name: at most one `@`, no `/` after it, and a first component
and a realm that are not empty. -/
structure IsNameRow (row : List Glyph) (defaultRealm : String) : Prop where
  one_realm : row.count .atSign ≤ 1
  no_slash : .slash ∉ realmGlyphs row
  first : (nameOf row defaultRealm).components.head? ≠ some ""
  realm : (nameOf row defaultRealm).realm ≠ ""

variable {row : List Glyph} {g : Glyph}

/-- A second `@` comes after the first. -/
theorem count_atSign_le_one : row.count .atSign ≤ 1 ↔ .atSign ∉ realmGlyphs row := by
  induction row with
  | nil => simp [realmGlyphs]
  | cons g row ih =>
    by_cases hat : g = .atSign
    · subst hat
      simp [realmGlyphs, List.count_eq_zero]
    · simpa [realmGlyphs, hat] using ih

/-! ### One more glyph in front -/

theorem realmGlyphs_cons (hat : g ≠ .atSign) : realmGlyphs (g :: row) = realmGlyphs row := by
  simp [realmGlyphs, hat]

theorem realmGlyphs_at (row : List Glyph) : realmGlyphs (.atSign :: row) = row := by
  simp [realmGlyphs]

theorem realmPiece?_cons (hat : g ≠ .atSign) : realmPiece? (g :: row) = realmPiece? row := by
  simp [realmPiece?, realmGlyphs_cons hat, Ne.symm hat]

theorem componentPieces_cons (hslash : g ≠ .slash) (hat : g ≠ .atSign) :
    componentPieces (g :: row) = (componentPieces row).modifyHead (g.meaning :: ·) := by
  have hsplit : ((g :: row).takeWhile (· ≠ .atSign)).splitOn .slash =
      ((row.takeWhile (· ≠ .atSign)).splitOn .slash).modifyHead (g :: ·) := by
    simp [hat, hslash, List.splitOn, List.splitOnP_cons_eq_if_modifyHead]
  rw [componentPieces, componentPieces, hsplit]
  cases (row.takeWhile (· ≠ .atSign)).splitOn .slash <;> rfl

theorem componentPieces_slash (row : List Glyph) :
    componentPieces (.slash :: row) = [] :: componentPieces row := by
  have hat : Glyph.slash ≠ .atSign := by decide
  simp [componentPieces, hat, List.splitOn, List.splitOnP_cons_eq_if_modifyHead, meanings]

theorem componentPieces_at (row : List Glyph) : componentPieces (.atSign :: row) = [[]] := by
  simp [componentPieces, meanings]

/-! ## Reading rows -/

/-- What was read: the components, and the realm if there is one. -/
def Pieces.parts (p : Pieces) : List (List Char) × Option (List Char) :=
  (p.first :: p.others, p.realm)

theorem Pieces.map_parts_push (c : Char) (read : Option Pieces) :
    (read.map (.push c)).map Pieces.parts =
      (read.map Pieces.parts).map fun parts => (parts.1.modifyHead (c :: ·), parts.2) := by
  cases read <;> rfl

theorem Pieces.map_parts_cut (read : Option Pieces) :
    (read.map .cut).map Pieces.parts =
      (read.map Pieces.parts).map fun parts => ([] :: parts.1, parts.2) := by
  cases read <;> rfl

theorem spelling_cons (g : Glyph) (row : List Glyph) :
    spelling (g :: row) = g.written ++ spelling row := rfl

/-- What a glyph means goes to the component, unless the glyph separates. -/
theorem readPieces_written (hslash : g ≠ .slash) (hat : g ≠ .atSign) (rest : List Char) :
    readPieces (g.written ++ rest) = (readPieces rest).map (.push g.meaning) := by
  cases g with
  | escaped c => exact readPieces_escape c rest
  | plain c hescape =>
    exact readPieces_plain rest hescape (Glyph.ne_of_plain hslash) (Glyph.ne_of_plain hat)

theorem readPieces_written_slash (rest : List Char) :
    readPieces (Glyph.slash.written ++ rest) = (readPieces rest).map .cut :=
  readPieces_slash rest

theorem readPieces_written_at (rest : List Char) :
    readPieces (Glyph.atSign.written ++ rest) =
      (readRealm rest).map fun realm => ⟨[], [], some realm⟩ :=
  readPieces_at rest

/-- What a glyph means goes to the realm, unless the glyph separates. -/
theorem readRealm_written (hslash : g ≠ .slash) (hat : g ≠ .atSign) (rest : List Char) :
    readRealm (g.written ++ rest) = (readRealm rest).map (g.meaning :: ·) := by
  cases g with
  | escaped c => exact readRealm_escape c rest
  | plain c hescape =>
    have hsep : ¬ (c = '/' ∨ c = '@') :=
      not_or.2 ⟨Glyph.ne_of_plain hslash, Glyph.ne_of_plain hat⟩
    exact (readRealm_plain rest hescape).trans (if_neg hsep)

/-- A separator is refused in the realm. -/
theorem readRealm_separator (hsep : g = .slash ∨ g = .atSign) (rest : List Char) :
    readRealm (g.written ++ rest) = none := by
  rcases hsep with rfl | rfl
  · exact (readRealm_plain rest (by decide)).trans (if_pos (.inl rfl))
  · exact (readRealm_plain rest (by decide)).trans (if_pos (.inr rfl))

/-- The realm is read unless there is a separator in it. -/
theorem readRealm_spelling (row : List Glyph) : readRealm (spelling row) =
    if .atSign ∈ row ∨ .slash ∈ row then none else some (meanings row) := by
  induction row with
  | nil => rfl
  | cons g row ih =>
    rw [spelling_cons]
    by_cases hsep : g = .slash ∨ g = .atSign
    · rw [readRealm_separator hsep]
      rcases hsep with rfl | rfl <;> simp
    · obtain ⟨hslash, hat⟩ := not_or.1 hsep
      rw [readRealm_written hslash hat, ih]
      by_cases hrest : .atSign ∈ row ∨ .slash ∈ row <;>
        simp [hrest, Ne.symm hslash, Ne.symm hat, meanings]

/-- The reader ends with the pieces of the row, unless a separator follows the `@`. -/
theorem readPieces_spelling (row : List Glyph) : (readPieces (spelling row)).map Pieces.parts =
    if .atSign ∈ realmGlyphs row ∨ .slash ∈ realmGlyphs row then none
    else some (componentPieces row, realmPiece? row) := by
  induction row with
  | nil => rfl
  | cons g row ih =>
    rw [spelling_cons]
    by_cases hat : g = .atSign
    · subst hat
      rw [readPieces_written_at, readRealm_spelling, realmGlyphs_at, componentPieces_at]
      by_cases hsep : .atSign ∈ row ∨ .slash ∈ row <;>
        simp [hsep, Pieces.parts, realmPiece?, realmGlyphs_at]
    · rw [realmGlyphs_cons hat, realmPiece?_cons hat]
      by_cases hslash : g = .slash
      · subst hslash
        rw [readPieces_written_slash, componentPieces_slash, Pieces.map_parts_cut, ih,
          apply_ite (Option.map _)]
        rfl
      · rw [readPieces_written hslash hat, componentPieces_cons hslash hat,
          Pieces.map_parts_push, ih, apply_ite (Option.map _)]
        rfl

/-- A backslash that is left over spoils the realm. -/
theorem readRealm_dangling (row : List Glyph) : readRealm (spelling row ++ ['\\']) = none := by
  induction row with
  | nil => rfl
  | cons g row ih =>
    rw [spelling_cons, List.append_assoc]
    by_cases hsep : g = .slash ∨ g = .atSign
    · exact readRealm_separator hsep _
    · obtain ⟨hslash, hat⟩ := not_or.1 hsep
      rw [readRealm_written hslash hat, ih, Option.map_none]

/-- A backslash that is left over spoils the text. -/
theorem readPieces_dangling (row : List Glyph) : readPieces (spelling row ++ ['\\']) = none := by
  induction row with
  | nil => rfl
  | cons g row ih =>
    rw [spelling_cons, List.append_assoc]
    by_cases hat : g = .atSign
    · subst hat
      rw [readPieces_written_at, readRealm_dangling, Option.map_none]
    by_cases hslash : g = .slash
    · subst hslash
      rw [readPieces_written_slash, ih, Option.map_none]
    · rw [readPieces_written hslash hat, ih, Option.map_none]

/-! ## The grammar -/

theorem componentPieces_ne_nil (row : List Glyph) : componentPieces row ≠ [] := by
  simp [componentPieces, List.splitOn, List.splitOnP_ne_nil]

/-- A row is a name where its separators are in their places and the name that it
makes can stand for a principal. -/
theorem isNameRow_iff {defaultRealm : String} : IsNameRow row defaultRealm ↔
    ¬(.atSign ∈ realmGlyphs row ∨ .slash ∈ realmGlyphs row) ∧
      (nameOf row defaultRealm).IsValid := by
  have hsome : (nameOf row defaultRealm).components ≠ [] := by
    simp [nameOf, componentPieces_ne_nil]
  rw [not_or, ← count_atSign_le_one]
  constructor
  · intro h
    exact ⟨⟨h.one_realm, h.no_slash⟩, hsome, h.first, h.realm⟩
  · rintro ⟨⟨hone, hslash⟩, -, hfirst, hrealm⟩
    exact ⟨hone, hslash, hfirst, hrealm⟩

/-- A text that spells a row is read as the name of the row, if the row is a name. -/
theorem parse_spelling {text : String} (hspelled : spelling row = text.toList)
    (defaultRealm : String) :
    (IsNameRow row defaultRealm ∧ parse text defaultRealm = .ok (nameOf row defaultRealm)) ∨
    (¬ IsNameRow row defaultRealm ∧ parse text defaultRealm = .error .malformedName) := by
  have hread := readPieces_spelling row
  rw [hspelled] at hread
  rw [isNameRow_iff, parse]
  by_cases hsep : .atSign ∈ realmGlyphs row ∨ .slash ∈ realmGlyphs row
  · rw [if_pos hsep, Option.map_eq_none_iff] at hread
    simp [hsep, hread]
  · rw [if_neg hsep, Option.map_eq_some_iff] at hread
    obtain ⟨pieces, hpieces, hparts⟩ := hread
    have hmake : ofPieces pieces defaultRealm =
        make (nameOf row defaultRealm).components (nameOf row defaultRealm).realm := by
      obtain ⟨hcomponents, hrealm⟩ := Prod.mk.inj hparts
      rw [nameOf, ← hcomponents, ← hrealm, ofPieces]
    rw [hpieces]
    simp only [hmake, make, hsep, not_false_eq_true, true_and]
    by_cases hvalid : (nameOf row defaultRealm).IsValid <;> simp [hvalid]

/-- **Which texts are names, and whose.** A text is read as the name of a row of
glyphs that it spells, where the row is a name; every other text is malformed. -/
theorem parse_grammar (text defaultRealm : String) :
    (∀ n, parse text defaultRealm = .ok n ↔
      ∃ row, spelling row = text.toList ∧ IsNameRow row defaultRealm ∧
        n = nameOf row defaultRealm) ∧
    (parse text defaultRealm = .error .malformedName ↔
      ∀ row, spelling row = text.toList → ¬ IsNameRow row defaultRealm) := by
  -- What every row that is spelled says of the text, and what there is where none is.
  have hrows : ∀ row, spelling row = text.toList → _ :=
    fun _ hrow => parse_spelling hrow defaultRealm
  have hspelled : (∃ row, spelling row = text.toList) ∨
      parse text defaultRealm = .error .malformedName := by
    obtain ⟨row, hrow | hrow⟩ := spelling_cases text.toList
    · exact .inl ⟨row, hrow.symm⟩
    · exact .inr (by rw [parse, hrow, readPieces_dangling])
  constructor
  · intro n
    constructor
    · intro hparse
      obtain ⟨row, hrow⟩ := hspelled.resolve_right (by simp [hparse])
      rcases hrows row hrow with ⟨hname, hread⟩ | ⟨-, hread⟩
      · exact ⟨row, hrow, hname, by simpa [hparse] using hread⟩
      · simp [hparse] at hread
    · rintro ⟨row, hrow, hname, rfl⟩
      exact ((hrows row hrow).resolve_right fun h => h.1 hname).2
  · constructor
    · intro hparse row hrow
      exact ((hrows row hrow).resolve_left (by simp [hparse])).1
    · intro hnone
      rcases hspelled with ⟨row, hrow⟩ | hparse
      · exact ((hrows row hrow).resolve_left fun h => hnone row hrow h.1).2
      · exact hparse

/-- Escapes, and pieces that are empty. -/
example : parse "a\\/b//\\n@\\R" "D" = .ok ⟨["a/b", "", "\n"], "R"⟩ := rfl

end RealmAdmin.Name
