/-
RealmAdmin.Proofs.Name.RoundTrip — which names their text brings back.

Writing a character and reading a character are two tables of escapes. Inside
a component they are inverse (`escapeComponentChar_cases`), so the components
of a name come back whatever characters they have (`readPieces_components`).
In the realm they are not: a `/` is written as it is, and reading refuses it.

`parse_text` says what this makes of whole names: the text of a name that can
stand for a principal is read as that name if there is no `/` in its realm,
and is malformed if there is one.
-/
import RealmAdmin.Name.Syntax

namespace RealmAdmin.Name

/-! ## One character -/

/-- In a component a character is shown as itself, if it means nothing there,
or as a backslash and a character that stands for it. -/
theorem escapeComponentChar_cases (c : Char) :
    (escapeComponentChar c = [c] ∧ c ≠ '\\' ∧ c ≠ '/' ∧ c ≠ '@') ∨
      ∃ d, escapeComponentChar c = ['\\', d] ∧ unescape d = c := by
  unfold escapeComponentChar
  split
  · next h => exact .inr ⟨'/', rfl, h.symm⟩
  split
  · next h => exact .inr ⟨'@', rfl, h.symm⟩
  split
  · next h => exact .inr ⟨'\\', rfl, h.symm⟩
  split
  · next h => exact .inr ⟨'n', rfl, h.symm⟩
  split
  · next h => exact .inr ⟨'t', rfl, h.symm⟩
  split
  · next h => exact .inr ⟨'b', rfl, h.symm⟩
  split
  · next h => exact .inr ⟨'0', rfl, h.symm⟩
  · next hslash hat hescape _ _ _ _ => exact .inl ⟨rfl, hescape, hslash, hat⟩

/-- A backslash passes the meaning of the character after it to the component. -/
theorem readPieces_escape (d : Char) (rest : List Char) :
    readPieces ('\\' :: d :: rest) = (readPieces rest).map (.push (unescape d)) := by
  rw [readPieces]

/-- A character without a meaning of its own goes to the component as it is. -/
theorem readPieces_plain {c : Char} (rest : List Char) (hescape : c ≠ '\\') (hslash : c ≠ '/')
    (hat : c ≠ '@') : readPieces (c :: rest) = (readPieces rest).map (.push c) := by
  rw [readPieces.eq_3 _ _ fun _ _ h => absurd h hescape]
  simp [hescape, hslash, hat]

/-- A `/` ends a component. -/
theorem readPieces_slash (rest : List Char) :
    readPieces ('/' :: rest) = (readPieces rest).map .cut := by
  rw [readPieces.eq_3 _ _ (by simp)]
  simp

/-- An `@` ends the components, and the realm is what is read after it. -/
theorem readPieces_at (rest : List Char) :
    readPieces ('@' :: rest) = (readRealm rest).map fun realm => ⟨[], [], some realm⟩ := by
  rw [readPieces.eq_3 _ _ (by simp)]
  simp

/-- A backslash passes the meaning of the character after it to the realm. -/
theorem readRealm_escape (d : Char) (rest : List Char) :
    readRealm ('\\' :: d :: rest) = (readRealm rest).map (unescape d :: ·) := by
  rw [readRealm]

/-- The realm takes a character as it is, unless it is a separator. -/
theorem readRealm_plain {c : Char} (rest : List Char) (hescape : c ≠ '\\') :
    readRealm (c :: rest) =
      if c = '/' ∨ c = '@' then none else (readRealm rest).map (c :: ·) := by
  rw [readRealm.eq_3 _ _ fun _ _ h => absurd h hescape]
  simp [hescape]

/-- A character of a component is read back as itself. -/
theorem readPieces_escapeComponentChar (c : Char) (rest : List Char) :
    readPieces (escapeComponentChar c ++ rest) = (readPieces rest).map (.push c) := by
  rcases escapeComponentChar_cases c with ⟨hshown, hescape, hslash, hat⟩ | ⟨d, hshown, rfl⟩
  · rw [hshown]
    exact readPieces_plain rest hescape hslash hat
  · rw [hshown]
    exact readPieces_escape d rest

/-- A character of the realm is read back as itself, unless it is a `/`. -/
theorem readRealm_escapeRealmChar {c : Char} (hc : c ≠ '/') (rest : List Char) :
    readRealm (escapeRealmChar c ++ rest) = (readRealm rest).map (c :: ·) := by
  rw [escapeRealmChar, if_neg hc]
  rcases escapeComponentChar_cases c with ⟨hshown, hescape, -, hat⟩ | ⟨d, hshown, rfl⟩
  · rw [hshown, List.singleton_append, readRealm_plain rest hescape, if_neg (by simp [hc, hat])]
  · rw [hshown, List.cons_append, List.singleton_append, readRealm_escape]

/-- A `/` is written into the realm, and refused there. -/
theorem readRealm_slash (rest : List Char) : readRealm (escapeRealmChar '/' ++ rest) = none := by
  have hshown : escapeRealmChar '/' = ['/'] := rfl
  rw [hshown, List.singleton_append, readRealm_plain rest (by decide), if_pos (.inl rfl)]

/-! ## Components and realms -/

/-- A realm is read back unless it has a `/` in it. -/
theorem readRealm_flatMap (realm : List Char) :
    readRealm (realm.flatMap escapeRealmChar) = if '/' ∈ realm then none else some realm := by
  induction realm with
  | nil => rfl
  | cons c rest ih =>
    rw [List.flatMap_cons]
    by_cases hc : c = '/'
    · subst hc
      rw [readRealm_slash]
      simp
    · rw [readRealm_escapeRealmChar hc, ih]
      by_cases hrest : '/' ∈ rest <;> simp [hrest, Ne.symm hc]

/-- The text of a component goes before whatever is read after it. -/
theorem readPieces_flatMap (component rest : List Char) :
    readPieces (component.flatMap escapeComponentChar ++ rest) =
      (readPieces rest).map fun p => { p with first := component ++ p.first } := by
  induction component with
  | nil => simp
  | cons c component ih =>
    rw [List.flatMap_cons, List.append_assoc, readPieces_escapeComponentChar, ih, Option.map_map]
    rfl

/-- The components are read back, and the realm is what is read after them. -/
theorem readPieces_components (first : List Char) (others : List (List Char)) (rest : List Char) :
    readPieces (writeComponents (first :: others) ++ '@' :: rest) =
      (readRealm rest).map fun realm => ⟨first, others, some realm⟩ := by
  induction others generalizing first with
  | nil =>
    rw [writeComponents, readPieces_flatMap, readPieces_at]
    cases readRealm rest <;> simp
  | cons second others ih =>
    rw [writeComponents, List.append_assoc, List.cons_append, readPieces_flatMap,
      readPieces_slash, ih]
    · cases readRealm rest <;> simp [Pieces.cut]
    · simp

/-! ## Whole names -/

/-- The pieces that are read of a name's text: none, if there is a `/` in the
realm. -/
theorem readPieces_text (n : Name) :
    readPieces n.text.toList = if '/' ∈ n.realm.toList then none
      else some ⟨n.primary.toList, n.components.tail.map String.toList, some n.realm.toList⟩ := by
  have hwritten : n.componentText =
      writeComponents (n.primary.toList :: n.components.tail.map String.toList) := by
    unfold componentText primary
    cases n.components <;> rfl
  rw [text, String.toList_ofList, hwritten, readPieces_components, readRealm_flatMap]
  split <;> rfl

/-- The text of a name is read as the name that its parts make, unless there is a `/`
in the realm. -/
theorem parse_text_eq_make (n : Name) (defaultRealm : String) :
    parse n.text defaultRealm =
      if '/' ∈ n.realm.toList then .error .malformedName
      else make (n.primary :: n.components.tail) n.realm := by
  rw [parse, readPieces_text]
  by_cases hslash : '/' ∈ n.realm.toList
  · simp [hslash]
  · simp [hslash, ofPieces, Function.comp_def]

theorem make_eq_ok {components : List String} {realm : String} {n : Name} :
    make components realm = .ok n ↔ n = ⟨components, realm⟩ ∧ n.IsValid := by
  unfold make
  split
  · next hvalid =>
    constructor
    · intro h
      obtain rfl := Except.ok.inj h
      exact ⟨rfl, hvalid⟩
    · rintro ⟨rfl, -⟩
      rfl
  · next hvalid =>
    constructor
    · intro h
      cases h
    · rintro ⟨rfl, h⟩
      exact absurd h hvalid

/-- What is read can stand for a principal. -/
theorem isValid_of_parse {text defaultRealm : String} {n : Name}
    (h : parse text defaultRealm = .ok n) : n.IsValid := by
  unfold parse ofPieces at h
  split at h
  · exact (make_eq_ok.mp h).2
  · cases h

/-- The template of a realm has a name if the realm has one. -/
theorem template_eq (realm : String) :
    template realm = if realm = "" then .error .malformedName else .ok ⟨["default"], realm⟩ := by
  rw [template, make]
  by_cases h : realm = "" <;> simp [IsValid, h]

/-- What is read of the text of a name is that name. -/
theorem eq_of_parse_text {m n : Name} {defaultRealm : String}
    (h : parse m.text defaultRealm = .ok n) : n = m := by
  rw [parse_text_eq_make] at h
  split at h
  · cases h
  · obtain ⟨rfl, -, hfirst, -⟩ := make_eq_ok.mp h
    obtain ⟨components, realm⟩ := m
    cases components with
    | nil => exact absurd rfl hfirst
    | cons first others => rfl

/-- It is read as that name, or not at all. -/
theorem parse_text_cases (m : Name) (defaultRealm : String) :
    parse m.text defaultRealm = .ok m ∨ parse m.text defaultRealm = .error .malformedName := by
  cases h : parse m.text defaultRealm with
  | ok n => exact .inl (by rw [eq_of_parse_text h])
  | error failure =>
    right
    rw [parse_text_eq_make] at h
    split at h
    · exact h.symm
    · unfold make at h
      split at h
      · cases h
      · exact h.symm

/-- **What the text of a name is read as**, whatever the default realm is: the
name, if it can stand for a principal and has no `/` in its realm, and
otherwise nothing. -/
theorem parse_text (n : Name) (defaultRealm : String) :
    parse n.text defaultRealm =
      if n.IsValid ∧ '/' ∉ n.realm.toList then .ok n else .error .malformedName := by
  rw [parse_text_eq_make]
  by_cases hslash : '/' ∈ n.realm.toList
  · simp [hslash]
  · simp only [hslash, if_false, not_false_eq_true, and_true]
    obtain ⟨components, realm⟩ := n
    cases components with
    | nil => simp [make, IsValid, primary]
    | cons first others => rfl

/-- A name with a `/` in its realm can be made, and can be read where the `/`
is escaped, but its text is malformed. -/
theorem parse_text_slash_in_realm :
    make ["jdoe"] "A/B" = .ok ⟨["jdoe"], "A/B"⟩ ∧
      parse "jdoe@A\\/B" "R" = .ok ⟨["jdoe"], "A/B"⟩ ∧
      parse (text ⟨["jdoe"], "A/B"⟩) "R" = .error .malformedName :=
  ⟨rfl, rfl, rfl⟩

end RealmAdmin.Name
