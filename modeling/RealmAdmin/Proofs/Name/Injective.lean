/-
RealmAdmin.Proofs.Name.Injective — names with the same text are the same name.

Reading a name's text back would show this, but a `/` in the realm is written
and not read. So the text is taken apart without reading it: an escaped
character can be told from what comes after it (`IsCode.append_inj`), a separator
begins none of them, and so the components and the realm are where they can be
seen to be (`writeComponents_inj`).
-/
import RealmAdmin.Proofs.Name.RoundTrip

namespace RealmAdmin.Name

/-! ## Escaped characters -/

/-- Whether a table of escapes shows each character as itself, or as a backslash
and a character that stands for it; the backslash is not shown as itself. -/
def IsCode (escape : Char → List Char) : Prop :=
  ∀ c, escape c = [c] ∧ c ≠ '\\' ∨ ∃ d, escape c = ['\\', d] ∧ unescape d = c

theorem isCode_escapeComponentChar : IsCode escapeComponentChar := fun c =>
  (escapeComponentChar_cases c).imp_left fun ⟨hshown, hescape, _⟩ => ⟨hshown, hescape⟩

theorem isCode_escapeRealmChar : IsCode escapeRealmChar := by
  intro c
  unfold escapeRealmChar
  split
  · next hslash => exact .inl ⟨by rw [hslash], by rw [hslash]; decide⟩
  · exact isCode_escapeComponentChar c

section

variable {escape : Char → List Char}

/-- The first of two escaped characters can be told from what comes after it. -/
theorem IsCode.append_inj (h : IsCode escape) {c d : Char} {x y : List Char}
    (heq : escape c ++ x = escape d ++ y) : c = d ∧ x = y := by
  rcases h c with ⟨hc, hplain⟩ | ⟨c', hc, rfl⟩ <;> rcases h d with ⟨hd, hplain'⟩ | ⟨d', hd, rfl⟩ <;>
    rw [hc, hd] at heq
  · simpa using heq
  · exact absurd (List.cons.inj heq).1 hplain
  · exact absurd (List.cons.inj heq).1.symm hplain'
  · obtain ⟨rfl, rfl⟩ : c' = d' ∧ x = y := by simpa using heq
    exact ⟨rfl, rfl⟩

/-- A run of escaped characters ends where no escaped character begins. -/
theorem IsCode.flatMap_inj (h : IsCode escape) {x y : List Char}
    (hx : ∀ c rest, x ≠ escape c ++ rest) (hy : ∀ c rest, y ≠ escape c ++ rest) :
    ∀ {as bs : List Char}, as.flatMap escape ++ x = bs.flatMap escape ++ y → as = bs ∧ x = y
  | [], [], heq => ⟨rfl, heq⟩
  | [], b :: bs, heq => absurd (by simpa using heq) (hx b (bs.flatMap escape ++ y))
  | a :: as, [], heq => absurd (by simpa using heq.symm) (hy a (as.flatMap escape ++ x))
  | a :: as, b :: bs, heq => by
    rw [List.flatMap_cons, List.flatMap_cons, List.append_assoc, List.append_assoc] at heq
    obtain ⟨rfl, hrest⟩ := h.append_inj heq
    obtain ⟨rfl, hend⟩ := h.flatMap_inj hx hy hrest
    exact ⟨rfl, hend⟩

theorem IsCode.length_le (h : IsCode escape) (cs : List Char) :
    cs.length ≤ (cs.flatMap escape).length := by
  induction cs with
  | nil => exact Nat.le_refl 0
  | cons c cs ih =>
    rw [List.flatMap_cons, List.length_append, List.length_cons]
    rcases h c with ⟨hc, -⟩ | ⟨d, hc, -⟩ <;> rw [hc] <;> simp only [List.length_cons] <;> omega

/-- Characters make up their own text only if each of them is shown as itself. -/
theorem IsCode.flatMap_eq_self_iff (h : IsCode escape) {cs : List Char} :
    cs.flatMap escape = cs ↔ ∀ c ∈ cs, escape c = [c] := by
  induction cs with
  | nil => exact iff_of_true rfl (List.forall_mem_nil _)
  | cons c cs ih =>
    rw [List.flatMap_cons, List.forall_mem_cons, ← ih]
    constructor
    · intro heq
      rcases h c with ⟨hc, -⟩ | ⟨d, hc, -⟩
      · rw [hc] at heq
        exact ⟨hc, (List.cons.inj heq).2⟩
      · have hlong := h.length_le cs
        have hlength := congrArg List.length heq
        rw [hc, List.length_append] at hlength
        simp only [List.length_cons, List.length_nil] at hlength
        omega
    · rintro ⟨hc, hcs⟩
      rw [hc, hcs, List.singleton_append]

end

/-! ## Whole names -/

/-- A separator begins no escaped character of a component. -/
theorem separator_ne_escape {s : Char} (hs : s = '/' ∨ s = '@') (x : List Char) (c : Char)
    (rest : List Char) : s :: x ≠ escapeComponentChar c ++ rest := by
  rcases escapeComponentChar_cases c with ⟨hshown, -, hslash, hat⟩ | ⟨d, hshown, -⟩ <;> rw [hshown]
  · rintro heq
    obtain rfl : s = c := (List.cons.inj heq).1
    exact hs.elim hslash hat
  · rintro heq
    obtain rfl : s = '\\' := (List.cons.inj heq).1
    exact absurd hs (by decide)

/-- The text of the first of several components ends before a separator. -/
theorem writeComponents_cons_append (first second : List Char) (others : List (List Char))
    (x : List Char) : writeComponents (first :: second :: others) ++ x =
      first.flatMap escapeComponentChar ++ '/' :: (writeComponents (second :: others) ++ x) := by
  rw [writeComponents, List.append_assoc, List.cons_append]
  simp

/-- A single component is not read as several. -/
theorem writeComponents_single_ne (first first' second' : List Char) (others' : List (List Char))
    (x y : List Char) : writeComponents [first] ++ '@' :: x ≠
      writeComponents (first' :: second' :: others') ++ '@' :: y := by
  intro heq
  rw [writeComponents_cons_append, writeComponents] at heq
  obtain ⟨-, hend⟩ := isCode_escapeComponentChar.flatMap_inj
    (separator_ne_escape (.inr rfl) x) (separator_ne_escape (.inl rfl) _) heq
  exact absurd (List.cons.inj hend).1 (by decide)

/-- The components end at the first `@` that stands for itself. -/
theorem writeComponents_inj {x y : List Char} :
    ∀ {first first' : List Char} {others others' : List (List Char)},
      writeComponents (first :: others) ++ '@' :: x =
        writeComponents (first' :: others') ++ '@' :: y →
      first :: others = first' :: others' ∧ x = y
  | first, first', [], [], heq => by
    obtain ⟨rfl, hend⟩ := isCode_escapeComponentChar.flatMap_inj
      (separator_ne_escape (.inr rfl) x) (separator_ne_escape (.inr rfl) y) heq
    exact ⟨rfl, (List.cons.inj hend).2⟩
  | first, first', [], second' :: others', heq =>
    absurd heq (writeComponents_single_ne first first' second' others' x y)
  | first, first', second :: others, [], heq =>
    absurd heq.symm (writeComponents_single_ne first' first second others y x)
  | first, first', second :: others, second' :: others', heq => by
    rw [writeComponents_cons_append, writeComponents_cons_append] at heq
    obtain ⟨rfl, hend⟩ := isCode_escapeComponentChar.flatMap_inj
      (separator_ne_escape (.inl rfl) _) (separator_ne_escape (.inl rfl) _) heq
    obtain ⟨hothers, hrealm⟩ := writeComponents_inj (List.cons.inj hend).2
    exact ⟨by rw [hothers], hrealm⟩

/-- Names with a component are the same if their texts are, whatever characters
they and their realms have. -/
theorem eq_of_text_eq {m n : Name} (hm : m.components ≠ []) (hn : n.components ≠ [])
    (h : m.text = n.text) : m = n := by
  obtain ⟨components, realm⟩ := m
  obtain ⟨components', realm'⟩ := n
  obtain ⟨first, others, rfl⟩ := List.exists_cons_of_ne_nil hm
  obtain ⟨first', others', rfl⟩ := List.exists_cons_of_ne_nil hn
  obtain ⟨hcomponents, hrealm⟩ := writeComponents_inj (String.ofList_inj.mp h)
  have hstop (c : Char) (rest : List Char) : [] ≠ escapeRealmChar c ++ rest := by
    rcases isCode_escapeRealmChar c with ⟨hshown, -⟩ | ⟨d, hshown, -⟩ <;> rw [hshown] <;> simp
  have hrealm : realm.toList = realm'.toList :=
    (isCode_escapeRealmChar.flatMap_inj (x := []) (y := []) hstop hstop (by simpa using hrealm)).1
  have hcomponents : first :: others = first' :: others' :=
    (List.map_inj_right fun _ _ => String.toList_inj.mp).mp hcomponents
  rw [hcomponents, String.toList_inj.mp hrealm]

end RealmAdmin.Name
