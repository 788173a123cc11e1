/-
RealmAdmin.Proofs.Password.Classes — what classes ask of a password.

A byte of a password does not tell which class it was drawn from, and charsets may share
bytes. What can be counted is how many bytes of a password are in the charset of a class:
`Honours` says how many there have to be. An outcome of some classes is a draw from any
of them and an outcome of the others (`Outcome.of_class`), so it honours them all.
-/
import Mathlib.Algebra.GroupWithZero.Nat
import RealmAdmin.Proofs.Password.Outcome

namespace RealmAdmin

/-- Whether a password is as its classes ask. -/
structure Honours (settings : List ClassSettings) (bytes : List UInt8) : Prop where
  /-- It has the bytes of all classes together. -/
  length : bytes.length = (settings.map (·.frequency.toNat)).sum
  /-- Each byte is in the charset of a class that contributes. -/
  source : ∀ b ∈ bytes, ∃ s ∈ settings, 0 < s.frequency ∧ b ∈ s.bytes
  /-- In the charset of a class are at least the bytes that it contributes. -/
  least : ∀ s ∈ settings, s.frequency.toNat ≤ bytes.countP (· ∈ s.bytes)
  /-- There are no more, if it shares no byte with the others that contribute. -/
  apart : ∀ s others, settings.Perm (s :: others) →
    (∀ other ∈ others, 0 < other.frequency → s.bytes.Disjoint other.bytes) →
    bytes.countP (· ∈ s.bytes) = s.frequency.toNat

namespace Outcome

variable {s : ClassSettings} {settings settings' others : List ClassSettings}
  {bytes drawn : List UInt8}

theorem nil (h : Outcome [] bytes) : bytes = [] := by
  obtain ⟨draws, hdraws, hperm⟩ := h
  cases hdraws
  exact hperm.eq_nil

theorem cons (h : Outcome (s :: others) bytes) :
    ∃ drawn rest, s.Draws drawn ∧ Outcome others rest ∧ bytes.Perm (drawn ++ rest) := by
  obtain ⟨draws, hdraws, hperm⟩ := h
  cases hdraws with
  | @cons _ drawn _ draws hdrawn hdraws =>
    exact ⟨drawn, draws.flatten, hdrawn, ⟨draws, hdraws, .refl _⟩, hperm⟩

/-- The order of the classes makes no difference. -/
theorem perm (h : Outcome settings bytes) (horder : settings'.Perm settings) :
    Outcome settings' bytes := by
  obtain ⟨draws, hdraws, hperm⟩ := h
  obtain ⟨draws', hdraws', horder'⟩ := List.perm_comp_forall₂ horder hdraws
  exact ⟨draws', hdraws', hperm.trans horder'.symm.flatten⟩

/-- An outcome is a draw from any of its classes, and an outcome of the others. -/
theorem of_class (h : Outcome settings bytes) (hs : settings.Perm (s :: others)) :
    ∃ drawn rest, s.Draws drawn ∧ Outcome others rest ∧ bytes.Perm (drawn ++ rest) :=
  (h.perm hs.symm).cons

theorem length_eq (h : Outcome settings bytes) :
    bytes.length = (settings.map (·.frequency.toNat)).sum := by
  induction settings generalizing bytes with
  | nil =>
    obtain rfl := h.nil
    rfl
  | cons s settings ih =>
    obtain ⟨drawn, rest, hdrawn, hrest, hperm⟩ := h.cons
    rw [hperm.length_eq, List.length_append, hdrawn.length, ih hrest, List.map_cons, List.sum_cons]

theorem exists_source (h : Outcome settings bytes) {b : UInt8} (hb : b ∈ bytes) :
    ∃ s ∈ settings, 0 < s.frequency ∧ b ∈ s.bytes := by
  induction settings generalizing bytes with
  | nil =>
    obtain rfl := h.nil
    cases hb
  | cons s settings ih =>
    obtain ⟨drawn, rest, hdrawn, hrest, hperm⟩ := h.cons
    rcases List.mem_append.mp (hperm.mem_iff.mp hb) with hb | hb
    · have hpos : 0 < s.frequency.toNat := hdrawn.length ▸ List.length_pos_of_mem hb
      exact ⟨s, List.mem_cons_self, hpos, hdrawn.mem b hb⟩
    · obtain ⟨s', hs', hsource⟩ := ih hrest hb
      exact ⟨s', List.mem_cons_of_mem s hs', hsource⟩

/-- In the charset of a class are the bytes that it contributes, and those of the bytes
of the others that are in it too. -/
theorem exists_countP_eq (h : Outcome settings bytes) (hs : settings.Perm (s :: others)) :
    ∃ rest, Outcome others rest ∧
      bytes.countP (· ∈ s.bytes) = s.frequency.toNat + rest.countP (· ∈ s.bytes) := by
  obtain ⟨drawn, rest, hdrawn, hrest, hperm⟩ := h.of_class hs
  have hall : drawn.countP (· ∈ s.bytes) = drawn.length :=
    List.countP_eq_length.mpr fun b hb => decide_eq_true (hdrawn.mem b hb)
  exact ⟨rest, hrest, by rw [hperm.countP_eq, List.countP_append, hall, hdrawn.length]⟩

theorem honours (h : Outcome settings bytes) : Honours settings bytes where
  length := h.length_eq
  source _ := h.exists_source
  least s hs := by
    obtain ⟨rest, -, hcount⟩ := h.exists_countP_eq (List.perm_cons_erase hs)
    omega
  apart s others hs hdisjoint := by
    obtain ⟨rest, hrest, hcount⟩ := h.exists_countP_eq hs
    have hnone : rest.countP (· ∈ s.bytes) = 0 := by
      refine List.countP_eq_zero.mpr fun b hb hmem => ?_
      obtain ⟨other, hother, hpos, hb⟩ := hrest.exists_source hb
      exact hdisjoint other hother hpos (of_decide_eq_true hmem) hb
    rw [hcount, hnone, Nat.add_zero]

end Outcome

namespace PasswordGenerator

/-- **Passwords honour their classes.** A generator of classes that were made one by one
is the generator of their settings. Its passwords are the outcomes of the classes, each
of which comes of some randomness. Whatever the randomness is, nothing is drawn from an
empty charset, and the password is as long as the generator says and as its classes ask. -/
theorem classes_honoured (settings : List ClassSettings) (g : PasswordGenerator) :
    (ofSettings settings = .ok g ↔ ∃ classes, ClassesOf settings classes ∧ make classes = .ok g) ∧
    (ofSettings settings = .ok g →
      (∀ bytes, (∃ e, (g.generate e).bytes = bytes) ↔ Outcome settings bytes) ∧
      ∀ e, generate? settings e = some (g.generate e) ∧
        (g.generate e).bytes.length = g.length ∧ Honours settings (g.generate e).bytes) := by
  refine ⟨ofSettings_eq_ok, fun h => ?_⟩
  obtain ⟨classes, hclasses, hg⟩ := ofSettings_eq_ok.mp h
  obtain ⟨-, rfl⟩ := make_eq_ok.mp hg
  refine ⟨fun _ => exists_generate_iff hclasses, fun e => ?_⟩
  exact ⟨generate?_eq hclasses e, length_generate _ e, (outcome_generate hclasses e).honours⟩

/-- Two charsets that share a letter, one that nothing is drawn from, and one that has
nothing in common with the others. -/
theorem classes_honoured_of_overlap :
    let settings : List ClassSettings := [⟨"9", 1⟩, ⟨"ab", 2⟩, ⟨"", 0⟩, ⟨"bc", 1⟩]
    ∃ g, ofSettings settings = .ok g ∧ ∀ e,
      (g.generate e).bytes.length = 4 ∧
      2 ≤ (g.generate e).bytes.countP (· ∈ [97, 98]) ∧
      (g.generate e).bytes.countP (· ∈ [57]) = 1 := by
  intro settings
  obtain ⟨g, hg⟩ : ∃ g, ofSettings settings = .ok g := ⟨_, rfl⟩
  obtain ⟨-, hhonours⟩ := (classes_honoured settings g).2 hg
  refine ⟨g, hg, fun e => ?_⟩
  obtain ⟨-, -, h⟩ := hhonours e
  have hdisjoint : ∀ other ∈ settings.tail, 0 < other.frequency →
      (ClassSettings.bytes ⟨"9", 1⟩).Disjoint other.bytes := by
    intro other hother _
    have hnone : ∀ other ∈ settings.tail, 57 ∉ other.bytes := by decide
    exact List.singleton_disjoint.mpr (hnone other hother)
  exact ⟨h.length, h.least ⟨"ab", 2⟩ (by decide), h.apart ⟨"9", 1⟩ _ (.refl _) hdisjoint⟩

end PasswordGenerator

end RealmAdmin
