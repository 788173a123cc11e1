/-
RealmAdmin.Proofs.Checks — rows of checks.

A row of checks fails with the first of them that fails. It succeeds if all of them do,
and then with a value of each, in order (`mapM_ok_iff`).
-/
import Mathlib.Data.List.Forall2
import RealmAdmin.Proofs.Work

namespace RealmAdmin

variable {α β ε : Type}

/-- Checks in turn succeed with a value of each. -/
theorem mapM_ok_iff {f : α → Except ε β} {as : List α} {bs : List β} :
    as.mapM f = .ok bs ↔ List.Forall₂ (fun a b => f a = .ok b) as bs := by
  induction as generalizing bs with
  | nil =>
    rw [List.mapM_nil, List.forall₂_nil_left_iff]
    exact ⟨fun h => (Except.ok.inj h).symm, fun h => h ▸ rfl⟩
  | cons a as ih =>
    cases hhead : f a with
    | error e => simp [List.mapM_cons, List.forall₂_cons_left_iff, hhead]
    | ok b =>
      cases htail : as.mapM f with
      | error e => simp [List.mapM_cons, List.forall₂_cons_left_iff, hhead, ← ih, htail]
      | ok bs' =>
        simp [List.mapM_cons, List.forall₂_cons_left_iff, hhead, ← ih, htail, eq_comm]

/-- Checks in turn succeed if each of them does. -/
theorem exists_mapM_ok_iff {f : α → Except ε β} {as : List α} :
    (∃ bs, as.mapM f = .ok bs) ↔ ∀ a ∈ as, ∃ b, f a = .ok b := by
  simp only [mapM_ok_iff]
  constructor
  · rintro ⟨bs, hbs⟩
    induction hbs with
    | nil => exact List.forall_mem_nil _
    | cons hb _ ih => exact List.forall_mem_cons.mpr ⟨⟨_, hb⟩, ih⟩
  · intro h
    induction as with
    | nil => exact ⟨[], .nil⟩
    | cons a as ih =>
      obtain ⟨⟨b, hb⟩, hrest⟩ := List.forall_mem_cons.mp h
      obtain ⟨bs, hbs⟩ := ih hrest
      exact ⟨b :: bs, .cons hb hbs⟩

theorem toOption_eq_some {x : Except ε α} {a : α} : x.toOption = some a ↔ x = .ok a := by
  cases x <;> simp [Except.toOption]

/-- Checks without a value succeed in turn if each of them does. -/
theorem forM_ok_iff {f : α → Except ε Unit} {as : List α} :
    as.forM f = .ok () ↔ ∀ a ∈ as, f a = .ok () := by
  induction as with
  | nil => exact iff_of_true rfl (List.forall_mem_nil _)
  | cons a as ih =>
    rw [List.forM_eq_forM] at ih ⊢
    rw [List.forM_cons, List.forall_mem_cons, ← ih]
    cases hhead : f a with
    | error e => simp
    | ok u => simp

end RealmAdmin
