/-
RealmAdmin.Proofs.Record — a masked copy, attribute by attribute.

Two records agree at a field when they have the same attribute there; the
fields that stand for no attribute agree always. Agreement is the view that
`Record.merge` is described by: the result agrees with the other record at
the fields of the mask (`agreeAt_merge_of_mem`), with the old one everywhere
else (`agreeAt_merge_of_not_mem`), and agreement at every field is equality
(`ext_agreeAt`).
-/
import RealmAdmin.Record

namespace RealmAdmin.Record

/-- Whether two records have the same attribute at a field. -/
def AgreeAt (a b : Record) : Field → Prop
  | .principal => a.principal = b.principal
  | .expireTime => a.expireTime = b.expireTime
  | .passwordExpiration => a.passwordExpiration = b.passwordExpiration
  | .lastPasswordChange => a.lastPasswordChange = b.lastPasswordChange
  | .attributes => a.attributes = b.attributes
  | .maxLife => a.maxLife = b.maxLife
  | .modifyTime => a.modifyTime = b.modifyTime
  | .modifier => a.modifier = b.modifier
  | .keyVersion => a.keyVersion = b.keyVersion
  | .masterKeyVersion => a.masterKeyVersion = b.masterKeyVersion
  | .auxAttributes => a.auxAttributes = b.auxAttributes
  | .policy => a.policy = b.policy
  | .policyClear => True
  | .maxRenewableLife => a.maxRenewableLife = b.maxRenewableLife
  | .lastSuccess => a.lastSuccess = b.lastSuccess
  | .lastFailure => a.lastFailure = b.lastFailure
  | .failedAttempts => a.failedAttempts = b.failedAttempts
  | .keyData => True

variable {a b c : Record} {f g : Field}

@[simp] theorem AgreeAt.refl (a : Record) (f : Field) : a.AgreeAt a f := by cases f <;> simp [AgreeAt]

theorem AgreeAt.symm (h : a.AgreeAt b f) : b.AgreeAt a f := by
  cases f <;> first | exact Eq.symm h | trivial

theorem AgreeAt.trans (h : a.AgreeAt b f) (h' : b.AgreeAt c f) : a.AgreeAt c f := by
  cases f <;> first | exact Eq.trans h h' | trivial

/-- Records that agree at every field are the same record. -/
theorem ext_agreeAt (h : ∀ f, a.AgreeAt b f) : a = b := by
  cases a
  cases b
  rw [mk.injEq]
  exact ⟨h .principal, h .expireTime, h .lastPasswordChange, h .passwordExpiration, h .maxLife,
    h .modifier, h .modifyTime, h .attributes, h .keyVersion, h .masterKeyVersion, h .policy,
    h .auxAttributes, h .maxRenewableLife, h .lastSuccess, h .lastFailure, h .failedAttempts⟩

/-! ## One field -/

theorem agreeAt_copy (other r : Record) (f : Field) : (copy other r f).AgreeAt other f := by
  cases f <;> simp [copy, AgreeAt]

theorem agreeAt_copy_of_ne (other r : Record) (h : f ≠ g) : (copy other r g).AgreeAt r f := by
  cases g <;> first | exact .refl r f | (cases f <;> first | rfl | trivial)

/-! ## Many fields -/

theorem agreeAt_foldl_copy (other : Record) (f : Field) (fields : List Field) (r : Record) :
    (f ∈ fields → (fields.foldl (copy other) r).AgreeAt other f) ∧
      (f ∉ fields → (fields.foldl (copy other) r).AgreeAt r f) := by
  induction fields generalizing r with
  | nil => simp
  | cons g rest ih =>
    obtain ⟨hmem, hnot⟩ := ih (copy other r g)
    rw [List.foldl_cons]
    constructor
    · intro h
      by_cases hf : f ∈ rest
      · exact hmem hf
      · have hfg : f = g := by simpa [hf] using h
        exact (hnot hf).trans (hfg ▸ agreeAt_copy other r f)
    · intro h
      have hfg : f ≠ g := fun he => h (he ▸ List.mem_cons_self)
      exact (hnot fun hf => h (List.mem_cons_of_mem _ hf)).trans (agreeAt_copy_of_ne other r hfg)

variable {r other : Record} {fields : FieldSet}

theorem agreeAt_merge_of_mem (h : f ∈ fields) : (r.merge other fields).AgreeAt other f :=
  (agreeAt_foldl_copy other f fields.toList r).1 (FieldSet.mem_toList.mpr h)

theorem agreeAt_merge_of_not_mem (h : f ∉ fields) : (r.merge other fields).AgreeAt r f :=
  (agreeAt_foldl_copy other f fields.toList r).2 (mt FieldSet.mem_toList.mp h)

/-- A masked copy looks at no field outside the mask. -/
theorem merge_congr (h : ∀ f ∈ fields, a.AgreeAt b f) : r.merge a fields = r.merge b fields :=
  ext_agreeAt fun f => by
    by_cases hf : f ∈ fields
    · exact ((agreeAt_merge_of_mem hf).trans (h f hf)).trans (agreeAt_merge_of_mem hf).symm
    · exact (agreeAt_merge_of_not_mem hf).trans (agreeAt_merge_of_not_mem hf).symm

end RealmAdmin.Record
