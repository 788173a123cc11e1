/-
RealmAdmin.Proofs.Record.Merge — the laws of a masked copy.

`masked` says attribute by attribute what a masked copy is to be: the other record's
attribute where the mask has its field, and the old one elsewhere. The copy that goes
through the fields of the mask in turn is that (`merge_eq_masked`), so the order and the
number of copies from one record do not matter, and copies from two records can be
exchanged exactly if the records agree wherever both masks have a field
(`merge_comm_iff`).
-/
import RealmAdmin.Proofs.Record

namespace RealmAdmin.Record

/-- A record with the attributes of some fields from another one. There is no attribute
for clearing the policy, and none for the key material. -/
def masked (r other : Record) (fields : FieldSet) : Record where
  principal := if .principal ∈ fields then other.principal else r.principal
  expireTime := if .expireTime ∈ fields then other.expireTime else r.expireTime
  lastPasswordChange :=
    if .lastPasswordChange ∈ fields then other.lastPasswordChange else r.lastPasswordChange
  passwordExpiration :=
    if .passwordExpiration ∈ fields then other.passwordExpiration else r.passwordExpiration
  maxLife := if .maxLife ∈ fields then other.maxLife else r.maxLife
  modifier := if .modifier ∈ fields then other.modifier else r.modifier
  modifyTime := if .modifyTime ∈ fields then other.modifyTime else r.modifyTime
  attributes := if .attributes ∈ fields then other.attributes else r.attributes
  keyVersion := if .keyVersion ∈ fields then other.keyVersion else r.keyVersion
  masterKeyVersion :=
    if .masterKeyVersion ∈ fields then other.masterKeyVersion else r.masterKeyVersion
  policy := if .policy ∈ fields then other.policy else r.policy
  auxAttributes := if .auxAttributes ∈ fields then other.auxAttributes else r.auxAttributes
  maxRenewableLife :=
    if .maxRenewableLife ∈ fields then other.maxRenewableLife else r.maxRenewableLife
  lastSuccess := if .lastSuccess ∈ fields then other.lastSuccess else r.lastSuccess
  lastFailure := if .lastFailure ∈ fields then other.lastFailure else r.lastFailure
  failedAttempts := if .failedAttempts ∈ fields then other.failedAttempts else r.failedAttempts

variable {a b c r : Record} {f : Field} {fields more : FieldSet}

theorem agreeAt_masked_of_mem (h : f ∈ fields) : (r.masked b fields).AgreeAt b f := by
  cases f <;> first | exact if_pos h | trivial

theorem agreeAt_masked_of_not_mem (h : f ∉ fields) : (r.masked b fields).AgreeAt r f := by
  cases f <;> first | exact if_neg h | trivial

/-- A masked copy is the one record that agrees with the other record at the fields of
the mask, and with the old record everywhere else. -/
theorem merge_eq_iff {s : Record} : r.merge b fields = s ↔
    ∀ f, (f ∈ fields → b.AgreeAt s f) ∧ (f ∉ fields → r.AgreeAt s f) := by
  constructor
  · rintro rfl f
    exact ⟨fun h => (agreeAt_merge_of_mem h).symm, fun h => (agreeAt_merge_of_not_mem h).symm⟩
  · intro h
    refine ext_agreeAt fun f => ?_
    by_cases hf : f ∈ fields
    · exact (agreeAt_merge_of_mem hf).trans ((h f).1 hf)
    · exact (agreeAt_merge_of_not_mem hf).trans ((h f).2 hf)

/-- A masked copy is what it is to be. -/
theorem merge_eq_masked (r other : Record) (fields : FieldSet) :
    r.merge other fields = r.masked other fields :=
  merge_eq_iff.mpr fun _ =>
    ⟨fun h => (agreeAt_masked_of_mem h).symm, fun h => (agreeAt_masked_of_not_mem h).symm⟩

/-- Two copies from one record are one copy with both masks. -/
theorem merge_merge (r other : Record) (fields more : FieldSet) :
    (r.merge other fields).merge other more = r.merge other (fields.union more) := by
  refine merge_eq_iff.mpr fun f => ⟨fun h => ?_, fun h => ?_⟩
  · exact (agreeAt_merge_of_mem (FieldSet.mem_union.mpr (.inr h))).symm
  · by_cases hf : f ∈ fields
    · have hboth : f ∈ fields.union more := FieldSet.mem_union.mpr (.inl hf)
      exact (agreeAt_merge_of_mem hf).trans (agreeAt_merge_of_mem hboth).symm
    · have hnone : f ∉ fields.union more := fun hmem => (FieldSet.mem_union.mp hmem).elim hf h
      exact (agreeAt_merge_of_not_mem hf).trans (agreeAt_merge_of_not_mem hnone).symm

/-- Copies from two records can be exchanged exactly if the records agree at every field
that both masks have. -/
theorem merge_comm_iff : (r.merge b fields).merge c more = (r.merge c more).merge b fields ↔
    ∀ f, f ∈ fields → f ∈ more → b.AgreeAt c f := by
  constructor
  · intro h f hf hmore
    have hc : ((r.merge b fields).merge c more).AgreeAt c f := agreeAt_merge_of_mem hmore
    rw [h] at hc
    exact (agreeAt_merge_of_mem hf).symm.trans hc
  · intro h
    refine merge_eq_iff.mpr fun f => ⟨fun hmore => ?_, fun hmore => ?_⟩
    · by_cases hf : f ∈ fields
      · exact (h f hf hmore).symm.trans (agreeAt_merge_of_mem hf).symm
      · exact (agreeAt_merge_of_mem hmore).symm.trans (agreeAt_merge_of_not_mem hf).symm
    · by_cases hf : f ∈ fields
      · exact (agreeAt_merge_of_mem hf).trans (agreeAt_merge_of_mem hf).symm
      · exact (agreeAt_merge_of_not_mem hf).trans
          ((agreeAt_merge_of_not_mem hf).trans (agreeAt_merge_of_not_mem hmore)).symm

/-- A copy of all that can be read is the other record. -/
theorem merge_readable (r other : Record) : r.merge other .readable = other := by
  refine merge_eq_iff.mpr fun f => ⟨fun _ => .refl other f, fun h => ?_⟩
  obtain rfl : f = .keyData := by simpa using h
  trivial

/-- **A masked copy**, attribute by attribute: it is the other record's where the mask
has the field, and the old one elsewhere, and the two fields without an attribute change
nothing. So copies from one record add up, in either order; copies from two records with
masks that have no field in common can be exchanged; and a copy of all that can be read
leaves nothing of the old record. -/
theorem merge_laws (a b c : Record) (fields more : FieldSet) :
    a.merge b fields = a.masked b fields ∧
    a.merge b ((fields.insert .policyClear).insert .keyData) = a.merge b fields ∧
    (a.merge b fields).merge b more = a.merge b (fields.union more) ∧
    (a.merge b more).merge b fields = a.merge b (fields.union more) ∧
    ((∀ f ∈ fields, f ∉ more) →
      (a.merge b fields).merge c more = (a.merge c more).merge b fields) ∧
    a.merge b .readable = b := by
  refine ⟨merge_eq_masked a b fields, ?_, merge_merge a b fields more, ?_, fun hdisjoint => ?_,
    merge_readable a b⟩
  · rw [merge_eq_masked, merge_eq_masked]
    simp [masked]
  · rw [merge_merge, FieldSet.union_comm]
  · exact merge_comm_iff.mpr fun f hf hmore => absurd hmore (hdisjoint f hf)

/-- Two copies whose masks share no field, though the records share none of their
values: the policy and the clearing of it are different fields. -/
theorem merge_laws_of_policies :
    let a : Record := { policy := some "old", maxLife := 1, expireTime := 1 }
    let b : Record := { policy := some "new", maxLife := 2, expireTime := 2 }
    let c : Record := { policy := none, maxLife := 3, expireTime := 3 }
    let fields := FieldSet.ofList [.policy, .maxLife, .keyData]
    let more := FieldSet.ofList [.policyClear, .expireTime]
    (∀ f ∈ fields, f ∉ more) ∧
      (a.merge b fields).merge c more = (a.merge c more).merge b fields ∧
      (a.merge b fields).merge c more =
        ({ policy := some "new", maxLife := 2, expireTime := 3 } : Record) := by
  intro a b c fields more
  have hdisjoint : ∀ f ∈ fields, f ∉ more := by
    intro f
    cases f <;> decide
  have hcomm := (merge_laws a b c fields more).2.2.2.2.1 hdisjoint
  exact ⟨hdisjoint, hcomm, by decide⟩

end RealmAdmin.Record
