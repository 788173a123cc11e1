/-
RealmAdmin.Proofs.Realm.Holds — edited values in the entries of a realm.

Whether an entry holds the value of an edit is decided by the request that
wrote the entry last: a new name and a new password leave it as it was, a
modify request that carries the edit's field makes it hold, and one that does
not leaves it. A creation makes it hold if the field was sent, and otherwise
only if the value is the one that a blank record has.
-/
import RealmAdmin.Proofs.Principal.Edit
import RealmAdmin.Proofs.Realm.Serve

namespace RealmAdmin.Principal.Edit

variable {d : Edit} {client target : Name} {now : Int64} {entry : Entry} {record : Record}
  {fields : FieldSet} {password : List UInt8}

theorem holds_stamp (d : Edit) (client : Name) (now : Int64) (r : Record) :
    d.Holds (Realm.stamp client now r) ↔ d.Holds r := by
  cases d <;> exact Iff.rfl

/-- An edit is never about the name. -/
theorem holds_named (d : Edit) (name : Option Name) (r : Record) :
    d.Holds { r with principal := name } ↔ d.Holds r := by
  cases d <;> exact Iff.rfl

theorem holds_rekeyed : d.Holds (entry.rekeyed client now password).record ↔
    d.Holds entry.record := by
  cases d <;> exact Iff.rfl

theorem holds_renamed : d.Holds (entry.renamed client now target).record ↔
    d.Holds entry.record := by
  cases d <;> exact Iff.rfl

/-- An edit that is not dirty, and displaces nothing that is, has no dirty
field that touches its attribute. -/
theorem target_not_mem (hmem : d.field ∉ fields) (hopposite : ∀ f ∈ fields, ¬ d.Displaces f) :
    d.target ∉ fields ∧ (d.target = .policy → .policyClear ∉ fields) := by
  cases d with
  | policy name =>
    cases name with
    | none => exact ⟨fun h => hopposite .policy h rfl, fun _ => hmem⟩
    | some name => exact ⟨hmem, fun _ h => hopposite .policyClear h rfl⟩
  | _ => exact ⟨hmem, nofun⟩

/-- Clearing the policy aside, a modify request copies the fields it carries. -/
theorem holds_modified (h : d.target = .policy → .policyClear ∉ fields) :
    d.Holds (entry.modified client now record fields).record ↔
      d.Holds (entry.record.merge record fields) := by
  rw [Entry.modified, holds_stamp]
  cases d with
  | policy name => rw [if_neg (h rfl)]
  | _ => split <;> exact Iff.rfl

theorem holds_modified_of_mem (hmem : d.field ∈ fields)
    (hpolicies : ¬ (.policy ∈ fields ∧ .policyClear ∈ fields))
    (hvalue : d.field ≠ .policyClear → d.Holds record) :
    d.Holds (entry.modified client now record fields).record := by
  by_cases hfield : d.field = .policyClear
  · cases d with
    | policy name =>
      cases name with
      | none =>
        have hclear : .policyClear ∈ fields := hmem
        rw [Entry.modified, holds_stamp, if_pos hclear]
        rfl
      | some name => cases hfield
    | _ => cases hfield
  · have htarget := target_eq_field hfield
    have hkept : d.target = .policy → .policyClear ∉ fields := fun h hclear =>
      hpolicies ⟨h ▸ htarget ▸ hmem, hclear⟩
    rw [holds_modified hkept, holds_congr (Record.agreeAt_merge_of_mem (htarget ▸ hmem))]
    exact hvalue hfield

theorem holds_modified_of_not_mem (hmem : d.field ∉ fields)
    (hopposite : ∀ f ∈ fields, ¬ d.Displaces f) :
    d.Holds (entry.modified client now record fields).record ↔ d.Holds entry.record := by
  obtain ⟨htarget, hclear⟩ := target_not_mem hmem hopposite
  rw [holds_modified hclear]
  exact holds_congr (Record.agreeAt_merge_of_not_mem htarget)

/-- A creation starts from a blank record and copies the fields it carries. -/
theorem holds_make (d : Edit) : d.Holds (Entry.make client now record fields password).record ↔
    d.Holds ({ Record.blank with keyVersion := 1 }.merge record fields) := by
  rw [Entry.make, holds_stamp]
  cases d <;> exact Iff.rfl

theorem holds_make_of_mem (hmem : d.target ∈ fields) :
    d.Holds (Entry.make client now record fields password).record ↔ d.Holds record := by
  rw [holds_make]
  exact holds_congr (Record.agreeAt_merge_of_mem hmem)

theorem holds_make_of_not_mem (hmem : d.target ∉ fields) :
    d.Holds (Entry.make client now record fields password).record ↔ d.Holds .blank := by
  have hblank : d.Holds { Record.blank with keyVersion := 1 } ↔ d.Holds .blank := by
    cases d <;> exact Iff.rfl
  rw [holds_make, ← hblank]
  exact holds_congr (Record.agreeAt_merge_of_not_mem hmem)

end RealmAdmin.Principal.Edit
