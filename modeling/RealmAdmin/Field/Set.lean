/-
RealmAdmin.Field.Set — sets of fields, as the mask of a request.

A set is a word of eighteen bits, one for each field, so every word is a set
and a set has one word. Membership is the view: each operation is described
by the fields that are in its result, and `FieldSet.ext` says that the
members decide the set.
-/
import RealmAdmin.Field
import RealmAdmin.Text.Inspect

namespace RealmAdmin

/-- A set of fields. -/
structure FieldSet where
  bits : BitVec 18
  deriving DecidableEq

namespace FieldSet

/-- Whether the set holds the field. -/
def contains (s : FieldSet) (f : Field) : Bool := s.bits.getLsbD f.index

instance : Membership Field FieldSet := ⟨fun s f => s.contains f = true⟩

instance (s : FieldSet) (f : Field) : Decidable (f ∈ s) :=
  inferInstanceAs (Decidable (s.contains f = true))

/-- The set without fields. -/
def empty : FieldSet := ⟨0⟩

instance : EmptyCollection FieldSet := ⟨empty⟩

def isEmpty (s : FieldSet) : Bool := s == empty

/-- The set that a mask names; bits that are no field's are dropped. -/
def ofMask (mask : Nat) : FieldSet := ⟨BitVec.ofNat 18 mask⟩

/-- The mask of the set. -/
def mask (s : FieldSet) : Nat := s.bits.toNat

/-- The set with the field in it. -/
def insert (s : FieldSet) (f : Field) : FieldSet := ⟨s.bits ||| BitVec.twoPow 18 f.index⟩

/-- The set without the field. -/
def erase (s : FieldSet) (f : Field) : FieldSet := ⟨s.bits &&& ~~~BitVec.twoPow 18 f.index⟩

/-- The fields of either set. -/
def union (s t : FieldSet) : FieldSet := ⟨s.bits ||| t.bits⟩

/-- The fields of the first set that are not in the second. -/
def difference (s t : FieldSet) : FieldSet := ⟨s.bits &&& ~~~t.bits⟩

/-- The set of the fields in a list. -/
def ofList (fields : List Field) : FieldSet := fields.foldl insert empty

/-- The set with one field. -/
def single (f : Field) : FieldSet := empty.insert f

/-- The fields of the set, in order. -/
def toList (s : FieldSet) : List Field := Field.all.filter s.contains

/-- Every field. -/
def all : FieldSet := ofList Field.all

/-- What a read can return: all but the key material. -/
def readable : FieldSet := all.erase .keyData

/-- The fields that a create request may carry. -/
def forCreate (s : FieldSet) : FieldSet := ofList (s.toList.filter Field.allowedOnCreate)

/-- The fields that a modify request may carry. -/
def forModify (s : FieldSet) : FieldSet := ofList (s.toList.filter Field.allowedOnModify)

/-- The set as a description shows it, its fields by name. -/
def inspect (s : FieldSet) : String :=
  Text.inspectSet (s.toList.map fun f => Text.quoted f.text)

/-! ## Membership -/

theorem mem_def {s : FieldSet} {f : Field} : f ∈ s ↔ s.contains f = true := Iff.rfl

@[simp] theorem contains_empty (f : Field) : empty.contains f = false := by
  simp [contains, empty]

@[simp] theorem contains_insert (s : FieldSet) (f g : Field) :
    (s.insert f).contains g = (s.contains g || decide (g = f)) := by
  have hg := g.index_lt
  have hi : g.index = f.index ↔ g = f := Field.index_inj
  by_cases h : g = f <;> simp_all [contains, insert]

@[simp] theorem contains_erase (s : FieldSet) (f g : Field) :
    (s.erase f).contains g = (s.contains g && decide (g ≠ f)) := by
  have hg := g.index_lt
  have hi : g.index = f.index ↔ g = f := Field.index_inj
  by_cases h : g = f <;> simp_all [contains, erase]

@[simp] theorem contains_union (s t : FieldSet) (f : Field) :
    (s.union t).contains f = (s.contains f || t.contains f) := by
  simp [contains, union]

@[simp] theorem contains_difference (s t : FieldSet) (f : Field) :
    (s.difference t).contains f = (s.contains f && !t.contains f) := by
  simp [contains, difference, f.index_lt]

theorem contains_foldl_insert (f : Field) : ∀ (fields : List Field) (s : FieldSet),
    (fields.foldl insert s).contains f = (s.contains f || decide (f ∈ fields))
  | [], s => by simp
  | g :: rest, s => by
    rw [List.foldl_cons, contains_foldl_insert f rest, contains_insert]
    by_cases h : f = g <;> simp [h, List.mem_cons]

@[simp] theorem contains_ofList (fields : List Field) (f : Field) :
    (ofList fields).contains f = decide (f ∈ fields) := by
  simp [ofList, contains_foldl_insert]

@[simp] theorem contains_all (f : Field) : all.contains f = true := by
  simp [all, Field.mem_all]

@[simp] theorem contains_readable (f : Field) : readable.contains f = decide (f ≠ .keyData) := by
  simp [readable]

theorem mem_toList {s : FieldSet} {f : Field} : f ∈ s.toList ↔ s.contains f = true := by
  simp [toList, Field.mem_all]

@[simp] theorem contains_forCreate (s : FieldSet) (f : Field) :
    s.forCreate.contains f = (s.contains f && f.allowedOnCreate) := by
  simp [forCreate, mem_toList]

@[simp] theorem contains_forModify (s : FieldSet) (f : Field) :
    s.forModify.contains f = (s.contains f && f.allowedOnModify) := by
  simp [forModify, mem_toList]

@[simp] theorem not_mem_empty (f : Field) : f ∉ empty := by simp [mem_def]

@[simp] theorem mem_insert {s : FieldSet} {f g : Field} : g ∈ s.insert f ↔ g ∈ s ∨ g = f := by
  simp [mem_def]

@[simp] theorem mem_erase {s : FieldSet} {f g : Field} : g ∈ s.erase f ↔ g ∈ s ∧ g ≠ f := by
  simp [mem_def]

theorem mem_union {s t : FieldSet} {f : Field} : f ∈ s.union t ↔ f ∈ s ∨ f ∈ t := by
  simp [mem_def]

@[simp] theorem mem_difference {s t : FieldSet} {f : Field} :
    f ∈ s.difference t ↔ f ∈ s ∧ f ∉ t := by
  simp [mem_def]

@[simp] theorem mem_readable {f : Field} : f ∈ readable ↔ f ≠ .keyData := by simp [mem_def]

@[simp] theorem mem_forCreate {s : FieldSet} {f : Field} :
    f ∈ s.forCreate ↔ f ∈ s ∧ f.allowedOnCreate = true := by
  simp [mem_def]

@[simp] theorem mem_forModify {s : FieldSet} {f : Field} :
    f ∈ s.forModify ↔ f ∈ s ∧ f.allowedOnModify = true := by
  simp [mem_def]

/-- Sets with the same fields are the same set. -/
theorem ext {s t : FieldSet} (h : ∀ f, s.contains f = t.contains f) : s = t := by
  obtain ⟨a⟩ := s
  obtain ⟨b⟩ := t
  congr 1
  refine BitVec.eq_of_getLsbD_eq fun i hi => ?_
  obtain ⟨f, rfl⟩ := Field.exists_index hi
  exact h f

theorem ext_mem {s t : FieldSet} (h : ∀ f, f ∈ s ↔ f ∈ t) : s = t :=
  ext fun f => Bool.eq_iff_iff.mpr (h f)

theorem union_comm (s t : FieldSet) : s.union t = t.union s :=
  ext_mem fun f => by rw [mem_union, mem_union, or_comm]

theorem isEmpty_iff {s : FieldSet} : s.isEmpty = true ↔ s = empty := by simp [isEmpty]

theorem eq_empty_iff {s : FieldSet} : s = empty ↔ ∀ f, f ∉ s :=
  ⟨fun h f => h ▸ not_mem_empty f, fun h => ext_mem fun f => by simp [h f]⟩

end FieldSet

end RealmAdmin
