/-
RealmAdmin.Proofs.Name.Derived — which names can be had.

A name is made, read or taken for the template of a realm, and all of these check that it
can stand for a principal (`isValid_of_origin`). From it others are derived, without a
check. Whichever they are, they keep a first component that is not empty
(`hasPrimary_derived`), and they are in the realm that was put in place last
(`realm_derived`). That realm may have no name: `derived_names` says that this is the one
way to come by a name that can stand for no principal.
-/
import RealmAdmin.Proofs.Checks
import RealmAdmin.Proofs.Record.Data

namespace RealmAdmin.Name

/-! ## Where names come from -/

/-- A way to come by a name without having one. -/
inductive Origin where
  | made (components : List String) (realm : String)
  | parsed (text defaultRealm : String)
  | read (value : Value)
  | template (realm : String)

/-- The name that is come by, if there is one. -/
def Origin.name? : Origin → Option Name
  | .made components realm => (make components realm).toOption
  | .parsed text defaultRealm => (parse text defaultRealm).toOption
  | .read value => ofValue? value
  | .template realm => (Name.template realm).toOption

variable {n : Name}

theorem isValid_of_origin {origin : Origin} (h : origin.name? = some n) : n.IsValid := by
  cases origin with
  | made components realm => exact (make_eq_ok.mp (toOption_eq_some.mp h)).2
  | parsed text defaultRealm => exact isValid_of_parse (toOption_eq_some.mp h)
  | read value => exact (ofValue?_eq_some.mp h).2
  | template realm => exact (make_eq_ok.mp (toOption_eq_some.mp h)).2

/-! ## Names from names -/

/-- What is changed to derive one name from another. -/
inductive Change where
  | instanceTo (inst : String)
  | realmTo (realm : String)

def Change.apply : Change → Name → Name
  | .instanceTo inst, n => n.withInstance inst
  | .realmTo realm, n => n.withRealm realm

/-- The realm that a change puts in place. -/
def Change.realm? : Change → Option String
  | .realmTo realm => some realm
  | .instanceTo _ => none

/-- The name that changes in turn lead to. -/
def derived (n : Name) (changes : List Change) : Name := changes.foldl (fun n c => c.apply n) n

/-- The realm that was put in place last. -/
def lastRealm? (changes : List Change) : Option String := (changes.filterMap Change.realm?).getLast?

/-- Whether a name has a first component, which is not empty. -/
def HasPrimary (n : Name) : Prop := n.components[0]? = some n.primary ∧ n.primary ≠ ""

theorem isValid_iff : n.IsValid ↔ n.HasPrimary ∧ n.realm ≠ "" := by
  obtain ⟨components, realm⟩ := n
  cases components <;> simp [IsValid, HasPrimary, primary]

theorem HasPrimary.apply (h : n.HasPrimary) (change : Change) : (change.apply n).HasPrimary := by
  cases change with
  | instanceTo inst => exact ⟨rfl, h.2⟩
  | realmTo realm => exact h

theorem hasPrimary_derived (h : n.HasPrimary) (changes : List Change) :
    (n.derived changes).HasPrimary := by
  induction changes generalizing n with
  | nil => exact h
  | cons change changes ih => exact ih (h.apply change)

theorem realm_derived (n : Name) (changes : List Change) :
    (n.derived changes).realm = (lastRealm? changes).getD n.realm := by
  induction changes generalizing n with
  | nil => rfl
  | cons change changes ih =>
    refine (ih (change.apply n)).trans ?_
    cases change with
    | instanceTo inst => rfl
    | realmTo realm => simp [lastRealm?, Change.realm?, Change.apply, withRealm, List.getLast?_cons]

/-- The check that a name can stand for a principal finds the name itself, or fails. -/
theorem make_self (hprimary : n.HasPrimary) : make n.components n.realm =
    if n.realm = "" then .error .malformedName else .ok n := by
  by_cases hrealm : n.realm = ""
  · rw [if_pos hrealm, make, if_neg fun hvalid => (isValid_iff.mp hvalid).2 hrealm]
  · rw [if_neg hrealm]
    exact make_eq_ok.mpr ⟨rfl, isValid_iff.mpr ⟨hprimary, hrealm⟩⟩

/-- **Which names can be had.** A name that is made, read or taken for a template can stand
for a principal. So can each name that is derived from it, unless the realm that was put in
place last has no name: then the check refuses the derived name, and its realm has no
template. In either case the first component is there, and is not empty. -/
theorem derived_names {origin : Origin} (h : origin.name? = some n) (changes : List Change) :
    let derived := n.derived changes
    n.IsValid ∧
    derived.components[0]? = some derived.primary ∧ derived.primary ≠ "" ∧
    derived.realm = (lastRealm? changes).getD n.realm ∧
    if lastRealm? changes = some "" then
      make derived.components derived.realm = .error .malformedName ∧
        template derived.realm = .error .malformedName
    else
      make derived.components derived.realm = .ok derived ∧
        template derived.realm = .ok ⟨["default"], derived.realm⟩ := by
  intro derived
  have hvalid : n.IsValid := isValid_of_origin h
  have hprimary : derived.HasPrimary := hasPrimary_derived (isValid_iff.mp hvalid).1 changes
  have hrealm : derived.realm = (lastRealm? changes).getD n.realm := realm_derived n changes
  have hnone : derived.realm = "" ↔ lastRealm? changes = some "" := by
    rw [hrealm]
    cases lastRealm? changes <;> simp [hvalid.2.2]
  refine ⟨hvalid, hprimary.1, hprimary.2, hrealm, ?_⟩
  rw [make_self hprimary, template_eq]
  split
  · next hlast => exact ⟨if_pos (hnone.mpr hlast), if_pos (hnone.mpr hlast)⟩
  · next hlast => exact ⟨if_neg (mt hnone.mp hlast), if_neg (mt hnone.mp hlast)⟩

/-- A name with an empty component, under another instance and in another realm. -/
theorem derived_names_of_read :
    let origin := Origin.parsed "we\\/ird//x@R" "D"
    let n : Name := ⟨["we/ird", "", "x"], "R"⟩
    let changes := [Change.realmTo "", .instanceTo "", .realmTo "S"]
    origin.name? = some n ∧ n.derived changes = ⟨["we/ird", ""], "S"⟩ ∧
      make ["we/ird", ""] "S" = .ok ⟨["we/ird", ""], "S"⟩ ∧
      template "S" = .ok ⟨["default"], "S"⟩ := by
  intro origin n changes
  have horigin : origin.name? = some n := rfl
  obtain ⟨-, -, -, -, hchecked⟩ := derived_names horigin changes
  exact ⟨horigin, rfl, hchecked⟩

/-- A name without a realm: it is refused wherever it is read or made, and yet it can be
derived. -/
theorem derived_without_realm :
    (Origin.parsed "jdoe" "R").name? = some ⟨["jdoe"], "R"⟩ ∧
      derived ⟨["jdoe"], "R"⟩ [.realmTo ""] = ⟨["jdoe"], ""⟩ ∧
      make ["jdoe"] "" = .error .malformedName ∧ parse "jdoe@" "R" = .error .malformedName ∧
      ofValue? (toValue ⟨["jdoe"], ""⟩) = none ∧ template "" = .error .malformedName :=
  ⟨rfl, rfl, rfl, rfl, rfl, rfl⟩

end RealmAdmin.Name
