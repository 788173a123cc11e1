/-
RealmAdmin.Name — principal names.

A name is a list of components and a realm, `primary/instance@REALM`.
`Name.make` is the check that a name can stand for a principal: it has a
component, the first one is not empty, and neither is the realm. The other
components may be empty. Changing a name's realm does not check it again.
-/
import RealmAdmin.Failure
import RealmAdmin.Value
import RealmAdmin.Text.Inspect

namespace RealmAdmin

/-- A principal's name. -/
structure Name where
  components : List String
  realm : String
  deriving DecidableEq

namespace Name

/-- A name that can stand for a principal. -/
def IsValid (n : Name) : Prop :=
  n.components ≠ [] ∧ n.components.head? ≠ some "" ∧ n.realm ≠ ""

instance (n : Name) : Decidable n.IsValid :=
  inferInstanceAs (Decidable (_ ∧ _ ∧ _))

/-- The name with these parts, if it can stand for a principal. -/
def make (components : List String) (realm : String) : Except Failure Name :=
  if IsValid ⟨components, realm⟩ then .ok ⟨components, realm⟩
  else .error .malformedName

/-- The first component. -/
def primary (n : Name) : String := n.components.headD ""

/-- The second component, where there is one. -/
def instance? (n : Name) : Option String := n.components[1]?

/-- The instance that every administrative client carries. -/
def adminInstance : String := "admin"

/-- The same primary and realm, with one instance and nothing after it. -/
def withInstance (n : Name) (inst : String) : Name :=
  ⟨[n.primary, inst], n.realm⟩

/-- The same components in another realm, whatever its name. -/
def withRealm (n : Name) (realm : String) : Name := ⟨n.components, realm⟩

/-- The template principal, which holds the defaults of a realm. -/
def template (realm : String) : Except Failure Name := make ["default"] realm

/-! ## Order -/

/-- Names in order of their components, then of their realms; texts compare
by code points. -/
protected def le (a b : Name) : Bool :=
  if a.components < b.components then true
  else if b.components < a.components then false
  else decide (a.realm ≤ b.realm)

/-! ## As data -/

/-- The members of a name as data, in order. -/
def memberNames : List String := ["components", "realm"]

def toValue (n : Name) : Value :=
  .table [("components", .list (n.components.map .text)), ("realm", .text n.realm)]

/-- The name that a value holds; a value whose name cannot stand for a
principal is refused. -/
def ofValue? (v : Value) : Option Name := do
  let members ← v.allMembers? memberNames
  let items ← Value.required Value.list? (members "components")
  let components ← items.mapM Value.text?
  let realm ← Value.required Value.text? (members "realm")
  (make components realm).toOption

/-! ## Description -/

/-- A name as a description shows it, part by part. -/
def inspect (n : Name) : String :=
  Text.inspectStruct "PrincipalName"
    [("components", Text.inspectList (n.components.map Text.quoted)),
      ("realm", Text.quoted n.realm)] false

end Name

end RealmAdmin
