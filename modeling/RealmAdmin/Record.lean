/-
RealmAdmin.Record — what the service knows about one principal.

A record holds sixteen attributes in the form that the wire has them: times
as seconds since the epoch and durations as seconds, with zero for a value
that is not set. `Record.merge` takes over the attributes of some fields from
another record. Two fields stand for no attribute: clearing the policy, and
the key material.
-/
import RealmAdmin.Name
import RealmAdmin.Field.Set

namespace RealmAdmin

/-! ## Flags -/

/-- The attribute flags of a principal, a word of bits. -/
structure Flags where
  bits : UInt32
  deriving DecidableEq

namespace Flags

def none : Flags := ⟨0⟩

/-- Whether every one of the other flags is set. -/
def contains (f other : Flags) : Bool := f.bits &&& other.bits == other.bits

/-- The flags of either word. -/
def union (f other : Flags) : Flags := ⟨f.bits ||| other.bits⟩

/-- The flags that are not among the others. -/
def difference (f other : Flags) : Flags := ⟨f.bits &&& ~~~other.bits⟩

/-- The flags as a description shows them: in base sixteen, with at least
four digits. -/
def inspect (f : Flags) : String :=
  let digits := Text.hexDigits f.bits.toNat
  let zeros := List.replicate (4 - digits.length) '0'
  "PrincipalFlags(0x" ++ String.ofList (zeros ++ digits) ++ ")"

end Flags

/-! ## Records -/

/-- The attributes of one principal, as the wire has them. -/
structure Record where
  principal : Option Name := none
  expireTime : Int64 := 0
  lastPasswordChange : Int64 := 0
  passwordExpiration : Int64 := 0
  maxLife : Int64 := 0
  modifier : Option Name := none
  modifyTime : Int64 := 0
  attributes : Flags := .none
  keyVersion : UInt32 := 0
  masterKeyVersion : UInt32 := 0
  policy : Option String := none
  auxAttributes : Int64 := 0
  maxRenewableLife : Int64 := 0
  lastSuccess : Int64 := 0
  lastFailure : Int64 := 0
  failedAttempts : UInt32 := 0
  deriving DecidableEq

namespace Record

/-- The record in which nothing is set. -/
def blank : Record := {}

/-- The blank record of a principal. -/
def named (principal : Name) : Record := { blank with principal := some principal }

/-- Take over the attribute of one field from another record. -/
def copy (other : Record) (r : Record) : Field → Record
  | .principal => { r with principal := other.principal }
  | .expireTime => { r with expireTime := other.expireTime }
  | .passwordExpiration => { r with passwordExpiration := other.passwordExpiration }
  | .lastPasswordChange => { r with lastPasswordChange := other.lastPasswordChange }
  | .attributes => { r with attributes := other.attributes }
  | .maxLife => { r with maxLife := other.maxLife }
  | .modifyTime => { r with modifyTime := other.modifyTime }
  | .modifier => { r with modifier := other.modifier }
  | .keyVersion => { r with keyVersion := other.keyVersion }
  | .masterKeyVersion => { r with masterKeyVersion := other.masterKeyVersion }
  | .auxAttributes => { r with auxAttributes := other.auxAttributes }
  | .policy => { r with policy := other.policy }
  | .policyClear => r
  | .maxRenewableLife => { r with maxRenewableLife := other.maxRenewableLife }
  | .lastSuccess => { r with lastSuccess := other.lastSuccess }
  | .lastFailure => { r with lastFailure := other.lastFailure }
  | .failedAttempts => { r with failedAttempts := other.failedAttempts }
  | .keyData => r

/-- Take over the attributes of the given fields from another record. -/
def merge (r other : Record) (fields : FieldSet) : Record :=
  fields.toList.foldl (copy other) r

end Record

end RealmAdmin
