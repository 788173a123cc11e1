/-
RealmAdmin.Privileges — what the service allows a session's client to do.

Privileges are a word of bits, six of which have a meaning; the others are
kept as the service sent them.
-/
import RealmAdmin.Text.Inspect

namespace RealmAdmin

/-- A word of privileges. -/
structure Privileges where
  bits : UInt32
  deriving DecidableEq

namespace Privileges

def none : Privileges := ⟨0⟩
def get : Privileges := ⟨0x01⟩
def add : Privileges := ⟨0x02⟩
def modify : Privileges := ⟨0x04⟩
def delete : Privileges := ⟨0x08⟩
def list : Privileges := ⟨0x10⟩
def changePassword : Privileges := ⟨0x20⟩
def all : Privileges := ⟨0x3f⟩

/-- Whether every one of the other privileges is granted. -/
def contains (p other : Privileges) : Bool := p.bits &&& other.bits == other.bits

/-- The privileges of either word. -/
def union (p other : Privileges) : Privileges := ⟨p.bits ||| other.bits⟩

/-- The privileges that have a name. -/
def named : List (Privileges × String) :=
  [(get, "get"), (add, "add"), (modify, "modify"), (delete, "delete"), (list, "list"),
    (changePassword, "cpw")]

/-- The granted privileges as a description shows them, by name. -/
def inspect (p : Privileges) : String :=
  Text.inspectSet ((named.filter fun n => p.contains n.1).map fun n => Text.quoted n.2)

end Privileges

end RealmAdmin
