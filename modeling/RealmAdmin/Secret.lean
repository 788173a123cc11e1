/-
RealmAdmin.Secret — password bytes, and the slot that holds the next one.

A secret's bytes can be overwritten with zeros, which keeps their number. A
slot holds no secret, one that is waiting to be sent, or the overwritten
remains of one that was sent.
-/
import RealmAdmin.Text.Inspect

namespace RealmAdmin

/-- The bytes of a text in UTF-8. -/
def Text.bytes (s : String) : List UInt8 := s.toUTF8.data.toList

/-- Bytes that are kept secret. -/
structure Secret where
  bytes : List UInt8
  deriving DecidableEq

namespace Secret

def ofText (s : String) : Secret := ⟨Text.bytes s⟩

def length (s : Secret) : Nat := s.bytes.length

def isEmpty (s : Secret) : Bool := s.bytes.isEmpty

/-- The secret with each byte overwritten by zero. -/
def wipe (s : Secret) : Secret := ⟨s.bytes.map fun _ => 0⟩

/-- Whether every byte is zero. -/
def isWiped (s : Secret) : Bool := s.bytes.all (· == 0)

/-- A secret as a description shows it: its length, and none of its bytes. -/
def inspect (s : Secret) : String := "Secret(<" ++ toString s.length ++ " bytes redacted>)"

end Secret

/-! ## The slot of a pending secret -/

/-- Where a principal keeps the password to send next. -/
inductive SecretSlot where
  | empty
  | pending (secret : Secret)
  | spent (remains : Secret)
  deriving DecidableEq

namespace SecretSlot

/-- The secret that is waiting to be sent. -/
def pending? : SecretSlot → Option Secret
  | .pending secret => some secret
  | _ => none

def isPending (slot : SecretSlot) : Bool := slot.pending?.isSome

/-- The slot after its secret was sent: the secret is overwritten. Without a secret that
waits, nothing is left. -/
def erase : SecretSlot → SecretSlot
  | .pending secret => .spent secret.wipe
  | _ => .empty

@[simp] theorem pending?_erase (slot : SecretSlot) : slot.erase.pending? = none := by
  cases slot <;> rfl

end SecretSlot

end RealmAdmin
