/-
RealmAdmin.Text.Numeral — reading whole numbers in decimal.

`readNatural` takes a nonempty run of the digits 0 to 9 and nothing else;
`readPort?` also takes one plus sign before it, and refuses a number that a
port cannot have.
-/

namespace RealmAdmin.Text

/-- Whether the character is one of the ten digits of ASCII. -/
def isDigit (c : Char) : Bool := '0' ≤ c && c ≤ '9'

def digitValue (c : Char) : Nat := c.toNat - '0'.toNat

/-- The number that a list of digits writes in the given base. -/
def ofDigits (base : Nat) (digits : List Nat) : Nat :=
  digits.foldl (fun n d => n * base + d) 0

/-- The number written by a text that is digits throughout. -/
def readNatural (cs : List Char) : Option Nat :=
  if cs.isEmpty || !cs.all isDigit then none
  else some (ofDigits 10 (cs.map digitValue))

/-- A port as text: digits, perhaps after one plus sign, up to 65535. -/
def readPort? (s : String) : Option UInt16 :=
  let digits := match s.toList with
    | '+' :: rest => rest
    | cs => cs
  match readNatural digits with
  | some n => if n < 65536 then some (UInt16.ofNat n) else none
  | none => none

end RealmAdmin.Text
