/-
RealmAdmin.Value — untyped data: what a JSON text or a TOML document holds.

A structure is read from a value member by member. A table holds a member
under its name, once, and may hold others, which are passed over; a list
holds the members in their order. Integers are read into words of a fixed width and
refused when they do not fit; nothing is converted from one kind of value
into another.
-/

namespace RealmAdmin

/-- A value of a data format. Numbers that are not written as integers keep
their written form only. -/
inductive Value where
  | null
  | boolean (b : Bool)
  | integer (n : Int)
  | real (literal : String)
  | text (s : String)
  | list (items : List Value)
  | table (members : List (String × Value))
  deriving Inhabited

namespace Value

/-! ## Scalars -/

def text? : Value → Option String
  | .text s => some s
  | _ => none

def integer? : Value → Option Int
  | .integer n => some n
  | _ => none

/-- A signed word of 64 bits. -/
def int64? (v : Value) : Option Int64 :=
  match v.integer? with
  | some n =>
    if -9223372036854775808 ≤ n ∧ n ≤ 9223372036854775807 then some (Int64.ofInt n) else none
  | none => none

/-- An unsigned word of 32 bits. -/
def uint32? (v : Value) : Option UInt32 :=
  match v.integer? with
  | some n => if 0 ≤ n ∧ n ≤ 4294967295 then some (UInt32.ofNat n.toNat) else none
  | none => none

/-- An unsigned word of 16 bits. -/
def uint16? (v : Value) : Option UInt16 :=
  match v.integer? with
  | some n => if 0 ≤ n ∧ n ≤ 65535 then some (UInt16.ofNat n.toNat) else none
  | none => none

def list? : Value → Option (List Value)
  | .list items => some items
  | _ => none

/-! ## Members of a structure -/

/-- The members found in a value, by name. -/
abbrev Members := String → Option Value

/-- What a value gives to a structure, by name: a list gives the first of the
members, in order. -/
def given? (names : List String) : Value → Option (List (String × Value))
  | .table members => some members
  | .list items => some (names.zip items)
  | _ => none

/-- The members of a structure that may leave some out. None of them is given twice. -/
def members? (names : List String) (v : Value) : Option Members := do
  let given ← v.given? names
  if ∀ name ∈ names, (given.map Prod.fst).count name ≤ 1 then
    return fun name => List.lookup name given
  else none

/-- The members of a structure that a list gives in full or not at all. -/
def allMembers? (names : List String) : Value → Option Members
  | .list items =>
    if items.length = names.length then members? names (.list items) else none
  | v => v.members? names

/-- Read a member that has to be there. -/
def required {α : Type} (read : Value → Option α) : Option Value → Option α
  | some v => read v
  | none => none

/-- Read a member that may be missing or null. -/
def optional {α : Type} (read : Value → Option α) : Option Value → Option (Option α)
  | none | some .null => some none
  | some v => (read v).map some

/-! ## Writing -/

def ofInt64 (n : Int64) : Value := .integer n.toInt

def ofUInt32 (n : UInt32) : Value := .integer n.toNat

/-- An optional text, null when absent. -/
def ofText? : Option String → Value
  | some s => .text s
  | none => .null

end Value

end RealmAdmin
