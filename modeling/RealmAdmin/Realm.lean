/-
RealmAdmin.Realm — an administration service held in memory.

A realm stores principals under the text of their names, each with a record
and a password. It logs the calls it gets, in order, and fails a call when a
fault was laid for its kind; so a test can see what was asked of it, and can
make it fail. Its clock goes on by a second with every change.

What clients ask of a realm is in `RealmAdmin.Realm.Serve`; here is what can
be done to it without being a client.
-/
import RealmAdmin.Config
import RealmAdmin.Name.Syntax
import RealmAdmin.Service
import RealmAdmin.Text.LowerCase

namespace RealmAdmin

/-! ## Calls -/

/-- A call that a realm has got. -/
inductive Call where
  | openWithPassword (client : String)
  | openWithCache (cache : String)
  | get (name : String) (fields : FieldSet)
  | create (name : String) (fields : FieldSet)
  | modify (name : String) (fields : FieldSet)
  | rename (source target : String)
  | changePassword (name : String)
  | delete (name : String)
  | list (filter : String)
  | privileges
  deriving DecidableEq

/-- The kinds of calls; opening is one kind, however it is done. -/
inductive CallKind where
  | opening
  | get
  | create
  | modify
  | rename
  | changePassword
  | delete
  | list
  | privileges
  deriving DecidableEq

def Call.kind : Call → CallKind
  | .openWithPassword _ | .openWithCache _ => .opening
  | .get .. => .get
  | .create .. => .create
  | .modify .. => .modify
  | .rename .. => .rename
  | .changePassword _ => .changePassword
  | .delete _ => .delete
  | .list _ => .list
  | .privileges => .privileges

/-! ## Realms -/

/-- What is stored of a principal. -/
structure Entry where
  record : Record
  password : List UInt8
  deriving DecidableEq

/-- A realm with everything in it. -/
structure Realm where
  name : String
  principals : TextMap Entry := .empty
  /-- What every client may do. -/
  privileges : Privileges := .all
  defaultPrincipal : Option Name := none
  /-- The credential caches, with the principals whose tickets they hold. -/
  caches : TextMap Name := .empty
  calls : List Call := []
  /-- The faults that the next calls of each kind will meet. -/
  faults : CallKind → List Status := fun _ => []
  /-- What the latest session was opened with. -/
  lastParams : Option SessionParams := none
  clock : Int64 := 1700000000
  /-- Which filters compile. The realm has a library match its filters, as regular
  expressions, and leaves it to the library which of them it takes. -/
  compiles : String → Bool := fun _ => true

namespace Realm

/-- A step of a realm, which ends in a value or a status. -/
abbrev Step := EStateM Status Realm

/-- Let the clock go on, and say what it shows. -/
def tick : Step Int64 := do
  modify fun r => { r with clock := r.clock + 1 }
  return (← get).clock

/-- Store a new entry under the name in its record. -/
def insertNew (e : Entry) : Step Unit := do
  match e.record.principal with
  | none => throw .badPrincipal
  | some name =>
    if (← get).principals.contains name.text then throw .duplicate
    modify fun r => { r with principals := r.principals.insert name.text e }

/-- The text under which a principal is stored that a text names. A text
that is no name is taken as it is. -/
def key (r : Realm) (text : String) : String :=
  match Name.parse text r.name with
  | .ok name => name.text
  | .error _ => text

/-! ## Arranging -/

/-- Store a new principal, with a first key that has just been made. -/
def addPrincipal (name password : String) : Step Unit := do
  match Name.parse name (← get).name with
  | .error _ => throw .badPrincipal
  | .ok principal =>
    let now ← tick
    let record := {
      Record.named principal with keyVersion := 1, lastPasswordChange := now, modifyTime := now }
    insertNew ⟨record, Text.bytes password⟩

/-- The client that every realm starts with, and its password. -/
def adminClient : String := "admin/admin"
def adminPassword : String := "secret"

/-- A realm that holds nothing but its first client. -/
def new (name : String) (compiles : String → Bool := fun _ => true) : Realm :=
  match (addPrincipal adminClient adminPassword).run { name, compiles } with
  | .ok _ r => r
  | .error _ r => r

/-- Change a stored record, whatever the service's rules are. -/
def updateRecord (name : String) (edit : Record → Record) : Step Unit := do
  let r ← get
  match r.principals.get? (r.key name) with
  | none => throw .unknownPrincipal
  | some e =>
    set { r with principals := r.principals.insert (r.key name) { e with record := edit e.record } }

def setPrivileges (r : Realm) (privileges : Privileges) : Realm := { r with privileges }

/-- Make a principal the default one; a text that is no name leaves none. -/
def setDefaultPrincipal (r : Realm) (name : String) : Realm :=
  { r with defaultPrincipal := (Name.parse name r.name).toOption }

/-- Put a principal's tickets into a cache; a text that is no name has none. -/
def addCache (r : Realm) (cache name : String) : Realm :=
  match Name.parse name r.name with
  | .ok principal => { r with caches := r.caches.insert cache principal }
  | .error _ => r

/-- Lay a fault for one more call of a kind. -/
def failNext (r : Realm) (kind : CallKind) (fault : Status) : Realm :=
  { r with faults := fun k => if k = kind then r.faults k ++ [fault] else r.faults k }

def clearCalls (r : Realm) : Realm := { r with calls := [] }

/-! ## Looking -/

/-- The stored record of a principal. -/
def record? (r : Realm) (name : String) : Option Record :=
  (r.principals.get? (r.key name)).map (·.record)

def contains (r : Realm) (name : String) : Bool := (r.record? name).isSome

/-- Whether the principal is stored with this password. -/
def passwordMatches (r : Realm) (name password : String) : Bool :=
  (r.principals.get? (r.key name)).any (·.password == Text.bytes password)

/-- The names of all stored principals, in order. -/
def principalNames (r : Realm) : List String := r.principals.keys

/-- How many calls of a kind there were. -/
def callCount (r : Realm) (kind : CallKind) : Nat := (r.calls.filter (·.kind = kind)).length

/-- Settings with which the realm's first client finds the realm. -/
def adminConfig (r : Realm) : Config where
  client := some adminClient
  defaultRealm := some r.name
  realmServers := TextMap.empty.insert r.name (some ("kdc." ++ Text.lowerCase r.name))

end Realm

end RealmAdmin
