/-
RealmAdmin.Principal — a principal as it is worked on.

A principal is a local view of what the service stores: a snapshot of its
record, what is known of its presence there, and the changes that are staged
but not committed. A staged change to an attribute puts its value into the
snapshot and its field among the dirty ones. A new name and a new password
are staged beside the snapshot.

The functions here are the local steps. What is read from the service, and
what is sent to it, is the business of the modules below this one.
-/
import RealmAdmin.Lifetime
import RealmAdmin.Moment
import RealmAdmin.Password.Generator
import RealmAdmin.Session

namespace RealmAdmin

/-- What is known of a principal's presence in the service's database. -/
inductive Presence where
  | unknown
  | absent
  | present
  deriving DecidableEq

def Presence.text : Presence → String
  | .unknown => "Unknown"
  | .absent => "Absent"
  | .present => "Present"

/-- A principal, with its staged changes. -/
structure Principal where
  /-- The name by which the service knows it. -/
  id : Name
  /-- The name that a staged renaming will give it. -/
  pendingName : Option Name := none
  record : Record := .blank
  secret : SecretSlot := .empty
  /-- Whether the snapshot was read since the last commit. -/
  loaded : Bool := false
  presence : Presence := .unknown
  /-- The fields with staged changes. -/
  dirty : FieldSet := .empty
  deriving DecidableEq

namespace Principal

/-- A principal that the service should have; nothing is read yet. -/
def existing (id : Name) : Principal := { id }

/-- A principal that the service does not have yet. -/
def fresh (id : Name) : Principal := { id, presence := .absent }

/-- The name to show: the staged one if there is one. -/
def name (p : Principal) : Name := p.pendingName.getD p.id

/-- Whether a commit has something to write. A principal that nothing is
known of and nothing is staged for is not modified. -/
def isModified (p : Principal) : Bool :=
  p.presence == .absent || !p.dirty.isEmpty || p.secret.isPending

/-! ## Staging changes -/

/-- Stage a new name; the old name takes a staged one back. -/
def rename (p : Principal) (name : Name) : Principal :=
  if name = p.id then { p with pendingName := none, dirty := p.dirty.erase .principal }
  else { p with pendingName := some name, dirty := p.dirty.insert .principal }

/-- Stage a new password, in place of any that is staged. -/
def setPassword (p : Principal) (secret : Secret) : Principal := { p with secret := .pending secret }

/-- Stage a random password. -/
def randomizePassword (p : Principal) (g : PasswordGenerator) (e : Entropy) : Principal :=
  p.setPassword (g.generate e)

/-- Stage a change of the snapshot under a field, unless the snapshot was
read and the change leaves it as it is. -/
def assign (p : Principal) (field : Field) (edit : Record → Record) : Principal :=
  if p.loaded ∧ edit p.record = p.record then p
  else { p with record := edit p.record, dirty := p.dirty.insert field }

def setExpireTime (p : Principal) (time : Moment) : Principal :=
  p.assign .expireTime ({ · with expireTime := time.toEpoch })

def setPasswordExpiration (p : Principal) (time : Moment) : Principal :=
  p.assign .passwordExpiration ({ · with passwordExpiration := time.toEpoch })

def setMaxLifetime (p : Principal) (lifetime : Lifetime) : Principal :=
  p.assign .maxLife ({ · with maxLife := lifetime.toSeconds })

def setMaxRenewableLifetime (p : Principal) (lifetime : Lifetime) : Principal :=
  p.assign .maxRenewableLife ({ · with maxRenewableLife := lifetime.toSeconds })

def setAttributes (p : Principal) (flags : Flags) : Principal :=
  p.assign .attributes ({ · with attributes := flags })

/-- Stage a policy, or that there is to be none. The two have a field each,
of which at most one is dirty. -/
def setPolicy (p : Principal) : Option String → Principal
  | some policy =>
    { p with dirty := p.dirty.erase .policyClear }.assign .policy ({ · with policy := some policy })
  | none => { p with dirty := p.dirty.erase .policy }.assign .policyClear ({ · with policy := none })

/-! ## Reading the record -/

/-- The fields that a read asks for: those without staged changes, and
always the name. -/
def fieldsToRead (p : Principal) : FieldSet :=
  (FieldSet.readable.difference p.dirty).insert .principal

/-- The snapshot with the attributes that were read, but for the name. -/
def refresh (p : Principal) (r : Record) : Principal :=
  { p with record := p.record.merge r (p.fieldsToRead.erase .principal) }

/-- After its record was read. -/
def found (p : Principal) (r : Record) : Principal :=
  { p.refresh r with presence := .present, loaded := true }

/-! ## Committing changes -/

/-- The fields that a request to create the principal carries. -/
def creationFields (p : Principal) : FieldSet := (p.dirty.insert .principal).forCreate

/-- With a password to create it with: the staged one, or else a random one. -/
def withPassword (p : Principal) (g : PasswordGenerator) (e : Entropy) : Principal :=
  if p.secret.isPending then p else p.randomizePassword g e

/-- After the service created it. What the service put into the fields that
were not sent is not known. -/
def created (p : Principal) : Principal :=
  { p with
    id := p.name, pendingName := none, secret := p.secret.erase, dirty := .empty,
    presence := .present, loaded := false }

/-- After the service changed its password. -/
def passwordChanged (p : Principal) : Principal :=
  { p with secret := p.secret.erase, loaded := false }

/-- After the service renamed it. -/
def renamed (p : Principal) : Principal :=
  { p with id := p.name, pendingName := none, dirty := p.dirty.erase .principal, loaded := false }

/-- After the service took over its fields. -/
def modified (p : Principal) : Principal := { p with dirty := .empty, loaded := false }

/-- After the service deleted it. A staged password stays. -/
def deleted (p : Principal) : Principal :=
  { p with
    pendingName := none, record := .blank, dirty := .empty, presence := .absent, loaded := false }

/-! ## Description -/

/-- A principal as a description shows it. -/
def inspect (p : Principal) : String :=
  Text.inspectStruct "Principal"
    [("id", p.id.inspect), ("pending_name", Text.inspectOption (p.pendingName.map Name.inspect)),
      ("presence", p.presence.text), ("loaded", Text.inspectBool p.loaded),
      ("dirty", p.dirty.inspect)] true

end Principal

end RealmAdmin
