/-
RealmAdmin.Realm.Serve — a realm as a service, and as its own Kerberos library.

Each call is logged first and then meets the fault that was laid for it, if
there is one. Apart from that the rules are the service's: a principal is
created once, a request carries only the fields that it may carry, and a
changed record is stamped with the time and with the client that changed it.
-/
import RealmAdmin.Realm
import RealmAdmin.Text.Glob

namespace RealmAdmin.Realm

/-- Log a call, and meet the fault that was laid for it. -/
def enter (call : Call) : Step Unit := do
  modify fun r => { r with calls := r.calls ++ [call] }
  match (← get).faults call.kind with
  | [] => return
  | fault :: rest =>
    modify fun r => { r with faults := fun k => if k = call.kind then rest else r.faults k }
    throw fault

/-- The entry of a principal. -/
def entry (name : Name) : Step Entry := do
  match (← get).principals.get? name.text with
  | some e => return e
  | none => throw .unknownPrincipal

/-- Store an entry under a name. -/
def store (name : Name) (e : Entry) : Step Unit :=
  modify fun r => { r with principals := r.principals.insert name.text e }

/-- Take the entry under a name out of the realm. -/
def remove (name : Name) : Step Unit :=
  modify fun r => { r with principals := r.principals.erase name.text }

/-- A record as its client leaves it behind. -/
def stamp (client : Name) (now : Int64) (r : Record) : Record :=
  { r with modifyTime := now, modifier := some client }

/-! ## Requests -/

/-- A record with the requested fields, and nothing in the others. -/
def serveGet (name : Name) (fields : FieldSet) : Step Record := do
  enter (.get name.text fields)
  return Record.blank.merge (← entry name).record fields

/-- Store a new principal. The request has to carry the name, and no field
that the service sets by itself. -/
def serveCreate (client : Name) (record : Record) (fields : FieldSet) (password : List UInt8) :
    Step Unit := do
  enter (.create ((record.principal.map Name.text).getD "") fields)
  if fields ≠ fields.forCreate then throw .badMask
  if .principal ∉ fields then throw .badMask
  if password.isEmpty then throw .passwordTooShort
  let now ← tick
  let new := { Record.blank with keyVersion := 1 }.merge record fields
  insertNew ⟨stamp client now { new with lastPasswordChange := now }, password⟩

/-- Change the fields that the request carries. A policy is either set or
cleared. -/
def serveModify (client : Name) (record : Record) (fields : FieldSet) : Step Unit := do
  match record.principal with
  | none => throw .badPrincipal
  | some name =>
    enter (.modify name.text fields)
    if fields ≠ fields.forModify then throw .badMask
    if .policy ∈ fields ∧ .policyClear ∈ fields then throw .badMask
    let now ← tick
    let e ← entry name
    let changed := e.record.merge record fields
    let changed := if .policyClear ∈ fields then { changed with policy := none } else changed
    store name { e with record := stamp client now changed }

/-- Move an entry to a name that is free. -/
def serveRename (client source target : Name) : Step Unit := do
  enter (.rename source.text target.text)
  if (← get).principals.contains target.text then throw .duplicate
  let e ← entry source
  remove source
  let now ← tick
  store target { e with record := stamp client now { e.record with principal := some target } }

/-- Replace a password, which makes a new key. -/
def serveChangePassword (client name : Name) (password : List UInt8) : Step Unit := do
  enter (.changePassword name.text)
  if password.isEmpty then throw .passwordTooShort
  let now ← tick
  let e ← entry name
  let record := {
    e.record with keyVersion := e.record.keyVersion + 1, lastPasswordChange := now }
  store name ⟨stamp client now record, password⟩

def serveDelete (name : Name) : Step Unit := do
  enter (.delete name.text)
  let _ ← entry name
  remove name

/-- A filter with its realm: one without an `@` is for this realm. -/
def fullFilter (r : Realm) (filter : String) : String :=
  if '@' ∈ filter.toList then filter else filter ++ "@" ++ r.name

/-- A filter with its realm, ready to match; it fails if it does not compile. -/
def compile (filter : String) : Step String := do
  let r ← get
  let full := r.fullFilter filter
  if r.compiles full then return full else throw .failure

/-- The stored names that match the filter, in order. -/
def serveList (filter : String) : Step (List String) := do
  enter (.list filter)
  let full ← compile filter
  return (← get).principalNames.filter (Text.globMatches full)

def servePrivileges : Step Privileges := do
  enter .privileges
  return (← get).privileges

/-- The realm as one client meets it. -/
def service (client : Name) : Service Realm where
  serve
    | .get name fields => serveGet name fields
    | .create record fields password => serveCreate client record fields password
    | .modify record fields => serveModify client record fields
    | .rename source target => serveRename client source target
    | .changePassword name password => serveChangePassword client name password
    | .delete name => serveDelete name
    | .list filter => serveList filter
    | .privileges => servePrivileges

/-! ## Opening -/

/-- The principal whose tickets a cache holds. -/
def cachePrincipal (cache : String) : Step Name := do
  match (← get).caches.get? cache with
  | some client => return client
  | none => throw .noCacheFile

/-- Refuse a session in another realm than this one. -/
def checkRealm (params : SessionParams) : Step Unit := do
  if params.realm ≠ (← get).name then throw .realmUnknown

/-- Hand out the service. -/
def opened (client : Name) (params : SessionParams) : Step (Service Realm) := do
  modify fun r => { r with lastParams := some params }
  return service client

def openWithPassword (client : Name) (password : List UInt8) (params : SessionParams) :
    Step (Service Realm) := do
  enter (.openWithPassword client.text)
  checkRealm params
  if ((← get).principals.get? client.text).any (·.password == password) then opened client params
  else throw .badPassword

def openWithCache (cache : String) (params : SessionParams) : Step (Service Realm) := do
  enter (.openWithCache cache)
  checkRealm params
  opened (← cachePrincipal cache) params

/-- The local default principal, which the realm may have none of. -/
def localPrincipal : Step Name := do
  match (← get).defaultPrincipal with
  | some name => return name
  | none => throw .cacheNotFound

/-- The realm in place of a Kerberos library. -/
def authenticator : Authenticator Realm where
  defaultPrincipal := localPrincipal
  defaultCache := "FILE:/tmp/krb5cc_memory"
  cachePrincipal := cachePrincipal
  openWithPassword := openWithPassword
  openWithCache := openWithCache

end RealmAdmin.Realm
