/-
RealmAdmin.Session — an authenticated session with the service.

A session holds the service that was opened for its client, and what was
resolved on the way: the realm, and the server's host and port. Setting one
up resolves everything first, opens the service once, and then tries it out
with one query of the client's privileges. Names without a realm are in the
session's.
-/
import RealmAdmin.Config.Endpoint
import RealmAdmin.Secret

namespace RealmAdmin

/-! ## Credentials -/

/-- What a session authenticates with. -/
inductive Credentials where
  | password (secret : Secret)
  /-- A credential cache; without a name, the settings' or the default one. -/
  | cache (name : Option String)
  deriving DecidableEq

/-- Credentials as a description shows them, without a password. -/
def Credentials.inspect : Credentials → String
  | .password _ => "Password(<redacted>)"
  | .cache name => "CredentialCache(" ++ Text.inspectOption (name.map Text.quoted) ++ ")"

/-- A cache's name with its type, which is that of files unless the name has
one. -/
def qualifyCache (name : String) : String :=
  if ':' ∈ name.toList then name else "FILE:" ++ name

/-! ## Sessions -/

structure Session (σ : Type) where
  service : Service σ
  client : Name
  realm : String
  host : String
  port : UInt16

namespace Session

variable {σ : Type}

/-- The client and the service that the credentials open. -/
def authenticate (c : Config) (a : Authenticator σ) (params : SessionParams) :
    Credentials → Remote σ (Name × Service σ)
  | .password secret => do
    let client ← c.resolveClient params.realm a
    return (client, ← Remote.call (a.openWithPassword client secret.bytes params))
  | .cache name => do
    let cache := qualifyCache ((name.or c.cache).getD a.defaultCache)
    let client ← Remote.call (a.cachePrincipal cache)
    return (client, ← Remote.call (a.openWithCache cache params))

/-- Set up a session. -/
def establish (c : Config) (a : Authenticator σ) (credentials : Credentials) :
    Remote σ (Session σ) := do
  let realm ← Remote.ofExcept c.resolveRealm
  let params ← Remote.ofExcept (c.resolveParams realm)
  let (client, service) ← authenticate c a params credentials
  let _ ← service.request .privileges
  return ⟨service, client, realm, params.adminServer, params.port⟩

/-! ## Names -/

/-- Read a name, in the session's realm unless it has its own. -/
def parseName (s : Session σ) (text : String) : Except Failure Name := Name.parse text s.realm

/-- The template principal of the session's realm. -/
def template (s : Session σ) : Except Failure Name := Name.template s.realm

/-! ## Requests -/

def fetch (s : Session σ) (name : Name) (fields : FieldSet) : Remote σ Record :=
  s.service.request (.get name fields)

def create (s : Session σ) (record : Record) (fields : FieldSet) (password : Secret) :
    Remote σ Unit :=
  s.service.request (.create record fields password.bytes)

def modify (s : Session σ) (record : Record) (fields : FieldSet) : Remote σ Unit :=
  s.service.request (.modify record fields)

def rename (s : Session σ) (source target : Name) : Remote σ Unit :=
  s.service.request (.rename source target)

def changePassword (s : Session σ) (name : Name) (password : Secret) : Remote σ Unit :=
  s.service.request (.changePassword name password.bytes)

def delete (s : Session σ) (name : Name) : Remote σ Unit := s.service.request (.delete name)

def list (s : Session σ) (filter : String) : Remote σ (List String) :=
  s.service.request (.list filter)

def privileges (s : Session σ) : Remote σ Privileges := s.service.request .privileges

/-- The record of a principal that the service may not know. -/
def fetch? (s : Session σ) (name : Name) (fields : FieldSet) : Remote σ (Option Record) :=
  tryCatch (some <$> s.fetch name fields) fun f =>
    if f.isUnknownPrincipal then pure none else throw f

/-- A session as a description shows it. -/
def inspect (s : Session σ) : String :=
  Text.inspectStruct "Session"
    [("client", s.client.inspect), ("realm", Text.quoted s.realm), ("host", Text.quoted s.host),
      ("port", toString s.port.toNat)] true

end Session

end RealmAdmin
