/-
RealmAdmin.Connection — the entry point: privileges checked, principals found.

A connection is a session and a source of passwords. Before it does anything
it asks the service what the client may do, each time anew, because that can
change while the session lasts. An operation whose privilege is missing ends
there.
-/
import RealmAdmin.Principal.Commit

namespace RealmAdmin

structure Connection (σ : Type) where
  session : Session σ
  generator : PasswordGenerator

namespace Connection

variable {σ : Type}

/-- Connect with credentials. The classes of generated passwords are checked
before anything else. -/
def connect (config : Config) (a : Authenticator σ) (credentials : Credentials) :
    Remote σ (Connection σ) := do
  let generator ← Remote.ofExcept (PasswordGenerator.ofSettings config.classes)
  return ⟨← Session.establish config a credentials, generator⟩

/-! ## Privileges -/

def privileges (c : Connection σ) : Remote σ Privileges := c.session.privileges

/-- Whether the client has every one of the privileges at this moment. -/
def may (c : Connection σ) (needed : Privileges) : Remote σ Bool :=
  return (← c.privileges).contains needed

/-- Go on only with the privileges for an operation. -/
def require (c : Connection σ) (needed : Privileges) (operation : Operation) : Remote σ Unit := do
  if ← c.may needed then return
  else throw (.unauthorized operation)

/-! ## Principals -/

/-- The names that match a filter; a filter without a realm is for the
service's own. -/
def list (c : Connection σ) (filter : String) : Remote σ (List String) := do
  c.require .list .list
  c.session.list filter

/-- A principal to be created by its first commit. Its name may not be taken;
an empty password is none. -/
def create (c : Connection σ) (name : String) (password : Option String) : Remote σ Principal := do
  c.require .add .add
  let id ← Remote.ofExcept (c.session.parseName name)
  if !(← c.list id.text).isEmpty then throw .alreadyExists
  match password.filter (!·.isEmpty) with
  | some password => return (Principal.fresh id).setPassword (.ofText password)
  | none => return .fresh id

/-- The one principal that matches a filter. -/
def get (c : Connection σ) (filter : String) : Remote σ Principal := do
  c.require .get .get
  match ← c.list filter with
  | [] => throw .unknownPrincipal
  | [name] => return .existing (← Remote.ofExcept (c.session.parseName name))
  | _ => throw .ambiguousName

/-- Every principal that matches a filter. -/
def getAll (c : Connection σ) (filter : String) : Remote σ (List Principal) := do
  c.require .get .get
  let ids ← Remote.ofExcept ((← c.list filter).mapM c.session.parseName)
  return ids.map .existing

/-- Delete a principal under the name that the service knows it by. -/
def delete (c : Connection σ) : Work σ Unit := do
  Work.ask (c.require .delete .delete)
  Work.ask (c.session.delete (← Work.look).id)
  Work.change Principal.deleted

/-- A connection as a description shows it. -/
def inspect (c : Connection σ) : String :=
  Text.inspectStruct "Connection" [("session", c.session.inspect)] false

end Connection

end RealmAdmin
