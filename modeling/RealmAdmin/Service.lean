/-
RealmAdmin.Service — what this library needs of the outside world.

A `Service` serves the requests of one authenticated client, each with an
answer of the type that the request has, or with a status. An
`Authenticator` opens services: it stands for the Kerberos library, with its
credential caches and its default principal. Both work on a state `σ` that
stands for everything outside, and a request that is refused may change it
all the same.
-/
import RealmAdmin.Failure
import RealmAdmin.Privileges
import RealmAdmin.Record

namespace RealmAdmin

/-- A request to the administration service. -/
inductive Request where
  /-- Read some fields of a principal. -/
  | get (name : Name) (fields : FieldSet)
  /-- Create the record's principal from some fields of the record. -/
  | create (record : Record) (fields : FieldSet) (password : List UInt8)
  /-- Write some fields of the record's principal. -/
  | modify (record : Record) (fields : FieldSet)
  | rename (source target : Name)
  | changePassword (name : Name) (password : List UInt8)
  | delete (name : Name)
  /-- Name the principals that match a filter; a filter without a realm is
  for the service's own. -/
  | list (filter : String)
  /-- Say what the client may do. -/
  | privileges
  deriving DecidableEq

/-- The type of a request's answer. -/
abbrev Request.Answer : Request → Type
  | .get .. => Record
  | .list _ => List String
  | .privileges => Privileges
  | .create .. | .modify .. | .rename .. | .changePassword .. | .delete _ => Unit

/-- The service as one authenticated client meets it. -/
structure Service (σ : Type) where
  serve : (q : Request) → EStateM Status σ q.Answer

/-- What a session is opened with: the realm, and the server that administers
it. -/
structure SessionParams where
  realm : String
  adminServer : String
  port : UInt16
  deriving DecidableEq

/-- The side of the Kerberos library. -/
structure Authenticator (σ : Type) where
  /-- The principal that the local user is taken to be. -/
  defaultPrincipal : EStateM Status σ Name
  /-- The name of the cache to use when none is named. -/
  defaultCache : String
  /-- The principal whose tickets a cache holds; it fails without the cache. -/
  cachePrincipal : (cache : String) → EStateM Status σ Name
  openWithPassword :
    (client : Name) → (password : List UInt8) → SessionParams → EStateM Status σ (Service σ)
  openWithCache : (cache : String) → SessionParams → EStateM Status σ (Service σ)

/-! ## Failures in place of statuses -/

/-- A computation with the outside world that fails with a cause. -/
abbrev Remote (σ : Type) := EStateM Failure σ

/-- A call of the outside world: its status becomes the failure it reports,
and the state is what the call left. -/
def Remote.call {σ α : Type} (x : EStateM Status σ α) : Remote σ α :=
  x.adaptExcept Failure.ofStatus

/-- The outcome of a pure check. -/
def Remote.ofExcept {σ α : Type} : Except Failure α → Remote σ α
  | .ok a => pure a
  | .error f => throw f

/-- Send a request. -/
def Service.request {σ : Type} (s : Service σ) (q : Request) : Remote σ q.Answer :=
  Remote.call (s.serve q)

end RealmAdmin
