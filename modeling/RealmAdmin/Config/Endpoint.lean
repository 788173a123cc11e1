/-
RealmAdmin.Config.Endpoint — which realm, server and port the settings mean.

The realm is the session's, or else the library's default. The admin server
is the session's, or else the one that the realm has an entry for; it is
written `host` or `host:port`, where the port follows the last colon. A port
written there comes before the session's port, and that one before the
port that administration services listen on by default.
-/
import RealmAdmin.Config
import RealmAdmin.Name.Syntax
import RealmAdmin.Service
import RealmAdmin.Text.Numeral

namespace RealmAdmin

/-- The parts of a text before and after its last colon. -/
def Text.splitAtLastColon : List Char → Option (List Char × List Char)
  | [] => none
  | c :: rest =>
    match splitAtLastColon rest with
    | some (before, after) => some (c :: before, after)
    | none => if c = ':' then some ([], rest) else none

namespace Config

/-- The port that administration services listen on by default. -/
def defaultPort : UInt16 := 749

def noServer : Failure := .ofStatus .badServerName

/-- The realm to work in. -/
def resolveRealm (c : Config) : Except Failure String :=
  match (given? c.realm).or (given? c.defaultRealm) with
  | some realm => .ok realm
  | none => .error (.ofStatus .noDefaultRealm)

/-- The admin server of a realm, as the settings write it. -/
def serverText? (c : Config) (realm : String) : Option String :=
  (given? c.adminServer).or (c.realmServer? realm)

/-- A written admin server as its host and, where there is one, its port. -/
def splitServer (server : String) : Except Failure (String × Option UInt16) :=
  match Text.splitAtLastColon server.toList with
  | none => .ok (server, none)
  | some (host, port) =>
    match Text.readPort? (String.ofList port) with
    | some p => if host.isEmpty ∨ p = 0 then .error noServer else .ok (String.ofList host, some p)
    | none => .error noServer

/-- The host that administers a realm. -/
def resolveHost (c : Config) (realm : String) : Except Failure String :=
  match c.serverText? realm with
  | some server => do return (← splitServer server).1
  | none => .error noServer

/-- The port written with the admin server, if there is one. -/
def serverPort? (c : Config) (realm : String) : Except Failure (Option UInt16) :=
  match c.serverText? realm with
  | some server => do return (← splitServer server).2
  | none => .ok none

/-- The port of a realm's admin server. -/
def resolvePort (c : Config) (realm : String) : Except Failure UInt16 := do
  let written ← c.serverPort? realm
  return (written.or (c.port.filter (0 < ·))).getD defaultPort

/-- What a session in a realm is opened with. -/
def resolveParams (c : Config) (realm : String) : Except Failure SessionParams := do
  return ⟨realm, ← c.resolveHost realm, ← c.resolvePort realm⟩

/-- The client of a session that is opened with a password: the settings' or
else the local user, always with the instance for administration. -/
def resolveClient {σ : Type} (c : Config) (realm : String) (a : Authenticator σ) : Remote σ Name := do
  let base ← match given? c.client with
    | some client => Remote.ofExcept (Name.parse client realm)
    | none => Remote.call a.defaultPrincipal
  return base.withInstance Name.adminInstance

end Config

end RealmAdmin
