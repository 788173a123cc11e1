/-
RealmAdmin.Config.Data — settings as data.

The settings stand in four sections: the session's, the library's defaults,
the realms and the password classes. On reading, a section and a member may
be missing, and members with other names are passed over; only a class has
to be complete. On writing everything is there.
-/
import RealmAdmin.Config
import RealmAdmin.Value

namespace RealmAdmin.Config

/-! ## Reading -/

/-- The members of a section, all missing where the section is. -/
def section? (names : List String) : Option Value → Option Value.Members
  | some v => v.members? names
  | none => some fun _ => none

/-- The settings of a class, both of which have to be there. -/
def class? (v : Value) : Option ClassSettings := do
  let members ← v.members? ["charset", "frequency"]
  let charset ← Value.required Value.text? (members "charset")
  let frequency ← Value.required Value.uint32? (members "frequency")
  return ⟨charset, frequency⟩

/-- The classes of generated passwords. -/
def classes? : Option Value → Option (List ClassSettings)
  | some v => do (← v.list?).mapM class?
  | none => some ClassSettings.defaults

/-- One realm's entry: its name and its admin server. -/
def realmEntry? (entry : String × Value) : Option (String × Option String) := do
  let members ← entry.2.members? ["admin_server"]
  return (entry.1, ← Value.optional Value.text? (members "admin_server"))

/-- The realms, a table of entries. -/
def realms? : Option Value → Option (TextMap (Option String))
  | some (.table entries) => do return TextMap.ofList (← entries.mapM realmEntry?)
  | some _ => none
  | none => some .empty

/-- The settings that a value holds. -/
def ofValue? (v : Value) : Option Config := do
  let sections ← v.members? ["session", "libdefaults", "realms", "password"]
  let session ← section? ["client", "realm", "admin_server", "port", "ccache"] (sections "session")
  let client ← Value.optional Value.text? (session "client")
  let realm ← Value.optional Value.text? (session "realm")
  let adminServer ← Value.optional Value.text? (session "admin_server")
  let port ← Value.optional Value.uint16? (session "port")
  let cache ← Value.optional Value.text? (session "ccache")
  let library ← section? ["default_realm"] (sections "libdefaults")
  let defaultRealm ← Value.optional Value.text? (library "default_realm")
  let realmServers ← realms? (sections "realms")
  let password ← section? ["classes"] (sections "password")
  let classes ← classes? (password "classes")
  return { client, realm, adminServer, port, cache, defaultRealm, realmServers, classes }

/-! ## Writing -/

/-- An optional port, null when absent. -/
def portValue : Option UInt16 → Value
  | some p => .integer p.toNat
  | none => .null

def classValue (c : ClassSettings) : Value :=
  .table [("charset", .text c.charset), ("frequency", .ofUInt32 c.frequency)]

/-- Settings as a table of their four sections. -/
def toValue (c : Config) : Value := .table [
  ("session", .table [
    ("client", .ofText? c.client), ("realm", .ofText? c.realm),
    ("admin_server", .ofText? c.adminServer), ("port", portValue c.port),
    ("ccache", .ofText? c.cache)]),
  ("libdefaults", .table [("default_realm", .ofText? c.defaultRealm)]),
  ("realms", .table (c.realmServers.entries.map fun e =>
    (e.1, .table [("admin_server", .ofText? e.2)]))),
  ("password", .table [("classes", .list (c.classes.map classValue))])]

end RealmAdmin.Config
