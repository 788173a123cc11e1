/-
RealmAdmin.Config — the settings that a connection is made from.

Settings come from the caller and from the Kerberos library's own
configuration: the default realm, and an admin server for each realm. The
classes of generated passwords belong to them too. `Config.validate` finds
the settings that could never work.
-/
import RealmAdmin.Password.Class
import RealmAdmin.TextMap

namespace RealmAdmin

/-- The settings of a connection. What is absent is left to the library's
defaults; an empty text counts as absent where a value is looked for. -/
structure Config where
  /-- The client principal; its instance is always `admin`. -/
  client : Option String := none
  realm : Option String := none
  /-- The admin server, as `host` or `host:port`. -/
  adminServer : Option String := none
  port : Option UInt16 := none
  /-- The credential cache, as `TYPE:residual`. -/
  cache : Option String := none
  defaultRealm : Option String := none
  /-- The admin server of each realm that has an entry. -/
  realmServers : TextMap (Option String) := .empty
  classes : List ClassSettings := ClassSettings.defaults

/-- Why no configuration could be had. -/
inductive ConfigFault where
  /-- The file is not there, or is not text. -/
  | unreadable
  /-- The text is not a configuration. -/
  | malformed
  /-- The settings contradict themselves. -/
  | invalid (reason : String)
  deriving DecidableEq

namespace ConfigFault

/-- What is reported of a fault; a fault of the file has details of its own. -/
def message : ConfigFault → String
  | .unreadable => "Failed to read config file"
  | .malformed => "Failed to parse TOML"
  | .invalid reason => "Invalid configuration: " ++ reason

def zeroPort : ConfigFault := .invalid "session.port must be between 1 and 65535"

def noClasses : ConfigFault := .invalid "password.classes must not be empty"

def emptyCharset (frequency : UInt32) : ConfigFault :=
  .invalid ("password class with frequency " ++ toString frequency ++ " has an empty charset")

def notAscii (charset : String) : ConfigFault :=
  .invalid ("password class '" ++ charset ++ "' contains non-ASCII characters")

end ConfigFault

/-- What is wrong with the settings of a class: bytes to draw and nothing to
draw them from comes before characters that are no bytes. -/
def ClassSettings.validate (c : ClassSettings) : Except ConfigFault Unit :=
  if 0 < c.frequency ∧ c.charset.isEmpty then .error (.emptyCharset c.frequency)
  else if !c.isAscii then .error (.notAscii c.charset)
  else .ok ()

namespace Config

/-- A text setting, where an empty one counts as absent. -/
def given? (setting : Option String) : Option String := setting.filter (!·.isEmpty)

/-- The admin server that the library's configuration has for a realm. -/
def realmServer? (c : Config) (realm : String) : Option String :=
  (c.realmServers.get? realm).bind given?

/-- The first thing that is wrong with the settings. -/
def validate (c : Config) : Except ConfigFault Unit :=
  if c.port = some 0 then .error .zeroPort
  else if c.classes.isEmpty then .error .noClasses
  else c.classes.forM ClassSettings.validate

/-- A configuration file with every setting explained. -/
def exampleText : String := "# kadm5 Configuration
# Environment variables override these settings

[session]
# client = \"jdoe\"              # instance is forced to /admin
# realm = \"EXAMPLE.COM\"
# admin_server = \"kdc.example.com:749\"
# port = 749
# ccache = \"FILE:/tmp/krb5cc_1000\"

[libdefaults]
default_realm = \"EXAMPLE.COM\"

[realms.\"EXAMPLE.COM\"]
admin_server = \"kdc.example.com\"

[[password.classes]]
charset = \"abcdefghijklmnopqrstuvwxyz\"
frequency = 7

[[password.classes]]
charset = \"ABCDEFGHIJKLMNOPQRSTUVWXYZ\"
frequency = 2

[[password.classes]]
charset = \"@$%&*()-+=:,/<>1234567890\"
frequency = 1
"

end Config

end RealmAdmin
