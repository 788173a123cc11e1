/-
RealmAdmin.Config.Load — where a configuration comes from.

A configuration is read from a file, if one of the places to look has one,
and then overridden by environment variables. The files and the variables
are given as functions. A file that is there has to be right by itself: what
the environment overrides later is judged all the same.
-/
import RealmAdmin.Config.Data
import RealmAdmin.Toml.Document
import RealmAdmin.Text.Numeral

namespace RealmAdmin.Config

/-- The configuration that a text holds, valid or not. -/
def ofText (text : String) : Except ConfigFault Config :=
  match (Toml.parse text).bind ofValue? with
  | some c => .ok c
  | none => .error .malformed

/-- The configuration in a file's bytes; there are none where the file is
not there. -/
def ofFile (content : Option ByteArray) : Except ConfigFault Config :=
  match content.bind String.fromUTF8? with
  | some text => do
    let c ← ofText text
    c.validate
    return c
  | none => .error .unreadable

/-- The places to look for a file that nobody named, in order. -/
def searchPaths : List String := ["kadm5.toml", "./config/kadm5.toml", "/etc/kadm5/kadm5.toml"]

/-- The first file that is there: the caller's, the environment's, or one in
the usual places. -/
def locate (explicit : Option String) (files : String → Option ByteArray)
    (env : String → Option String) : Option String :=
  (explicit.toList ++ (env "KADM5_CONFIG").toList ++ searchPaths).find? fun path =>
    (files path).isSome

/-- The settings with those that the environment has put in their place. A
port that is no port is passed over. -/
def override (c : Config) (env : String → Option String) : Config where
  client := (env "KADM5_CLIENT").or c.client
  realm := (env "KADM5_REALM").or c.realm
  adminServer := (env "KADM5_ADMIN_SERVER").or c.adminServer
  port := ((env "KADM5_PORT").bind Text.readPort?).or c.port
  cache := (env "KRB5CCNAME").or c.cache
  defaultRealm := (env "KADM5_DEFAULT_REALM").or c.defaultRealm
  realmServers := c.realmServers
  classes := c.classes

/-- The configuration to work with, from its file and the environment. -/
def load (explicit : Option String) (files : String → Option ByteArray)
    (env : String → Option String) : Except ConfigFault Config := do
  let stored ← match locate explicit files env with
    | some path => ofFile (files path)
    | none => .ok {}
  let c := stored.override env
  c.validate
  return c

end RealmAdmin.Config
