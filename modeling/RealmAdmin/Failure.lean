/-
RealmAdmin.Failure — what went wrong, in terms a caller can match on.

A `Failure` keeps the status it came from and the `Cause` that status has.
`Failure.ofStatus` is the one place where a status becomes a failure: it
looks the status up in `Cause.table`, and a status that the table does not
name has the cause `generic`. A nonzero status therefore always has exactly
one cause, and the status itself is never lost.
-/
import RealmAdmin.Status

namespace RealmAdmin

/-! ## Causes -/

/-- The operation whose privilege was missing. `any` stands for a service
that did not say which privilege was lacking. -/
inductive Operation where
  | any
  | get
  | add
  | modify
  | delete
  | list
  | changePassword
  deriving DecidableEq

/-- Why no session could be set up with the parameters at hand. -/
inductive ConfigurationFault where
  | serverParams
  | clientParams
  | missingParams
  | badServer
  | database
  deriving DecidableEq

/-- Why the session with the service failed. -/
inductive ConnectionFault where
  | rpc
  | noServer
  | notInitialized
  | alreadyInitialized
  | badPassword
  | badServerHandle
  | noCredentials
  deriving DecidableEq

/-- What was wrong with a request's parameters. -/
inductive ParameterFault where
  | alreadyExists
  | unknownPrincipal
  | unknownPolicy
  | badMask
  | badClass
  | badLength
  | badPolicy
  | badPrincipal
  | badAuxAttributes
  | badHistory
  | badMinPasswordLife
  | ambiguousName
  | policyInUse
  | protectedPrincipal
  | badTaggedData
  | badHistoryKey
  | noRenameSalt
  | securePrincipalMissing
  deriving DecidableEq

/-- Why the service refused a password. -/
inductive PasswordFault where
  | tooShort
  | tooFewClasses
  | inDictionary
  | reused
  | tooSoon
  deriving DecidableEq

/-- Which of the two versions did not match. -/
inductive VersionFault where
  | struct
  | api
  deriving DecidableEq

/-- The cause of a failure: its category, and the kind within it. -/
inductive Cause where
  | authorization (missing : Operation)
  | configuration (fault : ConfigurationFault)
  | connection (fault : ConnectionFault)
  | badParameter (fault : ParameterFault)
  | passwordQuality (fault : PasswordFault)
  | versionMismatch (fault : VersionFault)
  | generic
  deriving DecidableEq

/-! ## Texts -/

def Operation.text : Operation → String
  | .any => "perform this operation"
  | .get => "get principals"
  | .add => "add principals"
  | .modify => "modify principals"
  | .delete => "delete principals"
  | .list => "list principals"
  | .changePassword => "change passwords"

def ConfigurationFault.text : ConfigurationFault → String
  | .serverParams => "bad server parameters"
  | .clientParams => "bad client parameters"
  | .missingParams => "missing required configuration"
  | .badServer => "no admin server for realm"
  | .database => "principal database unavailable"

def ConnectionFault.text : ConnectionFault → String
  | .rpc => "communication failure with server"
  | .noServer => "server unreachable"
  | .notInitialized => "connection not initialized"
  | .alreadyInitialized => "connection already initialized"
  | .badPassword => "incorrect password"
  | .badServerHandle => "invalid server handle"
  | .noCredentials => "no credentials found"

def ParameterFault.text : ParameterFault → String
  | .alreadyExists => "principal already exists"
  | .unknownPrincipal => "principal does not exist"
  | .unknownPolicy => "policy does not exist"
  | .badMask => "invalid field mask"
  | .badClass => "invalid character class"
  | .badLength => "invalid password length"
  | .badPolicy => "invalid policy name"
  | .badPrincipal => "malformed principal name"
  | .badAuxAttributes => "invalid auxiliary attributes"
  | .badHistory => "invalid password history count"
  | .badMinPasswordLife => "invalid minimum password lifetime"
  | .ambiguousName => "name matches more than one principal"
  | .policyInUse => "policy is in use"
  | .protectedPrincipal => "principal is protected"
  | .badTaggedData => "invalid tagged data type"
  | .badHistoryKey => "password history key mismatch"
  | .noRenameSalt => "principal keys cannot be renamed"
  | .securePrincipalMissing => "required secure principal missing"

def PasswordFault.text : PasswordFault → String
  | .tooShort => "password is too short"
  | .tooFewClasses => "password uses too few character classes"
  | .inDictionary => "password is in the dictionary"
  | .reused => "password was used before"
  | .tooSoon => "password changed too recently"

def VersionFault.text : VersionFault → String
  | .struct => "structure version"
  | .api => "API version"

/-- The text of the kind within the category; a generic failure has none. -/
def Cause.text? : Cause → Option String
  | .authorization missing => some missing.text
  | .configuration fault => some fault.text
  | .connection fault => some fault.text
  | .badParameter fault => some fault.text
  | .passwordQuality fault => some fault.text
  | .versionMismatch fault => some fault.text
  | .generic => none

/-- A cause in words, category first. -/
def Cause.message : Cause → String
  | .authorization missing => "Not authorized to " ++ missing.text
  | .configuration fault => "Configuration error: " ++ fault.text
  | .connection fault => "Connection error: " ++ fault.text
  | .badParameter fault => "Bad parameter: " ++ fault.text
  | .passwordQuality fault => "Password rejected: " ++ fault.text
  | .versionMismatch fault => "Version mismatch: " ++ fault.text
  | .generic => "Administration failure"

/-! ## From statuses to causes -/

/-- The status by which the service reports that the privilege for this
operation is missing. -/
def Operation.status : Operation → Status
  | .any => .authInsufficient
  | .get => .authGet
  | .add => .authAdd
  | .modify => .authModify
  | .delete => .authDelete
  | .list => .authList
  | .changePassword => .authChangePassword

/-- Every status that has a cause of its own, with that cause. -/
def Cause.table : List (Status × Cause) := [
  (.authInsufficient, .authorization .any),
  (.authGet, .authorization .get),
  (.authAdd, .authorization .add),
  (.authModify, .authorization .modify),
  (.authDelete, .authorization .delete),
  (.authList, .authorization .list),
  (.authChangePassword, .authorization .changePassword),
  (.badServerParams, .configuration .serverParams),
  (.badClientParams, .configuration .clientParams),
  (.missingParams, .configuration .missingParams),
  (.noDefaultRealm, .configuration .missingParams),
  (.badServerName, .configuration .badServer),
  (.realmUnknown, .configuration .badServer),
  (.badDatabase, .configuration .database),
  (.rpcError, .connection .rpc),
  (.noServer, .connection .noServer),
  (.notInitialized, .connection .notInitialized),
  (.alreadyInitialized, .connection .alreadyInitialized),
  (.badPassword, .connection .badPassword),
  (.badServerHandle, .connection .badServerHandle),
  (.noCacheFile, .connection .noCredentials),
  (.cacheNotFound, .connection .noCredentials),
  (.duplicate, .badParameter .alreadyExists),
  (.unknownPrincipal, .badParameter .unknownPrincipal),
  (.unknownPolicy, .badParameter .unknownPolicy),
  (.badMask, .badParameter .badMask),
  (.badClass, .badParameter .badClass),
  (.badLength, .badParameter .badLength),
  (.badPolicy, .badParameter .badPolicy),
  (.badPrincipal, .badParameter .badPrincipal),
  (.malformedName, .badParameter .badPrincipal),
  (.illegalCharacter, .badParameter .badPrincipal),
  (.badAuxAttributes, .badParameter .badAuxAttributes),
  (.badHistory, .badParameter .badHistory),
  (.badMinPasswordLife, .badParameter .badMinPasswordLife),
  (.ambiguousKey, .badParameter .ambiguousName),
  (.policyInUse, .badParameter .policyInUse),
  (.protectedPrincipal, .badParameter .protectedPrincipal),
  (.badTaggedData, .badParameter .badTaggedData),
  (.badHistoryKey, .badParameter .badHistoryKey),
  (.noRenameSalt, .badParameter .noRenameSalt),
  (.securePrincipalMissing, .badParameter .securePrincipalMissing),
  (.passwordTooShort, .passwordQuality .tooShort),
  (.passwordClasses, .passwordQuality .tooFewClasses),
  (.passwordInDictionary, .passwordQuality .inDictionary),
  (.passwordReused, .passwordQuality .reused),
  (.passwordTooSoon, .passwordQuality .tooSoon),
  (.badStructVersion, .versionMismatch .struct),
  (.oldStructVersion, .versionMismatch .struct),
  (.newStructVersion, .versionMismatch .struct),
  (.badApiVersion, .versionMismatch .api),
  (.oldLibraryApiVersion, .versionMismatch .api),
  (.oldServerApiVersion, .versionMismatch .api),
  (.newLibraryApiVersion, .versionMismatch .api),
  (.newServerApiVersion, .versionMismatch .api)]

/-- The cause behind a status; a status outside the table is generic. -/
def Status.cause (s : Status) : Cause :=
  (Cause.table.lookup s).getD .generic

/-- A failed operation: the cause a caller matches on, and the status that
reported it. -/
structure Failure where
  cause : Cause
  status : Status
  deriving DecidableEq

namespace Failure

/-- The failure that a status reports. -/
def ofStatus (s : Status) : Failure := ⟨s.cause, s⟩

/-- The privilege for an operation is missing. -/
def unauthorized (missing : Operation) : Failure :=
  ⟨.authorization missing, missing.status⟩

def unknownPrincipal : Failure := ofStatus .unknownPrincipal

def alreadyExists : Failure := ofStatus .duplicate

def ambiguousName : Failure := ofStatus .ambiguousKey

def malformedName : Failure := ofStatus .malformedName

def badClass : Failure := ofStatus .badClass

/-- Whether the failure says that the principal is not there. -/
def isUnknownPrincipal (f : Failure) : Bool :=
  f.cause == .badParameter .unknownPrincipal

/-- The full text of a failure: its cause in words, then its status. -/
def message (f : Failure) : String :=
  f.cause.message ++ " (status " ++ toString f.status.code ++ ")"

end Failure

/-- A status as an outcome: success, or the failure it reports. -/
def Status.check (s : Status) : Except Failure Unit :=
  if s.isSuccess then .ok () else .error (.ofStatus s)

end RealmAdmin
