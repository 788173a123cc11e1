/-
RealmAdmin.Status — the numeric statuses that the administration service
and the Kerberos library answer with.

A status is a signed 32-bit word; zero is success. The named statuses are
the administration service's own table (43787520 to 43787568, in the order
of the table), the Kerberos library statuses that a session can meet, the
system's out-of-memory status, and one status that is raised on this side
of the wire only, when a filter names more than one principal.
-/

namespace RealmAdmin

/-- A status word as the service or the library returns it. -/
structure Status where
  code : Int32
  deriving DecidableEq

namespace Status

/-- Zero is the one status that reports success. -/
def success : Status := ⟨0⟩

def isSuccess (s : Status) : Bool := s == success

/-! ## The administration service's table -/

def failure : Status := ⟨43787520⟩
def authGet : Status := ⟨43787521⟩
def authAdd : Status := ⟨43787522⟩
def authModify : Status := ⟨43787523⟩
def authDelete : Status := ⟨43787524⟩
def authInsufficient : Status := ⟨43787525⟩
def badDatabase : Status := ⟨43787526⟩
def duplicate : Status := ⟨43787527⟩
def rpcError : Status := ⟨43787528⟩
def noServer : Status := ⟨43787529⟩
def badHistoryKey : Status := ⟨43787530⟩
def notInitialized : Status := ⟨43787531⟩
def unknownPrincipal : Status := ⟨43787532⟩
def unknownPolicy : Status := ⟨43787533⟩
def badMask : Status := ⟨43787534⟩
def badClass : Status := ⟨43787535⟩
def badLength : Status := ⟨43787536⟩
def badPolicy : Status := ⟨43787537⟩
def badPrincipal : Status := ⟨43787538⟩
def badAuxAttributes : Status := ⟨43787539⟩
def badHistory : Status := ⟨43787540⟩
def badMinPasswordLife : Status := ⟨43787541⟩
def passwordTooShort : Status := ⟨43787542⟩
def passwordClasses : Status := ⟨43787543⟩
def passwordInDictionary : Status := ⟨43787544⟩
def passwordReused : Status := ⟨43787545⟩
def passwordTooSoon : Status := ⟨43787546⟩
def policyInUse : Status := ⟨43787547⟩
def alreadyInitialized : Status := ⟨43787548⟩
def badPassword : Status := ⟨43787549⟩
def protectedPrincipal : Status := ⟨43787550⟩
def badServerHandle : Status := ⟨43787551⟩
def badStructVersion : Status := ⟨43787552⟩
def oldStructVersion : Status := ⟨43787553⟩
def newStructVersion : Status := ⟨43787554⟩
def badApiVersion : Status := ⟨43787555⟩
def oldLibraryApiVersion : Status := ⟨43787556⟩
def oldServerApiVersion : Status := ⟨43787557⟩
def newLibraryApiVersion : Status := ⟨43787558⟩
def newServerApiVersion : Status := ⟨43787559⟩
def securePrincipalMissing : Status := ⟨43787560⟩
def noRenameSalt : Status := ⟨43787561⟩
def badClientParams : Status := ⟨43787562⟩
def badServerParams : Status := ⟨43787563⟩
def authList : Status := ⟨43787564⟩
def authChangePassword : Status := ⟨43787565⟩
def badTaggedData : Status := ⟨43787566⟩
def missingParams : Status := ⟨43787567⟩
def badServerName : Status := ⟨43787568⟩

/-! ## Statuses from elsewhere -/

/-- Raised on this side of the wire when a filter names several principals. -/
def ambiguousKey : Status := ⟨43500000⟩

def illegalCharacter : Status := ⟨-1765328251⟩
def malformedName : Status := ⟨-1765328250⟩
def cacheNotFound : Status := ⟨-1765328243⟩
def noCacheFile : Status := ⟨-1765328189⟩
def noDefaultRealm : Status := ⟨-1765328160⟩
def realmUnknown : Status := ⟨-1765328230⟩
def outOfMemory : Status := ⟨12⟩

end Status

end RealmAdmin
