/-
RealmAdmin.Principal.Load — reading a principal when something is asked of it.

`load` reads what has no staged change, once until the next commit. A
principal that the service does not have takes the values of the realm's
template instead, if the realm has one. Every question about the record
loads it first.
-/
import RealmAdmin.Principal.Work

namespace RealmAdmin.Principal

open Work

variable {σ : Type}

/-! ## Loading -/

/-- Take the values of the realm's template, or leave those that are there
where the realm has none. -/
def loadTemplate (s : Session σ) : Work σ Unit := do
  let p ← look
  let template ← ask (Remote.ofExcept (Name.template p.id.realm))
  if let some defaults ← ask (s.fetch? template p.fieldsToRead) then
    change (·.refresh defaults)
  change ({ · with loaded := true })

/-- Read the principal, unless that was done since the last commit. -/
def load (s : Session σ) : Work σ Unit := do
  let p ← look
  if p.loaded then return
  let record ← if p.presence = .absent then pure none else ask (s.fetch? p.id p.fieldsToRead)
  match record with
  | some r => change (·.found r)
  | none =>
    change ({ · with presence := .absent })
    loadTemplate s

/-- Whether the service has the principal. -/
def isStored (s : Session σ) : Work σ Bool := do
  load s
  return (← look).presence = .present

/-! ## Asking about the record -/

/-- Something about the record, once it is loaded. -/
def ofRecord {α : Type} (s : Session σ) (view : Record → α) : Work σ α := do
  load s
  return view (← look).record

def expireTime (s : Session σ) : Work σ Moment := ofRecord s fun r => .ofExpiry r.expireTime

def passwordExpiration (s : Session σ) : Work σ Moment :=
  ofRecord s fun r => .ofExpiry r.passwordExpiration

def maxLifetime (s : Session σ) : Work σ Lifetime := ofRecord s fun r => .ofSeconds r.maxLife

def maxRenewableLifetime (s : Session σ) : Work σ Lifetime :=
  ofRecord s fun r => .ofSeconds r.maxRenewableLife

def attributes (s : Session σ) : Work σ Flags := ofRecord s (·.attributes)

def policy (s : Session σ) : Work σ (Option String) := ofRecord s (·.policy)

def lastPasswordChange (s : Session σ) : Work σ Moment :=
  ofRecord s fun r => .ofHistory r.lastPasswordChange

def modifyTime (s : Session σ) : Work σ Moment := ofRecord s fun r => .ofHistory r.modifyTime

def lastSuccess (s : Session σ) : Work σ Moment := ofRecord s fun r => .ofHistory r.lastSuccess

def lastFailure (s : Session σ) : Work σ Moment := ofRecord s fun r => .ofHistory r.lastFailure

def failedAttempts (s : Session σ) : Work σ UInt32 := ofRecord s (·.failedAttempts)

def keyVersion (s : Session σ) : Work σ UInt32 := ofRecord s (·.keyVersion)

/-- The principal that last modified this one; a principal that the service
does not have was modified by none. -/
def modifier (s : Session σ) : Work σ (Option Principal) := do
  if ← isStored s then return (← look).record.modifier.map existing
  else return none

end RealmAdmin.Principal
