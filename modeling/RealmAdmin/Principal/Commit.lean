/-
RealmAdmin.Principal.Commit — carrying out the staged changes.

A principal that the service does not have is created, in one request. Of
one that it has, the password is changed first, under the name it has; then
it is renamed; then the other fields are written, under the new name. Each
step takes its change off the stage as soon as the service has carried it
out, so a commit that fails can be repeated and goes on where it stopped.
-/
import RealmAdmin.Principal.Load

namespace RealmAdmin.Principal

open Work

variable {σ : Type}

/-- Create the principal. Where no password is staged for it, a random one is
staged first, and stays staged if the service refuses the request. -/
def commitCreation (s : Session σ) (g : PasswordGenerator) (e : Entropy) : Work σ Unit := do
  change (·.withPassword g e)
  let p ← look
  if let some secret := p.secret.pending? then
    ask (s.create { p.record with principal := some p.name } p.creationFields secret)
  change created

/-- Change the password, if one is staged. -/
def commitPassword (s : Session σ) : Work σ Unit := do
  let p ← look
  if let some secret := p.secret.pending? then
    ask (s.changePassword p.id secret)
    change passwordChanged

/-- Rename the principal, if that is staged. -/
def commitName (s : Session σ) : Work σ Unit := do
  let p ← look
  if .principal ∈ p.dirty then
    if let some target := p.pendingName then
      ask (s.rename p.id target)
    change renamed

/-- Write the fields that are dirty. -/
def commitFields (s : Session σ) : Work σ Unit := do
  let p ← look
  let fields := p.dirty.forModify
  if fields.isEmpty then change ({ · with dirty := .empty })
  else
    ask (s.modify { p.record with principal := some p.id } fields)
    change modified

/-- Carry out every staged change. -/
def commit (s : Session σ) (g : PasswordGenerator) (e : Entropy) : Work σ Unit := do
  if ← isStored s then
    commitPassword s
    commitName s
    commitFields s
  else commitCreation s g e

end RealmAdmin.Principal
