/-
RealmAdmin.Principal.Work — working on a principal in the outside world.

What happens to a principal happens beside a service, and both are left as a
failure found them: a step that was taken before it stays taken. A local step
changes the principal alone, and a question to the service leaves it alone.
-/
import RealmAdmin.Principal

namespace RealmAdmin

/-- Work on a principal, beside the outside world. -/
abbrev Work (σ : Type) := EStateM Failure (Principal × σ)

namespace Work

variable {σ α : Type}

/-- The principal as it is now. -/
def look : Work σ Principal := return (← get).1

/-- Take a local step. -/
def change (step : Principal → Principal) : Work σ Unit := modify fun s => (step s.1, s.2)

/-- Deal with the outside world, which leaves the principal alone. -/
def ask (x : Remote σ α) : Work σ α := fun s =>
  match x s.2 with
  | .ok a outside => .ok a (s.1, outside)
  | .error f outside => .error f (s.1, outside)

end Work

/-- Stage another name, read in the session's realm unless it has its own. -/
def Principal.setName {σ : Type} (s : Session σ) (text : String) : Work σ Unit := do
  let name ← Work.ask (Remote.ofExcept (s.parseName text))
  Work.change (·.rename name)

end RealmAdmin
