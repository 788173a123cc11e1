/-
RealmAdmin.Proofs.Work — what comes of a piece of work, step by step.

Work runs from a principal and an outside state to an outcome. One equation
for each building block says which: a local step changes the principal alone,
a request hands the outside state to the service and turns a refusal into its
failure. `Session.run_fetch?` singles out the one status that is no failure:
`unknownPrincipal` is the only status whose failure says that the principal
is not there.
-/
import RealmAdmin.Connection

namespace RealmAdmin

variable {σ α : Type}

/-! ## The status of a missing principal -/

/-- One status alone reports that a principal is not there. -/
theorem Failure.isUnknownPrincipal_ofStatus {s : Status} :
    (Failure.ofStatus s).isUnknownPrincipal = true ↔ s = .unknownPrincipal := by
  constructor
  · intro h
    have hcause : (Cause.table.lookup s).getD .generic = .badParameter .unknownPrincipal := by
      simpa [isUnknownPrincipal, ofStatus, Status.cause] using h
    cases hs : Cause.table.lookup s with
    | none => rw [hs] at hcause; cases hcause
    | some c =>
      rw [hs] at hcause
      have hrow : ∀ x ∈ Cause.table, x.2 = .badParameter .unknownPrincipal →
          x.1 = .unknownPrincipal := by decide
      obtain ⟨before, after, htable, -⟩ := List.lookup_eq_some_iff.mp hs
      exact hrow (s, c) (by rw [htable]; simp) hcause
  · rintro rfl
    decide

/-! ## Outcomes -/

/-- The state that an outcome leaves, success or failure. -/
def stateOf {ε σ α : Type} : EStateM.Result ε σ α → σ
  | .ok _ s => s
  | .error _ s => s

@[simp] theorem stateOf_ok {ε σ α : Type} (a : α) (s : σ) :
    stateOf (.ok a s : EStateM.Result ε σ α) = s := rfl

@[simp] theorem stateOf_error {ε σ α : Type} (f : ε) (s : σ) :
    stateOf (.error f s : EStateM.Result ε σ α) = s := rfl

/-- The failure that an outcome ends in, if it does. -/
def failureOf {ε σ α : Type} : EStateM.Result ε σ α → Option ε
  | .ok .. => none
  | .error f _ => some f

@[simp] theorem failureOf_ok {ε σ α : Type} (a : α) (s : σ) :
    failureOf (.ok a s : EStateM.Result ε σ α) = none := rfl

@[simp] theorem failureOf_error {ε σ α : Type} (f : ε) (s : σ) :
    failureOf (.error f s : EStateM.Result ε σ α) = some f := rfl

/-- Whether an outcome is a success. -/
def succeeded {ε σ α : Type} : EStateM.Result ε σ α → Bool
  | .ok .. => true
  | .error .. => false

theorem eq_ok_of_succeeded {x : EStateM.Result Failure (Principal × σ) Unit}
    (h : succeeded x = true) : x = .ok () ((stateOf x).1, (stateOf x).2) := by
  cases x with
  | ok a s => rfl
  | error f s => cases h

/-- A success has an answer. -/
theorem exists_answer {x : EStateM.Result Failure (Principal × σ) α} (h : succeeded x = true) :
    ∃ a, x = .ok a ((stateOf x).1, (stateOf x).2) := by
  cases x with
  | ok a s => exact ⟨a, rfl⟩
  | error f s => cases h

@[simp] theorem run_map {ε σ α β : Type} (g : α → β) (x : EStateM ε σ α) (s : σ) :
    (g <$> x).run s =
      match x.run s with
      | .ok a s' => .ok (g a) s'
      | .error f s' => .error f s' := by
  simp only [EStateM.run, Functor.map, EStateM.map]
  cases x s <;> rfl

/-! ## Building blocks -/

@[simp] theorem ok_bind {ε α β : Type} (a : α) (f : α → Except ε β) :
    (Except.ok a >>= f) = f a := rfl

@[simp] theorem error_bind {ε α β : Type} (e : ε) (f : α → Except ε β) :
    (Except.error e >>= f) = .error e := rfl

@[simp] theorem Work.run_look (s : Principal × σ) :
    (Work.look : Work σ Principal).run s = .ok s.1 s := rfl

@[simp] theorem Work.run_change (step : Principal → Principal) (s : Principal × σ) :
    (Work.change step : Work σ Unit).run s = .ok () (step s.1, s.2) := rfl

theorem Work.run_ask (x : Remote σ α) (p : Principal) (w : σ) :
    (Work.ask x).run (p, w) =
      match x.run w with
      | .ok a w' => .ok a (p, w')
      | .error f w' => .error f (p, w') := rfl

@[simp] theorem Remote.run_ofExcept_ok (a : α) (w : σ) :
    (Remote.ofExcept (.ok a) : Remote σ α).run w = .ok a w := rfl

@[simp] theorem Remote.run_ofExcept_error (f : Failure) (w : σ) :
    (Remote.ofExcept (.error f) : Remote σ α).run w = .error f w := rfl

@[simp] theorem Remote.stateOf_ofExcept (x : Except Failure α) (w : σ) :
    stateOf ((Remote.ofExcept x).run w) = w := by
  cases x <;> rfl

theorem Remote.run_throw (f : Failure) (w : σ) : (throw f : Remote σ α).run w = .error f w := rfl

/-- Handling a failure goes on in the state that the failure left. -/
theorem Remote.run_tryCatch (x : Remote σ α) (handle : Failure → Remote σ α) (w : σ) :
    (tryCatch x handle).run w =
      match x.run w with
      | .ok a w' => .ok a w'
      | .error f w' => (handle f).run w' := by
  change EStateM.tryCatch x handle w = _
  delta EStateM.tryCatch EStateM.run
  dsimp only
  cases x w <;> rfl

/-! ## Requests -/

/-- A call of the outside world ends as it ends there, but for the failure that its
status becomes. -/
theorem Remote.run_call (x : EStateM Status σ α) (w : σ) :
    (Remote.call x).run w =
      match x.run w with
      | .ok a w' => .ok a w'
      | .error status w' => .error (.ofStatus status) w' := by
  rw [call, EStateM.run_adaptExcept]
  cases x.run w <;> rfl

theorem Service.run_request (S : Service σ) (q : Request) (w : σ) :
    (S.request q).run w =
      match (S.serve q).run w with
      | .ok a w' => .ok a w'
      | .error status w' => .error (.ofStatus status) w' := by
  rw [request, Remote.run_call]
  cases (S.serve q).run w <;> rfl

/-- A request on the way of some work. -/
theorem Work.run_ask_request (S : Service σ) (q : Request) (p : Principal) (w : σ) :
    (Work.ask (S.request q)).run (p, w) =
      match (S.serve q).run w with
      | .ok a w' => .ok a (p, w')
      | .error status w' => .error (.ofStatus status) (p, w') := by
  rw [Work.run_ask, Service.run_request]
  cases (S.serve q).run w <;> rfl

/-- A read that the service refuses because it does not know the principal
comes back empty. -/
theorem Session.run_fetch? (s : Session σ) (name : Name) (fields : FieldSet) (w : σ) :
    (s.fetch? name fields).run w =
      match (s.service.serve (.get name fields)).run w with
      | .ok r w' => .ok (some r) w'
      | .error status w' =>
        if status = .unknownPrincipal then .ok none w' else .error (.ofStatus status) w' := by
  rw [fetch?, Remote.run_tryCatch, run_map, fetch, Service.run_request]
  cases (s.service.serve (.get name fields)).run w with
  | ok r w' => rfl
  | error status w' =>
    by_cases hs : status = .unknownPrincipal
    · simp [hs, Failure.isUnknownPrincipal_ofStatus]
    · simp [hs, Failure.isUnknownPrincipal_ofStatus, Remote.run_throw]

/-- An operation goes on with the privileges that the service says the client
has at this moment. -/
theorem Connection.run_require (c : Connection σ) (needed : Privileges) (operation : Operation)
    (w : σ) : (c.require needed operation).run w =
      match (c.session.service.serve .privileges).run w with
      | .ok granted w' =>
        if granted.contains needed then .ok () w' else .error (.unauthorized operation) w'
      | .error status w' => .error (.ofStatus status) w' := by
  have hrun : (c.privileges).run w = _ := c.session.service.run_request .privileges w
  rw [require, may, EStateM.run_bind, EStateM.run_bind, hrun]
  cases (c.session.service.serve .privileges).run w with
  | error status w' => rfl
  | ok granted w' =>
    dsimp only
    rw [EStateM.run_pure]
    cases granted.contains needed
    · rfl
    · rfl

/-- A deletion is two requests, and then a change of the principal. -/
theorem Connection.run_delete (c : Connection σ) (p : Principal) (w : σ) :
    (c.delete).run (p, w) =
      match (do c.require .delete .delete; c.session.delete p.id : Remote σ Unit).run w with
      | .ok _ w' => .ok () (p.deleted, w')
      | .error f w' => .error f (p, w') := by
  cases hmay : (c.require .delete .delete).run w with
  | error f w' => simp [delete, Work.run_ask, hmay]
  | ok a w' =>
    cases hdelete : (c.session.delete p.id).run w' <;>
      simp [delete, Work.run_ask, hmay, hdelete]

end RealmAdmin
