/-
RealmAdmin.Proofs.Dialogue — programs taken one request at a time.

A program runs to its end beside a service. As a dialogue it is halted at each
request, and what it does next is a function of the answer; so what others ask of
the service can come in between. `Dialogue.run` runs a dialogue to its end, and
takes the building blocks of dialogues to those of programs (`run_request` and its
siblings). The dialogue of a program is one that runs as the program does, beside
every service.

A dialogue that follows a protocol asks only what the protocol lets it ask, as long
as it is answered as the protocol says (`Follows`).
-/
import RealmAdmin.Proofs.Work

namespace RealmAdmin

/-- What an outcome gives, but for the state that it leaves. -/
def answerOf {ε σ α : Type} : EStateM.Result ε σ α → Except ε α
  | .ok a _ => .ok a
  | .error f _ => .error f

@[simp] theorem answerOf_ok {ε σ α : Type} (a : α) (s : σ) :
    answerOf (.ok a s : EStateM.Result ε σ α) = .ok a := rfl

@[simp] theorem answerOf_error {ε σ α : Type} (f : ε) (s : σ) :
    answerOf (.error f s : EStateM.Result ε σ α) = .error f := rfl

@[simp] theorem Remote.answerOf_ofExcept {σ α : Type} (x : Except Failure α) (w : σ) :
    answerOf ((Remote.ofExcept x).run w) = x := by
  cases x <;> rfl

/-! ## Dialogues -/

/-- A program that is halted at its next request, or done. -/
inductive Dialogue (α : Type) where
  | done (outcome : Except Failure α)
  | send (q : Request) (next : Except Status q.Answer → Dialogue α)

instance decidableEqExcept {ε α : Type} [DecidableEq ε] [DecidableEq α] :
    DecidableEq (Except ε α)
  | .ok a, .ok b => decidable_of_iff (a = b) (by simp)
  | .error e, .error f => decidable_of_iff (e = f) (by simp)
  | .ok _, .error _ | .error _, .ok _ => isFalse nofun

namespace Dialogue

variable {σ α β : Type}

/-- The outcome of a dialogue that has ended. -/
def outcome? : Dialogue α → Option (Except Failure α)
  | .done outcome => some outcome
  | .send .. => none

theorem eq_done_iff {x : Dialogue α} {outcome : Except Failure α} :
    x = .done outcome ↔ x.outcome? = some outcome := by
  cases x <;> simp [outcome?]

/-- Go on with the value that a dialogue ends with, if it does not fail. -/
protected def bind : Dialogue α → (α → Dialogue β) → Dialogue β
  | .done (.ok a), f => f a
  | .done (.error failure), _ => .done (.error failure)
  | .send q next, f => .send q fun answer => (next answer).bind f

instance : Monad Dialogue where
  pure a := .done (.ok a)
  bind := Dialogue.bind

instance : LawfulMonad Dialogue := .mk' Dialogue
  (by
    intro α x
    change x.bind (.done ∘ .ok ∘ id) = x
    induction x with
    | done outcome => cases outcome <;> rfl
    | send q next ih => exact congrArg (send q) (funext ih))
  (fun _ _ => rfl)
  (by
    intro α β γ x f g
    change (x.bind f).bind g = x.bind fun a => (f a).bind g
    induction x with
    | done outcome => cases outcome <;> rfl
    | send q next ih => exact congrArg (send q) (funext ih))

/-- Fail. -/
def fail (failure : Failure) : Dialogue α := .done (.error failure)

/-- The outcome of a pure check. -/
def ofExcept (x : Except Failure α) : Dialogue α := .done x

/-- Send a request; a status becomes the failure that it reports. -/
def request (q : Request) : Dialogue q.Answer :=
  .send q fun
    | .ok a => .done (.ok a)
    | .error status => .done (.error (.ofStatus status))

/-- Run a dialogue to its end. -/
def run (S : Service σ) : Dialogue α → Remote σ α
  | .done (.ok a) => pure a
  | .done (.error failure) => throw failure
  | .send q next => fun w =>
    ((next (answerOf ((S.serve q).run w))).run S).run (stateOf ((S.serve q).run w))

/-! ## Running -/

section

variable (S : Service σ)

theorem run_ofExcept (x : Except Failure α) :
    (ofExcept x).run S = Remote.ofExcept x := by
  cases x <;> rfl

theorem run_send (q : Request) (next : Except Status q.Answer → Dialogue α) (w : σ) :
    ((send q next).run S).run w =
      ((next (answerOf ((S.serve q).run w))).run S).run (stateOf ((S.serve q).run w)) := rfl

theorem run_request (q : Request) : (request q).run S = S.request q := by
  funext w
  change ((request q).run S).run w = (S.request q).run w
  rw [request, run_send, S.run_request]
  cases (S.serve q).run w <;> rfl

theorem run_ite (p : Prop) [Decidable p] (x y : Dialogue α) :
    (if p then x else y).run S = if p then x.run S else y.run S := by
  split <;> rfl

end

/-! ## Protocols -/

/-- What may be asked, and how it is answered. -/
structure Protocol where
  asks : Request → Prop
  answers : (q : Request) → Except Status q.Answer → Prop

/-- Everything may be asked, and be answered in every way. -/
def Protocol.any : Protocol := ⟨fun _ => True, fun _ _ => True⟩

/-- Whether a dialogue that is answered by the protocol asks only what it may, and
whether this is true of each outcome that it can have. -/
def Follows (P : Protocol) (ends : Except Failure α → Prop) : Dialogue α → Prop
  | .done outcome => ends outcome
  | .send q next => P.asks q ∧ ∀ answer, P.answers q answer → (next answer).Follows P ends

section

variable {P : Protocol} {x : Dialogue α}

theorem Follows.imp {ends ends' : Except Failure α → Prop} (hx : x.Follows P ends)
    (h : ∀ outcome, ends outcome → ends' outcome) : x.Follows P ends' := by
  induction x with
  | done outcome => exact h outcome hx
  | send q next ih => exact ⟨hx.1, fun answer hanswer => ih answer (hx.2 answer hanswer)⟩

theorem follows_any {ends : Except Failure α → Prop} (x : Dialogue α)
    (h : ∀ outcome, ends outcome) : x.Follows .any ends := by
  induction x with
  | done outcome => exact h outcome
  | send q next ih => exact ⟨trivial, fun answer _ => ih answer⟩

/-- One dialogue after another follows the protocol if the first does, and the
second does after each value that the first can end with. -/
theorem Follows.bind {f : α → Dialogue β} {ends : Except Failure β → Prop}
    (hx : x.Follows P fun outcome => match outcome with
      | .ok a => (f a).Follows P ends
      | .error failure => ends (.error failure)) :
    (x >>= f).Follows P ends := by
  change (x.bind f).Follows P ends
  induction x with
  | done outcome => cases outcome <;> exact hx
  | send q next ih => exact ⟨hx.1, fun answer hanswer => ih answer (hx.2 answer hanswer)⟩

/-- After a dialogue of which nothing is known, the next is known for every value. -/
theorem follows_any_bind {f : α → Dialogue β} {ends : Except Failure β → Prop} (x : Dialogue α)
    (hf : ∀ a, (f a).Follows .any ends) (hfail : ∀ failure, ends (.error failure)) :
    (x >>= f).Follows .any ends :=
  .bind (x.follows_any fun
    | .ok a => hf a
    | .error failure => hfail failure)

/-- What comes after a dialogue need only be known for the values that it can end
with. -/
theorem run_bind_congr {S : Service σ} {f : α → Dialogue β} {g : α → Remote σ β}
    (hx : x.Follows .any fun outcome => ∀ a, outcome = .ok a → (f a).run S = g a) :
    (x >>= f).run S = x.run S >>= g := by
  change (x.bind f).run S = _
  induction x with
  | done outcome =>
    cases outcome with
    | ok a => exact (hx a rfl).trans rfl
    | error failure => rfl
  | send q next ih =>
    funext w
    change ((send q fun answer => (next answer).bind f).run S).run w =
      ((send q next).run S >>= g).run w
    rw [run_send, EStateM.run_bind, run_send, ih _ (hx.2 _ trivial), EStateM.run_bind]

/-- Running one dialogue after another is running one program after another. -/
theorem run_bind (S : Service σ) (x : Dialogue α) (f : α → Dialogue β) :
    (x >>= f).run S = x.run S >>= fun a => (f a).run S :=
  run_bind_congr (x.follows_any fun _ _ _ => rfl)

end

end Dialogue

end RealmAdmin
