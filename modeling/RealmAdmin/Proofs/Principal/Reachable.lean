/-
RealmAdmin.Proofs.Principal.Reachable — the principals that operations lead to.

`Action` lists what can be done with a principal: change its stage, load it,
ask something about it, commit it, delete it. A principal is `Reachable` if it
begins as one that the service should have, or does not have yet, and each
action since then was taken in some session beside some outside world; an
action that failed counts with what it left.

`Reachable.consistent` is what the modules after this one use of it.
-/
import RealmAdmin.Proofs.Principal.Plan
import RealmAdmin.Proofs.Principal.Question

namespace RealmAdmin.Principal

variable {σ : Type}

/-! ## Actions -/

/-- Something to do with a principal. -/
inductive Action where
  | setName (text : String)
  | setPassword (secret : Secret)
  | randomizePassword (e : Entropy)
  | edit (d : Edit)
  | load
  | ask (question : Question)
  | commit (e : Entropy)
  | delete

/-- Do it over a connection. -/
def Action.run (c : Connection σ) : Action → Work σ Unit
  | .setName text => Principal.setName c.session text
  | .setPassword secret => Work.change (·.setPassword secret)
  | .randomizePassword e => Work.change (·.randomizePassword c.generator e)
  | .edit d => Work.change d.stage
  | .load => Principal.load c.session
  | .ask question => question.ask c.session
  | .commit e => Principal.commit c.session c.generator e
  | .delete => c.delete

/-- A principal that actions lead to. -/
inductive Reachable : Principal → Prop
  | existing (id : Name) : Reachable (existing id)
  | fresh (id : Name) : Reachable (fresh id)
  | after {σ : Type} {p : Principal} (hp : Reachable p) (c : Connection σ) (a : Action) (w : σ) :
    Reachable (stateOf ((a.run c).run (p, w))).1

/-! ## What each action leaves -/

/-- A new name is staged, or the text is none. -/
theorem setName_run (s : Session σ) (text : String) (p : Principal) (w : σ) :
    (∃ name, s.parseName text = .ok name ∧ (setName s text).run (p, w) = .ok () (p.rename name, w)) ∨
      ∃ f, s.parseName text = .error f ∧ (setName s text).run (p, w) = .error f (p, w) := by
  cases h : s.parseName text with
  | ok name => exact .inl ⟨name, rfl, by simp [setName, Work.run_ask, h]⟩
  | error f => exact .inr ⟨f, rfl, by simp [setName, Work.run_ask, h]⟩

/-- A deletion that fails leaves the principal as it was. -/
theorem delete_run (c : Connection σ) (p : Principal) (w : σ) :
    (∃ w', (c.delete).run (p, w) = .ok () (p.deleted, w')) ∨
      ∃ f w', (c.delete).run (p, w) = .error f (p, w') := by
  rw [c.run_delete]
  cases (do c.require .delete .delete; c.session.delete p.id : Remote σ Unit).run w with
  | error f w' => exact .inr ⟨f, w', rfl⟩
  | ok a w' => exact .inl ⟨w', rfl⟩

/-- A load keeps a principal consistent, however it ends. -/
theorem Consistent.load {p : Principal} (hp : p.Consistent) (s : Session σ) (w : σ) :
    (stateOf ((Principal.load s).run (p, w))).1.Consistent :=
  hp.of_stagedAlike (load_stagedAlike s p w) ((load_run s p w).known hp.known)

/-- Every action keeps a principal consistent, however it ends. -/
theorem Consistent.after {p : Principal} (hp : p.Consistent) (c : Connection σ) (a : Action)
    (w : σ) : (stateOf ((a.run c).run (p, w))).1.Consistent := by
  cases a with
  | setName text =>
    rcases setName_run c.session text p w with ⟨name, -, hrun⟩ | ⟨f, -, hrun⟩
    · rw [Action.run, hrun]
      exact hp.rename name
    · rw [Action.run, hrun]
      exact hp
  | setPassword secret => exact hp.setPassword secret
  | randomizePassword e => exact hp.setPassword (c.generator.generate e)
  | edit d => exact hp.stage d
  | load => exact hp.load c.session w
  | ask question =>
    rw [Action.run, stateOf_ask]
    exact hp.load c.session w
  | commit e => exact hp.commit c.session c.generator e w
  | delete =>
    rcases delete_run c p w with ⟨w', hrun⟩ | ⟨f, w', hrun⟩
    · rw [Action.run, hrun]
      exact deleted_consistent p
    · rw [Action.run, hrun]
      exact hp

/-- Actions lead to consistent principals only. -/
theorem Reachable.consistent {p : Principal} (hp : Reachable p) : p.Consistent := by
  induction hp with
  | existing id => exact existing_consistent id
  | fresh id => exact fresh_consistent id
  | after _ c a w ih => exact ih.after c a w

end RealmAdmin.Principal
