/-
RealmAdmin.Proofs.Connection.Gate — privileges are asked for before anything else.

What a connection does goes through gates. At each of them it asks what the client
may do at this moment, and it goes on only if the answer contains the privileges of
the gate; behind the last gate it makes one call. `Passes` lists the ways in which
the calls of an operation can go through its gates, whatever the service answers
from one call to the next, and `Access.passes` says that every operation makes its
calls in one of them.
-/
import RealmAdmin.Proofs.Dialogue
import RealmAdmin.Proofs.Realm.Upkeep

namespace RealmAdmin

variable {σ α β : Type}

/-! ## Transcripts -/

instance : (q : Request) → DecidableEq q.Answer
  | .get .. => inferInstanceAs (DecidableEq Record)
  | .list _ => inferInstanceAs (DecidableEq (List String))
  | .privileges => inferInstanceAs (DecidableEq Privileges)
  | .create .. | .modify .. | .rename .. | .changePassword .. | .delete _ =>
    inferInstanceAs (DecidableEq Unit)

/-- A call with its answer. -/
abbrev Answered := (q : Request) × Except Status q.Answer

/-- The service with a transcript of its calls, the latest one last. -/
def Service.transcribed (S : Service σ) : Service (σ × List Answered) where
  serve q := fun (w, calls) =>
    match (S.serve q).run w with
    | .ok a w' => .ok a (w', calls ++ [⟨q, .ok a⟩])
    | .error status w' => .error status (w', calls ++ [⟨q, .error status⟩])

/-- The connection with a transcript of its calls. -/
def Connection.transcribed (c : Connection σ) : Connection (σ × List Answered) :=
  let s := c.session
  ⟨⟨s.service.transcribed, s.client, s.realm, s.host, s.port⟩, c.generator⟩

theorem Service.run_serve_transcribed (S : Service σ) (q : Request) (w : σ) (log : List Answered) :
    (S.transcribed.serve q).run (w, log) =
      match (S.serve q).run w with
      | .ok a w' => .ok a (w', log ++ [⟨q, .ok a⟩])
      | .error status w' => .error status (w', log ++ [⟨q, .error status⟩]) := rfl

/-! ## Gates -/

/-- A query of the client's privileges: what the answer has to contain, and the
operation that is reported when it does not. -/
structure Gate where
  needed : Privileges
  operation : Operation

namespace Gate

def get : Gate := ⟨.get, .get⟩
def add : Gate := ⟨.add, .add⟩
def delete : Gate := ⟨.delete, .delete⟩
def list : Gate := ⟨.list, .list⟩

/-- Whether the call asked for the privileges and was told that the client has these. -/
def Grants (needed : Privileges) (call : Answered) : Prop :=
  ∃ granted, call = ⟨.privileges, .ok granted⟩ ∧ granted.contains needed = true

/-- Whether it was told that the client does not have all of these. -/
def Denies (needed : Privileges) (call : Answered) : Prop :=
  ∃ granted, call = ⟨.privileges, .ok granted⟩ ∧ granted.contains needed = false

end Gate

/-- The gate that a request has to come right after, if there is one. -/
def Request.gate? : Request → Option Gate
  | .list _ => some .list
  | .delete _ => some .delete
  | .get .. | .create .. | .modify .. | .rename .. | .changePassword .. | .privileges => none

open Gate (Grants Denies)

/-- How calls can go through gates, with the failure and the state that come of it:
at each gate the query is refused, or the gate stays shut, or it opens and what comes
next cannot be asked for, or it is asked for; behind the gates comes one call. -/
inductive Passes (S : Service σ) (goals : Request → Prop) :
    List Gate → σ → List Answered → Option Failure → σ → Prop
  | refused {g : Gate} {gates : List Gate} {w w' : σ} {status : Status}
      (hquery : (S.serve .privileges).run w = .error status w') :
      Passes S goals (g :: gates) w [⟨.privileges, .error status⟩] (some (.ofStatus status)) w'
  | denied {g : Gate} {gates : List Gate} {w w' : σ} {granted : Privileges}
      (hquery : (S.serve .privileges).run w = .ok granted w')
      (hdenied : granted.contains g.needed = false) :
      Passes S goals (g :: gates) w [⟨.privileges, .ok granted⟩]
        (some (.unauthorized g.operation)) w'
  | unreadable {g : Gate} {gates : List Gate} {w w' : σ} {granted : Privileges} {f : Failure}
      (hquery : (S.serve .privileges).run w = .ok granted w')
      (hgranted : granted.contains g.needed = true) :
      Passes S goals (g :: gates) w [⟨.privileges, .ok granted⟩] (some f) w'
  | opened {g : Gate} {gates : List Gate} {w w' w'' : σ} {granted : Privileges}
      {calls : List Answered} {failure : Option Failure}
      (hquery : (S.serve .privileges).run w = .ok granted w')
      (hgranted : granted.contains g.needed = true)
      (hrest : Passes S goals gates w' calls failure w'') :
      Passes S goals (g :: gates) w (⟨.privileges, .ok granted⟩ :: calls) failure w''
  | served {q : Request} {w : σ} {failure : Option Failure} (hgoal : goals q) :
      Passes S goals [] w [⟨q, answerOf ((S.serve q).run w)⟩] failure
        (stateOf ((S.serve q).run w))

section

variable {S : Service σ} {goals : Request → Prop} {gates : List Gate} {g : Gate} {w w' : σ}
  {calls : List Answered} {failure : Option Failure} {call : Answered} {i : Nat}

/-- Something is asked, whatever comes of it. -/
theorem Passes.ne_nil (h : Passes S goals gates w calls failure w') : calls ≠ [] := by
  cases h <;> exact List.cons_ne_nil _ _

/-- The call at a gate is a query of the privileges, and it is the last one unless the
answer contains what the gate needs. -/
theorem Passes.at_gate (h : Passes S goals gates w calls failure w') (hgate : gates[i]? = some g)
    (hcall : calls[i]? = some call) :
    call.1 = .privileges ∧ (Grants g.needed call ∨ calls.length = i + 1 ∧ failure ≠ none) := by
  induction h generalizing i with
  | @refused _ _ _ _ status hquery =>
    obtain ⟨rfl, rfl⟩ : i = 0 ∧ ⟨.privileges, .error status⟩ = call := by
      simpa [List.getElem?_singleton] using hcall
    exact ⟨rfl, .inr ⟨rfl, by simp⟩⟩
  | @denied _ _ _ _ granted hquery hdenied =>
    obtain ⟨rfl, rfl⟩ : i = 0 ∧ ⟨.privileges, .ok granted⟩ = call := by
      simpa [List.getElem?_singleton] using hcall
    exact ⟨rfl, .inr ⟨rfl, by simp⟩⟩
  | @unreadable _ _ _ _ granted _ hquery hgranted =>
    obtain ⟨rfl, rfl⟩ : i = 0 ∧ ⟨.privileges, .ok granted⟩ = call := by
      simpa [List.getElem?_singleton] using hcall
    exact ⟨rfl, .inr ⟨rfl, by simp⟩⟩
  | opened hquery hgranted hrest ih =>
    cases i with
    | zero =>
      obtain rfl := Option.some.inj hgate
      obtain rfl := Option.some.inj hcall
      exact ⟨rfl, .inl ⟨_, rfl, hgranted⟩⟩
    | succ i =>
      obtain ⟨hkind, hlast⟩ := ih (by simpa using hgate) (by simpa using hcall)
      exact ⟨hkind, hlast.imp_right fun ⟨hlength, hfailed⟩ => ⟨by simp [hlength], hfailed⟩⟩
  | served hgoal => simp at hgate

/-- A gate that stays shut ends the operation, with a failure that says so; of what a
query leaves alone nothing has changed. -/
theorem Passes.of_denied (h : Passes S goals gates w calls failure w')
    (hgate : gates[i]? = some g) (hcall : calls[i]? = some call) (hdenied : Denies g.needed call) :
    calls.length = i + 1 ∧ failure = some (.unauthorized g.operation) ∧
      ∀ {κ : Type} (view : σ → κ),
        (∀ v, view (stateOf ((S.serve .privileges).run v)) = view v) → view w' = view w := by
  induction h generalizing i with
  | refused hquery =>
    obtain ⟨granted, rfl, -⟩ := hdenied
    simp [List.getElem?_singleton] at hcall
  | @denied g' gates' v v' granted hquery hlacking =>
    obtain ⟨rfl, -⟩ : i = 0 ∧ ⟨.privileges, .ok granted⟩ = call := by
      simpa [List.getElem?_singleton] using hcall
    obtain rfl := Option.some.inj hgate
    exact ⟨rfl, rfl, fun view hview => by rw [← hview v, hquery]; rfl⟩
  | @unreadable g' gates' v v' granted f hquery hgranted =>
    obtain ⟨rfl, rfl⟩ : i = 0 ∧ ⟨.privileges, .ok granted⟩ = call := by
      simpa [List.getElem?_singleton] using hcall
    obtain rfl := Option.some.inj hgate
    obtain ⟨granted', heq, hlacking⟩ := hdenied
    obtain rfl : granted = granted' := by simpa using heq
    simp [hgranted] at hlacking
  | @opened g' gates' v v' v'' granted calls' failure' hquery hgranted hrest ih =>
    cases i with
    | zero =>
      obtain rfl := Option.some.inj hgate
      obtain rfl := Option.some.inj hcall
      obtain ⟨granted', heq, hlacking⟩ := hdenied
      obtain rfl : granted = granted' := by simpa using heq
      simp [hgranted] at hlacking
    | succ i =>
      obtain ⟨hlength, hfailed, hview⟩ := ih (by simpa using hgate) (by simpa using hcall)
      refine ⟨by simp [hlength], hfailed, fun view hquestion => (hview view hquestion).trans ?_⟩
      rw [← hquestion v, hquery]
      rfl
  | served hgoal => simp at hgate

/-- Who ends well has been let through every gate. -/
theorem Passes.granted (h : Passes S goals gates w calls none w') (hgate : gates[i]? = some g) :
    ∃ query, calls[i]? = some query ∧ Grants g.needed query := by
  generalize hdone : (none : Option Failure) = failure at h
  induction h generalizing i with
  | opened hquery hgranted hrest ih =>
    cases i with
    | zero =>
      obtain rfl := Option.some.inj hgate
      exact ⟨_, rfl, _, rfl, hgranted⟩
    | succ i => exact ih (by simpa using hgate) hdone
  | served hgoal => simp at hgate
  | _ => cases hdone

/-- A call that is no query of the privileges is the call behind the gates, and comes
right after the last gate has opened. -/
theorem Passes.behind (h : Passes S goals gates w calls failure w') (hcall : calls[i]? = some call)
    (hkind : call.1 ≠ .privileges) :
    goals call.1 ∧ ∀ g, gates.getLast? = some g →
      ∃ j query, i = j + 1 ∧ calls[j]? = some query ∧ Grants g.needed query := by
  induction h generalizing i with
  | @opened g' gates' v v' v'' granted calls' failure' hquery hgranted hrest ih =>
    cases i with
    | zero =>
      obtain rfl := Option.some.inj hcall
      exact absurd rfl hkind
    | succ i =>
      obtain ⟨hgoal, hbefore⟩ := ih (by simpa using hcall)
      refine ⟨hgoal, fun g hlast => ?_⟩
      cases gates' with
      | nil =>
        -- Behind the last gate there is one call, so the one before it is the query.
        obtain rfl : g' = g := by simpa using hlast
        cases hrest with
        | served hgoal' =>
          obtain ⟨rfl, -⟩ : i = 0 ∧ _ := by simpa [List.getElem?_singleton] using hcall
          exact ⟨0, _, rfl, rfl, granted, rfl, hgranted⟩
      | cons g'' gates'' =>
        obtain ⟨j, query, rfl, hj, hopen⟩ := hbefore g (by simpa using hlast)
        exact ⟨j + 1, query, rfl, by simpa using hj, hopen⟩
  | @served q v failure' hgoal =>
    obtain ⟨rfl, rfl⟩ : i = 0 ∧ ⟨q, answerOf ((S.serve q).run v)⟩ = call := by
      simpa [List.getElem?_singleton] using hcall
    exact ⟨hgoal, fun g hlast => by simp at hlast⟩
  | _ =>
    obtain ⟨rfl, rfl⟩ : i = 0 ∧ _ = call := by simpa [List.getElem?_singleton] using hcall
    exact absurd rfl hkind

end

/-! ## Programs -/

/-- An outcome with the transcript that was made on the way. -/
def beside {α : Type} (log : List Answered) :
    EStateM.Result Failure σ α → EStateM.Result Failure (σ × List Answered) α
  | .ok a w => .ok a (w, log)
  | .error f w => .error f (w, log)

/-- Whether a program makes its calls through the gates, according to the transcript
that the same program makes beside them. -/
def GoesThrough (S : Service σ) (goals : Request → Prop) (gates : List Gate)
    (x : Remote (σ × List Answered) α) (y : Remote σ α) : Prop :=
  ∀ w log, ∃ calls, x.run (w, log) = beside (log ++ calls) (y.run w) ∧
    Passes S goals gates w calls (failureOf (y.run w)) (stateOf (y.run w))

section

variable {S : Service σ} {goals : Request → Prop} {gates : List Gate} {w w' : σ}
  {calls : List Answered} {x : Remote (σ × List Answered) α} {y : Remote σ α}

/-- Calls that have gone well can still come to nothing. -/
theorem Passes.followed (h : Passes S goals gates w calls none w') (failure : Option Failure) :
    Passes S goals gates w calls failure w' := by
  generalize hdone : (none : Option Failure) = outcome at h
  induction h with
  | opened hquery hgranted _ ih => exact .opened hquery hgranted (ih hdone)
  | served hgoal => exact .served hgoal
  | _ => cases hdone

/-- Behind the gates there is one request. -/
theorem GoesThrough.request {q : Request} (hgoal : goals q) :
    GoesThrough S goals [] (S.transcribed.request q) (S.request q) := by
  intro w log
  rw [S.transcribed.run_request, S.run_serve_transcribed, S.run_request]
  have hcall (failure : Option Failure) : Passes S goals [] w [⟨q, answerOf ((S.serve q).run w)⟩]
      failure (stateOf ((S.serve q).run w)) := .served hgoal
  cases h : (S.serve q).run w <;>
  · rw [h] at hcall
    exact ⟨_, rfl, hcall _⟩

/-- What is made of an answer without any call changes nothing in this. -/
theorem GoesThrough.followed (hx : GoesThrough S goals gates x y)
    {f : α → Remote (σ × List Answered) β} {g : α → Remote σ β}
    (hfg : ∀ a, ∃ outcome, f a = Remote.ofExcept outcome ∧ g a = Remote.ofExcept outcome) :
    GoesThrough S goals gates (x >>= f) (y >>= g) := by
  intro w log
  obtain ⟨calls, hcalls, hpasses⟩ := hx w log
  refine ⟨calls, ?_⟩
  rw [EStateM.run_bind, EStateM.run_bind, hcalls]
  cases h : y.run w with
  | error failure w' =>
    rw [h] at hpasses
    exact ⟨rfl, hpasses⟩
  | ok a w' =>
    rw [h] at hpasses
    obtain ⟨outcome, hf, hg⟩ := hfg a
    dsimp only [beside]
    rw [hf, hg]
    cases outcome with
    | ok b => exact ⟨rfl, hpasses⟩
    | error failure => exact ⟨rfl, hpasses.followed (some failure)⟩

theorem GoesThrough.discard (hx : GoesThrough S goals gates x y) :
    GoesThrough S goals gates (Functor.discard x) (Functor.discard y) := by
  have hx' : Functor.discard x = x >>= fun _ => pure () := rfl
  have hy' : Functor.discard y = y >>= fun _ => pure () := rfl
  rw [hx', hy']
  exact hx.followed fun _ => ⟨.ok (), rfl, rfl⟩

/-- A query of the privileges is a gate before what comes next, if that can be asked
for at all. -/
theorem GoesThrough.gate (c : Connection σ) (g : Gate) (hnext :
      GoesThrough c.session.service goals gates x y ∨
        ∃ failure, x = throw failure ∧ y = throw failure) :
    GoesThrough c.session.service goals (g :: gates)
      (do c.transcribed.require g.needed g.operation; x)
      (do c.require g.needed g.operation; y) := by
  intro w log
  have hheard := c.transcribed.run_require g.needed g.operation (w, log)
  have hserve : (c.transcribed.session.service.serve .privileges).run (w, log) = _ :=
    c.session.service.run_serve_transcribed .privileges w log
  rw [hserve] at hheard
  rw [EStateM.run_bind, EStateM.run_bind, hheard, c.run_require]
  cases hquery : (c.session.service.serve .privileges).run w with
  | error status w' => exact ⟨_, rfl, .refused hquery⟩
  | ok granted w' =>
    dsimp only
    by_cases hgranted : granted.contains g.needed = true
    · rw [if_pos hgranted, if_pos hgranted]
      rcases hnext with hnext | ⟨failure, rfl, rfl⟩
      · obtain ⟨calls, hcalls, hpasses⟩ := hnext w' (log ++ [⟨.privileges, .ok granted⟩])
        exact ⟨⟨.privileges, .ok granted⟩ :: calls, by simpa using hcalls,
          .opened hquery hgranted hpasses⟩
      · exact ⟨_, rfl, .unreadable hquery hgranted⟩
    · rw [if_neg hgranted, if_neg hgranted]
      exact ⟨_, rfl, .denied hquery (by simpa using hgranted)⟩

end

namespace Connection

theorem goesThrough_list (c : Connection σ) (filter : String) (goals : Request → Prop)
    (hgoal : goals (.list filter)) :
    GoesThrough c.session.service goals [.list] (c.transcribed.list filter) (c.list filter) :=
  .gate c .list (.inl (.request hgoal))

theorem goesThrough_create (c : Connection σ) (name : String) (password : Option String) :
    GoesThrough c.session.service
      (fun q => ∃ id, c.session.parseName name = .ok id ∧ q = .list id.text) [.add, .list]
      (c.transcribed.create name password) (c.create name password) := by
  refine .gate c .add ?_
  have hparse : c.transcribed.session.parseName name = c.session.parseName name := rfl
  rw [hparse]
  cases hid : c.session.parseName name with
  | error failure => exact .inr ⟨failure, rfl, rfl⟩
  | ok id =>
    refine .inl ((c.goesThrough_list id.text _ ⟨id, rfl, rfl⟩).followed fun names => ?_)
    cases names with
    | cons name names => exact ⟨.error .alreadyExists, rfl, rfl⟩
    | nil =>
      cases password.filter (!·.isEmpty) with
      | some text => exact ⟨.ok ((Principal.fresh id).setPassword (.ofText text)), rfl, rfl⟩
      | none => exact ⟨.ok (.fresh id), rfl, rfl⟩

/-- Reading an answer is a check that makes no calls. -/
theorem ofExcept_bind (x : Except Failure α) (g : α → β) :
    (do return g (← Remote.ofExcept x) : Remote σ β) = Remote.ofExcept (x.map g) := by
  cases x <;> rfl

theorem goesThrough_get (c : Connection σ) (filter : String) :
    GoesThrough c.session.service (· = .list filter) [.get, .list] (c.transcribed.get filter)
      (c.get filter) := by
  have hlist := c.goesThrough_list filter (· = .list filter) rfl
  refine .gate c .get (.inl (hlist.followed fun names => ?_))
  match names with
  | [] => exact ⟨.error .unknownPrincipal, rfl, rfl⟩
  | [name] => exact ⟨_, ofExcept_bind (c.session.parseName name) _, ofExcept_bind _ _⟩
  | name :: other :: names => exact ⟨.error .ambiguousName, rfl, rfl⟩

theorem goesThrough_getAll (c : Connection σ) (filter : String) :
    GoesThrough c.session.service (· = .list filter) [.get, .list] (c.transcribed.getAll filter)
      (c.getAll filter) := by
  have hlist := c.goesThrough_list filter (· = .list filter) rfl
  refine .gate c .get (.inl (hlist.followed fun names => ?_))
  exact ⟨_, ofExcept_bind (names.mapM c.session.parseName) _, ofExcept_bind _ _⟩

theorem goesThrough_delete (c : Connection σ) (id : Name) :
    GoesThrough c.session.service (· = .delete id) [.delete]
      (do c.transcribed.require .delete .delete; c.transcribed.session.delete id)
      (do c.require .delete .delete; c.session.delete id) :=
  .gate c .delete (.inl (.request rfl))

/-! ## Operations -/

/-- An operation of a connection on its principals. -/
inductive Access where
  | list (filter : String)
  | create (name : String) (password : Option String)
  | get (filter : String)
  | getAll (filter : String)
  /-- Delete the principal at hand. -/
  | delete

namespace Access

/-- Do it, beside a principal; what it brings back does not matter here. -/
def run (c : Connection σ) : Access → Work σ Unit
  | .list filter => Work.ask (discard (c.list filter))
  | .create name password => Work.ask (discard (c.create name password))
  | .get filter => Work.ask (discard (c.get filter))
  | .getAll filter => Work.ask (discard (c.getAll filter))
  | .delete => c.delete

/-- The gates on its way. -/
def gates : Access → List Gate
  | .list _ => [.list]
  | .create .. => [.add, .list]
  | .get _ | .getAll _ => [.get, .list]
  | .delete => [.delete]

/-- Whether this is what it asks for behind them, given the name of the principal. -/
def Goal (s : Session σ) (id : Name) : Access → Request → Prop
  | .list filter, q | .get filter, q | .getAll filter, q => q = .list filter
  | .create name _, q => ∃ id, s.parseName name = .ok id ∧ q = .list id.text
  | .delete, q => q = .delete id

/-- The last gate is that of what comes behind it. -/
theorem last_gate {s : Session σ} {id : Name} {access : Access} {q : Request}
    (h : access.Goal s id q) : ∃ g, q.gate? = some g ∧ access.gates.getLast? = some g := by
  cases access with
  | create name password =>
    obtain ⟨id, -, rfl⟩ := h
    exact ⟨.list, rfl, rfl⟩
  | delete =>
    obtain rfl : q = .delete id := h
    exact ⟨.delete, rfl, rfl⟩
  | list filter | get filter | getAll filter =>
    obtain rfl : q = .list filter := h
    exact ⟨.list, rfl, rfl⟩

/-- The calls of an operation when it is done beside a transcript. -/
def calls (access : Access) (c : Connection σ) (p : Principal) (w : σ) : List Answered :=
  (stateOf ((access.run c.transcribed).run (p, (w, [])))).2.2

/-- The calls of an operation go through its gates, and one that fails leaves the
principal as it was. -/
theorem passes (c : Connection σ) (access : Access) (p : Principal) (w : σ) :
    let result := (access.run c).run (p, w)
    Passes c.session.service (access.Goal c.session p.id) access.gates w (access.calls c p w)
        (failureOf result) (stateOf result).2 ∧
      (failureOf result ≠ none → (stateOf result).1 = p) := by
  have hask {goals : Request → Prop} {gates : List Gate} {x : Remote (σ × List Answered) Unit}
      {y : Remote σ Unit} (hxy : GoesThrough c.session.service goals gates x y) :
      let result := (Work.ask y).run (p, w)
      Passes c.session.service goals gates w (stateOf ((Work.ask x).run (p, (w, [])))).2.2
          (failureOf result) (stateOf result).2 ∧
        (failureOf result ≠ none → (stateOf result).1 = p) := by
    obtain ⟨calls, hcalls, hpasses⟩ := hxy w []
    rw [Work.run_ask, Work.run_ask, hcalls]
    cases h : y.run w <;>
    · rw [h] at hpasses
      exact ⟨hpasses, by simp⟩
  cases access with
  | list filter => exact hask (c.goesThrough_list filter (· = .list filter) rfl).discard
  | create name password => exact hask (c.goesThrough_create name password).discard
  | get filter => exact hask (c.goesThrough_get filter).discard
  | getAll filter => exact hask (c.goesThrough_getAll filter).discard
  | delete =>
    obtain ⟨calls, hcalls, hpasses⟩ := c.goesThrough_delete p.id w []
    have hheard := c.transcribed.run_delete p (w, [])
    rw [hcalls] at hheard
    rw [Access.calls, run, run, hheard, c.run_delete]
    cases h : (do c.require .delete .delete; c.session.delete p.id : Remote σ Unit).run w <;>
    · rw [h] at hpasses
      exact ⟨hpasses, by simp⟩

end Access

end Connection

/-! ## Realms -/

/-- A realm whose privileges are set anew before each call, in any way whatever; the
calls are counted. -/
def Realm.shifting (client : Name) (grants : Nat → Privileges) : Service (Realm × Nat) where
  serve q := fun (r, n) =>
    match ((Realm.service client).serve q).run (r.setPrivileges (grants n)) with
    | .ok a r' => .ok a (r', n + 1)
    | .error status r' => .error status (r', n + 1)

theorem Realm.run_serve_shifting (client : Name) (grants : Nat → Privileges) (q : Request)
    (r : Realm) (n : Nat) :
    ((Realm.shifting client grants).serve q).run (r, n) =
      match ((Realm.service client).serve q).run (r.setPrivileges (grants n)) with
      | .ok a r' => .ok a (r', n + 1)
      | .error status r' => .error status (r', n + 1) := rfl

/-- Asking for the privileges leaves the stored principals alone. -/
theorem Realm.principals_shifting (client : Name) (grants : Nat → Privileges) (x : Realm × Nat) :
    (stateOf (((Realm.shifting client grants).serve .privileges).run x)).1.principals =
      x.1.principals := by
  obtain ⟨r, n⟩ := x
  have hkept : (stateOf (((Realm.service client).serve .privileges).run
      (r.setPrivileges (grants n)))).principals = r.principals :=
    preserves_principals_question (q := .privileges) trivial _ rfl
  rw [run_serve_shifting]
  cases h : ((Realm.service client).serve .privileges).run (r.setPrivileges (grants n)) <;>
  · rw [h] at hkept
    exact hkept

/-- **Privileges come first.** An operation begins with a query of the privileges. At
each of its gates the call is such a query, and the operation goes on only if the
answer contains what the gate needs. If the answer lacks some of it, the operation
ends there with a failure that names the missing privilege, with its status, and the
principal at hand has not changed; nor have those that a realm stores, whose
privileges may be set anew before each call. An operation that ends well has passed
all of its gates. Every other call is what the operation is for, a list or a deletion,
and the call before it was told of the privilege for that. -/
theorem privileges_first :
    (∀ {σ : Type} (c : Connection σ) (access : Connection.Access) (p : Principal) (w : σ),
      let result := (access.run c).run (p, w)
      let calls := access.calls c p w
      calls ≠ [] ∧
      (∀ (i : Nat) (g : Gate) (call : Answered),
        access.gates[i]? = some g → calls[i]? = some call →
          call.1 = .privileges ∧
          (Grants g.needed call ∨ calls.length = i + 1 ∧ failureOf result ≠ none) ∧
          (Denies g.needed call → calls.length = i + 1 ∧ (stateOf result).1 = p ∧
            failureOf result = some ⟨.authorization g.operation, g.operation.status⟩)) ∧
      (failureOf result = none → ∀ (i : Nat) (g : Gate), access.gates[i]? = some g →
        ∃ query, calls[i]? = some query ∧ Grants g.needed query) ∧
      ∀ (i : Nat) (call : Answered), calls[i]? = some call → call.1 ≠ .privileges →
        access.Goal c.session p.id call.1 ∧
        ∃ g j query, call.1.gate? = some g ∧ i = j + 1 ∧ calls[j]? = some query ∧
          Grants g.needed query) ∧
    ∀ (c : Connection (Realm × Nat)) (client : Name) (grants : Nat → Privileges),
      c.session.service = Realm.shifting client grants →
      ∀ (access : Connection.Access) (p : Principal) (x : Realm × Nat),
        let result := (access.run c).run (p, x)
        ∀ (i : Nat) (g : Gate) (call : Answered),
          access.gates[i]? = some g → (access.calls c p x)[i]? = some call →
            Denies g.needed call → (stateOf result).2.1.principals = x.1.principals := by
  refine ⟨fun c access p w => ?_, fun c client grants hservice access p x => ?_⟩
  · intro result calls
    obtain ⟨hpasses, hkept⟩ := access.passes c p w
    refine ⟨hpasses.ne_nil, fun i g call hgate hcall => ?_, fun hdone i g hgate => ?_,
      fun i call hcall hkind => ?_⟩
    · obtain ⟨hquery, hopen⟩ := hpasses.at_gate hgate hcall
      refine ⟨hquery, hopen, fun hdenied => ?_⟩
      obtain ⟨hlast, hfailed, -⟩ := hpasses.of_denied hgate hcall hdenied
      exact ⟨hlast, hkept (by simp [hfailed]), hfailed⟩
    · rw [show failureOf ((access.run c).run (p, w)) = none from hdone] at hpasses
      exact hpasses.granted hgate
    · obtain ⟨hgoal, hbefore⟩ := hpasses.behind hcall hkind
      obtain ⟨g, hg, hlast⟩ := Connection.Access.last_gate hgoal
      obtain ⟨j, query, rfl, hquery, hopen⟩ := hbefore g hlast
      exact ⟨hgoal, g, j, query, hg, rfl, hquery, hopen⟩
  · intro result i g call hgate hcall hdenied
    obtain ⟨hpasses, -⟩ := access.passes c p x
    obtain ⟨-, -, hview⟩ := hpasses.of_denied hgate hcall hdenied
    refine hview (·.1.principals) fun y => ?_
    rw [hservice]
    exact Realm.principals_shifting client grants y

/-- A client who may do everything until it has asked once, and then only add: a
creation stops before it lists anything. -/
theorem privileges_first_when_lost :
    let grants : Nat → Privileges := fun n => if n = 0 then .all else .add
    let client : Name := ⟨["admin", "admin"], "R"⟩
    let c : Connection (Realm × Nat) :=
      ⟨⟨Realm.shifting client grants, client, "R", "kdc", 749⟩, ⟨[]⟩⟩
    let create : Connection.Access := .create "smith" none
    let p := Principal.existing ⟨["jdoe"], "R"⟩
    let x : Realm × Nat := (Realm.new "R", 0)
    let result := (create.run c).run (p, x)
    let query (granted : Privileges) : Answered := ⟨.privileges, .ok granted⟩
    create.calls c p x = [query .all, query .add] ∧ (stateOf result).1 = p ∧
      failureOf result = some ⟨.authorization .list, ⟨43787564⟩⟩ ∧
      (stateOf result).2.1.principals = (Realm.new "R").principals := by
  intro grants client c create p x result query
  have hcalls : create.calls c p x = [query .all, query .add] := by decide +kernel
  have hdenied : Denies .list (query .add) := ⟨.add, rfl, rfl⟩
  have hcall : (create.calls c p x)[1]? = some (query .add) := by rw [hcalls]; rfl
  obtain ⟨-, hgates, -⟩ := privileges_first.1 c create p x
  obtain ⟨-, -, hshut⟩ := hgates 1 .list _ rfl hcall
  obtain ⟨-, hp, hfailed⟩ := hshut hdenied
  exact ⟨hcalls, hp, hfailed,
    privileges_first.2 c client grants rfl create p x 1 .list _ rfl hcall hdenied⟩

end RealmAdmin
