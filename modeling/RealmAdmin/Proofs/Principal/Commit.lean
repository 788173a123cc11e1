/-
RealmAdmin.Proofs.Principal.Commit — a commit is its plan, and keeps the rest.

The statements here are about a service with a record of its exchanges, so
that they can say which requests were sent and in which order. `Loading` says
what a commit finds when it has loaded the principal, and `CommitRun` lists
the ways in which it can end: the load failed, the whole plan was carried out,
or the service refused a request of the plan. In the last case the principal
that is left has the refused request and the ones after it as its plan.
-/
import RealmAdmin.Proofs.Principal.Reachable

namespace RealmAdmin.Principal

variable {σ : Type}

/-- The outcome of some work, with a record of the exchanges it took. -/
def onRecord {α : Type} (log : List Exchange) : EStateM.Result Failure (Principal × σ) α →
    EStateM.Result Failure (Principal × (σ × List Exchange)) α
  | .ok a (p, w) => .ok a (p, (w, log))
  | .error f (p, w) => .error f (p, (w, log))

@[simp] theorem stateOf_onRecord {α : Type} (log : List Exchange)
    (x : EStateM.Result Failure (Principal × σ) α) :
    stateOf (onRecord log x) = ((stateOf x).1, ((stateOf x).2, log)) := by
  cases x <;> rfl

/-! ## The reads of a load -/

/-- The reads by which the template of the principal's realm is consulted: a
realm without a name has none. -/
def templateReads (s : Session σ) (p : Principal) (w : σ) : List Exchange :=
  (Name.template p.id.realm).toOption.toList.map fun template =>
    s.service.exchange (.get template p.fieldsToRead) w

/-- The reads of a load: the principal's own record, unless it is known to be
missing, and the template, if it is missing. -/
def loadReads (s : Session σ) (p : Principal) (w : σ) : List Exchange :=
  if p.loaded = true then []
  else if p.presence = .absent then templateReads s p w
  else
    let own : Request := .get p.id p.fieldsToRead
    s.service.exchange own w ::
      if (s.service.exchange own w).refusal = some .unknownPrincipal then
        templateReads s p (stateOf ((s.service.serve own).run w))
      else []

theorem isRead_templateReads (s : Session σ) (p : Principal) (w : σ) :
    ∀ x ∈ templateReads s p w, x.IsRead := by
  intro x hx
  obtain ⟨template, -, rfl⟩ := List.mem_map.mp hx
  exact Exchange.isRead_get ..

theorem isRead_loadReads (s : Session σ) (p : Principal) (w : σ) :
    ∀ x ∈ loadReads s p w, x.IsRead := by
  unfold loadReads
  split
  · simp
  · split
    · exact isRead_templateReads s p w
    · intro x hx
      rcases List.mem_cons.mp hx with rfl | hx
      · exact Exchange.isRead_get ..
      · split at hx
        · exact isRead_templateReads s p _ x hx
        · cases hx

/-- A recorded look at the template is the look, with its reads put on record. -/
theorem loadTemplate_recorded (s : Session σ) (p : Principal) (w : σ) (log : List Exchange) :
    (loadTemplate s.recorded).run (p, (w, log)) =
      onRecord (log ++ templateReads s p w) ((loadTemplate s).run (p, w)) := by
  rw [run_loadTemplate, run_loadTemplate, templateReads]
  cases Name.template p.id.realm with
  | error f => simp [onRecord, Except.toOption]
  | ok template =>
    dsimp only
    rw [s.run_fetch?_recorded]
    cases (s.fetch? template p.fieldsToRead).run w with
    | error f w' => rfl
    | ok record w' => cases record <;> rfl

/-- A recorded load is the load, with its reads put on record. -/
theorem load_recorded (s : Session σ) (p : Principal) (w : σ) (log : List Exchange) :
    (load s.recorded).run (p, (w, log)) =
      onRecord (log ++ loadReads s p w) ((load s).run (p, w)) := by
  have hown := s.exchange_of_fetch? p.id p.fieldsToRead w
  have hstate := s.stateOf_fetch? p.id p.fieldsToRead w
  rw [run_load, run_load, loadReads]
  split
  · simp [onRecord]
  · split
    · exact loadTemplate_recorded s _ w log
    · dsimp only
      rw [s.run_fetch?_recorded, ← hstate]
      cases hread : (s.fetch? p.id p.fieldsToRead).run w with
      | error f w' =>
        rw [hread] at hown
        obtain ⟨status, hrefused, hknown⟩ := hown
        simp [onRecord, hrefused, hknown]
      | ok record w' =>
        rw [hread] at hown
        cases record with
        | none =>
          have htemplate := loadTemplate_recorded s { p with presence := .absent } w'
            (log ++ [⟨.get p.id p.fieldsToRead, some .unknownPrincipal⟩])
          have hreads : templateReads s { p with presence := .absent } w' = templateReads s p w' := rfl
          rw [hreads] at htemplate
          rw [show s.service.exchange _ w = _ from hown]
          simpa using htemplate
        | some r =>
          rw [show s.service.exchange _ w = _ from hown]
          simp [onRecord]

/-- A principal that is there takes one read, unless it was loaded already. -/
theorem loadReads_of_found {s : Session σ} {p p₁ : Principal} {w w₁ : σ}
    (hload : (load s).run (p, w) = .ok () (p₁, w₁)) (hfound : p₁.presence = .present) :
    loadReads s p w = if p.loaded then [] else [⟨.get p.id p.fieldsToRead, none⟩] := by
  have hown := s.exchange_of_fetch? p.id p.fieldsToRead w
  have hrun := load_run s p w
  rw [hload] at hrun
  cases hrun with
  | kept hloaded => simp [loadReads, hloaded]
  | found hloaded hpresence hread =>
    rw [hread] at hown
    have hown : s.service.exchange (.get p.id p.fieldsToRead) w = _ := hown
    simp [loadReads, hloaded, hpresence, hown]
  | missing hloaded habsent htemplate =>
    have hmissing : p₁.presence = .absent := htemplate.presence
    simp [hmissing] at hfound

/-- The exchanges of a commit after its load. -/
def sent (s : Session σ) (g : PasswordGenerator) (e : Entropy) (p : Principal) (w : σ) :
    List Exchange :=
  match (load s).run (p, w) with
  | .error _ _ => []
  | .ok _ (p₁, w₁) => (s.service.deliver (p₁.plan g e) w₁).exchanges (p₁.plan g e)

/-- A recorded commit is the commit, with its reads and then the exchanges of
its plan put on record. -/
theorem run_commit_recorded (s : Session σ) (g : PasswordGenerator) (e : Entropy) {p : Principal}
    (hp : p.Consistent) (w : σ) (log : List Exchange) :
    (commit s.recorded g e).run (p, (w, log)) =
      onRecord (log ++ loadReads s p w ++ sent s g e p w) ((commit s g e).run (p, w)) := by
  rw [run_commit s.recorded g e hp, run_commit s g e hp, load_recorded, sent]
  cases h : (load s).run (p, w) with
  | error f x => simp [onRecord]
  | ok a x =>
    obtain ⟨p₁, w₁⟩ := x
    have hdeliver : s.recorded.service.deliver (p₁.plan g e) (w₁, log ++ loadReads s p w) = _ :=
      s.service.deliver_recorded (p₁.plan g e) w₁ (log ++ loadReads s p w)
    simp only [onRecord, hdeliver, Delivery.outcome]
    cases (s.service.deliver (p₁.plan g e) w₁).refusal <;> rfl

/-- The reads of a commit are those of its load: one at most where the principal
is there. -/
theorem commit_recorded (s : Session σ) (g : PasswordGenerator) (e : Entropy) {p : Principal}
    (hp : p.Consistent) (w : σ) (log : List Exchange) : ∃ reads, (∀ x ∈ reads, x.IsRead) ∧
      (∀ p₁ w₁, (load s).run (p, w) = .ok () (p₁, w₁) → p₁.presence = .present →
        reads = if p.loaded then [] else [⟨.get p.id p.fieldsToRead, none⟩]) ∧
      (commit s.recorded g e).run (p, (w, log)) =
        onRecord (log ++ reads ++ sent s g e p w) ((commit s g e).run (p, w)) :=
  ⟨loadReads s p w, isRead_loadReads s p w, fun _ _ => loadReads_of_found,
    run_commit_recorded s g e hp w log⟩

/-! ## The ends of a commit -/

/-- What a commit has found when its load has ended well. -/
structure Loading (s : Session σ) (p : Principal) (w : σ) (p₁ : Principal) (w₁ : σ)
    (reads : List Exchange) : Prop where
  run : (load s).run (p, w) = .ok () (p₁, w₁)
  stage : StagedAlike p p₁
  known : p₁.presence ≠ .unknown
  isRead : ∀ x ∈ reads, x.IsRead
  found : p₁.presence = .present →
    reads = if p.loaded then [] else [⟨.get p.id p.fieldsToRead, none⟩]

/-- How a commit can end, beside a service with an empty record. -/
inductive CommitRun (s : Session σ) (g : PasswordGenerator) (e : Entropy) (p : Principal) (w : σ) :
    EStateM.Result Failure (Principal × (σ × List Exchange)) Unit → Prop
  /-- The load failed, and nothing was written. -/
  | unloaded {f : Failure} {p₁ : Principal} {w₁ : σ} {reads : List Exchange}
      (hload : (load s).run (p, w) = .error f (p₁, w₁)) (hreads : ∀ x ∈ reads, x.IsRead) :
      CommitRun s g e p w (.error f (p₁, (w₁, reads)))
  /-- Every request of the plan was carried out, and nothing is staged. -/
  | done {p₁ p' : Principal} {w₁ w' : σ} {reads : List Exchange}
      (hload : Loading s p w p₁ w₁ reads)
      (hleft : p' = (p₁.plan g e).foldl settle (p₁.readied g e))
      (hclean : p'.isModified = false) (hname : p'.name = p'.id)
      (hsecret : p'.secret.isPending = false) :
      CommitRun s g e p w (.ok () (p', (w', reads ++ (p₁.plan g e).map (⟨·, none⟩))))
  /-- The plan was cut at a request that the service refused, and the rest of
  it is the plan of the principal that is left. -/
  | cut {p₁ p' : Principal} {w₁ w' : σ} {reads : List Exchange} {i : Nat} {q : Request}
      {status : Status} (hload : Loading s p w p₁ w₁ reads) (hq : (p₁.plan g e)[i]? = some q)
      (hleft : p' = ((p₁.plan g e).take i).foldl settle (p₁.readied g e))
      (hrest : ∀ e', p'.plan g e' = (p₁.plan g e).drop i) :
      CommitRun s g e p w (.error (.ofStatus status)
        (p', (w', reads ++ (((p₁.plan g e).take i).map (⟨·, none⟩) ++ [⟨q, some status⟩]))))

/-- After the load a commit ends with the delivery of the plan. -/
theorem Loading.commitRun {p p₁ : Principal} {w w₁ : σ} {reads : List Exchange} {s : Session σ}
    (hload : Loading s p w p₁ w₁ reads) (hp₁ : p₁.Consistent) (g : PasswordGenerator)
    (e : Entropy) :
    let delivery := s.service.deliver (p₁.plan g e) w₁
    CommitRun s g e p w (onRecord (reads ++ delivery.exchanges (p₁.plan g e))
      (delivery.outcome (p₁.readied g e) (p₁.plan g e))) := by
  simp only [Delivery.outcome]
  cases hrefusal : (s.service.deliver (p₁.plan g e) w₁).refusal with
  | none =>
    obtain ⟨p', hp', hpresence, hname, hdirty, hsecret, -⟩ := hp₁.plan_done g e
    rw [Delivery.exchanges_of_done hrefusal (Service.carriedOut_eq_length hrefusal)]
    rw [hp']
    refine .done hload hp'.symm ?_ ?_ hsecret
    · simp [isModified, hpresence, hdirty, hsecret, FieldSet.isEmpty]
    · simp [name, hname]
  | some status =>
    have hlt : (s.service.deliver (p₁.plan g e) w₁).carriedOut < (p₁.plan g e).length :=
      Service.carriedOut_lt_length (by simp [hrefusal])
    have hq := List.getElem?_eq_getElem hlt
    rw [Delivery.exchanges_of_refused hrefusal hq]
    exact .cut hload hq rfl (plan_after hp₁ g e _).2

/-- How a commit of a consistent principal ends. -/
theorem commitRun_of_consistent {p : Principal} (hp : p.Consistent) (s : Session σ)
    (g : PasswordGenerator) (e : Entropy) (w : σ) :
    CommitRun s g e p w ((commit s.recorded g e).run (p, (w, []))) := by
  have hload := load_run s p w
  obtain ⟨reads, hreads, hfound, hrun⟩ := commit_recorded s g e hp w []
  rw [hrun, run_commit s g e hp, sent, List.nil_append]
  cases h : (load s).run (p, w) with
  | error f x =>
    rw [List.append_nil]
    exact .unloaded h hreads
  | ok a x =>
    obtain ⟨p₁, w₁⟩ := x
    rw [h] at hload
    have hstage : StagedAlike p p₁ := hload.stagedAlike
    have hknown := hload.known hp.known
    have hloading : Loading s p w p₁ w₁ reads :=
      ⟨h, hstage, hknown hload.loaded, hreads, hfound p₁ w₁ h⟩
    exact hloading.commitRun (hp.of_stagedAlike hstage hknown) g e

/-- **A commit is its plan**: after the load it sends the requests of the plan
in order, up to the first that is refused, and what was not carried out is
what the principal that is left still plans. -/
theorem commit_run {p : Principal} (hp : Reachable p) (s : Session σ) (g : PasswordGenerator)
    (e : Entropy) (w : σ) : CommitRun s g e p w ((commit s.recorded g e).run (p, (w, []))) :=
  commitRun_of_consistent hp.consistent s g e w

/-- A principal with a new password and a new name staged, beside a service
that renames nothing: the password is changed, and the new name is still
planned. -/
theorem commit_run_refused_rename :
    let s : Session Unit := ⟨⟨fun
      | .get .. => pure .blank
      | .rename .. => throw .duplicate
      | .create .. | .modify .. | .changePassword .. | .delete _ => pure ()
      | .list _ => pure []
      | .privileges => pure .all⟩, ⟨["admin"], "R"⟩, "R", "kdc", 749⟩
    let g : PasswordGenerator := ⟨[]⟩
    let e : Entropy := ⟨fun _ => 0, 0⟩
    let p := ((existing ⟨["jdoe"], "R"⟩).setPassword ⟨[1]⟩).rename ⟨["smith"], "R"⟩
    Reachable p ∧ CommitRun s g e p () ((commit s.recorded g e).run (p, ((), []))) ∧
      (stateOf ((commit s.recorded g e).run (p, ((), [])))).1.plan g e =
        [.rename ⟨["jdoe"], "R"⟩ ⟨["smith"], "R"⟩] := by
  intro s g e p
  have hp : Reachable (stateOf ((Action.run ⟨s, g⟩ (.setName "smith")).run
      ((existing ⟨["jdoe"], "R"⟩).setPassword ⟨[1]⟩, ()))).1 :=
    .after (.after (.existing _) ⟨s, g⟩ (.setPassword ⟨[1]⟩) ()) ⟨s, g⟩ (.setName "smith") ()
  have hp : Reachable p := by
    rwa [show (stateOf ((Action.run ⟨s, g⟩ (.setName "smith")).run _)).1 = p by decide] at hp
  exact ⟨hp, commit_run hp s g e (), by decide⟩

end RealmAdmin.Principal
