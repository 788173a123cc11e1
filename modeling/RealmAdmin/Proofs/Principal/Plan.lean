/-
RealmAdmin.Proofs.Principal.Plan — the requests that a commit is made of.

`plan` lists them: for a principal that the service has, its `changes` (the
password, then the name, then the other dirty fields), and for one that it
does not have, its `creation` alone. A program performs a list of requests
(`Performs`) when it sends them in turn, stops at the first that is refused,
and has then taken exactly the carried-out ones off the stage.

`run_commit` is the main statement: a commit loads the principal and then
performs its plan. `plan_after` says that the requests that were not carried
out are the plan of the principal that is left.
-/
import RealmAdmin.Proofs.Principal.Stage

namespace RealmAdmin

variable {σ : Type}

namespace Principal

/-! ## Plans -/

/-- The request that changes the password, if one is staged. -/
def passwordChange? (p : Principal) : Option Request :=
  p.secret.pending?.map fun secret => .changePassword p.id secret.bytes

/-- The request that renames the principal, if a name is staged. -/
def nameChange? (p : Principal) : Option Request :=
  p.pendingName.map fun target => .rename p.id target

/-- The request that writes the dirty fields but for the name, if there are
any; it is addressed to the name that the principal will have. -/
def fieldChange? (p : Principal) : Option Request :=
  let fields := p.dirty.erase .principal
  if fields.isEmpty then none else some (.modify { p.record with principal := some p.name } fields)

/-- The requests that carry out what is staged for a principal that the
service has. -/
def changes (p : Principal) : List Request :=
  p.passwordChange?.toList ++ p.nameChange?.toList ++ p.fieldChange?.toList

/-- The request that creates the principal, with the staged password or else
a random one. -/
def creation (p : Principal) (g : PasswordGenerator) (e : Entropy) : Request :=
  .create { p.record with principal := some p.name } p.creationFields
    (p.secret.pending?.getD (g.generate e)).bytes

/-- The requests that a commit is to send. -/
def plan (p : Principal) (g : PasswordGenerator) (e : Entropy) : List Request :=
  if p.presence = .present then p.changes else [p.creation g e]

/-- The principal when its plan is about to be sent: a principal to be created
has a password. -/
def readied (p : Principal) (g : PasswordGenerator) (e : Entropy) : Principal :=
  if p.presence = .present then p else p.withPassword g e

/-- The principal after one of its planned requests was carried out. -/
def settle (p : Principal) : Request → Principal
  | .create .. => p.created
  | .changePassword .. => p.passwordChanged
  | .rename .. => p.renamed
  | .modify .. => p.modified
  | .get .. | .delete _ | .list _ | .privileges => p

end Principal

open Principal

/-! ## Performing requests -/

/-- How a delivery ends for the principal whose requests were sent. -/
def Delivery.outcome (d : Delivery σ) (p : Principal) (qs : List Request) :
    EStateM.Result Failure (Principal × σ) Unit :=
  match d.refusal with
  | none => .ok () (qs.foldl settle p, d.world)
  | some status => .error (.ofStatus status) ((qs.take d.carriedOut).foldl settle p, d.world)

section

variable {S : Service σ} {p : Principal} {q : Request} {qs rs : List Request} {w w' : σ}

theorem outcome_cons_ok {a : q.Answer} (h : (S.serve q).run w = .ok a w') :
    (S.deliver (q :: qs) w).outcome p (q :: qs) = (S.deliver qs w').outcome (p.settle q) qs := by
  simp [Service.deliver_cons_ok h, Delivery.outcome]

theorem outcome_cons_error {status : Status} (h : (S.serve q).run w = .error status w') :
    (S.deliver (q :: qs) w).outcome p (q :: qs) = .error (.ofStatus status) (p, w') := by
  simp [Service.deliver_cons_error h, Delivery.outcome]

/-- An outcome that is a failure comes from a refusal. -/
theorem refusal_of_failed {d : Delivery σ} (h : succeeded (d.outcome p qs) = false) :
    d.refusal ≠ none := by
  intro hnone
  simp [Delivery.outcome, hnone, succeeded] at h

/-- Requests sent one after another are requests sent in two parts. -/
theorem outcome_append (qs : List Request) (p : Principal) (w : σ) :
    (S.deliver (qs ++ rs) w).outcome p (qs ++ rs) =
      match (S.deliver qs w).outcome p qs with
      | .ok _ (p', w') => (S.deliver rs w').outcome p' rs
      | .error f s => .error f s := by
  induction qs generalizing p w with
  | nil => rfl
  | cons q qs ih =>
    cases h : (S.serve q).run w with
    | ok a w' =>
      rw [List.cons_append, outcome_cons_ok h, outcome_cons_ok h]
      exact ih _ w'
    | error status w' => rw [List.cons_append, outcome_cons_error h, outcome_cons_error h]

end

/-- A program that sends these requests of the principal, and nothing else. -/
def Performs (S : Service σ) (x : Work σ Unit) (p : Principal) (qs : List Request) : Prop :=
  ∀ w, x.run (p, w) = (S.deliver qs w).outcome p qs

section

variable {S : Service σ} {x y : Work σ Unit} {p : Principal}

theorem Performs.nil (h : ∀ w, x.run (p, w) = .ok () (p, w)) : Performs S x p [] := h

/-- A request on its own, and then the step that takes it off the stage. -/
theorem Performs.single {q : Request}
    (hok : ∀ {w w'} {a : q.Answer}, (Work.ask (S.request q)).run (p, w) = .ok a (p, w') →
      x.run (p, w) = .ok () (p.settle q, w'))
    (herror : ∀ {w w' f}, (Work.ask (S.request q)).run (p, w) = .error f (p, w') →
      x.run (p, w) = .error f (p, w')) : Performs S x p [q] := by
  intro w
  have hask := Work.run_ask_request S q p w
  cases h : (S.serve q).run w with
  | ok a w' =>
    rw [h] at hask
    rw [hok hask, outcome_cons_ok h]
    rfl
  | error status w' =>
    rw [h] at hask
    rw [herror hask, outcome_cons_error h]

theorem Performs.append {qs rs : List Request} (hx : Performs S x p qs)
    (hy : Performs S y (qs.foldl settle p) rs) :
    Performs S (do x; y) p (qs ++ rs) := by
  intro w
  rw [outcome_append, EStateM.run_bind, hx w]
  cases hd : (S.deliver qs w).refusal with
  | none => simp [Delivery.outcome, hd]; exact hy _
  | some status => simp [Delivery.outcome, hd]

end

namespace Principal

variable {s : Session σ} {p : Principal}

/-! ## The steps of a commit -/

theorem performs_commitPassword (s : Session σ) (p : Principal) :
    Performs s.service (commitPassword s) p p.passwordChange?.toList := by
  cases h : p.secret.pending? with
  | none =>
    have hplan : p.passwordChange?.toList = [] := by simp [passwordChange?, h]
    rw [hplan]
    exact .nil fun w => by simp [commitPassword, h]
  | some secret =>
    have hplan : p.passwordChange?.toList = [.changePassword p.id secret.bytes] := by
      simp [passwordChange?, h]
    rw [hplan]
    refine .single (fun hask => ?_) fun hask => ?_
    · simp [commitPassword, h, Session.changePassword, hask, settle]
    · simp [commitPassword, h, Session.changePassword, hask]

theorem performs_commitName (s : Session σ) (hp : p.Consistent) :
    Performs s.service (commitName s) p p.nameChange?.toList := by
  have hdirty := hp.name_dirty
  cases h : p.pendingName with
  | none =>
    have hplan : p.nameChange?.toList = [] := by simp [nameChange?, h]
    have hclean : .principal ∉ p.dirty := by simpa [h] using hdirty
    rw [hplan]
    exact .nil fun w => by simp [commitName, hclean]
  | some target =>
    have hplan : p.nameChange?.toList = [.rename p.id target] := by simp [nameChange?, h]
    have hname : .principal ∈ p.dirty := by simpa [h] using hdirty
    rw [hplan]
    refine .single (fun hask => ?_) fun hask => ?_
    · simp [commitName, hname, h, Session.rename, hask, settle]
    · simp [commitName, hname, h, Session.rename, hask]

/-- The dirty fields but for the name are those that a request may write. -/
theorem Consistent.forModify_dirty (hp : p.Consistent) :
    p.dirty.forModify = p.dirty.erase .principal :=
  FieldSet.ext_mem fun f => by
    rw [FieldSet.mem_forModify, FieldSet.mem_erase]
    constructor
    · rintro ⟨hf, hallowed⟩
      exact ⟨hf, fun hname => by simp [hname, Field.allowedOnModify] at hallowed⟩
    · rintro ⟨hf, hname⟩
      exact ⟨hf, hp.writable f hf hname⟩

theorem performs_commitFields (s : Session σ) (hp : p.Consistent) (hname : p.pendingName = none) :
    Performs s.service (commitFields s) p p.fieldChange?.toList := by
  have hclean : .principal ∉ p.dirty := by simpa [hname] using hp.name_dirty
  have hfields := hp.forModify_dirty
  cases h : (p.dirty.erase .principal).isEmpty with
  | true =>
    have hplan : p.fieldChange?.toList = [] := by simp [fieldChange?, h]
    have hempty : p.dirty = .empty := by
      rw [FieldSet.isEmpty_iff, FieldSet.eq_empty_iff] at h
      refine FieldSet.eq_empty_iff.mpr fun f hf => h f (FieldSet.mem_erase.mpr ⟨hf, ?_⟩)
      exact fun he => hclean (he ▸ hf)
    rw [hplan]
    exact .nil fun w => by simp [commitFields, hfields, h, ← hempty]
  | false =>
    have hplan : p.fieldChange?.toList =
        [.modify { p.record with principal := some p.id } p.dirty.forModify] := by
      simp [fieldChange?, hfields, h, name, hname]
    rw [hplan]
    refine .single (fun hask => ?_) fun hask => ?_
    · dsimp only at hask
      simp [commitFields, hfields, h, Session.modify, hask, settle]
    · dsimp only at hask
      simp [commitFields, hfields, h, Session.modify, hask]

/-! ## The plan that is left -/

@[simp] theorem passwordChange?_passwordChanged (p : Principal) :
    p.passwordChanged.passwordChange? = none := by
  simp [passwordChange?, passwordChanged]

@[simp] theorem nameChange?_passwordChanged (p : Principal) :
    p.passwordChanged.nameChange? = p.nameChange? := rfl

@[simp] theorem fieldChange?_passwordChanged (p : Principal) :
    p.passwordChanged.fieldChange? = p.fieldChange? := rfl

theorem passwordChange?_renamed (h : p.passwordChange? = none) :
    p.renamed.passwordChange? = none := by
  simpa [passwordChange?, renamed] using h

@[simp] theorem nameChange?_renamed (p : Principal) : p.renamed.nameChange? = none := rfl

@[simp] theorem fieldChange?_renamed (p : Principal) :
    p.renamed.fieldChange? = p.fieldChange? := by
  have herase : (p.dirty.erase .principal).erase .principal = p.dirty.erase .principal :=
    FieldSet.ext_mem fun f => by simp
  simp [fieldChange?, renamed, herase, name]

/-- The first change, which is addressed to the name by which the service
knows the principal, and what is left once it is carried out. -/
theorem changes_cons {q : Request} {rest : List Request} (h : p.changes = q :: rest) :
    (p.settle q).changes = rest ∧
      ((∃ secret, p.secret.pending? = some secret ∧ q = .changePassword p.id secret.bytes) ∨
      (∃ target, p.pendingName = some target ∧ q = .rename p.id target) ∨
      (p.pendingName = none ∧
        q = .modify { p.record with principal := some p.id } (p.dirty.erase .principal))) := by
  cases hsecret : p.secret.pending? with
  | some secret =>
    have hpassword : p.passwordChange? = some (.changePassword p.id secret.bytes) := by
      simp [passwordChange?, hsecret]
    simp only [changes, hpassword, Option.toList_some, List.cons_append, List.nil_append,
      List.cons.injEq] at h
    obtain ⟨rfl, rfl⟩ := h
    exact ⟨by simp [changes, Principal.settle], .inl ⟨secret, rfl, rfl⟩⟩
  | none =>
    have hpassword : p.passwordChange? = none := by simp [passwordChange?, hsecret]
    cases hname : p.pendingName with
    | some target =>
      have hrename : p.nameChange? = some (.rename p.id target) := by simp [nameChange?, hname]
      simp only [changes, hpassword, hrename, Option.toList_none, Option.toList_some,
        List.cons_append, List.nil_append, List.cons.injEq] at h
      obtain ⟨rfl, rfl⟩ := h
      exact ⟨by simp [changes, Principal.settle, passwordChange?_renamed hpassword],
        .inr (.inl ⟨target, rfl, rfl⟩)⟩
    | none =>
      have hrename : p.nameChange? = none := by simp [nameChange?, hname]
      cases hfields : p.fieldChange? with
      | none => simp [changes, hpassword, hrename, hfields] at h
      | some change =>
        obtain ⟨-, rfl⟩ : _ ∧ _ = change := by simpa [fieldChange?] using hfields
        simp only [changes, hpassword, hrename, hfields, Option.toList_none, Option.toList_some,
          List.nil_append, List.cons.injEq] at h
        obtain ⟨rfl, rfl⟩ := h
        refine ⟨?_, .inr (.inr ⟨rfl, by rw [name, hname, Option.getD_none]⟩)⟩
        have hpassword' : p.modified.passwordChange? = none := hpassword
        have hrename' : p.modified.nameChange? = none := hrename
        have hfields' : p.modified.fieldChange? = none := by
          simp [fieldChange?, modified, FieldSet.isEmpty_iff, FieldSet.eq_empty_iff]
        simp [changes, Principal.settle, hpassword', hrename', hfields']

/-- The fields are written last. -/
theorem changes_of_modify {record : Record} {fields : FieldSet} {rest : List Request}
    (h : p.changes = .modify record fields :: rest) : rest = [] := by
  cases hsecret : p.secret.pending? with
  | some secret => simp [changes, passwordChange?, hsecret] at h
  | none =>
    cases hname : p.pendingName with
    | some target => simp [changes, passwordChange?, hsecret, nameChange?, hname] at h
    | none =>
      have hfields : p.fieldChange?.toList = .modify record fields :: rest := by
        simpa [changes, passwordChange?, hsecret, nameChange?, hname] using h
      cases hchange : p.fieldChange? <;> simp_all

/-- A change is about the password, the name or the fields. -/
theorem mem_changes {q : Request} (h : q ∈ p.changes) :
    (∃ bytes, q = .changePassword p.id bytes) ∨ (∃ target, q = .rename p.id target) ∨
      ∃ record, q = .modify record (p.dirty.erase .principal) ∧ record.principal = some p.name := by
  simp only [changes, List.mem_append, Option.mem_toList] at h
  rcases h with (h | h) | h
  · obtain ⟨secret, -, rfl⟩ := Option.map_eq_some_iff.mp h
    exact .inl ⟨secret.bytes, rfl⟩
  · obtain ⟨target, -, rfl⟩ := Option.map_eq_some_iff.mp h
    exact .inr (.inl ⟨target, rfl⟩)
  · obtain ⟨-, rfl⟩ : _ ∧ _ = q := by simpa [fieldChange?] using h
    exact .inr (.inr ⟨_, rfl, rfl⟩)

/-- Once the first change is carried out the others are the changes left. -/
theorem Consistent.settle (hp : p.Consistent) {q : Request} {rest : List Request}
    (h : p.changes = q :: rest) :
    (p.settle q).Consistent ∧ (p.settle q).changes = rest ∧
      (p.settle q).presence = p.presence := by
  obtain ⟨hrest, ⟨secret, -, rfl⟩ | ⟨target, -, rfl⟩ | ⟨hname, rfl⟩⟩ := changes_cons h
  · exact ⟨hp.passwordChanged, hrest, rfl⟩
  · exact ⟨hp.renamed, hrest, rfl⟩
  · exact ⟨modified_consistent hname, hrest, rfl⟩

/-- After the first changes were carried out the others are the changes left,
and the principal is still consistent. -/
theorem Consistent.settle_take (hp : p.Consistent) : ∀ i,
    (((p.changes.take i).foldl Principal.settle p).Consistent ∧
      ((p.changes.take i).foldl Principal.settle p).changes = p.changes.drop i ∧
      ((p.changes.take i).foldl Principal.settle p).presence = p.presence) := by
  intro i
  induction i generalizing p with
  | zero => exact ⟨hp, rfl, rfl⟩
  | succ i ih =>
    cases h : p.changes with
    | nil => exact ⟨hp, by simpa using h, rfl⟩
    | cons q rest =>
      obtain ⟨hconsistent, hrest, hpresence⟩ := hp.settle h
      have := ih hconsistent
      rw [hrest] at this
      simpa [hpresence] using this

/-! ## The whole commit -/

theorem performs_changes (s : Session σ) (hp : p.Consistent) :
    Performs s.service (do commitPassword s; commitName s; commitFields s) p p.changes := by
  have hpassword : ∃ p₁ : Principal, p.passwordChange?.toList.foldl Principal.settle p = p₁ ∧
      p₁.Consistent ∧ p₁.nameChange? = p.nameChange? ∧ p₁.fieldChange? = p.fieldChange? := by
    refine ⟨_, rfl, ?_⟩
    cases h : p.secret.pending? with
    | none => simpa [passwordChange?, h] using hp
    | some secret => simpa [passwordChange?, h, Principal.settle] using hp.passwordChanged
  obtain ⟨p₁, hp₁, hconsistent, hname₁, hfields₁⟩ := hpassword
  have hname : ∃ p₂ : Principal, p₁.nameChange?.toList.foldl Principal.settle p₁ = p₂ ∧
      p₂.Consistent ∧ p₂.pendingName = none ∧ p₂.fieldChange? = p₁.fieldChange? := by
    refine ⟨_, rfl, ?_⟩
    cases h : p₁.pendingName with
    | none => simpa [nameChange?, h] using hconsistent
    | some target =>
      have hrenamed : p₁.renamed.pendingName = none := rfl
      simpa [nameChange?, h, Principal.settle, hrenamed] using hconsistent.renamed
  obtain ⟨p₂, hp₂, hconsistent₂, hpending₂, hfields₂⟩ := hname
  have hsplit : p.changes =
      p.passwordChange?.toList ++ (p₁.nameChange?.toList ++ p₂.fieldChange?.toList) := by
    rw [changes, hname₁, hfields₂, hfields₁, List.append_assoc]
  rw [hsplit]
  refine (performs_commitPassword s p).append ?_
  rw [hp₁]
  refine (performs_commitName s hconsistent).append ?_
  rw [hp₂]
  exact performs_commitFields s hconsistent₂ hpending₂

theorem withPassword_of_pending (h : p.secret.isPending = true) (g : PasswordGenerator)
    (e : Entropy) : p.withPassword g e = p := by
  simp [withPassword, h]

theorem pending?_withPassword (p : Principal) (g : PasswordGenerator) (e : Entropy) :
    (p.withPassword g e).secret.pending? = some (p.secret.pending?.getD (g.generate e)) := by
  cases h : p.secret.pending? with
  | none =>
    have hpending : p.secret.isPending = false := by simp [SecretSlot.isPending, h]
    simp [withPassword, hpending, randomizePassword, setPassword, SecretSlot.pending?]
  | some secret =>
    have hpending : p.secret.isPending = true := by simp [SecretSlot.isPending, h]
    simp [withPassword, hpending, h]

theorem isPending_withPassword (p : Principal) (g : PasswordGenerator) (e : Entropy) :
    (p.withPassword g e).secret.isPending = true := by
  simp [SecretSlot.isPending, pending?_withPassword]

/-- A password in the slot changes nothing else about the principal. -/
theorem withPassword_eq (p : Principal) (g : PasswordGenerator) (e : Entropy) :
    p.withPassword g e = { p with secret := (p.withPassword g e).secret } := by
  unfold withPassword
  split <;> rfl

/-- Once there is a password, later randomness plays no part. -/
theorem creation_withPassword (p : Principal) (g : PasswordGenerator) (e e' : Entropy) :
    (p.withPassword g e).creation g e' = p.creation g e := by
  have hsecret := pending?_withPassword p g e
  rw [creation, hsecret, withPassword_eq]
  rfl

theorem performs_commitCreation_of_pending (s : Session σ) (h : p.secret.isPending = true)
    (g : PasswordGenerator) (e : Entropy) :
    Performs s.service (commitCreation s g e) p [p.creation g e] := by
  obtain ⟨secret, hsecret⟩ := Option.isSome_iff_exists.mp h
  have hcreation : p.creation g e =
      .create { p.record with principal := some p.name } p.creationFields secret.bytes := by
    simp [creation, hsecret]
  rw [hcreation]
  refine .single (fun hask => ?_) fun hask => ?_
  · dsimp only at hask
    simp [commitCreation, withPassword_of_pending h, hsecret, Session.create, hask,
      Principal.settle]
  · dsimp only at hask
    simp [commitCreation, withPassword_of_pending h, hsecret, Session.create, hask]

theorem performs_commitCreation (s : Session σ) (p : Principal) (g : PasswordGenerator)
    (e : Entropy) (w : σ) : (commitCreation s g e).run (p, w) =
      (s.service.deliver [p.creation g e] w).outcome (p.withPassword g e) [p.creation g e] := by
  have hpending := isPending_withPassword p g e
  have hready : (commitCreation s g e).run (p, w) =
      (commitCreation s g e).run (p.withPassword g e, w) := by
    simp [commitCreation, withPassword_of_pending hpending]
  have hperforms := performs_commitCreation_of_pending s hpending g e w
  rw [creation_withPassword] at hperforms
  rw [hready, hperforms]

/-- A commit loads the principal and then performs its plan. -/
theorem run_commit (s : Session σ) (g : PasswordGenerator) (e : Entropy) (hp : p.Consistent)
    (w : σ) : (commit s g e).run (p, w) =
      match (load s).run (p, w) with
      | .error f x => .error f x
      | .ok _ (p₁, w₁) =>
        (s.service.deliver (p₁.plan g e) w₁).outcome (p₁.readied g e) (p₁.plan g e) := by
  have hload := load_run s p w
  cases h : (load s).run (p, w) with
  | error f x => simp [commit, isStored, h]
  | ok a x =>
    obtain ⟨p₁, w₁⟩ := x
    rw [h] at hload
    have hp₁ : p₁.Consistent := hp.of_stagedAlike hload.stagedAlike (hload.known hp.known)
    by_cases hpresence : p₁.presence = .present
    · have := performs_changes s hp₁ w₁
      simpa [commit, isStored, h, hpresence, plan, readied] using this
    · have := performs_commitCreation s p₁ g e w₁
      simpa [commit, isStored, h, hpresence, plan, readied] using this

/-! ## What a commit leaves -/

theorem stateOf_outcome {S : Service σ} {qs : List Request} {w : σ} (p : Principal) :
    stateOf ((S.deliver qs w).outcome p qs) =
      ((qs.take (S.deliver qs w).carriedOut).foldl Principal.settle p, (S.deliver qs w).world) := by
  cases h : (S.deliver qs w).refusal with
  | none => simp [Delivery.outcome, h, Service.carriedOut_eq_length h]
  | some status => simp [Delivery.outcome, h]

theorem changes_created (p : Principal) : p.created.changes = [] := by
  simp [changes, created, passwordChange?, nameChange?, fieldChange?, FieldSet.isEmpty_iff,
    FieldSet.eq_empty_iff]

/-- After the first requests of the plan were carried out the others are the
plan, whatever randomness there is by then. -/
theorem plan_after (hp : p.Consistent) (g : PasswordGenerator) (e : Entropy) (i : Nat) :
    (((p.plan g e).take i).foldl Principal.settle (p.readied g e)).Consistent ∧
      ∀ e', (((p.plan g e).take i).foldl Principal.settle (p.readied g e)).plan g e' =
        (p.plan g e).drop i := by
  by_cases hpresence : p.presence = .present
  · obtain ⟨hconsistent, hrest, hpresent⟩ := hp.settle_take i
    rw [plan, readied, if_pos hpresence, if_pos hpresence]
    exact ⟨hconsistent, fun e' => by rw [plan, if_pos (hpresent.trans hpresence), hrest]⟩
  · rw [plan, readied, if_neg hpresence, if_neg hpresence]
    cases i with
    | zero =>
      have hstill : (p.withPassword g e).presence ≠ .present := by
        rw [withPassword_eq]
        exact hpresence
      refine ⟨hp.withPassword g e, fun e' => ?_⟩
      simp [plan, hstill, creation_withPassword]
    | succ i =>
      have hfold : ([p.creation g e].take (i + 1)).foldl Principal.settle (p.withPassword g e) =
          (p.withPassword g e).created := by simp [creation, Principal.settle]
      have hcreated : (p.withPassword g e).created.presence = .present := rfl
      rw [hfold]
      refine ⟨created_consistent _, fun e' => ?_⟩
      simp [plan, hcreated, changes_created]

/-- Being carried out or not, a request leaves the name to show as it is. -/
theorem name_settle (p : Principal) (q : Request) : (p.settle q).name = p.name := by
  cases q <;> rfl

theorem name_foldl_settle (qs : List Request) (p : Principal) :
    (qs.foldl Principal.settle p).name = p.name := by
  induction qs generalizing p with
  | nil => rfl
  | cons q qs ih => rw [List.foldl_cons, ih, name_settle]

theorem name_readied (p : Principal) (g : PasswordGenerator) (e : Entropy) :
    (p.readied g e).name = p.name := by
  unfold readied
  split
  · rfl
  · rw [withPassword_eq]
    rfl

/-- A principal that is there and has no changes has nothing staged. -/
theorem Consistent.of_changes_eq_nil (hp : p.Consistent) (h : p.changes = []) :
    p.pendingName = none ∧ p.dirty = .empty ∧ p.secret.isPending = false := by
  simp only [changes, List.append_eq_nil_iff, Option.toList_eq_nil_iff] at h
  obtain ⟨⟨hpassword, hname⟩, hfields⟩ := h
  have hpending : p.pendingName = none := by simpa [nameChange?] using hname
  have hclean : .principal ∉ p.dirty := by simpa [hpending] using hp.name_dirty
  refine ⟨hpending, FieldSet.eq_empty_iff.mpr fun f hf => ?_, ?_⟩
  · have herase : (p.dirty.erase .principal).isEmpty = true := by
      simpa [fieldChange?] using hfields
    rw [FieldSet.isEmpty_iff, FieldSet.eq_empty_iff] at herase
    exact herase f (FieldSet.mem_erase.mpr ⟨hf, fun he => hclean (he ▸ hf)⟩)
  · simpa [passwordChange?, SecretSlot.isPending] using hpassword

/-- When the whole plan was carried out the principal is there, and nothing is
staged for it. -/
theorem Consistent.plan_done (hp : p.Consistent) (g : PasswordGenerator) (e : Entropy) :
    ∃ p', (p.plan g e).foldl Principal.settle (p.readied g e) = p' ∧ p'.presence = .present ∧
      p'.pendingName = none ∧ p'.dirty = .empty ∧ p'.secret.isPending = false ∧ p'.id = p.name := by
  obtain ⟨hconsistent, hrest⟩ := plan_after hp g e (p.plan g e).length
  have hid := name_foldl_settle (p.plan g e) (p.readied g e)
  rw [List.take_length] at hconsistent hrest
  rw [name_readied] at hid
  refine ⟨_, rfl, ?_⟩
  generalize (p.plan g e).foldl Principal.settle (p.readied g e) = p' at *
  have hplan : p'.plan g e = [] := by rw [hrest, List.drop_length]
  by_cases hpresence : p'.presence = .present
  · rw [plan, if_pos hpresence] at hplan
    obtain ⟨hname, hdirty, hsecret⟩ := hconsistent.of_changes_eq_nil hplan
    rw [name, hname, Option.getD_none] at hid
    exact ⟨hpresence, hname, hdirty, hsecret, hid⟩
  · simp [plan, hpresence] at hplan

/-- A commit keeps a principal consistent, however it ends. -/
theorem Consistent.commit (hp : p.Consistent) (s : Session σ) (g : PasswordGenerator)
    (e : Entropy) (w : σ) : (stateOf ((commit s g e).run (p, w))).1.Consistent := by
  have hload := load_run s p w
  rw [run_commit s g e hp w]
  cases h : (load s).run (p, w) with
  | error f x =>
    rw [h] at hload
    exact hp.of_stagedAlike hload.stagedAlike (hload.known hp.known)
  | ok a x =>
    rw [h] at hload
    have hp₁ : x.1.Consistent := hp.of_stagedAlike hload.stagedAlike (hload.known hp.known)
    rw [stateOf_outcome]
    exact (plan_after hp₁ g e _).1

end Principal

end RealmAdmin
