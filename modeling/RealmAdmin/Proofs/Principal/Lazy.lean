/-
RealmAdmin.Proofs.Principal.Lazy — when a principal asks the service.

A principal that is loaded asks nothing: whatever is staged and whatever is
asked about it, the service is left alone and every question is answered
(`loaded_takeAll`). One that is not takes at most two reads to load, its own
record and then the realm's template, and both ask for what is not staged
(`requests_loadReads`). It is known to be there only after its own record was
read or it was created; what the template's read says plays no part
(`presence_after`).
-/
import RealmAdmin.Proofs.Principal.Commit

namespace RealmAdmin

variable {σ : Type}

/-- The connection with a record of its exchanges. -/
def Connection.recorded (c : Connection σ) : Connection (σ × List Exchange) :=
  ⟨c.session.recorded, c.generator⟩

namespace Principal

variable {p : Principal} {w : σ}

/-! ## Principals that are loaded -/

/-- Whether the action carries nothing out: it stages something, or looks at
the principal. -/
def Action.IsLocal : Action → Prop
  | .setName _ | .setPassword _ | .randomizePassword _ | .edit _ | .load | .ask _ => True
  | .commit _ | .delete => False

/-- Take actions in turn, whether they succeed or not. -/
def takeAll (c : Connection σ) : List Action → Principal × σ → Principal × σ
  | [], y => y
  | a :: rest, y => takeAll c rest (stateOf ((a.run c).run y))

theorem load_of_loaded (h : p.loaded = true) (s : Session σ) (w : σ) :
    (load s).run (p, w) = .ok () (p, w) := by
  rw [run_load, if_pos h]

/-- A local action leaves a loaded principal loaded, and the outside world as
it was. -/
theorem loaded_after {a : Action} (ha : a.IsLocal) (h : p.loaded = true) (c : Connection σ)
    (w : σ) : ∃ p', stateOf ((a.run c).run (p, w)) = (p', w) ∧ p'.loaded = true := by
  cases a with
  | setName text =>
    rcases setName_run c.session text p w with ⟨name, -, hrun⟩ | ⟨f, -, hrun⟩
    · exact ⟨p.rename name, by rw [Action.run, hrun]; rfl, (rename_same p name).2.2.1.trans h⟩
    · exact ⟨p, by rw [Action.run, hrun]; rfl, h⟩
  | setPassword secret => exact ⟨_, rfl, h⟩
  | randomizePassword e => exact ⟨_, rfl, h⟩
  | edit d => exact ⟨_, rfl, (stage_same p d).2.2.trans h⟩
  | load => exact ⟨p, by rw [Action.run, load_of_loaded h]; rfl, h⟩
  | ask question => exact ⟨p, by rw [Action.run, stateOf_ask, load_of_loaded h]; rfl, h⟩
  | commit e => exact ha.elim
  | delete => exact ha.elim

/-- So do many of them. -/
theorem loaded_takeAll (c : Connection σ) {actions : List Action}
    (hactions : ∀ a ∈ actions, a.IsLocal) (h : p.loaded = true) (w : σ) :
    ∃ p', takeAll c actions (p, w) = (p', w) ∧ p'.loaded = true := by
  induction actions generalizing p with
  | nil => exact ⟨p, rfl, h⟩
  | cons a rest ih =>
    obtain ⟨p₁, hstate, h₁⟩ := loaded_after (hactions a List.mem_cons_self) h c w
    rw [takeAll, hstate]
    exact ih (fun a ha => hactions a (List.mem_cons_of_mem _ ha)) h₁

/-! ## Principals that are not -/

theorem mem_fieldsToRead {f : Field} :
    f ∈ p.fieldsToRead ↔ f = .principal ∨ f ≠ .keyData ∧ f ∉ p.dirty := by
  rw [fieldsToRead, FieldSet.mem_insert, FieldSet.mem_difference, FieldSet.mem_readable, or_comm]

/-- What a load asks the service, in order. -/
theorem requests_loadReads (hunread : p.loaded = false) (s : Session σ) (w : σ) :
    let own := failureOf ((s.service.serve (.get p.id p.fieldsToRead)).run w)
    (loadReads s p w).map (·.request) =
      (if p.presence = .absent then [] else [.get p.id p.fieldsToRead]) ++
        (if (p.presence = .absent ∨ own = some .unknownPrincipal) ∧ p.id.realm ≠ "" then
          [.get ⟨["default"], p.id.realm⟩ p.fieldsToRead] else []) := by
  intro own
  have htemplate (w : σ) : (templateReads s p w).map (·.request) =
      if p.id.realm = "" then [] else [.get ⟨["default"], p.id.realm⟩ p.fieldsToRead] := by
    rw [templateReads, Name.template_eq]
    split <;> rfl
  rw [loadReads, if_neg (by simp [hunread])]
  by_cases habsent : p.presence = .absent
  · simp [habsent, htemplate]
  · by_cases hunknown : own = some .unknownPrincipal
    · simp [habsent, Service.exchange, own, hunknown, htemplate]
    · simp [habsent, Service.exchange, own, hunknown]

/-- What a load finds out about the presence is what the principal's own read
says. -/
theorem presence_load (hunread : p.loaded = false) (s : Session σ) (w : σ) :
    (stateOf ((load s).run (p, w))).1.presence =
      if p.presence = .absent then .absent
      else match failureOf ((s.service.serve (.get p.id p.fieldsToRead)).run w) with
        | none => .present
        | some status => if status = .unknownPrincipal then .absent else p.presence := by
  have hown := s.exchange_of_fetch? p.id p.fieldsToRead w
  have hrun := load_run s p w
  generalize (load s).run (p, w) = result at hrun
  cases hrun with
  | kept hloaded => simp [hunread] at hloaded
  | found hloaded hpresence hread =>
    rw [hread] at hown
    have hnone : failureOf ((s.service.serve (.get p.id p.fieldsToRead)).run w) = none :=
      congrArg Exchange.refusal hown
    simp [hpresence, hnone, Principal.found]
  | refused hloaded hpresence hread =>
    rw [hread] at hown
    obtain ⟨status, hrefused, hknown⟩ := hown
    have hsome : failureOf ((s.service.serve (.get p.id p.fieldsToRead)).run w) = some status :=
      congrArg Exchange.refusal hrefused
    simp [hpresence, hsome, hknown]
  | missing hloaded habsent htemplate =>
    have hmissing := htemplate.presence
    rw [hmissing]
    rcases habsent with ⟨habsent, -⟩ | ⟨hpresence, hread⟩
    · simp [habsent]
    · rw [hread] at hown
      have hsome : failureOf ((s.service.serve (.get p.id p.fieldsToRead)).run w) =
          some .unknownPrincipal := congrArg Exchange.refusal hown
      simp [hpresence, hsome]

/-! ## Principals that are found -/

/-- A load that has found the principal has read its own record, and no other. -/
theorem loadReads_of_present {s : Session σ} (hbefore : p.presence ≠ .present)
    (hafter : (stateOf ((load s).run (p, w))).1.presence = .present) :
    p.presence ≠ .absent ∧ p.loaded = false ∧
      loadReads s p w = [⟨.get p.id p.fieldsToRead, none⟩] := by
  have hrun := load_run s p w
  cases hload : (load s).run (p, w) with
  | error f x =>
    rw [hload] at hrun hafter
    cases hrun with
    | refused hloaded hpresence hread => exact absurd hafter hbefore
    | missing hloaded habsent htemplate =>
      rw [htemplate.presence] at hafter
      cases hafter
  | ok a x =>
    rw [hload] at hrun hafter
    have hreads := loadReads_of_found hload hafter
    cases hrun with
    | kept hloaded => exact absurd hafter hbefore
    | found hloaded hpresence hread => exact ⟨hpresence, hloaded, by simpa [hloaded] using hreads⟩
    | missing hloaded habsent htemplate =>
      have hmissing := htemplate.presence
      rw [hafter] at hmissing
      cases hmissing

/-- Whether a record of calls shows how a principal was found to be there: it
begins with the answer to a read of the principal's own record, or it ends with
a request that has created the principal. -/
def ShowsFound (p p' : Principal) (log : List Exchange) : Prop :=
  p.presence ≠ .absent ∧ p.loaded = false ∧
      log.head? = some ⟨.get p.id p.fieldsToRead, none⟩ ∨
    ∃ record fields password, log.getLast? = some ⟨.create record fields password, none⟩ ∧
      record.principal = some p'.id

/-- A principal that a load finds was read. -/
theorem showsFound_load (s : Session σ) (hbefore : p.presence ≠ .present)
    (hafter : (stateOf ((load s).run (p, w))).1.presence = .present) (p' : Principal)
    (sent : List Exchange) : ShowsFound p p' (loadReads s p w ++ sent) := by
  obtain ⟨hpresence, hunread, hreads⟩ := loadReads_of_present hbefore hafter
  exact .inl ⟨hpresence, hunread, by rw [hreads]; rfl⟩

/-- A principal that a commit leaves present was found by its load, or created. -/
theorem showsFound_commit (hp : p.Consistent) (s : Session σ) (g : PasswordGenerator)
    (e : Entropy) (hbefore : p.presence ≠ .present) :
    let y := stateOf ((commit s.recorded g e).run (p, (w, [])))
    y.1.presence = .present → ShowsFound p y.1 y.2.2 := by
  intro y hafter
  have hfound := showsFound_load (w := w) s hbefore
  simp only [y, run_commit_recorded s g e hp, stateOf_onRecord, run_commit s g e hp, sent,
    List.nil_append] at hafter ⊢
  cases hload : (load s).run (p, w) with
  | error f x =>
    rw [hload] at hafter hfound
    exact hfound hafter _ _
  | ok a x =>
    obtain ⟨p₁, w₁⟩ := x
    rw [hload] at hafter hfound
    simp only [stateOf_outcome] at hafter ⊢
    by_cases hpresent : p₁.presence = .present
    · exact hfound hpresent _ _
    · simp only [plan, readied, if_neg hpresent] at hafter ⊢
      have hready : (p₁.withPassword g e).presence = p₁.presence ∧
          (p₁.withPassword g e).name = p₁.name := by
        rw [withPassword_eq]
        exact ⟨rfl, rfl⟩
      cases hserve : (s.service.serve (p₁.creation g e)).run w₁ with
      | error status w₂ =>
        rw [Service.deliver_cons_error hserve] at hafter
        exact absurd (hready.1.symm.trans hafter) hpresent
      | ok a w₂ =>
        rw [Service.deliver_cons_ok hserve]
        refine .inr ⟨{ p₁.record with principal := some p₁.name }, p₁.creationFields,
          (p₁.secret.pending?.getD (g.generate e)).bytes, ?_, ?_⟩
        · simp [Delivery.exchanges, creation]
        · exact congrArg some hready.2.symm

/-- **A principal is known to be there** only after its own record was read, or
after it was created. -/
theorem showsFound_after (hp : p.Consistent) (c : Connection σ) (a : Action)
    (hbefore : p.presence ≠ .present) :
    let y := stateOf ((a.run c.recorded).run (p, (w, [])))
    y.1.presence = .present → ShowsFound p y.1 y.2.2 := by
  have hload : let y := stateOf ((load c.recorded.session).run (p, (w, [])))
      y.1.presence = .present → ShowsFound p y.1 y.2.2 := by
    intro y hafter
    have hrun : (load c.recorded.session).run (p, (w, [])) = _ := load_recorded c.session p w []
    simp only [y, hrun, stateOf_onRecord, List.nil_append] at hafter ⊢
    simpa using showsFound_load c.session hbefore hafter _ []
  intro y hafter
  cases a with
  | setName text =>
    rcases setName_run c.recorded.session text p (w, []) with ⟨name, -, hrun⟩ | ⟨f, -, hrun⟩
    · simp only [y, Action.run, hrun, stateOf_ok, (rename_same p name).2.1] at hafter
      exact absurd hafter hbefore
    · simp only [y, Action.run, hrun, stateOf_error] at hafter
      exact absurd hafter hbefore
  | setPassword secret => exact absurd hafter hbefore
  | randomizePassword e => exact absurd hafter hbefore
  | edit d =>
    have hsame : y.1.presence = p.presence := (stage_same p d).2.1
    exact absurd (hsame.symm.trans hafter) hbefore
  | load => exact hload hafter
  | ask question =>
    simp only [y, Action.run, stateOf_ask] at hafter ⊢
    exact hload hafter
  | commit e => exact showsFound_commit hp c.session c.generator e hbefore hafter
  | delete =>
    rcases delete_run c.recorded p (w, []) with ⟨w', hrun⟩ | ⟨f, w', hrun⟩
    · simp only [y, Action.run, hrun, stateOf_ok] at hafter
      cases hafter
    · simp only [y, Action.run, hrun, stateOf_error] at hafter
      exact absurd hafter hbefore

/-- **Reading is lazy.** A loaded principal asks nothing of the service, and
answers every question. A load that has to read asks for the principal's own
record unless it is known to be missing, and for the template if it is missing,
each time for what is not staged; a realm without a name has no template. And
only the answer to the first of these reads, or a creation, makes the principal
one that is there. -/
theorem lazy_reading (hp : Reachable p) (c : Connection σ) (w : σ) :
    (p.loaded = true → ∀ actions : List Action, (∀ a ∈ actions, a.IsLocal) →
      ∀ log, let y := takeAll c.recorded actions (p, (w, log))
        y.2 = (w, log) ∧ (load c.recorded.session).run y = .ok () y ∧
          ∀ question : Question,
            (question.get c.recorded.session).run y = .ok (question.answerFor y.1) y) ∧
    (p.loaded = false →
      let y := stateOf ((load c.recorded.session).run (p, (w, [])))
      let own := failureOf ((c.session.service.serve (.get p.id p.fieldsToRead)).run w)
      y.2.2.map (·.request) =
          (if p.presence = .absent then [] else [.get p.id p.fieldsToRead]) ++
            (if (p.presence = .absent ∨ own = some .unknownPrincipal) ∧ p.id.realm ≠ "" then
              [.get ⟨["default"], p.id.realm⟩ p.fieldsToRead] else []) ∧
        y.1.presence = if p.presence = .absent then .absent else match own with
          | none => .present
          | some status => if status = .unknownPrincipal then .absent else p.presence) ∧
    (∀ f, f ∈ p.fieldsToRead ↔ f = .principal ∨ f ≠ .keyData ∧ f ∉ p.dirty) ∧
    (p.presence ≠ .present → ∀ a : Action,
      let y := stateOf ((a.run c.recorded).run (p, (w, [])))
      y.1.presence = .present → ShowsFound p y.1 y.2.2) := by
  refine ⟨fun hloaded actions hactions log => ?_, fun hunread => ?_, fun f => mem_fieldsToRead,
    fun hbefore a => showsFound_after hp.consistent c a hbefore⟩
  · obtain ⟨p', hstate, hloaded'⟩ := loaded_takeAll c.recorded hactions hloaded (w, log)
    have hload := load_of_loaded hloaded' c.recorded.session (w, log)
    intro y
    have hy : y = (p', (w, log)) := hstate
    rw [hy]
    exact ⟨rfl, hload, fun question => by rw [question.run_get, hload]⟩
  · have hrun : (load c.recorded.session).run (p, (w, [])) = _ := load_recorded c.session p w []
    simp only [hrun, stateOf_onRecord, List.nil_append]
    exact ⟨requests_loadReads hunread c.session w, presence_load hunread c.session w⟩

/-- Beside a service that has the template and nothing else, a load takes both
reads and finds nobody; what comes then asks nothing, until a commit creates
the principal. -/
theorem lazy_reading_of_template :
    let jdoe : Name := ⟨["jdoe"], "R"⟩
    let template : Name := ⟨["default"], "R"⟩
    let s : Session Unit := ⟨⟨fun
      | .get name _ => if name = template then pure .blank else throw .unknownPrincipal
      | .create .. | .modify .. | .rename .. | .changePassword .. | .delete _ => pure ()
      | .list _ => pure []
      | .privileges => pure .all⟩, ⟨["admin"], "R"⟩, "R", "kdc", 749⟩
    let c : Connection Unit := ⟨s, ⟨[]⟩⟩
    let p := (existing jdoe).setAttributes ⟨64⟩
    let read := stateOf ((load c.recorded.session).run (p, ((), [])))
    let created := stateOf (((Action.commit ⟨fun _ => 0, 0⟩).run c.recorded).run (read.1, ((), [])))
    Reachable p ∧ .attributes ∉ p.fieldsToRead ∧
      read.2.2.map (·.request) = [.get jdoe p.fieldsToRead, .get template p.fieldsToRead] ∧
      Reachable read.1 ∧ read.1.loaded = true ∧ read.1.presence = .absent ∧
      (takeAll c.recorded [.ask .maxLifetime, .setName "smith", .ask .isStored]
        (read.1, ((), read.2.2))).2 = ((), read.2.2) ∧
      created.1.presence = .present ∧ ShowsFound read.1 created.1 created.2.2 := by
  intro jdoe template s c p read created
  have hp : Reachable p := .after (.existing jdoe) c (.edit (.attributes ⟨64⟩)) ()
  have hread : Reachable read.1 := .after hp c.recorded .load ((), [])
  have hloaded : read.1.loaded = true := by decide
  have habsent : read.1.presence = .absent := by decide
  have hcreated : created.1.presence = .present := by decide
  obtain ⟨-, hload, -, -⟩ := lazy_reading hp c ()
  obtain ⟨hsilent, -, -, hfound⟩ := lazy_reading hread c ()
  have hlocal : ∀ a ∈ [Action.ask .maxLifetime, .setName "smith", .ask .isStored], a.IsLocal := by
    simp [Action.IsLocal]
  refine ⟨hp, by decide, (hload rfl).1.trans (by decide), hread, hloaded, habsent,
    (hsilent hloaded _ hlocal read.2.2).1, hcreated, hfound (by simp [habsent]) _ hcreated⟩

end Principal

end RealmAdmin
