/-
RealmAdmin.Proofs.Principal.LoadFailure — what a load that fails leaves behind.

A load can fail at its first read or at the one after it, and what it asks for is
only read, so of the principal there is one thing that it can change: when the
service says that it does not know the principal, that is noted before the template
is read (`FindsMissing`). A load that fails after this leaves a principal that is
known to be missing (`load_failed`); one that fails before it, or that knew as much
already, leaves the principal as it was and will ask the same again.
-/
import RealmAdmin.Proofs.Principal.Lazy
import RealmAdmin.Realm.Serve

namespace RealmAdmin.Principal

variable {σ : Type} {s : Session σ} {p p' : Principal} {w w' : σ} {f : Failure}

/-- Whether a load finds out that the principal is missing: nothing says so yet, and
the service does not know the name. -/
def FindsMissing (s : Session σ) (p : Principal) (w : σ) : Prop :=
  p.presence ≠ .absent ∧
    (s.service.exchange (.get p.id p.fieldsToRead) w).refusal = some .unknownPrincipal

instance (s : Session σ) (p : Principal) (w : σ) : Decidable (FindsMissing s p w) :=
  inferInstanceAs (Decidable (_ ∧ _))

/-- Consulting the template fails without a trace. -/
theorem TemplateRun.failed (h : TemplateRun s p w (.error f (p', w'))) : p' = p := by
  cases h <;> rfl

/-- A load fails without a trace, but for what it has found out about the presence. -/
theorem load_failed (h : (load s).run (p, w) = .error f (p', w')) :
    p.loaded = false ∧ p' = if FindsMissing s p w then { p with presence := .absent } else p := by
  have hown := s.exchange_of_fetch? p.id p.fieldsToRead w
  have hrun := load_run s p w
  rw [h] at hrun
  cases hrun with
  | refused hloaded hpresence hread =>
    rw [hread] at hown
    obtain ⟨status, hrefused, hknown⟩ := hown
    have hfound : ¬ FindsMissing s p w := fun ⟨_, hmissing⟩ =>
      hknown (Option.some.inj ((congrArg Exchange.refusal hrefused).symm.trans hmissing))
    exact ⟨hloaded, (if_neg hfound).symm⟩
  | missing hloaded habsent htemplate =>
    refine ⟨hloaded, htemplate.failed.trans ?_⟩
    rcases habsent with ⟨habsent, -⟩ | ⟨hpresence, hread⟩
    · rw [if_neg fun hmissing => hmissing.1 habsent, ← habsent]
    · rw [hread] at hown
      rw [if_pos ⟨hpresence, congrArg Exchange.refusal hown⟩]

/-- A question fails only with its load. -/
theorem load_of_get_failed {question : Question}
    (h : (question.get s).run (p, w) = .error f (p', w')) :
    (load s).run (p, w) = .error f (p', w') := by
  rw [question.run_get] at h
  cases hload : (load s).run (p, w) with
  | ok a z => simp [hload] at h
  | error f' z => simpa [hload] using h

/-- What a recorded load has asked. -/
def asked (s : Session σ) (p : Principal) (w : σ) : List Request :=
  (stateOf ((load s.recorded).run (p, (w, [])))).2.2.map (·.request)

theorem asked_eq (s : Session σ) (p : Principal) (w : σ) :
    asked s p w = (loadReads s p w).map (·.request) := by
  rw [asked, load_recorded, stateOf_onRecord, List.nil_append]

/-- A load that does not know the principal to be missing asks for it first. -/
theorem head_asked (hunread : p.loaded = false) (hpresence : p.presence ≠ .absent) (w : σ) :
    (asked s p w).head? = some (.get p.id p.fieldsToRead) := by
  rw [asked_eq, requests_loadReads hunread, if_neg hpresence]
  rfl

/-- One that knows it to be missing asks for nothing but the template. -/
theorem asked_of_absent (hunread : p.loaded = false) (habsent : p.presence = .absent) (w : σ) :
    asked s p w =
      if p.id.realm = "" then [] else [.get ⟨["default"], p.id.realm⟩ p.fieldsToRead] := by
  rw [asked_eq, requests_loadReads hunread]
  simp [habsent]

/-- **What a failed load leaves.** A load that fails, or a question whose load fails,
leaves the principal as it was, with one exception: if the service did not know the
name, and nothing had said so before, the principal is known to be missing from then
on. So a principal that was not modified is modified if and only if this has happened;
and the next load asks for the principal itself again unless it has, and then for the
template alone. -/
theorem failed_load
    (h : (load s).run (p, w) = .error f (p', w') ∨
      ∃ question : Question, (question.get s).run (p, w) = .error f (p', w')) :
    p' = (if FindsMissing s p w then { p with presence := .absent } else p) ∧
      p'.isModified = (p.isModified || decide (FindsMissing s p w)) ∧
      ∀ later : σ,
        (p.presence ≠ .absent → ¬ FindsMissing s p w →
          (asked s p w).head? = some (.get p.id p.fieldsToRead) ∧
          (asked s p' later).head? = some (.get p.id p.fieldsToRead)) ∧
        (p.presence = .absent ∨ FindsMissing s p w → asked s p' later =
          if p.id.realm = "" then [] else [.get ⟨["default"], p.id.realm⟩ p.fieldsToRead]) := by
  have hload : (load s).run (p, w) = .error f (p', w') := by
    rcases h with h | ⟨question, h⟩
    · exact h
    · exact load_of_get_failed h
  obtain ⟨hunread, hleft⟩ := load_failed hload
  by_cases hmissing : FindsMissing s p w
  · rw [if_pos hmissing] at hleft ⊢
    refine ⟨hleft, ?_, fun later => ⟨fun _ hfound => absurd hmissing hfound, fun _ => ?_⟩⟩
    · simp [hleft, isModified, hmissing]
    · rw [hleft]
      exact asked_of_absent (p := { p with presence := .absent }) hunread rfl later
  · rw [if_neg hmissing] at hleft ⊢
    subst hleft
    refine ⟨rfl, by simp [hmissing], fun later => ⟨fun hpresence _ => ?_, fun habsent => ?_⟩⟩
    · exact ⟨head_asked hunread hpresence w, head_asked hunread hpresence later⟩
    · exact asked_of_absent hunread (habsent.resolve_right hmissing) later

/-- A realm refuses the first read, and the question that needed it fails: the
principal is as it was, with its staged edit, and is asked for again. -/
theorem failed_load_of_refused_read :
    let admin : Name := ⟨["admin", "admin"], "R"⟩
    let s : Session Realm := ⟨Realm.service admin, admin, "R", "kdc", 749⟩
    let r : Realm := { name := "R", faults := fun kind => if kind = .get then [.rpcError] else [] }
    let p := (existing ⟨["jdoe"], "R"⟩).setAttributes ⟨64⟩
    let result := (Question.policy.get s).run (p, r)
    failureOf result = some (.ofStatus .rpcError) ∧ (stateOf result).1 = p ∧
      p.isModified = true ∧ (stateOf result).1.isModified = true ∧
      (asked s (stateOf result).1 (stateOf result).2).head? = some (.get p.id p.fieldsToRead) := by
  intro admin s r p result
  have hfailed :
      result = .error (.ofStatus .rpcError) ((stateOf result).1, (stateOf result).2) := rfl
  have hfound : ¬ FindsMissing s p r := by decide
  obtain ⟨hleft, hmodified, hnext⟩ := failed_load (.inr ⟨.policy, hfailed⟩)
  rw [if_neg hfound] at hleft
  exact ⟨rfl, hleft, by decide, hmodified.trans (by decide), ((hnext _).1 (by decide) hfound).2⟩

/-- A realm does not know the principal, and then refuses the read of the template.
The load fails, and yet it has changed the principal: it counts as modified, and is
not asked for again. -/
theorem failed_load_notes_absence :
    let admin : Name := ⟨["admin", "admin"], "R"⟩
    let s : Session Realm := ⟨Realm.service admin, admin, "R", "kdc", 749⟩
    let r : Realm := {
      name := "R",
      faults := fun kind => if kind = .get then [.unknownPrincipal, .rpcError] else [] }
    let p := existing ⟨["jdoe"], "R"⟩
    let result := (load s).run (p, r)
    failureOf result = some (.ofStatus .rpcError) ∧
      p.presence = .unknown ∧ (stateOf result).1.presence = .absent ∧
      p.isModified = false ∧ (stateOf result).1.isModified = true ∧
      (asked s p r).head? = some (.get p.id p.fieldsToRead) ∧
      asked s (stateOf result).1 (stateOf result).2 = [.get ⟨["default"], "R"⟩ p.fieldsToRead] := by
  decide

end RealmAdmin.Principal
