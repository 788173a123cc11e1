/-
RealmAdmin.Proofs.Realm.Template — what is shown of a principal that is not there.

A load that does not find the principal takes the values of the realm's
template where nothing is staged. Where the realm has no template it takes
nothing, and leaves what the snapshot had (`absent_snapshot`). That is a blank
record for a principal that was never found (`NeverFound`), be it new, deleted,
or missing from the start; but a principal that was there once still shows what
was read of it then (`absent_snapshot_of_lost`).
-/
import RealmAdmin.Proofs.Realm.Tracks

namespace RealmAdmin.Principal

open Realm

variable {σ : Type} {p p' : Principal} {f : Field}

/-! ## Principals that were never found -/

/-- A principal that the service was never seen to have, since it was made or
deleted. -/
inductive NeverFound : Principal → Prop
  | existing (id : Name) : NeverFound (existing id)
  | fresh (id : Name) : NeverFound (fresh id)
  | deleted (p : Principal) : NeverFound p.deleted
  | after {σ : Type} {p : Principal} (hp : NeverFound p) (c : Connection σ) (a : Action) (w : σ)
    (hmissing : (stateOf ((a.run c).run (p, w))).1.presence ≠ .present) :
    NeverFound (stateOf ((a.run c).run (p, w))).1

/-- A snapshot with nothing in it but what is staged, as long as it was not
read. -/
structure Unfilled (p : Principal) : Prop where
  consistent : p.Consistent
  policy : .policy ∈ p.dirty → p.record.policy ≠ none
  blank : p.loaded = false → p.Shows .blank

theorem Unfilled.of_blank (hp : p.Consistent) (hdirty : p.dirty = .empty)
    (hrecord : p.record = .blank) : p.Unfilled where
  consistent := hp
  policy := by simp [hdirty]
  blank _ f _ _ := .inl (by rw [hrecord]; exact .refl _ f)

/-- What is staged beside the snapshot leaves it as it is. -/
theorem Unfilled.of_same_snapshot (h : p.Unfilled) (hp' : p'.Consistent)
    (hloaded : p'.loaded = p.loaded) (hrecord : p'.record = p.record)
    (hdirty : ∀ f, f ≠ .principal → (f ∈ p'.dirty ↔ f ∈ p.dirty)) : p'.Unfilled where
  consistent := hp'
  policy := by
    rw [hrecord, hdirty .policy nofun]
    exact h.policy
  blank hunread f hname hclean := by
    rw [hrecord, hdirty .policyClear nofun]
    exact h.blank (hloaded ▸ hunread) f hname (mt (hdirty f hname).mpr hclean)

/-- A load fills the snapshot, or it fails and leaves it as it is. -/
theorem Unfilled.load (h : p.Unfilled) (s : Session σ) (w : σ) :
    (stateOf ((Principal.load s).run (p, w))).1.Unfilled := by
  have hconsistent := h.consistent.load s w
  have hrun := load_run s p w
  generalize (Principal.load s).run (p, w) = result at hconsistent hrun ⊢
  have hpolicy := hrun.stagedAlike.policy h.policy
  cases hrun with
  | kept hloaded => exact h
  | found hloaded hpresence hread => exact ⟨hconsistent, hpolicy, nofun⟩
  | refused hloaded hpresence hread => exact h
  | missing hloaded habsent htemplate =>
    cases htemplate with
    | unnamed hname => exact ⟨hconsistent, h.policy, h.blank⟩
    | refused hname hread => exact ⟨hconsistent, h.policy, h.blank⟩
    | prefilled hname hread => exact ⟨hconsistent, hpolicy, nofun⟩
    | bare hname hread => exact ⟨hconsistent, hpolicy, nofun⟩

/-- A commit that leaves the principal missing has not got beyond its load, or
the service refused to create the principal. -/
theorem Unfilled.commit (h : p.Unfilled) (s : Session σ) (g : PasswordGenerator) (e : Entropy)
    (w : σ) (hmissing : (stateOf ((Principal.commit s g e).run (p, w))).1.presence ≠ .present) :
    (stateOf ((Principal.commit s g e).run (p, w))).1.Unfilled := by
  have hconsistent := h.consistent.commit s g e w
  have hload := h.load s w
  rw [run_commit s g e h.consistent] at hconsistent hmissing ⊢
  cases hrun : (Principal.load s).run (p, w) with
  | error f x =>
    rw [hrun] at hload
    exact hload
  | ok a x =>
    rw [hrun] at hload hconsistent hmissing
    dsimp only at hconsistent hmissing ⊢
    rw [stateOf_outcome] at hconsistent hmissing ⊢
    generalize (s.service.deliver (x.1.plan g e) x.2).carriedOut = i at hconsistent hmissing ⊢
    by_cases hpresent : x.1.presence = .present
    · simp only [plan, readied, if_pos hpresent] at hmissing
      have hstill := (hload.consistent.settle_take i).2.2
      exact absurd (hstill.trans hpresent) hmissing
    · simp only [plan, readied, if_neg hpresent] at hconsistent hmissing ⊢
      cases i with
      | zero =>
        obtain ⟨secret, hsecret⟩ : ∃ secret, x.1.withPassword g e = { x.1 with secret := secret } :=
          ⟨_, withPassword_eq x.1 g e⟩
        simp only [List.take_zero, List.foldl_nil, hsecret] at hconsistent ⊢
        exact hload.of_same_snapshot hconsistent rfl rfl fun _ _ => Iff.rfl
      | succ i => simp [creation, Principal.settle, created] at hmissing

/-- Every action leaves the snapshot without anything but what is staged, as
long as the principal is not found. -/
theorem Unfilled.after (h : p.Unfilled) (c : Connection σ) (a : Action) (w : σ)
    (hmissing : (stateOf ((a.run c).run (p, w))).1.presence ≠ .present) :
    (stateOf ((a.run c).run (p, w))).1.Unfilled := by
  have hconsistent := h.consistent.after c a w
  cases a with
  | setName text =>
    rcases setName_run c.session text p w with ⟨name, -, hrun⟩ | ⟨f, -, hrun⟩
    · rw [Action.run, hrun] at hconsistent ⊢
      obtain ⟨-, -, hloaded, hrecord, hdirty⟩ := rename_same p name
      exact h.of_same_snapshot hconsistent hloaded hrecord hdirty
    · rw [Action.run, hrun]
      exact h
  | setPassword secret => exact h.of_same_snapshot hconsistent rfl rfl fun _ _ => Iff.rfl
  | randomizePassword e => exact h.of_same_snapshot hconsistent rfl rfl fun _ _ => Iff.rfl
  | edit d =>
    obtain ⟨-, -, hloaded⟩ := stage_same p d
    exact ⟨hconsistent, policy_stage h.policy d,
      fun hunread => (h.blank (hloaded.symm.trans hunread)).stage h.policy d⟩
  | load => exact h.load c.session w
  | ask question =>
    rw [Action.run, stateOf_ask]
    exact h.load c.session w
  | commit e => exact h.commit c.session c.generator e w hmissing
  | delete =>
    rcases delete_run c p w with ⟨w', hrun⟩ | ⟨f, w', hrun⟩
    · rw [Action.run, hrun]
      exact .of_blank (deleted_consistent p) rfl rfl
    · rw [Action.run, hrun]
      exact h

/-- The snapshot of a principal that was never found has nothing in it but what
is staged, as long as it was not read. -/
theorem NeverFound.unfilled (hp : NeverFound p) : p.Unfilled := by
  induction hp with
  | existing id => exact .of_blank (existing_consistent id) rfl rfl
  | fresh id => exact .of_blank (fresh_consistent id) rfl rfl
  | deleted p => exact .of_blank (deleted_consistent p) rfl rfl
  | after _ c a w hmissing ih => exact ih.after c a w hmissing

/-! ## Loads that do not find the principal -/

variable {s : Session Realm} {client : Name} {r r' : Realm}

/-- The template that is consulted is the one that the realm stores. -/
theorem TemplateRun.stored (hs : s.service = service client) (hget : r.faults .get = [])
    (h : TemplateRun s p r (.ok () (p', r'))) :
    ∃ template, Name.template p.id.realm = .ok template ∧
      match r.principals.get? template.text with
      | some entry => ∀ f, f ≠ .principal → f ∉ p.dirty → p'.record.AgreeAt entry.record f
      | none => p'.record = p.record := by
  cases h with
  | @prefilled template record w' hname hread =>
    have hrun := run_fetch? hs template p.fieldsToRead r
    rw [hread] at hrun
    cases hrun with
    | found hfaults hentry =>
      refine ⟨template, hname, ?_⟩
      rw [hentry]
      exact fun f hf hclean => refresh_agreeAt_source _ hclean hf
  | @bare template w' hname hread =>
    have hrun := run_fetch? hs template p.fieldsToRead r
    rw [hread] at hrun
    cases hrun with
    | missing hfaults hentry => exact ⟨template, hname, by rw [hentry]⟩
    | pretended hfaults => simp [hget] at hfaults

/-- **The snapshot of a principal that is not there**, as a load leaves it that
has asked a realm without faults: where nothing is staged it has the values of
the realm's template. If none is stored then it is what it was before, which is
blank for a principal that was never found. -/
theorem absent_snapshot (hs : s.service = service client) (hget : r.faults .get = [])
    (hunread : p.loaded = false) (hload : (load s).run (p, r) = .ok () (p', r'))
    (habsent : p'.presence = .absent) :
    ∃ template, Name.template p.id.realm = .ok template ∧ ∀ f, f ≠ .principal → p.Unstaged f →
      match r.principals.get? template.text with
      | some entry => p'.record.AgreeAt entry.record f
      | none => p'.record.AgreeAt p.record f ∧ (NeverFound p → p'.record.AgreeAt .blank f) := by
  have hrun := load_run s p r
  rw [hload] at hrun
  cases hrun with
  | kept hloaded => simp [hunread] at hloaded
  | found hloaded hpresence hread => cases habsent
  | @missing w' _ hloaded hmissing htemplate =>
    have hsame : w'.principals = r.principals ∧ w'.faults .get = [] := by
      rcases hmissing with ⟨-, rfl⟩ | ⟨-, hread⟩
      · exact ⟨rfl, hget⟩
      · have hfetch := run_fetch? hs p.id p.fieldsToRead r
        rw [hread] at hfetch
        exact ⟨hfetch.sameStore.principals, by rw [(hfetch.ok (by simp [hget])).1, hget]⟩
    obtain ⟨template, hname, hstored⟩ := htemplate.stored hs hsame.2
    refine ⟨template, hname, fun f hf hclean => ?_⟩
    rw [hsame.1] at hstored
    cases hentry : r.principals.get? template.text with
    | some entry =>
      rw [hentry] at hstored
      exact hstored f hf hclean.1
    | none =>
      rw [hentry] at hstored
      rw [show p'.record = p.record from hstored]
      refine ⟨.refl _ f, fun hnever => ?_⟩
      exact (hnever.unfilled.blank hunread f hf hclean.1).resolve_right
        fun hcleared => hclean.2 ⟨hcleared.1, hcleared.2.1⟩

/-- A principal that was read, and then deleted over its own connection, shows
nothing of what was read. -/
theorem absent_snapshot_of_deleted :
    let jdoe : Name := ⟨["jdoe"], "R"⟩
    let c : Connection Realm := ⟨Realm.session ⟨["admin"], "R"⟩, ⟨[]⟩⟩
    let r : Realm := {
      name := "R"
      principals := TextMap.empty.insert jdoe.text
        ⟨{ Record.named jdoe with expireTime := 1800000000 }, [1]⟩ }
    let after (a : Action) (x : Principal × Realm) := stateOf ((a.run c).run x)
    let x := after .load (existing jdoe, r)
    let y := after .delete x
    let z := after .load (y.1, y.2)
    x.1.record.expireTime = 1800000000 ∧ y.1.loaded = false ∧ NeverFound y.1 ∧
      (load c.session).run (y.1, y.2) = .ok () (z.1, z.2) ∧
      z.1.presence = .absent ∧ z.1.record.expireTime = 0 := by
  intro jdoe c r after x y z
  have hdeleted : NeverFound y.1 := by
    rw [show y.1 = x.1.deleted by decide]
    exact .deleted x.1
  have hload : (load c.session).run (y.1, y.2) = .ok () (z.1, z.2) :=
    eq_ok_of_succeeded (by decide)
  have hrealm : y.1.id.realm = "R" := by decide
  have hnone : y.2.principals.get? (Name.text ⟨["default"], "R"⟩) = none := by decide
  have hs : c.session.service = service ⟨["admin"], "R"⟩ := rfl
  obtain ⟨template, hname, hsnapshot⟩ :=
    absent_snapshot hs (by decide) (by decide) hload (by decide)
  rw [hrealm, Name.template_eq, if_neg (by decide)] at hname
  cases hname
  have hexpiry := hsnapshot .expireTime nofun (.of_not_mem (by decide) nofun)
  rw [hnone] at hexpiry
  exact ⟨by decide, by decide, hdeleted, hload, by decide, hexpiry.2 hdeleted⟩

/-- A principal that was read, and has changed its password since, is deleted
by another client: it shows the expiry that was read, though nothing is staged
for it and the realm has no template. -/
theorem absent_snapshot_of_lost :
    let jdoe : Name := ⟨["jdoe"], "R"⟩
    let c : Connection Realm := ⟨Realm.session ⟨["admin"], "R"⟩, ⟨[]⟩⟩
    let r : Realm := {
      name := "R"
      principals := TextMap.empty.insert jdoe.text
        ⟨{ Record.named jdoe with expireTime := 1800000000 }, [1]⟩ }
    let after (a : Action) (x : Principal × Realm) := stateOf ((a.run c).run x)
    let x := after (.commit ⟨fun _ => 0, 0⟩) (after (.setPassword ⟨[3]⟩) (after .load (existing jdoe, r)))
    let r' := (after .delete (existing jdoe, x.2)).2
    let z := after .load (x.1, r')
    Reachable x.1 ∧ (∀ kind, r'.faults kind = []) ∧ x.1.loaded = false ∧
      (load c.session).run (x.1, r') = .ok () (z.1, z.2) ∧ z.1.presence = .absent ∧
      (∀ template, Name.template x.1.id.realm = .ok template →
        r'.principals.get? template.text = none) ∧
      x.1.Unstaged .expireTime ∧ ¬ z.1.record.AgreeAt .blank .expireTime := by
  intro jdoe c r after x r' z
  have hread : Reachable (after .load (existing jdoe, r)).1 := .after (.existing jdoe) c .load r
  have hstaged : Reachable (after (.setPassword ⟨[3]⟩) (after .load (existing jdoe, r))).1 :=
    .after hread c (.setPassword ⟨[3]⟩) _
  have hreachable : Reachable x.1 := .after hstaged c (.commit ⟨fun _ => 0, 0⟩) _
  have hload : (load c.session).run (x.1, r') = .ok () (z.1, z.2) := eq_ok_of_succeeded (by decide)
  have hfaults (kind : CallKind) : r'.faults kind = [] := by cases kind <;> decide
  refine ⟨hreachable, hfaults, by decide, hload, by decide, fun template hname => ?_,
    .of_not_mem (by decide) nofun, ?_⟩
  · have hrealm : x.1.id.realm = "R" := by decide
    have hnone : r'.principals.get? (Name.text ⟨["default"], "R"⟩) = none := by decide
    rw [hrealm, Name.template_eq, if_neg (by decide)] at hname
    cases hname
    exact hnone
  · have hexpiry : z.1.record.expireTime = 1800000000 := by decide
    rw [Record.AgreeAt, hexpiry]
    decide

end RealmAdmin.Principal
