/-
RealmAdmin.Proofs.Realm.Coherence — a snapshot that was read shows what is stored.

A principal keeps its snapshot until it is told that the service's record has
changed, so it has to notice every change that it makes itself, also in a
commit that fails half-way. While nobody else writes to the realm it does:
`snapshot_coherent` says that a principal that is there is stored under its
name, that its snapshot has the stored value of every attribute for which
nothing is staged, and that a question about such an attribute is answered
with the stored value.
-/
import RealmAdmin.Proofs.Realm.SoleWriter

namespace RealmAdmin.Principal

open Realm

variable {edits : List Edit} {p p' : Principal} {store : TextMap Entry} {entry : Entry} {f : Field}
  {s : Session Realm} {client : Name} {r r' : Realm}

/-- What is shown of an attribute for which nothing is staged is stored. -/
theorem Tracks.agreeAt (h : Tracks edits p store) (hloaded : p.loaded = true)
    (hstored : p.StoredAs store entry) (hname : f ≠ .principal) (hf : p.Unstaged f) :
    p.record.AgreeAt entry.record f :=
  (h.shows hloaded entry hstored f hname hf.1).resolve_right
    fun hcleared => hf.2 ⟨hcleared.1, hcleared.2.1⟩

/-- No question is about the name. -/
theorem Question.ne_principal_of_field {question : Question} (h : f ∈ question.field?) :
    f ≠ .principal := by
  rintro rfl
  cases question <;> cases h

/-- A question about an attribute for which nothing is staged is answered with
what is stored, if it finds the principal. -/
theorem Tracks.answer (h : Tracks edits p r.principals) (hs : s.service = service client)
    {question : Question} {answer : question.Answer} (hf : ∀ f ∈ question.field?, p.Unstaged f)
    (hask : (question.get s).run (p, r) = .ok answer (p', r')) (hpresent : p'.presence = .present) :
    ∃ entry, r.principals.get? p.id.text = some entry ∧ answer = question.answer entry.record := by
  obtain ⟨hload, rfl⟩ := Question.load_of_get hask
  have hrun := load_run s p r
  have hstore := load_sameStore hs p r
  have htracks := h.load hs
  rw [hload] at hrun hstore htracks
  have hstage : StagedAlike p p' := hrun.stagedAlike
  obtain ⟨entry, hstored⟩ := htracks.found hpresent
  refine ⟨entry, ?_, ?_⟩
  · rw [← hstage.id, ← hstore.principals]
    exact hstored.2
  · rw [question.answerFor_of_present hpresent]
    refine Question.answer_congr fun f hfield => ?_
    exact htracks.agreeAt hrun.loaded hstored (Question.ne_principal_of_field hfield)
      (hstage.unstaged (hf f hfield))

/-- **A snapshot is coherent with the realm** that nobody else writes to: a
principal that is there is stored under its name, and as long as nothing is
staged for an attribute, a snapshot that was read has its stored value, and so
has the answer to a question about it. -/
theorem snapshot_coherent (h : SoleWriter edits p r) :
    (p.presence = .present → ∃ entry, r.principals.get? p.id.text = some entry) ∧
      (p.presence = .present → p.loaded = true →
        ∀ entry, r.principals.get? p.id.text = some entry →
          ∀ f, f ≠ .principal → p.Unstaged f → p.record.AgreeAt entry.record f) ∧
      ∀ (s : Session Realm) (client : Name), s.service = service client →
        ∀ (question : Question) (answer : question.Answer) (p' : Principal) (r' : Realm),
          (∀ f ∈ question.field?, p.Unstaged f) →
          (question.get s).run (p, r) = .ok answer (p', r') → p'.presence = .present →
            ∃ entry, r.principals.get? p.id.text = some entry ∧
              answer = question.answer entry.record := by
  have htracks := h.tracks
  refine ⟨fun hpresent => ?_, fun hpresent hloaded entry hentry f hname hf => ?_, ?_⟩
  · obtain ⟨entry, hstored⟩ := htracks.found hpresent
    exact ⟨entry, hstored.2⟩
  · exact htracks.agreeAt hloaded ⟨hpresent, hentry⟩ hname hf
  · intro s client hs question answer p' r' hf hask hpresent
    exact htracks.answer hs hf hask hpresent

/-- A commit has changed the password when its renaming is refused, because
the name is taken: the key version that was read before is not shown again. -/
theorem snapshot_coherent_of_cut_commit :
    let jdoe : Name := ⟨["jdoe"], "R"⟩
    let smith : Name := ⟨["smith"], "R"⟩
    let c : Connection Realm := ⟨Realm.session ⟨["admin"], "R"⟩, ⟨[]⟩⟩
    let r : Realm := {
      name := "R"
      principals := (TextMap.empty.insert jdoe.text ⟨.named jdoe, [1]⟩).insert smith.text
        ⟨.named smith, [2]⟩ }
    let after (a : Action) (x : Principal × Realm) := stateOf ((a.run c).run x)
    let x := after .load (existing jdoe, r)
    let y := after (.commit ⟨fun _ => 0, 0⟩) (after (.setName "smith") (after (.setPassword ⟨[3]⟩) x))
    SoleWriter [] y.1 y.2 ∧ y.1.pendingName = some smith ∧ x.1.record.keyVersion = 0 ∧
      ∃ entry, y.2.principals.get? jdoe.text = some entry ∧ entry.record.keyVersion = 1 ∧
        ∃ z, (Question.keyVersion.get c.session).run (y.1, y.2) = .ok entry.record.keyVersion z := by
  intro jdoe smith c r after x y
  have hnext (a : Action) (hsame : ∀ succeeded, a.tracked [] succeeded = [])
      (x : Principal × Realm) (h : SoleWriter [] x.1 x.2) :
      SoleWriter [] (after a x).1 (after a x).2 := by
    have hafter := soleWriter_after h c rfl a
    rwa [hsame] at hafter
  have hloaded : SoleWriter [] x.1 x.2 := hnext .load (fun _ => rfl) _ (.existing jdoe r)
  have hkeyed := hnext (.setPassword ⟨[3]⟩) (fun _ => rfl) _ hloaded
  have hnamed := hnext (.setName "smith") (fun _ => rfl) _ hkeyed
  have hrun : SoleWriter [] y.1 y.2 :=
    hnext (.commit ⟨fun _ => 0, 0⟩) (fun succeeded => by cases succeeded <;> rfl) _ hnamed
  obtain ⟨answer, hask⟩ := exists_answer
    (show succeeded ((Question.keyVersion.get c.session).run (y.1, y.2)) = true by decide)
  have hclean : ∀ f ∈ Question.keyVersion.field?, y.1.Unstaged f := by
    rintro f ⟨⟩
    exact ⟨by decide, fun h => nomatch h.1⟩
  obtain ⟨entry, hentry, hanswer⟩ := (snapshot_coherent hrun).2.2 c.session _ rfl .keyVersion
    answer _ _ hclean hask (by decide)
  have hversion : (y.2.principals.get? jdoe.text).map (·.record.keyVersion) = some 1 := by decide
  have hname : y.1.id = jdoe := by decide
  rw [hname] at hentry
  rw [hentry] at hversion
  exact ⟨hrun, by decide, by decide, entry, hentry, Option.some.inj hversion, _, hanswer ▸ hask⟩

end RealmAdmin.Principal
