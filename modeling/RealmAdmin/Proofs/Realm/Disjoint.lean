/-
RealmAdmin.Proofs.Realm.Disjoint — two clients that edit different attributes.

A principal that only has attributes to write (`EditsOnly`) writes its dirty
fields and nothing else, however old the rest of its snapshot is. So what
becomes of the entry (`written`) depends on the entry and on what is staged
alone, and two such commits that have no attribute in common can be exchanged:
attribute by attribute, what they leave is what one of them has staged, or
what was stored before both.
-/
import RealmAdmin.Proofs.Realm.CommitEffect

namespace RealmAdmin.Principal

open Realm

variable {p q : Principal} {client client' : Name} {now now' : Int64} {entry : Entry} {f : Field}
  {r : Realm}

/-! ## Writing attributes -/

/-- A principal with attributes to write and nothing else staged, that is not
thought to be missing. -/
structure EditsOnly (p : Principal) : Prop where
  reachable : Reachable p
  notAbsent : p.presence ≠ .absent
  sameName : p.pendingName = none
  samePassword : p.secret.isPending = false

/-- What a principal that edits only makes of its entry. -/
def written (p : Principal) (client : Name) (now : Int64) (entry : Entry) : Entry :=
  if p.dirty.isEmpty then entry else entry.modified client now p.record p.dirty

theorem EditsOnly.principal_not_mem (h : p.EditsOnly) : .principal ∉ p.dirty := by
  simp [h.reachable.consistent.name_dirty, h.sameName]

theorem EditsOnly.erase_principal (h : p.EditsOnly) : p.dirty.erase .principal = p.dirty :=
  FieldSet.ext_mem fun f => by
    rw [FieldSet.mem_erase]
    exact ⟨And.left, fun hf => ⟨hf, fun hname => h.principal_not_mem (hname ▸ hf)⟩⟩

/-- Something is staged neither for the name nor for a stamp. -/
theorem EditsOnly.of_staged (h : p.EditsOnly) (hf : ¬ p.Unstaged f) :
    f ≠ .principal ∧ ¬ f.IsStamp := by
  have hmem : f ∈ p.dirty ∨ f = .policy := by
    by_cases hdirty : f ∈ p.dirty
    · exact .inl hdirty
    · exact .inr (Decidable.byContradiction fun hpolicy => hf ⟨hdirty, fun hc => hpolicy hc.1⟩)
  rcases hmem with hdirty | rfl
  · exact ⟨fun hname => h.principal_not_mem (hname ▸ hdirty),
      h.reachable.consistent.not_isStamp hdirty⟩
  · exact ⟨by decide, by simp [Field.IsStamp]⟩

/-- What is not staged stays, but for the stamp. -/
theorem written_agreeAt (hf : ¬ f.IsStamp) (hclean : p.Unstaged f) :
    (p.written client now entry).record.AgreeAt entry.record f := by
  unfold written
  split
  · exact .refl _ f
  · exact (agreeAt_modified hf hclean.2).trans (Record.agreeAt_merge_of_not_mem hclean.1)

/-- What is staged is written. -/
theorem EditsOnly.holdsStaged_written (h : p.EditsOnly) :
    p.HoldsStaged (p.written client now entry).record := by
  unfold written
  split
  · next hempty =>
    rw [FieldSet.isEmpty_iff] at hempty
    exact ⟨by simp [hempty], by simp [hempty]⟩
  · exact h.reachable.consistent.holdsStaged_modified (fun _ _ => Iff.rfl) fun f _ => .refl _ f

theorem password_written : (p.written client now entry).password = entry.password := by
  unfold written
  split <;> rfl

theorem modifyTime_written : (p.written client now entry).record.modifyTime =
    if p.dirty.isEmpty then entry.record.modifyTime else now := by
  unfold written
  split <;> rfl

theorem modifier_written : (p.written client now entry).record.modifier =
    if p.dirty.isEmpty then entry.record.modifier else some client := by
  unfold written
  split <;> rfl

/-! ## One commit -/

variable {s : Session Realm}

/-- Where no fault is laid, a principal that is stored is found by a load,
whatever was known of it. -/
theorem EditsOnly.load_stored (h : p.EditsOnly) (hs : s.service = service client)
    (hfaults : ∀ kind, r.faults kind = []) (hentry : r.principals.get? p.id.text = some entry) :
    ∃ p₁ r₁, (load s).run (p, r) = .ok () (p₁, r₁) ∧ StagedAlike p p₁ ∧ p₁.presence = .present ∧
      SameStore r r₁ ∧ r₁.faults = r.faults := by
  have hget : .unknownPrincipal ∉ r.faults .get := by simp [hfaults]
  have hthere : p.isThere r = true := by
    unfold isThere
    split
    · next hknown =>
      have hloaded := hknown.resolve_right h.notAbsent
      simpa using Presence.eq_present (h.reachable.consistent.known hloaded) h.notAbsent
    · simp [TextMap.contains, hentry]
  have hstage := load_stagedAlike s p r
  have hstore := load_sameStore hs p r
  cases hload : (load s).run (p, r) with
  | error f x =>
    have hused := (load_error hs hget (.inl hthere) hload).2.2.1
    simp [faultCount, hfaults] at hused
  | ok a x =>
    rw [hload] at hstage hstore
    obtain ⟨hkept, hfound, -⟩ := load_ok hs hget hload
    exact ⟨x.1, x.2, rfl, hstage, hfound.mpr hthere, hstore, hkept⟩

/-- The changes of a principal that edits only, after a load that has found it. -/
theorem EditsOnly.changes_loaded (h : p.EditsOnly) (hstage : StagedAlike p q) :
    q.changes = if p.dirty.isEmpty then []
      else [.modify { q.record with principal := some p.id } p.dirty] := by
  have hsecret : q.secret.pending? = none := by
    simpa [SecretSlot.isPending, hstage.secret] using h.samePassword
  have hname : q.pendingName = none := hstage.pendingName.trans h.sameName
  have hid : q.name = p.id := by rw [name, hname, Option.getD_none, hstage.id]
  simp only [changes, passwordChange?, hsecret, nameChange?, hname, fieldChange?, hid,
    hstage.dirty, h.erase_principal, Option.map_none, Option.toList_none, List.nil_append]
  split <;> rfl

/-- A load leaves what is written. -/
theorem EditsOnly.modified_loaded (h : p.EditsOnly) (hstage : StagedAlike p q) :
    entry.modified client now { q.record with principal := some p.id } p.dirty =
      entry.modified client now p.record p.dirty := by
  have hmerge : entry.record.merge { q.record with principal := some p.id } p.dirty =
      entry.record.merge p.record p.dirty := Record.merge_congr fun f hf => by
    refine Record.AgreeAt.trans ?_ (hstage.record f (FieldSet.mem_insert.mpr (.inl hf)))
    cases f <;> first | rfl | trivial | exact absurd hf h.principal_not_mem
  rw [Entry.modified, Entry.modified, hmerge]

/-- **A commit of attributes** succeeds where the principal is stored and no
fault is laid, and what it leaves depends on the entry and the stage alone. -/
theorem EditsOnly.commit (h : p.EditsOnly) (hs : s.service = service client)
    (hfaults : ∀ kind, r.faults kind = []) (hentry : r.principals.get? p.id.text = some entry)
    (g : PasswordGenerator) (e : Entropy) :
    ∃ p' r', (Principal.commit s g e).run (p, r) = .ok () (p', r') ∧
      (∀ kind, r'.faults kind = []) ∧
      r'.clock = (if p.dirty.isEmpty then r.clock else r.clock + 1) ∧
      r'.principals =
        r.principals.insert p.id.text (p.written client (r.clock + 1) entry) := by
  have hp := h.reachable.consistent
  obtain ⟨p₁, r₁, hload, hstage, hpresent, hstore, hkept⟩ := h.load_stored hs hfaults hentry
  have hfaults₁ (kind : CallKind) : r₁.faults kind = [] := by rw [hkept, hfaults]
  have hrun := run_commit s g e hp r
  rw [hload] at hrun
  simp only [plan, readied, if_pos hpresent, hs, h.changes_loaded hstage] at hrun
  unfold written
  cases hempty : p.dirty.isEmpty with
  | true =>
    rw [if_pos hempty] at hrun
    refine ⟨p₁, r₁, hrun, hfaults₁, hstore.clock, TextMap.ext_get? fun key => ?_⟩
    rw [hstore.principals, if_pos rfl, TextMap.get?_insert]
    split
    · next hkey => rw [hkey, hentry]
    · rfl
  | false =>
    rw [if_neg (by simp [hempty])] at hrun
    have hentry₁ : r₁.principals.get? p.id.text = some entry := by rw [hstore.principals, hentry]
    have hmask : p.dirty = p.dirty.forModify := by rw [hp.forModify_dirty, h.erase_principal]
    have hserve := ((serveModify_changes client { p₁.record with principal := some p.id } p.dirty
      r₁).1 _).mpr ⟨hfaults₁ _, hmask, hp.policies, p.id, entry, rfl, hentry₁, rfl⟩
    have hserve : ((service client).serve
      (.modify { p₁.record with principal := some p.id } p.dirty)).run r₁ = _ := hserve
    rw [outcome_cons_ok hserve, h.modified_loaded hstage, hstore.clock] at hrun
    refine ⟨_, _, hrun, hfaults₁, ?_, ?_⟩
    · simp [put, ticked, hstore.clock]
    · simp [put, hstore.principals]

/-! ## Two commits -/

/-- The realm after one commit and then another one, when both succeed. -/
def CommittedInTurn (c c' : Connection Realm) (e e' : Entropy) (p q : Principal) (r r' : Realm) :
    Prop :=
  ∃ p' q' r₁, ((Action.commit e).run c).run (p, r) = .ok () (p', r₁) ∧
    ((Action.commit e').run c').run (q, r₁) = .ok () (q', r')

/-- An entry with what is staged for two principals, in which nothing else has
changed but the stamp. -/
structure HoldsBoth (p q : Principal) (before after : Entry) : Prop where
  password : after.password = before.password
  first : p.HoldsStaged after.record
  second : q.HoldsStaged after.record
  kept : ∀ f, ¬ f.IsStamp → p.Unstaged f → q.Unstaged f → after.record.AgreeAt before.record f

/-- What is staged decides the attributes that it is for. -/
theorem HoldsStaged.agreeAt {a b : Record} (ha : p.HoldsStaged a) (hb : p.HoldsStaged b)
    (hf : ¬ p.Unstaged f) (hname : f ≠ .principal) : a.AgreeAt b f := by
  by_cases hmem : f ∈ p.dirty
  · exact (ha.set f hmem hname).trans (hb.set f hmem hname).symm
  · by_cases hclear : f = .policy ∧ .policyClear ∈ p.dirty
    · obtain ⟨rfl, hclear⟩ := hclear
      exact (ha.cleared hclear).trans (hb.cleared hclear).symm
    · exact absurd ⟨hmem, hclear⟩ hf

/-- What is staged stays where the attributes that it is for stay. -/
theorem HoldsStaged.of_agreeAt {a b : Record} (ha : p.HoldsStaged a)
    (h : ∀ f, ¬ p.Unstaged f → f ≠ .principal → b.AgreeAt a f) : p.HoldsStaged b where
  set f hf hname := (h f (fun hclean => hclean.1 hf) hname).trans (ha.set f hf hname)
  cleared hclear := by
    have hpolicy : b.policy = a.policy :=
      h .policy (fun hclean => hclean.2 ⟨rfl, hclear⟩) (by decide)
    rw [hpolicy, ha.cleared hclear]

/-- One after the other, two principals write what is staged for both. -/
theorem holdsBoth_written (hp : p.EditsOnly) (hq : q.EditsOnly)
    (hdisjoint : ∀ f, p.Unstaged f ∨ q.Unstaged f) :
    HoldsBoth p q entry (q.written client' now' (p.written client now entry)) where
  password := password_written.trans password_written
  first := hp.holdsStaged_written.of_agreeAt fun f hf _ =>
    written_agreeAt (hp.of_staged hf).2 ((hdisjoint f).resolve_left hf)
  second := hq.holdsStaged_written
  kept _ hf hclean hclean' := (written_agreeAt hf hclean').trans (written_agreeAt hf hclean)

theorem HoldsBoth.symm {before after : Entry} (h : HoldsBoth p q before after) :
    HoldsBoth q p before after :=
  ⟨h.password, h.second, h.first, fun f hf hclean hclean' => h.kept f hf hclean' hclean⟩

/-- Entries that hold what is staged for two principals agree, but for the
stamp. -/
theorem HoldsBoth.agreeAt (hp : p.EditsOnly) (hq : q.EditsOnly) {before a b : Entry}
    (ha : HoldsBoth p q before a) (hb : HoldsBoth p q before b) (hf : ¬ f.IsStamp) :
    a.record.AgreeAt b.record f := by
  by_cases hclean : p.Unstaged f
  · by_cases hclean' : q.Unstaged f
    · exact (ha.kept f hf hclean hclean').trans (hb.kept f hf hclean hclean').symm
    · exact ha.second.agreeAt hb.second hclean' (hq.of_staged hclean').1
  · exact ha.first.agreeAt hb.first hclean (hp.of_staged hclean).1

/-- In either order, what two principals write is the same but for the client
that came last. -/
theorem written_comm {a b : Principal} (ha : a.EditsOnly) (hb : b.EditsOnly)
    (hdisjoint : ∀ f, a.Unstaged f ∨ b.Unstaged f) (client client' : Name) (entry : Entry)
    (clock : Int64) :
    let later (p : Principal) := if p.dirty.isEmpty then clock else clock + 1
    let x := b.written client' (later a + 1) (a.written client (clock + 1) entry)
    let y := a.written client (later b + 1) (b.written client' (clock + 1) entry)
    HoldsBoth a b entry x ∧ HoldsBoth a b entry y ∧
      (∀ f, f ≠ .modifier → x.record.AgreeAt y.record f) ∧ (client = client' → x = y) := by
  intro later x y
  have hx : HoldsBoth a b entry x := holdsBoth_written ha hb hdisjoint
  have hy' : HoldsBoth b a entry y := holdsBoth_written hb ha fun f => (hdisjoint f).symm
  have hy := hy'.symm
  have htime : x.record.modifyTime = y.record.modifyTime := by
    simp only [x, y, later, modifyTime_written]
    cases a.dirty.isEmpty <;> cases b.dirty.isEmpty <;> rfl
  have hagree (f : Field) (hf : f ≠ .modifier) : x.record.AgreeAt y.record f := by
    by_cases hstamp : f.IsStamp
    · obtain rfl : f = .modifyTime := hstamp.resolve_right hf
      exact htime
    · exact hx.agreeAt ha hb hy hstamp
  refine ⟨hx, hy, hagree, fun hclient => ?_⟩
  have hrecord : x.record = y.record := Record.ext_agreeAt fun f => by
    by_cases hf : f = .modifier
    · have hmodifier : x.record.modifier = y.record.modifier := by
        simp only [x, y, modifier_written, hclient]
        cases a.dirty.isEmpty <;> cases b.dirty.isEmpty <;> rfl
      rw [hf]
      exact hmodifier
    · exact hagree f hf
  have hpassword : x.password = y.password := hx.password.trans hy.password.symm
  exact (Entry.mk.injEq ..).mpr ⟨hrecord, hpassword⟩

/-- **Two clients that edit different attributes** do not lose each other's
updates, however old the snapshots are that they work on: in either order both
commits succeed, the realm stores the same afterwards but for the name of the
client that came last, and the entry holds what is staged for both. -/
theorem commits_commute {a b : Principal} (ha : a.EditsOnly) (hb : b.EditsOnly) (hid : b.id = a.id)
    (hdisjoint : ∀ f, a.Unstaged f ∨ b.Unstaged f) (hfaults : ∀ kind, r.faults kind = [])
    (hentry : r.principals.get? a.id.text = some entry) (c c' : Connection Realm)
    (hc : c.session.service = service client) (hc' : c'.session.service = service client')
    (e e' : Entropy) :
    ∃ r₁ r₂ x y, CommittedInTurn c c' e e' a b r r₁ ∧ CommittedInTurn c' c e' e b a r r₂ ∧
      r₁.principals = r.principals.insert a.id.text x ∧
      r₂.principals = r.principals.insert a.id.text y ∧
      HoldsBoth a b entry x ∧ HoldsBoth a b entry y ∧
      (∀ f, f ≠ .modifier → x.record.AgreeAt y.record f) ∧
      (client = client' → r₁.principals = r₂.principals) := by
  have hentry' : r.principals.get? b.id.text = some entry := by rw [hid, hentry]
  obtain ⟨a₁, ra, hrun₁, hfaults₁, hclock₁, hstore₁⟩ :=
    ha.commit hc hfaults hentry c.generator e
  obtain ⟨b₁, rb, hrun₂, hfaults₂, hclock₂, hstore₂⟩ :=
    hb.commit hc' hfaults hentry' c'.generator e'
  have hentry₁ : ra.principals.get? b.id.text = some (a.written client (r.clock + 1) entry) := by
    rw [hstore₁, hid, TextMap.get?_insert_self]
  have hentry₂ : rb.principals.get? a.id.text = some (b.written client' (r.clock + 1) entry) := by
    rw [hstore₂, hid, TextMap.get?_insert_self]
  obtain ⟨b₂, rab, hrun₃, -, -, hstore₃⟩ := hb.commit hc' hfaults₁ hentry₁ c'.generator e'
  obtain ⟨a₂, rba, hrun₄, -, -, hstore₄⟩ := ha.commit hc hfaults₂ hentry₂ c.generator e
  rw [hstore₁, hid, TextMap.insert_insert, hclock₁] at hstore₃
  rw [hstore₂, hid, TextMap.insert_insert, hclock₂] at hstore₄
  obtain ⟨hx, hy, hagree, hsame⟩ := written_comm ha hb hdisjoint client client' entry r.clock
  refine ⟨rab, rba, _, _, ⟨a₁, b₂, ra, hrun₁, hrun₃⟩, ⟨b₁, a₂, rb, hrun₂, hrun₄⟩, hstore₃, hstore₄,
    hx, hy, hagree, fun hclient => ?_⟩
  rw [hstore₃, hstore₄, hsame hclient]

/-- One client clears the policy, on a snapshot from before the lifetime was
bounded; another one sets the flags and has read nothing. -/
theorem commits_commute_of_stale_snapshot :
    let jdoe : Name := ⟨["jdoe"], "R"⟩
    let c : Connection Realm := ⟨Realm.session ⟨["admin"], "R"⟩, ⟨[]⟩⟩
    let c' : Connection Realm := ⟨Realm.session ⟨["clerk"], "R"⟩, ⟨[]⟩⟩
    let e : Entropy := ⟨fun _ => 0, 0⟩
    let holding (entry : Entry) : Realm :=
      { name := "R", principals := TextMap.empty.insert jdoe.text entry }
    let before : Entry := ⟨{ Record.named jdoe with policy := some "strict" }, [1]⟩
    let entry : Entry := ⟨{ before.record with maxLife := 3600 }, [1]⟩
    let read := stateOf ((Action.load.run c).run (existing jdoe, holding before))
    let a := (stateOf (((Action.edit (.policy none)).run c).run read)).1
    let b := (stateOf (((Action.edit (.attributes ⟨64⟩)).run c').run
      (existing jdoe, holding entry))).1
    a.loaded = true ∧ a.record.maxLife = 0 ∧ b.loaded = false ∧
      ∃ r₁ r₂ x y, CommittedInTurn c c' e e a b (holding entry) r₁ ∧
        CommittedInTurn c' c e e b a (holding entry) r₂ ∧
        r₁.principals.get? jdoe.text = some x ∧ r₂.principals.get? jdoe.text = some y ∧
        x.record.policy = none ∧ x.record.attributes = ⟨64⟩ ∧ x.record.maxLife = 3600 ∧
        ∀ f, f ≠ .modifier → x.record.AgreeAt y.record f := by
  intro jdoe c c' e holding before entry read a b
  have hread : Reachable read.1 := .after (.existing jdoe) c .load (holding before)
  have ha : a.EditsOnly :=
    ⟨.after hread c (.edit (.policy none)) read.2, by decide, by decide, by decide⟩
  have hb : b.EditsOnly :=
    ⟨.after (.existing jdoe) c' (.edit (.attributes ⟨64⟩)) _, by decide, by decide, by decide⟩
  have hdirty : a.dirty = FieldSet.empty.insert .policyClear ∧
      b.dirty = FieldSet.empty.insert .attributes := by decide
  have hdisjoint (f : Field) : a.Unstaged f ∨ b.Unstaged f := by
    cases f <;> simp [Unstaged, hdirty.1, hdirty.2]
  have hentry : (holding entry).principals.get? a.id.text = some entry := by decide
  obtain ⟨r₁, r₂, x, y, hfirst, hsecond, hx, hy, hboth, -, hagree, -⟩ :=
    commits_commute ha hb (by decide) hdisjoint (fun _ => rfl) hentry c c' rfl rfl e e
  have hid : a.id = jdoe := by decide
  rw [hid] at hx hy
  have hlife : x.record.AgreeAt entry.record .maxLife :=
    hboth.kept .maxLife (by simp [Field.IsStamp]) (by simp [Unstaged, hdirty.1])
      (by simp [Unstaged, hdirty.2])
  have hflags : x.record.AgreeAt b.record .attributes :=
    hboth.second.set .attributes (by simp [hdirty.2]) (by decide)
  refine ⟨by decide, by decide, by decide, r₁, r₂, x, y, hfirst, hsecond, ?_, ?_,
    hboth.first.cleared (by simp [hdirty.1]), hflags, hlife, hagree⟩
  · rw [hx, TextMap.get?_insert_self]
  · rw [hy, TextMap.get?_insert_self]

end RealmAdmin.Principal
