/-
RealmAdmin.Proofs.Realm.Tracks — where the values of staged edits are.

Between commits, the value of an edit is in one of two places: in the
snapshot, under a dirty field, or in the entry that the realm stores already,
because the setter found it in the snapshot and staged nothing. The second
place exists only for a principal that is there. `Tracks` says so, together
with what makes it last: a snapshot that was read shows what is stored,
wherever nothing is dirty.

Each step keeps this, as long as nobody else writes to the realm: staging, a
load, and each request of a commit that the realm carries out.
-/
import RealmAdmin.Proofs.Principal.Reachable
import RealmAdmin.Proofs.Realm.Holds
import RealmAdmin.Proofs.Realm.Load

namespace RealmAdmin.Principal

open Realm

/-! ## The invariant -/

/-- The principal is there, and this is its entry. -/
def StoredAs (p : Principal) (store : TextMap Entry) (entry : Entry) : Prop :=
  p.presence = .present ∧ store.get? p.id.text = some entry

/-- Whether the snapshot shows a record where nothing is dirty. A policy that
is to be cleared may be gone from it. -/
def Shows (p : Principal) (record : Record) : Prop :=
  ∀ f, f ≠ .principal → f ∉ p.dirty → p.record.AgreeAt record f ∨
    f = .policy ∧ .policyClear ∈ p.dirty ∧ p.record.policy = none

/-- Where the value of a staged edit is: in the snapshot if its field is
dirty, else in the entry, if there is one. -/
structure Edit.IsKept (d : Edit) (p : Principal) (store : TextMap Entry) : Prop where
  opposite : ∀ f ∈ p.dirty, ¬ d.Displaces f
  staged : d.field ∈ p.dirty → d.field ≠ .policyClear → d.Holds p.record
  known : d.field ∉ p.dirty → p.presence ≠ .unknown
  stored : d.field ∉ p.dirty → ∀ entry, p.StoredAs store entry → d.Holds entry.record

/-- What holds of a principal with these edits since its last commit, when
nobody else has written to the realm. -/
structure Tracks (edits : List Edit) (p : Principal) (store : TextMap Entry) : Prop where
  consistent : p.Consistent
  policy : .policy ∈ p.dirty → p.record.policy ≠ none
  found : p.presence = .present → ∃ entry, p.StoredAs store entry
  shows : p.loaded = true → ∀ entry, p.StoredAs store entry → p.Shows entry.record
  kept : ∀ d ∈ edits, d.IsKept p store

variable {edits : List Edit} {p p₁ : Principal} {store : TextMap Entry}

theorem Tracks.of_edits (h : Tracks edits p store) {edits' : List Edit}
    (hsub : ∀ d ∈ edits', d ∈ edits) : Tracks edits' p store :=
  ⟨h.consistent, h.policy, h.found, h.shows, fun d hd => h.kept d (hsub d hd)⟩

/-- A principal of which nothing was read, with nothing staged, that is not
thought to be there. -/
theorem Tracks.of_nothing_staged (hp : p.Consistent) (hdirty : p.dirty = .empty)
    (hpresence : p.presence ≠ .present) : Tracks [] p store where
  consistent := hp
  policy := by simp [hdirty]
  found h := absurd h hpresence
  shows _ _ h := absurd h.1 hpresence
  kept := by simp

/-! ## Staging -/

/-- A name and a password are staged beside the snapshot. -/
theorem Tracks.of_same_snapshot (h : Tracks edits p store) (hp₁ : p₁.Consistent)
    (hid : p₁.id = p.id) (hpresence : p₁.presence = p.presence) (hloaded : p₁.loaded = p.loaded)
    (hrecord : p₁.record = p.record)
    (hdirty : ∀ f, f ≠ .principal → (f ∈ p₁.dirty ↔ f ∈ p.dirty)) : Tracks edits p₁ store := by
  have hentry (entry : Entry) : p₁.StoredAs store entry ↔ p.StoredAs store entry := by
    rw [StoredAs, StoredAs, hid, hpresence]
  refine ⟨hp₁, ?_, ?_, ?_, ?_⟩
  · rw [hrecord, hdirty .policy nofun]
    exact h.policy
  · simp only [hpresence, hentry]
    exact h.found
  · intro hloaded₁ entry hstored f hf hclean
    rw [hrecord, hdirty .policyClear nofun]
    exact h.shows (hloaded ▸ hloaded₁) entry ((hentry entry).mp hstored) f hf
      (mt (hdirty f hf).mpr hclean)
  · intro d hd
    obtain ⟨hopposite, hstaged, hknown, hstored⟩ := h.kept d hd
    have hfield := hdirty d.field d.field_ne_principal
    refine ⟨fun f hf => ?_, ?_, ?_, ?_⟩
    · by_cases hname : f = .principal
      · rw [hname]
        exact d.not_displaces_principal
      · exact hopposite f ((hdirty f hname).mp hf)
    · rw [hfield, hrecord]
      exact hstaged
    · rw [hfield, hpresence]
      exact hknown
    · simp only [hfield, hentry]
      exact hstored

/-- A name is staged beside the snapshot. -/
theorem Tracks.rename (h : Tracks edits p store) (name : Name) :
    Tracks edits (p.rename name) store := by
  obtain ⟨hid, hpresence, hloaded, hrecord, hdirty⟩ := rename_same p name
  exact h.of_same_snapshot (h.consistent.rename name) hid hpresence hloaded hrecord hdirty

/-- Where the field of a clean edit has its value, the record that is shown
has it too. -/
theorem Shows.agreeAt_target {d : Edit} {record : Record} (hshows : p.Shows record)
    (hpolicy : .policy ∈ p.dirty → p.record.policy ≠ none) (hclean : d.field ∉ p.dirty)
    (hholds : d.Holds p.record) : p.record.AgreeAt record d.target := by
  have hshown := hshows d.field d.field_ne_principal hclean
  cases d with
  | policy name =>
    cases name with
    | none =>
      have hnone : p.record.policy = none := hholds
      have hunset : .policy ∉ p.dirty := fun h => hpolicy h hnone
      exact (hshows .policy nofun hunset).resolve_right fun h => hclean h.2.1
    | some name =>
      have hsome : p.record.policy = some name := hholds
      exact hshown.resolve_right fun h => by simp [hsome] at h
  | _ => exact hshown.resolve_right nofun

/-- Staging an edit leaves the snapshot showing what it showed. -/
theorem Shows.stage {record : Record} (hshows : p.Shows record)
    (hpolicy : .policy ∈ p.dirty → p.record.policy ≠ none) (d : Edit) :
    (d.stage p).Shows record := by
  intro f hname hclean
  by_cases htarget : f = d.target
  · subst htarget
    by_cases hfield : d.field ∈ (d.stage p).dirty
    · cases d with
      | policy name =>
        cases name with
        | none => exact .inr ⟨rfl, hfield, holds_stage p (.policy none)⟩
        | some name => exact absurd hfield hclean
      | _ => exact absurd hfield hclean
    · obtain ⟨-, hholds, hrecord, hunstaged⟩ := not_mem_stage hfield
      rw [hrecord]
      exact .inl (hshows.agreeAt_target hpolicy hunstaged hholds)
  · by_cases hclear : f = .policyClear
    · subst hclear
      exact .inl trivial
    · have hfield : f ≠ d.field := by
        by_cases h : d.field = .policyClear
        · rwa [h]
        · rwa [← Edit.target_eq_field h]
      have hunstaged : f ∉ p.dirty := fun h => hclean ((mem_stage_of_ne hfield).mpr
        ⟨h, fun hd => (d.displaces_only hd).elim hclear htarget⟩)
      rcases hshows f hname hunstaged with hagree | ⟨rfl, hcleared, hnone⟩
      · exact .inl ((agreeAt_stage htarget).trans hagree)
      · -- The edit is of another attribute, and the policy stays cleared.
        have hrecord : (d.stage p).record.policy = p.record.policy := agreeAt_stage htarget
        obtain ⟨hother, -, -, hopposite⟩ := Edit.field_unrelated d (.policy none) htarget
        exact .inr ⟨rfl, (mem_stage_of_ne hother).mpr ⟨hcleared, hopposite⟩, hrecord.trans hnone⟩

/-- A dirty policy has a name, also after staging an edit. -/
theorem policy_stage (hpolicy : .policy ∈ p.dirty → p.record.policy ≠ none) (d : Edit)
    (hmem : .policy ∈ (d.stage p).dirty) : (d.stage p).record.policy ≠ none := by
  by_cases htarget : Field.policy = d.target
  · have hholds := holds_stage p d
    cases d with
    | policy name =>
      cases name with
      | none =>
        have hfield : Field.policy ≠ (Edit.policy none).field := nofun
        exact absurd rfl ((mem_stage_of_ne hfield).mp hmem).2
      | some name =>
        have hsome : ((Edit.policy (some name)).stage p).record.policy = some name := hholds
        simp [hsome]
    | _ => cases htarget
  · have hrecord : (d.stage p).record.policy = p.record.policy := agreeAt_stage htarget
    obtain ⟨hother, -⟩ := Edit.field_unrelated d (.policy (some "")) htarget
    rw [hrecord]
    exact hpolicy ((mem_stage_of_ne hother).mp hmem).1

/-- After an edit was staged it is one to track, in place of any other of the
same attribute. -/
theorem Tracks.stage (h : Tracks edits p store) (d : Edit) :
    Tracks (d :: edits.filter (·.target ≠ d.target)) (d.stage p) store := by
  obtain ⟨hid, hpresence, hloaded⟩ := stage_same p d
  have hentry (entry : Entry) : (d.stage p).StoredAs store entry ↔ p.StoredAs store entry := by
    rw [StoredAs, StoredAs, hid, hpresence]
  refine ⟨h.consistent.stage d, policy_stage h.policy d, ?_, ?_, ?_⟩
  · simp only [hpresence, hentry]
    exact h.found
  · intro hread entry hstored
    exact (h.shows (hloaded ▸ hread) entry ((hentry entry).mp hstored)).stage h.policy d
  · intro d' hd'
    rcases List.mem_cons.mp hd' with rfl | hd'
    · refine ⟨fun f hf => ?_, fun _ _ => holds_stage p d', fun hclean => ?_, fun hclean => ?_⟩
      · by_cases hfield : f = d'.field
        · rw [hfield]
          exact d'.not_displaces_field
        · exact ((mem_stage_of_ne hfield).mp hf).2
      · rw [hpresence]
        exact h.consistent.known (not_mem_stage hclean).1
      · intro entry hstored
        obtain ⟨hread, hholds, -, hunstaged⟩ := not_mem_stage hclean
        have hshows := h.shows hread entry ((hentry entry).mp hstored)
        exact (Edit.holds_congr (hshows.agreeAt_target h.policy hunstaged hholds)).mp hholds
    · obtain ⟨hmem, hother⟩ : d' ∈ edits ∧ d'.target ≠ d.target := by simpa using hd'
      obtain ⟨hfield, -, hopposed, hopposite⟩ := Edit.field_unrelated d d' hother
      have hdirty : d'.field ∈ (d.stage p).dirty ↔ d'.field ∈ p.dirty := by
        rw [mem_stage_of_ne hfield]
        exact and_iff_left hopposite
      have hkept := h.kept d' hmem
      refine ⟨fun f hf => ?_, ?_, ?_, ?_⟩
      · by_cases hown : f = d.field
        · rw [hown]
          exact hopposed
        · exact hkept.opposite f ((mem_stage_of_ne hown).mp hf).1
      · rw [hdirty, Edit.holds_congr (agreeAt_stage hother)]
        exact hkept.staged
      · rw [hdirty, hpresence]
        exact hkept.known
      · simp only [hdirty, hentry]
        exact hkept.stored

/-! ## Loading -/

/-- The value of an edit whose field is dirty is staged. -/
theorem StagedAlike.holds {d : Edit} (h : StagedAlike p p₁) (hmem : d.field ∈ p.dirty)
    (hset : d.field ≠ .policyClear) : d.Holds p₁.record ↔ d.Holds p.record := by
  refine Edit.holds_congr (h.record d.target (FieldSet.mem_insert.mpr (.inl ?_)))
  rwa [Edit.target_eq_field hset]

theorem StagedAlike.policy (h : StagedAlike p p₁)
    (hpolicy : .policy ∈ p.dirty → p.record.policy ≠ none) :
    .policy ∈ p₁.dirty → p₁.record.policy ≠ none := by
  intro hmem
  rw [h.dirty] at hmem
  have hrecord : p₁.record.policy = p.record.policy :=
    h.record .policy (FieldSet.mem_insert.mpr (.inl hmem))
  rw [hrecord]
  exact hpolicy hmem

/-- A load that does not find the principal. -/
theorem Tracks.of_absent (h : Tracks edits p store) (hstage : StagedAlike p p₁)
    (hp₁ : p₁.Consistent) (habsent : p₁.presence = .absent) : Tracks edits p₁ store where
  consistent := hp₁
  policy := hstage.policy h.policy
  found hpresent := by simp [habsent] at hpresent
  shows _ _ hstored := by simp [StoredAs, habsent] at hstored
  kept d hd :=
    { opposite := by rw [hstage.dirty]; exact (h.kept d hd).opposite
      staged := by
        rw [hstage.dirty]
        exact fun hmem hset => (hstage.holds hmem hset).mpr ((h.kept d hd).staged hmem hset)
      known := by simp [habsent]
      stored := fun _ _ hstored => by simp [StoredAs, habsent] at hstored }

/-- A load that finds the principal. -/
theorem Tracks.of_found (h : Tracks edits p store) (hnotabsent : p.presence ≠ .absent)
    {entry : Entry} (hentry : store.get? p.id.text = some entry) :
    Tracks edits (p.found (Record.blank.merge entry.record p.fieldsToRead)) store := by
  have hstage : StagedAlike p (p.found (Record.blank.merge entry.record p.fieldsToRead)) :=
    ⟨rfl, rfl, rfl, rfl, fun _ => refresh_agreeAt_staged p _⟩
  refine ⟨h.consistent.of_stagedAlike hstage nofun, hstage.policy h.policy,
    fun _ => ⟨entry, rfl, hentry⟩, ?_, fun d hd => ?_⟩
  · rintro - entry' ⟨-, hentry'⟩ f hname hclean
    obtain rfl : entry = entry' := Option.some.inj (hentry.symm.trans hentry')
    exact .inl (refresh_agreeAt_source entry.record hclean hname)
  · have hkept := h.kept d hd
    refine ⟨hkept.opposite, fun hmem hset => ?_, nofun, fun hclean entry' hstored => ?_⟩
    · exact (hstage.holds hmem hset).mpr (hkept.staged hmem hset)
    · have hpresent := Presence.eq_present (hkept.known hclean) hnotabsent
      exact hkept.stored hclean entry' ⟨hpresent, hstored.2⟩

variable {s : Session Realm} {client : Name} {g : PasswordGenerator} {e : Entropy} {r r' : Realm}

/-- A load keeps track of the edits, also when it fails. -/
theorem Tracks.load (hs : s.service = service client) (h : Tracks edits p r.principals) :
    Tracks edits (stateOf ((Principal.load s).run (p, r))).1
      (stateOf ((Principal.load s).run (p, r))).2.principals := by
  have hread := run_fetch? hs p.id p.fieldsToRead r
  have hload := load_run s p r
  have hconsistent := h.consistent.load s r
  rw [(load_sameStore hs p r).principals]
  generalize (Principal.load s).run (p, r) = result at hload hconsistent ⊢
  have hstage := hload.stagedAlike
  cases hload with
  | kept hloaded => exact h
  | found hloaded hpresence hfetch =>
    rw [hfetch] at hread
    cases hread with
    | found hfaults hentry => exact h.of_found hpresence hentry
  | refused hloaded hpresence hfetch => exact h
  | missing hloaded habsent htemplate =>
    exact h.of_absent hstage hconsistent htemplate.presence

/-! ## Requests that are carried out -/

/-- The realm carried out a change that leaves the snapshot unread. -/
theorem Tracks.of_change (h : Tracks edits p store) {store' : TextMap Entry} {entry : Entry}
    (hp₁ : p₁.Consistent) (hpresent : p₁.presence = .present) (hunread : p₁.loaded = false)
    (hrecord : p₁.record = p.record)
    (hdirty : ∀ f, f ≠ .principal → f ∈ p₁.dirty → f ∈ p.dirty)
    (hentry : store'.get? p₁.id.text = some entry)
    (hholds : ∀ d ∈ edits, d.field ∉ p₁.dirty → d.Holds entry.record) :
    Tracks edits p₁ store' where
  consistent := hp₁
  policy hmem := by rw [hrecord]; exact h.policy (hdirty .policy nofun hmem)
  found _ := ⟨entry, hpresent, hentry⟩
  shows hloaded := by simp [hunread] at hloaded
  kept d hd :=
    { opposite := fun f hf => by
        by_cases hname : f = .principal
        · rw [hname]
          exact d.not_displaces_principal
        · exact (h.kept d hd).opposite f (hdirty f hname hf)
      staged := by
        rw [hrecord]
        exact fun hmem => (h.kept d hd).staged (hdirty d.field d.field_ne_principal hmem)
      known := by simp [hpresent]
      stored := fun hclean entry' hstored => by
        obtain rfl : entry = entry' := Option.some.inj (hentry.symm.trans hstored.2)
        exact hholds d hd hclean }

/-- The first change of a principal that is there, when the realm carried it
out. -/
theorem Tracks.settle (h : Tracks edits p r.principals) (hpresent : p.presence = .present)
    {q : Request} {rest : List Request} (hq : p.changes = q :: rest) {a : q.Answer}
    (hserve : ((service client).serve q).run r = .ok a r') :
    Tracks edits (p.settle q) r'.principals := by
  have hconsistent := (h.consistent.settle hq).1
  obtain ⟨-, ⟨secret, -, rfl⟩ | ⟨target, htarget, rfl⟩ | ⟨-, rfl⟩⟩ := changes_cons hq
  · obtain ⟨-, -, entry, hentry, rfl⟩ := ((serveChangePassword_changes ..).1 _).mp hserve
    refine h.of_change hconsistent hpresent rfl rfl (fun f _ hf => hf)
      (TextMap.get?_insert_self ..) fun d hd hclean => ?_
    exact Edit.holds_rekeyed.mpr ((h.kept d hd).stored hclean entry ⟨hpresent, hentry⟩)
  · obtain ⟨-, -, entry, hentry, rfl⟩ := ((serveRename_changes ..).1 _).mp hserve
    have hid : (p.settle (.rename p.id target)).id = target := by
      simp [Principal.settle, renamed, name, htarget]
    refine h.of_change hconsistent hpresent rfl rfl (fun f _ hf => (FieldSet.mem_erase.mp hf).1)
      (by rw [hid]; exact TextMap.get?_insert_self ..) fun d hd hclean => ?_
    have hclean : d.field ∉ p.dirty := fun hf =>
      hclean (FieldSet.mem_erase.mpr ⟨hf, d.field_ne_principal⟩)
    exact Edit.holds_renamed.mpr ((h.kept d hd).stored hclean entry ⟨hpresent, hentry⟩)
  · obtain ⟨-, -, hpolicies, name, entry, hname, hentry, rfl⟩ :=
      ((serveModify_changes client { p.record with principal := some p.id } _ r).1 _).mp hserve
    obtain rfl := Option.some.inj hname
    refine h.of_change hconsistent hpresent rfl rfl (fun f _ hf => absurd hf (FieldSet.not_mem_empty f))
      (TextMap.get?_insert_self ..) fun d hd _ => ?_
    have hkept := h.kept d hd
    have hdirty : d.field ∈ p.dirty.erase .principal ↔ d.field ∈ p.dirty := by
      simp [d.field_ne_principal]
    by_cases hmem : d.field ∈ p.dirty
    · refine Edit.holds_modified_of_mem (hdirty.mpr hmem) hpolicies fun hset => ?_
      exact (Edit.holds_named ..).mpr (hkept.staged hmem hset)
    · refine (Edit.holds_modified_of_not_mem (mt hdirty.mp hmem) fun f hf => ?_).mpr
        (hkept.stored hmem entry ⟨hpresent, hentry⟩)
      exact hkept.opposite f (FieldSet.mem_erase.mp hf).1

end RealmAdmin.Principal
