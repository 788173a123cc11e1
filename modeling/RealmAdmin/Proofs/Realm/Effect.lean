/-
RealmAdmin.Proofs.Realm.Effect — what changes make of an entry.

Each change of a principal that a realm carries out makes one entry into
another (`Request.effect`) and stores it under the name that the principal has
then; no other entry is touched (`settle_stored`). So the changes of a commit
together move one entry and apply their effects to it in turn, wherever the
commit is cut (`deliver_stored`). Of the attributes, a change writes few:
`Request.Writes` names them, and the stamp of a change aside, an attribute is
decided by the last change that writes it.
-/
import RealmAdmin.Proofs.Realm.Deliver

namespace RealmAdmin

open Realm

variable {client : Name} {clock now : Int64} {entry : Entry} {q : Request} {qs : List Request}
  {f : Field}

/-! ## Effects on an entry -/

/-- What a change makes of the entry that it is about. -/
def Request.effect (client : Name) (now : Int64) (entry : Entry) : Request → Entry
  | .changePassword _ password => entry.rekeyed client now password
  | .rename _ target => entry.renamed client now target
  | .modify record fields => entry.modified client now record fields
  | .get .. | .create .. | .delete _ | .list _ | .privileges => entry

/-- What changes make of the entry when they are carried out in turn, each a
second after the one before it. -/
def effects (client : Name) : List Request → Int64 → Entry → Entry
  | [], _, entry => entry
  | q :: rest, clock, entry =>
    effects client rest (clock + 1) (q.effect client (clock + 1) entry)

/-- Whether a change writes the attribute of a field, other than by its stamp. -/
def Request.Writes (f : Field) : Request → Prop
  | .changePassword .. => f = .keyVersion ∨ f = .lastPasswordChange
  | .rename .. => f = .principal
  | .modify _ fields => f ∈ fields ∨ f = .policy ∧ .policyClear ∈ fields
  | .get .. | .create .. | .delete _ | .list _ | .privileges => False

/-- Whether the attribute of a field is part of the stamp that a change leaves. -/
def Field.IsStamp (f : Field) : Prop := f = .modifyTime ∨ f = .modifier

/-- A stamp changes nothing else. -/
theorem agreeAt_stamp (r : Record) (hf : ¬ f.IsStamp) : (stamp client now r).AgreeAt r f := by
  cases f <;> first | rfl | trivial | exact absurd (.inl rfl) hf | exact absurd (.inr rfl) hf

/-- A modification is a masked copy, but for the stamp and a cleared policy. -/
theorem agreeAt_modified {record : Record} {fields : FieldSet} (hf : ¬ f.IsStamp)
    (hpolicy : ¬ (f = .policy ∧ .policyClear ∈ fields)) :
    (entry.modified client now record fields).record.AgreeAt (entry.record.merge record fields) f := by
  rw [Entry.modified]
  refine (agreeAt_stamp _ hf).trans ?_
  split
  · next hclear => cases f <;> first | rfl | trivial | exact absurd ⟨rfl, hclear⟩ hpolicy
  · exact .refl _ f

/-- A modification that clears the policy leaves none. -/
theorem policy_modified_of_clear {record : Record} {fields : FieldSet}
    (hclear : .policyClear ∈ fields) :
    (entry.modified client now record fields).record.policy = none := by
  rw [Entry.modified, if_pos hclear]
  rfl

/-- A change leaves the attributes that it does not write. -/
theorem agreeAt_effect (hf : ¬ f.IsStamp) (hwrites : ¬ q.Writes f) :
    (q.effect client now entry).record.AgreeAt entry.record f := by
  cases q with
  | changePassword name password =>
    refine (agreeAt_stamp _ hf).trans ?_
    cases f <;> first
      | rfl | trivial | exact absurd (.inl rfl) hwrites | exact absurd (.inr rfl) hwrites
  | rename source target =>
    refine (agreeAt_stamp _ hf).trans ?_
    cases f <;> first | rfl | trivial
  | modify record fields =>
    exact (agreeAt_modified hf fun h => hwrites (.inr h)).trans
      (Record.agreeAt_merge_of_not_mem fun h => hwrites (.inl h))
  | _ => exact .refl _ f

/-- Changes leave the attributes that none of them writes. -/
theorem agreeAt_effects (hf : ¬ f.IsStamp) (hwrites : ∀ q ∈ qs, ¬ q.Writes f) :
    (effects client qs clock entry).record.AgreeAt entry.record f := by
  induction qs generalizing clock entry with
  | nil => exact .refl _ f
  | cons q qs ih =>
    rw [effects]
    exact (ih fun q hq => hwrites q (List.mem_cons_of_mem _ hq)).trans
      (agreeAt_effect hf (hwrites q List.mem_cons_self))

/-- What every change that writes an attribute agrees upon is its value once one
of them has written it. -/
theorem agreeAt_effects_of_writes (record : Record) (hf : ¬ f.IsStamp)
    (hvalue : ∀ q ∈ qs, q.Writes f → ∀ now entry,
      (q.effect client now entry).record.AgreeAt record f)
    (hwritten : ∃ q ∈ qs, q.Writes f) :
    (effects client qs clock entry).record.AgreeAt record f := by
  induction qs generalizing clock entry with
  | nil => simp at hwritten
  | cons q qs ih =>
    rw [effects]
    by_cases hrest : ∃ q ∈ qs, q.Writes f
    · exact ih (fun q hq => hvalue q (List.mem_cons_of_mem _ hq)) hrest
    · have hq : q.Writes f := by
        obtain ⟨q', hq', hwrites⟩ := hwritten
        rcases List.mem_cons.mp hq' with rfl | hmem
        · exact hwrites
        · exact absurd ⟨q', hmem, hwrites⟩ hrest
      exact (agreeAt_effects hf fun q hq hwrites => hrest ⟨q, hq, hwrites⟩).trans
        (hvalue q List.mem_cons_self hq _ _)

/-- Only a change of the password changes the password. -/
theorem password_effects (hkind : ∀ q ∈ qs, q.call.kind ≠ .changePassword) :
    (effects client qs clock entry).password = entry.password := by
  induction qs generalizing clock entry with
  | nil => rfl
  | cons q qs ih =>
    have hq := hkind q List.mem_cons_self
    rw [effects, ih fun q hq => hkind q (List.mem_cons_of_mem _ hq)]
    cases q with
    | changePassword name password => exact absurd rfl hq
    | _ => rfl

/-- The last change is applied to what the others have made of the entry. -/
theorem effects_concat (client : Name) (qs : List Request) (q : Request) (clock : Int64)
    (entry : Entry) : ∃ now, effects client (qs ++ [q]) clock entry =
      q.effect client now (effects client qs clock entry) := by
  induction qs generalizing clock entry with
  | nil => exact ⟨clock + 1, rfl⟩
  | cons q' qs ih => exact ih (clock + 1) (q'.effect client (clock + 1) entry)

namespace Principal

variable {p p' : Principal} {r r' : Realm} {i : Nat}

/-! ## Changes that were carried out -/

/-- The name of the principal after some of its changes: a renaming among them
has given it the name that was staged. -/
theorem id_foldl_settle (hqs : ∀ q ∈ qs, q.call.kind ≠ .create) :
    ((∃ q ∈ qs, q.call.kind = .rename) → (qs.foldl settle p).id = p.name) ∧
      ((∀ q ∈ qs, q.call.kind ≠ .rename) → (qs.foldl settle p).id = p.id) := by
  induction qs generalizing p with
  | nil => exact ⟨by simp, fun _ => rfl⟩
  | cons q qs ih =>
    obtain ⟨hrenamed, hkept⟩ := ih (p := p.settle q) fun q hq => hqs q (List.mem_cons_of_mem _ hq)
    rw [List.foldl_cons]
    rw [name_settle] at hrenamed
    refine ⟨?_, fun hnone => ?_⟩
    · rintro ⟨q', hq', hkind⟩
      by_cases hrest : ∃ q ∈ qs, q.call.kind = .rename
      · exact hrenamed hrest
      · rw [hkept fun q hq hkind => hrest ⟨q, hq, hkind⟩]
        rcases List.mem_cons.mp hq' with rfl | hmem
        · cases q' <;> first | rfl | cases hkind
        · exact absurd ⟨q', hmem, hkind⟩ hrest
    · rw [hkept fun q hq => hnone q (List.mem_cons_of_mem _ hq)]
      have hcreate := hqs q List.mem_cons_self
      have hrename := hnone q List.mem_cons_self
      cases q <;> first | rfl | exact absurd rfl hcreate | exact absurd rfl hrename

/-- The first change of a principal, when a realm carried it out: the entry has
moved to the name that the principal has now, and every other entry is where
it was. -/
theorem settle_stored (hq : p.changes = q :: qs) {a : q.Answer}
    (hserve : ((service client).serve q).run r = .ok a r') :
    ∃ entry, r.principals.get? p.id.text = some entry ∧ r'.clock = r.clock + 1 ∧
      (q.call.kind ≠ .rename ∧ (p.settle q).id = p.id ∨
        (p.settle q).id = p.name ∧ r.principals.get? p.name.text = none) ∧
      ∀ key, r'.principals.get? key =
        if key = (p.settle q).id.text then some (q.effect client (r.clock + 1) entry)
        else if key = p.id.text then none else r.principals.get? key := by
  obtain ⟨-, ⟨secret, -, rfl⟩ | ⟨target, htarget, rfl⟩ | ⟨-, rfl⟩⟩ := changes_cons hq
  · obtain ⟨-, -, entry, hentry, rfl⟩ := ((serveChangePassword_changes ..).1 _).mp hserve
    refine ⟨entry, hentry, rfl, .inl ⟨(fun h => by cases h), rfl⟩, fun key => ?_⟩
    by_cases hkey : key = p.id.text <;>
      simp [put, TextMap.get?_insert, hkey, Principal.settle, passwordChanged, Request.effect]
  · obtain ⟨-, hfree, entry, hentry, rfl⟩ := ((serveRename_changes ..).1 _).mp hserve
    have hname : p.name = target := by rw [name, htarget, Option.getD_some]
    have hid : (p.settle (.rename p.id target)).id = target := hname
    have hfree : r.principals.get? target.text = none := by
      simpa [TextMap.contains] using hfree
    refine ⟨entry, hentry, rfl, .inr ⟨rfl, by rwa [hname]⟩, fun key => ?_⟩
    rw [hid]
    simp [put, drop, TextMap.get?_insert, TextMap.get?_erase, Request.effect]
  · obtain ⟨-, -, -, name, entry, hname, hentry, rfl⟩ :=
      ((serveModify_changes client { p.record with principal := some p.id } _ r).1 _).mp hserve
    obtain rfl := Option.some.inj hname
    refine ⟨entry, hentry, rfl, .inl ⟨(fun h => by cases h), rfl⟩, fun key => ?_⟩
    by_cases hkey : key = p.id.text <;>
      simp [put, TextMap.get?_insert, hkey, Principal.settle, modified, Request.effect]

/-- The changes of a principal that a realm carried out, up to the first that
it refused: they have moved one entry and applied their effects to it. -/
theorem deliver_stored (client : Name) (hp : p.Consistent) (hqs : p.changes = qs)
    (hentry : r.principals.get? p.id.text = some entry) :
    let d := (service client).deliver qs r
    let p' := (qs.take d.carriedOut).foldl settle p
    ∀ key, d.world.principals.get? key =
      if key = p'.id.text then some (effects client (qs.take d.carriedOut) r.clock entry)
      else if key = p.id.text then none else r.principals.get? key := by
  intro d p' key
  induction qs generalizing p r entry with
  | nil =>
    by_cases hkey : key = p.id.text <;> simp [d, p', effects, hkey, hentry]
  | cons q qs ih =>
    cases hserve : ((service client).serve q).run r with
    | error status r₁ =>
      have hstore := principals_of_refused hserve
      by_cases hkey : key = p.id.text <;>
        simp [d, p', Service.deliver_cons_error hserve, effects, hkey, hentry, hstore]
    | ok a r₁ =>
      obtain ⟨hp₁, hrest, -⟩ := hp.settle hqs
      obtain ⟨entry₁, hentry₁, hclock, hfree, hview⟩ := settle_stored hqs hserve
      obtain rfl : entry = entry₁ := Option.some.inj (hentry.symm.trans hentry₁)
      have hmoved : r₁.principals.get? (p.settle q).id.text =
          some (q.effect client (r.clock + 1) entry) := by simp [hview]
      have hih := ih hp₁ hrest hmoved
      simp only [d, p', Service.deliver_cons_ok hserve, List.take_succ_cons, List.foldl_cons,
        effects]
      rw [hih, hclock]
      split
      · rfl
      · -- The entry has left both names, and no other one was there before.
        by_cases hkey : key = (p.settle q).id.text
        · rw [if_pos hkey, hkey]
          rcases hfree with ⟨-, hsame⟩ | ⟨hname, hnone⟩
          · rw [if_pos (congrArg Name.text hsame)]
          · rw [hname, hnone, ite_self]
        · rw [if_neg hkey, hview, if_neg hkey]

/-- A principal is renamed only to a name under which nothing is stored. -/
theorem rename_target_free (client : Name) (hp : p.Consistent) (hqs : p.changes = qs)
    (hrename : ∃ q ∈ qs.take ((service client).deliver qs r).carriedOut, q.call.kind = .rename) :
    r.principals.get? p.name.text = none := by
  induction qs generalizing p r with
  | nil => simp at hrename
  | cons q qs ih =>
    cases hserve : ((service client).serve q).run r with
    | error status r₁ => simp [Service.deliver_cons_error hserve] at hrename
    | ok a r₁ =>
      obtain ⟨hp₁, hrest, -⟩ := hp.settle hqs
      obtain ⟨entry, -, -, ⟨hkind, hsame⟩ | ⟨-, hnone⟩, hview⟩ := settle_stored hqs hserve
      · rw [Service.deliver_cons_ok hserve, List.take_succ_cons] at hrename
        have hfree := ih hp₁ hrest (by simpa [hkind] using hrename)
        rw [name_settle, hview, hsame] at hfree
        split at hfree
        · cases hfree
        · exact hfree
      · exact hnone

/-- A principal that the realm does not store has none of its changes carried
out. -/
theorem deliver_unstored (client : Name) (hentry : r.principals.get? p.id.text = none) :
    ((service client).deliver p.changes r).carriedOut = 0 ∧
      ((service client).deliver p.changes r).world.principals = r.principals := by
  cases hqs : p.changes with
  | nil => exact ⟨rfl, rfl⟩
  | cons q qs =>
    cases hserve : ((service client).serve q).run r with
    | error status r₁ =>
      rw [Service.deliver_cons_error hserve]
      exact ⟨rfl, principals_of_refused hserve⟩
    | ok a r₁ =>
      obtain ⟨entry, hstored, -⟩ := settle_stored hqs hserve
      simp [hentry] at hstored

/-- A change is of one of three kinds. -/
theorem kind_of_mem_changes (hq : q ∈ p.changes) :
    q.call.kind = .changePassword ∨ q.call.kind = .rename ∨ q.call.kind = .modify := by
  rcases mem_changes hq with ⟨bytes, rfl⟩ | ⟨target, rfl⟩ | ⟨record, rfl, -⟩
  · exact .inl rfl
  · exact .inr (.inl rfl)
  · exact .inr (.inr rfl)

/-- If the fields were written then every change was carried out, and they were
written last. -/
theorem take_changes_of_modify (hq : q ∈ p.changes.take i) (hkind : q.call.kind = .modify) :
    p.changes.take i = p.passwordChange?.toList ++ p.nameChange?.toList ++ [q] ∧
      q = .modify { p.record with principal := some p.name } (p.dirty.erase .principal) := by
  have hother : q ∉ p.passwordChange?.toList ++ p.nameChange?.toList := by
    simp only [List.mem_append, Option.mem_toList]
    rintro (h | h)
    · obtain ⟨secret, -, rfl⟩ := Option.map_eq_some_iff.mp h
      cases hkind
    · obtain ⟨target, -, rfl⟩ := Option.map_eq_some_iff.mp h
      cases hkind
  rw [changes, List.take_append] at hq ⊢
  have hmem := (List.mem_append.mp hq).resolve_left fun h => hother (List.mem_of_mem_take h)
  have hfields : p.fieldChange? = some q := Option.mem_toList.mp (List.mem_of_mem_take hmem)
  rw [hfields, Option.toList_some] at hmem ⊢
  have hlength : i - (p.passwordChange?.toList ++ p.nameChange?.toList).length ≠ 0 := fun hzero => by
    rw [hzero] at hmem
    cases hmem
  obtain ⟨-, hvalue⟩ : _ ∧ _ = q := by simpa [fieldChange?] using hfields
  refine ⟨?_, hvalue.symm⟩
  rw [List.take_of_length_le (by omega), List.take_of_length_le]
  simp only [List.length_singleton]
  omega

/-- The password is changed first. -/
theorem take_changes_of_password (hq : q ∈ p.changes.take i)
    (hkind : q.call.kind = .changePassword) :
    ∃ secret rest, p.secret.pending? = some secret ∧
      p.changes.take i = .changePassword p.id secret.bytes :: rest ∧
      ∀ q ∈ rest, q.call.kind = .rename ∨
        q = .modify { p.record with principal := some p.name } (p.dirty.erase .principal) := by
  have hrest {q : Request} (h : q ∈ p.nameChange?.toList ++ p.fieldChange?.toList) :
      q.call.kind = .rename ∨
        q = .modify { p.record with principal := some p.name } (p.dirty.erase .principal) := by
    simp only [List.mem_append, Option.mem_toList] at h
    rcases h with h | h
    · obtain ⟨target, -, rfl⟩ := Option.map_eq_some_iff.mp h
      exact .inl rfl
    · obtain ⟨-, hvalue⟩ : _ ∧ _ = q := by simpa [fieldChange?] using h
      exact .inr hvalue.symm
  rw [changes, List.append_assoc] at hq ⊢
  cases hsecret : p.secret.pending? with
  | none =>
    have hpassword : p.passwordChange? = none := by simp [passwordChange?, hsecret]
    rw [hpassword, Option.toList_none, List.nil_append] at hq
    rcases hrest (List.mem_of_mem_take hq) with hother | rfl
    · simp [hkind] at hother
    · cases hkind
  | some secret =>
    have hpassword : p.passwordChange? = some (.changePassword p.id secret.bytes) := by
      simp [passwordChange?, hsecret]
    rw [hpassword] at hq ⊢
    cases i with
    | zero => simp at hq
    | succ i =>
      exact ⟨secret, _, rfl, rfl, fun q hq => hrest (List.mem_of_mem_take hq)⟩

end Principal

end RealmAdmin
