/-
RealmAdmin.Proofs.Realm.Address — a stored key is the address of its own entry.

Whoever looks into a realm, or arranges it, says by a text which principal is meant.
The text is read as a name and what is stored under the text of that name is taken; a
text that is no name is taken as it is. So a key that is handed back to the realm is
read again before it is looked up.

That does no harm to the text of a name: it is read as that very name or not at all
(`key_text`), the latter where its realm has a `/` in it or is empty. A realm that is
reached stores under texts of names only, and so `stored_key_addresses` has no exception.
-/
import RealmAdmin.Proofs.Realm.Keyed

namespace RealmAdmin.Realm

variable {r r' : Realm} {key : String} {e : Entry} {client : Name} {filter : String}
  {names : List String}

/-- Whether a text is the address of an entry: who asks by it is told of that entry, and
who changes a record by it changes the record of that entry and nothing else. -/
structure Addresses (r : Realm) (text : String) (e : Entry) : Prop where
  record : r.record? text = some e.record
  password : ∀ password, r.passwordMatches text password = true ↔ e.password = Text.bytes password
  update : ∀ edit : Record → Record, ∃ principals,
    (updateRecord text edit).run r = .ok () { r with principals } ∧
    ∀ other, principals.get? other =
      if other = text then some { e with record := edit e.record }
      else r.principals.get? other

/-- The text of a name is a key as it is, whatever characters there are in the name. -/
theorem key_text (r : Realm) (n : Name) : r.key n.text = n.text := by
  unfold key
  rcases n.parse_text_cases r.name with hread | hread
  · rw [hread]
  · rw [hread]

/-- A text that is a key as it is addresses what is stored under it. -/
theorem addresses_of_key (hkey : r.key key = key) (he : r.principals.get? key = some e) :
    r.Addresses key e where
  record := by rw [record?, hkey, he, Option.map_some]
  password password := by rw [passwordMatches, hkey, he, Option.any_some, beq_iff_eq]
  update edit := by
    refine ⟨r.principals.insert key { e with record := edit e.record }, ?_, fun other => ?_⟩
    · simp only [updateRecord, EStateM.run_bind, EStateM.run_get, hkey, he]
      rfl
    · exact r.principals.get?_insert key other _

/-- A listing that is answered names what is stored. -/
theorem mem_principalNames_of_list
    (h : ((service client).serve (.list filter)).run r = .ok names r') (hkey : key ∈ names) :
    key ∈ r.principalNames := by
  cases hfaults : r.faults .list with
  | cons fault rest =>
    rw [run_serve_fault (q := .list filter) trivial hfaults] at h
    cases h
  | nil =>
    rw [run_serveList hfaults] at h
    split at h
    · cases h
      exact (List.mem_filter.mp hkey).1
    · cases h

/-- **A stored key addresses its own entry.** Whatever has happened to a realm, a listing
names stored keys only; and each stored key, whatever characters there are in its
components and its realm, addresses the entry that is stored under it. -/
theorem stored_key_addresses (h : Reached Event.IsNamed r) :
    (∀ client filter names r', ((service client).serve (.list filter)).run r = .ok names r' →
      ∀ key ∈ names, key ∈ r.principalNames) ∧
    ∀ key ∈ r.principalNames, ∃ e, r.principals.get? key = some e ∧ r.Addresses key e := by
  refine ⟨fun client filter names r' hrun key hkey => mem_principalNames_of_list hrun hkey,
    fun key hkey => ?_⟩
  obtain ⟨e, he⟩ := Option.isSome_iff_exists.mp (TextMap.mem_keys.mp hkey)
  obtain ⟨name, -, rfl⟩ := h.keyedByNames key hkey
  exact ⟨e, he, addresses_of_key (r.key_text name) he⟩

/-- In a realm with a `/` in its name the keys of its own principals are not read as names,
while the key of a principal of another realm is. Both kinds are addresses. -/
theorem stored_key_addresses_of_slash :
    let r := Event.run (.addPrincipal "a\\/b\\@c@R" "two")
      (Event.run (.addPrincipal "a\\/b\\@c" "one") (Realm.new "A/B"))
    let unread := Name.text ⟨["a/b@c"], "A/B"⟩
    let read := Name.text ⟨["a/b@c"], "R"⟩
    Reached Event.IsNamed r ∧ unread ∈ r.principalNames ∧ read ∈ r.principalNames ∧
      Name.parse unread r.name = .error .malformedName ∧
      Name.parse read r.name = .ok ⟨["a/b@c"], "R"⟩ ∧
      ∃ e e', r.Addresses unread e ∧ r.Addresses read e' ∧
        e.password = Text.bytes "one" ∧ e'.password = Text.bytes "two" := by
  intro r unread read
  have hr : Reached Event.IsNamed r := .after (.after (.new "A/B") _ trivial) _ trivial
  have hunread : unread ∈ r.principalNames := by decide +kernel
  have hread : read ∈ r.principalNames := by decide +kernel
  obtain ⟨-, haddresses⟩ := stored_key_addresses hr
  obtain ⟨e, -, he⟩ := haddresses unread hunread
  obtain ⟨e', -, he'⟩ := haddresses read hread
  refine ⟨hr, hunread, hread, by decide +kernel, by decide +kernel, e, e', he, he', ?_, ?_⟩
  · exact (he.password "one").mp (by decide +kernel)
  · exact (he'.password "two").mp (by decide +kernel)

end RealmAdmin.Realm
