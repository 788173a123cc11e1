/-
RealmAdmin.Proofs.Connection.Creation — which names a principal can be created under.

Before it makes a new principal, a connection lists the principals that the text of
its name matches, as a filter. The text of a stored name matches itself, so what is
stored is always found; and where there is no wildcard in it, nothing else is.

`run_create` says how all of this ends in a calm realm, by what the text finds, and
`create_refuses_found` what that means for the name. A wildcard in a name is not escaped
in its text. So a name that is free is refused all the same if its text, as a filter,
finds another name (`free_name_refused`).
-/
import RealmAdmin.Proofs.Connection.Lookup

namespace RealmAdmin

open Realm

/-! ## Names as filters -/

namespace Realm

variable {r : Realm} {n : Name}

/-- Whether the text of the name, as a filter, finds anything that is stored. -/
def Finds (r : Realm) (n : Name) : Prop :=
  ∃ key ∈ r.principalNames, Text.Matches n.text.toList key.toList

theorem isEmpty_filter_iff :
    (r.principalNames.filter (Text.globMatches n.text)).isEmpty = true ↔ ¬ r.Finds n := by
  simp only [List.isEmpty_iff, List.filter_eq_nil_iff, Text.globMatches_iff, Finds, not_exists,
    not_and]

/-- What is stored under the text of a name is found. -/
theorem finds_of_contains (h : r.principals.contains n.text = true) : r.Finds n :=
  ⟨n.text, TextMap.mem_keys.mpr h, Text.matches_self n.newline_not_mem_text⟩

/-- A text without wildcards finds nothing else. -/
theorem Finds.contains (h : r.Finds n) (hplain : Text.IsPlain n.text) :
    r.principals.contains n.text = true := by
  obtain ⟨key, hkey, hmatches⟩ := h
  have hsame := (Text.matches_of_plain hplain.1 hplain.2).mp hmatches
  rw [String.toList_inj] at hsame
  exact TextMap.mem_keys.mp (hsame ▸ hkey)

end Realm

/-! ## New principals -/

namespace Connection

variable {c : Connection Realm} {client : Name} {r : Realm}

/-- How a new principal is made in a calm realm, for a name that can be read. -/
theorem run_create (hservice : c.session.service = service client) (hr : r.IsCalm)
    {text : String} {n : Name} (hname : c.session.parseName text = .ok n)
    (password : Option String) :
    let asked := ((r.logged .privileges).logged .privileges).logged (.list n.text)
    (c.create text password).run r =
      if r.compiles n.text then
        if (r.principalNames.filter (Text.globMatches n.text)).isEmpty then
          .ok (Principal.begun n password) asked
        else .error .alreadyExists asked
      else .error (.ofStatus .failure) asked := by
  intro asked
  have hask :=
    run_list (r := r.logged .privileges) hservice (hr.faults _) (hr.faults _) hr.list n.text
  rw [listing_logged, listing, fullFilter_text] at hask
  rw [create, EStateM.run_bind, run_require_of_granted hservice (hr.faults _) hr.add]
  dsimp only
  rw [hname, EStateM.run_bind, Remote.run_ofExcept_ok]
  dsimp only
  rw [EStateM.run_bind, hask]
  cases r.compiles n.text with
  | false => rfl
  | true =>
    rw [if_pos rfl, if_pos rfl, Remote.run_ofExcept_ok]
    dsimp only
    cases (r.principalNames.filter (Text.globMatches n.text)).isEmpty with
    | false => rfl
    | true =>
      unfold Principal.begun
      cases password.filter (!·.isEmpty) <;> rfl

/-- **Which names are refused.** If the text of the name compiles as a filter, then the
name is refused exactly if that filter finds anything that is stored; otherwise a new
principal is made, of which nothing is known but the password that was given. A name that
is stored is found, and where there is no wildcard in the text, no other name is. Nothing
is stored. -/
theorem create_refuses_found (c : Connection Realm) {client : Name}
    (hservice : c.session.service = service client) {r : Realm} (hr : r.IsCalm) {text : String}
    {n : Name} (hname : c.session.parseName text = .ok n) (hcompiles : r.compiles n.text = true)
    (password : Option String) :
    let result := (c.create text password).run r
    (stateOf result).principals = r.principals ∧
    (answerOf result = .error .alreadyExists ↔ r.Finds n) ∧
    (¬ r.Finds n → ∃ p, answerOf result = .ok p ∧ p.id = n ∧ p.name = n ∧
      p.presence = .absent ∧ p.loaded = false ∧ p.dirty = .empty ∧
      p.secret.pending? = (password.filter (!·.isEmpty)).map .ofText) ∧
    (r.principals.contains n.text = true → r.Finds n) ∧
    (Text.IsPlain n.text → r.Finds n → r.principals.contains n.text = true) := by
  intro result
  have hrun : result = _ := run_create hservice hr hname password
  rw [if_pos hcompiles] at hrun
  by_cases hfound : r.Finds n
  · rw [if_neg (mt isEmpty_filter_iff.mp (not_not_intro hfound))] at hrun
    rw [hrun]
    exact ⟨rfl, iff_of_true rfl hfound, fun hfree => absurd hfound hfree, fun _ => hfound,
      fun hplain hfinds => hfinds.contains hplain⟩
  · rw [if_pos (isEmpty_filter_iff.mpr hfound)] at hrun
    rw [hrun]
    exact ⟨rfl, iff_of_false nofun hfound, fun _ => ⟨_, rfl, Principal.begun_fields n password⟩,
      finds_of_contains, fun hplain hfinds => hfinds.contains hplain⟩

/-- A name that is stored, and two that are not; one of these has a wildcard in it. -/
theorem create_refuses_found_jdoe :
    let admin : Name := ⟨["admin"], "R"⟩
    let jdoe : Name := ⟨["jdoe"], "R"⟩
    let newbie : Name := ⟨["newbie"], "R"⟩
    let wild : Name := ⟨["x*"], "R"⟩
    let c : Connection Realm := ⟨⟨service admin, admin, "R", "kdc", 749⟩, ⟨[]⟩⟩
    let r := Event.run (.addPrincipal "jdoe" "pw") (Realm.new "R")
    r.IsCalm ∧ (∀ n ∈ [jdoe, newbie, wild], r.compiles n.text = true) ∧
      c.session.parseName "jdoe" = .ok jdoe ∧ c.session.parseName "newbie" = .ok newbie ∧
      c.session.parseName "x*" = .ok wild ∧
      answerOf ((c.create "jdoe" (some "pw")).run r) = .error .alreadyExists ∧
      (∃ p, answerOf ((c.create "newbie" (some "pw")).run r) = .ok p ∧ p.id = newbie ∧
        p.presence = .absent ∧ p.loaded = false ∧ p.secret.pending? = some (.ofText "pw")) ∧
      ∃ p, answerOf ((c.create "x*" none).run r) = .ok p ∧ p.id = wild ∧
        p.presence = .absent ∧ p.loaded = false ∧ p.secret.pending? = none := by
  intro admin jdoe newbie wild c r
  have hr : r.IsCalm := ⟨fun _ => rfl, by decide, by decide⟩
  have hcompiles : ∀ n ∈ [jdoe, newbie, wild], r.compiles n.text = true := fun _ _ => rfl
  have hjdoe : c.session.parseName "jdoe" = .ok jdoe := rfl
  have hnewbie : c.session.parseName "newbie" = .ok newbie := rfl
  have hwild : c.session.parseName "x*" = .ok wild := rfl
  have hstored : r.principals.contains jdoe.text = true := by decide +kernel
  have hfree : r.principals.contains newbie.text = false := by decide +kernel
  have hunfound : ¬ r.Finds wild := isEmpty_filter_iff.mp (by decide +kernel)
  obtain ⟨-, hrefused, -, hfound, -⟩ := create_refuses_found c rfl hr hjdoe rfl (some "pw")
  obtain ⟨-, -, hmade, -, hplain⟩ := create_refuses_found c rfl hr hnewbie rfl (some "pw")
  have hunknown : ¬ r.Finds newbie := fun h => by
    rw [hplain (by decide) h] at hfree
    cases hfree
  obtain ⟨p, hp, hid, -, hpresence, hloaded, -, hsecret⟩ := hmade hunknown
  obtain ⟨-, -, hmade, -, -⟩ := create_refuses_found c rfl hr hwild rfl none
  obtain ⟨p', hp', hid', -, hpresence', hloaded', -, hsecret'⟩ := hmade hunfound
  exact ⟨hr, hcompiles, hjdoe, hnewbie, hwild, hrefused.mpr (hfound hstored),
    ⟨p, hp, hid, hpresence, hloaded, hsecret⟩, p', hp', hid', hpresence', hloaded', hsecret'⟩

/-- A name that is not stored and cannot be created: as a filter, `al*` finds `alice`. -/
theorem free_name_refused :
    let admin : Name := ⟨["admin"], "R"⟩
    let wild : Name := ⟨["al*"], "R"⟩
    let c : Connection Realm := ⟨⟨service admin, admin, "R", "kdc", 749⟩, ⟨[]⟩⟩
    let r := Event.run (.addPrincipal "alice" "pw") (Realm.new "R")
    r.IsCalm ∧ r.compiles wild.text = true ∧ c.session.parseName "al*" = .ok wild ∧
      r.principals.contains wild.text = false ∧
      answerOf ((c.create "al*" none).run r) = .error .alreadyExists := by
  intro admin wild c r
  exact ⟨⟨fun _ => rfl, by decide, by decide⟩, rfl, rfl, by decide +kernel, by decide +kernel⟩

end Connection

end RealmAdmin
