/-
RealmAdmin.Proofs.Realm.Upkeep — what a request does to the stored principals.

A request that is refused does nothing to them (`principals_of_refused`).
`principals_of_carriedOut` says what each request that is carried out makes of
them. From it one reads which key a new entry takes (`Request.fills?`), which key
loses its entry (`Request.vacates?`), and that all other keys keep theirs.
-/
import RealmAdmin.Proofs.Realm.Effect
import RealmAdmin.Proofs.Realm.Reached

namespace RealmAdmin

/-- The name under which the request, when it is carried out, stores an entry that
was not there. -/
def Request.fills? : Request → Option Name
  | .create record _ _ => record.principal
  | .rename _ target => some target
  | .get .. | .modify .. | .changePassword .. | .delete _ | .list _ | .privileges => none

/-- The key that loses its entry when the request is carried out. -/
def Request.vacates? : Request → Option String
  | .rename source _ => some source.text
  | .delete name => some name.text
  | .get .. | .create .. | .modify .. | .changePassword .. | .list _ | .privileges => none

/-- Whether the request only asks something. -/
def Request.IsQuestion : Request → Prop
  | .get .. | .list _ | .privileges => True
  | .create .. | .modify .. | .rename .. | .changePassword .. | .delete _ => False

namespace Realm

variable {client : Name} {r r' : Realm}

/-! ## Requests that are carried out -/

/-- Requests that only ask leave the principals as they are. -/
theorem preserves_principals_question {q : Request} (hq : q.IsQuestion)
    {principals : TextMap Entry} :
    Preserves (·.principals = principals) ((service client).serve q) := by
  have henter (call : Call) : Preserves (·.principals = principals) (enter call) :=
    preserves_principals_enter call
  cases q with
  | get name fields => exact (henter _).bind fun _ => (Preserves.entry name).bind fun _ => .pure _
  | list filter => exact .list henter filter
  | privileges => exact (henter _).bind fun _ => Preserves.get.bind fun _ => .pure _
  | _ => exact hq.elim

/-- What is stored after a request was carried out. -/
inductive CarriedOut (client : Name) (r : Realm) : Request → TextMap Entry → Prop
  | asked {q : Request} (hq : q.IsQuestion) : CarriedOut client r q r.principals
  | created {record : Record} {fields : FieldSet} {password : List UInt8} {name : Name}
      (hname : record.principal = some name) (hfree : r.principals.get? name.text = none) :
      CarriedOut client r (.create record fields password)
        (r.principals.insert name.text (.make client (r.clock + 1) record fields password))
  | modified {record : Record} {fields : FieldSet} {name : Name} {e : Entry}
      (hname : record.principal = some name) (he : r.principals.get? name.text = some e) :
      CarriedOut client r (.modify record fields)
        (r.principals.insert name.text (e.modified client (r.clock + 1) record fields))
  | renamed {source target : Name} {e : Entry} (hfree : r.principals.get? target.text = none)
      (he : r.principals.get? source.text = some e) :
      CarriedOut client r (.rename source target)
        ((r.principals.erase source.text).insert target.text
          (e.renamed client (r.clock + 1) target))
  | rekeyed {name : Name} {password : List UInt8} {e : Entry}
      (he : r.principals.get? name.text = some e) :
      CarriedOut client r (.changePassword name password)
        (r.principals.insert name.text (e.rekeyed client (r.clock + 1) password))
  | deleted {name : Name} (hstored : r.principals.contains name.text = true) :
      CarriedOut client r (.delete name) (r.principals.erase name.text)

theorem get?_of_free {key : String} (h : r.principals.contains key = false) :
    r.principals.get? key = none := by
  simpa [TextMap.contains] using h

/-- Every request that is carried out ends in one of these ways. -/
theorem carriedOut {q : Request} {a : q.Answer} (h : ((service client).serve q).run r = .ok a r') :
    CarriedOut client r q r'.principals := by
  have hquestion (hq : q.IsQuestion) : CarriedOut client r q r'.principals := by
    have hsame : (stateOf (((service client).serve q).run r)).principals = r.principals :=
      preserves_principals_question hq r rfl
    rw [h] at hsame
    rw [show r'.principals = r.principals from hsame]
    exact .asked hq
  cases q with
  | create record fields password =>
    obtain ⟨-, -, -, -, name, hname, hfree, rfl⟩ := ((serveCreate_changes ..).1 r').mp h
    exact .created hname (get?_of_free hfree)
  | modify record fields =>
    obtain ⟨-, -, -, name, e, hname, he, rfl⟩ := ((serveModify_changes ..).1 r').mp h
    exact .modified hname he
  | rename source target =>
    obtain ⟨-, hfree, e, he, rfl⟩ := ((serveRename_changes ..).1 r').mp h
    exact .renamed (get?_of_free hfree) he
  | changePassword name password =>
    obtain ⟨-, -, e, he, rfl⟩ := ((serveChangePassword_changes ..).1 r').mp h
    exact .rekeyed he
  | delete name =>
    obtain ⟨-, hstored, rfl⟩ := ((serveDelete_changes ..).1 r').mp h
    exact .deleted hstored
  | _ => exact hquestion trivial

/-! ## What becomes of a key -/

section

variable {q : Request} {after : TextMap Entry} {key : String}

/-- A new entry is stored where there was none. -/
theorem CarriedOut.filled (h : CarriedOut client r q after) {name : Name}
    (hname : q.fills? = some name) : r.principals.get? name.text = none := by
  cases h with
  | asked hq => cases q <;> first | exact hq.elim | cases hname
  | created hrecord hfree =>
    obtain rfl := Option.some.inj (hrecord.symm.trans hname)
    exact hfree
  | renamed hfree he =>
    obtain rfl := Option.some.inj hname
    exact hfree
  | _ => cases hname

/-- Only the key that the request vacates loses its entry. -/
theorem CarriedOut.vacated (h : CarriedOut client r q after) {e : Entry}
    (he : r.principals.get? key = some e) (hgone : after.get? key = none) :
    q.vacates? = some key := by
  cases h with
  | asked hq => simp [he] at hgone
  | created hname hfree =>
    rw [TextMap.get?_insert] at hgone
    split at hgone <;> simp [he] at hgone
  | modified hname hsource =>
    rw [TextMap.get?_insert] at hgone
    split at hgone <;> simp [he] at hgone
  | renamed hfree hsource =>
    rw [TextMap.get?_insert, TextMap.get?_erase] at hgone
    split at hgone
    · cases hgone
    · split at hgone
      · next hkey => exact congrArg some hkey.symm
      · simp [he] at hgone
  | rekeyed hsource =>
    rw [TextMap.get?_insert] at hgone
    split at hgone <;> simp [he] at hgone
  | deleted hstored =>
    rw [TextMap.get?_erase] at hgone
    split at hgone
    · next hkey => exact congrArg some hkey.symm
    · simp [he] at hgone

/-- Keys that the request does not name keep their entries. -/
theorem CarriedOut.kept (h : CarriedOut client r q after) (hkey : key ∉ q.names.map Name.text) :
    after.get? key = r.principals.get? key := by
  cases h with
  | asked hq => rfl
  | created hname hfree =>
    rw [TextMap.get?_insert, if_neg fun heq => hkey (by simp [Request.names, hname, heq])]
  | modified hname hsource =>
    rw [TextMap.get?_insert, if_neg fun heq => hkey (by simp [Request.names, hname, heq])]
  | renamed hfree hsource =>
    rw [TextMap.get?_insert, if_neg fun heq => hkey (by simp [Request.names, heq]),
      TextMap.get?_erase, if_neg fun heq => hkey (by simp [Request.names, heq])]
  | rekeyed hsource =>
    rw [TextMap.get?_insert, if_neg fun heq => hkey (by simp [Request.names, heq])]
  | deleted hstored =>
    rw [TextMap.get?_erase, if_neg fun heq => hkey (by simp [Request.names, heq])]

end

end Realm

end RealmAdmin
