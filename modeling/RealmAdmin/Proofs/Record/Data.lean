/-
RealmAdmin.Proofs.Record.Data — records written as data, and read back.

`Spells` says member by member what data a record is read from, and `Name.SpelledBy` the
same of names, valid or not. Reading finds the record that is spelled, or nothing
(`ofValue?_eq_some`); of names it takes the valid ones only. Since no member may be given
twice (`members?_eq_some`), it reads whatever stands for a member, and not just the first.
Writing fills a slot for each attribute that is not absent (`toValue_eq`), and what is in
the slots spells the record.
-/
import RealmAdmin.Proofs.Name.RoundTrip
import RealmAdmin.Record.Data

namespace RealmAdmin

/-! ## Values -/

namespace Value

theorem int64?_ofInt64 (n : Int64) : (ofInt64 n).int64? = some n := by
  have hlow := n.le_toInt
  have hhigh := n.toInt_lt
  have hfits : -9223372036854775808 ≤ n.toInt ∧ n.toInt ≤ 9223372036854775807 := by omega
  rw [int64?, ofInt64, integer?]
  dsimp only
  rw [if_pos hfits, Int64.ofInt_toInt]

theorem uint32?_ofUInt32 (n : UInt32) : (ofUInt32 n).uint32? = some n := by
  have hhigh := n.toNat_lt
  have hfits : 0 ≤ (n.toNat : Int) ∧ (n.toNat : Int) ≤ 4294967295 := by omega
  rw [uint32?, ofUInt32, integer?]
  dsimp only
  rw [if_pos hfits, Int.toNat_natCast, UInt32.ofNat_toNat]

theorem text?_eq_some {v : Value} {s : String} : v.text? = some s ↔ v = .text s := by
  cases v <;> simp [text?]

theorem list?_eq_some {v : Value} {items : List Value} :
    v.list? = some items ↔ v = .list items := by
  cases v <;> simp [list?]

theorem mapM_text?_eq_some {items : List Value} {texts : List String} :
    items.mapM text? = some texts ↔ items = texts.map .text := by
  induction items generalizing texts with
  | nil => cases texts <;> simp
  | cons v items ih =>
    simp only [List.mapM_cons, Option.bind_eq_bind, Option.pure_def, Option.bind_eq_some_iff,
      Option.some.injEq, text?_eq_some, ih]
    constructor
    · rintro ⟨s, rfl, rest, rfl, rfl⟩
      rfl
    · intro h
      obtain ⟨s, rest, rfl, rfl, rfl⟩ := List.map_eq_cons_iff.mp h.symm
      exact ⟨s, rfl, rest, rfl, rfl⟩

section

variable {names : List String} {v : Value} {members : Members} {given : List (String × Value)}

/-- The members are those that are given, if none of them is given twice. -/
theorem members?_eq_some : v.members? names = some members ↔
    ∃ given, v.given? names = some given ∧
      (∀ name ∈ names, (given.map Prod.fst).count name ≤ 1) ∧
      members = fun name => List.lookup name given := by
  simp only [members?, Option.bind_eq_bind, Option.bind_eq_some_iff, Option.ite_none_right_eq_some,
    Option.pure_def, Option.some.injEq, eq_comm (b := members)]

/-- Members that are given in full are members. -/
theorem members?_of_allMembers? (h : v.allMembers? names = some members) :
    v.members? names = some members := by
  cases v with
  | list items =>
    rw [allMembers?] at h
    split at h
    · exact h
    · cases h
  | _ => exact h

/-- What is given once is found, wherever it stands. -/
theorem lookup_of_mem {name : String} (hcount : (given.map Prod.fst).count name ≤ 1)
    (h : (name, v) ∈ given) : List.lookup name given = some v := by
  obtain ⟨before, after, rfl⟩ := List.append_of_mem h
  have hnone : (before.map Prod.fst).count name = 0 := by
    simp only [List.map_append, List.map_cons, List.count_append, List.count_cons_self] at hcount
    omega
  refine List.lookup_eq_some_iff.mpr ⟨before, after, rfl, fun other hother => ?_⟩
  refine bne_iff_ne.mpr fun hsame => List.count_eq_zero.mp hnone ?_
  exact hsame ▸ List.mem_map_of_mem hother

end

variable {α : Type} {read : Value → Option α} {member : Option Value} {a : α} {v : Value}

theorem required_eq_some :
    required read member = some a ↔ ∃ v, member = some v ∧ read v = some a := by
  cases member <;> simp [required]

/-- A member that is neither missing nor null is read as it is. -/
theorem optional_of_ne_null (h : v ≠ .null) : optional read (some v) = (read v).map some := by
  cases v with
  | null => exact absurd rfl h
  | _ => rfl

theorem optional_eq_some_some (h : optional read member = some (some a)) :
    ∃ v, member = some v ∧ read v = some a := by
  rcases member with _ | v
  · cases h
  have hnull : v ≠ .null := by
    rintro rfl
    cases h
  rw [optional_of_ne_null hnull, Option.map_eq_some_iff] at h
  obtain ⟨b, hread, hb⟩ := h
  exact ⟨v, rfl, Option.some.inj hb ▸ hread⟩

/-- What is written of an attribute that may be absent is read back. -/
theorem optional_map {write : α → Value} {a? : Option α}
    (hread : ∀ a, a? = some a → read (write a) = some a) (hnull : ∀ a, write a ≠ .null) :
    optional read (a?.map write) = some a? := by
  cases a? with
  | none => rfl
  | some a => rw [Option.map_some, optional_of_ne_null (hnull a), hread a rfl, Option.map_some]

end Value

/-! ## Names -/

namespace Name

variable {m n : Name} {v : Value}

/-- Whether a value spells the name, valid or not: it is a structure that has the
components and the realm for members. -/
def SpelledBy (n : Name) (v : Value) : Prop :=
  ∃ members, v.allMembers? memberNames = some members ∧
    members "components" = some (.list (n.components.map .text)) ∧
    members "realm" = some (.text n.realm)

theorem spelledBy_toValue (n : Name) : n.SpelledBy n.toValue := ⟨_, rfl, rfl, rfl⟩

theorem SpelledBy.ne_null (h : n.SpelledBy v) : v ≠ .null := by
  rintro rfl
  obtain ⟨members, hmembers, -⟩ := h
  cases hmembers

/-- A value spells one name only. -/
theorem SpelledBy.eq (hm : m.SpelledBy v) (hn : n.SpelledBy v) : m = n := by
  obtain ⟨members, hmembers, hcomponents, hrealm⟩ := hm
  obtain ⟨members', hmembers', hcomponents', hrealm'⟩ := hn
  obtain rfl := Option.some.inj (hmembers.symm.trans hmembers')
  have hitems := Value.list.inj (Option.some.inj (hcomponents.symm.trans hcomponents'))
  have htext := Value.text.inj (Option.some.inj (hrealm.symm.trans hrealm'))
  obtain ⟨components, realm⟩ := m
  obtain ⟨components', realm'⟩ := n
  rw [mk.injEq]
  exact ⟨(List.map_inj_right fun _ _ => Value.text.inj).mp hitems, htext⟩

/-- What is read is the name that is spelled, if it is valid. -/
theorem ofValue?_eq_some : ofValue? v = some n ↔ n.SpelledBy v ∧ n.IsValid := by
  have hmake (components : List String) (realm : String) :
      (make components realm).toOption = some n ↔ n = ⟨components, realm⟩ ∧ n.IsValid := by
    rw [← make_eq_ok]
    cases make components realm <;> simp [Except.toOption]
  simp only [ofValue?, Option.bind_eq_bind, Option.bind_eq_some_iff, Value.required_eq_some,
    Value.list?_eq_some, Value.text?_eq_some, Value.mapM_text?_eq_some, exists_eq_right, hmake]
  constructor
  · rintro ⟨members, hmembers, items, hitems, components, rfl, realm, hrealm, rfl, hvalid⟩
    exact ⟨⟨members, hmembers, hitems, hrealm⟩, hvalid⟩
  · rintro ⟨⟨members, hmembers, hitems, hrealm⟩, hvalid⟩
    exact ⟨members, hmembers, _, hitems, _, rfl, _, hrealm, rfl, hvalid⟩

theorem ofValue?_toValue (h : n.IsValid) : ofValue? n.toValue = some n :=
  ofValue?_eq_some.mpr ⟨n.spelledBy_toValue, h⟩

end Name

namespace Record

/-! ## Reading -/

/-- Whether each attribute is what the member for it holds. -/
structure Spells (members : Value.Members) (r : Record) : Prop where
  principal : Value.optional Name.ofValue? (members "principal") = some r.principal
  expireTime : Value.required Value.int64? (members "princExpireTime") = some r.expireTime
  lastPasswordChange :
    Value.required Value.int64? (members "lastPwdChange") = some r.lastPasswordChange
  passwordExpiration :
    Value.required Value.int64? (members "pwExpiration") = some r.passwordExpiration
  maxLife : Value.required Value.int64? (members "maxLife") = some r.maxLife
  modifier : Value.optional Name.ofValue? (members "modName") = some r.modifier
  modifyTime : Value.required Value.int64? (members "modDate") = some r.modifyTime
  attributes : Value.required Value.uint32? (members "attributes") = some r.attributes.bits
  keyVersion : Value.required Value.uint32? (members "kvno") = some r.keyVersion
  masterKeyVersion : Value.required Value.uint32? (members "mkvno") = some r.masterKeyVersion
  policy : Value.optional Value.text? (members "policy") = some r.policy
  auxAttributes : Value.required Value.int64? (members "auxAttributes") = some r.auxAttributes
  maxRenewableLife :
    Value.required Value.int64? (members "maxRenewableLife") = some r.maxRenewableLife
  lastSuccess : Value.required Value.int64? (members "lastSuccess") = some r.lastSuccess
  lastFailure : Value.required Value.int64? (members "lastFailed") = some r.lastFailure
  failedAttempts : Value.required Value.uint32? (members "failAuthCount") = some r.failedAttempts

variable {r : Record} {v : Value} {members : Value.Members}

/-- What is read is the record that the members spell. -/
theorem ofValue?_eq_some : ofValue? v = some r ↔
    ∃ members, v.allMembers? memberNames = some members ∧ Spells members r := by
  constructor
  · intro h
    -- one step for each member, in the order of reading
    obtain ⟨members, hmembers, h⟩ := Option.bind_eq_some_iff.mp h
    obtain ⟨_, principal, h⟩ := Option.bind_eq_some_iff.mp h
    obtain ⟨_, expireTime, h⟩ := Option.bind_eq_some_iff.mp h
    obtain ⟨_, lastPasswordChange, h⟩ := Option.bind_eq_some_iff.mp h
    obtain ⟨_, passwordExpiration, h⟩ := Option.bind_eq_some_iff.mp h
    obtain ⟨_, maxLife, h⟩ := Option.bind_eq_some_iff.mp h
    obtain ⟨_, modifier, h⟩ := Option.bind_eq_some_iff.mp h
    obtain ⟨_, modifyTime, h⟩ := Option.bind_eq_some_iff.mp h
    obtain ⟨_, attributes, h⟩ := Option.bind_eq_some_iff.mp h
    obtain ⟨_, keyVersion, h⟩ := Option.bind_eq_some_iff.mp h
    obtain ⟨_, masterKeyVersion, h⟩ := Option.bind_eq_some_iff.mp h
    obtain ⟨_, policy, h⟩ := Option.bind_eq_some_iff.mp h
    obtain ⟨_, auxAttributes, h⟩ := Option.bind_eq_some_iff.mp h
    obtain ⟨_, maxRenewableLife, h⟩ := Option.bind_eq_some_iff.mp h
    obtain ⟨_, lastSuccess, h⟩ := Option.bind_eq_some_iff.mp h
    obtain ⟨_, lastFailure, h⟩ := Option.bind_eq_some_iff.mp h
    obtain ⟨_, failedAttempts, h⟩ := Option.bind_eq_some_iff.mp h
    obtain rfl := Option.some.inj h
    exact ⟨members, hmembers, {
      principal, expireTime, lastPasswordChange, passwordExpiration, maxLife, modifier, modifyTime,
      attributes, keyVersion, masterKeyVersion, policy, auxAttributes, maxRenewableLife,
      lastSuccess, lastFailure, failedAttempts }⟩
  · rintro ⟨members, hmembers, h⟩
    rw [ofValue?, hmembers]
    dsimp only [Option.bind_eq_bind, Option.bind_some]
    rw [h.principal, h.expireTime, h.lastPasswordChange, h.passwordExpiration, h.maxLife,
      h.modifier, h.modifyTime, h.attributes, h.keyVersion, h.masterKeyVersion, h.policy,
      h.auxAttributes, h.maxRenewableLife, h.lastSuccess, h.lastFailure, h.failedAttempts]
    rfl

/-- The names that a record carries. -/
def Carries (r : Record) (n : Name) : Prop := r.principal = some n ∨ r.modifier = some n

/-- The members that hold names. -/
def nameMembers : List String := ["principal", "modName"]

theorem nameMembers_subset : nameMembers ⊆ memberNames := by decide

/-- A name that is read from a member is valid. -/
theorem Spells.isValid (h : Spells members r) {n : Name} (hn : r.Carries n) : n.IsValid := by
  have hread {member : Option Value}
      (hmember : Value.optional Name.ofValue? member = some (some n)) : n.IsValid := by
    obtain ⟨w, hw⟩ := Value.optional_eq_some_some hmember
    exact (Name.ofValue?_eq_some.mp hw.2).2
  rcases hn with hn | hn
  · exact hread (hn ▸ h.principal)
  · exact hread (hn ▸ h.modifier)

/-- A member for a name that is neither missing nor null is read, and holds a valid name. -/
theorem Spells.readsName (h : Spells members r) {key : String} (hkey : key ∈ nameMembers)
    {w : Value} (hw : members key = some w) (hnull : w ≠ .null) :
    ∃ n, Name.ofValue? w = some n := by
  have hread {name? : Option Name}
      (hmember : Value.optional Name.ofValue? (members key) = some name?) :
      ∃ n, Name.ofValue? w = some n := by
    rw [hw, Value.optional_of_ne_null hnull, Option.map_eq_some_iff] at hmember
    obtain ⟨n, hn, -⟩ := hmember
    exact ⟨n, hn⟩
  simp only [nameMembers, List.mem_cons, List.not_mem_nil, or_false] at hkey
  rcases hkey with rfl | rfl
  · exact hread h.principal
  · exact hread h.modifier

/-- Of what is given for a record that is read nothing is given twice, and all of it is
read. -/
theorem spells_given (h : ofValue? v = some r) {given : List (String × Value)}
    (hgiven : v.given? memberNames = some given) :
    (∀ name ∈ memberNames, (given.map Prod.fst).count name ≤ 1) ∧
      Spells (fun name => List.lookup name given) r := by
  obtain ⟨members, hmembers, hspells⟩ := ofValue?_eq_some.mp h
  obtain ⟨given', hgiven', honce, rfl⟩ :=
    Value.members?_eq_some.mp (Value.members?_of_allMembers? hmembers)
  obtain rfl := Option.some.inj (hgiven.symm.trans hgiven')
  exact ⟨honce, hspells⟩

/-! ## Writing -/

/-- The slots of a record as data, one for each attribute, with the attribute if it is
not absent. -/
def slots (r : Record) : List (String × Option Value) := [
  ("principal", r.principal.map Name.toValue), ("princExpireTime", some (.ofInt64 r.expireTime)),
  ("lastPwdChange", some (.ofInt64 r.lastPasswordChange)),
  ("pwExpiration", some (.ofInt64 r.passwordExpiration)), ("maxLife", some (.ofInt64 r.maxLife)),
  ("modName", r.modifier.map Name.toValue), ("modDate", some (.ofInt64 r.modifyTime)),
  ("attributes", some (.ofUInt32 r.attributes.bits)), ("kvno", some (.ofUInt32 r.keyVersion)),
  ("mkvno", some (.ofUInt32 r.masterKeyVersion)), ("policy", r.policy.map .text),
  ("auxAttributes", some (.ofInt64 r.auxAttributes)),
  ("maxRenewableLife", some (.ofInt64 r.maxRenewableLife)),
  ("lastSuccess", some (.ofInt64 r.lastSuccess)), ("lastFailed", some (.ofInt64 r.lastFailure)),
  ("failAuthCount", some (.ofUInt32 r.failedAttempts))]

theorem slots_names (r : Record) : r.slots.map Prod.fst = memberNames := rfl

/-- The members of a table whose slots are filled. -/
def filled (slots : List (String × Option Value)) : List (String × Value) :=
  slots.filterMap fun slot => slot.2.map (slot.1, ·)

/-- A record is written as the slots that are filled, in their order. -/
theorem toValue_eq (r : Record) : r.toValue = .table (filled r.slots) := by
  unfold toValue slots
  cases r.principal <;> cases r.modifier <;> cases r.policy <;> rfl

/-- Whether the table of a record has a member: the two names and the policy may be
absent, and the other members are always there. -/
def HasMember (r : Record) (name : String) : Bool :=
  if name = "principal" then r.principal.isSome
  else if name = "modName" then r.modifier.isSome
  else if name = "policy" then r.policy.isSome
  else true

theorem filled_slots_names (r : Record) :
    (filled r.slots).map Prod.fst = memberNames.filter r.HasMember := by
  unfold slots HasMember
  cases r.principal <;> cases r.modifier <;> cases r.policy <;> rfl

theorem lookup_filled_of_not_mem {slots : List (String × Option Value)} {name : String}
    (h : name ∉ slots.map Prod.fst) : List.lookup name (filled slots) = none := by
  rw [List.lookup_eq_none_iff]
  intro member hmember
  obtain ⟨⟨key, value?⟩, hslot, hvalue⟩ := List.mem_filterMap.mp hmember
  obtain ⟨value, -, rfl⟩ := Option.map_eq_some_iff.mp hvalue
  have hkey : key ∈ slots.map Prod.fst := List.mem_map_of_mem hslot
  exact bne_iff_ne.mpr fun hname => h (hname ▸ hkey)

/-- In a table of differently named slots each name finds what its own slot holds. -/
theorem lookup_filled {slots : List (String × Option Value)}
    (hnodup : (slots.map Prod.fst).Nodup) (name : String) :
    List.lookup name (filled slots) = (List.lookup name slots).join := by
  induction slots with
  | nil => rfl
  | cons slot rest ih =>
    obtain ⟨key, value?⟩ := slot
    obtain ⟨hfresh, hrest⟩ := List.nodup_cons.mp hnodup
    by_cases hname : name = key
    · subst hname
      cases value? with
      | none => simpa [filled] using lookup_filled_of_not_mem hfresh
      | some value => simp [filled]
    · have hne : (name == key) = false := beq_false_of_ne hname
      cases value? <;> simpa [filled, List.lookup_cons, hne] using ih hrest

/-- What is in the slots of a record spells it, if its names are valid. -/
theorem spells_slots (h : ∀ n, r.Carries n → n.IsValid) :
    Spells (fun name => (List.lookup name r.slots).join) r where
  principal := Value.optional_map (fun n hn => Name.ofValue?_toValue (h n (.inl hn))) nofun
  expireTime := Value.int64?_ofInt64 _
  lastPasswordChange := Value.int64?_ofInt64 _
  passwordExpiration := Value.int64?_ofInt64 _
  maxLife := Value.int64?_ofInt64 _
  modifier := Value.optional_map (fun n hn => Name.ofValue?_toValue (h n (.inr hn))) nofun
  modifyTime := Value.int64?_ofInt64 _
  attributes := Value.uint32?_ofUInt32 _
  keyVersion := Value.uint32?_ofUInt32 _
  masterKeyVersion := Value.uint32?_ofUInt32 _
  policy := Value.optional_map (fun _ _ => rfl) nofun
  auxAttributes := Value.int64?_ofInt64 _
  maxRenewableLife := Value.int64?_ofInt64 _
  lastSuccess := Value.int64?_ofInt64 _
  lastFailure := Value.int64?_ofInt64 _
  failedAttempts := Value.uint32?_ofUInt32 _

/-- A record whose names are valid is read back as it was written. -/
theorem ofValue?_toValue (h : ∀ n, r.Carries n → n.IsValid) : ofValue? r.toValue = some r := by
  have hnames : memberNames.Nodup := by decide
  have honce : ∀ name ∈ memberNames, ((filled r.slots).map Prod.fst).count name ≤ 1 := by
    intro name _
    rw [filled_slots_names]
    exact List.nodup_iff_count.mp (hnames.filter _) name
  refine ofValue?_eq_some.mpr ⟨fun name => List.lookup name (filled r.slots), ?_, ?_⟩
  · rw [toValue_eq]
    exact Value.members?_eq_some.mpr ⟨_, rfl, honce, rfl⟩
  · simp only [lookup_filled (r.slots_names ▸ hnames)]
    exact spells_slots h

/-- **Records as data.** A record with valid names is read back as it was written, and
written without the attributes that are absent. Of data that is read the names are valid,
so that the record comes back once more. Data is not read at all where anything that
stands for the principal or for the modifier is neither null nor a valid name, or where a
member of a record is given twice. -/
theorem data_round_trip :
    (∀ r : Record, (∀ n, r.Carries n → n.IsValid) → ofValue? r.toValue = some r) ∧
    (∀ r : Record, ∃ members, r.toValue = .table members ∧
      members.map Prod.fst = memberNames.filter r.HasMember) ∧
    (∀ v r, ofValue? v = some r →
      (∀ n, r.Carries n → n.IsValid) ∧ ofValue? r.toValue = some r) ∧
    ∀ v given, v.given? memberNames = some given →
      (∀ key ∈ nameMembers, ∀ w, (key, w) ∈ given → w ≠ .null →
        (∀ n : Name, n.SpelledBy w → ¬ n.IsValid) → ofValue? v = none) ∧
      ∀ key ∈ memberNames, 2 ≤ (given.map Prod.fst).count key → ofValue? v = none := by
  refine ⟨fun r => ofValue?_toValue, fun r => ⟨_, r.toValue_eq, r.filled_slots_names⟩,
    fun v r h => ?_, fun v given hgiven => ⟨fun key hkey w hw hnull hinvalid => ?_,
    fun key hkey htwice => ?_⟩⟩
  · obtain ⟨members, -, hspells⟩ := ofValue?_eq_some.mp h
    have hvalid (n : Name) (hn : r.Carries n) : n.IsValid := hspells.isValid hn
    exact ⟨hvalid, ofValue?_toValue hvalid⟩
  · refine Option.eq_none_iff_forall_not_mem.mpr fun r hr => ?_
    obtain ⟨honce, hspells⟩ := spells_given hr hgiven
    have hfound : List.lookup key given = some w :=
      Value.lookup_of_mem (honce key (nameMembers_subset hkey)) hw
    obtain ⟨n, hn⟩ := hspells.readsName hkey hfound hnull
    obtain ⟨hn, hvalid⟩ := Name.ofValue?_eq_some.mp hn
    exact hinvalid n hn hvalid
  · refine Option.eq_none_iff_forall_not_mem.mpr fun r hr => ?_
    have hone := (spells_given hr hgiven).1 key hkey
    omega

/-- A record without a policy, with words at the ends of their ranges; the same record
modified by somebody without a name, also where another modifier stands before; and the
same record with two key versions. -/
theorem data_round_trip_of_user :
    let user : Name := ⟨["alice", ""], "EXAMPLE.COM"⟩
    let nobody : Name := ⟨["", "admin"], "EXAMPLE.COM"⟩
    let r : Record := {
      principal := some user, modifier := some user, expireTime := Int64.minValue,
      attributes := ⟨4294967295⟩, failedAttempts := 4294967295 }
    let spoiled : Record := { r with modifier := some nobody }
    (∀ n, r.Carries n → n.IsValid) ∧ ofValue? r.toValue = some r ∧
      ofValue? spoiled.toValue = none ∧
      ofValue? (.table (filled r.slots ++ [("modName", nobody.toValue)])) = none ∧
      ofValue? (.table (filled r.slots ++ [("kvno", .integer 1)])) = none := by
  intro user nobody r spoiled
  obtain ⟨hread, -, hback, hrefused⟩ := data_round_trip
  have hr : ofValue? r.toValue = some r := by
    refine hread r fun n hn => ?_
    obtain rfl : user = n := by simpa [Carries, r] using hn
    decide
  have hvalid : ∀ n, r.Carries n → n.IsValid := (hback _ r hr).1
  have hnobody (n : Name) (hn : n.SpelledBy nobody.toValue) : ¬ n.IsValid := by
    rw [hn.eq nobody.spelledBy_toValue]
    decide
  have hspoiled (given : List (String × Value)) (hgiven : ("modName", nobody.toValue) ∈ given) :
      ofValue? (.table given) = none :=
    (hrefused (.table given) given rfl).1 "modName" (by decide) _ hgiven
      nobody.spelledBy_toValue.ne_null hnobody
  have hwritten : ("modName", nobody.toValue) ∈ filled spoiled.slots := by
    simp [filled, slots, spoiled]
  rw [spoiled.toValue_eq]
  exact ⟨hvalid, hr, hspoiled _ hwritten,
    hspoiled _ (List.mem_append_right _ List.mem_cons_self),
    (hrefused _ _ rfl).2 "kvno" (by decide) (by decide)⟩

end Record

end RealmAdmin
