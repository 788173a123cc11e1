/-
RealmAdmin.Proofs.Realm.Listing — what a listing names.

A filter without an `@` is completed with the realm's name, and then the stored texts
that it matches are named. `Lists` says which those are, and in which order.

Wildcards stand for no line feed, but the text of a name has none in it, and a realm
that is reached stores under texts of names only. So there a `*` stands for any run of
characters, and `list_matches` has no exception to make.

The components of a name, as its text shows them, are a filter too. `list_without_realm`
says that it finds the name in its own realm exactly if there is no `@` among them and the
realm has no character that a text escapes; with an `@` the filter seems to have a realm
already (`list_without_realm_missed`).

A filter has to compile before it is matched. Which filters do is not up to the realm, so
this is a hypothesis where something is to be found.
-/
import RealmAdmin.Proofs.Dialogue
import RealmAdmin.Proofs.Realm.Keyed
import RealmAdmin.Proofs.Text.Bytes
import RealmAdmin.Proofs.Text.Glob

namespace RealmAdmin

/-! ## Texts of names -/

namespace Name

theorem newline_not_mem_escapeComponentChar (c : Char) : '\n' ∉ escapeComponentChar c := by
  by_cases hc : c = '\n'
  · subst hc
    decide
  · unfold escapeComponentChar
    simp only [apply_ite ('\n' ∈ ·), List.mem_cons, List.not_mem_nil]
    simp [Ne.symm hc]

theorem newline_not_mem_escapeRealmChar (c : Char) : '\n' ∉ escapeRealmChar c := by
  unfold escapeRealmChar
  split
  · decide
  · exact newline_not_mem_escapeComponentChar c

theorem newline_not_mem_writeComponents (components : List (List Char)) :
    '\n' ∉ writeComponents components := by
  induction components using writeComponents.induct with
  | case1 => exact List.not_mem_nil
  | case2 component =>
    simp [writeComponents, newline_not_mem_escapeComponentChar]
  | case3 component rest hrest ih =>
    simp [writeComponents, newline_not_mem_escapeComponentChar, ih]

/-- The text of a name is one line. -/
theorem newline_not_mem_text (n : Name) : '\n' ∉ n.text.toList := by
  simp [text, componentText, newline_not_mem_writeComponents, newline_not_mem_escapeRealmChar]

/-- An escape shows an `@` for an `@` only. -/
theorem eq_at_of_mem_escapeComponentChar {c : Char} (h : '@' ∈ escapeComponentChar c) :
    c = '@' := by
  by_contra hc
  unfold escapeComponentChar at h
  simp only [apply_ite ('@' ∈ ·), List.mem_cons, List.not_mem_nil] at h
  simp [hc, Ne.symm hc] at h

/-- Components show an `@` if there is one in them. -/
theorem at_mem_writeComponents (components : List (List Char)) :
    '@' ∈ writeComponents components ↔ ∃ component ∈ components, '@' ∈ component := by
  have hshown (component : List Char) :
      '@' ∈ component.flatMap escapeComponentChar ↔ '@' ∈ component := by
    rw [List.mem_flatMap]
    constructor
    · rintro ⟨c, hc, hat⟩
      exact eq_at_of_mem_escapeComponentChar hat ▸ hc
    · exact fun hat => ⟨'@', hat, by decide⟩
  induction components using writeComponents.induct with
  | case1 => simp [writeComponents]
  | case2 component => simp [writeComponents, hshown]
  | case3 component rest hrest ih => simp [writeComponents, hshown, ih]

/-- Whether a name's text is what its components are completed to in its realm: there is
no `@` among them, and no character of the realm is escaped. -/
structure CanOmitRealm (n : Name) : Prop where
  components : ∀ component ∈ n.components, '@' ∉ component.toList
  realm : ∀ c ∈ n.realm.toList, escapeRealmChar c = [c]

theorem at_mem_componentText (n : Name) :
    '@' ∈ n.componentText ↔ ∃ component ∈ n.components, '@' ∈ component.toList := by
  rw [componentText, at_mem_writeComponents]
  simp

theorem toList_text (n : Name) :
    n.text.toList = n.componentText ++ '@' :: n.realm.toList.flatMap escapeRealmChar := by
  simp [text]

/-- A character that is shown as itself is in the text of each realm that it is in. -/
theorem mem_text_of_mem_realm {n : Name} {c : Char} (hc : escapeRealmChar c = [c])
    (h : c ∈ n.realm.toList) : c ∈ n.text.toList := by
  have hshown : c ∈ n.realm.toList.flatMap escapeRealmChar :=
    List.mem_flatMap.mpr ⟨c, h, hc ▸ List.mem_singleton_self c⟩
  rw [toList_text]
  exact List.mem_append_right _ (List.mem_cons_of_mem _ hshown)

end Name

namespace Realm

variable {client : Name} {r : Realm} {n : Name} {pattern : String}

/-! ## Listings -/

/-- The names of a listing: the stored texts that the pattern fits, each of them once,
in the order of their bytes. -/
structure Lists (r : Realm) (pattern : String) (names : List String) : Prop where
  ascending : names.Pairwise fun a b => Text.bytes a < Text.bytes b
  mem_iff : ∀ text, text ∈ names ↔ text ∈ r.principalNames ∧ Text.Fits pattern.toList text.toList

theorem Lists.nodup {names : List String} (h : r.Lists pattern names) : names.Nodup := by
  refine h.ascending.imp fun {a b} hlt heq => ?_
  rw [heq] at hlt
  exact List.lt_irrefl _ hlt

/-- What is stored under texts of names is stored under texts of one line. -/
theorem KeyedByNames.newline_not_mem (h : r.KeyedByNames) {key : String}
    (hkey : key ∈ r.principalNames) : '\n' ∉ key.toList := by
  obtain ⟨name, -, rfl⟩ := h key hkey
  exact name.newline_not_mem_text

/-- The stored texts that a pattern matches are those that it fits. -/
theorem KeyedByNames.lists_filter (h : r.KeyedByNames) (pattern : String) :
    r.Lists pattern (r.principalNames.filter (Text.globMatches pattern)) where
  ascending := (r.principals.keys_ascending.imp Text.bytes_lt).filter _
  mem_iff text := by
    rw [List.mem_filter]
    exact and_congr_right fun hkey => Text.globMatches_iff_fits (h.newline_not_mem hkey)

theorem answer_list (hfaults : r.faults .list = []) (client : Name) (filter : String) :
    answerOf (((service client).serve (.list filter)).run r) =
      if r.compiles (r.fullFilter filter) then
        .ok (r.principalNames.filter (Text.globMatches (r.fullFilter filter)))
      else .error .failure := by
  rw [run_serveList hfaults]
  split <;> rfl

/-- **What a listing names.** A filter is completed with the name of the realm unless
there is an `@` in it. If it compiles then, the answer is the list of the stored texts
that it fits as a whole, in the order of their bytes and without duplicates. -/
theorem list_matches (h : Reached Event.IsNamed r) (hfaults : r.faults .list = [])
    (client : Name) (filter : String) :
    let full := if '@' ∈ filter.toList then filter else filter ++ "@" ++ r.name
    let answer := answerOf (((service client).serve (.list filter)).run r)
    (r.compiles full = false → answer = .error .failure) ∧
    (r.compiles full = true →
      ∃ names, answer = .ok names ∧ names.Nodup ∧ r.Lists full names) := by
  intro full answer
  have hanswer : answer = _ := answer_list hfaults client filter
  have hfull : r.fullFilter filter = full := rfl
  rw [hfull] at hanswer
  rw [hanswer]
  constructor
  · intro hrefused
    rw [hrefused]
    rfl
  · intro hcompiles
    have hlists : r.Lists full _ := h.keyedByNames.lists_filter full
    exact ⟨_, if_pos hcompiles, hlists.nodup, hlists⟩

/-- A realm with a name that has a line feed in it, which its text does not have. -/
theorem list_matches_of_line_feed :
    let r := Event.run (.addPrincipal "a\\nb" "secret") (Realm.new "R")
    let client : Name := ⟨["admin", "admin"], "R"⟩
    Reached Event.IsNamed r ∧ r.faults .list = [] ∧
      r.principals.get? (Name.text ⟨["a\nb"], "R"⟩) ≠ none ∧
      ∃ names, answerOf (((service client).serve (.list "a*b")).run r) = .ok names ∧
        r.Lists "a*b@R" names ∧ names = ["a\\nb@R"] := by
  intro r client
  have hr : Reached Event.IsNamed r := .after (.new "R") _ trivial
  obtain ⟨-, hlisted⟩ := list_matches hr rfl client "a*b"
  obtain ⟨names, hanswer, -, hlists⟩ := hlisted rfl
  have hrun : answerOf (((service client).serve (.list "a*b")).run r) = .ok ["a\\nb@R"] := by
    decide +kernel
  have hnames : names = ["a\\nb@R"] := Except.ok.inj (hanswer.symm.trans hrun)
  exact ⟨hr, rfl, by decide +kernel, names, hanswer, hlists, hnames⟩

/-! ## Filters without a realm -/

/-- A stored text without wildcards is all that it matches. -/
theorem filter_of_isPlain {text : String} (hplain : Text.IsPlain text)
    (hstored : text ∈ r.principalNames) :
    r.principalNames.filter (Text.globMatches text) = [text] := by
  have hnodup : r.principalNames.Nodup := r.principals.keys_ascending.imp Std.ne_of_lt
  have hsame : r.principalNames.filter (Text.globMatches text) =
      r.principalNames.filter (· = text) :=
    List.filter_congr fun key _ => by
      rw [Bool.eq_iff_iff, Text.globMatches_of_isPlain hplain, decide_eq_true_iff]
  rw [hsame, List.filter_eq, List.count_eq_one_of_mem hnodup hstored]
  rfl

/-- Which names are completed to their own texts, in their realms. -/
theorem fullFilter_componentText (hrealm : n.realm = r.name) :
    r.fullFilter (String.ofList n.componentText) = n.text ↔ n.CanOmitRealm := by
  have hescaped : n.realm.toList.flatMap Name.escapeRealmChar = n.realm.toList ↔
      ∀ c ∈ n.realm.toList, Name.escapeRealmChar c = [c] :=
    Name.isCode_escapeRealmChar.flatMap_eq_self_iff
  rw [fullFilter, String.toList_ofList, ← String.toList_inj, Name.toList_text]
  split
  · next hat =>
    -- the filter is left as it is, and so it is shorter than the text
    refine iff_of_false (fun heq => ?_) fun h => ?_
    · have hlength := congrArg List.length heq
      rw [String.toList_ofList, List.length_append, List.length_cons] at hlength
      omega
    · obtain ⟨component, hcomponent, hat⟩ := n.at_mem_componentText.mp hat
      exact h.components component hcomponent hat
  · next hat =>
    have hcomponents : ∀ component ∈ n.components, '@' ∉ component.toList :=
      fun component hcomponent h => hat (n.at_mem_componentText.mpr ⟨component, hcomponent, h⟩)
    have hshown : (String.ofList n.componentText ++ "@" ++ r.name).toList =
        n.componentText ++ '@' :: n.realm.toList := by
      simp [hrealm]
    rw [hshown, List.append_cancel_left_eq, List.cons_inj_right, eq_comm, hescaped]
    exact ⟨fun h => ⟨hcomponents, h⟩, fun h => h.realm⟩

/-- Without wildcards in the text of a name there are none in the filter that its
components are completed to. -/
theorem isPlain_fullFilter (hrealm : n.realm = r.name) (hplain : Text.IsPlain n.text) :
    Text.IsPlain (r.fullFilter (String.ofList n.componentText)) := by
  have habsent {c : Char} (hc : Name.escapeRealmChar c = [c]) (hat : c ≠ '@')
      (h : c ∉ n.text.toList) :
      c ∉ (r.fullFilter (String.ofList n.componentText)).toList := by
    have hcomponents : c ∉ n.componentText := fun hmem =>
      h (n.toList_text ▸ List.mem_append_left _ hmem)
    have hname : c ∉ r.name.toList := fun hmem => h (Name.mem_text_of_mem_realm hc (hrealm ▸ hmem))
    unfold fullFilter
    split <;> simp [hcomponents, hname, hat]
  exact ⟨habsent rfl (by decide) hplain.1, habsent rfl (by decide) hplain.2⟩

/-- **A name without its realm.** The whole text of a stored name, without wildcards,
finds the name and nothing else. Its components do so too, if the realm can be left out;
otherwise they do not find the name. -/
theorem list_without_realm (hfaults : r.faults .list = []) (hrealm : n.realm = r.name)
    (hstored : n.text ∈ r.principalNames) (hplain : Text.IsPlain n.text)
    (hwhole : r.compiles n.text = true)
    (hpart : r.compiles (r.fullFilter (String.ofList n.componentText)) = true) (client : Name) :
    let answer (filter : String) : Except Status (List String) :=
      answerOf (((service client).serve (.list filter)).run r)
    answer n.text = .ok [n.text] ∧
    (n.CanOmitRealm → answer (String.ofList n.componentText) = .ok [n.text]) ∧
    (¬ n.CanOmitRealm →
      ∃ names, answer (String.ofList n.componentText) = .ok names ∧ n.text ∉ names) := by
  intro answer
  have hlisted (filter : String) (hcompiles : r.compiles (r.fullFilter filter) = true) :
      answer filter = .ok (r.principalNames.filter (Text.globMatches (r.fullFilter filter))) :=
    (answer_list hfaults client filter).trans (if_pos hcompiles)
  have hpartial := hlisted _ hpart
  refine ⟨?_, fun h => ?_, fun h => ⟨_, hpartial, fun hmem => ?_⟩⟩
  · rw [hlisted n.text (by rwa [fullFilter_text]), fullFilter_text,
      filter_of_isPlain hplain hstored]
  · rw [hpartial, (fullFilter_componentText hrealm).mpr h, filter_of_isPlain hplain hstored]
  · have hmatch := (List.mem_filter.mp hmem).2
    have hfull := (Text.globMatches_of_isPlain (isPlain_fullFilter hrealm hplain)).mp hmatch
    exact h ((fullFilter_componentText hrealm).mp hfull.symm)

/-- The first client of a realm, by its components. -/
theorem list_without_realm_of_first_client :
    let n : Name := ⟨["admin", "admin"], "R"⟩
    let r := Realm.new "R"
    let answer (filter : String) : Except Status (List String) :=
      answerOf (((service n).serve (.list filter)).run r)
    r.faults .list = [] ∧ n.realm = r.name ∧ n.text ∈ r.principalNames ∧ Text.IsPlain n.text ∧
      r.compiles n.text = true ∧
      r.compiles (r.fullFilter (String.ofList n.componentText)) = true ∧ n.CanOmitRealm ∧
      String.ofList n.componentText = "admin/admin" ∧ answer "admin/admin" = .ok [n.text] := by
  intro n r answer
  have hstored : n.text ∈ r.principalNames := by decide +kernel
  have hplain : Text.IsPlain n.text := by decide
  have hcomponents : String.ofList n.componentText = "admin/admin" := by decide
  have hrealm : n.realm.toList = ['R'] := by decide
  have hopen : n.CanOmitRealm := by
    refine ⟨by decide, fun c hc => ?_⟩
    rw [hrealm, List.mem_singleton] at hc
    rw [hc]
    rfl
  obtain ⟨-, hfound, -⟩ := list_without_realm (r := r) (n := n) rfl rfl hstored hplain rfl rfl n
  have hanswer : answer (String.ofList n.componentText) = .ok [n.text] := hfound hopen
  rw [hcomponents] at hanswer
  exact ⟨rfl, rfl, hstored, hplain, rfl, rfl, hopen, hcomponents, hanswer⟩

/-- A realm that stores one name. -/
def holding (n : Name) : Realm :=
  { name := "R", principals := TextMap.empty.insert n.text ⟨.named n, [1]⟩ }

theorem mem_principalNames_holding (n : Name) : n.text ∈ (holding n).principalNames :=
  TextMap.mem_keys.mpr (TextMap.contains_of_get? (TextMap.get?_insert_self ..))

/-- A name with an `@` in its one component is not found by it. -/
theorem list_without_realm_missed :
    let client : Name := ⟨["admin", "admin"], "R"⟩
    let marked : Name := ⟨["a@b"], "R"⟩
    let answer (filter : String) : Except Status (List String) :=
      answerOf (((service client).serve (.list filter)).run (holding marked))
    marked.text ∈ (holding marked).principalNames ∧ Text.IsPlain marked.text ∧
      answer marked.text = .ok [marked.text] ∧
      answer (String.ofList marked.componentText) = .ok [] := by
  intro client marked answer
  have hplain : Text.IsPlain marked.text := by decide
  exact ⟨mem_principalNames_holding marked, hplain, by decide +kernel, by decide +kernel⟩

end Realm

end RealmAdmin
