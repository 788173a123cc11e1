/-
RealmAdmin.TextMap — finite maps from texts to values, in order of key.

The entries stand in strictly ascending order of their keys (the order of
code points), so a key occurs once and the listing order is part of the
type. `get?` is the view that the other operations are described by:

* `get?_insert`, `get?_erase` — what the two updates do to the view,
* `mem_keys` — the listed keys are the ones with a value,
* `ext_get?` — two maps with the same view are the same map.
-/

namespace RealmAdmin

/-- A finite map from texts to values, its entries in ascending order. -/
structure TextMap (α : Type) where
  entries : List (String × α)
  ascending : entries.Pairwise fun a b => a.1 < b.1

namespace TextMap

variable {α : Type}

/-! ## Lists of entries in ascending order -/

/-- Put a value under a key, in the place its order demands. -/
def insertEntry (key : String) (value : α) : List (String × α) → List (String × α)
  | [] => [(key, value)]
  | e :: rest =>
    if key = e.1 then (key, value) :: rest
    else if key < e.1 then (key, value) :: e :: rest
    else e :: insertEntry key value rest

/-- The entries under other keys. -/
def eraseEntry (key : String) (entries : List (String × α)) : List (String × α) :=
  entries.filter (·.1 != key)

/-- The first value under a key. -/
def lookupEntry (key : String) : List (String × α) → Option α
  | [] => none
  | e :: rest => if e.1 = key then some e.2 else lookupEntry key rest

theorem mem_insertEntry {key : String} {value : α} {x : String × α} :
    ∀ {entries : List (String × α)}, x ∈ insertEntry key value entries →
      x = (key, value) ∨ x ∈ entries
  | [], h => by simpa [insertEntry] using h
  | e :: rest, h => by
    unfold insertEntry at h
    split at h
    · rcases List.mem_cons.mp h with h | h
      · exact .inl h
      · exact .inr (List.mem_cons_of_mem _ h)
    · split at h
      · exact List.mem_cons.mp h
      · rcases List.mem_cons.mp h with h | h
        · exact .inr (h ▸ List.mem_cons_self)
        · exact (mem_insertEntry h).imp_right (List.mem_cons_of_mem _)

theorem insertEntry_ascending (key : String) (value : α) :
    ∀ {entries : List (String × α)}, entries.Pairwise (fun a b => a.1 < b.1) →
      (insertEntry key value entries).Pairwise fun a b => a.1 < b.1
  | [], _ => List.pairwise_singleton _ _
  | e :: rest, h => by
    have ⟨hhead, hrest⟩ := List.pairwise_cons.mp h
    unfold insertEntry
    split
    · next heq => exact List.pairwise_cons.mpr ⟨fun x hx => heq ▸ hhead x hx, hrest⟩
    · next hne =>
      split
      · next hlt =>
        refine List.pairwise_cons.mpr ⟨fun x hx => ?_, h⟩
        rcases List.mem_cons.mp hx with rfl | hx
        · exact hlt
        · exact Std.lt_trans hlt (hhead x hx)
      · next hnlt =>
        refine List.pairwise_cons.mpr ⟨fun x hx => ?_, insertEntry_ascending key value hrest⟩
        rcases mem_insertEntry hx with rfl | hx
        · rcases Std.lt_trichotomy key e.1 with hlt | heq | hgt
          · exact absurd hlt hnlt
          · exact absurd heq hne
          · exact hgt
        · exact hhead x hx

theorem lookupEntry_insertEntry (key other : String) (value : α) :
    ∀ entries : List (String × α), lookupEntry other (insertEntry key value entries) =
      if other = key then some value else lookupEntry other entries
  | [] => by
    by_cases h : other = key
    · simp [insertEntry, lookupEntry, h]
    · simp [insertEntry, lookupEntry, h, Ne.symm h]
  | e :: rest => by
    have ih := lookupEntry_insertEntry key other value rest
    unfold insertEntry
    split
    · next heq =>
      by_cases h : other = key
      · simp [lookupEntry, h]
      · have he : e.1 ≠ other := heq ▸ Ne.symm h
        simp [lookupEntry, h, Ne.symm h, he]
    · split
      · by_cases h : other = key
        · simp [lookupEntry, h]
        · simp [lookupEntry, h, Ne.symm h]
      · next hne _ =>
        rw [lookupEntry, ih, lookupEntry]
        by_cases h : e.1 = other
        · subst h; simp [Ne.symm hne]
        · simp [h]

theorem lookupEntry_eraseEntry (key other : String) :
    ∀ entries : List (String × α), lookupEntry other (eraseEntry key entries) =
      if other = key then none else lookupEntry other entries
  | [] => by simp [eraseEntry, lookupEntry]
  | e :: rest => by
    have ih := lookupEntry_eraseEntry key other rest
    unfold eraseEntry at ih ⊢
    rw [List.filter_cons]
    by_cases he : e.1 = key
    · by_cases h : other = key
      · simp [he, h] at ih ⊢; exact ih
      · have : ¬ key = other := fun hk => h hk.symm
        simp [he, h, lookupEntry, this] at ih ⊢; exact ih
    · by_cases h : e.1 = other
      · subst h; simp [he, lookupEntry]
      · simp [he, lookupEntry, h, ih]

theorem lookupEntry_isSome {key : String} :
    ∀ {entries : List (String × α)}, (lookupEntry key entries).isSome ↔
      key ∈ entries.map (·.1)
  | [] => by simp [lookupEntry]
  | e :: rest => by
    by_cases h : e.1 = key
    · simp [lookupEntry, h]
    · have h' : ¬ key = e.1 := fun hk => h hk.symm
      simp only [lookupEntry, h, if_false, List.map_cons, List.mem_cons, h', false_or]
      exact lookupEntry_isSome

theorem lookupEntry_eq_some_iff {key : String} {value : α} :
    ∀ {entries : List (String × α)}, entries.Pairwise (fun a b => a.1 < b.1) →
      (lookupEntry key entries = some value ↔ (key, value) ∈ entries)
  | [], _ => by simp [lookupEntry]
  | e :: rest, h => by
    have ⟨hhead, hrest⟩ := List.pairwise_cons.mp h
    by_cases hk : e.1 = key
    · subst hk
      simp only [lookupEntry, if_true, Option.some.injEq, List.mem_cons]
      constructor
      · intro hv; exact .inl (by rw [← hv])
      · rintro (he | hmem)
        · rw [← he]
        · exact absurd (hhead _ hmem) (Std.lt_irrefl)
    · simp only [lookupEntry, hk, if_false, List.mem_cons, lookupEntry_eq_some_iff hrest]
      constructor
      · exact .inr
      · rintro (he | hmem)
        · exact absurd (by rw [← he]) hk
        · exact hmem

/-! ## Maps -/

/-- The map without entries. -/
def empty : TextMap α := ⟨[], List.Pairwise.nil⟩

instance : EmptyCollection (TextMap α) := ⟨empty⟩

/-- The value under a key. -/
def get? (m : TextMap α) (key : String) : Option α := lookupEntry key m.entries

/-- Whether there is a value under the key. -/
def contains (m : TextMap α) (key : String) : Bool := (m.get? key).isSome

/-- The map with a value put under a key, in place of any value there. -/
def insert (m : TextMap α) (key : String) (value : α) : TextMap α :=
  ⟨insertEntry key value m.entries, insertEntry_ascending key value m.ascending⟩

/-- The map with nothing under the key. -/
def erase (m : TextMap α) (key : String) : TextMap α :=
  ⟨eraseEntry key m.entries, m.ascending.filter _⟩

/-- The keys that have a value, in ascending order. -/
def keys (m : TextMap α) : List String := m.entries.map (·.1)

/-- The map that holds the given pairs; a later pair replaces an earlier one
under the same key. -/
def ofList (pairs : List (String × α)) : TextMap α :=
  pairs.foldl (fun m p => m.insert p.1 p.2) empty

@[simp] theorem get?_empty (key : String) : (empty : TextMap α).get? key = none := rfl

theorem get?_insert (m : TextMap α) (key other : String) (value : α) :
    (m.insert key value).get? other = if other = key then some value else m.get? other :=
  lookupEntry_insertEntry key other value m.entries

@[simp] theorem get?_insert_self (m : TextMap α) (key : String) (value : α) :
    (m.insert key value).get? key = some value := by
  simp [get?_insert]

theorem get?_erase (m : TextMap α) (key other : String) :
    (m.erase key).get? other = if other = key then none else m.get? other :=
  lookupEntry_eraseEntry key other m.entries

theorem contains_of_get? {m : TextMap α} {key : String} {value : α}
    (h : m.get? key = some value) : m.contains key = true := by
  rw [contains, h]
  rfl

theorem mem_keys {m : TextMap α} {key : String} :
    key ∈ m.keys ↔ (m.get? key).isSome :=
  lookupEntry_isSome.symm

/-- The keys are listed in ascending order, each once. -/
theorem keys_ascending (m : TextMap α) : m.keys.Pairwise (· < ·) :=
  List.pairwise_map.mpr m.ascending

theorem get?_eq_some_iff {m : TextMap α} {key : String} {value : α} :
    m.get? key = some value ↔ (key, value) ∈ m.entries :=
  lookupEntry_eq_some_iff m.ascending

/-- Two lists of entries in ascending order with the same members are equal. -/
theorem eq_of_ascending : ∀ {as bs : List (String × α)},
    as.Pairwise (fun a b => a.1 < b.1) → bs.Pairwise (fun a b => a.1 < b.1) →
      (∀ x, x ∈ as ↔ x ∈ bs) → as = bs
  | [], [], _, _, _ => rfl
  | [], b :: bs, _, _, h => absurd ((h b).mpr List.mem_cons_self) (by simp)
  | a :: as, [], _, _, h => absurd ((h a).mp List.mem_cons_self) (by simp)
  | a :: as, b :: bs, ha, hb, h => by
    have ⟨ha1, ha2⟩ := List.pairwise_cons.mp ha
    have ⟨hb1, hb2⟩ := List.pairwise_cons.mp hb
    have hab : a = b := by
      rcases List.mem_cons.mp ((h a).mp List.mem_cons_self) with hab | hab
      · exact hab
      · rcases List.mem_cons.mp ((h b).mpr List.mem_cons_self) with hba | hba
        · exact hba.symm
        · exact absurd (Std.lt_trans (hb1 a hab) (ha1 b hba)) Std.lt_irrefl
    subst hab
    congr 1
    refine eq_of_ascending ha2 hb2 fun x => ⟨fun hx => ?_, fun hx => ?_⟩
    · rcases List.mem_cons.mp ((h x).mp (List.mem_cons_of_mem _ hx)) with rfl | hx'
      · exact absurd (ha1 x hx) Std.lt_irrefl
      · exact hx'
    · rcases List.mem_cons.mp ((h x).mpr (List.mem_cons_of_mem _ hx)) with rfl | hx'
      · exact absurd (hb1 x hx) Std.lt_irrefl
      · exact hx'

/-- Maps with the same view are the same map. -/
theorem ext_get? {m n : TextMap α} (h : ∀ key, m.get? key = n.get? key) : m = n := by
  obtain ⟨as, ha⟩ := m
  obtain ⟨bs, hb⟩ := n
  have : as = bs := eq_of_ascending ha hb fun x => by
    rw [← lookupEntry_eq_some_iff ha, ← lookupEntry_eq_some_iff hb,
      show lookupEntry x.1 as = lookupEntry x.1 bs from h x.1]
  subst this
  rfl

/-- Of two values put under one key the later one stays. -/
theorem insert_insert (m : TextMap α) (key : String) (value value' : α) :
    (m.insert key value).insert key value' = m.insert key value' :=
  ext_get? fun other => by
    rw [get?_insert, get?_insert, get?_insert]
    split <;> rfl

end TextMap

end RealmAdmin
