import TaggedGrammar.Proofs.Value.Display

/-!
# Mappings in values

What writing entries one after the other does to a mapping, and the mappings that a value holds. A key can be looked
up only if nothing in it can change, so no key holds a mapping.
-/

namespace TaggedGrammar.Value

/-- No two keys are the same. -/
def DifferentKeys (entries : List (Value × Value)) : Prop :=
  (entries.map Prod.fst).Pairwise fun a b => ¬same a b

/-- The keys after an entry was written: one more, or the same as before. -/
lemma keys_put (key value : Value) (entries : List (Value × Value)) :
    ((∀ k ∈ entries.map Prod.fst, ¬same k key) ∧
        (put key value entries).map Prod.fst = entries.map Prod.fst ++ [key]) ∨
      (put key value entries).map Prod.fst = entries.map Prod.fst := by
  induction entries with
  | nil => simp [put]
  | cons e rest ih =>
    obtain ⟨k, v⟩ := e
    by_cases hk : same k key
    · right
      simp [put, hk]
    · refine ih.imp ?_ ?_
      · rintro ⟨hnew, hkeys⟩
        refine ⟨List.forall_mem_cons.2 ⟨hk, hnew⟩, ?_⟩
        simp [put, hk, hkeys]
      · intro hkeys
        simp [put, hk, hkeys]

/-- A value put under a key leaves the keys different. -/
lemma DifferentKeys.put {entries} (h : DifferentKeys entries) (key value : Value) :
    DifferentKeys (put key value entries) := by
  unfold DifferentKeys
  rcases keys_put key value entries with ⟨hnew, hkeys⟩ | hkeys
  · rw [hkeys, List.pairwise_append]
    refine ⟨h, List.pairwise_singleton _ _, fun k hk k' hk' => ?_⟩
    rw [List.mem_singleton.1 hk']
    exact hnew k hk
  · rw [hkeys]
    exact h

/-- What holds of a new entry and of all others holds of all entries after it was written. -/
lemma forall_mem_put {P Q : Value → Prop} {key value : Value} {entries : List (Value × Value)} (hk : P key)
    (hv : Q value) (h : ∀ e ∈ entries, P e.1 ∧ Q e.2) : ∀ e ∈ put key value entries, P e.1 ∧ Q e.2 := by
  induction entries with
  | nil => simpa [put] using ⟨hk, hv⟩
  | cons e rest ih =>
    obtain ⟨k, v⟩ := e
    obtain ⟨first, others⟩ := List.forall_mem_cons.1 h
    unfold put
    split
    · exact List.forall_mem_cons.2 ⟨⟨first.1, hv⟩, others⟩
    · exact List.forall_mem_cons.2 ⟨first, ih others⟩

/-- Entries that are written one after the other have different keys. -/
lemma ofEntries_spec {P Q : Value → Prop} {entries : List (Value × Value)}
    (h : ∀ e ∈ entries, P e.1 ∧ Q e.2) :
    DifferentKeys (ofEntries entries) ∧ ∀ e ∈ ofEntries entries, P e.1 ∧ Q e.2 := by
  have written (rest : List (Value × Value)) (hrest : ∀ e ∈ rest, P e.1 ∧ Q e.2) :
      ∀ done, DifferentKeys done → (∀ e ∈ done, P e.1 ∧ Q e.2) →
        DifferentKeys (rest.foldl (fun m e => put e.1 e.2 m) done) ∧
          ∀ e ∈ rest.foldl (fun m e => put e.1 e.2 m) done, P e.1 ∧ Q e.2 := by
    induction rest with
    | nil => exact fun done hd hp => ⟨hd, hp⟩
    | cons e rest ih =>
      intro done hd hp
      obtain ⟨first, others⟩ := List.forall_mem_cons.1 hrest
      exact ih others _ (hd.put _ _) (forall_mem_put first.1 first.2 hp)
  exact written entries h [] List.Pairwise.nil (by simp)

/-- A key that is new is written at the end. -/
lemma put_of_new {key value : Value} {entries : List (Value × Value)} (h : ∀ k ∈ entries.map Prod.fst, ¬same k key) :
    put key value entries = entries ++ [(key, value)] := by
  induction entries with
  | nil => rfl
  | cons e rest ih =>
    obtain ⟨first, others⟩ := List.forall_mem_cons.1 h
    rw [put, if_neg first, ih others, List.cons_append]

/-- A mapping that is written entry by entry is the same mapping again. -/
lemma ofEntries_of_differentKeys {entries : List (Value × Value)} (h : DifferentKeys entries) :
    ofEntries entries = entries := by
  have written (rest : List (Value × Value)) : ∀ done, DifferentKeys (done ++ rest) →
      rest.foldl (fun m e => put e.1 e.2 m) done = done ++ rest := by
    induction rest with
    | nil =>
      intro done _
      exact (List.append_nil done).symm
    | cons e rest ih =>
      intro done hd
      have new : ∀ k ∈ done.map Prod.fst, ¬same k e.1 := by
        intro k hk
        rw [DifferentKeys, List.map_append] at hd
        exact (List.pairwise_append.1 hd).2.2 k hk e.1 List.mem_cons_self
      rw [List.foldl_cons, put_of_new new, ih _ (by simpa using hd), List.append_assoc]
      rfl
  exact written entries [] h

section Held

mutual

/-- The mappings in a value, at any depth. -/
def mappings : Value → List (List (Value × Value))
  | map entries | ordered entries => entries :: entryMappings entries
  | list items | tuple items | set items => itemMappings items
  | record _ fields => fieldMappings fields
  | _ => []

def itemMappings : List Value → List (List (Value × Value))
  | [] => []
  | v :: rest => mappings v ++ itemMappings rest

def entryMappings : List (Value × Value) → List (List (Value × Value))
  | [] => []
  | (k, v) :: rest => mappings k ++ (mappings v ++ entryMappings rest)

def fieldMappings : List (String × Value) → List (List (Value × Value))
  | [] => []
  | (_, v) :: rest => mappings v ++ fieldMappings rest

end

/-- No key of a mapping in the value holds a mapping itself. -/
def PlainKeys (v : Value) : Prop :=
  ∀ entries ∈ v.mappings, ∀ e ∈ entries, e.1.mappings = []

instance (v : Value) : Decidable v.PlainKeys :=
  inferInstanceAs (Decidable (∀ entries ∈ v.mappings, ∀ e ∈ entries, e.1.mappings = []))

/-- Keys are plain in part of what has plain keys. -/
lemma PlainKeys.mono {v w : Value} (h : v.PlainKeys) (hmappings : w.mappings ⊆ v.mappings) : w.PlainKeys :=
  fun entries hentries => h entries (hmappings hentries)

/-- The mappings in several values are those in each of them. -/
lemma mem_itemMappings {items : List Value} {entries : List (Value × Value)} :
    entries ∈ itemMappings items ↔ ∃ v ∈ items, entries ∈ v.mappings := by
  induction items with
  | nil => simp [itemMappings]
  | cons v rest ih => simp [itemMappings, ih]

/-- The mappings in entries are those in their keys and values. -/
lemma mem_entryMappings {es entries : List (Value × Value)} :
    entries ∈ entryMappings es ↔ ∃ e ∈ es, entries ∈ e.1.mappings ∨ entries ∈ e.2.mappings := by
  induction es with
  | nil => simp [entryMappings]
  | cons e rest ih => simp only [entryMappings, List.mem_append, ih, List.mem_cons, exists_eq_or_imp, or_assoc]

/-- A value whose mappings can be looked up: no two keys are the same, and none can change. -/
def ProperKeys (v : Value) : Prop :=
  ∀ entries ∈ v.mappings, DifferentKeys entries ∧ ∀ e ∈ entries, e.1.canBeKey

/-- Several values hold no mapping if none of them does. -/
lemma itemMappings_eq_nil {items : List Value} : itemMappings items = [] ↔ ∀ v ∈ items, v.mappings = [] := by
  induction items with
  | nil => simp [itemMappings]
  | cons v rest ih => simp [itemMappings, ih]

mutual

/-- What can be a key holds no mapping. -/
lemma mappings_of_canBeKey : (v : Value) → v.canBeKey → v.mappings = []
  | null, _ | bool _, _ | int _, _ | float _, _ | str _, _ | day _, _ | instant _, _ | bytes _, _ => rfl
  | tuple items, h => by
    rw [canBeKey] at h
    rw [mappings]
    exact itemMappings_of_canBeKeys items h

/-- Neither do several values that can be keys. -/
lemma itemMappings_of_canBeKeys : (items : List Value) → canBeKeys items → itemMappings items = []
  | [], _ => rfl
  | v :: rest, h => by
    rw [canBeKeys, Bool.and_eq_true] at h
    rw [itemMappings, mappings_of_canBeKey v h.1, itemMappings_of_canBeKeys rest h.2, List.nil_append]

end

/-- Several values can be keys if each of them can. -/
lemma canBeKeys_iff {items : List Value} : canBeKeys items ↔ ∀ v ∈ items, v.canBeKey := by
  induction items with
  | nil => simp [canBeKeys]
  | cons v rest ih => simp [canBeKeys, ih]

/-- Keys that can be keys are plain. -/
lemma ProperKeys.plainKeys {v : Value} (h : v.ProperKeys) : v.PlainKeys := by
  intro entries hentries e he
  exact mappings_of_canBeKey e.1 ((h entries hentries).2 e he)

end Held

end TaggedGrammar.Value
