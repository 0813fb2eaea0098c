import TensorGraph.SortedMap.Basic

/-!
# What a sorted map holds after each operation

`get?` is the view of a sorted map. Each operation has one equation for it, and two maps that agree
on it are equal.
-/

namespace TensorGraph.SortedMap

variable {κ α : Type}

/-- A list without repeats is one of its members and a list of all others, up to their order. -/
theorem perm_cons_of_mem_iff {l l' : List α} {a : α} (hl : l.Nodup) (hl' : l'.Nodup) (ha : a ∈ l)
    (h : ∀ x, x ∈ l' ↔ x ∈ l ∧ x ≠ a) : l.Perm (a :: l') := by
  have hnot : a ∉ l' := fun hmem => ((h a).1 hmem).2 rfl
  refine (List.perm_ext_iff_of_nodup hl (List.nodup_cons.2 ⟨hnot, hl'⟩)).2 fun x => ?_
  rw [List.mem_cons, h]
  by_cases hx : x = a
  · subst hx
    exact iff_of_true ha (.inl rfl)
  · rw [or_iff_right hx, and_iff_left hx]

/-! ## The order of the entries -/

/-- The keys strictly increase. -/
theorem keys_sorted [Key κ] (m : SortedMap κ α) : m.keys.Pairwise (· < ·) :=
  List.pairwise_map.2 m.sorted

/-- The keys that hold a value, in order. -/
def keysOf [Key κ] [DecidableEq α] (m : SortedMap κ α) (a : α) : List κ :=
  (m.toList.filter (fun e => decide (e.2 = a))).map (·.1)

/-- The keys that hold a value strictly increase. -/
theorem keysOf_sorted [Key κ] [DecidableEq α] (m : SortedMap κ α) (a : α) :
    (m.keysOf a).Pairwise (· < ·) :=
  List.pairwise_map.2 (m.sorted.filter _)

/-- No entry is listed twice. -/
theorem nodup_toList [Key κ] (m : SortedMap κ α) : m.toList.Nodup :=
  m.sorted.imp fun hlt heq => Key.ne_of_lt hlt (congrArg Prod.fst heq)

/-- A map without values is empty. -/
theorem eq_empty_of_values [Key κ] {m : SortedMap κ α} (h : m.values = []) : m = ∅ :=
  SortedMap.ext (List.map_eq_nil_iff.1 h)

/-- Applying a function to the values leaves the keys alone. -/
@[simp]
theorem keys_map [Key κ] {β : Type} (f : α → β) (m : SortedMap κ α) : (m.map f).keys = m.keys := by
  simp [keys, map, Function.comp_def]

/-- Entry lists with strictly increasing keys and the same members are the same list. -/
theorem eq_of_mem_iff [Key κ] {l l' : List (κ × α)} (hl : l.Pairwise (fun x y => x.1 < y.1))
    (hl' : l'.Pairwise (fun x y => x.1 < y.1)) (h : ∀ e, e ∈ l ↔ e ∈ l') : l = l' := by
  induction l generalizing l' with
  | nil =>
    cases l' with
    | nil => rfl
    | cons e rest => exact absurd ((h e).2 List.mem_cons_self) (by simp)
  | cons e rest ih =>
    cases l' with
    | nil => exact absurd ((h e).1 List.mem_cons_self) (by simp)
    | cons e' rest' =>
      obtain ⟨he, hrest⟩ := List.pairwise_cons.1 hl
      obtain ⟨he', hrest'⟩ := List.pairwise_cons.1 hl'
      -- Each head is in the other list, so neither can precede the other.
      have hhead : e = e' := by
        rcases List.mem_cons.1 ((h e).1 List.mem_cons_self) with heq | hmem
        · exact heq
        rcases List.mem_cons.1 ((h e').2 List.mem_cons_self) with heq | hmem'
        · exact heq.symm
        · exact absurd (he _ hmem') (Key.asymm (he' _ hmem))
      subst hhead
      refine congrArg (e :: ·) (ih hrest hrest' fun x => ⟨fun hx => ?_, fun hx => ?_⟩)
      · refine (List.mem_cons.1 ((h x).1 (List.mem_cons_of_mem _ hx))).resolve_left fun hxe => ?_
        exact Key.irrefl x.1 (hxe ▸ he x hx)
      · refine (List.mem_cons.1 ((h x).2 (List.mem_cons_of_mem _ hx))).resolve_left fun hxe => ?_
        exact Key.irrefl x.1 (hxe ▸ he' x hx)

/-! ## Entry lists -/

variable [DecidableEq κ]

/-- A key that no entry has is not found. -/
theorem lookup_eq_none {k : κ} {l : List (κ × α)} (h : ∀ e ∈ l, e.1 ≠ k) : lookup k l = none := by
  induction l with
  | nil => rfl
  | cons head rest ih =>
    have hne : k ≠ head.1 := fun e => h head List.mem_cons_self e.symm
    simp only [lookup, if_neg hne]
    exact ih fun e he => h e (List.mem_cons_of_mem _ he)

/-- What is found for a key is an entry of the list. -/
theorem mem_of_lookup {k : κ} {a : α} {l : List (κ × α)} (h : lookup k l = some a) :
    (k, a) ∈ l := by
  induction l with
  | nil => simp [lookup] at h
  | cons head rest ih =>
    simp only [lookup] at h
    split at h
    · next e =>
      cases h
      exact e ▸ List.mem_cons_self
    · exact List.mem_cons_of_mem _ (ih h)

/-- Where no two entries have one key, every entry is found under its key. -/
theorem lookup_of_mem {k : κ} {a : α} {l : List (κ × α)} (hl : l.Pairwise (fun x y => x.1 ≠ y.1))
    (h : (k, a) ∈ l) : lookup k l = some a := by
  induction l with
  | nil => cases h
  | cons head rest ih =>
    obtain ⟨hhead, hrest⟩ := List.pairwise_cons.1 hl
    simp only [lookup]
    rcases List.mem_cons.1 h with rfl | h
    · simp
    · have hne : k ≠ head.1 := (hhead _ h).symm
      rw [if_neg hne]
      exact ih hrest h

variable [Key κ]

/-- An insertion changes what is found under its key alone. -/
theorem lookup_insertEntry (k k' : κ) (a : α) (l : List (κ × α)) :
    lookup k' (insertEntry k a l) = if k' = k then some a else lookup k' l := by
  induction l with
  | nil => rfl
  | cons head rest ih =>
    simp only [insertEntry]
    split
    · next e =>
      subst e
      simp only [lookup]
      split <;> rfl
    split
    · rfl
    · next hne _ =>
      simp only [lookup, ih]
      split
      · next e => rw [if_neg fun e' => hne (e'.symm.trans e)]
      · rfl

/-! ## Maps -/

/-- The entries of a map are its keys with what it holds under them. -/
theorem mem_toList {m : SortedMap κ α} {k : κ} {a : α} : (k, a) ∈ m.toList ↔ m.get? k = some a :=
  ⟨lookup_of_mem (m.sorted.imp Key.ne_of_lt), mem_of_lookup⟩

/-- The keys are those under which the map holds something. -/
theorem mem_keys {m : SortedMap κ α} {k : κ} : k ∈ m.keys ↔ ∃ a, m.get? k = some a := by
  simp only [keys, List.mem_map]
  constructor
  · rintro ⟨⟨k', a⟩, he, rfl⟩
    exact ⟨a, mem_toList.1 he⟩
  · rintro ⟨a, ha⟩
    exact ⟨(k, a), mem_toList.2 ha, rfl⟩

/-- The values are what the map holds under some key. -/
theorem mem_values {m : SortedMap κ α} {a : α} : a ∈ m.values ↔ ∃ k, m.get? k = some a := by
  simp only [values, List.mem_map]
  constructor
  · rintro ⟨⟨k, a'⟩, he, rfl⟩
    exact ⟨k, mem_toList.1 he⟩
  · rintro ⟨k, hk⟩
    exact ⟨(k, a), mem_toList.2 hk, rfl⟩

/-- What holds of everything that the map holds holds of its values. -/
theorem forall_mem_values {m : SortedMap κ α} {P : α → Prop} :
    (∀ a ∈ m.values, P a) ↔ ∀ k a, m.get? k = some a → P a :=
  ⟨fun h k a ha => h a (mem_values.2 ⟨k, ha⟩), fun h a ha => (mem_values.1 ha).elim fun k => h k a⟩

/-- Nothing is found in the empty map. -/
@[simp]
theorem get?_empty (k : κ) : (∅ : SortedMap κ α).get? k = none := rfl

/-- An insertion changes what the map holds under its key alone. -/
theorem get?_insert (m : SortedMap κ α) (k k' : κ) (a : α) :
    (m.insert k a).get? k' = if k' = k then some a else m.get? k' :=
  lookup_insertEntry k k' a m.toList

/-- What was inserted is found. -/
@[simp]
theorem get?_insert_self (m : SortedMap κ α) (k : κ) (a : α) :
    (m.insert k a).get? k = some a := by
  simp [get?_insert]

/-- An erasure changes what the map holds under its key alone. -/
theorem get?_erase (m : SortedMap κ α) (k k' : κ) :
    (m.erase k).get? k' = if k' = k then none else m.get? k' := by
  split
  · next e =>
    subst e
    refine lookup_eq_none fun e he => ?_
    simpa using (List.mem_filter.1 he).2
  · next hne =>
    cases h : m.get? k' with
    | some a => exact mem_toList.1 (List.mem_filter.2 ⟨mem_toList.2 h, by simpa using hne⟩)
    | none =>
      refine lookup_eq_none fun e he hk => ?_
      have hm : (k', e.2) ∈ m.toList := hk ▸ (List.mem_filter.1 he).1
      simp [mem_toList.1 hm] at h

/-- What was erased is not found. -/
@[simp]
theorem get?_erase_self (m : SortedMap κ α) (k : κ) : (m.erase k).get? k = none := by
  simp [get?_erase]

/-- Applying a function to the values applies it to what is found. -/
@[simp]
theorem get?_map {β : Type} (f : α → β) (m : SortedMap κ α) (k : κ) :
    (m.map f).get? k = (m.get? k).map f := by
  have h : ∀ l : List (κ × α), lookup k (l.map fun e => (e.1, f e.2)) = (lookup k l).map f := by
    intro l
    induction l with
    | nil => rfl
    | cons head rest ih =>
      simp only [List.map_cons, lookup, ih]
      split <;> rfl
  exact h m.toList

/-- Maps that hold the same under every key are equal. -/
theorem ext_get? {m n : SortedMap κ α} (h : ∀ k, m.get? k = n.get? k) : m = n :=
  SortedMap.ext (eq_of_mem_iff m.sorted n.sorted fun ⟨k, a⟩ => by
    rw [mem_toList, mem_toList, h k])

/-! ## Maps of lists -/

/-- Entries that are put in one after the other are found where no two have one key. -/
theorem get?_foldl_insert {l : List (κ × α)} (hl : l.Pairwise (fun x y => x.1 ≠ y.1))
    (m : SortedMap κ α) (k : κ) :
    (l.foldl (fun m e => m.insert e.1 e.2) m).get? k = (lookup k l).or (m.get? k) := by
  induction l generalizing m with
  | nil => rfl
  | cons head rest ih =>
    obtain ⟨hhead, hrest⟩ := List.pairwise_cons.1 hl
    simp only [List.foldl_cons, ih hrest, get?_insert, lookup]
    split
    · next e =>
      -- No later entry has the key of the first one.
      have hnone : lookup k rest = none := lookup_eq_none fun x hx => (e ▸ hhead x hx).symm
      simp [hnone]
    · rfl

/-- What the map of a list holds is an entry of the list. -/
theorem mem_of_get?_foldl_insert {l : List (κ × α)} {m : SortedMap κ α} {k : κ} {a : α}
    (h : (l.foldl (fun m e => m.insert e.1 e.2) m).get? k = some a) :
    (k, a) ∈ l ∨ m.get? k = some a := by
  induction l generalizing m with
  | nil => exact Or.inr h
  | cons head rest ih =>
    rcases ih h with hmem | hhead
    · exact Or.inl (List.mem_cons_of_mem _ hmem)
    · rw [get?_insert] at hhead
      split at hhead
      · next e =>
        cases hhead
        exact Or.inl (e ▸ List.mem_cons_self)
      · exact Or.inr hhead

/-- What the map of a list holds is an entry of the list. -/
theorem mem_of_get?_ofList {l : List (κ × α)} {k : κ} {a : α} (h : (ofList l).get? k = some a) :
    (k, a) ∈ l :=
  (mem_of_get?_foldl_insert h).resolve_right (by simp)

/-- Where no two entries of a list have one key, its map holds exactly these entries. -/
theorem get?_ofList_eq_some {l : List (κ × α)} (hl : l.Pairwise (fun x y => x.1 ≠ y.1)) {k : κ}
    {a : α} : (ofList l).get? k = some a ↔ (k, a) ∈ l := by
  rw [ofList, get?_foldl_insert hl, get?_empty, Option.or_none]
  exact ⟨mem_of_lookup, lookup_of_mem hl⟩

/-- A map is the map of its entries. -/
@[simp]
theorem ofList_toList (m : SortedMap κ α) : ofList m.toList = m := by
  refine ext_get? fun k => ?_
  rw [ofList, get?_foldl_insert (m.sorted.imp Key.ne_of_lt), get?_empty, Option.or_none, get?]

/-! ## Repeated changes -/

/-- Putting in what the map holds already changes nothing. -/
theorem insert_of_get? {m : SortedMap κ α} {k : κ} {a : α} (h : m.get? k = some a) :
    m.insert k a = m := by
  refine ext_get? fun k' => ?_
  rw [get?_insert]
  split
  · next e => rw [e, h]
  · rfl

/-- Dropping what the map does not hold changes nothing. -/
theorem erase_of_get? {m : SortedMap κ α} {k : κ} (h : m.get? k = none) : m.erase k = m := by
  refine ext_get? fun k' => ?_
  rw [get?_erase]
  split
  · next e => rw [e, h]
  · rfl

/-- Of two insertions under one key, the later one counts. -/
theorem insert_insert (m : SortedMap κ α) (k : κ) (a b : α) :
    (m.insert k a).insert k b = m.insert k b := by
  refine ext_get? fun k' => ?_
  simp only [get?_insert]
  split <;> rfl

/-- Insertions under different keys can be made in either order. -/
theorem insert_comm (m : SortedMap κ α) {k k' : κ} (h : k ≠ k') (a b : α) :
    (m.insert k a).insert k' b = (m.insert k' b).insert k a := by
  refine ext_get? fun x => ?_
  simp only [get?_insert]
  by_cases hx : x = k
  · subst hx
    rw [if_neg h, if_pos rfl, if_pos rfl]
  · rw [if_neg hx, if_neg hx]

/-- An insertion makes up for an erasure under its key. -/
theorem insert_erase (m : SortedMap κ α) (k : κ) (a : α) :
    (m.erase k).insert k a = m.insert k a := by
  refine ext_get? fun k' => ?_
  simp only [get?_insert, get?_erase]
  split <;> rfl

/-- An erasure makes up for an insertion under its key. -/
theorem erase_insert (m : SortedMap κ α) (k : κ) (a : α) : (m.insert k a).erase k = m.erase k := by
  refine ext_get? fun k' => ?_
  simp only [get?_insert, get?_erase]
  split <;> rfl

/-- A function is applied to what is inserted. -/
theorem map_insert {β : Type} (f : α → β) (m : SortedMap κ α) (k : κ) (a : α) :
    (m.insert k a).map f = (m.map f).insert k (f a) := by
  refine ext_get? fun k' => ?_
  simp only [get?_map, get?_insert]
  split <;> rfl

/-- A function is applied to what is left. -/
theorem map_erase {β : Type} (f : α → β) (m : SortedMap κ α) (k : κ) :
    (m.erase k).map f = (m.map f).erase k := by
  refine ext_get? fun k' => ?_
  simp only [get?_map, get?_erase]
  split <;> rfl

/-! ## Values with their multiplicity -/

/-- The values are one of them and those that are left when its key is gone, up to their order. -/
theorem values_perm {m : SortedMap κ α} {k : κ} {a : α} (h : m.get? k = some a) :
    m.values.Perm (a :: (m.erase k).values) := by
  have hentries : m.toList.Perm ((k, a) :: (m.erase k).toList) := by
    refine perm_cons_of_mem_iff m.nodup_toList (nodup_toList _) (mem_toList.2 h) fun e => ?_
    rw [mem_toList, mem_toList, get?_erase]
    by_cases hk : e.1 = k
    · simp [Prod.ext_iff, hk, h, eq_comm]
    · simp [Prod.ext_iff, hk]
  exact hentries.map Prod.snd

/-! ## Keys of a value -/

section

variable [DecidableEq α] {m : SortedMap κ α} {a : α} {k : κ}

/-- All keys that hold a value are listed. -/
theorem mem_keysOf : k ∈ m.keysOf a ↔ m.get? k = some a := by
  simp only [keysOf, List.mem_map, List.mem_filter, decide_eq_true_eq]
  constructor
  · rintro ⟨⟨k', a'⟩, ⟨he, rfl⟩, rfl⟩
    exact mem_toList.1 he
  · exact fun hk => ⟨(k, a), ⟨mem_toList.2 hk, rfl⟩, rfl⟩

/-- The key found for a value is the least one that holds it. -/
theorem keyOf?_eq_some :
    m.keyOf? a = some k ↔ m.get? k = some a ∧ ∀ k', m.get? k' = some a → ¬ k' < k := by
  have h : ∀ l : List (κ × α), l.Pairwise (fun x y => x.1 < y.1) →
      ((l.find? (fun e => decide (e.2 = a))).map (·.1) = some k ↔
        (k, a) ∈ l ∧ ∀ k', (k', a) ∈ l → ¬ k' < k) := by
    intro l hl
    induction l with
    | nil => simp
    | cons head rest ih =>
      obtain ⟨hhead, hrest⟩ := List.pairwise_cons.1 hl
      obtain ⟨key, value⟩ := head
      by_cases hv : value = a
      · subst hv
        simp only [List.find?_cons, decide_true, Option.map_some, Option.some.injEq]
        constructor
        · rintro rfl
          refine ⟨List.mem_cons_self, fun k' hk' => ?_⟩
          rcases List.mem_cons.1 hk' with heq | hmem
          · cases heq
            exact Key.irrefl _
          · exact Key.asymm (hhead _ hmem)
        · rintro ⟨hk, hleast⟩
          rcases List.mem_cons.1 hk with heq | hmem
          · cases heq
            rfl
          · exact absurd (hhead _ hmem) (hleast key List.mem_cons_self)
      · have hne : ∀ k', (k', a) ≠ (key, value) := fun k' e => hv (Prod.mk.inj e).2.symm
        simp only [List.find?_cons, hv, decide_false, List.mem_cons, hne, false_or]
        exact ih hrest
  simp only [keyOf?, h m.toList m.sorted, mem_toList]

/-- No key is found for a value that the map does not hold. -/
theorem keyOf?_eq_none : m.keyOf? a = none ↔ ∀ k, m.get? k ≠ some a := by
  simp only [keyOf?, Option.map_eq_none_iff, List.find?_eq_none, decide_eq_true_eq, Prod.forall,
    mem_toList]
  exact ⟨fun h k hk => h k a hk rfl, fun h k b hb e => h k (e ▸ hb)⟩

end

end TensorGraph.SortedMap
