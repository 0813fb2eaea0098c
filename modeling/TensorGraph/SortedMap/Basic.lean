/-!
# Maps kept in key order

A `SortedMap` is an association list whose keys strictly increase. Equal contents are therefore
equal values, and walking a map in key order is reading its entries from left to right.
-/

namespace TensorGraph

/-- A type whose values can key a sorted map: a decidable strict total order. -/
class Key (κ : Type) extends LT κ where
  /-- Comparison can be decided. -/
  decidableLT : DecidableLT κ
  /-- No key precedes itself. -/
  irrefl : ∀ a : κ, ¬ a < a
  /-- The order is transitive. -/
  trans : ∀ {a b c : κ}, a < b → b < c → a < c
  /-- Of two different keys, one precedes the other. -/
  trichotomy : ∀ a b : κ, a < b ∨ a = b ∨ b < a

/-- Comparison of keys can be decided. -/
instance instDecidableLTKey {κ : Type} [Key κ] : DecidableLT κ := Key.decidableLT

/-- Strings are ordered by their code points. -/
instance : Key String where
  decidableLT := inferInstance
  irrefl := String.lt_irrefl
  trans := String.lt_trans
  trichotomy := Std.lt_trichotomy

namespace Key

variable {κ : Type} [Key κ] {a b : κ}

/-- A key is different from every key that it precedes. -/
theorem ne_of_lt (h : a < b) : a ≠ b := fun e => irrefl b (e ▸ h)

/-- Of two keys, at most one precedes the other. -/
theorem asymm (h : a < b) : ¬ b < a := fun h' => irrefl a (trans h h')

/-- Of two different keys, the one that does not precede follows. -/
theorem lt_of_not_lt (h : ¬ a < b) (hne : a ≠ b) : b < a :=
  ((trichotomy a b).resolve_left h).resolve_left hne

end Key

/-- A map as the list of its entries, with strictly increasing keys. -/
@[ext]
structure SortedMap (κ α : Type) [Key κ] where
  /-- The entries, by key. -/
  toList : List (κ × α)
  /-- Each key precedes all keys to its right. -/
  sorted : toList.Pairwise (fun x y => x.1 < y.1)

namespace SortedMap

variable {κ α : Type}

/-! ## Entry lists -/

/-- The value of the first entry for `k`. -/
def lookup [DecidableEq κ] (k : κ) : List (κ × α) → Option α
  | [] => none
  | (k', a) :: rest => if k = k' then some a else lookup k rest

/-- Puts an entry at its place by key, over an entry for the same key. -/
def insertEntry [DecidableEq κ] [Key κ] (k : κ) (a : α) : List (κ × α) → List (κ × α)
  | [] => [(k, a)]
  | (k', a') :: rest =>
    if k = k' then (k, a) :: rest
    else if k < k' then (k, a) :: (k', a') :: rest
    else (k', a') :: insertEntry k a rest

/-- An entry of the list after an insertion is the new one or an old one. -/
theorem mem_insertEntry [DecidableEq κ] [Key κ] {k : κ} {a : α} {e : κ × α} {l : List (κ × α)}
    (h : e ∈ insertEntry k a l) : e = (k, a) ∨ e ∈ l := by
  induction l with
  | nil => exact Or.inl (by simpa [insertEntry] using h)
  | cons head rest ih =>
    simp only [insertEntry] at h
    split at h
    · exact (List.mem_cons.1 h).imp id (List.mem_cons_of_mem _)
    split at h
    · exact List.mem_cons.1 h
    · rcases List.mem_cons.1 h with rfl | h
      · exact Or.inr List.mem_cons_self
      · exact (ih h).imp id (List.mem_cons_of_mem _)

/-- Insertion keeps the keys strictly increasing. -/
theorem pairwise_insertEntry [DecidableEq κ] [Key κ] (k : κ) (a : α) {l : List (κ × α)}
    (h : l.Pairwise (fun x y => x.1 < y.1)) :
    (insertEntry k a l).Pairwise (fun x y => x.1 < y.1) := by
  induction l with
  | nil => simp [insertEntry]
  | cons head rest ih =>
    obtain ⟨hhead, hrest⟩ := List.pairwise_cons.1 h
    simp only [insertEntry]
    split
    · next e => exact List.pairwise_cons.2 ⟨e ▸ hhead, hrest⟩
    split
    · next hlt =>
      refine List.pairwise_cons.2 ⟨fun e he => ?_, h⟩
      rcases List.mem_cons.1 he with rfl | he
      · exact hlt
      · exact Key.trans hlt (hhead e he)
    · next hne hlt =>
      refine List.pairwise_cons.2 ⟨fun e he => ?_, ih hrest⟩
      rcases mem_insertEntry he with rfl | he
      · exact Key.lt_of_not_lt hlt hne
      · exact hhead e he

/-! ## Maps -/

section

variable [Key κ]

/-- The map without entries. -/
def empty : SortedMap κ α := ⟨[], .nil⟩

instance : EmptyCollection (SortedMap κ α) := ⟨empty⟩

instance : Inhabited (SortedMap κ α) := ⟨empty⟩

instance [DecidableEq κ] [DecidableEq α] : DecidableEq (SortedMap κ α) :=
  fun m n => decidable_of_iff (m.toList = n.toList) SortedMap.ext_iff.symm

/-- The keys, in order. -/
def keys (m : SortedMap κ α) : List κ := m.toList.map (·.1)

/-- The values, in the order of their keys. -/
def values (m : SortedMap κ α) : List α := m.toList.map (·.2)

/-- The map with `f` applied to every value. -/
def map {β : Type} (f : α → β) (m : SortedMap κ α) : SortedMap κ β :=
  ⟨m.toList.map fun e => (e.1, f e.2), List.pairwise_map.2 m.sorted⟩

/-- Whether the map has no entry. -/
def isEmpty (m : SortedMap κ α) : Bool := m.toList.isEmpty

/-- The least key that holds the value `a`. -/
def keyOf? [DecidableEq α] (m : SortedMap κ α) (a : α) : Option κ :=
  (m.toList.find? (fun e => decide (e.2 = a))).map (·.1)

variable [DecidableEq κ]

/-- The value that the map holds under `k`. -/
def get? (m : SortedMap κ α) (k : κ) : Option α := lookup k m.toList

instance : Membership κ (SortedMap κ α) := ⟨fun m k => (m.get? k).isSome⟩

instance (m : SortedMap κ α) (k : κ) : Decidable (k ∈ m) :=
  inferInstanceAs (Decidable ((m.get? k).isSome = true))

/-- Sets the value under `k`. -/
def insert (m : SortedMap κ α) (k : κ) (a : α) : SortedMap κ α :=
  ⟨insertEntry k a m.toList, pairwise_insertEntry k a m.sorted⟩

/-- Drops the entry under `k`, if there is one. -/
def erase (m : SortedMap κ α) (k : κ) : SortedMap κ α :=
  ⟨m.toList.filter (fun e => decide (e.1 ≠ k)), m.sorted.filter _⟩

/-- The map of a list of entries. Of two entries for one key, the later one counts. -/
def ofList (entries : List (κ × α)) : SortedMap κ α :=
  entries.foldl (fun m e => m.insert e.1 e.2) ∅

end

end SortedMap

end TensorGraph
