import TensorGraph.SortedMap.Lemmas

/-!
# Sets kept in order

A `SortedSet` is the key set of a sorted map, so that equal members are equal values here too.
-/

namespace TensorGraph

/-- A set of keys, each held at most once and listed in order. -/
@[ext]
structure SortedSet (κ : Type) [Key κ] where
  /-- The members, as the keys of a map without information. -/
  members : SortedMap κ Unit

namespace SortedSet

variable {κ : Type} [Key κ]

/-- The set without members. -/
def empty : SortedSet κ := ⟨∅⟩

instance : EmptyCollection (SortedSet κ) := ⟨empty⟩

instance : Inhabited (SortedSet κ) := ⟨empty⟩

/-- The members, in order. -/
def toList (s : SortedSet κ) : List κ := s.members.keys

/-- Whether the set has no member. -/
def isEmpty (s : SortedSet κ) : Bool := s.members.isEmpty

variable [DecidableEq κ]

instance : DecidableEq (SortedSet κ) :=
  fun s t => decidable_of_iff (s.members = t.members) SortedSet.ext_iff.symm

instance : Membership κ (SortedSet κ) := ⟨fun s k => k ∈ s.members⟩

instance (s : SortedSet κ) (k : κ) : Decidable (k ∈ s) :=
  inferInstanceAs (Decidable (k ∈ s.members))

/-- The set with `k`. -/
def insert (s : SortedSet κ) (k : κ) : SortedSet κ := ⟨s.members.insert k ()⟩

/-- The set without `k`. -/
def erase (s : SortedSet κ) (k : κ) : SortedSet κ := ⟨s.members.erase k⟩

/-- The set of the members of a list. -/
def ofList (l : List κ) : SortedSet κ := l.foldl insert ∅

/-- Membership is having an entry. -/
theorem mem_iff {s : SortedSet κ} {k : κ} : k ∈ s ↔ s.members.get? k = some () := by
  change (s.members.get? k).isSome = true ↔ _
  cases s.members.get? k <;> simp

/-- Nothing is a member of the empty set. -/
@[simp]
theorem not_mem_empty (k : κ) : k ∉ (∅ : SortedSet κ) := fun h => nomatch mem_iff.1 h

/-- The members after an insertion are the new one and the old ones. -/
@[simp]
theorem mem_insert {s : SortedSet κ} {k k' : κ} : k' ∈ s.insert k ↔ k' = k ∨ k' ∈ s := by
  simp only [mem_iff, insert, SortedMap.get?_insert]
  split <;> simp_all

/-- The members after an erasure are the old ones but the erased one. -/
@[simp]
theorem mem_erase {s : SortedSet κ} {k k' : κ} : k' ∈ s.erase k ↔ k' ≠ k ∧ k' ∈ s := by
  simp only [mem_iff, erase, SortedMap.get?_erase]
  split <;> simp_all

/-- The list of a set holds its members. -/
@[simp]
theorem mem_toList {s : SortedSet κ} {k : κ} : k ∈ s.toList ↔ k ∈ s := by
  rw [toList, SortedMap.mem_keys, mem_iff]
  exact ⟨fun ⟨(), h⟩ => h, fun h => ⟨(), h⟩⟩

/-- A set without members is empty. -/
theorem isEmpty_iff {s : SortedSet κ} : s.isEmpty = true ↔ ∀ k, k ∉ s := by
  have hlist : s.isEmpty = true ↔ s.toList = [] := by
    simp [isEmpty, SortedMap.isEmpty, toList, SortedMap.keys]
  rw [hlist, List.eq_nil_iff_forall_not_mem]
  exact forall_congr' fun k => not_congr mem_toList

/-- Sets with the same members are equal. -/
theorem ext_mem {s t : SortedSet κ} (h : ∀ k, k ∈ s ↔ k ∈ t) : s = t := by
  refine SortedSet.ext (SortedMap.ext_get? fun k => Option.ext fun u => ?_)
  have := h k
  rwa [mem_iff, mem_iff] at this

/-- Putting in what is a member already changes nothing. -/
theorem insert_of_mem {s : SortedSet κ} {k : κ} (h : k ∈ s) : s.insert k = s :=
  SortedSet.ext (SortedMap.insert_of_get? (mem_iff.1 h))

/-- Dropping what is not a member changes nothing. -/
theorem erase_of_not_mem {s : SortedSet κ} {k : κ} (h : k ∉ s) : s.erase k = s := by
  refine ext_mem fun k' => ?_
  rw [mem_erase]
  refine and_iff_right_of_imp fun hk' => ?_
  rintro rfl
  exact h hk'

/-- Members can be put in in either order. -/
theorem insert_comm (s : SortedSet κ) (k k' : κ) :
    (s.insert k).insert k' = (s.insert k').insert k :=
  ext_mem fun x => by rw [mem_insert, mem_insert, mem_insert, mem_insert, or_left_comm]

/-- Members can be dropped in either order. -/
theorem erase_comm (s : SortedSet κ) (k k' : κ) : (s.erase k).erase k' = (s.erase k').erase k :=
  ext_mem fun x => by rw [mem_erase, mem_erase, mem_erase, mem_erase, and_left_comm]

/-- An insertion makes up for an erasure. -/
theorem insert_erase (s : SortedSet κ) (k : κ) : (s.erase k).insert k = s.insert k :=
  SortedSet.ext (SortedMap.insert_erase s.members k ())

/-- An erasure makes up for an insertion of what was not a member. -/
theorem erase_insert {s : SortedSet κ} {k : κ} (h : k ∉ s) : (s.insert k).erase k = s := by
  have hsame : (s.insert k).erase k = s.erase k :=
    SortedSet.ext (SortedMap.erase_insert s.members k ())
  rw [hsame, erase_of_not_mem h]

/-- Dropping a member again changes nothing more. -/
theorem erase_erase (s : SortedSet κ) (k : κ) : (s.erase k).erase k = s.erase k :=
  erase_of_not_mem fun h => (mem_erase.1 h).1 rfl

/-- The members of the set of a list are those of the list. -/
@[simp]
theorem mem_ofList {l : List κ} {k : κ} : k ∈ ofList l ↔ k ∈ l := by
  have h : ∀ s : SortedSet κ, k ∈ l.foldl insert s ↔ k ∈ l ∨ k ∈ s := by
    induction l with
    | nil => simp
    | cons head rest ih =>
      intro s
      rw [List.foldl_cons, ih, mem_insert, List.mem_cons, or_assoc, or_left_comm]
  rw [ofList, h, or_iff_left (not_mem_empty k)]

/-- A set is the set of its members. -/
@[simp]
theorem ofList_toList (s : SortedSet κ) : ofList s.toList = s :=
  ext_mem fun k => by simp

end SortedSet

end TensorGraph
