import TensorGraph.Proofs.Codec.Whole
import TensorGraph.Proofs.Results
import TensorGraph.Snapshot.Graph

/-!
# Lawful stored forms

A stored form is lawful when its reader undoes its writer wherever it accepts what was written, and
accepts nothing else than what can be written again. Which values can be read is part of the law:
`LawfulStored.Readable` is computed along with the instances, and comes down to the finiteness of
floats and the sizes of variables. `bind_ofJson_toJson` and `map_ofJson_toJson` take one field after
the other off the reader of a record.
-/

namespace TensorGraph

open Stored

/-- A type whose stored form determines the value. -/
class LawfulStored (α : Type) [Stored α] where
  /-- The values that are read from their stored form. -/
  Readable : α → Prop
  /-- A value is read from its stored form as it is, if it can be read. -/
  ofJson_toJson {a b : α} : ofJson (toJson a) = .ok b ↔ b = a ∧ Readable a
  /-- Whatever is read can be read. -/
  readable_of_ofJson {j : Json} {a : α} : ofJson j = .ok a → Readable a

namespace Snapshot

open LawfulStored Result

/-! ## Records -/

section

variable {α β : Type} [Stored α] [LawfulStored α]

/-- A reader goes on with a field that was written when the field can be read. -/
theorem bind_ofJson_toJson {a : α} {f : α → Except SnapshotError β} {b : β} :
    (ofJson (toJson a) >>= f) = .ok b ↔ Readable a ∧ f a = .ok b := by
  rw [bind_eq_ok]
  constructor
  · rintro ⟨a', ha, hb⟩
    obtain ⟨rfl, hread⟩ := ofJson_toJson.1 ha
    exact ⟨hread, hb⟩
  · rintro ⟨hread, hb⟩
    exact ⟨a, ofJson_toJson.2 ⟨rfl, hread⟩, hb⟩

/-- A function is applied to a field that was written when the field can be read. -/
theorem map_ofJson_toJson {a : α} {f : α → β} {b : β} :
    (ofJson (toJson a)).map f = .ok b ↔ b = f a ∧ Readable a := by
  rw [map_eq_ok]
  constructor
  · rintro ⟨a', ha, rfl⟩
    obtain ⟨rfl, hread⟩ := ofJson_toJson.1 ha
    exact ⟨rfl, hread⟩
  · rintro ⟨rfl, hread⟩
    exact ⟨a, ofJson_toJson.2 ⟨rfl, hread⟩, rfl⟩

/-- What a function is applied to when it has been read can be read. -/
theorem readable_of_map {j : Json} {f : α → β} {b : β} (h : (ofJson j).map f = .ok b) :
    ∃ a : α, Readable a ∧ f a = b := by
  obtain ⟨a, ha, hb⟩ := map_eq_ok.1 h
  exact ⟨a, readable_of_ofJson ha, hb⟩

end

/-! ## Names, numbers and strings -/

/-- A truth value can be read. -/
instance : LawfulStored Bool where
  Readable _ := True
  ofJson_toJson := by
    intro a b
    show Except.ok a = .ok b ↔ _
    rw [Except.ok.injEq, and_true, eq_comm]
  readable_of_ofJson _ := trivial

/-- A string can be read. -/
instance : LawfulStored String where
  Readable _ := True
  ofJson_toJson := by
    intro a b
    show Except.ok a = .ok b ↔ _
    rw [Except.ok.injEq, and_true, eq_comm]
  readable_of_ofJson _ := trivial

/-- A 64-bit number without a sign can be read. -/
instance : LawfulStored UInt64 where
  Readable _ := True
  ofJson_toJson := by
    intro a b
    have hread : (ofJson (toJson a) : Except SnapshotError UInt64) = .ok a := by
      show (if 0 ≤ (a.toNat : Int) then _ else _) = _
      rw [if_pos (Int.natCast_nonneg _), Int.toNat_natCast, UInt64.ofNat_toNat]
    rw [hread, Except.ok.injEq, and_true, eq_comm]
  readable_of_ofJson _ := trivial

/-- A 64-bit number with a sign can be read. -/
instance : LawfulStored Int64 where
  Readable _ := True
  ofJson_toJson := by
    intro a b
    have hread : (ofJson (toJson a) : Except SnapshotError Int64) = .ok a := by
      -- The reader checks the upper bound alone, and the type has it.
      have hlt : a.toInt < 9223372036854775808 := a.toInt_lt
      show (if a.toInt < 9223372036854775808 then Except.ok (Int64.ofInt a.toInt) else _) = _
      rw [if_pos hlt, Int64.ofInt_toInt]
    rw [hread, Except.ok.injEq, and_true, eq_comm]
  readable_of_ofJson _ := trivial

/-- A double-precision number can be read when it is finite. -/
instance : LawfulStored Binary64 where
  Readable x := x.isFinite = true
  ofJson_toJson := by
    intro a b
    show ofJson (Json.ofBinary64 a) = .ok b ↔ _
    unfold Json.ofBinary64
    split
    · next h =>
      show Except.ok a = .ok b ↔ _
      rw [Except.ok.injEq, and_iff_left h, eq_comm]
    · next h => exact iff_of_false (fun hnull => nomatch hnull) fun hb => h hb.2
  readable_of_ofJson := by
    intro j a h
    cases j with
    | real x =>
      obtain rfl := Except.ok.inj h
      exact x.finite
    | whole n =>
      -- A whole number may be rounded, but not to infinity.
      obtain rfl := Except.ok.inj h
      exact Binary64.isFinite_ofInt n.lower n.upper
    | null => cases h
    | bool _ => cases h
    | string _ => cases h
    | array _ => cases h
    | object _ => cases h

/-- An id can be read. -/
instance {kind : NodeKind} : LawfulStored (Id kind) where
  Readable _ := True
  ofJson_toJson := map_ofJson_toJson
  readable_of_ofJson _ := trivial

/-- One of some named values can be read when it is found by its name. -/
@[reducible]
def lawfulNamed {α : Type} [Stored α] {name : α → String} {ofName? : String → Option α}
    (hname : ∀ a, ofName? (name a) = some a) (hto : ∀ a : α, toJson a = .string (name a))
    (hof : ∀ j : Json, (ofJson j : Except SnapshotError α) = ofNamed ofName? j) :
    LawfulStored α where
  Readable _ := True
  ofJson_toJson := by
    intro a b
    rw [hto, hof, ofNamed_string (hname a), Except.ok.injEq, and_true, eq_comm]
  readable_of_ofJson _ := trivial

instance : LawfulStored AxisOrder := lawfulNamed AxisOrder.ofName?_name (fun _ => rfl) fun _ => rfl

instance : LawfulStored ElementType :=
  lawfulNamed ElementType.ofName?_name (fun _ => rfl) fun _ => rfl

instance : LawfulStored Attribute := lawfulNamed Attribute.ofName?_name (fun _ => rfl) fun _ => rfl

/-! ## Lists, sets and maps -/

section

variable {α : Type} [Stored α] [LawfulStored α]

/-- What may be missing can be read where its stored form is not null when it is there. -/
@[reducible]
def lawfulOption (hnull : ∀ a : α, toJson a ≠ .null) : LawfulStored (Option α) where
  Readable o := ∀ a ∈ o, Readable a
  ofJson_toJson := by
    intro o b
    cases o with
    | none =>
      show Except.ok none = .ok b ↔ _
      simp [eq_comm]
    | some a =>
      -- The stored form is not null, so it is read as a value.
      have hread : (ofJson (toJson a) : Except SnapshotError (Option α)) =
          (ofJson (toJson a) : Except SnapshotError α).map some := by
        generalize hj : toJson a = j
        cases j with
        | null => exact absurd hj (hnull a)
        | _ => rfl
      show ofJson (toJson a) = .ok b ↔ _
      rw [hread, map_ofJson_toJson]
      simp
  readable_of_ofJson := by
    intro j o h a ha
    obtain rfl := Option.mem_def.1 ha
    cases j with
    | null => cases h
    | _ =>
      obtain ⟨a', hread, ha'⟩ := readable_of_map h
      exact Option.some.inj ha' ▸ hread

instance : LawfulStored (Option String) := lawfulOption fun _ h => nomatch h

instance {kind : NodeKind} : LawfulStored (Option (Id kind)) := lawfulOption fun _ h => nomatch h

/-- A list can be read when its elements can. -/
instance : LawfulStored (List α) where
  Readable l := ∀ a ∈ l, Readable a
  ofJson_toJson := mapM_map_eq_ok ofJson_toJson
  readable_of_ofJson := by
    intro j l h a ha
    cases j with
    | array items =>
      obtain ⟨i, -, hi⟩ := exists_of_mem_mapM h ha
      exact readable_of_ofJson hi
    | null => cases h
    | bool _ => cases h
    | whole _ => cases h
    | real _ => cases h
    | string _ => cases h
    | object _ => cases h

variable {κ : Type}

/-- Reads the name and the value of one member of an object. -/
def readEntry (key? : String → Option κ) (member : String × Json) :
    Except SnapshotError (κ × α) := do
  let k ← expect (key? member.1)
  let a ← ofJson member.2
  pure (k, a)

/-- The entry of a map is read as it was written. -/
theorem readEntry_eq_ok {name : κ → String} {key? : String → Option κ}
    (hkey : ∀ k, key? (name k) = some k) {e e' : κ × α} :
    readEntry key? (name e.1, toJson e.2) = .ok e' ↔ e' = e ∧ Readable e.2 := by
  unfold readEntry
  rw [hkey]
  show (ofJson (toJson e.2) >>= fun a => pure (e.1, a)) = .ok e' ↔ _
  rw [bind_ofJson_toJson, and_comm]
  refine and_congr_left fun _ => ?_
  show Except.ok e = .ok e' ↔ _
  rw [Except.ok.injEq, eq_comm]

variable [DecidableEq κ] [Key κ]

/-- A set is read from the array of its members. -/
theorem ofSet_eq_ok [Stored κ] [LawfulStored κ] {s s' : SortedSet κ} :
    ofJson (toJson s) = .ok s' ↔ s' = s ∧ ∀ k ∈ s, Readable k := by
  show (ofJson (toJson s.toList)).map SortedSet.ofList = .ok s' ↔ _
  rw [map_ofJson_toJson, SortedSet.ofList_toList]
  exact and_congr_right fun _ => forall_congr' fun k => by rw [SortedSet.mem_toList]

/-- A set can be read when its members can. -/
instance [Stored κ] [LawfulStored κ] : LawfulStored (SortedSet κ) where
  Readable s := ∀ k ∈ s, Readable k
  ofJson_toJson := ofSet_eq_ok
  readable_of_ofJson := by
    intro j s h k hk
    obtain ⟨l, hl, rfl⟩ := readable_of_map h
    exact hl k (SortedSet.mem_ofList.1 hk)

omit [LawfulStored α] in
/-- An object is read as a map entry by entry. -/
theorem toMap_object (key? : String → Option κ) (members : List (String × Json)) :
    (toMap key? (.object members) : Except SnapshotError (SortedMap κ α)) =
      (members.mapM (readEntry key?)).map SortedMap.ofList := by
  show (members.mapM (readEntry key?) >>= fun entries => pure (SortedMap.ofList entries)) = _
  generalize (members.mapM (readEntry key?) : Except SnapshotError (List (κ × α))) = entries
  cases entries <;> rfl

/-- A map is read as it was written. -/
theorem toMap_ofMap {name : κ → String} {key? : String → Option κ}
    (hkey : ∀ k, key? (name k) = some k) {m m' : SortedMap κ α} :
    toMap key? (ofMap name m) = .ok m' ↔ m' = m ∧ ∀ k a, m.get? k = some a → Readable a := by
  have hreadable : (∀ e ∈ m.toList, Readable e.2) ↔ ∀ k a, m.get? k = some a → Readable a := by
    simp only [Prod.forall, SortedMap.mem_toList]
  rw [ofMap, toMap_object, map_eq_ok, ← hreadable]
  simp only [mapM_map_eq_ok (readEntry_eq_ok hkey)]
  constructor
  · rintro ⟨l, ⟨rfl, hread⟩, rfl⟩
    exact ⟨SortedMap.ofList_toList m, hread⟩
  · rintro ⟨rfl, hread⟩
    exact ⟨m'.toList, ⟨rfl, hread⟩, SortedMap.ofList_toList m'⟩

/-- What is read as a map holds values that can be read. -/
theorem readable_of_toMap {key? : String → Option κ} {j : Json} {m : SortedMap κ α}
    (h : toMap key? j = .ok m) {k : κ} {a : α} (ha : m.get? k = some a) : Readable a := by
  cases j with
  | object members =>
    -- A value of the map is the value of one of the members that were read.
    rw [toMap_object, map_eq_ok] at h
    obtain ⟨entries, hentries, rfl⟩ := h
    obtain ⟨member, -, hmember⟩ :=
      exists_of_mem_mapM hentries (SortedMap.mem_of_get?_ofList ha)
    obtain ⟨k', -, hvalue⟩ := bind_eq_ok.1 hmember
    obtain ⟨a', ha', hpair⟩ := bind_eq_ok.1 hvalue
    cases hpair
    exact readable_of_ofJson ha'
  | null => cases h
  | bool _ => cases h
  | whole _ => cases h
  | real _ => cases h
  | string _ => cases h
  | array _ => cases h

/-- A map from names can be read when its values can. -/
instance : LawfulStored (SortedMap String α) where
  Readable m := ∀ k a, m.get? k = some a → Readable a
  ofJson_toJson := toMap_ofMap fun _ => rfl
  readable_of_ofJson h _ _ ha := readable_of_toMap h ha

/-- A map from ids can be read when its values can. -/
instance {kind : NodeKind} : LawfulStored (SortedMap (Id kind) α) where
  Readable m := ∀ k a, m.get? k = some a → Readable a
  ofJson_toJson := toMap_ofMap idOfName?_idName
  readable_of_ofJson h _ _ ha := readable_of_toMap h ha

end

end Snapshot

end TensorGraph
