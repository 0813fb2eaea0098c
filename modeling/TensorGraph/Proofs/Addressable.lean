import TensorGraph.Proofs.Reorder
import TensorGraph.Proofs.Results
import TensorGraph.Snapshot.Nodes

/-!
# Addressable variables

A variable is addressable when its shape goes with its order and its bytes can be counted in 64
bits, both as elements of its own type and as elements of four bytes, the size of the default type.
Everything that makes or changes a variable gives an addressable one: `create_eq_ok`,
`setElementType_eq_ok` and `Paired.reorder_eq_ok` say when the changes of size succeed, and
`restoreVariable_eq` says that a stored variable is read exactly when it is addressable, and which
check rejects it otherwise.

The bytes of an addressable variable are bounded by its volume, and its elements are counted from
left to right: `elementCount_eq_ok` and `byteCount_eq_ok` say when these counts exist.
-/

namespace TensorGraph.Variable

/-- The shape goes with the order, and its bytes can be counted whether an element takes four of
them or as many as its type asks for. -/
structure Addressable (v : Variable) : Prop where
  /-- There is one size for each axis. -/
  paired : v.Paired
  /-- The larger of the two numbers of bytes fits in 64 bits. -/
  fits : v.shape.volume * max 4 v.elementType.byteSize.toNat < UInt64.size

variable {v w : Variable} {id : VariableId} {shape : Shape} {order target : AxisOrder}
  {t : ElementType}

/-! ## Making and changing variables -/

/-- The check of the bytes gives their exact number. -/
theorem checkBytes_eq_ok {n : UInt64} :
    checkBytes shape t = .ok n ↔ shape.volume * t.byteSize.toNat = n.toNat := by
  rw [← Shape.byteCount?_eq_some, checkBytes]
  cases shape.byteCount? t <;> simp

/-- The check of the bytes fails when they cannot be counted, and names what it looked at. -/
theorem checkBytes_eq_error {e : GraphError} :
    checkBytes shape t = .error e ↔
      UInt64.size ≤ shape.volume * t.byteSize.toNat ∧ e = .sizeOverflow shape t := by
  rw [← Shape.byteCount?_eq_none, checkBytes]
  cases shape.byteCount? t <;> simp [eq_comm]

/-- What comes after the check of the bytes happens when they can be counted. -/
theorem map_checkBytes_eq_ok :
    (checkBytes shape t).map (fun _ => v) = .ok w ↔
      shape.volume * t.byteSize.toNat < UInt64.size ∧ w = v := by
  cases h : checkBytes shape t with
  | ok n =>
    have hlt : shape.volume * t.byteSize.toNat < UInt64.size :=
      checkBytes_eq_ok.1 h ▸ n.toNat_lt_size
    simp [Except.map, hlt, eq_comm]
  | error e =>
    have hge := (checkBytes_eq_error.1 h).1
    exact iff_of_false (by simp [Except.map]) fun hw => Nat.not_lt.2 hge hw.1

/-- A variable is created exactly from a shape that goes with the order and whose bytes can be
counted for the default type. -/
theorem create_eq_ok :
    create id shape order = .ok v ↔
      shape.length = order.rank ∧ shape.volume * 4 < UInt64.size ∧ v = { id, shape, order } := by
  rw [create]
  split
  · next h =>
    rw [map_checkBytes_eq_ok, and_iff_right h]
    rfl
  · next h => exact iff_of_false (by simp) fun hv => h hv.1

/-- A variable is not created from a shape that does not go with the order, and from one that does
if its bytes cannot be counted for the default type. -/
theorem create_eq_error {e : GraphError} :
    create id shape order = .error e ↔
      shape.length ≠ order.rank ∧ e = .axisCountMismatch order shape.length ∨
      shape.length = order.rank ∧ UInt64.size ≤ shape.volume * 4 ∧
        e = .sizeOverflow shape .float32 := by
  rw [create]
  split
  · next h =>
    rw [Result.map_eq_error, checkBytes_eq_error]
    simp only [ne_eq, h, not_true_eq_false, false_and, false_or, true_and]
    rfl
  · next h => simp [h, eq_comm]

/-- A variable that cannot be created has a shape that does not go with its order or has too many
elements. -/
theorem errorClass_of_create {e : GraphError} (he : create id shape order = .error e) :
    e.errorClass = .shapeInvariant := by
  rcases create_eq_error.1 he with ⟨-, rfl⟩ | ⟨-, -, rfl⟩
  · rfl
  · rfl

/-- The type of the elements is changed exactly when the bytes can be counted for the new one. -/
theorem setElementType_eq_ok :
    v.setElementType t = .ok w ↔
      v.shape.volume * t.byteSize.toNat < UInt64.size ∧ w = { v with elementType := t } :=
  map_checkBytes_eq_ok

/-- The type of the elements is not changed when the bytes cannot be counted for the new one. -/
theorem setElementType_eq_error {e : GraphError} :
    v.setElementType t = .error e ↔
      UInt64.size ≤ v.shape.volume * t.byteSize.toNat ∧ e = .sizeOverflow v.shape t := by
  rw [setElementType, Result.map_eq_error, checkBytes_eq_error]

/-- A created variable is addressable. -/
theorem Addressable.of_create (h : create id shape order = .ok v) : v.Addressable := by
  obtain ⟨hpaired, hfits, rfl⟩ := create_eq_ok.1 h
  exact ⟨hpaired, hfits⟩

/-- A variable with elements of another type is addressable. -/
theorem Addressable.of_setElementType (h : v.Addressable) (hw : v.setElementType t = .ok w) :
    w.Addressable := by
  obtain ⟨hfits, rfl⟩ := setElementType_eq_ok.1 hw
  refine ⟨h.paired, ?_⟩
  have hfour := lt_of_le_of_lt (Nat.mul_le_mul_left _ (Nat.le_max_left 4 _)) h.fits
  rcases max_cases 4 t.byteSize.toNat with ⟨hmax, -⟩ | ⟨hmax, -⟩
  · rwa [hmax]
  · rwa [hmax]

/-- A variable that is read in another order is addressable. -/
theorem Addressable.of_reorder (h : v.Addressable) (hw : v.reorder target = .ok w) :
    w.Addressable := by
  refine ⟨h.paired.of_reorder hw, ?_⟩
  rw [h.paired.volume_of_reorder hw]
  obtain ⟨-, rfl⟩ := h.paired.reorder_eq_ok.1 hw
  exact h.fits

/-- Only the shape, the order and the type of the elements make a variable addressable. -/
theorem Addressable.congr (h : v.Addressable) (hshape : w.shape = v.shape)
    (horder : w.order = v.order) (htype : w.elementType = v.elementType) : w.Addressable := by
  refine ⟨?_, ?_⟩
  · rw [Paired, hshape, horder]
    exact h.paired
  · rw [hshape, htype]
    exact h.fits

/-- The volume of an addressable variable fits in 64 bits four times and as often as its type asks
for. -/
theorem addressable_iff :
    v.Addressable ↔ v.Paired ∧ v.shape.volume * 4 < UInt64.size ∧
      v.shape.volume * v.elementType.byteSize.toNat < UInt64.size := by
  rw [← max_lt_iff, Nat.mul_max_mul_left]
  exact ⟨fun h => ⟨h.paired, h.fits⟩, fun h => ⟨h.1, h.2⟩⟩

/-- Addressability is decided by two products. -/
instance (v : Variable) : Decidable v.Addressable :=
  decidable_of_iff (v.shape.length = v.order.rank ∧ v.shape.volume * 4 < UInt64.size ∧
    v.shape.volume * v.elementType.byteSize.toNat < UInt64.size) addressable_iff.symm

/-! ## Reading stored variables -/

/-- The check that a stored variable does not pass, if there is one: the number of its sizes is
compared with its order first, then its bytes are counted with elements of the default type, and
then with elements of its own. -/
def rejection? (v : Variable) : Option GraphError :=
  if v.shape.length ≠ v.order.rank then some (.axisCountMismatch v.order v.shape.length)
  else if UInt64.size ≤ v.shape.volume * 4 then some (.sizeOverflow v.shape .float32)
  else if UInt64.size ≤ v.shape.volume * v.elementType.byteSize.toNat then
    some (.sizeOverflow v.shape v.elementType)
  else none

/-- The variables that pass every check are the addressable ones. -/
theorem rejection?_eq_none : v.rejection? = none ↔ v.Addressable := by
  rw [addressable_iff, Paired, rejection?]
  split_ifs with hrank hfour hown
  · exact iff_of_false (by simp) fun h => hrank h.1
  · exact iff_of_false (by simp) fun h => Nat.not_lt.2 hfour h.2.1
  · exact iff_of_false (by simp) fun h => Nat.not_lt.2 hown h.2.2
  · exact iff_of_true rfl ⟨not_not.1 hrank, Nat.not_le.1 hfour, Nat.not_le.1 hown⟩

/-- A stored variable comes back as it is, unless a check rejects it. -/
theorem restoreVariable_eq (v : Variable) :
    Snapshot.restoreVariable v =
      match v.rejection? with
      | none => .ok v
      | some e => .error (.impossible e) := by
  rw [Snapshot.restoreVariable, rejection?]
  split_ifs with hrank hfour hown
  · rw [create_eq_error.2 (Or.inl ⟨hrank, rfl⟩)]
    rfl
  · rw [create_eq_error.2 (Or.inr ⟨not_not.1 hrank, hfour, rfl⟩)]
    rfl
  · -- The variable is there with elements of four bytes, and is not given the type that was stored.
    have hset : ({ id := v.id, shape := v.shape, order := v.order } : Variable).setElementType
        v.elementType = .error (.sizeOverflow v.shape v.elementType) :=
      setElementType_eq_error.2 ⟨hown, rfl⟩
    rw [create_eq_ok.2 ⟨not_not.1 hrank, Nat.not_le.1 hfour, rfl⟩]
    simp only [bind, Except.bind, hset]
  · have hset : ({ id := v.id, shape := v.shape, order := v.order } : Variable).setElementType
        v.elementType =
          .ok { id := v.id, shape := v.shape, order := v.order, elementType := v.elementType } :=
      setElementType_eq_ok.2 ⟨Nat.not_le.1 hown, rfl⟩
    rw [create_eq_ok.2 ⟨not_not.1 hrank, Nat.not_le.1 hfour, rfl⟩]
    simp only [bind, Except.bind, hset]

/-- A stored variable is read exactly when it is addressable. -/
theorem restoreVariable_eq_ok :
    Snapshot.restoreVariable v = .ok w ↔ v.Addressable ∧ w = v := by
  rw [restoreVariable_eq, ← rejection?_eq_none]
  cases v.rejection? <;> simp [eq_comm]

/-! ## Counting elements and bytes -/

/-- The elements are counted when the sizes in front of the first zero are not too large. -/
theorem elementCount_eq_ok {n : UInt64} :
    v.elementCount = .ok n ↔ v.shape.leading.volume < UInt64.size ∧ v.shape.volume = n.toNat := by
  rw [← Shape.elementCount?_eq_some, elementCount]
  cases v.shape.elementCount? <;> simp

/-- The count of the elements fails when the sizes in front of the first zero are too large. -/
theorem elementCount_eq_error {f : Fault} :
    v.elementCount = .error f ↔
      UInt64.size ≤ v.shape.leading.volume ∧ f = .productTooLarge := by
  rw [← Shape.elementCount?_eq_none, elementCount]
  cases v.shape.elementCount? <;> simp [eq_comm]

/-- The bytes are counted when the elements are and the number of bytes fits. -/
theorem byteCount_eq_ok {n : UInt64} :
    v.byteCount = .ok n ↔ v.shape.leading.volume < UInt64.size ∧
      v.shape.volume * v.elementType.byteSize.toNat = n.toNat := by
  have hbind : v.shape.elementCount?.bind (Count.mul? · v.elementType.byteSize) = some n ↔
      v.shape.leading.volume < UInt64.size ∧
        v.shape.volume * v.elementType.byteSize.toNat = n.toNat := by
    simp only [Option.bind_eq_some_iff, Shape.elementCount?_eq_some, Count.mul?_eq_some]
    constructor
    · rintro ⟨m, ⟨hlead, hm⟩, hn⟩
      exact ⟨hlead, hm ▸ hn⟩
    · rintro ⟨hlead, hn⟩
      obtain ⟨m, hm⟩ := Count.exists_toNat_eq (Shape.volume_lt_of_leading hlead)
      exact ⟨m, ⟨hlead, hm.symm⟩, hm.symm ▸ hn⟩
  rw [← hbind, byteCount]
  cases v.shape.elementCount?.bind (Count.mul? · v.elementType.byteSize) <;> simp

/-- The elements are counted exactly, or not at all. -/
theorem elementCount_eq (v : Variable) :
    v.elementCount =
      if v.shape.leading.volume < UInt64.size then .ok (.ofNat v.shape.volume)
      else .error .productTooLarge := by
  split
  · next h =>
    exact elementCount_eq_ok.2
      ⟨h, (UInt64.toNat_ofNat_of_lt' (Shape.volume_lt_of_leading h)).symm⟩
  · next h => exact elementCount_eq_error.2 ⟨Nat.le_of_not_lt h, rfl⟩

/-- The bytes of an addressable variable are not counted when its elements are not. -/
theorem Addressable.byteCount_eq_error (h : v.Addressable) {f : Fault} :
    v.byteCount = .error f ↔ UInt64.size ≤ v.shape.leading.volume ∧ f = .productTooLarge := by
  cases hc : v.byteCount with
  | ok n =>
    have hlead := (byteCount_eq_ok.1 hc).1
    exact iff_of_false (by simp) fun hf => Nat.not_lt.2 hf.1 hlead
  | error f' =>
    have hf' : f' = .productTooLarge := by
      rw [byteCount] at hc
      split at hc <;> simp_all
    -- The number of bytes fits, so that only the count of the elements can be what is missing.
    have hge : UInt64.size ≤ v.shape.leading.volume := by
      refine Nat.le_of_not_lt fun hlead => ?_
      obtain ⟨m, hm⟩ := Count.exists_toNat_eq (addressable_iff.1 h).2.2
      rw [byteCount_eq_ok.2 ⟨hlead, hm.symm⟩] at hc
      cases hc
    simp [hf', hge, eq_comm]

/-- The bytes of an addressable variable are counted exactly, or not at all. -/
theorem Addressable.byteCount_eq (h : v.Addressable) :
    v.byteCount =
      if v.shape.leading.volume < UInt64.size then
        .ok (.ofNat (v.shape.volume * v.elementType.byteSize.toNat))
      else .error .productTooLarge := by
  have hown := UInt64.toNat_ofNat_of_lt' (addressable_iff.1 h).2.2
  split
  · next hlead => exact byteCount_eq_ok.2 ⟨hlead, hown.symm⟩
  · next hlead => exact h.byteCount_eq_error.2 ⟨Nat.le_of_not_lt hlead, rfl⟩

end TensorGraph.Variable
